import ClusterLedger.Record.Field
import ClusterLedger.Resource

namespace ClusterLedger

structure ObjectReference where
  name : String
  ns : Option String
  kind : Option String
  apiVersion : Option String
  deriving DecidableEq, Repr

namespace ObjectReference

def check (fields : Fields) : Checked ObjectReference :=
  ObjectReference.mk
    <$> Field.required fields "name" Field.text
    <*> Field.withDefault none fields "namespace" (Field.optional Field.text)
    <*> Field.withDefault none fields "kind" (Field.optional Field.text)
    <*> Field.withDefault none fields "api_version" (Field.optional Field.text)

theorem check_of (name ns kind apiVersion : Value) :
    check (Field.ofList [("name", name), ("namespace", ns), ("kind", kind), ("api_version", apiVersion)]) =
      (ObjectReference.mk <$> (Field.text name).under "name"
        <*> (Field.optional Field.text ns).under "namespace"
        <*> (Field.optional Field.text kind).under "kind"
        <*> (Field.optional Field.text apiVersion).under "api_version") := rfl

def read (v : Value) (defaultNamespace : Value) (guise : Guise := .client) :
    Except Failure ObjectReference := do
  let name ← Resource.get v "name" guise
  let ns ← Resource.get v "namespace" guise
  let kind ← Resource.get v "kind" guise
  let apiVersion ← Resource.get v "apiVersion" guise
  (check (Field.ofList [("name", name), ("namespace", guise.orElse ns defaultNamespace),
    ("kind", kind), ("api_version", apiVersion)])).toExcept

end ObjectReference

structure OwnerReference where
  apiVersion : Option String
  kind : String
  name : String
  uid : Option String
  controller : Bool
  deriving DecidableEq, Repr

namespace OwnerReference

def check (fields : Fields) : Checked OwnerReference :=
  OwnerReference.mk
    <$> Field.withDefault none fields "api_version" (Field.optional Field.text)
    <*> Field.required fields "kind" Field.text
    <*> Field.required fields "name" Field.text
    <*> Field.withDefault none fields "uid" (Field.optional Field.text)
    <*> Field.withDefault false fields "controller" Field.truth

def read (v : Value) (guise : Guise := .client) : Except Failure OwnerReference := do
  let apiVersion ← Resource.get v "apiVersion" guise
  let kind ← Resource.get v "kind" guise
  let name ← Resource.get v "name" guise
  let uid ← Resource.get v "uid" guise
  let controller ← Resource.getOr v "controller" (.bool false) guise
  (check (Field.ofList [("api_version", apiVersion), ("kind", kind), ("name", name), ("uid", uid),
    ("controller", .bool (guise.counts controller))])).toExcept

end OwnerReference
end ClusterLedger
