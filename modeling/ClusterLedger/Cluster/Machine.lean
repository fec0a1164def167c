import ClusterLedger.Cluster.Reference

namespace ClusterLedger

structure Machine where
  name : String
  ns : Option String
  /-- The phase of its life; empty while none is reported. -/
  phase : String
  /-- The declared version, if there is one. -/
  version : Option String
  owners : List OwnerReference
  deriving DecidableEq, Repr

namespace Machine

def isOwnedBy (m : Machine) (kind name : String) : Bool :=
  m.owners.any fun owner => owner.kind = kind && owner.name = name

def readOwners (members : List Value) (guise : Guise := .client) : Except Failure (List OwnerReference) :=
  match members with
  | [] => .ok []
  | v :: rest => do
    let owner ← OwnerReference.read v guise
    return owner :: (← readOwners rest guise)

def check (fields : Fields) (owners : List OwnerReference) : Checked Machine :=
  Machine.mk
    <$> Field.required fields "name" Field.text
    <*> Field.withDefault none fields "namespace" (Field.optional Field.text)
    <*> Field.withDefault "" fields "phase" Field.text
    <*> Field.withDefault none fields "version" (Field.optional Field.text)
    <*> .accepted owners

def ofResource (resource : Value) (guise : Guise := .client) : Except Failure Machine := do
  let metadata ← Resource.field resource "metadata"
  let spec := Resource.part resource "spec"
  let status := Resource.part resource "status"
  let name ← Resource.field metadata "name"
  let ownerRefs ← Resource.field metadata "ownerReferences"
  let ns ← Resource.field metadata "namespace"
  let phase ← Resource.get status "phase" guise
  let version ← Resource.get spec "version" guise
  let members ← if guise.counts ownerRefs then Resource.elements ownerRefs guise else pure []
  let owners ← readOwners members guise
  (check (Field.ofList [("name", name), ("namespace", ns),
    ("phase", guise.orElse phase (.text "")), ("version", version)]) owners).toExcept

end Machine
end ClusterLedger
