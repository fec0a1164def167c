import ClusterLedger.Document.OfValue
import ClusterLedger.Event
import ClusterLedger.Redaction
import ClusterLedger.Resource
import ClusterLedger.Yaml.Stream

/-!
Projections of documents. The spec half of a document keeps the desired configuration and drops the
status, the status half the other way round. Both are redacted, and metadata in its legacy shape is
folded into the current one, before the document is written as YAML.
-/

namespace ClusterLedger

inductive Half where
  | spec | status
  deriving DecidableEq, Repr

namespace Half

def name : Half → String
  | spec => "spec"
  | status => "status"

def dropped : Half → String
  | spec => "status"
  | status => "spec"

def ofValue (v : Value) : Except Failure Half :=
  match v with
  | .text "spec" => .ok spec
  | .text "status" => .ok status
  | v => .error (.badValue (.unknownProjection v.literal))

end Half

namespace Document

def retainedKeys : List String := ["name", "namespace"]

def foldTypeMeta (d : Document) : Except Failure Document := do
  match ← d.get "typemeta" with
  | none => return d
  | some part =>
    if part.isMapping then (← d.merged part).without "typemeta"
    else throw (.malformed (.partNotMapping "typemeta" part.kind))

/-- Puts name and namespace of `objectmeta` in place of the metadata, if the document has that key. -/
def foldObjectMeta (d : Document) : Except Failure Document := do
  match ← d.get "objectmeta" with
  | none => return d
  | some (mapping entries) =>
    let retained := entries.filter fun entry => retainedKeys.contains entry.1
    (← d.withEntry "metadata" (mapping retained)).without "objectmeta"
  | some part => throw (.malformed (.partNotMapping "objectmeta" part.kind))

def requireMapping (d : Document) : Except Failure Unit :=
  if d.isMapping then .ok () else .error (.malformed (.rootNotMapping d.kind))

def normalized (d : Document) : Except Failure Document := do
  d.requireMapping
  (← d.foldTypeMeta).foldObjectMeta

def projected (rule : RedactionRule) (half : Half) (d : Document) : Except Failure Document := do
  let d := rule.apply d
  d.requireMapping
  (← d.without half.dropped).normalized

end Document

def projectValue (rule : RedactionRule) (half : Half) (v : Value) : Except Failure String := do
  let d ← Document.ofValue v
  return Yaml.serialize (← d.projected rule half)

namespace Value

def entries? : Value → Option (List (Value × Value))
  | map entries => some entries
  | document d =>
    match d.toValue with
    | map entries => some entries
    | _ => none
  | _ => none

def asText? : Value → Option String
  | text s => some s
  | _ => none

def entryIn? (part key : String) (entries : List (Value × Value)) : Option Value :=
  match lookup part entries with
  | some (map inner) => lookup key inner
  | _ => none

def describedKind (v : Value) : Option String := do
  let entries ← v.entries?
  match (lookup "kind" entries).bind toOption with
  | some kind => kind.asText?
  | none => (← entryIn? "typemeta" "kind" entries).asText?

def describedName (v : Value) : Option String := do
  let entries ← v.entries?
  ((entryIn? "metadata" "name" entries).bind asText?).or
    ((entryIn? "objectmeta" "name" entries).bind asText?)

end Value

/-- What an error in the value at a position is about; without a name the position stands for it. -/
def projectionContext (half : Half) (index : Nat) (v : Value) : Context where
  operation := some (half.name ++ "_projection")
  kind := v.describedKind
  name := some (.text (fill (· ≠ "") v.describedName (some s!"document[{index}]") |>.getD ""))

/-- The texts of a list of values, from a position on; the first failure is the failure of all. -/
def projectFrom (rule : RedactionRule) (half : Half) : Nat → List Value → Except Failure (List String)
  | _, [] => .ok []
  | index, v :: rest => do
    let first ← (projectValue rule half v).mapError fun failure =>
      failure.withContext (projectionContext half index v)
    let others ← projectFrom rule half (index + 1) rest
    return first :: others

def documentSeparator : String := "---\n"

def projectAll (rule : RedactionRule) (half : Half) (values : List Value) : Except Failure String :=
  (projectFrom rule half 0 values).map documentSeparator.intercalate

namespace Document

def plainMapping (v : Value) : Except Failure (List (Value × Value)) :=
  match v with
  | .map entries => .ok entries
  | .resource entries => .ok (Resource.plainEntries entries)
  | .convertible (.map entries) => .ok entries
  | v => .error (.malformed (.noPlainForm v.typeName))

end Document
end ClusterLedger
