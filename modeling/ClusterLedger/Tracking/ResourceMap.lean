import ClusterLedger.Event
import ClusterLedger.Record.Field

/-!
The resources that a cluster tracks: immutable IDs with last known names, grouped by kind. A map is
valid when every entry is filed under its own kind and no ID occurs twice within a kind.
-/

namespace ClusterLedger

inductive ResourceKind where
  | org | ovdc | catalog
  deriving DecidableEq, Repr

namespace ResourceKind

def name : ResourceKind → String
  | org => "org"
  | ovdc => "ovdc"
  | catalog => "catalog"

def choices : List (String × ResourceKind) := [("org", org), ("ovdc", ovdc), ("catalog", catalog)]

def named? : Value → Option ResourceKind
  | .text s => Assoc.find? s choices
  | _ => none

def parse (v : Value) : Except Failure ResourceKind :=
  match named? v with
  | some kind => .ok kind
  | none => .error (.misconfigured (.unsupportedKind v.shown) { kind := some v.shown })

def isWired : ResourceKind → Bool
  | ovdc => true
  | _ => false

def parseFor (operation : String) (v : Value) : Except Failure ResourceKind := do
  let kind ← parse v
  if kind.isWired then return kind
  else
    throw (.ofCause
      (.unimplemented s!"{operation} is not implemented for resource type {kind.name}")
      { operation := some operation, kind := some kind.name })

end ResourceKind

structure TrackedResource where
  kind : ResourceKind
  id : String
  name : String
  deriving DecidableEq, Repr

def TrackedResource.check (fields : Fields) : Checked TrackedResource :=
  TrackedResource.mk
    <$> Field.required fields "kind" (Field.choice ResourceKind.choices)
    <*> Field.required fields "id" Field.nonemptyText
    <*> Field.required fields "name" Field.text

structure ResourceMap where
  groups : List (ResourceKind × List TrackedResource)
  deriving DecidableEq, Repr

namespace ResourceMap

def empty : ResourceMap := ⟨[]⟩

/-- The first entry that is filed under a wrong kind or whose ID was seen before. -/
def checkGroup (kind : ResourceKind) (seen : List String) : List TrackedResource → Except Failure Unit
  | [] => .ok ()
  | entry :: rest =>
    let context : Context := { kind := some kind.name, id := some entry.id }
    if entry.kind ≠ kind then
      .error (.misconfigured (.misfiled entry.kind.name entry.id kind.name) context)
    else if entry.id ∈ seen then .error (.misconfigured (.duplicateId kind.name entry.id) context)
    else checkGroup kind (entry.id :: seen) rest

def checkGroups : List (ResourceKind × List TrackedResource) → Except Failure Unit
  | [] => .ok ()
  | (kind, entries) :: rest => do
    checkGroup kind [] entries
    checkGroups rest

def ofGroups (groups : List (ResourceKind × List TrackedResource)) : Except Failure ResourceMap := do
  checkGroups groups
  return ⟨groups⟩

def ofValue (v : Value) : Except Failure ResourceMap := do
  let groups ← ((Field.mapping (Field.choice ResourceKind.choices)
    (Field.list (Field.record TrackedResource.check)) v).under "resources").toExcept
  ofGroups groups

def entries (m : ResourceMap) (kind : ResourceKind) : List TrackedResource :=
  (Assoc.find? kind m.groups).getD []

def withEntries (m : ResourceMap) (kind : ResourceKind) (entries : List TrackedResource) : ResourceMap :=
  ⟨Assoc.set kind entries m.groups⟩

def nameOf? (m : ResourceMap) (kind : ResourceKind) (id : String) : Option String :=
  ((m.entries kind).find? fun entry => entry.id = id).map (·.name)

/-- The ID of the last entry with a name. -/
def idOf? (m : ResourceMap) (kind : ResourceKind) (name : String) : Option String :=
  (((m.entries kind).filter fun entry => entry.name = name).getLast?).map (·.id)

/-- Adds an ID, or changes its name where it is; an ID must not be empty. -/
def put (m : ResourceMap) (kind : ResourceKind) (id name : String) :
    Except Failure (ResourceMap × List Event) :=
  match m.nameOf? kind id with
  | none =>
    if id = "" then .error (.invalid [⟨["id"], .tooShort⟩])
    else .ok (m.withEntries kind (m.entries kind ++ [⟨kind, id, name⟩]), [.tracking kind.name id name])
  | some old =>
    if old = name then .ok (m, [])
    else
      let entries := (m.entries kind).map fun entry =>
        if entry.id = id then { entry with name } else entry
      .ok (m.withEntries kind entries, [.renamed kind.name id old name])

def drop (m : ResourceMap) (kind : ResourceKind) (id : String) : ResourceMap × List Event :=
  if (m.entries kind).any fun entry => entry.id = id then
    (m.withEntries kind ((m.entries kind).filter fun entry => entry.id ≠ id),
      [.stoppedTracking kind.name id])
  else (m, [])

/-! The operations by the tag of a kind. -/

def find (m : ResourceMap) (kind : Value) (id : String) : Except Failure (Option String) := do
  return m.nameOf? (← ResourceKind.parseFor "find" kind) id

def findId (m : ResourceMap) (kind : Value) (name : String) : Except Failure (Option String) := do
  return m.idOf? (← ResourceKind.parseFor "find" kind) name

def upsert (m : ResourceMap) (kind : Value) (id name : String) :
    Except Failure (ResourceMap × List Event) := do
  m.put (← ResourceKind.parseFor "upsert" kind) id name

def upsertRaw (m : ResourceMap) (kind id name : Value) : Except Failure (ResourceMap × List Event) := do
  let kind ← ResourceKind.parseFor "upsert" kind
  let entry ← (TrackedResource.check (Field.ofList [("kind", .text kind.name), ("id", id),
    ("name", name)])).toExcept
  m.put kind entry.id entry.name

def remove (m : ResourceMap) (kind : Value) (id : String) :
    Except Failure (ResourceMap × List Event) := do
  return m.drop (← ResourceKind.parseFor "remove" kind) id

def entriesOf (m : ResourceMap) (kind : Value) : Except Failure (List TrackedResource) := do
  return m.entries (← ResourceKind.parse kind)

def record (m : ResourceMap) : List (String × List (String × String)) :=
  m.groups.map fun (kind, entries) => (kind.name ++ "s", entries.map fun entry => (entry.id, entry.name))

end ResourceMap
end ClusterLedger
