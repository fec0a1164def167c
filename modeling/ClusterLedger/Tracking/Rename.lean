import ClusterLedger.Tracking.ResourceMap

/-!
Rename detection. A tracked resource is looked up by its ID in the live directory; one that is not
tracked is looked up by name and adopted. The map changes only when the directory says that a tracked
ID is gone.
-/

namespace ClusterLedger

structure LiveResource where
  kind : ResourceKind
  id : String
  name : String
  deriving DecidableEq, Repr

def LiveResource.check (requested : ResourceKind) (fields : Fields) : Checked LiveResource :=
  LiveResource.mk
    <$> Field.withDefault requested fields "kind" (Field.choice ResourceKind.choices)
    <*> Field.required fields "id" Field.text
    <*> Field.required fields "name" Field.text

inductive Lookup where
  | byId (kind : ResourceKind) (id org : String)
  | byName (kind : ResourceKind) (name org : String)
  deriving DecidableEq, Repr

abbrev Directory := Lookup → Except Failure LiveResource

inductive Listing where
  | live (fields : Fields)
  | failing (failure : Failure)

/-- A directory given by tables; what they do not list is not found. -/
structure DirectoryTables where
  byId : List (String × Listing)
  byName : List (String × Listing)

def Listing.answer (kind : ResourceKind) : Listing → Except Failure LiveResource
  | live fields => (LiveResource.check kind fields).toExcept
  | failing failure => .error failure

def DirectoryTables.directory (t : DirectoryTables) : Directory
  | .byId kind id _ =>
    match Assoc.find? id t.byId with
    | some listing => listing.answer kind
    | none => .error (.fault (Fault.notFound kind.name none none (some id) none))
  | .byName kind name _ =>
    match Assoc.find? name t.byName with
    | some listing => listing.answer kind
    | none => .error (.fault (Fault.notFound kind.name (some (.text name)) none none none))

structure RenameCheck where
  renamed : Bool
  resource : LiveResource
  /-- No ID was tracked, and the resource was found by name. -/
  adopted : Bool
  deriving DecidableEq, Repr

namespace RenameCheck

def newName (c : RenameCheck) : String := c.resource.name

end RenameCheck

structure Detection where
  result : Except Failure RenameCheck
  map : ResourceMap
  lookups : List Lookup
  events : List Event

def Failure.isNotFound : Failure → Bool
  | .fault ⟨.notFound .., _⟩ => true
  | _ => false

def lastKnownName (specName : String) (statusName : Option String) : String :=
  match statusName with
  | some name => if name = "" then specName else name
  | none => specName

namespace ResourceMap

def adopt (m : ResourceMap) (directory : Directory) (kind : ResourceKind) (org name : String) :
    Detection :=
  let lookup := Lookup.byName kind name org
  match directory lookup with
  | .ok live => ⟨.ok ⟨true, live, true⟩, m, [lookup], [.adopting kind.name name live.id]⟩
  | .error failure =>
    let context : Context :=
      { operation := some "detect_rename", kind := some kind.name, name := some (.text name) }
    ⟨.error (failure.withContext context), m, [lookup], []⟩

def recheck (m : ResourceMap) (directory : Directory) (kind : ResourceKind)
    (org specName name id : String) : Detection :=
  let lookup := Lookup.byId kind id org
  match directory lookup with
  | .ok live => ⟨.ok ⟨live.name ≠ specName, live, false⟩, m, [lookup], []⟩
  | .error failure =>
    let context : Context :=
      { operation := some "detect_rename", kind := some kind.name, id := some id,
        name := some (.text name) }
    let failed := failure.withContext context
    if failure.isNotFound then
      let (m, events) := m.drop kind id
      ⟨.error failed, m, [lookup], .vanished kind.name id name :: events⟩
    else ⟨.error failed, m, [lookup], []⟩

def detectRename (m : ResourceMap) (directory : Directory) (kind : Value) (org specName : String)
    (statusName : Option String) : Detection :=
  match ResourceKind.parseFor "detect_rename" kind with
  | .error failure => ⟨.error failure, m, [], []⟩
  | .ok kind =>
    let name := lastKnownName specName statusName
    match m.idOf? kind name with
    | none => m.adopt directory kind org name
    | some id => m.recheck directory kind org specName name id

end ResourceMap
end ClusterLedger
