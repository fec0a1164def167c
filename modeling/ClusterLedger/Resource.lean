import ClusterLedger.Document.Access

/-!
Objects of the API server, read field by field. A missing field is null, and a value without fields
cannot be asked for one.
-/

namespace ClusterLedger

/--
What objects are given as: by the client of the API server, where an object counts as something even when
it is empty, or as plain stand-ins, which count as mappings do and whose entries never stand in the way.
-/
inductive Guise where
  | client
  | standIn
  deriving DecidableEq, Repr

/-- The field of this name stands in the way of asking an object of the client for its entries. -/
def Resource.obstructingField : String := "get"

namespace Guise

def counts : Guise → Value → Bool
  | standIn, .resource entries => !entries.isEmpty
  | _, v => v.truthy

def orElse (guise : Guise) (a b : Value) : Value := if guise.counts a then a else b

def obstructs (guise : Guise) (entries : List (Value × Value)) : Bool :=
  match guise with
  | client => (Value.lookup Resource.obstructingField entries).isSome
  | standIn => false

@[simp] theorem counts_client (v : Value) : client.counts v = v.truthy := rfl

@[simp] theorem orElse_client (a b : Value) : client.orElse a b = a.orElse b := rfl

@[simp] theorem obstructs_client (entries : List (Value × Value)) :
    client.obstructs entries = (Value.lookup Resource.obstructingField entries).isSome := rfl

/-- What is met where an object is gone through: entries, or keys alone. -/
def element (guise : Guise) (key value : Value) : Value :=
  match guise with
  | client => .tuple [key, value]
  | standIn => key

end Guise

namespace Resource

mutual

def ofPart : Value → Except Failure Value
  | .list items => (ofParts items).map .list
  | .tuple items => (ofParts items).map .list
  | .map entries => (ofEntries entries).map .resource
  | v => .ok v

def ofParts : List Value → Except Failure (List Value)
  | [] => .ok []
  | v :: rest => do
    let first ← ofPart v
    let others ← ofParts rest
    return first :: others

def ofEntries : List (Value × Value) → Except Failure (List (Value × Value))
  | [] => .ok []
  | (.text name, v) :: rest => do
    let part ← ofPart v
    let others ← ofEntries rest
    return (.text name, part) :: others
  | _ => .error .unfit

end

def addMissing (name : String) (v : Value) (entries : List (Value × Value)) : List (Value × Value) :=
  if (Value.lookup name entries).isSome then entries else entries ++ [(.text name, v)]

/-- An item of a list of objects with its type; the version of the list is only asked for if needed. -/
def typedItem (apiVersion : Except Failure Value) (kind : String) : Value → Except Failure Value
  | .map entries =>
    if (Value.lookup "apiVersion" entries).isSome then
      .ok (.map (addMissing "kind" (.text kind) entries))
    else
      apiVersion.map fun v =>
        .map (addMissing "kind" (.text kind) (entries ++ [(.text "apiVersion", v)]))
  | _ => .error .unfit

def elements (v : Value) (guise : Guise := .client) : Except Failure (List Value) :=
  match v with
  | .list items => .ok items
  | .tuple items => .ok items
  | .set items => .ok items
  | .map entries => .ok (entries.map (·.1))
  | .resource entries => .ok (entries.map fun (key, value) => guise.element key value)
  | .text s => .ok (s.toList.map fun c => .text (String.singleton c))
  | .bytes b => .ok (b.map fun n => .whole n.toNat)
  | _ => .error .unfit

def itemKind? (kind : String) : Option String :=
  let ending := "List".toList
  let cs := kind.toList
  if ending.isSuffixOf cs then some (String.ofList (cs.take (cs.length - ending.length))) else none

def withTypedItems (kind : String) (entries : List (Value × Value)) :
    Except Failure (List (Value × Value)) :=
  match itemKind? kind, Value.lookup "items" entries with
  | some kind, some items => do
    let apiVersion := ((Value.lookup "apiVersion" entries).map .ok).getD (.error .missingEntry)
    let items ← if items.truthy then elements items else pure []
    let items ← items.mapM (typedItem apiVersion kind)
    return Value.setEntry (.text "items") (.list items) entries
  | _, _ => return entries

def kindOf (entries : List (Value × Value)) : Except Failure String :=
  match Value.lookup "kind" entries with
  | some (.text kind) => .ok kind
  | some (.bytes _) => .error .unfit
  | some (.resource _) => .error .unfit
  | some _ => .error .noFields
  | none => .error .missingEntry

def ofValue : Value → Except Failure Value
  | .map entries => do
    let entries ← withTypedItems (← kindOf entries) entries
    return .resource (← ofEntries entries)
  | .resource entries => .ok (.resource entries)
  | _ => .error .unfit

def ofItems (apiVersion kind : String) (bodies : List Value) : Except Failure (List Value) :=
  bodies.mapM fun body => typedItem (.ok (.text apiVersion)) kind body >>= ofPart

mutual

def plain : Value → Value
  | .resource entries => .map (plainEntries entries)
  | .list items => .list (plainItems items)
  | v => v

def plainItems : List Value → List Value
  | [] => []
  | v :: rest => plain v :: plainItems rest

def plainEntries : List (Value × Value) → List (Value × Value)
  | [] => []
  | (key, v) :: rest => (key, plain v) :: plainEntries rest

end

def field (v : Value) (name : String) : Except Failure Value :=
  match v with
  | .resource entries => .ok ((Value.lookup name entries).getD .null)
  | _ => .error .noFields

def getOr (v : Value) (key : String) (default : Value) (guise : Guise := .client) : Except Failure Value :=
  match v with
  | .map entries => .ok ((Value.lookup key entries).getD default)
  | .resource entries =>
    if guise.obstructs entries then .error .unfit
    else .ok ((Value.lookup key entries).getD default)
  | .document _ => .error .unfit
  | _ => .error .noFields

def get (v : Value) (key : String) (guise : Guise := .client) : Except Failure Value :=
  match v with
  | .document d => (d.get key).map fun entry => (entry.map .document).getD .null
  | v => getOr v key .null guise

/--
An object's part, such as its specification: empty when it is missing or counts as nothing. Whether an empty
mapping does makes no difference, as it has no entries either way.
-/
def part (v : Value) (name : String) : Value :=
  match v with
  | .resource entries => ((Value.lookup name entries).getD .null).orElse (.map [])
  | _ => .map []

end Resource
end ClusterLedger
