import ClusterLedger.Document.Literal
import ClusterLedger.Number.Decimal

/-!
Values as they come from outside: plain data, the few other kinds of object that may be found among
them, documents that are already built, and resources of the API server. Text and numbers are of the
plain types themselves, never of types that are derived from those.
-/

namespace ClusterLedger

inductive Value where
  | null
  | bool (value : Bool)
  | number (value : Number)
  | text (value : String)
  | list (items : List Value)
  | tuple (items : List Value)
  | map (entries : List (Value × Value))
  | bytes (value : List UInt8)
  | set (items : List Value)
  | date (value : String)
  | decimal (value : Decimal)
  /-- An object with no plain form. -/
  | sealed
  /-- An object whose plain form is given. -/
  | convertible (plain : Value)
  | document (value : Document)
  /-- An object read from the API server, or a mapping in one, seen through its fields. -/
  | resource (entries : List (Value × Value))
  deriving Repr

namespace Value

instance : Inhabited Value := ⟨null⟩

abbrev whole (n : Int) : Value := number (.whole n)

def ofOption : Option Value → Value
  | some v => v
  | none => null

def toOption : Value → Option Value
  | null => none
  | v => some v

def typeName : Value → String
  | null => "NoneType"
  | bool _ => "bool"
  | number (.whole _) => "int"
  | number (.real _) => "float"
  | text _ => "str"
  | list _ => "list"
  | tuple _ => "tuple"
  | map _ => "dict"
  | bytes _ => "bytes"
  | set _ => "set"
  | date _ => "date"
  | decimal _ => "Decimal"
  | sealed => "Opaque"
  | convertible _ => "HasToDict"
  | document _ => "DocumentNode"
  | resource _ => "ResourceInstance"

/-- Null, false, zero and what is empty count as nothing; a resource always counts. -/
def truthy : Value → Bool
  | null => false
  | bool b => b
  | number n => !n.isZero
  | text s => s ≠ ""
  | list items => !items.isEmpty
  | tuple items => !items.isEmpty
  | map entries => !entries.isEmpty
  | bytes b => !b.isEmpty
  | set items => !items.isEmpty
  | decimal d => !d.isZero
  | _ => true

def orElse (a b : Value) : Value := if a.truthy then a else b

def lookup (key : String) : List (Value × Value) → Option Value
  | [] => none
  | (text k, v) :: rest => if k = key then some v else lookup key rest
  | _ :: rest => lookup key rest

def ofRecord (entries : List (String × Value)) : Value :=
  map (entries.map fun (key, value) => (text key, value))

def numeric? : Value → Option Decimal
  | bool b => some (.ofNumber (.whole b.toNat))
  | number n => some (.ofNumber n)
  | decimal d => some d
  | _ => none

def sameNumber (a b : Value) : Bool :=
  match a.numeric?, b.numeric? with
  | some m, some n => m.same n
  | _, _ => false

mutual

/-- Keys of a mapping are one key when they are equal; numbers are compared by value. -/
def sameKey : Value → Value → Bool
  | null, null => true
  | number a, number b => a.same b
  | text a, text b => a = b
  | bytes a, bytes b => a = b
  | tuple a, tuple b => sameKeys a b
  | date a, date b => a = b
  | a, b => sameNumber a b

def sameKeys : List Value → List Value → Bool
  | [], [] => true
  | a :: as, b :: bs => a.sameKey b && sameKeys as bs
  | _, _ => false

end

mutual

def canBeKey : Value → Bool
  | list _ => false
  | map _ => false
  | set _ => false
  | document _ => false
  | decimal (.nan _ signaling _) => !signaling
  | tuple items => canBeKeys items
  | _ => true

def canBeKeys : List Value → Bool
  | [] => true
  | item :: rest => item.canBeKey && canBeKeys rest

end

def setEntry (key value : Value) : List (Value × Value) → List (Value × Value)
  | [] => [(key, value)]
  | (k, v) :: rest => if k.sameKey key then (k, value) :: rest else (k, v) :: setEntry key value rest

def ofEntries (entries : List (Value × Value)) : Value :=
  map (entries.foldl (fun all (key, value) => setEntry key value all) [])

def dateParts (iso : String) : String :=
  ", ".intercalate ((iso.splitOn "-").map fun part =>
    String.ofList (match part.toList.dropWhile (· = '0') with
      | [] => ['0']
      | digits => digits))

def name : Value → String
  | text s => s
  | _ => ""

def sortedByName (entries : List (String × String)) : List (String × String) :=
  entries.mergeSort fun a b => a.1 ≤ b.1

mutual

/--
The form that shows what a value is: text is quoted, and so is text inside a value. The fields of an
object of the API server are shown in the order of their names.
-/
def literal : Value → String
  | null => "None"
  | bool b => Literal.truth b
  | number n => n.text
  | text s => Text.quoted s
  | list items => Literal.brackets (literals items)
  | tuple items => Literal.tuple (literals items)
  | map entries => Literal.braces ((entryLiterals entries).map (·.2))
  | bytes b => Text.quotedBytes b
  | set [] => "set()"
  | set items => Literal.braces (literals items)
  | date iso => "datetime.date(" ++ dateParts iso ++ ")"
  | decimal d => "Decimal(" ++ Text.quoted d.text ++ ")"
  | sealed => "<Opaque>"
  | convertible _ => "<HasToDict>"
  | document d => d.literal
  | resource entries => Literal.braces ((sortedByName (entryLiterals entries)).map (·.2))

def literals : List Value → List String
  | [] => []
  | item :: rest => item.literal :: literals rest

def entryLiterals : List (Value × Value) → List (String × String)
  | [] => []
  | (key, value) :: rest => (key.name, key.literal ++ ": " ++ value.literal) :: entryLiterals rest

end

/-- Whole numbers stand in the order of their size, before other values in the order of their forms. -/
def standsBefore : Value → Value → Bool
  | number (.whole m), number (.whole n) => m ≤ n
  | number (.whole _), _ => true
  | _, number (.whole _) => false
  | a, b => a.literal ≤ b.literal

def ofMembers (members : List Value) : Value :=
  let distinct := members.foldl (fun all v => if all.any (sameKey v) then all else all ++ [v]) []
  set (distinct.mergeSort standsBefore)

def shown : Value → String
  | text s => s
  | date iso => iso
  | decimal d => d.text
  | v => v.literal

end Value
end ClusterLedger
