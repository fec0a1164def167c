import ClusterLedger.Number
import ClusterLedger.Assoc

namespace ClusterLedger

inductive Document where
  | null
  | bool (value : Bool)
  | number (value : Number)
  | string (value : String)
  | sequence (items : List Document)
  | mapping (entries : List (String × Document))
  deriving Repr

inductive NodeKind where
  | null | bool | number | string | sequence | mapping
  deriving DecidableEq, Repr

def NodeKind.name : NodeKind → String
  | null => "null"
  | bool => "bool"
  | number => "number"
  | string => "string"
  | sequence => "sequence"
  | mapping => "mapping"

namespace Document

instance : Inhabited Document := ⟨null⟩

def kind : Document → NodeKind
  | null => .null
  | bool _ => .bool
  | number _ => .number
  | string _ => .string
  | sequence _ => .sequence
  | mapping _ => .mapping

def isMapping : Document → Bool
  | mapping _ => true
  | _ => false

def hasKey (key : String) : Document → Bool
  | mapping entries => Assoc.contains key entries
  | _ => false

def child? (key : String) : Document → Option Document
  | mapping entries => Assoc.find? key entries
  | _ => none

mutual

def WellFormed : Document → Prop
  | sequence items => AllWellFormed items
  | mapping entries => Assoc.Distinct entries ∧ EntriesWellFormed entries
  | _ => True

def AllWellFormed : List Document → Prop
  | [] => True
  | item :: rest => item.WellFormed ∧ AllWellFormed rest

def EntriesWellFormed : List (String × Document) → Prop
  | [] => True
  | (_, value) :: rest => value.WellFormed ∧ EntriesWellFormed rest

end

mutual

/--
Equality of content: numbers are compared by value and the order of a mapping's entries does not
count.
-/
def same : Document → Document → Bool
  | null, null => true
  | bool a, bool b => a = b
  | number a, number b => a.same b
  | string a, string b => a = b
  | sequence a, sequence b => sameItems a b
  | mapping a, mapping b => a.length = b.length && sameEntries a b
  | _, _ => false

def sameItems : List Document → List Document → Bool
  | [], [] => true
  | a :: as, b :: bs => a.same b && sameItems as bs
  | _, _ => false

def sameEntries : List (String × Document) → List (String × Document) → Bool
  | [], _ => true
  | (key, a) :: rest, other =>
    (match Assoc.find? key other with
      | some b => a.same b
      | none => false) && sameEntries rest other

end

end Document
end ClusterLedger
