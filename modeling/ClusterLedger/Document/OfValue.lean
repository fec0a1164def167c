import ClusterLedger.Document.Access

/-!
Documents from values and back. A value is a document when every key of every mapping is text and
all else is plain data or a document already; the first offender in order is reported, a key before
what stands under it.
-/

namespace ClusterLedger

mutual

def Document.ofValue : Value → Except Failure Document
  | .null => .ok .null
  | .bool b => .ok (.bool b)
  | .number n => .ok (.number n)
  | .text s => .ok (.string s)
  | .list items => (Document.ofItems items).map .sequence
  | .tuple items => (Document.ofItems items).map .sequence
  | .map entries => (Document.ofEntries [] entries).map .mapping
  | .document d => .ok d
  | other => .error (.malformed (.unsupported other.typeName))

def Document.ofItems : List Value → Except Failure (List Document)
  | [] => .ok []
  | item :: rest => do
    let first ← Document.ofValue item
    let others ← Document.ofItems rest
    return first :: others

def Document.ofEntries (done : List (String × Document)) :
    List (Value × Value) → Except Failure (List (String × Document))
  | [] => .ok done
  | (.text key, value) :: rest => do
    let item ← Document.ofValue value
    Document.ofEntries (Assoc.set key item done) rest
  | (key, _) :: _ => .error (.malformed (.keyNotText key))

end

mutual

def Document.toValue : Document → Value
  | .null => .null
  | .bool b => .bool b
  | .number n => .number n
  | .string s => .text s
  | .sequence items => .list (Document.toValues items)
  | .mapping entries => .map (Document.toEntries entries)

def Document.toValues : List Document → List Value
  | [] => []
  | item :: rest => item.toValue :: Document.toValues rest

def Document.toEntries : List (String × Document) → List (Value × Value)
  | [] => []
  | (key, value) :: rest => (.text key, value.toValue) :: Document.toEntries rest

end

end ClusterLedger
