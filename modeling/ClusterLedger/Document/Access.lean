import ClusterLedger.Fault

namespace ClusterLedger.Document

def expected (wanted : NodeKind) (found : Document) : Failure :=
  .malformed (.expected wanted found.kind)

def asMapping : Document → Except Failure (List (String × Document))
  | mapping entries => .ok entries
  | other => .error (expected .mapping other)

def asSequence : Document → Except Failure (List Document)
  | sequence items => .ok items
  | other => .error (expected .sequence other)

def asString : Document → Except Failure String
  | string value => .ok value
  | other => .error (expected .string other)

def asBool : Document → Except Failure Bool
  | bool value => .ok value
  | other => .error (expected .bool other)

def asNumber : Document → Except Failure Number
  | number value => .ok value
  | other => .error (expected .number other)

def get (d : Document) (key : String) : Except Failure (Option Document) :=
  d.asMapping.map (Assoc.find? key)

@[simp] theorem get_mapping (entries : List (String × Document)) (key : String) :
    (mapping entries).get key = .ok (Assoc.find? key entries) := rfl

def withEntry (d : Document) (key : String) (value : Document) : Except Failure Document :=
  d.asMapping.map fun entries => mapping (Assoc.set key value entries)

def without (d : Document) (key : String) : Except Failure Document :=
  d.asMapping.map fun entries => mapping (Assoc.erase key entries)

def merged (lower upper : Document) : Except Failure Document := do
  let entries ← lower.asMapping
  let covering ← upper.asMapping
  return mapping (Assoc.overlay entries covering)

end ClusterLedger.Document
