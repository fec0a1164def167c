import ClusterLedger.Document
import ClusterLedger.Text.Quoted

namespace ClusterLedger

namespace Literal

def truth (b : Bool) : String := if b then "True" else "False"

def separated (items : List String) : String := ", ".intercalate items

def brackets (items : List String) : String := "[" ++ separated items ++ "]"

def braces (items : List String) : String := "\x7b" ++ separated items ++ "\x7d"

def tuple : List String → String
  | [item] => "(" ++ item ++ ",)"
  | items => "(" ++ separated items ++ ")"

def node (kind : NodeKind) (held : String) : String :=
  let name := kind.name
  let upper := name.toUpper
  s!"DocumentNode(kind=<NodeKind.{upper}: '{name}'>, value={held})"

end Literal

mutual

def Document.literal : Document → String
  | .null => Literal.node .null "None"
  | .bool b => Literal.node .bool (Literal.truth b)
  | .number n => Literal.node .number n.text
  | .string s => Literal.node .string (Text.quoted s)
  | .sequence items => Literal.node .sequence (Literal.tuple (Document.itemLiterals items))
  | .mapping entries => Literal.node .mapping (Literal.braces (Document.entryLiterals entries))

def Document.itemLiterals : List Document → List String
  | [] => []
  | item :: rest => item.literal :: Document.itemLiterals rest

def Document.entryLiterals : List (String × Document) → List String
  | [] => []
  | (key, d) :: rest => (Text.quoted key ++ ": " ++ d.literal) :: Document.entryLiterals rest

end

end ClusterLedger
