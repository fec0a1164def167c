import ClusterLedger.Document
import ClusterLedger.Yaml.ScalarText

namespace ClusterLedger

mutual

def Document.sorted : Document → Document
  | .sequence items => .sequence (Document.sortedItems items)
  | .mapping entries => .mapping ((Document.sortedEntries entries).mergeSort fun a b => a.1 ≤ b.1)
  | d => d

def Document.sortedItems : List Document → List Document
  | [] => []
  | item :: rest => item.sorted :: Document.sortedItems rest

def Document.sortedEntries : List (String × Document) → List (String × Document)
  | [] => []
  | (key, value) :: rest => (key, value.sorted) :: Document.sortedEntries rest

end

namespace Yaml

def withPoint (text : List Char) : List Char :=
  if text.contains '.' then text
  else text.flatMap fun c => if c = 'e' then ['.', '0', 'e'] else [c]

def realText : Binary64 → String
  | .nan _ => ".nan"
  | .infinite false => ".inf"
  | .infinite true => "-.inf"
  | x => String.ofList (withPoint x.text.toList)

def numberText : Number → String
  | .whole n => toString n
  | .real x => realText x

def isSimpleKey (key : String) : Bool :=
  !key.toList.isEmpty && !isMultiline key.toList && key.length + 5 < 128

/-- The margin of a nested block; `none` is outside of the outermost block. -/
def innerMargin : Option Nat → Nat
  | none => 0
  | some n => n + 2

def scalarMargin : Option Nat → Nat
  | none => 2
  | some n => n + 2

def writeKey (margin : Nat) (key : String) (p : Pen) : Pen :=
  if isSimpleKey key then (writeText (margin + 2) false key p).closeMark ':'
  else ((writeText (margin + 2) true key (p.blockMark '?')).indentTo margin).blockMark ':'

def writeEmpty (opening closing : Char) (p : Pen) : Pen := (p.mark opening).closeMark closing

/-- A sequence directly under a key keeps the margin of the mapping. -/
def sequenceMargin (margin : Option Nat) (underKey : Bool) (p : Pen) : Nat :=
  if underKey && !p.inMargin then margin.getD 0 else innerMargin margin

mutual

def writeNode (margin : Option Nat) (underKey : Bool) : Document → Pen → Pen
  | .null, p => writePlain (scalarMargin margin) true "null".toList p
  | .bool true, p => writePlain (scalarMargin margin) true "true".toList p
  | .bool false, p => writePlain (scalarMargin margin) true "false".toList p
  | .number n, p => writePlain (scalarMargin margin) true (numberText n).toList p
  | .string s, p => writeText (scalarMargin margin) true s p
  | .sequence [], p => writeEmpty '[' ']' p
  | .sequence (item :: rest), p =>
    writeItems (sequenceMargin margin underKey p) (item :: rest) p
  | .mapping [], p => writeEmpty '\x7b' '\x7d' p
  | .mapping (entry :: rest), p => writeEntries (innerMargin margin) (entry :: rest) p

def writeItems (margin : Nat) : List Document → Pen → Pen
  | [], p => p
  | item :: rest, p =>
    writeItems margin rest (writeNode (some margin) false item ((p.indentTo margin).blockMark '-'))

def writeEntries (margin : Nat) : List (String × Document) → Pen → Pen
  | [], p => p
  | (key, value) :: rest, p =>
    writeEntries margin rest
      (writeNode (some margin) true value (writeKey margin key (p.indentTo margin)))

end

/-- A plain scalar that is the whole document has to be closed by an end mark. -/
def needsEndMark : Document → Bool
  | .string s => styleOf s = .plain
  | .sequence _ => false
  | .mapping _ => false
  | _ => true

def serialize (d : Document) : String :=
  let p := (writeNode none false d.sorted Pen.blank).indentTo 0
  let p := if needsEndMark d then (p.put ['.', '.', '.']).lineBreak '\n' else p
  p.text

end Yaml
end ClusterLedger
