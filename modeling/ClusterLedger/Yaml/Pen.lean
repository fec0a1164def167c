/-!
The place where text is written: what stands on the page, the column, and whether the line so far
ends in a blank and holds nothing but margin. Lines are folded after column 80.
-/

namespace ClusterLedger.Yaml

/-- A page being written; `written` has the newest character first. -/
structure Pen where
  written : List Char
  column : Nat
  /-- The next mark needs no blank before it. -/
  spaced : Bool
  /-- Only blanks and marks that keep the margin stand on the line. -/
  inMargin : Bool
  deriving Repr

def foldColumn : Nat := 80

namespace Pen

def blank : Pen := ⟨[], 0, true, true⟩

def text (p : Pen) : String := String.ofList p.written.reverse

def put (p : Pen) (cs : List Char) : Pen :=
  { p with written := cs.reverse ++ p.written, column := p.column + cs.length }

def lineBreak (p : Pen) (c : Char) : Pen := ⟨c :: p.written, 0, true, true⟩

/-- Moves to a margin, on this line if nothing but margin stands before it, else on a new one. -/
def indentTo (p : Pen) (margin : Nat) : Pen :=
  let p :=
    if !p.inMargin || margin < p.column || (p.column = margin && !p.spaced) then p.lineBreak '\n'
    else p
  if p.column < margin then
    { p.put (List.replicate (margin - p.column) ' ') with spaced := true }
  else p

def mark (p : Pen) (c : Char) : Pen :=
  { p.put (if p.spaced then [c] else [' ', c]) with spaced := false, inMargin := false }

def blockMark (p : Pen) (c : Char) : Pen :=
  { p.put (if p.spaced then [c] else [' ', c]) with spaced := false }

def closeMark (p : Pen) (c : Char) : Pen :=
  { p.put [c] with spaced := false, inMargin := false }

/-- Ends the line where text is folded and goes on at a margin, inside the text. -/
def foldTo (p : Pen) (margin : Nat) : Pen :=
  { p.indentTo margin with spaced := false, inMargin := false }

end Pen
end ClusterLedger.Yaml
