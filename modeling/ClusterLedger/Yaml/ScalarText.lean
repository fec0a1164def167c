import ClusterLedger.Yaml.Scalar
import ClusterLedger.Yaml.Pen
import ClusterLedger.Text.Hex

/-!
Scalars on the page. `fold` tells whether a long text may be folded; the text goes on at `margin`.
-/

namespace ClusterLedger.Yaml

inductive Stretch where
  | spaces (count : Nat)
  | breaks (cs : List Char)
  | word (cs : List Char)
  deriving DecidableEq, Repr

def stretches : List Char → List Stretch
  | [] => []
  | c :: rest =>
    if isSpace c then
      match stretches rest with
      | .spaces n :: others => .spaces (n + 1) :: others
      | others => .spaces 1 :: others
    else if isBreak c then
      match stretches rest with
      | .breaks cs :: others => .breaks (c :: cs) :: others
      | others => .breaks [c] :: others
    else
      match stretches rest with
      | .word cs :: others => .word (c :: cs) :: others
      | others => .word [c] :: others

/-- A single space past the fold column becomes a line end. -/
def writePlainStretches (margin : Nat) (fold : Bool) : List Stretch → Pen → Pen
  | [], p => p
  | .spaces n :: rest, p =>
    let p := if fold && n = 1 && foldColumn < p.column then p.foldTo margin
      else p.put (List.replicate n ' ')
    writePlainStretches margin fold rest p
  | .breaks cs :: rest, p => writePlainStretches margin fold rest (p.put cs)
  | .word cs :: rest, p => writePlainStretches margin fold rest (p.put cs)

def writePlain (margin : Nat) (fold : Bool) (text : List Char) (p : Pen) : Pen :=
  if text.isEmpty then p
  else
    let p := if p.spaced then p else p.put [' ']
    writePlainStretches margin fold (stretches text) { p with spaced := false, inMargin := false }

def doubleQuotes (cs : List Char) : List Char :=
  cs.flatMap fun c => if c = '\'' then ['\'', '\''] else [c]

/-- Line breaks inside single quotes: one more than there are if the first is a line feed. -/
def writeBreaks (margin : Nat) (cs : List Char) (p : Pen) : Pen :=
  let p := if cs.head? = some '\n' then p.lineBreak '\n' else p
  (cs.foldl Pen.lineBreak p).indentTo margin

def writeSingleStretches (margin : Nat) (fold : Bool) : (first : Bool) → List Stretch → Pen → Pen
  | _, [], p => p
  | first, .spaces n :: rest, p =>
    let p :=
      if fold && n = 1 && foldColumn < p.column && !first && !rest.isEmpty then p.indentTo margin
      else p.put (List.replicate n ' ')
    writeSingleStretches margin fold false rest p
  | _, .breaks cs :: rest, p => writeSingleStretches margin fold false rest (writeBreaks margin cs p)
  | _, .word cs :: rest, p => writeSingleStretches margin fold false rest (p.put (doubleQuotes cs))

def writeSingle (margin : Nat) (fold : Bool) (text : List Char) (p : Pen) : Pen :=
  (writeSingleStretches margin fold true (stretches text) (p.mark '\'')).closeMark '\''

def namedEscape? (c : Char) : Option Char :=
  match c with
  | '\x00' => some '0'
  | '\x07' => some 'a'
  | '\x08' => some 'b'
  | '\t' => some 't'
  | '\n' => some 'n'
  | '\x0b' => some 'v'
  | '\x0c' => some 'f'
  | '\r' => some 'r'
  | '\x1b' => some 'e'
  | '"' => some '"'
  | '\\' => some '\\'
  | '\x85' => some 'N'
  | '\xa0' => some '_'
  | '\u2028' => some 'L'
  | '\u2029' => some 'P'
  | _ => none

def standsInQuotes (c : Char) : Bool :=
  let n := c.toNat
  c ≠ '"' && c ≠ '\\' && !isBreak c && n ≠ 0xfeff &&
    ((0x20 ≤ n && n ≤ 0x7e) || (0xa0 ≤ n && n ≤ 0xfffd))

def escaped (c : Char) : List Char :=
  match namedEscape? c with
  | some e => ['\\', e]
  | none =>
    let n := c.toNat
    if n ≤ 0xff then '\\' :: 'x' :: Text.upperHex 2 n
    else if n ≤ 0xffff then '\\' :: 'u' :: Text.upperHex 4 n
    else '\\' :: 'U' :: Text.upperHex 8 n

/-- Folds inside double quotes: the line ends in a backslash, and so a leading space needs one too. -/
def foldDouble (margin : Nat) (next : Option Char) (p : Pen) : Pen :=
  let p := (p.put ['\\']).foldTo margin
  if next = some ' ' then p.put ['\\'] else p

/--
Writes the characters of a double-quoted text. A line may be folded at a space and on either side of
an escape, but not before the first character nor at the last one.
-/
def writeDoubleChars (margin : Nat) (fold : Bool) :
    (first afterEscape : Bool) → List Char → Pen → Pen
  | _, _, [], p => p
  | first, afterEscape, c :: rest, p =>
    let inner := fold && !first && !rest.isEmpty
    if standsInQuotes c then
      let p :=
        if inner && (c = ' ' || afterEscape) && foldColumn < p.column then
          foldDouble margin (some c) p
        else p
      writeDoubleChars margin fold false false rest (p.put [c])
    else
      let p := p.put (escaped c)
      let p := if inner && foldColumn + 1 < p.column then foldDouble margin rest.head? p else p
      writeDoubleChars margin fold false true rest p

def writeDouble (margin : Nat) (fold : Bool) (text : List Char) (p : Pen) : Pen :=
  (writeDoubleChars margin fold true false text (p.mark '"')).closeMark '"'

def writeText (margin : Nat) (fold : Bool) (text : String) (p : Pen) : Pen :=
  match styleOf text with
  | .plain => writePlain margin fold text.toList p
  | .single => writeSingle margin fold text.toList p
  | .double => writeDouble margin fold text.toList p

end ClusterLedger.Yaml
