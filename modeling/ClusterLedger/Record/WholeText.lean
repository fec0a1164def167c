import ClusterLedger.Number.Numeral
import ClusterLedger.Text.Blank
import ClusterLedger.Text.Split

namespace ClusterLedger.WholeText

inductive Reading where
  | value (n : Int)
  | tooLong
  | unreadable
  deriving DecidableEq, Repr

/-- The number of digits of the longest numeral that is read. -/
def longest : Nat := 4300

def isLeadingDigit (c : Char) : Bool := '1' ≤ c && c ≤ '9'

def readCanonical (cs : List Char) : Reading :=
  let negative := cs.head? = some '-'
  let body := if negative then cs.drop 1 else cs
  if body = ['0'] then .value 0
  else if body.head?.any isLeadingDigit then
    let digits := body.takeWhile Char.isDigit
    if longest < digits.length then .tooLong
    else if digits.length = body.length then
      let n := Numeral.digitsValue digits
      .value (if negative then -(n : Int) else n)
    else .unreadable
  else .unreadable

/-- What remains behind a zero: the last zero stays where nothing or a point follows it. -/
def afterZero? (last : Char) : List Char → Option (List Char)
  | [] => some [last]
  | c :: rest =>
    if c = '0' || c = '_' then afterZero? c rest
    else if isLeadingDigit c || c = '-' then some (c :: rest)
    else if c = '.' then some (last :: c :: rest)
    else none

def dropLeadingZeros? : List Char → Option (List Char)
  | [] => none
  | c :: rest =>
    if c = '0' then afterZero? c rest
    else if isLeadingDigit c then some (c :: rest)
    else none

def dropZeroFraction (cs : List Char) : List Char :=
  match cs.dropWhile (· ≠ '.') with
  | _ :: zeros => if !zeros.isEmpty && zeros.all (· = '0') then cs.takeWhile (· ≠ '.') else cs
  | [] => cs

def joinGroups (cs : List Char) : List Char :=
  let groups := Text.splitAt '_' cs
  if groups.all fun group => !group.isEmpty then groups.flatten else cs

def tidyUnsigned? (cs : List Char) : Option (List Char) :=
  (dropLeadingZeros? cs).map fun cs => joinGroups (dropZeroFraction cs)

/-- Blanks around the text and a plus sign in front are dropped; a minus sign is kept. -/
def tidy? (cs : List Char) : Option (List Char) :=
  match Text.trim Text.isWhiteSpace cs with
  | '-' :: rest => (tidyUnsigned? rest).map ('-' :: ·)
  | '+' :: rest => tidyUnsigned? rest
  | cs => tidyUnsigned? cs

/-- Only a text that begins as a canonical numeral can be too long; a tidied one is then unreadable. -/
def read (text : String) : Reading :=
  match readCanonical text.toList with
  | .unreadable =>
    match (tidy? text.toList).map readCanonical with
    | some (.value n) => .value n
    | _ => .unreadable
  | reading => reading

end ClusterLedger.WholeText
