import ClusterLedger.Yaml.Implicit

/-!
How a text may be written as a scalar: plain where nothing in it could be taken for markup, in single
quotes where every character can stand for itself, in double quotes otherwise.
-/

namespace ClusterLedger.Yaml

def isBreak (c : Char) : Bool := c = '\n' || c = '\x85' || c = '\u2028' || c = '\u2029'

def isGap (c : Char) : Bool := c = '\x00' || c = ' ' || c = '\t' || c = '\r' || isBreak c

def startsGap : List Char → Bool
  | [] => true
  | c :: _ => isGap c

/-- Characters that can stand for themselves in some scalar; the byte order mark cannot. -/
def standsAlone (c : Char) : Bool :=
  let n := c.toNat
  c = '\n' || (0x20 ≤ n && n ≤ 0x7e) || n = 0x85 || (0xa0 ≤ n && n ≤ 0xfffd && n ≠ 0xfeff) ||
    (0x10000 ≤ n && n < 0x10ffff)

def leadingIndicators : List Char :=
  ['#', ',', '[', ']', '\x7b', '\x7d', '&', '*', '!', '|', '>', '\'', '"', '%', '@', '\x60']

/-- A colon before a gap or a number sign after one, past the first character. -/
def hasInnerIndicator : (previous : Char) → List Char → Bool
  | _, [] => false
  | previous, c :: rest =>
    (c = ':' && startsGap rest) || (c = '#' && isGap previous) || hasInnerIndicator c rest

def hasIndicator : List Char → Bool
  | [] => false
  | c :: rest =>
    ['-', '-', '-'].isPrefixOf (c :: rest) || ['.', '.', '.'].isPrefixOf (c :: rest) ||
      leadingIndicators.contains c || ((c = '?' || c = ':' || c = '-') && startsGap rest) ||
      hasInnerIndicator c rest

def hasPair (first second : Char → Bool) : List Char → Bool
  | a :: b :: rest => (first a && second b) || hasPair first second (b :: rest)
  | _ => false

def isSpace (c : Char) : Bool := c = ' '

def isMultiline (text : List Char) : Bool := text.any isBreak

def spaceBeforeBreak (text : List Char) : Bool := hasPair isSpace isBreak text
def breakBeforeSpace (text : List Char) : Bool := hasPair isBreak isSpace text

def endsBlank (text : List Char) : Bool :=
  text.head?.any (fun c => isSpace c || isBreak c) ||
    text.getLast?.any (fun c => isSpace c || isBreak c)

inductive Style where
  | plain | single | double
  deriving DecidableEq, Repr

def allowsPlain (text : List Char) : Bool :=
  !isMultiline text && !endsBlank text && text.all standsAlone && !hasIndicator text

def allowsSingle (text : List Char) : Bool :=
  text.all standsAlone && !spaceBeforeBreak text && !breakBeforeSpace text

def styleOf (text : String) : Style :=
  if readsAsText text && allowsPlain text.toList then .plain
  else if allowsSingle text.toList then .single
  else .double

end ClusterLedger.Yaml
