import ClusterLedger.Number.Numeral

/-!
Binary floating-point numbers as exact values: a sign, a significand below `2 ^ 53` and a power of
two. A ratio is rounded to the nearest such number, a tie going to the even significand.
-/

namespace ClusterLedger

/--
A binary64 number. `finite negative significand exponent` is `±significand · 2 ^ exponent`.
What is not a number is told from its like by the place it came from, and equals only itself.
-/
inductive Binary64 where
  | nan (origin : Nat)
  | infinite (negative : Bool)
  | finite (negative : Bool) (significand : Nat) (exponent : Int)
  deriving DecidableEq, Repr

namespace Binary64

/-- `num / den` to the nearest natural number; a half goes to the even one. -/
def nearest (num den : Nat) : Nat :=
  let quotient := num / den
  let twice := 2 * (num % den)
  if twice < den then quotient
  else if den < twice then quotient + 1
  else quotient + quotient % 2

def inUnits (num den : Nat) (exponent : Int) : Nat × Nat :=
  (num * raise 2 (-exponent), den * raise 2 exponent)

/-- `2 ^ 53`; significands are below it. -/
def significandBound : Nat := 9007199254740992

/-- `2 ^ 52`, the least significand of a number above the least exponent. -/
def leadingBit : Nat := 4503599627370496

def leastExponent : Int := -1074
def greatestExponent : Int := 971

def exponentOf (num den : Nat) : Int :=
  let low := max ((num.log2 : Int) - den.log2 - 53) leastExponent
  let (n, d) := inUnits num den low
  if significandBound ≤ n / d then low + 1 else low

def ofRatio (negative : Bool) (num den : Nat) : Binary64 :=
  let exponent := exponentOf num den
  let (n, d) := inUnits num den exponent
  let significand := nearest n d
  let (significand, exponent) :=
    if significand = significandBound then (leadingBit, exponent + 1) else (significand, exponent)
  if greatestExponent < exponent then infinite negative
  else finite negative significand exponent

/-- The nearest binary number; numerals far outside of the range are not written out. -/
def ofNumeral (n : Numeral) : Binary64 :=
  let length : Int := decimalLength n.coefficient + n.exponent
  if n.coefficient = 0 ∨ length < -400 then finite n.negative 0 leastExponent
  else if 400 < length then infinite n.negative
  else ofRatio n.negative (n.coefficient * raise 10 n.exponent) (raise 10 (-n.exponent))

/-- Reads the text of a number; `origin` tells one `nan` from another. -/
def read? (origin : Nat) (text : String) : Option Binary64 :=
  match text with
  | "nan" => some (nan origin)
  | "inf" => some (infinite false)
  | "-inf" => some (infinite true)
  | _ => (Numeral.read? text.toList).map ofNumeral

def isZero : Binary64 → Bool
  | finite _ significand _ => significand = 0
  | _ => false

def toInt? : Binary64 → Option Int
  | finite negative significand exponent =>
    let scaled := significand * raise 2 exponent
    let unit := raise 2 (-exponent)
    if scaled % unit = 0 then
      some (if negative then -((scaled / unit : Nat) : Int) else (scaled / unit : Nat))
    else none
  | _ => none

def same : Binary64 → Binary64 → Bool
  | nan a, nan b => a = b
  | infinite a, infinite b => a = b
  | finite s m p, finite t n q =>
    (m = 0 && n = 0) || (s = t && m * raise 2 (p - q) = n * raise 2 (q - p))
  | _, _ => false

end Binary64
end ClusterLedger
