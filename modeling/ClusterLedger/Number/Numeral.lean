namespace ClusterLedger

/-- The number `±coefficient · 10 ^ exponent`. -/
structure Numeral where
  negative : Bool
  coefficient : Nat
  exponent : Int
  deriving DecidableEq, Repr

/-- The power of a base; a negative exponent gives 1, and its factor stands in the denominator. -/
def raise (base : Nat) (exponent : Int) : Nat := Nat.pow base exponent.toNat

def decimalLength (n : Nat) : Nat :=
  if n < 10 then 1 else decimalLength (n / 10) + 1

namespace Numeral

def digitsValue (digits : List Char) : Nat :=
  digits.foldl (fun value digit => 10 * value + (digit.toNat - '0'.toNat)) 0

def splitSign : List Char → Bool × List Char
  | '-' :: rest => (true, rest)
  | '+' :: rest => (false, rest)
  | text => (false, text)

def readExponent? : List Char → Option Int
  | [] => some 0
  | mark :: rest =>
    if mark = 'e' ∨ mark = 'E' then
      let (negative, digits) := splitSign rest
      if digits = [] ∨ digits.any (fun c => !c.isDigit) then none
      else some (if negative then -(digitsValue digits : Int) else digitsValue digits)
    else none

def splitFraction : List Char → List Char × List Char
  | '.' :: rest => (rest.takeWhile Char.isDigit, rest.dropWhile Char.isDigit)
  | rest => ([], rest)

/-- Reads a whole text as a numeral. At least one digit must stand beside the point. -/
def read? (text : List Char) : Option Numeral :=
  let (negative, body) := splitSign text
  let whole := body.takeWhile Char.isDigit
  let (fraction, rest) := splitFraction (body.dropWhile Char.isDigit)
  if whole ++ fraction = [] then none
  else (readExponent? rest).map fun power =>
    ⟨negative, digitsValue (whole ++ fraction), power - fraction.length⟩

/-- Equality of the numbers meant; numerals of different length before the point are not scaled. -/
def same (a b : Numeral) : Bool :=
  if a.coefficient = 0 ∨ b.coefficient = 0 then a.coefficient = b.coefficient
  else
    a.negative = b.negative &&
      decimalLength a.coefficient + a.exponent = decimalLength b.coefficient + b.exponent &&
      a.coefficient * raise 10 (a.exponent - b.exponent) =
        b.coefficient * raise 10 (b.exponent - a.exponent)

def toInt? (n : Numeral) : Option Int :=
  let magnitude : Option Nat :=
    if n.coefficient = 0 then some 0
    else if decimalLength n.coefficient + n.exponent ≤ 0 then none
    else
      let unit := raise 10 (-n.exponent)
      if n.coefficient % unit = 0 then some (n.coefficient / unit * raise 10 n.exponent) else none
  magnitude.map fun m => if n.negative then -(m : Int) else m

end Numeral
end ClusterLedger
