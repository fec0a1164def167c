import ClusterLedger.Number
import ClusterLedger.Text.Blank
import ClusterLedger.Text.Digit

/-!
Decimal numbers, with infinities and with what is not a number. A number keeps the digits that it was
written with: 1.5 and 1.50 are equal but have different texts.
-/

namespace ClusterLedger

inductive Decimal where
  | finite (value : Numeral)
  | infinite (negative : Bool)
  /-- What is not a number: quiet or signaling, with digits that tell where it comes from. -/
  | nan (negative signaling : Bool) (payload : Nat)
  deriving DecidableEq, Repr

namespace Decimal

def greatestPower : Int := 999999999999999999
def leastPower : Int := -1999999999999999997

def inRange (n : Numeral) : Bool :=
  n.exponent + decimalLength n.coefficient - 1 ≤ greatestPower && leastPower ≤ n.exponent

def toAscii? (c : Char) : Option Char :=
  if c.toNat < 128 then some c
  else (Text.digitValue? c).map fun value => Char.ofNat (48 + value)

def readName? (name : List Char) (negative : Bool) : Option Decimal :=
  let digits := name.dropWhile fun c => !c.isDigit
  let notANumber (signaling : Bool) : Option Decimal :=
    if digits.all Char.isDigit then some (nan negative signaling (Numeral.digitsValue digits)) else none
  match String.ofList (name.takeWhile fun c => !c.isDigit), digits with
  | "inf", [] => some (infinite negative)
  | "infinity", [] => some (infinite negative)
  | "nan", _ => notANumber false
  | "snan", _ => notANumber true
  | _, _ => none

/-- Reads a literal. Blanks around it do not count, and underscores nowhere. -/
def read? (text : List Char) : Option Decimal := do
  let ascii ← ((Text.trim Text.isBlank text).filter (· ≠ '_')).mapM toAscii?
  match Numeral.read? ascii with
  | some n => if inRange n then some (finite n) else none
  | none =>
    let (negative, name) := Numeral.splitSign ascii
    readName? (name.map Char.toLower) negative

def ofNumber : Number → Decimal
  | .whole n => finite ⟨n < 0, n.natAbs, 0⟩
  | .real (.nan _) => nan false false 0
  | .real (.infinite negative) => infinite negative
  | .real (.finite negative significand exponent) =>
    if exponent < 0 then finite ⟨negative, significand * raise 5 (-exponent), exponent⟩
    else finite ⟨negative, significand * raise 2 exponent, 0⟩

def isZero : Decimal → Bool
  | finite n => n.coefficient = 0
  | _ => false

/-- Equality of the numbers meant; what is not a number equals nothing. -/
def same : Decimal → Decimal → Bool
  | finite a, finite b => a.same b
  | infinite a, infinite b => a = b
  | _, _ => false

def toBinary? : Decimal → Option Binary64
  | finite n => some (Binary64.ofNumeral n)
  | infinite negative => some (.infinite negative)
  | nan _ signaling _ => if signaling then none else some (.nan 0)

def pointed (digits : List Char) (point : Int) : List Char :=
  if point ≤ 0 then '0' :: '.' :: (List.replicate (-point).toNat '0' ++ digits)
  else if digits.length ≤ point then digits
  else digits.take point.toNat ++ '.' :: digits.drop point.toNat

/--
All the digits that a number was written with. A power of ten is split off where zeros would have to
be added before the point, or more than five behind it.
-/
def finiteText (n : Numeral) : String :=
  let digits := (toString n.coefficient).toList
  let point : Int := digits.length + n.exponent
  let sign := if n.negative then "-" else ""
  if n.exponent ≤ 0 ∧ -6 < point then sign ++ String.ofList (pointed digits point)
  else
    let power := point - 1
    let mark := if power < 0 then "E-" else "E+"
    sign ++ String.ofList (pointed digits 1) ++ mark ++ toString power.natAbs

def text : Decimal → String
  | finite n => finiteText n
  | infinite negative => if negative then "-Infinity" else "Infinity"
  | nan negative signaling payload =>
    (if negative then "-" else "") ++ (if signaling then "sNaN" else "NaN") ++
      (if payload = 0 then "" else toString payload)

end Decimal
end ClusterLedger
