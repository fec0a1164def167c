import ClusterLedger.Number.Binary64

/-!
The shortest decimal text of a binary number: the fewest digits that read back as the same number,
and of those the nearest to it.
-/

namespace ClusterLedger.Binary64

structure Ratio where
  num : Nat
  den : Nat
  deriving DecidableEq, Repr

namespace Ratio

def binary (count : Nat) (exponent : Int) : Ratio :=
  ⟨count * raise 2 exponent, raise 2 (-exponent)⟩

def decimal (count : Nat) (exponent : Int) : Ratio :=
  ⟨count * raise 10 exponent, raise 10 (-exponent)⟩

def le (a b : Ratio) : Bool := a.num * b.den ≤ b.num * a.den

def gridFloor (a : Ratio) (exponent : Int) : Nat :=
  a.num * raise 10 (-exponent) / (a.den * raise 10 exponent)

def magnitude (a : Ratio) : Int :=
  if a.den ≤ a.num then decimalLength (a.num / a.den) - 1
  else
    let zeros : Int := decimalLength (a.den / a.num)
    if a.den ≤ a.num * raise 10 (zeros - 1) then 1 - zeros else -zeros

end Ratio

/-- The reals that round to `significand · 2 ^ exponent`: two ends, each included or not. -/
structure Interval where
  low : Ratio
  high : Ratio
  closed : Bool

/-- Below a power of two the next number is half as far away, except at the least exponent. -/
def interval (significand : Nat) (exponent : Int) : Interval :=
  let below := if significand = leadingBit ∧ leastExponent < exponent then 1 else 2
  { low := .binary (4 * significand - below) (exponent - 2)
    high := .binary (4 * significand + 2) (exponent - 2)
    closed := significand % 2 = 0 }

def Interval.holds (i : Interval) (x : Ratio) : Bool :=
  if i.closed then i.low.le x && x.le i.high else !x.le i.low && !i.high.le x

/--
The point of the grid of step `10 ^ power` that lies in the interval, if there is one: of the value's
two neighbours the nearer, and of two equally near the even one.
-/
def gridPoint? (value : Ratio) (i : Interval) (power : Int) : Option (Nat × Int) :=
  let low := value.gridFloor power
  let half := Ratio.decimal (10 * low + 5) (power - 1)
  let lowFits := i.holds (.decimal low power)
  let highFits := i.holds (.decimal (low + 1) power)
  let lowNearer := !half.le value || (value.le half && low % 2 = 0)
  if lowFits && (lowNearer || !highFits) then some (low, power)
  else if highFits then some (low + 1, power)
  else none

def shortest (significand : Nat) (exponent : Int) : Nat × Int :=
  let value := Ratio.binary significand exponent
  let top := value.magnitude
  let i := interval significand exponent
  ((List.range 17).findSome? fun (n : Nat) => gridPoint? value i (top - n)).getD (value.gridFloor (top - 16), top - 16)

def dropTrailingZeros (digits : List Char) : List Char :=
  (digits.reverse.dropWhile (· = '0')).reverse

def padLeft (width : Nat) (digits : List Char) : List Char :=
  List.replicate (width - digits.length) '0' ++ digits

def positional (digits : List Char) (places : Int) : List Char :=
  if places ≤ 0 then '0' :: '.' :: (List.replicate (-places).toNat '0' ++ digits)
  else
    let whole := digits.take places.toNat
    let fraction := digits.drop places.toNat
    whole ++ List.replicate (places.toNat - whole.length) '0' ++
      '.' :: (if fraction = [] then ['0'] else fraction)

def scientific (digits : List Char) (power : Int) : List Char :=
  let mark := if power < 0 then '-' else '+'
  let tail := 'e' :: mark :: padLeft 2 (Nat.toDigits 10 power.natAbs)
  match digits with
  | first :: second :: rest => first :: '.' :: second :: rest ++ tail
  | _ => digits ++ tail

/-- A number is written positionally from `0.0001` up to below `10 ^ 16`. -/
def magnitudeText (significand : Nat) (exponent : Int) : List Char :=
  if significand = 0 then ['0', '.', '0']
  else
    let (count, power) := shortest significand exponent
    let all := Nat.toDigits 10 count
    let places := (all.length : Int) + power
    let digits := dropTrailingZeros all
    if -4 < places ∧ places ≤ 16 then positional digits places
    else scientific digits (places - 1)

def text : Binary64 → String
  | nan _ => "nan"
  | infinite false => "inf"
  | infinite true => "-inf"
  | finite negative significand exponent =>
    String.ofList ((if negative then ['-'] else []) ++ magnitudeText significand exponent)

end ClusterLedger.Binary64
