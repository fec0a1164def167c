import ClusterLedger.Number.Decimal

/-!
Quantities: decimal numbers with an optional suffix for a power of 1000 or, with an `i`, of 1024. A
number times a suffix is rounded to 28 digits, a half going to the even digit.
-/

namespace ClusterLedger

namespace Decimal

def precision : Nat := 28

/-- The number with at most 28 digits that is nearest, a half going to the even digit. -/
def rounded (n : Numeral) : Numeral :=
  let excess := decimalLength n.coefficient - precision
  { n with
    coefficient := Binary64.nearest n.coefficient (raise 10 excess)
    exponent := n.exponent + excess }

def overflows (n : Numeral) : Bool :=
  n.coefficient ≠ 0 && 999999 < n.exponent + decimalLength n.coefficient - 1

end Decimal

inductive QuantityError where
  | unreadable (number : String)
  | unknownSuffix (text : String)
  | outOfRange (text : String)
  deriving DecidableEq, Repr

def QuantityError.message : QuantityError → String
  | unreadable number => s!"Invalid number format: {number}"
  | unknownSuffix text => s!"{text} has unknown suffix"
  | outOfRange text => s!"Invalid quantity: {text}"

namespace Quantity

def power? : Char → Option Int
  | 'n' => some (-3)
  | 'u' => some (-2)
  | 'm' => some (-1)
  | 'K' => some 1
  | 'k' => some 1
  | 'M' => some 2
  | 'G' => some 3
  | 'T' => some 4
  | 'P' => some 5
  | 'E' => some 6
  | _ => none

structure Suffix where
  letter : Char
  power : Int
  binary : Bool
  deriving DecidableEq, Repr

def splitSuffix (text : List Char) : List Char × Option Suffix :=
  match text.reverse with
  | 'i' :: c :: rest =>
    match power? c with
    | some power => (rest.reverse, some ⟨c, power, true⟩)
    | none => (text, none)
  | c :: rest =>
    match power? c with
    | some power => (rest.reverse, some ⟨c, power, false⟩)
    | none => (text, none)
  | [] => (text, none)

def Suffix.isKnown (s : Suffix) : Bool := !s.binary || ['K', 'M', 'G', 'T', 'P', 'E'].contains s.letter

def Suffix.scale (s : Suffix) (n : Numeral) : Numeral :=
  if s.binary then { n with coefficient := n.coefficient * raise 1024 s.power }
  else { n with exponent := n.exponent + 3 * s.power }

def withSuffix (text : String) (s : Suffix) : Decimal → Except QuantityError Decimal
  | .finite n =>
    let scaled := Decimal.rounded (s.scale n)
    if Decimal.overflows scaled then .error (.outOfRange text) else .ok (.finite scaled)
  | .nan _ true _ => .error (.outOfRange text)
  | d => .ok d

def parse (text : String) : Except QuantityError Decimal :=
  let (number, suffix) := splitSuffix text.toList
  match Decimal.read? number, suffix with
  | none, _ => .error (.unreadable (String.ofList number))
  | some d, none => .ok d
  | some d, some s => if s.isKnown then withSuffix text s d else .error (.unknownSuffix text)

def mebibyte : Nat := 1048576

/-- The whole mebibytes in so many bytes, toward zero; `none` when they have more than 28 digits. -/
def wholeMebibytes? (bytes : Numeral) : Option Int :=
  let length : Int := decimalLength bytes.coefficient + bytes.exponent
  let quotient : Option Nat :=
    if bytes.coefficient = 0 ∨ length ≤ 0 then some 0
    else if 36 < length then none
    else some (bytes.coefficient * raise 10 bytes.exponent / (raise 10 (-bytes.exponent) * mebibyte))
  match quotient with
  | some q =>
    if decimalLength q ≤ Decimal.precision then some (if bytes.negative then -(q : Int) else q)
    else none
  | none => none

end Quantity
end ClusterLedger
