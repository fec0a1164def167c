import ClusterLedger.Proofs.Quantities.Texts

namespace ClusterLedger
namespace Quantity

def decimalLetters : List (Char × Int) :=
  [('n', -3), ('u', -2), ('m', -1), ('k', 1), ('K', 1), ('M', 2), ('G', 3), ('T', 4), ('P', 5), ('E', 6)]

def binaryLetters : List (Char × Int) := [('K', 1), ('M', 2), ('G', 3), ('T', 4), ('P', 5), ('E', 6)]

inductive FactorText : ℚ → List Char → Prop
  | decimal {letter : Char} {power : Int} (known : (letter, power) ∈ decimalLetters) :
    FactorText (1000 ^ power) [letter]
  | binary {letter : Char} {power : Int} (known : (letter, power) ∈ binaryLetters) :
    FactorText (1024 ^ power) [letter, 'i']

theorem FactorText.pos {factor : ℚ} {suffix : List Char} (written : FactorText factor suffix) : 0 < factor := by
  cases written <;> positivity

theorem decimalLetters_spec : ∀ entry ∈ decimalLetters, power? entry.1 = some entry.2 ∧ entry.1 ≠ 'i' := by decide

theorem binaryLetters_spec :
    ∀ entry ∈ binaryLetters, power? entry.1 = some entry.2 ∧ ['K', 'M', 'G', 'T', 'P', 'E'].contains entry.1 ∧
      0 ≤ entry.2 := by decide

def Suffix.factor (s : Suffix) : ℚ := if s.binary then 1024 ^ s.power else 1000 ^ s.power

theorem Suffix.magnitude_scale {s : Suffix} (whole : s.binary = true → 0 ≤ s.power) (n : Numeral) :
    (s.scale n).magnitude = n.magnitude * s.factor := by
  unfold scale factor Numeral.magnitude
  split
  · next binary =>
    have factor : (raise 1024 s.power : ℚ) = 1024 ^ s.power := by
      have ratio := zpow_eq_raise_div 1024 s.power
      have one : raise 1024 (-s.power) = 1 := by
        have none : (-s.power).toNat = 0 := Int.toNat_of_nonpos (by have := whole binary; omega)
        rw [raise, none]
      rw [one] at ratio
      push_cast at ratio
      rw [ratio, div_one]
    push_cast
    rw [factor]
    ring
  · have thousand : (1000 : ℚ) ^ s.power = 10 ^ (3 * s.power) := by
      rw [zpow_mul]
      norm_num
    rw [thousand, mul_assoc, ← zpow_add₀ (by norm_num)]

@[simp] theorem Suffix.negative_scale (s : Suffix) (n : Numeral) : (s.scale n).negative = n.negative := by
  unfold scale
  split <;> rfl

theorem isMark_of_power {c : Char} {power : Int} (known : power? c = some power) : Decimal.IsMark c := by
  unfold power? at known
  split at known
  case h_11 => cases known
  all_goals constructor <;> decide

theorem isMark_i : Decimal.IsMark 'i' := by constructor <;> decide

theorem splitSuffix_decimal {letter : Char} {power : Int} (number : List Char) (known : power? letter = some power)
    (other : letter ≠ 'i') : splitSuffix (number ++ [letter]) = (number, some ⟨letter, power, false⟩) := by
  unfold splitSuffix
  rw [List.reverse_append]
  simp [known, other]

theorem splitSuffix_binary {letter : Char} {power : Int} (number : List Char) (known : power? letter = some power) :
    splitSuffix (number ++ [letter, 'i']) = (number, some ⟨letter, power, true⟩) := by
  unfold splitSuffix
  rw [List.reverse_append]
  simp [known]

theorem splitSuffix_plain {n : Numeral} {number : List Char} (spells : Decimal.Spells n number) :
    splitSuffix number = (number, none) := by
  obtain ⟨before, c, rfl⟩ : ∃ before c, number = before ++ [c] :=
    ⟨_, _, (List.dropLast_concat_getLast spells.ne_nil).symm⟩
  have other := spells.not_mark
  have powerless : power? c = none := by
    cases known : power? c with
    | none => rfl
    | some power => exact absurd (isMark_of_power known) other
  unfold splitSuffix
  rw [List.reverse_append, List.reverse_singleton, List.singleton_append]
  split
  · next same =>
    obtain rfl := (List.cons.inj same).1
    exact absurd isMark_i other
  · next same =>
    obtain rfl := (List.cons.inj same).1
    rw [powerless]
  · rfl

theorem parse_plain {n : Numeral} {number : List Char} (spells : Decimal.Spells n number) :
    parse (String.ofList number) = .ok (.finite n) := by
  unfold parse
  rw [String.toList_ofList, splitSuffix_plain spells]
  dsimp only
  rw [Decimal.read?_eq_finite_iff.mpr spells]

theorem not_overflows {n : Numeral} (small : n.magnitude < 10 ^ 28) : Decimal.overflows n = false := by
  unfold Decimal.overflows
  by_cases zero : n.coefficient = 0
  · simp [zero]
  · have short := (Numeral.magnitude_lt_iff zero 28).mp (by exact_mod_cast small)
    unfold Numeral.length at short
    simp [zero]
    omega

theorem withSuffix_finite {text : String} {s : Suffix} {n : Numeral} (whole : s.binary = true → 0 ≤ s.power)
    (digits : HasDigits Decimal.precision (n.magnitude * s.factor)) (small : n.magnitude * s.factor < 10 ^ 28) :
    ∃ m : Numeral, withSuffix text s (.finite n) = .ok (.finite m) ∧ m.negative = n.negative ∧
      m.magnitude = n.magnitude * s.factor := by
  have scaled := Suffix.magnitude_scale whole n
  rw [← scaled] at digits small ⊢
  have rounded := magnitude_rounded digits
  refine ⟨Decimal.rounded (s.scale n), ?_, Suffix.negative_scale s n, rounded⟩
  have fits := not_overflows (rounded.symm ▸ small : (Decimal.rounded (s.scale n)).magnitude < 10 ^ 28)
  simp [withSuffix, fits]

theorem parse_scaled {n : Numeral} {number suffix : List Char} {factor : ℚ} (spells : Decimal.Spells n number)
    (written : FactorText factor suffix) (digits : HasDigits Decimal.precision (n.magnitude * factor))
    (small : n.magnitude * factor < 10 ^ 28) :
    ∃ m : Numeral, parse (String.ofList (number ++ suffix)) = .ok (.finite m) ∧ m.negative = n.negative ∧
      m.magnitude = n.magnitude * factor := by
  have read := Decimal.read?_eq_finite_iff.mpr spells
  unfold parse
  rw [String.toList_ofList]
  cases written with
  | @decimal letter power known =>
    obtain ⟨same, other⟩ := decimalLetters_spec _ known
    rw [splitSuffix_decimal number same other]
    dsimp only
    rw [read]
    exact withSuffix_finite (s := ⟨letter, power, false⟩) nofun digits small
  | @binary letter power known =>
    obtain ⟨same, capital, whole⟩ := binaryLetters_spec _ known
    rw [splitSuffix_binary number same]
    dsimp only
    rw [read]
    dsimp only
    rw [if_pos (by simpa [Suffix.isKnown] using capital)]
    exact withSuffix_finite (s := ⟨letter, power, true⟩) (fun _ => whole) digits small

end Quantity
end ClusterLedger
