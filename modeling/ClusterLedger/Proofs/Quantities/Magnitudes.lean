import ClusterLedger.Number.Quantity
import Mathlib.Algebra.Order.Field.Power
import Mathlib.Data.Rat.Floor
import Mathlib.Tactic.FieldSimp
import Mathlib.Tactic.Linarith
import Mathlib.Tactic.NormNum

namespace ClusterLedger

theorem zpow_eq_raise_div (base : Nat) (exponent : Int) :
    (base : ℚ) ^ exponent = (raise base exponent : ℚ) / (raise base (-exponent) : ℚ) := by
  unfold raise
  cases exponent with
  | ofNat k => simp [zpow_natCast]
  | negSucc k => simp [zpow_negSucc]

theorem decimalLength_pos (n : Nat) : 0 < decimalLength n := by
  unfold decimalLength
  split <;> omega

theorem decimalLength_le_iff {n k : Nat} (room : 0 < k) : decimalLength n ≤ k ↔ n < 10 ^ k := by
  induction n using decimalLength.induct generalizing k with
  | case1 n small =>
    have ten : 10 ≤ 10 ^ k := by simpa using Nat.pow_le_pow_right (show 0 < 10 by decide) room
    unfold decimalLength
    rw [if_pos small]
    omega
  | case2 n large ih =>
    obtain ⟨j, rfl⟩ := Nat.exists_eq_add_of_lt room
    unfold decimalLength
    rw [if_neg large, Nat.pow_succ, ← Nat.div_lt_iff_lt_mul (by decide)]
    cases j with
    | zero =>
      have first := decimalLength_pos (n / 10)
      simp
      omega
    | succ i =>
      rw [← ih (by omega)]
      omega

namespace Numeral

def magnitude (n : Numeral) : ℚ := n.coefficient * 10 ^ n.exponent

def value (n : Numeral) : ℚ := if n.negative then -n.magnitude else n.magnitude

theorem magnitude_nonneg (n : Numeral) : 0 ≤ n.magnitude := by
  unfold magnitude
  positivity

theorem abs_value (n : Numeral) : |n.value| = n.magnitude := by
  unfold value
  split
  · rw [abs_neg, abs_of_nonneg n.magnitude_nonneg]
  · exact abs_of_nonneg n.magnitude_nonneg

theorem magnitude_of_nonneg {n : Numeral} (nonneg : 0 ≤ n.value) : n.magnitude = n.value := by
  rw [← abs_value, abs_of_nonneg nonneg]

@[simp] theorem value_of_whole (n : Int) : (Numeral.mk (n < 0) n.natAbs 0).value = n := by
  simp only [value, magnitude, zpow_zero, mul_one, Nat.cast_natAbs, decide_eq_true_eq]
  split
  · next negative => rw [abs_of_neg negative, Int.cast_neg, neg_neg]
  · next positive => rw [abs_of_nonneg (Int.not_lt.mp positive)]

/-- The number of digits before the point, counted below zero for the zeros behind it. -/
def length (n : Numeral) : Int := decimalLength n.coefficient + n.exponent

theorem magnitude_lt_iff {n : Numeral} (nonzero : n.coefficient ≠ 0) (k : Int) :
    n.magnitude < 10 ^ k ↔ n.length ≤ k := by
  have ten : (0 : ℚ) < 10 ^ n.exponent := by positivity
  have scaled : n.magnitude < 10 ^ k ↔ (n.coefficient : ℚ) < 10 ^ (k - n.exponent) := by
    unfold magnitude
    rw [zpow_sub₀ (by norm_num), lt_div_iff₀ ten]
  have first := decimalLength_pos n.coefficient
  rw [scaled]
  unfold length
  rcases Int.lt_or_le 0 (k - n.exponent) with room | none
  · obtain ⟨m, same⟩ : ∃ m : Nat, k - n.exponent = m := ⟨_, (Int.toNat_of_nonneg room.le).symm⟩
    have whole : (n.coefficient : ℚ) < 10 ^ (k - n.exponent) ↔ n.coefficient < 10 ^ m := by
      rw [same, zpow_natCast]
      exact_mod_cast Iff.rfl
    rw [whole, ← decimalLength_le_iff (by omega)]
    omega
  · have below : (10 : ℚ) ^ (k - n.exponent) ≤ 1 := zpow_le_one_of_nonpos₀ (by norm_num) none
    have above : (1 : ℚ) ≤ n.coefficient := by exact_mod_cast Nat.one_le_iff_ne_zero.mpr nonzero
    constructor
    · intro less
      linarith
    · intro short
      omega

end Numeral

def HasDigits (count : Nat) (q : ℚ) : Prop :=
  ∃ (digits : Nat) (power : Int), digits < 10 ^ count ∧ q = digits * 10 ^ power

theorem nearest_of_dvd {num den : Nat} (positive : 0 < den) (divides : den ∣ num) :
    Binary64.nearest num den = num / den := by
  unfold Binary64.nearest
  rw [Nat.mod_eq_zero_of_dvd divides]
  simp [positive]

/-- Where the digits have room, what rounding takes away are zeros. -/
theorem dvd_of_hasDigits {n : Numeral} {count : Nat} (room : 0 < count) (fits : HasDigits count n.magnitude) :
    10 ^ (decimalLength n.coefficient - count) ∣ n.coefficient := by
  obtain ⟨digits, power, few, same⟩ := fits
  rcases Nat.lt_or_ge count (decimalLength n.coefficient) with long | short
  · have nonzero : n.coefficient ≠ 0 := by
      intro zero
      rw [zero] at long
      simp [decimalLength] at long
      omega
    -- As many digits as there are need a power of ten that makes up for the excess.
    have magnitude : n.magnitude < 10 ^ ((count : Int) + power) := by
      rw [same, zpow_add₀ (by norm_num), zpow_natCast]
      have less : (digits : ℚ) < 10 ^ count := by exact_mod_cast few
      exact mul_lt_mul_of_pos_right less (by positivity)
    have reach := (Numeral.magnitude_lt_iff nonzero _).mp magnitude
    unfold Numeral.length at reach
    obtain ⟨shift, apart⟩ : ∃ shift : Nat, power - n.exponent = shift :=
      ⟨(power - n.exponent).toNat, (Int.toNat_of_nonneg (by omega)).symm⟩
    have whole : n.coefficient = digits * 10 ^ shift := by
      have equal : (n.coefficient : ℚ) = digits * 10 ^ (power - n.exponent) := by
        rw [zpow_sub₀ (by norm_num), ← mul_div_assoc, ← same, Numeral.magnitude]
        field_simp
      rw [apart, zpow_natCast] at equal
      exact_mod_cast equal
    calc 10 ^ (decimalLength n.coefficient - count)
      _ ∣ 10 ^ shift := Nat.pow_dvd_pow 10 (by omega)
      _ ∣ n.coefficient := whole ▸ Nat.dvd_mul_left ..
  · simp [Nat.sub_eq_zero_of_le short]

theorem magnitude_rounded {n : Numeral} (fits : HasDigits Decimal.precision n.magnitude) :
    (Decimal.rounded n).magnitude = n.magnitude := by
  let excess := decimalLength n.coefficient - Decimal.precision
  obtain ⟨kept, whole⟩ : 10 ^ excess ∣ n.coefficient := dvd_of_hasDigits (by decide) fits
  have rounded : Binary64.nearest n.coefficient (10 ^ excess) = kept := by
    rw [nearest_of_dvd (by positivity) ⟨kept, whole⟩, whole, Nat.mul_div_cancel_left _ (by positivity)]
  calc (Decimal.rounded n).magnitude
    _ = (Binary64.nearest n.coefficient (10 ^ excess) : ℚ) * 10 ^ (n.exponent + excess) := rfl
    _ = kept * 10 ^ (n.exponent + excess) := by rw [rounded]
    _ = (10 ^ excess * kept : Nat) * 10 ^ n.exponent := by
      rw [zpow_add₀ (by norm_num), zpow_natCast]
      push_cast
      ring
    _ = n.magnitude := by rw [← whole]; rfl

/-! ### Whole mebibytes -/

/-- The quotient as it is computed is the floor of the exact one. -/
theorem floor_mebibytes (n : Numeral) :
    ⌊n.magnitude / 2 ^ 20⌋ =
      (n.coefficient * raise 10 n.exponent / (raise 10 (-n.exponent) * Quantity.mebibyte) : Nat) := by
  have ratio : n.magnitude / 2 ^ 20 =
      ((n.coefficient * raise 10 n.exponent : Nat) : ℚ) / ((raise 10 (-n.exponent) * Quantity.mebibyte : Nat) : ℚ) := by
    have ten := zpow_eq_raise_div 10 n.exponent
    have unit : (Quantity.mebibyte : ℚ) = 2 ^ 20 := by norm_num [Quantity.mebibyte]
    unfold Numeral.magnitude
    push_cast at ten ⊢
    rw [ten, unit, mul_div_assoc', div_div]
  rw [ratio, Rat.floor_natCast_div_natCast]
  rfl

def byteLimit : ℚ := 10 ^ 28 * 2 ^ 20

def wholeMebibytes (n : Numeral) : Int :=
  if n.negative then -⌊n.magnitude / 2 ^ 20⌋ else ⌊n.magnitude / 2 ^ 20⌋

theorem magnitude_of_zero {n : Numeral} (zero : n.coefficient = 0) : n.magnitude = 0 := by
  simp [Numeral.magnitude, zero]

theorem magnitude_lt_one {n : Numeral} (small : n.coefficient = 0 ∨ n.length ≤ 0) : n.magnitude < 1 := by
  by_cases zero : n.coefficient = 0
  · rw [magnitude_of_zero zero]
    norm_num
  · have less := (Numeral.magnitude_lt_iff zero 0).mpr (small.resolve_left zero)
    simpa using less

theorem byteLimit_le {n : Numeral} (nonzero : n.coefficient ≠ 0) (long : 36 < n.length) :
    ¬n.magnitude < byteLimit := by
  intro below
  have less : n.magnitude < 10 ^ (36 : Int) := below.trans (by norm_num [byteLimit])
  have short := (Numeral.magnitude_lt_iff nonzero 36).mp less
  omega

theorem wholeMebibytes?_eq (n : Numeral) :
    Quantity.wholeMebibytes? n = if n.magnitude < byteLimit then some (wholeMebibytes n) else none := by
  have length : (decimalLength n.coefficient + n.exponent : Int) = n.length := rfl
  unfold Quantity.wholeMebibytes?
  dsimp only
  rw [length]
  by_cases small : n.coefficient = 0 ∨ n.length ≤ 0
  · have below := magnitude_lt_one small
    have floor : ⌊n.magnitude / 2 ^ 20⌋ = 0 := by
      rw [Int.floor_eq_zero_iff]
      constructor
      · have nonneg := n.magnitude_nonneg
        positivity
      · rw [div_lt_one (by norm_num)]
        linarith
    have room : decimalLength 0 ≤ Decimal.precision := (decimalLength_le_iff (by decide)).mpr (by decide)
    rw [if_pos small, if_pos (below.trans (by norm_num [byteLimit])), wholeMebibytes, floor]
    exact if_pos room
  · rw [if_neg small]
    rw [not_or] at small
    by_cases long : 36 < n.length
    · rw [if_pos long, if_neg (byteLimit_le small.1 long)]
    · rw [if_neg long]
      dsimp only
      have room : n.magnitude < byteLimit ↔ ⌊n.magnitude / 2 ^ 20⌋ < 10 ^ 28 := by
        rw [Int.floor_lt, div_lt_iff₀ (by norm_num), byteLimit]
        norm_num
      rw [floor_mebibytes] at room
      rw [wholeMebibytes, floor_mebibytes]
      refine if_congr ?_ rfl rfl
      rw [room, decimalLength_le_iff (by decide)]
      exact_mod_cast Iff.rfl

end ClusterLedger
