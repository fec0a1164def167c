import ClusterLedger.Number.Decimal
import Mathlib.Data.List.TakeWhile

namespace ClusterLedger
namespace Numeral

inductive SignText : Bool → List Char → Prop
  | none : SignText false []
  | plus : SignText false ['+']
  | minus : SignText true ['-']

inductive FractionText : List Char → List Char → Prop
  | none : FractionText [] []
  | point (digits : List Char) : FractionText digits ('.' :: digits)

inductive PowerText : Int → List Char → Prop
  | none : PowerText 0 []
  | power {mark : Char} {negative : Bool} {sign digits : List Char} (marked : mark = 'e' ∨ mark = 'E')
      (signed : SignText negative sign) (nonempty : digits ≠ []) (all : ∀ c ∈ digits, c.isDigit = true) :
      PowerText (if negative then -(digitsValue digits : Int) else digitsValue digits) (mark :: (sign ++ digits))

/-- A numeral as it is spelled: its digits stand for a whole number, which the digits behind the point scale down. -/
inductive Spells : Numeral → List Char → Prop
  | spelled {negative : Bool} {exponent : Int} {sign whole fraction pointed power : List Char}
      (signed : SignText negative sign) (behind : FractionText fraction pointed)
      (powered : PowerText exponent power) (nonempty : whole ++ fraction ≠ [])
      (digits : ∀ c ∈ whole ++ fraction, c.isDigit = true) :
      Spells ⟨negative, digitsValue (whole ++ fraction), exponent - fraction.length⟩
        (sign ++ (whole ++ (pointed ++ power)))

def DigitsEnd (text : List Char) : Prop := ∀ c rest, text = c :: rest → c.isDigit = false

theorem takeWhile_digits {digits rest : List Char} (all : ∀ c ∈ digits, c.isDigit = true) (ended : DigitsEnd rest) :
    (digits ++ rest).takeWhile Char.isDigit = digits := by
  have idle : rest.takeWhile Char.isDigit = [] := by
    cases rest with
    | nil => rfl
    | cons c more => rw [List.takeWhile_cons_of_neg (by simp [ended c more rfl])]
  rw [List.takeWhile_append_of_pos all, idle, List.append_nil]

theorem dropWhile_digits {digits rest : List Char} (all : ∀ c ∈ digits, c.isDigit = true) (ended : DigitsEnd rest) :
    (digits ++ rest).dropWhile Char.isDigit = rest := by
  rw [List.dropWhile_append_of_pos all]
  cases rest with
  | nil => rfl
  | cons c more => rw [List.dropWhile_cons_of_neg (by simp [ended c more rfl])]

theorem splitSign_append {negative : Bool} {sign body : List Char} (signed : SignText negative sign)
    (unsigned : ∀ c rest, body = c :: rest → c ≠ '+' ∧ c ≠ '-') : splitSign (sign ++ body) = (negative, body) := by
  cases signed with
  | none =>
    cases body with
    | nil => rfl
    | cons c rest =>
      have other := unsigned c rest rfl
      simp [splitSign, other]
  | plus => rfl
  | minus => rfl

theorem splitSign_spec (text : List Char) :
    ∃ sign, SignText (splitSign text).1 sign ∧ text = sign ++ (splitSign text).2 := by
  unfold splitSign
  split
  · exact ⟨_, .minus, rfl⟩
  · exact ⟨_, .plus, rfl⟩
  · exact ⟨_, .none, rfl⟩

theorem unsigned_of_digit {c : Char} (digit : c.isDigit = true) : c ≠ '+' ∧ c ≠ '-' := by
  constructor <;> rintro rfl <;> cases digit

theorem readExponent?_of_powerText {exponent : Int} {power : List Char} (powered : PowerText exponent power) :
    readExponent? power = some exponent := by
  cases powered with
  | none => rfl
  | @power mark negative sign digits marked signed nonempty all =>
    have split : splitSign (sign ++ digits) = (negative, digits) :=
      splitSign_append signed fun c rest same => unsigned_of_digit (all c (same ▸ List.mem_cons_self))
    have accepted : ¬(digits = [] ∨ digits.any (fun c => !c.isDigit) = true) := by
      rw [not_or, Bool.not_eq_true, List.any_eq_false]
      exact ⟨nonempty, fun c member => by simp [all c member]⟩
    unfold readExponent?
    dsimp only
    rw [if_pos marked, split]
    exact if_neg accepted

theorem powerText_of_readExponent? {exponent : Int} {power : List Char}
    (read : readExponent? power = some exponent) : PowerText exponent power := by
  cases power with
  | nil =>
    obtain rfl := Option.some.inj read
    exact .none
  | cons mark rest =>
    obtain ⟨sign, signed, same⟩ := splitSign_spec rest
    unfold readExponent? at read
    dsimp only at read
    split at read
    · next marked =>
      split at read
      · cases read
      · next accepted =>
        rw [not_or, Bool.not_eq_true, List.any_eq_false] at accepted
        obtain rfl := Option.some.inj read
        rw [same]
        have all : ∀ c ∈ (splitSign rest).2, c.isDigit = true := by
          intro c member
          simpa using accepted.2 c member
        have powered := PowerText.power marked signed accepted.1 all
        rwa [← same] at powered ⊢
    · cases read

theorem digitsEnd_power {exponent : Int} {power : List Char} (powered : PowerText exponent power) :
    DigitsEnd power := by
  intro c rest same
  cases powered with
  | none => cases same
  | power marked =>
    cases same
    rcases marked with rfl | rfl <;> rfl

theorem digitsEnd_pointed {exponent : Int} {fraction pointed power : List Char}
    (behind : FractionText fraction pointed) (powered : PowerText exponent power) : DigitsEnd (pointed ++ power) := by
  cases behind with
  | none => exact digitsEnd_power powered
  | point =>
    intro c rest same
    cases same
    rfl

theorem splitFraction_append {exponent : Int} {fraction pointed power : List Char}
    (behind : FractionText fraction pointed) (all : ∀ c ∈ fraction, c.isDigit = true)
    (powered : PowerText exponent power) : splitFraction (pointed ++ power) = (fraction, power) := by
  cases behind with
  | none =>
    cases powered with
    | none => rfl
    | power marked => rcases marked with rfl | rfl <;> rfl
  | point =>
    have ended := digitsEnd_power powered
    rw [List.cons_append, splitFraction, takeWhile_digits all ended, dropWhile_digits all ended]

theorem splitFraction_spec (text : List Char) :
    ∃ pointed, FractionText (splitFraction text).1 pointed ∧ text = pointed ++ (splitFraction text).2 ∧
      ∀ c ∈ (splitFraction text).1, c.isDigit = true := by
  unfold splitFraction
  split
  · next rest =>
    refine ⟨_, .point _, ?_, fun c member => List.mem_takeWhile_imp member⟩
    rw [List.cons_append, List.takeWhile_append_dropWhile]
  · exact ⟨_, .none, rfl, by simp⟩

theorem read?_of_spells {n : Numeral} {text : List Char} (spells : Spells n text) : read? text = some n := by
  cases spells with
  | @spelled negative exponent sign whole fraction pointed power signed behind powered nonempty digits =>
    have ended := digitsEnd_pointed behind powered
    have wholeDigits : ∀ c ∈ whole, c.isDigit = true := fun c member => digits c (List.mem_append_left _ member)
    have unsigned : ∀ c rest, whole ++ (pointed ++ power) = c :: rest → c ≠ '+' ∧ c ≠ '-' := by
      intro c rest same
      cases whole with
      | cons first others =>
        cases same
        exact unsigned_of_digit (digits c List.mem_cons_self)
      | nil =>
        cases behind with
        | none => exact absurd rfl nonempty
        | point =>
          cases same
          decide
    unfold read?
    rw [splitSign_append signed unsigned]
    dsimp only
    rw [takeWhile_digits wholeDigits ended, dropWhile_digits wholeDigits ended,
      splitFraction_append behind (fun c member => digits c (List.mem_append_right _ member)) powered]
    dsimp only
    rw [if_neg nonempty, readExponent?_of_powerText powered]
    rfl

theorem spells_of_read? {n : Numeral} {text : List Char} (read : read? text = some n) : Spells n text := by
  obtain ⟨sign, signed, same⟩ := splitSign_spec text
  let body := (splitSign text).2
  obtain ⟨pointed, behind, rest, all⟩ := splitFraction_spec (body.dropWhile Char.isDigit)
  unfold read? at read
  dsimp only at read
  split at read
  · cases read
  · next nonempty =>
    obtain ⟨exponent, power, rfl⟩ := Option.map_eq_some_iff.mp read
    have digits : ∀ c ∈ body.takeWhile Char.isDigit ++ (splitFraction (body.dropWhile Char.isDigit)).1,
        c.isDigit = true := by
      intro c member
      rcases List.mem_append.mp member with inWhole | inFraction
      · exact List.mem_takeWhile_imp inWhole
      · exact all c inFraction
    have spelled := Spells.spelled signed behind (powerText_of_readExponent? power) nonempty digits
    rwa [← rest, List.takeWhile_append_dropWhile, ← same] at spelled

theorem read?_eq_some_iff {n : Numeral} {text : List Char} : read? text = some n ↔ Spells n text :=
  ⟨spells_of_read?, read?_of_spells⟩

end Numeral
end ClusterLedger
