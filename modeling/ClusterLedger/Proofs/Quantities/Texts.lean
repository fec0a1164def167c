import ClusterLedger.Proofs.Quantities.Magnitudes
import ClusterLedger.Proofs.Quantities.Numerals

namespace ClusterLedger

namespace Numeral

def EndsInDigit (text : List Char) : Prop := ∃ c, text.getLast? = some c ∧ (c.isDigit = true ∨ c = '.')

theorem EndsInDigit.append {text : List Char} (ends : EndsInDigit text) (before : List Char) :
    EndsInDigit (before ++ text) := by
  obtain ⟨c, last, digit⟩ := ends
  refine ⟨c, ?_, digit⟩
  rw [List.getLast?_append, last]
  rfl

theorem endsInDigit_of_digits {digits : List Char} (nonempty : digits ≠ []) (all : ∀ c ∈ digits, c.isDigit = true) :
    EndsInDigit digits :=
  ⟨_, List.getLast?_eq_some_getLast nonempty, .inl (all _ (List.getLast_mem nonempty))⟩

theorem Spells.endsInDigit {n : Numeral} {text : List Char} (spells : Spells n text) : EndsInDigit text := by
  cases spells with
  | @spelled _ _ sign whole fraction pointed power _ behind powered nonempty digits =>
    apply EndsInDigit.append
    cases powered with
    | @power mark _ sign' digits' _ _ nonempty' all =>
      have tail := (endsInDigit_of_digits nonempty' all).append (whole ++ (pointed ++ mark :: sign'))
      simpa using tail
    | none =>
      rw [List.append_nil]
      cases behind with
      | none =>
        rw [List.append_nil] at nonempty digits ⊢
        exact endsInDigit_of_digits nonempty digits
      | point =>
        cases fraction with
        | nil => exact EndsInDigit.append ⟨'.', rfl, .inr rfl⟩ whole
        | cons first others =>
          have tail := endsInDigit_of_digits (List.cons_ne_nil first others) fun c member =>
            digits c (List.mem_append_right _ member)
          simpa using tail.append (whole ++ ['.'])

end Numeral

namespace Decimal

structure Spells (n : Numeral) (text : List Char) : Prop where
  spelled : ∃ ascii, ((Text.trim Text.isBlank text).filter (· ≠ '_')).mapM toAscii? = some ascii ∧ n.Spells ascii
  inRange : inRange n = true

theorem readName?_ne_finite (name : List Char) (negative : Bool) (n : Numeral) :
    readName? name negative ≠ some (finite n) := by
  unfold readName?
  dsimp only
  split
  · simp
  · simp
  · split <;> simp
  · split <;> simp
  · simp

theorem read?_eq_finite_iff {n : Numeral} {text : List Char} : read? text = some (finite n) ↔ Spells n text := by
  unfold read?
  simp only [Option.bind_eq_bind, Option.bind_eq_some_iff]
  constructor
  · intro ⟨ascii, plain, read⟩
    split at read
    · next m numeral =>
      split at read
      · next fits =>
        cases read
        exact ⟨⟨ascii, plain, Numeral.read?_eq_some_iff.mp numeral⟩, fits⟩
      · cases read
    · exact absurd read (readName?_ne_finite _ _ _)
  · intro ⟨⟨ascii, plain, spelled⟩, fits⟩
    refine ⟨ascii, plain, ?_⟩
    rw [Numeral.read?_eq_some_iff.mpr spelled]
    exact if_pos fits

structure IsMark (c : Char) : Prop where
  solid : Text.isBlank c = false
  counted : c ≠ '_'
  ascii : toAscii? c = some c
  digit : c.isDigit = false
  point : c ≠ '.'

theorem trim_concat {c : Char} (solid : Text.isBlank c = false) (before : List Char) :
    Text.trim Text.isBlank (before ++ [c]) = before.dropWhile Text.isBlank ++ [c] := by
  have front : (before ++ [c]).dropWhile Text.isBlank = before.dropWhile Text.isBlank ++ [c] := by
    rw [List.dropWhile_append]
    split
    · next empty =>
      rw [List.isEmpty_iff] at empty
      simp [empty, solid]
    · rfl
  unfold Text.trim
  rw [front, List.reverse_append, List.reverse_singleton, List.singleton_append,
    List.dropWhile_cons_of_neg (by simp [solid]), List.reverse_cons, List.reverse_reverse]

theorem Spells.not_mark {n : Numeral} {before : List Char} {c : Char} (spells : Spells n (before ++ [c])) :
    ¬IsMark c := by
  intro mark
  obtain ⟨ascii, plain, spelled⟩ := spells.spelled
  have kept : [c].filter (· ≠ '_') = [c] := by simp [mark.counted]
  rw [trim_concat mark.solid, List.filter_append, kept, List.mapM_append] at plain
  simp only [List.mapM_cons, List.mapM_nil, mark.ascii, Option.pure_def, Option.bind_eq_bind, Option.bind_some,
    Option.bind_eq_some_iff, Option.some.injEq] at plain
  obtain ⟨front, _, rfl⟩ := plain
  obtain ⟨last, same, ends⟩ := spelled.endsInDigit
  rw [List.getLast?_concat] at same
  obtain rfl := Option.some.inj same
  rcases ends with digit | point
  · cases digit.symm.trans mark.digit
  · exact mark.point point

theorem Spells.ne_nil {n : Numeral} {text : List Char} (spells : Spells n text) : text ≠ [] := by
  rintro rfl
  obtain ⟨ascii, plain, spelled⟩ := spells.spelled
  obtain rfl := Option.some.inj plain
  obtain ⟨last, same, _⟩ := spelled.endsInDigit
  cases same

end Decimal
end ClusterLedger
