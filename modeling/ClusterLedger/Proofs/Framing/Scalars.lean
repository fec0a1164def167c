import ClusterLedger.Proofs.Framing.Pages
import ClusterLedger.Yaml.Stream

namespace ClusterLedger

/-! ### Numbers -/

namespace Binary64

theorem clear_toDigits (n : Nat) : '\n' ∉ Nat.toDigits 10 n := by
  intro member
  have digit := Nat.isDigit_of_mem_toDigits (by decide) (by decide) member
  revert digit
  decide

variable {digits : List Char}

theorem clear_dropTrailingZeros (clear : '\n' ∉ digits) : '\n' ∉ dropTrailingZeros digits := by
  intro member
  have kept := List.dropWhile_subset _ (List.mem_reverse.mp member)
  exact clear (List.mem_reverse.mp kept)

theorem clear_positional (clear : '\n' ∉ digits) (places : Int) : '\n' ∉ positional digits places := by
  have whole : '\n' ∉ digits.take places.toNat := fun member => clear (List.mem_of_mem_take member)
  have fraction : '\n' ∉ digits.drop places.toNat := fun member => clear (List.mem_of_mem_drop member)
  unfold positional
  split
  · simp [clear]
  · dsimp only
    split <;> simp [whole, fraction]

theorem clear_scientific (clear : '\n' ∉ digits) (power : Int) : '\n' ∉ scientific digits power := by
  have exponent : '\n' ∉ padLeft 2 (Nat.toDigits 10 power.natAbs) := by
    simp [padLeft, clear_toDigits]
  have mark : '\n' ≠ if power < 0 then '-' else '+' := by
    split <;> decide
  unfold scientific
  dsimp only
  split <;> simp_all

theorem clear_text (x : Binary64) : '\n' ∉ x.text.toList := by
  have magnitude : ∀ significand exponent, '\n' ∉ magnitudeText significand exponent := by
    intro significand exponent
    unfold magnitudeText
    split
    · decide
    · dsimp only
      have digits := clear_dropTrailingZeros (clear_toDigits (shortest significand exponent).1)
      split
      · exact clear_positional digits _
      · exact clear_scientific digits _
  cases x with
  | nan origin =>
    show '\n' ∉ "nan".toList
    decide
  | infinite negative => cases negative <;> decide
  | finite negative significand exponent =>
    rw [text, String.toList_ofList]
    split <;> simp [magnitude]

end Binary64

namespace Yaml

open ClusterLedger.Text

theorem clear_withPoint {text : List Char} (clear : '\n' ∉ text) : '\n' ∉ withPoint text := by
  unfold withPoint
  split
  · exact clear
  · intro member
    obtain ⟨c, among, written⟩ := List.mem_flatMap.mp member
    split at written
    · revert written
      decide
    · exact clear (List.mem_singleton.mp written ▸ among)

theorem clear_numberText (n : Number) : '\n' ∉ (numberText n).toList := by
  cases n with
  | whole n =>
    rw [numberText, Int.toString_eq_repr, Int.repr_eq_if]
    split <;> simp [Binary64.clear_toDigits]
  | real x =>
    have general : '\n' ∉ (String.ofList (withPoint x.text.toList)).toList := by
      rw [String.toList_ofList]
      exact clear_withPoint x.clear_text
    cases x with
    | nan origin =>
      show '\n' ∉ ".nan".toList
      decide
    | infinite negative => cases negative <;> decide
    | finite => exact general

/-! ### Stretches -/

def Stretch.chars : Stretch → List Char
  | .spaces count => List.replicate count ' '
  | .breaks cs => cs
  | .word cs => cs

def Stretch.IsPure : Stretch → Prop
  | .spaces _ => True
  | .breaks cs => ∀ c ∈ cs, isBreak c = true
  | .word cs => ∀ c ∈ cs, isBreak c = false

@[simp] theorem flatMap_stretches (text : List Char) : (stretches text).flatMap Stretch.chars = text := by
  induction text with
  | nil => rfl
  | cons c rest ih =>
    rw [stretches]
    split
    · rename_i space
      obtain rfl : c = ' ' := of_decide_eq_true space
      split <;> simp_all [Stretch.chars, List.replicate_succ]
    · split <;> split <;> simp_all [Stretch.chars]

theorem isPure_of_mem_stretches (text : List Char) : ∀ s ∈ stretches text, s.IsPure := by
  induction text with
  | nil => simp [stretches]
  | cons c rest ih =>
    rw [stretches]
    split
    · split <;> simp_all [Stretch.IsPure]
    · split <;> split <;> simp_all [Stretch.IsPure]

theorem clear_of_mem_stretches {text : List Char} (clear : '\n' ∉ text) {s : Stretch}
    (member : s ∈ stretches text) : '\n' ∉ s.chars := by
  intro feed
  rw [← flatMap_stretches text] at clear
  exact clear (List.mem_flatMap.mpr ⟨s, member, feed⟩)

theorem clear_replicate (n : Nat) : '\n' ∉ List.replicate n ' ' :=
  fun member => absurd (List.mem_replicate.mp member).2 (by decide)

/-! ### Plain texts -/

namespace Pen

variable {p : Pen} {margin : Nat} {fold : Bool}

theorem Apart.writePlainStretches (inner : 0 < margin) {parts : List Stretch}
    (clear : ∀ s ∈ parts, '\n' ∉ s.chars) (apart : p.Apart) :
    (writePlainStretches margin fold parts p).Apart := by
  induction parts generalizing p with
  | nil => exact apart
  | cons s rest ih =>
    have first := clear s List.mem_cons_self
    have others := fun other member => clear other (List.mem_cons_of_mem s member)
    cases s with
    | spaces n =>
      rw [Yaml.writePlainStretches]
      split
      · exact ih others (apart.foldTo inner)
      · exact ih others (apart.put first)
    | breaks cs => exact ih others (apart.put first)
    | word cs => exact ih others (apart.put first)

theorem Ready.writePlain (inner : 0 < margin) {text : List Char} (clear : '\n' ∉ text) (ready : p.Ready) :
    (writePlain margin fold text p).Ready := by
  unfold Yaml.writePlain
  split
  · exact ready
  · -- Behind a dash a blank is written first, which sets the line apart.
    have begun : Apart { (if p.spaced then p else p.put [' ']) with spaced := false, inMargin := false } := by
      cases ready with
      | apart apart =>
        split
        · exact apart.flags false (by simp)
        · exact (apart.put (by decide)).flags false (by simp)
      | dashed dashed =>
        rw [dashed.spaced]
        exact (apart_put dashed.line (by decide) List.mem_cons_self (by decide)).flags false (by simp)
    exact .apart (begun.writePlainStretches inner fun _ member => clear_of_mem_stretches clear member)

/-- Without folds a plain text stays on its line. -/
theorem onLine_writePlainStretches {parts : List Stretch} (clear : ∀ s ∈ parts, '\n' ∉ s.chars)
    {line : List Char} (on : OnLine p.written line) :
    ∃ longer, OnLine (writePlainStretches margin false parts p).written longer := by
  induction parts generalizing p line with
  | nil => exact ⟨line, on⟩
  | cons s rest ih =>
    have first := clear s List.mem_cons_self
    have others := fun other member => clear other (List.mem_cons_of_mem s member)
    cases s with
    | spaces n => exact ih others (on.append first)
    | breaks cs => exact ih others (on.append first)
    | word cs => exact ih others (on.append first)

theorem onLine_writePlain {text : List Char} (clear : '\n' ∉ text) {line : List Char}
    (on : OnLine p.written line) : ∃ longer, OnLine (writePlain margin false text p).written longer := by
  unfold Yaml.writePlain
  split
  · exact ⟨line, on⟩
  · have begun : ∃ longer, OnLine (if p.spaced then p else p.put [' ']).written longer := by
      split
      · exact ⟨line, on⟩
      · exact ⟨line ++ [' '], on.append (by decide)⟩
    obtain ⟨longer, on⟩ := begun
    exact onLine_writePlainStretches (fun _ member => clear_of_mem_stretches clear member) on

/-! ### Single quotes -/

theorem clear_doubleQuotes {cs : List Char} (clear : '\n' ∉ cs) : '\n' ∉ doubleQuotes cs := by
  intro member
  obtain ⟨c, among, doubled⟩ := List.mem_flatMap.mp member
  split at doubled
  · revert doubled
    decide
  · exact clear (List.mem_singleton.mp doubled ▸ among)

theorem Unmarked.foldl_lineBreak {cs : List Char} (breaks : ∀ c ∈ cs, isBreak c = true) (unmarked : p.Unmarked) :
    (cs.foldl Pen.lineBreak p).Unmarked := by
  induction cs generalizing p with
  | nil => exact unmarked
  | cons c rest ih =>
    have other : c ≠ '-' := by
      rintro rfl
      have none := breaks '-' List.mem_cons_self
      revert none
      decide
    exact ih (fun c later => breaks c (List.mem_cons_of_mem _ later)) (unmarked.lineBreak other)

theorem foldl_lineBreak_place (cs : List Char) (place : p.column < margin ∨ p.Apart) (inner : 0 < margin) :
    (cs.foldl Pen.lineBreak p).column < margin ∨ (cs.foldl Pen.lineBreak p).Apart := by
  induction cs generalizing p with
  | nil => exact place
  | cons c rest ih => exact ih (Or.inl inner)

theorem Apart.writeBreaks (inner : 0 < margin) {cs : List Char} (breaks : ∀ c ∈ cs, isBreak c = true)
    (apart : p.Apart) : (writeBreaks margin cs p).Apart := by
  unfold Yaml.writeBreaks
  dsimp only
  split
  · exact (apart.unmarked.fresh_lineBreak.unmarked.foldl_lineBreak breaks).apart_indentTo
      (foldl_lineBreak_place cs (Or.inl inner) inner) inner
  · exact (apart.unmarked.foldl_lineBreak breaks).apart_indentTo
      (foldl_lineBreak_place cs (Or.inr apart) inner) inner

theorem Apart.writeSingleStretches (inner : 0 < margin) {parts : List Stretch} (pure : ∀ s ∈ parts, s.IsPure)
    {first : Bool} (apart : p.Apart) : (writeSingleStretches margin fold first parts p).Apart := by
  induction parts generalizing p first with
  | nil => exact apart
  | cons s rest ih =>
    have own := pure s List.mem_cons_self
    have others := fun other member => pure other (List.mem_cons_of_mem s member)
    cases s with
    | spaces n =>
      rw [Yaml.writeSingleStretches]
      split
      · exact ih others (apart.indentTo inner)
      · exact ih others (apart.put (clear_replicate n))
    | breaks cs => exact ih others (apart.writeBreaks inner own)
    | word cs =>
      have clear : '\n' ∉ cs := fun member => absurd (own '\n' member) (by decide)
      exact ih others (apart.put (clear_doubleQuotes clear))

theorem apart_writeSingle (inner : 0 < margin) (text : List Char) {line : List Char}
    (on : OnLine p.written line) : (writeSingle margin fold text p).Apart :=
  Apart.closeMark ((apart_mark on (by decide) (by decide)).writeSingleStretches inner
    (isPure_of_mem_stretches text)) (by decide)

/-! ### Double quotes -/

theorem clear_upperHex (width n : Nat) : '\n' ∉ upperHex width n := by
  have digit : ∀ n < 16, upperHexDigit n ≠ '\n' := by decide
  rw [upperHex]
  induction width generalizing n with
  | zero => simp [hexWith]
  | succ width ih =>
    rw [hexWith, List.mem_append, List.mem_singleton]
    rintro (before | last)
    · exact ih (n / 16) before
    · exact digit (n % 16) (Nat.mod_lt n (by decide)) last.symm

theorem clear_escaped (c : Char) : '\n' ∉ escaped c := by
  have named : ∀ e, namedEscape? c = some e → e ≠ '\n' := by
    intro e found
    unfold namedEscape? at found
    split at found <;> cases found <;> decide
  unfold escaped
  split
  · rename_i e found
    simp [(named e found).symm]
  · dsimp only
    split
    · simp [clear_upperHex]
    · split <;> simp [clear_upperHex]

theorem Apart.foldDouble (inner : 0 < margin) (next : Option Char) (apart : p.Apart) :
    (foldDouble margin next p).Apart := by
  have folded := (apart.put (show '\n' ∉ ['\\'] by decide)).foldTo inner
  unfold Yaml.foldDouble
  dsimp only
  split
  · exact folded.put (by decide)
  · exact folded

theorem Apart.writeDoubleChars (inner : 0 < margin) {text : List Char} {first afterEscape : Bool}
    (apart : p.Apart) : (writeDoubleChars margin fold first afterEscape text p).Apart := by
  induction text generalizing p first afterEscape with
  | nil => exact apart
  | cons c rest ih =>
    rw [Yaml.writeDoubleChars]
    dsimp only
    split
    · rename_i stands
      have clear : '\n' ∉ [c] := by
        intro member
        rw [← List.mem_singleton.mp member] at stands
        revert stands
        decide
      split
      · exact ih ((apart.foldDouble inner (some c)).put clear)
      · exact ih (apart.put clear)
    · have escape := apart.put (clear_escaped c)
      split
      · exact ih (escape.foldDouble inner rest.head?)
      · exact ih escape

theorem apart_writeDouble (inner : 0 < margin) (text : List Char) {line : List Char}
    (on : OnLine p.written line) : (writeDouble margin fold text p).Apart :=
  ((apart_mark on (by decide) (by decide)).writeDoubleChars inner).closeMark (by decide)

/-! ### Texts in any style -/

theorem clear_of_styleOf {text : String} (plain : styleOf text = .plain) : '\n' ∉ text.toList := by
  unfold styleOf at plain
  split at plain
  · rename_i both
    intro member
    have multiline : isMultiline text.toList = true := List.any_eq_true.mpr ⟨'\n', member, by decide⟩
    simp [allowsPlain, multiline] at both
  · split at plain <;> cases plain

theorem Ready.writeText (inner : 0 < margin) (text : String) (ready : p.Ready) :
    (writeText margin fold text p).Ready := by
  obtain ⟨line, on, _⟩ := ready.unmarked
  unfold Yaml.writeText
  split
  · rename_i plain
    exact ready.writePlain inner (clear_of_styleOf plain)
  · exact .apart (apart_writeSingle inner text.toList on)
  · exact .apart (apart_writeDouble inner text.toList on)

theorem onLine_writeText (inner : 0 < margin) (text : String) {line : List Char} (on : OnLine p.written line) :
    ∃ longer, OnLine (writeText margin false text p).written longer := by
  unfold Yaml.writeText
  split
  · rename_i plain
    exact onLine_writePlain (clear_of_styleOf plain) on
  · obtain ⟨longer, after, _⟩ := (apart_writeSingle inner text.toList on).unmarked
    exact ⟨longer, after⟩
  · obtain ⟨longer, after, _⟩ := (apart_writeDouble inner text.toList on).unmarked
    exact ⟨longer, after⟩

end Pen
end Yaml
end ClusterLedger
