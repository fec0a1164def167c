import ClusterLedger.Proofs.Framing.Lines
import ClusterLedger.Yaml.Pen

/-!
Where a pen stands on its page. It is followed through four places: at the start of a line, behind a single
dash, and behind something other than dashes; wherever it goes from there, the lines that it ends are no
separators. Margins are 0 or at least 2, as those of nested blocks are.
-/

namespace ClusterLedger.Yaml

open ClusterLedger.Text

/-- Full lines that are no separators were written, and of the current line this much. -/
structure OnLine (written line : List Char) : Prop where
  clear : '\n' ∉ line
  before : ∃ full, written.reverse = ofLines full ++ line ∧ ∀ other ∈ full, '\n' ∉ other ∧ other ≠ dashes

namespace OnLine

variable {written line : List Char}

theorem append (on : OnLine written line) {cs : List Char} (clear : '\n' ∉ cs) :
    OnLine (cs.reverse ++ written) (line ++ cs) := by
  obtain ⟨full, whole, apart⟩ := on.before
  refine ⟨by simp [on.clear, clear], full, ?_, apart⟩
  rw [List.reverse_append, List.reverse_reverse, whole, List.append_assoc]

theorem ended (on : OnLine written line) (apart : line ≠ dashes) : OnLine ('\n' :: written) [] := by
  obtain ⟨full, whole, others⟩ := on.before
  refine ⟨by simp, full ++ [line], ?_, fun other member => ?_⟩
  · rw [List.reverse_cons, whole, ofLines_concat, List.append_nil]
  · rcases List.mem_append.mp member with before | last
    · exact others other before
    · rw [List.mem_singleton.mp last]
      exact ⟨on.clear, apart⟩

end OnLine

namespace Pen

variable {p : Pen} {margin : Nat}

def Unmarked (p : Pen) : Prop := ∃ line, OnLine p.written line ∧ line ≠ dashes

structure Fresh (p : Pen) : Prop where
  line : OnLine p.written []
  column : p.column = 0
  spaced : p.spaced = true
  inMargin : p.inMargin = true

/-- Behind something other than dashes, so that the line can no longer become a separator. -/
structure Apart (p : Pen) : Prop where
  line : ∃ line, OnLine p.written line ∧ ∃ c ∈ line, c ≠ '-'
  pending : p.inMargin = false ∨ 0 < p.column

structure Dashed (p : Pen) : Prop where
  line : OnLine p.written ['-']
  column : p.column = 1
  spaced : p.spaced = false

inductive Ready (p : Pen) : Prop
  | apart (apart : p.Apart)
  | dashed (dashed : p.Dashed)

inductive Open (p : Pen) : Prop
  | fresh (fresh : p.Fresh)
  | apart (apart : p.Apart)

theorem ne_dashes_of_mem {line : List Char} {c : Char} (member : c ∈ line) (other : c ≠ '-') :
    line ≠ dashes := by
  rintro rfl
  exact other (by simpa [dashes] using member)

theorem Fresh.unmarked (fresh : p.Fresh) : p.Unmarked := ⟨[], fresh.line, by decide⟩

theorem Dashed.unmarked (dashed : p.Dashed) : p.Unmarked := ⟨['-'], dashed.line, by decide⟩

theorem Apart.unmarked (apart : p.Apart) : p.Unmarked := by
  obtain ⟨line, on, c, member, other⟩ := apart.line
  exact ⟨line, on, ne_dashes_of_mem member other⟩

theorem Ready.unmarked (ready : p.Ready) : p.Unmarked := by
  cases ready with
  | apart apart => exact apart.unmarked
  | dashed dashed => exact dashed.unmarked

theorem Open.unmarked (opened : p.Open) : p.Unmarked := by
  cases opened with
  | fresh fresh => exact fresh.unmarked
  | apart apart => exact apart.unmarked

theorem fresh_blank : Fresh blank := ⟨⟨by simp, [], rfl, by simp⟩, rfl, rfl, rfl⟩

/-! ### Line ends -/

theorem Unmarked.fresh_lineBreak (unmarked : p.Unmarked) : (p.lineBreak '\n').Fresh := by
  obtain ⟨line, on, apart⟩ := unmarked
  exact ⟨on.ended apart, rfl, rfl, rfl⟩

theorem Unmarked.lineBreak (unmarked : p.Unmarked) {c : Char} (other : c ≠ '-') :
    (p.lineBreak c).Unmarked := by
  by_cases feed : c = '\n'
  · subst feed
    exact unmarked.fresh_lineBreak.unmarked
  · obtain ⟨line, on, _⟩ := unmarked
    have one : '\n' ∉ [c] := fun member => feed (List.mem_singleton.mp member).symm
    exact ⟨line ++ [c], on.append one, ne_dashes_of_mem (List.mem_append_right line List.mem_cons_self) other⟩

/-! ### Marks and text on a line -/

theorem Apart.put (apart : p.Apart) {cs : List Char} (clear : '\n' ∉ cs) : (p.put cs).Apart := by
  obtain ⟨line, on, c, member, other⟩ := apart.line
  refine ⟨⟨line ++ cs, on.append clear, c, List.mem_append_left cs member, other⟩, ?_⟩
  exact apart.pending.imp id fun later => Nat.lt_add_right cs.length later

theorem apart_put {line cs : List Char} (on : OnLine p.written line) (clear : '\n' ∉ cs) {c : Char}
    (member : c ∈ cs) (other : c ≠ '-') : (p.put cs).Apart := by
  refine ⟨⟨line ++ cs, on.append clear, c, List.mem_append_right line member, other⟩, Or.inr ?_⟩
  have nonempty : 0 < cs.length := List.length_pos_of_mem member
  show 0 < p.column + cs.length
  omega

/-- Of the flags of a pen only `inMargin` counts, and only before the first column. -/
theorem Apart.flags (apart : p.Apart) (spaced : Bool) {inMargin : Bool}
    (margin : inMargin = true → p.inMargin = true) : Apart { p with spaced, inMargin } := by
  refine ⟨apart.line, ?_⟩
  rcases apart.pending with inside | later
  · refine Or.inl (Bool.eq_false_iff.mpr fun still => ?_)
    rw [margin still] at inside
    cases inside
  · exact Or.inr later

def spacedMark (p : Pen) (c : Char) : List Char := if p.spaced then [c] else [' ', c]

theorem clear_spacedMark {c : Char} (feed : c ≠ '\n') : '\n' ∉ p.spacedMark c := by
  unfold spacedMark
  split <;> simp [feed.symm]

theorem mem_spacedMark {c : Char} : c ∈ p.spacedMark c := by
  unfold spacedMark
  split <;> simp

section

variable {line : List Char} {c : Char}

theorem apart_mark (on : OnLine p.written line) (feed : c ≠ '\n') (other : c ≠ '-') :
    (p.mark c).Apart :=
  (apart_put on (clear_spacedMark feed) mem_spacedMark other).flags false (by simp)

theorem apart_blockMark (on : OnLine p.written line) (feed : c ≠ '\n') (other : c ≠ '-') :
    (p.blockMark c).Apart :=
  (apart_put on (clear_spacedMark feed) mem_spacedMark other).flags false id

theorem apart_closeMark (on : OnLine p.written line) (feed : c ≠ '\n') (other : c ≠ '-') :
    (p.closeMark c).Apart :=
  (apart_put on (by simpa using feed.symm) List.mem_cons_self other).flags false (by simp)

end

theorem Apart.closeMark (apart : p.Apart) {c : Char} (feed : c ≠ '\n') : (p.closeMark c).Apart :=
  (apart.put (by simpa using feed.symm)).flags false (by simp)

theorem Open.ready_blockMark (opened : p.Open) : (p.blockMark '-').Ready := by
  cases opened with
  | fresh fresh =>
    refine .dashed ⟨?_, ?_, rfl⟩
    · have one : '\n' ∉ ['-'] := by decide
      simpa [Pen.blockMark, Pen.put, fresh.spaced] using fresh.line.append one
    · simp [Pen.blockMark, Pen.put, fresh.spaced, fresh.column]
  | apart apart => exact .apart ((apart.put (clear_spacedMark (by decide))).flags false id)

/-! ### Margins -/

theorem Unmarked.apart_indentTo (unmarked : p.Unmarked) (place : p.column < margin ∨ p.Apart)
    (inner : 0 < margin) : (p.indentTo margin).Apart := by
  have indented : ∀ q : Pen, q.Unmarked → q.column < margin →
      Apart { q.put (List.replicate (margin - q.column) ' ') with spaced := true } := by
    intro q ⟨line, on, _⟩ before
    have blank : ' ' ∈ List.replicate (margin - q.column) ' ' :=
      List.mem_replicate.mpr ⟨by omega, rfl⟩
    have clear : '\n' ∉ List.replicate (margin - q.column) ' ' :=
      fun member => absurd (List.mem_replicate.mp member).2 (by decide)
    exact (apart_put on clear blank (by decide)).flags true id
  -- A new line is begun and indented, or blanks are added to this one, or the pen stays where it is.
  unfold indentTo
  split
  · dsimp only
    rw [if_pos (show (p.lineBreak '\n').column < margin from inner)]
    exact indented _ unmarked.fresh_lineBreak.unmarked inner
  · dsimp only
    split
    · exact indented p unmarked ‹_›
    · rcases place with before | apart
      · contradiction
      · exact apart

theorem Apart.indentTo (apart : p.Apart) (inner : 0 < margin) : (p.indentTo margin).Apart :=
  apart.unmarked.apart_indentTo (Or.inr apart) inner

theorem Apart.foldTo (apart : p.Apart) (inner : 0 < margin) : (p.foldTo margin).Apart :=
  (apart.indentTo inner).flags false (by simp)

theorem Ready.apart_indentTo (ready : p.Ready) (inner : 2 ≤ margin) : (p.indentTo margin).Apart := by
  cases ready with
  | apart apart => exact apart.indentTo (by omega)
  | dashed dashed =>
    have before : p.column < margin := by
      rw [dashed.column]
      omega
    exact dashed.unmarked.apart_indentTo (Or.inl before) (by omega)

/-- Where a node may be written the line has begun, so margin 0 is on the next line. -/
theorem Ready.indentTo_zero (ready : p.Ready) : p.indentTo 0 = p.lineBreak '\n' := by
  have pending : p.inMargin = false ∨ 0 < p.column := by
    cases ready with
    | apart apart => exact apart.pending
    | dashed dashed =>
      rw [dashed.column]
      exact Or.inr Nat.one_pos
  have breaks : (!p.inMargin || decide (0 < p.column) || (p.column = 0 && !p.spaced)) = true := by
    rcases pending with inside | later
    · simp [inside]
    · simp [later]
  unfold indentTo
  rw [if_pos breaks]
  rfl

theorem Fresh.indentTo_zero (fresh : p.Fresh) : p.indentTo 0 = p := by
  unfold indentTo
  simp [fresh.inMargin, fresh.column, fresh.spaced]

theorem Ready.open_indentTo (ready : p.Ready) (known : margin ≠ 1) : (p.indentTo margin).Open := by
  by_cases outer : margin = 0
  · subst outer
    rw [ready.indentTo_zero]
    exact .fresh ready.unmarked.fresh_lineBreak
  · exact .apart (ready.apart_indentTo (by omega))

end Pen
end ClusterLedger.Yaml
