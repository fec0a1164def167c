import ClusterLedger.Proofs.Framing.Scalars
import ClusterLedger.Proofs.Rejoining

namespace ClusterLedger
namespace Yaml

open ClusterLedger.Text

namespace Pen

variable {p : Pen} {margin : Nat}

theorem Open.ready_writeKey (known : margin ≠ 1) (key : String) (opened : p.Open) :
    (writeKey margin key p).Ready := by
  obtain ⟨line, on, _⟩ := opened.unmarked
  have inner : 0 < margin + 2 := Nat.zero_lt_succ _
  unfold writeKey
  split
  · obtain ⟨_, after⟩ := onLine_writeText inner key on
    exact .apart (apart_closeMark after (by decide) (by decide))
  · have asked : (p.blockMark '?').Ready := .apart (apart_blockMark on (by decide) (by decide))
    have written : (writeText (margin + 2) true key (p.blockMark '?')).Ready := asked.writeText inner key
    obtain ⟨_, after, _⟩ := (written.open_indentTo known).unmarked
    exact .apart (apart_blockMark after (by decide) (by decide))

theorem Ready.writeEmpty {opening closing : Char} (feed : opening ≠ '\n') (other : opening ≠ '-')
    (closed : closing ≠ '\n') (ready : p.Ready) : (writeEmpty opening closing p).Ready := by
  obtain ⟨_, on, _⟩ := ready.unmarked
  exact .apart ((apart_mark on feed other).closeMark closed)

theorem sequenceMargin_ne_one (known : margin ≠ 1) (underKey : Bool) :
    sequenceMargin (some margin) underKey p ≠ 1 := by
  unfold sequenceMargin
  split
  · exact known
  · exact Nat.succ_succ_ne_one margin

-- The induction is on the document; margins grow by 2 from 0, so that the margin 1 is never moved to.
mutual

theorem Ready.writeNode {margin : Nat} (known : margin ≠ 1) (underKey : Bool) : ∀ (d : Document) {p : Pen},
    p.Ready → (writeNode (some margin) underKey d p).Ready
  | .null, _, ready => ready.writePlain (Nat.zero_lt_succ _) (by decide)
  | .bool true, _, ready => ready.writePlain (Nat.zero_lt_succ _) (by decide)
  | .bool false, _, ready => ready.writePlain (Nat.zero_lt_succ _) (by decide)
  | .number n, _, ready => ready.writePlain (Nat.zero_lt_succ _) (clear_numberText n)
  | .string s, _, ready => ready.writeText (Nat.zero_lt_succ _) s
  | .sequence [], _, ready => ready.writeEmpty (by decide) (by decide) (by decide)
  | .sequence (item :: rest), _, ready =>
    Ready.writeItems (sequenceMargin_ne_one known underKey) (item :: rest) ready
  | .mapping [], _, ready => ready.writeEmpty (by decide) (by decide) (by decide)
  | .mapping (entry :: rest), _, ready =>
    Ready.writeEntries (Nat.succ_succ_ne_one margin) (entry :: rest) ready

theorem Ready.writeItems {margin : Nat} (known : margin ≠ 1) : ∀ (items : List Document) {p : Pen},
    p.Ready → (writeItems margin items p).Ready
  | [], _, ready => ready
  | item :: rest, _, ready => by
    have dashed := (ready.open_indentTo known).ready_blockMark
    exact Ready.writeItems known rest (Ready.writeNode known false item dashed)

theorem Ready.writeEntries {margin : Nat} (known : margin ≠ 1) : ∀ (entries : List (String × Document))
    {p : Pen}, p.Ready → (writeEntries margin entries p).Ready
  | [], _, ready => ready
  | (key, value) :: rest, _, ready => by
    have keyed := (ready.open_indentTo known).ready_writeKey known key
    exact Ready.writeEntries known rest (Ready.writeNode known true value keyed)

end

theorem ready_writeRoot (entries : List (String × Document)) :
    (writeNode none false (.mapping entries) blank).Ready := by
  cases entries with
  | nil => exact .apart ((apart_mark fresh_blank.line (by decide) (by decide)).closeMark (by decide))
  | cons entry rest =>
    obtain ⟨key, value⟩ := entry
    have outer : (0 : Nat) ≠ 1 := Nat.zero_ne_one
    show (writeEntries 0 rest (writeNode (some 0) true value (writeKey 0 key (blank.indentTo 0)))).Ready
    rw [fresh_blank.indentTo_zero]
    have keyed := (Open.fresh fresh_blank).ready_writeKey outer key
    exact Ready.writeEntries outer rest (Ready.writeNode outer true value keyed)

theorem Unmarked.framed (unmarked : p.Unmarked) : IsFramed (p.lineBreak '\n').text := by
  obtain ⟨line, on, apart⟩ := unmarked
  obtain ⟨full, whole, others⟩ := on.before
  have text : (p.lineBreak '\n').text = String.ofList (ofLines (full ++ [line])) := by
    rw [ofLines_concat, ← whole, ← List.reverse_cons]
    rfl
  have all : ∀ other ∈ full ++ [line], '\n' ∉ other ∧ other ≠ dashes := by
    intro other member
    rcases List.mem_append.mp member with before | last
    · exact others other before
    · rw [List.mem_singleton.mp last]
      exact ⟨on.clear, apart⟩
  rw [text]
  constructor
  · refine ⟨String.ofList (ofLines full ++ line), ?_⟩
    rw [ofLines_concat, String.ofList_append]
  · rw [String.toList_ofList, lines_ofLines fun other member => (all other member).1]
    intro ended member
    obtain ⟨other, among, rfl⟩ := List.mem_map.mp member
    have separator := isSeparator_concat (all other among).1
    exact Bool.eq_false_iff.mpr fun marked => (all other among).2 (separator.mp marked)

end Pen

/-- The text of a mapping consists of full lines, and none of them separates documents. -/
theorem isFramed_serialize (entries : List (String × Document)) : IsFramed (serialize (.mapping entries)) := by
  have ready := Pen.ready_writeRoot ((Document.sortedEntries entries).mergeSort fun a b => a.1 ≤ b.1)
  have text : serialize (.mapping entries) =
      ((writeNode none false (Document.mapping entries).sorted Pen.blank).indentTo 0).text := rfl
  rw [text, Document.sorted, ready.indentTo_zero]
  exact ready.unmarked.framed

end Yaml

variable {rule : RedactionRule} {half : Half}

theorem isFramed_projectValue {v : Value} {text : String} (projected : projectValue rule half v = .ok text) :
    Text.IsFramed text := by
  unfold projectValue at projected
  obtain ⟨d, _, following⟩ := ok_of_bind projected
  obtain ⟨emitted, ok, written⟩ := ok_of_bind following
  have agree := (Document.projected_lacking rule half d).symm
  rw [ok] at agree
  obtain ⟨_, _, _, shown, _, rfl, _⟩ := agree.of_ok
  cases written
  exact Yaml.isFramed_serialize shown

theorem projectFrom_of_forall₂ {values : List Value} {texts : List String}
    (projected : List.Forall₂ (fun v text => projectValue rule half v = .ok text) values texts) (index : Nat) :
    projectFrom rule half index values = .ok texts := by
  induction projected generalizing index with
  | nil => rfl
  | cons first _ ih =>
    rw [projectFrom, first, ih (index + 1)]
    rfl

/--
The stream of values that can be projected comes apart into their projections, each of which is a text of
full lines without a separator.
-/
theorem documents_projectAll {values : List Value} {texts : List String} (nonempty : values ≠ [])
    (projected : List.Forall₂ (fun v text => projectValue rule half v = .ok text) values texts) :
    ∃ stream, projectAll rule half values = .ok stream ∧ Text.documents stream = texts ∧
      ∀ text ∈ texts, Text.IsFramed text := by
  have both := projected.flip.imp fun text v one => And.intro (isFramed_projectValue one) one
  have framed : ∀ text ∈ texts, Text.IsFramed text := ((List.forall₂_and_left _ _).mp both).1
  have whole : texts ≠ [] := by
    rintro rfl
    cases projected
    exact nonempty rfl
  refine ⟨documentSeparator.intercalate texts, ?_, Text.documents_intercalate whole framed, framed⟩
  rw [projectAll, projectFrom_of_forall₂ projected]
  rfl

theorem documents_projectAll_dashes :
    let values : List Value :=
      [.map [(.text "---", .text "a\n---\nb")], .map [(.text "kind", .text "Cluster")]]
    ∃ texts stream, texts.length = 2 ∧
      List.Forall₂ (fun v text => projectValue .credentials .spec v = .ok text) values texts ∧
      projectAll .credentials .spec values = .ok stream ∧ Text.documents stream = texts := by
  intro values
  let texts := [Yaml.serialize (.mapping [("---", .string "a\n---\nb")]),
    Yaml.serialize (.mapping [("kind", .string "Cluster")])]
  have projected : List.Forall₂ (fun v text => projectValue .credentials .spec v = .ok text) values texts :=
    .cons rfl (.cons rfl .nil)
  obtain ⟨stream, ok, parts, _⟩ := documents_projectAll (List.cons_ne_nil _ _) projected
  exact ⟨texts, stream, rfl, projected, ok, parts⟩

end ClusterLedger
