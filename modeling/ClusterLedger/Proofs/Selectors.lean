import ClusterLedger.Api.Label

namespace ClusterLedger

theorem Text.splitAt_eq_splitOn (separator : Char) (text : List Char) :
    Text.splitAt separator text = text.splitOn separator := by
  induction text with
  | nil => rfl
  | cons c rest ih =>
    rw [Text.splitAt, ih, List.splitOn, List.splitOn, List.splitOnP_cons_eq_if_modifyHead]
    by_cases same : c = separator
    · simp [same]
    · simp only [same, if_false, beq_iff_eq]
      cases parts : List.splitOnP (· == separator) rest with
      | nil => exact absurd parts (List.splitOnP_ne_nil _ _)
      | cons part others => rfl

namespace Selector

def Writable (asked : Labels) : Prop :=
  ∀ label ∈ asked, '=' ∉ label.1.toList ∧ ',' ∉ label.1.toList ∧ ',' ∉ label.2.toList

theorem termHolds_label {key : String} (clean : '=' ∉ key.toList) (value : String) (labels : Labels) :
    termHolds labels (key ++ "=" ++ value).toList = true ↔ Assoc.find? key labels = some value := by
  have written : (key ++ "=" ++ value).toList = key.toList ++ '=' :: value.toList := by simp
  have before : ∀ c ∈ key.toList, decide (c ≠ '=') = true := by
    intro c member
    exact decide_eq_true fun same => clean (same ▸ member)
  unfold termHolds
  rw [written, List.takeWhile_append_of_pos before, List.dropWhile_append_of_pos before]
  simp

/-- A selector holds of the labels that it was written for. -/
theorem holds_ofLabels {asked : Labels} (writable : Writable asked) (labels : Labels) :
    holds (ofLabels asked) labels = true ↔
      ∀ label ∈ asked, Assoc.find? label.1 labels = some label.2 := by
  cases asked with
  | nil => simp [ofLabels, holds, Text.splitAt, termHolds]
  | cons first rest =>
    have terms : Text.splitAt ',' (ofLabels (first :: rest)).toList =
        (first :: rest).map fun label => (label.1 ++ "=" ++ label.2).toList := by
      have separator : ",".toList = [','] := rfl
      rw [Text.splitAt_eq_splitOn, ofLabels, String.toList_intercalate, separator, List.map_map]
      refine List.splitOn_intercalate ',' ?_ (by simp)
      intro term member
      obtain ⟨label, among, rfl⟩ := List.mem_map.mp member
      obtain ⟨_, clean, clean'⟩ := writable label among
      simp [clean, clean']
    rw [holds, terms, List.all_eq_true, List.forall_mem_map]
    exact forall₂_congr fun label among => termHolds_label (writable label among).1 label.2 labels

end Selector
end ClusterLedger
