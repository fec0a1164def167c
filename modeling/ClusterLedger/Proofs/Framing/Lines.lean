import ClusterLedger.Projection

namespace ClusterLedger.Text

/-- The lines of a text, each with the line feed that ends it; what is left at the end is a line as well. -/
def lines : List Char → List (List Char)
  | [] => []
  | c :: rest =>
    if c = '\n' then [c] :: lines rest
    else
      match lines rest with
      | [] => [[c]]
      | line :: others => (c :: line) :: others

@[simp] theorem flatten_lines (text : List Char) : (lines text).flatten = text := by
  induction text with
  | nil => rfl
  | cons c rest ih =>
    rw [lines]
    split
    · rw [List.flatten_cons, ih]
      rfl
    · split <;> rename_i found <;> rw [found] at ih
      · rw [← ih]
        rfl
      · rw [← ih]
        rfl

theorem lines_append_cons {line : List Char} (clear : '\n' ∉ line) (rest : List Char) :
    lines (line ++ '\n' :: rest) = (line ++ ['\n']) :: lines rest := by
  induction line with
  | nil => rfl
  | cons c line ih =>
    have inner : c ≠ '\n' := fun same => clear (same ▸ List.mem_cons_self)
    rw [List.cons_append, lines, if_neg inner, ih fun later => clear (List.mem_cons_of_mem c later)]
    rfl

theorem lines_ended_append (before rest : List Char) :
    lines (before ++ '\n' :: rest) = lines (before ++ ['\n']) ++ lines rest := by
  induction before with
  | nil => rfl
  | cons c before ih =>
    rw [List.cons_append, List.cons_append, lines, lines, ih]
    split
    · rfl
    · obtain ⟨line, others, cut⟩ : ∃ line others, lines (before ++ ['\n']) = line :: others := by
        refine List.exists_cons_of_ne_nil fun none => ?_
        have whole := flatten_lines (before ++ ['\n'])
        rw [none] at whole
        exact List.append_ne_nil_of_right_ne_nil before (List.cons_ne_nil _ _) whole.symm
      rw [cut]
      rfl

def ofLines (full : List (List Char)) : List Char := full.flatMap (· ++ ['\n'])

theorem ofLines_concat (full : List (List Char)) (line : List Char) :
    ofLines (full ++ [line]) = ofLines full ++ line ++ ['\n'] := by
  simp [ofLines]

theorem lines_ofLines {full : List (List Char)} (clear : ∀ line ∈ full, '\n' ∉ line) :
    lines (ofLines full) = full.map (· ++ ['\n']) := by
  induction full with
  | nil => rfl
  | cons line full ih =>
    have text : ofLines (line :: full) = line ++ '\n' :: ofLines full := by
      rw [ofLines, List.flatMap_cons, List.append_assoc]
      rfl
    rw [text, lines_append_cons (clear line List.mem_cons_self),
      ih fun other later => clear other (List.mem_cons_of_mem line later), List.map_cons]

def dashes : List Char := ['-', '-', '-']

def isSeparator (line : List Char) : Bool := line.takeWhile (· ≠ '\n') = dashes

theorem isSeparator_concat {line : List Char} (clear : '\n' ∉ line) :
    isSeparator (line ++ ['\n']) = true ↔ line = dashes := by
  have content : (line ++ ['\n']).takeWhile (· ≠ '\n') = line := by
    have inner : ∀ c ∈ line, decide (c ≠ '\n') = true := fun c member =>
      decide_eq_true fun same => clear (same ▸ member)
    rw [List.takeWhile_append_of_pos inner]
    exact List.append_nil line
  rw [isSeparator, content, decide_eq_true_iff]

def documents (stream : String) : List String :=
  ((lines stream.toList).splitOnP isSeparator).map fun part => String.ofList part.flatten

example : documents "a: |\n---\nb: 2\n--- 3\n" = ["a: |\n", "b: 2\n--- 3\n"] := by decide

/-- A text of full lines, none of which is a separator. -/
structure IsFramed (text : String) : Prop where
  ended : ∃ before, text = before ++ "\n"
  inner : ∀ line ∈ lines text.toList, isSeparator line = false

theorem documents_of_framed {text : String} (framed : IsFramed text) : documents text = [text] := by
  rw [documents, List.splitOnP_eq_singleton framed.inner, List.map_singleton, flatten_lines,
    String.ofList_toList]

theorem documents_append {text : String} (framed : IsFramed text) (stream : String) :
    documents (text ++ documentSeparator ++ stream) = text :: documents stream := by
  obtain ⟨before, ended⟩ := framed.ended
  have cut : lines (text ++ documentSeparator ++ stream).toList =
      lines text.toList ++ (dashes ++ ['\n']) :: lines stream.toList := by
    have first : text.toList = before.toList ++ ['\n'] := by
      rw [ended, String.toList_append]
      rfl
    have separator : documentSeparator.toList = dashes ++ ['\n'] := rfl
    have second : (dashes ++ ['\n']) ++ stream.toList = dashes ++ '\n' :: stream.toList := rfl
    have clear : '\n' ∉ dashes := by decide
    rw [String.toList_append, String.toList_append, separator, List.append_assoc, second, first,
      List.append_assoc, List.singleton_append, lines_ended_append, lines_append_cons clear]
  rw [documents, cut, List.splitOnP_append_cons_of_forall_mem framed.inner _ (by decide), List.map_cons,
    flatten_lines, String.ofList_toList]
  rfl

theorem documents_intercalate {texts : List String} (nonempty : texts ≠ [])
    (framed : ∀ text ∈ texts, IsFramed text) : documents (documentSeparator.intercalate texts) = texts := by
  induction texts with
  | nil => exact absurd rfl nonempty
  | cons text rest ih =>
    have first := framed text List.mem_cons_self
    have others := fun other later => framed other (List.mem_cons_of_mem text later)
    cases rest with
    | nil =>
      show documents text = [text]
      exact documents_of_framed first
    | cons next rest =>
      have joined : documentSeparator.intercalate (text :: next :: rest) =
          text ++ documentSeparator ++ documentSeparator.intercalate (next :: rest) := by
        simp
      rw [joined, documents_append first, ih (List.cons_ne_nil _ _) others]

end ClusterLedger.Text
