import ClusterLedger.Proofs.Failures

namespace ClusterLedger

section

variable {α : Type} {counts : α → Bool} {own : Option α}

/-- The first that counts of an own value and those that are given after it, or else the last of all. -/
def settled (counts : α → Bool) (own : Option α) (given : List (Option α)) : Option α :=
  ((own :: given).find? (·.any counts)).getD ((own :: given).getLast (List.cons_ne_nil own given))

theorem settled_of_counting (counting : own.any counts = true) (given : List (Option α)) :
    settled counts own given = own := by
  rw [settled, List.find?_cons_of_pos counting]
  rfl

theorem settled_of_idle (idle : own.any counts = false) (new : Option α) (given : List (Option α)) :
    settled counts own (new :: given) = settled counts new given := by
  have passed : ¬own.any counts = true := by simp [idle]
  rw [settled, List.find?_cons_of_neg passed, List.getLast_cons (List.cons_ne_nil new given)]
  rfl

theorem fill_of_counting (counting : own.any counts = true) (new : Option α) : fill counts own new = own := by
  cases own with
  | none => cases counting
  | some value => exact fill_of_counts rfl (show counts value = true from counting) new

theorem fill_of_idle (idle : own.any counts = false) (new : Option α) : fill counts own new = new := by
  cases own with
  | none => rfl
  | some value => exact if_neg (by simpa using idle)

@[simp] theorem settled_nil (counts : α → Bool) (own : Option α) : settled counts own [] = own := by
  cases counting : own.any counts with
  | true => exact settled_of_counting counting []
  | false =>
    have passed : ¬own.any counts = true := by simp [counting]
    rw [settled, List.find?_cons_of_neg passed]
    rfl

/-- Filling with one value after the other settles on the first that counts. -/
theorem foldl_fill (counts : α → Bool) (own : Option α) (given : List (Option α)) :
    given.foldl (fill counts) own = settled counts own given := by
  induction given generalizing own with
  | nil => exact (settled_nil counts own).symm
  | cons new rest ih =>
    rw [List.foldl_cons, ih]
    cases counting : own.any counts with
    | true => rw [fill_of_counting counting, settled_of_counting counting, settled_of_counting counting]
    | false => rw [fill_of_idle counting, settled_of_idle counting]

end

namespace Context

structure Full (c : Context) : Prop where
  operation : c.operation.any (· ≠ "") = true
  kind : c.kind.any (· ≠ "") = true
  id : c.id.any (· ≠ "") = true
  name : c.name.any Value.truthy = true

theorem foldl_fillFrom (own : Context) (chain : List Context) :
    chain.foldl fillFrom own =
      { operation := settled (· ≠ "") own.operation (chain.map (·.operation))
        kind := settled (· ≠ "") own.kind (chain.map (·.kind))
        id := settled (· ≠ "") own.id (chain.map (·.id))
        name := settled Value.truthy own.name (chain.map (·.name)) } := by
  simp only [← foldl_fill]
  induction chain generalizing own with
  | nil => rfl
  | cons new rest ih => exact ih (own.fillFrom new)

theorem Full.foldl_fillFrom {own : Context} (full : own.Full) (chain : List Context) :
    chain.foldl fillFrom own = own := by
  rw [Context.foldl_fillFrom, settled_of_counting full.operation, settled_of_counting full.kind,
    settled_of_counting full.id, settled_of_counting full.name]

def labelled (c : Context) : List String :=
  [c.operation.map ("operation=" ++ ·), c.kind.map ("kind=" ++ ·), c.id.map ("id=" ++ ·),
    c.name.map ("name=" ++ ·.shown)].filterMap fun field => field

theorem map_fields (c : Context) :
    c.fields.map (fun (label, value) => label ++ "=" ++ value) = c.labelled := by
  obtain ⟨operation, kind, id, name⟩ := c
  cases operation <;> cases kind <;> cases id <;> cases name <;> rfl

end Context

namespace Fault

theorem foldl_withContext (f : Fault) (chain : List Context) :
    chain.foldl withContext f = { f with context := chain.foldl Context.fillFrom f.context } := by
  induction chain generalizing f with
  | nil => rfl
  | cons new rest ih => exact ih (f.withContext new)

theorem text_eq (f : Fault) :
    f.text = f.message ++
      if f.context.labelled = [] then "" else " [" ++ ", ".intercalate f.context.labelled ++ "]" := by
  rw [text, Context.text, ← Context.map_fields]
  cases f.context.fields with
  | nil => exact String.append_empty.symm
  | cons field rest =>
    show f.message ++ " [" ++ _ ++ "]" = f.message ++ (" [" ++ _ ++ "]")
    rw [String.append_assoc, String.append_assoc, String.append_assoc]
    rfl

/--
However many layers a fault passes, what happened stays as it is and every field of the context settles on the
first value that counts, or else on the last. A context that is full is not changed by any later layer. The
text is the message with the fields that are set then, empty or not.
-/
theorem context_settles (f : Fault) (chain : List Context) :
    let raised := chain.foldl withContext f
    raised.cause = f.cause ∧ raised.message = f.message ∧
      raised.context.operation = settled (· ≠ "") f.context.operation (chain.map (·.operation)) ∧
      raised.context.kind = settled (· ≠ "") f.context.kind (chain.map (·.kind)) ∧
      raised.context.id = settled (· ≠ "") f.context.id (chain.map (·.id)) ∧
      raised.context.name = settled Value.truthy f.context.name (chain.map (·.name)) ∧
      (∀ earlier later, chain = earlier ++ later → (earlier.foldl withContext f).context.Full →
        raised = earlier.foldl withContext f) ∧
      raised.text = f.message ++ if raised.context.labelled = [] then "" else
        " [" ++ ", ".intercalate raised.context.labelled ++ "]" := by
  intro raised
  have whole : raised = { f with context := chain.foldl Context.fillFrom f.context } := f.foldl_withContext chain
  have message : raised.message = f.message := by rw [whole]; rfl
  have context : raised.context = chain.foldl Context.fillFrom f.context := by rw [whole]
  rw [Context.foldl_fillFrom] at context
  refine ⟨by rw [whole], message, ?_, ?_, ?_, ?_, ?_, ?_⟩
  · rw [context]
  · rw [context]
  · rw [context]
  · rw [context]
  · intro earlier later split full
    have onward : raised = later.foldl withContext (earlier.foldl withContext f) := by
      rw [← List.foldl_append, ← split]
    rw [onward, foldl_withContext, full.foldl_fillFrom]
  · rw [text_eq, message]

/-- An empty text is shown as long as nothing better is known, and gives way to the next value, also to none. -/
example :
    let f : Fault := ⟨.general "failed", { operation := some "", id := some "7" }⟩
    let offered : List Context := [{ kind := some "" }, { operation := some "get", id := some "8" }]
    f.text = "failed [operation=, id=7]" ∧
      (offered.foldl withContext f).text = "failed [operation=get, id=7]" := by
  decide +kernel

end Fault
end ClusterLedger
