import ClusterLedger.Fault

namespace ClusterLedger

theorem fill_of_counts {α : Type} {counts : α → Bool} {own : Option α} {value : α}
    (given : own = some value) (holds : counts value = true) (new : Option α) :
    fill counts own new = some value := by
  rw [given, fill, if_pos holds]

structure Context.KeptIn (own outer : Context) : Prop where
  operation : ∀ text, own.operation = some text → text ≠ "" → outer.operation = some text
  kind : ∀ text, own.kind = some text → text ≠ "" → outer.kind = some text
  id : ∀ text, own.id = some text → text ≠ "" → outer.id = some text
  name : ∀ value, own.name = some value → value.truthy = true → outer.name = some value

namespace Context

variable {own outer : Context}

theorem KeptIn.refl (own : Context) : own.KeptIn own :=
  ⟨fun _ given _ => given, fun _ given _ => given, fun _ given _ => given, fun _ given _ => given⟩

theorem KeptIn.fillFrom (kept : own.KeptIn outer) (new : Context) : own.KeptIn (outer.fillFrom new) where
  operation text given counts := fill_of_counts (kept.operation text given counts) (by simpa using counts) _
  kind text given counts := fill_of_counts (kept.kind text given counts) (by simpa using counts) _
  id text given counts := fill_of_counts (kept.id text given counts) (by simpa using counts) _
  name value given counts := fill_of_counts (kept.name value given counts) counts _

end Context

/-- A failure as outer layers pass it on: they may add to the context of a fault. -/
inductive Failure.PassedOn : Failure → Failure → Prop
  | fault (cause : Cause) {own outer : Context} (kept : own.KeptIn outer) :
      PassedOn (.fault ⟨cause, own⟩) (.fault ⟨cause, outer⟩)
  | same (failure : Failure) : PassedOn failure failure

theorem Failure.PassedOn.withContext {failure raised : Failure} (passed : failure.PassedOn raised)
    (context : Context) : failure.PassedOn (raised.withContext context) := by
  cases passed with
  | fault cause kept => exact .fault cause (kept.fillFrom context)
  | same =>
    cases failure with
    | fault fault => exact .fault fault.cause ((Context.KeptIn.refl fault.context).fillFrom context)
    | _ => exact .same _

end ClusterLedger
