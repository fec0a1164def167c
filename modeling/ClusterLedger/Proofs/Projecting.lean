import ClusterLedger.Proofs.Framing.Streams
import ClusterLedger.Proofs.Normalizing

namespace ClusterLedger

inductive OrMalformed {α : Type} : Except Failure α → Prop
  | ok (a : α) : OrMalformed (.ok a)
  | malformed (what : Malformation) : OrMalformed (.error (.malformed what))

namespace OrMalformed

variable {α β : Type} {x : Except Failure α}

theorem bind {f : α → Except Failure β} (first : OrMalformed x) (next : ∀ a, OrMalformed (f a)) :
    OrMalformed (x >>= f) := by
  cases first with
  | ok a => exact next a
  | malformed what => exact .malformed what

theorem map (first : OrMalformed x) (f : α → β) : OrMalformed (x.map f) := by
  cases first with
  | ok a => exact .ok (f a)
  | malformed what => exact .malformed what

end OrMalformed

namespace Document

-- The induction is on the value; entries are read into those that were read before.
mutual

theorem orMalformed_ofValue : ∀ v : Value, OrMalformed (ofValue v)
  | .null => .ok _
  | .bool _ => .ok _
  | .number _ => .ok _
  | .text _ => .ok _
  | .list items => (orMalformed_ofItems items).map _
  | .tuple items => (orMalformed_ofItems items).map _
  | .map entries => (orMalformed_ofEntries entries []).map _
  | .document _ => .ok _
  | .bytes _ => .malformed _
  | .set _ => .malformed _
  | .date _ => .malformed _
  | .decimal _ => .malformed _
  | .sealed => .malformed _
  | .convertible _ => .malformed _
  | .resource _ => .malformed _

theorem orMalformed_ofItems : ∀ items : List Value, OrMalformed (ofItems items)
  | [] => .ok _
  | v :: rest => by
    refine (orMalformed_ofValue v).bind fun first => ?_
    exact (orMalformed_ofItems rest).bind fun others => .ok _

theorem orMalformed_ofEntries : ∀ (entries : List (Value × Value)) (done : List (String × Document)),
    OrMalformed (ofEntries done entries)
  | [], _ => .ok _
  | (k, v) :: rest, done => by
    cases k with
    | text key => exact (orMalformed_ofValue v).bind fun item => orMalformed_ofEntries rest _
    | _ => exact .malformed _

end

theorem Folding.orMalformed {name : String} {entries : List (String × Document)} {result : Except Failure Document}
    (folding : Folding name entries result) : OrMalformed result := by
  cases folding with
  | folded => exact .ok _
  | refused => exact .malformed _

theorem orMalformed_normalized (d : Document) : OrMalformed d.normalized := by
  cases kind : d.isMapping with
  | false =>
    rw [normalized_of_not_mapping kind]
    exact .malformed _
  | true =>
    obtain ⟨entries, rfl⟩ := isMapping_iff.mp kind
    rw [normalized_mapping]
    have types := folding_foldTypeMeta entries
    generalize (mapping entries).foldTypeMeta = result at types ⊢
    cases types with
    | folded _ typed => exact (folding_foldObjectMeta typed).orMalformed
    | refused => exact .malformed _

theorem orMalformed_projected (rule : RedactionRule) (half : Half) (d : Document) :
    OrMalformed (d.projected rule half) := by
  unfold projected
  cases rule.apply d with
  | mapping entries => exact orMalformed_normalized (mapping (Assoc.erase half.dropped entries))
  | _ => exact .malformed _

end Document

theorem orMalformed_projectValue (rule : RedactionRule) (half : Half) (v : Value) :
    OrMalformed (projectValue rule half v) := by
  refine (Document.orMalformed_ofValue v).bind fun d => ?_
  exact (Document.orMalformed_projected rule half d).bind fun emitted => .ok _

def Value.Carries (v : Value) (name : String) : Prop :=
  ∃ entries part inner, v.entries? = some entries ∧ (part = "metadata" ∨ part = "objectmeta") ∧
    Value.lookup part entries = some (.map inner) ∧ Value.lookup "name" inner = some (.text name)

theorem Value.entryIn?_asText {part name : String} {entries : List (Value × Value)}
    (found : (entryIn? part "name" entries).bind asText? = some name) :
    ∃ inner, lookup part entries = some (.map inner) ∧ lookup "name" inner = some (.text name) := by
  obtain ⟨value, entry, text⟩ := Option.bind_eq_some_iff.mp found
  unfold entryIn? at entry
  split at entry
  · rename_i inner there
    cases value with
    | text _ => cases text; exact ⟨inner, there, entry⟩
    | _ => cases text
  · cases entry

theorem Value.carries_describedName {v : Value} {name : String} (described : v.describedName = some name) :
    v.Carries name := by
  obtain ⟨entries, there, found⟩ := Option.bind_eq_some_iff.mp described
  rcases Option.or_eq_some_iff.mp found with current | ⟨_, legacy⟩
  · obtain ⟨inner, part, text⟩ := entryIn?_asText current
    exact ⟨entries, "metadata", inner, there, .inl rfl, part, text⟩
  · obtain ⟨inner, part, text⟩ := entryIn?_asText legacy
    exact ⟨entries, "objectmeta", inner, there, .inr rfl, part, text⟩

structure Tells (half : Half) (v : Value) (index : Nat) (context : Context) : Prop where
  operation : context.operation = some (half.name ++ "_projection")
  kind : context.kind = v.describedKind
  id : context.id = none
  name : ∃ name, context.name = some (.text name) ∧ name ≠ "" ∧
    (v.Carries name ∨ name = s!"document[{index}]") ∧
    ((∀ given, ¬v.Carries given) → name = s!"document[{index}]")

theorem tells_projectionContext (half : Half) (index : Nat) (v : Value) :
    Tells half v index (projectionContext half index v) := by
  have numbered : s!"document[{index}]" ≠ "" := by
    simp [toString]
  refine ⟨rfl, rfl, rfl, ?_⟩
  unfold projectionContext
  cases described : v.describedName with
  | none => exact ⟨_, rfl, numbered, .inr rfl, fun _ => rfl⟩
  | some name =>
    by_cases empty : name = ""
    · rw [empty]
      exact ⟨_, rfl, numbered, .inr rfl, fun _ => rfl⟩
    · have carried := Value.carries_describedName described
      refine ⟨name, ?_, empty, .inl carried, fun none => absurd carried (none name)⟩
      simp [fill, empty]

section

variable {rule : RedactionRule} {half : Half} {v : Value} {rest : List Value} {index : Nat}

theorem projectFrom_of_ok {text : String} (ok : projectValue rule half v = .ok text) :
    projectFrom rule half index (v :: rest) = (projectFrom rule half (index + 1) rest).map (text :: ·) := by
  rw [projectFrom, ok]
  cases projectFrom rule half (index + 1) rest <;> rfl

theorem projectFrom_of_malformed {what : Malformation}
    (failed : projectValue rule half v = .error (.malformed what)) :
    projectFrom rule half index (v :: rest) = .error (.malformed what (projectionContext half index v)) := by
  rw [projectFrom, failed]
  rfl

end

/--
Values from a place on are all projected, or the failure is that of the first that is malformed, with what its
own entries say of it.
-/
theorem projectFrom_outcome (rule : RedactionRule) (half : Half) (values : List Value) (index : Nat) :
    (∃ texts, projectFrom rule half index values = .ok texts ∧
      List.Forall₂ (fun v text => projectValue rule half v = .ok text) values texts) ∨
    ∃ earlier v later texts what, values = earlier ++ v :: later ∧
      List.Forall₂ (fun u text => projectValue rule half u = .ok text) earlier texts ∧
      projectValue rule half v = .error (.malformed what) ∧
      projectFrom rule half index values =
        .error (.malformed what (projectionContext half (index + earlier.length) v)) := by
  induction values generalizing index with
  | nil => exact .inl ⟨[], rfl, .nil⟩
  | cons v rest ih =>
    have settled := orMalformed_projectValue rule half v
    generalize first : projectValue rule half v = result at settled
    cases settled with
    | malformed what => exact .inr ⟨[], v, rest, [], what, rfl, .nil, first, projectFrom_of_malformed first⟩
    | ok text =>
      rw [projectFrom_of_ok first]
      rcases ih (index + 1) with
        ⟨texts, ok, each⟩ | ⟨earlier, u, later, texts, what, split, projected, fails, told⟩
      · rw [ok]
        exact .inl ⟨_, rfl, .cons first each⟩
      · rw [Nat.add_right_comm] at told
        rw [told]
        exact .inr ⟨v :: earlier, u, later, _, what, congrArg (v :: ·) split, .cons first projected, fails, rfl⟩

/-- How the projections of values from a place on fail: by the first of them that is malformed. -/
inductive FirstMalformed (rule : RedactionRule) (half : Half) (index : Nat) : List Value → Failure → Prop
  | fails {earlier later : List Value} {v : Value} {texts : List String} {what : Malformation} {context : Context}
      (projected : List.Forall₂ (fun u text => projectValue rule half u = .ok text) earlier texts)
      (failed : projectValue rule half v = .error (.malformed what))
      (told : Tells half v (index + earlier.length) context) :
      FirstMalformed rule half index (earlier ++ v :: later) (.malformed what context)

theorem projectFrom_cases (rule : RedactionRule) (half : Half) (values : List Value) (index : Nat) :
    (∃ texts, projectFrom rule half index values = .ok texts ∧
      List.Forall₂ (fun v text => projectValue rule half v = .ok text) values texts) ∨
    ∃ failure, projectFrom rule half index values = .error failure ∧
      FirstMalformed rule half index values failure := by
  rcases projectFrom_outcome rule half values index with
    all | ⟨earlier, v, later, texts, what, rfl, projected, fails, told⟩
  · exact .inl all
  · exact .inr ⟨_, told, .fails projected fails (tells_projectionContext half _ v)⟩

/--
A value is projected or malformed, whatever it is. Values are projected together exactly where each of them is,
and otherwise the failure is that of the first that is malformed.
-/
theorem projectAll_exactly (rule : RedactionRule) (half : Half) (values : List Value) :
    (∀ v, OrMalformed (projectValue rule half v)) ∧
    (∀ stream, projectAll rule half values = .ok stream ↔
      ∃ texts, List.Forall₂ (fun v text => projectValue rule half v = .ok text) values texts ∧
        stream = "---\n".intercalate texts) ∧
    ∀ failure, projectAll rule half values = .error failure → FirstMalformed rule half 0 values failure := by
  refine ⟨orMalformed_projectValue rule half, fun stream => ⟨fun ok => ?_, ?_⟩, fun failure failed => ?_⟩
  · rcases projectFrom_cases rule half values 0 with ⟨texts, all, each⟩ | ⟨_, failed, _⟩
    · rw [projectAll, all] at ok
      exact ⟨texts, each, (Except.ok.inj ok).symm⟩
    · rw [projectAll, failed] at ok
      cases ok
  · rintro ⟨texts, each, joined⟩
    rw [projectAll, projectFrom_of_forall₂ each, joined]
    rfl
  · rcases projectFrom_cases rule half values 0 with ⟨_, all, _⟩ | ⟨other, failure', first⟩
    · rw [projectAll, all] at failed
      cases failed
    · rw [projectAll, failure'] at failed
      cases failed
      exact first

example : projectAll .credentials .spec [.map [], .list []] =
    .error (.malformed (.rootNotMapping .sequence)
      { operation := some "spec_projection", name := some (.text "document[1]") }) := rfl

end ClusterLedger
