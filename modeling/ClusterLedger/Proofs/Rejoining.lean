import ClusterLedger.Proofs.Actions
import ClusterLedger.Proofs.Halves

/-!
The two halves of a document side by side. What is dropped from a mapping makes no difference to anything
else that normalization does with it, so both halves fail as the whole document does, or show all of it
together.
-/

namespace ClusterLedger

namespace Assoc

variable {κ α : Type} [DecidableEq κ] {key : κ} {whole part : List (κ × α)}

/-- The same entries, but the one under a key may be missing from the part. -/
def Lacking (key : κ) (whole part : List (κ × α)) : Prop :=
  ∀ other, find? other part = find? other whole ∨ (other = key ∧ find? other part = none)

theorem Lacking.find?_of_ne (lacking : Lacking key whole part) {other : κ} (different : other ≠ key) :
    find? other part = find? other whole := by
  rcases lacking other with same | ⟨own, _⟩
  · exact same
  · exact absurd own different

theorem lacking_erase (key : κ) (whole : List (κ × α)) : Lacking key whole (erase key whole) := by
  intro other
  by_cases own : other = key
  · subst own
    exact Or.inr ⟨rfl, find?_erase_self other whole⟩
  · exact Or.inl (find?_erase_of_ne (Ne.symm own) whole)

theorem Lacking.erase (lacking : Lacking key whole part) (dropped : κ) :
    Lacking key (Assoc.erase dropped whole) (Assoc.erase dropped part) := by
  intro other
  by_cases own : dropped = other
  · subst own
    rw [find?_erase_self, find?_erase_self]
    exact Or.inl rfl
  · rw [find?_erase_of_ne own, find?_erase_of_ne own]
    exact lacking other

theorem Lacking.set (lacking : Lacking key whole part) (covered : κ) (value : α) :
    Lacking key (Assoc.set covered value whole) (Assoc.set covered value part) := by
  intro other
  by_cases own : covered = other
  · subst own
    rw [find?_set_self, find?_set_self]
    exact Or.inl rfl
  · rw [find?_set_of_ne own, find?_set_of_ne own]
    exact lacking other

theorem Lacking.overlay (lacking : Lacking key whole part) (upper : List (κ × α)) :
    Lacking key (Assoc.overlay whole upper) (Assoc.overlay part upper) := by
  induction upper generalizing whole part with
  | nil => exact lacking
  | cons entry rest ih => exact ih (lacking.set entry.1 entry.2)

theorem find?_eq_or {other : κ} {first second : List (κ × α)} (different : key ≠ other)
    (one : Lacking key whole first) (two : Lacking other whole second) (k : κ) :
    find? k whole = (find? k first).or (find? k second) := by
  rcases one k with same | ⟨own, missing⟩
  · rw [same]
    cases found : find? k whole with
    | some value => rfl
    | none =>
      rcases two k with same | ⟨_, missing⟩
      · rw [same, found]
        rfl
      · rw [missing]
        rfl
  · rw [missing, Option.none_or, two.find?_of_ne (own ▸ different)]

theorem find?_eq_of_both {other : κ} {first second : List (κ × α)} (one : Lacking key whole first)
    (two : Lacking other whole second) {k : κ} (inFirst : k ∈ keys first) (inSecond : k ∈ keys second) :
    find? k first = find? k second := by
  have shown : ∀ {lacked : κ} {part : List (κ × α)}, Lacking lacked whole part → k ∈ keys part →
      find? k part = find? k whole := by
    intro lacked part lacking member
    rcases lacking k with same | ⟨_, missing⟩
    · exact same
    · exact absurd member (find?_eq_none.mp missing)
  rw [shown one inFirst, shown two inSecond]

end Assoc

namespace Document

def Lacking (key : String) (whole part : Document) : Prop :=
  ∃ entries shown, whole = mapping entries ∧ part = mapping shown ∧ Assoc.Lacking key entries shown

variable {key : String} {whole part : List (String × Document)}

theorem foldTypeMeta_lacking (lacking : Assoc.Lacking key whole part) (current : key ∉ legacyKeys) :
    Agree (Lacking key) (mapping whole).foldTypeMeta (mapping part).foldTypeMeta := by
  have same : Assoc.find? "typemeta" part = Assoc.find? "typemeta" whole :=
    lacking.find?_of_ne fun own => current (own ▸ by decide)
  unfold foldTypeMeta
  rw [get_mapping, get_mapping, same]
  cases Assoc.find? "typemeta" whole with
  | none => exact .ok ⟨whole, part, rfl, rfl, lacking⟩
  | some typePart =>
    cases typePart with
    | mapping covering => exact .ok ⟨_, _, rfl, rfl, (lacking.overlay covering).erase "typemeta"⟩
    | _ => exact .error _

theorem foldObjectMeta_lacking (lacking : Assoc.Lacking key whole part) (current : key ∉ legacyKeys) :
    Agree (Lacking key) (mapping whole).foldObjectMeta (mapping part).foldObjectMeta := by
  have same : Assoc.find? "objectmeta" part = Assoc.find? "objectmeta" whole :=
    lacking.find?_of_ne fun own => current (own ▸ by decide)
  unfold foldObjectMeta
  rw [get_mapping, get_mapping, same]
  cases Assoc.find? "objectmeta" whole with
  | none => exact .ok ⟨whole, part, rfl, rfl, lacking⟩
  | some objectPart =>
    cases objectPart with
    | mapping inner => exact .ok ⟨_, _, rfl, rfl, (lacking.set "metadata" _).erase "objectmeta"⟩
    | _ => exact .error _

/-- A mapping without a key is normalized as the mapping is, but for that key. -/
theorem normalized_lacking (lacking : Assoc.Lacking key whole part) (current : key ∉ legacyKeys) :
    Agree (Lacking key) (mapping whole).normalized (mapping part).normalized := by
  refine (foldTypeMeta_lacking lacking current).bind ?_
  rintro _ _ ⟨typed, shown, rfl, rfl, stillLacking⟩
  exact foldObjectMeta_lacking stillLacking current

/-- A half is what the whole redacted and normalized document is, but for the dropped key. -/
theorem projected_lacking (rule : RedactionRule) (half : Half) (d : Document) :
    Agree (Lacking half.dropped) (rule.apply d).normalized (d.projected rule half) := by
  unfold projected
  cases rule.apply d with
  | mapping entries =>
    exact normalized_lacking (Assoc.lacking_erase half.dropped entries) (by cases half <;> decide)
  | _ => exact .error _

end Document

/--
Both halves of a value fail as the whole does, or the whole is a mapping that they show together: what
both hold is the same, and what the whole holds one of them does.
-/
theorem halves_show_whole (rule : RedactionRule) (v : Value) :
    (∃ failure, (Document.ofValue v >>= fun d => (rule.apply d).normalized) = .error failure ∧
      projectValue rule .spec v = .error failure ∧ projectValue rule .status v = .error failure) ∨
    ∃ d whole spec status, Document.ofValue v = .ok d ∧
      (rule.apply d).normalized = .ok (.mapping whole) ∧
      d.projected rule .spec = .ok (.mapping spec) ∧ d.projected rule .status = .ok (.mapping status) ∧
      projectValue rule .spec v = .ok (Yaml.serialize (.mapping spec)) ∧
      projectValue rule .status v = .ok (Yaml.serialize (.mapping status)) ∧
      ∀ key, Assoc.find? key whole = (Assoc.find? key spec).or (Assoc.find? key status) ∧
        (key ∈ Assoc.keys spec → key ∈ Assoc.keys status →
          Assoc.find? key spec = Assoc.find? key status) := by
  unfold projectValue
  cases read : Document.ofValue v with
  | error failure => exact Or.inl ⟨failure, rfl, rfl, rfl⟩
  | ok d =>
    have specAlike := Document.projected_lacking rule .spec d
    have statusAlike := Document.projected_lacking rule .status d
    cases normal : (rule.apply d).normalized with
    | error failure =>
      rw [normal] at specAlike statusAlike
      refine Or.inl ⟨failure, normal, ?_, ?_⟩
      · exact congrArg (· >>= fun e => Except.ok (Yaml.serialize e)) specAlike.of_error
      · exact congrArg (· >>= fun e => Except.ok (Yaml.serialize e)) statusAlike.of_error
    | ok folded =>
      rw [normal] at specAlike statusAlike
      obtain ⟨_, specOk, whole, spec, rfl, rfl, specLacking⟩ := specAlike.of_ok
      obtain ⟨_, statusOk, _, status, same, rfl, statusLacking⟩ := statusAlike.of_ok
      cases same
      refine Or.inr ⟨d, whole, spec, status, rfl, normal, specOk, statusOk, ?_, ?_, fun key => ⟨?_, ?_⟩⟩
      · exact congrArg (· >>= fun e => Except.ok (Yaml.serialize e)) specOk
      · exact congrArg (· >>= fun e => Except.ok (Yaml.serialize e)) statusOk
      · exact Assoc.find?_eq_or (by decide) specLacking statusLacking key
      · exact Assoc.find?_eq_of_both specLacking statusLacking

end ClusterLedger
