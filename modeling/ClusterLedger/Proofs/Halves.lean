import ClusterLedger.Proofs.LegacyMetadata

/-!
What the two halves of a document hold. Redaction and the dropping of the other half come before legacy
metadata is folded, so both are undone where a legacy part brings something to the top level, and
nowhere else.
-/

namespace ClusterLedger
namespace Document

theorem projected_eq_ok {rule : RedactionRule} {half : Half} {d emitted : Document}
    (ok : d.projected rule half = .ok emitted) :
    ∃ entries, rule.apply d = mapping entries ∧
      (mapping (Assoc.erase half.dropped entries)).normalized = .ok emitted := by
  unfold projected at ok
  cases redacted : rule.apply d with
  | mapping entries =>
    simp only [redacted] at ok
    exact ⟨entries, rfl, ok⟩
  | _ =>
    simp only [redacted] at ok
    cases ok

theorem child?_erase (key : String) (entries : List (String × Document)) (other : String) :
    (mapping (Assoc.erase key entries)).child? other =
      if other = key then none else (mapping entries).child? other := by
  simp only [child?]
  split
  · rename_i same
    subst same
    exact Assoc.find?_erase_self _ _
  · rename_i different
    exact Assoc.find?_erase_of_ne (Ne.symm different) _

theorem wellFormed_erase {entries : List (String × Document)} (wellFormed : (mapping entries).WellFormed)
    (key : String) : (mapping (Assoc.erase key entries)).WellFormed := by
  refine ⟨Assoc.distinct_erase wellFormed.1 key, entriesWellFormed_iff.mpr ?_⟩
  intro entry member
  exact entriesWellFormed_iff.mp wellFormed.2 entry (List.mem_filter.mp member).1

/-- Neither half drops a legacy part. -/
theorem child?_erase_dropped (half : Half) (entries : List (String × Document)) {key : String}
    (legacy : key ∈ legacyKeys) :
    (mapping (Assoc.erase half.dropped entries)).child? key = (mapping entries).child? key := by
  have different : key ≠ half.dropped := by
    rintro rfl
    cases half <;> exact absurd legacy (by decide)
  rw [child?_erase, if_neg different]

theorem legacyChild?_erase_dropped (half : Half) (entries : List (String × Document)) (key : String) :
    (mapping (Assoc.erase half.dropped entries)).legacyChild? key = (mapping entries).legacyChild? key := by
  have typePart := child?_erase_dropped half entries (show "typemeta" ∈ legacyKeys by decide)
  have objectPart := child?_erase_dropped half entries (show "objectmeta" ∈ legacyKeys by decide)
  simp only [legacyChild?, objectPart?, at?_pair, typePart, objectPart]

/-- An entry of a half is brought by a legacy part of the redacted document or is its own. -/
theorem child?_projected {rule : RedactionRule} {half : Half} {d emitted : Document}
    (wellFormed : d.WellFormed) (ok : d.projected rule half = .ok emitted) (key : String) :
    emitted.child? key =
      if key ∈ legacyKeys then none
      else ((rule.apply d).legacyChild? key).or
        (if key = half.dropped then none else (rule.apply d).child? key) := by
  obtain ⟨entries, redacted, normalized⟩ := projected_eq_ok ok
  have redactedWellFormed := RedactionRule.wellFormed_apply rule wellFormed
  rw [redacted] at redactedWellFormed ⊢
  rw [child?_normalized (wellFormed_erase redactedWellFormed _) normalized, legacyChild?_erase_dropped,
    child?_erase]

/--
A path of the rule is masked in a half exactly if no legacy part of the redacted document brings
something else to it. A document without legacy parts has all paths of the rule masked.
-/
theorem masked_projected_iff {rule : RedactionRule} {half : Half} {d emitted : Document}
    (wellFormed : d.WellFormed) (ok : d.projected rule half = .ok emitted) {path : List String}
    (listed : path ∈ rule.paths) :
    Masked rule.sentinel path emitted ↔
      ∀ key rest brought, path = key :: rest → key ∉ legacyKeys →
        (rule.apply d).legacyChild? key = some brought → Masked rule.sentinel rest brought := by
  have masked := RedactionRule.masked_apply rule listed d
  cases path with
  | nil => exact absurd rfl (rule.nonempty [] listed)
  | cons key rest =>
    rw [masked_cons, child?_projected wellFormed ok]
    constructor
    · rintro covered _ _ brought ⟨⟩ current found
      apply covered brought
      rw [if_neg current, found]
      rfl
    · intro covered child found
      by_cases legacy : key ∈ legacyKeys
      · rw [if_pos legacy] at found
        cases found
      · rw [if_neg legacy] at found
        cases brought : (rule.apply d).legacyChild? key with
        | some value =>
          rw [brought] at found
          cases found
          exact covered key rest child rfl legacy brought
        | none =>
          rw [brought, Option.none_or] at found
          split at found
          · cases found
          · exact masked_cons.mp masked child found

def userContext (password : String) : Document :=
  mapping [("userContext", mapping [("password", string password)])]

theorem masked_projected_iff_embedded_spec :
    (mapping [("typemeta", mapping [("spec", userContext "hunter2")])]).WellFormed ∧
      (mapping [("typemeta", mapping [("spec", userContext "hunter2")])]).projected .credentials .spec =
        .ok (mapping [("spec", userContext "hunter2")]) ∧
      ["spec", "userContext", "password"] ∈ RedactionRule.credentials.paths ∧
      (Masked RedactionRule.credentials.sentinel ["spec", "userContext", "password"]
          (mapping [("spec", userContext "hunter2")]) ↔
        ∀ key rest brought, ["spec", "userContext", "password"] = key :: rest → key ∉ legacyKeys →
          (RedactionRule.credentials.apply
            (mapping [("typemeta", mapping [("spec", userContext "hunter2")])])).legacyChild? key =
              some brought → Masked RedactionRule.credentials.sentinel rest brought) := by
  have wellFormed : (mapping [("typemeta", mapping [("spec", userContext "hunter2")])]).WellFormed := by
    simp [userContext, WellFormed, EntriesWellFormed, Assoc.Distinct, Assoc.keys]
  have ok : (mapping [("typemeta", mapping [("spec", userContext "hunter2")])]).projected
      .credentials .spec = .ok (mapping [("spec", userContext "hunter2")]) := rfl
  have listed : ["spec", "userContext", "password"] ∈ RedactionRule.credentials.paths := by
    decide +kernel
  exact ⟨wellFormed, ok, listed, masked_projected_iff wellFormed ok listed⟩

/-- Redaction comes before folding, so a password under the type part is emitted as it is. -/
theorem unmasked_password :
    ∃ d emitted : Document, d.WellFormed ∧ d.projected .credentials .spec = .ok emitted ∧
      ["spec", "userContext", "password"] ∈ RedactionRule.credentials.paths ∧
      ¬Masked RedactionRule.credentials.sentinel ["spec", "userContext", "password"] emitted := by
  refine ⟨mapping [("typemeta", mapping [("spec", userContext "hunter2")])],
    mapping [("spec", userContext "hunter2")], ?_, rfl, by decide +kernel, ?_⟩
  · simp [userContext, WellFormed, EntriesWellFormed, Assoc.Distinct, Assoc.keys]
  · rintro (absent | held)
    · cases absent
    · have text : "hunter2" = "***REDACTED***" := string.inj (Option.some.inj held)
      exact absurd text (by decide)

theorem covers_of_projected {rule : RedactionRule} {half : Half} {d emitted : Document}
    (ok : d.projected rule half = .ok emitted) :
    ∃ entries covering, rule.apply d = mapping entries ∧ Covers covering (mapping entries) ∧
      (mapping (Assoc.erase "typemeta"
        (Assoc.overlay (Assoc.erase half.dropped entries) covering))).foldObjectMeta = .ok emitted := by
  obtain ⟨entries, redacted, normalized⟩ := projected_eq_ok ok
  obtain ⟨typed, typeFolded, objectFolded⟩ := normalized_eq_ok normalized
  obtain ⟨covering, covers, rfl⟩ := foldTypeMeta_eq_ok typeFolded
  rw [Covers, child?_erase_dropped half entries (by decide)] at covers
  exact ⟨entries, covering, redacted, covers, objectFolded⟩

theorem hasKey_projected {rule : RedactionRule} {half : Half} {d emitted : Document}
    (ok : d.projected rule half = .ok emitted) {key : String} (current : key ∉ legacyKeys)
    (ordinary : key ≠ "metadata") :
    emitted.hasKey key = true ↔
      ((rule.apply d).at? ["typemeta", key]).isSome = true ∨
        (key ≠ half.dropped ∧ (rule.apply d).hasKey key = true) := by
  obtain ⟨entries, covering, redacted, covers, folded⟩ := covers_of_projected ok
  have notObject : key ≠ "objectmeta" := by
    rintro rfl
    exact current (by decide)
  have notType : key ≠ "typemeta" := by
    rintro rfl
    exact current (by decide)
  have brought : key ∈ Assoc.keys covering ↔ ((mapping entries).at? ["typemeta", key]).isSome = true := by
    rw [← Assoc.contains_eq_true, Assoc.contains, find?_covering covers]
  have own : key ∈ Assoc.keys entries ↔ (mapping entries).hasKey key = true :=
    Assoc.contains_eq_true.symm
  rw [hasKey_eq, child?_foldObjectMeta folded, if_neg notObject, if_neg ordinary, Option.none_or,
    ← hasKey_eq, hasKey, Assoc.contains_eq_true, Assoc.mem_keys_erase, Assoc.mem_keys_overlay,
    Assoc.mem_keys_erase, brought, own, redacted]
  exact and_iff_right notType

/-- The dropped key stands in a half exactly if the type part of the document brings it back. -/
theorem hasKey_dropped_iff {rule : RedactionRule} {half : Half} {d emitted : Document}
    (ok : d.projected rule half = .ok emitted) :
    emitted.hasKey half.dropped = true ↔ (d.at? ["typemeta", half.dropped]).isSome = true := by
  have through : ¬Crosses ["typemeta", half.dropped] (rule.apply d) := by
    obtain ⟨entries, covering, redacted, covers, _⟩ := covers_of_projected ok
    rw [redacted]
    rintro (apart | ⟨part, found, apart | ⟨_, _, ends⟩⟩)
    · cases apart
    · rcases covers with ⟨absent, _⟩ | covered
      · rw [absent] at found
        cases found
      · rw [covered] at found
        cases found
        cases apart
    · exact ends
  rw [← RedactionRule.present_apply rule through,
    hasKey_projected ok (by cases half <;> decide) (by cases half <;> decide)]
  simp

theorem hasKey_dropped_iff_embedded_status :
    (mapping [("typemeta", mapping [("status", null)])]).projected .credentials .spec =
        .ok (mapping [("status", null)]) ∧
      ((mapping [("status", null)]).hasKey Half.spec.dropped = true ↔
        ((mapping [("typemeta", mapping [("status", null)])]).at?
          ["typemeta", Half.spec.dropped]).isSome = true) := by
  have ok : (mapping [("typemeta", mapping [("status", null)])]).projected .credentials .spec =
      .ok (mapping [("status", null)]) := rfl
  exact ⟨ok, hasKey_dropped_iff ok⟩

/-- The status is dropped before folding, so a status under the type part stands in the spec half. -/
theorem status_in_spec_half :
    ∃ d emitted : Document, d.WellFormed ∧ d.projected .credentials .spec = .ok emitted ∧
      emitted.hasKey "status" = true := by
  refine ⟨mapping [("typemeta", mapping [("status", null)])], mapping [("status", null)], ?_, rfl, rfl⟩
  simp [WellFormed, EntriesWellFormed, Assoc.Distinct, Assoc.keys]

end Document
end ClusterLedger
