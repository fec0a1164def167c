import ClusterLedger.Proofs.Reordering.Documents

/-!
Which documents can be normalized, and what of them is left. The two legacy parts feed each other: the type
part may bring an object part, metadata or another type part, and what it brings goes before what the document
had itself. A normalized document has nothing left to fold.
-/

namespace ClusterLedger
namespace Document

inductive Folding (name : String) (entries : List (String × Document)) : Except Failure Document → Prop
  | folded (mappings : ∀ part, Assoc.find? name entries = some part → part.isMapping = true)
      (result : List (String × Document)) : Folding name entries (.ok (mapping result))
  | refused {part : Document} (found : Assoc.find? name entries = some part) (kind : part.isMapping = false) :
      Folding name entries (.error (.malformed (.partNotMapping name part.kind)))

theorem folding_foldTypeMeta (entries : List (String × Document)) :
    Folding "typemeta" entries (mapping entries).foldTypeMeta := by
  unfold foldTypeMeta
  rw [get_mapping]
  cases found : Assoc.find? "typemeta" entries with
  | none => exact .folded (fun part there => by cases there.symm.trans found) entries
  | some part =>
    cases part with
    | mapping covering =>
      exact .folded (fun part there => by cases there.symm.trans found; rfl) _
    | _ => exact .refused found rfl

theorem folding_foldObjectMeta (entries : List (String × Document)) :
    Folding "objectmeta" entries (mapping entries).foldObjectMeta := by
  unfold foldObjectMeta
  rw [get_mapping]
  cases found : Assoc.find? "objectmeta" entries with
  | none => exact .folded (fun part there => by cases there.symm.trans found) entries
  | some part =>
    cases part with
    | mapping inner => exact .folded (fun part there => by cases there.symm.trans found; rfl) _
    | _ => exact .refused found rfl

/-- Why a document cannot be normalized. The object part is the one that is seen once types are folded. -/
inductive Unfoldable (d : Document) : Malformation → Prop
  | root (kind : d.isMapping = false) : Unfoldable d (.rootNotMapping d.kind)
  | typePart {part : Document} (found : d.child? "typemeta" = some part) (kind : part.isMapping = false) :
      Unfoldable d (.partNotMapping "typemeta" part.kind)
  | objectPart {part : Document} (types : ∀ part, d.child? "typemeta" = some part → part.isMapping = true)
      (found : d.objectPart? = some part) (kind : part.isMapping = false) :
      Unfoldable d (.partNotMapping "objectmeta" part.kind)

theorem normalized_of_not_mapping {d : Document} (kind : d.isMapping = false) :
    d.normalized = .error (.malformed (.rootNotMapping d.kind)) := by
  unfold normalized requireMapping
  rw [kind]
  rfl

@[simp] theorem normalized_mapping (entries : List (String × Document)) :
    (mapping entries).normalized = (mapping entries).foldTypeMeta >>= foldObjectMeta := rfl

/-- The object part is looked for where the type part has been folded. -/
theorem find?_objectPart {entries typed : List (String × Document)} (wellFormed : (mapping entries).WellFormed)
    (ok : (mapping entries).foldTypeMeta = .ok (mapping typed)) :
    Assoc.find? "objectmeta" typed = (mapping entries).objectPart? :=
  child?_foldTypeMeta wellFormed ok "objectmeta"

theorem unfoldable_of_error {d : Document} (wellFormed : d.WellFormed) {failure : Failure}
    (failed : d.normalized = .error failure) : ∃ what, d.Unfoldable what ∧ failure = .malformed what := by
  cases kind : d.isMapping with
  | false =>
    rw [normalized_of_not_mapping kind] at failed
    exact ⟨_, .root kind, (Except.error.inj failed).symm⟩
  | true =>
    obtain ⟨entries, rfl⟩ := isMapping_iff.mp kind
    rw [normalized_mapping] at failed
    have types := folding_foldTypeMeta entries
    generalize typeFolded : (mapping entries).foldTypeMeta = result at types failed
    cases types with
    | refused found other => exact ⟨_, .typePart found other, (Except.error.inj failed).symm⟩
    | folded mappings typed =>
      have objects := folding_foldObjectMeta typed
      have again : (mapping typed).foldObjectMeta = .error failure := failed
      rw [again] at objects
      cases objects with
      | refused found other =>
        rw [find?_objectPart wellFormed typeFolded] at found
        exact ⟨_, .objectPart mappings found other, rfl⟩

theorem Unfoldable.error {d : Document} (wellFormed : d.WellFormed) {what : Malformation}
    (unfoldable : d.Unfoldable what) : d.normalized = .error (.malformed what) := by
  cases kind : d.isMapping with
  | false =>
    cases unfoldable with
    | root => exact normalized_of_not_mapping kind
    | typePart found => cases d <;> first | cases found | cases kind
    | objectPart _ found => cases d <;> first | cases found | cases kind
  | true =>
    obtain ⟨entries, rfl⟩ := isMapping_iff.mp kind
    rw [normalized_mapping]
    have types := folding_foldTypeMeta entries
    generalize typeFolded : (mapping entries).foldTypeMeta = result at types ⊢
    cases types with
    | refused there other =>
      cases unfoldable with
      | root apart => cases apart
      | typePart found => cases there.symm.trans found; rfl
      | objectPart mappings => cases other.symm.trans (mappings _ there)
    | folded mappings typed =>
      have objects := folding_foldObjectMeta typed
      change (mapping typed).foldObjectMeta = _
      generalize (mapping typed).foldObjectMeta = result at objects ⊢
      cases unfoldable with
      | root apart => cases apart
      | typePart found other => cases other.symm.trans (mappings _ found)
      | objectPart _ found other =>
        rw [← find?_objectPart wellFormed typeFolded] at found
        cases objects with
        | refused there => cases there.symm.trans found; rfl
        | folded present => cases other.symm.trans (present _ found)

@[simp] theorem mem_retainedKeys {key : String} :
    retainedKeys.contains key = true ↔ key = "name" ∨ key = "namespace" := by
  simp [retainedKeys]

theorem child?_retained (key : String) {part : Document} (mapped : part.isMapping = true) :
    part.retained.child? key = if key = "name" ∨ key = "namespace" then part.child? key else none := by
  obtain ⟨entries, rfl⟩ := isMapping_iff.mp mapped
  exact (Assoc.find?_filter retainedKeys.contains key entries).trans
    (if_congr mem_retainedKeys rfl rfl)

theorem normalized_of_current {entries : List (String × Document)}
    (current : ∀ key ∈ legacyKeys, Assoc.find? key entries = none) :
    (mapping entries).normalized = .ok (mapping entries) := by
  have types : (mapping entries).foldTypeMeta = .ok (mapping entries) := by
    unfold foldTypeMeta
    rw [get_mapping, current "typemeta" (by decide)]
    rfl
  have objects : (mapping entries).foldObjectMeta = .ok (mapping entries) := by
    unfold foldObjectMeta
    rw [get_mapping, current "objectmeta" (by decide)]
    rfl
  rw [normalized_mapping, types]
  exact objects

/-- What is left of a document: the legacy parts are gone, and what they bring goes before its own. -/
structure IsNormalOf (d folded : Document) : Prop where
  wellFormed : folded.WellFormed
  mapped : folded.isMapping = true
  current : ∀ key ∈ legacyKeys, folded.child? key = none
  metadata : ∀ part, d.objectPart? = some part →
    ∃ shown, folded.child? "metadata" = some shown ∧ shown.isMapping = true ∧
      ∀ key, shown.child? key = if key = "name" ∨ key = "namespace" then part.child? key else none
  others : ∀ key ∉ legacyKeys, (key = "metadata" → d.objectPart? = none) →
    folded.child? key = (d.at? ["typemeta", key]).or (d.child? key)

theorem wellFormed_normalized {d folded : Document} (wellFormed : d.WellFormed)
    (ok : d.normalized = .ok folded) : folded.WellFormed ∧ folded.isMapping = true := by
  cases kind : d.isMapping with
  | false =>
    rw [normalized_of_not_mapping kind] at ok
    cases ok
  | true =>
    obtain ⟨entries, rfl⟩ := isMapping_iff.mp kind
    have alike := (Alike.refl wellFormed).normalized
    rw [ok] at alike
    cases alike with
    | ok same =>
      cases same with
      | alike alike => exact ⟨alike.left, rfl⟩

theorem isMapping_parts {d folded : Document} (wellFormed : d.WellFormed) (ok : d.normalized = .ok folded) :
    (∀ part, d.child? "typemeta" = some part → part.isMapping = true) ∧
      ∀ part, d.objectPart? = some part → part.isMapping = true := by
  have never : ∀ {what}, ¬d.Unfoldable what := by
    intro what unfoldable
    cases ok.symm.trans (unfoldable.error wellFormed)
  have types : ∀ part, d.child? "typemeta" = some part → part.isMapping = true := by
    intro part found
    exact eq_true_of_ne_false fun other => never (.typePart found other)
  refine ⟨types, fun part found => ?_⟩
  exact eq_true_of_ne_false fun other => never (.objectPart types found other)

theorem isNormalOf_normalized {d folded : Document} (wellFormed : d.WellFormed)
    (ok : d.normalized = .ok folded) : IsNormalOf d folded := by
  have children := child?_normalized wellFormed ok
  have shape := wellFormed_normalized wellFormed ok
  refine ⟨shape.1, shape.2, fun key legacy => ?_, fun part visible => ?_, fun key current noObject => ?_⟩
  · rw [children, if_pos legacy]
  · have mapped := (isMapping_parts wellFormed ok).2 part visible
    have shown : folded.child? "metadata" = some part.retained := by
      rw [children, if_neg (by decide), legacyChild?, if_pos rfl, visible]
      rfl
    refine ⟨part.retained, shown, ?_, fun key => child?_retained key mapped⟩
    obtain ⟨entries, rfl⟩ := isMapping_iff.mp mapped
    rfl
  · have brought : d.legacyChild? key = d.at? ["typemeta", key] := by
      rw [legacyChild?]
      split
      · rename_i same
        rw [noObject same]
        rfl
      · rfl
    rw [children, if_neg current, brought]

/--
Exactly an unfoldable document cannot be normalized, and the error says what is wrong with it. Whatever is
normalized is normal for good.
-/
theorem normalized_exactly {d : Document} (wellFormed : d.WellFormed) :
    (∀ failure, d.normalized = .error failure ↔ ∃ what, d.Unfoldable what ∧ failure = .malformed what) ∧
      ∀ folded, d.normalized = .ok folded → IsNormalOf d folded ∧ folded.normalized = .ok folded := by
  refine ⟨fun failure => ⟨unfoldable_of_error wellFormed, ?_⟩, fun folded ok => ?_⟩
  · rintro ⟨what, unfoldable, rfl⟩
    exact unfoldable.error wellFormed
  · have normal := isNormalOf_normalized wellFormed ok
    refine ⟨normal, ?_⟩
    obtain ⟨entries, rfl⟩ := isMapping_iff.mp normal.mapped
    exact normalized_of_current normal.current

def nestedParts : Document :=
  .mapping [("typemeta", .mapping [("objectmeta", .mapping [("name", .string "demo"), ("uid", .null)]),
      ("typemeta", .null), ("kind", .string "Cluster")]),
    ("objectmeta", .null), ("kind", .string "old")]

theorem normalized_exactly_nested_parts :
    nestedParts.WellFormed ∧
      (∀ failure, nestedParts.normalized = .error failure ↔
        ∃ what, nestedParts.Unfoldable what ∧ failure = .malformed what) ∧
      IsNormalOf nestedParts
        (.mapping [("kind", .string "Cluster"), ("metadata", .mapping [("name", .string "demo")])]) := by
  have wellFormed : nestedParts.WellFormed := by
    simp [nestedParts, WellFormed, EntriesWellFormed, Assoc.Distinct, Assoc.keys]
  have exactly := normalized_exactly wellFormed
  exact ⟨wellFormed, exactly.1, (exactly.2 _ rfl).1⟩

end Document
end ClusterLedger
