import ClusterLedger.Projection
import ClusterLedger.Proofs.Redaction

namespace ClusterLedger
namespace Document

def legacyKeys : List String := ["typemeta", "objectmeta"]

def retained : Document → Document
  | mapping entries => mapping (entries.filter fun entry => retainedKeys.contains entry.1)
  | d => d

/-- The object part that is folded: one that the type part brings goes before the document's own. -/
def objectPart? (d : Document) : Option Document :=
  (d.at? ["typemeta", "objectmeta"]).or (d.child? "objectmeta")

/-- What the legacy parts bring for a key of the folded document. -/
def legacyChild? (key : String) (d : Document) : Option Document :=
  (if key = "metadata" then d.objectPart?.map retained else none).or (d.at? ["typemeta", key])

theorem at?_pair (first second : String) (d : Document) :
    d.at? [first, second] = (d.child? first).bind (child? second) := by
  rw [at?_cons]
  congr 1
  funext child
  rw [at?_cons]
  cases child.child? second <;> rfl

def Covers (covering : List (String × Document)) (d : Document) : Prop :=
  (d.child? "typemeta" = none ∧ covering = []) ∨ d.child? "typemeta" = some (mapping covering)

theorem find?_covering {covering : List (String × Document)} {d : Document} (covers : Covers covering d)
    (key : String) : Assoc.find? key covering = d.at? ["typemeta", key] := by
  rw [at?_pair]
  rcases covers with ⟨absent, rfl⟩ | found
  · rw [absent]
    rfl
  · rw [found]
    rfl

theorem distinct_covering {covering : List (String × Document)} {d : Document}
    (covers : Covers covering d) (wellFormed : d.WellFormed) : Assoc.Distinct covering := by
  rcases covers with ⟨_, rfl⟩ | found
  · exact List.nodup_nil
  · exact (wellFormed_child wellFormed found).1

theorem foldTypeMeta_eq_ok {entries : List (String × Document)} {folded : Document}
    (ok : (mapping entries).foldTypeMeta = .ok folded) :
    ∃ covering, Covers covering (mapping entries) ∧
      folded = mapping (Assoc.erase "typemeta" (Assoc.overlay entries covering)) := by
  unfold foldTypeMeta at ok
  rw [get_mapping] at ok
  cases found : Assoc.find? "typemeta" entries with
  | none =>
    rw [found] at ok
    have unchanged : folded = mapping entries := (Except.ok.inj ok).symm
    have kept := Assoc.erase_of_not_mem (Assoc.find?_eq_none.mp found)
    refine ⟨[], Or.inl ⟨found, rfl⟩, ?_⟩
    rw [unchanged, show Assoc.overlay entries [] = entries from rfl, kept]
  | some part =>
    rw [found] at ok
    cases part with
    | mapping covering => exact ⟨covering, Or.inr found, (Except.ok.inj ok).symm⟩
    | _ => cases ok

theorem foldObjectMeta_eq_ok {entries : List (String × Document)} {folded : Document}
    (ok : (mapping entries).foldObjectMeta = .ok folded) :
    (Assoc.find? "objectmeta" entries = none ∧ folded = mapping entries) ∨
      ∃ part, Assoc.find? "objectmeta" entries = some part ∧
        folded = mapping (Assoc.erase "objectmeta" (Assoc.set "metadata" part.retained entries)) := by
  unfold foldObjectMeta at ok
  rw [get_mapping] at ok
  cases found : Assoc.find? "objectmeta" entries with
  | none =>
    rw [found] at ok
    exact Or.inl ⟨rfl, (Except.ok.inj ok).symm⟩
  | some part =>
    rw [found] at ok
    cases part with
    | mapping inner => exact Or.inr ⟨mapping inner, rfl, (Except.ok.inj ok).symm⟩
    | _ => cases ok

theorem child?_foldTypeMeta {d folded : Document} (wellFormed : d.WellFormed)
    (ok : d.foldTypeMeta = .ok folded) (key : String) :
    folded.child? key =
      if key = "typemeta" then none else (d.at? ["typemeta", key]).or (d.child? key) := by
  cases d with
  | mapping entries =>
    obtain ⟨covering, covers, rfl⟩ := foldTypeMeta_eq_ok ok
    have distinct := distinct_covering covers wellFormed
    simp only [child?]
    split
    · rename_i same
      subst same
      exact Assoc.find?_erase_self _ _
    · rename_i different
      rw [Assoc.find?_erase_of_ne (Ne.symm different), Assoc.find?_overlay distinct,
        find?_covering covers]
  | _ => cases ok

theorem child?_foldObjectMeta {d folded : Document} (ok : d.foldObjectMeta = .ok folded) (key : String) :
    folded.child? key =
      if key = "objectmeta" then none
      else (if key = "metadata" then (d.child? "objectmeta").map retained else none).or (d.child? key) := by
  cases d with
  | mapping entries =>
    rcases foldObjectMeta_eq_ok ok with ⟨absent, rfl⟩ | ⟨part, found, rfl⟩
    · simp only [child?, absent]
      split
      · rename_i same
        rw [same, absent]
      · simp
    · simp only [child?, found]
      split
      · rename_i same
        subst same
        exact Assoc.find?_erase_self _ _
      · rename_i different
        rw [Assoc.find?_erase_of_ne (Ne.symm different)]
        split
        · rename_i same
          subst same
          rw [Assoc.find?_set_self]
          rfl
        · rename_i other
          rw [Assoc.find?_set_of_ne (Ne.symm other)]
          rfl
  | _ => cases ok

theorem normalized_eq_ok {d folded : Document} (ok : d.normalized = .ok folded) :
    ∃ typed, d.foldTypeMeta = .ok typed ∧ typed.foldObjectMeta = .ok folded := by
  unfold normalized at ok
  cases mapped : d.requireMapping with
  | error failure => rw [mapped] at ok; cases ok
  | ok =>
    rw [mapped] at ok
    cases typed : d.foldTypeMeta with
    | error failure => rw [typed] at ok; cases ok
    | ok typed' =>
      rw [typed] at ok
      exact ⟨typed', rfl, ok⟩

/-- A key of the folded document is no legacy key, and the legacy parts go before the document's own. -/
theorem child?_normalized {d folded : Document} (wellFormed : d.WellFormed)
    (ok : d.normalized = .ok folded) (key : String) :
    folded.child? key =
      if key ∈ legacyKeys then none else (d.legacyChild? key).or (d.child? key) := by
  obtain ⟨typed, typeFolded, objectFolded⟩ := normalized_eq_ok ok
  have entries := child?_foldTypeMeta wellFormed typeFolded
  have objectPart : typed.child? "objectmeta" = d.objectPart? := entries "objectmeta"
  rw [child?_foldObjectMeta objectFolded, objectPart, entries]
  by_cases isObject : key = "objectmeta"
  · simp [isObject, legacyKeys]
  · by_cases isType : key = "typemeta"
    · simp [isType, legacyKeys]
    · simp [isObject, isType, legacyKeys, legacyChild?, Option.or_assoc]

end Document
end ClusterLedger
