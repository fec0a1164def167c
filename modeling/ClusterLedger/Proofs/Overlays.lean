import ClusterLedger.Document.Access

namespace ClusterLedger

namespace Assoc

variable {κ α : Type} [DecidableEq κ] {first second third : List (κ × α)}

theorem eq_of_find? (distinct : Distinct first) (sameKeys : keys first = keys second)
    (found : ∀ key, find? key first = find? key second) : first = second := by
  induction first generalizing second with
  | nil => exact (List.map_eq_nil_iff.mp sameKeys.symm).symm
  | cons entry rest ih =>
    cases second with
    | nil => cases sameKeys
    | cons other others =>
      obtain ⟨key, value⟩ := entry
      obtain ⟨key', value'⟩ := other
      obtain ⟨rfl, restKeys⟩ : key = key' ∧ keys rest = keys others := List.cons.inj sameKeys
      obtain ⟨fresh, distinctRest⟩ := List.nodup_cons.mp distinct
      have head : value = value' := by simpa [find?] using found key
      have tail : rest = others := by
        refine ih distinctRest restKeys fun k => ?_
        by_cases own : key = k
        · subst own
          have fresh' : key ∉ keys others := restKeys ▸ fresh
          rw [find?_eq_none.mpr fresh, find?_eq_none.mpr fresh']
        · simpa [find?, own] using found k
      rw [head, tail]

/-- The keys below keep their places, and the new ones follow in the order in which they are laid on top. -/
theorem keys_overlay (distinct : Distinct second) (first : List (κ × α)) :
    keys (overlay first second) = keys first ++ (keys second).filter (· ∉ keys first) := by
  induction second generalizing first with
  | nil => exact (List.append_nil _).symm
  | cons entry rest ih =>
    obtain ⟨key, value⟩ := entry
    obtain ⟨fresh, distinctRest⟩ := List.nodup_cons.mp distinct
    have step : keys (overlay first ((key, value) :: rest)) =
        keys (set key value first) ++ (keys rest).filter (· ∉ keys (set key value first)) :=
      ih distinctRest (set key value first)
    rw [step, keys_set, keys_cons]
    by_cases present : key ∈ keys first
    · simp [present]
    · have later : (keys rest).filter (· ∉ keys first ++ [key]) = (keys rest).filter (· ∉ keys first) := by
        refine List.filter_congr fun k member => ?_
        have other : k ≠ key := fun same => fresh (same ▸ member)
        simp [other]
      rw [if_neg present, later, List.filter_cons_of_pos (by simpa using present), List.append_assoc]
      rfl

theorem nil_overlay (distinct : Distinct first) : overlay [] first = first :=
  overlay_of_distinct (show Distinct ([] ++ first) from distinct)

theorem keys_erase (key : κ) (entries : List (κ × α)) :
    keys (erase key entries) = (keys entries).filter (· ≠ key) := by
  rw [keys, keys, List.filter_map]
  rfl

theorem find?_erase (key other : κ) (entries : List (κ × α)) :
    find? other (erase key entries) = if other = key then none else find? other entries := by
  by_cases own : other = key
  · rw [if_pos own, own, find?_erase_self]
  · rw [if_neg own, find?_erase_of_ne (Ne.symm own)]

theorem overlay_assoc (distinctFirst : Distinct first) (distinctSecond : Distinct second)
    (distinctThird : Distinct third) :
    overlay (overlay first second) third = overlay first (overlay second third) := by
  have distinctUpper := distinct_overlay distinctSecond third
  refine eq_of_find? (distinct_overlay (distinct_overlay distinctFirst second) third) ?_ fun key => ?_
  · -- Either way a key of the last comes where neither of the others has it.
    rw [keys_overlay distinctThird, keys_overlay distinctSecond, keys_overlay distinctUpper,
      keys_overlay distinctThird, List.filter_append, List.filter_filter, List.append_assoc]
    congr 2
    refine List.filter_congr fun key _ => ?_
    by_cases below : key ∈ keys first <;> simp [below]
  · rw [find?_overlay distinctThird, find?_overlay distinctSecond, find?_overlay distinctUpper,
      find?_overlay distinctThird, Option.or_assoc]

theorem erase_overlay (distinctFirst : Distinct first) (distinctSecond : Distinct second) (key : κ) :
    erase key (overlay first second) = overlay (erase key first) (erase key second) := by
  have distinctUpper := distinct_erase distinctSecond key
  refine eq_of_find? (distinct_erase (distinct_overlay distinctFirst second) key) ?_ fun other => ?_
  · rw [keys_erase, keys_overlay distinctSecond, keys_overlay distinctUpper, keys_erase, keys_erase,
      List.filter_append, List.filter_filter, List.filter_filter]
    congr 1
    refine List.filter_congr fun k _ => ?_
    by_cases own : k = key <;> simp [own]
  · rw [find?_erase, find?_overlay distinctSecond, find?_overlay distinctUpper, find?_erase, find?_erase]
    split <;> rfl

theorem erase_set_of_not_mem {key : κ} (absent : key ∉ keys first) (value : α) :
    erase key (set key value first) = first := by
  rw [set_of_not_mem absent]
  calc
    _ = erase key first ++ erase key [(key, value)] := List.filter_append _ _
    _ = first := by rw [erase_of_not_mem absent]; simp [erase]

end Assoc

namespace Document

/-- The laws of the mappings with these entries, for all keys and values. The order of entries counts everywhere. -/
structure OverlayLaws (a b c : List (String × Document)) : Prop where
  assoc : ((mapping a).merged (mapping b) >>= (·.merged (mapping c))) =
    (mapping b).merged (mapping c) >>= (mapping a).merged
  empty_merged : (mapping []).merged (mapping a) = .ok (mapping a)
  merged_empty : (mapping a).merged (mapping []) = .ok (mapping a)
  merged : ∃ ab, (mapping a).merged (mapping b) = .ok (mapping ab) ∧
    Assoc.keys ab = Assoc.keys a ++ (Assoc.keys b).filter (· ∉ Assoc.keys a) ∧
    ∀ key, (mapping ab).get key =
      if (mapping b).hasKey key then (mapping b).get key else (mapping a).get key
  withEntry : ∀ key value, (mapping a).withEntry key value = (mapping a).merged (mapping [(key, value)])
  without : ∀ key, ∃ rest, (mapping a).without key = .ok (mapping rest) ∧
    Assoc.keys rest = (Assoc.keys a).filter (· ≠ key) ∧
    ∀ other, (mapping rest).get other = if other = key then .ok none else (mapping a).get other
  without_withEntry : ∀ key value, (mapping a).hasKey key = false →
    ((mapping a).withEntry key value >>= (·.without key)) = .ok (mapping a)
  without_merged : ∀ key, ((mapping a).merged (mapping b) >>= (·.without key)) = do
    (← (mapping a).without key).merged (← (mapping b).without key)

structure NotOverlaid (d : Document) (fault : Fault) : Prop where
  cause : fault.cause = .malformed (.expected .mapping d.kind)
  message : fault.message = "Expected mapping, found " ++ d.kind.name
  get : ∀ key, d.get key = .error (.fault fault)
  withEntry : ∀ key value, d.withEntry key value = .error (.fault fault)
  without : ∀ key, d.without key = .error (.fault fault)
  below : ∀ upper, d.merged upper = .error (.fault fault)
  above : ∀ entries, (mapping entries).merged d = .error (.fault fault)

theorem notOverlaid_of_not_mapping {d : Document} (other : d.isMapping = false) :
    ∃ fault, NotOverlaid d fault := by
  have refused : d.asMapping = .error (expected .mapping d) := by
    cases d with
    | mapping entries => cases other
    | _ => rfl
  refine ⟨⟨.malformed (.expected .mapping d.kind), {}⟩, rfl, rfl, ?_, ?_, ?_, ?_, ?_⟩
  · intro key
    rw [Document.get, refused]
    rfl
  · intro key value
    rw [Document.withEntry, refused]
    rfl
  · intro key
    rw [Document.without, refused]
    rfl
  · intro upper
    rw [Document.merged, refused]
    rfl
  · intro entries
    show d.asMapping >>= _ = _
    rw [refused]
    rfl

theorem get_overlay {a b : List (String × Document)} (distinct : Assoc.Distinct b) (key : String) :
    (mapping (Assoc.overlay a b)).get key =
      if (mapping b).hasKey key then (mapping b).get key else (mapping a).get key := by
  rw [get_mapping, get_mapping, get_mapping, hasKey, Assoc.contains, Assoc.find?_overlay distinct]
  cases Assoc.find? key b <;> rfl

/-- Mappings overlay each other by these laws, and nothing else is overlaid. -/
theorem mappings_overlay {a b c : List (String × Document)} (distinctA : Assoc.Distinct a)
    (distinctB : Assoc.Distinct b) (distinctC : Assoc.Distinct c) :
    OverlayLaws a b c ∧ ∀ d : Document, d.isMapping = false → ∃ fault, NotOverlaid d fault := by
  refine ⟨?_, fun d other => notOverlaid_of_not_mapping other⟩
  constructor
  · show Except.ok (mapping _) = Except.ok (mapping _)
    rw [Assoc.overlay_assoc distinctA distinctB distinctC]
  · show Except.ok (mapping _) = Except.ok (mapping _)
    rw [Assoc.nil_overlay distinctA]
  · rfl
  · exact ⟨_, rfl, Assoc.keys_overlay distinctB a, get_overlay distinctB⟩
  · exact fun key value => rfl
  · intro key
    refine ⟨_, rfl, Assoc.keys_erase key a, fun other => ?_⟩
    rw [get_mapping, get_mapping, Assoc.find?_erase]
    split <;> rfl
  · intro key value absent
    have fresh : key ∉ Assoc.keys a := by
      rw [← Assoc.contains_eq_true]
      exact Bool.eq_false_iff.mp absent
    show Except.ok (mapping _) = Except.ok (mapping _)
    rw [Assoc.erase_set_of_not_mem fresh]
  · intro key
    show Except.ok (mapping _) = Except.ok (mapping _)
    rw [Assoc.erase_overlay distinctA distinctB]

theorem mappings_overlay_shared_keys :
    let a := [("kind", string "Cluster"), ("spec", mapping []), ("status", null)]
    let b := [("status", bool true), ("kind", string "Machine"), ("metadata", null)]
    let c := [("metadata", mapping []), ("spec", null), ("typemeta", null)]
    Assoc.Distinct a ∧ Assoc.Distinct b ∧ Assoc.Distinct c ∧ OverlayLaws a b c ∧
      ((mapping b).merged (mapping c) >>= (mapping a).merged) = .ok (mapping [("kind", string "Machine"),
        ("spec", null), ("status", bool true), ("metadata", mapping []), ("typemeta", null)]) ∧
      ∃ fault, NotOverlaid (sequence []) fault ∧ fault.message = "Expected mapping, found sequence" := by
  intro a b c
  have distinctA : Assoc.Distinct a := by simp [a, Assoc.Distinct, Assoc.keys]
  have distinctB : Assoc.Distinct b := by simp [b, Assoc.Distinct, Assoc.keys]
  have distinctC : Assoc.Distinct c := by simp [c, Assoc.Distinct, Assoc.keys]
  obtain ⟨laws, others⟩ := mappings_overlay distinctA distinctB distinctC
  obtain ⟨fault, refused⟩ := others (sequence []) rfl
  exact ⟨distinctA, distinctB, distinctC, laws, rfl, fault, refused, refused.message⟩

end Document
end ClusterLedger
