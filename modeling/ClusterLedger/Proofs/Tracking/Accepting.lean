import ClusterLedger.Proofs.Tracking.Valid

namespace ClusterLedger
namespace ResourceMap

structure WellFiled (kind : ResourceKind) (entries : List TrackedResource) : Prop where
  own : ∀ entry ∈ entries, entry.kind = kind
  ids : (entries.map (·.id)).Nodup

instance (kind : ResourceKind) (entries : List TrackedResource) : Decidable (WellFiled kind entries) :=
  decidable_of_iff ((∀ entry ∈ entries, entry.kind = kind) ∧ (entries.map (·.id)).Nodup)
    ⟨fun ⟨own, ids⟩ => ⟨own, ids⟩, fun ⟨own, ids⟩ => ⟨own, ids⟩⟩

/-- An entry does not belong where these IDs were seen before it. A wrong kind is told before a repeated ID. -/
inductive Misplaced (kind : ResourceKind) (seen : List String) (entry : TrackedResource) :
    Misconfiguration → Prop where
  | misfiled (other : entry.kind ≠ kind) :
    Misplaced kind seen entry (.misfiled entry.kind.name entry.id kind.name)
  | repeated (own : entry.kind = kind) (again : entry.id ∈ seen) :
    Misplaced kind seen entry (.duplicateId kind.name entry.id)

def FirstMisplaced (groups : List (ResourceKind × List TrackedResource)) (kind : ResourceKind)
    (entry : TrackedResource) (what : Misconfiguration) : Prop :=
  ∃ before earlier later after, groups = before ++ (kind, earlier ++ entry :: later) :: after ∧
    (∀ group ∈ before, WellFiled group.1 group.2) ∧ WellFiled kind earlier ∧
    Misplaced kind (earlier.map (·.id)) entry what

section

variable {kind : ResourceKind} {seen : List String} {entries earlier : List TrackedResource}
  {entry : TrackedResource} {what : Misconfiguration} {failure : Failure}

theorem checkGroup_nil_eq_ok : checkGroup kind [] entries = .ok () ↔ WellFiled kind entries := by
  rw [checkGroup_eq_ok]
  constructor
  · exact fun ⟨own, ids⟩ => ⟨fun entry inside => (own entry inside).1, ids⟩
  · exact fun ⟨own, ids⟩ => ⟨fun entry inside => ⟨own entry inside, List.not_mem_nil⟩, ids⟩

theorem checkGroup_of_misplaced (misplaced : Misplaced kind seen entry what) (later : List TrackedResource) :
    checkGroup kind seen (entry :: later) =
      .error (.misconfigured what { kind := some kind.name, id := some entry.id }) := by
  unfold checkGroup
  cases misplaced with
  | misfiled other => exact if_pos other
  | repeated own again => rw [if_neg (not_not_intro own), if_pos again]

theorem checkGroup_of_placed (own : entry.kind = kind) (fresh : entry.id ∉ seen)
    (later : List TrackedResource) :
    checkGroup kind seen (entry :: later) = checkGroup kind (entry.id :: seen) later := by
  rw [checkGroup, if_neg (not_not_intro own), if_neg fresh]

theorem misplaced_or_placed (kind : ResourceKind) (seen : List String) (entry : TrackedResource) :
    (∃ what, Misplaced kind seen entry what) ∨ entry.kind = kind ∧ entry.id ∉ seen := by
  by_cases own : entry.kind = kind
  · by_cases again : entry.id ∈ seen
    · exact Or.inl ⟨_, .repeated own again⟩
    · exact Or.inr ⟨own, again⟩
  · exact Or.inl ⟨_, .misfiled own⟩

theorem misplaced_congr {others : List String} (same : ∀ id, id ∈ seen ↔ id ∈ others) :
    Misplaced kind seen entry what ↔ Misplaced kind others entry what := by
  constructor <;> intro misplaced <;> cases misplaced with
  | misfiled other => exact .misfiled other
  | repeated own again => exact .repeated own (by simpa [same] using again)

theorem checkGroup_append (fine : checkGroup kind seen earlier = .ok ()) (later : List TrackedResource) :
    checkGroup kind seen (earlier ++ later) =
      checkGroup kind ((earlier.map (·.id)).reverse ++ seen) later := by
  induction earlier generalizing seen with
  | nil => rfl
  | cons entry rest ih =>
    rcases misplaced_or_placed kind seen entry with ⟨what, misplaced⟩ | ⟨own, fresh⟩
    · rw [checkGroup_of_misplaced misplaced] at fine
      cases fine
    · rw [checkGroup_of_placed own fresh] at fine
      rw [List.cons_append, checkGroup_of_placed own fresh, ih fine, List.map_cons, List.reverse_cons,
        List.append_assoc]
      rfl

/-- A check that fails got as far as an entry that does not belong; the IDs before it are remembered last first. -/
theorem exists_misplaced (failed : checkGroup kind seen entries = .error failure) :
    ∃ earlier entry later what, entries = earlier ++ entry :: later ∧ checkGroup kind seen earlier = .ok () ∧
      Misplaced kind ((earlier.map (·.id)).reverse ++ seen) entry what ∧
      failure = .misconfigured what { kind := some kind.name, id := some entry.id } := by
  induction entries generalizing seen with
  | nil => cases failed
  | cons first rest ih =>
    rcases misplaced_or_placed kind seen first with ⟨what, misplaced⟩ | ⟨own, fresh⟩
    · rw [checkGroup_of_misplaced misplaced] at failed
      exact ⟨[], first, rest, what, rfl, rfl, misplaced, (Except.error.inj failed).symm⟩
    · rw [checkGroup_of_placed own fresh] at failed
      obtain ⟨earlier, entry, later, what, rfl, fine, misplaced, same⟩ := ih failed
      refine ⟨first :: earlier, entry, later, what, rfl, ?_, ?_, same⟩
      · rw [checkGroup_of_placed own fresh, fine]
      · rw [List.map_cons, List.reverse_cons, List.append_assoc]
        exact misplaced

theorem checkGroup_nil_eq_error : checkGroup kind [] entries = .error failure ↔
    ∃ earlier entry later what, entries = earlier ++ entry :: later ∧ WellFiled kind earlier ∧
      Misplaced kind (earlier.map (·.id)) entry what ∧
      failure = .misconfigured what { kind := some kind.name, id := some entry.id } := by
  have unordered (earlier : List TrackedResource) (entry : TrackedResource) (what : Misconfiguration) :
      Misplaced kind ((earlier.map (·.id)).reverse ++ []) entry what ↔
        Misplaced kind (earlier.map (·.id)) entry what := by
    rw [List.append_nil]
    exact misplaced_congr fun id => List.mem_reverse
  constructor
  · intro failed
    obtain ⟨earlier, entry, later, what, split, fine, misplaced, same⟩ := exists_misplaced failed
    exact ⟨earlier, entry, later, what, split, checkGroup_nil_eq_ok.mp fine,
      (unordered earlier entry what).mp misplaced, same⟩
  · rintro ⟨earlier, entry, later, what, rfl, fine, misplaced, rfl⟩
    rw [checkGroup_append (checkGroup_nil_eq_ok.mpr fine),
      checkGroup_of_misplaced ((unordered earlier entry what).mpr misplaced)]

end

variable {groups : List (ResourceKind × List TrackedResource)} {failure : Failure}

theorem checkGroups_eq_error : checkGroups groups = .error failure ↔
    ∃ before kind entries after, groups = before ++ (kind, entries) :: after ∧
      (∀ group ∈ before, checkGroup group.1 [] group.2 = .ok ()) ∧
      checkGroup kind [] entries = .error failure := by
  induction groups with
  | nil =>
    refine ⟨fun failed => (nomatch failed), ?_⟩
    rintro ⟨before, kind, entries, after, split, -⟩
    cases before <;> cases split
  | cons group rest ih =>
    obtain ⟨kind, entries⟩ := group
    rw [show checkGroups ((kind, entries) :: rest) = (checkGroup kind [] entries >>= fun _ => checkGroups rest)
      from rfl]
    constructor
    · intro failed
      cases checked : checkGroup kind [] entries with
      | error raised =>
        rw [checked] at failed
        exact ⟨[], kind, entries, rest, rfl, fun _ none => (List.not_mem_nil none).elim, checked.trans failed⟩
      | ok fine =>
        rw [checked] at failed
        obtain ⟨before, kind', entries', after, rfl, fines, found⟩ := ih.mp failed
        exact ⟨(kind, entries) :: before, kind', entries', after, rfl,
          List.forall_mem_cons.mpr ⟨checked, fines⟩, found⟩
    · rintro ⟨before, kind', entries', after, split, fines, found⟩
      cases before with
      | nil =>
        obtain ⟨same, -⟩ : (kind, entries) = (kind', entries') ∧ rest = after := List.cons.inj split
        cases same
        rw [found]
        rfl
      | cons first before =>
        obtain ⟨rfl, rfl⟩ := List.cons.inj split
        obtain ⟨checked, fines⟩ := List.forall_mem_cons.mp fines
        rw [checked]
        exact ih.mpr ⟨before, kind', entries', after, rfl, fines, found⟩

theorem ofGroups_eq_error : ofGroups groups = .error failure ↔ checkGroups groups = .error failure := by
  unfold ofGroups
  cases checkGroups groups <;> simp [bind, Except.bind, pure, Except.pure]

theorem ofGroups_eq_ok_iff {m : ResourceMap} :
    ofGroups groups = .ok m ↔ m = ⟨groups⟩ ∧ ∀ group ∈ groups, WellFiled group.1 group.2 := by
  simp only [ofGroups_eq_ok, checkGroups_eq_ok, checkGroup_nil_eq_ok, and_comm]

/--
Of a dictionary of entries with IDs, whatever it is read from, just the well filed groups make a map, and they
are that map. Each group counts by itself, so an ID may be shared between kinds. Groups that are not well filed
fail for the first entry that does not belong, with the kind of its group and its ID.
-/
theorem ofGroups_decides (dictionary : Assoc.Distinct groups)
    (named : ∀ group ∈ groups, ∀ entry ∈ group.2, entry.id ≠ "") :
    ReadAs (raw ⟨groups⟩) groups ∧ (∀ v, ReadAs v groups → ofValue v = ofGroups groups) ∧
      (∀ m, ofGroups groups = .ok m ↔ m = ⟨groups⟩ ∧ ∀ group ∈ groups, WellFiled group.1 group.2) ∧
      ((∃ m, ofGroups groups = .ok m) ↔ ∀ group ∈ groups, ∃ m, ofGroups [group] = .ok m) ∧
      ∀ failure, ofGroups groups = .error failure ↔ ∃ kind entry what, FirstMisplaced groups kind entry what ∧
        failure = .misconfigured what { kind := some kind.name, id := some entry.id } := by
  refine ⟨readAs_raw dictionary named, fun v => ofValue_of_readAs, fun m => ofGroups_eq_ok_iff, ?_, ?_⟩
  · have made (part : List (ResourceKind × List TrackedResource)) :
        (∃ m, ofGroups part = .ok m) ↔ ∀ group ∈ part, WellFiled group.1 group.2 := by
      simp only [ofGroups_eq_ok_iff, exists_eq_left]
    simp only [made, List.forall_mem_singleton]
  · intro failure
    rw [ofGroups_eq_error, checkGroups_eq_error]
    constructor
    · rintro ⟨before, kind, entries, after, rfl, fines, failed⟩
      obtain ⟨earlier, entry, later, what, rfl, fine, misplaced, same⟩ := checkGroup_nil_eq_error.mp failed
      exact ⟨kind, entry, what, ⟨before, earlier, later, after, rfl,
        fun group member => checkGroup_nil_eq_ok.mp (fines group member), fine, misplaced⟩, same⟩
    · rintro ⟨kind, entry, what, ⟨before, earlier, later, after, rfl, fines, fine, misplaced⟩, same⟩
      exact ⟨before, kind, earlier ++ entry :: later, after, rfl,
        fun group member => checkGroup_nil_eq_ok.mpr (fines group member),
        checkGroup_nil_eq_error.mpr ⟨earlier, entry, later, what, rfl, fine, misplaced, same⟩⟩

theorem ofGroups_decides_shared_ids :
    let groups : List (ResourceKind × List TrackedResource) :=
      [(.catalog, []), (.ovdc, [⟨.ovdc, "X", "a"⟩, ⟨.ovdc, "Y", "b"⟩]), (.org, [⟨.org, "X", "c"⟩])]
    let misfiled : ResourceKind × List TrackedResource :=
      (.catalog, [⟨.catalog, "X", "d"⟩, ⟨.ovdc, "X", "e"⟩, ⟨.catalog, "X", "f"⟩])
    ofValue (raw ⟨groups⟩) = .ok ⟨groups⟩ ∧
      ofGroups (groups.drop 1 ++ [misfiled]) = .error (.misconfigured (.misfiled "ovdc" "X" "catalog")
        { kind := some "catalog", id := some "X" }) := by
  intro groups misfiled
  have dictionary : Assoc.Distinct groups := by simp [groups, Assoc.Distinct, Assoc.keys]
  have other : Assoc.Distinct (groups.drop 1 ++ [misfiled]) := by
    simp [groups, misfiled, Assoc.Distinct, Assoc.keys]
  obtain ⟨read, same, made, -⟩ := ofGroups_decides dictionary (by decide)
  obtain ⟨-, -, -, -, fails⟩ := ofGroups_decides other (by decide)
  constructor
  · rw [same _ read, made]
    exact ⟨rfl, by decide⟩
  · refine (fails _).mpr ⟨.catalog, ⟨.ovdc, "X", "e"⟩, _, ?_, rfl⟩
    exact ⟨groups.drop 1, [⟨.catalog, "X", "d"⟩], [⟨.catalog, "X", "f"⟩], [], rfl, by decide, by decide,
      .misfiled (by decide)⟩

end ResourceMap
end ClusterLedger
