import ClusterLedger.Proofs.Tracking.Operations

/-!
Whether a rename that was detected is settled once the live name is recorded. The next detection starts
from the last entry with that name, so the rename is settled exactly if no later entry shares the name.
-/

namespace ClusterLedger

structure Directory.Serves (directory : Directory) (kind : ResourceKind) (org : String)
    (live : List LiveResource) : Prop where
  ids : (live.map (·.id)).Nodup
  names : (live.map (·.name)).Nodup
  byId : ∀ resource ∈ live, directory (.byId kind resource.id org) = .ok resource
  byName : ∀ resource ∈ live, directory (.byName kind resource.name org) = .ok resource
  noId : ∀ id, id ∉ live.map (·.id) →
    ∃ failure, directory (.byId kind id org) = .error failure ∧ failure.isNotFound = true
  noName : ∀ name, name ∉ live.map (·.name) →
    ∃ failure, directory (.byName kind name org) = .error failure ∧ failure.isNotFound = true

def Directory.listing (live : List LiveResource) : Directory
  | .byId kind id _ =>
    match live.find? fun resource => resource.id = id with
    | some resource => .ok resource
    | none => .error (.fault (Fault.notFound kind.name none none (some id) none))
  | .byName kind name _ =>
    match live.find? fun resource => resource.name = name with
    | some resource => .ok resource
    | none => .error (.fault (Fault.notFound kind.name (some (.text name)) none none none))

def Detection.Settled (detection : Detection) (id : String) : Prop :=
  ∃ c, detection.result = .ok c ∧ c.renamed = false ∧ c.adopted = false ∧ c.resource.id = id

namespace Directory.Serves

variable {directory : Directory} {kind : ResourceKind} {org : String} {live : List LiveResource}

theorem of_byId (serves : directory.Serves kind org live) {id : String} {resource : LiveResource}
    (found : directory (.byId kind id org) = .ok resource) : resource ∈ live ∧ resource.id = id := by
  by_cases listed : id ∈ live.map (·.id)
  · obtain ⟨other, member, rfl⟩ := List.mem_map.mp listed
    have same : other = resource := Except.ok.inj ((serves.byId other member).symm.trans found)
    exact same ▸ ⟨member, rfl⟩
  · obtain ⟨failure, failed, _⟩ := serves.noId id listed
    rw [failed] at found
    cases found

theorem of_byName (serves : directory.Serves kind org live) {name : String} {resource : LiveResource}
    (found : directory (.byName kind name org) = .ok resource) :
    resource ∈ live ∧ resource.name = name := by
  by_cases listed : name ∈ live.map (·.name)
  · obtain ⟨other, member, rfl⟩ := List.mem_map.mp listed
    have same : other = resource := Except.ok.inj ((serves.byName other member).symm.trans found)
    exact same ▸ ⟨member, rfl⟩
  · obtain ⟨failure, failed, _⟩ := serves.noName name listed
    rw [failed] at found
    cases found

theorem listing (kind : ResourceKind) (org : String) (ids : (live.map (·.id)).Nodup)
    (names : (live.map (·.name)).Nodup) : (Directory.listing live).Serves kind org live := by
  refine ⟨ids, names, ?_, ?_, ?_, ?_⟩
  · intro resource member
    simp only [Directory.listing, Assoc.find?_of_nodup ids member]
  · intro resource member
    simp only [Directory.listing, Assoc.find?_of_nodup names member]
  · intro id absent
    have missing : (live.find? fun resource => resource.id = id) = none := by simpa using absent
    exact ⟨_, by simp only [Directory.listing, missing]; rfl, rfl⟩
  · intro name absent
    have missing : (live.find? fun resource => resource.name = name) = none := by simpa using absent
    exact ⟨_, by simp only [Directory.listing, missing]; rfl, rfl⟩

end Directory.Serves

namespace ResourceMap

variable {m : ResourceMap} {directory : Directory} {org specName : String} {statusName : Option String}
  {live : List LiveResource}

theorem recheck_result {kind : ResourceKind} {name id : String} {c : RenameCheck}
    (ok : (m.recheck directory kind org specName name id).result = .ok c) :
    directory (.byId kind id org) = .ok c.resource ∧ c.adopted = false ∧
      (m.recheck directory kind org specName name id).map = m := by
  simp only [recheck] at ok ⊢
  cases answer : directory (.byId kind id org) with
  | ok resource =>
    rw [answer] at ok
    cases ok
    exact ⟨rfl, rfl, rfl⟩
  | error failure =>
    rw [answer] at ok
    cases gone : failure.isNotFound <;> simp [gone] at ok

theorem adopt_result {kind : ResourceKind} {name : String} {c : RenameCheck}
    (ok : (m.adopt directory kind org name).result = .ok c) :
    directory (.byName kind name org) = .ok c.resource ∧ c.adopted = true ∧
      (m.adopt directory kind org name).map = m := by
  simp only [adopt] at ok ⊢
  cases answer : directory (.byName kind name org) with
  | ok resource =>
    rw [answer] at ok
    cases ok
    exact ⟨rfl, rfl, rfl⟩
  | error failure =>
    rw [answer] at ok
    cases ok

/-- What is found is live, leaves the map alone, and is adopted only if its name is not tracked. -/
theorem detectRename_found (serves : directory.Serves .ovdc org live) {c : RenameCheck} {kind : Value}
    (ok : (m.detectRename directory kind org specName statusName).result = .ok c) :
    (m.detectRename directory kind org specName statusName).map = m ∧ c.resource ∈ live ∧
      (c.adopted = true → m.idOf? .ovdc c.newName = none) := by
  rcases m.detectRename_cases directory kind org specName statusName with
    ⟨failure, _, failed⟩ | ⟨untracked, adopting⟩ | ⟨id, _, rechecking⟩
  · rw [failed] at ok
    cases ok
  · rw [adopting] at ok ⊢
    obtain ⟨found, _, same⟩ := adopt_result ok
    obtain ⟨member, named⟩ := serves.of_byName found
    refine ⟨same, member, fun _ => ?_⟩
    rw [RenameCheck.newName, named]
    exact untracked
  · rw [rechecking] at ok ⊢
    obtain ⟨found, unadopted, same⟩ := recheck_result ok
    refine ⟨same, (serves.of_byId found).1, fun adopted => ?_⟩
    rw [unadopted] at adopted
    cases adopted

/-- A detection by the live name of a resource settles exactly if that name leads to its ID. -/
theorem settled_iff (serves : directory.Serves .ovdc org live) {resource : LiveResource}
    (member : resource ∈ live) :
    (m.detectRename directory (.text "ovdc") org resource.name (some resource.name)).Settled resource.id ↔
      m.idOf? .ovdc resource.name = some resource.id := by
  have asked : lastKnownName resource.name (some resource.name) = resource.name := ite_self _
  rcases m.detectRename_cases directory (.text "ovdc") org resource.name (some resource.name) with
    ⟨failure, unread, _⟩ | ⟨untracked, adopting⟩ | ⟨id, tracked, rechecking⟩
  · cases unread
  · rw [asked] at untracked adopting
    rw [untracked, adopting]
    refine ⟨?_, fun impossible => nomatch impossible⟩
    rintro ⟨c, ok, _, unadopted, _⟩
    rw [(adopt_result ok).2.1] at unadopted
    cases unadopted
  · rw [asked] at tracked rechecking
    rw [tracked, rechecking]
    constructor
    · rintro ⟨c, ok, _, _, same⟩
      rw [← same, (serves.of_byId (recheck_result ok).1).2]
    · intro same
      cases Option.some.inj same
      refine ⟨⟨false, resource, false⟩, ?_, rfl, rfl, rfl⟩
      simp [recheck, serves.byId resource member]

/--
The live name can be recorded unless the ID is empty. After that the rename is settled exactly if no
entry behind that of the ID bears the live name too, as is always so for an adopted resource.
-/
theorem settled_after_upsert_iff {v : Value} (accepted : ofValue v = .ok m)
    (serves : directory.Serves .ovdc org live) {c : RenameCheck}
    (detected : (m.detectRename directory (.text "ovdc") org specName statusName).result = .ok c) :
    let first := (m.detectRename directory (.text "ovdc") org specName statusName).map
    let unshared := ∀ other ∈ m.behind .ovdc c.resource.id, other.name ≠ c.newName
    ((∃ recorded events, first.upsert (.text "ovdc") c.resource.id c.newName = .ok (recorded, events)) ↔
      c.resource.id ≠ "") ∧
    (∀ recorded events, first.upsert (.text "ovdc") c.resource.id c.newName = .ok (recorded, events) →
      ((recorded.detectRename directory (.text "ovdc") org c.newName (some c.newName)).Settled c.resource.id ↔
        unshared)) ∧
    (c.adopted = true → unshared) := by
  intro first unshared
  have valid := valid_ofValue accepted
  have filed := valid.entries .ovdc
  obtain ⟨same, member, untracked⟩ := detectRename_found serves detected
  have unchanged : first = m := same
  rw [unchanged]
  refine ⟨upsert_succeeds_iff valid, ?_, ?_⟩
  · intro recorded events ok
    have refiled := upsert_refiled valid ok
    have distinct := (refiled.valid.entries .ovdc).ids
    calc
      (recorded.detectRename directory (.text "ovdc") org c.newName (some c.newName)).Settled c.resource.id
      _ ↔ recorded.idOf? .ovdc c.newName = some c.resource.id := settled_iff serves member
      _ ↔ recorded.nameOf? .ovdc c.resource.id = some c.newName ∧
            ∀ other ∈ recorded.behind .ovdc c.resource.id, other.name ≠ c.newName :=
        TrackedResource.lastNamed?_eq_some_iff distinct
      _ ↔ unshared := by
        have named : recorded.nameOf? .ovdc c.resource.id = some c.newName := by
          rw [nameOf?_eq, refiled.entries, Note.nameIn_file, if_pos rfl]
        have same : recorded.behind .ovdc c.resource.id = m.behind .ovdc c.resource.id := by
          rw [behind, refiled.entries, Note.behind_file filed.ids]
          rfl
        rw [same]
        exact and_iff_right named
  · intro adopted other behind
    exact TrackedResource.lastNamed?_eq_none.mp (untracked adopted) other
      (TrackedResource.mem_of_mem_behind behind)

/-- The live name of the first resource is the stale name of the second. -/
theorem unsettled_by_stale_name :
    ¬ ∀ (v : Value) (m : ResourceMap) (directory : Directory) (org specName : String)
        (statusName : Option String) (live : List LiveResource) (c : RenameCheck) (recorded : ResourceMap)
        (events : List Event),
      ofValue v = .ok m → directory.Serves .ovdc org live →
      (m.detectRename directory (.text "ovdc") org specName statusName).result = .ok c →
      (m.detectRename directory (.text "ovdc") org specName statusName).map.upsert (.text "ovdc")
        c.resource.id c.newName = .ok (recorded, events) →
      (recorded.detectRename directory (.text "ovdc") org c.newName (some c.newName)).Settled
        c.resource.id := by
  intro settles
  let before : ResourceMap := ⟨[(.ovdc, [⟨.ovdc, "A", "old"⟩, ⟨.ovdc, "B", "new"⟩])]⟩
  let recorded : ResourceMap := ⟨[(.ovdc, [⟨.ovdc, "A", "new"⟩, ⟨.ovdc, "B", "new"⟩])]⟩
  have serves : (Directory.listing [⟨.ovdc, "A", "new"⟩, ⟨.ovdc, "B", "other"⟩]).Serves .ovdc "org1"
      [⟨.ovdc, "A", "new"⟩, ⟨.ovdc, "B", "other"⟩] := .listing .ovdc "org1" (by decide) (by decide)
  obtain ⟨c, found, _, _, same⟩ := settles
    before.raw before _ "org1" "old" (some "old") _ ⟨true, ⟨.ovdc, "A", "new"⟩, false⟩ recorded _
    rfl serves rfl rfl
  have other : c = ⟨true, ⟨.ovdc, "B", "other"⟩, false⟩ := (Except.ok.inj found).symm
  rw [other] at same
  exact absurd same (by decide)

theorem settled_after_upsert_unshared :
    let m : ResourceMap := ⟨[(.ovdc, [⟨.ovdc, "B", "new"⟩, ⟨.ovdc, "A", "old"⟩])]⟩
    let recorded : ResourceMap := ⟨[(.ovdc, [⟨.ovdc, "B", "new"⟩, ⟨.ovdc, "A", "new"⟩])]⟩
    let directory := Directory.listing [⟨.ovdc, "A", "new"⟩, ⟨.ovdc, "B", "other"⟩]
    ofValue m.raw = .ok m ∧
    directory.Serves .ovdc "org1" [⟨.ovdc, "A", "new"⟩, ⟨.ovdc, "B", "other"⟩] ∧
    (m.detectRename directory (.text "ovdc") "org1" "old" none).result =
      .ok ⟨true, ⟨.ovdc, "A", "new"⟩, false⟩ ∧
    m.upsert (.text "ovdc") "A" "new" = .ok (recorded, [.renamed "ovdc" "A" "old" "new"]) ∧
    (recorded.detectRename directory (.text "ovdc") "org1" "new" (some "new")).Settled "A" := by
  intro m recorded directory
  have accepted : ofValue m.raw = .ok m := rfl
  have serves : directory.Serves .ovdc "org1" [⟨.ovdc, "A", "new"⟩, ⟨.ovdc, "B", "other"⟩] :=
    .listing .ovdc "org1" (by decide) (by decide)
  have detected : (m.detectRename directory (.text "ovdc") "org1" "old" none).result =
      .ok ⟨true, ⟨.ovdc, "A", "new"⟩, false⟩ := rfl
  have recording : m.upsert (.text "ovdc") "A" "new" =
      .ok (recorded, [.renamed "ovdc" "A" "old" "new"]) := rfl
  have unshared : ∀ other ∈ m.behind .ovdc "A", other.name ≠ "new" := by decide
  have settles := (settled_after_upsert_iff accepted serves detected).2.1 recorded _ recording
  exact ⟨accepted, serves, detected, recording, settles.mpr unshared⟩

end ResourceMap

end ClusterLedger
