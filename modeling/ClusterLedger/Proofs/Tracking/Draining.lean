import ClusterLedger.Proofs.Tracking.Detecting
import ClusterLedger.Proofs.Tracking.History

/-!
How the entries of a name drain. While the directory finds none of their IDs any more, every detection of
the name fails and drops one of them, the last one first. When none is left, the name itself is looked up,
so a resource that was created again is found.
-/

namespace ClusterLedger

namespace TrackedResource

variable {entries before behind : List TrackedResource} {entry : TrackedResource} {name : String}

def bearing (entries : List TrackedResource) (name : String) : List TrackedResource :=
  (entries.filter fun entry => entry.name = name).reverse

@[simp] theorem mem_bearing : entry ∈ bearing entries name ↔ entry ∈ entries ∧ entry.name = name := by
  simp [bearing]

theorem LastNamed.bearing_split (last : LastNamed entries name before entry behind) :
    bearing entries name = entry :: bearing (before ++ behind) name := by
  have others : behind.filter (fun entry => entry.name = name) = [] :=
    List.filter_eq_nil_iff.mpr fun other member => by simpa using last.unshared other member
  simp [bearing, last.split, last.named, others]

theorem filter_ne_split (distinct : ((before ++ entry :: behind).map (·.id)).Nodup) :
    (before ++ entry :: behind).filter (· ≠ entry) = before ++ behind := by
  have others := id_not_mem_of_split distinct
  have kept : (before ++ behind).filter (· ≠ entry) = before ++ behind :=
    List.filter_eq_self.mpr fun other member =>
      decide_eq_true fun same => others other member (congrArg TrackedResource.id same)
  rw [List.filter_append] at kept ⊢
  rw [List.filter_cons_of_neg (by simp), kept]

end TrackedResource

theorem Failure.PassedOn.isNotFound {failure raised : Failure} (passed : failure.PassedOn raised) :
    raised.isNotFound = failure.isNotFound := by
  cases passed with
  | same => rfl
  | _ cause => cases cause <;> rfl

open TrackedResource

/--
The last entry with a name was looked up by its ID and dropped as it was not found, which is what the
detection ends in.
-/
structure Detection.Drops (detection : Detection) (m : ResourceMap) (directory : Directory)
    (org name : String) (entry : TrackedResource) : Prop where
  lookups : detection.lookups = [.byId .ovdc entry.id org]
  raised : ∃ failure raised, directory (.byId .ovdc entry.id org) = .error failure ∧
    failure.PassedOn raised ∧ raised.isNotFound ∧ detection.result = .error raised
  removed : ∃ before behind, LastNamed (m.entries .ovdc) name before entry behind ∧
    detection.map.entries .ovdc = before ++ behind
  others : ∀ other, other ≠ .ovdc → detection.map.entries other = m.entries other

namespace ResourceMap

def detectUnrenamed (m : ResourceMap) (directory : Directory) (org name : String) : Detection :=
  m.detectRename directory (.text "ovdc") org name (some name)

/-- The map after some detections of a name, one after the other; the directory may change in between. -/
def mapAfter (m : ResourceMap) (directory : Nat → Directory) (org name : String) : Nat → ResourceMap
  | 0 => m
  | n + 1 => ((m.mapAfter directory org name n).detectUnrenamed (directory n) org name).map

variable {m : ResourceMap} {org name : String}

theorem detectUnrenamed_cases (m : ResourceMap) (directory : Directory) (org name : String) :
    lastNamed? (m.entries .ovdc) name = none ∧
      m.detectUnrenamed directory org name = m.adopt directory .ovdc org name ∨
    ∃ id, lastNamed? (m.entries .ovdc) name = some id ∧
      m.detectUnrenamed directory org name = m.recheck directory .ovdc org name name id := by
  have asked : lastKnownName name (some name) = name := ite_self _
  have cases := m.detectRename_cases directory (.text "ovdc") org name (some name)
  rw [asked] at cases
  rcases cases with ⟨failure, unread, _⟩ | untracked | tracked
  · rw [ResourceKind.parseFor_of_wired rfl rfl] at unread
    cases unread
  · exact Or.inl untracked
  · exact Or.inr tracked

theorem detectUnrenamed_untracked {directory : Directory} (none : bearing (m.entries .ovdc) name = []) :
    (m.detectUnrenamed directory org name).ByName m directory org name := by
  rcases m.detectUnrenamed_cases directory org name with ⟨_, adopting⟩ | ⟨id, tracked, _⟩
  · rw [adopting]
    exact adopt_byName m directory org name
  · obtain ⟨before, entry, behind, last, _⟩ := exists_lastNamed_of_lastNamed? tracked
    rw [last.bearing_split] at none
    cases none

theorem valid_detectUnrenamed (valid : m.Valid) (directory : Directory) (org name : String) :
    (m.detectUnrenamed directory org name).map.Valid := by
  rcases TrackingCall.unnoted_or_refiled valid (.detect directory (.text "ovdc") org name (some name)) with
    ⟨_, same⟩ | ⟨note, _, refiled⟩
  · rw [show (m.detectUnrenamed directory org name).map = m from same]
    exact valid
  · exact refiled.valid

/-- One detection takes the first of the entries that bear the name. -/
theorem detectUnrenamed_drops (valid : m.Valid) {directory : Directory} {entry : TrackedResource}
    {rest : List TrackedResource} (stale : bearing (m.entries .ovdc) name = entry :: rest)
    {failure : Failure} (answer : directory (.byId .ovdc entry.id org) = .error failure)
    (gone : failure.isNotFound) :
    let detection := m.detectUnrenamed directory org name
    detection.Drops m directory org name entry ∧ bearing (detection.map.entries .ovdc) name = rest := by
  intro detection
  rcases m.detectUnrenamed_cases directory org name with ⟨untracked, _⟩ | ⟨id, tracked, rechecking⟩
  · have member : entry ∈ bearing (m.entries .ovdc) name := stale ▸ List.mem_cons_self
    obtain ⟨present, named⟩ := mem_bearing.mp member
    exact absurd named (lastNamed?_eq_none.mp untracked entry present)
  · obtain ⟨before, found, behind, last, rfl⟩ := exists_lastNamed_of_lastNamed? tracked
    obtain ⟨rfl, rfl⟩ := List.cons.inj (last.bearing_split.symm.trans stale)
    have byId : detection.ById m directory org name before found behind := by
      rw [show detection = _ from rechecking]
      exact recheck_byId valid directory org name name last.split
    obtain ⟨lookups, result⟩ := byId
    rw [answer] at result
    simp only [gone, if_true] at result
    obtain ⟨⟨raised, failed, passed⟩, entries, others⟩ := result
    refine ⟨⟨lookups, ?_, ⟨before, behind, last, entries⟩, others⟩, by rw [entries]⟩
    exact ⟨failure, raised, answer, passed, by rw [passed.isNotFound, gone], failed⟩

/-- What is left of a map when the first of its entries that bear a name are gone. -/
structure Drained (m : ResourceMap) (name : String) (n : Nat) (map : ResourceMap) : Prop where
  valid : map.Valid
  entries : map.entries .ovdc =
    (m.entries .ovdc).filter (· ∉ (bearing (m.entries .ovdc) name).take n)
  stale : bearing (map.entries .ovdc) name = (bearing (m.entries .ovdc) name).drop n
  others : ∀ other, other ≠ .ovdc → map.entries other = m.entries other

theorem Drained.start (valid : m.Valid) (name : String) : Drained m name 0 m where
  valid := valid
  entries := by simp
  stale := rfl
  others _ _ := rfl

theorem Drained.next {map : ResourceMap} {n : Nat} (drained : Drained m name n map)
    (within : n < (bearing (m.entries .ovdc) name).length) {directory : Directory} {failure : Failure}
    (answer : directory (.byId .ovdc (bearing (m.entries .ovdc) name)[n].id org) = .error failure)
    (gone : failure.isNotFound) :
    let detection := map.detectUnrenamed directory org name
    detection.Drops map directory org name (bearing (m.entries .ovdc) name)[n] ∧
      Drained m name (n + 1) detection.map := by
  intro detection
  have stale := drained.stale.trans (List.drop_eq_getElem_cons within)
  obtain ⟨drops, rest⟩ := detectUnrenamed_drops drained.valid stale answer gone
  refine ⟨drops, valid_detectUnrenamed drained.valid directory org name, ?_, rest, ?_⟩
  · obtain ⟨before, behind, last, entries⟩ := drops.removed
    have distinct := (drained.valid.entries .ovdc).ids
    rw [last.split] at distinct
    rw [entries, ← filter_ne_split distinct, ← last.split, drained.entries, List.filter_filter,
      List.take_succ_eq_append_getElem within]
    refine List.filter_congr fun other _ => ?_
    simp only [List.mem_append, List.mem_singleton, not_or, Bool.decide_and]
    exact Bool.and_comm _ _
  · intro other different
    rw [drops.others other different, drained.others other different]

/--
As long as the directory does not find any of the IDs with a name, each detection of the name drops one of
them, the last one first, and all other entries stay where they are. After the last one the name is looked
up.
-/
theorem detections_drain_name (valid : m.Valid) (directory : Nat → Directory) (org name : String)
    (gone : ∀ n < (bearing (m.entries .ovdc) name).length, ∀ entry ∈ bearing (m.entries .ovdc) name,
      ∃ failure, directory n (.byId .ovdc entry.id org) = .error failure ∧ failure.isNotFound) :
    let stale := bearing (m.entries .ovdc) name
    let mapAt := m.mapAfter directory org name
    let detectionAt n := (mapAt n).detectUnrenamed (directory n) org name
    (∀ n (within : n < stale.length), (detectionAt n).Drops (mapAt n) (directory n) org name stale[n]) ∧
    (∀ n ≤ stale.length, Drained m name n (mapAt n)) ∧
    (mapAt stale.length).entries .ovdc = (m.entries .ovdc).filter (·.name ≠ name) ∧
    (detectionAt stale.length).ByName (mapAt stale.length) (directory stale.length) org name := by
  intro stale mapAt detectionAt
  have drained : ∀ n ≤ stale.length, Drained m name n (mapAt n) := by
    intro n reached
    induction n with
    | zero => exact .start valid name
    | succ n ih =>
      obtain ⟨failure, answer, notFound⟩ := gone n reached _ (List.getElem_mem reached)
      exact ((ih (Nat.le_of_succ_le reached)).next reached answer notFound).2
  have last := drained stale.length (Nat.le_refl _)
  refine ⟨fun n within => ?_, drained, ?_, ?_⟩
  · obtain ⟨failure, answer, notFound⟩ := gone n within _ (List.getElem_mem within)
    exact ((drained n (Nat.le_of_lt within)).next within answer notFound).1
  · rw [last.entries]
    refine List.filter_congr fun entry member => ?_
    simp [stale, mem_bearing, member]
  · exact detectUnrenamed_untracked (by rw [last.stale]; exact List.drop_length)

theorem detections_drain_name_around_other :
    let stale : List TrackedResource := [⟨.ovdc, "C", "new"⟩, ⟨.ovdc, "A", "new"⟩]
    let m : ResourceMap := ⟨[(.ovdc, [⟨.ovdc, "A", "new"⟩, ⟨.ovdc, "B", "old"⟩, ⟨.ovdc, "C", "new"⟩])]⟩
    let nothing := DirectoryTables.directory ⟨[], []⟩
    let mapAt := m.mapAfter (fun _ => nothing) "org1" "new"
    let detectionAt n := (mapAt n).detectUnrenamed nothing "org1" "new"
    m.Valid ∧ bearing (m.entries .ovdc) "new" = stale ∧
    (∀ n (within : n < 2), (detectionAt n).Drops (mapAt n) nothing "org1" "new" stale[n]) ∧
    (mapAt 2).entries .ovdc = [⟨.ovdc, "B", "old"⟩] ∧
    (detectionAt 2).ByName (mapAt 2) nothing "org1" "new" := by
  intro stale m nothing mapAt detectionAt
  have valid : m.Valid := valid_ofValue (v := m.raw) rfl
  obtain ⟨drops, _, entries, byName⟩ := detections_drain_name valid (fun _ => nothing) "org1" "new"
    fun _ _ entry _ => ⟨.fault (Fault.notFound "ovdc" none none (some entry.id) none), rfl, rfl⟩
  exact ⟨valid, rfl, drops, entries, byName⟩

end ResourceMap
end ClusterLedger
