import ClusterLedger.Proofs.Consulting.Scripts
import ClusterLedger.Proofs.Failures

namespace ClusterLedger

open ClusterLedger.Action

def CallRecord.listing? : CallRecord → Option (Option String × Option String)
  | ⟨.list _ ns selector, _⟩ => some (ns, selector)
  | _ => none

def World.Lists (before after : World) (listings : List (Option String × Option String)) : Prop :=
  ∃ made, after.calls = before.calls ++ made ∧ made.filterMap CallRecord.listing? = listings ∧
    ∀ record ∈ made, record.listing? = none → record.call = .discover .machine

namespace World.Lists

variable {w between after : World} {listings later : List (Option String × Option String)}

theorem refl (w : World) : w.Lists w [] :=
  ⟨[], (List.append_nil _).symm, rfl, fun _ member => by cases member⟩

theorem trans (first : w.Lists between listings) (second : between.Lists after later) :
    w.Lists after (listings ++ later) := by
  obtain ⟨made, calls, listed, only⟩ := first
  obtain ⟨more, moreCalls, moreListed, moreOnly⟩ := second
  refine ⟨made ++ more, ?_, ?_, List.forall_mem_append.mpr ⟨only, moreOnly⟩⟩
  · rw [moreCalls, calls, List.append_assoc]
  · rw [List.filterMap_append, listed, moreListed]

end World.Lists

namespace Members

def request (group : NodeGroup) : Option String × Option String := (some group.ns, some (selector group))

theorem machineScript_cases (group : NodeGroup) (s : Session) :
    ∃ kind, machineScript group s = [.list kind (some group.ns) (some (selector group))] ∨
      machineScript group s =
        [.discover .machine, .list kind (some group.ns) (some (selector group))] := by
  unfold machineScript Client.script
  split
  · exact ⟨_, .inl rfl⟩
  · exact ⟨_, .inr rfl⟩

variable {group : NodeGroup} {s : Session} {w after : World}

theorem lists_of_answered (calls : after.calls = w.calls ++ answered (machineScript group s)) :
    w.Lists after [request group] := by
  obtain ⟨kind, script | script⟩ := machineScript_cases group s
  · rw [script] at calls
    exact ⟨_, calls, rfl, by simp [answered, CallRecord.listing?]⟩
  · rw [script] at calls
    exact ⟨_, calls, rfl, by simp [answered, CallRecord.listing?]⟩

theorem lists_of_stops {made : List CallRecord} (calls : after.calls = w.calls ++ made)
    (stops : StopsAtRefusal (machineScript group s) made) :
    w.Lists after [] ∨ w.Lists after [request group] := by
  obtain ⟨kind, script | script⟩ := machineScript_cases group s
  · rw [script] at stops
    cases stops with
    | here => exact .inr ⟨_, calls, rfl, by simp [CallRecord.listing?]⟩
    | later _ rest => cases rest
  · rw [script] at stops
    cases stops with
    | here => exact .inl ⟨_, calls, rfl, by simp⟩
    | later _ rest =>
      cases rest with
      | here => exact .inr ⟨_, calls, rfl, by simp [CallRecord.listing?]⟩
      | later _ rest => cases rest

theorem lists_instances {machines : List Machine} (listed : instances group w = (.ok machines, after)) :
    w.Lists after [request group] := by
  obtain ⟨made, calls, outcome⟩ := listing_outcome group w
  rw [listed] at calls outcome
  rw [outcome.made_of_ok] at calls
  exact lists_of_answered calls

theorem lists_of_failed {failure : Failure} (failed : instances group w = (.error failure, after)) :
    w.Lists after [] ∨ w.Lists after [request group] := by
  obtain ⟨made, calls, outcome⟩ := listing_outcome group w
  rw [failed] at calls outcome
  cases outcome with
  | unread => exact .inr (lists_of_answered calls)
  | refused stops => exact lists_of_stops calls stops
  | unconnected => exact .inl ⟨[], calls, rfl, fun _ member => by cases member⟩

end Members

namespace Rollout

def Outdated (target : String) (machines : List Machine) : Prop :=
  ∃ m ∈ machines, ∃ version, m.version = some version ∧ version ≠ target

theorem outdated?_eq_none_iff {target : String} {machines : List Machine} :
    outdated? target machines = none ↔ ¬ Outdated target machines := by
  unfold outdated?
  rw [List.findSome?_eq_none_iff]
  constructor
  · rintro none ⟨m, member, version, declared, other⟩
    have passed := none m member
    simp [declared, other] at passed
  · intro current m member
    cases declared : m.version with
    | none => rfl
    | some version =>
      have same : version = target :=
        Decidable.of_not_not fun other => current ⟨m, member, version, declared, other⟩
      simp [same]

/-- Groups that are listed one after another, none of them with an outdated machine. -/
inductive Current (target : String) : World → List NodeGroup → World → Prop
  | none (w : World) : Current target w [] w
  | next {group : NodeGroup} {groups : List NodeGroup} {machines : List Machine} {w between after : World}
      (listed : Members.instances group w = (.ok machines, between)) (current : ¬ Outdated target machines)
      (rest : Current target between groups after) : Current target w (group :: groups) after

def OutdatedAt (target : String) (w : World) (earlier : List NodeGroup) (group : NodeGroup) : Prop :=
  ∃ between machines after, Current target w earlier between ∧
    Members.instances group between = (.ok machines, after) ∧ Outdated target machines

def FailsAt (target : String) (w : World) (earlier : List NodeGroup) (group : NodeGroup)
    (failure : Failure) : Prop :=
  ∃ between after, Current target w earlier between ∧
    Members.instances group between = (.error failure, after)

theorem Current.lists {target : String} {w after : World} {groups : List NodeGroup}
    (current : Current target w groups after) : w.Lists after (groups.map Members.request) := by
  induction current with
  | none w => exact .refl w
  | next listed _ _ ih => exact (Members.lists_instances listed).trans ih

section

variable {target : String} {group : NodeGroup} {rest : List NodeGroup} {machines : List Machine}
  {failure : Failure} {w between after : World}

def checkContext (group : NodeGroup) : Context where
  operation := some "check_version_convergence"
  kind := some group.kind.name
  name := some (.text group.name)

theorem reached_of_failed (failed : Members.instances group w = (.error failure, after)) :
    reached target (group :: rest) w = (.error (failure.withContext (checkContext group)), after) :=
  bind_of_error (within_of_error failed)

theorem reached_of_outdated (listed : Members.instances group w = (.ok machines, after))
    (stale : Outdated target machines) (rest : List NodeGroup) : ∃ event, reached target (group :: rest) w =
      (.ok false, { after with events := after.events ++ [event] }) := by
  cases found : outdated? target machines with
  | none => exact absurd stale (outdated?_eq_none_iff.mp found)
  | some stale =>
    refine ⟨.outdated stale.1.name group.name stale.2 target, ?_⟩
    rw [reached, bind_of_ok (within_of_ok listed), found]
    rfl

theorem reached_of_current (listed : Members.instances group w = (.ok machines, after))
    (current : ¬ Outdated target machines) :
    reached target (group :: rest) w = reached target rest after := by
  rw [reached, bind_of_ok (within_of_ok listed), outdated?_eq_none_iff.mpr current]

end

theorem Current.reached_append {target : String} {w between : World} {earlier : List NodeGroup}
    (current : Current target w earlier between) (later : List NodeGroup) :
    reached target (earlier ++ later) w = reached target later between := by
  induction current with
  | none => rfl
  | next listed current _ ih =>
    rw [List.cons_append, reached_of_current listed current, ih]

section

variable {target : String} {w : World} {groups earlier : List NodeGroup} {group : NodeGroup}

theorem Current.reached {now : World} (current : Current target w groups now) :
    reached target groups w = (.ok true, now) := by
  have whole := current.reached_append []
  rw [List.append_nil] at whole
  exact whole

theorem OutdatedAt.reached (stale : OutdatedAt target w earlier group) (later : List NodeGroup) :
    (reached target (earlier ++ group :: later) w).1 = .ok false ∧
      w.Lists (reached target (earlier ++ group :: later) w).2 ((earlier ++ [group]).map Members.request) := by
  obtain ⟨between, machines, after, current, listed, outdated⟩ := stale
  obtain ⟨event, ended⟩ := reached_of_outdated listed outdated later
  rw [current.reached_append, ended, List.map_append]
  obtain ⟨made, calls, lists⟩ := current.lists.trans (Members.lists_instances listed)
  exact ⟨rfl, made, calls, lists⟩

theorem FailsAt.reached {failure : Failure} (fails : FailsAt target w earlier group failure)
    (later : List NodeGroup) :
    (∃ raised, (reached target (earlier ++ group :: later) w).1 = .error raised ∧
      failure.PassedOn raised) ∧
    ∃ listed, listed <+: earlier ++ [group] ∧
      w.Lists (reached target (earlier ++ group :: later) w).2 (listed.map Members.request) := by
  obtain ⟨between, after, current, failed⟩ := fails
  rw [current.reached_append, reached_of_failed failed]
  refine ⟨⟨_, rfl, (Failure.PassedOn.same failure).withContext (checkContext group)⟩, ?_⟩
  rcases Members.lists_of_failed failed with unlisted | listed
  · refine ⟨earlier, List.prefix_append earlier [group], ?_⟩
    have lists := current.lists.trans unlisted
    rw [List.append_nil] at lists
    exact lists
  · refine ⟨earlier ++ [group], List.prefix_refl _, ?_⟩
    rw [List.map_append]
    exact current.lists.trans listed

theorem OutdatedAt.next {first : NodeGroup} {machines : List Machine} {between : World}
    (listed : Members.instances first w = (.ok machines, between)) (current : ¬ Outdated target machines)
    (stale : OutdatedAt target between earlier group) : OutdatedAt target w (first :: earlier) group := by
  obtain ⟨before, found, after, chain, there⟩ := stale
  exact ⟨before, found, after, .next listed current chain, there⟩

theorem FailsAt.next {first : NodeGroup} {machines : List Machine} {between : World} {failure : Failure}
    (listed : Members.instances first w = (.ok machines, between)) (current : ¬ Outdated target machines)
    (fails : FailsAt target between earlier group failure) :
    FailsAt target w (first :: earlier) group failure := by
  obtain ⟨before, after, chain, there⟩ := fails
  exact ⟨before, after, .next listed current chain, there⟩

theorem current_cases (target : String) (groups : List NodeGroup) (w : World) :
    (∃ now, Current target w groups now) ∨
    (∃ earlier group later, groups = earlier ++ group :: later ∧ OutdatedAt target w earlier group) ∨
    ∃ earlier group later failure, groups = earlier ++ group :: later ∧
      FailsAt target w earlier group failure := by
  induction groups generalizing w with
  | nil => exact .inl ⟨w, .none w⟩
  | cons group rest ih =>
    rcases listed : Members.instances group w with ⟨failure | machines, between⟩
    · exact .inr (.inr ⟨[], group, rest, failure, rfl, w, between, .none w, listed⟩)
    by_cases stale : Outdated target machines
    · exact .inr (.inl ⟨[], group, rest, rfl, w, machines, between, .none w, listed, stale⟩)
    rcases ih between with ⟨now, current⟩ | ⟨earlier, other, later, split, there⟩ |
      ⟨earlier, other, later, failure, split, there⟩
    · exact .inl ⟨now, .next listed stale current⟩
    · exact .inr (.inl ⟨group :: earlier, other, later, congrArg (group :: ·) split, there.next listed stale⟩)
    · refine .inr (.inr ⟨group :: earlier, other, later, failure, congrArg (group :: ·) split, ?_⟩)
      exact there.next listed stale

end

structure Scans (target : String) (groups : List NodeGroup) (w : World) (run : Except Failure Bool × World) :
    Prop where
  inOrder : ∃ listed, listed <+: groups ∧ w.Lists run.2 (listed.map Members.request)
  outdated : run.1 = .ok false ↔
    ∃ earlier group later, groups = earlier ++ group :: later ∧ OutdatedAt target w earlier group
  lazily : ∀ {earlier group later}, groups = earlier ++ group :: later →
    OutdatedAt target w earlier group → w.Lists run.2 ((earlier ++ [group]).map Members.request)
  failed : (∃ raised, run.1 = .error raised) ↔
    ∃ earlier group later failure, groups = earlier ++ group :: later ∧
      FailsAt target w earlier group failure
  raises : ∀ {earlier group later failure}, groups = earlier ++ group :: later →
    FailsAt target w earlier group failure →
    (∃ raised, run.1 = .error raised ∧ failure.PassedOn raised) ∧
    ∃ listed, listed <+: earlier ++ [group] ∧ w.Lists run.2 (listed.map Members.request)
  reached : run.1 = .ok true ↔ ∃ now, Current target w groups now
  otherwise : (∀ earlier group later, groups = earlier ++ group :: later →
      ¬ OutdatedAt target w earlier group ∧ ∀ failure, ¬ FailsAt target w earlier group failure) →
    run.1 = .ok true ∧ w.Lists run.2 (groups.map Members.request)

theorem reached_decides (target : String) (groups : List NodeGroup) (w : World) :
    ((reached target groups w).1 = .ok true ∧ ∃ now, Current target w groups now) ∨
    ((reached target groups w).1 = .ok false ∧
      ∃ earlier group later, groups = earlier ++ group :: later ∧ OutdatedAt target w earlier group) ∨
    (∃ raised, (reached target groups w).1 = .error raised) ∧
      ∃ earlier group later failure, groups = earlier ++ group :: later ∧
        FailsAt target w earlier group failure := by
  rcases current_cases target groups w with ⟨now, current⟩ |
    ⟨earlier, group, later, rfl, stale⟩ | ⟨earlier, group, later, failure, rfl, fails⟩
  · exact .inl ⟨congrArg Prod.fst current.reached, now, current⟩
  · exact .inr (.inl ⟨(stale.reached later).1, earlier, group, later, rfl, stale⟩)
  · obtain ⟨⟨raised, ended, _⟩, _⟩ := fails.reached later
    exact .inr (.inr ⟨⟨raised, ended⟩, earlier, group, later, failure, rfl, fails⟩)

theorem lists_reached (target : String) (groups : List NodeGroup) (w : World) :
    ∃ listed, listed <+: groups ∧ w.Lists (reached target groups w).2 (listed.map Members.request) := by
  rcases current_cases target groups w with ⟨now, current⟩ |
    ⟨earlier, group, later, rfl, stale⟩ | ⟨earlier, group, later, failure, rfl, fails⟩
  · rw [current.reached]
    exact ⟨groups, List.prefix_refl groups, current.lists⟩
  · exact ⟨earlier ++ [group], ⟨later, List.append_assoc ..⟩, (stale.reached later).2⟩
  · obtain ⟨_, listed, within, lists⟩ := fails.reached later
    exact ⟨listed, within.trans ⟨later, List.append_assoc ..⟩, lists⟩

theorem scans_reached (target : String) (groups : List NodeGroup) (w : World) :
    Scans target groups w (reached target groups w) := by
  have decided := reached_decides target groups w
  constructor
  case inOrder => exact lists_reached target groups w
  case outdated =>
    refine ⟨fun ended => by simpa [ended] using decided, ?_⟩
    rintro ⟨earlier, group, later, rfl, stale⟩
    exact (stale.reached later).1
  case lazily =>
    rintro earlier group later rfl stale
    exact (stale.reached later).2
  case failed =>
    refine ⟨fun ⟨raised, ended⟩ => by simpa [ended] using decided, ?_⟩
    rintro ⟨earlier, group, later, failure, rfl, fails⟩
    obtain ⟨⟨raised, ended, _⟩, _⟩ := fails.reached later
    exact ⟨raised, ended⟩
  case raises =>
    rintro earlier group later failure rfl fails
    exact fails.reached later
  case reached =>
    refine ⟨fun ended => by simpa [ended] using decided, ?_⟩
    rintro ⟨now, current⟩
    exact congrArg Prod.fst current.reached
  case otherwise =>
    intro free
    rcases decided with ⟨ended, now, current⟩ | ⟨_, earlier, group, later, split, stale⟩ |
      ⟨_, earlier, group, later, failure, split, fails⟩
    · rw [current.reached]
      exact ⟨rfl, current.lists⟩
    · exact absurd stale (free earlier group later split).1
    · exact absurd fails ((free earlier group later split).2 failure)

theorem read_in_order {α β : Type} {list : Action (List α)} {read : α → Except Failure β} {found : List β}
    {w after : World} (done : (list >>= fun objects => ofExcept (objects.mapM read)) w = (.ok found, after)) :
    ∃ objects, list w = (.ok objects, after) ∧
      List.Forall₂ (fun object group => read object = .ok group) objects found := by
  rcases listed : list w with ⟨failure | objects, between⟩
  · rw [bind_of_error listed] at done
    cases done
  · rw [bind_of_ok listed] at done
    obtain ⟨members, same⟩ := Prod.mk.inj done
    exact ⟨objects, same ▸ rfl, forall₂_of_mapM members⟩

/--
How the groups of a cluster are found and checked: those of its control planes come before those of its
machine deployments, both in the order in which the objects are listed.
-/
inductive ClusterScan (target name ns : String) (w : World) : Except Failure Bool × World → Prop
  | noControlPlanes {failure : Failure} {after : World}
      (failed : Members.controlPlaneGroups name ns w = (.error failure, after)) :
      ClusterScan target name ns w (.error failure, after)
  | noWorkers {planes : List NodeGroup} {failure : Failure} {between after : World}
      (found : Members.controlPlaneGroups name ns w = (.ok planes, between))
      (failed : Members.workerGroups name ns between = (.error failure, after)) :
      ClusterScan target name ns w (.error failure, after)
  | checked {planes workers : List NodeGroup} {planeObjects workerObjects : List Value}
      {between after : World} {run : Except Failure Bool × World}
      (planesListed : Members.controlPlanes name ns w = (.ok planeObjects, between))
      (planesRead : List.Forall₂
        (fun object group => NodeGroup.ofControlPlane object (.text name) = .ok group) planeObjects planes)
      (workersListed : Members.machineDeployments name ns between = (.ok workerObjects, after))
      (workersRead : List.Forall₂
        (fun object group => NodeGroup.ofMachineDeployment object = .ok group) workerObjects workers)
      (scans : Scans target (planes ++ workers) after run) : ClusterScan target name ns w run

theorem clusterScan_clusterReached (target name ns : String) (w : World) :
    ClusterScan target name ns w (clusterReached name ns target w) := by
  unfold clusterReached
  rcases planesFound : Members.controlPlaneGroups name ns w with ⟨failure | planes, between⟩
  · rw [bind_of_error planesFound]
    exact .noControlPlanes planesFound
  rw [bind_of_ok planesFound]
  rcases workersFound : Members.workerGroups name ns between with ⟨failure | workers, after⟩
  · rw [bind_of_error workersFound]
    exact .noWorkers planesFound workersFound
  rw [bind_of_ok workersFound]
  obtain ⟨planeObjects, planesListed, planesRead⟩ := read_in_order planesFound
  obtain ⟨workerObjects, workersListed, workersRead⟩ := read_in_order workersFound
  exact .checked planesListed planesRead workersListed workersRead (scans_reached target _ after)

/--
How a rollout is checked. The result is told by the first group that cannot be listed or has an outdated
machine, if there is one, and no group after it is listed.
-/
theorem reached_exactly (target : String) :
    (∀ groups w, Scans target groups w (reached target groups w)) ∧
    ∀ name ns w, ClusterScan target name ns w (clusterReached name ns target w) :=
  ⟨scans_reached target, clusterScan_clusterReached target⟩

end Rollout
end ClusterLedger
