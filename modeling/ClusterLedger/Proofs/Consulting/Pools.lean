import ClusterLedger.Proofs.Consulting.Scripts

namespace ClusterLedger

open ClusterLedger.Action

structure NodePool.Shows (group : NodeGroup) (template : MachineTemplate) (machines : List Machine)
    (pool : NodePool) : Prop where
  name : pool.name = group.name
  sizing : pool.sizingPolicy = template.sizingPolicy ∧ pool.placementPolicy = template.placementPolicy ∧
    pool.gpuEnabled = template.gpuEnabled
  storage : pool.storageProfile = template.storageProfile ∧ pool.diskSize = template.diskSize
  desired : pool.desiredReplicas = group.replicas.getD 0
  available : pool.availableReplicas = group.readyReplicas
  apart : Assoc.Distinct pool.nodeStatus
  nodes : ∀ name, name ∈ Assoc.keys pool.nodeStatus ↔ ∃ m ∈ machines, m.name = name
  /-- Of machines that share a name the last one counts. -/
  phases : ∀ {earlier later : List Machine} {m : Machine}, machines = earlier ++ m :: later →
    (∀ other ∈ later, other.name ≠ m.name) → Assoc.find? m.name pool.nodeStatus = some m.phase

namespace Topology

theorem shows_poolOf (group : NodeGroup) (template : MachineTemplate) (machines : List Machine) :
    (poolOf group template machines).Shows group template machines where
  name := rfl
  sizing := ⟨rfl, rfl, rfl⟩
  storage := ⟨rfl, rfl⟩
  desired := rfl
  available := rfl
  apart := by
    have empty : Assoc.Distinct ([] : List (String × String)) := List.nodup_nil
    exact Assoc.distinct_overlay empty _
  nodes name := by
    unfold poolOf
    rw [Assoc.mem_keys_overlay]
    simp [Assoc.keys]
  phases {earlier later m} split last := by
    have absent : m.name ∉ Assoc.keys (later.map fun m => (m.name, m.phase)) := by
      simpa [Assoc.keys] using last
    unfold poolOf
    rw [split, List.map_append, List.map_cons]
    exact Assoc.find?_overlay_last absent m.phase [] _

inductive Visited (group : NodeGroup) (w : World) : List CallRecord → Except Failure NodePool × World → Prop
  | missing {made : List CallRecord} {failure : Failure} {after : World}
      (unfetched : Members.machineTemplate group.templateRef w = (.error failure, after))
      (stops : StopsAtRefusal (Members.templateScript group.templateRef w.session) made) :
      Visited group w made (.error (failure.withContext (poolContext group)), after)
  | invalid {resource : Value} {failure : Failure} {after : World}
      (fetched : Members.machineTemplate group.templateRef w = (.ok resource, after))
      (unread : MachineTemplate.ofResource resource = .error failure) :
      Visited group w (answered (Members.templateScript group.templateRef w.session))
        (.error (failure.withContext (poolContext group)), after)
  | unlisted {resource : Value} {template : MachineTemplate} {made : List CallRecord} {failure : Failure}
      {between after : World}
      (fetched : Members.machineTemplate group.templateRef w = (.ok resource, between))
      (read : MachineTemplate.ofResource resource = .ok template)
      (failed : Members.instances group between = (.error failure, after))
      (stops : StopsAtRefusal (Members.machineScript group between.session) made ∨
        made = answered (Members.machineScript group between.session)) :
      Visited group w (answered (Members.templateScript group.templateRef w.session) ++ made)
        (.error (failure.withContext (poolContext group)), after)
  | pooled {resource : Value} {template : MachineTemplate} {machines : List Machine} {pool : NodePool}
      {between after : World}
      (fetched : Members.machineTemplate group.templateRef w = (.ok resource, between))
      (read : MachineTemplate.ofResource resource = .ok template)
      (listed : Members.instances group between = (.ok machines, after))
      (shows : pool.Shows group template machines) :
      Visited group w (answered (Members.templateScript group.templateRef w.session) ++
        answered (Members.machineScript group between.session)) (.ok pool, after)

section

variable {group : NodeGroup} {w between after : World} {resource : Value} {template : MachineTemplate}
  {failure : Failure}

theorem pool_of_unfetched
    (unfetched : Members.machineTemplate group.templateRef w = (.error failure, after)) :
    pool group w = (.error (failure.withContext (poolContext group)), after) :=
  within_of_error (bind_of_error unfetched)

theorem pool_of_unread (fetched : Members.machineTemplate group.templateRef w = (.ok resource, after))
    (unread : MachineTemplate.ofResource resource = .error failure) :
    pool group w = (.error (failure.withContext (poolContext group)), after) := by
  have reading : ofExcept (MachineTemplate.ofResource resource) after = (.error failure, after) := by
    rw [unread]
    rfl
  refine within_of_error ?_
  rw [bind_of_ok fetched, bind_of_error reading]

/-- With a template in hand, what becomes of the machines is what becomes of the visit. -/
theorem pool_of_read (fetched : Members.machineTemplate group.templateRef w = (.ok resource, between))
    (read : MachineTemplate.ofResource resource = .ok template) :
    pool group w = within (poolContext group)
      (Members.instances group >>= fun machines => pure (poolOf group template machines)) between := by
  have reading : ofExcept (MachineTemplate.ofResource resource) between = (.ok template, between) := by
    rw [read]
    rfl
  unfold pool within
  rw [bind_of_ok fetched, bind_of_ok reading]

end

theorem visited_pool {w : World} (connected : w.session.isConnected = true) (group : NodeGroup) :
    ∃ made, (pool group w).2.calls = w.calls ++ made ∧ Visited group w made (pool group w) := by
  obtain ⟨first, calls, outcome⟩ := Members.template_outcome group.templateRef w
  have still : (Members.machineTemplate group.templateRef w).2.session.isConnected = true :=
    (Consults.get List.mem_cons_self _ _ : Consults [.machineTemplate] _).maintains_connected w connected
  rcases fetched : Members.machineTemplate group.templateRef w with ⟨failure | resource, between⟩
  · rw [fetched] at calls outcome
    rw [pool_of_unfetched fetched]
    exact ⟨first, calls, .missing fetched (outcome.stops_of_error connected)⟩
  rw [fetched] at calls outcome still
  obtain rfl := outcome.made_of_ok
  cases read : MachineTemplate.ofResource resource with
  | error failure =>
    rw [pool_of_unread fetched read]
    exact ⟨_, calls, .invalid fetched read⟩
  | ok template =>
    obtain ⟨second, moreCalls, outcome⟩ := Members.listing_outcome group between
    rw [pool_of_read fetched read]
    rw [calls, List.append_assoc] at moreCalls
    rcases listed : Members.instances group between with ⟨failure | machines, after⟩
    · rw [listed] at moreCalls outcome
      rw [within_of_error (bind_of_error listed)]
      exact ⟨_, moreCalls, .unlisted fetched read listed (outcome.followed_of_error still)⟩
    · rw [listed] at moreCalls outcome
      obtain rfl := outcome.made_of_ok
      have pooled : (Members.instances group >>= fun machines => pure (poolOf group template machines))
          between = (.ok (poolOf group template machines), after) := bind_of_ok listed
      rw [within_of_ok pooled]
      exact ⟨_, moreCalls, .pooled fetched read listed (shows_poolOf group template machines)⟩

structure NamedApart (seen : List String) (groups : List NodeGroup) : Prop where
  apart : (groups.map (·.name)).Nodup
  unseen : ∀ group ∈ groups, group.name ∉ seen

theorem NamedApart.nil (seen : List String) : NamedApart seen [] :=
  ⟨List.nodup_nil, fun _ member => by cases member⟩

theorem NamedApart.cons {seen : List String} {group : NodeGroup} {groups : List NodeGroup}
    (new : group.name ∉ seen) (later : NamedApart (group.name :: seen) groups) :
    NamedApart seen (group :: groups) where
  apart := by
    refine List.nodup_cons.mpr ⟨fun again => ?_, later.apart⟩
    obtain ⟨other, member, same⟩ := List.mem_map.mp again
    exact later.unseen other member (same ▸ List.mem_cons_self)
  unseen other member := by
    rcases List.mem_cons.mp member with rfl | member
    · exact new
    · exact fun old => later.unseen other member (List.mem_cons_of_mem _ old)

inductive Visits : World → List NodeGroup → List CallRecord → List NodePool → World → Prop
  | none (w : World) : Visits w [] [] [] w
  | next {group : NodeGroup} {groups : List NodeGroup} {own made : List CallRecord} {pool : NodePool}
      {pools : List NodePool} {w between after : World} (first : Visited group w own (.ok pool, between))
      (rest : Visits between groups made pools after) :
      Visits w (group :: groups) (own ++ made) (pool :: pools) after

theorem Visits.shown {w after : World} {groups : List NodeGroup} {made : List CallRecord}
    {pools : List NodePool} (visits : Visits w groups made pools after) :
    List.Forall₂ (fun group pool => ∃ template machines, pool.Shows group template machines) groups pools := by
  induction visits with
  | none => exact .nil
  | next first rest ih =>
    cases first with
    | pooled _ _ _ shows => exact .cons ⟨_, _, shows⟩ ih

inductive PoolsOutcome (seen : List String) (w : World) (groups : List NodeGroup) :
    List CallRecord → Except Failure (List NodePool) → Prop
  | stopped {earlier later : List NodeGroup} {group : NodeGroup} {made own : List CallRecord}
      {pools : List NodePool} {failure : Failure} {between after : World}
      (split : groups = earlier ++ group :: later) (visits : Visits w earlier made pools between)
      (apart : NamedApart seen earlier) (failed : Visited group between own (.error failure, after)) :
      PoolsOutcome seen w groups (made ++ own) (.error failure)
  /-- Names are compared after the visit, so its calls have been made by then. -/
  | repeated {earlier later : List NodeGroup} {group : NodeGroup} {made own : List CallRecord}
      {pools : List NodePool} {pool : NodePool} {between after : World}
      (split : groups = earlier ++ group :: later) (visits : Visits w earlier made pools between)
      (apart : NamedApart seen earlier) (visited : Visited group between own (.ok pool, after))
      (again : group.name ∈ seen ∨ ∃ other ∈ earlier, other.name = group.name) :
      PoolsOutcome seen w groups (made ++ own)
        (.error (.misconfigured (.duplicatePool group.name) (poolContext group)))
  | complete {made : List CallRecord} {pools : List NodePool} {after : World}
      (visits : Visits w groups made pools after) (apart : NamedApart seen groups) :
      PoolsOutcome seen w groups made (.ok pools)

theorem PoolsOutcome.next {seen : List String} {w between : World} {group : NodeGroup}
    {groups : List NodeGroup} {own made : List CallRecord} {pool : NodePool}
    {result : Except Failure (List NodePool)} (first : Visited group w own (.ok pool, between))
    (new : group.name ∉ seen) (rest : PoolsOutcome (group.name :: seen) between groups made result) :
    PoolsOutcome seen w (group :: groups) (own ++ made) (result.map (pool :: ·)) := by
  cases rest with
  | stopped split visits apart failed =>
    rw [← List.append_assoc]
    exact .stopped (congrArg (group :: ·) split) (.next first visits) (.cons new apart) failed
  | @repeated earlier later other _ _ _ _ _ _ split visits apart visited again =>
    rw [← List.append_assoc]
    refine .repeated (congrArg (group :: ·) split) (.next first visits) (.cons new apart) visited ?_
    rcases again with old | ⟨member, among, same⟩
    · rcases List.mem_cons.mp old with same | old
      · exact .inr ⟨group, List.mem_cons_self, same.symm⟩
      · exact .inl old
    · exact .inr ⟨member, List.mem_cons_of_mem group among, same⟩
  | complete visits apart => exact .complete (.next first visits) (.cons new apart)

section

variable {seen : List String} {group : NodeGroup} {rest : List NodeGroup} {w between : World}
  {first : NodePool}

theorem poolsFrom_of_seen (reached : pool group w = (.ok first, between)) (old : first.name ∈ seen) :
    poolsFrom seen (group :: rest) w =
      (.error (.misconfigured (.duplicatePool first.name) (poolContext group)), between) := by
  rw [poolsFrom, bind_of_ok reached, if_pos old]
  rfl

theorem poolsFrom_of_new (reached : pool group w = (.ok first, between)) (new : first.name ∉ seen) :
    poolsFrom seen (group :: rest) w =
      ((poolsFrom (first.name :: seen) rest between).1.map (first :: ·),
        (poolsFrom (first.name :: seen) rest between).2) := by
  rw [poolsFrom, bind_of_ok reached, if_neg new]
  rcases later : poolsFrom (first.name :: seen) rest between with ⟨failure | others, after⟩
  · exact bind_of_error later
  · exact bind_of_ok later

end

theorem poolsFrom_outcome {w : World} (connected : w.session.isConnected = true) (seen : List String)
    (groups : List NodeGroup) : ∃ made, (poolsFrom seen groups w).2.calls = w.calls ++ made ∧
      PoolsOutcome seen w groups made (poolsFrom seen groups w).1 := by
  induction groups generalizing seen w with
  | nil => exact ⟨[], (List.append_nil _).symm, .complete (.none w) (.nil seen)⟩
  | cons group rest ih =>
    obtain ⟨own, calls, visited⟩ := visited_pool connected group
    have consults : Consults [.machineTemplate, .machine] (pool group) :=
      consults_pool (by simp) (by simp) group
    have still := consults.maintains_connected w connected
    rcases reached : pool group w with ⟨failure | first, between⟩
    · rw [reached] at calls visited
      have failed : poolsFrom seen (group :: rest) w = (.error failure, between) := bind_of_error reached
      rw [failed]
      exact ⟨own, calls, .stopped rfl (.none w) (.nil seen) visited⟩
    · rw [reached] at calls visited still
      have name : first.name = group.name := by
        cases visited with
        | pooled _ _ _ shows => exact shows.name
      by_cases old : first.name ∈ seen
      · rw [poolsFrom_of_seen reached old]
        rw [name] at old ⊢
        exact ⟨own, calls, .repeated rfl (.none w) (.nil seen) visited (.inl old)⟩
      · rw [poolsFrom_of_new reached old]
        rw [name] at old ⊢
        obtain ⟨made, moreCalls, outcome⟩ := ih still (group.name :: seen)
        refine ⟨own ++ made, ?_, outcome.next visited old⟩
        rw [moreCalls, calls, List.append_assoc]

structure Holds (groups : List NodeGroup) (t : Topology) : Prop where
  shown : List.Forall₂ (fun group pool => ∃ template machines, pool.Shows group template machines)
    groups t.pools
  names : t.names = groups.map (·.name)
  apart : t.names.Nodup
  found : ∀ group pool, (group, pool) ∈ groups.zip t.pools → t.get? group.name = some pool
  absent : ∀ name, name ∉ groups.map (·.name) → t.get? name = none

theorem holds_of_shown {groups : List NodeGroup} {t : Topology} (apart : (groups.map (·.name)).Nodup)
    (shown : List.Forall₂ (fun group pool => ∃ template machines, pool.Shows group template machines)
      groups t.pools) : t.Holds groups := by
  have named : List.Forall₂ (fun group pool => pool.name = group.name) groups t.pools :=
    shown.imp fun _ _ ⟨_, _, shows⟩ => shows.name
  have names : t.names = groups.map (·.name) := by
    have same : List.Forall₂ Eq (groups.map (·.name)) t.names := by
      rw [names, List.forall₂_map_left_iff, List.forall₂_map_right_iff]
      exact named.imp fun _ _ same => same.symm
    rw [List.forall₂_eq_eq_eq] at same
    exact same.symm
  have distinct : t.names.Nodup := names ▸ apart
  refine ⟨shown, names, distinct, fun group pool paired => ?_, fun name unknown => ?_⟩
  · rw [← (List.forall₂_iff_zip.mp named).2 paired]
    exact Assoc.find?_of_nodup distinct (List.of_mem_zip paired).2
  · rw [← names] at unknown
    refine List.find?_eq_none.mpr fun pool member same => ?_
    exact unknown (List.mem_map.mpr ⟨pool, member, of_decide_eq_true same⟩)

/--
How the topology of groups comes about. The calls are those of the visits, in the order of the groups, and
end with the first visit that fails or comes to a group with the name of an earlier one, and with it the
topology fails. Without such a visit the topology holds all groups.
-/
theorem ofGroups_exactly {w : World} (connected : w.session.isConnected = true) (groups : List NodeGroup) :
    ∃ made pools, (ofGroups groups w).2.calls = w.calls ++ made ∧
      (ofGroups groups w).1 = pools.map Topology.mk ∧ PoolsOutcome [] w groups made pools ∧
      ∀ t, (ofGroups groups w).1 = .ok t → t.Holds groups := by
  obtain ⟨made, calls, outcome⟩ := poolsFrom_outcome connected [] groups
  rcases reached : poolsFrom [] groups w with ⟨failure | pools, after⟩
  · rw [reached] at calls outcome
    have failed : ofGroups groups w = (.error failure, after) := bind_of_error reached
    rw [failed]
    exact ⟨made, .error failure, calls, rfl, outcome, fun _ none => by cases none⟩
  · rw [reached] at calls outcome
    have done : ofGroups groups w = (do
        Action.record (.aggregated pools.length)
        return ⟨pools⟩ : Action Topology) after := bind_of_ok reached
    rw [done]
    refine ⟨made, .ok pools, calls, rfl, outcome, fun t same => ?_⟩
    cases same
    cases outcome with
    | complete visits apart => exact holds_of_shown apart.apart visits.shown

/-- A group of the same name in another namespace is visited in full before it is refused. -/
theorem ofGroups_exactly_shared_name :
    let template : StoredObject := ⟨"VCDMachineTemplate", some "prod", "small", [], .map
      [(.text "kind", .text "VCDMachineTemplate"), (.text "metadata", .map [(.text "name", .text "small")])]⟩
    let w : World := ⟨⟨[template], [], [], [], none, none⟩, .borrowed, 0, [], []⟩
    let group : NodeGroup :=
      ⟨.worker, "workers", "prod", "c1", some 3, 1, ⟨"small", some "prod", none, none⟩, none⟩
    let groups := [group, { group with ns := "test" }]
    let failure := Failure.misconfigured (.duplicatePool "workers") (poolContext group)
    w.session.isConnected = true ∧ ∃ made, (ofGroups groups w).2.calls = made ∧ made.length = 6 ∧
      PoolsOutcome [] w groups made (.error failure) := by
  intro template w group groups failure
  have connected : w.session.isConnected = true := rfl
  obtain ⟨made, pools, calls, ended, outcome, _⟩ := ofGroups_exactly connected groups
  have failed : (ofGroups groups w).1 = .error failure := rfl
  have noted : (ofGroups groups w).2.calls.length = 6 := rfl
  have same : pools = .error failure := by
    rw [failed] at ended
    cases pools with
    | error other => exact congrArg Except.error (Except.error.inj ended).symm
    | ok pools => cases ended
  have made_eq : (ofGroups groups w).2.calls = made := calls
  exact ⟨connected, made, made_eq, made_eq ▸ noted, same ▸ outcome⟩

end Topology
end ClusterLedger
