import ClusterLedger.Proofs.Consulting.Stock
import ClusterLedger.Proofs.Secrecy.ServerMetadata

namespace ClusterLedger

open ClusterLedger.Action

/-! ### Entries -/

namespace Value

end Value

/-! ### References -/

def ObjectReference.target (ref : ObjectReference) : Option String × String := (ref.ns, ref.name)

namespace Collection

/-- The references to targets that are not seen before: one for each target, where it is seen first. -/
structure FirstSeen (seen : List (Option String × String)) (refs found : List ObjectReference) : Prop where
  complete : ∀ ref ∈ refs, ref.target ∈ seen ∨ ∃ one ∈ found, one.target = ref.target
  fresh : ∀ one ∈ found, one.target ∉ seen
  first : ∀ one ∈ found, refs.find? (fun ref => ref.target = one.target) = some one
  ordered : found.Pairwise fun one other =>
    (refs.map (·.target)).idxOf one.target < (refs.map (·.target)).idxOf other.target

variable {seen : List (Option String × String)} {refs found : List ObjectReference} {ref : ObjectReference}

theorem FirstSeen.ne (firstSeen : FirstSeen seen refs found) (known : ref.target ∈ seen) :
    ∀ one ∈ found, ref.target ≠ one.target := by
  intro one member same
  exact firstSeen.fresh one member (same ▸ known)

/-- A reference to a target that is seen already moves the others by one. -/
theorem FirstSeen.behind (firstSeen : FirstSeen seen refs found) (known : ref.target ∈ seen) :
    (∀ one ∈ found, (ref :: refs).find? (fun r => r.target = one.target) = some one) ∧
      found.Pairwise fun one other =>
        ((ref :: refs).map (·.target)).idxOf one.target < ((ref :: refs).map (·.target)).idxOf other.target := by
  have apart := firstSeen.ne known
  constructor
  · intro one member
    simp [apart one member, firstSeen.first one member]
  · refine firstSeen.ordered.imp_of_mem ?_
    intro one other member member' before
    simp only [List.map_cons, List.idxOf_cons_ne _ (apart one member), List.idxOf_cons_ne _ (apart other member')]
    omega

theorem firstSeen_uniqueFrom (seen : List (Option String × String)) (refs : List ObjectReference) :
    FirstSeen seen refs (uniqueFrom seen refs) := by
  induction refs generalizing seen with
  | nil => exact ⟨by simp, by simp [uniqueFrom], by simp [uniqueFrom], .nil⟩
  | cons ref rest ih =>
    by_cases known : ref.target ∈ seen
    · have skipped : uniqueFrom seen (ref :: rest) = uniqueFrom seen rest := if_pos known
      have later := ih seen
      obtain ⟨first, ordered⟩ := later.behind known
      rw [skipped]
      exact ⟨List.forall_mem_cons.mpr ⟨.inl known, later.complete⟩, later.fresh, first, ordered⟩
    · have kept : uniqueFrom seen (ref :: rest) = ref :: uniqueFrom (ref.target :: seen) rest := if_neg known
      have later := ih (ref.target :: seen)
      obtain ⟨first, ordered⟩ := later.behind List.mem_cons_self
      have apart := later.ne List.mem_cons_self
      rw [kept]
      refine ⟨?_, ?_, ?_, ?_⟩
      · refine List.forall_mem_cons.mpr ⟨.inr ⟨ref, List.mem_cons_self, rfl⟩, ?_⟩
        intro other member
        rcases later.complete other member with known | ⟨one, among, same⟩
        · rcases List.mem_cons.mp known with own | before
          · exact .inr ⟨ref, List.mem_cons_self, own.symm⟩
          · exact .inl before
        · exact .inr ⟨one, List.mem_cons_of_mem ref among, same⟩
      · refine List.forall_mem_cons.mpr ⟨known, ?_⟩
        intro one member before
        exact later.fresh one member (List.mem_cons_of_mem _ before)
      · exact List.forall_mem_cons.mpr ⟨by simp, first⟩
      · refine List.pairwise_cons.mpr ⟨?_, ordered⟩
        intro one member
        simp [List.idxOf_cons_ne _ (apart one member)]

/-! ### Documents -/

/-- What a cluster consists of: its objects, the groups that are read from them, and what these refer to. -/
structure Inventory where
  cluster : Value
  provider : Value
  providerCluster : Value
  planes : List Value
  deployments : List Value
  planeGroups : List NodeGroup
  workerGroups : List NodeGroup
  templateRefs : List ObjectReference
  configRefs : List ObjectReference
  templates : List Value
  configs : List Value

namespace Inventory

def objects (i : Inventory) : List Value :=
  [i.cluster, i.providerCluster] ++ i.templates ++ i.configs ++ i.planes ++ i.deployments

def calls (i : Inventory) (name ns : String) (type : Definition → String × String) : List Call :=
  [.get (type .cluster).2 (.text name) (some ns), .get (type .providerCluster).2 i.provider (some ns),
    .list (type .controlPlane).2 (some ns) (some (Selector.cluster name)),
    .list (type .machineDeployment).2 (some ns) (some (Selector.cluster name))] ++
  (i.templateRefs.map fun ref => .get (type .machineTemplate).2 (.text ref.name) ref.ns) ++
  i.configRefs.map fun ref => .get (type .configTemplate).2 (.text ref.name) ref.ns

/-- An inventory as the server keeps it, where objects of a definition are asked for by the given types. -/
structure Kept (i : Inventory) (name ns : String) (type : Definition → String × String) (s : Server) : Prop where
  cluster : s.Keeps (type .cluster).2 (.text name) (some ns) i.cluster
  provider : providerName i.cluster name = .ok i.provider
  providerCluster : s.Keeps (type .providerCluster).2 i.provider (some ns) i.providerCluster
  planes : s.KeepsAll (type .controlPlane) (some ns) (some (Selector.cluster name)) i.planes
  deployments : s.KeepsAll (type .machineDeployment) (some ns) (some (Selector.cluster name)) i.deployments
  planeGroups : List.Forall₂ (fun plane group => NodeGroup.ofControlPlane plane (.text name) = .ok group)
    i.planes i.planeGroups
  workerGroups : List.Forall₂ (fun deployment group => NodeGroup.ofMachineDeployment deployment = .ok group)
    i.deployments i.workerGroups
  templateRefs : FirstSeen [] ((i.planeGroups ++ i.workerGroups).map (·.templateRef)) i.templateRefs
  configRefs : FirstSeen [] (i.workerGroups.filterMap (·.configRef)) i.configRefs
  templates : List.Forall₂ (fun ref object => s.Keeps (type .machineTemplate).2 (.text ref.name) ref.ns object)
    i.templateRefs i.templates
  configs : List.Forall₂ (fun ref object => s.Keeps (type .configTemplate).2 (.text ref.name) ref.ns object)
    i.configRefs i.configs

end Inventory

theorem keysApart_definitions : Definition.KeysApart definitions := by decide

variable {name ns : String} {w after : World}

theorem objects_of_ok {found : List Value} (ok : objects name ns w = (.ok found, after)) :
    ∃ i : Inventory, i.objects = found ∧ i.Kept name ns w.session.typeOf w.server ∧
      w.Asks definitions after (i.calls name ns w.session.typeOf) := by
  have apart := keysApart_definitions
  unfold objects at ok
  -- Results of the server's answers are told of the first world, and those that are only read need no call.
  obtain ⟨cluster, _, got, ok⟩ := steps_of_ok ok
  obtain ⟨keptCluster, asked⟩ := (World.Asks.refl w).get apart (by decide) got
  obtain ⟨provider, _, read, ok⟩ := steps_of_ok ok
  obtain ⟨named, same⟩ := ok_of_ofExcept read
  rw [same] at ok
  obtain ⟨providerCluster, _, got, ok⟩ := steps_of_ok ok
  obtain ⟨keptProvider, asked⟩ := asked.get apart (by decide) got
  obtain ⟨planes, _, listed, ok⟩ := steps_of_ok ok
  obtain ⟨keptPlanes, asked⟩ := asked.list apart (by decide) listed
  obtain ⟨deployments, _, listed, ok⟩ := steps_of_ok ok
  obtain ⟨keptDeployments, asked⟩ := asked.list apart (by decide) listed
  obtain ⟨planeGroups, _, read, ok⟩ := steps_of_ok ok
  obtain ⟨planesRead, same⟩ := ok_of_ofExcept read
  rw [same] at ok
  obtain ⟨workerGroups, _, read, ok⟩ := steps_of_ok ok
  obtain ⟨deploymentsRead, same⟩ := ok_of_ofExcept read
  rw [same] at ok
  obtain ⟨templates, _, fetched, ok⟩ := steps_of_ok ok
  obtain ⟨keptTemplates, asked⟩ := asked.each apart (by decide) fetched
  obtain ⟨configs, _, fetched, ok⟩ := steps_of_ok ok
  obtain ⟨keptConfigs, asked⟩ := asked.each apart (by decide) fetched
  cases ok
  refine ⟨⟨cluster, provider, providerCluster, planes, deployments, planeGroups, workerGroups, _, _, templates,
    configs⟩, rfl, ?_, asked⟩
  exact ⟨keptCluster, named, keptProvider, keptPlanes, keptDeployments, forall₂_of_mapM planesRead,
    forall₂_of_mapM deploymentsRead, firstSeen_uniqueFrom _ _, firstSeen_uniqueFrom _ _, keptTemplates, keptConfigs⟩

def storedObject (kind name ns : String) (labels : Labels) (spec : List (String × Value)) : StoredObject :=
  ⟨kind, some ns, name, labels, .ofRecord [("kind", .text kind),
    ("metadata", .ofRecord [("name", .text name), ("uid", .text "42"), ("namespace", .text ns)]),
    ("spec", .ofRecord spec)]⟩

end Collection
end ClusterLedger
