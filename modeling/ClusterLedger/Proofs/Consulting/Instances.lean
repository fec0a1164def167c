import ClusterLedger.Cluster.Members
import ClusterLedger.Proofs.Consulting.Readiness
import ClusterLedger.Proofs.Objects
import ClusterLedger.Proofs.Selectors

namespace ClusterLedger

open ClusterLedger.Action

/-! ### Owners of machines -/

def Value.ownerReferences (v : Value) : List Value :=
  (((v.under? "metadata").bind (·.under? "ownerReferences")).getD .null).members

def Value.isOwnedBy (kind name : String) (v : Value) : Bool :=
  v.ownerReferences.any fun ref => ref.told? "kind" = some kind && ref.told? "name" = some name

namespace Machine

theorem forall₂_of_readOwners {members : List Value} {owners : List OwnerReference}
    (read : readOwners members = .ok owners) :
    List.Forall₂ (fun v owner => OwnerReference.read v = .ok owner) members owners := by
  induction members generalizing owners with
  | nil =>
    cases read
    exact .nil
  | cons v rest ih =>
    rw [readOwners] at read
    obtain ⟨owner, first, later⟩ := ok_of_bind read
    obtain ⟨others, next, same⟩ := ok_of_bind later
    cases same
    exact .cons first (ih next)

theorem owners_of_check {fields : Fields} {owners : List OwnerReference} {m : Machine}
    (accepted : check fields owners = .accepted m) : m.owners = owners := by
  obtain ⟨_, _, toVersion, own, rfl⟩ := Checked.apply_eq_accepted.mp accepted
  obtain ⟨_, _, toPhase, _, rfl⟩ := Checked.apply_eq_accepted.mp toVersion
  obtain ⟨_, _, toNamespace, _, rfl⟩ := Checked.apply_eq_accepted.mp toPhase
  obtain ⟨_, _, toName, _, rfl⟩ := Checked.apply_eq_accepted.mp toNamespace
  obtain ⟨_, _, made, _, rfl⟩ := Checked.apply_eq_accepted.mp toName
  cases made
  cases own
  rfl

theorem owners_of_ofResource {r : Value} {m : Machine} (read : ofResource r = .ok m) :
    List.Forall₂ (fun v owner => OwnerReference.read v = .ok owner) r.ownerReferences m.owners := by
  unfold ofResource at read
  obtain ⟨metadata, atMetadata, read⟩ := ok_of_bind read
  obtain ⟨name, _, read⟩ := ok_of_bind read
  obtain ⟨refs, atRefs, read⟩ := ok_of_bind read
  obtain ⟨ns, _, read⟩ := ok_of_bind read
  obtain ⟨phase, _, read⟩ := ok_of_bind read
  obtain ⟨version, _, read⟩ := ok_of_bind read
  obtain ⟨members, gone, read⟩ := ok_of_ite_bind read
  obtain ⟨owners, readAll, checked⟩ := ok_of_bind read
  have references : r.ownerReferences = refs.members := by
    rw [Resource.eq_of_field atRefs, Resource.eq_of_field atMetadata, Value.ownerReferences]
    cases r.under? "metadata" <;> rfl
  have same : refs.members = members := by
    split at gone
    · exact Value.members_of_elements gone
    · rename_i nothing
      cases gone
      exact Value.members_of_not_truthy (by simpa using nothing)
  rw [references, same, owners_of_check (Checked.toExcept_eq_ok.mp checked)]
  exact forall₂_of_readOwners readAll

end Machine

namespace Resource

theorem Shows.ownerReferences {v seen : Value} {owners : List OwnerReference} (shows : Shows v seen)
    (read : List.Forall₂ (fun ref owner => OwnerReference.read ref = .ok owner) seen.ownerReferences owners) :
    List.Forall₂ Shows v.ownerReferences seen.ownerReferences := by
  have references : Option.Rel Shows ((v.under? "metadata").bind (·.under? "ownerReferences"))
      ((seen.under? "metadata").bind (·.under? "ownerReferences")) := by
    have metadata := shows.under? "metadata"
    generalize v.under? "metadata" = old, seen.under? "metadata" = new at metadata
    cases metadata with
    | none => exact .none
    | some below => exact below.under? "ownerReferences"
  unfold Value.ownerReferences at read ⊢
  generalize (v.under? "metadata").bind (·.under? "ownerReferences") = old,
    (seen.under? "metadata").bind (·.under? "ownerReferences") = new at references read
  cases references with
  | none => exact .nil
  | some below =>
    rcases below.members with same | ⟨entries, parts, rfl, rfl, readAll⟩
    · exact same
    · -- The entries of an object are no references, so there are none.
      cases parts with
      | cons part others =>
        cases read with
        | cons first _ => cases first
      | nil =>
        cases entries with
        | nil => exact .nil
        | cons entry rest =>
          obtain ⟨k, v⟩ := entry
          cases k with
          | text name =>
            rw [ofEntries] at readAll
            obtain ⟨_, _, later⟩ := ok_of_bind readAll
            obtain ⟨_, _, same⟩ := ok_of_bind later
            cases same
          | _ => cases readAll

theorem owned_of_shown {refs seen : List Value} {owners : List OwnerReference}
    (shown : List.Forall₂ Shows refs seen)
    (read : List.Forall₂ (fun ref owner => OwnerReference.read ref = .ok owner) seen owners) (kind name : String) :
    (owners.any fun owner => owner.kind = kind && owner.name = name) =
      refs.any fun ref => ref.told? "kind" = some kind && ref.told? "name" = some name := by
  induction shown generalizing owners with
  | nil =>
    cases read
    rfl
  | cons one rest ih =>
    cases read with
    | cons first later =>
      obtain ⟨ofKind, ofName⟩ := OwnerReference.told_of_read first
      rw [one.told?] at ofKind ofName
      simp [ofKind, ofName, ih later]

end Resource

namespace StoredObject

variable {o : StoredObject} {m : Machine}

def machine (o : StoredObject) : Except Failure Machine := do
  let item ← Resource.typedItem (.ok (.text Definition.machine.apiVersion)) Definition.machine.kind o.body
  Machine.ofResource (← Resource.ofPart item)

theorem isOwnedBy_of_machine (read : o.machine = .ok m) (kind name : String) :
    m.isOwnedBy kind name = o.body.isOwnedBy kind name := by
  obtain ⟨item, typed, read⟩ := ok_of_bind read
  obtain ⟨r, seen, read⟩ := ok_of_bind read
  have references : item.ownerReferences = o.body.ownerReferences := by
    rw [Value.ownerReferences, Resource.under?_of_typedItem typed (by decide) (by decide)]
    rfl
  have owners := Machine.owners_of_ofResource read
  have shown := Resource.Shows.ownerReferences (.inr seen) owners
  rw [references] at shown
  exact Resource.owned_of_shown shown owners kind name

end StoredObject

/-! ### Members of groups -/

namespace NodeGroup

/-- The name that the machines of a group are selected by can be written in a selector. -/
def Selectable (group : NodeGroup) : Prop :=
  match group.kind with
  | .worker => ',' ∉ group.name.toList
  | .controlPlane => ',' ∉ group.clusterName.toList

/-- A machine of a group: one in its namespace that is labelled with its deployment, or one of its cluster's
that its control plane owns. -/
def hasMember (group : NodeGroup) (o : StoredObject) : Bool :=
  o.kind = "Machine" && o.ns = some group.ns &&
    match group.kind with
    | .worker => Assoc.find? "cluster.x-k8s.io/deployment-name" o.labels = some group.name
    | .controlPlane =>
      Assoc.find? "cluster.x-k8s.io/cluster-name" o.labels = some group.clusterName &&
        o.body.isOwnedBy "KubeadmControlPlane" group.name

end NodeGroup

namespace Resource

theorem machines_of_ofItems {os : List StoredObject} (parsed : ∀ o ∈ os, ∃ m, o.machine = .ok m) :
    ∃ resources machines,
      ofItems Definition.machine.apiVersion Definition.machine.kind (os.map (·.body)) = .ok resources ∧
      resources.mapM Machine.ofResource = .ok machines ∧
      List.Forall₂ (fun o m => o.machine = .ok m) os machines := by
  induction os with
  | nil => exact ⟨[], [], rfl, rfl, .nil⟩
  | cons o rest ih =>
    obtain ⟨m, read⟩ := parsed o List.mem_cons_self
    obtain ⟨resources, machines, listed, readAll, same⟩ :=
      ih fun other later => parsed other (List.mem_cons_of_mem o later)
    obtain ⟨item, typed, toMachine⟩ := ok_of_bind read
    obtain ⟨r, seen, one⟩ := ok_of_bind toMachine
    have first : (typedItem (.ok (.text Definition.machine.apiVersion)) Definition.machine.kind o.body >>= ofPart) =
        .ok r := by
      rw [typed]
      exact seen
    exact ⟨r :: resources, m :: machines, mapM_cons_of_ok first listed, mapM_cons_of_ok one readAll,
      .cons read same⟩

end Resource

namespace Client

theorem list_of_ready {ds : List Definition} {d : Definition} {w : World} {ns selector : Option String}
    {found : List Value} (ready : w.session.Ready ds) (serves : w.server.Serves ds) (among : d ∈ ds)
    (listed : (w.server.list d.apiVersion d.kind ns selector).1 = .ok found) :
    ∃ after, list d ns selector w = (.ok found, after) := by
  obtain ⟨handle, between, discovered, ofType, same⟩ := resource_of_ready ready serves among
  unfold list
  rw [bind_of_ok discovered, ofType.kind, ofType.apiVersion]
  rcases call_cases (.list d.kind ns selector) (Server.list · d.apiVersion d.kind ns selector)
      (Refusal.toFailure "list" d.kind none ns) between with
    ⟨resources, server, replied, made⟩ | ⟨refusal, server, replied, made⟩
  · rw [same] at replied
    rw [replied] at listed
    cases listed
    exact ⟨_, made⟩
  · rw [same] at replied
    rw [replied] at listed
    cases listed

end Client

namespace Members

variable {group : NodeGroup}

theorem holds_selector (selectable : group.Selectable) (labels : Labels) :
    Selector.holds (selector group) labels = true ↔
      match group.kind with
      | .worker => Assoc.find? "cluster.x-k8s.io/deployment-name" labels = some group.name
      | .controlPlane => Assoc.find? "cluster.x-k8s.io/cluster-name" labels = some group.clusterName := by
  have single {key value : String} (clean : '=' ∉ key.toList ∧ ',' ∉ key.toList) (clean' : ',' ∉ value.toList) :
      Selector.holds (Selector.ofLabels [(key, value)]) labels = true ↔ Assoc.find? key labels = some value := by
    have writable : Selector.Writable [(key, value)] := by simp [Selector.Writable, clean, clean']
    simp [Selector.holds_ofLabels writable]
  unfold NodeGroup.Selectable at selectable
  unfold selector
  cases kind : group.kind with
  | worker =>
    rw [kind] at selectable
    exact single (by decide) selectable
  | controlPlane =>
    rw [kind] at selectable
    exact single (by decide) selectable

/-- Whether an object that is listed for a group is told to be of the group by more than its labels. -/
def isOwn (group : NodeGroup) (o : StoredObject) : Bool :=
  group.kind = .worker || o.body.isOwnedBy "KubeadmControlPlane" group.name

/-- Besides the machines of a group only such are listed for it that its control plane does not own. -/
theorem filter_selected (selectable : group.Selectable) (s : Server) :
    (s.selected "Machine" (some group.ns) (some (selector group))).filter (isOwn group) =
      s.objects.filter group.hasMember := by
  rw [Server.selected, List.filter_filter]
  refine List.filter_congr fun o _ => ?_
  have labelled := holds_selector selectable o.labels
  rw [Bool.eq_iff_iff]
  unfold NodeGroup.hasMember isOwn
  cases kind : group.kind <;> rw [kind] at labelled <;> simp [labelled, and_comm, and_assoc]

/-- What is listed for a group is read, and of that its own is kept. -/
theorem instances_of_list {w after : World} {resources : List Value} {machines : List Machine}
    (listed : Client.list .machine (some group.ns) (some (selector group)) w = (.ok resources, after))
    (read : resources.mapM Machine.ofResource = .ok machines) :
    ∃ last, instances group w =
      (.ok (machines.filter fun m =>
        group.kind = .worker || m.isOwnedBy "KubeadmControlPlane" group.name), last) := by
  have reading : ofExcept (resources.mapM Machine.ofResource) after = (.ok machines, after) := by
    rw [read]
    rfl
  unfold instances
  rw [bind_of_ok listed, bind_of_ok reading]
  cases kind : group.kind with
  | worker => exact ⟨after, by simp; rfl⟩
  | controlPlane => exact ⟨_, rfl⟩

/--
Where every machine can be read and nothing fails, the machines of a group are those of its members among the
objects that the server keeps, one for each and in their order. No object is a member of two deployments.
-/
theorem instances_exactly {w : World} (ready : w.session.Ready [.machine]) (serves : w.server.Serves [.machine])
    (unrefused : FailureRule.fire .list (some "Machine") none w.server.failures = none)
    (parsed : ∀ o ∈ w.server.objects, o.kind = "Machine" → ∃ m, o.machine = .ok m) :
    (∀ group : NodeGroup, group.Selectable →
      ∃ machines after, instances group w = (.ok machines, after) ∧
        List.Forall₂ (fun o m => o.machine = .ok m) (w.server.objects.filter group.hasMember) machines) ∧
    ∀ group other : NodeGroup, group.kind = .worker → other.kind = .worker → group.name ≠ other.name →
      (w.server.objects.filter group.hasMember).Disjoint (w.server.objects.filter other.hasMember) := by
  constructor
  · intro group selectable
    have parsedSelected : ∀ o ∈ w.server.selected "Machine" (some group.ns) (some (selector group)),
        ∃ m, o.machine = .ok m := by
      intro o among
      obtain ⟨stored, asked⟩ := List.mem_filter.mp among
      simp only [Bool.and_eq_true, decide_eq_true_eq] at asked
      exact parsed o stored asked.1.1
    obtain ⟨resources, machines, sent, read, same⟩ := Resource.machines_of_ofItems parsedSelected
    have replied : (w.server.list Definition.machine.apiVersion Definition.machine.kind (some group.ns)
        (some (selector group))).1 = .ok resources := by
      have unmet : FailureRule.fire .list (some Definition.machine.kind) none w.server.failures = none := unrefused
      unfold Server.list Server.reply
      rw [unmet]
      exact mapError_eq_ok.mpr sent
    obtain ⟨after, listed⟩ := Client.list_of_ready ready serves List.mem_cons_self replied
    obtain ⟨last, kept⟩ := instances_of_list listed read
    refine ⟨_, last, kept, ?_⟩
    rw [← filter_selected selectable]
    refine List.rel_filter ?_ same
    intro o m readOne
    have owned := StoredObject.isOwnedBy_of_machine readOne "KubeadmControlPlane" group.name
    simp [isOwn, owned]
  · intro group other worker worker' different o member member'
    have own := (List.mem_filter.mp member).2
    have own' := (List.mem_filter.mp member').2
    simp only [NodeGroup.hasMember, worker, worker', Bool.and_eq_true, decide_eq_true_eq] at own own'
    exact different (Option.some.inj (own.2.symm.trans own'.2))

def machineObject (name : String) (label : String × String) (owners : List (String × String)) : StoredObject where
  kind := "Machine"
  ns := some "clusters"
  name := name
  labels := [("cluster.x-k8s.io/cluster-name", "demo"), label]
  body := .ofRecord [("metadata", .ofRecord [("name", .text name), ("namespace", .text "clusters"),
    ("ownerReferences", .list (owners.map fun (kind, name) =>
      .ofRecord [("kind", .text kind), ("name", .text name)]))])]

def severalOwners : World where
  server :=
    { objects :=
        [machineObject "workers-0" ("cluster.x-k8s.io/deployment-name", "workers") [("MachineSet", "workers")],
          machineObject "planes-0" ("node", "0") [("KubeadmControlPlane", "planes")],
          machineObject "others-0" ("node", "1") [("KubeadmControlPlane", "others")],
          machineObject "adopted" ("node", "2") [("Machine", "others-1"), ("KubeadmControlPlane", "planes")]]
      secrets := []
      notServed := []
      failures := []
      inClusterFault := none
      kubeconfigFault := none }
  session := .borrowed
  nextClient := 1
  calls := []
  events := []

theorem instances_exactly_several_owners :
    let planes : NodeGroup :=
      ⟨.controlPlane, "planes", "clusters", "demo", none, 0, ⟨"small", none, none, none⟩, none⟩
    ∃ machines after, instances planes severalOwners = (.ok machines, after) ∧
      machines.map (·.name) = ["planes-0", "adopted"] := by
  intro planes
  have ready : severalOwners.session.Ready [.machine] := ⟨rfl, rfl, fun d _ handle cached => nomatch cached⟩
  have serves : severalOwners.server.Serves [.machine] := by
    intro d among
    rw [List.mem_singleton.mp among]
    rfl
  have parsed : ∀ o ∈ severalOwners.server.objects, o.kind = "Machine" → ∃ m, o.machine = .ok m := by
    intro o among _
    simp only [severalOwners, List.mem_cons, List.not_mem_nil, or_false] at among
    rcases among with rfl | rfl | rfl | rfl <;> exact ⟨_, rfl⟩
  have selectable : planes.Selectable := by
    show ',' ∉ "demo".toList
    decide
  obtain ⟨machines, after, listed, read⟩ := (instances_exactly ready serves rfl parsed).1 planes selectable
  refine ⟨machines, after, listed, ?_⟩
  have own : severalOwners.server.objects.filter planes.hasMember =
      [machineObject "planes-0" ("node", "0") [("KubeadmControlPlane", "planes")],
        machineObject "adopted" ("node", "2") [("Machine", "others-1"), ("KubeadmControlPlane", "planes")]] := rfl
  rw [own] at read
  obtain _ | ⟨first, _ | ⟨second, _ | _⟩⟩ := read
  cases first
  cases second
  rfl

end Members
end ClusterLedger
