import ClusterLedger.Reconciler
import ClusterLedger.Proofs.Actions

namespace ClusterLedger

namespace Action

inductive Consults (ds : List Definition) : {α : Type} → Action α → Prop
  | result {α : Type} (r : Except Failure α) : Consults ds (ofExcept r)
  | record (event : Event) : Consults ds (record event)
  | get {d : Definition} (among : d ∈ ds) (name : Value) (ns : Option String) :
      Consults ds (Client.get d name ns)
  | list {d : Definition} (among : d ∈ ds) (ns selector : Option String) :
      Consults ds (Client.list d ns selector)
  | secret (name ns : String) : Consults ds (Client.secret name ns)
  | bind {α β : Type} {x : Action α} {f : α → Action β} (first : Consults ds x)
      (next : ∀ a, Consults ds (f a)) : Consults ds (x >>= f)
  | within {α : Type} (context : Context) {x : Action α} (inner : Consults ds x) :
      Consults ds (within context x)

variable {ds es : List Definition} {α β : Type} {x : Action α} {f : α → Action β}

theorem Consults.pure (a : α) : Consults ds (Pure.pure a : Action α) := .result (.ok a)

theorem Consults.fail (failure : Failure) : Consults ds (fail failure : Action α) :=
  .result (.error failure)

theorem Consults.each (consults : ∀ a, Consults ds (f a)) (as : List α) : Consults ds (each f as) := by
  induction as with
  | nil => exact .pure []
  | cons a rest ih => exact .bind (consults a) fun b => .bind ih fun bs => .pure (b :: bs)

theorem Consults.mono (consults : Consults ds x) (more : ds ⊆ es) : Consults es x := by
  induction consults with
  | result r => exact .result r
  | record event => exact .record event
  | get among name ns => exact .get (more among) name ns
  | list among ns selector => exact .list (more among) ns selector
  | secret name ns => exact .secret name ns
  | bind first next ihFirst ihNext => exact .bind ihFirst ihNext
  | within context inner ih => exact .within context ih

/-- A relation of worlds that all requests keep is kept by every operation. -/
theorem Consults.runRelated {R : World → World → Prop} (consults : Consults ds x)
    (recorded : ∀ event, RunRelated R Eq (Action.record event) (Action.record event))
    (got : ∀ d ∈ ds, ∀ name ns, RunRelated R Eq (Client.get d name ns) (Client.get d name ns))
    (listed : ∀ d ∈ ds, ∀ ns selector,
      RunRelated R Eq (Client.list d ns selector) (Client.list d ns selector))
    (secret : ∀ name ns, RunRelated R Eq (Client.secret name ns) (Client.secret name ns)) :
    RunRelated R Eq x x := by
  induction consults with
  | result r => exact runRelated_ofExcept (.refl (fun _ => rfl) r)
  | record event => exact recorded event
  | get among name ns => exact got _ among name ns
  | list among ns selector => exact listed _ among ns selector
  | secret name ns => exact secret name ns
  | bind first next ihFirst ihNext => exact runRelated_bind_same ihFirst ihNext
  | within context inner ih => exact runRelated_within context ih

end Action

open ClusterLedger.Action

variable {ds : List Definition}

namespace Members

theorem consults_workerGroups (among : .machineDeployment ∈ ds) (name ns : String) :
    Consults ds (workerGroups name ns) :=
  .bind (.list among _ _) fun _ => .result _

theorem consults_controlPlaneGroups (among : .controlPlane ∈ ds) (name ns : String) :
    Consults ds (controlPlaneGroups name ns) :=
  .bind (.list among _ _) fun _ => .result _

theorem consults_instances (among : .machine ∈ ds) (group : NodeGroup) :
    Consults ds (instances group) := by
  refine .bind (.list among _ _) fun resources => .bind (.result _) fun machines => ?_
  cases group.kind with
  | worker => exact .pure machines
  | controlPlane => exact .bind (.record _) fun _ => .pure _

end Members

namespace Topology

theorem consults_pool (templates : .machineTemplate ∈ ds) (machines : .machine ∈ ds)
    (group : NodeGroup) : Consults ds (pool group) := by
  refine .within _ (.bind (.get templates _ _) fun resource => .bind (.result _) fun template => ?_)
  exact .bind (Members.consults_instances machines group) fun _ => .pure _

theorem consults_poolsFrom (templates : .machineTemplate ∈ ds) (machines : .machine ∈ ds)
    (seen : List String) (groups : List NodeGroup) : Consults ds (poolsFrom seen groups) := by
  induction groups generalizing seen with
  | nil => exact .pure []
  | cons group rest ih =>
    refine .bind (consults_pool templates machines group) fun first => ?_
    split
    · exact .fail _
    · exact .bind (ih _) fun others => .pure (first :: others)

theorem consults_ofGroups (templates : .machineTemplate ∈ ds) (machines : .machine ∈ ds)
    (groups : List NodeGroup) : Consults ds (ofGroups groups) := by
  refine .bind (consults_poolsFrom templates machines [] groups) fun pools => ?_
  exact .bind (.record _) fun _ => .pure _

theorem consults_ofCluster (workers : .machineDeployment ∈ ds) (planes : .controlPlane ∈ ds)
    (templates : .machineTemplate ∈ ds) (machines : .machine ∈ ds) (name ns : String) :
    Consults ds (ofCluster name ns) := by
  refine .bind (Members.consults_workerGroups workers name ns) fun _ => ?_
  refine .bind (Members.consults_controlPlaneGroups planes name ns) fun _ => ?_
  exact consults_ofGroups templates machines _

end Topology

namespace Rollout

theorem consults_reached (machines : .machine ∈ ds) (target : String) (groups : List NodeGroup) :
    Consults ds (reached target groups) := by
  induction groups with
  | nil => exact .pure true
  | cons group rest ih =>
    refine .bind (.within _ (Members.consults_instances machines group)) fun found => ?_
    cases outdated? target found with
    | some outdated => exact .bind (.record _) fun _ => .pure false
    | none => exact ih

theorem consults_clusterReached (planes : .controlPlane ∈ ds) (workers : .machineDeployment ∈ ds)
    (machines : .machine ∈ ds) (name ns target : String) :
    Consults ds (clusterReached name ns target) := by
  refine .bind (Members.consults_controlPlaneGroups planes name ns) fun _ => ?_
  refine .bind (Members.consults_workerGroups workers name ns) fun _ => ?_
  exact consults_reached machines target _

end Rollout

namespace Collection

def definitions : List Definition :=
  [.cluster, .providerCluster, .controlPlane, .machineDeployment, .machineTemplate, .configTemplate]

theorem consults_objects (name ns : String) : Consults definitions (objects name ns) := by
  have cluster : .cluster ∈ definitions := by decide
  have provider : .providerCluster ∈ definitions := by decide
  have planes : .controlPlane ∈ definitions := by decide
  have deployments : .machineDeployment ∈ definitions := by decide
  have templates : .machineTemplate ∈ definitions := by decide
  have configs : .configTemplate ∈ definitions := by decide
  refine .bind (.get cluster _ _) fun _ => .bind (.result _) fun _ => ?_
  refine .bind (.get provider _ _) fun _ => ?_
  refine .bind (.list planes _ _) fun _ => .bind (.list deployments _ _) fun _ => ?_
  refine .bind (.result _) fun _ => .bind (.result _) fun _ => ?_
  refine .bind (.each (fun ref => .get templates _ _) _) fun _ => ?_
  exact .bind (.each (fun ref => .get configs _ _) _) fun _ => .pure _

theorem consults_collect (name ns : String) : Consults definitions (collect name ns) :=
  .within _ (.bind (consults_objects name ns) fun _ => .bind (.record _) fun _ => .result _)

theorem consults_yaml (rule : RedactionRule) (half : Half) (name ns : String) :
    Consults definitions (yaml rule half name ns) := by
  refine .bind (consults_collect name ns) fun documents => .bind (.result _) fun text => ?_
  exact .bind (.record _) fun _ => .pure text

end Collection

theorem Credentials.consults_resolve (declared : Credentials) (ref : Option ObjectReference) :
    Consults ds (declared.resolve ref) := by
  cases ref with
  | none => exact .pure declared
  | some ref =>
    refine .bind (.within _ (.secret _ _)) fun data => .bind (.result _) fun entries => ?_
    refine .bind (.result _) fun overrides => ?_
    split
    · exact .bind (.record _) fun _ => .pure _
    · exact .pure _

inductive Inspection where
  | get (d : Definition) (name : Value) (ns : Option String)
  | list (d : Definition) (ns selector : Option String)
  | secret (name ns : String)
  | instances (group : NodeGroup)
  | pools (groups : List NodeGroup)
  | topology (name ns : String)
  | reached (groups : List NodeGroup) (target : String)
  | clusterReached (name ns target : String)
  | collect (name ns : String)
  | specYaml (name ns : String)
  | statusYaml (name ns : String)
  | credentials (declared : Credentials) (ref : Option ObjectReference)

namespace Inspection

def Result : Inspection → Type
  | get .. => Value
  | list .. => List Value
  | secret .. => Value
  | instances _ => List Machine
  | pools _ => Topology
  | topology .. => Topology
  | reached .. => Bool
  | clusterReached .. => Bool
  | collect .. => List Value
  | specYaml .. => String
  | statusYaml .. => String
  | credentials .. => Credentials

def perform (r : Reconciler) : (i : Inspection) → Action i.Result
  | get d name ns => Client.get d name ns
  | list d ns selector => Client.list d ns selector
  | secret name ns => Client.secret name ns
  | instances group => Members.instances group
  | pools groups => Topology.ofGroups groups
  | topology name ns => Reconciler.topology name ns
  | reached groups target => Rollout.reached target groups
  | clusterReached name ns target => Reconciler.hasReached name ns target
  | collect name ns => Collection.collect name ns
  | specYaml name ns => r.specYaml name ns
  | statusYaml name ns => r.statusYaml name ns
  | credentials declared ref => Reconciler.credentials declared ref

def definitions : Inspection → List Definition
  | get d _ _ => [d]
  | list d _ _ => [d]
  | secret .. => []
  | instances _ => [.machine]
  | pools _ => [.machineTemplate, .machine]
  | topology .. => [.machineDeployment, .controlPlane, .machineTemplate, .machine]
  | reached .. => [.machine]
  | clusterReached .. => [.controlPlane, .machineDeployment, .machine]
  | collect .. => Collection.definitions
  | specYaml .. => Collection.definitions
  | statusYaml .. => Collection.definitions
  | credentials .. => []

theorem consults (r : Reconciler) (i : Inspection) : Consults i.definitions (i.perform r) := by
  cases i with
  | get d name ns => exact .get List.mem_cons_self name ns
  | list d ns selector => exact .list List.mem_cons_self ns selector
  | secret name ns => exact .secret name ns
  | instances group => exact Members.consults_instances List.mem_cons_self group
  | pools groups =>
    exact Topology.consults_ofGroups (by simp [definitions]) (by simp [definitions]) groups
  | topology name ns =>
    exact Topology.consults_ofCluster (by simp [definitions]) (by simp [definitions])
      (by simp [definitions]) (by simp [definitions]) name ns
  | reached groups target => exact Rollout.consults_reached List.mem_cons_self target groups
  | clusterReached name ns target =>
    exact Rollout.consults_clusterReached (by simp [definitions]) (by simp [definitions])
      (by simp [definitions]) name ns target
  | collect name ns => exact Collection.consults_collect name ns
  | specYaml name ns => exact Collection.consults_yaml r.settings.rule .spec name ns
  | statusYaml name ns => exact Collection.consults_yaml r.settings.rule .status name ns
  | credentials declared ref => exact Credentials.consults_resolve declared ref

end Inspection
end ClusterLedger
