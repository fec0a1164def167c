import ClusterLedger.Cluster.Collection
import ClusterLedger.Cluster.Credentials
import ClusterLedger.Cluster.Rollout
import ClusterLedger.Cluster.Topology
import ClusterLedger.Tracking.Rename

/-!
The reconciler of one management cluster. It keeps nothing about single clusters: every operation
reads afresh, and the only thing changed is the resource map that a caller passes in.
-/

namespace ClusterLedger

structure Reconciler where
  settings : Settings
  host : Host
  directory : Option Directory

namespace Reconciler

def connect (r : Reconciler) : Action Unit := do
  match r.settings.advice r.host with
  | .error (.badValue what) => Action.fail (.misconfigured (.rejectedSettings what.message))
  | .error failure => Action.fail failure
  | .ok advice =>
    let _ ← Action.each (fun text => Action.record (.advice text)) advice
    Client.connect r.host r.settings

def isMisconfigured : Failure → Bool
  | .fault ⟨.misconfigured _, _⟩ => true
  | _ => false

def missingAmong : List Definition → Action (List String)
  | [] => return []
  | d :: rest => do
    match ← Action.attempt (Client.resource d) with
    | .ok _ => missingAmong rest
    | .error failure =>
      if isMisconfigured failure then return d.kind :: (← missingAmong rest)
      else Action.fail failure

def missing : Action (List String) := missingAmong Definition.required

def detectRename (r : Reconciler) (m : ResourceMap) (kind : Value) (org specName : String)
    (statusName : Option String) : Detection :=
  match r.directory with
  | none => ⟨.error (.misconfigured .noDirectory), m, [], []⟩
  | some directory => m.detectRename directory kind org specName statusName

def topology (name ns : String) : Action Topology := Topology.ofCluster name ns

def hasReached (name ns target : String) : Action Bool := Rollout.clusterReached name ns target

def specYaml (r : Reconciler) (name ns : String) : Action String :=
  Collection.yaml r.settings.rule .spec name ns

def statusYaml (r : Reconciler) (name ns : String) : Action String :=
  Collection.yaml r.settings.rule .status name ns

def credentials (declared : Credentials) (ref : Option ObjectReference) : Action Credentials :=
  declared.resolve ref

end Reconciler
end ClusterLedger
