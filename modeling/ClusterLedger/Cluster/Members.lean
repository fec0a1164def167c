import ClusterLedger.Api.Client
import ClusterLedger.Cluster.Machine
import ClusterLedger.Cluster.NodeGroup

namespace ClusterLedger.Members

def cluster (name ns : String) : Action Value := Client.get .cluster (.text name) (some ns)

def providerCluster (name : Value) (ns : String) : Action Value :=
  Client.get .providerCluster name (some ns)

def resourceSetBindings (ns : String) : Action (List Value) :=
  Client.list .resourceSetBinding (some ns) none

def machineDeployments (name ns : String) : Action (List Value) :=
  Client.list .machineDeployment (some ns) (some (Selector.cluster name))

def controlPlanes (name ns : String) : Action (List Value) :=
  Client.list .controlPlane (some ns) (some (Selector.cluster name))

def workerGroups (name ns : String) : Action (List NodeGroup) := do
  let resources ← machineDeployments name ns
  Action.ofExcept (resources.mapM (NodeGroup.ofMachineDeployment ·))

def controlPlaneGroups (name ns : String) : Action (List NodeGroup) := do
  let resources ← controlPlanes name ns
  Action.ofExcept (resources.mapM fun resource => NodeGroup.ofControlPlane resource (.text name))

def machineTemplate (ref : ObjectReference) : Action Value :=
  Client.get .machineTemplate (.text ref.name) ref.ns

def configTemplate (ref : ObjectReference) : Action Value :=
  Client.get .configTemplate (.text ref.name) ref.ns

def selector (group : NodeGroup) : String :=
  match group.kind with
  | .worker => Selector.deployment group.name
  | .controlPlane => Selector.cluster group.clusterName

/-- The machines of a group. Those of a control plane are told by their owner. -/
def instances (group : NodeGroup) : Action (List Machine) := do
  let resources ← Client.list .machine (some group.ns) (some (selector group))
  let machines ← Action.ofExcept (resources.mapM (Machine.ofResource ·))
  match group.kind with
  | .worker => return machines
  | .controlPlane =>
    let owned := machines.filter fun m => m.isOwnedBy group.kind.name group.name
    Action.record (.owned owned.length machines.length group.clusterName group.name)
    return owned

end ClusterLedger.Members
