import ClusterLedger.Cluster.MachineTemplate
import ClusterLedger.Cluster.Members
import ClusterLedger.Cluster.NodePool

namespace ClusterLedger.Topology

def poolContext (group : NodeGroup) : Context where
  operation := some "aggregate_node_pools"
  kind := some group.kind.name
  name := some (.text group.name)

def poolOf (group : NodeGroup) (template : MachineTemplate) (machines : List Machine) : NodePool where
  name := group.name
  sizingPolicy := template.sizingPolicy
  placementPolicy := template.placementPolicy
  gpuEnabled := template.gpuEnabled
  storageProfile := template.storageProfile
  diskSize := template.diskSize
  desiredReplicas := group.replicas.getD 0
  availableReplicas := group.readyReplicas
  nodeStatus := Assoc.overlay [] (machines.map fun m => (m.name, m.phase))

def pool (group : NodeGroup) : Action NodePool :=
  Action.within (poolContext group) do
    let resource ← Members.machineTemplate group.templateRef
    let template ← Action.ofExcept (MachineTemplate.ofResource resource)
    let machines ← Members.instances group
    return poolOf group template machines

/-- The pools of groups, whose names must differ from each other and from those `seen`. -/
def poolsFrom (seen : List String) : List NodeGroup → Action (List NodePool)
  | [] => return []
  | group :: rest => do
    let first ← pool group
    if first.name ∈ seen then
      Action.fail (.misconfigured (.duplicatePool first.name) (poolContext group))
    else
      let others ← poolsFrom (first.name :: seen) rest
      return first :: others

def ofGroups (groups : List NodeGroup) : Action Topology := do
  let pools ← poolsFrom [] groups
  Action.record (.aggregated pools.length)
  return ⟨pools⟩

/-- Worker groups come before control planes. -/
def ofCluster (name ns : String) : Action Topology := do
  let workers ← Members.workerGroups name ns
  let controlPlanes ← Members.controlPlaneGroups name ns
  ofGroups (workers ++ controlPlanes)

end ClusterLedger.Topology
