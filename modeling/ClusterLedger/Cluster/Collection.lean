import ClusterLedger.Cluster.Members
import ClusterLedger.Projection

namespace ClusterLedger.Collection

def uniqueFrom (seen : List (Option String × String)) : List ObjectReference → List ObjectReference
  | [] => []
  | ref :: rest =>
    if (ref.ns, ref.name) ∈ seen then uniqueFrom seen rest
    else ref :: uniqueFrom ((ref.ns, ref.name) :: seen) rest

def unique (refs : List ObjectReference) : List ObjectReference := uniqueFrom [] refs

/-- The name of the provider's cluster object: the one referred to, or else the cluster's own. -/
def providerName (cluster : Value) (name : String) : Except Failure Value := do
  let spec := Resource.part cluster "spec"
  let ref := (← Resource.get spec "infrastructureRef").orElse (.map [])
  return (← Resource.get ref "name").orElse (.text name)

/-- Of the metadata only the name and the namespace are kept. -/
def identityMetadata (entries : List (Value × Value)) : List (Value × Value) :=
  match Value.lookup "metadata" entries with
  | some (.map metadata) =>
    let retained := Document.retainedKeys.filterMap fun key =>
      (Value.lookup key metadata).map fun v => (Value.text key, v)
    Value.setEntry (.text "metadata") (.map retained) entries
  | _ => entries

def document (resource : Value) : Except Failure Value :=
  (Document.plainMapping resource).map fun entries => .map (identityMetadata entries)

def objects (name ns : String) : Action (List Value) := do
  let cluster ← Members.cluster name ns
  let provider ← Action.ofExcept (providerName cluster name)
  let providerCluster ← Members.providerCluster provider ns
  let controlPlanes ← Members.controlPlanes name ns
  let deployments ← Members.machineDeployments name ns
  let controlPlaneGroups ←
    Action.ofExcept (controlPlanes.mapM fun resource => NodeGroup.ofControlPlane resource (.text name))
  let workerGroups ← Action.ofExcept (deployments.mapM (NodeGroup.ofMachineDeployment ·))
  let templateRefs := unique ((controlPlaneGroups ++ workerGroups).map (·.templateRef))
  let configRefs := unique (workerGroups.filterMap (·.configRef))
  let machineTemplates ← Action.each Members.machineTemplate templateRefs
  let configTemplates ← Action.each Members.configTemplate configRefs
  return [cluster, providerCluster] ++ machineTemplates ++ configTemplates ++ controlPlanes ++ deployments

def collect (name ns : String) : Action (List Value) :=
  Action.within { operation := some "collect_cluster_objects", name := some (.text name) } do
    let found ← objects name ns
    Action.record (.collected found.length ns name)
    Action.ofExcept (found.mapM document)

def yaml (rule : RedactionRule) (half : Half) (name ns : String) : Action String := do
  let documents ← collect name ns
  let text ← Action.ofExcept (projectAll rule half documents)
  Action.record (.projected documents.length half.name)
  return text

end ClusterLedger.Collection
