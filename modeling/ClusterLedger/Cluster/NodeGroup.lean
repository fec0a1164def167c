import ClusterLedger.Api.Label
import ClusterLedger.Cluster.Reference

namespace ClusterLedger

inductive GroupKind where
  | controlPlane | worker
  deriving DecidableEq, Repr

namespace GroupKind

def name : GroupKind → String
  | controlPlane => "KubeadmControlPlane"
  | worker => "MachineDeployment"

def choices : List (String × GroupKind) := [(controlPlane.name, controlPlane), (worker.name, worker)]

end GroupKind

structure NodeGroup where
  kind : GroupKind
  name : String
  ns : String
  clusterName : String
  /-- The declared count of machines, if one is declared. -/
  replicas : Option Int
  readyReplicas : Int
  templateRef : ObjectReference
  /-- Only worker groups have a template of their configuration. -/
  configRef : Option ObjectReference
  deriving DecidableEq, Repr

namespace NodeGroup

def checkWith (fields : Fields) (templateRef : Checked ObjectReference)
    (configRef : Checked (Option ObjectReference)) : Checked NodeGroup :=
  NodeGroup.mk
    <$> Field.required fields "kind" (Field.choice GroupKind.choices)
    <*> Field.required fields "name" Field.text
    <*> Field.required fields "namespace" Field.text
    <*> Field.required fields "cluster_name" Field.text
    <*> Field.withDefault none fields "replicas" (Field.optional Field.whole)
    <*> Field.withDefault 0 fields "ready_replicas" Field.whole
    <*> templateRef
    <*> configRef

theorem checkWith_of (kind name ns clusterName replicas readyReplicas : Value) (templateRef : Checked ObjectReference)
    (configRef : Checked (Option ObjectReference)) :
    checkWith (Field.ofList [("kind", kind), ("name", name), ("namespace", ns), ("cluster_name", clusterName),
        ("replicas", replicas), ("ready_replicas", readyReplicas)]) templateRef configRef =
      (NodeGroup.mk <$> (Field.choice GroupKind.choices kind).under "kind"
        <*> (Field.text name).under "name"
        <*> (Field.text ns).under "namespace"
        <*> (Field.text clusterName).under "cluster_name"
        <*> (Field.optional Field.whole replicas).under "replicas"
        <*> (Field.whole readyReplicas).under "ready_replicas"
        <*> templateRef
        <*> configRef) := rfl

def check (fields : Fields) : Checked NodeGroup :=
  checkWith fields
    (Field.required fields "template_ref" (Field.record ObjectReference.check))
    (Field.withDefault none fields "config_ref" (Field.optional (Field.record ObjectReference.check)))

def assemble (kind : GroupKind) (name ns clusterName replicas readyReplicas : Value)
    (templateRef : ObjectReference) (configRef : Option ObjectReference) (guise : Guise := .client) :
    Except Failure NodeGroup :=
  (checkWith
    (Field.ofList [("kind", .text kind.name), ("name", name), ("namespace", ns),
      ("cluster_name", clusterName), ("replicas", replicas),
      ("ready_replicas", guise.orElse readyReplicas (.whole 0))])
    (.accepted templateRef) (.accepted configRef)).toExcept

def ofMachineDeployment (resource : Value) (guise : Guise := .client) : Except Failure NodeGroup := do
  let metadata ← Resource.field resource "metadata"
  let spec := Resource.part resource "spec"
  let status := Resource.part resource "status"
  let labels := (← Resource.field metadata "labels").orElse (.map [])
  let template ← Resource.getOr spec "template" (.map []) guise
  let machineSpec ← Resource.getOr template "spec" (.map []) guise
  let bootstrap ← Resource.getOr machineSpec "bootstrap" (.map []) guise
  let configRef ← Resource.get bootstrap "configRef" guise
  let name ← Resource.field metadata "name"
  let ns ← Resource.field metadata "namespace"
  let declared ← Resource.get spec "clusterName" guise
  let clusterName ←
    if guise.counts declared then pure declared
    else Resource.getOr labels Label.clusterName (.text "") guise
  let replicas ← Resource.get spec "replicas" guise
  let readyReplicas ← Resource.get status "readyReplicas" guise
  let infrastructureRef ← Resource.getOr machineSpec "infrastructureRef" (.map []) guise
  let templateRef ← ObjectReference.read infrastructureRef ns guise
  let configRef ←
    if guise.counts configRef then some <$> ObjectReference.read configRef ns guise
    else pure none
  assemble .worker name ns clusterName replicas readyReplicas templateRef configRef guise

def ofControlPlane (resource clusterName : Value) (guise : Guise := .client) : Except Failure NodeGroup := do
  let metadata ← Resource.field resource "metadata"
  let spec := Resource.part resource "spec"
  let status := Resource.part resource "status"
  let machineTemplate ← Resource.getOr spec "machineTemplate" (.map []) guise
  let infrastructureRef ← Resource.getOr machineTemplate "infrastructureRef" (.map []) guise
  let name ← Resource.field metadata "name"
  let ns ← Resource.field metadata "namespace"
  let replicas ← Resource.get spec "replicas" guise
  let readyReplicas ← Resource.get status "readyReplicas" guise
  let templateRef ← ObjectReference.read infrastructureRef ns guise
  assemble .controlPlane name ns clusterName replicas readyReplicas templateRef none guise

end NodeGroup
end ClusterLedger
