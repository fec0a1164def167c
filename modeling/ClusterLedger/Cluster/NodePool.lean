import ClusterLedger.Record.Field

namespace ClusterLedger

structure NodePool where
  name : String
  sizingPolicy : String
  placementPolicy : String
  gpuEnabled : Bool
  storageProfile : String
  diskSize : Int
  desiredReplicas : Int
  availableReplicas : Int
  /-- The phase of each machine, by its name. -/
  nodeStatus : List (String × String)
  deriving DecidableEq, Repr

def NodePool.check (fields : Fields) : Checked NodePool :=
  NodePool.mk
    <$> Field.required fields "name" Field.text
    <*> Field.withDefault "" fields "sizing_policy" Field.text
    <*> Field.withDefault "" fields "placement_policy" Field.text
    <*> Field.withDefault false fields "nvidia_gpu_enabled" Field.truth
    <*> Field.withDefault "" fields "storage_profile" Field.text
    <*> Field.withDefault 0 fields "disk_size_mb" Field.whole
    <*> Field.withDefault 0 fields "desired_replicas" Field.whole
    <*> Field.withDefault 0 fields "available_replicas" Field.whole
    <*> Field.withDefault [] fields "node_status" (Field.mapping Field.text Field.text)

def NodePool.record (p : NodePool) : Value :=
  .ofRecord [("name", .text p.name), ("sizingPolicy", .text p.sizingPolicy),
    ("placementPolicy", .text p.placementPolicy), ("nvidiaGpuEnabled", .bool p.gpuEnabled),
    ("storageProfile", .text p.storageProfile), ("diskSizeMb", .whole p.diskSize),
    ("desiredReplicas", .whole p.desiredReplicas), ("availableReplicas", .whole p.availableReplicas),
    ("nodeStatus", .ofRecord (Assoc.mapValues Value.text p.nodeStatus))]

structure Topology where
  pools : List NodePool
  deriving DecidableEq, Repr

namespace Topology

def size (t : Topology) : Nat := t.pools.length

def names (t : Topology) : List String := t.pools.map (·.name)

def get? (t : Topology) (name : String) : Option NodePool := t.pools.find? fun pool => pool.name = name

def record (t : Topology) : Value := .list (t.pools.map NodePool.record)

end Topology
end ClusterLedger
