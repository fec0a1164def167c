import ClusterLedger.Cluster.Members

namespace ClusterLedger.Rollout

def outdated? (target : String) (machines : List Machine) : Option (Machine × String) :=
  machines.findSome? fun m => (m.version.filter (· ≠ target)).map (m, ·)

/-- Goes through groups in order and stops at the first outdated machine. -/
def reached (target : String) : List NodeGroup → Action Bool
  | [] => return true
  | group :: rest => do
    let machines ← Action.within
      { operation := some "check_version_convergence", kind := some group.kind.name,
        name := some (.text group.name) }
      (Members.instances group)
    match outdated? target machines with
    | some (m, version) => do
      Action.record (.outdated m.name group.name version target)
      return false
    | none => reached target rest

def clusterReached (name ns target : String) : Action Bool := do
  let controlPlanes ← Members.controlPlaneGroups name ns
  let workers ← Members.workerGroups name ns
  reached target (controlPlanes ++ workers)

end ClusterLedger.Rollout
