namespace ClusterLedger

inductive Level where
  | debug | info | warning | error
  deriving DecidableEq, Repr

namespace Level

def name : Level → String
  | debug => "DEBUG"
  | info => "INFO"
  | warning => "WARNING"
  | error => "ERROR"

def rank : Level → Nat
  | debug => 0
  | info => 1
  | warning => 2
  | error => 3

end Level

inductive Event where
  | tracking (kind id name : String)
  | renamed (kind id old new : String)
  | stoppedTracking (kind id : String)
  | adopting (kind name id : String)
  | vanished (kind id name : String)
  | projected (count : Nat) (half : String)
  | collected (count : Nat) (ns cluster : String)
  | owned (count total : Nat) (cluster group : String)
  | aggregated (count : Nat)
  | outdated (machine group version target : String)
  | overridden (fields : List String) (ns secret : String)
  | inCluster
  | usingKubeconfig (path : String)
  | connected
  | advice (text : String)
  deriving DecidableEq, Repr

namespace Event

def level : Event → Level
  | renamed .. | adopting .. | connected => .info
  | vanished .. | advice .. => .warning
  | _ => .debug

def message : Event → String
  | tracking kind id name => s!"Tracking {kind} {id} as '{name}'"
  | renamed kind id old new => s!"{kind} {id} renamed from '{old}' to '{new}'"
  | stoppedTracking kind id => s!"Stopped tracking {kind} {id}"
  | adopting kind name id => s!"Adopting {kind} '{name}' with ID {id}; no tracked ID found"
  | vanished kind id name =>
    s!"{kind} {id} ('{name}') no longer exists; removing it from the resource map"
  | projected count half => s!"Projected {count} documents ({half})"
  | collected count ns cluster => s!"Collected {count} objects for cluster {ns}/{cluster}"
  | owned count total cluster group =>
    s!"{count} of {total} machines in cluster {cluster} belong to control plane {group}"
  | aggregated count => s!"Aggregated {count} node pools"
  | outdated machine group version target =>
    s!"Machine {machine} in {group} is at {version}, waiting for {target}"
  | overridden fields ns secret =>
    let quoted := fields.map fun field => s!"'{field}'"
    let list := ", ".intercalate quoted
    s!"Using [{list}] from secret {ns}/{secret}"
  | inCluster => "Using in-cluster configuration"
  | usingKubeconfig path => s!"Using kubeconfig {path}"
  | connected => "Connected to management cluster"
  | advice text => text

end Event

def Event.visible (threshold : Level) (events : List Event) : List Event :=
  events.filter fun event => threshold.rank ≤ event.level.rank

end ClusterLedger
