import ClusterLedger.Action
import ClusterLedger.Settings

namespace ClusterLedger

def Refusal.toFailure (operation kind : String) (name : Option Value) (ns : Option String) :
    Refusal → Failure
  | .refused status reason =>
    if status = some 404 then .fault (Fault.notFound kind name ns none (some operation))
    else
      .ofCause (.interrupted (.refused status reason)) { operation := some operation, kind, name }
  | .unreachable text =>
    .ofCause (.interrupted (.unreachable text)) { operation := some operation, kind, name }
  | .unloadable text => .misconfigured (.unloadable text)
  | .notServed apiVersion => .misconfigured (.notServed kind apiVersion) { kind := some kind }
  | .failing failure => failure

namespace Client

def connectFailure : Refusal → Failure := Refusal.toFailure "connect" "APIDiscovery" none none

def loadInCluster : Action Unit := Action.call .loadInCluster Server.loadInCluster connectFailure

def loadKubeconfig (host : Host) (settings : Settings) : Action String := do
  let path := (← Action.ofExcept (settings.accessPath host)).text
  Action.call (.loadKubeconfig path settings.kubeconfigContext) Server.loadKubeconfig connectFailure
  return path

/-- Sets up access in the way the settings ask for; `auto` tries both. -/
def loadAccess (host : Host) (settings : Settings) : Action Unit := do
  match settings.authMode with
  | .inCluster => loadInCluster
  | .kubeconfig => let _ ← loadKubeconfig host settings
  | .auto =>
    match ← Action.attempt loadInCluster with
    | .ok () => Action.record .inCluster
    | .error _ =>
      let path ← loadKubeconfig host settings
      Action.record (.usingKubeconfig path)

def build : Action Nat := fun w => (.ok w.nextClient, { w with nextClient := w.nextClient + 1 })

def connect (host : Host) (settings : Settings) : Action Unit := do
  loadAccess host settings
  let client ← build
  Action.setSession { ← Action.session with api := some client, core := some client }
  Action.call .dynamicClient Server.connect connectFailure
  Action.setSession { ← Action.session with dynamic := some client }
  Action.record .connected

/-- Closes the client, if there is one of our own, and forgets all that came through it. -/
def disconnect : Action Unit := do
  match (← Action.session).api with
  | some client => Action.call (.close client) (fun server => (.ok (), server)) connectFailure
  | none => pure ()
  Action.setSession .fresh

def notConnected : Failure := .badState .notConnected

def discover (d : Definition) : Action Handle := do
  match (← Action.session).dynamic with
  | none => Action.fail notConnected
  | some client =>
    Action.call (.discover d) (Server.discover · d.apiVersion d.kind)
      (Refusal.toFailure "discover" d.kind none none)
    return ⟨d.apiVersion, d.kind, client⟩

def resource (d : Definition) : Action Handle := do
  match Assoc.find? d.cacheKey (← Action.session).cache with
  | some handle => return handle
  | none =>
    let handle ← discover d
    let s ← Action.session
    Action.setSession { s with cache := Assoc.set d.cacheKey handle s.cache }
    return handle

def get (d : Definition) (name : Value) (ns : Option String) : Action Value := do
  let handle ← resource d
  Action.call (.get handle.kind name ns) (Server.get · handle.kind name ns)
    (Refusal.toFailure "get" d.kind name.toOption ns)

def list (d : Definition) (ns selector : Option String) : Action (List Value) := do
  let handle ← resource d
  Action.call (.list handle.kind ns selector)
    (Server.list · handle.apiVersion handle.kind ns selector) (Refusal.toFailure "list" d.kind none ns)

def secret (name ns : String) : Action Value := do
  match (← Action.session).core with
  | none => Action.fail notConnected
  | some _ =>
    Action.call (.secret name ns) (Server.secret · name ns)
      (Refusal.toFailure "get" "Secret" (some (.text name)) (some ns))

end Client
end ClusterLedger
