import ClusterLedger.Api.Server
import ClusterLedger.Event

namespace ClusterLedger

/-- A resource type as it was discovered, through the client of this number. -/
structure Handle where
  apiVersion : String
  kind : String
  client : Nat
  deriving DecidableEq, Repr

inductive Call where
  | discover (d : Definition)
  | get (kind : String) (name : Value) (ns : Option String)
  | list (kind : String) (ns selector : Option String)
  | secret (name ns : String)
  | dynamicClient
  | loadInCluster
  | loadKubeconfig (path : String) (context : Option String)
  | close (client : Nat)
  deriving Repr

structure CallRecord where
  call : Call
  refusal : Option Refusal
  deriving Repr

structure Session where
  api : Option Nat
  core : Option Nat
  dynamic : Option Nat
  cache : List (String × Handle)
  deriving DecidableEq, Repr

namespace Session

def fresh : Session := ⟨none, none, none, []⟩

/-- A connection that was made elsewhere and owns no client to close. -/
def borrowed : Session := ⟨none, some 0, some 0, []⟩

def isConnected (s : Session) : Bool := s.dynamic.isSome

end Session

structure World where
  server : Server
  session : Session
  /-- The number of the next client to be built. -/
  nextClient : Nat
  calls : List CallRecord
  events : List Event

def Action (α : Type) : Type := World → Except Failure α × World

namespace Action

variable {α β : Type}

protected def pure (a : α) : Action α := fun w => (.ok a, w)

protected def bind (x : Action α) (f : α → Action β) : Action β := fun w =>
  match x w with
  | (.ok a, w) => f a w
  | (.error e, w) => (.error e, w)

instance : Monad Action where
  pure := Action.pure
  bind := Action.bind

def fail (e : Failure) : Action α := fun w => (.error e, w)

def ofExcept (r : Except Failure α) : Action α := fun w => (r, w)

def session : Action Session := fun w => (.ok w.session, w)

def setSession (s : Session) : Action Unit := fun w => (.ok (), { w with session := s })

def record (event : Event) : Action Unit := fun w => (.ok (), { w with events := w.events ++ [event] })

/-- Makes a call; how it ends is the server's part, what a refusal means is the caller's. -/
def call (c : Call) (reply : Server → Except Refusal α × Server) (meaning : Refusal → Failure) :
    Action α := fun w =>
  match reply w.server with
  | (.ok a, server) => (.ok a, { w with server, calls := w.calls ++ [⟨c, none⟩] })
  | (.error refusal, server) =>
    (.error (meaning refusal), { w with server, calls := w.calls ++ [⟨c, some refusal⟩] })

def within (context : Context) (x : Action α) : Action α := fun w =>
  match x w with
  | (.ok a, w) => (.ok a, w)
  | (.error e, w) => (.error (e.withContext context), w)

def attempt (x : Action α) : Action (Except Failure α) := fun w =>
  let (r, w) := x w
  (.ok r, w)

def each (f : α → Action β) : List α → Action (List β)
  | [] => Action.pure []
  | a :: rest => do
    let b ← f a
    let bs ← each f rest
    return b :: bs

end Action
end ClusterLedger
