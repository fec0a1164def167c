import ClusterLedger.Api.Definition
import ClusterLedger.Api.Label
import ClusterLedger.Resource

namespace ClusterLedger

structure StoredObject where
  kind : String
  ns : Option String
  name : String
  labels : Labels
  body : Value

structure StoredSecret where
  name : String
  ns : String
  data : Value

inductive Request where
  | discover | get | list | secret | connect
  deriving DecidableEq, Repr

inductive Refusal where
  | refused (status : Option Int) (reason : Option String)
  | unreachable (text : String)
  | notServed (apiVersion : String)
  | unloadable (text : String)
  | failing (failure : Failure)
  deriving Repr

/-- A failure to come: which requests it meets, and how often, if not always. -/
structure FailureRule where
  request : Request
  kind : Option String
  name : Option String
  times : Option Int
  refusal : Refusal
  deriving Repr

namespace FailureRule

def meets (r : FailureRule) (request : Request) (kind : Option String) (name : Option Value) : Bool :=
  r.request = request && r.times ≠ some 0 && r.kind.all (fun k => kind = some k) &&
    r.name.all fun n =>
      match name with
      | some (.text m) => n = m
      | _ => false

def spent (r : FailureRule) : FailureRule := { r with times := r.times.map (· - 1) }

def fire (request : Request) (kind : Option String) (name : Option Value) :
    List FailureRule → Option (Refusal × List FailureRule)
  | [] => none
  | r :: rest =>
    if r.meets request kind name then some (r.refusal, r.spent :: rest)
    else (fire request kind name rest).map fun (refusal, rules) => (refusal, r :: rules)

end FailureRule

structure Server where
  objects : List StoredObject
  secrets : List StoredSecret
  notServed : List String
  failures : List FailureRule
  /-- Why access from inside the cluster cannot be set up, if it cannot. -/
  inClusterFault : Option String
  /-- Why access by an access file cannot be set up, if it cannot. -/
  kubeconfigFault : Option String

namespace Server

def notFound : Refusal := .refused (some 404) (some "Not Found")

def reply {α : Type} (s : Server) (request : Request) (kind : Option String) (name : Option Value)
    (answer : Except Refusal α) : Except Refusal α × Server :=
  match FailureRule.fire request kind name s.failures with
  | some (refusal, rules) => (.error refusal, { s with failures := rules })
  | none => (answer, s)

def loadInCluster (s : Server) : Except Refusal Unit × Server :=
  (s.inClusterFault.elim (.ok ()) fun text => .error (.unloadable text), s)

def loadKubeconfig (s : Server) : Except Refusal Unit × Server :=
  (s.kubeconfigFault.elim (.ok ()) fun text => .error (.unloadable text), s)

def connect (s : Server) : Except Refusal Unit × Server := s.reply .connect none none (.ok ())

def discover (s : Server) (apiVersion kind : String) : Except Refusal Unit × Server :=
  s.reply .discover (some kind) none
    (if s.notServed.contains kind then .error (.notServed apiVersion) else .ok ())

def object? (s : Server) (kind : String) (name : Value) (ns : Option String) : Option Value :=
  (s.objects.find? fun o =>
    o.kind = kind && o.ns = ns &&
      match name with
      | .text n => o.name = n
      | _ => false).map (·.body)

def get (s : Server) (kind : String) (name : Value) (ns : Option String) :
    Except Refusal Value × Server :=
  s.reply .get (some kind) name.toOption
    ((s.object? kind name ns).elim (.error notFound) fun body =>
      (Resource.ofValue body).mapError .failing)

def selected (s : Server) (kind : String) (ns selector : Option String) : List StoredObject :=
  s.objects.filter fun o =>
    o.kind = kind && ns.all (fun n => o.ns = some n) && selector.all (Selector.holds · o.labels)

def list (s : Server) (apiVersion kind : String) (ns selector : Option String) :
    Except Refusal (List Value) × Server :=
  s.reply .list (some kind) none
    ((Resource.ofItems apiVersion kind ((s.selected kind ns selector).map (·.body))).mapError .failing)

def secretData? (s : Server) (name ns : String) : Option Value :=
  (s.secrets.find? fun secret => secret.name = name && secret.ns = ns).map (·.data)

def secret (s : Server) (name ns : String) : Except Refusal Value × Server :=
  s.reply .secret (some "Secret") (some (.text name))
    ((s.secretData? name ns).elim (.error notFound) .ok)

def putObjects (s : Server) (new : List StoredObject) : Server :=
  { s with
    objects := s.objects.filter (fun o =>
      !new.any fun n => n.kind = o.kind && n.ns = o.ns && n.name = o.name) ++ new }

def putSecrets (s : Server) (new : List StoredSecret) : Server :=
  { s with
    secrets := s.secrets.filter (fun o => !new.any fun n => n.ns = o.ns && n.name = o.name) ++ new }

def deleteObject (s : Server) (kind : String) (ns : Option String) (name : String) : Server :=
  { s with objects := s.objects.filter fun o => !(o.kind = kind && o.ns = ns && o.name = name) }

end Server
end ClusterLedger
