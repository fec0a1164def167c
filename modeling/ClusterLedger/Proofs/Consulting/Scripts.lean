import ClusterLedger.Proofs.Connection.Operations
import ClusterLedger.Proofs.Consulting.Readiness

/-!
The script of a request: the calls that it makes as long as they are answered. For objects it is one call,
after that for their type, unless the type is known. A request keeps to its script, and where a call is
refused it goes no further.
-/

namespace ClusterLedger

open ClusterLedger.Action

def answered (script : List Call) : List CallRecord := script.map fun call => ⟨call, none⟩

inductive StopsAtRefusal : List Call → List CallRecord → Prop
  | here (call : Call) (refusal : Refusal) (unmade : List Call) :
      StopsAtRefusal (call :: unmade) [⟨call, some refusal⟩]
  | later (call : Call) {script : List Call} {made : List CallRecord} (rest : StopsAtRefusal script made) :
      StopsAtRefusal (call :: script) (⟨call, none⟩ :: made)

namespace Client

variable {α : Type}

def script (d : Definition) (ask : String → Call) (s : Session) : List Call :=
  match Assoc.find? d.cacheKey s.cache with
  | some handle => [ask handle.kind]
  | none => [.discover d, ask d.kind]

inductive RequestOutcome {α : Type} (script : List Call) (s : Session) :
    List CallRecord → Except Failure α → Prop
  | answered (a : α) : RequestOutcome script s (answered script) (.ok a)
  | refused {made : List CallRecord} (stops : StopsAtRefusal script made) (failure : Failure) :
      RequestOutcome script s made (.error failure)
  | unconnected (unconnected : s.isConnected = false) : RequestOutcome script s [] (.error notConnected)

namespace RequestOutcome

variable {script : List Call} {s : Session} {made : List CallRecord}

theorem made_of_ok {a : α} (outcome : RequestOutcome script s made (.ok a)) :
    made = ClusterLedger.answered script := by
  cases outcome
  rfl

/-- For a client with a connection nothing but a refused call is in the way of an answer. -/
theorem stops_of_error {failure : Failure} (connected : s.isConnected = true)
    (outcome : RequestOutcome script s made (.error failure : Except Failure α)) :
    StopsAtRefusal script made := by
  cases outcome with
  | refused stops => exact stops
  | unconnected unconnected =>
    rw [connected] at unconnected
    cases unconnected

end RequestOutcome

theorem request_outcome (d : Definition) (ask : String → Call)
    (reply : Handle → Server → Except Refusal α × Server) (meaning : Refusal → Failure) (w : World) :
    let request := resource d >>= fun handle => call (ask handle.kind) (reply handle) meaning
    ∃ made, (request w).2.calls = w.calls ++ made ∧
      RequestOutcome (script d ask w.session) w.session made (request w).1 := by
  intro request
  have outcome := resource_outcome d w
  rcases reached : resource d w with ⟨failure | handle, known⟩
  · have failed : request w = (.error failure, known) := bind_of_error reached
    rw [failed]
    rw [reached] at outcome
    cases outcome with
    | unconnected absent unconnected =>
      refine ⟨[], (List.append_nil _).symm, .unconnected ?_⟩
      rw [Session.isConnected, unconnected]
      rfl
    | refused absent dynamic refusal server replied =>
      refine ⟨[⟨.discover d, some refusal⟩], rfl, .refused ?_ _⟩
      rw [script, absent]
      exact .here (.discover d) refusal [ask d.kind]
  · have asked : request w = call (ask handle.kind) (reply handle) meaning known := bind_of_ok reached
    rw [asked]
    rw [reached] at outcome
    rcases call_cases (ask handle.kind) (reply handle) meaning known with
      ⟨a, server, _, made⟩ | ⟨refusal, server, _, made⟩
    · rw [made]
      cases outcome with
      | cached found =>
        refine ⟨ClusterLedger.answered [ask handle.kind], rfl, ?_⟩
        rw [script, found]
        exact .answered a
      | @discovered client absent dynamic _ _ =>
        refine ⟨ClusterLedger.answered [.discover d, ask d.kind], List.append_assoc _ _ _, ?_⟩
        rw [script, absent]
        exact .answered a
    · rw [made]
      cases outcome with
      | cached found =>
        refine ⟨[⟨ask handle.kind, some refusal⟩], rfl, .refused ?_ _⟩
        rw [script, found]
        exact .here (ask handle.kind) refusal []
      | discovered absent dynamic _ _ =>
        refine ⟨[⟨.discover d, none⟩, ⟨ask d.kind, some refusal⟩], List.append_assoc _ _ _, .refused ?_ _⟩
        rw [script, absent]
        exact .later (.discover d) (.here (ask d.kind) refusal [])

theorem get_outcome (d : Definition) (name : Value) (ns : Option String) (w : World) :
    ∃ made, (get d name ns w).2.calls = w.calls ++ made ∧
      RequestOutcome (script d (.get · name ns) w.session) w.session made (get d name ns w).1 :=
  request_outcome d (.get · name ns) (fun handle => (Server.get · handle.kind name ns)) _ w

theorem list_outcome (d : Definition) (ns selector : Option String) (w : World) :
    ∃ made, (list d ns selector w).2.calls = w.calls ++ made ∧
      RequestOutcome (script d (.list · ns selector) w.session) w.session made (list d ns selector w).1 :=
  request_outcome d (.list · ns selector)
    (fun handle => (Server.list · handle.apiVersion handle.kind ns selector)) _ w

theorem maintains_connected_resource (d : Definition) :
    Maintains (fun s => s.isConnected = true) (resource d) := by
  intro w connected
  have outcome := resource_outcome d w
  generalize resource d w = result at outcome ⊢
  cases outcome <;> exact connected

end Client

theorem Action.Consults.maintains_connected {α : Type} {ds : List Definition} {x : Action α}
    (consults : Consults ds x) : Maintains (fun s => s.isConnected = true) x :=
  consults.maintains fun d _ => Client.maintains_connected_resource d

namespace Members

def templateScript (ref : ObjectReference) (s : Session) : List Call :=
  Client.script .machineTemplate (.get · (.text ref.name) ref.ns) s

theorem template_outcome (ref : ObjectReference) (w : World) :
    ∃ made, (machineTemplate ref w).2.calls = w.calls ++ made ∧
      Client.RequestOutcome (templateScript ref w.session) w.session made (machineTemplate ref w).1 :=
  Client.get_outcome .machineTemplate (.text ref.name) ref.ns w

def machineScript (group : NodeGroup) (s : Session) : List Call :=
  Client.script .machine (.list · (some group.ns) (some (selector group))) s

/--
How the machines of a group are listed. Machines that cannot be read, other than a request that is
refused, fail when all calls have been answered.
-/
inductive ListingOutcome (group : NodeGroup) (s : Session) :
    List CallRecord → Except Failure (List Machine) → Prop
  | listed (machines : List Machine) :
      ListingOutcome group s (answered (machineScript group s)) (.ok machines)
  | unread (failure : Failure) :
      ListingOutcome group s (answered (machineScript group s)) (.error failure)
  | refused {made : List CallRecord} (stops : StopsAtRefusal (machineScript group s) made)
      (failure : Failure) : ListingOutcome group s made (.error failure)
  | unconnected (unconnected : s.isConnected = false) :
      ListingOutcome group s [] (.error Client.notConnected)

namespace ListingOutcome

variable {group : NodeGroup} {s : Session} {made : List CallRecord}

theorem made_of_ok {machines : List Machine} (outcome : ListingOutcome group s made (.ok machines)) :
    made = answered (machineScript group s) := by
  cases outcome
  rfl

theorem followed_of_error {failure : Failure} (connected : s.isConnected = true)
    (outcome : ListingOutcome group s made (.error failure)) :
    StopsAtRefusal (machineScript group s) made ∨ made = answered (machineScript group s) := by
  cases outcome with
  | unread => exact .inr rfl
  | refused stops => exact .inl stops
  | unconnected unconnected =>
    rw [connected] at unconnected
    cases unconnected

end ListingOutcome

theorem instances_of_listed {group : NodeGroup} {w after : World} {resources : List Value}
    (listed : Client.list .machine (some group.ns) (some (selector group)) w = (.ok resources, after)) :
    (instances group w).2.calls = after.calls := by
  unfold instances
  rw [bind_of_ok listed]
  cases resources.mapM Machine.ofResource with
  | error failure => rfl
  | ok machines => cases group.kind <;> rfl

theorem listing_outcome (group : NodeGroup) (w : World) :
    ∃ made, (instances group w).2.calls = w.calls ++ made ∧
      ListingOutcome group w.session made (instances group w).1 := by
  obtain ⟨made, calls, outcome⟩ :=
    Client.list_outcome .machine (some group.ns) (some (selector group)) w
  rcases listed : Client.list .machine (some group.ns) (some (selector group)) w with
    ⟨failure | resources, after⟩
  · rw [listed] at calls outcome
    have failed : instances group w = (.error failure, after) := bind_of_error listed
    rw [failed]
    refine ⟨made, calls, ?_⟩
    cases outcome with
    | refused stops => exact .refused stops failure
    | unconnected unconnected => exact .unconnected unconnected
  · rw [listed] at calls outcome
    refine ⟨made, (instances_of_listed listed).trans calls, ?_⟩
    rw [outcome.made_of_ok]
    cases (instances group w).1 with
    | error failure => exact .unread failure
    | ok machines => exact .listed machines

end Members
end ClusterLedger
