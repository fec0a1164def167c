import ClusterLedger.Proofs.Consulting.Scripts

/-!
What an operation finds where all its calls are answered. Answers change neither the server nor, where no two
types share a key, the types by which objects are asked for; so whatever is found on the way is what there was
at the start.
-/

namespace ClusterLedger

open ClusterLedger.Action

namespace Server

variable {s after : Server}

/-- A request that is answered meets no failure, and leaves the server as it was. -/
theorem reply_of_ok {α : Type} {request : Request} {kind : Option String} {name : Option Value}
    {answer : Except Refusal α} {a : α} (ok : s.reply request kind name answer = (.ok a, after)) :
    answer = .ok a ∧ after = s := by
  unfold reply at ok
  split at ok
  · cases ok
  · cases ok
    exact ⟨rfl, rfl⟩

def Keeps (s : Server) (kind : String) (name : Value) (ns : Option String) (object : Value) : Prop :=
  ∃ body, s.object? kind name ns = some body ∧ Resource.ofValue body = .ok object

theorem get_of_ok {kind : String} {name : Value} {ns : Option String} {object : Value}
    (ok : s.get kind name ns = (.ok object, after)) : s.Keeps kind name ns object ∧ after = s := by
  obtain ⟨answer, same⟩ := reply_of_ok ok
  refine ⟨?_, same⟩
  cases found : s.object? kind name ns with
  | none => simp [found] at answer
  | some body =>
    rw [found] at answer
    exact ⟨body, found, mapError_eq_ok.mp answer⟩

def KeepsAll (s : Server) (type : String × String) (ns selector : Option String) (objects : List Value) : Prop :=
  Resource.ofItems type.1 type.2 ((s.selected type.2 ns selector).map (·.body)) = .ok objects

theorem list_of_ok {apiVersion kind : String} {ns selector : Option String} {objects : List Value}
    (ok : s.list apiVersion kind ns selector = (.ok objects, after)) :
    s.KeepsAll (apiVersion, kind) ns selector objects ∧ after = s := by
  obtain ⟨answer, same⟩ := reply_of_ok ok
  exact ⟨mapError_eq_ok.mp answer, same⟩

end Server

/-- The version and kind by which objects are asked for: those of the handle, where one is kept. -/
def Session.typeOf (s : Session) (d : Definition) : String × String :=
  match Assoc.find? d.cacheKey s.cache with
  | some handle => (handle.apiVersion, handle.kind)
  | none => (d.apiVersion, d.kind)

def Call.isDiscovery : Call → Bool
  | .discover _ => true
  | _ => false

/-- What was asked between two worlds, in order, and answered; besides, some of the types were discovered. -/
structure World.Asks (ds : List Definition) (w after : World) (asked : List Call) : Prop where
  server : after.server = w.server
  types : ∀ d ∈ ds, after.session.typeOf d = w.session.typeOf d
  calls : ∃ made, after.calls = w.calls ++ made ∧
    made.filter (fun record => !record.call.isDiscovery) = answered asked ∧
    ∀ record ∈ made, record.call.isDiscovery = true → ∃ d ∈ ds, record = ⟨.discover d, none⟩

namespace World.Asks

variable {ds : List Definition} {w between after : World} {asked later : List Call}

theorem refl (w : World) : w.Asks ds w [] :=
  ⟨rfl, fun _ _ => rfl, [], (List.append_nil _).symm, rfl, fun _ member => by cases member⟩

theorem trans (first : w.Asks ds between asked) (second : between.Asks ds after later) :
    w.Asks ds after (asked ++ later) := by
  obtain ⟨made, calls, shown, only⟩ := first.calls
  obtain ⟨more, moreCalls, moreShown, moreOnly⟩ := second.calls
  refine ⟨second.server.trans first.server,
    fun d among => (second.types d among).trans (first.types d among), made ++ more, ?_, ?_, ?_⟩
  · rw [moreCalls, calls, List.append_assoc]
  · rw [List.filter_append, shown, moreShown, answered, answered, answered, List.map_append]
  · exact List.forall_mem_append.mpr ⟨only, moreOnly⟩

theorem of_made {call : Call} (plain : call.isDiscovery = false) {server : Server} (same : server = w.server) :
    w.Asks ds (w.made ⟨call, none⟩ server) [call] := by
  refine ⟨same, fun _ _ => rfl, [⟨call, none⟩], rfl, ?_, ?_⟩
  · simp [answered, plain]
  · intro record member discovery
    rw [List.mem_singleton.mp member] at discovery
    cases plain.symm.trans discovery

end World.Asks

namespace Client

variable {ds : List Definition} {d : Definition} {w after : World}

/-- A handle is of the type that is asked for, and leaves the types as they are. -/
theorem resource_of_ok (apart : Definition.KeysApart ds) (among : d ∈ ds) {handle : Handle}
    (ok : resource d w = (.ok handle, after)) :
    (handle.apiVersion, handle.kind) = w.session.typeOf d ∧ w.Asks ds after [] := by
  have outcome := resource_outcome d w
  rw [ok] at outcome
  cases outcome with
  | cached found =>
    refine ⟨?_, .refl w⟩
    rw [Session.typeOf, found]
  | discovered absent dynamic server replied =>
    have typed : w.session.typeOf d = (d.apiVersion, d.kind) := by
      rw [Session.typeOf, absent]
    refine ⟨typed.symm, (Server.reply_of_ok replied).2, fun e other => ?_, [⟨.discover d, none⟩], rfl, rfl, ?_⟩
    · by_cases same : d.cacheKey = e.cacheKey
      · obtain rfl := apart d among e other same
        rw [typed, Session.typeOf, Assoc.find?_set_self]
      · rw [Session.typeOf, Assoc.find?_set_of_ne same, Session.typeOf]
    · intro record member _
      exact ⟨d, among, List.mem_singleton.mp member⟩

end Client

namespace World.Asks

variable {ds : List Definition} {d : Definition} {w between after : World} {asked : List Call}

theorem request {α : Type} {a : α} {meaning : Refusal → Failure} (before : w.Asks ds between asked)
    (ask : String → Call) (reply : Handle → Server → Except Refusal α × Server)
    (apart : Definition.KeysApart ds) (among : d ∈ ds) (plain : ∀ kind, (ask kind).isDiscovery = false)
    (unchanged : ∀ handle s s', reply handle s = (.ok a, s') → s' = s)
    (ok : (Client.resource d >>= fun handle => call (ask handle.kind) (reply handle) meaning) between =
      (.ok a, after)) :
    ∃ handle : Handle, w.session.typeOf d = (handle.apiVersion, handle.kind) ∧
      reply handle w.server = (.ok a, w.server) ∧ w.Asks ds after (asked ++ [ask handle.kind]) := by
  obtain ⟨handle, known, found, called⟩ := steps_of_ok ok
  obtain ⟨type, looked⟩ := Client.resource_of_ok apart among found
  obtain ⟨server, replied, rfl⟩ := ok_of_call called
  have same := unchanged _ _ _ replied
  refine ⟨handle, (before.types d among).symm.trans type.symm, ?_, ?_⟩
  · rw [same, looked.server, before.server] at replied
    exact replied
  · exact before.trans (looked.trans (.of_made (plain _) same))

theorem get (before : w.Asks ds between asked) (apart : Definition.KeysApart ds) (among : d ∈ ds) {name : Value}
    {ns : Option String} {object : Value} (ok : Client.get d name ns between = (.ok object, after)) :
    w.server.Keeps (w.session.typeOf d).2 name ns object ∧
      w.Asks ds after (asked ++ [.get (w.session.typeOf d).2 name ns]) := by
  obtain ⟨handle, type, replied, asks⟩ := before.request (.get · name ns)
    (fun handle => (Server.get · handle.kind name ns)) apart among (fun _ => rfl)
    (fun _ _ _ replied => (Server.get_of_ok replied).2) ok
  rw [type]
  exact ⟨(Server.get_of_ok replied).1, asks⟩

theorem list (before : w.Asks ds between asked) (apart : Definition.KeysApart ds) (among : d ∈ ds)
    {ns selector : Option String} {objects : List Value}
    (ok : Client.list d ns selector between = (.ok objects, after)) :
    w.server.KeepsAll (w.session.typeOf d) ns selector objects ∧
      w.Asks ds after (asked ++ [.list (w.session.typeOf d).2 ns selector]) := by
  obtain ⟨handle, type, replied, asks⟩ := before.request (.list · ns selector)
    (fun handle => (Server.list · handle.apiVersion handle.kind ns selector)) apart among (fun _ => rfl)
    (fun _ _ _ replied => (Server.list_of_ok replied).2) ok
  rw [type]
  exact ⟨(Server.list_of_ok replied).1, asks⟩

theorem each {α : Type} {name : α → Value} {ns : α → Option String} {refs : List α} {objects : List Value}
    (before : w.Asks ds between asked) (apart : Definition.KeysApart ds) (among : d ∈ ds)
    (ok : Action.each (fun ref => Client.get d (name ref) (ns ref)) refs between = (.ok objects, after)) :
    List.Forall₂ (fun ref object => w.server.Keeps (w.session.typeOf d).2 (name ref) (ns ref) object) refs objects ∧
      w.Asks ds after (asked ++ refs.map fun ref => .get (w.session.typeOf d).2 (name ref) (ns ref)) := by
  induction refs generalizing between asked objects with
  | nil =>
    cases ok
    rw [List.map_nil, List.append_nil]
    exact ⟨.nil, before⟩
  | cons ref rest ih =>
    obtain ⟨object, reached, first, later⟩ := steps_of_ok ok
    obtain ⟨others, last, fetched, ended⟩ := steps_of_ok later
    cases ended
    obtain ⟨kept, now⟩ := before.get apart among first
    obtain ⟨keptLater, since⟩ := ih now fetched
    rw [List.map_cons, List.append_cons]
    exact ⟨.cons kept keptLater, since⟩

end World.Asks
end ClusterLedger
