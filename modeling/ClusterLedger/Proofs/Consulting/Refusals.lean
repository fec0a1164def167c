import ClusterLedger.Proofs.Connection.Handles
import ClusterLedger.Proofs.Consulting.Operations
import ClusterLedger.Proofs.Failures

namespace ClusterLedger

open ClusterLedger.Action

structure Subject where
  operation : String
  kind : String
  name : Option Value
  ns : Option String

/--
What the calls of an operation are about. Objects are asked for by the kind in the handle that is cached
for a definition; what is told of them is the kind in the definition.
-/
inductive Call.About (ds : List Definition) (cache : List (String × Handle)) : Call → Subject → Prop
  | discover {d : Definition} (among : d ∈ ds) :
      About ds cache (.discover d) ⟨"discover", d.kind, none, none⟩
  | get {d : Definition} {handle : Handle} (among : d ∈ ds)
      (cached : Assoc.find? d.cacheKey cache = some handle) (name : Value) (ns : Option String) :
      About ds cache (.get handle.kind name ns) ⟨"get", d.kind, name.toOption, ns⟩
  | list {d : Definition} {handle : Handle} (among : d ∈ ds)
      (cached : Assoc.find? d.cacheKey cache = some handle) (ns selector : Option String) :
      About ds cache (.list handle.kind ns selector) ⟨"list", d.kind, none, ns⟩
  | secret (name ns : String) :
      About ds cache (.secret name ns) ⟨"get", "Secret", some (.text name), some ns⟩

namespace Subject

def context (s : Subject) : Context :=
  { operation := some s.operation, kind := some s.kind, name := s.name }

end Subject

inductive Refusal.ReportedAs (s : Subject) : Refusal → Failure → Prop
  | gone (reason : Option String) :
      ReportedAs s (.refused (some 404) reason)
        (.fault ⟨.notFound s.kind ((s.name.map Value.shown).getD "None") s.ns, s.context⟩)
  | refused {status : Option Int} (other : status ≠ some 404) (reason : Option String) :
      ReportedAs s (.refused status reason)
        (.fault ⟨.interrupted (.refused status reason), s.context⟩)
  | unreachable (text : String) :
      ReportedAs s (.unreachable text) (.fault ⟨.interrupted (.unreachable text), s.context⟩)
  | notServed (apiVersion : String) :
      ReportedAs s (.notServed apiVersion)
        (.fault ⟨.misconfigured (.notServed s.kind apiVersion), { kind := some s.kind }⟩)
  | unloadable (text : String) :
      ReportedAs s (.unloadable text) (.fault ⟨.misconfigured (.unloadable text), {}⟩)
  | failing (failure : Failure) : ReportedAs s (.failing failure) failure

theorem Refusal.reportedAs_toFailure (refusal : Refusal) (s : Subject) :
    refusal.ReportedAs s (refusal.toFailure s.operation s.kind s.name s.ns) := by
  cases refusal with
  | refused status reason =>
    by_cases gone : status = some 404
    · subst gone
      obtain ⟨operation, kind, name, ns⟩ := s
      cases name with
      | none => exact .gone reason
      | some name => exact .gone reason
    · rw [toFailure, if_neg gone]
      exact .refused gone reason
  | unreachable text => exact .unreachable text
  | notServed apiVersion => exact .notServed apiVersion
  | unloadable text => exact .unloadable text
  | failing failure => exact .failing failure

/-- How an action ends after the calls that it made: of these at most the last one was refused. -/
inductive Ending {α : Type} (ds : List Definition) (cache : List (String × Handle)) :
    List CallRecord → Except Failure α → Prop
  | answered {made : List CallRecord} (answered : ∀ record ∈ made, record.refusal = none)
      (result : Except Failure α) : Ending ds cache made result
  | refused {earlier : List CallRecord} (answered : ∀ record ∈ earlier, record.refusal = none)
      {call : Call} {refusal : Refusal} {subject : Subject} {reported raised : Failure}
      (about : call.About ds cache subject) (report : refusal.ReportedAs subject reported)
      (passed : reported.PassedOn raised) :
      Ending ds cache (earlier ++ [⟨call, some refusal⟩]) (.error raised)

namespace Ending

variable {α β : Type} {ds : List Definition} {cache : List (String × Handle)}
  {made earlier : List CallRecord} {result : Except Failure α}

theorem of_ok {a : α} (ending : Ending ds cache made (.ok a)) :
    ∀ record ∈ made, record.refusal = none := by
  cases ending with
  | answered answered => exact answered

theorem of_error {failure : Failure} (ending : Ending ds cache made (.error failure : Except Failure α)) :
    Ending ds cache made (.error failure : Except Failure β) := by
  cases ending with
  | answered answered => exact .answered answered _
  | refused answered about report passed => exact .refused answered about report passed

theorem after (answered : ∀ record ∈ earlier, record.refusal = none)
    (ending : Ending ds cache made result) : Ending ds cache (earlier ++ made) result := by
  cases ending with
  | answered later => exact .answered (List.forall_mem_append.mpr ⟨answered, later⟩) result
  | refused later about report passed =>
    rw [← List.append_assoc]
    exact .refused (List.forall_mem_append.mpr ⟨answered, later⟩) about report passed

end Ending

namespace Action

variable {α β : Type} {ds : List Definition} {x : Action α} {f : α → Action β} {w : World}

def EndsAtRefusal (ds : List Definition) (x : Action α) (w : World) : Prop :=
  ∃ made, (x w).2.calls = w.calls ++ made ∧ Ending ds (x w).2.session.cache made (x w).1

theorem endsAtRefusal_of_calls (calls : (x w).2.calls = w.calls) : EndsAtRefusal ds x w := by
  refine ⟨[], ?_, .answered (fun _ none => absurd none List.not_mem_nil) _⟩
  rw [calls, List.append_nil]

theorem endsAtRefusal_bind (first : EndsAtRefusal ds x w)
    (next : ∀ a after, x w = (.ok a, after) → EndsAtRefusal ds (f a) after) :
    EndsAtRefusal ds (x >>= f) w := by
  obtain ⟨made, calls, ending⟩ := first
  rcases outcome : x w with ⟨failure | a, after⟩
  · rw [outcome] at calls ending
    refine ⟨made, ?_, ?_⟩
    · rw [bind_of_error outcome]
      exact calls
    · rw [bind_of_error outcome]
      exact ending.of_error
  · obtain ⟨later, moreCalls, rest⟩ := next a after outcome
    rw [outcome] at calls ending
    refine ⟨made ++ later, ?_, ?_⟩
    · rw [bind_of_ok outcome, moreCalls, calls, List.append_assoc]
    · rw [bind_of_ok outcome]
      exact rest.after ending.of_ok

theorem endsAtRefusal_within (context : Context) (inner : EndsAtRefusal ds x w) :
    EndsAtRefusal ds (within context x) w := by
  obtain ⟨made, calls, ending⟩ := inner
  unfold EndsAtRefusal within
  rcases outcome : x w with ⟨failure | a, after⟩
  · rw [outcome] at calls ending
    refine ⟨made, calls, ?_⟩
    cases ending with
    | answered answered => exact .answered answered _
    | refused answered about report passed =>
      exact .refused answered about report (passed.withContext context)
  · rw [outcome] at calls ending
    exact ⟨made, calls, ending⟩

theorem endsAtRefusal_call {c : Call} {subject : Subject} (about : c.About ds w.session.cache subject)
    (reply : Server → Except Refusal α × Server) :
    EndsAtRefusal ds
      (call c reply (Refusal.toFailure subject.operation subject.kind subject.name subject.ns)) w := by
  unfold EndsAtRefusal
  rcases call_cases c reply (Refusal.toFailure subject.operation subject.kind subject.name subject.ns) w
    with ⟨a, server, _, made⟩ | ⟨refusal, server, _, made⟩
  · rw [made]
    exact ⟨[⟨c, none⟩], rfl, .answered (fun record only => by rw [List.mem_singleton.mp only]) _⟩
  · rw [made]
    have none : ∀ record ∈ ([] : List CallRecord), record.refusal = none := fun _ none => by cases none
    exact ⟨[⟨c, some refusal⟩], rfl, .refused none about (refusal.reportedAs_toFailure subject) (.same _)⟩

end Action

namespace Client

variable {ds : List Definition}

theorem cached_of_resource {d : Definition} {w after : World} {handle : Handle}
    (found : resource d w = (.ok handle, after)) :
    Assoc.find? d.cacheKey after.session.cache = some handle := by
  have outcome := resource_outcome d w
  rw [found] at outcome
  cases outcome with
  | cached present => exact present
  | discovered => exact Assoc.find?_set_self _ _ _

theorem endsAtRefusal_resource {d : Definition} (among : d ∈ ds) (w : World) :
    EndsAtRefusal ds (resource d) w := by
  have outcome := resource_outcome d w
  unfold EndsAtRefusal
  generalize resource d w = result at outcome ⊢
  cases outcome with
  | cached found => exact ⟨[], (List.append_nil _).symm, .answered (fun _ none => by cases none) _⟩
  | unconnected => exact ⟨[], (List.append_nil _).symm, .answered (fun _ none => by cases none) _⟩
  | refused absent dynamic refusal server =>
    have none : ∀ record ∈ ([] : List CallRecord), record.refusal = none := fun _ none => by cases none
    let subject : Subject := ⟨"discover", d.kind, .none, .none⟩
    have report := refusal.reportedAs_toFailure subject
    exact ⟨[⟨.discover d, some refusal⟩], rfl, .refused none (.discover among) report (.same _)⟩
  | discovered absent dynamic server =>
    refine ⟨[⟨.discover d, none⟩], rfl, .answered (fun record only => ?_) _⟩
    rw [List.mem_singleton.mp only]

theorem endsAtRefusal_get {d : Definition} (among : d ∈ ds) (name : Value) (ns : Option String)
    (w : World) : EndsAtRefusal ds (get d name ns) w := by
  refine endsAtRefusal_bind (endsAtRefusal_resource among w) fun handle after found => ?_
  exact endsAtRefusal_call (.get among (cached_of_resource found) name ns) _

theorem endsAtRefusal_list {d : Definition} (among : d ∈ ds) (ns selector : Option String) (w : World) :
    EndsAtRefusal ds (list d ns selector) w := by
  refine endsAtRefusal_bind (endsAtRefusal_resource among w) fun handle after found => ?_
  exact endsAtRefusal_call (.list among (cached_of_resource found) ns selector) _

theorem endsAtRefusal_secret (name ns : String) (w : World) : EndsAtRefusal ds (secret name ns) w := by
  refine endsAtRefusal_bind (endsAtRefusal_of_calls rfl) fun session after _ => ?_
  cases session.core with
  | none => exact endsAtRefusal_of_calls rfl
  | some _ => exact endsAtRefusal_call (.secret name ns) _

end Client

namespace Action

/-- Whatever an operation asks, it goes on until a call is refused, and ends there. -/
theorem Consults.endsAtRefusal {α : Type} {ds : List Definition} {x : Action α} (consults : Consults ds x)
    (w : World) : EndsAtRefusal ds x w := by
  induction consults generalizing w with
  | result r => exact endsAtRefusal_of_calls rfl
  | record event => exact endsAtRefusal_of_calls rfl
  | get among name ns => exact Client.endsAtRefusal_get among name ns w
  | list among ns selector => exact Client.endsAtRefusal_list among ns selector w
  | secret name ns => exact Client.endsAtRefusal_secret name ns w
  | bind first next ihFirst ihNext => exact endsAtRefusal_bind (ihFirst w) fun a after _ => ihNext a after
  | within context inner ih => exact endsAtRefusal_within context (ih w)

end Action

namespace Inspection

/--
A call that is refused is the last one of its operation, and the only one refused. The operation ends in
the failure that the refusal is reported as, of which outer layers keep everything but empty context.
-/
theorem refused_call_ends (r : Reconciler) (i : Inspection) (w : World) {call : Call} {refusal : Refusal}
    (refused : ⟨call, some refusal⟩ ∈ w.traffic (i.perform r w).2) :
    let after := (i.perform r w).2
    (∃ earlier, after.calls = w.calls ++ (earlier ++ [⟨call, some refusal⟩]) ∧
      ∀ record ∈ earlier, record.refusal = none) ∧
    ∃ subject reported raised, call.About i.definitions after.session.cache subject ∧
      refusal.ReportedAs subject reported ∧ reported.PassedOn raised ∧
      (i.perform r w).1 = .error raised := by
  intro after
  obtain ⟨made, calls, ending⟩ := (i.consults r).endsAtRefusal w
  rw [World.traffic_of_append calls] at refused
  generalize outcome : (i.perform r w).1 = result at ending
  cases ending with
  | answered answered => cases answered _ refused
  | @refused earlier answered _ _ subject reported raised about report passed =>
    rcases List.mem_append.mp refused with before | last
    · cases answered _ before
    · cases List.mem_singleton.mp last
      exact ⟨⟨earlier, calls, answered⟩, subject, reported, raised, about, report, passed, rfl⟩

theorem refused_call_ends_provider_cluster :
    let r : Reconciler := ⟨.inCluster, .bare, none⟩
    let stored : StoredObject :=
      ⟨"Cluster", some "clusters", "demo", [], .ofRecord [("kind", .text "Cluster")]⟩
    let refusal : Refusal := .refused (some 503) (some "Service Unavailable")
    let failing : FailureRule := ⟨.get, some "VCDCluster", none, none, refusal⟩
    let w : World :=
      { World.empty with server := ⟨[stored], [], [], [failing], none, none⟩, session := .borrowed }
    let last : CallRecord := ⟨.get "VCDCluster" (.text "demo") (some "clusters"), some refusal⟩
    let ended := (specYaml "demo" "clusters").perform r w
    last ∈ w.traffic ended.2 ∧ (∃ earlier, ended.2.calls = earlier ++ [last]) ∧
      ∃ context, ended.1 =
        .error (.fault ⟨.interrupted (.refused (some 503) (some "Service Unavailable")), context⟩) := by
  intro r stored refusal failing w last ended
  have made : w.traffic ended.2 = [⟨.discover .cluster, none⟩,
      ⟨.get "Cluster" (.text "demo") (some "clusters"), none⟩, ⟨.discover .providerCluster, none⟩,
      last] := rfl
  have refused : last ∈ w.traffic ended.2 := by simp [made]
  obtain ⟨⟨earlier, calls, _⟩, subject, reported, raised, _, report, passed, outcome⟩ :=
    refused_call_ends r (specYaml "demo" "clusters") w refused
  have unavailable : Refusal.ReportedAs subject (.refused (some 503) (some "Service Unavailable"))
      reported := report
  refine ⟨refused, ⟨w.calls ++ earlier, by rw [calls, List.append_assoc]⟩, ?_⟩
  cases unavailable with
  | refused =>
    cases passed with
    | fault cause kept => exact ⟨_, outcome⟩
    | same => exact ⟨_, outcome⟩

end Inspection
end ClusterLedger
