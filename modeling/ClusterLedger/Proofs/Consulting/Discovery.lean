import ClusterLedger.Proofs.Consulting.Refusals

/-!
What becomes of a discovery that the API server refuses, in every operation that needs the handles of
resource types. It ends the operation; but only a status other than 404 is told as a failure that may
pass, since discoveries share the meaning of 404 with look-ups of objects.
-/

namespace ClusterLedger

open ClusterLedger.Action

def Cause.ofRefusedDiscovery (d : Definition) (status : Option Int) (reason : Option String) : Cause :=
  if status = some 404 then .notFound d.kind "None" none else .interrupted (.refused status reason)

namespace Action

variable {α β : Type} {x y : Action α} {f : α → Action β} {w after : World}

/-- Every discovery that is refused with a status ends the action with its cause. -/
def EndsAtDiscovery (x : Action α) (w : World) : Prop :=
  ∃ made, (x w).2.calls = w.calls ++ made ∧
    ∀ d status reason, ⟨.discover d, some (.refused status reason)⟩ ∈ made →
      ∃ context, (x w).1 = .error (.fault ⟨.ofRefusedDiscovery d status reason, context⟩)

theorem EndsAtRefusal.endsAtDiscovery {ds : List Definition} (ends : EndsAtRefusal ds x w) :
    EndsAtDiscovery x w := by
  obtain ⟨made, calls, ending⟩ := ends
  refine ⟨made, calls, fun d status reason member => ?_⟩
  generalize (x w).1 = result at ending
  cases ending with
  | answered answered => cases answered _ member
  | refused answered about report passed =>
    rcases List.mem_append.mp member with before | last
    · cases answered _ before
    · cases List.mem_singleton.mp last
      cases about with
      | discover among =>
        unfold Cause.ofRefusedDiscovery
        cases report with
        | gone =>
          cases passed with
          | fault cause kept => exact ⟨_, rfl⟩
          | same => exact ⟨_, rfl⟩
        | refused other =>
          rw [if_neg other]
          cases passed with
          | fault cause kept => exact ⟨_, rfl⟩
          | same => exact ⟨_, rfl⟩

theorem endsAtDiscovery_of_calls (calls : (x w).2.calls = w.calls) : EndsAtDiscovery x w := by
  refine ⟨[], ?_, fun d status reason none => absurd none List.not_mem_nil⟩
  rw [calls, List.append_nil]

theorem endsAtDiscovery_bind (first : EndsAtDiscovery x w)
    (next : ∀ a after, x w = (.ok a, after) → EndsAtDiscovery (f a) after) :
    EndsAtDiscovery (x >>= f) w := by
  obtain ⟨made, calls, ends⟩ := first
  unfold EndsAtDiscovery
  rcases outcome : x w with ⟨failure | a, after⟩
  · rw [outcome] at calls ends
    rw [bind_of_error outcome]
    refine ⟨made, calls, fun d status reason member => ?_⟩
    obtain ⟨context, told⟩ := ends d status reason member
    exact ⟨context, congrArg Except.error (Except.error.inj told)⟩
  · obtain ⟨later, moreCalls, rest⟩ := next a after outcome
    rw [outcome] at calls ends
    rw [bind_of_ok outcome]
    refine ⟨made ++ later, by rw [moreCalls, calls, List.append_assoc], fun d status reason member => ?_⟩
    rcases List.mem_append.mp member with early | late
    · obtain ⟨context, told⟩ := ends d status reason early
      cases told
    · exact rest d status reason late

/-- Calls that are no refused discoveries do not matter to how the rest of an action ends. -/
theorem EndsAtDiscovery.of_later {record : CallRecord} (later : EndsAtDiscovery y after)
    (same : x w = y after) (calls : after.calls = w.calls ++ [record])
    (other : ∀ d status reason, record ≠ ⟨.discover d, some (.refused status reason)⟩) :
    EndsAtDiscovery x w := by
  obtain ⟨made, moreCalls, ends⟩ := later
  unfold EndsAtDiscovery
  rw [same]
  refine ⟨record :: made, by rw [moreCalls, calls, List.append_assoc]; rfl, fun d status reason member => ?_⟩
  rcases List.mem_cons.mp member with first | member
  · exact absurd first.symm (other d status reason)
  · exact ends d status reason member

end Action

namespace Reconciler

theorem toFailure_refusedDiscovery (d : Definition) (status : Option Int) (reason : Option String) :
    ∃ context, (Refusal.refused status reason).toFailure "discover" d.kind none none =
      .fault ⟨.ofRefusedDiscovery d status reason, context⟩ := by
  by_cases gone : status = some 404
  · rw [Refusal.toFailure, Cause.ofRefusedDiscovery, if_pos gone, if_pos gone]
    exact ⟨_, rfl⟩
  · rw [Refusal.toFailure, Cause.ofRefusedDiscovery, if_neg gone, if_neg gone]
    exact ⟨_, rfl⟩

theorem isMisconfigured_refusedDiscovery (d : Definition) (status : Option Int) (reason : Option String) :
    isMisconfigured ((Refusal.refused status reason).toFailure "discover" d.kind none none) = false := by
  obtain ⟨context, told⟩ := toFailure_refusedDiscovery d status reason
  rw [told, Cause.ofRefusedDiscovery]
  by_cases gone : status = some 404
  · rw [if_pos gone]
    rfl
  · rw [if_neg gone]
    rfl

theorem missingAmong_of_ok {d : Definition} {rest : List Definition} {w after : World} {handle : Handle}
    (found : Client.resource d w = (.ok handle, after)) :
    missingAmong (d :: rest) w = missingAmong rest after := by
  have attempted : attempt (Client.resource d) w = (.ok (.ok handle), after) := by
    rw [attempt, found]
  rw [missingAmong, bind_of_ok attempted]

theorem missingAmong_of_error {d : Definition} {rest : List Definition} {w after : World}
    {failure : Failure} (failed : Client.resource d w = (.error failure, after)) :
    missingAmong (d :: rest) w =
      if isMisconfigured failure then (do return d.kind :: (← missingAmong rest) : Action _) after
      else (.error failure, after) := by
  have attempted : attempt (Client.resource d) w = (.ok (.error failure), after) := by
    rw [attempt, failed]
  rw [missingAmong, bind_of_ok attempted]
  dsimp only
  split <;> rfl

/-- The search for types that are not served goes past those, and ends at a refusal with a status. -/
theorem endsAtDiscovery_missingAmong (ds : List Definition) (w : World) :
    EndsAtDiscovery (missingAmong ds) w := by
  induction ds generalizing w with
  | nil => exact endsAtDiscovery_of_calls rfl
  | cons d rest ih =>
    have outcome := Client.resource_outcome d w
    generalize result : Client.resource d w = found at outcome
    cases outcome with
    | cached present =>
      unfold EndsAtDiscovery
      rw [missingAmong_of_ok result]
      exact ih w
    | unconnected absent unconnected =>
      unfold EndsAtDiscovery
      rw [missingAmong_of_error result]
      exact endsAtDiscovery_of_calls (x := fail Client.notConnected) rfl
    | discovered absent dynamic server =>
      refine (ih _).of_later (missingAmong_of_ok result) rfl fun e status reason same => ?_
      cases same
    | refused absent dynamic refusal server =>
      have step : missingAmong (d :: rest) w = _ := missingAmong_of_error result
      split at step
      · rename_i unserved
        have later := endsAtDiscovery_bind (f := fun kinds => pure (d.kind :: kinds))
          (ih (w.made ⟨.discover d, some refusal⟩ server)) fun kinds after _ => endsAtDiscovery_of_calls rfl
        refine later.of_later step rfl fun e status reason same => ?_
        cases same
        rw [isMisconfigured_refusedDiscovery] at unserved
        cases unserved
      · refine ⟨[⟨.discover d, some refusal⟩], by rw [step]; rfl, fun e status reason only => ?_⟩
        cases List.mem_singleton.mp only
        obtain ⟨context, told⟩ := toFailure_refusedDiscovery d status reason
        rw [step]
        exact ⟨context, congrArg Except.error told⟩

end Reconciler

inductive Resolution where
  | handle (d : Definition)
  | get (d : Definition) (name : Value) (ns : Option String)
  | list (d : Definition) (ns selector : Option String)
  | missing

namespace Resolution

def Result : Resolution → Type
  | handle _ => Handle
  | get .. => Value
  | list .. => List Value
  | missing => List String

def perform : (x : Resolution) → Action x.Result
  | handle d => Client.resource d
  | get d name ns => Client.get d name ns
  | list d ns selector => Client.list d ns selector
  | missing => Reconciler.missing

theorem endsAtDiscovery (x : Resolution) (w : World) : EndsAtDiscovery x.perform w := by
  cases x with
  | handle d => exact (Client.endsAtRefusal_resource (List.mem_singleton_self d) w).endsAtDiscovery
  | get d name ns => exact (Client.endsAtRefusal_get (List.mem_singleton_self d) name ns w).endsAtDiscovery
  | list d ns selector =>
    exact (Client.endsAtRefusal_list (List.mem_singleton_self d) ns selector w).endsAtDiscovery
  | missing => exact Reconciler.endsAtDiscovery_missingAmong Definition.required w

/--
A discovery that is refused with a status ends the operation: with a failure that may pass and has this
status exactly if the status is not 404, and with something that is not found exactly if it is.
-/
theorem refused_discovery_interrupts_iff (x : Resolution) (w : World) {d : Definition} {status : Option Int}
    {reason : Option String}
    (refused : ⟨.discover d, some (.refused status reason)⟩ ∈ w.traffic (x.perform w).2) :
    ∃ fault, (x.perform w).1 = .error (.fault fault) ∧
      ((∃ what, fault.cause = .interrupted what ∧ what.status = status) ↔ status ≠ some 404) ∧
      (fault.cause = .notFound d.kind "None" none ↔ status = some 404) := by
  obtain ⟨made, calls, ends⟩ := x.endsAtDiscovery w
  rw [World.traffic_of_append calls] at refused
  obtain ⟨context, failed⟩ := ends d status reason refused
  refine ⟨_, failed, ?_⟩
  unfold Cause.ofRefusedDiscovery
  by_cases gone : status = some 404
  · rw [if_pos gone]
    refine ⟨iff_of_false ?_ fun other => other gone, iff_of_true rfl gone⟩
    rintro ⟨what, passing, _⟩
    cases passing
  · rw [if_neg gone]
    refine ⟨iff_of_true ⟨_, rfl, rfl⟩ gone, iff_of_false ?_ gone⟩
    intro absent
    cases absent

theorem refused_discovery_interrupts_after_unserved :
    let refusal : Refusal := .refused (some 503) (some "Service Unavailable")
    let failing : FailureRule := ⟨.discover, some "Machine", none, none, refusal⟩
    let server : Server := ⟨[], [], ["MachineDeployment"], [failing], none, none⟩
    let w : World := { World.empty with server, session := .borrowed }
    ⟨.discover .machine, some refusal⟩ ∈ w.traffic (missing.perform w).2 ∧
      ∃ fault what, (missing.perform w).1 = .error (.fault fault) ∧ fault.cause = .interrupted what ∧
        what.status = some 503 := by
  intro refusal failing server w
  have made : w.traffic (missing.perform w).2 = [⟨.discover .cluster, none⟩,
      ⟨.discover .machineDeployment, some (.notServed "cluster.x-k8s.io/v1beta1")⟩,
      ⟨.discover .machine, some refusal⟩] := rfl
  have refused : ⟨.discover .machine, some refusal⟩ ∈ w.traffic (missing.perform w).2 := by simp [made]
  obtain ⟨fault, failed, passes, _⟩ := refused_discovery_interrupts_iff missing w refused
  obtain ⟨what, cause, status⟩ := passes.mpr (by decide)
  exact ⟨refused, fault, what, failed, cause, status⟩

/-- A discovery that is refused with 404 is taken for an object that is not there. -/
theorem discovery_not_found :
    ¬ ∀ (x : Resolution) (w : World) (d : Definition) (status : Option Int) (reason : Option String),
      ⟨.discover d, some (.refused status reason)⟩ ∈ w.traffic (x.perform w).2 →
      ∃ fault what, (x.perform w).1 = .error (.fault fault) ∧ fault.cause = .interrupted what ∧
        what.status = status := by
  intro always
  let failing : FailureRule := ⟨.discover, none, none, none, Server.notFound⟩
  let w : World :=
    { World.empty with server := ⟨[], [], [], [failing], none, none⟩, session := .borrowed }
  have made : w.traffic ((handle .cluster).perform w).2 = [⟨.discover .cluster, some Server.notFound⟩] := rfl
  have refused : ⟨.discover .cluster, some (.refused (some 404) (some "Not Found"))⟩ ∈
      w.traffic ((handle .cluster).perform w).2 := by
    rw [made]
    exact List.mem_cons_self
  obtain ⟨fault, what, failed, passing, _⟩ := always (handle .cluster) w .cluster _ _ refused
  have absent : ((handle .cluster).perform w).1 =
      .error (.fault (Fault.notFound "Cluster" none none none (some "discover"))) := rfl
  rw [absent] at failed
  cases failed
  cases passing

end Resolution
end ClusterLedger
