import ClusterLedger.Proofs.Connection.Caching
import ClusterLedger.Proofs.Connection.Handles

/-!
Which clients are closed. A client is built as soon as a connect has access, whether or not it gets any
further, and a disconnect closes the client in the session. A client whose place is taken by the next one
before that is never closed.
-/

namespace ClusterLedger

open ClusterLedger.Action

def CallRecord.closed? : CallRecord → Option Nat
  | ⟨.close client, _⟩ => some client
  | _ => none

def World.closed (before after : World) : List Nat := (before.traffic after).filterMap CallRecord.closed?

theorem World.closed_of_only {P : Call → Prop} {w w' : World} (only : w.Only P w')
    (other : ∀ c refusal, P c → (CallRecord.mk c refusal).closed? = none) : w.closed w' = [] := by
  obtain ⟨made, calls, each⟩ := only
  rw [closed, traffic_of_append calls]
  exact List.filterMap_eq_nil_iff.mpr fun record member => other record.call record.refusal (each record member)

theorem World.closed_of_calls {w w' : World} (calls : w'.calls = w.calls) : w.closed w' = [] := by
  have made : w'.calls = w.calls ++ [] := by rw [calls, List.append_nil]
  rw [closed, traffic_of_append made]
  rfl

theorem World.closed_trans {P : Call → Prop} {w w' w'' : World} (first : w.Only P w') (second : w'.Only P w'') :
    w.closed w'' = w.closed w' ++ w'.closed w'' := by
  obtain ⟨made, calls, _⟩ := first
  obtain ⟨later, moreCalls, _⟩ := second
  have all : w''.calls = w.calls ++ (made ++ later) := by rw [moreCalls, calls, List.append_assoc]
  rw [closed, closed, closed, traffic_of_append all, traffic_of_append calls, traffic_of_append moreCalls,
    List.filterMap_append]

namespace ClientCall

def Builds (w : World) : ClientCall → Prop
  | connect host settings => ∃ loaded, Client.loadAccess host settings w = (.ok (), loaded)
  | _ => False

inductive ClientStep (call : ClientCall) (w after : World) : List Nat → Prop
  | built (builds : call.Builds w) (stays : call ≠ .disconnect) (api : after.session.api = some w.nextClient)
      (next : after.nextClient = w.nextClient + 1) : ClientStep call w after []
  | closed {client : Nat} (ends : call = .disconnect) (held : w.session.api = some client)
      (api : after.session.api = none) (next : after.nextClient = w.nextClient) :
      ClientStep call w after [client]
  | kept (idle : ¬ call.Builds w) (unheld : call = .disconnect → w.session.api = none)
      (api : after.session.api = w.session.api) (next : after.nextClient = w.nextClient) :
      ClientStep call w after []

theorem closed_of_connects {w w' : World} (only : w.Only Call.Connects w') : w.closed w' = [] :=
  World.closed_of_only only fun c refusal connects => by cases connects <;> rfl

theorem closed_of_asks {w w' : World} (only : w.Only Call.Asks w') : w.closed w' = [] :=
  World.closed_of_only only fun c refusal asks => by cases asks <;> rfl

theorem clientStep_connect (host : Host) (settings : Settings) (w : World) :
    ClientStep (.connect host settings) w (Client.connect host settings w).2
      (w.closed (Client.connect host settings w).2) := by
  rw [closed_of_connects (Client.makes_connect host settings w)]
  have outcome := Client.connect_outcome host settings w
  generalize Client.connect host settings w = result at outcome ⊢
  cases outcome with
  | noAccess failed =>
    have kept := Client.quiet_loadAccess host settings w
    rw [failed] at kept
    refine .kept ?_ (fun ends => nomatch ends) (congrArg Session.api kept.session) kept.nextClient
    rintro ⟨loaded, access⟩
    rw [failed] at access
    cases access
  | noClient refusal access session next =>
    exact .built ⟨_, access⟩ (fun ends => nomatch ends) (congrArg Session.api session) next
  | connected access session next =>
    exact .built ⟨_, access⟩ (fun ends => nomatch ends) (congrArg Session.api session) next

theorem clientStep_disconnect (w : World) :
    ClientStep .disconnect w (Client.disconnect w).2 (w.closed (Client.disconnect w).2) := by
  cases held : w.session.api with
  | none =>
    rw [Client.disconnect_of_none held, World.closed_of_calls (by rfl)]
    exact .kept id (fun _ => held) held.symm rfl
  | some client =>
    have made : (Client.disconnect w).2.calls = w.calls ++ [⟨.close client, none⟩] := by
      rw [Client.disconnect_of_some held]
      rfl
    rw [World.closed, World.traffic_of_append made]
    refine .closed rfl held ?_ ?_
    · rw [session_disconnect]
      rfl
    · rw [Client.disconnect_of_some held]
      rfl

theorem clients_resource (d : Definition) (w : World) :
    (Client.resource d w).2.session.api = w.session.api ∧ (Client.resource d w).2.nextClient = w.nextClient := by
  have outcome := Client.resource_outcome d w
  generalize Client.resource d w = result at outcome ⊢
  cases outcome <;> exact ⟨rfl, rfl⟩

theorem clientStep_of_kept {call : ClientCall} {d : Definition} {w : World} (idle : ¬ call.Builds w)
    (stays : call ≠ .disconnect) (only : w.Only Call.Asks (call.after w))
    (kept : (Client.resource d w).2.Kept (call.after w)) :
    ClientStep call w (call.after w) (w.closed (call.after w)) := by
  obtain ⟨api, next⟩ := clients_resource d w
  rw [closed_of_asks only]
  refine .kept idle (fun ends => absurd ends stays) ?_ (kept.nextClient.trans next)
  rw [kept.session]
  exact api

theorem clientStep_after (call : ClientCall) (w : World) :
    ClientStep call w (call.after w) (w.closed (call.after w)) := by
  cases call with
  | connect host settings => exact clientStep_connect host settings w
  | disconnect => exact clientStep_disconnect w
  | resource d => exact clientStep_of_kept id (by simp) (Client.makes_resource d w) (.refl _)
  | get d name ns =>
    exact clientStep_of_kept id (by simp) (Client.makes_get d name ns w) (Client.get_kept d name ns w)
  | list d ns selector =>
    exact clientStep_of_kept id (by simp) (Client.makes_list d ns selector w) (Client.list_kept d ns selector w)
  | secret name ns =>
    have kept := Client.quiet_secret name ns w
    have closed : w.closed (Client.secret name ns w).2 = [] :=
      World.closed_of_only (Client.makes_secret name ns w) fun c refusal asks => by rw [asks]; rfl
    show ClientStep _ w (Client.secret name ns w).2 (w.closed (Client.secret name ns w).2)
    rw [closed]
    exact .kept id (fun ends => nomatch ends) (congrArg Session.api kept.session) kept.nextClient
  | serverChange server =>
    show ClientStep _ w { w with server } (w.closed { w with server })
    rw [World.closed_of_calls (by rfl)]
    exact .kept id (fun ends => nomatch ends) rfl rfl

/-! ### Runs -/

theorem only_follow (w : World) (calls : List ClientCall) : w.Only (fun _ => True) (follow w calls) := by
  induction calls generalizing w with
  | nil => exact ⟨[], (List.append_nil _).symm, fun _ none => nomatch none⟩
  | cons call rest ih =>
    obtain ⟨made, calls, _⟩ := cacheStep_after call w
    exact World.Only.trans ⟨made, calls, fun _ _ => trivial⟩ (ih (call.after w))

theorem follow_append (w : World) (earlier later : List ClientCall) :
    follow w (earlier ++ later) = follow (follow w earlier) later := List.foldl_append

theorem closed_follow_append (w : World) (earlier later : List ClientCall) :
    w.closed (follow w (earlier ++ later)) =
      w.closed (follow w earlier) ++ (follow w earlier).closed (follow w (earlier ++ later)) := by
  rw [follow_append]
  exact World.closed_trans (only_follow w earlier) (only_follow _ later)

theorem closed_follow_cons (w : World) (call : ClientCall) (rest : List ClientCall) :
    w.closed (follow w (call :: rest)) =
      w.closed (call.after w) ++ (call.after w).closed (follow (call.after w) rest) :=
  closed_follow_append w [call] rest

/-- The client in the session has been built, and not before the first of a run. -/
def HeldFrom (first : Nat) (w : World) : Prop :=
  first ≤ w.nextClient ∧ ∀ client, w.session.api = some client → first ≤ client ∧ client < w.nextClient

theorem ClientStep.heldFrom {call : ClientCall} {w after : World} {closed : List Nat} {first : Nat}
    (step : ClientStep call w after closed) (held : HeldFrom first w) :
    HeldFrom first after ∧ w.nextClient ≤ after.nextClient ∧
      ∀ client ∈ closed, first ≤ client ∧ client < w.nextClient := by
  obtain ⟨start, bound⟩ := held
  cases step with
  | built _ _ api next =>
    refine ⟨⟨by omega, fun client own => ?_⟩, by omega, fun client none => nomatch none⟩
    rw [api] at own
    cases own
    omega
  | closed _ own api next =>
    refine ⟨⟨by omega, fun client held => ?_⟩, by omega, fun client member => ?_⟩
    · rw [api] at held
      cases held
    · rw [List.mem_singleton.mp member]
      exact bound _ own
  | kept _ _ api next =>
    refine ⟨⟨by omega, fun client own => ?_⟩, by omega, fun client none => nomatch none⟩
    rw [api] at own
    rw [next]
    exact bound client own

/-- Only clients that were built in a run are closed in it. -/
theorem heldFrom_follow {w : World} {first : Nat} (held : HeldFrom first w) (calls : List ClientCall) :
    HeldFrom first (follow w calls) ∧ w.nextClient ≤ (follow w calls).nextClient ∧
      ∀ client ∈ w.closed (follow w calls), first ≤ client ∧ client < (follow w calls).nextClient := by
  induction calls generalizing w with
  | nil =>
    refine ⟨held, Nat.le_refl _, fun client member => ?_⟩
    rw [show follow w [] = w from rfl, World.closed_of_calls rfl] at member
    cases member
  | cons call rest ih =>
    obtain ⟨after, grows, closed⟩ := (clientStep_after call w).heldFrom held
    obtain ⟨atEnd, growsOn, later⟩ := ih after
    refine ⟨atEnd, by rw [follow_cons]; omega, fun client member => ?_⟩
    rw [closed_follow_cons, List.mem_append] at member
    rw [follow_cons]
    rcases member with now | afterwards
    · have bound := closed client now
      omega
    · exact later client afterwards

/-- A client that was built and is not in the session is not closed any more. -/
theorem not_closed_of_unheld {w : World} {client : Nat} (built : client < w.nextClient)
    (unheld : w.session.api ≠ some client) (calls : List ClientCall) :
    client ∉ w.closed (follow w calls) := by
  induction calls generalizing w with
  | nil =>
    rw [show follow w [] = w from rfl, World.closed_of_calls rfl]
    exact List.not_mem_nil
  | cons call rest ih =>
    rw [closed_follow_cons, List.mem_append]
    have step := clientStep_after call w
    generalize w.closed (call.after w) = now at step ⊢
    cases step with
    | built _ _ api next =>
      refine not_or.mpr ⟨List.not_mem_nil, ih (by omega) ?_⟩
      rw [api]
      intro same
      cases same
      omega
    | @closed other _ held api next =>
      refine not_or.mpr ⟨fun member => ?_, ih (by omega) (by rw [api]; simp)⟩
      rw [List.mem_singleton.mp member] at unheld
      exact unheld held
    | kept _ _ api next =>
      exact not_or.mpr ⟨List.not_mem_nil, ih (by omega) (by rwa [api])⟩

/-- The next disconnect comes before any other client is built. -/
def Released (w : World) (calls : List ClientCall) : Prop :=
  ∀ between second later, calls = between ++ second :: later → second.Builds (follow w between) →
    .disconnect ∈ between

theorem released_cons_of_kept {call : ClientCall} {w : World} {rest : List ClientCall} (idle : ¬ call.Builds w)
    (stays : call ≠ .disconnect) : Released w (call :: rest) ↔ Released (call.after w) rest := by
  constructor
  · intro released between second later split builds
    have reached := released (call :: between) second later (by rw [split, List.cons_append]) builds
    simpa [Ne.symm stays] using reached
  · intro released between second later split builds
    cases between with
    | nil =>
      cases split
      exact absurd builds idle
    | cons head between =>
      cases split
      exact List.mem_cons_of_mem _ (released between second later rfl builds)

/-- The client in the session is closed once if it is released, and otherwise never. -/
theorem count_closed_of_held {w : World} {client : Nat} (held : w.session.api = some client)
    (built : client < w.nextClient) (calls : List ClientCall) :
    let closings := (w.closed (follow w (calls ++ [.disconnect]))).count client
    closings ≤ 1 ∧ (closings = 1 ↔ Released w calls) := by
  induction calls generalizing w with
  | nil =>
    have released : Released w [] := fun between second later split => by
      cases between <;> cases split
    have step := clientStep_after .disconnect w
    have closed : w.closed (after w .disconnect) = [client] := by
      generalize w.closed (after w .disconnect) = now at step ⊢
      cases step with
      | built _ stays => exact absurd rfl stays
      | closed _ own =>
        cases held.symm.trans own
        rfl
      | kept _ unheld => cases held.symm.trans (unheld rfl)
    rw [List.nil_append, show follow w [.disconnect] = after w .disconnect from rfl, closed]
    simp [released]
  | cons call rest ih =>
    rw [List.cons_append, closed_follow_cons, List.count_append]
    -- The client is lost where another is built, done with where it is closed, and held until then.
    have step := clientStep_after call w
    generalize w.closed (call.after w) = now at step ⊢
    cases step with
    | built builds stays api next =>
      have lost := not_closed_of_unheld (w := call.after w) (by omega : client < (call.after w).nextClient)
        (by rw [api]; intro same; cases same; omega) (rest ++ [.disconnect])
      have unreleased : ¬ Released w (call :: rest) := fun released =>
        absurd (released [] call rest rfl builds) List.not_mem_nil
      simp [List.count_eq_zero_of_not_mem lost, unreleased]
    | closed ends own api next =>
      cases held.symm.trans own
      have lost := not_closed_of_unheld (w := call.after w) (by omega : client < (call.after w).nextClient)
        (by rw [api]; simp) (rest ++ [.disconnect])
      have released : Released w (call :: rest) := by
        intro between second later split builds
        cases between with
        | nil =>
          cases split
          rw [ends] at builds
          exact builds.elim
        | cons head between =>
          cases split
          rw [ends]
          exact List.mem_cons_self
      simp [List.count_eq_zero_of_not_mem lost, released]
    | kept idle unheld api next =>
      have stays : call ≠ .disconnect := by
        intro ends
        cases held.symm.trans (unheld ends)
      rw [released_cons_of_kept idle stays, List.count_nil, Nat.zero_add]
      exact ih (api.trans held) (by omega)

theorem exists_built {w : World} {client : Nat} {calls : List ClientCall} (start : w.nextClient ≤ client)
    (bound : client < (follow w calls).nextClient) :
    ∃ earlier first later, calls = earlier ++ first :: later ∧ first.Builds (follow w earlier) ∧
      (follow w earlier).nextClient = client := by
  induction calls generalizing w with
  | nil => exact absurd bound (Nat.not_lt.mpr start)
  | cons call rest ih =>
    have later (goesOn : (call.after w).nextClient ≤ client) : ∃ earlier first later,
        call :: rest = earlier ++ first :: later ∧ first.Builds (follow w earlier) ∧
          (follow w earlier).nextClient = client := by
      obtain ⟨earlier, first, later, rfl, builds, same⟩ := ih goesOn bound
      exact ⟨call :: earlier, first, later, rfl, builds, same⟩
    have step := clientStep_after call w
    generalize w.closed (call.after w) = now at step
    cases step with
    | built builds _ _ next =>
      by_cases own : w.nextClient = client
      · exact ⟨[], call, rest, rfl, builds, own⟩
      · exact later (by omega)
    | closed _ _ _ next => exact later (by omega)
    | kept _ _ _ next => exact later (by omega)

theorem after_of_builds {call : ClientCall} {w : World} (builds : call.Builds w) :
    w.closed (call.after w) = [] ∧ (call.after w).session.api = some w.nextClient ∧
      (call.after w).nextClient = w.nextClient + 1 := by
  have step := clientStep_after call w
  generalize w.closed (call.after w) = now at step ⊢
  cases step with
  | built _ _ api next => exact ⟨rfl, api, next⟩
  | closed ends =>
    rw [ends] at builds
    exact builds.elim
  | kept idle => exact absurd builds idle

theorem count_closed_of_built {w : World} {first : Nat} (held : HeldFrom first w)
    {calls earlier later : List ClientCall} {call : ClientCall} (split : calls = earlier ++ call :: later)
    (builds : call.Builds (follow w earlier)) :
    let closings := (w.closed (follow w (calls ++ [.disconnect]))).count (follow w earlier).nextClient
    closings ≤ 1 ∧ (closings = 1 ↔ Released (call.after (follow w earlier)) later) := by
  obtain ⟨_, _, closedBefore⟩ := heldFrom_follow held earlier
  have unclosed : (follow w earlier).nextClient ∉ w.closed (follow w earlier) := fun member =>
    absurd (closedBefore _ member).2 (Nat.lt_irrefl _)
  obtain ⟨none, api, next⟩ := after_of_builds builds
  rw [split, List.append_assoc, closed_follow_append, follow_append, List.cons_append, closed_follow_cons, none,
    List.nil_append, List.count_append, List.count_eq_zero_of_not_mem unclosed, Nat.zero_add]
  exact count_closed_of_held api (by omega) later

theorem bound_of_built {w : World} {first : Nat} (held : HeldFrom first w) {calls earlier later : List ClientCall}
    {call : ClientCall} (split : calls = earlier ++ call :: later) (builds : call.Builds (follow w earlier)) :
    w.nextClient ≤ (follow w earlier).nextClient ∧
      (follow w earlier).nextClient < (follow w calls).nextClient := by
  obtain ⟨before, start, _⟩ := heldFrom_follow held earlier
  obtain ⟨_, _, next⟩ := after_of_builds builds
  obtain ⟨_, grows, _⟩ :=
    heldFrom_follow ((clientStep_after call (follow w earlier)).heldFrom before).1 later
  rw [split, follow_append, follow_cons]
  exact ⟨start, by omega⟩

@[simp] theorem nextClient_disconnect (w : World) : (after w .disconnect).nextClient = w.nextClient := by
  have step := clientStep_after .disconnect w
  generalize w.closed (after w .disconnect) = now at step
  cases step with
  | built _ stays => exact absurd rfl stays
  | closed _ _ _ next => exact next
  | kept _ _ _ next => exact next

/-- Between any two connects that build a client there is a disconnect. -/
def Alternating (w : World) (calls : List ClientCall) : Prop :=
  ∀ earlier first between second later, calls = earlier ++ first :: (between ++ second :: later) →
    first.Builds (follow w earlier) → second.Builds (follow w (earlier ++ first :: between)) →
    .disconnect ∈ between

/--
However connects and disconnects follow each other and wherever they fail, nothing is closed but what was
built, and nothing twice. After a last disconnect everything that was built is closed exactly if no client
was built in the place of another.
-/
theorem closed_once_iff {w : World} (unowned : w.session.api = none) (calls : List ClientCall) :
    let now := follow w (calls ++ [.disconnect])
    (∀ client ∈ w.closed now, w.nextClient ≤ client ∧ client < now.nextClient ∧
      (w.closed now).count client = 1) ∧
    ((∀ client, w.nextClient ≤ client → client < now.nextClient → (w.closed now).count client = 1) ↔
      Alternating w calls) := by
  intro now
  have held : HeldFrom w.nextClient w := ⟨Nat.le_refl _, fun client own => by rw [unowned] at own; cases own⟩
  have next : now.nextClient = (follow w calls).nextClient := by
    show (follow w (calls ++ [.disconnect])).nextClient = _
    rw [follow_append]
    exact nextClient_disconnect _
  refine ⟨fun client member => ?_, ?_, ?_⟩
  · obtain ⟨_, _, bounds⟩ := heldFrom_follow held (calls ++ [.disconnect])
    obtain ⟨start, bound⟩ := bounds client member
    obtain ⟨earlier, first, later, split, builds, rfl⟩ := exists_built start (next ▸ bound)
    have atMost := (count_closed_of_built held split builds).1
    have atLeast := List.count_pos_iff.mpr member
    exact ⟨start, bound, Nat.le_antisymm atMost atLeast⟩
  · intro once earlier first between second later split builds another
    obtain ⟨start, bound⟩ := bound_of_built held split builds
    have released := (count_closed_of_built held split builds).2.mp (once _ start (next ▸ bound))
    refine released between second later rfl ?_
    rwa [follow_append] at another
  · intro alternating client start bound
    obtain ⟨earlier, first, later, split, builds, rfl⟩ := exists_built start (next ▸ bound)
    refine (count_closed_of_built held split builds).2.mpr fun between second rest behind another => ?_
    refine alternating earlier first between second rest (by rw [split, behind]) builds ?_
    rwa [follow_append]

/-- A connect that is refused leaves a client behind, which the disconnect after it closes. -/
theorem closed_once_after_refused_connect :
    let refusing : FailureRule := ⟨.connect, none, none, some 1, .refused (some 503) (some "Service Unavailable")⟩
    let w : World := { World.empty with server := ⟨[], [], [], [refusing], none, none⟩ }
    let calls := [connectInCluster, .disconnect, connectInCluster]
    w.closed (follow w (calls ++ [.disconnect])) = [0, 1] ∧ Alternating w calls := by
  intro refusing w calls
  have closed : w.closed (follow w (calls ++ [.disconnect])) = [0, 1] := rfl
  refine ⟨closed, (closed_once_iff (w := w) rfl calls).2.mp fun client _ bound => ?_⟩
  have two : client < 2 := bound
  rw [closed]
  match client, two with
  | 0, _ => rfl
  | 1, _ => rfl

/-- The client of the first connect is lost when the second one succeeds. -/
theorem first_client_unclosed :
    ¬ ∀ (w : World) (calls : List ClientCall), w.session.api = none →
      (∀ call ∈ calls, (∃ host settings, call = .connect host settings) ∨ call = .disconnect) →
      let now := follow w (calls ++ [.disconnect])
      ∀ client, w.nextClient ≤ client → client < now.nextClient → (w.closed now).count client = 1 := by
  intro always
  have once := always .empty [connectInCluster, connectInCluster] rfl
    (fun call member => .inl ⟨.bare, .inCluster, by simpa [connectInCluster] using member⟩)
    0 (Nat.le_refl _) (by decide)
  exact absurd once (by decide)

end ClientCall
end ClusterLedger
