import ClusterLedger.Proofs.Connection.Operations
import ClusterLedger.Proofs.Consulting.Operations

namespace ClusterLedger

open ClusterLedger.Action

theorem FailureRule.fire_eq_none_of_fire {request other : Request} (different : other ≠ request)
    {kind kind' : Option String} {name name' : Option Value} {rules left : List FailureRule}
    {refusal : Refusal} (unmet : fire request kind name rules = none)
    (fired : fire other kind' name' rules = some (refusal, left)) : fire request kind name left = none := by
  induction rules generalizing left with
  | nil => cases fired
  | cons rule rest ih =>
    rw [fire] at unmet fired
    split at unmet
    · cases unmet
    · rename_i first
      have later : fire request kind name rest = none := Option.map_eq_none_iff.mp unmet
      split at fired
      · rename_i met
        cases fired
        -- A rule is spent for requests of its own only.
        have own : rule.request = other := by
          simp only [meets, Bool.and_eq_true, decide_eq_true_eq] at met
          exact met.1.1.1
        have apart : rule.spent.meets request kind name = false := by
          simp [meets, spent, own, different]
        rw [fire, apart, later]
        rfl
      · obtain ⟨⟨_, rules⟩, firedLater, same⟩ := Option.map_eq_some_iff.mp fired
        cases same
        rw [fire, if_neg first, ih later firedLater]
        rfl

namespace Server

variable {ds : List Definition} {s : Server}

def Serves (ds : List Definition) (s : Server) : Prop :=
  ∀ d ∈ ds, (s.discover d.apiVersion d.kind).1 = .ok ()

theorem discover_eq_ok_iff {apiVersion kind : String} :
    (s.discover apiVersion kind).1 = .ok () ↔
      FailureRule.fire .discover (some kind) none s.failures = none ∧ s.notServed.contains kind = false := by
  unfold discover reply
  cases FailureRule.fire .discover (some kind) none s.failures with
  | some fired => simp
  | none => cases s.notServed.contains kind <;> simp

theorem Serves.discover (serves : s.Serves ds) {d : Definition} (among : d ∈ ds) :
    s.discover d.apiVersion d.kind = (.ok (), s) := by
  obtain ⟨unmet, served⟩ := discover_eq_ok_iff.mp (serves d among)
  rw [Server.discover, reply, unmet, served]
  rfl

theorem Serves.reply {α : Type} {request : Request} (serves : s.Serves ds) (other : request ≠ .discover)
    (kind : Option String) (name : Option Value) (answer : Except Refusal α) :
    (s.reply request kind name answer).2.Serves ds := by
  intro d among
  obtain ⟨unmet, served⟩ := discover_eq_ok_iff.mp (serves d among)
  rw [discover_eq_ok_iff, Server.reply]
  split
  · rename_i refusal left fired
    exact ⟨FailureRule.fire_eq_none_of_fire other unmet fired, served⟩
  · exact ⟨unmet, served⟩

end Server

namespace Definition

def KeysApart (ds : List Definition) : Prop := ∀ d ∈ ds, ∀ e ∈ ds, d.cacheKey = e.cacheKey → d = e

instance (ds : List Definition) : Decidable (KeysApart ds) :=
  inferInstanceAs (Decidable (∀ d ∈ ds, ∀ e ∈ ds, d.cacheKey = e.cacheKey → d = e))

theorem keysApart_required : KeysApart required := by decide

end Definition

namespace Handle

structure IsOf (d : Definition) (h : Handle) : Prop where
  apiVersion : h.apiVersion = d.apiVersion
  kind : h.kind = d.kind

end Handle

/-- A connection through which objects of some types and secrets can be read. -/
structure Session.Ready (ds : List Definition) (s : Session) : Prop where
  core : s.core.isSome
  dynamic : s.dynamic.isSome
  typed : ∀ d ∈ ds, ∀ handle, Assoc.find? d.cacheKey s.cache = some handle → handle.IsOf d

namespace Action

variable {α β : Type} {P : Session → Prop} {x : Action α} {f : α → Action β}

def Maintains (P : Session → Prop) (x : Action α) : Prop := ∀ w : World, P w.session → P (x w).2.session

theorem Quiet.maintains (quiet : Quiet x) (P : Session → Prop) : Maintains P x := by
  intro w holds
  rw [(quiet w).session]
  exact holds

theorem maintains_bind (first : Maintains P x) (next : ∀ a, Maintains P (f a)) : Maintains P (x >>= f) :=
  after_bind (R := fun w w' => P w.session → P w'.session)
    (fun earlier later holds => later (earlier holds)) first next

theorem maintains_within (context : Context) (inner : Maintains P x) : Maintains P (within context x) := by
  intro w holds
  rw [after_within]
  exact inner w holds

/-- What finding the handles of some types maintains, every operation on objects of them does. -/
theorem Consults.maintains {ds : List Definition} (consults : Consults ds x)
    (resource : ∀ d ∈ ds, Maintains P (Client.resource d)) : Maintains P x := by
  induction consults with
  | result r => exact (quiet_ofExcept r).maintains P
  | record event => exact (quiet_record event).maintains P
  | @get d among name ns =>
    intro w holds
    rw [(Client.get_kept d name ns w).session]
    exact resource d among w holds
  | @list d among ns selector =>
    intro w holds
    rw [(Client.list_kept d ns selector w).session]
    exact resource d among w holds
  | secret name ns => exact (Client.quiet_secret name ns).maintains P
  | bind first next ihFirst ihNext => exact maintains_bind ihFirst ihNext
  | within context inner ih => exact maintains_within context ih

end Action

theorem Reconciler.maintains_missingAmong {P : Session → Prop} {ds : List Definition}
    (resource : ∀ d ∈ ds, Maintains P (Client.resource d)) : Maintains P (missingAmong ds) := by
  induction ds with
  | nil => exact (quiet_pure []).maintains P
  | cons d rest ih =>
    have later := ih fun e among => resource e (List.mem_cons_of_mem d among)
    have attempted : Maintains P (attempt (Client.resource d)) := resource d List.mem_cons_self
    refine maintains_bind attempted fun outcome => ?_
    cases outcome with
    | ok handle => exact later
    | error failure =>
      dsimp only
      split
      · exact maintains_bind later fun kinds => (quiet_pure _).maintains P
      · exact (quiet_ofExcept (.error failure)).maintains P

namespace Client

variable {ds : List Definition} {d : Definition}

theorem maintains_ready_resource (apart : Definition.KeysApart ds) (among : d ∈ ds) :
    Maintains (Session.Ready ds) (resource d) := by
  intro w ready
  have outcome := resource_outcome d w
  generalize resource d w = result at outcome ⊢
  cases outcome with
  | cached => exact ready
  | unconnected => exact ready
  | refused => exact ready
  | @discovered client =>
    refine ⟨ready.core, ready.dynamic, fun e other handle found => ?_⟩
    by_cases same : d.cacheKey = e.cacheKey
    · obtain rfl := apart d among e other same
      rw [Assoc.find?_set_self] at found
      cases found
      exact ⟨rfl, rfl⟩
    · rw [Assoc.find?_set_of_ne same] at found
      exact ready.typed e other handle found

theorem resource_of_ready {w : World} (ready : w.session.Ready ds) (serves : w.server.Serves ds)
    (among : d ∈ ds) :
    ∃ handle after, resource d w = (.ok handle, after) ∧ handle.IsOf d ∧ after.server = w.server := by
  have outcome := resource_outcome d w
  generalize resource d w = result at outcome ⊢
  cases outcome with
  | cached found => exact ⟨_, _, rfl, ready.typed d among _ found, rfl⟩
  | unconnected absent unconnected =>
    have connected := ready.dynamic
    rw [unconnected] at connected
    cases connected
  | refused absent dynamic refusal server replied =>
    rw [serves.discover among] at replied
    cases replied
  | discovered absent dynamic server replied =>
    rw [serves.discover among] at replied
    cases replied
    exact ⟨_, _, rfl, ⟨rfl, rfl⟩, rfl⟩

end Client

/-- Worlds with the same server, which serves some types, and two connections that are ready for them. -/
structure World.Alongside (ds : List Definition) (w w' : World) : Prop where
  server : w.server = w'.server
  serves : w.server.Serves ds
  left : w.session.Ready ds
  right : w'.session.Ready ds

namespace Action

variable {α : Type} {ds : List Definition} {d : Definition}

theorem alongside_call {reply : Server → Except Refusal α × Server}
    (serves : ∀ s : Server, s.Serves ds → (reply s).2.Serves ds) (c c' : Call)
    (meaning : Refusal → Failure) :
    RunRelated (World.Alongside ds) Eq (call c reply meaning) (call c' reply meaning) := by
  intro w w' alongside
  have after := serves w.server alongside.serves
  unfold call
  rw [← alongside.server]
  rcases replied : reply w.server with ⟨refusal | a, server⟩
  · rw [replied] at after
    exact ⟨.error (meaning refusal), ⟨rfl, after, alongside.left, alongside.right⟩⟩
  · rw [replied] at after
    exact ⟨.ok rfl, ⟨rfl, after, alongside.left, alongside.right⟩⟩

theorem alongside_resource (apart : Definition.KeysApart ds) (among : d ∈ ds) :
    RunRelated (World.Alongside ds) (fun h h' => h.IsOf d ∧ h'.IsOf d)
      (Client.resource d) (Client.resource d) := by
  intro w w' alongside
  have serves := alongside.serves
  rw [alongside.server] at serves
  have left := Client.maintains_ready_resource apart among w alongside.left
  have right := Client.maintains_ready_resource apart among w' alongside.right
  obtain ⟨handle, after, found, ofType, server⟩ :=
    Client.resource_of_ready alongside.left alongside.serves among
  obtain ⟨handle', after', found', ofType', server'⟩ := Client.resource_of_ready alongside.right serves among
  rw [found] at left ⊢
  rw [found'] at right ⊢
  have same : after.server = after'.server := by rw [server, server', alongside.server]
  exact ⟨.ok ⟨ofType, ofType'⟩, ⟨same, server ▸ alongside.serves, left, right⟩⟩

theorem alongside_get (apart : Definition.KeysApart ds) (among : d ∈ ds) (name : Value)
    (ns : Option String) :
    RunRelated (World.Alongside ds) Eq (Client.get d name ns) (Client.get d name ns) := by
  refine runRelated_bind (alongside_resource apart among) fun h h' ⟨ofType, ofType'⟩ => ?_
  rw [ofType.kind, ofType'.kind]
  exact alongside_call (fun s serves => serves.reply (by decide) _ _ _) _ _ _

theorem alongside_list (apart : Definition.KeysApart ds) (among : d ∈ ds) (ns selector : Option String) :
    RunRelated (World.Alongside ds) Eq (Client.list d ns selector) (Client.list d ns selector) := by
  refine runRelated_bind (alongside_resource apart among) fun h h' ⟨ofType, ofType'⟩ => ?_
  rw [ofType.kind, ofType'.kind, ofType.apiVersion, ofType'.apiVersion]
  exact alongside_call (fun s serves => serves.reply (by decide) _ _ _) _ _ _

theorem alongside_secret (name ns : String) :
    RunRelated (World.Alongside ds) Eq (Client.secret name ns) (Client.secret name ns) := by
  intro w w' alongside
  have read : ∀ now : World, now.session.Ready ds → Client.secret name ns now =
      call (.secret name ns) (Server.secret · name ns)
        (Refusal.toFailure "get" "Secret" (some (.text name)) (some ns)) now := by
    intro now ready
    obtain ⟨client, core⟩ := Option.isSome_iff_exists.mp ready.core
    have reading : Action.session now = (.ok now.session, now) := rfl
    unfold Client.secret
    rw [bind_of_ok reading, core]
  rw [read w alongside.left, read w' alongside.right]
  exact alongside_call (fun s serves => serves.reply (by decide) _ _ _) _ _ _ w w' alongside

theorem Consults.alongside {x : Action α} (consults : Consults ds x) (apart : Definition.KeysApart ds) :
    RunRelated (World.Alongside ds) Eq x x :=
  consults.runRelated
    (fun _ _ _ alongside =>
      ⟨.ok rfl, ⟨alongside.server, alongside.serves, alongside.left, alongside.right⟩⟩)
    (fun _ among name ns => alongside_get apart among name ns)
    (fun _ among ns selector => alongside_list apart among ns selector)
    alongside_secret

end Action

end ClusterLedger
