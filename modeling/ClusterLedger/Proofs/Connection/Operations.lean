import ClusterLedger.Api.Client
import ClusterLedger.Proofs.Actions

namespace ClusterLedger

inductive Mark where
  | connected
  | disconnected
  | discovered (d : Definition)
  deriving DecidableEq, Repr

/-- What a call says about the connection; only calls that succeed say something. -/
def CallRecord.mark? : CallRecord → Option Mark
  | ⟨.discover d, none⟩ => some (.discovered d)
  | ⟨.dynamicClient, none⟩ => some .connected
  | ⟨.close _, none⟩ => some .disconnected
  | _ => none

def World.marks (w : World) : List Mark := w.calls.filterMap CallRecord.mark?

structure World.Kept (w w' : World) : Prop where
  session : w'.session = w.session
  nextClient : w'.nextClient = w.nextClient
  marks : w'.marks = w.marks

namespace World

@[simp] theorem marks_made (w : World) (record : CallRecord) (server : Server) :
    (w.made record server).marks = w.marks ++ record.mark?.toList := by
  cases noted : record.mark? <;> simp [marks, made, noted]

theorem Kept.refl (w : World) : w.Kept w := ⟨rfl, rfl, rfl⟩

theorem Kept.trans {w w' w'' : World} (first : w.Kept w') (second : w'.Kept w'') : w.Kept w'' where
  session := second.session.trans first.session
  nextClient := second.nextClient.trans first.nextClient
  marks := second.marks.trans first.marks

theorem kept_made {record : CallRecord} (unmarked : record.mark? = none) (w : World) (server : Server) :
    w.Kept (w.made record server) := by
  refine ⟨rfl, rfl, ?_⟩
  rw [marks_made, unmarked]
  exact List.append_nil _

end World

namespace Action

variable {α β : Type} {x : Action α} {f : α → Action β}

def Quiet (x : Action α) : Prop := ∀ w : World, w.Kept (x w).2

theorem quiet_pure (a : α) : Quiet (pure a : Action α) := fun w => .refl w

theorem quiet_ofExcept (r : Except Failure α) : Quiet (ofExcept r) := fun w => .refl w

theorem quiet_record (event : Event) : Quiet (record event) := fun _ => ⟨rfl, rfl, rfl⟩

theorem quiet_attempt (quiet : Quiet x) : Quiet (attempt x) := quiet

theorem quiet_call {c : Call} (unmarked : ∀ refusal, (CallRecord.mk c refusal).mark? = none)
    (reply : Server → Except Refusal α × Server) (meaning : Refusal → Failure) :
    Quiet (call c reply meaning) := by
  intro w
  rcases call_cases c reply meaning w with ⟨a, server, _, made⟩ | ⟨refusal, server, _, made⟩
  · rw [made]
    exact World.kept_made (unmarked none) w server
  · rw [made]
    exact World.kept_made (unmarked (some refusal)) w server

theorem quiet_bind (first : Quiet x) (second : ∀ a, Quiet (f a)) : Quiet (x >>= f) :=
  after_bind World.Kept.trans first second

theorem quiet_each {f : α → Action β} (quiet : ∀ a, Quiet (f a)) (as : List α) : Quiet (each f as) := by
  induction as with
  | nil => exact quiet_pure []
  | cons a rest ih => exact quiet_bind (quiet a) fun b => quiet_bind ih fun bs => quiet_pure (b :: bs)

end Action

inductive Call.Connects : Call → Prop
  | loadInCluster : Connects .loadInCluster
  | loadKubeconfig (path : String) (context : Option String) : Connects (.loadKubeconfig path context)
  | dynamicClient : Connects .dynamicClient

inductive Call.Asks : Call → Prop
  | discover (d : Definition) : Asks (.discover d)
  | get (kind : String) (name : Value) (ns : Option String) : Asks (.get kind name ns)
  | list (kind : String) (ns selector : Option String) : Asks (.list kind ns selector)

namespace Client

open ClusterLedger.Action

/-! ### The calls that an operation makes -/

theorem makes_loadInCluster : Makes Call.Connects loadInCluster := makes_call .loadInCluster _ _

theorem makes_loadKubeconfig (host : Host) (settings : Settings) :
    Makes Call.Connects (loadKubeconfig host settings) := by
  refine makes_bind (makes_of_calls fun _ => rfl) fun path => ?_
  refine makes_bind (makes_call (.loadKubeconfig _ _) _ _) fun _ => ?_
  exact makes_of_calls fun _ => rfl

theorem makes_loadAccess (host : Host) (settings : Settings) :
    Makes Call.Connects (loadAccess host settings) := by
  have byFile := makes_loadKubeconfig host settings
  unfold loadAccess
  cases settings.authMode with
  | inCluster => exact makes_loadInCluster
  | kubeconfig => exact makes_bind byFile fun _ => makes_of_calls fun _ => rfl
  | auto =>
    have attempted : Makes Call.Connects (attempt loadInCluster) := makes_loadInCluster
    refine makes_bind attempted fun outcome => ?_
    cases outcome with
    | ok _ => exact makes_of_calls fun _ => rfl
    | error _ => exact makes_bind byFile fun _ => makes_of_calls fun _ => rfl

theorem makes_connect (host : Host) (settings : Settings) : Makes Call.Connects (connect host settings) := by
  refine makes_bind (makes_loadAccess host settings) fun _ => ?_
  refine makes_bind (makes_of_calls fun _ => rfl) fun client => ?_
  refine makes_bind (makes_of_calls fun _ => rfl) fun session => ?_
  refine makes_bind (makes_of_calls fun _ => rfl) fun _ => ?_
  refine makes_bind (makes_call .dynamicClient _ _) fun _ => ?_
  refine makes_bind (makes_of_calls fun _ => rfl) fun session => ?_
  refine makes_bind (makes_of_calls fun _ => rfl) fun _ => ?_
  exact makes_of_calls fun _ => rfl

theorem makes_disconnect : Makes (fun c => ∃ client, c = .close client) disconnect := by
  refine makes_bind (makes_of_calls fun _ => rfl) fun session => ?_
  cases session.api with
  | none => exact makes_of_calls fun _ => rfl
  | some client =>
    refine makes_bind (makes_call ⟨client, rfl⟩ _ _) fun _ => ?_
    exact makes_of_calls fun _ => rfl

theorem makes_discover (d : Definition) : Makes Call.Asks (discover d) := by
  refine makes_bind (makes_of_calls fun _ => rfl) fun session => ?_
  cases session.dynamic with
  | none => exact makes_of_calls fun _ => rfl
  | some client =>
    refine makes_bind (makes_call (.discover d) _ _) fun _ => ?_
    exact makes_of_calls fun _ => rfl

theorem makes_resource (d : Definition) : Makes Call.Asks (resource d) := by
  refine makes_bind (makes_of_calls fun _ => rfl) fun session => ?_
  cases Assoc.find? d.cacheKey session.cache with
  | some handle => exact makes_of_calls fun _ => rfl
  | none =>
    refine makes_bind (makes_discover d) fun handle => ?_
    refine makes_bind (makes_of_calls fun _ => rfl) fun s => ?_
    refine makes_bind (makes_of_calls fun _ => rfl) fun _ => ?_
    exact makes_of_calls fun _ => rfl

theorem makes_get (d : Definition) (name : Value) (ns : Option String) : Makes Call.Asks (get d name ns) :=
  makes_bind (makes_resource d) fun _ => makes_call (.get _ name ns) _ _

theorem makes_list (d : Definition) (ns selector : Option String) : Makes Call.Asks (list d ns selector) :=
  makes_bind (makes_resource d) fun _ => makes_call (.list _ ns selector) _ _

theorem makes_secret (name ns : String) : Makes (· = .secret name ns) (secret name ns) := by
  refine makes_bind (makes_of_calls fun _ => rfl) fun session => ?_
  cases session.core with
  | none => exact makes_of_calls fun _ => rfl
  | some _ => exact makes_call (P := (· = .secret name ns)) rfl _ _

/-! ### What an operation leaves of the session -/

theorem quiet_loadInCluster : Quiet loadInCluster :=
  quiet_call (fun _ => rfl) Server.loadInCluster connectFailure

theorem quiet_loadKubeconfig (host : Host) (settings : Settings) :
    Quiet (loadKubeconfig host settings) := by
  refine quiet_bind (quiet_ofExcept _) fun path => ?_
  refine quiet_bind (quiet_call (fun _ => rfl) _ _) fun _ => ?_
  exact quiet_pure _

theorem quiet_loadAccess (host : Host) (settings : Settings) : Quiet (loadAccess host settings) := by
  unfold loadAccess
  cases settings.authMode with
  | inCluster => exact quiet_loadInCluster
  | kubeconfig => exact quiet_bind (quiet_loadKubeconfig host settings) fun _ => quiet_pure _
  | auto =>
    refine quiet_bind (quiet_attempt quiet_loadInCluster) fun outcome => ?_
    cases outcome with
    | ok _ => exact quiet_record _
    | error _ => exact quiet_bind (quiet_loadKubeconfig host settings) fun path => quiet_record _

/-- With access, a new client takes over all but custom resources, and is then asked for those. -/
theorem connect_of_access {host : Host} {settings : Settings} {w loaded : World}
    (access : loadAccess host settings w = (.ok (), loaded)) :
    connect host settings w =
      (do
        call .dynamicClient Server.connect connectFailure
        setSession { ← Action.session with dynamic := some loaded.nextClient }
        record .connected : Action Unit)
      { loaded with
        nextClient := loaded.nextClient + 1
        session := { loaded.session with
          api := some loaded.nextClient, core := some loaded.nextClient } } := by
  unfold connect
  rw [bind_of_ok access]
  rfl

/-- How a connection attempt can end, and what of the session it has replaced by then. -/
inductive ConnectOutcome (host : Host) (settings : Settings) (w : World) :
    Except Failure Unit × World → Prop
  | noAccess {failure : Failure} {after : World}
      (failed : loadAccess host settings w = (.error failure, after)) :
      ConnectOutcome host settings w (.error failure, after)
  | noClient {loaded after : World} (refusal : Refusal)
      (access : loadAccess host settings w = (.ok (), loaded))
      (session : after.session =
        { w.session with api := some w.nextClient, core := some w.nextClient })
      (nextClient : after.nextClient = w.nextClient + 1)
      (marks : after.marks = w.marks) :
      ConnectOutcome host settings w (.error (connectFailure refusal), after)
  | connected {loaded after : World}
      (access : loadAccess host settings w = (.ok (), loaded))
      (session : after.session =
        ⟨some w.nextClient, some w.nextClient, some w.nextClient, w.session.cache⟩)
      (nextClient : after.nextClient = w.nextClient + 1)
      (marks : after.marks = w.marks ++ [.connected]) :
      ConnectOutcome host settings w (.ok (), after)

theorem connect_outcome (host : Host) (settings : Settings) (w : World) :
    ConnectOutcome host settings w (connect host settings w) := by
  have kept := quiet_loadAccess host settings w
  rcases access : loadAccess host settings w with ⟨failure | ⟨⟩, loaded⟩
  · unfold connect
    rw [bind_of_error access]
    exact .noAccess access
  · rw [access] at kept
    have session : loaded.session = w.session := kept.session
    have nextClient : loaded.nextClient = w.nextClient := kept.nextClient
    have marks : loaded.marks = w.marks := kept.marks
    let built : World := { loaded with
      nextClient := loaded.nextClient + 1
      session := { loaded.session with api := some loaded.nextClient, core := some loaded.nextClient } }
    rw [connect_of_access access]
    rcases call_cases .dynamicClient Server.connect connectFailure built with
      ⟨⟨⟩, server, _, made⟩ | ⟨refusal, server, _, made⟩
    · rw [bind_of_ok made]
      refine .connected access ?_ (congrArg Nat.succ nextClient) ?_
      · rw [← session, ← nextClient]
        rfl
      · rw [← marks]
        exact World.marks_made built ⟨.dynamicClient, none⟩ server
    · rw [bind_of_error made]
      refine .noClient refusal access ?_ (congrArg Nat.succ nextClient) ?_
      · rw [← session, ← nextClient]
        rfl
      · have noted := World.marks_made built ⟨.dynamicClient, some refusal⟩ server
        rw [noted, ← marks]
        exact List.append_nil _

theorem disconnect_of_none {w : World} (unowned : w.session.api = none) :
    disconnect w = (.ok (), { w with session := .fresh }) := by
  have reading : Action.session w = (.ok w.session, w) := rfl
  unfold disconnect
  rw [bind_of_ok reading, unowned]
  rfl

theorem disconnect_of_some {w : World} {client : Nat} (owned : w.session.api = some client) :
    disconnect w = (.ok (), { w.made ⟨.close client, none⟩ w.server with session := .fresh }) := by
  have reading : Action.session w = (.ok w.session, w) := rfl
  unfold disconnect
  rw [bind_of_ok reading, owned]
  rfl

inductive ResourceOutcome (d : Definition) (w : World) : Except Failure Handle × World → Prop
  | cached {handle : Handle} (found : Assoc.find? d.cacheKey w.session.cache = some handle) :
      ResourceOutcome d w (.ok handle, w)
  | unconnected (absent : Assoc.find? d.cacheKey w.session.cache = none)
      (unconnected : w.session.dynamic = none) : ResourceOutcome d w (.error notConnected, w)
  | refused {client : Nat} (absent : Assoc.find? d.cacheKey w.session.cache = none)
      (dynamic : w.session.dynamic = some client) (refusal : Refusal) (server : Server)
      (replied : w.server.discover d.apiVersion d.kind = (.error refusal, server)) :
      ResourceOutcome d w (.error (refusal.toFailure "discover" d.kind none none),
        w.made ⟨.discover d, some refusal⟩ server)
  | discovered {client : Nat} (absent : Assoc.find? d.cacheKey w.session.cache = none)
      (dynamic : w.session.dynamic = some client) (server : Server)
      (replied : w.server.discover d.apiVersion d.kind = (.ok (), server)) :
      ResourceOutcome d w (.ok ⟨d.apiVersion, d.kind, client⟩,
        { w.made ⟨.discover d, none⟩ server with
          session := { w.session with
            cache := Assoc.set d.cacheKey ⟨d.apiVersion, d.kind, client⟩ w.session.cache } })

theorem resource_outcome (d : Definition) (w : World) : ResourceOutcome d w (resource d w) := by
  have reading : Action.session w = (.ok w.session, w) := rfl
  cases found : Assoc.find? d.cacheKey w.session.cache with
  | some handle =>
    have same : resource d w = (.ok handle, w) := by
      unfold resource
      rw [bind_of_ok reading, found]
      rfl
    rw [same]
    exact .cached found
  | none =>
    have asked : resource d w = (do
        let handle ← discover d
        let s ← Action.session
        setSession { s with cache := Assoc.set d.cacheKey handle s.cache }
        return handle : Action Handle) w := by
      unfold resource
      rw [bind_of_ok reading, found]
    rw [asked]
    cases dynamic : w.session.dynamic with
    | none =>
      have failed : discover d w = (.error notConnected, w) := by
        unfold discover
        rw [bind_of_ok reading, dynamic]
        rfl
      rw [bind_of_error failed]
      exact .unconnected found dynamic
    | some client =>
      have calling : discover d w = (do
          call (.discover d) (Server.discover · d.apiVersion d.kind)
            (Refusal.toFailure "discover" d.kind none none)
          return ⟨d.apiVersion, d.kind, client⟩ : Action Handle) w := by
        unfold discover
        rw [bind_of_ok reading, dynamic]
      rcases call_cases (.discover d) (Server.discover · d.apiVersion d.kind)
        (Refusal.toFailure "discover" d.kind none none) w with
        ⟨⟨⟩, server, replied, made⟩ | ⟨refusal, server, replied, made⟩
      · have answered : discover d w =
            (.ok ⟨d.apiVersion, d.kind, client⟩, w.made ⟨.discover d, none⟩ server) := by
          rw [calling, bind_of_ok made]
          rfl
        rw [bind_of_ok answered]
        exact .discovered found dynamic server replied
      · have failed : discover d w = (.error (refusal.toFailure "discover" d.kind none none),
            w.made ⟨.discover d, some refusal⟩ server) := by
          rw [calling, bind_of_error made]
        rw [bind_of_error failed]
        exact .refused found dynamic refusal server replied

/-- After its handle is there an object is read without touching the connection. -/
theorem get_kept (d : Definition) (name : Value) (ns : Option String) (w : World) :
    (resource d w).2.Kept (get d name ns w).2 := by
  unfold get
  rcases outcome : resource d w with ⟨failure | handle, after⟩
  · rw [bind_of_error outcome]
    exact .refl after
  · rw [bind_of_ok outcome]
    exact quiet_call (fun _ => rfl) _ _ after

theorem list_kept (d : Definition) (ns selector : Option String) (w : World) :
    (resource d w).2.Kept (list d ns selector w).2 := by
  unfold list
  rcases outcome : resource d w with ⟨failure | handle, after⟩
  · rw [bind_of_error outcome]
    exact .refl after
  · rw [bind_of_ok outcome]
    exact quiet_call (fun _ => rfl) _ _ after

theorem quiet_secret (name ns : String) : Quiet (secret name ns) := by
  refine quiet_bind (fun w => .refl w) fun session => ?_
  cases session.core with
  | none => exact fun w => .refl w
  | some _ => exact quiet_call (fun _ => rfl) _ _

end Client
end ClusterLedger
