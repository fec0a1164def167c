import ClusterLedger.Proofs.Connection.Handles

namespace ClusterLedger

namespace Client

def Unconnected {α : Type} (x : Action α) (w : World) : Prop := (x w).1 = .error notConnected

end Client

/-- Two sessions that no operation tells apart, by what it refuses, finds in the cache or closes. -/
structure Session.Resembles (s t : Session) : Prop where
  connected : s.isConnected = t.isConnected
  get : ∀ (w : World) d name ns, Client.Unconnected (Client.get d name ns) { w with session := s } ↔
    Client.Unconnected (Client.get d name ns) { w with session := t }
  list : ∀ (w : World) d ns selector,
    Client.Unconnected (Client.list d ns selector) { w with session := s } ↔
      Client.Unconnected (Client.list d ns selector) { w with session := t }
  secret : ∀ (w : World) name ns, Client.Unconnected (Client.secret name ns) { w with session := s } ↔
    Client.Unconnected (Client.secret name ns) { w with session := t }
  cache : s.cache = t.cache
  closed : ∀ w : World, (Client.disconnect { w with session := s }).2.calls.map (·.call) =
    (Client.disconnect { w with session := t }).2.calls.map (·.call)

namespace Session

theorem Resembles.refl (s : Session) : s.Resembles s where
  connected := rfl
  get _ _ _ _ := Iff.rfl
  list _ _ _ _ := Iff.rfl
  secret _ _ _ := Iff.rfl
  cache := rfl
  closed _ := rfl

theorem Resembles.api {s t : Session} (resembles : s.Resembles t) : s.api = t.api := by
  have closed := resembles.closed .empty
  cases own : s.api with
  | none =>
    rw [Client.disconnect_of_none own] at closed
    cases other : t.api with
    | none => rfl
    | some client =>
      rw [Client.disconnect_of_some other] at closed
      cases closed
  | some client =>
    rw [Client.disconnect_of_some own] at closed
    cases other : t.api with
    | none =>
      rw [Client.disconnect_of_none other] at closed
      cases closed
    | some client' =>
      rw [Client.disconnect_of_some other] at closed
      have same : [Call.close client] = [Call.close client'] := closed
      cases same
      rfl

end Session

namespace Client

/--
A connect that fails leaves the client for custom resources and the cache alone. It leaves the whole
session as it was exactly if it failed to set up access.
-/
theorem resembles_after_failed_connect_iff {w after : World} {host : Host} {settings : Settings}
    {failure : Failure} (numbered : w.Numbered)
    (failed : connect host settings w = (.error failure, after)) :
    (after.session.dynamic = w.session.dynamic ∧ after.session.cache = w.session.cache) ∧
    (after.session.Resembles w.session ↔
      ∃ reason loaded, loadAccess host settings w = (.error reason, loaded)) := by
  have outcome := connect_outcome host settings w
  rw [failed] at outcome
  cases outcome with
  | noAccess noAccess =>
    have kept := quiet_loadAccess host settings w
    rw [noAccess] at kept
    have same : after.session = w.session := kept.session
    rw [same]
    exact ⟨⟨rfl, rfl⟩, iff_of_true (.refl _) ⟨failure, after, noAccess⟩⟩
  | noClient refusal access session nextClient marks =>
    rw [session]
    refine ⟨⟨rfl, rfl⟩, ?_⟩
    constructor
    · -- The new client has a number of its own, so the former one is no longer there to be closed.
      intro resembles
      have own : some w.nextClient = w.session.api := resembles.api
      have bound := numbered w.nextClient (by simp [own])
      omega
    · rintro ⟨reason, loaded, noAccess⟩
      rw [access] at noAccess
      cases noAccess

theorem resembles_after_unloadable_access :
    let server : Server := ⟨[], [], [], [], some "not in a cluster", none⟩
    let w : World := { World.empty with server }
    ∃ failure after, connect .bare .inCluster w = (.error failure, after) ∧
      after.session.Resembles w.session := by
  intro server w
  have numbered : w.Numbered := by
    intro client member
    simp [w, World.empty, Session.fresh] at member
  have noAccess : loadAccess .bare .inCluster w =
      (.error (connectFailure (.unloadable "not in a cluster")), (loadAccess .bare .inCluster w).2) := rfl
  have failed : connect .bare .inCluster w =
      (.error (connectFailure (.unloadable "not in a cluster")), (connect .bare .inCluster w).2) := rfl
  have same := (resembles_after_failed_connect_iff numbered failed).2.mpr ⟨_, _, noAccess⟩
  exact ⟨_, _, failed, same⟩

/-- A client that was never connected refuses to read a secret; after a connect that failed it reads one. -/
theorem secret_read_after_failed_connect :
    ¬ ∀ (w after : World) (host : Host) (settings : Settings) (failure : Failure),
      w.Numbered → connect host settings w = (.error failure, after) →
      after.session.Resembles w.session := by
  intro always
  let secret : StoredSecret := ⟨"creds", "clusters", .ofRecord [("username", .text "YWxpY2U=")]⟩
  let refusing : FailureRule :=
    ⟨.connect, none, none, none, .refused (some 503) (some "Service Unavailable")⟩
  let w : World := { World.empty with server := ⟨[], [secret], [], [refusing], none, none⟩ }
  have numbered : w.Numbered := by
    intro client member
    simp [w, World.empty, Session.fresh] at member
  have resembles := always w _ .bare .inCluster _ numbered rfl
  have refused : Unconnected (Client.secret "creds" "clusters") w := rfl
  have still := (resembles.secret w "creds" "clusters").mpr refused
  cases still

end Client
end ClusterLedger
