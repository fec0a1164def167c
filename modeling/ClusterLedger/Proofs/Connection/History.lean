import ClusterLedger.Proofs.Connection.Operations

namespace ClusterLedger

namespace Mark

/-- The marks after the last one of a kind, newest first. -/
def since (boundary : Mark) (marks : List Mark) : List Mark :=
  marks.reverse.takeWhile fun mark => mark ≠ boundary

variable {boundary mark : Mark} {marks : List Mark}

theorem since_append_boundary (boundary : Mark) (marks : List Mark) :
    since boundary (marks ++ [boundary]) = [] := by
  simp [since]

theorem since_append (different : mark ≠ boundary) :
    since boundary (marks ++ [mark]) = mark :: since boundary marks := by
  simp [since, different]

end Mark

inductive ClientCall where
  | connect (host : Host) (settings : Settings)
  | disconnect
  | resource (d : Definition)
  | get (d : Definition) (name : Value) (ns : Option String)
  | list (d : Definition) (ns selector : Option String)
  | secret (name ns : String)
  | serverChange (server : Server)

namespace ClientCall

def after (w : World) : ClientCall → World
  | connect host settings => (Client.connect host settings w).2
  | disconnect => (Client.disconnect w).2
  | resource d => (Client.resource d w).2
  | get d name ns => (Client.get d name ns w).2
  | list d ns selector => (Client.list d ns selector w).2
  | secret name ns => (Client.secret name ns w).2
  | serverChange server => { w with server }

def run (w : World) (calls : List ClientCall) : World :=
  calls.foldl after { w with session := .fresh, calls := [] }

end ClientCall

namespace World

open Mark

def Numbered (w : World) : Prop :=
  ∀ client, some client ∈ [w.session.api, w.session.core, w.session.dynamic] → client < w.nextClient

/--
The cache holds the types discovered since the last disconnect. The handle of such a type came through
the client in use exactly if it was discovered since the last connect.
-/
structure Faithful (w : World) : Prop where
  fresh : w.session.api = none → w.session = .fresh
  numbered : w.Numbered
  noted : ∀ key handle, Assoc.find? key w.session.cache = some handle →
    ∃ d, .discovered d ∈ since .disconnected w.marks ∧ d.cacheKey = key
  cached : ∀ d, .discovered d ∈ since .disconnected w.marks →
    ∃ client, Assoc.find? d.cacheKey w.session.cache = some ⟨d.apiVersion, d.kind, client⟩ ∧
      client < w.nextClient ∧
      (w.session.dynamic = some client ↔ .discovered d ∈ since .connected w.marks)

variable {w w' : World}

theorem Faithful.handle (faithful : w.Faithful) {d : Definition} {handle : Handle}
    (discovered : .discovered d ∈ since .disconnected w.marks)
    (present : Assoc.find? d.cacheKey w.session.cache = some handle) :
    handle.apiVersion = d.apiVersion ∧ handle.kind = d.kind ∧
      (w.session.dynamic = some handle.client ↔ .discovered d ∈ since .connected w.marks) := by
  obtain ⟨client, cached, _, current⟩ := faithful.cached d discovered
  have same : handle = ⟨d.apiVersion, d.kind, client⟩ := Option.some.inj (present.symm.trans cached)
  rw [same]
  exact ⟨rfl, rfl, current⟩

theorem Faithful.kept (faithful : w.Faithful) (kept : w.Kept w') : w'.Faithful := by
  obtain ⟨fresh, numbered, noted, cached⟩ := faithful
  constructor
  · rw [kept.session]
    exact fresh
  · unfold Numbered
    rw [kept.session, kept.nextClient]
    exact numbered
  · rw [kept.session, kept.marks]
    exact noted
  · rw [kept.session, kept.nextClient, kept.marks]
    exact cached

theorem Faithful.connect (faithful : w.Faithful) (host : Host) (settings : Settings) :
    (Client.connect host settings w).2.Faithful := by
  have outcome := Client.connect_outcome host settings w
  generalize Client.connect host settings w = result at outcome ⊢
  cases outcome with
  | noAccess failed =>
    have kept := Client.quiet_loadAccess host settings w
    rw [failed] at kept
    exact faithful.kept kept
  | noClient refusal access session nextClient marks =>
    -- The new client is part of the session, but the one in use is still the former one.
    constructor <;> dsimp only
    · intro absent
      rw [session] at absent
      cases absent
    · intro client member
      rw [session] at member
      rw [nextClient]
      by_cases newest : client = w.nextClient
      · omega
      · have current : some client = w.session.dynamic := by simpa [newest] using member
        have bound := faithful.numbered client (by simp [current])
        omega
    · intro key handle found
      rw [session] at found
      rw [marks]
      exact faithful.noted key handle found
    · intro d discovered
      rw [marks] at discovered
      obtain ⟨client, found, bound, current⟩ := faithful.cached d discovered
      rw [session, marks]
      exact ⟨client, found, by omega, current⟩
  | connected access session nextClient marks =>
    have apart : Mark.connected ≠ .disconnected := by decide
    constructor <;> dsimp only
    · intro absent
      rw [session] at absent
      cases absent
    · intro client member
      rw [session] at member
      have newest : client = w.nextClient := by simpa using member
      omega
    · intro key handle found
      rw [session] at found
      obtain ⟨d, discovered, same⟩ := faithful.noted key handle found
      rw [marks, since_append apart]
      exact ⟨d, List.mem_cons_of_mem _ discovered, same⟩
    · intro d discovered
      rw [marks, since_append apart] at discovered
      have before : .discovered d ∈ since .disconnected w.marks := by simpa using discovered
      obtain ⟨client, found, bound, _⟩ := faithful.cached d before
      rw [session, marks, since_append_boundary]
      refine ⟨client, found, by omega, ?_⟩
      constructor
      · -- The client in use is a new one, so no handle that was there came through it.
        intro current
        have newest : w.nextClient = client := Option.some.inj current
        omega
      · intro none
        cases none

theorem Faithful.disconnect (faithful : w.Faithful) : (Client.disconnect w).2.Faithful := by
  cases api : w.session.api with
  | none =>
    rw [Client.disconnect_of_none api]
    exact faithful.kept ⟨(faithful.fresh api).symm, rfl, rfl⟩
  | some client =>
    rw [Client.disconnect_of_some api]
    let closed : World := { w.made ⟨.close client, none⟩ w.server with session := .fresh }
    have none : since .disconnected closed.marks = [] := by
      have noted : closed.marks = w.marks ++ [.disconnected] := marks_made w ⟨.close client, none⟩ w.server
      rw [noted, since_append_boundary]
    constructor
    · exact fun _ => rfl
    · intro other member
      simp [Session.fresh] at member
    · intro key handle found
      cases found
    · intro d discovered
      have absent : .discovered d ∈ since .disconnected closed.marks := discovered
      rw [none] at absent
      cases absent

theorem Faithful.resource (faithful : w.Faithful) (d : Definition) : (Client.resource d w).2.Faithful := by
  have outcome := Client.resource_outcome d w
  generalize Client.resource d w = result at outcome ⊢
  cases outcome with
  | cached found => exact faithful
  | unconnected absent unconnected => exact faithful
  | refused absent dynamic refusal server => exact faithful.kept (kept_made rfl w server)
  | @discovered client absent dynamic server =>
    let asked := w.made ⟨.discover d, none⟩ server
    let handle : Handle := ⟨d.apiVersion, d.kind, client⟩
    have noted : asked.marks = w.marks ++ [.discovered d] := marks_made w ⟨.discover d, none⟩ server
    have sinceDisconnected : since .disconnected asked.marks =
        .discovered d :: since .disconnected w.marks := by
      rw [noted]
      exact since_append (by simp)
    have sinceConnected : since .connected asked.marks = .discovered d :: since .connected w.marks := by
      rw [noted]
      exact since_append (by simp)
    constructor <;> dsimp only
    · intro unowned
      have nothing := faithful.fresh unowned
      rw [nothing] at dynamic
      cases dynamic
    · exact faithful.numbered
    · intro key handle found
      show ∃ e, .discovered e ∈ since .disconnected asked.marks ∧ e.cacheKey = key
      rw [sinceDisconnected]
      by_cases same : d.cacheKey = key
      · exact ⟨d, List.mem_cons_self, same⟩
      · rw [Assoc.find?_set_of_ne same] at found
        obtain ⟨e, discovered, same⟩ := faithful.noted key handle found
        exact ⟨e, List.mem_cons_of_mem _ discovered, same⟩
    · intro e discovered
      have earlierOrNow : .discovered e ∈ since .disconnected asked.marks := discovered
      rw [sinceDisconnected] at earlierOrNow
      show ∃ other, Assoc.find? e.cacheKey (Assoc.set d.cacheKey handle w.session.cache) =
          some ⟨e.apiVersion, e.kind, other⟩ ∧ other < w.nextClient ∧
        (w.session.dynamic = some other ↔ .discovered e ∈ since .connected asked.marks)
      rw [sinceConnected]
      by_cases same : e = d
      · subst same
        refine ⟨client, Assoc.find?_set_self _ _ _, faithful.numbered client (by simp [dynamic]), ?_⟩
        exact iff_of_true dynamic List.mem_cons_self
      · -- What was discovered before is in the cache, so it has another key.
        have before : .discovered e ∈ since .disconnected w.marks := by
          simpa [same] using earlierOrNow
        obtain ⟨other, found, bound, current⟩ := faithful.cached e before
        have apart : d.cacheKey ≠ e.cacheKey := by
          intro shared
          rw [← shared, absent] at found
          cases found
        refine ⟨other, ?_, bound, ?_⟩
        · rw [Assoc.find?_set_of_ne apart]
          exact found
        · simpa [same] using current

theorem faithful_fresh (w : World) : Faithful { w with session := .fresh, calls := [] } where
  fresh _ := rfl
  numbered _ member := by simp [Session.fresh] at member
  noted _ _ found := by cases found
  cached _ discovered := by cases discovered

theorem Faithful.after (faithful : w.Faithful) (call : ClientCall) : (call.after w).Faithful := by
  cases call with
  | connect host settings => exact faithful.connect host settings
  | disconnect => exact faithful.disconnect
  | resource d => exact faithful.resource d
  | get d name ns => exact (faithful.resource d).kept (Client.get_kept d name ns w)
  | list d ns selector => exact (faithful.resource d).kept (Client.list_kept d ns selector w)
  | secret name ns => exact faithful.kept (Client.quiet_secret name ns w)
  | serverChange server => exact faithful.kept ⟨rfl, rfl, rfl⟩

theorem faithful_run (w : World) (calls : List ClientCall) : (ClientCall.run w calls).Faithful := by
  have start := faithful_fresh w
  unfold ClientCall.run
  -- The calls are followed from any world in which the cache is faithful.
  generalize ({ w with session := .fresh, calls := [] } : World) = now at start ⊢
  induction calls generalizing now with
  | nil => exact start
  | cons call rest ih => exact ih _ (start.after call)

end World
end ClusterLedger
