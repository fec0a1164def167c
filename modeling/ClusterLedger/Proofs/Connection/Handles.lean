import ClusterLedger.Proofs.Connection.History

namespace ClusterLedger

open Mark

namespace Settings

def inCluster : Settings :=
  ⟨.inCluster, none, none, .info, RedactionRule.defaultSentinel, RedactionRule.defaultFields⟩

end Settings

namespace World

def empty : World := ⟨⟨[], [], [], [], none, none⟩, .fresh, 0, [], []⟩

end World

namespace ClientCall

def connectInCluster : ClientCall := .connect .bare .inCluster

/--
A handle is of the type asked for exactly if every type discovered under its key since the last
disconnect is that type.
-/
theorem resource_of_type_iff (w : World) (calls : List ClientCall) {d : Definition} {handle : Handle}
    {now : World} (found : Client.resource d (run w calls) = (.ok handle, now)) :
    (handle.apiVersion = d.apiVersion ∧ handle.kind = d.kind) ↔
      ∀ e, .discovered e ∈ since .disconnected (run w calls).marks → e.cacheKey = d.cacheKey →
        e.apiVersion = d.apiVersion ∧ e.kind = d.kind := by
  have faithful := World.faithful_run w calls
  have outcome := Client.resource_outcome d (run w calls)
  rw [found] at outcome
  cases outcome with
  | cached present =>
    constructor
    · rintro ⟨version, kind⟩ e discovered shared
      obtain ⟨ofVersion, ofKind, _⟩ := faithful.handle discovered (shared ▸ present)
      exact ⟨ofVersion.symm.trans version, ofKind.symm.trans kind⟩
    · -- The cache has one handle for the key, and it is there because some type was discovered.
      intro all
      obtain ⟨e, discovered, shared⟩ := faithful.noted _ _ present
      obtain ⟨version, kind⟩ := all e discovered shared
      obtain ⟨ofVersion, ofKind, _⟩ := faithful.handle discovered (shared ▸ present)
      exact ⟨ofVersion.trans version, ofKind.trans kind⟩
  | discovered absent dynamic server =>
    have unshared : ∀ e, .discovered e ∈ since .disconnected (run w calls).marks →
        e.cacheKey ≠ d.cacheKey := by
      intro e discovered shared
      obtain ⟨client, cached, _⟩ := faithful.cached e discovered
      rw [shared, absent] at cached
      cases cached
    constructor
    · intro _ e discovered shared
      exact absurd shared (unshared e discovered)
    · exact fun _ => ⟨rfl, rfl⟩

theorem resource_of_type_machine :
    let calls := [connectInCluster, .resource .cluster, .disconnect, connectInCluster]
    let handle : Handle := ⟨"cluster.x-k8s.io/v1beta1", "Machine", 1⟩
    ∃ now, Client.resource .machine (run .empty calls) = (.ok handle, now) ∧
      handle.apiVersion = Definition.machine.apiVersion ∧ handle.kind = Definition.machine.kind := by
  intro calls handle
  let now := (Client.resource .machine (run .empty calls)).2
  have found : Client.resource .machine (run .empty calls) = (.ok handle, now) := rfl
  have nothing : since .disconnected (run .empty calls).marks = [.connected] := by decide
  have typed := (resource_of_type_iff .empty calls found).mpr fun e discovered => by
    rw [nothing] at discovered
    simp at discovered
  exact ⟨now, found, typed⟩

/-- A list kind has the plural of its items, and gets their handle. -/
theorem resource_of_other_type :
    ¬ ∀ (w : World) (calls : List ClientCall) (d : Definition) (handle : Handle) (now : World),
      Client.resource d (run w calls) = (.ok handle, now) →
      handle.apiVersion = d.apiVersion ∧ handle.kind = d.kind := by
  intro always
  let clusterList : Definition := ⟨"cluster.x-k8s.io", "v1beta1", "clusters", "ClusterList"⟩
  have typed := always .empty [connectInCluster, .resource .cluster] clusterList
    ⟨"cluster.x-k8s.io/v1beta1", "Cluster", 0⟩ _ rfl
  exact absurd typed.2 (by decide)

/--
All cached handles belong to the client in use exactly if whatever was discovered since the last
disconnect was also discovered since the last connect.
-/
theorem handles_current_iff (w : World) (calls : List ClientCall) :
    let now := run w calls
    (∀ key handle, Assoc.find? key now.session.cache = some handle →
      now.session.dynamic = some handle.client) ↔
    ∀ d, .discovered d ∈ since .disconnected now.marks → .discovered d ∈ since .connected now.marks := by
  intro now
  have faithful : now.Faithful := World.faithful_run w calls
  constructor
  · intro current d discovered
    obtain ⟨client, cached, _, came⟩ := faithful.cached d discovered
    exact came.mp (current _ _ cached)
  · intro recent key handle present
    obtain ⟨d, discovered, shared⟩ := faithful.noted key handle present
    obtain ⟨_, _, came⟩ := faithful.handle discovered (shared ▸ present)
    exact came.mpr (recent d discovered)

/-- A second connect brings a new client and leaves the handles of the first. -/
theorem stale_handle_after_reconnect :
    ¬ ∀ (w : World) (calls : List ClientCall) (key : String) (handle : Handle),
      Assoc.find? key (run w calls).session.cache = some handle →
      (run w calls).session.dynamic = some handle.client := by
  intro always
  have current := always .empty [connectInCluster, .resource .cluster, connectInCluster]
    "cluster.x-k8s.io/v1beta1/clusters" ⟨"cluster.x-k8s.io/v1beta1", "Cluster", 0⟩ rfl
  exact absurd current (by decide)

end ClientCall
end ClusterLedger
