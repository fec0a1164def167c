import ClusterLedger.Proofs.Connection.Handles
import ClusterLedger.Proofs.Consulting.Readiness
import Mathlib.Logic.Function.Basic

namespace ClusterLedger

open ClusterLedger.Action

structure World.SameButEvents (w w' : World) : Prop where
  server : w.server = w'.server
  session : w.session = w'.session
  nextClient : w.nextClient = w'.nextClient
  calls : w.calls = w'.calls

namespace Action

variable {α : Type}

theorem sameButEvents_session : RunRelated World.SameButEvents Eq session session :=
  fun _ _ same => ⟨.ok same.session, same⟩

theorem sameButEvents_setSession (s : Session) :
    RunRelated World.SameButEvents Eq (setSession s) (setSession s) :=
  fun _ _ same => ⟨.ok rfl, { same with session := rfl }⟩

theorem sameButEvents_record (event : Event) :
    RunRelated World.SameButEvents Eq (record event) (record event) :=
  fun _ _ same => ⟨.ok rfl, ⟨same.server, same.session, same.nextClient, same.calls⟩⟩

theorem sameButEvents_call (c : Call) (reply : Server → Except Refusal α × Server)
    (meaning : Refusal → Failure) :
    RunRelated World.SameButEvents Eq (call c reply meaning) (call c reply meaning) := by
  intro w w' same
  unfold call
  rw [← same.server]
  rcases reply w.server with ⟨refusal | a, server⟩
  · refine ⟨.error (meaning refusal), ⟨rfl, same.session, same.nextClient, ?_⟩⟩
    exact congrArg (· ++ [⟨c, some refusal⟩]) same.calls
  · exact ⟨.ok rfl, ⟨rfl, same.session, same.nextClient, congrArg (· ++ [⟨c, none⟩]) same.calls⟩⟩

theorem sameButEvents_resource (d : Definition) :
    RunRelated World.SameButEvents Eq (Client.resource d) (Client.resource d) := by
  have discovered : RunRelated World.SameButEvents Eq (Client.discover d) (Client.discover d) := by
    refine runRelated_bind_same sameButEvents_session fun s => ?_
    cases s.dynamic with
    | none => exact runRelated_ofExcept (.error Client.notConnected)
    | some client => exact runRelated_bind_same (sameButEvents_call _ _ _) fun _ => runRelated_pure rfl
  refine runRelated_bind_same sameButEvents_session fun s => ?_
  cases Assoc.find? d.cacheKey s.cache with
  | some handle => exact runRelated_pure rfl
  | none =>
    refine runRelated_bind_same discovered fun handle => ?_
    refine runRelated_bind_same sameButEvents_session fun s => ?_
    exact runRelated_bind_same (sameButEvents_setSession _) fun _ => runRelated_pure rfl

theorem Consults.sameButEvents {ds : List Definition} {x : Action α} (consults : Consults ds x) :
    RunRelated World.SameButEvents Eq x x := by
  refine consults.runRelated sameButEvents_record ?_ ?_ ?_
  · intro d _ name ns
    exact runRelated_bind_same (sameButEvents_resource d) fun handle => sameButEvents_call _ _ _
  · intro d _ ns selector
    exact runRelated_bind_same (sameButEvents_resource d) fun handle => sameButEvents_call _ _ _
  · intro name ns
    refine runRelated_bind_same sameButEvents_session fun s => ?_
    cases s.core with
    | none => exact runRelated_ofExcept (.error Client.notConnected)
    | some client => exact sameButEvents_call _ _ _

end Action

namespace Reconciler

theorem sameButEvents_missingAmong (ds : List Definition) :
    RunRelated World.SameButEvents Eq (missingAmong ds) (missingAmong ds) := by
  induction ds with
  | nil => exact runRelated_pure rfl
  | cons d rest ih =>
    refine runRelated_bind_same (runRelated_attempt (sameButEvents_resource d)) fun outcome => ?_
    cases outcome with
    | ok handle => exact ih
    | error failure =>
      dsimp only
      split
      · exact runRelated_bind_same ih fun kinds => runRelated_pure rfl
      · exact runRelated_ofExcept (.error failure)

inductive Starts (r : Reconciler) : World → Prop
  | connected (before : World) {after : World} (undiscovered : before.session.cache = [])
      (ok : r.connect before = (.ok (), after)) : Starts r after
  | given {w : World} (borrowed : w.session = .borrowed) : Starts r w

theorem session_of_connect {r : Reconciler} {before after : World}
    (ok : r.connect before = (.ok (), after)) :
    ∃ client, after.session = ⟨some client, some client, some client, before.session.cache⟩ := by
  unfold connect at ok
  cases advised : r.settings.advice r.host with
  | error failure =>
    rw [advised] at ok
    cases failure <;> cases ok
  | ok advice =>
    rw [advised] at ok
    dsimp only at ok
    have kept := quiet_each (fun text => quiet_record (.advice text)) advice before
    rcases noted : each (fun text => record (.advice text)) advice before with ⟨failure | units, now⟩
    · rw [bind_of_error noted] at ok
      cases ok
    · rw [noted] at kept
      rw [bind_of_ok noted] at ok
      have outcome := Client.connect_outcome r.host r.settings now
      rw [ok] at outcome
      cases outcome with
      | connected access session =>
        rw [kept.session] at session
        exact ⟨_, session⟩

theorem Starts.ready {r : Reconciler} {w : World} (starts : r.Starts w) (ds : List Definition) :
    w.session.Ready ds := by
  cases starts with
  | connected before undiscovered ok =>
    obtain ⟨client, session⟩ := session_of_connect ok
    rw [undiscovered] at session
    rw [session]
    exact ⟨rfl, rfl, fun d _ handle none => by cases none⟩
  | given borrowed =>
    rw [borrowed]
    exact ⟨rfl, rfl, fun d _ handle none => by cases none⟩

end Reconciler

inductive Question where
  | topology (name ns : String)
  | hasReached (name ns target : String)
  | specYaml (name ns : String)
  | statusYaml (name ns : String)
  | credentials (declared : Credentials) (ref : Option ObjectReference)

namespace Question

def inspection : Question → Inspection
  | topology name ns => .topology name ns
  | hasReached name ns target => .clusterReached name ns target
  | specYaml name ns => .specYaml name ns
  | statusYaml name ns => .statusYaml name ns
  | credentials declared ref => .credentials declared ref

/-- Questions need required types only. -/
theorem consults (q : Question) (r : Reconciler) :
    Consults Definition.required (q.inspection.perform r) := by
  refine (q.inspection.consults r).mono ?_
  cases q <;>
    simp [inspection, Inspection.definitions, Collection.definitions, Definition.required]

end Question

structure Surroundings where
  world : World
  maps : Nat → ResourceMap

/-- What a reconciler is asked to do, or what happens to the server between two of its operations. -/
inductive Errand where
  | ask (q : Question)
  | missing
  /-- The directory is given as it is at that time, the map by its number. -/
  | detectRename (directory : Option Directory) (i : Nat) (kind : Value) (org specName : String)
      (statusName : Option String)
  | serverChange (server : Server)

namespace Errand

def after (r : Reconciler) (s : Surroundings) : Errand → Surroundings
  | ask q => { s with world := (q.inspection.perform r s.world).2 }
  | missing => { s with world := (Reconciler.missing s.world).2 }
  | detectRename directory i kind org specName statusName =>
    let detection := { r with directory }.detectRename (s.maps i) kind org specName statusName
    { world := { s.world with events := s.world.events ++ detection.events }
      maps := Function.update s.maps i detection.map }
  | serverChange server => { s with world := { s.world with server } }

def run (r : Reconciler) (s : Surroundings) (errands : List Errand) : Surroundings :=
  errands.foldl (after r) s

def detectsIn (i : Nat) : Errand → Bool
  | detectRename _ j .. => i = j
  | _ => false

end Errand

structure Surroundings.SameBesideMap (i : Nat) (s t : Surroundings) : Prop where
  world : s.world.SameButEvents t.world
  maps : ∀ j, j ≠ i → s.maps j = t.maps j

namespace Errand

variable {r : Reconciler} {s t : Surroundings}

theorem ready_after (ready : s.world.session.Ready Definition.required) (errand : Errand) :
    (errand.after r s).world.session.Ready Definition.required := by
  have resource : ∀ d ∈ Definition.required,
      Maintains (Session.Ready Definition.required) (Client.resource d) :=
    fun d among => Client.maintains_ready_resource Definition.keysApart_required among
  cases errand with
  | ask q => exact (q.consults r).maintains resource s.world ready
  | missing => exact Reconciler.maintains_missingAmong resource s.world ready
  | detectRename directory i kind org specName statusName => exact ready
  | serverChange server => exact ready

theorem ready_run (ready : s.world.session.Ready Definition.required) (errands : List Errand) :
    (run r s errands).world.session.Ready Definition.required := by
  induction errands generalizing s with
  | nil => exact ready
  | cons errand rest ih => exact ih (ready_after ready errand)

theorem sameBesideMap_after_detecting {i : Nat} (same : s.SameBesideMap i t) {errand : Errand}
    (detects : errand.detectsIn i = true) : (errand.after r s).SameBesideMap i t := by
  cases errand with
  | ask q => cases detects
  | missing => cases detects
  | serverChange server => cases detects
  | detectRename directory j kind org specName statusName =>
    obtain rfl : i = j := by simpa [detectsIn] using detects
    refine ⟨⟨same.world.server, same.world.session, same.world.nextClient, same.world.calls⟩, ?_⟩
    intro j other
    rw [← same.maps j other]
    exact Function.update_of_ne other _ _

/-- What does not detect a rename in a map does not depend on that map. -/
theorem sameBesideMap_after {i : Nat} (same : s.SameBesideMap i t) {errand : Errand}
    (other : errand.detectsIn i = false) : (errand.after r s).SameBesideMap i (errand.after r t) := by
  cases errand with
  | ask q => exact ⟨((q.consults r).sameButEvents _ _ same.world).2, same.maps⟩
  | missing => exact ⟨(Reconciler.sameButEvents_missingAmong _ _ _ same.world).2, same.maps⟩
  | serverChange server => exact ⟨{ same.world with server := rfl }, same.maps⟩
  | detectRename directory j kind org specName statusName =>
    have different : j ≠ i := by
      intro equal
      simp [detectsIn, equal] at other
    have maps := same.maps j different
    refine ⟨⟨same.world.server, same.world.session, same.world.nextClient, same.world.calls⟩, ?_⟩
    intro k beside
    simp only [after, maps]
    by_cases own : k = j
    · rw [own, Function.update_self, Function.update_self]
    · rw [Function.update_of_ne own, Function.update_of_ne own]
      exact same.maps k beside

theorem sameBesideMap_run {i : Nat} (same : s.SameBesideMap i t) (errands : List Errand) :
    (run r s errands).SameBesideMap i (run r t (errands.filter fun errand => !errand.detectsIn i)) := by
  induction errands generalizing s t with
  | nil => exact same
  | cons errand rest ih =>
    cases detects : errand.detectsIn i with
    | true =>
      rw [List.filter_cons_of_neg (by simp [detects])]
      exact ih (sameBesideMap_after_detecting same detects)
    | false =>
      rw [List.filter_cons_of_pos (by simp [detects])]
      exact ih (sameBesideMap_after same detects)

end Errand

namespace Reconciler

/--
Where all required types are served, every question is answered as by a reconciler that was just
connected, whatever was asked before. And leaving all rename detections for a map out of what was asked
changes nothing but that map and the events.
-/
theorem answers_as_fresh (r : Reconciler) (start : Surroundings) (errands : List Errand) :
    let now := Errand.run r start errands
    (r.Starts start.world → now.world.server.Serves Definition.required →
      ∀ fresh : World, r.Starts fresh → fresh.server = now.world.server →
      ∀ q : Question, (q.inspection.perform r now.world).1 = (q.inspection.perform r fresh).1) ∧
    ∀ i, now.SameBesideMap i
      (Errand.run r start (errands.filter fun errand => !errand.detectsIn i)) := by
  intro now
  constructor
  · intro starts serves fresh connected server q
    have ready : now.world.session.Ready Definition.required :=
      Errand.ready_run (starts.ready Definition.required) errands
    have alongside : now.world.Alongside Definition.required fresh :=
      ⟨server.symm, serves, ready, connected.ready Definition.required⟩
    have answers := ((q.consults r).alongside Definition.keysApart_required _ _ alongside).1
    exact answers.eq
  · intro i
    have same : start.SameBesideMap i start := ⟨⟨rfl, rfl, rfl, rfl⟩, fun _ _ => rfl⟩
    exact Errand.sameBesideMap_run same errands

theorem answers_as_fresh_after_failures :
    let r : Reconciler := ⟨.inCluster, .bare, none⟩
    let failing : FailureRule :=
      ⟨.discover, some "KubeadmControlPlane", none, none, .refused (some 503) none⟩
    let start : Surroundings := ⟨(r.connect .empty).2, fun _ => .empty⟩
    let errands : List Errand := [.serverChange ⟨[], [], [], [failing], none, none⟩,
      .ask (.topology "demo" "clusters"), .detectRename none 0 (.text "ovdc") "org" "demo" none,
      .serverChange World.empty.server]
    let now := (Errand.run r start errands).world
    let fresh := (r.connect .empty).2
    now.session.cache ≠ fresh.session.cache ∧
      ∀ q : Question, (q.inspection.perform r now).1 = (q.inspection.perform r fresh).1 := by
  intro r failing start errands now fresh
  have connected : r.Starts fresh := .connected .empty rfl rfl
  have serves : now.server.Serves Definition.required := by
    intro d among
    simp only [Definition.required, List.mem_cons, List.not_mem_nil, or_false] at among
    rcases among with rfl | rfl | rfl | rfl | rfl | rfl | rfl <;> rfl
  have cached : now.session.cache =
      [("cluster.x-k8s.io/v1beta1/machinedeployments", ⟨"cluster.x-k8s.io/v1beta1", "MachineDeployment", 0⟩)] :=
    rfl
  refine ⟨?_, (answers_as_fresh r start errands).1 connected serves fresh connected rfl⟩
  rw [cached]
  decide

end Reconciler
end ClusterLedger
