import ClusterLedger.Proofs.Connection.Access
import ClusterLedger.Proofs.Connection.Handles
import ClusterLedger.Reconciler

namespace ClusterLedger

namespace Reconciler

open ClusterLedger.Action

variable {r : Reconciler} {w : World}

inductive ConnectOutcome (r : Reconciler) (w : World) : Except Failure Unit × World → Prop
  | connected {after : World} (usable : r.settings.Usable r.host w.server)
      (connected : after.session.isConnected = true) : ConnectOutcome r w (.ok (), after)
  | refused {refusal : Refusal} {after : World} (usable : r.settings.Usable r.host w.server)
      (refused : w.server.connect.1 = .error refusal) :
      ConnectOutcome r w (.error (Client.connectFailure refusal), after)
  | misconfigured {after : World} (what : Misconfiguration) (context : Context)
      (useless : ¬ r.settings.Usable r.host w.server)
      (settled : ∀ failure, ¬ r.settings.Strays r.host w.server failure) :
      ConnectOutcome r w (.error (.misconfigured what context), after)
  | strayed {failure : Failure} {after : World} (strays : r.settings.Strays r.host w.server failure) :
      ConnectOutcome r w (.error failure, after)

theorem advising (texts : List String) (w : World) :
    ∃ noted after, each (fun text => record (.advice text)) texts w = (.ok noted, after) ∧
      after.server = w.server := by
  induction texts generalizing w with
  | nil => exact ⟨[], w, rfl, rfl⟩
  | cons text rest ih =>
    have recorded : record (.advice text) w = (.ok (), { w with events := w.events ++ [.advice text] }) := rfl
    obtain ⟨noted, after, later, same⟩ := ih { w with events := w.events ++ [.advice text] }
    refine ⟨() :: noted, after, ?_, same⟩
    rw [each, bind_of_ok recorded, bind_of_ok later]
    rfl

theorem connect_outcome (r : Reconciler) (w : World) : r.ConnectOutcome w (r.connect w) := by
  have checked := r.settings.advice_outcome r.host w.server
  unfold connect
  generalize r.settings.advice r.host = advice at checked
  cases checked with
  | rejected what unsound settled =>
    exact .misconfigured (.rejectedSettings what.message) {} (fun usable => unsound usable.sound) settled
  | strayed unreported strays =>
    rename_i failure
    cases failure with
    | badValue what => exact absurd rfl (unreported what)
    | _ => exact .strayed strays
  | sound sound =>
    obtain ⟨noted, advised, told, same⟩ := advising r.settings.hints w
    show ConnectOutcome r w ((each _ _ >>= fun _ => Client.connect r.host r.settings) w)
    rw [bind_of_ok told]
    have outcome := Client.loadAccess_outcome r.host r.settings advised
    rcases access : Client.loadAccess r.host r.settings advised with ⟨failure | ⟨⟩, loaded⟩
    · rw [access] at outcome
      have failed : Client.connect r.host r.settings advised = (.error failure, loaded) := by
        unfold Client.connect
        rw [bind_of_error access]
      rw [failed]
      cases outcome with
      | unloadable text inaccessible expanded =>
        rw [same] at inaccessible
        exact .misconfigured (.unloadable text) {} (fun usable => inaccessible usable.accessible)
          (sound.settled expanded)
      | unexpanded tried failed =>
        rw [same] at tried
        exact .strayed (sound.strays tried failed)
    · rw [access] at outcome
      cases outcome with
      | granted accessible server =>
        rw [same] at accessible server
        rcases Client.connect_cases access with ⟨after, made, connected⟩ | ⟨refusal, after, made, refused⟩
        · rw [made]
          exact .connected ⟨sound, accessible⟩ connected
        · rw [made]
          exact .refused ⟨sound, accessible⟩ (server ▸ refused)

/-- What a connect may come to: a connection, or a fault, which tells where the settings are of no use. -/
inductive Contained (r : Reconciler) (w : World) : Except Failure Unit × World → Prop
  | connected {after : World} (usable : r.settings.Usable r.host w.server)
      (connected : after.session.isConnected = true) : Contained r w (.ok (), after)
  | refused {fault : Fault} {after : World} (usable : r.settings.Usable r.host w.server) :
      Contained r w (.error (.fault fault), after)
  | misconfigured {what : Misconfiguration} {context : Context} {after : World}
      (useless : ¬ r.settings.Usable r.host w.server) :
      Contained r w (.error (.misconfigured what context), after)

end Reconciler

inductive Refusal.OfCall : Refusal → Prop
  | refused (status : Option Int) (reason : Option String) : OfCall (.refused status reason)
  | unreachable (text : String) : OfCall (.unreachable text)

theorem Refusal.OfCall.fault {refusal : Refusal} (ofCall : refusal.OfCall) :
    ∃ fault, Client.connectFailure refusal = .fault fault := by
  cases ofCall with
  | refused status reason =>
    by_cases absent : status = some 404
    · exact ⟨_, by rw [Client.connectFailure, toFailure, if_pos absent]⟩
    · exact ⟨_, by rw [Client.connectFailure, toFailure, if_neg absent]; rfl⟩
  | unreachable text => exact ⟨_, rfl⟩

namespace Reconciler

variable {r : Reconciler} {w : World}

/--
Connecting comes to a connection or a fault, and to one that says so where the settings are of no use,
exactly if no failure strays: a home that is not known or a path that cannot be followed in `kubeconfig` mode,
or, in `auto` mode outside of a cluster, any path that cannot be expanded. Those are what it then fails with.
-/
theorem connect_contained_iff
    (refusals : ∀ refusal, w.server.connect.1 = .error refusal → refusal.OfCall) :
    (r.Contained w (r.connect w) ↔ ∀ failure, ¬ r.settings.Strays r.host w.server failure) ∧
    ∀ failure, r.settings.Strays r.host w.server failure → (r.connect w).1 = .error failure := by
  have outcome := r.connect_outcome w
  have straying : ∀ failure, r.settings.Strays r.host w.server failure →
      (r.connect w).1 = .error failure := by
    intro failure strays
    generalize r.connect w = result at outcome
    cases outcome with
    | connected usable => exact absurd usable strays.not_usable
    | refused usable => exact absurd usable strays.not_usable
    | misconfigured _ _ _ settled => exact absurd strays (settled failure)
    | strayed strays' => rw [strays'.unique strays]
  refine ⟨⟨?_, ?_⟩, straying⟩
  · intro contained failure strays
    have failed := straying failure strays
    generalize r.connect w = result at contained failed
    cases contained with
    | connected => cases failed
    | refused => exact strays.not_fault _ (Except.error.inj failed).symm
    | misconfigured => exact strays.not_fault _ (Except.error.inj failed).symm
  · intro settled
    generalize r.connect w = result at outcome
    cases outcome with
    | connected usable connected => exact .connected usable connected
    | refused usable refused =>
      obtain ⟨fault, same⟩ := (refusals _ refused).fault
      rw [same]
      exact .refused usable
    | misconfigured what context useless => exact .misconfigured useless
    | strayed strays => exact absurd strays (settled _)

def reading (mode : AuthMode) (path : String) : Reconciler where
  settings := ⟨mode, some path, none, .info, RedactionRule.defaultSentinel, RedactionRule.defaultFields⟩
  host := { Host.bare with users := [("root", "/root")], files := ["/root/config"] }
  directory := none

/-- A refusal by the server is contained, and so is no directory in which the access file may not be looked for. -/
theorem connect_contained_iff_refused :
    let r := reading .auto "~root/config"
    let shut := { reading .kubeconfig "~root/config" with host := { r.host with closed := ["/root"] } }
    let refusing : FailureRule := ⟨.connect, none, none, none, .refused (some 503) none⟩
    let w : World := { World.empty with server := ⟨[], [], [], [refusing], some "not in a cluster", none⟩ }
    r.Contained w (r.connect w) ∧ (∀ failure, ¬ r.settings.Strays r.host w.server failure) ∧
      shut.settings.Strays shut.host w.server (.unfollowed .forbidden) ∧ ¬ shut.Contained w (shut.connect w) ∧
      (shut.connect w).1 = .error (.unfollowed .forbidden) := by
  intro r shut refusing w
  have refusals : ∀ refusal, w.server.connect.1 = .error refusal → refusal.OfCall := by
    intro refusal replied
    cases replied
    exact .refused _ _
  have usable : r.settings.Usable r.host w.server :=
    ⟨trivial, .inr ⟨⟨⟨"/", ["root", "config"]⟩, rfl⟩, rfl⟩⟩
  have contained : r.Contained w (r.connect w) := by
    have failed : r.connect w = (.error (Client.connectFailure (.refused (some 503) none)), (r.connect w).2) := rfl
    rw [failed]
    exact .refused usable
  have place : Path.place shut.host ⟨"/", ["root", "config"]⟩ = .failing .forbidden := by decide +kernel
  have strays : shut.settings.Strays shut.host w.server (.unfollowed .forbidden) :=
    .inr ⟨⟨"/", ["root", "config"]⟩, .forbidden, rfl, place, rfl⟩
  obtain ⟨shut_iff, failsSo⟩ := @connect_contained_iff shut w refusals
  exact ⟨contained, (connect_contained_iff refusals).1.mp contained, strays,
    fun contained => shut_iff.mp contained _ strays, failsSo _ strays⟩

/-- A user that the host does not know has no home, and nothing is made of that. -/
theorem uncontained_unknown_home :
    ¬ ∀ (r : Reconciler) (w : World),
      (∀ refusal, w.server.connect.1 = .error refusal → refusal.OfCall) → r.Contained w (r.connect w) := by
  intro always
  have refusals : ∀ refusal, World.empty.server.connect.1 = .error refusal → refusal.OfCall := by
    intro refusal replied
    cases replied
  have contained := always (reading .kubeconfig "~nobody-here/config") .empty refusals
  have failed : (reading .kubeconfig "~nobody-here/config").connect .empty =
      (.error (.badState .noHome), .empty) := rfl
  rw [failed] at contained
  cases contained

end Reconciler
end ClusterLedger
