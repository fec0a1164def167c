import ClusterLedger.Proofs.Advising
import ClusterLedger.Proofs.Connection.Operations

/-!
How access to the management cluster can be set up, by what the settings ask for and the host has. An
access file whose path cannot be followed is a case of its own: the check of the settings reports only
values that do not do, and `auto` expands the path after that check.
-/

namespace ClusterLedger

/-- No home is known, or only a text that asks for a home again. -/
def Path.NoHome (home : Option String) : Prop := ∀ text, home = some text → text.toList.head? = some '~'

/-- Why a text after `~` names nobody's home. -/
inductive Host.Homeless (host : Host) (user : List Char) : Failure → Prop
  | embeddedNull (null : '\x00' ∈ user) : Homeless host user (.badValue .embeddedNull)
  | unknown (clean : '\x00' ∉ user) (unknown : Path.NoHome (Path.homeText? host user)) :
      Homeless host user (.badState .noHome)

namespace Path

variable {host : Host} {failure : Failure}

theorem ofHome_eq_error_iff {home : Option String} :
    ofHome home = .error failure ↔ failure = .badState .noHome ∧ NoHome home := by
  cases home with
  | none => simp [ofHome, NoHome, eq_comm]
  | some text =>
    by_cases asks : text.toList.head? = some '~'
    · simp [ofHome, NoHome, asks, eq_comm]
    · rw [ofHome, if_neg asks]
      split <;> simp [NoHome, asks]

theorem homeOf_eq_error_iff {part : String} :
    homeOf host part = .error failure ↔
      ∃ user, part.toList = '~' :: user ∧ host.Homeless user failure := by
  unfold homeOf
  split
  · rename_i user named
    have named_iff : ∀ user', part.toList = '~' :: user' ↔ user' = user := by
      intro user'
      rw [named]
      simp [eq_comm]
    simp only [named_iff, exists_eq_left]
    split
    · rename_i null
      constructor
      · intro failed
        cases failed
        exact .embeddedNull null
      · rintro (_ | ⟨clean, _⟩)
        · rfl
        · exact absurd null clean
    · rename_i clean
      have failed_iff : (ofHome (homeText? host user)).map some = .error failure ↔
          ofHome (homeText? host user) = .error failure := by
        cases ofHome (homeText? host user) <;> simp [Except.map]
      rw [failed_iff, ofHome_eq_error_iff]
      constructor
      · rintro ⟨rfl, unknown⟩
        exact .unknown clean unknown
      · rintro (null | ⟨_, unknown⟩)
        · exact absurd null clean
        · exact ⟨rfl, unknown⟩
  · rename_i plain
    constructor
    · intro failed
      cases failed
    · rintro ⟨user, named, _⟩
      exact absurd named (plain user)

theorem expand_relative (host : Host) (first : String) (rest : List String) :
    expand host ⟨"", first :: rest⟩ =
      (homeOf host first).map fun home =>
        home.elim ⟨"", first :: rest⟩ fun home => home.join rest := by
  simp only [expand]
  cases homeOf host first with
  | error failure => rfl
  | ok home => cases home <;> rfl

theorem expand_eq_error_iff {p : Path} :
    p.expand host = .error failure ↔
      ∃ user rest, p = ⟨"", String.ofList ('~' :: user) :: rest⟩ ∧ host.Homeless user failure := by
  obtain ⟨root, parts⟩ := p
  by_cases relative : root = "" ∧ parts ≠ []
  · obtain ⟨rfl, nonempty⟩ := relative
    obtain ⟨first, rest, rfl⟩ := List.exists_cons_of_ne_nil nonempty
    have failed_iff : expand host ⟨"", first :: rest⟩ = .error failure ↔
        homeOf host first = .error failure := by
      rw [expand_relative]
      cases homeOf host first <;> simp [Except.map]
    rw [failed_iff, homeOf_eq_error_iff]
    constructor
    · rintro ⟨user, named, homeless⟩
      refine ⟨user, rest, ?_, homeless⟩
      rw [← named, String.ofList_toList]
    · rintro ⟨user, rest', same, homeless⟩
      cases same
      exact ⟨user, String.toList_ofList, homeless⟩
  · -- A path from the root and one without parts stay as they are.
    have kept : expand host ⟨root, parts⟩ = .ok ⟨root, parts⟩ := by
      unfold expand
      split
      · rename_i first rest fromHere first_rest
        exact absurd ⟨fromHere, by simp [show parts = first :: rest from first_rest]⟩ relative
      · rfl
    constructor
    · intro failed
      rw [kept] at failed
      cases failed
    · rintro ⟨user, rest, same, _⟩
      cases same
      exact absurd ⟨rfl, List.cons_ne_nil _ _⟩ relative

end Path

namespace Settings

/-- The path of the access file begins at the home of this user, as it does without a path of its own. -/
def NamesUser (s : Settings) (user : List Char) : Prop :=
  isGiven s.kubeconfigPath = false ∧ user = [] ∨ ∃ text rest, s.kubeconfigPath = some text ∧
    Path.ofText text = ⟨"", String.ofList ('~' :: user) :: rest⟩

def Unexpanded (host : Host) (s : Settings) (failure : Failure) : Prop :=
  ∃ user, s.NamesUser user ∧ host.Homeless user failure

variable {host : Host} {s : Settings} {server : Server} {failure : Failure}

theorem namesUser_of_not_given (ungiven : isGiven s.kubeconfigPath = false) (user : List Char) :
    s.NamesUser user ↔ user = [] := by
  constructor
  · rintro (⟨_, own⟩ | ⟨text, rest, given, begins⟩)
    · exact own
    · -- An empty path begins with nothing.
      rw [given] at ungiven
      obtain rfl : text = "" := by simpa [isGiven] using ungiven
      cases begins
  · exact fun own => .inl ⟨ungiven, own⟩

theorem accessPath_of_not_given (ungiven : isGiven s.kubeconfigPath = false) :
    s.accessPath host = (Path.ofHome host.home).map (·.join [".kube", "config"]) := by
  unfold accessPath
  split
  · rfl
  · rfl
  · rename_i text other given
    rw [given] at ungiven
    exact absurd (by simpa [isGiven] using ungiven) other

theorem accessPath_eq_error_iff : s.accessPath host = .error failure ↔ s.Unexpanded host failure := by
  cases given : isGiven s.kubeconfigPath with
  | false =>
    have failed_iff : s.accessPath host = .error failure ↔ Path.ofHome host.home = .error failure := by
      rw [accessPath_of_not_given given]
      cases Path.ofHome host.home <;> simp [Except.map]
    simp only [failed_iff, Unexpanded, namesUser_of_not_given given, exists_eq_left, Path.ofHome_eq_error_iff]
    constructor
    · rintro ⟨rfl, unknown⟩
      exact .unknown List.not_mem_nil unknown
    · rintro (null | ⟨_, unknown⟩)
      · cases null
      · exact ⟨rfl, unknown⟩
  | true =>
    obtain ⟨text, path⟩ : ∃ text, s.kubeconfigPath = some text := by
      cases path : s.kubeconfigPath with
      | none => simp [path, isGiven] at given
      | some text => exact ⟨text, rfl⟩
    have expanding : s.accessPath host = (Path.ofText text).expand host := by
      unfold accessPath
      split
      · simp_all
      · simp_all [isGiven]
      · simp_all
    rw [expanding, Path.expand_eq_error_iff]
    constructor
    · rintro ⟨user, rest, begins, homeless⟩
      exact ⟨user, .inr ⟨text, rest, path, begins⟩, homeless⟩
    · rintro ⟨user, ⟨ungiven, _⟩ | ⟨text', rest, path', begins⟩, homeless⟩
      · rw [given] at ungiven
        cases ungiven
      · obtain rfl := Option.some.inj (path.symm.trans path')
        exact ⟨user, rest, begins, homeless⟩

def Sound (host : Host) (s : Settings) : Prop :=
  match s.authMode with
  | .inCluster => isGiven s.kubeconfigPath = false
  | .kubeconfig => ∃ path, s.accessPath host = .ok path ∧ path.place host = .present
  | .auto => True

def Accessible (host : Host) (s : Settings) (server : Server) : Prop :=
  let byFile := (∃ path, s.accessPath host = .ok path) ∧ server.kubeconfigFault = none
  match s.authMode with
  | .inCluster => server.inClusterFault = none
  | .kubeconfig => byFile
  | .auto => server.inClusterFault = none ∨ byFile

structure Usable (host : Host) (s : Settings) (server : Server) : Prop where
  sound : s.Sound host
  accessible : s.Accessible host server

/-- The failures of following the path of the access file that nothing is made of. -/
def Strays (host : Host) (s : Settings) (server : Server) (failure : Failure) : Prop :=
  match s.authMode with
  | .inCluster => False
  | .kubeconfig =>
    failure = .badState .noHome ∧ s.Unexpanded host failure ∨
      ∃ path why, s.accessPath host = .ok path ∧ path.place host = .failing why ∧ failure = .unfollowed why
  | .auto => server.inClusterFault ≠ none ∧ s.Unexpanded host failure

theorem Unexpanded.homeless (unexpanded : s.Unexpanded host failure) :
    failure = .badValue .embeddedNull ∨ failure = .badState .noHome := by
  obtain ⟨user, _, homeless⟩ := unexpanded
  cases homeless with
  | embeddedNull => exact .inl rfl
  | unknown => exact .inr rfl

theorem Strays.not_fault (strays : s.Strays host server failure) (fault : Fault) :
    failure ≠ .fault fault := by
  rintro rfl
  unfold Strays at strays
  split at strays
  · exact strays
  · rcases strays with ⟨same, _⟩ | ⟨_, _, _, _, same⟩ <;> cases same
  · rcases strays.2.homeless with same | same <;> cases same

theorem Strays.unique {failure' : Failure} (strays : s.Strays host server failure)
    (strays' : s.Strays host server failure') : failure = failure' := by
  cases mode : s.authMode with
  | inCluster => simp [Strays, mode] at strays
  | kubeconfig =>
    simp only [Strays, mode, ← accessPath_eq_error_iff] at strays strays'
    rcases strays with ⟨rfl, failed⟩ | ⟨path, why, expanded, failing, rfl⟩
    · simpa [failed, eq_comm] using strays'
    · simpa [expanded, failing, eq_comm] using strays'
  | auto =>
    simp only [Strays, mode, ← accessPath_eq_error_iff] at strays strays'
    simpa [strays.2] using strays'.2

/-- Past the check only a path that cannot be expanded strays. -/
theorem Sound.settled (sound : s.Sound host)
    (expanded : s.authMode = .inCluster ∨ ∃ path, s.accessPath host = .ok path) (failure : Failure) :
    ¬ s.Strays host server failure := by
  intro strays
  cases mode : s.authMode with
  | inCluster => simp [Strays, mode] at strays
  | kubeconfig =>
    simp only [Strays, Sound, mode, ← accessPath_eq_error_iff] at strays sound
    obtain ⟨path, expanded, there⟩ := sound
    simp [expanded, there] at strays
  | auto =>
    obtain ⟨path, expanded⟩ := expanded.resolve_left (by simp [mode])
    simp [Strays, mode, ← accessPath_eq_error_iff, expanded] at strays

theorem Sound.strays (sound : s.Sound host)
    (tried : s.authMode = .kubeconfig ∨ s.authMode = .auto ∧ server.inClusterFault ≠ none)
    (failed : s.accessPath host = .error failure) : s.Strays host server failure := by
  rcases tried with mode | ⟨mode, outside⟩
  · simp [Sound, mode, failed] at sound
  · simp only [Strays, mode, ← accessPath_eq_error_iff]
    exact ⟨outside, failed⟩

theorem Strays.not_usable (strays : s.Strays host server failure) : ¬ s.Usable host server := by
  rintro ⟨sound, accessible⟩
  refine sound.settled ?_ failure strays
  cases mode : s.authMode with
  | inCluster => exact .inl rfl
  | kubeconfig =>
    simp only [Accessible, mode] at accessible
    exact .inr accessible.1
  | auto =>
    simp only [Strays, Accessible, mode] at strays accessible
    exact .inr (accessible.resolve_left strays.1).1

/-- How the check of the settings can end; it does not ask the server. -/
inductive AdviceOutcome (host : Host) (s : Settings) (server : Server) :
    Except Failure (List String) → Prop
  | sound (sound : s.Sound host) : AdviceOutcome host s server (.ok s.hints)
  | rejected (what : BadValue) (unsound : ¬ s.Sound host)
      (settled : ∀ failure, ¬ s.Strays host server failure) :
      AdviceOutcome host s server (.error (.badValue what))
  | strayed {failure : Failure} (unreported : ∀ what, failure ≠ .badValue what)
      (strays : s.Strays host server failure) : AdviceOutcome host s server (.error failure)

theorem advice_outcome (host : Host) (s : Settings) (server : Server) :
    s.AdviceOutcome host server (s.advice host) := by
  cases mode : s.authMode with
  | inCluster =>
    rw [advice_inCluster mode]
    cases given : isGiven s.kubeconfigPath with
    | true => exact .rejected _ (by simp [Sound, mode, given]) (by simp [Strays, mode])
    | false => exact .sound (by simpa [Sound, mode] using given)
  | auto =>
    rw [advice_auto mode]
    exact .sound (by simp [Sound, mode])
  | kubeconfig =>
    rw [advice_kubeconfig mode]
    cases expanded : s.accessPath host with
    | error failure =>
      have unexpanded : s.Unexpanded host failure := accessPath_eq_error_iff.mp expanded
      rcases unexpanded.homeless with rfl | rfl
      · exact .rejected _ (by simp [Sound, mode, expanded])
          (by simp [Strays, mode, ← accessPath_eq_error_iff, expanded])
      · exact .strayed (fun _ same => nomatch same) (by simp [Strays, mode, unexpanded])
    | ok path =>
      cases place : path.place host with
      | present =>
        have found : host.has path = .ok true := by rw [Host.has, place]
        simp only [found, bind, Except.bind, if_true]
        exact .sound (by simp [Sound, mode, expanded, place])
      | absent =>
        have found : host.has path = .ok false := by rw [Host.has, place]
        simp only [found, bind, Except.bind]
        exact .rejected _ (by simp [Sound, mode, expanded, place])
          (by simp [Strays, mode, ← accessPath_eq_error_iff, expanded, place])
      | failing why =>
        have lost : host.has path = .error (.unfollowed why) := by rw [Host.has, place]
        simp only [lost, bind, Except.bind]
        exact .strayed (fun _ same => nomatch same) (by simp [Strays, mode, expanded, place])

end Settings

namespace Client

open ClusterLedger.Action

variable {host : Host} {settings : Settings}

theorem loadInCluster_eq (w : World) :
    loadInCluster w =
      (w.server.inClusterFault.elim (.ok ()) fun text => .error (connectFailure (.unloadable text)),
        w.made ⟨.loadInCluster, w.server.inClusterFault.map .unloadable⟩ w.server) := by
  unfold loadInCluster call Server.loadInCluster
  cases w.server.inClusterFault <;> rfl

theorem loadKubeconfig_of_error {failure : Failure} (failed : settings.accessPath host = .error failure)
    (w : World) : loadKubeconfig host settings w = (.error failure, w) := by
  unfold loadKubeconfig
  rw [failed]
  rfl

theorem loadKubeconfig_of_ok {path : Path} (expanded : settings.accessPath host = .ok path) (w : World) :
    loadKubeconfig host settings w =
      (w.server.kubeconfigFault.elim (.ok path.text) fun text => .error (connectFailure (.unloadable text)),
        w.made ⟨.loadKubeconfig path.text settings.kubeconfigContext,
          w.server.kubeconfigFault.map .unloadable⟩ w.server) := by
  obtain ⟨⟨objects, secrets, notServed, failures, inClusterFault, kubeconfigFault⟩, rest⟩ := w
  unfold loadKubeconfig
  rw [expanded]
  cases kubeconfigFault <;> rfl

inductive AccessOutcome (host : Host) (settings : Settings) (w : World) : Except Failure Unit × World → Prop
  | granted {loaded : World} (accessible : settings.Accessible host w.server)
      (server : loaded.server = w.server) : AccessOutcome host settings w (.ok (), loaded)
  | unloadable {after : World} (text : String) (inaccessible : ¬ settings.Accessible host w.server)
      (expanded : settings.authMode = .inCluster ∨ ∃ path, settings.accessPath host = .ok path) :
      AccessOutcome host settings w (.error (connectFailure (.unloadable text)), after)
  | unexpanded {failure : Failure} {after : World}
      (tried : settings.authMode = .kubeconfig ∨
        settings.authMode = .auto ∧ w.server.inClusterFault ≠ none)
      (failed : settings.accessPath host = .error failure) :
      AccessOutcome host settings w (.error failure, after)

theorem accessOutcome_of_file {w tried : World} {note : String → Action Unit}
    (mode : settings.authMode = .kubeconfig ∨ settings.authMode = .auto ∧ w.server.inClusterFault ≠ none)
    (server : tried.server = w.server)
    (noted : ∀ path now, ∃ after, note path now = (.ok (), after) ∧ after.server = now.server) :
    AccessOutcome host settings w ((loadKubeconfig host settings >>= note) tried) := by
  have byFile : settings.Accessible host w.server ↔
      (∃ path, settings.accessPath host = .ok path) ∧ w.server.kubeconfigFault = none := by
    rcases mode with mode | ⟨mode, outside⟩
    · simp [Settings.Accessible, mode]
    · simp [Settings.Accessible, mode, outside]
  cases expanded : settings.accessPath host with
  | error failure =>
    rw [bind_of_error (loadKubeconfig_of_error expanded tried)]
    exact .unexpanded mode expanded
  | ok path =>
    have loading := loadKubeconfig_of_ok expanded tried
    rw [server] at loading
    cases fault : w.server.kubeconfigFault with
    | none =>
      rw [fault] at loading
      obtain ⟨after, noting, same⟩ := noted path.text _
      rw [bind_of_ok loading, noting]
      exact .granted (byFile.mpr ⟨⟨path, expanded⟩, fault⟩) same
    | some text =>
      rw [fault] at loading
      rw [bind_of_error loading]
      exact .unloadable text (by simp [byFile, fault]) (.inr ⟨path, expanded⟩)

theorem loadAccess_outcome (host : Host) (settings : Settings) (w : World) :
    AccessOutcome host settings w (loadAccess host settings w) := by
  have inside := loadInCluster_eq w
  unfold loadAccess
  cases mode : settings.authMode with
  | inCluster =>
    show AccessOutcome host settings w (loadInCluster w)
    rw [inside]
    cases fault : w.server.inClusterFault with
    | none => exact .granted (by simp [Settings.Accessible, mode, fault]) rfl
    | some text => exact .unloadable text (by simp [Settings.Accessible, mode, fault]) (.inl mode)
  | kubeconfig => exact accessOutcome_of_file (.inl mode) rfl fun _ _ => ⟨_, rfl, rfl⟩
  | auto =>
    have attempted : attempt loadInCluster w = (.ok (loadInCluster w).1, (loadInCluster w).2) := rfl
    show AccessOutcome host settings w ((attempt loadInCluster >>= _) w)
    rw [bind_of_ok attempted, inside]
    cases fault : w.server.inClusterFault with
    | none => exact .granted (by simp [Settings.Accessible, mode, fault]) rfl
    | some text =>
      exact accessOutcome_of_file (.inr ⟨mode, by simp [fault]⟩) rfl fun _ _ => ⟨_, rfl, rfl⟩

theorem connect_cases {w loaded : World} (access : loadAccess host settings w = (.ok (), loaded)) :
    (∃ after, connect host settings w = (.ok (), after) ∧ after.session.isConnected = true) ∨
    ∃ refusal after, connect host settings w = (.error (connectFailure refusal), after) ∧
      loaded.server.connect.1 = .error refusal := by
  rw [connect_of_access access]
  rcases call_cases .dynamicClient Server.connect connectFailure
      { loaded with
        nextClient := loaded.nextClient + 1
        session := { loaded.session with
          api := some loaded.nextClient, core := some loaded.nextClient } } with
    ⟨⟨⟩, server, _, made⟩ | ⟨refusal, server, replied, made⟩
  · rw [bind_of_ok made]
    exact .inl ⟨_, rfl, rfl⟩
  · rw [bind_of_error made]
    exact .inr ⟨refusal, _, rfl, congrArg Prod.fst replied⟩

end Client
end ClusterLedger
