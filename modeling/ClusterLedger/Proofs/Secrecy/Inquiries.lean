import ClusterLedger.Reconciler
import ClusterLedger.Proofs.Secrecy.Servers

namespace ClusterLedger

open ClusterLedger.Action

def Server.Alike (rule : RedactionRule) (secrets : List StoredSecret) (s s' : Server) : Prop :=
  s.SameBut (ServedAlike rule) s' ∧ s.secrets = secrets

variable {rule : RedactionRule} {secrets : List StoredSecret}

namespace Client

theorem runAlike_reply {α : Type} {Q : α → α → Prop} {reply : Server → Except Refusal α × Server}
    (keeps : ∀ s, (reply s).2.secrets = s.secrets)
    (answers : ∀ s s', Server.Alike rule secrets s s' →
      Agree Q (reply s).1 (reply s').1 ∧ (reply s).2.SameBut (ServedAlike rule) (reply s').2)
    (c : Call) (meaning : Refusal → Failure) :
    RunAlike (Server.Alike rule secrets) Q (call c reply meaning) (call c reply meaning) := by
  refine runAlike_call (fun s s' alike => ?_) c meaning
  obtain ⟨agree, same⟩ := answers s s' alike
  exact ⟨agree, same, (keeps s).trans alike.2⟩

theorem discover_runAlike (d : Definition) :
    RunAlike (Server.Alike rule secrets) Eq (discover d) (discover d) := by
  refine runAlike_bind runAlike_session ?_
  rintro session _ rfl
  cases session.dynamic with
  | none => exact runAlike_fail _
  | some client =>
    refine runAlike_bind (Q := fun _ _ => True) ?_ fun _ _ _ => runAlike_pure rfl
    refine runAlike_reply (fun s => s.secrets_reply _ _ _ _) (fun s s' alike => ?_) _ _
    obtain ⟨agree, same⟩ := Server.discover_alike alike.1 d.apiVersion d.kind
    exact ⟨agree.imp fun _ _ _ => trivial, same⟩

theorem resource_runAlike (d : Definition) :
    RunAlike (Server.Alike rule secrets) Eq (resource d) (resource d) := by
  refine runAlike_bind runAlike_session ?_
  rintro session _ rfl
  cases Assoc.find? d.cacheKey session.cache with
  | some handle => exact runAlike_pure rfl
  | none =>
    refine runAlike_bind (discover_runAlike d) ?_
    rintro handle _ rfl
    refine runAlike_bind runAlike_session ?_
    rintro session _ rfl
    exact runAlike_bind (runAlike_setSession _) fun _ _ _ => runAlike_pure rfl

theorem get_runAlike (d : Definition) (name : Value) (ns : Option String) :
    RunAlike (Server.Alike rule secrets) (ReadAlike rule) (get d name ns) (get d name ns) := by
  refine runAlike_bind (resource_runAlike d) ?_
  rintro handle _ rfl
  refine runAlike_reply (fun s => s.secrets_reply _ _ _ _) (fun s s' alike => ?_) _ _
  exact Server.get_alike alike.1 handle.kind name ns

theorem list_runAlike (d : Definition) (ns selector : Option String) :
    RunAlike (Server.Alike rule secrets) (List.Forall₂ (ReadAlike rule)) (list d ns selector)
      (list d ns selector) := by
  refine runAlike_bind (resource_runAlike d) ?_
  rintro handle _ rfl
  refine runAlike_reply (fun s => s.secrets_reply _ _ _ _) (fun s s' alike => ?_) _ _
  exact Server.list_alike alike.1 handle.apiVersion handle.kind ns selector

end Client

namespace Collection

theorem mapM_eq {α : Type} {f : Value → Except Failure α} {found found' : List Value}
    (alike : List.Forall₂ (ReadAlike rule) found found') (told : ∀ r r', ReadAlike rule r r' → f r = f r') :
    found.mapM f = found'.mapM f := by
  induction alike with
  | nil => rfl
  | cons head _ ih => rw [List.mapM_cons, List.mapM_cons, told _ _ head, ih]

theorem objects_runAlike (name ns : String) :
    RunAlike (Server.Alike rule secrets) (List.Forall₂ (ReadAlike rule)) (objects name ns)
      (objects name ns) := by
  refine runAlike_bind (Client.get_runAlike .cluster (.text name) (some ns)) fun cluster cluster' one => ?_
  rw [one.provider]
  refine runAlike_bind (runAlike_ofExcept (.refl (fun _ => rfl) _)) ?_
  rintro provider _ rfl
  refine runAlike_bind (Client.get_runAlike .providerCluster provider (some ns)) fun infra infra' two => ?_
  refine runAlike_bind (Client.list_runAlike .controlPlane _ _) fun planes planes' alikePlanes => ?_
  refine runAlike_bind (Client.list_runAlike .machineDeployment _ _) fun deployments deployments' alikeAll => ?_
  rw [mapM_eq alikePlanes fun _ _ alike => alike.controlPlane _]
  refine runAlike_bind (runAlike_ofExcept (.refl (fun _ => rfl) _)) ?_
  rintro planeGroups _ rfl
  rw [mapM_eq alikeAll fun _ _ alike => alike.deployment]
  refine runAlike_bind (runAlike_ofExcept (.refl (fun _ => rfl) _)) ?_
  rintro workerGroups _ rfl
  have machines : ∀ ref, RunAlike (Server.Alike rule secrets) (ReadAlike rule)
      (Members.machineTemplate ref) (Members.machineTemplate ref) :=
    fun ref => Client.get_runAlike .machineTemplate (.text ref.name) ref.ns
  have configs : ∀ ref, RunAlike (Server.Alike rule secrets) (ReadAlike rule)
      (Members.configTemplate ref) (Members.configTemplate ref) :=
    fun ref => Client.get_runAlike .configTemplate (.text ref.name) ref.ns
  refine runAlike_bind (runAlike_each machines _) fun templates templates' alikeTemplates => ?_
  refine runAlike_bind (runAlike_each configs _) fun bootstraps bootstraps' alikeBootstraps => ?_
  refine runAlike_pure ?_
  have front : List.Forall₂ (ReadAlike rule) [cluster, infra] [cluster', infra'] := .cons one (.cons two .nil)
  exact List.rel_append (List.rel_append (List.rel_append (List.rel_append front alikeTemplates)
    alikeBootstraps) alikePlanes) alikeAll

theorem collect_runAlike (name ns : String) :
    RunAlike (Server.Alike rule secrets) (List.Forall₂ (WrittenAlike rule)) (collect name ns)
      (collect name ns) := by
  refine runAlike_within _ ?_
  refine runAlike_bind (objects_runAlike name ns) fun found found' alike => ?_
  rw [alike.length_eq]
  refine runAlike_bind (runAlike_record _) fun _ _ _ => ?_
  exact runAlike_ofExcept (Both.mapM (alike.imp fun _ _ one => one.document))

theorem projectFrom_eq {documents documents' : List Value}
    (alike : List.Forall₂ (WrittenAlike rule) documents documents') (half : Half) (index : Nat) :
    projectFrom rule half index documents = projectFrom rule half index documents' := by
  induction alike generalizing index with
  | nil => rfl
  | cons head _ ih =>
    rw [projectFrom, projectFrom, head.text half, ih (index + 1)]
    simp only [projectionContext, head.kind, head.name]

theorem yaml_runAlike (half : Half) (name ns : String) :
    RunAlike (Server.Alike rule secrets) Eq (yaml rule half name ns) (yaml rule half name ns) := by
  refine runAlike_bind (collect_runAlike name ns) fun documents documents' alike => ?_
  have same : projectAll rule half documents = projectAll rule half documents' :=
    congrArg (Except.map documentSeparator.intercalate) (projectFrom_eq alike half 0)
  rw [same, alike.length_eq]
  refine runAlike_bind (runAlike_ofExcept (.refl (fun _ => rfl) _)) ?_
  rintro text _ rfl
  exact runAlike_bind (runAlike_record _) fun _ _ _ => runAlike_pure rfl

end Collection

def Server.Holds (s : Server) (ref : ObjectReference) (key : String) : Prop :=
  ∃ entries, s.secretData? ref.name (Credentials.secretNamespace ref) = some (.map entries) ∧
    (Value.lookup key entries).isSome = true

namespace Credentials

structure AgreeBut (overridden : String → Prop) (c c' : Credentials) : Prop where
  username : ¬overridden "username" → c.username = c'.username
  password : ¬overridden "password" → c.password = c'.password
  refreshToken : ¬overridden "refreshToken" → c.refreshToken = c'.refreshToken

/-- Both override a field or both do not; only what is held is overridden. -/
def SameOverride (held : Prop) (override override' : Option String) : Prop :=
  override.isSome = override'.isSome ∧ (override.isSome = true → held)

structure Overrides.Alike (held : String → Prop) (o o' : Overrides) : Prop where
  username : SameOverride (held "username") o.username o'.username
  password : SameOverride (held "password") o.password o'.password
  refreshToken : SameOverride (held "refreshToken") o.refreshToken o'.refreshToken

variable {entries entries' : List (Value × Value)}

theorem SameKeys.refl (entries : List (Value × Value)) : SameKeys entries entries :=
  List.forall₂_same.mpr fun _ _ => ⟨rfl, Or.inl rfl⟩

theorem lookup_sameKeys (keys : SameKeys entries entries') (key : String) :
    Option.Rel (fun v v' => v = v' ∨ IsReadable v ∧ IsReadable v') (Value.lookup key entries)
      (Value.lookup key entries') := by
  induction keys with
  | nil => exact .none
  | @cons entry entry' rest rest' head _ ih =>
    obtain ⟨k, v⟩ := entry
    obtain ⟨k', v'⟩ := entry'
    obtain ⟨sameKey, values⟩ := head
    have same : k = k' := sameKey
    subst same
    by_cases own : k = .text key
    · subst own
      rw [Value.lookup, Value.lookup, if_pos rfl, if_pos rfl]
      exact .some values
    · rw [Value.lookup_cons own, Value.lookup_cons own]
      exact ih

theorem decodeKey_alike (keys : SameKeys entries entries') (secretName key : String) :
    Agree (SameOverride ((Value.lookup key entries).isSome = true)) (decodeKey secretName entries key)
      (decodeKey secretName entries' key) := by
  have found := lookup_sameKeys keys key
  unfold decodeKey
  generalize Value.lookup key entries = v, Value.lookup key entries' = v' at found
  cases found with
  | none => exact .ok ⟨rfl, fun overrides => by cases overrides⟩
  | @some v v' values =>
    show Agree _ ((decode key secretName v).map some) ((decode key secretName v').map some)
    rcases values with rfl | ⟨⟨text, readable⟩, ⟨text', readable'⟩⟩
    · refine Both.map (Agree.refl (fun _ => rfl) _) (Q := Eq) ?_
      rintro text _ rfl
      exact ⟨rfl, fun _ => rfl⟩
    · rw [readable key secretName, readable' key secretName]
      exact .ok ⟨rfl, fun _ => rfl⟩

theorem ofData_alike (keys : SameKeys entries entries') (secretName : String) :
    Agree (Overrides.Alike fun key => (Value.lookup key entries).isSome = true)
      (Overrides.ofData secretName entries) (Overrides.ofData secretName entries') := by
  refine (decodeKey_alike keys secretName "username").bind fun u u' username => ?_
  refine (decodeKey_alike keys secretName "password").bind fun p p' password => ?_
  refine (decodeKey_alike keys secretName "refreshToken").bind fun t t' refreshToken => ?_
  exact .ok ⟨username, password, refreshToken⟩

theorem fields_alike {held : String → Prop} {o o' : Overrides} (alike : o.Alike held o') :
    o.fields = o'.fields := by
  have named : ∀ {x y : Option String} (name : String), x.isSome = y.isSome →
      (x.map fun _ => name) = y.map fun _ => name := by
    intro x y name same
    cases x with
    | none =>
      cases y with
      | none => rfl
      | some _ => cases same
    | some _ =>
      cases y with
      | none => cases same
      | some _ => rfl
  simp only [Overrides.fields, List.filterMap_cons, named _ alike.username.1, named _ alike.password.1,
    named _ alike.refreshToken.1]

theorem getD_sameOverride {held : Prop} {x y : Option String} (same : SameOverride held x y)
    (unheld : ¬held) (default : String) : x.getD default = y.getD default := by
  obtain ⟨both, holds⟩ := same
  cases x with
  | some text => exact absurd (holds rfl) unheld
  | none =>
    cases y with
    | none => rfl
    | some text => cases both

theorem overriddenBy_alike {held : String → Prop} {o o' : Overrides} (alike : o.Alike held o')
    (declared : Credentials) : AgreeBut held (declared.overriddenBy o) (declared.overriddenBy o') where
  username unheld := getD_sameOverride alike.username unheld _
  password unheld := getD_sameOverride alike.password unheld _
  refreshToken unheld := getD_sameOverride alike.refreshToken unheld _

@[simp] theorem entriesOf_map (entries : List (Value × Value)) : entriesOf (.map entries) = .ok entries := by
  cases entries <;> rfl

theorem entriesOf_eq_ok {data : Value} (ok : entriesOf data = .ok entries) :
    data = .map entries ∨ entries = [] := by
  have without : ∀ holds : String → Bool,
      (if secretKeys.any holds then .error Failure.unfit else .ok [] :
        Except Failure (List (Value × Value))) = .ok entries → entries = [] := by
    intro holds ok
    split at ok
    · cases ok
    · exact (Except.ok.inj ok).symm
  unfold entriesOf at ok
  dsimp only at ok
  split at ok
  · exact Or.inr (Except.ok.inj ok).symm
  · split at ok
    · exact Or.inl (congrArg Value.map (Except.ok.inj ok))
    -- Other values hold none of the keys, or do not do.
    all_goals first
      | exact Or.inr (without _ ok)
      | cases ok

theorem entriesOf_alike {s : Server} {ref : ObjectReference} {data data' : Value}
    (held : s.secretData? ref.name (secretNamespace ref) = some data) (alike : SameButValues data data') :
    Agree (fun entries entries' => SameKeys entries entries' ∧
        ∀ key, (Value.lookup key entries).isSome = true → s.Holds ref key)
      (entriesOf data) (entriesOf data') := by
  cases alike with
  | same =>
    cases read : entriesOf data with
    | error failure => exact .error failure
    | ok entries =>
      refine .ok ⟨.refl entries, fun key there => ?_⟩
      rcases entriesOf_eq_ok read with rfl | rfl
      · exact ⟨entries, held, there⟩
      · cases there
  | @values entries entries' keys =>
    rw [entriesOf_map, entriesOf_map]
    exact .ok ⟨keys, fun key there => ⟨entries, held, there⟩⟩

def Overridden (s : Server) (ref : Option ObjectReference) (key : String) : Prop :=
  ∃ target, ref = some target ∧ s.Holds target key

theorem secret_runAlike (s : Server) (name ns : String) :
    RunAlike (Server.Alike rule s.secrets)
      (fun data data' => s.secretData? name ns = some data ∧ SameButValues data data')
      (Client.secret name ns) (Client.secret name ns) := by
  refine runAlike_bind runAlike_session ?_
  rintro session _ rfl
  cases session.core with
  | none => exact runAlike_fail _
  | some _ =>
    refine Client.runAlike_reply (fun s => s.secrets_reply _ _ _ _) (fun t t' alike => ?_) _ _
    have own : t.secretData? name ns = s.secretData? name ns := by
      unfold Server.secretData?
      rw [alike.2]
    obtain ⟨agree, same⟩ := Server.secret_alike alike.1 name ns
    rw [own] at agree
    exact ⟨agree, same⟩

theorem resolve_runAlike (s : Server) (declared : Credentials) (ref : Option ObjectReference) :
    RunAlike (Server.Alike rule s.secrets) (AgreeBut (Overridden s ref)) (declared.resolve ref)
      (declared.resolve ref) := by
  cases ref with
  | none => exact runAlike_pure ⟨fun _ => rfl, fun _ => rfl, fun _ => rfl⟩
  | some target =>
    refine runAlike_bind (runAlike_within _ (secret_runAlike s _ _)) ?_
    rintro data data' ⟨held, alike⟩
    refine runAlike_bind (runAlike_ofExcept (entriesOf_alike held alike)) ?_
    rintro entries entries' ⟨keys, holds⟩
    refine runAlike_bind (runAlike_ofExcept (ofData_alike keys target.name)) fun o o' same => ?_
    have agree : AgreeBut (Overridden s (some target)) (declared.overriddenBy o)
        (declared.overriddenBy o') := by
      obtain ⟨username, password, refreshToken⟩ := overriddenBy_alike same declared
      have unheld : ∀ key, ¬Overridden s (some target) key →
          ¬(Value.lookup key entries).isSome = true :=
        fun key kept there => kept ⟨target, rfl, holds key there⟩
      exact ⟨fun kept => username (unheld _ kept), fun kept => password (unheld _ kept),
        fun kept => refreshToken (unheld _ kept)⟩
    rw [fields_alike same]
    split
    · exact runAlike_bind (runAlike_record _) fun _ _ _ => runAlike_pure agree
    · exact runAlike_pure agree

end Credentials

inductive Inquiry where
  | specYaml (name ns : String)
  | statusYaml (name ns : String)
  | credentials (declared : Credentials) (ref : Option ObjectReference)

inductive Answer where
  | text (text : String)
  | credentials (credentials : Credentials)

inductive Answer.Alike (overridden : String → Prop) : Answer → Answer → Prop
  | text (text : String) : Alike overridden (.text text) (.text text)
  | credentials {c c' : Credentials} (agree : c.AgreeBut overridden c') :
      Alike overridden (.credentials c) (.credentials c')

namespace Inquiry

def ask (r : Reconciler) : Inquiry → Action Answer
  | specYaml name ns => do return .text (← r.specYaml name ns)
  | statusYaml name ns => do return .text (← r.statusYaml name ns)
  | credentials declared ref => do return .credentials (← Reconciler.credentials declared ref)

/-- Inquiries one after the other, each with its answer or failure, and the world after all of them. -/
def transcript (r : Reconciler) : List Inquiry → World → List (Inquiry × Except Failure Answer) × World
  | [], w => ([], w)
  | inquiry :: rest, w =>
    let (answer, now) := inquiry.ask r w
    let (later, last) := transcript r rest now
    ((inquiry, answer) :: later, last)

def Overridden (s : Server) : Inquiry → String → Prop
  | credentials _ ref => Credentials.Overridden s ref
  | _ => fun _ => False

theorem ask_runAlike (r : Reconciler) (s : Server) (inquiry : Inquiry) :
    RunAlike (Server.Alike r.settings.rule s.secrets) (Answer.Alike (inquiry.Overridden s))
      (inquiry.ask r) (inquiry.ask r) := by
  cases inquiry with
  | specYaml name ns =>
    refine runAlike_bind (Collection.yaml_runAlike .spec name ns) ?_
    rintro text _ rfl
    exact runAlike_pure (.text text)
  | statusYaml name ns =>
    refine runAlike_bind (Collection.yaml_runAlike .status name ns) ?_
    rintro text _ rfl
    exact runAlike_pure (.text text)
  | credentials declared ref =>
    refine runAlike_bind (Credentials.resolve_runAlike s declared ref) fun c c' agree => ?_
    exact runAlike_pure (.credentials agree)

theorem transcript_alike {r : Reconciler} {s : Server} {w w' : World}
    (same : w.SameBut (Server.Alike r.settings.rule s.secrets) w') (inquiries : List Inquiry) :
    List.Forall₂ (fun entry entry' => entry.1 = entry'.1 ∧
        Agree (Answer.Alike (entry.1.Overridden s)) entry.2 entry'.2)
      (transcript r inquiries w).1 (transcript r inquiries w').1 ∧
    (transcript r inquiries w).2.SameBut (Server.Alike r.settings.rule s.secrets)
      (transcript r inquiries w').2 := by
  -- An inquiry leaves the servers alike, so the ones after it end alike too.
  induction inquiries generalizing w w' with
  | nil => exact ⟨.nil, same⟩
  | cons inquiry rest ih =>
    obtain ⟨agree, now⟩ := ask_runAlike r s inquiry w w' same
    obtain ⟨later, last⟩ := ih now
    exact ⟨.cons ⟨rfl, agree⟩ later, last⟩

theorem path_mem_rule {settings : Settings}
    (redacts : ∀ field ∈ RedactionRule.defaultFields, field ∈ settings.redactedFields) :
    ∀ key ∈ Credentials.secretKeys, Credentials.path key ∈ settings.rule.paths := by
  have dotted : ∀ key ∈ Credentials.secretKeys, ∃ field ∈ RedactionRule.defaultFields,
      field ≠ "" ∧ Text.split '.' field = Credentials.path key := by decide
  intro key member
  obtain ⟨field, default, nonempty, split⟩ := dotted key member
  refine List.mem_map.mpr ⟨field, List.mem_filter.mpr ⟨redacts field default, ?_⟩, split⟩
  simpa using nonempty

def providerCluster (password : String) : Value :=
  .ofRecord [("kind", .text "VCDCluster"),
    ("spec", .ofRecord [("userContext", .ofRecord [("password", .text password)])])]

def keeping (password encoded : String) : World where
  server :=
    { objects := [
        ⟨"Cluster", some "clusters", "demo", [], .ofRecord [("kind", .text "Cluster")]⟩,
        ⟨"VCDCluster", some "clusters", "demo", [], providerCluster password⟩]
      secrets := [⟨"creds", "clusters", .ofRecord [("password", .text encoded)]⟩]
      notServed := []
      failures := []
      inClusterFault := none
      kubeconfigFault := none }
  session := .borrowed
  nextClient := 1
  calls := []
  events := []

def withDefaults : Reconciler where
  settings := ⟨.auto, none, none, .info, RedactionRule.defaultSentinel, RedactionRule.defaultFields⟩
  host := .bare
  directory := none

def aboutDemo : List Inquiry :=
  [.specYaml "demo" "clusters",
    .credentials ⟨"admin", "", "token"⟩ (some ⟨"creds", some "clusters", none, none⟩),
    .statusYaml "other" "clusters"]

/--
Where the credentials of user contexts are redacted, worlds that differ in credentials only cannot be told
apart: inquiries make the same calls, record the same events and have the same answers, but for the
credentials that a secret overrides.
-/
theorem transcript_of_other_credentials {r : Reconciler}
    (redacts : ∀ field ∈ RedactionRule.defaultFields, field ∈ r.settings.redactedFields) {w w' : World}
    (same : w.SameBut (Server.SameBut Value.SameButCredentials) w') (inquiries : List Inquiry) :
    let run := transcript r inquiries w
    let run' := transcript r inquiries w'
    run.2.calls = run'.2.calls ∧ run.2.events = run'.2.events ∧
    List.Forall₂ (fun entry entry' => entry.1 = entry'.1 ∧
      Agree (Answer.Alike (entry.1.Overridden w.server)) entry.2 entry'.2) run.1 run'.1 := by
  intro run run'
  have served : w.server.SameBut (ServedAlike r.settings.rule) w'.server :=
    same.server.imp fun _ _ bodies => servedAlike_of_sameButCredentials (path_mem_rule redacts) bodies
  have alike : w.SameBut (Server.Alike r.settings.rule w.server.secrets) w' :=
    { same with server := ⟨served, rfl⟩ }
  obtain ⟨answers, last⟩ := transcript_alike alike inquiries
  exact ⟨last.calls, last.events, answers⟩

theorem transcript_of_other_credentials_demo :
    let w := keeping "cat" "Y2F0"
    let w' := keeping "dog" "ZG9n"
    (∀ field ∈ RedactionRule.defaultFields, field ∈ withDefaults.settings.redactedFields) ∧
    w.SameBut (Server.SameBut Value.SameButCredentials) w' ∧
    (transcript withDefaults aboutDemo w).2.calls = (transcript withDefaults aboutDemo w').2.calls ∧
    (transcript withDefaults aboutDemo w).2.events = (transcript withDefaults aboutDemo w').2.events := by
  intro w w'
  have redacts : ∀ field ∈ RedactionRule.defaultFields, field ∈ withDefaults.settings.redactedFields :=
    fun _ member => member
  have plain : ∀ password, (providerCluster password).PlainAt (Credentials.path "password") := by
    intro password
    simp [providerCluster, Credentials.path, Value.ofRecord, Value.PlainAt, Value.IsPlain, Document.ofValue]
  have bodies : (providerCluster "cat").SameButCredentials (providerCluster "dog") := by
    refine ⟨["password"], by simp [Credentials.secretKeys], rfl, fun key member => ?_⟩
    obtain rfl := List.mem_singleton.mp member
    exact ⟨plain _, plain _⟩
  have readable : Credentials.IsReadable (.text "Y2F0") := by decide
  have readable' : Credentials.IsReadable (.text "ZG9n") := by decide
  have servers : w.server.SameBut Value.SameButCredentials w'.server := by
    refine ⟨?_, ?_, rfl, rfl, rfl, rfl⟩
    · exact .cons ⟨rfl, rfl, rfl, rfl, .refl _⟩ (.cons ⟨rfl, rfl, rfl, rfl, bodies⟩ .nil)
    · refine .cons ⟨rfl, rfl, .values ?_⟩ .nil
      exact .cons ⟨rfl, Or.inr ⟨readable, readable'⟩⟩ .nil
  have same : w.SameBut (Server.SameBut Value.SameButCredentials) w' := ⟨servers, rfl, rfl, rfl, rfl⟩
  obtain ⟨calls, events, _⟩ := transcript_of_other_credentials redacts same aboutDemo
  exact ⟨redacts, same, calls, events⟩

end Inquiry
end ClusterLedger
