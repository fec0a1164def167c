import ClusterLedger.Api.Client
import ClusterLedger.Cluster.Credentials
import ClusterLedger.Proofs.Secrecy.Readings

namespace ClusterLedger

open ClusterLedger.Action

namespace Credentials

def path (key : String) : List String := ["spec", "userContext", key]

def IsReadable (v : Value) : Prop := ∃ text, ∀ key secretName, decode key secretName v = .ok text

theorem isReadable_iff {v : Value} : IsReadable v ↔ isAsciiText v = true ∧
    (((encodedText? v).bind Text.base64Decode?).bind Text.utf8Decode?).isSome = true := by
  constructor
  · rintro ⟨text, readable⟩
    have read := readable "" ""
    unfold decode at read
    split at read
    · cases read
    · rename_i ascii
      split at read
      · rename_i cs found
        exact ⟨by simpa using ascii, by rw [found]; rfl⟩
      · cases read
  · rintro ⟨ascii, found⟩
    obtain ⟨cs, decoded⟩ := Option.isSome_iff_exists.mp found
    refine ⟨String.ofList (trimLineFeeds cs), fun key secretName => ?_⟩
    unfold decode
    rw [ascii, decoded]
    rfl

instance (v : Value) : Decidable (IsReadable v) := decidable_of_iff _ isReadable_iff.symm

/-- The same keys in the same order, each with one value or with two that are text. -/
def SameKeys (entries entries' : List (Value × Value)) : Prop :=
  List.Forall₂ (fun entry entry' => entry.1 = entry'.1 ∧
    (entry.2 = entry'.2 ∨ IsReadable entry.2 ∧ IsReadable entry'.2)) entries entries'

inductive SameButValues : Value → Value → Prop
  | same (data : Value) : SameButValues data data
  | values {entries entries' : List (Value × Value)} (keys : SameKeys entries entries') :
      SameButValues (.map entries) (.map entries')

end Credentials

def Value.withoutCredentials (keys : List String) (v : Value) : Value :=
  keys.foldl (fun v key => v.blank (Credentials.path key)) v

def Value.SameButCredentials (body body' : Value) : Prop :=
  ∃ keys, keys ⊆ Credentials.secretKeys ∧ body.withoutCredentials keys = body'.withoutCredentials keys ∧
    ∀ key ∈ keys, body.PlainAt (Credentials.path key) ∧ body'.PlainAt (Credentials.path key)

theorem Value.SameButCredentials.refl (body : Value) : body.SameButCredentials body :=
  ⟨[], List.nil_subset _, rfl, fun _ member => by cases member⟩

structure StoredObject.SameBut (B : Value → Value → Prop) (o o' : StoredObject) : Prop where
  kind : o.kind = o'.kind
  ns : o.ns = o'.ns
  name : o.name = o'.name
  labels : o.labels = o'.labels
  body : B o.body o'.body

structure StoredSecret.SameButValues (secret secret' : StoredSecret) : Prop where
  name : secret.name = secret'.name
  ns : secret.ns = secret'.ns
  data : Credentials.SameButValues secret.data secret'.data

structure Server.SameBut (B : Value → Value → Prop) (s s' : Server) : Prop where
  objects : List.Forall₂ (StoredObject.SameBut B) s.objects s'.objects
  secrets : List.Forall₂ StoredSecret.SameButValues s.secrets s'.secrets
  notServed : s.notServed = s'.notServed
  failures : s.failures = s'.failures
  inClusterFault : s.inClusterFault = s'.inClusterFault
  kubeconfigFault : s.kubeconfigFault = s'.kubeconfigFault

variable {rule : RedactionRule} {B : Value → Value → Prop} {s s' : Server}

theorem servedAlike_withoutCredentials {keys : List String} {body : Value}
    (redacted : ∀ key ∈ keys, Credentials.path key ∈ rule.paths)
    (plain : ∀ key ∈ keys, body.PlainAt (Credentials.path key)) :
    ServedAlike rule body (body.withoutCredentials keys) := by
  induction keys generalizing body with
  | nil => exact .refl body
  | cons key rest ih =>
    have first : ServedAlike rule body (body.blank (Credentials.path key)) :=
      servedAlike_blank (redacted key List.mem_cons_self) (plain key List.mem_cons_self)
    refine first.trans (ih (fun other later => redacted other (List.mem_cons_of_mem _ later)) ?_)
    intro other later
    have sameLength : (Credentials.path other).length = (Credentials.path key).length := rfl
    exact Value.plainAt_blank sameLength (plain other (List.mem_cons_of_mem _ later))

theorem servedAlike_of_sameButCredentials {body body' : Value}
    (redacted : ∀ key ∈ Credentials.secretKeys, Credentials.path key ∈ rule.paths)
    (same : body.SameButCredentials body') : ServedAlike rule body body' := by
  obtain ⟨keys, among, same, plain⟩ := same
  have listed : ∀ key ∈ keys, Credentials.path key ∈ rule.paths := fun key member => redacted key (among member)
  have first := servedAlike_withoutCredentials listed fun key member => (plain key member).1
  have second := servedAlike_withoutCredentials listed fun key member => (plain key member).2
  rw [same] at first
  exact first.trans second.symm

theorem Server.SameBut.imp {B' : Value → Value → Prop} (same : s.SameBut B s')
    (weaker : ∀ body body', B body body' → B' body body') : s.SameBut B' s' :=
  { same with objects := same.objects.imp fun _ _ one => { one with body := weaker _ _ one.body } }

namespace Server

theorem find?_related {α β : Type} {R : α → β → Prop} {p : α → Bool} {q : β → Bool} {xs : List α}
    {ys : List β} (related : List.Forall₂ R xs ys) (agree : ∀ x y, R x y → p x = q y) :
    Option.Rel R (xs.find? p) (ys.find? q) := by
  induction related with
  | nil => exact .none
  | cons head _ ih =>
    rw [List.find?_cons, List.find?_cons, ← agree _ _ head]
    split
    · exact .some head
    · exact ih

theorem map_related {α β γ δ : Type} {R : α → β → Prop} {P : γ → δ → Prop} {x : Option α} {y : Option β}
    {f : α → γ} {g : β → δ} (related : Option.Rel R x y) (mapped : ∀ a b, R a b → P (f a) (g b)) :
    Option.Rel P (x.map f) (y.map g) := by
  cases related with
  | none => exact .none
  | some one => exact .some (mapped _ _ one)

theorem reply_alike {α : Type} {Q : α → α → Prop} {answer answer' : Except Refusal α}
    (same : s.SameBut B s') (agree : Agree Q answer answer') (request : Request) (kind : Option String)
    (name : Option Value) :
    Agree Q (s.reply request kind name answer).1 (s'.reply request kind name answer').1 ∧
      (s.reply request kind name answer).2.SameBut B (s'.reply request kind name answer').2 := by
  unfold reply
  rw [same.failures]
  cases FailureRule.fire request kind name s'.failures with
  | none => exact ⟨agree, same⟩
  | some fired => exact ⟨.error fired.1, { same with failures := rfl }⟩

theorem secrets_reply {α : Type} (s : Server) (request : Request) (kind : Option String)
    (name : Option Value) (answer : Except Refusal α) :
    (s.reply request kind name answer).2.secrets = s.secrets := by
  unfold reply
  cases FailureRule.fire request kind name s.failures <;> rfl

theorem object?_related (same : s.SameBut B s') (kind : String) (name : Value) (ns : Option String) :
    Option.Rel B (s.object? kind name ns) (s'.object? kind name ns) := by
  refine map_related (find?_related same.objects fun o o' one => ?_) fun o o' one => one.body
  rw [one.kind, one.ns, one.name]

theorem selected_related (same : s.SameBut B s') (kind : String) (ns selector : Option String) :
    List.Forall₂ B ((s.selected kind ns selector).map (·.body))
      ((s'.selected kind ns selector).map (·.body)) := by
  have chosen : List.Forall₂ (StoredObject.SameBut B) (s.selected kind ns selector)
      (s'.selected kind ns selector) := by
    refine List.rel_filter ?_ same.objects
    intro o o' one
    simp only [one.kind, one.ns, one.labels]
  exact List.rel_map (fun _ _ one => one.body) chosen

theorem get_alike (same : s.SameBut (ServedAlike rule) s') (kind : String) (name : Value)
    (ns : Option String) :
    Agree (ReadAlike rule) (s.get kind name ns).1 (s'.get kind name ns).1 ∧
      (s.get kind name ns).2.SameBut (ServedAlike rule) (s'.get kind name ns).2 := by
  refine reply_alike same ?_ .get _ _
  have found := object?_related same kind name ns
  generalize s.object? kind name ns = body, s'.object? kind name ns = body' at found
  cases found with
  | none => exact .error notFound
  | some alike => exact alike.single.mapError Refusal.failing

theorem list_alike (same : s.SameBut (ServedAlike rule) s') (apiVersion kind : String)
    (ns selector : Option String) :
    Agree (List.Forall₂ (ReadAlike rule)) (s.list apiVersion kind ns selector).1
        (s'.list apiVersion kind ns selector).1 ∧
      (s.list apiVersion kind ns selector).2.SameBut (ServedAlike rule)
        (s'.list apiVersion kind ns selector).2 := by
  refine reply_alike same ?_ .list _ _
  refine Agree.mapError ?_ Refusal.failing
  exact Both.mapM ((selected_related same kind ns selector).imp fun _ _ alike => alike.item _ kind)

theorem discover_alike (same : s.SameBut B s') (apiVersion kind : String) :
    Agree Eq (s.discover apiVersion kind).1 (s'.discover apiVersion kind).1 ∧
      (s.discover apiVersion kind).2.SameBut B (s'.discover apiVersion kind).2 := by
  refine reply_alike same ?_ .discover _ _
  rw [same.notServed]
  exact .refl (fun _ => rfl) _

theorem secretData?_related (same : s.SameBut B s') (name ns : String) :
    Option.Rel Credentials.SameButValues (s.secretData? name ns) (s'.secretData? name ns) := by
  refine map_related (find?_related same.secrets fun secret secret' one => ?_) fun _ _ one => one.data
  rw [one.name, one.ns]

theorem secret_alike (same : s.SameBut B s') (name ns : String) :
    Agree (fun data data' => s.secretData? name ns = some data ∧ Credentials.SameButValues data data')
        (s.secret name ns).1 (s'.secret name ns).1 ∧
      (s.secret name ns).2.SameBut B (s'.secret name ns).2 := by
  refine reply_alike same ?_ .secret _ _
  have found := secretData?_related same name ns
  generalize s'.secretData? name ns = data' at found
  cases held : s.secretData? name ns with
  | none =>
    rw [held] at found
    cases found
    exact .error notFound
  | some data =>
    rw [held] at found
    cases found with
    | some alike => exact .ok ⟨rfl, alike⟩

end Server
end ClusterLedger
