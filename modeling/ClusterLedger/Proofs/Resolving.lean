import ClusterLedger.Cluster.Credentials
import ClusterLedger.Proofs.Actions
import ClusterLedger.Proofs.Encodings
import Mathlib.Data.List.DropRight

namespace ClusterLedger
namespace Credentials

structure IsTrimmed (s t : String) : Prop where
  rest : ∃ n, s.toList = t.toList ++ List.replicate n '\n'
  last : t.toList.getLast? ≠ some '\n'

def trimmed (s : String) : String := .ofList (trimLineFeeds s.toList)

theorem isTrimmed_trimmed (s : String) : IsTrimmed s (trimmed s) := by
  have kept : (trimmed s).toList = s.toList.rdropWhile (· = '\n') := String.toList_ofList
  constructor
  · have feeds : ∀ c ∈ s.toList.rtakeWhile (· = '\n'), c = '\n' := by
      intro c member
      simpa using List.mem_rtakeWhile_imp member
    refine ⟨(s.toList.rtakeWhile (· = '\n')).length, ?_⟩
    rw [kept, ← List.eq_replicate_of_mem feeds]
    exact List.rdropWhile_append_rtakeWhile.symm
  · rw [kept]
    intro ends
    obtain ⟨nonempty, last⟩ := List.mem_getLast?_eq_getLast ends
    have other := List.rdropWhile_last_not _ _ nonempty
    simp [← last] at other

def encoded (s : String) : Value := .text (.ofList (Text.base64Encode s.toUTF8.data.toList))

theorem decode_encoded (key secretName s : String) : decode key secretName (encoded s) = .ok (trimmed s) := by
  have ascii : isAsciiText (encoded s) = true := by
    unfold isAsciiText encoded
    simp only [String.toList_ofList, List.all_eq_true, decide_eq_true_eq]
    exact Text.ascii_base64Encode _
  have characters : ((encodedText? (encoded s)).bind Text.base64Decode?).bind Text.utf8Decode? = some s.toList := by
    unfold encodedText? encoded
    simp only [String.toList_ofList, Option.bind_some, Text.base64Decode?_encode, ← Text.utf8Encode_toList,
      Text.utf8Decode?_encode]
  unfold decode
  rw [ascii, characters]
  rfl

/-- The data of a secret holds these texts, and none for the other fields; it may have other keys. -/
structure Provides (data : List (Value × Value)) (texts : Overrides) : Prop where
  username : Value.lookup "username" data = texts.username.map encoded
  password : Value.lookup "password" data = texts.password.map encoded
  refreshToken : Value.lookup "refreshToken" data = texts.refreshToken.map encoded

theorem decodeKey_of_provided {key secretName : String} {data : List (Value × Value)} {text : Option String}
    (provided : Value.lookup key data = text.map encoded) :
    decodeKey secretName data key = .ok (text.map trimmed) := by
  unfold decodeKey
  rw [provided]
  cases text with
  | none => rfl
  | some s =>
    show (decode key secretName (encoded s)).map some = .ok (some (trimmed s))
    rw [decode_encoded]
    rfl

theorem ofData_of_provides {data : List (Value × Value)} {texts : Overrides} (provides : Provides data texts)
    (secretName : String) : Overrides.ofData secretName data =
      .ok ⟨texts.username.map trimmed, texts.password.map trimmed, texts.refreshToken.map trimmed⟩ := by
  unfold Overrides.ofData
  rw [decodeKey_of_provided provides.username, decodeKey_of_provided provides.password,
    decodeKey_of_provided provides.refreshToken]
  rfl

/-- A field of resolved credentials: what the secret holds for it, trimmed, or else what is declared. -/
inductive IsResolved (declared : String) : Option String → String → Prop
  | declared : IsResolved declared none declared
  | held {s t : String} (trimmed : IsTrimmed s t) : IsResolved declared (some s) t

theorem isResolved_getD (declared : String) (text : Option String) :
    IsResolved declared text ((text.map trimmed).getD declared) := by
  cases text with
  | none => exact .declared
  | some s => exact .held (isTrimmed_trimmed s)

variable {w after : World} {declared : Credentials} {ref : ObjectReference}

theorem resolve_of_mapped {data : Value} {entries : List (Value × Value)}
    (answered : Client.secret ref.name (secretNamespace ref) w = (.ok data, after))
    (mapped : entriesOf data = .ok entries) :
    (declared.resolve (some ref) w).1 = (Overrides.ofData ref.name entries).map declared.overriddenBy := by
  have fetched : Action.within (secretContext ref.name) (Client.secret ref.name (secretNamespace ref)) w =
      (.ok data, after) := Action.within_of_ok answered
  have entered : Action.ofExcept (entriesOf data) after = (.ok entries, after) := congrArg (·, after) mapped
  refine (congrArg Prod.fst (Action.bind_of_ok fetched)).trans ?_
  refine (congrArg Prod.fst (Action.bind_of_ok entered)).trans ?_
  cases read : Overrides.ofData ref.name entries with
  | error failure =>
    have ended : Action.ofExcept (Except.error (α := Overrides) failure) after = (.error failure, after) := rfl
    exact congrArg Prod.fst (Action.bind_of_error ended)
  | ok overrides =>
    have decoded : Action.ofExcept (Except.ok overrides) after = (.ok overrides, after) := rfl
    refine (congrArg Prod.fst (Action.bind_of_ok decoded)).trans ?_
    -- The event that tells of overridden fields does not change the result.
    split <;> rfl

theorem resolve_of_read {data : Value} {entries : List (Value × Value)} {overrides : Overrides}
    (answered : Client.secret ref.name (secretNamespace ref) w = (.ok data, after))
    (mapped : entriesOf data = .ok entries) (read : Overrides.ofData ref.name entries = .ok overrides) :
    (declared.resolve (some ref) w).1 = .ok (declared.overriddenBy overrides) := by
  rw [resolve_of_mapped answered mapped, read]
  rfl

/-- A secret that holds texts in Base64 gives credentials that have them, trimmed. -/
theorem resolve_decodes {data : Option (List (Value × Value))} {texts : Overrides}
    (answered : Client.secret ref.name (secretNamespace ref) w = (.ok (.ofOption (data.map .map)), after))
    (provides : Provides (data.getD []) texts) :
    ∃ c, (declared.resolve (some ref) w).1 = .ok c ∧
      IsResolved declared.username texts.username c.username ∧
      IsResolved declared.password texts.password c.password ∧
      IsResolved declared.refreshToken texts.refreshToken c.refreshToken := by
  have mapped : entriesOf (.ofOption (data.map .map)) = .ok (data.getD []) := by
    rcases data with _ | _ | ⟨entry, rest⟩ <;> rfl
  refine ⟨_, resolve_of_read answered mapped (ofData_of_provides provides ref.name), ?_⟩
  exact ⟨isResolved_getD .., isResolved_getD .., isResolved_getD ..⟩

def keepingFeeds : World where
  server :=
    { objects := []
      secrets := [⟨"creds", "default",
        .map [(.text "password", .text "Cgo="), (.text "note", .null), (.text "username", .text "w6kK")]⟩]
      notServed := []
      failures := []
      inClusterFault := none
      kubeconfigFault := none }
  session := .borrowed
  nextClient := 1
  calls := []
  events := []

theorem resolve_decodes_feeds :
    let declared : Credentials := ⟨"admin", "secret", "token"⟩
    let data := [(.text "password", .text "Cgo="), (.text "note", .null), (.text "username", .text "w6kK")]
    let texts : Overrides := ⟨some "é\n", some "\n\n", none⟩
    ∃ after, Client.secret "creds" "default" keepingFeeds = (.ok (.map data), after) ∧ Provides data texts ∧
      ∃ c, (declared.resolve (some ⟨"creds", none, none, none⟩) keepingFeeds).1 = .ok c ∧
        IsResolved "admin" (some "é\n") c.username ∧ IsResolved "secret" (some "\n\n") c.password ∧
        IsResolved "token" none c.refreshToken := by
  intro declared data texts
  obtain ⟨after, answered⟩ : ∃ after, Client.secret "creds" "default" keepingFeeds = (.ok (.map data), after) :=
    ⟨_, rfl⟩
  have provides : Provides data texts := ⟨rfl, rfl, rfl⟩
  exact ⟨after, answered, provides, @resolve_decodes keepingFeeds after declared
    ⟨"creds", none, none, none⟩ (some data) texts answered provides⟩

end Credentials
end ClusterLedger
