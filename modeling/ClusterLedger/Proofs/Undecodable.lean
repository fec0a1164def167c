import ClusterLedger.Proofs.Resolving

namespace ClusterLedger
namespace Credentials

/-- A value of a secret and the text that it stands for: it is written in Base64 of UTF-8. -/
def Stands (v : Value) (cs : List Char) : Prop :=
  ∃ letters, encodedText? v = some letters ∧ Text.IsBase64 letters (Text.utf8Encode cs)

def IsDecodable (v : Value) : Prop := ∃ cs, Stands v cs

theorem stands_iff {v : Value} {cs : List Char} :
    ((encodedText? v).bind Text.base64Decode?).bind Text.utf8Decode? = some cs ↔ Stands v cs := by
  simp only [Option.bind_eq_some_iff, Text.base64Decode?_eq_some_iff, Text.utf8Decode?_eq_some_iff, Stands]
  constructor
  · intro ⟨bytes, ⟨letters, held, written⟩, same⟩
    exact ⟨letters, held, same ▸ written⟩
  · intro ⟨letters, held, written⟩
    exact ⟨_, ⟨letters, held, written⟩, rfl⟩

theorem Stands.ascii {v : Value} {cs : List Char} (stands : Stands v cs) : isAsciiText v = true := by
  obtain ⟨letters, held, written⟩ := stands
  cases v with
  | text s =>
    obtain rfl := Option.some.inj held
    simp only [isAsciiText, List.all_eq_true, decide_eq_true_eq]
    exact written.ascii
  | _ => rfl

def refusal (key secretName : String) (v : Value) : Failure :=
  if isAsciiText v then malformedSecret key secretName else .badValue .nonAsciiText

theorem decode_of_stands {v : Value} {cs : List Char} (stands : Stands v cs) (key secretName : String) :
    decode key secretName v = .ok (.ofList (trimLineFeeds cs)) := by
  unfold decode
  rw [stands.ascii, stands_iff.mpr stands]
  rfl

theorem decode_of_undecodable {v : Value} (undecodable : ¬IsDecodable v) (key secretName : String) :
    decode key secretName v = .error (refusal key secretName v) := by
  have nothing : ((encodedText? v).bind Text.base64Decode?).bind Text.utf8Decode? = none := by
    rw [Option.eq_none_iff_forall_ne_some]
    intro cs found
    exact undecodable ⟨cs, stands_iff.mp found⟩
  unfold decode refusal
  rw [nothing]
  cases isAsciiText v <;> rfl

def Fine (data : List (Value × Value)) (key : String) : Prop :=
  ∀ v, Value.lookup key data = some v → IsDecodable v

inductive FirstUndecodable (data : List (Value × Value)) : List String → String → Value → Prop
  | here {key : String} {v : Value} {rest : List String} (held : Value.lookup key data = some v)
      (undecodable : ¬IsDecodable v) : FirstUndecodable data (key :: rest) key v
  | later {first key : String} {v : Value} {rest : List String} (fine : Fine data first)
      (next : FirstUndecodable data rest key v) : FirstUndecodable data (first :: rest) key v

variable {data : List (Value × Value)}

theorem FirstUndecodable.unique {keys : List String} {key key' : String} {v v' : Value}
    (first : FirstUndecodable data keys key v) (other : FirstUndecodable data keys key' v') :
    key = key' ∧ v = v' := by
  induction first with
  | here held undecodable =>
    cases other with
    | here held' => exact ⟨rfl, Option.some.inj (held.symm.trans held')⟩
    | later fine => exact absurd (fine _ held) undecodable
  | later fine _ ih =>
    cases other with
    | here held undecodable => exact absurd (fine _ held) undecodable
    | later _ next => exact ih next

theorem decodeKey_cases (data : List (Value × Value)) (secretName key : String) :
    (Fine data key ∧ ∃ text, decodeKey secretName data key = .ok text) ∨
      ∃ v, Value.lookup key data = some v ∧ ¬IsDecodable v ∧
        decodeKey secretName data key = .error (refusal key secretName v) := by
  unfold decodeKey Fine
  cases held : Value.lookup key data with
  | none => exact .inl ⟨by simp, _, rfl⟩
  | some v =>
    dsimp only
    by_cases decodable : IsDecodable v
    · obtain ⟨cs, stands⟩ := decodable
      rw [decode_of_stands stands]
      refine .inl ⟨fun u same => ?_, _, rfl⟩
      cases same
      exact ⟨cs, stands⟩
    · rw [decode_of_undecodable decodable]
      exact .inr ⟨v, rfl, decodable, rfl⟩

/-- The values of all three keys are read, or the first that cannot be read ends the reading. -/
theorem ofData_cases (data : List (Value × Value)) (secretName : String) :
    ((∀ key ∈ secretKeys, Fine data key) ∧ ∃ overrides, Overrides.ofData secretName data = .ok overrides) ∨
      ∃ key v, FirstUndecodable data secretKeys key v ∧
        Overrides.ofData secretName data = .error (refusal key secretName v) := by
  unfold Overrides.ofData
  rcases decodeKey_cases data secretName "username" with ⟨fine, _, read⟩ | ⟨v, held, undecodable, failed⟩
  · rw [read]
    rcases decodeKey_cases data secretName "password" with ⟨fine', _, read⟩ | ⟨v, held, undecodable, failed⟩
    · rw [read]
      rcases decodeKey_cases data secretName "refreshToken" with ⟨fine'', _, read⟩ | ⟨v, held, undecodable, failed⟩
      · rw [read]
        refine .inl ⟨?_, _, rfl⟩
        simp only [secretKeys, List.forall_mem_cons]
        exact ⟨fine, fine', fine'', by simp⟩
      · rw [failed]
        exact .inr ⟨_, v, .later fine (.later fine' (.here held undecodable)), rfl⟩
    · rw [failed]
      exact .inr ⟨_, v, .later fine (.here held undecodable), rfl⟩
  · rw [failed]
    exact .inr ⟨_, v, .here held undecodable, rfl⟩

theorem not_firstUndecodable {keys : List String} (fine : ∀ key ∈ keys, Fine data key) (key : String) (v : Value) :
    ¬FirstUndecodable data keys key v := by
  intro first
  induction first with
  | here held undecodable => exact undecodable (fine _ List.mem_cons_self _ held)
  | later _ _ ih => exact ih fun key member => fine key (List.mem_cons_of_mem _ member)

/-- Credentials for a secret that can be read throughout, or else the name of the first key that cannot. -/
inductive Contained (data : List (Value × Value)) : Except Failure Credentials → Prop
  | returned (fine : ∀ key ∈ secretKeys, Fine data key) (c : Credentials) : Contained data (.ok c)
  | malformed {key : String} {v : Value} (first : FirstUndecodable data secretKeys key v) {what : Malformation}
      (named : what.message = "Secret key '" ++ key ++ "' is not valid base64 text") (context : Context) :
      Contained data (.error (.malformed what context))

variable {w after : World} {declared : Credentials} {ref : ObjectReference}

/--
A secret that is a mapping gives credentials or the name of the first key that cannot be read, exactly if the value
of that key is no text outside of ASCII; such a text gives another failure.
-/
theorem resolve_contained_iff {entries : List (Value × Value)}
    (answered : Client.secret ref.name (secretNamespace ref) w = (.ok (.map entries), after)) :
    (Contained entries (declared.resolve (some ref) w).1 ↔
      ∀ key v, FirstUndecodable entries secretKeys key v → isAsciiText v = true) ∧
    ∀ key v, FirstUndecodable entries secretKeys key v → isAsciiText v = false →
      (declared.resolve (some ref) w).1 = .error (.badValue .nonAsciiText) := by
  have mapped : entriesOf (.map entries) = .ok entries := by
    cases entries <;> rfl
  rcases ofData_cases entries ref.name with ⟨fine, overrides, read⟩ | ⟨key, v, first, failed⟩
  · rw [resolve_of_mapped answered mapped, read]
    have none := not_firstUndecodable fine
    exact ⟨⟨fun _ key v first => absurd first (none key v), fun _ => .returned fine _⟩,
      fun key v first => absurd first (none key v)⟩
  · rw [resolve_of_mapped answered mapped, failed, refusal]
    cases ascii : isAsciiText v with
    | true =>
      refine ⟨⟨fun _ key' v' other => ?_, fun _ => .malformed first rfl _⟩, fun key' v' other foreign => ?_⟩
      · obtain ⟨_, rfl⟩ := first.unique other
        exact ascii
      · obtain ⟨_, rfl⟩ := first.unique other
        cases ascii.symm.trans foreign
    | false =>
      refine ⟨⟨fun contained => ?_, fun all => ?_⟩, fun _ _ _ _ => rfl⟩
      · cases contained
      · cases ascii.symm.trans (all key v first)

def holding (data : List (Value × Value)) : World where
  server :=
    { objects := []
      secrets := [⟨"creds", "default", .map data⟩]
      notServed := []
      failures := []
      inClusterFault := none
      kubeconfigFault := none }
  session := .borrowed
  nextClient := 1
  calls := []
  events := []

theorem resolve_contained_iff_number :
    let declared : Credentials := ⟨"admin", "secret", "token"⟩
    let data := [(.text "refreshToken", .text "é"), (.text "password", .whole 7), (.text "username", .text "w6k=")]
    let result := (declared.resolve (some ⟨"creds", none, none, none⟩) (holding data)).1
    ∃ after, Client.secret "creds" "default" (holding data) = (.ok (.map data), after) ∧
      (Contained data result ↔ ∀ key v, FirstUndecodable data secretKeys key v → isAsciiText v = true) ∧
      ∀ key v, FirstUndecodable data secretKeys key v → isAsciiText v = false →
        result = .error (.badValue .nonAsciiText) := by
  intro declared data result
  obtain ⟨after, answered⟩ : ∃ after, Client.secret "creds" "default" (holding data) = (.ok (.map data), after) :=
    ⟨_, rfl⟩
  exact ⟨after, answered, @resolve_contained_iff (holding data) after declared
    ⟨"creds", none, none, none⟩ data answered⟩

/-- An accent in a value is not told as a malformed secret. -/
theorem uncontained_accent :
    let declared : Credentials := ⟨"admin", "secret", "token"⟩
    let data := [(.text "username", .text "é")]
    (∃ after, Client.secret "creds" "default" (holding data) = (.ok (.map data), after)) ∧
      ¬Contained data (declared.resolve (some ⟨"creds", none, none, none⟩) (holding data)).1 := by
  intro declared data
  refine ⟨⟨_, rfl⟩, fun contained => ?_⟩
  have result : (declared.resolve (some ⟨"creds", none, none, none⟩) (holding data)).1 =
      .error (.badValue .nonAsciiText) := rfl
  rw [result] at contained
  cases contained

end Credentials
end ClusterLedger
