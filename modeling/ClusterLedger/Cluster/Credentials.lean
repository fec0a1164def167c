import ClusterLedger.Api.Client
import ClusterLedger.Cluster.Reference
import ClusterLedger.Text.Base64
import ClusterLedger.Text.Utf8

namespace ClusterLedger

structure Credentials where
  username : String
  password : String
  refreshToken : String
  deriving DecidableEq, Repr

namespace Credentials

def check (fields : Fields) : Checked Credentials :=
  Credentials.mk
    <$> Field.withDefault "" fields "username" Field.text
    <*> Field.withDefault "" fields "password" Field.text
    <*> Field.withDefault "" fields "refresh_token" Field.text

def trimLineFeeds (cs : List Char) : List Char := (cs.reverse.dropWhile (· = '\n')).reverse

def malformedSecret (key secretName : String) : Failure :=
  .malformed (.undecodableSecret key)
    { operation := some "resolve_credentials", kind := some "Secret", name := some (.text secretName) }

def encodedText? : Value → Option (List Char)
  | .text s => some s.toList
  | .bytes b => some (b.map fun n => Char.ofNat n.toNat)
  | _ => none

def isAsciiText : Value → Bool
  | .text s => s.toList.all fun c => c.toNat < 128
  | _ => true

def decode (key secretName : String) (v : Value) : Except Failure String :=
  if !isAsciiText v then .error (.badValue .nonAsciiText)
  else
    match ((encodedText? v).bind Text.base64Decode?).bind Text.utf8Decode? with
    | some cs => .ok (String.ofList (trimLineFeeds cs))
    | none => .error (malformedSecret key secretName)

def decodeKey (secretName : String) (data : List (Value × Value)) (key : String) :
    Except Failure (Option String) :=
  match Value.lookup key data with
  | some v => (decode key secretName v).map some
  | none => .ok none

structure Overrides where
  username : Option String
  password : Option String
  refreshToken : Option String
  deriving DecidableEq, Repr

namespace Overrides

def ofData (secretName : String) (data : List (Value × Value)) : Except Failure Overrides := do
  let username ← decodeKey secretName data "username"
  let password ← decodeKey secretName data "password"
  let refreshToken ← decodeKey secretName data "refreshToken"
  return ⟨username, password, refreshToken⟩

def fields (o : Overrides) : List String :=
  [("password", o.password), ("refresh_token", o.refreshToken), ("username", o.username)].filterMap
    fun (name, v) => v.map fun _ => name

end Overrides

def overriddenBy (declared : Credentials) (o : Overrides) : Credentials where
  username := o.username.getD declared.username
  password := o.password.getD declared.password
  refreshToken := o.refreshToken.getD declared.refreshToken

def secretContext (secretName : String) : Context where
  operation := some "resolve_credentials"
  kind := some "Secret"
  name := some (.text secretName)

def secretKeys : List String := ["username", "password", "refreshToken"]

/-- The entries of a secret's data. What is no mapping may not hold any of the keys. -/
def entriesOf (data : Value) : Except Failure (List (Value × Value)) :=
  let without (holds : String → Bool) : Except Failure (List (Value × Value)) :=
    if secretKeys.any holds then .error .unfit else .ok []
  let amongItems (items : List Value) := without fun key => items.any (Value.sameKey (.text key))
  if !data.truthy then .ok []
  else
    match data with
    | .map entries => .ok entries
    | .list items => amongItems items
    | .tuple items => amongItems items
    | .set items => amongItems items
    | .text s => without fun key => 1 < (s.splitOn key).length
    | .document d => without d.hasKey
    | _ => .error .unfit

def secretNamespace (ref : ObjectReference) : String :=
  match ref.ns with
  | some ns => if ns = "" then "default" else ns
  | none => "default"

def resolve (declared : Credentials) : Option ObjectReference → Action Credentials
  | none => return declared
  | some ref => do
    let ns := secretNamespace ref
    let data ← Action.within (secretContext ref.name) (Client.secret ref.name ns)
    let entries ← Action.ofExcept (entriesOf data)
    let overrides ← Action.ofExcept (Overrides.ofData ref.name entries)
    if !overrides.fields.isEmpty then Action.record (.overridden overrides.fields ns ref.name)
    return declared.overriddenBy overrides

end Credentials
end ClusterLedger
