import ClusterLedger.Value

/-!
What can go wrong. A fault is a cause with the context it arose in; outer layers may fill in context
that is still missing but never change what is there. Other failures carry no context.
-/

namespace ClusterLedger

structure Context where
  operation : Option String := none
  kind : Option String := none
  id : Option String := none
  name : Option Value := none
  deriving Repr, Inhabited

/-- Keeps a value unless it is missing or counts as nothing. -/
def fill {α : Type} (counts : α → Bool) (own new : Option α) : Option α :=
  match own with
  | some value => if counts value then some value else new
  | none => new

namespace Context

def fillFrom (own new : Context) : Context where
  operation := fill (· ≠ "") own.operation new.operation
  kind := fill (· ≠ "") own.kind new.kind
  id := fill (· ≠ "") own.id new.id
  name := fill Value.truthy own.name new.name

def fields (c : Context) : List (String × String) :=
  [("operation", c.operation), ("kind", c.kind), ("id", c.id), ("name", c.name.map Value.shown)].filterMap
    fun (label, value) => value.map (label, ·)

def text (c : Context) : String :=
  ", ".intercalate (c.fields.map fun (label, value) => label ++ "=" ++ value)

end Context

inductive Malformation where
  | keyNotText (key : Value)
  | unsupported (typeName : String)
  | expected (wanted found : NodeKind)
  | rootNotMapping (found : NodeKind)
  | partNotMapping (part : String) (found : NodeKind)
  | noPlainForm (typeName : String)
  | undecodableSecret (key : String)
  | reported (text : String)
  deriving Repr

inductive Misconfiguration where
  | unsupportedKind (shown : String)
  | misfiled (actual id filedUnder : String)
  | duplicateId (kind id : String)
  | noDirectory
  | unloadable (text : String)
  | rejectedSettings (text : String)
  | notServed (kind apiVersion : String)
  | duplicatePool (name : String)
  | invalidDiskSize (size reason : String)
  | reported (text : String)
  deriving Repr

inductive Interruption where
  | refused (status : Option Int) (reason : Option String)
  | unreachable (text : String)
  | reported (status : Option Int) (text : String)
  deriving Repr

inductive Cause where
  | general (text : String)
  | notFound (kind target : String) (ns : Option String)
  | malformed (what : Malformation)
  | misconfigured (what : Misconfiguration)
  | interrupted (what : Interruption)
  | unimplemented (text : String)
  deriving Repr

def Malformation.message : Malformation → String
  | keyNotText key => s!"Mapping key {key.literal} is not a string"
  | unsupported typeName => s!"Unsupported document value of type {typeName}"
  | expected wanted found => s!"Expected {wanted.name}, found {found.name}"
  | rootNotMapping found => s!"Document root must be a mapping, found {found.name}"
  | partNotMapping part found => s!"'{part}' must be a mapping, found {found.name}"
  | noPlainForm typeName => s!"Cannot convert {typeName} to a document"
  | undecodableSecret key => s!"Secret key '{key}' is not valid base64 text"
  | reported text => text

def Misconfiguration.message : Misconfiguration → String
  | unsupportedKind shown => s!"Unsupported infrastructure resource type: {shown}"
  | misfiled actual id filedUnder => s!"{actual} entry {id} is listed under {filedUnder}"
  | duplicateId kind id => s!"Duplicate {kind} ID {id}"
  | noDirectory => "No infrastructure directory configured"
  | unloadable text => s!"Unable to load cluster configuration: {text}"
  | rejectedSettings text => s!"Configuration error: {text}"
  | notServed kind apiVersion => s!"{kind} ({apiVersion}) is not served by the API server"
  | duplicatePool name => s!"Duplicate node pool name '{name}'"
  | invalidDiskSize size reason => s!"Invalid diskSize '{size}': {reason}"
  | reported text => text

def textOrNone : Option String → String
  | some text => text
  | none => "None"

namespace Interruption

def status : Interruption → Option Int
  | refused status _ => status
  | unreachable _ => none
  | reported status _ => status

def message : Interruption → String
  | refused status reason =>
    s!"Kubernetes API call failed with status {textOrNone (status.map toString)}: {textOrNone reason}"
  | unreachable text => s!"Kubernetes API unreachable: {text}"
  | reported _ text => text

end Interruption

def Cause.message : Cause → String
  | general text => text
  | notFound kind target ns =>
    s!"{kind} '{target}' not found" ++
      match ns with
      | some ns => if ns = "" then "" else s!" in namespace '{ns}'"
      | none => ""
  | malformed what => what.message
  | misconfigured what => what.message
  | interrupted what => what.message
  | unimplemented text => text

structure Fault where
  cause : Cause
  context : Context := {}
  deriving Repr

namespace Fault

def message (f : Fault) : String := f.cause.message

/-- Fills in missing context; what was set closer to the failure is kept. -/
def withContext (f : Fault) (context : Context) : Fault :=
  { f with context := f.context.fillFrom context }

def text (f : Fault) : String :=
  if f.context.fields.isEmpty then f.message else s!"{f.message} [{f.context.text}]"

def notFound (kind : String) (name : Option Value) (ns : Option String) (id : Option String)
    (operation : Option String) : Fault where
  cause := .notFound kind
    (match name with
      | some name => name.shown
      | none => textOrNone id) ns
  context := { operation, kind := some kind, id, name }

end Fault

inductive Problem where
  | missing | notText | notUnicode | tooShort
  | notWhole | notFinite | fractional | wholeTooLarge | unreadableWhole
  | notTruth | unreadableTruth | unknownChoice | notList | notMapping | notRecord
  deriving DecidableEq, Repr

def Problem.code : Problem → String
  | missing => "missing"
  | notText => "string_type"
  | notUnicode => "string_unicode"
  | tooShort => "string_too_short"
  | notWhole => "int_type"
  | notFinite => "finite_number"
  | fractional => "int_from_float"
  | wholeTooLarge => "int_parsing_size"
  | unreadableWhole => "int_parsing"
  | notTruth => "bool_type"
  | unreadableTruth => "bool_parsing"
  | unknownChoice => "enum"
  | notList => "list_type"
  | notMapping => "dict_type"
  | notRecord => "model_type"

structure Issue where
  path : List String
  problem : Problem
  deriving DecidableEq, Repr

inductive BadValue where
  | unknownProjection (literal : String)
  | nonAsciiText
  | notANumber
  | embeddedNull
  | pathInCluster
  | noKubeconfig (path : String)
  deriving Repr

def BadValue.message : BadValue → String
  | unknownProjection literal => s!"{literal} is not a valid ProjectionKind"
  | nonAsciiText => "string argument should contain only ASCII characters"
  | notANumber => "cannot convert NaN to integer"
  | embeddedNull => "embedded null byte"
  | pathInCluster => "kubeconfig_path cannot be combined with auth_mode=in_cluster"
  | noKubeconfig path => s!"Kubeconfig not found at {path}"

inductive BadState where
  | notConnected
  | noHome
  | reported (text : String)
  deriving Repr

def BadState.message : BadState → String
  | notConnected => "K8s client not connected"
  | noHome => "Could not determine home directory."
  | reported text => text

inductive PathFault where
  | tooLong
  | forbidden
  | broken
  deriving DecidableEq, Repr

inductive SettingPlace where
  | environment | file
  deriving DecidableEq, Repr

def SettingPlace.name : SettingPlace → String
  | environment => "EnvSettingsSource"
  | file => "DotEnvSettingsSource"

structure UnreadableSetting where
  field : String
  place : SettingPlace
  deriving DecidableEq, Repr

def UnreadableSetting.message (s : UnreadableSetting) : String :=
  s!"error parsing value for field \"{s.field}\" from source \"{s.place.name}\""

inductive Failure where
  | fault (fault : Fault)
  | invalid (issues : List Issue)
  | badValue (what : BadValue)
  | badState (what : BadState)
  | unreadableSetting (what : UnreadableSetting)
  /-- A field was asked of a value that has none. -/
  | noFields
  /-- An entry that has to be there is not. -/
  | missingEntry
  /-- A value was used in a way that values of its kind do not allow. -/
  | unfit
  | unfollowed (why : PathFault)
  | infiniteSize
  | noQuotient
  deriving Repr

namespace Failure

def ofCause (cause : Cause) (context : Context := {}) : Failure := fault ⟨cause, context⟩

def malformed (what : Malformation) (context : Context := {}) : Failure :=
  ofCause (.malformed what) context

def misconfigured (what : Misconfiguration) (context : Context := {}) : Failure :=
  ofCause (.misconfigured what) context

def withContext (context : Context) : Failure → Failure
  | fault f => fault (f.withContext context)
  | other => other

end Failure
end ClusterLedger
