import ClusterLedger.Event
import ClusterLedger.Record.Field
import ClusterLedger.Redaction
import ClusterLedger.Settings.File
import ClusterLedger.Settings.Path
import ClusterLedger.Text.Json

namespace ClusterLedger

inductive AuthMode where
  | auto | kubeconfig | inCluster
  deriving DecidableEq, Repr

namespace AuthMode

def name : AuthMode → String
  | auto => "auto"
  | kubeconfig => "kubeconfig"
  | inCluster => "in_cluster"

def choices : List (String × AuthMode) :=
  [auto, kubeconfig, inCluster].map fun mode => (mode.name, mode)

end AuthMode

def Level.choices : List (String × Level) :=
  [Level.debug, .info, .warning, .error].map fun level => (level.name, level)

structure Settings where
  authMode : AuthMode
  kubeconfigPath : Option String
  kubeconfigContext : Option String
  logLevel : Level
  sentinel : String
  redactedFields : List String
  deriving DecidableEq, Repr

structure SettingSources where
  arguments : List (String × Value)
  /-- The variables of the environment. -/
  environment : List (String × String)
  /-- The text of the settings file. -/
  file : String

namespace Settings

def check (fields : Fields) : Checked Settings :=
  Settings.mk
    <$> Field.withDefault .auto fields "auth_mode" (Field.choice AuthMode.choices)
    <*> Field.withDefault none fields "kubeconfig_path" (Field.optional Field.text)
    <*> Field.withDefault none fields "kubeconfig_context" (Field.optional Field.text)
    <*> Field.withDefault .info fields "log_level" (Field.choice Level.choices)
    <*> Field.withDefault RedactionRule.defaultSentinel fields "redaction_sentinel" Field.nonemptyText
    <*> Field.withDefault RedactionRule.defaultFields fields "redacted_fields" (Field.list Field.text)

def variableStart : String := "fleet_reconcile_"

/-- The case of names does not count; the sign for kelvin is a capital K. -/
def lower (name : String) : String :=
  String.ofList (name.toList.map fun c => if c = '\u212a' then 'k' else c.toLower)

def argument? (arguments : List (String × Value)) (field : String) : Option Value :=
  (arguments.find? fun argument => lower argument.1 = field).map (·.2)

def variableText? (bindings : SettingsFile.Bindings) (field : String) : Option String :=
  ((bindings.filter fun v => lower v.1 = variableStart ++ field).getLast?).bind (·.2)

def listVariable (place : SettingPlace) (bindings : SettingsFile.Bindings) (field : String) :
    Except Failure (Option Value) :=
  match variableText? bindings field with
  | none => .ok none
  | some text =>
    match Json.read? text with
    | some .null => .ok none
    | some v => .ok (some v)
    | none => .error (.unreadableSetting ⟨field, place⟩)

def load (s : SettingSources) : Except Failure Settings := do
  let environment := Assoc.mapValues some s.environment
  let file := SettingsFile.read s.environment s.file
  let fromEnvironment ← listVariable .environment environment "redacted_fields"
  let fromFile ← listVariable .file file "redacted_fields"
  let fields : Fields := fun name =>
    (argument? s.arguments name).or
      (if name = "redacted_fields" then fromEnvironment.or fromFile
       else ((variableText? environment name).or (variableText? file name)).map Value.text)
  (check fields).toExcept

def rule (s : Settings) : RedactionRule := .ofDotted s.redactedFields s.sentinel

def isGiven (text : Option String) : Bool := text.any (· ≠ "")

/-- The path of the access file; by default it lies in the home directory. -/
def accessPath (host : Host) (s : Settings) : Except Failure Path :=
  let default := (Path.ofHome host.home).map (·.join [".kube", "config"])
  match s.kubeconfigPath with
  | none => default
  | some "" => default
  | some path => (Path.ofText path).expand host

def advice (host : Host) (s : Settings) : Except Failure (List String) := do
  if s.authMode = .inCluster && isGiven s.kubeconfigPath then throw (.badValue .pathInCluster)
  if s.authMode = .kubeconfig then
    let path ← s.accessPath host
    if !(← host.has path) then throw (.badValue (.noKubeconfig path.text))
  let ignored :=
    if s.authMode = .inCluster && isGiven s.kubeconfigContext then
      ["kubeconfig_context is ignored with auth_mode=in_cluster"]
    else []
  let bare :=
    if s.redactedFields.isEmpty then
      ["No redacted fields configured; credentials may appear in projections"]
    else []
  return ignored ++ bare

end Settings
end ClusterLedger
