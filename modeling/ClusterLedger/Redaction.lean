import ClusterLedger.Document.Access
import ClusterLedger.Text.Split

namespace ClusterLedger

structure RedactionRule where
  paths : List (List String)
  sentinel : String
  nonempty : ∀ path ∈ paths, path ≠ []
  deriving DecidableEq, Repr

namespace Document

/-- What a path of keys leads to, when every step stands on a mapping that has the next key. -/
def at? : List String → Document → Option Document
  | [], d => some d
  | key :: rest, d => (d.child? key).bind (at? rest)

def overwrite (value : Document) : List String → Document → Document
  | [], _ => value
  | key :: rest, mapping entries =>
    match Assoc.find? key entries with
    | some child => mapping (Assoc.set key (overwrite value rest child) entries)
    | none => mapping entries
  | _ :: _, d => d

def overwriteAll (value : Document) (paths : List (List String)) (d : Document) : Document :=
  paths.foldl (fun d path => overwrite value path d) d

end Document

namespace RedactionRule

def defaultSentinel : String := "***REDACTED***"

def defaultFields : List String :=
  ["spec.userContext.username", "spec.userContext.password", "spec.userContext.refreshToken"]

/-- Paths are written with points between the keys; an empty text is no path. -/
def ofDotted (paths : List String) (sentinel : String) : RedactionRule where
  paths := (paths.filter (· ≠ "")).map (Text.split '.')
  sentinel := sentinel
  nonempty path listed := by
    obtain ⟨text, _, rfl⟩ := List.mem_map.mp listed
    exact Text.split_ne_nil '.' text

def credentials : RedactionRule := ofDotted defaultFields defaultSentinel

def apply (rule : RedactionRule) (d : Document) : Document :=
  Document.overwriteAll (.string rule.sentinel) rule.paths d

end RedactionRule
end ClusterLedger
