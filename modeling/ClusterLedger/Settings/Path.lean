import ClusterLedger.Fault
import ClusterLedger.Text.Split

/-!
File paths as text. Empty and `.` parts are dropped, `..` is kept, and a leading `~` stands for a home
directory.
-/

namespace ClusterLedger

structure Host where
  /-- The home of whoever runs the program, where it is known. -/
  home : Option String
  /-- Home directories by the name of their user. -/
  users : List (String × String)
  workingDirectory : String
  files : List String
  /-- Directories in which nothing may be looked for. -/
  closed : List String
  /-- Places that cannot be looked at for any other reason. -/
  broken : List String
  deriving DecidableEq, Repr

def Host.bare : Host := ⟨some "/root", [], "/", [], [], []⟩

structure Path where
  root : String
  parts : List String
  deriving DecidableEq, Repr

namespace Path

/-- Exactly two slashes at the start are kept as they are; one, or more than two, are one. -/
def rootOf : List Char → String
  | '/' :: '/' :: '/' :: _ => "/"
  | '/' :: '/' :: _ => "//"
  | '/' :: _ => "/"
  | _ => ""

def ofText (text : String) : Path where
  root := rootOf text.toList
  parts := (Text.split '/' text).filter fun part => part ≠ "" && part ≠ "."

def text (p : Path) : String :=
  if p.root = "" && p.parts.isEmpty then "." else p.root ++ "/".intercalate p.parts

def join (p : Path) (parts : List String) : Path := { p with parts := p.parts ++ parts }

/-- A home as part of a path. A text that names a home itself is none, and one of slashes is the root. -/
def ofHome : Option String → Except Failure Path
  | none => .error (.badState .noHome)
  | some home =>
    if home.toList.head? = some '~' then .error (.badState .noHome)
    else if home.toList.all (· = '/') then .ok ⟨"/", []⟩
    else .ok (ofText home)

/-- What is known of a user's home; the user without a name is whoever runs the program. -/
def homeText? (host : Host) (user : List Char) : Option String :=
  if user.isEmpty then host.home else Assoc.find? (String.ofList user) host.users

def homeOf (host : Host) (part : String) : Except Failure (Option Path) :=
  match part.toList with
  | '~' :: user =>
    if '\x00' ∈ user then .error (.badValue .embeddedNull)
    else (ofHome (homeText? host user)).map some
  | _ => .ok none

def expand (host : Host) (p : Path) : Except Failure Path := do
  match p.root, p.parts with
  | "", first :: rest =>
    match ← homeOf host first with
    | some home => return home.join rest
    | none => return p
  | _, _ => return p

/-- No path may have more bytes than this, and no part of one more than `longestPart`. -/
def longest : Nat := 4095
def longestPart : Nat := 255

inductive Place where
  | present
  | absent
  | failing (why : PathFault)
  deriving DecidableEq, Repr

/-- Whether a directory or a file, given by its parts from the innermost outward, is one of these places. -/
def isAmong (places : List String) (here : List String) : Bool :=
  places.any fun place => (ofText place).parts = here.reverse

def leadsTo (places : List String) (here : List String) : Bool :=
  places.any fun place => here.reverse.isPrefixOf (ofText place).parts

def follow (host : Host) (inside : List String) : List String → Place
  | [] => .present
  | part :: rest =>
    let here := part :: inside
    if isAmong host.closed inside then .failing .forbidden
    else if part = ".." then follow host inside.tail rest
    else if longestPart < part.utf8ByteSize then .failing .tooLong
    else if isAmong host.broken here then .failing .broken
    else if isAmong host.files here then (if rest.isEmpty then .present else .absent)
    else if leadsTo (host.workingDirectory :: host.files ++ host.closed ++ host.broken) here then
      follow host here rest
    else .absent

def place (host : Host) (p : Path) : Place :=
  if p.text.toList.contains '\x00' then .absent
  else if longest < p.text.utf8ByteSize then .failing .tooLong
  else
    let start := if p.root = "" then (ofText host.workingDirectory).parts.reverse else []
    follow host start p.parts

end Path

def Host.has (host : Host) (path : Path) : Except Failure Bool :=
  match path.place host with
  | .present => .ok true
  | .absent => .ok false
  | .failing why => .error (.unfollowed why)

end ClusterLedger
