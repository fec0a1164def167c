import ClusterLedger.Settings.Reference
import ClusterLedger.Text.Blank

/-!
Settings files: lines that give a name a value, with comments, quotes and an optional `export`. A line
that cannot be read is passed over. A value may refer to variables of the environment and to names that
are bound before it.
-/

namespace ClusterLedger.SettingsFile

def unifyLineEnds : List Char → List Char
  | '\r' :: '\n' :: rest => '\n' :: unifyLineEnds rest
  | '\r' :: rest => '\n' :: unifyLineEnds rest
  | c :: rest => c :: unifyLineEnds rest
  | [] => []

def isGap (c : Char) : Bool := Text.isBlank c && c ≠ '\n'

def skipLine (cs : List Char) : List Char := (cs.dropWhile (· ≠ '\n')).drop 1

def skipExport (cs : List Char) : List Char :=
  let word := "export".toList
  if word.isPrefixOf cs then
    let rest := cs.drop word.length
    if rest.head?.any isGap then rest.dropWhile isGap else cs
  else cs

/-- The text up to a quote. A backslash keeps the character after it from closing the text. -/
def quotedText? (quote : Char) : List Char → Option (List Char × List Char)
  | [] => none
  | '\\' :: c :: rest => (quotedText? quote rest).map fun (cs, rest) => ('\\' :: c :: cs, rest)
  | c :: rest =>
    if c = quote then some ([], rest)
    else if c = '\\' then none
    else (quotedText? quote rest).map fun (cs, rest) => (c :: cs, rest)

def singleEscape? : Char → Option Char
  | '\\' => some '\\'
  | '\'' => some '\''
  | _ => none

def doubleEscape? : Char → Option Char
  | '\\' => some '\\'
  | '\'' => some '\''
  | '"' => some '"'
  | 'a' => some '\x07'
  | 'b' => some '\x08'
  | 'f' => some '\x0c'
  | 'n' => some '\n'
  | 'r' => some '\r'
  | 't' => some '\t'
  | 'v' => some '\x0b'
  | _ => none

def unescape (escape? : Char → Option Char) : List Char → List Char
  | '\\' :: c :: rest =>
    match escape? c with
    | some e => e :: unescape escape? rest
    | none => '\\' :: unescape escape? (c :: rest)
  | c :: rest => c :: unescape escape? rest
  | [] => []

def beforeComment : List Char → List Char
  | [] => []
  | c :: rest =>
    if Text.isBlank c && (rest.dropWhile Text.isBlank).head? = some '#' then []
    else c :: beforeComment rest

def trimEnd (cs : List Char) : List Char := (cs.reverse.dropWhile Text.isBlank).reverse

/-- A value with what follows it; none if a quote is not closed. Blanks may stand before the value. -/
def readText? (cs : List Char) : Option (List Char × List Char) :=
  match cs.dropWhile isGap with
  | '\'' :: rest => (quotedText? '\'' rest).map fun (v, rest) => (unescape singleEscape? v, rest)
  | '"' :: rest => (quotedText? '"' rest).map fun (v, rest) => (unescape doubleEscape? v, rest)
  | _ =>
    let bare := beforeComment (cs.takeWhile (· ≠ '\n'))
    some (trimEnd (bare.dropWhile Text.isBlank), cs.dropWhile (· ≠ '\n'))

def readKey? (cs : List Char) : Option (List Char × List Char) :=
  match cs with
  | '\'' :: rest =>
    let key := rest.takeWhile (· ≠ '\'')
    match rest.dropWhile (· ≠ '\'') with
    | _ :: rest => if key.isEmpty then none else some (key, rest)
    | [] => none
  | cs =>
    let stops (c : Char) : Bool := c = '=' || c = '#' || Text.isBlank c
    let key := cs.takeWhile fun c => !stops c
    if key.isEmpty then none else some (key, cs.dropWhile fun c => !stops c)

def endsLine (cs : List Char) : Bool :=
  match cs.dropWhile isGap with
  | [] => true
  | c :: _ => c = '#' || c = '\n'

def readBinding (cs : List Char) : Option (String × Option String) × List Char :=
  let start := skipExport cs
  match readKey? start with
  | none => (none, start)
  | some (key, rest) =>
    match rest.dropWhile isGap with
    | '=' :: start =>
      match readText? start with
      | some (v, rest) =>
        (if endsLine rest then some (String.ofList key, some (String.ofList v)) else none, rest)
      | none => (none, start)
    | rest => (if endsLine rest then some (String.ofList key, none) else none, rest)

def readFrom : (fuel : Nat) → List Char → Bindings
  | 0, _ => []
  | fuel + 1, cs =>
    match cs.dropWhile Text.isBlank with
    | [] => []
    | line =>
      let (binding, rest) := readBinding line
      binding.toList ++ readFrom fuel (skipLine rest)

/-- The bindings of a file, line by line; a mark of the byte order may stand in front of them. -/
def bindings (text : String) : Bindings :=
  let cs := unifyLineEnds text.toList
  let body := if cs.head? = some '\ufeff' then cs.drop 1 else cs
  readFrom (body.length + 1) body

/-- Names in the order of their first bindings, with their last values; later lines see earlier ones. -/
def resolve (environment : List (String × String)) (lines : Bindings) : Bindings :=
  let outer := Assoc.mapValues some environment
  lines.foldl (fun done (name, v) =>
    Assoc.set name (v.map (Reference.expand (Assoc.overlay outer done))) done) []

def read (environment : List (String × String)) (text : String) : Bindings :=
  resolve environment (bindings text)

end ClusterLedger.SettingsFile
