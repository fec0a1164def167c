import ClusterLedger.Text.Split

namespace ClusterLedger.Yaml

def nullForms : List String := ["", "~", "null", "Null", "NULL"]

def truthForms : List String := [
  "yes", "Yes", "YES", "no", "No", "NO", "true", "True", "TRUE", "false", "False", "FALSE",
  "on", "On", "ON", "off", "Off", "OFF"]

def markForms : List String := ["<<", "=", "!", "&", "*"]

def infinityForms : List String := [".inf", ".Inf", ".INF"]
def nanForms : List String := [".nan", ".NaN", ".NAN"]

def isCountChar (c : Char) : Bool := c.isDigit || c = '_'

def isCount : List Char → Bool
  | c :: rest => c.isDigit && rest.all isCountChar
  | [] => false

def startsNonzero : List Char → Bool
  | c :: _ => c.isDigit && c ≠ '0'
  | [] => false

def dropSign : List Char → List Char
  | '-' :: rest => rest
  | '+' :: rest => rest
  | text => text

def isSixtieth : List Char → Bool
  | [b] => b.isDigit
  | [a, b] => '0' ≤ a && a ≤ '5' && b.isDigit
  | _ => false

def isSexagesimal (text : List Char) : Bool :=
  match Text.splitAt ':' text with
  | first :: second :: rest => isCount first && (second :: rest).all isSixtieth
  | _ => false

def isWholeForm (text : List Char) : Bool :=
  match dropSign text with
  | '0' :: 'b' :: rest => !rest.isEmpty && rest.all fun c => c = '0' || c = '1' || c = '_'
  | '0' :: 'x' :: rest =>
    !rest.isEmpty && rest.all fun c =>
      isCountChar c || ('a' ≤ c && c ≤ 'f') || ('A' ≤ c && c ≤ 'F')
  | '0' :: rest => rest.all fun c => ('0' ≤ c && c ≤ '7') || c = '_'
  | body => startsNonzero body && (isCount body || isSexagesimal body)

def isPower : List Char → Bool
  | [] => true
  | mark :: sign :: digits =>
    (mark = 'e' || mark = 'E') && (sign = '-' || sign = '+') && !digits.isEmpty &&
      digits.all Char.isDigit
  | _ => false

def isFractionForm (text : List Char) : Bool :=
  let body := dropSign text
  let whole := body.takeWhile (· ≠ '.')
  match body.dropWhile (· ≠ '.') with
  | [] => false
  | _ :: rest =>
    let fraction := rest.takeWhile isCountChar
    let power := rest.dropWhile isCountChar
    (isCount whole && isPower power) || (isSexagesimal whole && power.isEmpty) ||
      (text.head? = some '.' && isCount fraction && isPower power)

def dropDigits? (least most : Nat) (text : List Char) : Option (List Char) :=
  let digits := (text.take most).takeWhile Char.isDigit
  if least ≤ digits.length then some (text.drop digits.length) else none

def dropChar? (accepts : Char → Bool) : List Char → Option (List Char)
  | c :: rest => if accepts c then some rest else none
  | [] => none

def isPadding (c : Char) : Bool := c = ' ' || c = '\t'

/-- The offset from universal time: nothing, `Z`, or signed hours with or without minutes. -/
def isOffset (text : List Char) : Bool :=
  match text.dropWhile isPadding with
  | [] => text.isEmpty
  | ['Z'] => true
  | sign :: rest =>
    (sign = '-' || sign = '+') &&
      match dropDigits? 1 2 rest with
      | some [] => true
      | some (':' :: minutes) => dropDigits? 2 2 minutes = some []
      | _ => false

def isTimeOfDay (text : List Char) : Bool :=
  match (do
    let text ← dropDigits? 1 2 text
    let text ← dropChar? (· = ':') text
    let text ← dropDigits? 2 2 text
    let text ← dropChar? (· = ':') text
    dropDigits? 2 2 text) with
  | some ('.' :: rest) => isOffset (rest.dropWhile Char.isDigit)
  | some rest => isOffset rest
  | none => false

/-- A date in full, or a date and a time of day with `T` or blanks between. -/
def isTimeForm (text : List Char) : Bool :=
  (do
    let text ← dropDigits? 4 4 text
    let text ← dropChar? (· = '-') text
    let text ← dropDigits? 2 2 text
    let text ← dropChar? (· = '-') text
    dropDigits? 2 2 text) = some [] ||
  match (do
    let text ← dropDigits? 4 4 text
    let text ← dropChar? (· = '-') text
    let text ← dropDigits? 1 2 text
    let text ← dropChar? (· = '-') text
    dropDigits? 1 2 text) with
  | some (c :: rest) =>
    if c = 'T' || c = 't' then isTimeOfDay rest
    else isPadding c && isTimeOfDay (rest.dropWhile isPadding)
  | _ => false

def readsAsText (text : String) : Bool :=
  !(nullForms ++ truthForms ++ markForms ++ nanForms).contains text &&
    !infinityForms.contains (String.ofList (dropSign text.toList)) &&
    !isWholeForm text.toList && !isFractionForm text.toList && !isTimeForm text.toList

end ClusterLedger.Yaml
