import ClusterLedger.Value

namespace ClusterLedger.Json

abbrev Rest := List Char

def isSpace (c : Char) : Bool := c = ' ' || c = '\t' || c = '\n' || c = '\r'

def skip (cs : Rest) : Rest := cs.dropWhile isSpace

def hexValue? (c : Char) : Option Nat :=
  if c.isDigit then some (c.toNat - 48)
  else if 'a' ≤ c ∧ c ≤ 'f' then some (c.toNat - 87)
  else if 'A' ≤ c ∧ c ≤ 'F' then some (c.toNat - 55)
  else none

def hexUnit? : List Char → Option (Nat × Rest)
  | a :: b :: c :: d :: rest => do
    let n := (((← hexValue? a) * 16 + (← hexValue? b)) * 16 + (← hexValue? c)) * 16 + (← hexValue? d)
    return (n, rest)
  | _ => none

def joined (high low : Nat) : Char := Char.ofNat (0x10000 + (high - 0xd800) * 0x400 + (low - 0xdc00))

def isHigh (n : Nat) : Bool := 0xd800 ≤ n && n < 0xdc00
def isLow (n : Nat) : Bool := 0xdc00 ≤ n && n < 0xe000

/-- The character after `\u`: one unit, or two that make a pair. -/
def unicodeEscape? (cs : List Char) : Option (Char × Rest) := do
  let (n, rest) ← hexUnit? cs
  if isHigh n then
    match rest with
    | '\\' :: 'u' :: more =>
      let (m, rest) ← hexUnit? more
      if isLow m then return (joined n m, rest) else none
    | _ => none
  else return (Char.ofNat n, rest)

def simpleEscape? : Char → Option Char
  | '"' => some '"'
  | '\\' => some '\\'
  | '/' => some '/'
  | 'b' => some '\x08'
  | 'f' => some '\x0c'
  | 'n' => some '\n'
  | 'r' => some '\r'
  | 't' => some '\t'
  | _ => none

def readString? : (fuel : Nat) → List Char → Option (List Char × Rest)
  | 0, _ => none
  | _, [] => none
  | _, '"' :: rest => some ([], rest)
  | fuel + 1, '\\' :: 'u' :: rest => do
    let (c, rest) ← unicodeEscape? rest
    let (cs, rest) ← readString? fuel rest
    return (c :: cs, rest)
  | fuel + 1, '\\' :: e :: rest => do
    let c ← simpleEscape? e
    let (cs, rest) ← readString? fuel rest
    return (c :: cs, rest)
  | fuel + 1, c :: rest =>
    if c.toNat < 0x20 then none
    else do
      let (cs, rest) ← readString? fuel rest
      return (c :: cs, rest)

def optionalDigits (isMark : Char → Bool) (signed : Bool) (cs : List Char) : List Char × Rest :=
  match cs with
  | mark :: rest =>
    if isMark mark then
      let (sign, body) :=
        match rest with
        | s :: more => if signed && (s = '-' || s = '+') then ([s], more) else ([], rest)
        | [] => ([], [])
      let digits := body.takeWhile Char.isDigit
      if digits.isEmpty then ([], cs) else (mark :: (sign ++ digits), body.dropWhile Char.isDigit)
    else ([], cs)
  | [] => ([], [])

/-- The number of digits of the longest whole number that is read. -/
def longestWhole : Nat := 4300

def readNumber? (cs : List Char) : Option (Value × Rest) := do
  let (sign, body) :=
    match cs with
    | '-' :: rest => (['-'], rest)
    | cs => ([], cs)
  let all := body.takeWhile Char.isDigit
  let whole := if all.head? = some '0' then ['0'] else all
  if whole.isEmpty then none
  else
    let (fraction, rest) := optionalDigits (· = '.') false (body.drop whole.length)
    let (power, rest) := optionalDigits (fun c => c = 'e' || c = 'E') true rest
    let n ← Numeral.read? (sign ++ whole ++ fraction ++ power)
    if fraction.isEmpty && power.isEmpty then
      if longestWhole < whole.length then none
      return (.whole (if n.negative then -(n.coefficient : Int) else n.coefficient), rest)
    else return (.number (.real (Binary64.ofNumeral n)), rest)

def words : List (List Char × Value) := [
  ("null".toList, .null), ("true".toList, .bool true), ("false".toList, .bool false),
  ("NaN".toList, .number (.real (.nan 0))),
  ("Infinity".toList, .number (.real (.infinite false))),
  ("-Infinity".toList, .number (.real (.infinite true)))]

def readWord? (cs : List Char) : Option (Value × Rest) :=
  (words.find? fun (word, _) => word.isPrefixOf cs).map fun (word, v) => (v, cs.drop word.length)

mutual

def readValue? : (fuel : Nat) → List Char → Option (Value × Rest)
  | 0, _ => none
  | _ + 1, '"' :: rest => do
    let (cs, rest) ← readString? (rest.length + 1) rest
    return (.text (String.ofList cs), rest)
  | fuel + 1, '[' :: rest =>
    match skip rest with
    | ']' :: rest => some (.list [], rest)
    | rest => do
      let (items, rest) ← readItems? fuel rest
      return (.list items, rest)
  | fuel + 1, '\x7b' :: rest =>
    match skip rest with
    | '\x7d' :: rest => some (.map [], rest)
    | rest => do
      let (entries, rest) ← readEntries? fuel rest
      return (.ofEntries entries, rest)
  | _ + 1, cs => (readWord? cs).or (readNumber? cs)

def readItems? : (fuel : Nat) → List Char → Option (List Value × Rest)
  | 0, _ => none
  | fuel + 1, cs => do
    let (v, rest) ← readValue? fuel (skip cs)
    match skip rest with
    | ',' :: rest => do
      let (items, rest) ← readItems? fuel rest
      return (v :: items, rest)
    | ']' :: rest => return ([v], rest)
    | _ => none

def readEntries? : (fuel : Nat) → List Char → Option (List (Value × Value) × Rest)
  | 0, _ => none
  | fuel + 1, cs => do
    match skip cs with
    | '"' :: rest => do
      let (key, rest) ← readString? (rest.length + 1) rest
      match skip rest with
      | ':' :: rest => do
        let (v, rest) ← readValue? fuel (skip rest)
        match skip rest with
        | ',' :: rest => do
          let (entries, rest) ← readEntries? fuel rest
          return ((.text (String.ofList key), v) :: entries, rest)
        | '\x7d' :: rest => return ([(.text (String.ofList key), v)], rest)
        | _ => none
      | _ => none
    | _ => none

end

/-- Reads a whole text; every level of nesting takes two steps and at least one character. -/
def read? (text : String) : Option Value :=
  match readValue? (2 * text.length + 2) (skip text.toList) with
  | some (v, rest) => if (skip rest).isEmpty then some v else none
  | none => none

end ClusterLedger.Json
