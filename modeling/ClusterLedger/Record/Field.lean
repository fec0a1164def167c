import ClusterLedger.Record.Checked
import ClusterLedger.Record.WholeText
import ClusterLedger.Text.Utf8

/-!
Fields of records. Values are taken leniently where their meaning is plain: text may come as bytes,
whole numbers as text, floating point or decimals, truth values as words.
-/

namespace ClusterLedger

abbrev Fields := String → Option Value

namespace Field

variable {α : Type}

def ofEntries (entries : List (Value × Value)) : Fields := fun name => Value.lookup name entries

def ofList (fields : List (String × Value)) : Fields := fun name => Assoc.find? name fields

def named : List (Value × Value) → Except Failure (List (String × Value))
  | [] => .ok []
  | (.text name, v) :: rest => (named rest).map ((name, v) :: ·)
  | _ => .error .unfit

def ofValue : Value → Except Failure (List (String × Value))
  | .map es => named es
  | _ => .error .unfit

def required (fields : Fields) (name : String) (check : Value → Checked α) : Checked α :=
  match fields name with
  | some v => (check v).under name
  | none => (Checked.problem .missing).under name

def withDefault (default : α) (fields : Fields) (name : String) (check : Value → Checked α) :
    Checked α :=
  match fields name with
  | some v => (check v).under name
  | none => .accepted default

def heldText : Value → Except Problem String
  | .text s => .ok s
  | .bytes b =>
    match Text.utf8Decode? b with
    | some cs => .ok (String.ofList cs)
    | none => .error .notUnicode
  | _ => .error .notText

def text (v : Value) : Checked String :=
  match heldText v with
  | .ok s => .accepted s
  | .error p => .problem p

theorem heldText_of_text {v : Value} {s : String} (accepted : text v = .accepted s) : heldText v = .ok s := by
  unfold text at accepted
  split at accepted
  · next held =>
    cases accepted
    exact held
  · cases accepted

def nonemptyText (v : Value) : Checked String :=
  match text v with
  | .accepted "" => .problem .tooShort
  | c => c

def optional (check : Value → Checked α) : Value → Checked (Option α)
  | .null => .accepted none
  | v => (check v).map some

def fitsBetween (n : Int) : Bool := -9223372036854775808 < n && n < 9223372036854775808

def fitsWord (n : Int) : Bool := n = -9223372036854775808 || fitsBetween n

def wholeOfText (s : String) : Checked Int :=
  match WholeText.read s with
  | .value n => .accepted n
  | .tooLong => .problem .wholeTooLarge
  | .unreadable => .problem .unreadableWhole

def wholeOfReal (x : Binary64) : Checked Int :=
  match x with
  | .finite .. =>
    match x.toInt? with
    | some n => if fitsBetween n then .accepted n else .problem .wholeTooLarge
    | none => .problem .fractional
  | _ => .problem .notFinite

def wholeOfDecimal : Decimal → Checked Int
  | .finite n =>
    match n.toInt? with
    | some n => .accepted n
    | none => .problem .fractional
  | _ => .problem .notFinite

def whole (v : Value) : Checked Int :=
  match v with
  | .number (.whole n) => .accepted n
  | .bool b => .accepted b.toNat
  | .number (.real x) => wholeOfReal x
  | .decimal d => wholeOfDecimal d
  | v =>
    match heldText v with
    | .ok s => wholeOfText s
    | .error .notUnicode => .problem .unreadableWhole
    | .error _ => .problem .notWhole

def trueWords : List String := ["1", "true", "t", "yes", "y", "on"]
def falseWords : List String := ["0", "false", "f", "no", "n", "off"]

def truthOfText (s : String) : Checked Bool :=
  let word := String.ofList (s.toList.map Char.toLower)
  if trueWords.contains word then .accepted true
  else if falseWords.contains word then .accepted false
  else .problem .unreadableTruth

/-- Only the numbers 0 and 1 are truth values; `fits` tells which other numbers come near. -/
def truthOfWhole (fits : Int → Bool) (n : Int) : Checked Bool :=
  if n = 0 then .accepted false
  else if n = 1 then .accepted true
  else if fits n then .problem .unreadableTruth
  else .problem .notTruth

def truthOfReal (x : Binary64) : Checked Bool :=
  (x.toInt?.map (truthOfWhole fitsBetween)).getD (.problem .notTruth)

def truth (v : Value) : Checked Bool :=
  match v with
  | .bool b => .accepted b
  | .number (.whole n) => truthOfWhole fitsWord n
  | .number (.real x) => truthOfReal x
  | .decimal d => (d.toBinary?.map truthOfReal).getD (.problem .notTruth)
  | v =>
    match heldText v with
    | .ok s => truthOfText s
    | .error .notUnicode => .problem .unreadableTruth
    | .error _ => .problem .notTruth

def choice (choices : List (String × α)) (v : Value) : Checked α :=
  match heldText v with
  | .ok s => ((Assoc.find? s choices).map .accepted).getD (.problem .unknownChoice)
  | .error _ => .problem .unknownChoice

def itemsFrom (check : Value → Checked α) : Nat → List Value → Checked (List α)
  | _, [] => .accepted []
  | n, v :: rest => (((check v).under (toString n)).map List.cons).apply (itemsFrom check (n + 1) rest)

def list (check : Value → Checked α) : Value → Checked (List α)
  | .list items => itemsFrom check 0 items
  | .tuple items => itemsFrom check 0 items
  | .set items => itemsFrom check 0 items
  | _ => .problem .notList

/-- The step to what stands under a key; a truth value is the number 0 or 1. -/
def keyStep : Value → String
  | .text s => s
  | .bool b => if b then "1" else "0"
  | key => key.literal

def entries {κ : Type} (key : Value → Checked κ) (check : Value → Checked α) :
    List (Value × Value) → Checked (List (κ × α))
  | [] => .accepted []
  | (k, v) :: rest =>
    let step := keyStep k
    let entry := (((key k).under "[key]").under step |>.map Prod.mk).apply ((check v).under step)
    (entry.map List.cons).apply (entries key check rest)

/-- Of two keys that are read as one the later gives the value. -/
def mapping {κ : Type} [DecidableEq κ] (key : Value → Checked κ) (check : Value → Checked α) :
    Value → Checked (List (κ × α))
  | .map es => (entries key check es).map (Assoc.overlay [])
  | _ => .problem .notMapping

def record (check : Fields → Checked α) : Value → Checked α
  | .map es => check (ofEntries es)
  | _ => .problem .notRecord

end Field
end ClusterLedger
