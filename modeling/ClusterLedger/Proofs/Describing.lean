import ClusterLedger.Proofs.Conversion
import ClusterLedger.Proofs.Projecting

/-!
What a failed projection says of its document. A document in the current shape is named by its own entries,
one in the legacy shape by the parts that are folded into them. The fold puts what the legacy parts bring
before the document's own; a failure is told the other way round, so where both are there and differ it names
something that the projection would not.
-/

namespace ClusterLedger

namespace Value

def textUnder (key : String) (entries : List (Value × Value)) : Option String := (lookup key entries).bind asText?

def textIn (part key : String) (entries : List (Value × Value)) : Option String :=
  (entryIn? part key entries).bind asText?

def nameIn : Value → Option String
  | map inner => textUnder "name" inner
  | _ => none

def toldName (entries : List (Value × Value)) : Option String :=
  (textIn "metadata" "name" entries).or (textIn "objectmeta" "name" entries)

/-- The part of some plain entries that goes before their metadata. -/
def legacyMetadata? (data : List (Value × Value)) : Option Value :=
  ((entryIn? "typemeta" "objectmeta" data).or (lookup "objectmeta" data)).or (entryIn? "typemeta" "metadata" data)

def foldedKind (data : List (Value × Value)) : Option String :=
  ((entryIn? "typemeta" "kind" data).or (lookup "kind" data)).bind asText?

def foldedName (data : List (Value × Value)) : Option String :=
  ((legacyMetadata? data).or (lookup "metadata" data)).bind nameIn

def IsName (v : Value) : Prop := ∃ s, v = text s ∧ s ≠ ""

def Spells (key : String) (part : Value) : Prop :=
  ∃ inner, part = map inner ∧ ∀ v, lookup key inner = some v → v.IsName

structure Identified (entries : List (Value × Value)) : Prop where
  kind : ∀ v, lookup "kind" entries = some v → v.IsName
  typemeta : ∀ part, lookup "typemeta" entries = some part → part.Spells "kind"
  objectmeta : ∀ part, lookup "objectmeta" entries = some part → part.Spells "name"
  metadata : ∀ part, lookup "metadata" entries = some part → part.Spells "name"

/--
Where entries have what also their legacy parts bring, both are the same. The place stands for a name that is
not there.
-/
structure Unanimous (entries : List (Value × Value)) (place : String) : Prop where
  kind : ∀ own legacy, textUnder "kind" entries = some own → textIn "typemeta" "kind" entries = some legacy →
    own = legacy
  name : ∀ part, legacyMetadata? (plainEntries entries) = some part →
    part.nameIn.getD place = (toldName entries).getD place

@[simp] theorem lookup_plainEntries (key : String) (entries : List (Value × Value)) :
    lookup key (plainEntries entries) = (lookup key entries).map plainForm := by
  induction entries with
  | nil => rfl
  | cons entry rest ih =>
    obtain ⟨k, v⟩ := entry
    cases k with
    | text k =>
      rw [plainEntries, lookup, lookup, ih]
      split <;> rfl
    | _ => exact ih

section Names

variable {part key : String} {entries : List (Value × Value)}

theorem lookup_of_isName (named : ∀ v, lookup key entries = some v → v.IsName) :
    lookup key entries = (textUnder key entries).map text := by
  unfold textUnder
  cases found : lookup key entries with
  | none => rfl
  | some v =>
    obtain ⟨s, rfl, _⟩ := named v found
    rfl

theorem lookup_plainEntries_of_isName (named : ∀ v, lookup key entries = some v → v.IsName) :
    lookup key (plainEntries entries) = (textUnder key entries).map text := by
  rw [lookup_plainEntries, lookup_of_isName named, Option.map_map]
  rfl

theorem entryIn?_plainEntries (spells : ∀ p, lookup part entries = some p → p.Spells key) :
    entryIn? part key (plainEntries entries) = (textIn part key entries).map text := by
  unfold entryIn? textIn entryIn?
  rw [lookup_plainEntries]
  cases found : lookup part entries with
  | none => rfl
  | some p =>
    obtain ⟨inner, rfl, named⟩ := spells p found
    exact lookup_plainEntries_of_isName named

theorem bind_nameIn (part : String) (entries : List (Value × Value)) :
    (lookup part entries).bind nameIn = textIn part "name" entries := by
  unfold textIn entryIn?
  cases lookup part entries with
  | none => rfl
  | some p => cases p <;> rfl

theorem bind_asText_map_text (told : Option String) : (told.map text).bind asText? = told := by
  cases told <;> rfl

theorem textIn_of_absent (absent : lookup part entries = none) : textIn part key entries = none := by
  rw [textIn, entryIn?, absent]
  rfl

theorem ne_empty_of_textIn (spells : ∀ p, lookup part entries = some p → p.Spells key) {s : String}
    (given : textIn part key entries = some s) : s ≠ "" := by
  unfold textIn entryIn? at given
  cases found : lookup part entries with
  | none =>
    rw [found] at given
    cases given
  | some p =>
    obtain ⟨inner, rfl, named⟩ := spells p found
    rw [found] at given
    obtain ⟨v, there, asText⟩ := Option.bind_eq_some_iff.mp given
    obtain ⟨t, rfl, nonempty⟩ := named v there
    cases asText
    exact nonempty

theorem describedName_eq {v : Value} (there : v.entries? = some entries) : v.describedName = toldName entries := by
  simp only [describedName, there, Option.bind_eq_bind, Option.bind_some]
  rfl

theorem foldedName_of_legacy {part : Value} (legacy : legacyMetadata? entries = some part) :
    foldedName entries = part.nameIn := by
  rw [foldedName, legacy]
  rfl

end Names

namespace Identified

variable {entries : List (Value × Value)} {v : Value}

theorem describedKind_eq (identified : Identified entries) (there : v.entries? = some entries) :
    v.describedKind = (textUnder "kind" entries).or (textIn "typemeta" "kind" entries) := by
  have own := lookup_of_isName identified.kind
  simp only [describedKind, there, Option.bind_eq_bind, Option.bind_some]
  rw [own]
  cases textUnder "kind" entries <;> rfl

theorem foldedKind_eq (identified : Identified entries) :
    foldedKind (plainEntries entries) = (textIn "typemeta" "kind" entries).or (textUnder "kind" entries) := by
  rw [foldedKind, entryIn?_plainEntries identified.typemeta, lookup_plainEntries_of_isName identified.kind]
  cases textIn "typemeta" "kind" entries <;> cases textUnder "kind" entries <;> rfl

theorem foldedName_of_current (identified : Identified entries)
    (current : legacyMetadata? (plainEntries entries) = none) :
    foldedName (plainEntries entries) = toldName entries := by
  obtain ⟨objects, _⟩ := Option.or_eq_none_iff.mp current
  obtain ⟨_, object⟩ := Option.or_eq_none_iff.mp objects
  rw [lookup_plainEntries, Option.map_eq_none_iff] at object
  have metadata := entryIn?_plainEntries identified.metadata
  rw [foldedName, current, Option.none_or, bind_nameIn, toldName, textIn_of_absent object, Option.or_none, textIn,
    metadata, bind_asText_map_text]

theorem told_name (identified : Identified entries) (there : v.entries? = some entries) (half : Half)
    (index : Nat) :
    (projectionContext half index v).name = some (.text ((toldName entries).getD s!"document[{index}]")) := by
  rw [projectionContext, describedName_eq there]
  cases told : toldName entries with
  | none => rfl
  | some s =>
    have nonempty : s ≠ "" := by
      rcases Option.or_eq_some_iff.mp told with current | ⟨_, legacy⟩
      · exact ne_empty_of_textIn identified.metadata current
      · exact ne_empty_of_textIn identified.objectmeta legacy
    simp [fill, nonempty]

theorem unanimous_iff (identified : Identified entries) (there : v.entries? = some entries) (half : Half)
    (index : Nat) :
    let context := projectionContext half index v
    let data := plainEntries entries
    let place := s!"document[{index}]"
    context.kind = foldedKind data ∧ context.name = some (.text ((foldedName data).getD place)) ↔
      Unanimous entries place := by
  intro context data place
  have kind : context.kind = foldedKind data ↔ ∀ own legacy, textUnder "kind" entries = some own →
      textIn "typemeta" "kind" entries = some legacy → own = legacy := by
    rw [show context.kind = _ from describedKind_eq identified there, foldedKind_eq identified]
    cases textUnder "kind" entries <;> cases textIn "typemeta" "kind" entries <;> simp
  have name : context.name = some (.text ((foldedName data).getD place)) ↔
      ∀ part, legacyMetadata? data = some part → part.nameIn.getD place = (toldName entries).getD place := by
    rw [told_name identified there half index]
    cases legacy : legacyMetadata? data with
    | none => simp [data, place, foldedName_of_current identified legacy]
    | some part => simp [foldedName_of_legacy legacy, place, eq_comm]
  rw [kind, name]
  exact ⟨fun both => ⟨both.1, both.2⟩, fun unanimous => ⟨unanimous.kind, unanimous.name⟩⟩

end Identified

/-! ### The folded document -/

/-- The entries that a value is read from are those that the document is written back with. -/
theorem toValue_of_entries? {v : Value} (wellFormed : v.WellFormed) {entries : List (Value × Value)}
    (there : v.entries? = some entries) {d : Document} (read : Document.ofValue v = .ok d) :
    d.toValue = map (plainEntries entries) := by
  cases v with
  | map own =>
    cases there
    exact Document.toValue_of_ofValue _ wellFormed read
  | document own =>
    -- A document is written as plain data, and of that there is nothing left to make plain.
    cases read
    have again := Document.ofValue_toValue d wellFormed
    have plain := Document.toValue_of_ofValue d.toValue (Document.wellFormed_toValue d wellFormed) again
    cases d with
    | mapping own =>
      cases there
      exact plain
    | _ => cases there
  | _ => cases there

@[simp] theorem lookup_toEntries (key : String) (entries : List (String × Document)) :
    lookup key (Document.toEntries entries) = (Assoc.find? key entries).map Document.toValue := by
  induction entries with
  | nil => rfl
  | cons entry rest ih =>
    rw [Document.toEntries, lookup, Assoc.find?, ih]
    split <;> rfl

theorem entryIn?_toEntries (part key : String) (entries : List (String × Document)) :
    entryIn? part key (Document.toEntries entries) =
      ((Document.mapping entries).at? [part, key]).map Document.toValue := by
  rw [Document.at?_pair, entryIn?, lookup_toEntries]
  show _ = ((Assoc.find? part entries).bind _).map _
  cases Assoc.find? part entries with
  | none => rfl
  | some d =>
    cases d with
    | mapping inner => exact lookup_toEntries key inner
    | _ => rfl

theorem nameIn_toValue (d : Document) : d.toValue.nameIn = (d.child? "name").bind (·.toValue.asText?) := by
  cases d with
  | mapping entries =>
    show (lookup "name" (Document.toEntries entries)).bind asText? = _
    rw [lookup_toEntries, Option.bind_map]
    rfl
  | _ => rfl

theorem legacyMetadata?_toEntries (entries : List (String × Document)) :
    legacyMetadata? (Document.toEntries entries) = ((Document.mapping entries).objectPart?.or
      ((Document.mapping entries).at? ["typemeta", "metadata"])).map Document.toValue := by
  rw [legacyMetadata?, entryIn?_toEntries, entryIn?_toEntries, lookup_toEntries, ← Option.map_or, ← Option.map_or]
  rfl

end Value

namespace Document

theorem child?_name_retained (part : Document) : part.retained.child? "name" = part.child? "name" := by
  cases part with
  | mapping entries => exact Assoc.find?_filter retainedKeys.contains "name" entries
  | _ => rfl

/-- A normalized document has the kind and the name that its entries have once they are folded. -/
theorem folded_of_normalized {v : Value} (wellFormed : v.WellFormed) {entries : List (Value × Value)}
    (there : v.entries? = some entries) {d folded : Document} (read : ofValue v = .ok d)
    (ok : d.normalized = .ok folded) :
    (folded.child? "kind").bind (·.toValue.asText?) = Value.foldedKind (Value.plainEntries entries) ∧
      (folded.at? ["metadata", "name"]).bind (·.toValue.asText?) =
        Value.foldedName (Value.plainEntries entries) := by
  have written := Value.toValue_of_entries? wellFormed there read
  have children := child?_normalized (wellFormed_of_ofValue wellFormed read) ok
  cases d with
  | mapping own =>
    rw [← Value.map.inj written]
    constructor
    · rw [children, if_neg (by decide), legacyChild?, if_neg (by decide), Option.none_or, Value.foldedKind,
        Value.entryIn?_toEntries, Value.lookup_toEntries, ← Option.map_or, Option.bind_map]
      rfl
    · rw [at?_pair, children, if_neg (by decide), legacyChild?, if_pos rfl, Value.foldedName,
        Value.legacyMetadata?_toEntries, Value.lookup_toEntries, ← Option.map_or, Option.bind_map,
        show Value.nameIn ∘ toValue = _ from funext Value.nameIn_toValue, Option.bind_assoc]
      cases (mapping own).objectPart? with
      | none => rfl
      | some part =>
        show (part.retained.child? "name").bind _ = (part.child? "name").bind _
        rw [child?_name_retained]
  | _ => cases written

end Document

/--
A failed projection is that of the first document that is not projected. It tells the kind and the name that
the document's entries have once they are folded, which are those of the normalized document if there is one,
exactly if its own entries and its legacy parts agree.
-/
theorem told_as_folded_iff {rule : RedactionRule} {half : Half} {values : List Value} {failure : Failure}
    (failed : projectAll rule half values = .error failure) :
    ∃ earlier v later texts what context, values = earlier ++ v :: later ∧
      List.Forall₂ (fun u text => projectValue rule half u = .ok text) earlier texts ∧
      projectValue rule half v = .error (.malformed what) ∧ failure = .malformed what context ∧
      ∀ entries, v.entries? = some entries → Value.Identified entries →
        let data := Value.plainEntries entries
        let place := s!"document[{earlier.length}]"
        (context.kind = Value.foldedKind data ∧
          context.name = some (.text ((Value.foldedName data).getD place)) ↔ Value.Unanimous entries place) ∧
        ∀ d folded, v.WellFormed → Document.ofValue v = .ok d → d.normalized = .ok folded →
          (folded.child? "kind").bind (·.toValue.asText?) = Value.foldedKind data ∧
            (folded.at? ["metadata", "name"]).bind (·.toValue.asText?) = Value.foldedName data := by
  rcases projectFrom_outcome rule half values 0 with
    ⟨texts, all, _⟩ | ⟨earlier, v, later, texts, what, split, projected, fails, told⟩
  · rw [projectAll, all] at failed
    cases failed
  · rw [projectAll, told, Nat.zero_add] at failed
    refine ⟨earlier, v, later, texts, what, _, split, projected, fails, (Except.error.inj failed).symm, ?_⟩
    intro entries there identified
    refine ⟨identified.unanimous_iff there half earlier.length, fun d folded wellFormed read ok => ?_⟩
    exact Document.folded_of_normalized wellFormed there read ok

theorem told_as_folded_of_one_kind :
    let rule : RedactionRule := ⟨[["typemeta"]], RedactionRule.defaultSentinel, by decide⟩
    let entries : List (Value × Value) := [(.text "kind", .text "Cluster"),
      (.text "typemeta", .map [(.text "kind", .text "Cluster")]),
      (.text "objectmeta", .map [(.text "name", .text "demo")])]
    ∃ context, projectAll rule .spec [.map entries] =
        .error (.malformed (.partNotMapping "typemeta" .string) context) ∧
      context.kind = some "Cluster" ∧ context.name = some (.text "demo") ∧
      Value.foldedKind (Value.plainEntries entries) = some "Cluster" ∧
      Value.foldedName (Value.plainEntries entries) = some "demo" := by
  intro rule entries
  let folded : Document := .mapping [("kind", .string "Cluster"), ("metadata", .mapping [("name", .string "demo")])]
  have wellFormed : Value.WellFormed (.map entries) := by
    simp [entries, Value.WellFormed, Value.EntriesWellFormed, Value.textKeys, Value.asText?]
  have identified : Value.Identified entries := by
    constructor <;> simp [entries, Value.lookup, Value.Spells, Value.IsName]
  have unanimous : Value.Unanimous entries "document[0]" := by
    refine ⟨fun own legacy there part => ?_, fun part found => ?_⟩
    · exact (Option.some.inj there).symm.trans (Option.some.inj part)
    · rw [← Option.some.inj found]
      rfl
  have failed : projectAll rule .spec [.map entries] = .error (.malformed (.partNotMapping "typemeta" .string)
      (projectionContext .spec 0 (.map entries))) := rfl
  obtain ⟨earlier, v, later, _, what, context, split, _, _, same, told⟩ := told_as_folded_iff failed
  cases earlier with
  | nil =>
    cases split
    cases same
    obtain ⟨agree, carried⟩ := told entries rfl identified
    obtain ⟨kind, name⟩ := agree.mpr unanimous
    obtain ⟨foldedKind, foldedName⟩ := carried _ folded wellFormed rfl rfl
    rw [← foldedKind] at kind ⊢
    rw [← foldedName] at name ⊢
    exact ⟨_, failed, kind, name, rfl, rfl⟩
  | cons first rest => simp at split

/-- The legacy parts go before the document's own entries, but a failure tells the latter. -/
theorem told_by_own_entries :
    ¬ ∀ (rule : RedactionRule) (half : Half) (v : Value) (what : Malformation) (context : Context)
        (entries : List (Value × Value)),
      projectAll rule half [v] = .error (.malformed what context) → v.entries? = some entries →
      Value.Identified entries →
      context.kind = Value.foldedKind (Value.plainEntries entries) ∧
        context.name = some (.text ((Value.foldedName (Value.plainEntries entries)).getD "document[0]")) := by
  intro always
  let entries : List (Value × Value) := [(.text "kind", .text "Old"),
    (.text "metadata", .map [(.text "name", .text "old")]),
    (.text "typemeta", .map [(.text "kind", .text "New")]),
    (.text "objectmeta", .map [(.text "name", .text "new")]),
    (.text "spec", .map [(.whole 1, .text "x")])]
  have identified : Value.Identified entries := by
    constructor <;> simp [entries, Value.lookup, Value.Spells, Value.IsName]
  have told := always .credentials .spec (.map entries) _ _ entries rfl rfl identified
  exact absurd told.1 (by decide)

end ClusterLedger
