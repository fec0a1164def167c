import ClusterLedger.Proofs.Actions
import ClusterLedger.Proofs.Secrecy.Blanking

namespace ClusterLedger

namespace Value

def amendEntries (key : String) (f : Value → Value) : List (Value × Value) → List (Value × Value)
  | [] => []
  | (text k, v) :: rest => (text k, if k = key then f v else v) :: amendEntries key f rest
  | entry :: rest => entry :: amendEntries key f rest

def blank : List String → Value → Value
  | [], _ => text ""
  | key :: rest, map entries => map (amendEntries key (blank rest) entries)
  | key :: rest, resource entries => resource (amendEntries key (blank rest) entries)
  | key :: rest, document d => document (Document.overwrite (.string "") (key :: rest) d)
  | _ :: _, v => v

def IsPlain (v : Value) : Prop := ∃ d, Document.ofValue v = .ok d

def PlainAt : List String → Value → Prop
  | [], v => v.IsPlain
  | key :: rest, map entries => ∀ v, (text key, v) ∈ entries → PlainAt rest v
  | key :: rest, resource entries => ∀ v, (text key, v) ∈ entries → PlainAt rest v
  | _ :: _, _ => True

theorem amendEntries_cons_text (key k : String) (f : Value → Value) (v : Value)
    (rest : List (Value × Value)) :
    amendEntries key f ((text k, v) :: rest) =
      (text k, if k = key then f v else v) :: amendEntries key f rest := rfl

theorem amendEntries_cons {key : String} {k : Value} (other : k ≠ text key) (f : Value → Value) (v : Value)
    (rest : List (Value × Value)) :
    amendEntries key f ((k, v) :: rest) = (k, v) :: amendEntries key f rest := by
  cases k with
  | text name =>
    have different : name ≠ key := fun same => other (congrArg text same)
    rw [amendEntries_cons_text, if_neg different]
  | _ => rfl

theorem amendEntries_append (key : String) (f : Value → Value) (first second : List (Value × Value)) :
    amendEntries key f (first ++ second) = amendEntries key f first ++ amendEntries key f second := by
  induction first with
  | nil => rfl
  | cons entry rest ih =>
    obtain ⟨k, v⟩ := entry
    cases k <;> simp [amendEntries, ih]

theorem lookup_cons {key : String} {k : Value} (other : k ≠ text key) (v : Value)
    (rest : List (Value × Value)) : lookup key ((k, v) :: rest) = lookup key rest := by
  cases k with
  | text name =>
    have different : name ≠ key := fun same => other (congrArg text same)
    rw [lookup, if_neg different]
  | _ => rfl

@[simp] theorem lookup_amendEntries_self (key : String) (f : Value → Value) (entries : List (Value × Value)) :
    lookup key (amendEntries key f entries) = (lookup key entries).map f := by
  induction entries with
  | nil => rfl
  | cons entry rest ih =>
    obtain ⟨k, v⟩ := entry
    by_cases own : k = text key
    · subst own
      simp [amendEntries_cons_text, lookup]
    · rw [amendEntries_cons own, lookup_cons own, lookup_cons own, ih]

theorem lookup_amendEntries_of_ne {key other : String} (different : key ≠ other) (f : Value → Value)
    (entries : List (Value × Value)) : lookup other (amendEntries key f entries) = lookup other entries := by
  induction entries with
  | nil => rfl
  | cons entry rest ih =>
    obtain ⟨k, v⟩ := entry
    by_cases own : k = text key
    · subst own
      rw [amendEntries_cons_text, lookup, lookup, if_neg different, if_neg different, ih]
    · rw [amendEntries_cons own]
      by_cases there : k = text other
      · subst there
        simp [lookup]
      · rw [lookup_cons there, lookup_cons there, ih]

theorem mem_amendEntries {key other : String} {f : Value → Value} {v : Value}
    {entries : List (Value × Value)} (member : (text other, v) ∈ amendEntries key f entries) :
    ∃ u, (text other, u) ∈ entries ∧ v = if other = key then f u else u := by
  induction entries with
  | nil => cases member
  | cons entry rest ih =>
    obtain ⟨k, u⟩ := entry
    have inRest : (text other, v) ∈ amendEntries key f rest →
        ∃ u', (text other, u') ∈ (k, u) :: rest ∧ v = if other = key then f u' else u' := by
      intro later
      obtain ⟨u', found, same⟩ := ih later
      exact ⟨u', List.mem_cons_of_mem _ found, same⟩
    cases k with
    | text name =>
      rw [amendEntries_cons_text] at member
      rcases List.mem_cons.mp member with head | later
      · cases head
        exact ⟨u, List.mem_cons_self, rfl⟩
      · exact inRest later
    | _ =>
      rcases List.mem_cons.mp member with head | later
      · cases head
      · exact inRest later

@[simp] theorem sameKey_text {k : Value} {name : String} : k.sameKey (text name) = true ↔ k = text name := by
  cases k <;> simp [sameKey, sameNumber, numeric?]

theorem setEntry_amendEntries {key name : String} (different : key ≠ name) (f : Value → Value)
    (value : Value) (entries : List (Value × Value)) :
    setEntry (text name) value (amendEntries key f entries) =
      amendEntries key f (setEntry (text name) value entries) := by
  induction entries with
  | nil => simp [amendEntries, setEntry, Ne.symm different]
  | cons entry rest ih =>
    obtain ⟨k, v⟩ := entry
    by_cases there : k = text name
    · subst there
      have other : text name ≠ text key := fun same => different (Value.text.inj same).symm
      simp [amendEntries_cons other, setEntry, sameKey_text]
    · by_cases own : k = text key
      · subst own
        have apart : ¬(text key).sameKey (text name) = true := fun same => there (sameKey_text.mp same)
        simp [amendEntries_cons_text, setEntry, apart, ih]
      · have apart : ¬k.sameKey (text name) = true := fun same => there (sameKey_text.mp same)
        simp [amendEntries_cons own, setEntry, apart, ih]

theorem mem_setEntry {key name : String} (different : key ≠ name) {v value : Value}
    {entries : List (Value × Value)} (member : (text key, v) ∈ setEntry (text name) value entries) :
    (text key, v) ∈ entries := by
  induction entries with
  | nil =>
    simp [setEntry, different] at member
  | cons entry rest ih =>
    obtain ⟨k, u⟩ := entry
    by_cases there : k = text name
    · subst there
      have later : (text key, v) ∈ rest := by
        simpa [setEntry, sameKey_text, different] using member
      exact List.mem_cons_of_mem _ later
    · have apart : ¬k.sameKey (text name) = true := fun same => there (sameKey_text.mp same)
      rw [setEntry, if_neg apart] at member
      rcases List.mem_cons.mp member with head | later
      · exact head ▸ List.mem_cons_self
      · exact List.mem_cons_of_mem _ (ih later)

end Value

namespace Document

open Value

theorem ofEntries_amend {key : String} {f : Value → Value} {g : Document → Document}
    {entries : List (Value × Value)}
    (under : ∀ v, (Value.text key, v) ∈ entries → ofValue (f v) = (ofValue v).map g)
    (done : List (String × Document)) :
    ofEntries (Assoc.amend key g done) (amendEntries key f entries) =
      (ofEntries done entries).map (Assoc.amend key g) := by
  -- Entries are set one by one, so what was read before is amended as well.
  induction entries generalizing done with
  | nil => rfl
  | cons entry rest ih =>
    have later := ih fun v member => under v (List.mem_cons_of_mem _ member)
    obtain ⟨k, v⟩ := entry
    cases k with
    | text name =>
      rw [amendEntries_cons_text, ofEntries, ofEntries]
      by_cases own : name = key
      · subst own
        rw [if_pos rfl, under v List.mem_cons_self]
        cases ofValue v with
        | error failure => rfl
        | ok item =>
          show ofEntries (Assoc.set name (g item) (Assoc.amend name g done)) _ = _
          rw [← Assoc.amend_set_self]
          exact later _
      · rw [if_neg own]
        cases ofValue v with
        | error failure => rfl
        | ok item =>
          show ofEntries (Assoc.set name item (Assoc.amend key g done)) _ = _
          rw [← Assoc.amend_set_of_ne (Ne.symm own)]
          exact later _
    | _ => rfl

theorem ofValue_blank {path : List String} {v : Value} (plain : v.PlainAt path) :
    ofValue (v.blank path) = (ofValue v).map (overwrite (.string "") path) := by
  induction path generalizing v with
  | nil =>
    obtain ⟨d, built⟩ := plain
    rw [built]
    rfl
  | cons key rest ih =>
    cases v with
    | map entries =>
      have amended := ofEntries_amend (fun v member => ih (plain v member)) []
      rw [blank, ofValue, ofValue]
      have start : Assoc.amend key (overwrite (.string "") rest) [] = [] := rfl
      rw [start] at amended
      rw [amended]
      cases ofEntries [] entries with
      | error failure => rfl
      | ok built => exact congrArg Except.ok (overwrite_mapping _ key rest built).symm
    | list items =>
      rw [blank, ofValue]
      · cases ofItems items <;> rfl
      all_goals simp
    | tuple items =>
      rw [blank, ofValue]
      · cases ofItems items <;> rfl
      all_goals simp
    | _ => rfl

end Document

namespace Resource

open Value

theorem ofEntries_amend {key : String} {f : Value → Value} {entries : List (Value × Value)}
    (under : ∀ v, (Value.text key, v) ∈ entries → ofPart (f v) = (ofPart v).map f) :
    ofEntries (amendEntries key f entries) = (ofEntries entries).map (amendEntries key f) := by
  induction entries with
  | nil => rfl
  | cons entry rest ih =>
    have later := ih fun v member => under v (List.mem_cons_of_mem _ member)
    obtain ⟨k, v⟩ := entry
    cases k with
    | text name =>
      rw [amendEntries_cons_text, ofEntries, ofEntries, later]
      by_cases own : name = key
      · subst own
        rw [if_pos rfl, under v List.mem_cons_self]
        cases ofPart v with
        | error failure => rfl
        | ok part =>
          cases ofEntries rest with
          | error failure => rfl
          | ok others =>
            show Except.ok _ = Except.ok _
            rw [amendEntries_cons_text, if_pos rfl]
      · rw [if_neg own]
        cases ofPart v with
        | error failure => rfl
        | ok part =>
          cases ofEntries rest with
          | error failure => rfl
          | ok others =>
            show Except.ok _ = Except.ok _
            rw [amendEntries_cons_text, if_neg own]
    | _ => rfl

theorem plainEntries_amend {key : String} {f : Value → Value}
    (commute : ∀ v, plain (f v) = f (plain v)) (entries : List (Value × Value)) :
    plainEntries (amendEntries key f entries) = amendEntries key f (plainEntries entries) := by
  induction entries with
  | nil => rfl
  | cons entry rest ih =>
    obtain ⟨k, v⟩ := entry
    cases k with
    | text name =>
      rw [amendEntries_cons_text, plainEntries, plainEntries, amendEntries_cons_text, ih]
      by_cases own : name = key
      · rw [if_pos own, if_pos own, commute]
      · rw [if_neg own, if_neg own]
    | _ => simp only [amendEntries, plainEntries, ih]

@[simp] theorem plain_blank (path : List String) (v : Value) : plain (v.blank path) = (plain v).blank path := by
  induction path generalizing v with
  | nil => rfl
  | cons key rest ih =>
    cases v with
    | resource entries => exact congrArg Value.map (plainEntries_amend ih entries)
    | _ => rfl

mutual

/-- What is plain can be part of an object, and the part gives the same document. -/
theorem document_ofPart : ∀ {v : Value} {d : Document}, Document.ofValue v = .ok d →
    ∃ part, ofPart v = .ok part ∧ Document.ofValue (plain part) = .ok d
  | .list items, _, built => by
    rw [Document.ofValue] at built
    obtain ⟨ds, read, rfl⟩ := ok_of_map built
    obtain ⟨parts, whole, same⟩ := document_ofParts read
    exact ⟨.list parts, by rw [ofPart, whole]; rfl, by rw [plain, Document.ofValue, same]; rfl⟩
  | .tuple items, _, built => by
    rw [Document.ofValue] at built
    obtain ⟨ds, read, rfl⟩ := ok_of_map built
    obtain ⟨parts, whole, same⟩ := document_ofParts read
    exact ⟨.list parts, by rw [ofPart, whole]; rfl, by rw [plain, Document.ofValue, same]; rfl⟩
  | .map entries, _, built => by
    rw [Document.ofValue] at built
    obtain ⟨out, read, rfl⟩ := ok_of_map built
    obtain ⟨parts, whole, same⟩ := document_ofEntries read
    exact ⟨.resource parts, by rw [ofPart, whole]; rfl, by rw [plain, Document.ofValue, same]; rfl⟩
  | .null, _, built => ⟨.null, rfl, built⟩
  | .bool b, _, built => ⟨.bool b, rfl, built⟩
  | .number n, _, built => ⟨.number n, rfl, built⟩
  | .text s, _, built => ⟨.text s, rfl, built⟩
  | .document d, _, built => ⟨.document d, rfl, built⟩

theorem document_ofParts : ∀ {items : List Value} {ds : List Document}, Document.ofItems items = .ok ds →
    ∃ parts, ofParts items = .ok parts ∧ Document.ofItems (plainItems parts) = .ok ds
  | [], _, built => ⟨[], rfl, built⟩
  | v :: rest, ds, built => by
    rw [Document.ofItems] at built
    obtain ⟨d, first, following⟩ := ok_of_bind built
    obtain ⟨more, others, same⟩ := ok_of_bind following
    obtain ⟨part, read, back⟩ := document_ofPart first
    obtain ⟨parts, readAll, backAll⟩ := document_ofParts others
    refine ⟨part :: parts, by rw [ofParts, read, readAll]; rfl, ?_⟩
    rw [plainItems, Document.ofItems, back, backAll]
    exact same

theorem document_ofEntries : ∀ {entries : List (Value × Value)} {done out : List (String × Document)},
    Document.ofEntries done entries = .ok out →
    ∃ parts, ofEntries entries = .ok parts ∧ Document.ofEntries done (plainEntries parts) = .ok out
  | [], _, _, built => ⟨[], rfl, built⟩
  | (.text name, v) :: rest, done, out, built => by
    rw [Document.ofEntries] at built
    obtain ⟨d, first, others⟩ := ok_of_bind built
    obtain ⟨part, read, back⟩ := document_ofPart first
    obtain ⟨parts, readAll, backAll⟩ := document_ofEntries others
    refine ⟨(.text name, part) :: parts, by rw [ofEntries, read, readAll]; rfl, ?_⟩
    rw [plainEntries, Document.ofEntries, back]
    exact backAll

end

mutual

theorem document_plain : ∀ {v : Value} {d : Document}, Document.ofValue v = .ok d →
    Document.ofValue (plain v) = .ok d
  | .list items, _, built => by
    rw [Document.ofValue] at built
    obtain ⟨ds, read, rfl⟩ := ok_of_map built
    rw [plain, Document.ofValue, document_plainItems read]
    rfl
  | .tuple items, _, built => built
  | .map entries, _, built => built
  | .null, _, built => built
  | .bool _, _, built => built
  | .number _, _, built => built
  | .text _, _, built => built
  | .document _, _, built => built

theorem document_plainItems : ∀ {items : List Value} {ds : List Document},
    Document.ofItems items = .ok ds → Document.ofItems (plainItems items) = .ok ds
  | [], _, built => built
  | v :: rest, ds, built => by
    rw [Document.ofItems] at built
    obtain ⟨d, first, following⟩ := ok_of_bind built
    obtain ⟨more, others, same⟩ := ok_of_bind following
    rw [plainItems, Document.ofItems, document_plain first, document_plainItems others]
    exact same

end

theorem mem_plainEntries {k u : Value} {entries : List (Value × Value)}
    (member : (k, u) ∈ plainEntries entries) : ∃ v, (k, v) ∈ entries ∧ u = plain v := by
  induction entries with
  | nil => cases member
  | cons entry rest ih =>
    rw [plainEntries] at member
    rcases List.mem_cons.mp member with head | later
    · cases head
      exact ⟨entry.2, List.mem_cons_self, rfl⟩
    · obtain ⟨v, found, same⟩ := ih later
      exact ⟨v, List.mem_cons_of_mem _ found, same⟩

theorem mem_ofEntries {k u : Value} {entries parts : List (Value × Value)}
    (read : ofEntries entries = .ok parts) (member : (k, u) ∈ parts) :
    ∃ v, (k, v) ∈ entries ∧ ofPart v = .ok u := by
  induction entries generalizing parts with
  | nil =>
    cases read
    cases member
  | cons entry rest ih =>
    obtain ⟨name, v⟩ := entry
    cases name with
    | text name =>
      rw [ofEntries] at read
      obtain ⟨part, first, following⟩ := ok_of_bind read
      obtain ⟨more, others, same⟩ := ok_of_bind following
      cases same
      rcases List.mem_cons.mp member with head | later
      · cases head
        exact ⟨v, List.mem_cons_self, first⟩
      · obtain ⟨w, found, own⟩ := ih others later
        exact ⟨w, List.mem_cons_of_mem _ found, own⟩
    | _ => cases read

theorem plainAt_plain {path : List String} {v : Value} (isPlain : v.PlainAt path) :
    (plain v).PlainAt path := by
  induction path generalizing v with
  | nil =>
    obtain ⟨d, built⟩ := isPlain
    exact ⟨d, document_plain built⟩
  | cons key rest ih =>
    cases v with
    | resource entries =>
      intro u member
      obtain ⟨v, found, rfl⟩ := mem_plainEntries member
      exact ih (isPlain v found)
    | map entries => exact isPlain
    | _ => exact trivial

theorem plainAt_ofPart {path : List String} {v part : Value} (isPlain : v.PlainAt path)
    (read : ofPart v = .ok part) : (plain part).PlainAt path := by
  induction path generalizing v part with
  | nil =>
    obtain ⟨d, built⟩ := isPlain
    obtain ⟨found, same, back⟩ := document_ofPart built
    rw [same] at read
    cases read
    exact ⟨d, back⟩
  | cons key rest ih =>
    cases v with
    | map entries =>
      rw [ofPart] at read
      obtain ⟨parts, readAll, rfl⟩ := ok_of_map read
      intro u member
      obtain ⟨p, inside, rfl⟩ := mem_plainEntries member
      obtain ⟨v, found, own⟩ := mem_ofEntries readAll inside
      exact ih (isPlain v found) own
    | resource entries =>
      cases read
      exact plainAt_plain isPlain
    | list items =>
      rw [ofPart] at read
      obtain ⟨parts, _, rfl⟩ := ok_of_map read
      exact trivial
    | tuple items =>
      rw [ofPart] at read
      obtain ⟨parts, _, rfl⟩ := ok_of_map read
      exact trivial
    | _ =>
      cases read
      exact trivial

theorem ofPart_blank {path : List String} {v : Value} (isPlain : v.PlainAt path) :
    ofPart (v.blank path) = (ofPart v).map (·.blank path) := by
  induction path generalizing v with
  | nil =>
    obtain ⟨d, built⟩ := isPlain
    obtain ⟨part, read, _⟩ := document_ofPart built
    rw [read]
    rfl
  | cons key rest ih =>
    cases v with
    | map entries =>
      rw [blank, ofPart, ofPart, ofEntries_amend fun v member => ih (isPlain v member)]
      cases ofEntries entries <;> rfl
    | list items =>
      rw [blank, ofPart]
      · cases ofParts items <;> rfl
      all_goals simp
    | tuple items =>
      rw [blank, ofPart]
      · cases ofParts items <;> rfl
      all_goals simp
    | _ => rfl

end Resource

theorem Value.plainAt_blank {path other : List String} (sameLength : path.length = other.length) {v : Value}
    (isPlain : v.PlainAt path) : (v.blank other).PlainAt path := by
  induction path generalizing other v with
  | nil =>
    obtain rfl : other = [] := List.length_eq_zero_iff.mp sameLength.symm
    exact ⟨.string "", rfl⟩
  | cons key rest ih =>
    obtain ⟨step, steps, rfl⟩ := List.exists_cons_of_length_eq_add_one sameLength.symm
    have below : ∀ {u : Value}, u.PlainAt rest → (u.blank steps).PlainAt rest :=
      ih (Nat.succ.inj sameLength)
    have kept : ∀ {entries : List (Value × Value)},
        (∀ u, (text key, u) ∈ entries → u.PlainAt rest) →
        ∀ u, (text key, u) ∈ amendEntries step (blank steps) entries → u.PlainAt rest := by
      intro entries plainIn u member
      obtain ⟨before, found, same⟩ := mem_amendEntries member
      rw [same]
      split
      · exact below (plainIn before found)
      · exact plainIn before found
    cases v with
    | map entries => exact kept isPlain
    | resource entries => exact kept isPlain
    | _ => exact trivial

end ClusterLedger
