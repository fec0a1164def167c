import ClusterLedger.Proofs.Reordering.Values

namespace ClusterLedger

namespace Value

def inside : Value → List Value
  | list items => items
  | tuple items => items
  | map entries => entries.map (·.2)
  | _ => []

inductive Within (part : Value) : Value → Prop
  | self : Within part part
  | under {v whole : Value} (member : v ∈ whole.inside) (inner : Within part v) : Within part whole

def Admitted : Value → Prop
  | null => True
  | bool _ => True
  | number _ => True
  | text _ => True
  | list _ => True
  | tuple _ => True
  | map entries => ∀ entry ∈ entries, ∃ key, entry.1 = text key
  | document _ => True
  | _ => False

def Plain (v : Value) : Prop := ∀ part : Value, part.Within v → part.Admitted

def keyOffences : Value → List Malformation
  | text _ => []
  | key => [.keyNotText key]

mutual

/-- All that keeps a value from being a document: entries in their order, a key before what is under it. -/
def offences : Value → List Malformation
  | null => []
  | bool _ => []
  | number _ => []
  | text _ => []
  | list items => itemOffences items
  | tuple items => itemOffences items
  | map entries => entryOffences entries
  | document _ => []
  | other => [.unsupported other.typeName]

def itemOffences : List Value → List Malformation
  | [] => []
  | item :: rest => item.offences ++ itemOffences rest

def entryOffences : List (Value × Value) → List Malformation
  | [] => []
  | (key, value) :: rest => key.keyOffences ++ (value.offences ++ entryOffences rest)

end

mutual

def plainForm : Value → Value
  | list items => list (plainItems items)
  | tuple items => list (plainItems items)
  | map entries => map (plainEntries entries)
  | document d => d.toValue
  | v => v

def plainItems : List Value → List Value
  | [] => []
  | item :: rest => item.plainForm :: plainItems rest

def plainEntries : List (Value × Value) → List (Value × Value)
  | [] => []
  | (key, value) :: rest => (key, value.plainForm) :: plainEntries rest

end

theorem keyOffences_eq_nil {key : Value} : key.keyOffences = [] ↔ ∃ k, key = text k := by
  cases key <;> simp [keyOffences]

theorem plain_iff {v : Value} : v.Plain ↔ v.Admitted ∧ ∀ child ∈ v.inside, child.Plain := by
  constructor
  · intro plain
    exact ⟨plain v .self, fun child member part inner => plain part (.under member inner)⟩
  · rintro ⟨own, each⟩ part within
    cases within with
    | self => exact own
    | under member inner => exact each _ member part inner

mutual

theorem offences_eq_nil : ∀ v : Value, v.offences = [] ↔ v.Plain
  | list items => by
    rw [offences, plain_iff, itemOffences_eq_nil items]
    exact (and_iff_right trivial).symm
  | tuple items => by
    rw [offences, plain_iff, itemOffences_eq_nil items]
    exact (and_iff_right trivial).symm
  | map entries => by
    rw [offences, plain_iff, entryOffences_eq_nil entries]
    exact and_congr_right fun _ => List.forall_mem_map.symm
  | null | bool _ | number _ | text _ | document _ | bytes _ | set _ | date _ | decimal _ | sealed
  | convertible _ | resource _ => by
    rw [plain_iff]
    simp [offences, Admitted, inside]

theorem itemOffences_eq_nil : ∀ items : List Value, itemOffences items = [] ↔ ∀ item ∈ items, item.Plain
  | [] => by simp [itemOffences]
  | item :: rest => by
    rw [itemOffences, List.append_eq_nil_iff, offences_eq_nil item, itemOffences_eq_nil rest,
      List.forall_mem_cons]

theorem entryOffences_eq_nil : ∀ entries : List (Value × Value), entryOffences entries = [] ↔
    (∀ entry ∈ entries, ∃ key, entry.1 = text key) ∧ ∀ entry ∈ entries, entry.2.Plain
  | [] => by simp [entryOffences]
  | (key, value) :: rest => by
    rw [entryOffences, List.append_eq_nil_iff, List.append_eq_nil_iff, keyOffences_eq_nil,
      offences_eq_nil value, entryOffences_eq_nil rest, List.forall_mem_cons, List.forall_mem_cons, and_assoc,
      and_left_comm (a := value.Plain)]

end

end Value

/-- A result is there if nothing offends, and else reports what offends first. -/
def Reports {α : Type} : List Malformation → Except Failure α → Prop
  | [], result => ∃ a, result = .ok a
  | what :: _, result => result = .error (.malformed what)

namespace Reports

variable {α β : Type} {offences later : List Malformation} {result : Except Failure α}

theorem map (reports : Reports offences result) (f : α → β) : Reports offences (result.map f) := by
  cases offences with
  | nil =>
    obtain ⟨a, rfl⟩ := reports
    exact ⟨f a, rfl⟩
  | cons what _ =>
    rw [show result = _ from reports]
    rfl

theorem bind (reports : Reports offences result) {next : α → Except Failure β}
    (goesOn : ∀ a, Reports later (next a)) : Reports (offences ++ later) (result >>= next) := by
  cases offences with
  | nil =>
    obtain ⟨a, rfl⟩ := reports
    exact goesOn a
  | cons what _ =>
    rw [show result = _ from reports]
    rfl

theorem exists_ok_iff (reports : Reports offences result) : (∃ a, result = .ok a) ↔ offences = [] := by
  cases offences with
  | nil => exact iff_of_true reports rfl
  | cons what _ =>
    rw [show result = _ from reports]
    simp

theorem error_iff (reports : Reports offences result) {failure : Failure} :
    result = .error failure ↔ ∃ what, offences.head? = some what ∧ failure = .malformed what := by
  cases offences with
  | nil =>
    obtain ⟨a, rfl⟩ := reports
    simp
  | cons what _ =>
    rw [show result = _ from reports]
    simp [eq_comm]

end Reports

namespace Document

-- The induction is on the value; what entries were read before does not matter to what offends in the others.
mutual

theorem reports_ofValue : ∀ v : Value, Reports v.offences (ofValue v)
  | .list items => (reports_ofItems items).map sequence
  | .tuple items => (reports_ofItems items).map sequence
  | .map entries => (reports_ofEntries entries []).map mapping
  | .null | .bool _ | .number _ | .text _ | .document _ => ⟨_, rfl⟩
  | .bytes _ | .set _ | .date _ | .decimal _ | .sealed | .convertible _ | .resource _ => rfl

theorem reports_ofItems : ∀ items : List Value, Reports (Value.itemOffences items) (ofItems items)
  | [] => ⟨_, rfl⟩
  | item :: rest => by
    refine (reports_ofValue item).bind fun first => ?_
    rw [← List.append_nil (Value.itemOffences rest)]
    exact (reports_ofItems rest).bind fun others => ⟨first :: others, rfl⟩

theorem reports_ofEntries : ∀ (entries : List (Value × Value)) (done : List (String × Document)),
    Reports (Value.entryOffences entries) (ofEntries done entries)
  | [], done => ⟨done, rfl⟩
  | (key, value) :: rest, done => by
    cases key with
    | text key => exact (reports_ofValue value).bind fun item => reports_ofEntries rest (Assoc.set key item done)
    | _ => rfl

end

/-! ### Back to values -/

-- Keys that are distinct are read one by one, so that entries keep their places.
mutual

/-- What is read is written back in plain form. -/
theorem toValue_of_ofValue : ∀ v : Value, v.WellFormed → ∀ {d : Document}, ofValue v = .ok d →
    d.toValue = v.plainForm
  | .list items, wellFormed, _, ok => by
    obtain ⟨ds, read, rfl⟩ := ok_of_map ok
    exact congrArg Value.list (toValues_of_ofItems items wellFormed read)
  | .tuple items, wellFormed, _, ok => by
    obtain ⟨ds, read, rfl⟩ := ok_of_map ok
    exact congrArg Value.list (toValues_of_ofItems items wellFormed read)
  | .map entries, wellFormed, _, ok => by
    obtain ⟨es, read, rfl⟩ := ok_of_map ok
    rw [ofEntries_nil wellFormed.1] at read
    exact congrArg Value.map (toEntries_of_mapM entries wellFormed.2 read)
  | .null, _, _, ok | .bool _, _, _, ok | .number _, _, _, ok | .text _, _, _, ok | .document _, _, _, ok => by
    cases ok
    rfl
  | .bytes _, _, _, ok | .set _, _, _, ok | .date _, _, _, ok | .decimal _, _, _, ok | .sealed, _, _, ok
  | .convertible _, _, _, ok | .resource _, _, _, ok => nomatch ok

theorem toValues_of_ofItems : ∀ items : List Value, Value.AllWellFormed items → ∀ {ds : List Document},
    ofItems items = .ok ds → toValues ds = Value.plainItems items
  | [], _, _, ok => by
    cases ok
    rfl
  | item :: rest, wellFormed, _, ok => by
    obtain ⟨d, first, later⟩ := ok_of_bind ok
    obtain ⟨ds, others, same⟩ := ok_of_bind later
    cases same
    rw [toValues, toValue_of_ofValue item wellFormed.1 first, toValues_of_ofItems rest wellFormed.2 others]
    rfl

theorem toEntries_of_mapM : ∀ entries : List (Value × Value), Value.EntriesWellFormed entries →
    ∀ {es : List (String × Document)}, entries.mapM ofEntry = .ok es → toEntries es = Value.plainEntries entries
  | [], _, _, ok => by
    cases ok
    rfl
  | (key, value) :: rest, wellFormed, _, ok => by
    rw [List.mapM_cons] at ok
    obtain ⟨entry, first, later⟩ := ok_of_bind ok
    obtain ⟨es, others, same⟩ := ok_of_bind later
    cases same
    cases key with
    | text key =>
      obtain ⟨d, read, rfl⟩ := ok_of_map first
      rw [toEntries, toValue_of_ofValue value wellFormed.1 read, toEntries_of_mapM rest wellFormed.2 others]
      rfl
    | _ => cases first

end

theorem wellFormed_of_ofValue {v : Value} (wellFormed : v.WellFormed) {d : Document} (ok : ofValue v = .ok d) :
    d.WellFormed := by
  have read := ofValue_self v wellFormed
  rw [ok] at read
  cases read with
  | ok alike => exact alike.left

end Document

/-! ### Equality of content -/

@[simp] theorem Binary64.same_self (x : Binary64) : x.same x = true := by
  cases x <;> simp [same]

@[simp] theorem Number.same_self (n : Number) : n.same n = true := by
  cases n with
  | whole _ => exact decide_eq_true rfl
  | real x => exact x.same_self

namespace Document

mutual

theorem same_self : ∀ d : Document, d.WellFormed → d.same d = true
  | null, _ => rfl
  | bool _, _ => decide_eq_true rfl
  | number n, _ => n.same_self
  | string _, _ => decide_eq_true rfl
  | sequence items, wellFormed => sameItems_self items wellFormed
  | mapping entries, wellFormed => by
    have found : ∀ entry ∈ entries, Assoc.find? entry.1 entries = some entry.2 := fun entry member =>
      (Assoc.find?_eq_some_iff wellFormed.1).mpr member
    simpa [same] using sameEntries_self entries wellFormed.2 found

theorem sameItems_self : ∀ items : List Document, AllWellFormed items → sameItems items items = true
  | [], _ => rfl
  | d :: rest, wellFormed => by
    rw [sameItems, same_self d wellFormed.1, sameItems_self rest wellFormed.2]
    rfl

theorem sameEntries_self : ∀ (entries : List (String × Document)), EntriesWellFormed entries →
    ∀ {other : List (String × Document)}, (∀ entry ∈ entries, Assoc.find? entry.1 other = some entry.2) →
    sameEntries entries other = true
  | [], _, _, _ => rfl
  | (key, d) :: rest, wellFormed, other, found => by
    have own : Assoc.find? key other = some d := found (key, d) List.mem_cons_self
    have later := sameEntries_self rest wellFormed.2 fun entry member => found entry (List.mem_cons_of_mem _ member)
    rw [sameEntries, own, later]
    simpa using same_self d wellFormed.1

end

/--
A value is read exactly if it is plain, and otherwise the first offence in it is reported. What was read is
written back in plain form, which is read again as the same document and of the same content.
-/
theorem ofValue_converts (v : Value) :
    ((∃ d, ofValue v = .ok d) ↔ v.Plain) ∧
    (∀ failure, ofValue v = .error failure ↔
      ∃ what, v.offences.head? = some what ∧ failure = .malformed what) ∧
    (v.WellFormed → ∀ d, ofValue v = .ok d →
      d.toValue = v.plainForm ∧ ofValue d.toValue = .ok d ∧ d.same d = true) := by
  have reports := reports_ofValue v
  refine ⟨reports.exists_ok_iff.trans (Value.offences_eq_nil v), fun failure => reports.error_iff, ?_⟩
  intro wellFormed d read
  have built := wellFormed_of_ofValue wellFormed read
  exact ⟨toValue_of_ofValue v wellFormed read, ofValue_toValue d built, same_self d built⟩

theorem ofValue_converts_nested :
    let zone : Document := .mapping [("zone", .string "a")]
    let v : Value := .map [(.text "flags", .tuple [.bool true, .number (.real (.nan 0))]),
      (.text "place", .document zone)]
    let d : Document := .mapping [("flags", .sequence [.bool true, .number (.real (.nan 0))]),
      ("place", zone)]
    let offending : Value := .map [(.text "flags", .list [.bool true, .sealed]), (.whole 1, .sealed)]
    v.Plain ∧ d.toValue = v.plainForm ∧ ofValue d.toValue = .ok d ∧ d.same d = true ∧
      ofValue offending = .error (.malformed (.unsupported "Opaque")) := by
  intro zone v d offending
  have read : ofValue v = .ok d := rfl
  have wellFormed : v.WellFormed := by
    simp [v, zone, Value.WellFormed, Value.EntriesWellFormed, Value.AllWellFormed, Value.textKeys,
      Value.asText?, Document.WellFormed, EntriesWellFormed, Assoc.Distinct, Assoc.keys]
  obtain ⟨accepted, _, back⟩ := ofValue_converts v
  obtain ⟨plain, again, same⟩ := back wellFormed d read
  have reported := ((ofValue_converts offending).2.1 _).mpr ⟨.unsupported "Opaque", rfl, rfl⟩
  exact ⟨accepted.mp ⟨d, read⟩, plain, again, same, reported⟩

end Document

end ClusterLedger
