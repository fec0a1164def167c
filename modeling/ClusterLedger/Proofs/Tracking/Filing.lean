import ClusterLedger.Proofs.Tracking.Valid

/-!
What recording and dropping an ID do to the entries of its kind. Both are told by a note: the entries
afterwards are those before with the note filed, and the name found for an ID is the one noted last.
-/

namespace ClusterLedger

/-- An ID and the name that it was recorded under; no name if it was dropped. -/
structure Note where
  id : String
  name : Option String
  deriving DecidableEq, Repr

namespace TrackedResource

def nameIn (entries : List TrackedResource) (id : String) : Option String :=
  (entries.find? fun entry => entry.id = id).map (·.name)

def behind (entries : List TrackedResource) (id : String) : List TrackedResource :=
  (entries.dropWhile fun entry => entry.id ≠ id).drop 1

def lastNamed? (entries : List TrackedResource) (name : String) : Option String :=
  ((entries.filter fun entry => entry.name = name).getLast?).map (·.id)

def withName (id name : String) (entry : TrackedResource) : TrackedResource :=
  if entry.id = id then { entry with name } else entry

@[simp] theorem id_withName (id name : String) (entry : TrackedResource) :
    (withName id name entry).id = entry.id := by
  unfold withName
  split <;> rfl

@[simp] theorem ids_withName (id name : String) (entries : List TrackedResource) :
    (entries.map (withName id name)).map (·.id) = entries.map (·.id) := by
  rw [List.map_map]
  exact List.map_congr_left fun entry _ => id_withName id name entry

theorem withName_of_absent {id : String} {entries : List TrackedResource}
    (absent : id ∉ entries.map (·.id)) (name : String) : entries.map (withName id name) = entries := by
  have same : ∀ entry ∈ entries, withName id name entry = entry := by
    intro entry member
    have different : entry.id ≠ id := by
      rintro rfl
      exact absent (List.mem_map_of_mem member)
    exact if_neg different
  rw [List.map_congr_left same, List.map_id']

theorem nameIn_cons (entry : TrackedResource) (rest : List TrackedResource) (id : String) :
    nameIn (entry :: rest) id = if entry.id = id then some entry.name else nameIn rest id := by
  unfold nameIn
  rw [List.find?_cons]
  by_cases same : entry.id = id <;> simp [same]

theorem nameIn_eq_none {entries : List TrackedResource} {id : String} :
    nameIn entries id = none ↔ id ∉ entries.map (·.id) := by
  simp [nameIn]

theorem nameIn_of_mem {entries : List TrackedResource} (distinct : (entries.map (·.id)).Nodup)
    {entry : TrackedResource} (member : entry ∈ entries) : nameIn entries entry.id = some entry.name := by
  unfold nameIn
  rw [Assoc.find?_of_nodup distinct member]
  rfl

theorem mem_of_nameIn {entries : List TrackedResource} {id name : String}
    (found : nameIn entries id = some name) : id ∈ entries.map (·.id) := by
  apply Decidable.of_not_not
  intro absent
  rw [nameIn_eq_none.mpr absent] at found
  cases found

theorem withName_of_named {entries : List TrackedResource} (distinct : (entries.map (·.id)).Nodup)
    {id name : String} (found : nameIn entries id = some name) :
    entries.map (withName id name) = entries := by
  have same : ∀ entry ∈ entries, withName id name entry = entry := by
    intro entry member
    unfold withName
    split
    · rename_i own
      have held := nameIn_of_mem distinct member
      rw [own, found] at held
      rw [Option.some.inj held]
    · rfl
  rw [List.map_congr_left same, List.map_id']

theorem nameIn_append (entries : List TrackedResource) (kind : ResourceKind) {id : String} (name : String)
    (absent : id ∉ entries.map (·.id)) (other : String) :
    nameIn (entries ++ [⟨kind, id, name⟩]) other =
      if id = other then some name else nameIn entries other := by
  induction entries with
  | nil => rw [List.nil_append, nameIn_cons]
  | cons entry rest ih =>
    rw [List.map_cons, List.mem_cons, not_or] at absent
    rw [List.cons_append, nameIn_cons, nameIn_cons, ih absent.2]
    by_cases same : id = other
    · rw [if_pos same, if_neg (fun first => absent.1 (same.trans first.symm)), if_pos same]
    · rw [if_neg same, if_neg same]

theorem nameIn_withName (entries : List TrackedResource) (id name other : String) :
    nameIn (entries.map (withName id name)) other =
      if id = other then (nameIn entries other).map fun _ => name else nameIn entries other := by
  induction entries with
  | nil => simp [nameIn]
  | cons entry rest ih =>
    rw [List.map_cons, nameIn_cons, nameIn_cons, id_withName, ih]
    by_cases first : entry.id = other
    · by_cases same : id = other
      · simp [withName, first, same]
      · simp [withName, first, same, Ne.symm same]
    · rw [if_neg first, if_neg first]

theorem nameIn_filter (entries : List TrackedResource) (id other : String) :
    nameIn (entries.filter fun entry => entry.id ≠ id) other =
      if id = other then none else nameIn entries other := by
  induction entries with
  | nil => simp [nameIn]
  | cons entry rest ih =>
    rw [nameIn_cons, List.filter_cons]
    by_cases dropped : entry.id = id
    · rw [if_neg (by simpa using dropped), ih]
      by_cases same : id = other
      · rw [if_pos same, if_pos same]
      · rw [if_neg same, if_neg same, if_neg (dropped ▸ same)]
    · rw [if_pos (by simpa using dropped), nameIn_cons, ih]
      by_cases same : id = other
      · rw [if_pos same, if_pos same, if_neg (same ▸ dropped)]
      · rw [if_neg same, if_neg same]

theorem behind_cons (entry : TrackedResource) (rest : List TrackedResource) (id : String) :
    behind (entry :: rest) id = if entry.id = id then rest else behind rest id := by
  unfold behind
  rw [List.dropWhile_cons]
  by_cases same : entry.id = id <;> simp [same]

theorem mem_of_mem_behind {entries : List TrackedResource} {id : String} {other : TrackedResource}
    (member : other ∈ behind entries id) : other ∈ entries :=
  (List.dropWhile_sublist _).subset (List.mem_of_mem_drop member)

theorem lastNamed?_cons (entry : TrackedResource) (rest : List TrackedResource) (name : String) :
    lastNamed? (entry :: rest) name =
      (lastNamed? rest name).or (if entry.name = name then some entry.id else none) := by
  unfold lastNamed?
  rw [List.filter_cons]
  by_cases same : entry.name = name
  · rw [if_pos (by simpa using same), if_pos same, List.getLast?_cons]
    cases (rest.filter fun entry => entry.name = name).getLast? <;> rfl
  · rw [if_neg (by simpa using same), if_neg same, Option.or_none]

theorem lastNamed?_eq_none {entries : List TrackedResource} {name : String} :
    lastNamed? entries name = none ↔ ∀ entry ∈ entries, entry.name ≠ name := by
  simp [lastNamed?]

/-- An ID is the last of a name if it has that name and no entry behind it has. -/
theorem lastNamed?_eq_some_iff {entries : List TrackedResource}
    (distinct : (entries.map (·.id)).Nodup) {name id : String} :
    lastNamed? entries name = some id ↔
      nameIn entries id = some name ∧ ∀ other ∈ behind entries id, other.name ≠ name := by
  induction entries with
  | nil => simp [lastNamed?, nameIn]
  | cons entry rest ih =>
    have parts := List.nodup_cons.mp distinct
    have later := ih parts.2
    rw [lastNamed?_cons, nameIn_cons, behind_cons]
    by_cases own : entry.id = id
    · subst own
      have nowhere : lastNamed? rest name ≠ some entry.id := by
        intro found
        have absent := nameIn_eq_none.mpr parts.1
        rw [(later.mp found).1] at absent
        cases absent
      rw [if_pos rfl, if_pos rfl, ← lastNamed?_eq_none, Option.some.injEq]
      cases found : lastNamed? rest name with
      | none => simp
      | some other => simpa [found] using nowhere
    · rw [if_neg own, if_neg own, ← later]
      cases found : lastNamed? rest name with
      | none => simp [own]
      | some other => simp

theorem behind_withName {entries : List TrackedResource} (distinct : (entries.map (·.id)).Nodup)
    (id name : String) : behind (entries.map (withName id name)) id = behind entries id := by
  induction entries with
  | nil => rfl
  | cons entry rest ih =>
    have parts := List.nodup_cons.mp distinct
    rw [List.map_cons, behind_cons, behind_cons, id_withName]
    by_cases own : entry.id = id
    · rw [if_pos own, if_pos own, withName_of_absent (own ▸ parts.1)]
    · rw [if_neg own, if_neg own, ih parts.2]

theorem behind_of_absent {entries : List TrackedResource} {id : String}
    (absent : id ∉ entries.map (·.id)) : behind entries id = [] := by
  induction entries with
  | nil => rfl
  | cons entry rest ih =>
    rw [List.map_cons, List.mem_cons, not_or] at absent
    rw [behind_cons, if_neg (Ne.symm absent.1), ih absent.2]

theorem behind_append {entries : List TrackedResource} {id : String}
    (absent : id ∉ entries.map (·.id)) (kind : ResourceKind) (name : String) :
    behind (entries ++ [⟨kind, id, name⟩]) id = [] := by
  induction entries with
  | nil => simp [behind_cons]
  | cons entry rest ih =>
    rw [List.map_cons, List.mem_cons, not_or] at absent
    rw [List.cons_append, behind_cons, if_neg (Ne.symm absent.1), ih absent.2]

end TrackedResource

namespace Note

open TrackedResource

/-- The entries of a kind once a note is filed: a new ID goes last, a known one keeps its place. -/
def file (kind : ResourceKind) (note : Note) (entries : List TrackedResource) : List TrackedResource :=
  match note.name with
  | none => entries.filter fun entry => entry.id ≠ note.id
  | some name =>
    if note.id ∈ entries.map (·.id) then entries.map (withName note.id name)
    else entries ++ [⟨kind, note.id, name⟩]

theorem file_of_absent {id : String} {entries : List TrackedResource} (absent : id ∉ entries.map (·.id))
    (kind : ResourceKind) (name : String) :
    file kind ⟨id, some name⟩ entries = entries ++ [⟨kind, id, name⟩] := if_neg absent

theorem file_of_present {id : String} {entries : List TrackedResource} (present : id ∈ entries.map (·.id))
    (kind : ResourceKind) (name : String) :
    file kind ⟨id, some name⟩ entries = entries.map (withName id name) := if_pos present

theorem nameIn_file (kind : ResourceKind) (note : Note) (entries : List TrackedResource) (id : String) :
    nameIn (note.file kind entries) id = if note.id = id then note.name else nameIn entries id := by
  obtain ⟨about, name | name⟩ := note
  · exact nameIn_filter entries about id
  · by_cases present : about ∈ entries.map (·.id)
    · rw [file_of_present present, nameIn_withName]
      split
      · rename_i same
        subst same
        cases found : nameIn entries about with
        | none => exact absurd present (nameIn_eq_none.mp found)
        | some old => rfl
      · rfl
    · rw [file_of_absent present]
      exact nameIn_append entries kind name present id

theorem behind_file {entries : List TrackedResource} (distinct : (entries.map (·.id)).Nodup)
    (kind : ResourceKind) (id name : String) :
    behind (file kind ⟨id, some name⟩ entries) id = behind entries id := by
  by_cases present : id ∈ entries.map (·.id)
  · rw [file_of_present present, behind_withName distinct]
  · rw [file_of_absent present, behind_append present, behind_of_absent present]

end Note

namespace ResourceMap

open TrackedResource

theorem Filed.file {kind : ResourceKind} {entries : List TrackedResource} (filed : Filed kind entries)
    (note : Note) (named : note.id ∈ entries.map (·.id) ∨ note.name = none ∨ note.id ≠ "") :
    Filed kind (note.file kind entries) := by
  obtain ⟨id, name | name⟩ := note
  · constructor
    · intro entry member
      exact filed.kinds entry (List.mem_filter.mp member).1
    · exact List.Nodup.sublist (List.Sublist.map _ List.filter_sublist) filed.ids
    · intro entry member
      exact filed.named entry (List.mem_filter.mp member).1
  · by_cases present : id ∈ entries.map (·.id)
    · rw [Note.file_of_present present]
      constructor
      · intro entry member
        obtain ⟨old, inside, rfl⟩ := List.mem_map.mp member
        have kept : (withName id name old).kind = old.kind := by
          unfold withName
          split <;> rfl
        exact kept.trans (filed.kinds old inside)
      · rw [ids_withName]
        exact filed.ids
      · intro entry member
        obtain ⟨old, inside, rfl⟩ := List.mem_map.mp member
        rw [id_withName]
        exact filed.named old inside
    · have fresh : id ≠ "" := by
        rcases named with tracked | unnamed | nonempty
        · exact absurd tracked present
        · cases unnamed
        · exact nonempty
      rw [Note.file_of_absent present]
      constructor
      · intro entry member
        rcases List.mem_append.mp member with old | new
        · exact filed.kinds entry old
        · rw [List.mem_singleton.mp new]
      · rw [List.map_append]
        refine List.nodup_append.mpr ⟨filed.ids, by simp, ?_⟩
        intro old member new single same
        have last : new = id := List.mem_singleton.mp single
        exact present (last ▸ same ▸ member)
      · intro entry member
        rcases List.mem_append.mp member with old | new
        · exact filed.named entry old
        · rw [List.mem_singleton.mp new]
          exact fresh

def behind (m : ResourceMap) (kind : ResourceKind) (id : String) : List TrackedResource :=
  TrackedResource.behind (m.entries kind) id

theorem nameOf?_eq (m : ResourceMap) (kind : ResourceKind) (id : String) :
    m.nameOf? kind id = nameIn (m.entries kind) id := rfl

/-- One map comes from another by filing a note about a kind; the other kinds are left alone. -/
structure Refiled (kind : ResourceKind) (note : Note) (before after : ResourceMap) : Prop where
  entries : after.entries kind = note.file kind (before.entries kind)
  others : ∀ other, other ≠ kind → Assoc.find? other after.groups = Assoc.find? other before.groups
  valid : after.Valid

variable {m : ResourceMap} {kind : ResourceKind}

theorem Valid.entries (valid : m.Valid) (kind : ResourceKind) : Filed kind (m.entries kind) := by
  unfold ResourceMap.entries
  cases found : Assoc.find? kind m.groups with
  | none =>
    constructor
    · intro entry member
      cases member
    · exact List.nodup_nil
    · intro entry member
      cases member
  | some group => exact valid.filed _ (Assoc.mem_of_find? found)

theorem Valid.withEntries (valid : m.Valid) {group : List TrackedResource} (filed : Filed kind group) :
    (m.withEntries kind group).Valid := by
  refine ⟨Assoc.distinct_set valid.kinds kind group, fun pair member => ?_⟩
  rcases Assoc.mem_of_mem_set member with rfl | old
  · exact filed
  · exact valid.filed pair old

theorem refiled_withEntries (valid : m.Valid) (note : Note)
    (filed : Filed kind (note.file kind (m.entries kind))) :
    Refiled kind note m (m.withEntries kind (note.file kind (m.entries kind))) := by
  constructor
  · unfold ResourceMap.entries ResourceMap.withEntries
    rw [Assoc.find?_set_self]
    rfl
  · intro other different
    exact Assoc.find?_set_of_ne (Ne.symm different) _ _
  · exact valid.withEntries filed

theorem refiled_unchanged (valid : m.Valid) {note : Note}
    (same : note.file kind (m.entries kind) = m.entries kind) : Refiled kind note m m :=
  ⟨same.symm, fun _ _ => rfl, valid⟩

theorem put_refiled (valid : m.Valid) {m' : ResourceMap} {id name : String} {events : List Event}
    (ok : m.put kind id name = .ok (m', events)) : Refiled kind ⟨id, some name⟩ m m' := by
  have filed := valid.entries kind
  unfold put at ok
  cases known : m.nameOf? kind id with
  | none =>
    rw [known] at ok
    have absent : id ∉ (m.entries kind).map (·.id) := nameIn_eq_none.mp known
    by_cases empty : id = ""
    · simp [empty] at ok
    · simp only [empty, if_false, Except.ok.injEq, Prod.mk.injEq] at ok
      rw [← ok.1, ← Note.file_of_absent absent]
      exact refiled_withEntries valid _ (filed.file _ (Or.inr (Or.inr empty)))
  | some old =>
    rw [known] at ok
    have present : id ∈ (m.entries kind).map (·.id) := mem_of_nameIn known
    have renamed := Note.file_of_present present kind name
    by_cases same : old = name
    · subst same
      simp only [if_true, Except.ok.injEq, Prod.mk.injEq] at ok
      rw [← ok.1]
      exact refiled_unchanged valid (renamed.trans (withName_of_named filed.ids known))
    · simp only [same, if_false, Except.ok.injEq, Prod.mk.injEq] at ok
      have result : m.withEntries kind (Note.file kind ⟨id, some name⟩ (m.entries kind)) = m' := by
        rw [renamed]
        exact ok.1
      rw [← result]
      exact refiled_withEntries valid _ (filed.file _ (Or.inl present))

/-- Only an empty ID that is not tracked cannot be recorded. -/
theorem put_succeeds_iff {id name : String} :
    (∃ m' events, m.put kind id name = .ok (m', events)) ↔ m.nameOf? kind id ≠ none ∨ id ≠ "" := by
  unfold put
  cases known : m.nameOf? kind id with
  | none => by_cases empty : id = "" <;> simp [empty]
  | some old => by_cases same : old = name <;> simp [same]

theorem drop_refiled (valid : m.Valid) (id : String) : Refiled kind ⟨id, none⟩ m (m.drop kind id).1 := by
  unfold drop
  split
  · exact refiled_withEntries valid _ ((valid.entries kind).file _ (Or.inr (Or.inl rfl)))
  · rename_i untracked
    apply refiled_unchanged valid
    apply List.filter_eq_self.mpr
    intro entry member
    have different : entry.id ≠ id := by
      rintro rfl
      exact untracked (List.any_eq_true.mpr ⟨entry, member, by simp⟩)
    simpa using different

end ResourceMap
end ClusterLedger
