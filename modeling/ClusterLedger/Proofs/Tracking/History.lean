import ClusterLedger.Proofs.Tracking.Operations

/-!
Histories of a resource map. A history keeps what calls recorded and dropped, newest first, and starts with
the entries that the map was built with. After any calls the map is what the notes say: each ID has the
name that was noted last, and entries stand in the order in which they were first recorded since they
were last dropped.
-/

namespace ClusterLedger

namespace Note

open TrackedResource

def lastName (notes : List Note) (id : String) : Option String :=
  (notes.find? fun note => note.id = id).bind (·.name)

/-- When an ID was first recorded since it was last dropped: the number of notes before. -/
def firstRecorded (id : String) : List Note → Option Nat
  | [] => none
  | note :: older =>
    if note.id = id then note.name.bind fun _ => (firstRecorded id older).or (some older.length)
    else firstRecorded id older

def Precedes (notes : List Note) (first second : String) : Prop :=
  ∃ i j, firstRecorded first notes = some i ∧ firstRecorded second notes = some j ∧ i < j

def replay (kind : ResourceKind) : List Note → List TrackedResource
  | [] => []
  | note :: older => note.file kind (replay kind older)

theorem lastName_cons (note : Note) (older : List Note) (id : String) :
    lastName (note :: older) id = if note.id = id then note.name else lastName older id := by
  unfold lastName
  rw [List.find?_cons]
  by_cases same : note.id = id <;> simp [same]

@[simp] theorem nameIn_replay (kind : ResourceKind) (notes : List Note) (id : String) :
    nameIn (replay kind notes) id = lastName notes id := by
  induction notes with
  | nil => rfl
  | cons note older ih => rw [replay, nameIn_file, lastName_cons, ih]

theorem firstRecorded_lt {id : String} {notes : List Note} {i : Nat}
    (recorded : firstRecorded id notes = some i) : i < notes.length := by
  induction notes with
  | nil => cases recorded
  | cons note older ih =>
    rw [List.length_cons]
    unfold firstRecorded at recorded
    split at recorded
    · obtain ⟨name, _, inner⟩ := Option.bind_eq_some_iff.mp recorded
      cases earlier : firstRecorded id older with
      | none =>
        rw [earlier] at inner
        have last : older.length = i := Option.some.inj inner
        omega
      | some j =>
        rw [earlier] at inner
        have same : j = i := Option.some.inj inner
        have bound := ih (same ▸ earlier)
        omega
    · have bound := ih recorded
      omega

theorem firstRecorded_eq_none {id : String} {notes : List Note} :
    firstRecorded id notes = none ↔ lastName notes id = none := by
  induction notes with
  | nil => simp [firstRecorded, lastName]
  | cons note older ih =>
    rw [firstRecorded, lastName_cons]
    split
    · cases note.name with
      | none => simp
      | some name => cases firstRecorded id older <;> simp
    · exact ih

theorem firstRecorded_of_new {id : String} {older : List Note} (unnamed : lastName older id = none)
    (name : String) : firstRecorded id (⟨id, some name⟩ :: older) = some older.length := by
  rw [firstRecorded, if_pos rfl, firstRecorded_eq_none.mpr unnamed]
  rfl

/-- An ID keeps its place as long as it is not dropped. -/
theorem firstRecorded_cons {id : String} {older : List Note} {i : Nat}
    (recorded : firstRecorded id older = some i) {note : Note} (kept : note.id = id → note.name ≠ none) :
    firstRecorded id (note :: older) = some i := by
  rw [firstRecorded]
  split
  · rename_i same
    cases named : note.name with
    | none => exact absurd named (kept same)
    | some name =>
      rw [recorded]
      rfl
  · exact recorded

theorem precedes_cons {older : List Note} {first second : String} (precedes : Precedes older first second)
    {note : Note} (keptFirst : note.id = first → note.name ≠ none)
    (keptSecond : note.id = second → note.name ≠ none) : Precedes (note :: older) first second := by
  obtain ⟨i, j, atFirst, atSecond, less⟩ := precedes
  exact ⟨i, j, firstRecorded_cons atFirst keptFirst, firstRecorded_cons atSecond keptSecond, less⟩

theorem firstRecorded_of_mem {kind : ResourceKind} {notes : List Note} {entry : TrackedResource}
    (member : entry ∈ replay kind notes) : ∃ i, firstRecorded entry.id notes = some i := by
  cases recorded : firstRecorded entry.id notes with
  | some i => exact ⟨i, rfl⟩
  | none =>
    have unnamed := firstRecorded_eq_none.mp recorded
    rw [← nameIn_replay kind, nameIn_eq_none] at unnamed
    exact absurd (List.mem_map_of_mem member) unnamed

/-- The entries stand in the order in which they were first recorded since they were last dropped. -/
theorem ordered_replay (kind : ResourceKind) (notes : List Note) :
    (replay kind notes).Pairwise fun a b => Precedes notes a.id b.id := by
  induction notes with
  | nil => exact List.Pairwise.nil
  | cons note older ih =>
    obtain ⟨id, name | name⟩ := note
    · -- The entries that are left are not about the dropped ID, so their places are kept.
      refine List.Pairwise.imp_of_mem ?_ (ih.filter fun entry => entry.id ≠ id)
      intro a b memberA memberB precedes
      have keptA : a.id ≠ id := by simpa using (List.mem_filter.mp memberA).2
      have keptB : b.id ≠ id := by simpa using (List.mem_filter.mp memberB).2
      exact precedes_cons precedes (fun same => absurd same.symm keptA) (fun same => absurd same.symm keptB)
    · have kept : ∀ {a b : TrackedResource}, Precedes older a.id b.id →
          Precedes (⟨id, some name⟩ :: older) a.id b.id := by
        intro a b precedes
        exact precedes_cons precedes (fun _ => Option.some_ne_none name) (fun _ => Option.some_ne_none name)
      rw [replay]
      by_cases present : id ∈ (replay kind older).map (·.id)
      · rw [file_of_present present]
        refine List.pairwise_map.mpr (ih.imp ?_)
        intro a b precedes
        rw [id_withName, id_withName]
        exact kept precedes
      · -- A new ID gets the number of all older notes, which is above each number given before.
        rw [file_of_absent present]
        refine List.pairwise_append.mpr ⟨ih.imp kept, List.pairwise_singleton _ _, ?_⟩
        intro a memberA b memberB
        rw [List.mem_singleton.mp memberB]
        obtain ⟨i, recorded⟩ := firstRecorded_of_mem memberA
        have unnamed : lastName older id = none := by
          rw [← nameIn_replay kind]
          exact nameIn_eq_none.mpr present
        refine ⟨i, older.length, ?_, firstRecorded_of_new unnamed name, firstRecorded_lt recorded⟩
        exact firstRecorded_cons recorded fun _ => Option.some_ne_none name

theorem replay_recorded {kind : ResourceKind} {notes : List Note} {earlier later : List TrackedResource}
    (filed : ResourceMap.Filed kind (earlier ++ later)) (replayed : replay kind notes = earlier) :
    replay kind ((later.map fun entry => ⟨entry.id, some entry.name⟩).reverse ++ notes) =
      earlier ++ later := by
  induction later generalizing earlier notes with
  | nil => simpa using replayed
  | cons entry rest ih =>
    have absent : entry.id ∉ earlier.map (·.id) := by
      intro present
      have ids := filed.ids
      rw [List.map_append, List.map_cons] at ids
      exact (List.nodup_append.mp ids).2.2 _ present _ List.mem_cons_self rfl
    have own : entry.kind = kind := filed.kinds entry (List.mem_append_right _ List.mem_cons_self)
    have whole : earlier ++ entry :: rest = (earlier ++ [entry]) ++ rest := (List.append_cons ..)
    rw [whole] at filed ⊢
    rw [List.map_cons, List.reverse_cons, List.append_assoc]
    apply ih filed
    show file kind ⟨entry.id, some entry.name⟩ (replay kind notes) = earlier ++ [entry]
    rw [replayed, ← own, file_of_absent absent]

end Note

inductive TrackingCall where
  | upsert (kind : Value) (id name : String)
  | remove (kind : Value) (id : String)
  | detect (directory : Directory) (kind : Value) (org specName : String) (statusName : Option String)

namespace TrackingCall

def after (m : ResourceMap) : TrackingCall → ResourceMap
  | upsert kind id name =>
    match m.upsert kind id name with
    | .ok (after, _) => after
    | .error _ => m
  | remove kind id =>
    match m.remove kind id with
    | .ok (after, _) => after
    | .error _ => m
  | detect directory kind org specName statusName =>
    (m.detectRename directory kind org specName statusName).map

/--
What a call did to an ID, told by its outcome: an `upsert` and a `remove` that succeed record and drop
their ID, a detection drops the ID that it looked up if it fails because that is not found.
-/
def note? (m : ResourceMap) : TrackingCall → Option Note
  | upsert kind id name =>
    match m.upsert kind id name with
    | .ok _ => some ⟨id, some name⟩
    | .error _ => none
  | remove kind id =>
    match m.remove kind id with
    | .ok _ => some ⟨id, none⟩
    | .error _ => none
  | detect directory kind org specName statusName =>
    let detection := m.detectRename directory kind org specName statusName
    match detection.lookups, detection.result with
    | [.byId _ id _], .error failure => if failure.isNotFound then some ⟨id, none⟩ else none
    | _, _ => none

/-- A call leaves the map alone and notes nothing, or it files what it notes. -/
theorem unnoted_or_refiled {m : ResourceMap} (valid : m.Valid) (call : TrackingCall) :
    call.note? m = none ∧ call.after m = m ∨
      ∃ note, call.note? m = some note ∧ m.Refiled .ovdc note (call.after m) := by
  cases call with
  | upsert kind id name =>
    simp only [note?, after]
    cases outcome : m.upsert kind id name with
    | error failure => exact Or.inl ⟨rfl, rfl⟩
    | ok result => exact Or.inr ⟨⟨id, some name⟩, rfl, ResourceMap.upsert_refiled valid outcome⟩
  | remove kind id =>
    simp only [note?, after]
    cases outcome : m.remove kind id with
    | error failure => exact Or.inl ⟨rfl, rfl⟩
    | ok result => exact Or.inr ⟨⟨id, none⟩, rfl, ResourceMap.remove_refiled valid outcome⟩
  | detect directory kind org specName statusName =>
    simp only [note?, after]
    rcases m.detectRename_cases directory kind org specName statusName with
      ⟨failure, _, failed⟩ | ⟨_, adopting⟩ | ⟨id, _, rechecking⟩
    · rw [failed]
      exact Or.inl ⟨rfl, rfl⟩
    · rw [adopting, ResourceMap.adopt]
      cases directory (.byName .ovdc (lastKnownName specName statusName) org) <;> exact Or.inl ⟨rfl, rfl⟩
    · rw [rechecking, ResourceMap.recheck]
      cases answer : directory (.byId .ovdc id org) with
      | ok live => exact Or.inl ⟨rfl, rfl⟩
      | error failure =>
        -- Only an ID that is not found is dropped, and context does not change what a failure is.
        cases gone : failure.isNotFound with
        | false =>
          left
          simp [gone, Failure.isNotFound_withContext]
        | true =>
          refine Or.inr ⟨⟨id, none⟩, ?_, ?_⟩
          · simp [gone, Failure.isNotFound_withContext]
          · simpa [gone] using ResourceMap.drop_refiled valid id

end TrackingCall

structure History where
  map : ResourceMap
  notes : List Note

namespace History

/-- The entries that a map is built with count as recorded in their order. -/
def start (m : ResourceMap) : History where
  map := m
  notes := ((m.entries .ovdc).map fun entry => ⟨entry.id, some entry.name⟩).reverse

def advance (history : History) (call : TrackingCall) : History where
  map := call.after history.map
  notes := (call.note? history.map).toList ++ history.notes

def run (m : ResourceMap) (calls : List TrackingCall) : History := calls.foldl advance (start m)

/-- What every history keeps: its map is valid, replays the notes and has the other kinds as they were. -/
structure Faithful (initial : ResourceMap) (history : History) : Prop where
  valid : history.map.Valid
  replayed : history.map.entries .ovdc = Note.replay .ovdc history.notes
  others : ∀ kind, kind ≠ .ovdc →
    Assoc.find? kind history.map.groups = Assoc.find? kind initial.groups

theorem faithful_start {m : ResourceMap} (valid : m.Valid) : Faithful m (start m) := by
  refine ⟨valid, ?_, fun _ _ => rfl⟩
  have filed : ResourceMap.Filed .ovdc ([] ++ m.entries .ovdc) := valid.entries .ovdc
  have back := Note.replay_recorded filed (rfl : Note.replay .ovdc [] = [])
  rw [List.append_nil] at back
  exact back.symm

theorem faithful_advance {initial : ResourceMap} {history : History} (faithful : Faithful initial history)
    (call : TrackingCall) : Faithful initial (history.advance call) := by
  rcases call.unnoted_or_refiled faithful.valid with ⟨unnoted, same⟩ | ⟨note, noted, refiled⟩
  · have unchanged : history.advance call = history := by
      unfold advance
      rw [unnoted, same]
      rfl
    rw [unchanged]
    exact faithful
  · have notes : (history.advance call).notes = note :: history.notes := by
      unfold advance
      rw [noted]
      rfl
    refine ⟨refiled.valid, ?_, ?_⟩
    · rw [notes]
      exact refiled.entries.trans (congrArg (note.file .ovdc) faithful.replayed)
    · intro kind other
      exact (refiled.others kind other).trans (faithful.others kind other)

theorem faithful_run {m : ResourceMap} (valid : m.Valid) (calls : List TrackingCall) :
    Faithful m (run m calls) := by
  have forward : ∀ history, Faithful m history → Faithful m (calls.foldl advance history) := by
    induction calls with
    | nil => exact fun history faithful => faithful
    | cons call rest ih => exact fun history faithful => ih _ (faithful_advance faithful call)
  exact forward _ (faithful_start valid)

/--
After any calls, the map would still be accepted, the kinds that are not provided for are as they were,
and the rest is what the history says.
-/
theorem run_tracks {v : Value} {initial : ResourceMap} (accepted : ResourceMap.ofValue v = .ok initial)
    (calls : List TrackingCall) :
    let map := (run initial calls).map
    let notes := (run initial calls).notes
    ResourceMap.ofGroups map.groups = .ok map ∧
    (∀ group ∈ map.groups, ∀ entry ∈ group.2, entry.id ≠ "") ∧
    (∀ kind, kind ≠ .ovdc → Assoc.find? kind map.groups = Assoc.find? kind initial.groups) ∧
    (∀ id, map.find (.text "ovdc") id = .ok (Note.lastName notes id)) ∧
    ((map.entries .ovdc).Pairwise fun a b => Note.Precedes notes a.id b.id) ∧
    ∀ name id, map.findId (.text "ovdc") name = .ok (some id) →
      map.find (.text "ovdc") id = .ok (some name) ∧ ∀ other ∈ map.behind .ovdc id, other.name ≠ name := by
  intro map notes
  obtain ⟨valid, replayed, others⟩ := faithful_run (ResourceMap.valid_ofValue accepted) calls
  refine ⟨ResourceMap.ofGroups_of_valid valid, ?_, others, ?_, ?_, ?_⟩
  · intro group member
    exact (valid.filed group member).named
  · intro id
    have named : map.nameOf? .ovdc id = Note.lastName notes id := by
      rw [ResourceMap.nameOf?_eq, replayed, Note.nameIn_replay]
    exact congrArg Except.ok named
  · exact replayed ▸ Note.ordered_replay .ovdc notes
  · intro name id found
    have last : TrackedResource.lastNamed? (map.entries .ovdc) name = some id := Except.ok.inj found
    obtain ⟨named, unshared⟩ := (TrackedResource.lastNamed?_eq_some_iff (valid.entries .ovdc).ids).mp last
    exact ⟨congrArg Except.ok named, unshared⟩

/-- An `ovdc` that vanishes and comes back behind another one, under the name that the other has taken. -/
def reappearance : List TrackingCall :=
  [.detect (DirectoryTables.directory ⟨[], []⟩) (.text "ovdc") "org" "first" none,
    .upsert (.text "ovdc") "B" "shared", .remove (.text "catalog") "B", .upsert (.text "ovdc") "A" "shared"]

theorem run_tracks_reappearance :
    let before : ResourceMap := ⟨[(.ovdc, [⟨.ovdc, "A", "first"⟩, ⟨.ovdc, "B", "second"⟩])]⟩
    let after := (run before reappearance).map
    ResourceMap.ofValue before.raw = .ok before ∧
    after.find (.text "ovdc") "A" = .ok (some "shared") ∧
    (after.findId (.text "ovdc") "shared" = .ok (some "A") ∧
      ∀ other ∈ after.behind .ovdc "A", other.name ≠ "shared") := by
  intro before after
  have accepted : ResourceMap.ofValue before.raw = .ok before := rfl
  have tracks := run_tracks accepted reappearance
  have last : after.findId (.text "ovdc") "shared" = .ok (some "A") := rfl
  exact ⟨accepted, tracks.2.2.2.1 "A", last, (tracks.2.2.2.2.2 "shared" "A" last).2⟩

end History

end ClusterLedger
