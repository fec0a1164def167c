import ClusterLedger.Proofs.Reordering.Documents

namespace ClusterLedger

namespace Value

mutual

/-- The same value but for the order of entries, in mappings at every depth. -/
inductive Reordered : Value → Value → Prop
  | same (v : Value) : Reordered v v
  | list {items items' : List Value} (each : ItemsReordered items items') : Reordered (list items) (list items')
  | tuple {items items' : List Value} (each : ItemsReordered items items') :
    Reordered (tuple items) (tuple items')
  | map {entries shuffled entries' : List (Value × Value)} (each : EntriesReordered entries shuffled)
    (order : shuffled.Perm entries') : Reordered (map entries) (map entries')
  | document {d d' : Document} (inner : Reordered d.toValue d'.toValue) : Reordered (document d) (document d')

inductive ItemsReordered : List Value → List Value → Prop
  | nil : ItemsReordered [] []
  | cons {v v' : Value} {rest rest' : List Value} (first : Reordered v v') (later : ItemsReordered rest rest') :
    ItemsReordered (v :: rest) (v' :: rest')

inductive EntriesReordered : List (Value × Value) → List (Value × Value) → Prop
  | nil : EntriesReordered [] []
  | cons (key : Value) {v v' : Value} {rest rest' : List (Value × Value)} (first : Reordered v v')
    (later : EntriesReordered rest rest') : EntriesReordered ((key, v) :: rest) ((key, v') :: rest')

end

def textKeys (entries : List (Value × Value)) : List String := entries.filterMap fun entry => entry.1.asText?

mutual

def WellFormed : Value → Prop
  | list items => AllWellFormed items
  | tuple items => AllWellFormed items
  | map entries => (textKeys entries).Nodup ∧ EntriesWellFormed entries
  | document d => d.WellFormed
  | _ => True

def AllWellFormed : List Value → Prop
  | [] => True
  | item :: rest => item.WellFormed ∧ AllWellFormed rest

def EntriesWellFormed : List (Value × Value) → Prop
  | [] => True
  | (_, value) :: rest => value.WellFormed ∧ EntriesWellFormed rest

end

theorem entriesWellFormed_iff {entries : List (Value × Value)} :
    EntriesWellFormed entries ↔ ∀ entry ∈ entries, entry.2.WellFormed := by
  induction entries with
  | nil => simp [EntriesWellFormed]
  | cons entry rest ih => simp [EntriesWellFormed, ih]

end Value

namespace Document

def ofEntry : Value × Value → Except Failure (String × Document)
  | (.text key, v) => (ofValue v).map (key, ·)
  | (key, _) => .error (.malformed (.keyNotText key))

theorem ofEntries_eq_mapM {entries : List (Value × Value)} {done : List (String × Document)}
    (distinct : (Assoc.keys done ++ Value.textKeys entries).Nodup) :
    ofEntries done entries = (entries.mapM ofEntry).map (done ++ ·) := by
  induction entries generalizing done with
  | nil =>
    show _ = Except.ok (done ++ [])
    rw [List.append_nil]
    rfl
  | cons entry rest ih =>
    obtain ⟨k, v⟩ := entry
    rw [List.mapM_cons]
    cases k with
    | text key =>
      have fresh : key ∉ Assoc.keys done := by
        intro present
        exact (List.nodup_append.mp distinct).2.2 key present key List.mem_cons_self rfl
      rw [ofEntries, ofEntry]
      cases ofValue v with
      | error failure => rfl
      | ok item =>
        have later : (Assoc.keys (done ++ [(key, item)]) ++ Value.textKeys rest).Nodup := by
          simpa [Assoc.keys, Value.textKeys, Value.asText?] using distinct
        show ofEntries (Assoc.set key item done) rest = _
        rw [Assoc.set_of_not_mem fresh, ih later]
        cases rest.mapM ofEntry with
        | error failure => rfl
        | ok others =>
          show Except.ok (done ++ [(key, item)] ++ others) = .ok (done ++ (key, item) :: others)
          rw [List.append_assoc]
          rfl
    | _ => rfl

theorem ofEntries_nil {entries : List (Value × Value)} (distinct : (Value.textKeys entries).Nodup) :
    ofEntries [] entries = entries.mapM ofEntry := by
  have first : (Assoc.keys ([] : List (String × Document)) ++ Value.textKeys entries).Nodup := distinct
  rw [ofEntries_eq_mapM first]
  cases entries.mapM ofEntry <;> rfl

theorem distinct_ofEntries {entries : List (Value × Value)} {done es : List (String × Document)}
    (distinct : Assoc.Distinct done) (ok : ofEntries done entries = .ok es) : Assoc.Distinct es := by
  induction entries generalizing done with
  | nil =>
    cases ok
    exact distinct
  | cons entry rest ih =>
    obtain ⟨k, v⟩ := entry
    cases k with
    | text key =>
      obtain ⟨item, _, later⟩ := ok_of_bind ok
      exact ih (Assoc.distinct_set distinct key item) later
    | _ => cases ok

def EntryAlike (entry entry' : String × Document) : Prop := entry.1 = entry'.1 ∧ Alike entry.2 entry'.2

theorem alikeAt_of_forall₂ {es es' : List (String × Document)} (each : List.Forall₂ EntryAlike es es')
    (key : String) : AlikeAt key es es' := by
  induction each with
  | nil => exact .absent rfl rfl
  | @cons entry entry' rest rest' first _ ih =>
    obtain ⟨k, child⟩ := entry
    obtain ⟨k', child'⟩ := entry'
    obtain ⟨rfl, alike⟩ : k = k' ∧ Alike child child' := first
    by_cases own : k = key
    · exact .present (if_pos own) (if_pos own) alike
    · exact ih.of_eq (if_neg own) (if_neg own)

theorem alike_of_reordered {es shuffled es' : List (String × Document)} (distinct : Assoc.Distinct es)
    (distinct' : Assoc.Distinct es') (each : List.Forall₂ EntryAlike es shuffled) (order : shuffled.Perm es') :
    Alike (mapping es) (mapping es') := by
  have left : ∀ entry ∈ es, entry.2.WellFormed :=
    ((List.forall₂_and_left _ _).mp (each.imp fun _ _ both => ⟨both.2.left, both⟩)).1
  have right : ∀ entry ∈ shuffled, entry.2.WellFormed :=
    ((List.forall₂_and_left _ _).mp (each.flip.imp fun _ _ both => ⟨both.2.right, both⟩)).1
  refine alike_mapping ⟨distinct, entriesWellFormed_iff.mpr left⟩
    ⟨distinct', entriesWellFormed_iff.mpr fun entry member => right entry (order.mem_iff.mpr member)⟩ fun key => ?_
  exact (alikeAt_of_forall₂ each key).of_eq rfl
    (Assoc.find?_perm ((Assoc.distinct_perm order).mpr distinct') order key).symm

/-! ### Reading -/

theorem alike_sequence {items items' : List Document} (each : List.Forall₂ Alike items items') :
    Alike (sequence items) (sequence items') := by
  have sorted : sortedItems items = sortedItems items' ∧ AllWellFormed items ∧ AllWellFormed items' := by
    induction each with
    | nil => exact ⟨rfl, trivial, trivial⟩
    | cons first _ ih =>
      obtain ⟨same, left, right⟩ := ih
      exact ⟨by rw [sortedItems, sortedItems, first.sorted, same], ⟨first.left, left⟩, first.right, right⟩
  obtain ⟨same, left, right⟩ := sorted
  exact ⟨left, right, congrArg sequence same⟩

theorem ofEntry_alike (k : Value) {v v' : Value} (alike : OkOrMalformed Alike (ofValue v) (ofValue v')) :
    OkOrMalformed EntryAlike (ofEntry (k, v)) (ofEntry (k, v')) := by
  cases k with
  | text key => exact alike.map fun _ _ below => ⟨rfl, below⟩
  | _ => exact .malformed _ _

/-- Entries that are read alike one by one, and then in another order, make mappings that are alike. -/
theorem ofValue_map {entries shuffled entries' : List (Value × Value)} (distinct : (Value.textKeys entries).Nodup)
    (distinct' : (Value.textKeys entries').Nodup)
    (each : List.Forall₂ (fun entry entry' => OkOrMalformed EntryAlike (ofEntry entry) (ofEntry entry'))
      entries shuffled) (order : shuffled.Perm entries')
    (settled : ∀ entry ∈ shuffled, OkOrMalformed EntryAlike (ofEntry entry) (ofEntry entry)) :
    OkOrMalformed Alike (ofValue (.map entries)) (ofValue (.map entries')) := by
  have none : Assoc.Distinct ([] : List (String × Document)) := List.nodup_nil
  -- The entries are read one by one in their old order first, and then in the new one.
  have both := OkOrMalformed.trans (Both.mapM each)
    (OkOrMalformed.mapM_perm order fun entry member => (settled entry member).self)
  rw [← ofEntries_nil distinct, ← ofEntries_nil distinct'] at both
  rw [ofValue, ofValue]
  refine both.results.map ?_
  rintro es es' ⟨⟨_, first, second⟩, ok, ok'⟩
  exact alike_of_reordered (distinct_ofEntries none ok) (distinct_ofEntries none ok') first second

mutual

theorem ofValue_self : ∀ v : Value, v.WellFormed → OkOrMalformed Alike (ofValue v) (ofValue v)
  | .null, _ => .ok (.refl trivial)
  | .bool _, _ => .ok (.refl trivial)
  | .number _, _ => .ok (.refl trivial)
  | .text _, _ => .ok (.refl trivial)
  | .list items, wellFormed => (ofItems_self items wellFormed).map fun _ _ each => alike_sequence each
  | .tuple items, wellFormed => (ofItems_self items wellFormed).map fun _ _ each => alike_sequence each
  | .map entries, wellFormed => by
    have each := ofEntry_self entries wellFormed.2
    exact ofValue_map wellFormed.1 wellFormed.1 (List.forall₂_same.mpr each) (.refl entries) each
  | .document _, wellFormed => .ok (.refl wellFormed)
  | .bytes _, _ => .malformed _ _
  | .set _, _ => .malformed _ _
  | .date _, _ => .malformed _ _
  | .decimal _, _ => .malformed _ _
  | .sealed, _ => .malformed _ _
  | .convertible _, _ => .malformed _ _
  | .resource _, _ => .malformed _ _

theorem ofItems_self : ∀ items : List Value, Value.AllWellFormed items →
    OkOrMalformed (List.Forall₂ Alike) (ofItems items) (ofItems items)
  | [], _ => .ok .nil
  | v :: rest, wellFormed => by
    refine (ofValue_self v wellFormed.1).bind fun d d' first => ?_
    exact (ofItems_self rest wellFormed.2).bind fun ds ds' later => .ok (.cons first later)

theorem ofEntry_self : ∀ entries : List (Value × Value), Value.EntriesWellFormed entries →
    ∀ entry ∈ entries, OkOrMalformed EntryAlike (ofEntry entry) (ofEntry entry)
  | [], _, _, member => by cases member
  | (k, v) :: rest, wellFormed, entry, member => by
    rcases List.mem_cons.mp member with rfl | later
    · exact ofEntry_alike k (ofValue_self v wellFormed.1)
    · exact ofEntry_self rest wellFormed.2 entry later

end

mutual

theorem ofValue_toValue : ∀ d : Document, d.WellFormed → ofValue d.toValue = .ok d
  | .null, _ => rfl
  | .bool _, _ => rfl
  | .number _, _ => rfl
  | .string _, _ => rfl
  | .sequence items, wellFormed => by
    rw [toValue, ofValue, ofItems_toValues items wellFormed]
    rfl
  | .mapping entries, wellFormed => by
    rw [toValue, ofValue, ofEntries_toEntries entries [] wellFormed.1 wellFormed.2]
    rfl

theorem ofItems_toValues : ∀ items : List Document, AllWellFormed items → ofItems (toValues items) = .ok items
  | [], _ => rfl
  | d :: rest, wellFormed => by
    rw [toValues, ofItems, ofValue_toValue d wellFormed.1, ofItems_toValues rest wellFormed.2]
    rfl

theorem ofEntries_toEntries : ∀ (entries done : List (String × Document)), Assoc.Distinct (done ++ entries) →
    EntriesWellFormed entries → ofEntries done (toEntries entries) = .ok (done ++ entries)
  | [], done, _, _ => by
    rw [List.append_nil]
    rfl
  | (key, d) :: rest, done, distinct, wellFormed => by
    have fresh : key ∉ Assoc.keys done := by
      intro present
      unfold Assoc.Distinct Assoc.keys at distinct
      rw [List.map_append, List.map_cons] at distinct
      exact (List.nodup_append.mp distinct).2.2 _ present _ List.mem_cons_self rfl
    rw [toEntries, ofEntries, ofValue_toValue d wellFormed.1]
    show ofEntries (Assoc.set key d done) (toEntries rest) = _
    rw [List.append_cons] at distinct ⊢
    rw [Assoc.set_of_not_mem fresh]
    exact ofEntries_toEntries rest _ distinct wellFormed.2

end

@[simp] theorem textKeys_toEntries (entries : List (String × Document)) :
    Value.textKeys (toEntries entries) = Assoc.keys entries := by
  induction entries with
  | nil => rfl
  | cons entry rest ih => exact congrArg (entry.1 :: ·) ih

mutual

theorem wellFormed_toValue : ∀ d : Document, d.WellFormed → d.toValue.WellFormed
  | .null, _ => trivial
  | .bool _, _ => trivial
  | .number _, _ => trivial
  | .string _, _ => trivial
  | .sequence items, wellFormed => wellFormed_toValues items wellFormed
  | .mapping entries, wellFormed => by
    refine ⟨?_, wellFormed_toEntries entries wellFormed.2⟩
    rw [textKeys_toEntries]
    exact wellFormed.1

theorem wellFormed_toValues : ∀ items : List Document, AllWellFormed items → Value.AllWellFormed (toValues items)
  | [], _ => trivial
  | d :: rest, wellFormed => ⟨wellFormed_toValue d wellFormed.1, wellFormed_toValues rest wellFormed.2⟩

theorem wellFormed_toEntries : ∀ entries : List (String × Document), EntriesWellFormed entries →
    Value.EntriesWellFormed (toEntries entries)
  | [], _ => trivial
  | (_, d) :: rest, wellFormed => ⟨wellFormed_toValue d wellFormed.1, wellFormed_toEntries rest wellFormed.2⟩

end

-- The induction is on how the values are reordered; a value that stays as it is was read above.
mutual

theorem ofValue_of_reordered : ∀ {v v' : Value}, v.Reordered v' → v.WellFormed → v'.WellFormed →
    OkOrMalformed Alike (ofValue v) (ofValue v')
  | _, _, .same v, wellFormed, _ => ofValue_self v wellFormed
  | _, _, .list each, left, right => (ofItems_of_reordered each left right).map fun _ _ => alike_sequence
  | _, _, .tuple each, left, right => (ofItems_of_reordered each left right).map fun _ _ => alike_sequence
  | _, _, @Value.Reordered.map entries shuffled entries' each order, left, right => by
    have inner : Value.EntriesWellFormed shuffled := Value.entriesWellFormed_iff.mpr fun entry member =>
      Value.entriesWellFormed_iff.mp right.2 entry (order.mem_iff.mp member)
    exact ofValue_map left.1 right.1 (ofEntry_of_reordered each left.2 inner) order (ofEntry_self shuffled inner)
  | _, _, @Value.Reordered.document d d' inner, left, right => by
    have read := ofValue_of_reordered inner (wellFormed_toValue d left) (wellFormed_toValue d' right)
    rw [ofValue_toValue d left, ofValue_toValue d' right] at read
    exact read

theorem ofItems_of_reordered : ∀ {items items' : List Value}, Value.ItemsReordered items items' →
    Value.AllWellFormed items → Value.AllWellFormed items' →
    OkOrMalformed (List.Forall₂ Alike) (ofItems items) (ofItems items')
  | _, _, .nil, _, _ => .ok .nil
  | _, _, .cons first later, left, right => by
    refine (ofValue_of_reordered first left.1 right.1).bind fun _ _ one => ?_
    exact (ofItems_of_reordered later left.2 right.2).bind fun _ _ others => .ok (.cons one others)

theorem ofEntry_of_reordered : ∀ {entries shuffled : List (Value × Value)},
    Value.EntriesReordered entries shuffled → Value.EntriesWellFormed entries →
    Value.EntriesWellFormed shuffled →
    List.Forall₂ (fun entry entry' => OkOrMalformed EntryAlike (ofEntry entry) (ofEntry entry')) entries shuffled
  | _, _, .nil, _, _ => .nil
  | _, _, .cons key first later, left, right =>
    .cons (ofEntry_alike key (ofValue_of_reordered first left.1 right.1))
      (ofEntry_of_reordered later left.2 right.2)

end

end Document

/--
Values that differ in the order of entries have one text as their projection, or neither has a projection
and both are malformed.
-/
theorem projectValue_of_reordered {v v' : Value} (reordered : v.Reordered v') (left : v.WellFormed)
    (right : v'.WellFormed) (rule : RedactionRule) (half : Half) :
    (∃ text, projectValue rule half v = .ok text ∧ projectValue rule half v' = .ok text) ∨
    ∃ what what', projectValue rule half v = .error (.malformed what) ∧
      projectValue rule half v' = .error (.malformed what') := by
  have both : OkOrMalformed Eq (projectValue rule half v) (projectValue rule half v') := by
    unfold projectValue
    refine (Document.ofValue_of_reordered reordered left right).bind fun d d' alike => ?_
    exact (alike.projected rule half).bind fun _ _ halves => .ok halves.serialize
  generalize projectValue rule half v = x, projectValue rule half v' = x' at both
  cases both with
  | @ok text _ same => exact Or.inl ⟨text, rfl, congrArg Except.ok same.symm⟩
  | error alike =>
    obtain ⟨what, what', rfl, rfl⟩ := alike
    exact Or.inr ⟨what, what', rfl, rfl⟩

theorem projectValue_of_reordered_cluster :
    let kind : Value × Value := (.text "kind", .text "Cluster")
    let replicas : Value × Value := (.text "replicas", .whole 3)
    let version : Value × Value := (.text "version", .text "v1.28.1")
    let v : Value := .map [kind, (.text "spec", .map [replicas, version])]
    let v' : Value := .map [(.text "spec", .map [version, replicas]), kind]
    v.Reordered v' ∧ v.WellFormed ∧ v'.WellFormed ∧
    ∃ text, projectValue .credentials .spec v = .ok text ∧ projectValue .credentials .spec v' = .ok text := by
  intro kind replicas version v v'
  have inner : (Value.map [replicas, version]).Reordered (.map [version, replicas]) :=
    .map (.cons _ (.same _) (.cons _ (.same _) .nil)) (.swap version replicas [])
  have outer : v.Reordered v' := .map (.cons _ (.same _) (.cons _ inner .nil)) (.swap _ kind [])
  have left : v.WellFormed := by
    simp [v, kind, replicas, version, Value.WellFormed, Value.EntriesWellFormed, Value.textKeys, Value.asText?,
      Value.whole]
  have right : v'.WellFormed := by
    simp [v', kind, replicas, version, Value.WellFormed, Value.EntriesWellFormed, Value.textKeys, Value.asText?,
      Value.whole]
  refine ⟨outer, left, right, ?_⟩
  rcases projectValue_of_reordered outer left right .credentials .spec with same | ⟨what, _, failed, _⟩
  · exact same
  · cases failed

end ClusterLedger
