import ClusterLedger.Tracking.ResourceMap

namespace ClusterLedger

namespace Field

variable {α κ : Type}

theorem itemsFrom_accepted {check : Value → Checked α} {start : Nat} {items : List Value}
    {checked : List α} (ok : itemsFrom check start items = .accepted checked) :
    ∀ a ∈ checked, ∃ v, check v = .accepted a := by
  induction items generalizing start checked with
  | nil =>
    cases ok
    intro a member
    cases member
  | cons v rest ih =>
    obtain ⟨prepend, others, first, remaining, rfl⟩ := Checked.apply_eq_accepted.mp ok
    obtain ⟨a, head, rfl⟩ := Checked.map_eq_accepted.mp first
    intro b member
    rcases List.mem_cons.mp member with rfl | later
    · exact ⟨v, Checked.under_eq_accepted.mp head⟩
    · exact ih remaining b later

theorem itemsFrom_map {check : Value → Checked α} {raw : α → Value} {items : List α}
    (reads : ∀ a ∈ items, check (raw a) = .accepted a) (start : Nat) :
    itemsFrom check start (items.map raw) = .accepted items := by
  induction items generalizing start with
  | nil => rfl
  | cons a rest ih =>
    have others := ih (fun b member => reads b (List.mem_cons_of_mem a member)) (start + 1)
    rw [List.map_cons, itemsFrom, reads a List.mem_cons_self, others]
    rfl

theorem list_accepted {check : Value → Checked α} {v : Value} {checked : List α}
    (ok : list check v = .accepted checked) : ∀ a ∈ checked, ∃ item, check item = .accepted a := by
  cases v with
  | list items => exact itemsFrom_accepted ok
  | tuple items => exact itemsFrom_accepted ok
  | set items => exact itemsFrom_accepted ok
  | _ => cases ok

theorem entries_accepted {key : Value → Checked κ} {check : Value → Checked α}
    {raw : List (Value × Value)} {checked : List (κ × α)} (ok : entries key check raw = .accepted checked) :
    ∀ entry ∈ checked, ∃ v, check v = .accepted entry.2 := by
  induction raw generalizing checked with
  | nil =>
    cases ok
    intro entry member
    cases member
  | cons pair rest ih =>
    obtain ⟨prepend, others, first, remaining, rfl⟩ := Checked.apply_eq_accepted.mp ok
    obtain ⟨entry, both, rfl⟩ := Checked.map_eq_accepted.mp first
    obtain ⟨_, value, keyed, valued, rfl⟩ := Checked.apply_eq_accepted.mp both
    obtain ⟨k, _, rfl⟩ := Checked.map_eq_accepted.mp keyed
    intro other member
    rcases List.mem_cons.mp member with rfl | later
    · exact ⟨pair.2, Checked.under_eq_accepted.mp valued⟩
    · exact ih remaining other later

theorem entries_map {key : Value → Checked κ} {check : Value → Checked α} (rawKey : κ → Value)
    (raw : α → Value) {items : List (κ × α)} (keys : ∀ k, key (rawKey k) = .accepted k)
    (reads : ∀ entry ∈ items, check (raw entry.2) = .accepted entry.2) :
    entries key check (items.map fun entry => (rawKey entry.1, raw entry.2)) = .accepted items := by
  induction items with
  | nil => rfl
  | cons entry rest ih =>
    have others := ih fun other member => reads other (List.mem_cons_of_mem entry member)
    rw [List.map_cons, entries, keys, reads entry List.mem_cons_self, others]
    rfl

theorem mapping_accepted [DecidableEq κ] {key : Value → Checked κ} {check : Value → Checked α} {v : Value}
    {checked : List (κ × α)} (ok : mapping key check v = .accepted checked) :
    Assoc.Distinct checked ∧ ∀ entry ∈ checked, ∃ v, check v = .accepted entry.2 := by
  cases v with
  | map raw =>
    obtain ⟨listed, read, rfl⟩ := Checked.map_eq_accepted.mp ok
    have nothing : Assoc.Distinct ([] : List (κ × α)) := List.nodup_nil
    refine ⟨Assoc.distinct_overlay nothing listed, ?_⟩
    intro entry member
    rcases Assoc.mem_of_mem_overlay member with mine | none
    · exact entries_accepted read entry mine
    · cases none
  | _ => cases ok

theorem nonemptyText_accepted {v : Value} {s : String} (ok : nonemptyText v = .accepted s) : s ≠ "" := by
  unfold nonemptyText at ok
  split at ok
  · cases ok
  · rename_i other
    rintro rfl
    exact other ok

theorem required_of_some {fields : Fields} {name : String} {check : Value → Checked α} {v : Value} {a : α}
    (given : fields name = some v) (ok : check v = .accepted a) :
    required fields name check = .accepted a := by
  unfold required
  rw [given]
  exact Checked.under_eq_accepted.mpr ok

theorem required_accepted {fields : Fields} {name : String} {check : Value → Checked α} {a : α}
    (ok : required fields name check = .accepted a) : ∃ v, check v = .accepted a := by
  unfold required at ok
  split at ok
  · exact ⟨_, Checked.under_eq_accepted.mp ok⟩
  · cases ok

end Field

@[simp] theorem ResourceKind.choice_name (kind : ResourceKind) :
    Field.choice choices (.text kind.name) = .accepted kind := by
  cases kind <;> rfl

def TrackedResource.raw (resource : TrackedResource) : Value :=
  .map [(.text "kind", .text resource.kind.name), (.text "id", .text resource.id),
    (.text "name", .text resource.name)]

theorem TrackedResource.check_raw {resource : TrackedResource} (named : resource.id ≠ "") :
    Field.record TrackedResource.check resource.raw = .accepted resource := by
  have nonempty : Field.nonemptyText (.text resource.id) = .accepted resource.id := by
    unfold Field.nonemptyText
    split
    · rename_i empty
      exact absurd (Checked.accepted.inj empty) named
    · rfl
  simp only [raw, Field.record, TrackedResource.check]
  rw [Field.required_of_some rfl (ResourceKind.choice_name resource.kind),
    Field.required_of_some rfl nonempty, Field.required_of_some rfl (rfl : Field.text (.text resource.name) = _)]
  rfl

theorem TrackedResource.id_ne_empty {fields : Fields} {resource : TrackedResource}
    (ok : TrackedResource.check fields = .accepted resource) : resource.id ≠ "" := by
  obtain ⟨_, _, kindAndId, _, rfl⟩ := Checked.apply_eq_accepted.mp ok
  obtain ⟨_, id, ofKind, checkedId, rfl⟩ := Checked.apply_eq_accepted.mp kindAndId
  obtain ⟨_, kind, made, _, rfl⟩ := Checked.apply_eq_accepted.mp ofKind
  cases made
  obtain ⟨v, text⟩ := Field.required_accepted checkedId
  exact Field.nonemptyText_accepted text

namespace ResourceMap

structure Filed (kind : ResourceKind) (entries : List TrackedResource) : Prop where
  kinds : ∀ entry ∈ entries, entry.kind = kind
  ids : (entries.map (·.id)).Nodup
  named : ∀ entry ∈ entries, entry.id ≠ ""

structure Valid (m : ResourceMap) : Prop where
  kinds : Assoc.Distinct m.groups
  filed : ∀ group ∈ m.groups, Filed group.1 group.2

theorem checkGroup_eq_ok {kind : ResourceKind} {seen : List String} {entries : List TrackedResource} :
    checkGroup kind seen entries = .ok () ↔
      (∀ entry ∈ entries, entry.kind = kind ∧ entry.id ∉ seen) ∧ (entries.map (·.id)).Nodup := by
  induction entries generalizing seen with
  | nil => simp [checkGroup]
  | cons entry rest ih =>
    unfold checkGroup
    by_cases own : entry.kind = kind
    · by_cases repeated : entry.id ∈ seen
      · simp [own, repeated]
      · simp only [own, ne_eq, not_true_eq_false, if_false, repeated, ih, List.map_cons, List.nodup_cons,
          List.mem_map, List.mem_cons, forall_eq_or_imp, not_false_eq_true, and_self, true_and, not_or,
          not_exists, not_and]
        constructor
        · rintro ⟨fresh, distinct⟩
          exact ⟨fun other member => ⟨(fresh other member).1, (fresh other member).2.2⟩,
            fun other member => (fresh other member).2.1, distinct⟩
        · rintro ⟨fresh, different, distinct⟩
          exact ⟨fun other member => ⟨(fresh other member).1, different other member, (fresh other member).2⟩,
            distinct⟩
    · simp [own]

theorem checkGroups_eq_ok {groups : List (ResourceKind × List TrackedResource)} :
    checkGroups groups = .ok () ↔ ∀ group ∈ groups, checkGroup group.1 [] group.2 = .ok () := by
  induction groups with
  | nil => simp [checkGroups]
  | cons group rest ih =>
    obtain ⟨kind, entries⟩ := group
    simp only [checkGroups, List.mem_cons, forall_eq_or_imp, ← ih]
    cases checkGroup kind [] entries <;> simp [bind, Except.bind]

theorem ofGroups_eq_ok {groups : List (ResourceKind × List TrackedResource)} {m : ResourceMap} :
    ofGroups groups = .ok m ↔ checkGroups groups = .ok () ∧ m = ⟨groups⟩ := by
  unfold ofGroups
  cases checkGroups groups <;> simp [bind, Except.bind, pure, Except.pure, eq_comm]

theorem ofGroups_of_valid {m : ResourceMap} (valid : m.Valid) : ofGroups m.groups = .ok m := by
  refine ofGroups_eq_ok.mpr ⟨checkGroups_eq_ok.mpr ?_, rfl⟩
  intro group member
  have filed := valid.filed group member
  exact checkGroup_eq_ok.mpr ⟨fun entry inside => ⟨filed.kinds entry inside, List.not_mem_nil⟩, filed.ids⟩

theorem valid_ofValue {v : Value} {m : ResourceMap} (accepted : ofValue v = .ok m) : m.Valid := by
  unfold ofValue at accepted
  cases read : ((Field.mapping (Field.choice ResourceKind.choices)
      (Field.list (Field.record TrackedResource.check)) v).under "resources").toExcept with
  | error failure =>
    rw [read] at accepted
    cases accepted
  | ok groups =>
    rw [read] at accepted
    obtain ⟨checked, rfl⟩ := ofGroups_eq_ok.mp accepted
    obtain ⟨distinct, listed⟩ :=
      Field.mapping_accepted (Checked.under_eq_accepted.mp (Checked.toExcept_eq_ok.mp read))
    refine ⟨distinct, fun group member => ?_⟩
    obtain ⟨own, ids⟩ := checkGroup_eq_ok.mp (checkGroups_eq_ok.mp checked group member)
    refine ⟨fun entry inside => (own entry inside).1, ids, fun entry inside => ?_⟩
    obtain ⟨raw, items⟩ := listed group member
    obtain ⟨item, record⟩ := Field.list_accepted items entry inside
    cases item with
    | map fields => exact TrackedResource.id_ne_empty record
    | _ => cases record

def raw (m : ResourceMap) : Value :=
  .map (m.groups.map fun group => (.text group.1.name, .list (group.2.map TrackedResource.raw)))

def ReadAs (v : Value) (groups : List (ResourceKind × List TrackedResource)) : Prop :=
  Field.mapping (Field.choice ResourceKind.choices) (Field.list (Field.record TrackedResource.check)) v =
    .accepted groups

theorem readAs_raw {groups : List (ResourceKind × List TrackedResource)} (dictionary : Assoc.Distinct groups)
    (named : ∀ group ∈ groups, ∀ entry ∈ group.2, entry.id ≠ "") : ReadAs (raw ⟨groups⟩) groups := by
  have lists : ∀ group ∈ groups, Field.list (Field.record TrackedResource.check)
      (.list (group.2.map TrackedResource.raw)) = .accepted group.2 := by
    intro group member
    apply Field.itemsFrom_map
    intro entry inside
    exact TrackedResource.check_raw (named group member entry inside)
  have read := Field.entries_map (fun kind : ResourceKind => .text kind.name)
    (fun group : List TrackedResource => .list (group.map TrackedResource.raw)) ResourceKind.choice_name lists
  rw [ReadAs, raw, Field.mapping, read]
  exact congrArg Checked.accepted (Assoc.overlay_of_distinct dictionary)

theorem ofValue_of_readAs {v : Value} {groups : List (ResourceKind × List TrackedResource)}
    (read : ReadAs v groups) : ofValue v = ofGroups groups := by
  unfold ofValue
  rw [show Field.mapping _ _ v = _ from read]
  rfl

theorem ofValue_raw {m : ResourceMap} (valid : m.Valid) : ofValue m.raw = .ok m := by
  have read := readAs_raw valid.kinds fun group member => (valid.filed group member).named
  rw [ofValue_of_readAs read]
  exact ofGroups_of_valid valid

/-- The maps that can be read are the valid ones. -/
theorem valid_iff_accepted {m : ResourceMap} : m.Valid ↔ ∃ v, ofValue v = .ok m :=
  ⟨fun valid => ⟨m.raw, ofValue_raw valid⟩, fun ⟨_, accepted⟩ => valid_ofValue accepted⟩

end ResourceMap
end ClusterLedger
