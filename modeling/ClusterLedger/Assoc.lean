/-!
Association lists that keep their order. Setting a key keeps its place if it has one and appends it
otherwise, so keys stay distinct; an overlay sets the entries of one list over another.
-/

namespace ClusterLedger.Assoc

variable {κ α β : Type} [DecidableEq κ]

def find? (key : κ) : List (κ × α) → Option α
  | [] => none
  | (k, v) :: rest => if k = key then some v else find? key rest

def set (key : κ) (value : α) : List (κ × α) → List (κ × α)
  | [] => [(key, value)]
  | (k, v) :: rest => if k = key then (key, value) :: rest else (k, v) :: set key value rest

def erase (key : κ) (entries : List (κ × α)) : List (κ × α) :=
  entries.filter fun entry => entry.1 ≠ key

def overlay (lower upper : List (κ × α)) : List (κ × α) :=
  upper.foldl (fun entries (key, value) => set key value entries) lower

def keys (entries : List (κ × α)) : List κ := entries.map (·.1)

def Distinct (entries : List (κ × α)) : Prop := (keys entries).Nodup

def contains (key : κ) (entries : List (κ × α)) : Bool := (find? key entries).isSome

def mapValues (f : α → β) (entries : List (κ × α)) : List (κ × β) :=
  entries.map fun (key, value) => (key, f value)

@[simp] theorem find?_set_self (key : κ) (value : α) (entries : List (κ × α)) :
    find? key (set key value entries) = some value := by
  induction entries with
  | nil => simp [set, find?]
  | cons entry rest ih =>
    obtain ⟨k, v⟩ := entry
    by_cases h : k = key <;> simp [set, find?, h, ih]

@[simp] theorem find?_set_of_ne {key other : κ} (h : key ≠ other) (value : α) (entries : List (κ × α)) :
    find? other (set key value entries) = find? other entries := by
  induction entries with
  | nil => simp [set, find?, h]
  | cons entry rest ih =>
    obtain ⟨k, v⟩ := entry
    by_cases hk : k = key
    · subst hk
      simp [set, find?, h]
    · by_cases ho : k = other
      · subst ho
        simp [set, find?, hk]
      · simp [set, find?, hk, ho, ih]

@[simp] theorem find?_eq_none {key : κ} {entries : List (κ × α)} :
    find? key entries = none ↔ key ∉ keys entries := by
  induction entries with
  | nil => simp [find?, keys]
  | cons entry rest ih =>
    obtain ⟨k, v⟩ := entry
    by_cases h : k = key
    · simp [find?, keys, h]
    · simp only [find?, h, if_false, ih, keys, List.map_cons, List.mem_cons]
      simp [Ne.symm h]

@[simp] theorem find?_erase_self (key : κ) (entries : List (κ × α)) : find? key (erase key entries) = none := by
  rw [find?_eq_none]
  simp [erase, keys]

@[simp] theorem find?_erase_of_ne {key other : κ} (h : key ≠ other) (entries : List (κ × α)) :
    find? other (erase key entries) = find? other entries := by
  induction entries with
  | nil => rfl
  | cons entry rest ih =>
    obtain ⟨k, v⟩ := entry
    by_cases hk : k = key
    · have absent : ¬k = other := fun ho => h (hk.symm.trans ho)
      simp only [erase, List.filter_cons, find?, absent, if_false]
      simpa [hk, erase] using ih
    · by_cases ho : k = other
      · simp [erase, find?, ho, Ne.symm h]
      · simp only [find?, ho, if_false]
        rw [← ih]
        simp [erase, find?, hk, ho]

@[simp] theorem keys_cons {κ α : Type} (entry : κ × α) (rest : List (κ × α)) :
    keys (entry :: rest) = entry.1 :: keys rest := rfl

theorem keys_set (key : κ) (value : α) (entries : List (κ × α)) :
    keys (set key value entries) =
      if key ∈ keys entries then keys entries else keys entries ++ [key] := by
  induction entries with
  | nil => simp [set, keys]
  | cons entry rest ih =>
    obtain ⟨k, v⟩ := entry
    by_cases h : k = key
    · simp [set, keys_cons, h]
    · by_cases member : key ∈ keys rest
      · simp [set, keys_cons, h, ih, member]
      · simp [set, keys_cons, h, ih, member, Ne.symm h]

theorem distinct_set {entries : List (κ × α)} (distinct : Distinct entries) (key : κ) (value : α) :
    Distinct (set key value entries) := by
  unfold Distinct at distinct ⊢
  rw [keys_set]
  split
  · exact distinct
  · rename_i absent
    rw [List.nodup_append]
    refine ⟨distinct, by simp, ?_⟩
    intro k member other single same
    have last : other = key := List.mem_singleton.mp single
    exact absent (last ▸ same ▸ member)

@[simp] theorem mem_keys_set {key other : κ} {value : α} {entries : List (κ × α)} :
    other ∈ keys (set key value entries) ↔ other = key ∨ other ∈ keys entries := by
  rw [keys_set]
  split
  · rename_i present
    constructor
    · exact Or.inr
    · rintro (rfl | member)
      · exact present
      · exact member
  · simp [or_comm]

@[simp] theorem mem_keys_erase {key other : κ} {entries : List (κ × α)} :
    other ∈ keys (erase key entries) ↔ other ≠ key ∧ other ∈ keys entries := by
  simp only [keys, erase, List.mem_map, List.mem_filter, decide_eq_true_eq]
  constructor
  · rintro ⟨entry, ⟨member, different⟩, rfl⟩
    exact ⟨different, entry, member, rfl⟩
  · rintro ⟨different, entry, member, rfl⟩
    exact ⟨entry, ⟨member, different⟩, rfl⟩

theorem erase_of_not_mem {key : κ} {entries : List (κ × α)} (absent : key ∉ keys entries) :
    erase key entries = entries := by
  apply List.filter_eq_self.mpr
  intro entry member
  have different : entry.1 ≠ key := by
    rintro rfl
    exact absent (List.mem_map_of_mem member)
  simpa using different

@[simp] theorem mem_keys_overlay {key : κ} {lower upper : List (κ × α)} :
    key ∈ keys (overlay lower upper) ↔ key ∈ keys upper ∨ key ∈ keys lower := by
  induction upper generalizing lower with
  | nil => simp [overlay, keys]
  | cons entry rest ih =>
    have step : key ∈ keys (overlay lower (entry :: rest)) ↔
        key ∈ keys rest ∨ key ∈ keys (set entry.1 entry.2 lower) := ih
    rw [mem_keys_set] at step
    rw [keys_cons, List.mem_cons]
    exact step.trans (or_left_comm.trans or_assoc.symm)

@[simp] theorem contains_eq_true {key : κ} {entries : List (κ × α)} :
    contains key entries = true ↔ key ∈ keys entries := by
  rw [contains, Option.isSome_iff_ne_none, ne_eq, find?_eq_none, Decidable.not_not]

/-- With distinct keys an overlay shows what is laid on top, and below it what was there. -/
theorem find?_overlay {upper : List (κ × α)} (distinct : Distinct upper) (lower : List (κ × α))
    (key : κ) : find? key (overlay lower upper) = (find? key upper).or (find? key lower) := by
  induction upper generalizing lower with
  | nil => rfl
  | cons entry rest ih =>
    obtain ⟨k, v⟩ := entry
    have parts := List.nodup_cons.mp distinct
    have step : find? key (overlay lower ((k, v) :: rest)) =
        (find? key rest).or (find? key (set k v lower)) := ih parts.2 (set k v lower)
    rw [step]
    by_cases same : k = key
    · subst same
      rw [find?_eq_none.mpr parts.1, find?_set_self]
      simp [find?]
    · rw [find?_set_of_ne same]
      simp [find?, same]

theorem find?_overlay_of_not_mem {key : κ} {upper : List (κ × α)} (absent : key ∉ keys upper)
    (lower : List (κ × α)) : find? key (overlay lower upper) = find? key lower := by
  induction upper generalizing lower with
  | nil => rfl
  | cons entry rest ih =>
    rw [keys_cons, List.mem_cons, not_or] at absent
    have step : find? key (overlay lower (entry :: rest)) = find? key (set entry.1 entry.2 lower) :=
      ih absent.2 (set entry.1 entry.2 lower)
    rw [step, find?_set_of_ne (Ne.symm absent.1)]

theorem find?_overlay_last {key : κ} {later : List (κ × α)} (absent : key ∉ keys later) (value : α)
    (lower earlier : List (κ × α)) :
    find? key (overlay lower (earlier ++ (key, value) :: later)) = some value := by
  have step : overlay lower (earlier ++ (key, value) :: later) =
      overlay (set key value (overlay lower earlier)) later := List.foldl_append
  rw [step, find?_overlay_of_not_mem absent, find?_set_self]

theorem mem_of_find? {key : κ} {value : α} {entries : List (κ × α)}
    (found : find? key entries = some value) : (key, value) ∈ entries := by
  induction entries with
  | nil => cases found
  | cons entry rest ih =>
    obtain ⟨k, v⟩ := entry
    by_cases h : k = key
    · simp only [find?, h, if_true, Option.some.injEq] at found
      simp [h, found]
    · simp only [find?, h, if_false] at found
      exact List.mem_cons_of_mem _ (ih found)

theorem mem_of_mem_set {key : κ} {value : α} {entries : List (κ × α)} {entry : κ × α}
    (member : entry ∈ set key value entries) : entry = (key, value) ∨ entry ∈ entries := by
  induction entries with
  | nil => exact Or.inl (List.mem_singleton.mp member)
  | cons head rest ih =>
    obtain ⟨k, v⟩ := head
    by_cases h : k = key
    · simp only [set, h, if_true, List.mem_cons] at member
      rcases member with first | later
      · exact Or.inl first
      · exact Or.inr (List.mem_cons_of_mem _ later)
    · simp only [set, h, if_false, List.mem_cons] at member
      rcases member with first | later
      · exact Or.inr (first ▸ List.mem_cons_self)
      · exact (ih later).imp_right (List.mem_cons_of_mem _)

theorem mem_of_mem_overlay {lower upper : List (κ × α)} {entry : κ × α}
    (member : entry ∈ overlay lower upper) : entry ∈ upper ∨ entry ∈ lower := by
  induction upper generalizing lower with
  | nil => exact Or.inr member
  | cons head rest ih =>
    rcases ih member with later | earlier
    · exact Or.inl (List.mem_cons_of_mem _ later)
    · rcases mem_of_mem_set earlier with rfl | below
      · exact Or.inl List.mem_cons_self
      · exact Or.inr below

theorem set_of_not_mem {key : κ} {entries : List (κ × α)} (absent : key ∉ keys entries) (value : α) :
    set key value entries = entries ++ [(key, value)] := by
  induction entries with
  | nil => rfl
  | cons head rest ih =>
    rw [keys_cons, List.mem_cons, not_or] at absent
    rw [set, if_neg (Ne.symm absent.1), ih absent.2]
    rfl

@[simp] theorem set_set_self (key : κ) (first second : α) (entries : List (κ × α)) :
    set key second (set key first entries) = set key second entries := by
  induction entries with
  | nil => simp [set]
  | cons entry rest ih =>
    obtain ⟨k, v⟩ := entry
    by_cases h : k = key <;> simp [set, h, ih]

/-- The order of setting two keys counts only if it decides which is appended first. -/
theorem set_comm {key other : κ} (different : key ≠ other) {entries : List (κ × α)}
    (present : other ∈ keys entries) (first second : α) :
    set key first (set other second entries) = set other second (set key first entries) := by
  induction entries with
  | nil => cases present
  | cons entry rest ih =>
    obtain ⟨k, v⟩ := entry
    by_cases isOther : k = other
    · have apart : k ≠ key := fun isKey => different (isKey.symm.trans isOther)
      simp [set, isOther, isOther ▸ apart]
    · have later : other ∈ keys rest := by simpa [keys_cons, Ne.symm isOther] using present
      by_cases isKey : k = key
      · simp [set, isKey, different]
      · simp [set, isKey, isOther, ih later]

theorem overlay_of_distinct {lower upper : List (κ × α)} (distinct : Distinct (lower ++ upper)) :
    overlay lower upper = lower ++ upper := by
  induction upper generalizing lower with
  | nil => exact (List.append_nil lower).symm
  | cons head rest ih =>
    have fresh : head.1 ∉ keys lower := by
      intro present
      unfold Distinct keys at distinct
      rw [List.map_append, List.map_cons] at distinct
      exact (List.nodup_append.mp distinct).2.2 _ present _ List.mem_cons_self rfl
    rw [List.append_cons] at distinct ⊢
    rw [← ih distinct, ← set_of_not_mem fresh]
    rfl

theorem distinct_erase {entries : List (κ × α)} (distinct : Distinct entries) (key : κ) :
    Distinct (erase key entries) :=
  List.Nodup.sublist (List.Sublist.map _ List.filter_sublist) distinct

theorem distinct_overlay {lower : List (κ × α)} (distinct : Distinct lower) (upper : List (κ × α)) :
    Distinct (overlay lower upper) := by
  induction upper generalizing lower with
  | nil => exact distinct
  | cons entry rest ih => exact ih (distinct_set distinct entry.1 entry.2)

theorem find?_of_nodup {key : α → κ} {items : List α} (distinct : (items.map key).Nodup)
    {item : α} (member : item ∈ items) : (items.find? fun other => key other = key item) = some item := by
  induction items with
  | nil => cases member
  | cons first rest ih =>
    have parts := List.nodup_cons.mp distinct
    rw [List.find?_cons]
    rcases List.mem_cons.mp member with rfl | later
    · simp
    · have different : key first ≠ key item := by
        intro same
        exact parts.1 (List.mem_map.mpr ⟨item, later, same.symm⟩)
      simpa [different] using ih parts.2 later

end ClusterLedger.Assoc
