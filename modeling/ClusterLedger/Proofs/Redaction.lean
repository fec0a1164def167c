import ClusterLedger.Redaction

namespace ClusterLedger
namespace Document

def Masked (sentinel : String) (path : List String) (d : Document) : Prop :=
  d.at? path = none ∨ d.at? path = some (.string sentinel)

@[simp] theorem at?_cons (key : String) (rest : List String) (d : Document) :
    d.at? (key :: rest) = (d.child? key).bind (at? rest) := rfl

theorem isSome_at?_cons {key : String} {rest : List String} {d : Document} :
    (d.at? (key :: rest)).isSome = true ↔
      ∃ child, d.child? key = some child ∧ (child.at? rest).isSome = true := by
  rw [at?_cons]
  cases d.child? key <;> simp

theorem hasKey_eq (key : String) (d : Document) : d.hasKey key = (d.child? key).isSome := by
  cases d <;> rfl

theorem masked_cons {sentinel key : String} {rest : List String} {d : Document} :
    Masked sentinel (key :: rest) d ↔ ∀ child, d.child? key = some child → Masked sentinel rest child := by
  rw [Masked, at?_cons]
  cases d.child? key with
  | none => simp
  | some child => simp [Masked]

/-- Overwriting below a key changes what is under that key and nothing else. -/
theorem child?_overwrite (value : Document) (key : String) (rest : List String) (d : Document)
    (other : String) :
    (overwrite value (key :: rest) d).child? other =
      if key = other then (d.child? other).map (overwrite value rest) else d.child? other := by
  cases d with
  | mapping entries =>
    cases found : Assoc.find? key entries with
    | none =>
      simp only [overwrite, found, child?]
      split
      · rename_i same
        subst same
        rw [found]
        rfl
      · rfl
    | some child =>
      simp only [overwrite, found, child?]
      split
      · rename_i same
        subst same
        rw [Assoc.find?_set_self, found]
        rfl
      · rename_i different
        exact Assoc.find?_set_of_ne different _ _
  | _ => simp [overwrite, child?]

@[simp] theorem at?_overwrite_self (value : Document) (path : List String) (d : Document) :
    (overwrite value path d).at? path = (d.at? path).map fun _ => value := by
  induction path generalizing d with
  | nil => rfl
  | cons key rest ih =>
    rw [at?_cons, at?_cons, child?_overwrite, if_pos rfl]
    cases d.child? key with
    | none => rfl
    | some child => exact ih child

theorem masked_overwrite_self (sentinel : String) (path : List String) (d : Document) :
    Masked sentinel path (overwrite (.string sentinel) path d) := by
  rw [Masked, at?_overwrite_self]
  cases d.at? path with
  | none => exact Or.inl rfl
  | some found => exact Or.inr rfl

/-- A masked path stays masked, be the path overwritten above it, below it or elsewhere. -/
theorem masked_overwrite {sentinel : String} {path : List String} {d : Document}
    (masked : Masked sentinel path d) (other : List String) :
    Masked sentinel path (overwrite (.string sentinel) other d) := by
  induction path generalizing d other with
  | nil =>
    rcases masked with absent | held
    · cases absent
    · have whole : d = .string sentinel := Option.some.inj held
      subst whole
      cases other <;> exact Or.inr rfl
  | cons key rest ih =>
    cases other with
    | nil => exact Or.inl rfl
    | cons step steps =>
      rw [masked_cons] at masked ⊢
      intro child found
      rw [child?_overwrite] at found
      split at found
      · obtain ⟨before, there, rfl⟩ := Option.map_eq_some_iff.mp found
        exact ih (masked before there) steps
      · exact masked child found

@[simp] theorem isMapping_overwrite (value : Document) (key : String) (rest : List String) (d : Document) :
    (overwrite value (key :: rest) d).isMapping = d.isMapping := by
  cases d with
  | mapping entries =>
    simp only [overwrite]
    split <;> rfl
  | _ => rfl

/-- Somewhere before its end a path stands on something that is no mapping. -/
def Crosses : List String → Document → Prop
  | [], _ => False
  | key :: rest, d => d.isMapping = false ∨ ∃ child, d.child? key = some child ∧ Crosses rest child

/-- A path that leads somewhere still does, unless it now crosses what is no mapping. -/
theorem present_overwrite {path : List String} {d : Document}
    (present : (d.at? path).isSome = true ∨ Crosses path d) (sentinel : String) (other : List String) :
    ((overwrite (.string sentinel) other d).at? path).isSome = true ∨
      Crosses path (overwrite (.string sentinel) other d) := by
  induction path generalizing d other with
  | nil => exact Or.inl rfl
  | cons key rest ih =>
    cases other with
    | nil => exact Or.inr (Or.inl rfl)
    | cons step steps =>
      have follow : (d.isMapping = false) ∨ ∃ child, d.child? key = some child ∧
          ((child.at? rest).isSome = true ∨ Crosses rest child) := by
        rcases present with leads | apart | ⟨child, found, crosses⟩
        · obtain ⟨child, found, there⟩ := isSome_at?_cons.mp leads
          exact Or.inr ⟨child, found, Or.inl there⟩
        · exact Or.inl apart
        · exact Or.inr ⟨child, found, Or.inr crosses⟩
      rcases follow with apart | ⟨child, found, below⟩
      · exact Or.inr (Or.inl ((isMapping_overwrite _ step steps d).trans apart))
      · have after := child?_overwrite (.string sentinel) step steps d key
        rw [found] at after
        split at after
        · rcases ih below steps with there | crosses
          · exact Or.inl (isSome_at?_cons.mpr ⟨_, after, there⟩)
          · exact Or.inr (Or.inr ⟨_, after, crosses⟩)
        · rcases below with there | crosses
          · exact Or.inl (isSome_at?_cons.mpr ⟨_, after, there⟩)
          · exact Or.inr (Or.inr ⟨_, after, crosses⟩)

theorem present_of_overwrite {path : List String} {d : Document} {sentinel : String}
    {other : List String} (present : ((overwrite (.string sentinel) other d).at? path).isSome = true) :
    (d.at? path).isSome = true := by
  induction path generalizing d other with
  | nil => rfl
  | cons key rest ih =>
    cases other with
    | nil => cases present
    | cons step steps =>
      obtain ⟨child, found, there⟩ := isSome_at?_cons.mp present
      rw [child?_overwrite] at found
      split at found
      · obtain ⟨before, was, rfl⟩ := Option.map_eq_some_iff.mp found
        exact isSome_at?_cons.mpr ⟨before, was, ih there⟩
      · exact isSome_at?_cons.mpr ⟨child, found, there⟩

theorem entriesWellFormed_iff {entries : List (String × Document)} :
    EntriesWellFormed entries ↔ ∀ entry ∈ entries, entry.2.WellFormed := by
  induction entries with
  | nil => simp [EntriesWellFormed]
  | cons entry rest ih => simp [EntriesWellFormed, ih]

theorem wellFormed_child {d child : Document} {key : String} (wellFormed : d.WellFormed)
    (found : d.child? key = some child) : child.WellFormed := by
  cases d with
  | mapping entries =>
    exact entriesWellFormed_iff.mp wellFormed.2 _ (Assoc.mem_of_find? found)
  | _ => cases found

theorem wellFormed_overwrite {value d : Document} (replaced : value.WellFormed)
    (wellFormed : d.WellFormed) (path : List String) : (overwrite value path d).WellFormed := by
  induction path generalizing d with
  | nil => exact replaced
  | cons key rest ih =>
    cases d with
    | mapping entries =>
      simp only [overwrite]
      cases found : Assoc.find? key entries with
      | none => exact wellFormed
      | some child =>
        refine ⟨Assoc.distinct_set wellFormed.1 _ _, entriesWellFormed_iff.mpr ?_⟩
        intro entry member
        rcases Assoc.mem_of_mem_set member with rfl | old
        · exact ih (wellFormed_child wellFormed found)
        · exact entriesWellFormed_iff.mp wellFormed.2 entry old
    | _ => exact wellFormed

theorem overwriteAll_preserves (kept : Document → Prop) {value : Document} {paths : List (List String)}
    (step : ∀ path ∈ paths, ∀ d, kept d → kept (overwrite value path d)) {d : Document} (before : kept d) :
    kept (overwriteAll value paths d) := by
  induction paths generalizing d with
  | nil => exact before
  | cons path rest ih =>
    have now : kept (overwrite value path d) := step path List.mem_cons_self d before
    exact ih (fun other member => step other (List.mem_cons_of_mem _ member)) now

theorem masked_overwriteAll (sentinel : String) {paths : List (List String)} {path : List String}
    (listed : path ∈ paths) (d : Document) : Masked sentinel path (overwriteAll (.string sentinel) paths d) := by
  induction paths generalizing d with
  | nil => cases listed
  | cons first rest ih =>
    rcases List.mem_cons.mp listed with rfl | later
    · show Masked sentinel path (overwriteAll (.string sentinel) rest (overwrite (.string sentinel) path d))
      exact overwriteAll_preserves (Masked sentinel path) (fun other _ _ masked => masked_overwrite masked other)
        (masked_overwrite_self sentinel path d)
    · exact ih later (overwrite (.string sentinel) first d)

end Document

namespace RedactionRule

open Document

theorem masked_apply (rule : RedactionRule) {path : List String} (listed : path ∈ rule.paths)
    (d : Document) : Masked rule.sentinel path (rule.apply d) :=
  masked_overwriteAll rule.sentinel listed d

theorem wellFormed_apply (rule : RedactionRule) {d : Document} (wellFormed : d.WellFormed) :
    (rule.apply d).WellFormed :=
  overwriteAll_preserves WellFormed
    (fun path _ _ before => wellFormed_overwrite (by simp [WellFormed]) before path) wellFormed

theorem present_apply (rule : RedactionRule) {path : List String} {d : Document}
    (through : ¬Crosses path (rule.apply d)) :
    ((rule.apply d).at? path).isSome = true ↔ (d.at? path).isSome = true := by
  constructor
  · intro after
    have kept : ((rule.apply d).at? path).isSome = true → (d.at? path).isSome = true :=
      overwriteAll_preserves (fun now => (now.at? path).isSome = true → (d.at? path).isSome = true)
        (fun _ _ _ before present => before (present_of_overwrite present)) id
    exact kept after
  · intro before
    have kept : ((rule.apply d).at? path).isSome = true ∨ Crosses path (rule.apply d) :=
      overwriteAll_preserves (fun now => (now.at? path).isSome = true ∨ Crosses path now)
        (fun other _ _ present => present_overwrite present rule.sentinel other) (Or.inl before)
    exact kept.resolve_right through

end RedactionRule
end ClusterLedger
