import ClusterLedger.Proofs.Redaction
import ClusterLedger.Projection

namespace ClusterLedger

namespace Assoc

variable {κ α : Type} [DecidableEq κ]

def amend (key : κ) (f : α → α) (entries : List (κ × α)) : List (κ × α) :=
  match find? key entries with
  | some v => set key (f v) entries
  | none => entries

theorem amend_of_some {key : κ} {v : α} {entries : List (κ × α)} (found : find? key entries = some v)
    (f : α → α) : amend key f entries = set key (f v) entries := by
  rw [amend, found]

theorem amend_of_none {key : κ} {entries : List (κ × α)} (absent : find? key entries = none)
    (f : α → α) : amend key f entries = entries := by
  rw [amend, absent]

theorem find?_amend_of_ne {key other : κ} (different : key ≠ other) (f : α → α)
    (entries : List (κ × α)) : find? other (amend key f entries) = find? other entries := by
  cases found : find? key entries with
  | none => rw [amend_of_none found]
  | some v => rw [amend_of_some found, find?_set_of_ne different]

@[simp] theorem amend_amend_self (key : κ) (f g : α → α) (entries : List (κ × α)) :
    amend key f (amend key g entries) = amend key (fun v => f (g v)) entries := by
  cases found : find? key entries with
  | none => rw [amend_of_none found, amend_of_none found, amend_of_none found]
  | some v =>
    rw [amend_of_some found, amend_of_some (find?_set_self ..), amend_of_some found, set_set_self]

theorem mem_keys_of_find? {key : κ} {v : α} {entries : List (κ × α)}
    (found : find? key entries = some v) : key ∈ keys entries :=
  List.mem_map_of_mem (mem_of_find? found)

theorem amend_set_of_ne {key other : κ} (different : key ≠ other) (f : α → α) (value : α)
    (entries : List (κ × α)) :
    amend key f (set other value entries) = set other value (amend key f entries) := by
  cases found : find? key entries with
  | none =>
    rw [amend_of_none found, amend_of_none]
    rw [find?_set_of_ne different.symm, found]
  | some v =>
    have kept : find? key (set other value entries) = some v := by
      rw [find?_set_of_ne different.symm, found]
    rw [amend_of_some found, amend_of_some kept]
    exact (set_comm different.symm (mem_keys_of_find? found) value (f v)).symm

theorem amend_comm {key other : κ} (different : key ≠ other) (f g : α → α) (entries : List (κ × α)) :
    amend key f (amend other g entries) = amend other g (amend key f entries) := by
  have same : find? other (amend key f entries) = find? other entries := find?_amend_of_ne different f entries
  cases found : find? other entries with
  | none => rw [amend_of_none found, amend_of_none (same.trans found)]
  | some v => rw [amend_of_some found, amend_set_of_ne different, amend_of_some (same.trans found)]

theorem amend_set_self (key : κ) (f : α → α) (value : α) (entries : List (κ × α)) :
    amend key f (set key value entries) = set key (f value) (amend key f entries) := by
  rw [amend_of_some (find?_set_self ..), set_set_self]
  cases found : find? key entries with
  | none => rw [amend_of_none found]
  | some v => rw [amend_of_some found, set_set_self]

end Assoc

namespace Document

theorem overwrite_mapping (value : Document) (key : String) (rest : List String)
    (entries : List (String × Document)) :
    overwrite value (key :: rest) (mapping entries) =
      mapping (Assoc.amend key (overwrite value rest) entries) := by
  rw [overwrite, Assoc.amend]
  cases Assoc.find? key entries <;> rfl

theorem overwrite_self (first second : Document) (path : List String) (d : Document) :
    overwrite second path (overwrite first path d) = overwrite second path d := by
  induction path generalizing d with
  | nil => rfl
  | cons key rest ih =>
    cases d with
    | mapping entries =>
      rw [overwrite_mapping, overwrite_mapping, overwrite_mapping, Assoc.amend_amend_self]
      have same : (fun d => overwrite second rest (overwrite first rest d)) = overwrite second rest :=
        funext ih
      rw [same]
    | _ => rfl

/-- A sentinel may take its places in any order: below one of them there is nothing to overwrite. -/
theorem overwrite_comm (sentinel : String) (path other : List String) (d : Document) :
    overwrite (.string sentinel) path (overwrite (.string sentinel) other d) =
      overwrite (.string sentinel) other (overwrite (.string sentinel) path d) := by
  induction path generalizing other d with
  | nil => cases other <;> rfl
  | cons key rest ih =>
    cases other with
    | nil => rfl
    | cons step steps =>
      cases d with
      | mapping entries =>
        simp only [overwrite_mapping]
        by_cases same : key = step
        · subst same
          rw [Assoc.amend_amend_self, Assoc.amend_amend_self]
          have swapped : (fun d => overwrite (.string sentinel) rest (overwrite (.string sentinel) steps d)) =
              fun d => overwrite (.string sentinel) steps (overwrite (.string sentinel) rest d) :=
            funext (ih steps)
          rw [swapped]
        · rw [Assoc.amend_comm same]
      | _ => rfl

/-- The sentinel that a path gets in its turn may as well be there from the start. -/
theorem overwriteAll_overwrite {sentinel : String} {paths : List (List String)} {path : List String}
    (listed : path ∈ paths) (d : Document) :
    overwriteAll (.string sentinel) paths (overwrite (.string sentinel) path d) =
      overwriteAll (.string sentinel) paths d := by
  induction paths generalizing d with
  | nil => cases listed
  | cons first rest ih =>
    show overwriteAll _ rest (overwrite _ first (overwrite _ path d)) = overwriteAll _ rest (overwrite _ first d)
    rcases List.mem_cons.mp listed with rfl | later
    · rw [overwrite_self]
    · rw [overwrite_comm sentinel first path]
      exact ih later _

end Document

namespace RedactionRule

open Document

/-- What stood under a path of the rule does not count. -/
theorem apply_overwrite (rule : RedactionRule) {path : List String} (listed : path ∈ rule.paths)
    (value d : Document) : rule.apply (overwrite value path d) = rule.apply d := by
  unfold apply
  rw [← overwriteAll_overwrite listed (overwrite value path d), overwrite_self, overwriteAll_overwrite listed]

end RedactionRule
end ClusterLedger
