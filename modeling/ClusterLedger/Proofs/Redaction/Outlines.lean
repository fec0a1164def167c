import ClusterLedger.Proofs.Secrecy.Blanking

/-!
Redaction, completely. What a redacted document has at a path is told by the document and the set of the
rule's paths alone: nothing beyond the end of a path of the rule, the sentinel at the end of one, and what
was there before everywhere else. So neither the order nor the repetition of paths counts.
-/

namespace ClusterLedger
namespace Document

/-- A node without what is below it: a mapping shows its keys, anything else shows itself. -/
inductive Outline where
  | keys (keys : List String)
  | leaf (value : Document)

def outline : Document → Outline
  | mapping entries => .keys (Assoc.keys entries)
  | d => .leaf d

def outlineAt? (path : List String) (d : Document) : Option Outline := (d.at? path).map outline

@[simp] theorem isSome_outlineAt? (path : List String) (d : Document) :
    (d.outlineAt? path).isSome = (d.at? path).isSome := Option.isSome_map

@[simp] theorem outlineAt?_cons (key : String) (rest : List String) (d : Document) :
    d.outlineAt? (key :: rest) = (d.child? key).bind (outlineAt? rest) := by
  rw [outlineAt?, at?_cons, Option.map_bind]
  rfl

def Cut (listed path : List String) (d : Document) : Prop :=
  listed <+: path ∧ listed ≠ path ∧ (d.at? listed).isSome = true

instance (listed path : List String) (d : Document) : Decidable (Cut listed path d) :=
  inferInstanceAs (Decidable (_ ∧ _ ∧ _))

variable {listed path : List String} {d : Document}

theorem cut_cons {key step : String} {rest steps : List String} {child : Document}
    (found : d.child? step = some child) :
    Cut (key :: rest) (step :: steps) d ↔ key = step ∧ Cut rest steps child := by
  unfold Cut
  rw [List.cons_prefix_cons]
  constructor
  · rintro ⟨⟨rfl, within⟩, longer, leads⟩
    rw [at?_cons, found] at leads
    exact ⟨rfl, within, fun same => longer (same ▸ rfl), leads⟩
  · rintro ⟨rfl, within, longer, leads⟩
    rw [at?_cons, found]
    exact ⟨⟨rfl, within⟩, fun same => longer (List.cons.inj same).2, leads⟩

theorem Cut.trans {beyond : List String} (cut : Cut listed path d) (goesOn : path <+: beyond) :
    Cut listed beyond d := by
  refine ⟨cut.1.trans goesOn, ?_, cut.2.2⟩
  rintro rfl
  exact cut.2.1 (cut.1.eq_of_length (Nat.le_antisymm cut.1.length_le goesOn.length_le))

@[simp] theorem outline_overwrite_cons (value : Document) (key : String) (rest : List String) (d : Document) :
    (overwrite value (key :: rest) d).outline = d.outline := by
  cases d with
  | mapping entries =>
    cases found : Assoc.find? key entries with
    | none => simp only [overwrite, found]
    | some child =>
      have present : key ∈ Assoc.keys entries := Assoc.mem_keys_of_find? found
      simp only [overwrite, found, outline, Assoc.keys_set, if_pos present]
  | _ => rfl

/-- One path is overwritten: nothing is left beyond its end, the sentinel stands there, the rest stays. -/
theorem outlineAt?_overwrite (sentinel : String) (listed path : List String) (d : Document) :
    (overwrite (.string sentinel) listed d).outlineAt? path =
      if Cut listed path d then none
      else if listed = path ∧ (d.at? path).isSome = true then some (.leaf (.string sentinel))
      else d.outlineAt? path := by
  induction listed generalizing path d with
  | nil =>
    cases path with
    | nil =>
      have whole : ¬Cut [] [] d := fun cut => cut.2.1 rfl
      rw [if_neg whole, if_pos ⟨rfl, rfl⟩]
      rfl
    | cons step steps =>
      have beyond : Cut [] (step :: steps) d := ⟨List.nil_prefix, Ne.symm (List.cons_ne_nil step steps), rfl⟩
      rw [if_pos beyond]
      rfl
  | cons key rest ih =>
    cases path with
    | nil =>
      have above : ¬Cut (key :: rest) [] d := fun cut => List.cons_ne_nil _ _ (List.prefix_nil.mp cut.1)
      rw [if_neg above, if_neg (fun same => List.cons_ne_nil _ _ same.1)]
      exact congrArg some (outline_overwrite_cons (.string sentinel) key rest d)
    | cons step steps =>
      rw [outlineAt?_cons, outlineAt?_cons, child?_overwrite, at?_cons]
      cases found : d.child? step with
      | none =>
        have nowhere : ¬Cut (key :: rest) (step :: steps) d := by
          rintro ⟨within, _, leads⟩
          rw [(List.cons_prefix_cons.mp within).1, at?_cons, found] at leads
          cases leads
        rw [if_neg nowhere]
        simp
      | some child =>
        simp only [cut_cons found, Option.bind_some]
        by_cases same : key = step
        · subst same
          simpa using ih steps child
        · simp [same]

theorem isSome_at?_overwrite (sentinel : String) (listed path : List String) (d : Document) :
    ((overwrite (.string sentinel) listed d).at? path).isSome = true ↔
      ¬Cut listed path d ∧ (d.at? path).isSome = true := by
  rw [← isSome_outlineAt?, outlineAt?_overwrite, ← isSome_outlineAt?]
  by_cases cut : Cut listed path d
  · simp [cut]
  · rw [if_neg cut, and_iff_right cut]
    split
    · rename_i here
      exact iff_of_true rfl here.2
    · rfl

/-- Once a path is overwritten that does not end before the given one, the others do so as before. -/
theorem cut_overwrite_iff {first path : List String} (sentinel : String) (rest : List (List String))
    (uncut : ¬Cut first path d) :
    (∃ listed ∈ rest, Cut listed path (overwrite (.string sentinel) first d)) ↔
      ∃ listed ∈ first :: rest, Cut listed path d := by
  constructor
  · rintro ⟨listed, member, within, longer, leads⟩
    have before := ((isSome_at?_overwrite sentinel first listed d).mp leads).2
    exact ⟨listed, List.mem_cons_of_mem first member, within, longer, before⟩
  · rintro ⟨listed, member, cut⟩
    have later : listed ∈ rest := by
      rcases List.mem_cons.mp member with rfl | later
      · exact absurd cut uncut
      · exact later
    -- What ends before this path ends before the given one, too.
    have kept : ¬Cut first listed d := fun shorter => uncut (shorter.trans cut.1)
    have leads := (isSome_at?_overwrite sentinel first listed d).mpr ⟨kept, cut.2.2⟩
    exact ⟨listed, later, cut.1, cut.2.1, leads⟩

theorem outlineAt?_overwriteAll (sentinel : String) (paths : List (List String)) (path : List String)
    (d : Document) :
    (overwriteAll (.string sentinel) paths d).outlineAt? path =
      if ∃ listed ∈ paths, Cut listed path d then none
      else if path ∈ paths ∧ (d.at? path).isSome = true then some (.leaf (.string sentinel))
      else d.outlineAt? path := by
  induction paths generalizing d with
  | nil =>
    have uncut : ¬∃ listed ∈ ([] : List (List String)), Cut listed path d := by
      rintro ⟨listed, none, _⟩
      cases none
    rw [if_neg uncut, if_neg (fun listed => List.not_mem_nil listed.1)]
    rfl
  | cons first rest ih =>
    let now := overwrite (.string sentinel) first d
    have applied : overwriteAll (.string sentinel) (first :: rest) d = overwriteAll (.string sentinel) rest now := rfl
    have outline := outlineAt?_overwrite sentinel first path d
    have leads := isSome_at?_overwrite sentinel first path d
    rw [applied, ih now]
    by_cases cut : Cut first path d
    · have absent : ¬(now.at? path).isSome = true := fun there => (leads.mp there).1 cut
      have cuts : ∃ listed ∈ first :: rest, Cut listed path d := ⟨first, List.mem_cons_self, cut⟩
      have elsewhere : ¬(path ∈ rest ∧ (now.at? path).isSome = true) := fun both => absent both.2
      rw [if_pos cut] at outline
      rw [if_pos cuts, if_neg elsewhere, outline]
      exact ite_self none
    · have still : (now.at? path).isSome = true ↔ (d.at? path).isSome = true :=
        leads.trans (and_iff_right cut)
      rw [if_neg cut] at outline
      simp only [now, cut_overwrite_iff sentinel rest cut] at still ⊢
      simp only [still, outline, List.mem_cons]
      by_cases here : first = path
      · by_cases there : (d.at? path).isSome = true <;> simp [here, there]
      · simp [here, Ne.symm here]

theorem overwriteAll_overwrite_comm (sentinel : String) (paths : List (List String)) (path : List String)
    (d : Document) :
    overwriteAll (.string sentinel) paths (overwrite (.string sentinel) path d) =
      overwrite (.string sentinel) path (overwriteAll (.string sentinel) paths d) := by
  induction paths generalizing d with
  | nil => rfl
  | cons first rest ih =>
    calc
      overwriteAll (.string sentinel) rest
          (overwrite (.string sentinel) first (overwrite (.string sentinel) path d))
      _ = overwriteAll (.string sentinel) rest
            (overwrite (.string sentinel) path (overwrite (.string sentinel) first d)) := by
        rw [overwrite_comm]
      _ = overwrite (.string sentinel) path
            (overwriteAll (.string sentinel) rest (overwrite (.string sentinel) first d)) := ih _

/-- With one sentinel, some paths may be overwritten before others or after them. -/
theorem overwriteAll_comm (sentinel : String) (paths others : List (List String)) (d : Document) :
    overwriteAll (.string sentinel) paths (overwriteAll (.string sentinel) others d) =
      overwriteAll (.string sentinel) others (overwriteAll (.string sentinel) paths d) := by
  induction others generalizing d with
  | nil => rfl
  | cons first rest ih =>
    calc
      overwriteAll (.string sentinel) paths
          (overwriteAll (.string sentinel) rest (overwrite (.string sentinel) first d))
      _ = overwriteAll (.string sentinel) rest
            (overwriteAll (.string sentinel) paths (overwrite (.string sentinel) first d)) := ih _
      _ = overwriteAll (.string sentinel) rest
            (overwrite (.string sentinel) first (overwriteAll (.string sentinel) paths d)) := by
        rw [overwriteAll_overwrite_comm]

theorem overwriteAll_of_subset {sentinel : String} {paths others : List (List String)} (listed : others ⊆ paths)
    (value d : Document) :
    overwriteAll (.string sentinel) paths (overwriteAll value others d) =
      overwriteAll (.string sentinel) paths d := by
  induction others generalizing d with
  | nil => rfl
  | cons first rest ih =>
    obtain ⟨member, others⟩ := List.cons_subset.mp listed
    calc
      overwriteAll (.string sentinel) paths (overwriteAll value rest (overwrite value first d))
      _ = overwriteAll (.string sentinel) paths (overwrite value first d) := ih others _
      _ = overwriteAll (.string sentinel) paths (overwrite (.string sentinel) first (overwrite value first d)) :=
        (overwriteAll_overwrite member _).symm
      _ = overwriteAll (.string sentinel) paths (overwrite (.string sentinel) first d) := by rw [overwrite_self]
      _ = overwriteAll (.string sentinel) paths d := overwriteAll_overwrite member d

end Document

namespace RedactionRule

open Document

/-- Some path of the rule leads somewhere and ends before the given one does. -/
def Cuts (rule : RedactionRule) (d : Document) (path : List String) : Prop :=
  ∃ listed ∈ rule.paths, Cut listed path d

instance (rule : RedactionRule) (d : Document) (path : List String) : Decidable (rule.Cuts d path) :=
  inferInstanceAs (Decidable (∃ listed ∈ rule.paths, Cut listed path d))

/--
At every path a redacted document has nothing if a path of the rule that leads somewhere ends before it,
the sentinel if it is itself such a path, and otherwise the kind, the value and the keys that it had. The
order and the repetition of the rule's paths do not count, nor does redacting again.
-/
theorem apply_exactly (rule : RedactionRule) (d : Document) :
    (∀ path, (rule.apply d).outlineAt? path =
      if rule.Cuts d path then none
      else if path ∈ rule.paths ∧ (d.at? path).isSome = true then some (.leaf (.string rule.sentinel))
      else d.outlineAt? path) ∧
    (∀ other : RedactionRule, other.sentinel = rule.sentinel →
      (∀ path, path ∈ other.paths ↔ path ∈ rule.paths) → other.apply d = rule.apply d) ∧
    rule.apply (rule.apply d) = rule.apply d := by
  refine ⟨fun path => outlineAt?_overwriteAll rule.sentinel rule.paths path d, ?_,
    overwriteAll_of_subset (List.Subset.refl rule.paths) _ d⟩
  intro other same listed
  have under : other.paths ⊆ rule.paths := fun path => (listed path).mp
  have above : rule.paths ⊆ other.paths := fun path => (listed path).mpr
  unfold apply
  rw [same]
  calc
    overwriteAll (.string rule.sentinel) other.paths d
    _ = overwriteAll (.string rule.sentinel) other.paths (overwriteAll (.string rule.sentinel) rule.paths d) :=
      (overwriteAll_of_subset above _ d).symm
    _ = overwriteAll (.string rule.sentinel) rule.paths (overwriteAll (.string rule.sentinel) other.paths d) :=
      overwriteAll_comm rule.sentinel other.paths rule.paths d
    _ = overwriteAll (.string rule.sentinel) rule.paths d := overwriteAll_of_subset under _ d

end RedactionRule
end ClusterLedger
