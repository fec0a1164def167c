import ClusterLedger.Proofs.Actions
import ClusterLedger.Resource

namespace ClusterLedger

inductive Step where
  | entry (name : String)
  | member
  deriving DecidableEq, Repr

inductive DifferAt (name : String) (old new : Option Value) : Value → Value → Prop
  | entries {es es' : List (Value × Value)} (before : Value.lookup name es = old)
    (after : Value.lookup name es' = new) (others : ∀ key, key ≠ name → Value.lookup key es' = Value.lookup key es) :
    DifferAt name old new (.resource es) (.resource es')

/-- The second value is the first with one entry more: of this name, in the object that the path leads to. -/
inductive Gains (name : String) (added : Value) : List Step → Value → Value → Prop
  | here {a b : Value} (differ : DifferAt name none (some added) a b) : Gains name added [] a b
  | under {step : String} {path : List Step} {a b part part' : Value} (gains : Gains name added path part part')
    (differ : DifferAt step (some part) (some part') a b) : Gains name added (.entry step :: path) a b
  | member {path : List Step} {part part' : Value} (before after : List Value)
    (gains : Gains name added path part part') :
    Gains name added (.member :: path) (.list (before ++ part :: after)) (.list (before ++ part' :: after))

namespace Gains

variable {name step : String} {added : Value} {path : List Step} {a b : Value}

theorem differ_of_nil (gains : Gains name added [] a b) : DifferAt name none (some added) a b := by
  cases gains with
  | here differ => exact differ

theorem under_entry (gains : Gains name added (.entry step :: path) a b) :
    ∃ part part', Gains name added path part part' ∧ DifferAt step (some part) (some part') a b := by
  cases gains with
  | under gains differ => exact ⟨_, _, gains, differ⟩

end Gains

namespace DifferAt

variable {name : String} {old new : Option Value} {a b : Value}

theorem missing {entries : List (Value × Value)} (absent : Value.lookup name entries = none) (v : Value) :
    DifferAt name none (some v) (.resource entries) (.resource ((.text name, v) :: entries)) :=
  .entries absent (if_pos rfl) fun _ other => if_neg other.symm

theorem changed (name : String) (v v' : Value) (entries : List (Value × Value)) :
    DifferAt name (some v) (some v') (.resource ((.text name, v) :: entries))
      (.resource ((.text name, v') :: entries)) := by
  refine .entries (if_pos rfl) (if_pos rfl) fun key other => ?_
  rw [Value.lookup, Value.lookup, if_neg other.symm, if_neg other.symm]

theorem behind {entries entries' : List (Value × Value)} {key : String}
    (differ : DifferAt name old new (.resource entries) (.resource entries')) (other : key ≠ name) (v : Value) :
    DifferAt name old new (.resource ((.text key, v) :: entries)) (.resource ((.text key, v) :: entries')) := by
  cases differ with
  | entries before after others =>
    refine .entries ((if_neg other).trans before) ((if_neg other).trans after) fun asked different => ?_
    rw [Value.lookup, Value.lookup, others asked different]

theorem truthy (differ : DifferAt name old new a b) : a.truthy = true ∧ b.truthy = true := by
  cases differ
  exact ⟨rfl, rfl⟩

theorem symm (differ : DifferAt name old new a b) : DifferAt name new old b a := by
  cases differ with
  | entries before after others => exact .entries after before fun key other => (others key other).symm

theorem counts {v : Value} (differ : DifferAt name old (some v) a b) (guise : Guise) : guise.counts b = true := by
  cases differ with
  | @entries es es' before after others =>
    cases guise with
    | client => rfl
    | standIn =>
      cases es' with
      | nil => cases after
      | cons => rfl

/-- What keeps the client from reading one of the objects keeps it from reading the other, unless it was added. -/
theorem obstructs (differ : DifferAt name old new a b)
    (free : name ≠ Resource.obstructingField ∨ old.isSome = new.isSome) (guise : Guise) :
    ∃ es es', a = .resource es ∧ b = .resource es' ∧ guise.obstructs es' = guise.obstructs es := by
  cases differ with
  | @entries es es' before after others =>
    refine ⟨es, es', rfl, rfl, ?_⟩
    cases guise with
    | standIn => rfl
    | client =>
      show (Value.lookup _ es').isSome = (Value.lookup _ es).isSome
      by_cases own : name = Resource.obstructingField
      · rw [← own, before, after, free.resolve_left (not_not.mpr own)]
      · rw [others _ (Ne.symm own)]

theorem field_of_ne (differ : DifferAt name old new a b) {key : String} (other : key ≠ name) :
    Resource.field b key = Resource.field a key := by
  cases differ with
  | entries _ _ others => rw [Resource.field, Resource.field, others key other]

theorem part_of_ne (differ : DifferAt name old new a b) {key : String} (other : key ≠ name) :
    Resource.part b key = Resource.part a key := by
  cases differ with
  | entries _ _ others => rw [Resource.part, Resource.part, others key other]

theorem getOr_of_ne (differ : DifferAt name old new a b)
    (free : name ≠ Resource.obstructingField ∨ old.isSome = new.isSome) {key : String} (other : key ≠ name)
    (default : Value) (guise : Guise := .client) :
    Resource.getOr b key default guise = Resource.getOr a key default guise := by
  obtain ⟨_, _, rfl, rfl, obstructed⟩ := differ.obstructs free guise
  cases differ with
  | entries _ _ others => rw [Resource.getOr, Resource.getOr, others key other, obstructed]

theorem get_of_ne (differ : DifferAt name old new a b)
    (free : name ≠ Resource.obstructingField ∨ old.isSome = new.isSome) {key : String} (other : key ≠ name)
    (guise : Guise := .client) : Resource.get b key guise = Resource.get a key guise := by
  have same := differ.getOr_of_ne free other .null guise
  cases differ
  exact same

theorem field_old (differ : DifferAt name old new a b) : Resource.field a name = .ok (old.getD .null) := by
  cases differ with
  | entries before => rw [Resource.field, before]

theorem field_new (differ : DifferAt name old new a b) : Resource.field b name = .ok (new.getD .null) := by
  cases differ with
  | entries _ after => rw [Resource.field, after]

theorem part_old (differ : DifferAt name old new a b) : Resource.part a name = (old.getD .null).orElse (.map []) := by
  cases differ with
  | entries before => rw [Resource.part, before]

theorem part_new (differ : DifferAt name old new a b) : Resource.part b name = (new.getD .null).orElse (.map []) := by
  cases differ with
  | entries _ after => rw [Resource.part, after]

theorem getOr_self (differ : DifferAt name old new a b)
    (free : name ≠ Resource.obstructingField ∨ old.isSome = new.isSome) (default : Value)
    (guise : Guise := .client) :
    Agree (fun x y => x = old.getD default ∧ y = new.getD default)
      (Resource.getOr a name default guise) (Resource.getOr b name default guise) := by
  obtain ⟨_, _, rfl, rfl, obstructed⟩ := differ.obstructs free guise
  cases differ with
  | entries before after =>
    rw [Resource.getOr, Resource.getOr, obstructed, before, after]
    split
    · exact .error _
    · exact .ok ⟨rfl, rfl⟩

theorem get_self (differ : DifferAt name old new a b)
    (free : name ≠ Resource.obstructingField ∨ old.isSome = new.isSome) (guise : Guise := .client) :
    Agree (fun x y => x = old.getD .null ∧ y = new.getD .null)
      (Resource.get a name guise) (Resource.get b name guise) := by
  have both := differ.getOr_self free .null guise
  cases differ
  exact both

end DifferAt

namespace Gains

variable {name step : String} {added : Value} {path : List Step} {a b : Value}

theorem truthy (gains : Gains name added path a b) : a.truthy = true ∧ b.truthy = true := by
  cases gains with
  | here differ => exact differ.truthy
  | under _ differ => exact differ.truthy
  | member => simp [Value.truthy]

theorem orElse_old (gains : Gains name added path a b) (v : Value) : a.orElse v = a := if_pos gains.truthy.1

theorem orElse_new (gains : Gains name added path a b) (v : Value) : b.orElse v = b := if_pos gains.truthy.2

theorem field_of_ne (gains : Gains name added (.entry step :: path) a b) {key : String} (other : key ≠ step) :
    Resource.field b key = Resource.field a key := by
  obtain ⟨_, _, _, differ⟩ := gains.under_entry
  exact differ.field_of_ne other

theorem part_of_ne (gains : Gains name added (.entry step :: path) a b) {key : String} (other : key ≠ step) :
    Resource.part b key = Resource.part a key := by
  obtain ⟨_, _, _, differ⟩ := gains.under_entry
  exact differ.part_of_ne other

theorem field (gains : Gains name added (.entry step :: path) a b) :
    Agree (Gains name added path) (Resource.field a step) (Resource.field b step) := by
  obtain ⟨_, _, inner, differ⟩ := gains.under_entry
  rw [differ.field_old, differ.field_new]
  exact .ok inner

theorem part (gains : Gains name added (.entry step :: path) a b) :
    Gains name added path (Resource.part a step) (Resource.part b step) := by
  obtain ⟨_, _, inner, differ⟩ := gains.under_entry
  rw [differ.part_old, differ.part_new, Option.getD_some, Option.getD_some, inner.orElse_old, inner.orElse_new]
  exact inner

theorem getOr (gains : Gains name added (.entry step :: path) a b) (default : Value) (guise : Guise := .client) :
    Agree (Gains name added path) (Resource.getOr a step default guise) (Resource.getOr b step default guise) := by
  obtain ⟨part, part', inner, differ⟩ := gains.under_entry
  refine (differ.getOr_self (.inr rfl) default guise).imp ?_
  rintro _ _ ⟨rfl, rfl⟩
  exact inner

theorem getOr_of_ne (gains : Gains name added (.entry step :: path) a b) {key : String} (other : key ≠ step)
    (default : Value) (guise : Guise := .client) :
    Resource.getOr b key default guise = Resource.getOr a key default guise := by
  obtain ⟨_, _, _, differ⟩ := gains.under_entry
  exact differ.getOr_of_ne (.inr rfl) other default guise

theorem get (gains : Gains name added (.entry step :: path) a b) (guise : Guise := .client) :
    Agree (Gains name added path) (Resource.get a step guise) (Resource.get b step guise) := by
  obtain ⟨part, part', inner, differ⟩ := gains.under_entry
  refine (differ.get_self (.inr rfl) guise).imp ?_
  rintro _ _ ⟨rfl, rfl⟩
  exact inner

theorem get_of_ne (gains : Gains name added (.entry step :: path) a b) {key : String} (other : key ≠ step)
    (guise : Guise := .client) : Resource.get b key guise = Resource.get a key guise := by
  obtain ⟨_, _, _, differ⟩ := gains.under_entry
  exact differ.get_of_ne (.inr rfl) other guise

end Gains
end ClusterLedger
