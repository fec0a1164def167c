import ClusterLedger.Cluster.Machine
import ClusterLedger.Proofs.Additions

/-!
Objects with one null more. What is read on the way to it differs by the null alone, and all else is the same: an entry
is null whether it is missing or null, unless a default is asked for.
-/

namespace ClusterLedger

def below (key : String) : Option (List Step) → Option (List Step)
  | some (.entry name :: path) => if name = key then some path else none
  | _ => none

@[simp] theorem below_self (key : String) (path : List Step) :
    below key (some (.entry key :: path)) = some path := if_pos rfl

theorem below_of_ne {key name : String} (other : name ≠ key) (path : List Step) :
    below key (some (.entry name :: path)) = none := if_neg other

def belowAll (keys : List String) (path : Option (List Step)) : Option (List Step) :=
  keys.foldl (fun path key => below key path) path

/-- The same values, or values of which one has a null more where the path leads. -/
def Near (name : String) : Option (List Step) → Value → Value → Prop
  | none => Eq
  | some path => Gains name .null path

namespace Near

variable {name : String} {path : Option (List Step)} {a b : Value}

theorem eq (near : Near name path a b) (past : path = none) : a = b := by
  subst past
  exact near

/-- A null makes something of an empty object, so the objects have to count as something before. -/
theorem counts (near : Near name path a b) {guise : Guise} (held : path = some [] → guise.counts a = true) :
    guise.counts a = guise.counts b := by
  cases path with
  | none => exact congrArg _ near
  | some path =>
    cases near with
    | here differ => rw [held rfl, differ.counts]
    | under _ differ => rw [differ.symm.counts, differ.counts]
    | @member _ _ _ before => cases guise <;> cases before <;> rfl

/-- To the client every object counts. -/
theorem orElse (near : Near name path a b) (v : Value) : Near name path (a.orElse v) (b.orElse v) := by
  cases path with
  | none => exact congrArg (·.orElse v) near
  | some path =>
    rw [Gains.orElse_old near, Gains.orElse_new near]
    exact near

theorem field (near : Near name path a b) (key : String) :
    Agree (Near name (below key path)) (Resource.field a key) (Resource.field b key) := by
  cases path with
  | none =>
    cases near
    exact .refl (fun _ => rfl) _
  | some path =>
    cases near with
    | here differ =>
      by_cases own : key = name
      · subst own
        rw [differ.field_old, differ.field_new]
        exact .ok rfl
      · rw [differ.field_of_ne own]
        exact .refl (fun _ => rfl) _
    | @under step path _ _ _ _ gains differ =>
      by_cases own : step = key
      · subst own
        rw [differ.field_old, differ.field_new, below_self]
        exact .ok gains
      · rw [differ.field_of_ne (Ne.symm own), below_of_ne own]
        exact .refl (fun _ => rfl) _
    | member => exact .error _

theorem part (near : Near name path a b) (key : String) :
    Near name (below key path) (Resource.part a key) (Resource.part b key) := by
  cases path with
  | none =>
    cases near
    exact rfl
  | some path =>
    cases near with
    | here differ =>
      by_cases own : key = name
      · subst own
        rw [differ.part_old, differ.part_new]
        exact rfl
      · rw [differ.part_of_ne own]
        exact rfl
    | @under step path _ _ _ _ gains differ =>
      by_cases own : step = key
      · subst own
        rw [below_self]
        exact (Gains.under gains differ).part
      · rw [differ.part_of_ne (Ne.symm own), below_of_ne own]
        exact rfl
    | member => exact rfl

/-- Only a null that takes the place of a default is told. -/
theorem getOr (near : Near name path a b) (free : name ≠ Resource.obstructingField) {key : String} {default : Value}
    {guise : Guise} (kept : path = some [] → key = name → default = .null) :
    Agree (Near name (below key path)) (Resource.getOr a key default guise) (Resource.getOr b key default guise) := by
  cases path with
  | none =>
    cases near
    exact .refl (fun _ => rfl) _
  | some path =>
    cases near with
    | here differ =>
      by_cases own : key = name
      · subst own
        obtain rfl := kept rfl rfl
        exact (differ.getOr_self (.inl free) _ guise).imp fun _ _ ⟨old, new⟩ => old.trans new.symm
      · rw [differ.getOr_of_ne (.inl free) own default guise]
        exact .refl (fun _ => rfl) _
    | @under step path _ _ _ _ gains differ =>
      have through : Gains name .null (.entry step :: path) a b := .under gains differ
      by_cases own : step = key
      · subst own
        rw [below_self]
        exact through.getOr default guise
      · rw [through.getOr_of_ne (Ne.symm own) default guise, below_of_ne own]
        exact .refl (fun _ => rfl) _
    | member => exact .error _

theorem get (near : Near name path a b) (free : name ≠ Resource.obstructingField) (key : String)
    (guise : Guise := .client) :
    Agree (Near name (below key path)) (Resource.get a key guise) (Resource.get b key guise) := by
  have both : Agree (Near name (below key path)) (Resource.getOr a key .null guise)
      (Resource.getOr b key .null guise) := near.getOr free fun _ _ => rfl
  cases path with
  | none =>
    cases near
    exact .refl (fun _ => rfl) _
  | some path =>
    cases near with
    | here differ => cases differ; exact both
    | under _ differ => cases differ; exact both
    | member => exact both

theorem field_past (near : Near name path a b) {key : String} (past : below key path = none) :
    Agree Eq (Resource.field a key) (Resource.field b key) :=
  (near.field key).imp fun _ _ inner => inner.eq past

theorem get_past (near : Near name path a b) (free : name ≠ Resource.obstructingField) {key : String} {guise : Guise}
    (past : below key path = none) : Agree Eq (Resource.get a key guise) (Resource.get b key guise) :=
  (near.get free key guise).imp fun _ _ inner => inner.eq past

end Near

/-! ### References -/

section

variable {name : String} {path : Option (List Step)} {a b : Value} {guise : Guise}

def referenceEntries : List String := ["name", "namespace", "kind", "apiVersion"]

def ownerEntries : List String := ["apiVersion", "kind", "name", "uid", "controller"]

theorem ObjectReference.read_near (near : Near name path a b) (free : name ≠ Resource.obstructingField)
    (past : ∀ key ∈ referenceEntries, below key path = none) (default : Value) :
    ObjectReference.read a default guise = ObjectReference.read b default guise := by
  apply Agree.eq
  refine (near.get_past free (past "name" (by decide))).bind fun name _ sameName => ?_
  refine (near.get_past free (past "namespace" (by decide))).bind fun ns _ sameNamespace => ?_
  refine (near.get_past free (past "kind" (by decide))).bind fun kind _ sameKind => ?_
  refine (near.get_past free (past "apiVersion" (by decide))).bind fun apiVersion _ sameVersion => ?_
  rw [sameName, sameNamespace, sameKind, sameVersion]
  exact Agree.refl Eq.refl _

/-- A null counts as nothing, as the default does. -/
theorem Near.getOr_false (near : Near name path a b) (free : name ≠ Resource.obstructingField) {key : String}
    (past : below key path = none) :
    Agree (fun x y => guise.counts x = guise.counts y) (Resource.getOr a key (.bool false) guise)
      (Resource.getOr b key (.bool false) guise) := by
  by_cases taken : path = some [] ∧ key = name
  · obtain ⟨rfl, rfl⟩ := taken
    refine ((Gains.differ_of_nil near).getOr_self (.inl free) _ guise).imp fun _ _ ⟨old, new⟩ => ?_
    rw [old, new]
    cases guise <;> rfl
  · refine (near.getOr free fun here own => absurd ⟨here, own⟩ taken).imp fun _ _ inner => ?_
    rw [inner.eq past]

theorem OwnerReference.read_near (near : Near name path a b) (free : name ≠ Resource.obstructingField)
    (past : ∀ key ∈ ownerEntries, below key path = none) :
    OwnerReference.read a guise = OwnerReference.read b guise := by
  apply Agree.eq
  refine (near.get_past free (past "apiVersion" (by decide))).bind fun apiVersion _ sameVersion => ?_
  refine (near.get_past free (past "kind" (by decide))).bind fun kind _ sameKind => ?_
  refine (near.get_past free (past "name" (by decide))).bind fun name _ sameName => ?_
  refine (near.get_past free (past "uid" (by decide))).bind fun uid _ sameUid => ?_
  refine (near.getOr_false free (past "controller" (by decide))).bind fun _ _ sameController => ?_
  rw [sameVersion, sameKind, sameName, sameUid, sameController]
  exact Agree.refl Eq.refl _

theorem Machine.readOwners_member {before after : List Value}
    (same : OwnerReference.read a guise = OwnerReference.read b guise) :
    readOwners (before ++ a :: after) guise = readOwners (before ++ b :: after) guise := by
  induction before with
  | nil =>
    rw [List.nil_append, List.nil_append, readOwners, readOwners, same]
  | cons first rest ih =>
    rw [List.cons_append, List.cons_append, readOwners, readOwners, ih]

end

end ClusterLedger
