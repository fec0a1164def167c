import ClusterLedger.Cluster.Machine
import ClusterLedger.Proofs.Secrecy.ServerMetadata

namespace ClusterLedger

namespace Value

def under? (key : String) : Value → Option Value
  | map entries => lookup key entries
  | resource entries => lookup key entries
  | _ => none

def at? : List String → Value → Option Value
  | [], v => some v
  | key :: rest, v => (v.under? key).bind (at? rest)

def given? (v : Value) (key : String) : Option Value := (v.under? key).filter truthy

theorem orElse_eq_given? (v default : Value) (key : String) :
    ((v.under? key).getD .null).orElse default = (v.given? key).getD default := by
  unfold given? orElse
  cases v.under? key with
  | none => rfl
  | some entry => cases counts : entry.truthy <;> simp [counts, Option.filter]

theorem truthy_of_under? {v entry : Value} {key : String} (found : v.under? key = some entry) : v.truthy = true := by
  cases v with
  | map entries =>
    cases entries with
    | nil => cases found
    | cons => rfl
  | resource entries => rfl
  | _ => cases found

theorem under?_of_not_truthy {v : Value} (nothing : v.truthy = false) (key : String) : v.under? key = none := by
  cases found : v.under? key with
  | none => rfl
  | some entry =>
    rw [truthy_of_under? found] at nothing
    cases nothing

def told? (v : Value) (key : String) : Option String :=
  (v.under? key).bind fun entry => (Field.heldText entry).toOption

theorem told?_eq_some {v : Value} {key text : String} :
    v.told? key = some text ↔ ∃ entry, v.under? key = some entry ∧ Field.heldText entry = .ok text := by
  unfold told?
  cases v.under? key with
  | none => simp
  | some entry =>
    cases held : Field.heldText entry <;> simp [held, Except.toOption]

theorem truthy_of_told? {v : Value} {key text : String} (told : v.told? key = some text) : v.truthy = true := by
  obtain ⟨entry, there, _⟩ := told?_eq_some.mp told
  exact truthy_of_under? there

theorem at?_singleton (key : String) (v : Value) : v.at? [key] = v.under? key := by
  show (v.under? key).bind some = v.under? key
  cases v.under? key <;> rfl

def members (v : Value) : List Value := (Resource.elements v).toOption.getD []

theorem members_of_elements {v : Value} {items : List Value} (gone : Resource.elements v = .ok items) :
    v.members = items := by
  rw [members, gone]
  rfl

theorem members_of_not_truthy {v : Value} (nothing : v.truthy = false) : v.members = [] := by
  cases v with
  | list items | tuple items | set items | map items | bytes items =>
    have none : items = [] := by simpa [truthy] using nothing
    rw [none]
    rfl
  | text s =>
    have none : s = "" := by simpa [truthy] using nothing
    rw [none]
    rfl
  | resource entries => cases nothing
  | _ => rfl

theorem lookup_append_of_ne {name key : String} (other : name ≠ key) (v : Value) (entries : List (Value × Value)) :
    lookup key (entries ++ [(text name, v)]) = lookup key entries := by
  have apart : text name ≠ text key := fun same => other (Value.text.inj same)
  induction entries with
  | nil => exact lookup_cons apart v []
  | cons entry rest ih =>
    obtain ⟨k, u⟩ := entry
    rw [List.cons_append]
    by_cases own : k = text key
    · subst own
      rw [lookup, lookup, if_pos rfl, if_pos rfl]
    · rw [lookup_cons own, lookup_cons own, ih]

end Value

namespace Resource

theorem lookup_addMissing_of_ne {name key : String} (other : name ≠ key) (v : Value)
    (entries : List (Value × Value)) : Value.lookup key (addMissing name v entries) = Value.lookup key entries := by
  unfold addMissing
  split
  · rfl
  · exact Value.lookup_append_of_ne other v entries

/-- The server only tells the type of what it lists. -/
theorem under?_of_typedItem {apiVersion : Except Failure Value} {kind key : String} {body item : Value}
    (typed : typedItem apiVersion kind body = .ok item) (notKind : "kind" ≠ key) (notVersion : "apiVersion" ≠ key) :
    item.under? key = body.under? key := by
  cases body with
  | map entries =>
    rw [typedItem] at typed
    split at typed
    · cases typed
      exact lookup_addMissing_of_ne notKind _ _
    · obtain ⟨v, _, rfl⟩ := ok_of_map typed
      exact (lookup_addMissing_of_ne notKind _ _).trans (Value.lookup_append_of_ne notVersion v entries)
  | _ => cases typed

/-- What is seen in an object of a value: the value itself, or its parts. -/
def Shows (v seen : Value) : Prop := seen = v ∨ ofPart v = .ok seen

namespace Shows

variable {v seen : Value}

theorem under? (shows : Shows v seen) (key : String) : Option.Rel Shows (v.under? key) (seen.under? key) := by
  have refl (found : Option Value) : Option.Rel Shows found found := by
    cases found with
    | none => exact .none
    | some entry => exact .some (.inl rfl)
  rcases shows with rfl | read
  · exact refl _
  · cases v with
    | map entries =>
      obtain ⟨parts, readAll, rfl⟩ := ok_of_map read
      have same := lookup_ofEntries readAll key
      show Option.Rel Shows (Value.lookup key entries) (Value.lookup key parts)
      cases old : Value.lookup key entries <;> cases new : Value.lookup key parts
      · exact .none
      · simp [old, new] at same
      · simp [old, new] at same
      · rw [old, new] at same
        exact .some (.inr (Option.some.inj same).symm)
    | list items | tuple items =>
      obtain ⟨parts, _, rfl⟩ := ok_of_map read
      exact .none
    | _ =>
      cases read
      exact refl _

theorem heldText (shows : Shows v seen) : Field.heldText seen = Field.heldText v := by
  rcases shows with rfl | read
  · rfl
  · cases v with
    | map entries | list items | tuple items =>
      obtain ⟨parts, _, rfl⟩ := ok_of_map read
      rfl
    | _ =>
      cases read
      rfl

theorem told? (shows : Shows v seen) (key : String) : seen.told? key = v.told? key := by
  have entries := shows.under? key
  unfold Value.told?
  generalize v.under? key = old, seen.under? key = new at entries
  cases entries with
  | none => rfl
  | some shown => exact congrArg Except.toOption shown.heldText

theorem forall₂_of_ofParts {items parts : List Value} (read : ofParts items = .ok parts) :
    List.Forall₂ Shows items parts := by
  induction items generalizing parts with
  | nil =>
    cases read
    exact .nil
  | cons item rest ih =>
    rw [ofParts] at read
    obtain ⟨part, first, later⟩ := ok_of_bind read
    obtain ⟨others, next, same⟩ := ok_of_bind later
    cases same
    exact .cons (.inr first) (ih next)

/-- The members of what is seen are seen of the members, but for mappings, which are gone through otherwise. -/
theorem members (shows : Shows v seen) :
    List.Forall₂ Shows v.members seen.members ∨
      ∃ entries parts, v = .map entries ∧ seen = .resource parts ∧ ofEntries entries = .ok parts := by
  have refl (items : List Value) : List.Forall₂ Shows items items := List.forall₂_same.mpr fun _ _ => .inl rfl
  rcases shows with rfl | read
  · exact .inl (refl _)
  · cases v with
    | map entries =>
      obtain ⟨parts, readAll, rfl⟩ := ok_of_map read
      exact .inr ⟨entries, parts, rfl, rfl, readAll⟩
    | list items | tuple items =>
      obtain ⟨parts, readAll, rfl⟩ := ok_of_map read
      exact .inl (forall₂_of_ofParts readAll)
    | _ =>
      cases read
      exact .inl (refl _)

end Shows

theorem eq_of_field {v found : Value} {name : String} (asked : field v name = .ok found) :
    found = (v.under? name).getD .null := by
  cases v with
  | resource entries => exact (Except.ok.inj asked).symm
  | _ => cases asked

theorem eq_resource_of_field {v found : Value} {name : String} (asked : field v name = .ok found) :
    ∃ entries, v = .resource entries := by
  cases v with
  | resource entries => exact ⟨entries, rfl⟩
  | _ => cases asked

theorem eq_resource_of_ofValue {body object : Value} (sent : ofValue body = .ok object) :
    ∃ entries, object = .resource entries := by
  cases body with
  | map entries =>
    obtain ⟨kind, _, rest⟩ := ok_of_bind sent
    obtain ⟨typed, _, rest⟩ := ok_of_bind rest
    obtain ⟨parts, _, same⟩ := ok_of_bind rest
    exact ⟨parts, (Except.ok.inj same).symm⟩
  | resource entries => exact ⟨entries, (Except.ok.inj sent).symm⟩
  | _ => cases sent

theorem eq_of_getOr {v default found : Value} {key : String} (asked : getOr v key default = .ok found) :
    found = (v.under? key).getD default := by
  cases v with
  | map entries => exact (Except.ok.inj asked).symm
  | resource entries =>
    have asked : (if (Value.lookup obstructingField entries).isSome then Except.error Failure.unfit
        else .ok ((Value.lookup key entries).getD default)) = .ok found := asked
    split at asked
    · cases asked
    · exact (Except.ok.inj asked).symm
  | _ => cases asked

theorem eq_of_get {v found : Value} {key : String} (asked : get v key = .ok found)
    (plain : ∀ d, v ≠ .document d) : found = (v.under? key).getD .null := by
  cases v with
  | document d => exact absurd rfl (plain d)
  | _ => exact eq_of_getOr asked

theorem eq_some_of_getD {o : Option Value} {found default : Value} (same : found = o.getD default)
    (other : found ≠ default) : o = some found := by
  cases o with
  | none => exact absurd same other
  | some entry => exact congrArg some same.symm

theorem under?_of_field {v found : Value} {name : String} (asked : field v name = .ok found)
    (there : found ≠ .null) : v.under? name = some found :=
  eq_some_of_getD (eq_of_field asked) there

theorem under?_of_getOr {v default found : Value} {key : String} (asked : getOr v key default = .ok found)
    (other : found ≠ default) : v.under? key = some found :=
  eq_some_of_getD (eq_of_getOr asked) other

theorem under?_of_get {v found : Value} {key : String} (asked : get v key = .ok found)
    (plain : ∀ d, found ≠ .document d) (there : found ≠ .null) : v.under? key = some found := by
  refine eq_some_of_getD (eq_of_get asked ?_) there
  rintro d rfl
  obtain ⟨entry, _, rfl⟩ := ok_of_map asked
  cases entry with
  | none => exact there rfl
  | some d => exact plain d rfl

theorem told?_of_get {v found : Value} {key text : String} (asked : get v key = .ok found)
    (held : Field.heldText found = .ok text) : v.told? key = some text := by
  refine Value.told?_eq_some.mpr ⟨found, under?_of_get asked ?_ ?_, held⟩
  · rintro d rfl
    cases held
  · rintro rfl
    cases held

theorem not_truthy_of_get {v found entry : Value} {key : String} (asked : get v key = .ok found)
    (nothing : found.truthy = false) (there : v.under? key = some entry) : entry.truthy = false := by
  have plain : ∀ d, v ≠ .document d := by
    rintro d rfl
    cases there
  have same := eq_of_get asked plain
  rw [there] at same
  obtain rfl : found = entry := same
  exact nothing

/-! Paths lead on from the parts that are asked for. -/

theorem at?_of_field {v found : Value} {name : String} (asked : field v name = .ok found) (key : String)
    (path : List String) : v.at? (name :: key :: path) = found.at? (key :: path) := by
  rw [eq_of_field asked, Value.at?]
  cases v.under? name <;> rfl

theorem at?_of_getOr {v found : Value} {name : String} (asked : getOr v name (.map []) = .ok found) (key : String)
    (path : List String) : v.at? (name :: key :: path) = found.at? (key :: path) := by
  rw [eq_of_getOr asked, Value.at?]
  cases v.under? name <;> rfl

theorem at?_part (entries : List (Value × Value)) (name key : String) (path : List String) :
    (Value.resource entries).at? (name :: key :: path) = (part (.resource entries) name).at? (key :: path) := by
  show (Value.lookup name entries).bind (Value.at? (key :: path)) =
    (((Value.lookup name entries).getD .null).orElse (.map [])).at? (key :: path)
  cases Value.lookup name entries with
  | none => rfl
  | some v =>
    show v.at? (key :: path) = (v.orElse (.map [])).at? (key :: path)
    unfold Value.orElse
    split
    · rfl
    · rename_i nothing
      rw [Value.at?, Value.under?_of_not_truthy (by simpa using nothing)]
      rfl

end Resource

namespace OwnerReference

variable {v : Value} {owner : OwnerReference}

theorem told_of_read (readOwner : read v = .ok owner) :
    v.told? "kind" = some owner.kind ∧ v.told? "name" = some owner.name := by
  unfold read at readOwner
  obtain ⟨apiVersion, _, rest⟩ := ok_of_bind readOwner
  obtain ⟨kind, atKind, rest⟩ := ok_of_bind rest
  obtain ⟨name, atName, rest⟩ := ok_of_bind rest
  obtain ⟨uid, _, rest⟩ := ok_of_bind rest
  obtain ⟨controller, _, rest⟩ := ok_of_bind rest
  have accepted := Checked.toExcept_eq_ok.mp rest
  obtain ⟨_, _, toUid, _, rfl⟩ := Checked.apply_eq_accepted.mp accepted
  obtain ⟨_, _, toName, _, rfl⟩ := Checked.apply_eq_accepted.mp toUid
  obtain ⟨_, _, toKind, nameChecked, rfl⟩ := Checked.apply_eq_accepted.mp toName
  obtain ⟨_, _, toVersion, kindChecked, rfl⟩ := Checked.apply_eq_accepted.mp toKind
  obtain ⟨_, _, made, _, rfl⟩ := Checked.apply_eq_accepted.mp toVersion
  cases made
  have kindHeld := Field.heldText_of_text (Checked.under_eq_accepted.mp kindChecked)
  have nameHeld := Field.heldText_of_text (Checked.under_eq_accepted.mp nameChecked)
  exact ⟨Resource.told?_of_get atKind kindHeld, Resource.told?_of_get atName nameHeld⟩

end OwnerReference

namespace ObjectReference

theorem told_of_read {v default : Value} {ref : ObjectReference} (readRef : read v default = .ok ref) :
    v.told? "name" = some ref.name ∧
      Field.optional Field.text ((v.given? "namespace").getD default) = .accepted ref.ns := by
  unfold read at readRef
  obtain ⟨name, atName, rest⟩ := ok_of_bind readRef
  obtain ⟨ns, atNamespace, rest⟩ := ok_of_bind rest
  obtain ⟨kind, _, rest⟩ := ok_of_bind rest
  obtain ⟨apiVersion, _, rest⟩ := ok_of_bind rest
  obtain ⟨_, _, toKind, _, rfl⟩ := Checked.apply_eq_accepted.mp (Checked.toExcept_eq_ok.mp rest)
  obtain ⟨_, _, toNamespace, _, rfl⟩ := Checked.apply_eq_accepted.mp toKind
  obtain ⟨_, _, toName, namespaceChecked, rfl⟩ := Checked.apply_eq_accepted.mp toNamespace
  obtain ⟨_, _, made, nameChecked, rfl⟩ := Checked.apply_eq_accepted.mp toName
  cases made
  have named := Resource.told?_of_get atName (Field.heldText_of_text (Checked.under_eq_accepted.mp nameChecked))
  have plain : ∀ d, v ≠ .document d := by
    rintro d rfl
    cases named
  rw [← Value.orElse_eq_given?, ← Resource.eq_of_get atNamespace plain]
  exact ⟨named, Checked.under_eq_accepted.mp namespaceChecked⟩

end ObjectReference
end ClusterLedger
