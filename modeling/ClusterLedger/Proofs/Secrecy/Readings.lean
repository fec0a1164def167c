import ClusterLedger.Cluster.Collection
import ClusterLedger.Proofs.Secrecy.Values

namespace ClusterLedger

open Value

structure WrittenAlike (rule : RedactionRule) (v v' : Value) : Prop where
  text : ∀ half, projectValue rule half v = projectValue rule half v'
  kind : v.describedKind = v'.describedKind
  name : v.describedName = v'.describedName

/-- Two objects that lead to the same other objects, and whose documents are written alike. -/
structure ReadAlike (rule : RedactionRule) (r r' : Value) : Prop where
  provider : ∀ name, Collection.providerName r name = Collection.providerName r' name
  controlPlane : ∀ name, NodeGroup.ofControlPlane r name = NodeGroup.ofControlPlane r' name
  deployment : NodeGroup.ofMachineDeployment r = NodeGroup.ofMachineDeployment r'
  document : Agree (WrittenAlike rule) (Collection.document r) (Collection.document r')

/-- Two plain values that are read alike, as single objects and as items of a list. -/
structure ServedAlike (rule : RedactionRule) (body body' : Value) : Prop where
  single : Agree (ReadAlike rule) (Resource.ofValue body) (Resource.ofValue body')
  item : ∀ apiVersion kind,
    Agree (ReadAlike rule) (Resource.typedItem (.ok apiVersion) kind body >>= Resource.ofPart)
      (Resource.typedItem (.ok apiVersion) kind body' >>= Resource.ofPart)

variable {rule : RedactionRule}

theorem WrittenAlike.refl (v : Value) : WrittenAlike rule v v := ⟨fun _ => rfl, rfl, rfl⟩

theorem WrittenAlike.symm {v v' : Value} (alike : WrittenAlike rule v v') : WrittenAlike rule v' v :=
  ⟨fun half => (alike.text half).symm, alike.kind.symm, alike.name.symm⟩

theorem WrittenAlike.trans {u v w : Value} (first : WrittenAlike rule u v)
    (second : WrittenAlike rule v w) : WrittenAlike rule u w :=
  ⟨fun half => (first.text half).trans (second.text half), first.kind.trans second.kind,
    first.name.trans second.name⟩

theorem ReadAlike.refl (r : Value) : ReadAlike rule r r :=
  ⟨fun _ => rfl, fun _ => rfl, rfl, .refl WrittenAlike.refl _⟩

theorem ReadAlike.symm {r r' : Value} (alike : ReadAlike rule r r') : ReadAlike rule r' r :=
  ⟨fun name => (alike.provider name).symm, fun name => (alike.controlPlane name).symm,
    alike.deployment.symm, alike.document.symm.imp fun _ _ same => same.symm⟩

theorem ReadAlike.trans {r s t : Value} (first : ReadAlike rule r s) (second : ReadAlike rule s t) :
    ReadAlike rule r t where
  provider name := (first.provider name).trans (second.provider name)
  controlPlane name := (first.controlPlane name).trans (second.controlPlane name)
  deployment := first.deployment.trans second.deployment
  document := (first.document.trans second.document).imp fun _ _ ⟨_, one, two⟩ => one.trans two

namespace ServedAlike

theorem refl (body : Value) : ServedAlike rule body body :=
  ⟨.refl ReadAlike.refl _, fun _ _ => .refl ReadAlike.refl _⟩

theorem symm {body body' : Value} (alike : ServedAlike rule body body') : ServedAlike rule body' body where
  single := alike.single.symm.imp fun _ _ same => same.symm
  item apiVersion kind := (alike.item apiVersion kind).symm.imp fun _ _ same => same.symm

theorem trans {b c d : Value} (first : ServedAlike rule b c) (second : ServedAlike rule c d) :
    ServedAlike rule b d where
  single := (first.single.trans second.single).imp fun _ _ ⟨_, one, two⟩ => one.trans two
  item apiVersion kind := ((first.item apiVersion kind).trans (second.item apiVersion kind)).imp
    fun _ _ ⟨_, one, two⟩ => one.trans two

end ServedAlike

/-! ### Reading fields of a blanked object -/

namespace Resource

variable {key name : String} {rest : List String}

theorem field_blank (different : key ≠ name) (r : Value) :
    field (r.blank (key :: rest)) name = field r name := by
  cases r with
  | resource entries => simp only [blank, field, lookup_amendEntries_of_ne different]
  | _ => rfl

theorem part_blank (different : key ≠ name) (r : Value) :
    part (r.blank (key :: rest)) name = part r name := by
  cases r with
  | resource entries => simp only [blank, part, lookup_amendEntries_of_ne different]
  | _ => rfl

@[simp] theorem truthy_blank (key : String) (rest : List String) (v : Value) :
    (v.blank (key :: rest)).truthy = v.truthy := by
  have sameLength : ∀ entries : List (Value × Value),
      (amendEntries key (blank rest) entries).isEmpty = entries.isEmpty := by
    intro entries
    cases entries with
    | nil => rfl
    | cons entry rest =>
      obtain ⟨k, u⟩ := entry
      cases k <;> rfl
  cases v with
  | map entries => simp only [blank, truthy, sameLength]
  | _ => rfl

theorem part_blank_self (name key : String) (rest : List String) (r : Value) :
    part (r.blank (name :: key :: rest)) name = (part r name).blank (key :: rest) := by
  cases r with
  | resource entries =>
    simp only [blank, part, lookup_amendEntries_self]
    cases lookup name entries with
    | none => rfl
    | some v =>
      show Value.orElse (v.blank (key :: rest)) (.map []) = (Value.orElse v (.map [])).blank (key :: rest)
      rw [Value.orElse, truthy_blank, Value.orElse]
      cases v.truthy <;> rfl
  | _ => rfl

theorem getOr_blank (different : key ≠ name) (unobstructed : key ≠ obstructingField) (v default : Value) :
    getOr (v.blank (key :: rest)) name default = getOr v name default := by
  cases v with
  | map entries => simp only [blank, getOr, lookup_amendEntries_of_ne different]
  | resource entries =>
    have obstructed : Guise.client.obstructs (amendEntries key (blank rest) entries) = Guise.client.obstructs entries :=
      congrArg Option.isSome (lookup_amendEntries_of_ne unobstructed (blank rest) entries)
    simp only [blank, getOr, lookup_amendEntries_of_ne different, obstructed]
  | _ => rfl

theorem get_blank (different : key ≠ name) (unobstructed : key ≠ obstructingField) (v : Value) :
    get (v.blank (key :: rest)) name = get v name := by
  cases v with
  | document d =>
    cases d with
    | mapping entries =>
      have same := Assoc.find?_amend_of_ne different (Document.overwrite (.string "") rest) entries
      simp only [blank, get, Document.overwrite_mapping, Document.get, Document.asMapping, Except.map, same]
    | _ => rfl
  | map entries => exact getOr_blank different unobstructed (.map entries) .null
  | resource entries => exact getOr_blank different unobstructed (.resource entries) .null
  | _ => rfl

/-! ### Reading a blanked value as an object -/

variable {entries : List (Value × Value)} {f : Value → Value}

theorem kindOf_amend (different : key ≠ "kind") : kindOf (amendEntries key f entries) = kindOf entries := by
  rw [kindOf, kindOf, lookup_amendEntries_of_ne different]

theorem withTypedItems_amend (notItems : key ≠ "items") (notVersion : key ≠ "apiVersion") (kind : String) :
    withTypedItems kind (amendEntries key f entries) =
      (withTypedItems kind entries).map (amendEntries key f) := by
  unfold withTypedItems
  rw [lookup_amendEntries_of_ne notItems, lookup_amendEntries_of_ne notVersion]
  cases itemKind? kind with
  | none => rfl
  | some itemKind =>
    cases lookup "items" entries with
    | none => rfl
    | some items =>
      -- Items are told and typed by other fields than the one that is amended.
      simp only [setEntry_amendEntries notItems]
      split <;>
        · simp only [map_bind]
          rfl

theorem mem_withTypedItems (notItems : key ≠ "items") {kind : String} {typed : List (Value × Value)}
    (ok : withTypedItems kind entries = .ok typed) {v : Value} (member : (Value.text key, v) ∈ typed) :
    (Value.text key, v) ∈ entries := by
  unfold withTypedItems at ok
  split at ok
  · dsimp only at ok
    split at ok
    all_goals
      obtain ⟨members, _, following⟩ := ok_of_bind ok
      obtain ⟨items, _, same⟩ := ok_of_bind following
      cases same
      exact mem_setEntry notItems member
  · cases ok
    exact member

theorem addMissing_amend (different : key ≠ name) (v : Value) :
    addMissing name v (amendEntries key f entries) = amendEntries key f (addMissing name v entries) := by
  have own : amendEntries key f [(.text name, v)] = [(.text name, v)] := by
    rw [amendEntries_cons_text, if_neg (Ne.symm different)]
    rfl
  unfold addMissing
  rw [lookup_amendEntries_of_ne different]
  split
  · rfl
  · rw [amendEntries_append, own]

theorem mem_addMissing (different : key ≠ name) {v u : Value}
    (member : (Value.text key, u) ∈ addMissing name v entries) : (Value.text key, u) ∈ entries := by
  unfold addMissing at member
  split at member
  · exact member
  · simpa [different] using member

theorem typedItem_blank (notKind : key ≠ "kind") (notVersion : key ≠ "apiVersion") (apiVersion : Value)
    (kind : String) (body : Value) :
    typedItem (.ok apiVersion) kind (body.blank (key :: rest)) =
      (typedItem (.ok apiVersion) kind body).map (·.blank (key :: rest)) := by
  cases body with
  | map entries =>
    have version : ∀ f, amendEntries key f (entries ++ [(.text "apiVersion", apiVersion)]) =
        amendEntries key f entries ++ [(.text "apiVersion", apiVersion)] := by
      intro f
      rw [amendEntries_append, amendEntries_cons_text, if_neg (Ne.symm notVersion)]
      rfl
    rw [blank, typedItem, typedItem, lookup_amendEntries_of_ne notVersion, addMissing_amend notKind]
    split
    · rfl
    · show Except.ok (Value.map (addMissing "kind" (.text kind)
          (amendEntries key (blank rest) entries ++ [(.text "apiVersion", apiVersion)]))) = _
      rw [← version, addMissing_amend notKind]
      rfl
  | _ => rfl

theorem plainAt_typedItem (notKind : key ≠ "kind") (notVersion : key ≠ "apiVersion")
    {apiVersion body typed : Value} {kind : String} (isPlain : body.PlainAt (key :: rest))
    (ok : typedItem (.ok apiVersion) kind body = .ok typed) :
    typed.PlainAt (key :: rest) ∧ ∃ entries, typed = .map entries := by
  cases body with
  | map entries =>
    rw [typedItem] at ok
    split at ok
    · cases ok
      refine ⟨fun v member => ?_, _, rfl⟩
      exact isPlain v (mem_addMissing notKind member)
    · cases ok
      refine ⟨fun v member => ?_, _, rfl⟩
      have inside := mem_addMissing notKind member
      have own : (Value.text key, v) ∈ entries := by simpa [notVersion] using inside
      exact isPlain v own
  | _ => cases ok

theorem ofPart_map {entries : List (Value × Value)} {r : Value} (ok : ofPart (.map entries) = .ok r) :
    ∃ parts, r = .resource parts := by
  rw [ofPart] at ok
  obtain ⟨parts, _, same⟩ := ok_of_map ok
  exact ⟨parts, same⟩

theorem item_blank (notKind : key ≠ "kind") (notVersion : key ≠ "apiVersion") {body : Value}
    (isPlain : body.PlainAt (key :: rest)) (apiVersion : Value) (kind : String) :
    (typedItem (.ok apiVersion) kind (body.blank (key :: rest)) >>= ofPart) =
      (typedItem (.ok apiVersion) kind body >>= ofPart).map (·.blank (key :: rest)) := by
  rw [typedItem_blank notKind notVersion]
  cases typed : typedItem (.ok apiVersion) kind body with
  | error failure => rfl
  | ok item => exact ofPart_blank (plainAt_typedItem notKind notVersion isPlain typed).1

theorem item_resource (notKind : key ≠ "kind") (notVersion : key ≠ "apiVersion") {apiVersion body r : Value}
    {kind : String} (isPlain : body.PlainAt (key :: rest))
    (ok : (typedItem (.ok apiVersion) kind body >>= ofPart) = .ok r) :
    (∃ parts, r = .resource parts) ∧ (plain r).PlainAt (key :: rest) := by
  obtain ⟨typed, first, read⟩ := ok_of_bind ok
  obtain ⟨stillPlain, entries, rfl⟩ := plainAt_typedItem notKind notVersion isPlain first
  exact ⟨ofPart_map read, plainAt_ofPart stillPlain read⟩

theorem ofValue_blank (notKind : key ≠ "kind") (notItems : key ≠ "items") (notVersion : key ≠ "apiVersion")
    {body : Value} (isPlain : body.PlainAt (key :: rest)) :
    ofValue (body.blank (key :: rest)) = (ofValue body).map (·.blank (key :: rest)) := by
  cases body with
  | map entries =>
    rw [blank, ofValue, ofValue, kindOf_amend notKind]
    cases kindOf entries with
    | error failure => rfl
    | ok kind =>
      show (do return Value.resource (← ofEntries (← withTypedItems kind _))) =
        (do return Value.resource (← ofEntries (← withTypedItems kind entries)) : Except Failure Value).map _
      rw [withTypedItems_amend notItems notVersion]
      cases known : withTypedItems kind entries with
      | error failure => rfl
      | ok typed =>
        have under : ∀ v, (Value.text key, v) ∈ typed →
            ofPart (v.blank rest) = (ofPart v).map (·.blank rest) :=
          fun v member => ofPart_blank (isPlain v (mem_withTypedItems notItems known member))
        show (do return Value.resource (← ofEntries (amendEntries key (blank rest) typed))) =
          (do return Value.resource (← ofEntries typed) : Except Failure Value).map _
        rw [ofEntries_amend under]
        cases ofEntries typed <;> rfl
  | _ => rfl

theorem ofValue_resource (notItems : key ≠ "items") {body r : Value} (isPlain : body.PlainAt (key :: rest))
    (ok : ofValue body = .ok r) : (∃ parts, r = .resource parts) ∧ (plain r).PlainAt (key :: rest) := by
  cases body with
  | map entries =>
    rw [ofValue] at ok
    obtain ⟨kind, _, following⟩ := ok_of_bind ok
    obtain ⟨typed, known, following⟩ := ok_of_bind following
    obtain ⟨parts, read, same⟩ := ok_of_bind following
    cases same
    have typedPlain : (Value.map typed).PlainAt (key :: rest) :=
      fun v member => isPlain v (mem_withTypedItems notItems known member)
    have whole : ofPart (.map typed) = .ok (.resource parts) := by rw [ofPart, read]; rfl
    exact ⟨⟨parts, rfl⟩, plainAt_ofPart typedPlain whole⟩
  | resource entries =>
    cases ok
    exact ⟨⟨entries, rfl⟩, plainAt_plain isPlain⟩
  | _ => cases ok

end Resource

/-! ### What is told and written of a blanked object -/

namespace Collection

variable {key : String} {f : Value → Value} {entries : List (Value × Value)}

theorem identityMetadata_amend (different : key ≠ "metadata") :
    identityMetadata (amendEntries key f entries) = amendEntries key f (identityMetadata entries) := by
  unfold identityMetadata
  rw [lookup_amendEntries_of_ne different]
  split
  · rw [setEntry_amendEntries different]
  · rfl

theorem mem_identityMetadata (different : key ≠ "metadata") {v : Value}
    (member : (Value.text key, v) ∈ identityMetadata entries) : (Value.text key, v) ∈ entries := by
  unfold identityMetadata at member
  split at member
  · exact mem_setEntry different member
  · exact member

end Collection

variable {rest : List String}

/-- A redacted path in the specification can be blanked before a value is projected. -/
theorem writtenAlike_blank (listed : "spec" :: rest ∈ rule.paths) {entries : List (Value × Value)}
    (isPlain : (Value.map entries).PlainAt ("spec" :: rest)) :
    WrittenAlike rule (.map entries) ((Value.map entries).blank ("spec" :: rest)) where
  text half := by
    unfold projectValue
    rw [Document.ofValue_blank isPlain]
    cases Document.ofValue (.map entries) with
    | error failure => rfl
    | ok d =>
      have same : (Document.overwrite (.string "") ("spec" :: rest) d).projected rule half =
          d.projected rule half := by
        unfold Document.projected
        rw [rule.apply_overwrite listed]
      show (do return Yaml.serialize (← d.projected rule half)) =
        (do return Yaml.serialize (← (Document.overwrite (.string "") ("spec" :: rest) d).projected rule half) :
          Except Failure String)
      rw [same]
  kind := by
    have kind : ∀ f, lookup "kind" (amendEntries "spec" f entries) = lookup "kind" entries :=
      fun f => lookup_amendEntries_of_ne (by decide) f entries
    have legacy : ∀ f, lookup "typemeta" (amendEntries "spec" f entries) = lookup "typemeta" entries :=
      fun f => lookup_amendEntries_of_ne (by decide) f entries
    simp only [blank, describedKind, entries?, Option.bind_eq_bind, Option.bind_some, entryIn?, kind, legacy]
  name := by
    have metadata : ∀ f, lookup "metadata" (amendEntries "spec" f entries) = lookup "metadata" entries :=
      fun f => lookup_amendEntries_of_ne (by decide) f entries
    have legacy : ∀ f, lookup "objectmeta" (amendEntries "spec" f entries) = lookup "objectmeta" entries :=
      fun f => lookup_amendEntries_of_ne (by decide) f entries
    simp only [blank, describedName, entries?, Option.bind_eq_bind, Option.bind_some, entryIn?, metadata,
      legacy]

/-- No reader of an object asks for its user context. -/
theorem readAlike_blank (listed : "spec" :: "userContext" :: rest ∈ rule.paths) {r : Value}
    (isObject : ∃ parts, r = .resource parts)
    (isPlain : (Resource.plain r).PlainAt ("spec" :: "userContext" :: rest)) :
    ReadAlike rule r (r.blank ("spec" :: "userContext" :: rest)) := by
  have metadata : Resource.field (r.blank ("spec" :: "userContext" :: rest)) "metadata" =
      Resource.field r "metadata" := Resource.field_blank (by decide) r
  have status : Resource.part (r.blank ("spec" :: "userContext" :: rest)) "status" =
      Resource.part r "status" := Resource.part_blank (by decide) r
  have spec : Resource.part (r.blank ("spec" :: "userContext" :: rest)) "spec" =
      (Resource.part r "spec").blank ("userContext" :: rest) :=
    Resource.part_blank_self "spec" "userContext" rest r
  have entry : ∀ key default, "userContext" ≠ key →
      Resource.getOr ((Resource.part r "spec").blank ("userContext" :: rest)) key default =
        Resource.getOr (Resource.part r "spec") key default :=
    fun _ default different => Resource.getOr_blank different (by decide) _ default
  have field : ∀ key, "userContext" ≠ key →
      Resource.get ((Resource.part r "spec").blank ("userContext" :: rest)) key =
        Resource.get (Resource.part r "spec") key :=
    fun _ different => Resource.get_blank different (by decide) _
  constructor
  · intro name
    simp only [Collection.providerName, spec, field "infrastructureRef" (by decide)]
  · intro name
    simp only [NodeGroup.ofControlPlane, metadata, spec, status, entry "machineTemplate" _ (by decide),
      field "replicas" (by decide)]
  · simp only [NodeGroup.ofMachineDeployment, metadata, spec, status, entry "template" _ (by decide),
      field "clusterName" (by decide), field "replicas" (by decide)]
  · obtain ⟨parts, rfl⟩ := isObject
    let entries := Collection.identityMetadata (Resource.plainEntries parts)
    have written : Collection.document (.resource parts) = .ok (.map entries) := rfl
    have blanked : Collection.identityMetadata (Resource.plainEntries
        (amendEntries "spec" (blank ("userContext" :: rest)) parts)) =
        amendEntries "spec" (blank ("userContext" :: rest)) entries := by
      rw [Resource.plainEntries_amend (Resource.plain_blank _)]
      exact Collection.identityMetadata_amend (by decide)
    have writtenBlank : Collection.document ((Value.resource parts).blank ("spec" :: "userContext" :: rest)) =
        .ok ((Value.map entries).blank ("spec" :: "userContext" :: rest)) :=
      congrArg (Except.ok ∘ Value.map) blanked
    have stillPlain : (Value.map entries).PlainAt ("spec" :: "userContext" :: rest) :=
      fun v member => isPlain v (Collection.mem_identityMetadata (by decide) member)
    rw [written, writtenBlank]
    exact .ok (writtenAlike_blank listed stillPlain)

theorem servedAlike_blank (listed : "spec" :: "userContext" :: rest ∈ rule.paths) {body : Value}
    (isPlain : body.PlainAt ("spec" :: "userContext" :: rest)) :
    ServedAlike rule body (body.blank ("spec" :: "userContext" :: rest)) := by
  have readOf : ∀ x : Except Failure Value,
      (∀ r, x = .ok r → (∃ parts, r = .resource parts) ∧
        (Resource.plain r).PlainAt ("spec" :: "userContext" :: rest)) →
      Agree (ReadAlike rule) x (x.map (·.blank ("spec" :: "userContext" :: rest))) := by
    intro x known
    cases x with
    | error failure => exact .error failure
    | ok r =>
      obtain ⟨isObject, stillPlain⟩ := known r rfl
      exact .ok (readAlike_blank listed isObject stillPlain)
  constructor
  · rw [Resource.ofValue_blank (by decide) (by decide) (by decide) isPlain]
    exact readOf _ fun r ok => Resource.ofValue_resource (by decide) isPlain ok
  · intro apiVersion kind
    rw [Resource.item_blank (by decide) (by decide) isPlain]
    exact readOf _ fun r ok => Resource.item_resource (by decide) (by decide) isPlain ok

end ClusterLedger
