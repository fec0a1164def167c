import ClusterLedger.Proofs.Secrecy.Inquiries

/-!
Metadata that the server assigns. Of the metadata of an object only name, namespace and labels are read,
and only name and namespace are written. Servers whose objects differ in other metadata are asked the same
and the documents of a cluster come out the same, unless there is metadata that cannot be read at all.
-/

namespace ClusterLedger

open ClusterLedger.Action

/-! ### Entries that differ under one key -/

namespace Value

/-- The same entries, but for what stands first under a key: there the values are related by `P`. -/
inductive SameEntriesBut (key : String) (P : Value → Value → Prop) :
    List (Value × Value) → List (Value × Value) → Prop
  | here {v v' : Value} (related : P v v') (rest : List (Value × Value)) :
    SameEntriesBut key P ((text key, v) :: rest) ((text key, v') :: rest)
  | there {k : Value} (other : k ≠ text key) (v : Value) {rest rest' : List (Value × Value)}
    (later : SameEntriesBut key P rest rest') : SameEntriesBut key P ((k, v) :: rest) ((k, v) :: rest')

namespace SameEntriesBut

variable {key : String} {P : Value → Value → Prop} {entries entries' : List (Value × Value)}

theorem lookup_self (same : SameEntriesBut key P entries entries') :
    ∃ v v', P v v' ∧ lookup key entries = some v ∧ lookup key entries' = some v' := by
  induction same with
  | here related rest => exact ⟨_, _, related, if_pos rfl, if_pos rfl⟩
  | there other v _ ih =>
    rw [lookup_cons other, lookup_cons other]
    exact ih

theorem lookup_of_ne (same : SameEntriesBut key P entries entries') {other : String}
    (different : key ≠ other) : lookup other entries = lookup other entries' := by
  have apart : text key ≠ text other := fun same => different (Value.text.inj same)
  induction same with
  | here related rest => rw [lookup_cons apart, lookup_cons apart]
  | @there k _ v _ _ _ ih =>
    by_cases own : k = text other
    · subst own
      rw [lookup, lookup, if_pos rfl, if_pos rfl]
    · rw [lookup_cons own, lookup_cons own, ih]

theorem imp {Q : Value → Value → Prop} (same : SameEntriesBut key P entries entries')
    (weaker : ∀ v v', P v v' → Q v v') : SameEntriesBut key Q entries entries' := by
  induction same with
  | here related rest => exact .here (weaker _ _ related) rest
  | there other v _ ih => exact .there other v ih

theorem append (same : SameEntriesBut key P entries entries') (more : List (Value × Value)) :
    SameEntriesBut key P (entries ++ more) (entries' ++ more) := by
  induction same with
  | here related rest => exact .here related (rest ++ more)
  | there other v _ ih => exact .there other v ih

theorem setEntry_self (same : SameEntriesBut key P entries entries') (value : Value) :
    setEntry (text key) value entries = setEntry (text key) value entries' := by
  have own : (text key).sameKey (text key) = true := sameKey_text.mpr rfl
  induction same with
  | here related rest => rw [setEntry, setEntry, if_pos own, if_pos own]
  | there other v _ ih =>
    have apart : ¬_ := fun same => other (sameKey_text.mp same)
    rw [setEntry, setEntry, if_neg apart, if_neg apart, ih]

theorem setEntry_of_ne (same : SameEntriesBut key P entries entries') {name : String}
    (different : key ≠ name) (value : Value) :
    SameEntriesBut key P (setEntry (text name) value entries) (setEntry (text name) value entries') := by
  induction same with
  | here related rest =>
    have apart : ¬(text key).sameKey (text name) = true :=
      fun same => different (Value.text.inj (sameKey_text.mp same))
    rw [setEntry, setEntry, if_neg apart, if_neg apart]
    exact .here related _
  | @there k other v rest rest' later ih =>
    rw [setEntry, setEntry]
    split
    · exact .there other value later
    · exact .there other v ih

end SameEntriesBut

mutual

def HasTextKeys : Value → Prop
  | list items => AllHaveTextKeys items
  | tuple items => AllHaveTextKeys items
  | map entries => EntriesHaveTextKeys entries
  | _ => True

def AllHaveTextKeys : List Value → Prop
  | [] => True
  | item :: rest => item.HasTextKeys ∧ AllHaveTextKeys rest

def EntriesHaveTextKeys : List (Value × Value) → Prop
  | [] => True
  | (text _, v) :: rest => v.HasTextKeys ∧ EntriesHaveTextKeys rest
  | _ :: _ => False

end

def readKeys : List String := ["name", "namespace", "labels"]

inductive SameIdentity : Value → Value → Prop
  | map {m m' : List (Value × Value)} (shown : ∀ key ∈ readKeys, lookup key m = lookup key m') :
    SameIdentity (map m) (map m')
  | resource {m m' : List (Value × Value)} (shown : ∀ key ∈ readKeys, lookup key m = lookup key m') :
    SameIdentity (resource m) (resource m')

/-- The same body, or mappings that differ in their metadata, which `P` relates. -/
inductive SameButMetadata (P : Value → Value → Prop) : Value → Value → Prop
  | same (body : Value) : SameButMetadata P body body
  | map {entries entries' : List (Value × Value)} (but : SameEntriesBut "metadata" P entries entries') :
    SameButMetadata P (map entries) (map entries')
  | resource {entries entries' : List (Value × Value)}
    (but : SameEntriesBut "metadata" P entries entries') :
    SameButMetadata P (resource entries) (resource entries')

end Value

open Value

/-! ### Reading objects with other metadata -/

namespace Resource

mutual

/-- A value that is not read as a part of an object is unfit for that, because a key in it is no text. -/
theorem ofPart_cases : ∀ v : Value, (v.HasTextKeys ∧ ∃ part, ofPart v = .ok part) ∨
    (¬v.HasTextKeys ∧ ofPart v = .error .unfit)
  | .list items => by
    rw [HasTextKeys, ofPart]
    rcases ofParts_cases items with ⟨keys, parts, read⟩ | ⟨keys, unread⟩
    · exact Or.inl ⟨keys, .list parts, by rw [read]; rfl⟩
    · exact Or.inr ⟨keys, by rw [unread]; rfl⟩
  | .tuple items => by
    rw [HasTextKeys, ofPart]
    rcases ofParts_cases items with ⟨keys, parts, read⟩ | ⟨keys, unread⟩
    · exact Or.inl ⟨keys, .list parts, by rw [read]; rfl⟩
    · exact Or.inr ⟨keys, by rw [unread]; rfl⟩
  | .map entries => by
    rw [HasTextKeys, ofPart]
    rcases ofEntries_cases entries with ⟨keys, parts, read⟩ | ⟨keys, unread⟩
    · exact Or.inl ⟨keys, .resource parts, by rw [read]; rfl⟩
    · exact Or.inr ⟨keys, by rw [unread]; rfl⟩
  | .null => Or.inl ⟨trivial, _, rfl⟩
  | .bool _ => Or.inl ⟨trivial, _, rfl⟩
  | .number _ => Or.inl ⟨trivial, _, rfl⟩
  | .text _ => Or.inl ⟨trivial, _, rfl⟩
  | .bytes _ => Or.inl ⟨trivial, _, rfl⟩
  | .set _ => Or.inl ⟨trivial, _, rfl⟩
  | .date _ => Or.inl ⟨trivial, _, rfl⟩
  | .decimal _ => Or.inl ⟨trivial, _, rfl⟩
  | .sealed => Or.inl ⟨trivial, _, rfl⟩
  | .convertible _ => Or.inl ⟨trivial, _, rfl⟩
  | .document _ => Or.inl ⟨trivial, _, rfl⟩
  | .resource _ => Or.inl ⟨trivial, _, rfl⟩

theorem ofParts_cases : ∀ items : List Value, (AllHaveTextKeys items ∧ ∃ parts, ofParts items = .ok parts) ∨
    (¬AllHaveTextKeys items ∧ ofParts items = .error .unfit)
  | [] => Or.inl ⟨trivial, [], rfl⟩
  | v :: rest => by
    rw [AllHaveTextKeys, ofParts]
    rcases ofPart_cases v with ⟨keys, part, read⟩ | ⟨keys, unread⟩
    · rcases ofParts_cases rest with ⟨others, parts, readAll⟩ | ⟨others, unread⟩
      · exact Or.inl ⟨⟨keys, others⟩, part :: parts, by rw [read, readAll]; rfl⟩
      · exact Or.inr ⟨fun both => others both.2, by rw [read, unread]; rfl⟩
    · exact Or.inr ⟨fun both => keys both.1, by rw [unread]; rfl⟩

theorem ofEntries_cases : ∀ entries : List (Value × Value),
    (EntriesHaveTextKeys entries ∧ ∃ parts, ofEntries entries = .ok parts) ∨
    (¬EntriesHaveTextKeys entries ∧ ofEntries entries = .error .unfit)
  | [] => Or.inl ⟨trivial, [], rfl⟩
  | (k, v) :: rest => by
    cases k with
    | text name =>
      rw [EntriesHaveTextKeys, ofEntries]
      rcases ofPart_cases v with ⟨keys, part, read⟩ | ⟨keys, unread⟩
      · rcases ofEntries_cases rest with ⟨others, parts, readAll⟩ | ⟨others, unread⟩
        · exact Or.inl ⟨⟨keys, others⟩, (.text name, part) :: parts, by rw [read, readAll]; rfl⟩
        · exact Or.inr ⟨fun both => others both.2, by rw [read, unread]; rfl⟩
      · exact Or.inr ⟨fun both => keys both.1, by rw [unread]; rfl⟩
    | _ => exact Or.inr ⟨id, rfl⟩

end

theorem lookup_plainEntries (key : String) (entries : List (Value × Value)) :
    lookup key (plainEntries entries) = (lookup key entries).map plain := by
  induction entries with
  | nil => rfl
  | cons entry rest ih =>
    obtain ⟨k, v⟩ := entry
    rw [plainEntries]
    by_cases own : k = .text key
    · subst own
      rw [lookup, lookup, if_pos rfl, if_pos rfl]
      rfl
    · rw [lookup_cons own, lookup_cons own, ih]

theorem lookup_ofEntries {entries parts : List (Value × Value)} (read : ofEntries entries = .ok parts)
    (key : String) : (lookup key parts).map Except.ok = (lookup key entries).map ofPart := by
  induction entries generalizing parts with
  | nil =>
    cases read
    rfl
  | cons entry rest ih =>
    obtain ⟨k, v⟩ := entry
    cases k with
    | text name =>
      rw [ofEntries] at read
      obtain ⟨part, first, following⟩ := ok_of_bind read
      obtain ⟨others, readAll, same⟩ := ok_of_bind following
      cases same
      rw [lookup, lookup]
      split
      · exact congrArg some first.symm
      · exact ih readAll
    | _ => cases read

def RetainedAlike (v v' : Value) : Prop :=
  ∃ m m', v = .map m ∧ v' = .map m' ∧ ∀ key ∈ Document.retainedKeys, lookup key m = lookup key m'

structure ShownAlike (p p' : Value) : Prop where
  field : ∀ key ∈ readKeys, field p key = field p' key
  retained : RetainedAlike (plain p) (plain p')

theorem retained_read {key : String} (retained : key ∈ Document.retainedKeys) : key ∈ readKeys := by
  have all : ∀ key ∈ Document.retainedKeys, key ∈ readKeys := by decide
  exact all key retained

theorem shownAlike_resource {m m' : List (Value × Value)}
    (shown : ∀ key ∈ readKeys, lookup key m = lookup key m') : ShownAlike (.resource m) (.resource m') where
  field key member := by rw [field, field, shown key member]
  retained := by
    refine ⟨plainEntries m, plainEntries m', rfl, rfl, fun key member => ?_⟩
    rw [lookup_plainEntries, lookup_plainEntries, shown key (retained_read member)]

theorem shownAlike_of_sameIdentity {v v' : Value} (same : SameIdentity v v') : ShownAlike v v' := by
  cases same with
  | map shown =>
    exact ⟨fun _ _ => rfl, _, _, rfl, rfl, fun key member => shown key (retained_read member)⟩
  | resource shown => exact shownAlike_resource shown

theorem ofPart_alike {v v' : Value} (same : SameIdentity v v') (readable : v.HasTextKeys ↔ v'.HasTextKeys) :
    Agree ShownAlike (ofPart v) (ofPart v') := by
  cases same with
  | @map m m' shown =>
    rw [HasTextKeys, HasTextKeys] at readable
    rw [ofPart, ofPart]
    rcases ofEntries_cases m with ⟨keys, parts, read⟩ | ⟨keys, unread⟩
    · rcases ofEntries_cases m' with ⟨_, parts', read'⟩ | ⟨noKeys, _⟩
      · rw [read, read']
        refine .ok (shownAlike_resource fun key member => ?_)
        have one := lookup_ofEntries read key
        rw [shown key member, ← lookup_ofEntries read' key] at one
        exact Option.map_injective (fun _ _ => Except.ok.inj) one
      · exact absurd (readable.mp keys) noKeys
    · rcases ofEntries_cases m' with ⟨someKeys, _⟩ | ⟨_, unread'⟩
      · exact absurd (readable.mpr someKeys) keys
      · rw [unread, unread']
        exact .error Failure.unfit
  | resource shown => exact .ok (shownAlike_resource shown)

section

variable {key : String} {P Q : Value → Value → Prop} {entries entries' : List (Value × Value)}

theorem ofEntries_alike (same : SameEntriesBut key P entries entries')
    (read : ∀ v v', P v v' → Agree Q (ofPart v) (ofPart v')) :
    Agree (SameEntriesBut key Q) (ofEntries entries) (ofEntries entries') := by
  induction same with
  | here related rest =>
    rw [ofEntries, ofEntries]
    refine (read _ _ related).bind fun part part' alike => ?_
    refine (Agree.refl (fun _ => rfl) (ofEntries rest)).bind (Q := Eq) ?_
    rintro others _ rfl
    exact .ok (.here alike others)
  | @there k other v rest rest' _ ih =>
    cases k with
    | text name =>
      rw [ofEntries, ofEntries]
      refine (Agree.refl (fun _ => rfl) (ofPart v)).bind (Q := Eq) ?_
      rintro part _ rfl
      exact ih.bind fun _ _ later => .ok (.there other part later)
    | _ => exact .error Failure.unfit

theorem plainEntries_alike (same : SameEntriesBut key P entries entries')
    (written : ∀ v v', P v v' → Q (plain v) (plain v')) :
    SameEntriesBut key Q (plainEntries entries) (plainEntries entries') := by
  induction same with
  | here related rest => exact .here (written _ _ related) (plainEntries rest)
  | there other v _ ih => exact .there other (plain v) ih

theorem withTypedItems_alike (same : SameEntriesBut key P entries entries') (notItems : key ≠ "items")
    (notVersion : key ≠ "apiVersion") (kind : String) :
    Agree (SameEntriesBut key P) (withTypedItems kind entries) (withTypedItems kind entries') := by
  unfold withTypedItems
  rw [same.lookup_of_ne notItems, same.lookup_of_ne notVersion]
  split
  · dsimp only
    split
    all_goals
      refine (Agree.refl (fun _ => rfl) _).bind (Q := Eq) ?_
      rintro members _ rfl
      refine (Agree.refl (fun _ => rfl) _).bind (Q := Eq) ?_
      rintro items _ rfl
      exact .ok (same.setEntry_of_ne notItems _)
  · exact .ok same

theorem addMissing_alike (same : SameEntriesBut key P entries entries') {name : String}
    (different : key ≠ name) (v : Value) :
    SameEntriesBut key P (addMissing name v entries) (addMissing name v entries') := by
  unfold addMissing
  rw [same.lookup_of_ne different]
  split
  · exact same
  · exact same.append _

theorem typedItem_alike (same : SameEntriesBut key P entries entries') (notKind : key ≠ "kind")
    (notVersion : key ≠ "apiVersion") (apiVersion : Value) (kind : String) :
    ∃ typed typed', typedItem (.ok apiVersion) kind (.map entries) = .ok (.map typed) ∧
      typedItem (.ok apiVersion) kind (.map entries') = .ok (.map typed') ∧
      SameEntriesBut key P typed typed' := by
  rw [typedItem, typedItem, same.lookup_of_ne notVersion]
  split
  · exact ⟨_, _, rfl, rfl, addMissing_alike same notKind _⟩
  · exact ⟨_, _, rfl, rfl, addMissing_alike (same.append _) notKind _⟩

end

end Resource

/-! ### What is told and written of objects with other metadata -/

variable {rule : RedactionRule}

theorem identityMetadata_alike {entries entries' : List (Value × Value)}
    (same : SameEntriesBut "metadata" Resource.RetainedAlike entries entries') :
    Collection.identityMetadata entries = Collection.identityMetadata entries' := by
  obtain ⟨_, _, ⟨m, m', rfl, rfl, shown⟩, found, found'⟩ := same.lookup_self
  have retained : (Document.retainedKeys.filterMap fun key => (lookup key m).map fun v => (text key, v)) =
      Document.retainedKeys.filterMap fun key => (lookup key m').map fun v => (text key, v) :=
    List.filterMap_congr fun key member => by rw [shown key member]
  unfold Collection.identityMetadata
  rw [found, found']
  show setEntry (text "metadata") (.map _) entries = setEntry (text "metadata") (.map _) entries'
  rw [retained]
  exact same.setEntry_self _

/-- Of the metadata of an object no reader asks for more than what is shown alike. -/
theorem readAlike_of_metadata {parts parts' : List (Value × Value)}
    (same : SameEntriesBut "metadata" Resource.ShownAlike parts parts') :
    ReadAlike rule (.resource parts) (.resource parts') := by
  obtain ⟨v, v', alike, found, found'⟩ := same.lookup_self
  have part : ∀ name, "metadata" ≠ name →
      Resource.part (.resource parts) name = Resource.part (.resource parts') name := by
    intro name different
    rw [Resource.part, Resource.part, same.lookup_of_ne different]
  have metadata : Resource.field (.resource parts) "metadata" = .ok v := by
    rw [Resource.field, found]
    rfl
  have metadata' : Resource.field (.resource parts') "metadata" = .ok v' := by
    rw [Resource.field, found']
    rfl
  have name := alike.field "name" (by decide)
  have ns := alike.field "namespace" (by decide)
  have labels := alike.field "labels" (by decide)
  constructor
  · intro default
    simp only [Collection.providerName, part "spec" (by decide)]
  · intro clusterName
    simp only [NodeGroup.ofControlPlane, part "spec" (by decide), part "status" (by decide), metadata,
      metadata', bind, Except.bind, name, ns]
  · simp only [NodeGroup.ofMachineDeployment, part "spec" (by decide), part "status" (by decide), metadata,
      metadata', bind, Except.bind, name, ns, labels]
  · have written := Resource.plainEntries_alike same fun _ _ one => one.retained
    have document : ∀ parts, Collection.document (.resource parts) =
        .ok (.map (Collection.identityMetadata (Resource.plainEntries parts))) := fun _ => rfl
    rw [document, document, identityMetadata_alike written]
    exact .ok (.refl _)

def Value.SameReadableIdentity (v v' : Value) : Prop :=
  v.SameIdentity v' ∧ (v.HasTextKeys ↔ v'.HasTextKeys)

theorem servedAlike_of_metadata {body body' : Value} (same : body.SameButMetadata SameReadableIdentity body') :
    ServedAlike rule body body' := by
  have read : ∀ v v' : Value, v.SameReadableIdentity v' →
      Agree Resource.ShownAlike (Resource.ofPart v) (Resource.ofPart v') :=
    fun _ _ both => Resource.ofPart_alike both.1 both.2
  have readEntries : ∀ {entries entries' : List (Value × Value)},
      SameEntriesBut "metadata" SameReadableIdentity entries entries' →
      Agree (ReadAlike rule) ((Resource.ofEntries entries).map .resource)
        ((Resource.ofEntries entries').map .resource) :=
    fun but => (Resource.ofEntries_alike but read).map fun _ _ parts => readAlike_of_metadata parts
  cases same with
  | same => exact .refl _
  | @map entries entries' but =>
    constructor
    · have kind : Resource.kindOf entries = Resource.kindOf entries' := by
        rw [Resource.kindOf, Resource.kindOf, but.lookup_of_ne (by decide)]
      rw [Resource.ofValue, Resource.ofValue, kind]
      refine (Agree.refl (fun _ => rfl) _).bind (Q := Eq) ?_
      rintro kind _ rfl
      refine (Resource.withTypedItems_alike but (by decide) (by decide) kind).bind fun _ _ typed => ?_
      exact readEntries typed
    · intro apiVersion kind
      obtain ⟨typed, typed', one, two, still⟩ :=
        Resource.typedItem_alike but (by decide) (by decide) apiVersion kind
      rw [one, two]
      show Agree _ (Resource.ofPart (.map typed)) (Resource.ofPart (.map typed'))
      rw [Resource.ofPart, Resource.ofPart]
      exact readEntries still
  | resource but =>
    have shown := but.imp fun _ _ both => Resource.shownAlike_of_sameIdentity both.1
    exact ⟨.ok (readAlike_of_metadata shown), fun _ _ => .error Failure.unfit⟩

namespace Reconciler

def keepingMetadata (metadata : List (Value × Value)) (others : List StoredObject) : World where
  server :=
    { objects := ⟨"Cluster", some "clusters", "demo", [],
        .map [(.text "kind", .text "Cluster"), (.text "metadata", .map metadata)]⟩ :: others
      secrets := []
      notServed := []
      failures := []
      inClusterFault := none
      kubeconfigFault := none }
  session := .borrowed
  nextClient := 1
  calls := []
  events := []

theorem keepingMetadata_sameBut {P : Value → Value → Prop} {metadata metadata' : List (Value × Value)}
    (related : P (.map metadata) (.map metadata')) (others : List StoredObject) :
    (keepingMetadata metadata others).SameBut (Server.SameBut (Value.SameButMetadata P))
      (keepingMetadata metadata' others) := by
  have notMetadata : (.text "kind" : Value) ≠ .text "metadata" := by simp
  have changed : SameEntriesBut "metadata" P
      [(.text "kind", .text "Cluster"), (.text "metadata", .map metadata)]
      [(.text "kind", .text "Cluster"), (.text "metadata", .map metadata')] :=
    .there notMetadata _ (.here related [])
  have kept : List.Forall₂ (StoredObject.SameBut (Value.SameButMetadata P)) others others :=
    List.forall₂_same.mpr fun o _ => ⟨rfl, rfl, rfl, rfl, .same o.body⟩
  exact ⟨⟨.cons ⟨rfl, rfl, rfl, rfl, .map changed⟩ kept, .nil, rfl, rfl, rfl, rfl⟩, rfl, rfl, rfl, rfl⟩

/--
Servers that differ in other metadata of their objects than name, namespace and labels are asked the same
and have the same projections, where each piece of metadata can be read on both or on neither.
-/
theorem projections_of_other_metadata {w w' : World}
    (same : w.SameBut (Server.SameBut (Value.SameButMetadata Value.SameReadableIdentity)) w')
    (r : Reconciler) (name ns : String) :
    (r.specYaml name ns w).1 = (r.specYaml name ns w').1 ∧
    (r.specYaml name ns w).2.calls = (r.specYaml name ns w').2.calls ∧
    (r.statusYaml name ns w).1 = (r.statusYaml name ns w').1 ∧
    (r.statusYaml name ns w).2.calls = (r.statusYaml name ns w').2.calls := by
  have served : w.server.SameBut (ServedAlike r.settings.rule) w'.server :=
    same.server.imp fun _ _ bodies => servedAlike_of_metadata bodies
  have alike : w.SameBut (Server.Alike r.settings.rule w.server.secrets) w' :=
    { same with server := ⟨served, rfl⟩ }
  obtain ⟨specAnswer, specWorld⟩ := Collection.yaml_runAlike .spec name ns w w' alike
  obtain ⟨statusAnswer, statusWorld⟩ := Collection.yaml_runAlike .status name ns w w' alike
  exact ⟨specAnswer.eq, specWorld.calls, statusAnswer.eq, statusWorld.calls⟩

theorem projections_of_other_version :
    let provider : StoredObject :=
      ⟨"VCDCluster", some "clusters", "demo", [], .map [(.text "kind", .text "VCDCluster")]⟩
    let w := keepingMetadata [(.text "name", .text "demo"), (.text "resourceVersion", .text "101")] [provider]
    let w' := keepingMetadata [(.text "name", .text "demo"), (.text "resourceVersion", .text "102"),
      (.text "annotations", .map [(.text "owner", .text "ops")])] [provider]
    w.SameBut (Server.SameBut (Value.SameButMetadata Value.SameReadableIdentity)) w' ∧
    (Inquiry.withDefaults.specYaml "demo" "clusters" w).1 =
      (Inquiry.withDefaults.specYaml "demo" "clusters" w').1 ∧
    (Inquiry.withDefaults.statusYaml "demo" "clusters" w).1 =
      (Inquiry.withDefaults.statusYaml "demo" "clusters" w').1 := by
  intro provider w w'
  have related : Value.SameReadableIdentity
      (.map [(.text "name", .text "demo"), (.text "resourceVersion", .text "101")])
      (.map [(.text "name", .text "demo"), (.text "resourceVersion", .text "102"),
        (.text "annotations", .map [(.text "owner", .text "ops")])]) := by
    refine ⟨.map fun key member => ?_, by simp [HasTextKeys, EntriesHaveTextKeys]⟩
    obtain rfl | rfl | rfl : key = "name" ∨ key = "namespace" ∨ key = "labels" := by
      simpa [readKeys] using member
    all_goals rfl
  have same := keepingMetadata_sameBut related [provider]
  obtain ⟨spec, _, status, _⟩ := projections_of_other_metadata same Inquiry.withDefaults "demo" "clusters"
  exact ⟨same, spec, status⟩

/-- With an annotation whose key is a number, the object cannot be read at all. -/
theorem projections_of_unreadable_metadata :
    ¬∀ w w' : World, w.SameBut (Server.SameBut (Value.SameButMetadata Value.SameIdentity)) w' →
      (Inquiry.withDefaults.specYaml "demo" "clusters" w).1 =
        (Inquiry.withDefaults.specYaml "demo" "clusters" w').1 := by
  intro always
  let named : Value × Value := (.text "name", .text "demo")
  let numbered : Value × Value := (.text "annotations", .map [(.whole 1, .text "x")])
  have related : Value.SameIdentity (.map [named]) (.map [named, numbered]) :=
    .map (by simp [readKeys, lookup, named, numbered])
  have unreadable : (Inquiry.withDefaults.specYaml "demo" "clusters"
      (keepingMetadata [named, numbered] [])).1 = .error .unfit := rfl
  have equal := always _ _ (keepingMetadata_sameBut related [])
  rw [unreadable] at equal
  cases equal

end Reconciler
end ClusterLedger
