import ClusterLedger.Proofs.Actions
import ClusterLedger.Proofs.Halves
import Mathlib.Data.List.Nodup

namespace ClusterLedger

namespace Assoc

variable {κ α β : Type} {entries entries' : List (κ × α)}

theorem distinct_perm (order : entries.Perm entries') : Distinct entries ↔ Distinct entries' :=
  List.Perm.nodup_iff (order.map Prod.fst)

theorem distinct_mapValues {f : α → β} (distinct : Distinct entries) : Distinct (mapValues f entries) := by
  have same : keys (mapValues f entries) = keys entries := by
    rw [keys, mapValues, List.map_map]
    rfl
  rw [Distinct, same]
  exact distinct

variable [DecidableEq κ]

theorem find?_eq_some_iff (distinct : Distinct entries) {key : κ} {value : α} :
    find? key entries = some value ↔ (key, value) ∈ entries := by
  refine ⟨mem_of_find?, fun member => ?_⟩
  induction entries with
  | nil => cases member
  | cons entry rest ih =>
    obtain ⟨k, v⟩ := entry
    have parts := List.nodup_cons.mp distinct
    rcases List.mem_cons.mp member with same | later
    · cases same
      rw [find?, if_pos rfl]
    · have other : k ≠ key := by
        rintro rfl
        exact parts.1 (List.mem_map.mpr ⟨(k, value), later, rfl⟩)
      rw [find?, if_neg other]
      exact ih parts.2 later

theorem find?_perm (distinct : Distinct entries) (order : entries.Perm entries') (key : κ) :
    find? key entries = find? key entries' := by
  refine Option.ext fun value => ?_
  rw [find?_eq_some_iff distinct, find?_eq_some_iff ((distinct_perm order).mp distinct), order.mem_iff]

theorem perm_of_find? (distinct : Distinct entries) (distinct' : Distinct entries')
    (same : ∀ key, find? key entries = find? key entries') : entries.Perm entries' := by
  refine (List.perm_ext_iff_of_nodup (List.Nodup.of_map Prod.fst distinct)
    (List.Nodup.of_map Prod.fst distinct')).mpr fun entry => ?_
  rw [← find?_eq_some_iff distinct, ← find?_eq_some_iff distinct', same]

@[simp] theorem find?_mapValues (f : α → β) (key : κ) (entries : List (κ × α)) :
    find? key (mapValues f entries) = (find? key entries).map f := by
  induction entries with
  | nil => rfl
  | cons entry rest ih =>
    rw [mapValues, List.map_cons, find?, find?]
    split
    · rfl
    · exact ih

theorem find?_filter (kept : κ → Bool) (key : κ) (entries : List (κ × α)) :
    find? key (entries.filter fun entry => kept entry.1) = if kept key then find? key entries else none := by
  induction entries with
  | nil => simp [find?]
  | cons entry rest ih =>
    obtain ⟨k, v⟩ := entry
    by_cases own : k = key
    · subst own
      cases keep : kept k <;> simp [find?, keep, ih]
    · cases keep : kept k <;> simp [find?, keep, ih, own]

/-- Entries with distinct keys have one order by their keys. -/
theorem mergeSort_eq_of_perm {entries entries' : List (String × α)} (distinct : Distinct entries)
    (order : entries.Perm entries') :
    entries.mergeSort (fun a b => a.1 ≤ b.1) = entries'.mergeSort fun a b => a.1 ≤ b.1 := by
  have sorted : ∀ l : List (String × α),
      (l.mergeSort fun a b => a.1 ≤ b.1).Pairwise fun a b => decide (a.1 ≤ b.1) = true :=
    List.pairwise_mergeSort (fun _ _ _ first second => decide_eq_true
      (String.le_trans (of_decide_eq_true first) (of_decide_eq_true second)))
      fun a b => by simpa using String.le_total a.1 b.1
  have among := fun l : List (String × α) => List.mergeSort_perm l fun a b => a.1 ≤ b.1
  refine List.Perm.eq_of_pairwise (fun a b inFirst inSecond before after => ?_) (sorted entries)
    (sorted entries') ((among entries).trans (order.trans (among entries').symm))
  -- Of two entries that stand before each other the keys are the same, and so are the entries.
  have key : a.1 = b.1 := String.le_antisymm (of_decide_eq_true before) (of_decide_eq_true after)
  have one := (find?_eq_some_iff distinct).mpr ((among entries).mem_iff.mp inFirst)
  have other := (find?_eq_some_iff distinct).mpr (order.mem_iff.mpr ((among entries').mem_iff.mp inSecond))
  rw [key, other] at one
  exact Prod.ext key (Option.some.inj one).symm

end Assoc

namespace Document

theorem sortedEntries_eq (entries : List (String × Document)) :
    sortedEntries entries = Assoc.mapValues sorted entries := by
  induction entries with
  | nil => rfl
  | cons entry rest ih =>
    rw [sortedEntries, ih]
    rfl

theorem isMapping_iff {d : Document} : d.isMapping = true ↔ ∃ entries, d = mapping entries := by
  cases d <;> simp [isMapping]

@[simp] theorem isMapping_sorted (d : Document) : d.sorted.isMapping = d.isMapping := by
  cases d <;> rfl

theorem sorted_mapping_eq_iff {entries entries' : List (String × Document)} (distinct : Assoc.Distinct entries)
    (distinct' : Assoc.Distinct entries') : (mapping entries).sorted = (mapping entries').sorted ↔
      ∀ key, (Assoc.find? key entries).map sorted = (Assoc.find? key entries').map sorted := by
  have found : ∀ (entries : List (String × Document)) (key : String),
      Assoc.find? key (sortedEntries entries) = (Assoc.find? key entries).map sorted := by
    intro entries key
    rw [sortedEntries_eq, Assoc.find?_mapValues]
  have keys : ∀ {entries : List (String × Document)}, Assoc.Distinct entries →
      Assoc.Distinct (sortedEntries entries) := by
    intro entries distinct
    rw [sortedEntries_eq]
    exact Assoc.distinct_mapValues distinct
  rw [sorted, sorted, mapping.injEq]
  constructor
  · intro same key
    have order := (List.mergeSort_perm (sortedEntries entries) fun a b => a.1 ≤ b.1).symm
    rw [same] at order
    have perm := order.trans (List.mergeSort_perm (sortedEntries entries') _)
    rw [← found, ← found]
    exact Assoc.find?_perm (keys distinct) perm key
  · intro same
    refine Assoc.mergeSort_eq_of_perm (keys distinct) (Assoc.perm_of_find? (keys distinct) (keys distinct') ?_)
    intro key
    rw [found, found]
    exact same key

structure Alike (d d' : Document) : Prop where
  left : d.WellFormed
  right : d'.WellFormed
  sorted : d.sorted = d'.sorted

theorem Alike.refl {d : Document} (wellFormed : d.WellFormed) : Alike d d := ⟨wellFormed, wellFormed, rfl⟩

theorem Alike.isMapping {d d' : Document} (alike : Alike d d') : d.isMapping = d'.isMapping := by
  rw [← isMapping_sorted d, alike.sorted, isMapping_sorted]

inductive AlikeAt (key : String) (entries entries' : List (String × Document)) : Prop
  | absent (missing : Assoc.find? key entries = none) (missing' : Assoc.find? key entries' = none)
  | present {child child' : Document} (found : Assoc.find? key entries = some child)
    (found' : Assoc.find? key entries' = some child') (alike : Alike child child')

section

variable {entries entries' : List (String × Document)}

theorem AlikeAt.of_eq {key : String} {now now' : List (String × Document)} (alike : AlikeAt key entries entries')
    (same : Assoc.find? key now = Assoc.find? key entries)
    (same' : Assoc.find? key now' = Assoc.find? key entries') : AlikeAt key now now' := by
  cases alike with
  | absent missing missing' => exact .absent (same.trans missing) (same'.trans missing')
  | present found found' below => exact .present (same.trans found) (same'.trans found') below

theorem Alike.at (alike : Alike (mapping entries) (mapping entries')) (key : String) :
    AlikeAt key entries entries' := by
  have same := (sorted_mapping_eq_iff alike.left.1 alike.right.1).mp alike.sorted key
  cases found : Assoc.find? key entries with
  | none =>
    rw [found] at same
    exact .absent found (Option.map_eq_none_iff.mp same.symm)
  | some child =>
    rw [found] at same
    obtain ⟨child', found', sorted⟩ := Option.map_eq_some_iff.mp same.symm
    have below : Alike child child' :=
      ⟨wellFormed_child alike.left found, wellFormed_child alike.right found', sorted.symm⟩
    exact .present found found' below

theorem alike_mapping (left : (mapping entries).WellFormed) (right : (mapping entries').WellFormed)
    (shown : ∀ key, AlikeAt key entries entries') : Alike (mapping entries) (mapping entries') := by
  refine ⟨left, right, (sorted_mapping_eq_iff left.1 right.1).mpr fun key => ?_⟩
  cases shown key with
  | absent missing missing' => rw [missing, missing']
  | present found found' alike =>
    rw [found, found']
    exact congrArg some alike.sorted

end

/-! ### Steps of a projection -/

theorem wellFormed_set {entries : List (String × Document)} (wellFormed : (mapping entries).WellFormed)
    {value : Document} (added : value.WellFormed) (key : String) :
    (mapping (Assoc.set key value entries)).WellFormed := by
  refine ⟨Assoc.distinct_set wellFormed.1 key value, entriesWellFormed_iff.mpr fun entry member => ?_⟩
  rcases Assoc.mem_of_mem_set member with rfl | old
  · exact added
  · exact entriesWellFormed_iff.mp wellFormed.2 entry old

theorem wellFormed_overlay {lower upper : List (String × Document)} (below : (mapping lower).WellFormed)
    (above : (mapping upper).WellFormed) : (mapping (Assoc.overlay lower upper)).WellFormed := by
  refine ⟨Assoc.distinct_overlay below.1 upper, entriesWellFormed_iff.mpr fun entry member => ?_⟩
  rcases Assoc.mem_of_mem_overlay member with new | old
  · exact entriesWellFormed_iff.mp above.2 entry new
  · exact entriesWellFormed_iff.mp below.2 entry old

theorem wellFormed_filter {entries : List (String × Document)} (wellFormed : (mapping entries).WellFormed)
    (kept : String × Document → Bool) : (mapping (entries.filter kept)).WellFormed := by
  refine ⟨wellFormed.1.sublist (List.filter_sublist.map _), entriesWellFormed_iff.mpr fun entry member => ?_⟩
  exact entriesWellFormed_iff.mp wellFormed.2 entry (List.mem_filter.mp member).1

section

variable {entries entries' : List (String × Document)} {d d' : Document}

theorem Alike.set (alike : Alike (mapping entries) (mapping entries')) {value value' : Document}
    (added : Alike value value') (key : String) :
    Alike (mapping (Assoc.set key value entries)) (mapping (Assoc.set key value' entries')) := by
  refine alike_mapping (wellFormed_set alike.left added.left key) (wellFormed_set alike.right added.right key) ?_
  intro other
  by_cases own : key = other
  · subst own
    exact .present (Assoc.find?_set_self key value entries) (Assoc.find?_set_self key value' entries') added
  · exact (alike.at other).of_eq (Assoc.find?_set_of_ne own value entries)
      (Assoc.find?_set_of_ne own value' entries')

theorem Alike.erase (alike : Alike (mapping entries) (mapping entries')) (key : String) :
    Alike (mapping (Assoc.erase key entries)) (mapping (Assoc.erase key entries')) := by
  refine alike_mapping (wellFormed_erase alike.left key) (wellFormed_erase alike.right key) fun other => ?_
  by_cases own : key = other
  · subst own
    exact .absent (Assoc.find?_erase_self key entries) (Assoc.find?_erase_self key entries')
  · exact (alike.at other).of_eq (Assoc.find?_erase_of_ne own entries)
      (Assoc.find?_erase_of_ne own entries')

theorem Alike.overlay (below : Alike (mapping entries) (mapping entries'))
    {upper upper' : List (String × Document)} (above : Alike (mapping upper) (mapping upper')) :
    Alike (mapping (Assoc.overlay entries upper)) (mapping (Assoc.overlay entries' upper')) := by
  refine alike_mapping (wellFormed_overlay below.left above.left)
    (wellFormed_overlay below.right above.right) fun key => ?_
  have laid := Assoc.find?_overlay above.left.1 entries key
  have laid' := Assoc.find?_overlay above.right.1 entries' key
  cases above.at key with
  | absent missing missing' =>
    rw [missing, Option.none_or] at laid
    rw [missing', Option.none_or] at laid'
    exact (below.at key).of_eq laid laid'
  | present found found' alike =>
    rw [found, Option.some_or] at laid
    rw [found', Option.some_or] at laid'
    exact .present laid laid' alike

theorem Alike.filter (alike : Alike (mapping entries) (mapping entries')) (kept : String → Bool) :
    Alike (mapping (entries.filter fun entry => kept entry.1))
      (mapping (entries'.filter fun entry => kept entry.1)) := by
  refine alike_mapping (wellFormed_filter alike.left _) (wellFormed_filter alike.right _) fun key => ?_
  have among := Assoc.find?_filter kept key entries
  have among' := Assoc.find?_filter kept key entries'
  cases keep : kept key with
  | false =>
    rw [keep] at among among'
    exact .absent among among'
  | true =>
    rw [keep] at among among'
    exact (alike.at key).of_eq among among'

theorem overwrite_cons_of_not_mapping (value : Document) (key : String) (rest : List String)
    (other : d.isMapping = false) : overwrite value (key :: rest) d = d := by
  cases d with
  | mapping entries => cases other
  | _ => rfl

theorem Alike.overwrite (alike : Alike d d') {value : Document} (wellFormed : value.WellFormed)
    (path : List String) : Alike (overwrite value path d) (overwrite value path d') := by
  induction path generalizing d d' with
  | nil => exact .refl wellFormed
  | cons key rest ih =>
    cases kind : d.isMapping with
    | true =>
      obtain ⟨entries, rfl⟩ := isMapping_iff.mp kind
      obtain ⟨entries', rfl⟩ := isMapping_iff.mp (alike.isMapping.symm.trans kind)
      rw [Document.overwrite, Document.overwrite]
      cases alike.at key with
      | absent missing missing' =>
        rw [missing, missing']
        exact alike
      | present found found' below =>
        rw [found, found']
        exact alike.set (ih below) key
    | false =>
      rw [overwrite_cons_of_not_mapping value key rest kind,
        overwrite_cons_of_not_mapping value key rest (alike.isMapping.symm.trans kind)]
      exact alike

inductive AlikeMappings : Document → Document → Prop
  | alike {entries entries' : List (String × Document)} (alike : Alike (mapping entries) (mapping entries')) :
    AlikeMappings (mapping entries) (mapping entries')

theorem Alike.foldTypeMeta (alike : Alike (mapping entries) (mapping entries')) :
    OkOrMalformed AlikeMappings (mapping entries).foldTypeMeta (mapping entries').foldTypeMeta := by
  unfold Document.foldTypeMeta
  rw [get_mapping, get_mapping]
  cases alike.at "typemeta" with
  | absent missing missing' =>
    rw [missing, missing']
    exact .ok (.alike alike)
  | @present part part' found found' below =>
    rw [found, found']
    cases kind : part.isMapping with
    | true =>
      obtain ⟨covering, rfl⟩ := isMapping_iff.mp kind
      obtain ⟨covering', rfl⟩ := isMapping_iff.mp (below.isMapping.symm.trans kind)
      exact .ok (.alike ((alike.overlay below).erase "typemeta"))
    | false =>
      have kind' := below.isMapping.symm.trans kind
      simp only [bind, Except.bind, kind, kind']
      exact .malformed _ _

theorem Alike.foldObjectMeta (alike : Alike (mapping entries) (mapping entries')) :
    OkOrMalformed AlikeMappings (mapping entries).foldObjectMeta (mapping entries').foldObjectMeta := by
  unfold Document.foldObjectMeta
  rw [get_mapping, get_mapping]
  cases alike.at "objectmeta" with
  | absent missing missing' =>
    rw [missing, missing']
    exact .ok (.alike alike)
  | @present part part' found found' below =>
    rw [found, found']
    cases part with
    | mapping inner =>
      obtain ⟨inner', rfl⟩ := isMapping_iff.mp below.isMapping.symm
      exact .ok (.alike ((alike.set (below.filter _) "metadata").erase "objectmeta"))
    | _ =>
      cases part' with
      | mapping inner' => cases below.isMapping
      | _ => exact .malformed _ _

theorem Alike.normalized (alike : Alike (mapping entries) (mapping entries')) :
    OkOrMalformed AlikeMappings (mapping entries).normalized (mapping entries').normalized := by
  refine alike.foldTypeMeta.bind ?_
  rintro _ _ ⟨typed⟩
  exact typed.foldObjectMeta

theorem Alike.overwriteAll (alike : Alike d d') {value : Document} (wellFormed : value.WellFormed)
    (paths : List (List String)) : Alike (overwriteAll value paths d) (overwriteAll value paths d') := by
  induction paths generalizing d d' with
  | nil => exact alike
  | cons path rest ih => exact ih (alike.overwrite wellFormed path)

theorem Alike.apply (alike : Alike d d') (rule : RedactionRule) : Alike (rule.apply d) (rule.apply d') :=
  alike.overwriteAll (by simp [WellFormed]) rule.paths

/-- Of documents that are alike the halves are alike, or neither has one. -/
theorem Alike.projected (alike : Alike d d') (rule : RedactionRule) (half : Half) :
    OkOrMalformed AlikeMappings (d.projected rule half) (d'.projected rule half) := by
  have redacted := alike.apply rule
  unfold Document.projected
  generalize rule.apply d = r, rule.apply d' = r' at redacted
  cases kind : r.isMapping with
  | true =>
    obtain ⟨entries, rfl⟩ := isMapping_iff.mp kind
    obtain ⟨entries', rfl⟩ := isMapping_iff.mp (redacted.isMapping.symm.trans kind)
    exact (redacted.erase half.dropped).normalized
  | false =>
    have kind' := redacted.isMapping.symm.trans kind
    simp only [requireMapping, kind, kind']
    exact .malformed _ _

theorem AlikeMappings.serialize (alike : AlikeMappings d d') : Yaml.serialize d = Yaml.serialize d' := by
  obtain ⟨alike⟩ := alike
  unfold Yaml.serialize
  rw [alike.sorted]
  rfl

end

end Document
end ClusterLedger
