import ClusterLedger.Proofs.Failures
import ClusterLedger.Proofs.Tracking.Operations
import Mathlib.Data.List.Nodup

namespace ClusterLedger

namespace TrackedResource

structure LastNamed (entries : List TrackedResource) (name : String) (before : List TrackedResource)
    (entry : TrackedResource) (behind : List TrackedResource) : Prop where
  split : entries = before ++ entry :: behind
  named : entry.name = name
  unshared : ∀ other ∈ behind, other.name ≠ name

variable {entries before behind : List TrackedResource} {entry : TrackedResource} {name : String}

theorem exists_lastNamed_of_lastNamed? {id : String} (found : lastNamed? entries name = some id) :
    ∃ before entry behind, LastNamed entries name before entry behind ∧ entry.id = id := by
  induction entries with
  | nil => cases found
  | cons first rest ih =>
    rw [lastNamed?_cons] at found
    cases later : lastNamed? rest name with
    | some other =>
      rw [later] at found
      cases found
      obtain ⟨before, entry, behind, last, same⟩ := ih later
      exact ⟨first :: before, entry, behind, ⟨by rw [last.split]; rfl, last.named, last.unshared⟩, same⟩
    | none =>
      rw [later, Option.none_or] at found
      split at found
      · rename_i own
        exact ⟨[], first, rest, ⟨rfl, own, lastNamed?_eq_none.mp later⟩, Option.some.inj found⟩
      · cases found

theorem id_not_mem_of_split (distinct : ((before ++ entry :: behind).map (·.id)).Nodup) :
    ∀ other ∈ before ++ behind, other.id ≠ entry.id := by
  rw [List.map_append, List.map_cons, List.nodup_middle, List.nodup_cons, ← List.map_append] at distinct
  intro other member same
  exact distinct.1 (same ▸ List.mem_map_of_mem member)

theorem filter_split (distinct : ((before ++ entry :: behind).map (·.id)).Nodup) :
    (before ++ entry :: behind).filter (fun other => other.id ≠ entry.id) = before ++ behind := by
  have others := id_not_mem_of_split distinct
  have kept := List.filter_eq_self.mpr fun other member => decide_eq_true (others other member)
  rw [List.filter_append] at kept ⊢
  rw [List.filter_cons_of_neg (by simp), kept]

end TrackedResource

/-- A failed look-up ends in its failure, of which everything but empty context is kept. -/
def Detection.FailsWith (detection : Detection) (failure : Failure) : Prop :=
  ∃ raised, detection.result = .error raised ∧ failure.PassedOn raised

structure Detection.ByName (detection : Detection) (m : ResourceMap) (directory : Directory)
    (org name : String) : Prop where
  lookups : detection.lookups = [.byName .ovdc name org]
  map : detection.map = m
  result : match directory (.byName .ovdc name org) with
    | .ok live => detection.result = .ok ⟨true, live, true⟩
    | .error failure => detection.FailsWith failure

structure Detection.ById (detection : Detection) (m : ResourceMap) (directory : Directory)
    (org specName : String) (before : List TrackedResource) (entry : TrackedResource)
    (behind : List TrackedResource) : Prop where
  lookups : detection.lookups = [.byId .ovdc entry.id org]
  result : match directory (.byId .ovdc entry.id org) with
    | .ok live => detection.result = .ok ⟨live.name ≠ specName, live, false⟩ ∧ detection.map = m
    | .error failure => detection.FailsWith failure ∧
        if failure.isNotFound then
          detection.map.entries .ovdc = before ++ behind ∧
            ∀ other, other ≠ .ovdc → detection.map.entries other = m.entries other
        else detection.map = m

namespace ResourceKind

variable {operation : String} {v : Value} {kind : ResourceKind}

theorem parseFor_of_wired (named : named? v = some kind) (wired : kind.isWired = true) :
    parseFor operation v = .ok kind := by
  simp only [parseFor, parse, named]
  exact if_pos wired

end ResourceKind

namespace ResourceMap

open TrackedResource

variable {m : ResourceMap} {directory : Directory} {org specName name : String}

theorem adopt_byName (m : ResourceMap) (directory : Directory) (org name : String) :
    (m.adopt directory .ovdc org name).ByName m directory org name := by
  cases answer : directory (.byName .ovdc name org) with
  | ok live =>
    simp only [adopt, answer]
    refine ⟨rfl, rfl, ?_⟩
    rw [answer]
  | error failure =>
    simp only [adopt, answer]
    refine ⟨rfl, rfl, ?_⟩
    rw [answer]
    exact ⟨_, rfl, (Failure.PassedOn.same failure).withContext _⟩

theorem entries_drop (valid : m.Valid) {before behind : List TrackedResource} {entry : TrackedResource}
    (split : m.entries .ovdc = before ++ entry :: behind) :
    (m.drop .ovdc entry.id).1.entries .ovdc = before ++ behind ∧
      ∀ other, other ≠ .ovdc → (m.drop .ovdc entry.id).1.entries other = m.entries other := by
  have refiled : Refiled .ovdc ⟨entry.id, none⟩ m _ := drop_refiled valid entry.id
  constructor
  · have ids := (valid.entries .ovdc).ids
    rw [split] at ids
    rw [refiled.entries, split]
    exact filter_split ids
  · intro other different
    unfold entries
    rw [refiled.others other different]

theorem recheck_byId (valid : m.Valid) (directory : Directory) (org specName name : String)
    {before behind : List TrackedResource} {entry : TrackedResource}
    (split : m.entries .ovdc = before ++ entry :: behind) :
    (m.recheck directory .ovdc org specName name entry.id).ById m directory org specName
      before entry behind := by
  cases answer : directory (.byId .ovdc entry.id org) with
  | ok live =>
    simp only [recheck, answer]
    refine ⟨rfl, ?_⟩
    rw [answer]
    exact ⟨rfl, rfl⟩
  | error failure =>
    have passed (context : Context) := (Failure.PassedOn.same failure).withContext context
    cases gone : failure.isNotFound with
    | false =>
      simp only [recheck, answer, gone, Bool.false_eq_true, if_false]
      refine ⟨rfl, ?_⟩
      simp only [answer, gone, Bool.false_eq_true, if_false]
      exact ⟨⟨_, rfl, passed _⟩, trivial⟩
    | true =>
      simp only [recheck, answer, gone, if_true]
      refine ⟨rfl, ?_⟩
      simp only [answer, gone, if_true]
      exact ⟨⟨_, rfl, passed _⟩, entries_drop valid split⟩

end ResourceMap
end ClusterLedger
