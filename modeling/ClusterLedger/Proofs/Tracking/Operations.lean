import ClusterLedger.Tracking.Rename
import ClusterLedger.Proofs.Tracking.Filing

namespace ClusterLedger

@[simp] theorem Failure.isNotFound_withContext (failure : Failure) (context : Context) :
    (failure.withContext context).isNotFound = failure.isNotFound := by
  cases failure with
  | fault f => cases f with | mk cause own => cases cause <;> rfl
  | _ => rfl

theorem ResourceKind.ovdc_of_parseFor {operation : String} {v : Value} {kind : ResourceKind}
    (ok : parseFor operation v = .ok kind) : kind = ovdc := by
  unfold parseFor at ok
  cases read : parse v with
  | error failure =>
    rw [read] at ok
    cases ok
  | ok parsed =>
    rw [read] at ok
    cases parsed with
    | ovdc => exact (Except.ok.inj ok).symm
    | org => cases ok
    | catalog => cases ok

theorem ResourceKind.ok_of_bind_parseFor {α : Type} {operation : String} {v : Value}
    {next : ResourceKind → Except Failure α} {a : α} (ok : (parseFor operation v >>= next) = .ok a) :
    next ovdc = .ok a := by
  cases read : parseFor operation v with
  | error failure =>
    rw [read] at ok
    cases ok
  | ok kind =>
    rw [read] at ok
    obtain rfl := ovdc_of_parseFor read
    exact ok

namespace ResourceMap

variable {m : ResourceMap}

theorem upsert_refiled (valid : m.Valid) {m' : ResourceMap} {kind : Value} {id name : String}
    {events : List Event} (ok : m.upsert kind id name = .ok (m', events)) :
    Refiled .ovdc ⟨id, some name⟩ m m' := by
  have put : m.put .ovdc id name = .ok (m', events) := ResourceKind.ok_of_bind_parseFor ok
  exact put_refiled valid put

/-- No ID that is tracked is empty, so it takes an empty ID to fail. -/
theorem upsert_succeeds_iff (valid : m.Valid) {id name : String} :
    (∃ m' events, m.upsert (.text "ovdc") id name = .ok (m', events)) ↔ id ≠ "" := by
  have puts : (∃ m' events, m.upsert (.text "ovdc") id name = .ok (m', events)) ↔
      m.nameOf? .ovdc id ≠ none ∨ id ≠ "" := put_succeeds_iff
  rw [puts]
  refine ⟨?_, Or.inr⟩
  rintro (tracked | nonempty)
  · obtain ⟨name, named⟩ := Option.ne_none_iff_exists'.mp tracked
    obtain ⟨entry, member, rfl⟩ := List.mem_map.mp (TrackedResource.mem_of_nameIn named)
    exact (valid.entries .ovdc).named entry member
  · exact nonempty

theorem remove_refiled (valid : m.Valid) {m' : ResourceMap} {kind : Value} {id : String}
    {events : List Event} (ok : m.remove kind id = .ok (m', events)) : Refiled .ovdc ⟨id, none⟩ m m' := by
  have drop : Except.ok (m.drop .ovdc id) = Except.ok (m', events) := ResourceKind.ok_of_bind_parseFor ok
  have dropped : (m.drop .ovdc id).1 = m' := congrArg Prod.fst (Except.ok.inj drop)
  rw [← dropped]
  exact drop_refiled valid id

/-- A detection fails at its kind, or looks a name up and adopts, or looks a tracked ID up. -/
theorem detectRename_cases (m : ResourceMap) (directory : Directory) (kind : Value) (org specName : String)
    (statusName : Option String) :
    let detection := m.detectRename directory kind org specName statusName
    let name := lastKnownName specName statusName
    (∃ failure, ResourceKind.parseFor "detect_rename" kind = .error failure ∧
      detection = ⟨.error failure, m, [], []⟩) ∨
    m.idOf? .ovdc name = none ∧ detection = m.adopt directory .ovdc org name ∨
    ∃ id, m.idOf? .ovdc name = some id ∧ detection = m.recheck directory .ovdc org specName name id := by
  intro detection name
  cases read : ResourceKind.parseFor "detect_rename" kind with
  | error failure =>
    refine Or.inl ⟨failure, rfl, ?_⟩
    simp only [detection, detectRename, read]
  | ok parsed =>
    obtain rfl := ResourceKind.ovdc_of_parseFor read
    cases tracked : m.idOf? .ovdc name with
    | none =>
      refine Or.inr (Or.inl ⟨rfl, ?_⟩)
      simp only [detection, detectRename, read, name] at tracked ⊢
      rw [tracked]
    | some id =>
      refine Or.inr (Or.inr ⟨id, rfl, ?_⟩)
      simp only [detection, detectRename, read, name] at tracked ⊢
      rw [tracked]

end ResourceMap

end ClusterLedger
