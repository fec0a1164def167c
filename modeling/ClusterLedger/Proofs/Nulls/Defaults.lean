import ClusterLedger.Proofs.Nulls.Readers

/-!
Where a null is told from a missing entry. An empty mapping stands in for what is missing where entries of it are asked
for next, and an empty text for the label with the name of a cluster; a null is taken as it is, and the reading fails.
And a null makes a reference of an empty object that counts as none.
-/

namespace ClusterLedger

open Resource

/-- The second outcome is no model: both fail alike, or the null is met, where a mapping or a name is needed. -/
inductive Lost {α : Type} : Except Failure α → Except Failure α → Prop
  | fieldless (x : Except Failure α) : Lost x (.error .noFields)
  | nameless (x : Except Failure α) {field : String} {issues : List Issue} (told : ⟨[field], .notText⟩ ∈ issues) :
    Lost x (.error (.invalid issues))
  | before (failure : Failure) : Lost (.error failure) (.error failure)

namespace Lost

variable {α β γ : Type} {Q : α → β → Prop} {x : Except Failure α} {y : Except Failure β}

theorem bind {f : α → Except Failure γ} {g : β → Except Failure γ} (agree : Agree Q x y)
    (next : ∀ a b, Q a b → Lost (f a) (g b)) : Lost (x >>= f) (y >>= g) := by
  cases agree with
  | ok related => exact next _ _ related
  | error same =>
    cases same
    exact .before _

theorem bind_eq {f g : α → Except Failure γ} {x' : Except Failure α} (same : x' = x)
    (next : ∀ a, Lost (f a) (g a)) : Lost (x >>= f) (x' >>= g) := by
  rw [same]
  exact bind (.refl Eq.refl x) fun a _ same => same ▸ next a

theorem ite_bind {c : Prop} [Decidable c] {x' : Except Failure α} {f g : α → Except Failure γ}
    (next : ∀ a, Lost (f a) (g a)) :
    Lost (if c then x >>= f else x' >>= f) (if c then x >>= g else x' >>= g) := by
  split
  · exact bind_eq rfl next
  · exact bind_eq rfl next

end Lost

variable {name : String} {path : List Step} {a b : Value} {guise : Guise}

theorem Gains.lost {γ : Type} (gains : Gains name .null [] a b) (free : name ≠ obstructingField) {default : Value}
    {f g : Value → Except Failure γ} (next : Lost (f default) (g .null)) :
    Lost (Resource.getOr a name default guise >>= f) (Resource.getOr b name default guise >>= g) := by
  refine .bind (gains.differ_of_nil.getOr_self (.inl free) default guise) ?_
  rintro x y ⟨rfl, rfl⟩
  exact next

/-! ### Mappings -/

namespace MachineTemplate

theorem ofResource_lost (gains : Gains name .null path a b) (listed : (path, name) ∈ emptiedPlaces) :
    Lost (ofResource a guise) (ofResource b guise) := by
  simp only [emptiedPlaces, List.mem_cons, List.not_mem_nil, or_false, Prod.mk.injEq] at listed
  rcases listed with ⟨rfl, rfl⟩ | ⟨rfl, rfl⟩
  · refine .bind_eq (gains.field_of_ne (by decide)) fun metadata => ?_
    exact gains.part.lost (by decide) (.fieldless _)
  · refine .bind_eq (gains.field_of_ne (by decide)) fun metadata => ?_
    refine .bind (gains.part.getOr _ guise) fun _ _ template => ?_
    exact template.lost (by decide) (.bind_eq rfl fun name => .fieldless _)

end MachineTemplate

namespace NodeGroup

theorem ofControlPlane_lost (gains : Gains name .null path a b) (listed : (path, name) ∈ planeEmptiedPlaces)
    (clusterName : Value) : Lost (ofControlPlane a clusterName guise) (ofControlPlane b clusterName guise) := by
  simp only [planeEmptiedPlaces, List.mem_cons, List.not_mem_nil, or_false, Prod.mk.injEq] at listed
  rcases listed with ⟨rfl, rfl⟩ | ⟨rfl, rfl⟩
  · refine .bind_eq (gains.field_of_ne (by decide)) fun metadata => ?_
    exact gains.part.lost (by decide) (.fieldless _)
  · have status : part b "status" = part a "status" := gains.part_of_ne (by decide)
    have others : ∀ key, key ≠ "machineTemplate" → get (part b "spec") key guise = get (part a "spec") key guise :=
      fun key other => gains.part.get_of_ne other guise
    refine .bind_eq (gains.field_of_ne (by decide)) fun metadata => ?_
    refine .bind (gains.part.getOr _ guise) fun _ _ template => ?_
    refine template.lost (by decide) ?_
    refine .bind_eq rfl fun name => .bind_eq rfl fun ns => ?_
    refine .bind_eq (others _ (by decide)) fun replicas => ?_
    refine .bind_eq (by rw [status]) fun readyReplicas => ?_
    exact .fieldless _

theorem ofMachineDeployment_lost (gains : Gains name .null path a b) (listed : (path, name) ∈ deploymentEmptiedPlaces) :
    Lost (ofMachineDeployment a guise) (ofMachineDeployment b guise) := by
  simp only [deploymentEmptiedPlaces, List.mem_cons, List.not_mem_nil, or_false, Prod.mk.injEq] at listed
  rcases listed with ⟨rfl, rfl⟩ | ⟨rfl, rfl⟩ | ⟨rfl, rfl⟩ | ⟨rfl, rfl⟩
  · refine .bind_eq (gains.field_of_ne (by decide)) fun metadata => .bind_eq rfl fun labels => ?_
    exact gains.part.lost (by decide) (.fieldless _)
  · refine .bind_eq (gains.field_of_ne (by decide)) fun metadata => .bind_eq rfl fun labels => ?_
    refine .bind (gains.part.getOr _ guise) fun _ _ template => ?_
    exact template.lost (by decide) (.fieldless _)
  · refine .bind_eq (gains.field_of_ne (by decide)) fun metadata => .bind_eq rfl fun labels => ?_
    refine .bind (gains.part.getOr _ guise) fun _ _ template => ?_
    refine .bind (template.getOr _ guise) fun _ _ machines => ?_
    exact machines.lost (by decide) (.fieldless _)
  · have status : part b "status" = part a "status" := gains.part_of_ne (by decide)
    have others : ∀ key, key ≠ "template" → get (part b "spec") key guise = get (part a "spec") key guise :=
      fun key other => gains.part.get_of_ne other guise
    refine .bind_eq (gains.field_of_ne (by decide)) fun metadata => .bind_eq rfl fun labels => ?_
    refine .bind (gains.part.getOr _ guise) fun _ _ template => ?_
    refine .bind (template.getOr _ guise) fun _ _ machines => ?_
    refine .bind_eq (machines.differ_of_nil.getOr_of_ne (.inl (by decide)) (by decide) _ guise) fun bootstrap => ?_
    refine .bind_eq rfl fun configRef => .bind_eq rfl fun name => .bind_eq rfl fun ns => ?_
    refine .bind_eq (others _ (by decide)) fun declared => .ite_bind fun clusterName => ?_
    refine .bind_eq (others _ (by decide)) fun replicas => ?_
    refine .bind_eq (by rw [status]) fun readyReplicas => ?_
    exact machines.lost (by decide) (.fieldless _)

end NodeGroup

/-! ### The label -/

namespace Checked

variable {α β : Type}

def issues : Checked α → List Issue
  | accepted _ => []
  | refused issues => issues

@[simp] theorem issues_map (f : α → β) (c : Checked α) : (f <$> c).issues = c.issues := by
  cases c <;> rfl

@[simp] theorem issues_seq (f : Checked (α → β)) (c : Checked α) : (f <*> c).issues = f.issues ++ c.issues := by
  cases f <;> cases c <;> simp [Seq.seq, apply, issues]

theorem toExcept_of_issue {c : Checked α} {issue : Issue} (told : issue ∈ c.issues) :
    c.toExcept = .error (.invalid c.issues) := by
  cases c with
  | accepted a => cases told
  | refused issues => rfl

end Checked

namespace NodeGroup

theorem assemble_nameless (x : Except Failure NodeGroup) (kind : GroupKind) (name ns replicas readyReplicas : Value)
    (templateRef : ObjectReference) (configRef : Option ObjectReference) :
    Lost x (assemble kind name ns .null replicas readyReplicas templateRef configRef guise) := by
  have nameless : ((Field.text .null).under "cluster_name").issues = [⟨["cluster_name"], .notText⟩] := rfl
  have told : ⟨["cluster_name"], .notText⟩ ∈ (checkWith (Field.ofList [("kind", .text kind.name), ("name", name),
      ("namespace", ns), ("cluster_name", .null), ("replicas", replicas),
      ("ready_replicas", guise.orElse readyReplicas (.whole 0))])
      (.accepted templateRef) (.accepted configRef)).issues := by
    rw [checkWith_of]
    simp [Checked.issues_seq, Checked.issues_map, nameless]
  rw [assemble, Checked.toExcept_of_issue told]
  exact .nameless x told

def labelPlace : List Step × String := ([.entry "metadata", .entry "labels"], Label.clusterName)

theorem ofMachineDeployment_nameless (gains : Gains name .null path a b) (listed : (path, name) = labelPlace)
    (undeclared : ¬Declares guise a) : Lost (ofMachineDeployment a guise) (ofMachineDeployment b guise) := by
  obtain ⟨rfl, rfl⟩ := Prod.mk.inj listed
  have spec : part b "spec" = part a "spec" := gains.part_of_ne (by decide)
  have status : part b "status" = part a "status" := gains.part_of_ne (by decide)
  refine .bind gains.field fun _ _ metadata => ?_
  refine .bind metadata.field fun _ _ labels => ?_
  refine .bind_eq (by rw [spec]) fun template => .bind_eq rfl fun machines => ?_
  refine .bind_eq rfl fun bootstrap => .bind_eq rfl fun configRef => ?_
  refine .bind_eq (metadata.field_of_ne (by decide)) fun name => ?_
  refine .bind_eq (metadata.field_of_ne (by decide)) fun ns => ?_
  rw [spec]
  refine .bind (Agree.refl Eq.refl _).results ?_
  rintro declared _ ⟨rfl, given, _⟩
  have untrue : ¬guise.counts declared = true := fun told => undeclared ⟨declared, given, told⟩
  -- no name in the spec, so the one the group gets is the emptied label
  dsimp only
  rw [if_neg untrue, if_neg untrue, labels.orElse_old, labels.orElse_new]
  refine labels.lost (by decide) ?_
  refine .bind_eq rfl fun replicas => .bind_eq (by rw [status]) fun readyReplicas => ?_
  refine .bind_eq rfl fun infrastructureRef => .bind_eq rfl fun templateRef => .ite_bind fun configRef => ?_
  exact assemble_nameless ..

end NodeGroup

/-! ### Empty references -/

theorem ObjectReference.read_nameless {v : Value} (nulls : ∀ key, get v key guise = .ok .null) (default : Value) :
    ∃ issues, read v default guise = .error (.invalid issues) ∧ ⟨["name"], .notText⟩ ∈ issues := by
  have nameless : ((Field.text .null).under "name").issues = [⟨["name"], .notText⟩] := rfl
  have told : ⟨["name"], .notText⟩ ∈ (check (Field.ofList [("name", .null),
      ("namespace", guise.orElse .null default), ("kind", .null), ("api_version", .null)])).issues := by
    rw [check_of]
    simp [Checked.issues_seq, Checked.issues_map, nameless]
  refine ⟨_, ?_, told⟩
  rw [← Checked.toExcept_of_issue told]
  simp only [read, nulls, bind, Except.bind]

/-- An object that counts as nothing and gains a null has nothing but nulls. -/
theorem Gains.nulls (gains : Gains name .null [] a b) (nothing : ¬guise.counts a = true) (key : String) :
    Resource.get b key guise = .ok .null := by
  cases gains.differ_of_nil with
  | @entries es es' before after others =>
    cases guise with
    | client => exact absurd rfl nothing
    | standIn =>
      obtain rfl : es = [] := by simpa [Guise.counts] using nothing
      have null : (Value.lookup key es').getD .null = .null := by
        by_cases own : key = name
        · rw [own, after]
          rfl
        · rw [others key own]
          rfl
      exact congrArg Except.ok null

theorem NodeGroup.ofMachineDeployment_unnamed (gains : Gains name .null configPath a b)
    (unconfigured : ¬Configures guise a) : Lost (ofMachineDeployment a guise) (ofMachineDeployment b guise) := by
  have status : part b "status" = part a "status" := gains.part_of_ne (by decide)
  have others : ∀ key, key ≠ "template" → get (part b "spec") key guise = get (part a "spec") key guise :=
    fun key other => gains.part.get_of_ne other guise
  refine .bind_eq (gains.field_of_ne (by decide)) fun metadata => .bind_eq rfl fun labels => ?_
  refine .bind (gains.part.getOr _ guise).results fun template _ ⟨nested, atTemplate, _⟩ => ?_
  refine .bind (nested.getOr _ guise).results fun machineSpec _ ⟨machines, atMachines, _⟩ => ?_
  refine .bind (machines.getOr _ guise).results fun bootstrap _ ⟨boot, atBootstrap, _⟩ => ?_
  refine .bind (boot.get guise).results fun ref ref' ⟨config, atConfig, _⟩ => ?_
  have nothing : ¬guise.counts ref = true := fun counts => unconfigured ⟨ref, by
    simp only [configRefOf, atTemplate, atMachines, atBootstrap, atConfig, bind, Except.bind], counts⟩
  refine .bind_eq rfl fun name => .bind_eq rfl fun ns => ?_
  refine .bind_eq (others _ (by decide)) fun declared => .ite_bind fun clusterName => ?_
  refine .bind_eq (others _ (by decide)) fun replicas => .bind_eq (by rw [status]) fun readyReplicas => ?_
  refine .bind_eq (machines.getOr_of_ne (by decide) _ guise) fun infrastructureRef => ?_
  refine .bind_eq rfl fun templateRef => ?_
  -- without the null there is no reference, and with it there is one without a name
  obtain ⟨issues, failed, told⟩ := ObjectReference.read_nameless (config.nulls nothing) ns
  dsimp only
  rw [if_neg nothing, if_pos (config.differ_of_nil.counts guise), failed]
  exact .nameless _ told

end ClusterLedger
