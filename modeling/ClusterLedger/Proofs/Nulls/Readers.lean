import ClusterLedger.Cluster.MachineTemplate
import ClusterLedger.Cluster.NodeGroup
import ClusterLedger.Proofs.Nulls.Nearness

namespace ClusterLedger

open Resource

variable {name : String} {path : List Step} {a b : Value} {guise : Guise}

/-- Where no default is asked for by its name, or only in a part of the object, an entry is missing as a null is. -/
theorem untold {defaulted : List (List Step × String)} {key : String} {default : Value} {inner : Option (List Step)}
    (kept : path = [] ∨ name ∉ defaulted.map (·.2)) (asked : key ∈ defaulted.map (·.2))
    (inside : path = [] → inner = none) : inner = some [] → key = name → default = .null := by
  rintro reached rfl
  rcases kept with atRoot | other
  · rw [inside atRoot] at reached
    cases reached
  · exact absurd asked other

namespace Machine

def scalars : List (List String) :=
  [["metadata", "name"], ["metadata", "namespace"], ["status", "phase"], ["spec", "version"]]

/-- Owners are read one by one, so the path leads to one of them or past all. -/
theorem owners_near {path : Option (List Step)} (near : Near name path a b) (free : name ≠ obstructingField)
    (toMember : ∀ inner, path = some inner → inner = [.member]) :
    Agree (fun members members' => readOwners members guise = readOwners members' guise)
      (elements a guise) (elements b guise) := by
  cases path with
  | none =>
    cases near
    exact .refl (fun members => Eq.refl (readOwners members guise)) _
  | some path =>
    obtain rfl := toMember path rfl
    cases near with
    | @member _ part part' before after gains =>
      have nearPart : Near name (some []) part part' := gains
      exact .ok (readOwners_member (OwnerReference.read_near nearPart free fun _ _ => rfl))

theorem ofResource_near (gains : Gains name .null path a b) (free : name ≠ obstructingField)
    (toMember : ∀ inner, belowAll ["metadata", "ownerReferences"] (some path) = some inner → inner = [.member])
    (past : ∀ keys ∈ scalars, belowAll keys (some path) = none) : ofResource a guise = ofResource b guise := by
  have near : Near name (some path) a b := gains
  have nearSpec := near.part "spec"
  have nearStatus := near.part "status"
  apply Agree.eq
  refine (near.field "metadata").bind fun _ _ nearMetadata => ?_
  refine (nearMetadata.field_past (past ["metadata", "name"] (by decide))).bind fun name _ sameName => ?_
  refine (nearMetadata.field "ownerReferences").bind fun _ _ nearOwners => ?_
  refine (nearMetadata.field_past (past ["metadata", "namespace"] (by decide))).bind fun ns _ sameNamespace => ?_
  refine (nearStatus.get_past free (past ["status", "phase"] (by decide))).bind fun phase _ samePhase => ?_
  refine (nearSpec.get_past free (past ["spec", "version"] (by decide))).bind fun version _ sameVersion => ?_
  have counted := @Near.counts _ _ _ _ nearOwners guise fun here => nomatch toMember [] here
  refine .ite_bind (by rw [counted]) (fun _ => owners_near nearOwners free toMember)
    (fun _ => .ok rfl) fun _ _ sameOwners => ?_
  dsimp only
  rw [sameOwners, sameName, sameNamespace, samePhase, sameVersion]
  exact Agree.refl Eq.refl _

end Machine

namespace MachineTemplate

def emptiedPlaces : List (List Step × String) :=
  [([.entry "spec"], "template"), ([.entry "spec", .entry "template"], "spec")]

def scalars : List (List String) :=
  ["metadata", "name"] :: ["sizingPolicy", "placementPolicy", "enableNvidiaGPU", "storageProfile", "diskSize"].map
    fun key => ["spec", "template", "spec", key]

theorem ofResource_near (gains : Gains name .null path a b) (free : name ≠ obstructingField)
    (kept : path = [] ∨ name ∉ emptiedPlaces.map (·.2)) (past : ∀ keys ∈ scalars, belowAll keys (some path) = none) :
    ofResource a guise = ofResource b guise := by
  have near : Near name (some path) a b := gains
  have nearSpec := near.part "spec"
  apply Agree.eq
  refine (near.field "metadata").bind fun _ _ nearMetadata => ?_
  refine (nearSpec.getOr free (untold kept (by decide) (by rintro rfl; rfl))).bind fun _ _ nearTemplate => ?_
  refine (nearTemplate.getOr free (untold kept (by decide) (by rintro rfl; rfl))).bind fun _ _ nearMachines => ?_
  have pastEntry : ∀ key, ["spec", "template", "spec", key] ∈ scalars →
      below key (below "spec" (below "template" (below "spec" (some path)))) = none := fun key => past _
  refine (nearMetadata.field_past (past ["metadata", "name"] (by decide))).bind fun name _ sameName => ?_
  refine (nearMachines.get_past free (pastEntry "sizingPolicy" (by decide))).bind fun sizing _ sameSizing => ?_
  refine (nearMachines.get_past free (pastEntry "placementPolicy" (by decide))).bind
    fun placement _ samePlacement => ?_
  refine (nearMachines.getOr_false free (pastEntry "enableNvidiaGPU" (by decide))).bind fun _ _ sameGpu => ?_
  refine (nearMachines.get_past free (pastEntry "storageProfile" (by decide))).bind fun storage _ sameStorage => ?_
  refine (nearMachines.get_past free (pastEntry "diskSize" (by decide))).bind fun size _ sameSize => ?_
  rw [sameName, sameSizing, samePlacement, sameGpu, sameStorage, sameSize]
  exact Agree.refl Eq.refl _

end MachineTemplate

namespace NodeGroup

def planeEmptiedPlaces : List (List Step × String) :=
  [([.entry "spec"], "machineTemplate"), ([.entry "spec", .entry "machineTemplate"], "infrastructureRef")]

def planeScalars : List (List String) :=
  [["metadata", "name"], ["metadata", "namespace"], ["spec", "replicas"], ["status", "readyReplicas"]] ++
    referenceEntries.map fun key => ["spec", "machineTemplate", "infrastructureRef", key]

theorem ofControlPlane_near (gains : Gains name .null path a b) (free : name ≠ obstructingField)
    (kept : path = [] ∨ name ∉ planeEmptiedPlaces.map (·.2))
    (past : ∀ keys ∈ planeScalars, belowAll keys (some path) = none) (clusterName : Value) :
    ofControlPlane a clusterName guise = ofControlPlane b clusterName guise := by
  have near : Near name (some path) a b := gains
  have nearSpec := near.part "spec"
  have nearStatus := near.part "status"
  apply Agree.eq
  refine (near.field "metadata").bind fun _ _ nearMetadata => ?_
  refine (nearSpec.getOr free (untold kept (by decide) (by rintro rfl; rfl))).bind fun _ _ nearTemplate => ?_
  refine (nearTemplate.getOr free (untold kept (by decide) (by rintro rfl; rfl))).bind fun _ _ nearRef => ?_
  have pastRef : ∀ key ∈ referenceEntries,
      below key (below "infrastructureRef" (below "machineTemplate" (below "spec" (some path)))) = none :=
    fun key listed => past _ (List.mem_append_right _ (List.mem_map_of_mem listed))
  refine (nearMetadata.field_past (past ["metadata", "name"] (by decide))).bind fun name _ sameName => ?_
  refine (nearMetadata.field_past (past ["metadata", "namespace"] (by decide))).bind fun ns _ sameNamespace => ?_
  refine (nearSpec.get_past free (past ["spec", "replicas"] (by decide))).bind fun replicas _ sameReplicas => ?_
  refine (nearStatus.get_past free (past ["status", "readyReplicas"] (by decide))).bind fun ready _ sameReady => ?_
  rw [sameName, sameNamespace, sameReplicas, sameReady, ObjectReference.read_near nearRef free pastRef]
  exact Agree.refl Eq.refl _

def deploymentEmptiedPlaces : List (List Step × String) :=
  [([.entry "spec"], "template"), ([.entry "spec", .entry "template"], "spec"),
    ([.entry "spec", .entry "template", .entry "spec"], "bootstrap"),
    ([.entry "spec", .entry "template", .entry "spec"], "infrastructureRef")]

def deploymentScalars : List (List String) :=
  [["metadata", "name"], ["metadata", "namespace"], ["metadata", "labels", Label.clusterName], ["spec", "clusterName"],
    ["spec", "replicas"], ["status", "readyReplicas"]] ++
    (referenceEntries.map fun key => ["spec", "template", "spec", "infrastructureRef", key]) ++
    referenceEntries.map fun key => ["spec", "template", "spec", "bootstrap", "configRef", key]

def Declares (guise : Guise) (deployment : Value) : Prop :=
  ∃ declared, get (part deployment "spec") "clusterName" guise = .ok declared ∧ guise.counts declared = true

def configRefOf (guise : Guise) (deployment : Value) : Except Failure Value := do
  let template ← getOr (part deployment "spec") "template" (.map []) guise
  let machineSpec ← getOr template "spec" (.map []) guise
  let bootstrap ← getOr machineSpec "bootstrap" (.map []) guise
  get bootstrap "configRef" guise

/-- Whether a deployment refers to a configuration; an object that counts as nothing is no reference. -/
def Configures (guise : Guise) (deployment : Value) : Prop :=
  ∃ ref, configRefOf guise deployment = .ok ref ∧ guise.counts ref = true

def configPath : List Step :=
  [.entry "spec", .entry "template", .entry "spec", .entry "bootstrap", .entry "configRef"]

theorem ofMachineDeployment_near (gains : Gains name .null path a b) (free : name ≠ obstructingField)
    (kept : path = [] ∨ name ∉ deploymentEmptiedPlaces.map (·.2))
    (past : ∀ keys ∈ deploymentScalars, belowAll keys (some path) = none)
    (labelled : path = [] ∨ name ≠ Label.clusterName ∨ Declares guise a)
    (configured : belowAll ["spec", "template", "spec", "bootstrap", "configRef"] (some path) = some [] →
      Configures guise a) :
    ofMachineDeployment a guise = ofMachineDeployment b guise := by
  have near : Near name (some path) a b := gains
  have nearSpec := near.part "spec"
  have nearStatus := near.part "status"
  have pastRefs : ∀ key ∈ referenceEntries,
      belowAll ["spec", "template", "spec", "infrastructureRef", key] (some path) = none ∧
        belowAll ["spec", "template", "spec", "bootstrap", "configRef", key] (some path) = none := fun key listed =>
    ⟨past _ (List.mem_append_left _ (List.mem_append_right _ (List.mem_map_of_mem listed))),
      past _ (List.mem_append_right _ (List.mem_map_of_mem listed))⟩
  apply Agree.eq
  refine (near.field "metadata").bind fun _ _ nearMetadata => ?_
  refine (nearMetadata.field "labels").bind fun _ _ nearLabels => ?_
  refine (nearSpec.getOr free (untold kept (by decide) (by rintro rfl; rfl))).results.bind
    fun template _ ⟨nearTemplate, atTemplate, _⟩ => ?_
  refine (nearTemplate.getOr free (untold kept (by decide) (by rintro rfl; rfl))).results.bind
    fun machineSpec _ ⟨nearMachines, atMachines, _⟩ => ?_
  refine (nearMachines.getOr free (untold kept (by decide) (by rintro rfl; rfl))).results.bind
    fun bootstrap _ ⟨nearBootstrap, atBootstrap, _⟩ => ?_
  refine (nearBootstrap.get free "configRef" guise).results.bind fun configRef _ ⟨nearConfig, atConfig, _⟩ => ?_
  refine (nearMetadata.field_past (past ["metadata", "name"] (by decide))).bind fun name' _ sameName => ?_
  refine (nearMetadata.field_past (past ["metadata", "namespace"] (by decide))).bind fun ns _ sameNamespace => ?_
  refine (nearSpec.get_past free (past ["spec", "clusterName"] (by decide))).results.bind
    fun declared _ ⟨sameDeclared, given, _⟩ => ?_
  have unlabelled : ¬guise.counts declared = true → below "labels" (below "metadata" (some path)) = some [] →
      Label.clusterName = name → Value.text "" = .null := by
    rintro undeclared reached rfl
    rcases labelled with rfl | other | ⟨_, again, told⟩
    · cases reached
    · exact absurd rfl other
    · cases given.symm.trans again
      exact absurd told undeclared
  refine .ite_bind (Q := Eq) (by rw [sameDeclared]) (fun _ => .ok sameDeclared)
    (fun undeclared => ((nearLabels.orElse (.map [])).getOr free (unlabelled undeclared)).imp fun _ _ inner =>
      inner.eq (past ["metadata", "labels", Label.clusterName] (by decide)))
    fun clusterName _ sameCluster => ?_
  refine (nearSpec.get_past free (past ["spec", "replicas"] (by decide))).bind fun replicas _ sameReplicas => ?_
  refine (nearStatus.get_past free (past ["status", "readyReplicas"] (by decide))).bind fun ready _ sameReady => ?_
  refine (nearMachines.getOr free (untold kept (by decide) (by rintro rfl; rfl))).bind fun _ _ nearRef => ?_
  rw [sameNamespace, ObjectReference.read_near nearRef free fun key listed => (pastRefs key listed).1]
  refine (Agree.refl Eq.refl _).bind fun templateRef _ sameTemplate => ?_
  have found : configRefOf guise a = .ok configRef := by
    simp only [configRefOf, atTemplate, atMachines, atBootstrap, atConfig, bind, Except.bind]
  have counted := @Near.counts _ _ _ _ nearConfig guise fun here => by
    obtain ⟨ref, again, counts⟩ := configured here
    rw [found] at again
    rw [Except.ok.inj again, counts]
  refine .ite_bind (Q := Eq) (by rw [counted])
    (fun _ => by
      rw [ObjectReference.read_near nearConfig free fun key listed => (pastRefs key listed).2]
      exact Agree.refl Eq.refl _)
    (fun _ => .ok rfl) fun configRef _ sameConfig => ?_
  rw [sameName, sameCluster, sameReplicas, sameReady, sameTemplate, sameConfig]
  exact Agree.refl Eq.refl _

end NodeGroup
end ClusterLedger
