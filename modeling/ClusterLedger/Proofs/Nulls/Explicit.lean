import ClusterLedger.Proofs.Nulls.Defaults

namespace ClusterLedger

inductive Reader where
  | deployment
  | controlPlane (clusterName : Value)
  | machine
  | template

def placesAt (path : List Step) (names : List String) : List (List Step × String) := names.map (path, ·)

namespace Reader

def Model : Reader → Type
  | deployment => NodeGroup
  | controlPlane _ => NodeGroup
  | machine => Machine
  | template => MachineTemplate

def read (guise : Guise) : (reader : Reader) → Value → Except Failure reader.Model
  | deployment => fun r => NodeGroup.ofMachineDeployment r guise
  | controlPlane clusterName => fun r => NodeGroup.ofControlPlane r clusterName guise
  | machine => fun r => Machine.ofResource r guise
  | template => fun r => MachineTemplate.ofResource r guise

def configPlaces : List (List Step × String) := placesAt NodeGroup.configPath referenceEntries

def deploymentPlaces : List (List Step × String) :=
  let machines : List Step := [.entry "spec", .entry "template", .entry "spec"]
  placesAt [] ["metadata", "spec", "status"] ++ placesAt [.entry "metadata"] ["name", "namespace", "labels"] ++
    [NodeGroup.labelPlace] ++ placesAt [.entry "spec"] ["template", "clusterName", "replicas"] ++
    placesAt [.entry "spec", .entry "template"] ["spec"] ++ placesAt machines ["bootstrap", "infrastructureRef"] ++
    placesAt (machines ++ [.entry "infrastructureRef"]) referenceEntries ++
    placesAt (machines ++ [.entry "bootstrap"]) ["configRef"] ++ configPlaces ++ placesAt [.entry "status"] ["readyReplicas"]

def planePlaces : List (List Step × String) :=
  placesAt [] ["metadata", "spec", "status"] ++ placesAt [.entry "metadata"] ["name", "namespace"] ++
    placesAt [.entry "spec"] ["machineTemplate", "replicas"] ++
    placesAt [.entry "spec", .entry "machineTemplate"] ["infrastructureRef"] ++
    placesAt [.entry "spec", .entry "machineTemplate", .entry "infrastructureRef"] referenceEntries ++
    placesAt [.entry "status"] ["readyReplicas"]

def machinePlaces : List (List Step × String) :=
  placesAt [] ["metadata", "spec", "status"] ++
    placesAt [.entry "metadata"] ["name", "namespace", "ownerReferences"] ++
    placesAt [.entry "metadata", .entry "ownerReferences", .member] ownerEntries ++
    placesAt [.entry "spec"] ["version"] ++ placesAt [.entry "status"] ["phase"]

def templatePlaces : List (List Step × String) :=
  placesAt [] ["metadata", "spec"] ++ placesAt [.entry "metadata"] ["name"] ++ placesAt [.entry "spec"] ["template"] ++
    placesAt [.entry "spec", .entry "template"] ["spec"] ++
    placesAt [.entry "spec", .entry "template", .entry "spec"]
      ["sizingPolicy", "placementPolicy", "enableNvidiaGPU", "storageProfile", "diskSize"]

def places : Reader → List (List Step × String)
  | deployment => deploymentPlaces
  | controlPlane _ => planePlaces
  | machine => machinePlaces
  | template => templatePlaces

/--
Whether a null is told from a missing entry at a place: something else stands in for what is missing, or nothing
but the null makes a reference of the object there.
-/
def Tells (guise : Guise) : Reader → List Step × String → Value → Prop
  | deployment, place, r => place ∈ NodeGroup.deploymentEmptiedPlaces ∨
    place = NodeGroup.labelPlace ∧ ¬NodeGroup.Declares guise r ∨ place ∈ configPlaces ∧ ¬NodeGroup.Configures guise r
  | controlPlane _, place, _ => place ∈ NodeGroup.planeEmptiedPlaces
  | machine, _, _ => False
  | template, place, _ => place ∈ MachineTemplate.emptiedPlaces

theorem deploymentPlaces_spec : ∀ place ∈ deploymentPlaces, place.2 ≠ Resource.obstructingField ∧
    (place ∈ NodeGroup.deploymentEmptiedPlaces ∨ place.1 = [] ∨ place.2 ∉ NodeGroup.deploymentEmptiedPlaces.map (·.2)) ∧
    (place = NodeGroup.labelPlace ∨ place.2 ≠ Label.clusterName) ∧
    (∀ keys ∈ NodeGroup.deploymentScalars, belowAll keys (some place.1) = none) ∧
    (belowAll ["spec", "template", "spec", "bootstrap", "configRef"] (some place.1) = some [] →
      place ∈ configPlaces) := by decide +kernel

theorem planePlaces_spec : ∀ place ∈ planePlaces, place.2 ≠ Resource.obstructingField ∧
    (place ∈ NodeGroup.planeEmptiedPlaces ∨ place.1 = [] ∨ place.2 ∉ NodeGroup.planeEmptiedPlaces.map (·.2)) ∧
    ∀ keys ∈ NodeGroup.planeScalars, belowAll keys (some place.1) = none := by decide +kernel

theorem machinePlaces_spec : ∀ place ∈ machinePlaces, place.2 ≠ Resource.obstructingField ∧
    (belowAll ["metadata", "ownerReferences"] (some place.1)).all (· = [.member]) = true ∧
    ∀ keys ∈ Machine.scalars, belowAll keys (some place.1) = none := by decide +kernel

theorem templatePlaces_spec : ∀ place ∈ templatePlaces, place.2 ≠ Resource.obstructingField ∧
    (place ∈ MachineTemplate.emptiedPlaces ∨ place.1 = [] ∨ place.2 ∉ MachineTemplate.emptiedPlaces.map (·.2)) ∧
    ∀ keys ∈ MachineTemplate.scalars, belowAll keys (some place.1) = none := by decide +kernel

def ownedMachine (entries : List (Value × Value)) : Value :=
  .resource [(.text "metadata", .resource [(.text "name", .text "worker"), (.text "ownerReferences",
    .list [.resource [(.text "kind", .text "MachineSet"), (.text "name", .text "pool")], .resource entries])])]

def bareTemplate (entries : List (Value × Value)) : Value :=
  .resource [(.text "metadata", .resource [(.text "name", .text "db")]), (.text "spec", .resource entries)]

def configuredDeployment (entries : List (Value × Value)) : Value :=
  .resource [(.text "metadata", .resource [(.text "name", .text "pool"), (.text "namespace", .text "clusters")]),
    (.text "spec", .resource [(.text "template", .resource [(.text "spec", .resource [
      (.text "bootstrap", .resource [(.text "configRef", .resource entries)]),
      (.text "infrastructureRef", .resource [(.text "name", .text "small")])])])])]

/--
A null is read as a missing entry, with the same model or the same failure, unless it is told from one. Then it never
comes to a model.
-/
theorem read_of_null (guise : Guise) (reader : Reader) {path : List Step} {name : String} {r r' : Value}
    (listed : (path, name) ∈ reader.places) (gains : Gains name .null path r r') :
    (¬reader.Tells guise (path, name) r → reader.read guise r' = reader.read guise r) ∧
      (reader.Tells guise (path, name) r → Lost (reader.read guise r) (reader.read guise r')) := by
  cases reader with
  | deployment =>
    obtain ⟨free, kept, labelled, past, atConfig⟩ := deploymentPlaces_spec _ listed
    constructor
    · intro missing
      obtain ⟨full, rest⟩ := not_or.mp missing
      obtain ⟨declared, configured⟩ := not_or.mp rest
      refine (NodeGroup.ofMachineDeployment_near gains free (kept.resolve_left full) past (.inr ?_) ?_).symm
      · rcases labelled with atLabel | other
        · exact .inr (not_not.mp fun undeclared => declared ⟨atLabel, undeclared⟩)
        · exact .inl other
      · exact fun here => not_not.mp fun unconfigured => configured ⟨atConfig here, unconfigured⟩
    · rintro (emptied | ⟨atLabel, undeclared⟩ | ⟨inConfig, unconfigured⟩)
      · exact NodeGroup.ofMachineDeployment_lost gains emptied
      · exact NodeGroup.ofMachineDeployment_nameless gains atLabel undeclared
      · obtain ⟨entry, _, same⟩ := List.mem_map.mp inConfig
        cases same
        exact NodeGroup.ofMachineDeployment_unnamed gains unconfigured
  | controlPlane clusterName =>
    obtain ⟨free, kept, past⟩ := planePlaces_spec _ listed
    constructor
    · intro missing
      exact (NodeGroup.ofControlPlane_near gains free (kept.resolve_left missing) past clusterName).symm
    · intro emptied
      exact NodeGroup.ofControlPlane_lost gains emptied clusterName
  | machine =>
    obtain ⟨free, toMember, past⟩ := machinePlaces_spec _ listed
    refine ⟨fun _ => (Machine.ofResource_near gains free ?_ past).symm, False.elim⟩
    intro inner reached
    rw [reached] at toMember
    exact of_decide_eq_true toMember
  | template =>
    obtain ⟨free, kept, past⟩ := templatePlaces_spec _ listed
    constructor
    · intro missing
      exact (MachineTemplate.ofResource_near gains free (kept.resolve_left missing) past).symm
    · intro emptied
      exact MachineTemplate.ofResource_lost gains emptied

/--
A null among the entries of an owner does not count; one for the template of a template does, and so does one in an
empty reference, if that counts as none.
-/
theorem read_of_null_uid_template :
    let path : List Step := [.entry "metadata", .entry "ownerReferences", .member]
    let owner := [(Value.text "kind", Value.text "Cluster"), (.text "name", .text "prod")]
    ((path, "uid") ∈ machine.places ∧
        Gains "uid" .null path (ownedMachine owner) (ownedMachine (owner ++ [(.text "uid", .null)])) ∧
        machine.read .standIn (ownedMachine (owner ++ [(.text "uid", .null)])) =
          machine.read .standIn (ownedMachine owner)) ∧
      (([.entry "spec"], "template") ∈ template.places ∧
        Gains "template" .null [.entry "spec"] (bareTemplate []) (bareTemplate [(.text "template", .null)]) ∧
        Lost (template.read .standIn (bareTemplate []))
          (template.read .standIn (bareTemplate [(.text "template", .null)]))) ∧
      (NodeGroup.configPath, "kind") ∈ deployment.places ∧
        Gains "kind" .null NodeGroup.configPath (configuredDeployment [])
          (configuredDeployment [(.text "kind", .null)]) ∧
        Lost (deployment.read .standIn (configuredDeployment []))
          (deployment.read .standIn (configuredDeployment [(.text "kind", .null)])) ∧
        deployment.read .client (configuredDeployment [(.text "kind", .null)]) =
          deployment.read .client (configuredDeployment []) := by
  intro path owner
  have uid : (path, "uid") ∈ machine.places := by decide +kernel
  have owners : Gains "uid" .null path (ownedMachine owner) (ownedMachine (owner ++ [(.text "uid", .null)])) := by
    have last : DifferAt "uid" none (some .null) (.resource owner) (.resource (owner ++ [(.text "uid", .null)])) :=
      ((DifferAt.missing rfl .null).behind (by decide) _).behind (by decide) _
    have inList := Gains.member [.resource [(.text "kind", .text "MachineSet"), (.text "name", .text "pool")]] []
      (Gains.here last)
    exact .under (.under inList ((DifferAt.changed _ _ _ _).behind (by decide) _)) (.changed _ _ _ _)
  have listed : ([.entry "spec"], "template") ∈ template.places := by decide +kernel
  have emptied : ([.entry "spec"], "template") ∈ MachineTemplate.emptiedPlaces := by decide +kernel
  have gains : Gains "template" .null [.entry "spec"] (bareTemplate []) (bareTemplate [(.text "template", .null)]) :=
    .under (.here (.missing rfl _)) ((DifferAt.changed _ _ _ _).behind (by decide) _)
  have kind : (NodeGroup.configPath, "kind") ∈ deployment.places := by decide +kernel
  have inConfig : (NodeGroup.configPath, "kind") ∈ configPlaces := by decide +kernel
  have reference : Gains "kind" .null NodeGroup.configPath (configuredDeployment [])
      (configuredDeployment [(.text "kind", .null)]) :=
    .under (.under (.under (.under (.under (.here (.missing rfl _)) (.changed _ _ _ _)) (.changed _ _ _ _))
      (.changed _ _ _ _)) (.changed _ _ _ _)) ((DifferAt.changed _ _ _ _).behind (by decide) _)
  have unconfigured : ¬NodeGroup.Configures .standIn (configuredDeployment []) := by
    rintro ⟨ref, found, counts⟩
    cases found
    cases counts
  have configured : NodeGroup.Configures .client (configuredDeployment []) := ⟨_, rfl, rfl⟩
  have untold : ¬deployment.Tells .client (NodeGroup.configPath, "kind") (configuredDeployment []) := by
    have elsewhere : (NodeGroup.configPath, "kind") ∉ NodeGroup.deploymentEmptiedPlaces ∧
        (NodeGroup.configPath, "kind") ≠ NodeGroup.labelPlace := by decide +kernel
    rintro (emptied | ⟨atLabel, _⟩ | ⟨_, nothing⟩)
    · exact elsewhere.1 emptied
    · exact elsewhere.2 atLabel
    · exact nothing configured
  exact ⟨⟨uid, owners, (read_of_null .standIn machine uid owners).1 id⟩,
    ⟨listed, gains, (read_of_null .standIn template listed gains).2 emptied⟩,
    kind, reference, (read_of_null .standIn deployment kind reference).2 (.inr (.inr ⟨inConfig, unconfigured⟩)),
    (read_of_null .client deployment kind reference).1 untold⟩

/-- A template without a template of its own is read, and one with a null for it is not. -/
theorem null_template :
    template.read .standIn (bareTemplate []) = .ok (⟨"db", "", "", false, "", 0⟩ : MachineTemplate) ∧
      template.read .standIn (bareTemplate [(.text "template", .null)]) = .error .noFields := ⟨rfl, rfl⟩

end Reader
end ClusterLedger
