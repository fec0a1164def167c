import ClusterLedger.Proofs.Consulting.Collecting
import ClusterLedger.Proofs.Objects

/-!
Where the references among the objects of a cluster lead: to the namespace that they give, or else to that of
the object that they stand in. Templates are fetched from there. The provider's cluster is fetched from the
namespace that the cluster was asked for in, whatever the reference to it gives.
-/

namespace ClusterLedger

open ClusterLedger.Action

inductive Value.LeadsTo (object ref : Value) : Option String × String → Prop
  | given {ns name : String} {entry : Value} (named : ref.told? "name" = some name)
      (gives : ref.given? "namespace" = some entry) (text : Field.heldText entry = .ok ns) :
      LeadsTo object ref (some ns, name)
  | own {ns name : String} {entry : Value} (named : ref.told? "name" = some name)
      (gives : ref.given? "namespace" = none) (lies : object.at? ["metadata", "namespace"] = some entry)
      (text : Field.heldText entry = .ok ns) : LeadsTo object ref (some ns, name)

namespace Value.LeadsTo

variable {object ref : Value} {target : Option String × String}

theorem named (leads : LeadsTo object ref target) : ref.told? "name" = some target.2 := by
  cases leads <;> assumption

/-! What gives a name is neither missing nor made up. -/

theorem not_null (leads : LeadsTo object ref target) : ref ≠ .null := by
  rintro rfl
  cases leads.named

theorem not_empty (leads : LeadsTo object ref target) : ref ≠ .map [] := by
  rintro rfl
  cases leads.named

theorem not_document (leads : LeadsTo object ref target) (d : Document) : ref ≠ .document d := by
  rintro rfl
  cases leads.named

end Value.LeadsTo

theorem Field.heldText_of_optional {v : Value} {o : Option String} (accepted : optional text v = .accepted o)
    (there : v ≠ .null) : ∃ s, o = some s ∧ heldText v = .ok s := by
  have checked : (text v).map some = .accepted o := by
    cases v with
    | null => exact absurd rfl there
    | _ => exact accepted
  obtain ⟨s, held, rfl⟩ := Checked.map_eq_accepted.mp checked
  exact ⟨s, rfl, heldText_of_text held⟩

theorem ObjectReference.leadsTo_of_read {object metadata ref default : Value} {read : ObjectReference} {own : String}
    (readRef : ObjectReference.read ref default = .ok read)
    (atMetadata : Resource.field object "metadata" = .ok metadata)
    (atNamespace : Resource.field metadata "namespace" = .ok default) (held : Field.heldText default = .ok own) :
    object.LeadsTo ref read.target := by
  obtain ⟨named, accepted⟩ := told_of_read readRef
  cases gives : ref.given? "namespace" with
  | some entry =>
    rw [gives] at accepted
    have there : entry ≠ .null := by
      rintro rfl
      have counts := (Option.filter_eq_some_iff.mp gives).2
      cases counts
    obtain ⟨ns, same, text⟩ := Field.heldText_of_optional accepted there
    rw [ObjectReference.target, same]
    exact .given named gives text
  | none =>
    rw [gives] at accepted
    have there : default ≠ .null := by
      rintro rfl
      cases held
    obtain ⟨ns, same, text⟩ := Field.heldText_of_optional accepted there
    have lies : object.at? ["metadata", "namespace"] = some default := by
      rw [Resource.at?_of_field atMetadata, Value.at?_singleton]
      exact Resource.under?_of_field atNamespace there
    rw [ObjectReference.target, same]
    exact .own named gives lies text

namespace NodeGroup

theorem of_assemble {kind : GroupKind} {name ns clusterName replicas readyReplicas : Value}
    {templateRef : ObjectReference} {configRef : Option ObjectReference} {group : NodeGroup}
    (ok : assemble kind name ns clusterName replicas readyReplicas templateRef configRef = .ok group) :
    group.templateRef = templateRef ∧ group.configRef = configRef ∧ Field.heldText ns = .ok group.ns := by
  have accepted := Checked.toExcept_eq_ok.mp ok
  rw [checkWith_of] at accepted
  obtain ⟨_, _, toTemplate, config, rfl⟩ := Checked.apply_eq_accepted.mp accepted
  obtain ⟨_, _, toReady, template, rfl⟩ := Checked.apply_eq_accepted.mp toTemplate
  obtain ⟨_, _, toReplicas, _, rfl⟩ := Checked.apply_eq_accepted.mp toReady
  obtain ⟨_, _, toCluster, _, rfl⟩ := Checked.apply_eq_accepted.mp toReplicas
  obtain ⟨_, _, toNamespace, _, rfl⟩ := Checked.apply_eq_accepted.mp toCluster
  obtain ⟨_, _, toName, namespaced, rfl⟩ := Checked.apply_eq_accepted.mp toNamespace
  obtain ⟨_, _, toKind, _, rfl⟩ := Checked.apply_eq_accepted.mp toName
  obtain ⟨_, _, made, _, rfl⟩ := Checked.apply_eq_accepted.mp toKind
  cases made
  cases config
  cases template
  exact ⟨rfl, rfl, Field.heldText_of_text (Checked.under_eq_accepted.mp namespaced)⟩

def RefersAt (object : Value) (path : List String) (ref : ObjectReference) : Prop :=
  ∃ v, object.at? path = some v ∧ v.truthy = true ∧ object.LeadsTo v ref.target

theorem refersAt_of_ofControlPlane {plane clusterName : Value} {group : NodeGroup}
    (read : ofControlPlane plane clusterName = .ok group) :
    RefersAt plane ["spec", "machineTemplate", "infrastructureRef"] group.templateRef := by
  unfold ofControlPlane at read
  obtain ⟨metadata, atMetadata, read⟩ := ok_of_bind read
  obtain ⟨machineTemplate, atTemplate, read⟩ := ok_of_bind read
  obtain ⟨infrastructureRef, atRef, read⟩ := ok_of_bind read
  obtain ⟨name, _, read⟩ := ok_of_bind read
  obtain ⟨ns, atNamespace, read⟩ := ok_of_bind read
  obtain ⟨replicas, _, read⟩ := ok_of_bind read
  obtain ⟨readyReplicas, _, read⟩ := ok_of_bind read
  obtain ⟨templateRef, readRef, read⟩ := ok_of_bind read
  obtain ⟨template, _, held⟩ := of_assemble read
  have leads := ObjectReference.leadsTo_of_read readRef atMetadata atNamespace held
  have stands : plane.at? ["spec", "machineTemplate", "infrastructureRef"] = some infrastructureRef := by
    obtain ⟨entries, rfl⟩ := Resource.eq_resource_of_field atMetadata
    rw [Resource.at?_part, Resource.at?_of_getOr atTemplate, Value.at?_singleton]
    exact Resource.under?_of_getOr atRef leads.not_empty
  rw [template]
  exact ⟨infrastructureRef, stands, Value.truthy_of_told? leads.named, leads⟩

theorem refersAt_of_ofMachineDeployment {deployment : Value} {group : NodeGroup}
    (read : ofMachineDeployment deployment = .ok group) :
    RefersAt deployment ["spec", "template", "spec", "infrastructureRef"] group.templateRef ∧
      match group.configRef with
      | some config => RefersAt deployment ["spec", "template", "spec", "bootstrap", "configRef"] config
      | none => ∀ v, deployment.at? ["spec", "template", "spec", "bootstrap", "configRef"] = some v →
        v.truthy = false := by
  unfold ofMachineDeployment at read
  obtain ⟨metadata, atMetadata, read⟩ := ok_of_bind read
  obtain ⟨labels, _, read⟩ := ok_of_bind read
  obtain ⟨template, atTemplate, read⟩ := ok_of_bind read
  obtain ⟨machineSpec, atSpec, read⟩ := ok_of_bind read
  obtain ⟨bootstrap, atBootstrap, read⟩ := ok_of_bind read
  obtain ⟨configRef, atConfig, read⟩ := ok_of_bind read
  obtain ⟨name, _, read⟩ := ok_of_bind read
  obtain ⟨ns, atNamespace, read⟩ := ok_of_bind read
  obtain ⟨declared, _, read⟩ := ok_of_bind read
  obtain ⟨clusterName, _, read⟩ := ok_of_ite_bind read
  obtain ⟨replicas, _, read⟩ := ok_of_bind read
  obtain ⟨readyReplicas, _, read⟩ := ok_of_bind read
  obtain ⟨infrastructureRef, atRef, read⟩ := ok_of_bind read
  obtain ⟨templateRef, readTemplate, read⟩ := ok_of_bind read
  obtain ⟨config, readConfig, read⟩ := ok_of_ite_bind read
  obtain ⟨template, configured, held⟩ := of_assemble read
  obtain ⟨entries, rfl⟩ := Resource.eq_resource_of_field atMetadata
  have path (key : String) (path : List String) :
      (Value.resource entries).at? ("spec" :: "template" :: "spec" :: key :: path) =
        machineSpec.at? (key :: path) := by
    rw [Resource.at?_part, Resource.at?_of_getOr atTemplate, Resource.at?_of_getOr atSpec]
  constructor
  · have leads := ObjectReference.leadsTo_of_read readTemplate atMetadata atNamespace held
    rw [template]
    refine ⟨infrastructureRef, ?_, Value.truthy_of_told? leads.named, leads⟩
    rw [path, Value.at?_singleton]
    exact Resource.under?_of_getOr atRef leads.not_empty
  · have stands : (Value.resource entries).at? ["spec", "template", "spec", "bootstrap", "configRef"] =
        bootstrap.under? "configRef" := by
      rw [path, Resource.at?_of_getOr atBootstrap, Value.at?_singleton]
    rw [configured]
    split at readConfig
    · obtain ⟨one, readOne, rfl⟩ := ok_of_map readConfig
      have leads := ObjectReference.leadsTo_of_read readOne atMetadata atNamespace held
      have there := Resource.under?_of_get atConfig leads.not_document leads.not_null
      exact ⟨configRef, stands.trans there, Value.truthy_of_told? leads.named, leads⟩
    · rename_i nothing
      cases readConfig
      intro v there
      rw [stands] at there
      exact Resource.not_truthy_of_get atConfig (by simpa using nothing) there

end NodeGroup

theorem Server.text_of_keeps {s : Server} {kind : String} {name object : Value} {ns : Option String}
    (keeps : s.Keeps kind name ns object) : ∃ text, name = .text text := by
  obtain ⟨body, found, _⟩ := keeps
  obtain ⟨o, there, _⟩ := Option.map_eq_some_iff.mp found
  have named := List.find?_some there
  cases name with
  | text text => exact ⟨text, rfl⟩
  | _ => simp at named

namespace Collection

inductive Referred where
  | providerCluster | machineTemplate | configTemplate
  deriving DecidableEq, Repr

namespace Inventory

inductive Refers (i : Inventory) : Referred → Value → Value → Prop
  | cluster {ref : Value} (stands : i.cluster.at? ["spec", "infrastructureRef"] = some ref)
      (named : (ref.given? "name").isSome = true) : Refers i .providerCluster i.cluster ref
  | plane {plane ref : Value} (among : plane ∈ i.planes)
      (stands : plane.at? ["spec", "machineTemplate", "infrastructureRef"] = some ref) :
      Refers i .machineTemplate plane ref
  | deployment {deployment ref : Value} (among : deployment ∈ i.deployments)
      (stands : deployment.at? ["spec", "template", "spec", "infrastructureRef"] = some ref) :
      Refers i .machineTemplate deployment ref
  | bootstrap {deployment ref : Value} (among : deployment ∈ i.deployments)
      (stands : deployment.at? ["spec", "template", "spec", "bootstrap", "configRef"] = some ref)
      (counts : ref.truthy = true) : Refers i .configTemplate deployment ref

def Fetches (i : Inventory) (ns : String) : Referred → Option String × String → Prop
  | .providerCluster, target =>
    (∃ ref, i.Refers .providerCluster i.cluster ref) ∧ ∃ name, i.provider = .text name ∧ target = (some ns, name)
  | .machineTemplate, target => ∃ ref ∈ i.templateRefs, ref.target = target
  | .configTemplate, target => ∃ ref ∈ i.configRefs, ref.target = target

/-- Objects are fetched from where the references to them lead, and from nowhere else. -/
structure Follows (i : Inventory) (ns : String) (what : Referred) : Prop where
  fetched : ∀ object ref, i.Refers what object ref →
    ∃ target, object.LeadsTo ref target ∧ i.Fetches ns what target
  referred : ∀ target, i.Fetches ns what target →
    ∃ object ref, i.Refers what object ref ∧ object.LeadsTo ref target

end Inventory

theorem FirstSeen.targets {refs found : List ObjectReference} (firstSeen : FirstSeen [] refs found)
    (target : Option String × String) :
    (∃ ref ∈ found, ref.target = target) ↔ ∃ ref ∈ refs, ref.target = target := by
  constructor
  · rintro ⟨one, member, same⟩
    exact ⟨one, List.mem_of_find?_eq_some (firstSeen.first one member), same⟩
  · rintro ⟨ref, member, same⟩
    rcases firstSeen.complete ref member with known | ⟨one, among, alike⟩
    · cases known
    · exact ⟨one, among, alike.trans same⟩

theorem exists_of_forall₂ {α β : Type} {R : α → β → Prop} {as : List α} {bs : List β} (step : List.Forall₂ R as bs) :
    (∀ a ∈ as, ∃ b ∈ bs, R a b) ∧ ∀ b ∈ bs, ∃ a ∈ as, R a b := by
  induction step with
  | nil => simp
  | cons related _ ih =>
    simp only [List.forall_mem_cons, List.exists_mem_cons_iff]
    exact ⟨⟨.inl related, fun a among => .inr (ih.1 a among)⟩, .inl related, fun b among => .inr (ih.2 b among)⟩

namespace Inventory

variable {i : Inventory} {name ns : String} {type : Definition → String × String} {s : Server}

theorem follows_machineTemplate (kept : i.Kept name ns type s) : i.Follows ns .machineTemplate := by
  obtain ⟨groupOfPlane, planeOfGroup⟩ := exists_of_forall₂ kept.planeGroups
  obtain ⟨groupOfDeployment, deploymentOfGroup⟩ := exists_of_forall₂ kept.workerGroups
  have known {group : NodeGroup} (member : group ∈ i.planeGroups ++ i.workerGroups) :
      i.Fetches ns .machineTemplate group.templateRef.target :=
    (kept.templateRefs.targets _).mpr ⟨_, List.mem_map_of_mem member, rfl⟩
  constructor
  · intro object ref refers
    cases refers with
    | plane among stands =>
      obtain ⟨group, member, read⟩ := groupOfPlane _ among
      obtain ⟨v, there, _, leads⟩ := NodeGroup.refersAt_of_ofControlPlane read
      obtain rfl := Option.some.inj (stands.symm.trans there)
      exact ⟨_, leads, known (List.mem_append_left _ member)⟩
    | deployment among stands =>
      obtain ⟨group, member, read⟩ := groupOfDeployment _ among
      obtain ⟨⟨v, there, _, leads⟩, _⟩ := NodeGroup.refersAt_of_ofMachineDeployment read
      obtain rfl := Option.some.inj (stands.symm.trans there)
      exact ⟨_, leads, known (List.mem_append_right _ member)⟩
  · intro target fetched
    obtain ⟨_, listed, rfl⟩ := (kept.templateRefs.targets target).mp fetched
    obtain ⟨group, member, rfl⟩ := List.mem_map.mp listed
    rcases List.mem_append.mp member with member | member
    · obtain ⟨plane, among, read⟩ := planeOfGroup group member
      obtain ⟨v, there, _, leads⟩ := NodeGroup.refersAt_of_ofControlPlane read
      exact ⟨plane, v, .plane among there, leads⟩
    · obtain ⟨deployment, among, read⟩ := deploymentOfGroup group member
      obtain ⟨⟨v, there, _, leads⟩, _⟩ := NodeGroup.refersAt_of_ofMachineDeployment read
      exact ⟨deployment, v, .deployment among there, leads⟩

theorem follows_configTemplate (kept : i.Kept name ns type s) : i.Follows ns .configTemplate := by
  obtain ⟨groupOfDeployment, deploymentOfGroup⟩ := exists_of_forall₂ kept.workerGroups
  constructor
  · intro object ref refers
    cases refers with
    | bootstrap among stands counts =>
      obtain ⟨group, member, read⟩ := groupOfDeployment _ among
      obtain ⟨_, configured⟩ := NodeGroup.refersAt_of_ofMachineDeployment read
      cases config : group.configRef with
      | none =>
        rw [config] at configured
        rw [configured ref stands] at counts
        cases counts
      | some one =>
        rw [config] at configured
        obtain ⟨v, there, _, leads⟩ := configured
        obtain rfl := Option.some.inj (stands.symm.trans there)
        exact ⟨_, leads, (kept.configRefs.targets _).mpr ⟨one, List.mem_filterMap.mpr ⟨group, member, config⟩, rfl⟩⟩
  · intro target fetched
    obtain ⟨one, listed, rfl⟩ := (kept.configRefs.targets target).mp fetched
    obtain ⟨group, member, config⟩ := List.mem_filterMap.mp listed
    obtain ⟨deployment, among, read⟩ := deploymentOfGroup group member
    obtain ⟨_, configured⟩ := NodeGroup.refersAt_of_ofMachineDeployment read
    rw [config] at configured
    obtain ⟨v, there, counts, leads⟩ := configured
    exact ⟨deployment, v, .bootstrap among there counts, leads⟩

theorem provider_of_refers (kept : i.Kept name ns type s) {ref : Value}
    (refers : i.Refers .providerCluster i.cluster ref) :
    ∃ n, ref.told? "name" = some n ∧ i.provider = .text n := by
  obtain ⟨found, asked, read⟩ := ok_of_bind kept.provider
  obtain ⟨given, askedName, read⟩ := ok_of_bind read
  have provider : i.provider = given.orElse (.text name) := (Except.ok.inj read).symm
  obtain ⟨body, _, sent⟩ := kept.cluster
  obtain ⟨entries, isResource⟩ := Resource.eq_resource_of_ofValue sent
  cases refers with
  | cluster stands named =>
    obtain ⟨entry, gives⟩ := Option.isSome_iff_exists.mp named
    obtain ⟨there, counts⟩ := Option.filter_eq_some_iff.mp gives
    -- What has entries is neither a document nor counts as nothing.
    have plain {v entry : Value} {key : String} (there : v.under? key = some entry) : ∀ d, v ≠ .document d := by
      rintro d rfl
      cases there
    have standsInSpec : (Resource.part i.cluster "spec").under? "infrastructureRef" = some ref := by
      rw [isResource, Resource.at?_part, Value.at?_singleton] at stands
      rw [isResource]
      exact stands
    have atRef := Resource.eq_of_get asked (plain standsInSpec)
    rw [standsInSpec] at atRef
    obtain rfl : found = ref := atRef
    rw [Value.orElse, if_pos (Value.truthy_of_under? there)] at askedName
    rw [Resource.eq_of_get askedName (plain there), Value.orElse_eq_given?, gives] at provider
    have provider : i.provider = entry := provider
    obtain ⟨n, text⟩ := Server.text_of_keeps kept.providerCluster
    refine ⟨n, ?_, text⟩
    rw [Value.told?_eq_some]
    exact ⟨entry, there, by rw [← provider, text]; rfl⟩

/-- It is asked for in the namespace of the cluster, so it follows the reference if that leads there. -/
theorem follows_providerCluster_iff (kept : i.Kept name ns type s) :
    i.Follows ns .providerCluster ↔
      ∀ ref, i.Refers .providerCluster i.cluster ref → ∃ n, i.cluster.LeadsTo ref (some ns, n) := by
  have led {ref : Value} {n : String} (refers : i.Refers .providerCluster i.cluster ref)
      (leads : i.cluster.LeadsTo ref (some ns, n)) : i.provider = .text n := by
    obtain ⟨n', told, called⟩ := provider_of_refers kept refers
    rw [called, Option.some.inj (told.symm.trans leads.named)]
  constructor
  · intro follows ref refers
    obtain ⟨target, leads, _, n, _, rfl⟩ := follows.fetched _ _ refers
    exact ⟨n, leads⟩
  · intro leads
    constructor
    · intro object ref refers
      obtain rfl : object = i.cluster := by cases refers; rfl
      obtain ⟨n, leads⟩ := leads ref refers
      exact ⟨_, leads, ⟨ref, refers⟩, n, led refers leads, rfl⟩
    · rintro target ⟨⟨ref, refers⟩, n, called, rfl⟩
      obtain ⟨n', leads⟩ := leads ref refers
      have same : Value.text n = .text n' := called.symm.trans (led refers leads)
      cases same
      exact ⟨i.cluster, ref, refers, leads⟩

end Inventory

variable {name ns : String} {w after : World} {documents : List Value}

theorem inventory_of_collect (returned : collect name ns w = (.ok documents, after)) :
    ∃ i : Inventory, i.Kept name ns w.session.typeOf w.server ∧
      w.Asks definitions after (i.calls name ns w.session.typeOf) := by
  obtain ⟨found, between, gathered, ok⟩ := steps_of_ok (ok_of_within returned)
  obtain ⟨_, recorded, noted, ok⟩ := steps_of_ok ok
  obtain ⟨_, rfl⟩ := ok_of_ofExcept ok
  obtain ⟨i, _, kept, asked⟩ := objects_of_ok gathered
  cases noted
  exact ⟨i, kept, asked.server, asked.types, asked.calls⟩

/--
The templates that a cluster's groups refer to are fetched from where the references lead, and no others. The
provider's cluster is fetched by the name that is given in the reference to it. Where that leads is followed
exactly if it leads to the namespace that the cluster itself was asked for in.
-/
theorem references_followed_iff (returned : collect name ns w = (.ok documents, after)) :
    ∃ i : Inventory, i.Kept name ns w.session.typeOf w.server ∧
      w.Asks definitions after (i.calls name ns w.session.typeOf) ∧
      i.Follows ns .machineTemplate ∧ i.Follows ns .configTemplate ∧
      (∀ ref, i.Refers .providerCluster i.cluster ref →
        ∃ n, ref.told? "name" = some n ∧ i.provider = .text n) ∧
      (i.Follows ns .providerCluster ↔
        ∀ ref, i.Refers .providerCluster i.cluster ref → ∃ n, i.cluster.LeadsTo ref (some ns, n)) := by
  obtain ⟨i, kept, asked⟩ := inventory_of_collect returned
  exact ⟨i, kept, asked, Inventory.follows_machineTemplate kept, Inventory.follows_configTemplate kept,
    fun ref refers => Inventory.provider_of_refers kept refers, Inventory.follows_providerCluster_iff kept⟩

def referring (place : String) : World where
  server :=
    { objects :=
        [storedObject "Cluster" "demo" "clusters" []
            [("infrastructureRef", .ofRecord [("name", .text "demo-infra"), ("namespace", .text place)])],
          storedObject "VCDCluster" "demo-infra" "clusters" [] [],
          storedObject "VCDCluster" "demo-infra" "infra" [] [],
          storedObject "KubeadmControlPlane" "planes" "clusters" [("cluster.x-k8s.io/cluster-name", "demo")]
            [("machineTemplate", .ofRecord [("infrastructureRef",
              .ofRecord [("name", .text "small"), ("namespace", .text "shared")])])],
          storedObject "VCDMachineTemplate" "small" "shared" [] []]
      secrets := []
      notServed := []
      failures := []
      inClusterFault := none
      kubeconfigFault := none }
  session := .borrowed
  nextClient := 1
  calls := []
  events := []

theorem stands_of_referring {place : String} {i : Inventory}
    (kept : i.Kept "demo" "clusters" Session.borrowed.typeOf (referring place).server) :
    i.cluster.at? ["spec", "infrastructureRef"] =
      some (.resource [(.text "name", .text "demo-infra"), (.text "namespace", .text place)]) := by
  obtain ⟨body, found, sent⟩ := kept.cluster
  cases found
  generalize i.cluster = cluster at sent ⊢
  cases sent
  rfl

theorem references_followed_iff_own_namespace :
    ∃ documents after, collect "demo" "clusters" (referring "clusters") = (.ok documents, after) ∧
      ∃ i : Inventory, i.Kept "demo" "clusters" Session.borrowed.typeOf (referring "clusters").server ∧
        ∀ what, i.Follows "clusters" what := by
  have returns : (collect "demo" "clusters" (referring "clusters")).1.toOption.isSome = true := by decide +kernel
  rcases collected : collect "demo" "clusters" (referring "clusters") with ⟨failure | documents, after⟩
  · rw [collected] at returns
    cases returns
  · obtain ⟨i, kept, _, templates, configs, _, provider⟩ := references_followed_iff collected
    refine ⟨documents, after, rfl, i, kept, fun what => ?_⟩
    cases what with
    | machineTemplate => exact templates
    | configTemplate => exact configs
    | providerCluster =>
      refine provider.mpr fun ref refers => ⟨"demo-infra", ?_⟩
      cases refers with
      | cluster stands named =>
        obtain rfl := Option.some.inj ((stands_of_referring kept).symm.trans stands)
        exact .given rfl rfl rfl

/-- The cluster refers to another namespace, but its own is where the provider's cluster is fetched from. -/
theorem unfollowed_namespace :
    ¬ ∀ (name ns : String) (w after : World) (documents : List Value),
      collect name ns w = (.ok documents, after) →
      ∃ i : Inventory, i.Kept name ns w.session.typeOf w.server ∧
        w.Asks definitions after (i.calls name ns w.session.typeOf) ∧ ∀ what, i.Follows ns what := by
  intro always
  have returns : (collect "demo" "clusters" (referring "infra")).1.toOption.isSome = true := by decide +kernel
  rcases collected : collect "demo" "clusters" (referring "infra") with ⟨failure | documents, after⟩
  · rw [collected] at returns
    cases returns
  · obtain ⟨i, kept, _, follows⟩ := always _ _ _ _ _ collected
    have refers : i.Refers .providerCluster i.cluster _ := .cluster (stands_of_referring kept) rfl
    obtain ⟨target, leads, _, n, _, rfl⟩ := (follows .providerCluster).fetched _ _ refers
    cases leads with
    | given named gives text =>
      cases gives
      exact absurd (Except.ok.inj text) (by decide)
    | own named gives => cases gives

end Collection
end ClusterLedger
