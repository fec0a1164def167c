import ClusterLedger.Proofs.Actions
import ClusterLedger.Proofs.Redaction
import ClusterLedger.Settings

/-!
What the settings are advised on. Whether anything is redacted is judged twice: the advice looks at the
fields as they are listed, the rule at those of them that are paths.
-/

namespace ClusterLedger
namespace Document

def along : List String → Document
  | [] => .null
  | key :: rest => .mapping [(key, along rest)]

theorem at?_along (path : List String) : (along path).at? path = some .null := by
  induction path with
  | nil => rfl
  | cons key rest ih =>
    have child : (along (key :: rest)).child? key = some (along rest) := by simp [along, child?, Assoc.find?]
    rw [at?_cons, child]
    exact ih

end Document

namespace RedactionRule

/-- Every path of a rule shows in some document. -/
theorem paths_eq_nil_iff (rule : RedactionRule) : rule.paths = [] ↔ ∀ d, rule.apply d = d := by
  constructor
  · intro none d
    unfold apply
    rw [none]
    rfl
  · intro unchanged
    refine List.eq_nil_iff_forall_not_mem.mpr fun path listed => ?_
    have masked := rule.masked_apply listed (.along path)
    rw [unchanged, Document.Masked, Document.at?_along] at masked
    simp at masked

end RedactionRule

namespace Settings

def ignoredContext : String := "kubeconfig_context is ignored with auth_mode=in_cluster"

def unredacted : String := "No redacted fields configured; credentials may appear in projections"

def hints (s : Settings) : List String :=
  (if s.authMode = .inCluster && isGiven s.kubeconfigContext then [ignoredContext] else []) ++
    (if s.redactedFields.isEmpty then [unredacted] else [])

variable {host : Host} {s : Settings}

theorem advice_inCluster (mode : s.authMode = .inCluster) :
    s.advice host =
      if isGiven s.kubeconfigPath then .error (.badValue .pathInCluster) else .ok s.hints := by
  unfold advice hints
  rw [mode]
  cases isGiven s.kubeconfigPath <;> rfl

theorem advice_auto (mode : s.authMode = .auto) : s.advice host = .ok s.hints := by
  unfold advice hints
  rw [mode]
  rfl

theorem advice_kubeconfig (mode : s.authMode = .kubeconfig) :
    s.advice host = (do
      let path ← s.accessPath host
      if ← host.has path then .ok s.hints else .error (.badValue (.noKubeconfig path.text))) := by
  unfold advice hints
  rw [mode]
  cases s.accessPath host with
  | error failure => rfl
  | ok path =>
    show (host.has path >>= _) = (host.has path >>= _)
    cases host.has path with
    | error failure => rfl
    | ok present => cases present <;> rfl

/-- Whatever is checked on the way, there is one advice to give. -/
theorem hints_of_advice {advice : List String} (returned : s.advice host = .ok advice) :
    advice = s.hints := by
  cases mode : s.authMode with
  | inCluster =>
    rw [advice_inCluster mode] at returned
    split at returned
    · cases returned
    · exact (Except.ok.inj returned).symm
  | auto => exact (Except.ok.inj ((advice_auto mode).symm.trans returned)).symm
  | kubeconfig =>
    rw [advice_kubeconfig mode] at returned
    obtain ⟨path, _, checked⟩ := ok_of_bind returned
    obtain ⟨present, _, given⟩ := ok_of_bind checked
    split at given
    · exact (Except.ok.inj given).symm
    · cases given

theorem unredacted_mem_hints : unredacted ∈ s.hints ↔ s.redactedFields = [] := by
  have differ : unredacted ≠ ignoredContext := by decide
  have context : unredacted ∉
      if s.authMode = .inCluster && isGiven s.kubeconfigContext then [ignoredContext] else [] := by
    split <;> simp [differ]
  unfold hints
  rw [List.mem_append, or_iff_right context]
  cases s.redactedFields <;> simp

theorem rule_paths_eq_nil_iff : s.rule.paths = [] ↔ ∀ field ∈ s.redactedFields, field = "" := by
  simp [rule, RedactionRule.ofDotted]

/--
Who is told that nothing is redacted is told the truth, and nothing is redacted exactly if no document
changes. That everyone is told is true exactly of settings that list no field at all or one that is a
path: fields that are all empty texts redact nothing, and go without the advice.
-/
theorem unredacted_advised_iff {advice : List String} (returned : s.advice host = .ok advice) :
    (unredacted ∈ advice → s.rule.paths = []) ∧
    (s.rule.paths = [] ↔ ∀ d, s.rule.apply d = d) ∧
    ((unredacted ∈ advice ↔ s.rule.paths = []) ↔
      s.redactedFields = [] ∨ ∃ field ∈ s.redactedFields, field ≠ "") := by
  have advised : unredacted ∈ advice ↔ s.redactedFields = [] := by
    rw [hints_of_advice returned]
    exact unredacted_mem_hints
  refine ⟨?_, s.rule.paths_eq_nil_iff, ?_⟩
  · intro told
    simp [rule_paths_eq_nil_iff, advised.mp told]
  · rw [advised, rule_paths_eq_nil_iff]
    constructor
    · -- Fields that are all empty have to be no fields.
      intro agree
      by_cases path : ∃ field ∈ s.redactedFields, field ≠ ""
      · exact .inr path
      · refine .inl (agree.mpr fun field listed => ?_)
        exact Decidable.byContradiction fun nonempty => path ⟨field, listed, nonempty⟩
    · rintro (none | ⟨field, listed, nonempty⟩)
      · simp [none]
      · constructor
        · intro none
          rw [none] at listed
          cases listed
        · exact fun empty => absurd (empty field listed) nonempty

def redacting (fields : List String) : Settings :=
  ⟨.auto, none, none, .info, RedactionRule.defaultSentinel, fields⟩

theorem unredacted_advised_iff_empty_beside_path :
    let s := redacting ["", "spec.token"]
    s.advice .bare = .ok [] ∧
      (unredacted ∈ ([] : List String) ↔ s.rule.paths = []) ∧
      ¬ ∀ d, s.rule.apply d = d := by
  have returned : (redacting ["", "spec.token"]).advice .bare = .ok [] := rfl
  obtain ⟨_, changes, truthful⟩ := unredacted_advised_iff returned
  refine ⟨returned, truthful.mpr (.inr ⟨"spec.token", by decide, by decide⟩), ?_⟩
  rw [← changes]
  decide

/-- One empty text is a list of fields, but no path. -/
theorem unadvised_empty_field :
    ¬ ∀ (host : Host) (s : Settings) (advice : List String), s.advice host = .ok advice →
      (unredacted ∈ advice ↔ s.rule.paths = []) := by
  intro truthful
  have agree := truthful .bare (redacting [""]) [] rfl
  exact absurd (agree.mpr (by decide)) (by decide)

end Settings
end ClusterLedger
