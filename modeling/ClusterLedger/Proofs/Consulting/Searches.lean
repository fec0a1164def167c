import ClusterLedger.Proofs.Connection.Containment
import ClusterLedger.Proofs.Consulting.Discovery

namespace ClusterLedger

open ClusterLedger.Action

namespace Definition

def entry (client : Nat) (d : Definition) : String × Handle := (d.cacheKey, ⟨d.apiVersion, d.kind, client⟩)

def uncached (s : Session) (ds : List Definition) : List Definition :=
  ds.filter fun d => !Assoc.contains d.cacheKey s.cache

variable {d : Definition} {s : Session}

theorem uncached_of_found {handle : Handle} (found : Assoc.find? d.cacheKey s.cache = some handle)
    (rest : List Definition) : uncached s (d :: rest) = uncached s rest :=
  List.filter_cons_of_neg (by simp [Assoc.contains, found])

theorem uncached_of_absent (absent : Assoc.find? d.cacheKey s.cache = none) (rest : List Definition) :
    uncached s (d :: rest) = d :: uncached s rest :=
  List.filter_cons_of_pos (by simp [Assoc.contains, absent])

end Definition

namespace Server

def Lacks (s : Server) (d : Definition) : Prop := d.kind ∈ s.notServed

instance (s : Server) (d : Definition) : Decidable (s.Lacks d) := inferInstanceAs (Decidable (d.kind ∈ s.notServed))

/-- How a discovery is refused, if it is, as long as no failure is due to it. -/
def verdict (s : Server) (d : Definition) : Option Refusal :=
  if s.Lacks d then some (.notServed d.apiVersion) else none

def Scripted (s : Server) (refusal : Refusal) : Prop :=
  ∃ rule ∈ s.failures, rule.request = .discover ∧ rule.refusal = refusal

inductive Answers (s : Server) (d : Definition) : Option Refusal → Prop
  | verdict : Answers s d (s.verdict d)
  | due {refusal : Refusal} (scripted : s.Scripted refusal) : Answers s d (some refusal)

end Server

namespace FailureRule

theorem of_fire {request : Request} {kind : Option String} {name : Option Value} {rules left : List FailureRule}
    {refusal : Refusal} (fired : fire request kind name rules = some (refusal, left)) :
    (∃ rule ∈ rules, rule.request = request ∧ rule.refusal = refusal) ∧
      ∀ rule ∈ left, ∃ former ∈ rules, former.request = rule.request ∧ former.refusal = rule.refusal := by
  induction rules generalizing left with
  | nil => cases fired
  | cons first rest ih =>
    rw [fire] at fired
    split at fired
    · rename_i met
      cases fired
      have own : first.request = request := by
        simp only [meets, Bool.and_eq_true, decide_eq_true_eq] at met
        exact met.1.1.1
      refine ⟨⟨first, List.mem_cons_self, own, rfl⟩, fun rule member => ?_⟩
      rcases List.mem_cons.mp member with rfl | later
      · exact ⟨first, List.mem_cons_self, rfl, rfl⟩
      · exact ⟨rule, List.mem_cons_of_mem _ later, rfl, rfl⟩
    · obtain ⟨⟨refusal', others⟩, later, same⟩ := Option.map_eq_some_iff.mp fired
      cases same
      obtain ⟨⟨rule, member, about⟩, kept⟩ := ih later
      refine ⟨⟨rule, List.mem_cons_of_mem _ member, about⟩, fun rule member => ?_⟩
      rcases List.mem_cons.mp member with rfl | later
      · exact ⟨rule, List.mem_cons_self, rfl, rfl⟩
      · obtain ⟨former, among, alike⟩ := kept rule later
        exact ⟨former, List.mem_cons_of_mem _ among, alike⟩

end FailureRule

/--
Types were asked for, each with the refusal that it met if it met one. Those that met none were added to the
cache as handles of this client, failures to come were used up, and nothing else changed.
-/
structure World.Searched (client : Nat) (w : World) (asked : List (Definition × Option Refusal)) (after : World) :
    Prop where
  world : ∃ rules, after = { w with
    server := { w.server with failures := rules }
    session := { w.session with
      cache := w.session.cache ++ (asked.filter (·.2.isNone)).map (·.1.entry client) }
    calls := w.calls ++ asked.map fun (d, refusal) => ⟨.discover d, refusal⟩ }
  answers : ∀ d refusal, (d, refusal) ∈ asked → w.server.Answers d refusal
  script : ∀ refusal, after.server.Scripted refusal → w.server.Scripted refusal

namespace World.Searched

variable {client : Nat} {w w' w'' : World} {asked later : List (Definition × Option Refusal)}

theorem nil (client : Nat) (w : World) : w.Searched client [] w where
  world := ⟨w.server.failures, by simp⟩
  answers := fun _ _ none => (List.not_mem_nil none).elim
  script := fun _ scripted => scripted

theorem trans (first : w.Searched client asked w') (second : w'.Searched client later w'') :
    w.Searched client (asked ++ later) w'' := by
  obtain ⟨⟨rules, rfl⟩, answers, script⟩ := first
  obtain ⟨⟨rules', rfl⟩, moreAnswers, moreScript⟩ := second
  refine ⟨⟨rules', ?_⟩, fun d refusal member => ?_, fun refusal scripted => script _ (moreScript _ scripted)⟩
  · simp only [List.filter_append, List.map_append, List.append_assoc]
  · rcases List.mem_append.mp member with early | late
    · exact answers d refusal early
    · cases moreAnswers d refusal late with
      | verdict => exact .verdict
      | due scripted => exact .due (script _ scripted)

theorem dynamic (searched : w.Searched client asked w') : w'.session.dynamic = w.session.dynamic := by
  obtain ⟨rules, rfl⟩ := searched.world
  rfl

theorem mem_traffic (searched : w.Searched client asked w') {d : Definition} {refusal : Option Refusal} :
    ⟨.discover d, refusal⟩ ∈ w.traffic w' ↔ (d, refusal) ∈ asked := by
  obtain ⟨rules, world⟩ := searched.world
  rw [World.traffic_of_append (congrArg World.calls world)]
  simp

/-- What was asked for does not make a difference to whether types with other keys are cached. -/
theorem uncached {ds : List Definition} (searched : w.Searched client asked w')
    (apart : ∀ d ∈ ds, ∀ e met, (e, met) ∈ asked → e.cacheKey ≠ d.cacheKey) :
    Definition.uncached w'.session ds = Definition.uncached w.session ds := by
  obtain ⟨rules, rfl⟩ := searched.world
  refine List.filter_congr fun d among => congrArg Bool.not ?_
  rw [Bool.eq_iff_iff, Assoc.contains_eq_true, Assoc.contains_eq_true]
  show d.cacheKey ∈ (w.session.cache ++ _).map Prod.fst ↔ _
  rw [List.map_append, List.mem_append]
  refine or_iff_left ?_
  simp only [List.map_map, List.mem_map, List.mem_filter, not_exists, not_and]
  rintro ⟨e, met⟩ ⟨member, -⟩ same
  exact apart d among e met member same

end World.Searched

theorem Server.discover_answers (s : Server) (d : Definition) : ∃ refusal rules,
    s.discover d.apiVersion d.kind = (refusal.elim (.ok ()) .error, { s with failures := rules }) ∧
      s.Answers d refusal ∧ ∀ later, { s with failures := rules }.Scripted later → s.Scripted later := by
  unfold discover reply
  cases fired : FailureRule.fire .discover (some d.kind) none s.failures with
  | none =>
    refine ⟨s.verdict d, s.failures, ?_, .verdict, fun _ scripted => scripted⟩
    by_cases lacks : s.Lacks d
    · rw [verdict, if_pos lacks, if_pos (List.contains_iff_mem.mpr lacks)]
      rfl
    · have served : ¬s.notServed.contains d.kind = true := fun listed => lacks (List.contains_iff_mem.mp listed)
      rw [verdict, if_neg lacks, if_neg served]
      rfl
  | some due =>
    obtain ⟨refusal, rules⟩ := due
    obtain ⟨scripted, kept⟩ := FailureRule.of_fire fired
    refine ⟨some refusal, rules, rfl, .due scripted, ?_⟩
    rintro later ⟨rule, member, own, same⟩
    obtain ⟨former, among, request, alike⟩ := kept rule member
    exact ⟨former, among, request.trans own, alike.trans same⟩

theorem Client.resource_of_found {d : Definition} {w : World} {handle : Handle}
    (found : Assoc.find? d.cacheKey w.session.cache = some handle) : resource d w = (.ok handle, w) := by
  have outcome := resource_outcome d w
  generalize resource d w = result at outcome
  cases outcome with
  | cached same => rw [Option.some.inj (found.symm.trans same)]
  | unconnected absent | refused absent | discovered absent =>
    rw [found] at absent
    cases absent

theorem Client.resource_searches {d : Definition} {w : World} {client : Nat}
    (connected : w.session.dynamic = some client)
    (absent : Assoc.find? d.cacheKey w.session.cache = none) :
    ∃ refusal, w.Searched client [(d, refusal)] (resource d w).2 ∧
      (resource d w).1 = refusal.elim (.ok (d.entry client).2)
        fun refusal => .error (refusal.toFailure "discover" d.kind none none) := by
  obtain ⟨refusal, rules, replied, answers, script⟩ := w.server.discover_answers d
  have only : ∀ e met, (e, met) ∈ [(d, refusal)] → w.server.Answers e met := by
    intro e met member
    cases List.mem_singleton.mp member
    exact answers
  have outcome := resource_outcome d w
  refine ⟨refusal, ?_⟩
  generalize resource d w = result at outcome
  cases outcome with
  | cached found =>
    rw [absent] at found
    cases found
  | unconnected _ unconnected =>
    rw [connected] at unconnected
    cases unconnected
  | refused _ dynamic refused server failed =>
    rw [replied] at failed
    cases refusal with
    | none => cases failed
    | some met =>
      cases failed
      refine ⟨⟨⟨rules, ?_⟩, only, script⟩, rfl⟩
      simp [World.made]
  | discovered _ dynamic server found =>
    rw [replied] at found
    cases refusal with
    | some met => cases found
    | none =>
      cases found
      cases connected.symm.trans dynamic
      refine ⟨⟨⟨rules, ?_⟩, only, script⟩, rfl⟩
      rw [Assoc.set_of_not_mem (Assoc.find?_eq_none.mp absent)]
      rfl

def Refusal.PassedOver (d : Definition) (refusal : Refusal) : Prop :=
  Reconciler.isMisconfigured (refusal.toFailure "discover" d.kind none none) = true

namespace Reconciler

/--
How a search ends after what it asked for: it lists what was refused of all the types that it needs, or it ends
with the first refusal that it cannot pass over.
-/
inductive SearchEnd :
    List Definition → List (Definition × Option Refusal) → Except Failure (List String) → Prop
  | complete {asked : List (Definition × Option Refusal)}
      (passed : ∀ d refusal, (d, some refusal) ∈ asked → refusal.PassedOver d) :
      SearchEnd (asked.map (·.1)) asked (.ok ((asked.filter (·.2.isSome)).map (·.1.kind)))
  | stopped {earlier : List (Definition × Option Refusal)} {d : Definition} {refusal : Refusal}
      {later : List Definition} (passed : ∀ e met, (e, some met) ∈ earlier → met.PassedOver e)
      (stops : ¬refusal.PassedOver d) :
      SearchEnd (earlier.map (·.1) ++ d :: later) (earlier ++ [(d, some refusal)])
        (.error (refusal.toFailure "discover" d.kind none none))

variable {needed : List Definition} {asked : List (Definition × Option Refusal)}
  {result : Except Failure (List String)} {d : Definition}

theorem SearchEnd.cons {met : Option Refusal} (passed : ∀ refusal, met = some refusal → refusal.PassedOver d)
    (rest : SearchEnd needed asked result) :
    SearchEnd (d :: needed) ((d, met) :: asked)
      (result.map fun kinds => if met.isSome then d.kind :: kinds else kinds) := by
  have before {part : List (Definition × Option Refusal)}
      (others : ∀ e refusal, (e, some refusal) ∈ part → refusal.PassedOver e) :
      ∀ e refusal, (e, some refusal) ∈ (d, met) :: part → refusal.PassedOver e := by
    intro e refusal member
    rcases List.mem_cons.mp member with first | later
    · cases first
      exact passed refusal rfl
    · exact others e refusal later
  cases rest with
  | complete others =>
    have whole := SearchEnd.complete (before others)
    cases met <;> exact whole
  | stopped others stops => exact .stopped (before others) stops

theorem missingAmong_of_passedOver {rest : List Definition} {w after : World} {failure : Failure}
    (failed : Client.resource d w = (.error failure, after)) (passed : isMisconfigured failure = true) :
    missingAmong (d :: rest) w =
      ((missingAmong rest after).1.map (d.kind :: ·), (missingAmong rest after).2) := by
  rw [missingAmong_of_error failed, if_pos passed]
  rcases onward : missingAmong rest after with ⟨failure | kinds, final⟩
  · rw [bind_of_error onward]
    rfl
  · rw [bind_of_ok onward]
    rfl

/-- A search asks for types with different keys one by one, and what it finds does not bear on the others. -/
theorem search (ds : List Definition) (apart : (ds.map (·.cacheKey)).Nodup) {w : World} {client : Nat}
    (connected : w.session.dynamic = some client) :
    ∃ asked, w.Searched client asked (missingAmong ds w).2 ∧
      SearchEnd (Definition.uncached w.session ds) asked (missingAmong ds w).1 := by
  induction ds generalizing w with
  | nil => exact ⟨[], .nil client w, .complete fun _ _ none => (List.not_mem_nil none).elim⟩
  | cons d rest ih =>
    obtain ⟨fresh, apartRest⟩ := List.nodup_cons.mp apart
    cases found : Assoc.find? d.cacheKey w.session.cache with
    | some handle =>
      have reached : Client.resource d w = (.ok handle, w) := Client.resource_of_found found
      rw [missingAmong_of_ok reached, Definition.uncached_of_found found]
      exact ih apartRest connected
    | none =>
      obtain ⟨met, searched, told⟩ := Client.resource_searches connected found
      have reached : Client.resource d w = ((Client.resource d w).1, (Client.resource d w).2) := rfl
      rw [told] at reached
      generalize (Client.resource d w).2 = after at searched reached
      obtain ⟨asked, later, ends⟩ := ih apartRest (searched.dynamic.trans connected)
      have others : Definition.uncached after.session rest = Definition.uncached w.session rest := by
        refine searched.uncached fun e among asked met only same => ?_
        cases List.mem_singleton.mp only
        exact fresh (List.mem_map.mpr ⟨e, among, same.symm⟩)
      rw [Definition.uncached_of_absent found, ← others]
      cases met with
      | none =>
        rw [missingAmong_of_ok reached]
        have whole : SearchEnd _ ((d, none) :: asked) ((missingAmong rest after).1.map id) :=
          ends.cons fun _ same => nomatch same
        rw [Except.map_id] at whole
        exact ⟨(d, none) :: asked, searched.trans later, whole⟩
      | some refusal =>
        by_cases passed : refusal.PassedOver d
        · rw [missingAmong_of_passedOver reached passed]
          refine ⟨(d, some refusal) :: asked, searched.trans later, ends.cons ?_⟩
          rintro met ⟨⟩
          exact passed
        · have step : missingAmong (d :: rest) w = (.error _, after) :=
            (missingAmong_of_error reached).trans (if_neg passed)
          rw [step]
          exact ⟨_, searched, .stopped (fun _ _ none => (List.not_mem_nil none).elim) passed⟩

end Reconciler

@[simp]
theorem Server.isSome_verdict (s : Server) (d : Definition) : (s.verdict d).isSome = decide (s.Lacks d) := by
  by_cases lacks : s.Lacks d <;> simp [verdict, lacks]

@[simp]
theorem Server.isNone_verdict (s : Server) (d : Definition) : (s.verdict d).isNone = decide (¬s.Lacks d) := by
  by_cases lacks : s.Lacks d <;> simp [verdict, lacks]

theorem Server.passedOver_of_verdict {s : Server} {d : Definition} {refusal : Refusal}
    (refused : s.verdict d = some refusal) : refusal.PassedOver d := by
  unfold verdict at refused
  split at refused
  · cases refused
    rfl
  · cases refused

theorem Refusal.OfCall.not_passedOver {refusal : Refusal} (ofCall : refusal.OfCall) (d : Definition) :
    ¬refusal.PassedOver d := by
  unfold PassedOver
  cases ofCall with
  | refused status reason => simp [Reconciler.isMisconfigured_refusedDiscovery]
  | unreachable text => exact Bool.false_ne_true

structure World.Judged (client : Nat) (w : World) (types : List Definition) (last : List CallRecord)
    (after : World) : Prop where
  calls : after.calls = w.calls ++ (types.map fun d => ⟨.discover d, w.server.verdict d⟩) ++ last
  cache : after.session.cache = w.session.cache ++ (types.filter (¬w.server.Lacks ·)).map (·.entry client)

section

variable {client : Nat} {w after : World} {asked last : List (Definition × Option Refusal)}

theorem World.Searched.judged (searched : w.Searched client (asked ++ last) after)
    (verdicts : ∀ d met, (d, met) ∈ asked → met = w.server.verdict d) (refused : ∀ a ∈ last, a.2 ≠ none) :
    w.Judged client (asked.map (·.1)) (last.map fun (d, met) => ⟨.discover d, met⟩) after := by
  obtain ⟨rules, rfl⟩ := searched.world
  have none : last.filter (·.2.isNone) = [] :=
    List.filter_eq_nil_iff.mpr fun a member found => refused a member (Option.isNone_iff_eq_none.mp found)
  constructor
  · show w.calls ++ _ = _
    rw [List.map_append, ← List.append_assoc, List.map_map]
    congr 2
    refine List.map_congr_left fun (d, met) member => ?_
    rw [verdicts d met member]
    rfl
  · show w.session.cache ++ _ = _
    rw [List.filter_append, none, List.append_nil, List.filter_map, List.map_map]
    congr 2
    refine List.filter_congr fun (d, met) member => ?_
    rw [verdicts d met member]
    exact w.server.isNone_verdict d

theorem Server.kinds_of_verdicts (verdicts : ∀ d met, (d, met) ∈ asked → met = w.server.verdict d) :
    (asked.filter (·.2.isSome)).map (·.1.kind) = ((asked.map (·.1)).filter w.server.Lacks).map (·.kind) := by
  rw [List.filter_map, List.map_map]
  refine congrArg (List.map _) (List.filter_congr fun (d, met) member => ?_)
  rw [verdicts d met member]
  exact w.server.isSome_verdict d

/-- Where no failure to come is passed over, a refusal that is passed over is a verdict. -/
theorem Server.Answers.verdict_of_passedOver {s : Server} {d : Definition} {met : Option Refusal}
    (answers : s.Answers d met) (scripted : ∀ refusal, s.Scripted refusal → refusal.OfCall)
    (passed : ∀ refusal, met = some refusal → refusal.PassedOver d) : met = s.verdict d := by
  cases answers with
  | verdict => rfl
  | due due => exact absurd (passed _ rfl) ((scripted _ due).not_passedOver d)

end

namespace Reconciler

variable {w after : World} {client : Nat} {needed : List Definition}
  {asked : List (Definition × Option Refusal)} {result : Except Failure (List String)}

theorem SearchEnd.judged (ends : SearchEnd needed asked result) (searched : w.Searched client asked after)
    (scripted : ∀ refusal, w.server.Scripted refusal → refusal.OfCall) :
    ((∀ d refusal, (d, some refusal) ∈ asked → ¬refusal.OfCall) →
      w.Judged client needed [] after ∧ result = .ok ((needed.filter w.server.Lacks).map (·.kind))) ∧
    ∀ d refusal, (d, some refusal) ∈ asked → refusal.OfCall →
      ∃ earlier later failure, needed = earlier ++ d :: later ∧
        w.Judged client earlier [⟨.discover d, some refusal⟩] after ∧
        refusal.ReportedAs ⟨"discover", d.kind, none, none⟩ failure ∧ result = .error failure := by
  have verdicts {part : List (Definition × Option Refusal)} (among : ∀ a ∈ part, a ∈ asked)
      (passed : ∀ d refusal, (d, some refusal) ∈ part → refusal.PassedOver d) :
      ∀ d met, (d, met) ∈ part → met = w.server.verdict d := fun d met member =>
    (searched.answers d met (among _ member)).verdict_of_passedOver scripted
      fun refusal same => passed d refusal (same ▸ member)
  cases ends with
  | complete passed =>
    have told := verdicts (fun _ member => member) passed
    rw [← List.append_nil asked] at searched
    refine ⟨fun _ => ⟨searched.judged told fun _ none => (List.not_mem_nil none).elim,
      congrArg Except.ok (Server.kinds_of_verdicts told)⟩, fun d refusal member ofCall => ?_⟩
    exact absurd (passed d refusal member) (ofCall.not_passedOver d)
  | @stopped earlier d refusal later passed stops =>
    have told := verdicts (fun _ member => List.mem_append_left _ member) passed
    have last : (d, some refusal) ∈ earlier ++ [(d, some refusal)] :=
      List.mem_append_right _ (List.mem_singleton_self _)
    have refused : refusal.OfCall := by
      generalize same : some refusal = met at last
      cases searched.answers d met (same ▸ last) with
      | verdict => exact absurd (Server.passedOver_of_verdict same.symm) stops
      | due due => exact Option.some.inj same ▸ scripted _ due
    refine ⟨fun none => absurd refused (none d refusal last), fun e met member ofCall => ?_⟩
    rcases List.mem_append.mp member with before | only
    · exact absurd (passed e met before) (ofCall.not_passedOver e)
    · cases List.mem_singleton.mp only
      refine ⟨_, later, _, rfl, searched.judged told ?_,
        refusal.reportedAs_toFailure ⟨"discover", d.kind, none, none⟩, rfl⟩
      intro a sole
      rw [List.mem_singleton.mp sole]
      exact nofun

/--
The search for missing types asks once for each required type that is not cached, in order. If discoveries are
made to fail only by the server or on the way to it, and none is, it lists the types that are not served, and the
others are cached. If one is, it ends there with that failure, and only what was served before is cached.
-/
theorem missing_exact (connected : w.session.dynamic = some client) :
    let needed := Definition.uncached w.session Definition.required
    let after := (missing w).2
    (∃ asked, w.Searched client asked after ∧ SearchEnd needed asked (missing w).1) ∧
    ((∀ refusal, w.server.Scripted refusal → refusal.OfCall) →
      ((∀ d refusal, ⟨.discover d, some refusal⟩ ∈ w.traffic after → ¬refusal.OfCall) →
        w.Judged client needed [] after ∧
          (missing w).1 = .ok ((needed.filter w.server.Lacks).map (·.kind))) ∧
      ∀ d refusal, ⟨.discover d, some refusal⟩ ∈ w.traffic after → refusal.OfCall →
        ∃ earlier later failure, needed = earlier ++ d :: later ∧
          w.Judged client earlier [⟨.discover d, some refusal⟩] after ∧
          refusal.ReportedAs ⟨"discover", d.kind, none, none⟩ failure ∧ (missing w).1 = .error failure) := by
  intro needed after
  obtain ⟨asked, searched, ends⟩ := search Definition.required (by decide) connected
  refine ⟨⟨asked, searched, ends⟩, fun scripted => ?_⟩
  obtain ⟨through, ended⟩ := ends.judged searched scripted
  have asks {d : Definition} {refusal : Option Refusal} :
      ⟨.discover d, refusal⟩ ∈ w.traffic after ↔ (d, refusal) ∈ asked := searched.mem_traffic
  exact ⟨fun none => through fun d refusal member => none d refusal (asks.mpr member),
    fun d refusal member => ended d refusal (asks.mp member)⟩

/-- The search goes past a type that is not served and ends at a failure; the next one takes up what is left. -/
theorem missing_exact_past_gaps :
    let refusal : Refusal := .refused (some 503) (some "Service Unavailable")
    let failing : FailureRule := ⟨.discover, some "KubeadmControlPlane", none, some 1, refusal⟩
    let known := [Definition.cluster, .configTemplate, .machineTemplate].map (·.entry 0)
    let w : World := { World.empty with
      server := ⟨[], [], ["MachineDeployment", "VCDCluster"], [failing], none, none⟩
      session := { Session.borrowed with cache := known } }
    let after := (missing w).2
    (∃ context, (missing w).1 =
        .error (.fault ⟨.interrupted (.refused (some 503) (some "Service Unavailable")), context⟩)) ∧
      after.session.cache = known ++ [Definition.machine.entry 0] ∧
      after.Judged 0 [.machineDeployment, .controlPlane, .providerCluster] [] (missing after).2 ∧
      (missing after).1 = .ok ["MachineDeployment", "VCDCluster"] := by
  intro refusal failing known w after
  have asked : w.traffic after = [⟨.discover .machineDeployment, some (.notServed "cluster.x-k8s.io/v1beta1")⟩,
    ⟨.discover .machine, none⟩, ⟨.discover .controlPlane, some refusal⟩] := rfl
  have askedAgain : after.traffic (missing after).2 =
      [⟨.discover .machineDeployment, some (.notServed "cluster.x-k8s.io/v1beta1")⟩,
        ⟨.discover .controlPlane, none⟩,
        ⟨.discover .providerCluster, some (.notServed "infrastructure.cluster.x-k8s.io/v1beta3")⟩] := rfl
  have scripted : ∀ refusal, w.server.Scripted refusal → refusal.OfCall := by
    rintro _ ⟨rule, member, -, rfl⟩
    cases List.mem_singleton.mp member
    exact .refused _ _
  have spent : ∀ refusal, after.server.Scripted refusal → refusal.OfCall := by
    rintro _ ⟨rule, member, -, rfl⟩
    cases List.mem_singleton.mp member
    exact .refused _ _
  obtain ⟨-, ended⟩ := missing_exact (show w.session.dynamic = some 0 from rfl)
  have refused : ⟨.discover .controlPlane, some refusal⟩ ∈ w.traffic after := by simp [asked]
  obtain ⟨earlier, later, failure, split, judged, report, failed⟩ :=
    (ended scripted).2 _ _ refused (.refused _ _)
  have unavailable : Refusal.ReportedAs ⟨"discover", "KubeadmControlPlane", none, none⟩
    (.refused (some 503) (some "Service Unavailable")) failure := report
  obtain ⟨-, resumed⟩ := missing_exact (show after.session.dynamic = some 0 from rfl)
  obtain ⟨through, listed⟩ := (resumed spent).1 fun d met member ofCall => by
    rw [askedAgain] at member
    simp only [List.mem_cons, List.not_mem_nil, CallRecord.mk.injEq, Option.some.injEq, reduceCtorEq, and_false,
      false_or, or_false] at member
    rcases member with ⟨-, rfl⟩ | ⟨-, rfl⟩ <;> cases ofCall
  refine ⟨?_, rfl, through, listed⟩
  cases unavailable with
  | refused => exact ⟨_, failed⟩

end Reconciler
end ClusterLedger
