import ClusterLedger.Proofs.Connection.History

namespace ClusterLedger

open ClusterLedger.Action

def CallRecord.discovery? : CallRecord → Option (Definition × Option Refusal)
  | ⟨.discover d, refusal⟩ => some (d, refusal)
  | _ => none

def World.discoveries (before after : World) : List (Definition × Option Refusal) :=
  (before.traffic after).filterMap CallRecord.discovery?

def World.Undiscovered (before after : World) : Prop :=
  ∃ made, after.calls = before.calls ++ made ∧ made.filterMap CallRecord.discovery? = []

namespace Action

variable {α : Type} {x : Action α}

def Undiscovering (x : Action α) : Prop := ∀ w : World, w.Undiscovered (x w).2

theorem undiscovering_of_makes {P : Call → Prop} (makes : Makes P x)
    (other : ∀ c refusal, P c → (CallRecord.mk c refusal).discovery? = none) : Undiscovering x := by
  intro w
  obtain ⟨made, calls, each⟩ := makes w
  refine ⟨made, calls, List.filterMap_eq_nil_iff.mpr ?_⟩
  exact fun record member => other record.call record.refusal (each record member)

theorem undiscovering_call {c : Call} (other : ∀ refusal, (CallRecord.mk c refusal).discovery? = none)
    (reply : Server → Except Refusal α × Server) (meaning : Refusal → Failure) :
    Undiscovering (call c reply meaning) :=
  undiscovering_of_makes (makes_call (P := (· = c)) rfl reply meaning) fun _ refusal same => same ▸ other refusal

end Action

namespace Client

theorem undiscovering_connect (host : Host) (settings : Settings) :
    Undiscovering (connect host settings) := by
  refine undiscovering_of_makes (makes_connect host settings) fun c refusal connects => ?_
  cases connects <;> rfl

theorem undiscovering_disconnect : Undiscovering disconnect := by
  refine undiscovering_of_makes makes_disconnect fun c refusal closes => ?_
  obtain ⟨client, rfl⟩ := closes
  rfl

theorem undiscovering_secret (name ns : String) : Undiscovering (secret name ns) := by
  refine undiscovering_of_makes (makes_secret name ns) fun c refusal asks => ?_
  rw [asks]
  rfl

end Client

namespace ClientCall

def needed? : ClientCall → Option Definition
  | resource d => some d
  | get d _ _ => some d
  | list d _ _ => some d
  | _ => none

def follow (w : World) (calls : List ClientCall) : World := calls.foldl after w

/--
What a call does to the cache of a session, told by the discoveries that it makes: it forgets everything,
leaves the cache alone, fails to discover the type that it needs, or keeps the handle of that type.
-/
inductive CacheStep (call : ClientCall) (s : Session) :
    List (Definition × Option Refusal) → Session → Prop
  | forgotten (ends : call = .disconnect) : CacheStep call s [] .fresh
  | kept {t : Session} (cache : t.cache = s.cache) (connected : s.isConnected = true → t.isConnected = true)
      (unneeded : ∀ d, call.needed? = some d → s.isConnected = true →
        Assoc.contains d.cacheKey s.cache = true) :
      CacheStep call s [] t
  | refused {d : Definition} (needs : call.needed? = some d) (connected : s.isConnected = true)
      (absent : Assoc.find? d.cacheKey s.cache = none) (refusal : Refusal) :
      CacheStep call s [(d, some refusal)] s
  | discovered {d : Definition} (needs : call.needed? = some d) (connected : s.isConnected = true)
      (absent : Assoc.find? d.cacheKey s.cache = none) (handle : Handle) :
      CacheStep call s [(d, none)] { s with cache := Assoc.set d.cacheKey handle s.cache }

theorem cacheStep_resource {call : ClientCall} {d : Definition} (needs : call.needed? = some d)
    (w : World) : ∃ made, (Client.resource d w).2.calls = w.calls ++ made ∧
      CacheStep call w.session (made.filterMap CallRecord.discovery?) (Client.resource d w).2.session := by
  have outcome := Client.resource_outcome d w
  generalize Client.resource d w = result at outcome ⊢
  cases outcome with
  | @cached handle found =>
    refine ⟨[], (List.append_nil _).symm, .kept rfl id fun e other _ => ?_⟩
    obtain rfl : d = e := Option.some.inj (needs.symm.trans other)
    rw [Assoc.contains, found]
    rfl
  | unconnected absent unconnected =>
    refine ⟨[], (List.append_nil _).symm, .kept rfl id fun e _ connected => ?_⟩
    rw [Session.isConnected, unconnected] at connected
    cases connected
  | refused absent dynamic refusal server =>
    refine ⟨[⟨.discover d, some refusal⟩], rfl, .refused needs ?_ absent refusal⟩
    rw [Session.isConnected, dynamic]
    rfl
  | @discovered client absent dynamic server =>
    refine ⟨[⟨.discover d, none⟩], rfl, .discovered needs ?_ absent ⟨d.apiVersion, d.kind, client⟩⟩
    rw [Session.isConnected, dynamic]
    rfl

/-- After its handle is there an object is read without another discovery. -/
theorem cacheStep_request {α : Type} {call : ClientCall} {d : Definition} {f : Handle → Action α} {w : World}
    (needs : call.needed? = some d) (asks : call.after w = ((Client.resource d >>= f) w).2)
    (reads : ∀ handle, Undiscovering (f handle)) (kept : (Client.resource d w).2.Kept (call.after w)) :
    ∃ made, (call.after w).calls = w.calls ++ made ∧
      CacheStep call w.session (made.filterMap CallRecord.discovery?) (call.after w).session := by
  obtain ⟨made, calls, step⟩ := cacheStep_resource needs w
  rw [kept.session, asks]
  rcases outcome : Client.resource d w with ⟨failure | handle, after⟩
  · rw [outcome] at calls step
    rw [bind_of_error outcome]
    exact ⟨made, calls, step⟩
  · rw [outcome] at calls step
    rw [bind_of_ok outcome]
    obtain ⟨own, moreCalls, none⟩ := reads handle after
    refine ⟨made ++ own, by rw [moreCalls, calls, List.append_assoc], ?_⟩
    rw [List.filterMap_append, none, List.append_nil]
    exact step

theorem cacheStep_connect (host : Host) (settings : Settings) (w : World)
    {made : List (Definition × Option Refusal)} (none : made = []) :
    CacheStep (.connect host settings) w.session made (Client.connect host settings w).2.session := by
  rw [none]
  have outcome := Client.connect_outcome host settings w
  generalize Client.connect host settings w = result at outcome ⊢
  cases outcome with
  | noAccess failed =>
    have kept := (Client.quiet_loadAccess host settings w).session
    rw [failed] at kept
    rw [kept]
    exact .kept rfl id fun _ none => by cases none
  | noClient refusal access session =>
    rw [session]
    exact .kept rfl id fun _ none => by cases none
  | connected access session =>
    rw [session]
    exact .kept rfl (fun _ => rfl) fun _ none => by cases none

@[simp] theorem session_disconnect (w : World) : (Client.disconnect w).2.session = .fresh := by
  cases api : w.session.api with
  | none => rw [Client.disconnect_of_none api]
  | some client => rw [Client.disconnect_of_some api]

/-- Every call is one of the four steps. -/
theorem cacheStep_after (call : ClientCall) (w : World) :
    ∃ made, (call.after w).calls = w.calls ++ made ∧
      CacheStep call w.session (made.filterMap CallRecord.discovery?) (call.after w).session := by
  cases call with
  | connect host settings =>
    obtain ⟨made, calls, none⟩ := Client.undiscovering_connect host settings w
    exact ⟨made, calls, cacheStep_connect host settings w none⟩
  | disconnect =>
    obtain ⟨made, calls, none⟩ := Client.undiscovering_disconnect w
    refine ⟨made, calls, ?_⟩
    rw [none, after, session_disconnect]
    exact .forgotten rfl
  | resource d => exact cacheStep_resource rfl w
  | get d name ns =>
    exact cacheStep_request rfl rfl (fun handle => undiscovering_call (fun _ => rfl) _ _)
      (Client.get_kept d name ns w)
  | list d ns selector =>
    exact cacheStep_request rfl rfl (fun handle => undiscovering_call (fun _ => rfl) _ _)
      (Client.list_kept d ns selector w)
  | secret name ns =>
    obtain ⟨made, calls, none⟩ := Client.undiscovering_secret name ns w
    refine ⟨made, calls, ?_⟩
    rw [none, after, (Client.quiet_secret name ns w).session]
    exact .kept rfl id fun _ none => by cases none
  | serverChange server =>
    exact ⟨[], (List.append_nil _).symm, .kept rfl id fun _ none => by cases none⟩

theorem cacheStep_discoveries (call : ClientCall) (w : World) :
    CacheStep call w.session (w.discoveries (call.after w)) (call.after w).session := by
  obtain ⟨made, calls, step⟩ := cacheStep_after call w
  rw [World.discoveries, World.traffic_of_append calls]
  exact step

end ClientCall

namespace ClientCall.CacheStep

variable {call : ClientCall} {s t : Session} {made : List (Definition × Option Refusal)}

theorem cache_eq_nil (step : CacheStep call s made t) (bound : s.isConnected = false → s.cache = [])
    (unconnected : t.isConnected = false) : t.cache = [] := by
  cases step with
  | forgotten => rfl
  | kept cache connected =>
    have before : s.isConnected = false := by
      by_contra present
      rw [connected (by simpa using present)] at unconnected
      cases unconnected
    rw [cache, bound before]
  | refused => exact bound unconnected
  | discovered needs connected =>
    have still : s.isConnected = false := unconnected
    rw [connected] at still
    cases still

theorem find?_eq_none (step : CacheStep call s made t) {key : String}
    (other : ∀ d, call.needed? = some d → d.cacheKey ≠ key) (absent : Assoc.find? key s.cache = none) :
    Assoc.find? key t.cache = none := by
  cases step with
  | forgotten => rfl
  | kept cache => rw [cache, absent]
  | refused => exact absent
  | discovered needs => rw [Assoc.find?_set_of_ne (other _ needs), absent]

/-- A connected client asks for the type that it needs exactly if it has no handle of it. -/
theorem made_eq (step : CacheStep call s made t) {d : Definition} (needs : call.needed? = some d)
    (connected : s.isConnected = true) :
    made.map (·.1) = if Assoc.contains d.cacheKey s.cache then [] else [d] := by
  cases step with
  | forgotten ends =>
    rw [ends] at needs
    cases needs
  | kept cache _ unneeded => rw [if_pos (unneeded d needs connected)]; rfl
  | refused other _ absent =>
    obtain rfl := Option.some.inj (needs.symm.trans other)
    rw [Assoc.contains, absent]
    rfl
  | discovered other _ absent =>
    obtain rfl := Option.some.inj (needs.symm.trans other)
    rw [Assoc.contains, absent]
    rfl

theorem of_refused (step : CacheStep call s made t) {d : Definition} {refusal : Refusal}
    (member : (d, some refusal) ∈ made) : t = s ∧ Assoc.find? d.cacheKey s.cache = none := by
  cases step with
  | forgotten => cases member
  | kept => cases member
  | refused needs connected absent other =>
    cases List.mem_singleton.mp member
    exact ⟨rfl, absent⟩
  | discovered => cases List.mem_singleton.mp member

end ClientCall.CacheStep

def successes (key : String) (made : List (Definition × Option Refusal)) : Nat :=
  made.countP fun (d, refusal) => d.cacheKey = key && refusal.isNone

def Session.held (key : String) (s : Session) : Nat := (Assoc.contains key s.cache).toNat

theorem Session.held_le_one (key : String) (s : Session) : s.held key ≤ 1 := Bool.toNat_le _

/-- Until the next disconnect, what is found is held and not found again. -/
theorem ClientCall.CacheStep.successes_add_held {call : ClientCall} {s t : Session}
    {made : List (Definition × Option Refusal)} (step : CacheStep call s made t)
    (stays : call ≠ .disconnect) (key : String) : successes key made + s.held key ≤ t.held key := by
  cases step with
  | forgotten ends => exact absurd ends stays
  | kept cache =>
    unfold Session.held
    rw [cache]
    exact Nat.le_of_eq (Nat.zero_add _)
  | refused needs connected absent refusal =>
    simp [successes]
  | @discovered d needs connected absent handle =>
    unfold Session.held Assoc.contains
    by_cases same : d.cacheKey = key
    · subst same
      rw [absent, Assoc.find?_set_self]
      simp [successes]
    · rw [Assoc.find?_set_of_ne same]
      simp [successes, same]

namespace ClientCall

@[simp] theorem follow_cons (w : World) (call : ClientCall) (rest : List ClientCall) :
    follow w (call :: rest) = follow (call.after w) rest := rfl

theorem successes_add_held_follow {calls : List ClientCall} (stays : ∀ call ∈ calls, call ≠ .disconnect)
    (key : String) (w : World) :
    ∃ made, (follow w calls).calls = w.calls ++ made ∧
      successes key (made.filterMap CallRecord.discovery?) + w.session.held key ≤
        (follow w calls).session.held key := by
  induction calls generalizing w with
  | nil => exact ⟨[], (List.append_nil _).symm, Nat.le_of_eq (Nat.zero_add _)⟩
  | cons call rest ih =>
    obtain ⟨made, calls, step⟩ := cacheStep_after call w
    obtain ⟨later, moreCalls, bound⟩ := ih (fun other member => stays other (List.mem_cons_of_mem _ member))
      (call.after w)
    have first := step.successes_add_held (stays call List.mem_cons_self) key
    refine ⟨made ++ later, by rw [follow_cons, moreCalls, calls, List.append_assoc], ?_⟩
    rw [follow_cons, List.filterMap_append, successes, List.countP_append]
    unfold successes at first bound
    omega

theorem cache_eq_nil_follow {w : World} (bound : w.session.isConnected = false → w.session.cache = [])
    (calls : List ClientCall) (unconnected : (follow w calls).session.isConnected = false) :
    (follow w calls).session.cache = [] := by
  induction calls generalizing w with
  | nil => exact bound unconnected
  | cons call rest ih =>
    have step := cacheStep_discoveries call w
    exact ih (step.cache_eq_nil bound) unconnected

theorem find?_eq_none_follow {w : World} {key : String} {calls : List ClientCall}
    (other : ∀ call ∈ calls, ∀ d, call.needed? = some d → d.cacheKey ≠ key)
    (absent : Assoc.find? key w.session.cache = none) :
    Assoc.find? key (follow w calls).session.cache = none := by
  induction calls generalizing w with
  | nil => exact absent
  | cons call rest ih =>
    have step := cacheStep_discoveries call w
    refine ih (fun next member => other next (List.mem_cons_of_mem _ member)) ?_
    exact step.find?_eq_none (other call List.mem_cons_self) absent

end ClientCall

structure World.CacheSound (now : World) : Prop where
  asks : ∀ (call : ClientCall) (d : Definition), call.needed? = some d → now.session.isConnected = true →
    (now.discoveries (call.after now)).map (·.1) =
      if Assoc.contains d.cacheKey now.session.cache then [] else [d]
  refused : ∀ (call : ClientCall) (d : Definition) (refusal : Refusal),
    (d, some refusal) ∈ now.discoveries (call.after now) →
    (call.after now).session.cache = now.session.cache
  /-- What could not be discovered is asked for by the next call that needs a type of its key. -/
  retried : ∀ (call : ClientCall) (d : Definition) (refusal : Refusal),
    (d, some refusal) ∈ now.discoveries (call.after now) →
    ∀ between : List ClientCall,
      (∀ other ∈ between, ∀ e, other.needed? = some e → e.cacheKey ≠ d.cacheKey) →
      let later := ClientCall.follow (call.after now) between
      later.session.isConnected = true →
      ∀ (next : ClientCall) (e : Definition), next.needed? = some e → e.cacheKey = d.cacheKey →
        (later.discoveries (next.after later)).map (·.1) = [e]
  once : ∀ calls : List ClientCall, (∀ call ∈ calls, call ≠ .disconnect) →
    ∀ key, successes key (now.discoveries (ClientCall.follow now calls)) ≤ 1
  unconnected : now.session.isConnected = false →
    now.session.cache = [] ∧ ∀ d : Definition,
      Client.resource d now = (.error Client.notConnected, now) ∧
      (∀ name ns, Client.get d name ns now = (.error Client.notConnected, now)) ∧
      ∀ ns selector, Client.list d ns selector now = (.error Client.notConnected, now)

namespace Client

theorem resource_of_unconnected {w : World} (unconnected : w.session.isConnected = false)
    (empty : w.session.cache = []) (d : Definition) : resource d w = (.error notConnected, w) := by
  have outcome := resource_outcome d w
  generalize resource d w = result at outcome ⊢
  cases outcome with
  | cached found =>
    rw [empty] at found
    cases found
  | unconnected => rfl
  | refused absent dynamic =>
    rw [Session.isConnected, dynamic] at unconnected
    cases unconnected
  | discovered absent dynamic =>
    rw [Session.isConnected, dynamic] at unconnected
    cases unconnected

end Client

namespace ClientCall

theorem cacheSound_of_bound {now : World}
    (bound : now.session.isConnected = false → now.session.cache = []) : now.CacheSound where
  asks call d needs connected := (cacheStep_discoveries call now).made_eq needs connected
  refused call d refusal member := by rw [((cacheStep_discoveries call now).of_refused member).1]
  retried := by
    intro call d refusal member between other later connected next e needs same
    obtain ⟨kept, absent⟩ := (cacheStep_discoveries call now).of_refused member
    rw [← kept] at absent
    have still : Assoc.find? e.cacheKey later.session.cache = none :=
      same ▸ find?_eq_none_follow other absent
    rw [(cacheStep_discoveries next later).made_eq needs connected, Assoc.contains, still]
    rfl
  once calls stays key := by
    obtain ⟨made, followed, count⟩ := successes_add_held_follow stays key now
    rw [World.discoveries, World.traffic_of_append followed]
    have full := Session.held_le_one key (follow now calls).session
    omega
  unconnected unconnected := by
    have empty := bound unconnected
    refine ⟨empty, fun d => ?_⟩
    have failed := Client.resource_of_unconnected unconnected empty d
    refine ⟨failed, fun name ns => ?_, fun ns selector => ?_⟩
    · exact bind_of_error failed
    · exact bind_of_error failed

/-- Whatever was called on a client and however it failed, its cache is sound. -/
theorem cacheSound_run (w : World) (calls : List ClientCall) : (run w calls).CacheSound :=
  cacheSound_of_bound (cache_eq_nil_follow (fun _ => rfl) calls)

end ClientCall
end ClusterLedger
