import ClusterLedger.Action
import Mathlib.Data.List.Forall2

namespace ClusterLedger

theorem ok_of_map {ε α β : Type} {x : Except ε α} {f : α → β} {b : β} (mapped : x.map f = .ok b) :
    ∃ a, x = .ok a ∧ b = f a := by
  cases x with
  | error failure => cases mapped
  | ok a => exact ⟨a, rfl, (Except.ok.inj mapped).symm⟩

theorem ok_of_bind {ε α β : Type} {x : Except ε α} {f : α → Except ε β} {b : β}
    (bound : (x >>= f) = .ok b) : ∃ a, x = .ok a ∧ f a = .ok b := by
  cases x with
  | error failure => cases bound
  | ok a => exact ⟨a, rfl, bound⟩

theorem ok_of_ite_bind {ε α β : Type} {c : Prop} [Decidable c] {x y : Except ε α} {f : α → Except ε β} {b : β}
    (bound : (if c then x >>= f else y >>= f) = .ok b) :
    ∃ a, (if c then x else y) = .ok a ∧ f a = .ok b := by
  by_cases holds : c
  · rw [if_pos holds] at bound ⊢
    exact ok_of_bind bound
  · rw [if_neg holds] at bound ⊢
    exact ok_of_bind bound

theorem forall₂_of_mapM {ε α β : Type} {f : α → Except ε β} {as : List α} {bs : List β}
    (read : as.mapM f = .ok bs) : List.Forall₂ (fun a b => f a = .ok b) as bs := by
  induction as generalizing bs with
  | nil =>
    cases read
    exact .nil
  | cons a rest ih =>
    rw [List.mapM_cons] at read
    obtain ⟨b, first, later⟩ := ok_of_bind read
    obtain ⟨others, next, same⟩ := ok_of_bind later
    cases same
    exact .cons first (ih next)

theorem mapM_cons_of_ok {ε α β : Type} {f : α → Except ε β} {a : α} {as : List α} {b : β} {bs : List β}
    (first : f a = .ok b) (rest : as.mapM f = .ok bs) : (a :: as).mapM f = .ok (b :: bs) := by
  rw [List.mapM_cons, first]
  show (as.mapM f >>= fun others => pure (b :: others)) = .ok (b :: bs)
  rw [rest]
  rfl

@[simp] theorem mapError_eq_ok {ε ε' α : Type} {x : Except ε α} {f : ε → ε'} {a : α} :
    x.mapError f = .ok a ↔ x = .ok a := by
  cases x <;> simp [Except.mapError]

theorem map_bind {ε α β γ : Type} (f : β → γ) (x : Except ε α) (g : α → Except ε β) :
    (x >>= g).map f = x >>= fun a => (g a).map f := by
  cases x <;> rfl

def World.made (w : World) (record : CallRecord) (server : Server) : World :=
  { w with server, calls := w.calls ++ [record] }

def World.traffic (before after : World) : List CallRecord := after.calls.drop before.calls.length

theorem World.traffic_of_append {before after : World} {made : List CallRecord}
    (calls : after.calls = before.calls ++ made) : before.traffic after = made := by
  rw [traffic, calls, List.drop_left]

def World.Only (P : Call → Prop) (before after : World) : Prop :=
  ∃ made, after.calls = before.calls ++ made ∧ ∀ record ∈ made, P record.call

theorem World.Only.trans {P : Call → Prop} {w w' w'' : World} (first : w.Only P w') (second : w'.Only P w'') :
    w.Only P w'' := by
  obtain ⟨made, calls, each⟩ := first
  obtain ⟨later, moreCalls, eachLater⟩ := second
  refine ⟨made ++ later, ?_, List.forall_mem_append.mpr ⟨each, eachLater⟩⟩
  rw [moreCalls, calls, List.append_assoc]

/-- Both results are values, and related ones, or both are failures, and related ones. -/
inductive Both {ε ε' α β : Type} (F : ε → ε' → Prop) (Q : α → β → Prop) : Except ε α → Except ε' β → Prop
  | ok {a : α} {b : β} (related : Q a b) : Both F Q (.ok a) (.ok b)
  | error {failure : ε} {failure' : ε'} (alike : F failure failure') : Both F Q (.error failure) (.error failure')

namespace Both

variable {ε ε' ε'' α β γ δ : Type} {F : ε → ε' → Prop} {Q : α → β → Prop} {R : γ → δ → Prop}
  {x : Except ε α} {y : Except ε' β}

theorem of_ok {a : α} (both : Both F Q (.ok a) y) : ∃ b, y = .ok b ∧ Q a b := by
  cases both with
  | ok related => exact ⟨_, rfl, related⟩

theorem results (both : Both F Q x y) : Both F (fun a b => Q a b ∧ x = .ok a ∧ y = .ok b) x y := by
  cases both with
  | ok related => exact .ok ⟨related, rfl, rfl⟩
  | error alike => exact .error alike

theorem imp {Q' : α → β → Prop} (both : Both F Q x y) (weaker : ∀ a b, Q a b → Q' a b) : Both F Q' x y := by
  cases both with
  | ok related => exact .ok (weaker _ _ related)
  | error alike => exact .error alike

theorem self {F : ε → ε → Prop} {Q : α → α → Prop} {x : Except ε α} (both : Both F Q x x) : Both F Eq x x := by
  cases x with
  | ok a => exact .ok rfl
  | error failure =>
    cases both with
    | error alike => exact .error alike

theorem trans {F' : ε' → ε'' → Prop} {G : ε → ε'' → Prop} {P : β → γ → Prop} {z : Except ε'' γ}
    (chain : ∀ {e e' e''}, F e e' → F' e' e'' → G e e'') (first : Both F Q x y) (second : Both F' P y z) :
    Both G (fun a c => ∃ b, Q a b ∧ P b c) x z := by
  cases first with
  | ok related =>
    cases second with
    | ok next => exact .ok ⟨_, related, next⟩
  | error alike =>
    cases second with
    | error later => exact .error (chain alike later)

theorem bind {f : α → Except ε γ} {g : β → Except ε' δ} (both : Both F Q x y)
    (next : ∀ a b, Q a b → Both F R (f a) (g b)) : Both F R (x >>= f) (y >>= g) := by
  cases both with
  | ok related => exact next _ _ related
  | error alike => exact .error alike

theorem ite_bind {c c' : Prop} [Decidable c] [Decidable c'] {x' : Except ε α} {y' : Except ε' β}
    {f : α → Except ε γ} {g : β → Except ε' δ} (alike : c ↔ c') (first : c → Both F Q x y)
    (second : ¬c → Both F Q x' y') (next : ∀ a b, Q a b → Both F R (f a) (g b)) :
    Both F R (if c then x >>= f else x' >>= f) (if c' then y >>= g else y' >>= g) := by
  by_cases taken : c
  · rw [if_pos taken, if_pos (alike.mp taken)]
    exact (first taken).bind next
  · rw [if_neg taken, if_neg (mt alike.mpr taken)]
    exact (second taken).bind next

theorem map {f : α → γ} {g : β → δ} (both : Both F Q x y) (related : ∀ a b, Q a b → R (f a) (g b)) :
    Both F R (x.map f) (y.map g) := by
  cases both with
  | ok same => exact .ok (related _ _ same)
  | error alike => exact .error alike

theorem mapM {f : α → Except ε γ} {g : β → Except ε' δ} {as : List α} {bs : List β}
    (each : List.Forall₂ (fun a b => Both F R (f a) (g b)) as bs) :
    Both F (List.Forall₂ R) (as.mapM f) (bs.mapM g) := by
  induction each with
  | nil => exact .ok .nil
  | cons first _ ih =>
    rw [List.mapM_cons, List.mapM_cons]
    exact first.bind fun _ _ related => ih.bind fun _ _ later => .ok (.cons related later)

end Both

abbrev Agree {ε α β : Type} (Q : α → β → Prop) : Except ε α → Except ε β → Prop := Both Eq Q

namespace Agree

variable {ε ε' α β : Type} {Q : α → β → Prop} {x : Except ε α} {y : Except ε β}

theorem error (failure : ε) : Agree Q (.error failure) (.error failure) := Both.error rfl

theorem refl {Q : α → α → Prop} (reflexive : ∀ a, Q a a) (x : Except ε α) : Agree Q x x := by
  cases x with
  | ok a => exact .ok (reflexive a)
  | error failure => exact .error failure

theorem symm (agree : Agree Q x y) : Agree (fun b a => Q a b) y x := by
  cases agree with
  | ok related => exact .ok related
  | error same => exact Both.error same.symm

theorem trans {γ : Type} {P : β → γ → Prop} {z : Except ε γ} (first : Agree Q x y) (second : Agree P y z) :
    Agree (fun a c => ∃ b, Q a b ∧ P b c) x z :=
  Both.trans (fun before after => before.trans after) first second

theorem of_error {failure : ε} (agree : Agree Q (.error failure) y) : y = .error failure := by
  cases agree with
  | error same => rw [same]

theorem eq {x' : Except ε α} (agree : Agree Eq x x') : x = x' := by
  cases agree with
  | ok same => rw [same]
  | error same => rw [same]

theorem mapError (agree : Agree Q x y) (meaning : ε → ε') :
    Agree Q (x.mapError meaning) (y.mapError meaning) := by
  cases agree with
  | ok related => exact .ok related
  | error same => exact Both.error (congrArg meaning same)

end Agree

def Failure.BothMalformed (failure failure' : Failure) : Prop :=
  ∃ what what', failure = .malformed what ∧ failure' = .malformed what'

abbrev OkOrMalformed {α β : Type} (Q : α → β → Prop) : Except Failure α → Except Failure β → Prop :=
  Both Failure.BothMalformed Q

namespace OkOrMalformed

variable {α β γ : Type} {Q : α → β → Prop} {x : Except Failure α} {y : Except Failure β}

theorem malformed (what what' : Malformation) :
    OkOrMalformed Q (.error (.malformed what)) (.error (.malformed what')) := .error ⟨what, what', rfl, rfl⟩

theorem trans {P : β → γ → Prop} {z : Except Failure γ} (first : OkOrMalformed Q x y)
    (second : OkOrMalformed P y z) : OkOrMalformed (fun a c => ∃ b, Q a b ∧ P b c) x z :=
  Both.trans (fun ⟨what, _, before, _⟩ ⟨_, what', _, after⟩ => ⟨what, what', before, after⟩) first second

theorem mapM_perm {f : α → Except Failure β} {as as' : List α} (order : as.Perm as')
    (settled : ∀ a ∈ as, OkOrMalformed Eq (f a) (f a)) :
    OkOrMalformed List.Perm (as.mapM f) (as'.mapM f) := by
  induction order with
  | nil => exact .ok .nil
  | cons a _ ih =>
    rw [List.mapM_cons, List.mapM_cons]
    refine (settled a List.mem_cons_self).bind ?_
    rintro b _ rfl
    refine (ih fun other later => settled other (List.mem_cons_of_mem a later)).bind ?_
    exact fun _ _ perm => .ok (perm.cons b)
  | swap a a' rest =>
    have later : OkOrMalformed Eq (rest.mapM f) (rest.mapM f) := Both.self <| Both.mapM <| List.forall₂_same.mpr
      fun other member => settled other (List.mem_cons_of_mem a' (List.mem_cons_of_mem a member))
    have one := settled a (List.mem_cons_of_mem a' List.mem_cons_self)
    have other := settled a' List.mem_cons_self
    rw [List.mapM_cons, List.mapM_cons, List.mapM_cons, List.mapM_cons]
    generalize f a = x, f a' = x', rest.mapM f = others at one other later
    cases one with
    | ok =>
      cases other with
      | ok =>
        cases later with
        | ok => exact .ok (.swap _ _ _)
        | error alike => exact .error alike
      | error alike => exact .error alike
    | error alike =>
      cases other with
      | ok => exact .error alike
      | error alike' =>
        obtain ⟨what, _, rfl, _⟩ := alike
        obtain ⟨what', _, rfl, _⟩ := alike'
        exact .malformed what' what
  | trans first second ihFirst ihSecond =>
    have later := ihSecond fun a member => settled a (first.mem_iff.mpr member)
    exact ((ihFirst settled).trans later).imp fun _ _ ⟨_, one, two⟩ => one.trans two

end OkOrMalformed

structure World.SameBut (S : Server → Server → Prop) (w w' : World) : Prop where
  server : S w.server w'.server
  session : w.session = w'.session
  nextClient : w.nextClient = w'.nextClient
  calls : w.calls = w'.calls
  events : w.events = w'.events

namespace Action

variable {α β γ δ : Type} {x : Action α} {f : α → Action β} {w w' : World}

theorem bind_of_ok {a : α} (ok : x w = (.ok a, w')) : (x >>= f) w = f a w' := by
  show Action.bind x f w = f a w'
  rw [Action.bind, ok]

theorem bind_of_error {failure : Failure} (failed : x w = (.error failure, w')) :
    (x >>= f) w = (.error failure, w') := by
  show Action.bind x f w = (.error failure, w')
  rw [Action.bind, failed]

theorem within_of_ok {context : Context} {a : α} (ok : x w = (.ok a, w')) :
    within context x w = (.ok a, w') := by
  rw [within, ok]

theorem within_of_error {context : Context} {failure : Failure} (failed : x w = (.error failure, w')) :
    within context x w = (.error (failure.withContext context), w') := by
  rw [within, failed]

theorem after_bind {R : World → World → Prop} (adds : ∀ {w w' w''}, R w w' → R w' w'' → R w w'')
    (first : ∀ w, R w (x w).2) (next : ∀ a w, R w (f a w).2) (w : World) : R w ((x >>= f) w).2 := by
  have reached := first w
  rcases outcome : x w with ⟨failure | a, after⟩
  · rw [outcome] at reached
    rw [bind_of_error outcome]
    exact reached
  · rw [outcome] at reached
    rw [bind_of_ok outcome]
    exact adds reached (next a after)

@[simp] theorem after_within (context : Context) (x : Action α) (w : World) :
    (within context x w).2 = (x w).2 := by
  unfold within
  rcases x w with ⟨failure | a, after⟩ <;> rfl

theorem call_cases (c : Call) (reply : Server → Except Refusal α × Server) (meaning : Refusal → Failure)
    (w : World) :
    (∃ a server, reply w.server = (.ok a, server) ∧
      call c reply meaning w = (.ok a, w.made ⟨c, none⟩ server)) ∨
    ∃ refusal server, reply w.server = (.error refusal, server) ∧
      call c reply meaning w = (.error (meaning refusal), w.made ⟨c, some refusal⟩ server) := by
  unfold call
  rcases reply w.server with ⟨refusal | a, server⟩
  · exact Or.inr ⟨refusal, server, rfl, rfl⟩
  · exact Or.inl ⟨a, server, rfl, rfl⟩

def Makes (P : Call → Prop) (x : Action α) : Prop := ∀ w : World, w.Only P (x w).2

theorem makes_of_calls {P : Call → Prop} (calls : ∀ w, (x w).2.calls = w.calls) : Makes P x :=
  fun w => ⟨[], (calls w).trans (List.append_nil _).symm, fun _ none => nomatch none⟩

theorem makes_call {P : Call → Prop} {c : Call} (sort : P c) (reply : Server → Except Refusal α × Server)
    (meaning : Refusal → Failure) : Makes P (call c reply meaning) := by
  intro w
  rcases call_cases c reply meaning w with ⟨a, server, _, made⟩ | ⟨refusal, server, _, made⟩
  · rw [made]
    exact ⟨[⟨c, none⟩], rfl, by simpa using sort⟩
  · rw [made]
    exact ⟨[⟨c, some refusal⟩], rfl, by simpa using sort⟩

theorem makes_bind {P : Call → Prop} (first : Makes P x) (next : ∀ a, Makes P (f a)) : Makes P (x >>= f) :=
  after_bind World.Only.trans first next

theorem steps_of_ok {b : β} (ok : (x >>= f) w = (.ok b, w')) :
    ∃ a between, x w = (.ok a, between) ∧ f a between = (.ok b, w') := by
  rcases first : x w with ⟨failure | a, between⟩
  · rw [bind_of_error first] at ok
    cases ok
  · rw [bind_of_ok first] at ok
    exact ⟨a, between, rfl, ok⟩

theorem ok_of_ofExcept {r : Except Failure α} {a : α} (ok : ofExcept r w = (.ok a, w')) :
    r = .ok a ∧ w' = w := by
  cases ok
  exact ⟨rfl, rfl⟩

theorem ok_of_within {context : Context} {a : α} (ok : within context x w = (.ok a, w')) :
    x w = (.ok a, w') := by
  unfold within at ok
  split at ok
  · cases ok
    assumption
  · cases ok

theorem ok_of_call {c : Call} {reply : Server → Except Refusal α × Server} {meaning : Refusal → Failure} {a : α}
    (ok : call c reply meaning w = (.ok a, w')) :
    ∃ server, reply w.server = (.ok a, server) ∧ w' = w.made ⟨c, none⟩ server := by
  rcases call_cases c reply meaning w with ⟨a', server, replied, made⟩ | ⟨refusal, server, replied, made⟩
  · rw [made] at ok
    cases ok
    exact ⟨server, replied, rfl⟩
  · rw [made] at ok
    cases ok

/-- Two actions that end alike in worlds that are related, and leave worlds that are related again. -/
def RunRelated (R : World → World → Prop) (Q : α → β → Prop) (x : Action α) (y : Action β) : Prop :=
  ∀ w w' : World, R w w' → Agree Q (x w).1 (y w').1 ∧ R (x w).2 (y w').2

section

variable {R : World → World → Prop} {P : α → β → Prop} {Q : γ → δ → Prop} {y : Action β}

theorem runRelated_ofExcept {r : Except Failure α} {r' : Except Failure β} (agree : Agree P r r') :
    RunRelated R P (ofExcept r) (ofExcept r') := fun _ _ related => ⟨agree, related⟩

theorem runRelated_pure {a : α} {b : β} (same : P a b) : RunRelated R P (pure a) (pure b) :=
  runRelated_ofExcept (.ok same)

theorem runRelated_bind {g : α → Action γ} {h : β → Action δ} (first : RunRelated R P x y)
    (next : ∀ a b, P a b → RunRelated R Q (g a) (h b)) : RunRelated R Q (x >>= g) (y >>= h) := by
  intro w w' related
  obtain ⟨agree, after⟩ := first w w' related
  rcases left : x w with ⟨r, after₁⟩
  rcases right : y w' with ⟨r', after₂⟩
  rw [left, right] at agree after
  cases agree with
  | ok same =>
    rw [bind_of_ok left, bind_of_ok right]
    exact next _ _ same after₁ after₂ after
  | error same =>
    rw [bind_of_error left, bind_of_error right]
    exact ⟨Both.error same, after⟩

theorem runRelated_bind_same {x' : Action α} {g : α → Action γ} {h : α → Action δ}
    (first : RunRelated R Eq x x') (next : ∀ a, RunRelated R Q (g a) (h a)) :
    RunRelated R Q (x >>= g) (x' >>= h) := by
  refine runRelated_bind first fun a b same => ?_
  rw [same]
  exact next b

theorem runRelated_within (context : Context) (alike : RunRelated R P x y) :
    RunRelated R P (within context x) (within context y) := by
  intro w w' related
  obtain ⟨agree, after⟩ := alike w w' related
  unfold within
  rcases left : x w with ⟨r, after₁⟩
  rcases right : y w' with ⟨r', after₂⟩
  rw [left, right] at agree after
  cases agree with
  | ok same => exact ⟨.ok same, after⟩
  | error same => exact ⟨Both.error (congrArg (Failure.withContext context) same), after⟩

theorem runRelated_attempt {x' : Action α} (alike : RunRelated R Eq x x') :
    RunRelated R Eq (attempt x) (attempt x') := by
  intro w w' related
  obtain ⟨agree, after⟩ := alike w w' related
  exact ⟨.ok agree.eq, after⟩

theorem runRelated_each {f : γ → Action α} {g : γ → Action β} (alike : ∀ a, RunRelated R P (f a) (g a))
    (as : List γ) : RunRelated R (List.Forall₂ P) (each f as) (each g as) := by
  induction as with
  | nil => exact runRelated_pure .nil
  | cons a rest ih =>
    refine runRelated_bind (alike a) fun b b' same => ?_
    exact runRelated_bind ih fun bs bs' more => runRelated_pure (.cons same more)

end

/-- Two actions that end alike and do the same, as far as servers related by `S` let them. -/
def RunAlike (S : Server → Server → Prop) (Q : α → β → Prop) (x : Action α) (y : Action β) : Prop :=
  ∀ w w' : World, w.SameBut S w' → Agree Q (x w).1 (y w').1 ∧ (x w).2.SameBut S (y w').2

section

variable {S : Server → Server → Prop} {Q : α → β → Prop} {R : γ → δ → Prop} {y : Action β}

theorem runAlike_ofExcept {r : Except Failure α} {r' : Except Failure β} (agree : Agree Q r r') :
    RunAlike S Q (ofExcept r) (ofExcept r') := runRelated_ofExcept agree

theorem runAlike_pure {a : α} {b : β} (related : Q a b) : RunAlike S Q (pure a) (pure b) :=
  runAlike_ofExcept (.ok related)

theorem runAlike_fail (failure : Failure) : RunAlike S Q (fail failure) (fail failure) :=
  runAlike_ofExcept (.error failure)

theorem runAlike_session : RunAlike S Eq session session :=
  fun _ _ same => ⟨.ok same.session, same⟩

theorem runAlike_setSession (s : Session) : RunAlike S (fun _ _ => True) (setSession s) (setSession s) :=
  fun _ _ same => ⟨.ok trivial, { same with session := rfl }⟩

theorem runAlike_record (event : Event) : RunAlike S (fun _ _ => True) (record event) (record event) :=
  fun _ _ same => ⟨.ok trivial, { same with events := congrArg (· ++ [event]) same.events }⟩

theorem runAlike_bind {g : α → Action γ} {h : β → Action δ} (first : RunAlike S Q x y)
    (next : ∀ a b, Q a b → RunAlike S R (g a) (h b)) : RunAlike S R (x >>= g) (y >>= h) :=
  runRelated_bind first next

theorem runAlike_within (context : Context) (alike : RunAlike S Q x y) :
    RunAlike S Q (within context x) (within context y) :=
  runRelated_within context alike

theorem runAlike_call {reply : Server → Except Refusal α × Server}
    {reply' : Server → Except Refusal β × Server}
    (answers : ∀ s s', S s s' → Agree Q (reply s).1 (reply' s').1 ∧ S (reply s).2 (reply' s').2)
    (c : Call) (meaning : Refusal → Failure) :
    RunAlike S Q (call c reply meaning) (call c reply' meaning) := by
  intro w w' same
  obtain ⟨agree, after⟩ := answers _ _ same.server
  unfold call
  rcases left : reply w.server with ⟨r, server⟩
  rcases right : reply' w'.server with ⟨r', server'⟩
  rw [left, right] at agree after
  cases agree with
  | ok related =>
    exact ⟨.ok related, { same with server := after, calls := congrArg (· ++ [⟨c, none⟩]) same.calls }⟩
  | @error refusal _ replied =>
    subst replied
    refine ⟨.error (meaning refusal), { same with server := after, calls := ?_ }⟩
    exact congrArg (· ++ [⟨c, some refusal⟩]) same.calls

theorem runAlike_each {f : γ → Action α} {g : γ → Action β} (alike : ∀ a, RunAlike S Q (f a) (g a))
    (as : List γ) : RunAlike S (List.Forall₂ Q) (each f as) (each g as) :=
  runRelated_each alike as

end

end Action
end ClusterLedger
