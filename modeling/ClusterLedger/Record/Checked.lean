import ClusterLedger.Fault

namespace ClusterLedger

inductive Checked (α : Type) where
  | accepted (value : α)
  | refused (issues : List Issue)
  deriving Repr

namespace Checked

variable {α β : Type}

def map (f : α → β) : Checked α → Checked β
  | accepted a => accepted (f a)
  | refused issues => refused issues

def apply : Checked (α → β) → Checked α → Checked β
  | accepted f, accepted a => accepted (f a)
  | accepted _, refused issues => refused issues
  | refused issues, accepted _ => refused issues
  | refused issues, refused more => refused (issues ++ more)

instance : Applicative Checked where
  pure := accepted
  seq f x := f.apply (x ())

def problem (p : Problem) : Checked α := refused [⟨[], p⟩]

def under (step : String) : Checked α → Checked α
  | accepted a => accepted a
  | refused issues => refused (issues.map fun issue => { issue with path := step :: issue.path })

def toExcept : Checked α → Except Failure α
  | accepted a => .ok a
  | refused issues => .error (.invalid issues)

def all : List (Checked α) → Checked (List α)
  | [] => accepted []
  | c :: rest => (c.map List.cons).apply (all rest)

@[simp] theorem apply_eq_accepted {f : Checked (α → β)} {x : Checked α} {b : β} :
    f.apply x = accepted b ↔ ∃ g a, f = accepted g ∧ x = accepted a ∧ b = g a := by
  cases f <;> cases x <;> simp [apply, eq_comm]

@[simp] theorem map_eq_accepted {f : α → β} {x : Checked α} {b : β} :
    x.map f = accepted b ↔ ∃ a, x = accepted a ∧ b = f a := by
  cases x <;> simp [map, eq_comm]

@[simp] theorem under_eq_accepted {step : String} {x : Checked α} {a : α} :
    x.under step = accepted a ↔ x = accepted a := by
  cases x <;> simp [under]

@[simp] theorem toExcept_eq_ok {x : Checked α} {a : α} : x.toExcept = .ok a ↔ x = accepted a := by
  cases x <;> simp [toExcept]

end Checked
end ClusterLedger
