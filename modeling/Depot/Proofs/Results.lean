/-!
# Results that are not faults

When a result of several steps is none of their faults: each step has a result of
its own, and the next one goes on with it.
-/

namespace Depot.Results

set_option autoImplicit false

variable {ε α β : Type}

theorem bind_eq_ok_iff {first : Except ε α} {next : α → Except ε β} {b : β} :
    first >>= next = .ok b ↔ ∃ a, first = .ok a ∧ next a = .ok b := by
  cases first with
  | error fault => simp [bind, Except.bind]
  | ok a => simp [bind, Except.bind]

theorem map_eq_ok_iff {result : Except ε α} {f : α → β} {b : β} :
    result.map f = .ok b ↔ ∃ a, result = .ok a ∧ f a = b := by
  cases result <;> simp [Except.map]

/-- A check of several rules passes when the first is kept and the others pass. -/
theorem guard_eq_ok_iff {broken : Prop} [Decidable broken] {fault : ε} {others : Except ε Unit} :
    (if broken then .error fault else others) = .ok () ↔ ¬ broken ∧ others = .ok () := by
  split
  · next bad => simp [bad]
  · next fine => simp [fine]

end Depot.Results
