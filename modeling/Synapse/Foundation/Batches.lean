import Synapse.Foundation.Fallible

/-!
# Work in batches

`while batch(): pass` calls a fallible operation until it reports that it has
done nothing. Each call reads a clock. The loop returns when each call that does
something lowers a load, and what it does in all is read off the single calls.
-/

namespace Synapse

universe u v w

variable {State : Type u} {Failure : Type v} {Tick : Type w}

/-- The loop with a bound on the number of calls. It is `none` if a call raised,
or if the bound is reached. -/
def drain (batch : Tick → State → Except Failure (State × ℕ)) :
    ℕ → (ℕ → Tick) → State → Option State
  | 0, _, _ => none
  | fuel + 1, clock, state =>
    match batch (clock 0) state with
    | .error _ => none
    | .ok (next, 0) => some next
    | .ok (next, _ + 1) => drain batch fuel (fun tick => clock (tick + 1)) next

theorem drain_spec {batch : Tick → State → Except Failure (State × ℕ)} {invariant : State → Prop}
    (Relates : State → State → Prop) (load : State → ℕ)
    (progress : ∀ tick state, invariant state → ∃ next count, batch tick state = .ok (next, count) ∧
      invariant next ∧ (count = 0 → Relates state next) ∧
      (count ≠ 0 → load next < load state ∧ ∀ final, Relates next final → Relates state final))
    {fuel : ℕ} {clock : ℕ → Tick} {start : State} (initial : invariant start)
    (enough : load start < fuel) :
    ∃ final, drain batch fuel clock start = some final ∧ invariant final ∧ Relates start final := by
  induction fuel generalizing clock start with
  | zero => cases enough
  | succ fuel ih =>
    rcases progress (clock 0) start initial with ⟨next, count, called, holds, rest, works⟩
    cases count with
    | zero => exact ⟨next, by simp only [drain, called], holds, rest rfl⟩
    | succ count =>
      rcases works (Nat.succ_ne_zero count) with ⟨lighter, compose⟩
      rcases ih holds (Nat.lt_of_lt_of_le lighter (Nat.le_of_lt_succ enough)) with
        ⟨final, drained, finalHolds, related⟩
      exact ⟨final, by simp only [drain, called]; exact drained, finalHolds,
        compose final related⟩

end Synapse
