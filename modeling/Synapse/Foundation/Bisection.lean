import Mathlib

/-!
# Bisection

The greatest number up to a bound that a predicate accepts, where whatever is below an accepted
number is accepted too. The search asks in the middle of what is left.
-/

namespace Synapse

/-- Numbers below `low` are settled, and so are those from `stop` on. -/
def bisect (accepts : ℕ → Bool) : ℕ → ℕ → ℕ → ℕ → ℕ
  | 0, _, _, best => best
  | fuel + 1, low, stop, best =>
    if low < stop then
      let middle := (low + stop - 1) / 2
      if accepts middle then bisect accepts fuel (middle + 1) stop middle
      else bisect accepts fuel low middle best
    else best

/-- `best` is the greatest accepted number up to a bound. -/
structure Greatest (accepts : ℕ → Bool) (bound best : ℕ) : Prop where
  within : best ≤ bound
  accepted : accepts best = true
  beyond : ∀ more, best < more → more ≤ bound → accepts more = false

variable {accepts : ℕ → Bool} {bound : ℕ}

theorem greatest_bisect_of
    (closed : ∀ {few many}, few ≤ many → accepts many = true → accepts few = true)
    {fuel low stop best : ℕ} (enough : stop ≤ low + fuel) (next : low ≤ best + 1)
    (within : best ≤ bound) (stops : stop ≤ bound + 1) (accepted : accepts best = true)
    (refused : ∀ more, stop ≤ more → more ≤ bound → accepts more = false) :
    Greatest accepts bound (bisect accepts fuel low stop best) := by
  induction fuel generalizing low stop best with
  | zero =>
    exact ⟨within, accepted, fun more (above : best < more) => refused more (by omega)⟩
  | succ fuel ih =>
    unfold bisect
    split
    · rename_i open_
      dsimp only
      cases asked : accepts ((low + stop - 1) / 2) with
      | true =>
        rw [if_pos rfl]
        exact ih (by omega) (Nat.le_refl _) (by omega) stops asked refused
      | false =>
        rw [if_neg Bool.false_ne_true]
        refine ih (by omega) next within (by omega) accepted fun more above _ => ?_
        cases beyond : accepts more with
        | false => rfl
        | true =>
          rw [closed above beyond] at asked
          cases asked
    · exact ⟨within, accepted, fun more above => refused more (by omega)⟩

/-- The search finds the greatest accepted number, if zero is one. -/
theorem greatest_bisect
    (closed : ∀ {few many}, few ≤ many → accepts many = true → accepts few = true)
    (accepted : accepts 0 = true) :
    Greatest accepts bound (bisect accepts (bound + 1) 0 (bound + 1) 0) :=
  greatest_bisect_of closed (by omega) (by omega) (Nat.zero_le bound) (Nat.le_refl _) accepted
    fun _ above below => absurd below (by omega)

end Synapse
