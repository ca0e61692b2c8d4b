import Mathlib

/-!
# Merging neighbours

A run of entries in which an entry may be merged into the one before it. A fold that takes a merged
entry as it takes the two it was made from does not see the merges.
-/

namespace Synapse.Coalesce

universe u v

variable {α : Type u} {σ : Type v} (merge? : α → α → Option α)

/-- The entry after those that are kept, or merged into the last of them. -/
def onto (kept : List α) (entry : α) : List α :=
  match kept.getLast? with
  | none => [entry]
  | some last =>
    match merge? last entry with
    | none => kept ++ [entry]
    | some both => kept.dropLast ++ [both]

def coalesce (entries : List α) : List α := entries.foldl (onto merge?) []

variable {merge?} {step : σ → α → σ}

theorem foldl_onto (agrees : ∀ first second both, merge? first second = some both →
      ∀ state, step state both = step (step state first) second)
    (kept : List α) (entry : α) (state : σ) :
    (onto merge? kept entry).foldl step state = step (kept.foldl step state) entry := by
  unfold onto
  cases final : kept.getLast? with
  | none =>
    rw [List.getLast?_eq_none_iff] at final
    rw [final]
    rfl
  | some last =>
    have nonempty : kept ≠ [] := by
      rintro rfl
      cases final
    have parts : kept.dropLast ++ [last] = kept := by
      rw [List.getLast?_eq_some_getLast nonempty] at final
      rw [← Option.some.inj final, List.dropLast_append_getLast]
    dsimp only
    cases merged : merge? last entry with
    | none =>
      dsimp only
      rw [List.foldl_append]
      rfl
    | some both =>
      dsimp only
      calc
        (kept.dropLast ++ [both]).foldl step state
            = step (kept.dropLast.foldl step state) both := by rw [List.foldl_append]; rfl
        _ = step (step (kept.dropLast.foldl step state) last) entry := agrees _ _ _ merged _
        _ = step ((kept.dropLast ++ [last]).foldl step state) entry := by
            rw [List.foldl_append]; rfl
        _ = step (kept.foldl step state) entry := by rw [parts]

theorem foldl_coalesce (agrees : ∀ first second both, merge? first second = some both →
      ∀ state, step state both = step (step state first) second)
    (entries : List α) (state : σ) :
    (coalesce merge? entries).foldl step state = entries.foldl step state := by
  have run : ∀ kept, (entries.foldl (onto merge?) kept).foldl step state =
      entries.foldl step (kept.foldl step state) := by
    induction entries with
    | nil => exact fun _ => rfl
    | cons entry entries ih =>
      intro kept
      rw [List.foldl_cons, ih, foldl_onto agrees, List.foldl_cons]
  exact run []

end Synapse.Coalesce
