import Mathlib

/-!
# Cutting a list before one of its marked elements

The part of a list before the element that is marked after a given number of other marked ones, by
recursion and by the indexes of the marked elements.
-/

namespace Synapse

open List

variable {α β : Type*}

/-- What is before the marked element number `count`, counted from zero. -/
def beforeNth (marked : α → Bool) : ℕ → List α → List α
  | _, [] => []
  | 0, item :: rest => if marked item then [] else item :: beforeNth marked 0 rest
  | count + 1, item :: rest =>
    item :: beforeNth marked (if marked item then count else count + 1) rest

def markedIndexes (marked : α → Bool) (items : List α) : List ℕ :=
  (items.zipIdx.filter fun entry => marked entry.1).map Prod.snd

/-- The cut at the index of the marked element, if there is one. -/
def cutBefore (marked : α → Bool) (count : ℕ) (items : List α) : List α :=
  if (markedIndexes marked items).length ≤ count then items
  else items.take ((markedIndexes marked items).getD count 0)

variable {marked other : α → Bool} {count more : ℕ} {item : α} {items rest : List α}

theorem markedIndexes_cons : markedIndexes marked (item :: rest) =
    (if marked item then [0] else []) ++ (markedIndexes marked rest).map (· + 1) := by
  unfold markedIndexes
  rw [zipIdx_cons, zipIdx_succ]
  by_cases first : marked item = true
  · simp [filter_map, Function.comp_def, first]
  · simp [filter_map, Function.comp_def, first]

theorem cutBefore_eq (marked : α → Bool) (count : ℕ) (items : List α) :
    cutBefore marked count items = beforeNth marked count items := by
  induction items generalizing count with
  | nil =>
    unfold cutBefore
    split
    · rfl
    · exact take_nil
  | cons item rest ih =>
    unfold cutBefore at ih ⊢
    rw [markedIndexes_cons]
    by_cases first : marked item = true
    · rw [if_pos first]
      cases count with
      | zero => simp [beforeNth, first]
      | succ count =>
        have own := ih count
        simp only [singleton_append, length_cons, length_map,
          Nat.add_le_add_iff_right, beforeNth, first, if_true]
        rw [← own]
        split
        · rfl
        · rename_i enough
          rw [not_le] at enough
          rw [getD_cons_succ, getD_eq_getElem _ _ (by simpa using enough),
            getD_eq_getElem _ _ enough, getElem_map, take_succ_cons]
    · rw [if_neg first]
      have own := ih count
      have here : beforeNth marked count (item :: rest) = item :: beforeNth marked count rest := by
        cases count with
        | zero => simp [beforeNth, first]
        | succ count => simp [beforeNth, first]
      rw [here, ← own, nil_append, length_map]
      split
      · rfl
      · rename_i enough
        rw [not_le] at enough
        rw [getD_eq_getElem _ _ (by simpa using enough), getD_eq_getElem _ _ enough,
          getElem_map, take_succ_cons]

/-- Where fewer elements are marked and more of them are counted, the cut comes later. -/
theorem beforeNth_prefix (fewer : ∀ item, other item = true → marked item = true)
    (later : count ≤ more) (items : List α) :
    beforeNth marked count items <+: beforeNth other more items := by
  induction items generalizing count more with
  | nil => exact nil_prefix
  | cons item rest ih =>
    cases count with
    | zero =>
      by_cases first : marked item = true
      · rw [beforeNth, if_pos first]
        exact nil_prefix
      · have unmarked : ¬ other item = true := fun both => first (fewer item both)
        rw [beforeNth, if_neg first]
        cases more with
        | zero =>
          rw [beforeNth, if_neg unmarked]
          exact prefix_cons_iff.2 (Or.inr ⟨_, rfl, ih (le_refl 0)⟩)
        | succ more =>
          rw [beforeNth, if_neg unmarked]
          exact prefix_cons_iff.2 (Or.inr ⟨_, rfl, ih (Nat.zero_le _)⟩)
    | succ count =>
      cases more with
      | zero => omega
      | succ more =>
        rw [beforeNth, beforeNth]
        refine prefix_cons_iff.2 (Or.inr ⟨_, rfl, ih ?_⟩)
        by_cases second : other item = true
        · rw [if_pos second, if_pos (fewer item second)]
          omega
        · rw [if_neg second]
          split <;> omega

/-- A selection that keeps the marked elements is cut where they are. -/
theorem beforeNth_filterMap {select : α → Option β} {chosen : β → Bool}
    (same : ∀ item, marked item = (select item).any chosen) (count : ℕ) (items : List α) :
    beforeNth chosen count (items.filterMap select) =
      (beforeNth marked count items).filterMap select := by
  induction items generalizing count with
  | nil => cases count <;> rfl
  | cons item rest ih =>
    have own := same item
    cases found : select item with
    | none =>
      rw [found, Option.any_none] at own
      rw [filterMap_cons_none found, ih]
      cases count with
      | zero => rw [beforeNth, own, if_neg Bool.false_ne_true, filterMap_cons_none found]
      | succ count =>
        rw [beforeNth, own, if_neg Bool.false_ne_true, filterMap_cons_none found]
    | some value =>
      rw [found, Option.any_some] at own
      rw [filterMap_cons_some found]
      cases count with
      | zero =>
        rw [beforeNth, beforeNth, own]
        split
        · rfl
        · rw [filterMap_cons_some found, ih]
      | succ count => rw [beforeNth, beforeNth, own, filterMap_cons_some found, ih]

theorem beforeNth_map {change : α → β} {chosen : β → Bool}
    (same : ∀ item, chosen (change item) = marked item) (count : ℕ) (items : List α) :
    beforeNth chosen count (items.map change) = (beforeNth marked count items).map change := by
  have kept : ∀ item, marked item = ((some ∘ change) item).any chosen := fun item =>
    (same item).symm
  have cut := beforeNth_filterMap kept count items
  rwa [filterMap_eq_map] at cut

end Synapse
