import Mathlib

/-!
# Greedy selection

A list is walked from its last item to its first, and an item is kept if it fits beside those kept
after it.
-/

namespace Synapse.Greedy

open List

variable {α : Type*} (fits : List α → α → Bool)

def keep : List α → List α
  | [] => []
  | item :: rest => if fits (keep rest) item then item :: keep rest else keep rest

def refuse : List α → List α
  | [] => []
  | item :: rest => if fits (keep fits rest) item then refuse rest else item :: refuse rest

variable {fits} {item : α} {rest items : List α}

theorem keep_cons_of_fits (fit : fits (keep fits rest) item = true) :
    keep fits (item :: rest) = item :: keep fits rest :=
  if_pos fit

theorem keep_cons_of_not_fits (unfit : ¬ fits (keep fits rest) item = true) :
    keep fits (item :: rest) = keep fits rest :=
  if_neg unfit

theorem refuse_cons_of_fits (fit : fits (keep fits rest) item = true) :
    refuse fits (item :: rest) = refuse fits rest :=
  if_pos fit

theorem refuse_cons_of_not_fits (unfit : ¬ fits (keep fits rest) item = true) :
    refuse fits (item :: rest) = item :: refuse fits rest :=
  if_neg unfit

theorem keep_sublist (fits : List α → α → Bool) (items : List α) :
    (keep fits items).Sublist items := by
  induction items with
  | nil => exact Sublist.refl _
  | cons item rest ih =>
    by_cases fit : fits (keep fits rest) item = true
    · rw [keep_cons_of_fits fit]
      exact ih.cons_cons item
    · rw [keep_cons_of_not_fits fit]
      exact ih.cons item

theorem refuse_sublist (fits : List α → α → Bool) (items : List α) :
    (refuse fits items).Sublist items := by
  induction items with
  | nil => exact Sublist.refl _
  | cons item rest ih =>
    by_cases fit : fits (keep fits rest) item = true
    · rw [refuse_cons_of_fits fit]
      exact ih.cons item
    · rw [refuse_cons_of_not_fits fit]
      exact ih.cons_cons item

@[simp] theorem keep_keep (fits : List α → α → Bool) (items : List α) :
    keep fits (keep fits items) = keep fits items := by
  induction items with
  | nil => rfl
  | cons item rest ih =>
    by_cases fit : fits (keep fits rest) item = true
    · rw [keep_cons_of_fits fit, keep_cons_of_fits (by rw [ih]; exact fit), ih]
    · rw [keep_cons_of_not_fits fit, ih]

@[simp] theorem refuse_keep (fits : List α → α → Bool) (items : List α) :
    refuse fits (keep fits items) = [] := by
  induction items with
  | nil => rfl
  | cons item rest ih =>
    by_cases fit : fits (keep fits rest) item = true
    · rw [keep_cons_of_fits fit, refuse_cons_of_fits (by rw [keep_keep]; exact fit), ih]
    · rw [keep_cons_of_not_fits fit, ih]

/-- What is kept of a list ends with what is kept of its end. -/
theorem keep_suffix (fits : List α → α → Bool) (before after : List α) :
    ∃ chosen, chosen.Sublist before ∧ keep fits (before ++ after) = chosen ++ keep fits after := by
  induction before with
  | nil => exact ⟨[], Sublist.refl _, rfl⟩
  | cons item before ih =>
    rcases ih with ⟨chosen, within, kept⟩
    by_cases fit : fits (keep fits (before ++ after)) item = true
    · refine ⟨item :: chosen, within.cons_cons item, ?_⟩
      rw [cons_append, keep_cons_of_fits fit, kept]
      rfl
    · exact ⟨chosen, within.cons item, by rw [cons_append, keep_cons_of_not_fits fit, kept]⟩

/-- An item that the list holds once is kept if and only if it fits beside those kept after it. -/
theorem mem_keep_iff {before after : List α} (once : (before ++ item :: after).Nodup) :
    item ∈ keep fits (before ++ item :: after) ↔ fits (keep fits after) item = true := by
  rcases keep_suffix fits before (item :: after) with ⟨chosen, within, kept⟩
  have unlike : item ∉ chosen := fun inside =>
    (nodup_append.1 once).2.2 item (within.subset inside) item mem_cons_self rfl
  have later : item ∉ keep fits after := fun inside =>
    (nodup_cons.1 (nodup_append.1 once).2.1).1 ((keep_sublist fits after).subset inside)
  rw [kept, mem_append]
  by_cases fit : fits (keep fits after) item = true
  · rw [keep_cons_of_fits fit]
    exact iff_of_true (Or.inr mem_cons_self) fit
  · rw [keep_cons_of_not_fits fit]
    exact iff_of_false (not_or_intro unlike later) fit

/-- Without the refused items, which a key tells from the others, the kept ones are left. -/
theorem filter_refuse {β : Type*} [DecidableEq β] (key : α → β) (once : (items.map key).Nodup) :
    (items.filter fun item => key item ∉ (refuse fits items).map key) = keep fits items := by
  induction items with
  | nil => rfl
  | cons item rest ih =>
    rw [map_cons, nodup_cons] at once
    have absent : key item ∉ (refuse fits rest).map key := fun inside =>
      once.1 (((refuse_sublist fits rest).map key).subset inside)
    by_cases fit : fits (keep fits rest) item = true
    · rw [refuse_cons_of_fits fit, keep_cons_of_fits fit, filter_cons,
        if_pos (decide_eq_true absent), ih once.2]
    · rw [refuse_cons_of_not_fits fit, keep_cons_of_not_fits fit,
        filter_cons_of_neg (by simp), ← ih once.2]
      refine filter_congr fun other inside => ?_
      have unlike : key other ≠ key item := fun same =>
        once.1 (same ▸ mem_map_of_mem inside)
      simp [unlike]

theorem not_fits_of_mem_refuse (refused : item ∈ refuse fits items) :
    ∃ kept, ¬ fits kept item = true := by
  induction items with
  | nil => cases refused
  | cons first rest ih =>
    by_cases fit : fits (keep fits rest) first = true
    · rw [refuse_cons_of_fits fit] at refused
      exact ih refused
    · rw [refuse_cons_of_not_fits fit] at refused
      rcases mem_cons.1 refused with rfl | later
      · exact ⟨_, fit⟩
      · exact ih later

theorem filter_keep {select : α → Bool} (always : ∀ kept item, select item = true → fits kept item)
    (items : List α) : (keep fits items).filter select = items.filter select := by
  induction items with
  | nil => rfl
  | cons item rest ih =>
    by_cases fit : fits (keep fits rest) item = true
    · rw [keep_cons_of_fits fit, filter_cons, filter_cons, ih]
    · have other : ¬ select item = true := fun selected => fit (always _ _ selected)
      rw [keep_cons_of_not_fits fit, filter_cons_of_neg other, ih]

/-- What holds of nothing and is kept by each item that fits holds of what is kept. -/
theorem keep_induction {motive : List α → Prop} (start : motive [])
    (step : ∀ kept item, fits kept item = true → motive kept → motive (item :: kept))
    (items : List α) : motive (keep fits items) := by
  induction items with
  | nil => exact start
  | cons item rest ih =>
    by_cases fit : fits (keep fits rest) item = true
    · rw [keep_cons_of_fits fit]
      exact step _ _ fit ih
    · rw [keep_cons_of_not_fits fit]
      exact ih

end Synapse.Greedy
