import Mathlib

/-!
# Pages at offsets

A sequence is read in pages of one size until a page has fewer items. Where items are left out after a page
is cut, a page can have fewer items while there are more, so the pages are complete only when what is left
out and what is kept after it are on one page.
-/

namespace Synapse

open List

universe u

variable {α : Type u}

/-- The items read from an offset on, page by page, to the first page with fewer than `size` items. -/
inductive Collected (read : ℕ → List α) (size : ℕ) : ℕ → List α → Prop
  | last {offset : ℕ} : (read offset).length < size → Collected read size offset (read offset)
  | more {offset : ℕ} {rest : List α} : size ≤ (read offset).length →
      Collected read size (offset + size) rest → Collected read size offset (read offset ++ rest)

/-- A page of which items are left out after it is cut. -/
def filteredPage (keep : α → Bool) (size : ℕ) (items : List α) (offset : ℕ) : List α :=
  ((items.drop offset).take size).filter keep

/-- An item that is left out is on the page of every later item that is kept. -/
def KeptTogether (keep : α → Bool) (size : ℕ) (items : List α) : Prop :=
  ∀ i j a b, i < j → items[i]? = some a → items[j]? = some b → keep a = false → keep b = true →
    i / size = j / size

variable {keep : α → Bool} {size offset : ℕ} {items found front back : List α}

theorem keptTogether_short (short : items.length ≤ size) : KeptTogether keep size items := by
  intro i j a b before _ later _ _
  have inside := (List.getElem?_eq_some_iff.1 later).1
  rw [Nat.div_eq_of_lt (by omega), Nat.div_eq_of_lt (by omega)]

/-- After a page on which nothing is left out, the pages that follow decide. -/
theorem keptTogether_append (positive : 0 < size) (full : front.length = size)
    (all : ∀ item ∈ front, keep item = true) :
    KeptTogether keep size (front ++ back) ↔ KeptTogether keep size back := by
  constructor
  · intro together i j a b before here later out kept
    have first : (front ++ back)[i + size]? = some a := by
      rw [getElem?_append_right (by omega), full, Nat.add_sub_cancel, here]
    have second : (front ++ back)[j + size]? = some b := by
      rw [getElem?_append_right (by omega), full, Nat.add_sub_cancel, later]
    have same := together (i + size) (j + size) a b (by omega) first second out kept
    rw [Nat.add_div_right i positive, Nat.add_div_right j positive] at same
    exact Nat.succ.inj same
  · intro together i j a b before here later out kept
    have beyond : size ≤ i := by
      by_contra inside
      rw [getElem?_append_left (by omega)] at here
      rw [all a (mem_of_getElem? here)] at out
      cases out
    rw [getElem?_append_right (by omega), full] at here later
    have same := together (i - size) (j - size) a b (by omega) here later out kept
    calc i / size
      _ = (i - size) / size + 1 := by rw [← Nat.add_div_right _ positive, Nat.sub_add_cancel beyond]
      _ = (j - size) / size + 1 := by rw [same]
      _ = j / size := by rw [← Nat.add_div_right _ positive, Nat.sub_add_cancel (by omega)]

/-- When something on the first page is left out, the pages are complete when nothing after it is kept. -/
theorem keptTogether_gap (positive : 0 < size) (full : front.length = size)
    (gap : ∃ item ∈ front, keep item = false) :
    KeptTogether keep size (front ++ back) ↔ back.filter keep = [] := by
  constructor
  · intro together
    rw [filter_eq_nil_iff]
    intro b mem kept
    rcases gap with ⟨a, present, out⟩
    rcases mem_iff_getElem?.1 present with ⟨i, here⟩
    rcases mem_iff_getElem?.1 mem with ⟨j, later⟩
    have inside : i < size := full ▸ (List.getElem?_eq_some_iff.1 here).1
    have first : (front ++ back)[i]? = some a := by rw [getElem?_append_left (by omega), here]
    have second : (front ++ back)[j + size]? = some b := by
      rw [getElem?_append_right (by omega), full, Nat.add_sub_cancel, later]
    have same := together i (j + size) a b (by omega) first second out kept
    rw [Nat.div_eq_of_lt inside, Nat.add_div_right j positive] at same
    exact absurd same (Nat.succ_ne_zero _).symm
  · intro none i j a b before here later out kept
    have inside : j < size := by
      by_contra beyond
      rw [getElem?_append_right (by omega)] at later
      exact absurd kept (filter_eq_nil_iff.1 none b (mem_of_getElem? later))
    rw [Nat.div_eq_of_lt inside, Nat.div_eq_of_lt (by omega)]

theorem exists_collected (keep : α → Bool) (positive : 0 < size) (items : List α) (offset : ℕ) :
    ∃ found, Collected (filteredPage keep size items) size offset found := by
  induction left : items.length - offset using Nat.strongRecOn generalizing offset with
  | ind bound ih =>
    rcases Nat.lt_or_ge (filteredPage keep size items offset).length size with short | full
    · exact ⟨_, Collected.last short⟩
    · have most : (filteredPage keep size items offset).length ≤ items.length - offset :=
        calc (filteredPage keep size items offset).length
          _ ≤ ((items.drop offset).take size).length := length_filter_le _ _
          _ ≤ (items.drop offset).length := length_take_le' _ _
          _ = items.length - offset := length_drop
      rcases ih (items.length - (offset + size)) (by omega) (offset + size) rfl with ⟨rest, collected⟩
      exact ⟨_, Collected.more full collected⟩

/-- The pages make up what is kept of the items when what is left out is together with what is kept. -/
theorem Collected.eq_filter_iff (positive : 0 < size)
    (collected : Collected (filteredPage keep size items) size offset found) :
    found = (items.drop offset).filter keep ↔ KeptTogether keep size (items.drop offset) := by
  induction collected with
  | @last offset short =>
    rw [filteredPage] at short ⊢
    generalize items.drop offset = rest at short ⊢
    rcases Nat.lt_or_ge size rest.length with long | fits
    · have full : (rest.take size).length = size := length_take_of_le long.le
      have parts : rest.filter keep = (rest.take size).filter keep ++ (rest.drop size).filter keep := by
        rw [← filter_append, take_append_drop]
      have gap : ∃ item ∈ rest.take size, keep item = false := by
        by_contra all
        push Not at all
        have whole : (rest.take size).filter keep = rest.take size :=
          filter_eq_self.2 fun item mem => Bool.eq_true_of_not_eq_false (all item mem)
        rw [whole, full] at short
        exact absurd short (Nat.lt_irrefl size)
      have decides := @keptTogether_gap _ _ _ _ (rest.drop size) positive full gap
      rw [take_append_drop] at decides
      rw [decides, parts, self_eq_append_right]
    · rw [take_of_length_le fits]
      exact iff_of_true rfl (keptTogether_short fits)
  | @more offset rest full collected ih =>
    rw [filteredPage] at full ⊢
    rw [← drop_drop] at ih
    generalize items.drop offset = own at full ih ⊢
    have longest : (own.take size).length ≤ size := length_take_le _ _
    have filtered := length_filter_le keep (own.take size)
    have whole : (own.take size).filter keep = own.take size :=
      List.filter_sublist.eq_of_length_le (by omega)
    have decides := @keptTogether_append _ _ _ _ (own.drop size) positive (by omega)
      (filter_eq_self.1 whole)
    rw [take_append_drop] at decides
    have parts : own.filter keep = own.take size ++ (own.drop size).filter keep := by
      calc own.filter keep
        _ = (own.take size ++ own.drop size).filter keep := by rw [take_append_drop]
        _ = own.take size ++ (own.drop size).filter keep := by rw [filter_append, whole]
    rw [decides, ← ih, parts, whole, append_cancel_left_eq]

theorem Collected.sublist (collected : Collected (filteredPage keep size items) size offset found) :
    found.Sublist ((items.drop offset).filter keep) := by
  induction collected with
  | @last offset short => exact (take_sublist size (items.drop offset)).filter keep
  | @more offset rest full collected ih =>
    have parts : (items.drop offset).filter keep = filteredPage keep size items offset ++
        (items.drop (offset + size)).filter keep := by
      rw [filteredPage, ← drop_drop, ← filter_append, take_append_drop]
    rw [parts]
    exact (Sublist.refl _).append ih

end Synapse
