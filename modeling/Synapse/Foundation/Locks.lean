import Mathlib

/-!
# Locks and permits

A lock is held by at most one owner and is locked exactly while it is held. The permits of
a semaphore are given to the entries of a list: what is available and what the entries
have acquired and not given back adds up to a constant.
-/

namespace Synapse.Locks

open List

universe u v

/-! ### Locks -/

section Exclusive

variable {Owner : Type u} {Lock : Type v}

/-- Each owner holds at most one lock, and a lock is locked while someone holds it. -/
structure Exclusive (holds : Owner → Option Lock) (locked : Lock → Bool) : Prop where
  locked_iff : ∀ lock, locked lock = true ↔ ∃ owner, holds owner = some lock
  unique : ∀ owner other lock, holds owner = some lock → holds other = some lock → owner = other

variable {holds : Owner → Option Lock} {locked : Lock → Bool}

theorem exclusive_none : Exclusive (fun _ : Owner => none) fun _ : Lock => false where
  locked_iff := by simp
  unique := by
    exact nofun

theorem Exclusive.unlocked (exclusive : Exclusive holds locked)
    (free : ∀ owner, holds owner = none) (lock : Lock) : locked lock = false := by
  cases taken : locked lock with
  | false => rfl
  | true =>
    rcases (exclusive.locked_iff lock).mp taken with ⟨owner, held⟩
    rw [free owner] at held
    cases held

variable [DecidableEq Owner] [DecidableEq Lock]

/-- An owner that holds nothing takes a lock that is not locked. -/
theorem Exclusive.acquire (exclusive : Exclusive holds locked) {owner : Owner} {lock : Lock}
    (empty : holds owner = none) (unlocked : locked lock = false) :
    Exclusive (Function.update holds owner (some lock)) (Function.update locked lock true) where
  locked_iff := by
    intro other
    by_cases same : other = lock
    · subst same
      simp only [Function.update_self, true_iff]
      exact ⟨owner, Function.update_self owner _ holds⟩
    · rw [Function.update_of_ne same, exclusive.locked_iff]
      constructor
      · rintro ⟨holder, held⟩
        refine ⟨holder, ?_⟩
        have different : holder ≠ owner := by
          rintro rfl
          rw [empty] at held
          cases held
        rw [Function.update_of_ne different, held]
      · rintro ⟨holder, held⟩
        by_cases own : holder = owner
        · subst own
          rw [Function.update_self] at held
          exact absurd (Option.some.inj held).symm same
        · rw [Function.update_of_ne own] at held
          exact ⟨holder, held⟩
  unique := by
    intro first second other held again
    -- Nobody held the lock before.
    have fresh : ∀ holder, holds holder ≠ some lock := by
      intro holder before
      rw [(exclusive.locked_iff lock).mpr ⟨holder, before⟩] at unlocked
      cases unlocked
    by_cases own : first = owner
    · by_cases same : second = owner
      · rw [own, same]
      · rw [own, Function.update_self] at held
        rw [Function.update_of_ne same, ← held] at again
        exact absurd again (fresh second)
    · rw [Function.update_of_ne own] at held
      by_cases same : second = owner
      · rw [same, Function.update_self] at again
        rw [← again] at held
        exact absurd held (fresh first)
      · rw [Function.update_of_ne same] at again
        exact exclusive.unique first second other held again

theorem Exclusive.release (exclusive : Exclusive holds locked) {owner : Owner} {lock : Lock}
    (held : holds owner = some lock) :
    Exclusive (Function.update holds owner none) (Function.update locked lock false) where
  locked_iff := by
    intro other
    by_cases same : other = lock
    · subst same
      simp only [Function.update_self, Bool.false_eq_true, false_iff]
      rintro ⟨holder, still⟩
      by_cases own : holder = owner
      · rw [own, Function.update_self] at still
        cases still
      · rw [Function.update_of_ne own] at still
        exact own (exclusive.unique holder owner other still held)
    · rw [Function.update_of_ne same, exclusive.locked_iff]
      constructor
      · rintro ⟨holder, before⟩
        refine ⟨holder, ?_⟩
        have different : holder ≠ owner := by
          rintro rfl
          exact same (Option.mem_unique before held)
        rw [Function.update_of_ne different, before]
      · rintro ⟨holder, still⟩
        by_cases own : holder = owner
        · rw [own, Function.update_self] at still
          cases still
        · rw [Function.update_of_ne own] at still
          exact ⟨holder, still⟩
  unique := by
    intro first second other held again
    by_cases own : first = owner
    · rw [own, Function.update_self] at held
      cases held
    · by_cases same : second = owner
      · rw [same, Function.update_self] at again
        cases again
      · rw [Function.update_of_ne own] at held
        rw [Function.update_of_ne same] at again
        exact exclusive.unique first second other held again

end Exclusive

/-! ### Permits -/

section Permits

variable {Entry : Type u} {entries : List Entry} {number : ℕ} {before : Entry}

theorem getElem?_set_of_found (found : entries[number]? = some before) (after : Entry) (other : ℕ) :
    (entries.set number after)[other]? =
      if other = number then some after else entries[other]? := by
  have inside : number < entries.length := by
    by_contra beyond
    rw [getElem?_eq_none (by omega)] at found
    cases found
  by_cases same : other = number
  · subst same
    rw [if_pos rfl, getElem?_set_self inside]
  · rw [if_neg same, getElem?_set_ne (Ne.symm same)]

/-- What does not change in the entry does not change in the list. -/
theorem map_set_of_found {Part : Type v} {part : Entry → Part} {after : Entry}
    (found : entries[number]? = some before) (same : part after = part before) :
    (entries.set number after).map part = entries.map part := by
  apply ext_getElem?
  intro other
  rw [getElem?_map, getElem?_map, getElem?_set_of_found found]
  split
  · rename_i here
    rw [here, found, Option.map_some, Option.map_some, same]
  · rfl

/-- An entry stays where it is when others are appended. -/
theorem getElem?_append_left {entry : Entry} (found : entries[number]? = some entry)
    (more : List Entry) : (entries ++ more)[number]? = some entry := by
  rw [List.getElem?_append_left (List.getElem?_eq_some_iff.mp found).1, found]

theorem getElem?_append_one {last entry : Entry}
    (found : (entries ++ [last])[number]? = some entry) :
    entries[number]? = some entry ∨ number = entries.length ∧ entry = last := by
  rw [getElem?_append] at found
  split at found
  · exact .inl found
  · rename_i beyond
    have inside := (List.getElem?_eq_some_iff.mp found).1
    simp only [length_singleton] at inside
    exact .inr ⟨by omega, mem_singleton.mp (mem_of_getElem? found)⟩

theorem sum_map_set (weight : Entry → ℕ) (found : entries[number]? = some before) (after : Entry) :
    ((entries.set number after).map weight).sum + weight before =
      (entries.map weight).sum + weight after := by
  induction entries generalizing number with
  | nil => cases found
  | cons head tail ih =>
    cases number with
    | zero =>
      cases found
      simp only [set_cons_zero, map_cons, sum_cons]
      omega
    | succ number =>
      have rest := ih found
      simp only [set_cons_succ, map_cons, sum_cons]
      omega

/-- Replacing an entry changes a count by that entry alone. -/
theorem countP_set_of_found (has : Entry → Bool) (found : entries[number]? = some before)
    (after : Entry) :
    (entries.set number after).countP has + (has before).toNat =
      entries.countP has + (has after).toNat := by
  induction entries generalizing number with
  | nil => cases found
  | cons head tail ih =>
    cases number with
    | zero =>
      cases found
      simp only [set_cons_zero, countP_cons, Bool.toNat, Bool.cond_eq_ite]
      omega
    | succ number =>
      have rest := ih found
      simp only [set_cons_succ, countP_cons]
      omega

/-- Entries that have given back no more than they acquired bound the entries that still have a
permit. -/
theorem countP_add_released_le {acquired released : Entry → ℕ} {has : Entry → Bool}
    (bounded : ∀ entry ∈ entries, (if has entry then 1 else 0) + released entry ≤ acquired entry) :
    entries.countP has + (entries.map released).sum ≤ (entries.map acquired).sum := by
  induction entries with
  | nil => simp
  | cons head tail ih =>
    have rest := ih fun entry present => bounded entry (mem_cons_of_mem head present)
    have first := bounded head mem_cons_self
    simp only [countP_cons, map_cons, sum_cons]
    omega

end Permits

end Synapse.Locks
