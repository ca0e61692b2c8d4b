import Mathlib.Data.List.Forall2
import Mathlib.Data.List.Nodup

/-!
# Tables

A table is a list of rows with a key. Rows are inserted at the end, updated in
place and never deleted, so an update relates the two versions of the table row
by row, and a row is recognised later by its key.
-/

namespace Synapse.Table

open List

universe u v w

variable {Row : Type u} {Key : Type v}

/-- `UPDATE table SET change WHERE chosen`. -/
def update (chosen : Row → Bool) (change : Row → Row) (rows : List Row) : List Row :=
  rows.map fun row => if chosen row then change row else row

variable {chosen : Row → Bool} {change : Row → Row} {rows before after : List Row}
variable {Column : Type w}

/-- A column that the change leaves alone is the same after the update. -/
theorem map_update {column : Row → Column} (keeps : ∀ row, column (change row) = column row) :
    (update chosen change rows).map column = rows.map column := by
  simp only [update, map_map]
  apply map_congr_left
  intro row _
  by_cases selected : chosen row <;> simp [selected, keeps]

variable {row : Row}

theorem exists_mem_update {column : Row → Column}
    (keeps : ∀ row, column (change row) = column row) (present : row ∈ rows) :
    ∃ later ∈ update chosen change rows, column later = column row := by
  have kept : column row ∈ (update chosen change rows).map column := by
    rw [map_update keeps]
    exact mem_map_of_mem present
  exact mem_map.mp kept

variable {Step : Row → Row → Prop}

theorem forall₂_update (same : ∀ row ∈ rows, Step row row)
    (changed : ∀ row ∈ rows, chosen row = true → Step row (change row)) :
    List.Forall₂ Step rows (update chosen change rows) := by
  simp only [update, forall₂_map_right_iff, forall₂_same]
  intro row present
  by_cases selected : chosen row = true
  · simpa [selected] using changed row present selected
  · simpa [selected] using same row present

theorem exists_after (moved : List.Forall₂ Step before after)
    (present : row ∈ before) : ∃ later ∈ after, Step row later := by
  induction moved with
  | nil => cases present
  | @cons first later before after step rest ih =>
    rcases mem_cons.mp present with rfl | present
    · exact ⟨later, mem_cons_self, step⟩
    · rcases ih present with ⟨found, foundMem, step⟩
      exact ⟨found, mem_cons_of_mem _ foundMem, step⟩

theorem exists_before (moved : List.Forall₂ Step before after)
    (present : row ∈ after) : ∃ earlier ∈ before, Step earlier row := by
  rcases exists_after moved.flip present with ⟨earlier, earlierMem, step⟩
  exact ⟨earlier, earlierMem, step⟩

theorem map_eq_of_forall₂ {column : Row → Column}
    (keeps : ∀ {row later}, Step row later → column later = column row)
    (moved : List.Forall₂ Step before after) : after.map column = before.map column := by
  induction moved with
  | nil => rfl
  | cons step rest ih => rw [map_cons, map_cons, keeps step, ih]

variable {condition : Row → Bool}

/-- No row comes to satisfy a condition, so no more rows satisfy it. -/
theorem countP_le_of_forall₂
    (kept : ∀ {row later}, Step row later → condition later = true → condition row = true)
    (moved : List.Forall₂ Step before after) : after.countP condition ≤ before.countP condition := by
  induction moved with
  | nil => simp
  | @cons row later before after step rest ih =>
    rw [countP_cons, countP_cons]
    have head : (if condition later = true then 1 else 0) ≤
        if condition row = true then 1 else 0 := by
      split
      case isTrue holds => simp [kept step holds]
      case isFalse => exact Nat.zero_le _
    exact Nat.add_le_add ih head

theorem countP_update_le
    (stops : ∀ row ∈ rows, chosen row = true → condition (change row) = false) :
    (update chosen change rows).countP condition ≤ rows.countP condition := by
  rw [update, countP_map]
  refine countP_mono_left fun row present satisfied => ?_
  simp only [Function.comp_apply] at satisfied
  split at satisfied
  case isTrue selected => simp [stops row present selected] at satisfied
  case isFalse => exact satisfied

/-- Fewer rows satisfy a condition when a chosen one stops to and none starts to. -/
theorem countP_update_lt (stops : ∀ row ∈ rows, chosen row = true → condition (change row) = false)
    (present : row ∈ rows) (selected : chosen row = true) (holds : condition row = true) :
    (update chosen change rows).countP condition < rows.countP condition := by
  rcases append_of_mem present with ⟨front, back, rfl⟩
  have lost : condition (if chosen row = true then change row else row) = false := by
    rw [if_pos selected]
    exact stops row present selected
  have before : (update chosen change front).countP condition ≤ front.countP condition :=
    countP_update_le fun other otherPresent => stops other (mem_append_left _ otherPresent)
  have behind : (update chosen change back).countP condition ≤ back.countP condition :=
    countP_update_le fun other otherPresent =>
      stops other (mem_append_right _ (mem_cons_of_mem _ otherPresent))
  simp only [update] at before behind
  simp only [update, map_append, map_cons, countP_append, countP_cons, lost,
    holds, Bool.false_eq_true, if_false, if_true]
  omega

theorem mem_update_of_not (present : row ∈ rows) (unchosen : chosen row = false) :
    row ∈ update chosen change rows :=
  mem_map.mpr ⟨row, present, by simp [unchosen]⟩

theorem mem_update (present : row ∈ rows) (selected : chosen row = true) :
    change row ∈ update chosen change rows :=
  mem_map.mpr ⟨row, present, by simp [selected]⟩

/-- `ORDER BY number LIMIT 1`. -/
theorem le_of_find? {number : Row → ℕ}
    (ordered : rows.Pairwise fun row other => number row < number other) {other : Row}
    (found : rows.find? condition = some row) (present : other ∈ rows)
    (holds : condition other = true) : number row ≤ number other := by
  rcases find?_eq_some_iff_append.mp found with ⟨_, front, back, rfl, earlier⟩
  rcases mem_append.mp present with inFront | inBack
  · have none := earlier other inFront
    rw [holds] at none
    cases none
  · rcases mem_cons.mp inBack with rfl | behind
    · exact Nat.le_refl _
    · have tail := (pairwise_append.mp ordered).2.1
      exact Nat.le_of_lt ((pairwise_cons.mp tail).1 other behind)

variable {key : Row → Key}

theorem eq_of_key (distinct : (rows.map key).Nodup) {other : Row} (present : row ∈ rows)
    (otherPresent : other ∈ rows) (same : key row = key other) : row = other :=
  inj_on_of_nodup_map distinct present otherPresent same

/-- A row and a later row with its key are the two versions of one row. -/
theorem step_of_key (moved : List.Forall₂ Step before after)
    (keeps : ∀ {row later}, Step row later → key later = key row)
    (distinct : (before.map key).Nodup) {later : Row} (present : row ∈ before)
    (laterPresent : later ∈ after) (same : key later = key row) : Step row later := by
  rcases exists_before moved laterPresent with ⟨earlier, earlierPresent, step⟩
  have equal : earlier = row :=
    eq_of_key distinct earlierPresent present ((keeps step).symm.trans same)
  exact equal ▸ step

/-- A table evolves when its rows step in place and further rows are inserted. -/
def Evolves (Step : Row → Row → Prop) (Fresh : Row → Prop) (before after : List Row) : Prop :=
  ∃ image added, after = image ++ added ∧ List.Forall₂ Step before image ∧
    ∀ row ∈ added, Fresh row

namespace Evolves

variable {Step : Row → Row → Prop} {Fresh : Row → Prop}

theorem of_forall₂ (moved : List.Forall₂ Step before after) : Evolves Step Fresh before after :=
  ⟨after, [], by simp, moved, by simp⟩

variable {row : Row}

theorem insert (moved : List.Forall₂ Step before after) (fresh : Fresh row) :
    Evolves Step Fresh before (after ++ [row]) :=
  ⟨after, [row], rfl, moved, by simpa using fresh⟩

theorem exists_after (evolved : Evolves Step Fresh before after)
    (present : row ∈ before) : ∃ later ∈ after, Step row later := by
  rcases evolved with ⟨image, added, rfl, moved, _⟩
  rcases Table.exists_after moved present with ⟨later, laterPresent, step⟩
  exact ⟨later, mem_append_left _ laterPresent, step⟩

theorem exists_before_or_fresh (evolved : Evolves Step Fresh before after)
    (present : row ∈ after) : (∃ earlier ∈ before, Step earlier row) ∨ Fresh row := by
  rcases evolved with ⟨image, added, rfl, moved, fresh⟩
  rcases mem_append.mp present with stepped | inserted
  · exact Or.inl (exists_before moved stepped)
  · exact Or.inr (fresh row inserted)

/-- A row and a later row with its key are the two versions of one row. -/
theorem step_of_key (evolved : Evolves Step Fresh before after)
    (keeps : ∀ {row later}, Step row later → key later = key row)
    (distinct : (before.map key).Nodup)
    (fresh : ∀ {row}, Fresh row → ∀ other ∈ before, key other ≠ key row)
    {later : Row} (present : row ∈ before) (laterPresent : later ∈ after)
    (same : key later = key row) : Step row later := by
  rcases evolved with ⟨image, added, rfl, moved, inserted⟩
  rcases mem_append.mp laterPresent with stepped | new
  · exact Table.step_of_key moved keeps distinct present stepped same
  · exact absurd same.symm (fresh (inserted later new) row present)

end Evolves

theorem mem_of_find? [DecidableEq Key] {sought : Key}
    (found : rows.find? (fun row => key row = sought) = some row) :
    row ∈ rows ∧ key row = sought :=
  ⟨mem_of_find?_eq_some found, by simpa using find?_some found⟩

theorem find?_eq_some [DecidableEq Key] (distinct : (rows.map key).Nodup)
    (present : row ∈ rows) : rows.find? (fun other => key other = key row) = some row := by
  cases found : rows.find? (fun other => key other = key row) with
  | none =>
    rw [find?_eq_none] at found
    simpa using found row present
  | some other =>
    rcases mem_of_find? found with ⟨otherPresent, same⟩
    rw [eq_of_key distinct otherPresent present same]

theorem update_eq_self (none : ∀ row ∈ rows, chosen row = false) :
    update chosen change rows = rows := by
  unfold update
  conv_rhs => rw [← map_id rows]
  apply map_congr_left
  intro row present
  simp [none row present]

theorem update_congr {other : Row → Bool} (same : ∀ row ∈ rows, chosen row = other row) :
    update chosen change rows = update other change rows := by
  unfold update
  apply map_congr_left
  intro row present
  rw [same row present]

/-- Two updates by one change are one, if a changed row is not chosen again. -/
theorem update_update {other : Row → Bool}
    (once : ∀ row, chosen row = true → other (change row) = false) :
    update other change (update chosen change rows) =
      update (fun row => chosen row || other row) change rows := by
  simp only [update, map_map]
  apply map_congr_left
  intro row _
  by_cases selected : chosen row = true
  · simp [selected, once row selected]
  · simp [selected]

end Synapse.Table
