import Mathlib.Data.List.Perm.Subperm
import Mathlib.Order.Lattice.Nat

/-!
# Numbered logs under retention

A numbered log grows at the end and its entries carry the numbers `1, 2, ...`.
A buffer retains some of its entries, and a watermark records the largest
number ever evicted from the buffer. Eviction may remove any entry, not only
the oldest one, so the missing numbers need not form an interval.

`Retains` is the invariant that ties the three together: the buffer is a
subsequence of the log, and the watermark is the largest missing number. It is
enough to decide from the watermark alone whether the suffix after a cursor is
complete.
-/

namespace Synapse

open List

universe u

/-- The entries of `log` are numbered `1, 2, ...` by `number`. -/
def Numbered {Entry : Type u} (number : Entry → ℕ) (log : List Entry) : Prop :=
  log.map number = List.range' 1 log.length

/-- `kept` is what remains of a numbered log, and `watermark` is the largest
number that is missing from it (or zero). -/
structure Retains {Entry : Type u} (number : Entry → ℕ) (log kept : List Entry)
    (watermark : ℕ) : Prop where
  numbered : Numbered number log
  kept_sublist : kept.Sublist log
  missing_le : ∀ entry ∈ log, entry ∉ kept → number entry ≤ watermark
  watermark_missing : watermark = 0 ∨ ∃ entry ∈ log, entry ∉ kept ∧ number entry = watermark

namespace Numbered

variable {Entry : Type u} {number : Entry → ℕ} {log : List Entry}

theorem nil : Numbered number ([] : List Entry) := rfl

variable {entry : Entry}

theorem append_singleton (numbered : Numbered number log)
    (next : number entry = log.length + 1) : Numbered number (log ++ [entry]) := by
  unfold Numbered at numbered ⊢
  simp only [map_append, map_cons, map_nil, length_append,
    length_cons, length_nil]
  rw [numbered, next, range'_concat]
  simp [Nat.add_comm]

theorem number_getElem (numbered : Numbered number log) (index : ℕ)
    (inside : index < log.length) : number log[index] = index + 1 := by
  have entries : (log.map number)[index]? = (List.range' 1 log.length)[index]? := by
    rw [numbered]
  simpa [inside, Nat.add_comm] using entries

theorem pairwise (numbered : Numbered number log) :
    log.Pairwise fun entry other => number entry < number other := by
  have ordered : (log.map number).Pairwise (· < ·) := by
    rw [numbered]
    exact pairwise_lt_range'
  exact pairwise_map.mp ordered

theorem nodup (numbered : Numbered number log) : log.Nodup :=
  List.Nodup.of_map number (by rw [numbered]; exact List.nodup_range')

theorem map_drop (numbered : Numbered number log) (cursor : ℕ) :
    (log.drop cursor).map number = List.range' (cursor + 1) (log.length - cursor) := by
  rw [List.map_drop, numbered, List.drop_range']
  simp [Nat.add_comm]

theorem take (numbered : Numbered number log) (count : ℕ) : Numbered number (log.take count) := by
  unfold Numbered at numbered ⊢
  rw [map_take, numbered, length_take]
  rcases Nat.le_total count log.length with inside | outside
  · rw [take_range'_of_length_ge inside, min_eq_left inside]
  · rw [take_range'_of_length_le outside, min_eq_right outside]

theorem number_le (numbered : Numbered number log) (present : entry ∈ log) :
    number entry ≤ log.length := by
  rcases mem_iff_getElem.mp present with ⟨index, inside, rfl⟩
  rw [numbered.number_getElem index inside]
  exact inside

theorem number_pos (numbered : Numbered number log) (present : entry ∈ log) :
    0 < number entry := by
  rcases mem_iff_getElem.mp present with ⟨index, inside, rfl⟩
  rw [numbered.number_getElem index inside]
  exact index.succ_pos

theorem exists_number (numbered : Numbered number log) {value : ℕ} (positive : 0 < value)
    (bounded : value ≤ log.length) : ∃ entry ∈ log, number entry = value := by
  have inside : value - 1 < log.length := by omega
  refine ⟨log[value - 1], getElem_mem inside, ?_⟩
  rw [numbered.number_getElem (value - 1) inside]
  omega

theorem eq_of_number (numbered : Numbered number log) {first second : Entry}
    (firstPresent : first ∈ log) (secondPresent : second ∈ log)
    (same : number first = number second) : first = second := by
  apply inj_on_of_nodup_map _ firstPresent secondPresent same
  rw [numbered]
  exact nodup_range'

/-- The entries numbered after a cursor are the suffix at the cursor. -/
theorem filter_after (numbered : Numbered number log) (cursor : ℕ) :
    log.filter (fun entry => cursor < number entry) = log.drop cursor := by
  have front : (log.take cursor).filter (fun entry => cursor < number entry) = [] := by
    rw [filter_eq_nil_iff]
    intro entry present
    rcases mem_take_iff_getElem.mp present with ⟨index, inside, rfl⟩
    rw [numbered.number_getElem index (by omega), decide_eq_true_eq]
    omega
  have back : (log.drop cursor).filter (fun entry => cursor < number entry) =
      log.drop cursor := by
    rw [filter_eq_self]
    intro entry present
    rcases mem_drop_iff_getElem.mp present with ⟨index, inside, rfl⟩
    rw [numbered.number_getElem (cursor + index) (by omega), decide_eq_true_eq]
    omega
  calc log.filter (fun entry => cursor < number entry)
      = (log.take cursor ++ log.drop cursor).filter (fun entry => cursor < number entry) := by
        rw [take_append_drop]
    _ = log.drop cursor := by rw [filter_append, front, back, nil_append]

end Numbered

namespace Retains

variable {Entry : Type u} {number : Entry → ℕ} {log kept : List Entry} {watermark : ℕ}

theorem nil : Retains number ([] : List Entry) [] 0 :=
  ⟨Numbered.nil, Sublist.refl _, by simp, Or.inl rfl⟩

theorem push {entry : Entry} (retains : Retains number log kept watermark)
    (next : number entry = log.length + 1) :
    Retains number (log ++ [entry]) (kept ++ [entry]) watermark := by
  have missing : ∀ other ∈ log ++ [entry], other ∉ kept ++ [entry] →
      other ∈ log ∧ other ∉ kept := by
    intro other present absent
    simp only [mem_append, mem_singleton, not_or] at present absent
    exact ⟨present.resolve_right absent.2, absent.1⟩
  refine ⟨retains.numbered.append_singleton next,
    retains.kept_sublist.append (Sublist.refl _), ?_, ?_⟩
  · intro other present absent
    rcases missing other present absent with ⟨present, absent⟩
    exact retains.missing_le other present absent
  · rcases retains.watermark_missing with zero | ⟨other, present, absent, atMark⟩
    · exact Or.inl zero
    · refine Or.inr ⟨other, by simp [present], ?_, atMark⟩
      simp only [mem_append, mem_singleton, not_or]
      refine ⟨absent, ?_⟩
      rintro rfl
      -- An entry of the old log is numbered at most its length.
      have bounded := retains.numbered.number_le present
      omega

/-- Evicting any retained entry raises the watermark to its number. -/
theorem evict {index : ℕ} {entry : Entry} (retains : Retains number log kept watermark)
    (found : kept[index]? = some entry) :
    Retains number log (kept.eraseIdx index) (max watermark (number entry)) := by
  have kept_nodup : kept.Nodup := retains.numbered.nodup.sublist retains.kept_sublist
  have entry_kept : entry ∈ kept := mem_of_getElem? found
  have evicted : entry ∉ kept.eraseIdx index := by
    rw [mem_eraseIdx_iff_getElem?]
    rintro ⟨other, different, found'⟩
    have inside : index < kept.length := (List.getElem?_eq_some_iff.mp found).1
    exact different ((getElem?_inj inside kept_nodup).mp (found.trans found'.symm)).symm
  refine ⟨retains.numbered, (eraseIdx_sublist _ _).trans retains.kept_sublist, ?_, ?_⟩
  · intro other present absent
    by_cases wasKept : other ∈ kept
    · have same : other = entry := by
        by_contra different
        apply absent
        rw [mem_eraseIdx_iff_getElem?]
        rcases mem_iff_getElem?.mp wasKept with ⟨position, foundOther⟩
        refine ⟨position, ?_, foundOther⟩
        rintro rfl
        exact different (Option.mem_unique foundOther found)
      subst same
      exact le_max_right _ _
    · exact (retains.missing_le other present wasKept).trans (le_max_left _ _)
  · have entry_logged : entry ∈ log := retains.kept_sublist.subset entry_kept
    rcases le_total watermark (number entry) with raised | kept_mark
    · exact Or.inr ⟨entry, entry_logged, evicted, (max_eq_right raised).symm⟩
    · rw [max_eq_left kept_mark]
      rcases retains.watermark_missing with zero | ⟨other, present, absent, atMark⟩
      · exact Or.inl zero
      · exact Or.inr ⟨other, present,
          fun still => absent (eraseIdx_subset still), atMark⟩

/-- A cursor is below the watermark exactly when an entry after it is missing. -/
theorem lt_watermark_iff (retains : Retains number log kept watermark) (cursor : ℕ) :
    cursor < watermark ↔ ∃ entry ∈ log, cursor < number entry ∧ entry ∉ kept := by
  constructor
  · intro below
    rcases retains.watermark_missing with zero | ⟨entry, present, absent, atMark⟩
    · omega
    · exact ⟨entry, present, by omega, absent⟩
  · rintro ⟨entry, present, after, absent⟩
    exact after.trans_le (retains.missing_le entry present absent)

theorem watermark_le (retains : Retains number log kept watermark) : watermark ≤ log.length := by
  rcases retains.watermark_missing with zero | ⟨entry, present, -, atMark⟩
  · omega
  · rw [← atMark]
    exact retains.numbered.number_le present

/-- At or above the watermark, the retained suffix is the suffix of the log. -/
theorem filter_after (retains : Retains number log kept watermark) {cursor : ℕ}
    (above : watermark ≤ cursor) :
    kept.filter (fun entry => cursor < number entry) = log.drop cursor := by
  rw [← retains.numbered.filter_after cursor]
  have sublist : (kept.filter (fun entry => cursor < number entry)).Sublist
      (log.filter (fun entry => cursor < number entry)) := retains.kept_sublist.filter _
  apply sublist.eq_of_length_le
  apply Subperm.length_le
  apply (retains.numbered.nodup.filter _).subperm
  intro entry present
  rw [mem_filter] at present ⊢
  refine ⟨?_, present.2⟩
  by_contra absent
  have missing := retains.missing_le entry present.1 absent
  have after : cursor < number entry := by simpa using present.2
  omega

end Retains

end Synapse
