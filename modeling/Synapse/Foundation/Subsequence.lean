import Mathlib

/-!
# Common subsequences

The length of a longest common subsequence of two lists, and the alignment that reaches it from the
left. The alignment keeps or drops whole blocks of the lists when blocks that share an entry are equal.
-/

namespace Synapse.Subsequence

open List

universe u

variable {α : Type u}

/-! ### Steps -/

inductive Step (α : Type u) where
  | same (entry : α)
  | removed (entry : α)
  | added (entry : α)
  deriving DecidableEq

/-- The entries of the first list with whether they are kept. -/
def olds (steps : List (Step α)) : List (Bool × α) :=
  steps.filterMap fun
    | .same entry => some (true, entry)
    | .removed entry => some (false, entry)
    | .added _ => none

/-- The entries of the second list with whether they are kept. -/
def news (steps : List (Step α)) : List (Bool × α) :=
  steps.filterMap fun
    | .same entry => some (true, entry)
    | .removed _ => none
    | .added entry => some (false, entry)

/-- The entries that are kept. -/
def kept (marks : List (Bool × α)) : List α := (marks.filter (·.1)).map (·.2)

theorem olds_map_added (ys : List α) : olds (ys.map .added) = [] := by
  induction ys with
  | nil => rfl
  | cons y ys ih => exact ih

theorem olds_map_removed (xs : List α) : olds (xs.map .removed) = xs.map (false, ·) := by
  induction xs with
  | nil => rfl
  | cons x xs ih => exact congrArg ((false, x) :: ·) ih

theorem news_map_added (ys : List α) : news (ys.map .added) = ys.map (false, ·) := by
  induction ys with
  | nil => rfl
  | cons y ys ih => exact congrArg ((false, y) :: ·) ih

theorem news_map_removed (xs : List α) : news (xs.map .removed) = [] := by
  induction xs with
  | nil => rfl
  | cons x xs ih => exact ih

theorem olds_map_same (xs : List α) : olds (xs.map .same) = xs.map (true, ·) := by
  induction xs with
  | nil => rfl
  | cons x xs ih => exact congrArg ((true, x) :: ·) ih

theorem news_map_same (xs : List α) : news (xs.map .same) = xs.map (true, ·) := by
  induction xs with
  | nil => rfl
  | cons x xs ih => exact congrArg ((true, x) :: ·) ih

theorem olds_append (first second : List (Step α)) :
    olds (first ++ second) = olds first ++ olds second := filterMap_append

theorem news_append (first second : List (Step α)) :
    news (first ++ second) = news first ++ news second := filterMap_append

theorem kept_map_false (xs : List α) : kept (xs.map (false, ·)) = [] := by
  induction xs with
  | nil => rfl
  | cons x xs ih => exact ih

theorem map_mark (flag : Bool) (xs : List α) : (xs.map (flag, ·)).map (·.2) = xs := by
  rw [map_map]
  exact map_id xs

theorem kept_append (first second : List (Bool × α)) :
    kept (first ++ second) = kept first ++ kept second := by
  rw [kept, filter_append, map_append]
  rfl

theorem kept_map_true (xs : List α) : kept (xs.map (true, ·)) = xs := by
  induction xs with
  | nil => rfl
  | cons x xs ih => exact congrArg (x :: ·) ih

/-! ### Longest common subsequences -/

variable [DecidableEq α]

/-- The length of a longest common subsequence. -/
def longest : List α → List α → ℕ
  | [], _ => 0
  | _ :: _, [] => 0
  | x :: xs, y :: ys =>
    if x = y then longest xs ys + 1 else max (longest xs (y :: ys)) (longest (x :: xs) ys)
termination_by xs ys => xs.length + ys.length

def IsLongest (length : ℕ) (xs ys : List α) : Prop :=
  (∃ common : List α, common.Sublist xs ∧ common.Sublist ys ∧ common.length = length) ∧
    ∀ common : List α, common.Sublist xs → common.Sublist ys → common.length ≤ length

variable {x y : α} {xs ys zs : List α}

theorem longest_nil (xs : List α) : longest xs [] = 0 := by
  cases xs with
  | nil => rw [longest]
  | cons x xs => rw [longest]

theorem longest_cons (x : α) (xs ys : List α) :
    longest (x :: xs) (x :: ys) = longest xs ys + 1 := by
  rw [longest, if_pos rfl]

theorem longest_of_ne (different : x ≠ y) : longest (x :: xs) (y :: ys) =
    max (longest xs (y :: ys)) (longest (x :: xs) ys) := by
  rw [longest, if_neg different]

theorem exists_common (xs ys : List α) : ∃ common : List α, common.Sublist xs ∧
    common.Sublist ys ∧ common.length = longest xs ys := by
  fun_induction longest xs ys with
  | case1 ys => exact ⟨[], nil_sublist _, nil_sublist _, rfl⟩
  | case2 x xs => exact ⟨[], nil_sublist _, nil_sublist _, rfl⟩
  | case3 xs x ys ih =>
    rcases ih with ⟨common, left, right, size⟩
    exact ⟨x :: common, left.cons_cons x, right.cons_cons x, congrArg (· + 1) size⟩
  | case4 x xs y ys different first second =>
    rcases le_total (longest xs (y :: ys)) (longest (x :: xs) ys) with less | less
    · rcases second with ⟨common, left, right, size⟩
      exact ⟨common, left, right.cons y, size.trans (max_eq_right less).symm⟩
    · rcases first with ⟨common, left, right, size⟩
      exact ⟨common, left.cons x, right, size.trans (max_eq_left less).symm⟩

theorem length_le_longest {common : List α} (left : common.Sublist xs) (right : common.Sublist ys) :
    common.length ≤ longest xs ys := by
  fun_induction longest xs ys generalizing common with
  | case1 ys => rw [sublist_nil.1 left]; exact Nat.le_refl 0
  | case2 x xs => rw [sublist_nil.1 right]; exact Nat.le_refl 0
  | case3 xs x ys ih =>
    cases common with
    | nil => exact Nat.zero_le _
    | cons z zs => exact Nat.succ_le_succ (ih left.of_cons_cons right.of_cons_cons)
  | case4 x xs y ys different first second =>
    cases left with
    | cons _ left => exact (first left right).trans (le_max_left _ _)
    | cons_cons _ left =>
      cases right with
      | cons _ right => exact (second (left.cons_cons x) right).trans (le_max_right _ _)
      | cons_cons _ right => exact absurd rfl different

theorem isLongest_longest (xs ys : List α) : IsLongest (longest xs ys) xs ys :=
  ⟨exists_common xs ys, fun _ left right => length_le_longest left right⟩

theorem IsLongest.eq_longest {length : ℕ} (own : IsLongest length xs ys) :
    length = longest xs ys := by
  rcases own with ⟨⟨common, left, right, size⟩, most⟩
  rcases exists_common xs ys with ⟨other, first, second, total⟩
  exact le_antisymm (size ▸ length_le_longest left right) (total ▸ most other first second)

theorem longest_mono {xs' ys' : List α} (left : xs.Sublist xs') (right : ys.Sublist ys') :
    longest xs ys ≤ longest xs' ys' := by
  rcases exists_common xs ys with ⟨common, first, second, size⟩
  exact size ▸ length_le_longest (first.trans left) (second.trans right)

theorem longest_reverse (xs ys : List α) : longest xs.reverse ys.reverse = longest xs ys := by
  refine IsLongest.eq_longest ⟨?_, ?_⟩
  · rcases exists_common xs.reverse ys.reverse with ⟨common, left, right, size⟩
    refine ⟨common.reverse, ?_, ?_, common.length_reverse.trans size⟩
    · exact reverse_reverse xs ▸ left.reverse
    · exact reverse_reverse ys ▸ right.reverse
  · intro common left right
    rw [← common.length_reverse]
    exact length_le_longest left.reverse right.reverse

/-- A common start is common to every longest subsequence. -/
theorem longest_append_left (start xs ys : List α) :
    longest (start ++ xs) (start ++ ys) = start.length + longest xs ys := by
  induction start with
  | nil => exact (Nat.zero_add _).symm
  | cons x start ih =>
    rw [cons_append, cons_append, longest_cons, ih, length_cons]
    omega

theorem longest_append_right (rest xs ys : List α) :
    longest (xs ++ rest) (ys ++ rest) = longest xs ys + rest.length := by
  rw [← longest_reverse, reverse_append, reverse_append, longest_append_left,
    longest_reverse, length_reverse, Nat.add_comm]

/-! ### The alignment -/

/-- Equal heads are kept; otherwise the head goes that leaves the longer common subsequence. -/
def align : List α → List α → List (Step α)
  | [], ys => ys.map .added
  | x :: xs, [] => (x :: xs).map .removed
  | x :: xs, y :: ys =>
    if x = y then .same x :: align xs ys
    else if longest (x :: xs) ys ≤ longest xs (y :: ys) then .removed x :: align xs (y :: ys)
    else .added y :: align (x :: xs) ys
termination_by xs ys => xs.length + ys.length

theorem align_nil (xs : List α) : align xs [] = xs.map .removed := by
  cases xs with
  | nil => rw [align]; rfl
  | cons x xs => rw [align]

theorem align_cons (x : α) (xs ys : List α) : align (x :: xs) (x :: ys) = .same x :: align xs ys := by
  rw [align, if_pos rfl]

/-- The alignment has the entries of the first list in order. -/
theorem map_olds_align (xs ys : List α) : (olds (align xs ys)).map (·.2) = xs := by
  fun_induction align xs ys with
  | case1 ys => rw [olds_map_added]; rfl
  | case2 x xs => rw [olds_map_removed, map_map]; exact map_id _
  | case3 xs x ys ih => exact congrArg (x :: ·) ih
  | case4 x xs y ys different more ih => exact congrArg (x :: ·) ih
  | case5 x xs y ys different more ih => exact ih

theorem map_news_align (xs ys : List α) : (news (align xs ys)).map (·.2) = ys := by
  fun_induction align xs ys with
  | case1 ys => rw [news_map_added, map_map]; exact map_id _
  | case2 x xs => rw [news_map_removed]; rfl
  | case3 xs x ys ih => exact congrArg (x :: ·) ih
  | case4 x xs y ys different more ih => exact ih
  | case5 x xs y ys different more ih => exact congrArg (y :: ·) ih

theorem kept_align (xs ys : List α) : kept (olds (align xs ys)) = kept (news (align xs ys)) := by
  fun_induction align xs ys with
  | case1 ys => rw [olds_map_added, news_map_added, kept_map_false]; rfl
  | case2 x xs => rw [olds_map_removed, news_map_removed, kept_map_false]; rfl
  | case3 xs x ys ih => exact congrArg (x :: ·) ih
  | case4 x xs y ys different more ih => exact ih
  | case5 x xs y ys different more ih => exact ih

/-- As many are kept as a longest common subsequence has. -/
theorem length_kept_align (xs ys : List α) :
    (kept (olds (align xs ys))).length = longest xs ys := by
  fun_induction align xs ys with
  | case1 ys => rw [olds_map_added, longest]; rfl
  | case2 x xs => rw [olds_map_removed, kept_map_false, longest_nil]; rfl
  | case3 xs x ys ih => rw [longest_cons, ← ih]; rfl
  | case4 x xs y ys different more ih => rw [longest_of_ne different, max_eq_left more]; exact ih
  | case5 x xs y ys different more ih =>
    rw [longest_of_ne different, max_eq_right (not_le.1 more).le]
    exact ih

theorem align_append (start xs ys : List α) :
    align (start ++ xs) (start ++ ys) = start.map .same ++ align xs ys := by
  induction start with
  | nil => rfl
  | cons x start ih => rw [cons_append, cons_append, align_cons, ih]; rfl

/-! ### Blocks -/

/-- Marked entries that make up blocks, each kept or dropped as a whole. -/
inductive Whole : List (Bool × α) → List (List α) → Prop
  | nil : Whole [] []
  | cons (flag : Bool) (block : List α) {marks : List (Bool × α)} {blocks : List (List α)}
      (rest : Whole marks blocks) : Whole (block.map (flag, ·) ++ marks) (block :: blocks)

/-- `rest` is what is left of blocks after the entries of `gone`, the start of the first one. -/
structure Pending (gone rest : List α) (blocks : List (List α)) : Prop where
  parts : gone ++ rest = blocks.flatten
  inside : ∀ block ∈ blocks.head?, ∃ left, left ≠ [] ∧ block = gone ++ left

variable {gone lost : List α} {blocks others : List (List α)}

omit [DecidableEq α] in
theorem Pending.start (nonempty : ∀ block ∈ blocks, block ≠ []) :
    Pending [] blocks.flatten blocks :=
  ⟨rfl, fun block first => ⟨block, nonempty block (mem_of_mem_head? first), rfl⟩⟩

omit [DecidableEq α] in
theorem Pending.finish (pending : Pending gone [] blocks) : gone = [] ∧ blocks = [] := by
  cases blocks with
  | nil =>
    have parts := pending.parts
    rw [append_nil] at parts
    exact ⟨parts, rfl⟩
  | cons block blocks =>
    rcases pending.inside block rfl with ⟨left, nonempty, shape⟩
    have parts := pending.parts
    rw [flatten_cons, shape, append_assoc, append_cancel_left_eq] at parts
    exact absurd (append_eq_nil_iff.1 parts.symm).1 nonempty

omit [DecidableEq α] in
/-- The first block of an entry that is left, with what follows the entry in it. -/
theorem Pending.first (pending : Pending gone (x :: xs) blocks) :
    ∃ left later, blocks = (gone ++ x :: left) :: later ∧ xs = left ++ later.flatten := by
  cases blocks with
  | nil => exact absurd pending.parts (append_ne_nil_of_right_ne_nil _ (cons_ne_nil _ _))
  | cons block later =>
    rcases pending.inside block rfl with ⟨left, nonempty, rfl⟩
    have parts := pending.parts
    rw [flatten_cons, append_assoc, append_cancel_left_eq] at parts
    cases left with
    | nil => exact absurd rfl nonempty
    | cons entry left =>
      rw [cons_append, cons.injEq] at parts
      exact ⟨left, later, by rw [parts.1], parts.2⟩

omit [DecidableEq α] in
/-- After an entry is dropped, its block stays pending or has been dropped. -/
theorem Pending.drop (pending : Pending gone (x :: xs) blocks)
    (nonempty : ∀ block ∈ blocks, block ≠ []) :
    ∃ gone' blocks', Pending gone' xs blocks' ∧ blocks' ⊆ blocks ∧
      (gone' ++ xs).Sublist (gone ++ x :: xs) ∧
      ∀ marks, Whole (gone'.map (false, ·) ++ marks) blocks' →
        Whole (gone.map (false, ·) ++ (false, x) :: marks) blocks := by
  rcases pending.first with ⟨left, later, rfl, rfl⟩
  cases left with
  | nil =>
    refine ⟨[], later, Pending.start fun block present =>
      nonempty block (mem_cons_of_mem _ present), subset_cons_self _ _,
      (sublist_cons_self x _).trans (sublist_append_right gone _), ?_⟩
    intro marks whole
    have step := Whole.cons false (gone ++ [x]) whole
    rw [map_append, append_assoc] at step
    exact step
  | cons entry left =>
    refine ⟨gone ++ [x], (gone ++ x :: entry :: left) :: later, ⟨?_, ?_⟩, Subset.refl _, ?_, ?_⟩
    · rw [flatten_cons, append_assoc, append_assoc]
      rfl
    · rintro block ⟨⟩
      exact ⟨entry :: left, cons_ne_nil _ _, by rw [append_assoc]; rfl⟩
    · rw [append_assoc]
      exact Sublist.refl _
    · intro marks whole
      rw [map_append, append_assoc] at whole
      exact whole

omit [DecidableEq α] in
theorem whole_dropped (blocks : List (List α)) : Whole (blocks.flatten.map (false, ·)) blocks := by
  induction blocks with
  | nil => exact .nil
  | cons block blocks ih =>
    rw [flatten_cons, map_append]
    exact .cons false block ih

omit [DecidableEq α] in
theorem Pending.whole (pending : Pending gone xs blocks) :
    Whole (gone.map (false, ·) ++ xs.map (false, ·)) blocks := by
  rw [← map_append, pending.parts]
  exact whole_dropped blocks

/-- A walk that has lost nothing by what is pending keeps or drops whole blocks. -/
theorem align_pending (size : ℕ) : ∀ {xs ys gone lost : List α} {blocks others : List (List α)},
    xs.length + ys.length = size →
    (∀ block ∈ blocks, block ≠ []) → (∀ block ∈ others, block ≠ []) →
    (∀ block ∈ blocks, block.Nodup) →
    (∀ block ∈ blocks, ∀ other ∈ others, ∀ entry ∈ block, entry ∈ other → block = other) →
    Pending gone xs blocks → Pending lost ys others →
    longest (gone ++ xs) (lost ++ ys) = longest xs ys →
      Whole (gone.map (false, ·) ++ olds (align xs ys)) blocks ∧
        Whole (lost.map (false, ·) ++ news (align xs ys)) others := by
  induction size using Nat.strong_induction_on with
  | _ size ih =>
  intro xs ys gone lost blocks others total filled others_filled distinct apart left right free
  cases xs with
  | nil =>
    rcases left.finish with ⟨rfl, rfl⟩
    rw [align, olds_map_added, news_map_added]
    exact ⟨.nil, right.whole⟩
  | cons x xs =>
  cases ys with
  | nil =>
    rcases right.finish with ⟨rfl, rfl⟩
    rw [align_nil, olds_map_removed, news_map_removed]
    exact ⟨left.whole, .nil⟩
  | cons y ys =>
  rw [length_cons, length_cons] at total
  by_cases same : x = y
  · subst same
    rcases left.first with ⟨start, later, rfl, rfl⟩
    rcases right.first with ⟨other, after, rfl, rfl⟩
    have block := apart _ mem_cons_self _ mem_cons_self x
      (mem_append_right _ mem_cons_self) (mem_append_right _ mem_cons_self)
    have once := distinct _ mem_cons_self
    have fresh := nodup_middle.1 (distinct _ mem_cons_self)
    rw [nodup_cons, mem_append, not_or] at fresh
    rw [append_cons_inj_of_notMem fresh.1.1 fresh.1.2] at block
    rcases block with ⟨rfl, -, rfl⟩
    -- What is pending on both sides would have been kept.
    cases gone with
    | cons first gone =>
      rw [longest_append_left, length_cons] at free
      omega
    | nil =>
      have smaller : later.flatten.length + after.flatten.length < size := by
        rw [length_append, length_append] at total
        omega
      rcases ih _ smaller (show later.flatten.length + after.flatten.length = _ from rfl)
        (fun block present => filled block (mem_cons_of_mem _ present))
        (fun block present => others_filled block (mem_cons_of_mem _ present))
        (fun block present => distinct block (mem_cons_of_mem _ present))
        (fun block present other there =>
          apart block (mem_cons_of_mem _ present) other (mem_cons_of_mem _ there))
        (Pending.start fun block present => filled block (mem_cons_of_mem _ present))
        (Pending.start fun block present => others_filled block (mem_cons_of_mem _ present))
        rfl with ⟨first, second⟩
      have walk : align (x :: (start ++ later.flatten)) (x :: (start ++ after.flatten)) =
          (x :: start).map .same ++ align later.flatten after.flatten :=
        align_append (x :: start) later.flatten after.flatten
      rw [walk, olds_append, news_append, olds_map_same, news_map_same]
      exact ⟨.cons true (x :: start) first, .cons true (x :: start) second⟩
  · rcases le_or_gt (longest (x :: xs) ys) (longest xs (y :: ys)) with more | more
    · rcases left.drop filled with ⟨gone', blocks', after, fewer, shorter, whole⟩
      have value : longest (x :: xs) (y :: ys) = longest xs (y :: ys) := by
        rw [longest_of_ne same, max_eq_left more]
      have free' : longest (gone' ++ xs) (lost ++ y :: ys) = longest xs (y :: ys) :=
        le_antisymm ((longest_mono shorter (Sublist.refl _)).trans (free.trans value).le)
          (longest_mono (sublist_append_right _ _) (sublist_append_right _ _))
      rcases ih (xs.length + (y :: ys).length) (by rw [length_cons]; omega) rfl
        (fun block present => filled block (fewer present)) others_filled
        (fun block present => distinct block (fewer present))
        (fun block present => apart block (fewer present)) after right free' with ⟨first, second⟩
      rw [align, if_neg same, if_pos more]
      exact ⟨whole _ first, second⟩
    · rcases right.drop others_filled with ⟨lost', others', after, fewer, shorter, whole⟩
      have value : longest (x :: xs) (y :: ys) = longest (x :: xs) ys := by
        rw [longest_of_ne same, max_eq_right more.le]
      have free' : longest (gone ++ x :: xs) (lost' ++ ys) = longest (x :: xs) ys :=
        le_antisymm ((longest_mono (Sublist.refl _) shorter).trans (free.trans value).le)
          (longest_mono (sublist_append_right _ _) (sublist_append_right _ _))
      rcases ih ((x :: xs).length + ys.length) (by rw [length_cons]; omega) rfl filled
        (fun block present => others_filled block (fewer present)) distinct
        (fun block present other there => apart block present other (fewer there)) left after
        free' with ⟨first, second⟩
      rw [align, if_neg same, if_neg (not_le.2 more)]
      exact ⟨first, whole _ second⟩

/-- The alignment keeps or drops whole blocks, when blocks that share an entry are equal. -/
theorem align_whole (filled : ∀ block ∈ blocks, block ≠ []) (others_filled : ∀ block ∈ others, block ≠ [])
    (distinct : ∀ block ∈ blocks, block.Nodup)
    (apart : ∀ block ∈ blocks, ∀ other ∈ others, ∀ entry ∈ block, entry ∈ other → block = other) :
    Whole (olds (align blocks.flatten others.flatten)) blocks ∧
      Whole (news (align blocks.flatten others.flatten)) others :=
  align_pending _ rfl filled others_filled distinct apart (Pending.start filled)
    (Pending.start others_filled) rfl

end Synapse.Subsequence
