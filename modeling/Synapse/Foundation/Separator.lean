import Mathlib.Data.List.Infix
import Mathlib.Data.List.Basic

/-!
# The first and the last separator

What follows the first occurrence of a separator in a list. A list that was written as two parts
with a separator between them is read back from the first occurrence, which may lie in the first
part, or begin in it. A single letter that the second part does not have is the last of its kind.
-/

namespace Synapse

open List

universe u

variable {α : Type u}

/-- The first separator of `first ++ separator ++ second` is the one between the parts. -/
def Separates (separator first : List α) : Prop :=
  ¬separator <:+: first ++ separator.dropLast

/-- Two parts are known from what is before and after the last separator. -/
theorem append_last_inj {letter : α} {front other back rest : List α} (last : letter ∉ back)
    (final : letter ∉ rest) :
    front ++ letter :: back = other ++ letter :: rest ↔ front = other ∧ back = rest := by
  constructor
  · intro same
    rcases append_eq_append_iff.1 same with ⟨gap, longer, here⟩ | ⟨gap, longer, here⟩
    · cases gap with
      | nil =>
        rw [nil_append, cons.injEq] at here
        exact ⟨by rw [longer, append_nil], here.2⟩
      | cons first gap =>
        rw [cons_append, cons.injEq] at here
        exact absurd (here.2 ▸ mem_append_right gap mem_cons_self) last
    · cases gap with
      | nil =>
        rw [nil_append, cons.injEq] at here
        exact ⟨by rw [longer, append_nil], here.2.symm⟩
      | cons first gap =>
        rw [cons_append, cons.injEq] at here
        exact absurd (here.2 ▸ mem_append_right gap mem_cons_self) final
  · rintro ⟨rfl, rfl⟩
    rfl

variable [DecidableEq α]

instance (separator first : List α) : Decidable (Separates separator first) :=
  inferInstanceAs (Decidable (¬_))

/-- What follows the first separator. -/
def afterFirst (separator : List α) : List α → Option (List α)
  | [] => none
  | letter :: rest =>
    if separator <+: letter :: rest then some ((letter :: rest).drop separator.length)
    else afterFirst separator rest

variable {separator first second text after : List α}

theorem eq_append_of_afterFirst (found : afterFirst separator text = some after) :
    ∃ before, text = before ++ separator ++ after := by
  induction text with
  | nil => cases found
  | cons letter rest ih =>
    rw [afterFirst] at found
    split at found
    case isTrue here =>
      rcases here with ⟨remainder, text⟩
      rw [← text, drop_left] at found
      cases found
      exact ⟨[], text.symm⟩
    case isFalse later =>
      rcases ih found with ⟨before, text⟩
      exact ⟨letter :: before, by rw [text]; rfl⟩

theorem afterFirst_eq_none_iff (nonempty : separator ≠ []) :
    afterFirst separator text = none ↔ ¬separator <:+: text := by
  induction text with
  | nil => simp [afterFirst, nonempty]
  | cons letter rest ih =>
    rw [afterFirst, infix_cons_iff]
    split
    case isTrue here => simp [here]
    case isFalse later => simp [later, ih]

theorem afterFirst_append_of_some (found : afterFirst separator first = some after) :
    afterFirst separator (first ++ second) = some (after ++ second) := by
  induction first with
  | nil => cases found
  | cons letter rest ih =>
    rw [afterFirst] at found
    rw [cons_append, afterFirst]
    split at found
    case isTrue here =>
      have longer : separator <+: letter :: (rest ++ second) :=
        here.trans (prefix_append (letter :: rest) second)
      cases found
      rw [if_pos longer, ← cons_append, drop_append_of_le_length here.length_le]
    case isFalse later =>
      by_cases here : separator <+: letter :: (rest ++ second)
      · -- A separator that begins before one found in the first part lies in it.
        exfalso
        rcases eq_append_of_afterFirst found with ⟨before, parts⟩
        have fits : separator.length ≤ (letter :: rest).length := by
          rw [parts]
          simp only [length_cons, length_append]
          omega
        exact later (prefix_of_prefix_length_le here
          (prefix_append (letter :: rest) second) fits)
      · rw [if_neg here]
        exact ih found

/-- A separator that begins in the first part leaves more than the second part. -/
theorem exists_of_not_separates (nonempty : separator ≠ []) (early : ¬Separates separator first)
    (second : List α) :
    ∃ after letter, afterFirst separator (first ++ separator ++ second) =
      some (after ++ letter :: second) := by
  rcases Option.ne_none_iff_exists'.1
    (mt (afterFirst_eq_none_iff nonempty).1 (not_not.2 (not_not.1 early))) with ⟨after, found⟩
  refine ⟨after, separator.getLast nonempty, ?_⟩
  have parts := dropLast_concat_getLast nonempty
  have whole : first ++ separator ++ second =
      first ++ separator.dropLast ++ separator.getLast nonempty :: second := by
    calc first ++ separator ++ second
        = first ++ (separator.dropLast ++ [separator.getLast nonempty]) ++ second := by rw [parts]
      _ = first ++ separator.dropLast ++ separator.getLast nonempty :: second := by simp
  rw [whole]
  exact afterFirst_append_of_some found

/-- The parts are read back exactly when the separator between them is the first. -/
theorem afterFirst_append_iff (nonempty : separator ≠ []) :
    afterFirst separator (first ++ separator ++ second) = some second ↔
      Separates separator first := by
  constructor
  · intro found
    by_contra early
    rcases exists_of_not_separates nonempty early second with ⟨after, letter, longer⟩
    rw [longer, Option.some.injEq] at found
    have lengths := congrArg List.length found
    simp only [length_append, length_cons] at lengths
    omega
  · intro separates
    induction first with
    | nil =>
      rcases exists_cons_of_ne_nil nonempty with ⟨letter, rest, rfl⟩
      rw [nil_append, cons_append, afterFirst, ← cons_append,
        if_pos (prefix_append _ _), drop_left]
    | cons letter rest ih =>
      rw [Separates, cons_append, infix_cons_iff, not_or] at separates
      have late : ¬separator <+: letter :: (rest ++ separator ++ second) := by
        intro here
        refine separates.1 (prefix_of_prefix_length_le here ?_ ?_)
        · rw [append_assoc, ← cons_append, ← cons_append]
          exact (prefix_append_right_inj _).2
            (( dropLast_prefix _).trans (prefix_append _ _))
        · simp only [length_cons, length_append, length_dropLast]
          omega
      rw [cons_append, cons_append, afterFirst, if_neg late]
      exact ih separates.2

theorem exists_afterFirst (nonempty : separator ≠ []) (first second : List α) :
    ∃ after, afterFirst separator (first ++ separator ++ second) = some after ∧
      second <:+ after := by
  by_cases separates : Separates separator first
  · exact ⟨second, (afterFirst_append_iff nonempty).2 separates, suffix_rfl⟩
  · rcases exists_of_not_separates nonempty separates second with ⟨after, letter, found⟩
    exact ⟨_, found, (suffix_cons letter second).trans (suffix_append _ _)⟩

end Synapse
