import Mathlib

/-!
# Patterns of a `LIKE`

Letters that stand for themselves up to a fold of the alphabet, a wildcard for one letter and one for any
text. A pattern of letters between two of the latter matches the texts that contain it.
-/

namespace Synapse.Like

open List

universe u v

inductive Token (α : Type u) where
  | letter (letter : α)
  /-- `_` -/
  | one
  /-- `%` -/
  | all
  deriving DecidableEq

variable {α : Type u} {β : Type v}

namespace Token

def isAll : Token α → Bool
  | .all => true
  | _ => false

/-- What a token matches, where a wildcard for one letter is filled with a given one. -/
def fill (other : α) : Token α → List α
  | .letter own => [own]
  | .one => [other]
  | .all => []

/-- The token stands for the letter. -/
def Covers (fold : α → β) : Token α → α → Prop
  | .letter own, x => fold own = fold x
  | .one, _ => True
  | .all, _ => False

end Token

/-- The tokens that stand for one letter each. -/
def single (pattern : List (Token α)) : List (Token α) := pattern.filter fun token => !token.isAll

variable [DecidableEq β] (fold : α → β)

def run : List (Token α) → List α → Bool
  | [], text => text.isEmpty
  | .letter letter :: rest, text =>
    match text with
    | [] => false
    | x :: xs => decide (fold letter = fold x) && run rest xs
  | .one :: rest, text =>
    match text with
    | [] => false
    | _ :: xs => run rest xs
  | .all :: rest, text => text.tails.any fun tail => run rest tail

variable {fold} {pattern : List (Token α)} {text : List α}

theorem run_all : run fold (.all :: pattern) text = true ↔ ∃ tail, tail <:+ text ∧ run fold pattern tail = true := by
  simp only [run, any_eq_true, mem_tails]

/-! ### Patterns without wildcards -/

theorem run_starts (word text : List α) : run fold (word.map .letter ++ [.all]) text = true ↔
    word.map fold <+: text.map fold := by
  induction word generalizing text with
  | nil =>
    have ends : run fold ([] : List (Token α)) [] = true := rfl
    simp only [map_nil, nil_append, nil_prefix, iff_true]
    exact run_all.2 ⟨[], nil_suffix, ends⟩
  | cons letter word ih =>
    cases text with
    | nil => simp [run]
    | cons x xs =>
      rw [map_cons, cons_append, run, Bool.and_eq_true, decide_eq_true_iff, ih, map_cons,
        map_cons, cons_prefix_cons]

/-- A word between two wildcards matches the texts that contain it. -/
theorem run_inside (word text : List α) : run fold (.all :: (word.map .letter ++ [.all])) text = true ↔
    word.map fold <:+: text.map fold := by
  rw [run_all, infix_iff_prefix_suffix]
  constructor
  · rintro ⟨tail, part, found⟩
    exact ⟨tail.map fold, (run_starts word tail).1 found, part.map fold⟩
  · rintro ⟨tail, starts, part⟩
    rcases part with ⟨front, joined⟩
    rcases map_eq_append_iff.1 joined.symm with ⟨before, after, rfl, rfl, rfl⟩
    exact ⟨after, suffix_append before after, (run_starts word after).2 starts⟩

/-! ### Patterns with wildcards -/

theorem run_fill (other : α) (pattern : List (Token α)) :
    run fold pattern (pattern.flatMap (Token.fill other)) = true := by
  induction pattern with
  | nil => rfl
  | cons token pattern ih =>
    cases token with
    | letter letter =>
      rw [flatMap_cons, Token.fill, singleton_append, run, decide_eq_true rfl, ih, Bool.and_self]
    | one =>
      rw [flatMap_cons, Token.fill, singleton_append, run, ih]
    | all =>
      rw [flatMap_cons, Token.fill, nil_append]
      exact run_all.2 ⟨_, suffix_rfl, ih⟩

/-- The tokens for one letter stand for letters of the text, in order. -/
theorem covers_of_run (found : run fold pattern text = true) :
    ∃ covered, covered.Sublist text ∧ List.Forall₂ (Token.Covers fold) (single pattern) covered := by
  induction pattern generalizing text with
  | nil => exact ⟨[], nil_sublist text, List.Forall₂.nil⟩
  | cons token pattern ih =>
    cases token with
    | letter letter =>
      cases text with
      | nil => cases found
      | cons x xs =>
        rw [run, Bool.and_eq_true, decide_eq_true_iff] at found
        rcases ih found.2 with ⟨covered, part, covers⟩
        exact ⟨x :: covered, part.cons_cons x, List.Forall₂.cons found.1 covers⟩
    | one =>
      cases text with
      | nil => cases found
      | cons x xs =>
        rcases ih found with ⟨covered, part, covers⟩
        exact ⟨x :: covered, part.cons_cons x, List.Forall₂.cons trivial covers⟩
    | all =>
      rcases run_all.1 found with ⟨tail, suffix, rest⟩
      rcases ih rest with ⟨covered, part, covers⟩
      exact ⟨covered, part.trans suffix.sublist, covers⟩

theorem length_le_of_run (found : run fold pattern text = true) : (single pattern).length ≤ text.length := by
  rcases covers_of_run found with ⟨covered, part, covers⟩
  exact covers.length_eq.trans_le part.length_le

/-- A text of the least length is covered letter by letter. -/
theorem covers_of_run_of_length (found : run fold pattern text = true)
    (least : (single pattern).length = text.length) :
    List.Forall₂ (Token.Covers fold) (single pattern) text := by
  rcases covers_of_run found with ⟨covered, part, covers⟩
  obtain rfl := part.eq_of_length (covers.length_eq.symm.trans least)
  exact covers

end Synapse.Like
