import Mathlib

/-!
# Path patterns as regular expressions

Patterns of literals and wildcards over the letters of a path, matched as the regular expressions they are
compiled to: some wildcards pass over separators but not over newlines, others over newlines but not over
separators. A pattern that matches a path matches what is below it, and a pattern of literals matches the
paths that have its components.
-/

namespace Synapse.Glob

open List

universe u

variable {α : Type u} [DecidableEq α]

inductive Piece (α : Type u) where
  | literal (letter : α)
  /-- `[^/]` -/
  | one
  /-- `[^/]*` -/
  | star
  /-- `(?:.*/)?` -/
  | dirs
  /-- `.*` -/
  | all
  deriving DecidableEq

variable (slash newline : α)

/-- `[^/]*` and what follows it. -/
def starRun (rest : List α → Bool) : List α → Bool
  | [] => rest []
  | x :: xs => rest (x :: xs) || (decide (x ≠ slash) && starRun rest xs)

/-- `.*` and what follows it. -/
def allRun (rest : List α → Bool) : List α → Bool
  | [] => rest []
  | x :: xs => rest (x :: xs) || (decide (x ≠ newline) && allRun rest xs)

/-- `.*/` and what follows it. -/
def slashRun (rest : List α → Bool) : List α → Bool
  | [] => false
  | x :: xs => (decide (x = slash) && rest xs) || (decide (x ≠ newline) && slashRun rest xs)

def Piece.run (rest : List α → Bool) : Piece α → List α → Bool
  | .literal letter, x :: xs => decide (x = letter) && rest xs
  | .literal _, [] => false
  | .one, x :: xs => decide (x ≠ slash) && rest xs
  | .one, [] => false
  | .star, text => starRun slash rest text
  | .dirs, text => rest text || slashRun slash newline rest text
  | .all, text => allRun newline rest text

def run (rest : List α → Bool) (pieces : List (Piece α)) : List α → Bool :=
  pieces.foldr (fun piece rest => piece.run slash newline rest) rest

/-- `$`, which also matches before a newline at the end. -/
def endRun (text : List α) : Bool := text = [] || text = [newline]

/-- `(?:/.*)?$` -/
def treeRun : List α → Bool
  | x :: xs => endRun newline (x :: xs) || (decide (x = slash) && allRun newline (endRun newline) xs)
  | [] => true

variable {slash newline} {rest : List α → Bool} {text more : List α}

/-! ### Longer texts -/

theorem starRun_append (grows : ∀ text, newline ∉ text → rest text = true → rest (text ++ more) = true)
    (single : newline ∉ text) (found : starRun slash rest text = true) :
    starRun slash rest (text ++ more) = true := by
  have own : ∀ text, rest text = true → starRun slash rest text = true := by
    intro text found
    cases text with
    | nil => exact found
    | cons x xs => rw [starRun, found, Bool.true_or]
  induction text with
  | nil => exact own _ (grows [] single found)
  | cons x xs ih =>
    rw [starRun, Bool.or_eq_true, Bool.and_eq_true] at found
    rcases found with here | ⟨plain, later⟩
    · exact own _ (grows _ single here)
    · rw [cons_append, starRun, plain, ih (not_mem_of_not_mem_cons single) later,
        Bool.and_self, Bool.or_true]

theorem allRun_append (grows : ∀ text, newline ∉ text → rest text = true → rest (text ++ more) = true)
    (single : newline ∉ text) (found : allRun newline rest text = true) :
    allRun newline rest (text ++ more) = true := by
  have own : ∀ text, rest text = true → allRun newline rest text = true := by
    intro text found
    cases text with
    | nil => exact found
    | cons x xs => rw [allRun, found, Bool.true_or]
  induction text with
  | nil => exact own _ (grows [] single found)
  | cons x xs ih =>
    rw [allRun, Bool.or_eq_true, Bool.and_eq_true] at found
    rcases found with here | ⟨plain, later⟩
    · exact own _ (grows _ single here)
    · rw [cons_append, allRun, plain, ih (not_mem_of_not_mem_cons single) later,
        Bool.and_self, Bool.or_true]

theorem slashRun_append (grows : ∀ text, newline ∉ text → rest text = true → rest (text ++ more) = true)
    (single : newline ∉ text) (found : slashRun slash newline rest text = true) :
    slashRun slash newline rest (text ++ more) = true := by
  induction text with
  | nil => cases found
  | cons x xs ih =>
    have later := not_mem_of_not_mem_cons single
    rw [slashRun, Bool.or_eq_true, Bool.and_eq_true, Bool.and_eq_true] at found
    rcases found with ⟨here, after⟩ | ⟨plain, after⟩
    · rw [cons_append, slashRun, here, grows xs later after, Bool.and_self, Bool.true_or]
    · rw [cons_append, slashRun, plain, ih later after, Bool.and_self, Bool.or_true]

/-- A piece goes on matching when what follows it does. -/
theorem Piece.run_append (piece : Piece α)
    (grows : ∀ text, newline ∉ text → rest text = true → rest (text ++ more) = true)
    (text : List α) (single : newline ∉ text) (found : piece.run slash newline rest text = true) :
    piece.run slash newline rest (text ++ more) = true := by
  cases piece with
  | literal letter =>
    cases text with
    | nil => cases found
    | cons x xs =>
      rw [Piece.run, Bool.and_eq_true] at found
      rw [cons_append, Piece.run, found.1,
        grows xs (not_mem_of_not_mem_cons single) found.2, Bool.and_self]
  | one =>
    cases text with
    | nil => cases found
    | cons x xs =>
      rw [Piece.run, Bool.and_eq_true] at found
      rw [cons_append, Piece.run, found.1,
        grows xs (not_mem_of_not_mem_cons single) found.2, Bool.and_self]
  | star => exact starRun_append grows single found
  | all => exact allRun_append grows single found
  | dirs =>
    have parts : (rest text || slashRun slash newline rest text) = true := found
    rw [Bool.or_eq_true] at parts
    have goal : (rest (text ++ more) || slashRun slash newline rest (text ++ more)) = true := by
      rw [Bool.or_eq_true]
      rcases parts with here | later
      · exact Or.inl (grows text single here)
      · exact Or.inr (slashRun_append grows single later)
    exact goal

variable {pieces : List (Piece α)}

theorem run_append
    (grows : ∀ text, newline ∉ text → rest text = true → rest (text ++ more) = true) :
    ∀ text, newline ∉ text → run slash newline rest pieces text = true →
      run slash newline rest pieces (text ++ more) = true := by
  induction pieces with
  | nil => exact grows
  | cons piece pieces ih => exact fun text single found => piece.run_append ih text single found

theorem allRun_end (single : newline ∉ text) : allRun newline (endRun newline) text = true := by
  induction text with
  | nil => rfl
  | cons x xs ih =>
    rw [mem_cons, not_or] at single
    have plain : decide (x ≠ newline) = true := decide_eq_true (Ne.symm single.1)
    rw [allRun, plain, ih single.2, Bool.and_self, Bool.or_true]

theorem treeRun_iff (single : newline ∉ text) :
    treeRun slash newline text = true ↔ text = [] ∨ ∃ after, text = slash :: after := by
  cases text with
  | nil => exact iff_of_true rfl (Or.inl rfl)
  | cons x xs =>
    rw [mem_cons, not_or] at single
    have other : endRun newline (x :: xs) = false := by
      rw [endRun, Bool.or_eq_false_iff, decide_eq_false_iff_not, decide_eq_false_iff_not]
      exact ⟨cons_ne_nil x xs, fun same => single.1 (cons.inj same).1.symm⟩
    rw [treeRun, other, Bool.false_or, allRun_end single.2, Bool.and_true, decide_eq_true_iff]
    constructor
    · rintro rfl
      exact Or.inr ⟨xs, rfl⟩
    · rintro (empty | ⟨after, same⟩)
      · cases empty
      · exact (cons.inj same).1

/-- A pattern that matches a path matches every path below it. -/
theorem run_below {below : List α} (single : newline ∉ text ++ slash :: below)
    (found : run slash newline (treeRun slash newline) pieces text = true) :
    run slash newline (treeRun slash newline) pieces (text ++ slash :: below) = true := by
  rw [mem_append, not_or] at single
  refine run_append ?_ text single.1 found
  intro start plain matched
  have whole : newline ∉ start ++ slash :: below := by
    rw [mem_append, not_or]
    exact ⟨plain, single.2⟩
  rw [treeRun_iff whole]
  rcases (treeRun_iff plain).1 matched with rfl | ⟨after, rfl⟩
  · exact Or.inr ⟨below, rfl⟩
  · exact Or.inr ⟨after ++ slash :: below, rfl⟩

/-! ### Literals -/

theorem run_literals (word : List α) : run slash newline rest (word.map .literal) text = true ↔
    ∃ after, text = word ++ after ∧ rest after = true := by
  induction word generalizing text with
  | nil => exact ⟨fun found => ⟨text, rfl, found⟩, fun ⟨after, same, found⟩ => same ▸ found⟩
  | cons letter word ih =>
    have step : run slash newline rest ((letter :: word).map .literal) text =
        Piece.run slash newline (run slash newline rest (word.map .literal)) (.literal letter) text := rfl
    rw [step]
    cases text with
    | nil =>
      refine iff_of_false Bool.false_ne_true ?_
      rintro ⟨after, same, _⟩
      cases same
    | cons x xs =>
      rw [Piece.run, Bool.and_eq_true, decide_eq_true_iff, ih]
      constructor
      · rintro ⟨rfl, after, rfl, found⟩
        exact ⟨after, rfl, found⟩
      · rintro ⟨after, same, found⟩
        rw [cons_append, cons.injEq] at same
        exact ⟨same.1, after, same.2, found⟩

theorem slashRun_iff : slashRun slash newline rest text = true ↔
    ∃ before after, text = before ++ slash :: after ∧ newline ∉ before ∧ rest after = true := by
  induction text with
  | nil =>
    refine iff_of_false Bool.false_ne_true ?_
    rintro ⟨before, after, same, _⟩
    exact absurd same.symm (append_ne_nil_of_right_ne_nil _ (cons_ne_nil _ _))
  | cons x xs ih =>
    rw [slashRun, Bool.or_eq_true, Bool.and_eq_true, Bool.and_eq_true, decide_eq_true_iff,
      decide_eq_true_iff, ih]
    constructor
    · rintro (⟨rfl, found⟩ | ⟨plain, before, after, rfl, single, found⟩)
      · exact ⟨[], xs, rfl, not_mem_nil, found⟩
      · refine ⟨x :: before, after, rfl, ?_, found⟩
        rw [mem_cons, not_or]
        exact ⟨plain.symm, single⟩
    · rintro ⟨before, after, same, single, found⟩
      cases before with
      | nil =>
        rw [nil_append, cons.injEq] at same
        exact Or.inl ⟨same.1, same.2 ▸ found⟩
      | cons y before =>
        rw [cons_append, cons.injEq] at same
        rw [mem_cons, not_or] at single
        rcases same with ⟨rfl, rfl⟩
        exact Or.inr ⟨fun same => single.1 same.symm, before, after, rfl, single.2, found⟩

/-! ### Components -/

def components (slash : α) (path : List α) : List (List α) := path.splitOn slash

omit [DecidableEq α] in
theorem intercalate_cons (slash : α) (first : List α) {others : List (List α)} (filled : others ≠ []) :
    [slash].intercalate (first :: others) = first ++ slash :: [slash].intercalate others := by
  rcases exists_cons_of_ne_nil filled with ⟨next, rest, rfl⟩
  rw [List.intercalate, intersperse_cons_cons, flatten_cons, flatten_cons]
  rfl

omit [DecidableEq α] in
theorem intercalate_append (slash : α) {first second : List (List α)} (one : first ≠ [])
    (other : second ≠ []) : [slash].intercalate (first ++ second) =
      [slash].intercalate first ++ slash :: [slash].intercalate second := by
  induction first with
  | nil => exact absurd rfl one
  | cons word words ih =>
    cases words with
    | nil =>
      have single : [slash].intercalate [word] = word := append_nil word
      rw [singleton_append, intercalate_cons slash word other, single]
    | cons next words =>
      rw [cons_append, intercalate_cons slash word (cons_ne_nil _ _),
        intercalate_cons slash word (append_ne_nil_of_left_ne_nil (cons_ne_nil _ _) _),
        ih (cons_ne_nil _ _), append_assoc]
      rfl

theorem intercalate_components (slash : α) (path : List α) :
    [slash].intercalate (components slash path) = path := intercalate_splitOn slash

theorem components_ne_nil (slash : α) (path : List α) : components slash path ≠ [] :=
  splitOn_ne_nil slash path

theorem components_append (before after : List α) : components slash (before ++ slash :: after) =
    components slash before ++ components slash after := splitOn_append_cons_self before after

/-- A text of the components of a word and others is the word or below it. -/
theorem intercalate_word (word : List α) (after : List (List α)) :
    [slash].intercalate (components slash word ++ after) = word ∨
      ∃ below, [slash].intercalate (components slash word ++ after) = word ++ slash :: below := by
  cases after with
  | nil =>
    rw [append_nil, intercalate_components]
    exact Or.inl rfl
  | cons next after =>
    rw [intercalate_append slash (components_ne_nil slash word) (cons_ne_nil next after),
      intercalate_components]
    exact Or.inr ⟨_, rfl⟩

variable {word : List α}

theorem exists_components (found : text = word ∨ ∃ below, text = word ++ slash :: below) :
    ∃ after, components slash text = components slash word ++ after := by
  rcases found with rfl | ⟨below, rfl⟩
  · exact ⟨[], (append_nil _).symm⟩
  · exact ⟨components slash below, components_append word below⟩

theorem run_word (single : newline ∉ text) :
    run slash newline (treeRun slash newline) (word.map .literal) text = true ↔
      text = word ∨ ∃ below, text = word ++ slash :: below := by
  rw [run_literals]
  constructor
  · rintro ⟨after, rfl, found⟩
    rw [mem_append, not_or] at single
    rcases (treeRun_iff single.2).1 found with rfl | ⟨below, rfl⟩
    · exact Or.inl (append_nil word)
    · exact Or.inr ⟨below, rfl⟩
  · rintro (rfl | ⟨below, rfl⟩)
    · exact ⟨[], (append_nil text).symm, rfl⟩
    · rw [mem_append, not_or] at single
      exact ⟨slash :: below, rfl, (treeRun_iff single.2).2 (Or.inr ⟨below, rfl⟩)⟩

/-- Literals match the paths that start with their components. -/
theorem run_word_iff (single : newline ∉ text) :
    run slash newline (treeRun slash newline) (word.map .literal) text = true ↔
      ∃ after, components slash text = components slash word ++ after := by
  rw [run_word single]
  constructor
  · exact exists_components
  · rintro ⟨after, same⟩
    rw [← intercalate_components slash text, same]
    exact intercalate_word word after

/-- Literals after any directories match the paths that have their components. -/
theorem run_dirs_iff (single : newline ∉ text) :
    run slash newline (treeRun slash newline) (.dirs :: word.map .literal) text = true ↔
      ∃ before after, components slash text = before ++ (components slash word ++ after) := by
  have step : run slash newline (treeRun slash newline) (.dirs :: word.map .literal) text =
      (run slash newline (treeRun slash newline) (word.map .literal) text ||
        slashRun slash newline (run slash newline (treeRun slash newline) (word.map .literal)) text) := rfl
  rw [step, Bool.or_eq_true, slashRun_iff]
  constructor
  · rintro (here | ⟨before, after, rfl, _, found⟩)
    · exact ⟨[], (run_word_iff single).1 here⟩
    · rw [mem_append, mem_cons, not_or, not_or] at single
      rcases (run_word_iff single.2.2).1 found with ⟨later, same⟩
      exact ⟨components slash before, later, by rw [components_append, same]⟩
  · rintro ⟨before, after, same⟩
    cases before with
    | nil => exact Or.inl ((run_word_iff single).2 ⟨after, same⟩)
    | cons first before =>
      have parts : text = [slash].intercalate (first :: before) ++
          slash :: [slash].intercalate (components slash word ++ after) := by
        rw [← intercalate_append slash (cons_ne_nil first before)
          (append_ne_nil_of_left_ne_nil (components_ne_nil slash word) after), ← same,
          intercalate_components]
      rw [parts, mem_append, mem_cons, not_or, not_or] at single
      exact Or.inr ⟨_, _, parts, single.1,
        (run_word single.2.2).2 (intercalate_word word after)⟩

end Synapse.Glob
