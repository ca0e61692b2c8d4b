import Synapse.Python.Lines

/-!
# Lines and what ends them

The lines of a text together with their line breaks, which `str.splitlines` leaves out.
-/

namespace Synapse

open List

namespace Text

/-- The lines and what ends them; the characters of `line` are before the rest. -/
def endedFrom (line : Text) : Text → List (Text × Text)
  | [] => if line = [] then [] else [(line, [])]
  | point :: rest =>
    if isLineBreak point then
      match rest with
      | next :: after =>
        if point = 0x0D ∧ next = 0x0A then (line, [point, next]) :: endedFrom [] after
        else (line, [point]) :: endedFrom [] (next :: after)
      | [] => [(line, [point])]
    else endedFrom (line ++ [point]) rest

/-- What ends each line. -/
def lineEnds (value : Text) : List Text := (endedFrom [] value).map Prod.snd

theorem linesFrom_returned (line : Text) {point : CodePoint} (rest : Text) (other : point ≠ 0x0A) :
    linesFrom true line (point :: rest) = linesFrom false line (point :: rest) := by
  simp only [linesFrom, other, and_false, if_false]

theorem linesFrom_break (line : Text) {point : CodePoint} (rest : Text) (breaks : isLineBreak point = true) :
    linesFrom false line (point :: rest) = line :: linesFrom (point = 0x0D) [] rest := by
  rw [linesFrom, if_neg (by simp), if_pos breaks]

theorem map_fst_endedFrom (line value : Text) :
    (endedFrom line value).map Prod.fst = linesFrom false line value := by
  fun_induction endedFrom line value with
  | case1 => rfl
  | case2 line filled => rw [linesFrom, if_neg filled]; rfl
  | case3 line point breaks next after both ih =>
    rw [map_cons, ih, linesFrom_break line _ breaks, linesFrom,
      if_pos ⟨decide_eq_true both.1, both.2⟩]
  | case4 line point breaks next after single ih =>
    rw [map_cons, ih, linesFrom_break line _ breaks]
    by_cases returned : point = 0x0D
    · have other : next ≠ 0x0A := fun same => single ⟨returned, same⟩
      rw [decide_eq_true returned, linesFrom_returned [] after other]
    · rw [decide_eq_false returned]
  | case5 line point breaks =>
    rw [linesFrom_break line _ breaks]
    rfl
  | case6 line point rest inside ih =>
    have step : linesFrom false line (point :: rest) = linesFrom false (line ++ [point]) rest := by
      rw [linesFrom, if_neg (by simp), if_neg inside]
    rw [ih, step]

theorem flatMap_endedFrom (line value : Text) :
    (endedFrom line value).flatMap (fun ended => ended.1 ++ ended.2) = line ++ value := by
  fun_induction endedFrom line value with
  | case1 => rfl
  | case2 line filled => rw [flatMap_singleton]
  | case3 line point breaks next after both ih =>
    rw [flatMap_cons, ih, nil_append, append_assoc]
    rfl
  | case4 line point breaks next after single ih =>
    rw [flatMap_cons, ih, nil_append, append_assoc]
    rfl
  | case5 line point breaks => rw [flatMap_singleton]
  | case6 line point rest inside ih =>
    rw [ih, append_assoc]
    rfl

theorem eq_of_lines {first second : Text} (lines : splitlines first = splitlines second)
    (ends : lineEnds first = lineEnds second) : first = second := by
  rw [splitlines, splitlines, ← map_fst_endedFrom, ← map_fst_endedFrom] at lines
  have same : endedFrom [] first = endedFrom [] second := by
    rw [← zip_unzip (endedFrom [] first), ← zip_unzip (endedFrom [] second), unzip_eq_map,
      unzip_eq_map]
    exact congrArg₂ List.zip lines ends
  have whole := flatMap_endedFrom [] first
  rw [same, flatMap_endedFrom, nil_append, nil_append] at whole
  exact whole.symm

/-! ### Texts with one line break -/

/-- The line breaks of files. -/
def IsEnd (ending : Text) : Prop := ending = [0x0A] ∨ ending = [0x0D, 0x0A]

theorem linesFrom_ended {text ending : Text} (unbroken : ∀ point ∈ text, isLineBreak point = false)
    (ends : IsEnd ending) (line rest : Text) :
    linesFrom false line (text ++ (ending ++ rest)) = (line ++ text) :: linesFrom false [] rest := by
  rcases ends with rfl | rfl
  · exact linesFrom_line unbroken line rest
  · induction text generalizing line with
    | nil => rw [append_nil]; rfl
    | cons point text ih =>
      have inside : isLineBreak point = false := unbroken point mem_cons_self
      rw [cons_append, linesFrom, if_neg (by simp), if_neg (by simp [inside]),
        ih fun other present => unbroken other (mem_cons_of_mem _ present)]
      simp

/-- Lines with line breaks of one kind between them, and one at the end or not, are read back. -/
theorem splitlines_intercalate {ending last : Text} (ends : IsEnd ending) (final : last = [] ∨ IsEnd last)
    {lines : List Text} (unbroken : ∀ line ∈ lines, ∀ point ∈ line, isLineBreak point = false)
    (ended : ∀ line ∈ lines.getLast?, line ≠ []) (filled : lines ≠ []) :
    splitlines (ending.intercalate lines ++ last) = lines := by
  unfold splitlines
  induction lines with
  | nil => exact absurd rfl filled
  | cons line lines ih =>
    have own := unbroken line mem_cons_self
    cases lines with
    | nil =>
      have whole : ending.intercalate [line] = line := append_nil line
      rw [whole]
      rcases final with rfl | final
      · rw [append_nil, linesFrom_end own, nil_append, if_neg (ended line rfl)]
      · have read := linesFrom_ended own final [] []
        rw [append_nil] at read
        rw [read]
        rfl
    | cons next lines =>
      rw [intercalate_cons_of_ne_nil (cons_ne_nil next lines), append_assoc,
        append_assoc, linesFrom_ended own ends, nil_append]
      refine congrArg (line :: ·) (ih ?_ ?_ (cons_ne_nil next lines))
      · exact fun other present => unbroken other (mem_cons_of_mem _ present)
      · rwa [getLast?_cons_cons] at ended

end Text

end Synapse
