import Synapse.Markdown.AnsiText

/-!
# The styles of terminal output

What the parameters that are read make of the state, for the attributes one by one and for the two colours.
-/

namespace Synapse.Markdown

open List
open Console (JsText)

/-! ### The state of a reading -/

namespace AnsiState

def paint (background : Bool) (value : JsText) (state : AnsiState) : AnsiState :=
  if background then { state with background := some value } else { state with foreground := some value }

def colourOf : Colour → JsText
  | .palette index => rgbOf index
  | .rgb red green blue => trueColour red green blue

def apply (state : AnsiState) : Sgr → AnsiState
  | .code code => state.applyCode code
  | .colour background value => state.paint background (colourOf value)

/-- The state after the parameters of a reading -/
def after (done : List Sgr) : AnsiState := done.foldl apply reset

theorem setColour_eq {code : ℕ} (extended : code = 38 ∨ code = 48) (value : JsText) (state : AnsiState) :
    state.setColour code value = state.paint (code = 48) value := by
  rcases extended with rfl | rfl
  · rfl
  · rfl

theorem applyFrom_eq (state : AnsiState) (skip : ℕ) (params : List ℕ) :
    state.applyFrom skip params = (readSgr skip params).foldl apply state := by
  induction params generalizing state skip with
  | nil => cases skip <;> rfl
  | cons code params ih =>
    cases skip with
    | succ skip => exact ih state skip
    | zero =>
      rw [applyFrom.eq_def, readSgr.eq_def]
      dsimp only
      by_cases extended : code = 38 ∨ code = 48
      · rw [if_pos extended, if_pos extended]
        split
        · rw [ih, setColour_eq extended]
          rfl
        · rw [ih, setColour_eq extended]
          rfl
        · rename_i noPalette noRgb
          first
            | exact ih state 0
            | split
              · exact (noPalette _ _ rfl).elim
              · exact (noRgb _ _ _ _ rfl).elim
              · exact ih state 0
      · rw [if_neg extended, if_neg extended, foldl_cons, ih]
        rfl

theorem after_append (done params : List Sgr) : after (done ++ params) = params.foldl apply (after done) :=
  foldl_append

theorem applySgr_after (done : List Sgr) (params : List ℕ) :
    (after done).applySgr params = after (done ++ readSgr 0 params) := by
  rw [applySgr, applyFrom_eq, after_append]

end AnsiState

/-! ### The spans of a text -/

/-- A span for each unit of a span -/
def AnsiSpan.units (span : AnsiSpan) : List AnsiSpan := span.text.map fun unit => { span with text := [unit] }

theorem units_flush (text : JsText) (state : AnsiState) :
    (flush text state).flatMap AnsiSpan.units = text.map fun unit => state.spanOf [unit] := by
  rw [flush]
  split
  · rename_i empty
    rw [empty]
    rfl
  · rw [flatMap_singleton]
    rfl

theorem matchAt_eq_some {text : JsText} {found : Escape} (there : escapeAt text = some found) :
    matchAt text = some (found.length, found.params.elim [] fun params => readSgr 0 (numbers params)) := by
  rw [matchAt, there]
  rfl

theorem units_scan (skip : ℕ) (done : List Sgr) (buffer text : JsText) :
    (scan skip (AnsiState.after done) buffer text).flatMap AnsiSpan.units =
      (buffer.map fun unit => (AnsiState.after done).spanOf [unit]) ++
        (shown matchAt skip done text).map fun read => (AnsiState.after read.2).spanOf [read.1] := by
  induction text generalizing skip done buffer with
  | nil =>
    have nothing : shown matchAt skip done [] = [] := by cases skip <;> rfl
    have last : scan skip (AnsiState.after done) buffer [] = flush buffer (AnsiState.after done) := by
      cases skip <;> rfl
    rw [nothing, last, units_flush, map_nil, append_nil]
  | cons unit text ih =>
    cases skip with
    | succ skip => exact ih skip done buffer
    | zero =>
      rw [scan, shown]
      cases there : escapeAt (unit :: text) with
      | none =>
        have quiet : matchAt (unit :: text) = none := by rw [matchAt, there]; rfl
        rw [quiet]
        dsimp only
        rw [ih 0 done (buffer ++ [unit]), map_append, append_assoc]
        rfl
      | some found =>
        rw [matchAt_eq_some there]
        dsimp only
        have next : found.params.elim (AnsiState.after done)
            (fun params => (AnsiState.after done).applySgr (numbers params)) =
              AnsiState.after (done ++ found.params.elim [] fun params => readSgr 0 (numbers params)) := by
          cases found.params with
          | none => exact congrArg AnsiState.after (append_nil done).symm
          | some params => exact AnsiState.applySgr_after done (numbers params)
        rw [flatMap_append, units_flush, next, ih (found.length - 1) _ [], map_nil, nil_append]

theorem units_filter (spans : List AnsiSpan) :
    (spans.filter fun span => span.text ≠ []).flatMap AnsiSpan.units = spans.flatMap AnsiSpan.units := by
  induction spans with
  | nil => rfl
  | cons span spans ih =>
    by_cases empty : span.text = []
    · have nothing : span.units = [] := by rw [AnsiSpan.units, empty, map_nil]
      rw [filter_cons_of_neg (by simp [empty]), flatMap_cons, nothing, ih, nil_append]
    · rw [filter_cons_of_pos (by simp [empty]), flatMap_cons, flatMap_cons, ih]

/-- Each unit that is left has the style of the parameters that were read before it. -/
theorem units_parseAnsi (text : JsText) : (parseAnsi text).flatMap AnsiSpan.units =
    (shown matchAt 0 [] text).map fun read => (AnsiState.after read.2).spanOf [read.1] := by
  rw [parseAnsi, units_filter]
  exact units_scan 0 [] [] text

theorem text_units (spans : List AnsiSpan) :
    (spans.flatMap AnsiSpan.units).flatMap AnsiSpan.text = spans.flatMap AnsiSpan.text := by
  induction spans with
  | nil => rfl
  | cons span spans ih =>
    have own : span.units.flatMap AnsiSpan.text = span.text := by
      rw [AnsiSpan.units, flatMap_map]
      exact flatMap_singleton' span.text
    rw [flatMap_cons, flatMap_append, flatMap_cons, ih, own]

theorem text_parseAnsi (text : JsText) : (parseAnsi text).flatMap AnsiSpan.text = visible matchAt text := by
  rw [← text_units, units_parseAnsi, visible, flatMap_map]
  exact (map_eq_flatMap (f := Prod.fst)).symm

end Synapse.Markdown
