import Synapse.Markdown.AnsiStyles

/-!
# Attributes and colours of terminal output

Which attributes and which palette indices are in force after the parameters of a reading, and what the classes
and colours of the state say about it.
-/

namespace Synapse.Markdown

open List
open Console (JsText)

/-! ### Attributes -/

inductive Attribute where
  | bold
  | faint
  | italic
  | underline
  | inverse
  deriving DecidableEq

namespace Attribute

def code : Attribute → ℕ
  | bold => 1
  | faint => 2
  | italic => 3
  | underline => 4
  | inverse => 7

/-- The parameters that end an attribute -/
def ends : Attribute → List ℕ
  | bold => [0, 22]
  | faint => [0, 22]
  | italic => [0, 23]
  | underline => [0, 24]
  | inverse => [0, 27]

/-- The parameters at which the reader takes the classes of an attribute away -/
def removers : Attribute → List ℕ
  | bold => [0, 22]
  | faint => [0]
  | italic => [0, 23]
  | underline => [0, 24]
  | inverse => [0, 27]

def classes : Attribute → List JsText
  | bold => [AnsiState.semibold]
  | faint => [AnsiState.opacity]
  | italic => [AnsiState.italic]
  | underline => [AnsiState.underline]
  | inverse => [AnsiState.inverseBackground, AnsiState.inverseText]

/-- A span has the classes of the attribute. -/
def On (mark : Attribute) (span : AnsiSpan) : Prop :=
  ∀ name ∈ mark.classes, name ∈ span.className.splitOn 0x20

/-- The state has the classes of the attribute. -/
def Present (mark : Attribute) (state : AnsiState) : Prop :=
  ∀ name ∈ mark.classes, name ∈ state.attributes

end Attribute

/-- An attribute after one more parameter -/
def turn (code : ℕ) (ends : List ℕ) (on : Bool) (read : Sgr) : Bool :=
  if read = .code code then true else if read ∈ ends.map Sgr.code then false else on

/-- The attribute of a code is in force after the parameters of a reading. -/
def inForce (code : ℕ) (ends : List ℕ) (done : List Sgr) : Bool := done.foldl (turn code ends) false

/-! ### Colours -/

def coloursOf (background : Bool) : List (ℕ × JsText) :=
  if background then backgroundClasses else foregroundClasses

/-- A parameter that stands alone and sets or clears a colour -/
def SetsColour (background : Bool) (code : ℕ) : Prop :=
  code = 0 ∨ code = (if background then 49 else 39) ∨ code ∈ (coloursOf background).map Prod.fst

instance (background : Bool) (code : ℕ) : Decidable (SetsColour background code) :=
  inferInstanceAs (Decidable (_ ∨ _ ∨ _))

/-- The palette index of a colour after one more parameter, unless the colour is another one -/
def turnIndex (background : Bool) (index : Option ℕ) : Sgr → Option ℕ
  | .code code => if SetsColour background code then none else index
  | .colour side value =>
    if side = background then
      match value with
      | .palette index => some index
      | .rgb _ _ _ => none
    else index

def indexInForce (background : Bool) (done : List Sgr) : Option ℕ := done.foldl (turnIndex background) none

def isHexDigit (unit : UInt16) : Bool := isDigit unit ∨ 0x61 ≤ unit ∧ unit ≤ 0x66

/-- A value `#rrggbb` -/
def SixDigits (value : JsText) : Prop :=
  value.length = 7 ∧ value.head? = some hash ∧ ∀ unit ∈ value.tail, isHexDigit unit = true

theorem hex_pair : ∀ high < 16, ∀ low < 16, (hex (16 * high + low)).length = 2 ∧
    (hex (16 * high + low)).all isHexDigit = true := by
  decide

theorem hex_small (value : ℕ) (small : value < 256) :
    (hex value).length = 2 ∧ ∀ unit ∈ hex value, isHexDigit unit = true := by
  rw [← Nat.div_add_mod value 16]
  have pair := hex_pair (value / 16) (by omega) (value % 16) (by omega)
  exact ⟨pair.1, all_eq_true.1 pair.2⟩

theorem sixDigits_hex {red green blue : ℕ} (first : red < 256) (second : green < 256) (third : blue < 256) :
    SixDigits (hash :: (hex red ++ hex green ++ hex blue)) := by
  refine ⟨?_, rfl, fun unit mem => ?_⟩
  · rw [length_cons, length_append, length_append, (hex_small red first).1,
      (hex_small green second).1, (hex_small blue third).1]
  · rw [tail_cons, mem_append, mem_append] at mem
    rcases mem with (inside | inside) | inside
    · exact (hex_small red first).2 unit inside
    · exact (hex_small green second).2 unit inside
    · exact (hex_small blue third).2 unit inside

theorem sixDigits_trueColour (red green blue : ℕ) : SixDigits (trueColour red green blue) :=
  sixDigits_hex (by omega) (by omega) (by omega)

theorem length_hex (value : ℕ) (large : 256 ≤ value) : 3 ≤ (hex value).length := by
  have digits : 2 < (Nat.digits 16 value).length := Nat.lt_digits_length_iff (by decide) value |>.2 large
  rw [hex, if_neg (by omega), length_append, length_map, length_reverse]
  omega

theorem level_lt {value : ℕ} (small : value < 6) : level value < 256 := by
  rw [level]
  split
  · omega
  · omega

theorem base_sixDigits : ∀ value ∈ baseRgb, SixDigits value := by
  have all : ∀ value ∈ baseRgb, value.length = 7 ∧ value.head? = some hash ∧
      value.tail.all isHexDigit = true := by decide
  exact fun value mem => ⟨(all value mem).1, (all value mem).2.1, all_eq_true.1 (all value mem).2.2⟩

theorem rgbOf_mem_base {index : ℕ} (base : index < 16) : rgbOf index ∈ baseRgb := by
  have bound : index < baseRgb.length := base
  rw [rgbOf, if_pos base, getD_eq_getElem _ _ bound]
  exact getElem_mem bound

/-- The palette ends at 255, and the grey after it has two digits as well. -/
theorem sixDigits_rgbOf (index : ℕ) : SixDigits (rgbOf index) ↔ index ≤ 256 := by
  constructor
  · intro six
    by_contra large
    rw [rgbOf, if_neg (by omega), if_neg (by omega)] at six
    have long := length_hex (8 + (index - 232) * 10) (by omega)
    have length := six.1
    dsimp only at length
    rw [length_cons, length_append, length_append] at length
    omega
  · intro small
    by_cases base : index < 16
    · exact base_sixDigits _ (rgbOf_mem_base base)
    · rw [rgbOf, if_neg base]
      split
      · exact sixDigits_hex (level_lt (by omega)) (level_lt (by omega)) (level_lt (by omega))
      · exact sixDigits_hex (by omega) (by omega) (by omega)

theorem isExplicit_rgbOf (index : ℕ) : AnsiState.isExplicit (rgbOf index) = true := by
  by_cases base : index < 16
  · exact decide_eq_true (base_sixDigits _ (rgbOf_mem_base base)).2.1
  · rw [rgbOf, if_neg base]
    split
    · rfl
    · rfl

/-! ### What a parameter does -/

namespace AnsiState

def value (background : Bool) (state : AnsiState) : Option JsText :=
  if background then state.background else state.foreground

def clear (background : Bool) (state : AnsiState) : AnsiState :=
  if background then { state with background := none } else { state with foreground := none }

/-- The effect of a parameter that stands alone -/
inductive Effect (code : ℕ) (state : AnsiState) : AnsiState → Prop
  | reset (zero : code = 0) : Effect code state reset
  | begun (mark : Attribute) (own : code = mark.code) : Effect code state (state.push mark.classes)
  | ended (mark : Attribute) (own : mark.removers = [0, code]) : Effect code state (state.remove mark.classes)
  | cleared (side : Bool) (own : code = if side then 49 else 39) : Effect code state (state.clear side)
  | painted (side : Bool) (name : JsText) (own : (code, name) ∈ coloursOf side) :
      Effect code state (state.paint side name)
  | ignored (plain : ∀ mark : Attribute, code ≠ mark.code ∧ code ∉ mark.removers)
      (still : ∀ side, ¬ SetsColour side code) : Effect code state state

variable {name : JsText} {table : List (ℕ × JsText)}

theorem mem_of_lookup {code : ℕ}
    (found : table.lookup code = some name) : (code, name) ∈ table := by
  rcases lookup_eq_some_iff.1 found with ⟨before, after, whole, _⟩
  rw [whole]
  exact mem_append_right before mem_cons_self

theorem notMem_of_lookup {code : ℕ}
    (missing : table.lookup code = none) : code ∉ table.map Prod.fst := by
  intro mem
  rcases mem_map.1 mem with ⟨entry, inside, rfl⟩
  have other := lookup_eq_none_iff.1 missing entry inside
  simp at other

theorem effect (state : AnsiState) (code : ℕ) : Effect code state (state.applyCode code) := by
  rw [applyCode]
  by_cases zero : code = 0
  · rw [if_pos zero]
    exact .reset zero
  rw [if_neg zero]
  by_cases one : code = 1
  · rw [if_pos one]
    exact .begun .bold one
  rw [if_neg one]
  by_cases two : code = 2
  · rw [if_pos two]
    exact .begun .faint two
  rw [if_neg two]
  by_cases three : code = 3
  · rw [if_pos three]
    exact .begun .italic three
  rw [if_neg three]
  by_cases four : code = 4
  · rw [if_pos four]
    exact .begun .underline four
  rw [if_neg four]
  by_cases bold : code = 22
  · rw [if_pos bold]
    exact .ended .bold (by rw [bold]; rfl)
  rw [if_neg bold]
  by_cases italic : code = 23
  · rw [if_pos italic]
    exact .ended .italic (by rw [italic]; rfl)
  rw [if_neg italic]
  by_cases underline : code = 24
  · rw [if_pos underline]
    exact .ended .underline (by rw [underline]; rfl)
  rw [if_neg underline]
  by_cases seven : code = 7
  · rw [if_pos seven]
    exact .begun .inverse seven
  rw [if_neg seven]
  by_cases inverse : code = 27
  · rw [if_pos inverse]
    exact .ended .inverse (by rw [inverse]; rfl)
  rw [if_neg inverse]
  by_cases foreground : code = 39
  · rw [if_pos foreground]
    exact .cleared false foreground
  rw [if_neg foreground]
  by_cases background : code = 49
  · rw [if_pos background]
    exact .cleared true background
  rw [if_neg background]
  cases front : foregroundClasses.lookup code with
  | some name => exact .painted false name (mem_of_lookup front)
  | none =>
    cases back : backgroundClasses.lookup code with
    | some name => exact .painted true name (mem_of_lookup back)
    | none =>
      refine .ignored (fun mark => ?_) (fun side => ?_)
      · cases mark with
        | bold => exact ⟨one, by simp [Attribute.removers, zero, bold]⟩
        | faint => exact ⟨two, by simp [Attribute.removers, zero]⟩
        | italic => exact ⟨three, by simp [Attribute.removers, zero, italic]⟩
        | underline => exact ⟨four, by simp [Attribute.removers, zero, underline]⟩
        | inverse => exact ⟨seven, by simp [Attribute.removers, zero, inverse]⟩
      · cases side with
        | false => exact fun sets => sets.elim zero fun sets => sets.elim foreground (notMem_of_lookup front)
        | true => exact fun sets => sets.elim zero fun sets => sets.elim background (notMem_of_lookup back)

/-! ### The tables -/

theorem table_codes (side : Bool) : ∀ entry ∈ coloursOf side, 30 ≤ entry.1 := by
  cases side with
  | false => decide
  | true => decide

theorem table_names (side : Bool) : ∀ entry ∈ coloursOf side,
    isExplicit entry.2 = false ∧ 0x20 ∉ entry.2 ∧ entry.2 ∉ [semibold, opacity, italic, underline, inverseText] := by
  cases side with
  | false => decide
  | true => decide

theorem not_setsColour_other (side : Bool) : ∀ entry ∈ coloursOf side, ¬ SetsColour (!side) entry.1 := by
  cases side with
  | false => decide
  | true => decide

variable {side : Bool}

theorem setsColour_of_mem {code : ℕ} (own : (code, name) ∈ coloursOf side) :
    SetsColour side code :=
  Or.inr (Or.inr (mem_map_of_mem own))

theorem mark_code_lt (mark : Attribute) : mark.code ≠ 0 ∧ mark.code < 30 := by
  cases mark <;> exact ⟨by decide, by decide⟩

theorem removers_lt (mark : Attribute) : ∀ code ∈ mark.removers, code < 30 := by
  cases mark <;> decide

theorem zero_mem_removers (mark : Attribute) : 0 ∈ mark.removers := by
  cases mark <;> decide

variable {mark : Attribute}

theorem code_injective {other : Attribute} (same : mark.code = other.code) : mark = other := by
  cases mark <;> cases other <;> first | rfl | exact absurd same (by decide)

theorem code_notMem_removers (mark other : Attribute) : mark.code ∉ other.removers := by
  cases mark <;> cases other <;> decide

/-- A code that ends one attribute alone neither sets nor ends another one. -/
theorem quiet_end {other : Attribute} {code : ℕ} (own : other.removers = [0, code]) (ne : mark ≠ other) :
    code ≠ mark.code ∧ code ∉ mark.removers := by
  cases other with
  | faint => exact absurd own (by simp [Attribute.removers])
  | bold =>
    obtain rfl : 22 = code := by simpa [Attribute.removers] using own
    cases mark <;> first | exact absurd rfl ne | exact ⟨by decide, by decide⟩
  | italic =>
    obtain rfl : 23 = code := by simpa [Attribute.removers] using own
    cases mark <;> first | exact absurd rfl ne | exact ⟨by decide, by decide⟩
  | underline =>
    obtain rfl : 24 = code := by simpa [Attribute.removers] using own
    cases mark <;> first | exact absurd rfl ne | exact ⟨by decide, by decide⟩
  | inverse =>
    obtain rfl : 27 = code := by simpa [Attribute.removers] using own
    cases mark <;> first | exact absurd rfl ne | exact ⟨by decide, by decide⟩

theorem mark_of_class {other : Attribute} (first : name ∈ mark.classes)
    (second : name ∈ other.classes) : mark = other := by
  have apart : ∀ name ∈ mark.classes, name ∈ other.classes → mark = other := by
    cases mark <;> cases other <;> decide
  exact apart name first second

theorem exists_class (mark : Attribute) : ∃ name ∈ mark.classes,
    name ∈ [semibold, opacity, italic, underline, inverseText] := by
  cases mark <;> decide

theorem class_plain (mark : Attribute) : ∀ name ∈ mark.classes, 0x20 ∉ name ∧ name ≠ [] := by
  cases mark <;> decide

/-! ### Attributes in force -/

theorem present_push (mark other : Attribute) (state : AnsiState) :
    mark.Present (state.push other.classes) ↔ mark = other ∨ mark.Present state := by
  constructor
  · intro present
    by_cases same : mark = other
    · exact Or.inl same
    · refine Or.inr fun name own => ?_
      rcases mem_append.1 (present name own) with old | new
      · exact old
      · exact absurd (mark_of_class own new) same
  · rintro (rfl | present) name own
    · exact mem_append_right _ own
    · exact mem_append_left _ (present name own)

theorem present_remove (mark other : Attribute) (state : AnsiState) :
    mark.Present (state.remove other.classes) ↔ mark ≠ other ∧ mark.Present state := by
  constructor
  · intro present
    refine ⟨?_, fun name own => (mem_filter.1 (present name own)).1⟩
    rintro rfl
    rcases exists_class mark with ⟨name, own, _⟩
    exact of_decide_eq_true (mem_filter.1 (present name own)).2 own
  · rintro ⟨ne, present⟩ name own
    exact mem_filter.2 ⟨present name own, decide_eq_true fun also => ne (mark_of_class own also)⟩

theorem present_reset (mark : Attribute) : ¬ mark.Present reset := by
  intro present
  rcases exists_class mark with ⟨name, own, _⟩
  exact absurd (present name own) not_mem_nil

theorem attributes_clear (side : Bool) (state : AnsiState) : (state.clear side).attributes = state.attributes := by
  cases side <;> rfl

theorem attributes_paint (side : Bool) (name : JsText) (state : AnsiState) :
    (state.paint side name).attributes = state.attributes := by
  cases side <;> rfl

variable {state : AnsiState}

theorem present_of_attributes {other : AnsiState}
    (same : other.attributes = state.attributes) : mark.Present other ↔ mark.Present state := by
  rw [Attribute.Present, Attribute.Present, same]

theorem turn_quiet {code number : ℕ} {ends : List ℕ} (on : Bool) (other : number ≠ code) (outside : number ∉ ends) :
    turn code ends on (.code number) = on := by
  rw [turn, if_neg (by simpa using other), if_neg (by simpa using outside)]

theorem turn_ends {code number : ℕ} {ends : List ℕ} (on : Bool) (other : number ≠ code) (inside : number ∈ ends) :
    turn code ends on (.code number) = false := by
  rw [turn, if_neg (by simpa using other), if_pos (mem_map_of_mem inside)]

theorem present_apply (mark : Attribute) (state : AnsiState) (on : Bool) (read : Sgr)
    (present : on = true ↔ mark.Present state) :
    turn mark.code mark.removers on read = true ↔ mark.Present (state.apply read) := by
  cases read with
  | colour side value =>
    have quiet : turn mark.code mark.removers on (.colour side value) = on := by
      rw [turn, if_neg Sgr.noConfusion, if_neg (by simp)]
    rw [quiet, present, apply, present_of_attributes (attributes_paint side _ state)]
  | code code =>
    rw [apply]
    have effects := effect state code
    generalize state.applyCode code = next at effects
    cases effects with
    | reset zero =>
      rw [zero, turn_ends on (mark_code_lt mark).1.symm (zero_mem_removers mark)]
      exact iff_of_false Bool.false_ne_true (present_reset mark)
    | begun other own =>
      rw [present_push]
      by_cases same : mark = other
      · rw [turn, if_pos (by rw [own, same])]
        exact iff_of_true rfl (Or.inl same)
      · rw [own, turn_quiet on (fun codes => same (code_injective codes.symm)) (code_notMem_removers other mark),
          present, or_iff_right same]
    | ended other own =>
      rw [present_remove]
      by_cases same : mark = other
      · have inside : code ∈ mark.removers := by rw [same, own]; exact mem_cons_of_mem _ mem_cons_self
        have begins : code ≠ mark.code := by
          rintro rfl
          exact code_notMem_removers mark mark inside
        rw [turn_ends on begins inside]
        exact iff_of_false Bool.false_ne_true fun both => both.1 same
      · have quiet := quiet_end own same
        rw [turn_quiet on quiet.1 quiet.2, present, and_iff_right same]
    | cleared side own =>
      have large : 30 ≤ code := by cases side <;> rw [own] <;> decide
      have first := (mark_code_lt mark).2
      rw [turn_quiet on (by omega) (fun inside => by have := removers_lt mark code inside; omega), present,
        present_of_attributes (attributes_clear side state)]
    | painted side name own =>
      have large : 30 ≤ code := table_codes side _ own
      have first := (mark_code_lt mark).2
      rw [turn_quiet on (by omega) (fun inside => by have := removers_lt mark code inside; omega), present,
        present_of_attributes (attributes_paint side name state)]
    | ignored plain _ => rw [turn_quiet on (plain mark).1 (plain mark).2, present]

/-- The reader shows the attributes that are in force by its own removers. -/
theorem present_after (mark : Attribute) (done : List Sgr) :
    inForce mark.code mark.removers done = true ↔ mark.Present (after done) := by
  have run (on : Bool) (state : AnsiState) (present : on = true ↔ mark.Present state) :
      done.foldl (turn mark.code mark.removers) on = true ↔ mark.Present (done.foldl apply state) := by
    induction done generalizing on state with
    | nil => exact present
    | cons read done ih => exact ih _ _ (present_apply mark state on read present)
  exact run false reset (iff_of_false Bool.false_ne_true (present_reset mark))

/-! ### Colours in force -/

/-- A colour of the palette is the one of its index, and another explicit colour has six digits. -/
def Shades (index : Option ℕ) (value : Option JsText) : Prop :=
  match index with
  | some index => value = some (rgbOf index)
  | none => ∀ name, value = some name → isExplicit name = true → SixDigits name

theorem value_clear (side : Bool) (state : AnsiState) : (state.clear side).value side = none := by
  cases side <;> rfl

theorem value_clear_of_ne {other : Bool} (ne : other ≠ side) (state : AnsiState) :
    (state.clear other).value side = state.value side := by
  cases side <;> cases other <;> first | rfl | exact absurd rfl ne

theorem value_paint (side : Bool) (name : JsText) (state : AnsiState) :
    (state.paint side name).value side = some name := by
  cases side <;> rfl

theorem value_paint_of_ne {other : Bool} (ne : other ≠ side) (name : JsText) (state : AnsiState) :
    (state.paint other name).value side = state.value side := by
  cases side <;> cases other <;> first | rfl | exact absurd rfl ne

theorem value_reset (side : Bool) : reset.value side = none := by
  cases side <;> rfl

theorem value_of_colours {other : AnsiState} (side : Bool) (foreground : other.foreground = state.foreground)
    (background : other.background = state.background) : other.value side = state.value side := by
  rw [value, value, foreground, background]

theorem shades_none (index : Option ℕ) (nothing : index = none) : Shades index none := by
  rw [nothing]
  rintro name ⟨⟩

theorem not_setsColour_mark (side : Bool) (mark : Attribute) : ¬ SetsColour side mark.code := by
  cases side <;> cases mark <;> decide

theorem not_setsColour_end {code : ℕ} (own : mark.removers = [0, code]) :
    ¬ SetsColour side code := by
  cases mark with
  | faint => exact absurd own (by simp [Attribute.removers])
  | bold =>
    obtain rfl : 22 = code := by simpa [Attribute.removers] using own
    cases side <;> decide
  | italic =>
    obtain rfl : 23 = code := by simpa [Attribute.removers] using own
    cases side <;> decide
  | underline =>
    obtain rfl : 24 = code := by simpa [Attribute.removers] using own
    cases side <;> decide
  | inverse =>
    obtain rfl : 27 = code := by simpa [Attribute.removers] using own
    cases side <;> decide

theorem turnIndex_quiet {index : Option ℕ} {code : ℕ} (quiet : ¬ SetsColour side code) :
    turnIndex side index (.code code) = index :=
  if_neg quiet

theorem turnIndex_sets {index : Option ℕ} {code : ℕ} (sets : SetsColour side code) :
    turnIndex side index (.code code) = none :=
  if_pos sets

theorem not_setsColour_clear {other : Bool} (ne : other ≠ side) :
    ¬ SetsColour side (if other then 49 else 39) := by
  cases side <;> cases other <;> first | exact absurd rfl ne | decide

theorem shades_apply (side : Bool) (state : AnsiState) (index : Option ℕ) (read : Sgr)
    (shades : Shades index (state.value side)) :
    Shades (turnIndex side index read) ((state.apply read).value side) := by
  cases read with
  | colour other value =>
    rw [apply, turnIndex.eq_def]
    dsimp only
    by_cases same : other = side
    · rw [if_pos same, same, value_paint]
      cases value with
      | palette index => rfl
      | rgb red green blue =>
        rintro name ⟨⟩ _
        exact sixDigits_trueColour red green blue
    · rw [if_neg same, value_paint_of_ne same]
      exact shades
  | code code =>
    rw [apply]
    have effects := effect state code
    generalize state.applyCode code = next at effects
    cases effects with
    | reset zero =>
      rw [value_reset]
      exact shades_none _ (turnIndex_sets (Or.inl zero))
    | begun mark own =>
      rw [turnIndex_quiet (own ▸ not_setsColour_mark side mark), value_of_colours side rfl rfl]
      exact shades
    | ended mark own =>
      rw [turnIndex_quiet (not_setsColour_end own), value_of_colours side rfl rfl]
      exact shades
    | cleared other own =>
      by_cases same : other = side
      · rw [same, value_clear]
        exact shades_none _ (turnIndex_sets (Or.inr (Or.inl (same ▸ own))))
      · rw [turnIndex_quiet (own ▸ not_setsColour_clear same), value_clear_of_ne same]
        exact shades
    | painted other name own =>
      by_cases same : other = side
      · rw [turnIndex_sets (setsColour_of_mem (same ▸ own)), same, value_paint]
        rintro other ⟨⟩ explicit
        rw [(table_names _ _ own).1] at explicit
        cases explicit
      · have opposite : (!other) = side := by cases other <;> cases side <;> first | rfl | exact absurd rfl same
        rw [turnIndex_quiet (opposite ▸ not_setsColour_other other _ own), value_paint_of_ne same]
        exact shades
    | ignored _ still =>
      rw [turnIndex_quiet (still side)]
      exact shades

theorem shades_after (side : Bool) (done : List Sgr) : Shades (indexInForce side done) ((after done).value side) := by
  have run (index : Option ℕ) (state : AnsiState) (shades : Shades index (state.value side)) :
      Shades (done.foldl (turnIndex side) index) ((done.foldl apply state).value side) := by
    induction done generalizing index state with
    | nil => exact shades
    | cons read done ih => exact ih _ _ (shades_apply side state index read shades)
  refine run none reset ?_
  rw [value_reset]
  exact shades_none none rfl

/-- An explicit colour has six digits unless it is one of a palette index after the grey ones. -/
theorem sixDigits_after (side : Bool) (done : List Sgr) :
    (∀ name, explicit ((after done).value side) = some name → SixDigits name) ↔
      ∀ index, indexInForce side done = some index → index ≤ 256 := by
  have shades := shades_after side done
  constructor
  · intro six index own
    rw [own] at shades
    refine (sixDigits_rgbOf index).1 (six _ ?_)
    rw [shades, explicit, Option.filter_some, if_pos (isExplicit_rgbOf index)]
  · intro small name own
    rcases Option.filter_eq_some_iff.1 own with ⟨value, marked⟩
    cases force : indexInForce side done with
    | none =>
      rw [force] at shades
      exact shades name value marked
    | some index =>
      rw [force] at shades
      have same : rgbOf index = name := Option.mem_unique shades value
      rw [← same]
      exact (sixDigits_rgbOf index).2 (small index force)

/-! ### The classes of a span -/

/-- The classes of an attribute are there together, and a colour without a `#` is one of its table. -/
structure Sound (state : AnsiState) : Prop where
  names : ∀ name ∈ state.attributes, ∃ mark : Attribute, name ∈ mark.classes
  whole : ∀ mark : Attribute, ∀ name ∈ mark.classes, name ∈ state.attributes → mark.Present state
  colours : ∀ side name, state.value side = some name → isExplicit name = false →
    name ∈ (coloursOf side).map Prod.snd

theorem sound_reset : Sound reset where
  names := fun _ mem => absurd mem not_mem_nil
  whole := fun _ _ _ mem => absurd mem not_mem_nil
  colours := fun side _ own => by rw [value_reset] at own; cases own

theorem Sound.of_colours {next : AnsiState} (sound : Sound state) (same : next.attributes = state.attributes)
    (colours : ∀ side name, next.value side = some name → isExplicit name = false →
      name ∈ (coloursOf side).map Prod.snd) : Sound next where
  names := by rw [same]; exact sound.names
  whole := fun mark name own mem => by
    rw [same] at mem
    exact (present_of_attributes same).2 (sound.whole mark name own mem)
  colours := colours

theorem Sound.push (sound : Sound state) (mark : Attribute) : Sound (state.push mark.classes) where
  names := fun name mem => by
    rcases mem_append.1 mem with old | new
    · exact sound.names name old
    · exact ⟨mark, new⟩
  whole := fun other name own mem => by
    rw [present_push]
    rcases mem_append.1 mem with old | new
    · exact Or.inr (sound.whole other name own old)
    · exact Or.inl (mark_of_class own new)
  colours := fun side => by rw [value_of_colours side rfl rfl]; exact sound.colours side

theorem Sound.remove (sound : Sound state) (mark : Attribute) :
    Sound (state.remove mark.classes) where
  names := fun name mem => sound.names name (mem_filter.1 mem).1
  whole := fun other name own mem => by
    rcases mem_filter.1 mem with ⟨old, outside⟩
    rw [present_remove]
    refine ⟨?_, sound.whole other name own old⟩
    rintro rfl
    exact of_decide_eq_true outside own
  colours := fun side => by rw [value_of_colours side rfl rfl]; exact sound.colours side

theorem Sound.paint (sound : Sound state) (side : Bool) (name : JsText)
    (own : isExplicit name = false → name ∈ (coloursOf side).map Prod.snd) : Sound (state.paint side name) := by
  refine sound.of_colours (attributes_paint side name state) fun other value set => ?_
  by_cases same : side = other
  · subst same
    rw [value_paint] at set
    cases set
    exact own
  · rw [value_paint_of_ne same] at set
    exact sound.colours other value set

theorem Sound.clear (sound : Sound state) (side : Bool) : Sound (state.clear side) := by
  refine sound.of_colours (attributes_clear side state) fun other value set => ?_
  by_cases same : side = other
  · subst same
    rw [value_clear] at set
    cases set
  · rw [value_clear_of_ne same] at set
    exact sound.colours other value set

theorem isExplicit_colourOf (value : Colour) : isExplicit (colourOf value) = true := by
  cases value with
  | palette index => exact isExplicit_rgbOf index
  | rgb red green blue => rfl

theorem Sound.apply (sound : Sound state) (read : Sgr) : Sound (state.apply read) := by
  cases read with
  | colour side value =>
    exact sound.paint side (colourOf value) fun plain => by rw [isExplicit_colourOf] at plain; cases plain
  | code code =>
    rw [AnsiState.apply]
    have effects := effect state code
    generalize state.applyCode code = next at effects
    cases effects with
    | reset _ => exact sound_reset
    | begun mark _ => exact sound.push mark
    | ended mark _ => exact sound.remove mark
    | cleared side _ => exact sound.clear side
    | painted side name own => exact sound.paint side name fun _ => mem_map_of_mem own
    | ignored _ _ => exact sound

theorem sound_after (done : List Sgr) : Sound (after done) := by
  have run (state : AnsiState) (sound : Sound state) : Sound (done.foldl AnsiState.apply state) := by
    induction done generalizing state with
    | nil => exact sound
    | cons read done ih => exact ih _ (sound.apply read)
  exact run reset sound_reset

theorem mem_splitOn_join {names : List JsText} (plain : ∀ name ∈ names, (0x20 : UInt16) ∉ name)
    (filled : name ≠ []) : name ∈ (JsText.join [0x20] names).splitOn 0x20 ↔ name ∈ names := by
  by_cases nothing : names = []
  · rw [nothing, JsText.join, intercalate_nil]
    simp [filled]
  · rw [JsText.join, splitOn_intercalate 0x20 plain nothing]

theorem Sound.mem_table {state : AnsiState} (sound : Sound state) {side : Bool} {name : JsText}
    (own : name ∈ (colour (state.value side)).toList) : ∃ entry ∈ coloursOf side, entry.2 = name := by
  rw [Option.mem_toList, colour, Option.filter_eq_some_iff] at own
  have plain : isExplicit name = false := by simpa using own.2
  exact mem_map.1 (sound.colours side name own.1 plain)

theorem Sound.class_cases (sound : Sound state) (own : name ∈ state.classes) :
    name ∈ state.attributes ∨ ∃ side, ∃ entry ∈ coloursOf side, entry.2 = name := by
  rw [classes, mem_append, mem_append] at own
  rcases own with (inside | front) | back
  · exact Or.inl inside
  · exact Or.inr ⟨false, @Sound.mem_table state sound false name front⟩
  · exact Or.inr ⟨true, @Sound.mem_table state sound true name back⟩

/-- A span has the classes of an attribute exactly when the state has them. -/
theorem Sound.on_spanOf (sound : Sound state) (mark : Attribute) (text : JsText) :
    mark.On (state.spanOf text) ↔ mark.Present state := by
  have plain : ∀ name ∈ state.classes, (0x20 : UInt16) ∉ name := by
    intro name own
    rcases sound.class_cases own with inside | ⟨side, entry, inside, rfl⟩
    · rcases sound.names name inside with ⟨other, mem⟩
      exact (class_plain other name mem).1
    · exact (table_names side entry inside).2.1
  have named (name : JsText) (mem : name ∈ mark.classes) :
      name ∈ (state.spanOf text).className.splitOn 0x20 ↔ name ∈ state.classes :=
    mem_splitOn_join plain (class_plain mark name mem).2
  constructor
  · intro shows
    rcases exists_class mark with ⟨name, mem, own⟩
    rcases sound.class_cases ((named name mem).1 (shows name mem)) with inside | ⟨side, entry, inside, rfl⟩
    · exact sound.whole mark name mem inside
    · exact absurd own (table_names side entry inside).2.2
  · intro present name mem
    rw [named name mem, classes, mem_append, mem_append]
    exact Or.inl (Or.inl (present name mem))

end AnsiState

end Synapse.Markdown
