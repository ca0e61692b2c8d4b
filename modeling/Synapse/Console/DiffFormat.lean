import Synapse.Console.GitDiff

/-!
# The unified diff format

A diff of one file is written as header lines and hunks, and `parseUnifiedDiff` reads it back. Carriage
returns before a newline are not kept, and a hunk header is not seen when its heading has a line
terminator: the hunks are read exactly when no line of the diff has such an end or such a heading.
-/

namespace Synapse.Console

open List

/-! ### The format -/

structure FormatLine where
  type : DiffLineType
  text : JsText
  /-- A context line without a text may be written without its space. -/
  bare : Bool := false
  /-- What follows the backslash of the marker after the line. -/
  marker : Option JsText := none
  deriving DecidableEq

structure FormatHunk where
  oldStart : ℕ
  oldCount : ℕ
  newStart : ℕ
  newCount : ℕ
  /-- A count of one may be left out. -/
  oldShown : Bool := true
  newShown : Bool := true
  heading : Option JsText := none
  lines : List FormatLine
  deriving DecidableEq

structure UnifiedDiff where
  header : List JsText
  hunks : List FormatHunk
  deriving DecidableEq

def markOf : DiffLineType → UInt16
  | .context => 0x20
  | .addition => 0x2B
  | .deletion => 0x2D

def FormatLine.raw (line : FormatLine) : JsText :=
  if line.bare then [] else markOf line.type :: line.text

def FormatLine.markerLine (line : FormatLine) : List JsText :=
  (line.marker.map fun text => 0x5C :: text).toList

def FormatLine.written (line : FormatLine) : List JsText := line.raw :: line.markerLine

def rangeText (start count : ℕ) (shown : Bool) : JsText :=
  JsText.ofNat start ++ if shown then JsText.ofString "," ++ JsText.ofNat count else []

def FormatHunk.headingText (hunk : FormatHunk) : JsText :=
  match hunk.heading with
  | none => []
  | some heading => 0x20 :: heading

def FormatHunk.rawHeader (hunk : FormatHunk) : JsText :=
  JsText.ofString "@@ -" ++ (rangeText hunk.oldStart hunk.oldCount hunk.oldShown ++
    (JsText.ofString " +" ++ (rangeText hunk.newStart hunk.newCount hunk.newShown ++
      (JsText.ofString " @@" ++ hunk.headingText))))

def FormatHunk.written (hunk : FormatHunk) : List JsText :=
  hunk.rawHeader :: hunk.lines.flatMap FormatLine.written

def UnifiedDiff.written (diff : UnifiedDiff) : List JsText :=
  diff.header ++ diff.hunks.flatMap FormatHunk.written

/-- The text of a diff. -/
def UnifiedDiff.text (diff : UnifiedDiff) : JsText := diff.written.flatMap (· ++ [newline])

structure FormatLine.Valid (line : FormatLine) : Prop where
  text : newline ∉ line.text
  marker : ∀ text ∈ line.marker, newline ∉ text
  bare : line.bare = true → line.type = .context ∧ line.text = []

structure FormatHunk.Valid (hunk : FormatHunk) : Prop where
  lines : ∀ line ∈ hunk.lines, line.Valid
  heading : ∀ text ∈ hunk.heading, newline ∉ text
  old_count : hunk.oldCount = hunk.lines.countP fun line => line.type ≠ .addition
  new_count : hunk.newCount = hunk.lines.countP fun line => line.type ≠ .deletion
  old_shown : hunk.oldShown = false → hunk.oldCount = 1
  new_shown : hunk.newShown = false → hunk.newCount = 1

/-- A diff of one file; its header lines are before the first hunk header. -/
structure UnifiedDiff.Valid (diff : UnifiedDiff) : Prop where
  header : ∀ line ∈ diff.header, newline ∉ line ∧ ¬ JsText.ofString "@@ -" <+: line
  hunks : ∀ hunk ∈ diff.hunks, hunk.Valid

/-! ### What is read back -/

structure LineView where
  type : DiffLineType
  rawText : JsText
  text : JsText
  noNewline : Bool
  deriving DecidableEq

structure HunkView where
  oldStart : ℕ
  oldCount : ℕ
  newStart : ℕ
  newCount : ℕ
  heading : JsText
  rawHeader : JsText
  lines : List LineView
  deriving DecidableEq

def DiffLine.view (line : DiffLine) : LineView where
  type := line.type
  rawText := line.rawText
  text := line.text
  noNewline := line.noNewline

def DiffHunk.view (hunk : DiffHunk) : HunkView where
  oldStart := hunk.oldStart
  oldCount := hunk.oldCount
  newStart := hunk.newStart
  newCount := hunk.newCount
  heading := hunk.heading
  rawHeader := hunk.rawHeader
  lines := hunk.lines.map DiffLine.view

def FormatLine.view (line : FormatLine) : LineView where
  type := line.type
  rawText := line.raw
  text := line.text
  noNewline := line.marker.isSome

def FormatHunk.view (hunk : FormatHunk) : HunkView where
  oldStart := hunk.oldStart
  oldCount := hunk.oldCount
  newStart := hunk.newStart
  newCount := hunk.newCount
  heading := JsText.trim (hunk.heading.getD [])
  rawHeader := hunk.rawHeader
  lines := hunk.lines.map FormatLine.view

/-- The number of lines of a type. -/
def UnifiedDiff.total (diff : UnifiedDiff) (type : DiffLineType) : ℕ :=
  (diff.hunks.map fun hunk => hunk.lines.countP fun line => line.type = type).sum

/-- The parser inverts the format, and split rows have both sides of a hunk in order. -/
structure Inverts (diff : UnifiedDiff) : Prop where
  header : (parseUnifiedDiff diff.text).headerLines = diff.header
  hunks : (parseUnifiedDiff diff.text).hunks.map DiffHunk.view = diff.hunks.map FormatHunk.view
  old_numbers : ∀ hunk ∈ (parseUnifiedDiff diff.text).hunks,
    hunk.lines.filterMap (·.oldLineNumber) = List.range' hunk.oldStart hunk.oldCount
  new_numbers : ∀ hunk ∈ (parseUnifiedDiff diff.text).hunks,
    hunk.lines.filterMap (·.newLineNumber) = List.range' hunk.newStart hunk.newCount
  numbered : ∀ hunk ∈ (parseUnifiedDiff diff.text).hunks, ∀ line ∈ hunk.lines,
    (line.oldLineNumber = none ↔ line.type = .addition) ∧
      (line.newLineNumber = none ↔ line.type = .deletion)
  added : (parseUnifiedDiff diff.text).addedCount = diff.total .addition
  removed : (parseUnifiedDiff diff.text).removedCount = diff.total .deletion
  left : ∀ hunk : DiffHunk, (buildSplitHunkRows hunk).filterMap (·.left) =
    hunk.lines.filter fun line => line.type ≠ .addition
  right : ∀ hunk : DiffHunk, (buildSplitHunkRows hunk).filterMap (·.right) =
    hunk.lines.filter fun line => line.type ≠ .deletion

/-- No line ends in a carriage return, and no heading has a line terminator. -/
structure UnifiedDiff.Plain (diff : UnifiedDiff) : Prop where
  header : ∀ line ∈ diff.header, line.getLast? ≠ some carriageReturn
  headings : ∀ hunk ∈ diff.hunks, ∀ text ∈ hunk.heading, text.any isLineTerminator = false
  lines : ∀ hunk ∈ diff.hunks, ∀ line ∈ hunk.lines, line.text.getLast? ≠ some carriageReturn

/-! ### Lines -/

/-- A line without the carriage return at its end. -/
def stripReturn (line : JsText) : JsText :=
  if line.getLast? = some carriageReturn then line.dropLast else line

variable {line : JsText}

theorem stripReturn_eq_self :
    stripReturn line = line ↔ line.getLast? ≠ some carriageReturn := by
  rw [stripReturn]
  split
  · rename_i ended
    refine ⟨fun same => ?_, fun other => absurd ended other⟩
    have filled : line ≠ [] := by
      rintro rfl
      cases ended
    have shorter := congrArg List.length same
    rw [length_dropLast] at shorter
    have size := length_pos_iff.2 filled
    omega
  · rename_i other
    exact iff_of_true rfl other

theorem normalizeEndings_cons (unit : UInt16) (rest : JsText) : normalizeEndings (unit :: rest) =
    if unit = carriageReturn ∧ rest.head? = some newline then
      newline :: normalizeEndings rest.tail
    else unit :: normalizeEndings rest := by
  rw [normalizeEndings.eq_def]
  split
  · rename_i rest shape
    cases shape
    rw [if_pos ⟨rfl, rfl⟩]
    rfl
  · rename_i first rest other shape
    cases shape
    rw [if_neg]
    rintro ⟨rfl, head⟩
    rcases head?_eq_some_iff.1 head with ⟨after, rfl⟩
    exact other after rfl rfl
  · rename_i shape
    cases shape

/-- A line ends at its newline, without a carriage return before it. -/
theorem normalizeEndings_line (single : newline ∉ line) (rest : JsText) :
    normalizeEndings (line ++ newline :: rest) =
      stripReturn line ++ newline :: normalizeEndings rest := by
  induction line with
  | nil =>
    rw [nil_append, normalizeEndings_cons, if_neg fun both => absurd both.1 (by decide)]
    rfl
  | cons unit line ih =>
    rw [mem_cons, not_or] at single
    cases line with
    | nil =>
      rw [cons_append, nil_append, normalizeEndings_cons]
      by_cases ended : unit = carriageReturn
      · rw [if_pos ⟨ended, rfl⟩, ended]
        rfl
      · have kept : stripReturn [unit] = [unit] :=
          stripReturn_eq_self.2 fun last => ended (Option.some.inj last)
        rw [if_neg fun both => ended both.1, kept]
        exact congrArg (unit :: ·) (ih not_mem_nil)
    | cons next line =>
      have head : ¬ (unit = carriageReturn ∧
          (next :: line ++ newline :: rest).head? = some newline) := by
        rintro ⟨_, found⟩
        exact single.2 (Option.some.inj found ▸ mem_cons_self)
      have strip : stripReturn (unit :: next :: line) = unit :: stripReturn (next :: line) := by
        rw [stripReturn, stripReturn, getLast?_cons_cons, dropLast_cons_cons]
        split <;> rfl
      rw [cons_append, normalizeEndings_cons, if_neg head, ih single.2, strip]
      rfl

variable {lines : List JsText}

theorem normalizeEndings_lines (single : ∀ line ∈ lines, newline ∉ line) :
    normalizeEndings (lines.flatMap (· ++ [newline])) =
      (lines.map stripReturn).flatMap (· ++ [newline]) := by
  induction lines with
  | nil => rfl
  | cons line lines ih =>
    rw [flatMap_cons, append_assoc, singleton_append,
      normalizeEndings_line (single line mem_cons_self),
      ih fun other present => single other (mem_cons_of_mem _ present), map_cons,
      flatMap_cons, append_assoc]
    rfl

theorem splitOn_lines (single : ∀ line ∈ lines, newline ∉ line) :
    (lines.flatMap (· ++ [newline])).splitOn newline = lines ++ [[]] := by
  have joined : lines.flatMap (· ++ [newline]) = [newline].intercalate (lines ++ [[]]) := by
    clear single
    induction lines with
    | nil => rfl
    | cons line lines ih =>
      rcases exists_cons_of_ne_nil
        (append_ne_nil_of_right_ne_nil lines (cons_ne_nil ([] : JsText) [])) with
        ⟨first, rest, shape⟩
      rw [flatMap_cons, ih, cons_append, shape, List.intercalate, List.intercalate,
        intersperse_cons_cons, flatten_cons, flatten_cons, append_assoc]
  rw [joined]
  refine splitOn_intercalate newline ?_ (append_ne_nil_of_right_ne_nil _ (cons_ne_nil _ _))
  intro line present
  rcases mem_append.1 present with present | present
  · exact single line present
  · rw [mem_singleton.1 present]
    exact not_mem_nil

theorem newline_notMem_strip (single : newline ∉ line) : newline ∉ stripReturn line := by
  rw [stripReturn]
  split
  · exact fun present => single (dropLast_subset line present)
  · exact single

/-- The lines of a text, without carriage returns before the newlines. -/
theorem rawLines_lines (single : ∀ line ∈ lines, newline ∉ line) :
    rawLines (lines.flatMap (· ++ [newline])) = lines.map stripReturn := by
  have stripped : ∀ line ∈ lines.map stripReturn, newline ∉ line := by
    intro line present
    rcases mem_map.1 present with ⟨own, inside, rfl⟩
    exact newline_notMem_strip (single own inside)
  rw [rawLines, normalizeEndings_lines single]
  cases lines with
  | nil => rfl
  | cons line lines =>
    have filled : ((line :: lines).map stripReturn).flatMap (· ++ [newline]) ≠ [] := by
      rw [map_cons, flatMap_cons]
      exact append_ne_nil_of_left_ne_nil
        (append_ne_nil_of_right_ne_nil _ (cons_ne_nil _ _)) _
    rw [if_neg filled, splitOn_lines stripped, getLast?_concat, if_pos rfl, dropLast_concat]

/-! ### Hunk headers -/

theorem afterLiteral_append (literal : String) (rest : JsText) :
    afterLiteral literal (JsText.ofString literal ++ rest) = some rest := by
  rw [afterLiteral, if_pos (prefix_append _ _), drop_left]

theorem digit_of_ofNat {value : ℕ} {unit : UInt16} (present : unit ∈ JsText.ofNat value) :
    isDigitUnit unit = true := by
  have bounds := JsText.mem_ofNat present
  rw [isDigitUnit, decide_eq_true bounds.1, decide_eq_true bounds.2]
  rfl

theorem ofNat_eq_map (value : ℕ) :
    JsText.ofNat value = (Nat.toDigits 10 value).map fun digit => .ofNat digit.toNat := by
  rw [JsText.ofNat, JsText.ofString, Utf16.encode, Nat.toList_repr, ← flatMap_pure_eq_map]
  exact flatMap_congr fun digit present =>
    JsText.units_digit (Nat.isDigit_of_mem_toDigits (by decide) (by decide) present)

theorem ofNat_ne_nil (value : ℕ) : JsText.ofNat value ≠ [] := by
  rw [ofNat_eq_map, ne_eq, map_eq_nil_iff]
  exact Nat.toDigits_ne_nil

theorem decimal_ofNat (value : ℕ) : decimal (JsText.ofNat value) = value := by
  have digits : ∀ digit ∈ Nat.toDigits 10 value, (UInt16.ofNat digit.toNat).toNat = digit.toNat := by
    intro digit present
    have own := Nat.isDigit_of_mem_toDigits (by decide) (by decide) present
    rw [Char.isDigit, Bool.and_eq_true, decide_eq_true_eq, decide_eq_true_eq] at own
    have most : digit.toNat ≤ 57 := UInt32.le_iff_toNat_le.1 own.2
    exact JsText.toNat_ofNat_small (by omega)
  rw [ofNat_eq_map, decimal, foldl_map]
  refine Eq.trans ?_ (@Nat.ofDigitChars_ten_toDigits value)
  rw [Nat.ofDigitChars_eq_foldl]
  refine foldl_ext _ _ _ fun total digit present => ?_
  rw [digits digit present]
  rfl

theorem afterNumber_ofNat (value : ℕ) {rest : JsText}
    (stops : ∀ unit ∈ rest.head?, isDigitUnit unit = false) :
    afterNumber (JsText.ofNat value ++ rest) = some (value, rest) := by
  have digits : ∀ unit ∈ JsText.ofNat value, isDigitUnit unit = true :=
    fun unit present => digit_of_ofNat present
  have none_left : rest.takeWhile isDigitUnit = [] ∧ rest.dropWhile isDigitUnit = rest := by
    cases rest with
    | nil => exact ⟨rfl, rfl⟩
    | cons unit rest =>
      have stop := Bool.eq_false_iff.1 (stops unit rfl)
      exact ⟨takeWhile_cons_of_neg stop, dropWhile_cons_of_neg stop⟩
  rw [afterNumber, takeWhile_append_of_pos digits, dropWhile_append_of_pos digits,
    none_left.1, none_left.2, append_nil]
  rw [if_neg (ofNat_ne_nil value), decimal_ofNat]

theorem afterCount_shown (count : ℕ) {rest : JsText}
    (stops : ∀ unit ∈ rest.head?, isDigitUnit unit = false) :
    afterCount (JsText.ofString "," ++ (JsText.ofNat count ++ rest)) = (some count, rest) := by
  rw [afterCount, afterLiteral_append, Option.bind_some, afterNumber_ofNat count stops]

theorem afterNumber_rangeText (start count : ℕ) (shown : Bool) (rest : JsText) :
    afterNumber (rangeText start count shown ++ 0x20 :: rest) =
      some (start, (if shown then JsText.ofString "," ++ JsText.ofNat count else []) ++ 0x20 :: rest) := by
  rw [rangeText, append_assoc]
  refine afterNumber_ofNat start ?_
  cases shown with
  | true =>
    rintro unit ⟨⟩
    rfl
  | false =>
    rintro unit ⟨⟩
    rfl

theorem afterCount_rangeText (count : ℕ) (shown : Bool) (rest : JsText) :
    afterCount ((if shown then JsText.ofString "," ++ JsText.ofNat count else []) ++ 0x20 :: rest) =
      (if shown then some count else none, 0x20 :: rest) := by
  cases shown with
  | true =>
    rw [if_pos rfl, if_pos rfl, append_assoc]
    refine afterCount_shown count ?_
    rintro unit ⟨⟩
    rfl
  | false => rfl

theorem getD_shown {count : ℕ} {shown : Bool} (one : shown = false → count = 1) :
    (if shown then some count else none).getD 1 = count := by
  cases shown with
  | true => rfl
  | false => exact (one rfl).symm

theorem afterLiteral_headingText (hunk : FormatHunk) :
    (afterLiteral " " hunk.headingText).getD hunk.headingText = hunk.heading.getD [] := by
  rw [FormatHunk.headingText]
  cases hunk.heading with
  | none => rfl
  | some heading =>
    have own : afterLiteral " " (0x20 :: heading) = some heading :=
      afterLiteral_append " " heading
    dsimp only
    rw [own]
    rfl

/-- The header of a hunk is seen unless its heading has a line terminator. -/
theorem hunkMatch_rawHeader (hunk : FormatHunk) (valid : hunk.Valid) :
    hunkMatch hunk.rawHeader = if hunk.headingText.any isLineTerminator then none
      else some
        { oldStart := hunk.oldStart, oldCount := hunk.oldCount, newStart := hunk.newStart
          newCount := hunk.newCount, heading := hunk.heading.getD [] } := by
  have plus : ∀ rest, JsText.ofString " +" ++ rest = 0x20 :: 0x2B :: rest := fun rest => rfl
  have ats : ∀ rest, JsText.ofString " @@" ++ rest = 0x20 :: 0x40 :: 0x40 :: rest := fun rest => rfl
  have second := afterLiteral_append " +" (rangeText hunk.newStart hunk.newCount hunk.newShown ++
    (JsText.ofString " @@" ++ hunk.headingText))
  have third := afterLiteral_append " @@" hunk.headingText
  rw [hunkMatch, FormatHunk.rawHeader, afterLiteral_append]
  rw [plus, ats] at second ⊢
  rw [ats] at third
  simp only [Option.bind_eq_bind, Option.bind_some, afterNumber_rangeText, afterCount_rangeText, second,
    third, getD_shown valid.old_shown, getD_shown valid.new_shown, afterLiteral_headingText]

/-- A line that does not start as a hunk header does is none. -/
theorem hunkMatch_eq_none (other : ¬ JsText.ofString "@@ -" <+: line) :
    hunkMatch line = none := by
  rw [hunkMatch, afterLiteral]
  dsimp only
  rw [if_neg other]
  rfl

end Synapse.Console
