import Synapse.Console.DiffFormat

/-!
# Reading unified diffs back

A line of a written diff is one step of the parser, so its hunks are read one after another. Each step
adds one line to what was read before, and the lines that were read show which lines were not kept.
-/

namespace Synapse.Console

open List

/-! ### Split rows -/

variable {α : Type}

theorem filterMap_range {list : List α} {count : ℕ} (enough : list.length ≤ count) :
    (List.range count).filterMap (fun i => list[i]?) = list := by
  have start : ∀ n, (List.range n).filterMap (fun i => list[i]?) = list.take n := by
    intro n
    induction n with
    | zero => rfl
    | succ n ih =>
      rw [range_succ, filterMap_append, ih, take_add_one]
      refine congrArg (list.take n ++ ·) ?_
      cases found : list[n]? with
      | none => rw [filterMap_cons_none found]; rfl
      | some entry => rw [filterMap_cons_some found]; rfl
  rw [start, take_of_length_le enough]

theorem type_of_takeWhile {type : DiffLineType} {lines : List DiffLine} {line : DiffLine}
    (present : line ∈ lines.takeWhile (isType type)) : line.type = type := by
  have own : isType type line = true := mem_takeWhile_imp present
  exact of_decide_eq_true own

/-- The lines that are not of a type, after a run of deleted and one of added lines. -/
theorem filter_runs (lines : List DiffLine) :
    lines.filter (fun line => line.type ≠ .addition) = lines.takeWhile (isType .deletion) ++
      ((lines.dropWhile (isType .deletion)).dropWhile (isType .addition)).filter
        (fun line => line.type ≠ .addition) ∧
    lines.filter (fun line => line.type ≠ .deletion) =
      (lines.dropWhile (isType .deletion)).takeWhile (isType .addition) ++
      ((lines.dropWhile (isType .deletion)).dropWhile (isType .addition)).filter
        (fun line => line.type ≠ .deletion) := by
  have parts : lines = lines.takeWhile (isType .deletion) ++
      ((lines.dropWhile (isType .deletion)).takeWhile (isType .addition) ++
        (lines.dropWhile (isType .deletion)).dropWhile (isType .addition)) := by
    rw [takeWhile_append_dropWhile, takeWhile_append_dropWhile]
  have deleted : ∀ line ∈ lines.takeWhile (isType .deletion), line.type = .deletion :=
    fun line present => type_of_takeWhile present
  have added : ∀ line ∈ (lines.dropWhile (isType .deletion)).takeWhile (isType .addition),
      line.type = .addition := fun line present => type_of_takeWhile present
  constructor
  · conv_lhs => rw [parts]
    rw [filter_append, filter_append, filter_eq_self.2, filter_eq_nil_iff.2,
      nil_append]
    · intro line present
      rw [added line present]
      decide
    · intro line present
      rw [deleted line present]
      decide
  · conv_lhs => rw [parts]
    rw [filter_append, filter_append, filter_eq_nil_iff.2, filter_eq_self.2,
      nil_append]
    · intro line present
      rw [added line present]
      decide
    · intro line present
      rw [deleted line present]
      decide

theorem runs_ne_zero {line : DiffLine} (lines : List DiffLine) (other : line.type ≠ .context) :
    max ((line :: lines).takeWhile (isType .deletion)).length
      (((line :: lines).dropWhile (isType .deletion)).takeWhile (isType .addition)).length ≠ 0 := by
  cases type : line.type with
  | context => exact absurd type other
  | deletion =>
    have own : isType .deletion line = true := decide_eq_true type
    rw [takeWhile_cons_of_pos own, length_cons]
    omega
  | addition =>
    have kept : ¬ isType .deletion line = true := by
      rw [isType, type]
      decide
    have own : isType .addition line = true := decide_eq_true type
    rw [dropWhile_cons_of_neg kept, takeWhile_cons_of_pos own, length_cons]
    omega

/-- The columns of split rows are the two sides of the lines, in order. -/
theorem columns_splitRows (hunkId : JsText) (rowId : ℕ) (lines : List DiffLine) :
    (splitRows hunkId rowId lines).filterMap (·.left) =
      lines.filter (fun line => line.type ≠ .addition) ∧
    (splitRows hunkId rowId lines).filterMap (·.right) =
      lines.filter (fun line => line.type ≠ .deletion) := by
  fun_induction splitRows hunkId rowId lines with
  | case1 rowId => exact ⟨rfl, rfl⟩
  | case2 rowId line lines same ih =>
    rw [filter_cons_of_pos, filter_cons_of_pos, ← ih.1, ← ih.2]
    · exact ⟨rfl, rfl⟩
    · rw [same]
      decide
    · rw [same]
      decide
  | case3 rowId line lines other deletions rest additions count empty ih =>
    exact absurd empty (runs_ne_zero lines other)
  | case4 rowId line lines other deletions rest additions count filled ih =>
    have runs := filter_runs (line :: lines)
    rw [filterMap_append, filterMap_append, ih.1, ih.2, runs.1, runs.2,
      filterMap_map, filterMap_map]
    exact ⟨congrArg (· ++ _) (filterMap_range (le_max_left _ _)),
      congrArg (· ++ _) (filterMap_range (le_max_right _ _))⟩

/-! ### Word parts -/

/-- A line without its word parts. -/
def DiffLine.plain (line : DiffLine) : DiffLine := { line with wordParts := none }

theorem map_plain_withParts (parts : JsText → JsText → List DiffWordPart) (lines partners : List DiffLine) :
    (withParts parts lines partners).map DiffLine.plain = lines.map DiffLine.plain := by
  fun_induction withParts parts lines partners with
  | case1 line lines partner partners ih => exact congrArg (line.plain :: ·) ih
  | case2 lines partners other => rfl

theorem map_plain_pairLines (lines : List DiffLine) :
    (pairLines lines).map DiffLine.plain = lines.map DiffLine.plain := by
  fun_induction pairLines lines with
  | case1 => rfl
  | case2 line lines same deletions rest additions ih =>
    rw [map_append, map_append, map_plain_withParts, map_plain_withParts, ih,
      ← map_append, takeWhile_append_dropWhile, ← map_append, cons_append,
      takeWhile_append_dropWhile]
  | case3 line lines other ih => rw [map_cons, map_cons, ih]

/-! ### The lines of a hunk -/

/-- What is read of a line and its marker. -/
def FormatLine.read (line : FormatLine) : List JsText :=
  line.raw :: (line.marker.map fun text => stripReturn (0x5C :: text)).toList

/-- The line that is read at some numbers. -/
def FormatLine.built (line : FormatLine) (old new counter : ℕ) : DiffLine where
  id := JsText.ofString "line-" ++ JsText.ofNat (counter + 1)
  type := line.type
  oldLineNumber := if line.type = .addition then none else some old
  newLineNumber := if line.type = .deletion then none else some new
  text := line.text
  rawText := line.raw
  noNewline := line.marker.isSome

/-- The lines of a type, or of another one, in a line. -/
def FormatLine.one (line : FormatLine) (holds : DiffLineType → Bool) : ℕ := if holds line.type then 1 else 0

def notType (type other : DiffLineType) : Bool := other ≠ type

/-- The state after a line of its last hunk. -/
def DiffState.added (state : DiffState) (before : List DiffHunk) (hunk : DiffHunk)
    (lines : List DiffLine) (count : (DiffLineType → Bool) → ℕ) (read : ℕ) : DiffState :=
  { state with
    hunks := before ++ [{ hunk with lines := hunk.lines ++ lines }]
    oldLine := state.oldLine + count (notType .addition)
    newLine := state.newLine + count (notType .deletion)
    lineCounter := state.lineCounter + read
    addedCount := state.addedCount + count (· = .addition)
    removedCount := state.removedCount + count (· = .deletion) }

theorem onLines_concat (change : List DiffLine → List DiffLine) (before : List DiffHunk) (hunk : DiffHunk) :
    onLines change (before ++ [hunk]) = before ++ [{ hunk with lines := change hunk.lines }] :=
  modifyLast_concat _ _ _

variable {line : FormatLine}

theorem raw_head (valid : line.Valid) : line.raw.headD 0x20 = markOf line.type := by
  rw [FormatLine.raw]
  split
  · rename_i bare
    rw [(valid.bare bare).1]
    rfl
  · rfl

theorem raw_drop (valid : line.Valid) : line.raw.drop 1 = line.text := by
  rw [FormatLine.raw]
  split
  · rename_i bare
    exact (valid.bare bare).2.symm
  · rfl

theorem hunkMatch_raw (line : FormatLine) : hunkMatch line.raw = none := by
  refine hunkMatch_eq_none ?_
  rintro ⟨rest, shape⟩
  have at_sign : line.raw.head? = some 0x40 := by
    rw [← shape]
    rfl
  rw [FormatLine.raw] at at_sign
  split at at_sign
  · cases at_sign
  · have mark : markOf line.type = 0x40 := Option.some.inj at_sign
    cases type : line.type <;> rw [type] at mark <;> exact absurd mark (by decide)

variable {state : DiffState} {before : List DiffHunk}

theorem step_raw (valid : line.Valid) {hunk : DiffHunk} (shape : state.hunks = before ++ [hunk]) :
    state.step line.raw = state.added before hunk
      [{ line.built state.oldLine state.newLine state.lineCounter with noNewline := false }]
      line.one 1 := by
  have filled : state.hunks ≠ [] := by
    rw [shape]
    exact append_ne_nil_of_right_ne_nil _ (cons_ne_nil _ _)
  rw [DiffState.step, hunkMatch_raw]
  dsimp only
  rw [if_neg filled, DiffState.hunkLine, raw_head valid, raw_drop valid, shape]
  dsimp only
  cases type : line.type <;>
    simp [markOf, DiffState.added, FormatLine.one, FormatLine.built, notType, type, onLines_concat]

theorem step_marker (rest : JsText) {hunk : DiffHunk}
    (shape : state.hunks = before ++ [hunk]) : state.step (0x5C :: rest) =
      { state with
        hunks := before ++ [{ hunk with lines := markLast hunk.lines }]
        lineCounter := state.lineCounter + 1 } := by
  have filled : state.hunks ≠ [] := by
    rw [shape]
    exact append_ne_nil_of_right_ne_nil _ (cons_ne_nil _ _)
  have other : hunkMatch (0x5C :: rest) = none := by
    refine hunkMatch_eq_none ?_
    rintro ⟨after, same⟩
    have head := congrArg List.head? same
    exact absurd (Option.some.inj head) (by decide)
  rw [DiffState.step, other]
  dsimp only
  rw [if_neg filled, DiffState.hunkLine, headD_cons, if_neg (by decide), if_neg (by decide),
    if_pos rfl, shape, onLines_concat]

theorem stripReturn_cons {unit : UInt16} (other : unit ≠ carriageReturn) (text : JsText) :
    ∃ rest, stripReturn (unit :: text) = unit :: rest := by
  rw [stripReturn]
  split
  · cases text with
    | nil =>
      rename_i ended
      exact absurd (Option.some.inj ended) other
    | cons next text => exact ⟨(next :: text).dropLast, rfl⟩
  · exact ⟨text, rfl⟩

theorem foldl_read (valid : line.Valid) {hunk : DiffHunk} (shape : state.hunks = before ++ [hunk]) :
    line.read.foldl DiffState.step state = state.added before hunk
      [line.built state.oldLine state.newLine state.lineCounter] line.one line.read.length := by
  rw [FormatLine.read, foldl_cons, step_raw valid shape]
  cases marker : line.marker with
  | none =>
    have plain : line.built state.oldLine state.newLine state.lineCounter =
        { line.built state.oldLine state.newLine state.lineCounter with noNewline := false } := by
      rw [FormatLine.built, marker]
      rfl
    rw [plain]
    rfl
  | some text =>
    rcases stripReturn_cons (show (0x5C : UInt16) ≠ carriageReturn by decide) text with ⟨rest, own⟩
    have marked : line.built state.oldLine state.newLine state.lineCounter =
        { line.built state.oldLine state.newLine state.lineCounter with noNewline := true } := by
      rw [FormatLine.built, marker]
      rfl
    rw [marked, Option.map_some, Option.toList_some, foldl_cons, foldl_nil, own,
      step_marker rest rfl, markLast, modifyLast_concat]
    rfl

/-- The lines that are read from some numbers on. -/
def builtLines (old new counter : ℕ) : List FormatLine → List DiffLine
  | [] => []
  | line :: lines =>
    line.built old new counter ::
      builtLines (old + line.one (notType .addition)) (new + line.one (notType .deletion))
        (counter + line.read.length) lines

def countLines (lines : List FormatLine) (holds : DiffLineType → Bool) : ℕ :=
  lines.countP fun line => holds line.type

theorem countLines_cons (line : FormatLine) (lines : List FormatLine) (holds : DiffLineType → Bool) :
    countLines (line :: lines) holds = line.one holds + countLines lines holds := by
  rw [countLines, countP_cons, Nat.add_comm]
  rfl

variable {lines : List FormatLine}

theorem foldl_lines (valid : ∀ line ∈ lines, line.Valid)
    {hunk : DiffHunk} (shape : state.hunks = before ++ [hunk]) :
    (lines.flatMap FormatLine.read).foldl DiffState.step state = state.added before hunk
      (builtLines state.oldLine state.newLine state.lineCounter lines) (countLines lines)
      (lines.flatMap FormatLine.read).length := by
  induction lines generalizing state hunk with
  | nil =>
    rw [DiffState.added, builtLines, append_nil, ← shape]
    rfl
  | cons line lines ih =>
    rw [flatMap_cons, foldl_append, foldl_read (valid line mem_cons_self) shape,
      ih (fun other present => valid other (mem_cons_of_mem _ present)) rfl]
    simp only [DiffState.added, builtLines, countLines_cons, length_append, append_assoc,
      cons_append, nil_append, Nat.add_assoc]

theorem map_view_builtLines (old new counter : ℕ) (lines : List FormatLine) :
    (builtLines old new counter lines).map DiffLine.view = lines.map FormatLine.view := by
  induction lines generalizing old new counter with
  | nil => rfl
  | cons line lines ih =>
    rw [builtLines, map_cons, map_cons, ih]
    rfl

theorem numbers_builtLines {number : DiffLine → Option ℕ} {other : DiffLineType}
    (start : ℕ → ℕ → ℕ)
    (built : ∀ (line : FormatLine) (old new counter : ℕ), number (line.built old new counter) =
      if line.type = other then none else some (start old new))
    (next : ∀ (line : FormatLine) (old new : ℕ), start (old + line.one (notType .addition))
      (new + line.one (notType .deletion)) = start old new + line.one (notType other))
    (old new counter : ℕ) (lines : List FormatLine) :
    (builtLines old new counter lines).filterMap number =
      List.range' (start old new) (countLines lines (notType other)) := by
  induction lines generalizing old new counter with
  | nil => rfl
  | cons line lines ih =>
    rw [builtLines, countLines_cons]
    by_cases type : line.type = other
    · have none_added : line.one (notType other) = 0 := by
        rw [FormatLine.one, type]
        cases other <;> rfl
      rw [filterMap_cons_none, ih, next, none_added, Nat.add_zero, Nat.zero_add]
      rw [built, if_pos type]
    · have one_added : line.one (notType other) = 1 := if_pos (decide_eq_true type)
      rw [filterMap_cons_some (b := start old new), ih, next, one_added, Nat.add_comm 1, range'_succ]
      rw [built, if_neg type]

theorem numbered_builtLines {old new counter : ℕ} :
    ∀ line ∈ builtLines old new counter lines,
      (line.oldLineNumber = none ↔ line.type = .addition) ∧
        (line.newLineNumber = none ↔ line.type = .deletion) := by
  induction lines generalizing old new counter with
  | nil => exact fun line present => absurd present not_mem_nil
  | cons first lines ih =>
    intro line present
    rcases mem_cons.1 present with rfl | later
    · rw [FormatLine.built]
      exact ⟨ite_eq_left_iff.trans (by simp), ite_eq_left_iff.trans (by simp)⟩
    · exact ih line later

/-! ### Hunks -/

def FormatHunk.read (hunk : FormatHunk) : List JsText :=
  hunk.rawHeader :: hunk.lines.flatMap FormatLine.read

/-- The hunk that is read after some hunks and lines. -/
def FormatHunk.built (hunk : FormatHunk) (index counter : ℕ) : DiffHunk where
  id := JsText.ofString "hunk-" ++ JsText.ofNat index
  oldStart := hunk.oldStart
  oldCount := hunk.oldCount
  newStart := hunk.newStart
  newCount := hunk.newCount
  heading := JsText.trim (hunk.heading.getD [])
  rawHeader := hunk.rawHeader
  lines := builtLines hunk.oldStart hunk.newStart counter hunk.lines

variable {hunk : FormatHunk}

theorem foldl_hunk (valid : hunk.Valid)
    (plain : hunk.headingText.any isLineTerminator = false) (state : DiffState) :
    let after := hunk.read.foldl DiffState.step state
    after.headerLines = state.headerLines ∧
      after.hunks = state.hunks ++ [hunk.built state.hunks.length state.lineCounter] ∧
      after.addedCount = state.addedCount + countLines hunk.lines (· = .addition) ∧
      after.removedCount = state.removedCount + countLines hunk.lines (· = .deletion) ∧
      after.lineCounter = state.lineCounter + (hunk.lines.flatMap FormatLine.read).length := by
  intro after
  have seen := hunkMatch_rawHeader hunk valid
  rw [if_neg (Bool.eq_false_iff.1 plain)] at seen
  have opened : state.step hunk.rawHeader = state.openHunk hunk.rawHeader
      { oldStart := hunk.oldStart, oldCount := hunk.oldCount, newStart := hunk.newStart
        newCount := hunk.newCount, heading := hunk.heading.getD [] } := by
    rw [DiffState.step, seen]
  have read : after = (hunk.lines.flatMap FormatLine.read).foldl DiffState.step
      (state.step hunk.rawHeader) := rfl
  rw [read, opened, foldl_lines valid.lines rfl]
  exact ⟨rfl, rfl, rfl, rfl, rfl⟩

def builtHunks (index counter : ℕ) : List FormatHunk → List DiffHunk
  | [] => []
  | hunk :: hunks =>
    hunk.built index counter ::
      builtHunks (index + 1) (counter + (hunk.lines.flatMap FormatLine.read).length) hunks

variable {hunks : List FormatHunk}

theorem foldl_hunks (valid : ∀ hunk ∈ hunks, hunk.Valid)
    (plain : ∀ hunk ∈ hunks, hunk.headingText.any isLineTerminator = false) (state : DiffState) :
    let after := (hunks.flatMap FormatHunk.read).foldl DiffState.step state
    after.headerLines = state.headerLines ∧
      after.hunks = state.hunks ++ builtHunks state.hunks.length state.lineCounter hunks ∧
      after.addedCount = state.addedCount +
        (hunks.map fun hunk => countLines hunk.lines (· = .addition)).sum ∧
      after.removedCount = state.removedCount +
        (hunks.map fun hunk => countLines hunk.lines (· = .deletion)).sum := by
  induction hunks generalizing state with
  | nil => exact ⟨rfl, (append_nil _).symm, rfl, rfl⟩
  | cons hunk hunks ih =>
    intro after
    have one := foldl_hunk (valid hunk mem_cons_self) (plain hunk mem_cons_self) state
    have others := ih (fun other present => valid other (mem_cons_of_mem _ present))
      (fun other present => plain other (mem_cons_of_mem _ present))
      (hunk.read.foldl DiffState.step state)
    have parts : after = (hunks.flatMap FormatHunk.read).foldl DiffState.step
        (hunk.read.foldl DiffState.step state) := foldl_append
    dsimp only at one others
    rw [parts, others.1, others.2.1, others.2.2.1, others.2.2.2, one.1, one.2.1, one.2.2.1, one.2.2.2.1,
      one.2.2.2.2]
    refine ⟨rfl, ?_, ?_, ?_⟩
    · rw [append_assoc, length_append]
      rfl
    · rw [map_cons, sum_cons, Nat.add_assoc]
    · rw [map_cons, sum_cons, Nat.add_assoc]

theorem foldl_header {lines : List JsText} (other : ∀ line ∈ lines, hunkMatch line = none)
    {state : DiffState} (none_open : state.hunks = []) :
    let after := lines.foldl DiffState.step state
    after.headerLines = state.headerLines ++ lines ∧ after.hunks = [] ∧
      after.addedCount = state.addedCount ∧ after.removedCount = state.removedCount ∧
      after.lineCounter = state.lineCounter := by
  induction lines generalizing state with
  | nil => exact ⟨(append_nil _).symm, none_open, rfl, rfl, rfl⟩
  | cons line lines ih =>
    intro after
    have one : state.step line = state.header line := by
      rw [DiffState.step, other line mem_cons_self]
      exact if_pos none_open
    have kept : (state.header line).headerLines = state.headerLines ++ [line] ∧
        (state.header line).hunks = state.hunks ∧
        (state.header line).addedCount = state.addedCount ∧
        (state.header line).removedCount = state.removedCount ∧
        (state.header line).lineCounter = state.lineCounter := by
      rw [DiffState.header]
      dsimp only
      split
      · exact ⟨rfl, rfl, rfl, rfl, rfl⟩
      · split <;> exact ⟨rfl, rfl, rfl, rfl, rfl⟩
    have others := ih (fun other' present => other other' (mem_cons_of_mem _ present))
      (kept.2.1.trans none_open)
    have parts : after = lines.foldl DiffState.step (state.header line) := by
      rw [← one]
      rfl
    dsimp only at others
    rw [parts, others.1, others.2.1, others.2.2.1, others.2.2.2.1, others.2.2.2.2, kept.1,
      kept.2.2.1, kept.2.2.2.1, kept.2.2.2.2, append_assoc]
    exact ⟨rfl, rfl, rfl, rfl, rfl⟩

/-! ### The lines of a diff -/

variable {diff : UnifiedDiff}

theorem newline_notMem_ofNat (value : ℕ) : newline ∉ JsText.ofNat value := by
  intro present
  exact absurd (JsText.mem_ofNat present).1 (by decide)

theorem newline_notMem_rangeText (start count : ℕ) (shown : Bool) :
    newline ∉ rangeText start count shown := by
  rw [rangeText, mem_append, not_or]
  refine ⟨newline_notMem_ofNat start, ?_⟩
  cases shown with
  | false => exact not_mem_nil
  | true =>
    rw [if_pos rfl, mem_append, not_or]
    exact ⟨by decide, newline_notMem_ofNat count⟩

theorem FormatHunk.Valid.header (valid : hunk.Valid) : newline ∉ hunk.rawHeader := by
  have heading : newline ∉ hunk.headingText := by
    rw [FormatHunk.headingText]
    cases text : hunk.heading with
    | none => exact not_mem_nil
    | some own =>
      rw [mem_cons, not_or]
      exact ⟨by decide, valid.heading own text⟩
  simp only [FormatHunk.rawHeader, mem_append, not_or]
  exact ⟨by decide, newline_notMem_rangeText _ _ _, by decide, newline_notMem_rangeText _ _ _,
    by decide, heading⟩

theorem FormatLine.Valid.written {line : FormatLine} (valid : line.Valid) :
    ∀ raw ∈ line.written, newline ∉ raw := by
  intro raw present
  rcases mem_cons.1 present with rfl | present
  · rw [FormatLine.raw]
    split
    · exact not_mem_nil
    · rw [mem_cons, not_or]
      refine ⟨?_, valid.text⟩
      cases line.type <;> decide
  · rw [FormatLine.markerLine, Option.mem_toList, Option.map_eq_some_iff] at present
    rcases present with ⟨text, own, rfl⟩
    rw [mem_cons, not_or]
    exact ⟨by decide, valid.marker text own⟩

theorem rawLines_text (valid : diff.Valid) : rawLines diff.text = diff.written.map stripReturn := by
  refine rawLines_lines ?_
  intro raw present
  rcases mem_append.1 present with present | present
  · exact (valid.header raw present).1
  · rcases mem_flatMap.1 present with ⟨hunk, inside, present⟩
    rcases mem_cons.1 present with rfl | present
    · exact (valid.hunks hunk inside).header
    · rcases mem_flatMap.1 present with ⟨line, own, present⟩
      exact ((valid.hunks hunk inside).lines line own).written raw present

theorem getLast?_append_of_filled {before after : JsText} (filled : after ≠ []) :
    (before ++ after).getLast? = after.getLast? := getLast?_append_of_ne_nil before filled

/-- The header of a hunk ends in a carriage return when its heading does. -/
theorem rawHeader_getLast? (hunk : FormatHunk) : hunk.rawHeader.getLast? =
    (JsText.ofString " @@" ++ hunk.headingText).getLast? := by
  have filled : JsText.ofString " @@" ++ hunk.headingText ≠ [] :=
    append_ne_nil_of_left_ne_nil (by decide) _
  rw [FormatHunk.rawHeader, getLast?_append_of_filled, getLast?_append_of_filled,
    getLast?_append_of_filled, getLast?_append_of_filled filled]
  · exact append_ne_nil_of_right_ne_nil _ filled
  · exact append_ne_nil_of_right_ne_nil _ (append_ne_nil_of_right_ne_nil _ filled)
  · exact append_ne_nil_of_right_ne_nil _ (append_ne_nil_of_right_ne_nil _
      (append_ne_nil_of_right_ne_nil _ filled))

theorem strip_rawHeader (plain : hunk.headingText.any isLineTerminator = false) :
    stripReturn hunk.rawHeader = hunk.rawHeader := by
  rw [stripReturn_eq_self, rawHeader_getLast?]
  intro ended
  have present : carriageReturn ∈ JsText.ofString " @@" ++ hunk.headingText :=
    mem_of_mem_getLast? ended
  rcases mem_append.1 present with present | present
  · exact absurd present (by decide)
  · rw [any_eq_false] at plain
    exact plain carriageReturn present (by decide)

theorem raw_getLast? (valid : line.Valid) :
    line.raw.getLast? = some carriageReturn ↔ line.text.getLast? = some carriageReturn := by
  rw [FormatLine.raw]
  split
  · rename_i bare
    rw [(valid.bare bare).2]
  · cases text : line.text with
    | nil =>
      refine iff_of_false (fun ended => ?_) (fun ended => ?_)
      · have mark : markOf line.type = carriageReturn := Option.some.inj ended
        cases type : line.type <;> rw [type] at mark <;> exact absurd mark (by decide)
      · cases ended
    | cons unit rest => rw [getLast?_cons_cons]

theorem strip_raw (valid : line.Valid) :
    stripReturn line.raw = line.raw ↔ line.text.getLast? ≠ some carriageReturn := by
  rw [stripReturn_eq_self, ne_eq, raw_getLast? valid]

theorem headingText_any : hunk.headingText.any isLineTerminator = false ↔
    ∀ text ∈ hunk.heading, text.any isLineTerminator = false := by
  rw [FormatHunk.headingText]
  cases hunk.heading with
  | none => exact iff_of_true rfl fun text present => by cases present
  | some heading =>
    rw [any_cons, Bool.or_eq_false_iff]
    constructor
    · rintro both text ⟨⟩
      exact both.2
    · intro all
      exact ⟨by decide, all heading rfl⟩

theorem strip_written (valid : diff.Valid) (plain : diff.Plain) : diff.written.map stripReturn =
    diff.header ++ diff.hunks.flatMap FormatHunk.read := by
  have header : diff.header.map stripReturn = diff.header := by
    refine (map_congr_left fun line present => ?_).trans (map_id _)
    exact stripReturn_eq_self.2 (plain.header line present)
  have hunks : ∀ hunk ∈ diff.hunks, hunk.written.map stripReturn = hunk.read := by
    intro hunk present
    have own := valid.hunks hunk present
    rw [FormatHunk.written, map_cons, map_flatMap, FormatHunk.read,
      strip_rawHeader (headingText_any.2 (plain.headings hunk present))]
    refine congrArg (hunk.rawHeader :: ·) (flatMap_congr fun line inside => ?_)
    rw [FormatLine.written, map_cons, FormatLine.read,
      (strip_raw (own.lines line inside)).2 (plain.lines hunk present line inside),
      FormatLine.markerLine]
    cases line.marker with
    | none => rfl
    | some text => rfl
  rw [UnifiedDiff.written, map_append, header, map_flatMap, flatMap_congr hunks]

/-! ### Plain diffs are read back -/

theorem map_pairLines {value : DiffLine → α} (same : ∀ line, value line.plain = value line)
    (lines : List DiffLine) : (pairLines lines).map value = lines.map value := by
  have through : ∀ lines : List DiffLine, lines.map value = (lines.map DiffLine.plain).map value := by
    intro lines
    rw [map_map]
    exact map_congr_left fun line _ => (same line).symm
  rw [through, map_plain_pairLines, ← through]

theorem filterMap_pairLines {value : DiffLine → Option α}
    (same : ∀ line, value line.plain = value line) (lines : List DiffLine) :
    (pairLines lines).filterMap value = lines.filterMap value := by
  have mapped := congrArg (List.filterMap id) (map_pairLines same lines)
  rw [filterMap_map, filterMap_map] at mapped
  exact mapped

def DiffHunk.paired (hunk : DiffHunk) : DiffHunk := { hunk with lines := pairLines hunk.lines }

theorem view_paired (hunk : DiffHunk) : hunk.paired.view = hunk.view := by
  rw [DiffHunk.view, DiffHunk.paired, DiffHunk.view]
  dsimp only
  rw [map_pairLines fun line => rfl]

theorem map_view_builtHunks (index counter : ℕ) (hunks : List FormatHunk) :
    (builtHunks index counter hunks).map DiffHunk.view = hunks.map FormatHunk.view := by
  induction hunks generalizing index counter with
  | nil => rfl
  | cons hunk hunks ih =>
    have own : (hunk.built index counter).view = hunk.view := by
      rw [DiffHunk.view, FormatHunk.built, FormatHunk.view]
      dsimp only
      rw [map_view_builtLines]
    rw [builtHunks, map_cons, map_cons, ih, own]

theorem mem_builtHunks {index counter : ℕ} {built : DiffHunk}
    (present : built ∈ builtHunks index counter hunks) :
    ∃ hunk ∈ hunks, ∃ index counter, built = hunk.built index counter := by
  induction hunks generalizing index counter with
  | nil => exact absurd present not_mem_nil
  | cons hunk hunks ih =>
    rcases mem_cons.1 present with rfl | later
    · exact ⟨hunk, mem_cons_self, index, counter, rfl⟩
    · rcases ih later with ⟨other, inside, rest⟩
      exact ⟨other, mem_cons_of_mem _ inside, rest⟩

theorem parse_plain (valid : diff.Valid) (plain : diff.Plain) :
    (parseUnifiedDiff diff.text).headerLines = diff.header ∧
      (parseUnifiedDiff diff.text).hunks = (builtHunks 0 0 diff.hunks).map DiffHunk.paired ∧
      (parseUnifiedDiff diff.text).addedCount = diff.total .addition ∧
      (parseUnifiedDiff diff.text).removedCount = diff.total .deletion := by
  have headers : ∀ line ∈ diff.header, hunkMatch line = none :=
    fun line present => hunkMatch_eq_none (valid.header line present).2
  have start := @foldl_header diff.header headers {} rfl
  have final := foldl_hunks valid.hunks
    (fun hunk present => headingText_any.2 (plain.headings hunk present))
    (diff.header.foldl DiffState.step {})
  dsimp only at start final
  rw [start.1, start.2.1, start.2.2.1, start.2.2.2.1, start.2.2.2.2] at final
  have read : (rawLines diff.text).foldl DiffState.step {} =
      (diff.hunks.flatMap FormatHunk.read).foldl DiffState.step
        (diff.header.foldl DiffState.step {}) := by
    rw [rawLines_text valid, strip_written valid plain, foldl_append]
  rw [parseUnifiedDiff, read]
  refine ⟨final.1, ?_, ?_, ?_⟩
  · exact congrArg (List.map DiffHunk.paired) final.2.1
  · exact final.2.2.1.trans (Nat.zero_add _)
  · exact final.2.2.2.trans (Nat.zero_add _)

theorem inverts_of_plain (valid : diff.Valid) (plain : diff.Plain) : Inverts diff := by
  have parts := parse_plain valid plain
  have built : ∀ hunk ∈ (parseUnifiedDiff diff.text).hunks, ∃ own ∈ diff.hunks, ∃ index counter,
      hunk = (own.built index counter).paired := by
    intro hunk present
    rw [parts.2.1] at present
    rcases mem_map.1 present with ⟨before, inside, rfl⟩
    rcases mem_builtHunks inside with ⟨own, member, index, counter, rfl⟩
    exact ⟨own, member, index, counter, rfl⟩
  constructor
  · exact parts.1
  · rw [parts.2.1, map_map]
    refine Eq.trans (map_congr_left fun hunk _ => view_paired hunk) ?_
    exact map_view_builtHunks 0 0 diff.hunks
  · intro hunk present
    rcases built hunk present with ⟨own, member, index, counter, rfl⟩
    refine (filterMap_pairLines (fun line => rfl) _).trans ?_
    refine (numbers_builtLines (fun old _ => old) (fun _ _ _ _ => rfl) (fun _ _ _ => rfl) _ _ _ _).trans ?_
    exact congrArg (List.range' _ ·) (valid.hunks own member).old_count.symm
  · intro hunk present
    rcases built hunk present with ⟨own, member, index, counter, rfl⟩
    refine (filterMap_pairLines (fun line => rfl) _).trans ?_
    refine (numbers_builtLines (fun _ new => new) (fun _ _ _ _ => rfl) (fun _ _ _ => rfl) _ _ _ _).trans ?_
    exact congrArg (List.range' _ ·) (valid.hunks own member).new_count.symm
  · intro hunk present line inside
    rcases built hunk present with ⟨own, member, index, counter, rfl⟩
    have same := map_plain_pairLines (own.built index counter).lines
    have plain_line : line.plain ∈ (own.built index counter).lines.map DiffLine.plain :=
      same ▸ mem_map_of_mem inside
    rcases mem_map.1 plain_line with ⟨other, there, alike⟩
    have numbers := numbered_builtLines other there
    have old : other.plain.oldLineNumber = line.plain.oldLineNumber := by rw [alike]
    have new : other.plain.newLineNumber = line.plain.newLineNumber := by rw [alike]
    have type : other.plain.type = line.plain.type := by rw [alike]
    exact ⟨(old ▸ type ▸ numbers.1 : line.plain.oldLineNumber = none ↔ line.plain.type = .addition),
      (new ▸ type ▸ numbers.2 : line.plain.newLineNumber = none ↔ line.plain.type = .deletion)⟩
  · exact parts.2.2.1
  · exact parts.2.2.2
  · exact fun hunk => (columns_splitRows hunk.id 0 hunk.lines).1
  · exact fun hunk => (columns_splitRows hunk.id 0 hunk.lines).2

/-! ### Diffs that are read back are plain -/

/-- What a line was read as. -/
inductive Place where
  | header
  | hunk
  | line
  deriving DecidableEq

/-- The lines that are kept, in the order in which they were read. -/
def placed (headerLines : List JsText) (hunks : List DiffHunk) : List (Place × JsText) :=
  headerLines.map (.header, ·) ++
    hunks.flatMap fun hunk => (.hunk, hunk.rawHeader) :: hunk.lines.map (.line, ·.rawText)

/-- What a line is kept as. -/
def DiffState.place (state : DiffState) (rawLine : JsText) : Option (Place × JsText) :=
  match hunkMatch rawLine with
  | some _ => some (.hunk, rawLine)
  | none =>
    if state.hunks = [] then some (.header, rawLine)
    else if rawLine.headD 0x20 = 0x5C then none
    else some (.line, rawLine)

theorem placed_concat (headerLines : List JsText) (before : List DiffHunk) (hunk : DiffHunk) :
    placed headerLines (before ++ [hunk]) =
      placed headerLines before ++ (.hunk, hunk.rawHeader) :: hunk.lines.map (.line, ·.rawText) := by
  rw [placed, flatMap_append, flatMap_singleton, ← append_assoc]
  rfl

theorem map_rawText_markLast (lines : List DiffLine) :
    (markLast lines).map (fun line => (Place.line, line.rawText)) =
      lines.map (fun line => (Place.line, line.rawText)) := by
  rcases eq_nil_or_concat' lines with rfl | ⟨before, last, rfl⟩
  · rfl
  · rw [markLast, modifyLast_concat, map_append, map_append]
    rfl

theorem placed_step (state : DiffState) (rawLine : JsText) :
    placed (state.step rawLine).headerLines (state.step rawLine).hunks =
      placed state.headerLines state.hunks ++ (state.place rawLine).toList := by
  rw [DiffState.step, DiffState.place]
  cases found : hunkMatch rawLine with
  | some header => exact placed_concat _ _ _
  | none =>
    dsimp only
    by_cases none_open : state.hunks = []
    · have kept : (state.header rawLine).headerLines = state.headerLines ++ [rawLine] ∧
          (state.header rawLine).hunks = state.hunks := by
        rw [DiffState.header]
        dsimp only
        split
        · exact ⟨rfl, rfl⟩
        · split <;> exact ⟨rfl, rfl⟩
      rw [if_pos none_open, if_pos none_open, kept.1, kept.2, none_open, placed, placed,
        map_append, flatMap_nil, append_nil, append_nil]
      rfl
    · rcases eq_nil_or_concat' state.hunks with empty | ⟨before, hunk, shape⟩
      · exact absurd empty none_open
      · have line : ∀ added : DiffLine, added.rawText = rawLine →
            placed state.headerLines (onLines (· ++ [added]) state.hunks) =
              placed state.headerLines state.hunks ++ [(.line, rawLine)] := by
          intro added own
          rw [shape, onLines_concat, placed_concat, placed_concat, map_append,
            ← cons_append, ← append_assoc, map_singleton, own]
        rw [if_neg none_open, if_neg none_open, DiffState.hunkLine]
        dsimp only
        split
        · rename_i mark
          rw [if_neg (by rw [mark]; decide)]
          exact line _ rfl
        · split
          · rename_i mark
            rw [if_neg (by rw [mark]; decide)]
            exact line _ rfl
          · split
            · rw [shape, onLines_concat, placed_concat, placed_concat, map_rawText_markLast]
              exact (append_nil _).symm
            · exact line _ rfl

/-- What the lines are kept as, from a state on. -/
def DiffState.places (state : DiffState) : List JsText → List (Place × JsText)
  | [] => []
  | rawLine :: rest => (state.place rawLine).toList ++ (state.step rawLine).places rest

theorem placed_foldl (state : DiffState) (lines : List JsText) :
    placed (lines.foldl DiffState.step state).headerLines (lines.foldl DiffState.step state).hunks =
      placed state.headerLines state.hunks ++ state.places lines := by
  induction lines generalizing state with
  | nil => exact (append_nil _).symm
  | cons rawLine rest ih =>
    rw [foldl_cons, ih, placed_step, append_assoc]
    rfl

variable {rawLine : JsText}

theorem hunks_step :
    (state.step rawLine).hunks = [] ↔ state.hunks = [] ∧ hunkMatch rawLine = none := by
  have kept : ∀ change hunks, hunks ≠ [] → onLines change hunks ≠ [] := by
    intro change hunks filled
    rcases eq_nil_or_concat' hunks with empty | ⟨before, hunk, rfl⟩
    · exact absurd empty filled
    · rw [onLines_concat]
      exact append_ne_nil_of_right_ne_nil _ (cons_ne_nil _ _)
  rw [DiffState.step]
  cases found : hunkMatch rawLine with
  | some header =>
    refine iff_of_false ?_ fun both => Option.some_ne_none _ both.2
    exact append_ne_nil_of_right_ne_nil _ (cons_ne_nil _ _)
  | none =>
    dsimp only
    by_cases none_open : state.hunks = []
    · rw [if_pos none_open, DiffState.header]
      dsimp only
      split
      · exact iff_of_true none_open ⟨none_open, rfl⟩
      · split <;> exact iff_of_true none_open ⟨none_open, rfl⟩
    · rw [if_neg none_open, DiffState.hunkLine]
      refine iff_of_false ?_ fun both => none_open both.1
      dsimp only
      split
      · dsimp only
        exact kept _ _ none_open
      · split
        · dsimp only
          exact kept _ _ none_open
        · split
          · dsimp only
            exact kept _ _ none_open
          · dsimp only
            exact kept _ _ none_open

theorem exists_place (state : DiffState) (other : state.hunks ≠ [] → rawLine.headD 0x20 ≠ 0x5C) :
    ∃ place, state.place rawLine = some (place, rawLine) ∧
      (place = .hunk → hunkMatch rawLine ≠ none) ∧
      (place = .header → (state.step rawLine).hunks = []) := by
  rw [DiffState.place]
  cases found : hunkMatch rawLine with
  | some header => exact ⟨.hunk, rfl, fun _ => Option.some_ne_none _, fun same => by cases same⟩
  | none =>
    dsimp only
    by_cases none_open : state.hunks = []
    · rw [if_pos none_open]
      exact ⟨.header, rfl, fun same => (by cases same), fun _ => hunks_step.2 ⟨none_open, found⟩⟩
    · rw [if_neg none_open, if_neg (other none_open)]
      exact ⟨.line, rfl, fun same => (by cases same), fun same => (by cases same)⟩

variable {expected : List (Place × JsText)} {rest : List JsText}

theorem places_cons {place : Place}
    (other : state.hunks ≠ [] → (stripReturn rawLine).headD 0x20 ≠ 0x5C)
    (same : state.places (stripReturn rawLine :: rest) = (place, rawLine) :: expected) :
    stripReturn rawLine = rawLine ∧ (state.step rawLine).places rest = expected ∧
      (place = .hunk → hunkMatch rawLine ≠ none) ∧
      (place = .header → (state.step rawLine).hunks = []) := by
  rcases exists_place state other with ⟨own, kept, seen, header⟩
  rw [DiffState.places, kept, Option.toList_some, singleton_append, cons.injEq,
    Prod.mk.injEq] at same
  rcases same with ⟨⟨rfl, line⟩, later⟩
  rw [line] at later seen header
  exact ⟨line, later, seen, header⟩

theorem strip_header {lines : List JsText} (none_open : state.hunks = [])
    (same : state.places (lines.map stripReturn ++ rest) = lines.map (.header, ·) ++ expected) :
    (∀ line ∈ lines, stripReturn line = line) ∧
      ∃ after : DiffState, after.places rest = expected := by
  induction lines generalizing state with
  | nil => exact ⟨fun line present => absurd present not_mem_nil, state, same⟩
  | cons line lines ih =>
    have one := places_cons (fun filled => absurd none_open filled) same
    rcases ih (one.2.2.2 rfl) one.2.1 with ⟨others, after⟩
    refine ⟨?_, after⟩
    intro other present
    rcases mem_cons.1 present with rfl | later
    · exact one.1
    · exact others other later

theorem raw_not_marker (line : FormatLine) : (stripReturn line.raw).headD 0x20 ≠ 0x5C := by
  rw [FormatLine.raw]
  split
  · decide
  · have mark : markOf line.type ≠ carriageReturn ∧ markOf line.type ≠ 0x5C := by
      cases line.type <;> decide
    rcases stripReturn_cons mark.1 line.text with ⟨rest, shape⟩
    rw [shape]
    exact mark.2

theorem rawHeader_not_marker (hunk : FormatHunk) : (stripReturn hunk.rawHeader).headD 0x20 ≠ 0x5C := by
  have start : ∃ text, hunk.rawHeader = 0x40 :: text := ⟨_, rfl⟩
  rcases start with ⟨text, shape⟩
  rcases stripReturn_cons (show (0x40 : UInt16) ≠ carriageReturn by decide) text with ⟨rest, own⟩
  rw [shape, own]
  exact show (0x40 : UInt16) ≠ 0x5C by decide

theorem place_marker (filled : state.hunks ≠ []) (rest : JsText) :
    state.place (0x5C :: rest) = none := by
  have other : hunkMatch (0x5C :: rest) = none := by
    refine hunkMatch_eq_none ?_
    rintro ⟨after, same⟩
    exact absurd (Option.some.inj (congrArg List.head? same)) (by decide)
  rw [DiffState.place, other]
  dsimp only
  rw [if_neg filled, headD_cons, if_pos rfl]

theorem strip_lines (filled : state.hunks ≠ [])
    (same : state.places ((lines.flatMap FormatLine.written).map stripReturn ++ rest) =
      lines.map (.line, ·.raw) ++ expected) :
    (∀ line ∈ lines, stripReturn line.raw = line.raw) ∧
      ∃ after : DiffState, after.places rest = expected := by
  induction lines generalizing state with
  | nil => exact ⟨fun line present => absurd present not_mem_nil, state, same⟩
  | cons line lines ih =>
    have shape : ((line :: lines).flatMap FormatLine.written).map stripReturn ++ rest =
        stripReturn line.raw :: (line.markerLine.map stripReturn ++
          ((lines.flatMap FormatLine.written).map stripReturn ++ rest)) := by
      rw [flatMap_cons, map_append, FormatLine.written, map_cons, append_assoc]
      rfl
    rw [shape] at same
    have one := places_cons (fun _ => raw_not_marker line) same
    have open_after : (state.step line.raw).hunks ≠ [] :=
      fun empty => filled (hunks_step.1 empty).1
    have later : ∃ next : DiffState, next.hunks ≠ [] ∧
        next.places ((lines.flatMap FormatLine.written).map stripReturn ++ rest) =
          lines.map (.line, ·.raw) ++ expected := by
      cases marker : line.marker with
      | none =>
        rw [FormatLine.markerLine, marker] at one
        exact ⟨_, open_after, one.2.1⟩
      | some text =>
        rcases stripReturn_cons (show (0x5C : UInt16) ≠ carriageReturn by decide) text with
          ⟨after, own⟩
        have markers : line.markerLine.map stripReturn = [0x5C :: after] := by
          rw [FormatLine.markerLine, marker, ← own]
          rfl
        have kept := one.2.1
        rw [markers, singleton_append, DiffState.places, place_marker open_after] at kept
        exact ⟨_, fun empty => open_after (hunks_step.1 empty).1, kept⟩
    rcases later with ⟨next, next_filled, kept⟩
    rcases ih next_filled kept with ⟨others, after⟩
    refine ⟨?_, after⟩
    intro other present
    rcases mem_cons.1 present with rfl | present
    · exact one.1
    · exact others other present

theorem strip_hunks
    (same : state.places ((hunks.flatMap FormatHunk.written).map stripReturn) =
      hunks.flatMap fun hunk => (.hunk, hunk.rawHeader) :: hunk.lines.map (.line, ·.raw)) :
    ∀ hunk ∈ hunks, hunkMatch hunk.rawHeader ≠ none ∧
      ∀ line ∈ hunk.lines, stripReturn line.raw = line.raw := by
  induction hunks generalizing state with
  | nil => exact fun hunk present => absurd present not_mem_nil
  | cons hunk hunks ih =>
    have shape : ((hunk :: hunks).flatMap FormatHunk.written).map stripReturn =
        stripReturn hunk.rawHeader :: ((hunk.lines.flatMap FormatLine.written).map stripReturn ++
          (hunks.flatMap FormatHunk.written).map stripReturn) := by
      rw [flatMap_cons, map_append, FormatHunk.written, map_cons]
      rfl
    rw [shape, flatMap_cons] at same
    have one := places_cons (fun _ => rawHeader_not_marker hunk) same
    have seen := one.2.2.1 rfl
    have filled : (state.step hunk.rawHeader).hunks ≠ [] := fun empty =>
      seen (hunks_step.1 empty).2
    rcases strip_lines filled one.2.1 with ⟨own, after, kept⟩
    intro other present
    rcases mem_cons.1 present with rfl | later
    · exact ⟨seen, own⟩
    · exact ih kept other later

theorem map_rawText_view (lines : List DiffLine) : lines.map (fun line => (Place.line, line.rawText)) =
    (lines.map DiffLine.view).map fun line => (Place.line, line.rawText) := by
  rw [map_map]
  rfl

theorem placed_view (headerLines : List JsText) (hunks : List DiffHunk) : placed headerLines hunks =
    headerLines.map (.header, ·) ++ (hunks.map DiffHunk.view).flatMap fun hunk =>
      (.hunk, hunk.rawHeader) :: hunk.lines.map (.line, ·.rawText) := by
  rw [placed, flatMap_map]
  refine congrArg _ (flatMap_congr fun hunk _ => ?_)
  rw [map_rawText_view]
  rfl

theorem plain_of_inverts (valid : diff.Valid) (inverts : Inverts diff) : diff.Plain := by
  have state := placed_foldl {} (rawLines diff.text)
  have views : ((rawLines diff.text).foldl DiffState.step {}).hunks.map DiffHunk.view =
      diff.hunks.map FormatHunk.view := by
    have same := inverts.hunks
    rw [parseUnifiedDiff, map_map] at same
    exact Eq.trans (map_congr_left fun hunk _ => (view_paired hunk).symm) same
  have headers : ((rawLines diff.text).foldl DiffState.step {}).headerLines = diff.header :=
    inverts.header
  rw [placed_view, views, headers, rawLines_text valid, UnifiedDiff.written, map_append,
    flatMap_map] at state
  have expected : (diff.hunks.flatMap fun hunk => (Place.hunk, hunk.view.rawHeader) ::
      hunk.view.lines.map (Place.line, ·.rawText)) =
      diff.hunks.flatMap fun hunk => (Place.hunk, hunk.rawHeader) :: hunk.lines.map (Place.line, ·.raw) := by
    refine flatMap_congr fun hunk _ => ?_
    rw [FormatHunk.view]
    dsimp only
    rw [map_map]
    rfl
  rw [expected] at state
  rcases strip_header rfl state.symm with ⟨header, after, kept⟩
  have hunks := strip_hunks kept
  constructor
  · exact fun line present => stripReturn_eq_self.1 (header line present)
  · intro hunk present
    refine headingText_any.1 ?_
    by_contra terminated
    have seen := hunkMatch_rawHeader hunk (valid.hunks hunk present)
    rw [if_pos (Bool.not_eq_false _ ▸ terminated)] at seen
    exact (hunks hunk present).1 seen
  · intro hunk present line inside
    exact (strip_raw ((valid.hunks hunk present).lines line inside)).1
      ((hunks hunk present).2 line inside)

/-- A written diff is read back exactly when no line ends in a carriage return and no heading has a line
terminator. -/
theorem inverts_iff (valid : diff.Valid) : Inverts diff ↔ diff.Plain :=
  ⟨plain_of_inverts valid, inverts_of_plain valid⟩

/-- A diff that replaces a line, which ends in `ending`. -/
def replacement (ending : JsText) : UnifiedDiff where
  header := [JsText.ofString "--- a/f", JsText.ofString "+++ b/f"]
  hunks := [{
    oldStart := 1, oldCount := 1, newStart := 1, newCount := 1, oldShown := false, newShown := false
    lines := [
      { type := .deletion, text := JsText.ofString "one" ++ ending },
      { type := .addition, text := JsText.ofString "two" ++ ending
        marker := some (JsText.ofString " No newline at end of file") }] }]

theorem replacement_valid {ending : JsText} (single : newline ∉ ending) : (replacement ending).Valid := by
  have marker : newline ∉ JsText.ofString " No newline at end of file" := by decide
  have words : newline ∉ JsText.ofString "one" ∧ newline ∉ JsText.ofString "two" := by decide
  have headers : ∀ line ∈ (replacement []).header, newline ∉ line ∧ ¬ JsText.ofString "@@ -" <+: line := by
    decide
  refine ⟨headers, ?_⟩
  intro hunk present
  rw [replacement, mem_singleton] at present
  subst present
  constructor
  · intro line inside
    rcases mem_cons.1 inside with rfl | inside
    · refine ⟨?_, fun text own => (by cases own), fun bare => (by cases bare)⟩
      rw [mem_append, not_or]
      exact ⟨words.1, single⟩
    · rw [mem_singleton.1 inside]
      refine ⟨?_, ?_, fun bare => (by cases bare)⟩
      · rw [mem_append, not_or]
        exact ⟨words.2, single⟩
      · rintro text ⟨⟩
        exact marker
  · intro text own
    cases own
  · rfl
  · rfl
  · exact fun _ => rfl
  · exact fun _ => rfl

theorem inverts_replacement : Inverts (replacement []) := by
  refine (inverts_iff (replacement_valid List.not_mem_nil)).2 ⟨?_, ?_, ?_⟩
  · decide
  · intro hunk present text own
    rw [replacement, List.mem_singleton] at present
    rw [present] at own
    cases own
  · decide

/-- The lines of a file with carriage returns are not read as they are written. -/
theorem carriage_returns_lost : (replacement [carriageReturn]).Valid ∧
    ¬ Inverts (replacement [carriageReturn]) := by
  have valid : (replacement [carriageReturn]).Valid := replacement_valid (by decide)
  refine ⟨valid, fun inverts => ?_⟩
  have plain := (plain_of_inverts valid inverts).lines _ List.mem_cons_self _ List.mem_cons_self
  exact plain List.getLast?_concat

end Synapse.Console
