import Synapse.Console.WordDiff

/-!
# Unified diffs of the console

`parseUnifiedDiff` reads the lines of a diff one after another: a hunk header opens a hunk, lines before
the first one are headers, and a line of a hunk is told by its first code unit. `buildSplitHunkRows` puts
runs of deleted and added lines side by side.
-/

namespace Synapse.Console

inductive DiffLineType where
  | context
  | addition
  | deletion
  deriving DecidableEq

structure DiffLine where
  id : JsText
  type : DiffLineType
  oldLineNumber : Option ℕ
  newLineNumber : Option ℕ
  text : JsText
  rawText : JsText
  wordParts : Option (List DiffWordPart) := none
  noNewline : Bool := false
  deriving DecidableEq

structure DiffHunk where
  id : JsText
  oldStart : ℕ
  oldCount : ℕ
  newStart : ℕ
  newCount : ℕ
  heading : JsText
  rawHeader : JsText
  lines : List DiffLine := []
  deriving DecidableEq

structure ParsedDiff where
  headerLines : List JsText := []
  fromFile : Option JsText := none
  toFile : Option JsText := none
  hunks : List DiffHunk := []
  addedCount : ℕ := 0
  removedCount : ℕ := 0
  deriving DecidableEq

/-! ### Lines -/

def newline : UInt16 := 0x0A

def carriageReturn : UInt16 := 0x0D

/-- `text.replace(/\r\n/g, '\n')` -/
def normalizeEndings : JsText → JsText
  | 0x0D :: 0x0A :: rest => newline :: normalizeEndings rest
  | unit :: rest => unit :: normalizeEndings rest
  | [] => []

/-- The lines of a diff; an empty one at its end is not one. -/
def rawLines (diffText : JsText) : List JsText :=
  let normalized := normalizeEndings diffText
  let lines := if normalized = [] then [] else normalized.splitOn newline
  if lines.getLast? = some [] then lines.dropLast else lines

/-! ### Hunk headers -/

def isDigitUnit (unit : UInt16) : Bool := 0x30 ≤ unit.toNat && unit.toNat ≤ 0x39

/-- `parseInt` of decimal digits -/
def decimal (digits : JsText) : ℕ := digits.foldl (fun value digit => 10 * value + (digit.toNat - 0x30)) 0

/-- What follows a literal. -/
def afterLiteral (literal : String) (text : JsText) : Option JsText :=
  let units := JsText.ofString literal
  if units <+: text then some (text.drop units.length) else none

/-- `(\d+)` and what follows it. -/
def afterNumber (text : JsText) : Option (ℕ × JsText) :=
  let digits := text.takeWhile isDigitUnit
  if digits = [] then none else some (decimal digits, text.dropWhile isDigitUnit)

/-- `(?:,(\d+))?` and what follows it. -/
def afterCount (text : JsText) : Option ℕ × JsText :=
  match (afterLiteral "," text).bind afterNumber with
  | some (count, rest) => (some count, rest)
  | none => (none, text)

/-- What `.` does not match. -/
def isLineTerminator (unit : UInt16) : Bool :=
  unit == 0x0A || unit == 0x0D || unit == 0x2028 || unit == 0x2029

structure HunkMatch where
  oldStart : ℕ
  oldCount : ℕ
  newStart : ℕ
  newCount : ℕ
  heading : JsText
  deriving DecidableEq

/-- `HUNK_REGEX.exec`; a count that is left out is 1, and the heading is not trimmed. -/
def hunkMatch (line : JsText) : Option HunkMatch := do
  let rest ← afterLiteral "@@ -" line
  let (oldStart, rest) ← afterNumber rest
  let (oldCount, rest) := afterCount rest
  let rest ← afterLiteral " +" rest
  let (newStart, rest) ← afterNumber rest
  let (newCount, rest) := afterCount rest
  let rest ← afterLiteral " @@" rest
  if rest.any isLineTerminator then none
  else
    some { oldStart, newStart
           oldCount := oldCount.getD 1
           newCount := newCount.getD 1
           heading := (afterLiteral " " rest).getD rest }

/-! ### The parser -/

/-- What the loop over the lines keeps; the last hunk is the current one. -/
structure DiffState where
  headerLines : List JsText := []
  fromFile : Option JsText := none
  toFile : Option JsText := none
  hunks : List DiffHunk := []
  oldLine : ℕ := 0
  newLine : ℕ := 0
  lineCounter : ℕ := 0
  addedCount : ℕ := 0
  removedCount : ℕ := 0

def DiffState.openHunk (state : DiffState) (rawLine : JsText) (header : HunkMatch) : DiffState :=
  { state with
    oldLine := header.oldStart
    newLine := header.newStart
    hunks := state.hunks ++ [{
      id := JsText.ofString "hunk-" ++ JsText.ofNat state.hunks.length
      oldStart := header.oldStart
      oldCount := header.oldCount
      newStart := header.newStart
      newCount := header.newCount
      heading := JsText.trim header.heading
      rawHeader := rawLine }] }

def DiffState.header (state : DiffState) (rawLine : JsText) : DiffState :=
  let state := { state with headerLines := state.headerLines ++ [rawLine] }
  if JsText.ofString "--- " <+: rawLine then
    { state with fromFile := some (JsText.trim (rawLine.drop 4)) }
  else if JsText.ofString "+++ " <+: rawLine then
    { state with toFile := some (JsText.trim (rawLine.drop 4)) }
  else state

/-- The lines of the current hunk changed. -/
def onLines (change : List DiffLine → List DiffLine) (hunks : List DiffHunk) : List DiffHunk :=
  hunks.modifyLast fun hunk => { hunk with lines := change hunk.lines }

def markLast (lines : List DiffLine) : List DiffLine :=
  lines.modifyLast fun line => { line with noNewline := true }

def DiffState.hunkLine (state : DiffState) (rawLine : JsText) : DiffState :=
  let counter := state.lineCounter + 1
  let id := JsText.ofString "line-" ++ JsText.ofNat counter
  let state := { state with lineCounter := counter }
  let mark := rawLine.headD 0x20
  if mark = 0x2B then
    let line : DiffLine :=
      { id, type := .addition, oldLineNumber := none, newLineNumber := some state.newLine
        text := rawLine.drop 1, rawText := rawLine }
    { state with
      hunks := onLines (· ++ [line]) state.hunks
      newLine := state.newLine + 1
      addedCount := state.addedCount + 1 }
  else if mark = 0x2D then
    let line : DiffLine :=
      { id, type := .deletion, oldLineNumber := some state.oldLine, newLineNumber := none
        text := rawLine.drop 1, rawText := rawLine }
    { state with
      hunks := onLines (· ++ [line]) state.hunks
      oldLine := state.oldLine + 1
      removedCount := state.removedCount + 1 }
  else if mark = 0x5C then { state with hunks := onLines markLast state.hunks }
  else
    let line : DiffLine :=
      { id, type := .context, oldLineNumber := some state.oldLine
        newLineNumber := some state.newLine
        text := if mark = 0x20 then rawLine.drop 1 else rawLine
        rawText := rawLine }
    { state with
      hunks := onLines (· ++ [line]) state.hunks
      oldLine := state.oldLine + 1
      newLine := state.newLine + 1 }

def DiffState.step (state : DiffState) (rawLine : JsText) : DiffState :=
  match hunkMatch rawLine with
  | some header => state.openHunk rawLine header
  | none => if state.hunks = [] then state.header rawLine else state.hunkLine rawLine

/-! ### Word parts -/

def isType (type : DiffLineType) (line : DiffLine) : Bool := line.type = type

/-- The lines of a run that have a partner, with their parts. -/
def withParts (parts : JsText → JsText → List DiffWordPart) :
    List DiffLine → List DiffLine → List DiffLine
  | line :: lines, partner :: partners =>
    { line with wordParts := some (parts line.text partner.text) } :: withParts parts lines partners
  | lines, _ => lines

/-- The lines of a hunk, deleted ones paired with the added ones after them. -/
def pairLines : List DiffLine → List DiffLine
  | [] => []
  | line :: lines =>
    if line.type = .deletion then
      let deletions := line :: lines.takeWhile (isType .deletion)
      let rest := lines.dropWhile (isType .deletion)
      let additions := rest.takeWhile (isType .addition)
      withParts (fun old new => (computeWordDiff old new).oldParts) deletions additions ++
        (withParts (fun new old => (computeWordDiff old new).newParts) additions deletions ++
          pairLines (rest.dropWhile (isType .addition)))
    else line :: pairLines lines
termination_by lines => lines.length
decreasing_by
  · exact Nat.lt_succ_of_le ((List.length_dropWhile_le _ _).trans (List.length_dropWhile_le _ _))
  · exact Nat.lt_succ_self _

/-- `parseUnifiedDiff` -/
def parseUnifiedDiff (diffText : JsText) : ParsedDiff :=
  let state := (rawLines diffText).foldl DiffState.step {}
  { headerLines := state.headerLines
    fromFile := state.fromFile
    toFile := state.toFile
    hunks := state.hunks.map fun hunk => { hunk with lines := pairLines hunk.lines }
    addedCount := state.addedCount
    removedCount := state.removedCount }

/-! ### Split rows -/

structure SplitDiffRow where
  id : JsText
  left : Option DiffLine
  right : Option DiffLine
  deriving DecidableEq

def splitRowId (hunkId : JsText) (rowId : ℕ) : JsText :=
  hunkId ++ JsText.ofString "-split-" ++ JsText.ofNat rowId

theorem length_runs (lines : List DiffLine) :
    (lines.takeWhile (isType .deletion)).length +
      (((lines.dropWhile (isType .deletion)).takeWhile (isType .addition)).length +
        ((lines.dropWhile (isType .deletion)).dropWhile (isType .addition)).length) = lines.length := by
  rw [← List.length_append, List.takeWhile_append_dropWhile, ← List.length_append,
    List.takeWhile_append_dropWhile]

theorem length_after_runs {lines : List DiffLine}
    (taken : max (lines.takeWhile (isType .deletion)).length
      ((lines.dropWhile (isType .deletion)).takeWhile (isType .addition)).length ≠ 0) :
    ((lines.dropWhile (isType .deletion)).dropWhile (isType .addition)).length < lines.length := by
  have total := length_runs lines
  omega

/-- The rows of lines after `rowId` rows. -/
def splitRows (hunkId : JsText) (rowId : ℕ) : List DiffLine → List SplitDiffRow
  | [] => []
  | line :: lines =>
    if line.type = .context then
      { id := splitRowId hunkId (rowId + 1), left := some line, right := some line } ::
        splitRows hunkId (rowId + 1) lines
    else
      let deletions := (line :: lines).takeWhile (isType .deletion)
      let rest := (line :: lines).dropWhile (isType .deletion)
      let additions := rest.takeWhile (isType .addition)
      let count := max deletions.length additions.length
      if count = 0 then splitRows hunkId rowId lines
      else
        (List.range count).map (fun i =>
          { id := splitRowId hunkId (rowId + i + 1), left := deletions[i]?, right := additions[i]? }) ++
        splitRows hunkId (rowId + count) (rest.dropWhile (isType .addition))
termination_by lines => lines.length
decreasing_by
  · exact Nat.lt_succ_self _
  · exact Nat.lt_succ_self _
  · rename_i nonzero
    exact length_after_runs nonzero

/-- `buildSplitHunkRows` -/
def buildSplitHunkRows (hunk : DiffHunk) : List SplitDiffRow := splitRows hunk.id 0 hunk.lines

end Synapse.Console
