import Synapse.Python.LineEnds
import Synapse.ToolOutput.Model

/-!
# Folded path listings

A listing of paths is folded to its directories, each followed by the names in it, and expanded again to see
that nothing is lost. What is not in the fold is what ends the lines.
-/

namespace Synapse.ToolOutput

open List

/-! ### Rows -/

def isSeparator (point : CodePoint) : Bool := point = 0x2F || point = 0x5C

/-- `[^/\\\s:]` -/
def isSegmentLetter (point : CodePoint) : Bool := !isSeparator point && !point.isSpace && decide (point ≠ 0x3A)

/-- `(?:[^/\\\s:]+[/\\])+` -/
def isSegments (text : Text) : Bool :=
  let parts := text.splitOnP isSeparator
  parts.getLast? = some [] && parts.dropLast ≠ [] &&
    parts.dropLast.all fun part => part ≠ [] && part.all isSegmentLetter

def isAsciiLetter (point : CodePoint) : Bool :=
  (0x41 ≤ point.val && point.val ≤ 0x5A) || (0x61 ≤ point.val && point.val ≤ 0x7A)

/-- What can follow `(?:[A-Za-z]:)?[/\\]` or `\.{0,2}[/\\]` at the start. -/
def afterPrefix : Text → List Text
  | first :: second :: third :: rest =>
    (if isSeparator first then [second :: third :: rest] else []) ++
      (if first = 0x2E ∧ isSeparator second then [third :: rest] else []) ++
      (if (isAsciiLetter first ∧ second = 0x3A ∨ first = 0x2E ∧ second = 0x2E) ∧ isSeparator third then [rest]
        else [])
  | _ => []

/-- `_path_row`, the directory and the base of a path. -/
def pathRow (line : Text) : Option (Text × Text) :=
  let base := line.rtakeWhile fun point => !isSeparator point
  let directory := line.rdropWhile fun point => !isSeparator point
  if base ≠ [] ∧ base.all isSegmentLetter = true ∧ (directory :: afterPrefix directory).any isSegments = true
  then some (directory, base) else none

/-! ### The transformer -/

def endsWithSeparator (line : Text) : Bool := line.getLast?.any isSeparator

/-- `_expand`, from the lines after a directory. -/
def expandFrom : Option Text → List Text → Option (List Text)
  | _, [] => some []
  | directory, line :: lines =>
    if endsWithSeparator line then expandFrom (some line) lines
    else match directory with
      | some directory =>
        if line.any isSeparator then none
        else (expandFrom (some directory) lines).map ((directory ++ line) :: ·)
      | none => none

/-- The directories and bases of lines, after those of a directory. -/
def groupFrom : Option Text → List Text → Option (List Text)
  | _, [] => some []
  | current, line :: lines => do
      let (directory, base) ← pathRow line
      let grouped ← groupFrom (some directory) lines
      return if some directory = current then base :: grouped else directory :: base :: grouped

def crlf : Text := [0x0D, 0x0A]

def pathHeader (paths directories : ℕ) : Text :=
  Text.ofString "[paths compressed: " ++ decimal paths ++ Text.ofString " paths / " ++ decimal directories ++
    Text.ofString " dirs]"

/-- The line break of the folded body, and the one at its end. -/
def lineEnding (content : Text) : Text := if crlf <:+: content then crlf else [0x0A]

def trailingNewline (content : Text) : Text :=
  if crlf <:+ content then crlf else if content.getLast? = some 0x0A then [0x0A] else []

def foldedBody (content : Text) (grouped : List Text) : Text :=
  (lineEnding content).intercalate
      (pathHeader (Text.splitlines content).length (grouped.countP endsWithSeparator) :: grouped) ++
    trailingNewline content

/-- `PathListTransformer.transform` -/
def pathListTransform (content : Text) : TransformResult :=
  let lines := Text.splitlines content
  let unfolded : TransformResult :=
    { content, transformer := Text.ofString "path-list-v1", contentType := .paths, criticalTotal := 0,
      criticalRetained := 0 }
  if lines.length < 3 then unfolded
  else match groupFrom none lines with
    | none => unfolded
    | some grouped =>
      if expandFrom none grouped ≠ some lines then unfolded
      else
        { content := foldedBody content grouped, transformer := Text.ofString "path-list-v1",
          contentType := .paths, criticalTotal := 0, criticalRetained := 0,
          metadata := [metaInt "paths" lines.length,
            metaInt "directories" (grouped.countP endsWithSeparator),
            (Text.ofString "reversible", .bool true)] }

/-- The body is marked reversible. -/
def TransformResult.reversible (result : TransformResult) : Bool :=
  result.metadata.any fun (key, value) => key = Text.ofString "reversible" && match value with
    | .bool value => value
    | _ => false

/-! ### What the body holds -/

variable {content first second line : Text} {current : Option Text} {lines grouped : List Text}

theorem pathRow_eq {directory base : Text} (found : pathRow line = some (directory, base)) :
    line = directory ++ base ∧ base ≠ [] := by
  unfold pathRow at found
  rcases Option.ite_none_right_eq_some.mp found with ⟨_, found⟩
  next parts =>
    cases found
    exact ⟨rdropWhile_append_rtakeWhile.symm, parts.1⟩

theorem groupFrom_cons (line : Text) (lines : List Text) (found : groupFrom current (line :: lines) = some grouped) :
    ∃ directory base rest, pathRow line = some (directory, base) ∧
      groupFrom (some directory) lines = some rest ∧
      grouped = if some directory = current then base :: rest else directory :: base :: rest := by
  rw [groupFrom] at found
  simp only [Option.bind_eq_bind, Option.bind_eq_some_iff, Option.pure_def, Option.some.injEq] at found
  rcases found with ⟨⟨directory, base⟩, row, rest, later, same⟩
  exact ⟨directory, base, rest, row, later, same.symm⟩

theorem groupFrom_unbroken (found : groupFrom current lines = some grouped)
    (unbroken : ∀ line ∈ lines, ∀ point ∈ line, Text.isLineBreak point = false) :
    ∀ part ∈ grouped, ∀ point ∈ part, Text.isLineBreak point = false := by
  induction lines generalizing current grouped with
  | nil =>
    cases found
    exact fun part mem => absurd mem not_mem_nil
  | cons line lines ih =>
    rcases groupFrom_cons line lines found with ⟨directory, base, rest, row, later, rfl⟩
    have whole := (pathRow_eq row).1
    have own := unbroken line mem_cons_self
    have others := ih later fun other mem => unbroken other (mem_cons_of_mem line mem)
    have front : ∀ point ∈ directory, Text.isLineBreak point = false := fun point mem =>
      own point (whole ▸ mem_append_left base mem)
    have back : ∀ point ∈ base, Text.isLineBreak point = false := fun point mem =>
      own point (whole ▸ mem_append_right directory mem)
    split
    · exact forall_mem_cons.2 ⟨back, others⟩
    · exact forall_mem_cons.2 ⟨front, forall_mem_cons.2 ⟨back, others⟩⟩

theorem groupFrom_last (found : groupFrom current lines = some grouped) :
    ∀ part ∈ grouped.getLast?, part ≠ [] := by
  induction lines generalizing current grouped with
  | nil =>
    cases found
    exact fun part mem => by cases mem
  | cons line lines ih =>
    rcases groupFrom_cons line lines found with ⟨directory, base, rest, row, later, rfl⟩
    have named : ∀ part ∈ (base :: rest).getLast?, part ≠ [] := by
      cases rest with
      | nil =>
        rintro part mem
        cases mem
        exact (pathRow_eq row).2
      | cons next rest =>
        rw [getLast?_cons_cons]
        exact ih later
    split
    · exact named
    · rw [getLast?_cons_cons]
      exact named

theorem unbroken_of_all {text : Text} (all : (text.all fun point => !Text.isLineBreak point) = true) :
    ∀ point ∈ text, Text.isLineBreak point = false := by
  intro point mem
  rw [← Bool.not_eq_true']
  exact all_eq_true.1 all point mem

theorem pathHeader_unbroken (paths directories : ℕ) :
    ∀ point ∈ pathHeader paths directories, Text.isLineBreak point = false := by
  have digits (value : ℕ) : ∀ point ∈ decimal value, Text.isLineBreak point = false := by
    intro point mem
    have bounds := Text.mem_repr mem
    simp only [Text.isLineBreak, Bool.or_eq_false_iff, Bool.and_eq_false_iff, decide_eq_false_iff_not,
      beq_eq_false_iff_ne]
    omega
  have start := @unbroken_of_all (Text.ofString "[paths compressed: ") (by decide)
  have between := @unbroken_of_all (Text.ofString " paths / ") (by decide)
  have close := @unbroken_of_all (Text.ofString " dirs]") (by decide)
  intro point mem
  simp only [pathHeader, mem_append] at mem
  rcases mem with (((mem | mem) | mem) | mem) | mem
  · exact start point mem
  · exact digits paths point mem
  · exact between point mem
  · exact digits directories point mem
  · exact close point mem

theorem pathHeader_ne_nil (paths directories : ℕ) : pathHeader paths directories ≠ [] := by
  intro empty
  have parts := append_eq_nil_iff.1 empty
  exact absurd parts.2 (by decide)

theorem folded_of_reversible (reversible : (pathListTransform content).reversible = true) :
    ∃ grouped, groupFrom none (Text.splitlines content) = some grouped ∧
      expandFrom none grouped = some (Text.splitlines content) ∧ 3 ≤ (Text.splitlines content).length ∧
      (pathListTransform content).content = foldedBody content grouped := by
  unfold pathListTransform at reversible
  dsimp only at reversible
  unfold pathListTransform
  dsimp only
  split at reversible
  · cases reversible
  · next long =>
      rw [if_neg long]
      cases found : groupFrom none (Text.splitlines content) with
      | none =>
        rw [found] at reversible
        cases reversible
      | some grouped =>
        rw [found] at reversible
        dsimp only at reversible
        split at reversible
        · cases reversible
        · next restored =>
            rw [not_not] at restored
            exact ⟨grouped, rfl, restored, Nat.not_lt.1 long, by simp only [restored, ne_eq, not_true, if_false]⟩

theorem isEnd_lineEnding (content : Text) : Text.IsEnd (lineEnding content) := by
  rw [lineEnding]
  split
  · exact Or.inr rfl
  · exact Or.inl rfl

theorem splitlines_foldedBody (found : groupFrom none (Text.splitlines content) = some grouped) :
    Text.splitlines (foldedBody content grouped) =
      pathHeader (Text.splitlines content).length (grouped.countP endsWithSeparator) :: grouped := by
  have unbroken := groupFrom_unbroken found fun line mem => Text.splitlines_unbroken mem
  have ends := isEnd_lineEnding content
  have final : trailingNewline content = [] ∨ Text.IsEnd (trailingNewline content) := by
    rw [trailingNewline]
    split
    · exact Or.inr (Or.inr rfl)
    · split
      · exact Or.inr (Or.inl rfl)
      · exact Or.inl rfl
  refine Text.splitlines_intercalate ends final ?_ ?_ (cons_ne_nil _ _)
  · exact forall_mem_cons.2 ⟨pathHeader_unbroken _ _, unbroken⟩
  · cases grouped with
    | nil =>
      rintro part mem
      cases mem
      exact pathHeader_ne_nil _ _
    | cons part grouped =>
      rw [getLast?_cons_cons]
      exact groupFrom_last found

theorem lines_eq_of_body (one : (pathListTransform first).reversible = true)
    (other : (pathListTransform second).reversible = true)
    (same : (pathListTransform first).content = (pathListTransform second).content) :
    Text.splitlines first = Text.splitlines second := by
  rcases folded_of_reversible one with ⟨grouped, found, restored, long, body⟩
  rcases folded_of_reversible other with ⟨regrouped, refound, rerestored, _, rebody⟩
  rw [body, rebody] at same
  have lines := congrArg Text.splitlines same
  rw [splitlines_foldedBody found, splitlines_foldedBody refound, cons.injEq] at lines
  rw [lines.2, rerestored, Option.some.injEq] at restored
  exact restored.symm

/-- Equal reversible bodies come from equal contents just when the lines of the contents end in the same
ways. -/
theorem reversible_iff (first second : Text) (one : (pathListTransform first).reversible = true)
    (other : (pathListTransform second).reversible = true) :
    ((pathListTransform first).content = (pathListTransform second).content → first = second) ↔
      ((pathListTransform first).content = (pathListTransform second).content →
        Text.lineEnds first = Text.lineEnds second) := by
  constructor
  · intro restores same
    rw [restores same]
  · intro ends same
    exact Text.eq_of_lines (lines_eq_of_body one other same) (ends same)

/-! ### One line break -/

/-- The lines end in the line break of the body. -/
def Uniform (content : Text) : Prop :=
  content = (lineEnding content).intercalate (Text.splitlines content) ++ trailingNewline content

/-- Three paths in one directory, of which the first two end in one way or in two. -/
def oneEnd : Text := Text.ofString "src/a.py\r\nsrc/b.py\r\nsrc/c.py"

def twoEnds : Text := Text.ofString "src/a.py\r\nsrc/b.py\nsrc/c.py"

theorem reversible_threePaths :
    ((pathListTransform oneEnd).content = (pathListTransform twoEnds).content → oneEnd = twoEnds) ↔
      ((pathListTransform oneEnd).content = (pathListTransform twoEnds).content →
        Text.lineEnds oneEnd = Text.lineEnds twoEnds) :=
  reversible_iff oneEnd twoEnds (by decide) (by decide)

/-- The same paths, of which the second line ends otherwise, fold to the same body. -/
theorem ends_lost : ¬ ∀ first second : Text, (pathListTransform first).reversible = true →
    (pathListTransform second).reversible = true →
      (pathListTransform first).content = (pathListTransform second).content → first = second := by
  intro all
  have same := all oneEnd twoEnds (by decide) (by decide) (by decide)
  exact absurd same (by decide)

end Synapse.ToolOutput
