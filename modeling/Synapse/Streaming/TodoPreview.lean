import Synapse.Python.Lines

/-!
# Previews of todo lists

A todo list is shown as text, one entry a line after the mark of its status, with a line of counts at
the end. The console reads the entries back from that text. A content is not escaped, so the text
holds the list as long as no content has a line break.
-/

namespace Synapse.Streaming.TodoPreview

open List

inductive Kind where
  | done
  | active
  | pending
  deriving DecidableEq

/-- An entry of the list; its values are as `str` renders them, or `none` where they are false. -/
structure Todo where
  content : Option Text
  status : Option Text
  deriving DecidableEq

structure TodoRow where
  content : Text
  status : Text
  kind : Kind
  mark : CodePoint
  deriving DecidableEq

/-- `str.casefold` -/
abbrev Casefold := Text → Text

def space : CodePoint := 0x20
def ellipsis : CodePoint := 0x2026
def dash : CodePoint := 0x2014

/-! ### Marks -/

def Kind.text : Kind → Text
  | .done => Text.ofString "done"
  | .active => Text.ofString "active"
  | .pending => Text.ofString "pending"

/-- `todo_mark` of a kind -/
def todoMark : Kind → CodePoint
  | .done => 0x2713
  | .active => 0x25CF
  | .pending => 0x25CB

/-- `_TODO_KIND_BY_MARK` -/
def kindByMark : List (Text × Kind) :=
  [([0x2713], .done), ([0x25CF], .active), ([0x25CB], .pending), (Text.ofString "x", .done),
    (Text.ofString "X", .done), (Text.ofString "~", .active), ([ellipsis], .active),
    ([0xB7], .pending), (Text.ofString " ", .pending), (Text.ofString "-", .pending)]

def todoDone : List Text :=
  ["completed", "done", "complete", "finished"].map Text.ofString

def todoActive : List Text :=
  ["in_progress", "in-progress", "running", "active", "doing"].map Text.ofString

/-- `_todo_status_key` -/
def todoStatusKey (casefold : Casefold) (raw : Option Text) : Text :=
  (casefold ((Text.orElse raw none).getD (Text.ofString "pending")).strip).map fun point =>
    if point = 0x20 ∨ point = 0x2D then 0x5F else point

def kindOfKey (key : Text) : Kind :=
  if key ∈ todoDone then .done else if key ∈ todoActive then .active else .pending

/-- `todo_status_kind` -/
def todoStatusKind (casefold : Casefold) (status : Option Text) : Kind :=
  kindOfKey (todoStatusKey casefold status)

/-! ### Rows -/

def orEmpty (content : Text) : Text :=
  if content = [] then Text.ofString "(empty)" else content

/-- The content as the list gives it, without the spaces around it. -/
def Todo.body (todo : Todo) : Text := (todo.content.getD []).strip

def todoRow (casefold : Casefold) (todo : Todo) : TodoRow :=
  let key := todoStatusKey casefold todo.status
  let status := if key = [] then Text.ofString "pending" else key
  let kind := todoStatusKind casefold (some status)
  { content := orEmpty todo.body, status, kind, mark := todoMark kind }

/-- `iter_todo_rows` -/
def iterTodoRows (casefold : Casefold) (todos : List Todo) (maxItems : Option ℕ) : List TodoRow :=
  ((maxItems.map fun most => todos.take most).getD todos).map (todoRow casefold)

/-- The line of a row. -/
def TodoRow.line (row : TodoRow) : Text := row.mark :: space :: row.content

/-! ### The preview -/

def decimal (value : ℕ) : Text := Text.ofString value.repr

/-- `todo_counts` -/
def todoCounts (casefold : Casefold) (todos : List Todo) (kind : Kind) : ℕ :=
  todos.countP fun todo => todoStatusKind casefold todo.status = kind

def moreLine (count : ℕ) : Text :=
  ellipsis :: Text.ofString " +" ++ decimal count ++ Text.ofString " more"

def countsLine (casefold : Casefold) (todos : List Todo) : Text :=
  dash :: Text.ofString " done " ++ decimal (todoCounts casefold todos .done) ++
    Text.ofString " · doing " ++ decimal (todoCounts casefold todos .active) ++
    Text.ofString " · todo " ++ decimal (todoCounts casefold todos .pending)

def previewLines (casefold : Casefold) (todos : List Todo) (maxItems : ℕ) : List Text :=
  (iterTodoRows casefold todos (some maxItems)).map TodoRow.line ++
    (if maxItems < todos.length then [moreLine (todos.length - maxItems)] else []) ++
    [countsLine casefold todos]

/-- `format_todos_preview` -/
def formatTodosPreview (casefold : Casefold) (todos : List Todo) (maxItems : ℕ) : Option Text :=
  if todos = [] then none else some (Text.joinLines (previewLines casefold todos maxItems))

/-! ### Reading it back -/

def parsedRow (kind : Kind) (content : Text) : TodoRow where
  content := orEmpty content.strip
  status := kind.text
  kind := kind
  mark := todoMark kind

/-- `[x] content`; the bracket is closed within the first four characters. -/
def parseLegacy (line : Text) : Option TodoRow :=
  if line.head? = some 0x5B ∧ (0x5D : CodePoint) ∈ line.take 4 then
    let close := line.idxOf 0x5D
    some (parsedRow ((kindByMark.lookup ((line.take close).drop 1)).getD .pending)
      (line.drop (close + 1)))
  else none

/-- A line of the preview that is not empty and has no spaces around it. -/
def parseStripped : Text → Option TodoRow
  | [] => none
  | first :: rest =>
    if first = dash ∨ first = ellipsis then none
    else
      match kindByMark.lookup [first] with
      | some kind =>
        if rest = [] ∨ rest.head? = some space then some (parsedRow kind rest)
        else parseLegacy (first :: rest)
      | none => parseLegacy (first :: rest)

/-- `parse_todo_preview_lines` -/
def parseTodoPreviewLines (preview : Option Text) : List TodoRow :=
  match preview with
  | none => []
  | some text =>
    if text.strip = [] then []
    else text.splitlines.filterMap fun raw => parseStripped raw.strip

/-- What the console shows of a row. -/
def TodoRow.shown (row : TodoRow) : Kind × Text := (row.kind, row.content)

/-- The text has no line break. -/
def Unbroken (text : Text) : Prop := ∀ point ∈ text, Text.isLineBreak point = false

instance unbrokenDecidable (text : Text) : Decidable (Unbroken text) :=
  List.decidableBAll _ text

variable {casefold : Casefold} {todos : List Todo} {todo : Todo} {row : TodoRow} {kind : Kind}
  {content text line : Text} {limit count : ℕ}

/-! ### Lines of a preview -/

theorem Unbroken.append {front back : Text} (first : Unbroken front) (second : Unbroken back) :
    Unbroken (front ++ back) :=
  forall_mem_append.2 ⟨first, second⟩

theorem unbroken_decimal : Unbroken (decimal count) := by
  intro point present
  rcases Text.mem_repr present with ⟨least, most⟩
  simp only [Text.isLineBreak]
  grind

theorem orEmpty_ne_nil : orEmpty content ≠ [] := by
  unfold orEmpty
  split
  · decide
  · assumption

theorem strip_orEmpty (stripped : content.strip = content) :
    (orEmpty content).strip = orEmpty content := by
  unfold orEmpty
  split
  · decide
  · exact stripped

theorem unbroken_orEmpty : Unbroken (orEmpty content) ↔ Unbroken content := by
  unfold orEmpty
  split
  · rename_i empty
    rw [empty]
    exact iff_of_true (by decide) (by decide)
  · exact Iff.rfl

theorem mark_visible : CodePoint.isSpace (todoMark kind) = false := by
  cases kind <;> decide

theorem mark_unbroken : Text.isLineBreak (todoMark kind) = false := by
  cases kind <;> decide

theorem lookup_mark : kindByMark.lookup [todoMark kind] = some kind := by
  cases kind <;> decide

theorem mark_not_rule : ¬(todoMark kind = dash ∨ todoMark kind = ellipsis) := by
  cases kind <;> decide

theorem row_strip (stripped : content.strip = content) (nonempty : content ≠ []) :
    Text.strip (todoMark kind :: space :: content) = todoMark kind :: space :: content := by
  refine Text.strip_of_ends ?_ ?_
  · intro point first
    cases Option.some.inj first
    exact mark_visible
  · rcases exists_cons_of_ne_nil nonempty with ⟨first, rest, rfl⟩
    rw [getLast?_cons_cons, getLast?_cons_cons]
    exact Text.last_of_strip stripped

theorem parse_line (stripped : content.strip = content) (nonempty : content ≠ []) :
    parseStripped (Text.strip (todoMark kind :: space :: content)) =
      some (parsedRow kind (space :: content)) := by
  rw [row_strip stripped nonempty, parseStripped, if_neg mark_not_rule, lookup_mark]
  exact if_pos (Or.inr rfl)

theorem strip_space : Text.strip (space :: content) = content.strip := by
  rw [Text.strip, dropWhile_cons_of_pos (by decide), ← Text.strip]

theorem parsedRow_shown (stripped : content.strip = content) :
    (parsedRow kind (space :: orEmpty content)).shown = (kind, orEmpty content) := by
  have same : (Text.strip (space :: orEmpty content)) = orEmpty content := by
    rw [strip_space, strip_orEmpty stripped]
  have kept : orEmpty (orEmpty content) = orEmpty content := if_neg orEmpty_ne_nil
  rw [TodoRow.shown, parsedRow, same, kept]

theorem todoRow_parsed : ∃ parsed, parseStripped (todoRow casefold todo).line.strip = some parsed ∧
    parsed.shown = (todoRow casefold todo).shown := by
  have stripped : todo.body.strip = todo.body := Text.strip_strip _
  exact ⟨_, parse_line (strip_orEmpty stripped) orEmpty_ne_nil, parsedRow_shown stripped⟩

theorem strip_visible {first : CodePoint} {rest : Text} (visible : first.isSpace = false) :
    ∃ others, Text.strip (first :: rest) = first :: others := by
  rw [Text.strip, dropWhile_cons_of_neg (by simp [visible])]
  have solid : ¬∀ point ∈ first :: rest, CodePoint.isSpace point = true := fun all =>
    Bool.false_ne_true (visible.symm.trans (all first mem_cons_self))
  have nonempty : (first :: rest).rdropWhile CodePoint.isSpace ≠ [] := by
    rwa [Ne, rdropWhile_eq_nil_iff]
  rcases exists_cons_of_ne_nil nonempty with ⟨own, others, parts⟩
  have front : (first :: rest).rdropWhile CodePoint.isSpace <+: first :: rest :=
    rdropWhile_prefix _ _
  rw [parts, cons_prefix_cons] at front
  exact ⟨others, by rw [parts, front.1]⟩

theorem parse_rule {first : CodePoint} {rest : Text} (rule : first = dash ∨ first = ellipsis) :
    parseStripped (Text.strip (first :: rest)) = none := by
  have visible : first.isSpace = false := by
    rcases rule with rfl | rfl
    · decide
    · decide
  rcases @strip_visible first rest visible with ⟨others, parts⟩
  rw [parts, parseStripped, if_pos rule]

/-! ### The round trip -/

theorem previewLines_unbroken (unbroken : ∀ todo ∈ todos.take limit, Unbroken todo.body) :
    ∀ line ∈ previewLines casefold todos limit, Unbroken line := by
  have number : ∀ count, Unbroken (decimal count) := fun count => unbroken_decimal
  intro line present
  rcases mem_append.1 present with upper | last
  · rcases mem_append.1 upper with row | more
    · rcases mem_map.1 row with ⟨row, inside, rfl⟩
      rcases mem_map.1 inside with ⟨todo, member, rfl⟩
      refine forall_mem_cons.2 ⟨mark_unbroken, forall_mem_cons.2 ⟨by decide, ?_⟩⟩
      exact unbroken_orEmpty.2 (unbroken todo member)
    · split at more
      · rw [mem_singleton.1 more, moreLine]
        exact Unbroken.append (Unbroken.append (by decide) (number _)) (by decide)
      · cases more
  · rw [mem_singleton.1 last, countsLine]
    refine Unbroken.append (Unbroken.append (Unbroken.append (Unbroken.append (Unbroken.append ?_
      (number _)) ?_) (number _)) ?_) (number _)
    · decide
    · decide
    · decide

theorem splitlines_preview (unbroken : ∀ todo ∈ todos.take limit, Unbroken todo.body) :
    (Text.joinLines (previewLines casefold todos limit)).splitlines =
      previewLines casefold todos limit := by
  refine Text.splitlines_joinLines (previewLines_unbroken unbroken) ?_
  intro line last
  rw [previewLines, getLast?_concat] at last
  cases Option.some.inj last
  exact cons_ne_nil _ _

theorem parse_previewLines :
    ((previewLines casefold todos limit).filterMap fun raw => parseStripped raw.strip).map
        TodoRow.shown =
      (iterTodoRows casefold todos (some limit)).map TodoRow.shown := by
  have rules : ((if limit < todos.length then [moreLine (todos.length - limit)] else []) ++
      [countsLine casefold todos]).filterMap (fun raw => parseStripped raw.strip) = [] := by
    refine filterMap_eq_nil_iff.2 fun line present => ?_
    rcases mem_append.1 present with more | counts
    · split at more
      · rw [mem_singleton.1 more]
        exact parse_rule (Or.inr rfl)
      · cases more
    · rw [mem_singleton.1 counts]
      exact parse_rule (Or.inl rfl)
  rw [previewLines, append_assoc, filterMap_append, rules, append_nil]
  unfold iterTodoRows
  rw [Option.map_some, Option.getD_some]
  induction todos.take limit with
  | nil => rfl
  | cons todo rest ih =>
    rcases @todoRow_parsed casefold todo with ⟨parsed, read, same⟩
    rw [map_cons, map_cons, map_cons, ← same, ← ih]
    exact congrArg (List.map TodoRow.shown)
      (@filterMap_cons_some _ _ (fun raw => parseStripped (Text.strip raw)) _ _ _ read)

theorem parseLegacy_content (unbroken : Unbroken line) (read : parseLegacy line = some row) :
    Unbroken row.content := by
  unfold parseLegacy at read
  rcases Option.ite_none_right_eq_some.mp read with ⟨_, ⟨⟩⟩
  refine unbroken_orEmpty.2 fun point inside => unbroken point ?_
  exact mem_of_mem_drop (Text.strip_subset inside)

theorem parseStripped_content (unbroken : Unbroken line) (read : parseStripped line = some row) :
    Unbroken row.content := by
  cases line with
  | nil => cases read
  | cons first rest =>
    rw [parseStripped] at read
    rcases Option.ite_none_left_eq_some.mp read with ⟨_, read⟩
    split at read
    · split at read
      · cases read
        refine unbroken_orEmpty.2 fun point inside => unbroken point ?_
        exact mem_cons_of_mem _ (Text.strip_subset inside)
      · exact parseLegacy_content unbroken read
    · exact parseLegacy_content unbroken read

theorem parse_content {preview : Option Text} (present : row ∈ parseTodoPreviewLines preview) :
    Unbroken row.content := by
  cases preview with
  | none => cases present
  | some text =>
    unfold parseTodoPreviewLines at present
    dsimp only at present
    split at present
    · cases present
    · rcases mem_filterMap.1 present with ⟨raw, inside, read⟩
      refine parseStripped_content (fun point member => ?_) read
      exact Text.splitlines_unbroken inside point (Text.strip_subset member)

theorem format_parsed (unbroken : ∀ todo ∈ todos.take limit, Unbroken todo.body) :
    (parseTodoPreviewLines (formatTodosPreview casefold todos limit)).map TodoRow.shown =
      (iterTodoRows casefold todos (some limit)).map TodoRow.shown := by
  by_cases empty : todos = []
  · rw [formatTodosPreview, if_pos empty, empty]
    unfold iterTodoRows
    rw [Option.map_some, Option.getD_some, take_nil]
    rfl
  · have visible : (Text.joinLines (previewLines casefold todos limit)).strip ≠ [] := by
      intro blank
      have lines := @splitlines_preview casefold todos limit unbroken
      have last : countsLine casefold todos ∈ previewLines casefold todos limit :=
        mem_append_right _ (mem_singleton_self _)
      rw [← lines] at last
      have inside := Text.mem_of_mem_splitlines last (mem_cons_self : dash ∈ _)
      exact absurd (Text.strip_eq_nil.1 blank _ inside) (by decide)
    rw [formatTodosPreview, if_neg empty, parseTodoPreviewLines, if_neg visible,
      splitlines_preview unbroken, parse_previewLines]

/-- A preview holds its list if and only if no content has a line break. -/
theorem parse_format_iff (few : todos.length ≤ 16) :
    (parseTodoPreviewLines (formatTodosPreview casefold todos 16)).map TodoRow.shown =
        (iterTodoRows casefold todos none).map TodoRow.shown ↔
      ∀ todo ∈ todos, Unbroken todo.body := by
  constructor
  · intro same todo member
    have row : (todoRow casefold todo).shown ∈
        (iterTodoRows casefold todos none).map TodoRow.shown :=
      List.mem_map_of_mem (List.mem_map_of_mem member)
    rw [← same, List.mem_map] at row
    rcases row with ⟨parsed, present, own⟩
    have contents : parsed.content = orEmpty todo.body := congrArg Prod.snd own
    exact unbroken_orEmpty.1 (contents ▸ parse_content present)
  · intro unbroken
    have all : todos.take 16 = todos := List.take_of_length_le few
    have read := @format_parsed casefold todos 16 (by rwa [all])
    have rows : iterTodoRows casefold todos (some 16) = iterTodoRows casefold todos none := by
      rw [iterTodoRows, iterTodoRows, Option.map_some, Option.getD_some, all]
      rfl
    rwa [rows] at read

/-- A list of one entry. -/
def oneTodo (content : String) : List Todo :=
  [⟨some (Text.ofString content), some (Text.ofString "pending")⟩]

theorem parse_format_oneTodo :
    (parseTodoPreviewLines (formatTodosPreview (fun text => text) (oneTodo "[x] — read") 16)).map
        TodoRow.shown =
        (iterTodoRows (fun text => text) (oneTodo "[x] — read") none).map TodoRow.shown ↔
      ∀ todo ∈ oneTodo "[x] — read", Unbroken todo.body :=
  parse_format_iff (by decide)

/-- The second line of a content is lost. -/
theorem broken_content_lost : ¬ ∀ (casefold : Casefold) (todos : List Todo), todos.length ≤ 16 →
    (parseTodoPreviewLines (formatTodosPreview casefold todos 16)).map TodoRow.shown =
      (iterTodoRows casefold todos none).map TodoRow.shown := by
  intro same
  exact absurd (same (fun text => text) (oneTodo "first\nsecond") (by decide)) (by decide +kernel)

end Synapse.Streaming.TodoPreview
