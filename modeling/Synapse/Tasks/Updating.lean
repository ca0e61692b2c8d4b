import Synapse.Foundation.Machine
import Synapse.Tasks.Listing

/-!
# Updates of a task

An update reads the row, puts the fields that were given into it, and writes every column back. Stores on one
file have a connection and a lock each; what a connection has written is seen by the others when it commits.
-/

namespace Synapse.Tasks

/-! ### Validation -/

def maxTaskTitleChars : ℕ := 200
def maxTaskDescriptionChars : ℕ := 20000
def maxLabelsCount : ℕ := 20
def maxLabelChars : ℕ := 50

namespace TaskStatus

def value : TaskStatus → Text
  | todo => Text.ofString "todo"
  | inProgress => Text.ofString "in_progress"
  | blocked => Text.ofString "blocked"
  | done => Text.ofString "done"

def all : List TaskStatus := [todo, inProgress, blocked, done]

def isTerminal (status : TaskStatus) : Bool := status = done

end TaskStatus

namespace TaskPriority

def value : TaskPriority → Text
  | low => Text.ofString "low"
  | medium => Text.ofString "medium"
  | high => Text.ofString "high"
  | critical => Text.ofString "critical"

def all : List TaskPriority := [low, medium, high, critical]

end TaskPriority

/-- The `ValueError`s of the validators -/
inductive TaskError where
  | titleEmpty
  | titleTooLong (length : ℕ)
  | descriptionTooLong (length : ℕ)
  | invalidStatus (status : Text)
  | invalidPriority (priority : Text)
  | labelTooLong (label : Text)
  | tooManyLabels
  deriving DecidableEq

def validateTaskTitle (title : Text) : Except TaskError Text :=
  let cleaned := title.strip
  if cleaned = [] then .error .titleEmpty
  else if maxTaskTitleChars < cleaned.length then .error (.titleTooLong cleaned.length)
  else .ok cleaned

def validateTaskDescription (description : Text) : Except TaskError Text :=
  if maxTaskDescriptionChars < description.length then .error (.descriptionTooLong description.length)
  else .ok description

section

variable (lower : Text → Text)

/-- `TaskStatus | str` -/
def validateTaskStatus : TaskStatus ⊕ Text → Except TaskError TaskStatus
  | .inl status => .ok status
  | .inr status =>
    match TaskStatus.all.find? fun known => known.value = lower status with
    | some known => .ok known
    | none => .error (.invalidStatus status)

def validateTaskPriority : TaskPriority ⊕ Text → Except TaskError TaskPriority
  | .inl priority => .ok priority
  | .inr priority =>
    match TaskPriority.all.find? fun known => known.value = lower priority with
    | some known => .ok known
    | none => .error (.invalidPriority priority)

/-- The loop of `validate_task_labels`, with the labels that are clean so far -/
def validateLabelsFrom (cleaned : List Text) : List Text → Except TaskError (List Text)
  | [] => .ok cleaned
  | item :: items =>
    let tag := lower (Text.strip item)
    if tag = [] ∨ tag ∈ cleaned then validateLabelsFrom cleaned items
    else if maxLabelChars < tag.length then .error (.labelTooLong tag)
    else if maxLabelsCount < (cleaned ++ [tag]).length then .error .tooManyLabels
    else validateLabelsFrom (cleaned ++ [tag]) items

def validateTaskLabels (labels : List Text) : Except TaskError (List Text) := validateLabelsFrom lower [] labels

/-! ### Rows -/

/-- The arguments of `insert` -/
structure NewTask where
  title : Text
  description : Text := []
  priority : TaskPriority ⊕ Text := .inl .medium
  status : TaskStatus ⊕ Text := .inl .todo
  labels : List Text := []
  assignedThreadId : Option Text := none
  deriving DecidableEq

/-- The row of `insert` -/
def NewTask.task (args : NewTask) (id : Text) (nowMs : ℤ) : Except TaskError ProjectTask := do
  let title ← validateTaskTitle args.title
  let description ← validateTaskDescription args.description
  let status ← validateTaskStatus lower args.status
  let priority ← validateTaskPriority lower args.priority
  let labels ← validateTaskLabels lower args.labels
  return {
    id := id
    title := title
    description := description
    status := status
    priority := priority
    labels := labels
    assignedThreadId := (args.assignedThreadId.filter (· ≠ [])).map Text.strip
    createdAtMs := nowMs
    updatedAtMs := nowMs
    completedAtMs := if status.isTerminal then some nowMs else none }

/-- A call of `update`, and the store that it goes to. -/
structure UpdateCall where
  store : ℕ
  title : Option Text := none
  description : Option Text := none
  status : Option (TaskStatus ⊕ Text) := none
  priority : Option (TaskPriority ⊕ Text) := none
  labels : Option (List Text) := none
  assignedThreadId : Option Text := none
  clearAssignedThread : Bool := false
  deriving DecidableEq

/-- `validate(value) if value is not None else current` -/
def orCurrent {Given Value : Type} (validate : Given → Except TaskError Value) (given : Option Given)
    (current : Value) : Except TaskError Value :=
  match given with
  | some given => validate given
  | none => .ok current

namespace UpdateCall

variable (call : UpdateCall)

def newAssigned (current : Option Text) : Option Text :=
  if call.clearAssignedThread then none
  else
    match call.assignedThreadId with
    | some assigned => if Text.strip assigned = [] then none else some (Text.strip assigned)
    | none => current

def newCompletedAt (current : ProjectTask) (status : TaskStatus) (nowMs : ℤ) : Option ℤ :=
  if status.isTerminal ∧ ¬ current.status.isTerminal then some nowMs
  else if ¬ status.isTerminal ∧ current.status.isTerminal then none
  else current.completedAtMs

/-- The row that `update` writes -/
def merged (current : ProjectTask) (nowMs : ℤ) : Except TaskError ProjectTask := do
  let title ← orCurrent validateTaskTitle call.title current.title
  let description ← orCurrent validateTaskDescription call.description current.description
  let status ← orCurrent (validateTaskStatus lower) call.status current.status
  let priority ← orCurrent (validateTaskPriority lower) call.priority current.priority
  let labels ← orCurrent (validateTaskLabels lower) call.labels current.labels
  return { current with
    title := title
    description := description
    status := status
    priority := priority
    labels := labels
    assignedThreadId := call.newAssigned current.assignedThreadId
    updatedAtMs := nowMs
    completedAtMs := newCompletedAt current status nowMs }

end UpdateCall

end

/-- The texts of a row are bound as UTF-8; the labels are bound as ASCII. -/
def ProjectTask.Binds (task : ProjectTask) : Prop :=
  task.id.Encodes ∧ task.title.Encodes ∧ task.description.Encodes ∧
    ∀ thread ∈ task.assignedThreadId, thread.Encodes

instance (task : ProjectTask) : Decidable task.Binds := inferInstanceAs (Decidable (_ ∧ _ ∧ _ ∧ _))

/-- `_task_from_row` of a row that a store has written; an empty thread is read as none. -/
def ProjectTask.fromRow (row : ProjectTask) : ProjectTask :=
  { row with assignedThreadId := row.assignedThreadId.filter (· ≠ []) }

/-! ### Stores -/

/-- A connection: outside of a transaction, in one that has not read yet, or in one that reads a snapshot. -/
inductive Connection where
  | idle
  | opened
  | reading (version : ℕ) (row : Option ProjectTask)
  deriving DecidableEq

inductive Phase where
  | idle
  | locked
  | read (current : ProjectTask)
  | written (task : ProjectTask)
  | committed (task : ProjectTask)
  | returned (result : Option ProjectTask)
  | raised
  deriving DecidableEq

/-- The row of the task as committed, the connections and locks of the stores, and the calls. -/
structure TaskFile where
  row : Option ProjectTask
  /-- How often the file was written -/
  version : ℕ
  /-- The call whose connection holds the write lock, with the row that it has written -/
  writer : Option (ℕ × ProjectTask)
  connections : ℕ → Connection
  locks : ℕ → Option ℕ
  phases : ℕ → Phase

inductive Step where
  /-- `insert` of a task into a file without it, by a store of its own -/
  | insert (args : NewTask) (id : Text) (nowMs : ℤ)
  | acquire (call : ℕ)
  /-- The `SELECT` of `get` -/
  | select (call : ℕ)
  | write (call : ℕ) (nowMs : ℤ)
  /-- The busy timeout of the `UPDATE` has passed. -/
  | timeout (call : ℕ) (nowMs : ℤ)
  | commit (call : ℕ)
  /-- The second `SELECT`, and the return -/
  | reread (call : ℕ)
  deriving DecidableEq

namespace TaskFile

def empty : TaskFile where
  row := none
  version := 0
  writer := none
  connections _ := .idle
  locks _ := none
  phases _ := .idle

variable (file : TaskFile)

def setPhase (index : ℕ) (phase : Phase) : TaskFile :=
  { file with phases := Function.update file.phases index phase }

def setConnection (store : ℕ) (connection : Connection) : TaskFile :=
  { file with connections := Function.update file.connections store connection }

/-- The end of a call, which leaves the lock. -/
def finish (index store : ℕ) (phase : Phase) : TaskFile :=
  { file.setPhase index phase with locks := Function.update file.locks store none }

/-- What a connection reads, and the connection afterwards -/
def selected (store : ℕ) : Option ProjectTask × Connection :=
  match file.connections store with
  | .idle => (file.row, .idle)
  | .opened => (file.row, .reading file.version file.row)
  | .reading version row => (row, .reading version row)

/-- A snapshot that others have written behind cannot be written. -/
def stale (store : ℕ) : Bool :=
  match file.connections store with
  | .reading version _ => version ≠ file.version
  | _ => false

/-- The transaction that was begun for a statement that failed -/
def begun (store : ℕ) : Connection :=
  match file.connections store with
  | .idle => .opened
  | connection => connection

variable (lower : Text → Text) (calls : List UpdateCall)

/-- The `UPDATE` of a call -/
def update (index : ℕ) (call : UpdateCall) (current : ProjectTask) (nowMs : ℤ) (busy : Bool) : Option TaskFile :=
  match call.merged lower current nowMs with
  | .error _ => some (file.finish index call.store .raised)
  | .ok task =>
    if ¬ task.Binds ∨ file.stale call.store = true then
      some ((file.setConnection call.store (file.begun call.store)).finish index call.store .raised)
    else
      match file.writer with
      | some _ =>
        if busy then
          some ((file.setConnection call.store (file.begun call.store)).finish index call.store .raised)
        else none
      | none =>
        if busy then none
        else some { file.setPhase index (.written task) with writer := some (index, task) }

def step : Step → Option TaskFile
  | .insert args id nowMs =>
    match file.row, file.writer, args.task lower id nowMs with
    | none, none, .ok task =>
      if task.Binds then some { file with row := some task, version := file.version + 1 } else none
    | _, _, _ => none
  | .acquire index =>
    match calls[index]?, file.phases index with
    | some call, .idle =>
      match file.locks call.store with
      | none => some { file.setPhase index .locked with
          locks := Function.update file.locks call.store (some index) }
      | some _ => none
    | _, _ => none
  | .select index =>
    match calls[index]?, file.phases index with
    | some call, .locked =>
      let read := file.selected call.store
      let after := file.setConnection call.store read.2
      match read.1 with
      | some row => some (after.setPhase index (.read row.fromRow))
      | none => some (after.finish index call.store (.returned none))
    | _, _ => none
  | .write index nowMs =>
    match calls[index]?, file.phases index with
    | some call, .read current => file.update lower index call current nowMs false
    | _, _ => none
  | .timeout index nowMs =>
    match calls[index]?, file.phases index with
    | some call, .read current => file.update lower index call current nowMs true
    | _, _ => none
  | .commit index =>
    match calls[index]?, file.phases index, file.writer with
    | some call, .written _, some (writer, task) =>
      if writer = index then
        some { (file.setPhase index (.committed task)).setConnection call.store .idle with
          row := some task
          version := file.version + 1
          writer := none }
      else none
    | _, _, _ => none
  | .reread index =>
    match calls[index]?, file.phases index with
    | some call, .committed _ => some (file.finish index call.store (.returned (file.row.map ProjectTask.fromRow)))
    | _, _ => none

def machine : Machine TaskFile Step := ⟨fun file step => file.step lower calls step⟩

end TaskFile

end Synapse.Tasks
