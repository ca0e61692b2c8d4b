import Synapse.Tasks.Updating

/-!
# The fields of concurrent updates

A field that one call sets keeps the value of that call as long as every other call writes back what is stored
in the field. A task has a time of completion exactly when it is done, whatever the calls write.
-/

namespace Synapse.Tasks

variable {lower : Text → Text} {call : UpdateCall} {current task other : ProjectTask} {nowMs : ℤ}

/-! ### Fields -/

inductive Field where
  | title
  | description
  | status
  | priority
  | labels
  | assignedThread
  deriving DecidableEq

namespace Field

instance : Fintype Field where
  elems := {title, description, status, priority, labels, assignedThread}
  complete field := by cases field <;> decide

def Sets (field : Field) (call : UpdateCall) : Prop :=
  match field with
  | title => call.title.isSome = true
  | description => call.description.isSome = true
  | status => call.status.isSome = true
  | priority => call.priority.isSome = true
  | labels => call.labels.isSome = true
  | assignedThread => call.clearAssignedThread = true ∨ call.assignedThreadId.isSome = true

instance (field : Field) (call : UpdateCall) : Decidable (field.Sets call) :=
  match field with
  | title => inferInstanceAs (Decidable (_ = true))
  | description => inferInstanceAs (Decidable (_ = true))
  | status => inferInstanceAs (Decidable (_ = true))
  | priority => inferInstanceAs (Decidable (_ = true))
  | labels => inferInstanceAs (Decidable (_ = true))
  | assignedThread => inferInstanceAs (Decidable (_ ∨ _))

/-- Two rows have the same value in the field. -/
def Same (field : Field) (first second : ProjectTask) : Prop :=
  match field with
  | title => first.title = second.title
  | description => first.description = second.description
  | status => first.status = second.status
  | priority => first.priority = second.priority
  | labels => first.labels = second.labels
  | assignedThread => first.assignedThreadId = second.assignedThreadId

instance (field : Field) (first second : ProjectTask) : Decidable (field.Same first second) :=
  match field with
  | title => inferInstanceAs (Decidable (_ = _))
  | description => inferInstanceAs (Decidable (_ = _))
  | status => inferInstanceAs (Decidable (_ = _))
  | priority => inferInstanceAs (Decidable (_ = _))
  | labels => inferInstanceAs (Decidable (_ = _))
  | assignedThread => inferInstanceAs (Decidable (_ = _))

/-- A row has the value that a call gives to the field. -/
def Given (lower : Text → Text) (field : Field) (call : UpdateCall) (task : ProjectTask) : Prop :=
  match field with
  | title => call.title.map validateTaskTitle = some (.ok task.title)
  | description => call.description.map validateTaskDescription = some (.ok task.description)
  | status => call.status.map (validateTaskStatus lower) = some (.ok task.status)
  | priority => call.priority.map (validateTaskPriority lower) = some (.ok task.priority)
  | labels => call.labels.map (validateTaskLabels lower) = some (.ok task.labels)
  | assignedThread => task.assignedThreadId = call.newAssigned none

end Field

theorem orCurrent_ok {Given Value : Type} {validate : Given → Except TaskError Value} {given : Option Given}
    {current value : Value} (taken : orCurrent validate given current = .ok value) :
    given.map validate = some (.ok value) ∨ given = none ∧ value = current := by
  cases given with
  | some given => exact Or.inl (congrArg some taken)
  | none => exact Or.inr ⟨rfl, (Except.ok.inj taken).symm⟩

/-- What an update writes -/
structure Merges (lower : Text → Text) (call : UpdateCall) (current task : ProjectTask) (nowMs : ℤ) : Prop where
  title : orCurrent validateTaskTitle call.title current.title = .ok task.title
  description : orCurrent validateTaskDescription call.description current.description = .ok task.description
  status : orCurrent (validateTaskStatus lower) call.status current.status = .ok task.status
  priority : orCurrent (validateTaskPriority lower) call.priority current.priority = .ok task.priority
  labels : orCurrent (validateTaskLabels lower) call.labels current.labels = .ok task.labels
  assigned : task.assignedThreadId = call.newAssigned current.assignedThreadId
  completed : task.completedAtMs = UpdateCall.newCompletedAt current task.status nowMs

theorem bind_ok {Error Value Result : Type} {source : Except Error Value} {rest : Value → Except Error Result}
    {result : Result} (done : source >>= rest = .ok result) :
    ∃ value, source = .ok value ∧ rest value = .ok result := by
  cases source with
  | error error => cases done
  | ok value => exact ⟨value, rfl, done⟩

theorem merges_of_merged (done : call.merged lower current nowMs = .ok task) :
    Merges lower call current task nowMs := by
  rw [UpdateCall.merged] at done
  rcases bind_ok done with ⟨title, titled, done⟩
  rcases bind_ok done with ⟨description, described, done⟩
  rcases bind_ok done with ⟨status, inStatus, done⟩
  rcases bind_ok done with ⟨priority, prior, done⟩
  rcases bind_ok done with ⟨labels, labelled, done⟩
  cases done
  exact ⟨titled, described, inStatus, prior, labelled, rfl, rfl⟩

theorem newAssigned_of_sets (sets : Field.assignedThread.Sets call) (current : Option Text) :
    call.newAssigned current = call.newAssigned none := by
  rw [UpdateCall.newAssigned, UpdateCall.newAssigned]
  cases cleared : call.clearAssignedThread with
  | true => rfl
  | false =>
    rcases sets with clears | given
    · rw [cleared] at clears
      cases clears
    · rcases Option.isSome_iff_exists.1 given with ⟨thread, own⟩
      rw [own]

variable {field : Field}

theorem Merges.given (merges : Merges lower call current task nowMs) (sets : field.Sets call) :
    field.Given lower call task := by
  have given {Given Value : Type} {validate : Given → Except TaskError Value} {given : Option Given}
      {current value : Value} (some : given.isSome = true)
      (taken : orCurrent validate given current = .ok value) : given.map validate = Option.some (.ok value) := by
    rcases orCurrent_ok taken with own | ⟨rfl, _⟩
    · exact own
    · cases some
  cases field with
  | title => exact given sets merges.title
  | description => exact given sets merges.description
  | status => exact given sets merges.status
  | priority => exact given sets merges.priority
  | labels => exact given sets merges.labels
  | assignedThread => exact merges.assigned.trans (newAssigned_of_sets sets _)

theorem Merges.same (merges : Merges lower call current task nowMs) (unset : ¬ field.Sets call) :
    field.Same task current := by
  have same {Given Value : Type} {validate : Given → Except TaskError Value} {given : Option Given}
      {current value : Value} (none : ¬ given.isSome = true)
      (taken : orCurrent validate given current = .ok value) : value = current := by
    rcases orCurrent_ok taken with own | ⟨_, same⟩
    · rcases Option.map_eq_some_iff.1 own with ⟨value, rfl, _⟩
      exact absurd rfl none
    · exact same
  cases field with
  | title => exact same unset merges.title
  | description => exact same unset merges.description
  | status => exact same unset merges.status
  | priority => exact same unset merges.priority
  | labels => exact same unset merges.labels
  | assignedThread =>
    have own := merges.assigned
    rcases not_or.1 unset with ⟨keeps, given⟩
    rw [UpdateCall.newAssigned, if_neg keeps] at own
    have missing : call.assignedThreadId = none := by simpa using given
    rw [missing] at own
    exact own

theorem Field.Given.congr (given : field.Given lower call task) (same : field.Same other task) :
    field.Given lower call other := by
  cases field with
  | title => exact given.trans (by rw [same])
  | description => exact given.trans (by rw [same])
  | status => exact given.trans (by rw [same])
  | priority => exact given.trans (by rw [same])
  | labels => exact given.trans (by rw [same])
  | assignedThread => exact same.trans given

/-! ### Completion -/

/-- A task has a time of completion exactly when its status is terminal. -/
def Ended (task : ProjectTask) : Prop := task.completedAtMs.isSome = task.status.isTerminal

instance (task : ProjectTask) : Decidable (Ended task) := inferInstanceAs (Decidable (_ = _))

theorem Merges.ended (merges : Merges lower call current task nowMs) (ended : Ended current) : Ended task := by
  rw [Ended, merges.completed, UpdateCall.newCompletedAt]
  rw [Ended] at ended
  cases own : task.status.isTerminal with
  | true =>
    cases before : current.status.isTerminal with
    | true => simpa [before] using ended
    | false => simp
  | false =>
    cases before : current.status.isTerminal with
    | true => simp
    | false => simpa [before] using ended

theorem ended_task {args : NewTask} {id : Text} (made : args.task lower id nowMs = .ok task) : Ended task := by
  rw [NewTask.task] at made
  rcases bind_ok made with ⟨title, _, made⟩
  rcases bind_ok made with ⟨description, _, made⟩
  rcases bind_ok made with ⟨status, _, made⟩
  rcases bind_ok made with ⟨priority, _, made⟩
  rcases bind_ok made with ⟨labels, _, made⟩
  cases made
  rw [Ended]
  cases status.isTerminal <;> rfl

theorem ended_fromRow (ended : Ended task) : Ended task.fromRow := ended

namespace TaskFile

variable {calls : List UpdateCall} {file next : TaskFile} {label : Step}

/-! ### Steps -/

/-- What a step does to a file -/
inductive Change (lower : Text → Text) (calls : List UpdateCall) (file : TaskFile) : Step → TaskFile → Prop
  | inserted {args : NewTask} {id : Text} {nowMs : ℤ} {task : ProjectTask} (missing : file.row = none)
      (free : file.writer = none) (made : args.task lower id nowMs = .ok task) :
      Change lower calls file (.insert args id nowMs) { file with row := some task, version := file.version + 1 }
  | acquired {index : ℕ} {call : UpdateCall} (called : calls[index]? = some call)
      (waits : file.phases index = .idle) :
      Change lower calls file (.acquire index) { file.setPhase index .locked with
        locks := Function.update file.locks call.store (some index) }
  | read {index : ℕ} {call : UpdateCall} {row : ProjectTask} (called : calls[index]? = some call)
      (locked : file.phases index = .locked) (found : (file.selected call.store).1 = some row) :
      Change lower calls file (.select index)
        ((file.setConnection call.store (file.selected call.store).2).setPhase index (.read row.fromRow))
  | missed {index : ℕ} {call : UpdateCall} (called : calls[index]? = some call)
      (locked : file.phases index = .locked) (found : (file.selected call.store).1 = none) :
      Change lower calls file (.select index)
        ((file.setConnection call.store (file.selected call.store).2).finish index call.store (.returned none))
  | refused {label : Step} {index : ℕ} {call : UpdateCall} {current : ProjectTask}
      (called : calls[index]? = some call) (read : file.phases index = .read current) :
      Change lower calls file label (file.finish index call.store .raised)
  | failed {label : Step} {index : ℕ} {call : UpdateCall} {current : ProjectTask}
      (called : calls[index]? = some call) (read : file.phases index = .read current) :
      Change lower calls file label
        ((file.setConnection call.store (file.begun call.store)).finish index call.store .raised)
  | written {index : ℕ} {call : UpdateCall} {current task : ProjectTask} {nowMs : ℤ}
      (called : calls[index]? = some call) (read : file.phases index = .read current)
      (merged : call.merged lower current nowMs = .ok task) (free : file.writer = none) :
      Change lower calls file (.write index nowMs)
        { file.setPhase index (.written task) with writer := some (index, task) }
  | committed {index : ℕ} {call : UpdateCall} {task : ProjectTask} (called : calls[index]? = some call)
      (own : file.writer = some (index, task)) :
      Change lower calls file (.commit index)
        { (file.setPhase index (.committed task)).setConnection call.store .idle with
          row := some task
          version := file.version + 1
          writer := none }
  | returned {index : ℕ} {call : UpdateCall} {task : ProjectTask} (called : calls[index]? = some call)
      (done : file.phases index = .committed task) :
      Change lower calls file (.reread index)
        (file.finish index call.store (.returned (file.row.map ProjectTask.fromRow)))

variable {index : ℕ}

theorem update_cases {busy : Bool}
    (called : calls[index]? = some call) (read : file.phases index = .read current)
    (label : Step) (writes : busy = false → label = .write index nowMs)
    (updated : file.update lower index call current nowMs busy = some next) :
    Change lower calls file label next := by
  rw [update] at updated
  split at updated
  · cases updated
    exact .refused called read
  · rename_i task merged
    split at updated
    · cases updated
      exact .failed called read
    · split at updated
      · rcases of_guard updated with ⟨_, rfl⟩
        exact .failed called read
      · rename_i free
        rcases Option.ite_none_left_eq_some.mp updated with ⟨quick, ⟨⟩⟩
        rw [writes (Bool.eq_false_of_not_eq_true quick)]
        exact .written called read merged free

theorem change (stepped : (machine lower calls).step file label = some next) : Change lower calls file label next := by
  change file.step lower calls label = some next at stepped
  cases label with
  | insert args id nowMs =>
    rw [step] at stepped
    split at stepped
    · rename_i task missing free made
      rcases Option.ite_none_right_eq_some.mp stepped with ⟨_, ⟨⟩⟩
      exact .inserted missing free made
    · cases stepped
  | acquire index =>
    rw [step] at stepped
    split at stepped
    · rename_i call called waits
      split at stepped
      · cases stepped
        exact .acquired called waits
      · cases stepped
    · cases stepped
  | select index =>
    rw [step] at stepped
    split at stepped
    · rename_i call called locked
      dsimp only at stepped
      split at stepped
      · rename_i row found
        cases stepped
        exact .read called locked found
      · rename_i found
        cases stepped
        exact .missed called locked found
    · cases stepped
  | write index nowMs =>
    rw [step] at stepped
    split at stepped
    · rename_i call current called read
      exact update_cases called read _ (fun _ => rfl) stepped
    · cases stepped
  | timeout index nowMs =>
    rw [step] at stepped
    split at stepped
    · rename_i call current called read
      exact update_cases called read _ (fun quick => by cases quick) stepped
    · cases stepped
  | commit index =>
    rw [step] at stepped
    split at stepped
    · rename_i call called phase own
      rcases Option.ite_none_right_eq_some.mp stepped with ⟨same, stepped⟩
      subst same
      cases stepped
      exact .committed called own
    · cases stepped
  | reread index =>
    rw [step] at stepped
    split at stepped
    · rename_i call called done
      cases stepped
      exact .returned called done
    · cases stepped

/-! ### Completion times -/

structure Completed (file : TaskFile) : Prop where
  row : ∀ task ∈ file.row, Ended task
  writer : ∀ index task, file.writer = some (index, task) → Ended task
  reads : ∀ index current, file.phases index = .read current → Ended current
  snapshots : ∀ store version row, file.connections store = .reading version (some row) → Ended row

theorem completed_empty : Completed empty where
  row := fun _ none => by cases none
  writer := fun _ _ none => by cases none
  reads := fun _ _ idle => by cases idle
  snapshots := fun _ _ _ idle => by cases idle

/-- What a connection reads is a row that was committed, now or when its snapshot was taken. -/
theorem Completed.selected (completed : Completed file) (store : ℕ) :
    (∀ row, (file.selected store).1 = some row → Ended row) ∧
      ∀ version row, (file.selected store).2 = .reading version (some row) → Ended row := by
  rw [TaskFile.selected]
  split
  · exact ⟨completed.row, fun _ _ idle => by cases idle⟩
  · refine ⟨completed.row, fun _ row taken => completed.row row ?_⟩
    injection taken
  · rename_i version row reading
    refine ⟨fun row own => completed.snapshots store version row (own ▸ reading), fun _ other taken => ?_⟩
    exact completed.snapshots store _ other (reading.trans taken)

variable {phase : Phase}

theorem Completed.setPhase (completed : Completed file) (index : ℕ)
    (ended : ∀ current, phase = .read current → Ended current) : Completed (file.setPhase index phase) where
  row := completed.row
  writer := completed.writer
  reads := fun other current read => by
    by_cases same : other = index
    · subst same
      exact ended current ((Function.update_self ..).symm.trans read)
    · exact completed.reads other current ((Function.update_of_ne same ..).symm.trans read)
  snapshots := completed.snapshots

theorem Completed.setConnection (completed : Completed file) (store : ℕ) {connection : Connection}
    (ended : ∀ version row, connection = .reading version (some row) → Ended row) :
    Completed (file.setConnection store connection) where
  row := completed.row
  writer := completed.writer
  reads := completed.reads
  snapshots := fun other version row reading => by
    by_cases same : other = store
    · subst same
      exact ended version row ((Function.update_self ..).symm.trans reading)
    · exact completed.snapshots other version row ((Function.update_of_ne same ..).symm.trans reading)

theorem Completed.congr (completed : Completed file) (row : next.row = file.row) (writer : next.writer = file.writer)
    (phases : next.phases = file.phases) (connections : next.connections = file.connections) : Completed next where
  row := by rw [row]; exact completed.row
  writer := by rw [writer]; exact completed.writer
  reads := by rw [phases]; exact completed.reads
  snapshots := by rw [connections]; exact completed.snapshots

theorem Completed.finish (completed : Completed file) (index store : ℕ)
    (ended : ∀ current, phase = .read current → Ended current) : Completed (file.finish index store phase) :=
  (completed.setPhase index ended).congr rfl rfl rfl rfl

theorem Completed.begun (completed : Completed file) (store : ℕ) :
    Completed (file.setConnection store (file.begun store)) := by
  refine completed.setConnection store fun version row reading => ?_
  rw [TaskFile.begun] at reading
  split at reading
  · cases reading
  · exact completed.snapshots store version row reading

theorem Completed.step (completed : Completed file) (stepped : (machine lower calls).step file label = some next) :
    Completed next := by
  cases change stepped with
  | inserted missing free made =>
    refine ⟨fun task own => ?_, completed.writer, completed.reads, completed.snapshots⟩
    cases own
    exact ended_task made
  | acquired called waits =>
    exact (completed.setPhase _ fun _ read => by cases read).congr rfl rfl rfl rfl
  | read called locked found =>
    refine (completed.setConnection _ (completed.selected _).2).setPhase _ fun current read => ?_
    cases read
    exact ended_fromRow ((completed.selected _).1 _ found)
  | missed called locked found =>
    exact (completed.setConnection _ (completed.selected _).2).finish _ _ fun _ read => by cases read
  | refused called read => exact completed.finish _ _ fun _ read => by cases read
  | failed called read => exact (completed.begun _).finish _ _ fun _ read => by cases read
  | @written index call current task nowMs called read merged free =>
    have after : Completed (file.setPhase index (.written task)) :=
      completed.setPhase index fun _ read => by cases read
    refine ⟨after.row, fun index task own => ?_, after.reads, after.snapshots⟩
    cases own
    exact (merges_of_merged merged).ended (completed.reads _ _ read)
  | @committed index call task called own =>
    have phased : Completed (file.setPhase index (.committed task)) :=
      completed.setPhase index fun _ read => by cases read
    have after : Completed ((file.setPhase index (.committed task)).setConnection call.store .idle) :=
      phased.setConnection call.store fun _ _ idle => by cases idle
    refine ⟨fun task done => ?_, fun _ _ none => (by cases none), after.reads, after.snapshots⟩
    cases done
    exact completed.writer _ _ own
  | returned called done => exact completed.finish _ _ fun _ read => by cases read

/-! ### Fields -/

/-- The calls that set a field -/
def setters (calls : List UpdateCall) (field : Field) : List ℕ :=
  (List.range calls.length).filter fun index => ∃ call ∈ calls[index]?, field.Sets call

/-- The call that sets a field, if there is exactly one -/
def soleSetter (calls : List UpdateCall) (field : Field) : Option ℕ :=
  match setters calls field with
  | [index] => some index
  | _ => none

theorem eq_of_soleSetter {other : ℕ} (sole : soleSetter calls field = some index)
    (called : calls[other]? = some call) (sets : field.Sets call) : other = index := by
  have mem : other ∈ setters calls field := by
    have bound := (List.getElem?_eq_some_iff.1 called).1
    exact List.mem_filter.2 ⟨List.mem_range.2 bound, decide_eq_true ⟨call, called, sets⟩⟩
  rw [soleSetter] at sole
  split at sole
  · rename_i only
    cases sole
    rw [only] at mem
    exact List.mem_singleton.1 mem
  · cases sole

theorem sets_of_soleSetter (sole : soleSetter calls field = some index) :
    ∃ call, calls[index]? = some call ∧ field.Sets call := by
  rw [soleSetter] at sole
  split at sole
  · rename_i only
    cases sole
    have mem : index ∈ setters calls field := by rw [only]; exact List.mem_singleton_self index
    exact of_decide_eq_true (List.mem_filter.1 mem).2
  · cases sole

/-- The calls that have written the row -/
def Wrote : Phase → Bool
  | .committed _ | .returned (some _) => true
  | _ => false

/-- The row that a call has read and not written yet -/
def readOf : Phase → Option ProjectTask
  | .read current => some current
  | _ => none

/-- What a call writes back into a field that one other call sets, and has written, is what is stored there. -/
def Current (calls : List UpdateCall) (file : TaskFile) : Step → Prop
  | .write index _ => ∀ call ∈ calls[index]?, ∀ current ∈ readOf (file.phases index), ∀ field : Field,
      ¬ field.Sets call → ∀ setter ∈ soleSetter calls field, Wrote (file.phases setter) = true →
        ∀ row ∈ file.row, field.Same row current
  | _ => True

instance decidableCurrent (calls : List UpdateCall) (file : TaskFile) : ∀ label, Decidable (Current calls file label)
  | .write index nowMs => by unfold Current; infer_instance
  | .insert _ _ _ => isTrue trivial
  | .acquire _ => isTrue trivial
  | .select _ => isTrue trivial
  | .timeout _ _ => isTrue trivial
  | .commit _ => isTrue trivial
  | .reread _ => isTrue trivial

/-- A field that one call sets has the value of that call, once the call has written. -/
def FieldsKept (lower : Text → Text) (calls : List UpdateCall) (file : TaskFile) : Prop :=
  ∀ field index call, soleSetter calls field = some index → calls[index]? = some call →
    Wrote (file.phases index) = true → ∃ row ∈ file.row, field.Given lower call row

/-- The fields are kept by the row, and by what is about to be committed. -/
structure Kept (lower : Text → Text) (calls : List UpdateCall) (file : TaskFile) : Prop where
  row : FieldsKept lower calls file
  writer : ∀ field index call, soleSetter calls field = some index → calls[index]? = some call →
    Wrote (file.phases index) = true → ∀ writer task, file.writer = some (writer, task) → field.Given lower call task
  own : ∀ index task call, file.writer = some (index, task) → calls[index]? = some call →
    ∀ field : Field, field.Sets call → field.Given lower call task

theorem kept_empty : Kept lower calls empty where
  row := fun _ _ _ _ _ wrote => by cases wrote
  writer := fun _ _ _ _ _ wrote => by cases wrote
  own := fun _ _ _ none => by cases none

/-- A step that keeps the row and the writer, and after which no other call has written. -/
theorem Kept.congr (kept : Kept lower calls file) (row : next.row = file.row) (writer : next.writer = file.writer)
    (wrote : ∀ index, Wrote (next.phases index) = true → Wrote (file.phases index) = true) :
    Kept lower calls next where
  row := fun field index call sole called done => by
    rw [row]
    exact kept.row field index call sole called (wrote index done)
  writer := fun field index call sole called done => by
    rw [writer]
    exact kept.writer field index call sole called (wrote index done)
  own := by rw [writer]; exact kept.own

theorem wrote_of_update {phases : ℕ → Phase} {other : ℕ} (unwritten : Wrote phase = false)
    (wrote : Wrote (Function.update phases index phase other) = true) : Wrote (phases other) = true ∧ other ≠ index := by
  by_cases same : other = index
  · subst same
    rw [Function.update_self, unwritten] at wrote
    cases wrote
  · rw [Function.update_of_ne same] at wrote
    exact ⟨wrote, same⟩

theorem Kept.setPhase (kept : Kept lower calls file) (unwritten : Wrote phase = false)
    (row : next.row = file.row) (writer : next.writer = file.writer)
    (phases : next.phases = Function.update file.phases index phase) : Kept lower calls next := by
  refine kept.congr row writer fun other wrote => ?_
  rw [phases] at wrote
  exact (wrote_of_update unwritten wrote).1

theorem Kept.step (kept : Kept lower calls file) (current : Current calls file label)
    (stepped : (machine lower calls).step file label = some next) : Kept lower calls next := by
  cases change stepped with
  | inserted missing free made =>
    refine ⟨fun field index call sole called wrote => ?_, kept.writer, kept.own⟩
    rcases kept.row field index call sole called wrote with ⟨row, there, _⟩
    rw [missing] at there
    cases there
  | acquired called waits => exact kept.setPhase rfl rfl rfl rfl
  | read called locked found => exact kept.setPhase rfl rfl rfl rfl
  | missed called locked found => exact kept.setPhase rfl rfl rfl rfl
  | refused called read => exact kept.setPhase rfl rfl rfl rfl
  | failed called read => exact kept.setPhase rfl rfl rfl rfl
  | @written index call before task nowMs called read merged free =>
    have merges := merges_of_merged merged
    refine ⟨fun field setter other sole known wrote => ?_, fun field setter other sole known wrote writer written same => ?_,
      fun writer written other same known field sets => ?_⟩
    · exact kept.row field setter other sole known (wrote_of_update rfl wrote).1
    · cases same
      rcases wrote_of_update rfl wrote with ⟨done, ne⟩
      -- the call that writes now does not set the field, so it writes back what it has read
      have unset : ¬ field.Sets call := fun sets => ne (eq_of_soleSetter sole called sets).symm
      rcases kept.row field setter other sole known done with ⟨row, there, given⟩
      have stored := current call called before (by rw [read]; rfl) field unset setter sole done row there
      refine given.congr ?_
      have back := merges.same unset
      cases field <;> exact back.trans (Eq.symm stored)
    · cases same
      rw [called] at known
      cases known
      exact merges.given sets
  | @committed index call task called own =>
    refine ⟨fun field setter other sole known wrote => ⟨task, rfl, ?_⟩, fun _ _ _ _ _ _ _ _ none => (by cases none),
      fun _ _ _ none => by cases none⟩
    by_cases same : setter = index
    · subst same
      rcases sets_of_soleSetter sole with ⟨setting, there, sets⟩
      rw [known] at there
      cases there
      exact kept.own setter task other own known field sets
    · have done : Wrote (file.phases setter) = true := by
        rw [← wrote]
        exact congrArg Wrote (Function.update_of_ne same _ _).symm
      exact kept.writer field setter other sole known done index task own
  | @returned index call task called done =>
    refine kept.congr rfl rfl fun other wrote => ?_
    by_cases same : other = index
    · rw [same, done]
      rfl
    · rw [← wrote]
      exact congrArg Wrote (Function.update_of_ne same _ _).symm

/-- In every run a task has a time of completion exactly when it is done; and in a run in which the fields of
the others are written back as they are stored, each field that one call sets keeps the value of that call. -/
theorem fields_kept (lower : Text → Text) (calls : List UpdateCall) {labels : List Step}
    (ran : (machine lower calls).run empty labels = some file) :
    (∀ task ∈ file.row, Ended task) ∧
      ((machine lower calls).Guarded (Current calls) empty labels → FieldsKept lower calls file) := by
  have completed : Completed file := Machine.run_invariant (fun holds stepped => holds.step stepped) completed_empty ran
  refine ⟨completed.row, fun guarded => ?_⟩
  have kept : Kept lower calls file := by
    refine Machine.run_invariant_of_guarded ?_ kept_empty guarded ran
    intro before label after holds allowed stepped
    exact holds.step allowed stepped
  exact kept.row

/-- One call sets the title and another the priority. -/
def titleAndPriority : List UpdateCall :=
  [{ store := 0, title := some (Text.ofString "new") }, { store := 1, priority := some (.inl .high) }]

def oneAfterTheOther : List Step :=
  [.insert { title := Text.ofString "old" } (Text.ofString "task-1") 0, .acquire 0, .select 0, .write 0 1, .commit 0,
    .reread 0, .acquire 1, .select 1, .write 1 2, .commit 1, .reread 1]

theorem oneAfterTheOther_kept : ∃ file, (machine id titleAndPriority).run empty oneAfterTheOther = some file ∧
    FieldsKept id titleAndPriority file := by
  have runs : ((machine id titleAndPriority).run empty oneAfterTheOther).isSome = true := by decide
  rcases Option.isSome_iff_exists.1 runs with ⟨file, ran⟩
  have guarded : (machine id titleAndPriority).Guarded (Current titleAndPriority) empty oneAfterTheOther := by
    decide
  exact ⟨file, ran, (fields_kept id titleAndPriority ran).2 guarded⟩

/-- Both stores read the row before one of them writes it. -/
def bothRead : List Step :=
  [.insert { title := Text.ofString "old" } (Text.ofString "task-1") 0, .acquire 0, .select 0, .acquire 1, .select 1,
    .write 0 1, .commit 0, .write 1 2, .commit 1]

/-- The second store writes the old title back. -/
theorem title_lost : ¬ ∀ (lower : Text → Text) (calls : List UpdateCall) (labels : List Step) (file : TaskFile),
    (machine lower calls).run empty labels = some file →
      (∀ task ∈ file.row, Ended task) ∧ FieldsKept lower calls file := by
  intro all
  have runs : ((machine id titleAndPriority).run empty bothRead).map (fun file =>
      (Wrote (file.phases 0), file.row.map ProjectTask.title)) = some (true, some (Text.ofString "old")) := by
    decide
  rcases Option.map_eq_some_iff.1 runs with ⟨file, ran, ended⟩
  injection ended with wrote title
  have kept := (all id titleAndPriority bothRead file ran).2 .title 0 _ (by decide) rfl wrote
  rcases kept with ⟨row, there, given⟩
  rw [there] at title
  have own : row.title = Text.ofString "old" := Option.some.inj title
  rw [Field.Given, own] at given
  exact absurd given (by decide)

end TaskFile

end Synapse.Tasks
