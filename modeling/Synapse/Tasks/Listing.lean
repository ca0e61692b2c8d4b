import Synapse.Foundation.OffsetPages
import Synapse.Python.Text

/-!
# Task listings

Tasks are listed from the one that was updated last. The query cuts the page out of the tasks with a status,
and those without a label are left out of the page afterwards.
-/

namespace Synapse.Tasks

inductive TaskStatus where
  | todo
  | inProgress
  | blocked
  | done
  deriving DecidableEq

inductive TaskPriority where
  | low
  | medium
  | high
  | critical
  deriving DecidableEq

structure ProjectTask where
  id : Text
  title : Text
  description : Text := []
  status : TaskStatus := .todo
  priority : TaskPriority := .medium
  labels : List Text := []
  assignedThreadId : Option Text := none
  createdAtMs : ℤ := 0
  updatedAtMs : ℤ := 0
  completedAtMs : Option ℤ := none
  deriving DecidableEq

/-- `WHERE status = ?`, if there is a status. -/
def hasStatus (status : Option TaskStatus) (task : ProjectTask) : Bool :=
  status.all fun status => task.status = status

/-- `target_label in t.labels`, if there is a label; `lower` is `str.lower`. -/
def hasLabel (lower : Text → Text) (label : Option Text) (task : ProjectTask) : Bool :=
  match label with
  | none | some [] => true
  | some label => lower label.strip ∈ task.labels

/-- `SELECT * FROM project_tasks .. ORDER BY updated_at_ms DESC`; the store has its tasks in the order in
which the query visits them. -/
def select (store : List ProjectTask) (status : Option TaskStatus) : List ProjectTask :=
  (store.filter (hasStatus status)).insertionSort fun first second => second.updatedAtMs ≤ first.updatedAtMs

/-- `LIMIT ? OFFSET ?` with the clamped limit and offset. -/
def cut (limit offset : ℤ) (rows : List ProjectTask) : List ProjectTask :=
  (rows.drop (max 0 offset).toNat).take (max 1 (min limit 500)).toNat

variable (lower : Text → Text) (store : List ProjectTask) (status : Option TaskStatus)
  (label : Option Text)

/-- `TaskStore.list` -/
def list (limit offset : ℤ) : List ProjectTask :=
  (cut limit offset (select store status)).filter (hasLabel lower label)

/-- `read_tasks_readonly`, which finds no tasks where there is no file. -/
def readTasksReadonly (file : Option (List ProjectTask)) (limit offset : ℤ) : List ProjectTask :=
  match file with
  | none => []
  | some store => list lower store status label limit offset

/-- The tasks of a store with a status and a label, once each and the one updated last first. -/
structure Complete (found : List ProjectTask) : Prop where
  perm : found.Perm (store.filter fun task => hasStatus status task && hasLabel lower label task)
  sorted : found.Pairwise fun first second => second.updatedAtMs ≤ first.updatedAtMs

variable {lower store status label} {size : ℕ} {found : List ProjectTask}

instance : Std.Total fun first second : ProjectTask => second.updatedAtMs ≤ first.updatedAtMs :=
  ⟨fun first second => le_total second.updatedAtMs first.updatedAtMs⟩

instance : IsTrans ProjectTask fun first second => second.updatedAtMs ≤ first.updatedAtMs :=
  ⟨fun _ _ _ earlier later => later.trans earlier⟩

theorem complete_select : Complete lower store status label
    ((select store status).filter (hasLabel lower label)) where
  perm := by
    have sorted : (select store status).Perm (store.filter (hasStatus status)) := List.perm_insertionSort _ _
    have filtered := sorted.filter (hasLabel lower label)
    rw [List.filter_filter] at filtered
    have swapped : (fun task => hasLabel lower label task && hasStatus status task) =
        fun task => hasStatus status task && hasLabel lower label task :=
      funext fun task => Bool.and_comm _ _
    rw [swapped] at filtered
    exact filtered
  sorted := (List.pairwise_insertionSort _ _).filter _

/-- What is a part of the tasks is complete when it is all of them. -/
theorem complete_iff (part : found.Sublist ((select store status).filter (hasLabel lower label))) :
    Complete lower store status label found ↔ found = (select store status).filter (hasLabel lower label) := by
  constructor
  · intro complete
    exact part.eq_of_length (complete.perm.trans complete_select.perm.symm).length_eq
  · rintro rfl
    exact complete_select

theorem list_eq_filteredPage (positive : 1 ≤ size) (small : size ≤ 500) (offset : ℕ) :
    list lower store status label size offset =
      filteredPage (hasLabel lower label) size (select store status) offset := by
  have limit : (max 1 (min (size : ℤ) 500)).toNat = size := by omega
  have start : (max 0 (offset : ℤ)).toNat = offset := by omega
  rw [list, cut, limit, start, filteredPage]

theorem readTasksReadonly_eq (file : Option (List ProjectTask)) (limit offset : ℤ) :
    readTasksReadonly lower status label file limit offset =
      list lower (file.getD []) status label limit offset := by
  cases file with
  | none => simp [readTasksReadonly, list, select, cut]
  | some store => rfl

/-- The pages of a store hold every task with the status and the label, in order, just when each task of the
status without the label is on the page of all tasks with it that follow. -/
theorem pages_complete_iff (lower : Text → Text) (store : List ProjectTask) (status : Option TaskStatus)
    (label : Option Text) (size : ℕ) (positive : 1 ≤ size)
    (small : size ≤ 500) (read : ℕ → List ProjectTask)
    (reader : (∀ offset : ℕ, read offset = list lower store status label size offset) ∨
      ∃ file, file.getD [] = store ∧
        ∀ offset : ℕ, read offset = readTasksReadonly lower status label file size offset) :
    (∃ found, Collected read size 0 found) ∧ ∀ found, Collected read size 0 found →
      (Complete lower store status label found ↔
        KeptTogether (hasLabel lower label) size (select store status)) := by
  have same : read = filteredPage (hasLabel lower label) size (select store status) := by
    funext offset
    rw [← list_eq_filteredPage positive small offset]
    rcases reader with own | ⟨file, rfl, own⟩
    · exact own offset
    · rw [own, readTasksReadonly_eq]
  rw [same]
  refine ⟨exists_collected _ positive _ 0, fun found collected => ?_⟩
  have decides := collected.eq_filter_iff positive
  have part := collected.sublist
  rw [List.drop_zero] at decides part
  rw [complete_iff part, decides]

/-- Two tasks updated at once, the first of which has the label, in pages of one. -/
def twoTasks : List ProjectTask :=
  [{ id := Text.ofString "task-1", title := Text.ofString "a", labels := [Text.ofString "x"] },
    { id := Text.ofString "task-2", title := Text.ofString "b" }]

theorem twoTasks_complete : (∃ found, Collected (fun offset : ℕ =>
      list id twoTasks none (some (Text.ofString "x")) (1 : ℕ) offset) 1 0 found) ∧
    ∀ found, Collected (fun offset : ℕ =>
      list id twoTasks none (some (Text.ofString "x")) (1 : ℕ) offset) 1 0 found →
        (Complete id twoTasks none (some (Text.ofString "x")) found ↔
          KeptTogether (hasLabel id (some (Text.ofString "x"))) 1 (select twoTasks none)) :=
  pages_complete_iff id twoTasks none (some (Text.ofString "x")) 1 le_rfl (by decide) _ (Or.inl fun _ => rfl)

/-- When the first task lacks the label, the first page of one is empty and the second task is not found. -/
theorem label_lost : ¬ ∀ (lower : Text → Text) (store : List ProjectTask) (status : Option TaskStatus)
    (label : Option Text) (size : ℕ), 1 ≤ size → size ≤ 500 → ∀ found,
      Collected (fun offset : ℕ => list lower store status label size offset) size 0 found →
        Complete lower store status label found := by
  intro all
  have empty : (list id twoTasks.reverse none (some (Text.ofString "x")) (1 : ℕ) (0 : ℕ)).length < 1 := by
    decide +kernel
  have complete := all id twoTasks.reverse none (some (Text.ofString "x")) 1 le_rfl (by decide) _
    (Collected.last empty)
  have lengths := complete.perm.length_eq
  exact absurd lengths (by decide +kernel)

end Synapse.Tasks
