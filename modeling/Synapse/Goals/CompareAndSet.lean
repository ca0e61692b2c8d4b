import Synapse.Goals.Runtime

/-!
# Compare-and-set on goals

A call that expects a goal id leaves the row of another goal alone, whatever the
other callers do between its steps. For `pause_goal` and `resume_goal` this holds
as long as the goal is not replaced between the comparison in the service and the
second read in the runtime.
-/

namespace Synapse.Goals

/-- The row of a goal with another id is left as it is. -/
def Untouched (expected : Text) (before after : GoalThread) : Prop :=
  ∀ goal, before.store = some goal → goal.goalId ≠ expected → after.store = before.store

/-- Where the runtime reads the goal again, it finds the expected one. -/
def FindsExpected (expected : Text) (step : GoalStep) (thread : GoalThread) : Prop :=
  step = .reread → ∀ goal ∈ thread.store, goal.goalId = expected

variable {expected : Text}

/-! ### Single steps -/

theorem untouched_of_store {before after : GoalThread} (same : after.store = before.store) :
    Untouched expected before after :=
  fun _ _ _ => same

theorem update_untouched (thread : GoalThread) (change : GoalChange)
    (status : Option ThreadGoalStatus) (nowMs : ℤ) :
    Untouched expected thread
      { thread with store := (thread.store.update change (some expected) status nowMs).1 } := by
  intro goal stored other
  rcases thread with ⟨store, runtime⟩
  subst stored
  simp only [GoalStore.update, GoalStore.Expected, other, decide_false, Bool.false_and,
    Bool.false_eq_true, if_false]
  split <;> rfl

theorem clear_untouched (thread : GoalThread) :
    Untouched expected thread
      { thread with store := (thread.store.clear (some expected)).1 } := by
  intro goal stored other
  rcases thread with ⟨store, runtime⟩
  subst stored
  simp [GoalStore.clear, GoalStore.Expected, other]

section

variable {guard : GoalStep → GoalThread → Prop}

theorem getGoal_untouched : getGoal.Respects guard (Untouched expected) :=
  Script.respects_atomically fun _ _ => untouched_of_store rfl

theorem onRuntime_untouched (action : GoalRuntime → GoalRuntime) :
    (onRuntime action).Respects guard (Untouched expected) :=
  Script.respects_atomically fun _ _ => untouched_of_store rfl

theorem onStore_update_untouched (change : GoalChange) (status : Option ThreadGoalStatus)
    (nowMs : ℤ) :
    (onStore .update (·.update change (some expected) status nowMs)).Respects guard
      (Untouched expected) :=
  Script.respects_atomically fun thread _ => update_untouched thread change status nowMs

theorem conflict_untouched : GoalService.conflict.Respects guard (Untouched expected) := by
  refine getGoal_untouched.bind fun goal => ?_
  cases goal with
  | none => exact Script.respects_pure _
  | some goal => exact Script.respects_pure _

end

/-! ### Calls -/

theorem editGoal_untouched (objective : Text) (clock : Clock) :
    (GoalService.editGoal objective (some expected) clock).Respects (FindsExpected expected)
      (Untouched expected) := by
  refine (onStore_update_untouched _ none clock.ms).bind fun goal => ?_
  cases goal with
  | none => exact conflict_untouched
  | some goal => exact Script.respects_pure _

theorem clearGoal_untouched :
    (GoalService.clearGoal (some expected)).Respects (FindsExpected expected)
      (Untouched expected) := by
  have clears : (onStore .clear (·.clear (some expected))).Respects (FindsExpected expected)
      (Untouched expected) :=
    Script.respects_atomically fun thread _ => clear_untouched thread
  refine clears.bind fun goal => ?_
  cases goal with
  | none => exact conflict_untouched
  | some goal => exact (onRuntime_untouched _).bind fun _ => Script.respects_pure _

theorem fenced_untouched {move : GoalScript (Option ThreadGoal)}
    (moves : move.Respects (FindsExpected expected) (Untouched expected)) :
    (GoalService.fenced (some expected) move).Respects (FindsExpected expected)
      (Untouched expected) := by
  refine getGoal_untouched.bind fun current => ?_
  cases current with
  | none => exact Script.respects_pure _
  | some current =>
    dsimp only
    split
    · exact Script.respects_pure _
    · refine moves.bind fun goal => ?_
      cases goal with
      | none => exact Script.respects_pure _
      | some goal => exact Script.respects_pure _

theorem pause_untouched (clock : Clock) :
    (GoalRuntime.pause clock).Respects (FindsExpected expected) (Untouched expected) := by
  refine Script.respects_atomically_bind fun thread found => ⟨untouched_of_store rfl, ?_⟩
  -- The update that follows expects the id that the second read has found.
  cases stored : thread.store with
  | none => exact Script.respects_pure _
  | some current =>
    obtain rfl := found rfl current stored
    dsimp only
    split
    · exact Script.respects_pure _
    · refine (onStore_update_untouched _ _ clock.ms).bind fun goal => ?_
      refine (onRuntime_untouched _).bind fun _ => ?_
      cases goal with
      | none => exact getGoal_untouched
      | some goal => exact Script.respects_pure _

theorem resume_untouched (clock : Clock) :
    (GoalRuntime.resume clock).Respects (FindsExpected expected) (Untouched expected) := by
  refine Script.respects_atomically_bind fun thread found => ⟨untouched_of_store rfl, ?_⟩
  cases stored : thread.store with
  | none => exact Script.respects_pure _
  | some current =>
    obtain rfl := found rfl current stored
    dsimp only
    split
    · exact Script.respects_pure _
    · refine (onStore_update_untouched _ none clock.ms).bind fun updated => ?_
      cases updated with
      | none => exact Script.respects_pure _
      | some updated => exact (onRuntime_untouched _).bind fun _ => Script.respects_pure _

theorem markStatus_untouched (status : ThreadGoalStatus) (clock : Clock) :
    (GoalService.markStatus status (some expected) clock).Respects (FindsExpected expected)
      (Untouched expected) := by
  refine getGoal_untouched.bind fun current => ?_
  cases current with
  | none => exact Script.respects_pure _
  | some current =>
    dsimp only
    split
    case isTrue => exact Script.respects_pure _
    case isFalse same =>
      -- The comparison has passed, and the update compares the same id again.
      simp only [Option.any_some, decide_eq_true_eq, ne_eq, not_not] at same
      obtain rfl := same
      refine (onStore_update_untouched _ none clock.ms).bind fun updated => ?_
      refine Script.Respects.bind ?_ fun goal => ?_
      · cases updated with
        | none => exact getGoal_untouched
        | some goal => exact Script.respects_pure _
      · cases goal with
        | none => exact Script.respects_pure _
        | some goal =>
          dsimp only
          split
          · exact (onRuntime_untouched _).bind fun _ => Script.respects_pure _
          · exact Script.respects_pure _

/-! ### Every interleaving -/

/-- The goal id that a call of the service expects. -/
def GoalOperation.expectedGoalId : GoalOperation → Option Text
  | .editGoal _ expected | .clearGoal expected | .pauseGoal expected | .resumeGoal expected
  | .markStatus _ expected => expected
  | _ => none

/-- A call leaves the row of a goal that it does not expect alone. -/
def Spares (request : GoalRequest) (before after : GoalThread) : Prop :=
  ∀ expected, request.1.expectedGoalId = some expected → Untouched expected before after

/-- Where the runtime reads the goal again, it finds the one that the call expects. -/
def Careful (request : GoalRequest) (step : GoalStep) (thread : GoalThread) : Prop :=
  ∀ expected ∈ request.1.expectedGoalId, FindsExpected expected step thread

variable {request : GoalRequest}

theorem spares_of_none (free : request.1.expectedGoalId = none)
    (script : GoalScript Unit) : script.Respects (Careful request) (Spares request) := by
  refine Script.respects_of_trivial (fun before after expected fenced => ?_) script
  rw [free] at fenced
  cases fenced

theorem spares_of_some
    (fenced : request.1.expectedGoalId = some expected) {script : GoalScript Unit}
    (respects : script.Respects (FindsExpected expected) (Untouched expected)) :
    script.Respects (Careful request) (Spares request) := by
  refine respects.mono (fun step thread careful => careful expected fenced) ?_
  intro before after untouched other same
  obtain rfl := Option.mem_unique fenced same
  exact untouched

theorem operation_spares (request : GoalRequest) :
    (request.1.script request.2).Respects (Careful request) (Spares request) := by
  rcases request with ⟨operation, clock⟩
  cases fenced : operation.expectedGoalId with
  | none => exact spares_of_none fenced _
  | some expected =>
    refine spares_of_some fenced ?_
    cases operation with
    | editGoal objective other =>
      obtain rfl : other = some expected := fenced
      exact (editGoal_untouched objective clock).bind fun _ => Script.respects_pure _
    | clearGoal other =>
      obtain rfl : other = some expected := fenced
      exact clearGoal_untouched.bind fun _ => Script.respects_pure _
    | pauseGoal other =>
      obtain rfl : other = some expected := fenced
      exact (fenced_untouched (pause_untouched clock)).bind fun _ => Script.respects_pure _
    | resumeGoal other =>
      obtain rfl : other = some expected := fenced
      exact (fenced_untouched (resume_untouched clock)).bind fun _ => Script.respects_pure _
    | markStatus status other =>
      obtain rfl : other = some expected := fenced
      exact (markStatus_untouched status clock).bind fun _ => Script.respects_pure _
    | _ => cases fenced

/-- The calls of any number of callers on one thread. -/
def callers : Machine (Pool GoalRequest GoalStep GoalThread Unit) (PoolStep GoalRequest) :=
  Pool.machine fun request => request.1.script request.2

/-- No call changes or deletes the row of a goal that it does not expect, in every run in which a
second read finds the expected goal. -/
theorem compareAndSet_of_careful {thread : GoalThread} {labels : List (PoolStep GoalRequest)}
    {pool next : Pool GoalRequest GoalStep GoalThread Unit} {index : ℕ}
    (careful : callers.Guarded (Pool.Guard Careful) ⟨thread, []⟩ (labels ++ [.advance index]))
    (ran : callers.run ⟨thread, []⟩ labels = some pool)
    (stepped : callers.step pool (.advance index) = some next) :
    ∃ job, pool.jobs[index]? = some job ∧ Spares job.call pool.shared next.shared :=
  Pool.promise_of_run operation_spares careful ran stepped

/-! ### A goal that is replaced in time, and one that is replaced too late -/

instance (request : GoalRequest) (step : GoalStep) (thread : GoalThread) :
    Decidable (Careful request step thread) :=
  inferInstanceAs (Decidable (∀ expected ∈ request.1.expectedGoalId,
    step = .reread → ∀ goal ∈ thread.store, goal.goalId = expected))

def first : ThreadGoal :=
  ⟨Text.ofString "first", Text.ofString "objective", .active, none, 0, 0, 0, 0⟩

/-- One caller pauses the first goal, another one replaces it. -/
def pausing : List (PoolStep GoalRequest) :=
  [.call (.pauseGoal (some first.goalId), ⟨1, 1⟩),
    .call (.setGoal (Text.ofString "other") none true (Text.ofString "second"), ⟨1, 1⟩)]

/-- The first goal is replaced before the comparison. -/
theorem compareAndSet_of_careful_early :
    ∃ pool, callers.run ⟨⟨some first, {}⟩, []⟩
        (pausing ++ [.advance 1, .advance 1, .advance 1]) = some pool ∧
      ∃ next, callers.step pool (.advance 0) = some next ∧
        ∃ job, pool.jobs[0]? = some job ∧ Spares job.call pool.shared next.shared := by
  have taken : callers.Guarded (Pool.Guard Careful) ⟨⟨some first, {}⟩, []⟩
        ((pausing ++ [.advance 1, .advance 1, .advance 1]) ++ [.advance 0]) ∧
      ∃ pool, callers.run ⟨⟨some first, {}⟩, []⟩
          (pausing ++ [.advance 1, .advance 1, .advance 1]) = some pool ∧
        ∃ next, callers.step pool (.advance 0) = some next ∧ True := by
    decide +kernel
  rcases taken with ⟨careful, pool, ran, next, stepped, _⟩
  exact ⟨pool, ran, next, stepped, compareAndSet_of_careful careful ran stepped⟩

/-- The first goal is replaced between the comparison and the second read: the pause is applied to
the second goal. -/
theorem pause_replaced :
    ∃ pool, callers.run ⟨⟨some first, {}⟩, []⟩
        (pausing ++ [.advance 0, .advance 1, .advance 1, .advance 1, .advance 0]) = some pool ∧
      ∃ next, callers.step pool (.advance 0) = some next ∧
        ∃ job, pool.jobs[0]? = some job ∧ ¬Spares job.call pool.shared next.shared := by
  have taken : ∃ pool, callers.run ⟨⟨some first, {}⟩, []⟩
        (pausing ++ [.advance 0, .advance 1, .advance 1, .advance 1, .advance 0]) = some pool ∧
      ∃ next, callers.step pool (.advance 0) = some next ∧
        ∃ job, pool.jobs[0]? = some job ∧ job.call.1.expectedGoalId = some first.goalId ∧
          ∃ goal, pool.shared.store = some goal ∧ goal.goalId ≠ first.goalId ∧
            next.shared.store ≠ pool.shared.store := by
    decide +kernel
  rcases taken with ⟨pool, ran, next, stepped, job, found, fenced, goal, stored, other, changed⟩
  exact ⟨pool, ran, next, stepped, job, found, fun spares =>
    changed (spares first.goalId fenced goal stored other)⟩

end Synapse.Goals
