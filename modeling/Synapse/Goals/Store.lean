import Synapse.Goals.Model

/-!
# The goal store

`GoalStore` keeps the goals in the table `thread_goals`, whose key is the thread.
Every statement names its thread, so the store of one thread is its row. Each
function is one critical section: it returns the row and what the call returns.
-/

namespace Synapse.Goals

/-- The row of the thread. -/
abbrev GoalStore := Option ThreadGoal

/-- The columns that `update` sets; an inner `none` clears the budget. -/
structure GoalChange where
  objective : Option Text := none
  status : Option ThreadGoalStatus := none
  tokenBudget : Option (Option ℤ) := none

/-- No column is named, so nothing is written. -/
def GoalChange.isEmpty (change : GoalChange) : Bool :=
  change.objective.isNone && change.status.isNone && change.tokenBudget.isNone

def GoalChange.apply (change : GoalChange) (goal : ThreadGoal) (nowMs : ℤ) : ThreadGoal :=
  { goal with
    objective := change.objective.getD goal.objective
    status := change.status.getD goal.status
    tokenBudget := change.tokenBudget.getD goal.tokenBudget
    updatedAtMs := nowMs }

namespace GoalStore

/-- A new goal takes the place of none or of one that may be replaced. -/
def insert (store : GoalStore) (objective : Text) (status : ThreadGoalStatus)
    (tokenBudget : Option ℤ) (newGoalId : Text) (nowMs : ℤ) : GoalStore × Option ThreadGoal :=
  let goal : ThreadGoal :=
    { goalId := newGoalId, objective, status, tokenBudget, tokensUsed := 0, timeUsedSeconds := 0
      createdAtMs := nowMs, updatedAtMs := nowMs }
  match store with
  | some existing => if existing.status.isReplaceable then (some goal, some goal) else (store, none)
  | none => (some goal, some goal)

/-- `WHERE goal_id = ? AND status = ?`, each only where one is expected. -/
def Expected (goal : ThreadGoal) (expectedGoalId : Option Text)
    (expectedStatus : Option ThreadGoalStatus) : Bool :=
  (match expectedGoalId with
    | some expected => goal.goalId = expected
    | none => true) &&
  match expectedStatus with
  | some expected => goal.status = expected
  | none => true

def update (store : GoalStore) (change : GoalChange) (expectedGoalId : Option Text)
    (expectedStatus : Option ThreadGoalStatus) (nowMs : ℤ) : GoalStore × Option ThreadGoal :=
  if change.isEmpty then (store, store)
  else
    match store with
    | some goal =>
      if Expected goal expectedGoalId expectedStatus then
        (some (change.apply goal nowMs), some (change.apply goal nowMs))
      else (store, none)
    | none => (store, none)

/-- Deletes the row and returns it. -/
def clear (store : GoalStore) (expectedGoalId : Option Text) : GoalStore × Option ThreadGoal :=
  match store with
  | some goal => if Expected goal expectedGoalId none then (none, some goal) else (store, none)
  | none => (store, none)

/-- The statuses that may be charged. -/
def charges (allowComplete allowStopped : Bool) : ThreadGoalStatus → Bool
  | .active | .budgetLimited => true
  | .complete => allowComplete
  | .paused | .blocked | .usageLimited => allowStopped

/-- The row with a charge; an active goal that reaches its budget is limited by it. -/
def charged (goal : ThreadGoal) (timeDeltaSeconds tokenDelta : ℕ) (nowMs : ℤ) : ThreadGoal :=
  { goal with
    timeUsedSeconds := goal.timeUsedSeconds + timeDeltaSeconds
    tokensUsed := goal.tokensUsed + tokenDelta
    status :=
      match goal.tokenBudget with
      | some budget =>
        if goal.status = .active ∧ budget ≤ (goal.tokensUsed + tokenDelta : ℕ) then .budgetLimited
        else goal.status
      | none => goal.status
    updatedAtMs := nowMs }

def accountUsage (store : GoalStore) (timeDeltaSeconds tokenDelta : ℕ)
    (allowComplete allowStopped : Bool) (expectedGoalId : Option Text) (nowMs : ℤ) :
    GoalStore × Option ThreadGoal :=
  if timeDeltaSeconds = 0 ∧ tokenDelta = 0 then (store, store)
  else
    match store with
    | some goal =>
      if charges allowComplete allowStopped goal.status && Expected goal expectedGoalId none then
        (some (charged goal timeDeltaSeconds tokenDelta nowMs),
          some (charged goal timeDeltaSeconds tokenDelta nowMs))
      else (store, none)
    | none => (store, none)

end GoalStore

end Synapse.Goals
