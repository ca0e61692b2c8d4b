import Synapse.Python.Text

/-!
# Goals

A thread has at most one goal. The goal has a status, an optional budget, and the
tokens and seconds that have been charged to it.
-/

namespace Synapse.Goals

inductive ThreadGoalStatus where
  | active | paused | blocked | usageLimited | budgetLimited | complete
  deriving DecidableEq, Repr

def ThreadGoalStatus.isTerminal : ThreadGoalStatus → Bool
  | .complete | .blocked | .usageLimited => true
  | _ => false

/-- A finished, blocked or usage-limited goal may be replaced by a new one. -/
def ThreadGoalStatus.isReplaceable (status : ThreadGoalStatus) : Bool :=
  status.isTerminal

/-- The columns of `thread_goals` but for the thread, which is fixed. -/
structure ThreadGoal where
  goalId : Text
  objective : Text
  status : ThreadGoalStatus
  tokenBudget : Option ℤ
  tokensUsed : ℕ
  timeUsedSeconds : ℕ
  createdAtMs : ℤ
  updatedAtMs : ℤ
  deriving DecidableEq, Repr

def maxGoalObjectiveChars : ℕ := 10000

def validateGoalObjective (objective : Text) : Option String :=
  let text := objective.strip
  if text = [] then some "goal objective must not be empty"
  else if maxGoalObjectiveChars < text.length then
    some s!"goal objective too long: {text.length} > {maxGoalObjectiveChars} chars"
  else none

def validateGoalBudget (tokenBudget : Option ℤ) : Option String :=
  match tokenBudget with
  | none => none
  | some budget => if budget ≤ 0 then some "token_budget must be a positive integer" else none

/-- Billable tokens: input that did not come from the cache, and output. -/
def goalTokenDelta (inputTokens outputTokens cacheReadTokens : ℤ) : ℕ :=
  (inputTokens.toNat - cacheReadTokens.toNat) + outputTokens.toNat

end Synapse.Goals
