import Synapse.Foundation.Script
import Synapse.Goals.Store

/-!
# Goal accounting and the goal service

`GoalRuntime` knows which tokens of the current turn have been charged, and to
which goal the wall clock belongs; `GoalService` is what commands, tools and turn
hooks call. Each call of the store and each section under the runtime's lock is
one step of a script, so other callers may come between any two of them. The
clock is read once for each call.

The ledger of a runtime is a history that no function reads.
-/

namespace Synapse.Goals

/-- The readings of `time.time`, in milliseconds, and of `time.monotonic`, in nanoseconds. -/
structure Clock where
  ms : ℤ
  monotonic : ℤ
  deriving DecidableEq, Repr

/-- `_TurnAccounting`. -/
structure TurnAccounting where
  turnId : Text
  lastAccountedTokens : ℕ
  currentTokens : ℕ
  goalId : Option Text
  deriving DecidableEq, Repr

/-- A charge of the recorded tokens number `first + 1` to `last`. -/
structure Charge where
  goalId : Text
  first : ℕ
  last : ℕ
  deriving DecidableEq, Repr

/-- The tokens recorded so far, the goals that were made active with the number of tokens
recorded before, and the charges. -/
structure Ledger where
  recorded : ℕ := 0
  created : List (Text × ℕ) := []
  charges : List Charge := []
  deriving DecidableEq, Repr

structure GoalRuntime where
  turn : Option TurnAccounting := none
  wallClockGoalId : Option Text := none
  wallClockStartedAt : Option ℤ := none
  budgetReportedGoalId : Option Text := none
  ledger : Ledger := {}
  deriving DecidableEq, Repr

namespace GoalRuntime

variable (runtime : GoalRuntime)

/-! ### Sections under the lock -/

def beginTurn (turnId : Text) (tokenUsage : ℤ) : GoalRuntime :=
  { runtime with turn := some ⟨turnId, tokenUsage.toNat, tokenUsage.toNat, none⟩ }

def startWallClock (goal : Option ThreadGoal) (clock : Clock) : GoalRuntime :=
  match goal with
  | some goal =>
    if goal.status = .active then
      { runtime with
        wallClockGoalId := some goal.goalId, wallClockStartedAt := some clock.monotonic }
    else { runtime with wallClockGoalId := none }
  | none => { runtime with wallClockGoalId := none }

def recordTokenUsage (turnId : Text) (inputTokens outputTokens cacheReadTokens : ℤ) :
    GoalRuntime :=
  match runtime.turn with
  | some turn =>
    if turn.turnId = turnId then
      let delta := goalTokenDelta inputTokens outputTokens cacheReadTokens
      { runtime with
        turn := some { turn with currentTokens := turn.currentTokens + delta }
        ledger := { runtime.ledger with recorded := runtime.ledger.recorded + delta } }
    else runtime
  | none => runtime

/-- The tokens of the turn so far are none of the new goal's. -/
def markTurnGoalActive (goalId : Text) (clock : Clock) : GoalRuntime :=
  { runtime with
    turn := runtime.turn.map fun turn =>
      { turn with goalId := some goalId, lastAccountedTokens := turn.currentTokens }
    wallClockGoalId := some goalId
    wallClockStartedAt := some clock.monotonic
    budgetReportedGoalId := none
    ledger := { runtime.ledger with
      created := runtime.ledger.created ++ [(goalId, runtime.ledger.recorded)] } }

def markIdleGoalActive (goalId : Text) (clock : Clock) : GoalRuntime :=
  { runtime with
    wallClockGoalId := some goalId
    wallClockStartedAt := some clock.monotonic
    budgetReportedGoalId := none }

def clearActiveGoal : GoalRuntime :=
  { runtime with
    turn := runtime.turn.map fun turn => { turn with goalId := none }
    wallClockGoalId := none
    wallClockStartedAt := none
    budgetReportedGoalId := none }

def finishTurn (turnId : Text) : GoalRuntime :=
  match runtime.turn with
  | none => { runtime with wallClockStartedAt := none }
  | some turn =>
    if turn.turnId = turnId then { runtime with turn := none, wallClockStartedAt := none }
    else runtime

def finishActiveTurn : GoalRuntime :=
  { runtime with turn := none, wallClockStartedAt := none }

/-- Whole seconds since the wall clock was started. -/
def wallClockDelta (clock : Clock) : ℕ :=
  match runtime.wallClockStartedAt with
  | none => 0
  | some startedAt => ((clock.monotonic - startedAt) / 1000000000).toNat

def resetWallClock (clock : Clock) : GoalRuntime :=
  { runtime with wallClockStartedAt := some clock.monotonic }

/-- After the charge: the baseline moves, whether or not a goal was charged. -/
def moveBaseline (charged : Option ThreadGoal) (tokenDelta timeDelta : ℕ) (clock : Clock) :
    GoalRuntime :=
  let settled :=
    { runtime with
      turn := runtime.turn.map fun turn => { turn with lastAccountedTokens := turn.currentTokens }
      ledger := { runtime.ledger with
        charges := runtime.ledger.charges ++ charged.toList.map fun goal =>
          ⟨goal.goalId, runtime.ledger.recorded - tokenDelta, runtime.ledger.recorded⟩ } }
  if 0 < timeDelta then settled.resetWallClock clock else settled

end GoalRuntime

/-! ### Steps -/

/-- The row of a thread and its runtime. -/
structure GoalThread where
  store : GoalStore := none
  runtime : GoalRuntime := {}
  deriving DecidableEq, Repr

/-- The kinds of steps. -/
inductive GoalStep where
  | get
  /-- The read of the current goal in `GoalRuntime.pause` and `GoalRuntime.resume`. -/
  | reread
  | insert
  | update
  | clear
  | accountUsage
  | runtime
  deriving DecidableEq, Repr

abbrev GoalScript := Script GoalStep GoalThread

def onStore {Value : Type} (step : GoalStep) (action : GoalStore → GoalStore × Value) :
    GoalScript Value :=
  Script.atomically step fun thread =>
    ({ thread with store := (action thread.store).1 }, (action thread.store).2)

def onRuntime (action : GoalRuntime → GoalRuntime) : GoalScript Unit :=
  Script.atomically .runtime fun thread => ({ thread with runtime := action thread.runtime }, ())

def readRuntime : GoalScript GoalRuntime :=
  Script.atomically .runtime fun thread => (thread, thread.runtime)

/-- `self._store.get(self.thread_id)`. -/
def getGoal : GoalScript (Option ThreadGoal) :=
  onStore .get fun store => (store, store)

/-! ### The runtime -/

namespace GoalRuntime

def startTurn (turnId : Text) (tokenUsage : ℤ) (clock : Clock) : GoalScript Unit := do
  onRuntime (·.beginTurn turnId tokenUsage)
  let goal ← getGoal
  onRuntime (·.startWallClock goal clock)

/-- Whether this accounting took the goal to its budget. -/
def budgetHit (before goal : Option ThreadGoal) : Bool :=
  before.any (·.status = .active) && goal.any (·.status = .budgetLimited)

def accountWallClockOnly (runtime : GoalRuntime) (allowComplete allowStopped : Bool)
    (clock : Clock) : GoalScript (Option ThreadGoal × Bool) := do
  let timeDelta := runtime.wallClockDelta clock
  if timeDelta = 0 then
    return (← getGoal, false)
  let before ← getGoal
  let goal ← onStore .accountUsage (·.accountUsage timeDelta 0 allowComplete allowStopped
    runtime.wallClockGoalId clock.ms)
  onRuntime (·.resetWallClock clock)
  return (goal, budgetHit before goal)

def accountProgress (allowComplete allowStopped : Bool) (expectedGoalId : Option Text)
    (clock : Clock) : GoalScript (Option ThreadGoal × Bool) := do
  let runtime ← readRuntime
  match runtime.turn with
  | none => accountWallClockOnly runtime allowComplete allowStopped clock
  | some turn =>
    let tokenDelta := turn.currentTokens - turn.lastAccountedTokens
    let timeDelta := runtime.wallClockDelta clock
    let goalId := Text.orElse turn.goalId runtime.wallClockGoalId
    if tokenDelta = 0 ∧ timeDelta = 0 then
      return (← getGoal, false)
    let before ← getGoal
    let goal ← onStore .accountUsage (·.accountUsage timeDelta tokenDelta allowComplete
      allowStopped (Text.orElse expectedGoalId goalId) clock.ms)
    onRuntime (·.moveBaseline goal tokenDelta timeDelta clock)
    return (goal, budgetHit before goal)

def stopForError (usageLimit : Bool) (clock : Clock) : GoalScript (Option ThreadGoal) := do
  match ← getGoal with
  | none => return none
  | some current =>
    let status := if usageLimit then ThreadGoalStatus.usageLimited else .blocked
    let goal ← onStore .update (·.update { status := some status } (some current.goalId)
      (some .active) clock.ms)
    onRuntime (·.clearActiveGoal)
    match goal with
    | some goal => return some goal
    | none => getGoal

def pause (clock : Clock) : GoalScript (Option ThreadGoal) := do
  match ← onStore .reread fun store => (store, store) with
  | none => return none
  | some current =>
    if current.status ≠ .active then
      return some current
    let goal ← onStore .update (·.update { status := some .paused } (some current.goalId)
      (some .active) clock.ms)
    onRuntime (·.clearActiveGoal)
    match goal with
    | some goal => return some goal
    | none => getGoal

def isResumable : ThreadGoalStatus → Bool
  | .paused | .blocked | .usageLimited | .budgetLimited => true
  | .active | .complete => false

def resume (clock : Clock) : GoalScript (Option ThreadGoal) := do
  match ← onStore .reread fun store => (store, store) with
  | none => return none
  | some goal =>
    if isResumable goal.status = false then
      return some goal
    let updated ← onStore .update (·.update { status := some .active } (some goal.goalId) none
      clock.ms)
    match updated with
    | some updated =>
      onRuntime (·.markIdleGoalActive updated.goalId clock)
      return some updated
    | none => return none

end GoalRuntime

/-! ### The service -/

/-- The goal and the error of a call. -/
abbrev GoalReply := Option ThreadGoal × Option String

namespace GoalService

def setGoal (objective : Text) (tokenBudget : Option ℤ) (replace : Bool) (newGoalId : Text)
    (clock : Clock) : GoalScript GoalReply := do
  let existing ← getGoal
  let unfinished := existing.any fun goal => !goal.status.isReplaceable
  if unfinished && !replace then
    return (none, some ("there is already an unfinished goal; " ++
      "finish it first or use /goal clear or /goal edit"))
  if unfinished then
    let _ ← onStore .clear (·.clear none)
  match ← onStore .insert (·.insert objective .active tokenBudget newGoalId clock.ms) with
  | none => return (none, some "cannot create a goal in this thread")
  | some goal =>
    onRuntime (·.markTurnGoalActive goal.goalId clock)
    return (some goal, none)

/-- The reply after a write that found no goal, or another one. -/
def conflict : GoalScript GoalReply := do
  match ← getGoal with
  | none => return (none, some "no goal is currently set")
  | some current => return (some current, some "goal changed since it was read")

def editGoal (objective : Text) (expectedGoalId : Option Text) (clock : Clock) :
    GoalScript GoalReply := do
  match ← onStore .update (·.update { objective := some objective } expectedGoalId none clock.ms) with
  | none => conflict
  | some goal => return (some goal, none)

def clearGoal (expectedGoalId : Option Text) : GoalScript GoalReply := do
  match ← onStore .clear (·.clear expectedGoalId) with
  | none => conflict
  | some goal =>
    onRuntime (·.clearActiveGoal)
    return (some goal, none)

/-- `pause_goal` and `resume_goal` compare the id here and let the runtime read the goal again. -/
def fenced (expectedGoalId : Option Text) (move : GoalScript (Option ThreadGoal)) :
    GoalScript GoalReply := do
  match ← getGoal with
  | none => return (none, some "no goal is currently set")
  | some current =>
    if expectedGoalId.any (current.goalId ≠ ·) then
      return (some current, some "goal changed since it was read")
    match ← move with
    | none => return (none, some "no goal is currently set")
    | some goal => return (some goal, none)

def pauseGoal (expectedGoalId : Option Text) (clock : Clock) : GoalScript GoalReply :=
  fenced expectedGoalId (GoalRuntime.pause clock)

def resumeGoal (expectedGoalId : Option Text) (clock : Clock) : GoalScript GoalReply :=
  fenced expectedGoalId (GoalRuntime.resume clock)

def markStatus (status : ThreadGoalStatus) (expectedGoalId : Option Text) (clock : Clock) :
    GoalScript GoalReply := do
  match ← getGoal with
  | none => return (none, some "no goal is currently set")
  | some current =>
    if expectedGoalId.any (current.goalId ≠ ·) then
      return (some current, none)
    let updated ← onStore .update (·.update { status := some status } (some current.goalId) none
      clock.ms)
    let goal ← (match updated with
      | some goal => return some goal
      | none => getGoal : GoalScript (Option ThreadGoal))
    match goal with
    | none => return (none, some "no goal is currently set")
    | some goal =>
      if status ≠ .active then
        onRuntime (·.clearActiveGoal)
      return (some goal, none)

/-! ### Turn hooks -/

/-- A turn is started if there is none. -/
def onModelCallBegin (turnId : Text) (clock : Clock) : GoalScript Unit := do
  let runtime ← readRuntime
  if runtime.turn = none then
    GoalRuntime.startTurn turnId 0 clock

def onTokenUsage (turnId : Text) (inputTokens outputTokens cacheReadTokens : ℤ) :
    GoalScript Unit :=
  onRuntime (·.recordTokenUsage turnId inputTokens outputTokens cacheReadTokens)

def onModelCallEnd (turnId : Text) (inputTokens outputTokens cacheReadTokens : ℤ) (clock : Clock) :
    GoalScript Unit := do
  onModelCallBegin turnId clock
  let runtime ← readRuntime
  let current := (runtime.turn.map (·.turnId)).getD []
  onTokenUsage current inputTokens outputTokens cacheReadTokens
  let _ ← GoalRuntime.accountProgress false false none clock

def onToolFinish (clock : Clock) : GoalScript Unit := do
  let _ ← GoalRuntime.accountProgress false false none clock

/-- A late end of an older turn leaves the newer one alone. -/
def onTurnEnd (usageLimitError : Bool) (turnId : Option Text) (clock : Clock) :
    GoalScript (Option ThreadGoal) := do
  let runtime ← readRuntime
  if turnId ≠ none ∧ runtime.turn ≠ none ∧ runtime.turn.map (·.turnId) ≠ turnId then
    getGoal
  else
    let goal ← (if usageLimitError then GoalRuntime.stopForError true clock
      else do
        match ← GoalRuntime.accountProgress false false none clock with
        | (some goal, _) => return some goal
        | (none, _) => getGoal : GoalScript (Option ThreadGoal))
    onRuntime fun runtime =>
      match turnId with
      | none => runtime.finishActiveTurn
      | some turnId => runtime.finishTurn turnId
    return goal

end GoalService

/-! ### The tools of the agent

The tools format their reply as a text; here it is the goal and the error.
-/

namespace GoalTools

def createGoal (objective : Text) (tokenBudget : Option ℤ) (newGoalId : Text) (clock : Clock) :
    GoalScript GoalReply := do
  let text := objective.strip
  match (validateGoalObjective text).or (validateGoalBudget tokenBudget) with
  | some error => return (none, some error)
  | none =>
    GoalService.onToolFinish clock
    GoalService.setGoal text tokenBudget false newGoalId clock

def updateGoal (complete : Bool) (clock : Clock) : GoalScript GoalReply := do
  GoalService.onToolFinish clock
  match ← getGoal with
  | none => return (none, some "no goal is currently set")
  | some current =>
    GoalService.markStatus (if complete then .complete else .blocked) (some current.goalId) clock

end GoalTools

/-! ### Operations -/

/-- The calls, with the goal id and the turn id that they draw. -/
inductive GoalOperation where
  | setGoal (objective : Text) (tokenBudget : Option ℤ) (replace : Bool) (newGoalId : Text)
  | editGoal (objective : Text) (expectedGoalId : Option Text)
  | clearGoal (expectedGoalId : Option Text)
  | pauseGoal (expectedGoalId : Option Text)
  | resumeGoal (expectedGoalId : Option Text)
  | markStatus (status : ThreadGoalStatus) (expectedGoalId : Option Text)
  | stopForError (usageLimit : Bool)
  | accountProgress (allowComplete allowStopped : Bool) (expectedGoalId : Option Text)
  | onModelCallBegin (turnId : Text)
  | onModelCallEnd (turnId : Text) (inputTokens outputTokens cacheReadTokens : ℤ)
  | onTurnStart (turnId : Text) (tokenUsage : ℤ)
  | onTurnAbort (turnId : Text)
  | onTokenUsage (turnId : Text) (inputTokens outputTokens cacheReadTokens : ℤ)
  | onToolFinish
  | onTurnEnd (usageLimitError : Bool) (turnId : Option Text)
  | createGoal (objective : Text) (tokenBudget : Option ℤ) (newGoalId : Text)
  | updateGoal (complete : Bool)
  deriving DecidableEq, Repr

/-- The steps of a call. -/
def GoalOperation.script (clock : Clock) : GoalOperation → GoalScript Unit
  | .setGoal objective tokenBudget replace newGoalId => do
      let _ ← GoalService.setGoal objective tokenBudget replace newGoalId clock
  | .editGoal objective expectedGoalId => do
      let _ ← GoalService.editGoal objective expectedGoalId clock
  | .clearGoal expectedGoalId => do
      let _ ← GoalService.clearGoal expectedGoalId
  | .pauseGoal expectedGoalId => do
      let _ ← GoalService.pauseGoal expectedGoalId clock
  | .resumeGoal expectedGoalId => do
      let _ ← GoalService.resumeGoal expectedGoalId clock
  | .markStatus status expectedGoalId => do
      let _ ← GoalService.markStatus status expectedGoalId clock
  | .stopForError usageLimit => do
      let _ ← GoalRuntime.stopForError usageLimit clock
  | .accountProgress allowComplete allowStopped expectedGoalId => do
      let _ ← GoalRuntime.accountProgress allowComplete allowStopped expectedGoalId clock
  | .onModelCallBegin turnId => GoalService.onModelCallBegin turnId clock
  | .onModelCallEnd turnId inputTokens outputTokens cacheReadTokens =>
    GoalService.onModelCallEnd turnId inputTokens outputTokens cacheReadTokens clock
  | .onTurnStart turnId tokenUsage => GoalRuntime.startTurn turnId tokenUsage clock
  | .onTurnAbort turnId => onRuntime (·.finishTurn turnId)
  | .onTokenUsage turnId inputTokens outputTokens cacheReadTokens =>
    GoalService.onTokenUsage turnId inputTokens outputTokens cacheReadTokens
  | .onToolFinish => GoalService.onToolFinish clock
  | .onTurnEnd usageLimitError turnId => do
      let _ ← GoalService.onTurnEnd usageLimitError turnId clock
  | .createGoal objective tokenBudget newGoalId => do
      let _ ← GoalTools.createGoal objective tokenBudget newGoalId clock
  | .updateGoal complete => do
      let _ ← GoalTools.updateGoal complete clock

/-- A call and the clock it reads. -/
abbrev GoalRequest := GoalOperation × Clock

/-- The goal id that a call draws. -/
def GoalOperation.newGoalId : GoalOperation → Option Text
  | .setGoal _ _ _ newGoalId | .createGoal _ _ newGoalId => some newGoalId
  | _ => none

/-! ### One call after the other -/

/-- A thread, and the ids that its goals had before some call. -/
structure GoalHistory where
  thread : GoalThread := {}
  seen : List Text := []
  deriving DecidableEq, Repr

namespace GoalHistory

/-- The ids that are or were in use. -/
def used (history : GoalHistory) : List Text :=
  history.seen ++ history.thread.store.toList.map (·.goalId)

/-- `uuid4` does not draw an id twice. -/
def step (history : GoalHistory) (request : GoalRequest) : Option GoalHistory :=
  if request.1.newGoalId.any (· ∈ history.used) then none
  else some ⟨((request.1.script request.2).run history.thread).1, history.used⟩

def machine : Machine GoalHistory GoalRequest where
  step := step

theorem step_cases {history next : GoalHistory} {request : GoalRequest}
    (stepped : machine.step history request = some next) :
    (∀ newGoalId ∈ request.1.newGoalId, newGoalId ∉ history.used) ∧
      next = ⟨((request.1.script request.2).run history.thread).1, history.used⟩ := by
  simp only [machine, step] at stepped
  split at stepped
  case isTrue => cases stepped
  case isFalse fresh =>
    refine ⟨fun newGoalId drawn known => fresh ?_, (Option.some.inj stepped).symm⟩
    rw [Option.mem_def] at drawn
    simpa [drawn] using known

end GoalHistory

end Synapse.Goals
