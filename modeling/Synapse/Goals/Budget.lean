import Synapse.Goals.Moves

/-!
# Budgets

The step that charges an active goal up to its budget limits it.
-/

namespace Synapse.Goals

/-- If an active goal is charged and its total reaches its budget, then it is limited. -/
def LimitsAtBudget (before after : GoalThread) : Prop :=
  ∀ goal ∈ before.store, goal.status = .active → ∀ row ∈ after.store,
    row.goalId = goal.goalId →
    row.tokensUsed ≠ goal.tokensUsed ∨ row.timeUsedSeconds ≠ goal.timeUsedSeconds →
    ∀ budget ∈ row.tokenBudget, budget ≤ (row.tokensUsed : ℤ) → row.status = .budgetLimited

theorem limitsAtBudget_of_sameAccount {before after : GoalThread}
    (same : SameAccount before.store after.store) : LimitsAtBudget before after := by
  intro goal stored _ row present _ changed
  rcases same row present with ⟨found, foundStored, _, sameTokens, sameTime⟩
  obtain rfl := Option.mem_unique stored foundStored
  rcases changed with tokens | time
  · exact absurd sameTokens tokens
  · exact absurd sameTime time

theorem accountUsage_limitsAtBudget (thread : GoalThread) {timeDelta tokenDelta : ℕ}
    (allowComplete allowStopped : Bool) (expected : Option Text) (nowMs : ℤ) :
    LimitsAtBudget thread { thread with store := (thread.store.accountUsage timeDelta tokenDelta
      allowComplete allowStopped expected nowMs).1 } := by
  by_cases zero : timeDelta = 0 ∧ tokenDelta = 0
  · refine limitsAtBudget_of_sameAccount ?_
    simp only [GoalStore.accountUsage, if_pos zero]
    exact sameAccount_rfl _
  · rcases accountUsage_cases thread.store zero allowComplete allowStopped expected nowMs with
      same | ⟨found, stored, changed⟩
    · refine limitsAtBudget_of_sameAccount ?_
      rw [same]
      exact sameAccount_rfl _
    · intro goal before active row after _ _ budget limited reached
      obtain rfl := Option.mem_unique stored before
      rw [changed] at after
      cases after
      have limit : found.tokenBudget = some budget := limited
      simp only [GoalStore.charged, limit]
      exact if_pos ⟨active, reached⟩

theorem insert_limitsAtBudget (thread : GoalThread) (objective : Text) (tokenBudget : Option ℤ)
    (newGoalId : Text) (nowMs : ℤ) :
    LimitsAtBudget thread { thread with
      store := (thread.store.insert objective .active tokenBudget newGoalId nowMs).1 } := by
  intro goal stored active row after sameId changed
  rcases thread with ⟨store, runtime⟩
  obtain rfl : store = some goal := stored
  have kept : ¬goal.status.isReplaceable = true := by
    simp [active, ThreadGoalStatus.isReplaceable, ThreadGoalStatus.isTerminal]
  simp only [GoalStore.insert, if_neg kept] at after
  cases after
  rcases changed with tokens | time
  · exact absurd rfl tokens
  · exact absurd rfl time

/-- No step of the script lets an active goal run over its budget. -/
abbrev Limits {Value : Type} (script : GoalScript Value) : Prop :=
  script.Respects (fun _ _ => True) LimitsAtBudget

section

variable {Value : Type}

theorem limits_onRuntime (action : GoalRuntime → GoalRuntime) : Limits (onRuntime action) :=
  Script.respects_atomically fun _ _ => limitsAtBudget_of_sameAccount (sameAccount_rfl _)

theorem limits_readRuntime : Limits readRuntime :=
  Script.respects_atomically fun _ _ => limitsAtBudget_of_sameAccount (sameAccount_rfl _)

theorem limits_onStore {step : GoalStep} {action : GoalStore → GoalStore × Value}
    (same : ∀ store, SameAccount store (action store).1) : Limits (onStore step action) :=
  Script.respects_atomically fun thread _ => limitsAtBudget_of_sameAccount (same thread.store)

theorem limits_getGoal : Limits getGoal :=
  limits_onStore sameAccount_rfl

theorem limits_update (change : GoalChange) (expected : Option Text)
    (status : Option ThreadGoalStatus) (nowMs : ℤ) :
    Limits (onStore .update (·.update change expected status nowMs)) :=
  limits_onStore fun store => update_sameAccount store change expected status nowMs

theorem limits_accountUsage (timeDelta tokenDelta : ℕ) (allowComplete allowStopped : Bool)
    (expected : Option Text) (nowMs : ℤ) :
    Limits (onStore .accountUsage (·.accountUsage timeDelta tokenDelta allowComplete allowStopped
      expected nowMs)) :=
  Script.respects_atomically fun thread _ => accountUsage_limitsAtBudget thread _ _ expected nowMs

theorem limits_orGet (goal : Option ThreadGoal) :
    Limits (match goal with
      | some goal => return some goal
      | none => getGoal : GoalScript (Option ThreadGoal)) := by
  cases goal with
  | none => exact limits_getGoal
  | some goal => exact Script.respects_pure _

end

namespace GoalRuntime

theorem startTurn_limits (turnId : Text) (tokenUsage : ℤ) (clock : Clock) :
    Limits (startTurn turnId tokenUsage clock) := by
  refine (limits_onRuntime _).bind fun _ => ?_
  exact limits_getGoal.bind fun goal => limits_onRuntime _

theorem accountProgress_limits (allowComplete allowStopped : Bool) (expected : Option Text)
    (clock : Clock) : Limits (accountProgress allowComplete allowStopped expected clock) := by
  refine limits_readRuntime.bind fun runtime => ?_
  cases runtime.turn with
  | none =>
    dsimp only
    unfold accountWallClockOnly
    dsimp only
    split
    · exact limits_getGoal.bind fun _ => Script.respects_pure _
    · refine limits_getGoal.bind fun _ => ?_
      refine (limits_accountUsage _ 0 allowComplete allowStopped _ clock.ms).bind fun _ => ?_
      exact (limits_onRuntime _).bind fun _ => Script.respects_pure _
  | some turn =>
    dsimp only
    split
    · exact limits_getGoal.bind fun _ => Script.respects_pure _
    · refine limits_getGoal.bind fun _ => ?_
      refine (limits_accountUsage _ _ allowComplete allowStopped _ clock.ms).bind fun _ => ?_
      exact (limits_onRuntime _).bind fun _ => Script.respects_pure _

theorem stopForError_limits (usageLimit : Bool) (clock : Clock) :
    Limits (stopForError usageLimit clock) := by
  refine limits_getGoal.bind fun current => ?_
  cases current with
  | none => exact Script.respects_pure _
  | some current =>
    refine (limits_update _ _ _ clock.ms).bind fun goal => ?_
    exact (limits_onRuntime _).bind fun _ => limits_orGet goal

theorem pause_limits (clock : Clock) : Limits (pause clock) := by
  refine (limits_onStore sameAccount_rfl).bind fun current => ?_
  cases current with
  | none => exact Script.respects_pure _
  | some current =>
    dsimp only
    split
    · exact Script.respects_pure _
    · refine (limits_update _ _ _ clock.ms).bind fun goal => ?_
      exact (limits_onRuntime _).bind fun _ => limits_orGet goal

theorem resume_limits (clock : Clock) : Limits (resume clock) := by
  refine (limits_onStore sameAccount_rfl).bind fun current => ?_
  cases current with
  | none => exact Script.respects_pure _
  | some goal =>
    dsimp only
    split
    · exact Script.respects_pure _
    · refine (limits_update _ _ none clock.ms).bind fun updated => ?_
      cases updated with
      | none => exact Script.respects_pure _
      | some updated => exact (limits_onRuntime _).bind fun _ => Script.respects_pure _

end GoalRuntime

namespace GoalService

theorem conflict_limits : Limits conflict := by
  refine limits_getGoal.bind fun current => ?_
  cases current with
  | none => exact Script.respects_pure _
  | some current => exact Script.respects_pure _

theorem setGoal_limits (objective : Text) (tokenBudget : Option ℤ) (replace : Bool)
    (newGoalId : Text) (clock : Clock) :
    Limits (setGoal objective tokenBudget replace newGoalId clock) := by
  have inserts : Limits
      (onStore .insert (·.insert objective .active tokenBudget newGoalId clock.ms)) :=
    Script.respects_atomically fun thread _ =>
      insert_limitsAtBudget thread objective tokenBudget newGoalId clock.ms
  refine limits_getGoal.bind fun existing => ?_
  dsimp only
  split
  · exact Script.respects_pure _
  · split
    case' isTrue =>
      refine (limits_onStore fun store => clear_sameAccount store none).bind fun _ => ?_
    all_goals
      refine Script.Respects.bind inserts fun goal => ?_
      cases goal with
      | none => exact Script.respects_pure _
      | some goal => exact (limits_onRuntime _).bind fun _ => Script.respects_pure _

theorem editGoal_limits (objective : Text) (expected : Option Text) (clock : Clock) :
    Limits (editGoal objective expected clock) := by
  refine (limits_update _ _ _ clock.ms).bind fun goal => ?_
  cases goal with
  | none => exact conflict_limits
  | some goal => exact Script.respects_pure _

theorem clearGoal_limits (expected : Option Text) : Limits (clearGoal expected) := by
  refine (limits_onStore fun store => clear_sameAccount store expected).bind fun goal => ?_
  cases goal with
  | none => exact conflict_limits
  | some goal => exact (limits_onRuntime _).bind fun _ => Script.respects_pure _

theorem fenced_limits (expected : Option Text) {move : GoalScript (Option ThreadGoal)}
    (moves : Limits move) : Limits (fenced expected move) := by
  refine limits_getGoal.bind fun current => ?_
  cases current with
  | none => exact Script.respects_pure _
  | some current =>
    dsimp only
    split
    · exact Script.respects_pure _
    · refine moves.bind fun goal => ?_
      cases goal with
      | none => exact Script.respects_pure _
      | some goal => exact Script.respects_pure _

theorem markStatus_limits (status : ThreadGoalStatus) (expected : Option Text) (clock : Clock) :
    Limits (markStatus status expected clock) := by
  refine limits_getGoal.bind fun current => ?_
  cases current with
  | none => exact Script.respects_pure _
  | some current =>
    dsimp only
    split
    · exact Script.respects_pure _
    · refine (limits_update _ _ none clock.ms).bind fun updated => ?_
      refine (limits_orGet updated).bind fun goal => ?_
      cases goal with
      | none => exact Script.respects_pure _
      | some goal =>
        dsimp only
        split
        · exact (limits_onRuntime _).bind fun _ => Script.respects_pure _
        · exact Script.respects_pure _

theorem onModelCallBegin_limits (turnId : Text) (clock : Clock) :
    Limits (onModelCallBegin turnId clock) := by
  refine limits_readRuntime.bind fun runtime => ?_
  split
  · exact GoalRuntime.startTurn_limits turnId 0 clock
  · exact Script.respects_pure _

theorem onToolFinish_limits (clock : Clock) : Limits (onToolFinish clock) :=
  (GoalRuntime.accountProgress_limits _ _ _ clock).bind fun _ => Script.respects_pure _

theorem onModelCallEnd_limits (turnId : Text) (inputTokens outputTokens cacheReadTokens : ℤ)
    (clock : Clock) :
    Limits (onModelCallEnd turnId inputTokens outputTokens cacheReadTokens clock) := by
  refine (onModelCallBegin_limits turnId clock).bind fun _ => ?_
  refine limits_readRuntime.bind fun runtime => ?_
  exact (limits_onRuntime _).bind fun _ => onToolFinish_limits clock

theorem onTurnEnd_limits (usageLimitError : Bool) (turnId : Option Text) (clock : Clock) :
    Limits (onTurnEnd usageLimitError turnId clock) := by
  refine limits_readRuntime.bind fun runtime => ?_
  split
  · exact limits_getGoal
  · refine Script.Respects.bind ?_ fun goal => ?_
    · split
      · exact GoalRuntime.stopForError_limits true clock
      · refine (GoalRuntime.accountProgress_limits _ _ _ clock).bind fun accounted => ?_
        rcases accounted with ⟨goal | goal, hit⟩
        · exact limits_getGoal
        · exact Script.respects_pure _
    · exact (limits_onRuntime _).bind fun _ => Script.respects_pure _

end GoalService

theorem operation_limits (operation : GoalOperation) (clock : Clock) :
    Limits (operation.script clock) := by
  have ignored : ∀ {Value : Type} {script : GoalScript Value}, Limits script →
      Limits (do let _ ← script) := fun limits => limits.bind fun _ => Script.respects_pure _
  cases operation with
  | setGoal objective tokenBudget replace newGoalId =>
    exact ignored (GoalService.setGoal_limits objective tokenBudget replace newGoalId clock)
  | editGoal objective expected =>
    exact ignored (GoalService.editGoal_limits objective expected clock)
  | clearGoal expected => exact ignored (GoalService.clearGoal_limits expected)
  | pauseGoal expected =>
    exact ignored (GoalService.fenced_limits expected (GoalRuntime.pause_limits clock))
  | resumeGoal expected =>
    exact ignored (GoalService.fenced_limits expected (GoalRuntime.resume_limits clock))
  | markStatus status expected =>
    exact ignored (GoalService.markStatus_limits status expected clock)
  | stopForError usageLimit => exact ignored (GoalRuntime.stopForError_limits usageLimit clock)
  | accountProgress allowComplete allowStopped expected =>
    exact ignored
      (GoalRuntime.accountProgress_limits allowComplete allowStopped expected clock)
  | onModelCallBegin turnId => exact GoalService.onModelCallBegin_limits turnId clock
  | onModelCallEnd turnId inputTokens outputTokens cacheReadTokens =>
    exact GoalService.onModelCallEnd_limits turnId inputTokens outputTokens cacheReadTokens clock
  | onTurnStart turnId tokenUsage => exact GoalRuntime.startTurn_limits turnId tokenUsage clock
  | onTurnAbort turnId => exact limits_onRuntime (·.finishTurn turnId)
  | onTokenUsage turnId inputTokens outputTokens cacheReadTokens =>
    exact limits_onRuntime
      (·.recordTokenUsage turnId inputTokens outputTokens cacheReadTokens)
  | onToolFinish => exact GoalService.onToolFinish_limits clock
  | onTurnEnd usageLimitError turnId =>
    exact ignored (GoalService.onTurnEnd_limits usageLimitError turnId clock)
  | createGoal objective tokenBudget newGoalId =>
    refine ignored ?_
    unfold GoalTools.createGoal
    dsimp only
    split
    · exact Script.respects_pure _
    · exact (GoalService.onToolFinish_limits clock).bind fun _ =>
        GoalService.setGoal_limits _ tokenBudget false newGoalId clock
  | updateGoal complete =>
    refine ignored ?_
    refine (GoalService.onToolFinish_limits clock).bind fun _ => ?_
    refine limits_getGoal.bind fun current => ?_
    cases current with
    | none => exact Script.respects_pure _
    | some current => exact GoalService.markStatus_limits _ _ clock

end Synapse.Goals
