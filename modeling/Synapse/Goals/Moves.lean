import Synapse.Goals.Completion

/-!
# Calls as moves

A call is a sequence of small moves, after which `set_goal` may create a goal: a
section of the runtime that charges nothing, a statement that keeps the counters of
the row, or a charge.
-/

namespace Synapse.Goals

/-- The tokens of the turn that have not been charged. -/
def GoalRuntime.pending (runtime : GoalRuntime) : ℕ :=
  runtime.turn.elim 0 fun turn => turn.currentTokens - turn.lastAccountedTokens

/-- Nothing is charged, and the tokens behind the baseline stay behind it. -/
structure Passes (before after : GoalRuntime) : Prop where
  charges : after.ledger.charges = before.ledger.charges
  created : after.ledger.created = before.ledger.created
  baseline : before.ledger.recorded + after.pending ≤ before.pending + after.ledger.recorded

/-- The row, if it is still there, has the same id and counters. -/
def SameAccount (before after : GoalStore) : Prop :=
  ∀ row ∈ after, ∃ goal ∈ before, row.goalId = goal.goalId ∧
    row.tokensUsed = goal.tokensUsed ∧ row.timeUsedSeconds = goal.timeUsedSeconds

/-- What a call does to a thread, step by step, before it creates a goal. -/
inductive Move : GoalThread → GoalThread → Prop where
  | pass {before after : GoalRuntime} (store : GoalStore) (passes : Passes before after) :
      Move ⟨store, before⟩ ⟨store, after⟩
  | row {before after : GoalStore} (runtime : GoalRuntime) (same : SameAccount before after) :
      Move ⟨before, runtime⟩ ⟨after, runtime⟩
  | chargeTime (store : GoalStore) (runtime : GoalRuntime) {timeDelta : ℕ} (positive : timeDelta ≠ 0)
      (allowComplete allowStopped : Bool) (expected : Option Text) (nowMs : ℤ) :
      Move ⟨store, runtime⟩
        ⟨(store.accountUsage timeDelta 0 allowComplete allowStopped expected nowMs).1, runtime⟩
  | charge (store : GoalStore) (runtime : GoalRuntime) {timeDelta : ℕ}
      (positive : ¬(timeDelta = 0 ∧ runtime.pending = 0)) (allowComplete allowStopped : Bool)
      (expected : Option Text) (clock : Clock) :
      Move ⟨store, runtime⟩
        ⟨(store.accountUsage timeDelta runtime.pending allowComplete allowStopped expected
            clock.ms).1,
          runtime.moveBaseline (store.accountUsage timeDelta runtime.pending allowComplete
            allowStopped expected clock.ms).2 runtime.pending timeDelta clock⟩

/-- A goal with a new id takes the place of the row. -/
inductive Create (newGoalId : Text) : GoalThread → GoalThread → Prop where
  | intro (store : GoalStore) (runtime : GoalRuntime) (objective : Text) (tokenBudget : Option ℤ)
      (clock : Clock) :
      Create newGoalId ⟨store, runtime⟩
        ⟨some ⟨newGoalId, objective, .active, tokenBudget, 0, 0, clock.ms, clock.ms⟩,
          runtime.markTurnGoalActive newGoalId clock⟩

/-! ### Sections and statements as moves -/

namespace GoalRuntime

variable (runtime : GoalRuntime)

/-- Most sections change neither the tokens nor the ledger. -/
theorem passes_of_same {before after : GoalRuntime} (ledger : after.ledger = before.ledger)
    (fewer : after.pending ≤ before.pending) : Passes before after where
  charges := by rw [ledger]
  created := by rw [ledger]
  baseline := by rw [ledger]; omega

theorem beginTurn_passes (turnId : Text) (tokenUsage : ℤ) :
    Passes runtime (runtime.beginTurn turnId tokenUsage) := by
  refine passes_of_same rfl ?_
  simp [pending, beginTurn]

theorem startWallClock_passes (goal : Option ThreadGoal) (clock : Clock) :
    Passes runtime (runtime.startWallClock goal clock) := by
  unfold startWallClock
  split
  · split
    · exact passes_of_same rfl le_rfl
    · exact passes_of_same rfl le_rfl
  · exact passes_of_same rfl le_rfl

theorem recordTokenUsage_passes (turnId : Text) (inputTokens outputTokens cacheReadTokens : ℤ) :
    Passes runtime
      (runtime.recordTokenUsage turnId inputTokens outputTokens cacheReadTokens) := by
  unfold recordTokenUsage
  split
  case h_1 turn found =>
    split
    case isTrue =>
      refine ⟨rfl, rfl, ?_⟩
      simp only [pending, found, Option.elim_some]
      omega
    case isFalse => exact passes_of_same rfl le_rfl
  case h_2 => exact passes_of_same rfl le_rfl

theorem markIdleGoalActive_passes (goalId : Text) (clock : Clock) :
    Passes runtime (runtime.markIdleGoalActive goalId clock) :=
  passes_of_same rfl le_rfl

theorem clearActiveGoal_passes : Passes runtime runtime.clearActiveGoal := by
  refine passes_of_same rfl ?_
  rcases runtime with ⟨_ | turn, _, _, _, _⟩
  · exact le_rfl
  · exact le_rfl

theorem finishTurn_passes (turnId : Text) : Passes runtime (runtime.finishTurn turnId) := by
  unfold finishTurn
  split
  · exact passes_of_same rfl le_rfl
  · split
    · exact passes_of_same rfl (Nat.zero_le _)
    · exact passes_of_same rfl le_rfl

theorem finishActiveTurn_passes : Passes runtime runtime.finishActiveTurn :=
  passes_of_same rfl (Nat.zero_le _)

theorem resetWallClock_passes (clock : Clock) : Passes runtime (runtime.resetWallClock clock) :=
  passes_of_same rfl le_rfl

end GoalRuntime

theorem sameAccount_rfl (store : GoalStore) : SameAccount store store :=
  fun row stored => ⟨row, stored, rfl, rfl, rfl⟩

theorem update_sameAccount (store : GoalStore) (change : GoalChange) (expected : Option Text)
    (status : Option ThreadGoalStatus) (nowMs : ℤ) :
    SameAccount store (store.update change expected status nowMs).1 := by
  unfold GoalStore.update
  split
  · exact sameAccount_rfl store
  · split
    case h_1 goal =>
      split
      · intro row stored
        cases stored
        exact ⟨goal, rfl, rfl, rfl, rfl⟩
      · exact sameAccount_rfl _
    case h_2 => exact sameAccount_rfl _

theorem clear_sameAccount (store : GoalStore) (expected : Option Text) :
    SameAccount store (store.clear expected).1 := by
  have gone : ∀ before : GoalStore, SameAccount before none := by
    exact nofun
  unfold GoalStore.clear
  split
  · split
    · exact gone _
    · exact sameAccount_rfl _
  · exact sameAccount_rfl _

theorem accountUsage_cases (store : GoalStore) {timeDelta tokenDelta : ℕ}
    (positive : ¬(timeDelta = 0 ∧ tokenDelta = 0)) (allowComplete allowStopped : Bool)
    (expected : Option Text) (nowMs : ℤ) :
    store.accountUsage timeDelta tokenDelta allowComplete allowStopped expected nowMs =
        (store, none) ∨
      ∃ goal, store = some goal ∧
        store.accountUsage timeDelta tokenDelta allowComplete allowStopped expected nowMs =
          (some (GoalStore.charged goal timeDelta tokenDelta nowMs),
            some (GoalStore.charged goal timeDelta tokenDelta nowMs)) := by
  unfold GoalStore.accountUsage
  rw [if_neg positive]
  cases store with
  | none => exact Or.inl rfl
  | some goal =>
    dsimp only
    split
    · exact Or.inr ⟨goal, rfl, rfl⟩
    · exact Or.inl rfl

/-! ### Calls as moves -/

/-- The thread was reached from a start by moves. -/
abbrev Moved (start : GoalThread) : GoalThread → Prop :=
  Relation.ReflTransGen Move start

/-- A goal is created in the last steps of a call, or not at all. -/
def Called (start : GoalThread) (drawn : Option Text) (thread : GoalThread) : Prop :=
  Moved start thread ∨
    ∃ middle, Moved start middle ∧ ∃ newGoalId ∈ drawn, Create newGoalId middle thread

variable {start : GoalThread}

theorem moved_induction (invariant : GoalThread → Prop)
    (preserved : ∀ {before after}, invariant before → Move before after → invariant after)
    {final : GoalThread} (initial : invariant start) (moved : Moved start final) :
    invariant final := by
  induction moved with
  | refl => exact initial
  | tail _ move holds => exact preserved holds move

section

variable {Value : Type}

theorem moved_onRuntime {action : GoalRuntime → GoalRuntime}
    (passes : ∀ runtime, Passes runtime (action runtime)) :
    Script.Keeps (Moved start) (onRuntime action) :=
  Script.keeps_atomically fun thread moved => moved.tail (Move.pass thread.store (passes _))

theorem moved_onStore {step : GoalStep} {action : GoalStore → GoalStore × Value}
    (same : ∀ store, SameAccount store (action store).1) :
    Script.Keeps (Moved start) (onStore step action) :=
  Script.keeps_atomically fun thread moved => moved.tail (Move.row thread.runtime (same _))

theorem moved_getGoal : Script.Keeps (Moved start) getGoal :=
  Script.keeps_atomically fun _ moved => moved

theorem moved_readRuntime : Script.Keeps (Moved start) readRuntime :=
  Script.keeps_atomically fun _ moved => moved

end

namespace GoalRuntime

theorem startTurn_moved (turnId : Text) (tokenUsage : ℤ) (clock : Clock) :
    Script.Keeps (Moved start) (startTurn turnId tokenUsage clock) := by
  refine (moved_onRuntime fun runtime => runtime.beginTurn_passes turnId tokenUsage).bind fun _ => ?_
  refine moved_getGoal.bind fun goal => ?_
  exact moved_onRuntime fun runtime => runtime.startWallClock_passes goal clock

theorem accountWallClockOnly_moved (runtime : GoalRuntime) (allowComplete allowStopped : Bool)
    (clock : Clock) :
    Script.Keeps (Moved start) (accountWallClockOnly runtime allowComplete allowStopped clock) := by
  unfold accountWallClockOnly
  dsimp only
  split
  · exact moved_getGoal.bind fun _ => Script.keeps_pure _
  case isFalse positive =>
    refine moved_getGoal.bind fun _ => ?_
    refine Script.Keeps.bind (Script.keeps_atomically fun thread moved => moved.tail
      (Move.chargeTime thread.store thread.runtime positive _ _ _ _)) fun _ => ?_
    refine Script.Keeps.bind (moved_onRuntime fun runtime => runtime.resetWallClock_passes clock)
      fun _ => ?_
    exact Script.keeps_pure _

/-- What is charged is what is pending, and the baseline is moved over it. -/
theorem accountProgress_moved (allowComplete allowStopped : Bool) (expected : Option Text)
    (clock : Clock) :
    Script.Keeps (Moved start) (accountProgress allowComplete allowStopped expected clock) := by
  intro thread moved
  rcases thread with ⟨store, runtime⟩
  unfold accountProgress
  rw [Script.run_bind]
  cases found : runtime.turn with
  | none =>
    simp only [readRuntime, Script.run_atomically, found]
    exact accountWallClockOnly_moved runtime allowComplete allowStopped clock _ moved
  | some turn =>
    have pending : turn.currentTokens - turn.lastAccountedTokens = runtime.pending := by
      simp [GoalRuntime.pending, found]
    simp only [readRuntime, Script.run_atomically, found, pending]
    split
    case isTrue => exact moved
    case isFalse positive =>
      refine moved.tail (Move.charge store runtime ?_ allowComplete allowStopped _ clock)
      rw [and_comm]
      exact positive

theorem stopForError_moved (usageLimit : Bool) (clock : Clock) :
    Script.Keeps (Moved start) (stopForError usageLimit clock) := by
  refine moved_getGoal.bind fun current => ?_
  cases current with
  | none => exact Script.keeps_pure _
  | some current =>
    refine (moved_onStore fun store => update_sameAccount store _ _ _ clock.ms).bind fun goal => ?_
    refine (moved_onRuntime clearActiveGoal_passes).bind fun _ => ?_
    cases goal with
    | none => exact moved_getGoal
    | some goal => exact Script.keeps_pure _

theorem pause_moved (clock : Clock) : Script.Keeps (Moved start) (pause clock) := by
  refine (moved_onStore sameAccount_rfl).bind fun current => ?_
  cases current with
  | none => exact Script.keeps_pure _
  | some current =>
    dsimp only
    split
    · exact Script.keeps_pure _
    · refine (moved_onStore fun store => update_sameAccount store _ _ _ clock.ms).bind
        fun goal => ?_
      refine (moved_onRuntime clearActiveGoal_passes).bind fun _ => ?_
      cases goal with
      | none => exact moved_getGoal
      | some goal => exact Script.keeps_pure _

theorem resume_moved (clock : Clock) : Script.Keeps (Moved start) (resume clock) := by
  refine (moved_onStore sameAccount_rfl).bind fun current => ?_
  cases current with
  | none => exact Script.keeps_pure _
  | some goal =>
    dsimp only
    split
    · exact Script.keeps_pure _
    · refine (moved_onStore fun store => update_sameAccount store _ _ _ clock.ms).bind
        fun updated => ?_
      cases updated with
      | none => exact Script.keeps_pure _
      | some updated =>
        refine Script.Keeps.bind (moved_onRuntime fun runtime =>
          runtime.markIdleGoalActive_passes updated.goalId clock) fun _ => ?_
        exact Script.keeps_pure _

end GoalRuntime

namespace GoalService

theorem conflict_moved : Script.Keeps (Moved start) conflict := by
  refine moved_getGoal.bind fun current => ?_
  cases current with
  | none => exact Script.keeps_pure _
  | some current => exact Script.keeps_pure _

theorem editGoal_moved (objective : Text) (expected : Option Text) (clock : Clock) :
    Script.Keeps (Moved start) (editGoal objective expected clock) := by
  refine (moved_onStore fun store => update_sameAccount store _ _ _ clock.ms).bind fun goal => ?_
  cases goal with
  | none => exact conflict_moved
  | some goal => exact Script.keeps_pure _

theorem clearGoal_moved (expected : Option Text) :
    Script.Keeps (Moved start) (clearGoal expected) := by
  refine (moved_onStore fun store => clear_sameAccount store expected).bind fun goal => ?_
  cases goal with
  | none => exact conflict_moved
  | some goal =>
    exact (moved_onRuntime GoalRuntime.clearActiveGoal_passes).bind fun _ => Script.keeps_pure _

theorem fenced_moved (expected : Option Text) {move : GoalScript (Option ThreadGoal)}
    (moves : Script.Keeps (Moved start) move) :
    Script.Keeps (Moved start) (fenced expected move) := by
  refine moved_getGoal.bind fun current => ?_
  cases current with
  | none => exact Script.keeps_pure _
  | some current =>
    dsimp only
    split
    · exact Script.keeps_pure _
    · refine moves.bind fun goal => ?_
      cases goal with
      | none => exact Script.keeps_pure _
      | some goal => exact Script.keeps_pure _

theorem markStatus_moved (status : ThreadGoalStatus) (expected : Option Text) (clock : Clock) :
    Script.Keeps (Moved start) (markStatus status expected clock) := by
  refine moved_getGoal.bind fun current => ?_
  cases current with
  | none => exact Script.keeps_pure _
  | some current =>
    dsimp only
    split
    · exact Script.keeps_pure _
    · refine (moved_onStore fun store => update_sameAccount store _ _ _ clock.ms).bind
        fun updated => ?_
      refine Script.Keeps.bind ?_ fun goal => ?_
      · cases updated with
        | none => exact moved_getGoal
        | some goal => exact Script.keeps_pure _
      · cases goal with
        | none => exact Script.keeps_pure _
        | some goal =>
          dsimp only
          split
          · refine (moved_onRuntime GoalRuntime.clearActiveGoal_passes).bind fun _ => ?_
            exact Script.keeps_pure _
          · exact Script.keeps_pure _

theorem onModelCallBegin_moved (turnId : Text) (clock : Clock) :
    Script.Keeps (Moved start) (onModelCallBegin turnId clock) := by
  refine moved_readRuntime.bind fun runtime => ?_
  split
  · exact GoalRuntime.startTurn_moved turnId 0 clock
  · exact Script.keeps_pure _

theorem onTokenUsage_moved (turnId : Text) (inputTokens outputTokens cacheReadTokens : ℤ) :
    Script.Keeps (Moved start) (onTokenUsage turnId inputTokens outputTokens cacheReadTokens) :=
  moved_onRuntime fun runtime =>
    runtime.recordTokenUsage_passes turnId inputTokens outputTokens cacheReadTokens

theorem onToolFinish_moved (clock : Clock) : Script.Keeps (Moved start) (onToolFinish clock) :=
  (GoalRuntime.accountProgress_moved _ _ _ clock).bind fun _ => Script.keeps_pure _

theorem onModelCallEnd_moved (turnId : Text) (inputTokens outputTokens cacheReadTokens : ℤ)
    (clock : Clock) :
    Script.Keeps (Moved start)
      (onModelCallEnd turnId inputTokens outputTokens cacheReadTokens clock) := by
  refine (onModelCallBegin_moved turnId clock).bind fun _ => ?_
  refine moved_readRuntime.bind fun runtime => ?_
  refine (onTokenUsage_moved _ inputTokens outputTokens cacheReadTokens).bind fun _ => ?_
  exact onToolFinish_moved clock

theorem onTurnEnd_moved (usageLimitError : Bool) (turnId : Option Text) (clock : Clock) :
    Script.Keeps (Moved start) (onTurnEnd usageLimitError turnId clock) := by
  refine moved_readRuntime.bind fun runtime => ?_
  split
  · exact moved_getGoal
  · refine Script.Keeps.bind ?_ fun goal => ?_
    · split
      · exact GoalRuntime.stopForError_moved true clock
      · refine (GoalRuntime.accountProgress_moved _ _ _ clock).bind fun accounted => ?_
        rcases accounted with ⟨goal | goal, hit⟩
        · exact moved_getGoal
        · exact Script.keeps_pure _
    · refine (moved_onRuntime fun runtime => ?_).bind fun _ => Script.keeps_pure _
      cases turnId with
      | none => exact runtime.finishActiveTurn_passes
      | some turnId => exact runtime.finishTurn_passes turnId

theorem setGoal_moved (objective : Text) (tokenBudget : Option ℤ) (replace : Bool)
    (newGoalId : Text) (clock : Clock) :
    Script.Triple (Moved start) (setGoal objective tokenBudget replace newGoalId clock)
      fun _ => Called start (some newGoalId) := by
  refine Script.Triple.bind (@moved_getGoal start) fun existing => ?_
  dsimp only
  split
  · exact Script.triple_pure fun _ moved => Or.inl moved
  · split
    case' isTrue =>
      refine Script.Triple.bind (moved_onStore fun store => clear_sameAccount store none) fun _ => ?_
    all_goals
      rintro ⟨store, runtime⟩ moved
      have created := fun store =>
        (Create.intro store runtime objective tokenBudget clock : Create newGoalId _ _)
      rw [Script.run_bind]
      cases store with
      | none => exact Or.inr ⟨_, moved, newGoalId, rfl, created none⟩
      | some existing =>
        simp only [onStore, Script.run_atomically, GoalStore.insert]
        cases existing.status.isReplaceable with
        | true => exact Or.inr ⟨_, moved, newGoalId, rfl, created _⟩
        | false => exact Or.inl moved

end GoalService

theorem GoalTools.updateGoal_moved (complete : Bool) (clock : Clock) :
    Script.Keeps (Moved start) (GoalTools.updateGoal complete clock) := by
  refine (GoalService.onToolFinish_moved clock).bind fun _ => ?_
  refine moved_getGoal.bind fun current => ?_
  cases current with
  | none => exact Script.keeps_pure _
  | some current => exact GoalService.markStatus_moved _ _ clock

theorem GoalTools.createGoal_moved (objective : Text) (tokenBudget : Option ℤ) (newGoalId : Text)
    (clock : Clock) :
    Script.Triple (Moved start) (GoalTools.createGoal objective tokenBudget newGoalId clock)
      fun _ => Called start (some newGoalId) := by
  unfold GoalTools.createGoal
  dsimp only
  split
  · exact Script.triple_pure fun _ moved => Or.inl moved
  · exact Script.Triple.bind (GoalService.onToolFinish_moved clock) fun _ =>
      GoalService.setGoal_moved _ tokenBudget false newGoalId clock

theorem operation_called (operation : GoalOperation) (clock : Clock) :
    Script.Triple (Moved start) (operation.script clock)
      fun _ => Called start operation.newGoalId := by
  have moves : ∀ {script : GoalScript Unit}, Script.Keeps (Moved start) script →
      Script.Triple (Moved start) script fun _ => Called start operation.newGoalId := fun keeps =>
    keeps.weaken (fun _ moved => moved) fun _ _ moved => Or.inl moved
  have ignored : ∀ {Value : Type} {script : GoalScript Value},
      Script.Keeps (Moved start) script → Script.Triple (Moved start) (do let _ ← script)
        fun _ => Called start operation.newGoalId := fun keeps =>
    moves (keeps.bind fun _ => Script.keeps_pure _)
  cases operation with
  | setGoal objective tokenBudget replace newGoalId =>
    exact (GoalService.setGoal_moved objective tokenBudget replace newGoalId clock).bind
      fun _ => Script.triple_pure fun _ called => called
  | editGoal objective expected => exact ignored (GoalService.editGoal_moved objective expected clock)
  | clearGoal expected => exact ignored (GoalService.clearGoal_moved expected)
  | pauseGoal expected =>
    exact ignored (GoalService.fenced_moved expected (GoalRuntime.pause_moved clock))
  | resumeGoal expected =>
    exact ignored (GoalService.fenced_moved expected (GoalRuntime.resume_moved clock))
  | markStatus status expected =>
    exact ignored (GoalService.markStatus_moved status expected clock)
  | stopForError usageLimit => exact ignored (GoalRuntime.stopForError_moved usageLimit clock)
  | accountProgress allowComplete allowStopped expected =>
    exact ignored
      (GoalRuntime.accountProgress_moved allowComplete allowStopped expected clock)
  | onModelCallBegin turnId => exact moves (GoalService.onModelCallBegin_moved turnId clock)
  | onModelCallEnd turnId inputTokens outputTokens cacheReadTokens =>
    exact moves (GoalService.onModelCallEnd_moved turnId inputTokens outputTokens
      cacheReadTokens clock)
  | onTurnStart turnId tokenUsage =>
    exact moves (GoalRuntime.startTurn_moved turnId tokenUsage clock)
  | onTurnAbort turnId =>
    exact moves (moved_onRuntime fun runtime => runtime.finishTurn_passes turnId)
  | onTokenUsage turnId inputTokens outputTokens cacheReadTokens =>
    exact moves (GoalService.onTokenUsage_moved turnId inputTokens outputTokens cacheReadTokens)
  | onToolFinish => exact moves (GoalService.onToolFinish_moved clock)
  | onTurnEnd usageLimitError turnId =>
    exact ignored (GoalService.onTurnEnd_moved usageLimitError turnId clock)
  | createGoal objective tokenBudget newGoalId =>
    exact (GoalTools.createGoal_moved objective tokenBudget newGoalId clock).bind
      fun _ => Script.triple_pure fun _ called => called
  | updateGoal complete => exact ignored (GoalTools.updateGoal_moved complete clock)

end Synapse.Goals
