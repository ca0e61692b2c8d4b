import Synapse.Goals.Runtime

/-!
# Completed goals

A goal that is complete stays complete for as long as it is there, unless it is
explicitly marked with another status.
-/

namespace Synapse.Goals

/-- If the goal is there, it is complete. -/
def Settled (goalId : Text) (store : GoalStore) : Prop :=
  ∀ goal ∈ store, goal.goalId = goalId → goal.status = .complete

variable {goalId : Text}

/-! ### The store -/

variable {goal : ThreadGoal}

theorem settled_some :
    Settled goalId (some goal) ↔ (goal.goalId = goalId → goal.status = .complete) := by
  simp [Settled]

theorem settled_none : Settled goalId none := by
  exact nofun

variable {expected : Option Text} {status : ThreadGoalStatus}

theorem expected_status
    (expects : GoalStore.Expected goal expected (some status) = true) : goal.status = status := by
  simp only [GoalStore.Expected, Bool.and_eq_true, decide_eq_true_eq] at expects
  exact expects.2

variable {store : GoalStore} {nowMs : ℤ}

theorem update_settled {change : GoalChange}
    {status : Option ThreadGoalStatus} (settled : Settled goalId store)
    (keeps : ∀ goal ∈ store, GoalStore.Expected goal expected status = true →
      goal.goalId = goalId → change.status.getD .complete = .complete) :
    Settled goalId (store.update change expected status nowMs).1 := by
  unfold GoalStore.update
  split
  · exact settled
  · split
    case h_1 goal =>
      split
      case isTrue expects =>
        rw [settled_some] at settled ⊢
        intro same
        have kept := keeps goal rfl expects same
        change change.status.getD goal.status = .complete
        rw [settled same]
        exact kept
      case isFalse => exact settled
    case h_2 => exact settled

theorem clear_settled
    (settled : Settled goalId store) : Settled goalId (store.clear expected).1 := by
  unfold GoalStore.clear
  split
  · split
    · exact settled_none
    · exact settled
  · exact settled

theorem insert_settled {objective newGoalId : Text} {tokenBudget : Option ℤ}
    (settled : Settled goalId store) (fresh : newGoalId ≠ goalId) :
    Settled goalId (store.insert objective status tokenBudget newGoalId nowMs).1 := by
  have new : Settled goalId
      (some ⟨newGoalId, objective, status, tokenBudget, 0, 0, nowMs, nowMs⟩) := by
    rw [settled_some]
    intro same
    exact absurd same fresh
  unfold GoalStore.insert
  split
  · split
    · exact new
    · exact settled
  · exact new

theorem charged_status {timeDelta tokenDelta : ℕ} (complete : goal.status = .complete) :
    (GoalStore.charged goal timeDelta tokenDelta nowMs).status = .complete := by
  unfold GoalStore.charged
  cases goal.tokenBudget with
  | none => exact complete
  | some budget => simp [complete]

theorem accountUsage_settled {timeDelta tokenDelta : ℕ} {allowComplete allowStopped : Bool}
    (settled : Settled goalId store) :
    Settled goalId (store.accountUsage timeDelta tokenDelta allowComplete allowStopped expected
      nowMs).1 := by
  unfold GoalStore.accountUsage
  split
  · exact settled
  · split
    case h_1 goal =>
      split
      · rw [settled_some] at settled ⊢
        intro same
        exact charged_status (settled same)
      · exact settled
    case h_2 => exact settled

/-! ### Scripts -/

/-- The script keeps an invariant of the store. -/
abbrev Keeps {Value : Type} (invariant : GoalStore → Prop) (script : GoalScript Value) : Prop :=
  Script.Keeps (fun thread => invariant thread.store) script

/-- The script leaves a completed goal complete. -/
abbrev KeepsSettled {Value : Type} (goalId : Text) (script : GoalScript Value) : Prop :=
  Keeps (Settled goalId) script

/-- Every charge keeps an invariant of the store. -/
def KeptByCharges (invariant : GoalStore → Prop) : Prop :=
  ∀ store timeDelta tokenDelta allowComplete allowStopped expected nowMs, invariant store →
    invariant (GoalStore.accountUsage store timeDelta tokenDelta allowComplete allowStopped expected
      nowMs).1

theorem settled_keptByCharges : KeptByCharges (Settled goalId) :=
  fun _ _ _ _ _ _ _ settled => accountUsage_settled settled

section

variable {invariant : GoalStore → Prop} {Value : Type}

theorem keeps_onStore {step : GoalStep} {action : GoalStore → GoalStore × Value}
    (keeps : ∀ store, invariant store → invariant (action store).1) :
    Keeps invariant (onStore step action) :=
  Script.triple_atomically fun thread holds => keeps thread.store holds

theorem keeps_onRuntime (action : GoalRuntime → GoalRuntime) :
    Keeps invariant (onRuntime action) :=
  Script.triple_atomically fun _ holds => holds

theorem keeps_readRuntime : Keeps invariant readRuntime :=
  Script.triple_atomically fun _ holds => holds

theorem keeps_getGoal : Keeps invariant getGoal :=
  keeps_onStore fun _ holds => holds

/-- A change that only applies to an active goal is none of a completed one. -/
theorem keepsSettled_update_active (status : ThreadGoalStatus) (expected : Option Text)
    (nowMs : ℤ) :
    KeepsSettled goalId
      (onStore .update (·.update { status := some status } expected (some .active) nowMs)) := by
  refine keeps_onStore fun store settled => update_settled settled ?_
  intro goal stored expects same
  have active := expected_status expects
  rw [settled goal stored same] at active
  cases active

end

namespace GoalRuntime

variable {invariant : GoalStore → Prop}

theorem startTurn_keeps (turnId : Text) (tokenUsage : ℤ) (clock : Clock) :
    Keeps invariant (startTurn turnId tokenUsage clock) := by
  refine (keeps_onRuntime _).bind fun _ => ?_
  exact keeps_getGoal.bind fun _ => keeps_onRuntime _

theorem accountWallClockOnly_keeps (kept : KeptByCharges invariant) (runtime : GoalRuntime)
    (allowComplete allowStopped : Bool) (clock : Clock) :
    Keeps invariant (accountWallClockOnly runtime allowComplete allowStopped clock) := by
  unfold accountWallClockOnly
  dsimp only
  split
  · exact keeps_getGoal.bind fun _ => Script.keeps_pure _
  · refine keeps_getGoal.bind fun _ => ?_
    refine (keeps_onStore fun _ holds => kept _ _ _ _ _ _ _ holds).bind fun _ => ?_
    exact (keeps_onRuntime _).bind fun _ => Script.keeps_pure _

theorem accountProgress_keeps (kept : KeptByCharges invariant) (allowComplete allowStopped : Bool)
    (expected : Option Text) (clock : Clock) :
    Keeps invariant (accountProgress allowComplete allowStopped expected clock) := by
  refine keeps_readRuntime.bind fun runtime => ?_
  cases runtime.turn with
  | none => exact accountWallClockOnly_keeps kept runtime allowComplete allowStopped clock
  | some turn =>
    dsimp only
    split
    · exact keeps_getGoal.bind fun _ => Script.keeps_pure _
    · refine keeps_getGoal.bind fun _ => ?_
      refine (keeps_onStore fun _ holds => kept _ _ _ _ _ _ _ holds).bind fun _ => ?_
      exact (keeps_onRuntime _).bind fun _ => Script.keeps_pure _

theorem stopForError_settled (usageLimit : Bool) (clock : Clock) :
    KeepsSettled goalId (stopForError usageLimit clock) := by
  refine keeps_getGoal.bind fun current => ?_
  cases current with
  | none => exact Script.keeps_pure _
  | some current =>
    refine (keepsSettled_update_active _ _ clock.ms).bind fun goal => ?_
    refine (keeps_onRuntime _).bind fun _ => ?_
    cases goal with
    | none => exact keeps_getGoal
    | some goal => exact Script.keeps_pure _

theorem pause_settled (clock : Clock) : KeepsSettled goalId (pause clock) := by
  refine (keeps_onStore fun _ settled => settled).bind fun current => ?_
  cases current with
  | none => exact Script.keeps_pure _
  | some current =>
    dsimp only
    split
    · exact Script.keeps_pure _
    · refine (keepsSettled_update_active _ _ clock.ms).bind fun goal => ?_
      refine (keeps_onRuntime _).bind fun _ => ?_
      cases goal with
      | none => exact keeps_getGoal
      | some goal => exact Script.keeps_pure _

/-- A goal that `resume` has just read as resumable is not a completed one. -/
theorem resume_settled (clock : Clock) : KeepsSettled goalId (resume clock) := by
  have reads : Script.Triple (fun thread => Settled goalId thread.store)
      (onStore .reread fun store => (store, store))
      fun found thread => Settled goalId thread.store ∧ thread.store = found :=
    Script.triple_atomically fun thread settled => ⟨settled, rfl⟩
  refine reads.bind fun found => ?_
  cases found with
  | none => exact Script.triple_pure fun _ settled => settled.1
  | some goal =>
    dsimp only
    split
    case isTrue => exact Script.triple_pure fun _ settled => settled.1
    case isFalse resumable =>
      have updates : Script.Triple (fun thread => Settled goalId thread.store ∧
            thread.store = some goal)
          (onStore .update (·.update { status := some .active } (some goal.goalId) none clock.ms))
          fun _ thread => Settled goalId thread.store := by
        refine Script.triple_atomically fun thread settled => ?_
        refine update_settled settled.1 fun row stored _ same => ?_
        obtain rfl := Option.mem_unique settled.2 stored
        rw [settled.1 goal settled.2 same] at resumable
        exact absurd rfl resumable
      refine updates.bind fun updated => ?_
      cases updated with
      | none => exact Script.keeps_pure _
      | some updated =>
        exact (keeps_onRuntime _).bind fun _ => Script.keeps_pure _

end GoalRuntime

namespace GoalService

theorem conflict_settled : KeepsSettled goalId conflict := by
  refine keeps_getGoal.bind fun current => ?_
  cases current with
  | none => exact Script.keeps_pure _
  | some current => exact Script.keeps_pure _

theorem setGoal_settled (objective : Text) (tokenBudget : Option ℤ) (replace : Bool)
    {newGoalId : Text} (fresh : newGoalId ≠ goalId) (clock : Clock) :
    KeepsSettled goalId (setGoal objective tokenBudget replace newGoalId clock) := by
  refine keeps_getGoal.bind fun existing => ?_
  dsimp only
  split
  · exact Script.keeps_pure _
  · split
    case' isTrue => refine (keeps_onStore fun _ settled => clear_settled settled).bind fun _ => ?_
    all_goals
      refine (keeps_onStore fun _ settled => insert_settled settled fresh).bind fun goal => ?_
      cases goal with
      | none => exact Script.keeps_pure _
      | some goal => exact (keeps_onRuntime _).bind fun _ => Script.keeps_pure _

theorem editGoal_settled (objective : Text) (expected : Option Text) (clock : Clock) :
    KeepsSettled goalId (editGoal objective expected clock) := by
  refine (keeps_onStore fun _ settled =>
    update_settled settled fun _ _ _ _ => rfl).bind fun goal => ?_
  cases goal with
  | none => exact conflict_settled
  | some goal => exact Script.keeps_pure _

theorem clearGoal_settled (expected : Option Text) :
    KeepsSettled goalId (clearGoal expected) := by
  refine (keeps_onStore fun _ settled => clear_settled settled).bind fun goal => ?_
  cases goal with
  | none => exact conflict_settled
  | some goal => exact (keeps_onRuntime _).bind fun _ => Script.keeps_pure _

theorem fenced_settled (expected : Option Text) {move : GoalScript (Option ThreadGoal)}
    (moves : KeepsSettled goalId move) : KeepsSettled goalId (fenced expected move) := by
  refine keeps_getGoal.bind fun current => ?_
  cases current with
  | none => exact Script.keeps_pure _
  | some current =>
    dsimp only
    split
    · exact Script.keeps_pure _
    · refine moves.bind fun goal => ?_
      cases goal with
      | none => exact Script.keeps_pure _
      | some goal => exact Script.keeps_pure _

variable {invariant : GoalStore → Prop}

theorem onModelCallBegin_keeps (turnId : Text) (clock : Clock) :
    Keeps invariant (onModelCallBegin turnId clock) := by
  refine keeps_readRuntime.bind fun runtime => ?_
  split
  · exact GoalRuntime.startTurn_keeps turnId 0 clock
  · exact Script.keeps_pure _

theorem onToolFinish_keeps (kept : KeptByCharges invariant)
    (clock : Clock) : Keeps invariant (onToolFinish clock) :=
  (GoalRuntime.accountProgress_keeps kept _ _ _ clock).bind fun _ => Script.keeps_pure _

theorem onModelCallEnd_settled (turnId : Text) (inputTokens outputTokens cacheReadTokens : ℤ)
    (clock : Clock) :
    KeepsSettled goalId (onModelCallEnd turnId inputTokens outputTokens cacheReadTokens clock) := by
  refine (onModelCallBegin_keeps turnId clock).bind fun _ => ?_
  refine keeps_readRuntime.bind fun runtime => ?_
  refine (keeps_onRuntime _).bind fun _ => ?_
  exact onToolFinish_keeps settled_keptByCharges clock

theorem onTurnEnd_settled (usageLimitError : Bool) (turnId : Option Text) (clock : Clock) :
    KeepsSettled goalId (onTurnEnd usageLimitError turnId clock) := by
  refine keeps_readRuntime.bind fun runtime => ?_
  split
  · exact keeps_getGoal
  · refine Script.Keeps.bind ?_ fun goal => ?_
    · split
      · exact GoalRuntime.stopForError_settled true clock
      · refine (GoalRuntime.accountProgress_keeps settled_keptByCharges _ _ _ clock).bind fun accounted => ?_
        rcases accounted with ⟨goal | goal, hit⟩
        · exact keeps_getGoal
        · exact Script.keeps_pure _
    · exact (keeps_onRuntime _).bind fun _ => Script.keeps_pure _

end GoalService

/-! ### Marking a goal -/

/-- The status that a call writes on a goal whatever its status is. -/
def GoalOperation.marks (goal : ThreadGoal) : GoalOperation → Option ThreadGoalStatus
  | .markStatus status expected => if expected.any (goal.goalId ≠ ·) then none else some status
  | .updateGoal complete => some (if complete then .complete else .blocked)
  | _ => none

/-- A completed goal is not marked with another status. -/
def SparesComplete (operation : GoalOperation) (store : GoalStore) : Prop :=
  ∀ goal ∈ store, goal.status = .complete → ∀ status ∈ operation.marks goal, status = .complete

theorem markStatus_settled (status : ThreadGoalStatus) (expected : Option Text) (clock : Clock) :
    Script.Triple
      (fun thread => Settled goalId thread.store ∧
        SparesComplete (.markStatus status expected) thread.store)
      (GoalService.markStatus status expected clock)
      fun _ thread => Settled goalId thread.store := by
  have reads : Script.Triple
      (fun thread => Settled goalId thread.store ∧
        SparesComplete (.markStatus status expected) thread.store)
      getGoal
      fun found thread => Settled goalId thread.store ∧
        SparesComplete (.markStatus status expected) thread.store ∧ thread.store = found :=
    Script.triple_atomically fun thread holds => ⟨holds.1, holds.2, rfl⟩
  refine reads.bind fun found => ?_
  cases found with
  | none => exact Script.triple_pure fun _ holds => holds.1
  | some current =>
    dsimp only
    split
    case isTrue => exact Script.triple_pure fun _ holds => holds.1
    case isFalse matching =>
      have updates : Script.Triple
          (fun thread => Settled goalId thread.store ∧
            SparesComplete (.markStatus status expected) thread.store ∧
            thread.store = some current)
          (onStore .update (·.update { status := some status } (some current.goalId) none
            clock.ms))
          fun _ thread => Settled goalId thread.store := by
        refine Script.triple_atomically fun thread holds => ?_
        rcases holds with ⟨settled, spares, read⟩
        refine update_settled settled fun row stored _ same => ?_
        obtain rfl := Option.mem_unique read stored
        exact spares current read (settled current read same) status (by
          simp only [GoalOperation.marks, if_neg matching, Option.mem_def])
      refine updates.bind fun updated => ?_
      change Keeps (Settled goalId) _
      refine Script.Keeps.bind ?_ fun goal => ?_
      · cases updated with
        | none => exact keeps_getGoal
        | some goal => exact Script.keeps_pure _
      · cases goal with
        | none => exact Script.keeps_pure _
        | some goal =>
          dsimp only
          split
          · exact (keeps_onRuntime _).bind fun _ => Script.keeps_pure _
          · exact Script.keeps_pure _

/-- A goal that is not complete does not become so by a charge. -/
def Unfinished (store : GoalStore) : Prop :=
  ∀ goal ∈ store, goal.status ≠ .complete

theorem unfinished_keptByCharges : KeptByCharges Unfinished := by
  intro store timeDelta tokenDelta allowComplete allowStopped expected nowMs unfinished
  unfold GoalStore.accountUsage
  split
  · exact unfinished
  · split
    case h_1 goal =>
      split
      · intro row stored complete
        obtain rfl := Option.some.inj stored
        have before := unfinished goal rfl
        simp only [GoalStore.charged] at complete
        split at complete
        · split at complete
          · cases complete
          · exact before complete
        · exact before complete
      · exact unfinished
    case h_2 => exact unfinished

theorem updateGoal_settled (complete : Bool) (clock : Clock) :
    Script.Triple
      (fun thread => Settled goalId thread.store ∧
        SparesComplete (.updateGoal complete) thread.store)
      (GoalTools.updateGoal complete clock)
      fun _ thread => Settled goalId thread.store := by
  -- What the mark needs to know about the goal is not changed by the charge before it.
  have finishes : Script.Triple
      (fun thread => Settled goalId thread.store ∧
        SparesComplete (.updateGoal complete) thread.store)
      (GoalService.onToolFinish clock)
      fun _ thread => Settled goalId thread.store ∧ (complete = false → Unfinished thread.store) := by
    intro thread holds
    refine ⟨GoalService.onToolFinish_keeps settled_keptByCharges clock thread holds.1, ?_⟩
    intro blocked
    refine GoalService.onToolFinish_keeps unfinished_keptByCharges clock thread ?_
    intro goal stored done
    have marked := holds.2 goal stored done .blocked (by simp [GoalOperation.marks, blocked])
    cases marked
  refine finishes.bind fun _ => ?_
  have reads : Script.Triple
      (fun thread : GoalThread => Settled goalId thread.store ∧
        (complete = false → Unfinished thread.store))
      getGoal
      fun found thread => Settled goalId thread.store ∧
        (complete = false → Unfinished thread.store) ∧ thread.store = found :=
    Script.triple_atomically fun thread holds => ⟨holds.1, holds.2, rfl⟩
  refine reads.bind fun found => ?_
  cases found with
  | none => exact Script.triple_pure fun _ holds => holds.1
  | some current =>
    refine (markStatus_settled _ _ clock).weaken (fun thread holds => ⟨holds.1, ?_⟩)
      fun _ _ settled => settled
    intro goal stored done status marked
    cases complete with
    | true =>
      rcases Option.ite_none_left_eq_some.mp marked with ⟨_, marked⟩
      exact (Option.some.inj marked).symm
    | false => exact absurd done (holds.2.1 rfl goal stored)

/-! ### Every sequence of calls -/

theorem operation_settled (operation : GoalOperation) (clock : Clock)
    (fresh : ∀ newGoalId ∈ operation.newGoalId, newGoalId ≠ goalId) :
    Script.Triple
      (fun thread => Settled goalId thread.store ∧ SparesComplete operation thread.store)
      (operation.script clock)
      fun _ thread => Settled goalId thread.store := by
  have unmarked : ∀ {script : GoalScript Unit}, KeepsSettled goalId script →
      Script.Triple
        (fun thread => Settled goalId thread.store ∧ SparesComplete operation thread.store)
        script fun _ thread => Settled goalId thread.store := fun keeps =>
    keeps.weaken (fun _ holds => holds.1) fun _ _ settled => settled
  have ignored : ∀ {Value : Type} {script : GoalScript Value}, KeepsSettled goalId script →
      KeepsSettled goalId (do let _ ← script) := fun keeps => keeps.bind fun _ => Script.keeps_pure _
  cases operation with
  | setGoal objective tokenBudget replace newGoalId =>
    exact unmarked (ignored (GoalService.setGoal_settled objective tokenBudget replace
      (fresh newGoalId rfl) clock))
  | editGoal objective expected =>
    exact unmarked (ignored (GoalService.editGoal_settled objective expected clock))
  | clearGoal expected => exact unmarked (ignored (GoalService.clearGoal_settled expected))
  | pauseGoal expected =>
    exact unmarked (ignored
      (GoalService.fenced_settled expected (GoalRuntime.pause_settled clock)))
  | resumeGoal expected =>
    exact unmarked (ignored
      (GoalService.fenced_settled expected (GoalRuntime.resume_settled clock)))
  | markStatus status expected =>
    exact (markStatus_settled status expected clock).bind fun _ => Script.keeps_pure _
  | stopForError usageLimit =>
    exact unmarked (ignored (GoalRuntime.stopForError_settled usageLimit clock))
  | accountProgress allowComplete allowStopped expected =>
    exact unmarked (ignored (GoalRuntime.accountProgress_keeps settled_keptByCharges allowComplete
      allowStopped expected clock))
  | onModelCallBegin turnId => exact unmarked (GoalService.onModelCallBegin_keeps turnId clock)
  | onModelCallEnd turnId inputTokens outputTokens cacheReadTokens =>
    exact unmarked (GoalService.onModelCallEnd_settled turnId inputTokens outputTokens
      cacheReadTokens clock)
  | onTurnStart turnId tokenUsage =>
    exact unmarked (GoalRuntime.startTurn_keeps turnId tokenUsage clock)
  | onTurnAbort turnId => exact unmarked (keeps_onRuntime (·.finishTurn turnId))
  | onTokenUsage turnId inputTokens outputTokens cacheReadTokens =>
    exact unmarked (keeps_onRuntime
      (·.recordTokenUsage turnId inputTokens outputTokens cacheReadTokens))
  | onToolFinish => exact unmarked (GoalService.onToolFinish_keeps settled_keptByCharges clock)
  | onTurnEnd usageLimitError turnId =>
    exact unmarked (ignored (GoalService.onTurnEnd_settled usageLimitError turnId clock))
  | createGoal objective tokenBudget newGoalId =>
    refine unmarked (ignored ?_)
    unfold GoalTools.createGoal
    dsimp only
    split
    · exact Script.keeps_pure _
    · exact (GoalService.onToolFinish_keeps settled_keptByCharges clock).bind fun _ =>
        GoalService.setGoal_settled _ _ _ (fresh newGoalId rfl) clock
  | updateGoal complete => exact (updateGoal_settled complete clock).bind fun _ => Script.keeps_pure _

/-- The goal is complete wherever it is, and its id is not drawn again. -/
structure Done (goalId : Text) (history : GoalHistory) : Prop where
  settled : Settled goalId history.thread.store
  used : goalId ∈ history.used

theorem Done.step {history next : GoalHistory} {request : GoalRequest}
    (complete : Done goalId history) (careful : SparesComplete request.1 history.thread.store)
    (stepped : GoalHistory.machine.step history request = some next) : Done goalId next := by
  rcases GoalHistory.step_cases stepped with ⟨fresh, rfl⟩
  have other : ∀ newGoalId ∈ request.1.newGoalId, newGoalId ≠ goalId := by
    rintro newGoalId drawn rfl
    exact fresh newGoalId drawn complete.used
  exact ⟨operation_settled request.1 request.2 other history.thread ⟨complete.settled, careful⟩,
    List.mem_append_left _ complete.used⟩

/-- Once a goal is complete it is complete wherever it is found again, in every run in which no
completed goal is marked with another status. -/
theorem complete_stays {history final : GoalHistory} {goal : ThreadGoal}
    {requests : List GoalRequest} (stored : history.thread.store = some goal)
    (complete : goal.status = .complete)
    (careful : GoalHistory.machine.Guarded
      (fun history request => SparesComplete request.1 history.thread.store) history requests)
    (ran : GoalHistory.machine.run history requests = some final) :
    ∀ later ∈ final.thread.store, later.goalId = goal.goalId → later.status = .complete := by
  have initial : Done goal.goalId history := by
    refine ⟨?_, ?_⟩
    · rw [stored, settled_some]
      exact fun _ => complete
    · simp [GoalHistory.used, stored]
  exact (Machine.run_invariant_of_guarded (fun complete careful stepped =>
    complete.step careful stepped) initial careful ran).settled

/-! ### A completed goal, and the same goal marked as blocked -/

instance (operation : GoalOperation) (store : GoalStore) :
    Decidable (SparesComplete operation store) :=
  inferInstanceAs (Decidable (∀ goal ∈ store, goal.status = .complete →
    ∀ status ∈ operation.marks goal, status = .complete))

def completed : ThreadGoal :=
  ⟨Text.ofString "goal", Text.ofString "objective", .complete, none, 0, 0, 0, 0⟩

/-- Pausing, resuming, charging and completing the goal again leave it complete. -/
theorem complete_stays_careful :
    ∃ final, GoalHistory.machine.run ⟨⟨some completed, {}⟩, []⟩
        [(.pauseGoal none, ⟨1, 1⟩), (.resumeGoal (some completed.goalId), ⟨2, 2⟩),
          (.onModelCallEnd (Text.ofString "turn") 5 5 0, ⟨3, 3⟩), (.stopForError true, ⟨4, 4⟩),
          (.updateGoal true, ⟨5, 5⟩)] = some final ∧
      ∀ later ∈ final.thread.store, later.goalId = completed.goalId → later.status = .complete := by
  have taken : GoalHistory.machine.Guarded
        (fun history request => SparesComplete request.1 history.thread.store)
        ⟨⟨some completed, {}⟩, []⟩
        [(.pauseGoal none, ⟨1, 1⟩), (.resumeGoal (some completed.goalId), ⟨2, 2⟩),
          (.onModelCallEnd (Text.ofString "turn") 5 5 0, ⟨3, 3⟩), (.stopForError true, ⟨4, 4⟩),
          (.updateGoal true, ⟨5, 5⟩)] ∧
      ∃ final, GoalHistory.machine.run ⟨⟨some completed, {}⟩, []⟩
        [(.pauseGoal none, ⟨1, 1⟩), (.resumeGoal (some completed.goalId), ⟨2, 2⟩),
          (.onModelCallEnd (Text.ofString "turn") 5 5 0, ⟨3, 3⟩), (.stopForError true, ⟨4, 4⟩),
          (.updateGoal true, ⟨5, 5⟩)] = some final ∧ True := by
    decide +kernel
  rcases taken with ⟨careful, final, ran, _⟩
  exact ⟨final, ran, complete_stays rfl rfl careful ran⟩

/-- The agent completes its goal and then reports it as blocked, and the user resumes it. -/
theorem complete_revived :
    ∃ history, GoalHistory.machine.run {}
        [(.createGoal (Text.ofString "objective") none (Text.ofString "goal"), ⟨1, 1⟩),
          (.updateGoal true, ⟨2, 2⟩)] = some history ∧
      (∃ goal, history.thread.store = some goal ∧ goal.status = .complete ∧
        ∃ final, GoalHistory.machine.run history
            [(.updateGoal false, ⟨3, 3⟩), (.resumeGoal none, ⟨4, 4⟩)] = some final ∧
          ∃ later, final.thread.store = some later ∧ later.goalId = goal.goalId ∧
            later.status = .active) := by
  decide +kernel

end Synapse.Goals
