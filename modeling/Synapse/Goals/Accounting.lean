import Synapse.Goals.Budget

/-!
# Charged tokens

The recorded tokens of a thread are numbered. A charge covers the tokens that were
recorded in the current turn since the baseline was last moved, so the charges
cover disjoint spans, and the tokens used by a goal are the sizes of its charges.
-/

namespace Synapse.Goals

open List

/-- The charge is for the token with this number. -/
def Charge.Covers (charge : Charge) (token : ℕ) : Prop :=
  charge.first < token ∧ token ≤ charge.last

instance (charge : Charge) (token : ℕ) : Decidable (charge.Covers token) :=
  inferInstanceAs (Decidable (_ ∧ _))

/-- The tokens that were charged to a goal. -/
def Ledger.chargedTo (ledger : Ledger) (goalId : Text) : ℕ :=
  ((ledger.charges.filter (·.goalId = goalId)).map fun charge => charge.last - charge.first).sum

/-- Every goal is charged for tokens that were recorded after it was created, and no token is
charged twice. -/
structure Accounted (opening : Text → ℕ) (thread : GoalThread) : Prop where
  recorded : ∀ charge ∈ thread.runtime.ledger.charges, ∀ token, charge.Covers token →
    token ≤ thread.runtime.ledger.recorded
  once : ∀ token, thread.runtime.ledger.charges.countP (·.Covers token) ≤ 1
  later : ∀ charge ∈ thread.runtime.ledger.charges, ∀ token, charge.Covers token →
    ∀ entry ∈ thread.runtime.ledger.created, entry.1 = charge.goalId → entry.2 < token
  total : ∀ goal ∈ thread.store,
    goal.tokensUsed = opening goal.goalId + thread.runtime.ledger.chargedTo goal.goalId

/-- What the accounting relies on: everything before the baseline is settled, and the ledger names
known goals. -/
structure Balanced (opening : Text → ℕ) (ids : List Text) (thread : GoalThread) : Prop where
  pending : thread.runtime.pending ≤ thread.runtime.ledger.recorded
  behind : ∀ charge ∈ thread.runtime.ledger.charges,
    charge.last + thread.runtime.pending ≤ thread.runtime.ledger.recorded
  ordered : thread.runtime.ledger.charges.Pairwise fun earlier later => earlier.last ≤ later.first
  created : ∀ entry ∈ thread.runtime.ledger.created,
    entry.2 + thread.runtime.pending ≤ thread.runtime.ledger.recorded
  later : ∀ charge ∈ thread.runtime.ledger.charges,
    ∀ entry ∈ thread.runtime.ledger.created, entry.1 = charge.goalId → entry.2 ≤ charge.first
  total : ∀ goal ∈ thread.store,
    goal.tokensUsed = opening goal.goalId + thread.runtime.ledger.chargedTo goal.goalId
  named : ∀ charge ∈ thread.runtime.ledger.charges, charge.goalId ∈ ids

/-- The goal of the row is a known one. -/
def RowNamed (ids : List Text) (store : GoalStore) : Prop :=
  ∀ goal ∈ store, goal.goalId ∈ ids

variable {opening : Text → ℕ} {ids : List Text}

theorem once_of_ordered {charges : List Charge}
    (ordered : charges.Pairwise fun earlier later => earlier.last ≤ later.first) (token : ℕ) :
    charges.countP (·.Covers token) ≤ 1 := by
  induction ordered with
  | nil => simp
  | @cons charge charges after ordered ih =>
    by_cases covers : charge.Covers token
    · have others : charges.countP (·.Covers token) = 0 := by
        rw [countP_eq_zero]
        intro other present overlaps
        have apart := after other present
        have after := (of_decide_eq_true overlaps).1
        have before := covers.2
        omega
      simp [covers, others]
    · simpa [covers] using ih

theorem Balanced.accounted {thread : GoalThread} (balanced : Balanced opening ids thread) :
    Accounted opening thread where
  recorded := by
    intro charge present token covers
    have behind := balanced.behind charge present
    simp only [Charge.Covers] at covers
    omega
  once := once_of_ordered balanced.ordered
  later := by
    intro charge present token covers entry made same
    have before := balanced.later charge present entry made same
    simp only [Charge.Covers] at covers
    omega
  total := balanced.total

/-! ### The baseline -/

namespace GoalRuntime

variable (runtime : GoalRuntime) (charged : Option ThreadGoal) (tokenDelta timeDelta : ℕ)
  (clock : Clock)

@[simp]
theorem moveBaseline_ledger :
    (runtime.moveBaseline charged tokenDelta timeDelta clock).ledger =
      { runtime.ledger with
        charges := runtime.ledger.charges ++ charged.toList.map fun goal =>
          ⟨goal.goalId, runtime.ledger.recorded - tokenDelta, runtime.ledger.recorded⟩ } := by
  unfold moveBaseline
  dsimp only
  split
  · rfl
  · rfl

@[simp]
theorem moveBaseline_pending :
    (runtime.moveBaseline charged tokenDelta timeDelta clock).pending = 0 := by
  unfold moveBaseline pending
  dsimp only
  split
  · cases runtime.turn with
    | none => rfl
    | some turn => simp [resetWallClock]
  · cases runtime.turn with
    | none => rfl
    | some turn => simp

@[simp]
theorem markTurnGoalActive_pending (goalId : Text) :
    (runtime.markTurnGoalActive goalId clock).pending = 0 := by
  unfold markTurnGoalActive pending
  cases runtime.turn with
  | none => rfl
  | some turn => simp

end GoalRuntime

theorem Ledger.chargedTo_append (ledger : Ledger) (charge : Charge) (goalId : Text) :
    ({ ledger with charges := ledger.charges ++ [charge] } : Ledger).chargedTo goalId =
      ledger.chargedTo goalId + if charge.goalId = goalId then charge.last - charge.first else 0 := by
  by_cases same : charge.goalId = goalId
  · simp [Ledger.chargedTo, filter_append, same]
  · simp [Ledger.chargedTo, filter_append, same]

/-! ### What a move preserves -/

variable {store : GoalStore}

theorem Balanced.pass {before after : GoalRuntime}
    (balanced : Balanced opening ids ⟨store, before⟩) (passes : Passes before after) :
    Balanced opening ids ⟨store, after⟩ := by
  have baseline := passes.baseline
  have pending := balanced.pending
  have same : after.ledger.chargedTo = before.ledger.chargedTo := by
    funext goalId
    simp only [Ledger.chargedTo, passes.charges]
  refine ⟨?_, ?_, ?_, ?_, ?_, ?_, ?_⟩
  · dsimp only at pending ⊢
    omega
  · intro charge present
    have behind := balanced.behind charge (passes.charges ▸ present)
    dsimp only at behind ⊢
    omega
  · simpa only [passes.charges] using balanced.ordered
  · intro entry made
    have created := balanced.created entry (passes.created ▸ made)
    dsimp only at created ⊢
    omega
  · simpa only [passes.charges, passes.created] using balanced.later
  · simpa only [same] using balanced.total
  · simpa only [passes.charges] using balanced.named

variable {runtime : GoalRuntime}

theorem Balanced.row {before after : GoalStore}
    (balanced : Balanced opening ids ⟨before, runtime⟩)
    (total : ∀ goal ∈ after,
      goal.tokensUsed = opening goal.goalId + runtime.ledger.chargedTo goal.goalId) :
    Balanced opening ids ⟨after, runtime⟩ :=
  { balanced with total := total }

variable {goal : ThreadGoal}

/-- The new charge begins at the baseline, which is behind no older charge and no creation. -/
theorem Balanced.charge
    (balanced : Balanced opening ids ⟨some goal, runtime⟩) (known : goal.goalId ∈ ids)
    (timeDelta : ℕ) (clock : Clock) :
    Balanced opening ids
      ⟨some (GoalStore.charged goal timeDelta runtime.pending clock.ms),
        runtime.moveBaseline (some (GoalStore.charged goal timeDelta runtime.pending clock.ms))
          runtime.pending timeDelta clock⟩ := by
  rcases balanced with ⟨pending, behind, ordered, created, later, total, named⟩
  dsimp only at pending behind ordered created later total named
  have split : ∀ charge ∈ runtime.ledger.charges ++
      [⟨goal.goalId, runtime.ledger.recorded - runtime.pending, runtime.ledger.recorded⟩],
      charge ∈ runtime.ledger.charges ∨
        charge = ⟨goal.goalId, runtime.ledger.recorded - runtime.pending,
          runtime.ledger.recorded⟩ := by
    intro charge present
    rcases mem_append.mp present with older | newest
    · exact Or.inl older
    · exact Or.inr (mem_singleton.mp newest)
  refine ⟨?_, ?_, ?_, ?_, ?_, ?_, ?_⟩
  · simp
  · intro charge present
    simp only [GoalRuntime.moveBaseline_ledger, GoalRuntime.moveBaseline_pending] at present ⊢
    rcases split charge present with older | rfl
    · have := behind charge older
      omega
    · exact le_rfl
  · simp only [GoalRuntime.moveBaseline_ledger]
    refine pairwise_append.mpr ⟨ordered, pairwise_singleton _ _, ?_⟩
    intro earlier present newest last
    obtain rfl := mem_singleton.mp last
    have := behind earlier present
    dsimp only
    omega
  · intro entry made
    simp only [GoalRuntime.moveBaseline_ledger, GoalRuntime.moveBaseline_pending] at made ⊢
    have := created entry made
    omega
  · intro charge present entry made same
    simp only [GoalRuntime.moveBaseline_ledger] at present made
    rcases split charge present with older | rfl
    · exact later charge older entry made same
    · have := created entry made
      dsimp only
      omega
  · intro row stored
    cases stored
    simp only [GoalRuntime.moveBaseline_ledger]
    have before := total goal rfl
    change goal.tokensUsed + runtime.pending = opening goal.goalId + _
    rw [before]
    have covered := Ledger.chargedTo_append runtime.ledger
      ⟨goal.goalId, runtime.ledger.recorded - runtime.pending, runtime.ledger.recorded⟩ goal.goalId
    rw [if_pos rfl] at covered
    refine Eq.trans ?_ (congrArg (opening goal.goalId + ·) covered.symm)
    dsimp only
    omega
  · intro charge present
    simp only [GoalRuntime.moveBaseline_ledger] at present
    rcases split charge present with older | rfl
    · exact named charge older
    · exact known

variable {before after : GoalThread}

theorem Move.rowNamed (move : Move before after)
    (known : RowNamed ids before.store) : RowNamed ids after.store := by
  have charged : ∀ (store : GoalStore) {timeDelta tokenDelta : ℕ}
      (positive : ¬(timeDelta = 0 ∧ tokenDelta = 0)) (allowComplete allowStopped : Bool)
      (expected : Option Text) (nowMs : ℤ), RowNamed ids store →
      RowNamed ids (store.accountUsage timeDelta tokenDelta allowComplete allowStopped expected
        nowMs).1 := by
    intro store timeDelta tokenDelta positive allowComplete allowStopped expected nowMs known
    rcases accountUsage_cases store positive allowComplete allowStopped expected nowMs with
      same | ⟨goal, rfl, changed⟩
    · rw [same]
      exact known
    · rw [changed]
      intro row stored
      obtain rfl := Option.some.inj stored
      exact known goal rfl
  cases move with
  | pass store passes => exact known
  | row runtime same =>
    intro row stored
    rcases same row stored with ⟨goal, found, sameId, _⟩
    rw [sameId]
    exact known goal found
  | chargeTime store runtime positive allowComplete allowStopped expected nowMs =>
    exact charged store (fun zero => positive zero.1) _ _ _ _ known
  | charge store runtime positive allowComplete allowStopped expected clock =>
    exact charged store positive _ _ _ _ known

theorem Balanced.move (balanced : Balanced opening ids before)
    (known : RowNamed ids before.store) (move : Move before after) :
    Balanced opening ids after := by
  cases move with
  | pass store passes => exact balanced.pass passes
  | row runtime same =>
    refine balanced.row fun row stored => ?_
    rcases same row stored with ⟨goal, found, sameId, sameTokens, _⟩
    rw [sameId, sameTokens]
    exact balanced.total goal found
  | chargeTime store runtime positive allowComplete allowStopped expected nowMs =>
    rcases accountUsage_cases store (fun zero => positive zero.1 : ¬(_ ∧ 0 = 0)) allowComplete
      allowStopped expected nowMs with same | ⟨goal, rfl, changed⟩
    · rw [same]
      exact balanced
    · rw [changed]
      refine balanced.row fun row stored => ?_
      cases stored
      exact balanced.total goal rfl
  | charge store runtime positive allowComplete allowStopped expected clock =>
    rcases accountUsage_cases store positive allowComplete allowStopped expected clock.ms with
      same | ⟨goal, rfl, changed⟩
    · rw [same]
      refine balanced.pass ⟨?_, ?_, ?_⟩
      · simp
      · simp
      · simp
    · rw [changed]
      exact balanced.charge (known goal rfl) _ clock

variable {newGoalId : Text}

theorem Balanced.create
    (balanced : Balanced opening ids before) (fresh : newGoalId ∉ ids)
    (closed : opening newGoalId = 0) (create : Create newGoalId before after) :
    Balanced opening ids after := by
  cases create with
  | intro store runtime objective tokenBudget clock =>
    rcases balanced with ⟨pending, behind, ordered, created, later, total, named⟩
    dsimp only at pending behind ordered created later total named
    refine ⟨?_, ?_, ordered, ?_, ?_, ?_, named⟩
    · simp
    · intro charge present
      have := behind charge present
      rw [GoalRuntime.markTurnGoalActive_pending]
      simp only [GoalRuntime.markTurnGoalActive]
      omega
    · intro entry made
      rw [GoalRuntime.markTurnGoalActive_pending]
      simp only [GoalRuntime.markTurnGoalActive] at made ⊢
      rcases mem_append.mp made with older | newest
      · have := created entry older
        omega
      · rw [mem_singleton.mp newest]
        exact le_rfl
    · intro charge present entry made same
      simp only [GoalRuntime.markTurnGoalActive] at made
      rcases mem_append.mp made with older | newest
      · exact later charge present entry older same
      · rw [mem_singleton.mp newest] at same
        exact absurd (named charge present) (same ▸ fresh)
    · intro row stored
      cases stored
      have none : (runtime.ledger.charges.filter (·.goalId = newGoalId)) = [] := by
        rw [filter_eq_nil_iff]
        intro charge present same
        exact fresh (of_decide_eq_true same ▸ named charge present)
      simp [GoalRuntime.markTurnGoalActive, Ledger.chargedTo, none, closed]

/-! ### Counters that do not decrease -/

/-- The row of this goal has at least these counters. -/
def AtLeast (goal : ThreadGoal) (store : GoalStore) : Prop :=
  ∀ row ∈ store, row.goalId = goal.goalId →
    goal.tokensUsed ≤ row.tokensUsed ∧ goal.timeUsedSeconds ≤ row.timeUsedSeconds

theorem accountUsage_atLeast {timeDelta tokenDelta : ℕ}
    (positive : ¬(timeDelta = 0 ∧ tokenDelta = 0)) (allowComplete allowStopped : Bool)
    (expected : Option Text) (nowMs : ℤ) (atLeast : AtLeast goal store) :
    AtLeast goal (store.accountUsage timeDelta tokenDelta allowComplete allowStopped expected
      nowMs).1 := by
  rcases accountUsage_cases store positive allowComplete allowStopped expected nowMs with
    same | ⟨before, rfl, changed⟩
  · rw [same]
    exact atLeast
  · rw [changed]
    intro row stored sameId
    obtain rfl := Option.some.inj stored
    rcases atLeast before rfl sameId with ⟨tokens, time⟩
    exact ⟨Nat.le_add_right_of_le tokens, Nat.le_add_right_of_le time⟩

theorem Move.atLeast (move : Move before after)
    (atLeast : AtLeast goal before.store) : AtLeast goal after.store := by
  cases move with
  | pass store passes => exact atLeast
  | row runtime same =>
    intro row stored sameId
    rcases same row stored with ⟨old, found, sameOld, sameTokens, sameTime⟩
    rw [sameTokens, sameTime]
    exact atLeast old found (sameOld ▸ sameId)
  | chargeTime store runtime positive allowComplete allowStopped expected nowMs =>
    exact accountUsage_atLeast (fun zero => positive zero.1) _ _ _ _ atLeast
  | charge store runtime positive allowComplete allowStopped expected clock =>
    exact accountUsage_atLeast positive _ _ _ _ atLeast

theorem Create.atLeast
    (create : Create newGoalId before after) (fresh : newGoalId ≠ goal.goalId) :
    AtLeast goal after.store := by
  cases create with
  | intro store runtime objective tokenBudget clock =>
    intro row stored sameId
    obtain rfl := Option.some.inj stored
    exact absurd sameId fresh

/-! ### Every sequence of calls -/

/-- The tokens that the goals had used when the process was started. -/
def openingTokens (store : GoalStore) (goalId : Text) : ℕ :=
  store.elim 0 fun goal => if goal.goalId = goalId then goal.tokensUsed else 0

/-- Between calls, the ledger names goals whose ids are used up. -/
structure Sound (opening : Text → ℕ) (history : GoalHistory) : Prop where
  balanced : Balanced opening history.used history.thread
  opened : ∀ goalId, goalId ∉ history.used → opening goalId = 0

theorem GoalHistory.rowNamed (history : GoalHistory) :
    RowNamed history.used history.thread.store := by
  intro goal stored
  rw [GoalHistory.used]
  refine mem_append_right _ (mem_map_of_mem ?_)
  rw [Option.mem_toList]
  exact stored

variable {request : GoalRequest}

theorem Sound.step {history next : GoalHistory}
    (sound : Sound opening history) (stepped : GoalHistory.machine.step history request = some next) :
    Sound opening next := by
  rcases GoalHistory.step_cases stepped with ⟨fresh, rfl⟩
  have kept : ∀ {middle}, Moved history.thread middle →
      Balanced opening history.used middle ∧ RowNamed history.used middle.store := fun moved =>
    moved_induction
      (fun thread => Balanced opening history.used thread ∧ RowNamed history.used thread.store)
      (fun holds move => ⟨holds.1.move holds.2 move, move.rowNamed holds.2⟩)
      ⟨sound.balanced, history.rowNamed⟩ moved
  have balanced : Balanced opening history.used
      ((request.1.script request.2).run history.thread).1 := by
    rcases operation_called request.1 request.2 history.thread .refl with
      moved | ⟨middle, moved, newGoalId, drawn, create⟩
    · exact (kept moved).1
    · have unused := fresh newGoalId drawn
      exact (kept moved).1.create unused (sound.opened newGoalId unused) create
  refine ⟨?_, fun goalId unused => sound.opened goalId fun known => unused ?_⟩
  · exact { balanced with
      named := fun charge present => mem_append_left _ (balanced.named charge present) }
  · exact mem_append_left _ known

theorem sound_initial (store : GoalStore) (seen : List Text) :
    Sound (openingTokens store) ⟨⟨store, {}⟩, seen⟩ := by
  refine ⟨⟨le_rfl, ?_, .nil, ?_, ?_, ?_, ?_⟩, ?_⟩
  · rintro charge ⟨⟩
  · rintro entry ⟨⟩
  · rintro charge ⟨⟩
  · intro goal stored
    obtain rfl : store = some goal := stored
    simp [openingTokens, Ledger.chargedTo]
  · rintro charge ⟨⟩
  · intro goalId unused
    cases store with
    | none => rfl
    | some goal =>
      simp only [openingTokens, Option.elim_some]
      refine if_neg fun same => unused ?_
      simp [GoalHistory.used, same]

/-- A goal that was there has at least its counters wherever it is found again. -/
theorem GoalHistory.atLeast_step {history next : GoalHistory}
    (holds : AtLeast goal history.thread.store ∧ goal.goalId ∈ history.used)
    (stepped : machine.step history request = some next) :
    AtLeast goal next.thread.store ∧ goal.goalId ∈ next.used := by
  rcases step_cases stepped with ⟨fresh, rfl⟩
  refine ⟨?_, mem_append_left _ holds.2⟩
  rcases operation_called request.1 request.2 history.thread .refl with
    moved | ⟨middle, moved, newGoalId, drawn, create⟩
  · exact moved_induction (fun thread => AtLeast goal thread.store)
      (fun atLeast move => move.atLeast atLeast) holds.1 moved
  · exact create.atLeast fun same => fresh newGoalId drawn (same ▸ holds.2)

/-- From the start of a process on: each recorded token is charged at most once, to a goal that was
created before; the counters of a goal do not decrease; and an active goal that is charged to its
budget is limited in the same step. -/
theorem accounting_of_run {store : GoalStore} {seen : List Text} {requests : List GoalRequest}
    {history : GoalHistory}
    (ran : GoalHistory.machine.run ⟨⟨store, {}⟩, seen⟩ requests = some history) :
    Accounted (openingTokens store) history.thread ∧
      (∀ goal ∈ history.thread.store, ∀ requests final,
        GoalHistory.machine.run history requests = some final →
        AtLeast goal final.thread.store) ∧
      ∀ request : GoalRequest,
        (request.1.script request.2).Respects (fun _ _ => True) LimitsAtBudget := by
  refine ⟨?_, ?_, fun request => operation_limits request.1 request.2⟩
  · exact (Machine.run_invariant (fun sound stepped => sound.step stepped)
      (sound_initial store seen) ran).balanced.accounted
  · intro goal stored requests final ran
    have initial : AtLeast goal history.thread.store ∧ goal.goalId ∈ history.used := by
      refine ⟨?_, history.rowNamed goal stored⟩
      intro row present _
      obtain rfl := Option.some.inj (stored.symm.trans present)
      exact ⟨le_rfl, le_rfl⟩
    exact (Machine.run_invariant GoalHistory.atLeast_step initial ran).1

/-- A goal is created in the middle of a turn and replaced in it; the first call of the model is
charged to nobody, the second one to the first goal, the third one to the second goal. -/
theorem accounting_of_run_replaced :
    ∃ history, GoalHistory.machine.run {}
        [(.onModelCallEnd (Text.ofString "turn") 7 0 0, ⟨1, 1⟩),
          (.createGoal (Text.ofString "objective") (some 5) (Text.ofString "first"), ⟨2, 2⟩),
          (.onModelCallEnd (Text.ofString "turn") 3 1 0, ⟨3, 3⟩),
          (.setGoal (Text.ofString "other") (some 5) true (Text.ofString "second"), ⟨4, 4⟩),
          (.onModelCallEnd (Text.ofString "turn") 9 1 1, ⟨5, 5⟩)] = some history ∧
      Accounted (openingTokens none) history.thread ∧
      ∃ goal, history.thread.store = some goal ∧ goal.status = .budgetLimited := by
  have taken : ∃ history, GoalHistory.machine.run {}
        [(.onModelCallEnd (Text.ofString "turn") 7 0 0, ⟨1, 1⟩),
          (.createGoal (Text.ofString "objective") (some 5) (Text.ofString "first"), ⟨2, 2⟩),
          (.onModelCallEnd (Text.ofString "turn") 3 1 0, ⟨3, 3⟩),
          (.setGoal (Text.ofString "other") (some 5) true (Text.ofString "second"), ⟨4, 4⟩),
          (.onModelCallEnd (Text.ofString "turn") 9 1 1, ⟨5, 5⟩)] = some history ∧
      ∃ goal, history.thread.store = some goal ∧ goal.status = .budgetLimited := by
    decide +kernel
  rcases taken with ⟨history, ran, limited⟩
  exact ⟨history, ran, (accounting_of_run ran).1, limited⟩

end Synapse.Goals
