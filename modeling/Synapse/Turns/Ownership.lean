import Synapse.Turns.Steps

/-!
# One turn at a time

A turn is started only when the turn before it has been settled, or inside its
settlement, as long as the settlement of each turn is scheduled before the next turn
is started. `start` and the section that schedules the settlement are two critical
sections, so another thread can start a turn between them.
-/

namespace Synapse.Turns

namespace SessionRuntime

variable {session next : SessionRuntime}

/-- Nothing is left to do in the settlement of the turn but its callback. -/
def SettledTurn (session : SessionRuntime) (turn : TurnId) : Prop :=
  ∃ handle, session.turns[turn]? = some handle ∧
    (handle.settlement = some .finished ∨ handle.settlement = some .settled)

/-- What a step may do to the owner of a session. -/
structure OneTurn (session : SessionRuntime) (label : SessionLabel) (next : SessionRuntime) :
    Prop where
  live : ∀ turn other, next.Live turn → next.Live other → turn = other
  previous : next.turns.length ≠ session.turns.length → ∀ turn : ℕ, turn + 1 = session.turns.length →
    session.SettledTurn turn ∨ ∃ message, label = .settleFollow turn message
  reservation : ∀ reservation, next.reservation = some reservation →
    session.reservation = none ∨ session.reservation = some reservation
  closed : session.status = .closed →
    next.status = .closed ∧ next.turns.length = session.turns.length

/-- Before a turn is started, the settlement of every other turn has been scheduled. -/
def Scheduled (session : SessionRuntime) (label : SessionLabel) : Prop :=
  label.starts = true → ∀ handle ∈ session.turns, handle.settlement ≠ none

instance (session : SessionRuntime) (label : SessionLabel) :
    Decidable (session.Scheduled label) :=
  inferInstanceAs (Decidable (label.starts = true → _))

/-- In the settlement of a turn that is not the last one, no follow-up is started any more. -/
structure InOrder (session : SessionRuntime) : Prop where
  owned : session.Owned
  late : ∀ (turn : ℕ) handle, session.turns[turn]? = some handle → turn + 1 < session.turns.length →
    handle.Late

theorem late_of_unclaimed {settlement : Settlement} (unclaimed : ¬settlement.Claimed) :
    settlement = .finished ∨ settlement = .settled := by
  cases settlement with
  | waiting => exact absurd trivial unclaimed
  | cleared => exact absurd trivial unclaimed
  | following => exact absurd trivial unclaimed
  | publishing => exact absurd trivial unclaimed
  | finished => exact Or.inl rfl
  | settled => exact Or.inr rfl

/-- When no turn is a settling handle, every scheduled turn is settled. -/
theorem Owned.settledTurn (owned : Owned session)
    (scheduled : ∀ handle ∈ session.turns, handle.settlement ≠ none)
    (none : session.settlingHandles = []) {turn : TurnId} {handle : Turn}
    (found : session.turns[turn]? = some handle) :
    handle.settlement = some .finished ∨ handle.settlement = some .settled := by
  cases phase : handle.settlement with
  | none => exact absurd phase (scheduled handle (List.mem_of_getElem? found))
  | some settlement =>
    have unclaimed : ¬settlement.Claimed := by
      intro claimed
      have present := owned.claimed turn handle settlement found phase claimed
      rw [none] at present
      cases present
    rcases late_of_unclaimed unclaimed with rfl | rfl
    · exact Or.inl rfl
    · exact Or.inr rfl

theorem no_settling_of_external {message : UserTurn} {reservation : Option TurnReservation}
    (fine : session.startError message reservation none = none) : session.settlingHandles = [] := by
  rcases startError_eq_none fine with ⟨_, _, _, none | owned, _⟩
  · exact none
  · cases owned

/-- A follow-up is started in the settlement of the last turn. -/
theorem InOrder.last (ordered : InOrder session) {turn : ℕ} {cancelled : Bool} {result : TurnStatus}
    (found : session.turns[turn]? = some ⟨cancelled, some result, some .following⟩) :
    turn + 1 = session.turns.length := by
  have inside := lt_of_found found
  by_contra older
  rcases ordered.late turn _ found (by omega) with ⟨settlement, same, late⟩
  obtain rfl := Option.some.inj same
  exact late

variable {label : SessionLabel}

theorem InOrder.step (ordered : InOrder session)
    (scheduled : session.Scheduled label) (stepped : machine.step session label = some next) :
    InOrder next := by
  have owned := ordered.owned
  rcases step_cases owned stepped with tame | begins
  · refine ⟨owned.of_tame tame, fun turn handle found older => ?_⟩
    rcases tame.late turn handle found with ⟨before, stored, kept⟩
    exact kept (ordered.late turn before stored (tame.length ▸ older))
  · cases begins with
    | external starts fine scheduling =>
      refine ⟨owned.step stepped, fun turn handle found older => ?_⟩
      rcases begin_turns session _ turn found with before | ⟨newest, _⟩
      · rcases owned.settledTurn (scheduled starts) (no_settling_of_external fine) before with
          phase | phase
        · exact ⟨.finished, phase, trivial⟩
        · exact ⟨.settled, phase, trivial⟩
      · have last := begin_length session ‹UserTurn›
        dsimp only at older last
        omega
    | @followUp turn cancelled result message found fine =>
      refine ⟨owned.step stepped, fun other handle started older => ?_⟩
      rcases begin_turns _ _ other started with before | ⟨newest, _⟩
      · rw [setSettlement_turns] at before
        split at before
        · rcases Option.map_eq_some_iff.mp before with ⟨old, _, rfl⟩
          exact ⟨.publishing, rfl, trivial⟩
        case isFalse different =>
          have last := ordered.last found
          have inside := lt_of_found before
          have apart : (other : ℕ) ≠ turn := Ne.symm different
          refine ordered.late other handle before ?_
          omega
      · have last := begin_length (session.setSettlement turn .publishing) message
        dsimp only at older last
        omega

/-- A started turn is the only live one, and it was not started in a closed session. -/
theorem oneTurn_of_owned (owned : Owned session) (stepped : machine.step session label = some next)
    (nextOwned : Owned next)
    (previous : Begins session label next → ∀ turn : ℕ, turn + 1 = session.turns.length →
      session.SettledTurn turn ∨ ∃ message, label = .settleFollow turn message) :
    OneTurn session label next := by
  have live : ∀ turn other, next.Live turn → next.Live other → turn = other := by
    intro turn other first second
    exact Option.mem_unique (nextOwned.live turn first) (nextOwned.live other second)
  rcases step_cases owned stepped with tame | begins
  · exact ⟨live, fun longer => absurd tame.length longer, tame.reservation,
      fun ended => ⟨tame.stays ended, tame.length⟩⟩
  · have unclosed : session.closed = false := by
      cases begins with
      | external starts fine scheduling => exact (startError_eq_none fine).1
      | followUp found fine => exact (startError_eq_none fine).1
    refine ⟨live, fun _ => previous begins, ?_, ?_⟩
    · intro reservation held
      cases begins with
      | external starts fine scheduling => cases held
      | followUp found fine => cases held
    · intro ended
      rw [owned.ended ended] at unclosed
      cases unclosed

theorem InOrder.oneTurn (ordered : InOrder session)
    (scheduled : session.Scheduled label) (stepped : machine.step session label = some next) :
    OneTurn session label next := by
  refine oneTurn_of_owned ordered.owned stepped (ordered.step scheduled stepped).owned ?_
  intro begins turn last
  cases begins with
  | external starts fine scheduling =>
    left
    have inside : turn < session.turns.length := by omega
    exact ⟨_, List.getElem?_eq_getElem inside, ordered.owned.settledTurn (scheduled starts)
      (no_settling_of_external fine) (List.getElem?_eq_getElem inside)⟩
  | @followUp other cancelled result message found fine =>
    right
    have inside := ordered.last found
    obtain rfl : other = turn := Nat.add_right_cancel (inside.trans last.symm)
    exact ⟨message, rfl⟩

theorem opened_inOrder (threadId : Text) (steerQueue : Option (List Guidance)) :
    InOrder (opened threadId steerQueue) := by
  refine ⟨opened_owned threadId steerQueue, ?_⟩
  rintro turn handle ⟨⟩

/-- In every run in which the settlement of each turn is scheduled before the next turn is started,
one turn runs at a time, and it is settled before the next one starts outside its settlement. -/
theorem oneTurn_of_scheduled {threadId : Text} {steerQueue : Option (List Guidance)}
    {labels : List SessionLabel} {label : SessionLabel}
    (scheduled : machine.Guarded Scheduled (opened threadId steerQueue) (labels ++ [label]))
    (ran : machine.run (opened threadId steerQueue) labels = some session)
    (stepped : machine.step session label = some next) : OneTurn session label next := by
  rcases scheduled.of_append ran with ⟨before, now, _⟩
  have ordered : InOrder session :=
    Machine.run_invariant_of_guarded (fun ordered scheduled stepped =>
      ordered.step scheduled stepped) (opened_inOrder threadId _) before ran
  exact ordered.oneTurn now stepped

/-! ### A turn that starts after a settlement, and one that starts before it -/

/-- The first turn is settled before the second one is submitted. -/
theorem oneTurn_of_scheduled_settled :
    ∃ session, machine.run (opened (Text.ofString "thread") (some []))
        [.submit {} none, .scheduleSettlement, .finish 0 .completed, .settleClear 0,
          .settleGoal 0 false, .settlePublish 0] = some session ∧
      ∃ next, machine.step session (.submit {} none) = some next ∧
        OneTurn session (.submit {} none) next := by
  have taken : machine.Guarded Scheduled (opened (Text.ofString "thread") (some []))
        ([.submit {} none, .scheduleSettlement, .finish 0 .completed, .settleClear 0,
          .settleGoal 0 false, .settlePublish 0] ++ [.submit {} none]) ∧
      ∃ session, machine.run (opened (Text.ofString "thread") (some []))
          [.submit {} none, .scheduleSettlement, .finish 0 .completed, .settleClear 0,
            .settleGoal 0 false, .settlePublish 0] = some session ∧
        ∃ next, machine.step session (.submit {} none) = some next ∧ True := by
    decide +kernel
  rcases taken with ⟨scheduled, session, ran, next, stepped, _⟩
  exact ⟨session, ran, next, stepped, oneTurn_of_scheduled scheduled ran stepped⟩

/-- The first turn is done before `submit` schedules its settlement, and another thread starts the
second turn in between. -/
theorem started_unsettled :
    ∃ session, machine.run (opened (Text.ofString "thread") (some []))
        [.submit {} none, .finish 0 .completed] = some session ∧
      ∃ next, machine.step session (.start {} none) = some next ∧
        ¬OneTurn session (.start {} none) next := by
  have taken : ∃ session, machine.run (opened (Text.ofString "thread") (some []))
        [.submit {} none, .finish 0 .completed] = some session ∧
      ∃ next, machine.step session (.start {} none) = some next ∧
        session.turns.length = 1 ∧ next.turns.length = 2 ∧
          ∃ handle, session.turns[0]? = some handle ∧ handle.settlement = none := by
    decide +kernel
  rcases taken with ⟨session, ran, next, stepped, one, two, handle, found, unscheduled⟩
  refine ⟨session, ran, next, stepped, fun oneTurn => ?_⟩
  rcases oneTurn.previous (by omega) 0 (by omega) with ⟨other, stored, settled⟩ | ⟨message, same⟩
  · obtain rfl := Option.some.inj (found.symm.trans stored)
    rw [unscheduled] at settled
    rcases settled with ⟨⟨⟩⟩ | ⟨⟨⟩⟩
  · cases same

end SessionRuntime

end Synapse.Turns
