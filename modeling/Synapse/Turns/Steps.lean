import Synapse.Turns.Session

/-!
# What a step can do

Most steps of a session start, end and settle no turn; the others let a turn end,
move its settlement on, close the session or start a turn. The live turn is always
the active one.
-/

namespace Synapse.Turns

open List

namespace SessionRuntime

variable {session next : SessionRuntime}

/-! ### What the functions can do -/

theorem startError_eq_none {message : UserTurn} {reservation : Option TurnReservation}
    {owner : Option TurnId} (fine : session.startError message reservation owner = none) :
    session.closed = false ∧ ¬session.HasLiveTurn ∧
      (session.status = .waitingApproval → message.approvalResume = true) ∧
      (session.settlingHandles = [] ∨ owner.any (· ∈ session.settlingHandles)) ∧
      session.reservation = reservation ∧
      (message.approvalResume = true → session.authorizes reservation = true) := by
  unfold startError at fine
  split at fine
  · cases fine
  split at fine
  · cases fine
  split at fine
  · cases fine
  split at fine
  · cases fine
  split at fine
  · cases fine
  split at fine
  · cases fine
  split at fine
  · cases fine
  split at fine
  · cases fine
  case isFalse open_ idle waiting settling _ taken stale authorized =>
    refine ⟨by simpa using open_, idle, ?_, ?_, ?_, ?_⟩
    · intro paused
      simpa [paused] using waiting
    · by_cases none : session.settlingHandles = []
      · exact Or.inl none
      · right
        simpa [none] using settling
    · by_cases none : session.reservation = none
      · simpa [none, eq_comm] using stale
      · simpa [none, eq_comm] using taken
    · intro resume
      simpa [resume] using authorized

theorem start_cases (session : SessionRuntime) (message : UserTurn)
    (reservation : Option TurnReservation) (owner : Option TurnId) :
    (session.startError message reservation owner = none ∧
      session.start message reservation owner =
        (session.begin message, .ok session.turns.length)) ∨
    ∃ error, session.startError message reservation owner = some error ∧
      session.start message reservation owner = (session.abandon reservation, .error error) := by
  unfold start
  cases found : session.startError message reservation owner with
  | none => exact Or.inl ⟨rfl, rfl⟩
  | some error => exact Or.inr ⟨error, rfl, rfl⟩

/-- A call that starts, ends and settles no turn. -/
structure Quiet (session next : SessionRuntime) : Prop where
  turns : next.turns = session.turns
  activeHandle : next.activeHandle = session.activeHandle
  latestHandle : next.latestHandle = session.latestHandle
  settlingHandles : next.settlingHandles = session.settlingHandles
  closed : next.closed = session.closed
  closeClaim : next.closeClaim = session.closeClaim
  loop : next.loop = session.loop
  status : next.status = session.status ∨
    (next.status ≠ .waitingApproval ∧ next.status ≠ .closed ∧
      (session.closed = false ∨ session.reservation ≠ none ∨ session.status ≠ .closed))
  reservation : next.reservation = session.reservation ∨ next.reservation = none ∨
    (session.reservation = none ∧ session.closed = false ∧ next.status = .starting)

theorem Quiet.refl (session : SessionRuntime) : Quiet session session :=
  ⟨rfl, rfl, rfl, rfl, rfl, rfl, rfl, Or.inl rfl, Or.inl rfl⟩

/-- The guidance of a session, pending and drained. -/
structure SameGuidance (session next : SessionRuntime) : Prop where
  steerQueue : next.steerQueue = session.steerQueue
  accepted : next.accepted = session.accepted
  drained : next.drained = session.drained

/-- A call that leaves the guidance alone, too. -/
structure Silent (session next : SessionRuntime) : Prop
    extends Quiet session next, SameGuidance session next

theorem Silent.refl (session : SessionRuntime) : Silent session session :=
  ⟨.refl session, rfl, rfl, rfl⟩

theorem unavailable_eq_none (free : session.unavailable = none) :
    session.closed = false ∧ session.reservation = none ∧ session.settlingHandles = [] ∧
      ¬session.HasLiveTurn := by
  unfold unavailable at free
  split at free
  · cases free
  split at free
  · cases free
  split at free
  · cases free
  split at free
  · cases free
  case isFalse open_ unreserved settled idle =>
    exact ⟨by simpa using open_, by simpa using unreserved, by simpa using settled, idle⟩

theorem reserve_silent (reservation : TurnReservation) (free : session.unavailable = none) :
    Silent session (session.reserve reservation) := by
  rcases unavailable_eq_none free with ⟨open_, unreserved, _, _⟩
  exact ⟨⟨rfl, rfl, rfl, rfl, rfl, rfl, rfl,
    Or.inr ⟨by simp [reserve], by simp [reserve], Or.inl open_⟩,
    Or.inr (Or.inr ⟨unreserved, open_, rfl⟩)⟩, rfl, rfl, rfl⟩

theorem reserveTurn_silent (session : SessionRuntime) : Silent session session.reserveTurn.1 := by
  unfold reserveTurn
  split
  · exact .refl session
  case h_2 free => exact { reserve_silent _ free with }

theorem reserveTurnOrRaise_silent (session : SessionRuntime) (approvalResume : Bool)
    (approvalClaim : Option (ℕ × ℕ)) :
    Silent session (session.reserveTurnOrRaise approvalResume approvalClaim).1 := by
  unfold reserveTurnOrRaise
  split
  · exact .refl session
  case h_2 free =>
    split
    · split
      · exact reserve_silent _ free
      · exact .refl session
    · split
      · exact .refl session
      · exact { reserve_silent _ free with }

theorem releaseTurn_silent (session : SessionRuntime) (reservation : TurnReservation) :
    Silent session (session.releaseTurn reservation).1 := by
  unfold releaseTurn
  split
  · exact .refl session
  case isFalse held =>
    have reserved : session.reservation ≠ none := by
      rw [not_not.mp held]
      simp
    exact ⟨⟨rfl, rfl, rfl, rfl, rfl, rfl, rfl,
      Or.inr ⟨by simp, by simp, Or.inr (Or.inl reserved)⟩, Or.inr (Or.inl rfl)⟩, rfl, rfl, rfl⟩

theorem abandon_silent (session : SessionRuntime) (reservation : Option TurnReservation) :
    Silent session (session.abandon reservation) := by
  unfold abandon
  split
  case isTrue held =>
    have reserved : session.reservation ≠ none := by
      rw [held.2]
      exact held.1
    exact ⟨⟨rfl, rfl, rfl, rfl, rfl, rfl, rfl,
      Or.inr ⟨by simp, by simp, Or.inr (Or.inl reserved)⟩, Or.inr (Or.inl rfl)⟩, rfl, rfl, rfl⟩
  case isFalse => exact .refl session

theorem markQueued_silent (session : SessionRuntime) : Silent session session.markQueued.1 := by
  unfold markQueued
  split
  · exact .refl session
  case isFalse open_ =>
    split
    · exact .refl session
    · exact ⟨⟨rfl, rfl, rfl, rfl, rfl, rfl, rfl,
        Or.inr ⟨by simp, by simp, Or.inl (by simpa using open_)⟩, Or.inl rfl⟩, rfl, rfl, rfl⟩

theorem clearQueued_silent (session : SessionRuntime) : Silent session session.clearQueued := by
  unfold clearQueued
  split
  case isTrue waiting =>
    have running : session.status ≠ .closed := by
      rcases waiting with queued | starting
      · simp [queued]
      · simp [starting]
    exact ⟨⟨rfl, rfl, rfl, rfl, rfl, rfl, rfl,
      Or.inr ⟨by simp, by simp, Or.inr (Or.inr running)⟩, Or.inl rfl⟩, rfl, rfl, rfl⟩
  case isFalse => exact .refl session

theorem markStarting_silent (session : SessionRuntime) : Silent session session.markStarting.1 := by
  unfold markStarting
  split
  · exact .refl session
  case isFalse queued =>
    have running : session.status ≠ .closed := by
      rw [not_not.mp queued]
      simp
    exact ⟨⟨rfl, rfl, rfl, rfl, rfl, rfl, rfl,
      Or.inr ⟨by simp, by simp, Or.inr (Or.inr running)⟩, Or.inl rfl⟩, rfl, rfl, rfl⟩

theorem buildApprovalResume_silent (session : SessionRuntime) (expectedTurnId : TurnId)
    (pending : Bool) : Silent session (session.buildApprovalResume expectedTurnId pending).1 := by
  unfold buildApprovalResume
  split
  · exact .refl session
  split
  · exact .refl session
  split
  · exact .refl session
  split
  · exact .refl session
  · exact ⟨⟨rfl, rfl, rfl, rfl, rfl, rfl, rfl, Or.inl rfl, Or.inl rfl⟩, rfl, rfl, rfl⟩

theorem takeApprovalClaim_silent (session : SessionRuntime) (expectedTurnId : TurnId) :
    Silent session (session.takeApprovalClaim expectedTurnId).1 := by
  unfold takeApprovalClaim
  split
  · exact .refl session
  split
  · exact .refl session
  · exact ⟨⟨rfl, rfl, rfl, rfl, rfl, rfl, rfl, Or.inl rfl, Or.inl rfl⟩, rfl, rfl, rfl⟩

theorem steerTurn_quiet (session : SessionRuntime) (expectedTurnId : TurnId) (text : Text) :
    Quiet session (session.steerTurn expectedTurnId text).1 := by
  unfold steerTurn
  dsimp only
  split
  · exact Quiet.refl session
  split
  · exact Quiet.refl session
  split
  · exact Quiet.refl session
  split
  · exact Quiet.refl session
  split
  · exact Quiet.refl session
  split
  · exact Quiet.refl session
  split
  · exact Quiet.refl session
  · exact ⟨rfl, rfl, rfl, rfl, rfl, rfl, rfl, Or.inl rfl, Or.inl rfl⟩

theorem drain_quiet (session : SessionRuntime) (turn : TurnId) :
    Quiet session (session.drain turn) :=
  ⟨rfl, rfl, rfl, rfl, rfl, rfl, rfl, Or.inl rfl, Or.inl rfl⟩

end SessionRuntime

/-! ### The settlement of a turn -/

/-- While a settlement is in one of these phases, its turn is a settling handle. -/
def Settlement.Claimed : Settlement → Prop
  | .waiting | .cleared | .following | .publishing => True
  | .finished | .settled => False

/-- No follow-up is started in the settlement any more. -/
def Settlement.Late : Settlement → Prop
  | .publishing | .finished | .settled => True
  | .waiting | .cleared | .following => False

def Turn.Late (handle : Turn) : Prop :=
  ∃ settlement, handle.settlement = some settlement ∧ settlement.Late

namespace SessionRuntime

variable {session next : SessionRuntime}

theorem getElem?_modify (turns : List Turn) (change : Turn → Turn) (turn other : TurnId) :
    (turns.modify turn change)[other]? =
      if turn = other then turns[other]?.map change else turns[other]? := by
  rw [List.getElem?_modify]
  split
  · rfl
  · exact congrFun Option.map_id _

theorem setSettlement_turns (session : SessionRuntime) (turn other : TurnId)
    (settlement : Settlement) :
    (session.setSettlement turn settlement).turns[other]? =
      if turn = other then
        session.turns[other]?.map ({ · with settlement := some settlement })
      else session.turns[other]? :=
  getElem?_modify session.turns _ turn other

theorem live_congr (same : next.turns = session.turns) (turn : TurnId) :
    next.Live turn ↔ session.Live turn := by
  simp only [Live, same]

variable {turn other : TurnId} {change : Turn → Turn}

/-- A change that keeps the results makes no turn live. -/
theorem live_modify (turns : next.turns = session.turns.modify turn change)
    (keeps : ∀ handle, (change handle).result = none → handle.result = none)
    (live : next.Live other) : session.Live other := by
  rcases live with ⟨handle, found, open_⟩
  rw [turns, getElem?_modify] at found
  split at found
  · rcases Option.map_eq_some_iff.mp found with ⟨before, stored, rfl⟩
    exact ⟨before, stored, keeps before open_⟩
  · exact ⟨handle, found, open_⟩

variable {settlement : Settlement}

theorem live_setSettlement :
    (session.setSettlement turn settlement).Live other ↔ session.Live other := by
  simp only [Live, setSettlement_turns]
  split
  case isTrue same =>
    cases session.turns[other]? with
    | none => simp
    | some handle => simp
  case isFalse => exact Iff.rfl

/-- What holds of the owner of a session in every run. -/
structure Owned (session : SessionRuntime) : Prop where
  live : ∀ turn, session.Live turn → session.activeHandle = some turn
  waiting : session.status = .waitingApproval → ∀ turn, session.activeHandle = some turn →
    ¬session.Live turn
  closeClaim : ∀ handle, session.closeClaim = some handle → session.closed = true ∧
    ∀ turn, session.Live turn → handle = some turn
  ended : session.status = .closed → session.closed = true
  revoked : session.closed = true → session.reservation = none
  claimed : ∀ turn handle settlement, session.turns[turn]? = some handle →
    handle.settlement = some settlement → settlement.Claimed → turn ∈ session.settlingHandles
  loop : ∀ turn handle, session.loop = some turn → session.turns[turn]? = some handle →
    handle.settlement = none

/-- A step that starts no turn. -/
structure Tame (session next : SessionRuntime) : Prop where
  live : ∀ turn, next.Live turn → session.Live turn
  length : next.turns.length = session.turns.length
  kept : ∀ turn, next.Live turn → next.activeHandle = session.activeHandle
  activeHandle : ∀ turn, next.activeHandle = some turn → session.activeHandle = some turn
  waiting : next.status = .waitingApproval → session.status = .waitingApproval ∨
    ∀ turn, next.activeHandle = some turn → ¬next.Live turn
  closed : session.closed = true → next.closed = true
  closeClaim : ∀ handle, next.closeClaim = some handle → next.closed = true ∧
    (session.closeClaim = some handle ∨ handle = session.activeHandle)
  stays : session.status = .closed → next.status = .closed
  ended : next.status = .closed → next.closed = true
  revoked : next.closed = true → next.reservation = none
  reservation : ∀ reservation, next.reservation = some reservation →
    session.reservation = none ∨ session.reservation = some reservation
  claimed : ∀ turn handle settlement, next.turns[turn]? = some handle →
    handle.settlement = some settlement → settlement.Claimed → turn ∈ next.settlingHandles
  loop : ∀ turn handle, next.loop = some turn → next.turns[turn]? = some handle →
    handle.settlement = none
  late : ∀ (turn : TurnId) (handle : Turn), next.turns[turn]? = some handle → ∃ before : Turn,
    session.turns[turn]? = some before ∧ (before.Late → handle.Late)

theorem Owned.of_tame (owned : Owned session) (tame : Tame session next) : Owned next where
  live := by
    intro turn live
    rw [tame.kept turn live]
    exact owned.live turn (tame.live turn live)
  waiting := by
    intro waiting turn active
    rcases tame.waiting waiting with before | now
    · exact fun live =>
        owned.waiting before turn (tame.activeHandle turn active) (tame.live turn live)
    · exact now turn active
  closeClaim := by
    intro handle claim
    rcases tame.closeClaim handle claim with ⟨closed, older | rfl⟩
    · exact ⟨closed, fun turn live =>
        (owned.closeClaim handle older).2 turn (tame.live turn live)⟩
    · exact ⟨closed, fun turn live => owned.live turn (tame.live turn live)⟩
  ended := tame.ended
  revoked := tame.revoked
  claimed := tame.claimed
  loop := tame.loop

theorem Tame.of_quiet (owned : Owned session) (quiet : Quiet session next) :
    Tame session next where
  live := fun turn live => (live_congr quiet.turns turn).mp live
  length := by rw [quiet.turns]
  kept := fun _ _ => quiet.activeHandle
  activeHandle := fun turn active => quiet.activeHandle ▸ active
  waiting := by
    intro waiting
    rcases quiet.status with same | ⟨other, _⟩
    · exact Or.inl (same ▸ waiting)
    · exact absurd waiting other
  closed := fun closed => quiet.closed ▸ closed
  closeClaim := by
    intro handle claim
    rw [quiet.closeClaim] at claim
    rw [quiet.closed]
    exact ⟨(owned.closeClaim handle claim).1, Or.inl claim⟩
  stays := by
    intro ended
    rcases quiet.status with same | ⟨_, _, open_ | reserved | running⟩
    · exact same.trans ended
    · rw [owned.ended ended] at open_
      cases open_
    · exact absurd (owned.revoked (owned.ended ended)) reserved
    · exact absurd ended running
  ended := by
    intro ended
    rw [quiet.closed]
    rcases quiet.status with same | ⟨_, other, _⟩
    · exact owned.ended (same ▸ ended)
    · exact absurd ended other
  revoked := by
    intro closed
    rw [quiet.closed] at closed
    rcases quiet.reservation with same | none | ⟨_, open_, _⟩
    · rw [same]
      exact owned.revoked closed
    · exact none
    · rw [open_] at closed
      cases closed
  reservation := by
    intro reservation held
    rcases quiet.reservation with same | none | ⟨none, _⟩
    · exact Or.inr (same ▸ held)
    · rw [none] at held
      cases held
    · exact Or.inl none
  claimed := by
    rw [quiet.turns, quiet.settlingHandles]
    exact owned.claimed
  loop := by
    rw [quiet.turns, quiet.loop]
    exact owned.loop
  late := by
    rw [quiet.turns]
    exact fun turn handle found => ⟨handle, found, fun late => late⟩

variable {handle : Turn}

/-- A turn that is changed in the list, but for its settlement. -/
theorem late_modify (turns : next.turns = session.turns.modify turn change)
    (keeps : ∀ handle, session.turns[turn]? = some handle → handle.Late → (change handle).Late)
    (found : next.turns[other]? = some handle) :
    ∃ before : Turn, session.turns[other]? = some before ∧ (before.Late → handle.Late) := by
  rw [turns, getElem?_modify] at found
  split at found
  case isTrue same =>
    subst same
    rcases Option.map_eq_some_iff.mp found with ⟨before, stored, rfl⟩
    exact ⟨before, stored, keeps before stored⟩
  case isFalse => exact ⟨handle, found, fun late => late⟩

theorem claimed_modify (owned : Owned session)
    (turns : next.turns = session.turns.modify turn change)
    (others : ∀ other ∈ session.settlingHandles, other ≠ turn → other ∈ next.settlingHandles)
    (own : ∀ handle settlement, session.turns[turn]? = some handle →
      (change handle).settlement = some settlement → settlement.Claimed →
      turn ∈ next.settlingHandles) :
    ∀ other handle settlement, next.turns[other]? = some handle →
      handle.settlement = some settlement → settlement.Claimed → other ∈ next.settlingHandles := by
  intro other handle settlement found phase claimed
  rw [turns, getElem?_modify] at found
  split at found
  case isTrue same =>
    subst same
    rcases Option.map_eq_some_iff.mp found with ⟨before, stored, rfl⟩
    exact own before settlement stored phase claimed
  case isFalse different =>
    exact others other (owned.claimed other handle settlement found phase claimed)
      (Ne.symm different)

/-- A change of a turn that keeps its settlement, under a status that is not waiting or closed. -/
theorem Tame.of_mark (owned : Owned session) (turns : next.turns = session.turns.modify turn change)
    (results : ∀ handle, (change handle).result = none → handle.result = none)
    (settlements : ∀ handle, (change handle).settlement = handle.settlement)
    (activeHandle : next.activeHandle = session.activeHandle)
    (settlingHandles : next.settlingHandles = session.settlingHandles)
    (closed : next.closed = session.closed) (closeClaim : next.closeClaim = session.closeClaim)
    (status : next.status = session.status ∨
      next.status ≠ .waitingApproval ∧ next.status ≠ .closed ∧ session.closed = false)
    (reservation : next.reservation = session.reservation) (loop : next.loop = session.loop) :
    Tame session next where
  live := fun _ live => live_modify turns results live
  length := by rw [turns, length_modify]
  kept := fun _ _ => activeHandle
  activeHandle := fun _ active => activeHandle ▸ active
  waiting := by
    intro waiting
    rcases status with same | ⟨other, _⟩
    · exact Or.inl (same ▸ waiting)
    · exact absurd waiting other
  closed := fun before => closed ▸ before
  closeClaim := by
    intro handle claim
    rw [closeClaim] at claim
    rw [closed]
    exact ⟨(owned.closeClaim handle claim).1, Or.inl claim⟩
  stays := by
    intro ended
    rcases status with same | ⟨_, _, open_⟩
    · exact same.trans ended
    · rw [owned.ended ended] at open_
      cases open_
  ended := by
    intro ended
    rw [closed]
    rcases status with same | ⟨_, other, _⟩
    · exact owned.ended (same ▸ ended)
    · exact absurd ended other
  revoked := by
    rw [closed, reservation]
    exact owned.revoked
  reservation := fun _ held => Or.inr (reservation ▸ held)
  claimed := by
    refine claimed_modify owned turns (fun other present _ => settlingHandles ▸ present) ?_
    intro handle settlement found phase claimed
    rw [settlingHandles]
    exact owned.claimed turn handle settlement found (settlements handle ▸ phase) claimed
  loop := by
    intro other handle scheduling found
    rw [turns, getElem?_modify] at found
    rw [loop] at scheduling
    split at found
    · rcases Option.map_eq_some_iff.mp found with ⟨before, stored, rfl⟩
      rw [settlements]
      exact owned.loop other before scheduling stored
    · exact owned.loop other handle scheduling found
  late := by
    refine fun _ _ => late_modify turns fun handle _ late => ?_
    rw [Turn.Late, settlements]
    exact late

theorem setCancelled_tame (owned : Owned session) (turn : TurnId) :
    Tame session (session.setCancelled turn) :=
  .of_mark owned rfl (fun _ open_ => open_) (fun _ => rfl) rfl rfl rfl rfl (Or.inl rfl) rfl rfl

theorem finish_tame (owned : Owned session) (turn : TurnId) (result : TurnStatus) :
    Tame session
      { session with turns := session.turns.modify turn ({ · with result := some result }) } := by
  refine .of_mark owned rfl (fun _ open_ => ?_) (fun _ => rfl) rfl rfl rfl rfl (Or.inl rfl) rfl rfl
  cases open_

/-- A paused turn is not live, so no live turn is forgotten. -/
theorem cancelTurn_tame (owned : Owned session) (expectedTurnId : TurnId) :
    Tame session (session.cancelTurn expectedTurnId).1 := by
  have same : Tame session session := .of_quiet owned (Quiet.refl session)
  unfold cancelTurn
  split
  · exact same
  case isFalse open_ =>
    split
    · exact same
    case h_2 turn active =>
      dsimp only
      split
      · exact same
      split
      · exact same
      split
      · exact same
      split
      case isTrue paused =>
        have marked := setCancelled_tame owned turn
        have unclosed : session.closed = false := by simpa using open_
        refine { marked with
          kept := ?_
          activeHandle := ?_
          waiting := ?_
          stays := ?_
          ended := ?_ }
        · intro other live
          have active := owned.live other (marked.live other live)
          exact absurd (marked.live other live)
            (owned.waiting paused other active)
        · intro other active
          cases active
        · intro waiting
          cases waiting
        · intro ended
          rw [owned.ended ended] at unclosed
          cases unclosed
        · intro ended
          cases ended
      case isFalse =>
        refine .of_mark owned rfl (fun _ open_ => open_) (fun _ => rfl) rfl rfl rfl rfl
          (Or.inr ⟨?_, ?_, ?_⟩) rfl rfl
        · simp
        · simp
        · simpa using open_

theorem settling_cases {action : TurnStatus → SessionRuntime}
    (stepped : session.settling turn settlement action = some next) :
    ∃ cancelled result,
      session.turns[turn]? = some ⟨cancelled, some result, some settlement⟩ ∧
        session.loop = none ∧ next = action result := by
  unfold settling at stepped
  split at stepped
  case h_1 cancelled result phase found =>
    split at stepped
    case isTrue here =>
      rw [here.2] at found
      exact ⟨cancelled, result, found, here.1, (Option.some.inj stepped).symm⟩
    case isFalse => cases stepped
  case h_2 => cases stepped

variable {result : TurnStatus} {cancelled : Bool}

theorem not_live_of_result {settlement : Option Settlement}
    (found : session.turns[turn]? = some ⟨cancelled, some result, settlement⟩) :
    ¬session.Live turn := by
  rintro ⟨handle, stored, open_⟩
  obtain rfl := Option.mem_unique found stored
  cases open_

theorem setSettlement_tame (owned : Owned session) (scheduled : session.loop = none)
    (onward : ∀ handle, session.turns[turn]? = some handle → handle.Late → settlement.Late)
    (claimed : settlement.Claimed → turn ∈ session.settlingHandles) :
    Tame session (session.setSettlement turn settlement) where
  live := fun _ live => live_setSettlement.mp live
  length := length_modify _ _ _
  kept := fun _ _ => rfl
  activeHandle := fun _ active => active
  waiting := Or.inl
  closed := id
  closeClaim := fun handle claim => ⟨(owned.closeClaim handle claim).1, Or.inl claim⟩
  stays := id
  ended := owned.ended
  revoked := owned.revoked
  reservation := fun _ held => Or.inr held
  claimed := by
    refine claimed_modify owned rfl (fun _ present _ => present) ?_
    intro handle phase _ same now
    obtain rfl := Option.some.inj same
    exact claimed now
  loop := by
    intro other handle scheduling
    rw [setSettlement, scheduled] at scheduling
    cases scheduling
  late := fun _ _ => late_modify rfl fun handle stored late =>
    ⟨settlement, rfl, onward handle stored late⟩

/-- The handle of a settlement that has come this far is done. -/
theorem onward_of_found {before after : Settlement}
    (found : session.turns[turn]? = some ⟨cancelled, some result, some before⟩)
    (onward : before.Late → after.Late) :
    ∀ handle, session.turns[turn]? = some handle → handle.Late → after.Late := by
  rintro handle stored ⟨settlement, same, late⟩
  obtain rfl := Option.mem_unique found stored
  obtain rfl := Option.some.inj same
  exact onward late

theorem settleClear_tame (owned : Owned session)
    (found : session.turns[turn]? = some ⟨cancelled, some result, some .waiting⟩)
    (scheduled : session.loop = none) : Tame session (session.settleClear turn result) := by
  have moved : Tame session (session.setSettlement turn .cleared) :=
    setSettlement_tame owned scheduled (onward_of_found found False.elim) fun _ =>
      owned.claimed turn _ .waiting found rfl trivial
  unfold settleClear
  dsimp only
  split
  case isTrue own =>
    refine { moved with kept := ?_, activeHandle := ?_, waiting := ?_ }
    · intro other live
      -- The active handle is the one that is done.
      have active := owned.live other (moved.live other live)
      obtain rfl := Option.mem_unique own.1 active
      exact absurd (moved.live turn live) (not_live_of_result found)
    · intro other active
      cases active
    · exact Or.inl
  case isFalse => exact { moved with }

theorem settleGoal_tame (owned : Owned session)
    (found : session.turns[turn]? = some ⟨cancelled, some result, some .cleared⟩)
    (scheduled : session.loop = none) (active : Bool) :
    Tame session (session.settleGoal turn result active) :=
  setSettlement_tame owned scheduled (onward_of_found found False.elim) fun _ =>
    owned.claimed turn _ .cleared found rfl trivial

/-- The turn is no settling handle any more, and neither is it in its settlement. -/
theorem unclaim_tame (owned : Owned session)
    (scheduled : session.loop = none) (late : settlement.Late) (unclaimed : ¬settlement.Claimed) :
    Tame session { session.setSettlement turn settlement with
      settlingHandles := session.settlingHandles.filter (· ≠ turn) } := by
  have moved : Tame session (session.setSettlement turn settlement) :=
    setSettlement_tame owned scheduled (fun _ _ _ => late) fun claimed =>
      absurd claimed unclaimed
  refine { moved with claimed := claimed_modify owned rfl ?_ ?_ }
  · intro other present different
    exact mem_filter.mpr ⟨present, by simpa using different⟩
  · intro handle phase _ same claimed
    obtain rfl := Option.some.inj same
    exact absurd claimed unclaimed

theorem settlePublish_tame (owned : Owned session)
    (found : session.turns[turn]? = some ⟨cancelled, some result, some .publishing⟩)
    (scheduled : session.loop = none) : Tame session (session.settlePublish turn result) := by
  unfold settlePublish
  dsimp only
  split
  case isTrue publishes =>
    rcases publishes with ⟨open_, _, active, _⟩
    have moved : Tame session { session.setSettlement turn .finished with
        settlingHandles := session.settlingHandles.filter (· ≠ turn) } :=
      unclaim_tame owned scheduled trivial id
    refine { moved with waiting := ?_, stays := ?_, ended := ?_ }
    · intro _
      right
      intro other current live
      rcases active with none | ⟨_, own⟩
      · rw [show session.activeHandle = some other from current] at none
        cases none
      · obtain rfl := Option.mem_unique own current
        exact not_live_of_result found (moved.live turn live)
    · intro ended
      rw [owned.ended ended] at open_
      cases open_
    · intro ended
      cases result with
      | completed => cases ended
      | cancelled => cases ended
      | waitingApproval => cases ended
      | failed => cases ended
  case isFalse =>
    exact setSettlement_tame owned scheduled (onward_of_found found fun _ => trivial) False.elim

theorem settled_tame (owned : Owned session) (turn : TurnId) (scheduled : session.loop = none) :
    Tame session (session.settled turn) :=
  unclaim_tame owned scheduled trivial id

theorem scheduleSettlement_tame (owned : Owned session) (started : session.loop = some turn) :
    Tame session { session.scheduleSettlement turn with loop := none } where
  live := fun _ live => live_setSettlement.mp live
  length := length_modify _ _ _
  kept := fun _ _ => rfl
  activeHandle := fun _ active => active
  waiting := Or.inl
  closed := id
  closeClaim := fun handle claim => ⟨(owned.closeClaim handle claim).1, Or.inl claim⟩
  stays := id
  ended := owned.ended
  revoked := owned.revoked
  reservation := fun _ held => Or.inr held
  claimed := by
    refine claimed_modify owned rfl ?_ ?_
    · exact fun other present _ => mem_append_left _ present
    · exact fun _ _ _ _ _ => mem_append_right _ mem_cons_self
  loop := by
    intro other handle scheduling
    cases scheduling
  late := by
    refine fun _ _ => late_modify rfl fun handle stored late => ?_
    rcases late with ⟨settlement, same, _⟩
    rw [owned.loop turn handle started stored] at same
    cases same

/-- The claim of a close waits for the live turn, if there is one. -/
theorem close_tame (owned : Owned session) (cancelActive strictBusy : Bool) :
    Tame session (session.close cancelActive strictBusy).1 := by
  have same : Tame session session := .of_quiet owned (Quiet.refl session)
  have claimed : session.closed = false → Tame session
      { session.clearSilent with
        closed := true, closeClaim := some session.activeHandle, reservation := none } := by
    intro open_
    refine { same with closed := ?_, closeClaim := ?_, ended := ?_, revoked := ?_,
                       reservation := ?_ }
    · exact fun _ => rfl
    · intro handle claim
      obtain rfl := Option.some.inj claim
      exact ⟨rfl, Or.inr rfl⟩
    · exact fun _ => rfl
    · exact fun _ => rfl
    · intro reservation held
      cases held
  unfold close
  split
  · exact same
  case isFalse open_ =>
    have unclosed : session.closed = false := by simpa using open_
    split
    · exact same
    · dsimp only
      split
      case h_1 turn _ =>
        split
        · have marked := setCancelled_tame owned turn
          refine { marked with waiting := ?_, closed := ?_, closeClaim := ?_, stays := ?_,
                               ended := ?_, revoked := ?_, reservation := ?_ }
          · intro waiting
            cases waiting
          · exact fun _ => rfl
          · intro handle claim
            obtain rfl := Option.some.inj claim
            exact ⟨rfl, Or.inr rfl⟩
          · intro ended
            rw [owned.ended ended] at unclosed
            cases unclosed
          · exact fun _ => rfl
          · exact fun _ => rfl
          · intro reservation held
            cases held
        · exact claimed unclosed
      case h_2 => exact claimed unclosed

/-- A close ends when the turn that it waits for is done. -/
theorem closeEnd_tame (owned : Owned session) {handle : Option TurnId}
    (claim : session.closeClaim = some handle) (done : ∀ turn, handle = some turn →
      ¬session.Live turn) : Tame session session.closeEnd := by
  have same : Tame session session := .of_quiet owned (Quiet.refl session)
  have closed := (owned.closeClaim handle claim).1
  refine { same with kept := ?_, activeHandle := ?_, waiting := ?_, closeClaim := ?_, stays := ?_,
                     ended := ?_ }
  · intro turn live
    exact absurd live (done turn ((owned.closeClaim handle claim).2 turn live))
  · intro turn active
    cases active
  · intro waiting
    cases waiting
  · intro other still
    cases still
  · exact fun _ => rfl
  · exact fun _ => closed

theorem closeAbort_tame (owned : Owned session) : Tame session { session with closeClaim := none } := by
  have same : Tame session session := .of_quiet owned (Quiet.refl session)
  refine { same with closeClaim := ?_ }
  intro other still
  cases still

/-! ### Starts -/

theorem begin_turns (session : SessionRuntime) (message : UserTurn) (turn : TurnId)
    (found : (session.begin message).turns[turn]? = some handle) :
    session.turns[turn]? = some handle ∨
      (session.turns.length = turn ∧ handle = { cancelled := message.cancelled }) := by
  simp only [begin] at found
  rcases Nat.lt_trichotomy turn session.turns.length with older | rfl | beyond
  · rw [getElem?_append_left older] at found
    exact Or.inl found
  · rw [getElem?_concat_length] at found
    exact Or.inr ⟨rfl, (Option.some.inj found).symm⟩
  · rw [getElem?_eq_none (by simp; omega)] at found
    cases found

theorem begin_length (session : SessionRuntime) (message : UserTurn) :
    (session.begin message).turns.length = session.turns.length + 1 := by
  simp [begin]

theorem lt_of_found {turn : ℕ} (found : session.turns[turn]? = some handle) :
    turn < session.turns.length := by
  by_contra beyond
  rw [getElem?_eq_none (by omega)] at found
  cases found

theorem Owned.begin (owned : Owned session) {message : UserTurn}
    (open_ : session.closed = false) (idle : ¬session.HasLiveTurn) {loop : Option TurnId}
    (scheduling : loop = session.loop ∨ loop = some session.turns.length) :
    Owned { session.begin message with loop := loop } := by
  have none : ∀ turn, ¬session.Live turn := fun turn live =>
    idle ⟨turn, owned.live turn live, live⟩
  have only : ∀ turn, (session.begin message).Live turn → turn = session.turns.length := by
    rintro turn ⟨handle, found, running⟩
    rcases begin_turns session message turn found with older | ⟨newest, _⟩
    · exact absurd ⟨handle, older, running⟩ (none turn)
    · exact newest.symm
  refine ⟨?_, ?_, ?_, ?_, ?_, ?_, ?_⟩
  · intro turn live
    rw [only turn live]
    rfl
  · intro waiting
    cases waiting
  · intro handle claim
    have closed := (owned.closeClaim handle claim).1
    rw [open_] at closed
    cases closed
  · intro ended
    cases ended
  · exact fun _ => rfl
  · intro turn handle settlement found phase claimed
    rcases begin_turns session message turn found with older | ⟨_, rfl⟩
    · exact owned.claimed turn handle settlement older phase claimed
    · cases phase
  · intro turn handle started found
    rcases begin_turns session message turn found with older | ⟨_, rfl⟩
    · rcases scheduling with same | new
      · exact owned.loop turn handle (same ▸ started) older
      · obtain rfl := Option.mem_unique new started
        rw [getElem?_eq_none le_rfl] at older
        cases older
    · rfl

end SessionRuntime

/-- The steps that start a turn, unless an error is raised. -/
def SessionLabel.starts : SessionLabel → Bool
  | .submit _ _ | .start _ _ | .settleFollow _ _ => true
  | _ => false

namespace SessionRuntime

variable {session next : SessionRuntime}

/-- A step that starts a turn: for a caller, or for a settlement whose turn is the last one. -/
inductive Begins (session : SessionRuntime) : SessionLabel → SessionRuntime → Prop where
  | external {label : SessionLabel} {message : UserTurn} {reservation : Option TurnReservation}
      {loop : Option TurnId} (starts : label.starts = true)
      (fine : session.startError message reservation none = none)
      (scheduling : loop = session.loop ∨ loop = some session.turns.length) :
      Begins session label { session.begin message with loop := loop }
  | followUp {turn : TurnId} {cancelled : Bool} {result : TurnStatus} {message : UserTurn}
      (found : session.turns[turn]? = some ⟨cancelled, some result, some .following⟩)
      (fine : (session.setSettlement turn .publishing).startError message none (some turn) = none) :
      Begins session (.settleFollow turn message)
        { (session.setSettlement turn .publishing).begin message with
          loop := some (session.setSettlement turn .publishing).turns.length }

theorem startOnLoop_cases (session : SessionRuntime) (message : UserTurn)
    (reservation : Option TurnReservation) (owner : Option TurnId) :
    (session.startError message reservation owner = none ∧
      session.startOnLoop message reservation owner =
        { session.begin message with loop := some session.turns.length }) ∨
    session.startOnLoop message reservation owner = session.abandon reservation := by
  unfold startOnLoop
  rcases start_cases session message reservation owner with
    ⟨fine, started⟩ | ⟨error, _, failed⟩
  · rw [started]
    exact Or.inl ⟨fine, rfl⟩
  · rw [failed]
    exact Or.inr rfl

/-- What a step does, with what it finds. -/
inductive Stepped (session : SessionRuntime) : SessionLabel → SessionRuntime → Prop where
  /-- A call around the turns. -/
  | call {label : SessionLabel} {next : SessionRuntime} (silent : Silent session next) :
      Stepped session label next
  | submit (message : UserTurn) (reservation : Option TurnReservation) (idle : session.loop = none) :
      Stepped session (.submit message reservation) (session.startOnLoop message reservation none)
  | start (message : UserTurn) (reservation : Option TurnReservation) :
      Stepped session (.start message reservation) (session.start message reservation none).1
  | scheduleSettlement {turn : TurnId} (started : session.loop = some turn) :
      Stepped session .scheduleSettlement { session.scheduleSettlement turn with loop := none }
  | cancelTurn (expectedTurnId : TurnId) :
      Stepped session (.cancelTurn expectedTurnId) (session.cancelTurn expectedTurnId).1
  | steerTurn (expectedTurnId : TurnId) (text : Text) :
      Stepped session (.steerTurn expectedTurnId text) (session.steerTurn expectedTurnId text).1
  | drain (turn : TurnId) : Stepped session (.drain turn) (session.drain turn)
  | finish {turn : TurnId} (result : TurnStatus) (live : session.Live turn) :
      Stepped session (.finish turn result)
        { session with turns := session.turns.modify turn ({ · with result := some result }) }
  | cancelToken (turn : TurnId) : Stepped session (.cancelToken turn) (session.setCancelled turn)
  | settleClear {turn : TurnId} {cancelled : Bool} {result : TurnStatus}
      (found : session.turns[turn]? = some ⟨cancelled, some result, some .waiting⟩)
      (idle : session.loop = none) :
      Stepped session (.settleClear turn) (session.settleClear turn result)
  | settleGoal {turn : TurnId} {cancelled : Bool} {result : TurnStatus} (active : Bool)
      (found : session.turns[turn]? = some ⟨cancelled, some result, some .cleared⟩)
      (idle : session.loop = none) :
      Stepped session (.settleGoal turn active) (session.settleGoal turn result active)
  | settleFollow {turn : TurnId} {cancelled : Bool} {result : TurnStatus} (message : UserTurn)
      (found : session.turns[turn]? = some ⟨cancelled, some result, some .following⟩)
      (idle : session.loop = none) :
      Stepped session (.settleFollow turn message)
        ((session.setSettlement turn .publishing).startOnLoop message none (some turn))
  | settlePublish {turn : TurnId} {cancelled : Bool} {result : TurnStatus}
      (found : session.turns[turn]? = some ⟨cancelled, some result, some .publishing⟩)
      (idle : session.loop = none) :
      Stepped session (.settlePublish turn) (session.settlePublish turn result)
  | settled {turn : TurnId} {cancelled : Bool} {result : TurnStatus}
      (found : session.turns[turn]? = some ⟨cancelled, some result, some .finished⟩)
      (idle : session.loop = none) : Stepped session (.settled turn) (session.settled turn)
  | close (cancelActive strictBusy : Bool) (idle : session.loop = none) :
      Stepped session (.close cancelActive strictBusy) (session.close cancelActive strictBusy).1
  | closeEnd {handle : Option TurnId} (claim : session.closeClaim = some handle)
      (ends : ¬handle.any fun turn => session.Live turn) : Stepped session .closeEnd session.closeEnd
  | closeAbort : Stepped session .closeAbort { session with closeClaim := none }

variable {label : SessionLabel}

theorem stepped_of_step (stepped : machine.step session label = some next) :
    Stepped session label next := by
  cases label with
  | submit message reservation =>
    rcases Option.ite_none_right_eq_some.1 stepped with ⟨idle, ⟨⟩⟩
    exact .submit message reservation idle
  | start message reservation =>
    cases stepped
    exact .start message reservation
  | scheduleSettlement =>
    rcases Option.map_eq_some_iff.mp stepped with ⟨turn, started, rfl⟩
    exact .scheduleSettlement started
  | reserveTurn =>
    cases stepped
    exact .call (reserveTurn_silent session)
  | reserveTurnOrRaise approvalResume approvalClaim =>
    cases stepped
    exact .call (reserveTurnOrRaise_silent session approvalResume approvalClaim)
  | releaseTurn reservation =>
    cases stepped
    exact .call (releaseTurn_silent session reservation)
  | markQueued =>
    cases stepped
    exact .call (markQueued_silent session)
  | clearQueued =>
    cases stepped
    exact .call (clearQueued_silent session)
  | markStarting =>
    cases stepped
    exact .call (markStarting_silent session)
  | buildApprovalResume expectedTurnId pending =>
    cases stepped
    exact .call (buildApprovalResume_silent session expectedTurnId pending)
  | takeApprovalClaim expectedTurnId =>
    cases stepped
    exact .call (takeApprovalClaim_silent session expectedTurnId)
  | cancelTurn expectedTurnId =>
    cases stepped
    exact .cancelTurn expectedTurnId
  | steerTurn expectedTurnId text =>
    cases stepped
    exact .steerTurn expectedTurnId text
  | drain turn =>
    rcases Option.ite_none_right_eq_some.1 stepped with ⟨_, ⟨⟩⟩
    exact .drain turn
  | finish turn result =>
    rcases Option.ite_none_right_eq_some.1 stepped with ⟨live, ⟨⟩⟩
    exact .finish result live
  | cancelToken turn =>
    cases stepped
    exact .cancelToken turn
  | settleClear turn =>
    rcases settling_cases stepped with ⟨cancelled, result, found, idle, rfl⟩
    exact .settleClear found idle
  | settleGoal turn active =>
    rcases settling_cases stepped with ⟨cancelled, result, found, idle, rfl⟩
    exact .settleGoal active found idle
  | settleFollow turn message =>
    rcases settling_cases stepped with ⟨cancelled, result, found, idle, rfl⟩
    exact .settleFollow message found idle
  | settlePublish turn =>
    rcases settling_cases stepped with ⟨cancelled, result, found, idle, rfl⟩
    exact .settlePublish found idle
  | settled turn =>
    rcases settling_cases stepped with ⟨cancelled, result, found, idle, rfl⟩
    exact .settled found idle
  | close cancelActive strictBusy =>
    rcases Option.ite_none_right_eq_some.1 stepped with ⟨idle, ⟨⟩⟩
    exact .close cancelActive strictBusy idle
  | closeEnd =>
    simp only [machine, step] at stepped
    split at stepped
    case h_1 handle claim =>
      rcases Option.ite_none_right_eq_some.1 stepped with ⟨ends, ⟨⟩⟩
      exact .closeEnd claim ends.2.1
    case h_2 => cases stepped
  | closeAbort =>
    cases stepped
    exact .closeAbort

theorem step_cases (owned : Owned session) (stepped : machine.step session label = some next) :
    Tame session next ∨ Begins session label next := by
  cases stepped_of_step stepped with
  | call silent => exact Or.inl (.of_quiet owned silent.toQuiet)
  | submit message reservation idle =>
    rcases startOnLoop_cases session message reservation none with ⟨fine, started⟩ | failed
    · rw [started]
      exact Or.inr (.external rfl fine (Or.inr rfl))
    · rw [failed]
      exact Or.inl (.of_quiet owned (abandon_silent session reservation).toQuiet)
  | start message reservation =>
    rcases start_cases session message reservation none with ⟨fine, started⟩ | ⟨_, _, failed⟩
    · rw [started]
      exact Or.inr (.external rfl fine (Or.inl rfl))
    · rw [failed]
      exact Or.inl (.of_quiet owned (abandon_silent session reservation).toQuiet)
  | scheduleSettlement started => exact Or.inl (scheduleSettlement_tame owned started)
  | cancelTurn expectedTurnId => exact Or.inl (cancelTurn_tame owned expectedTurnId)
  | steerTurn expectedTurnId text =>
    exact Or.inl (.of_quiet owned (steerTurn_quiet session expectedTurnId text))
  | drain turn => exact Or.inl (.of_quiet owned (drain_quiet session turn))
  | finish result live => exact Or.inl (finish_tame owned _ result)
  | cancelToken turn => exact Or.inl (setCancelled_tame owned turn)
  | settleClear found idle => exact Or.inl (settleClear_tame owned found idle)
  | settleGoal active found idle => exact Or.inl (settleGoal_tame owned found idle active)
  | @settleFollow turn _ _ message found idle =>
    have moved : Tame session (session.setSettlement turn .publishing) :=
      setSettlement_tame owned idle (onward_of_found found fun _ => trivial) fun _ =>
        owned.claimed turn _ .following found rfl trivial
    rcases startOnLoop_cases (session.setSettlement turn .publishing) message none (some turn) with
      ⟨fine, started⟩ | failed
    · rw [started]
      exact Or.inr (.followUp found fine)
    · rw [failed]
      exact Or.inl moved
  | settlePublish found idle => exact Or.inl (settlePublish_tame owned found idle)
  | settled found idle => exact Or.inl (settled_tame owned _ idle)
  | close cancelActive strictBusy idle => exact Or.inl (close_tame owned cancelActive strictBusy)
  | closeEnd claim ends =>
    refine Or.inl (closeEnd_tame owned claim fun turn same live => ends ?_)
    simpa [same] using live
  | closeAbort => exact Or.inl (closeAbort_tame owned)

theorem Owned.step (owned : Owned session)
    (stepped : machine.step session label = some next) : Owned next := by
  rcases step_cases owned stepped with tame | begins
  · exact owned.of_tame tame
  · cases begins with
    | external starts fine scheduling =>
      rcases startError_eq_none fine with ⟨open_, idle, _⟩
      exact owned.begin open_ idle scheduling
    | @followUp turn cancelled result message found fine =>
      rcases startError_eq_none fine with ⟨open_, idle, _⟩
      rcases settling_cases stepped with ⟨_, _, _, loop, _⟩
      have moved : Owned (session.setSettlement turn .publishing) :=
        owned.of_tame (setSettlement_tame owned loop
          (onward_of_found found fun _ => trivial) fun _ =>
            owned.claimed turn _ .following found rfl trivial)
      exact moved.begin open_ idle (Or.inr rfl)

/-- A session on which nothing has been called. -/
def opened (threadId : Text) (steerQueue : Option (List Guidance)) : SessionRuntime :=
  { threadId, steerQueue }

theorem opened_owned (threadId : Text) (steerQueue : Option (List Guidance)) :
    Owned (opened threadId steerQueue) := by
  refine ⟨?_, ?_, ?_, ?_, ?_, ?_, ?_⟩
  · rintro turn ⟨handle, found, _⟩
    cases found
  · rintro ⟨⟩
  · rintro handle ⟨⟩
  · rintro ⟨⟩
  · rintro ⟨⟩
  · rintro turn handle settlement ⟨⟩
  · rintro turn handle ⟨⟩

end SessionRuntime

end Synapse.Turns
