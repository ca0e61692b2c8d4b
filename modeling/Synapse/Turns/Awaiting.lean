import Synapse.Turns.Steps

/-!
# Waiting for an approval

A session waits for the approval of a turn, or is about to resume it. It goes on to do
so until the turn is cancelled, the session is closed or an authorized resume is
started, as long as no step writes over the waiting status or gives up the reservation
of a resume.
-/

namespace Synapse.Turns

namespace SessionRuntime

variable {session next : SessionRuntime} {turn : TurnId}

/-- The turn has ended as waiting for approval, and its settlement has ended. -/
def Paused (session : SessionRuntime) (turn : TurnId) : Prop :=
  ∃ handle, session.turns[turn]? = some handle ∧ handle.result = some .waitingApproval ∧
    (handle.settlement = some .finished ∨ handle.settlement = some .settled)

/-- The reservation of an authorized resume is held. -/
def ResumeReserved (session : SessionRuntime) (turn : TurnId) : Prop :=
  ∃ reservation, session.reservation = some reservation ∧
    reservation.approvalTurnId = some turn ∧
    (session.status = .starting ∨ session.status = .queued)

/-- The session waits for the approval of the turn, or is about to resume it. -/
structure Awaiting (session : SessionRuntime) (turn : TurnId) : Prop where
  activeHandle : session.activeHandle = some turn
  latestHandle : session.latestHandle = some turn
  paused : session.Paused turn
  open_ : session.closed = false
  status : (session.status = .waitingApproval ∧ session.reservation = none) ∨
    session.ResumeReserved turn

/-- The turn is cancelled, the session is closed, or an authorized resume is started. -/
def resolves (session : SessionRuntime) (turn : TurnId) : SessionLabel → Bool
  | .cancelTurn expectedTurnId =>
    match (session.cancelTurn expectedTurnId).2 with
    | .ok (cancelled, requested) => cancelled = turn && requested
    | .error _ => false
  | .close cancelActive strictBusy => (session.close cancelActive strictBusy).1.closed
  | .submit message reservation | .start message reservation =>
    message.approvalResume && (session.startError message reservation none).isNone
  | _ => false

/-- The reservation that is held was made for a resume. -/
def holdsApproval (session : SessionRuntime) : Bool :=
  session.reservation.any (·.approvalTurnId.isSome)

/-- The waiting status is written over, or the reservation of a resume is given up. -/
def overwrites (session : SessionRuntime) : SessionLabel → Bool
  | .reserveTurn => session.status = .waitingApproval && session.unavailable.isNone
  | .markQueued => session.status = .waitingApproval
  | .releaseTurn reservation => session.holdsApproval && session.reservation = some reservation
  | .clearQueued => session.holdsApproval
  | .submit message reservation | .start message reservation =>
    session.holdsApproval && reservation = session.reservation &&
      !(message.approvalResume && (session.startError message reservation none).isNone)
  | _ => false

/-- The approval is pending, and is not put at risk. -/
def Careful (turn : TurnId) (session : SessionRuntime) (label : SessionLabel) : Prop :=
  session.resolves turn label = false ∧ session.overwrites label = false

instance (session : SessionRuntime) (label : SessionLabel) :
    Decidable (Careful turn session label) :=
  inferInstanceAs (Decidable (_ ∧ _))

/-! ### Frames -/

theorem Paused.not_live (paused : session.Paused turn) : ¬session.Live turn := by
  rcases paused with ⟨handle, found, result, _⟩
  rintro ⟨other, stored, running⟩
  obtain rfl := Option.mem_unique found stored
  rw [result] at running
  cases running

theorem Paused.of_turns (paused : session.Paused turn) (same : next.turns = session.turns) :
    next.Paused turn := by
  rw [Paused, same]
  exact paused

variable {other : TurnId}

theorem Paused.of_modify (paused : session.Paused turn) {change : Turn → Turn}
    (turns : next.turns = session.turns.modify other change)
    (keeps : ∀ handle, session.turns[turn]? = some handle → other = turn →
      (change handle).result = handle.result ∧ (change handle).settlement = handle.settlement) :
    next.Paused turn := by
  rcases paused with ⟨handle, found, result, settlement⟩
  by_cases same : other = turn
  · rcases keeps handle found same with ⟨sameResult, sameSettlement⟩
    refine ⟨change handle, ?_, sameResult ▸ result, sameSettlement ▸ settlement⟩
    rw [turns, getElem?_modify, if_pos same, found]
    rfl
  · refine ⟨handle, ?_, result, settlement⟩
    rw [turns, getElem?_modify, if_neg same]
    exact found

/-- A settlement that is still on its way is not the one of the paused turn. -/
theorem Paused.ne_of_found (paused : session.Paused turn) {cancelled : Bool}
    {result : TurnStatus} {settlement : Settlement}
    (found : session.turns[other]? = some ⟨cancelled, some result, some settlement⟩)
    (early : settlement.Claimed) : other ≠ turn := by
  rintro rfl
  rcases paused with ⟨handle, stored, _, late⟩
  obtain rfl := Option.mem_unique found stored
  rcases late with same | same
  · obtain rfl := Option.some.inj same
    exact early
  · obtain rfl := Option.some.inj same
    exact early

theorem Paused.setSettlement_other (paused : session.Paused turn)
    (different : other ≠ turn) (settlement : Settlement) :
    (session.setSettlement other settlement).Paused turn :=
  paused.of_modify rfl fun _ _ same => absurd same different

/-- Only the status and the reservation matter besides the turn itself. -/
theorem Awaiting.of_same (awaiting : Awaiting session turn) (paused : next.Paused turn)
    (activeHandle : next.activeHandle = session.activeHandle)
    (latestHandle : next.latestHandle = session.latestHandle)
    (closed : next.closed = session.closed) (status : next.status = session.status)
    (reservation : next.reservation = session.reservation) : Awaiting next turn where
  activeHandle := activeHandle.trans awaiting.activeHandle
  latestHandle := latestHandle.trans awaiting.latestHandle
  paused := paused
  open_ := closed.trans awaiting.open_
  status := by
    rw [ResumeReserved, status, reservation]
    exact awaiting.status

theorem Awaiting.hasLiveTurn (awaiting : Awaiting session turn) : ¬session.HasLiveTurn := by
  rintro ⟨other, active, live⟩
  obtain rfl := Option.mem_unique awaiting.activeHandle active
  exact awaiting.paused.not_live live

theorem ResumeReserved.holdsApproval (reserved : session.ResumeReserved turn) :
    session.holdsApproval = true := by
  rcases reserved with ⟨reservation, held, approval, _⟩
  simp [SessionRuntime.holdsApproval, held, approval]

/-! ### Steps -/

variable {reservation : Option TurnReservation}

theorem Awaiting.abandon (awaiting : Awaiting session turn)
    (kept : session.holdsApproval = true → reservation ≠ session.reservation) :
    session.abandon reservation = session := by
  unfold SessionRuntime.abandon
  refine if_neg fun held => ?_
  rcases awaiting.status with ⟨_, none⟩ | reserved
  · exact held.1 (held.2 ▸ none)
  · exact kept reserved.holdsApproval held.2.symm

/-- A start that is no authorized resume is refused, and leaves the session as it is. -/
theorem Awaiting.start_eq (awaiting : Awaiting session turn) {message : UserTurn}
    (pending : (message.approvalResume && (session.startError message reservation none).isNone) =
      false)
    (kept : (session.holdsApproval && reservation = session.reservation &&
      !(message.approvalResume && (session.startError message reservation none).isNone)) = false) :
    session.startError message reservation none ≠ none ∧
      session.abandon reservation = session := by
  rw [pending] at kept
  have other : session.holdsApproval = true → reservation ≠ session.reservation := by
    intro holds same
    simp [holds, same] at kept
  refine ⟨fun fine => ?_, awaiting.abandon other⟩
  rcases startError_eq_none fine with ⟨_, _, waiting, _, same, _⟩
  rcases awaiting.status with ⟨paused, _⟩ | reserved
  · rw [waiting paused, fine] at pending
    cases pending
  · exact other reserved.holdsApproval same.symm

theorem Awaiting.settleFollow_eq (awaiting : Awaiting session turn) {message : UserTurn}
    {owner : TurnId} : session.startError message none (some owner) ≠ none := by
  intro fine
  rcases startError_eq_none fine with ⟨_, _, waiting, _, same, authorized⟩
  rcases awaiting.status with ⟨paused, _⟩ | ⟨reservation, held, _⟩
  · cases authorized (waiting paused)
  · rw [held] at same
    cases same

/-- A session that waits is reserved for a resume of its turn only. -/
theorem Awaiting.reserveTurnOrRaise (awaiting : Awaiting session turn) (approvalResume : Bool)
    (approvalClaim : Option (ℕ × ℕ)) :
    Awaiting (session.reserveTurnOrRaise approvalResume approvalClaim).1 turn := by
  unfold SessionRuntime.reserveTurnOrRaise
  split
  · exact awaiting
  case h_2 free =>
    have waiting : session.status = .waitingApproval := by
      rcases awaiting.status with ⟨waiting, _⟩ | ⟨reservation, held, _⟩
      · exact waiting
      · rw [(unavailable_eq_none free).2.1] at held
        cases held
    split
    · split
      case h_1 approved claim found =>
        have same : approved = turn := by
          simp only [approvedTurn, awaiting.activeHandle] at found
          rcases Option.ite_none_right_eq_some.mp found with ⟨_, found⟩
          exact (Option.some.inj found).symm
        refine { awaiting with status := Or.inr ⟨_, rfl, ?_, Or.inl rfl⟩ }
        rw [same]
      · exact awaiting
    · exact awaiting

theorem Awaiting.markQueued (awaiting : Awaiting session turn)
    (reserved : session.status ≠ .waitingApproval) :
    Awaiting session.markQueued.1 turn := by
  unfold SessionRuntime.markQueued
  split
  · exact awaiting
  split
  · exact awaiting
  · rcases awaiting.status with ⟨waiting, _⟩ | ⟨reservation, held, approval, _⟩
    · exact absurd waiting reserved
    · exact { awaiting with status := Or.inr ⟨reservation, held, approval, Or.inr rfl⟩ }

theorem Awaiting.markStarting (awaiting : Awaiting session turn) :
    Awaiting session.markStarting.1 turn := by
  unfold SessionRuntime.markStarting
  split
  · exact awaiting
  case isFalse queued =>
    rcases awaiting.status with ⟨waiting, _⟩ | ⟨reservation, held, approval, _⟩
    · rw [not_not.mp queued] at waiting
      cases waiting
    · exact { awaiting with status := Or.inr ⟨reservation, held, approval, Or.inl rfl⟩ }

/-- A cancel of another turn, or of one that is about to be resumed, is refused. -/
theorem Awaiting.cancelTurn (awaiting : Awaiting session turn) {expectedTurnId : TurnId}
    (pending : session.resolves turn (.cancelTurn expectedTurnId) = false) :
    (session.cancelTurn expectedTurnId).1 = session := by
  have idle := awaiting.paused.not_live
  simp only [resolves] at pending
  unfold SessionRuntime.cancelTurn at pending ⊢
  rw [if_neg (by simp [awaiting.open_])] at pending ⊢
  simp only [awaiting.activeHandle] at pending ⊢
  split
  · rfl
  case isFalse paused =>
    rw [if_neg paused] at pending
    split
    · rfl
    case isFalse same =>
      rw [if_neg same] at pending
      split
      · rfl
      case isFalse uncancelled =>
        rw [if_neg uncancelled] at pending
        split
        case isTrue waiting =>
          rw [if_pos waiting] at pending
          simp at pending
        case isFalse running =>
          exact absurd ⟨idle, running⟩ paused

theorem Awaiting.close (awaiting : Awaiting session turn) {cancelActive strictBusy : Bool}
    (pending : (session.close cancelActive strictBusy).1.closed = false) :
    (session.close cancelActive strictBusy).1 = session := by
  unfold SessionRuntime.close at pending ⊢
  rw [if_neg (by simp [awaiting.open_])] at pending ⊢
  split
  · rfl
  case h_2 fine =>
    rw [fine] at pending
    dsimp only at pending
    split at pending
    · split at pending
      · cases pending
      · cases pending
    · cases pending

theorem Awaiting.of_settle (awaiting : Awaiting session turn)
    (different : other ≠ turn) (settlement : Settlement) :
    Awaiting (session.setSettlement other settlement) turn :=
  awaiting.of_same (awaiting.paused.setSettlement_other different settlement) rfl rfl rfl rfl rfl

theorem Awaiting.scheduleSettlement (awaiting : Awaiting session turn) (owned : Owned session)
    {other : TurnId} (started : session.loop = some other) :
    Awaiting { session.scheduleSettlement other with loop := none } turn := by
  have different : other ≠ turn := by
    rintro rfl
    rcases awaiting.paused with ⟨handle, found, _, phase | phase⟩
    · rw [owned.loop other handle started found] at phase
      cases phase
    · rw [owned.loop other handle started found] at phase
      cases phase
  exact awaiting.of_same (awaiting.paused.setSettlement_other different .waiting)
    rfl rfl rfl rfl rfl

/-- The settlements of other turns neither publish a status nor start a turn. -/
theorem Awaiting.settle (awaiting : Awaiting session turn)
    {label : SessionLabel} (stepped : machine.step session label = some next) :
    (∃ other, label = .settleClear other ∨ (∃ active, label = .settleGoal other active) ∨
      (∃ message, label = .settleFollow other message) ∨ label = .settlePublish other ∨
      label = .settled other) → Awaiting next turn := by
  rintro ⟨other, rfl | ⟨active, rfl⟩ | ⟨message, rfl⟩ | rfl | rfl⟩
  · rcases settling_cases stepped with ⟨_, result, found, _, rfl⟩
    have different := awaiting.paused.ne_of_found found trivial
    have cleared : Awaiting (session.clearSilent.setSettlement other .cleared) turn :=
      awaiting.of_same (awaiting.paused.of_modify rfl fun _ _ same => absurd same different)
        rfl rfl rfl rfl rfl
    unfold settleClear
    dsimp only
    rw [if_neg]
    · exact cleared
    · rintro ⟨active, _⟩
      exact different (Option.mem_unique active awaiting.activeHandle)
  · rcases settling_cases stepped with ⟨_, result, found, _, rfl⟩
    exact awaiting.of_settle (awaiting.paused.ne_of_found found trivial) _
  · rcases settling_cases stepped with ⟨_, result, found, _, rfl⟩
    have moved := awaiting.of_settle (awaiting.paused.ne_of_found found trivial) .publishing
    rcases startOnLoop_cases (session.setSettlement other .publishing) message none (some other) with
      ⟨fine, _⟩ | refused
    · exact absurd fine moved.settleFollow_eq
    · rw [refused]
      exact moved
  · rcases settling_cases stepped with ⟨_, result, found, _, rfl⟩
    have different := awaiting.paused.ne_of_found found trivial
    unfold settlePublish
    dsimp only
    rw [if_neg]
    · exact awaiting.of_settle different .finished
    · rintro ⟨_, latest, _⟩
      exact different (Option.mem_unique latest awaiting.latestHandle)
  · rcases settling_cases stepped with ⟨cancelled, result, found, _, rfl⟩
    refine awaiting.of_same ?_ rfl rfl rfl rfl rfl
    rcases awaiting.paused with ⟨handle, stored, waiting, late⟩
    by_cases same : other = turn
    · refine ⟨{ handle with settlement := some .settled }, ?_, waiting, Or.inr rfl⟩
      refine (setSettlement_turns session other turn .settled).trans ?_
      rw [if_pos same, stored]
      rfl
    · refine ⟨handle, ?_, waiting, late⟩
      refine (setSettlement_turns session other turn .settled).trans ?_
      rw [if_neg same]
      exact stored

theorem Awaiting.step (owned : Owned session) (awaiting : Awaiting session turn)
    {label : SessionLabel} (careful : Careful turn session label)
    (stepped : machine.step session label = some next) : Awaiting next turn := by
  rcases careful with ⟨pending, kept⟩
  have frame : ∀ {other : SessionRuntime}, other.turns = session.turns →
      other.activeHandle = session.activeHandle → other.latestHandle = session.latestHandle →
      other.closed = session.closed → other.status = session.status →
      other.reservation = session.reservation → Awaiting other turn := fun turns =>
    awaiting.of_same (awaiting.paused.of_turns turns)
  have settles := awaiting.settle stepped
  cases label with
  | submit message reservation =>
    simp only [machine, SessionRuntime.step] at stepped
    split at stepped
    case isTrue =>
      cases stepped
      rcases awaiting.start_eq pending kept with ⟨refused, same⟩
      rcases startOnLoop_cases session message reservation none with ⟨fine, _⟩ | failed
      · exact absurd fine refused
      · rw [failed, same]
        exact awaiting
    case isFalse => cases stepped
  | start message reservation =>
    cases stepped
    rcases awaiting.start_eq pending kept with ⟨refused, same⟩
    rcases start_cases session message reservation none with ⟨fine, _⟩ | ⟨_, _, failed⟩
    · exact absurd fine refused
    · rw [failed, same]
      exact awaiting
  | scheduleSettlement =>
    rcases Option.map_eq_some_iff.mp stepped with ⟨other, started, rfl⟩
    exact awaiting.scheduleSettlement owned started
  | reserveTurn =>
    cases stepped
    unfold SessionRuntime.reserveTurn
    split
    · exact awaiting
    case h_2 free =>
      rcases awaiting.status with ⟨waiting, _⟩ | ⟨reservation, held, _⟩
      · simp [overwrites, waiting, free] at kept
      · rw [(unavailable_eq_none free).2.1] at held
        cases held
  | reserveTurnOrRaise approvalResume approvalClaim =>
    cases stepped
    exact awaiting.reserveTurnOrRaise approvalResume approvalClaim
  | releaseTurn reservation =>
    cases stepped
    unfold SessionRuntime.releaseTurn
    split
    · exact awaiting
    case isFalse held =>
      rw [not_not] at held
      rcases awaiting.status with ⟨_, none⟩ | reserved
      · rw [held] at none
        cases none
      · simp [overwrites, reserved.holdsApproval, held] at kept
  | markQueued =>
    cases stepped
    exact awaiting.markQueued (by simpa [overwrites] using kept)
  | clearQueued =>
    cases stepped
    unfold SessionRuntime.clearQueued
    split
    case isTrue queued =>
      rcases awaiting.status with ⟨waiting, _⟩ | reserved
      · rw [waiting] at queued
        rcases queued with ⟨⟨⟩⟩ | ⟨⟨⟩⟩
      · simp [overwrites, reserved.holdsApproval] at kept
    case isFalse => exact awaiting
  | markStarting =>
    cases stepped
    exact awaiting.markStarting
  | buildApprovalResume expectedTurnId present =>
    cases stepped
    unfold SessionRuntime.buildApprovalResume
    split
    · exact awaiting
    split
    · exact awaiting
    split
    · exact awaiting
    split
    · exact awaiting
    · exact frame rfl rfl rfl rfl rfl rfl
  | takeApprovalClaim expectedTurnId =>
    cases stepped
    unfold SessionRuntime.takeApprovalClaim
    split
    · exact awaiting
    split
    · exact awaiting
    · exact frame rfl rfl rfl rfl rfl rfl
  | cancelTurn expectedTurnId =>
    cases stepped
    rw [awaiting.cancelTurn pending]
    exact awaiting
  | steerTurn expectedTurnId text =>
    cases stepped
    have refused : (session.steerTurn expectedTurnId text).1 = session := by
      unfold SessionRuntime.steerTurn
      dsimp only
      rw [if_neg (by simp [awaiting.open_])]
      simp only [awaiting.activeHandle]
      rw [if_pos awaiting.paused.not_live]
      rfl
    rw [refused]
    exact awaiting
  | drain other =>
    rcases of_guard stepped with ⟨_, rfl⟩
    exact frame rfl rfl rfl rfl rfl rfl
  | finish other result =>
    simp only [machine, SessionRuntime.step] at stepped
    split at stepped
    case isTrue live =>
      cases stepped
      refine awaiting.of_same (awaiting.paused.of_modify rfl fun _ _ same => ?_)
        rfl rfl rfl rfl rfl
      exact absurd (same ▸ live) awaiting.paused.not_live
    case isFalse => cases stepped
  | cancelToken other =>
    cases stepped
    exact awaiting.of_same (awaiting.paused.of_modify rfl fun _ _ _ => ⟨rfl, rfl⟩)
      rfl rfl rfl rfl rfl
  | settleClear other => exact settles ⟨other, Or.inl rfl⟩
  | settleGoal other active => exact settles ⟨other, Or.inr (Or.inl ⟨active, rfl⟩)⟩
  | settleFollow other message => exact settles ⟨other, Or.inr (Or.inr (Or.inl ⟨message, rfl⟩))⟩
  | settlePublish other => exact settles ⟨other, Or.inr (Or.inr (Or.inr (Or.inl rfl)))⟩
  | settled other => exact settles ⟨other, Or.inr (Or.inr (Or.inr (Or.inr rfl)))⟩
  | close cancelActive strictBusy =>
    rcases of_guard stepped with ⟨_, rfl⟩
    rw [awaiting.close pending]
    exact awaiting
  | closeEnd =>
    simp only [machine, SessionRuntime.step] at stepped
    split at stepped
    case h_1 handle claim =>
      have closed := (owned.closeClaim handle claim).1
      rw [awaiting.open_] at closed
      cases closed
    case h_2 => cases stepped
  | closeAbort =>
    cases stepped
    exact frame rfl rfl rfl rfl rfl rfl

end SessionRuntime

end Synapse.Turns
