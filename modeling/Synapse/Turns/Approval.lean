import Synapse.Turns.Awaiting

/-!
# Pending approvals

A session that has the waiting status waits for the approval of its active turn. As
long as it does, the turn can be resumed.
-/

namespace Synapse.Turns

namespace SessionRuntime

variable {session next : SessionRuntime} {turn : TurnId}

/-! ### How a session comes to wait -/

/-- A session that waits has a pending turn, and a turn that is about to be published as waiting
is still the active one. -/
structure Pausing (session : SessionRuntime) : Prop where
  waiting : session.status = .waitingApproval → session.closed = false →
    ∃ turn, Awaiting session turn
  active : ∀ turn handle, session.latestHandle = some turn → session.turns[turn]? = some handle →
    handle.result = none ∨ handle.result = some .waitingApproval →
    handle.settlement = some .finished ∨ handle.settlement = some .settled ∨
      session.activeHandle = some turn

theorem Pausing.quiet (pausing : Pausing session) (quiet : Quiet session next) : Pausing next := by
  refine ⟨fun waits open_ => ?_, ?_⟩
  · rcases quiet.status with same | ⟨other, _⟩
    · rcases pausing.waiting (same ▸ waits) (quiet.closed ▸ open_) with ⟨turn, awaiting⟩
      refine ⟨turn, quiet.activeHandle.trans awaiting.activeHandle,
        quiet.latestHandle.trans awaiting.latestHandle, awaiting.paused.of_turns quiet.turns, open_,
        Or.inl ⟨waits, ?_⟩⟩
      rcases awaiting.status with ⟨_, none⟩ | ⟨_, _, _, starting | queued⟩
      · rcases quiet.reservation with kept | none | ⟨_, _, starting⟩
        · exact kept.trans none
        · exact none
        · rw [waits] at starting
          cases starting
      · rw [← same, waits] at starting
        cases starting
      · rw [← same, waits] at queued
        cases queued
    · exact absurd waits other
  · rw [quiet.latestHandle, quiet.turns, quiet.activeHandle]
    exact pausing.active

theorem Pausing.begin {message : UserTurn} {loop : Option TurnId}
    (same : next = { session.begin message with loop := loop }) : Pausing next := by
  subst same
  refine ⟨fun waits => ?_, ?_⟩
  · cases waits
  · intro turn handle latest found _
    exact Or.inr (Or.inr latest)

variable {other : TurnId}

/-- A turn is changed in the list, and the active and the latest handle are kept. -/
theorem Pausing.modify (pausing : Pausing session)
    {change : Turn → Turn} (turns : next.turns = session.turns.modify other change)
    (results : ∀ handle, session.turns[other]? = some handle →
      ((change handle).result = none ∨ (change handle).result = some .waitingApproval →
        (handle.result = none ∨ handle.result = some .waitingApproval)))
    (settlements : ∀ handle, session.turns[other]? = some handle →
      handle.settlement = some .finished ∨ handle.settlement = some .settled →
      (change handle).settlement = some .finished ∨ (change handle).settlement = some .settled)
    (latestHandle : next.latestHandle = session.latestHandle)
    (activeHandle : next.activeHandle = session.activeHandle)
    (waiting : next.status = .waitingApproval → next.closed = false →
      ∃ turn, Awaiting next turn) : Pausing next := by
  refine ⟨waiting, ?_⟩
  intro turn handle latest found waits
  rw [latestHandle] at latest
  rw [activeHandle]
  rw [turns, getElem?_modify] at found
  split at found
  case isTrue same =>
    rcases Option.map_eq_some_iff.mp found with ⟨before, stored, rfl⟩
    rcases pausing.active turn before latest stored (results before (same ▸ stored) waits) with
      finished | settled | active
    · rcases settlements before (same ▸ stored) (Or.inl finished) with finished | settled
      · exact Or.inl finished
      · exact Or.inr (Or.inl settled)
    · rcases settlements before (same ▸ stored) (Or.inr settled) with finished | settled
      · exact Or.inl finished
      · exact Or.inr (Or.inl settled)
    · exact Or.inr (Or.inr active)
  case isFalse => exact pausing.active turn handle latest found waits

variable {result : TurnStatus} {cancelled : Bool}

/-- A settlement moves on, but for the section that publishes the result. -/
theorem Pausing.settle (pausing : Pausing session) {before after : Settlement}
    (found : session.turns[other]? = some ⟨cancelled, some result, some before⟩)
    (early : before.Claimed)
    (turns : next.turns = session.turns.modify other ({ · with settlement := some after }))
    (latestHandle : next.latestHandle = session.latestHandle)
    (activeHandle : next.activeHandle = session.activeHandle)
    (closed : next.closed = session.closed) (status : next.status = session.status)
    (reservation : next.reservation = session.reservation) : Pausing next := by
  have late : ∀ handle, session.turns[other]? = some handle →
      ¬(handle.settlement = some .finished ∨ handle.settlement = some .settled) := by
    intro handle stored phase
    obtain rfl := Option.mem_unique found stored
    rcases phase with same | same
    · obtain rfl := Option.some.inj same
      exact early
    · obtain rfl := Option.some.inj same
      exact early
  refine ⟨fun waits open_ => ?_, ?_⟩
  · rcases pausing.waiting (status ▸ waits) (closed ▸ open_) with ⟨turn, awaiting⟩
    have different := awaiting.paused.ne_of_found found early
    exact ⟨turn, awaiting.of_same (awaiting.paused.of_modify turns fun _ _ same =>
      absurd same different) activeHandle latestHandle closed status reservation⟩
  · intro turn handle latest stored waits
    rw [latestHandle] at latest
    rw [activeHandle]
    rw [turns, getElem?_modify] at stored
    split at stored
    case isTrue same =>
      subst same
      rcases Option.map_eq_some_iff.mp stored with ⟨old, kept, rfl⟩
      rcases pausing.active other old latest kept waits with finished | settled | active
      · exact absurd (Or.inl finished) (late old kept)
      · exact absurd (Or.inr settled) (late old kept)
      · exact Or.inr (Or.inr active)
    case isFalse => exact pausing.active turn handle latest stored waits

theorem Pausing.settleClear (pausing : Pausing session)
    (found : session.turns[turn]? = some ⟨cancelled, some result, some .waiting⟩) :
    Pausing (session.settleClear turn result) := by
  unfold SessionRuntime.settleClear
  dsimp only
  split
  case isFalse other =>
    exact pausing.settle found trivial rfl rfl rfl rfl rfl rfl
  case isTrue own =>
    refine ⟨fun waits open_ => ?_, ?_⟩
    · rcases pausing.waiting waits open_ with ⟨pending, awaiting⟩
      obtain rfl := Option.mem_unique own.1 awaiting.activeHandle
      exact absurd rfl (awaiting.paused.ne_of_found found trivial)
    · intro latest handle newest stored waits
      have kept := setSettlement_turns session.clearSilent turn latest .cleared
      rw [show _ = some handle from stored] at kept
      split at kept
      case isTrue same =>
        -- The active handle is given up, but its result is not waiting.
        subst same
        rw [show session.clearSilent.turns[turn]? = _ from found] at kept
        obtain rfl := Option.some.inj kept
        rcases waits with ⟨⟨⟩⟩ | waits
        exact absurd (Option.some.inj waits) own.2
      case isFalse different =>
        rcases pausing.active latest handle newest kept.symm waits with finished | settled | active
        · exact Or.inl finished
        · exact Or.inr (Or.inl settled)
        · exact absurd (Option.mem_unique own.1 active) different

theorem Pausing.settlePublish (pausing : Pausing session)
    (found : session.turns[turn]? = some ⟨cancelled, some result, some .publishing⟩) :
    Pausing (session.settlePublish turn result) := by
  unfold SessionRuntime.settlePublish
  dsimp only
  split
  case isFalse kept =>
    exact pausing.settle found trivial rfl rfl rfl rfl rfl rfl
  case isTrue publishes =>
    rcases publishes with ⟨open_, latest, _, unreserved⟩
    have ended : session.turns[turn]?.map ({ · with settlement := some .finished }) =
        some ⟨cancelled, some result, some .finished⟩ := by
      rw [found]
      rfl
    have published := setSettlement_turns session turn turn .finished
    rw [if_pos rfl, ended] at published
    refine ⟨fun waits _ => ⟨turn, ?_⟩, ?_⟩
    · have waiting : result = .waitingApproval := by
        cases result with
        | waitingApproval => rfl
        | completed => cases waits
        | cancelled => cases waits
        | failed => cases waits
      subst waiting
      rcases pausing.active turn _ latest found (Or.inr rfl) with ⟨⟨⟩⟩ | ⟨⟨⟩⟩ | active
      exact ⟨active, latest, ⟨_, published, rfl, Or.inl rfl⟩, open_, Or.inl ⟨waits, unreserved⟩⟩
    · intro other handle newest stored _
      obtain rfl := Option.mem_unique latest newest
      obtain rfl := Option.mem_unique published stored
      exact Or.inl rfl

theorem Pausing.cancelTurn (pausing : Pausing session) (expectedTurnId : TurnId) :
    Pausing (session.cancelTurn expectedTurnId).1 := by
  unfold SessionRuntime.cancelTurn
  split
  · exact pausing
  case isFalse open_ =>
    split
    · exact pausing
    case h_2 turn active =>
      dsimp only
      split
      · exact pausing
      split
      · exact pausing
      split
      · exact pausing
      split
      case isTrue paused =>
        refine ⟨fun waits => ?_, ?_⟩
        · cases waits
        · intro latest handle newest stored _
          rcases pausing.waiting paused (by simpa using open_) with ⟨pending, awaiting⟩
          obtain rfl := Option.mem_unique awaiting.latestHandle newest
          have kept : (session.setCancelled turn).Paused pending :=
            awaiting.paused.of_modify rfl fun _ _ _ => ⟨rfl, rfl⟩
          rcases kept with ⟨other, found, _, finished | settled⟩
          · obtain rfl := Option.mem_unique found stored
            exact Or.inl finished
          · obtain rfl := Option.mem_unique found stored
            exact Or.inr (Or.inl settled)
      case isFalse =>
        refine pausing.modify rfl (fun _ _ => id) (fun _ _ => id) rfl rfl ?_
        intro waits
        cases waits

theorem Pausing.close (pausing : Pausing session) (cancelActive strictBusy : Bool) :
    Pausing (session.close cancelActive strictBusy).1 := by
  unfold SessionRuntime.close
  split
  · exact pausing
  case isFalse open_ =>
    split
    · exact pausing
    · dsimp only
      split
      case h_1 turn _ =>
        split
        · refine pausing.modify rfl (fun _ _ => id) (fun _ _ => id) rfl rfl ?_
          intro waits
          cases waits
        · refine ⟨fun _ open_ => ?_, pausing.active⟩
          cases open_
      case h_2 =>
        refine ⟨fun _ open_ => ?_, pausing.active⟩
        cases open_

theorem Pausing.step (owned : Owned session) (pausing : Pausing session) {label : SessionLabel}
    (stepped : machine.step session label = some next) : Pausing next := by
  cases stepped_of_step stepped with
  | call silent => exact pausing.quiet silent.toQuiet
  | submit message reservation idle =>
    rcases startOnLoop_cases session message reservation none with ⟨_, started⟩ | failed
    · exact .begin started
    · exact pausing.quiet (failed ▸ (abandon_silent session reservation).toQuiet)
  | start message reservation =>
    rcases start_cases session message reservation none with ⟨_, started⟩ | ⟨_, _, failed⟩
    · exact .begin (congrArg Prod.fst started)
    · exact pausing.quiet (failed ▸ (abandon_silent session reservation).toQuiet)
  | @scheduleSettlement turn started =>
    refine pausing.modify rfl (fun _ _ => id) ?_ rfl rfl fun waits open_ => ?_
    · intro handle found phase
      rw [owned.loop turn handle started found] at phase
      rcases phase with ⟨⟨⟩⟩ | ⟨⟨⟩⟩
    · rcases pausing.waiting waits open_ with ⟨pending, awaiting⟩
      exact ⟨pending, awaiting.scheduleSettlement owned started⟩
  | cancelTurn expectedTurnId => exact pausing.cancelTurn expectedTurnId
  | steerTurn expectedTurnId text => exact pausing.quiet (steerTurn_quiet session expectedTurnId text)
  | drain turn => exact pausing.quiet (drain_quiet session turn)
  | finish result live =>
    refine pausing.modify rfl ?_ (fun _ _ => id) rfl rfl fun waits open_ => ?_
    · intro handle found _
      rcases live with ⟨other, stored, running⟩
      obtain rfl := Option.mem_unique stored found
      exact Or.inl running
    · rcases pausing.waiting waits open_ with ⟨pending, awaiting⟩
      refine ⟨pending, awaiting.of_same (awaiting.paused.of_modify rfl fun _ _ same => ?_)
        rfl rfl rfl rfl rfl⟩
      exact absurd (same ▸ live) awaiting.paused.not_live
  | cancelToken turn =>
    refine pausing.modify rfl (fun _ _ => id) (fun _ _ => id) rfl rfl
      fun waits open_ => ?_
    rcases pausing.waiting waits open_ with ⟨pending, awaiting⟩
    exact ⟨pending, awaiting.of_same (awaiting.paused.of_modify rfl fun _ _ _ => ⟨rfl, rfl⟩)
      rfl rfl rfl rfl rfl⟩
  | settleClear found idle => exact pausing.settleClear found
  | settleGoal active found idle => exact pausing.settle found trivial rfl rfl rfl rfl rfl rfl
  | @settleFollow turn _ _ message found idle =>
    rcases startOnLoop_cases (session.setSettlement turn .publishing) message none (some turn) with
      ⟨_, started⟩ | failed
    · exact .begin started
    · rw [failed]
      exact pausing.settle found trivial rfl rfl rfl rfl rfl rfl
  | settlePublish found idle => exact pausing.settlePublish found
  | @settled turn _ _ found idle =>
    refine pausing.modify rfl (fun _ _ => id) (fun _ _ _ => Or.inr rfl) rfl rfl
      fun waits open_ => ?_
    rcases pausing.waiting waits open_ with ⟨pending, awaiting⟩
    exact ⟨pending, awaiting.settle stepped ⟨turn, Or.inr (Or.inr (Or.inr (Or.inr rfl)))⟩⟩
  | close cancelActive strictBusy idle => exact pausing.close cancelActive strictBusy
  | closeEnd claim ends =>
    refine ⟨fun waits => ?_, ?_⟩
    · cases waits
    · exact nofun
  | closeAbort =>
    refine ⟨fun waits open_ => ?_, pausing.active⟩
    rcases pausing.waiting waits open_ with ⟨pending, awaiting⟩
    exact ⟨pending, awaiting.of_same (awaiting.paused.of_turns rfl) rfl rfl rfl rfl rfl⟩

theorem pausing_of_run {threadId : Text} {steerQueue : Option (List Guidance)}
    {labels : List SessionLabel}
    (ran : machine.run (opened threadId steerQueue) labels = some session) :
    Owned session ∧ Pausing session := by
  refine @Machine.run_invariant _ _ machine (fun session => Owned session ∧ Pausing session)
    (fun holds stepped => ⟨holds.1.step stepped, holds.2.step holds.1 stepped⟩) _ _ _
    ⟨opened_owned threadId steerQueue, ?_, ?_⟩ ran
  · intro waits
    cases waits
  · intro turn handle latest
    cases latest

/-! ### Resuming -/

/-- When nothing else holds the session, the calls of a resume start a turn. -/
def Resumable (session : SessionRuntime) (turn : TurnId) : Prop :=
  session.reservation = none → session.settlingHandles = [] →
    ∃ resumed, machine.run session
        [.buildApprovalResume turn true, .takeApprovalClaim turn,
          .reserveTurnOrRaise true (some (session.tokens, session.turnGeneration)),
          .start { approvalResume := true } (some
            { threadId := session.threadId, token := session.tokens, approvalTurnId := some turn
              approvalGeneration := some session.turnGeneration })] = some resumed ∧
      resumed.turns.length = session.turns.length + 1

theorem Awaiting.resumable (awaiting : Awaiting session turn) : Resumable session turn := by
  intro unreserved unclaimed
  have waits : session.status = .waitingApproval := by
    rcases awaiting.status with ⟨waits, _⟩ | ⟨reservation, held, _⟩
    · exact waits
    · rw [unreserved] at held
      cases held
  have idle := awaiting.paused.not_live
  have built : (session.buildApprovalResume turn true).1 =
      { session with
        approvalClaim := some ⟨session.tokens, turn, session.turnGeneration⟩
        tokens := session.tokens + 1 } := by
    simp [SessionRuntime.buildApprovalResume, awaiting.activeHandle, waits]
  let claimed : SessionRuntime :=
    { session with
      tokens := session.tokens + 1
      approvalClaim := none
      consumedApprovalClaim := some (session.tokens, session.turnGeneration) }
  have stillIdle : ¬claimed.Live turn := idle
  have quietly : ¬claimed.HasLiveTurn := awaiting.hasLiveTurn
  have taken : ((session.buildApprovalResume turn true).1.takeApprovalClaim turn).1 = claimed := by
    rw [built]
    simp [SessionRuntime.takeApprovalClaim, claimed]
  let reservation : TurnReservation :=
    { threadId := session.threadId, token := session.tokens, approvalTurnId := some turn
      approvalGeneration := some session.turnGeneration }
  have free : claimed.unavailable = none := by
    have open_ : claimed.closed = false := awaiting.open_
    have none : claimed.reservation = none := unreserved
    have settled : claimed.settlingHandles = [] := unclaimed
    simp [SessionRuntime.unavailable, open_, none, settled, quietly]
  have approved : claimed.approvedTurn (some (session.tokens, session.turnGeneration)) =
      some turn := by
    have active : claimed.activeHandle = some turn := awaiting.activeHandle
    have waiting : claimed.status = .waitingApproval := waits
    simp only [approvedTurn, active]
    exact if_pos ⟨waiting, stillIdle, rfl, rfl⟩
  have reserved : (claimed.reserveTurnOrRaise true
      (some (session.tokens, session.turnGeneration))).1 = claimed.reserve reservation := by
    simp only [SessionRuntime.reserveTurnOrRaise, free, approved, if_true]
    rfl
  have fine : (claimed.reserve reservation).startError { approvalResume := true }
      (some reservation) none = none := by
    have open_ : (claimed.reserve reservation).closed = false := awaiting.open_
    have noLive : ¬(claimed.reserve reservation).HasLiveTurn := awaiting.hasLiveTurn
    have settled : (claimed.reserve reservation).settlingHandles = [] := unclaimed
    have held : (claimed.reserve reservation).reservation = some reservation := rfl
    have thread : (claimed.reserve reservation).threadId = reservation.threadId := rfl
    have authorized : (claimed.reserve reservation).authorizes (some reservation) = true := by
      simp [authorizes, SessionRuntime.reserve, claimed, reservation]
    simp [startError, open_, noLive, settled, held, thread, authorized]
  refine ⟨(claimed.reserve reservation).begin { approvalResume := true }, ?_, ?_⟩
  · refine Machine.run_cons.mpr ⟨_, rfl, Machine.run_cons.mpr ⟨claimed, congrArg some taken,
      Machine.run_cons.mpr ⟨claimed.reserve reservation, congrArg some reserved,
        Machine.run_cons.mpr ⟨_, ?_, rfl⟩⟩⟩⟩
    have started : (claimed.reserve reservation).start { approvalResume := true }
        (some reservation) none = ((claimed.reserve reservation).begin { approvalResume := true },
          .ok (claimed.reserve reservation).turns.length) := by
      rw [SessionRuntime.start, fine]
    exact congrArg (fun outcome : Outcome TurnId => some outcome.1) started
  · exact begin_length _ _

/-- The first turn settles as waiting for approval. -/
def pausedLabels : List SessionLabel :=
  [.submit {} none, .scheduleSettlement, .finish 0 .waitingApproval, .settleClear 0,
    .settleGoal 0 false, .settlePublish 0]

/-- A resume that is queued. -/
def resumeLabels : List SessionLabel :=
  [.buildApprovalResume 0 true, .takeApprovalClaim 0, .reserveTurnOrRaise true (some (0, 1)),
    .markQueued]

end SessionRuntime

end Synapse.Turns
