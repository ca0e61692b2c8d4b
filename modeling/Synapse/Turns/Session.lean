import Synapse.Foundation.Machine
import Synapse.Python.Text

/-!
# The runtime of a session

`SessionRuntime` owns the turns of one session. Each section under its lock is one
function; between two sections of a call, other callers and the turns may move.

A turn is named by its number in the order of the starts, and a token by its number
in the order of the draws; both stand for ids that are drawn at random. What the
turns did and what observers are told is left out.
-/

namespace Synapse.Turns

inductive SessionStatus where
  | idle | queued | starting | running | waitingApproval | cancelling | cancelled | failed | closed
  deriving DecidableEq, Repr

/-- The statuses that a result can have. -/
inductive TurnStatus where
  | completed | cancelled | waitingApproval | failed
  deriving DecidableEq, Repr

def TurnStatus.sessionStatus : TurnStatus → SessionStatus
  | .completed => .idle
  | .cancelled => .cancelled
  | .waitingApproval => .waitingApproval
  | .failed => .failed

inductive SessionError where
  | runtimeClosed (message : String)
  | sessionBusy (message : String)
  | noActiveTurn (message : String)
  | turnMismatch (message : String)
  | steeringUnavailable (message : String)
  | runtimeError (message : String)
  | valueError (message : String)
  deriving DecidableEq, Repr

abbrev TurnId := ℕ

/-- How far the settlement of a turn has come. -/
inductive Settlement where
  /-- The task waits for the turn and persists its result. -/
  | waiting
  /-- The guidance of the turn is cleared. -/
  | cleared
  /-- A goal follow-up is about to be started. -/
  | following
  | publishing
  /-- The task has ended, but its callback has not run. -/
  | finished
  | settled
  deriving DecidableEq, Repr

/-- A turn handle, with the settlement that was scheduled for it. -/
structure Turn where
  cancelled : Bool
  result : Option TurnStatus := none
  settlement : Option Settlement := none
  deriving DecidableEq, Repr

structure TurnReservation where
  threadId : Text
  token : ℕ
  approvalTurnId : Option TurnId := none
  approvalGeneration : Option ℕ := none
  deriving DecidableEq, Repr

structure ApprovalClaim where
  token : ℕ
  turnId : TurnId
  generation : ℕ
  deriving DecidableEq, Repr

/-- A message, and what building its request or handing it to the turn runtime raises. -/
structure UserTurn where
  approvalResume : Bool := false
  cancelled : Bool := false
  failure : Option SessionError := none
  deriving DecidableEq, Repr

/-- An accepted guidance: its number, and the turn it was accepted for. -/
structure Guidance where
  number : ℕ
  turn : TurnId
  text : Text
  deriving DecidableEq, Repr

/-- The last three fields are no attributes of the class: `loop` is the turn whose start and whose
scheduling the owner loop is between, and the other two record the guidance. -/
structure SessionRuntime where
  threadId : Text
  status : SessionStatus := .idle
  activeHandle : Option TurnId := none
  latestHandle : Option TurnId := none
  turnGeneration : ℕ := 0
  reservation : Option TurnReservation := none
  approvalClaim : Option ApprovalClaim := none
  consumedApprovalClaim : Option (ℕ × ℕ) := none
  closed : Bool := false
  /-- The claim of a close in progress, with the handle that it waits for. -/
  closeClaim : Option (Option TurnId) := none
  settlingHandles : List TurnId := []
  turns : List Turn := []
  tokens : ℕ := 0
  /-- The queue of the agent, if it has one. -/
  steerQueue : Option (List Guidance) := some []
  loop : Option TurnId := none
  accepted : ℕ := 0
  drained : List (TurnId × Guidance) := []
  deriving DecidableEq, Repr

/-- The state after a call, and what it returns or raises. -/
abbrev Outcome (Result : Type) := SessionRuntime × Except SessionError Result

namespace SessionRuntime

variable (session : SessionRuntime)

/-- The handle is not done. -/
def Live (turn : TurnId) : Prop :=
  ∃ handle, session.turns[turn]? = some handle ∧ handle.result = none

instance (turn : TurnId) : Decidable (session.Live turn) :=
  inferInstanceAs (Decidable (∃ handle, session.turns[turn]? = some handle ∧ handle.result = none))

/-- `self._active_handle is not None and not self._active_handle.done()`. -/
def HasLiveTurn : Prop :=
  ∃ turn, session.activeHandle = some turn ∧ session.Live turn

instance : Decidable session.HasLiveTurn :=
  inferInstanceAs (Decidable (∃ turn, session.activeHandle = some turn ∧ session.Live turn))

def raise {Result : Type} (error : SessionError) : Outcome Result :=
  (session, .error error)

/-! ### Starting a turn -/

/-- An approval resume needs the reservation that was made for it. -/
def authorizes (reservation : Option TurnReservation) : Bool :=
  match reservation, session.consumedApprovalClaim with
  | some reservation, some (token, _) =>
    session.reservation = some reservation && reservation.approvalTurnId.isSome &&
      reservation.approvalGeneration = some session.turnGeneration && reservation.token = token
  | _, _ => false

/-- The checks of `start`, in order. -/
def startError (message : UserTurn) (reservation : Option TurnReservation)
    (settlingOwner : Option TurnId) : Option SessionError :=
  if session.closed then
    some (.runtimeClosed "session runtime is closed")
  else if session.HasLiveTurn then
    some (.sessionBusy "session already has an active turn")
  else if session.status = .waitingApproval ∧ message.approvalResume = false then
    some (.sessionBusy "session is waiting for approval")
  else if session.settlingHandles ≠ [] ∧ ¬settlingOwner.any (· ∈ session.settlingHandles) then
    some (.sessionBusy "session is still settling the previous turn")
  else if reservation.any (·.threadId ≠ session.threadId) then
    some (.valueError "turn reservation thread_id does not match SessionRuntime")
  else if session.reservation ≠ none ∧ reservation ≠ session.reservation then
    some (.sessionBusy "session already has a reserved turn")
  else if session.reservation = none ∧ reservation ≠ none then
    some (.sessionBusy "turn reservation is no longer valid")
  else if message.approvalResume ∧ session.authorizes reservation = false then
    some (.sessionBusy "approval resume is not authorized")
  else message.failure

/-- The turn is handed to the turn runtime. The reservation, if there is one, is the caller's. -/
def begin (message : UserTurn) : SessionRuntime :=
  { session with
    turns := session.turns ++ [{ cancelled := message.cancelled }]
    consumedApprovalClaim :=
      if session.reservation = none then session.consumedApprovalClaim else none
    reservation := none
    activeHandle := some session.turns.length
    latestHandle := some session.turns.length
    turnGeneration := session.turnGeneration + 1
    status := .running }

/-- The reservation of a start that has failed is given up. -/
def abandon (reservation : Option TurnReservation) : SessionRuntime :=
  if reservation ≠ none ∧ session.reservation = reservation then
    { session with reservation := none, status := .idle }
  else session

def start (message : UserTurn) (reservation : Option TurnReservation)
    (settlingOwner : Option TurnId) : Outcome TurnId :=
  match session.startError message reservation settlingOwner with
  | none => (session.begin message, .ok session.turns.length)
  | some error => (session.abandon reservation, .error error)

def setSettlement (turn : TurnId) (settlement : Settlement) : SessionRuntime :=
  { session with
    turns := session.turns.modify turn ({ · with settlement := some settlement }) }

/-- The two sections of `_schedule_settlement`. The task is created between them; only the owner
loop reads the tasks. -/
def scheduleSettlement (turn : TurnId) : SessionRuntime :=
  { session.setSettlement turn .waiting with
    settlingHandles := session.settlingHandles ++ [turn] }

/-! ### Reservations -/

/-- What keeps a turn from being reserved. -/
def unavailable : Option SessionError :=
  if session.closed then some (.runtimeClosed "session runtime is closed")
  else if session.reservation ≠ none then
    some (.sessionBusy "session already has a reserved turn")
  else if session.settlingHandles ≠ [] then
    some (.sessionBusy "session is still settling the previous turn")
  else if session.HasLiveTurn then some (.sessionBusy "session already has an active turn")
  else none

def reserve (reservation : TurnReservation) : SessionRuntime :=
  { session with reservation := some reservation, status := .starting }

/-- `reserve_turn` does not look at the status. -/
def reserveTurn : SessionRuntime × Option TurnReservation :=
  match session.unavailable with
  | some _ => (session, none)
  | none =>
    let reservation := { threadId := session.threadId, token := session.tokens }
    ({ session.reserve reservation with tokens := session.tokens + 1 }, some reservation)

/-- The waiting turn, if the claim is the one that was taken for it. -/
def approvedTurn (approvalClaim : Option (ℕ × ℕ)) : Option TurnId :=
  match session.activeHandle, approvalClaim with
  | some turn, some claim =>
    if session.status = .waitingApproval ∧ ¬session.Live turn ∧
        session.consumedApprovalClaim = some claim ∧ claim.2 = session.turnGeneration then
      some turn
    else none
  | _, _ => none

def reserveTurnOrRaise (approvalResume : Bool) (approvalClaim : Option (ℕ × ℕ)) :
    Outcome TurnReservation :=
  match session.unavailable with
  | some error => session.raise error
  | none =>
    if approvalResume then
      match session.approvedTurn approvalClaim, approvalClaim with
      | some turn, some claim =>
        let reservation :=
          { threadId := session.threadId, token := claim.1, approvalTurnId := some turn
            approvalGeneration := some claim.2 }
        (session.reserve reservation, .ok reservation)
      | _, _ => session.raise (.sessionBusy "approval resume is no longer authorized")
    else if session.status = .waitingApproval then
      session.raise (.sessionBusy "session is waiting for approval")
    else
      let reservation := { threadId := session.threadId, token := session.tokens }
      ({ session.reserve reservation with tokens := session.tokens + 1 }, .ok reservation)

def releaseTurn (reservation : TurnReservation) : SessionRuntime × Bool :=
  if session.reservation ≠ some reservation then (session, false)
  else ({ session with reservation := none, status := .idle }, true)

def markQueued : Outcome Unit :=
  if session.closed then session.raise (.runtimeClosed "session runtime is closed")
  else if session.HasLiveTurn then
    session.raise (.sessionBusy "session already has an active turn")
  else ({ session with status := .queued }, .ok ())

def clearQueued : SessionRuntime :=
  if session.status = .queued ∨ session.status = .starting then { session with status := .idle }
  else session

def markStarting : Outcome Unit :=
  if session.status ≠ .queued then
    session.raise (.runtimeError "session must be queued before starting")
  else ({ session with status := .starting }, .ok ())

/-! ### Approvals -/

/-- The last section of `build_approval_resume`; `pending` says whether the interrupt is still
there and has as many actions as there are decisions. -/
def buildApprovalResume (expectedTurnId : TurnId) (pending : Bool) : Outcome Unit :=
  match session.activeHandle with
  | none => session.raise (.noActiveTurn "no approval is pending")
  | some turn =>
    if session.status ≠ .waitingApproval then
      session.raise (.noActiveTurn "no approval is pending")
    else if turn ≠ expectedTurnId then
      session.raise (.turnMismatch "approval turn does not match expected turn")
    else if pending = false then
      session.raise (.noActiveTurn "approval is no longer pending")
    else
      ({ session with
          approvalClaim := some ⟨session.tokens, expectedTurnId, session.turnGeneration⟩
          tokens := session.tokens + 1 }, .ok ())

def takeApprovalClaim (expectedTurnId : TurnId) : Outcome (ℕ × ℕ) :=
  match session.approvalClaim with
  | none => session.raise (.noActiveTurn "approval is no longer pending")
  | some claim =>
    if claim.turnId ≠ expectedTurnId then
      session.raise (.noActiveTurn "approval is no longer pending")
    else
      ({ session with
          approvalClaim := none
          consumedApprovalClaim := some (claim.token, claim.generation) },
        .ok (claim.token, claim.generation))

/-! ### The live turn -/

/-- `handle.cancel`; it returns whether the token was set by this call. -/
def setCancelled (turn : TurnId) : SessionRuntime :=
  { session with turns := session.turns.modify turn ({ · with cancelled := true }) }

def isCancelled (turn : TurnId) : Bool :=
  session.turns[turn]?.any (·.cancelled)

def cancelTurn (expectedTurnId : TurnId) : Outcome (TurnId × Bool) :=
  if session.closed then session.raise (.runtimeClosed "session runtime is closed")
  else
    match session.activeHandle with
    | none => session.raise (.noActiveTurn "session has no active turn to cancel")
    | some turn =>
      let paused := session.status = .waitingApproval
      if ¬session.Live turn ∧ ¬paused then
        session.raise (.noActiveTurn "session has no active turn to cancel")
      else if turn ≠ expectedTurnId then
        session.raise (.turnMismatch
          s!"cannot cancel turn {expectedTurnId}: active turn is {turn}")
      else if session.isCancelled turn then (session, .ok (turn, false))
      else if paused then
        ({ session.setCancelled turn with
            status := .cancelled
            activeHandle := none
            approvalClaim := none
            consumedApprovalClaim := none
            turnGeneration := session.turnGeneration + 1 }, .ok (turn, true))
      else ({ session.setCancelled turn with status := .cancelling }, .ok (turn, true))

/-- Returns the turn, whether the text was accepted, and how many are pending. -/
def steerTurn (expectedTurnId : TurnId) (text : Text) : Outcome (TurnId × Bool × ℕ) :=
  let body := text.strip
  if session.closed then session.raise (.runtimeClosed "session runtime is closed")
  else
    match session.activeHandle with
    | none => session.raise (.noActiveTurn "session has no active turn to steer")
    | some turn =>
      if ¬session.Live turn then
        session.raise (.noActiveTurn "session has no active turn to steer")
      else if turn ≠ expectedTurnId then
        session.raise (.turnMismatch
          s!"cannot steer turn {expectedTurnId}: active turn is {turn}")
      else if session.status = .cancelling then
        session.raise (.sessionBusy "session turn is no longer consuming guidance")
      else
        match session.steerQueue with
        | none =>
          session.raise (.steeringUnavailable "agent has no steer queue for mid-run guidance")
        | some items =>
          if body = [] then (session, .ok (turn, false, items.length))
          else
            ({ session with
                steerQueue := some (items ++ [⟨session.accepted, turn, body⟩])
                accepted := session.accepted + 1 },
              .ok (turn, true, items.length + 1))

/-- `SteerQueue.drain`, by the agent in a turn. -/
def drain (turn : TurnId) : SessionRuntime :=
  { session with
    steerQueue := session.steerQueue.map fun _ => []
    drained := session.drained ++ (session.steerQueue.getD []).map (turn, ·) }

def clearSilent : SessionRuntime :=
  { session with steerQueue := session.steerQueue.map fun _ => [] }

/-! ### Settlement -/

/-- `_settle`, up to the end of the section that clears the guidance. -/
def settleClear (turn : TurnId) (result : TurnStatus) : SessionRuntime :=
  let cleared := session.clearSilent.setSettlement turn .cleared
  if session.activeHandle = some turn ∧ result ≠ .waitingApproval then
    { cleared with activeHandle := none }
  else cleared

/-- `_settle_goal`, up to the follow-up; `active` says whether there is an active goal for which
the callback has a follow-up. -/
def settleGoal (turn : TurnId) (result : TurnStatus) (active : Bool) : SessionRuntime :=
  session.setSettlement turn
    (if session.closed ∨ result = .cancelled ∨ active = false then .publishing else .following)

/-- The last section of `_settle`. -/
def settlePublish (turn : TurnId) (result : TurnStatus) : SessionRuntime :=
  let ended := session.setSettlement turn .finished
  if session.closed = false ∧ session.latestHandle = some turn ∧
      (session.activeHandle = none ∨
        (result = .waitingApproval ∧ session.activeHandle = some turn)) ∧
      session.reservation = none then
    { ended with
      settlingHandles := session.settlingHandles.filter (· ≠ turn)
      status := result.sessionStatus }
  else ended

/-- The callback of the task, and what `close` does in its place. -/
def settled (turn : TurnId) : SessionRuntime :=
  { session.setSettlement turn .settled with
    settlingHandles := session.settlingHandles.filter (· ≠ turn) }

/-! ### Closing -/

/-- What keeps a close that does not cancel from claiming the session. -/
def closeError (strictBusy : Bool) : Option SessionError :=
  if session.reservation ≠ none ∧ strictBusy then
    some (.sessionBusy "session already has a reserved turn")
  else if strictBusy ∧ (session.status = .queued ∨ session.status = .starting ∨
      session.status = .cancelling) then
    some (.sessionBusy "session is queued for a turn")
  else if session.settlingHandles ≠ [] ∧ strictBusy then
    some (.sessionBusy "session is still settling the previous turn")
  else if session.HasLiveTurn then some (.sessionBusy "session already has an active turn")
  else none

/-- The claim of `_close_on_owner`. -/
def close (cancelActive strictBusy : Bool) : Outcome Unit :=
  if session.closed then (session, .ok ())
  else
    match (if cancelActive then none else session.closeError strictBusy) with
    | some error => session.raise error
    | none =>
      let claimed :=
        { session.clearSilent with
          closed := true, closeClaim := some session.activeHandle, reservation := none }
      match session.activeHandle with
      | some turn =>
        if cancelActive ∧ session.Live turn ∧ session.isCancelled turn = false then
          ({ claimed.setCancelled turn with status := .cancelling }, .ok ())
        else (claimed, .ok ())
      | none => (claimed, .ok ())

/-- No settlement task is left. -/
def TasksDone : Prop :=
  ∀ turn ∈ session.turns, turn.settlement = none ∨ turn.settlement = some .settled

instance : Decidable session.TasksDone :=
  inferInstanceAs (Decidable (∀ turn ∈ session.turns, _ ∨ _))

/-- The end of `_close_on_owner`. -/
def closeEnd : SessionRuntime :=
  { session with
    status := .closed, activeHandle := none, latestHandle := none, closeClaim := none }

end SessionRuntime

/-! ### Interleavings -/

/-- The sections of the callers, of the settlement tasks and of the turns. -/
inductive SessionLabel where
  /-- The start in `submit`; the owner loop goes on to schedule the settlement. -/
  | submit (message : UserTurn) (reservation : Option TurnReservation)
  /-- `start` on its own. -/
  | start (message : UserTurn) (reservation : Option TurnReservation)
  | scheduleSettlement
  | reserveTurn
  | reserveTurnOrRaise (approvalResume : Bool) (approvalClaim : Option (ℕ × ℕ))
  | releaseTurn (reservation : TurnReservation)
  | markQueued
  | clearQueued
  | markStarting
  | buildApprovalResume (expectedTurnId : TurnId) (pending : Bool)
  | takeApprovalClaim (expectedTurnId : TurnId)
  | cancelTurn (expectedTurnId : TurnId)
  | steerTurn (expectedTurnId : TurnId) (text : Text)
  /-- The agent drains the queue in a turn. -/
  | drain (turn : TurnId)
  /-- The turn ends. -/
  | finish (turn : TurnId) (result : TurnStatus)
  /-- The cancel token of a turn is set by someone else. -/
  | cancelToken (turn : TurnId)
  | settleClear (turn : TurnId)
  | settleGoal (turn : TurnId) (active : Bool)
  /-- The start of a follow-up in the settlement of a turn. -/
  | settleFollow (turn : TurnId) (message : UserTurn)
  | settlePublish (turn : TurnId)
  | settled (turn : TurnId)
  | close (cancelActive strictBusy : Bool)
  | closeEnd
  /-- The coroutine of `close` ends early. -/
  | closeAbort
  deriving DecidableEq, Repr

namespace SessionRuntime

variable (session : SessionRuntime)

/-- A section of the settlement of a turn, which is on the owner loop. -/
def settling (turn : TurnId) (settlement : Settlement)
    (action : TurnStatus → SessionRuntime) : Option SessionRuntime :=
  match session.turns[turn]? with
  | some ⟨_, some result, some phase⟩ =>
    if session.loop = none ∧ phase = settlement then some (action result) else none
  | _ => none

/-- A start on the owner loop, which goes on to schedule the settlement. -/
def startOnLoop (message : UserTurn) (reservation : Option TurnReservation)
    (settlingOwner : Option TurnId) : SessionRuntime :=
  match session.start message reservation settlingOwner with
  | (next, .ok turn) => { next with loop := some turn }
  | (next, .error _) => next

def step : SessionLabel → Option SessionRuntime
  | .submit message reservation =>
    if session.loop = none then some (session.startOnLoop message reservation none) else none
  | .start message reservation => some (session.start message reservation none).1
  | .scheduleSettlement =>
    session.loop.map fun turn => { session.scheduleSettlement turn with loop := none }
  | .reserveTurn => some session.reserveTurn.1
  | .reserveTurnOrRaise approvalResume approvalClaim =>
    some (session.reserveTurnOrRaise approvalResume approvalClaim).1
  | .releaseTurn reservation => some (session.releaseTurn reservation).1
  | .markQueued => some session.markQueued.1
  | .clearQueued => some session.clearQueued
  | .markStarting => some session.markStarting.1
  | .buildApprovalResume expectedTurnId pending =>
    some (session.buildApprovalResume expectedTurnId pending).1
  | .takeApprovalClaim expectedTurnId => some (session.takeApprovalClaim expectedTurnId).1
  | .cancelTurn expectedTurnId => some (session.cancelTurn expectedTurnId).1
  | .steerTurn expectedTurnId text => some (session.steerTurn expectedTurnId text).1
  | .drain turn => if session.Live turn then some (session.drain turn) else none
  | .finish turn result =>
    if session.Live turn then
      some { session with turns := session.turns.modify turn ({ · with result := some result }) }
    else none
  | .cancelToken turn => some (session.setCancelled turn)
  | .settleClear turn => session.settling turn .waiting (session.settleClear turn)
  | .settleGoal turn active =>
    session.settling turn .cleared (session.settleGoal turn · active)
  | .settleFollow turn message =>
    session.settling turn .following fun _ =>
      (session.setSettlement turn .publishing).startOnLoop message none (some turn)
  | .settlePublish turn => session.settling turn .publishing (session.settlePublish turn)
  | .settled turn => session.settling turn .finished fun _ => session.settled turn
  | .close cancelActive strictBusy =>
    if session.loop = none then some (session.close cancelActive strictBusy).1 else none
  | .closeEnd =>
    match session.closeClaim with
    | some handle =>
      if session.loop = none ∧ ¬handle.any (fun turn => session.Live turn) ∧
          session.TasksDone then
        some session.closeEnd
      else none
    | none => none
  | .closeAbort => some { session with closeClaim := none }

def machine : Machine SessionRuntime SessionLabel where
  step := step

end SessionRuntime

end Synapse.Turns
