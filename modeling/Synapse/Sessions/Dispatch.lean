import Synapse.Foundation.Machine
import Synapse.Sessions.Retention

/-!
# The serial drainer under concurrency

`_dispatch` delivers queued callbacks outside the broker lock. Any number of
threads call the broker, and user code that runs inside a callback may call it
again, so invocations of `_dispatch` form call stacks. A `DispatchWorld` holds
the broker, the invocations in progress with their local variables, and a
history that the code never reads; its machine takes one critical section, one
unlocked read, or one callback boundary at a time.
-/

namespace Synapse

/-- What a callback raises: an ordinary `Exception`, a `BaseException` outside
it such as `asyncio.CancelledError`, or a process-level exit. -/
inductive Raised where
  | exception | baseException | keyboardInterrupt | systemExit
  deriving DecidableEq, Repr

/-- Process-level exits, the two that `_dispatch` does not hold back. -/
def Raised.isProcessExit : Raised → Bool
  | .keyboardInterrupt | .systemExit => true
  | _ => false

/-- Where an invocation of `_dispatch` stands. -/
inductive DrainerState (Payload : Type) where
  /-- At the head of `while True`, about to take the lock. -/
  | loop
  /-- In the loop over `records`, before the next callback. -/
  | deliver (envelope : SessionEventEnvelope Payload) (records : List SubscriberRecord)
  /-- The callback of `record` runs; `rest` have not been called yet. -/
  | callback (envelope : SessionEventEnvelope Payload) (record : SubscriberRecord)
      (rest : List SubscriberRecord)
  /-- A process-level exit was caught, and `_closed` has not been read yet. -/
  | caught (raised : Raised)
  /-- `_closed` was read as false and the exit is re-raised; the `except
  BaseException` branch is about to take the lock. -/
  | escaping (raised : Raised)
  /-- In `_notify_closed`, before the next record. -/
  | notify (records : List SubscriberRecord)
  /-- The `on_close` of `record` runs. -/
  | onClose (record : SubscriberRecord) (rest : List SubscriberRecord)

namespace DrainerState

variable {Payload : Type}

/-- Whether user code runs, which may call the broker again. -/
def inUserCode : DrainerState Payload → Bool
  | .callback _ _ _ | .onClose _ _ => true
  | _ => false

end DrainerState

/-- One invocation of `_dispatch` with its local variables. -/
structure Drainer (Payload : Type) where
  state : DrainerState Payload
  firstException : Option Raised

/-- One registered subscription, as the history records it. `window` is the
replay handed to the subscriber, `forwarded` the replay queued for it, `start`
the latest sequence at registration, and `ended` the latest sequence when it
ended, with `true` if the broker's close ended it. -/
structure Registration (Payload : Type) where
  record : SubscriberRecord
  cursor : Option ℕ
  window : List (SessionEventEnvelope Payload)
  forwarded : List (SessionEventEnvelope Payload)
  start : ℕ
  ended : Option (ℕ × Bool)

/-- The registration once the latest sequence ends it, if it is live and selected. -/
def Registration.endIf {Payload : Type} (ends : ℕ → Bool) (latest : ℕ) (byBroker : Bool)
    (registration : Registration Payload) : Registration Payload :=
  if registration.ended = none ∧ ends registration.record.id then
    { registration with ended := some (latest, byBroker) }
  else registration

/-- The history of a run: accepted events, registrations, callback invocations
and `on_close` invocations, each in the order they happened. -/
structure DispatchHistory (Payload : Type) where
  accepted : List (SessionEventEnvelope Payload)
  registrations : List (Registration Payload)
  invoked : List (ℕ × SessionEventEnvelope Payload)
  notified : List ℕ

/-- A broker with the invocations of `_dispatch` in progress. Each invocation
carries its thread; those of one thread are its call stack, innermost first. -/
structure DispatchWorld (Payload : Type) where
  broker : SessionEventBroker Payload
  active : List (ℕ × Drainer Payload)
  history : DispatchHistory Payload

/-- One step of one thread. -/
inductive DispatchLabel (Payload : Type) where
  /-- User code of a thread calls the broker. -/
  | call (thread : ℕ) (method : BrokerSection Payload)
  /-- The drainer of a thread moves on. -/
  | advance (thread : ℕ)
  /-- The callback that a thread runs returns (`none`) or raises. -/
  | finish (thread : ℕ) (outcome : Option Raised)

namespace DispatchWorld

variable {Payload : Type}

def new (threadId : Text) (maxEvents : ℤ) (hardCap : Option ℤ) (epoch : Text) :
    DispatchWorld Payload :=
  { broker := .new threadId maxEvents hardCap epoch
    active := []
    history := ⟨[], [], [], []⟩ }

/-- The innermost invocation on a thread. -/
def top (world : DispatchWorld Payload) (thread : ℕ) : Option (Drainer Payload) :=
  (world.active.find? fun frame => frame.1 = thread).map (·.2)

/-- Replace the innermost invocation on a thread, or return from it. -/
def replaceTop (thread : ℕ) (next : Option (Drainer Payload)) :
    List (ℕ × Drainer Payload) → List (ℕ × Drainer Payload)
  | [] => []
  | (owner, drainer) :: rest =>
    if owner = thread then
      match next with
      | some drainer => (owner, drainer) :: rest
      | none => rest
    else (owner, drainer) :: replaceTop thread next rest

/-- Run `_dispatch` if the section claimed the drainer. -/
def enter (world : DispatchWorld Payload) (thread : ℕ) (dispatch : Bool) :
    DispatchWorld Payload :=
  if dispatch then { world with active := (thread, ⟨.loop, none⟩) :: world.active } else world

/-- Record a registration if the subscription has a live record. -/
def register (world : DispatchWorld Payload) (subscription : SessionSubscription Payload)
    (cursor : Option ℕ) (forwarded : List (SessionEventEnvelope Payload)) :
    DispatchHistory Payload :=
  match subscription.record with
  | none => world.history
  | some record =>
    { world.history with
      registrations := world.history.registrations ++
        [⟨record, cursor, subscription.replay, forwarded, world.broker.sequence, none⟩] }

/-- Record the end of the live registrations that satisfy `ends`. -/
def endRegistrations (world : DispatchWorld Payload) (ends : ℕ → Bool) (byBroker : Bool) :
    DispatchHistory Payload :=
  { world.history with
    registrations := world.history.registrations.map
      (Registration.endIf ends world.broker.sequence byBroker) }

/-- One call of a public method, up to the point where its section has released
the lock. A subscription can only be closed once it exists. -/
def call (world : DispatchWorld Payload) (thread : ℕ) :
    BrokerSection Payload → Option (DispatchWorld Payload)
  | .emit event =>
    let (broker, dispatch) := world.broker.emit event
    let history :=
      if world.broker.closed then world.history
      else
        { world.history with
          accepted := world.history.accepted ++ [world.broker.nextEnvelope event] }
    some ({ world with broker, history }.enter thread dispatch)
  | .subscribe cursor =>
    let (broker, subscription) := world.broker.subscribe cursor
    some { world with broker, history := world.register subscription none [] }
  | .subscribeFrom cursor onClose =>
    match world.broker.subscribeFrom cursor onClose with
    | .error _ => some world
    | .ok (broker, _, subscription) =>
      let checked := match cursor with
        | .int value => some value.toNat
        | .other _ => none
      some { world with broker, history := world.register subscription checked [] }
  | .forwardTo cursor =>
    let (broker, subscription, dispatch) := world.broker.forwardTo cursor
    let history := world.register subscription none subscription.replay
    some ({ world with broker, history }.enter thread dispatch)
  | .closeSubscription id =>
    if id ∈ world.history.registrations.map fun registration => registration.record.id then
      let history :=
        if id ∈ world.broker.closedRecords then world.history
        else world.endRegistrations (· = id) false
      some { world with broker := world.broker.closeSubscription id, history }
    else none
  | .close =>
    let (broker, dispatch) := world.broker.close
    let history :=
      if world.broker.closed then world.history
      else world.endRegistrations (fun _ => true) true
    some ({ world with broker, history }.enter thread dispatch)
  | .take | .restore => none

/-- The next step of a drainer outside user code. -/
def advance (world : DispatchWorld Payload) (thread : ℕ) (drainer : Drainer Payload) :
    Option (DispatchWorld Payload) :=
  let goto (state : DrainerState Payload) := replaceTop thread (some { drainer with state })
    world.active
  let leave := replaceTop thread none world.active
  match drainer.state with
  | .loop =>
    match world.broker.takeLocked with
    | (broker, .deliver envelope records) =>
      some { world with broker, active := goto (.deliver envelope records) }
    | (broker, .notifyClose records) =>
      some { world with broker, active := goto (.notify records) }
    | (broker, .stop) => some { world with broker, active := leave }
  | .deliver _ [] => some { world with active := goto .loop }
  | .deliver envelope (record :: rest) =>
    some { world with
      active := goto (.callback envelope record rest)
      history := { world.history with
        invoked := world.history.invoked ++ [(record.id, envelope)] } }
  | .caught raised =>
    if world.broker.closed then
      let kept := { drainer with
        state := .loop, firstException := drainer.firstException.or (some raised) }
      some { world with active := replaceTop thread (some kept) world.active }
    else some { world with active := goto (.escaping raised) }
  | .escaping _ => some { world with broker := world.broker.restoreLocked, active := leave }
  | .notify [] => some { world with active := leave }
  | .notify (record :: rest) =>
    if record.onClose then
      some { world with
        active := goto (.onClose record rest)
        history := { world.history with notified := world.history.notified ++ [record.id] } }
    else some { world with active := goto (.notify rest) }
  | .callback _ _ _ | .onClose _ _ => none

/-- What the drainer does with the outcome of the callback it runs. -/
def finish (world : DispatchWorld Payload) (thread : ℕ) (drainer : Drainer Payload)
    (outcome : Option Raised) : Option (DispatchWorld Payload) :=
  -- The first non-ordinary exception is remembered; ordinary ones are dropped.
  let remembered := match outcome with
    | none | some .exception => drainer.firstException
    | some raised => drainer.firstException.or (some raised)
  let exits := match outcome with
    | some raised => raised.isProcessExit
    | none => false
  match drainer.state, outcome with
  | .callback envelope _ rest, outcome =>
    let next := match exits, outcome with
      | true, some raised => { drainer with state := DrainerState.caught raised }
      | _, _ => ⟨.deliver envelope rest, remembered⟩
    some { world with active := replaceTop thread (some next) world.active }
  | .onClose _ rest, outcome =>
    let next := match exits, outcome with
      | true, some raised => { drainer with state := DrainerState.escaping raised }
      | _, _ => ⟨.notify rest, remembered⟩
    some { world with active := replaceTop thread (some next) world.active }
  | _, _ => none

/-- One step: a thread in user code calls, and a drainer moves on by itself or
with the outcome of its callback. -/
def step (world : DispatchWorld Payload) :
    DispatchLabel Payload → Option (DispatchWorld Payload)
  | .call thread method =>
    if (world.top thread).all fun drainer => drainer.state.inUserCode then
      world.call thread method
    else none
  | .advance thread => (world.top thread).bind (world.advance thread)
  | .finish thread outcome =>
    (world.top thread).bind fun drainer => world.finish thread drainer outcome

/-- The interleavings of all threads. -/
def machine (Payload : Type) : Machine (DispatchWorld Payload) (DispatchLabel Payload) where
  step := step

/-! ### What a call can do -/

@[simp]
theorem enter_broker (world : DispatchWorld Payload) (thread : ℕ) (dispatch : Bool) :
    (world.enter thread dispatch).broker = world.broker := by
  cases dispatch <;> rfl

@[simp]
theorem enter_history (world : DispatchWorld Payload) (thread : ℕ) (dispatch : Bool) :
    (world.enter thread dispatch).history = world.history := by
  cases dispatch <;> rfl

/-- Everything a call can do to the world. -/
inductive Called (world : DispatchWorld Payload) (thread : ℕ) :
    BrokerSection Payload → DispatchWorld Payload → Prop where
  /-- The broker is closed, the cursor is rejected or stale, or there is nothing to close. -/
  | ignored (called : BrokerSection Payload) : Called world thread called world
  | accepted (event : TurnEvent Payload) (events : List (SessionEventEnvelope Payload))
      (droppedThrough : ℕ) (latestTurnId : Option Text) (latestTurnStart : Option ℕ)
      (opened : world.broker.closed = false)
      (keeps : ∀ log, world.broker.RetainsLog log → Retains (·.sequence)
        (log ++ [world.broker.nextEnvelope event]) events droppedThrough) :
      Called world thread (.emit event)
        ({ world with
            broker := { world.broker with
              sequence := world.broker.sequence + 1
              events, droppedThrough, latestTurnId, latestTurnStart
              delivery := world.broker.delivery ++
                if world.broker.subscribers = [] then []
                else [(world.broker.nextEnvelope event, world.broker.subscribers)]
              dispatching := world.broker.dispatching || !world.broker.subscribers.isEmpty }
            history := { world.history with
              accepted := world.history.accepted ++ [world.broker.nextEnvelope event] } }.enter
          thread (!world.broker.dispatching && !world.broker.subscribers.isEmpty))
  /-- A new record; `subscribe_from` queues nothing and hands over a gapless window. -/
  | registered (called : BrokerSection Payload) (onClose : Bool) (cursor : Option ℕ)
      (window forwarded : List (SessionEventEnvelope Payload))
      (opened : world.broker.closed = false)
      (gapless : ∀ checked, cursor = some checked → forwarded = [] ∧
        checked ≤ world.broker.sequence ∧
        (world.broker.windowLocked checked).gap = false ∧
        window = (world.broker.windowLocked checked).events) :
      Called world thread called
        ({ world with
            broker := { world.broker with
              nextSubscriptionId := world.broker.nextSubscriptionId + 1
              subscribers := world.broker.subscribers ++ [world.broker.nextRecord onClose]
              delivery := world.broker.delivery ++ forwarded.map fun envelope =>
                (envelope, [world.broker.nextRecord onClose])
              dispatching := world.broker.dispatching || !forwarded.isEmpty }
            history := { world.history with
              registrations := world.history.registrations ++
                [({ record := world.broker.nextRecord onClose, cursor, window, forwarded
                    start := world.broker.sequence, ended := none } : Registration Payload)] } }.enter
          thread (!world.broker.dispatching && !forwarded.isEmpty))
  | unsubscribed (id : ℕ)
      (known : id ∈ world.history.registrations.map fun registration => registration.record.id)
      (live : id ∉ world.broker.closedRecords) :
      Called world thread (.closeSubscription id)
        { world with
          broker := { world.broker with
            closedRecords := world.broker.closedRecords ++ [id]
            subscribers := world.broker.subscribers.filter fun record => record.id ≠ id }
          history := world.endRegistrations (· = id) false }
  | closed (opened : world.broker.closed = false) :
      Called world thread .close
        ({ world with
            broker := { world.broker with
              closed := true
              subscribers := []
              closedRecords := world.broker.closedRecords ++
                world.broker.subscribers.map SubscriberRecord.id
              pendingClose := world.broker.subscribers
              dispatching := true }
            history := world.endRegistrations (fun _ => true) true }.enter
          thread (!world.broker.dispatching))

variable {world next : DispatchWorld Payload} {thread : ℕ}

theorem called_of_subscribeFrom {cursor : CursorArgument} {onClose : Bool}
    (called : world.call thread (.subscribeFrom cursor onClose) = some next) :
    Called world thread (.subscribeFrom cursor onClose) next := by
  cases cursor with
  | other typeName =>
    simp [call, SessionEventBroker.subscribeFrom, SessionEventBroker.checkedCursorLocked, bind,
      Except.bind] at called
    exact called ▸ .ignored _
  | int value =>
    by_cases outside : value < 0 ∨ (world.broker.sequence : ℤ) < value
    · simp [call, SessionEventBroker.subscribeFrom, SessionEventBroker.checkedCursorLocked, bind,
        Except.bind, outside] at called
      exact called ▸ .ignored _
    · by_cases refused : world.broker.closed = true ∨
        (world.broker.windowLocked value.toNat).gap = true
      · simp [call, SessionEventBroker.subscribeFrom, SessionEventBroker.checkedCursorLocked,
          bind, Except.bind, pure, Except.pure, outside, refused, register,
          SessionEventBroker.unregistered] at called
        exact called ▸ .ignored _
      · simp [call, SessionEventBroker.subscribeFrom, SessionEventBroker.checkedCursorLocked,
          bind, Except.bind, pure, Except.pure, outside, refused, register,
          SessionEventBroker.registerLocked] at called
        simp only [not_or, Bool.not_eq_true] at refused
        have inserted := @Called.registered Payload world thread
          (.subscribeFrom (.int value) onClose) onClose
          (some value.toNat) (world.broker.windowLocked value.toNat).events [] refused.1
          (by
            rintro checked ⟨⟩
            exact ⟨rfl, by omega, refused.2, rfl⟩)
        simpa [enter, ← called] using inserted

theorem called_of_forwardTo {cursor : ℤ}
    (called : world.call thread (.forwardTo cursor) = some next) :
    Called world thread (.forwardTo cursor) next := by
  cases closed : world.broker.closed with
  | true =>
    simp [call, SessionEventBroker.forwardTo, closed, register,
      SessionEventBroker.unregistered, enter] at called
    exact called ▸ .ignored _
  | false =>
    have inserted := @Called.registered Payload world thread
      (.forwardTo cursor) false none (world.broker.replayAfter cursor)
      (world.broker.replayAfter cursor) closed (by simp)
    cases replay : world.broker.replayAfter cursor with
    | nil =>
      simp [call, SessionEventBroker.forwardTo, closed, register,
        SessionEventBroker.registerLocked, enter, replay] at called
      simpa [enter, ← called, replay, closed] using inserted
    | cons envelope rest =>
      cases dispatching : world.broker.dispatching <;>
        simp [call, SessionEventBroker.forwardTo, closed, register,
          SessionEventBroker.registerLocked, SessionEventBroker.claimLocked, enter, replay,
          dispatching] at called <;>
        simpa [enter, ← called, replay, closed, dispatching] using inserted

theorem called_of_call
    {method : BrokerSection Payload} (called : world.call thread method = some next) :
    Called world thread method next := by
  cases method with
  | emit event =>
    cases closed : world.broker.closed with
    | true =>
      simp [call, SessionEventBroker.emit_of_closed closed, closed, enter] at called
      exact called ▸ .ignored _
    | false =>
      rcases SessionEventBroker.emit_of_open closed event with
        ⟨kept, droppedThrough, latestTurnId, latestTurnStart, room, emitted⟩
      have keeps : ∀ log, world.broker.RetainsLog log → Retains (·.sequence)
          (log ++ [world.broker.nextEnvelope event])
          (kept ++ [world.broker.nextEnvelope event]) droppedThrough := by
        intro log retained
        simpa [emitted] using (retained.emit closed event).retains
      simp only [call, emitted] at called
      rw [if_neg (show ¬world.broker.closed = true by simp [closed])] at called
      exact Option.some.inj called ▸
        .accepted event _ droppedThrough latestTurnId latestTurnStart closed keeps
  | subscribe cursor =>
    cases closed : world.broker.closed with
    | true =>
      simp [call, SessionEventBroker.subscribe, closed, register,
        SessionEventBroker.unregistered] at called
      exact called ▸ .ignored _
    | false =>
      simp [call, SessionEventBroker.subscribe, closed, register,
        SessionEventBroker.registerLocked] at called
      have inserted := @Called.registered Payload world thread
        (.subscribe cursor) false none (world.broker.replayAfter cursor) [] closed (by simp)
      simpa [enter, ← called, closed] using inserted
  | subscribeFrom cursor onClose => exact called_of_subscribeFrom called
  | forwardTo cursor => exact called_of_forwardTo called
  | closeSubscription id =>
    simp only [call] at called
    split at called
    case isFalse => cases called
    case isTrue known =>
      by_cases ended : id ∈ world.broker.closedRecords
      · simp [SessionEventBroker.closeSubscription, ended] at called
        exact called ▸ .ignored _
      · simp only [SessionEventBroker.closeSubscription, ended, if_false,
          Option.some.injEq] at called
        exact called ▸ .unsubscribed id known ended
  | close =>
    cases closed : world.broker.closed with
    | true =>
      simp [call, SessionEventBroker.close, closed, enter] at called
      exact called ▸ .ignored _
    | false =>
      have ended := @Called.closed Payload world thread closed
      cases dispatching : world.broker.dispatching <;>
        simp [call, SessionEventBroker.close, closed, SessionEventBroker.claimLocked,
          dispatching, enter] at called <;>
        simpa [enter, ← called, closed, dispatching] using ended
  | take => cases called
  | restore => cases called

/-! ### What a drainer can do -/

/-- The world after its only drainer moved to another state. -/
def resume (world : DispatchWorld Payload) (thread : ℕ) (state : DrainerState Payload)
    (firstException : Option Raised) : DispatchWorld Payload :=
  { world with active := [(thread, ⟨state, firstException⟩)] }

/-- Everything the only drainer of a world can do, by itself or with the
outcome of the callback it runs. -/
inductive Moved (world : DispatchWorld Payload) (thread : ℕ) :
    DrainerState Payload → DispatchLabel Payload → DispatchWorld Payload → Prop where
  | taken (envelope : SessionEventEnvelope Payload) (records : List SubscriberRecord)
      (rest : List (SessionEventEnvelope Payload × List SubscriberRecord))
      (first : Option Raised) (queued : world.broker.delivery = (envelope, records) :: rest) :
      Moved world thread .loop (.advance thread)
        ({ world with broker := { world.broker with delivery := rest } }.resume thread
          (.deliver envelope records) first)
  | notifying (first : Option Raised) (drained : world.broker.delivery = [])
      (closed : world.broker.closed = true) (unnotified : world.broker.closeNotified = false) :
      Moved world thread .loop (.advance thread)
        ({ world with broker := { world.broker with
            closeNotified := true, pendingClose := [], dispatching := false } }.resume thread
          (.notify world.broker.pendingClose) first)
  | released (drained : world.broker.delivery = [])
      (nothing : world.broker.closed = true → world.broker.closeNotified = true) :
      Moved world thread .loop (.advance thread)
        { world with broker := { world.broker with dispatching := false }, active := [] }
  | exhausted (envelope : SessionEventEnvelope Payload) (first : Option Raised) :
      Moved world thread (.deliver envelope []) (.advance thread)
        (world.resume thread .loop first)
  | invoked (envelope : SessionEventEnvelope Payload) (record : SubscriberRecord)
      (rest : List SubscriberRecord) (first : Option Raised) :
      Moved world thread (.deliver envelope (record :: rest)) (.advance thread)
        ({ world with history := { world.history with
            invoked := world.history.invoked ++ [(record.id, envelope)] } }.resume thread
          (.callback envelope record rest) first)
  /-- The callback returned, or raised what the drainer holds back. -/
  | returned (envelope : SessionEventEnvelope Payload) (record : SubscriberRecord)
      (rest : List SubscriberRecord) (outcome first : Option Raised) :
      Moved world thread (.callback envelope record rest) (.finish thread outcome)
        (world.resume thread (.deliver envelope rest) first)
  | exited (envelope : SessionEventEnvelope Payload) (record : SubscriberRecord)
      (rest : List SubscriberRecord) (raised : Raised) (first : Option Raised)
      (exits : raised.isProcessExit = true) :
      Moved world thread (.callback envelope record rest) (.finish thread (some raised))
        (world.resume thread (.caught raised) first)
  | heldBack (raised : Raised) (first : Option Raised) (closed : world.broker.closed = true) :
      Moved world thread (.caught raised) (.advance thread) (world.resume thread .loop first)
  | escaped (raised : Raised) (first : Option Raised) (opened : world.broker.closed = false) :
      Moved world thread (.caught raised) (.advance thread)
        (world.resume thread (.escaping raised) first)
  | restored (raised : Raised) :
      Moved world thread (.escaping raised) (.advance thread)
        { world with broker := { world.broker with dispatching := false }, active := [] }
  | notifiedAll :
      Moved world thread (.notify []) (.advance thread) { world with active := [] }
  | passedOver (record : SubscriberRecord) (rest : List SubscriberRecord)
      (first : Option Raised) (silent : record.onClose = false) :
      Moved world thread (.notify (record :: rest)) (.advance thread)
        (world.resume thread (.notify rest) first)
  | notified (record : SubscriberRecord) (rest : List SubscriberRecord)
      (first : Option Raised) (listens : record.onClose = true) :
      Moved world thread (.notify (record :: rest)) (.advance thread)
        ({ world with history := { world.history with
            notified := world.history.notified ++ [record.id] } }.resume thread
          (.onClose record rest) first)
  | closeReturned (record : SubscriberRecord) (rest : List SubscriberRecord)
      (outcome first : Option Raised) :
      Moved world thread (.onClose record rest) (.finish thread outcome)
        (world.resume thread (.notify rest) first)
  | closeExited (record : SubscriberRecord) (rest : List SubscriberRecord) (raised : Raised)
      (first : Option Raised) (exits : raised.isProcessExit = true) :
      Moved world thread (.onClose record rest) (.finish thread (some raised))
        (world.resume thread (.escaping raised) first)

theorem takeLocked_of_drained {broker : SessionEventBroker Payload}
    (drained : broker.delivery = []) :
    broker.takeLocked =
      if broker.closed = true ∧ broker.closeNotified = false then
        ({ broker with closeNotified := true, pendingClose := [], dispatching := false },
          .notifyClose broker.pendingClose)
      else ({ broker with dispatching := false }, .stop) := by
  unfold SessionEventBroker.takeLocked
  split
  case h_1 queued => simp [drained] at queued
  case h_2 => rfl

variable {drainer : Drainer Payload}

theorem moved_of_advance (single : world.active = [(thread, drainer)])
    (advanced : world.advance thread drainer = some next) :
    Moved world thread drainer.state (.advance thread) next := by
  rcases drainer with ⟨state, first⟩
  cases state with
  | loop =>
    cases queued : world.broker.delivery with
    | cons item rest =>
      rcases item with ⟨envelope, records⟩
      simp only [advance, SessionEventBroker.takeLocked, queued, single, replaceTop, if_true,
        Option.some.injEq] at advanced
      exact advanced ▸ .taken envelope records rest first queued
    | nil =>
      by_cases closing : world.broker.closed = true ∧ world.broker.closeNotified = false
      · simp only [advance, takeLocked_of_drained queued, if_pos closing, single, replaceTop,
          if_true] at advanced
        exact Option.some.inj advanced ▸ .notifying first queued closing.1 closing.2
      · simp only [advance, takeLocked_of_drained queued, if_neg closing, single, replaceTop,
          if_true] at advanced
        refine Option.some.inj advanced ▸ .released queued fun closed => ?_
        simpa [closed] using closing
  | deliver envelope records =>
    cases records with
    | nil =>
      simp only [advance, single, replaceTop, if_true, Option.some.injEq] at advanced
      exact advanced ▸ .exhausted envelope first
    | cons record rest =>
      simp only [advance, single, replaceTop, if_true, Option.some.injEq] at advanced
      exact advanced ▸ .invoked envelope record rest first
  | callback envelope record rest => cases advanced
  | caught raised =>
    by_cases closed : world.broker.closed = true
    · simp only [advance, single, replaceTop, if_true] at advanced
      rw [if_pos closed] at advanced
      exact Option.some.inj advanced ▸ .heldBack raised _ closed
    · simp only [advance, single, replaceTop, if_true] at advanced
      rw [if_neg closed] at advanced
      exact Option.some.inj advanced ▸ .escaped raised first (by simpa using closed)
  | escaping raised =>
    simp only [advance, single, replaceTop, if_true, Option.some.injEq] at advanced
    exact advanced ▸ .restored raised
  | notify records =>
    cases records with
    | nil =>
      simp only [advance, single, replaceTop, if_true, Option.some.injEq] at advanced
      exact advanced ▸ .notifiedAll
    | cons record rest =>
      by_cases listens : record.onClose = true
      · simp only [advance, single, replaceTop, if_true, listens,
          Option.some.injEq] at advanced
        exact advanced ▸ .notified record rest first listens
      · simp only [advance, single, replaceTop, if_true, listens, Bool.false_eq_true, if_false,
          Option.some.injEq] at advanced
        exact advanced ▸ .passedOver record rest first (by simpa using listens)
  | onClose record rest => cases advanced

theorem moved_of_finish {outcome : Option Raised} (single : world.active = [(thread, drainer)])
    (finished : world.finish thread drainer outcome = some next) :
    Moved world thread drainer.state (.finish thread outcome) next := by
  rcases drainer with ⟨state, first⟩
  cases state with
  | callback envelope record rest =>
    cases outcome with
    | none =>
      simp only [finish, single, replaceTop, if_true, Option.some.injEq] at finished
      exact finished ▸ .returned envelope record rest none _
    | some raised =>
      cases exits : raised.isProcessExit with
      | true =>
        simp only [finish, single, replaceTop, if_true, exits, Option.some.injEq] at finished
        exact finished ▸ .exited envelope record rest raised first exits
      | false =>
        simp only [finish, single, replaceTop, if_true, exits, Option.some.injEq] at finished
        exact finished ▸ .returned envelope record rest (some raised) _
  | onClose record rest =>
    cases outcome with
    | none =>
      simp only [finish, single, replaceTop, if_true, Option.some.injEq] at finished
      exact finished ▸ .closeReturned record rest none _
    | some raised =>
      cases exits : raised.isProcessExit with
      | true =>
        simp only [finish, single, replaceTop, if_true, exits, Option.some.injEq] at finished
        exact finished ▸ .closeExited record rest raised first exits
      | false =>
        simp only [finish, single, replaceTop, if_true, exits, Option.some.injEq] at finished
        exact finished ▸ .closeReturned record rest (some raised) _
  | _ => cases finished

/-- With at most one drainer, every step is a call or a move of that drainer. -/
theorem step_cases {label : DispatchLabel Payload}
    (single : world.active.length ≤ 1) (stepped : world.step label = some next) :
    (∃ thread method, label = .call thread method ∧ Called world thread method next) ∨
      ∃ thread drainer, world.active = [(thread, drainer)] ∧
        Moved world thread drainer.state label next := by
  have found : ∀ {thread drainer}, world.top thread = some drainer →
      world.active = [(thread, drainer)] := by
    intro thread drainer top
    match active : world.active, single with
    | [], _ => simp [DispatchWorld.top, active] at top
    | [(owner, other)], _ =>
      by_cases same : owner = thread
      · simp only [DispatchWorld.top, active, same, List.find?_cons, decide_true,
          Option.map_some, Option.some.injEq] at top
        rw [same, top]
      · simp [DispatchWorld.top, active, same] at top
  cases label with
  | call thread method =>
    left
    rcases Option.ite_none_right_eq_some.mp stepped with ⟨_, stepped⟩
    exact ⟨thread, method, rfl, called_of_call stepped⟩
  | advance thread =>
    right
    simp only [step, Option.bind_eq_some_iff] at stepped
    rcases stepped with ⟨drainer, top, advanced⟩
    exact ⟨thread, drainer, found top, moved_of_advance (found top) advanced⟩
  | finish thread outcome =>
    right
    simp only [step, Option.bind_eq_some_iff] at stepped
    rcases stepped with ⟨drainer, top, finished⟩
    exact ⟨thread, drainer, found top, moved_of_finish (found top) finished⟩

end DispatchWorld

end Synapse
