import Mathlib.Data.Int.Notation
import Synapse.Sessions.Event

/-!
# The session event broker

`SessionEventBroker` assigns the cross-turn sequence, retains recent events
under a bound, and queues deliveries to its subscribers. Every public method
takes the broker lock for one critical section; the definitions here are those
sections, as functions on the broker's fields.

A method that adds work to the delivery queue may also claim the drainer by
flipping `dispatching` from false to true. The section then returns `true`, and
the calling thread goes on to run `_dispatch` outside the lock, which is
modelled in `Synapse.Sessions.Dispatch`.
-/

namespace Synapse

/-- The shared state of one subscription: the callbacks it was registered with
are identified by `id`, and `onClose` says whether an `on_close` was given. -/
structure SubscriberRecord where
  id : ℕ
  onClose : Bool
  deriving DecidableEq, Repr

/-- Atomic retained-window snapshot relative to one session cursor. -/
structure SessionEventWindow (Payload : Type) where
  events : List (SessionEventEnvelope Payload)
  oldestSequence : ℕ
  latestSequence : ℕ
  gap : Bool

/-- What a subscribe call hands back. `record` is `none` for the permanently
closed record of a subscription that was never registered (identifier `-1`). -/
structure SessionSubscription (Payload : Type) where
  subscriptionId : ℤ
  replay : List (SessionEventEnvelope Payload)
  record : Option SubscriberRecord

/-- A cursor argument as Python passes it: an `int`, or a value of another type
(`bool` included), of which only the type name matters. -/
inductive CursorArgument where
  | int (value : ℤ)
  | other (typeName : String)
  deriving DecidableEq, Repr

/-- A cursor is outside the broker's valid `0..latest_sequence` range. -/
structure InvalidEventCursorError where
  requested : CursorArgument
  latest : ℕ
  deriving DecidableEq, Repr

/-- The error text; a value of another type is named, never shown. -/
def InvalidEventCursorError.message (error : InvalidEventCursorError) : String :=
  let shown := match error.requested with
    | .int value => toString value
    | .other typeName => typeName ++ " value"
  "event cursor must be an integer in the valid range 0.." ++ toString error.latest ++
    ", got " ++ shown

/-- The fields of a `SessionEventBroker`. `closedRecords` holds the identifiers
of the records whose `closed` flag has been set. -/
structure SessionEventBroker (Payload : Type) where
  threadId : Text
  maxEvents : ℕ
  hardCap : ℕ
  events : List (SessionEventEnvelope Payload)
  sequence : ℕ
  epoch : Text
  droppedThrough : ℕ
  latestTurnId : Option Text
  latestTurnStart : Option ℕ
  subscribers : List SubscriberRecord
  nextSubscriptionId : ℕ
  closed : Bool
  delivery : List (SessionEventEnvelope Payload × List SubscriberRecord)
  dispatching : Bool
  closeNotified : Bool
  pendingClose : List SubscriberRecord
  closedRecords : List ℕ

namespace SessionEventBroker

variable {Payload : Type}

/-- `__init__`: the bound is at least 16, the cap at least the bound. -/
def new (threadId : Text) (maxEvents : ℤ) (hardCap : Option ℤ) (epoch : Text) :
    SessionEventBroker Payload :=
  let bound := (max 16 maxEvents).toNat
  { threadId
    maxEvents := bound
    hardCap := match hardCap with
      | some cap => (max (bound : ℤ) cap).toNat
      | none => max (bound * 4) 1024
    events := []
    sequence := 0
    epoch
    droppedThrough := 0
    latestTurnId := none
    latestTurnStart := none
    subscribers := []
    nextSubscriptionId := 0
    closed := false
    delivery := []
    dispatching := false
    closeNotified := false
    pendingClose := []
    closedRecords := [] }

/-! ### Retention -/

def evictLocked (broker : SessionEventBroker Payload) (index : ℕ) : SessionEventBroker Payload :=
  match broker.events[index]? with
  | none => broker
  | some dropped =>
    { broker with
      events := broker.events.eraseIdx index
      droppedThrough := max broker.droppedThrough dropped.sequence }

/-- Evict the first preview event; without one, the oldest event, unless the
incoming event is lossless and the hard cap still allows the growth. -/
def makeRoomLocked (broker : SessionEventBroker Payload) (incoming : TurnEventKind) :
    SessionEventBroker Payload :=
  if broker.events.length < broker.maxEvents then broker
  else
    match broker.events.findIdx? fun envelope => envelope.event.kind ∈ TurnEventKind.preview with
    | some index => broker.evictLocked index
    | none =>
      if broker.hardCap ≤ broker.events.length ∨ incoming ∉ TurnEventKind.lossless then
        broker.evictLocked 0
      else broker

/-! ### Emitting -/

/-- Claim the drainer unless some thread already runs it. -/
def claimLocked (broker : SessionEventBroker Payload) : SessionEventBroker Payload × Bool :=
  if broker.dispatching then (broker, false) else ({ broker with dispatching := true }, true)

/-- The envelope that the next accepted event gets. -/
def nextEnvelope (broker : SessionEventBroker Payload) (event : TurnEvent Payload) :
    SessionEventEnvelope Payload :=
  { threadId := broker.threadId, sequence := broker.sequence + 1, turnId := event.turnId, event }

def emit (broker : SessionEventBroker Payload) (event : TurnEvent Payload) :
    SessionEventBroker Payload × Bool :=
  if broker.closed then (broker, false)
  else
    let envelope := broker.nextEnvelope event
    let numbered := { broker with sequence := broker.sequence + 1 }
    let roomy := numbered.makeRoomLocked event.kind
    let turned :=
      if some envelope.turnId = roomy.latestTurnId then roomy
      else
        { roomy with
          latestTurnId := some envelope.turnId
          latestTurnStart := some envelope.sequence }
    let retained := { turned with events := turned.events ++ [envelope] }
    if retained.subscribers = [] then (retained, false)
    else
      { retained with delivery := retained.delivery ++ [(envelope, retained.subscribers)] }.claimLocked

/-! ### Reading and subscribing -/

/-- Reject non-int cursors, then cursors outside `0..latest_sequence`. -/
def checkedCursorLocked (broker : SessionEventBroker Payload) (cursor : CursorArgument) :
    Except InvalidEventCursorError ℕ :=
  match cursor with
  | .other typeName => .error ⟨.other typeName, broker.sequence⟩
  | .int value =>
    if value < 0 ∨ (broker.sequence : ℤ) < value then .error ⟨.int value, broker.sequence⟩
    else .ok value.toNat

def windowLocked (broker : SessionEventBroker Payload) (cursor : ℕ) : SessionEventWindow Payload :=
  { events := broker.events.filter fun envelope => cursor < envelope.sequence
    oldestSequence := (broker.events.head?.map (·.sequence)).getD broker.sequence
    latestSequence := broker.sequence
    gap := cursor < broker.droppedThrough }

def readAfter (broker : SessionEventBroker Payload) (cursor : CursorArgument) :
    Except InvalidEventCursorError (SessionEventWindow Payload) :=
  return broker.windowLocked (← broker.checkedCursorLocked cursor)

/-- The subscription returned where nothing was registered. -/
def unregistered : SessionSubscription Payload := ⟨-1, [], none⟩

/-- The record of the next registered subscription. -/
def nextRecord (broker : SessionEventBroker Payload) (onClose : Bool) : SubscriberRecord :=
  ⟨broker.nextSubscriptionId + 1, onClose⟩

/-- Add the next record to the registry. -/
def registerLocked (broker : SessionEventBroker Payload) (onClose : Bool) :
    SessionEventBroker Payload × SubscriberRecord :=
  let record := broker.nextRecord onClose
  ({ broker with
      nextSubscriptionId := broker.nextSubscriptionId + 1
      subscribers := broker.subscribers ++ [record] }, record)

/-- The legacy cursor is not range-checked. -/
def replayAfter (broker : SessionEventBroker Payload) (cursor : ℤ) :
    List (SessionEventEnvelope Payload) :=
  broker.events.filter fun envelope => cursor < (envelope.sequence : ℤ)

def subscribe (broker : SessionEventBroker Payload) (cursor : ℤ) :
    SessionEventBroker Payload × SessionSubscription Payload :=
  if broker.closed then (broker, unregistered)
  else
    let (registered, record) := broker.registerLocked false
    (registered, ⟨record.id, broker.replayAfter cursor, some record⟩)

def subscribeFrom (broker : SessionEventBroker Payload) (cursor : CursorArgument)
    (onClose : Bool) : Except InvalidEventCursorError
      (SessionEventBroker Payload × SessionEventWindow Payload × SessionSubscription Payload) := do
  let checked ← broker.checkedCursorLocked cursor
  let window := broker.windowLocked checked
  if broker.closed ∨ window.gap then return (broker, window, unregistered)
  let (registered, record) := broker.registerLocked onClose
  return (registered, window, ⟨record.id, window.events, some record⟩)

/-- The replay rides the delivery queue, ahead of every later event. -/
def forwardTo (broker : SessionEventBroker Payload) (cursor : ℤ) :
    SessionEventBroker Payload × SessionSubscription Payload × Bool :=
  if broker.closed then (broker, unregistered, false)
  else
    let replay := broker.replayAfter cursor
    let (registered, record) := broker.registerLocked false
    let queued :=
      { registered with
        delivery := registered.delivery ++ replay.map fun envelope => (envelope, [record]) }
    let (claimed, dispatch) := if replay = [] then (queued, false) else queued.claimLocked
    (claimed, ⟨record.id, replay, some record⟩, dispatch)

/-! ### Closing -/

def close (broker : SessionEventBroker Payload) : SessionEventBroker Payload × Bool :=
  if broker.closed then (broker, false)
  else
    { broker with
      closed := true
      subscribers := []
      closedRecords := broker.closedRecords ++ broker.subscribers.map SubscriberRecord.id
      pendingClose := broker.subscribers }.claimLocked

/-- Closing one subscription never fires its `on_close`. -/
def closeSubscription (broker : SessionEventBroker Payload) (id : ℕ) :
    SessionEventBroker Payload :=
  if id ∈ broker.closedRecords then broker
  else
    { broker with
      closedRecords := broker.closedRecords ++ [id]
      subscribers := broker.subscribers.filter fun record => record.id ≠ id }

/-! ### The drainer's critical sections -/

/-- What the drainer found under the lock. -/
inductive Work (Payload : Type) where
  | deliver (envelope : SessionEventEnvelope Payload) (records : List SubscriberRecord)
  | notifyClose (records : List SubscriberRecord)
  | stop

/-- Take the next queued delivery; with none left, the close notification once,
and otherwise release the drainer. -/
def takeLocked (broker : SessionEventBroker Payload) : SessionEventBroker Payload × Work Payload :=
  match broker.delivery with
  | (envelope, records) :: rest => ({ broker with delivery := rest }, .deliver envelope records)
  | [] =>
    if broker.closed ∧ broker.closeNotified = false then
      ({ broker with closeNotified := true, pendingClose := [], dispatching := false },
        .notifyClose broker.pendingClose)
    else ({ broker with dispatching := false }, .stop)

/-- The `except BaseException` branch: give the drainer back. -/
def restoreLocked (broker : SessionEventBroker Payload) : SessionEventBroker Payload :=
  { broker with dispatching := false }

end SessionEventBroker

end Synapse
