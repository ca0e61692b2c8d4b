import Synapse.Foundation.Machine
import Synapse.Service.Projection

/-!
# Watch streams

Model of `LocalEventStream` and of the folding of text deltas. A step is a section under the
ingress lock: `_ingest`, the close callbacks and `close` take one each, `open` takes one for each
event of the replay window and one at its end, and `_drain` takes one to detach the ingress and
one to commit what it has projected. `open`, `_drain` and `__anext__` run on the service loop, so
they do not overlap.

What stands in a queue carries the envelopes that it was made of, as history.
-/

namespace Synapse.Service

def mergeTextLimit : ℕ := 64 * 1024
def mergeByteOverhead : ℕ := 512

def coalescibleKinds : List Text :=
  [Text.ofString "answer_delta", Text.ofString "reasoning_delta"]

structure StreamSettings where
  queueSize : ℕ
  roomy : 0 < queueSize
  maxEventBytes : ℕ
  /-- The event filter; an empty list lets everything pass. -/
  kinds : List Text
  turnIds : List Text

/-- `matches_event` -/
def StreamSettings.matchesEvent (settings : StreamSettings) (envelope : Envelope) : Bool :=
  (decide (settings.kinds = []) || decide (envelope.kind ∈ settings.kinds)) &&
    (decide (settings.turnIds = []) || decide (envelope.turnId ∈ settings.turnIds))

/-- `_merge_budget` -/
def StreamSettings.mergeBudget (settings : StreamSettings) : ℕ :=
  min mergeTextLimit (settings.maxEventBytes - mergeByteOverhead) / 4

/-! ### Folding text deltas -/

def textKey : Key := .str (Text.ofString "text")
def messageIdKey : Key := .str (Text.ofString "message_id")

/-- A message id, where it is a string or missing. -/
def messageId : Option Value → Option (Option Text)
  | none | some .null => some none
  | some (.str _ id) => some (some id)
  | some _ => none

/-- `_text_delta_payload`. A record with the fields of `TextPayload` is one. -/
def textDelta : Value → Option (Text × Option Text)
  | .record (.cons first (.str _ text) (.cons second id .nil)) =>
    if first = textKey ∧ second = messageIdKey then (messageId (some id)).map fun id => (text, id)
    else none
  | .mapping _ entries =>
    if entries.keys.all fun key => decide (key = textKey) || decide (key = messageIdKey) then
      match entries.get? (Text.ofString "text") with
      | some (.str _ text) =>
        (messageId (entries.get? (Text.ofString "message_id"))).map fun id => (text, id)
      | _ => none
    else none
  | _ => none

/-- The part of an event that folding looks at. -/
structure Delta where
  kind : Text
  turnId : Text
  payload : Value
  deriving DecidableEq

def Envelope.delta (envelope : Envelope) : Delta :=
  ⟨envelope.kind, envelope.turnId, envelope.payload⟩

def RuntimeEvent.delta (event : RuntimeEvent) : Delta :=
  ⟨event.kind, event.turnId, event.payload⟩

/-- `_fold_text_deltas` -/
def foldTextDeltas (tail arriving : Delta) (budget : ℕ) : Option (Text × Option Text) :=
  if tail.kind ∉ coalescibleKinds ∨ tail.kind ≠ arriving.kind ∨ tail.turnId ≠ arriving.turnId then
    none
  else
    match textDelta tail.payload, textDelta arriving.payload with
    | some (left, leftId), some (right, rightId) =>
      if leftId ≠ rightId then none
      else if budget < (left ++ right).length then none
      else some (left ++ right, leftId)
    | _, _ => none

/-- `TextPayload(text=text, message_id=message_id)` -/
def textPayload (text : Text) (id : Option Text) : Value :=
  .record (.cons textKey (.str true text) (.cons messageIdKey (id.elim .null (.str true)) .nil))

/-- `_merged_envelope` -/
def mergedEnvelope (arriving : Envelope) (folded : Text × Option Text) : Envelope :=
  { arriving with payload := textPayload folded.1 folded.2 }

/-- `{**entries, name: value}` -/
def putEntry (name : Key) (value : Value) : Entries → Entries
  | .nil => .cons name value .nil
  | .cons key before rest =>
    if key = name then .cons key value rest else .cons key before (putEntry name value rest)

/-- `_merged_runtime_event` -/
def mergedRuntimeEvent (tail : RuntimeEvent) (arriving : Envelope) (folded : Text × Option Text) :
    RuntimeEvent where
  sequence := arriving.sequence
  turnSequence := arriving.turnSequence
  turnId := tail.turnId
  kind := tail.kind
  payload :=
    match tail.payload with
    | .mapping _ entries => .mapping true (putEntry textKey (.str true folded.1) entries)
    | _ => .mapping true (.cons textKey (.str true folded.1) .nil)
  version := tail.version

/-! ### The stream -/

inductive StreamError where
  | invalidPayload (reason : Rejection)
  | tooLarge (actual limit : ℕ)
  | overflow
  deriving DecidableEq, Repr

/-- The errors that `open` and `_drain` convert; anything else passes them. -/
def EventFailure.error? : EventFailure → Option StreamError
  | .invalidPayload reason => some (.invalidPayload reason)
  | .tooLarge actual limit => some (.tooLarge actual limit)
  | .escaped _ => none

structure Ingressed where
  envelope : Envelope
  sources : List Envelope
  deriving DecidableEq

structure Projected where
  event : RuntimeEvent
  sources : List Envelope
  deriving DecidableEq

/-- What the broker has retained behind the start cursor, without a gap. -/
structure Window where
  after : ℕ
  events : List Envelope
  contiguous : events.map Envelope.sequence = List.range' (after + 1) events.length

/-- Where `open` is. -/
inductive Opening where
  | scanning (rest : List Envelope) (replay : List Projected)
  /-- An event of the window has no projection, and the error is not committed. -/
  | refusing (error : StreamError)
  /-- An exception that is not converted is about to leave `open`. -/
  | raising
  | opened
  /-- `open` has raised. -/
  | failed
  deriving DecidableEq

structure LocalEventStream where
  ingress : List Ingressed
  live : List Projected
  replay : List Projected
  pending : ℕ
  drainScheduled : Bool
  error : Option StreamError
  raisedError : Bool
  overflowed : Bool
  closed : Bool
  brokerClosed : Bool
  cursor : ℕ
  scannedCursor : ℕ
  pendingMatches : List ℕ
  opening : Opening
  /-- The batch that a running `_drain` has detached. -/
  batch : Option (List Ingressed)
  /-- The sequence of the last event that the session has published. -/
  latest : ℕ
  /-- Every event of the session behind the start cursor, as far as it is published. -/
  inputs : List Envelope
  returned : List Projected
  raised : List StreamError
  /-- How often `__anext__` has ended the iteration. -/
  stops : ℕ
  consumerClosed : Bool
  loopClosed : Bool
  sourceClosed : Bool
  deriving DecidableEq

inductive StreamLabel where
  /-- `open` goes on. -/
  | open
  /-- The session publishes an event. -/
  | ingest (envelope : Envelope)
  | brokerClose
  | close
  /-- `call_soon_threadsafe` finds the loop closed. -/
  | loopClosed
  | drain
  | commit
  /-- `__anext__` finds something to return or to raise. -/
  | anext
  deriving DecidableEq, Repr

namespace LocalEventStream

/-- The stream with its callback registered, before `open` looks at the window. -/
def subscribed (window : Window) : LocalEventStream where
  ingress := []
  live := []
  replay := []
  pending := 0
  drainScheduled := false
  error := none
  raisedError := false
  overflowed := false
  closed := false
  brokerClosed := false
  cursor := window.after
  scannedCursor := window.after
  pendingMatches := []
  opening := .scanning window.events []
  batch := none
  latest := window.after + window.events.length
  inputs := window.events
  returned := []
  raised := []
  stops := 0
  consumerClosed := false
  loopClosed := false
  sourceClosed := false

/-! #### The cursor -/

/-- `_advance_cursor_locked` -/
def advanceCursor (stream : LocalEventStream) (sequence : ℕ) : LocalEventStream :=
  let scanned := max stream.scannedCursor sequence
  { stream with
    scannedCursor := scanned
    cursor := match stream.pendingMatches.min? with
      | some first => first - 1
      | none => scanned }

/-- `_record_scan_locked`, for an event that matches. -/
def recordScan (stream : LocalEventStream) (sequence : ℕ) : LocalEventStream :=
  { stream with pendingMatches := stream.pendingMatches ++ [sequence] }.advanceCursor sequence

/-- `_mark_delivered_locked` -/
def markDelivered (stream : LocalEventStream) (sequence : ℕ) : LocalEventStream :=
  { stream with
    pendingMatches := stream.pendingMatches.filter fun item => decide (sequence < item)
    }.advanceCursor sequence

/-! #### Ends -/

/-- The buffers are emptied. -/
def clear (stream : LocalEventStream) : LocalEventStream :=
  { stream with ingress := [], live := [], replay := [], pending := 0 }

/-- `_fail_locked` -/
def fail (stream : LocalEventStream) (error : StreamError) : LocalEventStream :=
  match stream.error with
  | some _ => stream.clear
  | none => { stream.clear with error := some error, overflowed := true, closed := true }

/-- The end of the stream for an exception that is not converted. -/
def abort (stream : LocalEventStream) : LocalEventStream :=
  { stream.clear with closed := true, brokerClosed := true }

/-! #### The producer -/

/-- `_coalesce_locked` -/
def coalesce (settings : StreamSettings) (stream : LocalEventStream) (envelope : Envelope) :
    Option LocalEventStream :=
  if envelope.kind ∉ coalescibleKinds ∨ settings.mergeBudget = 0 then none
  else
    match stream.ingress.getLast? with
    | some tail =>
      (foldTextDeltas tail.envelope.delta envelope.delta settings.mergeBudget).map fun folded =>
        { stream with
          ingress := stream.ingress.dropLast ++
            [⟨mergedEnvelope envelope folded, tail.sources ++ [envelope]⟩] }
    | none =>
      match stream.live.getLast? with
      | some tail =>
        (foldTextDeltas tail.event.delta envelope.delta settings.mergeBudget).map fun folded =>
          { stream with
            live := stream.live.dropLast ++
              [⟨mergedRuntimeEvent tail.event envelope folded, tail.sources ++ [envelope]⟩] }
      | none => none

/-- `_ingest` -/
def ingest (settings : StreamSettings) (stream : LocalEventStream) (envelope : Envelope) :
    LocalEventStream :=
  if stream.overflowed || stream.closed || stream.brokerClosed then stream
  else if settings.matchesEvent envelope = false then stream.advanceCursor envelope.sequence
  else
    let scanned := stream.recordScan envelope.sequence
    if settings.queueSize ≤ scanned.pending then
      { (coalesce settings scanned envelope).getD (scanned.fail .overflow) with
        drainScheduled := true }
    else
      { scanned with
        ingress := scanned.ingress ++ [⟨envelope, [envelope]⟩], pending := scanned.pending + 1
        drainScheduled := true }

/-! #### The service loop -/

/-- `open` behind the subscription. -/
def openStep (settings : StreamSettings) (stream : LocalEventStream) : Option LocalEventStream :=
  match stream.opening with
  | .scanning (envelope :: rest) replay =>
    if settings.matchesEvent envelope then
      let scanned := stream.recordScan envelope.sequence
      match toRuntimeEvent settings.maxEventBytes envelope with
      | .ok event => some { scanned with
          opening := .scanning rest (replay ++ [⟨event, [envelope]⟩]) }
      | .error failure => some { scanned with
          opening := match failure.error? with
            | some error => .refusing error
            | none => .raising }
    else some { stream.advanceCursor envelope.sequence with opening := .scanning rest replay }
  | .scanning [] replay =>
    if stream.overflowed || stream.closed || stream.error.isSome then
      some { stream with opening := .opened }
    else some { stream with replay := replay, opening := .opened }
  | .refusing error =>
    -- an error that is committed already surfaces from `__anext__` instead
    if stream.error = none then some { stream.fail error with opening := .failed }
    else some { stream with opening := .opened }
  | .raising => some { stream.abort with opening := .failed }
  | .opened | .failed => none

/-- `open` is over. -/
def entered (stream : LocalEventStream) : Bool :=
  decide (stream.opening = .opened ∨ stream.opening = .failed)

/-- `_drain` up to the projection. -/
def drain (stream : LocalEventStream) : LocalEventStream :=
  if stream.overflowed then { stream.clear with drainScheduled := false }
  else
    match stream.ingress with
    | [] => { stream with drainScheduled := false }
    | items => { stream with drainScheduled := false, ingress := [], batch := some items }

/-- The projection of a batch. `_drain` tests the filter again, which the ingress has passed. -/
def projectBatch (settings : StreamSettings) : List Ingressed → Except EventFailure (List Projected)
  | [] => .ok []
  | item :: rest => do
      let event ← toRuntimeEvent settings.maxEventBytes item.envelope
      let others ← projectBatch settings rest
      return ⟨event, item.sources⟩ :: others

/-- The rest of `_drain`. -/
def commit (settings : StreamSettings) (stream : LocalEventStream) (items : List Ingressed) :
    LocalEventStream :=
  match projectBatch settings items with
  | .ok projected =>
    if stream.overflowed then { stream with batch := none }
    else { stream with live := stream.live ++ projected, batch := none }
  | .error failure =>
    match failure.error? with
    | some error => { stream.fail error with batch := none }
    | none => { stream.abort with batch := none }

def terminated (stream : LocalEventStream) : Bool :=
  (stream.closed || stream.brokerClosed || stream.overflowed) && !stream.drainScheduled &&
    stream.ingress.isEmpty && stream.live.isEmpty

def deliver (stream : LocalEventStream) (projected : Projected) : LocalEventStream :=
  { stream.markDelivered projected.event.sequence with
    returned := stream.returned ++ [projected] }

/-- `__anext__`, where it does not wait. -/
def anext (stream : LocalEventStream) : Option LocalEventStream :=
  match stream.error, stream.raisedError with
  | some error, false =>
    some { stream with raisedError := true, raised := stream.raised ++ [error] }
  | _, _ =>
    match stream.replay, stream.live with
    | projected :: rest, _ => some ({ stream with replay := rest }.deliver projected)
    | [], projected :: rest =>
      some ({ stream with live := rest, pending := stream.pending - 1 }.deliver projected)
    | [], [] =>
      if stream.terminated then some { stream with stops := stream.stops + 1 } else none

/-- `close` -/
def close (stream : LocalEventStream) : LocalEventStream :=
  if stream.closed then stream
  else { stream with closed := true, drainScheduled := true, consumerClosed := true }

def step (settings : StreamSettings) (stream : LocalEventStream) :
    StreamLabel → Option LocalEventStream
  | .open => openStep settings stream
  | .ingest envelope =>
    if envelope.sequence = stream.latest + 1 then
      some (ingest settings
        { stream with latest := envelope.sequence, inputs := stream.inputs ++ [envelope] }
        envelope)
    else none
  | .brokerClose =>
    some { stream with brokerClosed := true, sourceClosed := true, drainScheduled := true }
  | .close => some stream.close
  | .loopClosed =>
    if stream.drainScheduled ∧ stream.batch = none ∧ stream.entered then
      some { stream.clear with drainScheduled := false, closed := true, loopClosed := true }
    else none
  | .drain =>
    if stream.drainScheduled ∧ stream.batch = none ∧ stream.entered then some stream.drain
    else none
  | .commit => stream.batch.map (commit settings stream)
  | .anext =>
    if stream.opening = .opened ∧ stream.batch = none then stream.anext else none

def machine (settings : StreamSettings) : Machine LocalEventStream StreamLabel where
  step := step settings

end LocalEventStream

end Synapse.Service
