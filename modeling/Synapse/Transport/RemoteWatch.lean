import Synapse.Foundation.Machine

/-!
# The remote event watch

Model of `_RemoteEventWatch` with its task `_run`, and of the iterator that it hands to the
consumer. A step goes from one `await` to the next; what the connection, the backoff policy and
the consumer do is in the labels. The payload of an event is a parameter: the watch looks at the
sequence only.
-/

namespace Synapse.Transport

abbrev SubscriptionId := ℕ

structure RemoteEvent (Payload : Type) where
  sequence : ℕ
  payload : Payload
  deriving DecidableEq, Repr

/-- The errors that the watch tells apart. -/
inductive WatchError where
  | auth
  | versionNegotiation
  | replayGap
  | subscription (serviceCode : String)
  | protocol
  | overflow
  | connectionLost
  | clientClosed
  deriving DecidableEq, Repr

/-- How `_open_generation` can fail. -/
inductive OpenError where
  /-- One of the five classes that `_run` treats as final. -/
  | typed (error : WatchError)
  | cancelled
  /-- Any other exception. -/
  | other
  deriving DecidableEq, Repr

/-- A frame as far as `_notification` reads it. A frame that fails its checks of shape is
`malformed`. -/
inductive Notification (Payload : Type) where
  | event (subscription : SubscriptionId) (event : RemoteEvent Payload) (cursor : ℕ)
  | complete (subscription : SubscriptionId) (cursor : ℕ)
  | error (subscription : SubscriptionId) (serviceCode : String)
  | malformed
  deriving DecidableEq, Repr

/-- Where the task `_run` is. -/
inductive RunPhase where
  /-- It waits in `recv` on the connection of this generation. -/
  | receiving (generation : ℕ)
  /-- It closes a connection that was lost. -/
  | dropping
  | sleeping
  | opening
  /-- It closes the connection in `_terminal_error`, or in `_terminal_eof`. -/
  | ending (failed : Bool)
  | ended
  deriving DecidableEq, Repr

/-- What a call of `__anext__` comes to. -/
inductive Outcome (Payload : Type) where
  | event (event : RemoteEvent Payload)
  | error (error : WatchError)
  | stopped
  deriving DecidableEq, Repr

/-- The bounds that the client checks when it is made. -/
structure WatchSettings where
  maxAttempts : ℕ
  queueSize : ℕ
  attempted : 0 < maxAttempts
  roomy : 0 < queueSize
  deriving DecidableEq

structure RemoteEventWatch (Payload : Type) where
  settings : WatchSettings
  lastCursor : ℕ
  /-- A `none` is the marker that wakes a consumer at the end. -/
  queue : List (Option (RemoteEvent Payload))
  /-- The generation whose connection is the current one. -/
  connection : Option ℕ
  generation : ℕ
  subscriptionId : SubscriptionId
  closed : Bool
  terminal : Bool
  terminalErrorValue : Option WatchError
  attempts : ℕ
  phase : RunPhase
  /-- The consumer is blocked in `queue.get`. -/
  waiting : Bool
  /-- What the calls of `__anext__` came to so far. -/
  outcomes : List (Outcome Payload)
  deriving DecidableEq

inductive WatchLabel (Payload : Type) where
  | receive (notification : Notification Payload)
  /-- `recv` raises, or the frame cannot be decoded. -/
  | lose
  /-- The connection is closed. -/
  | closed
  | slept
  /-- `_backoff_sleep` raises `ClientClosedError`, or the `TransportError` of a bad delay. -/
  | backoffFails (closing : Bool)
  | opened (subscription : SubscriptionId) (cursor : ℕ)
  | openFails (error : OpenError)
  /-- The consumer calls `__anext__`. -/
  | next
  /-- A blocked consumer takes an item. -/
  | take
  | aclose
  deriving DecidableEq, Repr

namespace RemoteEventWatch

variable {Payload : Type}

/-- The watch after `__aenter__`, with its first generation open. -/
def entered (settings : WatchSettings) (after : ℕ) (subscription : SubscriptionId) :
    RemoteEventWatch Payload where
  settings := settings
  lastCursor := after
  queue := []
  connection := some 1
  generation := 1
  subscriptionId := subscription
  closed := false
  terminal := false
  terminalErrorValue := none
  attempts := 0
  phase := .receiving 1
  waiting := false
  outcomes := []

/-- The start of `_terminal_error`, up to the close. -/
def terminalError (watch : RemoteEventWatch Payload) (error : WatchError) :
    RemoteEventWatch Payload :=
  if watch.terminal then { watch with phase := .ended }
  else
    { watch with
      terminal := true, terminalErrorValue := some error, connection := none,
      phase := .ending true }

/-- The start of `_terminal_eof`, up to the close. -/
def terminalEof (watch : RemoteEventWatch Payload) : RemoteEventWatch Payload :=
  if watch.terminal then { watch with phase := .ended }
  else { watch with terminal := true, connection := none, phase := .ending false }

/-- The head of the outer loop of `_run`. -/
def loop (watch : RemoteEventWatch Payload) : RemoteEventWatch Payload :=
  if watch.closed then { watch with phase := .ended }
  else
    match watch.connection with
    | none => { watch with phase := .ended }
    | some _ => { watch with phase := .receiving watch.generation }

/-- The test of the inner loop, on the connection of one generation. -/
def current (watch : RemoteEventWatch Payload) (generation : ℕ) : Bool :=
  decide (watch.connection = some generation) && decide (watch.generation = generation)

/-- `_notification`, with what `_run` does on its error. -/
def notification (watch : RemoteEventWatch Payload) :
    Notification Payload → RemoteEventWatch Payload
  | .event subscription event cursor =>
    if subscription ≠ watch.subscriptionId then watch.terminalError .protocol
    else if cursor ≤ watch.lastCursor ∨ event.sequence ≠ cursor then
      watch.terminalError .protocol
    else if watch.settings.queueSize ≤ watch.queue.length then watch.terminalError .overflow
    else { watch with queue := watch.queue ++ [some event], lastCursor := cursor }
  | .complete subscription cursor =>
    if subscription ≠ watch.subscriptionId ∨ cursor < watch.lastCursor then
      watch.terminalError .protocol
    else watch.terminalEof
  | .error subscription serviceCode =>
    if subscription ≠ watch.subscriptionId then watch.terminalError .protocol
    else if serviceCode = "replay_gap" then watch.terminalError .replayGap
    else watch.terminalError (.subscription serviceCode)
  | .malformed => watch.terminalError .protocol

/-- `recv` has returned a frame. -/
def receive (watch : RemoteEventWatch Payload) (notification : Notification Payload) :
    Option (RemoteEventWatch Payload) :=
  match watch.phase with
  | .receiving _ => some (watch.notification notification)
  | _ => none

/-- `recv` has raised. A stale generation ends without touching its successor. -/
def lose (watch : RemoteEventWatch Payload) : Option (RemoteEventWatch Payload) :=
  match watch.phase with
  | .receiving generation =>
    if watch.current generation then
      some { watch with connection := none, phase := .dropping }
    else some { watch with phase := .ended }
  | _ => none

/-- `_close_connection` returns. -/
def closeDone (watch : RemoteEventWatch Payload) : Option (RemoteEventWatch Payload) :=
  match watch.phase with
  | .dropping =>
    if watch.settings.maxAttempts ≤ watch.attempts + 1 ∨ watch.closed = true then
      some ({ watch with attempts := watch.attempts + 1 }.terminalError .connectionLost)
    else some { watch with attempts := watch.attempts + 1, phase := .sleeping }
  | .ending true => some { watch with queue := [none], phase := .ended }
  | .ending false =>
    some { watch with
      queue := if watch.queue.isEmpty then [none] else watch.queue, phase := .ended }
  | _ => none

def backoffFails (watch : RemoteEventWatch Payload) (closing : Bool) :
    Option (RemoteEventWatch Payload) :=
  match watch.phase with
  | .sleeping =>
    if closing then some (watch.terminalError .clientClosed)
    -- Nothing catches a `TransportError` here.
    else some { watch with phase := .ended }
  | _ => none

/-- The response to the new watch request. -/
def opened (watch : RemoteEventWatch Payload) (subscription : SubscriptionId) (cursor : ℕ) :
    Option (RemoteEventWatch Payload) :=
  match watch.phase with
  | .opening =>
    if cursor ≠ watch.lastCursor then some (watch.terminalError .protocol)
    else
      some { watch with
        generation := watch.generation + 1, subscriptionId := subscription,
        connection := some (watch.generation + 1) }.loop
  | _ => none

def openFails (watch : RemoteEventWatch Payload) (error : OpenError) :
    Option (RemoteEventWatch Payload) :=
  match watch.phase, error with
  | .opening, .typed error => some (watch.terminalError error)
  | .opening, .cancelled => some { watch with phase := .ended }
  | .opening, .other =>
    if watch.settings.maxAttempts ≤ watch.attempts + 1 then
      some ({ watch with attempts := watch.attempts + 1 }.terminalError .connectionLost)
    else some { watch with attempts := watch.attempts + 1 }.loop
  | _, _ => none

/-- The end of the iteration: the error once, and then the end of the stream. -/
def finish (watch : RemoteEventWatch Payload) : RemoteEventWatch Payload :=
  match watch.terminalErrorValue with
  | some error =>
    { watch with terminalErrorValue := none, outcomes := watch.outcomes ++ [.error error] }
  | none => { watch with outcomes := watch.outcomes ++ [.stopped] }

/-- The consumer has an item of the queue. -/
def hand (watch : RemoteEventWatch Payload) (rest : List (Option (RemoteEvent Payload))) :
    Option (RemoteEvent Payload) → RemoteEventWatch Payload
  | some event =>
    { watch with queue := rest, waiting := false, outcomes := watch.outcomes ++ [.event event] }
  | none => { watch with queue := rest, waiting := false }.finish

/-- `__anext__`, up to its `await`. -/
def anext (watch : RemoteEventWatch Payload) : Option (RemoteEventWatch Payload) :=
  if watch.waiting then none
  else
    match watch.queue with
    | [] => if watch.terminal then some watch.finish else some { watch with waiting := true }
    | item :: rest => some (watch.hand rest item)

def take (watch : RemoteEventWatch Payload) : Option (RemoteEventWatch Payload) :=
  match watch.waiting, watch.queue with
  | true, item :: rest => some (watch.hand rest item)
  | _, _ => none

/-- `aclose` cancels the task and ends the stream. -/
def aclose (watch : RemoteEventWatch Payload) : RemoteEventWatch Payload :=
  if watch.closed then watch
  else
    { watch with
      closed := true, connection := none, phase := .ended, terminal := true,
      queue :=
        if watch.terminal = false ∧ watch.queue.length < watch.settings.queueSize then
          watch.queue ++ [none]
        else watch.queue }

def step (watch : RemoteEventWatch Payload) :
    WatchLabel Payload → Option (RemoteEventWatch Payload)
  | .receive notification => watch.receive notification
  | .lose => watch.lose
  | .closed => watch.closeDone
  | .slept =>
    match watch.phase with
    | .sleeping => some { watch with phase := .opening }
    | _ => none
  | .backoffFails closing => watch.backoffFails closing
  | .opened subscription cursor => watch.opened subscription cursor
  | .openFails error => watch.openFails error
  | .next => watch.anext
  | .take => watch.take
  | .aclose => some watch.aclose

def machine : Machine (RemoteEventWatch Payload) (WatchLabel Payload) where
  step := step

end RemoteEventWatch

end Synapse.Transport
