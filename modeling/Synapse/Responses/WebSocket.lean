import Synapse.Foundation.Machine
import Synapse.Python.Text

/-!
# The shared Responses WebSocket

One background task owns the socket. The threads of the program put requests and closes into its
command queue, and each request brings the sender of a channel whose receiver is the iterator that
the thread reads. An iterator ends when its channel is empty and the sender is gone, for whatever
reason it went.
-/

namespace Synapse.Responses

universe u

variable {Body : Type u}

/-! ## Events -/

/-- A JSON object as the Python side reads it. -/
structure Payload (Body : Type u) where
  type : Option Text
  body : Body
  deriving DecidableEq

/-- An event of the socket. A stream event that cannot be serialized has no type. -/
inductive ResponseWebSocketEvent (Body : Type u) where
  | stream (type : Option Text) (body : Body)
  | error (body : Body)
  | unknown (type : Option Text) (body : Body)
  deriving DecidableEq

/-- The stream events that end a response. -/
def endingTypes : List (Option Text) :=
  ["response.completed", "response.failed", "response.incomplete"].map fun name =>
    some (.ofString name)

/-- `websocket_event_to_json`: the JSON of an event, and whether it is terminal. -/
def websocketEventToJson : ResponseWebSocketEvent Body → Payload Body × Bool
  | .stream type body => (⟨type, body⟩, decide (type ∈ endingTypes))
  | .error body => (⟨some (.ofString "error"), body⟩, true)
  | .unknown type body => (⟨type, body⟩, false)

/-- A terminal event: completed, failed, incomplete or an error. -/
def Payload.Terminal (payload : Payload Body) : Prop :=
  payload.type ∈ endingTypes ∨ payload.type = some (.ofString "error")

instance (payload : Payload Body) : Decidable payload.Terminal :=
  inferInstanceAs (Decidable (_ ∨ _))

/-! ## The state -/

/-- The receiving end of the channel of one request, with what its consumer has seen. -/
structure StreamIter (Body : Type u) where
  buffer : List (Except Text (Payload Body))
  /-- The sender of the channel exists. -/
  sending : Bool
  /-- The consumer still holds the iterator. -/
  receiving : Bool
  delivered : List (Payload Body)
  raised : List Text
  stopped : Bool
  deriving DecidableEq

def StreamIter.opened : StreamIter Body where
  buffer := []
  sending := true
  receiving := true
  delivered := []
  raised := []
  stopped := false

inductive WsCommand where
  | request (id : ℕ)
  | close
  deriving DecidableEq

/-- Where the task is: between commands, sending a frame, waiting for an event of a response, or
putting an event or an error into a channel. -/
inductive Task (Body : Type u) where
  | waiting
  | opening (id : ℕ)
  | serving (id : ℕ)
  | delivering (id : ℕ) (event : ResponseWebSocketEvent Body)
  | failing (id : ℕ) (message : Text)
  | ended
  deriving DecidableEq

/-- What happens on the socket. -/
inductive SocketStep (Body : Type u) where
  | sent (id : ℕ)
  | event (event : ResponseWebSocketEvent Body)
  | failed
  deriving DecidableEq

/-- A connection with the iterators that were made on it; iterator `id` belongs to request `id`. -/
structure Connection (Body : Type u) where
  iterators : List (StreamIter Body)
  queue : List WsCommand
  task : Task Body
  /-- The client's cache holds this connection. -/
  cached : Bool
  /-- A thread has taken the connection out of the cache and is about to send `Close`. -/
  closing : Bool
  socket : List (SocketStep Body)
  deriving DecidableEq

def Connection.established : Connection Body where
  iterators := []
  queue := []
  task := .waiting
  cached := true
  closing := false
  socket := []

/-- The capacity of the command channel. -/
def commandCapacity : ℕ := 8

/-- The capacity of the channel of a request. -/
def eventCapacity : ℕ := 64

/-- What the threads, the task and the consumers do. The task holds a sender of the command channel
itself, so that the channel is never without one. -/
inductive Label (Body : Type u) where
  | request
  | close
  | enqueueClose
  | take
  | send (failure : Option Text)
  | receive (outcome : Except Text (ResponseWebSocketEvent Body))
  | deliver
  | next (id : ℕ)
  | drop (id : ℕ)
  deriving DecidableEq

/-! ## Steps -/

namespace Connection

/-- The task returns: the socket is closed, and the senders of the request at hand and of every
request behind it are dropped. -/
def finish (connection : Connection Body) : Connection Body :=
  { connection with
    iterators := connection.iterators.map fun iterator => { iterator with sending := false }
    queue := []
    task := .ended
    cached := false }

/-- A message put into the channel of a request. -/
def push (connection : Connection Body) (id : ℕ) (item : Except Text (Payload Body)) :
    Connection Body :=
  { connection with
    iterators := connection.iterators.modify id fun iterator =>
      { iterator with buffer := iterator.buffer ++ [item] } }

/-- `__next__` of an iterator; nothing while its channel is empty and open. -/
def read (iterator : StreamIter Body) : Option (StreamIter Body) :=
  match iterator.buffer with
  | .ok payload :: rest =>
    some { iterator with buffer := rest, delivered := iterator.delivered ++ [payload] }
  | .error message :: rest =>
    some { iterator with buffer := rest, raised := iterator.raised ++ [message] }
  | [] => if iterator.sending then none else some { iterator with stopped := true }

/-- `RustWebSocket.request`: it raises once the task has ended, and waits for room. -/
def request (connection : Connection Body) : Option (Connection Body) :=
  match connection.task with
  | .ended => some connection
  | _ =>
    if connection.queue.length < commandCapacity then
      some { connection with
        iterators := connection.iterators ++ [.opened]
        queue := connection.queue ++ [.request connection.iterators.length] }
    else none

/-- The second half of `RustWebSocket.close`; an error of the channel is ignored. -/
def enqueueClose (connection : Connection Body) : Option (Connection Body) :=
  if connection.closing then
    match connection.task with
    | .ended => some { connection with closing := false }
    | _ =>
      if connection.queue.length < commandCapacity then
        some { connection with closing := false, queue := connection.queue ++ [.close] }
      else none
  else none

/-- The task receives its next command. -/
def take (connection : Connection Body) : Option (Connection Body) :=
  match connection.task, connection.queue with
  | .waiting, .request id :: rest => some { connection with queue := rest, task := .opening id }
  | .waiting, .close :: _ => some connection.finish
  | _, _ => none

/-- `send_raw` of the frame of a request. -/
def send (connection : Connection Body) (failure : Option Text) : Option (Connection Body) :=
  match connection.task with
  | .opening id =>
    match failure with
    | none => some { connection with
        task := .serving id, socket := connection.socket ++ [.sent id] }
    | some cause => some { connection with
        task := .failing id (.ofString "websocket send failed: " ++ cause) }
  | _ => none

/-- `recv` of the next event of a response. -/
def receive (connection : Connection Body)
    (outcome : Except Text (ResponseWebSocketEvent Body)) : Option (Connection Body) :=
  match connection.task with
  | .serving id =>
    match outcome with
    | .ok event => some { connection with
        task := .delivering id event, socket := connection.socket ++ [.event event] }
    | .error cause => some { connection with
        task := .failing id (.ofString "websocket recv failed: " ++ cause)
        socket := connection.socket ++ [.failed] }
  | _ => none

/-- The sender of a request goes after the terminal event of its response. -/
def conclude (connection : Connection Body) (id : ℕ) : Connection Body :=
  { connection with
    iterators := connection.iterators.modify id fun iterator => { iterator with sending := false }
    task := .waiting }

/-- An event or an error goes into the channel of the request, or the task finds the receiver
dropped. -/
def deliver (connection : Connection Body) : Option (Connection Body) :=
  match connection.task with
  | .delivering id event =>
    (connection.iterators[id]?).bind fun iterator =>
      if iterator.receiving = false then some connection.finish
      else if iterator.buffer.length < eventCapacity then
        let json := websocketEventToJson event
        let pushed := connection.push id (.ok json.1)
        some (if json.2 then pushed.conclude id else { pushed with task := .serving id })
      else none
  | .failing id message =>
    (connection.iterators[id]?).bind fun iterator =>
      if iterator.receiving = false then some connection.finish
      else if iterator.buffer.length < eventCapacity then
        some (connection.push id (.error message)).finish
      else none
  | _ => none

def step (connection : Connection Body) : Label Body → Option (Connection Body)
  | .request => connection.request
  | .close =>
    some { connection with
      cached := false, closing := connection.closing || connection.cached }
  | .enqueueClose => connection.enqueueClose
  | .take => connection.take
  | .send failure => connection.send failure
  | .receive outcome => connection.receive outcome
  | .deliver => connection.deliver
  | .next id =>
    (connection.iterators[id]?).bind fun iterator =>
      if iterator.receiving then
        (read iterator).map fun after =>
          { connection with iterators := connection.iterators.set id after }
      else none
  | .drop id =>
    (connection.iterators[id]?).map fun iterator =>
      { connection with
        iterators :=
          connection.iterators.set id { iterator with receiving := false, buffer := [] } }

/-- Every interleaving of the threads, the task, the socket and the consumers. -/
def machine : Machine (Connection Body) (Label Body) where
  step := step

end Connection

/-! ## Where the task ends -/

/-- A step at which the task returns: it takes `Close`, it has put an error into a channel, or it
finds the receiver of an event dropped. -/
def Connection.quits (connection : Connection Body) : Label Body → Bool
  | .take => connection.queue.head? = some .close
  | .deliver =>
    match connection.task with
    | .delivering id _ => (connection.iterators[id]?).any fun iterator => !iterator.receiving
    | _ => true
  | _ => false

/-- No request is queued. -/
def Connection.Idle (connection : Connection Body) : Prop :=
  ∀ command ∈ connection.queue, command = .close

/-- The task returns only where no request is queued. -/
def Connection.Unhurried (connection : Connection Body) (label : Label Body) : Prop :=
  connection.quits label = true → connection.Idle

instance (connection : Connection Body) : Decidable connection.Idle :=
  inferInstanceAs (Decidable (∀ command ∈ _, _))

instance (connection : Connection Body) (label : Label Body) :
    Decidable (connection.Unhurried label) :=
  inferInstanceAs (Decidable (_ → _))

/-! ## Responses -/

/-- The request whose frame was sent last. -/
def lastSent : Option ℕ → List (SocketStep Body) → Option ℕ
  | current, [] => current
  | _, .sent id :: rest => lastSent (some id) rest
  | current, .event _ :: rest => lastSent current rest
  | current, .failed :: rest => lastSent current rest

/-- The events of the socket between the frame of a request and the next frame. -/
def eventsOf (id : ℕ) : Option ℕ → List (SocketStep Body) → List (ResponseWebSocketEvent Body)
  | _, [] => []
  | _, .sent other :: rest => eventsOf id (some other) rest
  | current, .event event :: rest =>
    if current = some id then event :: eventsOf id current rest else eventsOf id current rest
  | current, .failed :: rest => eventsOf id current rest

/-- The response to a request, in socket order. -/
def response (id : ℕ) (socket : List (SocketStep Body)) : List (Payload Body) :=
  (eventsOf id none socket).map fun event => (websocketEventToJson event).1

/-- An iterator has delivered events of its own response, in order; and where it ended without
raising, all of them, the last one terminal. -/
structure StreamIter.Faithful (iterator : StreamIter Body) (own : List (Payload Body)) : Prop where
  inOrder : iterator.delivered <+: own
  complete : iterator.stopped = true → iterator.raised = [] →
    iterator.delivered = own ∧ ∃ last ∈ own.getLast?, last.Terminal

end Synapse.Responses
