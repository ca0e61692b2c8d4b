import Synapse.Foundation.Locks
import Synapse.Foundation.Machine

/-!
# Requests of the runtime client

Model of `_request_once`, `_reader_loop`, `_fail_generation` and `_command` of
`RuntimeWebSocketClient`. A connection is named by its generation. The dictionaries that are keyed
by a request id are fields of the request: `pending` says that the id is in `_pending` (and in
`_pending_connections` and `_pending_generations`, which change with it), `sentFlag` is its entry
in `_pending_sent`. Whether the transport has taken the frame is part of the state, since `send`
can be suspended, and can fail, on either side of that moment; the server is known by the frames
it has received and not answered.
-/

namespace Synapse.Transport

/-- The errors of a request, as far as `_command` tells them apart. -/
inductive RequestError where
  | connectionLost (sent : Bool)
  | protocol
  | auth
  | clientClosed
  deriving DecidableEq, Repr

/-- The future of a request. A response carries the id of the request that it answers. -/
inductive Reply where
  | unset
  | value (id : ℕ)
  | failed (error : RequestError)
  deriving DecidableEq, Repr

inductive RequestOutcome where
  | returned (id : ℕ)
  | raised (error : RequestError)
  | cancelled
  deriving DecidableEq, Repr

inductive RequestPhase where
  /-- It waits in `_connect`. -/
  | connecting
  /-- It waits for the writer lock. -/
  | locking
  /-- It is inside `connection.send`, and holds the lock. -/
  | sending
  /-- It waits for the response. -/
  | awaiting
  | finished (outcome : RequestOutcome)
  deriving DecidableEq, Repr

/-- One call of `_request_once`. -/
structure Request where
  command : Option ℕ
  id : ℕ
  generation : ℕ
  pending : Bool
  sentFlag : Option Bool
  future : Reply
  phase : RequestPhase
  /-- The transport has taken the frame and may deliver it. -/
  handed : Bool
  deriving DecidableEq, Repr

inductive CommandOutcome where
  | returned (id : ℕ)
  | raised (error : RequestError)
  | cancelled
  /-- `AmbiguousCommandError`. -/
  | ambiguous
  deriving DecidableEq, Repr

/-- One call of `_command`. -/
structure Command where
  attempt : ℕ
  /-- The number of the request of this attempt. -/
  request : ℕ
  outcome : Option CommandOutcome
  deriving DecidableEq, Repr

/-- Why a generation is failed. -/
inductive Cause where
  | protocol
  /-- The connection was closed with code 1008. -/
  | policy
  | other
  deriving DecidableEq, Repr

structure RuntimeClient where
  maxAttempts : ℕ
  connection : Option ℕ
  generation : ℕ
  nextId : ℕ
  writer : Option ℕ
  closing : Bool
  /-- `_cancelled_ids` and `_cancelled_order`, which hold the same keys. -/
  cancelled : List (ℕ × ℕ)
  requests : List Request
  commands : List Command
  /-- The frames that the server has received and not answered. -/
  unanswered : List (ℕ × ℕ)
  deriving DecidableEq, Repr

inductive ClientLabel where
  /-- A request that belongs to no command. -/
  | request
  | command
  | connected
  | connectFails (request : ℕ) (error : RequestError)
  /-- `_connect` returns, and the request registers its future. -/
  | register (request : ℕ)
  | lock (request : ℕ)
  | encodeFails (request : ℕ)
  /-- The transport takes the frame. -/
  | write (request : ℕ)
  | sendReturns (request : ℕ)
  | sendFails (request : ℕ)
  | cancel (request : ℕ)
  /-- The reader gets a response with this id. -/
  | respond (id : ℕ)
  | malformed
  | lose (policy : Bool)
  /-- A result violates its shape, and `_fence_on_protocol_failure` closes the generation. -/
  | fence
  | wake (request : ℕ)
  | settle (command : ℕ)
  | retry (command : ℕ)
  | close
  deriving DecidableEq, Repr

/-- The exception that `_fail_generation` sets. -/
def Cause.error (cause : Cause) (closing sent : Bool) : RequestError :=
  if closing then .clientClosed
  else
    match cause with
    | .protocol => .protocol
    | .policy => .auth
    | .other => .connectionLost sent

/-- The entries of the dictionaries are removed. -/
def Request.pop (request : Request) : Request :=
  { request with pending := false, sentFlag := none }

def Request.finish (request : Request) (outcome : RequestOutcome) : Request :=
  { request with phase := .finished outcome }

/-- What `_fail_generation` does to one request. -/
def Request.fail (request : Request) (generation : ℕ) (cause : Cause) (closing : Bool) : Request :=
  if request.pending = true ∧ request.generation = generation then
    { request.pop with
      future :=
        if request.future = .unset then
          .failed (cause.error closing (request.sentFlag.getD true))
        else request.future }
  else request

namespace RuntimeClient

def init (maxAttempts : ℕ) : RuntimeClient where
  maxAttempts := maxAttempts
  connection := none
  generation := 0
  nextId := 0
  writer := none
  closing := false
  cancelled := []
  requests := []
  commands := []
  unanswered := []

def put (client : RuntimeClient) (number : ℕ) (request : Request) : RuntimeClient :=
  { client with requests := client.requests.set number request }

def failGeneration (client : RuntimeClient) (generation : ℕ) (cause : Cause) : RuntimeClient :=
  { client with
    connection := if client.connection = some generation then none else client.connection
    cancelled := client.cancelled.filter fun key => key.1 ≠ generation
    requests := client.requests.map fun request => request.fail generation cause client.closing }

/-- The call of `_request_once`, up to `_connect`. -/
def enter (client : RuntimeClient) (command : Option ℕ) : RuntimeClient :=
  { client with
    requests := client.requests ++
      [{ command := command, id := 0, generation := 0, pending := false, sentFlag := none,
         future := .unset, handed := false,
         phase :=
          if client.closing then .finished (.raised .clientClosed) else .connecting }] }

/-- The future of the request is registered under a fresh id. -/
def register (client : RuntimeClient) (number : ℕ) : Option RuntimeClient :=
  client.requests[number]?.bind fun request =>
    match request.phase, client.connection with
    | .connecting, some generation =>
      some { client.put number
          { request with
            id := client.nextId + 1, generation := generation, pending := true,
            sentFlag := some false, future := .unset, phase := .locking } with
        nextId := client.nextId + 1 }
    | _, _ => none

/-- An exception inside the `async with` block: the lock is released, the request is popped, and
its generation fails. -/
def sendAborted (client : RuntimeClient) (number : ℕ) (request : Request) : RuntimeClient :=
  let failed := { client.put number request.pop with writer := none }.failGeneration
    request.generation .other
  failed.put number
    (request.pop.finish (.raised
      (if client.closing then .clientClosed
       else .connectionLost (request.sentFlag.getD false))))

/-- The lock is taken. On a connection that is gone the request fails at once. -/
def lock (client : RuntimeClient) (number : ℕ) : Option RuntimeClient :=
  client.requests[number]?.bind fun request =>
    if request.phase = .locking ∧ client.writer = none then
      if client.connection = some request.generation then
        some { client.put number { request with phase := .sending } with writer := some number }
      else
        let failed := client.failGeneration request.generation .other
        failed.requests[number]?.map (failed.sendAborted number)
    else none

def encodeFails (client : RuntimeClient) (number : ℕ) : Option RuntimeClient :=
  client.requests[number]?.bind fun request =>
    if request.phase = .locking ∧ client.writer = none ∧
        client.connection = some request.generation then
      some (client.sendAborted number request)
    else none

def write (client : RuntimeClient) (number : ℕ) : Option RuntimeClient :=
  client.requests[number]?.bind fun request =>
    if request.phase = .sending ∧ request.handed = false then
      some { client.put number { request with handed := true } with
        unanswered := client.unanswered ++ [(request.generation, request.id)] }
    else none

def sendReturns (client : RuntimeClient) (number : ℕ) : Option RuntimeClient :=
  client.requests[number]?.bind fun request =>
    if request.phase = .sending ∧ request.handed = true then
      some { client.put number { request with sentFlag := some true, phase := .awaiting } with
        writer := none }
    else none

def sendFails (client : RuntimeClient) (number : ℕ) : Option RuntimeClient :=
  client.requests[number]?.bind fun request =>
    if request.phase = .sending then some (client.sendAborted number request) else none

/-- The key of a cancelled request is recorded, and the oldest one is dropped beyond 256. -/
def remember (client : RuntimeClient) (key : ℕ × ℕ) : RuntimeClient :=
  { client with
    cancelled :=
      if 256 < client.cancelled.length + 1 then (client.cancelled ++ [key]).tail
      else client.cancelled ++ [key] }

def cancel (client : RuntimeClient) (number : ℕ) : Option RuntimeClient :=
  client.requests[number]?.bind fun request =>
    match request.phase with
    | .connecting => some (client.put number (request.finish .cancelled))
    | .locking => some (client.put number (request.pop.finish .cancelled))
    | .sending =>
      some { client.put number (request.pop.finish .cancelled) with writer := none }
    | .awaiting =>
      if request.pending then
        some ((client.put number (request.pop.finish .cancelled)).remember
          (request.generation, request.id))
      else some (client.put number (request.finish .cancelled))
    | .finished _ => none

instance lawfulBEqKey : LawfulBEq (ℕ × ℕ) := inferInstance

/-- The reader has a well-formed response with this id. -/
def respond (client : RuntimeClient) (id : ℕ) : Option RuntimeClient :=
  client.connection.map fun generation =>
    let answered := { client with unanswered := client.unanswered.erase (generation, id) }
    match client.requests.findIdx? fun request => request.pending && decide (request.id = id) with
    | some number =>
      match client.requests[number]? with
      | some request =>
        if request.generation = generation then
          answered.put number { request.pop with future := .value id }
        else answered
      | none => answered
    | none =>
      if (generation, id) ∈ client.cancelled then
        { answered with cancelled := client.cancelled.erase (generation, id) }
      else answered.failGeneration generation .protocol

/-- The reader raises, or the wrapper of a method fences the connection. -/
def failCurrent (client : RuntimeClient) (cause : Cause) : Option RuntimeClient :=
  client.connection.map fun generation => client.failGeneration generation cause

/-- The request goes on after its future is done. -/
def wake (client : RuntimeClient) (number : ℕ) : Option RuntimeClient :=
  client.requests[number]?.bind fun request =>
    match request.phase, request.future with
    | .awaiting, .value id =>
      -- Without a connection there is no selected version to compare with.
      if id = request.id ∧ client.connection ≠ none then
        some (client.put number (request.finish (.returned id)))
      else some (client.put number (request.finish (.raised .protocol)))
    | .awaiting, .failed error => some (client.put number (request.finish (.raised error)))
    | _, _ => none

/-- What `_command` does with the end of a request that it does not retry. -/
def commandOutcome (client : RuntimeClient) (attempt : ℕ) :
    RequestOutcome → Option CommandOutcome
  | .returned id => some (.returned id)
  | .cancelled => some .cancelled
  | .raised (.connectionLost true) => some .ambiguous
  | .raised (.connectionLost false) =>
    if client.maxAttempts ≤ attempt then some (.raised (.connectionLost false))
    else if client.closing then some (.raised .clientClosed)
    else none
  | .raised error => some (.raised error)

/-- The end of the request of the current attempt. -/
def ended (client : RuntimeClient) (number : ℕ) : Option (Command × RequestOutcome) :=
  client.commands[number]?.bind fun command =>
    if command.outcome = none then
      client.requests[command.request]?.bind fun request =>
        match request.phase with
        | .finished outcome => some (command, outcome)
        | _ => none
    else none

def settle (client : RuntimeClient) (number : ℕ) : Option RuntimeClient :=
  (client.ended number).bind fun (command, outcome) =>
    (client.commandOutcome command.attempt outcome).map fun result =>
      { client with commands := client.commands.set number { command with outcome := some result } }

/-- After the backoff the command is sent again. -/
def retry (client : RuntimeClient) (number : ℕ) : Option RuntimeClient :=
  (client.ended number).bind fun (command, outcome) =>
    if client.commandOutcome command.attempt outcome = none then
      some { client.enter (some number) with
        commands := client.commands.set number
          { command with attempt := command.attempt + 1, request := client.requests.length } }
    else none

def close (client : RuntimeClient) : RuntimeClient :=
  { client with
    closing := true, connection := none, cancelled := []
    requests := client.requests.map fun request =>
      if request.pending then
        { request.pop with
          future :=
            if request.future = .unset then .failed .clientClosed else request.future }
      else request }

def step (client : RuntimeClient) : ClientLabel → Option RuntimeClient
  | .request => some (client.enter none)
  | .command =>
    some { client.enter (some client.commands.length) with
      commands := client.commands ++ [⟨1, client.requests.length, none⟩] }
  | .connected =>
    if client.connection = none ∧ client.closing = false then
      some { client with
        connection := some (client.generation + 1), generation := client.generation + 1
        nextId := client.nextId + 1 }
    else none
  | .connectFails number error =>
    client.requests[number]?.bind fun request =>
      if request.phase = .connecting ∧ error ≠ .connectionLost true then
        some (client.put number (request.finish (.raised error)))
      else none
  | .register number => client.register number
  | .lock number => client.lock number
  | .encodeFails number => client.encodeFails number
  | .write number => client.write number
  | .sendReturns number => client.sendReturns number
  | .sendFails number => client.sendFails number
  | .cancel number => client.cancel number
  | .respond id => client.respond id
  | .malformed => client.failCurrent .protocol
  | .lose policy => client.failCurrent (if policy then .policy else .other)
  | .fence => client.failCurrent .protocol
  | .wake number => client.wake number
  | .settle number => client.settle number
  | .retry number => client.retry number
  | .close => some client.close

def machine : Machine RuntimeClient ClientLabel where
  step := step

end RuntimeClient

end Synapse.Transport
