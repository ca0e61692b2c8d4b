import Synapse.Foundation.Machine
import Synapse.Transport.Wire

/-!
# One connection of the WebSocket server

Model of `_Connection.run` and `_Connection.handle`. Each received text frame is an exchange, which
keeps the responses that were put into the output queue because of it. A handle task runs from one
suspension point to the next: the protocol lock is never held over one, so the selection of the
protocol, the decoding and the call of the service begin in one step. Once `_cleanup` has begun the
tasks are cancelled, and the machine stops.
-/

namespace Synapse.Transport

open Wire

/-- How `decode_params` fails. -/
inductive DecodeFailure where
  | protocol (error : ProtocolError)
  /-- A `ValueError` or a `TypeError`, by its text. -/
  | invalid (text : Text)
  | other
  deriving DecidableEq, Repr

/-- The bounds of the server, and the parts of it that are arbitrary here. -/
structure ServerSettings where
  loads : Text → Loaded
  /-- `decode_params` of a service method; `none` is a DTO. -/
  decodeParams : Text → Entries → Option DecodeFailure
  methods : List Text
  maxMessageBytes : ℕ
  maxInflight : ℕ
  maxSubscriptions : ℕ
  outgoingQueueSize : ℕ

/-- How a call of the service ends. -/
inductive ServiceOutcome (Result : Type) where
  | value (result : Result)
  | serviceError (code : Text)
  | protocolError (error : ProtocolError)
  | other
  deriving DecidableEq, Repr

structure Response where
  id : Option RequestId
  text : Text
  deriving DecidableEq, Repr

/-- Where a handle task is suspended. -/
inductive Point where
  | started
  /-- `remove_subscription` waits for the lease. -/
  | removing
  /-- `add_subscription` waits for the lease. -/
  | opening
  /-- The watch response waits for the writer. -/
  | acknowledging
  | calling
  | finished
  deriving DecidableEq, Repr

inductive Stage where
  /-- The read loop has answered the frame itself. -/
  | refused
  | task (request : JsonRpcRequest) (point : Point)
  /-- The callback of the task has run. -/
  | released
  deriving DecidableEq, Repr

structure Exchange where
  message : Text
  requestId : Option RequestId
  stage : Stage
  responses : List Response
  deriving DecidableEq, Repr

structure Connection where
  closing : Bool
  closeCode : Option ℕ
  wireVersion : Option Text
  businessStarted : Bool
  negotiation : Option Negotiation
  subscriptions : List Text
  subscriptionReservations : ℕ
  /-- The messages in the output queue. -/
  queued : ℕ
  exchanges : List Exchange
  deriving DecidableEq, Repr

inductive ConnectionLabel where
  | receive (message : Text)
  /-- A binary frame, or the end of the connection. -/
  | close
  | writerFails
  | start (exchange : ℕ)
  | removed (exchange : ℕ)
  | opened (exchange : ℕ) (outcome : ServiceOutcome ℕ) (subscriptionId : Text)
  | acknowledged (exchange : ℕ)
  | returned (exchange : ℕ) (outcome : ServiceOutcome Value)
  | requestDone (exchange : ℕ)
  /-- A pump puts a notification into the queue. -/
  | notify
  | pumpEnds (subscriptionId : Text)
  /-- The writer has sent a message. -/
  | written
  deriving DecidableEq, Repr

/-! ### Failures -/

/-- The exceptions of a handle task, as far as its branches tell them apart. -/
inductive Failure where
  | protocol (error : ProtocolError)
  | service (code : Text)
  | projection
  | other
  deriving DecidableEq, Repr

/-- The attributes that `_log_rpc_error` reads. -/
def Failure.logged : Failure → List String
  | .protocol _ => ["code", "service_code", "message"]
  | .service _ => ["code"]
  | .projection | .other => []

/-- The attributes that the exception has. -/
def Failure.attributes : Failure → List String
  | .protocol _ => ["args", "code", "service_code", "request_id"]
  | .service _ => ["args", "message", "code"]
  | .projection | .other => ["args"]

/-- `_log_rpc_error` returns; an attribute that is missing raises. -/
def Failure.logs (failure : Failure) : Bool :=
  failure.logged.all fun name => decide (name ∈ failure.attributes)

def serviceError : Failure → ℤ × Text
  | .service code => (-32000, code)
  | _ => (-32603, Text.ofString "internal_error")

def ServiceOutcome.failure {Result : Type} : ServiceOutcome Result → Option Failure
  | .value _ => none
  | .serviceError code => some (.service code)
  | .protocolError error => some (.protocol error)
  | .other => some .other

/-- The exception of `dispatch` for a failure of the decoder. -/
def DecodeFailure.failure : DecodeFailure → Failure
  | .protocol error => .protocol error
  | .invalid text =>
    .protocol ⟨-32602, Text.ofString "invalid_params: " ++ text, none⟩
  | .other => .other

/-! ### Steps -/

def Stage.inflight : Stage → Bool
  | .task _ _ => true
  | .refused | .released => false

def negotiateMethod : Text := Text.ofString "runtime.protocol.negotiate"
def watchMethod : Text := Text.ofString "runtime.events.watch"
def unwatchMethod : Text := Text.ofString "runtime.events.unwatch"

def negotiated (version : Text) : Value :=
  .mapping true (.ofList
    [member "wire_version" (.str true version),
      member "supported_versions"
        (.sequence (.ofList (supportedWireVersions.map fun version => .str true version))),
      member "capabilities" (.mapping true (.ofList
        [member "legacy_v1" (.bool true), member "raw_cursor" (.bool true),
          member "watch_resume" (.bool true), member "approval_resume" (.bool true)]))])

def removedResult (removed : Bool) : Value :=
  .mapping true (.ofList [member "removed" (.bool removed)])

def watchResult (subscriptionId : Text) (cursor : ℕ) : Value :=
  .mapping true (.ofList
    [member "subscription_id" (.str true subscriptionId), member "cursor" (.int true cursor)])

namespace Connection

def init : Connection where
  closing := false
  closeCode := none
  wireVersion := none
  businessStarted := false
  negotiation := none
  subscriptions := []
  subscriptionReservations := 0
  queued := 0
  exchanges := []

def cleanup (connection : Connection) (code : ℕ) : Connection :=
  { connection with closing := true, closeCode := some code }

/-- A message is put into the queue, or the connection is closed for the overflow. -/
def enqueue (settings : ServerSettings) (connection : Connection)
    (exchanges : List Exchange) : Connection :=
  if connection.queued < settings.outgoingQueueSize then
    { connection with queued := connection.queued + 1, exchanges := exchanges }
  else connection.cleanup 1013

def put (connection : Connection) (number : ℕ) (exchange : Exchange) : Connection :=
  { connection with exchanges := connection.exchanges.set number exchange }

/-- The handle task goes on to a suspension point. -/
def move (connection : Connection) (number : ℕ) (exchange : Exchange) (request : JsonRpcRequest)
    (point : Point) : Connection :=
  connection.put number { exchange with stage := .task request point }

/-- The task puts a response into the queue. Where encoding it raises, the task ends. -/
def respond (settings : ServerSettings) (connection : Connection) (number : ℕ)
    (exchange : Exchange) (request : JsonRpcRequest) (id : RequestId) (point : Point) :
    Except EncodeError Text → Connection
  | .ok text =>
    connection.enqueue settings (connection.exchanges.set number
      { exchange with
        stage := .task request point, responses := exchange.responses ++ [⟨some id, text⟩] })
  | .error _ => connection.move number exchange request .finished

/-- The branches of `handle` for an exception. -/
def respondFailure (settings : ServerSettings) (connection : Connection) (number : ℕ)
    (exchange : Exchange) (request : JsonRpcRequest) (failure : Failure) : Connection :=
  if failure.logs then
    match failure with
    | .protocol error =>
      let id := error.requestId.getD request.id
      connection.respond settings number exchange request id .finished
        (encodeError (some id) error.code error.serviceCode)
    | failure =>
      connection.respond settings number exchange request request.id .finished
        (encodeError (some request.id) (serviceError failure).1 (serviceError failure).2)
  -- The exception of the logger leaves the branch, and the callback of the task drops it.
  else connection.move number exchange request .finished

/-- The end of `handle`: the result is projected, encoded and sent. -/
def respondResult (settings : ServerSettings) (connection : Connection) (number : ℕ)
    (exchange : Exchange) (request : JsonRpcRequest) (result : Value) : Connection :=
  match (projectResult result).elim (.error .projection) (encodeResponse (some request.id)) with
  | .ok text => connection.respond settings number exchange request request.id .finished (.ok text)
  | .error .projection =>
    connection.respondFailure settings number exchange request .projection
  -- Only `WireProjectionError` is caught here.
  | .error .unicode => connection.move number exchange request .finished

/-- `_select_protocol`. -/
def selectProtocol (connection : Connection) (request : JsonRpcRequest) :
    Except ProtocolError (Connection × Value) :=
  if request.method = negotiateMethod then
    match decodeNegotiation request.params with
    | .error error => .error error
    | .ok negotiation =>
      match connection.wireVersion with
      | some version =>
        if connection.negotiation = some negotiation then .ok (connection, negotiated version)
        else .error (protocolError (-32003) "protocol_already_selected" (some request.id))
      | none =>
        if connection.businessStarted then
          .error (protocolError (-32003) "protocol_already_selected" (some request.id))
        else
          match negotiate negotiation.versions with
          | none =>
            .error (protocolError (-32002) "protocol_version_unsupported" (some request.id))
          | some selected =>
            .ok ({ connection with
              wireVersion := some selected, negotiation := some negotiation },
              negotiated selected)
  else
    .ok ({ connection with
      wireVersion := some (connection.wireVersion.getD runtimeWireVersion)
      businessStarted := true }, .mapping true .nil)

/-- `handle` behind the selection, for the methods that it does not answer by itself. -/
def dispatch (settings : ServerSettings) (connection : Connection) (number : ℕ)
    (exchange : Exchange) (request : JsonRpcRequest) : Connection :=
  match settings.decodeParams request.method request.params with
  | some failure => connection.respondFailure settings number exchange request failure.failure
  | none =>
    if request.method = watchMethod then
      if settings.maxSubscriptions ≤
          connection.subscriptions.length + connection.subscriptionReservations then
        connection.respondFailure settings number exchange request
          (.protocol (protocolError (-32001) "transport_busy" (some request.id)))
      else
        { connection.move number exchange request .opening with
          subscriptionReservations := connection.subscriptionReservations + 1 }
    else connection.move number exchange request .calling

def unwatch (settings : ServerSettings) (connection : Connection) (number : ℕ)
    (exchange : Exchange) (request : JsonRpcRequest) : Connection :=
  match decodeUnwatch request.params with
  | .error error => connection.respondFailure settings number exchange request (.protocol error)
  | .ok subscriptionId =>
    if subscriptionId ∈ connection.subscriptions then
      { connection.move number exchange request .removing with
        subscriptions := connection.subscriptions.erase subscriptionId }
    else connection.respondResult settings number exchange request (removedResult false)

/-- The task runs to its first suspension point. -/
def handle (settings : ServerSettings) (connection : Connection) (number : ℕ)
    (exchange : Exchange) (request : JsonRpcRequest) : Connection :=
  match connection.selectProtocol request with
  | .error error => connection.respondFailure settings number exchange request (.protocol error)
  | .ok (selected, result) =>
    if request.method = negotiateMethod then
      selected.respond settings number exchange request request.id .finished
        (encodeResponse (some request.id) result)
    else if request.method = unwatchMethod then
      selected.unwatch settings number exchange request
    else selected.dispatch settings number exchange request

/-- The lease of a watch has been entered, or has failed. -/
def opened (settings : ServerSettings) (connection : Connection) (number : ℕ)
    (exchange : Exchange) (request : JsonRpcRequest) (outcome : ServiceOutcome ℕ)
    (subscriptionId : Text) : Connection :=
  let freed :=
    { connection with subscriptionReservations := connection.subscriptionReservations - 1 }
  match outcome with
  | .value cursor =>
    let registered :=
      { freed with subscriptions := connection.subscriptions ++ [subscriptionId] }
    match encodeResponse (some request.id) (watchResult subscriptionId cursor) with
    | .ok text =>
      registered.respond settings number exchange request request.id .acknowledging (.ok text)
    | .error _ => registered.respondFailure settings number exchange request .projection
  | .serviceError code => freed.respondFailure settings number exchange request (.service code)
  | .protocolError error => freed.respondFailure settings number exchange request (.protocol error)
  | .other => freed.respondFailure settings number exchange request .other

/-- The service call has ended. -/
def returned (settings : ServerSettings) (connection : Connection) (number : ℕ)
    (exchange : Exchange) (request : JsonRpcRequest) : ServiceOutcome Value → Connection
  | .value result => connection.respondResult settings number exchange request result
  | .serviceError code =>
    connection.respondFailure settings number exchange request (.service code)
  | .protocolError error =>
    connection.respondFailure settings number exchange request (.protocol error)
  | .other => connection.respondFailure settings number exchange request .other

/-- The read loop answers a frame itself. An exception there ends the loop. -/
def refuse (settings : ServerSettings) (connection : Connection) (message : Text)
    (id : Option RequestId) (code : ℤ) (serviceCode : Text) : Connection :=
  match encodeError id code serviceCode with
  | .ok text =>
    connection.enqueue settings (connection.exchanges ++ [⟨message, id, .refused, [⟨id, text⟩]⟩])
  | .error _ => connection.cleanup 1001

/-- One round of the read loop. -/
def receive (settings : ServerSettings) (connection : Connection) (message : Text) : Connection :=
  match parseRequest settings.loads settings.maxMessageBytes message with
  | .escaped => connection.cleanup 1001
  | .error error =>
    connection.refuse settings message error.requestId error.code error.serviceCode
  | .request request =>
    if request.method ∉ settings.methods then
      connection.refuse settings message (some request.id) (-32601)
        (Text.ofString "method_not_found")
    else if connection.exchanges.any fun exchange =>
        exchange.stage.inflight && decide (exchange.requestId = some request.id) then
      connection.refuse settings message (some request.id) (-32600)
        (Text.ofString "invalid_request")
    else if settings.maxInflight ≤
        connection.exchanges.countP fun exchange => exchange.stage.inflight then
      connection.refuse settings message (some request.id) (-32001)
        (Text.ofString "transport_busy")
    else
      { connection with
        exchanges := connection.exchanges ++
          [⟨message, some request.id, .task request .started, []⟩] }

/-- The task of an exchange, if it is at this point. -/
def taskAt (connection : Connection) (number : ℕ) (point : Point) :
    Option (Exchange × JsonRpcRequest) :=
  connection.exchanges[number]?.bind fun exchange =>
    match exchange.stage with
    | .task request current => if current = point then some (exchange, request) else none
    | _ => none

/-- One step of an open connection. -/
def take (settings : ServerSettings) (connection : Connection) :
    ConnectionLabel → Option Connection
  | .receive message => some (connection.receive settings message)
  | .close => some (connection.cleanup 1001)
  | .writerFails => some (connection.cleanup 1011)
  | .start number =>
    (connection.taskAt number .started).map fun (exchange, request) =>
      connection.handle settings number exchange request
  | .removed number =>
    (connection.taskAt number .removing).map fun (exchange, request) =>
      connection.respondResult settings number exchange request (removedResult true)
  | .opened number outcome subscriptionId =>
    if isHexId subscriptionId ∧ subscriptionId ∉ connection.subscriptions then
      (connection.taskAt number .opening).map fun (exchange, request) =>
        connection.opened settings number exchange request outcome subscriptionId
    else none
  | .acknowledged number =>
    (connection.taskAt number .acknowledging).map fun (exchange, request) =>
      connection.move number exchange request .finished
  | .returned number outcome =>
    (connection.taskAt number .calling).map fun (exchange, request) =>
      connection.returned settings number exchange request outcome
  | .requestDone number =>
    (connection.taskAt number .finished).map fun (exchange, _) =>
      connection.put number { exchange with stage := .released }
  | .notify => some (connection.enqueue settings connection.exchanges)
  | .pumpEnds subscriptionId =>
    if subscriptionId ∈ connection.subscriptions then
      some { connection with
        subscriptions := connection.subscriptions.erase subscriptionId }
    else none
  | .written =>
    if 0 < connection.queued then some { connection with queued := connection.queued - 1 }
    else none

def step (settings : ServerSettings) (connection : Connection) (label : ConnectionLabel) :
    Option Connection :=
  if connection.closing then none else connection.take settings label

def machine (settings : ServerSettings) : Machine Connection ConnectionLabel where
  step := step settings

end Connection

end Synapse.Transport
