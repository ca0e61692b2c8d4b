import Synapse.Foundation.Locks
import Synapse.Transport.Connection

/-!
# Every request is answered once

On an open connection every text frame has at most one response, with its id, and a frame whose
task has ended has exactly one. This holds as long as no branch for an exception raises itself:
the branches for a `ProtocolError` always do, since the logger reads an attribute that the
exception does not have.
-/

namespace Synapse.Transport

open List
open Wire

theorem parseRequest_valid {loads : Text → Loaded} {maxBytes : ℕ} {message : Text}
    {id : RequestId} (parsed : (parseRequest loads maxBytes message).requestId = some id) :
    id.Valid := by
  have tree : ∀ value, (parseTree value).requestId = some id → id.Valid := by
    intro value found
    unfold parseTree at found
    split at found
    · simp only at found
      split_ifs at found
      · exact validId_valid found
      · exact validId_valid found
      · split at found
        · cases found
        · rename_i accepted
          split at found
          · cases found
            exact validId_valid accepted
          · split at found
            · cases found
              exact validId_valid accepted
            · cases found
              exact validId_valid accepted
    · cases found
  unfold parseRequest at parsed
  split at parsed
  · cases parsed
  · split at parsed
    · cases parsed
    · split at parsed
      · cases parsed
      · cases parsed
      · split at parsed
        · exact tree _ parsed
        · cases parsed

variable {settings : ServerSettings}

/-! ### Exchanges -/

/-- The branch for the failure answers: it is not for a `ProtocolError`, and the code can be sent. -/
def Failure.answered : Failure → Bool
  | .protocol _ => false
  | .service code => fitsBytes maxCommandIdBytes code
  | .projection | .other => true

/-- The task has put its response into the queue. -/
def Point.responded : Point → Bool
  | .acknowledging | .finished => true
  | .started | .removing | .opening | .calling => false

namespace Exchange

def idOf (settings : ServerSettings) (exchange : Exchange) : Option RequestId :=
  (parseRequest settings.loads settings.maxMessageBytes exchange.message).requestId

def Responded (exchange : Exchange) : Prop :=
  ∃ response, exchange.responses = [response] ∧ response.id = exchange.requestId

/-- An exchange has one response once its task has come so far, and none before. -/
structure Fits (settings : ServerSettings) (exchange : Exchange) : Prop where
  id : exchange.requestId = exchange.idOf settings
  own : ∀ request point, exchange.stage = .task request point →
    exchange.requestId = some request.id
  waiting : ∀ request point, exchange.stage = .task request point → point.responded = false →
    exchange.responses = []
  responded : (∀ request point, exchange.stage = .task request point → point.responded = true) →
    exchange.Responded

/-- The task of the exchange has not responded yet. -/
structure Unanswered (settings : ServerSettings) (exchange : Exchange) (request : JsonRpcRequest) :
    Prop where
  id : exchange.requestId = exchange.idOf settings
  own : exchange.requestId = some request.id
  empty : exchange.responses = []

variable {request : JsonRpcRequest}
variable {exchange : Exchange}

theorem Unanswered.valid
    (unanswered : exchange.Unanswered settings request) : request.id.Valid :=
  parseRequest_valid (unanswered.id.symm.trans unanswered.own)

theorem Fits.unanswered {point : Point}
    (fits : exchange.Fits settings) (stage : exchange.stage = .task request point)
    (waits : point.responded = false) : exchange.Unanswered settings request :=
  ⟨fits.id, fits.own request point stage, fits.waiting request point stage waits⟩

end Exchange

namespace Connection

variable {connection next : Connection} {done : List ConnectionLabel} {number : ℕ}
  {exchange : Exchange} {request : JsonRpcRequest}

/-- A step closes the connection, or replaces one exchange by one that fits. -/
def Advances (settings : ServerSettings) (connection next : Connection) (number : ℕ)
    (exchange : Exchange) : Prop :=
  (next.closing = true ∧ next.closeCode = some 1013) ∨
    (next.closing = connection.closing ∧
      (next.wireVersion = connection.wireVersion ∨ next.wireVersion = some runtimeWireVersion) ∧
      ∃ after : Exchange,
        next.exchanges = connection.exchanges.set number after ∧
          after.message = exchange.message ∧ after.Fits settings)

theorem Advances.congr {base : Connection} (advances : Advances settings base next number exchange)
    (version : base.wireVersion = connection.wireVersion ∨
      base.wireVersion = some runtimeWireVersion)
    (same : base.exchanges = connection.exchanges) (isOpen : base.closing = connection.closing) :
    Advances settings connection next number exchange := by
  rcases advances with closing | ⟨stays, kept, after, exchanges, message, fits⟩
  · exact .inl closing
  · refine .inr ⟨stays.trans isOpen, ?_, after, same ▸ exchanges, message, fits⟩
    rcases kept with kept | chosen
    · rw [kept]
      exact version
    · exact .inr chosen

theorem move_advances (unanswered : exchange.Unanswered settings request) {point : Point}
    (waits : point.responded = false) :
    Advances settings connection (connection.move number exchange request point) number
      exchange := by
  refine .inr ⟨rfl, .inl rfl, _, rfl, rfl, unanswered.id, ?_, ?_, ?_⟩
  · intro other position stage
    obtain ⟨rfl, rfl⟩ := Stage.task.inj stage
    exact unanswered.own
  · intro _ _ _ _
    exact unanswered.empty
  · intro responded
    have sent := responded request point rfl
    rw [waits] at sent
    cases sent

variable {point : Point}

theorem respond_advances (unanswered : exchange.Unanswered settings request)
    (sends : point.responded = true) {encoded : Except EncodeError Text} {text : Text}
    (encodes : encoded = .ok text) :
    Advances settings connection
      (connection.respond settings number exchange request request.id point encoded) number
      exchange := by
  subst encodes
  simp only [respond, enqueue]
  split
  · refine .inr ⟨rfl, .inl rfl, _, rfl, rfl, unanswered.id, ?_, ?_, ?_⟩
    · intro other position stage
      obtain ⟨rfl, rfl⟩ := Stage.task.inj stage
      exact unanswered.own
    · intro other position stage waits
      obtain ⟨rfl, rfl⟩ := Stage.task.inj stage
      rw [sends] at waits
      cases waits
    · intro _
      refine ⟨⟨some request.id, text⟩, ?_, unanswered.own.symm⟩
      simp only [unanswered.empty, nil_append]
  · exact .inl ⟨rfl, rfl⟩

theorem respondFailure_advances (unanswered : exchange.Unanswered settings request)
    {failure : Failure} (answered : failure.answered = true) :
    Advances settings connection
      (connection.respondFailure settings number exchange request failure) number exchange := by
  have valid : ∀ id, some request.id = some id → id.Valid := by
    intro id same
    obtain rfl := Option.some.inj same
    exact unanswered.valid
  have internal : (Text.ofString "internal_error").Within maxCommandIdBytes := by decide
  cases failure with
  | protocol error => cases answered
  | service code =>
    rcases @encodeError_ok _ (-32000) code valid (by decide) (fitsBytes_iff.mp answered) with
      ⟨text, encodes⟩
    exact respond_advances unanswered rfl encodes
  | projection =>
    rcases @encodeError_ok _ (-32603) _ valid (by decide) internal with ⟨text, encodes⟩
    exact respond_advances unanswered rfl encodes
  | other =>
    rcases @encodeError_ok _ (-32603) _ valid (by decide) internal with ⟨text, encodes⟩
    exact respond_advances unanswered rfl encodes

variable {result : Value}

theorem respondResult_advances (unanswered : exchange.Unanswered settings request)
    (keys : keysEncode result = true) :
    Advances settings connection
      (connection.respondResult settings number exchange request result) number exchange := by
  unfold respondResult
  split
  · exact respond_advances unanswered rfl rfl
  · exact respondFailure_advances unanswered rfl
  · rename_i escaped
    cases wired : projectResult result with
    | none =>
      rw [wired] at escaped
      cases escaped
    | some projected =>
      rw [wired] at escaped
      exact absurd escaped (encodeResponse_of_projected unanswered.valid keys wired)

theorem opened_advances (unanswered : exchange.Unanswered settings request)
    {outcome : ServiceOutcome ℕ} {subscriptionId : Text}
    (answered : outcome.failure.all Failure.answered = true) :
    Advances settings connection
      (connection.opened settings number exchange request outcome subscriptionId) number
      exchange := by
  cases outcome with
  | value cursor =>
    simp only [opened]
    split
    · exact (respond_advances unanswered rfl rfl).congr (.inl rfl) rfl rfl
    · exact (respondFailure_advances unanswered rfl).congr (.inl rfl) rfl rfl
  | serviceError code =>
    have plain : (Failure.service code).answered = true := answered
    exact (respondFailure_advances unanswered plain).congr (.inl rfl) rfl rfl
  | protocolError error => cases answered
  | other => exact (respondFailure_advances unanswered rfl).congr (.inl rfl) rfl rfl

theorem returned_advances (unanswered : exchange.Unanswered settings request)
    {outcome : ServiceOutcome Value} (answered : outcome.failure.all Failure.answered = true)
    (keys : ∀ result, outcome = .value result → keysEncode result = true) :
    Advances settings connection
      (connection.returned settings number exchange request outcome) number exchange := by
  cases outcome with
  | value result => exact respondResult_advances unanswered (keys result rfl)
  | serviceError code => exact respondFailure_advances unanswered answered
  | protocolError error => cases answered
  | other => exact respondFailure_advances unanswered rfl

/-- The exception-free part of `handle`: the selection and the decoding succeed, and a watch finds
room. -/
def starts (settings : ServerSettings) (connection : Connection) (request : JsonRpcRequest) :
    Bool :=
  if request.method = negotiateMethod then
    (connection.selectProtocol request).toBool
  else if request.method = unwatchMethod then (decodeUnwatch request.params).toBool
  else
    match settings.decodeParams request.method request.params with
    | some failure => failure.failure.answered
    | none =>
      decide (request.method ≠ watchMethod) ||
        decide (connection.subscriptions.length + connection.subscriptionReservations <
          settings.maxSubscriptions)

theorem negotiated_encodes {id : RequestId} (valid : id.Valid) :
    ∃ text, encodeResponse (some id) (negotiated runtimeWireVersion) = .ok text := by
  have accepted : ∀ other, some id = some other → other.Valid := by
    intro other same
    obtain rfl := Option.some.inj same
    exact valid
  have projects : ∃ projected, projectResult (negotiated runtimeWireVersion) = some projected ∧
      projected.writable = true ∧ projected.weight ≤ 100000 := by
    decide
  rcases projects with ⟨projected, wired, writable, small⟩
  unfold encodeResponse
  simp only [wired]
  exact response_encodes accepted (.inr rfl) writable small

theorem selectProtocol_ok {selected : Connection}
    (version : ∀ chosen, connection.wireVersion = some chosen → chosen = runtimeWireVersion)
    (chosen : connection.selectProtocol request = .ok (selected, result)) :
    selected.exchanges = connection.exchanges ∧ selected.closing = connection.closing ∧
      (selected.wireVersion = connection.wireVersion ∨
        selected.wireVersion = some runtimeWireVersion) ∧
      (request.method = negotiateMethod → result = negotiated runtimeWireVersion) := by
  unfold selectProtocol at chosen
  split at chosen
  · split at chosen
    · cases chosen
    · split at chosen
      · rename_i current held
        split at chosen
        · obtain ⟨rfl, rfl⟩ := Prod.mk.inj (Except.ok.inj chosen)
          refine ⟨rfl, rfl, .inl rfl, fun _ => ?_⟩
          rw [version current held]
        · cases chosen
      · split at chosen
        · cases chosen
        · split at chosen
          · cases chosen
          · rename_i offered accepted
            obtain ⟨rfl, rfl⟩ := Prod.mk.inj (Except.ok.inj chosen)
            have supported := find?_some accepted
            simp only [decide_eq_true_eq, supportedWireVersions, mem_singleton] at supported
            subst supported
            exact ⟨rfl, rfl, .inr rfl, fun _ => rfl⟩
  · rename_i business
    obtain ⟨rfl, rfl⟩ := Prod.mk.inj (Except.ok.inj chosen)
    refine ⟨rfl, rfl, .inr ?_, fun same => absurd same business⟩
    cases held : connection.wireVersion with
    | none => rfl
    | some current => rw [Option.getD_some, version current held]

theorem unwatch_advances (unanswered : exchange.Unanswered settings request)
    (decodes : (decodeUnwatch request.params).toBool = true) :
    Advances settings connection (connection.unwatch settings number exchange request) number
      exchange := by
  unfold unwatch
  split
  · rename_i failed
    rw [failed] at decodes
    cases decodes
  · split
    · have moved := @move_advances settings connection number exchange request unanswered
        .removing rfl
      exact moved.congr (.inl rfl) rfl rfl
    · exact respondResult_advances unanswered rfl

theorem handle_advances (unanswered : exchange.Unanswered settings request)
    (version : ∀ chosen, connection.wireVersion = some chosen → chosen = runtimeWireVersion)
    (starting : connection.starts settings request = true) :
    Advances settings connection (connection.handle settings number exchange request) number
      exchange := by
  unfold starts at starting
  unfold handle
  split
  · rename_i failed
    have own : request.method = negotiateMethod := by
      by_contra business
      unfold selectProtocol at failed
      rw [if_neg business] at failed
      cases failed
    rw [if_pos own, failed] at starting
    cases starting
  · rename_i selected result chosen
    rcases selectProtocol_ok version chosen with ⟨same, isOpen, kept, constant⟩
    split
    · rename_i own
      rw [constant own]
      rcases negotiated_encodes unanswered.valid with ⟨text, encodes⟩
      exact (respond_advances unanswered rfl encodes).congr kept same isOpen
    · rename_i foreign
      rw [if_neg foreign] at starting
      split
      · rename_i unwatches
        rw [if_pos unwatches] at starting
        exact (unwatch_advances unanswered starting).congr kept same isOpen
      · rename_i other
        rw [if_neg other] at starting
        unfold dispatch
        split
        · rename_i failure decoded
          rw [decoded] at starting
          exact (respondFailure_advances unanswered starting).congr kept same isOpen
        · rename_i decoded
          rw [decoded] at starting
          have counts : selected.subscriptions = connection.subscriptions ∧
              selected.subscriptionReservations = connection.subscriptionReservations := by
            unfold selectProtocol at chosen
            rw [if_neg foreign] at chosen
            obtain ⟨rfl, rfl⟩ := Prod.mk.inj (Except.ok.inj chosen)
            exact ⟨rfl, rfl⟩
          split
          · rename_i watches
            simp only [watches, ne_eq, not_true_eq_false, decide_false, Bool.false_or,
              decide_eq_true_eq] at starting
            rw [counts.1, counts.2, if_neg (Nat.not_le.mpr starting)]
            have moved := @move_advances settings selected number exchange request unanswered
              .opening rfl
            exact moved.congr kept same isOpen
          · exact (move_advances unanswered rfl).congr kept same isOpen

theorem settled_advances {after : Exchange} (fits : exchange.Fits settings)
    (stage : exchange.stage = .task request point) (sent : point.responded = true)
    (same : after.message = exchange.message ∧ after.requestId = exchange.requestId ∧
      after.responses = exchange.responses)
    (rest : after.stage = .task request .finished ∨ after.stage = .released) :
    Advances settings connection (connection.put number after) number exchange := by
  have responded : exchange.Responded := by
    apply fits.responded
    intro other position staged
    obtain ⟨rfl, rfl⟩ := Stage.task.inj (stage.symm.trans staged)
    exact sent
  refine .inr ⟨rfl, .inl rfl, after, rfl, same.1, ?_, ?_, ?_, ?_⟩
  · rw [same.2.1, fits.id]
    simp only [Exchange.idOf, same.1]
  · intro other position staged
    rcases rest with finished | released
    · obtain ⟨rfl, rfl⟩ := Stage.task.inj (finished.symm.trans staged)
      rw [same.2.1]
      exact fits.own request point stage
    · rw [released] at staged
      cases staged
  · intro other position staged waits
    rcases rest with finished | released
    · obtain ⟨rfl, rfl⟩ := Stage.task.inj (finished.symm.trans staged)
      cases waits
    · rw [released] at staged
      cases staged
  · intro _
    unfold Exchange.Responded
    rw [same.2.1, same.2.2]
    exact responded

/-! ### The read loop -/

variable {message : Text}

theorem parseRequest_error {loads : Text → Loaded} {maxBytes : ℕ}
    {error : ProtocolError} (parsed : parseRequest loads maxBytes message = .error error) :
    error.code.natAbs ≤ maxIntegerAbs ∧ error.serviceCode.Within maxCommandIdBytes := by
  have invalid : ∀ id, (protocolError (-32600) "invalid_request" id).code.natAbs ≤ maxIntegerAbs ∧
      (protocolError (-32600) "invalid_request" id).serviceCode.Within maxCommandIdBytes := by
    intro id
    exact ⟨by show Int.natAbs (-32600) ≤ maxIntegerAbs; decide,
      by show Text.Within _ (Text.ofString "invalid_request"); decide⟩
  have broken : (protocolError (-32700) "parse_error" none).code.natAbs ≤ maxIntegerAbs ∧
      (protocolError (-32700) "parse_error" none).serviceCode.Within maxCommandIdBytes := by
    decide
  have tree : ∀ value, parseTree value = .error error →
      error.code.natAbs ≤ maxIntegerAbs ∧ error.serviceCode.Within maxCommandIdBytes := by
    intro value found
    unfold parseTree at found
    split at found
    · simp only at found
      split at found
      · obtain rfl := Parsed.error.inj found
        exact invalid _
      · split at found
        · obtain rfl := Parsed.error.inj found
          exact invalid _
        · split at found
          · obtain rfl := Parsed.error.inj found
            exact invalid _
          · split at found
            · obtain rfl := Parsed.error.inj found
              exact invalid _
            · split at found
              · cases found
              · obtain rfl := Parsed.error.inj found
                exact invalid _
    · obtain rfl := Parsed.error.inj found
      exact invalid _
  unfold parseRequest at parsed
  split at parsed
  · obtain rfl := Parsed.error.inj parsed
    exact broken
  · split at parsed
    · obtain rfl := Parsed.error.inj parsed
      exact broken
    · split at parsed
      · cases parsed
      · obtain rfl := Parsed.error.inj parsed
        exact broken
      · split at parsed
        · exact tree _ parsed
        · obtain rfl := Parsed.error.inj parsed
          exact broken

/-! ### The runs -/

def received : ConnectionLabel → Option Text
  | .receive message => some message
  | _ => none

/-- The connection was closed from outside, or for an overflow of its queue. -/
def EndedBy (done : List ConnectionLabel) (connection : Connection) : Prop :=
  connection.closeCode = some 1013 ∨ .close ∈ done ∨ .writerFails ∈ done

/-- The exchanges of an open connection after the labels `done`. -/
structure Live (settings : ServerSettings) (done : List ConnectionLabel)
    (connection : Connection) : Prop where
  messages : connection.exchanges.map Exchange.message = done.filterMap received
  version : ∀ chosen, connection.wireVersion = some chosen → chosen = runtimeWireVersion
  fits : ∀ exchange ∈ connection.exchanges, exchange.Fits settings

structure Answered (settings : ServerSettings) (done : List ConnectionLabel)
    (connection : Connection) : Prop where
  closed : connection.closing = true → connection.EndedBy done
  live : connection.closing = false → connection.Live settings done

theorem answered_init : Answered settings [] init := by
  refine ⟨nofun, fun _ => ⟨rfl, ?_, ?_⟩⟩
  · intro chosen held
    cases held
  · intro exchange present
    cases present

theorem taskAt_eq_some (found : connection.taskAt number point =
    some (exchange, request)) :
    connection.exchanges[number]? = some exchange ∧ exchange.stage = .task request point := by
  rcases Option.bind_eq_some_iff.mp found with ⟨entry, present, staged⟩
  split at staged
  · rename_i stage
    split at staged
    · rename_i here
      obtain ⟨rfl, rfl⟩ := Prod.mk.inj (Option.some.inj staged)
      exact ⟨present, by rw [stage, here]⟩
    · cases staged
  · cases staged

variable {label : ConnectionLabel}

theorem Live.advanced (live : connection.Live settings done)
    (isOpen : connection.closing = false) (found : connection.exchanges[number]? = some exchange)
    (advances : Advances settings connection next number exchange)
    (silent : received label = none) : Answered settings (done ++ [label]) next := by
  rcases advances with ⟨closing, code⟩ | ⟨stays, version, after, exchanges, message, fits⟩
  · refine ⟨fun _ => .inl code, ?_⟩
    intro stillOpen
    rw [closing] at stillOpen
    cases stillOpen
  · refine ⟨?_, fun _ => ⟨?_, ?_, ?_⟩⟩
    · intro closing
      rw [stays, isOpen] at closing
      cases closing
    · rw [exchanges, Locks.map_set_of_found found message, live.messages,
        filterMap_append, filterMap_cons, silent, filterMap_nil, append_nil]
    · intro chosen held
      rcases version with kept | only
      · exact live.version chosen (kept ▸ held)
      · rw [only] at held
        exact (Option.some.inj held).symm
    · intro entry present
      rw [exchanges] at present
      rcases mem_or_eq_of_mem_set present with old | rfl
      · exact live.fits entry old
      · exact fits

theorem Live.quiet (live : connection.Live settings done)
    (exchanges : next.exchanges = connection.exchanges)
    (version : next.wireVersion = connection.wireVersion)
    (closed : next.closing = true → next.EndedBy (done ++ [label]))
    (silent : received label = none) : Answered settings (done ++ [label]) next := by
  refine ⟨closed, fun _ => ⟨?_, ?_, ?_⟩⟩
  · rw [exchanges, live.messages, filterMap_append, filterMap_cons, silent,
      filterMap_nil, append_nil]
  · rw [version]
    exact live.version
  · rw [exchanges]
    exact live.fits

theorem Live.appended (live : connection.Live settings done) {entry : Exchange}
    (exchanges : next.exchanges = connection.exchanges ++ [entry])
    (version : next.wireVersion = connection.wireVersion) (isOpen : next.closing = false)
    (named : entry.message = message) (fits : entry.Fits settings) :
    Answered settings (done ++ [.receive message]) next := by
  refine ⟨?_, fun _ => ⟨?_, ?_, ?_⟩⟩
  · intro closing
    rw [isOpen] at closing
    cases closing
  · rw [exchanges, map_append, live.messages, filterMap_append, map_singleton, named]
    rfl
  · rw [version]
    exact live.version
  · intro other present
    rw [exchanges] at present
    rcases mem_append.mp present with old | new
    · exact live.fits other old
    · rw [mem_singleton.mp new]
      exact fits

theorem Live.refused (live : connection.Live settings done) (isOpen : connection.closing = false)
    {id : Option RequestId} {code : ℤ} {serviceCode : Text}
    (own : (parseRequest settings.loads settings.maxMessageBytes message).requestId = id)
    (known : code.natAbs ≤ maxIntegerAbs) (short : serviceCode.Within maxCommandIdBytes) :
    Answered settings (done ++ [.receive message])
      (connection.refuse settings message id code serviceCode) := by
  have valid : ∀ other, id = some other → other.Valid :=
    fun other same => parseRequest_valid (own.trans same)
  rcases encodeError_ok valid known short with ⟨text, encodes⟩
  unfold refuse
  rw [encodes]
  simp only [enqueue]
  split
  · refine live.appended rfl rfl isOpen rfl ⟨own.symm, nofun, nofun, fun _ => ?_⟩
    exact ⟨⟨id, text⟩, rfl, rfl⟩
  · exact ⟨fun _ => .inl rfl, nofun⟩

theorem Live.receive (live : connection.Live settings done) (isOpen : connection.closing = false)
    (loaded : parseRequest settings.loads settings.maxMessageBytes message ≠ .escaped) :
    Answered settings (done ++ [.receive message]) (connection.receive settings message) := by
  unfold Connection.receive
  split
  · rename_i escaped
    exact absurd escaped loaded
  · rename_i error parsed
    have named := parseRequest_error parsed
    exact live.refused isOpen (by rw [parsed]; rfl) named.1 named.2
  · rename_i request parsed
    have own : (parseRequest settings.loads settings.maxMessageBytes message).requestId =
        some request.id := by
      rw [parsed]
      rfl
    split
    · exact live.refused isOpen own (by decide) (by decide)
    · split
      · exact live.refused isOpen own (by decide) (by decide)
      · split
        · exact live.refused isOpen own (by decide) (by decide)
        · refine live.appended rfl rfl isOpen rfl ⟨own.symm, ?_, ?_, ?_⟩
          · intro other point stage
            obtain ⟨rfl, rfl⟩ := Stage.task.inj stage
            rfl
          · intro _ _ _ _
            rfl
          · intro sent
            cases sent request .started rfl

/-- No branch for an exception is taken that raises itself, and nothing else escapes. -/
def Untroubled (settings : ServerSettings) (connection : Connection) : ConnectionLabel → Bool
  | .receive message =>
    decide (parseRequest settings.loads settings.maxMessageBytes message ≠ .escaped)
  | .start number =>
    (connection.taskAt number .started).all fun (_, request) => connection.starts settings request
  | .opened _ outcome _ => outcome.failure.all Failure.answered
  | .returned _ outcome =>
    match outcome with
    | .value result => keysEncode result
    | failed => failed.failure.all Failure.answered
  | _ => true

theorem Live.step (live : connection.Live settings done) (isOpen : connection.closing = false)
    (untroubled : connection.Untroubled settings label = true)
    (stepped : connection.step settings label = some next) :
    Answered settings (done ++ [label]) next := by
  rw [Connection.step, isOpen, if_neg Bool.false_ne_true] at stepped
  have fitsAt : ∀ {number exchange request point},
      connection.taskAt number point = some (exchange, request) →
      connection.exchanges[number]? = some exchange ∧ exchange.stage = .task request point ∧
        exchange.Fits settings := by
    intro number exchange request point found
    have task := taskAt_eq_some found
    exact ⟨task.1, task.2, live.fits exchange (mem_of_getElem? task.1)⟩
  cases label with
  | receive message =>
    obtain rfl := Option.some.inj stepped
    exact live.receive isOpen (of_decide_eq_true untroubled)
  | close =>
    obtain rfl := Option.some.inj stepped
    exact ⟨fun _ => .inr (.inl (by simp)), nofun⟩
  | writerFails =>
    obtain rfl := Option.some.inj stepped
    exact ⟨fun _ => .inr (.inr (by simp)), nofun⟩
  | start number =>
    rcases Option.map_eq_some_iff.mp stepped with ⟨⟨exchange, request⟩, found, rfl⟩
    rcases fitsAt found with ⟨present, stage, fits⟩
    simp only [Untroubled, found, Option.all_some] at untroubled
    exact live.advanced isOpen present
      (handle_advances (fits.unanswered stage rfl) live.version untroubled) rfl
  | removed number =>
    rcases Option.map_eq_some_iff.mp stepped with ⟨⟨exchange, request⟩, found, rfl⟩
    rcases fitsAt found with ⟨present, stage, fits⟩
    exact live.advanced isOpen present
      (respondResult_advances (fits.unanswered stage rfl) rfl) rfl
  | opened number outcome subscriptionId =>
    rcases Option.ite_none_right_eq_some.mp stepped with ⟨_, stepped⟩
    rcases Option.map_eq_some_iff.mp stepped with ⟨⟨exchange, request⟩, found, rfl⟩
    rcases fitsAt found with ⟨present, stage, fits⟩
    exact live.advanced isOpen present
      (opened_advances (fits.unanswered stage rfl) untroubled) rfl
  | acknowledged number =>
    rcases Option.map_eq_some_iff.mp stepped with ⟨⟨exchange, request⟩, found, rfl⟩
    rcases fitsAt found with ⟨present, stage, fits⟩
    exact live.advanced isOpen present
      (settled_advances fits stage rfl ⟨rfl, rfl, rfl⟩ (.inl rfl)) rfl
  | returned number outcome =>
    rcases Option.map_eq_some_iff.mp stepped with ⟨⟨exchange, request⟩, found, rfl⟩
    rcases fitsAt found with ⟨present, stage, fits⟩
    refine live.advanced isOpen present
      (returned_advances (fits.unanswered stage rfl) ?_ ?_) rfl
    · cases outcome with
      | value result => rfl
      | serviceError code => exact untroubled
      | protocolError error => exact untroubled
      | other => rfl
    · rintro result rfl
      exact untroubled
  | requestDone number =>
    rcases Option.map_eq_some_iff.mp stepped with ⟨⟨exchange, request⟩, found, rfl⟩
    rcases fitsAt found with ⟨present, stage, fits⟩
    exact live.advanced isOpen present
      (settled_advances fits stage rfl ⟨rfl, rfl, rfl⟩ (.inr rfl)) rfl
  | notify =>
    obtain rfl := Option.some.inj stepped
    simp only [enqueue]
    split
    · exact live.quiet rfl rfl (fun closing => by rw [isOpen] at closing; cases closing) rfl
    · exact live.quiet rfl rfl (fun _ => .inl rfl) rfl
  | pumpEnds subscriptionId =>
    rcases Option.ite_none_right_eq_some.mp stepped with ⟨_, stepped⟩
    obtain rfl := Option.some.inj stepped
    exact live.quiet rfl rfl (fun closing => by rw [isOpen] at closing; cases closing) rfl
  | written =>
    rcases Option.ite_none_right_eq_some.mp stepped with ⟨_, stepped⟩
    obtain rfl := Option.some.inj stepped
    exact live.quiet rfl rfl (fun closing => by rw [isOpen] at closing; cases closing) rfl

theorem Answered.of_run {labels : List ConnectionLabel} (answered : connection.Answered settings done)
    (guarded : (machine settings).Guarded
      (fun connection label => connection.Untroubled settings label = true) connection labels)
    (ran : (machine settings).run connection labels = some next) :
    Answered settings (done ++ labels) next := by
  induction labels generalizing done connection with
  | nil =>
    obtain rfl : connection = next := by simpa using ran
    rw [append_nil]
    exact answered
  | cons label labels ih =>
    rcases Machine.run_cons.mp ran with ⟨middle, stepped, rest⟩
    have isOpen : connection.closing = false := by
      by_contra closed
      simp only [Bool.not_eq_false] at closed
      simp only [machine, Connection.step, closed, if_true] at stepped
      cases stepped
    have after := (answered.live isOpen).step isOpen guarded.1 stepped
    have final := ih after (guarded.2 middle stepped) rest
    rwa [append_assoc] at final

/-- What a task that has not responded waits for. -/
def Resumes (connection : Connection) (number : ℕ) : Point → ConnectionLabel → Prop
  | .started, .start other => other = number
  | .removing, .removed other => other = number
  | .opening, .opened other _ subscriptionId =>
    other = number ∧ isHexId subscriptionId ∧ subscriptionId ∉ connection.subscriptions
  | .calling, .returned other _ => other = number
  | _, _ => False

theorem step_of_resumes (isOpen : connection.closing = false)
    (found : connection.exchanges[number]? = some exchange)
    (stage : exchange.stage = .task request point)
    (resumes : connection.Resumes number point label) :
    (connection.step settings label).isSome = true := by
  have task : connection.taskAt number point = some (exchange, request) := by
    simp [taskAt, found, stage]
  rw [Connection.step, isOpen, if_neg Bool.false_ne_true]
  cases point <;> cases label <;> simp only [Resumes] at resumes
  case started.start other =>
    subst resumes
    simp [take, task]
  case removing.removed other =>
    subst resumes
    simp [take, task]
  case opening.opened other outcome subscriptionId =>
    rcases resumes with ⟨rfl, fresh⟩
    simp [take, task, fresh]
  case calling.returned other outcome =>
    subst resumes
    simp [take, task]

/-- In a run in which no branch for an exception raises itself, the connection stays open until it
is closed from outside or its queue overflows. While it is open, each received frame has exactly
one response with its id, or its task has not responded yet and waits for something that it can
still get. -/
theorem answered_of_untroubled {labels : List ConnectionLabel}
    (guarded : (machine settings).Guarded
      (fun connection label => connection.Untroubled settings label = true) init labels)
    (ran : (machine settings).run init labels = some connection) :
    (connection.closing = true → connection.EndedBy labels) ∧
    (connection.closing = false →
      connection.exchanges.map Exchange.message = labels.filterMap received ∧
      ∀ (number : ℕ) (exchange : Exchange), connection.exchanges[number]? = some exchange →
        exchange.requestId = exchange.idOf settings ∧
        (exchange.Responded ∨
          (exchange.responses = [] ∧ ∃ request point, exchange.stage = .task request point ∧
            ∀ label, connection.Resumes number point label →
              (connection.step settings label).isSome = true))) := by
  have answered : Answered settings labels connection := answered_init.of_run guarded ran
  refine ⟨answered.closed, fun isOpen => ?_⟩
  have live := answered.live isOpen
  refine ⟨live.messages, ?_⟩
  intro number exchange found
  have fits := live.fits exchange (List.mem_of_getElem? found)
  refine ⟨fits.id, ?_⟩
  by_cases waits : ∃ request point, exchange.stage = .task request point ∧ point.responded = false
  · rcases waits with ⟨request, point, stage, waits⟩
    exact .inr ⟨fits.waiting request point stage waits, request, point, stage,
      fun label resumes => step_of_resumes isOpen found stage resumes⟩
  · refine .inl (fits.responded fun request point stage => ?_)
    by_contra silent
    exact waits ⟨request, point, stage, Bool.not_eq_true _ ▸ silent⟩

/-! ### Requests without an answer -/

/-- A request with empty parameters. -/
def plainRequest (method : String) : Value :=
  .mapping true (.ofList
    [member "jsonrpc" jsonrpcVersion, member "id" (.int true 7),
      member "method" (.str true (Text.ofString method)), member "params" (.mapping true .nil)])

def requestText (method : String) : Text :=
  ((plainRequest method).dumps false).toOption.getD []

/-- A server that reads these requests. -/
def plainSettings : ServerSettings where
  loads := fun message =>
    if message = requestText "runtime.project.list" then
      .tree (plainRequest "runtime.project.list")
    else if message = requestText "runtime.events.unwatch" then
      .tree (plainRequest "runtime.events.unwatch")
    else .invalid
  decodeParams := fun _ params => if params = .nil then none else some (.protocol invalidParams)
  methods := [Text.ofString "runtime.project.list", watchMethod, unwatchMethod, negotiateMethod]
  maxMessageBytes := 1024 * 1024
  maxInflight := 32
  maxSubscriptions := 32
  outgoingQueueSize := 128

def callLabels (outcome : ServiceOutcome Value) : List ConnectionLabel :=
  [.receive (requestText "runtime.project.list"), .start 0, .returned 0 outcome]

/-- A service call that raises is answered. -/
theorem answered_of_untroubled_raised : ∃ connection,
    (machine plainSettings).run init (callLabels .other) = some connection ∧
      ∃ exchange, connection.exchanges[0]? = some exchange ∧
        exchange.requestId = exchange.idOf plainSettings := by
  have reached : ∃ connection,
      (machine plainSettings).run init (callLabels .other) = some connection ∧
        (machine plainSettings).Guarded
          (fun connection label => connection.Untroubled plainSettings label = true) init
          (callLabels .other) ∧
        connection.closing = false ∧ (connection.exchanges[0]?).isSome = true := by
    decide +kernel
  rcases reached with ⟨connection, ran, guarded, isOpen, present⟩
  rcases Option.isSome_iff_exists.mp present with ⟨exchange, found⟩
  exact ⟨connection, ran, exchange, found,
    (((answered_of_untroubled guarded ran).2 isOpen).2 0 exchange found).1⟩

/-- The task of the first exchange has ended without a response on an open connection. -/
def Dropped (connection : Connection) : Prop :=
  connection.closing = false ∧ connection.exchanges.map Exchange.stage = [.released] ∧
    connection.exchanges.map Exchange.responses = [[]]

instance (connection : Connection) : Decidable connection.Dropped :=
  inferInstanceAs (Decidable (_ ∧ _ ∧ _))

/-- Parameters that the decoder refuses, a `ProtocolError` of the service, and a result with a lone
surrogate in a key have no response. -/
theorem request_dropped :
    (∃ connection, (machine plainSettings).run init
      [.receive (requestText "runtime.events.unwatch"), .start 0, .requestDone 0] =
        some connection ∧ connection.Dropped) ∧
    (∃ connection, (machine plainSettings).run init
      (callLabels (.protocolError invalidParams) ++ [.requestDone 0]) =
        some connection ∧ connection.Dropped) ∧
    ∃ connection, (machine plainSettings).run init
      (callLabels (.value (.mapping true (.cons (.str [0xD800]) .null .nil))) ++
        [.requestDone 0]) = some connection ∧ connection.Dropped := by
  decide +kernel

end Connection

end Synapse.Transport
