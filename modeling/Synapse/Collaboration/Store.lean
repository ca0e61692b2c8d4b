import Synapse.Collaboration.Model
import Synapse.Foundation.Table

/-!
# The collaboration store

`CollaborationStore` keeps scopes, requests, messages and deliveries in four
tables. Each operation is one transaction: it either returns the new tables or
raises, and then nothing is changed. A table is the list of its rows in
insertion order, so `ORDER BY sequence` is the order of the list. The clock is
read once for each operation; its readings are stored and never compared.
-/

namespace Synapse.Collaboration

structure CollaborationStore where
  maxPending : ℕ
  scopes : List ContinuationScope
  requests : List Request
  messages : List Message
  deliveries : List Delivery
  /-- The last value that `AUTOINCREMENT` gave out. -/
  deliverySequence : ℕ
  deriving DecidableEq, Repr

namespace CollaborationStore

def new (maxPending : ℤ) : Fallible CollaborationStore := do
  raiseIf (¬(1 ≤ maxPending ∧ maxPending ≤ 4096)) (.invalid "invalid mailbox capacity")
  return ⟨maxPending.toNat, [], [], [], [], 0⟩

/-- Bytes a delivery's reason may have. -/
def maxReasonBytes : ℕ := 64

def checkVersion (value : ℤ) : Fallible Unit :=
  raiseIf (value < 0) (.invalid "invalid expected version")

def optionalArgument (value : Option Text) (maximum : ℕ) : Fallible Unit :=
  match value with
  | none => pure ()
  | some value => boundedText value maximum

/-! ### Statements -/

/-- The index `one_delivery_owner`. -/
def OwnersDistinct (deliveries : List Delivery) : Prop :=
  ((deliveries.filter (·.state.owns)).map (·.recipient)).Nodup

instance (deliveries : List Delivery) : Decidable (OwnersDistinct deliveries) :=
  inferInstanceAs (Decidable (List.Nodup _))

def insertScope (store : CollaborationStore) (scope : ContinuationScope) :
    Fallible CollaborationStore := do
  raiseIf (∃ row ∈ store.scopes,
    row.id = scope.id ∨ row.source = scope.source ∧ row.workId = scope.workId) .integrity
  return { store with scopes := store.scopes ++ [scope] }

def insertRequest (store : CollaborationStore) (request : Request) :
    Fallible CollaborationStore := do
  raiseIf (∃ row ∈ store.requests, row.id = request.id ∨
    row.scopeId = request.scopeId ∧ row.operationKey = request.operationKey) .integrity
  return { store with requests := store.requests ++ [request] }

def insertMessage (store : CollaborationStore) (message : Message) :
    Fallible CollaborationStore := do
  raiseIf (∃ row ∈ store.messages, row.id = message.id ∨ row.requestId = message.requestId ∧
    (row.sequence = message.sequence ∨
      row.sender = message.sender ∧ row.operationKey = message.operationKey)) .integrity
  return { store with messages := store.messages ++ [message] }

/-- The sequence of the row is the next one of `AUTOINCREMENT`. -/
def insertDelivery (store : CollaborationStore) (delivery : Delivery) :
    Fallible CollaborationStore := do
  raiseIf (∃ row ∈ store.deliveries,
    row.id = delivery.id ∨ row.messageId = delivery.messageId) .integrity
  return { store with
    deliveries := store.deliveries ++ [{ delivery with sequence := store.deliverySequence + 1 }]
    deliverySequence := store.deliverySequence + 1 }

/-- `UPDATE deliveries SET change WHERE chosen`, under the unique index. -/
def updateDeliveries (store : CollaborationStore) (chosen : Delivery → Bool)
    (change : Delivery → Delivery) : Fallible CollaborationStore := do
  let deliveries := Table.update chosen change store.deliveries
  raiseIf (¬OwnersDistinct deliveries) .integrity
  return { store with deliveries }

/-- `UPDATE requests SET change WHERE chosen`. -/
def updateRequests (store : CollaborationStore) (chosen : Request → Bool)
    (change : Request → Request) : CollaborationStore :=
  { store with requests := Table.update chosen change store.requests }

/-- `UPDATE scopes SET change WHERE chosen`. -/
def updateScopes (store : CollaborationStore) (chosen : ContinuationScope → Bool)
    (change : ContinuationScope → ContinuationScope) : CollaborationStore :=
  { store with scopes := Table.update chosen change store.scopes }

/-! ### Reads -/

def findMessage (store : CollaborationStore) (id : Text) : Option Message :=
  store.messages.find? (·.id = id)

def readScope (store : CollaborationStore) (scopeId : Text) : Fallible ContinuationScope := do
  boundedText scopeId maxIdBytes
  orRaise (store.scopes.find? (·.id = scopeId)) (.notFound "scope not found")

def readRequest (store : CollaborationStore) (requestId : Text) (actor : SessionRef) :
    Fallible Request := do
  boundedText requestId maxIdBytes
  validateRef actor
  let request ← orRaise (store.requests.find? (·.id = requestId)) (.notFound "request not found")
  raiseIf (actor ≠ request.source ∧ actor ≠ request.target) (.notFound "request not found")
  return request

def getDelivery (store : CollaborationStore) (deliveryId : Text) (recipient : SessionRef) :
    Fallible Delivery := do
  boundedText deliveryId maxIdBytes
  validateRef recipient
  let delivery ← orRaise (store.deliveries.find? (·.id = deliveryId))
    (.notFound "delivery not found")
  raiseIf (delivery.recipient ≠ recipient) (.notFound "delivery not found")
  return delivery

def executionContext (store : CollaborationStore) (deliveryId : Text) :
    Fallible (Request × ContinuationScope × Message) := do
  boundedText deliveryId maxIdBytes
  let delivery ← orRaise (store.deliveries.find? (·.id = deliveryId))
    (.notFound "delivery not found")
  let request ← orRaise (store.requests.find? (·.id = delivery.requestId))
    (.notFound "delivery record is incomplete")
  let message ← orRaise (store.findMessage delivery.messageId)
    (.notFound "delivery record is incomplete")
  let scope ← store.readScope delivery.scopeId
  return (request, scope, message)

/-! ### Scopes and assignments -/

def beginScope (store : CollaborationStore) (source : SessionRef) (workId : Text)
    (fresh : FreshId) : Fallible (CollaborationStore × ContinuationScope) := do
  validateRef source
  boundedText workId maxIdBytes
  match store.scopes.find? fun row => row.source = source ∧ row.workId = workId with
  | some existing => return (store, existing)
  | none =>
    let store ← store.insertScope ⟨fresh.text, source, workId, .active, 0⟩
    return (store, ← store.readScope fresh.text)

/-- The fence of a scope: pending deliveries are cancelled and claimed ones held
for review. A receive-only fence is about results addressed to the source. -/
def restrictLocked (store : CollaborationStore) (scope : ContinuationScope) (state : ScopeState)
    (now : ℤ) : Fallible CollaborationStore := do
  let fenced := store.updateScopes (·.id = scope.id) fun row =>
    { row with state, version := row.version + 1 }
  let applies (row : Delivery) : Bool :=
    row.scopeId = scope.id ∧ (state = .receiveOnly → row.recipient = scope.source ∧
      ∃ message ∈ store.messages, message.id = row.messageId ∧
        message.requestId = row.requestId ∧ message.kind = .reply)
  let cancelled ← fenced.updateDeliveries (fun row => applies row && row.state == .pending)
    (·.retire .cancelled "scope_disabled")
  let reviewed ← cancelled.updateDeliveries (fun row => applies row && row.state == .claimed)
    (·.retire .review "scope_disabled")
  if state = .revoked then
    return reviewed.updateRequests
      (fun row => row.scopeId = scope.id ∧ row.state = .pending ∧
        ¬∃ delivery ∈ reviewed.deliveries, delivery.requestId = row.id ∧ delivery.state.owns)
      (·.advance .cancelled now)
  else return reviewed

def restrictScope (store : CollaborationStore) (scopeId : Text) (actor : SessionRef)
    (state : ScopeState) (expectedVersion : ℤ) (now : ℤ) :
    Fallible (CollaborationStore × ContinuationScope) := do
  validateRef actor
  checkVersion expectedVersion
  let scope ← store.readScope scopeId
  raiseIf (scope.source ≠ actor) (.notFound "scope not found")
  raiseIf ((scope.version : ℤ) ≠ expectedVersion) (.conflict "scope version changed")
  checkTransition scope.state state
  let store ← store.restrictLocked scope state now
  return (store, ← store.readScope scopeId)

def controlRequest (store : CollaborationStore) (requestId : Text) (source : SessionRef)
    (expectedVersion : ℤ) (receiveOnly : Bool) (now : ℤ) :
    Fallible (CollaborationStore × Request) := do
  checkVersion expectedVersion
  let request ← store.readRequest requestId source
  raiseIf (request.source ≠ source) (.notFound "assignment not found")
  raiseIf ((request.controlVersion : ℤ) ≠ expectedVersion) (.conflict "assignment control changed")
  let state : ScopeState := if receiveOnly then .receiveOnly else .revoked
  checkTransition request.continuation state
  let fenced := store.updateRequests (·.id = request.id) fun row =>
    { row with continuation := state, controlVersion := row.controlVersion + 1, updatedAtMs := now }
  let applies (row : Delivery) : Bool :=
    row.requestId = request.id ∧ (receiveOnly = true → row.recipient = source)
  let cancelled ← fenced.updateDeliveries (fun row => applies row && row.state == .pending)
    (·.retire .cancelled "assignment_disabled")
  let reviewed ← cancelled.updateDeliveries (fun row => applies row && row.state == .claimed)
    (·.retire .review "assignment_disabled")
  let stopped :=
    if receiveOnly = false ∧
        (request.state = .pending ∨ request.state = .working ∨ request.state = .waitingInput) then
      reviewed.updateRequests (·.id = request.id) fun row =>
        { row with state := .cancelled, version := row.version + 1 }
    else reviewed
  return (stopped, ← stopped.readRequest request.id source)

/-- Whether the fences let a recipient execute: none may be revoked, and the
source also needs both active. -/
def permitsExecution (request : Request) (scope : ContinuationScope) (recipient : SessionRef) :
    Bool :=
  scope.state ≠ .revoked ∧ request.continuation ≠ .revoked ∧
    (recipient = request.source → scope.state = .active ∧ request.continuation = .active)

def linkResumedTurn (store : CollaborationStore) (deliveryId : Text) (recipient : SessionRef)
    (turnId : Text) : Fallible CollaborationStore := do
  boundedText turnId maxIdBytes
  -- The identifier is not validated; one that has no encoding cannot be bound.
  raiseIf (deliveryId.utf8Size? = none) .unencodable
  let delivery ← orRaise (store.deliveries.find? (·.id = deliveryId))
    (.notFound "delivery not found")
  raiseIf (delivery.recipient ≠ recipient) (.notFound "delivery not found")
  if delivery.turnId = some turnId then return store
  let request ← store.readRequest delivery.requestId recipient
  let scope ← store.readScope request.scopeId
  raiseIf (delivery.state ≠ .running ∨ permitsExecution request scope recipient = false)
    (.conflict "assignment no longer permits execution")
  store.updateDeliveries (·.id = deliveryId) fun row =>
    { row with turnId := some turnId, version := row.version + 1 }

/-! ### Requests and messages -/

/-- Whether the recipient of a new message may act on it. -/
def executable (request : Request) (scope : ContinuationScope) (kind : MessageKind)
    (recipient : SessionRef) : Bool :=
  kind ≠ .progress ∧ request.continuation ≠ .revoked ∧
    (recipient ≠ request.source ∨ scope.state = .active ∧ request.continuation = .active)

/-- Append one message with its delivery. The last of the `maxMessages` slots is
reserved for a reply. -/
def append (store : CollaborationStore) (request : Request) (sender : SessionRef)
    (kind : MessageKind) (body operationKey anchorTurnId : Text) (messageId deliveryId : FreshId)
    (now : ℤ) : Fallible (CollaborationStore × Message) := do
  let count := store.messages.countP fun row => row.requestId = request.id
  let ceiling := if kind = .reply then maxMessages else maxMessages - 1
  raiseIf (ceiling ≤ count) (.capacity "request message limit reached")
  let recipient := if sender = request.source then request.target else request.source
  let scope ← store.readScope request.scopeId
  let runs := executable request scope kind recipient
  let occupied := store.deliveries.countP fun row =>
    row.recipient = recipient ∧ row.state.occupies
  raiseIf (runs = true ∧ store.maxPending ≤ occupied) (.capacity "recipient mailbox is full")
  let message : Message :=
    { id := messageId.text, requestId := request.id, sequence := count + 1, sender, kind, body
      operationKey, anchorTurnId, createdAtMs := now }
  let store ← store.insertMessage message
  let store ← store.insertDelivery
    { id := deliveryId.text
      messageId := message.id
      requestId := request.id
      recipient
      scopeId := request.scopeId
      state := if runs then .pending else if kind = .progress then .settled else .cancelled
      version := 0
      turnId := none
      reason := if runs then none
        else if kind = .progress then some (Text.ofString "notification")
        else some (Text.ofString "scope_disabled")
      sequence := 0 }
  return (store, message)

def createRequest (store : CollaborationStore) (scopeId : Text) (source target : SessionRef)
    (operationKey body anchorTurnId : Text) (requestId messageId deliveryId : FreshId) (now : ℤ) :
    Fallible (CollaborationStore × Request) := do
  validateRef source
  validateRef target
  raiseIf (source = target) (.invalid "cannot request the same session")
  boundedText operationKey maxIdBytes
  boundedText body maxBodyBytes
  optionalText anchorTurnId
  let scope ← store.readScope scopeId
  raiseIf (scope.source ≠ source) (.notFound "scope not found")
  match store.requests.find? fun row => row.scopeId = scopeId ∧ row.operationKey = operationKey with
  | some request =>
    raiseIf (¬(request.target = target ∧ request.body = body ∧
        request.anchorTurnId = anchorTurnId))
      (.conflict "operation key already has different content")
    return (store, request)
  | none =>
    raiseIf (scope.state ≠ .active) (.conflict "scope is not active")
    let store ← store.insertRequest
      { id := requestId.text, scopeId, source, target, operationKey, body, anchorTurnId
        state := .pending, version := 0, createdAtMs := now, updatedAtMs := now
        continuation := .active, controlVersion := 0 }
    let request ← store.readRequest requestId.text source
    let (store, _) ← store.append request source .request body operationKey anchorTurnId
      messageId deliveryId now
    return (store, request)

def cancelPendingClarifications (store : CollaborationStore) (requestId : Text) :
    Fallible CollaborationStore :=
  store.updateDeliveries
    (fun row => row.requestId = requestId ∧ row.state = .pending ∧
      ∃ message ∈ store.messages, message.id = row.messageId ∧
        message.requestId = requestId ∧ message.kind = .clarification)
    (·.retire .cancelled "superseded")

/-- The request state that a clarification, a supplement or a reply leads to. -/
def nextState : MessageKind → Option RequestState
  | .clarification => some .waitingInput
  | .supplement => some .pending
  | .reply => some .replied
  | .request | .progress => none

/-- The gate of a supplement. -/
def checkActive (store : CollaborationStore) (request : Request) : Fallible Unit := do
  let scope ← store.readScope request.scopeId
  raiseIf (scope.state ≠ .active ∨ request.continuation ≠ .active)
    (.conflict "scope is not active")

def postMessage (store : CollaborationStore) (requestId : Text) (actor : SessionRef)
    (kind : MessageKind) (body operationKey anchorTurnId : Text) (messageId deliveryId : FreshId)
    (now : ℤ) : Fallible (CollaborationStore × Message) := do
  raiseIf (kind = .request) (.invalid "invalid response kind")
  boundedText body maxBodyBytes
  boundedText operationKey maxIdBytes
  optionalText anchorTurnId
  let request ← store.readRequest requestId actor
  raiseIf (actor ≠ if kind = .supplement then request.source else request.target)
    (.conflict "message role is not allowed")
  match store.messages.find? fun row =>
      row.requestId = requestId ∧ row.sender = actor ∧ row.operationKey = operationKey with
  | some message =>
    raiseIf (¬(message.kind = kind ∧ message.body = body ∧ message.anchorTurnId = anchorTurnId))
      (.conflict "operation key already has different content")
    return (store, message)
  | none =>
    match nextState kind with
    | none =>
      -- Progress only; a request was refused above.
      raiseIf (request.state ≠ .working ∧ request.state ≠ .waitingInput)
        (.conflict "assignment is not running")
      let (store, message) ← store.append request actor kind body operationKey anchorTurnId
        messageId deliveryId now
      return (store.updateRequests (·.id = request.id) fun row =>
        { row with updatedAtMs := now }, message)
    | some next =>
      (if kind = .supplement then store.checkActive request else pure ())
      checkTransition request.state next
      let store ←
        (if kind = .supplement ∨ kind = .reply then store.cancelPendingClarifications request.id
        else pure store)
      let (store, message) ← store.append request actor kind body operationKey anchorTurnId
        messageId deliveryId now
      return (store.updateRequests (·.id = request.id) (·.advance next now), message)

def failRequest (store : CollaborationStore) (requestId : Text) (actor : SessionRef)
    (expectedVersion : ℤ) (now : ℤ) : Fallible (CollaborationStore × Request) := do
  checkVersion expectedVersion
  let request ← store.readRequest requestId actor
  raiseIf (actor ≠ request.target) (.conflict "only target can report failure")
  raiseIf ((request.version : ℤ) ≠ expectedVersion) (.conflict "request version changed")
  checkTransition request.state .failed
  let store ← store.cancelPendingClarifications request.id
  let failed := store.updateRequests (·.id = requestId) (·.advance .failed now)
  return (failed, ← failed.readRequest requestId actor)

/-! ### Deliveries -/

def claimNext (store : CollaborationStore) (recipient : SessionRef) :
    Fallible (CollaborationStore × Option Delivery) := do
  validateRef recipient
  if ∃ row ∈ store.deliveries, row.recipient = recipient ∧ row.state.owns then
    return (store, none)
  match store.deliveries.find? fun row => row.recipient = recipient ∧ row.state = .pending with
  | none => return (store, none)
  | some delivery =>
    let claimed ← store.updateDeliveries (·.id = delivery.id) fun row =>
      { row with state := .claimed, version := row.version + 1 }
    return (claimed, claimed.deliveries.find? (·.id = delivery.id))

/-- The `allowed` table of `transition_delivery`; progress is not in it. -/
def allowed (request : Request) (recipient : SessionRef) : MessageKind → Option Bool
  | .request | .supplement => some (recipient = request.target ∧ request.state = .pending)
  | .clarification => some (recipient = request.source ∧ request.state = .waitingInput)
  | .reply => some (recipient = request.source ∧ request.state = .replied)
  | .progress => none

/-- The checks before `RUNNING`, and the request's own step to `WORKING`. -/
def startLocked (store : CollaborationStore) (delivery : Delivery) (request : Request)
    (recipient : SessionRef) (now : ℤ) : Fallible CollaborationStore := do
  let scope ← store.readScope delivery.scopeId
  raiseIf (permitsExecution request scope recipient = false)
    (.conflict "scope no longer permits execution")
  let message ← orRaise (store.findMessage delivery.messageId) .lookup
  let fits ← orRaise (allowed request recipient message.kind) .lookup
  raiseIf (fits = false) (.conflict "request no longer permits execution")
  if recipient = request.target ∧ request.state = .pending then
    return store.updateRequests (·.id = request.id) (·.advance .working now)
  else return store

def transitionDelivery (store : CollaborationStore) (deliveryId : Text) (recipient : SessionRef)
    (state : DeliveryState) (expectedVersion : ℤ) (turnId reason : Option Text) (now : ℤ) :
    Fallible (CollaborationStore × Option Delivery) := do
  boundedText deliveryId maxIdBytes
  validateRef recipient
  checkVersion expectedVersion
  optionalArgument turnId maxIdBytes
  optionalArgument reason maxReasonBytes
  let delivery ← orRaise (store.deliveries.find? (·.id = deliveryId))
    (.notFound "delivery not found")
  raiseIf (delivery.recipient ≠ recipient) (.notFound "delivery not found")
  raiseIf ((delivery.version : ℤ) ≠ expectedVersion) (.conflict "delivery version changed")
  checkTransition delivery.state state
  raiseIf (state = .running ∧ turnId = none) (.invalid "running delivery requires a turn identity")
  raiseIf (delivery.turnId ≠ none ∧ turnId ≠ none ∧ turnId ≠ delivery.turnId)
    (.conflict "delivery already bound to another turn")
  let request ← store.readRequest delivery.requestId recipient
  let started ←
    (if state = .running then store.startLocked delivery request recipient now else pure store)
  let moved ← started.updateDeliveries (·.id = delivery.id) fun row =>
    { row with
      state
      version := row.version + 1
      turnId := row.turnId.or turnId
      reason := reason.or row.reason }
  return (moved, moved.deliveries.find? (·.id = delivery.id))

def abandonClaim (store : CollaborationStore) (deliveryId : Text) (recipient : SessionRef)
    (expectedVersion : ℤ) (reason : Text) (now : ℤ) :
    Fallible (CollaborationStore × Option Delivery) := do
  boundedText reason maxReasonBytes
  store.transitionDelivery deliveryId recipient .cancelled expectedVersion none (some reason) now

def resolveUncertain (store : CollaborationStore) (deliveryId : Text) (recipient : SessionRef)
    (expectedVersion : ℤ) (reason : Text) (now : ℤ) :
    Fallible (CollaborationStore × Option Delivery) := do
  boundedText reason maxReasonBytes
  store.transitionDelivery deliveryId recipient .settled expectedVersion none (some reason) now

/-! ### Recovery -/

def recoverUncertain (store : CollaborationStore) (limit : ℤ) :
    Fallible (CollaborationStore × ℕ) := do
  pageSize limit
  let rows := (store.deliveries.filter fun row =>
    row.state = .claimed ∨ row.state = .running).take limit.toNat
  let store ← rows.foldlM (fun store row =>
    store.updateDeliveries (·.id = row.id) (·.retire .review "restart")) store
  return (store, rows.length)

/-- One row of `settle_interrupted`: the delivery is settled, and a request whose
target never answered is failed. -/
def settleLocked (store : CollaborationStore) (delivery : Delivery) (now : ℤ) :
    Fallible CollaborationStore := do
  let settled ← store.updateDeliveries (·.id = delivery.id) (·.retire .settled "interrupted")
  match settled.requests.find? (·.id = delivery.requestId) with
  | none => return settled
  | some request =>
    if delivery.recipient ≠ request.target ∨
        (request.state ≠ .pending ∧ request.state ≠ .working) then
      return settled
    else return settled.updateRequests (·.id = request.id) (·.advance .failed now)

def settleInterrupted (store : CollaborationStore) (limit : ℤ) (now : ℤ) :
    Fallible (CollaborationStore × ℕ) := do
  pageSize limit
  let rows := (store.deliveries.filter fun row => row.state = .review).take limit.toNat
  let store ← rows.foldlM (fun store row => store.settleLocked row now) store
  return (store, rows.length)

/-- The query of `reconcile_stopped_requests` on one request. -/
def isStopped (store : CollaborationStore) (request : Request) : Bool :=
  request.state = .pending ∧
    (∃ scope ∈ store.scopes, scope.id = request.scopeId ∧ scope.state ≠ .active) ∧
    ¬∃ delivery ∈ store.deliveries, delivery.requestId = request.id ∧ delivery.state.occupies

/-- The query has no `ORDER BY`; `scan` is the order in which it visits the rows. -/
def reconcileStoppedRequests (store : CollaborationStore) (limit : ℤ) (scan : List Request)
    (now : ℤ) : Fallible (CollaborationStore × ℕ) := do
  pageSize limit
  let rows := (scan.filter store.isStopped).take limit.toNat
  let store := rows.foldl (fun store row =>
    store.updateRequests (·.id = row.id) (·.advance .cancelled now)) store
  return (store, rows.length)

end CollaborationStore

end Synapse.Collaboration
