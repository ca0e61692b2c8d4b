import Synapse.Collaboration.Store
import Synapse.Foundation.Machine

/-!
# The operations of the store

The store moves by its write operations, in any order and with any arguments; an
operation that raises is rolled back. `Applied` lists once what a successful
operation can do: update rows in place, each along its transition table, or
insert rows. Every invariant of the store is proved from this list.
-/

namespace Synapse.Collaboration

/-- The write operations with their arguments, the identifiers they draw and the
clock they read. -/
inductive StoreOperation where
  | beginScope (source : SessionRef) (workId : Text) (fresh : FreshId)
  | restrictScope (scopeId : Text) (actor : SessionRef) (state : ScopeState)
      (expectedVersion : ℤ) (now : ℤ)
  | controlRequest (requestId : Text) (source : SessionRef) (expectedVersion : ℤ)
      (receiveOnly : Bool) (now : ℤ)
  | linkResumedTurn (deliveryId : Text) (recipient : SessionRef) (turnId : Text)
  | createRequest (scopeId : Text) (source target : SessionRef)
      (operationKey body anchorTurnId : Text) (requestId messageId deliveryId : FreshId) (now : ℤ)
  | postMessage (requestId : Text) (actor : SessionRef) (kind : MessageKind)
      (body operationKey anchorTurnId : Text) (messageId deliveryId : FreshId) (now : ℤ)
  | failRequest (requestId : Text) (actor : SessionRef) (expectedVersion : ℤ) (now : ℤ)
  | claimNext (recipient : SessionRef)
  | transitionDelivery (deliveryId : Text) (recipient : SessionRef) (state : DeliveryState)
      (expectedVersion : ℤ) (turnId reason : Option Text) (now : ℤ)
  | abandonClaim (deliveryId : Text) (recipient : SessionRef) (expectedVersion : ℤ)
      (reason : Text) (now : ℤ)
  | resolveUncertain (deliveryId : Text) (recipient : SessionRef) (expectedVersion : ℤ)
      (reason : Text) (now : ℤ)
  | recoverUncertain (limit : ℤ)
  | settleInterrupted (limit : ℤ) (now : ℤ)
  | reconcileStoppedRequests (limit : ℤ) (scan : List Request) (now : ℤ)

/-- The operations that act on the deliveries of a recipient for its sake, or on all of them. -/
def StoreOperation.concerns (recipient : SessionRef) : StoreOperation → Bool
  | .claimNext other | .transitionDelivery _ other _ _ _ _ _ | .abandonClaim _ other _ _ _
  | .resolveUncertain _ other _ _ _ | .linkResumedTurn _ other _ => recipient = other
  | .recoverUncertain _ | .settleInterrupted _ _ => true
  | _ => false

namespace CollaborationStore

/-- The tables after a successful operation. -/
def apply (store : CollaborationStore) : StoreOperation → Fallible CollaborationStore
  | .beginScope source workId fresh => return (← store.beginScope source workId fresh).1
  | .restrictScope scopeId actor state expectedVersion now =>
    return (← store.restrictScope scopeId actor state expectedVersion now).1
  | .controlRequest requestId source expectedVersion receiveOnly now =>
    return (← store.controlRequest requestId source expectedVersion receiveOnly now).1
  | .linkResumedTurn deliveryId recipient turnId =>
    store.linkResumedTurn deliveryId recipient turnId
  | .createRequest scopeId source target operationKey body anchorTurnId requestId messageId
      deliveryId now =>
      return (← store.createRequest scopeId source target operationKey body anchorTurnId requestId
        messageId deliveryId now).1
  | .postMessage requestId actor kind body operationKey anchorTurnId messageId deliveryId now =>
    return (← store.postMessage requestId actor kind body operationKey anchorTurnId messageId
      deliveryId now).1
  | .failRequest requestId actor expectedVersion now =>
    return (← store.failRequest requestId actor expectedVersion now).1
  | .claimNext recipient => return (← store.claimNext recipient).1
  | .transitionDelivery deliveryId recipient state expectedVersion turnId reason now =>
    return (← store.transitionDelivery deliveryId recipient state expectedVersion turnId reason
      now).1
  | .abandonClaim deliveryId recipient expectedVersion reason now =>
    return (← store.abandonClaim deliveryId recipient expectedVersion reason now).1
  | .resolveUncertain deliveryId recipient expectedVersion reason now =>
    return (← store.resolveUncertain deliveryId recipient expectedVersion reason now).1
  | .recoverUncertain limit => return (← store.recoverUncertain limit).1
  | .settleInterrupted limit now => return (← store.settleInterrupted limit now).1
  | .reconcileStoppedRequests limit scan now =>
    return (← store.reconcileStoppedRequests limit scan now).1

/-- A query visits each row of its table once. -/
def Admits (store : CollaborationStore) : StoreOperation → Prop
  | .reconcileStoppedRequests _ scan _ => scan.Perm store.requests
  | _ => True

instance (store : CollaborationStore) : ∀ operation, Decidable (store.Admits operation)
  | .reconcileStoppedRequests _ scan _ => inferInstanceAs (Decidable (scan.Perm store.requests))
  | .beginScope .. | .restrictScope .. | .controlRequest .. | .linkResumedTurn ..
  | .createRequest .. | .postMessage .. | .failRequest .. | .claimNext .. | .transitionDelivery ..
  | .abandonClaim .. | .resolveUncertain .. | .recoverUncertain .. | .settleInterrupted .. =>
    isTrue trivial

/-- One operation; one that raises is rolled back. -/
def step (store : CollaborationStore) (operation : StoreOperation) : Option CollaborationStore :=
  if store.Admits operation then
    match store.apply operation with
    | .ok next => some next
    | .error _ => some store
  else none

def machine : Machine CollaborationStore StoreOperation where
  step := step

variable {operation : StoreOperation}

theorem step_of_apply {store next : CollaborationStore}
    (admitted : store.Admits operation) (applied : store.apply operation = .ok next) :
    machine.step store operation = some next := by
  simp only [machine, step, if_pos admitted, applied]

theorem step_cases {store next : CollaborationStore}
    (stepped : machine.step store operation = some next) :
    store.Admits operation ∧ (store.apply operation = .ok next ∨ next = store) := by
  simp only [machine, step] at stepped
  split at stepped
  case isTrue admitted =>
    split at stepped
    case h_1 after applied =>
      cases stepped
      exact ⟨admitted, Or.inl applied⟩
    case h_2 error raised => exact ⟨admitted, Or.inr (Option.some.inj stepped).symm⟩
  case isFalse => cases stepped

/-- A store of the given capacity with empty tables. -/
def empty (maxPending : ℕ) : CollaborationStore := ⟨maxPending, [], [], [], [], 0⟩

/-! ### A session that assigns work to another -/

namespace Assignment

/-- The identifier that repeats one digit. -/
def identifier (digit : CodePoint) (hex : isHexDigit digit = true) : FreshId :=
  ⟨List.replicate 32 digit, by simp [hex]⟩

def scopeId : FreshId := identifier 0x30 rfl
def requestId : FreshId := identifier 0x31 rfl
def messageId : FreshId := identifier 0x32 rfl
def deliveryId : FreshId := identifier 0x33 rfl

def source : SessionRef := ⟨Text.ofString "project", Text.ofString "source"⟩
def target : SessionRef := ⟨Text.ofString "project", Text.ofString "target"⟩

/-- A scope and an assignment in it, which is still pending. -/
def opened : List StoreOperation :=
  [.beginScope source (Text.ofString "work") scopeId,
    .createRequest scopeId.text source target (Text.ofString "assign") (Text.ofString "body") []
      requestId messageId deliveryId 0]

end Assignment

/-! ### What happens to one row -/

inductive ScopeStep : ContinuationScope → ContinuationScope → Prop where
  | same (scope : ContinuationScope) : ScopeStep scope scope
  | restricted (scope : ContinuationScope) (state : ScopeState)
      (edge : state ∈ Lifecycle.edges scope.state) :
      ScopeStep scope { scope with state, version := scope.version + 1 }

inductive RequestStep (operation : StoreOperation) : Request → Request → Prop where
  | same (request : Request) : RequestStep operation request request
  | controlled (request : Request) (state : ScopeState) (now : ℤ)
      (edge : state ∈ Lifecycle.edges request.continuation) :
      RequestStep operation request
        { request with
          continuation := state
          controlVersion := request.controlVersion + 1
          updatedAtMs := now }
  | stopped (request : Request) (now : ℤ)
      (edge : ScopeState.revoked ∈ Lifecycle.edges request.continuation)
      (unanswered : request.state = .pending ∨ request.state = .working ∨
        request.state = .waitingInput) :
      RequestStep operation request
        { request with
          state := .cancelled
          version := request.version + 1
          continuation := .revoked
          controlVersion := request.controlVersion + 1
          updatedAtMs := now }
  | cancelled (request : Request) (now : ℤ) (pending : request.state = .pending) :
      RequestStep operation request (request.advance .cancelled now)
  | failed (request : Request) (now : ℤ)
      (edge : RequestState.failed ∈ Lifecycle.edges request.state) :
      RequestStep operation request (request.advance .failed now)
  /-- Only `settle_interrupted` fails a request that has not been started. -/
  | interrupted (request : Request) (limit now : ℤ)
      (recovery : operation = .settleInterrupted limit now)
      (unanswered : request.state = .pending ∨ request.state = .working) :
      RequestStep operation request (request.advance .failed now)

/-- What every other operation may do to a delivery: cancel it or hold it for review. -/
def Fences (before after : DeliveryState) : Prop :=
  before = .pending ∧ after = .cancelled ∨ before = .claimed ∧ after = .review

/-- The steps of a delivery other than the one to `RUNNING`. -/
inductive DeliveryStep (store : CollaborationStore) (operation : StoreOperation) :
    Delivery → Delivery → Prop where
  | same (delivery : Delivery) : DeliveryStep store operation delivery delivery
  | moved (delivery : Delivery) (state : DeliveryState) (turnId reason : Option Text)
      (edge : state ∈ Lifecycle.edges delivery.state) (idle : state ≠ .running)
      (bound : delivery.turnId = none ∨ turnId = delivery.turnId)
      (cause : StoreOperation.concerns delivery.recipient operation = true ∨ Fences delivery.state state) :
      DeliveryStep store operation delivery
        { delivery with state, version := delivery.version + 1, turnId, reason }
  | linked (delivery : Delivery) (turnId : Text) (request : Request) (scope : ContinuationScope)
      (running : delivery.state = .running)
      (requested : request ∈ store.requests ∧ request.id = delivery.requestId)
      (fenced : scope ∈ store.scopes ∧ scope.id = request.scopeId)
      (permitted : permitsExecution request scope delivery.recipient = true)
      (cause : StoreOperation.concerns delivery.recipient operation = true) :
      DeliveryStep store operation delivery
        { delivery with turnId := some turnId, version := delivery.version + 1 }

/-! ### What happens to the tables -/

/-- The number of messages of a request. -/
def messageCount (store : CollaborationStore) (requestId : Text) : ℕ :=
  store.messages.countP fun row => row.requestId = requestId

/-- The deliveries that fill a recipient's mailbox. -/
def occupancy (store : CollaborationStore) (recipient : SessionRef) : ℕ :=
  store.deliveries.countP fun row => row.recipient = recipient ∧ row.state.occupies

/-- A message and its delivery that `append` may add to the tables. -/
structure Appendable (store : CollaborationStore) (request : Request) (sender : SessionRef)
    (kind : MessageKind) (message : Message) (delivery : Delivery) : Prop where
  messageFresh : ∀ row ∈ store.messages, row.id ≠ message.id
  keyFresh : ∀ row ∈ store.messages, row.requestId = message.requestId →
    row.sender = message.sender → row.operationKey ≠ message.operationKey
  deliveryFresh : ∀ row ∈ store.deliveries, row.id ≠ delivery.id
  named : boundedText delivery.id maxIdBytes = .ok ()
  requestId : message.requestId = request.id
  numbered : message.sequence = store.messageCount request.id + 1
  sent : message.sender = sender ∧ message.kind = kind
  room : store.messageCount request.id < if kind = .reply then maxMessages else maxMessages - 1
  carries : delivery.messageId = message.id ∧ delivery.requestId = request.id ∧
    delivery.scopeId = request.scopeId
  addressed : delivery.recipient = if sender = request.source then request.target else request.source
  sequence : delivery.sequence = store.deliverySequence + 1
  unbound : delivery.turnId = none
  outcome : delivery.state = .settled ∧ kind = .progress ∨
    delivery.state = .cancelled ∧ kind ≠ .progress ∨
    delivery.state = .pending ∧ kind ≠ .progress ∧
      store.occupancy delivery.recipient < store.maxPending

/-- The tables with a message and its delivery added. -/
def added (store : CollaborationStore) (message : Message) (delivery : Delivery) :
    CollaborationStore :=
  { store with
    messages := store.messages ++ [message]
    deliveries := store.deliveries ++ [delivery]
    deliverySequence := store.deliverySequence + 1 }

theorem append_ok {store next : CollaborationStore} {request : Request} {sender : SessionRef}
    {kind : MessageKind} {body operationKey anchorTurnId : Text} {messageId deliveryId : FreshId}
    {now : ℤ} {message : Message}
    (appended : store.append request sender kind body operationKey anchorTurnId messageId deliveryId
      now = .ok (next, message)) :
    message.body = body ∧ message.operationKey = operationKey ∧
      message.anchorTurnId = anchorTurnId ∧
      ∃ delivery, store.Appendable request sender kind message delivery ∧
        next = store.added message delivery := by
  unfold append insertMessage insertDelivery at appended
  simp only [bind_eq_ok_iff, raiseIf_eq_ok_iff, pure_eq_ok_iff, Prod.mk.injEq, exists_const]
    at appended
  rcases appended with
    ⟨room, scope, _, mailbox, _, ⟨freshMessage, rfl⟩, _, ⟨freshDelivery, rfl⟩, rfl, rfl⟩
  refine ⟨rfl, rfl, rfl, _, ⟨?_, ?_, ?_, deliveryId.boundedText, rfl, rfl, ⟨rfl, rfl⟩, ?_, ⟨rfl, rfl, rfl⟩, rfl, rfl, rfl,
    ?_⟩, rfl⟩
  · exact fun row present same => freshMessage ⟨row, present, Or.inl same⟩
  · intro row present sameRequest sameSender sameKey
    exact freshMessage ⟨row, present, Or.inr ⟨sameRequest, Or.inr ⟨sameSender, sameKey⟩⟩⟩
  · exact fun row present same => freshDelivery ⟨row, present, Or.inl same⟩
  · simpa [messageCount] using room
  · generalize (if sender = request.source then request.target else request.source) = recipient
      at mailbox
    cases runs : executable request scope kind recipient with
    | true =>
      have shown : kind ≠ .progress := by
        simp only [executable, decide_eq_true_eq] at runs
        exact runs.1
      exact Or.inr (Or.inr ⟨by simp, shown, by simpa [runs, occupancy] using mailbox⟩)
    | false =>
      by_cases progress : kind = .progress
      · exact Or.inl ⟨by simp [progress], progress⟩
      · exact Or.inr (Or.inl ⟨by simp [progress], progress⟩)

/-- Updates in place, row by row. -/
structure Updated (store : CollaborationStore) (operation : StoreOperation)
    (next : CollaborationStore) : Prop where
  maxPending : next.maxPending = store.maxPending
  scopes : List.Forall₂ ScopeStep store.scopes next.scopes
  requests : List.Forall₂ (RequestStep operation) store.requests next.requests
  messages : next.messages = store.messages
  deliveries : List.Forall₂ (DeliveryStep store operation) store.deliveries next.deliveries
  deliverySequence : next.deliverySequence = store.deliverySequence
  owners : OwnersDistinct store.deliveries → OwnersDistinct next.deliveries

/-- Everything a successful operation can do. -/
inductive Applied (store : CollaborationStore) : StoreOperation → CollaborationStore → Prop where
  | updated (operation : StoreOperation) (next : CollaborationStore)
      (updated : store.Updated operation next) : Applied store operation next
  | begun (operation : StoreOperation) (scope : ContinuationScope)
      (fresh : ∀ row ∈ store.scopes, row.id ≠ scope.id)
      (named : boundedText scope.id maxIdBytes = .ok ()) :
      Applied store operation { store with scopes := store.scopes ++ [scope] }
  | created (operation : StoreOperation) (request : Request) (message : Message)
      (delivery : Delivery) (scope : ContinuationScope)
      (inScope : scope ∈ store.scopes ∧ scope.id = request.scopeId ∧
        scope.source = request.source)
      (fresh : ∀ row ∈ store.requests, row.id ≠ request.id)
      (keyFresh : ∀ row ∈ store.requests, row.scopeId = request.scopeId →
        row.operationKey ≠ request.operationKey)
      (apart : request.source ≠ request.target)
      (named : boundedText request.id maxIdBytes = .ok ())
      (valid : validateRef request.source = .ok () ∧ validateRef request.target = .ok ())
      (initial : request.state = .pending)
      (appendable : { store with requests := store.requests ++ [request] }.Appendable request
        request.source .request message delivery) :
      Applied store operation
        ({ store with requests := store.requests ++ [request] }.added message delivery)
  | progressed (operation : StoreOperation) (request : Request) (message : Message)
      (delivery : Delivery) (now : ℤ) (present : request ∈ store.requests)
      (running : request.state = .working ∨ request.state = .waitingInput)
      (appendable : store.Appendable request request.target .progress message delivery) :
      Applied store operation
        ((store.added message delivery).updateRequests (·.id = request.id) fun row =>
          { row with updatedAtMs := now })
  /-- A supplement or a reply first cancels the pending clarifications. -/
  | posted (operation : StoreOperation) (kind : MessageKind) (state : RequestState)
      (deliveries : List Delivery) (request : Request) (message : Message) (delivery : Delivery)
      (now : ℤ) (present : request ∈ store.requests) (leads : nextState kind = some state)
      (edge : state ∈ Lifecycle.edges request.state)
      (cancelled : List.Forall₂ (DeliveryStep store operation) store.deliveries deliveries)
      (owners : OwnersDistinct store.deliveries → OwnersDistinct deliveries)
      (appendable : { store with deliveries }.Appendable request
        (if kind = MessageKind.supplement then request.source else request.target) kind message
        delivery) :
      Applied store operation
        (({ store with deliveries }.added message delivery).updateRequests (·.id = request.id)
          (·.advance state now))
  | started (operation : StoreOperation) (delivery : Delivery) (request : Request)
      (scope : ContinuationScope) (message : Message) (turnId : Text) (reason : Option Text)
      (now : ℤ) (cause : StoreOperation.concerns delivery.recipient operation = true) (present : delivery ∈ store.deliveries)
      (claimed : delivery.state = .claimed)
      (requested : request ∈ store.requests ∧ request.id = delivery.requestId)
      (fenced : scope ∈ store.scopes ∧ scope.id = delivery.scopeId)
      (permitted : permitsExecution request scope delivery.recipient = true)
      (carried : message ∈ store.messages ∧ message.id = delivery.messageId)
      (fits : allowed request delivery.recipient message.kind = some true)
      (owners : OwnersDistinct (Table.update (·.id = delivery.id)
        (·.start (some turnId) reason) store.deliveries)) :
      Applied store operation
        { store with
          requests :=
            if delivery.recipient = request.target ∧ request.state = .pending then
              Table.update (·.id = request.id) (·.advance .working now) store.requests
            else store.requests
          deliveries := Table.update (·.id = delivery.id) (·.start (some turnId) reason)
            store.deliveries }

end CollaborationStore

end Synapse.Collaboration
