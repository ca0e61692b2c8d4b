import Synapse.Collaboration.Operations

/-!
# The worker of a recipient

`CollaborationRuntime` runs one worker for each recipient with work. The worker
claims a delivery, starts it through an executor, links the turn to the delivery
and records how it settled. Each transaction on the store is one step, and so is
each return of the executor; between two steps of the worker the participants of
the requests may take any number of theirs.
-/

namespace Synapse.Collaboration

/-- How `executor.start` ends. -/
inductive StartOutcome where
  | token (turnId : Text)
  /-- `SessionBusyError`. -/
  | busy
  /-- `TargetUnavailableError`. -/
  | unavailable
  /-- Any other error. -/
  | failed
  deriving DecidableEq, Repr

/-- What the worker does next. -/
inductive Phase where
  /-- It holds no delivery; a worker that has ended, too. -/
  | free
  /-- `_deliver` is about to read `execution_context`. -/
  | deliver (delivery : Delivery)
  | start (delivery : Delivery) (request : Request)
  | link (delivery : Delivery) (request : Request) (turnId : Text)
  | settle (running : Delivery) (request : Request)
  /-- `running = self._store.get_delivery(running.id, recipient)`. -/
  | reread (running : Delivery) (request : Request) (reason : Option Text)
  | finish (running : Delivery) (request : Request) (reason : Option Text)
  | failRequest (running : Delivery) (latest : Request) (reason : Option Text)
  | close (running : Delivery) (reason : Option Text)
  | abandon (delivery : Delivery) (reason : Text)
  | abandonClaim (current : Delivery) (reason : Text)
  | holdForReview (delivery : Delivery) (reason : Text)
  | resolve (delivery : Delivery) (reason : Text)
  | resolveUncertain (delivery current : Delivery) (reason : Text)
  /-- `_deliver` has returned `DONE`. -/
  | done (delivery : Delivery)
  deriving DecidableEq, Repr

/-- After `except CollaborationError` the worker goes on; another error ends it. -/
def CollaborationError.caught (error : CollaborationError) (phase : Phase) : Phase :=
  if error.isDomain then phase else .free

/-- The store and the worker of one recipient. -/
structure CollaborationRuntime where
  store : CollaborationStore
  phase : Phase
  deriving DecidableEq, Repr

/-- What a step of a run is. -/
inductive RuntimeStep where
  /-- The worker's next transaction. -/
  | work (now : ℤ)
  | started (outcome : StartOutcome)
  /-- The executor links the turn that resumes an interrupted one. -/
  | resumed (turnId : Text)
  | settled (reason : Option Text)
  /-- The worker is cancelled, or an error that it does not catch ends it. -/
  | ended
  | participant (operation : StoreOperation)

namespace CollaborationRuntime

/-- The gate before the start. -/
def mayStart (request : Request) (scope : ContinuationScope) (recipient : SessionRef)
    (message : Message) : Bool :=
  if request.continuation = .revoked ∨ scope.state = .revoked then false
  else if recipient = request.source then
    if scope.state ≠ .active ∨ request.continuation ≠ .active then false
    else if message.kind = .reply then request.state = .replied
    else request.state = .waitingInput
  else request.state = .pending ∨ request.state = .working

/-- `reason or 'no_result'`. -/
def orNoResult (reason : Option Text) : Option Text :=
  if reason = none ∨ reason = some [] then some (Text.ofString "no_result") else reason

/-- `with contextlib.suppress(CollaborationError)` around one write. -/
def suppress {Value : Type} (store : CollaborationStore)
    (outcome : Fallible (CollaborationStore × Value)) (phase : Phase) : CollaborationRuntime :=
  match outcome with
  | .ok (next, _) => ⟨next, phase⟩
  | .error error => ⟨store, error.caught phase⟩

def claim (store : CollaborationStore) (recipient : SessionRef) : CollaborationRuntime :=
  match store.claimNext recipient with
  | .ok (next, some delivery) => ⟨next, .deliver delivery⟩
  | .ok (next, none) => ⟨next, .free⟩
  | .error _ => ⟨store, .free⟩

def deliver (store : CollaborationStore) (recipient : SessionRef) (delivery : Delivery) :
    CollaborationRuntime :=
  match store.executionContext delivery.id with
  | .ok (request, scope, message) =>
    if mayStart request scope recipient message then ⟨store, .start delivery request⟩
    else ⟨store, .abandon delivery (Text.ofString "scope_disabled")⟩
  | .error error => ⟨store, error.caught (.done delivery)⟩

/-- The compare-and-swap after the start. If it is lost, the turn is cancelled. -/
def link (store : CollaborationStore) (recipient : SessionRef) (delivery : Delivery)
    (request : Request) (turnId : Text) (now : ℤ) : CollaborationRuntime :=
  match store.transitionDelivery delivery.id recipient .running delivery.version (some turnId) none
      now with
  | .ok (next, some running) => ⟨next, .settle running request⟩
  | .ok (next, none) => ⟨next, .free⟩
  | .error error => ⟨store, error.caught (.resolve delivery (Text.ofString "stopped"))⟩

def reread (store : CollaborationStore) (recipient : SessionRef) (running : Delivery)
    (request : Request) (reason : Option Text) : CollaborationRuntime :=
  match store.getDelivery running.id recipient with
  | .ok current => ⟨store, .finish current request reason⟩
  | .error _ => ⟨store, .free⟩

/-- A target that has not answered fails the request. -/
def finish (store : CollaborationStore) (recipient : SessionRef) (running : Delivery)
    (request : Request) (reason : Option Text) : CollaborationRuntime :=
  if recipient = request.target then
    match store.readRequest request.id recipient with
    | .ok latest =>
      if latest.state = .pending ∨ latest.state = .working then
        ⟨store, .failRequest running latest (orNoResult reason)⟩
      else ⟨store, .close running reason⟩
    | .error error => ⟨store, error.caught (.close running reason)⟩
  else ⟨store, .close running reason⟩

def abandon (store : CollaborationStore) (delivery : Delivery) (reason : Text) :
    CollaborationRuntime :=
  match store.getDelivery delivery.id delivery.recipient with
  | .ok current =>
    if current.state = .review then ⟨store, .resolve current reason⟩
    else ⟨store, .abandonClaim current reason⟩
  | .error _ => ⟨store, .free⟩

def resolve (store : CollaborationStore) (delivery : Delivery) (reason : Text) :
    CollaborationRuntime :=
  match store.getDelivery delivery.id delivery.recipient with
  | .ok current => ⟨store, .resolveUncertain delivery current reason⟩
  | .error error => ⟨store, error.caught (.done delivery)⟩

/-- The worker's next transaction; there is none while it waits for the executor. -/
def work (recipient : SessionRef) (now : ℤ) (store : CollaborationStore) :
    Phase → Option CollaborationRuntime
  | .free => claim store recipient
  | .deliver delivery => deliver store recipient delivery
  | .start _ _ | .settle _ _ => none
  | .link delivery request turnId => link store recipient delivery request turnId now
  | .reread running request reason => reread store recipient running request reason
  | .finish running request reason => finish store recipient running request reason
  | .failRequest running latest reason =>
    suppress store (store.failRequest latest.id recipient latest.version now)
      (.close running reason)
  | .close running reason =>
    suppress store (store.transitionDelivery running.id recipient .settled running.version
      running.turnId reason now) (.done running)
  | .abandon delivery reason => abandon store delivery reason
  | .abandonClaim current reason =>
    suppress store (store.abandonClaim current.id current.recipient current.version reason now)
      (.done current)
  | .holdForReview delivery reason =>
    suppress store (store.transitionDelivery delivery.id delivery.recipient .review
      delivery.version none (some reason) now) (.done delivery)
  | .resolve delivery reason => resolve store delivery reason
  | .resolveUncertain delivery current reason =>
    suppress store (store.resolveUncertain current.id delivery.recipient current.version reason
      now) (.done delivery)
  | .done _ => some ⟨store, .free⟩

/-- After a busy start the claim is kept and the delivery is tried again. -/
def begun (delivery : Delivery) (request : Request) : StartOutcome → Phase
  | .token turnId => .link delivery request turnId
  | .busy => .deliver delivery
  | .unavailable => .holdForReview delivery (Text.ofString "target_unavailable")
  | .failed => .holdForReview delivery (Text.ofString "start_failed")

def step (recipient : SessionRef) (runtime : CollaborationRuntime) :
    RuntimeStep → Option CollaborationRuntime
  | .work now => work recipient now runtime.store runtime.phase
  | .started outcome =>
    match runtime.phase with
    | .start delivery request => some { runtime with phase := begun delivery request outcome }
    | _ => none
  | .resumed turnId =>
    match runtime.phase with
    | .settle running _ =>
      (CollaborationStore.machine.step runtime.store
        (.linkResumedTurn running.id recipient turnId)).map
        fun next => { runtime with store := next }
    | _ => none
  | .settled reason =>
    match runtime.phase with
    | .settle running request => some { runtime with phase := .reread running request reason }
    | _ => none
  | .ended => some { runtime with phase := .free }
  | .participant operation =>
    if operation.concerns recipient then none
    else (CollaborationStore.machine.step runtime.store operation).map
      fun next => { runtime with store := next }

/-- A worker for the recipient among any steps of the participants. -/
def machine (recipient : SessionRef) : Machine CollaborationRuntime RuntimeStep where
  step := step recipient

end CollaborationRuntime

end Synapse.Collaboration
