import Synapse.Ptc.Scheduler

/-!
# Dispatching child calls

Model of `PtcBridge.dispatch` with `_invoke_tool` and `_invoke_offloaded`, and of the daemon
pool that runs the blocking handlers. A call that passes the checks of `dispatch` takes one
ticket, so the call and its ticket carry the same number. The pool is shared with other
bridges: of its queue the items of this bridge are kept, and whether it is full is part of a
label.
-/

namespace Synapse.Ptc

inductive FutureState where
  | pending
  | running
  | finished
  | cancelled
  deriving DecidableEq, Repr

/-- What has become of the completion callback of `_invoke_offloaded`. -/
inductive Callback where
  | absent
  | registered
  /-- The future is done, and the callback is about to run. -/
  | due
  | ran
  deriving DecidableEq, Repr

/-- The future of a handler that was given to the daemon pool. -/
structure Future where
  state : FutureState
  callback : Callback
  deriving DecidableEq, Repr

/-- How far a call of `dispatch` has come. -/
inductive Phase where
  /-- It waits in `acquire`. -/
  | acquiring
  /-- The start of `_invoke_tool`, up to the choice of the path. -/
  | building
  /-- The handler runs on the loop of the call. -/
  | handling
  /-- The handler has returned, and `finally` is about to release the ticket. -/
  | returning
  | submitting
  /-- The queue of the pool was full, and the ticket is about to be released. -/
  | refused
  /-- `submit` has returned, and the callback is not registered. -/
  | submitted
  /-- It waits for the handler, shielded. -/
  | awaiting
  | ended
  /-- An exception has left `_invoke_tool` before the ticket was handed over. -/
  | failed
  deriving DecidableEq, Repr

structure Call where
  /-- `ctx.offload` or a tool whose work runs on a thread. -/
  offload : Bool
  phase : Phase
  future : Option Future
  deriving DecidableEq, Repr

structure PtcBridge where
  scheduler : FairReadWriteScheduler
  calls : List Call
  work : List ℕ
  /-- The items that a worker has taken off the queue and not yet started. -/
  taken : List ℕ

inductive BridgeLabel where
  | dispatch (kind : Kind) (loop : LoopId) (offload : Bool)
  | prune
  | grant
  | close (loop : LoopId)
  /-- `acquire` returns. -/
  | granted (call : ℕ)
  /-- The call is cancelled while it waits. -/
  | cancel (call : ℕ)
  | build (call : ℕ)
  | buildFails (call : ℕ)
  | handlerReturns (call : ℕ)
  | release (call : ℕ)
  | submit (call : ℕ)
  | queueFull (call : ℕ)
  /-- `submit` raises something else, before or after it has queued the item. -/
  | submitFails (call : ℕ) (queued : Bool)
  | addDoneCallback (call : ℕ)
  | take
  | start (call : ℕ)
  | finish (call : ℕ)
  | finished (call : ℕ)
  | deliver (call : ℕ)
  deriving DecidableEq, Repr

/-- The future is done, and `_invoke_callbacks` follows. -/
def Future.settle (future : Future) (state : FutureState) : Future where
  state := state
  callback := if future.callback = .registered then .due else future.callback

/-- `Future.cancel`, which does nothing once the handler runs. -/
def Future.cancel (future : Future) : Future :=
  if future.state = .pending then future.settle .cancelled else future

/-- `Future.add_done_callback`, which runs the callback at once on a future that is done. -/
def Future.addDoneCallback (future : Future) : Future where
  state := future.state
  callback :=
    match future.state with
    | .pending | .running => .registered
    | .finished | .cancelled => .due

namespace PtcBridge

def init (maxParallel : ℤ) : PtcBridge where
  scheduler := .init maxParallel
  calls := []
  work := []
  taken := []

def put (bridge : PtcBridge) (number : ℕ) (call : Call) : PtcBridge :=
  { bridge with calls := bridge.calls.set number call }

def enter (bridge : PtcBridge) (call : Call) : PtcBridge :=
  { bridge with calls := bridge.calls ++ [call] }

/-- A step of the scheduler. -/
def schedule (bridge : PtcBridge) (label : SchedulerLabel) : Option PtcBridge :=
  (bridge.scheduler.step label).map fun scheduler => { bridge with scheduler := scheduler }

/-- The call goes on from one phase to another. -/
def advance (bridge : PtcBridge) (number : ℕ) (before after : Phase) : Option PtcBridge :=
  bridge.calls[number]?.bind fun call =>
    if call.phase = before then some (bridge.put number { call with phase := after }) else none

/-- `acquire` returns once the scheduler has granted the ticket. -/
def granted (bridge : PtcBridge) (number : ℕ) : Option PtcBridge :=
  if bridge.scheduler.tickets[number]?.any (·.granted) then
    bridge.advance number .acquiring .building
  else none

def cancel (bridge : PtcBridge) (number : ℕ) : Option PtcBridge :=
  bridge.calls[number]?.bind fun call =>
    match call.phase with
    | .acquiring => (bridge.put number { call with phase := .ended }).schedule (.abandon number)
    | .awaiting =>
      some (bridge.put number { call with phase := .ended, future := call.future.map (·.cancel) })
    | _ => none

def build (bridge : PtcBridge) (number : ℕ) : Option PtcBridge :=
  bridge.calls[number]?.bind fun call =>
    bridge.advance number .building (if call.offload then .submitting else .handling)

/-- `release_nowait` at the end of the async path, or after a full queue. -/
def release (bridge : PtcBridge) (number : ℕ) : Option PtcBridge :=
  bridge.calls[number]?.bind fun call =>
    if call.phase = .returning ∨ call.phase = .refused then
      (bridge.put number { call with phase := .ended }).schedule (.releaseNowait number)
    else none

/-- `_drop_cancelled_locked`. -/
def dropCancelled (bridge : PtcBridge) : PtcBridge :=
  { bridge with
    work := bridge.work.filter fun number =>
      !(bridge.calls[number]?.bind (·.future)).any (·.state = .cancelled) }

def enqueue (bridge : PtcBridge) (number : ℕ) : PtcBridge :=
  { bridge with work := bridge.work ++ [number] }

def submit (bridge : PtcBridge) (number : ℕ) : Option PtcBridge :=
  bridge.calls[number]?.bind fun call =>
    if call.phase = .submitting then
      some ((bridge.dropCancelled.enqueue number).put number
        { call with phase := .submitted, future := some ⟨.pending, .absent⟩ })
    else none

def submitFails (bridge : PtcBridge) (number : ℕ) (queued : Bool) : Option PtcBridge :=
  bridge.calls[number]?.bind fun call =>
    if call.phase = .submitting then
      if queued then
        some ((bridge.dropCancelled.enqueue number).put number
          { call with phase := .failed, future := some ⟨.pending, .absent⟩ })
      else some (bridge.put number { call with phase := .failed })
    else none

def addDoneCallback (bridge : PtcBridge) (number : ℕ) : Option PtcBridge :=
  bridge.calls[number]?.bind fun call =>
    if call.phase = .submitted then
      some (bridge.put number
        { call with phase := .awaiting, future := call.future.map (·.addDoneCallback) })
    else none

/-- A worker takes the next item off the queue. -/
def take (bridge : PtcBridge) : Option PtcBridge :=
  match bridge.work with
  | [] => none
  | number :: rest => some { bridge with work := rest, taken := number :: bridge.taken }

/-- `set_running_or_notify_cancel`. -/
def start (bridge : PtcBridge) (number : ℕ) : Option PtcBridge :=
  if number ∈ bridge.taken then
    bridge.calls[number]?.bind fun call =>
      call.future.map fun future =>
        { bridge.put number
            (if future.state = .pending then
              { call with future := some { future with state := .running } }
            else call) with
          taken := bridge.taken.erase number }
  else none

/-- The handler returns or raises on its worker. -/
def finish (bridge : PtcBridge) (number : ℕ) : Option PtcBridge :=
  bridge.calls[number]?.bind fun call =>
    call.future.bind fun future =>
      if future.state = .running then
        some (bridge.put number { call with future := some (future.settle .finished) })
      else none

/-- The completion callback releases the ticket. -/
def finished (bridge : PtcBridge) (number : ℕ) : Option PtcBridge :=
  bridge.calls[number]?.bind fun call =>
    call.future.bind fun future =>
      if future.callback = .due then
        (bridge.put number { call with future := some { future with callback := .ran } }).schedule
          (.releaseNowait number)
      else none

/-- The outcome of the handler reaches the call. -/
def deliver (bridge : PtcBridge) (number : ℕ) : Option PtcBridge :=
  bridge.calls[number]?.bind fun call =>
    if call.future.any (·.callback = .ran) then bridge.advance number .awaiting .ended else none

def step (bridge : PtcBridge) : BridgeLabel → Option PtcBridge
  | .dispatch kind loop offload =>
    (bridge.enter ⟨offload, .acquiring, none⟩).schedule (.acquire kind loop)
  | .prune => bridge.schedule .prune
  | .grant => bridge.schedule .grant
  | .close loop => bridge.schedule (.close loop)
  | .granted number => bridge.granted number
  | .cancel number => bridge.cancel number
  | .build number => bridge.build number
  | .buildFails number => bridge.advance number .building .failed
  | .handlerReturns number => bridge.advance number .handling .returning
  | .release number => bridge.release number
  | .submit number => bridge.submit number
  | .queueFull number => bridge.dropCancelled.advance number .submitting .refused
  | .submitFails number queued => bridge.submitFails number queued
  | .addDoneCallback number => bridge.addDoneCallback number
  | .take => bridge.take
  | .start number => bridge.start number
  | .finish number => bridge.finish number
  | .finished number => bridge.finished number
  | .deliver number => bridge.deliver number

def machine : Machine PtcBridge BridgeLabel where
  step := step

end PtcBridge

end Synapse.Ptc
