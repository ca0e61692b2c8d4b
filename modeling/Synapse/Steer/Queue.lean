import Synapse.Foundation.Machine
import Synapse.Python.Text

/-!
# The steering queue

Guidance is queued while the agent works. Each change of the queue leaves a notification with a copy of its
items, and one thread at a time delivers the notifications to the listeners, outside the lock of the queue.
A listener that calls the queue itself takes its steps as one more thread.
-/

namespace Synapse.Steer

universe u v

variable {Listener : Type u} {Thread : Type v}

structure Notification (Listener : Type u) where
  snapshot : List Text
  listeners : List Listener
  /-- Whether it was queued without claiming the delivery. No method reads it. -/
  silent : Bool
  deriving DecidableEq

/-- `SteerQueue` -/
structure SteerQueue (Listener : Type u) where
  items : List Text
  listeners : List Listener
  pendingNotifications : List (Notification Listener)
  notifying : Bool
  distinct : listeners.Nodup

namespace SteerQueue

/-- `SteerQueue.__init__` -/
def new : SteerQueue Listener := ⟨[], [], [], false, List.nodup_nil⟩

section

variable [DecidableEq Listener]

/-- `callback in self._listeners` compares with `is` and with `==`, which is `equal`. -/
def addListener (equal : Listener → Listener → Bool) (callback : Listener) (queue : SteerQueue Listener) :
    SteerQueue Listener :=
  if there : callback ∈ queue.listeners ∨ queue.listeners.any (equal callback) then queue
  else { queue with
    listeners := queue.listeners ++ [callback]
    distinct := List.nodup_append.2 ⟨queue.distinct, List.nodup_singleton callback, fun _ mem _ other same =>
      there (Or.inl (List.mem_singleton.1 other ▸ same ▸ mem))⟩ }

def removeListener (callback : Listener) (queue : SteerQueue Listener) : SteerQueue Listener :=
  { queue with
    listeners := queue.listeners.filter fun other => other ≠ callback
    distinct := queue.distinct.filter _ }

end

/-- `_queue_notification_unlocked` -/
def queueNotification (silent : Bool) (queue : SteerQueue Listener) : SteerQueue Listener :=
  { queue with pendingNotifications :=
      queue.pendingNotifications ++ [⟨queue.items, queue.listeners, silent⟩] }

/-- `_enqueue_notification_unlocked`: whether the caller has to deliver. -/
def enqueueNotification (queue : SteerQueue Listener) : SteerQueue Listener × Bool :=
  if queue.notifying then (queue.queueNotification false, false)
  else ({ queue.queueNotification false with notifying := true }, true)

def pushSilent (text : Option Text) (queue : SteerQueue Listener) : SteerQueue Listener × ℕ :=
  let body := (text.getD []).strip
  if body = [] then (queue, 0)
  else (queueNotification true { queue with items := queue.items ++ [body] }, queue.items.length + 1)

/-- The locked part of `drain`: the items, and whether the caller has to deliver. -/
def drain (queue : SteerQueue Listener) : SteerQueue Listener × List Text × Bool :=
  if queue.items = [] then (queue, [], false)
  else
    let (queued, dispatch) := enqueueNotification { queue with items := [] }
    (queued, queue.items, dispatch)

/-- The locked part of `remove_at` -/
def removeAt (index : ℤ) (queue : SteerQueue Listener) : SteerQueue Listener × Option Text × Bool :=
  if index < 0 ∨ (queue.items.length : ℤ) ≤ index then (queue, none, false)
  else
    let (queued, dispatch) := enqueueNotification { queue with items := queue.items.eraseIdx index.toNat }
    (queued, queue.items[index.toNat]?, dispatch)

/-- The locked part of `clear` -/
def clear (queue : SteerQueue Listener) : SteerQueue Listener × List Text × Bool :=
  if queue.items = [] then (queue, [], false)
  else
    let (queued, dispatch) := enqueueNotification { queue with items := [] }
    (queued, queue.items, dispatch)

def clearSilent (queue : SteerQueue Listener) : SteerQueue Listener × List Text :=
  if queue.items = [] then (queue, [])
  else (queueNotification true { queue with items := [] }, queue.items)

/-- The locked part of `dispatch_pending`: whether the caller has to deliver. -/
def dispatchPending (queue : SteerQueue Listener) : SteerQueue Listener × Bool :=
  if queue.pendingNotifications = [] ∨ queue.notifying = true then (queue, false)
  else ({ queue with notifying := true }, true)

/-- The locked part of `_dispatch_notifications`: the next notification, or the end of the delivery. -/
def nextNotification (queue : SteerQueue Listener) : SteerQueue Listener × Option (Notification Listener) :=
  match queue.pendingNotifications with
  | [] => ({ queue with notifying := false }, none)
  | notification :: rest => ({ queue with pendingNotifications := rest }, some notification)

end SteerQueue

/-- Where a thread is. -/
inductive Phase (Listener : Type u) where
  | idle
  /-- In `push`, before `dispatch_pending` -/
  | pushed
  /-- In `_dispatch_notifications`, before the lock is taken -/
  | dispatching
  /-- In `_dispatch_notifications`, before the calls of these listeners -/
  | delivering (snapshot : List Text) (listeners : List Listener)
  deriving DecidableEq

/-- The threads in `_dispatch_notifications` -/
def Phase.dispatches : Phase Listener → Bool
  | .idle | .pushed => false
  | .dispatching | .delivering _ _ => true

inductive Call (Listener : Type u) where
  | addListener (callback : Listener)
  | removeListener (callback : Listener)
  | push (text : Option Text)
  | pushSilent (text : Option Text)
  | drain
  | clear
  | clearSilent
  | removeAt (index : ℤ)
  | dispatchPending

/-- A thread that has to deliver goes on to the delivery. -/
def Phase.after : Bool → Phase Listener
  | true => .dispatching
  | false => .idle

/-- The first locked part of a call, and where the thread is after it. -/
def Call.enter [DecidableEq Listener] (equal : Listener → Listener → Bool) (queue : SteerQueue Listener) :
    Call Listener → SteerQueue Listener × Phase Listener
  | .addListener callback => (queue.addListener equal callback, .idle)
  | .removeListener callback => (queue.removeListener callback, .idle)
  | .push text => ((queue.pushSilent text).1, .pushed)
  | .pushSilent text => ((queue.pushSilent text).1, .idle)
  | .drain => (queue.drain.1, .after queue.drain.2.2)
  | .clear => (queue.clear.1, .after queue.clear.2.2)
  | .clearSilent => (queue.clearSilent.1, .idle)
  | .removeAt index => ((queue.removeAt index).1, .after (queue.removeAt index).2.2)
  | .dispatchPending => (queue.dispatchPending.1, .after queue.dispatchPending.2)

/-- A queue, the threads that use it, and what its listeners have received. -/
structure System (Listener : Type u) (Thread : Type v) where
  queue : SteerQueue Listener
  threads : Thread → Phase Listener
  received : Listener → List (List Text)

inductive Label (Listener : Type u) (Thread : Type v) where
  /-- A thread begins a call. -/
  | call (thread : Thread) (call : Call Listener)
  /-- A thread goes on. -/
  | goOn (thread : Thread)

namespace System

variable [DecidableEq Listener] [DecidableEq Thread]

/-- The next step of a thread in a call -/
def goOn (system : System Listener Thread) (thread : Thread) : Option (System Listener Thread) :=
  match system.threads thread with
  | .idle => none
  | .pushed => some { system with
      queue := system.queue.dispatchPending.1
      threads := Function.update system.threads thread (.after system.queue.dispatchPending.2) }
  | .dispatching => some { system with
      queue := system.queue.nextNotification.1
      threads := Function.update system.threads thread <| match system.queue.nextNotification.2 with
        | none => .idle
        | some notification => .delivering notification.snapshot notification.listeners }
  | .delivering _ [] => some { system with threads := Function.update system.threads thread .dispatching }
  -- an exception of a listener is dropped
  | .delivering snapshot (callback :: rest) => some { system with
      threads := Function.update system.threads thread (.delivering snapshot rest)
      received := Function.update system.received callback (system.received callback ++ [snapshot]) }

def step (equal : Listener → Listener → Bool) (system : System Listener Thread) :
    Label Listener Thread → Option (System Listener Thread)
  | .call thread call =>
    match system.threads thread with
    | .idle => some { system with
        queue := (call.enter equal system.queue).1
        threads := Function.update system.threads thread (call.enter equal system.queue).2 }
    | _ => none
  | .goOn thread => system.goOn thread

def machine (equal : Listener → Listener → Bool) : Machine (System Listener Thread) (Label Listener Thread) :=
  ⟨step equal⟩

/-- The items after each step of a run that changed them. -/
def mutations (equal : Listener → Listener → Bool) :
    System Listener Thread → List (Label Listener Thread) → List (List Text)
  | _, [] => []
  | system, label :: labels =>
    match step equal system label with
    | none => []
    | some next =>
      if next.queue.items = system.queue.items then mutations equal next labels
      else next.queue.items :: mutations equal next labels

end System

end Synapse.Steer
