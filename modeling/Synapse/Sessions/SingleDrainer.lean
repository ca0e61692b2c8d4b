import Synapse.Sessions.Dispatch

/-!
# One drainer at a time

The broker's `_dispatching` flag makes at most one thread run `_dispatch`, and
tells the other threads how far it is. The flag is only given up with an empty
queue, or on the way out of a process-level exit. Two branches of the code break
the account and are excluded by guards: a close that leaves work to a drainer
that is on its way out, and an `on_close` callback that raises an exit itself.
-/

namespace Synapse

namespace DrainerState

variable {Payload : Type}

/-- Whether the drainer is on its way out of a process-level exit. -/
def isEscaping : DrainerState Payload → Bool
  | .escaping _ => true
  | _ => false

/-- Whether the drainer runs an `on_close` callback. -/
def inOnClose : DrainerState Payload → Bool
  | .onClose _ _ => true
  | _ => false

end DrainerState

namespace DispatchWorld

variable {Payload : Type}

/-- A closed broker has nothing left to deliver or to notify. -/
def NothingStranded (broker : SessionEventBroker Payload) : Prop :=
  broker.delivery = [] ∧
    (broker.closeNotified = false → ∀ record ∈ broker.pendingClose, record.onClose = false)

/-- What a drainer in a given state means for the broker's flags. -/
def Holds (broker : SessionEventBroker Payload) : DrainerState Payload → Prop
  | .notify _ | .onClose _ _ =>
    broker.dispatching = false ∧ broker.closed = true ∧ broker.closeNotified = true ∧
      broker.delivery = []
  | .escaping _ =>
    broker.dispatching = true ∧ broker.closeNotified = false ∧
      (broker.closed = true → NothingStranded broker)
  | _ => broker.dispatching = true ∧ broker.closeNotified = false

/-- At most one invocation of `_dispatch` is in progress, the flags say which
kind, and a closed broker without one has no close work left. -/
def SingleDrainer (world : DispatchWorld Payload) : Prop :=
  match world.active with
  | [] => world.broker.dispatching = false ∧
      (world.broker.closeNotified = true → world.broker.closed = true) ∧
      (world.broker.closed = true → NothingStranded world.broker)
  | [(_, drainer)] => Holds world.broker drainer.state
  | _ => False

/-- The broker closes and leaves deliveries or notifications to a drainer that
has read `_closed` as false and is on its way out. -/
def closeMeetsEscape (world : DispatchWorld Payload) : DispatchLabel Payload → Bool
  | .call _ .close =>
    !world.broker.closed &&
      (!world.broker.delivery.isEmpty || world.broker.subscribers.any (·.onClose)) &&
      world.active.any fun frame => frame.2.state.isEscaping
  | _ => false

/-- An `on_close` callback raises a process-level exit. -/
def onCloseExits (world : DispatchWorld Payload) : DispatchLabel Payload → Bool
  | .finish thread (some raised) =>
    raised.isProcessExit && (world.top thread).any fun drainer => drainer.state.inOnClose
  | _ => false

namespace SingleDrainer

variable {world : DispatchWorld Payload}

theorem length_le (single : world.SingleDrainer) : world.active.length ≤ 1 := by
  unfold SingleDrainer at single
  split at single <;> simp_all

theorem cases (single : world.SingleDrainer) :
    world.active = [] ∨ ∃ thread drainer, world.active = [(thread, drainer)] := by
  rcases active : world.active with _ | ⟨⟨thread, drainer⟩, _ | ⟨_, _⟩⟩
  · exact Or.inl rfl
  · exact Or.inr ⟨thread, drainer, rfl⟩
  · simp [SingleDrainer, active] at single

/-- Who drains must have the flag, or be notifying after the close. -/
theorem busy_or_closed (single : world.SingleDrainer)
    (idle : world.broker.dispatching = false) (opened : world.broker.closed = false) :
    world.active = [] := by
  rcases single.cases with empty | ⟨thread, drainer, active⟩
  · exact empty
  · simp only [SingleDrainer, active] at single
    cases state : drainer.state <;> simp [state, Holds, idle, opened] at single

theorem called {world next : DispatchWorld Payload} {thread : ℕ}
    {method : BrokerSection Payload} (single : world.SingleDrainer)
    (avoids : world.closeMeetsEscape (.call thread method) = false)
    (called : Called world thread method next) : next.SingleDrainer := by
  rcases single.cases with active | ⟨owner, drainer, active⟩
  · -- Nobody drains: whoever queues something becomes the drainer.
    simp only [SingleDrainer, active] at single
    rcases single with ⟨idle, notifiedClosed, settled⟩
    cases called with
    | ignored => simpa [SingleDrainer, active, idle] using ⟨notifiedClosed, settled⟩
    | accepted event events droppedThrough latestTurnId latestTurnStart opened =>
      cases subscribers : world.broker.subscribers <;>
        simp_all [SingleDrainer, enter, Holds, NothingStranded]
    | registered _ onClose cursor window forwarded opened gapless =>
      cases forwarded <;> simp_all [SingleDrainer, enter, Holds]
    | unsubscribed id known live => simp_all [SingleDrainer, NothingStranded]
    | closed opened => simp_all [SingleDrainer, enter, Holds]
  · -- Somebody drains: an open broker has its flag set, so nobody else claims it.
    have held : Holds world.broker drainer.state := by simpa [SingleDrainer, active] using single
    have flagged : world.broker.closed = false → world.broker.dispatching = true := by
      intro opened
      cases dispatching : world.broker.dispatching with
      | true => rfl
      | false => simp [single.busy_or_closed dispatching opened] at active
    cases called with
    | ignored => exact single
    | accepted event events droppedThrough latestTurnId latestTurnStart opened =>
      have dispatching := flagged opened
      cases state : drainer.state <;>
        simp_all [SingleDrainer, enter, Holds]
    | registered _ onClose cursor window forwarded opened gapless =>
      have dispatching := flagged opened
      cases state : drainer.state <;>
        simp_all [SingleDrainer, enter, Holds]
    | unsubscribed id known live =>
      cases state : drainer.state <;> simp_all [SingleDrainer, Holds, NothingStranded]
    | closed opened =>
      have dispatching := flagged opened
      cases state : drainer.state with
      | escaping raised =>
        -- Nothing is left to the drainer on its way out.
        have nothing : world.broker.delivery = [] ∧
            ∀ record ∈ world.broker.subscribers, record.onClose = false := by
          simpa [closeMeetsEscape, opened, active, state, DrainerState.isEscaping] using avoids
        simp_all [SingleDrainer, enter, Holds, NothingStranded]
      | _ => simp_all [SingleDrainer, enter, Holds]

variable {label : DispatchLabel Payload}

theorem moved {next : DispatchWorld Payload} {thread : ℕ} {drainer : Drainer Payload}
    (single : world.SingleDrainer) (active : world.active = [(thread, drainer)])
    (avoids : world.onCloseExits label = false)
    (moved : Moved world thread drainer.state label next) : next.SingleDrainer := by
  have held : Holds world.broker drainer.state := by simpa [SingleDrainer, active] using single
  generalize state : drainer.state = current at held moved
  cases moved with
  | closeExited record rest raised first exits =>
    simp [onCloseExits, exits, top, active, state, DrainerState.inOnClose] at avoids
  | released drained nothing => simp_all [SingleDrainer, Holds]
  | notifiedAll => simp_all [SingleDrainer, Holds, NothingStranded]
  | restored raised => simp_all [SingleDrainer, Holds, NothingStranded]
  | _ => simp_all [SingleDrainer, Holds, resume]

/-- One drainer at a time, for every step off the two excluded branches. -/
theorem step {next : DispatchWorld Payload} (single : world.SingleDrainer)
    (avoids : world.closeMeetsEscape label = false ∧ world.onCloseExits label = false)
    (stepped : world.step label = some next) : next.SingleDrainer := by
  rcases step_cases single.length_le stepped with
    ⟨thread, method, rfl, called⟩ | ⟨thread, drainer, active, moved⟩
  · exact single.called avoids.1 called
  · exact single.moved active avoids.2 moved

theorem new (threadId : Text) (maxEvents : ℤ) (hardCap : Option ℤ) (epoch : Text) :
    (DispatchWorld.new threadId maxEvents hardCap epoch :
      DispatchWorld Payload).SingleDrainer := by
  simp [SingleDrainer, DispatchWorld.new, SessionEventBroker.new]

end SingleDrainer

end DispatchWorld

end Synapse
