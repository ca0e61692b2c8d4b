import Synapse.Foundation.FanOut
import Synapse.Sessions.CloseWork

/-!
# Ordered exactly-once delivery

Every subscriber receives the events accepted after its registration, each once
and in order. The proof follows the fan-out of the delivery queue: what a
subscriber has received, followed by what the drainer in progress and the queue
still owe it, is what was accepted for it. Without process-level exits a drainer
only leaves an empty queue behind, so nothing stays owed once no thread is
inside `_dispatch`, and every drainer gets there.
-/

namespace Synapse

open List
open FanOut

namespace Registration

variable {Payload : Type}

/-- What must be delivered to a registration by callback. -/
def owed (registration : Registration Payload)
    (accepted : List (SessionEventEnvelope Payload)) : List (SessionEventEnvelope Payload) :=
  registration.forwarded ++
    (accepted.take (registration.last accepted.length)).drop registration.start

/-- A live registration is owed the next accepted event, an ended one is not. -/
theorem owed_append (registration : Registration Payload)
    {accepted : List (SessionEventEnvelope Payload)} (envelope : SessionEventEnvelope Payload)
    (started : registration.start ≤ registration.last accepted.length)
    (bounded : registration.last accepted.length ≤ accepted.length) :
    registration.owed (accepted ++ [envelope]) =
      registration.owed accepted ++ if registration.ended = none then [envelope] else [] := by
  cases ended : registration.ended with
  | none =>
    have start : registration.start ≤ accepted.length := started.trans bounded
    have all : (accepted ++ [envelope]).take (accepted.length + 1) = accepted ++ [envelope] :=
      take_of_length_le (by simp)
    simp [owed, last, ended, all, drop_append_of_le_length start]
  | some final =>
    have inside : final.1 ≤ accepted.length := by simpa [last, ended] using bounded
    simp [owed, last, ended, take_append_of_le_length inside]

theorem owed_endIf (ends : ℕ → Bool) (byBroker : Bool) (registration : Registration Payload)
    (accepted : List (SessionEventEnvelope Payload)) :
    (registration.endIf ends accepted.length byBroker).owed accepted =
      registration.owed accepted := by
  simp [owed]

end Registration

namespace DrainerState

variable {Payload : Type}

/-- The delivery a drainer has taken and not finished, with the recipients left. -/
def pendingItems : DrainerState Payload → List (SessionEventEnvelope Payload × List ℕ)
  | .deliver envelope records => [(envelope, records.map SubscriberRecord.id)]
  | .callback envelope _ rest => [(envelope, rest.map SubscriberRecord.id)]
  | _ => []

/-- The steps a drainer has left, at most, for what it has taken. -/
def load : DrainerState Payload → ℕ
  | .loop => 2
  | .deliver _ records => 2 * records.length + 3
  | .callback _ _ rest => 2 * rest.length + 4
  | .caught _ => 3
  | .escaping _ => 1
  | .notify records => 2 * records.length + 1
  | .onClose _ rest => 2 * rest.length + 2

/-- Whether a process-level exit is being handled. -/
def exiting : DrainerState Payload → Bool
  | .caught _ | .escaping _ => true
  | _ => false

end DrainerState

namespace DispatchLabel

variable {Payload : Type}

/-- Whether a callback raises a process-level exit. -/
def exits : DispatchLabel Payload → Bool
  | .finish _ (some raised) => raised.isProcessExit
  | _ => false

/-- Whether the step is a drainer's and not a call. -/
def isDrainer : DispatchLabel Payload → Bool
  | .call _ _ => false
  | _ => true

end DispatchLabel

namespace DispatchWorld

variable {Payload : Type}

/-- The deliveries of the queue, by recipient. -/
def queuedItems (delivery : List (SessionEventEnvelope Payload × List SubscriberRecord)) :
    List (SessionEventEnvelope Payload × List ℕ) :=
  delivery.map fun item => (item.1, item.2.map SubscriberRecord.id)

/-- All work between acceptance and callback, first the drainer's, then the queue's. -/
def workItems (world : DispatchWorld Payload) : List (SessionEventEnvelope Payload × List ℕ) :=
  (world.active.flatMap fun frame => frame.2.state.pendingItems) ++
    queuedItems world.broker.delivery

/-- The events a subscription has seen by callback so far. -/
def seen (world : DispatchWorld Payload) (id : ℕ) : List (SessionEventEnvelope Payload) :=
  received id world.history.invoked

@[simp]
theorem queuedItems_nil :
    queuedItems ([] : List (SessionEventEnvelope Payload × List SubscriberRecord)) = [] := rfl

@[simp]
theorem queuedItems_append
    (front back : List (SessionEventEnvelope Payload × List SubscriberRecord)) :
    queuedItems (front ++ back) = queuedItems front ++ queuedItems back :=
  map_append

@[simp]
theorem workItems_enter (world : DispatchWorld Payload) (thread : ℕ) (dispatch : Bool) :
    (world.enter thread dispatch).workItems = world.workItems := by
  cases dispatch <;> simp [workItems, enter, DrainerState.pendingItems]

variable {drainer : Drainer Payload} {world : DispatchWorld Payload} {thread : ℕ}

theorem workItems_of_single (active : world.active = [(thread, drainer)]) :
    world.workItems = drainer.state.pendingItems ++ queuedItems world.broker.delivery := by
  simp [workItems, active]

/-! ### The fan-out -/

/-- Every item in work names registered recipients, each at most once. -/
def Addressed (world : DispatchWorld Payload) : Prop :=
  WellAddressed (· ≤ world.history.registrations.length) world.workItems world.history.invoked

/-- Every registration has received, or is still owed, exactly its events. -/
def Conserved (world : DispatchWorld Payload) : Prop :=
  ∀ registration ∈ world.history.registrations,
    world.seen registration.record.id ++ addressed registration.record.id world.workItems =
      registration.owed world.history.accepted

variable {label : DispatchLabel Payload}
variable {next : DispatchWorld Payload}

/-- Unless a process-level exit drops it, a drainer serves the first item. -/
theorem Moved.advance
    (active : world.active = [(thread, drainer)]) (stays : label.exits = false)
    (moved : Moved world thread drainer.state label next) :
    Advance world.workItems world.history.invoked next.workItems next.history.invoked ∧
      next.history.registrations = world.history.registrations ∧
      next.history.accepted = world.history.accepted := by
  rw [workItems_of_single active]
  generalize drainer.state = current at moved
  cases moved with
  | taken envelope records rest first queued =>
    refine ⟨?_, rfl, rfl⟩
    simpa [workItems, resume, queuedItems, queued, DrainerState.pendingItems]
      using Advance.stay _ _
  | exhausted envelope first =>
    refine ⟨?_, rfl, rfl⟩
    simpa [workItems, resume, DrainerState.pendingItems] using Advance.exhaust envelope _ _
  | invoked envelope record rest first =>
    refine ⟨?_, rfl, rfl⟩
    simpa [workItems, resume, DrainerState.pendingItems]
      using Advance.serve envelope record.id (rest.map SubscriberRecord.id) _ _
  | exited envelope record rest raised first exits =>
    simp [DispatchLabel.exits, exits] at stays
  | _ =>
    refine ⟨?_, rfl, rfl⟩
    simpa [workItems, resume, DrainerState.pendingItems] using Advance.stay _ _

namespace Addressed

theorem enter (addressed : world.Addressed) (thread : ℕ)
    (dispatch : Bool) : (world.enter thread dispatch).Addressed := by
  simpa [Addressed] using addressed

theorem called {world next : DispatchWorld Payload} {thread : ℕ}
    {method : BrokerSection Payload} (addressed : world.Addressed)
    (recorded : world.Recorded) (called : Called world thread method next) :
    next.Addressed := by
  cases called with
  | ignored => exact addressed
  | accepted event events droppedThrough latestTurnId latestTurnStart opened keeps =>
    have items : ∀ entry ∈ queuedItems (if world.broker.subscribers = [] then []
          else [(world.broker.nextEnvelope event, world.broker.subscribers)]),
        entry.2.Nodup ∧ ∀ id ∈ entry.2, id ≤ world.history.registrations.length := by
      intro entry present
      split at present
      · simp at present
      · obtain rfl := mem_singleton.mp present
        exact ⟨recorded.subscribers_nodup, fun id => recorded.subscriber_id_le⟩
    refine Addressed.enter ?_ _ _
    simpa [Addressed, workItems] using WellAddressed.append addressed items
  | registered _ onClose cursor window forwarded opened gapless =>
    have items : ∀ entry ∈ queuedItems (forwarded.map fun envelope =>
          (envelope, [world.broker.nextRecord onClose])),
        entry.2.Nodup ∧ ∀ id ∈ entry.2, id ≤ world.history.registrations.length + 1 := by
      intro entry present
      simp only [queuedItems, map_map, mem_map, Function.comp_apply] at present
      rcases present with ⟨envelope, _, rfl⟩
      simp [SessionEventBroker.nextRecord, recorded.next_eq]
    have wider : WellAddressed (· ≤ world.history.registrations.length + 1) world.workItems
        world.history.invoked :=
      WellAddressed.mono addressed fun id known => Nat.le_succ_of_le known
    refine Addressed.enter ?_ _ _
    simpa [Addressed, workItems] using wider.append items
  | unsubscribed id known live =>
    simpa [Addressed, workItems, endRegistrations] using addressed
  | closed opened =>
    refine Addressed.enter ?_ _ _
    simpa [Addressed, workItems, endRegistrations] using addressed

theorem moved {next : DispatchWorld Payload}
    (addressed : world.Addressed)
    (active : world.active = [(thread, drainer)]) (stays : label.exits = false)
    (moved : Moved world thread drainer.state label next) : next.Addressed := by
  rcases moved.advance active stays with ⟨advanced, registrations, _⟩
  have after := WellAddressed.advance addressed advanced
  simpa [Addressed, registrations] using after

end Addressed

namespace Conserved

variable {world : DispatchWorld Payload}

theorem enter (conserved : world.Conserved) (thread : ℕ)
    (dispatch : Bool) : (world.enter thread dispatch).Conserved := by
  simpa [Conserved, seen] using conserved

variable {next : DispatchWorld Payload}

theorem ended (conserved : world.Conserved)
    (recorded : world.Recorded) (ends : ℕ → Bool) (byBroker : Bool)
    (history : next.history = world.endRegistrations ends byBroker)
    (workItems : next.workItems = world.workItems) : next.Conserved := by
  unfold Conserved seen
  rw [history, workItems, DispatchWorld.endRegistrations, recorded.retained.sequence_eq]
  simp only [mem_map, forall_exists_index, and_imp, forall_apply_eq_imp_iff₂,
    Registration.endIf_record, Registration.owed_endIf]
  exact conserved

theorem called {world next : DispatchWorld Payload} {thread : ℕ}
    {method : BrokerSection Payload} (conserved : world.Conserved)
    (addressed' : world.Addressed) (recorded : world.Recorded)
    (called : Called world thread method next) : next.Conserved := by
  cases called with
  | ignored => exact conserved
  | accepted event events droppedThrough latestTurnId latestTurnStart opened keeps =>
    refine Conserved.enter (fun registration registered => ?_) _ _
    have live := recorded.mem_subscribers_iff registered
    have served := recorded.served registration registered
    have before := conserved registration registered
    have queued : addressed registration.record.id
        (queuedItems (if world.broker.subscribers = [] then []
          else [(world.broker.nextEnvelope event, world.broker.subscribers)])) =
        if registration.ended = none then [world.broker.nextEnvelope event] else [] := by
      by_cases empty : world.broker.subscribers = []
      · have gone : registration.ended ≠ none := fun none => by
          simpa [empty] using live.mpr none
        simp [empty, gone]
      · simp only [empty, if_false, queuedItems, map_cons, map_nil, addressed_cons,
          live, addressed_nil, append_nil]
    calc _ = (world.seen registration.record.id ++
            addressed registration.record.id world.workItems) ++
          addressed registration.record.id (queuedItems
            (if world.broker.subscribers = [] then []
              else [(world.broker.nextEnvelope event, world.broker.subscribers)])) := by
          simp [seen, workItems]
      _ = _ := by
          rw [before, queued, Registration.owed_append registration _ served.1 served.2]
  | registered _ onClose cursor window forwarded opened gapless =>
    refine Conserved.enter (fun registration registered => ?_) _ _
    have queued := addressed_single registration.record.id (world.broker.nextRecord onClose).id
      forwarded
    have work : addressed registration.record.id (queuedItems (forwarded.map fun envelope =>
          (envelope, [world.broker.nextRecord onClose]))) =
        if registration.record.id = (world.broker.nextRecord onClose).id then forwarded
        else [] := by
      rw [← queued]
      simp [queuedItems, Function.comp_def]
    simp only [seen, workItems, queuedItems_append, addressed_append, ← append_assoc]
    rw [work]
    rcases mem_append.mp registered with old | new
    · have other : registration.record.id ≠ (world.broker.nextRecord onClose).id := by
        have bounded := recorded.id_le old
        simp only [SessionEventBroker.nextRecord, recorded.next_eq]
        omega
      simpa [other, seen, workItems] using conserved registration old
    · obtain rfl := mem_singleton.mp new
      have unknown : ¬(world.broker.nextRecord onClose).id ≤
          world.history.registrations.length := by
        simp [SessionEventBroker.nextRecord, recorded.next_eq]
      have nothing := WellAddressed.of_unknown addressed' unknown
      have latest := recorded.retained.sequence_eq
      simp only [workItems, addressed_append, append_eq_nil_iff] at nothing
      simp [nothing, Registration.owed, Registration.last, latest]
  | unsubscribed id known live =>
    exact conserved.ended recorded (· = id) false rfl rfl
  | closed opened =>
    refine Conserved.enter ?_ _ _
    exact conserved.ended recorded (fun _ => true) true rfl rfl

theorem moved
    (conserved : world.Conserved) (addressed' : world.Addressed)
    (active : world.active = [(thread, drainer)]) (stays : label.exits = false)
    (moved : Moved world thread drainer.state label next) : next.Conserved := by
  rcases moved.advance active stays with ⟨advanced, registrations, accepted⟩
  intro registration registered
  rw [registrations] at registered
  rw [accepted, ← conserved registration registered]
  exact WellAddressed.conserves addressed' advanced registration.record.id

end Conserved

/-! ### Runs without process-level exits -/

/-- No process-level exit is being handled, and a drainer only leaves an empty queue. -/
structure Calm (world : DispatchWorld Payload) : Prop where
  frames : ∀ frame ∈ world.active, frame.2.state.exiting = false
  drained : world.active = [] → world.broker.delivery = []

namespace Calm

variable {world : DispatchWorld Payload}

theorem enter (thread : ℕ) (dispatch : Bool)
    (frames : ∀ frame ∈ world.active, frame.2.state.exiting = false)
    (drained : dispatch = false → world.active = [] → world.broker.delivery = []) :
    (world.enter thread dispatch).Calm := by
  cases dispatch with
  | false => exact ⟨frames, drained rfl⟩
  | true => exact ⟨by simpa [DispatchWorld.enter, DrainerState.exiting] using frames,
      by simp [DispatchWorld.enter]⟩

theorem called {world next : DispatchWorld Payload} {thread : ℕ}
    {method : BrokerSection Payload} (calm : world.Calm) (single : world.SingleDrainer)
    (called : Called world thread method next) : next.Calm := by
  have idle : world.active = [] → world.broker.dispatching = false := by
    intro active
    simp only [SingleDrainer, active] at single
    exact single.1
  cases called with
  | ignored => exact calm
  | accepted event events droppedThrough latestTurnId latestTurnStart opened keeps =>
    refine Calm.enter _ _ calm.frames fun refused active => ?_
    -- Whoever does not claim an idle drainer has queued nothing.
    have nobody : world.broker.subscribers = [] := by simpa [idle active] using refused
    simpa [nobody] using calm.drained active
  | registered _ onClose cursor window forwarded opened gapless =>
    refine Calm.enter _ _ calm.frames fun refused active => ?_
    have nothing : forwarded = [] := by simpa [idle active] using refused
    simpa [nothing] using calm.drained active
  | unsubscribed id known live => exact ⟨calm.frames, calm.drained⟩
  | closed opened =>
    refine Calm.enter _ _ calm.frames fun _ active => ?_
    exact calm.drained active

variable {label : DispatchLabel Payload}

theorem moved {next : DispatchWorld Payload}
    (calm : world.Calm) (single : world.SingleDrainer)
    (active : world.active = [(thread, drainer)]) (stays : label.exits = false)
    (moved : Moved world thread drainer.state label next) : next.Calm := by
  have peaceful : drainer.state.exiting = false := calm.frames (thread, drainer) (by simp [active])
  have held : Holds world.broker drainer.state := by simpa [SingleDrainer, active] using single
  generalize drainer.state = current at peaceful held moved
  cases moved with
  | released drained nothing => exact ⟨by simp, fun _ => drained⟩
  | notifiedAll => exact ⟨by simp, fun _ => held.2.2.2⟩
  | restored raised => simp [DrainerState.exiting] at peaceful
  | heldBack raised first closed => simp [DrainerState.exiting] at peaceful
  | escaped raised first opened => simp [DrainerState.exiting] at peaceful
  | exited envelope record rest raised first exits => simp [DispatchLabel.exits, exits] at stays
  | closeExited record rest raised first exits => simp [DispatchLabel.exits, exits] at stays
  | _ => exact ⟨by simp [resume, DrainerState.exiting], by simp [resume]⟩

theorem careful (calm : world.Calm) (stays : label.exits = false) : world.Careful label := by
  refine ⟨?_, ?_⟩
  · cases label with
    | call thread method =>
      cases method with
      | close =>
        have nobody : (world.active.any fun frame => frame.2.state.isEscaping) = false := by
          rw [any_eq_false]
          intro frame present
          have peaceful := calm.frames frame present
          cases state : frame.2.state <;>
            simp_all [DrainerState.exiting, DrainerState.isEscaping]
        simp [closeMeetsEscape, nobody]
      | _ => rfl
    | _ => rfl
  · cases label with
    | finish thread outcome =>
      cases outcome with
      | none => rfl
      | some raised =>
        have ordinary : raised.isProcessExit = false := stays
        simp [onCloseExits, ordinary]
    | _ => rfl

end Calm

/-- What is known of the broker at every moment of a run without exits. -/
structure Serving (world : DispatchWorld Payload) : Prop where
  accounted : world.Accounted
  addressed : world.Addressed
  conserved : world.Conserved
  calm : world.Calm

namespace Serving

theorem step {next : DispatchWorld Payload}
    (serving : world.Serving) (stays : label.exits = false)
    (stepped : world.step label = some next) : next.Serving := by
  have single := serving.accounted.single
  have recorded := serving.accounted.recorded
  have accounted := serving.accounted.step (serving.calm.careful stays) stepped
  rcases step_cases single.length_le stepped with
    ⟨thread, method, rfl, called⟩ | ⟨thread, drainer, active, moved⟩
  · exact ⟨accounted, serving.addressed.called recorded called,
      serving.conserved.called serving.addressed recorded called,
      serving.calm.called single called⟩
  · exact ⟨accounted, serving.addressed.moved active stays moved,
      serving.conserved.moved serving.addressed active stays moved,
      serving.calm.moved single active stays moved⟩

theorem new (threadId : Text) (maxEvents : ℤ) (hardCap : Option ℤ) (epoch : Text) :
    (DispatchWorld.new threadId maxEvents hardCap epoch : DispatchWorld Payload).Serving := by
  refine ⟨.new threadId maxEvents hardCap epoch, ⟨?_, ?_⟩, ?_, ⟨?_, ?_⟩⟩ <;>
    simp [DispatchWorld.new, SessionEventBroker.new, workItems, Conserved]

/-- Nothing is owed once nobody drains, or once the close is being notified. -/
theorem workItems_eq_nil (serving : world.Serving)
    (quiet : world.active = [] ∨ world.broker.closeNotified = true) : world.workItems = [] := by
  rcases serving.accounted.single.cases with active | ⟨thread, drainer, active⟩
  · simp [workItems, active, serving.calm.drained active]
  · have notified : world.broker.closeNotified = true := quiet.resolve_left (by simp [active])
    have held := serving.accounted.single
    simp only [SingleDrainer, active] at held
    rw [workItems_of_single active]
    cases state : drainer.state <;>
      simp_all [Holds, DrainerState.pendingItems]

end Serving

/-! ### Drainers come to rest -/

/-- The steps left to drainers if nobody calls the broker any more. -/
def load (world : DispatchWorld Payload) : ℕ :=
  (world.active.map fun frame => frame.2.state.load).sum +
    (world.broker.delivery.map fun item => 2 * item.2.length + 2).sum +
    2 * world.broker.pendingClose.length

theorem Moved.load_lt
    (active : world.active = [(thread, drainer)]) (stays : label.exits = false)
    (moved : Moved world thread drainer.state label next) : next.load < world.load := by
  simp only [load, active, map_cons, map_nil, sum_cons, sum_nil]
  generalize drainer.state = current at moved
  cases moved with
  | taken envelope records rest first queued =>
    simp [resume, DrainerState.load, queued]
    omega
  | exited envelope record rest raised first exits => simp [DispatchLabel.exits, exits] at stays
  | closeExited record rest raised first exits => simp [DispatchLabel.exits, exits] at stays
  | notifying first drained closed unnotified =>
    simp [resume, DrainerState.load]
    omega
  | _ => simp +arith [resume, DrainerState.load]

theorem advance_isSome (world : DispatchWorld Payload) (thread : ℕ)
    (outside : drainer.state.inUserCode = false) : (world.advance thread drainer).isSome = true := by
  rcases drainer with ⟨state, first⟩
  cases state with
  | loop =>
    simp only [advance]
    split <;> rfl
  | deliver envelope records => cases records <;> rfl
  | caught raised =>
    simp only [advance]
    split <;> rfl
  | escaping raised => rfl
  | notify records =>
    cases records with
    | nil => rfl
    | cons record rest =>
      simp only [advance]
      split <;> rfl
  | callback envelope record rest => cases outside
  | onClose record rest => cases outside

theorem finish_isSome (world : DispatchWorld Payload) (thread : ℕ)
    (inside : drainer.state.inUserCode = true) :
    (world.finish thread drainer none).isSome = true := by
  rcases drainer with ⟨state, first⟩
  cases state with
  | callback envelope record rest => rfl
  | onClose record rest => rfl
  | _ => cases inside

/-- A drainer can always move on, at the latest when its callback returns. -/
theorem exists_step_of_active (active : world.active = [(thread, drainer)]) :
    ∃ label next, (label.isDrainer = true ∧ label.exits = false) ∧
      world.step label = some next := by
  have top : world.top thread = some drainer := by simp [top, active]
  cases inside : drainer.state.inUserCode with
  | true =>
    rcases Option.isSome_iff_exists.mp (finish_isSome world thread inside) with
      ⟨next, finished⟩
    exact ⟨.finish thread none, next, ⟨rfl, rfl⟩, by simpa [step, top] using finished⟩
  | false =>
    rcases Option.isSome_iff_exists.mp (advance_isSome world thread inside) with
      ⟨next, advanced⟩
    exact ⟨.advance thread, next, ⟨rfl, rfl⟩, by simpa [step, top] using advanced⟩

theorem Serving.settles (serving : world.Serving) :
    ∃ labels final, (∀ label ∈ labels, label.isDrainer = true ∧ label.exits = false) ∧
      (machine Payload).run world labels = some final ∧ final.Serving ∧ final.active = [] := by
  refine Machine.run_to_rest load (fun world serving => ?_) serving
  rcases serving.accounted.single.cases with rest | ⟨thread, drainer, active⟩
  · exact Or.inl rest
  · right
    rcases exists_step_of_active active with ⟨label, next, fine, stepped⟩
    refine ⟨label, next, fine, stepped, serving.step fine.2 stepped, ?_⟩
    rcases step_cases serving.accounted.single.length_le stepped with
      ⟨caller, method, rfl, called⟩ | ⟨owner, other, owned, moved⟩
    · simp [DispatchLabel.isDrainer] at fine
    · exact moved.load_lt owned fine.2

/-! ### What a subscriber sees -/

/-- The events owed to a registration from its cursor on: those after the cursor,
up to the last one accepted before it ended. -/
def stretch (world : DispatchWorld Payload) (registration : Registration Payload)
    (cursor : ℕ) : List (SessionEventEnvelope Payload) :=
  (world.history.accepted.take (registration.last world.history.accepted.length)).drop cursor

namespace Serving

variable {registration : Registration Payload} {world : DispatchWorld Payload}

/-- Window and callbacks are the stretch, short of what is still in work. -/
theorem window_seen (serving : world.Serving)
    (registered : registration ∈ world.history.registrations) {cursor : ℕ}
    (given : registration.cursor = some cursor) :
    registration.window ++ world.seen registration.record.id ++
        FanOut.addressed registration.record.id world.workItems =
      world.stretch registration cursor := by
  have recorded := serving.accounted.recorded
  rcases recorded.windowed registration registered cursor given with ⟨below, none, window⟩
  have served := recorded.served registration registered
  have conserved := serving.conserved registration registered
  rw [append_assoc, conserved, Registration.owed, none, window, nil_append, stretch]
  -- The window ends where the deliveries start.
  generalize registration.last world.history.accepted.length = final at served
  have front : world.history.accepted.take registration.start =
      (world.history.accepted.take final).take registration.start := by
    rw [take_take, min_eq_left served.1]
  have inside : cursor ≤ ((world.history.accepted.take final).take registration.start).length := by
    simp only [length_take]
    omega
  rw [front, ← drop_append_of_le_length inside, take_append_drop]

/-- The stretch carries the sequences after the cursor, without a hole. -/
theorem stretch_sequences (serving : world.Serving)
    (registered : registration ∈ world.history.registrations) (cursor : ℕ) :
    (world.stretch registration cursor).map (·.sequence) =
      List.range' (cursor + 1) (registration.last world.history.accepted.length - cursor) := by
  have recorded := serving.accounted.recorded
  have bounded := (recorded.served registration registered).2
  have numbered := recorded.retained.retains.numbered.take
    (registration.last world.history.accepted.length)
  rw [stretch, numbered.map_drop, length_take, min_eq_left bounded]

end Serving

namespace Accounted

variable {world : DispatchWorld Payload}

theorem closeOwed_nodup (accounted : world.Accounted) :
    world.closeOwed.Nodup := by
  have distinct : (world.history.registrations.map fun registration =>
      registration.record.id).Nodup := by
    rw [accounted.recorded.numbered]
    exact nodup_range'
  refine distinct.sublist ?_
  have all : world.history.registrations.map (fun registration => registration.record.id) =
      (world.history.registrations.map (·.record)).map SubscriberRecord.id := by simp
  rw [all]
  exact ((filter_sublist).trans (List.filter_sublist.map _)).map _

theorem notified_sublist (accounted : world.Accounted) :
    world.history.notified.Sublist world.closeOwed := by
  cases notified : world.broker.closeNotified with
  | false => simp [(accounted.closing.before notified).1]
  | true =>
    rw [← accounted.closing.after notified]
    exact sublist_append_left _ _

theorem endedByBroker_of_notified (accounted : world.Accounted)
    {registration : Registration Payload} (registered : registration ∈ world.history.registrations)
    (notified : registration.record.id ∈ world.history.notified) :
    registration.endedByBroker = true := by
  have owed := accounted.notified_sublist.subset notified
  simp only [closeOwed, listeners, Registration.closers, mem_map, mem_filter] at owed
  rcases owed with ⟨record, ⟨⟨other, ⟨present, ended⟩, rfl⟩, _⟩, same⟩
  have distinct : (world.history.registrations.map fun registration =>
      registration.record.id).Nodup := by
    rw [accounted.recorded.numbered]
    exact nodup_range'
  rwa [← inj_on_of_nodup_map distinct present registered same]

end Accounted

/-- Ordered exactly-once delivery to a registration made at a cursor. -/
structure ExactlyOnce (world : DispatchWorld Payload) (registration : Registration Payload)
    (cursor : ℕ) : Prop where
  /-- The window and then the callbacks are the stretch from its front; the rest
  of it is still in work, and none is when no thread drains or when `on_close`
  has been invoked. -/
  inOrder : ∃ rest, registration.window ++ world.seen registration.record.id ++ rest =
      world.stretch registration cursor ∧
    (world.active = [] → rest = []) ∧
    (registration.record.id ∈ world.history.notified → rest = [])
  noHole : (world.stretch registration cursor).map (·.sequence) =
    List.range' (cursor + 1) (registration.last world.history.accepted.length - cursor)
  onCloseAtMostOnce : world.history.notified.count registration.record.id ≤ 1
  onCloseOnlyAtClose : registration.record.id ∈ world.history.notified →
    registration.endedByBroker = true
  onCloseOnce : world.active = [] → registration.endedByBroker = true →
    registration.record.onClose = true → world.history.notified.count registration.record.id = 1

theorem Serving.exactlyOnce (serving : world.Serving) {registration : Registration Payload}
    (registered : registration ∈ world.history.registrations) {cursor : ℕ}
    (given : registration.cursor = some cursor) : world.ExactlyOnce registration cursor := by
  have accounted := serving.accounted
  have atMostOnce : world.history.notified.count registration.record.id ≤ 1 :=
    nodup_iff_count_le_one.mp (accounted.closeOwed_nodup.sublist accounted.notified_sublist) _
  refine ⟨⟨FanOut.addressed registration.record.id world.workItems,
    serving.window_seen registered given, ?_, ?_⟩, serving.stretch_sequences registered cursor,
    atMostOnce, accounted.endedByBroker_of_notified registered, ?_⟩
  · intro quiet
    rw [serving.workItems_eq_nil (Or.inl quiet), addressed_nil]
  · intro notified
    have taken : world.broker.closeNotified = true := by
      cases flag : world.broker.closeNotified with
      | true => rfl
      | false => simp [(accounted.closing.before flag).1] at notified
    rw [serving.workItems_eq_nil (Or.inr taken), addressed_nil]
  · intro quiet ended listens
    have closed : world.broker.closed = true := by
      cases flag : world.broker.closed with
      | true => rfl
      | false => simp [accounted.recorded.opened flag registration registered] at ended
    have notified := (accounted.notified_eq_closeOwed closed quiet).2
    have owed := Accounted.mem_closeOwed registered ended listens
    rw [← notified] at owed
    exact le_antisymm atMostOnce (count_pos_iff.mpr owed)

/-- Ordered exactly-once delivery holds at every moment of every interleaving of
calls and drainers in which no callback raises a process-level exit; and from
every moment the drainers, left alone, come to rest. -/
theorem exactlyOnce_of_run (threadId : Text) (maxEvents : ℤ) (hardCap : Option ℤ) (epoch : Text)
    (labels : List (DispatchLabel Payload)) (world : DispatchWorld Payload)
    (stays : ∀ label ∈ labels, label.exits = false)
    (ran : (machine Payload).run (new threadId maxEvents hardCap epoch) labels = some world) :
    (∀ registration ∈ world.history.registrations, ∀ cursor,
      registration.cursor = some cursor → world.ExactlyOnce registration cursor) ∧
    ∃ rest final, (∀ label ∈ rest, label.isDrainer = true ∧ label.exits = false) ∧
      (machine Payload).run world rest = some final ∧ final.active = [] := by
  have serving : world.Serving := Machine.run_invariant_of_guarded
    (fun serving stays stepped => serving.step stays stepped)
    (.new threadId maxEvents hardCap epoch) (Machine.guarded_of_labels stays _) ran
  refine ⟨fun registration registered cursor given => serving.exactlyOnce registered given, ?_⟩
  rcases serving.settles with ⟨rest, final, drainers, settled, _, quiet⟩
  exact ⟨rest, final, drainers, settled, quiet⟩

/-- Two subscribers, one of which unsubscribes; a callback emits again and
another raises `asyncio.CancelledError`; then the broker closes. -/
def reentrantRun : List (DispatchLabel Unit) :=
  let event : BrokerSection Unit := .emit ⟨1, [], [], 0, .toolStarted, ()⟩
  [ .call 0 event, .call 0 (.subscribeFrom (.int 0) true), .call 0 (.subscribeFrom (.int 1) true),
    .call 0 event, .advance 0, .advance 0, .call 0 event, .finish 0 (some .baseException),
    .call 1 (.closeSubscription 2), .call 1 .close, .advance 0, .finish 0 none,
    .advance 0, .advance 0, .advance 0, .finish 0 (some .exception), .advance 0, .finish 0 none,
    .advance 0, .advance 0, .advance 0, .finish 0 none, .advance 0 ]

theorem exactlyOnce_of_run_reentrantRun :
    ∃ world, (machine Unit).run (new [] 16 none []) reentrantRun = some world ∧
      (∀ registration ∈ world.history.registrations, ∀ cursor,
        registration.cursor = some cursor → world.ExactlyOnce registration cursor) ∧
      world.history.registrations.length = 2 ∧ world.history.notified = [1] :=
  ⟨_, rfl, (exactlyOnce_of_run [] 16 none [] reentrantRun _ (by decide) rfl).1, rfl, rfl⟩

end DispatchWorld

end Synapse
