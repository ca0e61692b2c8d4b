import Synapse.Sessions.Registry

/-!
# Close work

When the broker closes, the subscribers of that moment are owed one `on_close`
each, after the queued deliveries. `Closing` follows the notification set from
the close through the drainer: what has been notified, followed by what the
drainer still has to notify, is exactly that set.

The docstring of `_dispatch` promises that close work is never stranded. The
promise is kept in every run in which no close leaves work to a drainer on its
way out; a run that does so strands both the queue and the notifications.
-/

namespace Synapse

open List

/-- The `on_close` callbacks among some records, by identifier. -/
def listeners (records : List SubscriberRecord) : List ℕ :=
  (records.filter (·.onClose)).map (·.id)

@[simp]
theorem listeners_nil : listeners [] = [] := rfl

variable {record : SubscriberRecord}

theorem listeners_cons_of_silent (rest : List SubscriberRecord)
    (silent : record.onClose = false) : listeners (record :: rest) = listeners rest := by
  simp [listeners, silent]

theorem listeners_cons_of_listens (rest : List SubscriberRecord) (listens : record.onClose = true) :
    listeners (record :: rest) = record.id :: listeners rest := by
  simp [listeners, listens]

namespace Registration

variable {Payload : Type}

/-- The records that the broker's close ended. -/
def closers (registrations : List (Registration Payload)) : List SubscriberRecord :=
  (registrations.filter endedByBroker).map (·.record)

theorem closers_map_endIf_false (ends : ℕ → Bool) (latest : ℕ)
    (registrations : List (Registration Payload)) :
    closers (registrations.map (endIf ends latest false)) = closers registrations := by
  induction registrations with
  | nil => rfl
  | cons registration registrations ih =>
    unfold closers at ih ⊢
    cases ended : registration.ended with
    | some last => cases byBroker : last.2 <;> simp [endIf, ended, endedByBroker, byBroker, ih]
    | none =>
      cases selected : ends registration.record.id <;>
        simp [endIf, ended, endedByBroker, selected, ih]

/-- The first close ends the registrations that are live. -/
theorem closers_map_endIf_true (latest : ℕ) (registrations : List (Registration Payload))
    (opened : ∀ registration ∈ registrations, registration.endedByBroker = false) :
    closers (registrations.map (endIf (fun _ => true) latest true)) =
      (registrations.filter fun registration => registration.ended.isNone).map (·.record) := by
  induction registrations with
  | nil => rfl
  | cons registration registrations ih =>
    have rest := ih fun other present => opened other (mem_cons_of_mem _ present)
    have first := opened registration mem_cons_self
    unfold closers at rest ⊢
    cases ended : registration.ended with
    | some last => simp_all [endIf, endedByBroker]
    | none =>
      have counted : (registration.endIf (fun _ => true) latest true).endedByBroker = true := by
        simp [endIf, ended, endedByBroker]
      rw [map_cons, filter_cons_of_pos counted, map_cons, rest, endIf_record]
      simp [ended]

end Registration

/-- The notifications a drainer has taken and not started. -/
def DrainerState.unnotified {Payload : Type} : DrainerState Payload → List ℕ
  | .notify records => listeners records
  | .onClose _ rest => listeners rest
  | _ => []

namespace DispatchWorld

variable {Payload : Type}

/-- The `on_close` callbacks the broker's close owes. -/
def closeOwed (world : DispatchWorld Payload) : List ℕ :=
  listeners (Registration.closers world.history.registrations)

/-- Where the notification set of the close is. -/
structure Closing (world : DispatchWorld Payload) : Prop where
  before : world.broker.closeNotified = false → world.history.notified = [] ∧
    (world.broker.closed = true → listeners world.broker.pendingClose = world.closeOwed)
  after : world.broker.closeNotified = true →
    world.history.notified ++ (world.active.flatMap fun frame => frame.2.state.unnotified) =
      world.closeOwed

theorem SingleDrainer.closed_of_notified {world : DispatchWorld Payload}
    (single : world.SingleDrainer) (notified : world.broker.closeNotified = true) :
    world.broker.closed = true := by
  rcases single.cases with active | ⟨thread, drainer, active⟩
  · simp only [SingleDrainer, active] at single
    exact single.2.1 notified
  · simp only [SingleDrainer, active] at single
    cases state : drainer.state <;> simp [state, Holds, notified] at single
    · exact single.2.1
    · exact single.2.1

namespace Closing

theorem flatMap_enter (world : DispatchWorld Payload) (thread : ℕ) (dispatch : Bool) :
    ((world.enter thread dispatch).active.flatMap fun frame => frame.2.state.unnotified) =
      world.active.flatMap fun frame => frame.2.state.unnotified := by
  cases dispatch <;> simp [enter, DrainerState.unnotified]

theorem called {world next : DispatchWorld Payload} {thread : ℕ}
    {method : BrokerSection Payload} (closing : world.Closing) (single : world.SingleDrainer)
    (recorded : world.Recorded) (called : Called world thread method next) : next.Closing := by
  cases called with
  | ignored => exact closing
  | accepted event events droppedThrough latestTurnId latestTurnStart opened =>
    refine ⟨?_, ?_⟩ <;>
      simp only [enter_broker, enter_history, flatMap_enter, closeOwed]
    · exact closing.before
    · exact closing.after
  | registered _ onClose cursor window forwarded opened gapless =>
    refine ⟨?_, ?_⟩ <;>
      simp only [enter_broker, enter_history, flatMap_enter, closeOwed]
    · intro unnotified
      simpa [opened] using (closing.before unnotified).1
    · intro notified
      simp [single.closed_of_notified notified] at opened
  | unsubscribed id known live =>
    have owed := Registration.closers_map_endIf_false (· = id) world.broker.sequence
      world.history.registrations
    refine ⟨?_, ?_⟩ <;> simp only [closeOwed, DispatchWorld.endRegistrations, owed]
    · exact closing.before
    · exact closing.after
  | closed opened =>
    have owed := Registration.closers_map_endIf_true world.broker.sequence
      world.history.registrations (recorded.opened opened)
    refine ⟨?_, ?_⟩ <;>
      simp only [enter_broker, enter_history, flatMap_enter, closeOwed,
        DispatchWorld.endRegistrations, owed]
    · intro unnotified
      refine ⟨(closing.before unnotified).1, fun _ => ?_⟩
      rw [recorded.subscribers_eq]
    · intro notified
      simp [single.closed_of_notified notified] at opened

theorem moved {world next : DispatchWorld Payload} {thread : ℕ} {drainer : Drainer Payload}
    {label : DispatchLabel Payload} (closing : world.Closing) (single : world.SingleDrainer)
    (active : world.active = [(thread, drainer)]) (avoids : world.onCloseExits label = false)
    (moved : Moved world thread drainer.state label next) : next.Closing := by
  have after := closing.after
  simp only [active, flatMap_cons, flatMap_nil, append_nil] at after
  generalize state : drainer.state = current at after moved
  cases moved with
  | notifying first drained closed unnotified =>
    rcases closing.before unnotified with ⟨none, pending⟩
    refine ⟨?_, ?_⟩
    · simp [resume]
    · simpa [resume, none, DrainerState.unnotified, closeOwed] using pending closed
  | notifiedAll =>
    refine ⟨closing.before, ?_⟩
    simpa [DrainerState.unnotified, closeOwed] using after
  | passedOver record rest first silent =>
    refine ⟨closing.before, ?_⟩
    simpa [resume, DrainerState.unnotified, closeOwed, listeners_cons_of_silent rest silent]
      using after
  | notified record rest first listens =>
    have held : world.broker.closeNotified = true := by
      simp only [SingleDrainer, active, state, Holds] at single
      exact single.2.2.1
    refine ⟨?_, ?_⟩
    · simp [resume, held]
    · simpa [resume, DrainerState.unnotified, closeOwed,
        listeners_cons_of_listens rest listens] using after
  | closeExited record rest raised first exits =>
    simp [onCloseExits, exits, top, active, state, DrainerState.inOnClose] at avoids
  | _ =>
    refine ⟨closing.before, ?_⟩
    simpa [resume, DrainerState.unnotified, closeOwed] using after

theorem new (threadId : Text) (maxEvents : ℤ) (hardCap : Option ℤ) (epoch : Text) :
    (DispatchWorld.new threadId maxEvents hardCap epoch : DispatchWorld Payload).Closing := by
  refine ⟨fun _ => ⟨rfl, ?_⟩, ?_⟩ <;> simp [DispatchWorld.new, SessionEventBroker.new]

end Closing

/-- What is known of the broker at every moment of a guarded run. -/
structure Accounted (world : DispatchWorld Payload) : Prop where
  single : world.SingleDrainer
  recorded : world.Recorded
  closing : world.Closing

/-- The steps after which close work may be lost are excluded. -/
def Careful (world : DispatchWorld Payload) (label : DispatchLabel Payload) : Prop :=
  world.closeMeetsEscape label = false ∧ world.onCloseExits label = false

instance (world : DispatchWorld Payload) (label : DispatchLabel Payload) :
    Decidable (world.Careful label) :=
  inferInstanceAs (Decidable (_ ∧ _))

namespace Accounted

variable {world : DispatchWorld Payload}

theorem step {next : DispatchWorld Payload} {label : DispatchLabel Payload}
    (accounted : world.Accounted) (careful : world.Careful label)
    (stepped : world.step label = some next) : next.Accounted := by
  refine ⟨accounted.single.step careful stepped, ?_, ?_⟩
  · rcases step_cases accounted.single.length_le stepped with
      ⟨thread, method, rfl, called⟩ | ⟨thread, drainer, active, moved⟩
    · exact accounted.recorded.called called
    · exact accounted.recorded.moved moved
  · rcases step_cases accounted.single.length_le stepped with
      ⟨thread, method, rfl, called⟩ | ⟨thread, drainer, active, moved⟩
    · exact accounted.closing.called accounted.single accounted.recorded called
    · exact accounted.closing.moved accounted.single active careful.2 moved

theorem new (threadId : Text) (maxEvents : ℤ) (hardCap : Option ℤ) (epoch : Text) :
    (DispatchWorld.new threadId maxEvents hardCap epoch : DispatchWorld Payload).Accounted :=
  ⟨.new threadId maxEvents hardCap epoch, .new threadId maxEvents hardCap epoch,
    .new threadId maxEvents hardCap epoch⟩

/-- Once nobody drains a closed broker, its whole notification set has been notified. -/
theorem notified_eq_closeOwed (accounted : world.Accounted)
    (closed : world.broker.closed = true) (quiet : world.active = []) :
    world.broker.delivery = [] ∧ world.history.notified = world.closeOwed := by
  have single := accounted.single
  simp only [SingleDrainer, quiet] at single
  rcases single.2.2 closed with ⟨drained, silent⟩
  refine ⟨drained, ?_⟩
  cases notified : world.broker.closeNotified with
  | true => simpa [quiet] using accounted.closing.after notified
  | false =>
    rcases accounted.closing.before notified with ⟨none, pending⟩
    rw [none, ← pending closed, listeners, filter_eq_nil_iff.mpr, map_nil]
    intro record present
    simp [silent notified record present]

theorem mem_closeOwed {registration : Registration Payload}
    (registered : registration ∈ world.history.registrations)
    (ended : registration.endedByBroker = true) (listens : registration.record.onClose = true) :
    registration.record.id ∈ world.closeOwed := by
  simp only [closeOwed, listeners, Registration.closers, mem_map, mem_filter]
  exact ⟨registration.record, ⟨⟨registration, ⟨registered, ended⟩, rfl⟩, listens⟩, rfl⟩

end Accounted

/-- Close work that a closed broker has done: nothing is queued, and the
`on_close` of every subscriber registered at the close has been started. -/
def CloseWorkDone (world : DispatchWorld Payload) : Prop :=
  world.broker.delivery = [] ∧ ∀ registration ∈ world.history.registrations,
    registration.endedByBroker = true → registration.record.onClose = true →
      registration.record.id ∈ world.history.notified

instance (world : DispatchWorld Payload) : Decidable world.CloseWorkDone :=
  inferInstanceAs (Decidable (_ ∧ _))

/-- In a careful run no close work is stranded: whenever the broker is closed
and no thread is inside `_dispatch`, the close work is done. -/
theorem closeWorkDone_of_careful (threadId : Text) (maxEvents : ℤ) (hardCap : Option ℤ)
    (epoch : Text) (labels : List (DispatchLabel Payload)) (world : DispatchWorld Payload)
    (careful : (machine Payload).Guarded Careful (new threadId maxEvents hardCap epoch) labels)
    (ran : (machine Payload).run (new threadId maxEvents hardCap epoch) labels = some world)
    (closed : world.broker.closed = true) (quiet : world.active = []) :
    world.CloseWorkDone := by
  have accounted : world.Accounted := Machine.run_invariant_of_guarded
    (fun accounted careful stepped => accounted.step careful stepped)
    (.new threadId maxEvents hardCap epoch) careful ran
  rcases accounted.notified_eq_closeOwed closed quiet with ⟨drained, notified⟩
  refine ⟨drained, fun registration registered ended listens => ?_⟩
  rw [notified]
  exact Accounted.mem_closeOwed registered ended listens

/-- A subscriber with an `on_close`, an event, and an observer that raises
`KeyboardInterrupt` while thread 1 emits another event. -/
def interruptedRun : List (DispatchLabel Unit) :=
  let event : BrokerSection Unit := .emit ⟨1, [], [], 0, .toolStarted, ()⟩
  [ .call 0 (.subscribeFrom (.int 0) true), .call 0 event, .advance 0, .advance 0,
    .call 1 event, .finish 0 (some .keyboardInterrupt) ]

/-- A close between the exit and the unlocked read of `_closed`: the drainer
holds the exit back and does the close work. -/
def heldBackRun : List (DispatchLabel Unit) :=
  interruptedRun ++ [.call 1 .close, .advance 0, .advance 0, .advance 0, .finish 0 none,
    .advance 0, .advance 0, .advance 0, .finish 0 none, .advance 0]

theorem closeWorkDone_of_careful_heldBackRun :
    ∃ world, (machine Unit).run (new [] 16 none []) heldBackRun = some world ∧
      world.CloseWorkDone ∧ world.history.notified = [1] :=
  ⟨_, rfl, closeWorkDone_of_careful [] 16 none [] heldBackRun _ (by decide) rfl rfl rfl, rfl⟩

/-- A close between the unlocked read of `_closed` and the critical section that
clears `_dispatching`. -/
def strandingRun : List (DispatchLabel Unit) :=
  interruptedRun ++ [.advance 0, .call 1 .close, .advance 0]

/-- The second event and the notification are stranded. -/
theorem closeWork_stranded :
    ∃ world, (machine Unit).run (new [] 16 none []) strandingRun = some world ∧
      (machine Unit).Guarded (fun world label => world.onCloseExits label = false)
        (new [] 16 none []) strandingRun ∧
      world.broker.closed = true ∧ world.active = [] ∧ ¬world.CloseWorkDone :=
  ⟨_, rfl, by decide, rfl, rfl, by decide⟩

end DispatchWorld

end Synapse
