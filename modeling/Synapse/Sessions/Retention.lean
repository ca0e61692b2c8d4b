import Synapse.Foundation.RetainedLog
import Synapse.Sessions.Broker

/-!
# Retention in the session event broker

A broker moves by its critical sections. This file relates the bounded buffer
after any sequence of sections to the full history of accepted events: the
buffer is what remains of the numbered history, and `droppedThrough` is the
largest number missing from it. The gap flag of a window is then exact, although
eviction takes events from the middle of the buffer.
-/

namespace Synapse

/-- The critical sections of the broker: those of its public methods, and the
two of the drainer. -/
inductive BrokerSection (Payload : Type) where
  | emit (event : TurnEvent Payload)
  | subscribe (cursor : ℤ)
  | subscribeFrom (cursor : CursorArgument) (onClose : Bool)
  | forwardTo (cursor : ℤ)
  | closeSubscription (id : ℕ)
  | close
  | take
  | restore

namespace BrokerSection

variable {Payload : Type}

/-- Only `close` closes the broker. -/
def isClose : BrokerSection Payload → Bool
  | .close => true
  | _ => false

end BrokerSection

namespace SessionEventBroker

variable {Payload : Type}

/-- The broker after one critical section; a rejected cursor changes nothing. -/
def apply (broker : SessionEventBroker Payload) :
    BrokerSection Payload → SessionEventBroker Payload
  | .emit event => (broker.emit event).1
  | .subscribe cursor => (broker.subscribe cursor).1
  | .subscribeFrom cursor onClose =>
    match broker.subscribeFrom cursor onClose with
    | .ok (registered, _, _) => registered
    | .error _ => broker
  | .forwardTo cursor => (broker.forwardTo cursor).1
  | .closeSubscription id => broker.closeSubscription id
  | .close => broker.close.1
  | .take => broker.takeLocked.1
  | .restore => broker.restoreLocked

/-- The events accepted by a sequence of sections: those emitted before the
first close. -/
def acceptedEvents : List (BrokerSection Payload) → List (TurnEvent Payload)
  | [] => []
  | .close :: _ => []
  | .emit event :: rest => event :: acceptedEvents rest
  | _ :: rest => acceptedEvents rest

/-- The envelopes of accepted events, numbered after `latest`. -/
def envelopesAfter (threadId : Text) :
    ℕ → List (TurnEvent Payload) → List (SessionEventEnvelope Payload)
  | _, [] => []
  | latest, event :: rest =>
    { threadId, sequence := latest + 1, turnId := event.turnId, event } ::
      envelopesAfter threadId (latest + 1) rest

/-- The whole history behind a new broker and a sequence of sections. -/
def history (threadId : Text) (sections : List (BrokerSection Payload)) :
    List (SessionEventEnvelope Payload) :=
  envelopesAfter threadId 0 (acceptedEvents sections)

theorem length_envelopesAfter (threadId : Text) (latest : ℕ) (events : List (TurnEvent Payload)) :
    (envelopesAfter threadId latest events).length = events.length := by
  induction events generalizing latest with
  | nil => rfl
  | cons event rest ih => simp [envelopesAfter, ih]

theorem envelopesAfter_append (threadId : Text) (latest : ℕ)
    (events later : List (TurnEvent Payload)) :
    envelopesAfter threadId latest (events ++ later) =
      envelopesAfter threadId latest events ++
        envelopesAfter threadId (latest + events.length) later := by
  induction events generalizing latest with
  | nil => rfl
  | cons event rest ih => simp [envelopesAfter, ih, Nat.add_assoc, Nat.add_comm 1]

theorem acceptedEvents_map_emit (events : List (TurnEvent Payload)) :
    acceptedEvents (events.map .emit) = events := by
  induction events with
  | nil => rfl
  | cons event rest ih => simp [acceptedEvents, ih]

theorem turnId_of_mem_envelopesAfter {threadId : Text} {latest : ℕ}
    {events : List (TurnEvent Payload)} {envelope : SessionEventEnvelope Payload}
    (present : envelope ∈ envelopesAfter threadId latest events) :
    ∃ event ∈ events, envelope.turnId = event.turnId := by
  induction events generalizing latest with
  | nil => cases present
  | cons event rest ih =>
    rcases List.mem_cons.1 present with rfl | later
    · exact ⟨event, List.mem_cons_self, rfl⟩
    · rcases ih later with ⟨other, known, same⟩
      exact ⟨other, List.mem_cons_of_mem _ known, same⟩

/-! ### What the sections do to the retained events -/

theorem evictLocked_eq (broker : SessionEventBroker Payload) (index : ℕ) :
    ∃ events droppedThrough,
      broker.evictLocked index = { broker with events, droppedThrough } := by
  unfold evictLocked
  split
  · exact ⟨_, _, rfl⟩
  · exact ⟨_, _, rfl⟩

/-- Making room touches the buffer and the watermark only. -/
theorem makeRoomLocked_eq (broker : SessionEventBroker Payload) (incoming : TurnEventKind) :
    ∃ events droppedThrough,
      broker.makeRoomLocked incoming = { broker with events, droppedThrough } := by
  unfold makeRoomLocked
  split
  · exact ⟨_, _, rfl⟩
  · split
    · exact evictLocked_eq broker _
    · split
      · exact evictLocked_eq broker _
      · exact ⟨_, _, rfl⟩

theorem emit_of_closed {broker : SessionEventBroker Payload} (closed : broker.closed = true)
    (event : TurnEvent Payload) : broker.emit event = (broker, false) := by
  simp [emit, closed]

/-- What an open broker does with an event: it makes room, numbers and retains
the event, queues it for the subscribers of this moment, and claims the drainer
if it queued something and nobody drains. -/
theorem emit_of_open {broker : SessionEventBroker Payload} (opened : broker.closed = false)
    (event : TurnEvent Payload) :
    ∃ kept droppedThrough latestTurnId latestTurnStart,
      { broker with sequence := broker.sequence + 1 }.makeRoomLocked event.kind =
        { broker with sequence := broker.sequence + 1, events := kept, droppedThrough } ∧
      broker.emit event =
        ({ broker with
            sequence := broker.sequence + 1
            events := kept ++ [broker.nextEnvelope event]
            droppedThrough
            latestTurnId
            latestTurnStart
            delivery := broker.delivery ++
              if broker.subscribers = [] then []
              else [(broker.nextEnvelope event, broker.subscribers)]
            dispatching := broker.dispatching || !broker.subscribers.isEmpty },
          !broker.dispatching && !broker.subscribers.isEmpty) := by
  rcases makeRoomLocked_eq { broker with sequence := broker.sequence + 1 } event.kind with
    ⟨kept, droppedThrough, room⟩
  unfold emit
  rw [if_neg (by simp [opened])]
  simp only [room]
  by_cases sameTurn : some (broker.nextEnvelope event).turnId = broker.latestTurnId
  · refine ⟨kept, droppedThrough, broker.latestTurnId, broker.latestTurnStart, rfl, ?_⟩
    rw [if_pos sameTurn]
    cases subscribers : broker.subscribers <;> cases dispatching : broker.dispatching <;>
      simp [claimLocked]
  · refine ⟨kept, droppedThrough, some (broker.nextEnvelope event).turnId,
      some (broker.nextEnvelope event).sequence, rfl, ?_⟩
    rw [if_neg sameTurn]
    cases subscribers : broker.subscribers <;> cases dispatching : broker.dispatching <;>
      simp [claimLocked]

variable {moved : BrokerSection Payload}

/-- A section that is not an emit leaves the retained history as it is, and only
a close closes the broker. -/
theorem apply_of_not_emit (broker : SessionEventBroker Payload)
    (notEmit : ∀ event, moved ≠ .emit event) :
    (broker.apply moved).events = broker.events ∧
      (broker.apply moved).sequence = broker.sequence ∧
      (broker.apply moved).droppedThrough = broker.droppedThrough ∧
      (broker.apply moved).threadId = broker.threadId ∧
      (broker.apply moved).closed = (broker.closed || moved.isClose) := by
  cases moved with
  | emit event => exact absurd rfl (notEmit event)
  | subscribe cursor =>
    simp only [apply, subscribe]
    split <;> simp [registerLocked, BrokerSection.isClose]
  | subscribeFrom cursor onClose =>
    simp only [apply, subscribeFrom]
    cases broker.checkedCursorLocked cursor with
    | error error => simp [bind, Except.bind, BrokerSection.isClose]
    | ok checked =>
      by_cases refused : broker.closed = true ∨ (broker.windowLocked checked).gap = true <;>
        simp [bind, Except.bind, pure, Except.pure, refused, registerLocked,
          BrokerSection.isClose]
  | forwardTo cursor =>
    simp only [apply, forwardTo]
    split
    · simp [BrokerSection.isClose]
    · by_cases empty : broker.replayAfter cursor = [] <;>
        cases dispatching : broker.dispatching <;>
          simp [empty, registerLocked, claimLocked, dispatching, BrokerSection.isClose]
  | closeSubscription id =>
    simp only [apply, closeSubscription]
    split <;> simp [BrokerSection.isClose]
  | close =>
    simp only [apply, close]
    split
    case isTrue closed => simp [closed]
    case isFalse => cases broker.dispatching <;> simp [claimLocked, BrokerSection.isClose]
  | take =>
    simp only [apply, takeLocked]
    split
    · simp [BrokerSection.isClose]
    · split <;> simp [BrokerSection.isClose]
  | restore => simp [apply, restoreLocked, BrokerSection.isClose]

/-- A section that is not an emit changes subscriptions and deliveries only. -/
theorem apply_eq_of_not_emit (broker : SessionEventBroker Payload)
    (notEmit : ∀ event, moved ≠ .emit event) :
    ∃ subscribers nextSubscriptionId closed delivery dispatching closeNotified pendingClose
        closedRecords,
      broker.apply moved =
        { broker with
          subscribers, nextSubscriptionId, closed, delivery, dispatching, closeNotified,
          pendingClose, closedRecords } := by
  cases moved with
  | emit event => exact absurd rfl (notEmit event)
  | subscribe cursor =>
    simp only [apply, subscribe]
    split
    · exact ⟨_, _, _, _, _, _, _, _, rfl⟩
    · exact ⟨_, _, _, _, _, _, _, _, rfl⟩
  | subscribeFrom cursor onClose =>
    simp only [apply, subscribeFrom]
    cases broker.checkedCursorLocked cursor with
    | error error => exact ⟨_, _, _, _, _, _, _, _, rfl⟩
    | ok checked =>
      by_cases refused : broker.closed = true ∨ (broker.windowLocked checked).gap = true
      · simp only [bind, Except.bind, pure, Except.pure, refused, if_true]
        exact ⟨_, _, _, _, _, _, _, _, rfl⟩
      · simp only [bind, Except.bind, pure, Except.pure, refused, if_false]
        exact ⟨_, _, _, _, _, _, _, _, rfl⟩
  | forwardTo cursor =>
    simp only [apply, forwardTo]
    split
    · exact ⟨_, _, _, _, _, _, _, _, rfl⟩
    · by_cases empty : broker.replayAfter cursor = []
      · simp only [empty, if_true]
        exact ⟨_, _, _, _, _, _, _, _, rfl⟩
      · simp only [empty, if_false, claimLocked]
        split <;> exact ⟨_, _, _, _, _, _, _, _, rfl⟩
  | closeSubscription id =>
    simp only [apply, closeSubscription]
    split <;> exact ⟨_, _, _, _, _, _, _, _, rfl⟩
  | close =>
    simp only [apply, close, claimLocked]
    split
    · exact ⟨_, _, _, _, _, _, _, _, rfl⟩
    · split <;> exact ⟨_, _, _, _, _, _, _, _, rfl⟩
  | take =>
    simp only [apply, takeLocked]
    split
    · exact ⟨_, _, _, _, _, _, _, _, rfl⟩
    · split <;> exact ⟨_, _, _, _, _, _, _, _, rfl⟩
  | restore => exact ⟨_, _, _, _, _, _, _, _, rfl⟩

/-! ### The retained buffer against the history -/

/-- The buffer and the watermark are those of the numbered log of accepted events. -/
structure RetainsLog (broker : SessionEventBroker Payload)
    (log : List (SessionEventEnvelope Payload)) : Prop where
  retains : Retains (·.sequence) log broker.events broker.droppedThrough
  sequence_eq : broker.sequence = log.length

variable {broker : SessionEventBroker Payload} {log : List (SessionEventEnvelope Payload)}

theorem retains_evictLocked (retains : Retains (·.sequence) log broker.events broker.droppedThrough)
    (index : ℕ) :
    Retains (·.sequence) log (broker.evictLocked index).events
      (broker.evictLocked index).droppedThrough := by
  unfold evictLocked
  split
  · exact retains
  case h_2 dropped found => exact retains.evict found

/-- Each branch of the eviction policy keeps the watermark exact. -/
theorem retains_makeRoomLocked (broker : SessionEventBroker Payload)
    (retains : Retains (·.sequence) log broker.events broker.droppedThrough)
    (incoming : TurnEventKind) :
    Retains (·.sequence) log (broker.makeRoomLocked incoming).events
      (broker.makeRoomLocked incoming).droppedThrough := by
  unfold makeRoomLocked
  split
  · exact retains
  · split
    · exact retains_evictLocked retains _
    · split
      · exact retains_evictLocked retains 0
      · exact retains

theorem RetainsLog.emit (retained : broker.RetainsLog log) (opened : broker.closed = false)
    (event : TurnEvent Payload) :
    (broker.emit event).1.RetainsLog (log ++ [broker.nextEnvelope event]) := by
  rcases emit_of_open opened event with
    ⟨kept, droppedThrough, latestTurnId, latestTurnStart, room, emitted⟩
  have roomRetains := retains_makeRoomLocked { broker with sequence := broker.sequence + 1 }
    retained.retains event.kind
  rw [room] at roomRetains
  rw [emitted]
  refine ⟨roomRetains.push ?_, ?_⟩
  · simp [nextEnvelope, retained.sequence_eq]
  · simp [retained.sequence_eq]

theorem RetainsLog.of_not_emit (retained : broker.RetainsLog log)
    (notEmit : ∀ event, moved ≠ .emit event) :
    (broker.apply moved).RetainsLog log := by
  rcases broker.apply_of_not_emit notEmit with ⟨events, sequence, dropped, _, _⟩
  refine ⟨?_, sequence.trans retained.sequence_eq⟩
  rw [events, dropped]
  exact retained.retains

theorem emit_threadId (broker : SessionEventBroker Payload) (event : TurnEvent Payload) :
    (broker.emit event).1.threadId = broker.threadId ∧
      (broker.emit event).1.closed = broker.closed := by
  cases closed : broker.closed with
  | true => simp [emit_of_closed closed, closed]
  | false =>
    rcases emit_of_open closed event with ⟨_, _, _, _, _, emitted⟩
    simp [emitted, closed]

/-- The induction over a run: a closed broker accepts nothing more, an open one accepts up to the
next close. -/
theorem foldl_invariant
    {Inv : SessionEventBroker Payload → List (SessionEventEnvelope Payload) → Prop}
    (numbered : ∀ {broker log}, Inv broker log → broker.sequence = log.length)
    (emitted : ∀ {broker log}, Inv broker log → broker.closed = false → ∀ event,
      Inv (broker.emit event).1 (log ++ [broker.nextEnvelope event]))
    (kept : ∀ {broker log moved}, Inv broker log → (∀ event, moved ≠ .emit event) →
      Inv (broker.apply moved) log)
    (initial : Inv broker log) (sections : List (BrokerSection Payload)) :
    Inv (sections.foldl apply broker)
      (log ++ envelopesAfter broker.threadId log.length
        (if broker.closed then [] else acceptedEvents sections)) := by
  induction sections generalizing broker log with
  | nil => simpa [acceptedEvents, envelopesAfter] using initial
  | cons moved sections ih =>
    rw [List.foldl_cons]
    by_cases isEmit : ∃ event, moved = .emit event
    · rcases isEmit with ⟨event, rfl⟩
      have sameThread := (emit_threadId broker event).1
      have sameClosed := (emit_threadId broker event).2
      cases closed : broker.closed with
      | true =>
        have ignored := ih initial
        simpa [apply, emit_of_closed closed, closed] using ignored
      | false =>
        have rest := ih (emitted initial closed event)
        rw [sameThread, sameClosed, closed] at rest
        simpa [apply, acceptedEvents, envelopesAfter, nextEnvelope, numbered initial]
          using rest
    · have notEmit : ∀ event, moved ≠ .emit event := fun event same => isEmit ⟨event, same⟩
      have rest := ih (kept initial notEmit)
      rcases broker.apply_of_not_emit notEmit with ⟨_, _, _, thread, closed⟩
      rw [thread, closed] at rest
      have accepted : (if (broker.closed || moved.isClose) then [] else acceptedEvents sections) =
          if broker.closed then [] else acceptedEvents (moved :: sections) := by
        cases broker.closed with
        | true => simp
        | false =>
          cases moved <;> simp [BrokerSection.isClose, acceptedEvents] at notEmit ⊢
      rwa [accepted] at rest

theorem RetainsLog.foldl (retained : broker.RetainsLog log)
    (sections : List (BrokerSection Payload)) :
    (sections.foldl apply broker).RetainsLog
      (log ++ envelopesAfter broker.threadId log.length
        (if broker.closed then [] else acceptedEvents sections)) :=
  foldl_invariant RetainsLog.sequence_eq RetainsLog.emit (fun retained => retained.of_not_emit)
    retained sections

theorem retainsLog_new (threadId : Text) (maxEvents : ℤ) (hardCap : Option ℤ) (epoch : Text) :
    (new threadId maxEvents hardCap epoch : SessionEventBroker Payload).RetainsLog [] :=
  ⟨Retains.nil, rfl⟩

/-- After any sequence of sections, the buffer is what is retained of the history. -/
theorem retainsLog_history (threadId : Text) (maxEvents : ℤ) (hardCap : Option ℤ) (epoch : Text)
    (sections : List (BrokerSection Payload)) :
    (sections.foldl apply (new threadId maxEvents hardCap epoch)).RetainsLog
      (history threadId sections) := by
  simpa [new, history] using (retainsLog_new threadId maxEvents hardCap epoch).foldl sections

/-! ### Windows -/

theorem checkedCursorLocked_of_valid {cursor : ℤ} (nonneg : 0 ≤ cursor)
    (bounded : cursor ≤ broker.sequence) :
    broker.checkedCursorLocked (.int cursor) = .ok cursor.toNat := by
  simp only [checkedCursorLocked]
  rw [if_neg (by omega)]

theorem subscribeFrom_window {cursor : ℤ} (nonneg : 0 ≤ cursor)
    (bounded : cursor ≤ broker.sequence) (onClose : Bool) :
    ∃ registered subscription, broker.subscribeFrom (.int cursor) onClose =
      .ok (registered, broker.windowLocked cursor.toNat, subscription) := by
  unfold subscribeFrom
  rw [checkedCursorLocked_of_valid nonneg bounded]
  by_cases refused : broker.closed = true ∨ (broker.windowLocked cursor.toNat).gap = true
  · exact ⟨_, _, by simp [bind, Except.bind, pure, Except.pure, refused]; exact ⟨rfl, rfl⟩⟩
  · exact ⟨_, _, by simp [bind, Except.bind, pure, Except.pure, refused]; exact ⟨rfl, rfl⟩⟩

theorem RetainsLog.gap_iff (retained : broker.RetainsLog log) (cursor : ℕ) :
    (broker.windowLocked cursor).gap = true ↔
      ∃ envelope ∈ log, cursor < envelope.sequence ∧ envelope ∉ broker.events := by
  rw [← retained.retains.lt_watermark_iff cursor]
  simp [windowLocked]

theorem RetainsLog.window_events (retained : broker.RetainsLog log) {cursor : ℕ}
    (gapless : (broker.windowLocked cursor).gap = false) :
    (broker.windowLocked cursor).events = log.drop cursor := by
  apply retained.retains.filter_after
  simpa [windowLocked] using gapless

/-- Every window is honest about the history: it reports a gap exactly when some
event after the cursor is no longer retained, and without a gap it holds the
events after the cursor, each once and in order. -/
theorem readAfter_sound (threadId : Text) (maxEvents : ℤ) (hardCap : Option ℤ) (epoch : Text)
    (sections : List (BrokerSection Payload)) (cursor : ℤ) :
    let broker := sections.foldl apply (new threadId maxEvents hardCap epoch)
    let log := history threadId sections
    0 ≤ cursor → cursor ≤ broker.sequence →
    ∃ window,
      broker.readAfter (.int cursor) = .ok window ∧
      (∀ onClose, ∃ registered subscription,
        broker.subscribeFrom (.int cursor) onClose = .ok (registered, window, subscription)) ∧
      log.map (·.sequence) = List.range' 1 broker.sequence ∧
      (window.gap = false ↔
        ∀ envelope ∈ log, cursor < envelope.sequence → envelope ∈ broker.events) ∧
      (window.gap = false →
        window.events = log.drop cursor.toNat ∧
        window.events.map (·.sequence) =
          List.range' (cursor.toNat + 1) (broker.sequence - cursor.toNat)) ∧
      (window.gap = true →
        ∃ envelope ∈ log, cursor < envelope.sequence ∧ envelope ∉ broker.events) := by
  intro broker log nonneg bounded
  have retained : broker.RetainsLog log :=
    retainsLog_history threadId maxEvents hardCap epoch sections
  have gap_iff := retained.gap_iff cursor.toNat
  have below : ∀ number : ℕ, cursor.toNat < number ↔ cursor < number := by
    intro number
    omega
  simp only [below] at gap_iff
  refine ⟨broker.windowLocked cursor.toNat, ?_, subscribeFrom_window nonneg bounded, ?_, ?_, ?_, ?_⟩
  · simp [readAfter, checkedCursorLocked_of_valid nonneg bounded, bind, Except.bind, pure,
      Except.pure]
  · rw [retained.sequence_eq]
    exact retained.retains.numbered
  · rw [← Bool.not_eq_true, gap_iff]
    push Not
    rfl
  · intro gapless
    have events := retained.window_events gapless
    refine ⟨events, ?_⟩
    rw [events, retained.sequence_eq]
    exact retained.retains.numbered.map_drop cursor.toNat
  · exact gap_iff.mp

/-- A preview event among tool events: with a bound of 16, the seventeenth event
evicts the preview event, the third one, from the middle of the buffer. -/
def middleEviction : List (BrokerSection Unit) :=
  let emitted (kind : TurnEventKind) : BrokerSection Unit := .emit ⟨1, [], [], 0, kind, ()⟩
  List.replicate 2 (emitted .toolStarted) ++ [emitted .answerDelta] ++
    List.replicate 14 (emitted .toolStarted)

theorem readAfter_sound_middleEviction :
    ∃ window,
      (middleEviction.foldl apply (new [] 16 none [])).readAfter (.int 3) = .ok window ∧
        window.events.map (·.sequence) = List.range' 4 14 := by
  obtain ⟨window, read, _, _, _, complete, _⟩ :=
    readAfter_sound [] 16 none [] middleEviction 3 (by decide) (by decide)
  have evaluated : ((middleEviction.foldl apply (new [] 16 none [])).readAfter
      (.int 3)).toOption.map (·.gap) = some false := by decide
  rw [read] at evaluated
  exact ⟨window, read, (complete (Option.some.inj evaluated)).2⟩

end SessionEventBroker

end Synapse
