import Synapse.Sessions.SingleDrainer

/-!
# The registry against the history of registrations

The broker keeps the live subscribers only. The history remembers every
registration with the stretch of accepted events it is served, so that later
statements can speak about subscriptions that have ended. `Recorded` ties the
two together: the live subscribers are the registrations that have not ended,
identifiers count the registrations, and each window handed out without a gap
is the history between its cursor and its registration.
-/

namespace Synapse

open List

namespace Registration

variable {Payload : Type}

/-- The latest sequence this registration is served up to. -/
def last (registration : Registration Payload) (latest : ℕ) : ℕ :=
  (registration.ended.map Prod.fst).getD latest

/-- The broker's close ended this registration. -/
def endedByBroker (registration : Registration Payload) : Bool :=
  (registration.ended.map Prod.snd).getD false

variable (ends : ℕ → Bool) (latest : ℕ) (byBroker : Bool) (registration : Registration Payload)

@[simp]
theorem endIf_record : (registration.endIf ends latest byBroker).record = registration.record := by
  unfold endIf
  split <;> rfl

@[simp]
theorem endIf_cursor : (registration.endIf ends latest byBroker).cursor = registration.cursor := by
  unfold endIf
  split <;> rfl

@[simp]
theorem endIf_window : (registration.endIf ends latest byBroker).window = registration.window := by
  unfold endIf
  split <;> rfl

@[simp]
theorem endIf_forwarded :
    (registration.endIf ends latest byBroker).forwarded = registration.forwarded := by
  unfold endIf
  split <;> rfl

@[simp]
theorem endIf_start : (registration.endIf ends latest byBroker).start = registration.start := by
  unfold endIf
  split <;> rfl

/-- Ending at the latest sequence does not change what has been served so far. -/
@[simp]
theorem endIf_last : (registration.endIf ends latest byBroker).last latest =
    registration.last latest := by
  unfold endIf
  split
  case isTrue live => simp [last, live.1]
  case isFalse => rfl

/-- The registrations left live are those that were live and not selected. -/
theorem live_map_endIf (registrations : List (Registration Payload)) :
    ((registrations.map (endIf ends latest byBroker)).filter fun registration =>
        registration.ended.isNone).map (·.record) =
      ((registrations.filter fun registration => registration.ended.isNone).map
        (·.record)).filter fun record => !ends record.id := by
  induction registrations with
  | nil => rfl
  | cons registration registrations ih =>
    cases ended : registration.ended with
    | some last => simpa [endIf, ended] using ih
    | none =>
      cases selected : ends registration.record.id with
      | true => simpa [endIf, ended, selected] using ih
      | false => simpa [endIf, ended, selected] using ih

end Registration

namespace DispatchWorld

variable {Payload : Type}

/-- The broker's registry and buffer are those of the recorded history. -/
structure Recorded (world : DispatchWorld Payload) : Prop where
  retained : world.broker.RetainsLog world.history.accepted
  numbered : Numbered (fun registration => registration.record.id) world.history.registrations
  next_eq : world.broker.nextSubscriptionId = world.history.registrations.length
  subscribers_eq : world.broker.subscribers =
    (world.history.registrations.filter fun registration => registration.ended.isNone).map
      (·.record)
  served : ∀ registration ∈ world.history.registrations,
    registration.start ≤ registration.last world.history.accepted.length ∧
      registration.last world.history.accepted.length ≤ world.history.accepted.length
  windowed : ∀ registration ∈ world.history.registrations, ∀ checked,
    registration.cursor = some checked →
      checked ≤ registration.start ∧ registration.forwarded = [] ∧
        registration.window = (world.history.accepted.take registration.start).drop checked
  opened : world.broker.closed = false →
    ∀ registration ∈ world.history.registrations, registration.endedByBroker = false
  closed : world.broker.closed = true →
    ∀ registration ∈ world.history.registrations, registration.ended ≠ none

namespace Recorded

variable {world : DispatchWorld Payload} {registration : Registration Payload}

theorem id_le (recorded : world.Recorded)
    (registered : registration ∈ world.history.registrations) :
    registration.record.id ≤ world.history.registrations.length :=
  recorded.numbered.number_le registered

theorem subscribers_nodup (recorded : world.Recorded) :
    (world.broker.subscribers.map SubscriberRecord.id).Nodup := by
  have distinct : (world.history.registrations.map fun registration =>
      registration.record.id).Nodup := by
    rw [recorded.numbered]
    exact nodup_range'
  rw [recorded.subscribers_eq, map_map]
  exact distinct.sublist (List.filter_sublist.map _)

/-- A registration is live exactly when its identifier is among the subscribers'. -/
theorem mem_subscribers_iff (recorded : world.Recorded)
    (registered : registration ∈ world.history.registrations) :
    registration.record.id ∈ world.broker.subscribers.map SubscriberRecord.id ↔
      registration.ended = none := by
  have distinct : (world.history.registrations.map fun registration =>
      registration.record.id).Nodup := by
    rw [recorded.numbered]
    exact nodup_range'
  rw [recorded.subscribers_eq]
  simp only [map_map, mem_map, mem_filter, Option.isNone_iff_eq_none,
    Function.comp_apply]
  constructor
  · rintro ⟨other, ⟨present, live⟩, same⟩
    rwa [← inj_on_of_nodup_map distinct present registered same]
  · intro live
    exact ⟨registration, ⟨registered, live⟩, rfl⟩

theorem subscriber_id_le (recorded : world.Recorded) {id : ℕ}
    (subscribed : id ∈ world.broker.subscribers.map SubscriberRecord.id) :
    id ≤ world.history.registrations.length := by
  rw [recorded.subscribers_eq] at subscribed
  simp only [map_map, mem_map, mem_filter, Function.comp_apply] at subscribed
  rcases subscribed with ⟨registration, ⟨registered, _⟩, rfl⟩
  exact recorded.id_le registered

theorem endRegistrations {next : DispatchWorld Payload} (recorded : world.Recorded)
    (ends : ℕ → Bool) (byBroker : Bool) (events : next.broker.events = world.broker.events)
    (sequence : next.broker.sequence = world.broker.sequence)
    (dropped : next.broker.droppedThrough = world.broker.droppedThrough)
    (count : next.broker.nextSubscriptionId = world.broker.nextSubscriptionId)
    (subscribers : next.broker.subscribers =
      world.broker.subscribers.filter fun record => !ends record.id)
    (history : next.history = world.endRegistrations ends byBroker)
    (openedOnly : next.broker.closed = false → world.broker.closed = false ∧ byBroker = false)
    (closedOnly : next.broker.closed = true → world.broker.closed = true ∨ ∀ id, ends id = true) :
    next.Recorded := by
  have latest : world.broker.sequence = world.history.accepted.length :=
    recorded.retained.sequence_eq
  have accepted : next.history.accepted = world.history.accepted := by rw [history]; rfl
  have registrations : next.history.registrations = world.history.registrations.map
      (Registration.endIf ends world.history.accepted.length byBroker) := by
    rw [history, ← latest]; rfl
  refine ⟨⟨?_, ?_⟩, ?_, ?_, ?_, ?_, ?_, ?_, ?_⟩
  · rw [events, dropped, accepted]
    exact recorded.retained.retains
  · rw [sequence, accepted, latest]
  · rw [registrations]
    simpa [Numbered, Function.comp_def] using recorded.numbered
  · rw [count, registrations, length_map, recorded.next_eq]
  · rw [subscribers, registrations, Registration.live_map_endIf, recorded.subscribers_eq]
  · rw [registrations, accepted]
    simpa using recorded.served
  · rw [registrations, accepted]
    simpa using recorded.windowed
  · intro stillOpen
    rcases openedOnly stillOpen with ⟨wasOpen, rfl⟩
    have live := recorded.opened wasOpen
    rw [registrations]
    simp only [mem_map, forall_exists_index, and_imp, forall_apply_eq_imp_iff₂]
    intro registration registered
    unfold Registration.endIf
    split
    · rfl
    · exact live registration registered
  · intro nowClosed
    rw [registrations]
    simp only [mem_map, forall_exists_index, and_imp, forall_apply_eq_imp_iff₂]
    intro registration registered
    unfold Registration.endIf
    split
    case isTrue => simp
    case isFalse notEnded =>
      rcases closedOnly nowClosed with wasClosed | all
      · exact recorded.closed wasClosed registration registered
      · simpa [all] using notEnded

theorem called {world next : DispatchWorld Payload} {thread : ℕ}
    {method : BrokerSection Payload} (recorded : world.Recorded)
    (called : Called world thread method next) : next.Recorded := by
  have latest : world.broker.sequence = world.history.accepted.length :=
    recorded.retained.sequence_eq
  cases called with
  | ignored => exact recorded
  | accepted event events droppedThrough latestTurnId latestTurnStart opened keeps =>
    refine ⟨⟨?_, ?_⟩, ?_, ?_, ?_, ?_, ?_, ?_, ?_⟩ <;> simp only [enter_broker, enter_history]
    · exact keeps _ recorded.retained
    · simp [latest]
    · exact recorded.numbered
    · exact recorded.next_eq
    · exact recorded.subscribers_eq
    · intro registration registered
      have served := recorded.served registration registered
      cases ended : registration.ended with
      | none => simp_all [Registration.last]; omega
      | some last => simp_all [Registration.last]; omega
    · intro registration registered checked cursor
      have served := recorded.served registration registered
      rw [take_append_of_le_length (by omega)]
      exact recorded.windowed registration registered checked cursor
    · exact recorded.opened
    · exact recorded.closed
  | registered _ onClose cursor window forwarded opened gapless =>
    refine ⟨⟨?_, ?_⟩, ?_, ?_, ?_, ?_, ?_, ?_, ?_⟩ <;> simp only [enter_broker, enter_history]
    · exact recorded.retained.retains
    · exact recorded.retained.sequence_eq
    · apply recorded.numbered.append_singleton
      simp [SessionEventBroker.nextRecord, recorded.next_eq]
    · simp [recorded.next_eq]
    · simp [recorded.subscribers_eq]
    · intro registration registered
      simp only [mem_append, mem_singleton] at registered
      rcases registered with registered | rfl
      · exact recorded.served registration registered
      · simp [Registration.last, latest]
    · intro registration registered checked given
      simp only [mem_append, mem_singleton] at registered
      rcases registered with registered | rfl
      · exact recorded.windowed registration registered checked given
      · rcases gapless checked given with ⟨forwarded, bounded, gap, window⟩
        refine ⟨bounded, forwarded, ?_⟩
        rw [window, recorded.retained.window_events gap, latest, take_length]
    · intro _ registration registered
      simp only [mem_append, mem_singleton] at registered
      rcases registered with registered | rfl
      · exact recorded.opened opened registration registered
      · rfl
    · simp [opened]
  | unsubscribed id known live =>
    refine recorded.endRegistrations (· = id) false rfl rfl rfl rfl ?_ rfl ?_ ?_
    · simp
    · exact fun opened => ⟨opened, rfl⟩
    · exact fun closed => Or.inl closed
  | closed opened =>
    refine recorded.endRegistrations (fun _ => true) true ?_ ?_ ?_ ?_ ?_ ?_ ?_ ?_ <;> simp

theorem moved {next : DispatchWorld Payload} {thread : ℕ}
    {state : DrainerState Payload} {label : DispatchLabel Payload} (recorded : world.Recorded)
    (moved : Moved world thread state label next) : next.Recorded := by
  -- No move of a drainer touches the registry, the buffer or what was accepted.
  cases moved <;>
    exact { recorded with retained := ⟨recorded.retained.retains, recorded.retained.sequence_eq⟩ }

theorem new (threadId : Text) (maxEvents : ℤ) (hardCap : Option ℤ) (epoch : Text) :
    (DispatchWorld.new threadId maxEvents hardCap epoch : DispatchWorld Payload).Recorded := by
  refine ⟨SessionEventBroker.retainsLog_new threadId maxEvents hardCap epoch, Numbered.nil, rfl,
    rfl, ?_, ?_, ?_, ?_⟩ <;> simp [DispatchWorld.new]

end Recorded

end DispatchWorld

end Synapse
