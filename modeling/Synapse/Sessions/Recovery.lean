import Synapse.Sessions.Retention

/-!
# Recovery state of the broker

`recovery_state` describes the newest turn by five numbers, and a client decides from them where to
watch from. This file relates the numbers to the history: which events of the newest turn the start
sequence leaves out, and which of its events are still retained.
-/

namespace Synapse

open List

/-- Live-stream identity and retention bounds for one broker instance. -/
structure BrokerRecoveryState where
  epoch : Text
  latestSequence : ℕ
  oldestSequence : ℕ
  droppedThrough : ℕ
  latestTurnId : Option Text
  latestTurnStart : Option ℕ
  latestTurnRetainedFrom : Option ℕ
  latestTurnIntact : Bool
  deriving DecidableEq, Repr

/-- No turn has events on both sides of another turn's event. -/
def SerialTurns {Payload : Type} (log : List (SessionEventEnvelope Payload)) : Prop :=
  ∀ first ∈ log, ∀ second ∈ log, ∀ third ∈ log,
    first.sequence < second.sequence → second.sequence < third.sequence →
      first.turnId = third.turnId → second.turnId = first.turnId

instance {Payload : Type} (log : List (SessionEventEnvelope Payload)) :
    Decidable (SerialTurns log) :=
  inferInstanceAs (Decidable (∀ first ∈ log, ∀ second ∈ log, ∀ third ∈ log, _))

namespace SessionEventBroker

variable {Payload : Type}

/-- The earliest retained sequence of a turn. -/
def firstRetainedSequenceFor (broker : SessionEventBroker Payload) (turnId : Text) : Option ℕ :=
  (broker.events.find? fun envelope => envelope.turnId = turnId).map (·.sequence)

def recoveryState (broker : SessionEventBroker Payload) : BrokerRecoveryState :=
  let retainedFrom := broker.latestTurnId.bind broker.firstRetainedSequenceFor
  { epoch := broker.epoch
    latestSequence := broker.sequence
    oldestSequence := (broker.events.head?.map (·.sequence)).getD broker.sequence
    droppedThrough := broker.droppedThrough
    latestTurnId := broker.latestTurnId
    latestTurnStart := broker.latestTurnStart
    latestTurnRetainedFrom := retainedFrom
    latestTurnIntact :=
      match broker.latestTurnStart with
      | some start => retainedFrom.isSome && broker.droppedThrough < start
      | none => false }

/-! ### What the sections do to the newest turn -/

theorem emit_turn {broker : SessionEventBroker Payload} (opened : broker.closed = false)
    (event : TurnEvent Payload) :
    (broker.emit event).1.latestTurnId = some event.turnId ∧
      (broker.emit event).1.latestTurnStart =
        (if some event.turnId = broker.latestTurnId then broker.latestTurnStart
          else some (broker.sequence + 1)) ∧
      (broker.emit event).1.epoch = broker.epoch := by
  rcases makeRoomLocked_eq { broker with sequence := broker.sequence + 1 } event.kind with
    ⟨kept, droppedThrough, room⟩
  unfold emit
  rw [if_neg (by simp [opened])]
  simp only [room, nextEnvelope]
  by_cases sameTurn : some event.turnId = broker.latestTurnId
  · rw [if_pos sameTurn]
    cases subscribers : broker.subscribers <;> cases dispatching : broker.dispatching <;>
      simp [claimLocked, sameTurn]
  · rw [if_neg sameTurn]
    cases subscribers : broker.subscribers <;> cases dispatching : broker.dispatching <;>
      simp [claimLocked, sameTurn]

theorem apply_turn_of_not_emit (broker : SessionEventBroker Payload)
    {moved : BrokerSection Payload} (notEmit : ∀ event, moved ≠ .emit event) :
    (broker.apply moved).latestTurnId = broker.latestTurnId ∧
      (broker.apply moved).latestTurnStart = broker.latestTurnStart ∧
      (broker.apply moved).epoch = broker.epoch := by
  rcases broker.apply_eq_of_not_emit notEmit with ⟨_, _, _, _, _, _, _, _, same⟩
  rw [same]
  exact ⟨rfl, rfl, rfl⟩

theorem emit_retains (broker : SessionEventBroker Payload) (opened : broker.closed = false)
    (event : TurnEvent Payload) : broker.nextEnvelope event ∈ (broker.emit event).1.events := by
  rcases emit_of_open opened event with ⟨kept, _, _, _, -, emitted⟩
  rw [emitted]
  exact mem_append_right _ (mem_singleton_self _)

/-! ### The newest turn against the history -/

/-- What the broker knows of its newest turn: the last run of events with its id, where that run
begins, and that the last event is retained. -/
structure TracksTurn (broker : SessionEventBroker Payload)
    (log : List (SessionEventEnvelope Payload)) : Prop where
  retained : broker.RetainsLog log
  unknown : broker.latestTurnId = none → log = []
  newest : ∀ turn, broker.latestTurnId = some turn →
    ∃ envelope ∈ log, envelope.turnId = turn ∧ envelope ∈ broker.events
  start : ∀ turn, broker.latestTurnId = some turn →
    ∃ start, broker.latestTurnStart = some start ∧ 0 < start ∧ start ≤ log.length ∧
      (∀ envelope ∈ log, start ≤ envelope.sequence → envelope.turnId = turn) ∧
      ∀ envelope ∈ log, envelope.sequence + 1 = start → envelope.turnId ≠ turn

variable {broker : SessionEventBroker Payload} {log : List (SessionEventEnvelope Payload)}

namespace TracksTurn

theorem emit (tracks : broker.TracksTurn log) (opened : broker.closed = false)
    (event : TurnEvent Payload) :
    (broker.emit event).1.TracksTurn (log ++ [broker.nextEnvelope event]) := by
  have length := tracks.retained.sequence_eq
  have bounded : ∀ envelope ∈ log, envelope.sequence ≤ log.length := fun envelope present =>
    tracks.retained.retains.numbered.number_le present
  rcases emit_turn opened event with ⟨latest, started, -⟩
  refine ⟨tracks.retained.emit opened event, by simp [latest], ?_, ?_⟩
  · intro turn same
    rw [latest] at same
    exact ⟨broker.nextEnvelope event, by simp, Option.some.inj same,
      broker.emit_retains opened event⟩
  · intro turn same
    rw [latest] at same
    cases same
    rw [started]
    by_cases sameTurn : some event.turnId = broker.latestTurnId
    · -- The run goes on.
      rcases tracks.start event.turnId sameTurn.symm with ⟨start, known, positive, le, run, before⟩
      rw [if_pos sameTurn]
      refine ⟨start, known, positive, le.trans (by simp), ?_, ?_⟩
      · intro envelope present after
        rcases mem_append.1 present with old | new
        · exact run envelope old after
        · rw [mem_singleton.1 new]
          rfl
      · intro envelope present just
        rcases mem_append.1 present with old | new
        · exact before envelope old just
        · rw [mem_singleton.1 new] at just
          simp only [nextEnvelope] at just
          omega
    · -- A new run begins with this event.
      rw [if_neg sameTurn]
      refine ⟨broker.sequence + 1, rfl, by omega, by simp [length], ?_, ?_⟩
      · intro envelope present after
        rcases mem_append.1 present with old | new
        · have := bounded envelope old
          omega
        · rw [mem_singleton.1 new]
          rfl
      · intro envelope present just same
        rcases mem_append.1 present with old | new
        · cases known : broker.latestTurnId with
          | none => simp [tracks.unknown known] at old
          | some turn =>
            rcases tracks.start turn known with ⟨start, -, -, le, run, -⟩
            have ofTurn := run envelope old (by omega)
            exact sameTurn (by rw [known, ← ofTurn, same])
        · rw [mem_singleton.1 new] at just
          simp only [nextEnvelope] at just
          omega

theorem of_not_emit (tracks : broker.TracksTurn log) {moved : BrokerSection Payload}
    (notEmit : ∀ event, moved ≠ .emit event) : (broker.apply moved).TracksTurn log := by
  rcases broker.apply_of_not_emit notEmit with ⟨events, -⟩
  rcases broker.apply_turn_of_not_emit notEmit with ⟨latest, started, -⟩
  refine ⟨tracks.retained.of_not_emit notEmit, ?_, ?_, ?_⟩
  · rw [latest]
    exact tracks.unknown
  · rw [latest, events]
    exact tracks.newest
  · rw [latest, started]
    exact tracks.start

end TracksTurn

theorem tracksTurn_new (threadId : Text) (maxEvents : ℤ) (hardCap : Option ℤ) (epoch : Text) :
    (new threadId maxEvents hardCap epoch : SessionEventBroker Payload).TracksTurn [] :=
  ⟨retainsLog_new threadId maxEvents hardCap epoch, fun _ => rfl, nofun, nofun⟩

theorem tracksTurn_history (threadId : Text) (maxEvents : ℤ) (hardCap : Option ℤ) (epoch : Text)
    (sections : List (BrokerSection Payload)) :
    (sections.foldl apply (new threadId maxEvents hardCap epoch)).TracksTurn
      (history threadId sections) := by
  have tracked := foldl_invariant (fun tracks => tracks.retained.sequence_eq)
    TracksTurn.emit (fun tracks => tracks.of_not_emit)
    (@tracksTurn_new Payload threadId maxEvents hardCap epoch) sections
  simpa [new, history] using tracked

/-! ### What a client reads from the numbers -/

theorem firstRetainedSequenceFor_eq_some {turn : Text} {sequence : ℕ}
    (retained : broker.RetainsLog log)
    (found : broker.firstRetainedSequenceFor turn = some sequence) :
    (∃ envelope ∈ broker.events, envelope.turnId = turn ∧ envelope.sequence = sequence) ∧
      ∀ envelope ∈ broker.events, envelope.turnId = turn → sequence ≤ envelope.sequence := by
  unfold firstRetainedSequenceFor at found
  rw [Option.map_eq_some_iff] at found
  rcases found with ⟨first, found, rfl⟩
  have present := mem_of_find?_eq_some found
  have ofTurn := find?_some found
  rw [decide_eq_true_eq] at ofTurn
  refine ⟨⟨first, present, ofTurn, rfl⟩, ?_⟩
  intro envelope kept same
  rw [find?_eq_some_iff_append] at found
  rcases found with ⟨-, before, after, split, others⟩
  have ordered := retained.retains.numbered.pairwise.sublist retained.retains.kept_sublist
  rw [split, pairwise_append, pairwise_cons] at ordered
  rw [split, mem_append, mem_cons] at kept
  rcases kept with early | rfl | late
  · have other := others envelope early
    simp [same] at other
  · exact le_rfl
  · exact (ordered.2.1.1 envelope late).le

variable {cursor : ℤ}

theorem readAfter_of_valid (nonneg : 0 ≤ cursor) (bounded : cursor ≤ broker.sequence) :
    broker.readAfter (.int cursor) = .ok (broker.windowLocked cursor.toNat) := by
  simp [readAfter, checkedCursorLocked_of_valid nonneg bounded, bind, Except.bind, pure, Except.pure]

/-- Reading at a cursor between the watermark and the newest event. -/
theorem RetainsLog.readAfter_gapless (retained : broker.RetainsLog log)
    (above : (broker.droppedThrough : ℤ) ≤ cursor) (bounded : cursor ≤ broker.sequence) :
    ∃ window, broker.readAfter (.int cursor) = .ok window ∧ window.gap = false ∧
      ∀ envelope ∈ log, cursor < envelope.sequence → envelope ∈ window.events := by
  refine ⟨broker.windowLocked cursor.toNat, readAfter_of_valid (by omega) bounded, ?_, ?_⟩
  · simp only [windowLocked, decide_eq_false_iff_not]
    omega
  · intro envelope present after
    have kept : envelope ∈ broker.events := by
      by_contra absent
      have missing := retained.retains.missing_le envelope present absent
      omega
    simp only [windowLocked, mem_filter, decide_eq_true_eq]
    exact ⟨kept, by omega⟩

/-- A window without a gap shows events after the watermark only. -/
theorem lt_of_mem_window {window : SessionEventWindow Payload}
    {envelope : SessionEventEnvelope Payload}
    (read : broker.readAfter (.int cursor) = .ok window) (gapless : window.gap = false)
    (shown : envelope ∈ window.events) : broker.droppedThrough < envelope.sequence := by
  simp only [readAfter, checkedCursorLocked] at read
  split at read
  · cases read
  · cases read
    simp only [windowLocked, decide_eq_false_iff_not] at gapless
    simp only [windowLocked, mem_filter, decide_eq_true_eq] at shown
    omega

namespace TracksTurn

variable {turn : Text}

theorem retainedFrom (tracks : broker.TracksTurn log) (latest : broker.latestTurnId = some turn) :
    ∃ sequence, broker.firstRetainedSequenceFor turn = some sequence ∧ 0 < sequence := by
  rcases tracks.newest turn latest with ⟨envelope, -, same, kept⟩
  have some : (broker.events.find? fun envelope => envelope.turnId = turn).isSome := by
    rw [find?_isSome]
    exact ⟨envelope, kept, by simpa using same⟩
  rcases Option.isSome_iff_exists.1 some with ⟨first, found⟩
  have logged := tracks.retained.retains.kept_sublist.subset (mem_of_find?_eq_some found)
  refine ⟨first.sequence, by rw [firstRetainedSequenceFor, found]; rfl, ?_⟩
  exact tracks.retained.retains.numbered.number_pos logged

variable {envelope : SessionEventEnvelope Payload} {start : ℕ}

/-- Where turns are serial, no event of the newest turn is before its start. -/
theorem start_le (tracks : broker.TracksTurn log) (serial : SerialTurns log)
    (latest : broker.latestTurnId = some turn) (known : broker.latestTurnStart = some start)
    (present : envelope ∈ log) (same : envelope.turnId = turn) : start ≤ envelope.sequence := by
  rcases tracks.start turn latest with ⟨other, again, positive, le, run, before⟩
  cases known.symm.trans again
  by_contra early
  have numbered := tracks.retained.retains.numbered
  have numbering := numbered.number_pos present
  -- The first event of the run, and the event just before it.
  rcases numbered.exists_number positive le with ⟨first, firstLogged, atStart⟩
  have previous : ∃ entry ∈ log, entry.sequence = start - 1 :=
    numbered.exists_number (by omega) (by omega)
  rcases previous with ⟨last, lastLogged, atLast⟩
  have different := before last lastLogged (by omega)
  rcases Nat.lt_or_ge envelope.sequence (start - 1) with earlier | later
  · apply different
    rw [← same]
    refine serial envelope present last lastLogged first firstLogged (by omega) (by omega) ?_
    rw [same, run first firstLogged atStart.ge]
  · have adjacent : envelope.sequence = last.sequence := by omega
    exact different (numbered.eq_of_number present lastLogged adjacent ▸ same)

theorem latestTurnId_eq (tracks : broker.TracksTurn log) :
    broker.latestTurnId = log.getLast?.map (·.turnId) := by
  cases known : broker.latestTurnId with
  | none => simp [tracks.unknown known]
  | some turn =>
    rcases tracks.start turn known with ⟨start, -, positive, le, run, -⟩
    have nonempty : log ≠ [] := by
      rintro rfl
      simp only [length_nil] at le
      omega
    have inside : log.length - 1 < log.length := by omega
    have number := tracks.retained.retains.numbered.number_getElem (log.length - 1) inside
    rw [getLast?_eq_some_getLast nonempty, getLast_eq_getElem, Option.map_some]
    refine congrArg some (run _ (getElem_mem inside) ?_).symm
    rw [number]
    omega

/-- Where turns are serial, the events of the newest turn are those from its start on. -/
theorem turnId_eq_iff (tracks : broker.TracksTurn log) (serial : SerialTurns log)
    (latest : broker.latestTurnId = some turn) (known : broker.latestTurnStart = some start)
    (present : envelope ∈ log) : envelope.turnId = turn ↔ start ≤ envelope.sequence := by
  refine ⟨tracks.start_le serial latest known present, ?_⟩
  rcases tracks.start turn latest with ⟨other, again, -, -, run, -⟩
  cases known.symm.trans again
  exact run envelope present

/-- The watermark is below the start exactly when the whole turn is retained. -/
theorem intact_iff (tracks : broker.TracksTurn log) (serial : SerialTurns log)
    (latest : broker.latestTurnId = some turn) (known : broker.latestTurnStart = some start) :
    broker.recoveryState.latestTurnIntact = true ↔
      ∀ envelope ∈ log, envelope.turnId = turn → envelope ∈ broker.events := by
  rcases tracks.retainedFrom latest with ⟨retainedFrom, found, -⟩
  have intact : broker.recoveryState.latestTurnIntact = true ↔ broker.droppedThrough < start := by
    simp [recoveryState, known, latest, found]
  rw [intact]
  have retains := tracks.retained.retains
  constructor
  · intro below envelope present same
    have later := (tracks.turnId_eq_iff serial latest known present).1 same
    by_contra absent
    have missing := retains.missing_le envelope present absent
    omega
  · intro whole
    rcases tracks.start turn latest with ⟨other, again, positive, -⟩
    cases known.symm.trans again
    rcases retains.watermark_missing with zero | ⟨envelope, present, absent, atMark⟩
    · omega
    · by_contra above
      have same := (tracks.turnId_eq_iff serial latest known present).2 (by omega)
      exact absent (whole envelope present same)

end TracksTurn

/-- The recovery state of a broker with serial turns says where the newest turn starts and whether
all of it is retained; if so, reading at the start returns the turn. -/
theorem recoveryState_truthful (threadId : Text) (maxEvents : ℤ) (hardCap : Option ℤ)
    (epoch : Text) (sections : List (BrokerSection Payload)) :
    let broker := sections.foldl apply (new threadId maxEvents hardCap epoch)
    let log := history threadId sections
    let state := broker.recoveryState
    SerialTurns log →
    state.latestTurnId = log.getLast?.map (·.turnId) ∧
      (∀ turn, state.latestTurnId = some turn →
        ∃ start, state.latestTurnStart = some start ∧
          (∃ first ∈ log, first.turnId = turn ∧ first.sequence = start) ∧
          (∀ envelope ∈ log, envelope.turnId = turn → start ≤ envelope.sequence) ∧
          (state.latestTurnIntact = true ↔
            ∀ envelope ∈ log, envelope.turnId = turn → envelope ∈ broker.events) ∧
          (state.latestTurnIntact = true →
            ∃ window, broker.readAfter (.int ((start : ℤ) - 1)) = .ok window ∧
              window.gap = false ∧
              window.events = log.filter fun envelope => envelope.turnId = turn)) ∧
      (∀ envelope ∈ log, envelope ∉ broker.events → envelope.sequence ≤ state.droppedThrough) ∧
      (state.droppedThrough = 0 ∨
        ∃ envelope ∈ log, envelope ∉ broker.events ∧
          envelope.sequence = state.droppedThrough) := by
  intro broker log state serial
  have tracks : broker.TracksTurn log :=
    tracksTurn_history threadId maxEvents hardCap epoch sections
  have retains := tracks.retained.retains
  refine ⟨tracks.latestTurnId_eq, ?_, retains.missing_le, retains.watermark_missing⟩
  intro turn latest
  rcases tracks.start turn latest with ⟨start, known, positive, le, run, -⟩
  have intact := tracks.intact_iff serial latest known
  refine ⟨start, known, ?_, ?_, intact, ?_⟩
  · rcases retains.numbered.exists_number positive le with ⟨first, present, atStart⟩
    exact ⟨first, present, run first present atStart.ge, atStart⟩
  · intro envelope present same
    exact tracks.start_le serial latest known present same
  · intro whole
    have length := tracks.retained.sequence_eq
    have gapless : (broker.windowLocked (start - 1)).gap = false := by
      rw [← Bool.not_eq_true, tracks.retained.gap_iff]
      rintro ⟨envelope, present, after, absent⟩
      exact absent (intact.1 whole envelope present (run envelope present (by omega)))
    refine ⟨broker.windowLocked (start - 1), ?_, gapless, ?_⟩
    · have cursor : ((start : ℤ) - 1).toNat = start - 1 := by omega
      have bounded : (start : ℤ) - 1 ≤ broker.sequence := by omega
      rw [readAfter_of_valid (by omega) bounded, cursor]
    · rw [tracks.retained.window_events gapless, ← retains.numbered.filter_after]
      refine List.filter_congr fun envelope present => ?_
      rw [decide_eq_decide, tracks.turnId_eq_iff serial latest known present]
      omega

/-- A turn of two events, and one event of the next turn. -/
def twoTurns : List (BrokerSection Unit) :=
  let emitted (turnId : Text) (kind : TurnEventKind) : BrokerSection Unit :=
    .emit ⟨1, [], turnId, 0, kind, ()⟩
  [emitted [1] .toolStarted, emitted [1] .turnCompleted, emitted [2] .toolStarted]

theorem recoveryState_truthful_twoTurns :
    ∃ window, (twoTurns.foldl apply (new [] 16 none [])).readAfter (.int 2) = .ok window ∧
      window.gap = false ∧ window.events.map (·.sequence) = [3] := by
  have truthful := recoveryState_truthful [] 16 none [] twoTurns (by decide)
  rcases truthful.2.1 [2] (by decide) with ⟨start, started, -, -, -, replay⟩
  have third : start = 3 := Option.some.inj (started.symm.trans (by decide))
  subst third
  rcases replay (by decide) with ⟨window, read, gapless, events⟩
  exact ⟨window, read, gapless, by rw [events]; decide⟩

end SessionEventBroker

end Synapse
