import Synapse.Sessions.Retention

/-!
# Eviction under preview pressure

The buffer may grow past its bound with lossless events, up to the hard cap. This file proves the
cap over whole runs and says which emits evict a lossless event before the cap is reached.
-/

namespace Synapse.SessionEventBroker

open List

variable {Payload : Type} {broker : SessionEventBroker Payload} {event : TurnEvent Payload}
  {log : List (SessionEventEnvelope Payload)}

/-- The bounds of a broker, and that its buffer keeps the outer one. -/
structure Bounded (broker : SessionEventBroker Payload) : Prop where
  positive : 0 < broker.maxEvents
  cap : broker.maxEvents ≤ broker.hardCap
  length_le : broker.events.length ≤ broker.hardCap

theorem bounded_new (threadId : Text) (maxEvents : ℤ) (hardCap : Option ℤ) (epoch : Text) :
    (new threadId maxEvents hardCap epoch : SessionEventBroker Payload).Bounded := by
  refine ⟨?_, ?_, Nat.zero_le _⟩
  · simp only [new]
    omega
  · simp only [new]
    cases hardCap with
    | none =>
      dsimp only
      omega
    | some cap =>
      dsimp only
      omega

theorem makeRoomLocked_length (bounded : broker.Bounded) (incoming : TurnEventKind) :
    (broker.makeRoomLocked incoming).events.length + 1 ≤ broker.hardCap := by
  have positive := bounded.positive
  have cap := bounded.cap
  have length := bounded.length_le
  have evicted : ∀ index < broker.events.length,
      (broker.evictLocked index).events.length + 1 ≤ broker.hardCap := by
    intro index inside
    simp only [evictLocked, getElem?_eq_getElem inside, length_eraseIdx, inside, if_true]
    omega
  unfold makeRoomLocked
  split
  · omega
  · split
    case h_1 index found => exact evicted index (findIdx?_eq_some_iff_getElem.1 found).1
    case h_2 =>
        split
        · exact evicted 0 (by omega)
        · omega

theorem Bounded.emit (bounded : broker.Bounded) (event : TurnEvent Payload) :
    (broker.emit event).1.Bounded := by
  cases closed : broker.closed with
  | true =>
    rw [emit_of_closed closed]
    exact bounded
  | false =>
    rcases emit_of_open closed event with ⟨kept, _, _, _, room, emitted⟩
    have roomy : ({ broker with sequence := broker.sequence + 1 } :
        SessionEventBroker Payload).Bounded := ⟨bounded.positive, bounded.cap, bounded.length_le⟩
    have length := makeRoomLocked_length roomy event.kind
    rw [room] at length
    rw [emitted]
    exact ⟨bounded.positive, bounded.cap, by simpa using length⟩

/-- One section keeps the bounds, and changes neither of them. -/
theorem Bounded.apply (bounded : broker.Bounded) (moved : BrokerSection Payload) :
    (broker.apply moved).Bounded ∧ (broker.apply moved).hardCap = broker.hardCap := by
  by_cases isEmit : ∃ event, moved = .emit event
  · rcases isEmit with ⟨event, rfl⟩
    refine ⟨bounded.emit event, ?_⟩
    cases closed : broker.closed with
    | true => simp [SessionEventBroker.apply, emit_of_closed closed]
    | false =>
      rcases emit_of_open closed event with ⟨_, _, _, _, -, emitted⟩
      simp [SessionEventBroker.apply, emitted]
  · have notEmit : ∀ event, moved ≠ .emit event := fun event same => isEmit ⟨event, same⟩
    rcases broker.apply_eq_of_not_emit notEmit with ⟨_, _, _, _, _, _, _, _, same⟩
    rw [same]
    exact ⟨⟨bounded.positive, bounded.cap, bounded.length_le⟩, rfl⟩

theorem Bounded.foldl (bounded : broker.Bounded) (sections : List (BrokerSection Payload)) :
    (sections.foldl SessionEventBroker.apply broker).Bounded ∧
      (sections.foldl SessionEventBroker.apply broker).hardCap = broker.hardCap := by
  induction sections generalizing broker with
  | nil => exact ⟨bounded, rfl⟩
  | cons moved sections ih =>
    rcases ih (bounded.apply moved).1 with ⟨kept, cap⟩
    exact ⟨kept, cap.trans (bounded.apply moved).2⟩

/-! ### Lossless events -/

/-- An emit evicts a lossless event only from a buffer at the hard cap without a preview event. -/
def LosslessSurvive (broker : SessionEventBroker Payload) (event : TurnEvent Payload) : Prop :=
  ∀ envelope ∈ broker.events, envelope.event.kind ∈ TurnEventKind.lossless →
    envelope ∉ (broker.emit event).1.events →
      broker.events.length = broker.hardCap ∧
        ∀ other ∈ broker.events, other.event.kind ∉ TurnEventKind.preview

/-- An event that is not lossless meets a buffer between the two bounds that holds no preview event
and whose oldest event is lossless. -/
def Displaces (broker : SessionEventBroker Payload) (event : TurnEvent Payload) : Prop :=
  broker.closed = false ∧ broker.maxEvents ≤ broker.events.length ∧
    broker.events.length < broker.hardCap ∧
    (∀ other ∈ broker.events, other.event.kind ∉ TurnEventKind.preview) ∧
    event.kind ∉ TurnEventKind.lossless ∧
    ∃ oldest, broker.events.head? = some oldest ∧ oldest.event.kind ∈ TurnEventKind.lossless

theorem findIdx_preview_eq_none_iff :
    (broker.events.findIdx? fun envelope => envelope.event.kind ∈ TurnEventKind.preview) = none ↔
      ∀ other ∈ broker.events, other.event.kind ∉ TurnEventKind.preview := by
  simp [findIdx?_eq_none_iff]

theorem mem_emit_of_mem_room (opened : broker.closed = false) {envelope : SessionEventEnvelope Payload}
    (kept : envelope ∈ (broker.makeRoomLocked event.kind).events) :
    envelope ∈ (broker.emit event).1.events := by
  rcases emit_of_open opened event with ⟨events, droppedThrough, _, _, room, emitted⟩
  have same : (broker.makeRoomLocked event.kind).events = events := by
    have numbered : ({ broker with sequence := broker.sequence + 1 }.makeRoomLocked
        event.kind).events = (broker.makeRoomLocked event.kind).events := by
      simp only [makeRoomLocked, evictLocked]
      repeat' split
      all_goals rfl
    rw [← numbered, room]
  rw [emitted]
  exact mem_append_left _ (same ▸ kept)

/-- Which events a retained log loses by one eviction. -/
theorem mem_evictLocked {index : ℕ} {dropped envelope : SessionEventEnvelope Payload}
    (found : broker.events[index]? = some dropped) (kept : envelope ∈ broker.events)
    (other : envelope ≠ dropped) : envelope ∈ (broker.evictLocked index).events := by
  simp only [evictLocked, found]
  rw [mem_eraseIdx_iff_getElem?]
  rcases mem_iff_getElem?.1 kept with ⟨position, located⟩
  refine ⟨position, ?_, located⟩
  rintro rfl
  exact other (Option.mem_unique located found)

theorem not_losslessSurvive_of_displaces (retained : broker.RetainsLog log)
    (displaces : broker.Displaces event) : ¬broker.LosslessSurvive event := by
  rcases displaces with ⟨opened, full, below, noPreview, preview, oldest, first, lossless⟩
  intro survive
  have atHead : broker.events[0]? = some oldest := by rw [← head?_eq_getElem?, first]
  have present : oldest ∈ broker.events := mem_of_getElem? atHead
  have nodup := retained.retains.numbered.nodup.sublist retained.retains.kept_sublist
  have gone : oldest ∉ (broker.emit event).1.events := by
    rcases emit_of_open opened event with ⟨kept, droppedThrough, _, _, room, emitted⟩
    have evicted : kept = broker.events.eraseIdx 0 := by
      have none := findIdx_preview_eq_none_iff.2 noPreview
      simp only [makeRoomLocked, if_neg (Nat.not_lt.2 full), none, evictLocked, atHead,
        if_pos (Or.inr preview)] at room
      exact (congrArg SessionEventBroker.events room).symm
    rw [emitted, evicted]
    intro still
    rcases mem_append.1 still with old | new
    · rw [mem_eraseIdx_iff_getElem?] at old
      rcases old with ⟨position, different, found⟩
      have inside : 0 < broker.events.length := length_pos_of_mem present
      exact different ((getElem?_inj inside nodup).1 (atHead.trans found.symm)).symm
    · have number := retained.retains.numbered.number_le
        (retained.retains.kept_sublist.subset present)
      rw [mem_singleton.1 new] at number
      have length := retained.sequence_eq
      simp only [nextEnvelope] at number
      omega
  have reached := (survive oldest present lossless gone).1
  omega

/-- Every other event leaves the lossless ones below the cap alone. -/
theorem losslessSurvive_of_not_displaces (bounded : broker.Bounded)
    (keeps : ¬broker.Displaces event) : broker.LosslessSurvive event := by
  intro envelope present lossless gone
  cases opened : broker.closed with
  | true =>
    rw [emit_of_closed opened] at gone
    exact absurd present gone
  | false =>
    have evicted := fun kept => gone (mem_emit_of_mem_room opened kept)
    unfold makeRoomLocked at evicted
    split at evicted
    · exact absurd present evicted
    · rename_i full
      split at evicted
      case h_1 index found =>
          -- The evicted event is a preview event.
          rcases findIdx?_eq_some_iff_getElem.1 found with ⟨inside, preview, -⟩
          refine absurd (mem_evictLocked (getElem?_eq_getElem inside) present ?_) evicted
          rintro rfl
          exact TurnEventKind.lossless_disjoint_preview lossless (by simpa using preview)
      case h_2 none =>
          have noPreview := findIdx_preview_eq_none_iff.1 none
          refine ⟨?_, noPreview⟩
          split at evicted
          · rename_i must
            have length := bounded.length_le
            by_contra below
            have inside : 0 < broker.events.length := length_pos_of_mem present
            have atHead : broker.events[0]? = some broker.events[0] :=
              getElem?_eq_getElem inside
            have same : envelope = broker.events[0] := by
              by_contra other
              exact evicted (mem_evictLocked atHead present other)
            refine keeps ⟨opened, by omega, by omega, noPreview, must.resolve_left (by omega),
              broker.events[0], ?_, same ▸ lossless⟩
            rw [head?_eq_getElem?, atHead]
          · exact absurd present evicted

/-- Over a whole run the buffer keeps the hard cap, and the lossless events survive as long as no
event displaces one. -/
theorem lossless_survive_iff (threadId : Text) (maxEvents : ℤ) (hardCap : Option ℤ) (epoch : Text)
    (sections : List (BrokerSection Payload)) :
    let initial : SessionEventBroker Payload := new threadId maxEvents hardCap epoch
    (∀ before after, sections = before ++ after →
        (before.foldl apply initial).events.length ≤ initial.hardCap ∧
          (before.foldl apply initial).hardCap = initial.hardCap) ∧
      ((∀ before event after, sections = before ++ .emit event :: after →
          (before.foldl apply initial).LosslessSurvive event) ↔
        ∀ before event after, sections = before ++ .emit event :: after →
          ¬(before.foldl apply initial).Displaces event) := by
  intro initial
  have bounded : ∀ before : List (BrokerSection Payload), (before.foldl apply initial).Bounded ∧
      (before.foldl apply initial).hardCap = initial.hardCap :=
    (bounded_new threadId maxEvents hardCap epoch).foldl
  have retained : ∀ before : List (BrokerSection Payload),
      (before.foldl apply initial).RetainsLog (history threadId before) :=
    retainsLog_history threadId maxEvents hardCap epoch
  refine ⟨?_, ?_, ?_⟩
  · intro before after _
    refine ⟨?_, (bounded before).2⟩
    rw [← (bounded before).2]
    exact (bounded before).1.length_le
  · intro survive before event after split displaces
    exact not_losslessSurvive_of_displaces (retained before) displaces
      (survive before event after split)
  · intro keeps before event after split
    exact losslessSurvive_of_not_displaces (bounded before).1 (keeps before event after split)

/-- Sixteen tool events fill the default bound; the next answer delta evicts the first of them. -/
theorem answer_delta_displaces_tool_event :
    let emitted (kind : TurnEventKind) : TurnEvent Unit := ⟨1, [], [], 0, kind, ()⟩
    let broker := (List.replicate 16 (BrokerSection.emit (emitted .toolStarted))).foldl apply
      (new [] 16 none [])
    broker.hardCap = 1024 ∧ broker.events.length = 16 ∧
      ¬broker.LosslessSurvive (emitted .answerDelta) := by
  intro emitted broker
  refine ⟨by decide, by decide, ?_⟩
  intro survive
  have first : (⟨[], 1, [], emitted .toolStarted⟩ : SessionEventEnvelope Unit) ∈ broker.events := by
    decide
  have reached := (survive _ first (by decide) (by decide)).1
  exact absurd reached (by decide)

end Synapse.SessionEventBroker
