import Synapse.Sessions.Recovery
import Synapse.Sessions.Eviction

/-!
# Cursors of the console

Model of `decideResumeAfterDrop` and of `chooseAttachCursor`, over the reconcile snapshot that the
daemon builds from the recovery state of a session's broker. A number of the console is an integer
here; the decoder of the snapshot refuses every other number.
-/

namespace Synapse.Console

/-- `Number.MAX_SAFE_INTEGER`. -/
def maxSafeInteger : ℤ := 2 ^ 53 - 1

/-- `Number.isSafeInteger`. -/
def isSafeInteger (value : ℤ) : Bool :=
  -maxSafeInteger ≤ value && value ≤ maxSafeInteger

/-- The fields of a reconcile snapshot that decide where to watch from. -/
structure SessionRecoverabilityResult where
  liveEpoch : Text
  liveLatestSequence : ℤ
  liveOldestSequence : ℤ
  liveDroppedThrough : ℤ
  activeTurnId : Option Text
  latestTurnId : Option Text
  latestTurnFirstSequence : Option ℤ
  latestTurnRetainedFrom : Option ℤ
  latestTurnIntact : Bool
  deriving DecidableEq, Repr

/-- `reconcile_session`, for the recovery state of a broker and the active turn of its session. -/
def reconcileSession (state : BrokerRecoveryState) (activeTurnId : Option Text) :
    SessionRecoverabilityResult :=
  { liveEpoch := state.epoch
    liveLatestSequence := state.latestSequence
    liveOldestSequence := state.oldestSequence
    liveDroppedThrough := state.droppedThrough
    activeTurnId
    latestTurnId := state.latestTurnId
    latestTurnFirstSequence := state.latestTurnStart.map Int.ofNat
    latestTurnRetainedFrom := state.latestTurnRetainedFrom.map Int.ofNat
    latestTurnIntact := state.latestTurnIntact }

/-! ### After a drop -/

/-- `ResyncReason`s of `RESYNC_REASONS`. -/
inductive ResyncReason where
  | epochChanged
  | epochUnknown
  | cursorGap
  | noEvents
  | noCursor
  deriving DecidableEq, Repr

inductive RecoveryAction where
  | resume (after : ℤ)
  | legacyResume (after : ℤ) (detail : Text)
  | resync (reason : ResyncReason) (detail : Text)
  | incomplete (detail : Text)
  deriving DecidableEq, Repr

structure ReconcileResumeInput where
  snapshot : Option SessionRecoverabilityResult
  baselineEpoch : Option Text
  cursor : Option ℤ
  fallbackAfter : ℤ
  hadEvents : Bool

/-- A number in a template literal. -/
def showNumber (value : ℤ) : Text := Text.ofString (toString value)

def decideResumeAfterDrop (input : ReconcileResumeInput) : RecoveryAction :=
  match input.snapshot with
  | none =>
    .legacyResume (input.cursor.getD input.fallbackAfter)
      (Text.ofString <|
        if input.cursor = none then "recovery snapshot unavailable; resumed after fresh open"
        else "recovery snapshot unavailable; resumed from last cursor")
  | some snapshot =>
    if let some active := snapshot.activeTurnId.filter fun active =>
        snapshot.latestTurnId = some active ∧ snapshot.latestTurnIntact = false then
      .incomplete (Text.ofString "active turn " ++ active ++
        Text.ofString " live prefix was evicted; replay incomplete until settlement")
    else
      match input.cursor with
      | some cursor =>
        match input.baselineEpoch with
        | none =>
          .resync .epochUnknown
            (Text.ofString "no baseline epoch recorded; resyncing from history snapshot")
        | some baselineEpoch =>
          if baselineEpoch ≠ snapshot.liveEpoch then
            .resync .epochChanged (Text.ofString "broker epoch changed (" ++ baselineEpoch ++
              Text.ofString " -> " ++ snapshot.liveEpoch ++
              Text.ofString "); stored cursor is stale")
          else if cursor < snapshot.liveDroppedThrough ∨
              snapshot.liveLatestSequence < cursor then
            .resync .cursorGap (Text.ofString "stored cursor " ++ showNumber cursor ++
              Text.ofString " is outside the retained window [" ++
              showNumber snapshot.liveDroppedThrough ++ Text.ofString ".." ++
              showNumber snapshot.liveLatestSequence ++ Text.ofString "]")
          else .resume cursor
      | none =>
        if input.hadEvents = false then
          .resync .noEvents (Text.ofString
            "no live cursor was ever delivered; resyncing from history snapshot")
        else
          .resync .noCursor (Text.ofString
            "watch cursor missing after an unexpected drop; resyncing from history snapshot")

/-! ### Attaching -/

structure AttachCursor where
  after : ℤ
  complete : Bool
  deriving DecidableEq, Repr

def nonNegativeIntOrNull (value : Option ℤ) : Option ℤ :=
  value.filter fun value => isSafeInteger value ∧ 0 ≤ value

def positiveIntOrNull (value : Option ℤ) : Option ℤ :=
  value.filter fun value => isSafeInteger value ∧ 1 ≤ value

/-- The opened session view. -/
structure AttachView where
  activeTurnId : Option Text
  latestSequence : ℤ

def chooseAttachCursor (view : AttachView) (coverage : Option SessionRecoverabilityResult) :
    AttachCursor :=
  let latestSequence := nonNegativeIntOrNull (some view.latestSequence)
  match view.activeTurnId with
  | none =>
    match latestSequence with
    | none => ⟨0, false⟩
    | some latest => ⟨latest, true⟩
  | some activeTurnId =>
    match coverage.filter fun coverage => coverage.latestTurnId = some activeTurnId with
    | none => ⟨latestSequence.getD 0, false⟩
    | some coverage =>
      match (positiveIntOrNull coverage.latestTurnFirstSequence).filter
          fun _ => coverage.latestTurnIntact with
      | some firstSequence => ⟨max (firstSequence - 1) 0, true⟩
      | none =>
        match positiveIntOrNull coverage.latestTurnRetainedFrom with
        | some retainedFrom =>
          let droppedThrough :=
            (nonNegativeIntOrNull (some coverage.liveDroppedThrough)).getD 0
          ⟨max (retainedFrom - 1) droppedThrough, false⟩
        | none => ⟨latestSequence.getD 0, false⟩

/-! ### Agreement with the broker -/

variable {value : ℤ}

theorem positiveIntOrNull_of_safe (positive : 1 ≤ value)
    (safe : value ≤ maxSafeInteger) : positiveIntOrNull (some value) = some value := by
  have lower : -maxSafeInteger ≤ value := by
    unfold maxSafeInteger
    omega
  simp [positiveIntOrNull, isSafeInteger, lower, safe, positive]

theorem nonNegativeIntOrNull_of_safe (nonneg : 0 ≤ value)
    (safe : value ≤ maxSafeInteger) : nonNegativeIntOrNull (some value) = some value := by
  have lower : -maxSafeInteger ≤ value := by
    unfold maxSafeInteger
    omega
  simp [nonNegativeIntOrNull, isSafeInteger, lower, safe, nonneg]

section

variable {Payload : Type} {broker : SessionEventBroker Payload}
  {log : List (SessionEventEnvelope Payload)} {turn : Text} {activeTurnId : Option Text}
  {input : ReconcileResumeInput} {after : ℤ} {view : AttachView}

theorem decideResumeAfterDrop_eq_resume {snapshot : SessionRecoverabilityResult}
    (given : input.snapshot = some snapshot) (resumed : decideResumeAfterDrop input = .resume after) :
    input.baselineEpoch = some snapshot.liveEpoch ∧ snapshot.liveDroppedThrough ≤ after ∧
      after ≤ snapshot.liveLatestSequence := by
  unfold decideResumeAfterDrop at resumed
  simp only [given] at resumed
  split at resumed
  · cases resumed
  · split at resumed
    · split at resumed
      · cases resumed
      · rename_i cursor _ _ baselineEpoch baseline
        split at resumed
        · cases resumed
        · rename_i same
          split at resumed
          · cases resumed
          · rename_i inside
            cases resumed
            rw [not_or, not_lt, not_lt] at inside
            exact ⟨baseline.trans (congrArg some (not_not.1 same)), inside⟩
    · split at resumed <;> cases resumed

/-- For the running turn of a broker with safe numbers, the cursor is the start of the turn or the
first point after the watermark where one of its events is retained. -/
theorem chooseAttachCursor_running (tracks : broker.TracksTurn log)
    (safe : (broker.sequence : ℤ) ≤ maxSafeInteger) (running : view.activeTurnId = some turn)
    (latest : broker.latestTurnId = some turn) :
    (∃ start, broker.latestTurnStart = some start ∧ broker.droppedThrough < start ∧
        chooseAttachCursor view (some (reconcileSession broker.recoveryState activeTurnId)) =
          ⟨start - 1, true⟩) ∨
      ∃ retainedFrom, broker.firstRetainedSequenceFor turn = some retainedFrom ∧
        chooseAttachCursor view (some (reconcileSession broker.recoveryState activeTurnId)) =
          ⟨max (retainedFrom - 1) broker.droppedThrough, false⟩ := by
  rcases tracks.start turn latest with ⟨start, known, positive, le, -, -⟩
  rcases tracks.retainedFrom latest with ⟨retainedFrom, found, retainedPositive⟩
  have length := tracks.retained.sequence_eq
  have firstSafe : positiveIntOrNull (some (start : ℤ)) = some (start : ℤ) :=
    positiveIntOrNull_of_safe (by omega) (by omega)
  by_cases intact : broker.droppedThrough < start
  · refine Or.inl ⟨start, known, intact, ?_⟩
    simp only [chooseAttachCursor, running, reconcileSession, SessionEventBroker.recoveryState,
      latest, known, Option.bind_some, found, Option.map_some, Option.isSome_some, intact,
      Option.filter_some, decide_true, Bool.and_self, if_true, Int.ofNat_eq_natCast, firstSafe]
    rw [max_eq_left (by omega)]
  · refine Or.inr ⟨retainedFrom, found, ?_⟩
    have retainedSafe : positiveIntOrNull (some (retainedFrom : ℤ)) = some (retainedFrom : ℤ) := by
      rcases SessionEventBroker.firstRetainedSequenceFor_eq_some tracks.retained found with
        ⟨⟨envelope, kept, -, rfl⟩, -⟩
      have logged := tracks.retained.retains.kept_sublist.subset kept
      have bounded := tracks.retained.retains.numbered.number_le logged
      exact positiveIntOrNull_of_safe (by omega) (by omega)
    have droppedSafe : nonNegativeIntOrNull (some (broker.droppedThrough : ℤ)) =
        some (broker.droppedThrough : ℤ) := by
      have bounded := tracks.retained.retains.watermark_le
      exact nonNegativeIntOrNull_of_safe (by omega) (by omega)
    simp only [chooseAttachCursor, running, reconcileSession, SessionEventBroker.recoveryState,
      latest, known, Option.bind_some, found, Option.map_some, Option.isSome_some, intact,
      Option.filter_some, decide_true, decide_false, Bool.and_false, if_true, if_false,
      Int.ofNat_eq_natCast, firstSafe, Bool.false_eq_true, retainedSafe, droppedSafe,
      Option.getD_some]

end

section

variable {Payload : Type} {broker : SessionEventBroker Payload}
  {log : List (SessionEventEnvelope Payload)} {turn : Text} {activeTurnId : Option Text}
  {view : AttachView}

theorem positiveIntOrNull_of_unsafe {value : ℤ} (large : maxSafeInteger < value) :
    positiveIntOrNull (some value) = none := by
  simp [positiveIntOrNull, isSafeInteger, not_le.2 large]

/-- The numbers of a turn that starts beyond the safe integers are all taken for malformed. -/
theorem chooseAttachCursor_of_unsafe (tracks : broker.TracksTurn log)
    (serial : SerialTurns log) (latest : broker.latestTurnId = some turn) {start : ℕ}
    (known : broker.latestTurnStart = some start) (large : maxSafeInteger < start)
    (running : view.activeTurnId = some turn) (current : view.latestSequence = broker.sequence) :
    chooseAttachCursor view (some (reconcileSession broker.recoveryState activeTurnId)) =
      ⟨0, false⟩ := by
  rcases tracks.retainedFrom latest with ⟨retainedFrom, found, -⟩
  have length := tracks.retained.sequence_eq
  have firstUnsafe := positiveIntOrNull_of_unsafe large
  have retainedUnsafe : positiveIntOrNull (some (retainedFrom : ℤ)) = none := by
    rcases SessionEventBroker.firstRetainedSequenceFor_eq_some tracks.retained found with
      ⟨⟨envelope, kept, same, rfl⟩, -⟩
    have logged := tracks.retained.retains.kept_sublist.subset kept
    have later := tracks.start_le serial latest known logged same
    exact positiveIntOrNull_of_unsafe (by omega)
  have latestUnsafe : nonNegativeIntOrNull (some view.latestSequence) = none := by
    rcases tracks.start turn latest with ⟨other, again, -, le, -⟩
    cases known.symm.trans again
    have beyond : maxSafeInteger < view.latestSequence := by omega
    simp [nonNegativeIntOrNull, isSafeInteger, not_le.2 beyond]
  simp only [chooseAttachCursor, running, reconcileSession, SessionEventBroker.recoveryState,
    latest, known, Option.bind_some, found, Option.map_some, Option.filter_some, decide_true,
    if_true, Int.ofNat_eq_natCast, firstUnsafe, Option.filter_none, retainedUnsafe, latestUnsafe,
    Option.getD_none]

theorem readAfter_zero_gap (retained : broker.RetainsLog log) (bounded : broker.Bounded)
    (long : broker.hardCap < log.length) :
    (broker.readAfter (.int 0)).toOption.map (·.gap) = some true := by
  have dropped : 0 < broker.droppedThrough := by
    by_contra none
    have complete : log ⊆ broker.events := by
      intro envelope present
      by_contra absent
      have missing := retained.retains.missing_le envelope present absent
      have positive := retained.retains.numbered.number_pos present
      omega
    have fits := (List.subperm_of_subset retained.retains.numbered.nodup complete).length_le
    have cap := bounded.length_le
    omega
  rw [SessionEventBroker.readAfter_of_valid le_rfl (by omega)]
  simp [Except.toOption, SessionEventBroker.windowLocked, dropped]

end

/-- One event of a turn. -/
def turnEvent (turnId : Text) : TurnEvent Unit := ⟨1, [], turnId, 0, .toolStarted, ()⟩

theorem foldl_map_emit (events : List (TurnEvent Unit)) (broker : SessionEventBroker Unit) :
    let emitted := (events.map BrokerSection.emit).foldl SessionEventBroker.apply broker
    emitted.threadId = broker.threadId ∧ emitted.closed = broker.closed := by
  induction events generalizing broker with
  | nil => exact ⟨rfl, rfl⟩
  | cons event rest ih =>
    rcases SessionEventBroker.emit_threadId broker event with ⟨thread, closed⟩
    rcases ih (broker.emit event).1 with ⟨laterThread, laterClosed⟩
    exact ⟨laterThread.trans thread, laterClosed.trans closed⟩

/-- A long first turn and one event of a second one. -/
def longTurn (count : ℕ) : List (BrokerSection Unit) :=
  (List.replicate count (turnEvent [1]) ++ [turnEvent [2]]).map .emit

/-- Beyond the safe integers, a running turn is watched from zero, across a gap. -/
theorem unsafe_numbers_read_a_gap (count : ℕ) (large : maxSafeInteger ≤ count) :
    let broker := (longTurn count).foldl SessionEventBroker.apply
      (SessionEventBroker.new [] 16 none [])
    let cursor := chooseAttachCursor ⟨some [2], broker.sequence⟩
      (some (reconcileSession broker.recoveryState (some [2])))
    SerialTurns (SessionEventBroker.history [] (longTurn count)) ∧
      broker.latestTurnId = some [2] ∧
      (broker.readAfter (.int cursor.after)).toOption.map (·.gap) = some true := by
  intro broker cursor
  let events := List.replicate count (turnEvent [1])
  let first := (events.map BrokerSection.emit).foldl SessionEventBroker.apply
    (SessionEventBroker.new [] 16 none [])
  let old := SessionEventBroker.envelopesAfter [] 0 events
  have oldTracks : first.TracksTurn old := by
    have tracked := SessionEventBroker.tracksTurn_history [] 16 none []
      (events.map BrokerSection.emit)
    rwa [SessionEventBroker.history, SessionEventBroker.acceptedEvents_map_emit] at tracked
  rcases foldl_map_emit events (SessionEventBroker.new [] 16 none []) with ⟨thread, opened⟩
  have moved : broker = (first.emit (turnEvent [2])).1 := by
    simp only [broker, longTurn, List.map_append, List.foldl_append]
    rfl
  have oldLength : old.length = count := by
    simp [old, events, SessionEventBroker.length_envelopesAfter]
  have oldTurn : ∀ envelope ∈ old, envelope.turnId = [1] := by
    intro envelope present
    rcases SessionEventBroker.turnId_of_mem_envelopesAfter present with ⟨event, known, same⟩
    rw [same, List.eq_of_mem_replicate known]
    rfl
  have tracks : broker.TracksTurn (old ++ [first.nextEnvelope (turnEvent [2])]) := by
    rw [moved]
    exact oldTracks.emit opened _
  have newest := SessionEventBroker.emit_turn opened (turnEvent [2])
  rw [← moved] at newest
  have fresh : some (turnEvent [2]).turnId ≠ first.latestTurnId := by
    intro same
    rcases oldTracks.newest _ same.symm with ⟨envelope, present, other, -⟩
    rw [oldTurn envelope present] at other
    exact absurd other (by decide)
  rw [if_neg fresh] at newest
  have serial : SerialTurns (old ++ [first.nextEnvelope (turnEvent [2])]) := by
    have earlier : ∀ envelope ∈ old ++ [first.nextEnvelope (turnEvent [2])],
        envelope.sequence < old.length + 1 → envelope.turnId = [1] := by
      intro envelope present before
      rcases List.mem_append.1 present with older | new
      · exact oldTurn envelope older
      · rw [List.mem_singleton.1 new] at before
        simp only [SessionEventBroker.nextEnvelope, oldTracks.retained.sequence_eq] at before
        omega
    intro one oneIn two twoIn three threeIn first second _
    have last := tracks.retained.retains.numbered.number_le threeIn
    rw [List.length_append, List.length_singleton] at last
    rw [earlier two twoIn (by omega), earlier one oneIn (by omega)]
  have bounded := (@SessionEventBroker.bounded_new Unit [] 16 none []).foldl
    (longTurn count)
  have length := tracks.retained.sequence_eq
  have sequence := oldTracks.retained.sequence_eq
  have whole : (old ++ [first.nextEnvelope (turnEvent [2])]).length = count + 1 := by
    simp [oldLength]
  have beyond : maxSafeInteger < ((first.sequence + 1 : ℕ) : ℤ) := by omega
  have chosen : cursor = ⟨0, false⟩ :=
    chooseAttachCursor_of_unsafe tracks serial newest.1 newest.2.1 beyond rfl rfl
  refine ⟨?_, newest.1, ?_⟩
  · rw [SessionEventBroker.history, longTurn, SessionEventBroker.acceptedEvents_map_emit,
      SessionEventBroker.envelopesAfter_append]
    have last : SessionEventBroker.envelopesAfter [] (0 + events.length) [turnEvent [2]] =
        [first.nextEnvelope (turnEvent [2])] := by
      simp only [SessionEventBroker.envelopesAfter, SessionEventBroker.nextEnvelope, sequence,
        oldLength, events, List.length_replicate, Nat.zero_add, List.cons.injEq, and_true,
        SessionEventEnvelope.mk.injEq]
      exact thread.symm
    rw [last]
    exact serial
  · rw [chosen]
    refine readAfter_zero_gap tracks.retained bounded.1 ?_
    rw [bounded.2, whole]
    unfold maxSafeInteger at large
    have cap : (SessionEventBroker.new [] 16 none [] : SessionEventBroker Unit).hardCap = 1024 := rfl
    omega

end Synapse.Console
