import Synapse.Responses.Complete

/-!
# The model's stream

`_stream` reads a response to the end of its iterator and takes that end for the end of the
response. It ends normally after a terminal event only where the iterator does.
-/

namespace Synapse.Responses

universe u v w x

variable {Body : Type u} {State : Type v} {Chunk : Type w} {Failure : Type x}

/-- The conversion of the payloads of one response to chunks, with the state that it carries. -/
structure Conversion (Body : Type u) (State : Type v) (Chunk : Type w) (Failure : Type x) where
  start : State
  convert : State → Payload Body → Except Failure (State × Option Chunk)

/-- How an iterator ends. -/
inductive Ending (Failure : Type x) where
  | stopped
  | raised (failure : Failure)
  deriving DecidableEq

/-- What an iterator shows to a loop over it. -/
structure Reading (Body : Type u) (Failure : Type x) where
  payloads : List (Payload Body)
  ending : Ending Failure

/-- How `_stream` ends: normally, with an exception, or closed by its consumer. -/
inductive StreamEnd (Failure : Type x) where
  | finished
  | raised (failure : Failure)
  | closed
  deriving DecidableEq

/-- The loop over the payloads of an iterator. The consumer takes a number of chunks, or all. -/
def loop (convert : State → Payload Body → Except Failure (State × Option Chunk)) :
    State → Option ℕ → List (Payload Body) → Ending Failure → List Chunk × StreamEnd Failure
  | _, _, [], .stopped => ([], .finished)
  | _, _, [], .raised failure => ([], .raised failure)
  | state, demand, payload :: rest, ending =>
    match convert state payload with
    | .error failure => ([], .raised failure)
    | .ok (next, none) => loop convert next demand rest ending
    | .ok (next, some chunk) =>
      match demand with
      | none =>
        let (chunks, result) := loop convert next none rest ending
        (chunk :: chunks, result)
      | some 0 => ([chunk], .closed)
      | some (more + 1) =>
        let (chunks, result) := loop convert next (some more) rest ending
        (chunk :: chunks, result)

/-- One attempt over the WebSocket: opening it or the request raises, or there is an iterator. -/
inductive Attempt (Body : Type u) (Failure : Type x) where
  | refused (failure : Failure)
  | opened (reading : Reading Body Failure)

def Attempt.run (conversion : Conversion Body State Chunk Failure) (demand : Option ℕ) :
    Attempt Body Failure → List Chunk × StreamEnd Failure
  | .refused failure => ([], .raised failure)
  | .opened reading =>
    loop conversion.convert conversion.start demand reading.payloads reading.ending

/-- `_stream` over the WebSocket: a failure before any chunk is retried once, if it is transient. -/
def streamWebsocket (conversion : Conversion Body State Chunk Failure)
    (shouldRetry : Failure → Bool) (demand : Option ℕ) (first second : Attempt Body Failure) :
    List Chunk × StreamEnd Failure :=
  match first.run conversion demand with
  | ([], .raised failure) =>
    if shouldRetry failure then second.run conversion demand else ([], .raised failure)
  | result => result

/-- A Responses request over HTTP: the events of the stream, and the failure that ends them. -/
structure EventStream (Body : Type u) (Failure : Type x) where
  events : List (Payload Body)
  failure : Option Failure

/-- The iterator of `stream_responses`: its task forwards every event and the failure. -/
def EventStream.reading (stream : EventStream Body Failure) : Reading Body Failure where
  payloads := stream.events
  ending := match stream.failure with
    | some failure => .raised failure
    | none => .stopped

/-- `_stream` over HTTP. -/
def streamResponses (conversion : Conversion Body State Chunk Failure) (demand : Option ℕ)
    (stream : EventStream Body Failure) : List Chunk × StreamEnd Failure :=
  loop conversion.convert conversion.start demand stream.reading.payloads stream.reading.ending

/-- Every payload is converted without an exception, and the consumer stays to the last one. -/
def ReadsAll (convert : State → Payload Body → Except Failure (State × Option Chunk)) :
    State → Option ℕ → List (Payload Body) → Prop
  | _, _, [] => True
  | state, demand, payload :: rest =>
    match convert state payload with
    | .error _ => False
    | .ok (next, none) => ReadsAll convert next demand rest
    | .ok (next, some _) =>
      match demand with
      | none => ReadsAll convert next none rest
      | some 0 => False
      | some (more + 1) => ReadsAll convert next (some more) rest

/-- A reading of an iterator on a connection whose task ended only without requests in the
queue. -/
def Reading.OfConnection (reading : Reading Body Failure) : Prop :=
  ∃ (labels : List (Label Body)) (final : Connection Body) (id : ℕ) (iterator : StreamIter Body),
    Connection.machine.Guarded Connection.Unhurried .established labels ∧
      Connection.machine.run .established labels = some final ∧
      final.iterators[id]? = some iterator ∧ reading.payloads = iterator.delivered ∧
      (reading.ending = .stopped → iterator.stopped = true ∧ iterator.raised = [])

section

variable {conversion : Conversion Body State Chunk Failure}
  {convert : State → Payload Body → Except Failure (State × Option Chunk)} {state : State}
  {demand : Option ℕ} {payloads : List (Payload Body)} {ending : Ending Failure}

/-- The loop ends normally exactly when the iterator does, and nothing ends it before. -/
theorem loop_finished_iff :
    (loop convert state demand payloads ending).2 = .finished ↔
      ending = .stopped ∧ ReadsAll convert state demand payloads := by
  induction payloads generalizing state demand with
  | nil =>
    cases ending with
    | stopped => exact iff_of_true rfl ⟨rfl, trivial⟩
    | raised failure => simp [loop]
  | cons payload rest ih =>
    rw [loop, ReadsAll]
    cases convert state payload with
    | error failure => simp
    | ok converted =>
      rcases converted with ⟨next, chunk⟩
      cases chunk with
      | none => exact ih
      | some chunk =>
        cases demand with
        | none => exact ih
        | some limit =>
          cases limit with
          | zero => simp
          | succ more => exact ih

theorem run_finished {attempt : Attempt Body Failure}
    (finished : (attempt.run conversion demand).2 = .finished) :
    ∃ reading, attempt = .opened reading ∧ reading.ending = .stopped := by
  cases attempt with
  | refused failure => cases finished
  | opened reading => exact ⟨reading, rfl, (loop_finished_iff.1 finished).1⟩

theorem Reading.OfConnection.terminal {reading : Reading Body Failure}
    (made : reading.OfConnection) (stopped : reading.ending = .stopped) :
    ∃ payload ∈ reading.payloads, payload.Terminal := by
  rcases made with ⟨labels, final, id, iterator, guarded, run, found, payloads, ended⟩
  rcases ended stopped with ⟨stopped, raised⟩
  rcases (faithful_of_run guarded run found).complete stopped raised with
    ⟨whole, last, member, terminal⟩
  refine ⟨last, ?_, terminal⟩
  rw [payloads, whole]
  exact List.mem_of_getLast? member

theorem streamWebsocket_finished {shouldRetry : Failure → Bool}
    {first second : Attempt Body Failure}
    (finished : (streamWebsocket conversion shouldRetry demand first second).2 = .finished) :
    ∃ reading, (first = .opened reading ∨ second = .opened reading) ∧
      reading.ending = .stopped := by
  unfold streamWebsocket at finished
  split at finished
  case h_1 failure failed =>
      split at finished
      · rcases run_finished finished with ⟨reading, opened, stopped⟩
        exact ⟨reading, .inr opened, stopped⟩
      · cases finished
  case h_2 =>
      rcases run_finished finished with ⟨reading, opened, stopped⟩
      exact ⟨reading, .inl opened, stopped⟩

end

/-- A response is not truncated silently: on a connection whose task ends only without requests in
the queue every iterator is faithful, `_stream` over it ends normally only after a terminal event,
and over HTTP it does so exactly when the events do not end cleanly and unread before one. -/
theorem responses_end_after_terminal :
    (∀ (labels : List (Label Body)) (final : Connection Body) (id : ℕ) (iterator : StreamIter Body),
        Connection.machine.Guarded Connection.Unhurried .established labels →
          Connection.machine.run .established labels = some final →
            final.iterators[id]? = some iterator →
              iterator.Faithful (response id final.socket)) ∧
      (∀ (conversion : Conversion Body State Chunk Failure) (shouldRetry : Failure → Bool)
          (demand : Option ℕ) (first second : Attempt Body Failure),
        (∀ reading, first = .opened reading ∨ second = .opened reading → reading.OfConnection) →
          (streamWebsocket conversion shouldRetry demand first second).2 = .finished →
            ∃ reading, (first = .opened reading ∨ second = .opened reading) ∧
              ∃ payload ∈ reading.payloads, payload.Terminal) ∧
      ∀ (conversion : Conversion Body State Chunk Failure) (demand : Option ℕ)
          (stream : EventStream Body Failure),
        ((streamResponses conversion demand stream).2 = .finished →
            ∃ payload ∈ stream.events, payload.Terminal) ↔
          ¬(stream.failure = none ∧
            ReadsAll conversion.convert conversion.start demand stream.events ∧
            ∀ payload ∈ stream.events, ¬payload.Terminal) := by
  refine ⟨?_, ?_, ?_⟩
  · exact fun labels final id iterator guarded run found => faithful_of_run guarded run found
  · intro conversion shouldRetry demand first second made finished
    rcases streamWebsocket_finished finished with ⟨reading, opened, stopped⟩
    exact ⟨reading, opened, (made reading opened).terminal stopped⟩
  · intro conversion demand stream
    have ends : (streamResponses conversion demand stream).2 = .finished ↔
        stream.failure = none ∧
          ReadsAll conversion.convert conversion.start demand stream.events := by
      rw [streamResponses, loop_finished_iff]
      cases failed : stream.failure with
      | none => simp [EventStream.reading, failed]
      | some failure => simp [EventStream.reading, failed]
    rw [ends]
    constructor
    · rintro terminal ⟨clean, reads, none⟩
      rcases terminal ⟨clean, reads⟩ with ⟨payload, member, ending⟩
      exact none payload member ending
    · intro early ⟨clean, reads⟩
      by_contra none
      refine early ⟨clean, reads, fun payload member ending => ?_⟩
      exact none ⟨payload, member, ending⟩

/-! ## A request behind a close -/

def deltaEvent : ResponseWebSocketEvent Unit :=
  .stream (some (.ofString "response.output_text.delta")) ()

def completedEvent : ResponseWebSocketEvent Unit :=
  .stream (some (.ofString "response.completed")) ()

/-- A conversion that ends a response without chunks. -/
def silentConversion : Conversion Unit Unit Unit Unit where
  start := ()
  convert := fun _ _ => .ok ((), none)

/-- One response, read to its end. -/
def servedLabels : List (Label Unit) :=
  [.request, .take, .send none, .receive (.ok deltaEvent), .deliver,
    .receive (.ok completedEvent), .deliver, .next 0, .next 0, .next 0]

/-- A second request is queued behind the close of another thread. -/
def closedLabels : List (Label Unit) :=
  [.request, .take, .send none, .close, .enqueueClose, .request,
    .receive (.ok completedEvent), .deliver, .take, .next 1]

/-- The connection after some steps. -/
def afterLabels (labels : List (Label Unit)) : Connection Unit :=
  (Connection.machine.run .established labels).getD .established

/-- What the consumer of the served response has read. -/
def servedReading : Reading Unit Unit where
  payloads := [(websocketEventToJson deltaEvent).1, (websocketEventToJson completedEvent).1]
  ending := .stopped

theorem responses_end_after_terminal_served :
    (∀ iterator, (afterLabels servedLabels).iterators[0]? = some iterator →
        iterator.Faithful (response 0 (afterLabels servedLabels).socket)) ∧
      (∃ reading, (Attempt.opened servedReading = .opened reading ∨
          Attempt.opened servedReading = .opened reading) ∧
        ∃ payload ∈ reading.payloads, payload.Terminal) ∧
      ((streamResponses silentConversion none ⟨servedReading.payloads, none⟩).2 = .finished →
        ∃ payload ∈ servedReading.payloads, payload.Terminal) := by
  rcases @responses_end_after_terminal Unit Unit Unit Unit with ⟨iterators, websocket, http⟩
  have ran : Connection.machine.run .established servedLabels =
      some (afterLabels servedLabels) := by
    decide
  have guarded : Connection.machine.Guarded Connection.Unhurried .established servedLabels := by
    decide
  have made : servedReading.OfConnection :=
    ⟨servedLabels, _, 0, ⟨[], false, true, servedReading.payloads, [], true⟩, guarded, ran,
      by decide, rfl, fun _ => ⟨rfl, rfl⟩⟩
  refine ⟨fun iterator found => iterators servedLabels _ 0 iterator guarded ran found, ?_, ?_⟩
  · apply websocket silentConversion (fun _ => false) none
    · rintro reading (⟨⟨⟩⟩ | ⟨⟨⟩⟩)
      · exact made
      · exact made
    · rfl
  · rw [http]
    rintro ⟨_, _, none⟩
    exact none (websocketEventToJson completedEvent).1 (by decide) (by decide)

/-- The task takes the close and drops the sender of the request behind it: its iterator ends
without an event. -/
theorem queued_request_ends_silently :
    ∃ iterator, (afterLabels closedLabels).iterators[1]? = some iterator ∧
      Connection.machine.run .established closedLabels = some (afterLabels closedLabels) ∧
      ¬iterator.Faithful (response 1 (afterLabels closedLabels).socket) := by
  refine ⟨⟨[], false, true, [], [], true⟩, by decide, by decide, ?_⟩
  intro faithful
  have ended := faithful.complete rfl rfl
  revert ended
  decide

end Synapse.Responses
