import Synapse.Service.Stream

/-!
# The end of a watch stream

An event whose texts can be encoded and whose integers can be printed has a projection, or is
refused with a typed error. As long as the session publishes such events only, the iteration ends
without an error where the consumer, the loop or the broker has ended it, and nowhere else.
-/

namespace Synapse

open List

mutual

/-- No text in the value holds a lone surrogate, and its integers can be printed. -/
def Value.clean : Value → Bool
  | .null | .bool _ | .cycle | .raising | .unknown => true
  | .int _ value => decide (value.natAbs < 10 ^ maxStrDigits)
  | .float _ literal => literal.encodes
  | .str _ value => value.encodes
  | .enumeration value => value.clean
  | .record fields => fields.clean
  | .mapping _ entries => entries.clean
  | .sequence items => items.clean
  | .set items => items.clean
  | .bytes encoded => encoded.encodes
  | .rendered value => value.encodes

def Values.clean : Values → Bool
  | .nil => true
  | .cons head tail => head.clean && tail.clean

def Entries.clean : Entries → Bool
  | .nil => true
  | .cons (.str key) value rest => key.encodes && value.clean && rest.clean
  | .cons _ value rest => value.clean && rest.clean

end

namespace Service

mutual

theorem project_writable (depth : ℕ) (value : Value) (clean : value.clean = true)
    {projected : Value} (ok : project depth value = .ok projected) :
    projected.writable = true := by
  cases value with
  | null | bool _ =>
    rw [project] at ok
    split at ok
    · cases ok
    · cases ok
      rfl
  | int plain value =>
    rw [project] at ok
    split at ok
    · cases ok
    · cases ok
      exact clean
  | str plain value =>
    rw [project] at ok
    split at ok
    · cases ok
    · cases ok
      exact clean
  | float finite literal =>
    rw [project] at ok
    split at ok
    · cases ok
    · split at ok
      · rename_i finite
        cases ok
        subst finite
        exact clean
      · cases ok
  | enumeration value =>
    rw [project] at ok
    split at ok
    · cases ok
    · exact project_writable (depth + 1) value clean ok
  | record fields =>
    rw [project] at ok
    split at ok
    · cases ok
    · cases made : projectEntries depth fields with
      | error reason =>
        rw [made] at ok
        cases ok
      | ok entries =>
        rw [made] at ok
        cases ok
        exact projectEntries_writable depth fields clean made
  | mapping plain entries =>
    rw [project] at ok
    split at ok
    · cases ok
    · cases made : projectEntries depth entries with
      | error reason =>
        rw [made] at ok
        cases ok
      | ok entries =>
        rw [made] at ok
        cases ok
        exact projectEntries_writable depth _ clean made
  | sequence items =>
    rw [project] at ok
    split at ok
    · cases ok
    · cases made : projectItems depth items with
      | error reason =>
        rw [made] at ok
        cases ok
      | ok projected =>
        rw [made] at ok
        cases ok
        exact (Values.ofList_writable _).mpr (projectItems_writable depth items clean made)
  | set items =>
    rw [project] at ok
    split at ok
    · cases ok
    · cases made : projectItems depth items with
      | error reason =>
        rw [made] at ok
        cases ok
      | ok unordered =>
        rw [made] at ok
        cases sorted : sortByDump unordered with
        | error error =>
          simp only [Except.bind, sorted] at ok
          cases ok
        | ok ordered =>
          simp only [Except.bind, sorted, Except.ok.injEq] at ok
          subst ok
          apply (Values.ofList_writable _).mpr
          intro item present
          exact projectItems_writable depth items clean made item
            (sortByDump_mem sorted present)
  | bytes encoded =>
    rw [project] at ok
    split at ok
    · cases ok
    · cases ok
      have key : (Text.ofString "$base64").encodes = true := by decide
      simp only [Value.writable, Entries.writable, key, Bool.true_and, Bool.and_true]
      exact clean
  | rendered value =>
    rw [project] at ok
    split at ok
    · cases ok
    · cases ok
      exact clean
  | cycle | raising | unknown =>
    rw [project] at ok
    split at ok <;> cases ok

theorem projectItems_writable (depth : ℕ) (items : Values) (clean : items.clean = true)
    {projected : List Value} (ok : projectItems depth items = .ok projected) :
    ∀ item ∈ projected, item.writable = true := by
  cases items with
  | nil =>
    cases ok
    exact nofun
  | cons head tail =>
    simp only [Values.clean, Bool.and_eq_true] at clean
    rw [projectItems] at ok
    cases first : project (depth + 1) head with
    | error reason =>
      rw [first] at ok
      cases ok
    | ok made =>
      cases others : projectItems depth tail with
      | error reason =>
        rw [first, others] at ok
        cases ok
      | ok rest =>
        rw [first, others] at ok
        cases ok
        intro item present
        rcases mem_cons.mp present with rfl | later
        · exact project_writable (depth + 1) head clean.1 first
        · exact projectItems_writable depth tail clean.2 others item later

theorem projectEntries_writable (depth : ℕ) (entries : Entries) (clean : entries.clean = true)
    {projected : Entries} (ok : projectEntries depth entries = .ok projected) :
    projected.writable = true := by
  cases entries with
  | nil =>
    cases ok
    rfl
  | cons key value rest =>
    cases key with
    | scalar literal => cases ok
    | other => cases ok
    | str name =>
      simp only [Entries.clean, Bool.and_eq_true] at clean
      rw [projectEntries] at ok
      cases first : project (depth + 1) value with
      | error reason =>
        rw [first] at ok
        cases ok
      | ok made =>
        cases others : projectEntries depth rest with
        | error reason =>
          rw [first, others] at ok
          cases ok
        | ok remaining =>
          rw [first, others] at ok
          cases ok
          simp only [Entries.writable, Bool.and_eq_true]
          exact ⟨⟨clean.1.1, project_writable (depth + 1) value clean.1.2 first⟩,
            projectEntries_writable depth rest clean.2 others⟩

end

/-- The fields of an event can be written, whatever its payload is. -/
def Envelope.clean (envelope : Envelope) : Bool :=
  decide (envelope.sequence < 10 ^ maxStrDigits) &&
    decide (envelope.turnSequence < 10 ^ maxStrDigits) && envelope.turnId.encodes &&
    envelope.kind.encodes && envelope.payload.clean && decide (envelope.version < 10 ^ maxStrDigits)

theorem toRuntimeEvent_clean {maxEventBytes : ℕ} {envelope : Envelope}
    (clean : envelope.clean = true) {failure : EventFailure}
    (failed : toRuntimeEvent maxEventBytes envelope = .error failure) :
    ∃ error, failure.error? = some error := by
  simp only [Envelope.clean, Bool.and_eq_true, decide_eq_true_eq] at clean
  rcases clean with ⟨⟨⟨⟨⟨sequence, turnSequence⟩, turnId⟩, kind⟩, payload⟩, version⟩
  unfold toRuntimeEvent at failed
  cases projected : projectPayload envelope.payload with
  | error reason =>
    rw [projected] at failed
    cases failed
    exact ⟨.invalidPayload reason, rfl⟩
  | ok made =>
    simp only [projected] at failed
    have content := project_writable 0 envelope.payload payload projected
    have names : (Text.ofString "sequence").encodes = true ∧
        (Text.ofString "turn_sequence").encodes = true ∧
        (Text.ofString "turn_id").encodes = true ∧ (Text.ofString "kind").encodes = true ∧
        (Text.ofString "payload").encodes = true ∧ (Text.ofString "version").encodes = true := by
      decide
    have writable : (Value.mapping true (RuntimeEvent.fields
        { sequence := envelope.sequence, turnSequence := envelope.turnSequence
          turnId := envelope.turnId, kind := envelope.kind, payload := made
          version := envelope.version })).writable = true := by
      simp only [Value.writable, RuntimeEvent.fields, field, Entries.ofList, Entries.writable,
        names, turnId, kind, content, Int.natAbs_natCast, sequence, turnSequence, version,
        decide_true, Bool.and_self]
    rcases Value.dumps_of_writable true _ writable with ⟨text, dumped, size, measured, _⟩
    have sized : (Value.mapping true (RuntimeEvent.fields
        { sequence := envelope.sequence, turnSequence := envelope.turnSequence
          turnId := envelope.turnId, kind := envelope.kind, payload := made
          version := envelope.version })).dumpSize true = .ok size := by
      unfold Value.dumpSize
      rw [dumped]
      simp only [bind, Except.bind, measured]
      rfl
    simp only [sized] at failed
    split at failed
    · cases failed
      exact ⟨.tooLarge size maxEventBytes, rfl⟩
    · cases failed

/-! ### Folded events -/

theorem clean_of_get? (entries : Entries) (clean : entries.clean = true) {name : Text}
    {value : Value} (found : entries.get? name = some value) : value.clean = true := by
  cases entries with
  | nil => cases found
  | cons key item rest =>
    have parts : item.clean = true ∧ rest.clean = true := by
      cases key with
      | str key =>
        simp only [Entries.clean, Bool.and_eq_true] at clean
        exact ⟨clean.1.2, clean.2⟩
      | scalar literal =>
        simp only [Entries.clean, Bool.and_eq_true] at clean
        exact clean
      | other =>
        simp only [Entries.clean, Bool.and_eq_true] at clean
        exact clean
    unfold Entries.get? at found
    rw [Entries.toList, lookup_cons] at found
    split at found
    · cases found
      exact parts.1
    · exact clean_of_get? rest parts.2 found

/-- The texts of a delta can be encoded. -/
def EncodedDelta (delta : Text × Option Text) : Prop :=
  delta.1.encodes = true ∧ ∀ id, delta.2 = some id → id.encodes = true

theorem messageId_encodes {value : Option Value} (clean : ∀ item, value = some item → item.clean = true)
    {id : Option Text} (read : messageId value = some id) {text : Text} (named : id = some text) :
    text.encodes = true := by
  subst named
  unfold messageId at read
  split at read
  · cases read
  · cases read
  · cases read
    exact clean _ rfl
  · cases read

theorem textDelta_encodes {payload : Value} (clean : payload.clean = true)
    {delta : Text × Option Text} (read : textDelta payload = some delta) : EncodedDelta delta := by
  unfold textDelta at read
  split at read
  · rename_i first plain text second id
    rcases Option.ite_none_right_eq_some.mp read with ⟨names, read⟩
    rcases names with ⟨rfl, rfl⟩
    simp only [Value.clean, Entries.clean, textKey, messageIdKey, Bool.and_eq_true] at clean
    rcases Option.map_eq_some_iff.mp read with ⟨given, found, rfl⟩
    refine ⟨clean.1.2, fun name same => messageId_encodes ?_ found same⟩
    intro item same
    cases same
    exact clean.2.1.2
  · rename_i plain entries
    rcases Option.ite_none_right_eq_some.mp read with ⟨_, read⟩
    split at read
    · rename_i plainText text found
      rcases Option.map_eq_some_iff.mp read with ⟨given, named, rfl⟩
      refine ⟨clean_of_get? entries clean found, fun name same => messageId_encodes ?_ named same⟩
      exact fun item got => clean_of_get? entries clean got
    · cases read
  · cases read

variable {folded : Text × Option Text}

theorem fold_encodes {tail arriving : Delta} {budget : ℕ}
    (left : tail.payload.clean = true) (right : arriving.payload.clean = true)
    (made : foldTextDeltas tail arriving budget = some folded) : EncodedDelta folded := by
  rcases Option.ite_none_left_eq_some.mp made with ⟨_, made⟩
  split at made
  · rename_i leftText leftId rightText rightId readLeft readRight
    rcases Option.ite_none_left_eq_some.mp made with ⟨_, made⟩
    rcases Option.ite_none_left_eq_some.mp made with ⟨_, ⟨⟩⟩
    have first := textDelta_encodes left readLeft
    have second := textDelta_encodes right readRight
    refine ⟨?_, first.2⟩
    exact (Text.within_append (Text.within_size first.1)
      (Text.within_size second.1)).encodes.1
  · cases made

theorem mergedEnvelope_clean {arriving : Envelope}
    (clean : arriving.clean = true) (encoded : EncodedDelta folded) :
    (mergedEnvelope arriving folded).clean = true := by
  have payload : (textPayload folded.1 folded.2).clean = true := by
    have names : (Text.ofString "text").encodes = true ∧
        (Text.ofString "message_id").encodes = true := by decide
    simp only [textPayload, Value.clean, Entries.clean, textKey, messageIdKey, names, encoded.1,
      Bool.true_and, Bool.and_true]
    cases given : folded.2 with
    | none => rfl
    | some id => exact encoded.2 id given
  simp only [Envelope.clean, Bool.and_eq_true] at clean ⊢
  exact ⟨⟨clean.1.1, payload⟩, clean.2⟩

/-! ### The end of the iteration -/

/-- The events that the session publishes are clean. -/
def StreamLabel.clean : StreamLabel → Bool
  | .ingest envelope => envelope.clean
  | _ => true

namespace LocalEventStream

/-- Somebody has ended the stream on purpose. -/
def ended (stream : LocalEventStream) : Bool :=
  stream.consumerClosed || stream.loopClosed || stream.sourceClosed

/-- The events of the window that are not scanned. -/
def unscanned (stream : LocalEventStream) : List Envelope :=
  match stream.opening with
  | .scanning rest _ => rest
  | _ => []

structure Truthful (stream : LocalEventStream) : Prop where
  ingress : ∀ item ∈ stream.ingress, item.envelope.clean = true
  batch : ∀ items, stream.batch = some items → ∀ item ∈ items, item.envelope.clean = true
  window : ∀ envelope ∈ stream.unscanned, envelope.clean = true
  converted : stream.opening ≠ .raising
  caused : (stream.overflowed || stream.closed || stream.brokerClosed) = true →
    stream.error.isSome = true ∨ stream.ended = true
  told : stream.raised = if stream.raisedError then stream.error.toList else []
  known : stream.raisedError = true → stream.error.isSome = true
  stopped : 0 < stream.stops → stream.raisedError = true ∨ stream.ended = true

variable {settings : StreamSettings} {stream next : LocalEventStream}

theorem truthful_subscribed {window : Window}
    (clean : ∀ envelope ∈ window.events, envelope.clean = true) :
    (subscribed window).Truthful where
  ingress := nofun
  batch := nofun
  window := clean
  converted := nofun
  caused := nofun
  told := rfl
  known := nofun
  stopped := nofun

/-- The fields that the cursor and the counters are kept in do not matter. -/
theorem Truthful.congr (truthful : stream.Truthful) (ingress : next.ingress = stream.ingress)
    (batch : next.batch = stream.batch) (opening : next.opening = stream.opening)
    (flags : (next.overflowed || next.closed || next.brokerClosed) =
      (stream.overflowed || stream.closed || stream.brokerClosed))
    (error : next.error = stream.error) (ended : next.ended = stream.ended)
    (raisedError : next.raisedError = stream.raisedError) (raised : next.raised = stream.raised)
    (stops : next.stops = stream.stops) : next.Truthful where
  ingress := by
    rw [ingress]
    exact truthful.ingress
  batch := by
    rw [batch]
    exact truthful.batch
  window := by
    unfold unscanned
    rw [opening]
    exact truthful.window
  converted := by
    rw [opening]
    exact truthful.converted
  caused := by
    rw [flags, error, ended]
    exact truthful.caused
  told := by
    rw [raised, raisedError, error]
    exact truthful.told
  known := by
    rw [raisedError, error]
    exact truthful.known
  stopped := by
    rw [stops, raisedError, ended]
    exact truthful.stopped

theorem Truthful.fail (truthful : stream.Truthful) (error : StreamError) :
    (stream.fail error).Truthful := by
  unfold LocalEventStream.fail
  cases known : stream.error with
  | some first =>
    exact { truthful with ingress := nofun }
  | none =>
    have unraised : stream.raisedError = false := by
      cases raised : stream.raisedError with
      | false => rfl
      | true =>
        have impossible := truthful.known raised
        rw [known] at impossible
        cases impossible
    refine { truthful with ingress := nofun, caused := fun _ => .inl rfl, told := ?_, known := fun _ => rfl }
    show stream.raised = if stream.raisedError then [error] else []
    rw [unraised]
    have told := truthful.told
    rwa [unraised] at told

variable {envelope : Envelope}

theorem Truthful.coalesce (truthful : stream.Truthful)
    (clean : envelope.clean = true) (folded : coalesce settings stream envelope = some next) :
    next.Truthful := by
  unfold LocalEventStream.coalesce at folded
  rcases Option.ite_none_left_eq_some.mp folded with ⟨_, folded⟩
  split at folded
  · rename_i tail last
    rcases Option.map_eq_some_iff.mp folded with ⟨text, made, rfl⟩
    have inside : tail ∈ stream.ingress := mem_of_getLast? last
    have payloads : tail.envelope.payload.clean = true ∧ envelope.payload.clean = true := by
      have first := truthful.ingress tail inside
      simp only [Envelope.clean, Bool.and_eq_true] at first clean
      exact ⟨first.1.2, clean.1.2⟩
    refine { truthful with ingress := ?_ }
    intro item present
    rcases mem_append.mp present with front | back
    · exact truthful.ingress item (mem_of_mem_dropLast front)
    · rw [mem_singleton.mp back]
      exact mergedEnvelope_clean clean (fold_encodes payloads.1 payloads.2 made)
  · split at folded
    · rcases Option.map_eq_some_iff.mp folded with ⟨text, made, rfl⟩
      exact { truthful with }
    · cases folded

theorem Truthful.ingested (truthful : stream.Truthful)
    (clean : envelope.clean = true) : (ingest settings stream envelope).Truthful := by
  unfold ingest
  split
  · exact truthful
  · split
    · exact truthful.congr rfl rfl rfl rfl rfl rfl rfl rfl rfl
    · have scanned : (stream.recordScan envelope.sequence).Truthful :=
        truthful.congr rfl rfl rfl rfl rfl rfl rfl rfl rfl
      simp only
      split
      · cases folded : LocalEventStream.coalesce settings (stream.recordScan envelope.sequence)
            envelope with
        | some next =>
          exact (scanned.coalesce clean folded).congr rfl rfl rfl rfl rfl rfl rfl rfl rfl
        | none => exact (scanned.fail .overflow).congr rfl rfl rfl rfl rfl rfl rfl rfl rfl
      · refine { scanned with ingress := ?_ }
        intro item present
        rcases mem_append.mp present with before | last
        · exact scanned.ingress item before
        · rw [mem_singleton.mp last]
          exact clean

theorem Truthful.opens (truthful : stream.Truthful)
    (stepped : openStep settings stream = some next) : next.Truthful := by
  unfold openStep at stepped
  have window := truthful.window
  unfold unscanned at window
  split at stepped
  · rename_i envelope rest replay scanning
    rw [scanning] at window
    have fresh : envelope.clean = true := window envelope mem_cons_self
    have later : ∀ other ∈ rest, other.clean = true :=
      fun other present => window other (mem_cons_of_mem _ present)
    split at stepped
    · split at stepped
      · cases stepped
        exact { truthful with window := later, converted := nofun }
      · rename_i failure failed
        rcases toRuntimeEvent_clean fresh failed with ⟨error, converts⟩
        simp only [converts] at stepped
        cases stepped
        exact { truthful with window := nofun, converted := nofun }
    · cases stepped
      exact { truthful with window := later, converted := nofun }
  · split at stepped <;> cases stepped <;>
    exact { truthful with window := nofun, converted := nofun }
  · rename_i error refusing
    split at stepped
    · cases stepped
      have failed := truthful.fail error
      exact { failed with window := nofun, converted := nofun }
    · cases stepped
      exact { truthful with window := nofun, converted := nofun }
  · rename_i raising
    exact absurd raising truthful.converted
  · cases stepped
  · cases stepped

variable {items : List Ingressed}

theorem projectBatch_clean
    (clean : ∀ item ∈ items, item.envelope.clean = true) {failure : EventFailure}
    (failed : projectBatch settings items = .error failure) :
    ∃ error, failure.error? = some error := by
  induction items with
  | nil => cases failed
  | cons item rest ih =>
    rw [projectBatch] at failed
    cases first : toRuntimeEvent settings.maxEventBytes item.envelope with
    | error other =>
      rw [first] at failed
      cases failed
      exact toRuntimeEvent_clean (clean item mem_cons_self) first
    | ok event =>
      cases others : projectBatch settings rest with
      | error other =>
        rw [first, others] at failed
        cases failed
        exact ih (fun item present => clean item (mem_cons_of_mem _ present)) others
      | ok projected =>
        rw [first, others] at failed
        cases failed

theorem Truthful.commits (truthful : stream.Truthful)
    (detached : stream.batch = some items) : (commit settings stream items).Truthful := by
  unfold commit
  split
  · split <;>
    exact { truthful with batch := nofun }
  · rename_i failure failed
    rcases projectBatch_clean (truthful.batch items detached) failed with ⟨error, converts⟩
    simp only [converts]
    have failed := truthful.fail error
    exact { failed with batch := nofun }

theorem Truthful.drained (truthful : stream.Truthful) : stream.drain.Truthful := by
  unfold drain
  split
  · exact { truthful with ingress := nofun }
  · split
    · exact truthful.congr rfl rfl rfl rfl rfl rfl rfl rfl rfl
    · refine { truthful with ingress := nofun, batch := ?_ }
      intro items detached
      obtain rfl := Option.some.inj detached
      exact truthful.ingress

theorem Truthful.iterated (truthful : stream.Truthful) (stepped : stream.anext = some next) :
    next.Truthful := by
  unfold anext at stepped
  split at stepped
  · rename_i error known unraised
    cases stepped
    refine { truthful with told := ?_, known := fun _ => by rw [known]; rfl, stopped := fun _ => .inl rfl }
    have told := truthful.told
    rw [unraised] at told
    simp only [told, known]
    rfl
  · rename_i quiet
    split at stepped
    · cases stepped
      exact truthful.congr rfl rfl rfl rfl rfl rfl rfl rfl rfl
    · cases stepped
      exact truthful.congr rfl rfl rfl rfl rfl rfl rfl rfl rfl
    · rcases of_guard stepped with ⟨terminated, rfl⟩
      refine { truthful with stopped := fun _ => ?_ }
      have flags : (stream.overflowed || stream.closed || stream.brokerClosed) = true := by
        simp only [LocalEventStream.terminated, Bool.and_eq_true, Bool.or_eq_true] at terminated ⊢
        tauto
      rcases truthful.caused flags with known | ended
      · rcases Option.isSome_iff_exists.mp known with ⟨error, found⟩
        -- an error that is not raised would have been raised by this call
        cases raised : stream.raisedError with
        | true => exact .inl rfl
        | false => exact absurd raised (quiet error found)
      · exact .inr ended

theorem Truthful.step (truthful : stream.Truthful) {label : StreamLabel}
    (clean : label.clean = true) (stepped : step settings stream label = some next) :
    next.Truthful := by
  cases label with
  | «open» => exact truthful.opens stepped
  | ingest envelope =>
    rcases of_guard stepped with ⟨_, rfl⟩
    apply Truthful.ingested _ clean
    exact truthful.congr rfl rfl rfl rfl rfl rfl rfl rfl rfl
  | brokerClose =>
    cases stepped
    refine { truthful with caused := fun _ => .inr (Bool.or_true _), stopped := fun _ => .inr (Bool.or_true _) }
  | close =>
    cases stepped
    unfold LocalEventStream.close
    split
    · exact truthful
    · have ended : (true || stream.loopClosed || stream.sourceClosed) = true := rfl
      exact { truthful with caused := fun _ => .inr ended, stopped := fun _ => .inr ended }
  | loopClosed =>
    rcases of_guard stepped with ⟨_, rfl⟩
    have ended : (stream.consumerClosed || true || stream.sourceClosed) = true := by simp
    exact { truthful with ingress := nofun, caused := fun _ => .inr ended, stopped := fun _ => .inr ended }
  | drain =>
    rcases of_guard stepped with ⟨_, rfl⟩
    exact truthful.drained
  | commit =>
    rcases Option.map_eq_some_iff.mp stepped with ⟨items, detached, rfl⟩
    exact truthful.commits detached
  | anext =>
    rcases Option.ite_none_right_eq_some.mp stepped with ⟨_, stepped⟩
    exact truthful.iterated stepped

/-- The settings of a watch without a filter. -/
def plainStream : StreamSettings where
  queueSize := 1024
  roomy := by decide
  maxEventBytes := 1024 * 1024
  kinds := []
  turnIds := []

def emptyWindow : Window where
  after := 0
  events := []
  contiguous := rfl

/-- A delta with the given text. -/
def answerEnvelope (sequence : ℕ) (text : Text) : Envelope where
  sequence := sequence
  turnSequence := sequence
  turnId := Text.ofString "turn"
  kind := Text.ofString "answer_delta"
  payload := textPayload text none
  version := 1

def firstEvent (envelope : Envelope) : List StreamLabel :=
  [.open, .ingest envelope, .drain, .commit, .anext]

end LocalEventStream

end Service

end Synapse
