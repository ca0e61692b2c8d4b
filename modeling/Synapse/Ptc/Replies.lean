import Synapse.Ptc.Run

/-!
# Answered calls

A frame that cannot be encoded is dropped without a word, on both sides of the pipe. As long as
no such frame is to be sent, each call that was sent has one place: with the host, in an answer
on its way, or behind it. A run that comes to rest has then answered every call.
-/

namespace Synapse.Ptc

open List

/-! ### Frames that can be sent -/

/-- The result of the tool can be reported: what it returns can be encoded inside a frame, or the
text that says why not. -/
def ToolOutcome.writable (settings : RunSettings) : ToolOutcome → Bool
  | .value content described =>
    match encodeJson settings.nesting content with
    | .error error =>
      caught error &&
        (short (Text.ofString "tool result is not JSON-serializable: " ++ described)).encodes
    | .ok size =>
      decide (settings.maxResultBytes < size) || encodable (settings.nesting - 1) content
  | .raised failure =>
    match failure.fields with
    | some (kind, name, message) => kind.encodes && name.encodes && (short message).encodes
    | none => false
  | .unreadable | .cancelled => false

/-- The call can be sent, or sending it raises. -/
def writableCall (settings : RunSettings) (name : Text) (arguments : Entries) : Bool :=
  match encodeJson (settings.nesting - 1) (.mapping true arguments) with
  | .ok _ => name.encodes
  | .error error => !caught error

/-- The texts that the worker reports at the end of the script can be encoded. -/
def ScriptEnd.writable (settings : RunSettings) : ScriptEnd → Bool
  | .compileError message => (short message).encodes
  | .toolError toolName message =>
    (short (if toolName = [] then message else toolName ++ Text.ofString ": " ++ message)).encodes
  | .exception (some error) => (short error.printed).encodes
  | .exception none | .cancelled => true
  | .value content described =>
    match encodeJson settings.nesting content with
    | .error error =>
      !caught error ||
        (short (Text.ofString "result is not JSON-serializable: " ++ described)).encodes
    | .ok _ => true

/-- Nothing that the step has to send is dropped. -/
def PtcRun.writable (settings : RunSettings) (run : PtcRun) : RunLabel → Bool
  | .enter =>
    match run.waiting with
    | (name, arguments) :: _ => writableCall settings name arguments
    | [] => true
  | .dispatched _ outcome => outcome.writable settings
  | .returns scriptEnd tasks =>
    scriptEnd.writable settings ||
      (scriptEnd matches .value _ _ && decide (0 < max run.awaiting tasks))
  | .report (some raised) => (short raised.printed).encodes
  | _ => true

variable {settings : RunSettings}

theorem nesting_eq : settings.nesting - 2 + 2 = settings.nesting :=
  Nat.sub_add_cancel settings.nesting_le

theorem nesting_succ : settings.nesting - 1 + 1 = settings.nesting :=
  Nat.sub_add_cancel (Nat.le_of_succ_le settings.nesting_le)

theorem encodes_number (value : ℕ) : (number value).encodes = true :=
  (Text.within_decimal (value + 1) value).encodes.1

theorem errorFrame_sent {call : ℕ} {kind name message : Text} (kinds : kind.encodes = true)
    (names : name.encodes = true) (messages : message.encodes = true) :
    ∃ size, encodeFrame settings.nesting (toolResultFrame call (.error kind name message)) =
      .ok size := by
  rw [← nesting_eq]
  exact encodeFrame_of_encodable (encodable_errorFrame kinds names messages)

theorem failedResult_sent {error : ScriptError}
    (kinds : (Text.ofString error.kind).encodes = true) (messages : error.message.encodes = true) :
    ∃ size, encodeFrame settings.nesting (resultFrame .null (some error)) = .ok size := by
  rw [← nesting_eq]
  exact encodeFrame_of_encodable (encodable_failedResult kinds messages)

variable {name : Text}

theorem reply_sent {outcome : ToolOutcome} (writable : outcome.writable settings = true)
    (named : name.encodes = true) (call : ℕ) :
    ∃ response size, settings.reply name outcome = some response ∧
      encodeFrame settings.nesting (toolResultFrame call response) = .ok size := by
  cases outcome with
  | value value described =>
    unfold ToolOutcome.writable at writable
    unfold RunSettings.reply
    cases encoded : encodeJson settings.nesting value with
    | error error =>
      simp only [encoded, Bool.and_eq_true] at writable ⊢
      rw [if_pos writable.1]
      rcases @errorFrame_sent settings call (Text.ofString "tool_error") name _ (by decide) named
        writable.2 with ⟨size, sent⟩
      exact ⟨_, size, rfl, sent⟩
    | ok size =>
      simp only [encoded, Bool.or_eq_true, decide_eq_true_eq] at writable ⊢
      by_cases large : settings.maxResultBytes < size
      · rw [if_pos large]
        have message := encodes_short (encodes_append (encodes_append
          (by decide : (Text.ofString "tool result exceeds max_result_bytes (").encodes = true)
          (encodes_number settings.maxResultBytes))
          (by decide : (Text.ofString ")").encodes = true))
        rcases @errorFrame_sent settings call (Text.ofString "limit") name _ (by decide) named
          message with ⟨size, sent⟩
        exact ⟨_, size, rfl, sent⟩
      · rw [if_neg large]
        have fits := @encodable_valueFrame _ call value (writable.resolve_left large)
        rw [nesting_succ] at fits
        rcases encodeFrame_of_encodable fits with ⟨size, sent⟩
        exact ⟨_, size, rfl, sent⟩
  | raised error =>
    unfold ToolOutcome.writable at writable
    unfold RunSettings.reply
    cases read : error.fields with
    | none => simp only [read, Bool.false_eq_true] at writable
    | some fields =>
      rcases fields with ⟨kind, raisedBy, message⟩
      simp only [read, Bool.and_eq_true] at writable
      have label : Text.encodes (if raisedBy = [] then name else raisedBy) = true := by
        split
        · exact named
        · exact writable.1.2
      rcases @errorFrame_sent settings call kind _ _ writable.1.1 label writable.2 with
        ⟨size, sent⟩
      refine ⟨_, size, ?_, sent⟩
      simp only [read]
      rfl
  | unreadable | cancelled => cases writable

theorem call_sent {arguments : Entries}
    (writable : writableCall settings name arguments = true) (call : ℕ) :
    (name.encodes = true ∧
      ∃ size, encodeFrame settings.nesting (toolCallFrame call name arguments) = .ok size) ∨
      ∃ error, encodeFrame settings.nesting (toolCallFrame call name arguments) = .error error ∧
        caught error = false := by
  unfold writableCall at writable
  rw [← @nesting_succ settings]
  cases encoded : encodeJson (settings.nesting - 1) (.mapping true arguments) with
  | ok size =>
    rw [encoded] at writable
    refine .inl ⟨writable, encodeFrame_of_encodable ?_⟩
    apply @encodable_object _ _ ["type", "id", "name", "arguments"] rfl (by decide)
    intro member present
    simp only [mem_cons, not_mem_nil, or_false] at present
    rcases present with rfl | rfl | rfl | rfl
    · exact encodable_str (by decide)
    · exact encodable_callId call
    · exact encodable_str writable
    · exact encodable_of_ok encoded
  | error error =>
    rw [encoded] at writable
    have passes : caught error = false := by simpa using writable
    refine .inr ⟨error, ?_, passes⟩
    apply @encodeFrame_raises (settings.nesting - 1)
      [("type", literal "tool_call"), ("id", callId call), ("name", .str true name)] []
    · intro member present
      simp only [mem_cons, not_mem_nil, or_false] at present
      rcases present with rfl | rfl | rfl <;> exact ⟨_, rfl⟩
    · exact dumps_of_uncaught encoded passes

/-- Sending the result is not dropped: the frame is written, or the exception is reported. -/
def Reports (settings : RunSettings) (frame : Value) : Prop :=
  (∃ size, encodeFrame settings.nesting frame = .ok size) ∨
    ∃ error, encodeFrame settings.nesting frame = .error error ∧ caught error = false

theorem reports_error {kind : String} {message : Text}
    (kinds : (Text.ofString kind).encodes = true) (messages : message.encodes = true) :
    Reports settings (resultFrame .null (some ⟨kind, message⟩)) :=
  .inl (failedResult_sent kinds messages)

variable {value : Value}

/-- A value that could be encoded by itself is written, or its frame is nested too deep. -/
theorem reports_value {size : ℕ}
    (encoded : encodeJson settings.nesting value = .ok size) :
    Reports settings (resultFrame value none) := by
  rcases encodable_iff.mp (encodable_of_ok encoded) with ⟨text, dumped, encodes⟩
  unfold Reports
  rw [← @nesting_succ settings] at dumped ⊢
  rcases Value.dumps_cut (Nat.le_succ (settings.nesting - 1)) value dumped with same | deep
  · exact .inl (encodeFrame_of_encodable
      (encodable_returned (encodable_iff.mpr ⟨text, same, encodes⟩)))
  · refine .inr ⟨.accessor, ?_, rfl⟩
    apply @encodeFrame_raises (settings.nesting - 1) [("type", literal "result")] [("error", .null)]
    · intro member present
      obtain rfl := mem_singleton.mp present
      exact ⟨_, rfl⟩
    · exact deep

theorem report_sent {scriptEnd : ScriptEnd} {unfinished : ℕ}
    {error : Option ScriptError}
    (writable : (scriptEnd.writable settings ||
      (scriptEnd matches .value _ _ && decide (0 < unfinished))) = true)
    (reported : settings.report unfinished scriptEnd = .result value error) :
    Reports settings (resultFrame value error) := by
  rw [Bool.or_eq_true, Bool.and_eq_true, decide_eq_true_eq] at writable
  cases scriptEnd with
  | compileError message =>
    obtain ⟨rfl, rfl⟩ := Report.result.inj reported
    exact reports_error (by decide) (writable.resolve_right nofun)
  | toolError toolName message =>
    obtain ⟨rfl, rfl⟩ := Report.result.inj reported
    exact reports_error (by decide) (writable.resolve_right nofun)
  | exception raised =>
    cases raised with
    | none => cases reported
    | some raised =>
      obtain ⟨rfl, rfl⟩ := Report.result.inj reported
      exact reports_error (by decide) (writable.resolve_right nofun)
  | cancelled => cases reported
  | value content described =>
    unfold RunSettings.report at reported
    by_cases left : 0 < unfinished
    · simp only [if_pos left] at reported
      obtain ⟨rfl, rfl⟩ := Report.result.inj reported
      apply reports_error (by decide)
      apply encodes_short
      iterate 4 apply encodes_append _ (by decide)
      exact encodes_append (by decide) (encodes_number unfinished)
    · simp only [if_neg left] at reported
      have fine := writable.resolve_right fun early => left early.2
      unfold ScriptEnd.writable at fine
      cases encoded : encodeJson settings.nesting content with
      | error failure =>
        simp only [encoded, Bool.or_eq_true, Bool.not_eq_true'] at reported fine
        cases passes : caught failure with
        | false =>
          rw [passes, if_neg Bool.false_ne_true] at reported
          cases reported
        | true =>
          rw [passes, if_pos rfl] at reported
          obtain ⟨rfl, rfl⟩ := Report.result.inj reported
          rw [passes] at fine
          exact reports_error (by decide) (fine.resolve_left nofun)
      | ok size =>
        simp only [encoded] at reported
        split at reported
        · obtain ⟨rfl, rfl⟩ := Report.result.inj reported
          apply reports_error (by decide)
          exact encodes_append (encodes_append (by decide)
            (encodes_number settings.maxResultBytes)) (by decide)
        · obtain ⟨rfl, rfl⟩ := Report.result.inj reported
          exact reports_value encoded

/-! ### The place of a call -/

/-- `flow` lists the calls that are with the host or answered. Each call whose frame was sent is
among them, and one that still awaits its answer has it in the pipe. -/
structure Accounted (calls : List ToolCall) (sent flow : List ℕ)
    (toWorker answers : List (ℕ × Response)) : Prop where
  flows : flow.Perm sent
  distinct : sent.Nodup
  known : ∀ index, index ∈ sent ↔ ∃ call, calls[index]? = some call ∧ call.state ≠ .raised
  awaited : ∀ {index call response}, calls[index]? = some call → call.awaits = true →
    (index, response) ∈ answers → (index, response) ∈ toWorker
  returned : ∀ {index call value}, calls[index]? = some call → call.state = .returned value →
    (index, .value value) ∈ answers
  piped : toWorker ⊆ answers

namespace Accounted

variable {calls next : List ToolCall} {sent flow moved : List ℕ}
  {toWorker answers : List (ℕ × Response)}

theorem init : Accounted [] [] [] [] [] where
  flows := List.Perm.refl _
  distinct := nodup_nil
  known := by simp
  awaited := nofun
  returned := nofun
  piped := Subset.refl _

theorem unsent (accounted : Accounted calls sent flow toWorker answers) : calls.length ∉ sent := by
  intro present
  rcases (accounted.known calls.length).mp present with ⟨call, found, _⟩
  rw [getElem?_eq_none (le_refl _)] at found
  cases found

theorem answered (accounted : Accounted calls sent (flow ++ answers.map Prod.fst) toWorker answers)
    {index : ℕ} {response : Response} (present : (index, response) ∈ answers) : index ∈ sent :=
  accounted.flows.mem_iff.mp (mem_append_right _ (mem_map_of_mem present))

theorem rerouted (accounted : Accounted calls sent flow toWorker answers)
    (same : moved.Perm flow) : Accounted calls sent moved toWorker answers :=
  { accounted with flows := same.trans accounted.flows }

theorem written (accounted : Accounted calls sent (flow ++ answers.map Prod.fst) toWorker answers)
    (name : Text) (same : moved.Perm (calls.length :: (flow ++ answers.map Prod.fst))) :
    Accounted (calls ++ [⟨name, .awaiting⟩]) (sent ++ [calls.length]) moved toWorker answers where
  flows := by
    refine same.trans ((accounted.flows.cons calls.length).trans ?_)
    exact (perm_append_singleton calls.length sent).symm
  distinct := by
    refine accounted.distinct.append (nodup_singleton _) ?_
    intro index present last
    rw [mem_singleton.mp last] at present
    exact accounted.unsent present
  known := by
    intro index
    rw [mem_append, mem_singleton, accounted.known index]
    constructor
    · rintro (⟨call, found, sent⟩ | rfl)
      · exact ⟨call, Locks.getElem?_append_left found _, sent⟩
      · exact ⟨⟨name, .awaiting⟩, by simp, nofun⟩
    · rintro ⟨call, found, sent⟩
      rcases Locks.getElem?_append_one found with before | ⟨last, _⟩
      · exact .inl ⟨call, before, sent⟩
      · exact .inr last
  awaited := by
    intro index call response found awaits present
    rcases Locks.getElem?_append_one found with before | ⟨rfl, _⟩
    · exact accounted.awaited before awaits present
    · exact absurd (accounted.answered present) accounted.unsent
  returned := by
    intro index call value found returned
    rcases Locks.getElem?_append_one found with before | ⟨_, rfl⟩
    · exact accounted.returned before returned
    · cases returned
  piped := accounted.piped

theorem refused (accounted : Accounted calls sent flow toWorker answers) (name : Text) :
    Accounted (calls ++ [⟨name, .raised⟩]) sent flow toWorker answers where
  flows := accounted.flows
  distinct := accounted.distinct
  known := by
    intro index
    rw [accounted.known index]
    constructor
    · rintro ⟨call, found, sent⟩
      exact ⟨call, Locks.getElem?_append_left found _, sent⟩
    · rintro ⟨call, found, sent⟩
      rcases Locks.getElem?_append_one found with before | ⟨_, rfl⟩
      · exact ⟨call, before, sent⟩
      · exact absurd rfl sent
  awaited := by
    intro index call response found awaits present
    rcases Locks.getElem?_append_one found with before | ⟨_, rfl⟩
    · exact accounted.awaited before awaits present
    · cases awaits
  returned := by
    intro index call value found returned
    rcases Locks.getElem?_append_one found with before | ⟨_, rfl⟩
    · exact accounted.returned before returned
    · cases returned
  piped := accounted.piped

/-- A state in which the answers let a call end. -/
def Ends (answers : List (ℕ × Response)) (index : ℕ) (state : CallState) : Prop :=
  state ≠ .awaiting ∧ state ≠ .raised ∧
    ∀ value, state = .returned value → (index, .value value) ∈ answers

theorem ends_cancelled (index : ℕ) : Ends answers index .cancelled := by
  refine ⟨?_, ?_, ?_⟩
  · rintro ⟨⟩
  · rintro ⟨⟩
  · rintro value ⟨⟩

theorem ends_failed (index : ℕ) {kind name message : Text} :
    Ends answers index (.failed kind name message) := by
  refine ⟨?_, ?_, ?_⟩
  · rintro ⟨⟩
  · rintro ⟨⟩
  · rintro value ⟨⟩

theorem settled (accounted : Accounted calls sent flow toWorker answers)
    (change : ∀ index, next[index]? = calls[index]? ∨ ∃ call after,
      calls[index]? = some call ∧ call.awaits = true ∧ next[index]? = some after ∧
      Ends answers index after.state) : Accounted next sent flow toWorker answers where
  flows := accounted.flows
  distinct := accounted.distinct
  known := by
    intro index
    rw [accounted.known index]
    rcases change index with same | ⟨call, after, found, awaits, changed, ends⟩
    · rw [same]
    · have awaiting : call.state ≠ .raised := by
        intro raised
        simp [ToolCall.awaits, raised] at awaits
      constructor
      · rintro -
        exact ⟨after, changed, ends.2.1⟩
      · rintro -
        exact ⟨call, found, awaiting⟩
  awaited := by
    intro index call response found awaits present
    rcases change index with same | ⟨before, after, _, _, changed, ends⟩
    · rw [same] at found
      exact accounted.awaited found awaits present
    · obtain rfl := Option.mem_unique changed found
      exact absurd (of_decide_eq_true awaits) ends.1
  returned := by
    intro index call value found returned
    rcases change index with same | ⟨before, after, _, _, changed, ends⟩
    · rw [same] at found
      exact accounted.returned found returned
    · obtain rfl := Option.mem_unique changed found
      exact ends.2.2 value returned
  piped := accounted.piped

theorem taken (accounted : Accounted calls sent flow toWorker answers)
    {rest : List (ℕ × Response)} (fewer : rest ⊆ toWorker)
    (unawaited : ∀ {index call response}, calls[index]? = some call → call.awaits = true →
      (index, response) ∈ toWorker → (index, response) ∈ rest) :
    Accounted calls sent flow rest answers where
  flows := accounted.flows
  distinct := accounted.distinct
  known := accounted.known
  awaited := fun found awaits present => unawaited found awaits (accounted.awaited found awaits present)
  returned := accounted.returned
  piped := List.Subset.trans fewer accounted.piped

theorem replied (accounted : Accounted calls sent flow toWorker answers) (index : ℕ)
    (response : Response) (same : moved.Perm flow) :
    Accounted calls sent moved (toWorker ++ [(index, response)]) (answers ++ [(index, response)]) where
  flows := same.trans accounted.flows
  distinct := accounted.distinct
  known := accounted.known
  awaited := by
    intro other call given found awaits present
    rcases mem_append.mp present with before | last
    · exact mem_append_left _ (accounted.awaited found awaits before)
    · exact mem_append_right _ last
  returned := fun found returned => mem_append_left _ (accounted.returned found returned)
  piped := by
    intro entry present
    rcases mem_append.mp present with before | last
    · exact mem_append_left _ (accounted.piped before)
    · exact mem_append_right _ last

end Accounted

/-! ### The steps -/

def WorkerFrame.asked : WorkerFrame → Option (ℕ × Text)
  | .toolCall call name _ => some (call, name)
  | .result _ => none

namespace PtcRun

/-- The calls that the host has or will read. -/
def pending (run : PtcRun) : List (ℕ × Text) :=
  run.toHost.filterMap WorkerFrame.asked ++ (run.acquiring.toList ++ run.dispatching)

/-- A script that is not reported has sent no result, and will not drop the one it is to send. -/
def Reported (settings : RunSettings) (results : List (Value × Option ScriptError)) :
    ScriptState → Prop
  | .running | .returned .raises | .returned .crashes | .exited .crashed => results = []
  | .returned (.result value error) => results = [] ∧ Reports settings (resultFrame value error)
  | .exited .normal | .exited .internalError => results.length = 1

structure Sound (settings : RunSettings) (run : PtcRun) : Prop where
  accounted : Accounted run.calls run.sent
    (run.pending.map Prod.fst ++ run.answers.map Prod.fst) run.toWorker run.answers
  named : ∀ entry ∈ run.pending, Text.encodes entry.2 = true
  reported : Reported settings run.results run.script

variable {run next : PtcRun}

theorem sound_init : init.Sound settings where
  accounted := Accounted.init
  named := nofun
  reported := rfl

theorem Sound.rerouted (sound : run.Sound settings) (calls : next.calls = run.calls)
    (sent : next.sent = run.sent) (toWorker : next.toWorker = run.toWorker)
    (answers : next.answers = run.answers) (script : next.script = run.script)
    (results : next.results = run.results) (same : next.pending.Perm run.pending) :
    next.Sound settings where
  accounted := by
    rw [calls, sent, toWorker, answers]
    exact sound.accounted.rerouted ((same.map Prod.fst).append_right _)
  named := fun entry present => sound.named entry (same.mem_iff.mp present)
  reported := by
    rw [script, results]
    exact sound.reported

variable {name : Text}

theorem Sound.sendCall {arguments : Entries} (sound : run.Sound settings)
    (writable : writableCall settings name arguments = true) :
    (run.sendCall settings name arguments).Sound settings := by
  unfold PtcRun.sendCall
  rcases call_sent writable (run.calls.length + 1) with
    ⟨encodes, size, sent⟩ | ⟨error, failed, passes⟩
  · rw [sent]
    have moved : ((run.toHost ++ [WorkerFrame.toolCall run.calls.length name size]).filterMap
        WorkerFrame.asked ++ (run.acquiring.toList ++ run.dispatching)).Perm
        ((run.calls.length, name) :: run.pending) := by
      rw [filterMap_append, append_assoc]
      exact perm_middle
    refine ⟨sound.accounted.written name ((moved.map Prod.fst).append_right _), ?_, sound.reported⟩
    intro entry present
    rcases mem_cons.mp (moved.mem_iff.mp present) with rfl | before
    · exact encodes
    · exact sound.named entry before
  · rw [failed]
    simp only [passes, Bool.false_eq_true, if_false]
    exact ⟨sound.accounted.refused name, sound.named, sound.reported⟩

theorem Sound.settled {calls : List ToolCall} (sound : run.Sound settings)
    (change : ∀ index, calls[index]? = run.calls[index]? ∨ ∃ call after,
      run.calls[index]? = some call ∧ call.awaits = true ∧ calls[index]? = some after ∧
      Accounted.Ends run.answers index after.state) :
    ({ run with calls := calls }).Sound settings :=
  ⟨sound.accounted.settled change, sound.named, sound.reported⟩

theorem Sound.setCall (sound : run.Sound settings) {index : ℕ} {call after : ToolCall}
    (found : run.calls[index]? = some call) (awaits : call.awaits = true)
    (ends : Accounted.Ends run.answers index after.state) :
    (run.setCall index after).Sound settings := by
  apply sound.settled
  intro other
  rw [Locks.getElem?_set_of_found found]
  split
  · rename_i same
    subst same
    exact .inr ⟨call, after, found, awaits, rfl, ends⟩
  · exact .inl rfl

theorem Sound.settleAll (sound : run.Sound settings) {state : CallState}
    (ends : ∀ index, Accounted.Ends run.answers index state) :
    (run.settleAll state).Sound settings := by
  apply sound.settled
  intro index
  rw [getElem?_map]
  cases found : run.calls[index]? with
  | none => exact .inl rfl
  | some call =>
    cases awaits : call.awaits with
    | false => exact .inl (by simp [awaits])
    | true => exact .inr ⟨call, { call with state := state }, rfl, awaits, by simp [awaits], ends index⟩

theorem settleAll_awaits {state : CallState} (ended : state ≠ .awaiting) {index : ℕ}
    {call : ToolCall} (found : (run.settleAll state).calls[index]? = some call) :
    call.awaits = false := by
  unfold PtcRun.settleAll at found
  rw [getElem?_map] at found
  rcases Option.map_eq_some_iff.mp found with ⟨before, _, rfl⟩
  cases awaits : before.awaits with
  | false => simp [awaits]
  | true => simpa [awaits, ToolCall.awaits] using ended

theorem Sound.delivered {index : ℕ} {response : Response} {rest : List (ℕ × Response)}
    (sound : run.Sound settings) (piped : run.toWorker = (index, response) :: rest) :
    (({ run with toWorker := rest }).delivered index response).Sound settings := by
  have inside : (index, response) ∈ run.answers := by
    apply sound.accounted.piped
    rw [piped]
    exact mem_cons_self
  -- the call ends while its answer is in the pipe, and then the answer leaves the pipe
  have drop : ∀ {after : PtcRun}, after.Sound settings → after.toWorker = run.toWorker →
      (∀ call, after.calls[index]? = some call → call.awaits = false) →
      ({ after with toWorker := rest }).Sound settings := by
    intro after holds same unawaited
    refine ⟨holds.accounted.taken ?_ ?_, holds.named, holds.reported⟩
    · rw [same, piped]
      exact subset_cons_self _ _
    · intro other call given found awaits present
      rw [same, piped] at present
      rcases mem_cons.mp present with head | later
      · obtain ⟨rfl, rfl⟩ := Prod.mk.inj head
        rw [unawaited call found] at awaits
        cases awaits
      · exact later
  unfold PtcRun.delivered
  cases found : run.calls[index]? with
  | none =>
    simp only
    exact drop sound rfl (by simp [found])
  | some call =>
    simp only
    cases awaits : call.awaits with
    | false =>
      simp only [Bool.false_eq_true, if_false]
      refine drop sound rfl fun other same => ?_
      obtain rfl := Option.mem_unique found same
      exact awaits
    | true =>
      have ends : Accounted.Ends run.answers index (call.respond response) := by
        cases response with
        | error kind name message => exact Accounted.ends_failed index
        | value content =>
          refine ⟨nofun, nofun, fun other same => ?_⟩
          obtain rfl := CallState.returned.inj same
          exact inside
      have settled := @Sound.setCall settings run sound index call
        { call with state := call.respond response } found awaits ends
      refine drop settled rfl fun other same => ?_
      unfold PtcRun.setCall at same
      rw [Locks.getElem?_set_of_found found, if_pos rfl] at same
      obtain rfl := Option.some.inj same
      exact decide_eq_false ends.1

theorem Sound.failAll (sound : run.Sound settings) (message : String) :
    (run.failAll message).Sound settings :=
  sound.settleAll fun index => Accounted.ends_failed index

theorem Sound.answer {before : PtcRun} (sound : before.Sound settings) {call : ℕ} {name : Text}
    {response : Response} (calls : run.calls = before.calls) (sent : run.sent = before.sent)
    (toWorker : run.toWorker = before.toWorker) (answers : run.answers = before.answers)
    (script : run.script = before.script) (results : run.results = before.results)
    (moved : before.pending.Perm ((call, name) :: run.pending))
    (written : ∃ size, encodeFrame settings.nesting (toolResultFrame (call + 1) response) =
      .ok size) : (run.answer settings call response).Sound settings := by
  rcases written with ⟨size, written⟩
  unfold PtcRun.answer
  rw [written]
  refine ⟨?_, ?_, ?_⟩
  · have same : (run.pending.map Prod.fst ++ (before.answers ++ [(call, response)]).map Prod.fst).Perm
        (before.pending.map Prod.fst ++ before.answers.map Prod.fst) := by
      rw [map_append, ← append_assoc]
      exact (perm_append_singleton call _).trans
        ((moved.map Prod.fst).append_right _).symm
    have replied := sound.accounted.replied call response same
    rw [← calls, ← sent, ← toWorker, ← answers] at replied
    exact replied
  · intro entry present
    exact sound.named entry (moved.mem_iff.mpr (mem_cons_of_mem _ present))
  · show Reported settings run.results run.script
    rw [script, results]
    exact sound.reported

theorem Sound.handleFrame (sound : run.Sound settings) {frame : WorkerFrame}
    {rest : List WorkerFrame} (first : run.toHost = frame :: rest) (free : run.acquiring = none) :
    (run.handleFrame settings rest frame).Sound settings := by
  have stopped : run.stopped.Sound settings := ⟨sound.accounted, sound.named, sound.reported⟩
  cases frame with
  | result size => exact stopped
  | toolCall call name size =>
    have moved : run.pending = (call, name) :: (rest.filterMap WorkerFrame.asked ++
        ([] ++ run.dispatching)) := by
      unfold pending
      rw [first, free]
      rfl
    have named : name.encodes = true := by
      apply sound.named (call, name)
      rw [moved]
      exact mem_cons_self
    simp only [PtcRun.handleFrame]
    split
    · exact stopped
    · split
      · exact stopped
      · split
        · refine @Sound.rerouted settings run
            { run with toHost := rest, counted := run.counted + 1, acquiring := some (call, name) }
            sound rfl rfl rfl rfl rfl rfl ?_
          rw [moved]
          exact perm_middle
        · refine @Sound.answer settings { run with toHost := rest, counted := run.counted + 1 }
            run sound call name _ rfl rfl rfl rfl rfl rfl ?_ ?_
          · rw [moved]
            unfold pending
            rw [free]
            exact List.Perm.refl _
          · apply errorFrame_sent (by decide) named
            exact encodes_short (encodes_append (by decide) (settings.repr name).property)

/-- A call of the host is dispatched, and its task reports the outcome. -/
theorem Sound.dispatched (sound : run.Sound settings) {index call : ℕ}
    {outcome : ToolOutcome} (found : run.dispatching[index]? = some (call, name))
    (writable : outcome.writable settings = true) :
    ∃ response, settings.reply name outcome = some response ∧
      (({ run with dispatching := run.dispatching.eraseIdx index }).answer settings call
        response).Sound settings := by
  rcases List.getElem?_eq_some_iff.mp found with ⟨inside, at'⟩
  have moved : run.dispatching.Perm ((call, name) :: run.dispatching.eraseIdx index) := by
    rw [← at']
    exact (getElem_cons_eraseIdx_perm inside).symm
  have named : name.encodes = true := by
    apply sound.named (call, name)
    unfold pending
    exact mem_append_right _ (mem_append_right _ (mem_of_getElem? found))
  rcases reply_sent writable named (call + 1) with ⟨response, size, replied, sent⟩
  refine ⟨response, replied, ?_⟩
  refine @Sound.answer settings { run with dispatching := run.dispatching.eraseIdx index } run sound
    call name _ rfl rfl rfl rfl rfl rfl ?_ ⟨size, sent⟩
  unfold pending
  refine ((moved.append_left _).append_left _).trans ?_
  exact (List.perm_middle.append_left _).trans perm_middle

theorem Sound.result (sound : run.Sound settings) (unreported : run.results = [])
    {value : Value} {error : Option ScriptError} {size : ℕ}
    (written : encodeFrame settings.nesting (resultFrame value error) = .ok size) :
    ∃ sent, run.sendResult settings value error = .ok sent ∧
      (sent.exit .normal).Sound settings ∧ (sent.exit .internalError).Sound settings := by
  unfold PtcRun.sendResult
  rw [written]
  have same : (run.toHost ++ [WorkerFrame.result size]).filterMap WorkerFrame.asked =
      run.toHost.filterMap WorkerFrame.asked := by
    rw [filterMap_append]
    exact append_nil _
  have settle : ∀ script : ScriptState,
      Reported settings (run.results ++ [(value, error)]) script →
      ({ run with
        results := run.results ++ [(value, error)], toHost := run.toHost ++ [WorkerFrame.result size]
        script := script }).Sound settings := by
    intro script reported
    refine ⟨?_, ?_, reported⟩
    · unfold pending
      rw [same]
      exact sound.accounted
    · intro entry present
      unfold pending at present
      rw [same] at present
      exact sound.named entry present
  have one : (run.results ++ [(value, error)]).length = 1 := by rw [unreported]; rfl
  exact ⟨_, rfl, settle (.exited .normal) one, settle (.exited .internalError) one⟩

theorem Sound.crash (sound : run.Sound settings) (unreported : run.results = []) :
    (run.exit .crashed).Sound settings :=
  ⟨sound.accounted, sound.named, unreported⟩

variable {raised : Option ErrorText}

theorem Sound.internal (sound : run.Sound settings) (unreported : run.results = [])
    (writable : ∀ error, raised = some error → (short error.printed).encodes = true) :
    (run.internal settings raised).Sound settings := by
  unfold PtcRun.internal
  cases raised with
  | none => exact sound.crash unreported
  | some error =>
    have kind : (Text.ofString "internal_error").encodes = true := by decide
    rcases @failedResult_sent settings ⟨"internal_error", short error.printed⟩ kind
      (writable error rfl) with ⟨size, written⟩
    rcases sound.result unreported written with ⟨sent, ok, _, fine⟩
    simp only [ok]
    exact fine

theorem Sound.finish (sound : run.Sound settings) {report : Report}
    (returned : run.script = .returned report)
    (writable : ∀ error, raised = some error → (short error.printed).encodes = true) :
    (run.finish settings report raised).Sound settings := by
  have reported := sound.reported
  rw [returned] at reported
  cases report with
  | crashes => exact sound.crash reported
  | raises => exact sound.internal reported writable
  | result value error =>
    unfold PtcRun.finish
    rcases reported.2 with ⟨size, written⟩ | ⟨failure, failed, passes⟩
    · rcases sound.result reported.1 written with ⟨sent, ok, fine, _⟩
      simp only [ok]
      exact fine
    · have error : run.sendResult settings value error = .error failure := by
        unfold PtcRun.sendResult
        rw [failed]
        simp only [passes, Bool.false_eq_true, if_false]
      simp only [error]
      exact sound.internal reported.1 writable

theorem Sound.returns (sound : run.Sound settings) {scriptEnd : ScriptEnd} {tasks : ℕ}
    (running : run.script = .running)
    (writable : run.writable settings (.returns scriptEnd tasks) = true) :
    Reported settings run.results
      (.returned (settings.report (max run.awaiting tasks) scriptEnd)) := by
  have reported := sound.reported
  rw [running] at reported
  cases made : settings.report (max run.awaiting tasks) scriptEnd with
  | raises | crashes => exact reported
  | result value error => exact ⟨reported, report_sent writable made⟩

theorem Sound.step (sound : run.Sound settings) {label : RunLabel}
    (writable : run.writable settings label = true) (stepped : step settings run label = some next) :
    next.Sound settings := by
  have aside : ∀ {waiting ended counted}, ({ run with
      waiting := waiting, ended := ended, counted := counted }).Sound settings :=
    ⟨sound.accounted, sound.named, sound.reported⟩
  cases label with
  | call name arguments =>
    rcases Option.ite_none_right_eq_some.mp stepped with ⟨_, stepped⟩
    split at stepped
    · cases stepped
      exact sound
    · cases stepped
      exact aside
  | invoke name arguments =>
    rcases Option.ite_none_right_eq_some.mp stepped with ⟨_, stepped⟩
    split at stepped
    · cases stepped
      exact sound
    · cases stepped
      exact aside
  | enter =>
    simp only [PtcRun.step] at stepped
    split at stepped
    · rename_i name arguments waiting queued
      rcases of_guard stepped with ⟨_, rfl⟩
      rw [PtcRun.writable, queued] at writable
      exact Sound.sendCall aside writable
    · cases stepped
  | withdraw index =>
    rcases of_guard stepped with ⟨_, rfl⟩
    exact aside
  | cancel index =>
    simp only [PtcRun.step] at stepped
    split at stepped
    · rename_i call found
      rcases of_guard stepped with ⟨allowed, rfl⟩
      exact sound.setCall found allowed.2 (Accounted.ends_cancelled index)
    · cases stepped
  | deliver readable =>
    simp only [PtcRun.step] at stepped
    split at stepped
    · rename_i index response rest piped
      rcases Option.ite_none_right_eq_some.mp stepped with ⟨_, stepped⟩
      split at stepped
      · cases stepped
        exact sound.delivered piped
      · cases stepped
        have failed := sound.failAll "host sent a malformed frame"
        refine ⟨failed.accounted.taken ?_ ?_, failed.named, failed.reported⟩
        · show rest ⊆ run.toWorker
          rw [piped]
          exact subset_cons_self _ _
        · intro other call given found awaits _
          have unawaited := @settleAll_awaits run (.failed (Text.ofString "host_error") []
            (Text.ofString "host sent a malformed frame")) (by rintro ⟨⟩) other call found
          rw [unawaited] at awaits
          cases awaits
    · cases stepped
  | eof =>
    rcases of_guard stepped with ⟨_, rfl⟩
    exact sound.failAll _
  | returns scriptEnd tasks =>
    rcases Option.ite_none_right_eq_some.mp stepped with ⟨running, stepped⟩
    have reported := sound.returns running writable
    have cancelled : (run.settleAll .cancelled).Sound settings :=
      sound.settleAll fun index => Accounted.ends_cancelled index
    split at stepped
    · cases stepped
      exact ⟨cancelled.accounted, cancelled.named, reported⟩
    · cases stepped
      exact ⟨sound.accounted, sound.named, reported⟩
  | report raised =>
    simp only [PtcRun.step] at stepped
    split at stepped
    · rename_i report returned
      cases stepped
      refine sound.finish returned fun error same => ?_
      subst same
      exact writable
    · cases stepped
  | read =>
    simp only [PtcRun.step] at stepped
    split at stepped
    · rename_i frame rest first
      rcases of_guard stepped with ⟨allowed, rfl⟩
      exact sound.handleFrame first allowed.2
    · cases stepped
  | acquire =>
    simp only [PtcRun.step] at stepped
    split at stepped
    · rename_i call acquired
      rcases of_guard stepped with ⟨_, rfl⟩
      refine @Sound.rerouted settings run
        { run with acquiring := none, dispatching := run.dispatching ++ [call] }
        sound rfl rfl rfl rfl rfl rfl ?_
      unfold pending
      rw [acquired]
      exact (perm_append_singleton call run.dispatching).append_left _
    · cases stepped
  | dispatched index outcome =>
    simp only [PtcRun.step] at stepped
    split at stepped
    · rename_i call name found
      rcases Option.ite_none_right_eq_some.mp stepped with ⟨_, stepped⟩
      rcases sound.dispatched found writable with ⟨response, replied, fine⟩
      simp only [replied] at stepped
      cases stepped
      exact fine
    · cases stepped
  | stop =>
    rcases of_guard stepped with ⟨_, rfl⟩
    exact aside

/-! ### Coming to rest -/

end PtcRun

/-- The steps that the two processes and the tools take by themselves. -/
def RunLabel.internal : RunLabel → Bool
  | .enter | .deliver _ | .read | .acquire | .dispatched _ _ => true
  | _ => false

namespace PtcRun

variable {run next : PtcRun}

/-- No internal step can be taken. -/
def Resting (settings : RunSettings) (run : PtcRun) : Prop :=
  ∀ label : RunLabel, label.internal = true → step settings run label = none

/-- A bound on the internal steps that can still be taken. -/
def load (run : PtcRun) : ℕ :=
  5 * run.waiting.length + 4 * run.toHost.length + 3 * run.acquiring.toList.length +
    2 * run.dispatching.length + run.toWorker.length + (!run.ended).toNat

theorem sendCall_load {name : Text} {arguments : Entries} :
    (run.sendCall settings name arguments).load ≤ run.load + 4 := by
  unfold PtcRun.sendCall load
  split
  · simp only [length_append, length_cons, length_nil]
    omega
  · exact Nat.le_add_right _ 4

theorem delivered_load (index : ℕ) (response : Response) :
    (run.delivered index response).load = run.load := by
  unfold PtcRun.delivered
  split
  · split <;> rfl
  · rfl

theorem answer_load {call : ℕ} {response : Response} :
    (run.answer settings call response).load ≤ run.load + 1 := by
  unfold PtcRun.answer load
  split
  · simp only [length_append, length_cons, length_nil]
    omega
  · exact Nat.le_add_right _ 1

theorem stopped_load (running : run.ended = false) : run.stopped.load < run.load := by
  unfold stopped load
  simp [running]

theorem handleFrame_load {frame : WorkerFrame} {rest : List WorkerFrame}
    (first : run.toHost = frame :: rest) (running : run.ended = false)
    (free : run.acquiring = none) :
    (run.handleFrame settings rest frame).load < run.load := by
  cases frame with
  | result size => exact stopped_load running
  | toolCall call name size =>
    simp only [PtcRun.handleFrame]
    split
    · exact stopped_load running
    · split
      · exact stopped_load running
      · split
        · simp only [load, first, free, length_cons, Option.toList_none, Option.toList_some,
            length_nil]
          omega
        · refine Nat.lt_of_le_of_lt answer_load ?_
          simp only [load, first, free, length_cons]
          omega

theorem load_lt {label : RunLabel} (inside : label.internal = true)
    (stepped : step settings run label = some next) : next.load < run.load := by
  cases label with
  | enter =>
    simp only [PtcRun.step] at stepped
    split at stepped
    · rename_i name arguments waiting queued
      rcases of_guard stepped with ⟨_, rfl⟩
      refine Nat.lt_of_le_of_lt sendCall_load ?_
      simp only [load, queued, length_cons]
      omega
    · cases stepped
  | deliver readable =>
    simp only [PtcRun.step] at stepped
    split at stepped
    · rename_i index response rest piped
      rcases Option.ite_none_right_eq_some.mp stepped with ⟨_, stepped⟩
      split at stepped
      · cases stepped
        rw [delivered_load]
        simp [load, piped]
      · cases stepped
        simp only [load, failAll, settleAll, piped, length_cons]
        omega
    · cases stepped
  | read =>
    simp only [PtcRun.step] at stepped
    split at stepped
    · rename_i frame rest first
      rcases of_guard stepped with ⟨allowed, rfl⟩
      exact handleFrame_load first allowed.1 allowed.2
    · cases stepped
  | acquire =>
    simp only [PtcRun.step] at stepped
    split at stepped
    · rename_i call acquired
      rcases of_guard stepped with ⟨_, rfl⟩
      simp only [load, acquired, Option.toList_none, Option.toList_some, length_append,
        length_cons, length_nil]
      omega
    · cases stepped
  | dispatched index outcome =>
    simp only [PtcRun.step] at stepped
    split at stepped
    · rename_i call name found
      rcases Option.ite_none_right_eq_some.mp stepped with ⟨_, stepped⟩
      have shorter := length_eraseIdx_add_one (List.getElem?_eq_some_iff.mp found).1
      have lighter : ({ run with dispatching := run.dispatching.eraseIdx index }).load + 1 <
          run.load := by
        simp only [load]
        omega
      split at stepped
      · cases stepped
        exact Nat.lt_of_le_of_lt answer_load lighter
      · cases stepped
        exact Nat.lt_of_succ_lt lighter
    · cases stepped
  | call _ _ | invoke _ _ | withdraw _ | cancel _ | eof | returns _ _ | report _ | stop =>
    cases inside

theorem internal_length {labels : List RunLabel} (inside : ∀ label ∈ labels, label.internal = true)
    (ran : (machine settings).run run labels = some next) : labels.length ≤ run.load := by
  induction labels generalizing run with
  | nil => exact Nat.zero_le _
  | cons label labels ih =>
    rcases Machine.run_cons.mp ran with ⟨middle, stepped, rest⟩
    have lighter := load_lt (inside label mem_cons_self) stepped
    have shorter := ih (fun other present => inside other (mem_cons_of_mem _ present)) rest
    rw [length_cons]
    omega

theorem Resting.empty (resting : run.Resting settings) (running : run.ended = false)
    (alive : run.alive = true) :
    run.toHost = [] ∧ run.acquiring = none ∧ run.dispatching = [] ∧ run.toWorker = [] := by
  have dispatching : run.dispatching = [] := by
    cases held : run.dispatching with
    | nil => rfl
    | cons entry rest =>
      have stuck := resting (.dispatched 0 .cancelled) rfl
      simp [PtcRun.step, held, running, RunSettings.reply] at stuck
  have acquiring : run.acquiring = none := by
    cases held : run.acquiring with
    | none => rfl
    | some call =>
      have stuck := resting .acquire rfl
      have positive := settings.parallel_pos
      simp [PtcRun.step, held, running, dispatching] at stuck
      omega
  have toHost : run.toHost = [] := by
    cases held : run.toHost with
    | nil => rfl
    | cons frame rest =>
      have stuck := resting .read rfl
      simp [PtcRun.step, held, running, acquiring] at stuck
  have toWorker : run.toWorker = [] := by
    cases held : run.toWorker with
    | nil => rfl
    | cons entry rest =>
      have stuck := resting (.deliver true) rfl
      simp [PtcRun.step, held, alive] at stuck
  exact ⟨toHost, acquiring, dispatching, toWorker⟩

theorem Sound.complete (sound : run.Sound settings) (resting : run.Resting settings)
    (running : run.ended = false) (alive : run.alive = true) :
    run.waiting = [] ∧ ∀ index call, run.calls[index]? = some call →
      call.awaits = false ∧ (index ∈ run.sent → (run.answers.map Prod.fst).count index = 1) := by
  rcases resting.empty running alive with ⟨toHost, acquiring, dispatching, toWorker⟩
  have flows := sound.accounted.flows
  simp only [pending, toHost, acquiring, dispatching, filterMap_nil, Option.toList_none,
    append_nil, map_nil, nil_append] at flows
  have ended : ∀ {index : ℕ} {call : ToolCall}, run.calls[index]? = some call →
      call.awaits = false := by
    intro index call found
    cases awaits : call.awaits with
    | false => rfl
    | true =>
      have unraised : call.state ≠ .raised := by
        intro raised
        simp [ToolCall.awaits, raised] at awaits
      have sent := (sound.accounted.known index).mpr ⟨call, found, unraised⟩
      rcases mem_map.mp (flows.mem_iff.mpr sent) with ⟨⟨_, response⟩, present, rfl⟩
      have piped := sound.accounted.awaited found awaits present
      rw [toWorker] at piped
      cases piped
  refine ⟨?_, fun index call found => ⟨ended found, fun sent => ?_⟩⟩
  · cases queued : run.waiting with
    | nil => rfl
    | cons entry rest =>
      have idle : run.awaiting = 0 := by
        unfold awaiting
        rw [countP_eq_zero]
        intro call present awaits
        rcases getElem?_of_mem present with ⟨index, found⟩
        rw [ended found] at awaits
        cases awaits
      have stuck := resting .enter rfl
      have positive := settings.parallel_pos
      simp [PtcRun.step, queued, alive, idle] at stuck
      omega
  · rw [flows.count_eq]
    exact count_eq_one_of_mem sound.accounted.distinct sent

/-- While nothing that is to be sent is dropped, a call raises without a frame, or it is sent and
answered at most once, and what it returns is the answer. The steps that follow by themselves
are bounded, and when they are over every call of a live run has ended, each sent one with one
answer. A worker that exits other than by a crash has sent one result. -/
theorem answered_of_writable {labels : List RunLabel}
    (guarded : (machine settings).Guarded
      (fun run label => run.writable settings label = true) init labels)
    (ran : (machine settings).run init labels = some run) :
    (∀ index call, run.calls[index]? = some call →
      (index ∉ run.sent ↔ call.state = .raised) ∧
        (run.answers.map Prod.fst).count index ≤ 1 ∧
        ∀ value, call.state = .returned value → (index, .value value) ∈ run.answers) ∧
      (∀ more next, (∀ label ∈ more, RunLabel.internal label = true) →
        (machine settings).run run more = some next → more.length ≤ run.load) ∧
      (run.Resting settings → run.ended = false → run.alive = true →
        run.waiting = [] ∧ ∀ index call, run.calls[index]? = some call →
          call.awaits = false ∧
            (index ∈ run.sent → (run.answers.map Prod.fst).count index = 1)) ∧
      ∀ exit, exit ≠ .crashed → run.script = .exited exit → run.results.length = 1 := by
  have sound : run.Sound settings := by
    refine Machine.run_invariant_of_guarded ?_ sound_init guarded ran
    intro state label after holds writable stepped
    exact holds.step writable stepped
  refine ⟨fun index call found => ⟨?_, ?_, ?_⟩, ?_, sound.complete, ?_⟩
  · rw [sound.accounted.known index]
    constructor
    · intro unsent
      by_contra other
      exact unsent ⟨call, found, other⟩
    · rintro raised ⟨other, same, unraised⟩
      obtain rfl := Option.some.inj (found.symm.trans same)
      exact unraised raised
  · have distinct := sound.accounted.flows.nodup_iff.mpr sound.accounted.distinct
    exact List.nodup_iff_count_le_one.mp (List.nodup_append.mp distinct).2.1 index
  · intro value returned
    exact sound.accounted.returned found returned
  · intro more next inside rest
    exact internal_length inside rest
  · intro exit uncrashed exited
    have reported := sound.reported
    rw [exited] at reported
    cases exit with
    | normal | internalError => exact reported
    | crashed => exact absurd rfl uncrashed

/-! ### A run with one tool -/

/-- A host with a tool `read`; `repr` gives the text of what needs no escape. -/
def readSettings : RunSettings where
  nesting := 1000
  nesting_le := two_le_recursionLimit
  toolNames := [Text.ofString "read"]
  maxCalls := 100
  maxParallel := 8
  parallel_pos := Nat.succ_pos 7
  maxOutputBytes := 64000
  maxResultBytes := 4000000
  maxCodeBytes := 64000
  repr := fun text =>
    if encodes : text.encodes = true then ⟨text, encodes⟩
    else ⟨Text.ofString "...", dots_encode⟩

def readCall : List RunLabel :=
  [.invoke (Text.ofString "read") .nil, .enter, .read, .acquire]

def answeredRun : List RunLabel :=
  readCall ++ [.dispatched 0 (.value .null []), .deliver true, .returns (.value .null []) 0,
    .report none]

theorem answered_of_writable_read : ∃ run,
    (machine readSettings).run init answeredRun = some run ∧ run.results.length = 1 := by
  have finishes : ∃ run, (machine readSettings).run init answeredRun = some run ∧
      run.script = .exited .normal := by
    decide +kernel
  rcases finishes with ⟨run, ran, exited⟩
  exact ⟨run, ran, (answered_of_writable (by decide +kernel) ran).2.2.2 .normal nofun exited⟩

/-- A lone surrogate. -/
def surrogate : Text := [⟨0xD800, by decide⟩]

/-- An argument that is not a number: the frame of the call is dropped. -/
def droppedCall : List RunLabel :=
  [.invoke (Text.ofString "read")
    (.cons (.str (Text.ofString "limit")) (.float false (Text.ofString "nan")) .nil), .enter]

/-- The tool raises an exception whose message cannot be encoded: the answer is dropped. -/
def droppedAnswer : List RunLabel :=
  readCall ++ [.dispatched 0 (.raised
    { kind := none, name := none, toolName := none, message := some surrogate, printed := none })]

/-- The script raises such an exception: the result is dropped. -/
def droppedResult : List RunLabel :=
  [.returns (.exception (some ⟨Text.ofString "ValueError", surrogate⟩)) 0, .report none]

theorem resting_of_empty (waiting : run.waiting = []) (toHost : run.toHost = [])
    (acquiring : run.acquiring = none) (dispatching : run.dispatching = [])
    (toWorker : run.toWorker = []) : run.Resting settings := by
  intro label inside
  cases label with
  | enter => simp only [PtcRun.step, waiting]
  | deliver readable => simp only [PtcRun.step, toWorker]
  | read => simp only [PtcRun.step, toHost]
  | acquire => simp only [PtcRun.step, acquiring]
  | dispatched index outcome => simp only [PtcRun.step, dispatching, getElem?_nil]
  | call _ _ | invoke _ _ | withdraw _ | cancel _ | eof | returns _ _ | report _ | stop =>
    cases inside

/-- A live run at rest has a call that awaits its answer, whether the call or the answer was
dropped, and a worker exits in the normal way without a result. -/
theorem frames_dropped :
    (∀ labels ∈ [droppedCall, droppedAnswer], ∃ run,
      (machine readSettings).run init labels = some run ∧ run.Resting readSettings ∧
        run.ended = false ∧ run.script = .running ∧
        run.calls = [⟨Text.ofString "read", .awaiting⟩] ∧ run.answers = []) ∧
      ∃ run, (machine readSettings).run init droppedResult = some run ∧
        run.script = .exited .normal ∧ run.results = [] := by
  constructor
  · have stuck : ∀ labels ∈ [droppedCall, droppedAnswer], ∃ run,
        (machine readSettings).run init labels = some run ∧
          (run.waiting = [] ∧ run.toHost = [] ∧ run.acquiring = none ∧ run.dispatching = [] ∧
            run.toWorker = []) ∧
          run.ended = false ∧ run.script = .running ∧
          run.calls = [⟨Text.ofString "read", .awaiting⟩] ∧ run.answers = [] := by
      decide +kernel
    intro labels present
    rcases stuck labels present with ⟨run, ran, ⟨waiting, toHost, acquiring, dispatching, toWorker⟩, rest⟩
    exact ⟨run, ran, resting_of_empty waiting toHost acquiring dispatching toWorker, rest⟩
  · decide +kernel

end PtcRun

end Synapse.Ptc
