import Synapse.Ptc.Run

/-!
# The host of a PTC run

Model of `_Session` against a worker that may write any frames. The reader takes one frame at a
time and waits for a slot before it makes the task of a call; the tasks run beside it. Of a result
that is an error the kind is kept.
-/

namespace Synapse.Ptc

structure SessionSettings extends RunSettings where
  /-- `repr` of a JSON value that is not a string. -/
  reprValue : Value → { text : Text // text.encodes = true }

/-- Where the task of `_dispatch_one` is. -/
inductive TaskPhase where
  | created
  /-- `_dispatch` has been called. -/
  | running
  /-- The outcome is known, and its frame is about to be written. -/
  | replying (response : Response)
  | ended
  /-- The done callback has run. -/
  | released
  deriving DecidableEq, Repr

structure DispatchTask where
  callId : Text
  name : Text
  arguments : Entries
  phase : TaskPhase
  deriving DecidableEq, Repr

/-- `not task.done()` -/
def DispatchTask.unfinished (task : DispatchTask) : Bool :=
  match task.phase with
  | .created | .running | .replying _ => true
  | .ended | .released => false

/-- The tool has not returned. -/
def DispatchTask.busy (task : DispatchTask) : Bool :=
  match task.phase with
  | .created | .running => true
  | .replying _ | .ended | .released => false

/-- It holds a slot of the semaphore. -/
def DispatchTask.holdsSlot (task : DispatchTask) : Bool :=
  match task.phase with
  | .released => false
  | _ => true

/-- Where `_read_loop` is. -/
inductive Reader where
  | reading
  /-- It waits for a slot for this call. -/
  | acquiring (callId name : Text) (arguments : Entries)
  | returned
  /-- An exception has left it. -/
  | raised
  deriving DecidableEq, Repr

/-- What `run_code` returns. -/
inductive RunEnd where
  | value (value : Value)
  | error (kind : String)
  /-- The error of the script, with the kind that the worker gives. -/
  | scriptError (kind : Text)
  deriving DecidableEq, Repr

structure Session where
  reader : Reader
  tasks : List DispatchTask
  /-- The value of the semaphore. -/
  slots : ℕ
  calls : ℕ
  seenIds : List Text
  settledCalls : List Text
  logs : List Text
  logBytes : ℕ
  logsTruncated : Bool
  resultSeen : Bool
  value : Value
  /-- The kind of the error in the result frame. -/
  error : Option Text
  failure : Option String
  /-- The `tool_result` frames that have been written. -/
  answers : List (Text × Response)
  result : Option RunEnd
  deriving DecidableEq

inductive SessionLabel where
  /-- A line that decodes to an object. -/
  | frame (frame : Entries)
  /-- A line that is too long or does not decode. -/
  | badLine
  | eof
  | acquired
  /-- The task of a call takes its first step. -/
  | begin (task : ℕ)
  | outcome (task : ℕ) (outcome : ToolOutcome)
  | reply (task : ℕ)
  /-- The done callback of a task. -/
  | done (task : ℕ)
  | timeout
  /-- `_stop_dispatch` cancels a task. -/
  | cancel (task : ℕ)
  /-- `run` returns to `run_code`. -/
  | finish
  deriving DecidableEq, Repr

namespace Session

def init (settings : SessionSettings) : Session where
  reader := .reading
  tasks := []
  slots := settings.maxParallel
  calls := 0
  seenIds := []
  settledCalls := []
  logs := []
  logBytes := 0
  logsTruncated := false
  resultSeen := false
  value := .null
  error := none
  failure := none
  answers := []
  result := none

def text? (frame : Entries) (name : String) : Option Text :=
  match frame.get? (Text.ofString name) with
  | some (.str _ text) => some text
  | _ => none

/-- `_fail`, and the end of the read loop. -/
def fail (session : Session) (kind : String) : Session :=
  { session with failure := session.failure <|> some kind, reader := .returned }

/-- `_append_log`. A lone surrogate makes it raise, unless the logs are truncated already. -/
def appendLog (settings : SessionSettings) (session : Session) (message : Text) : Session :=
  if session.logsTruncated then session
  else
    match message.utf8Size? with
    | none => { session with reader := .raised }
    | some bytes =>
      if settings.maxOutputBytes < session.logBytes + (bytes + 1) then
        { session with
          logsTruncated := true
          logs := session.logs ++ [Text.ofString "[logs truncated: output limit reached]"] }
      else
        { session with
          logBytes := session.logBytes + (bytes + 1), logs := session.logs ++ [message] }

/-- `_send_frame`, given a `tool_result` frame. -/
def answer (settings : SessionSettings) (session : Session) (callId : Text) (response : Response) :
    Session :=
  let frame : Value :=
    match response with
    | .value value =>
      object [("type", literal "tool_result"), ("id", .str true callId), ("ok", .bool true),
        ("value", value)]
    | .error kind name message =>
      object [("type", literal "tool_result"), ("id", .str true callId), ("ok", .bool false),
        ("error", object [("kind", .str true kind), ("name", .str true name),
          ("message", .str true message)])]
  match encodeFrame settings.nesting frame with
  | .ok _ => { session with answers := session.answers ++ [(callId, response)] }
  | .error _ => session

/-- `_handle_tool_call` -/
def handleToolCall (settings : SessionSettings) (session : Session) (frame : Entries) : Session :=
  match text? frame "id", frame.get? (Text.ofString "arguments") with
  | none, _ | some [], _ => session.fail "protocol_error"
  | some callId, some (.mapping _ arguments) =>
    if callId ∈ session.seenIds then session.fail "protocol_error"
    else if settings.maxCalls ≤ session.calls then session.fail "max_calls_exceeded"
    else
      let counted :=
        { session with calls := session.calls + 1, seenIds := session.seenIds ++ [callId] }
      match frame.get? (Text.ofString "name") with
      | some (.str _ name) =>
        if name ∈ settings.toolNames then
          { counted with reader := .acquiring callId name arguments }
        else
          counted.answer settings callId (.error (Text.ofString "unknown") name
            (short (Text.ofString "unknown tool " ++ (settings.repr name).val)))
      | other =>
        counted.answer settings callId (.error (Text.ofString "unknown") []
          (short (Text.ofString "unknown tool " ++
            (settings.reprValue (other.getD .null)).val)))
  | some _, _ => session.fail "protocol_error"

/-- `_unfinished_calls` -/
def unfinishedCalls (session : Session) : ℕ :=
  session.tasks.countP fun task =>
    task.unfinished && !decide (task.callId ∈ session.settledCalls)

/-- `_handle_result` -/
def handleResult (session : Session) (frame : Entries) : Session :=
  let seen :=
    { session with
      resultSeen := true, value := (frame.get? (Text.ofString "value")).getD .null }
  match frame.get? (Text.ofString "error") with
  | none | some .null =>
    if 0 < seen.unfinishedCalls then seen.fail "unfinished_calls"
    else { seen with reader := .returned }
  | some (.mapping _ error) =>
    match text? error "kind", text? error "message" with
    | some kind, some _ => { seen with error := some kind, reader := .returned }
    | _, _ => seen.fail "protocol_error"
  | some _ => seen.fail "protocol_error"

/-- `_handle_frame` -/
def handleFrame (settings : SessionSettings) (session : Session) (frame : Entries) : Session :=
  match text? frame "type" with
  | none => session.fail "protocol_error"
  | some type =>
    if type = Text.ofString "log" then
      match text? frame "message" with
      | some message => session.appendLog settings message
      | none => session.fail "protocol_error"
    else if type = Text.ofString "tool_call" then session.handleToolCall settings frame
    else if type = Text.ofString "result" then session.handleResult frame
    else session.fail "protocol_error"

def setTask (session : Session) (index : ℕ) (task : DispatchTask) (phase : TaskPhase) : Session :=
  { session with tasks := session.tasks.set index { task with phase := phase } }

/-- `_dispatch_one` behind its `await`: the call is settled, and the response is made. -/
def settle (settings : SessionSettings) (session : Session) (index : ℕ) (task : DispatchTask)
    (outcome : ToolOutcome) : Session :=
  if outcome = .cancelled then session.setTask index task .ended
  else
    let settled := { session with settledCalls := session.settledCalls ++ [task.callId] }
    match settings.reply task.name outcome with
    | some response => settled.setTask index task (.replying response)
    | none => settled.setTask index task .ended

/-- `_assemble` and `_finalize`. The last one may raise on a value that cannot be encoded. -/
def assemble (settings : SessionSettings) (session : Session) : RunEnd :=
  match session.failure with
  | some kind => .error kind
  | none =>
    if session.resultSeen = false then .error "worker_crashed"
    else
      match session.error with
      | some kind => .scriptError kind
      | none =>
        match encodeJson settings.nesting
            (object [("logs", .sequence (.ofList (session.logs.map (.str true)))),
              ("value", session.value)]) with
        | .ok size =>
          if settings.maxOutputBytes < size then .error "output_limit"
          else .value session.value
        | .error _ => .error "internal_error"

def step (settings : SessionSettings) (session : Session) : SessionLabel → Option Session
  | .frame frame =>
    if session.reader = .reading ∧ session.result = none then
      some (session.handleFrame settings frame)
    else none
  | .badLine =>
    if session.reader = .reading ∧ session.result = none then some (session.fail "protocol_error")
    else none
  | .eof =>
    if session.reader = .reading ∧ session.result = none then
      some { session with reader := .returned }
    else none
  | .acquired =>
    match session.reader with
    | .acquiring callId name arguments =>
      if 0 < session.slots ∧ session.result = none then
        some { session with
          reader := .reading, slots := session.slots - 1
          tasks := session.tasks ++ [⟨callId, name, arguments, .created⟩] }
      else none
    | _ => none
  | .begin index =>
    match session.tasks[index]? with
    | some task =>
      if task.phase = .created then some (session.setTask index task .running) else none
    | none => none
  | .outcome index outcome =>
    match session.tasks[index]? with
    | some task =>
      if task.phase = .running then some (session.settle settings index task outcome) else none
    | none => none
  | .reply index =>
    match session.tasks[index]? with
    | some task =>
      match task.phase with
      | .replying response =>
        some ((session.setTask index task .ended).answer settings task.callId response)
      | _ => none
    | none => none
  | .done index =>
    match session.tasks[index]? with
    | some task =>
      if task.phase = .ended then
        some { session.setTask index task .released with slots := session.slots + 1 }
      else none
    | none => none
  | .timeout =>
    if session.result = none then some { session with result := some (.error "timeout") } else none
  | .cancel index =>
    match session.tasks[index]? with
    | some task =>
      if task.unfinished ∧ (session.result.isSome ∨ session.reader = .returned ∨
          session.reader = .raised) then
        some (session.setTask index task .ended)
      else none
    | none => none
  | .finish =>
    if session.result = none then
      match session.reader with
      | .returned => some { session with result := some (session.assemble settings) }
      | .raised => some { session with result := some (.error "internal_error") }
      | _ => none
    else none

def machine (settings : SessionSettings) : Machine Session SessionLabel where
  step := step settings

end Session

end Synapse.Ptc
