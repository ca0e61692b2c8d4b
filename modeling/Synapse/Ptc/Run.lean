import Synapse.Foundation.Machine
import Synapse.Foundation.Locks
import Synapse.Ptc.Frames

/-!
# A PTC run

Model of the worker (`_ToolBridge`, `_Tools`, `_amain`, `_run`), of `_Session` on the host, and of
the two pipes between them. Frames are read in the order in which they were written. Log frames
are left out, and so is code that writes to the pipe by itself.

An entered call is known by its position, which is the number that its id is made of.
-/

namespace Synapse.Ptc

theorem two_le_recursionLimit : 2 ≤ 1000 := by decide

theorem dots_encode : (Text.ofString "...").encodes = true := by decide

structure RunSettings where
  /-- How many containers inside one another the JSON encoder enters. -/
  nesting : ℕ
  nesting_le : 2 ≤ nesting
  toolNames : List Text
  maxCalls : ℕ
  maxParallel : ℕ
  parallel_pos : 0 < maxParallel
  maxOutputBytes : ℕ
  maxResultBytes : ℕ
  maxCodeBytes : ℕ
  /-- `repr` of a string, which escapes what cannot be encoded. -/
  repr : Text → { text : Text // text.encodes = true }

def frameSlackBytes : ℕ := 65536

def RunSettings.maxFrameBytes (settings : RunSettings) : ℕ :=
  max (max settings.maxResultBytes settings.maxOutputBytes) settings.maxCodeBytes + frameSlackBytes

/-- `type(exc).__name__` and `str(exc)`. -/
structure ErrorText where
  typeName : Text
  text : Text
  deriving DecidableEq, Repr

def ErrorText.printed (error : ErrorText) : Text :=
  error.typeName ++ Text.ofString ": " ++ error.text

/-- A number in a message. -/
def number (value : ℕ) : Text :=
  Text.decimal (value + 1) value

/-! ### The tools on the host -/

/-- The attributes of an exception that are strings, and its text where printing it works. -/
structure ToolException where
  kind : Option Text
  name : Option Text
  toolName : Option Text
  message : Option Text
  printed : Option ErrorText
  deriving DecidableEq, Repr

/-- `_exception_fields`: kind, name and message. It raises where the exception has to be printed
and cannot be. -/
def ToolException.fields (error : ToolException) : Option (Text × Text × Text) := do
  let message ← Text.orElse error.message (error.printed.map ErrorText.printed)
  return ((Text.orElse error.kind (some (Text.ofString "tool_error"))).getD [],
    (Text.orElse error.name error.toolName).getD [], message)

/-- How `_dispatch` ends. -/
inductive ToolOutcome where
  /-- `described` is the text of the exception that encoding the value raises, if it does. -/
  | value (value : Value) (described : Text)
  | raised (error : ToolException)
  /-- An exception whose attributes raise when they are read. -/
  | unreadable
  | cancelled
  deriving DecidableEq, Repr

/-- `_dispatch_one`, up to the frame that it sends. An exception may leave the task before. -/
def RunSettings.reply (settings : RunSettings) (name : Text) : ToolOutcome → Option Response
  | .value value described =>
    match encodeJson settings.nesting value with
    | .error error =>
      if caught error then
        some (.error (Text.ofString "tool_error") name
          (short (Text.ofString "tool result is not JSON-serializable: " ++ described)))
      else none
    | .ok size =>
      if settings.maxResultBytes < size then
        some (.error (Text.ofString "limit") name
          (short (Text.ofString "tool result exceeds max_result_bytes (" ++
            number settings.maxResultBytes ++ Text.ofString ")")))
      else some (.value value)
  | .raised error => do
      let (kind, raisedBy, message) ← error.fields
      return .error kind (if raisedBy = [] then name else raisedBy) (short message)
  | .unreadable | .cancelled => none

/-! ### The script in the worker -/

inductive CallState where
  | awaiting
  /-- Sending the frame has raised. -/
  | raised
  /-- The script has cancelled the call. -/
  | cancelled
  | returned (value : Value)
  /-- `ToolCallError` -/
  | failed (kind name message : Text)
  deriving DecidableEq, Repr

structure ToolCall where
  name : Text
  state : CallState
  deriving DecidableEq, Repr

def ToolCall.awaits (call : ToolCall) : Bool :=
  call.state = .awaiting

/-- What `call` makes of a response. -/
def ToolCall.respond (call : ToolCall) : Response → CallState
  | .value value => .returned value
  | .error kind name message =>
    .failed (if kind = [] then Text.ofString "tool_error" else kind)
      (if name = [] then call.name else name)
      (if message = [] then Text.ofString "tool call failed" else message)

/-- How the body of the script ends. -/
inductive ScriptEnd where
  | compileError (message : Text)
  | value (value : Value) (described : Text)
  | toolError (toolName message : Text)
  /-- Any other exception, with its text where printing it works. -/
  | exception (error : Option ErrorText)
  | cancelled
  deriving DecidableEq, Repr

/-- What `_amain` does at its end. -/
inductive Report where
  | result (value : Value) (error : Option ScriptError)
  | raises
  /-- `CancelledError`, which nothing catches. -/
  | crashes
  deriving DecidableEq, Repr

def unfinishedMessage (unfinished : ℕ) : Text :=
  Text.ofString "script returned with " ++ number unfinished ++
    Text.ofString " tool call(s) still in " ++
    Text.ofString "flight; they were cancelled, but a synchronous tool may " ++
    Text.ofString "already be running and is not rolled back -- await every " ++
    Text.ofString "call before returning"

/-- `_execute`, the count of `_settle_unfinished`, and `_serialize_result`. -/
def RunSettings.report (settings : RunSettings) (unfinished : ℕ) : ScriptEnd → Report
  | .compileError message => .result .null (some ⟨"syntax_error", short message⟩)
  | .toolError toolName message =>
    .result .null (some ⟨"tool_error",
      short (if toolName = [] then message else toolName ++ Text.ofString ": " ++ message)⟩)
  | .exception (some error) => .result .null (some ⟨"exception", short error.printed⟩)
  | .exception none => .raises
  | .cancelled => .crashes
  | .value value described =>
    if 0 < unfinished then
      .result .null (some ⟨"unfinished_calls", short (unfinishedMessage unfinished)⟩)
    else
      match encodeJson settings.nesting value with
      | .error error =>
        if caught error then
          .result .null (some ⟨"invalid_result",
            short (Text.ofString "result is not JSON-serializable: " ++ described)⟩)
        else .raises
      | .ok size =>
        if settings.maxResultBytes < size then
          .result .null (some ⟨"result_too_large",
            Text.ofString "result exceeds max_result_bytes (" ++
              number settings.maxResultBytes ++ Text.ofString ")"⟩)
        else .result value none

inductive Exit where
  /-- `_amain` has returned. -/
  | normal
  /-- `_run` has reported an exception of `_amain`. -/
  | internalError
  | crashed
  deriving DecidableEq, Repr

inductive ScriptState where
  | running
  /-- The body has ended, and its end is not reported. -/
  | returned (report : Report)
  | exited (exit : Exit)
  deriving DecidableEq, Repr

/-- A frame from the worker, with its bytes. -/
inductive WorkerFrame where
  | toolCall (call : ℕ) (name : Text) (size : ℕ)
  | result (size : ℕ)
  deriving DecidableEq, Repr

structure PtcRun where
  script : ScriptState
  /-- The calls that wait for the semaphore of the worker. -/
  waiting : List (Text × Entries)
  calls : List ToolCall
  /-- The calls whose frame has been written. -/
  sent : List ℕ
  results : List (Value × Option ScriptError)
  toHost : List WorkerFrame
  toWorker : List (ℕ × Response)
  ended : Bool
  /-- The calls counted against the budget. -/
  counted : ℕ
  /-- The call for which the reader waits for the semaphore of the host. -/
  acquiring : Option (ℕ × Text)
  dispatching : List (ℕ × Text)
  /-- The `tool_result` frames that have been written. -/
  answers : List (ℕ × Response)
  deriving DecidableEq

inductive RunLabel where
  /-- `tools.call(name, arguments)`; `name` is missing where it is not a string. -/
  | call (name : Option Text) (arguments : Value)
  /-- `tools.<name>(**arguments)` -/
  | invoke (name : Text) (arguments : Entries)
  | enter
  /-- The script cancels a call that waits for the semaphore. -/
  | withdraw (index : ℕ)
  | cancel (call : ℕ)
  /-- The worker takes a frame from the host. -/
  | deliver (readable : Bool)
  /-- The worker sees that the host has closed the pipe. -/
  | eof
  /-- The body of the script ends, with so many other tasks on the loop. -/
  | returns (scriptEnd : ScriptEnd) (tasks : ℕ)
  /-- `_amain` ends. `raised` is printed where an exception leaves it, if printing works. -/
  | report (raised : Option ErrorText)
  /-- The host takes a frame from the worker. -/
  | read
  | acquire
  | dispatched (index : ℕ) (outcome : ToolOutcome)
  /-- The run ends: the timeout, a frame that cannot be decoded, a worker that is gone. -/
  | stop
  deriving DecidableEq, Repr

namespace PtcRun

def init : PtcRun where
  script := .running
  waiting := []
  calls := []
  sent := []
  results := []
  toHost := []
  toWorker := []
  ended := false
  counted := 0
  acquiring := none
  dispatching := []
  answers := []

def alive (run : PtcRun) : Bool :=
  match run.script with
  | .exited _ => false
  | _ => true

def awaiting (run : PtcRun) : ℕ :=
  run.calls.countP ToolCall.awaits

/-- The arguments that `dict(arguments)` makes, where `call` does not raise before. -/
def checked (name : Option Text) (arguments : Value) : Option (Text × Entries) :=
  match name, arguments with
  | none, _ | some [], _ => none
  | some name, .null => some (name, .nil)
  | some name, .mapping _ entries => some (name, entries)
  | some _, _ => none

/-- A name that starts with an underscore is not a tool. -/
def isPrivate (name : Text) : Bool :=
  (Text.ofString "_").isPrefixOf name

def request (run : PtcRun) (name : Text) (arguments : Entries) : PtcRun :=
  { run with waiting := run.waiting ++ [(name, arguments)] }

def setCall (run : PtcRun) (index : ℕ) (call : ToolCall) : PtcRun :=
  { run with calls := run.calls.set index call }

/-- Every call that awaits a response ends in this way. -/
def settleAll (run : PtcRun) (state : CallState) : PtcRun :=
  { run with
    calls := run.calls.map fun call => if call.awaits then { call with state := state } else call }

/-- `fail_all` -/
def failAll (run : PtcRun) (message : String) : PtcRun :=
  run.settleAll (.failed (Text.ofString "host_error") [] (Text.ofString message))

/-- A call that has the semaphore of the worker sends its frame. -/
def sendCall (settings : RunSettings) (run : PtcRun) (name : Text) (arguments : Entries) : PtcRun :=
  match encodeFrame settings.nesting (toolCallFrame (run.calls.length + 1) name arguments) with
  | .ok size =>
    { run with
      calls := run.calls ++ [⟨name, .awaiting⟩]
      sent := run.sent ++ [run.calls.length]
      toHost := run.toHost ++ [.toolCall run.calls.length name size] }
  | .error error =>
    { run with
      calls := run.calls ++ [⟨name, if caught error then .awaiting else .raised⟩] }

/-- `deliver` -/
def delivered (run : PtcRun) (index : ℕ) (response : Response) : PtcRun :=
  match run.calls[index]? with
  | some call =>
    if call.awaits then run.setCall index { call with state := call.respond response } else run
  | none => run

def exit (run : PtcRun) (exit : Exit) : PtcRun :=
  { run with script := .exited exit }

/-- The writer of the worker, given a `result` frame. -/
def sendResult (settings : RunSettings) (run : PtcRun) (value : Value)
    (error : Option ScriptError) : Except JsonError PtcRun :=
  match encodeFrame settings.nesting (resultFrame value error) with
  | .ok size =>
    .ok { run with
      results := run.results ++ [(value, error)], toHost := run.toHost ++ [.result size] }
  | .error error => if caught error then .ok run else .error error

/-- The handler of `_run` for an exception that leaves `_amain`, and that of `main` for what
leaves the handler. -/
def internal (settings : RunSettings) (run : PtcRun) (raised : Option ErrorText) : PtcRun :=
  match raised with
  | none => run.exit .crashed
  | some error =>
    match run.sendResult settings .null (some ⟨"internal_error", short error.printed⟩) with
    | .ok next => next.exit .internalError
    | .error _ => run.exit .crashed

def finish (settings : RunSettings) (run : PtcRun) (report : Report) (raised : Option ErrorText) :
    PtcRun :=
  match report with
  | .crashes => run.exit .crashed
  | .raises => run.internal settings raised
  | .result value error =>
    match run.sendResult settings value error with
    | .ok next => next.exit .normal
    | .error _ => run.internal settings raised

/-- `_send_frame`, given a `tool_result` frame. An exception leaves the task of the call. -/
def answer (settings : RunSettings) (run : PtcRun) (call : ℕ) (response : Response) : PtcRun :=
  match encodeFrame settings.nesting (toolResultFrame (call + 1) response) with
  | .ok _ =>
    { run with
      toWorker := run.toWorker ++ [(call, response)], answers := run.answers ++ [(call, response)] }
  | .error _ => run

def stopped (run : PtcRun) : PtcRun :=
  { run with ended := true }

/-- `_handle_frame`, for a frame that can be decoded. -/
def handleFrame (settings : RunSettings) (run : PtcRun) (rest : List WorkerFrame) :
    WorkerFrame → PtcRun
  | .result _ => run.stopped
  | .toolCall call name size =>
    if settings.maxFrameBytes < size then run.stopped
    else if settings.maxCalls ≤ run.counted then run.stopped
    else if name ∈ settings.toolNames then
      { run with
        toHost := rest, counted := run.counted + 1, acquiring := some (call, name) }
    else
      answer settings { run with toHost := rest, counted := run.counted + 1 } call
        (.error (Text.ofString "unknown") name
          (short (Text.ofString "unknown tool " ++ (settings.repr name).val)))

def step (settings : RunSettings) (run : PtcRun) : RunLabel → Option PtcRun
  | .call name arguments =>
    if run.alive then
      match checked name arguments with
      | none => some run
      | some (name, arguments) => some (run.request name arguments)
    else none
  | .invoke name arguments =>
    if run.alive then
      if isPrivate name then some run else some (run.request name arguments)
    else none
  | .enter =>
    match run.waiting with
    | (name, arguments) :: waiting =>
      if run.alive ∧ run.awaiting < settings.maxParallel then
        some (sendCall settings { run with waiting := waiting } name arguments)
      else none
    | [] => none
  | .withdraw index =>
    if run.alive ∧ index < run.waiting.length then
      some { run with waiting := run.waiting.eraseIdx index }
    else none
  | .cancel index =>
    match run.calls[index]? with
    | some call =>
      if run.alive ∧ call.awaits then some (run.setCall index { call with state := .cancelled })
      else none
    | none => none
  | .deliver readable =>
    match run.toWorker with
    | (call, response) :: rest =>
      if run.alive then
        if readable then some ({ run with toWorker := rest }.delivered call response)
        else some ({ run with toWorker := rest }.failAll "host sent a malformed frame")
      else none
    | [] => none
  | .eof =>
    if run.alive ∧ run.ended then some (run.failAll "host closed the protocol channel") else none
  | .returns scriptEnd tasks =>
    if run.script = .running then
      let report := settings.report (max run.awaiting tasks) scriptEnd
      match scriptEnd with
      | .value _ _ =>
        some { run.settleAll .cancelled with waiting := [], script := .returned report }
      | _ => some { run with script := .returned report }
    else none
  | .report raised =>
    match run.script with
    | .returned report => some (run.finish settings report raised)
    | _ => none
  | .read =>
    match run.toHost with
    | frame :: rest =>
      if run.ended = false ∧ run.acquiring = none then
        some (run.handleFrame settings rest frame)
      else none
    | [] => none
  | .acquire =>
    match run.acquiring with
    | some call =>
      if run.ended = false ∧ run.dispatching.length < settings.maxParallel then
        some { run with acquiring := none, dispatching := run.dispatching ++ [call] }
      else none
    | none => none
  | .dispatched index outcome =>
    match run.dispatching[index]? with
    | some (call, name) =>
      if run.ended = false then
        let rest := { run with dispatching := run.dispatching.eraseIdx index }
        match settings.reply name outcome with
        | some response => some (rest.answer settings call response)
        | none => some rest
      else none
    | none => none
  | .stop => if run.ended = false then some run.stopped else none

def machine (settings : RunSettings) : Machine PtcRun RunLabel where
  step := step settings

end PtcRun

end Synapse.Ptc
