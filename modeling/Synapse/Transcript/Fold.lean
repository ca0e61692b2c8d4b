import Synapse.Transcript.Message

/-!
# The fold of a thread

`fold_messages_for_ui` makes events of messages. Calls and results are held back until something
closes their batch: a human message, the next model step, a visible answer, or the end. Nothing is
held back at a human message, so the fold of a thread is that of its parts where it is cut at human
messages.
-/

namespace Synapse.Transcript

structure FoldState where
  events : List UiTranscriptEvent := []
  pendingCalls : List ToolCall := []
  pendingResults : List (Text × ToolResult) := []
  deriving DecidableEq

/-- The results in the order of their calls, then those without a call. -/
def toolsEvent (calls : List ToolCall) (results : List (Text × ToolResult)) : UiTranscriptEvent :=
  let answered := calls.filter fun call => call.id ≠ [] ∧ (results.lookup call.id).isSome
  let ordered := answered.filterMap (fun call => results.lookup call.id) ++
    (results.filter fun entry => entry.1 ∉ answered.map (·.id)).map Prod.snd
  { kind := .tools
    toolCalls := calls
    toolResults := if ordered ≠ [] then ordered else results.map Prod.snd }

/-- `results[key] = result` -/
def setResult (key : Text) (result : ToolResult) (results : List (Text × ToolResult)) :
    List (Text × ToolResult) :=
  if key ∈ results.map Prod.fst then
    results.map fun entry => if entry.1 = key then (key, result) else entry
  else results ++ [(key, result)]

def userText (host : Host) (message : Message) : Text :=
  match collaboration? message with
  | some (_, text) => text
  | none => (messageContent host message).strip

/-- The event of a human message, unless it is for the model only or has nothing to show. -/
def userEvent? (host : Host) (message : Message) : Option UiTranscriptEvent :=
  if isLcSummarizationMessage message then none
  else if isSteerMessage host message then none
  else
    let text := userText host message
    if isContextCompactText text then none
    else if isSteerText text then none
    else
      let images := messageImages host message
      let attachments := messageAttachmentRefs host message
      if text ≠ [] ∨ images ≠ [] ∨ attachments ≠ [] then
        some
          { kind := .user
            text := if text ≠ [] then text else Text.ofString "(image)"
            images, attachments
            collaboration := (collaboration? message).map Prod.fst }
      else none

def looksError (host : Host) (content : Text) : Bool :=
  let low := host.casefold content
  startsWith low "error" ∨ within "traceback" low ∨ within "exception:" low

def resultContent (host : Host) (message : Message) : Text :=
  if truthyField message.artifact "tool_result_ref" then
    messageContent host message ++ Text.ofString "\n\n[full result: " ++
      host.strOr (message.artifact.get? (Text.ofString "tool_result_ref")) ++ Text.ofString "]"
  else messageContent host message

/-- The key of a result among the held ones. -/
def resultKey (message : Message) (results : List (Text × ToolResult)) : Text :=
  (Text.orElse message.toolCallId (some (indexedId "anon" results.length))).getD []

def toolResult (host : Host) (message : Message) (key : Text) : ToolResult :=
  let content := resultContent host message
  { id := key
    name := (Text.orElse message.name (some (Text.ofString "tool"))).getD []
    content
    status := if looksError host content then Text.ofString "error" else Text.ofString "ok" }

namespace FoldState

def flushTools (state : FoldState) : FoldState :=
  if state.pendingCalls = [] ∧ state.pendingResults = [] then state
  else { events := state.events ++ [toolsEvent state.pendingCalls state.pendingResults] }

def emit (state : FoldState) (events : List UiTranscriptEvent) : FoldState :=
  { state with events := state.events ++ events }

def hold (state : FoldState) (calls : List ToolCall) : FoldState :=
  { state with pendingCalls := state.pendingCalls ++ calls }

end FoldState

/-- The visible text of a model step, if it is an answer. -/
def answer? (host : Host) (message : Message) : Option Text :=
  let text := (messageContent host message).strip
  if text ≠ [] ∧ looksLikeToolPayload host text = false ∧ isLcSummarizationMessage message = false ∧
      isContextCompactText text = false then
    some text
  else none

def thoughtEvents (host : Host) (message : Message) : List UiTranscriptEvent :=
  let reasoning := (messageReasoning host message).strip
  if reasoning ≠ [] then [{ kind := .thought, text := reasoning }] else []

def foldMessage (host : Host) (state : FoldState) (message : Message) : FoldState :=
  match message.role with
  | .human => state.flushTools.emit (userEvent? host message).toList
  | .tool =>
    let key := resultKey message state.pendingResults
    { state with
      pendingResults := setResult key (toolResult host message key) state.pendingResults }
  | .ai =>
    -- A new model step closes the step before it.
    let closed := if state.pendingCalls ≠ [] then state.flushTools else state
    let called := (closed.emit (thoughtEvents host message)).hold (toolCalls host message)
    match answer? host message with
    | some text => called.flushTools.emit [{ kind := .answer, text }]
    | none => called
  | .system | .other => state

def foldState (host : Host) (messages : List Message) : FoldState :=
  messages.foldl (foldMessage host) {}

/-- `fold_messages_for_ui` -/
def foldMessagesForUi (host : Host) (messages : List Message) : List UiTranscriptEvent :=
  (foldState host messages).flushTools.events

variable {host : Host} {state : FoldState} {message : Message}
  {messages front back : List Message} {earlier : List UiTranscriptEvent}

theorem thoughtEvents_kind {event : UiTranscriptEvent} (inside : event ∈ thoughtEvents host message) :
    event.kind = .thought := by
  unfold thoughtEvents at inside
  dsimp only at inside
  split at inside
  · rw [List.mem_singleton.1 inside]
  · cases inside

/-! ### Nothing is carried over a human message -/

/-- The same calls and results behind other events. -/
def FoldState.behind (earlier : List UiTranscriptEvent) (state : FoldState) : FoldState :=
  { state with events := earlier ++ state.events }

theorem flushTools_behind :
    (state.behind earlier).flushTools = state.flushTools.behind earlier := by
  unfold FoldState.flushTools FoldState.behind
  dsimp only
  split
  · rfl
  · simp only [List.append_assoc]

theorem emit_behind (events : List UiTranscriptEvent) :
    (state.behind earlier).emit events = (state.emit events).behind earlier := by
  simp only [FoldState.emit, FoldState.behind, List.append_assoc]

theorem hold_behind (calls : List ToolCall) :
    (state.behind earlier).hold calls = (state.hold calls).behind earlier :=
  rfl

theorem foldMessage_behind :
    foldMessage host (state.behind earlier) message = (foldMessage host state message).behind earlier := by
  unfold foldMessage
  cases message.role with
  | human =>
    dsimp only
    rw [flushTools_behind, emit_behind]
  | tool => rfl
  | ai =>
    dsimp only
    have closed : (if (state.behind earlier).pendingCalls ≠ [] then
          (state.behind earlier).flushTools else state.behind earlier) =
        (if state.pendingCalls ≠ [] then state.flushTools else state).behind earlier := by
      change (if state.pendingCalls ≠ [] then _ else _) = _
      split
      · exact flushTools_behind
      · rfl
    rw [closed, emit_behind, hold_behind]
    cases answer? host message with
    | none => rfl
    | some text =>
      dsimp only
      rw [flushTools_behind, emit_behind]
  | system => rfl
  | other => rfl

theorem foldl_behind (messages : List Message) (state : FoldState) :
    messages.foldl (foldMessage host) (state.behind earlier) =
      (messages.foldl (foldMessage host) state).behind earlier := by
  induction messages generalizing state with
  | nil => rfl
  | cons message rest ih => rw [List.foldl_cons, List.foldl_cons, foldMessage_behind, ih]

theorem flushTools_pending (state : FoldState) :
    state.flushTools = FoldState.behind state.flushTools.events {} := by
  unfold FoldState.flushTools
  split
  · rename_i none
    rcases state with ⟨events, calls, results⟩
    rcases none with ⟨rfl, rfl⟩
    simp [FoldState.behind]
  · simp [FoldState.behind]

theorem foldMessage_human (human : message.role = .human) :
    foldMessage host state message =
      (foldMessage host {} message).behind state.flushTools.events := by
  have own : foldMessage host {} message =
      FoldState.emit {} (userEvent? host message).toList := by
    simp only [foldMessage, human]
    rfl
  rw [own, ← emit_behind, ← flushTools_pending]
  simp only [foldMessage, human]

/-- The fold of a thread is that of its parts, where the later part begins with a human message. -/
theorem foldMessagesForUi_append (human : message.role = .human) :
    foldMessagesForUi host (front ++ message :: back) =
      foldMessagesForUi host front ++ foldMessagesForUi host (message :: back) := by
  unfold foldMessagesForUi foldState
  rw [List.foldl_append, List.foldl_cons, List.foldl_cons, foldMessage_human human, foldl_behind,
    flushTools_behind]
  rfl

end Synapse.Transcript
