import Synapse.Console.Transcript

/-!
# Live events

`reduceRuntimeEvent` folds an event of a running turn into the state of the console. An event of a
settled turn, and of a turn other than the running one, is dropped first; then the submitted row is
bound to the turn, the event takes effect, and the rows that it added are stamped with the turn.
-/

namespace Synapse.Console

inductive RuntimeEventKind where
  | collaborationInput
  | activityStarted
  | activityUpdated
  | activityStopped
  | reasoningDelta
  | reasoningCompleted
  | answerDelta
  | answerCompleted
  | toolBatchStarted
  | toolStarted
  | toolUpdated
  | toolFinished
  | toolResult
  | toolBatchFinished
  | subagentStatusChanged
  | usageUpdated
  | info
  | warning
  | approvalRequired
  | turnWaitingApproval
  | turnCompleted
  | turnCancelled
  | turnFailed
  | turnChanges
  | other (name : JsText)
  deriving DecidableEq

structure RuntimeEvent where
  sequence : ℕ
  turnId : JsText
  kind : RuntimeEventKind
  payload : Json

structure ApprovalAction where
  index : ℕ
  name : JsText
  args : List (JsText × Json)
  description : JsText
  allowedDecisions : List JsText

structure PendingApproval where
  turnId : JsText
  actions : List ApprovalAction

structure ActivityView where
  phase : JsText
  detail : JsText
  startedAt : ℚ
  active : Bool
  deriving DecidableEq

structure UsageView where
  turnInput : ℤ
  turnOutput : ℤ
  turnCache : ℤ
  lastInput : ℤ
  lastOutput : ℤ
  lastCache : ℤ
  outputTokensPerSecond : Option ℚ
  ttftS : Option ℚ
  rateBasis : JsText
  rateEstimated : Bool
  contextSize : Option ℤ
  modelCalls : ℤ
  deriving DecidableEq

inductive RuntimeStatus where
  | idle
  | running
  deriving DecidableEq

structure LiveState where
  messages : List TranscriptMessage
  activeTurnId : Option JsText
  settledTurnIds : List JsText
  runtimeStatus : RuntimeStatus
  steerQueueCount : ℕ
  pendingApproval : Option PendingApproval
  activity : Option ActivityView
  usage : Option UsageView
  metricsLabel : JsText

/-- The time of an event, in milliseconds and as its rows print it. -/
structure Clock where
  time : ℚ
  stamp : JsText

/-- Numbers as the console prints them: `toFixed(1)`, and the label of the usage. -/
structure LiveHost where
  toFixed : ℚ → JsText
  formatUsageMetrics : UsageView → JsText

/-! ### Payloads -/

/-- `asText` -/
def asText (value : Option Json) : JsText := (Json.string? value).getD []

/-- `text || other` -/
def orText (text other : JsText) : JsText := if text = [] then other else text

/-- `Math.trunc` of a number, or zero. -/
def truncated (value : Option Json) : ℤ :=
  ((Json.number? value).map fun number => if 0 ≤ number then ⌊number⌋ else ⌈number⌉).getD 0

/-- `parseUsagePayload` -/
def parseUsagePayload (payload : Json) : UsageView where
  turnInput := truncated (payload.get? "turn_input")
  turnOutput := truncated (payload.get? "turn_output")
  turnCache := truncated (payload.get? "turn_cache")
  lastInput := truncated (payload.get? "last_input")
  lastOutput := truncated (payload.get? "last_output")
  lastCache := truncated (payload.get? "last_cache")
  outputTokensPerSecond := Json.number? (payload.get? "output_tokens_per_second")
  ttftS := Json.number? (payload.get? "ttft_s")
  rateBasis := (Json.string? (payload.get? "rate_basis")).getD (JsText.ofString "end_to_end")
  rateEstimated := Json.isTrue (payload.get? "rate_estimated")
  contextSize := (Json.number? (payload.get? "context_size")).map fun _ =>
    truncated (payload.get? "context_size")
  modelCalls := truncated (payload.get? "model_calls")

/-- `elapsedLabel` -/
def elapsedLabel (host : LiveHost) (startedAt time : ℚ) : JsText :=
  let seconds := max 0 ((time - startedAt) / 1000)
  if seconds < 1 / 10 then JsText.ofString "done"
  else if seconds < 10 then host.toFixed seconds ++ JsText.ofString " 秒"
  else JsText.ofNat ⌊seconds + 1 / 2⌋.toNat ++ JsText.ofString " 秒"

/-! ### Rows of a turn -/

def toolGroupPrefix (turnId : JsText) : JsText :=
  JsText.ofString "tools-" ++ turnId ++ JsText.ofString "-"

def answerPrefix (turnId : JsText) : JsText :=
  JsText.ofString "ans-" ++ turnId ++ JsText.ofString "-"

def thoughtPrefix (turnId : JsText) : JsText :=
  JsText.ofString "thought-" ++ turnId ++ JsText.ofString "-"

def streamingMark : JsText := JsText.ofString "streaming"

/-- `countWithPrefix` -/
def countWithPrefix (messages : List TranscriptMessage) (start : JsText) : ℕ :=
  messages.countP fun message => start <+: message.id

/-- The index of the last item that passes the test. -/
def lastIndex? {α : Type} (passes : α → Bool) : List α → Option ℕ
  | [] => none
  | item :: items =>
    match lastIndex? passes items with
    | some index => some (index + 1)
    | none => if passes item then some 0 else none

def TranscriptMessage.extend (message : TranscriptMessage) (text : JsText) : TranscriptMessage :=
  { message with content := some (message.content.getD [] ++ text) }

/-! ### Reasoning -/

/-- `thoughtIdFor`; the segment that is open is the newest row. -/
def thoughtIdFor (messages : List TranscriptMessage) (turnId : JsText) : JsText :=
  let fresh := thoughtPrefix turnId ++
    JsText.ofNat (countWithPrefix messages (thoughtPrefix turnId) + 1)
  match messages.getLast? with
  | none => fresh
  | some last =>
    if thoughtPrefix turnId <+: last.id ∧ last.duration = some streamingMark then last.id
    else fresh

def thoughtRow (clock : Clock) (id text : JsText) : TranscriptMessage where
  id := id
  type := .thought
  timestamp := clock.stamp
  content := some text
  duration := some streamingMark
  expanded := some true
  startedAt := some clock.time

/-- `appendToThought` -/
def appendToThought (clock : Clock) (turnId text : JsText) (messages : List TranscriptMessage) :
    List TranscriptMessage :=
  let id := thoughtIdFor messages turnId
  match messages.findIdx? fun message => message.id = id with
  | none => messages ++ [thoughtRow clock id text]
  | some index => messages.modify index fun message => message.extend text

def completeThought (host : LiveHost) (clock : Clock) (turnId body : JsText)
    (message : TranscriptMessage) : TranscriptMessage :=
  if message.type = .thought ∧ thoughtPrefix turnId <+: message.id ∧
      message.duration = some streamingMark then
    { message with
      content := if body = [] then message.content else some body
      duration := some <| match message.startedAt with
        | some startedAt => elapsedLabel host startedAt clock.time
        | none => JsText.ofString "done" }
  else message

/-! ### Answers -/

/-- `openAnswerIndex` -/
def openAnswerIndex (messages : List TranscriptMessage) (turnId : JsText) : Option ℕ :=
  (lastIndex? (fun message => decide (message.type = .assistant ∧
    answerPrefix turnId <+: message.id)) messages).filter fun index =>
      (messages[index]?.bind (·.streaming)) = some true

def answerRow (clock : Clock) (messages : List TranscriptMessage) (turnId text : JsText)
    (streaming : Bool) : TranscriptMessage where
  id := answerPrefix turnId ++ JsText.ofNat (countWithPrefix messages (answerPrefix turnId) + 1)
  type := .assistant
  timestamp := clock.stamp
  content := some text
  streaming := some streaming

/-- `appendToAnswer` -/
def appendToAnswer (clock : Clock) (turnId text : JsText) (messages : List TranscriptMessage) :
    List TranscriptMessage :=
  match openAnswerIndex messages turnId with
  | some index => messages.modify index fun message => message.extend text
  | none => messages ++ [answerRow clock messages turnId text true]

/-- `completeAnswer` -/
def completeAnswer (clock : Clock) (turnId body : JsText) (messages : List TranscriptMessage) :
    List TranscriptMessage :=
  match openAnswerIndex messages turnId with
  | some index => messages.modify index fun message =>
    { message with
      content := if body = [] then message.content else some body
      streaming := some false }
  | none => if body = [] then messages else messages ++ [answerRow clock messages turnId body false]

/-! ### Tools -/

def toolIcon : JsText := JsText.ofString "build"

/-- `toolItemFromPayload` -/
def toolItemFromPayload (payload : Json) : ToolItemView :=
  let name := orText (asText (payload.get? "name")) (JsText.ofString "tool")
  let callId := Json.filled? (payload.get? "call_id")
  { id := orText (asText (payload.get? "item_id")) (callId.getD name)
    callId
    name
    label := orText (asText (payload.get? "label")) name
    category := orText (asText (payload.get? "category")) (JsText.ofString "other")
    path := Json.filled? (payload.get? "path")
    status := orText (asText (payload.get? "status")) (JsText.ofString "running")
    preview := Json.filled? (payload.get? "preview")
    argsPreview := Json.filled? (payload.get? "args_preview")
    error := Json.isTrue (payload.get? "error")
    sub := Json.isTrue (payload.get? "sub")
    parentId := Json.filled? (payload.get? "parent_id")
    subagentStatus := none
    subagentName := Json.filled? (payload.get? "subagent_name")
    icon := toolIcon }

/-- A row that has only its call. -/
def plainItem (id name status : JsText) (callId : Option JsText) : ToolItemView where
  id := id
  callId := callId
  name := name
  label := name
  category := JsText.ofString "other"
  path := none
  status := status
  preview := none
  error := false
  sub := false
  parentId := none
  subagentStatus := none
  subagentName := none
  icon := toolIcon

/-- `toolCallPreviewItem` -/
def toolCallPreviewItem (index : ℕ) (call : Json) : ToolItemView :=
  let callId := (Json.filled? (call.get? "call_id")).or (Json.filled? (call.get? "id"))
  { plainItem (callId.getD (JsText.ofString "batch-call-" ++ JsText.ofNat index))
      (orText (asText (call.get? "name")) (JsText.ofString "tool")) (JsText.ofString "pending")
      callId with
    argsPreview := Json.filled? (call.get? "args_preview") }

def isFailure (status : JsText) : Bool :=
  status = JsText.ofString "failed" ∨ status = JsText.ofString "error"

/-- `legacyToolItem` -/
def legacyToolItem (name : JsText) (callId : Option JsText) (status : JsText) (sub : Bool) :
    ToolItemView :=
  { plainItem (callId.getD (JsText.ofString "legacy-" ++ name)) name status callId with
    error := isFailure status, sub }

/-- `mergeToolItem`; what the incoming item does not have stays. -/
def mergeToolItem (previous incoming : ToolItemView) : ToolItemView :=
  { incoming with
    args := incoming.args.or previous.args
    argsPreview := incoming.argsPreview.or previous.argsPreview
    subagentStatus := incoming.subagentStatus.or previous.subagentStatus
    subagentName := incoming.subagentName.or previous.subagentName
    duration := incoming.duration.or previous.duration }

def isSameItem (item known : ToolItemView) : Bool :=
  known.id = item.id ∨
    (known.callId = some known.id ∧ item.callId ≠ none ∧ known.callId = item.callId)

/-- `upsertToolItem` -/
def upsertToolItem (item : ToolItemView) (group : TranscriptMessage) : TranscriptMessage :=
  let tools := group.tools.getD []
  { group with
    tools := some <| match tools.findIdx? (isSameItem item) with
      | none => tools ++ [item]
      | some index => tools.modify index fun known => mergeToolItem known item }

def isGroupOf (turnId : JsText) (message : TranscriptMessage) : Bool :=
  message.type = .toolGroup ∧ toolGroupPrefix turnId <+: message.id

def mapTools (change : ToolItemView → ToolItemView) (message : TranscriptMessage) :
    TranscriptMessage :=
  { message with tools := message.tools.map fun tools => tools.map change }

/-- Change the tools of the groups of a turn that pass the test, or `none` where there is none. -/
def changeTools (turnId : JsText) (passes : ToolItemView → Bool)
    (change : ToolItemView → ToolItemView) (messages : List TranscriptMessage) :
    Option (List TranscriptMessage) :=
  let hit := fun message => isGroupOf turnId message && (message.tools.getD []).any passes
  if messages.any hit then
    some (messages.map fun message =>
      if hit message then mapTools (fun tool => if passes tool then change tool else tool) message
      else message)
  else none

/-- `mergeTurnToolItem` -/
def mergeTurnToolItem (turnId : JsText) (item : ToolItemView) (messages : List TranscriptMessage) :
    Option (List TranscriptMessage) :=
  changeTools turnId (isSameItem item) (fun known => mergeToolItem known item) messages

/-- `patchToolItem` -/
def patchToolItem (turnId itemId : JsText) (patch : ToolItemView → ToolItemView)
    (messages : List TranscriptMessage) : List TranscriptMessage :=
  (changeTools turnId (fun tool => tool.id = itemId) patch messages).getD messages

/-- `patchTurnToolItem`: the first item that matches in the newest group that has one. -/
def patchTurnToolItem (turnId : JsText) (passes : ToolItemView → Bool)
    (patch : ToolItemView → ToolItemView) (messages : List TranscriptMessage) :
    Option (List TranscriptMessage) :=
  (lastIndex? (fun message => isGroupOf turnId message && (message.tools.getD []).any passes)
    messages).map fun index => messages.modify index fun message =>
      { message with
        tools := some <| match (message.tools.getD []).findIdx? passes with
          | some hit => (message.tools.getD []).modify hit patch
          | none => message.tools.getD [] }

/-- `openToolGroupIndex` -/
def openToolGroupIndex (messages : List TranscriptMessage) (turnId : JsText) : Option ℕ :=
  (lastIndex? (isGroupOf turnId) messages).filter fun index =>
    (messages[index]?.bind (·.finished)) ≠ some true

/-- `openToolGroup`: every group of the turn is sealed before the next is opened. -/
def openToolGroup (clock : Clock) (turnId : JsText) (parallel : Bool) (tools : List ToolItemView)
    (messages : List TranscriptMessage) : List TranscriptMessage :=
  let sealed := messages.map fun message =>
    if isGroupOf turnId message then { message with finished := some true } else message
  sealed ++
    [{ id := toolGroupPrefix turnId ++
        JsText.ofNat (countWithPrefix sealed (toolGroupPrefix turnId) + 1)
       type := .toolGroup
       timestamp := clock.stamp
       tools := some tools
       parallel := some parallel
       finished := some false }]

/-- `appendToolItem` -/
def appendToolItem (clock : Clock) (turnId : JsText) (item : ToolItemView)
    (messages : List TranscriptMessage) : List TranscriptMessage :=
  match openToolGroupIndex messages turnId with
  | some index => messages.modify index (upsertToolItem item)
  | none => openToolGroup clock turnId false [item] messages

/-- `closeToolGroup` -/
def closeToolGroup (turnId : JsText) (messages : List TranscriptMessage) :
    List TranscriptMessage :=
  match openToolGroupIndex messages turnId with
  | some index => messages.modify index fun message => { message with finished := some true }
  | none => messages

/-! ### The rows and the clock of a turn -/

/-- `appendTurnChanges` -/
def appendTurnChanges (clock : Clock) (turnId : JsText) (changes : List TurnChangeView) (total : ℚ)
    (messages : List TranscriptMessage) : List TranscriptMessage :=
  let id := JsText.ofString "changes-" ++ turnId
  let row : TranscriptMessage :=
    { id
      type := .changes
      timestamp := clock.stamp
      turnId := some turnId
      changes := some changes
      changesTotal := some total }
  match messages.findIdx? fun message => message.id = id with
  | some index => messages.set index row
  | none =>
    match lastIndex? (fun message => decide (message.turnId = some turnId)) messages with
    | some index => messages.take (index + 1) ++ row :: messages.drop (index + 1)
    | none => messages ++ [row]

def TranscriptMessage.hasEnded (message : TranscriptMessage) : Bool :=
  message.work.any fun work => work.ended

/-- A submitted row that no turn has claimed. -/
def isUnclaimed (message : TranscriptMessage) : Bool :=
  message.type = .user ∧ (message.turnId = none ∨ message.turnId = some []) ∧
    message.steer = false ∧ message.hasEnded = false

def claimRow (clock : Clock) (turnId : JsText) (message : TranscriptMessage) : TranscriptMessage :=
  { message with
    turnId := some turnId
    work := some (message.work.getD { startedAt := some clock.time, ended := false }) }

/-- `bindWorkTurn` -/
def bindWorkTurn (clock : Clock) (turnId : JsText) (messages : List TranscriptMessage) :
    List TranscriptMessage :=
  if turnId = [] ∨ messages.any fun message => message.turnId = some turnId then messages
  else
    match lastIndex? isUnclaimed messages with
    | none => messages
    | some index => messages.modify index (claimRow clock turnId)

def isUnfinished (status : JsText) : Bool :=
  status = JsText.ofString "running" ∨ status = JsText.ofString "pending"

/-- A tool that was still running when its turn ended. -/
def finishTool (kind : RuntimeEventKind) (tool : ToolItemView) : ToolItemView :=
  if isUnfinished tool.status then
    { tool with
      status :=
        if kind = .turnCompleted then JsText.ofString "completed"
        else if kind = .turnFailed then JsText.ofString "failed"
        else JsText.ofString "cancelled"
      error := decide (kind = .turnFailed)
      subagentStatus := none }
  else tool

def finishWork (clock : Clock) (elapsed : Option Json) (work : Work) : Work :=
  { work with
    ended := true
    elapsed := ((Json.number? elapsed).filter fun seconds => decide (0 ≤ seconds)).or
      (work.elapsed.or (work.startedAt.map fun startedAt => max 0 ((clock.time - startedAt) / 1000))) }

/-- `finishWorkTurn` -/
def finishWorkTurn (clock : Clock) (turnId : JsText) (elapsed : Option Json)
    (kind : RuntimeEventKind) (messages : List TranscriptMessage) : List TranscriptMessage :=
  messages.map fun message =>
    if message.turnId = some turnId then
      let frozen := { message with
        work := message.work.map (finishWork clock elapsed)
        streaming := if message.streaming = some true then some false else message.streaming
        duration := if message.duration = some streamingMark then some (JsText.ofString "done")
          else message.duration }
      if message.type = .toolGroup then
        { mapTools (finishTool kind) frozen with finished := some true }
      else frozen
    else message

/-- The rows that were not there before are stamped with the turn, the first of them with its clock if
no row has it. -/
def stampRows (clock : Clock) (turnId : JsText) (existing : List JsText) :
    Bool → List TranscriptMessage → List TranscriptMessage
  | _, [] => []
  | anchored, message :: messages =>
    if message.id ∈ existing ∨ turnId = [] then
      message :: stampRows clock turnId existing anchored messages
    else
      { message with
        turnId := some turnId
        work := if anchored then message.work
          else some { startedAt := some clock.time, ended := false } } ::
        stampRows clock turnId existing true messages

def stampNew (clock : Clock) (turnId : JsText) (before after : List TranscriptMessage) :
    List TranscriptMessage :=
  stampRows clock turnId (before.map (·.id))
    (after.any fun message => message.turnId = some turnId && message.work.isSome) after

/-! ### One event -/

/-- `isTurnTerminalKind` -/
def isTurnTerminalKind (kind : RuntimeEventKind) : Bool :=
  kind = .turnCompleted ∨ kind = .turnCancelled ∨ kind = .turnFailed

def approvalAction (index : ℕ) (raw : Json) : ApprovalAction where
  index := index
  name := asText (raw.get? "name")
  args := Json.members (raw.get? "args")
  description := asText (raw.get? "description")
  allowedDecisions := (Json.items (raw.get? "allowed_decisions")).filterMap fun decision =>
    Json.string? (some decision)

def infoRow (clock : Clock) (id text : JsText) (level : InfoLevel) : TranscriptMessage where
  id := id
  type := .info
  timestamp := clock.stamp
  content := some text
  infoLevel := some level

/-- An id that has the sequence number of its event. -/
def numberedId (start : String) (event : RuntimeEvent) : JsText :=
  JsText.ofString start ++ event.turnId ++ JsText.ofString "-" ++ JsText.ofNat event.sequence

/-- The effect of an event that was not dropped. -/
def takeEffect (host : LiveHost) (clock : Clock) (event : RuntimeEvent) (state : LiveState) :
    LiveState :=
  let turnId := event.turnId
  let payload := event.payload
  let text := asText (payload.get? "text")
  match event.kind with
  | .collaborationInput =>
    let id := JsText.ofString "collaboration-" ++ asText (payload.get? "message_id")
    { state with
      runtimeStatus := .running
      messages := if state.messages.any fun message => message.id = id then state.messages
        else state.messages ++
          [{ id
             type := .collaboration
             timestamp := clock.stamp
             turnId := some turnId
             content := some text
             infoLevel := some .info
             work := some { startedAt := some clock.time, ended := false } }] }
  | .activityStarted =>
    { state with
      runtimeStatus := .running
      activity := some
        { phase := orText (asText (payload.get? "phase")) (JsText.ofString "thinking")
          detail := asText (payload.get? "detail")
          startedAt := clock.time
          active := true } }
  | .activityUpdated =>
    { state with
      runtimeStatus := .running
      activity := some
        { phase := orText (asText (payload.get? "phase"))
            (orText ((state.activity.map (·.phase)).getD []) (JsText.ofString "thinking"))
          detail := asText (payload.get? "detail")
          startedAt := if Json.isTrue (payload.get? "reset_timer") then clock.time
            else (state.activity.map (·.startedAt)).getD clock.time
          active := true } }
  | .activityStopped =>
    { state with activity := state.activity.map fun activity => { activity with active := false } }
  | .reasoningDelta =>
    if text = [] then state
    else { state with messages := appendToThought clock turnId text state.messages }
  | .reasoningCompleted =>
    { state with messages := state.messages.map (completeThought host clock turnId text) }
  | .answerDelta =>
    if text = [] then state
    else { state with messages := appendToAnswer clock turnId text state.messages }
  | .answerCompleted =>
    { state with messages := completeAnswer clock turnId text state.messages }
  | .toolBatchStarted =>
    let tools := (Json.items (payload.get? "calls")).mapIdx toolCallPreviewItem
    { state with
      messages := openToolGroup clock turnId (Json.isTrue (payload.get? "parallel")) tools
        state.messages }
  | .toolStarted | .toolUpdated =>
    let item := toolItemFromPayload payload
    { state with
      messages := (mergeTurnToolItem turnId item state.messages).getD
        (appendToolItem clock turnId item state.messages) }
  | .toolFinished =>
    let itemId := asText (payload.get? "item_id")
    if itemId = [] then state
    else
      { state with
        messages := patchToolItem turnId itemId (fun tool =>
          { tool with
            status := orText (asText (payload.get? "status")) (JsText.ofString "completed")
            error := Json.isTrue (payload.get? "error")
            preview := (Json.filled? (payload.get? "preview")).or tool.preview }) state.messages }
  | .toolResult =>
    let name := orText (asText (payload.get? "name")) (JsText.ofString "tool")
    let callId := Json.filled? (payload.get? "call_id")
    let status := orText (asText (payload.get? "status")) (JsText.ofString "completed")
    let sub := Json.isTrue (payload.get? "sub")
    let passes := fun tool : ToolItemView =>
      if callId ≠ none then decide (tool.callId = callId) else decide (tool.name = name)
    { state with
      messages := (patchTurnToolItem turnId passes (fun tool =>
        { tool with status, error := isFailure status || tool.error, sub := tool.sub || sub })
          state.messages).getD
        (appendToolItem clock turnId (legacyToolItem name callId status sub) state.messages) }
  | .toolBatchFinished => { state with messages := closeToolGroup turnId state.messages }
  | .subagentStatusChanged =>
    let parentId := asText (payload.get? "parent_id")
    if parentId = [] then state
    else
      { state with
        messages := patchToolItem turnId parentId (fun tool =>
          { tool with subagentStatus := Json.string? (payload.get? "status") }) state.messages }
  | .usageUpdated =>
    let usage := parseUsagePayload payload
    { state with usage := some usage, metricsLabel := host.formatUsageMetrics usage }
  | .info | .warning =>
    let body := match payload with
      | .string raw => raw
      | _ => orText (asText (payload.get? "message")) text
    let level := if event.kind = .warning then InfoLevel.warning else .info
    if body = [] then state
    else
      { state with
        messages := state.messages ++ [infoRow clock (numberedId "info-" event) body level] }
  | .approvalRequired =>
    { state with
      pendingApproval := some
        { turnId, actions := (Json.items (payload.get? "actions")).mapIdx approvalAction } }
  | .turnWaitingApproval => { state with runtimeStatus := .running }
  | .turnCompleted | .turnCancelled | .turnFailed =>
    let error := asText (payload.get? "error")
    { state with
      runtimeStatus := .idle
      activeTurnId := none
      steerQueueCount := 0
      activity := none
      pendingApproval := none
      messages := if event.kind = .turnFailed ∧ error ≠ [] then
          state.messages ++ [infoRow clock (numberedId "fail-" event) error .warning]
        else state.messages }
  | .turnChanges | .other _ => state

/-- A late event of a turn that has ended. -/
def isSettled (state : LiveState) (turnId : JsText) : Bool :=
  turnId ≠ [] ∧ (turnId ∈ state.settledTurnIds ∨
    state.messages.any fun message => message.turnId = some turnId && message.hasEnded)

/-- Another turn is running. -/
def isForeign (state : LiveState) (turnId : JsText) : Bool :=
  turnId ≠ [] ∧ state.activeTurnId.any fun active => active ≠ [] && active ≠ turnId

/-- The turn claims the submitted row and becomes the active one. -/
def openTurn (clock : Clock) (turnId : JsText) (state : LiveState) : LiveState :=
  { state with
    messages := bindWorkTurn clock turnId state.messages
    activeTurnId := if turnId = [] then state.activeTurnId else some turnId }

def settle (clock : Clock) (event : RuntimeEvent) (state : LiveState) : LiveState :=
  let ids := state.settledTurnIds.filter (· ≠ event.turnId) ++ [event.turnId]
  { state with
    settledTurnIds := ids.drop (ids.length - 100)
    messages := finishWorkTurn clock event.turnId (event.payload.get? "elapsed_s") event.kind
      state.messages }

/-- The changes of a turn come after its end. -/
def addChanges (clock : Clock) (event : RuntimeEvent) (state : LiveState) : LiveState :=
  let changes := turnChangeViews (event.payload.get? "changes") none
  if changes = [] then state
  else
    let total := ((Json.number? (event.payload.get? "total")).filter fun total =>
      decide (0 < total)).getD changes.length
    { state with messages := appendTurnChanges clock event.turnId changes total state.messages }

/-- `reduceRuntimeEvent`, and what it leaves of the state. -/
def reduceRuntimeEvent (host : LiveHost) (clock : Clock) (state : LiveState) (event : RuntimeEvent) :
    LiveState :=
  let turnId := event.turnId
  let settled := isSettled state turnId
  if settled ∧ event.kind = .turnChanges then addChanges clock event state
  else if settled ∧ ¬(isTurnTerminalKind event.kind ∧ state.activeTurnId = some turnId) then state
  else if isForeign state turnId ∧ state.runtimeStatus = .running ∧ event.kind ≠ .activityStarted then
    state
  else
    let opened := openTurn clock turnId state
    let after := takeEffect host clock event opened
    let stamped := { after with
      messages := stampNew clock turnId opened.messages after.messages }
    if isTurnTerminalKind event.kind then settle clock event stamped else stamped

end Synapse.Console
