import Synapse.Python.Value

/-!
# Old reads in a model request

Before a model call, `_read_lifecycle` classes the results of `read_file` among the messages of the
request, and `_apply_read_lifecycle` replaces those that it calls replaceable. A result is matched to
its call by id, and what is recorded of a call is laid over what is known of the result, the message
index included.
-/

namespace Synapse.Requests

open List

/-! ### Messages -/

structure ToolCall where
  id : Option Text
  name : Text
  args : Entries
  deriving DecidableEq

structure ToolResult where
  id : Option Text
  toolCallId : Text
  name : Option Text
  status : Text
  content : Value
  deriving DecidableEq

inductive Message where
  | human (id : Option Text) (content : Value)
  | ai (id : Option Text) (content : Value) (toolCalls : List ToolCall)
  | tool (result : ToolResult)
  | other (id : Option Text) (content : Value)
  deriving DecidableEq

/-- The parts of the host that are not written here. -/
structure Host where
  /-- `str` of a value that is not a string. -/
  render : Value → Text
  /-- The reference under which the repository keeps the original of a message. -/
  reference : ℕ → Text

/-- `bool(value)`. -/
def truthy : Value → Bool
  | .null => false
  | .bool value => value
  | .int _ value => value ≠ 0
  | .float _ literal => literal ≠ Text.ofString "0.0" ∧ literal ≠ Text.ofString "-0.0"
  | .str _ value => value ≠ []
  | .mapping _ entries => entries ≠ .nil
  | .sequence items => items ≠ .nil
  | .set items => items ≠ .nil
  | .bytes encoded => encoded ≠ []
  | _ => true

def Host.str (host : Host) : Value → Text
  | .str _ value => value
  | value => host.render value

/-- `str(value or "")` -/
def Host.strOr (host : Host) : Option Value → Text
  | some value => if truthy value then host.str value else []
  | none => []

/-- `str(first or second or "")`. -/
def Host.firstText (host : Host) (first second : Option Value) : Text :=
  match first.filter truthy, second.filter truthy with
  | some value, _ => host.str value
  | none, some value => host.str value
  | none, none => []

def readFile : Text := Text.ofString "read_file"

/-- The tools that write a file. -/
def writers : List Text :=
  [Text.ofString "edit_file", Text.ofString "write_file", Text.ofString "patch"]

def ToolCall.path (host : Host) (call : ToolCall) : Text :=
  host.firstText (call.args.get? (Text.ofString "file_path")) (call.args.get? (Text.ofString "path"))

/-! ### `_read_lifecycle` -/

/-- What is recorded of a call. -/
structure Call where
  messageIndex : ℕ
  toolName : Text
  filePath : Text
  offset : Option Value
  limit : Option Value

/-- The calls of all messages, in order. -/
def recordedCalls (host : Host) (messages : List Message) : List (Text × Call) :=
  messages.zipIdx.flatMap fun (message, index) =>
    match message with
    | .ai _ _ toolCalls => toolCalls.map fun call =>
      (call.id.getD [],
        { messageIndex := index
          toolName := call.name
          filePath := call.path host
          offset := call.args.get? (Text.ofString "offset")
          limit := call.args.get? (Text.ofString "limit") })
    | _ => []

/-- `tool_calls.get(call_id)`: the last call with the id. -/
def callOf (host : Host) (messages : List Message) (callId : Text) : Option Call :=
  (recordedCalls host messages).reverse.lookup callId

/-- A tool name and a path are missing if no call is known. -/
structure Operation where
  messageIndex : ℕ
  toolCallId : Text
  toolName : Option Text := none
  filePath : Option Text := none
  offset : Option Value := none
  limit : Option Value := none

/-- `{"message_index": index, "tool_call_id": call_id, **call}`: the index of the call replaces that
of the result. -/
def Operation.of (index : ℕ) (callId : Text) : Option Call → Operation
  | none => { messageIndex := index, toolCallId := callId }
  | some call =>
    { messageIndex := call.messageIndex
      toolCallId := callId
      toolName := some call.toolName
      filePath := some call.filePath
      offset := call.offset
      limit := call.limit }

/-- The operations on files, in the order of their results. -/
def operations (host : Host) (messages : List Message) : List Operation :=
  messages.zipIdx.filterMap fun (message, index) =>
    match message with
    | .tool result =>
      let call := callOf host messages result.toolCallId
      let name := (Text.orElse (call.map (·.toolName)) result.name).getD []
      if name = readFile ∨ name ∈ writers then some (.of index result.toolCallId call) else none
    | _ => none

inductive ReadState where
  | fresh | stale | superseded
  deriving DecidableEq, Repr

def ReadState.text : ReadState → Text
  | .fresh => Text.ofString "fresh"
  | .stale => Text.ofString "stale"
  | .superseded => Text.ofString "superseded"

/-- `guarded` is `"protected"`. -/
inductive Zone where
  | frozen | guarded | live
  deriving DecidableEq, Repr

/-- An item of a live-zone plan, as far as it is read here. -/
structure PlanItem where
  messageIndex : ℕ
  zone : Zone

structure ReadItem extends Operation where
  state : ReadState
  zone : Zone
  replaceable : Bool

/-- The operations on the same path after the given one. -/
def laterOperations (operations : List Operation) (operation : Operation) : List Operation :=
  operations.filter fun item =>
    operation.messageIndex < item.messageIndex ∧ item.filePath = operation.filePath

def readState (later : List Operation) : ReadState :=
  if later.any fun item => item.toolName.any (· ∈ writers) then .stale
  else if later.any fun item => item.toolName = some readFile then .superseded
  else .fresh

def zoneOf (plan : List PlanItem) (index : ℕ) : Zone :=
  ((plan.find? (·.messageIndex = index)).map (·.zone)).getD .frozen

def readLifecycle (host : Host) (messages : List Message) (plan : List PlanItem) : List ReadItem :=
  let all := operations host messages
  all.filterMap fun operation =>
    if operation.toolName ≠ some readFile ∨ operation.filePath.getD [] = [] then none
    else
      let state := readState (laterOperations all operation)
      let zone := zoneOf plan operation.messageIndex
      some { toOperation := operation, state, zone, replaceable := state ≠ .fresh ∧ zone = .live }

/-! ### `_apply_read_lifecycle` -/

def marker (host : Host) (item : ReadItem) : Text :=
  let path := (Text.orElse item.filePath (some (Text.ofString "unknown"))).getD []
  Text.ofString "[read_file " ++ item.state.text ++ Text.ofString ": " ++ path ++
    Text.ofString "; re-read for current content if needed. Original: " ++
    host.reference item.messageIndex ++ Text.ofString "]"

/-- One item is applied. -/
def replaceRead (host : Host) (messages updated : List Message) (item : ReadItem) : List Message :=
  match messages[item.messageIndex]? with
  | some (.tool result) =>
    updated.set item.messageIndex (.tool { result with content := .str true (marker host item) })
  | _ => updated

/-- The replaceable items are applied; of two with one index the last one wins. -/
def applyReadLifecycle (host : Host) (lifecycle : List ReadItem) (messages : List Message) :
    List Message :=
  (lifecycle.filter (·.replaceable)).foldl (replaceRead host messages) messages

/-- The step that a request goes through. -/
def readLifecycleStep (host : Host) (plan : List PlanItem) (messages : List Message) :
    List Message :=
  applyReadLifecycle host (readLifecycle host messages plan) messages

/-! ### Where the items point -/

variable {host : Host} {plan : List PlanItem} {messages : List Message}

def Message.IsAi (message : Message) : Prop :=
  ∃ id content toolCalls, message = .ai id content toolCalls

theorem recordedCalls_index {id : Text} {call : Call}
    (recorded : (id, call) ∈ recordedCalls host messages) :
    ∃ message, messages[call.messageIndex]? = some message ∧ message.IsAi := by
  rcases mem_flatMap.1 recorded with ⟨⟨message, index⟩, present, inMessage⟩
  have position : messages[index]? = some message := mem_zipIdx_iff_getElem?.1 present
  cases message with
  | ai messageId content toolCalls =>
    rcases mem_map.1 inMessage with ⟨toolCall, -, made⟩
    cases made
    exact ⟨_, position, messageId, content, toolCalls, rfl⟩
  | human messageId content => cases inMessage
  | tool result => cases inMessage
  | other messageId content => cases inMessage

theorem callOf_index {id : Text} {call : Call} (known : callOf host messages id = some call) :
    ∃ message, messages[call.messageIndex]? = some message ∧ message.IsAi := by
  rcases lookup_eq_some_iff.1 known with ⟨before, after, parts, -⟩
  have recorded : (id, call) ∈ (recordedCalls host messages).reverse := by
    rw [parts]
    exact mem_append_right _ mem_cons_self
  exact recordedCalls_index (mem_reverse.1 recorded)

/-- An operation with a tool name points at the message that holds its call. -/
theorem operations_index {operation : Operation} {name : Text}
    (present : operation ∈ operations host messages) (named : operation.toolName = some name) :
    ∃ message, messages[operation.messageIndex]? = some message ∧ message.IsAi := by
  rcases mem_filterMap.1 present with ⟨⟨message, index⟩, -, made⟩
  cases message with
  | tool result =>
    dsimp only at made
    rcases Option.ite_none_right_eq_some.mp made with ⟨_, ⟨⟩⟩
    cases known : callOf host messages result.toolCallId with
    | none => simp [known, Operation.of] at named
    | some call => exact callOf_index known
  | human messageId content => cases made
  | ai messageId content toolCalls => cases made
  | other messageId content => cases made

theorem readLifecycle_index {item : ReadItem} (present : item ∈ readLifecycle host messages plan) :
    ∃ message, messages[item.messageIndex]? = some message ∧ message.IsAi := by
  rcases mem_filterMap.1 present with ⟨operation, listed, made⟩
  rcases Option.ite_none_left_eq_some.mp made with ⟨isRead, ⟨⟩⟩
  rw [not_or, not_not] at isRead
  exact operations_index listed isRead.1

/-- An item that points at a message with calls replaces nothing. -/
theorem replaceRead_eq {updated : List Message} {item : ReadItem}
    (present : item ∈ readLifecycle host messages plan) :
    replaceRead host messages updated item = updated := by
  rcases readLifecycle_index present with ⟨_, position, id, content, toolCalls, rfl⟩
  rw [replaceRead, position]

/-- No message is replaced: the items point at the calls, and only results are replaced. -/
theorem readLifecycleStep_eq (host : Host) (plan : List PlanItem) (messages : List Message) :
    readLifecycleStep host plan messages = messages := by
  have kept : ∀ items : List ReadItem, (∀ item ∈ items, item ∈ readLifecycle host messages plan) →
      items.foldl (replaceRead host messages) messages = messages := by
    intro items listed
    induction items with
    | nil => rfl
    | cons item items ih =>
      rw [foldl_cons, replaceRead_eq (listed item mem_cons_self)]
      exact ih fun other later => listed other (mem_cons_of_mem _ later)
  exact kept _ fun item present => mem_of_mem_filter present

/-! ### What a replacement may lose -/

/-- What the results of the tools tell: the lines that a read shows, and whether a write succeeded. -/
structure Outcomes (Line : Type) where
  shows : ToolResult → Set Line
  succeeded : ToolResult → Prop

/-- The call that the result at an index answers: the last one with its id before it. -/
def answeredCall (messages : List Message) (index : ℕ) : Option ToolCall :=
  match messages[index]? with
  | some (.tool result) =>
    ((messages.take index).flatMap fun message =>
      match message with
      | .ai _ _ toolCalls => toolCalls
      | _ => []).reverse.find? fun call => call.id.getD [] = result.toolCallId
  | _ => none

/-- The result at an index is that of a write of the path, and the write succeeded. -/
def WriteSucceeds {Line : Type} (host : Host) (outcomes : Outcomes Line) (messages : List Message)
    (path : Text) (index : ℕ) : Prop :=
  ∃ result call, messages[index]? = some (.tool result) ∧ answeredCall messages index = some call ∧
    call.name ∈ writers ∧ call.path host = path ∧ outcomes.succeeded result

/-- The result at an index is that of a read of the path, and the step keeps it. -/
def KeepsRead (host : Host) (messages updated : List Message) (path : Text) (index : ℕ)
    (result : ToolResult) : Prop :=
  messages[index]? = some (.tool result) ∧ updated[index]? = some (.tool result) ∧
    ∃ call, answeredCall messages index = some call ∧ call.name = readFile ∧ call.path host = path

/-- The result at an index is that of a read, and later results make up for it. -/
def Expendable {Line : Type} (host : Host) (outcomes : Outcomes Line)
    (messages updated : List Message) (index : ℕ) (result : ToolResult) : Prop :=
  ∃ call, answeredCall messages index = some call ∧ call.name = readFile ∧
    ((∃ later, index < later ∧ WriteSucceeds host outcomes messages (call.path host) later) ∨
      ∀ line ∈ outcomes.shows result, ∃ later kept, index < later ∧
        KeepsRead host messages updated (call.path host) later kept ∧ line ∈ outcomes.shows kept)

/-- Only the content of an expendable read is replaced, and all else stays as it is. -/
theorem replaced_reads_are_expendable {Line : Type} (host : Host) (outcomes : Outcomes Line)
    (plan : List PlanItem) (messages : List Message) :
    let updated := readLifecycleStep host plan messages
    updated.length = messages.length ∧
      ∀ index, updated[index]? = messages[index]? ∨
        ∃ result content, messages[index]? = some (.tool result) ∧
          updated[index]? = some (.tool { result with content }) ∧
          Expendable host outcomes messages updated index result := by
  intro updated
  have same : updated = messages := readLifecycleStep_eq host plan messages
  refine ⟨congrArg List.length same, fun index => Or.inl ?_⟩
  rw [same]

end Synapse.Requests
