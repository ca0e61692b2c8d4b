import Synapse.Requests.ReadLifecycle
import Synapse.Transcript.Event

/-!
# Messages of a thread

What the transcript reads of a message: its visible text, its reasoning, its tool calls, its images
and its attachments, and which human messages are for the model only.
-/

namespace Synapse.Transcript

/-- The parts of the host that are not written here. -/
structure Host extends Requests.Host where
  casefold : Text → Text
  /-- `json.loads`, where it does not raise. -/
  loads : Text → Option Value
  /-- The image that a content block holds, if it can be decoded and is not too large. -/
  image? : Value → Option Image
  sanitizeAttachmentRef : Value → Option Value

inductive Role where
  | human | ai | tool | system | other
  deriving DecidableEq, Repr

inductive Content where
  | missing
  | text (text : Text)
  | blocks (list : List Value)
  deriving DecidableEq

structure Message where
  role : Role
  content : Content
  additionalKwargs : Entries := .nil
  responseMetadata : Entries := .nil
  /-- The attributes `reasoning_content` and `reasoning`. -/
  reasoningContent : Option Value := none
  reasoning : Option Value := none
  toolCalls : List Value := []
  toolCallId : Option Text := none
  name : Option Text := none
  artifact : Entries := .nil
  deriving DecidableEq

def Content.list : Content → List Value
  | .blocks list => list
  | _ => []

/-- The value of a field, or `none` where it is missing or `None`. -/
def field (entries : Entries) (name : String) : Option Value :=
  (entries.get? (Text.ofString name)).filter (· ≠ .null)

def has (entries : Entries) (name : String) : Bool :=
  (entries.get? (Text.ofString name)).isSome

def truthyField (entries : Entries) (name : String) : Bool :=
  (entries.get? (Text.ofString name)).any Requests.truthy

/-- `first or second or default` -/
def Host.firstOf (host : Host) (default : Text) (values : List (Option Value)) : Text :=
  match values.find? (·.any Requests.truthy) with
  | some value => host.strOr value
  | none => default

def entriesOf : Option Value → Entries
  | some (.mapping true entries) => entries
  | _ => .nil

/-- `part in text` -/
def within (part : String) (text : Text) : Bool :=
  Text.ofString part <:+: text

/-- `text.startswith(part)` -/
def startsWith (text : Text) (part : String) : Bool :=
  Text.ofString part <+: text

/-- `"\n".join(parts)` -/
def joinLines (parts : List Text) : Text :=
  (Text.ofString "\n").intercalate parts

/-! ### Visible text -/

def nonTextBlockTypes : List Text :=
  ["tool_use", "tool_call", "tool_result", "input_json", "input_json_delta", "function_call",
    "server_tool_use", "mcp_tool_use", "mcp_tool_result", "image", "image_url", "file", "document",
    "reasoning", "thinking", "redacted_thinking"].map Text.ofString

/-- `_looks_like_tool_payload` -/
def looksLikeToolPayload (host : Host) (text : Text) : Bool :=
  let one := text.strip
  if one = [] then false
  else if within "\"type\": \"tool_use\"" one ∨ within "\"type\":\"tool_use\"" one then true
  else if within "\"partial_json\"" one ∧ within "\"name\"" one then true
  else if startsWith one "\x7b" ∧ within "\"tool_use\"" one ∧ within "\"input\"" one then true
  else if startsWith one "\x7b" ∧ within "\"todos\"" one ∧ within "\"status\"" one ∧
      80 < one.length then
    has (entriesOf (host.loads one)) "todos"
  else false

def blockType (host : Host) (entries : Entries) : Text :=
  host.casefold (host.strOr (entries.get? (Text.ofString "type")))

/-- What a content block adds to the text. -/
def blockText (host : Host) : Value → Option Text
  | .str _ text => if looksLikeToolPayload host text then none else some text
  | .mapping true entries =>
    let type := blockType host entries
    if type ∈ nonTextBlockTypes then none
    else if truthyField entries "name" ∧
        (has entries "input" ∨ has entries "partial_json" ∨ type = Text.ofString "tool_use") then
      none
    else if type ∈ ["text", "output_text", "input_text"].map Text.ofString ∨ has entries "text" then
      ((entries.get? (Text.ofString "text")).filter Requests.truthy).map host.str
    else none
  | _ => none

/-- `_message_content` -/
def messageContent (host : Host) (message : Message) : Text :=
  match message.content with
  | .missing => []
  | .text text => if looksLikeToolPayload host text then [] else text
  | .blocks list => joinLines (list.filterMap (blockText host))

/-! ### Reasoning -/

def reasoningParts (host : Host) (message : Message) : List Text :=
  let truthyTexts (values : List (Option Value)) : List Text :=
    (values.filter (·.any Requests.truthy)).map host.strOr
  let keyed (entries : Entries) : List (Option Value) :=
    ["reasoning_content", "reasoning", "thinking", "thought"].map fun key =>
      entries.get? (Text.ofString key)
  let blocks := message.content.list.filterMap fun block =>
    match block with
    | .mapping true entries =>
      if host.strOr (entries.get? (Text.ofString "type")) ∈
          ["reasoning", "thinking"].map Text.ofString then
        some (host.firstOf []
          [entries.get? (Text.ofString "text"), entries.get? (Text.ofString "reasoning")])
      else none
    | _ => none
  truthyTexts (keyed message.additionalKwargs ++ keyed message.responseMetadata) ++ blocks ++
    truthyTexts [message.reasoningContent, message.reasoning]

/-- `_message_reasoning` -/
def messageReasoning (host : Host) (message : Message) : Text :=
  ((reasoningParts host message).foldl
    (fun out part => if part ≠ [] ∧ part ∉ out then out ++ [part] else out) []).flatten

/-! ### Tool calls -/

/-- `_parse_tool_args` -/
def parseToolArgs (host : Host) : Option Value → Value
  | none => .mapping true .nil
  | some (.mapping true entries) => .mapping true entries
  | some (.str plain text) =>
    if text.strip = [] then .mapping true .nil
    else
      match host.loads text.strip with
      | some (.mapping true entries) => .mapping true entries
      | some data => .mapping true (.cons (.str (Text.ofString "value")) data .nil)
      | none => .mapping true (.cons (.str (Text.ofString "arguments")) (.str plain text) .nil)
  | some value => .mapping true (.cons (.str (Text.ofString "value")) value .nil)

def indexedId (name : String) (index : ℕ) : Text :=
  Text.ofString name ++ Text.ofString "-" ++ Text.ofString index.repr

/-- A call of the message's own list. -/
def listedCall (host : Host) (index : ℕ) (call : Value) : ToolCall :=
  let entries := entriesOf (some call)
  let function := entriesOf (field entries "function")
  { id := host.firstOf (indexedId "call" index)
      [entries.get? (Text.ofString "id"), entries.get? (Text.ofString "tool_call_id")]
    name := host.firstOf (Text.ofString "?")
      [entries.get? (Text.ofString "name"), function.get? (Text.ofString "name")]
    args := parseToolArgs host
      ((field entries "args").orElse fun _ => (field entries "input").orElse fun _ =>
        field function "arguments") }

/-- A call in a content block. -/
def blockCall? (host : Host) (index : ℕ) : Value → Option ToolCall
  | .mapping true entries =>
    let function := entriesOf (field entries "function")
    if blockType host entries ∈
          ["tool_use", "tool_call", "function_call", "server_tool_use"].map Text.ofString ∨
        truthyField entries "name" ∧ (has entries "input" ∨ has entries "partial_json") then
      let given := (field entries "input").orElse fun _ => field entries "args"
      some
        { id := host.firstOf (indexedId "block" index)
            [entries.get? (Text.ofString "id"), entries.get? (Text.ofString "tool_use_id")]
          name := host.firstOf (Text.ofString "?")
            [entries.get? (Text.ofString "name"), function.get? (Text.ofString "name")]
          args := parseToolArgs host
            (given.orElse fun _ =>
              if truthyField entries "partial_json" then field entries "partial_json" else none) }
    else none
  | _ => none

/-- The own list, or the one that a provider left beside the message. -/
def rawCalls (message : Message) : List Value :=
  if message.toolCalls ≠ [] then message.toolCalls
  else
    match message.additionalKwargs.get? (Text.ofString "tool_calls") with
    | some (.sequence items) => items.toList
    | _ => []

/-- A call joins those before it unless one of them has its id. -/
def mergeCall (calls : List ToolCall) (call : ToolCall) : List ToolCall :=
  if call.id ≠ [] ∧ call.id ∈ calls.map (·.id) then calls else calls ++ [call]

/-- `_tool_calls` -/
def toolCalls (host : Host) (message : Message) : List ToolCall :=
  let own := (rawCalls message).zipIdx.map fun (call, index) => listedCall host index call
  let blocks := message.content.list.zipIdx.filterMap fun (block, index) =>
    blockCall? host index block
  blocks.foldl mergeCall own

/-! ### Images and attachments -/

def maxImages : ℕ := 8

def maxDurableRefs : ℕ := 8

/-- `_message_images` -/
def messageImages (host : Host) (message : Message) : List Image :=
  (message.content.list.filterMap host.image?).take maxImages

/-- `_message_attachment_refs` -/
def messageAttachmentRefs (host : Host) (message : Message) : List Value :=
  match message.additionalKwargs.get? (Text.ofString "synapse_attachment_refs") with
  | some (.sequence items) => (items.toList.filterMap host.sanitizeAttachmentRef).take maxDurableRefs
  | _ => []

/-! ### Messages for the model only -/

def isText (value : Option Value) (text : String) : Bool :=
  match value with
  | some (.str _ own) => own = Text.ofString text
  | _ => false

/-- `is_lc_summarization_message` -/
def isLcSummarizationMessage (message : Message) : Bool :=
  isText (message.additionalKwargs.get? (Text.ofString "lc_source")) "summarization" ∨
    isText (message.responseMetadata.get? (Text.ofString "lc_source")) "summarization"

def wrapperPrefixes : List String :=
  ["Here is a summary of the conversation to date:",
    "You are in the middle of a conversation that has been summarized"]

/-- `is_context_compact_text` -/
def isContextCompactText (text : Text) : Bool :=
  let body := text.strip
  let framed := Text.ofString "\n" ++ body ++ Text.ofString "\n"
  let hasIntent := within "## SESSION INTENT" body ∨
    startsWith (body.dropWhile (· ∈ Text.ofString "# ")) "SESSION INTENT" ∨
    within "\nSESSION INTENT\n" framed
  let hasSummary := within "## SUMMARY" body ∨ within "\nSUMMARY\n" framed ∨
    within "\n# SUMMARY\n" framed
  body ≠ [] ∧
    (wrapperPrefixes.any (fun start =>
        (startsWith body start ∨ within start (body.take 800)) ∧
          (["SESSION INTENT", "SUMMARY", "ARTIFACTS", "NEXT STEPS"].any (within · body) ∨
            startsWith body start)) ∨
      hasIntent ∧ hasSummary ∨
      hasIntent ∧ (within "ARTIFACTS" body ∨ within "NEXT STEPS" body))

/-- `is_steer_message(text=text)` -/
def isSteerText (text : Text) : Bool :=
  let body := text.strip
  body ≠ [] ∧ (within "[Mid-run user guidance]" (body.take 80) ∨
    startsWith body "[Mid-run user guidance]" ∨ startsWith body "[steer follow-up]")

/-- The text of all blocks, those of tools included. -/
def plainText (host : Host) (message : Message) : Text :=
  match message.content with
  | .missing => []
  | .text text => text
  | .blocks list => joinLines (list.filterMap fun block =>
    match block with
    | .str _ text => some text
    | .mapping true entries =>
      ((entries.get? (Text.ofString "text")).filter Requests.truthy).map host.str
    | _ => none)

/-- `is_steer_message(msg)` -/
def isSteerMessage (host : Host) (message : Message) : Bool :=
  truthyField message.additionalKwargs "coding_steer" ∨ isSteerText (plainText host message)

/-- What a delivery between threads says of itself, and its text. -/
def collaboration? (message : Message) : Option (Entries × Text) :=
  match message.additionalKwargs.get? (Text.ofString "synapse_collaboration") with
  | some (.mapping true entries) =>
    match entries.get? (Text.ofString "text") with
    | some (.str _ text) => some (entries, text)
    | _ => none
  | _ => none

/-- A host that decodes nothing, for messages of plain text. -/
def plainHost : Host where
  render := fun _ => []
  reference := fun _ => []
  casefold := id
  loads := fun _ => none
  image? := fun _ => none
  sanitizeAttachmentRef := some

end Synapse.Transcript
