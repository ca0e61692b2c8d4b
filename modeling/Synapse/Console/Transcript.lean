import Synapse.Console.JavaScript

/-!
# Rows of the console's transcript

The messages that the console paints, whether they were read from the history or folded from live
events. A field that a row need not have is an option.
-/

namespace Synapse.Console

/-- One tool invocation in a tool group. -/
structure ToolItemView where
  id : JsText
  callId : Option JsText
  name : JsText
  label : JsText
  category : JsText
  path : Option JsText
  status : JsText
  preview : Option JsText
  error : Bool
  args : Option (List (JsText × Json)) := none
  argsPreview : Option JsText := none
  sub : Bool
  parentId : Option JsText
  subagentStatus : Option JsText
  subagentName : Option JsText
  icon : JsText
  duration : Option JsText := none

/-- One file that a turn changed. -/
structure TurnChangeView where
  path : JsText
  status : JsText
  insertions : ℤ
  deletions : ℤ
  binary : Bool
  reverted : Bool
  deriving DecidableEq

structure TranscriptAttachment where
  attachmentId : JsText
  imageId : ℚ
  name : JsText
  mime : JsText
  size : ℚ
  revision : Option JsText
  deriving DecidableEq

inductive RowType where
  | user
  | thought
  | toolGroup
  | assistant
  | info
  | changes
  | collaboration
  deriving DecidableEq

inductive InfoLevel where
  | info
  | warning
  deriving DecidableEq

/-- The clock of a turn, on the row that anchors it. -/
structure Work where
  startedAt : Option ℚ := none
  elapsed : Option ℚ := none
  ended : Bool
  deriving DecidableEq

structure TranscriptMessage where
  id : JsText
  type : RowType
  timestamp : JsText
  turnId : Option JsText := none
  work : Option Work := none
  steer : Bool := false
  content : Option JsText := none
  duration : Option JsText := none
  tools : Option (List ToolItemView) := none
  expanded : Option Bool := none
  parallel : Option Bool := none
  finished : Option Bool := none
  startedAt : Option ℚ := none
  streaming : Option Bool := none
  infoLevel : Option InfoLevel := none
  attachments : Option (List TranscriptAttachment) := none
  changes : Option (List TurnChangeView) := none
  changesTotal : Option ℚ := none

/-! ### Changed files -/

/-- `countOf` -/
def countOf (value : Option Json) : ℤ :=
  match Json.number? value with
  | some number => if 0 < number then ⌊number⌋ else 0
  | none => 0

def isObject : Json → Bool
  | .object _ | .array _ => true
  | _ => false

def turnChangeView (reverted : List JsText) (entry : Json) : Option TurnChangeView :=
  if isObject entry then
    (Json.filled? (entry.get? "path")).map fun path =>
      { path
        status := (Json.filled? (entry.get? "status")).getD (JsText.ofString "modified")
        insertions := countOf (entry.get? "insertions")
        deletions := countOf (entry.get? "deletions")
        binary := Json.isTrue (entry.get? "binary")
        reverted := decide (path ∈ reverted) }
  else none

/-- `turnChangeViews` -/
def turnChangeViews (raw revertedPaths : Option Json) : List TurnChangeView :=
  let reverted := (Json.items revertedPaths).filterMap fun entry => Json.filled? (some entry)
  (Json.items raw).filterMap (turnChangeView reverted)

/-! ### Attachments -/

/-- `asInt` -/
def asInt (value : Option Json) : Option ℚ :=
  (Json.number? value).filter fun number => decide (number.den = 1 ∧ 0 ≤ number)

def attachmentView (entry : Json) : Option TranscriptAttachment := do
  let attachmentId ← Json.filled? (entry.get? "attachment_id")
  let name ← Json.string? (entry.get? "name")
  let mime ← Json.string? (entry.get? "mime")
  let size ← asInt (entry.get? "size")
  let imageId ← asInt (entry.get? "image_id")
  let revision := entry.get? "revision"
  match Json.orElse revision none with
  | none => some { attachmentId, imageId, name, mime, size, revision := none }
  | some (.string value) =>
    some { attachmentId, imageId, name, mime, size, revision := some value }
  | some _ => none

/-- `mapHistoryAttachments` -/
def mapHistoryAttachments (raw : Option Json) : List TranscriptAttachment :=
  (Json.items raw).filterMap attachmentView

end Synapse.Console
