import Synapse.Python.Value

/-!
# Transcript events

What the transcript of a thread is made of, as the console paints it and the projection stores it.
-/

namespace Synapse.Transcript

inductive Kind where
  | user | answer | thought | tools | changes
  | other (name : Text)
  deriving DecidableEq

structure ToolCall where
  id : Text
  name : Text
  args : Value
  deriving DecidableEq

structure ToolResult where
  id : Text
  name : Text
  content : Text
  status : Text
  deriving DecidableEq

/-- Bytes and media type. -/
abbrev Image := List UInt8 × Text

structure UiTranscriptEvent where
  kind : Kind
  text : Text := []
  toolCalls : List ToolCall := []
  toolResults : List ToolResult := []
  images : List Image := []
  attachments : List Value := []
  changes : List Value := []
  changesTotal : ℕ := 0
  turnId : Option Text := none
  elapsedS : Option ℚ := none
  collaboration : Option Entries := none
  deriving DecidableEq

end Synapse.Transcript
