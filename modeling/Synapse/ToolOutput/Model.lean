import Synapse.Python.Lines

/-!
# Tool output

What a transformer is told about a tool output, and what it makes of it.
-/

namespace Synapse.ToolOutput

inductive ContentType where
  | search
  | paths
  | log
  | diff
  | gitSummary
  | json
  | code
  | text
  deriving DecidableEq

structure TransformContext where
  toolName : Text
  status : Text
  query : Text := []
  filePath : Text := []
  fileSuffix : Text := []
  freshReadSource : Bool := true

structure TransformResult where
  content : Text
  transformer : Text
  contentType : ContentType
  criticalTotal : ℕ
  criticalRetained : ℕ
  metadata : List (Text × Value) := []

/-- A number in a header. -/
def decimal (value : ℕ) : Text := Text.ofString value.repr

def metaInt (key : String) (value : ℕ) : Text × Value := (Text.ofString key, .int true value)

end Synapse.ToolOutput
