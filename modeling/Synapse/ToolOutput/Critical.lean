import Synapse.ToolOutput.Model

/-!
# Critical lines

The lines that a transformer has to keep, and the result that counts those which its body holds.
-/

namespace Synapse.ToolOutput

/-- What the regular expressions of the transformers find, `str.casefold`, and the floating point scores of
lines. -/
structure Matchers where
  /-- The path and the line of `_SEARCH_LINE`. -/
  searchLine : Text → Option (Text × ℕ)
  errorLine : Text → Bool
  /-- `\b[A-Za-z_]+(?:Error|Exception):` -/
  exceptionLine : Text → Bool
  warningLine : Text → Bool
  stackLine : Text → Bool
  logSummary : Text → Bool
  /-- The status lines of Git that are critical. -/
  gitStatus : Text → Bool
  /-- The totals of Git that are selected. -/
  gitTotals : Text → Bool
  gitFileEntry : Text → Bool
  /-- `_NUMBER_OR_PATH.sub("<value>", line)` -/
  withoutValues : Text → Text
  /-- `_TOKEN.findall(query)` -/
  tokens : Text → List Text
  casefold : Text → Text
  /-- The score of a line for a query. -/
  score : Text → Text → ℚ
  sum : List ℚ → ℚ

def startsWith (line : Text) (start : String) : Bool := decide (Text.ofString start <+: line)

def isError (m : Matchers) (line : Text) : Bool := m.errorLine line || m.exceptionLine line

/-- A line of a diff that was added or removed, unless it looks like a header. -/
def isChanged (line : Text) : Bool :=
  (startsWith line "+" || startsWith line "-") && !(startsWith line "+++" || startsWith line "---")

/-- `_critical_lines` -/
def criticalLines (m : Matchers) (content : Text) : ContentType → List Text
  | .log => (Text.splitlines content).filter (isError m)
  | .diff => (Text.splitlines content).filter isChanged
  | .gitSummary => (Text.splitlines content).filter m.gitStatus
  | .search | .paths | .json | .code | .text => []

/-- `_result` -/
def result (m : Matchers) (content body : Text) (transformer : String) (contentType : ContentType)
    (metadata : List (Text × Value)) : TransformResult where
  content := body
  transformer := Text.ofString transformer
  contentType := contentType
  criticalTotal := (criticalLines m content contentType).length
  criticalRetained := (criticalLines m content contentType).countP fun item => decide (item <:+: body)
  metadata := metadata

/-- The content as it is. -/
def unchanged (content : Text) (transformer : String) (contentType : ContentType) : TransformResult where
  content := content
  transformer := Text.ofString transformer
  contentType := contentType
  criticalTotal := 0
  criticalRetained := 0

end Synapse.ToolOutput
