import Synapse.Python.Text

/-!
# Turn events

The ordered events of one agent turn, and the envelope in which the session
broker numbers them. The payload is whatever the producer attached to the
event; the broker never looks into it, so it is a parameter here.
-/

namespace Synapse

/-- The event vocabulary of a turn. -/
inductive TurnEventKind where
  | activityStarted | activityUpdated | activityStopped
  | reasoningDelta | reasoningCompleted
  | answerDelta | answerCompleted
  | toolBatchStarted | toolStarted | toolUpdated | toolFinished | toolResult | toolBatchFinished
  | subagentStatusChanged
  | planUpdated | planRemoved | diffUpdated
  | usageUpdated | approvalRequired | info | collaborationInput | turnChanges
  | turnCompleted | turnCancelled | turnWaitingApproval | turnFailed
  deriving DecidableEq, Repr

namespace TurnEventKind

/-- `_LOSSLESS`: events that are kept under preview pressure. -/
def lossless : List TurnEventKind :=
  [toolStarted, toolUpdated, toolFinished, toolResult, toolBatchFinished, turnChanges,
    usageUpdated, turnCompleted, turnCancelled, turnWaitingApproval, turnFailed]

/-- `_PREVIEW`: events that are evicted first. -/
def preview : List TurnEventKind :=
  [activityStarted, activityUpdated, activityStopped, answerDelta, reasoningDelta]

/-- No kind is both kept and evicted first; some kinds are neither. -/
theorem lossless_disjoint_preview : lossless.Disjoint preview := by
  intro kind isLossless isPreview
  cases kind <;> simp [lossless, preview] at isLossless isPreview

end TurnEventKind

/-- One ordered event from a turn-local event stream. -/
structure TurnEvent (Payload : Type) where
  version : ℕ
  threadId : Text
  turnId : Text
  sequence : ℕ
  kind : TurnEventKind
  payload : Payload
  deriving DecidableEq, Repr

/-- A turn event under its cross-turn session sequence. -/
structure SessionEventEnvelope (Payload : Type) where
  threadId : Text
  sequence : ℕ
  turnId : Text
  event : TurnEvent Payload
  deriving DecidableEq, Repr

end Synapse
