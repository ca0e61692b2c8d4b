import Synapse.Python.Value

/-!
# The projection of events

Model of `project_payload` and of `_to_runtime_event`. A container that holds itself is a tree with
the leaf `cycle`, so the set of active containers is not part of the recursion.
-/

namespace Synapse.Service

def maxProjectionDepth : ℕ := 100
def minEventBytes : ℕ := 1024
def maxEventBytes : ℕ := 8 * 1024 * 1024

/-- Why a payload is refused with `InvalidEventPayloadError`. -/
inductive Rejection where
  | depth
  | nonFinite
  | cycle
  | key
  | unknown
  /-- Code of the producer raises, or the sort key of a set cannot be written. -/
  | producer
  deriving DecidableEq, Repr

mutual

/-- `_project`. -/
def project (depth : ℕ) : Value → Except Rejection Value
  | .null => if maxProjectionDepth < depth then .error .depth else .ok .null
  | .bool value => if maxProjectionDepth < depth then .error .depth else .ok (.bool value)
  | .int plain value => if maxProjectionDepth < depth then .error .depth else .ok (.int plain value)
  | .str plain value => if maxProjectionDepth < depth then .error .depth else .ok (.str plain value)
  | .float finite literal =>
    if maxProjectionDepth < depth then .error .depth
    else if finite then .ok (.float finite literal)
    else .error .nonFinite
  | .enumeration value =>
    if maxProjectionDepth < depth then .error .depth else project (depth + 1) value
  | .record fields =>
    if maxProjectionDepth < depth then .error .depth
    else (projectEntries depth fields).map (.mapping true)
  | .mapping _ entries =>
    if maxProjectionDepth < depth then .error .depth
    else (projectEntries depth entries).map (.mapping true)
  | .sequence items =>
    if maxProjectionDepth < depth then .error .depth
    else (projectItems depth items).map fun projected => .sequence (Values.ofList projected)
  | .set items =>
    if maxProjectionDepth < depth then .error .depth
    else
      (projectItems depth items).bind fun projected =>
        match sortByDump projected with
        | .ok ordered => .ok (.sequence (Values.ofList ordered))
        | .error _ => .error .producer
  | .bytes encoded =>
    if maxProjectionDepth < depth then .error .depth
    else .ok (.mapping true
      (.cons (.str (Text.ofString "$base64")) (.str true encoded) .nil))
  | .rendered value =>
    if maxProjectionDepth < depth then .error .depth else .ok (.str true value)
  | .cycle => if maxProjectionDepth < depth then .error .depth else .error .cycle
  | .raising => if maxProjectionDepth < depth then .error .depth else .error .producer
  | .unknown => if maxProjectionDepth < depth then .error .depth else .error .unknown

def projectItems (depth : ℕ) : Values → Except Rejection (List Value)
  | .nil => .ok []
  | .cons head tail => do
      let first ← project (depth + 1) head
      let others ← projectItems depth tail
      return first :: others

def projectEntries (depth : ℕ) : Entries → Except Rejection Entries
  | .nil => .ok .nil
  | .cons key value rest =>
    match key with
    | .str name => do
        let projected ← project (depth + 1) value
        let others ← projectEntries depth rest
        return .cons (.str name) projected others
    | _ => .error .key

end

def projectPayload (value : Value) : Except Rejection Value :=
  project 0 value

/-- A session event with its envelope. -/
structure Envelope where
  sequence : ℕ
  turnSequence : ℕ
  turnId : Text
  kind : Text
  payload : Value
  version : ℕ
  deriving DecidableEq, Repr

structure RuntimeEvent where
  sequence : ℕ
  turnSequence : ℕ
  turnId : Text
  kind : Text
  payload : Value
  version : ℕ
  deriving DecidableEq, Repr

def field (name : String) (value : Value) : Key × Value :=
  (.str (Text.ofString name), value)

def RuntimeEvent.fields (event : RuntimeEvent) : Entries :=
  .ofList
    [field "sequence" (.int true event.sequence),
      field "turn_sequence" (.int true event.turnSequence),
      field "turn_id" (.str true event.turnId), field "kind" (.str true event.kind),
      field "payload" event.payload, field "version" (.int true event.version)]

/-- How `_to_runtime_event` fails. -/
inductive EventFailure where
  /-- `InvalidEventPayloadError`. -/
  | invalidPayload (reason : Rejection)
  /-- `EventTooLargeError`. -/
  | tooLarge (actual limit : ℕ)
  /-- The measurement raises, and nothing converts its exception. -/
  | escaped (error : JsonError)
  deriving DecidableEq, Repr

def toRuntimeEvent (maxEventBytes : ℕ) (envelope : Envelope) : Except EventFailure RuntimeEvent :=
  match projectPayload envelope.payload with
  | .error reason => .error (.invalidPayload reason)
  | .ok payload =>
    let result : RuntimeEvent :=
      { sequence := envelope.sequence, turnSequence := envelope.turnSequence
        turnId := envelope.turnId, kind := envelope.kind, payload := payload
        version := envelope.version }
    -- The fields are the dictionary that `dataclasses.asdict` returns.
    match (Value.mapping true result.fields).dumpSize true with
    | .error error => .error (.escaped error)
    | .ok actual =>
      if maxEventBytes < actual then .error (.tooLarge actual maxEventBytes) else .ok result

end Synapse.Service
