import Synapse.Foundation.Machine
import Synapse.Python.Text

/-!
# The usage rollup

A compression event and its projection are written in one transaction. Events without a projection are read
and projected in batches behind a cursor; each statement that reads is a step of its own, and a batch writes
its projections and the cursor in one transaction.
-/

namespace Synapse.ToolOutput

/-- A row of `model_request_compression_events` -/
structure EventRow (Payload : Type) where
  id : ℕ
  requestId : Text
  threadId : Text
  eventJson : Payload
  createdAt : Text

/-- The table of the events, in the order of their ids; `lastId` is kept by `AUTOINCREMENT`. -/
structure EventTable (Payload : Type) where
  rows : List (EventRow Payload)
  lastId : ℕ
  sorted : rows.Pairwise fun first second => first.id < second.id
  bounded : ∀ row ∈ rows, 0 < row.id ∧ row.id ≤ lastId
  unique : (rows.map EventRow.requestId).Nodup

namespace EventTable

variable {Payload : Type} (table : EventTable Payload)

def others (requestId : Text) : List (EventRow Payload) := table.rows.filter fun row => row.requestId ≠ requestId

/-- `INSERT OR REPLACE`, which gives the row a new id. -/
def insertOrReplace (requestId threadId : Text) (eventJson : Payload) (createdAt : Text) : EventTable Payload where
  rows := table.others requestId ++ [⟨table.lastId + 1, requestId, threadId, eventJson, createdAt⟩]
  lastId := table.lastId + 1
  sorted := by
    rw [List.pairwise_append]
    refine ⟨table.sorted.filter _, List.pairwise_singleton .., fun first mem second new => ?_⟩
    rw [List.mem_singleton.1 new]
    exact Nat.lt_succ_of_le (table.bounded first (List.mem_of_mem_filter mem)).2
  bounded := fun row mem => by
    rcases List.mem_append.1 mem with old | new
    · have bounds := table.bounded row (List.mem_of_mem_filter old)
      exact ⟨bounds.1, Nat.le_succ_of_le bounds.2⟩
    · rw [List.mem_singleton.1 new]
      exact ⟨Nat.succ_pos _, le_rfl⟩
  unique := by
    rw [List.map_append, List.nodup_append]
    refine ⟨table.unique.sublist (List.filter_sublist.map _), List.nodup_singleton _, ?_⟩
    intro first mem second new
    rcases List.mem_map.1 mem with ⟨row, kept, rfl⟩
    rw [List.map_singleton, List.mem_singleton] at new
    rw [new]
    exact of_decide_eq_true (List.mem_filter.1 kept).2

/-- `SELECT COALESCE(MAX(id), 0)` -/
def highWater : ℕ := (table.rows.map EventRow.id).foldr max 0

/-- `WHERE id > ? AND id <= ? ORDER BY id LIMIT ?` -/
def between (cursor highWater limit : ℕ) : List (EventRow Payload) :=
  (table.rows.filter fun row => cursor < row.id ∧ row.id ≤ highWater).take limit

end EventTable

/-- A row of `model_request_compression_rollup`; `Real` are the values of a `REAL` column. -/
structure RollupRow (Real : Type) where
  requestId : Text
  threadId : Text
  createdAt : Text
  turnId : Text
  model : Text
  providerInputTokens : ℤ
  cacheReadTokens : ℤ
  cacheWriteTokens : ℤ
  uncachedInputTokens : ℤ
  outputTokens : ℤ
  totalSavedTokens : ℤ
  inputTokensBefore : ℤ
  durationMs : Real
  deriving DecidableEq

/-- The JSON codec and the conversions of `_rollup_int`, `_rollup_float` and `str(value or "")`. A conversion
that raises, or whose result cannot be bound, has no value. -/
structure EventHost (Event Value Real Payload : Type) where
  dumps : Event → Option Payload
  /-- The dictionary of a payload, where it is one -/
  loads : Payload → Option Event
  get : Event → Text → Value
  text : Value → Option Text
  int : Value → Option ℤ
  float : Value → Option Real

variable {Event Value Real Payload : Type} (host : EventHost Event Value Real Payload)

/-- `_rollup_row` -/
def rollupRow (requestId threadId createdAt : Text) (event : Event) : Option (RollupRow Real) := do
  let get (name : String) : Value := host.get event (Text.ofString name)
  return {
    requestId := requestId
    threadId := threadId
    createdAt := createdAt
    turnId := ← host.text (get "turn_id")
    model := ← host.text (get "model")
    providerInputTokens := ← host.int (get "provider_input_tokens")
    cacheReadTokens := ← host.int (get "cache_read_tokens")
    cacheWriteTokens := ← host.int (get "cache_write_tokens")
    uncachedInputTokens := ← host.int (get "uncached_input_tokens")
    outputTokens := ← host.int (get "output_tokens")
    totalSavedTokens := ← host.int (get "total_saved_tokens")
    inputTokensBefore := ← host.int (get "input_tokens_before")
    durationMs := ← host.float (get "duration_ms") }

/-- The projection of a stored event -/
def projectionOf (row : EventRow Payload) (event : Event) : Option (RollupRow Real) :=
  rollupRow host row.requestId row.threadId row.createdAt event

/-- A call of `_backfill_compression_rollup` between its statements, with its batch -/
inductive Backfill (Payload : Type) where
  | idle
  | marked (batch highWater : ℕ)
  | placed (batch highWater cursor : ℕ)
  | scanned (highWater : ℕ) (rows : List (EventRow Payload))
  | returned (caughtUp : Bool)
  | raised

structure RollupStore (Real Payload : Type) where
  events : EventTable Payload
  rollup : List (RollupRow Real)
  /-- The value in `tool_output_rollup_state` -/
  cursor : Option ℕ
  backfills : ℕ → Backfill Payload

inductive RollupStep (Event : Type) where
  | recordModelRequest (threadId requestId : Text) (event : Event) (created : Text)
  /-- `SELECT COALESCE(MAX(id), 0)`, by the catch-up thread or by `_setup` -/
  | highWater (backfill : ℕ) (thread : Bool)
  | readCursor (backfill : ℕ)
  | readRows (backfill : ℕ)
  | writeRows (backfill : ℕ)
  /-- A statement raises `sqlite3.Error`. -/
  | skip (backfill : ℕ)

/-- `_ROLLUP_BACKFILL_THREAD_BATCH` and `_ROLLUP_BACKFILL_BATCH` -/
def batchOf (thread : Bool) : ℕ := if thread then 4000 else 500

/-- `_ROLLUP_INSERT` -/
def insertRollup (rollup : List (RollupRow Real)) (row : RollupRow Real) : List (RollupRow Real) :=
  (rollup.filter fun other => other.requestId ≠ row.requestId) ++ [row]

/-- The projections of the rows that can be parsed -/
def projected : List (EventRow Payload) → Option (List (RollupRow Real))
  | [] => some []
  | row :: rows =>
    match host.loads row.eventJson with
    | none => projected rows
    | some event => do
        let first ← projectionOf host row event
        let others ← projected rows
        return first :: others

namespace RollupStore

variable (store : RollupStore Real Payload)

/-- A store before its rollup -/
def unprojected (events : EventTable Payload) : RollupStore Real Payload where
  events := events
  rollup := []
  cursor := none
  backfills _ := .idle

def setBackfill (backfill : ℕ) (phase : Backfill Payload) : RollupStore Real Payload :=
  { store with backfills := Function.update store.backfills backfill phase }

/-- `record_model_request` -/
def recordModelRequest (threadId requestId : Text) (event : Event) (created : Text) : RollupStore Real Payload :=
  if threadId = [] ∨ requestId = [] then store
  else
    match host.dumps event, rollupRow host requestId threadId created event with
    | some payload, some row =>
      { store with
        events := store.events.insertOrReplace requestId threadId payload created
        rollup := insertRollup store.rollup row }
    -- the call raises, and nothing is committed
    | _, _ => store

def readCursor (backfill batch highWater : ℕ) : RollupStore Real Payload :=
  let cursor := store.cursor.getD 0
  store.setBackfill backfill (if highWater ≤ cursor then .returned true else .placed batch highWater cursor)

def readRows (backfill batch highWater cursor : ℕ) : RollupStore Real Payload :=
  let rows := store.events.between cursor highWater batch
  store.setBackfill backfill (if rows.isEmpty then .returned true else .scanned highWater rows)

/-- The id of the last row -/
def lastOf (rows : List (EventRow Payload)) : ℕ := (rows.getLast?.map EventRow.id).getD 0

def writeRows (backfill highWater : ℕ) (rows : List (EventRow Payload)) : RollupStore Real Payload :=
  match projected host rows with
  | none => store.setBackfill backfill .raised
  | some projections =>
    { store.setBackfill backfill (.returned (highWater ≤ lastOf rows)) with
      rollup := projections.foldl insertRollup store.rollup
      cursor := some (lastOf rows) }

def step : RollupStep Event → Option (RollupStore Real Payload)
  | .recordModelRequest threadId requestId event created =>
    some (store.recordModelRequest host threadId requestId event created)
  | .highWater backfill thread =>
    match store.backfills backfill with
    | .idle => some (store.setBackfill backfill (.marked (batchOf thread) store.events.highWater))
    | _ => none
  | .readCursor backfill =>
    match store.backfills backfill with
    | .marked batch highWater => some (store.readCursor backfill batch highWater)
    | _ => none
  | .readRows backfill =>
    match store.backfills backfill with
    | .placed batch highWater cursor => some (store.readRows backfill batch highWater cursor)
    | _ => none
  | .writeRows backfill =>
    match store.backfills backfill with
    | .scanned highWater rows => some (store.writeRows host backfill highWater rows)
    | _ => none
  | .skip backfill =>
    match store.backfills backfill with
    | .returned _ | .raised => none
    | _ => some (store.setBackfill backfill (.returned true))

def machine : Machine (RollupStore Real Payload) (RollupStep Event) := ⟨fun store label => store.step host label⟩

end RollupStore

end Synapse.ToolOutput
