import Synapse.Foundation.RelyGuarantee
import Synapse.Search.Matching

/-!
# Syncs of the search index

A sync reads the newest checkpoint ids first and the messages of each thread later, while other syncs write
and checkpoints are added.
-/

namespace Synapse.Search

/-! ### Checkpoints -/

/-- A checkpoint, with the messages that the writes since a snapshot give and those it holds itself. -/
structure Checkpoint where
  threadId : Text
  id : Text
  parent : Option Text
  delta : List Message
  values : List Message
  deriving DecidableEq

def Checkpoint.key (checkpoint : Checkpoint) : Text × Text := (checkpoint.threadId, checkpoint.id)

/-- The checkpoints of the threads; each parent is one of the same thread. -/
structure History where
  checkpoints : List Checkpoint
  keys : (checkpoints.map Checkpoint.key).Nodup
  closed : ∀ checkpoint ∈ checkpoints, ∀ parent ∈ checkpoint.parent,
    (checkpoint.threadId, parent) ∈ checkpoints.map Checkpoint.key
  deriving DecidableEq

namespace History

/-- There is a checkpoint of the thread with the id. -/
def Has (history : History) (threadId id : Text) : Prop :=
  (threadId, id) ∈ history.checkpoints.map Checkpoint.key

instance (history : History) (threadId id : Text) : Decidable (history.Has threadId id) :=
  inferInstanceAs (Decidable (_ ∈ _))

/-- The id is new, and the parent is there. -/
def Admits (history : History) (checkpoint : Checkpoint) : Prop :=
  ¬ history.Has checkpoint.threadId checkpoint.id ∧
    ∀ parent ∈ checkpoint.parent, history.Has checkpoint.threadId parent

instance (history : History) (checkpoint : Checkpoint) : Decidable (history.Admits checkpoint) :=
  inferInstanceAs (Decidable (_ ∧ ∀ parent ∈ checkpoint.parent, history.Has checkpoint.threadId parent))

/-- A saver writes each checkpoint once, after its parent. -/
def put (history : History) (checkpoint : Checkpoint) : History :=
  if admitted : history.Admits checkpoint then {
    checkpoints := history.checkpoints ++ [checkpoint]
    keys := by
      rw [List.map_append]
      refine List.Nodup.append history.keys (List.nodup_singleton _) fun key old new => ?_
      obtain rfl := List.mem_singleton.1 new
      exact admitted.1 old
    closed := by
      intro other mem parent parented
      rw [List.map_append, List.mem_append]
      rcases List.mem_append.1 mem with old | new
      · exact Or.inl (history.closed other old parent parented)
      · obtain rfl := List.mem_singleton.1 new
        exact Or.inl (admitted.2 parent parented) }
  else history

/-- The checkpoint of the thread with the greatest id. -/
def newest (history : History) (threadId : Text) : Option Checkpoint :=
  (history.checkpoints.filter fun checkpoint => decide (checkpoint.threadId = threadId)).argmax Checkpoint.id

def find (history : History) (threadId id : Text) : Option Checkpoint :=
  history.checkpoints.find? fun checkpoint => decide (checkpoint.key = (threadId, id))

/-- `get_tuple(config)` -/
def tuple (history : History) (threadId : Text) : Option Text → Option Checkpoint
  | none => history.newest threadId
  | some id => history.find threadId id

end History

/-- The messages of a snapshot, or what its parent gives. -/
def follow (checkpoint : Checkpoint) (rest : Text → List Message) : List Message :=
  if checkpoint.values ≠ [] then checkpoint.values
  else match checkpoint.parent with
    | none => []
    | some parent => rest parent

/-- The first snapshot with messages among the first few. -/
def walk (history : History) (threadId : Text) : ℕ → Option Text → List Message
  | 0, _ => []
  | fuel + 1, config =>
    match history.tuple threadId config with
    | none => []
    | some checkpoint => follow checkpoint fun parent => walk history threadId fuel (some parent)

/-- `max(1, max_parents + 1)` -/
def maxSnapshots : ℕ := 51

/-- The messages of a checkpoint. -/
def History.messagesOf (history : History) (checkpoint : Checkpoint) : List Message :=
  if checkpoint.delta ≠ [] then checkpoint.delta
  else walk history checkpoint.threadId maxSnapshots (some checkpoint.id)

/-! ### Calls -/

structure Databases where
  history : History
  index : Index
  deriving DecidableEq

inductive Statement where
  | put
  | latest
  | delta
  | tuple
  | lastIndexed
  | replace
  deriving DecidableEq

abbrev Sql (Result : Type) := Script Statement Databases Result

/-- What one sync is asked for and meets: errors when it reads the newest ids, threads whose messages
cannot be read, and threads whose tables are locked. -/
structure Sync where
  threadIds : List Text
  maxSync : ℤ
  latestFails : Bool
  unreadable : List Text
  locked : List Text
  updatedAt : Text → Text

inductive SyncError where
  | unicodeEncode
  deriving DecidableEq

/-- The fallback of `load_messages_from_checkpointer`. -/
def loadSnapshots (threadId : Text) : ℕ → Option Text → Sql (List Message)
  | 0, _ => pure []
  | fuel + 1, config => do
      match ← Script.atomically .tuple fun state => (state, state.history.tuple threadId config) with
      | none => pure []
      | some checkpoint =>
        if checkpoint.values ≠ [] then pure checkpoint.values
        else match checkpoint.parent with
          | none => pure []
          | some parent => loadSnapshots threadId fuel (some parent)

/-- `load_messages_from_checkpointer` -/
def loadMessages (threadId : Text) : Sql (List Message) := do
  let delta ← Script.atomically .delta fun state =>
    (state, ((state.history.newest threadId).map Checkpoint.delta).getD [])
  if delta ≠ [] then pure delta else loadSnapshots threadId maxSnapshots none

/-- `_rebuild_messages`, which has no messages when they cannot be read. -/
def rebuildMessages (sync : Sync) (threadId : Text) : Sql (List Message) :=
  if threadId ∈ sync.unreadable then pure [] else loadMessages threadId

/-- What `_replace_thread` does: it writes all, or nothing and raises. -/
def replace (sync : Sync) (threadId checkpointId : Text) (messages : List Message) (state : Databases) :
    Databases × Option SyncError :=
  match replaceThread state.index threadId checkpointId messages (sync.updatedAt threadId) with
  | none => (state, some .unicodeEncode)
  | some index => ({ state with index := index }, none)

def syncThreads (sync : Sync) (latest : Text → Option Text) : List Text → ℕ → Sql (Except SyncError ℕ)
  | [], synced => pure (.ok synced)
  | threadId :: rest, synced =>
    if sync.maxSync ≤ synced then pure (.ok synced)
    else match latest threadId with
      | none => syncThreads sync latest rest synced
      | some checkpointId => do
          let last ← Script.atomically .lastIndexed fun state => (state, state.index.lastIndexed threadId)
          if last = some checkpointId then syncThreads sync latest rest synced
          else do
            let messages ← rebuildMessages sync threadId
            if threadId ∈ sync.locked then syncThreads sync latest rest synced
            else match ← Script.atomically .replace (replace sync threadId checkpointId messages) with
              | some error => pure (.error error)
              | none => syncThreads sync latest rest (synced + 1)

/-- `[t for t in thread_ids if t]` -/
def Sync.named (sync : Sync) : List Text := sync.threadIds.filter fun threadId => decide (threadId ≠ [])

def Sync.script (sync : Sync) : Sql (Except SyncError ℕ) :=
  if sync.named = [] ∨ sync.latestFails = true then pure (.ok 0)
  else if ¬ ∀ threadId ∈ sync.named, Text.Encodes threadId then pure (.error .unicodeEncode)
  else do
    let latest ← Script.atomically .latest fun state =>
      (state, fun threadId => (state.history.newest threadId).map Checkpoint.id)
    if ∀ threadId ∈ sync.named, latest threadId = none then pure (.ok 0)
    else syncThreads sync latest sync.named 0

/-- An agent adds a checkpoint, or a sync is made. -/
inductive Call where
  | put (checkpoint : Checkpoint)
  | sync (sync : Sync)

def Call.script : Call → Sql (Except SyncError ℕ)
  | .put checkpoint => do
      Script.atomically .put fun state => ({ state with history := state.history.put checkpoint }, ())
      pure (.ok 0)
  | .sync call => call.script

end Synapse.Search
