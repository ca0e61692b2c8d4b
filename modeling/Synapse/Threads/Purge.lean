import Synapse.Foundation.Machine
import Synapse.Python.Text

/-!
# Purging a thread

Model of `purge_thread` and the deletion of the session row, beside one `SearchIndex.sync` and one
transcript migration of the purged thread. Every transaction and every read is one step. The two
writers read the checkpoints in one step and write derived rows in a later one.
-/

namespace Synapse.Threads

/-! ### Tables -/

/-- A table with a thread id in each row. -/
abbrev Rows (Data : Type) := List (Text × Data)

namespace Rows

variable {Data : Type}

/-- `DELETE FROM table WHERE thread_id = ?`. -/
def without (threadId : Text) (rows : Rows Data) : Rows Data :=
  rows.filter fun row => row.1 ≠ threadId

/-- The data of the rows of a thread. -/
def of (threadId : Text) (rows : Rows Data) : List Data :=
  (rows.filter fun row => row.1 = threadId).map (·.2)

/-- `INSERT OR REPLACE`, where the thread id is the key. -/
def upsert (threadId : Text) (data : Data) (rows : Rows Data) : Rows Data :=
  rows.without threadId ++ [(threadId, data)]

/-- The rows of a thread are replaced. -/
def replace (threadId : Text) (data : List Data) (rows : Rows Data) : Rows Data :=
  rows.without threadId ++ data.map fun item => (threadId, item)

end Rows

/-- The table has a row of the thread. -/
def Rows.Holds {Data : Type} (threadId : Text) (rows : Rows Data) : Prop :=
  threadId ∈ rows.map (·.1)

instance {Data : Type} (threadId : Text) (rows : Rows Data) : Decidable (rows.Holds threadId) :=
  inferInstanceAs (Decidable (_ ∈ _))

namespace Rows

variable {Data : Type} {threadId other : Text} {rows : Rows Data}

theorem not_holds_without : ¬(rows.without threadId).Holds threadId := by
  simp [Holds, without]

theorem holds_without_of_ne (different : other ≠ threadId) :
    (rows.without threadId).Holds other ↔ rows.Holds other := by
  simp only [Holds, without, List.mem_map, List.mem_filter, decide_eq_true_eq]
  constructor
  · rintro ⟨row, ⟨present, -⟩, own⟩
    exact ⟨row, present, own⟩
  · rintro ⟨row, present, own⟩
    exact ⟨row, ⟨present, own ▸ different⟩, own⟩

variable {data : Data}

theorem holds_upsert : (rows.upsert threadId data).Holds threadId := by
  simp [Holds, upsert]

theorem holds_upsert_of_ne (different : other ≠ threadId) :
    (rows.upsert threadId data).Holds other ↔ rows.Holds other := by
  have kept : (rows.without threadId).Holds other ↔ rows.Holds other :=
    holds_without_of_ne different
  rw [← kept]
  simp [Holds, upsert, different]

theorem holds_replace_of_ne {data : List Data} (different : other ≠ threadId) :
    (rows.replace threadId data).Holds other ↔ rows.Holds other := by
  have kept : (rows.without threadId).Holds other ↔ rows.Holds other :=
    holds_without_of_ne different
  rw [← kept]
  simp [Holds, replace, different]

@[simp]
theorem without_without : (rows.without threadId).without threadId = rows.without threadId := by
  simp [without, List.filter_filter]

end Rows

structure Checkpoint where
  namespaceId : Text
  checkpointId : Text
  blob : Text
  deriving DecidableEq

structure CheckpointStore where
  checkpoints : Rows Checkpoint
  writes : Rows Text
  deriving DecidableEq

/-- A message as far as it is read here: its role and its searchable text. -/
structure Message where
  role : Text
  text : Text
  deriving DecidableEq

structure TranscriptEvent where
  turn : ℕ
  kind : Text
  payload : Text
  deriving DecidableEq

structure TranscriptMeta where
  totalTurns : ℕ
  totalEvents : ℕ
  sourceMessageCount : ℕ
  sourceCheckpointId : Option Text
  deriving DecidableEq

structure TranscriptStore where
  events : Rows (ℕ × TranscriptEvent)
  turns : Rows Text
  metas : Rows TranscriptMeta
  usage : Rows (List ℕ)
  rebuilds : Rows Text
  deriving DecidableEq

structure SearchIndex where
  indexed : Rows (Text × Text)
  messages : Rows (ℕ × Text × Text)
  deriving DecidableEq

structure SessionStore where
  /-- `updated_at` of each session. -/
  sessions : Rows Text
  goals : Rows Text
  deriving DecidableEq

structure Stores where
  checkpoints : CheckpointStore
  transcript : TranscriptStore
  searchIndex : SearchIndex
  sessions : SessionStore
  deriving DecidableEq

/-- The parts of the host that are not written here. -/
structure Host where
  /-- What the saver makes of the checkpoints and writes of a thread. -/
  conversation : List Checkpoint → List Text → List Message
  /-- The exported history of a thread, which is read when there are no messages. -/
  archive : Text → List Message
  /-- The events of a transcript, with the timing that the earlier events of the thread hold. -/
  fold : List TranscriptEvent → List Message → List TranscriptEvent
  usage : List Message → List ℕ

/-- What purging, syncing and migrating are called with. -/
structure Call where
  target : Text
  threadIds : List Text
  maxSync : ℕ
  /-- The index has a session store to read `updated_at` from. -/
  hasStore : Bool

/-! ### Reads and writes of the stores -/

/-- The newest checkpoint id of a thread, in the root namespace. -/
def CheckpointStore.latest (store : CheckpointStore) (threadId : Text) : Option Text :=
  (((store.checkpoints.of threadId).filter (·.namespaceId = [])).map (·.checkpointId)).max?

def CheckpointStore.conversation (host : Host) (store : CheckpointStore) (threadId : Text) :
    List Message :=
  host.conversation (store.checkpoints.of threadId) (store.writes.of threadId)

/-- `transcript_meta.source_checkpoint_id`, or `none` where it is null or there is no row. -/
def TranscriptStore.source (store : TranscriptStore) (threadId : Text) : Option Text :=
  (store.metas.of threadId).head?.bind (·.sourceCheckpointId)

/-- `source_checkpoint_id()`. -/
def TranscriptStore.sourceCheckpointId (store : TranscriptStore) (threadId : Text) : Option Text :=
  (store.source threadId).filter (· ≠ [])

/-- `replace_from_messages`, once the source is the expected one. -/
def TranscriptStore.rebuilt (host : Host) (store : TranscriptStore) (threadId : Text)
    (messages : List Message) (sourceCheckpointId : Option Text) : TranscriptStore :=
  let events := host.fold ((store.events.of threadId).map (·.2)) messages
  { events := store.events.replace threadId (events.zipIdx.map fun (event, seq) => (seq, event))
    turns := store.turns.without threadId
    metas := store.metas.upsert threadId
      { totalTurns := ((events.map (·.turn)).max?).getD 0
        totalEvents := events.length
        sourceMessageCount := messages.length
        sourceCheckpointId }
    usage := store.usage.upsert threadId (host.usage messages)
    rebuilds := store.rebuilds.replace threadId (sourceCheckpointId.filter (· ≠ [])).toList }

def maxContentChars : ℕ := 2000

/-- The messages that are searched: neither tool results nor system messages nor empty ones. -/
def indexRows (messages : List Message) : List (ℕ × Text × Text) :=
  messages.zipIdx.filterMap fun (message, seq) =>
    if message.role = Text.ofString "tool" ∨ message.role = Text.ofString "system" ∨ message.text = []
    then none
    else some (seq, message.role, message.text.take maxContentChars)

/-- `_replace_thread`. -/
def SearchIndex.replaceThread (index : SearchIndex) (threadId checkpointId : Text)
    (messages : List Message) (updatedAt : Text) : SearchIndex where
  messages := index.messages.replace threadId (indexRows messages)
  indexed := index.indexed.upsert threadId (checkpointId, updatedAt)

/-- `_get_last_indexed`. -/
def SearchIndex.lastIndexed (index : SearchIndex) (threadId : Text) : Option Text :=
  (index.indexed.of threadId).head?.map (·.1)

/-! ### The parties -/

/-- What a purge and the deletion of the row go through, in this order. -/
inductive StoreName where
  | checkpoints | transcript | searchIndex | snapshots | sessions
  deriving DecidableEq, Repr

def allStores : List StoreName :=
  [.checkpoints, .transcript, .searchIndex, .snapshots, .sessions]

/-- The rows of a thread are deleted from one store. The snapshots of turns are files. -/
def Stores.delete (threadId : Text) (stores : Stores) : StoreName → Stores
  | .checkpoints =>
    { stores with
      checkpoints :=
        { checkpoints := stores.checkpoints.checkpoints.without threadId
          writes := stores.checkpoints.writes.without threadId } }
  | .transcript =>
    { stores with
      transcript :=
        { events := stores.transcript.events.without threadId
          turns := stores.transcript.turns.without threadId
          metas := stores.transcript.metas.without threadId
          usage := stores.transcript.usage.without threadId
          rebuilds := stores.transcript.rebuilds.without threadId } }
  | .searchIndex =>
    { stores with
      searchIndex :=
        { indexed := stores.searchIndex.indexed.without threadId
          messages := stores.searchIndex.messages.without threadId } }
  | .snapshots => stores
  | .sessions =>
    { stores with
      sessions :=
        { sessions := stores.sessions.sessions.without threadId
          goals := stores.sessions.goals.without threadId } }

/-- Where a sync is: before its first read, at the next thread, or in the middle of one. -/
inductive SyncStage where
  | start
  | next (rest : List Text) (latest : List (Text × Text)) (synced : ℕ)
  | rebuild (threadId checkpointId : Text) (rest : List Text) (latest : List (Text × Text))
      (synced : ℕ)
  | stamp (threadId checkpointId : Text) (messages : List Message) (rest : List Text)
      (latest : List (Text × Text)) (synced : ℕ)
  | replace (threadId checkpointId : Text) (messages : List Message) (updatedAt : Text)
      (rest : List Text) (latest : List (Text × Text)) (synced : ℕ)
  | done
  deriving DecidableEq

/-- Where the migration worker is. -/
inductive MigrationStage where
  | contains
  | newest
  | compare (latest : Text)
  | observe
  | snapshot (observed : Option Text) (tries : ℕ)
  | load (observed snapshotId : Option Text) (tries : ℕ)
  | confirm (observed snapshotId : Option Text) (messages : List Message) (tries : ℕ)
  | replace (observed snapshotId : Option Text) (messages : List Message)
  | done
  deriving DecidableEq

structure State where
  stores : Stores
  /-- The stores that the purge has still to visit. -/
  remaining : List StoreName
  failures : List StoreName
  sync : SyncStage
  migration : MigrationStage

/-- Nobody has taken a step. -/
def State.start (stores : Stores) : State where
  stores := stores
  remaining := allStores
  failures := []
  sync := .start
  migration := .contains

/-- One step of a party; the flag says whether its read or transaction succeeds. -/
inductive Label where
  | purge (succeeds : Bool)
  | sync (succeeds : Bool)
  | migrate (succeeds : Bool)
  deriving DecidableEq, Repr

/-- A store that fails is reported; the deletion of the row has no report. -/
def purgeStep (call : Call) (succeeds : Bool) (state : State) : Option State :=
  match state.remaining with
  | [] => none
  | store :: rest =>
    if succeeds then
      some { state with stores := state.stores.delete call.target store, remaining := rest }
    else if store = .sessions then none
    else some { state with remaining := rest, failures := state.failures ++ [store] }

/-- The step of a sync, in the state of the stores: its next stage, and the index after it. -/
def syncStep (call : Call) (host : Host) (succeeds : Bool) (stores : Stores) :
    SyncStage → Option (SyncStage × SearchIndex)
  | .start =>
    let threadIds := call.threadIds.filter (· ≠ [])
    let latest := threadIds.filterMap fun threadId =>
      (stores.checkpoints.latest threadId).map fun checkpointId => (threadId, checkpointId)
    if succeeds = false ∨ latest = [] then some (.done, stores.searchIndex)
    else some (.next threadIds latest 0, stores.searchIndex)
  | .next [] _ _ => some (.done, stores.searchIndex)
  | .next (threadId :: rest) latest synced =>
    if call.maxSync ≤ synced then some (.done, stores.searchIndex)
    else
      match latest.lookup threadId with
      | none => some (.next rest latest synced, stores.searchIndex)
      | some checkpointId =>
        if succeeds = false ∨ stores.searchIndex.lastIndexed threadId = some checkpointId then
          some (.next rest latest synced, stores.searchIndex)
        else some (.rebuild threadId checkpointId rest latest synced, stores.searchIndex)
  | .rebuild threadId checkpointId rest latest synced =>
    if succeeds = false then some (.next rest latest synced, stores.searchIndex)
    else
      some (.stamp threadId checkpointId (stores.checkpoints.conversation host threadId) rest latest
        synced, stores.searchIndex)
  | .stamp threadId checkpointId messages rest latest synced =>
    if succeeds = false then some (.next rest latest synced, stores.searchIndex)
    else
      let updatedAt :=
        if call.hasStore then (stores.sessions.sessions.of threadId).head?.getD [] else []
      some (.replace threadId checkpointId messages updatedAt rest latest synced,
        stores.searchIndex)
  | .replace threadId checkpointId messages updatedAt rest latest synced =>
    if succeeds = false then some (.next rest latest synced, stores.searchIndex)
    else
      some (.next rest latest (synced + 1),
        stores.searchIndex.replaceThread threadId checkpointId messages updatedAt)
  | .done => none

/-- The step of the migration worker: its next stage, and the transcript after it. A checkpoint read
that fails finds nothing; any other failure ends the worker. -/
def migrateStep (call : Call) (host : Host) (succeeds : Bool) (stores : Stores) :
    MigrationStage → Option (MigrationStage × TranscriptStore)
  | .contains =>
    if succeeds = false then some (.done, stores.transcript)
    else if stores.transcript.metas.of call.target = [] then some (.observe, stores.transcript)
    else some (.newest, stores.transcript)
  | .newest =>
    match if succeeds then stores.checkpoints.latest call.target else none with
    | none => some (.done, stores.transcript)
    | some latest => some (.compare latest, stores.transcript)
  | .compare latest =>
    if succeeds = false ∨ stores.transcript.sourceCheckpointId call.target = some latest then
      some (.done, stores.transcript)
    else some (.observe, stores.transcript)
  | .observe =>
    if succeeds = false then some (.done, stores.transcript)
    else
      some (.snapshot (stores.transcript.sourceCheckpointId call.target) 3, stores.transcript)
  | .snapshot _ 0 => some (.done, stores.transcript)
  | .snapshot observed (tries + 1) =>
    let snapshotId := if succeeds then stores.checkpoints.latest call.target else none
    some (.load observed snapshotId tries, stores.transcript)
  | .load observed snapshotId tries =>
    let messages := if succeeds then stores.checkpoints.conversation host call.target else []
    let messages := if succeeds ∧ messages = [] then host.archive call.target else messages
    some (.confirm observed snapshotId messages tries, stores.transcript)
  | .confirm observed snapshotId messages tries =>
    let latest := if succeeds then stores.checkpoints.latest call.target else none
    if latest = snapshotId then some (.replace observed snapshotId messages, stores.transcript)
    else some (.snapshot observed tries, stores.transcript)
  | .replace observed snapshotId messages =>
    -- The worker ends with the transaction, whether it writes or not.
    if succeeds ∧ stores.transcript.source call.target = observed then
      some (.done, stores.transcript.rebuilt host call.target messages snapshotId)
    else some (.done, stores.transcript)
  | .done => none

def machine (call : Call) (host : Host) : Machine State Label where
  step state
    | .purge succeeds => purgeStep call succeeds state
    | .sync succeeds =>
      (syncStep call host succeeds state.stores state.sync).map fun (sync, searchIndex) =>
        { state with sync, stores := { state.stores with searchIndex } }
    | .migrate succeeds =>
      (migrateStep call host succeeds state.stores state.migration).map fun (migration, transcript) =>
        { state with migration, stores := { state.stores with transcript } }

/-! ### What a store holds -/

/-- The store has a row of the thread; the snapshots have no rows. -/
def Stores.Holds (stores : Stores) (threadId : Text) : StoreName → Prop
  | .checkpoints =>
    stores.checkpoints.checkpoints.Holds threadId ∨ stores.checkpoints.writes.Holds threadId
  | .transcript =>
    stores.transcript.events.Holds threadId ∨ stores.transcript.turns.Holds threadId ∨
      stores.transcript.metas.Holds threadId ∨ stores.transcript.usage.Holds threadId ∨
      stores.transcript.rebuilds.Holds threadId
  | .searchIndex =>
    stores.searchIndex.indexed.Holds threadId ∨ stores.searchIndex.messages.Holds threadId
  | .snapshots => False
  | .sessions => stores.sessions.sessions.Holds threadId ∨ stores.sessions.goals.Holds threadId

instance (stores : Stores) (threadId : Text) : ∀ name, Decidable (stores.Holds threadId name)
  | .checkpoints => inferInstanceAs (Decidable (_ ∨ _))
  | .transcript => inferInstanceAs (Decidable (_ ∨ _))
  | .searchIndex => inferInstanceAs (Decidable (_ ∨ _))
  | .snapshots => inferInstanceAs (Decidable False)
  | .sessions => inferInstanceAs (Decidable (_ ∨ _))

/-- The stores without the rows of a thread. -/
def Stores.others (threadId : Text) (stores : Stores) : Stores :=
  allStores.foldl (Stores.delete threadId) stores

section

variable {call : Call} {host : Host} {stores : Stores} {name : StoreName} {threadId : Text}

theorem not_holds_delete : ¬(stores.delete threadId name).Holds threadId name := by
  cases name <;> simp [Stores.Holds, Stores.delete, Rows.not_holds_without]

theorem holds_delete_of_ne {other : StoreName} (different : other ≠ name) :
    (stores.delete threadId name).Holds threadId other ↔ stores.Holds threadId other := by
  cases name <;> cases other <;> first | exact absurd rfl different | exact Iff.rfl

theorem others_delete : (stores.delete threadId name).others threadId = stores.others threadId := by
  cases name <;> simp [Stores.others, allStores, Stores.delete]

variable {succeeds : Bool}

/-- A sync changes the rows of a thread in the index only by replacing them. -/
theorem syncStep_spec {stage after : SyncStage} {index : SearchIndex}
    (stepped : syncStep call host succeeds stores stage = some (after, index)) :
    index = stores.searchIndex ∨
      ∃ threadId checkpointId messages updatedAt rest latest synced,
        stage = .replace threadId checkpointId messages updatedAt rest latest synced ∧
          succeeds = true ∧
          index = stores.searchIndex.replaceThread threadId checkpointId messages updatedAt := by
  cases stage with
  | start =>
    simp only [syncStep] at stepped
    split at stepped <;> cases stepped <;> exact Or.inl rfl
  | next rest latest synced =>
    cases rest with
    | nil =>
      cases stepped
      exact Or.inl rfl
    | cons threadId rest =>
      simp only [syncStep] at stepped
      split at stepped
      · cases stepped
        exact Or.inl rfl
      · split at stepped
        · cases stepped
          exact Or.inl rfl
        · split at stepped <;> cases stepped <;> exact Or.inl rfl
  | rebuild threadId checkpointId rest latest synced =>
    simp only [syncStep] at stepped
    split at stepped <;> cases stepped <;> exact Or.inl rfl
  | stamp threadId checkpointId messages rest latest synced =>
    simp only [syncStep] at stepped
    split at stepped <;> cases stepped <;> exact Or.inl rfl
  | replace threadId checkpointId messages updatedAt rest latest synced =>
    simp only [syncStep] at stepped
    split at stepped
    · cases stepped
      exact Or.inl rfl
    · rename_i succeeded
      cases stepped
      exact Or.inr ⟨_, _, _, _, _, _, _, rfl, by simpa using succeeded, rfl⟩
  | done => cases stepped

/-- The migration changes the transcript only by rebuilding it from the source it expects. -/
theorem migrateStep_spec {stage after : MigrationStage}
    {transcript : TranscriptStore}
    (stepped : migrateStep call host succeeds stores stage = some (after, transcript)) :
    transcript = stores.transcript ∨
      ∃ observed snapshotId messages, stage = .replace observed snapshotId messages ∧
        succeeds = true ∧ stores.transcript.source call.target = observed ∧
        transcript = stores.transcript.rebuilt host call.target messages snapshotId := by
  cases stage with
  | contains =>
    simp only [migrateStep] at stepped
    split at stepped
    · cases stepped
      exact Or.inl rfl
    · split at stepped <;> cases stepped <;> exact Or.inl rfl
  | newest =>
    simp only [migrateStep] at stepped
    split at stepped <;> cases stepped <;> exact Or.inl rfl
  | compare latest =>
    simp only [migrateStep] at stepped
    split at stepped <;> cases stepped <;> exact Or.inl rfl
  | observe =>
    simp only [migrateStep] at stepped
    split at stepped <;> cases stepped <;> exact Or.inl rfl
  | snapshot observed tries =>
    cases tries <;> cases stepped <;> exact Or.inl rfl
  | load observed snapshotId tries =>
    cases stepped
    exact Or.inl rfl
  | confirm observed snapshotId messages tries =>
    simp only [migrateStep] at stepped
    generalize (if succeeds = true then stores.checkpoints.latest call.target else none) = latest
      at stepped
    split at stepped <;> cases stepped <;> exact Or.inl rfl
  | replace observed snapshotId messages =>
    simp only [migrateStep] at stepped
    split at stepped
    · rename_i writes
      cases stepped
      exact Or.inr ⟨_, _, _, rfl, writes.1, writes.2, rfl⟩
    · cases stepped
      exact Or.inl rfl
  | done => cases stepped

end

/-! ### Late writes -/

/-- The rows of the target are about to be written into the index. -/
def State.SyncWrites (call : Call) (state : State) : Prop :=
  match state.sync with
  | .replace threadId _ _ _ _ _ _ => threadId = call.target
  | _ => False

/-- The transcript of the target is about to be rebuilt. -/
def State.MigrationWrites (call : Call) (state : State) : Prop :=
  match state.migration with
  | .replace observed _ _ => state.stores.transcript.source call.target = observed
  | _ => False

instance (call : Call) (state : State) : Decidable (state.SyncWrites call) :=
  match same : state.sync with
  | .replace threadId _ _ _ _ _ _ =>
    decidable_of_iff (threadId = call.target) (by rw [State.SyncWrites, same])
  | .start | .next .. | .rebuild .. | .stamp .. | .done =>
    isFalse (by rw [State.SyncWrites, same]; exact id)

instance (call : Call) (state : State) : Decidable (state.MigrationWrites call) :=
  match same : state.migration with
  | .replace observed _ _ =>
    decidable_of_iff (state.stores.transcript.source call.target = observed)
      (by rw [State.MigrationWrites, same])
  | .contains | .newest | .compare _ | .observe | .snapshot .. | .load .. | .confirm .. | .done =>
    isFalse (by rw [State.MigrationWrites, same]; exact id)

/-- No rows of the target are written into a store that the purge has left behind. -/
def Timely (call : Call) (state : State) (label : Label) : Prop :=
  (label = .sync true → state.SyncWrites call → .searchIndex ∈ state.remaining) ∧
    (label = .migrate true → state.MigrationWrites call → .transcript ∈ state.remaining)

instance (call : Call) (state : State) (label : Label) : Decidable (Timely call state label) :=
  inferInstanceAs (Decidable (_ ∧ _))

/-- The stores that were purged hold no row of the target. -/
structure Purged (call : Call) (state : State) : Prop where
  nodup : state.remaining.Nodup
  gone : ∀ name, name ∉ state.remaining → name ∉ state.failures →
    ¬state.stores.Holds call.target name

/-- A derived store holds a row of the target and will not be purged any more. -/
def Stained (call : Call) (state : State) : Prop :=
  (.searchIndex ∉ state.remaining ∧ state.stores.Holds call.target .searchIndex) ∨
    (.transcript ∉ state.remaining ∧ state.stores.Holds call.target .transcript)

section

variable {call : Call} {host : Host} {state next : State} {label : Label}

theorem purgeStep_spec {succeeds : Bool} (stepped : purgeStep call succeeds state = some next) :
    ∃ name rest, state.remaining = name :: rest ∧ next.remaining = rest ∧
      ((next.stores = state.stores.delete call.target name ∧ next.failures = state.failures) ∨
        (next.stores = state.stores ∧ next.failures = state.failures ++ [name])) := by
  unfold purgeStep at stepped
  split at stepped
  · cases stepped
  · rename_i name rest shape
    refine ⟨name, rest, shape, ?_⟩
    split at stepped
    · cases stepped
      exact ⟨rfl, Or.inl ⟨rfl, rfl⟩⟩
    · rcases Option.ite_none_left_eq_some.mp stepped with ⟨_, ⟨⟩⟩
      exact ⟨rfl, Or.inr ⟨rfl, rfl⟩⟩

variable {stores : Stores} {threadId : Text}
variable {name : StoreName}

theorem holds_of_searchIndex {index : SearchIndex}
    (other : name ≠ .searchIndex) :
    Stores.Holds { stores with searchIndex := index } threadId name ↔ stores.Holds threadId name := by
  cases name <;> first | exact absurd rfl other | exact Iff.rfl

theorem holds_of_transcript {transcript : TranscriptStore}
    (other : name ≠ .transcript) :
    Stores.Holds { stores with transcript := transcript } threadId name ↔
      stores.Holds threadId name := by
  cases name <;> first | exact absurd rfl other | exact Iff.rfl

/-- Replacing the rows of another thread in the index keeps those of the target. -/
theorem holds_replaceThread_of_ne {target checkpointId updatedAt : Text}
    {messages : List Message} (different : target ≠ threadId) :
    Stores.Holds
        { stores with
          searchIndex := stores.searchIndex.replaceThread threadId checkpointId messages updatedAt }
        target .searchIndex ↔
      stores.Holds target .searchIndex :=
  or_congr (Rows.holds_upsert_of_ne different) (Rows.holds_replace_of_ne different)

theorem Purged.step (purged : Purged call state) (timely : Timely call state label)
    (stepped : (machine call host).step state label = some next) : Purged call next := by
  cases label with
  | purge succeeds =>
    rcases purgeStep_spec stepped with ⟨name, rest, shape, remaining, outcome⟩
    have nodup := purged.nodup
    rw [shape] at nodup
    refine ⟨remaining ▸ nodup.of_cons, ?_⟩
    intro other left unreported
    rw [remaining] at left
    by_cases same : other = name
    · subst same
      rcases outcome with ⟨stores, -⟩ | ⟨-, failures⟩
      · rw [stores]
        exact not_holds_delete
      · rw [failures] at unreported
        exact absurd (List.mem_append_right _ (List.mem_singleton_self _)) unreported
    · have before : other ∉ state.remaining := by
        rw [shape, List.mem_cons, not_or]
        exact ⟨same, left⟩
      rcases outcome with ⟨stores, failures⟩ | ⟨stores, failures⟩
      · rw [stores, holds_delete_of_ne same]
        exact purged.gone other before (failures ▸ unreported)
      · rw [stores]
        refine purged.gone other before fun reported => unreported ?_
        rw [failures]
        exact List.mem_append_left _ reported
  | sync succeeds =>
    rcases Option.map_eq_some_iff.1 stepped with ⟨⟨stage, index⟩, synced, rfl⟩
    refine ⟨purged.nodup, ?_⟩
    intro name left unreported
    have clean := purged.gone name left unreported
    by_cases indexed : name = .searchIndex
    · subst indexed
      rcases syncStep_spec synced with rfl | ⟨threadId, _, _, _, _, _, _, shape, succeeded, rfl⟩
      · exact clean
      · have other : call.target ≠ threadId := by
          rintro rfl
          refine left (timely.1 (by rw [succeeded]) ?_)
          rw [State.SyncWrites, shape]
        exact fun holds => clean ((holds_replaceThread_of_ne other).1 holds)
    · exact fun holds => clean ((holds_of_searchIndex indexed).1 holds)
  | migrate succeeds =>
    rcases Option.map_eq_some_iff.1 stepped with ⟨⟨stage, transcript⟩, migrated, rfl⟩
    refine ⟨purged.nodup, ?_⟩
    intro name left unreported
    have clean := purged.gone name left unreported
    by_cases projected : name = .transcript
    · subst projected
      rcases migrateStep_spec migrated with rfl | ⟨observed, _, _, shape, succeeded, expected, rfl⟩
      · exact clean
      · refine absurd (timely.2 (by rw [succeeded]) ?_) left
        rw [State.MigrationWrites, shape]
        exact expected
    · exact fun holds => clean ((holds_of_transcript projected).1 holds)

theorem stained_of_late (late : ¬Timely call state label)
    (stepped : (machine call host).step state label = some next) : Stained call next := by
  rw [Timely, not_and_or] at late
  rcases late with sync | migrate
  · push Not at sync
    rcases sync with ⟨rfl, writes, left⟩
    rcases Option.map_eq_some_iff.1 stepped with ⟨⟨stage, index⟩, synced, rfl⟩
    unfold State.SyncWrites at writes
    split at writes
    case h_1 threadId checkpointId messages updatedAt rest latest count shape =>
      rw [shape] at synced
      cases synced
      subst writes
      exact Or.inl ⟨left, Or.inl Rows.holds_upsert⟩
    case h_2 => exact writes.elim
  · push Not at migrate
    rcases migrate with ⟨rfl, writes, left⟩
    rcases Option.map_eq_some_iff.1 stepped with ⟨⟨stage, transcript⟩, migrated, rfl⟩
    unfold State.MigrationWrites at writes
    split at writes
    case h_1 observed snapshotId messages shape =>
      rw [shape, migrateStep, if_pos ⟨rfl, writes⟩] at migrated
      cases migrated
      exact Or.inr ⟨left, Or.inr (Or.inr (Or.inl Rows.holds_upsert))⟩
    case h_2 => exact writes.elim

theorem Stained.step (stained : Stained call state)
    (stepped : (machine call host).step state label = some next) : Stained call next := by
  cases label with
  | purge succeeds =>
    rcases purgeStep_spec stepped with ⟨name, rest, shape, remaining, outcome⟩
    have kept : ∀ other, other ∉ state.remaining → state.stores.Holds call.target other →
        other ∉ next.remaining ∧ next.stores.Holds call.target other := by
      intro other left holds
      rw [shape, List.mem_cons, not_or] at left
      refine ⟨remaining ▸ left.2, ?_⟩
      rcases outcome with ⟨stores, -⟩ | ⟨stores, -⟩
      · rw [stores]
        exact (holds_delete_of_ne left.1).2 holds
      · rwa [stores]
    exact stained.imp (fun row => kept _ row.1 row.2) fun row => kept _ row.1 row.2
  | sync succeeds =>
    rcases Option.map_eq_some_iff.1 stepped with ⟨⟨stage, index⟩, synced, rfl⟩
    refine stained.imp (fun row => ⟨row.1, ?_⟩) fun row => ⟨row.1, ?_⟩
    · rcases syncStep_spec synced with rfl | ⟨threadId, _, _, _, _, _, _, -, -, rfl⟩
      · exact row.2
      · by_cases own : call.target = threadId
        · subst own
          exact Or.inl Rows.holds_upsert
        · exact (holds_replaceThread_of_ne own).2 row.2
    · exact (holds_of_searchIndex (by decide)).2 row.2
  | migrate succeeds =>
    rcases Option.map_eq_some_iff.1 stepped with ⟨⟨stage, transcript⟩, migrated, rfl⟩
    refine stained.imp (fun row => ⟨row.1, ?_⟩) fun row => ⟨row.1, ?_⟩
    · exact (holds_of_transcript (by decide)).2 row.2
    · rcases migrateStep_spec migrated with rfl | ⟨_, _, _, -, -, -, rfl⟩
      · exact row.2
      · exact Or.inr (Or.inr (Or.inl Rows.holds_upsert))

end

/-! ### Whole runs -/

section

variable {call : Call} {host : Host} {stores : Stores} {labels : List Label} {final : State}

/-- All parties have finished. -/
def State.Finished (state : State) : Prop :=
  state.remaining = [] ∧ state.sync = .done ∧ state.migration = .done

instance (state : State) : Decidable state.Finished :=
  inferInstanceAs (Decidable (_ ∧ _))

theorem mem_allStores (name : StoreName) : name ∈ allStores := by
  cases name <;> decide

theorem purged_start : Purged call (State.start stores) where
  nodup := (by decide : allStores.Nodup)
  gone name left := absurd (mem_allStores name) left

theorem stained_of_run {start : State} (ran : (machine call host).run start labels = some final)
    (late : ¬(machine call host).Guarded (Timely call) start labels) : Stained call final := by
  induction labels generalizing start with
  | nil => exact absurd trivial late
  | cons label labels ih =>
    rcases Machine.run_cons.1 ran with ⟨next, stepped, rest⟩
    by_cases timely : Timely call start label
    · refine ih rest fun guarded => late ⟨timely, fun other taken => ?_⟩
      cases stepped.symm.trans taken
      exact guarded
    · exact Machine.run_invariant (fun holds taken => Stained.step holds taken)
        (stained_of_late timely stepped) rest

/-- A purge that finishes without failures leaves nothing of its thread exactly when no derived rows
were written into a store that it had left behind. -/
theorem holds_none_iff_timely (ran : (machine call host).run (State.start stores) labels = some final)
    (finished : final.Finished) (complete : final.failures = []) :
    (∀ name, ¬final.stores.Holds call.target name) ↔
      (machine call host).Guarded (Timely call) (State.start stores) labels := by
  constructor
  · intro gone
    by_contra late
    rcases stained_of_run ran late with ⟨-, holds⟩ | ⟨-, holds⟩
    · exact gone _ holds
    · exact gone _ holds
  · intro guarded name
    have purged : Purged call final :=
      Machine.run_invariant_of_guarded (fun holds timely taken => Purged.step holds timely taken)
        purged_start guarded ran
    refine purged.gone name ?_ ?_
    · rw [finished.1]
      exact List.not_mem_nil
    · rw [complete]
      exact List.not_mem_nil

theorem others_purgeStep {state next : State} {succeeds : Bool}
    (stepped : purgeStep call succeeds state = some next) :
    next.stores.others call.target = state.stores.others call.target := by
  rcases purgeStep_spec stepped with ⟨name, -, -, -, ⟨stores, -⟩ | ⟨stores, -⟩⟩
  · rw [stores, others_delete]
  · rw [stores]

end

def plainHost : Host where
  conversation checkpoints _ :=
    checkpoints.map fun checkpoint => { role := Text.ofString "human", text := checkpoint.blob }
  archive _ := []
  fold _ messages :=
    messages.map fun message => { turn := 1, kind := Text.ofString "user", payload := message.text }
  usage messages := [messages.length]

def loneThread : Text := Text.ofString "t"

def loneCall : Call where
  target := loneThread
  threadIds := [loneThread]
  maxSync := 50
  hasStore := true

def loneStores : Stores where
  checkpoints :=
    { checkpoints := [(loneThread, { namespaceId := [], checkpointId := [1], blob := [0x61] })]
      writes := [] }
  transcript := { events := [], turns := [], metas := [], usage := [], rebuilds := [] }
  searchIndex := { indexed := [], messages := [] }
  sessions := { sessions := [(loneThread, [])], goals := [] }

end Synapse.Threads
