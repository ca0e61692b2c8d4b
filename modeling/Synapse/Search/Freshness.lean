import Synapse.Search.Sync

/-!
# Freshness of the search index

A thread whose indexed checkpoint is its newest one has the rows of that checkpoint: the messages that were
read after the id are those of this checkpoint, or there is a newer one.
-/

namespace Synapse.Search

open List

variable {before after history : History} {threadId id : Text} {checkpoint : Checkpoint}

/-! ### Histories that grow -/

/-- Checkpoints were added. -/
def Grows (before after : History) : Prop := before.checkpoints <+: after.checkpoints

theorem grows_put (history : History) (checkpoint : Checkpoint) : Grows history (history.put checkpoint) := by
  unfold History.put
  split
  · exact prefix_append _ _
  · exact prefix_rfl

theorem Grows.has (grows : Grows before after) (has : before.Has threadId id) : after.Has threadId id :=
  (grows.map Checkpoint.key).subset has

theorem has_of_mem (mem : checkpoint ∈ history.checkpoints) : history.Has checkpoint.threadId checkpoint.id :=
  mem_map_of_mem mem

theorem find_of_mem (mem : checkpoint ∈ history.checkpoints) :
    history.find checkpoint.threadId checkpoint.id = some checkpoint :=
  Table.find?_eq_some history.keys mem

theorem find_of_has (has : history.Has threadId id) : ∃ checkpoint ∈ history.checkpoints,
    checkpoint.threadId = threadId ∧ checkpoint.id = id ∧ history.find threadId id = some checkpoint := by
  rcases mem_map.1 has with ⟨checkpoint, mem, same⟩
  obtain ⟨rfl, rfl⟩ := Prod.mk.inj same
  exact ⟨checkpoint, mem, rfl, rfl, find_of_mem mem⟩

theorem mem_newest (newest : history.newest threadId = some checkpoint) :
    checkpoint ∈ history.checkpoints ∧ checkpoint.threadId = threadId := by
  rcases mem_filter.1 (argmax_mem newest) with ⟨mem, same⟩
  exact ⟨mem, of_decide_eq_true same⟩

theorem le_newest (newest : history.newest threadId = some checkpoint) {other : Checkpoint}
    (mem : other ∈ history.checkpoints) (own : other.threadId = threadId) : other.id ≤ checkpoint.id := by
  have greatest : checkpoint ∈ @List.argmax _ _ _ LinearOrder.toDecidableLT Checkpoint.id
      (history.checkpoints.filter fun checkpoint => decide (checkpoint.threadId = threadId)) := by
    rw [History.newest] at newest
    rw [Option.mem_def, ← newest]
    congr!
  exact le_of_mem_argmax (mem_filter.2 ⟨mem, decide_eq_true own⟩) greatest

theorem exists_newest (has : history.Has threadId id) :
    ∃ checkpoint, history.newest threadId = some checkpoint := by
  rcases find_of_has has with ⟨checkpoint, mem, same, _⟩
  cases newest : history.newest threadId with
  | some other => exact ⟨other, rfl⟩
  | none =>
    have none := argmax_eq_none.1 newest
    have kept : checkpoint ∈ history.checkpoints.filter fun other => decide (other.threadId = threadId) :=
      mem_filter.2 ⟨mem, decide_eq_true same⟩
    rw [none] at kept
    cases kept

/-- A newest checkpoint that was there before was newest then. -/
theorem Grows.newest (grows : Grows before after) (newest : after.newest threadId = some checkpoint)
    (has : before.Has threadId checkpoint.id) : before.newest threadId = some checkpoint := by
  rcases exists_newest has with ⟨other, found⟩
  rcases mem_newest newest with ⟨mem, own⟩
  rcases mem_newest found with ⟨otherMem, otherOwn⟩
  rcases find_of_has has with ⟨same, sameMem, sameThread, sameId, _⟩
  have later : other.id ≤ checkpoint.id := le_newest newest (grows.subset otherMem) otherOwn
  have earlier : same.id ≤ other.id := le_newest found sameMem sameThread
  have ids : other.id = checkpoint.id := le_antisymm later (sameId ▸ earlier)
  have equal : other = checkpoint := Table.eq_of_key after.keys (grows.subset otherMem) mem
    (Prod.ext (otherOwn.trans own.symm) ids)
  exact equal ▸ found

/-- What is read from snapshots that are there is read later too. -/
theorem Grows.walk (grows : Grows before after) {fuel : ℕ} (has : before.Has threadId id) :
    walk after threadId fuel (some id) = walk before threadId fuel (some id) := by
  induction fuel generalizing id with
  | zero => rfl
  | succ fuel ih =>
    rcases find_of_has has with ⟨checkpoint, mem, rfl, rfl, found⟩
    have later : after.find checkpoint.threadId checkpoint.id = some checkpoint :=
      find_of_mem (grows.subset mem)
    simp only [Search.walk, History.tuple, found, later, follow]
    split
    · rfl
    · cases parented : checkpoint.parent with
      | none => rfl
      | some parent => exact ih (before.closed checkpoint mem parent parented)

theorem Grows.messagesOf (grows : Grows before after) (mem : checkpoint ∈ before.checkpoints) :
    after.messagesOf checkpoint = before.messagesOf checkpoint := by
  rw [History.messagesOf, History.messagesOf, grows.walk (has_of_mem mem)]

/-! ### What is known of a checkpoint while it is the newest one -/

/-- The checkpoint with the id has a property, if it is the newest one of its thread. -/
structure Newest (threadId id : Text) (holds : History → Checkpoint → Prop) (history : History) : Prop where
  has : history.Has threadId id
  holds : ∀ checkpoint, history.newest threadId = some checkpoint → checkpoint.id = id → holds history checkpoint

variable {holds : History → Checkpoint → Prop}

theorem Newest.grows (known : Newest threadId id holds before) (grows : Grows before after)
    (lasts : ∀ checkpoint ∈ before.checkpoints, checkpoint.threadId = threadId →
      holds before checkpoint → holds after checkpoint) : Newest threadId id holds after where
  has := grows.has known.has
  holds checkpoint newest same := by
    have earlier := grows.newest newest (same ▸ known.has)
    rcases mem_newest earlier with ⟨mem, own⟩
    exact lasts checkpoint mem own (known.holds checkpoint earlier same)

theorem Newest.imp {weaker : History → Checkpoint → Prop}
    (known : Newest threadId id holds history) (implies : ∀ checkpoint,
      history.newest threadId = some checkpoint → holds history checkpoint → weaker history checkpoint) :
    Newest threadId id weaker history where
  has := known.has
  holds checkpoint newest same := implies checkpoint newest (known.holds checkpoint newest same)

/-- Each thread whose indexed checkpoint is its newest one has the rows of that checkpoint. -/
def Current (state : Databases) : Prop :=
  ∀ entry ∈ state.index.indexed, Newest entry.threadId entry.lastCheckpointId
    (fun history checkpoint =>
      state.index.messages.filter (fun row => decide (row.threadId = entry.threadId)) =
        rowsOf entry.threadId (history.messagesOf checkpoint)) state.history

/-- What every step keeps. -/
structure Keeps (before after : Databases) : Prop where
  grows : Grows before.history after.history
  current : Current before → Current after

variable {state : Databases}

theorem Current.grows {later : Databases} (current : Current state) (grows : Grows state.history later.history)
    (same : later.index = state.index) : Current later := by
  rw [Current, same]
  intro entry mem
  exact (current entry mem).grows grows fun checkpoint mem _ same => by rw [same, grows.messagesOf mem]

theorem keeps_refl (state : Databases) : Keeps state state := ⟨prefix_rfl, fun current => current⟩

theorem keeps_put (state : Databases) (checkpoint : Checkpoint) :
    Keeps state { state with history := state.history.put checkpoint } where
  grows := grows_put state.history checkpoint
  current current := current.grows (grows_put state.history checkpoint) rfl

/-! ### Reading messages -/

/-- From what is known, the script keeps what others rely on and ends with the postcondition. -/
abbrev Secures {Result : Type} (script : Sql Result) (known : Databases → Prop)
    (post : Result → Databases → Prop) : Prop :=
  script.Guarantees (fun _ _ => True) Keeps Keeps post known

theorem secures_read {Value : Type} {tag : Statement} {read : Databases → Value} {known : Databases → Prop}
    {post : Value → Databases → Prop} (stable : ∀ value, Script.Stable Keeps (post value))
    (reads : ∀ state, known state → post (read state) state) :
    Secures (Script.atomically tag fun state => (state, read state)) known post :=
  Script.guarantees_atomically stable fun state holds _ => ⟨keeps_refl state, reads state holds⟩

/-- What was read is what the checkpoint has, while it is the newest one. -/
def Reads (threadId id : Text) (messages : List Message) (state : Databases) : Prop :=
  Newest threadId id (fun history checkpoint => messages = history.messagesOf checkpoint) state.history

/-- The snapshot that was read is where the messages of the checkpoint come from, while it is the newest
one. -/
structure Follows (threadId id : Text) (fuel : ℕ) (snapshot : Checkpoint) (state : Databases) : Prop where
  mem : snapshot ∈ state.history.checkpoints
  own : snapshot.threadId = threadId
  newest : Newest threadId id (fun history checkpoint => history.messagesOf checkpoint =
    follow snapshot fun parent => walk history threadId fuel (some parent)) state.history

/-- The snapshot to read is where the messages of the checkpoint come from, while it is the newest one. -/
structure Seeks (threadId id : Text) (fuel : ℕ) (parent : Text) (state : Databases) : Prop where
  has : state.history.Has threadId parent
  newest : Newest threadId id (fun history checkpoint => history.messagesOf checkpoint =
    walk history threadId fuel (some parent)) state.history

theorem Grows.follow (grows : Grows before after) {snapshot : Checkpoint}
    (mem : snapshot ∈ before.checkpoints) (fuel : ℕ) :
    follow snapshot (fun parent => Search.walk after snapshot.threadId fuel (some parent)) =
      follow snapshot fun parent => Search.walk before snapshot.threadId fuel (some parent) := by
  unfold Search.follow
  split
  · rfl
  · cases parented : snapshot.parent with
    | none => rfl
    | some parent => exact grows.walk (before.closed snapshot mem parent parented)

theorem stable_follows (threadId id : Text) (fuel : ℕ) (snapshot : Checkpoint) :
    Script.Stable Keeps (Follows threadId id fuel snapshot) := by
  intro before after follows keeps
  obtain rfl := follows.own
  refine ⟨keeps.grows.subset follows.mem, rfl, follows.newest.grows keeps.grows fun checkpoint mem _ same => ?_⟩
  rw [keeps.grows.messagesOf mem, same, keeps.grows.follow follows.mem]

theorem secures_follow {fuel : ℕ} {snapshot : Checkpoint}
    (rest : ∀ parent, Secures (loadSnapshots threadId fuel (some parent)) (Seeks threadId id fuel parent)
      (Reads threadId id)) :
    Secures (if snapshot.values ≠ [] then pure snapshot.values
      else match snapshot.parent with
        | none => pure []
        | some parent => loadSnapshots threadId fuel (some parent))
      (Follows threadId id fuel snapshot) (Reads threadId id) := by
  split
  · next filled =>
      refine Script.guarantees_pure fun state follows => follows.newest.imp fun checkpoint _ same => ?_
      rw [same, follow, if_pos filled]
  · next empty =>
      cases parented : snapshot.parent with
      | none =>
        refine Script.guarantees_pure fun state follows => follows.newest.imp fun checkpoint _ same => ?_
        rw [same, follow, if_neg empty, parented]
      | some parent =>
        refine (rest parent).mono fun state follows => ⟨?_, follows.newest.imp fun checkpoint _ same => ?_⟩
        · obtain rfl := follows.own
          exact state.history.closed snapshot follows.mem parent parented
        · rw [same, follow, if_neg empty, parented]

theorem secures_tuple {fuel : ℕ} {tuple : Option Checkpoint}
    (rest : ∀ parent, Secures (loadSnapshots threadId fuel (some parent)) (Seeks threadId id fuel parent)
      (Reads threadId id)) :
    Secures (match tuple with
      | none => pure []
      | some snapshot =>
        if snapshot.values ≠ [] then pure snapshot.values
        else match snapshot.parent with
          | none => pure []
          | some parent => loadSnapshots threadId fuel (some parent))
      (fun state => ∃ snapshot, tuple = some snapshot ∧ Follows threadId id fuel snapshot state)
      (Reads threadId id) := by
  cases tuple with
  | none => exact Script.guarantees_of_false _ fun state ⟨_, missing, _⟩ => by cases missing
  | some snapshot =>
    refine (secures_follow rest).mono fun state ⟨other, same, follows⟩ => ?_
    obtain rfl := Option.some.inj same
    exact follows

theorem secures_loadSnapshots (threadId id : Text) (fuel : ℕ) (parent : Text) :
    Secures (loadSnapshots threadId fuel (some parent)) (Seeks threadId id fuel parent) (Reads threadId id) := by
  induction fuel generalizing parent with
  | zero =>
    exact Script.guarantees_pure fun state seeks => seeks.newest.imp fun checkpoint _ same => same.symm
  | succ fuel ih =>
    have reads : Secures (Script.atomically .tuple fun state => (state, state.history.tuple threadId (some parent)))
        (Seeks threadId id (fuel + 1) parent)
        fun tuple state => ∃ snapshot, tuple = some snapshot ∧ Follows threadId id fuel snapshot state := by
      refine secures_read ?_ fun state seeks => ?_
      · rintro tuple before after ⟨snapshot, rfl, follows⟩ keeps
        exact ⟨snapshot, rfl, stable_follows threadId id fuel snapshot before after follows keeps⟩
      · rcases find_of_has seeks.has with ⟨snapshot, mem, rfl, rfl, found⟩
        refine ⟨snapshot, found, mem, rfl, seeks.newest.imp fun checkpoint _ same => ?_⟩
        rw [same, walk, History.tuple, found]
    exact reads.bind fun tuple => secures_tuple ih

/-- The first snapshot is that of the newest checkpoint. -/
theorem secures_loadMessages (threadId id : Text) : Secures (loadMessages threadId)
    (fun state => state.history.Has threadId id) (Reads threadId id) := by
  have reads : Secures (Script.atomically .delta fun state =>
      (state, ((state.history.newest threadId).map Checkpoint.delta).getD []))
      (fun state => state.history.Has threadId id)
      fun delta state => Newest threadId id (fun _ checkpoint => checkpoint.delta = delta) state.history := by
    refine secures_read (fun delta before after known keeps => known.grows keeps.grows fun _ _ _ same => same)
      fun state has => ⟨has, fun checkpoint newest _ => ?_⟩
    rw [newest]
    rfl
  refine reads.bind fun delta => ?_
  split
  · next filled =>
      refine Script.guarantees_pure fun state known => known.imp fun checkpoint _ same => ?_
      rw [History.messagesOf, same, if_pos filled]
  · next empty =>
      have snapshots : Secures (Script.atomically .tuple fun state => (state, state.history.tuple threadId none))
          (fun state => Newest threadId id (fun _ checkpoint => checkpoint.delta = delta) state.history)
          fun tuple state => ∃ snapshot, tuple = some snapshot ∧ Follows threadId id 50 snapshot state := by
        refine secures_read ?_ fun state known => ?_
        · rintro tuple before after ⟨snapshot, rfl, follows⟩ keeps
          exact ⟨snapshot, rfl, stable_follows threadId id 50 snapshot before after follows keeps⟩
        · rcases exists_newest known.has with ⟨snapshot, newest⟩
          rcases mem_newest newest with ⟨mem, own⟩
          refine ⟨snapshot, newest, mem, own, known.imp fun checkpoint found same => ?_⟩
          obtain rfl := Option.mem_unique newest found
          subst own
          rw [History.messagesOf, same, if_neg empty, maxSnapshots, walk, History.tuple, find_of_mem mem]
      exact snapshots.bind fun tuple => secures_tuple (secures_loadSnapshots threadId id 50)

/-! ### Writing rows -/

variable {messages : List Message}

theorem current_replaced {index : Index} {updatedAt : Text} (current : Current state)
    (reads : Reads threadId id messages state)
    (replaced : replaceThread state.index threadId id messages updatedAt = some index) :
    Current { state with index := index } := by
  rcases Option.ite_none_right_eq_some.mp replaced with ⟨_, replaced⟩
  obtain rfl := Option.some.inj replaced
  intro entry mem
  rcases mem_append.1 mem with old | new
  · rcases mem_filter.1 old with ⟨stored, different⟩
    have other : entry.threadId ≠ threadId := of_decide_eq_true different
    refine (current entry stored).imp fun checkpoint _ same => ?_
    show (replacedMessages state.index threadId messages).filter _ = _
    have own : (rowsOf threadId messages).filter (fun row => decide (row.threadId = entry.threadId)) = [] := by
      refine filter_eq_nil_iff.2 fun row mem same => other ?_
      exact (of_decide_eq_true same).symm.trans (threadId_of_mem mem)
    rw [replacedMessages, filter_append, own, append_nil, filter_filter, ← same]
    refine filter_congr fun row _ => ?_
    by_cases same : row.threadId = entry.threadId
    · simp [same, other]
    · simp [same]
  · obtain rfl := mem_singleton.1 new
    refine reads.imp fun checkpoint _ same => ?_
    show (replacedMessages state.index threadId messages).filter (fun row => decide (row.threadId = threadId)) = _
    have others : (state.index.messages.filter fun row => decide (row.threadId ≠ threadId)).filter
        (fun row => decide (row.threadId = threadId)) = [] := by
      refine filter_eq_nil_iff.2 fun row mem same => ?_
      exact of_decide_eq_true (mem_filter.1 mem).2 (of_decide_eq_true same)
    rw [replacedMessages, filter_append, others, nil_append, ← same]
    exact filter_eq_self.2 fun row mem => decide_eq_true (threadId_of_mem mem)

/-- The ids that a sync has read are there. -/
def Listed (latest : Text → Option Text) (state : Databases) : Prop :=
  ∀ threadId, ∀ id ∈ latest threadId, state.history.Has threadId id

theorem stable_listed (latest : Text → Option Text) : Script.Stable Keeps (Listed latest) :=
  fun _ _ listed keeps threadId id mem => keeps.grows.has (listed threadId id mem)

theorem secures_replace (sync : Sync) (latest : Text → Option Text) (threadId id : Text) (messages : List Message) :
    Secures (Script.atomically .replace (replace sync threadId id messages))
      (fun state => Reads threadId id messages state ∧ Listed latest state) (fun _ => Listed latest) := by
  refine Script.guarantees_atomically (fun _ => stable_listed latest) fun state ⟨reads, listed⟩ _ => ?_
  unfold replace
  cases replaced : replaceThread state.index threadId id messages (sync.updatedAt threadId) with
  | none => exact ⟨keeps_refl state, listed⟩
  | some index =>
    exact ⟨⟨prefix_rfl, fun current => current_replaced current reads replaced⟩, listed⟩

variable {sync : Sync}

theorem secures_rebuildMessages (readable : sync.unreadable = []) (latest : Text → Option Text)
    (threadId id : Text) : Secures (rebuildMessages sync threadId)
      (fun state => state.history.Has threadId id ∧ Listed latest state)
      fun messages state => Reads threadId id messages state ∧ Listed latest state := by
  rw [rebuildMessages, if_neg (by rw [readable]; exact not_mem_nil)]
  exact (secures_loadMessages threadId id).frame (stable_listed latest) fun before after =>
    fun keeps listed => stable_listed latest before after listed keeps

theorem secures_syncThreads (readable : sync.unreadable = []) (latest : Text → Option Text)
    (threadIds : List Text) (synced : ℕ) :
    Secures (syncThreads sync latest threadIds synced) (Listed latest) fun _ _ => True := by
  induction threadIds generalizing synced with
  | nil => exact Script.guarantees_pure fun _ _ => trivial
  | cons threadId rest ih =>
    rw [syncThreads]
    split
    · exact Script.guarantees_pure fun _ _ => trivial
    · split
      · exact ih synced
      · next id found =>
          have last : Secures (Script.atomically .lastIndexed fun state =>
              (state, state.index.lastIndexed threadId)) (Listed latest) fun _ => Listed latest :=
            secures_read (fun _ => stable_listed latest) fun state listed => listed
          refine last.bind fun last => ?_
          split
          · exact ih synced
          · refine ((secures_rebuildMessages readable latest threadId id).mono fun state listed =>
              ⟨listed threadId id found, listed⟩).bind fun messages => ?_
            split
            · exact (ih synced).mono fun state known => known.2
            · refine (secures_replace sync latest threadId id messages).bind fun written => ?_
              split
              · exact Script.guarantees_pure fun _ _ => trivial
              · exact ih (synced + 1)

theorem listed_newest (state : Databases) :
    Listed (fun threadId => (state.history.newest threadId).map Checkpoint.id) state := by
  intro threadId id mem
  rcases Option.map_eq_some_iff.1 mem with ⟨checkpoint, newest, rfl⟩
  rcases mem_newest newest with ⟨stored, rfl⟩
  exact has_of_mem stored

theorem secures_sync (readable : sync.unreadable = []) :
    Secures sync.script (fun _ => True) fun _ _ => True := by
  rw [Sync.script]
  split
  · exact Script.guarantees_pure fun _ _ => trivial
  · split
    · exact Script.guarantees_pure fun _ _ => trivial
    · have latest : Secures (Script.atomically .latest fun state =>
          (state, fun threadId => (state.history.newest threadId).map Checkpoint.id))
          (fun _ => True) fun latest => Listed latest :=
        secures_read stable_listed fun state _ => listed_newest state
      refine latest.bind fun latest => ?_
      split
      · exact Script.guarantees_pure fun _ _ => trivial
      · exact secures_syncThreads readable latest sync.named 0

theorem secures_put (checkpoint : Checkpoint) :
    Secures (Call.put checkpoint).script (fun _ => True) fun _ _ => True := by
  have steps : Secures (Script.atomically .put fun state =>
      ({ state with history := state.history.put checkpoint }, ())) (fun _ => True) fun _ _ => True :=
    Script.guarantees_atomically (fun _ => Script.stable_true) fun state _ _ => ⟨keeps_put state checkpoint, trivial⟩
  exact steps.bind fun _ => Script.guarantees_pure fun _ _ => trivial

/-! ### Runs -/

/-- The messages of every thread can be read. -/
def Call.Readable : Call → Prop
  | .put _ => True
  | .sync call => call.unreadable = []

instance : DecidablePred Call.Readable
  | .put _ => isTrue trivial
  | .sync call => inferInstanceAs (Decidable (call.unreadable = []))

/-- The calls that are made are readable. -/
def Readable : PoolStep Call → Prop
  | .call call => call.Readable
  | .advance _ => True

instance : DecidablePred Readable
  | .call call => inferInstanceAs (Decidable call.Readable)
  | .advance _ => isTrue trivial

def contract : Pool.Contract Call Statement Databases (Except SyncError ℕ) where
  compatible _ _ := True
  starts call _ := call.Readable
  guard _ _ _ := True
  rely _ := Keeps
  promise _ := Keeps
  post _ _ _ := True

theorem sound_contract : contract.Sound Call.script where
  relies _ _ _ _ _ keeps := keeps
  stable _ _ _ readable _ := readable
  guarantees call := by
    cases call with
    | put checkpoint => exact (secures_put checkpoint).mono fun _ _ => trivial
    | sync sync =>
      by_cases readable : sync.unreadable = []
      · exact (secures_sync readable).mono fun _ _ => trivial
      · exact Script.guarantees_of_false _ fun _ holds => readable holds

def Index.empty : Index := ⟨[], [], List.nodup_nil, List.nodup_nil, fun _ mem => absurd mem List.not_mem_nil⟩

/-- In every interleaving of syncs and new checkpoints the index is current. -/
theorem current_of_run {labels : List (PoolStep Call)}
    {final : Pool Call Statement Databases (Except SyncError ℕ)} (readable : ∀ label ∈ labels, Readable label)
    (ran : (Pool.machine Call.script).run ⟨⟨history, Index.empty⟩, []⟩ labels = some final) :
    Current final.shared := by
  have step {pool next : Pool Call Statement Databases (Except SyncError ℕ)} {label : PoolStep Call}
      (holds : contract.Secure pool ∧ Current pool.shared) (allowed : Readable label)
      (stepped : (Pool.machine Call.script).step pool label = some next) :
      contract.Secure next ∧ Current next.shared := by
    cases label with
    | call call =>
      have scheduled : contract.Scheduled pool (.call call) := ⟨allowed, fun _ _ => ⟨trivial, trivial⟩⟩
      refine ⟨holds.1.step sound_contract scheduled stepped, ?_⟩
      obtain rfl := Option.some.inj stepped
      exact holds.2
    | advance index =>
      have scheduled : contract.Scheduled pool (.advance index) := by
        simp only [Pool.Contract.Scheduled]
        split <;> trivial
      refine ⟨holds.1.step sound_contract scheduled stepped, ?_⟩
      rcases holds.1.promise scheduled stepped with ⟨_, _, keeps⟩
      exact keeps.current holds.2
  exact (Machine.run_invariant_of_guarded step
    ⟨Pool.Contract.secure_start _, fun _ mem => absurd mem not_mem_nil⟩
    (Machine.guarded_of_labels readable _) ran).2

theorem Current.rows (current : Current state)
    (indexed : state.index.lastIndexed threadId = some checkpoint.id)
    (newest : state.history.newest threadId = some checkpoint) :
    state.index.messages.filter (fun row => decide (row.threadId = threadId)) =
      rowsOf threadId (state.history.messagesOf checkpoint) := by
  rcases Option.map_eq_some_iff.1 indexed with ⟨entry, found, same⟩
  rcases Table.mem_of_find? found with ⟨mem, rfl⟩
  exact (current entry mem).holds checkpoint newest same.symm

/-! ### A sync by itself -/

/-- The messages of the newest checkpoint. -/
def expected (history : History) (threadId : Text) : List Message :=
  ((history.newest threadId).map history.messagesOf).getD []

/-- The rows of the newest checkpoints. -/
def rowsOfThreads (history : History) (threadIds : List Text) : List Row :=
  threadIds.flatMap fun threadId => rowsOf threadId (expected history threadId)

theorem run_loadSnapshots (threadId : Text) (fuel : ℕ) (config : Option Text) (state : Databases) :
    (loadSnapshots threadId fuel config).run state = (state, walk state.history threadId fuel config) := by
  induction fuel generalizing config with
  | zero => rfl
  | succ fuel ih =>
    rw [loadSnapshots, Script.run_bind, Script.run_atomically, walk]
    cases state.history.tuple threadId config with
    | none => rfl
    | some checkpoint =>
      simp only [follow]
      split
      · rfl
      · cases checkpoint.parent with
        | none => rfl
        | some parent => exact ih (some parent)

theorem run_loadMessages (threadId : Text) (state : Databases) :
    (loadMessages threadId).run state = (state, expected state.history threadId) := by
  rw [loadMessages, Script.run_bind, Script.run_atomically, expected]
  cases newest : state.history.newest threadId with
  | none =>
    have none : walk state.history threadId maxSnapshots none = [] := by
      rw [maxSnapshots, walk, History.tuple, newest]
    show (loadSnapshots threadId maxSnapshots Option.none).run state = (state, [])
    rw [run_loadSnapshots, none]
  | some checkpoint =>
    rcases mem_newest newest with ⟨mem, rfl⟩
    show (if checkpoint.delta ≠ [] then pure checkpoint.delta
      else loadSnapshots checkpoint.threadId maxSnapshots none).run state =
        (state, state.history.messagesOf checkpoint)
    rw [History.messagesOf]
    split
    · rfl
    · rw [run_loadSnapshots, maxSnapshots, walk, walk, History.tuple, History.tuple, newest, find_of_mem mem]

theorem run_rebuildMessages (readable : sync.unreadable = []) (threadId : Text) (state : Databases) :
    (rebuildMessages sync threadId).run state = (state, expected state.history threadId) := by
  rw [rebuildMessages, if_neg (by rw [readable]; exact not_mem_nil), run_loadMessages]

theorem filter_replacedMessages {index : Index} {rest : List Text} (unlisted : threadId ∉ rest) :
    (replacedMessages index threadId messages).filter (fun row => decide (row.threadId ∉ rest)) =
      index.messages.filter (fun row => decide (row.threadId ∉ threadId :: rest)) ++ rowsOf threadId messages := by
  rw [replacedMessages, filter_append, filter_filter]
  congr 1
  · refine filter_congr fun row _ => ?_
    simp only [mem_cons, not_or, Bool.decide_and, Bool.and_comm]
  · refine filter_eq_self.2 fun row mem => decide_eq_true ?_
    rwa [threadId_of_mem mem]

theorem replace_cases (sync : Sync) (threadId id : Text) (messages : List Message) (state : Databases) :
    (replace sync threadId id messages state).2 = some .unicodeEncode ∨
      ∃ index : Index, index.messages = replacedMessages state.index threadId messages ∧
        replace sync threadId id messages state = ({ state with index := index }, none) := by
  unfold replace
  cases replaced : replaceThread state.index threadId id messages (sync.updatedAt threadId) with
  | none => exact Or.inl rfl
  | some index =>
    refine Or.inr ⟨index, ?_, rfl⟩
    rcases Option.ite_none_right_eq_some.mp replaced with ⟨_, replaced⟩
    obtain rfl := Option.some.inj replaced
    rfl

/-- A sync that rebuilds every thread leaves the rows of their newest checkpoints. -/
theorem run_syncThreads (readable : sync.unreadable = []) (latest : Text → Option Text)
    {threadIds : List Text} (distinct : threadIds.Nodup) {synced total : ℕ} {after : Databases}
    (ran : (syncThreads sync latest threadIds synced).run state = (after, .ok total)) :
    total ≤ synced + threadIds.length ∧ (total = synced + threadIds.length →
      after.index.messages = state.index.messages.filter (fun row => decide (row.threadId ∉ threadIds)) ++
        rowsOfThreads state.history threadIds) := by
  induction threadIds generalizing synced state with
  | nil =>
    obtain ⟨rfl, same⟩ := Prod.mk.inj ran
    obtain rfl := Except.ok.inj same
    refine ⟨le_rfl, fun _ => ?_⟩
    simp [rowsOfThreads]
  | cons threadId rest ih =>
    have skips (ran : (syncThreads sync latest rest synced).run state = (after, .ok total)) :
        total ≤ synced + (threadId :: rest).length ∧ total ≠ synced + (threadId :: rest).length := by
      have least := (ih distinct.of_cons ran).1
      rw [length_cons]
      omega
    have skipped (skip : total ≤ synced + (threadId :: rest).length ∧ total ≠ synced + (threadId :: rest).length) :
        total ≤ synced + (threadId :: rest).length ∧ (total = synced + (threadId :: rest).length →
          after.index.messages = state.index.messages.filter
            (fun row => decide (row.threadId ∉ threadId :: rest)) ++
              rowsOfThreads state.history (threadId :: rest)) :=
      ⟨skip.1, fun all => absurd all skip.2⟩
    rw [syncThreads] at ran
    split at ran
    · obtain ⟨rfl, same⟩ := Prod.mk.inj ran
      obtain rfl := Except.ok.inj same
      refine skipped ⟨Nat.le_add_right _ _, ?_⟩
      rw [length_cons]
      omega
    · split at ran
      · exact skipped (skips ran)
      · next id found =>
          rw [Script.run_bind, Script.run_atomically] at ran
          simp only at ran
          split at ran
          · exact skipped (skips ran)
          · rw [Script.run_bind, run_rebuildMessages readable] at ran
            simp only at ran
            split at ran
            · exact skipped (skips ran)
            · rw [Script.run_bind, Script.run_atomically] at ran
              rcases replace_cases sync threadId id (expected state.history threadId) state with
                raised | ⟨index, rows, written⟩
              · rw [raised] at ran
                cases (Prod.mk.inj ran).2
              · rw [written] at ran
                rcases ih distinct.of_cons ran with ⟨least, all⟩
                rw [length_cons]
                refine ⟨by omega, fun whole => ?_⟩
                have unlisted := (nodup_cons.1 distinct).1
                rw [all (by omega), rows, filter_replacedMessages unlisted, append_assoc]
                rfl

end Synapse.Search
