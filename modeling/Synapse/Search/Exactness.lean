import Synapse.Search.Freshness

/-!
# Searches after a sync

After a sync that has rebuilt every thread, a query finds what contains it when it has no wildcards, or when it
is longer than any content.
-/

namespace Synapse.Search

open List

variable {query : Text} {rows : List Row} {index : Index} {limit : ℤ} {roles : Option (List Text)}
  {sync : Sync} {state after : Databases}

/-! ### Rebuilt threads -/

/-- The sync rebuilds every thread: those of the index too. -/
structure Sync.Rebuilds (sync : Sync) (state after : Databases) : Prop where
  named : ∀ threadId ∈ sync.threadIds, threadId ≠ []
  distinct : sync.threadIds.Nodup
  whole : ∀ row ∈ state.index.messages, row.threadId ∈ sync.threadIds
  readable : sync.unreadable = []
  ran : sync.script.run state = (after, .ok sync.threadIds.length)

theorem Sync.Rebuilds.messages (rebuilds : sync.Rebuilds state after) :
    after.index.messages = rowsOfThreads state.history sync.threadIds := by
  have named : sync.named = sync.threadIds :=
    filter_eq_self.2 fun threadId mem => decide_eq_true (rebuilds.named threadId mem)
  have none : state.index.messages.filter (fun row => decide (row.threadId ∉ sync.threadIds)) = [] :=
    filter_eq_nil_iff.2 fun row mem outside => of_decide_eq_true outside (rebuilds.whole row mem)
  have empty (early : (pure (.ok 0) : Sql (Except SyncError ℕ)).run state =
      (after, .ok sync.threadIds.length)) : after.index.messages = rowsOfThreads state.history sync.threadIds := by
    obtain ⟨rfl, same⟩ := Prod.mk.inj early
    have nil : sync.threadIds = [] := eq_nil_of_length_eq_zero (Except.ok.inj same).symm
    rw [nil] at none ⊢
    simpa [rowsOfThreads] using none
  have ran := rebuilds.ran
  rw [Sync.script, named] at ran
  split at ran
  · exact empty ran
  · split at ran
    · cases (Prod.mk.inj ran).2
    · rw [Script.run_bind, Script.run_atomically] at ran
      simp only at ran
      split at ran
      · exact empty ran
      · have all := (run_syncThreads rebuilds.readable _ rebuilds.distinct ran).2 (Nat.zero_add _).symm
        rw [all, none, nil_append]

/-! ### Searches -/

/-- What a search is asked for: roles and a limit that the driver takes, and room for every hit. -/
structure Asked (rows : List Row) (query : Text) (limit : ℤ) (roles : Option (List Text)) : Prop where
  room : (hits rows query roles).length ≤ limit
  small : limit < maxInteger
  encodes : ∀ role ∈ roles.getD [], Text.Encodes role

/-- The pattern is taken, and the query has no wildcards or is longer than any content. -/
structure Searchable (query : Text) : Prop where
  encodes : Text.Encodes (patternOf query)
  short : (patternOf query).utf8Size?.getD 0 ≤ likeLimit
  plain : Literal query.strip ∨ Beyond query.strip

instance (query : Text) : Decidable (Searchable query) :=
  decidable_of_iff (Text.Encodes (patternOf query) ∧ (patternOf query).utf8Size?.getD 0 ≤ likeLimit ∧
    (Literal query.strip ∨ Beyond query.strip))
    ⟨fun ⟨encodes, short, plain⟩ => ⟨encodes, short, plain⟩,
      fun ⟨encodes, short, plain⟩ => ⟨encodes, short, plain⟩⟩

theorem Searchable.binds (searchable : Searchable query) (asked : Asked rows query limit roles) :
    Binds query limit roles where
  encodes := searchable.encodes
  roles := asked.encodes
  small := asked.small
  short := searchable.short

theorem Searchable.exact_iff (searchable : Searchable query) (filled : query.strip ≠ [])
    (asked : Asked rows query limit roles) (stored : ∀ row ∈ rows, Stored row.content)
    (same : index.messages = rows) : Exact rows index query limit roles ↔
      ∀ row ∈ rows, Selects roles row.role → Contains query.strip row.content →
        Contains query.strip (visible row.content) := by
  have binds := searchable.binds asked
  rcases searchable.plain with literal | beyond
  · exact Search.exact_iff literal binds (Perm.of_eq same) asked.room
  · refine iff_of_true (exact_of_perm binds ?_ asked.room) fun row mem _ contains =>
      absurd contains (not_contains_of_beyond beyond filled (stored row mem))
    have none : matched index query roles = [] := by
      refine filter_eq_nil_iff.2 fun row mem found => ?_
      rw [Bool.and_eq_true] at found
      exact not_like_of_beyond beyond (stored row (same ▸ mem)) found.1
    have missed : hits rows query roles = [] := by
      refine filter_eq_nil_iff.2 fun row mem found => ?_
      exact not_contains_of_beyond beyond filled (stored row mem) (of_decide_eq_true found).2
    rw [none, missed]

theorem stored_rowsOfThreads {history : History} {threadIds : List Text} :
    ∀ row ∈ rowsOfThreads history threadIds, Stored row.content := by
  intro row mem
  rcases mem_flatMap.1 mem with ⟨threadId, _, own⟩
  exact stored_of_mem own

/-- After every sync that has rebuilt the threads, the search is exact where no content has a NUL. -/
def Finds (query : Text) : Prop :=
  ∀ (state after : Databases) (sync : Sync), sync.Rebuilds state after →
    (∀ row ∈ rowsOfThreads state.history sync.threadIds, ∀ point ∈ row.content, point ≠ 0) →
      ∀ limit roles, Asked (rowsOfThreads state.history sync.threadIds) query limit roles →
        Exact (rowsOfThreads state.history sync.threadIds) after.index query limit roles

theorem Searchable.finds (searchable : Searchable query) (filled : query.strip ≠ []) : Finds query := by
  intro state after sync rebuilds free limit roles asked
  refine (searchable.exact_iff filled asked stored_rowsOfThreads rebuilds.messages).2 fun row mem _ contains => ?_
  rwa [visible_of_free (free row mem)]

/-! ### Queries that are not searchable -/

def sampleThread : Text := .ofString "t"

def sampleCheckpoint (content : Text) : Checkpoint :=
  ⟨sampleThread, .ofString "c", none, [.object (some (.ofString "human")) (.text content)], []⟩

def sampleHistory (content : Text) : History where
  checkpoints := [sampleCheckpoint content]
  keys := List.nodup_singleton _
  closed checkpoint mem parent parented := by
    obtain rfl := List.mem_singleton.1 mem
    cases parented

/-- One thread with one message, that is not indexed. -/
def sample (content : Text) : Databases := ⟨sampleHistory content, Index.empty⟩

def sampleSync : Sync := ⟨[sampleThread], 1, false, [], [], fun _ => []⟩

theorem newest_sample (content : Text) :
    (sampleHistory content).newest sampleThread = some (sampleCheckpoint content) := by
  have one : (sampleHistory content).checkpoints.filter
      (fun checkpoint => decide (checkpoint.threadId = sampleThread)) = [sampleCheckpoint content] :=
    filter_eq_self.2 fun checkpoint mem => decide_eq_true (by rw [mem_singleton.1 mem]; rfl)
  rw [History.newest, one]
  rfl

theorem expected_sample (content : Text) : expected (sampleHistory content) sampleThread =
    [.object (some (.ofString "human")) (.text content)] := by
  rw [expected, newest_sample]
  rfl

theorem rebuilds_sample {content : Text} (encodes : ∀ row ∈ rowsOf sampleThread
    [.object (some (.ofString "human")) (.text content)], Text.Encodes row.role ∧ Text.Encodes row.content) :
    ∃ after, sampleSync.Rebuilds (sample content) after := by
  have named : ∀ threadId ∈ sampleSync.threadIds, threadId ≠ [] := by decide
  have written : ∃ after, replace sampleSync sampleThread (.ofString "c")
      (expected (sampleHistory content) sampleThread) (sample content) = (after, none) := by
    have allowed : Text.Encodes sampleThread ∧ Text.Encodes (.ofString "c") ∧ Text.Encodes (sampleSync.updatedAt sampleThread) ∧
        ∀ row ∈ rowsOf sampleThread (expected (sampleHistory content) sampleThread),
          Text.Encodes row.role ∧ Text.Encodes row.content :=
      ⟨by decide, by decide, by decide, by rwa [expected_sample]⟩
    rw [replace, replaceThread, if_pos allowed]
    exact ⟨_, rfl⟩
  rcases written with ⟨after, written⟩
  have replaced : replace sampleSync sampleThread (sampleCheckpoint content).id
      (expected (sample content).history sampleThread) (sample content) = (after, none) := written
  refine ⟨after, named, by decide, fun row mem => absurd mem not_mem_nil, rfl, ?_⟩
  have own : sampleSync.named = [sampleThread] := by decide
  have read : (sample content).history.newest sampleThread = some (sampleCheckpoint content) := newest_sample content
  have start : ¬ (sampleSync.named = [] ∨ sampleSync.latestFails = true) := by decide
  have texts : ∀ threadId ∈ sampleSync.named, Text.Encodes threadId := by decide
  have listed : ¬ ∀ threadId ∈ [sampleThread],
      ((sample content).history.newest threadId).map Checkpoint.id = none := by
    intro none
    have never := none sampleThread (mem_singleton_self _)
    rw [read] at never
    cases never
  rw [Sync.script, if_neg start, if_neg (not_not.2 texts), Script.run_bind, Script.run_atomically, own]
  simp only
  rw [if_neg listed, syncThreads, if_neg (by decide : ¬ sampleSync.maxSync ≤ ((0 : ℕ) : ℤ)), read, Option.map_some]
  simp only
  have fresh : ¬ (sample content).index.lastIndexed sampleThread = some (sampleCheckpoint content).id :=
    fun indexed => by cases indexed
  have free : sampleThread ∉ sampleSync.locked := not_mem_nil
  rw [Script.run_bind, Script.run_atomically]
  simp only
  rw [if_neg fresh, Script.run_bind, run_rebuildMessages rfl]
  simp only
  rw [if_neg free, Script.run_bind, Script.run_atomically]
  rw [replaced]
  rfl

theorem rowsOfThreads_sample (content : Text) : rowsOfThreads (sample content).history sampleSync.threadIds =
    rowsOf sampleThread [.object (some (.ofString "human")) (.text content)] := by
  rw [← expected_sample content]
  exact append_nil _

/-- The content that the pattern of the query matches in a row of its own. -/
theorem rebuilds_said {word : Text} (encodes : Text.Encodes word) (short : (core word).length ≤ maxContentChars)
    (within : ¬ Beyond word) : ∃ after, sampleSync.Rebuilds (sample (said word)) after ∧
      rowsOfThreads (sample (said word)).history sampleSync.threadIds =
        [⟨sampleThread, 0, .ofString "human", filling word⟩] := by
  have rows := rowsOf_said sampleThread short within
  have human : Text.Encodes (.ofString "human") := by decide
  rcases @rebuilds_sample (said word) (by
    intro row mem
    rw [rows, mem_singleton] at mem
    rw [mem]
    exact ⟨human, encodes_filling encodes⟩) with ⟨after, rebuilds⟩
  exact ⟨after, rebuilds, by rw [rowsOfThreads_sample, rows]⟩

theorem free_said {word : Text} : ∀ row ∈ [(⟨sampleThread, 0, .ofString "human", filling word⟩ : Row)],
    ∀ point ∈ row.content, point ≠ 0 := by
  intro row mem
  obtain rfl := mem_singleton.1 mem
  exact free_filling

theorem asked_one {rows : List Row} (one : rows.length ≤ 1) : Asked rows query 1 none where
  room := by
    have kept : (hits rows query none).length ≤ rows.length := length_filter_le _ _
    omega
  small := by decide
  encodes _ mem := absurd mem not_mem_nil

theorem Finds.encodes (finds : Finds query) : Text.Encodes (patternOf query) := by
  by_contra raises
  have nothing : (⟨[], 0, false, [], [], fun _ => []⟩ : Sync).Rebuilds
      ⟨⟨[], nodup_nil, fun _ mem => absurd mem not_mem_nil⟩, Index.empty⟩
      ⟨⟨[], nodup_nil, fun _ mem => absurd mem not_mem_nil⟩, Index.empty⟩ :=
    ⟨fun _ mem => absurd mem not_mem_nil, nodup_nil, fun _ mem => absurd mem not_mem_nil, rfl, rfl⟩
  rcases finds _ _ _ nothing (fun _ mem => absurd mem not_mem_nil) 1 none (asked_one (Nat.zero_le 1)) with
    ⟨found, result, _⟩
  rw [search, if_pos fun both => raises both.1] at result
  cases result

theorem Finds.short (finds : Finds query) : (patternOf query).utf8Size?.getD 0 ≤ likeLimit := by
  by_contra long
  rcases @rebuilds_said [] (by decide) (by decide) (by decide) with ⟨after, rebuilds, rows⟩
  rcases finds _ _ _ rebuilds (by rw [rows]; exact free_said) 1 none (by rw [rows]; exact asked_one le_rfl) with
    ⟨found, result, _⟩
  have filled : after.index.joined ≠ [] := by
    rw [Ne, joined_eq_nil, rebuilds.messages, rows]
    exact cons_ne_nil _ _
  have small : ¬ maxInteger ≤ max 1 1 := by decide
  rw [search, if_neg (not_not.2 ⟨finds.encodes, fun _ mem => absurd mem not_mem_nil⟩), if_neg small,
    if_pos ⟨not_le.1 long, filled⟩] at result
  cases result

theorem encodes_strip (encodes : Text.Encodes (patternOf query)) : Text.Encodes query.strip :=
  Text.encodes_iff.2 fun point mem => Text.encodes_iff.1 encodes point
    (mem_cons_of_mem percent (mem_append_left [percent] mem))

theorem Finds.plain (finds : Finds query) : Literal query.strip ∨ Beyond query.strip := by
  by_contra wild
  rw [not_or] at wild
  have short : (core query.strip).length ≤ maxContentChars := not_lt.1 fun long => wild.2 (Or.inl long)
  rcases rebuilds_said (encodes_strip finds.encodes) short wild.2 with ⟨after, rebuilds, rows⟩
  have asked := @asked_one query [⟨sampleThread, 0, .ofString "human", filling query.strip⟩] le_rfl
  rcases finds _ _ _ rebuilds (by rw [rows]; exact free_said) 1 none (by rw [rows]; exact asked) with
    ⟨found, result, _, exactly⟩
  have none : hits (rowsOfThreads (sample (said query.strip)).history sampleSync.threadIds) query Option.none = [] := by
    rw [rows]
    refine filter_eq_nil_iff.2 fun row mem hit => ?_
    obtain rfl := mem_singleton.1 mem
    exact not_contains_filling wild.1 (of_decide_eq_true hit).2
  have one : matched after.index query Option.none = [⟨sampleThread, 0, .ofString "human", filling query.strip⟩] := by
    rw [matched, rebuilds.messages, rows]
    have selects : Selects Option.none (.ofString "human") := Or.inl rfl
    refine filter_eq_self.2 fun row mem => ?_
    obtain rfl := mem_singleton.1 mem
    rw [like_filling, decide_eq_true selects, Bool.and_self]
  have binds : Binds query 1 Option.none :=
    ⟨finds.encodes, fun _ mem => absurd mem not_mem_nil, by decide, finds.short⟩
  rcases @search_eq _ _ _ after.index binds with ⟨sorted, own, order⟩
  obtain rfl := Except.ok.inj (result.symm.trans own)
  rw [none, perm_nil, map_eq_nil_iff] at exactly
  rw [one] at order
  have length : sorted.length = 1 := by simpa using order.length_eq
  have whole : sorted.take (max 1 (1 : ℤ)).toNat = sorted := take_of_length_le (by rw [length]; decide)
  rw [whole] at exactly
  rw [exactly] at length
  cases length

/-- A query is found exactly when it is searchable; then a search misses the hits that contain it only behind a
NUL. A thread whose indexed checkpoint is its newest one has the rows of that checkpoint. -/
theorem search_exact (query : Text) (filled : query.strip ≠ []) :
    (Finds query ↔ Searchable query) ∧
    (Searchable query → ∀ (state after : Databases) (sync : Sync), sync.Rebuilds state after →
      ∀ limit roles, Asked (rowsOfThreads state.history sync.threadIds) query limit roles →
        (Exact (rowsOfThreads state.history sync.threadIds) after.index query limit roles ↔
          ∀ row ∈ rowsOfThreads state.history sync.threadIds, Selects roles row.role →
            Contains query.strip row.content → Contains query.strip (visible row.content))) ∧
    (∀ (history : History) (labels : List (PoolStep Call))
      (final : Pool Call Statement Databases (Except SyncError ℕ)), (∀ label ∈ labels, Readable label) →
      (Pool.machine Call.script).run ⟨⟨history, Index.empty⟩, []⟩ labels = some final →
        ∀ threadId checkpoint, final.shared.history.newest threadId = some checkpoint →
          final.shared.index.lastIndexed threadId = some checkpoint.id →
            final.shared.index.messages.filter (fun row => decide (row.threadId = threadId)) =
              rowsOf threadId (final.shared.history.messagesOf checkpoint)) :=
  ⟨⟨fun finds => ⟨finds.encodes, finds.short, finds.plain⟩, fun searchable => searchable.finds filled⟩,
    fun searchable _ _ _ rebuilds _ _ asked =>
      searchable.exact_iff filled asked stored_rowsOfThreads rebuilds.messages,
    fun _ _ _ readable ran _ _ newest indexed => (current_of_run readable ran).rows indexed newest⟩

/-- A sentence is searchable. -/
theorem search_exact_sentence : Finds (.ofString "find me") :=
  (search_exact (.ofString "find me") (by decide)).1.2 (by decide)

/-- The database after the thread with one message is synced. -/
def afterSample (content : Text) : Databases := (sampleSync.script.run (sample content)).1

/-- A wildcard in the query finds a message that does not contain it. -/
theorem underscore_finds_letter : sampleSync.Rebuilds (sample (.ofString "axb")) (afterSample (.ofString "axb")) ∧
    Asked (rowsOfThreads (sample (.ofString "axb")).history sampleSync.threadIds) (.ofString "a_b") 50 none ∧
      ¬ Exact (rowsOfThreads (sample (.ofString "axb")).history sampleSync.threadIds)
        (afterSample (.ofString "axb")).index (.ofString "a_b") 50 none := by
  have missed : hits (rowsOfThreads (sample (.ofString "axb")).history sampleSync.threadIds)
      (.ofString "a_b") none = [] := by decide +kernel
  have found : search (afterSample (.ofString "axb")).index (.ofString "a_b") 50 none =
      .ok [(⟨sampleThread, 0, .ofString "human", .ofString "axb"⟩, [])] := by decide +kernel
  refine ⟨⟨by decide, by decide, fun _ mem => absurd mem List.not_mem_nil, rfl, by decide +kernel⟩,
    ⟨by rw [missed]; decide, by decide, fun _ mem => absurd mem List.not_mem_nil⟩, ?_⟩
  rintro ⟨rows, result, _, exactly⟩
  obtain rfl := Except.ok.inj (found.symm.trans result)
  rw [missed] at exactly
  exact absurd exactly.length_eq (by decide)

end Synapse.Search
