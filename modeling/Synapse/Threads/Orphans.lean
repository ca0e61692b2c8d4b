import Mathlib.Data.List.Dedup
import Mathlib.Data.List.Sort
import Synapse.Python.Text

/-!
# The orphan sweep

Model of `orphan_thread_ids`. A table is the list of its thread ids in the order in which the query
visits them; a read may fail before its first row or after some rows.
-/

namespace Synapse.Threads

/-- `_MAX_ORPHAN_SCAN`. -/
def maxOrphanScan : ℕ := 10000

/-- A thread-keyed table as one read finds it. -/
inductive ThreadTable where
  /-- No path, no file, or a file without the table. -/
  | missing
  | unreadable
  /-- The read raises after `breaks` rows, where given. -/
  | rows (threadIds : List Text) (breaks : Option ℕ)

namespace ThreadTable

/-- Every thread id that has a row. -/
def threadIds : ThreadTable → List Text
  | missing => []
  | unreadable => []
  | rows threadIds _ => threadIds

end ThreadTable

/-- `SELECT DISTINCT`: the first row of each id. -/
def distinct (threadIds : List Text) : List Text :=
  threadIds.reverse.dedup.reverse

/-- The stores under one project. -/
structure HistoryStores where
  sessions : ThreadTable
  checkpoints : ThreadTable
  transcript : ThreadTable
  searchIndex : ThreadTable

/-- The ids read from the metadata store, unless the sweep stops there. -/
def knownThreadIds (sessions : ThreadTable) : Option (List Text) :=
  match sessions with
  | .missing => none
  | .unreadable => none
  | .rows threadIds breaks =>
    let read := threadIds.take maxOrphanScan
    if breaks.any (· ≤ read.length) then none else some read

/-- `_collect`: what a failed read found before it failed stays. -/
def collect (found : List Text) (table : ThreadTable) : List Text :=
  if maxOrphanScan ≤ found.length then found
  else
    match table with
    | .missing => found
    | .unreadable => found
    | .rows threadIds breaks =>
      let read := (distinct threadIds).take maxOrphanScan
      let read := match breaks with
        | some rows => read.take rows
        | none => read
      found ++ read.filter (· ∉ found)

/-- The ids collected from the three histories. -/
def scannedThreadIds (stores : HistoryStores) : List Text :=
  [stores.checkpoints, stores.transcript, stores.searchIndex].foldl collect []

/-- `orphan_thread_ids`. -/
def orphanThreadIds (stores : HistoryStores) : List Text :=
  match knownThreadIds stores.sessions with
  | none => []
  | some known => ((scannedThreadIds stores).filter (· ∉ known)).insertionSort (· ≤ ·)

variable {stores : HistoryStores} {threadId : Text} {found : List Text} {table : ThreadTable}

/-! ### What is collected -/

theorem mem_orphanThreadIds_iff :
    threadId ∈ orphanThreadIds stores ↔
      ∃ known, knownThreadIds stores.sessions = some known ∧
        threadId ∈ scannedThreadIds stores ∧ threadId ∉ known := by
  unfold orphanThreadIds
  cases knownThreadIds stores.sessions with
  | none => simp
  | some known => simp

/-! ### Live sessions -/

/-- The sessions past the scan bound that no scanned row repeats. -/
def unscannedSessions (sessions : ThreadTable) : List Text :=
  (sessions.threadIds.drop maxOrphanScan).filter (· ∉ sessions.threadIds.take maxOrphanScan)

/-- The sweep lists no live session exactly when it reads no history of a session past the scan
bound. -/
theorem orphanThreadIds_live_iff (stores : HistoryStores) :
    (∀ threadId ∈ orphanThreadIds stores, threadId ∉ stores.sessions.threadIds) ↔
      (knownThreadIds stores.sessions).isSome →
        ∀ threadId ∈ unscannedSessions stores.sessions, threadId ∉ scannedThreadIds stores := by
  have known_eq : ∀ known, knownThreadIds stores.sessions = some known →
      known = stores.sessions.threadIds.take maxOrphanScan := by
    intro known found
    cases sessions : stores.sessions with
    | missing => simp [sessions, knownThreadIds] at found
    | unreadable => simp [sessions, knownThreadIds] at found
    | rows threadIds breaks =>
      simp only [sessions, knownThreadIds] at found
      split at found
      · cases found
      · exact (Option.some.inj found).symm
  constructor
  · intro safe some threadId late scanned
    rcases Option.isSome_iff_exists.1 some with ⟨known, found⟩
    rw [unscannedSessions, List.mem_filter, decide_eq_true_eq] at late
    have orphan : threadId ∈ orphanThreadIds stores := by
      rw [mem_orphanThreadIds_iff]
      exact ⟨known, found, scanned, known_eq known found ▸ late.2⟩
    exact safe threadId orphan (List.mem_of_mem_drop late.1)
  · intro late threadId orphan live
    rcases mem_orphanThreadIds_iff.1 orphan with ⟨known, found, scanned, absent⟩
    rw [known_eq known found] at absent
    refine late (by simp [found]) threadId ?_ scanned
    rw [unscannedSessions, List.mem_filter, decide_eq_true_eq]
    refine ⟨?_, absent⟩
    rw [← List.take_append_drop maxOrphanScan stores.sessions.threadIds] at live
    exact (List.mem_append.1 live).resolve_left absent

/-- One session more than the scan bound, and a checkpoint of the last one. -/
def crowdedStores : HistoryStores where
  sessions := .rows ((List.range (maxOrphanScan + 1)).map fun number => [Fin.ofNat _ number]) none
  checkpoints := .rows [[Fin.ofNat _ maxOrphanScan]] none
  transcript := .missing
  searchIndex := .missing

theorem last_session_is_swept :
    [Fin.ofNat _ maxOrphanScan] ∈ orphanThreadIds crowdedStores ∧
      [Fin.ofNat _ maxOrphanScan] ∈ crowdedStores.sessions.threadIds := by
  constructor
  · rw [mem_orphanThreadIds_iff]
    refine ⟨_, rfl, ?_, ?_⟩
    · decide +kernel
    · rw [← List.map_take, List.take_range, List.mem_map]
      rintro ⟨number, present, same⟩
      rw [List.mem_range, Nat.min_eq_left (Nat.le_succ _)] at present
      have same := congrArg Fin.val (List.cons.inj same).1
      simp only [Fin.ofNat, maxOrphanScan] at same present
      omega
  · simp only [crowdedStores, ThreadTable.threadIds, List.mem_map, List.mem_range]
    exact ⟨maxOrphanScan, Nat.lt_succ_self _, rfl⟩

end Synapse.Threads
