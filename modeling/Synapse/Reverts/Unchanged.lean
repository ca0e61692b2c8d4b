import Synapse.Reverts.Safety

/-!
# Files that a turn leaves alone

Whether a snapshot keeps the content of a file depends on what the files read before it left of the
byte budget. This file follows the budget through a snapshot, and says which untouched files are
reported because one snapshot describes them in another way than the other.
-/

namespace Synapse.Reverts

open List

section

variable {host : Host} {workspace start finish : Workspace} {path : Path}

/-! ### Reads and budget -/

/-- The listed paths that a snapshot reads, where `seen` are the ones it describes already. -/
def listedReads (seen : List Path) : List (Letter × Path) → List Path
  | [] => []
  | (_, path) :: rest =>
    if isIgnored path then listedReads seen rest
    else if maxSnapshotFiles ≤ seen.length then []
    else path :: listedReads (if path ∈ seen then seen else seen ++ [path]) rest

/-- The paths that a snapshot reads, in order. -/
def snapshotReads (workspace : Workspace) (carry : List Path) : List Path :=
  let listed := listedReads [] <|
    (statusEntries workspace.status).insertionSort fun first second => first.2 ≤ second.2
  listed ++ (carry.dedup.insertionSort (· ≤ ·)).filter fun path =>
    path ∉ listed ∧ isIgnored path = false

/-- The budget that one read leaves. -/
def budgetLeft (workspace : Workspace) (budget : ℕ) (path : Path) : ℕ :=
  budget - (readFile (workspace.disk path) budget).content.elim 0 (·.toUTF8.size)

/-- The budget that is left when a path is read for the last time. -/
def budgetAt (workspace : Workspace) (path : Path) : ℕ → List Path → Option ℕ
  | _, [] => none
  | budget, read :: rest =>
    match budgetAt workspace path (budgetLeft workspace budget read) rest with
    | some left => some left
    | none => if read = path then some budget else none

/-- The snapshot reads the path while its content fits. -/
def KeepsContent (workspace : Workspace) (carry : List Path) (path : Path) : Prop :=
  ∃ budget ∈ budgetAt workspace path maxSnapshotBytes (snapshotReads workspace carry),
    (readFile (workspace.disk path) budget).content.isSome

theorem budgetAt_append (budget : ℕ) (reads : List Path) (read : Path) :
    budgetAt workspace path budget (reads ++ [read]) =
      if read = path then some (reads.foldl (budgetLeft workspace) budget)
      else budgetAt workspace path budget reads := by
  induction reads generalizing budget with
  | nil => simp [budgetAt]
  | cons first rest ih =>
    rw [cons_append, budgetAt, ih, foldl_cons]
    by_cases same : read = path
    · simp [same]
    · simp [same, budgetAt]

theorem budgetAt_isSome_iff (budget : ℕ) (reads : List Path) :
    (budgetAt workspace path budget reads).isSome ↔ path ∈ reads := by
  induction reads generalizing budget with
  | nil => simp [budgetAt]
  | cons first rest ih =>
    have later := ih (budgetLeft workspace budget first)
    rw [budgetAt, mem_cons, ← later]
    cases budgetAt workspace path (budgetLeft workspace budget first) rest with
    | some left => simp
    | none =>
      by_cases same : first = path
      · simp [same]
      · simp [same, Ne.symm same]

theorem find?_putFile (file : SnapshotFile) (files : List SnapshotFile) :
    (putFile file files).find? (·.path = path) =
      if file.path = path then some file else files.find? (·.path = path) := by
  unfold putFile
  split
  case isTrue known =>
    have paths : ((fun other : SnapshotFile => decide (other.path = path)) ∘
        fun other => if other.path = file.path then file else other) =
          fun other => decide (other.path = path) := by
      funext other
      by_cases same : other.path = file.path
      · simp [same]
      · simp [same]
    rw [find?_map, paths]
    by_cases same : file.path = path
    · rcases any_eq_true.1 known with ⟨other, present, own⟩
      have some : (files.find? (·.path = path)).isSome := by
        rw [find?_isSome]
        exact ⟨other, present, by simpa [same] using own⟩
      rcases Option.isSome_iff_exists.1 some with ⟨found, isFound⟩
      have foundPath : found.path = path := by simpa using find?_some isFound
      simp [isFound, foundPath, same]
    · rw [if_neg same]
      cases isFound : files.find? (·.path = path) with
      | none => rfl
      | some found =>
        have foundPath : found.path = path := by simpa using find?_some isFound
        simp [foundPath, Ne.symm same]
  case isFalse fresh =>
    rw [find?_append]
    by_cases same : file.path = path
    · have absent : files.find? (·.path = path) = none := by
        rw [find?_eq_none]
        intro other present own
        simp only [any_eq_true, not_exists, not_and] at fresh
        exact fresh other present (by simpa [same] using own)
      simp [absent, same]
    · simp [same]

theorem map_path_putFile (file : SnapshotFile) (files : List SnapshotFile) :
    (putFile file files).map (·.path) =
      if file.path ∈ files.map (·.path) then files.map (·.path)
      else files.map (·.path) ++ [file.path] := by
  have known : files.any (·.path = file.path) = true ↔ file.path ∈ files.map (·.path) := by
    rw [any_eq_true, mem_map]
    simp only [decide_eq_true_eq]
  unfold putFile
  by_cases described : file.path ∈ files.map (·.path)
  · rw [if_pos (known.2 described), if_pos described, map_map]
    refine map_congr_left fun other _ => ?_
    by_cases same : other.path = file.path <;> simp [same]
  · rw [if_neg (fun any => described (known.1 any)), if_neg described, map_append]
    rfl

/-! ### What a snapshot describes -/

/-- The scan has read these paths. -/
structure Reflects (host : Host) (workspace : Workspace) (reads : List Path) (scan : Scan) :
    Prop where
  budget : scan.budget = reads.foldl (budgetLeft workspace) maxSnapshotBytes
  paths : ∀ path, path ∈ scan.files.map (·.path) ↔ path ∈ reads
  content : ∀ path, (scan.files.find? (·.path = path)).map (·.content) =
    (budgetAt workspace path maxSnapshotBytes reads).map fun budget =>
      (readFile (workspace.disk path) budget).content
  digest : ∀ file ∈ scan.files, file.digest = digestOf host workspace file.path file.content

namespace Reflects

variable {reads : List Path} {scan : Scan}

theorem empty : Reflects host workspace [] {} :=
  ⟨rfl, fun _ => Iff.rfl, fun _ => rfl, nofun⟩

theorem read (reflects : Reflects host workspace reads scan) (path : Path)
    (status : Bool → Letter) :
    Reflects host workspace (reads ++ [path]) (scan.read host workspace path status) := by
  refine ⟨?_, ?_, ?_, ?_⟩
  · simp only [Scan.read, foldl_append, foldl_cons, foldl_nil, budgetLeft,
      reflects.budget]
  · intro other
    have known := reflects.paths path
    have others := reflects.paths other
    simp only [Scan.read, map_path_putFile]
    split
    · rename_i described
      rw [others, mem_append, mem_singleton]
      refine ⟨Or.inl, ?_⟩
      rintro (old | rfl)
      · exact old
      · exact known.1 described
    · rw [mem_append, others, mem_append]
  · intro other
    simp only [Scan.read, find?_putFile, budgetAt_append]
    by_cases same : path = other
    · subst same
      simp [reflects.budget]
    · simpa [same] using reflects.content other
  · intro file present
    rcases mem_putFile present with rfl | old
    · rfl
    · exact reflects.digest file old

theorem listed {entries : List (Letter × Path)} (reflects : Reflects host workspace reads scan) :
    Reflects host workspace (reads ++ listedReads (scan.files.map (·.path)) entries)
      (Scan.listed host workspace entries scan) := by
  induction entries generalizing reads scan with
  | nil => simpa [listedReads, Scan.listed] using reflects
  | cons entry rest ih =>
    rcases entry with ⟨letter, path⟩
    rw [Scan.listed, listedReads]
    split
    · exact ih reflects
    · rw [length_map]
      split
      · rw [append_nil]
        exact ⟨reflects.budget, reflects.paths, reflects.content, reflects.digest⟩
      · have next := ih (reflects.read path fun _ => letter)
        have seen : (scan.read host workspace path fun _ => letter).files.map (·.path) =
            if path ∈ scan.files.map (·.path) then scan.files.map (·.path)
            else scan.files.map (·.path) ++ [path] := map_path_putFile _ _
        rw [seen, append_assoc] at next
        exact next

theorem carried {carry : List Path} (nodup : carry.Nodup)
    (reflects : Reflects host workspace reads scan) :
    Reflects host workspace
      (reads ++ carry.filter fun path => path ∉ reads ∧ isIgnored path = false)
      (Scan.carried host workspace carry scan) := by
  induction carry generalizing reads scan with
  | nil => simpa [Scan.carried] using reflects
  | cons path rest ih =>
    have known : scan.files.any (·.path = path) = true ↔ path ∈ reads := by
      rw [← reflects.paths path, any_eq_true, mem_map]
      simp only [decide_eq_true_eq]
    rw [Scan.carried]
    split
    case isTrue skipped =>
      have dropped : ¬(path ∉ reads ∧ isIgnored path = false) := by
        rintro ⟨fresh, reported⟩
        rcases skipped with described | ignored
        · exact fresh (known.1 described)
        · rw [reported] at ignored
          cases ignored
      rw [filter_cons_of_neg (by simpa using dropped)]
      exact ih nodup.of_cons reflects
    case isFalse taken =>
      rw [not_or, known] at taken
      have kept : path ∉ reads ∧ isIgnored path = false := ⟨taken.1, by simpa using taken.2⟩
      rw [filter_cons_of_pos (by simpa using kept)]
      have next := ih nodup.of_cons
        (reflects.read path fun present => if present then .clean else .deleted)
      have same : rest.filter (fun other => other ∉ reads ++ [path] ∧ isIgnored other = false) =
          rest.filter fun other => other ∉ reads ∧ isIgnored other = false := by
        refine filter_congr fun other present => ?_
        have different : other ≠ path := by
          rintro rfl
          exact (nodup_cons.1 nodup).1 present
        simp [different]
      rw [same, append_assoc] at next
      exact next

end Reflects

variable {carry : List Path}

theorem reflects_snapshot (host : Host) (workspace : Workspace) (carry : List Path) :
    ∃ scan, (snapshotWorkspace host workspace carry).files = scan.files ∧
      Reflects host workspace (snapshotReads workspace carry) scan := by
  have nodup : (carry.dedup.insertionSort (· ≤ ·)).Nodup :=
    (perm_insertionSort _ _).nodup_iff.2 carry.nodup_dedup
  exact ⟨_, rfl, (Reflects.listed Reflects.empty).carried nodup⟩

theorem file_isSome_iff :
    ((snapshotWorkspace host workspace carry).file path).isSome ↔
      path ∈ snapshotReads workspace carry := by
  rcases reflects_snapshot host workspace carry with ⟨scan, files, reflects⟩
  have content := congrArg Option.isSome (reflects.content path)
  rw [Option.isSome_map, Option.isSome_map] at content
  rw [WorkspaceSnapshot.file, files, content, budgetAt_isSome_iff]

theorem file_spec {file : SnapshotFile}
    (found : (snapshotWorkspace host workspace carry).file path = some file) :
    file.digest = digestOf host workspace path file.content ∧
      (file.content.isSome ↔ KeepsContent workspace carry path) ∧
      ∀ text, file.content = some text →
        (workspace.disk path).bind (·.read) = some text.toUTF8 := by
  rcases reflects_snapshot host workspace carry with ⟨scan, files, reflects⟩
  have own := file_path found
  rw [WorkspaceSnapshot.file, files] at found
  have content := reflects.content path
  rw [found, Option.map_some, eq_comm, Option.map_eq_some_iff] at content
  rcases content with ⟨budget, atRead, content⟩
  refine ⟨?_, ?_, ?_⟩
  · have digest := reflects.digest file (mem_of_find?_eq_some found)
    rwa [own] at digest
  · rw [← content, KeepsContent]
    constructor
    · intro kept
      exact ⟨budget, atRead, kept⟩
    · rintro ⟨other, again, kept⟩
      cases atRead.symm.trans again
      exact kept
  · intro text kept
    rw [← content] at kept
    exact (readFile_content kept).1

theorem not_ignored_of_listedReads {seen : List Path} {entries : List (Letter × Path)}
    (present : path ∈ listedReads seen entries) : isIgnored path = false := by
  induction entries generalizing seen with
  | nil => cases present
  | cons entry rest ih =>
    rcases entry with ⟨letter, other⟩
    rw [listedReads] at present
    split at present
    · exact ih present
    · rename_i reported
      split at present
      · cases present
      · rcases mem_cons.1 present with rfl | later
        · simpa using reported
        · exact ih later

theorem not_ignored_of_snapshotReads (present : path ∈ snapshotReads workspace carry) :
    isIgnored path = false := by
  rcases mem_append.1 present with listed | carried
  · exact not_ignored_of_listedReads listed
  · have kept := (mem_filter.1 carried).2
    simp only [decide_eq_true_eq] at kept
    exact kept.2

theorem mem_snapshotReads_of_carry (present : path ∈ carry) (reported : isIgnored path = false) :
    path ∈ snapshotReads workspace carry := by
  unfold snapshotReads
  by_cases listed : path ∈ listedReads [] ((statusEntries workspace.status).insertionSort
      fun first second => first.2 ≤ second.2)
  · exact mem_append_left _ listed
  · refine mem_append_right _ (mem_filter.2 ⟨?_, by simpa using ⟨listed, reported⟩⟩)
    rw [mem_insertionSort, mem_dedup]
    exact present

theorem snapshotReads_congr {first second : List Path}
    (same : ∀ path, path ∈ first ↔ path ∈ second) :
    snapshotReads workspace first = snapshotReads workspace second := by
  have sorted : first.dedup.insertionSort (· ≤ ·) = second.dedup.insertionSort (· ≤ ·) := by
    have perm : first.dedup.Perm second.dedup := by
      rw [perm_ext_iff_of_nodup first.nodup_dedup second.nodup_dedup]
      intro path
      rw [mem_dedup, mem_dedup]
      exact same path
    refine @Perm.eq_of_pairwise _ (· ≤ ·) _ _ ?_ (pairwise_insertionSort _ _)
      (pairwise_insertionSort _ _) ?_
    rotate_left
    · exact ((perm_insertionSort _ _).trans perm).trans (perm_insertionSort _ _).symm
    · intro path other _ _ le ge
      exact le_antisymm le ge
  unfold snapshotReads
  rw [sorted]

/-! ### Untouched files -/

/-- Existence, bytes and modification time of the path are the same. -/
def Untouched (start finish : Workspace) (path : Path) : Prop :=
  start.disk path = finish.disk path ∧
    (start.disk path = none ∨ start.mtime path = finish.mtime path)

theorem statOf_eq (untouched : Untouched start finish path) :
    statOf start path = statOf finish path := by
  unfold statOf
  rw [← untouched.1]
  rcases untouched.2 with gone | mtime
  · rw [gone]
  · rw [mtime]

/-- Two descriptions of an untouched file agree if both keep its content or neither does. -/
theorem digest_eq_iff (untouched : Untouched start finish path) {was now : Option String}
    (wasRead : ∀ text, was = some text → (start.disk path).bind (·.read) = some text.toUTF8)
    (nowRead : ∀ text, now = some text → (finish.disk path).bind (·.read) = some text.toUTF8) :
    digestOf host start path was = digestOf host finish path now ↔
      (was.isSome ↔ now.isSome) := by
  cases was with
  | none =>
    cases now with
    | none =>
      simp only [digestOf, Option.isSome_none, iff_self, iff_true]
      exact statOf_eq untouched
    | some new =>
      simp only [digestOf, statOf]
      constructor
      · intro same
        split at same <;> cases same
      · intro same
        simp at same
  | some old =>
    cases now with
    | none =>
      simp only [digestOf, statOf]
      constructor
      · intro same
        split at same <;> cases same
      · intro same
        simp at same
    | some new =>
      have bytes : old.toUTF8 = new.toUTF8 := by
        have read := wasRead old rfl
        rw [untouched.1, nowRead new rfl] at read
        exact (Option.some.inj read).symm
      simp only [digestOf, bytes, Option.isSome_some, iff_self]

/-- The two snapshots of a turn report an untouched path if only the second one describes it, or if
only one of them keeps its content. -/
theorem changeOf_untouched (untouched : Untouched start finish path)
    (carried : ∀ path, path ∈ carry ↔ path ∈ snapshotReads start []) :
    (changeOf host (snapshotWorkspace host start []) (snapshotWorkspace host finish carry)
        path).isSome ↔
      path ∈ snapshotReads finish carry ∧
        ¬(path ∈ snapshotReads start [] ∧
          (KeepsContent start [] path ↔ KeepsContent finish carry path)) := by
  have wasDescribed := @file_isSome_iff host start path []
  have nowDescribed := @file_isSome_iff host finish path carry
  rw [← nowDescribed, ← wasDescribed]
  unfold changeOf
  by_cases ignored : isIgnored path = true
  · rw [if_pos ignored]
    have unread : ¬((snapshotWorkspace host finish carry).file path).isSome := by
      rw [nowDescribed]
      intro present
      rw [not_ignored_of_snapshotReads present] at ignored
      cases ignored
    simp [unread]
  · rw [if_neg ignored]
    cases wasFound : (snapshotWorkspace host start []).file path with
    | none =>
      cases nowFound : (snapshotWorkspace host finish carry).file path with
      | none => simp
      | some now => simp
    | some was =>
      cases nowFound : (snapshotWorkspace host finish carry).file path with
      | none =>
        -- A described path is carried.
        have present : path ∈ snapshotReads start [] := by
          rw [← wasDescribed, wasFound]
          rfl
        have read : path ∈ snapshotReads finish carry :=
          mem_snapshotReads_of_carry ((carried path).2 present) (by simpa using ignored)
        rw [← nowDescribed, nowFound] at read
        cases read
      | some now =>
        rcases file_spec wasFound with ⟨wasDigest, wasKept, wasRead⟩
        rcases file_spec nowFound with ⟨nowDigest, nowKept, nowRead⟩
        have same := @digest_eq_iff host _ _ _ untouched _ _ wasRead nowRead
        rw [← wasDigest, ← nowDigest, wasKept, nowKept] at same
        by_cases agree : was.digest = now.digest
        · simp [agree, same.1 agree]
        · dsimp only
          rw [if_neg agree]
          simp only [Option.isSome_some, true_and, true_iff]
          exact fun keeps => agree (same.2 keeps)

/-- The paths that a snapshot describes, for the next one to carry. -/
def WorkspaceSnapshot.described (snapshot : WorkspaceSnapshot) : List Path :=
  snapshot.files.map (·.path)

theorem mem_described_iff :
    path ∈ (snapshotWorkspace host workspace carry).described ↔
      path ∈ snapshotReads workspace carry := by
  rcases reflects_snapshot host workspace carry with ⟨scan, files, reflects⟩
  rw [WorkspaceSnapshot.described, files]
  exact reflects.paths path

variable {change : TurnChange} {limit : ℕ}

theorem mem_changesBetween {before after : WorkspaceSnapshot}
    (reported : change ∈ (changesBetween host before after limit).1) :
    changeOf host before after change.path = some change := by
  have present := mem_of_mem_take reported
  rw [mem_insertionSort, mem_filterMap] at present
  rcases present with ⟨path, -, changed⟩
  rw [(changeOf_eq_some changed).1]
  exact changed

theorem mem_changesBetween_of_changeOf {before after : WorkspaceSnapshot}
    (room : (changesBetween host before after limit).2 ≤ limit)
    (changed : changeOf host before after path = some change) :
    change ∈ (changesBetween host before after limit).1 := by
  have known : path ∈ before.files.map (·.path) ++ after.files.map (·.path) := by
    have described : ∀ {snapshot : WorkspaceSnapshot} {file : SnapshotFile},
        snapshot.file path = some file → path ∈ snapshot.files.map (·.path) := by
      intro snapshot file found
      exact mem_map.2 ⟨file, mem_of_find?_eq_some found, file_path found⟩
    cases was : before.file path with
    | some file => exact mem_append_left _ (described was)
    | none =>
      cases now : after.file path with
      | some file => exact mem_append_right _ (described now)
      | none => simp [changeOf, was, now] at changed
  unfold changesBetween at room ⊢
  dsimp only at room ⊢
  rw [take_of_length_le (by rw [length_insertionSort]; exact room),
    mem_insertionSort, mem_filterMap]
  exact ⟨path, by rw [mem_insertionSort, mem_dedup]; exact known, changed⟩

end

/-! ### A file that the budget hides -/

namespace Crowded

/-- A text of some letters. -/
def text (count : ℕ) : String := String.ofList (List.replicate count 'A')

theorem bytes_eq (count : ℕ) : (text count).toUTF8 = (List.replicate count 65).toByteArray := by
  have encoded : (List.replicate count 'A').flatMap String.utf8EncodeChar =
      List.replicate count 65 := by
    induction count with
    | zero => rfl
    | succ count ih =>
      rw [replicate_succ, flatMap_cons, ih, replicate_succ]
      rfl
  change (String.ofList (List.replicate count 'A')).toByteArray = _
  rw [String.toByteArray_ofList, List.utf8Encode, encoded]

theorem size_eq (count : ℕ) : (text count).toUTF8.size = count := by
  rw [bytes_eq, size_toByteArray, length_replicate]

theorem mem_toList_loop {bytes : ByteArray} {index : ℕ} {read : List UInt8} {byte : UInt8}
    (present : byte ∈ ByteArray.toList.loop bytes index read) :
    byte ∈ read ∨ byte ∈ bytes.data.toList := by
  fun_induction ByteArray.toList.loop bytes index read with
  | case1 index read inside ih =>
    rcases ih present with new | stored
    · rcases mem_cons.1 new with rfl | old
      · right
        have within : index < bytes.data.size := inside
        have element : bytes.get! index = bytes.data[index] := by
          exact (getElem!_pos bytes.data index within)
        rw [element]
        exact Array.getElem_mem_toList within
      · exact Or.inl old
    · exact Or.inr stored
  | case2 index read outside => exact Or.inl (by simpa using present)

theorem readFile_text {count budget : ℕ} (fits : count ≤ budget) (small : count ≤ maxFileBytes) :
    (readFile (some (.file (text count).toUTF8)) budget).content = some (text count) := by
  have noNul : (text count).toUTF8.toList.contains 0 = false := by
    rw [← Bool.not_eq_true, contains_iff_mem]
    intro present
    rcases mem_toList_loop present with none | stored
    · cases none
    · rw [bytes_eq, data_toByteArray] at stored
      have zero := eq_of_mem_replicate stored
      exact absurd zero (by decide)
  have decoded : String.fromUTF8? (text count).toUTF8 = some (text count) := by
    unfold String.fromUTF8?
    have valid : (text count).toUTF8.IsValidUTF8 := (text count).isValidUTF8
    rw [dif_pos valid]
    rfl
  have kept : ¬(budget < (text count).toUTF8.size ∨ maxFileBytes < (text count).toUTF8.size) := by
    rw [size_eq]
    omega
  simp only [readFile, Option.bind_some, Node.read, if_neg kept, noNul, decoded,
    Bool.false_eq_true, if_false]

/-- The paths of sixteen wide files, `A` to `P`. -/
def widePaths : List Path := (List.range 16).map fun number => [Fin.ofNat _ (65 + number)]

def smallPath : Path := [99]

def untracked (path : Path) : StatusLine := ⟨'?', '?', path⟩

/-- Sixteen untracked files that use up the budget, and one of a single byte. -/
def start : Workspace where
  disk path :=
    if path ∈ widePaths then some (.file (text maxFileBytes).toUTF8)
    else if path = smallPath then some (.file (text 1).toUTF8) else none
  mtime _ := 0
  head := none
  index _ := none
  ignored _ := false
  status := (widePaths ++ [smallPath]).map untracked
  numstat _ := none

/-- The turn removes the wide files. -/
def finish : Workspace :=
  { start with
    disk path := if path = smallPath then some (.file (text 1).toUTF8) else none
    status := [untracked smallPath] }

theorem snapshotReads_start : snapshotReads start [] = widePaths ++ [smallPath] := by
  decide +kernel

theorem snapshotReads_finish :
    snapshotReads finish (widePaths ++ [smallPath]) = smallPath :: widePaths := by
  decide +kernel

theorem foldl_budgetLeft {paths : List Path} {budget : ℕ} (wide : ∀ path ∈ paths, path ∈ widePaths)
    (fits : paths.length * maxFileBytes ≤ budget) :
    paths.foldl (budgetLeft start) budget = budget - paths.length * maxFileBytes := by
  induction paths generalizing budget with
  | nil => simp
  | cons path rest ih =>
    rw [length_cons, Nat.succ_mul] at fits
    have disk : start.disk path = some (.file (text maxFileBytes).toUTF8) :=
      if_pos (wide path mem_cons_self)
    have one : budgetLeft start budget path = budget - maxFileBytes := by
      rw [budgetLeft, disk, readFile_text (by omega) le_rfl, Option.elim_some, size_eq]
    rw [foldl_cons, one, ih (fun other later => wide other (mem_cons_of_mem _ later))
      (by omega), length_cons, Nat.succ_mul]
    omega

theorem not_keepsContent_start : ¬KeepsContent start [] smallPath := by
  rintro ⟨budget, atRead, kept⟩
  have disk : start.disk smallPath = some (.file (text 1).toUTF8) := by
    simp only [start, if_neg (by decide : smallPath ∉ widePaths), if_true]
  rw [snapshotReads_start, budgetAt_append, if_pos rfl,
    foldl_budgetLeft (fun _ present => present) (by decide), Option.mem_some_iff] at atRead
  rw [disk, ← atRead] at kept
  have full : maxSnapshotBytes - widePaths.length * maxFileBytes < (text 1).toUTF8.size := by
    rw [size_eq]
    decide
  dsimp only [readFile, Option.bind_some, Node.read] at kept
  rw [if_pos (Or.inl full)] at kept
  cases kept

theorem keepsContent_finish : KeepsContent finish (widePaths ++ [smallPath]) smallPath := by
  have disk : finish.disk smallPath = some (.file (text 1).toUTF8) := by
    simp only [finish, if_true]
  refine ⟨maxSnapshotBytes, ?_, ?_⟩
  · have unread : ∀ budget, budgetAt finish smallPath budget widePaths = none := by
      intro budget
      rw [← Option.not_isSome_iff_eq_none, budgetAt_isSome_iff]
      decide
    rw [snapshotReads_finish, budgetAt, unread]
    exact if_pos rfl
  · rw [disk, readFile_text (by decide) (by decide)]
    rfl

end Crowded

end Synapse.Reverts
