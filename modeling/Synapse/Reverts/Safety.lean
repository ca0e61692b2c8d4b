import Synapse.Reverts.Record

/-!
# What a revert puts back

A record infers what a path held before the turn from two snapshots of what git lists. A path that
the first one kept is put back as it was read, and one that was clean is put back from `HEAD`. That
a path was not there is inferred from its absence among what git lists, which also lacks ignored
paths and clean ones; and a link is put back as the file it led to.
-/

namespace Synapse.Reverts

open List

variable {host : Host} {workspace later : Workspace} {path : Path}

/-! ### Snapshots -/

variable {text : String}

theorem toUTF8_of_fromUTF8? {bytes : ByteArray}
    (decoded : String.fromUTF8? bytes = some text) : text.toUTF8 = bytes := by
  unfold String.fromUTF8? at decoded
  split at decoded
  · obtain rfl := Option.some.inj decoded
    rfl
  · cases decoded

variable {node : Option Node}

/-- A content that is kept is the text of what is read, and not too large. -/
theorem readFile_content {budget : ℕ} (kept : (readFile node budget).content = some text) :
    node.bind (·.read) = some text.toUTF8 ∧ text.toUTF8.size ≤ maxFileBytes := by
  unfold readFile at kept
  split at kept
  · cases kept
  case h_2 raw found =>
    split at kept
    · cases kept
    case isFalse fits =>
      split at kept
      · cases kept
      split at kept
      · cases kept
      case h_2 decoded read =>
        obtain rfl : decoded = text := Option.some.inj kept
        rw [found, toUTF8_of_fromUTF8? read]
        exact ⟨rfl, by omega⟩

/-- The snapshot keeps what is on disk. -/
def Faithful (workspace : Workspace) (files : List SnapshotFile) : Prop :=
  ∀ file ∈ files, ∀ text, file.content = some text →
    (workspace.disk file.path).bind (·.read) = some text.toUTF8 ∧
      text.toUTF8.size ≤ maxFileBytes

def Describes (files : List SnapshotFile) (path : Path) : Prop :=
  ∃ file ∈ files, file.path = path

variable {file : SnapshotFile} {files : List SnapshotFile}

theorem mem_putFile {other : SnapshotFile}
    (present : other ∈ putFile file files) : other = file ∨ other ∈ files := by
  unfold putFile at present
  split at present
  · rcases mem_map.mp present with ⟨before, stored, rfl⟩
    split
    · exact Or.inl rfl
    · exact Or.inr stored
  · rcases mem_append.mp present with old | new
    · exact Or.inr old
    · exact Or.inl (mem_singleton.mp new)

theorem describes_putFile
    (described : path = file.path ∨ Describes files path) : Describes (putFile file files) path := by
  unfold putFile
  split
  case isTrue known =>
    have old : Describes files path := by
      rcases described with rfl | old
      · rcases any_eq_true.mp known with ⟨other, stored, same⟩
        exact ⟨other, stored, by simpa using same⟩
      · exact old
    rcases old with ⟨other, stored, same⟩
    refine ⟨_, mem_map.mpr ⟨other, stored, rfl⟩, ?_⟩
    split
    case isTrue own => exact own.symm.trans same
    case isFalse => exact same
  case isFalse =>
    rcases described with rfl | ⟨other, stored, same⟩
    · exact ⟨file, mem_append_right _ mem_cons_self, rfl⟩
    · exact ⟨other, mem_append_left _ stored, same⟩

variable {scan : Scan}

theorem Faithful.read (faithful : Faithful workspace scan.files)
    (status : Bool → Letter) : Faithful workspace (scan.read host workspace path status).files := by
  intro file present text kept
  rcases mem_putFile present with rfl | old
  · exact readFile_content kept
  · exact faithful file old text kept

variable {entries : List (Letter × Path)}

theorem Faithful.listed (faithful : Faithful workspace scan.files) :
    Faithful workspace (Scan.listed host workspace entries scan).files := by
  induction entries generalizing scan with
  | nil => exact faithful
  | cons entry rest ih =>
    rw [Scan.listed]
    split
    · exact ih faithful
    split
    · exact faithful
    · exact ih (faithful.read _)

theorem describes_listed (described : Describes scan.files path) :
    Describes (Scan.listed host workspace entries scan).files path := by
  induction entries generalizing scan with
  | nil => exact described
  | cons entry rest ih =>
    rw [Scan.listed]
    split
    · exact ih described
    split
    · exact described
    · exact ih (describes_putFile (Or.inr described))

/-- A snapshot that is not truncated describes every listed path. -/
theorem describes_of_listed {letter : Letter}
    (complete : (Scan.listed host workspace entries scan).truncated = false)
    (present : (letter, path) ∈ entries) (reported : isIgnored path = false) :
    Describes (Scan.listed host workspace entries scan).files path := by
  induction entries generalizing scan with
  | nil => cases present
  | cons entry rest ih =>
    rw [Scan.listed] at complete ⊢
    split
    case isTrue ignored =>
      rw [if_pos ignored] at complete
      rcases mem_cons.mp present with rfl | later
      · rw [reported] at ignored
        cases ignored
      · exact ih complete later
    case isFalse kept =>
      rw [if_neg kept] at complete
      split
      case isTrue full =>
        rw [if_pos full] at complete
        cases complete
      case isFalse room =>
        rw [if_neg room] at complete
        rcases mem_cons.mp present with rfl | later
        · exact describes_listed (describes_putFile (Or.inl rfl))
        · exact ih complete later

theorem snapshot_content {was : SnapshotFile}
    (found : (snapshotWorkspace host workspace []).file path = some was)
    (kept : was.content = some text) :
    (workspace.disk path).bind (·.read) = some text.toUTF8 ∧
      text.toUTF8.size ≤ maxFileBytes := by
  have empty : Faithful workspace ({} : Scan).files := by
    exact nofun
  have same : was.path = path := by simpa using find?_some found
  rw [← same]
  exact empty.listed was (mem_of_find?_eq_some found) text kept

theorem not_listed_of_snapshot (absent : (snapshotWorkspace host workspace []).file path = none)
    (complete : (snapshotWorkspace host workspace []).pathsComplete = true)
    (reported : isIgnored path = false) : ¬workspace.Listed path := by
  rintro ⟨line, present, rfl⟩
  have entry : ∃ letter, (letter, line.path) ∈ (statusEntries workspace.status).insertionSort
      fun first second => first.2 ≤ second.2 := by
    simp only [mem_insertionSort]
    unfold statusEntries
    by_cases untracked : line.indexLetter = '?' ∧ line.worktreeLetter = '?'
    · exact ⟨.untracked, mem_map.mpr ⟨line, present, if_pos untracked⟩⟩
    · by_cases worktree : line.worktreeLetter ≠ ' '
      · exact ⟨.column line.worktreeLetter, mem_map.mpr ⟨line, present, by
          rw [if_neg untracked, if_pos worktree]⟩⟩
      · exact ⟨.column line.indexLetter, mem_map.mpr ⟨line, present, by
          rw [if_neg untracked, if_neg worktree]⟩⟩
  rcases entry with ⟨letter, listed⟩
  have whole : (snapshotWorkspace host workspace []).truncated = false := by
    simpa [WorkspaceSnapshot.pathsComplete] using complete
  rcases describes_of_listed whole listed reported with ⟨file, stored, same⟩
  have missing := find?_eq_none.mp absent file stored
  simp [same] at missing

/-! ### Turns -/

/-- How many changes a turn reports. -/
def reportLimit : ℕ := 50

/-- A turn is recorded from the workspace at its start and at its end. -/
structure Turn (host : Host) where
  start : Tracked host
  finish : Tracked host

namespace Turn

variable (turn : Turn host)

def before : WorkspaceSnapshot :=
  snapshotWorkspace host turn.start.toWorkspace []

def after : WorkspaceSnapshot :=
  snapshotWorkspace host turn.finish.toWorkspace (turn.before.files.map (·.path))

def changes : List TurnChange :=
  (changesBetween host turn.before turn.after reportLimit).1

def record : TurnRevertRecord :=
  buildRecord host turn.before turn.after turn.changes

end Turn

variable {turn : Turn host} {entry : RevertRecordFile}

theorem file_path {snapshot : WorkspaceSnapshot}
    (found : snapshot.file path = some file) : file.path = path := by
  simpa using find?_some found

/-- A reported path is not ignored, and it is reported as added only if the first snapshot is
complete without it. -/
theorem changeOf_eq_some {before after : WorkspaceSnapshot} {change : TurnChange}
    (changed : changeOf host before after path = some change) :
    change.path = path ∧ isIgnored path = false ∧
      (change.status = .added → before.file path = none ∧ before.pathsComplete = true) := by
  unfold changeOf at changed
  split at changed
  · cases changed
  case isFalse kept =>
    have kept : isIgnored path = false := by simpa using kept
    split at changed
    case h_1 was now wasFound nowFound =>
      rcases Option.ite_none_left_eq_some.mp changed with ⟨_, changed⟩
      obtain rfl := Option.some.inj changed
      unfold changeOfBoth
      split
      · exact ⟨file_path wasFound, kept, nofun⟩
      · split
        · exact ⟨file_path wasFound, kept, nofun⟩
        · exact ⟨file_path wasFound, kept, nofun⟩
    case h_2 => cases changed
    case h_3 now wasNone nowFound =>
      obtain rfl := Option.some.inj changed
      unfold changeOfNew
      dsimp only
      split
      · exact ⟨file_path nowFound, kept, nofun⟩
      · refine ⟨file_path nowFound, kept, fun added => ⟨wasNone, ?_⟩⟩
        dsimp only at added
        split at added
        case isTrue created => exact created.2
        case isFalse => cases added
    case h_4 was wasFound nowNone =>
      obtain rfl := Option.some.inj changed
      exact ⟨file_path wasFound, kept, nofun⟩

theorem entry_cases (found : turn.record.file path = some entry) :
    entry.path = path ∧ isIgnored path = false ∧
      (entry.status = .added → entry.before = .absent) ∧
      (entry.before = .unknown ∨
        (∃ was text, turn.before.file path = some was ∧ was.content = some text ∧
          entry.before = .content text (contentDigest host text)) ∨
        (turn.before.file path = none ∧ turn.before.pathsComplete = true ∧
          ((entry.before = .absent ∧ entry.status = .added) ∨ entry.before = .head))) := by
  have own : entry.path = path := by simpa using find?_some found
  rcases mem_map.mp (mem_of_find?_eq_some found) with ⟨change, reported, rfl⟩
  have reported := (mem_filter.mp reported).1
  have sorted := mem_of_mem_take reported
  rcases mem_filterMap.mp ((mem_insertionSort _).mp sorted) with ⟨other, _, changed⟩
  rcases changeOf_eq_some changed with ⟨same, kept, added⟩
  have same : other = path := same.symm.trans own
  subst same
  refine ⟨own, kept, ?_, ?_⟩
  · intro status
    rcases added status with ⟨absent, complete⟩
    simp only [beforeState, show change.path = other from own, absent, complete,
      show change.status = .added from status, and_self, if_true]
  · simp only [beforeState, show change.path = other from own]
    split
    case h_1 was wasFound =>
      split
      case h_1 text kept => exact Or.inr (Or.inl ⟨was, text, wasFound, kept, rfl⟩)
      case h_2 => exact Or.inl rfl
    case h_2 absent =>
      split
      case isTrue created => exact Or.inr (Or.inr ⟨absent, created.1, Or.inl ⟨rfl, created.2⟩⟩)
      case isFalse =>
        split
        case isTrue clean => exact Or.inr (Or.inr ⟨absent, clean.1, Or.inr rfl⟩)
        case isFalse => exact Or.inl rfl

/-! ### Plans -/

theorem resolveTarget_ok {target : Path} (resolved : resolveTarget path = .ok target) :
    target = path := by
  unfold resolveTarget at resolved
  split at resolved
  · cases resolved
  split at resolved
  · cases resolved
  split at resolved
  · cases resolved
  · cases resolved
    rfl

variable {plan : RevertPlan}

theorem planAbsent_ok {current : CurrentFile} (planned : planAbsent entry current = .ok plan) :
    plan.path = entry.path ∧
      ((plan.action = .alreadyReverted ∧ current.present = false) ∨ plan.action = .delete) := by
  unfold planAbsent at planned
  split at planned
  case isTrue gone =>
    cases planned
    exact ⟨rfl, Or.inl ⟨rfl, gone⟩⟩
  case isFalse =>
    split at planned
    · cases planned
    split at planned
    · cases planned
    · cases planned
      exact ⟨rfl, Or.inr rfl⟩

/-- What the turn left is known, so that a drift can be seen. -/
def AfterState.Checkable (after : AfterState) : Prop :=
  after.present = true → after.digest ≠ none

variable {digest : Text}

theorem planRestore_ok {current : CurrentFile}
    (planned : planRestore entry current text digest = .ok plan) :
    plan.path = entry.path ∧ entry.after.Checkable ∧
      ((plan.action = .alreadyReverted ∧ current.digest = some digest) ∨
        (plan.action = .restore ∧ plan.content = some text)) := by
  unfold planRestore at planned
  split at planned
  case isTrue =>
    split at planned
    · cases planned
    split at planned
    · cases planned
    case isFalse known =>
      split at planned
      case isTrue back =>
        cases planned
        exact ⟨rfl, fun _ => known, Or.inl ⟨rfl, back⟩⟩
      case isFalse =>
        split at planned
        · cases planned
        · cases planned
          exact ⟨rfl, fun _ => known, Or.inr ⟨rfl, rfl⟩⟩
  case isFalse gone =>
    split at planned
    · cases planned
    · cases planned
      exact ⟨rfl, fun present => absurd present gone, Or.inr ⟨rfl, rfl⟩⟩

theorem planHead_ok {record : TurnRevertRecord} {headNow : Option Commit}
    (planned : planHead host record path headNow = .ok text) :
    ∃ head, record.head = some head ∧ headContent host head path = .ok (some text) := by
  unfold planHead at planned
  split at planned
  case h_1 _ _ head now recorded =>
    split at planned
    · cases planned
    · split at planned
      · cases planned
      case h_2 content =>
        cases planned
        exact ⟨head, recorded, content⟩
      · cases planned
  case h_2 => cases planned

/-- The text that the record would put back at a path. -/
def Restores (host : Host) (record : TurnRevertRecord) (path : Path) (entry : RevertRecordFile)
    (text : String) : Prop :=
  entry.before = .content text (contentDigest host text) ∨
    (entry.before = .head ∧
      ∃ head, record.head = some head ∧ headContent host head path = .ok (some text))

theorem planRevert_ok {record : TurnRevertRecord}
    (kept : ∀ entry text digest, record.file path = some entry →
      entry.before = .content text digest → digest = contentDigest host text)
    (planned : planRevert host record path later = .ok plan) :
    ∃ entry, record.file path = some entry ∧ resolveTarget path = .ok path ∧
      ((entry.before = .absent ∧
          planAbsent entry (inspectCurrent host (later.disk path)) = .ok plan) ∨
        ∃ text, Restores host record path entry text ∧
          planRestore entry (inspectCurrent host (later.disk path)) text
            (contentDigest host text) = .ok plan) := by
  unfold planRevert at planned
  split at planned
  · cases planned
  case h_2 entry found =>
    refine ⟨entry, found, ?_⟩
    split at planned
    · cases planned
    split at planned
    · cases planned
    case h_2 target resolved =>
      obtain rfl := resolveTarget_ok resolved
      refine ⟨resolved, ?_⟩
      dsimp only at planned
      split at planned
      · cases planned
      · split at planned
        case h_1 absent => exact Or.inl ⟨absent, planned⟩
        case h_2 clean =>
          split at planned
          · cases planned
          case h_2 text content =>
            exact Or.inr ⟨text, Or.inr ⟨clean, planHead_ok content⟩, planned⟩
        case h_3 text digest known =>
          obtain rfl := kept entry text digest found known
          exact Or.inr ⟨text, Or.inl known, planned⟩
        case h_4 => cases planned

variable {writes : Bool} {written : ℕ}

theorem applyPlan_ok {next : Workspace}
    (applied : applyPlan host later plan writes = .ok (next, written)) :
    (plan.action = .alreadyReverted ∧ next = later) ∨
      (plan.action = .delete ∧ next = later.write plan.path none) ∨
      (plan.action = .restore ∧
        next = later.write plan.path (some (.file (plan.content.getD "").toUTF8))) := by
  unfold applyPlan at applied
  split at applied
  case isTrue already =>
    cases applied
    exact Or.inl ⟨already, rfl⟩
  case isFalse acts =>
    split at applied
    · cases applied
    case h_2 target resolved =>
      obtain rfl := resolveTarget_ok resolved
      split at applied
      · cases applied
      · split at applied
        case isTrue deletes =>
          split at applied
          · cases applied
            exact Or.inr (Or.inl ⟨deletes, rfl⟩)
          · cases applied
        case isFalse keeps =>
          dsimp only at applied
          split at applied
          · cases applied
            refine Or.inr (Or.inr ⟨?_, rfl⟩)
            cases action : plan.action with
            | restore => rfl
            | delete => exact absurd action keeps
            | alreadyReverted => exact absurd action acts
          · cases applied

/-! ### Reverts -/

/-- A refusal changes nothing; otherwise the path, and only it, is what it was when the turn
started. -/
def Reverted (start : Workspace) (path : Path) (later : Workspace) :
    Except Refusal (Action × ℕ) × Workspace → Prop
  | (.error _, next) => next = later
  | (.ok _, next) =>
    (∀ other, other ≠ path → next.disk other = later.disk other) ∧
      next.disk path = start.disk path

/-- Whatever the workspace has become, a revert of the path is safe. -/
def Turn.Safe (turn : Turn host) (path : Path) : Prop :=
  ∀ later writes, Reverted turn.start.toWorkspace path later
    (revertFile host turn.record path later writes)

/-- What a revert of the path would put back is not what was there. -/
inductive Misread (turn : Turn host) (path : Path) : Prop where
  /-- The path was on disk but ignored by git, or tracked and clean; at the end of the turn git
  lists it as untracked or added, and it is reported as added. -/
  | created {entry : RevertRecordFile} (found : turn.record.file path = some entry)
      (named : resolveTarget path = .ok path) (added : entry.status = .added)
      (unlisted : ¬turn.start.Listed path) (present : turn.start.disk path ≠ none)
  /-- The path was a link, and the record has a text to put back. -/
  | linked {entry : RevertRecordFile} {target : ByteArray} {reads : Option ByteArray}
      {text : String} (found : turn.record.file path = some entry)
      (named : resolveTarget path = .ok path)
      (link : turn.start.disk path = some (.symlink target reads))
      (restores : Restores host turn.record path entry text) (checkable : entry.after.Checkable)

theorem write_of_ne {other : Path} (different : other ≠ path) :
    (workspace.write path node).disk other = workspace.disk other :=
  Function.update_of_ne different _ _

theorem write_self : (workspace.write path node).disk path = node :=
  Function.update_self _ _ _

/-- A path that the first snapshot does not describe, though it is complete, is not listed. -/
theorem not_listed (found : turn.record.file path = some entry)
    (absent : turn.before.file path = none) (complete : turn.before.pathsComplete = true) :
    ¬turn.start.Listed path := by
  rcases entry_cases found with ⟨_, reported, _, _⟩
  exact not_listed_of_snapshot absent complete reported

/-- A text that is put back was what the path held, unless it was a link. -/
theorem restores_start (found : turn.record.file path = some entry)
    (restores : Restores host turn.record path entry text) :
    text.toUTF8.size ≤ maxFileBytes ∧ (turn.start.disk path = some (.file text.toUTF8) ∨
      ∃ target reads, turn.start.disk path = some (.symlink target reads)) := by
  rcases entry_cases found with ⟨_, _, _, known⟩
  rcases restores with kept | ⟨clean, head, named, content⟩
  · rcases known with unknown | ⟨was, other, wasFound, stored, same⟩ | ⟨_, _, ⟨absent, _⟩ | head⟩
    · rw [kept] at unknown
      cases unknown
    · rw [kept] at same
      obtain rfl : text = other := (BeforeState.content.inj same).1
      rcases snapshot_content wasFound stored with ⟨reads, small⟩
      refine ⟨small, ?_⟩
      cases node : turn.start.disk path with
      | none =>
        rw [node] at reads
        cases reads
      | some node' =>
        rw [node] at reads
        cases node' with
        | file bytes => exact Or.inl (congrArg (some ∘ Node.file) (Option.some.inj reads))
        | symlink target linked => exact Or.inr ⟨target, linked, rfl⟩
        | directory => cases reads
    · rw [kept] at absent
      cases absent
    · rw [kept] at head
      cases head
  · rcases known with unknown | ⟨was, other, wasFound, stored, same⟩ | ⟨absent, complete, _⟩
    · rw [clean] at unknown
      cases unknown
    · rw [clean] at same
      cases same
    · have unlisted := not_listed found absent complete
      unfold headContent at content
      split at content
      · cases content
      case h_2 stored committed =>
        split at content
        · cases content
        case isFalse fits =>
          have decoded := Except.ok.inj content
          have bytes := toUTF8_of_fromUTF8? decoded
          have held : turn.start.headEntry host path = some stored := by
            rw [Workspace.headEntry, show turn.start.head = some head from named]
            exact committed
          have matched : stored.Matches (turn.start.disk path) := by
            by_contra differs
            exact unlisted (turn.start.changed path (Or.inr ⟨stored, held, differs⟩))
          rw [bytes]
          refine ⟨by omega, ?_⟩
          cases node : turn.start.disk path with
          | none =>
            rw [node] at matched
            exact matched.elim
          | some node' =>
            rw [node] at matched
            cases node' with
            | file other =>
              left
              rw [matched.2]
            | symlink target linked => exact Or.inr ⟨target, linked, rfl⟩
            | directory => exact matched.elim

theorem inspectCurrent_digest (known : (inspectCurrent host node).digest = some digest) :
    ∃ bytes, node = some (.file bytes) ∧ host.sha256 bytes = digest := by
  unfold inspectCurrent at known
  split at known
  · cases known
  · split at known
    · cases known
    · cases known
  · cases known
  case h_4 bytes =>
    split at known
    · cases known
    · exact ⟨bytes, rfl, Option.some.inj known⟩

theorem inspectCurrent_absent (gone : (inspectCurrent host node).present = false) :
    node = none := by
  unfold inspectCurrent at gone
  split at gone
  · rfl
  · split at gone
    · cases gone
    · cases gone
  · cases gone
  · split at gone
    · cases gone
    · cases gone

theorem record_digest (found : turn.record.file path = some entry)
    (kept : entry.before = .content text digest) : digest = contentDigest host text := by
  rcases entry_cases found with ⟨_, _, _, unknown | ⟨was, other, _, _, same⟩ | ⟨_, _, ⟨absent, _⟩ | head⟩⟩
  · rw [kept] at unknown
    cases unknown
  · rw [kept] at same
    obtain ⟨rfl, rfl⟩ := BeforeState.content.inj same
    rfl
  · rw [kept] at absent
    cases absent
  · rw [kept] at head
    cases head

/-- What a plan for a created file leaves, when the path was free. -/
theorem reverted_absent {start next : Workspace}
    (free : start.disk path = none) (own : entry.path = path)
    (plans : planAbsent entry (inspectCurrent host (later.disk path)) = .ok plan)
    (applied : applyPlan host later plan writes = .ok (next, written)) :
    Reverted start path later (.ok (plan.action, written), next) := by
  rcases planAbsent_ok plans with ⟨same, acts⟩
  have same : plan.path = path := same.trans own
  rcases applyPlan_ok applied with ⟨already, rfl⟩ | ⟨deletes, rfl⟩ | ⟨restores, rfl⟩
  · refine ⟨fun _ _ => rfl, ?_⟩
    rcases acts with ⟨_, gone⟩ | deletes
    · rw [inspectCurrent_absent gone, free]
    · rw [already] at deletes
      cases deletes
  · rw [same]
    exact ⟨fun _ different => write_of_ne different, by rw [write_self, free]⟩
  · rcases acts with ⟨already, _⟩ | deletes
    · rw [restores] at already
      cases already
    · rw [restores] at deletes
      cases deletes

/-- What a plan to put a text back leaves, when the path held it. -/
theorem reverted_restore (collisionFree : Function.Injective host.sha256) {start next : Workspace}
    (held : start.disk path = some (.file text.toUTF8)) (own : entry.path = path)
    (plans : planRestore entry (inspectCurrent host (later.disk path)) text
      (contentDigest host text) = .ok plan)
    (applied : applyPlan host later plan writes = .ok (next, written)) :
    Reverted start path later (.ok (plan.action, written), next) := by
  rcases planRestore_ok plans with ⟨same, _, acts⟩
  have same : plan.path = path := same.trans own
  rcases applyPlan_ok applied with ⟨already, rfl⟩ | ⟨deletes, rfl⟩ | ⟨restores, rfl⟩
  · refine ⟨fun _ _ => rfl, ?_⟩
    rcases acts with ⟨_, back⟩ | ⟨restores, _⟩
    · rcases inspectCurrent_digest back with ⟨bytes, current, digest⟩
      rw [current, held, collisionFree digest]
    · rw [already] at restores
      cases restores
  · rcases acts with ⟨already, _⟩ | ⟨restores, _⟩
    · rw [deletes] at already
      cases already
    · rw [deletes] at restores
      cases restores
  · rcases acts with ⟨already, _⟩ | ⟨_, content⟩
    · rw [restores] at already
      cases already
    · rw [same, content]
      exact ⟨fun _ different => write_of_ne different, by rw [write_self, held]; rfl⟩

theorem safe_of_not_misread (collisionFree : Function.Injective host.sha256)
    (read : ¬Misread turn path) : turn.Safe path := by
  intro later writes
  unfold revertFile
  split
  · exact rfl
  case h_2 plan planned =>
    split
    · exact rfl
    case h_2 next written applied =>
      rcases planRevert_ok (fun entry text digest found kept => record_digest found kept) planned with
        ⟨entry, found, named, ⟨absent, plans⟩ | ⟨text, restores, plans⟩⟩
      · refine reverted_absent ?_ (entry_cases found).1 plans applied
        rcases entry_cases found with ⟨_, _, _, unknown | ⟨_, _, _, _, same⟩ | ⟨missing, complete,
          ⟨_, added⟩ | head⟩⟩
        · rw [absent] at unknown
          cases unknown
        · rw [absent] at same
          cases same
        · by_contra present
          exact read (.created found named added (not_listed found missing complete) present)
        · rw [absent] at head
          cases head
      · refine reverted_restore collisionFree ?_ (entry_cases found).1 plans applied
        rcases (restores_start found restores).2 with held | ⟨target, reads, link⟩
        · exact held
        · exact absurd (.linked found named link restores (planRestore_ok plans).2.1) read

/-! ### A path that is misread -/

theorem revertFile_absent {record : TurnRevertRecord} (found : record.file path = some entry)
    (named : resolveTarget path = .ok path) (absent : entry.before = .absent)
    (free : later.disk path = none) (writes : Bool) :
    revertFile host record path later writes = (.ok (.alreadyReverted, 0), later) := by
  have planned : planRevert host record path later =
      .ok ⟨entry.path, .alreadyReverted, none, none, none⟩ := by
    unfold planRevert
    simp [found, named, absent, free, inspectCurrent, CurrentFile.unwritable, planAbsent]
  unfold revertFile
  rw [planned]
  rfl

theorem planRevert_of_restores {record : TurnRevertRecord} (found : record.file path = some entry)
    (named : resolveTarget path = .ok path)
    (restores : Restores host record path entry text) (same : later.head = record.head)
    (writable : (inspectCurrent host (later.disk path)).unwritable = none) :
    planRevert host record path later =
      planRestore entry (inspectCurrent host (later.disk path)) text (contentDigest host text) := by
  unfold planRevert
  rcases restores with kept | ⟨clean, head, recorded, content⟩
  · simp [found, named, kept, writable]
  · have planned : planHead host record path later.head = .ok text := by
      unfold planHead
      simp [same, recorded, content]
    simp [found, named, clean, writable, planned]

/-- A text is put back on a free path, or found there. -/
theorem revertFile_restore {record : TurnRevertRecord} (found : record.file path = some entry)
    (named : resolveTarget path = .ok path)
    (restores : Restores host record path entry text) (checkable : entry.after.Checkable)
    (own : entry.path = path) (small : text.toUTF8.size ≤ maxFileBytes)
    (same : later.head = record.head)
    (back : later.disk path = if entry.after.present then some (.file text.toUTF8) else none) :
    ∃ action written next, revertFile host record path later true =
      (.ok (action, written), next) ∧ next.disk path = some (.file text.toUTF8) := by
  cases present : entry.after.present with
  | true =>
    rw [present, if_pos rfl] at back
    have fits : ¬maxCurrentBytes < text.toUTF8.size := by
      have : maxFileBytes ≤ maxCurrentBytes := by decide
      omega
    have current : inspectCurrent host (later.disk path) =
        { present := true, digest := some (contentDigest host text), regular := true } := by
      rw [back, inspectCurrent, if_neg fits]
      rfl
    have planned : planRevert host record path later =
        .ok ⟨entry.path, .alreadyReverted, none, entry.after.digest,
          some (contentDigest host text)⟩ := by
      rw [planRevert_of_restores found named restores same (by rw [current]; rfl), current]
      unfold planRestore
      simp [present, checkable present]
    refine ⟨.alreadyReverted, 0, later, ?_, back⟩
    unfold revertFile
    rw [planned]
    rfl
  | false =>
    rw [present] at back
    have back : later.disk path = none := back
    have current : inspectCurrent host (later.disk path) = { present := false } := by
      rw [back, inspectCurrent]
    have planned : planRevert host record path later =
        .ok ⟨entry.path, .restore, some text, none, some (contentDigest host text)⟩ := by
      rw [planRevert_of_restores found named restores same (by rw [current]; rfl), current]
      unfold planRestore
      simp [present]
    refine ⟨.restore, text.toUTF8.size, later.write path (some (.file text.toUTF8)), ?_,
      write_self⟩
    unfold revertFile
    rw [planned]
    simp [applyPlan, own, named, current, verifyExpected]

theorem not_safe_of_misread (read : Misread turn path) : ¬turn.Safe path := by
  intro safe
  cases read with
  | @created entry found named added unlisted present =>
    have done := safe { turn.start.toWorkspace with disk := fun _ => none } true
    rw [revertFile_absent found named ((entry_cases found).2.2.1 added) rfl true] at done
    exact present done.2.symm
  | @linked entry target reads text found named link restores checkable =>
    have small := (restores_start found restores).1
    let later : Workspace := { turn.start.toWorkspace with
      disk := fun _ => if entry.after.present then some (.file text.toUTF8) else none }
    have back : later.disk path =
      if entry.after.present then some (.file text.toUTF8) else none := rfl
    have same : later.head = turn.record.head := rfl
    rcases revertFile_restore found named restores checkable (entry_cases found).1 small same back
      with ⟨action, written, next, done, left⟩
    have reverted := safe later true
    rw [done] at reverted
    have same : some (Node.file text.toUTF8) = some (.symlink target reads) :=
      left.symm.trans (reverted.2.trans link)
    cases same

def notes : Path := Text.ofString "notes.txt"

def commit : Commit := Text.ofString "c0"

/-- Only `notes.txt` has a value. -/
def only {Value : Type} (value : Value) (path : Path) : Option Value :=
  if path = notes then some value else none

/-- A host with one commit; the bytes of a content stand for its hash. -/
def plainHost : Host where
  commits := fun name path => if name = commit then only { bytes := "a".toUTF8 } path else none
  sha256 := fun bytes => bytes.data.toList.map fun byte => Fin.castLE CodePoint.size_uint8_le byte.toFin
  countLines := fun _ _ => (1, 1)

theorem plainHost_collisionFree : Function.Injective plainHost.sha256 := by
  intro first second same
  have bytes : Function.Injective fun byte : UInt8 =>
      (Fin.castLE (by decide) byte.toFin : CodePoint) := by
    intro first second same
    exact UInt8.toFin_inj.mp (Fin.castLE_injective _ same)
  exact ByteArray.ext (Array.toList_inj.mp (map_injective_iff.mpr bytes same))

theorem only_of_ne {Value : Type} {value : Value} (different : path ≠ notes) :
    only value path = none :=
  if_neg different

theorem headEntry_of_ne (named : workspace.head = some commit)
    (different : path ≠ notes) : workspace.headEntry plainHost path = none := by
  rw [Workspace.headEntry, named]
  exact only_of_ne different

theorem not_changed_of_ne
    (named : workspace.head = some commit) (index : workspace.index path = none)
    (different : path ≠ notes) : ¬workspace.Changed plainHost path := by
  rintro (moved | ⟨entry, held, _⟩)
  · exact moved (index.trans (headEntry_of_ne named different).symm)
  · rw [headEntry_of_ne named different] at held
    cases held

/-- `notes.txt` is tracked and clean. -/
def cleanStart : Workspace where
  disk := only (.file "a".toUTF8)
  mtime := fun _ => 0
  head := some commit
  index := only { bytes := "a".toUTF8 }
  ignored := fun _ => false
  status := []
  numstat := fun _ => none

/-- `notes.txt` is edited. -/
def editedFinish : Workspace :=
  { cleanStart with
    disk := only (.file "b".toUTF8)
    status := [⟨' ', 'M', notes⟩]
    numstat := only (1, 1, false) }

/-- `notes.txt` is taken out of the index, and otherwise left alone. -/
def uncachedFinish : Workspace :=
  { cleanStart with
    index := fun _ => none
    status := [⟨'D', ' ', notes⟩, ⟨'?', '?', notes⟩]
    numstat := only (0, 1, false) }

theorem cleanStart_changed : ¬cleanStart.Changed plainHost path := by
  by_cases same : path = notes
  · subst same
    rintro (moved | ⟨entry, held, differs⟩)
    · exact moved rfl
    · obtain rfl := Option.some.inj held
      exact differs ⟨rfl, rfl⟩
  · exact not_changed_of_ne rfl (only_of_ne same) same

theorem cleanStart_untracked : ¬cleanStart.Untracked path := by
  rintro ⟨index, _, node, held, _⟩
  by_cases same : path = notes
  · subst same
    cases index
  · rw [show cleanStart.disk path = none from only_of_ne same] at held
    cases held

def cleanTracked : Tracked plainHost where
  toWorkspace := cleanStart
  changed := fun _ changed => absurd changed cleanStart_changed
  untracked := fun _ untracked => absurd untracked cleanStart_untracked

/-- A workspace that lists `notes.txt`, and in which nothing else is known. -/
def listing (workspace : Workspace) (named : workspace.head = some commit)
    (index : ∀ path, path ≠ notes → workspace.index path = none)
    (disk : ∀ path, path ≠ notes → workspace.disk path = none)
    (listed : workspace.Listed notes) : Tracked plainHost where
  toWorkspace := workspace
  changed := by
    intro path changed
    by_cases same : path = notes
    · exact same ▸ listed
    · exact absurd changed (not_changed_of_ne named (index path same) same)
  untracked := by
    rintro path ⟨_, _, node, held, _⟩
    by_cases same : path = notes
    · exact same ▸ listed
    · rw [disk path same] at held
      cases held

def editing : Turn plainHost where
  start := cleanTracked
  finish := listing editedFinish rfl (fun _ => only_of_ne) (fun _ => only_of_ne)
    ⟨_, List.mem_cons_self, rfl⟩

def uncaching : Turn plainHost where
  start := cleanTracked
  finish := listing uncachedFinish rfl (fun _ _ => rfl) (fun _ => only_of_ne)
    ⟨_, List.mem_cons_self, rfl⟩

end Synapse.Reverts
