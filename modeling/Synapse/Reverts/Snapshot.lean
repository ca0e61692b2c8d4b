import Synapse.Python.Text

/-!
# What a turn did to the workspace

`snapshot_workspace` reads the paths that git calls changed, and `changes_between` compares
the snapshots before and after a turn. A workspace is its files, the commit that `HEAD`
names, the index and the ignore rules, with what git prints about them.

What a commit holds never changes, so it is a parameter, as are the hash of a content and the
line counts of `difflib`.
-/

namespace Synapse.Reverts

abbrev Path := Text

abbrev Commit := Text

/-- What the index or a commit holds for a path; the content of a link is its target. -/
structure TreeEntry where
  bytes : ByteArray
  link : Bool := false
  deriving DecidableEq

/-- What is at a path on disk. A link is given with its target, and with the content of the file
that it leads to, if it leads to one. -/
inductive Node where
  | file (bytes : ByteArray)
  | symlink (target : ByteArray) (reads : Option ByteArray)
  | directory
  deriving DecidableEq

/-- The content that is read at a path, through a link if it is one. -/
def Node.read : Node → Option ByteArray
  | .file bytes => some bytes
  | .symlink _ reads => reads
  | .directory => none

/-- A line of `git status --porcelain`: the letters of the index and of the worktree, and the path,
which is the new one in a rename. -/
structure StatusLine where
  indexLetter : Char
  worktreeLetter : Char
  path : Path
  deriving DecidableEq, Repr

/-- The parts of the host that are not written here. -/
structure Host where
  commits : Commit → Path → Option TreeEntry
  sha256 : ByteArray → Text
  /-- The added and removed lines that `difflib` finds. -/
  countLines : String → String → ℕ × ℕ

structure Workspace where
  disk : Path → Option Node
  mtime : Path → ℕ
  head : Option Commit
  index : Path → Option TreeEntry
  ignored : Path → Bool
  /-- What `git status --porcelain=v1 --untracked-files=all` prints. -/
  status : List StatusLine
  /-- What `git diff --numstat HEAD` prints: insertions, deletions, and whether it is binary. -/
  numstat : Path → Option (ℕ × ℕ × Bool)

/-- What `HEAD` holds for a path. -/
def Workspace.headEntry (host : Host) (workspace : Workspace) (path : Path) : Option TreeEntry :=
  workspace.head.bind (host.commits · path)

/-- The node is what a checkout of the entry leaves. -/
def TreeEntry.Matches (entry : TreeEntry) : Option Node → Prop
  | some (.file bytes) => entry.link = false ∧ bytes = entry.bytes
  | some (.symlink target _) => entry.link = true ∧ target = entry.bytes
  | some .directory | none => False

/-- The worktree or the index differs from `HEAD`. -/
def Workspace.Changed (host : Host) (workspace : Workspace) (path : Path) : Prop :=
  workspace.index path ≠ workspace.headEntry host path ∨
    ∃ entry, workspace.headEntry host path = some entry ∧ ¬entry.Matches (workspace.disk path)

/-- The path is on disk, and neither in the index nor ignored. -/
def Workspace.Untracked (workspace : Workspace) (path : Path) : Prop :=
  workspace.index path = none ∧ workspace.ignored path = false ∧
    ∃ node, workspace.disk path = some node ∧ node ≠ .directory

def Workspace.Listed (workspace : Workspace) (path : Path) : Prop :=
  ∃ line ∈ workspace.status, line.path = path

/-- A workspace in which git tells what has changed. -/
structure Tracked (host : Host) extends Workspace where
  changed : ∀ path, toWorkspace.Changed host path → toWorkspace.Listed path
  untracked : ∀ path, toWorkspace.Untracked path → toWorkspace.Listed path

/-! ### Snapshots -/

def maxSnapshotFiles : ℕ := 200

def maxFileBytes : ℕ := 256 * 1024

def maxSnapshotBytes : ℕ := 4 * 1024 * 1024

/-- A status letter: that of an untracked path, or one column of a line. -/
inductive Letter where
  | untracked
  | column (letter : Char)
  deriving DecidableEq, Repr

def Letter.added : Letter := .column 'A'

def Letter.deleted : Letter := .column 'D'

/-- A carried path that is no longer dirty. -/
def Letter.clean : Letter := .column ' '

/-- The runtime's own bookkeeping inside a workspace. -/
def isIgnored (path : Path) : Bool :=
  (Text.ofString ".synapse/").isPrefixOf path

/-- `_digest_of`: the digest of a content, or the identity of a file that has none. -/
inductive Digest where
  | content (sha256 : Text)
  | missing
  | stat (size mtime : ℕ)
  deriving DecidableEq, Repr

structure SnapshotFile where
  path : Path
  status : Letter
  digest : Digest
  lines : Option ℕ
  content : Option String
  binary : Bool
  present : Bool
  deriving DecidableEq

structure WorkspaceSnapshot where
  files : List SnapshotFile
  standing : Path → Option (ℕ × ℕ × Bool)
  truncated : Bool
  head : Option Commit
  contentSkipped : Bool

def WorkspaceSnapshot.pathsComplete (snapshot : WorkspaceSnapshot) : Bool :=
  !snapshot.truncated

def WorkspaceSnapshot.file (snapshot : WorkspaceSnapshot) (path : Path) : Option SnapshotFile :=
  snapshot.files.find? (·.path = path)

/-- `_status_entries`: the worktree letter of a line, or the index letter if it has none. -/
def statusEntries (status : List StatusLine) : List (Letter × Path) :=
  status.map fun line =>
    if line.indexLetter = '?' ∧ line.worktreeLetter = '?' then (.untracked, line.path)
    else if line.worktreeLetter ≠ ' ' then (.column line.worktreeLetter, line.path)
    else (.column line.indexLetter, line.path)

def isLineBreak (char : Char) : Bool :=
  char ∈ ['\n', '\r', '\x0b', '\x0c', '\x1c', '\x1d', '\x1e', '\x85', '\u2028', '\u2029']

/-- The length of `splitlines`; `started` says whether the line has characters. -/
def lineCount (started : Bool) : List Char → ℕ
  | [] => if started then 1 else 0
  | '\r' :: '\n' :: rest => lineCount false rest + 1
  | char :: rest => if isLineBreak char then lineCount false rest + 1 else lineCount true rest

/-- `_read_file`. -/
structure FileRead where
  content : Option String := none
  lines : Option ℕ := none
  binary : Bool := false
  skipped : Bool := false
  present : Bool := false
  deriving DecidableEq

def readFile (node : Option Node) (budget : ℕ) : FileRead :=
  match node.bind (·.read) with
  | none => {}
  | some raw =>
    if budget < raw.size ∨ maxFileBytes < raw.size then { skipped := true, present := true }
    else if raw.toList.contains 0 then { binary := true, skipped := true, present := true }
    else
      match String.fromUTF8? raw with
      | none => { binary := true, skipped := true, present := true }
      | some text =>
        { content := some text, lines := some (lineCount false text.toList), present := true }

/-- `stat` of a path, which follows a link. -/
def statOf (workspace : Workspace) (path : Path) : Digest :=
  match workspace.disk path with
  | none | some (.symlink _ none) => .missing
  | some .directory => .stat 0 (workspace.mtime path)
  | some (.file bytes) | some (.symlink _ (some bytes)) => .stat bytes.size (workspace.mtime path)

def digestOf (host : Host) (workspace : Workspace) (path : Path) : Option String → Digest
  | some text => .content (host.sha256 text.toUTF8)
  | none => statOf workspace path

/-- The snapshot while it is taken. -/
structure Scan where
  files : List SnapshotFile := []
  budget : ℕ := maxSnapshotBytes
  truncated : Bool := false
  contentSkipped : Bool := false

/-- `files[path] = file`. -/
def putFile (file : SnapshotFile) (files : List SnapshotFile) : List SnapshotFile :=
  if files.any (·.path = file.path) then
    files.map fun other => if other.path = file.path then file else other
  else files ++ [file]

/-- One file is read into the snapshot; `status` is told whether it is present. -/
def Scan.read (host : Host) (workspace : Workspace) (path : Path) (status : Bool → Letter)
    (scan : Scan) : Scan :=
  let read := readFile (workspace.disk path) scan.budget
  { scan with
    files := putFile
      { path, status := status read.present
        digest := digestOf host workspace path read.content
        lines := read.lines, content := read.content, binary := read.binary
        present := read.present } scan.files
    budget := scan.budget - (read.content.elim 0 (·.toUTF8.size))
    contentSkipped := scan.contentSkipped || read.skipped }

/-- The listed paths, up to the first one that is too many. -/
def Scan.listed (host : Host) (workspace : Workspace) : List (Letter × Path) → Scan → Scan
  | [], scan => scan
  | (letter, path) :: rest, scan =>
    if isIgnored path then listed host workspace rest scan
    else if maxSnapshotFiles ≤ scan.files.length then { scan with truncated := true }
    else listed host workspace rest (scan.read host workspace path fun _ => letter)

/-- The paths that the snapshot before described. -/
def Scan.carried (host : Host) (workspace : Workspace) : List Path → Scan → Scan
  | [], scan => scan
  | path :: rest, scan =>
    if scan.files.any (·.path = path) ∨ isIgnored path then carried host workspace rest scan
    else
      carried host workspace rest
        (scan.read host workspace path fun present => if present then .clean else .deleted)

def snapshotWorkspace (host : Host) (workspace : Workspace) (carry : List Path) :
    WorkspaceSnapshot :=
  let entries := (statusEntries workspace.status).insertionSort fun first second =>
    first.2 ≤ second.2
  let scan := Scan.carried host workspace (carry.dedup.insertionSort (· ≤ ·))
    (Scan.listed host workspace entries {})
  { files := scan.files
    standing := workspace.numstat
    truncated := scan.truncated
    head := workspace.head
    contentSkipped := scan.contentSkipped }

/-! ### Changes -/

inductive ChangeStatus where
  | added | modified | deleted
  deriving DecidableEq, Repr

structure TurnChange where
  path : Path
  status : ChangeStatus
  insertions : ℕ
  deletions : ℕ
  binary : Bool
  deriving DecidableEq, Repr

/-- A path that the snapshot before does not describe. -/
def changeOfNew (before after : WorkspaceSnapshot) (now : SnapshotFile) : TurnChange :=
  let created := (now.status = .untracked ∨ now.status = .added) ∧ before.pathsComplete = true
  let standing := after.standing now.path
  if now.present = false then
    let (insertions, deletions, binary) := standing.getD (0, 0, true)
    { path := now.path, status := .deleted, insertions, deletions, binary }
  else
    let (insertions, deletions, binary) := standing.getD (now.lines.getD 0, 0, now.binary)
    { path := now.path, status := if created then .added else .modified
      insertions, deletions, binary }

/-- A path that both snapshots describe, with different digests. -/
def changeOfBoth (host : Host) (was now : SnapshotFile) : TurnChange :=
  if now.present = false then
    { path := was.path, status := .deleted, insertions := 0, deletions := was.lines.getD 0
      binary := was.lines.isNone }
  else
    match was.content, now.content with
    | some old, some new =>
      let (insertions, deletions) := host.countLines old new
      { path := was.path, status := .modified, insertions, deletions, binary := false }
    | _, _ =>
      { path := was.path, status := .modified, insertions := 0, deletions := 0, binary := true }

/-- What is reported of one path. -/
def changeOf (host : Host) (before after : WorkspaceSnapshot) (path : Path) : Option TurnChange :=
  if isIgnored path then none
  else
    match before.file path, after.file path with
    | some was, some now =>
      if was.digest = now.digest then none else some (changeOfBoth host was now)
    | none, none => none
    | none, some now => some (changeOfNew before after now)
    | some was, none =>
      some { path := was.path, status := .deleted, insertions := 0
             deletions := was.lines.getD 0, binary := was.binary }

/-- The biggest changes come first. -/
def TurnChange.Before (first second : TurnChange) : Prop :=
  second.insertions + second.deletions < first.insertions + first.deletions ∨
    (first.insertions + first.deletions = second.insertions + second.deletions ∧
      first.path ≤ second.path)

instance (first second : TurnChange) : Decidable (first.Before second) :=
  inferInstanceAs (Decidable (_ ∨ _))

/-- The changes of a turn, and how many there were. -/
def changesBetween (host : Host) (before after : WorkspaceSnapshot) (limit : ℕ) :
    List TurnChange × ℕ :=
  let paths := (before.files.map (·.path) ++ after.files.map (·.path)).dedup.insertionSort (· ≤ ·)
  let changes := paths.filterMap (changeOf host before after)
  ((changes.insertionSort TurnChange.Before).take limit, changes.length)

end Synapse.Reverts
