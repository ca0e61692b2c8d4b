import Synapse.Reverts.Snapshot

/-!
# Undoing one turn's change to one file

A record tells of every reported file of a turn what it held before the turn and what the turn
left. `revert_file` plans what to do with one path from the record and from what is on disk by
then, and does it or refuses.
-/

namespace Synapse.Reverts

def maxCurrentBytes : ℕ := 8 * 1024 * 1024

def nameBytes : ℕ := 4096

inductive Action where
  | restore | delete | alreadyReverted
  deriving DecidableEq, Repr

inductive Reason where
  | pathNotInTurn | pathInvalid | beforeUnknown | noBeforeContent | contentNotKept | contentDrift
  | headMoved | symlinkRefused | notAFile | tooLarge | writeFailed
  deriving DecidableEq, Repr

/-- `TurnRevertRefused`. -/
structure Refusal where
  reason : Reason
  message : String
  deriving DecidableEq, Repr

/-- What the file held when the turn started. -/
inductive BeforeState where
  | content (text : String) (digest : Text)
  | absent
  | head
  | unknown
  deriving DecidableEq

/-- What the turn left behind. -/
structure AfterState where
  present : Bool
  digest : Option Text
  deriving DecidableEq, Repr

structure RevertRecordFile where
  path : Path
  status : ChangeStatus
  before : BeforeState
  after : AfterState
  deriving DecidableEq

structure TurnRevertRecord where
  files : List RevertRecordFile
  head : Option Commit
  deriving DecidableEq

def TurnRevertRecord.file (record : TurnRevertRecord) (path : Path) : Option RevertRecordFile :=
  record.files.find? (·.path = path)

def contentDigest (host : Host) (text : String) : Text :=
  host.sha256 text.toUTF8

/-- What the record says that a path held before the turn. -/
def beforeState (host : Host) (before : WorkspaceSnapshot) (change : TurnChange) : BeforeState :=
  match before.file change.path with
  | some was =>
    match was.content with
    | some text => .content text (contentDigest host text)
    | none => .unknown
  | none =>
    if before.pathsComplete ∧ change.status = .added then .absent
    else if before.pathsComplete ∧ before.contentSkipped = false then .head
    else .unknown

def afterState (host : Host) (after : WorkspaceSnapshot) (path : Path) : AfterState :=
  { present := (after.file path).any (·.present)
    digest := (after.file path).bind fun now => now.content.map (contentDigest host) }

def buildRecord (host : Host) (before after : WorkspaceSnapshot) (changes : List TurnChange) :
    TurnRevertRecord :=
  { files := (changes.filter (·.path ≠ [])).map fun change =>
      { path := change.path, status := change.status
        before := beforeState host before change
        after := afterState host after change.path }
    head := before.head }

/-! ### Plans -/

def slash : CodePoint := 0x2f

def backslash : CodePoint := 0x5c

def colon : CodePoint := 0x3a

/-- The parts of a path between its slashes. -/
def pathParts : Path → List Path
  | [] => [[]]
  | point :: rest =>
    if point = slash then [] :: pathParts rest
    else
      match pathParts rest with
      | first :: others => (point :: first) :: others
      | [] => [[point]]

/-- The checks of `_resolve_target`. Git prints normal paths, and the target of a normal path is the
path itself. -/
def resolveTarget (path : Path) : Except Refusal Path :=
  if path = [] ∨ nameBytes < (Text.utf8Size? path).getD 0 then
    .error ⟨.pathInvalid, "the file path is required"⟩
  else if path.contains backslash ∨ path.head? = some slash ∨
      path.contains colon then
    .error ⟨.pathInvalid, "the file path must be workspace-relative"⟩
  else if (Text.ofString "..") ∈ pathParts path then
    .error ⟨.pathInvalid, "the file path must not contain parent segments"⟩
  else .ok path

/-- `_CurrentFile`. -/
structure CurrentFile where
  present : Bool
  digest : Option Text := none
  symlink : Bool := false
  regular : Bool := false
  tooLarge : Bool := false
  deriving DecidableEq, Repr

def inspectCurrent (host : Host) : Option Node → CurrentFile
  | none => { present := false }
  | some (.symlink target _) =>
    if maxCurrentBytes < target.size then { present := true, tooLarge := true }
    else { present := true, symlink := true }
  | some .directory => { present := true }
  | some (.file bytes) =>
    if maxCurrentBytes < bytes.size then { present := true, tooLarge := true }
    else { present := true, digest := some (host.sha256 bytes), regular := true }

/-- `_head_content`: the text that a commit holds for a path. -/
def headContent (host : Host) (commit : Commit) (path : Path) : Except Refusal (Option String) :=
  match host.commits commit path with
  | none => .ok none
  | some entry =>
    if maxFileBytes < entry.bytes.size ∨ maxCurrentBytes < entry.bytes.size then
      .error ⟨.tooLarge, "the file is too large to restore from the commit"⟩
    else .ok (String.fromUTF8? entry.bytes)

structure RevertPlan where
  path : Path
  action : Action
  content : Option String
  expectedDigest : Option Text
  resultDigest : Option Text
  deriving DecidableEq

/-- What keeps a path from being written to. -/
def CurrentFile.unwritable (current : CurrentFile) : Option Refusal :=
  if current.symlink then
    some ⟨.symlinkRefused, "the path is a symbolic link, so it is never written through"⟩
  else if current.present ∧ current.regular = false then
    some ⟨.notAFile, "the path is not a regular file"⟩
  else if current.tooLarge then
    some ⟨.tooLarge, "the file is too large to check it is unchanged"⟩
  else none

def notKept : Refusal :=
  ⟨.contentNotKept, "what the turn left in that file was not kept, so it cannot be checked"⟩

def beforeUnknown : Refusal :=
  ⟨.beforeUnknown,
    "the file's content from before this turn was not kept, so it cannot be restored"⟩

def drifted : Refusal :=
  ⟨.contentDrift, "the file changed after this turn, so it was left alone"⟩

/-- The plan for a file that the turn created. -/
def planAbsent (entry : RevertRecordFile) (current : CurrentFile) : Except Refusal RevertPlan :=
  if current.present = false then
    .ok ⟨entry.path, .alreadyReverted, none, none, none⟩
  else if entry.after.present = false ∨ entry.after.digest = none then .error notKept
  else if current.digest ≠ entry.after.digest then .error drifted
  else .ok ⟨entry.path, .delete, none, entry.after.digest, none⟩

/-- The text that `HEAD` held, while it still names the same commit. -/
def planHead (host : Host) (record : TurnRevertRecord) (path : Path) (headNow : Option Commit) :
    Except Refusal String :=
  match record.head, headNow with
  | some head, some now =>
    if now ≠ head then
      .error ⟨.headMoved,
        "the workspace has a new commit since this turn, so restoring was refused"⟩
    else
      match headContent host head path with
      | .error refusal => .error refusal
      | .ok (some text) => .ok text
      | .ok none =>
        .error ⟨.noBeforeContent,
          "that commit holds no readable text for this file, so it cannot be restored"⟩
  | _, _ =>
    .error ⟨.noBeforeContent, "no commit holds this file's content from before the turn"⟩

/-- The plan to put a text back. -/
def planRestore (entry : RevertRecordFile) (current : CurrentFile) (text : String)
    (digest : Text) : Except Refusal RevertPlan :=
  if entry.after.present then
    if current.present = false then
      .error ⟨.contentDrift, "the file is gone, so it was left alone"⟩
    else if entry.after.digest = none then .error notKept
    else if current.digest = some digest then
      .ok ⟨entry.path, .alreadyReverted, none, entry.after.digest, some digest⟩
    else if current.digest ≠ entry.after.digest then .error drifted
    else .ok ⟨entry.path, .restore, some text, entry.after.digest, some digest⟩
  else if current.present then
    .error ⟨.contentDrift, "the file was recreated after this turn, so it was left alone"⟩
  else .ok ⟨entry.path, .restore, some text, none, some digest⟩

def planRevert (host : Host) (record : TurnRevertRecord) (path : Path) (workspace : Workspace) :
    Except Refusal RevertPlan :=
  match record.file path with
  | none => .error ⟨.pathNotInTurn, "that file is not part of this turn's changes"⟩
  | some entry =>
    if entry.before = .unknown then .error beforeUnknown
    else
      match resolveTarget path with
      | .error refusal => .error refusal
      | .ok target =>
        let current := inspectCurrent host (workspace.disk target)
        match current.unwritable with
        | some refusal => .error refusal
        | none =>
          match entry.before with
          | .absent => planAbsent entry current
          | .head =>
            match planHead host record path workspace.head with
            | .error refusal => .error refusal
            | .ok text => planRestore entry current text (contentDigest host text)
          | .content text digest => planRestore entry current text digest
          | .unknown => .error beforeUnknown

/-! ### Reverts -/

/-- `_verify_expected`: the file still holds what the plan was decided against. -/
def verifyExpected (current : CurrentFile) (expected : Option Text) : Option Refusal :=
  if current.symlink then
    some ⟨.symlinkRefused, "the path is a symbolic link, so it is never written through"⟩
  else if current.present ∧ current.regular = false then
    some ⟨.notAFile, "the path is not a regular file"⟩
  else
    match expected with
    | none =>
      if current.present then
        some ⟨.contentDrift, "the file came back after this turn, so it was left alone"⟩
      else none
    | some digest =>
      if current.present = false ∨ current.tooLarge ∨ current.digest ≠ some digest then
        some drifted
      else none

def Workspace.write (workspace : Workspace) (path : Path) (node : Option Node) : Workspace :=
  { workspace with disk := Function.update workspace.disk path node }

/-- `writes` says whether the file system lets the write through. -/
def applyPlan (host : Host) (workspace : Workspace) (plan : RevertPlan) (writes : Bool) :
    Except Refusal (Workspace × ℕ) :=
  if plan.action = .alreadyReverted then .ok (workspace, 0)
  else
    match resolveTarget plan.path with
    | .error refusal => .error refusal
    | .ok target =>
      match verifyExpected (inspectCurrent host (workspace.disk target)) plan.expectedDigest with
      | some refusal => .error refusal
      | none =>
        if plan.action = .delete then
          if writes then .ok (workspace.write target none, 0)
          else .error ⟨.writeFailed, "the file could not be removed"⟩
        else
          let content := plan.content.getD ""
          if writes then
            .ok (workspace.write target (some (.file content.toUTF8)), content.toUTF8.size)
          else .error ⟨.writeFailed, "the file could not be written"⟩

/-- The action with the bytes that were written, and the workspace that it leaves. A refusal leaves
the workspace as it was. -/
def revertFile (host : Host) (record : TurnRevertRecord) (path : Path) (workspace : Workspace)
    (writes : Bool) : Except Refusal (Action × ℕ) × Workspace :=
  match planRevert host record path workspace with
  | .error refusal => (.error refusal, workspace)
  | .ok plan =>
    match applyPlan host workspace plan writes with
    | .error refusal => (.error refusal, workspace)
    | .ok (next, written) => (.ok (plan.action, written), next)

end Synapse.Reverts
