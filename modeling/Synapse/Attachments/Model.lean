import Synapse.Foundation.Routine
import Synapse.Python.Text

/-!
# The attachment store

Model of `runtime/service/attachment_store.py` and of the disk below it. A file operation is one
step, and may fail by itself. The writes of one chunk are one step that puts some prefix of the
chunk into the file; the temporary file behind `_write_meta` is seen by nobody, so the rename of it
is the step. Requests are taken as validated and normalized, and paths as free of links.
-/

namespace Synapse.Attachments

abbrev Bytes := List UInt8

/-- The 32 hexadecimal digits of an id. -/
abbrev AttachmentId := Fin (2 ^ 128)

instance AttachmentId.neZero : NeZero (2 ^ 128) := ⟨by decide⟩

def maxAttachmentBytes : ℕ := 4000000

def maxSessionAttachmentBytes : ℕ := 512000000

def maxProjectAttachmentBytes : ℕ := 512000000

def maxQuotaScanEntries : ℕ := 32768

def defaultSweepEntries : ℕ := 256

def maxAttachmentsPerSubmit : ℕ := 8

structure SessionRef where
  projectId : Text
  threadId : Text
  deriving DecidableEq, Repr

structure AttachmentRef where
  session : SessionRef
  attachmentId : AttachmentId
  deriving DecidableEq, Repr

/-- The directories of a project and of a session. -/
structure SessionKey where
  project : Text
  session : Text
  deriving DecidableEq, Repr

inductive AttachmentError where
  | notFound | conflict | tooLarge | quota | unsafeImage | forbidden | unavailable | invalidRequest
  /-- `OSError` or `UnicodeEncodeError` -/
  | raw
  deriving DecidableEq, Repr

/-- What the store calls outside of it, and the unit of its clock. -/
structure Host where
  projectKey : Text → Text
  sessionKey : Text → Text
  sha256 : Bytes → Text
  /-- `validate_image_payload`: the type of the image, and how deeply it was checked. -/
  validateImagePayload : Bytes → Text → Except AttachmentError (Text × Text)
  incompleteTtl : ℕ

def Host.key (host : Host) (session : SessionRef) : SessionKey :=
  ⟨host.projectKey session.projectId, host.sessionKey session.threadId⟩

/-- `_Meta` -/
structure Meta where
  attachmentId : AttachmentId
  projectId : Text
  threadId : Text
  size : ℕ
  mime : Text
  displayName : Text
  createdAt : ℕ
  updatedAt : ℕ
  finalized : Bool
  revision : Option Text
  verification : Option Text
  deriving DecidableEq, Repr

/-! ### The disk -/

/-- What one append has written: a prefix of its chunk, and whether the append has succeeded. -/
structure Piece where
  chunk : Bytes
  written : ℕ
  succeeded : Bool
  deriving DecidableEq, Repr

def Piece.bytes (piece : Piece) : Bytes :=
  piece.chunk.take piece.written

structure MetaFile where
  record : Meta
  modified : ℕ
  deriving DecidableEq, Repr

/-- The pieces are what the appends have done to the file. -/
structure Payload where
  bytes : Bytes
  modified : ℕ
  pieces : List Piece
  deriving DecidableEq, Repr

inductive FileName where
  | metaJson | dataPart | dataBin
  deriving DecidableEq, Repr

/-- The directory of one attachment. -/
structure UploadDir where
  metaJson : Option MetaFile := none
  dataPart : Option Payload := none
  dataBin : Option Payload := none
  deriving DecidableEq, Repr

def UploadDir.unlink (dir : UploadDir) : FileName → UploadDir
  | .metaJson => { dir with metaJson := none }
  | .dataPart => { dir with dataPart := none }
  | .dataBin => { dir with dataBin := none }

/-- What has no name has no files. -/
structure SessionDir where
  names : List AttachmentId
  uploads : AttachmentId → UploadDir

def SessionDir.empty : SessionDir := ⟨[], fun _ => {}⟩

def SessionDir.put (dir : SessionDir) (id : AttachmentId) (upload : UploadDir) : SessionDir :=
  { dir with uploads := Function.update dir.uploads id upload }

structure Disk where
  clock : ℕ
  sessions : SessionKey → SessionDir
  /-- The session directories of each project. -/
  projects : Text → List Text

def Disk.empty : Disk := ⟨0, fun _ => .empty, fun _ => []⟩

def Disk.put (disk : Disk) (key : SessionKey) (dir : SessionDir) : Disk :=
  { disk with sessions := Function.update disk.sessions key dir }

/-! ### Steps -/

/-- `busy`: the wait for a lock is over. -/
inductive Fault where
  | opening | reading | busy
  deriving DecidableEq, Repr

/-- What the environment decides in one step. -/
structure Choice where
  /-- The time since the step before. -/
  elapsed : ℕ := 0
  fault : Option Fault := none
  /-- How much of a write goes through that fails. -/
  written : ℕ := 0
  /-- The order in which a directory is listed. -/
  order : List AttachmentId := []
  files : List FileName := []
  /-- `secrets.token_hex` -/
  token : AttachmentId := 0
  deriving DecidableEq, Repr

inductive Lock where
  | project (key : Text)
  | session (key : SessionKey)
  deriving DecidableEq, Repr

/-- A computation of the store. -/
abbrev Attempt (Value : Type) := ExceptT AttachmentError (Routine Lock Disk Choice) Value

/-- One file operation, at a time that the clock of the disk shows. -/
def operation {Value : Type} (action : Disk → Choice → Disk × Except AttachmentError Value) :
    Attempt Value :=
  ExceptT.mk (Routine.atomically fun disk choice =>
    action { disk with clock := disk.clock + choice.elapsed } choice)

/-- A file operation that changes nothing. -/
def look {Value : Type} (action : Disk → Choice → Except AttachmentError Value) : Attempt Value :=
  operation fun disk choice => (disk, action disk choice)

/-- A file operation on one session. -/
def change {Value : Type} (key : SessionKey)
    (action : ℕ → SessionDir → Choice → SessionDir × Except AttachmentError Value) :
    Attempt Value :=
  operation fun disk choice =>
    (disk.put key (action disk.clock (disk.sessions key) choice).1,
      (action disk.clock (disk.sessions key) choice).2)

/-- What the computation ends with, errors included. -/
def outcome {Value : Type} (attempt : Attempt Value) : Attempt (Except AttachmentError Value) :=
  ExceptT.mk (attempt.run >>= fun result => pure (.ok result))

/-- `_file_lock` -/
def fileLock {Value : Type} (lock : Lock) (body : Attempt Value) : Attempt Value := do
  look fun _ choice =>
    match choice.fault with
    | none => .ok ()
    | some .busy => .error .conflict
    | some .opening => .error .forbidden
    | some .reading => .error .unavailable
  ExceptT.mk (Routine.holding lock body.run)

/-- `time.time()` -/
def time : Attempt ℕ :=
  look fun disk _ => .ok disk.clock

end Synapse.Attachments
