import Synapse.Attachments.Model

/-!
# Operations of the attachment store

The functions of `attachment_store.py`, one file operation after the other.
-/

namespace Synapse.Attachments

variable (host : Host)

/-- `if condition: raise error` -/
def raise (condition : Prop) [Decidable condition] (error : AttachmentError) : Attempt Unit :=
  if condition then throw error else pure ()

/-! ### Metadata -/

/-- `_read_meta` -/
def readMeta (key : SessionKey) (id : AttachmentId) : Attempt Meta :=
  look fun disk choice =>
    match choice.fault with
    | some .opening => .error .forbidden
    | some _ => .error .unavailable
    | none =>
      match ((disk.sessions key).uploads id).metaJson with
      | some file => .ok file.record
      | none => .error .notFound

/-- The ids of the session in the metadata can be encoded. -/
def Meta.encodes (record : Meta) : Bool :=
  record.projectId.utf8Size?.isSome && record.threadId.utf8Size?.isSome

/-- `_write_meta` -/
def writeMeta (key : SessionKey) (id : AttachmentId) (record : Meta) : Attempt Unit :=
  change key fun now dir choice =>
    if record.encodes = false then (dir, .error .raw)
    else if choice.fault ≠ none then (dir, .error .unavailable)
    else (dir.put id { dir.uploads id with metaJson := some ⟨record, now⟩ }, .ok ())

/-- `_check_owner` -/
def checkOwner (record : Meta) (session : SessionRef) : Attempt Unit :=
  raise (record.projectId ≠ session.projectId ∨ record.threadId ≠ session.threadId) .forbidden

/-- The metadata of an attachment, which has to belong to the session. -/
def readOwned (ref : AttachmentRef) : Attempt Meta := do
  let record ← readMeta (host.key ref.session) ref.attachmentId
  checkOwner record ref.session
  raise (record.attachmentId ≠ ref.attachmentId) .unavailable
  return record

/-- `_has_regular_data_file` -/
def hasRegularDataFile (key : SessionKey) (id : AttachmentId) : Attempt Bool :=
  look fun disk choice =>
    if choice.fault ≠ none then .error .unavailable
    else .ok ((disk.sessions key).uploads id).dataBin.isSome

/-- `_open_readonly`, and a read of the whole file. -/
def readFile (key : SessionKey) (id : AttachmentId) (file : UploadDir → Option Payload) :
    Attempt Bytes :=
  look fun disk choice =>
    match choice.fault with
    | some .opening => .error .forbidden
    | some _ => .error .raw
    | none =>
      match file ((disk.sessions key).uploads id) with
      | some payload => .ok payload.bytes
      | none => .error .notFound

/-- The metadata that `finish_attachment` and `_recover_finalized` write. -/
def Meta.finalize (record : Meta) (mime revision verification : Text) (now : ℕ) : Meta :=
  { record with
    mime := mime, finalized := true, revision := some revision
    verification := some verification, updatedAt := now }

def verify (data : Bytes) (mime : Text) : Attempt (Text × Text) :=
  ExceptT.mk (pure (host.validateImagePayload data mime))

/-- `_recover_finalized` -/
def recoverFinalized (key : SessionKey) (id : AttachmentId) (record : Meta) : Attempt Meta :=
  if record.finalized then pure record
  else do
    let present ← hasRegularDataFile key id
    if present = false then pure record
    else do
      match ← outcome (readFile key id UploadDir.dataBin) with
      | .error .notFound => pure record
      | .error error => throw error
      | .ok data =>
        raise (data.length ≠ record.size) .conflict
        let verification ← verify host data record.mime
        let now ← time
        let recovered := record.finalize verification.1 (host.sha256 data) verification.2 now
        writeMeta key id recovered
        return recovered

/-! ### Removal -/

/-- One file of a directory is removed. -/
def unlink (key : SessionKey) (id : AttachmentId) (file : FileName) : Attempt Unit :=
  change key fun _ dir choice =>
    if choice.fault ≠ none then (dir, .error .unavailable)
    else (dir.put id ((dir.uploads id).unlink file), .ok ())

/-- The files of a directory, in any order. -/
def fileOrder (choice : Choice) : List FileName :=
  choice.files ++ [.metaJson, .dataPart, .dataBin]

def unlinkAll (key : SessionKey) (id : AttachmentId) : List FileName → Attempt Unit
  | [] => pure ()
  | file :: files => do
      unlink key id file
      unlinkAll key id files

/-- `rmdir` -/
def removeDir (key : SessionKey) (id : AttachmentId) : Attempt Unit :=
  change key fun _ dir choice =>
    if choice.fault ≠ none then (dir, .error .unavailable)
    else ({ dir with names := dir.names.erase id }, .ok ())

/-- `_remove_tree` -/
def removeTree (key : SessionKey) (id : AttachmentId) : Attempt Unit := do
  let files ← look fun _ choice =>
    match choice.fault with
    | none => .ok (fileOrder choice)
    | some .opening => .error .forbidden
    | some _ => .error .unavailable
  unlinkAll key id files
  removeDir key id

/-! ### Sweep -/

/-- The attachments of a session, in any order. -/
def listing (dir : SessionDir) (choice : Choice) : List AttachmentId :=
  ((choice.order ++ dir.names).filter fun id => decide (id ∈ dir.names)).dedup

def listUploads (key : SessionKey) : Attempt (List AttachmentId) :=
  look fun disk choice =>
    if choice.fault ≠ none then .error .unavailable
    else .ok (listing (disk.sessions key) choice)

/-- `lstat(path).st_mtime`, unless it fails. -/
def modifiedAt (key : SessionKey) (id : AttachmentId) (file : UploadDir → Option ℕ) :
    Attempt (Option ℕ) :=
  look fun disk choice =>
    if choice.fault ≠ none then .ok none else .ok (file ((disk.sessions key).uploads id))

/-- `_last_activity` -/
def lastActivity (key : SessionKey) (id : AttachmentId) (record : Meta) : Attempt ℕ := do
  let first ← modifiedAt key id fun upload => upload.metaJson.map MetaFile.modified
  let second ← modifiedAt key id fun upload => upload.dataPart.map Payload.modified
  let newest := max (first.getD 0) (second.getD 0)
  return if 0 < newest then newest else record.createdAt

/-- One entry of the sweep: whether it has been removed. -/
def sweepEntry (key : SessionKey) (now : ℕ) (id : AttachmentId) : Attempt Bool := do
  match ← outcome (readMeta key id) with
  | .error .notFound | .error .unavailable => pure false
  | .error error => throw error
  | .ok record =>
    if record.finalized then pure false
    else do
      match ← outcome (hasRegularDataFile key id) with
      | .error _ | .ok true => pure false
      | .ok false =>
        let activity ← lastActivity key id record
        -- `activity > deadline`, for `deadline = now - INCOMPLETE_TTL_SECONDS`
        if now < activity + host.incompleteTtl then pure false
        else do
          match ← outcome (removeTree key id) with
          | .error .unavailable => pure false
          | .error error => throw error
          | .ok () => pure true

def sweepEntries (key : SessionKey) (now maxEntries : ℕ) :
    List AttachmentId → ℕ → ℕ → Attempt (ℕ × ℕ)
  | [], removed, scanned => pure (removed, scanned)
  | id :: rest, removed, scanned =>
    if maxEntries ≤ scanned then pure (removed, scanned)
    else do
      let gone ← sweepEntry host key now id
      sweepEntries key now maxEntries rest (removed + gone.toNat) (scanned + 1)

/-- `_sweep_session_locked`: how many were removed, and how many were looked at in all. -/
def sweepSessionLocked (key : SessionKey) (now maxEntries scanned : ℕ) : Attempt (ℕ × ℕ) := do
  let candidates ← listUploads key
  sweepEntries host key now maxEntries candidates 0 scanned

/-- The sessions of one project, for `_sweep_project_locked`. -/
def sweepSessions (project : Text) (now maxEntries : ℕ) :
    List Text → ℕ → ℕ → Attempt (ℕ × ℕ)
  | [], removed, scanned => pure (removed, scanned)
  | session :: rest, removed, scanned =>
    if maxEntries ≤ scanned then pure (removed, scanned)
    else do
      let key : SessionKey := ⟨project, session⟩
      match ← outcome (fileLock (.session key)
          (sweepSessionLocked host key now maxEntries scanned)) with
      | .error .conflict => sweepSessions project now maxEntries rest removed scanned
      | .error error => throw error
      | .ok swept => sweepSessions project now maxEntries rest (removed + swept.1) swept.2

def listSessions (project : Text) : Attempt (List Text) :=
  look fun disk choice =>
    if choice.fault ≠ none then .error .unavailable else .ok (disk.projects project)

/-- The projects that `sweep_incomplete` visits. -/
def sweepProjects (now maxEntries : ℕ) : List Text → ℕ → ℕ → Attempt ℕ
  | [], removed, _ => pure removed
  | project :: rest, removed, scanned =>
    if maxEntries ≤ scanned then pure removed
    else do
      let swept ← fileLock (.project project) do
        let sessions ← listSessions project
        sweepSessions host project now maxEntries sessions 0 scanned
      sweepProjects now maxEntries rest (removed + swept.1) swept.2

/-! ### Quota -/

/-- What `_scan_usage` charges for the entries of one session: their number and their bytes. -/
def scanEntries (key : SessionKey) (maxEntries : ℕ) :
    List AttachmentId → ℕ → ℕ → Attempt (ℕ × ℕ)
  | [], count, total => pure (count, total)
  | id :: rest, count, total =>
    if maxEntries < count + 1 then throw .quota
    else do
      match ← outcome (readMeta key id) with
      | .error .notFound | .error .unavailable =>
        scanEntries key maxEntries rest (count + 1) (total + maxAttachmentBytes)
      | .error error => throw error
      | .ok record => scanEntries key maxEntries rest (count + 1) (total + record.size)

/-- `_scan_usage` -/
def scanUsage (key : SessionKey) (maxEntries : ℕ) : Attempt (ℕ × ℕ) := do
  let names ← listUploads key
  scanEntries key maxEntries names 0 0

def scanSessions (project : Text) : List Text → ℕ → ℕ → Attempt ℕ
  | [], _, total => pure total
  | session :: rest, remaining, total => do
      let usage ← scanUsage ⟨project, session⟩ remaining
      scanSessions project rest (remaining - usage.1) (total + usage.2)

/-- `_scan_project_usage` -/
def scanProjectUsage (project : Text) : Attempt ℕ := do
  let sessions ← listSessions project
  scanSessions project sessions maxQuotaScanEntries 0

/-- `_enforce_quota` -/
def enforceQuota (key : SessionKey) (size : ℕ) : Attempt Unit := do
  let session ← scanUsage key maxQuotaScanEntries
  raise (maxSessionAttachmentBytes < session.2 + size) .quota
  let project ← scanProjectUsage key.project
  raise (maxProjectAttachmentBytes < project + size) .quota

/-! ### Begin -/

/-- The rest of `_new_attachment_id`, with a number of tries. -/
def newAttachmentId (key : SessionKey) : ℕ → Attempt AttachmentId
  | 0 => throw .unavailable
  | tries + 1 => do
      let candidate ← look fun disk choice =>
        .ok (choice.token, decide (choice.token ∈ (disk.sessions key).names))
      if candidate.2 then newAttachmentId key tries else pure candidate.1

/-- `_ensure_dir`, for the directory of a new attachment. -/
def makeUploadDir (key : SessionKey) (id : AttachmentId) : Attempt Unit := do
  change key fun _ dir choice =>
    if choice.fault ≠ none then (dir, .error .forbidden)
    else if id ∈ dir.names then (dir, .ok ())
    else ({ dir with names := dir.names ++ [id] }, .ok ())
  look fun _ choice => if choice.fault ≠ none then .error .forbidden else .ok ()

/-- `_session_dirs` -/
def makeSessionDir (key : SessionKey) : Attempt Unit :=
  operation fun disk choice =>
    if choice.fault ≠ none then (disk, .error .forbidden)
    else if key.session ∈ disk.projects key.project then (disk, .ok ())
    else
      ({ disk with
        projects := Function.update disk.projects key.project
          (disk.projects key.project ++ [key.session]) }, .ok ())

structure BeginCommand where
  session : SessionRef
  size : ℕ
  mime : Text
  displayName : Text
  deriving DecidableEq, Repr

/-- The metadata of a new upload. -/
def BeginCommand.record (command : BeginCommand) (id : AttachmentId) (now : ℕ) : Meta where
  attachmentId := id
  projectId := command.session.projectId
  threadId := command.session.threadId
  size := command.size
  mime := command.mime
  displayName := command.displayName
  createdAt := now
  updatedAt := now
  finalized := false
  revision := none
  verification := none

/-- What `begin_attachment` does behind both locks. -/
def beginLocked (command : BeginCommand) : Attempt AttachmentId := do
  let key := host.key command.session
  let now ← time
  let _ ← sweepSessionLocked host key now defaultSweepEntries 0
  enforceQuota key command.size
  let id ← newAttachmentId key 8
  makeUploadDir key id
  let createdAt ← time
  writeMeta key id (command.record id createdAt)
  return id

/-- `begin_attachment` -/
def beginAttachment (command : BeginCommand) : Attempt AttachmentRef := do
  raise (command.size = 0 ∨ maxAttachmentBytes < command.size) .invalidRequest
  let key := host.key command.session
  makeSessionDir key
  let id ← fileLock (.project key.project) (fileLock (.session key) (beginLocked host command))
  return ⟨command.session, id⟩

/-! ### Append -/

structure AppendCommand where
  ref : AttachmentRef
  expectedOffset : ℕ
  chunk : Bytes
  deriving DecidableEq, Repr

/-- Bytes put into a file at an offset. -/
def overwrite (bytes : Bytes) (offset : ℕ) (data : Bytes) : Bytes :=
  bytes.take offset ++ data ++ bytes.drop (offset + data.length)

/-- `_open_part`, and `fstat`: the length of the file, which is made if it is missing. -/
def openPart (key : SessionKey) (id : AttachmentId) : Attempt ℕ :=
  change key fun now dir choice =>
    if choice.fault ≠ none then (dir, .error .forbidden)
    else
      match (dir.uploads id).dataPart with
      | some payload => (dir, .ok payload.bytes.length)
      | none =>
        (dir.put id { dir.uploads id with dataPart := some ⟨[], now, []⟩ }, .ok 0)

/-- `lseek` and `_write_all`. When a write fails, a prefix of the chunk is in the file. -/
def writeChunk (key : SessionKey) (id : AttachmentId) (offset : ℕ) (chunk : Bytes) :
    Attempt Unit :=
  change key fun now dir choice =>
    match (dir.uploads id).dataPart with
    | none => (dir, .error .raw)
    | some payload =>
      let written := if choice.fault = none then chunk.length else min choice.written chunk.length
      let upload := { dir.uploads id with
        dataPart := some ⟨overwrite payload.bytes offset (chunk.take written), now,
          payload.pieces ++ [⟨chunk, written, false⟩]⟩ }
      (dir.put id upload, if choice.fault = none then .ok () else .error .raw)

/-- The last append has succeeded. -/
def succeedLast (pieces : List Piece) : List Piece :=
  pieces.modifyLast fun piece => { piece with succeeded := true }

/-- `os.fsync`, after which nothing of an append fails. -/
def syncPart (key : SessionKey) (id : AttachmentId) : Attempt Unit :=
  change key fun _ dir choice =>
    if choice.fault ≠ none then (dir, .error .raw)
    else
      let upload := { dir.uploads id with
        dataPart := (dir.uploads id).dataPart.map fun payload =>
          { payload with pieces := succeedLast payload.pieces } }
      (dir.put id upload, .ok ())

/-- What every operation on a pending upload starts with, behind the lock of the session. -/
def loadPending (ref : AttachmentRef) : Attempt Meta := do
  let record ← readOwned host ref
  let record ← recoverFinalized host (host.key ref.session) ref.attachmentId record
  raise (record.finalized = true) .conflict
  return record

/-- What `append_attachment_chunk` does behind the lock. -/
def appendLocked (command : AppendCommand) : Attempt ℕ := do
  let key := host.key command.ref.session
  let id := command.ref.attachmentId
  let record ← loadPending host command.ref
  let current ← openPart key id
  raise (current ≠ command.expectedOffset) .conflict
  raise (record.size < current + command.chunk.length) .tooLarge
  writeChunk key id current command.chunk
  syncPart key id
  return current + command.chunk.length

/-- `append_attachment_chunk`: the received length. -/
def appendAttachmentChunk (command : AppendCommand) : Attempt ℕ := do
  raise (command.chunk = []) .invalidRequest
  fileLock (.session (host.key command.ref.session)) (appendLocked host command)

/-! ### Finish and abort -/

structure FinishCommand where
  ref : AttachmentRef
  expectedSize : ℕ
  expectedMime : Text
  deriving DecidableEq, Repr

/-- `os.replace(part_path, data_path)` -/
def renamePart (key : SessionKey) (id : AttachmentId) : Attempt Unit :=
  change key fun _ dir choice =>
    if choice.fault ≠ none then (dir, .error .unavailable)
    else
      match (dir.uploads id).dataPart with
      | none => (dir, .error .unavailable)
      | some payload =>
        (dir.put id { dir.uploads id with dataPart := none, dataBin := some payload }, .ok ())

/-- What is told about a finalized attachment. -/
structure Finalized where
  ref : AttachmentRef
  size : ℕ
  revision : Text
  deriving DecidableEq, Repr

/-- What `finish_attachment` does behind the lock. -/
def finishLocked (command : FinishCommand) : Attempt Finalized := do
  let key := host.key command.ref.session
  let id := command.ref.attachmentId
  let record ← loadPending host command.ref
  raise (command.expectedSize ≠ record.size) .conflict
  raise (command.expectedMime ≠ record.mime) .conflict
  match ← outcome (readFile key id UploadDir.dataPart) with
  | .error .notFound => throw .conflict
  | .error error => throw error
  | .ok data =>
    raise (data.length ≠ record.size) .conflict
    let verification ← verify host data record.mime
    renamePart key id
    let now ← time
    writeMeta key id (record.finalize verification.1 (host.sha256 data) verification.2 now)
    return ⟨command.ref, record.size, host.sha256 data⟩

/-- `finish_attachment` -/
def finishAttachment (command : FinishCommand) : Attempt Finalized :=
  fileLock (.session (host.key command.ref.session)) (finishLocked host command)

/-- `lstat` of the directory of an attachment. -/
def hasUploadDir (key : SessionKey) (id : AttachmentId) : Attempt Bool :=
  look fun disk choice =>
    if choice.fault ≠ none then .error .unavailable
    else .ok (decide (id ∈ (disk.sessions key).names))

/-- What `abort_attachment` does behind the lock. -/
def abortLocked (ref : AttachmentRef) : Attempt Bool := do
  let key := host.key ref.session
  let id := ref.attachmentId
  let present ← hasUploadDir key id
  if present = false then pure false
  else do
    match ← outcome (readMeta key id) with
    | .error .notFound | .error .unavailable =>
      let finalized ← hasRegularDataFile key id
      if finalized then pure false
      else do
        removeTree key id
        return true
    | .error error => throw error
    | .ok record =>
      checkOwner record ref.session
      let record ← recoverFinalized host key id record
      if record.finalized then pure false
      else do
        removeTree key id
        return true

/-- `abort_attachment`: whether the upload was removed. -/
def abortAttachment (ref : AttachmentRef) : Attempt Bool :=
  fileLock (.session (host.key ref.session)) (abortLocked host ref)

/-! ### Reading -/

/-- What `_load_upload` does behind the lock. -/
def loadLocked (ref : AttachmentRef) : Attempt Meta := do
  let record ← readOwned host ref
  recoverFinalized host (host.key ref.session) ref.attachmentId record

/-- `_load_upload` -/
def loadUpload (ref : AttachmentRef) : Attempt Meta := do
  let record ← readOwned host ref
  if record.finalized then pure record
  else fileLock (.session (host.key ref.session)) (loadLocked host ref)

/-- A finalized payload, as long as it has the size that the metadata gives. -/
def finalizedBytes (ref : AttachmentRef) (record : Meta) : Attempt Bytes := do
  raise (record.finalized = false) .conflict
  let data ← readFile (host.key ref.session) ref.attachmentId UploadDir.dataBin
  raise (data.length ≠ record.size) .conflict
  return data

/-- `AttachmentMetadata` -/
structure AttachmentMetadata where
  ref : AttachmentRef
  size : ℕ
  mime : Text
  revision : Option Text
  displayName : Text
  createdAt : ℕ
  finalized : Bool
  deriving DecidableEq, Repr

def Meta.describe (record : Meta) (ref : AttachmentRef) : AttachmentMetadata where
  ref := ref
  size := record.size
  mime := record.mime
  revision := record.revision
  displayName := record.displayName
  createdAt := record.createdAt
  finalized := record.finalized

/-- `stat_attachment` -/
def statAttachment (ref : AttachmentRef) : Attempt AttachmentMetadata := do
  let record ← loadUpload host ref
  if record.finalized then do
    let _ ← finalizedBytes host ref record
    return record.describe ref
  else pure (record.describe ref)

structure ReadQuery where
  ref : AttachmentRef
  offset : ℕ
  limit : ℕ
  deriving DecidableEq, Repr

structure AttachmentChunk where
  offset : ℕ
  data : Bytes
  nextOffset : ℕ
  eof : Bool
  metadata : AttachmentMetadata
  deriving DecidableEq, Repr

/-- `read_attachment` -/
def readAttachment (query : ReadQuery) : Attempt AttachmentChunk := do
  let record ← loadUpload host query.ref
  let bytes ← finalizedBytes host query.ref record
  raise (bytes.length < query.offset) .invalidRequest
  let data := (bytes.drop query.offset).take query.limit
  return {
    offset := query.offset
    data := data
    nextOffset := query.offset + data.length
    eof := decide (record.size ≤ query.offset + data.length)
    metadata := record.describe query.ref }

/-- The attachments of one submit: their types and bytes. -/
def resolveAll : List AttachmentRef → Attempt (List (Text × Bytes))
  | [] => pure []
  | ref :: refs => do
      let record ← loadUpload host ref
      let data ← finalizedBytes host ref record
      let others ← resolveAll refs
      return (record.mime, data) :: others

/-- `resolve_attachments` -/
def resolveAttachments (refs : List AttachmentRef) : Attempt (List (Text × Bytes)) :=
  if maxAttachmentsPerSubmit < refs.length then throw .quota else resolveAll host refs

/-- Which uploads a sweep visits: those of a session, or of projects in the order listed. -/
inductive SweepScope where
  | session (session : SessionRef)
  | projects (projects : List Text)
  deriving DecidableEq, Repr

/-- `sweep_incomplete` for one session. -/
def sweepSession (session : SessionRef) (now maxEntries : ℕ) : Attempt ℕ := do
  let key := host.key session
  let swept ← fileLock (.project key.project) (fileLock (.session key)
    (sweepSessionLocked host key now maxEntries 0))
  return swept.1

/-- `sweep_incomplete`; the time is given, or read from the clock. -/
def sweepIncomplete (scope : SweepScope) (given : Option ℕ) (maxEntries : ℕ) : Attempt ℕ := do
  raise (maxEntries = 0) .invalidRequest
  let clock ← time
  let now := given.getD clock
  match scope with
  | .session session => sweepSession host session now maxEntries
  | .projects projects => sweepProjects host now maxEntries projects 0 0

/-! ### The store -/

inductive Call where
  | begin (command : BeginCommand)
  | append (command : AppendCommand)
  | finish (command : FinishCommand)
  | abort (ref : AttachmentRef)
  | stat (ref : AttachmentRef)
  | read (query : ReadQuery)
  | resolve (refs : List AttachmentRef)
  | sweep (scope : SweepScope) (now : Option ℕ) (maxEntries : ℕ)
  deriving DecidableEq, Repr

inductive Reply where
  | begun (ref : AttachmentRef)
  | received (bytes : ℕ)
  | finished (finalized : Finalized)
  | aborted (removed : Bool)
  | metadata (metadata : AttachmentMetadata)
  | chunk (chunk : AttachmentChunk)
  | resolved (attachments : List (Text × Bytes))
  | swept (removed : ℕ)
  deriving DecidableEq, Repr

def perform : Call → Attempt Reply
  | .begin command => return .begun (← beginAttachment host command)
  | .append command => return .received (← appendAttachmentChunk host command)
  | .finish command => return .finished (← finishAttachment host command)
  | .abort ref => return .aborted (← abortAttachment host ref)
  | .stat ref => return .metadata (← statAttachment host ref)
  | .read query => return .chunk (← readAttachment host query)
  | .resolve refs => return .resolved (← resolveAttachments host refs)
  | .sweep scope now maxEntries => return .swept (← sweepIncomplete host scope now maxEntries)

/-- The calls of all threads and processes on one disk. -/
abbrev Store := Crew Call Lock Disk Choice (Except AttachmentError Reply)

def Store.machine : Machine Store (CrewStep Call Choice) :=
  Crew.machine fun call => (perform host call).run

end Synapse.Attachments
