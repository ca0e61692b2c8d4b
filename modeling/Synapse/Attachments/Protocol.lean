import Synapse.Attachments.Store

/-!
# The protocol of the attachment store

What every file operation keeps true of the disk, and what the lock of a session protects. A
finalized attachment stays as it is, whatever is done and wherever it stops.

In the strict mode no operation fails, and no worker crashes, while a directory behind its lock
has no metadata. In the calm mode no operation fails at all.
-/

namespace Synapse.Attachments

/-- Which failures are considered, and from what time on a calm mode is. -/
structure Mode where
  strict : Prop
  calm : Prop
  since : ℕ := 0

variable (host : Host) (mode : Mode)

/-! ### The disk -/

/-- The bytes are what the appends have put into the file, one after the other, and an append that
has succeeded has put its whole chunk into it. -/
structure Payload.Exact (payload : Payload) : Prop where
  bytes : payload.bytes = payload.pieces.flatMap Piece.bytes
  whole : ∀ piece ∈ payload.pieces, piece.succeeded = true → piece.written = piece.chunk.length

/-- The size that an attachment has declared. -/
def UploadDir.declared (upload : UploadDir) : ℕ :=
  upload.metaJson.elim 0 fun file => file.record.size

def UploadDir.finalized (upload : UploadDir) : Bool :=
  upload.metaJson.any fun file => file.record.finalized

structure UploadDir.Sound (id : AttachmentId) (upload : UploadDir) : Prop where
  named : ∀ file, upload.metaJson = some file →
    file.record.attachmentId = id ∧ file.record.size ≤ maxAttachmentBytes
  encodes : ∀ file, upload.metaJson = some file → file.record.encodes = true
  described : ∀ payload, upload.dataBin = some payload →
    ∃ file, upload.metaJson = some file ∧ payload.bytes.length = file.record.size
  complete : ∀ file, upload.metaJson = some file → file.record.finalized = true →
    ∃ payload, upload.dataBin = some payload ∧
      file.record.revision = some (host.sha256 payload.bytes)
  part : ∀ payload, upload.dataPart = some payload → payload.Exact
  bin : ∀ payload, upload.dataBin = some payload → payload.Exact

/-- The declared sizes of the attachments of a session. -/
def SessionDir.declared (dir : SessionDir) : ℕ :=
  (dir.names.map fun id => (dir.uploads id).declared).sum

structure SessionDir.Sound (dir : SessionDir) : Prop where
  uploads : ∀ id, (dir.uploads id).Sound host id
  absent : ∀ id, id ∉ dir.names → dir.uploads id = {}
  distinct : dir.names.Nodup
  quota : dir.declared ≤ maxSessionAttachmentBytes

/-- A directory without metadata is in the session. -/
def SessionDir.Open (dir : SessionDir) : Prop :=
  ∃ id ∈ dir.names, (dir.uploads id).metaJson = none

def SessionDir.Tidy (dir : SessionDir) : Prop :=
  mode.strict → ¬dir.Open

structure Mode.Permits (dir : SessionDir) (clock : ℕ) (choice : Choice) : Prop where
  strict : mode.strict → dir.Open → choice.fault = none
  calm : mode.calm → choice.fault = none
  since : mode.calm → mode.since ≤ clock

/-- What is finalized stays as it is. -/
def SessionDir.Kept (before after : SessionDir) : Prop :=
  ∀ id, (before.uploads id).finalized = true →
    (after.uploads id).metaJson = (before.uploads id).metaJson ∧
      (after.uploads id).dataBin = (before.uploads id).dataBin

structure SessionDir.Moves (before after : SessionDir) : Prop where
  sound : before.Sound host → after.Sound host
  kept : before.Kept after

theorem SessionDir.Kept.refl (dir : SessionDir) : dir.Kept dir :=
  fun _ _ => ⟨rfl, rfl⟩

theorem SessionDir.Kept.trans {before middle after : SessionDir} (first : before.Kept middle)
    (second : middle.Kept after) : before.Kept after := by
  intro id finalized
  rcases first id finalized with ⟨record, data⟩
  have still : (middle.uploads id).finalized = true := by
    unfold UploadDir.finalized
    rw [record]
    exact finalized
  rcases second id still with ⟨later, laterData⟩
  exact ⟨later.trans record, laterData.trans data⟩

theorem SessionDir.Kept.file {before after : SessionDir} (kept : before.Kept after)
    {id : AttachmentId} {file : MetaFile} (found : (before.uploads id).metaJson = some file)
    (finalized : file.record.finalized = true) :
    (after.uploads id).metaJson = some file ∧
      (after.uploads id).dataBin = (before.uploads id).dataBin := by
  have done : (before.uploads id).finalized = true := by
    unfold UploadDir.finalized
    rw [found]
    exact finalized
  rw [(kept id done).1, (kept id done).2]
  exact ⟨found, rfl⟩

theorem SessionDir.Moves.refl (dir : SessionDir) : dir.Moves host dir :=
  ⟨id, .refl dir⟩

/-! ### The protocol -/

def protocol : Protocol Lock Disk Choice where
  invariant disk := ∀ key, (disk.sessions key).Sound host
  allows held before after :=
    before.clock ≤ after.clock ∧
      (∀ key, .session key ∉ held → after.sessions key = before.sessions key) ∧
        ∀ key, (before.sessions key).Moves host (after.sessions key)
  permits held disk choice :=
    ∀ key, .session key ∈ held →
      mode.Permits (disk.sessions key) (disk.clock + choice.elapsed) choice
  promise lock disk :=
    match lock with
    | .project _ => True
    | .session key => (disk.sessions key).Tidy mode
  invariant_of_allows holds moves key := (moves.2.2 key).sound (holds key)
  promise_of_allows := by
    intro held before after lock free moves tidy
    cases lock with
    | project key => trivial
    | session key =>
      show (after.sessions key).Tidy mode
      rw [moves.2.1 key free]
      exact tidy

/-- The lock of a session protects its directory. -/
def ownership : (protocol host mode).Ownership SessionDir where
  part lock disk :=
    match lock with
    | .project _ => .empty
    | .session key => disk.sessions key
  part_of_allows := by
    intro held before after lock free moves
    cases lock with
    | project key => rfl
    | session key => exact moves.2.1 key free

/-! ### Behind the lock of a session -/

/-- The steps of a computation on the directory of a session, behind its lock. -/
def Behind {Value : Type} (key : SessionKey) (held : List Lock) (attempt : Attempt Value)
    (post : Except AttachmentError Value → SessionDir → Prop) (dir : SessionDir) : Prop :=
  (protocol host mode).Alone (ownership host mode) (.session key) held post attempt.run dir

variable {host mode} {Value Result : Type} {key : SessionKey} {held : List Lock}
  {dir : SessionDir} {attempt : Attempt Value}
  {post : Except AttachmentError Result → SessionDir → Prop}

/-- What has to hold of a result for the rest of a computation to reach a postcondition. -/
def Behind.Next (host : Host) (mode : Mode) (key : SessionKey) (held : List Lock)
    (next : Value → Attempt Result) (post : Except AttachmentError Result → SessionDir → Prop) :
    Except AttachmentError Value → SessionDir → Prop
  | .ok value, dir => Behind host mode key held (next value) post dir
  | .error error, dir => post (.error error) dir

variable {next : Value → Attempt Result}

theorem Behind.bind
    (head : Behind host mode key held attempt (Behind.Next host mode key held next post) dir) :
    Behind host mode key held (attempt >>= next) post dir := by
  apply Protocol.Alone.bind head
  intro result now inner
  cases result with
  | error error => exact inner
  | ok value => exact inner

theorem behind_pure {value : Result} (holds : post (.ok value) dir) :
    Behind host mode key held (pure value) post dir :=
  holds

theorem behind_throw {error : AttachmentError} (holds : post (.error error) dir) :
    Behind host mode key held (throw error) post dir :=
  holds

theorem Behind.outcome
    {post : Except AttachmentError (Except AttachmentError Value) → SessionDir → Prop}
    (behind : Behind host mode key held attempt (fun result now => post (.ok result) now) dir) :
    Behind host mode key held (outcome attempt) post dir :=
  Protocol.Alone.bind behind fun _ _ holds => holds

variable {action : Disk → Choice → Except AttachmentError Result}

theorem behind_look (own : .session key ∈ held)
    (step : ∀ disk choice, disk.sessions key = dir → dir.Sound host →
      mode.Permits dir disk.clock choice → post (action disk choice) dir) :
    Behind host mode key held (look action) post dir := by
  apply Protocol.alone_atomically
  intro now choice same holds permitted
  have here : now.sessions key = dir := same
  refine ⟨⟨Nat.le_add_right _ _, fun _ _ => rfl, fun other => .refl _ _⟩, ?_⟩
  show post _ (now.sessions key)
  rw [here]
  apply step { now with clock := now.clock + choice.elapsed } choice here
  · rw [← here]
    exact holds key
  · rw [← here]
    exact permitted key own

theorem behind_change
    {action : ℕ → SessionDir → Choice → SessionDir × Except AttachmentError Result}
    (own : .session key ∈ held)
    (step : ∀ now choice, dir.Sound host → mode.Permits dir now choice →
      dir.Moves host (action now dir choice).1 ∧
        post (action now dir choice).2 (action now dir choice).1) :
    Behind host mode key held (change key action) post dir := by
  apply Protocol.alone_atomically
  intro now choice same holds permitted
  have here : now.sessions key = dir := same
  have sound : dir.Sound host := by
    rw [← here]
    exact holds key
  have fine := step (now.clock + choice.elapsed) choice sound (here ▸ permitted key own)
  simp only [here]
  refine ⟨⟨Nat.le_add_right _ _, fun other free => ?_, fun other => ?_⟩, ?_⟩
  · have apart : other ≠ key := by
      rintro rfl
      exact free own
    exact Function.update_of_ne apart _ _
  · by_cases same : other = key
    · subst same
      show (now.sessions other).Moves host (Function.update now.sessions other _ other)
      rw [Function.update_self, here]
      exact fine.1
    · show (now.sessions other).Moves host (Function.update now.sessions key _ other)
      rw [Function.update_of_ne same]
      exact .refl _ _
  · show post _ (Function.update now.sessions key _ key)
    rw [Function.update_self]
    exact fine.2

/-! ### Between the locks -/

def Disk.Kept (before after : Disk) : Prop :=
  ∀ key, (before.sessions key).Kept (after.sessions key)

theorem Disk.Kept.refl (disk : Disk) : disk.Kept disk :=
  fun key => .refl (disk.sessions key)

theorem Disk.Kept.trans {before middle after : Disk} (first : before.Kept middle)
    (second : middle.Kept after) : before.Kept after :=
  fun key => (first key).trans (second key)

theorem respected_kept : (protocol host mode).Respected Disk.Kept where
  refl := Disk.Kept.refl
  trans := Disk.Kept.trans
  step moves key := (moves.2.2 key).kept

/-- A fact that holds on for as long as finalized attachments stay as they are. -/
def Lasting (fact : Disk → Prop) : Prop :=
  ∀ before after, before.Kept after → fact before → fact after

variable (host mode)

/-- A computation that keeps the protocol, whatever the others do. -/
def Runs (held : List Lock) (attempt : Attempt Value)
    (post : Except AttachmentError Value → Disk → Prop) (disk : Disk) : Prop :=
  (protocol host mode).Safe (fun now result disk => now = held ∧ post result disk) held attempt.run
    disk

variable {host mode} {disk : Disk} {done : Except AttachmentError Result → Disk → Prop}

theorem Runs.mono {post weaker : Except AttachmentError Value → Disk → Prop}
    (runs : Runs host mode held attempt post disk)
    (widens : ∀ result now, disk.Kept now → post result now → weaker result now) :
    Runs host mode held attempt weaker disk := by
  apply (Protocol.Safe.related respected_kept runs (Disk.Kept.refl disk)).mono
  rintro locks result now ⟨⟨same, holds⟩, kept⟩
  exact ⟨same, widens result now kept holds⟩

theorem Runs.bind (middle : Except AttachmentError Value → Disk → Prop)
    (head : Runs host mode held attempt middle disk)
    (fails : ∀ error now, disk.Kept now → middle (.error error) now →
      ∀ after, now.Kept after → done (.error error) after)
    (tail : ∀ value now, disk.Kept now → middle (.ok value) now →
      Runs host mode held (next value) done now) :
    Runs host mode held (attempt >>= next) done disk := by
  apply Protocol.Safe.bind
  apply (Protocol.Safe.related respected_kept head (Disk.Kept.refl disk)).mono
  rintro locks result now ⟨⟨rfl, inner⟩, kept⟩
  cases result with
  | error error =>
    intro after others
    exact ⟨rfl, fails error now kept inner after (respected_kept.others others)⟩
  | ok value => exact tail value now kept inner

theorem runs_pure {value : Result} (lasting : Lasting (done (.ok value)))
    (holds : done (.ok value) disk) : Runs host mode held (pure value) done disk :=
  fun now others => ⟨rfl, lasting disk now (respected_kept.others others) holds⟩

theorem runs_throw {error : AttachmentError} (lasting : Lasting (done (.error error)))
    (holds : done (.error error) disk) : Runs host mode held (throw error) done disk :=
  fun now others => ⟨rfl, lasting disk now (respected_kept.others others) holds⟩

theorem Runs.outcome {middle : Except AttachmentError Value → Disk → Prop}
    (runs : Runs host mode held attempt middle disk)
    {post : Except AttachmentError (Except AttachmentError Value) → Disk → Prop}
    (holds : ∀ result now, disk.Kept now → middle result now →
      ∀ after, now.Kept after → post (.ok result) after) :
    Runs host mode held (outcome attempt) post disk := by
  apply Protocol.Safe.bind
  apply (Protocol.Safe.related respected_kept runs (Disk.Kept.refl disk)).mono
  rintro locks result now ⟨⟨rfl, inner⟩, kept⟩
  intro after others
  exact ⟨rfl, holds result now kept inner after (respected_kept.others others)⟩

theorem runs_look (lasting : ∀ result, Lasting (done result))
    (step : ∀ now choice, disk.Kept now → (∀ key, (now.sessions key).Sound host) →
      done (action now choice) now) :
    Runs host mode held (look action) done disk := by
  apply Protocol.safe_atomically
  intro now choice others holds permitted
  refine ⟨⟨Nat.le_add_right _ _, fun _ _ => rfl, fun other => .refl _ _⟩, fun after more => ⟨rfl, ?_⟩⟩
  have kept : disk.Kept now := respected_kept.others others
  apply lasting _ _ after (respected_kept.others more)
  exact step { now with clock := now.clock + choice.elapsed } choice kept holds

variable {body : Attempt Result}

theorem runs_fileLock {lock : Lock} (lasting : ∀ result, Lasting (done result))
    (busy : ∀ error now, disk.Kept now → done (.error error) now)
    (enters : ∀ now, disk.Kept now →
      (protocol host mode).Safe (fun locks result now => locks = held ∧ done result now) held
        (Routine.holding lock body.run) now) :
    Runs host mode held (fileLock lock body) done disk := by
  apply Runs.bind fun result now => ∀ error, result = .error error → done (.error error) now
  · apply runs_look
    · intro result before after kept holds error same
      exact lasting _ before after kept (holds error same)
    · intro now choice kept _ error _
      exact busy error now kept
  · intro error now kept holds after more
    exact lasting _ now after more (holds error rfl)
  · intro _ now kept _
    exact enters now kept

/-- A computation behind the lock of a project, which protects no directory. -/
theorem runs_project {project : Text} (lasting : ∀ result, Lasting (done result))
    (busy : ∀ error now, disk.Kept now → done (.error error) now)
    (enters : ∀ now, disk.Kept now → Runs host mode (.project project :: held) body done now) :
    Runs host mode held (fileLock (.project project) body) done disk := by
  apply runs_fileLock lasting busy
  intro entering kept now others holds promised
  apply Protocol.Safe.bind
  have kept' : disk.Kept now := kept.trans (respected_kept.others others)
  apply Protocol.Safe.mono (enters now kept')
  rintro locks result before ⟨rfl, inner⟩ after more
  have later := lasting result before after (respected_kept.others more) inner
  refine ⟨trivial, held, rfl, fun last rest => ⟨rfl, ?_⟩⟩
  exact lasting result after last (respected_kept.others rest) later

theorem runs_session (inside : Except AttachmentError Result → SessionDir → Prop)
    (lasting : ∀ result, Lasting (done result))
    (busy : ∀ error now, disk.Kept now → done (.error error) now)
    (enters : ∀ dir, dir.Sound host → dir.Tidy mode →
      Behind host mode key (.session key :: held) body inside dir)
    (tidy : ∀ result dir, inside result dir → dir.Tidy mode)
    (leaves : ∀ result now, inside result (now.sessions key) → done result now) :
    Runs host mode held (fileLock (.session key) body) done disk := by
  apply runs_fileLock lasting busy
  intro entering kept
  apply Protocol.safe_holding (ownership host mode) inside
  · exact fun result now inner => tidy result _ inner
  · exact fun now others holds promised => enters (now.sessions key) (holds key) promised
  · intro result now inner after more
    exact ⟨rfl, lasting result now after (respected_kept.others more) (leaves result now inner)⟩

end Synapse.Attachments
