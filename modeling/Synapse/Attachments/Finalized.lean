import Synapse.Attachments.Sections

/-!
# Finalized attachments

Whatever threads and processes do, whatever fails and whoever crashes: what has been told about a
finalized attachment is true, and stays so.
-/

namespace Synapse.Attachments

variable {host : Host} {mode : Mode} {held : List Lock} {disk : Disk}

/-! ### What is told -/

/-- The disk holds a finalized attachment of this size and with this revision and these bytes. -/
structure Stored (host : Host) (disk : Disk) (ref : AttachmentRef) (size : ℕ) (revision : Text)
    (bytes : Bytes) : Prop where
  record : ∃ file, ((disk.sessions (host.key ref.session)).uploads ref.attachmentId).metaJson = some file ∧
    file.record.finalized = true ∧ file.record.Owned ref ∧ file.record.size = size ∧
      file.record.revision = some revision
  payload : ∃ payload,
    ((disk.sessions (host.key ref.session)).uploads ref.attachmentId).dataBin = some payload ∧
      payload.bytes = bytes ∧ payload.Exact
  size : bytes.length = size
  revision : revision = host.sha256 bytes

/-- The metadata that a call has returned, if they are finalized, are those of the disk. -/
def Described (host : Host) (metadata : AttachmentMetadata) (bytes : Bytes) (disk : Disk) : Prop :=
  ∃ revision, metadata.revision = some revision ∧
    Stored host disk metadata.ref metadata.size revision bytes

/-- What a reply tells about finalized attachments. -/
def Reports (host : Host) (call : Call) : Except AttachmentError Reply → Disk → Prop
  | .ok (.finished finalized), disk =>
    ∃ bytes, Stored host disk finalized.ref finalized.size finalized.revision bytes
  | .ok (.metadata metadata), disk =>
    metadata.finalized = true → ∃ bytes, Described host metadata bytes disk
  | .ok (.chunk chunk), disk =>
    ∃ bytes, Described host chunk.metadata bytes disk ∧
      chunk.data <+: bytes.drop chunk.offset
  | .ok (.resolved attachments), disk =>
    match call with
    | .resolve refs => List.Forall₂ (fun ref attachment =>
      ∃ size revision, Stored host disk ref size revision attachment.2) refs attachments
    | _ => True
  | _, _ => True

variable {ref : AttachmentRef} {bytes : Bytes}

theorem Stored.later {before after : Disk} {size : ℕ} {revision : Text}
    (stored : Stored host before ref size revision bytes) (kept : before.Kept after) :
    Stored host after ref size revision bytes := by
  rcases stored with ⟨⟨file, found, finalized, rest⟩, ⟨payload, present, more⟩, length, digest⟩
  rcases (kept (host.key ref.session)).file found finalized with ⟨record, data⟩
  exact ⟨⟨file, record, finalized, rest⟩, ⟨payload, data.trans present, more⟩, length, digest⟩

theorem Described.later {before after : Disk} {metadata : AttachmentMetadata}
    (described : Described host metadata bytes before) (kept : before.Kept after) :
    Described host metadata bytes after := by
  rcases described with ⟨revision, same, stored⟩
  exact ⟨revision, same, stored.later kept⟩

theorem Reports.lasting (call : Call) (result : Except AttachmentError Reply) :
    Lasting (Reports host call result) := by
  intro before after kept holds
  match result, holds with
  | .error _, _ => trivial
  | .ok (.begun _), _ | .ok (.received _), _ | .ok (.aborted _), _ | .ok (.swept _), _ => trivial
  | .ok (.finished _), ⟨bytes, stored⟩ => exact ⟨bytes, stored.later kept⟩
  | .ok (.metadata _), holds =>
    intro finalized
    rcases holds finalized with ⟨bytes, described⟩
    exact ⟨bytes, described.later kept⟩
  | .ok (.chunk _), ⟨bytes, described, same⟩ => exact ⟨bytes, described.later kept, same⟩
  | .ok (.resolved _), holds =>
    cases call with
    | resolve refs =>
      apply List.Forall₂.imp _ holds
      rintro ref attachment ⟨size, revision, stored⟩
      exact ⟨size, revision, stored.later kept⟩
    | begin _ | append _ | finish _ | abort _ | stat _ | read _ | sweep _ _ _ => trivial

/-! ### Between the locks -/

section

variable {Value Result : Type}

/-- A computation that keeps the protocol, and that nothing is said about. -/
theorem Runs.then {attempt : Attempt Value} {next : Value → Attempt Result}
    {post : Except AttachmentError Result → Disk → Prop}
    (head : Runs host mode held attempt (fun _ _ => True) disk)
    (fails : ∀ error now, post (.error error) now)
    (tail : ∀ value now, disk.Kept now → Runs host mode held (next value) post now) :
    Runs host mode held (attempt >>= next) post disk :=
  Runs.bind _ head (fun error _ _ _ after _ => fails error after) fun value now kept _ =>
    tail value now kept

theorem lasting_true : Lasting fun _ : Disk => True :=
  fun _ _ _ _ => trivial

theorem runs_raise {condition : Prop} [Decidable condition] {error : AttachmentError} :
    Runs host mode held (raise condition error) (fun result _ => result = .ok () → ¬condition)
      disk := by
  unfold raise
  split
  · exact runs_throw (fun _ _ _ _ => nofun) nofun
  · rename_i refuted
    exact runs_pure (fun _ _ _ _ _ => refuted) fun _ => refuted

theorem runs_watch {action : Disk → Choice → Except AttachmentError Value} :
    Runs host mode held (look action) (fun _ _ => True) disk :=
  runs_look (fun _ => lasting_true) fun _ _ _ _ => trivial

end

theorem runs_makeSessionDir (key : SessionKey) :
    Runs host mode held (makeSessionDir key) (fun _ _ => True) disk := by
  apply Protocol.safe_atomically
  intro now choice others holds permitted
  refine ⟨?_, fun after more => ⟨rfl, trivial⟩⟩
  simp only
  split
  · exact ⟨Nat.le_add_right _ _, fun _ _ => rfl, fun other => .refl _ _⟩
  · split
    · exact ⟨Nat.le_add_right _ _, fun _ _ => rfl, fun other => .refl _ _⟩
    · exact ⟨Nat.le_add_right _ _, fun _ _ => rfl, fun other => .refl _ _⟩

/-! ### Sweep -/

variable {maxEntries : ℕ}

theorem runs_sweepSessionLocked {key : SessionKey} {now scanned : ℕ} :
    Runs host mode held (fileLock (.session key) (sweepSessionLocked host key now maxEntries scanned))
      (fun _ _ => True) disk := by
  apply runs_session (fun _ dir => dir.Tidy mode) (fun _ => lasting_true) (fun _ _ _ => trivial)
  · intro dir _ tidy
    apply behind_sweepSessionLocked List.mem_cons_self tidy
    · exact fun _ _ tidy _ => tidy
    · exact fun _ _ tidy _ => tidy
  · exact fun _ _ tidy => tidy
  · exact fun _ _ _ => trivial

theorem runs_sweepSessions {project : Text} {now : ℕ} {sessions : List Text} {removed scanned : ℕ} :
    Runs host mode held (sweepSessions host project now maxEntries sessions removed scanned)
      (fun _ _ => True) disk := by
  induction sessions generalizing disk removed scanned with
  | nil => exact runs_pure lasting_true trivial
  | cons session rest ih =>
    unfold sweepSessions
    split
    · exact runs_pure lasting_true trivial
    · apply Runs.then
      · exact Runs.outcome runs_sweepSessionLocked fun _ _ _ _ _ _ => trivial
      · exact fun _ _ => trivial
      · intro result later _
        cases result with
        | ok swept => exact ih
        | error error =>
          cases error with
          | conflict => exact ih
          | notFound | tooLarge | quota | unsafeImage | forbidden | unavailable | invalidRequest
          | raw => exact runs_throw lasting_true trivial

theorem runs_sweepProjects {now : ℕ} {projects : List Text} {removed scanned : ℕ} :
    Runs host mode held (sweepProjects host now maxEntries projects removed scanned)
      (fun _ _ => True) disk := by
  induction projects generalizing disk removed scanned with
  | nil => exact runs_pure lasting_true trivial
  | cons project rest ih =>
    unfold sweepProjects
    split
    · exact runs_pure lasting_true trivial
    · apply Runs.then
      · apply runs_project (fun _ => lasting_true) (fun _ _ _ => trivial)
        intro later _
        exact Runs.then runs_watch (fun _ _ => trivial) fun _ _ _ => runs_sweepSessions
      · exact fun _ _ => trivial
      · exact fun _ _ _ => ih

theorem runs_sweepIncomplete {scope : SweepScope} {given : Option ℕ} :
    Runs host mode held (sweepIncomplete host scope given maxEntries) (fun _ _ => True) disk := by
  unfold sweepIncomplete
  apply Runs.then (runs_raise.mono fun _ _ _ _ => trivial) (fun _ _ => trivial)
  intro _ later _
  apply Runs.then runs_watch (fun _ _ => trivial)
  intro clock now _
  cases scope with
  | session session =>
    unfold sweepSession
    apply Runs.then
    · apply runs_project (fun _ => lasting_true) (fun _ _ _ => trivial)
      exact fun _ _ => runs_sweepSessionLocked
    · exact fun _ _ => trivial
    · exact fun _ _ _ => runs_pure lasting_true trivial
  | projects projects => exact runs_sweepProjects

/-! ### Writing -/

/-- The ids of the session of a begin can be encoded, where its directory is not to be left open. -/
def Admits (mode : Mode) : Call → Prop
  | .begin command => mode.strict ∨ mode.calm → ∀ id now, (command.record id now).encodes = true
  | _ => True

theorem runs_beginAttachment {command : BeginCommand} (admits : Admits mode (.begin command)) :
    Runs host mode held (beginAttachment host command) (fun _ _ => True) disk := by
  unfold beginAttachment
  apply Runs.bind _ runs_raise
  · exact fun _ _ _ _ _ _ => trivial
  · intro _ checked _ valid
    have size : command.size ≤ maxAttachmentBytes := by
      have fine := valid rfl
      omega
    apply Runs.then (runs_makeSessionDir _) (fun _ _ => trivial)
    intro _ made _
    apply Runs.then
    · apply runs_project (fun _ => lasting_true) (fun _ _ _ => trivial)
      intro locked _
      apply runs_session (fun _ dir => dir.Tidy mode) (fun _ => lasting_true) (fun _ _ _ => trivial)
      · intro dir _ tidy
        apply behind_beginLocked List.mem_cons_self tidy size admits
        · exact fun _ _ tidy _ => tidy
        · exact fun _ _ tidy _ => tidy
      · exact fun _ _ tidy => tidy
      · exact fun _ _ _ => trivial
    · exact fun _ _ => trivial
    · exact fun _ _ _ => runs_pure lasting_true trivial

theorem runs_appendAttachmentChunk {command : AppendCommand} :
    Runs host mode held (appendAttachmentChunk host command) (fun _ _ => True) disk := by
  unfold appendAttachmentChunk
  apply Runs.then (runs_raise.mono fun _ _ _ _ => trivial) (fun _ _ => trivial)
  intro _ checked _
  apply runs_session (fun _ dir => dir.Tidy mode) (fun _ => lasting_true) (fun _ _ _ => trivial)
  · intro dir _ tidy
    apply behind_appendLocked List.mem_cons_self tidy
    · exact fun _ _ tidy => tidy
    · exact fun _ _ _ tidy _ _ => tidy
  · exact fun _ _ tidy => tidy
  · exact fun _ _ _ => trivial

theorem runs_abortAttachment :
    Runs host mode held (abortAttachment host ref) (fun _ _ => True) disk := by
  unfold abortAttachment
  apply runs_session (fun _ dir => dir.Tidy mode) (fun _ => lasting_true) (fun _ _ _ => trivial)
  · intro dir _ tidy
    apply behind_abortLocked List.mem_cons_self tidy
    exact fun _ _ tidy => tidy
  · exact fun _ _ tidy => tidy
  · exact fun _ _ _ => trivial

/-- What the directory holds for a finalized record is stored. -/
theorem Holds.stored {record : Meta} (sound : (disk.sessions (host.key ref.session)).Sound host)
    (holds : Holds (disk.sessions (host.key ref.session)) ref record bytes) :
    ∃ revision, record.revision = some revision ∧
      Stored host disk ref record.size revision bytes := by
  rcases holds with ⟨⟨file, found, rfl⟩, finalized, owned, payload, present, rfl⟩
  have upload := sound.uploads ref.attachmentId
  rcases upload.complete file found finalized with ⟨other, again, revision⟩
  cases present.symm.trans again
  rcases upload.described payload present with ⟨described, twice, size⟩
  cases found.symm.trans twice
  exact ⟨_, revision, ⟨file, found, finalized, owned, rfl, revision⟩,
    ⟨payload, present, rfl, upload.bin payload present⟩, size, rfl⟩

theorem runs_finishAttachment {command : FinishCommand} :
    Runs host mode held (finishAttachment host command) (fun result disk =>
      ∀ finalized, result = .ok finalized →
        ∃ bytes, Stored host disk finalized.ref finalized.size finalized.revision bytes) disk := by
  unfold finishAttachment
  apply runs_session (fun result dir => dir.Tidy mode ∧
    ∀ finalized, result = .ok finalized → dir.Sound host ∧ ∃ record bytes,
      Holds dir command.ref record bytes ∧ record.revision = some (host.sha256 bytes) ∧
        finalized = ⟨command.ref, record.size, host.sha256 bytes⟩)
  · intro result before after kept holds finalized same
    rcases holds finalized same with ⟨bytes, stored⟩
    exact ⟨bytes, stored.later kept⟩
  · exact fun _ _ _ => nofun
  · intro dir _ tidy
    apply behind_finishLocked List.mem_cons_self tidy
    · exact fun _ _ tidy => ⟨tidy, nofun⟩
    · intro after record bytes sound tidy holds revision
      refine ⟨tidy, fun finalized same => ?_⟩
      cases same
      exact ⟨sound, record, bytes, holds, revision, rfl⟩
  · exact fun _ _ inner => inner.1
  · rintro result now ⟨_, known⟩ finalized same
    rcases known finalized same with ⟨sound, record, bytes, holds, revision, rfl⟩
    rcases holds.stored sound with ⟨other, again, stored⟩
    cases revision.symm.trans again
    exact ⟨bytes, stored⟩

/-! ### Reading -/

theorem Known.lasting {ref : AttachmentRef} {record : Meta} :
    Lasting fun disk => Known ref record (disk.sessions (host.key ref.session)) := by
  rintro before after kept ⟨owned, found⟩
  refine ⟨owned, fun finalized => ?_⟩
  rcases found finalized with ⟨file, present, rfl⟩
  exact ⟨file, ((kept (host.key ref.session)).file present finalized).1, rfl⟩

theorem runs_readOwned :
    Runs host mode held (readOwned host ref) (fun result disk => ∀ record, result = .ok record →
      Known ref record (disk.sessions (host.key ref.session))) disk := by
  have lasting : ∀ result : Except AttachmentError Meta, Lasting fun disk : Disk =>
      ∀ record, result = .ok record → Known ref record (disk.sessions (host.key ref.session)) :=
    fun result before after kept known record same =>
      Known.lasting before after kept (known record same)
  unfold readOwned
  apply Runs.bind fun result disk => ∀ record, result = .ok record → record.finalized = true →
    ∃ file, ((disk.sessions (host.key ref.session)).uploads ref.attachmentId).metaJson = some file ∧
      file.record = record
  · apply runs_look
    · intro result before after kept known record same finalized
      rcases known record same finalized with ⟨file, present, rfl⟩
      exact ⟨file, ((kept (host.key ref.session)).file present finalized).1, rfl⟩
    · intro now choice _ _ record same _
      split at same
      · cases same
      · cases same
      · split at same
        · rename_i file present
          cases same
          exact ⟨file, present, rfl⟩
        · cases same
  · exact fun _ _ _ _ _ _ => nofun
  · intro record read _ found
    apply Runs.bind _ runs_raise
    · exact fun _ _ _ _ _ _ => nofun
    · intro _ owned keptOwned mine
      apply Runs.bind _ runs_raise
      · exact fun _ _ _ _ _ _ => nofun
      · intro _ named keptNamed same
        have owner := mine rfl
        rw [not_or, not_not, not_not] at owner
        apply runs_pure (lasting _)
        intro other same
        cases same
        refine ⟨⟨owner.1, owner.2, not_not.mp (same rfl)⟩, fun finalized => ?_⟩
        rcases found record rfl finalized with ⟨file, present, rfl⟩
        exact ⟨file, (((keptOwned.trans keptNamed) (host.key ref.session)).file present finalized).1,
          rfl⟩

theorem runs_loadUpload :
    Runs host mode held (loadUpload host ref) (fun result disk => ∀ record, result = .ok record →
      Known ref record (disk.sessions (host.key ref.session))) disk := by
  have lasting : ∀ result : Except AttachmentError Meta, Lasting fun disk : Disk =>
      ∀ record, result = .ok record → Known ref record (disk.sessions (host.key ref.session)) :=
    fun result before after kept known record same =>
      Known.lasting before after kept (known record same)
  unfold loadUpload
  apply Runs.bind _ runs_readOwned
  · exact fun _ _ _ _ _ _ => nofun
  · intro record read _ known
    split
    · apply runs_pure (lasting _)
      intro other same
      cases same
      exact known record rfl
    · apply runs_session (fun result dir => dir.Tidy mode ∧ ∀ record, result = .ok record →
        Known ref record dir) lasting
      · exact fun _ _ _ => nofun
      · intro dir _ tidy
        apply behind_loadLocked List.mem_cons_self tidy
        · exact fun _ _ tidy => ⟨tidy, nofun⟩
        · intro loaded after tidy known
          refine ⟨tidy, fun other same => ?_⟩
          cases same
          exact known
      · exact fun _ _ inner => inner.1
      · exact fun _ _ inner => inner.2

/-- The payload behind metadata that are known to be finalized. -/
theorem runs_finalizedBytes {record : Meta}
    (known : Known ref record (disk.sessions (host.key ref.session))) :
    Runs host mode held (finalizedBytes host ref record) (fun result disk => ∀ bytes,
      result = .ok bytes → record.finalized = true ∧ ∃ revision, record.revision = some revision ∧
        Stored host disk ref record.size revision bytes) disk := by
  have lasting : ∀ result : Except AttachmentError Bytes, Lasting fun disk : Disk => ∀ bytes,
      result = .ok bytes → record.finalized = true ∧ ∃ revision, record.revision = some revision ∧
        Stored host disk ref record.size revision bytes := by
    intro result before after kept holds bytes same
    rcases holds bytes same with ⟨finalized, revision, told, stored⟩
    exact ⟨finalized, revision, told, stored.later kept⟩
  unfold finalizedBytes
  apply Runs.bind _ runs_raise
  · exact fun _ _ _ _ _ _ => nofun
  · intro _ checked keptChecked done
    have finalized : record.finalized = true := Bool.eq_true_of_not_eq_false (done rfl)
    apply Runs.bind _ (runs_look lasting _)
    · exact fun _ _ _ _ _ _ => nofun
    · intro data read _ stored
      apply Runs.bind _ runs_raise
      · exact fun _ _ _ _ _ _ => nofun
      · intro _ last keptLast _
        apply runs_pure (lasting _)
        intro other same
        cases same
        rcases stored data rfl with ⟨_, revision, told, stored⟩
        exact ⟨finalized, revision, told, stored.later keptLast⟩
    · intro now choice kept sound bytes same
      have here := Known.lasting checked now kept (Known.lasting disk checked keptChecked known)
      rcases here with ⟨owned, present⟩
      rcases present finalized with ⟨file, found, rfl⟩
      refine ⟨finalized, ?_⟩
      split at same
      · cases same
      · cases same
      · split at same
        · rename_i payload complete
          cases same
          exact Holds.stored (sound _) ⟨⟨file, found, rfl⟩, finalized, owned, payload, complete, rfl⟩
        · cases same

theorem runs_statAttachment :
    Runs host mode held (statAttachment host ref) (fun result disk => ∀ metadata,
      result = .ok metadata → metadata.finalized = true →
        ∃ bytes, Described host metadata bytes disk) disk := by
  unfold statAttachment
  apply Runs.bind _ runs_loadUpload
  · exact fun _ _ _ _ _ _ => nofun
  · intro record loaded _ known
    have lasting : ∀ result : Except AttachmentError AttachmentMetadata, Lasting fun disk : Disk =>
        ∀ metadata, result = .ok metadata → metadata.finalized = true →
          ∃ bytes, Described host metadata bytes disk := by
      intro result before after kept holds metadata same finalized
      rcases holds metadata same finalized with ⟨bytes, described⟩
      exact ⟨bytes, described.later kept⟩
    split
    · apply Runs.bind _ (runs_finalizedBytes (known record rfl))
      · exact fun _ _ _ _ _ _ => nofun
      · intro bytes read _ stored
        apply runs_pure (lasting _)
        intro metadata same _
        cases same
        rcases stored bytes rfl with ⟨_, revision, told, stored⟩
        exact ⟨bytes, revision, told, stored⟩
    · rename_i pending
      apply runs_pure (lasting _)
      intro metadata same finalized
      cases same
      exact absurd finalized pending

theorem runs_readAttachment {query : ReadQuery} :
    Runs host mode held (readAttachment host query) (fun result disk => ∀ chunk,
      result = .ok chunk → ∃ bytes, Described host chunk.metadata bytes disk ∧
        chunk.data <+: bytes.drop chunk.offset) disk := by
  unfold readAttachment
  apply Runs.bind _ runs_loadUpload
  · exact fun _ _ _ _ _ _ => nofun
  · intro record loaded _ known
    apply Runs.bind _ (runs_finalizedBytes (known record rfl))
    · exact fun _ _ _ _ _ _ => nofun
    · intro bytes read _ stored
      apply Runs.bind _ runs_raise
      · exact fun _ _ _ _ _ _ => nofun
      · intro _ checked kept _
        apply runs_pure
        · intro before after kept holds chunk same
          rcases holds chunk same with ⟨bytes, described, part⟩
          exact ⟨bytes, described.later kept, part⟩
        · intro chunk same
          cases same
          rcases stored bytes rfl with ⟨_, revision, told, stored⟩
          exact ⟨bytes, ⟨revision, told, stored.later kept⟩, List.take_prefix _ _⟩

theorem runs_resolveAll {refs : List AttachmentRef} :
    Runs host mode held (resolveAll host refs) (fun result disk => ∀ attachments,
      result = .ok attachments → List.Forall₂ (fun ref attachment =>
        ∃ size revision, Stored host disk ref size revision attachment.2) refs attachments) disk := by
  have lasting : ∀ (refs : List AttachmentRef)
      (result : Except AttachmentError (List (Text × Bytes))), Lasting fun disk : Disk =>
        ∀ attachments, result = .ok attachments → List.Forall₂ (fun ref attachment =>
          ∃ size revision, Stored host disk ref size revision attachment.2) refs attachments := by
    intro refs result before after kept holds attachments same
    apply List.Forall₂.imp _ (holds attachments same)
    rintro ref attachment ⟨size, revision, stored⟩
    exact ⟨size, revision, stored.later kept⟩
  induction refs generalizing disk with
  | nil =>
    apply runs_pure (lasting [] _)
    intro attachments same
    cases same
    exact .nil
  | cons ref refs ih =>
    unfold resolveAll
    apply Runs.bind _ runs_loadUpload
    · exact fun _ _ _ _ _ _ => nofun
    · intro record loaded _ known
      apply Runs.bind _ (runs_finalizedBytes (known record rfl))
      · exact fun _ _ _ _ _ _ => nofun
      · intro bytes read _ stored
        apply Runs.bind _ ih
        · exact fun _ _ _ _ _ _ => nofun
        · intro others resolved kept rest
          apply runs_pure (lasting (ref :: refs) _)
          intro attachments same
          cases same
          rcases stored bytes rfl with ⟨_, revision, told, stored⟩
          exact .cons ⟨record.size, revision, stored.later kept⟩ (rest others rfl)

/-! ### Every run -/

/-- Every call keeps the protocol, and what it returns is true. -/
theorem runs_perform {call : Call} (admits : Admits mode call) :
    Runs host mode [] (perform host call) (Reports host call) disk := by
  have lasting := @Reports.lasting host call
  cases call with
  | begin command =>
    apply Runs.then (runs_beginAttachment admits) (fun _ _ => trivial)
    exact fun _ _ _ => runs_pure (lasting _) trivial
  | append command =>
    apply Runs.then runs_appendAttachmentChunk (fun _ _ => trivial)
    exact fun _ _ _ => runs_pure (lasting _) trivial
  | finish command =>
    apply Runs.bind _ runs_finishAttachment
    · exact fun _ _ _ _ _ _ => trivial
    · exact fun finalized _ _ stored => runs_pure (lasting _) (stored finalized rfl)
  | abort ref =>
    apply Runs.then runs_abortAttachment (fun _ _ => trivial)
    exact fun _ _ _ => runs_pure (lasting _) trivial
  | stat ref =>
    apply Runs.bind _ runs_statAttachment
    · exact fun _ _ _ _ _ _ => trivial
    · exact fun metadata _ _ described => runs_pure (lasting _) (described metadata rfl)
  | read query =>
    apply Runs.bind _ runs_readAttachment
    · exact fun _ _ _ _ _ _ => trivial
    · exact fun chunk _ _ described => runs_pure (lasting _) (described chunk rfl)
  | resolve refs =>
    have resolves : Runs host mode [] (resolveAttachments host refs) (fun result disk =>
        ∀ attachments, result = .ok attachments → List.Forall₂ (fun ref attachment =>
          ∃ size revision, Stored host disk ref size revision attachment.2) refs attachments)
        disk := by
      unfold resolveAttachments
      split
      · exact runs_throw (fun _ _ _ _ => nofun) nofun
      · exact runs_resolveAll
    apply Runs.bind _ resolves
    · exact fun _ _ _ _ _ _ => trivial
    · exact fun attachments _ _ stored => runs_pure (lasting _) (stored attachments rfl)
  | sweep scope given maxEntries =>
    apply Runs.then runs_sweepIncomplete (fun _ _ => trivial)
    exact fun _ _ _ => runs_pure (lasting _) trivial

theorem sound_empty (key : SessionKey) : (Disk.empty.sessions key).Sound host :=
  ⟨fun _ => ⟨nofun, nofun, nofun, nofun, nofun, nofun⟩, fun _ _ => rfl, List.nodup_nil,
    Nat.zero_le _⟩

variable {labels : List (CrewStep Call Choice)}

theorem store_sound {store : Store}
    (guarded : (Store.machine host).Guarded (Crew.Guard (protocol host mode) (Admits mode))
      (Crew.start Disk.empty) labels)
    (ran : (Store.machine host).run (Crew.start Disk.empty) labels = some store) :
    store.Sound (protocol host mode) (Reports host) := by
  apply Crew.sound_run _ _ _ _ guarded ran
  · exact sound_empty
  · rintro (project | key)
    · trivial
    · rintro _ ⟨id, inside, _⟩
      cases inside
  · exact fun call disk admits _ => runs_perform admits
  · intro call result held before after _ moves holds
    exact Reports.lasting call result before after (respected_kept.step moves) holds

/-- Any operation may fail, and any worker may crash. -/
def lax : Mode := ⟨False, False, 0⟩

theorem guarded_lax (store : Store) :
    (Store.machine host).Guarded (Crew.Guard (protocol host lax) (Admits lax)) store labels := by
  induction labels generalizing store with
  | nil => trivial
  | cons label labels ih =>
    refine ⟨?_, fun next _ => ih next⟩
    cases label with
    | call call =>
      cases call with
      | begin command => exact fun either => either.elim False.elim False.elim
      | append _ | finish _ | abort _ | stat _ | read _ | resolve _ | sweep _ _ _ => trivial
    | advance index choice => exact fun _ _ _ _ => ⟨False.elim, False.elim, False.elim⟩
    | crash index =>
      rintro worker _ (project | key) _
      · trivial
      · exact False.elim

def smallHost : Host where
  projectKey := fun id => id
  sessionKey := fun id => id
  sha256 := fun bytes => bytes.map fun byte => Fin.ofNat 0x110000 byte.toNat
  validateImagePayload := fun _ mime => .ok (mime, Text.ofString "structure")
  incompleteTtl := 3600

def smallSession : SessionRef := ⟨Text.ofString "p", Text.ofString "t"⟩

def smallRef : AttachmentRef := ⟨smallSession, 0⟩

def steps (count : ℕ) : List (CrewStep Call Choice) :=
  List.replicate count (.advance 0 {})

/-- An upload of three bytes. -/
def beginSmall : List (CrewStep Call Choice) :=
  .call (.begin ⟨smallSession, 3, Text.ofString "image/png", []⟩) :: steps 18

def finishSmall : List (CrewStep Call Choice) :=
  .call (.finish ⟨smallRef, 3, Text.ofString "image/png"⟩) :: steps 10

def appendSmall (offset : ℕ) (chunk : Bytes) : List (CrewStep Call Choice) :=
  .call (.append ⟨smallRef, offset, chunk⟩) :: steps 9

/-- The write of a chunk fails behind its second byte. -/
def appendTorn : List (CrewStep Call Choice) :=
  .call (.append ⟨smallRef, 0, [1, 2, 9]⟩) :: steps 5 ++
    [.advance 0 { fault := some .reading, written := 2 }] ++ steps 2

end Synapse.Attachments
