import Synapse.Attachments.Protocol

/-!
# Critical sections of the attachment store

What each operation does to the directory of a session while it holds the lock.
-/

namespace Synapse.Attachments

open List

variable {host : Host} {mode : Mode} {key : SessionKey} {held : List Lock} {dir : SessionDir}
  {id : AttachmentId}

/-! ### Directories -/

@[simp]
theorem SessionDir.put_same (dir : SessionDir) (id : AttachmentId) (upload : UploadDir) :
    (dir.put id upload).uploads id = upload :=
  Function.update_self ..

theorem SessionDir.put_other (dir : SessionDir) {other : AttachmentId} (apart : other ≠ id)
    (upload : UploadDir) : (dir.put id upload).uploads other = dir.uploads other :=
  Function.update_of_ne apart ..

theorem UploadDir.not_finalized_of_dataBin {upload : UploadDir} (sound : upload.Sound host id)
    (missing : upload.dataBin = none) : upload.finalized = false := by
  by_contra finalized
  rw [Bool.not_eq_false] at finalized
  unfold UploadDir.finalized at finalized
  cases found : upload.metaJson with
  | none =>
    rw [found] at finalized
    cases finalized
  | some file =>
    rw [found] at finalized
    rcases sound.complete file found finalized with ⟨payload, present, _⟩
    rw [missing] at present
    cases present

theorem SessionDir.declared_put_le {upload : UploadDir}
    (smaller : upload.declared ≤ (dir.uploads id).declared) :
    (dir.put id upload).declared ≤ dir.declared := by
  apply sum_le_sum
  intro other _
  by_cases same : other = id
  · subst same
    rw [put_same]
    exact smaller
  · rw [put_other dir same]

/-- An attachment that had declared nothing declares a size. -/
theorem SessionDir.declared_put_add (distinct : dir.names.Nodup) (upload : UploadDir) :
    (dir.put id upload).declared ≤ dir.declared + upload.declared := by
  unfold SessionDir.declared
  show (dir.names.map fun other => (Function.update dir.uploads id upload other).declared).sum ≤ _
  by_cases inside : id ∈ dir.names
  · rw [← sum_map_erase _ inside, ← sum_map_erase (fun id => (dir.uploads id).declared) inside,
      Function.update_self]
    have same : ((dir.names.erase id).map fun other =>
        (Function.update dir.uploads id upload other).declared) =
        (dir.names.erase id).map fun other => (dir.uploads other).declared := by
      apply map_congr_left
      intro other present
      have apart : other ≠ id := by
        rintro rfl
        exact distinct.not_mem_erase present
      rw [Function.update_of_ne apart]
    rw [same]
    omega
  · have same : (dir.names.map fun other =>
        (Function.update dir.uploads id upload other).declared) =
        dir.names.map fun other => (dir.uploads other).declared := by
      apply map_congr_left
      intro other present
      have apart : other ≠ id := by
        rintro rfl
        exact inside present
      rw [Function.update_of_ne apart]
    rw [same]
    exact Nat.le_add_right _ _

theorem SessionDir.Sound.put (sound : dir.Sound host) {upload : UploadDir}
    (fine : upload.Sound host id) (inside : id ∉ dir.names → upload = {})
    (quota : (dir.put id upload).declared ≤ maxSessionAttachmentBytes) :
    (dir.put id upload).Sound host where
  uploads := by
    intro other
    by_cases same : other = id
    · subst same
      rw [put_same]
      exact fine
    · rw [put_other dir same]
      exact sound.uploads other
  absent := by
    intro other missing
    by_cases same : other = id
    · subst same
      rw [put_same]
      exact inside missing
    · rw [put_other dir same]
      exact sound.absent other missing
  distinct := sound.distinct
  quota := quota

theorem SessionDir.kept_put {upload : UploadDir} (pending : (dir.uploads id).finalized = false) :
    dir.Kept (dir.put id upload) := by
  intro other finalized
  have apart : other ≠ id := by
    rintro rfl
    rw [pending] at finalized
    cases finalized
  rw [put_other dir apart]
  exact ⟨rfl, rfl⟩

/-- A pending upload changes, and declares no more than before. -/
theorem SessionDir.moves_put {upload : UploadDir} (pending : (dir.uploads id).finalized = false)
    (fine : upload.Sound host id) (inside : id ∉ dir.names → upload = {})
    (smaller : upload.declared ≤ (dir.uploads id).declared) :
    dir.Moves host (dir.put id upload) where
  sound sound := sound.put fine inside ((dir.declared_put_le smaller).trans sound.quota)
  kept := kept_put pending

theorem SessionDir.tidy_put {upload : UploadDir} (tidy : dir.Tidy mode)
    (described : upload.metaJson ≠ none) : (dir.put id upload).Tidy mode := by
  rintro strictly ⟨other, inside, missing⟩
  by_cases same : other = id
  · subst same
    rw [put_same] at missing
    exact described missing
  · rw [put_other dir same] at missing
    exact tidy strictly ⟨other, inside, missing⟩

/-- Nothing fails that leaves a directory without metadata behind. -/
theorem Mode.Permits.tidy {clock : ℕ} {choice : Choice} (permits : mode.Permits dir clock choice)
    (fails : choice.fault ≠ none) : dir.Tidy mode :=
  fun strictly «open» => fails (permits.strict strictly «open»)

/-! ### Looking -/

variable {Result : Type} {post : Except AttachmentError Result → SessionDir → Prop}

theorem behind_raise {condition : Prop} [Decidable condition] {error : AttachmentError}
    {post : Except AttachmentError Unit → SessionDir → Prop}
    (fails : condition → post (.error error) dir) (passes : ¬condition → post (.ok ()) dir) :
    Behind host mode key held (raise condition error) post dir := by
  unfold raise
  split
  case isTrue holds => exact behind_throw (fails holds)
  case isFalse refuted => exact behind_pure (passes refuted)

theorem behind_readMeta {post : Except AttachmentError Meta → SessionDir → Prop}
    (own : .session key ∈ held) (fails : ∀ error, ¬mode.calm → post (.error error) dir)
    (missing : (dir.uploads id).metaJson = none → post (.error .notFound) dir)
    (found : ∀ file, (dir.uploads id).metaJson = some file → post (.ok file.record) dir) :
    Behind host mode key held (readMeta key id) post dir := by
  apply behind_look own
  intro disk choice here sound permits
  rw [here]
  split
  · rename_i fault
    exact fails _ fun calm => absurd (permits.calm calm) (by rw [fault]; exact nofun)
  · rename_i _ fault
    exact fails _ fun calm => absurd (permits.calm calm) (by rw [fault]; exact nofun)
  · split
    · rename_i file present
      exact found file present
    · rename_i absent
      exact missing absent

theorem behind_hasRegularDataFile {post : Except AttachmentError Bool → SessionDir → Prop}
    (own : .session key ∈ held) (fails : ∀ error, ¬mode.calm → post (.error error) dir)
    (found : dir.Sound host → post (.ok (dir.uploads id).dataBin.isSome) dir) :
    Behind host mode key held (hasRegularDataFile key id) post dir := by
  apply behind_look own
  intro disk choice here sound permits
  rw [here]
  split
  · rename_i fault
    exact fails _ fun calm => fault (permits.calm calm)
  · exact found sound

theorem behind_readFile {post : Except AttachmentError Bytes → SessionDir → Prop}
    {file : UploadDir → Option Payload} (own : .session key ∈ held)
    (fails : ∀ error, error ≠ .notFound → post (.error error) dir)
    (missing : file (dir.uploads id) = none → post (.error .notFound) dir)
    (found : ∀ payload, file (dir.uploads id) = some payload → post (.ok payload.bytes) dir) :
    Behind host mode key held (readFile key id file) post dir := by
  apply behind_look own
  intro disk choice here sound permits
  rw [here]
  split
  · exact fails _ nofun
  · exact fails _ nofun
  · split
    · rename_i payload present
      exact found payload present
    · rename_i absent
      exact missing absent

theorem behind_time {post : Except AttachmentError ℕ → SessionDir → Prop} (own : .session key ∈ held)
    (holds : ∀ now, (mode.calm → mode.since ≤ now) → post (.ok now) dir) :
    Behind host mode key held time post dir := by
  apply behind_look own
  intro disk choice _ _ permits
  exact holds disk.clock permits.since

theorem behind_verify {data : Bytes} {mime : Text}
    {post : Except AttachmentError (Text × Text) → SessionDir → Prop}
    (fails : ∀ error, post (.error error) dir) (passes : ∀ value, post (.ok value) dir) :
    Behind host mode key held (verify host data mime) post dir := by
  cases checked : host.validateImagePayload data mime with
  | error error =>
    unfold verify
    rw [checked]
    exact fails error
  | ok value =>
    unfold verify
    rw [checked]
    exact passes value

/-- The metadata belongs to the reference. -/
structure Meta.Owned (record : Meta) (ref : AttachmentRef) : Prop where
  projectId : record.projectId = ref.session.projectId
  threadId : record.threadId = ref.session.threadId
  attachmentId : record.attachmentId = ref.attachmentId

theorem behind_checkOwner {record : Meta} {session : SessionRef}
    {post : Except AttachmentError Unit → SessionDir → Prop}
    (fails : ∀ error, post (.error error) dir)
    (passes : record.projectId = session.projectId → record.threadId = session.threadId →
      post (.ok ()) dir) :
    Behind host mode key held (checkOwner record session) post dir := by
  apply behind_raise
  · exact fun _ => fails _
  · intro owned
    rw [not_or, not_not, not_not] at owned
    exact passes owned.1 owned.2

variable {ref : AttachmentRef}

theorem behind_readOwned {post : Except AttachmentError Meta → SessionDir → Prop}
    (own : .session (host.key ref.session) ∈ held) (fails : ∀ error, post (.error error) dir)
    (found : ∀ file, (dir.uploads ref.attachmentId).metaJson = some file →
      file.record.Owned ref → post (.ok file.record) dir) :
    Behind host mode (host.key ref.session) held (readOwned host ref) post dir := by
  unfold readOwned
  apply Behind.bind
  apply behind_readMeta own
  · exact fun error _ => fails error
  · exact fun _ => fails .notFound
  · intro file present
    apply Behind.bind
    apply behind_checkOwner
    · exact fails
    · intro project thread
      apply Behind.bind
      apply behind_raise
      · exact fun _ => fails _
      · exact fun named => found file present ⟨project, thread, not_not.mp named⟩

/-! ### Recovery -/

/-- The metadata that a recovery leaves: what it was as long as there is no payload. -/
structure Recovered (host : Host) (id : AttachmentId) (before after : SessionDir)
    (record result : Meta) : Prop where
  pending : result.finalized = false →
    after = before ∧ result = record ∧ (before.uploads id).dataBin = none
  finalized : result.finalized = true →
    ∃ file, (after.uploads id).metaJson = some file ∧ file.record = result
  size : result.size = record.size
  projectId : result.projectId = record.projectId
  threadId : result.threadId = record.threadId
  attachmentId : result.attachmentId = record.attachmentId

variable {file : MetaFile} {payload : Payload}

/-- The metadata of a complete payload are finalized. -/
theorem UploadDir.Sound.finalize {upload : UploadDir} (sound : upload.Sound host id)
    (found : upload.metaJson = some file)
    (complete : upload.dataBin = some payload) (mime verification : Text) (now modified : ℕ) :
    ({ upload with
      metaJson := some ⟨file.record.finalize mime (host.sha256 payload.bytes) verification now,
        modified⟩ } : UploadDir).Sound host id where
  named := by
    intro other same
    cases same
    exact sound.named file found
  encodes := by
    intro other same
    cases same
    exact sound.encodes file found
  described := by
    intro other same
    rcases sound.described other same with ⟨described, present, size⟩
    cases found.symm.trans present
    exact ⟨_, rfl, size⟩
  complete := by
    intro other same _
    cases same
    exact ⟨payload, complete, rfl⟩
  part := sound.part
  bin := sound.bin

variable {now : ℕ}

theorem behind_writeFinal {mime verification : Text}
    {post : Except AttachmentError Unit → SessionDir → Prop} (own : .session key ∈ held)
    (found : (dir.uploads id).metaJson = some file)
    (complete : (dir.uploads id).dataBin = some payload) (pending : file.record.finalized = false)
    (fails : ∀ error, post (.error error) dir)
    (writes : ∀ modified after, after.Sound host →
      after = dir.put id { dir.uploads id with
        metaJson := some ⟨file.record.finalize mime (host.sha256 payload.bytes) verification now,
          modified⟩ } → post (.ok ()) after) :
    Behind host mode key held
      (writeMeta key id (file.record.finalize mime (host.sha256 payload.bytes) verification now))
      post dir := by
  apply behind_change own
  intro modified choice sound permits
  simp only
  split
  · exact ⟨.refl _ _, fails _⟩
  · split
    · exact ⟨.refl _ _, fails _⟩
    · have moves : dir.Moves host (dir.put id { dir.uploads id with
          metaJson := some ⟨file.record.finalize mime (host.sha256 payload.bytes) verification now,
            modified⟩ }) := by
        apply SessionDir.moves_put
        · unfold UploadDir.finalized
          rw [found]
          exact pending
        · exact (sound.uploads id).finalize found complete mime verification now modified
        · intro missing
          rw [sound.absent id missing] at found
          cases found
        · unfold UploadDir.declared
          rw [found]
          exact Nat.le_refl _
      exact ⟨moves, writes modified _ (moves.sound sound) rfl⟩

theorem behind_recoverFinalized {post : Except AttachmentError Meta → SessionDir → Prop}
    (own : .session key ∈ held) (found : (dir.uploads id).metaJson = some file)
    (fails : ∀ error, post (.error error) dir)
    (recovers : ∀ result after, Recovered host id dir after file.record result →
      (dir.Tidy mode → after.Tidy mode) → post (.ok result) after) :
    Behind host mode key held (recoverFinalized host key id file.record) post dir := by
  have same : ∀ result, result = file.record →
      (result.finalized = false → (dir.uploads id).dataBin = none) → post (.ok result) dir := by
    rintro result rfl pending
    exact recovers _ dir ⟨fun open' => ⟨rfl, rfl, pending open'⟩, fun _ => ⟨file, found, rfl⟩, rfl,
      rfl, rfl, rfl⟩ fun tidy => tidy
  unfold recoverFinalized
  split
  · rename_i finalized
    apply behind_pure
    apply same _ rfl
    intro pending
    rw [finalized] at pending
    cases pending
  · rename_i pending
    apply Behind.bind
    apply behind_hasRegularDataFile own
    · exact fun error _ => fails error
    · intro sound
      show Behind host mode key held (if (dir.uploads id).dataBin.isSome = false then _ else _) post dir
      split
      · rename_i missing
        apply behind_pure
        apply same _ rfl
        intro _
        rwa [Option.isSome_eq_false_iff, Option.isNone_iff_eq_none] at missing
      · rename_i present
        rcases Option.isSome_iff_exists.mp (Bool.eq_true_of_not_eq_false present) with
          ⟨payload, complete⟩
        apply Behind.bind
        apply Behind.outcome
        apply behind_readFile own
        · intro error other
          cases error with
          | notFound => exact absurd rfl other
          | conflict | tooLarge | quota | unsafeImage | forbidden | unavailable | invalidRequest
          | raw => exact behind_throw (fails _)
        · intro missing
          rw [complete] at missing
          cases missing
        · intro other stored
          cases complete.symm.trans stored
          apply Behind.bind
          apply behind_raise
          · exact fun _ => fails _
          · intro _
            apply Behind.bind
            apply behind_verify
            · exact fails
            · intro verification
              apply Behind.bind
              apply behind_time own
              intro now _
              apply Behind.bind
              apply behind_writeFinal own found complete (Bool.eq_false_of_not_eq_true pending)
              · exact fails
              · rintro modified after _ rfl
                apply behind_pure
                apply recovers
                · refine ⟨nofun, fun _ => ?_, rfl, rfl, rfl, rfl⟩
                  exact ⟨⟨_, modified⟩, congrArg UploadDir.metaJson (dir.put_same id _), rfl⟩
                · exact fun tidy => SessionDir.tidy_put tidy nofun

/-! ### Removal -/

/-- A session without one of its attachments. -/
def SessionDir.without (dir : SessionDir) (id : AttachmentId) : SessionDir :=
  { names := dir.names.erase id, uploads := Function.update dir.uploads id {} }

theorem UploadDir.Sound.unlink {upload : UploadDir} (sound : upload.Sound host id)
    (missing : upload.dataBin = none) (file : FileName) : (upload.unlink file).Sound host id := by
  have pending := not_finalized_of_dataBin sound missing
  cases file with
  | metaJson =>
    refine ⟨nofun, nofun, ?_, nofun, sound.part, sound.bin⟩
    intro payload present
    rw [show (upload.unlink .metaJson).dataBin = none from missing] at present
    cases present
  | dataPart => exact { sound with part := nofun }
  | dataBin =>
    refine ⟨sound.named, sound.encodes, nofun, ?_, sound.part, nofun⟩
    intro other found finalized
    unfold UploadDir.finalized at pending
    rw [show upload.metaJson = some other from found] at pending
    exact absurd finalized (Bool.not_eq_true _ ▸ pending)

theorem UploadDir.unlink_dataBin {upload : UploadDir} (missing : upload.dataBin = none)
    (file : FileName) : (upload.unlink file).dataBin = none := by
  cases file with
  | metaJson | dataPart => exact missing
  | dataBin => rfl

theorem UploadDir.declared_unlink_le (upload : UploadDir) (file : FileName) :
    (upload.unlink file).declared ≤ upload.declared := by
  cases file with
  | metaJson => exact Nat.zero_le _
  | dataPart | dataBin => exact Nat.le_refl _

theorem SessionDir.put_put (dir : SessionDir) (id : AttachmentId) (first second : UploadDir) :
    (dir.put id first).put id second = dir.put id second := by
  unfold SessionDir.put
  rw [Function.update_idem]

theorem behind_unlink {file : FileName} {post : Except AttachmentError Unit → SessionDir → Prop}
    (own : .session key ∈ held) (missing : (dir.uploads id).dataBin = none)
    (fails : ∀ error, dir.Tidy mode → ¬mode.calm → post (.error error) dir)
    (removes : post (.ok ()) (dir.put id ((dir.uploads id).unlink file))) :
    Behind host mode key held (unlink key id file) post dir := by
  apply behind_change own
  intro now choice sound permits
  split
  · rename_i fault
    exact ⟨.refl _ _, fails _ (permits.tidy fault) fun calm => fault (permits.calm calm)⟩
  · refine ⟨?_, removes⟩
    apply SessionDir.moves_put
    · exact UploadDir.not_finalized_of_dataBin (sound.uploads id) missing
    · exact (sound.uploads id).unlink missing file
    · intro outside
      rw [sound.absent id outside]
      cases file with
      | metaJson | dataPart | dataBin => rfl
    · exact UploadDir.declared_unlink_le _ file

theorem behind_unlinkAll {files : List FileName}
    {post : Except AttachmentError Unit → SessionDir → Prop} (own : .session key ∈ held)
    (missing : (dir.uploads id).dataBin = none)
    (fails : ∀ error upload, (dir.put id upload).Tidy mode → ¬mode.calm →
      post (.error error) (dir.put id upload))
    (removes : post (.ok ()) (dir.put id (files.foldl UploadDir.unlink (dir.uploads id)))) :
    Behind host mode key held (unlinkAll key id files) post dir := by
  have self : dir.put id (dir.uploads id) = dir := by
    unfold SessionDir.put
    rw [Function.update_eq_self]
  induction files generalizing dir with
  | nil =>
    apply behind_pure
    rw [foldl_nil, self] at removes
    exact removes
  | cons file files ih =>
    apply Behind.bind
    apply behind_unlink own missing
    · intro error tidy loud
      have failed := fails error (dir.uploads id)
      rw [self] at failed
      exact failed tidy loud
    · apply ih
      · rw [SessionDir.put_same]
        exact UploadDir.unlink_dataBin missing file
      · intro error upload
        rw [SessionDir.put_put]
        exact fails error upload
      · rw [SessionDir.put_same, SessionDir.put_put]
        exact removes
      · rw [SessionDir.put_put, SessionDir.put_same]

theorem fileOrder_empty (choice : Choice) (upload : UploadDir) :
    (fileOrder choice).foldl UploadDir.unlink upload = {} := by
  unfold fileOrder
  rw [foldl_append]
  rfl

theorem SessionDir.moves_without (empty : dir.uploads id = {}) :
    dir.Moves host (dir.without id) := by
  have same : (dir.without id).uploads = dir.uploads := by
    unfold SessionDir.without
    rw [← empty, Function.update_eq_self]
  constructor
  · intro sound
    refine ⟨?_, ?_, sound.distinct.erase id, ?_⟩
    · rw [same]
      exact sound.uploads
    · intro other gone
      rw [same]
      by_cases here : other = id
      · rw [here]
        exact empty
      · apply sound.absent
        intro inside
        exact gone ((mem_erase_of_ne here).mpr inside)
    · refine le_trans ?_ sound.quota
      unfold SessionDir.declared
      rw [same]
      exact (List.erase_sublist.map _).sum_le_sum fun _ _ => Nat.zero_le _
  · intro other _
    rw [same]
    exact ⟨rfl, rfl⟩

theorem SessionDir.without_put (dir : SessionDir) (id : AttachmentId) (upload : UploadDir) :
    (dir.put id upload).without id = dir.without id := by
  unfold SessionDir.without SessionDir.put
  rw [Function.update_idem]

theorem SessionDir.tidy_without (sound : dir.Sound host) (tidy : dir.Tidy mode) :
    (dir.without id).Tidy mode := by
  rintro strictly ⟨other, inside, missing⟩
  have apart : other ≠ id := by
    rintro rfl
    exact sound.distinct.not_mem_erase inside
  rw [show (dir.without id).uploads other = dir.uploads other from
    Function.update_of_ne apart ..] at missing
  exact tidy strictly ⟨other, mem_of_mem_erase inside, missing⟩

/-- A directory without a payload is removed, or what is left of it has its metadata. -/
theorem behind_removeTree {post : Except AttachmentError Unit → SessionDir → Prop}
    (own : .session key ∈ held) (missing : (dir.uploads id).dataBin = none) (tidy : dir.Tidy mode)
    (fails : ∀ error after, after.Tidy mode → ¬mode.calm → post (.error error) after)
    (removes : (dir.without id).Tidy mode → post (.ok ()) (dir.without id)) :
    Behind host mode key held (removeTree key id) post dir := by
  unfold removeTree
  apply Behind.bind
  apply behind_look own
  intro disk choice here sound permits
  split
  · apply Behind.bind
    apply behind_unlinkAll own missing
    · exact fun error upload tidy loud => fails error _ tidy loud
    · rw [fileOrder_empty]
      apply behind_change own
      intro now choice _ permits
      split
      · rename_i fault
        exact ⟨.refl _ _, fails _ _ (permits.tidy fault) fun calm => fault (permits.calm calm)⟩
      · have erased : { (dir.put id {}) with names := (dir.put id {}).names.erase id } =
            dir.without id := rfl
        simp only
        rw [erased]
        refine ⟨?_, removes (SessionDir.tidy_without sound tidy)⟩
        rw [← dir.without_put id {}]
        exact SessionDir.moves_without (dir.put_same id {})
  · rename_i fault
    exact fails _ _ tidy fun calm => absurd (permits.calm calm) (by rw [fault]; exact nofun)
  · rename_i _ fault
    exact fails _ _ tidy fun calm => absurd (permits.calm calm) (by rw [fault]; exact nofun)

/-! ### Sweep -/

/-- The time of the last activity on an upload, as the files and the metadata tell it. -/
def UploadDir.activity (upload : UploadDir) (record : Meta) : ℕ :=
  let newest := max ((upload.metaJson.map MetaFile.modified).getD 0)
    ((upload.dataPart.map Payload.modified).getD 0)
  if 0 < newest then newest else record.createdAt

/-- An upload without a payload that has been inactive for long enough. -/
def UploadDir.expired (host : Host) (now : ℕ) (upload : UploadDir) : Bool :=
  upload.metaJson.any fun file =>
    !file.record.finalized && upload.dataBin.isNone &&
      decide (upload.activity file.record + host.incompleteTtl ≤ now)

def SessionDir.sweepOne (host : Host) (now : ℕ) (dir : SessionDir) (id : AttachmentId) : SessionDir :=
  if (dir.uploads id).expired host now then dir.without id else dir

theorem behind_modifiedAt {file : UploadDir → Option ℕ}
    {post : Except AttachmentError (Option ℕ) → SessionDir → Prop} (own : .session key ∈ held)
    (holds : ∀ result, (mode.calm → result = file (dir.uploads id)) → post (.ok result) dir) :
    Behind host mode key held (modifiedAt key id file) post dir := by
  apply behind_look own
  intro disk choice here sound permits
  rw [here]
  split
  · rename_i fault
    exact holds none fun calm => absurd (permits.calm calm) fault
  · exact holds _ fun _ => rfl

theorem behind_lastActivity {record : Meta} {post : Except AttachmentError ℕ → SessionDir → Prop}
    (own : .session key ∈ held)
    (holds : ∀ activity, (mode.calm → activity = (dir.uploads id).activity record) →
      post (.ok activity) dir) :
    Behind host mode key held (lastActivity key id record) post dir := by
  unfold lastActivity
  apply Behind.bind
  apply behind_modifiedAt own
  intro first firstKnown
  apply Behind.bind
  apply behind_modifiedAt own
  intro second secondKnown
  apply behind_pure
  apply holds
  intro calm
  rw [firstKnown calm, secondKnown calm]
  rfl

theorem behind_sweepEntry {post : Except AttachmentError Bool → SessionDir → Prop}
    (own : .session key ∈ held) (tidy : dir.Tidy mode)
    (fails : ∀ error after, after.Tidy mode → ¬mode.calm → post (.error error) after)
    (sweeps : ∀ gone after, after.Tidy mode → (mode.calm → after = dir.sweepOne host now id) →
      post (.ok gone) after) :
    Behind host mode key held (sweepEntry host key now id) post dir := by
  have stays (gone : Bool) (fresh : mode.calm → (dir.uploads id).expired host now = false) :
      post (.ok gone) dir := by
    apply sweeps gone dir tidy
    intro calm
    unfold SessionDir.sweepOne
    rw [fresh calm]
    rfl
  unfold sweepEntry
  apply Behind.bind
  apply Behind.outcome
  apply behind_readMeta own
  · intro error loud
    have quiet : post (.ok false) dir := stays false fun calm => absurd calm loud
    cases error with
    | notFound | unavailable => exact behind_pure quiet
    | conflict | tooLarge | quota | unsafeImage | forbidden | invalidRequest | raw =>
      exact behind_throw (fails _ dir tidy loud)
  · intro missing
    apply behind_pure
    apply stays
    intro _
    unfold UploadDir.expired
    rw [missing]
    rfl
  · intro file found
    show Behind host mode key held (if file.record.finalized = true then _ else _) post dir
    split
    · rename_i finalized
      apply behind_pure
      apply stays
      intro _
      unfold UploadDir.expired
      rw [found, Option.any_some, finalized]
      rfl
    · rename_i pending
      have open' : file.record.finalized = false := Bool.eq_false_of_not_eq_true pending
      apply Behind.bind
      apply Behind.outcome
      apply behind_hasRegularDataFile own
      · exact fun error loud => behind_pure (stays false fun calm => absurd calm loud)
      · intro sound
        cases complete : (dir.uploads id).dataBin with
        | some payload =>
          apply behind_pure
          apply stays
          intro _
          unfold UploadDir.expired
          rw [found, Option.any_some, open', complete]
          rfl
        | none =>
          apply Behind.bind
          apply behind_lastActivity own
          intro activity known
          show Behind host mode key held
            (if now < activity + host.incompleteTtl then _ else _) post dir
          split
          · rename_i fresh
            apply behind_pure
            apply stays
            intro calm
            unfold UploadDir.expired
            rw [found, Option.any_some, ← known calm, decide_eq_false (Nat.not_le.mpr fresh),
              Bool.and_false]
          · rename_i stale
            apply Behind.bind
            apply Behind.outcome
            apply behind_removeTree own complete tidy
            · intro error after settled loud
              have quiet : post (.ok false) after :=
                sweeps false after settled fun calm => absurd calm loud
              cases error with
              | unavailable => exact behind_pure quiet
              | notFound | conflict | tooLarge | quota | unsafeImage | forbidden | invalidRequest
              | raw => exact behind_throw (fails _ after settled loud)
            · intro settled
              apply behind_pure
              apply sweeps true _ settled
              intro calm
              have old : (dir.uploads id).expired host now = true := by
                unfold UploadDir.expired
                rw [found, Option.any_some, open', complete, ← known calm,
                  decide_eq_true (Nat.not_lt.mp stale)]
                rfl
              unfold SessionDir.sweepOne
              rw [old]
              rfl

variable {maxEntries : ℕ}

/-- The sweep of a session comes to the end of its budget, unless something fails. -/
theorem behind_sweepEntries {candidates : List AttachmentId}
    {removed scanned : ℕ} {post : Except AttachmentError (ℕ × ℕ) → SessionDir → Prop}
    (own : .session key ∈ held) (tidy : dir.Tidy mode)
    (fails : ∀ error after, after.Tidy mode → ¬mode.calm → post (.error error) after)
    (sweeps : ∀ counts after, after.Tidy mode →
      (mode.calm → after =
        (candidates.take (maxEntries - scanned)).foldl (SessionDir.sweepOne host now) dir) →
      post (.ok counts) after) :
    Behind host mode key held (sweepEntries host key now maxEntries candidates removed scanned) post
      dir := by
  induction candidates generalizing dir removed scanned with
  | nil =>
    apply behind_pure
    apply sweeps _ dir tidy
    intro _
    rw [take_nil]
    rfl
  | cons id rest ih =>
    unfold sweepEntries
    split
    · rename_i spent
      apply behind_pure
      apply sweeps _ dir tidy
      intro _
      rw [Nat.sub_eq_zero_of_le spent]
      rfl
    · rename_i left
      apply Behind.bind
      apply behind_sweepEntry own tidy
      · exact fails
      · intro gone after settled known
        apply ih settled
        intro counts final finalTidy follows
        apply sweeps counts final finalTidy
        intro calm
        have budget : maxEntries - scanned = maxEntries - (scanned + 1) + 1 := by omega
        rw [follows calm, known calm, budget, take_succ_cons, foldl_cons]

theorem behind_listUploads {post : Except AttachmentError (List AttachmentId) → SessionDir → Prop}
    (own : .session key ∈ held) (fails : ∀ error, ¬mode.calm → post (.error error) dir)
    (lists : ∀ choice, dir.Sound host → post (.ok (listing dir choice)) dir) :
    Behind host mode key held (listUploads key) post dir := by
  apply behind_look own
  intro disk choice here sound permits
  rw [here]
  split
  · rename_i fault
    exact fails _ fun calm => fault (permits.calm calm)
  · exact lists choice sound

theorem behind_sweepSessionLocked {scanned : ℕ}
    {post : Except AttachmentError (ℕ × ℕ) → SessionDir → Prop}
    (own : .session key ∈ held) (tidy : dir.Tidy mode)
    (fails : ∀ error after, after.Tidy mode → ¬mode.calm → post (.error error) after)
    (sweeps : ∀ counts after, after.Tidy mode →
      (mode.calm → ∃ choice, after = ((listing dir choice).take (maxEntries - scanned)).foldl
        (SessionDir.sweepOne host now) dir) → post (.ok counts) after) :
    Behind host mode key held (sweepSessionLocked host key now maxEntries scanned) post dir := by
  unfold sweepSessionLocked
  apply Behind.bind
  apply behind_listUploads own
  · exact fun error loud => fails error dir tidy loud
  · intro choice _
    apply behind_sweepEntries own tidy fails
    intro counts after settled known
    exact sweeps counts after settled fun calm => ⟨choice, known calm⟩

/-! ### Quota -/

theorem mem_listing {choice : Choice} {other : AttachmentId} :
    other ∈ listing dir choice ↔ other ∈ dir.names := by
  unfold listing
  rw [mem_dedup, mem_filter, mem_append, decide_eq_true_eq]
  exact ⟨fun inside => inside.2, fun inside => ⟨.inr inside, inside⟩⟩

theorem listing_perm (distinct : dir.names.Nodup) (choice : Choice) :
    (listing dir choice).Perm dir.names :=
  (perm_ext_iff_of_nodup (nodup_dedup _) distinct).mpr fun _ => mem_listing

/-- What a scan charges for an upload. -/
def UploadDir.charge (upload : UploadDir) : ℕ :=
  upload.metaJson.elim maxAttachmentBytes fun file => file.record.size

theorem UploadDir.declared_le_charge (upload : UploadDir) : upload.declared ≤ upload.charge := by
  unfold UploadDir.declared UploadDir.charge
  cases upload.metaJson with
  | none => exact Nat.zero_le _
  | some file => exact Nat.le_refl _

theorem SessionDir.Sound.declared_le (sound : dir.Sound host) (id : AttachmentId) :
    (dir.uploads id).declared ≤ maxAttachmentBytes := by
  unfold UploadDir.declared
  cases found : (dir.uploads id).metaJson with
  | none => exact Nat.zero_le _
  | some file => exact ((sound.uploads id).named file found).2

theorem behind_scanEntries {names : List AttachmentId} {count total : ℕ}
    {post : Except AttachmentError (ℕ × ℕ) → SessionDir → Prop} (own : .session key ∈ held)
    (sound : dir.Sound host) (fails : ∀ error, post (.error error) dir)
    (scans : ∀ usage : ℕ × ℕ, total + (names.map fun id => (dir.uploads id).declared).sum ≤ usage.2 →
      post (.ok usage) dir) :
    Behind host mode key held (scanEntries key maxEntries names count total) post dir := by
  induction names generalizing count total with
  | nil =>
    apply behind_pure
    exact scans (count, total) (Nat.le_refl _)
  | cons id rest ih =>
    unfold scanEntries
    split
    · exact behind_throw (fails _)
    · have goes : ∀ charge, (dir.uploads id).declared ≤ charge →
          Behind host mode key held (scanEntries key maxEntries rest (count + 1) (total + charge))
            post dir := by
        intro charge enough
        apply ih
        intro usage more
        apply scans usage
        rw [map_cons, sum_cons]
        omega
      apply Behind.bind
      apply Behind.outcome
      apply behind_readMeta own
      · intro error _
        cases error with
        | notFound | unavailable => exact goes _ (sound.declared_le id)
        | conflict | tooLarge | quota | unsafeImage | forbidden | invalidRequest | raw =>
          exact behind_throw (fails _)
      · exact fun _ => goes _ (sound.declared_le id)
      · intro file found
        apply goes
        unfold UploadDir.declared
        rw [found]
        exact Nat.le_refl _

theorem behind_scanUsage {post : Except AttachmentError (ℕ × ℕ) → SessionDir → Prop}
    (own : .session key ∈ held) (fails : ∀ error, post (.error error) dir)
    (scans : ∀ usage : ℕ × ℕ, dir.declared ≤ usage.2 → post (.ok usage) dir) :
    Behind host mode key held (scanUsage key maxEntries) post dir := by
  unfold scanUsage
  apply Behind.bind
  apply behind_listUploads own
  · exact fun error _ => fails error
  · intro choice sound
    apply behind_scanEntries own sound fails
    intro usage more
    apply scans
    have same : ((listing dir choice).map fun id => (dir.uploads id).declared).sum = dir.declared :=
      ((listing_perm sound.distinct choice).map _).sum_eq
    omega

/-! What happens in other sessions is only looked at. -/

section

variable {other : SessionKey}

theorem behind_watch {action : Disk → Choice → Except AttachmentError Result}
    (own : .session key ∈ held) (holds : ∀ result, post result dir) :
    Behind host mode key held (look action) post dir :=
  behind_look own fun _ _ _ _ _ => holds _

theorem behind_scanEntries_other {names : List AttachmentId} {maxEntries count total : ℕ}
    {post : Except AttachmentError (ℕ × ℕ) → SessionDir → Prop} (own : .session key ∈ held)
    (holds : ∀ result, post result dir) :
    Behind host mode key held (scanEntries other maxEntries names count total) post dir := by
  induction names generalizing count total with
  | nil => exact behind_pure (holds _)
  | cons id rest ih =>
    unfold scanEntries
    split
    · exact behind_throw (holds _)
    · apply Behind.bind
      apply Behind.outcome
      apply behind_watch own
      intro result
      cases result with
      | ok record => exact ih
      | error error =>
        cases error with
        | notFound | unavailable => exact ih
        | conflict | tooLarge | quota | unsafeImage | forbidden | invalidRequest | raw =>
          exact behind_throw (holds _)

theorem behind_scanSessions {project : Text} {sessions : List Text} {remaining total : ℕ}
    {post : Except AttachmentError ℕ → SessionDir → Prop} (own : .session key ∈ held)
    (holds : ∀ result, post result dir) :
    Behind host mode key held (scanSessions project sessions remaining total) post dir := by
  induction sessions generalizing remaining total with
  | nil => exact behind_pure (holds _)
  | cons session rest ih =>
    unfold scanSessions scanUsage
    apply Behind.bind
    apply Behind.bind
    apply behind_watch own
    intro result
    cases result with
    | error error => exact holds _
    | ok names =>
      apply behind_scanEntries_other own
      intro result
      cases result with
      | error error => exact holds _
      | ok usage => exact ih

theorem behind_scanProjectUsage {project : Text} {post : Except AttachmentError ℕ → SessionDir → Prop}
    (own : .session key ∈ held) (holds : ∀ result, post result dir) :
    Behind host mode key held (scanProjectUsage project) post dir := by
  unfold scanProjectUsage
  apply Behind.bind
  apply behind_watch own
  intro result
  cases result with
  | error error => exact holds _
  | ok sessions => exact behind_scanSessions own holds

end

theorem behind_enforceQuota {size : ℕ} {post : Except AttachmentError Unit → SessionDir → Prop}
    (own : .session key ∈ held) (fails : ∀ error, post (.error error) dir)
    (fits : dir.declared + size ≤ maxSessionAttachmentBytes → post (.ok ()) dir) :
    Behind host mode key held (enforceQuota key size) post dir := by
  unfold enforceQuota
  apply Behind.bind
  apply behind_scanUsage own fails
  intro usage enough
  apply Behind.bind
  apply behind_raise
  · exact fun _ => fails _
  · intro room
    apply Behind.bind
    apply behind_scanProjectUsage own
    intro result
    cases result with
    | error error => exact fails error
    | ok project =>
      apply behind_raise
      · exact fun _ => fails _
      · exact fun _ => fits (by omega)

/-! ### Begin -/

theorem behind_newAttachmentId {tries : ℕ} {post : Except AttachmentError AttachmentId → SessionDir → Prop}
    (own : .session key ∈ held) (fails : ∀ error, post (.error error) dir)
    (fresh : ∀ id, id ∉ dir.names → post (.ok id) dir) :
    Behind host mode key held (newAttachmentId key tries) post dir := by
  induction tries with
  | zero => exact behind_throw (fails _)
  | succ tries ih =>
    unfold newAttachmentId
    apply Behind.bind
    apply behind_look own
    intro disk choice here _ _
    show Behind host mode key held
      (if decide (choice.token ∈ (disk.sessions key).names) = true then _ else _) post dir
    rw [here]
    split
    · exact ih
    · rename_i free
      exact behind_pure (fresh _ fun taken => free (decide_eq_true taken))

/-- A session with the directory of a new attachment. -/
def SessionDir.withNew (dir : SessionDir) (id : AttachmentId) : SessionDir :=
  { dir with names := dir.names ++ [id] }

theorem SessionDir.declared_withNew (sound : dir.Sound host) (fresh : id ∉ dir.names) :
    (dir.withNew id).declared = dir.declared := by
  unfold SessionDir.declared
  show ((dir.names ++ [id]).map fun other => (dir.uploads other).declared).sum = _
  rw [map_append, sum_append, map_singleton, sum_singleton, sound.absent id fresh]
  rfl

theorem SessionDir.moves_withNew (fresh : id ∉ dir.names) : dir.Moves host (dir.withNew id) where
  sound sound := by
    refine ⟨sound.uploads, ?_, ?_, ?_⟩
    · exact fun other missing =>
        sound.absent other fun inside => missing (mem_append_left _ inside)
    · show (dir.names ++ [id]).Nodup
      exact (perm_append_singleton id dir.names).nodup_iff.mpr
        (nodup_cons.mpr ⟨fresh, sound.distinct⟩)
    · rw [declared_withNew sound fresh]
      exact sound.quota
  kept _ _ := ⟨rfl, rfl⟩

theorem SessionDir.tidy_withNew_put {upload : UploadDir} (tidy : dir.Tidy mode)
    (described : upload.metaJson ≠ none) : ((dir.withNew id).put id upload).Tidy mode := by
  rintro strictly ⟨other, inside, missing⟩
  by_cases same : other = id
  · subst same
    rw [put_same] at missing
    exact described missing
  · rw [put_other _ same] at missing
    rcases mem_append.mp inside with before | new
    · exact tidy strictly ⟨other, before, missing⟩
    · exact same (mem_singleton.mp new)

theorem behind_makeUploadDir {post : Except AttachmentError Unit → SessionDir → Prop}
    (own : .session key ∈ held) (fresh : id ∉ dir.names) (tidy : dir.Tidy mode)
    (fails : ∀ error after, after.Tidy mode → ¬mode.calm → post (.error error) after)
    (makes : dir.Sound host → post (.ok ()) (dir.withNew id)) :
    Behind host mode key held (makeUploadDir key id) post dir := by
  unfold makeUploadDir
  apply Behind.bind
  apply behind_change own
  intro now choice sound permits
  split
  · rename_i fault
    exact ⟨.refl _ _, fails _ dir tidy fun calm => fault (permits.calm calm)⟩
  · refine ⟨SessionDir.moves_withNew fresh, ?_⟩
    apply behind_look own
    intro disk choice here _ permits
    split
    · rename_i fault
      exact fails _ _ (permits.tidy fault) fun calm => fault (permits.calm calm)
    · exact makes sound

/-- The directory of an upload that has begun. -/
def BeginCommand.upload (command : BeginCommand) (id : AttachmentId) (now modified : ℕ) : UploadDir where
  metaJson := some ⟨command.record id now, modified⟩

theorem BeginCommand.sound_upload {command : BeginCommand}
    (encodes : (command.record id now).encodes = true) (size : command.size ≤ maxAttachmentBytes)
    (modified : ℕ) : (command.upload id now modified).Sound host id where
  named := by
    intro file same
    cases same
    exact ⟨rfl, size⟩
  encodes := by
    intro file same
    cases same
    exact encodes
  described := nofun
  complete := by
    intro file same finalized
    cases same
    cases finalized
  part := nofun
  bin := nofun

/-- What the sweep at the start of a begin leaves, where nothing fails. -/
def SweptAt (host : Host) (mode : Mode) (before after : SessionDir) : Prop :=
  ∃ now choice, mode.since ≤ now ∧
    after = ((listing before choice).take defaultSweepEntries).foldl
      (SessionDir.sweepOne host now) before

/-- A begin of a session whose ids can be encoded leaves every directory with its metadata. -/
theorem behind_beginLocked {command : BeginCommand}
    {post : Except AttachmentError AttachmentId → SessionDir → Prop}
    (own : .session (host.key command.session) ∈ held) (tidy : dir.Tidy mode)
    (size : command.size ≤ maxAttachmentBytes)
    (encodes : mode.strict ∨ mode.calm → ∀ id now, (command.record id now).encodes = true)
    (fails : ∀ error after, after.Tidy mode → (mode.calm → SweptAt host mode dir after) →
      post (.error error) after)
    (begins : ∀ id after, after.Tidy mode →
      (mode.calm → ∃ swept now modified, SweptAt host mode dir swept ∧ id ∉ swept.names ∧
        after = (swept.withNew id).put id (command.upload id now modified)) →
      post (.ok id) after) :
    Behind host mode (host.key command.session) held (beginLocked host command) post dir := by
  unfold beginLocked
  apply Behind.bind
  apply behind_time own
  intro now late
  apply Behind.bind
  apply behind_sweepSessionLocked own tidy
  · exact fun error after settled loud => fails error after settled fun calm => absurd calm loud
  · intro counts swept settled sweeps
    have known : mode.calm → SweptAt host mode dir swept := by
      intro calm
      rcases sweeps calm with ⟨choice, same⟩
      exact ⟨now, choice, late calm, same⟩
    apply Behind.bind
    apply behind_enforceQuota own
    · exact fun error => fails error swept settled known
    · intro fits
      apply Behind.bind
      apply behind_newAttachmentId own
      · exact fun error => fails error swept settled known
      · intro id fresh
        apply Behind.bind
        apply behind_makeUploadDir own fresh settled
        · exact fun error after tidy loud => fails error after tidy fun calm => absurd calm loud
        · intro sweptSound
          apply Behind.bind
          apply behind_time own
          intro createdAt _
          apply Behind.bind
          apply behind_change own
          intro modified choice sound permits
          have empty : (swept.withNew id).uploads id = {} := sweptSound.absent id fresh
          split
          · rename_i unencodable
            have loose : ¬(mode.strict ∨ mode.calm) := by
              intro either
              rw [encodes either] at unencodable
              cases unencodable
            exact ⟨.refl _ _, fails _ _ (fun strictly => absurd (.inl strictly) loose)
              fun calm => absurd (.inr calm) loose⟩
          · rename_i encodable
            split
            · rename_i fault
              exact ⟨.refl _ _, fails _ _ (permits.tidy fault)
                fun calm => absurd (permits.calm calm) fault⟩
            · have same : { (swept.withNew id).uploads id with
                  metaJson := some ⟨command.record id createdAt, modified⟩ } =
                  command.upload id createdAt modified := by
                rw [empty]
                rfl
              simp only
              rw [same]
              refine ⟨⟨fun sound => ?_, ?_⟩, ?_⟩
              · apply sound.put
                · exact BeginCommand.sound_upload (Bool.eq_true_of_not_eq_false encodable) size _
                · intro missing
                  exact absurd (mem_append_right _ (mem_singleton_self id)) missing
                · have more := @SessionDir.declared_put_add (swept.withNew id) id sound.distinct
                    (command.upload id createdAt modified)
                  rw [SessionDir.declared_withNew sweptSound fresh] at more
                  exact more.trans fits
              · apply SessionDir.kept_put
                rw [empty]
                rfl
              · apply behind_pure
                apply begins
                · exact SessionDir.tidy_withNew_put settled nofun
                · exact fun calm => ⟨swept, createdAt, modified, known calm, fresh, rfl⟩

/-! ### Append, finish, abort -/

/-- The upload is pending, and has no payload yet. -/
structure Pending (dir : SessionDir) (ref : AttachmentRef) (file : MetaFile) : Prop where
  found : (dir.uploads ref.attachmentId).metaJson = some file
  owned : file.record.Owned ref
  pending : file.record.finalized = false
  missing : (dir.uploads ref.attachmentId).dataBin = none

theorem Pending.not_finalized (pending : Pending dir ref file) :
    (dir.uploads ref.attachmentId).finalized = false := by
  unfold UploadDir.finalized
  rw [pending.found]
  exact pending.pending

theorem Pending.inside (pending : Pending dir ref file)
    (sound : dir.Sound host) {upload : UploadDir} (outside : ref.attachmentId ∉ dir.names) :
    upload = {} := by
  have found := pending.found
  rw [sound.absent _ outside] at found
  cases found

theorem behind_loadPending {post : Except AttachmentError Meta → SessionDir → Prop}
    (own : .session (host.key ref.session) ∈ held) (tidy : dir.Tidy mode)
    (fails : ∀ error after, after.Tidy mode → post (.error error) after)
    (loads : ∀ file, Pending dir ref file → post (.ok file.record) dir) :
    Behind host mode (host.key ref.session) held (loadPending host ref) post dir := by
  unfold loadPending
  apply Behind.bind
  apply behind_readOwned own
  · exact fun error => fails error dir tidy
  · intro file found owned
    apply Behind.bind
    apply behind_recoverFinalized own found
    · exact fun error => fails error dir tidy
    · intro result after recovered settles
      apply Behind.bind
      apply behind_raise
      · exact fun _ => fails _ after (settles tidy)
      · intro open'
        apply behind_pure
        have pending : result.finalized = false := Bool.eq_false_of_not_eq_true open'
        rcases recovered.pending pending with ⟨rfl, rfl, missing⟩
        exact loads file ⟨found, owned, pending, missing⟩

theorem Pending.moves_part (pending : Pending dir ref file)
    (exact' : payload.Exact) (sound : dir.Sound host) :
    dir.Moves host (dir.put ref.attachmentId
      { dir.uploads ref.attachmentId with dataPart := some payload }) := by
  have upload := sound.uploads ref.attachmentId
  apply SessionDir.moves_put pending.not_finalized
  · refine { upload with part := ?_ }
    intro other same
    cases same
    exact exact'
  · exact pending.inside sound
  · exact Nat.le_refl _

theorem Pending.put_part (pending : Pending dir ref file) (payload : Payload) :
    Pending (dir.put ref.attachmentId
      { dir.uploads ref.attachmentId with dataPart := some payload }) ref file where
  found := by
    rw [SessionDir.put_same]
    exact pending.found
  owned := pending.owned
  pending := pending.pending
  missing := by
    rw [SessionDir.put_same]
    exact pending.missing

theorem Pending.tidy_part (pending : Pending dir ref file)
    (tidy : dir.Tidy mode) (payload : Payload) :
    (dir.put ref.attachmentId
      { dir.uploads ref.attachmentId with dataPart := some payload }).Tidy mode := by
  apply SessionDir.tidy_put tidy
  show (dir.uploads ref.attachmentId).metaJson ≠ none
  rw [pending.found]
  exact nofun

theorem behind_openPart
    {post : Except AttachmentError ℕ → SessionDir → Prop} (own : .session key ∈ held)
    (pending : Pending dir ref file) (fails : ∀ error, post (.error error) dir)
    (opens : ∀ payload, (dir.uploads ref.attachmentId).dataPart = some payload →
      post (.ok payload.bytes.length) dir)
    (makes : ∀ now, (dir.uploads ref.attachmentId).dataPart = none →
      post (.ok 0) (dir.put ref.attachmentId
        { dir.uploads ref.attachmentId with dataPart := some ⟨[], now, []⟩ })) :
    Behind host mode key held (openPart key ref.attachmentId) post dir := by
  apply behind_change own
  intro now choice sound permits
  split
  · exact ⟨.refl _ _, fails _⟩
  · cases present : (dir.uploads ref.attachmentId).dataPart with
    | some payload => exact ⟨.refl _ _, opens payload present⟩
    | none => exact ⟨pending.moves_part ⟨rfl, nofun⟩ sound, makes now present⟩

theorem overwrite_end (bytes data : Bytes) : overwrite bytes bytes.length data = bytes ++ data := by
  unfold overwrite
  rw [take_length, drop_eq_nil_of_le (Nat.le_add_right _ _), append_nil]

/-- Some of a chunk comes behind what has been received. -/
def Payload.extend (payload : Payload) (chunk : Bytes) (written now : ℕ) : Payload where
  bytes := overwrite payload.bytes payload.bytes.length (chunk.take written)
  modified := now
  pieces := payload.pieces ++ [⟨chunk, written, false⟩]

theorem Payload.Exact.extend (exact' : payload.Exact) (chunk : Bytes)
    (written now : ℕ) : (payload.extend chunk written now).Exact where
  bytes := by
    show overwrite payload.bytes payload.bytes.length (chunk.take written) = _
    rw [overwrite_end, exact'.bytes]
    show _ = (payload.pieces ++ [(⟨chunk, written, false⟩ : Piece)]).flatMap Piece.bytes
    rw [flatMap_append, flatMap_singleton]
    rfl
  whole := by
    intro piece inside succeeded
    rcases mem_append.mp inside with before | new
    · exact exact'.whole piece before succeeded
    · rw [mem_singleton.mp new] at succeeded
      cases succeeded

/-- A whole chunk comes behind what has been received, and the append succeeds. -/
def Payload.receive (payload : Payload) (chunk : Bytes) (now : ℕ) : Payload :=
  { payload.extend chunk chunk.length now with
    pieces := payload.pieces ++ [⟨chunk, chunk.length, true⟩] }

theorem Payload.Exact.receive (exact' : payload.Exact) (chunk : Bytes) (now : ℕ) :
    (payload.receive chunk now).Exact where
  bytes := by
    show (payload.extend chunk chunk.length now).bytes = _
    rw [(exact'.extend chunk chunk.length now).bytes]
    show (payload.pieces ++ [(⟨chunk, chunk.length, false⟩ : Piece)]).flatMap Piece.bytes =
      (payload.pieces ++ [(⟨chunk, chunk.length, true⟩ : Piece)]).flatMap Piece.bytes
    rw [flatMap_append, flatMap_append]
    rfl
  whole := by
    intro piece inside succeeded
    rcases mem_append.mp inside with before | new
    · exact exact'.whole piece before succeeded
    · rw [mem_singleton.mp new]

theorem succeedLast_extend (payload : Payload) (chunk : Bytes) (now : ℕ) :
    { payload.extend chunk chunk.length now with
      pieces := succeedLast (payload.extend chunk chunk.length now).pieces } =
        payload.receive chunk now := by
  have last : succeedLast (payload.pieces ++ [(⟨chunk, chunk.length, false⟩ : Piece)]) =
      payload.pieces ++ [(⟨chunk, chunk.length, true⟩ : Piece)] :=
    modifyLast_concat ..
  unfold Payload.receive
  rw [← last]
  rfl

theorem behind_writeChunk {chunk : Bytes}
    {post : Except AttachmentError Unit → SessionDir → Prop} (own : .session key ∈ held)
    (pending : Pending dir ref file)
    (present : (dir.uploads ref.attachmentId).dataPart = some payload)
    (fails : ∀ error now written, post (.error error) (dir.put ref.attachmentId
      { dir.uploads ref.attachmentId with dataPart := some (payload.extend chunk written now) }))
    (writes : ∀ now, payload.Exact → post (.ok ()) (dir.put ref.attachmentId
      { dir.uploads ref.attachmentId with
        dataPart := some (payload.extend chunk chunk.length now) })) :
    Behind host mode key held (writeChunk key ref.attachmentId payload.bytes.length chunk) post
      dir := by
  apply behind_change own
  intro now choice sound permits
  rw [present]
  have fine : payload.Exact := (sound.uploads ref.attachmentId).part payload present
  by_cases calm : choice.fault = none
  · simp only [if_pos calm]
    exact ⟨pending.moves_part (fine.extend chunk chunk.length now) sound, writes now fine⟩
  · simp only [if_neg calm]
    exact ⟨pending.moves_part (fine.extend chunk (min choice.written chunk.length) now) sound,
      fails _ now _⟩

theorem behind_syncPart {chunk : Bytes}
    {written : ℕ} {post : Except AttachmentError Unit → SessionDir → Prop} (own : .session key ∈ held)
    (pending : Pending dir ref file) (exact' : payload.Exact)
    (present : (dir.uploads ref.attachmentId).dataPart =
      some (payload.extend chunk chunk.length written))
    (fails : ∀ error, post (.error error) dir)
    (syncs : post (.ok ()) (dir.put ref.attachmentId
      { dir.uploads ref.attachmentId with dataPart := some (payload.receive chunk written) })) :
    Behind host mode key held (syncPart key ref.attachmentId) post dir := by
  apply behind_change own
  intro now choice sound permits
  split
  · exact ⟨.refl _ _, fails _⟩
  · rw [present, Option.map_some, succeedLast_extend]
    exact ⟨pending.moves_part (exact'.receive chunk written) sound, syncs⟩

/-- An append that succeeds has put its whole chunk behind what had been received. -/
theorem behind_appendLocked {command : AppendCommand} {post : Except AttachmentError ℕ → SessionDir → Prop}
    (own : .session (host.key command.ref.session) ∈ held) (tidy : dir.Tidy mode)
    (fails : ∀ error after, after.Tidy mode → post (.error error) after)
    (appends : ∀ (after : SessionDir) (payload : Payload) (now : ℕ), after.Tidy mode →
      (after.uploads command.ref.attachmentId).dataPart = some (payload.receive command.chunk now) →
      payload.bytes.length = command.expectedOffset →
      post (.ok (command.expectedOffset + command.chunk.length)) after) :
    Behind host mode (host.key command.ref.session) held (appendLocked host command) post dir := by
  unfold appendLocked
  apply Behind.bind
  apply behind_loadPending own tidy fails
  intro file pending
  -- the part is there, and its length is what the append is told to expect
  have goes (now : SessionDir) (payload : Payload) (pending : Pending now command.ref file)
      (tidy : now.Tidy mode)
      (present : (now.uploads command.ref.attachmentId).dataPart = some payload) :
      Behind host mode (host.key command.ref.session) held (do
        raise (payload.bytes.length ≠ command.expectedOffset) .conflict
        raise (file.record.size < payload.bytes.length + command.chunk.length) .tooLarge
        writeChunk (host.key command.ref.session) command.ref.attachmentId payload.bytes.length
          command.chunk
        syncPart (host.key command.ref.session) command.ref.attachmentId
        return payload.bytes.length + command.chunk.length) post now := by
    apply Behind.bind
    apply behind_raise
    · exact fun _ => fails _ now tidy
    · intro expected
      apply Behind.bind
      apply behind_raise
      · exact fun _ => fails _ now tidy
      · intro _
        apply Behind.bind
        apply behind_writeChunk own pending present
        · exact fun error moment written => fails error _ (pending.tidy_part tidy _)
        · intro moment exact'
          apply Behind.bind
          apply behind_syncPart own (pending.put_part _) exact'
          · rw [SessionDir.put_same]
          · exact fun error => fails error _ (pending.tidy_part tidy _)
          · apply behind_pure
            rw [not_not.mp expected]
            apply appends _ payload moment
            · exact (pending.put_part _).tidy_part (pending.tidy_part tidy _) _
            · rw [SessionDir.put_same]
            · exact not_not.mp expected
  apply Behind.bind
  apply behind_openPart own pending
  · exact fun error => fails error dir tidy
  · intro payload present
    exact goes dir payload pending tidy present
  · intro moment _
    apply goes _ ⟨[], moment, []⟩ (pending.put_part _) (pending.tidy_part tidy _)
    rw [SessionDir.put_same]

/-- The payload is in its place. -/
def UploadDir.rename (upload : UploadDir) (payload : Payload) : UploadDir :=
  { upload with dataPart := none, dataBin := some payload }

theorem behind_renamePart
    {post : Except AttachmentError Unit → SessionDir → Prop} (own : .session key ∈ held)
    (pending : Pending dir ref file)
    (present : (dir.uploads ref.attachmentId).dataPart = some payload)
    (size : payload.bytes.length = file.record.size) (fails : ∀ error, post (.error error) dir)
    (renames : post (.ok ()) (dir.put ref.attachmentId
      ((dir.uploads ref.attachmentId).rename payload))) :
    Behind host mode key held (renamePart key ref.attachmentId) post dir := by
  apply behind_change own
  intro now choice sound permits
  split
  · exact ⟨.refl _ _, fails _⟩
  · rw [present]
    refine ⟨?_, renames⟩
    have upload := sound.uploads ref.attachmentId
    apply SessionDir.moves_put pending.not_finalized
    · refine ⟨upload.named, upload.encodes, ?_, ?_, nofun, ?_⟩
      · intro other same
        cases same
        exact ⟨file, pending.found, size⟩
      · intro other found finalized
        cases pending.found.symm.trans found
        rw [pending.pending] at finalized
        cases finalized
      · intro other same
        cases same
        exact upload.part payload present
    · exact pending.inside sound
    · exact Nat.le_refl _

/-- The finalized attachment that a directory holds for a reference. -/
structure Holds (dir : SessionDir) (ref : AttachmentRef) (record : Meta) (bytes : Bytes) : Prop where
  found : ∃ file, (dir.uploads ref.attachmentId).metaJson = some file ∧ file.record = record
  finalized : record.finalized = true
  owned : record.Owned ref
  payload : ∃ payload, (dir.uploads ref.attachmentId).dataBin = some payload ∧ payload.bytes = bytes

theorem behind_finishLocked {command : FinishCommand}
    {post : Except AttachmentError Finalized → SessionDir → Prop}
    (own : .session (host.key command.ref.session) ∈ held) (tidy : dir.Tidy mode)
    (fails : ∀ error after, after.Tidy mode → post (.error error) after)
    (finishes : ∀ after record bytes, after.Sound host → after.Tidy mode →
      Holds after command.ref record bytes → record.revision = some (host.sha256 bytes) →
      post (.ok ⟨command.ref, record.size, host.sha256 bytes⟩) after) :
    Behind host mode (host.key command.ref.session) held (finishLocked host command) post dir := by
  unfold finishLocked
  apply Behind.bind
  apply behind_loadPending own tidy fails
  intro file pending
  apply Behind.bind
  apply behind_raise (fun _ => fails _ dir tidy)
  intro _
  apply Behind.bind
  apply behind_raise (fun _ => fails _ dir tidy)
  intro _
  apply Behind.bind
  apply Behind.outcome
  apply behind_readFile own
  · intro error other
    cases error with
    | notFound => exact absurd rfl other
    | conflict | tooLarge | quota | unsafeImage | forbidden | unavailable | invalidRequest | raw =>
      exact behind_throw (fails _ dir tidy)
  · exact fun _ => behind_throw (fails _ dir tidy)
  · intro payload present
    apply Behind.bind
    apply behind_raise (fun _ => fails _ dir tidy)
    intro size
    apply Behind.bind
    apply behind_verify (fun error => fails error dir tidy)
    intro verification
    apply Behind.bind
    apply behind_renamePart own pending present (not_not.mp size)
    · exact fun error => fails error dir tidy
    · have renamed : (dir.put command.ref.attachmentId
          ((dir.uploads command.ref.attachmentId).rename payload)).Tidy mode := by
        apply SessionDir.tidy_put tidy
        show (dir.uploads command.ref.attachmentId).metaJson ≠ none
        rw [pending.found]
        exact nofun
      apply Behind.bind
      apply behind_time own
      intro now _
      apply Behind.bind
      apply behind_writeFinal own
      · rw [SessionDir.put_same]
        exact pending.found
      · rw [SessionDir.put_same]
        rfl
      · exact pending.pending
      · exact fun error => fails error _ renamed
      · rintro modified after sound rfl
        apply behind_pure
        apply finishes _ (file.record.finalize verification.1 (host.sha256 payload.bytes)
          verification.2 now) payload.bytes sound
        · exact SessionDir.tidy_put renamed nofun
        · refine ⟨⟨_, congrArg UploadDir.metaJson (SessionDir.put_same ..), rfl⟩, rfl, ?_, ?_⟩
          · exact ⟨pending.owned.projectId, pending.owned.threadId, pending.owned.attachmentId⟩
          · refine ⟨payload, ?_, rfl⟩
            rw [SessionDir.put_same, SessionDir.put_same]
            rfl
        · rfl

theorem behind_abortLocked {post : Except AttachmentError Bool → SessionDir → Prop}
    (own : .session (host.key ref.session) ∈ held) (tidy : dir.Tidy mode)
    (ends : ∀ result after, after.Tidy mode → post result after) :
    Behind host mode (host.key ref.session) held (abortLocked host ref) post dir := by
  have removes : ∀ now : SessionDir, now.Tidy mode → (now.uploads ref.attachmentId).dataBin = none →
      Behind host mode (host.key ref.session) held
        (do removeTree (host.key ref.session) ref.attachmentId; return true) post now := by
    intro now settled missing
    apply Behind.bind
    apply behind_removeTree own missing settled
    · exact fun error after tidy _ => ends _ after tidy
    · exact fun tidy => ends _ _ tidy
  unfold abortLocked
  apply Behind.bind
  apply behind_look own
  intro disk choice _ _ _
  split
  · exact ends _ dir tidy
  · show Behind host mode (host.key ref.session) held (if _ = false then _ else _) post dir
    split
    · exact behind_pure (ends _ dir tidy)
    · have unusable : Behind host mode (host.key ref.session) held (do
          let finalized ← hasRegularDataFile (host.key ref.session) ref.attachmentId
          if finalized then pure false
          else do
            removeTree (host.key ref.session) ref.attachmentId
            return true) post dir := by
        apply Behind.bind
        apply behind_hasRegularDataFile own
        · exact fun error _ => ends _ dir tidy
        · intro _
          cases complete : (dir.uploads ref.attachmentId).dataBin with
          | some payload => exact behind_pure (ends _ dir tidy)
          | none => exact removes dir tidy complete
      apply Behind.bind
      apply Behind.outcome
      apply behind_readMeta own
      · intro error _
        cases error with
        | notFound | unavailable => exact unusable
        | conflict | tooLarge | quota | unsafeImage | forbidden | invalidRequest | raw =>
          exact behind_throw (ends _ dir tidy)
      · exact fun _ => unusable
      · intro file found
        apply Behind.bind
        apply behind_checkOwner
        · exact fun error => ends _ dir tidy
        · intro _ _
          apply Behind.bind
          apply behind_recoverFinalized own found
          · exact fun error => ends _ dir tidy
          · intro result after recovered settles
            show Behind host mode (host.key ref.session) held (if result.finalized = true then _ else _)
              post after
            split
            · exact behind_pure (ends _ after (settles tidy))
            · rename_i open'
              rcases recovered.pending (Bool.eq_false_of_not_eq_true open') with ⟨rfl, _, missing⟩
              exact removes after tidy missing

/-! ### Load -/

/-- Finalized metadata that a reader has been given are on the disk. -/
def Known (ref : AttachmentRef) (record : Meta) (dir : SessionDir) : Prop :=
  record.Owned ref ∧ (record.finalized = true →
    ∃ file, (dir.uploads ref.attachmentId).metaJson = some file ∧ file.record = record)

theorem behind_loadLocked {post : Except AttachmentError Meta → SessionDir → Prop}
    (own : .session (host.key ref.session) ∈ held) (tidy : dir.Tidy mode)
    (fails : ∀ error after, after.Tidy mode → post (.error error) after)
    (loads : ∀ record after, after.Tidy mode → Known ref record after → post (.ok record) after) :
    Behind host mode (host.key ref.session) held (loadLocked host ref) post dir := by
  unfold loadLocked
  apply Behind.bind
  apply behind_readOwned own
  · exact fun error => fails error dir tidy
  · intro file found owned
    apply behind_recoverFinalized own found
    · exact fun error => fails error dir tidy
    · intro result after recovered settles
      apply loads result after (settles tidy)
      refine ⟨⟨?_, ?_, ?_⟩, recovered.finalized⟩
      · exact recovered.projectId.trans owned.projectId
      · exact recovered.threadId.trans owned.threadId
      · exact recovered.attachmentId.trans owned.attachmentId

end Synapse.Attachments
