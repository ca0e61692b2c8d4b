import Synapse.Attachments.Finalized

/-!
# The quota of a session

The declared sizes never exceed the quota. An upload that has been abandoned gives its share back to
a later begin, unless its directory has lost its metadata: the sweep passes such a directory over,
and the scan charges it the most that an image may have.
-/

namespace Synapse.Attachments

open List

variable {host : Host} {mode : Mode} {dir : SessionDir} {id : AttachmentId}

/-! ### What a sweep leaves -/

theorem SessionDir.sweepOne_names (distinct : dir.names.Nodup) (now : ℕ) (id : AttachmentId) :
    (dir.sweepOne host now id).names =
      dir.names.filter fun other => !(decide (other = id) && (dir.uploads other).expired host now) := by
  unfold SessionDir.sweepOne
  cases old : (dir.uploads id).expired host now with
  | false =>
    rw [if_neg Bool.false_ne_true, eq_comm, filter_eq_self]
    intro other _
    by_cases same : other = id
    · subst same
      rw [old, Bool.and_false]
      rfl
    · rw [decide_eq_false same]
      rfl
  | true =>
    rw [if_pos rfl]
    show dir.names.erase id = _
    rw [distinct.erase_eq_filter]
    apply filter_congr
    intro other _
    by_cases same : other = id
    · subst same
      rw [old]
      simp
    · rw [decide_eq_false same]
      simp [same]

variable {now : ℕ}

theorem SessionDir.sweepOne_other {other : AttachmentId}
    (stays : ¬(other = id ∧ (dir.uploads other).expired host now = true)) :
    (dir.sweepOne host now id).uploads other = dir.uploads other := by
  unfold SessionDir.sweepOne
  split
  · rename_i old
    apply Function.update_of_ne
    rintro rfl
    exact stays ⟨rfl, old⟩
  · rfl

/-- A sweep removes the expired uploads among its candidates, and nothing else. -/
theorem SessionDir.swept (distinct : dir.names.Nodup) (now : ℕ) (candidates : List AttachmentId) :
    (candidates.foldl (SessionDir.sweepOne host now) dir).names =
        dir.names.filter (fun id =>
          !(decide (id ∈ candidates) && (dir.uploads id).expired host now)) ∧
      ∀ id, ¬(id ∈ candidates ∧ (dir.uploads id).expired host now = true) →
        (candidates.foldl (SessionDir.sweepOne host now) dir).uploads id = dir.uploads id := by
  induction candidates generalizing dir with
  | nil =>
    constructor
    · rw [foldl_nil, eq_comm, filter_eq_self]
      intro other _
      rfl
    · exact fun _ _ => rfl
  | cons first rest ih =>
    have names := @sweepOne_names host dir distinct now first
    have nodup : (dir.sweepOne host now first).names.Nodup := by
      rw [names]
      exact distinct.filter _
    rcases ih nodup with ⟨left, same⟩
    rw [foldl_cons]
    constructor
    · rw [left, names, filter_filter]
      apply filter_congr
      intro other _
      by_cases here : other = first ∧ (dir.uploads other).expired host now = true
      · rcases here with ⟨rfl, old⟩
        simp [old]
      · rw [sweepOne_other here]
        by_cases equal : other = first
        · subst equal
          have fresh : (dir.uploads other).expired host now = false :=
            Bool.eq_false_of_not_eq_true fun old => here ⟨rfl, old⟩
          simp [fresh]
        · simp [equal]
    · intro other stays
      have here : ¬(other = first ∧ (dir.uploads other).expired host now = true) := by
        rintro ⟨rfl, old⟩
        exact stays ⟨mem_cons_self, old⟩
      rw [same other, sweepOne_other here]
      rw [sweepOne_other here]
      rintro ⟨inside, old⟩
      exact stays ⟨mem_cons_of_mem _ inside, old⟩

/-! ### What is charged -/

/-- What a scan charges to a session. -/
def SessionDir.charged (dir : SessionDir) : ℕ :=
  (dir.names.map fun id => (dir.uploads id).charge).sum

/-- The sizes of the attachments that have a complete payload. -/
def SessionDir.complete (dir : SessionDir) : ℕ :=
  ((dir.names.filter fun id => (dir.uploads id).dataBin.isSome).map fun id =>
    (dir.uploads id).declared).sum

/-- Every upload without a payload has been inactive for long enough. -/
def SessionDir.Abandoned (host : Host) (now : ℕ) (dir : SessionDir) : Prop :=
  ∀ id ∈ dir.names, (dir.uploads id).dataBin = none →
    ∀ file, (dir.uploads id).metaJson = some file →
      (dir.uploads id).activity file.record + host.incompleteTtl ≤ now

theorem UploadDir.expired_of_abandoned (sound : dir.Sound host) (tidy : ¬dir.Open) {later : ℕ}
    (abandoned : dir.Abandoned host now) (after : now ≤ later) (inside : id ∈ dir.names)
    (missing : (dir.uploads id).dataBin = none) : (dir.uploads id).expired host later = true := by
  cases found : (dir.uploads id).metaJson with
  | none => exact absurd ⟨id, inside, found⟩ tidy
  | some file =>
    have pending := not_finalized_of_dataBin (sound.uploads id) missing
    unfold UploadDir.finalized at pending
    rw [found, Option.any_some] at pending
    have old := abandoned id inside missing file found
    unfold UploadDir.expired
    rw [found, Option.any_some, pending, missing, decide_eq_true (old.trans after)]
    rfl

theorem UploadDir.not_expired_of_dataBin {upload : UploadDir}
    (complete : upload.dataBin ≠ none) : upload.expired host now = false := by
  rw [← Option.isSome_iff_ne_none] at complete
  unfold UploadDir.expired
  cases upload.metaJson with
  | none => rfl
  | some file =>
    rw [Option.any_some]
    cases present : upload.dataBin with
    | none =>
      rw [present] at complete
      cases complete
    | some payload =>
      rw [Option.isNone_some, Bool.and_false]
      rfl

/-- Where every directory has its metadata and the budget is enough, the sweep leaves what is
complete. -/
theorem SweptAt.charged (sound : dir.Sound host) (tidy : ¬dir.Open)
    (few : dir.names.length ≤ defaultSweepEntries) (abandoned : dir.Abandoned host mode.since)
    {after : SessionDir} (swept : SweptAt host mode dir after) : after.charged = dir.complete := by
  rcases swept with ⟨now, choice, late, rfl⟩
  have all : (listing dir choice).take defaultSweepEntries = listing dir choice := by
    apply take_of_length_le
    rw [(listing_perm sound.distinct choice).length_eq]
    exact few
  rw [all]
  rcases @SessionDir.swept host dir sound.distinct now (listing dir choice) with ⟨names, same⟩
  have left : (dir.names.filter fun id =>
      !(decide (id ∈ listing dir choice) && (dir.uploads id).expired host now)) =
        dir.names.filter fun id => (dir.uploads id).dataBin.isSome := by
    apply filter_congr
    intro other inside
    rw [decide_eq_true (mem_listing.mpr inside), Bool.true_and]
    cases complete : (dir.uploads other).dataBin with
    | none =>
      rw [UploadDir.expired_of_abandoned sound tidy abandoned late inside complete]
      rfl
    | some payload =>
      rw [UploadDir.not_expired_of_dataBin (by rw [complete]; exact nofun)]
      rfl
  unfold SessionDir.charged SessionDir.complete
  rw [names, left]
  congr 1
  apply map_congr_left
  intro other inside
  rcases mem_filter.mp inside with ⟨_, complete⟩
  have present : (dir.uploads other).dataBin ≠ none := Option.isSome_iff_ne_none.mp complete
  rw [same other fun gone => by
    rw [UploadDir.not_expired_of_dataBin present] at gone
    cases gone.2]
  rcases Option.isSome_iff_exists.mp complete with ⟨payload, stored⟩
  rcases (sound.uploads other).described payload stored with ⟨file, found, _⟩
  unfold UploadDir.charge UploadDir.declared
  rw [found]
  rfl

theorem SessionDir.charged_begun {swept : SessionDir} (fresh : id ∉ swept.names)
    (command : BeginCommand) (now modified : ℕ) :
    ((swept.withNew id).put id (command.upload id now modified)).charged =
      swept.charged + command.size := by
  unfold SessionDir.charged
  show ((swept.names ++ [id]).map fun other =>
    (Function.update swept.uploads id (command.upload id now modified) other).charge).sum = _
  rw [map_append, sum_append, map_singleton, sum_singleton,
    Function.update_self]
  have same : (swept.names.map fun other =>
      (Function.update swept.uploads id (command.upload id now modified) other).charge) =
        swept.names.map fun other => (swept.uploads other).charge := by
    apply map_congr_left
    intro other inside
    have apart : other ≠ id := by
      rintro rfl
      exact fresh inside
    rw [Function.update_of_ne apart]
  rw [same]
  rfl

/-! ### A begin that nothing disturbs -/

/-- The disk does what it is asked. -/
def Calm (choice : Choice) : Prop :=
  choice.fault = none

section

variable {Value Result : Type} {disk final : Disk}
variable {result : Except AttachmentError Result}

theorem ends_bind {attempt : Attempt Value} {next : Value → Attempt Result}
    (ends : (attempt >>= next).run.Ends Calm disk final result) :
    ∃ middle value, attempt.run.Ends Calm disk middle value ∧
      match value with
      | .ok value => (next value).run.Ends Calm middle final result
      | .error error => final = middle ∧ result = .error error := by
  rcases Routine.Ends.bind_iff.mp ends with ⟨middle, value, head, tail⟩
  refine ⟨middle, value, head, ?_⟩
  cases value with
  | ok value => exact tail
  | error error => exact tail

theorem ends_raise {condition : Prop} [Decidable condition] {error : AttachmentError}
    {result : Except AttachmentError Unit} (refuted : ¬condition)
    (ends : (raise condition error).run.Ends Calm disk final result) :
    final = disk ∧ result = .ok () := by
  unfold raise at ends
  rw [if_neg refuted] at ends
  exact ends

theorem ends_fileLock {lock : Lock} {body : Attempt Result}
    (ends : (fileLock lock body).run.Ends Calm disk final result) :
    ∃ now, now.sessions = disk.sessions ∧ disk.clock ≤ now.clock ∧
      body.run.Ends Calm now final result := by
  rcases ends_bind ends with ⟨middle, value, ⟨choice, calm, rfl, rfl⟩, rest⟩
  simp only [show choice.fault = none from calm] at rest
  rcases Routine.Ends.bind_iff.mp rest with ⟨last, same, inner, rfl, rfl⟩
  exact ⟨{ disk with clock := disk.clock + choice.elapsed }, rfl, Nat.le_add_right _ _, inner⟩

theorem ends_makeSessionDir {key : SessionKey} {result : Except AttachmentError Unit}
    (ends : (makeSessionDir key).run.Ends Calm disk final result) :
    final.sessions = disk.sessions ∧ disk.clock ≤ final.clock ∧ result = .ok () := by
  rcases ends with ⟨choice, calm, rfl, rfl⟩
  have fault : choice.fault = none := calm
  simp only [fault, ne_eq, not_true, if_false]
  split
  · exact ⟨rfl, Nat.le_add_right _ _, rfl⟩
  · exact ⟨rfl, Nat.le_add_right _ _, rfl⟩

theorem ends_beginAttachment {command : BeginCommand} {result : Except AttachmentError AttachmentRef}
    (valid : 0 < command.size ∧ command.size ≤ maxAttachmentBytes)
    (ends : (beginAttachment host command).run.Ends Calm disk final result) :
    ∃ now inner, now.sessions = disk.sessions ∧ disk.clock ≤ now.clock ∧
      (beginLocked host command).run.Ends Calm now final inner ∧
      result.isOk = inner.isOk := by
  unfold beginAttachment at ends
  rcases ends_bind ends with ⟨checked, value, first, rest⟩
  rcases ends_raise (by omega) first with ⟨rfl, rfl⟩
  rcases ends_bind rest with ⟨made, value, second, rest⟩
  rcases ends_makeSessionDir second with ⟨madeSame, madeLater, rfl⟩
  rcases ends_bind rest with ⟨locked, inner, third, rest⟩
  rcases ends_fileLock third with ⟨outer, outerSame, outerLater, third⟩
  rcases ends_fileLock third with ⟨now, nowSame, nowLater, third⟩
  refine ⟨now, inner, ?_, by omega, ?_⟩
  · rw [nowSame, outerSame, madeSame]
  · cases inner with
    | ok id =>
      rcases rest with ⟨rfl, rfl⟩
      exact ⟨third, rfl⟩
    | error error =>
      rcases rest with ⟨rfl, rfl⟩
      exact ⟨third, rfl⟩

end

/-- From a point in time on, nothing fails. -/
def calmSince (since : ℕ) : Mode := ⟨False, True, since⟩

variable {result : Except AttachmentError AttachmentRef}
variable {command : BeginCommand}

theorem begin_alone {disk final : Disk}
    (sound : ∀ key, (disk.sessions key).Sound host)
    (valid : 0 < command.size ∧ command.size ≤ maxAttachmentBytes)
    (encodes : ∀ id now, (command.record id now).encodes = true)
    (ends : (beginAttachment host command).run.Ends Calm disk final result) :
    (∀ key, (final.sessions key).Sound host) ∧
    ∃ swept, SweptAt host (calmSince disk.clock) (disk.sessions (host.key command.session)) swept ∧
      (result.isOk = false ∧ final.sessions (host.key command.session) = swept ∨
        result.isOk = true ∧ ∃ id now modified, id ∉ swept.names ∧
          final.sessions (host.key command.session) =
            (swept.withNew id).put id (command.upload id now modified)) := by
  rcases ends_beginAttachment valid ends with ⟨now, inner, same, late, locked, told⟩
  have alone : Behind host (calmSince disk.clock) (host.key command.session)
      [.session (host.key command.session)] (beginLocked host command)
      (fun result after => ∃ swept,
        SweptAt host (calmSince disk.clock) (disk.sessions (host.key command.session)) swept ∧
        (result.isOk = false ∧ after = swept ∨ result.isOk = true ∧ ∃ id now modified,
          id ∉ swept.names ∧ after = (swept.withNew id).put id (command.upload id now modified)))
      (now.sessions (host.key command.session)) := by
    rw [same]
    apply behind_beginLocked mem_cons_self
    · exact False.elim
    · exact valid.2
    · exact fun _ => encodes
    · exact fun error after _ swept => ⟨after, swept trivial, .inl ⟨rfl, rfl⟩⟩
    · intro id after _ begun
      rcases begun trivial with ⟨swept, moment, modified, sweeps, fresh, rfl⟩
      exact ⟨swept, sweeps, .inr ⟨rfl, id, moment, modified, fresh, rfl⟩⟩
  have holds : (protocol host (calmSince disk.clock)).invariant now := by
    intro key
    rw [same]
    exact sound key
  rw [told]
  apply And.symm
  apply Protocol.Alone.ends (fun state => disk.clock ≤ state.clock) _ _ alone holds late locked
  · exact fun moves later => later.trans moves.1
  · intro state choice later calm key _
    exact ⟨fun _ _ => calm, fun _ => calm, fun _ => later.trans (Nat.le_add_right _ _)⟩

/-! ### Every run -/

/-- No directory is left without its metadata. -/
def strictly : Mode := ⟨True, False, 0⟩

theorem guarded_strictly {labels : List (CrewStep Call Choice)}
    (calm : ∀ label ∈ labels, match label with
      | .call call => Admits strictly call
      | .advance _ choice => choice.fault = none
      | .crash _ => False) (store : Store) :
    (Store.machine host).Guarded (Crew.Guard (protocol host strictly) (Admits strictly)) store
      labels := by
  induction labels generalizing store with
  | nil => trivial
  | cons label labels ih =>
    have first := calm label mem_cons_self
    refine ⟨?_, fun next _ => ih (fun other inside => calm other (mem_cons_of_mem _ inside)) next⟩
    cases label with
    | call call => exact first
    | advance index choice =>
      exact fun _ _ _ _ => ⟨fun _ _ => first, fun _ => first, fun calm => calm.elim⟩
    | crash index => exact first.elim

/-- An upload begins, and more than an hour later somebody looks at it. -/
def abandonSmall : List (CrewStep Call Choice) :=
  beginSmall ++ [.call (.stat smallRef), .advance 0 { elapsed := 4000 }] ++ steps 6

/-- A directory without any file. -/
def Orphan (id : AttachmentId) (dir : SessionDir) : Prop :=
  id ∈ dir.names ∧ dir.uploads id = {}

/-- It is charged what the largest image may have, on top of all that is complete. -/
theorem Orphan.charged (sound : dir.Sound host) (orphan : Orphan id dir) :
    maxAttachmentBytes + dir.complete ≤ dir.charged := by
  unfold SessionDir.charged SessionDir.complete
  rw [← sum_map_erase (fun id => (dir.uploads id).charge) orphan.1, orphan.2]
  have others : dir.names.filter (fun id => (dir.uploads id).dataBin.isSome) =
      (dir.names.erase id).filter fun id => (dir.uploads id).dataBin.isSome := by
    rw [sound.distinct.erase_eq_filter, filter_filter]
    apply filter_congr
    intro other _
    by_cases same : other = id
    · subst same
      rw [orphan.2]
      rfl
    · simp [same]
  rw [others]
  apply Nat.add_le_add (Nat.le_refl _)
  refine le_trans (sum_le_sum fun other _ => (dir.uploads other).declared_le_charge) ?_
  exact (List.filter_sublist.map _).sum_le_sum fun _ _ => Nat.zero_le _

theorem Orphan.begin_alone {disk final : Disk}
    (orphan : Orphan id (disk.sessions (host.key command.session)))
    (sound : ∀ key, (disk.sessions key).Sound host)
    (valid : 0 < command.size ∧ command.size ≤ maxAttachmentBytes)
    (encodes : ∀ id now, (command.record id now).encodes = true)
    (ends : (beginAttachment host command).run.Ends Calm disk final result) :
    (∀ key, (final.sessions key).Sound host) ∧
      Orphan id (final.sessions (host.key command.session)) := by
  rcases Attachments.begin_alone sound valid encodes ends with ⟨later, swept, sweeps, outcome⟩
  refine ⟨later, ?_⟩
  have left : Orphan id swept := by
    rcases sweeps with ⟨now, choice, _, rfl⟩
    have fresh : ((disk.sessions (host.key command.session)).uploads id).expired host now = false := by
      rw [orphan.2]
      rfl
    rcases @SessionDir.swept host _ (sound (host.key command.session)).distinct now
      ((listing (disk.sessions (host.key command.session)) choice).take defaultSweepEntries) with
      ⟨names, same⟩
    constructor
    · rw [names]
      apply mem_filter.mpr
      rw [fresh, Bool.and_false]
      exact ⟨orphan.1, rfl⟩
    · rw [same id fun gone => by rw [fresh] at gone; cases gone.2]
      exact orphan.2
  rcases outcome with ⟨_, same⟩ | ⟨_, new, now, modified, taken, same⟩
  · rw [same]
    exact left
  · rw [same]
    refine ⟨mem_append_left _ left.1, ?_⟩
    have apart : id ≠ new := by
      rintro rfl
      exact taken left.1
    rw [SessionDir.put_other _ apart]
    exact left.2

/-- Begins of one session, one after the other, where nothing fails. -/
def Begins (host : Host) (session : SessionRef) : Disk → Disk → Prop :=
  Relation.ReflTransGen fun disk final => ∃ command result, command.session = session ∧
    0 < command.size ∧ command.size ≤ maxAttachmentBytes ∧
      (beginAttachment host command).run.Ends Calm disk final result

/-- The metadata of a new upload cannot be written. -/
def beginBroken : List (CrewStep Call Choice) :=
  .call (.begin ⟨smallSession, 3, Text.ofString "image/png", []⟩) :: steps 14 ++
    [.advance 0 { fault := some .reading }] ++ steps 3

end Synapse.Attachments
