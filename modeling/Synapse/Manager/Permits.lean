import Synapse.Foundation.Locks
import Synapse.Manager.Model

/-!
# Permits and locks

Every call holds at most one permit and one submit lock, and gives back what it took before
it ends. The permits that are out are those of the calls, so no more turns than permits are
unsettled. The one leak is a submit that is cancelled after its acquire task has ended and
before the submit goes on.
-/

namespace Synapse.Manager

open List

/-! ### What a call holds -/

/-- The submit lock that a call holds. -/
def Phase.lock? : Phase → Option ℕ
  | .queued owner => some owner.submitLock
  | .running lock _ => some lock
  | _ => none

/-- What a queued call has acquired so far is what its acquire task says. -/
def QueuedOwner.Sound (owner : QueuedOwner) (acquired released : ℕ) : Prop :=
  match owner.acquireTask.result with
  | none =>
    acquired = (if owner.acquireTask.granted then 1 else 0) ∧ released = 0 ∧
      owner.mustCancel = false
  | some true => acquired = 1 ∧ released = 0 ∧ owner.mustCancel = false
  | some false => acquired = released ∧ acquired ≤ 1

def Call.Sound (call : Call) : Prop :=
  match call.phase with
  | .opening | .entering _ | .waiting _ _ =>
    call.acquired = 0 ∧ call.released = 0 ∧ call.locked = 0 ∧ call.unlocked = 0
  | .queued owner =>
    owner.Sound call.acquired call.released ∧ call.locked = 1 ∧ call.unlocked = 0
  | .running _ _ => call.acquired = 1 ∧ call.released = 0 ∧ call.locked = 1 ∧ call.unlocked = 0
  | .released | .forgotten =>
    call.acquired = 1 ∧ call.released = 1 ∧ call.locked = 1 ∧ call.unlocked = 1
  | .failed _ =>
    call.acquired = call.released ∧ call.acquired ≤ 1 ∧ call.locked = call.unlocked ∧
      call.locked ≤ 1

/-- The turn that the call started is not settled. -/
def Call.Unsettled (call : Call) : Prop :=
  ∃ lock, call.phase = .running lock false

/-- The call has returned and holds nothing any more. -/
def Call.Over (call : Call) : Prop :=
  match call.phase with
  | .released | .forgotten | .failed _ => True
  | _ => False

instance (call : Call) : Decidable call.Over :=
  match phase : call.phase with
  | .released | .forgotten | .failed _ => isTrue (by simp [Call.Over, phase])
  | .opening | .entering _ | .waiting _ _ | .queued _ | .running _ _ =>
    isFalse (by simp [Call.Over, phase])

instance (call : Call) : Decidable call.Unsettled :=
  match phase : call.phase with
  | .running lock false => isTrue ⟨lock, phase⟩
  | .running _ true | .opening | .entering _ | .waiting _ _ | .queued _ | .released | .forgotten
  | .failed _ => isFalse (by simp [Call.Unsettled, phase])

theorem Call.Sound.released_le {call : Call} (sound : call.Sound) :
    call.released ≤ call.acquired ∧ call.acquired ≤ 1 ∧ call.unlocked ≤ call.locked ∧
      call.locked ≤ 1 := by
  unfold Call.Sound at sound
  cases phase : call.phase with
  | queued owner =>
    simp only [phase, QueuedOwner.Sound] at sound
    cases ended : owner.acquireTask.result with
    | none =>
      simp only [ended] at sound
      rcases sound with ⟨⟨acquired, released, _⟩, locked, unlocked⟩
      split at acquired
      · omega
      · omega
    | some acquired =>
      cases acquired with
      | true =>
        simp only [ended] at sound
        omega
      | false =>
        simp only [ended] at sound
        omega
  | _ =>
    simp only [phase] at sound
    omega

namespace RuntimeManager

variable {manager next : RuntimeManager}

/-- The submit lock that a call holds. -/
def holds (manager : RuntimeManager) (number : ℕ) : Option ℕ :=
  manager.calls[number]?.bind (·.phase.lock?)

/-- The permits and the submit locks that are out are those of the calls. -/
structure Balanced (manager : RuntimeManager) : Prop where
  sound : ∀ call ∈ manager.calls, call.Sound
  permits : manager.available + (manager.calls.map (·.acquired)).sum =
    manager.maxConcurrentSessions + (manager.calls.map (·.released)).sum
  locks : Locks.Exclusive manager.holds manager.submitLocked

/-- What a section does to the submit lock of its call. -/
inductive Relocked (manager next : RuntimeManager) : Option ℕ → Option ℕ → Prop where
  | same {lock : Option ℕ} (locks : next.submitLocked = manager.submitLocked) :
      Relocked manager next lock lock
  | acquired {lock : ℕ} (free : manager.submitLocked lock = false)
      (locks : next.submitLocked = Function.update manager.submitLocked lock true) :
      Relocked manager next none (some lock)
  | released {lock : ℕ}
      (locks : next.submitLocked = Function.update manager.submitLocked lock false) :
      Relocked manager next (some lock) none

theorem Relocked.congr {before after : Option ℕ} {other : RuntimeManager}
    (relocked : Relocked manager next before after)
    (same : other.submitLocked = next.submitLocked) : Relocked manager other before after := by
  cases relocked with
  | same locks => exact .same (same.trans locks)
  | acquired free locks => exact .acquired free (same.trans locks)
  | released locks => exact .released (same.trans locks)

/-- No close has moved, and no lifecycle lock was taken and not released. -/
structure Still (manager next : RuntimeManager) : Prop where
  closes : next.closes = manager.closes
  lifecycle : ∀ thread, next.lifecycleLocked thread = true → manager.lifecycleLocked thread = true

theorem Still.same (closes : next.closes = manager.closes)
    (lifecycle : next.lifecycleLocked = manager.lifecycleLocked) : Still manager next :=
  ⟨closes, fun thread locked => by rw [← lifecycle, locked]⟩

/-- A lock that was taken and released is not locked. -/
theorem locked_of_relocked {locked : ThreadId → Bool} {thread other : ThreadId}
    (still : Function.update (Function.update locked thread true) thread false other = true) :
    other ≠ thread ∧ locked other = true := by
  rw [Function.update_idem] at still
  by_cases same : other = thread
  · rw [same, Function.update_self] at still
    cases still
  · exact ⟨same, by rwa [Function.update_of_ne same] at still⟩

theorem Still.coordinated {thread : ThreadId} (closes : next.closes = manager.closes)
    (lifecycle : next.lifecycleLocked =
      Function.update (Function.update manager.lifecycleLocked thread true) thread false) :
    Still manager next := by
  refine ⟨closes, fun other locked => ?_⟩
  rw [lifecycle] at locked
  exact (locked_of_relocked locked).2

/-- A section of one call. -/
structure Advance (manager : RuntimeManager) (number : ℕ) (before after : Call)
    (next : RuntimeManager) : Prop where
  calls : next.calls = manager.calls.set number after
  maximum : next.maxConcurrentSessions = manager.maxConcurrentSessions
  still : Still manager next
  permits : next.available + after.acquired + before.released =
    manager.available + before.acquired + after.released
  locks : Relocked manager next before.phase.lock? after.phase.lock?
  sound : after.Sound

/-- What a section puts in the place of its call, after it has changed the locks. -/
theorem Advance.put {number : ℕ} {before after : Call} (calls : next.calls = manager.calls)
    (maximum : next.maxConcurrentSessions = manager.maxConcurrentSessions)
    (still : Still manager next)
    (permits : next.available + after.acquired + before.released =
      manager.available + before.acquired + after.released)
    (locks : Relocked manager next before.phase.lock? after.phase.lock?) (sound : after.Sound) :
    Advance manager number before after (next.put number after) where
  calls := congrArg (List.set · number after) calls
  maximum := maximum
  still := ⟨still.closes, still.lifecycle⟩
  permits := permits
  locks := locks.congr rfl
  sound := sound

theorem Balanced.congr (balanced : Balanced manager) (calls : next.calls = manager.calls)
    (available : next.available = manager.available)
    (maximum : next.maxConcurrentSessions = manager.maxConcurrentSessions)
    (locks : next.submitLocked = manager.submitLocked) : Balanced next where
  sound := by
    rw [calls]
    exact balanced.sound
  permits := by
    rw [calls, available, maximum]
    exact balanced.permits
  locks := by
    have same : next.holds = manager.holds := by
      funext number
      simp only [holds, calls]
    rw [same, locks]
    exact balanced.locks

theorem Balanced.advance (balanced : Balanced manager) {number : ℕ} {before after : Call}
    (found : manager.calls[number]? = some before)
    (advance : Advance manager number before after next) : Balanced next where
  sound := by
    intro call present
    rw [advance.calls] at present
    rcases mem_or_eq_of_mem_set present with old | rfl
    · exact balanced.sound call old
    · exact advance.sound
  permits := by
    have acquired := Locks.sum_map_set (·.acquired) found after
    have released := Locks.sum_map_set (·.released) found after
    have total := balanced.permits
    have moved := advance.permits
    rw [advance.calls, advance.maximum]
    omega
  locks := by
    have held : manager.holds number = before.phase.lock? := by
      simp only [holds, found, Option.bind_some]
    have holders : next.holds = Function.update manager.holds number after.phase.lock? := by
      funext other
      simp only [holds, advance.calls, Locks.getElem?_set_of_found found after]
      by_cases same : other = number
      · subst same
        simp
      · simp [same, holds]
    rw [holders]
    have locks := advance.locks
    generalize before.phase.lock? = old at locks held
    generalize after.phase.lock? = new at locks
    cases locks with
    | same locks =>
      rw [locks, ← held, Function.update_eq_self]
      exact balanced.locks
    | acquired free locks =>
      rw [locks]
      exact balanced.locks.acquire held free
    | released locks =>
      rw [locks]
      exact balanced.locks.release held

theorem Balanced.submit (balanced : Balanced manager) (thread : ThreadId) :
    Balanced { manager with calls := manager.calls ++ [({ thread := thread } : Call)] } where
  sound := by
    intro call present
    rcases mem_append.mp present with old | new
    · exact balanced.sound call old
    · obtain rfl := mem_singleton.mp new
      exact ⟨rfl, rfl, rfl, rfl⟩
  permits := by
    have total := balanced.permits
    simp only [map_append, sum_append, map_cons, map_nil, sum_cons,
      sum_nil]
    exact total
  locks := by
    have same : { manager with calls := manager.calls ++ [({ thread := thread } : Call)] }.holds = manager.holds := by
      funext number
      simp only [holds]
      rcases Nat.lt_trichotomy number manager.calls.length with older | rfl | beyond
      · rw [getElem?_append_left older]
      · rw [getElem?_concat_length, getElem?_eq_none le_rfl]
        rfl
      · rw [getElem?_eq_none (by simp; omega), getElem?_eq_none (by omega)]
    rw [same]
    exact balanced.locks

/-! ### Sections of a call -/

/-- The tables of the manager may have changed, but no call and no lock. -/
structure Unmoved (manager next : RuntimeManager) : Prop where
  calls : next.calls = manager.calls
  maximum : next.maxConcurrentSessions = manager.maxConcurrentSessions
  available : next.available = manager.available
  submitLocked : next.submitLocked = manager.submitLocked
  closes : next.closes = manager.closes
  lifecycleLocked : next.lifecycleLocked = manager.lifecycleLocked

theorem Unmoved.refl (manager : RuntimeManager) : Unmoved manager manager :=
  ⟨rfl, rfl, rfl, rfl, rfl, rfl⟩

theorem dropOwner_unmoved (manager : RuntimeManager) (number : ℕ) (thread : ThreadId) :
    Unmoved manager (manager.dropOwner number thread) := by
  unfold dropOwner
  split
  · exact ⟨rfl, rfl, rfl, rfl, rfl, rfl⟩
  · exact .refl manager

theorem dropSession_unmoved (manager : RuntimeManager) (thread : ThreadId) (session : ℕ) :
    Unmoved manager (manager.dropSession thread session) := by
  unfold dropSession
  split
  · exact ⟨rfl, rfl, rfl, rfl, rfl, rfl⟩
  · exact .refl manager

theorem dropClosing_unmoved (manager : RuntimeManager) (number : ℕ) (thread : ThreadId) :
    Unmoved manager (manager.dropClosing number thread) := by
  unfold dropClosing
  split
  · exact ⟨rfl, rfl, rfl, rfl, rfl, rfl⟩
  · exact .refl manager

theorem setDefaultLock_unmoved (manager : RuntimeManager) (thread : ThreadId) :
    Unmoved manager (manager.setDefaultLock thread) := by
  unfold setDefaultLock
  split
  · exact .refl manager
  · exact ⟨rfl, rfl, rfl, rfl, rfl, rfl⟩

theorem Balanced.unmoved (balanced : Balanced manager) (unmoved : Unmoved manager next) :
    Balanced next :=
  balanced.congr unmoved.calls unmoved.available unmoved.maximum unmoved.submitLocked

section Sections

variable {number : ℕ} {call : Call}

/-- The tables and the lifecycle locks may have changed; no permit and no submit lock has. -/
structure Kept (manager next : RuntimeManager) : Prop where
  calls : next.calls = manager.calls
  maximum : next.maxConcurrentSessions = manager.maxConcurrentSessions
  still : Still manager next
  available : next.available = manager.available
  submitLocked : next.submitLocked = manager.submitLocked

theorem Kept.refl (manager : RuntimeManager) : Kept manager manager :=
  ⟨rfl, rfl, .same rfl rfl, rfl, rfl⟩

theorem kept_coordinated (manager : RuntimeManager) (thread : ThreadId) :
    Kept manager ((manager.acquireLifecycle thread).releaseLifecycle thread) :=
  ⟨rfl, rfl, .coordinated rfl rfl, rfl, rfl⟩

/-- A submit lock that was not locked is unlocked again. -/
theorem update_unlocked {locked : ℕ → Bool} {lock : ℕ} (free : locked lock = false) :
    Function.update (Function.update locked lock true) lock false = locked := by
  rw [Function.update_idem, ← free, Function.update_eq_self]

theorem kept_reserved {lock : ℕ} (thread : ThreadId) (free : manager.submitLocked lock = false) :
    Kept manager ((((manager.acquireLifecycle thread).acquireSubmit lock).releaseLifecycle
      thread).releaseSubmit lock) :=
  ⟨rfl, rfl, .coordinated rfl rfl, rfl, update_unlocked free⟩

theorem Kept.advance (kept : Kept manager next) {after : Call}
    (permits : after.acquired + call.released = call.acquired + after.released)
    (lock : after.phase.lock? = call.phase.lock?) (sound : after.Sound) :
    Advance manager number call after (next.put number after) := by
  refine .put kept.calls kept.maximum kept.still ?_ ?_ sound
  · have available := kept.available
    omega
  · rw [lock]
    exact .same kept.submitLocked

/-- What has not been queued yet can fail, with a submit lock that it gave back. -/
theorem Kept.fail (kept : Kept manager next)
    (fresh : call.acquired = 0 ∧ call.released = 0 ∧ call.locked = 0 ∧ call.unlocked = 0)
    (unheld : call.phase.lock? = none) (error : SubmitError) {lockings : ℕ} (once : lockings ≤ 1) :
    ∃ after, Advance manager number call after (next.put number
      { call with
        phase := .failed error
        locked := call.locked + lockings
        unlocked := call.unlocked + lockings }) := by
  refine ⟨_, kept.advance rfl unheld.symm ?_⟩
  show call.acquired = call.released ∧ call.acquired ≤ 1 ∧
    call.locked + lockings = call.unlocked + lockings ∧ call.locked + lockings ≤ 1
  omega

theorem openSession_advance (sound : call.Sound) (phase : call.phase = .opening) (built : Bool) :
    ∃ after, Advance manager number call after (manager.openSession number call built) := by
  simp only [Call.Sound, phase] at sound
  have unheld : call.phase.lock? = none := by rw [phase]; rfl
  have coordinated := kept_coordinated manager call.thread
  unfold openSession
  dsimp only
  split
  · exact ⟨_, coordinated.advance rfl unheld.symm sound⟩
  · split
    · have made : Kept manager
          ({ manager.acquireLifecycle call.thread with
              sessions := Function.update (manager.acquireLifecycle call.thread).sessions
                call.thread (some (manager.acquireLifecycle call.thread).madeSessions)
              madeSessions := (manager.acquireLifecycle call.thread).madeSessions + 1
            }.releaseLifecycle call.thread) :=
        ⟨rfl, rfl, .coordinated rfl rfl, rfl, rfl⟩
      exact ⟨_, made.advance rfl unheld.symm sound⟩
    · exact coordinated.fail sound unheld .failure (Nat.zero_le 1)

theorem enter_advance (sound : call.Sound) {session : ℕ} (phase : call.phase = .entering session)
    (answers : EnterAnswers) :
    ∃ after, Advance manager number call after (manager.enter number call session answers) := by
  simp only [Call.Sound, phase] at sound
  have unheld : call.phase.lock? = none := by rw [phase]; rfl
  have coordinated := kept_coordinated manager call.thread
  unfold enter
  dsimp only
  split
  case h_1 error _ => exact coordinated.fail sound unheld error (Nat.zero_le 1)
  case h_2 lock _ =>
    split
    · split
      · exact ⟨_, coordinated.advance rfl unheld.symm sound⟩
      · exact coordinated.fail sound unheld busy (Nat.zero_le 1)
    case isFalse free =>
      have free : manager.submitLocked lock = false := by simpa [acquireLifecycle] using free
      have reserved := kept_reserved call.thread free
      split
      case h_1 error _ => exact reserved.fail sound unheld (.session error) le_rfl
      case h_2 =>
        split
        case h_1 error _ =>
          have released : Kept manager ((((manager.acquireLifecycle call.thread).acquireSubmit
              lock).releaseSubmit lock).releaseLifecycle call.thread) :=
            ⟨rfl, rfl, .coordinated rfl rfl, rfl, update_unlocked free⟩
          exact released.fail sound unheld (.session error) le_rfl
        case h_2 =>
          rcases sound with ⟨acquired, released, locked, unlocked⟩
          refine ⟨_, .put rfl rfl (.coordinated rfl rfl) rfl ?_
            ⟨⟨acquired, released, rfl⟩, ?_, unlocked⟩⟩
          · rw [unheld]
            exact .acquired free rfl
          · show call.locked + 1 = 1
            omega

theorem retry_advance (sound : call.Sound) {session prior : ℕ}
    (phase : call.phase = .waiting session prior) (raised : Bool) :
    ∃ after, Advance manager number call after (manager.put number
      { call with phase := if raised then .failed .failure else .entering session }) := by
  simp only [Call.Sound, phase] at sound
  have unheld : call.phase.lock? = none := by rw [phase]; rfl
  cases raised with
  | true =>
    refine ⟨_, rfl, rfl, .same rfl rfl, rfl, ?_, ?_⟩
    · rw [unheld]
      exact .same rfl
    · show call.acquired = call.released ∧ call.acquired ≤ 1 ∧ call.locked = call.unlocked ∧
        call.locked ≤ 1
      omega
  | false =>
    refine ⟨_, rfl, rfl, .same rfl rfl, rfl, ?_, sound⟩
    rw [unheld]
    exact .same rfl

variable {owner : QueuedOwner}

theorem grant_advance (sound : call.Sound) (phase : call.phase = .queued owner)
    (some_ : 0 < manager.available) (fresh : owner.acquireTask = {}) :
    ∃ after, Advance manager number call after (manager.grant number call owner) := by
  simp only [Call.Sound, phase, QueuedOwner.Sound, fresh] at sound
  rcases sound with ⟨⟨acquired, released, going⟩, locked, unlocked⟩
  have none_ : call.acquired = 0 := by simpa using acquired
  refine ⟨_, rfl, rfl, .same rfl rfl, ?_, ?_, ?_⟩
  · simp only [grant, put]
    omega
  · rw [phase]
    exact .same rfl
  · refine ⟨?_, locked, unlocked⟩
    simp only [QueuedOwner.Sound, fresh]
    exact ⟨by rw [none_]; rfl, released, going⟩

theorem endAcquire_advance (sound : call.Sound)
    (phase : call.phase = .queued owner) (running : owner.acquireTask.result = none)
    (ends : owner.acquireTask.granted ∨ owner.acquireTask.cancelRequested) :
    ∃ after, Advance manager number call after (manager.endAcquire number call owner) := by
  simp only [Call.Sound, phase, QueuedOwner.Sound, running] at sound
  rcases sound with ⟨⟨acquired, released, going⟩, locked, unlocked⟩
  have held : call.phase.lock? = some owner.submitLock := by rw [phase]; rfl
  unfold endAcquire
  dsimp only
  split
  · split
    case isTrue granted =>
      rw [if_pos granted] at acquired
      refine ⟨_, rfl, rfl, .same rfl rfl, ?_, ?_, ⟨⟨?_, ?_⟩, locked, unlocked⟩⟩
      · simp only [put, releasePermit]
        omega
      · rw [held]
        exact .same rfl
      · show call.acquired = call.released + 1
        omega
      · exact le_of_eq acquired
    case isFalse granted =>
      rw [if_neg granted] at acquired
      refine ⟨_, rfl, rfl, .same rfl rfl, rfl, ?_, ⟨⟨?_, ?_⟩, locked, unlocked⟩⟩
      · rw [held]
        exact .same rfl
      · exact acquired.trans released.symm
      · show call.acquired ≤ 1
        omega
  case isFalse kept =>
    have granted := ends.resolve_right kept
    rw [if_pos granted] at acquired
    refine ⟨_, rfl, rfl, .same rfl rfl, rfl, ?_, ⟨⟨acquired, released, going⟩, locked, unlocked⟩⟩
    rw [held]
    exact .same rfl

/-- The acquire task of a queued call is cancelled before it is done. -/
theorem cancelAcquire_sound (sound : call.Sound) {released : Bool}
    (phase : call.phase = .queued owner) (running : owner.acquireTask.done = false) :
    Call.Sound { call with
      phase := .queued { owner with released, acquireTask := owner.acquireTask.cancel } } := by
  have unended : owner.acquireTask.result = none := by
    simpa [AcquireTask.done] using running
  simp only [Call.Sound, phase, QueuedOwner.Sound, unended] at sound
  have cancelled : owner.acquireTask.cancel = { owner.acquireTask with cancelRequested := true } := by
    rw [AcquireTask.cancel, running]
    rfl
  show QueuedOwner.Sound _ _ _ ∧ _
  rw [cancelled]
  simp only [QueuedOwner.Sound, unended]
  exact sound

/-- A submit that is cancelled between the end of its acquire task and its own next section loses
the permit. -/
def CancelsAcquired (manager : RuntimeManager) : ManagerLabel → Prop
  | .cancelSubmit number => ∃ call, manager.calls[number]? = some call ∧
      ∃ owner, call.phase = .queued owner ∧ owner.acquireTask.result = some true
  | _ => False

theorem cancelSubmit_advance (sound : call.Sound) (found : manager.calls[number]? = some call)
    (unraced : ¬manager.CancelsAcquired (.cancelSubmit number)) :
    manager.cancelSubmit number call = manager ∨
      ∃ after, Advance manager number call after (manager.cancelSubmit number call) := by
  cases phase : call.phase with
  | opening =>
    simp only [cancelSubmit, phase]
    simp only [Call.Sound, phase] at sound
    exact Or.inr ((Kept.refl manager).fail sound (by rw [phase]; rfl) .cancelled (Nat.zero_le 1))
  | entering session =>
    simp only [cancelSubmit, phase]
    simp only [Call.Sound, phase] at sound
    exact Or.inr ((Kept.refl manager).fail sound (by rw [phase]; rfl) .cancelled (Nat.zero_le 1))
  | waiting session prior =>
    simp only [cancelSubmit, phase]
    simp only [Call.Sound, phase] at sound
    exact Or.inr ((Kept.refl manager).fail sound (by rw [phase]; rfl) .cancelled (Nat.zero_le 1))
  | queued owner =>
    simp only [cancelSubmit, phase]
    right
    split
    case isTrue ended =>
      simp only [Call.Sound, phase, QueuedOwner.Sound] at sound
      refine ⟨_, rfl, rfl, .same rfl rfl, rfl, ?_, ?_⟩
      · rw [phase]
        exact .same rfl
      · cases result : owner.acquireTask.result with
        | none =>
          rw [AcquireTask.done, result] at ended
          cases ended
        | some acquired =>
          cases acquired with
          | true => exact absurd ⟨call, found, owner, phase, result⟩ unraced
          | false =>
            simp only [result] at sound
            show QueuedOwner.Sound _ _ _ ∧ _
            simp only [QueuedOwner.Sound, result]
            exact sound
    case isFalse running =>
      refine ⟨_, rfl, rfl, .same rfl rfl, rfl, ?_, cancelAcquire_sound sound phase (by simpa using running)⟩
      rw [phase]
      exact .same rfl
  | running lock settled =>
    left
    simp only [cancelSubmit, phase]
  | released =>
    left
    simp only [cancelSubmit, phase]
  | forgotten =>
    left
    simp only [cancelSubmit, phase]
  | failed error =>
    left
    simp only [cancelSubmit, phase]

theorem resume_advance (sound : call.Sound) (phase : call.phase = .queued owner)
    (ended : owner.acquireTask.done = true) (answers : ResumeAnswers) :
    ∃ after, Advance manager number call after (manager.resume number call owner answers) := by
  simp only [Call.Sound, phase, QueuedOwner.Sound] at sound
  have held : call.phase.lock? = some owner.submitLock := by rw [phase]; rfl
  unfold resume
  split
  case isTrue acquired =>
    simp only [acquired.1] at sound
    rcases sound with ⟨⟨acquired, released, _⟩, locked, unlocked⟩
    split
    case h_1 error _ =>
      have dropped := dropOwner_unmoved (manager.releasePermit.releaseSubmit owner.submitLock) number
        call.thread
      refine ⟨_, .put dropped.calls dropped.maximum
        (.same dropped.closes dropped.lifecycleLocked) ?_ ?_ ?_⟩
      · rw [dropped.available]
        simp only [releaseSubmit, releasePermit]
        omega
      · rw [held]
        exact .released dropped.submitLocked
      · show call.acquired = call.released + 1 ∧ call.acquired ≤ 1 ∧
          call.locked = call.unlocked + 1 ∧ call.locked ≤ 1
        omega
    case h_2 =>
      have dropped := dropOwner_unmoved manager number call.thread
      refine ⟨_, .put dropped.calls dropped.maximum
        (.same dropped.closes dropped.lifecycleLocked) ?_ ?_ ⟨acquired, released, locked, unlocked⟩⟩
      · rw [dropped.available]
      · rw [held]
        exact .same dropped.submitLocked
  case isFalse raises =>
    have dropped := dropOwner_unmoved (manager.releaseSubmit owner.submitLock) number call.thread
    have balanced : call.acquired = call.released ∧ call.acquired ≤ 1 := by
      cases result : owner.acquireTask.result with
      | none =>
        rw [AcquireTask.done, result] at ended
        cases ended
      | some acquired =>
        simp only [result] at sound
        cases acquired with
        | true => exact absurd ⟨result, sound.1.2.2⟩ raises
        | false => exact sound.1
    have locks : call.locked = 1 ∧ call.unlocked = 0 := sound.2
    refine ⟨_, .put dropped.calls dropped.maximum
        (.same dropped.closes dropped.lifecycleLocked) ?_ ?_ ?_⟩
    · rw [dropped.available]
      rfl
    · rw [held]
      exact .released dropped.submitLocked
    · show call.acquired = call.released ∧ call.acquired ≤ 1 ∧
        call.locked = call.unlocked + 1 ∧ call.locked ≤ 1
      omega

theorem settle_advance (sound : call.Sound) {lock : ℕ} (phase : call.phase = .running lock false) :
    ∃ after, Advance manager number call after
      (manager.put number { call with phase := .running lock true }) := by
  simp only [Call.Sound, phase] at sound
  refine ⟨_, rfl, rfl, .same rfl rfl, rfl, ?_, sound⟩
  rw [phase]
  exact .same rfl

theorem releaseWhenDone_advance (sound : call.Sound) {lock : ℕ}
    (phase : call.phase = .running lock true) :
    ∃ after, Advance manager number call after (manager.releaseWhenDone number call lock) := by
  simp only [Call.Sound, phase] at sound
  refine ⟨_, rfl, rfl, .same rfl rfl, ?_, ?_, ?_⟩
  · simp only [releaseWhenDone, put, releaseSubmit, releasePermit]
    omega
  · rw [phase]
    exact .released rfl
  · show call.acquired = 1 ∧ call.released + 1 = 1 ∧ call.locked = 1 ∧ call.unlocked + 1 = 1
    omega

theorem forgetRelease_advance (sound : call.Sound) (phase : call.phase = .released) :
    ∃ after, Advance manager number call after (manager.forgetRelease number call) := by
  simp only [Call.Sound, phase] at sound
  have unheld : call.phase.lock? = none := by rw [phase]; rfl
  unfold forgetRelease
  dsimp only
  split
  · refine ⟨_, rfl, rfl, .same rfl rfl, rfl, ?_, sound⟩
    rw [unheld]
    exact .same rfl
  · refine ⟨_, rfl, rfl, .same rfl rfl, rfl, ?_, sound⟩
    rw [unheld]
    exact .same rfl

end Sections

end RuntimeManager

end Synapse.Manager
