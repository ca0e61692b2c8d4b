import Synapse.Manager.Permits

/-!
# No leak

In every run in which no submit is cancelled between the end of its acquire task and its
own next section, every permit and every submit lock that is taken is given back once, and
when nothing is in progress all of them are back.
-/

namespace Synapse.Manager

namespace RuntimeManager

variable {manager next : RuntimeManager}

/-! ### The lifecycle locks -/

/-- Between two sections, a lifecycle lock is held by a close that waits for its session. -/
def Coordinated (manager : RuntimeManager) : Prop :=
  ∀ thread, manager.lifecycleLocked thread = true → ∃ (number : ℕ) (close : Close) (session : ℕ),
    manager.closes[number]? = some close ∧ close.thread = thread ∧ close.phase = .strict session

theorem Coordinated.still (coordinated : Coordinated manager) (still : Still manager next) :
    Coordinated next := by
  intro thread locked
  rw [still.closes]
  exact coordinated thread (still.lifecycle thread locked)

theorem Coordinated.close (coordinated : Coordinated manager) {close : Close}
    (closes : next.closes = manager.closes ++ [close])
    (lifecycle : next.lifecycleLocked = manager.lifecycleLocked) : Coordinated next := by
  intro thread locked
  rw [lifecycle] at locked
  rcases coordinated thread locked with ⟨number, other, session, found, same, strict⟩
  refine ⟨number, other, session, ?_, same, strict⟩
  rw [closes, List.getElem?_append_left (List.getElem?_eq_some_iff.mp found).1, found]

variable {number : ℕ}
variable {after : Close}

/-- A section of one close; it keeps a lifecycle lock only if it waits for its session. -/
theorem Coordinated.replace (coordinated : Coordinated manager) {before : Close}
    (found : manager.closes[number]? = some before)
    (closes : next.closes = manager.closes.set number after)
    (lifecycle : ∀ thread, next.lifecycleLocked thread = true →
      (manager.lifecycleLocked thread = true ∧
        (before.thread = thread → ∀ session, before.phase ≠ .strict session)) ∨
      (after.thread = thread ∧ ∃ session, after.phase = .strict session)) : Coordinated next := by
  intro thread locked
  rw [closes]
  rcases lifecycle thread locked with ⟨was, others⟩ | ⟨same, session, strict⟩
  · rcases coordinated thread was with ⟨other, close, session, stored, same, strict⟩
    have different : other ≠ number := by
      rintro rfl
      obtain rfl := Option.mem_unique found stored
      exact others same session strict
    refine ⟨other, close, session, ?_, same, strict⟩
    rw [Locks.getElem?_set_of_found found, if_neg different, stored]
  · refine ⟨number, after, session, ?_, same, strict⟩
    rw [Locks.getElem?_set_of_found found, if_pos rfl]

theorem Coordinated.leave (coordinated : Coordinated manager) {before : Close}
    {changed : RuntimeManager} (found : manager.closes[number]? = some before)
    (closes : changed.closes = manager.closes.set number after)
    (others : ∀ thread, thread ≠ before.thread → changed.lifecycleLocked thread = true →
      manager.lifecycleLocked thread = true) :
    Coordinated (changed.releaseLifecycle before.thread) := by
  refine coordinated.replace found closes fun thread locked => ?_
  by_cases same : thread = before.thread
  · rw [same] at locked
    simp [releaseLifecycle] at locked
  · have unreleased : changed.lifecycleLocked thread = true := by
      simpa [releaseLifecycle, Function.update_of_ne same] using locked
    exact Or.inl ⟨others thread same unreleased, fun own => absurd own.symm same⟩

theorem acquireLifecycle_of_ne {thread other : ThreadId} (different : other ≠ thread) :
    (manager.acquireLifecycle thread).lifecycleLocked other = manager.lifecycleLocked other :=
  Function.update_of_ne different _ _

/-! ### Steps -/

/-- What holds of a manager in every run that loses no permit. -/
structure Sound (manager : RuntimeManager) : Prop where
  balanced : Balanced manager
  coordinated : Coordinated manager

theorem Sound.advance (sound : Sound manager) {before after : Call}
    (found : manager.calls[number]? = some before)
    (advance : Advance manager number before after next) : Sound next :=
  ⟨sound.balanced.advance found advance, sound.coordinated.still advance.still⟩

theorem releaseOwner_cases (balanced : Balanced manager) (thread : ThreadId) :
    manager.releaseOwner thread = manager ∨ ∃ (number : ℕ) (call after : Call),
      manager.calls[number]? = some call ∧
        Advance manager number call after (manager.releaseOwner thread) := by
  unfold releaseOwner
  split
  · exact Or.inl rfl
  case h_2 number _ =>
    split
    case h_1 call found =>
      split
      case h_1 owner phase =>
        split
        · exact Or.inl rfl
        case isFalse running =>
          have sound := balanced.sound call (List.mem_of_getElem? found)
          refine Or.inr ⟨number, call, _, found, .put rfl rfl (.same rfl rfl) rfl ?_
            (cancelAcquire_sound sound phase (by simpa using running))⟩
          rw [phase]
          exact .same rfl
      case h_2 => exact Or.inl rfl
    case h_2 => exact Or.inl rfl

theorem Balanced.releaseOwner (balanced : Balanced manager) (thread : ThreadId) :
    Balanced (manager.releaseOwner thread) ∧ Still manager (manager.releaseOwner thread) := by
  rcases releaseOwner_cases balanced thread with same | ⟨number, call, after, found, advance⟩
  · rw [same]
    exact ⟨balanced, .same rfl rfl⟩
  · exact ⟨balanced.advance found advance, advance.still⟩

theorem Sound.closeSessionRef (sound : Sound manager) {close : Close}
    (found : manager.closes[number]? = some close) (entering : close.phase = .entering) :
    Sound (manager.closeSessionRef number close) := by
  have unstrict : ∀ session, close.phase ≠ .strict session := by
    rw [entering]
    rintro _ ⟨⟩
  have ended : Sound (((manager.acquireLifecycle close.thread).putClose number
      { close with phase := .ended }).releaseLifecycle close.thread) := by
    refine ⟨sound.balanced.congr rfl rfl rfl rfl, sound.coordinated.leave found rfl ?_⟩
    intro thread different locked
    rwa [← acquireLifecycle_of_ne different]
  unfold RuntimeManager.closeSessionRef
  dsimp only
  split
  · exact ended
  split
  · exact ended
  case h_2 session _ =>
    split
    case isTrue =>
      have claimed : Balanced { manager.acquireLifecycle close.thread with
          closing := Function.update (manager.acquireLifecycle close.thread).closing close.thread
            (some number) } :=
        sound.balanced.congr rfl rfl rfl rfl
      rcases claimed.releaseOwner close.thread with ⟨balanced, still⟩
      have closes := fun after : Close => congrArg (List.set · number after) still.closes
      refine ⟨balanced.congr rfl rfl rfl rfl, sound.coordinated.leave found (closes _) ?_⟩
      intro thread different locked
      rw [← acquireLifecycle_of_ne different]
      exact still.lifecycle thread locked
    case isFalse =>
      refine ⟨sound.balanced.congr rfl rfl rfl rfl, sound.coordinated.replace found rfl ?_⟩
      intro thread locked
      by_cases same : thread = close.thread
      · exact Or.inr ⟨same.symm, session, rfl⟩
      · left
        refine ⟨?_, fun _ => unstrict⟩
        rwa [← acquireLifecycle_of_ne same]

variable {session : ℕ}

theorem Sound.strictClosed (sound : Sound manager) {close : Close}
    (found : manager.closes[number]? = some close) (raised : Bool) :
    Sound (manager.strictClosed number close session raised) := by
  have ended : Balanced (manager.putClose number { close with phase := .ended }) :=
    sound.balanced.congr rfl rfl rfl rfl
  unfold RuntimeManager.strictClosed
  dsimp only
  split
  · exact ⟨ended.congr rfl rfl rfl rfl,
      sound.coordinated.leave found rfl fun _ _ locked => locked⟩
  · have dropped := dropSession_unmoved (manager.putClose number { close with phase := .ended })
      close.thread session
    refine ⟨(ended.unmoved dropped).congr rfl rfl rfl rfl,
      sound.coordinated.leave found dropped.closes fun _ _ locked => ?_⟩
    rwa [dropped.lifecycleLocked] at locked

/-- A section of `_finish_close`. -/
theorem Sound.finish (sound : Sound manager) {close : Close}
    (found : manager.closes[number]? = some close) (unstrict : ∀ session, close.phase ≠ .strict session)
    (unmoved : Unmoved manager next) : Sound (next.putClose number after) := by
  have closes := congrArg (List.set · number after) unmoved.closes
  refine ⟨(sound.balanced.unmoved unmoved).congr rfl rfl rfl rfl,
    sound.coordinated.replace found closes fun thread locked => ?_⟩
  rw [← unmoved.lifecycleLocked]
  exact Or.inl ⟨locked, fun _ => unstrict⟩

theorem Unmoved.trans {middle : RuntimeManager} (first : Unmoved manager middle)
    (second : Unmoved middle next) : Unmoved manager next where
  calls := second.calls.trans first.calls
  maximum := second.maximum.trans first.maximum
  available := second.available.trans first.available
  submitLocked := second.submitLocked.trans first.submitLocked
  closes := second.closes.trans first.closes
  lifecycleLocked := second.lifecycleLocked.trans first.lifecycleLocked

theorem Sound.finishClose (sound : Sound manager) {close : Close}
    (found : manager.closes[number]? = some close) (unstrict : ∀ session, close.phase ≠ .strict session)
    (raised : Bool) : Sound (manager.finishClose number close session raised) := by
  unfold RuntimeManager.finishClose
  dsimp only
  split
  · exact sound.finish found unstrict (dropClosing_unmoved manager number close.thread)
  · exact sound.finish found unstrict ((dropSession_unmoved manager close.thread session).trans
      (dropClosing_unmoved _ number close.thread))

theorem Sound.submit (sound : Sound manager) (thread : ThreadId) :
    Sound { manager.setDefaultLock thread with
      calls := (manager.setDefaultLock thread).calls ++ [({ thread := thread } : Call)] } := by
  have known := setDefaultLock_unmoved manager thread
  exact ⟨(sound.balanced.unmoved known).submit thread,
    sound.coordinated.still (.same known.closes known.lifecycleLocked)⟩

theorem Sound.close (sound : Sound manager) (thread : ThreadId) (cancelActive : Bool) :
    Sound { manager.setDefaultLock thread with
      closes := (manager.setDefaultLock thread).closes ++
        [({ thread := thread, cancelActive := cancelActive } : Close)] } := by
  have known := setDefaultLock_unmoved manager thread
  refine ⟨(sound.balanced.unmoved known).congr rfl rfl rfl rfl,
    sound.coordinated.close (congrArg (· ++ _) known.closes) known.lifecycleLocked⟩

theorem Sound.step (sound : Sound manager) {label : ManagerLabel}
    (unraced : ¬manager.CancelsAcquired label) (stepped : machine.step manager label = some next) :
    Sound next := by
  have calling : ∀ {number : ℕ} {action : Call → Option RuntimeManager},
      manager.calling number action = some next → ∃ call, manager.calls[number]? = some call ∧
        action call = some next ∧ call.Sound := by
    intro number action called
    rcases Option.bind_eq_some_iff.mp called with ⟨call, found, acted⟩
    exact ⟨call, found, acted, sound.balanced.sound call (List.mem_of_getElem? found)⟩
  have moved : ∀ {number : ℕ} {call : Call} {changed : RuntimeManager},
      manager.calls[number]? = some call → (∃ after, Advance manager number call after changed) →
        Sound changed := by
    rintro number call changed found ⟨after, advance⟩
    exact sound.advance found advance
  cases label with
  | submit thread =>
    cases stepped
    exact sound.submit thread
  | openSession number built =>
    rcases calling stepped with ⟨call, found, acted, fine⟩
    split at acted
    case isTrue ready =>
      cases acted
      exact moved found (openSession_advance fine ready.1 built)
    case isFalse => cases acted
  | enter number answers =>
    rcases calling stepped with ⟨call, found, acted, fine⟩
    split at acted
    case h_1 session phase =>
      rcases of_guard acted with ⟨_, rfl⟩
      exact moved found (enter_advance fine phase answers)
    case h_2 => cases acted
  | openRaised number =>
    rcases calling stepped with ⟨call, found, acted, fine⟩
    split at acted
    case isTrue ready =>
      cases acted
      simp only [Call.Sound, ready.1] at fine
      exact moved found ((Kept.refl manager).fail fine (by rw [ready.1]; rfl) .failure
        (Nat.zero_le 1))
    case isFalse => cases acted
  | retry number raised =>
    rcases calling stepped with ⟨call, found, acted, fine⟩
    split at acted
    case h_1 session prior phase =>
      rcases of_guard acted with ⟨_, rfl⟩
      exact moved found (retry_advance fine phase raised)
    case h_2 => cases acted
  | grant number =>
    rcases calling stepped with ⟨call, found, acted, fine⟩
    split at acted
    case h_1 owner phase =>
      split at acted
      case isTrue free =>
        cases acted
        exact moved found (grant_advance fine phase free.1 free.2)
      case isFalse => cases acted
    case h_2 => cases acted
  | endAcquire number =>
    rcases calling stepped with ⟨call, found, acted, fine⟩
    split at acted
    case h_1 owner phase =>
      split at acted
      case isTrue ends =>
        cases acted
        exact moved found (endAcquire_advance fine phase ends.1 ends.2)
      case isFalse => cases acted
    case h_2 => cases acted
  | cancelSubmit number =>
    rcases calling stepped with ⟨call, found, acted, fine⟩
    cases acted
    rcases cancelSubmit_advance fine found unraced with same | advance
    · rw [same]
      exact sound
    · exact moved found advance
  | resume number answers =>
    rcases calling stepped with ⟨call, found, acted, fine⟩
    split at acted
    case h_1 owner phase =>
      split at acted
      case isTrue ended =>
        cases acted
        exact moved found (resume_advance fine phase ended answers)
      case isFalse => cases acted
    case h_2 => cases acted
  | settle number =>
    rcases calling stepped with ⟨call, found, acted, fine⟩
    split at acted
    case h_1 lock phase =>
      cases acted
      exact moved found (settle_advance fine phase)
    case h_2 => cases acted
  | releaseWhenDone number =>
    rcases calling stepped with ⟨call, found, acted, fine⟩
    split at acted
    case h_1 lock phase =>
      cases acted
      exact moved found (releaseWhenDone_advance fine phase)
    case h_2 => cases acted
  | forgetRelease number =>
    rcases calling stepped with ⟨call, found, acted, fine⟩
    split at acted
    case isTrue phase =>
      cases acted
      exact moved found (forgetRelease_advance fine phase)
    case isFalse => cases acted
  | close thread cancelActive =>
    cases stepped
    exact sound.close thread cancelActive
  | closeSessionRef number =>
    rcases Option.bind_eq_some_iff.mp stepped with ⟨close, found, acted⟩
    split at acted
    case isTrue ready =>
      cases acted
      exact sound.closeSessionRef found ready.1
    case isFalse => cases acted
  | strictClosed number raised =>
    rcases Option.bind_eq_some_iff.mp stepped with ⟨close, found, acted⟩
    split at acted
    case h_1 session phase =>
      cases acted
      exact sound.strictClosed found raised
    case h_2 => cases acted
  | finishCleanup number =>
    rcases Option.bind_eq_some_iff.mp stepped with ⟨close, found, acted⟩
    split at acted
    case h_1 session owner phase =>
      rcases of_guard acted with ⟨_, rfl⟩
      refine sound.finish found ?_ (.refl manager)
      rw [phase]
      rintro _ ⟨⟩
    case h_2 => cases acted
  | finishSession number raised =>
    rcases Option.bind_eq_some_iff.mp stepped with ⟨close, found, acted⟩
    split at acted
    case h_1 session phase =>
      have unstrict : ∀ session, close.phase ≠ .strict session := by
        rw [phase]
        rintro _ ⟨⟩
      cases acted
      unfold finishSession
      split
      · exact sound.finish found unstrict (dropClosing_unmoved manager number close.thread)
      · exact sound.finish found unstrict (.refl manager)
    case h_2 => cases acted
  | finishClose number raised =>
    rcases Option.bind_eq_some_iff.mp stepped with ⟨close, found, acted⟩
    split at acted
    case h_1 session releaseTask phase =>
      rcases Option.ite_none_right_eq_some.mp acted with ⟨_, acted⟩
      have unstrict : ∀ session, close.phase ≠ .strict session := by
        rw [phase]
        rintro _ ⟨⟩
      cases acted
      exact sound.finishClose found unstrict raised
    case h_2 => cases acted

/-! ### Runs -/

/-- Nothing is in progress: no submit, no turn that is unsettled or still to be released, and no
close that waits for its session. -/
structure Quiescent (manager : RuntimeManager) : Prop where
  calls : ∀ call ∈ manager.calls, call.Over
  closes : ∀ close ∈ manager.closes, ∀ session, close.phase ≠ .strict session

/-- Permits and locks are given back exactly once. -/
structure NoLeak (manager : RuntimeManager) : Prop where
  once : ∀ call ∈ manager.calls, call.released ≤ call.acquired ∧ call.acquired ≤ 1 ∧
    call.unlocked ≤ call.locked ∧ call.locked ≤ 1
  returned : ∀ call ∈ manager.calls, call.Over →
    call.released = call.acquired ∧ call.unlocked = call.locked
  /-- A submit lock is locked exactly while one call holds it. -/
  locks : Locks.Exclusive manager.holds manager.submitLocked
  unsettled : manager.calls.countP (·.Unsettled) ≤ manager.maxConcurrentSessions
  quiescent : manager.Quiescent → manager.available = manager.maxConcurrentSessions ∧
    (∀ lock, manager.submitLocked lock = false) ∧
    ∀ thread, manager.lifecycleLocked thread = false

variable {call : Call}

theorem returned_of_over (sound : call.Sound) (ended : call.Over) :
    call.released = call.acquired ∧ call.unlocked = call.locked := by
  unfold Call.Over at ended
  unfold Call.Sound at sound
  cases phase : call.phase with
  | released | forgotten | failed error =>
    simp only [phase] at sound
    omega
  | opening | entering session | waiting session prior | queued owner | running lock settled =>
    simp only [phase] at ended

theorem lock?_of_over (ended : call.Over) : call.phase.lock? = none := by
  unfold Call.Over at ended
  cases phase : call.phase with
  | released | forgotten | failed error => rfl
  | opening | entering session | waiting session prior | queued owner | running lock settled =>
    simp only [phase] at ended

theorem Balanced.unsettled_le (balanced : Balanced manager) :
    manager.calls.countP (·.Unsettled) ≤ manager.maxConcurrentSessions := by
  have bounded : ∀ call ∈ manager.calls,
      (if decide call.Unsettled then 1 else 0) + call.released ≤ call.acquired := by
    intro call present
    have sound := balanced.sound call present
    split
    case isTrue unsettled =>
      rcases of_decide_eq_true unsettled with ⟨lock, phase⟩
      simp only [Call.Sound, phase] at sound
      omega
    case isFalse =>
      have within := sound.released_le
      omega
  have total := Locks.countP_add_released_le bounded
  have permits : manager.available + (manager.calls.map Call.acquired).sum =
      manager.maxConcurrentSessions + (manager.calls.map Call.released).sum := balanced.permits
  omega

theorem Sound.noLeak (sound : Sound manager) : NoLeak manager where
  once := fun call present => (sound.balanced.sound call present).released_le
  returned := fun call present => returned_of_over (sound.balanced.sound call present)
  locks := sound.balanced.locks
  unsettled := sound.balanced.unsettled_le
  quiescent := by
    intro quiescent
    refine ⟨?_, ?_, ?_⟩
    · have same : manager.calls.map (·.released) = manager.calls.map (·.acquired) :=
        List.map_congr_left fun call present =>
          (returned_of_over (sound.balanced.sound call present) (quiescent.calls call present)).1
      have permits := sound.balanced.permits
      rw [same] at permits
      exact Nat.add_right_cancel permits
    · refine sound.balanced.locks.unlocked fun number => ?_
      rw [holds]
      cases found : manager.calls[number]? with
      | none => rfl
      | some call => exact lock?_of_over (quiescent.calls call (List.mem_of_getElem? found))
    · intro thread
      cases locked : manager.lifecycleLocked thread with
      | false => rfl
      | true =>
        rcases sound.coordinated thread locked with ⟨_, close, session, found, _, strict⟩
        exact absurd strict (quiescent.closes close (List.mem_of_getElem? found) session)

theorem init_sound (maxConcurrentSessions : ℤ) : Sound (init maxConcurrentSessions) where
  balanced :=
    { sound := by
        intro call present
        cases present
      permits := rfl
      locks := Locks.exclusive_none }
  coordinated := by
    intro thread locked
    cases locked

/-- In every run in which no submit is cancelled when its acquire task has just ended, nothing
leaks. -/
theorem noLeak_of_unraced {maxConcurrentSessions : ℤ} {labels : List ManagerLabel}
    (unraced : machine.Guarded (fun manager label => ¬manager.CancelsAcquired label)
      (init maxConcurrentSessions) labels)
    (ran : machine.run (init maxConcurrentSessions) labels = some manager) : NoLeak manager :=
  (Machine.run_invariant_of_guarded (fun sound unraced stepped => sound.step unraced stepped)
    (init_sound maxConcurrentSessions) unraced ran).noLeak

instance (manager : RuntimeManager) (label : ManagerLabel) :
    Decidable (manager.CancelsAcquired label) :=
  match label with
  | .cancelSubmit number =>
    have (phase : Phase) : Decidable (∃ owner, phase = .queued owner ∧
        owner.acquireTask.result = some true) :=
      match phase with
      | .queued owner => decidable_of_iff (owner.acquireTask.result = some true) (by simp)
      | .opening | .entering _ | .waiting _ _ | .running _ _ | .released | .forgotten
      | .failed _ => isFalse (by simp)
    inferInstanceAs (Decidable (∃ call, manager.calls[number]? = some call ∧ _))
  | .submit _ | .openSession _ _ | .enter _ _ | .openRaised _ | .retry _ _ | .grant _
  | .endAcquire _ | .resume _ _ | .settle _ | .releaseWhenDone _ | .forgetRelease _ | .close _ _
  | .closeSessionRef _ | .strictClosed _ _ | .finishCleanup _ | .finishSession _ _
  | .finishClose _ _ => isFalse id

/-- The only permit goes from a turn to a queued submit, which a close releases. -/
theorem noLeak_of_unraced_closed :
    ∃ manager, machine.run (init 1)
        [.submit (Text.ofString "a"), .openSession 0 true, .enter 0 {}, .grant 0, .endAcquire 0,
          .resume 0 {}, .submit (Text.ofString "b"), .openSession 1 true, .enter 1 {},
          .close (Text.ofString "b") true, .closeSessionRef 0, .endAcquire 1, .resume 1 {},
          .finishCleanup 0, .finishSession 0 false, .finishClose 0 false, .settle 0,
          .releaseWhenDone 0] = some manager ∧
      NoLeak manager ∧ manager.available = 1 ∧ manager.submitLocked 0 = false := by
  have taken : machine.Guarded (fun manager label => ¬manager.CancelsAcquired label) (init 1)
        [.submit (Text.ofString "a"), .openSession 0 true, .enter 0 {}, .grant 0, .endAcquire 0,
          .resume 0 {}, .submit (Text.ofString "b"), .openSession 1 true, .enter 1 {},
          .close (Text.ofString "b") true, .closeSessionRef 0, .endAcquire 1, .resume 1 {},
          .finishCleanup 0, .finishSession 0 false, .finishClose 0 false, .settle 0,
          .releaseWhenDone 0] ∧
      ∃ manager, machine.run (init 1)
        [.submit (Text.ofString "a"), .openSession 0 true, .enter 0 {}, .grant 0, .endAcquire 0,
          .resume 0 {}, .submit (Text.ofString "b"), .openSession 1 true, .enter 1 {},
          .close (Text.ofString "b") true, .closeSessionRef 0, .endAcquire 1, .resume 1 {},
          .finishCleanup 0, .finishSession 0 false, .finishClose 0 false, .settle 0,
          .releaseWhenDone 0] = some manager ∧
        manager.available = 1 ∧ manager.submitLocked 0 = false := by
    decide +kernel
  rcases taken with ⟨unraced, manager, ran, available, unlocked⟩
  exact ⟨manager, ran, noLeak_of_unraced unraced ran, available, unlocked⟩

/-- The submit is cancelled after its acquire task has ended, and its permit is lost. -/
theorem permit_leaked :
    ∃ manager, machine.run (init 1)
        [.submit (Text.ofString "a"), .openSession 0 true, .enter 0 {}, .grant 0, .endAcquire 0,
          .cancelSubmit 0, .resume 0 {}] = some manager ∧ ¬NoLeak manager := by
  have taken : ∃ manager, machine.run (init 1)
        [.submit (Text.ofString "a"), .openSession 0 true, .enter 0 {}, .grant 0, .endAcquire 0,
          .cancelSubmit 0, .resume 0 {}] = some manager ∧
      (∀ call ∈ manager.calls, call.Over) ∧ manager.closes = [] ∧ manager.available = 0 ∧
        manager.maxConcurrentSessions = 1 := by
    decide +kernel
  rcases taken with ⟨manager, ran, ended, none_, available, maximum⟩
  refine ⟨manager, ran, fun noLeak => ?_⟩
  have quiescent : manager.Quiescent := by
    refine ⟨ended, fun close present => ?_⟩
    rw [none_] at present
    cases present
  have full := (noLeak.quiescent quiescent).1
  omega

end RuntimeManager

end Synapse.Manager
