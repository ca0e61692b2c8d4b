import Synapse.Turns.Session

/-!
# The runtime manager

`RuntimeManager` starts the turns of many sessions under one semaphore, and closes the
sessions. It lives on one event loop: a call runs from one `await` to the next without
being interrupted, and each such section is a function here. What a session answers is
carried by the labels, so the laws of the manager hold whatever it answers.
-/

namespace Synapse.Manager

open Turns (SessionError)

abbrev ThreadId := Text

/-- What `submit` raises. -/
inductive SubmitError where
  | session (error : SessionError)
  | keyError
  | cancelled
  /-- The agent or the runtime of the session cannot be built. -/
  | failure
  deriving DecidableEq, Repr

/-- The task of `semaphore.acquire()`. The semaphore grants the permit to a waiter; the task
returns later, or gives the permit back when it is cancelled in between. -/
structure AcquireTask where
  granted : Bool := false
  cancelRequested : Bool := false
  result : Option Bool := none
  deriving DecidableEq, Repr

def AcquireTask.done (task : AcquireTask) : Bool :=
  task.result.isSome

/-- A task that is done cannot be cancelled. -/
def AcquireTask.cancel (task : AcquireTask) : AcquireTask :=
  if task.done then task else { task with cancelRequested := true }

/-- `_QueuedOwner`. Its `cleanup` is done when the call is no longer queued. `mustCancel` is the
cancellation of the submit that its acquire task could not be given, because it was done. -/
structure QueuedOwner where
  session : ℕ
  submitLock : ℕ
  acquireTask : AcquireTask := {}
  released : Bool := false
  mustCancel : Bool := false
  deriving DecidableEq, Repr

/-- Where a call of `submit` is, and then the task that releases what it holds. Sessions and locks
are numbered in the order in which they are made, and calls in the order in which they are made;
the turn that a call starts goes by the number of the call. -/
inductive Phase where
  | opening
  /-- Waiting for the lifecycle lock. -/
  | entering (session : ℕ)
  /-- Waiting for the release of the turn before. -/
  | waiting (session prior : ℕ)
  | queued (owner : QueuedOwner)
  /-- The turn is started, and `release_when_done` waits for its settlement. -/
  | running (submitLock : ℕ) (settled : Bool)
  /-- `release_when_done` has ended, but its callback has not run. -/
  | released
  | forgotten
  | failed (error : SubmitError)
  deriving DecidableEq, Repr

/-- A call of `submit`. The counters are no data of the source: they record how often the call took
and gave back a permit and a submit lock. -/
structure Call where
  thread : ThreadId
  phase : Phase := .opening
  acquired : ℕ := 0
  released : ℕ := 0
  locked : ℕ := 0
  unlocked : ℕ := 0
  deriving DecidableEq, Repr

/-- Where a call of `close_session_ref` is, or its task `_finish_close`. -/
inductive ClosePhase where
  | entering
  /-- `session.close` without cancelling; the lifecycle lock is held. -/
  | strict (session : ℕ)
  | cleanup (session : ℕ) (owner : Option ℕ)
  | session (session : ℕ)
  | release (session : ℕ) (releaseTask : Option ℕ)
  | ended
  deriving DecidableEq, Repr

structure Close where
  thread : ThreadId
  cancelActive : Bool
  phase : ClosePhase := .entering
  deriving DecidableEq, Repr

/-- The locks and the semaphore are kept with the manager; `available` is the value of the
semaphore, which is made with as many permits as there may be concurrent sessions. -/
structure RuntimeManager where
  maxConcurrentSessions : ℕ
  available : ℕ
  sessions : ThreadId → Option ℕ := fun _ => none
  submitLocks : ThreadId → Option ℕ := fun _ => none
  queuedOwners : ThreadId → Option ℕ := fun _ => none
  releaseTasksByThread : ThreadId → Option ℕ := fun _ => none
  closing : ThreadId → Option ℕ := fun _ => none
  lifecycleLocked : ThreadId → Bool := fun _ => false
  submitLocked : ℕ → Bool := fun _ => false
  madeSessions : ℕ := 0
  madeLocks : ℕ := 0
  calls : List Call := []
  closes : List Close := []

/-- A manager that nothing was asked of. -/
def RuntimeManager.init (maxConcurrentSessions : ℤ) : RuntimeManager :=
  { maxConcurrentSessions := (max 1 maxConcurrentSessions).toNat
    available := (max 1 maxConcurrentSessions).toNat }

namespace RuntimeManager

variable (manager : RuntimeManager)

/-! ### Locks and permits -/

def acquireLifecycle (thread : ThreadId) : RuntimeManager :=
  { manager with lifecycleLocked := Function.update manager.lifecycleLocked thread true }

def releaseLifecycle (thread : ThreadId) : RuntimeManager :=
  { manager with lifecycleLocked := Function.update manager.lifecycleLocked thread false }

def acquireSubmit (lock : ℕ) : RuntimeManager :=
  { manager with submitLocked := Function.update manager.submitLocked lock true }

def releaseSubmit (lock : ℕ) : RuntimeManager :=
  { manager with submitLocked := Function.update manager.submitLocked lock false }

def releasePermit : RuntimeManager :=
  { manager with available := manager.available + 1 }

/-- `self._submit_locks.setdefault(thread_id, asyncio.Lock())`. -/
def setDefaultLock (thread : ThreadId) : RuntimeManager :=
  match manager.submitLocks thread with
  | some _ => manager
  | none =>
    { manager with
      submitLocks := Function.update manager.submitLocks thread (some manager.madeLocks)
      madeLocks := manager.madeLocks + 1 }

def put (number : ℕ) (call : Call) : RuntimeManager :=
  { manager with calls := manager.calls.set number call }

def putClose (number : ℕ) (close : Close) : RuntimeManager :=
  { manager with closes := manager.closes.set number close }

/-- The entry of the queued call is dropped, if it is still the one of the thread. -/
def dropOwner (number : ℕ) (thread : ThreadId) : RuntimeManager :=
  if manager.queuedOwners thread = some number then
    { manager with queuedOwners := Function.update manager.queuedOwners thread none }
  else manager

/-! ### Submitting -/

/-- `open_session`, whose lifecycle lock is released before it returns; `built` says whether the
agent and the runtime can be built. -/
def openSession (number : ℕ) (call : Call) (built : Bool) : RuntimeManager :=
  let coordinated := manager.acquireLifecycle call.thread
  match coordinated.sessions call.thread with
  | some session =>
    (coordinated.releaseLifecycle call.thread).put number { call with phase := .entering session }
  | none =>
    if built then
      ({ coordinated with
          sessions :=
            Function.update coordinated.sessions call.thread (some coordinated.madeSessions)
          madeSessions := coordinated.madeSessions + 1 }.releaseLifecycle call.thread).put number
        { call with phase := .entering coordinated.madeSessions }
    else
      (coordinated.releaseLifecycle call.thread).put number
        { call with phase := .failed .failure }

/-- What the session answers to a submit that is about to be queued. -/
structure EnterAnswers where
  /-- The session is not active, and does not wait for an approval that the turn does not give. -/
  inactive : Bool := false
  reserveTurn : Option SessionError := none
  markQueued : Option SessionError := none
  deriving DecidableEq, Repr

/-- The submit lock of the session, if it may be submitted to. -/
def submitLock (thread : ThreadId) (session : ℕ) : Except SubmitError ℕ :=
  if (manager.closing thread).isSome then
    .error (.session (.runtimeClosed "session is closing"))
  else if manager.sessions thread ≠ some session then
    .error (.session (.runtimeClosed "session generation is closed"))
  else
    match manager.submitLocks thread with
    | none => .error .keyError
    | some lock => .ok lock

def busy : SubmitError :=
  .session (.sessionBusy "session already has an active turn")

def closedWhileQueued : SubmitError :=
  .session (.runtimeClosed "session was closed while the turn was queued")

/-- From the lifecycle lock to the wait for the permit. A submit lock that is not locked is
acquired without waiting. -/
def enter (number : ℕ) (call : Call) (session : ℕ) (answers : EnterAnswers) : RuntimeManager :=
  let coordinated := manager.acquireLifecycle call.thread
  match coordinated.submitLock call.thread session with
  | .error error =>
    (coordinated.releaseLifecycle call.thread).put number { call with phase := .failed error }
  | .ok lock =>
    if coordinated.submitLocked lock then
      match (if answers.inactive then coordinated.releaseTasksByThread call.thread else none) with
      | some prior =>
        (coordinated.releaseLifecycle call.thread).put number
          { call with phase := .waiting session prior }
      | none =>
        (coordinated.releaseLifecycle call.thread).put number
          { call with phase := .failed busy }
    else
      let reserving := coordinated.acquireSubmit lock
      match answers.reserveTurn with
      | some error =>
        ((reserving.releaseLifecycle call.thread).releaseSubmit lock).put number
          { call with
            phase := .failed (.session error)
            locked := call.locked + 1
            unlocked := call.unlocked + 1 }
      | none =>
        match answers.markQueued with
        | some error =>
          ((reserving.releaseSubmit lock).releaseLifecycle call.thread).put number
            { call with
              phase := .failed (.session error)
              locked := call.locked + 1
              unlocked := call.unlocked + 1 }
        | none =>
          ({ reserving with
              queuedOwners :=
                Function.update reserving.queuedOwners call.thread (some number)
            }.releaseLifecycle call.thread).put number
            { call with
              phase := .queued { session, submitLock := lock }
              locked := call.locked + 1 }

/-- The semaphore wakes the acquire task of a queued call. -/
def grant (number : ℕ) (call : Call) (owner : QueuedOwner) : RuntimeManager :=
  { manager with available := manager.available - 1 }.put number
    { call with
      phase := .queued { owner with acquireTask := { owner.acquireTask with granted := true } }
      acquired := call.acquired + 1 }

/-- The acquire task ends; when it is cancelled after the grant, the permit goes back. -/
def endAcquire (number : ℕ) (call : Call) (owner : QueuedOwner) : RuntimeManager :=
  let task := owner.acquireTask
  if task.cancelRequested then
    let ended := { call with
      phase := .queued { owner with acquireTask := { task with result := some false } } }
    if task.granted then
      manager.releasePermit.put number { ended with released := call.released + 1 }
    else manager.put number ended
  else
    manager.put number { call with
      phase := .queued { owner with acquireTask := { task with result := some true } } }

/-- The task of a call is cancelled. A queued call passes the cancellation on to its acquire task,
unless that is done. -/
def cancelSubmit (number : ℕ) (call : Call) : RuntimeManager :=
  match call.phase with
  | .opening | .entering _ | .waiting _ _ =>
    manager.put number { call with phase := .failed .cancelled }
  | .queued owner =>
    if owner.acquireTask.done then
      manager.put number { call with phase := .queued { owner with mustCancel := true } }
    else
      manager.put number
        { call with phase := .queued { owner with acquireTask := owner.acquireTask.cancel } }
  | _ => manager

/-- What the session answers to `mark_starting` and `submit`. -/
structure ResumeAnswers where
  markStarting : Option SessionError := none
  submit : Option SessionError := none
  deriving DecidableEq, Repr

/-- What is raised after the permit was acquired. -/
def resumeError (thread : ThreadId) (answers : ResumeAnswers) : Option SubmitError :=
  if (manager.closing thread).isSome then some closedWhileQueued
  else (answers.markStarting.or answers.submit).map .session

/-- The end of `await acquire_task`, up to the return of `submit`. -/
def resume (number : ℕ) (call : Call) (owner : QueuedOwner) (answers : ResumeAnswers) :
    RuntimeManager :=
  if owner.acquireTask.result = some true ∧ owner.mustCancel = false then
    match manager.resumeError call.thread answers with
    | some error =>
      ((manager.releasePermit.releaseSubmit owner.submitLock).dropOwner number call.thread).put
        number
        { call with
          phase := .failed error
          released := call.released + 1
          unlocked := call.unlocked + 1 }
    | none =>
      let started := manager.dropOwner number call.thread
      { started with
        releaseTasksByThread :=
          Function.update started.releaseTasksByThread call.thread (some number) }.put number
        { call with phase := .running owner.submitLock false }
  else
    -- `await acquire_task` raises, so the permit is not taken to be acquired.
    ((manager.releaseSubmit owner.submitLock).dropOwner number call.thread).put number
      { call with
        phase := .failed (if owner.released then closedWhileQueued else .cancelled)
        unlocked := call.unlocked + 1 }

/-- The end of `release_when_done`. -/
def releaseWhenDone (number : ℕ) (call : Call) (lock : ℕ) : RuntimeManager :=
  (manager.releasePermit.releaseSubmit lock).put number
    { call with
      phase := .released
      released := call.released + 1
      unlocked := call.unlocked + 1 }

/-- The callback of the release task. -/
def forgetRelease (number : ℕ) (call : Call) : RuntimeManager :=
  let forgotten := manager.put number { call with phase := .forgotten }
  if manager.releaseTasksByThread call.thread = some number then
    { forgotten with
      releaseTasksByThread := Function.update manager.releaseTasksByThread call.thread none }
  else forgotten

/-- The release task of the call has ended. -/
def releaseDone (number : ℕ) : Bool :=
  match manager.calls[number]? with
  | some ⟨_, .running _ _, _, _, _, _⟩ => false
  | _ => true

/-! ### Closing -/

/-- The call has left the queue. -/
def cleanupDone (number : ℕ) : Bool :=
  match manager.calls[number]? with
  | some ⟨_, .queued _, _, _, _, _⟩ => false
  | _ => true

/-- The acquire task of the queued call of the thread is cancelled, if it is not done. -/
def releaseOwner (thread : ThreadId) : RuntimeManager :=
  match manager.queuedOwners thread with
  | none => manager
  | some number =>
    match manager.calls[number]? with
    | some call =>
      match call.phase with
      | .queued owner =>
        if owner.acquireTask.done then manager
        else
          manager.put number
            { call with
              phase := .queued
                { owner with released := true, acquireTask := owner.acquireTask.cancel } }
      | _ => manager
    | none => manager

/-- `close_session_ref`, from the lifecycle lock to its first wait. -/
def closeSessionRef (number : ℕ) (close : Close) : RuntimeManager :=
  let coordinated := manager.acquireLifecycle close.thread
  let ended := coordinated.putClose number { close with phase := .ended }
  if (coordinated.closing close.thread).isSome then ended.releaseLifecycle close.thread
  else
    match coordinated.sessions close.thread with
    | none => ended.releaseLifecycle close.thread
    | some session =>
      if close.cancelActive then
        let owner := coordinated.queuedOwners close.thread
        (({ coordinated with
              closing := Function.update coordinated.closing close.thread (some number)
            }.releaseOwner close.thread).putClose number
          { close with phase := .cleanup session owner }).releaseLifecycle close.thread
      else coordinated.putClose number { close with phase := .strict session }

/-- The session and its submit lock are dropped, if it is still the one of the thread. -/
def dropSession (thread : ThreadId) (session : ℕ) : RuntimeManager :=
  if manager.sessions thread = some session then
    { manager with
      sessions := Function.update manager.sessions thread none
      submitLocks := Function.update manager.submitLocks thread none }
  else manager

/-- `session.close` returns or raises, or the call is cancelled, under the lifecycle lock. -/
def strictClosed (number : ℕ) (close : Close) (session : ℕ) (raised : Bool) : RuntimeManager :=
  let ended := manager.putClose number { close with phase := .ended }
  (if raised then ended else ended.dropSession close.thread session).releaseLifecycle close.thread

def dropClosing (number : ℕ) (thread : ThreadId) : RuntimeManager :=
  if manager.closing thread = some number then
    { manager with closing := Function.update manager.closing thread none }
  else manager

/-- `session.close` returns or raises in `_finish_close`. -/
def finishSession (number : ℕ) (close : Close) (session : ℕ) (raised : Bool) : RuntimeManager :=
  if raised then
    (manager.dropClosing number close.thread).putClose number { close with phase := .ended }
  else
    manager.putClose number
      { close with phase := .release session (manager.releaseTasksByThread close.thread) }

/-- The end of `_finish_close`; `raised` says whether the release task has raised. -/
def finishClose (number : ℕ) (close : Close) (session : ℕ) (raised : Bool) : RuntimeManager :=
  let dropped := if raised then manager else manager.dropSession close.thread session
  (dropped.dropClosing number close.thread).putClose number { close with phase := .ended }

end RuntimeManager

/-! ### Interleavings -/

/-- The sections of the calls and of their tasks. -/
inductive ManagerLabel where
  | submit (thread : ThreadId)
  | openSession (number : ℕ) (built : Bool)
  | enter (number : ℕ) (answers : RuntimeManager.EnterAnswers)
  /-- The close that an `open_session` waits for raises. -/
  | openRaised (number : ℕ)
  /-- The release of the turn before ends or raises; the submit starts over unless it raises. -/
  | retry (number : ℕ) (raised : Bool)
  | grant (number : ℕ)
  | endAcquire (number : ℕ)
  | cancelSubmit (number : ℕ)
  | resume (number : ℕ) (answers : RuntimeManager.ResumeAnswers)
  /-- The settlement of the turn is complete. -/
  | settle (number : ℕ)
  | releaseWhenDone (number : ℕ)
  | forgetRelease (number : ℕ)
  | close (thread : ThreadId) (cancelActive : Bool)
  | closeSessionRef (number : ℕ)
  | strictClosed (number : ℕ) (raised : Bool)
  | finishCleanup (number : ℕ)
  | finishSession (number : ℕ) (raised : Bool)
  | finishClose (number : ℕ) (raised : Bool)
  deriving DecidableEq, Repr

namespace RuntimeManager

variable (manager : RuntimeManager)

/-- A section of a call of `submit`. -/
def calling (number : ℕ) (action : Call → Option RuntimeManager) : Option RuntimeManager :=
  manager.calls[number]?.bind action

/-- A section of a call of `close_session_ref`. -/
def closingCall (number : ℕ) (action : Close → Option RuntimeManager) : Option RuntimeManager :=
  manager.closes[number]?.bind action

def step : ManagerLabel → Option RuntimeManager
  | .submit thread =>
    let known := manager.setDefaultLock thread
    some { known with calls := known.calls ++ [{ thread }] }
  | .openSession number built =>
    manager.calling number fun call =>
      if call.phase = .opening ∧ manager.lifecycleLocked call.thread = false ∧
          manager.closing call.thread = none then
        some (manager.openSession number call built)
      else none
  | .enter number answers =>
    manager.calling number fun call =>
      match call.phase with
      | .entering session =>
        if manager.lifecycleLocked call.thread = false then
          some (manager.enter number call session answers)
        else none
      | _ => none
  | .openRaised number =>
    manager.calling number fun call =>
      if call.phase = .opening ∧ (manager.closing call.thread).isSome then
        some (manager.put number { call with phase := .failed .failure })
      else none
  | .retry number raised =>
    manager.calling number fun call =>
      match call.phase with
      | .waiting session prior =>
        if manager.releaseDone prior then
          some (manager.put number
            { call with phase := if raised then .failed .failure else .entering session })
        else none
      | _ => none
  | .grant number =>
    manager.calling number fun call =>
      match call.phase with
      | .queued owner =>
        if 0 < manager.available ∧ owner.acquireTask = {} then
          some (manager.grant number call owner)
        else none
      | _ => none
  | .endAcquire number =>
    manager.calling number fun call =>
      match call.phase with
      | .queued owner =>
        if owner.acquireTask.result = none ∧
            (owner.acquireTask.granted ∨ owner.acquireTask.cancelRequested) then
          some (manager.endAcquire number call owner)
        else none
      | _ => none
  | .cancelSubmit number =>
    manager.calling number fun call => some (manager.cancelSubmit number call)
  | .resume number answers =>
    manager.calling number fun call =>
      match call.phase with
      | .queued owner =>
        if owner.acquireTask.done then some (manager.resume number call owner answers) else none
      | _ => none
  | .settle number =>
    manager.calling number fun call =>
      match call.phase with
      | .running lock false =>
        some (manager.put number { call with phase := .running lock true })
      | _ => none
  | .releaseWhenDone number =>
    manager.calling number fun call =>
      match call.phase with
      | .running lock true => some (manager.releaseWhenDone number call lock)
      | _ => none
  | .forgetRelease number =>
    manager.calling number fun call =>
      if call.phase = .released then some (manager.forgetRelease number call) else none
  | .close thread cancelActive =>
    let known := manager.setDefaultLock thread
    some { known with closes := known.closes ++ [{ thread, cancelActive }] }
  | .closeSessionRef number =>
    manager.closingCall number fun close =>
      if close.phase = .entering ∧ manager.lifecycleLocked close.thread = false then
        some (manager.closeSessionRef number close)
      else none
  | .strictClosed number raised =>
    manager.closingCall number fun close =>
      match close.phase with
      | .strict session => some (manager.strictClosed number close session raised)
      | _ => none
  | .finishCleanup number =>
    manager.closingCall number fun close =>
      match close.phase with
      | .cleanup session owner =>
        if owner.all manager.cleanupDone then
          some (manager.putClose number { close with phase := .session session })
        else none
      | _ => none
  | .finishSession number raised =>
    manager.closingCall number fun close =>
      match close.phase with
      | .session session => some (manager.finishSession number close session raised)
      | _ => none
  | .finishClose number raised =>
    manager.closingCall number fun close =>
      match close.phase with
      | .release session releaseTask =>
        if releaseTask.all manager.releaseDone then
          some (manager.finishClose number close session raised)
        else none
      | _ => none

def machine : Machine RuntimeManager ManagerLabel where
  step := step

end RuntimeManager

end Synapse.Manager
