import Synapse.Ptc.Session

/-!
# Safety of the host protocol

Whatever the worker writes, the budgets hold, no id is dispatched or answered twice, and a
success is accepted only where no tool is at work. A call is counted and its id is remembered
before anything else happens to it, and a slot stays taken until the callback of its task.
-/

namespace Synapse.Ptc

open List

/-- The call for which the reader waits for a slot. -/
def Reader.callId? : Reader → Option Text
  | .acquiring callId _ _ => some callId
  | _ => none

namespace Session

variable {settings : SessionSettings} {session next : Session}

/-! ### The calls -/

/-- The calls that have a task, or whose task is about to be made. -/
def owned (session : Session) : List Text :=
  session.reader.callId?.toList ++ session.tasks.map DispatchTask.callId

structure Safe (settings : SessionSettings) (session : Session) : Prop where
  budget : session.calls ≤ settings.maxCalls
  counted : session.seenIds.length = session.calls
  distinct : session.owned.Nodup
  known : ∀ callId ∈ session.owned, callId ∈ session.seenIds
  slots : session.slots + session.tasks.countP DispatchTask.holdsSlot = settings.maxParallel
  once : (session.answers.map Prod.fst).Nodup
  answered : ∀ callId ∈ session.answers.map Prod.fst, callId ∈ session.seenIds
  waiting : ∀ callId, session.reader.callId? = some callId →
    callId ∉ session.answers.map Prod.fst
  unanswered : ∀ task ∈ session.tasks, task.unfinished = true →
    task.callId ∉ session.answers.map Prod.fst
  settled : ∀ task ∈ session.tasks, task.busy = true → task.callId ∉ session.settledCalls
  made : ∀ callId ∈ session.settledCalls, callId ∈ session.tasks.map DispatchTask.callId

theorem safe_init : (init settings).Safe settings where
  budget := Nat.zero_le _
  counted := rfl
  distinct := nodup_nil
  known := nofun
  slots := rfl
  once := nodup_nil
  answered := nofun
  waiting := nofun
  unanswered := nofun
  settled := nofun
  made := nofun

theorem Safe.congr (safe : session.Safe settings) (reader : next.reader.callId? = none)
    (tasks : next.tasks = session.tasks) (slots : next.slots = session.slots)
    (calls : next.calls = session.calls) (seenIds : next.seenIds = session.seenIds)
    (settledCalls : next.settledCalls = session.settledCalls)
    (answers : next.answers = session.answers) : next.Safe settings where
  budget := by
    rw [calls]
    exact safe.budget
  counted := by
    rw [calls, seenIds]
    exact safe.counted
  distinct := by
    unfold owned
    rw [reader, tasks]
    exact (nodup_append.mp safe.distinct).2.1
  known := by
    unfold owned
    rw [reader, tasks, seenIds]
    exact fun callId present => safe.known callId (mem_append_right _ present)
  slots := by
    rw [slots, tasks]
    exact safe.slots
  once := by
    rw [answers]
    exact safe.once
  answered := by
    rw [answers, seenIds]
    exact safe.answered
  waiting := by
    rw [reader]
    exact nofun
  unanswered := by
    rw [tasks, answers]
    exact safe.unanswered
  settled := by
    rw [tasks, settledCalls]
    exact safe.settled
  made := by
    rw [tasks, settledCalls]
    exact safe.made

/-- A response for an id that is seen, and that nothing can answer any more. -/
theorem Safe.answer (safe : session.Safe settings) {callId : Text} (response : Response)
    (seen : callId ∈ session.seenIds) (fresh : callId ∉ session.answers.map Prod.fst)
    (unwaited : session.reader.callId? ≠ some callId)
    (finished : ∀ task ∈ session.tasks, task.callId = callId → task.unfinished = false) :
    (session.answer settings callId response).Safe settings := by
  unfold Session.answer
  have ids : (session.answers ++ [(callId, response)]).map Prod.fst =
      session.answers.map Prod.fst ++ [callId] := by
    rw [map_append]
    rfl
  have sent : ({ session with answers := session.answers ++ [(callId, response)] }).Safe
      settings := by
    refine { safe with once := ?_, answered := ?_, waiting := ?_, unanswered := ?_ }
    · rw [ids]
      refine safe.once.append (nodup_singleton callId) ?_
      intro other before last
      rw [mem_singleton.mp last] at before
      exact fresh before
    · rw [ids]
      intro other present
      rcases mem_append.mp present with before | last
      · exact safe.answered other before
      · rw [mem_singleton.mp last]
        exact seen
    · rw [ids]
      intro other waits present
      rcases mem_append.mp present with before | last
      · exact safe.waiting other waits before
      · rw [mem_singleton.mp last] at waits
        exact unwaited waits
    · rw [ids]
      intro task inside unfinished present
      rcases mem_append.mp present with before | last
      · exact safe.unanswered task inside unfinished before
      · rw [finished task inside (mem_singleton.mp last)] at unfinished
        cases unfinished
  cases response with
  | value value =>
    simp only
    split
    · exact sent
    · exact safe
  | error kind name message =>
    simp only
    split
    · exact sent
    · exact safe

/-! ### Frames -/

theorem Safe.counts (safe : session.Safe settings) (idle : session.reader.callId? = none)
    {callId : Text} (fresh : callId ∉ session.seenIds) (room : session.calls < settings.maxCalls)
    {reader : Reader} (reads : reader.callId? = none ∨ reader.callId? = some callId) :
    ({ session with
      calls := session.calls + 1, seenIds := session.seenIds ++ [callId]
      reader := reader }).Safe settings := by
  have tasks : session.owned = session.tasks.map DispatchTask.callId := by
    unfold owned
    rw [idle]
    rfl
  have unmade : callId ∉ session.tasks.map DispatchTask.callId := by
    rw [← tasks]
    exact fun present => fresh (safe.known callId present)
  have unanswered : callId ∉ session.answers.map Prod.fst :=
    fun present => fresh (safe.answered callId present)
  have distinct := safe.distinct
  have known := safe.known
  rw [tasks] at distinct known
  have owns : (({ session with
      calls := session.calls + 1, seenIds := session.seenIds ++ [callId]
      reader := reader }).owned).Nodup ∧
      ∀ other ∈ ({ session with
        calls := session.calls + 1, seenIds := session.seenIds ++ [callId]
        reader := reader }).owned, other ∈ session.seenIds ++ [callId] := by
    unfold owned
    rcases reads with none | some
    · rw [none]
      exact ⟨distinct, fun other present => mem_append_left _ (known other present)⟩
    · rw [some]
      refine ⟨nodup_cons.mpr ⟨unmade, distinct⟩, fun other present => ?_⟩
      rcases mem_cons.mp present with rfl | before
      · exact mem_append_right _ (mem_singleton_self _)
      · exact mem_append_left _ (known other before)
  refine ⟨room, ?_, owns.1, owns.2, safe.slots, safe.once, ?_, ?_, safe.unanswered, safe.settled,
    safe.made⟩
  · rw [length_append, safe.counted]
    rfl
  · exact fun other present => mem_append_left _ (safe.answered other present)
  · intro other waits
    rcases reads with none | some
    · rw [none] at waits
      cases waits
    · rw [some] at waits
      cases waits
      exact unanswered

theorem Safe.fail (safe : session.Safe settings) (kind : String) :
    (session.fail kind).Safe settings :=
  safe.congr rfl rfl rfl rfl rfl rfl rfl

theorem Safe.handleToolCall (safe : session.Safe settings) (reading : session.reader = .reading)
    (frame : Entries) : (session.handleToolCall settings frame).Safe settings := by
  have idle : session.reader.callId? = none := by
    rw [reading]
    rfl
  unfold Session.handleToolCall
  split
  · exact safe.fail _
  · exact safe.fail _
  · rename_i callId plain arguments _ _ _
    split
    · exact safe.fail _
    · rename_i fresh
      split
      · exact safe.fail _
      · rename_i room
        have within := Nat.not_le.mp room
        have unknown : ∀ response, (({ session with
            calls := session.calls + 1
            seenIds := session.seenIds ++ [callId] }).answer settings callId response).Safe
            settings := by
          intro response
          have counted := safe.counts idle fresh within (.inl idle)
          apply counted.answer response
          · exact mem_append_right _ (mem_singleton_self _)
          · exact fun present => fresh (safe.answered callId present)
          · rw [idle]
            exact nofun
          · intro task inside same
            exfalso
            apply fresh
            rw [← same]
            exact safe.known _ (mem_append_right _ (mem_map_of_mem inside))
        simp only
        split
        · split
          · exact safe.counts idle fresh within (.inr rfl)
          · exact unknown _
        · exact unknown _
  · exact safe.fail _

theorem Safe.handleResult (safe : session.Safe settings) (frame : Entries) :
    (session.handleResult frame).Safe settings := by
  unfold Session.handleResult
  simp only
  split
  · split
    · exact safe.congr rfl rfl rfl rfl rfl rfl rfl
    · exact safe.congr rfl rfl rfl rfl rfl rfl rfl
  · split
    · exact safe.congr rfl rfl rfl rfl rfl rfl rfl
    · exact safe.congr rfl rfl rfl rfl rfl rfl rfl
  · split
    · exact safe.congr rfl rfl rfl rfl rfl rfl rfl
    · exact safe.congr rfl rfl rfl rfl rfl rfl rfl
  · exact safe.congr rfl rfl rfl rfl rfl rfl rfl

theorem Safe.handleFrame (safe : session.Safe settings) (reading : session.reader = .reading)
    (frame : Entries) : (session.handleFrame settings frame).Safe settings := by
  have idle : session.reader.callId? = none := by
    rw [reading]
    rfl
  unfold Session.handleFrame
  split
  · exact safe.fail _
  · split
    · split
      · unfold appendLog
        split
        · exact safe
        · split
          · exact safe.congr rfl rfl rfl rfl rfl rfl rfl
          · split
            · exact safe.congr idle rfl rfl rfl rfl rfl rfl
            · exact safe.congr idle rfl rfl rfl rfl rfl rfl
      · exact safe.fail _
    · split
      · exact safe.handleToolCall reading frame
      · split
        · exact safe.handleResult frame
        · exact safe.fail _

/-! ### Tasks -/

variable {task : DispatchTask} {index : ℕ}
variable {other : DispatchTask} {phase : TaskPhase}

theorem mem_set_phase
    (inside : other ∈ session.tasks.set index { task with phase := phase }) :
    other ∈ session.tasks ∨ other = { task with phase := phase } :=
  mem_or_eq_of_mem_set inside

/-- A task goes on. It keeps its slot, and it does not come back to life. -/
theorem Safe.setTask (safe : session.Safe settings)
    (found : session.tasks[index]? = some task)
    (holds : ({ task with phase := phase } : DispatchTask).holdsSlot = task.holdsSlot)
    (unfinished : ({ task with phase := phase } : DispatchTask).unfinished = true →
      task.unfinished = true)
    (busy : ({ task with phase := phase } : DispatchTask).busy = true → task.busy = true) :
    (session.setTask index task phase).Safe settings := by
  have inside : task ∈ session.tasks := mem_of_getElem? found
  have ids : (session.setTask index task phase).tasks.map DispatchTask.callId =
      session.tasks.map DispatchTask.callId :=
    Locks.map_set_of_found found rfl
  refine ⟨safe.budget, safe.counted, ?_, ?_, ?_, safe.once, safe.answered, safe.waiting, ?_, ?_, ?_⟩
  · unfold owned
    rw [ids]
    exact safe.distinct
  · unfold owned
    rw [ids]
    exact safe.known
  · have count := Locks.countP_set_of_found DispatchTask.holdsSlot found
      { task with phase := phase }
    rw [holds] at count
    show session.slots + (session.tasks.set index _).countP DispatchTask.holdsSlot = _
    have slots := safe.slots
    omega
  · intro other present live
    rcases mem_set_phase present with old | rfl
    · exact safe.unanswered other old live
    · exact safe.unanswered task inside (unfinished live)
  · intro other present works
    rcases mem_set_phase present with old | rfl
    · exact safe.settled other old works
    · exact safe.settled task inside (busy works)
  · rw [ids]
    exact safe.made

theorem Safe.task_eq (safe : session.Safe settings) {first second : ℕ}
    (found : session.tasks[first]? = some task) (stands : session.tasks[second]? = some other)
    (same : other.callId = task.callId) : second = first := by
  have distinct : (session.tasks.map DispatchTask.callId).Nodup :=
    (nodup_append.mp safe.distinct).2.1
  have firstId : (session.tasks.map DispatchTask.callId)[first]? = some task.callId := by
    rw [getElem?_map, found]
    rfl
  have secondId : (session.tasks.map DispatchTask.callId)[second]? = some task.callId := by
    rw [getElem?_map, stands, Option.map_some, same]
  have inside : second < (session.tasks.map DispatchTask.callId).length :=
    (List.getElem?_eq_some_iff.mp secondId).1
  exact (getElem?_inj inside distinct).mp (secondId.trans firstId.symm)

theorem Safe.settle (safe : session.Safe settings)
    (found : session.tasks[index]? = some task) (running : task.phase = .running)
    (outcome : ToolOutcome) : (session.settle settings index task outcome).Safe settings := by
  have slot : task.holdsSlot = true := by
    unfold DispatchTask.holdsSlot
    rw [running]
  have live : task.unfinished = true := by
    unfold DispatchTask.unfinished
    rw [running]
  -- every phase behind the outcome keeps the slot, and the tool is at work no more
  have goes : ∀ phase : TaskPhase, phase = .ended ∨ (∃ response, phase = .replying response) →
      (session.setTask index task phase).Safe settings ∧
        ({ task with phase := phase } : DispatchTask).busy = false := by
    rintro phase (rfl | ⟨response, rfl⟩)
    · exact ⟨safe.setTask found slot.symm nofun nofun, rfl⟩
    · exact ⟨safe.setTask found slot.symm (fun _ => live) nofun, rfl⟩
  have settles : ∀ phase : TaskPhase, phase = .ended ∨ (∃ response, phase = .replying response) →
      ({ session with settledCalls := session.settledCalls ++ [task.callId] }.setTask index task
        phase).Safe settings := by
    intro phase allowed
    rcases goes phase allowed with ⟨set, idle⟩
    refine { set with settled := ?_, made := ?_ }
    · intro other present works inside
      rcases mem_append.mp inside with before | last
      · exact set.settled other present works before
      · rcases getElem?_of_mem present with ⟨place, stands⟩
        have entry := (Locks.getElem?_set_of_found found { task with phase := phase } place).symm.trans
          stands
        split at entry
        · cases entry
          rw [idle] at works
          cases works
        · rename_i apart
          exact apart (safe.task_eq found entry (mem_singleton.mp last))
    · intro callId inside
      rcases mem_append.mp inside with before | last
      · exact set.made callId before
      · rw [mem_singleton.mp last]
        have ids : (session.setTask index task phase).tasks.map DispatchTask.callId =
            session.tasks.map DispatchTask.callId :=
          Locks.map_set_of_found found rfl
        show task.callId ∈ (session.setTask index task phase).tasks.map DispatchTask.callId
        rw [ids]
        exact mem_map_of_mem (mem_of_getElem? found)
  unfold Session.settle
  split
  · exact (goes .ended (.inl rfl)).1
  · simp only
    split
    · rename_i response _
      exact settles (.replying response) (.inr ⟨response, rfl⟩)
    · exact settles .ended (.inl rfl)

theorem Safe.reply (safe : session.Safe settings)
    {response : Response} (found : session.tasks[index]? = some task)
    (replying : task.phase = .replying response) :
    ((session.setTask index task .ended).answer settings task.callId response).Safe settings := by
  have slot : task.holdsSlot = true := by
    unfold DispatchTask.holdsSlot
    rw [replying]
  have live : task.unfinished = true := by
    unfold DispatchTask.unfinished
    rw [replying]
  have inside : task ∈ session.tasks := mem_of_getElem? found
  have owns : task.callId ∈ session.tasks.map DispatchTask.callId := mem_map_of_mem inside
  have set : (session.setTask index task .ended).Safe settings :=
    safe.setTask found slot.symm nofun nofun
  apply set.answer response
  · exact safe.known _ (mem_append_right _ owns)
  · exact safe.unanswered task inside live
  · intro waits
    have inside' : task.callId ∈ session.reader.callId?.toList := by
      rw [show session.reader.callId? = some task.callId from waits]
      exact mem_singleton.mpr rfl
    exact (nodup_append.mp safe.distinct).2.2 task.callId inside' task.callId owns rfl
  · intro other present same
    rcases getElem?_of_mem present with ⟨place, stands⟩
    have entry := (Locks.getElem?_set_of_found found { task with phase := .ended } place).symm.trans
      stands
    split at entry
    · cases entry
      rfl
    · rename_i apart
      exact absurd (safe.task_eq found entry same) apart

theorem Safe.done (safe : session.Safe settings)
    (found : session.tasks[index]? = some task) (ended : task.phase = .ended) :
    ({ session.setTask index task .released with slots := session.slots + 1 }).Safe settings := by
  have slot : task.holdsSlot = true := by
    unfold DispatchTask.holdsSlot
    rw [ended]
  have ids : (session.setTask index task .released).tasks.map DispatchTask.callId =
      session.tasks.map DispatchTask.callId :=
    Locks.map_set_of_found found rfl
  refine ⟨safe.budget, safe.counted, ?_, ?_, ?_, safe.once, safe.answered, safe.waiting, ?_, ?_, ?_⟩
  · show (session.reader.callId?.toList ++
      (session.setTask index task .released).tasks.map DispatchTask.callId).Nodup
    rw [ids]
    exact safe.distinct
  · show ∀ callId ∈ session.reader.callId?.toList ++
      (session.setTask index task .released).tasks.map DispatchTask.callId, _
    rw [ids]
    exact safe.known
  · have count := Locks.countP_set_of_found DispatchTask.holdsSlot found
      { task with phase := .released }
    have slots := safe.slots
    rw [slot] at count
    show session.slots + 1 + (session.tasks.set index _).countP DispatchTask.holdsSlot = _
    have none : ({ task with phase := .released } : DispatchTask).holdsSlot.toNat = 0 := rfl
    have one : (true : Bool).toNat = 1 := rfl
    omega
  · intro other present live
    rcases mem_set_phase present with old | rfl
    · exact safe.unanswered other old live
    · cases live
  · intro other present works
    rcases mem_set_phase present with old | rfl
    · exact safe.settled other old works
    · cases works
  · show ∀ callId ∈ session.settledCalls,
      callId ∈ (session.setTask index task .released).tasks.map DispatchTask.callId
    rw [ids]
    exact safe.made

theorem Safe.acquired (safe : session.Safe settings) {callId name : Text} {arguments : Entries}
    (waits : session.reader = .acquiring callId name arguments) (free : 0 < session.slots) :
    ({ session with
      reader := .reading, slots := session.slots - 1
      tasks := session.tasks ++
        [(⟨callId, name, arguments, .created⟩ : DispatchTask)] }).Safe settings := by
  have own : session.owned = callId :: session.tasks.map DispatchTask.callId := by
    unfold owned
    rw [waits]
    rfl
  have distinct := safe.distinct
  have known := safe.known
  rw [own] at distinct known
  have ids : (session.tasks ++ [(⟨callId, name, arguments, .created⟩ : DispatchTask)]).map
      DispatchTask.callId = session.tasks.map DispatchTask.callId ++ [callId] := by
    rw [map_append]
    rfl
  have waiting := safe.waiting callId (by rw [waits]; rfl)
  refine ⟨safe.budget, safe.counted, ?_, ?_, ?_, safe.once, safe.answered, nofun, ?_, ?_, ?_⟩
  · show ((session.tasks ++ [(⟨callId, name, arguments, .created⟩ : DispatchTask)]).map
      DispatchTask.callId).Nodup
    rw [ids]
    exact (perm_append_singleton callId _).nodup_iff.mpr distinct
  · intro other present
    have inside : other ∈ (session.tasks ++
        [(⟨callId, name, arguments, .created⟩ : DispatchTask)]).map DispatchTask.callId := present
    rw [ids] at inside
    exact known other ((perm_append_singleton callId _).mem_iff.mp inside)
  · have slots := safe.slots
    show session.slots - 1 + (session.tasks ++
      [(⟨callId, name, arguments, .created⟩ : DispatchTask)]).countP DispatchTask.holdsSlot = _
    rw [countP_append, countP_singleton]
    have slot : (⟨callId, name, arguments, .created⟩ : DispatchTask).holdsSlot = true := rfl
    rw [slot, if_pos rfl]
    omega
  · intro task present live
    rcases mem_append.mp present with before | last
    · exact safe.unanswered task before live
    · rw [mem_singleton.mp last]
      exact waiting
  · intro task present works
    rcases mem_append.mp present with before | last
    · exact safe.settled task before works
    · rw [mem_singleton.mp last]
      exact fun settled => (nodup_cons.mp distinct).1 (safe.made callId settled)
  · intro other settled
    show other ∈ (session.tasks ++
      [(⟨callId, name, arguments, .created⟩ : DispatchTask)]).map DispatchTask.callId
    rw [ids]
    exact mem_append_left _ (safe.made other settled)

variable {label : SessionLabel}

theorem Safe.step (safe : session.Safe settings)
    (stepped : step settings session label = some next) : next.Safe settings := by
  cases label with
  | frame frame =>
    rcases of_guard stepped with ⟨allowed, rfl⟩
    exact safe.handleFrame allowed.1 frame
  | badLine =>
    rcases of_guard stepped with ⟨_, rfl⟩
    exact safe.fail _
  | eof =>
    rcases of_guard stepped with ⟨_, rfl⟩
    exact safe.congr rfl rfl rfl rfl rfl rfl rfl
  | acquired =>
    simp only [Session.step] at stepped
    split at stepped
    · rename_i callId name arguments waits
      rcases of_guard stepped with ⟨allowed, rfl⟩
      exact safe.acquired waits allowed.1
    · cases stepped
  | begin index =>
    simp only [Session.step] at stepped
    split at stepped
    · rename_i task found
      rcases of_guard stepped with ⟨created, rfl⟩
      apply safe.setTask found
      · unfold DispatchTask.holdsSlot
        rw [created]
      · intro _
        unfold DispatchTask.unfinished
        rw [created]
      · intro _
        unfold DispatchTask.busy
        rw [created]
    · cases stepped
  | outcome index outcome =>
    simp only [Session.step] at stepped
    split at stepped
    · rename_i task found
      rcases of_guard stepped with ⟨running, rfl⟩
      exact safe.settle found running outcome
    · cases stepped
  | reply index =>
    simp only [Session.step] at stepped
    split at stepped
    · rename_i task found
      split at stepped
      · rename_i response replying
        cases stepped
        exact safe.reply found replying
      · cases stepped
    · cases stepped
  | done index =>
    simp only [Session.step] at stepped
    split at stepped
    · rename_i task found
      rcases of_guard stepped with ⟨ended, rfl⟩
      exact safe.done found ended
    · cases stepped
  | timeout =>
    rcases of_guard stepped with ⟨_, rfl⟩
    exact { safe with }
  | cancel index =>
    simp only [Session.step] at stepped
    split at stepped
    · rename_i task found
      rcases of_guard stepped with ⟨allowed, rfl⟩
      have slot : task.holdsSlot = true := by
        have live := allowed.1
        unfold DispatchTask.unfinished at live
        unfold DispatchTask.holdsSlot
        split at live <;> simp_all
      exact safe.setTask found slot.symm nofun nofun
    · cases stepped
  | finish =>
    rcases Option.ite_none_right_eq_some.mp stepped with ⟨_, stepped⟩
    split at stepped
    · cases stepped
      exact { safe with }
    · cases stepped
      exact { safe with }
    · cases stepped

variable {labels : List SessionLabel}

theorem safe_run {final : Session}
    (ran : (machine settings).run (init settings) labels = some final) : final.Safe settings := by
  apply Machine.run_invariant _ safe_init ran
  exact fun safe stepped => Safe.step safe stepped

/-! ### Success -/

/-- The run would be a success if it ended here. -/
def Accepted (session : Session) : Prop :=
  session.resultSeen = true ∧ session.failure = none ∧ session.error = none

/-- A success frame, at a moment when no tool is at work. -/
def AcceptedAt (settings : SessionSettings) (labels : List SessionLabel) (value : Value) : Prop :=
  ∃ front frame back middle,
    labels = front ++ .frame frame :: back ∧
    (machine settings).run (init settings) front = some middle ∧
    text? frame "type" = some (Text.ofString "result") ∧
    (frame.get? (Text.ofString "error") = none ∨
      frame.get? (Text.ofString "error") = some .null) ∧
    value = (frame.get? (Text.ofString "value")).getD .null ∧
    ∀ task ∈ middle.tasks, task.busy = false

variable {value : Value}

theorem AcceptedAt.extend (label : SessionLabel)
    (accepted : AcceptedAt settings labels value) :
    AcceptedAt settings (labels ++ [label]) value := by
  rcases accepted with ⟨front, frame, back, middle, rfl, rest⟩
  refine ⟨front, frame, back ++ [label], middle, ?_, rest⟩
  rw [append_assoc, cons_append]

theorem fail_failure (session : Session) (kind : String) : (session.fail kind).failure ≠ none := by
  unfold fail
  cases session.failure with
  | none => exact nofun
  | some first => exact nofun

theorem answer_accepted (session : Session) (callId : Text) (response : Response) :
    (session.answer settings callId response).Accepted = session.Accepted ∧
      (session.answer settings callId response).value = session.value := by
  unfold Session.answer
  simp only
  split
  · exact ⟨rfl, rfl⟩
  · exact ⟨rfl, rfl⟩

theorem answer_result (session : Session) (callId : Text) (response : Response) :
    (session.answer settings callId response).result = session.result := by
  unfold Session.answer
  simp only
  split
  · rfl
  · rfl

theorem handleFrame_result (session : Session) (frame : Entries) :
    (session.handleFrame settings frame).result = session.result := by
  unfold Session.handleFrame
  split
  · rfl
  · split
    · split
      · unfold appendLog
        repeat' split
        all_goals rfl
      · rfl
    · split
      · unfold Session.handleToolCall
        simp only
        repeat' split
        all_goals first | rfl | exact answer_result _ _ _
      · split
        · unfold Session.handleResult
          simp only
          repeat' split
          all_goals rfl
        · rfl

theorem Safe.idle_of_unfinishedCalls (safe : session.Safe settings)
    (unfinished : session.unfinishedCalls = 0) : ∀ task ∈ session.tasks, task.busy = false := by
  intro task inside
  by_contra works
  rw [Bool.not_eq_false] at works
  have live : task.unfinished = true := by
    unfold DispatchTask.busy at works
    unfold DispatchTask.unfinished
    split at works <;> simp_all
  have counts := countP_eq_zero.mp unfinished task inside
  apply counts
  rw [live, Bool.true_and, Bool.not_eq_true', decide_eq_false_iff_not]
  exact safe.settled task inside works

theorem handleToolCall_accepted (frame : Entries)
    (accepted : (session.handleToolCall settings frame).Accepted) :
    session.Accepted ∧ (session.handleToolCall settings frame).value = session.value := by
  unfold Session.handleToolCall at accepted ⊢
  split at accepted
  · exact absurd accepted.2.1 (fail_failure session _)
  · exact absurd accepted.2.1 (fail_failure session _)
  · split at accepted
    · exact absurd accepted.2.1 (fail_failure session _)
    · rename_i fresh
      split at accepted
      · exact absurd accepted.2.1 (fail_failure session _)
      · rename_i room
        simp only at accepted ⊢
        rw [if_neg fresh, if_neg room]
        split at accepted
        · split at accepted
          · rename_i known
            rw [if_pos known]
            exact ⟨accepted, rfl⟩
          · rename_i unknown
            rw [if_neg unknown]
            rw [(answer_accepted _ _ _).1] at accepted
            exact ⟨accepted, (answer_accepted _ _ _).2⟩
        · rw [(answer_accepted _ _ _).1] at accepted
          exact ⟨accepted, (answer_accepted _ _ _).2⟩
  · exact absurd accepted.2.1 (fail_failure session _)

/-- Success is decided by a result frame without an error, where the guard counts nothing. -/
theorem handleResult_accepted (frame : Entries) (accepted : (session.handleResult frame).Accepted) :
    (frame.get? (Text.ofString "error") = none ∨
      frame.get? (Text.ofString "error") = some .null) ∧
    (session.handleResult frame).value = (frame.get? (Text.ofString "value")).getD .null ∧
    session.unfinishedCalls = 0 := by
  have clear (missing : frame.get? (Text.ofString "error") = none ∨
      frame.get? (Text.ofString "error") = some .null) :
      session.unfinishedCalls = 0 := by
    by_contra some
    have counts : 0 < session.unfinishedCalls := Nat.pos_of_ne_zero some
    unfold Session.handleResult at accepted
    rcases missing with none | null
    · rw [none] at accepted
      simp only at accepted
      split at accepted
      · exact fail_failure _ _ accepted.2.1
      · rename_i clear
        exact clear counts
    · rw [null] at accepted
      simp only at accepted
      split at accepted
      · exact fail_failure _ _ accepted.2.1
      · rename_i clear
        exact clear counts
  have missing : frame.get? (Text.ofString "error") = none ∨
      frame.get? (Text.ofString "error") = some .null := by
    unfold Session.handleResult at accepted
    simp only at accepted
    split at accepted
    · exact .inl (by assumption)
    · exact .inr (by assumption)
    · split at accepted
      · exact absurd accepted.2.2 nofun
      · exact absurd accepted.2.1 (fail_failure _ _)
    · exact absurd accepted.2.1 (fail_failure _ _)
  refine ⟨missing, ?_, clear missing⟩
  unfold Session.handleResult
  rcases missing with none | null
  · rw [none]
    simp only
    split
    · rfl
    · rfl
  · rw [null]
    simp only
    split
    · rfl
    · rfl

theorem handleFrame_accepted (frame : Entries)
    (accepted : (session.handleFrame settings frame).Accepted) :
    (session.Accepted ∧ (session.handleFrame settings frame).value = session.value) ∨
      (text? frame "type" = some (Text.ofString "result") ∧
        (frame.get? (Text.ofString "error") = none ∨
          frame.get? (Text.ofString "error") = some .null) ∧
        (session.handleFrame settings frame).value =
          (frame.get? (Text.ofString "value")).getD .null ∧
        session.unfinishedCalls = 0) := by
  cases named : text? frame "type" with
  | none =>
    unfold Session.handleFrame at accepted
    rw [named] at accepted
    exact absurd accepted.2.1 (fail_failure session _)
  | some type =>
    by_cases log : type = Text.ofString "log"
    · left
      unfold Session.handleFrame at accepted ⊢
      rw [named] at accepted ⊢
      simp only [if_pos log] at accepted ⊢
      split at accepted
      · unfold appendLog at accepted ⊢
        split at accepted
        · rename_i truncated
          rw [if_pos truncated]
          exact ⟨accepted, rfl⟩
        · rename_i open'
          rw [if_neg open']
          split at accepted
          · exact ⟨accepted, rfl⟩
          · split at accepted
            · rename_i full
              simp only [if_pos full]
              exact ⟨accepted, trivial⟩
            · rename_i room
              simp only [if_neg room]
              exact ⟨accepted, trivial⟩
      · exact absurd accepted.2.1 (fail_failure session _)
    · by_cases call : type = Text.ofString "tool_call"
      · left
        have handled : session.handleFrame settings frame =
            session.handleToolCall settings frame := by
          unfold Session.handleFrame
          rw [named]
          simp only
          rw [if_neg log, if_pos call]
        rw [handled] at accepted ⊢
        exact handleToolCall_accepted frame accepted
      · by_cases result : type = Text.ofString "result"
        · right
          have handled : session.handleFrame settings frame = session.handleResult frame := by
            unfold Session.handleFrame
            rw [named]
            simp only
            rw [if_neg log, if_neg call, if_pos result]
          rw [handled] at accepted ⊢
          exact ⟨by rw [result], handleResult_accepted frame accepted⟩
        · exfalso
          unfold Session.handleFrame at accepted
          rw [named] at accepted
          simp only at accepted
          rw [if_neg log, if_neg call, if_neg result] at accepted
          exact fail_failure session _ accepted.2.1

/-- The session has ended in a success, or could. -/
structure Success (settings : SessionSettings) (labels : List SessionLabel) (session : Session) :
    Prop where
  accepted : session.Accepted → AcceptedAt settings labels session.value
  ended : ∀ value, session.result = some (.value value) →
    session.Accepted ∧ value = session.value

theorem Success.keeps {done : List SessionLabel} (success : Success settings done session)
    (label : SessionLabel) (accepted : next.Accepted → session.Accepted ∧ next.value = session.value)
    (result : ∀ value, next.result = some (.value value) →
      next.Accepted ∧ value = next.value) : Success settings (done ++ [label]) next := by
  refine ⟨fun now => ?_, result⟩
  rcases accepted now with ⟨before, same⟩
  rw [same]
  exact (success.accepted before).extend label

theorem Success.beside {done : List SessionLabel} (success : Success settings done session)
    (label : SessionLabel) (accepted : next.Accepted = session.Accepted)
    (value : next.value = session.value) (result : next.result = session.result) :
    Success settings (done ++ [label]) next := by
  apply success.keeps label
  · intro now
    rw [accepted] at now
    exact ⟨now, value⟩
  · rw [accepted, value, result]
    exact success.ended

theorem assemble_value (assembled : session.assemble settings = .value value) :
    session.Accepted ∧ value = session.value := by
  unfold assemble at assembled
  split at assembled
  · cases assembled
  · rename_i clean
    split at assembled
    · cases assembled
    · rename_i seen
      split at assembled
      · cases assembled
      · rename_i silent
        split at assembled
        · split at assembled
          · cases assembled
          · cases assembled
            exact ⟨⟨Bool.eq_true_of_not_eq_false seen, clean, silent⟩, rfl⟩
        · cases assembled

theorem Success.step {done : List SessionLabel}
    (ran : (machine settings).run (init settings) done = some session)
    (success : Success settings done session)
    (stepped : Session.step settings session label = some next) :
    Success settings (done ++ [label]) next := by
  have safe : session.Safe settings := safe_run ran
  cases label with
  | frame frame =>
    rcases of_guard stepped with ⟨allowed, rfl⟩
    have open' : (session.handleFrame settings frame).result = none := by
      rw [handleFrame_result]
      exact allowed.2
    refine ⟨fun accepted => ?_, ?_⟩
    · rcases handleFrame_accepted frame accepted with ⟨before, same⟩ | ⟨type, error, value, idle⟩
      · rw [same]
        exact (success.accepted before).extend _
      · exact ⟨done, frame, [], session, rfl, ran, type, error, value,
          safe.idle_of_unfinishedCalls idle⟩
    · rw [open']
      exact nofun
  | badLine =>
    rcases of_guard stepped with ⟨allowed, rfl⟩
    apply success.keeps
    · intro accepted
      exact absurd accepted.2.1 (fail_failure session _)
    · intro value ended
      rw [show (session.fail "protocol_error").result = none from allowed.2] at ended
      cases ended
  | eof =>
    simp only [Session.step] at stepped
    rcases of_guard stepped with ⟨_, rfl⟩
    exact success.beside _ rfl rfl rfl
  | acquired =>
    simp only [Session.step] at stepped
    split at stepped
    · split at stepped
      · cases stepped
        exact success.beside _ rfl rfl rfl
      · cases stepped
    · cases stepped
  | begin index =>
    simp only [Session.step] at stepped
    split at stepped
    · split at stepped
      · cases stepped
        exact success.beside _ rfl rfl rfl
      · cases stepped
    · cases stepped
  | outcome index outcome =>
    simp only [Session.step] at stepped
    split at stepped
    · split at stepped
      · cases stepped
        unfold settle
        split
        · exact success.beside _ rfl rfl rfl
        · simp only
          split
          · exact success.beside _ rfl rfl rfl
          · exact success.beside _ rfl rfl rfl
      · cases stepped
    · cases stepped
  | reply index =>
    simp only [Session.step] at stepped
    split at stepped
    · split at stepped
      · cases stepped
        apply success.beside
        · rw [(answer_accepted _ _ _).1]
          rfl
        · rw [(answer_accepted _ _ _).2]
          rfl
        · rw [answer_result]
          rfl
      · cases stepped
    · cases stepped
  | done index =>
    simp only [Session.step] at stepped
    split at stepped
    · split at stepped
      · cases stepped
        exact success.beside _ rfl rfl rfl
      · cases stepped
    · cases stepped
  | timeout =>
    simp only [Session.step] at stepped
    rcases of_guard stepped with ⟨_, rfl⟩
    apply success.keeps
    · exact fun accepted => ⟨accepted, rfl⟩
    · exact nofun
  | cancel index =>
    simp only [Session.step] at stepped
    split at stepped
    · split at stepped
      · cases stepped
        exact success.beside _ rfl rfl rfl
      · cases stepped
    · cases stepped
  | finish =>
    rcases Option.ite_none_right_eq_some.mp stepped with ⟨_, stepped⟩
    split at stepped
    · cases stepped
      apply success.keeps
      · exact fun accepted => ⟨accepted, rfl⟩
      · intro value ended
        exact assemble_value (Option.some.inj ended)
    · cases stepped
      apply success.keeps
      · exact fun accepted => ⟨accepted, rfl⟩
      · exact nofun
    · cases stepped

/-! ### The law -/

/-- The budgets and the ids hold in every state, and a success goes back to a result frame without
an error that was read when every started dispatch had its outcome. -/
theorem protocol_safe {labels : List SessionLabel} {final : Session}
    (ran : (machine settings).run (init settings) labels = some final) :
    final.tasks.length ≤ settings.maxCalls ∧
      final.tasks.countP DispatchTask.unfinished ≤ settings.maxParallel ∧
      (final.tasks.map DispatchTask.callId).Nodup ∧
      (final.answers.map Prod.fst).Nodup ∧
      ∀ value, final.result = some (.value value) → AcceptedAt settings labels value := by
  have safe : final.Safe settings := safe_run ran
  have distinct : (final.tasks.map DispatchTask.callId).Nodup :=
    (List.nodup_append.mp safe.distinct).2.1
  refine ⟨?_, ?_, distinct, safe.once, ?_⟩
  · have started : (final.tasks.map DispatchTask.callId).length ≤ final.seenIds.length :=
      (distinct.subperm fun callId present =>
        safe.known callId (List.mem_append_right _ present)).length_le
    rw [List.length_map, safe.counted] at started
    exact started.trans safe.budget
  · have holds : final.tasks.countP DispatchTask.unfinished ≤
        final.tasks.countP DispatchTask.holdsSlot := by
      apply List.countP_mono_left
      intro task _ live
      unfold DispatchTask.unfinished at live
      unfold DispatchTask.holdsSlot
      split at live <;> simp_all
    have slots := safe.slots
    omega
  · intro value ended
    have success : Success settings labels final := by
      apply Machine.run_history _ _ ran
      · exact ⟨nofun, nofun⟩
      · exact fun front success stepped => Success.step front success stepped
    rcases success.ended value ended with ⟨accepted, rfl⟩
    exact success.accepted accepted

def echoSettings : SessionSettings where
  nesting := 1000
  nesting_le := two_le_recursionLimit
  toolNames := [Text.ofString "echo"]
  maxCalls := 2
  maxParallel := 1
  parallel_pos := Nat.one_pos
  maxOutputBytes := 64000
  maxResultBytes := 4000000
  maxCodeBytes := 64000
  repr := fun _ => ⟨Text.ofString "...", dots_encode⟩
  reprValue := fun _ => ⟨Text.ofString "...", dots_encode⟩

def echoFrame : Entries :=
  .cons (.str (Text.ofString "type")) (literal "tool_call")
    (.cons (.str (Text.ofString "id")) (literal "1")
      (.cons (.str (Text.ofString "name")) (literal "echo")
        (.cons (.str (Text.ofString "arguments")) (.mapping true .nil) .nil)))

def successFrame : Entries :=
  .cons (.str (Text.ofString "type")) (literal "result")
    (.cons (.str (Text.ofString "value")) (.bool true) .nil)

/-- The result is forged while the answer of the call is still to be written. -/
def echoRun : List SessionLabel :=
  [.frame echoFrame, .acquired, .begin 0, .outcome 0 (.value .null []), .frame successFrame,
    .reply 0, .done 0, .finish]

theorem protocol_safe_echo : AcceptedAt echoSettings echoRun (.bool true) := by
  have accepts : ∃ final, (machine echoSettings).run (init echoSettings) echoRun = some final ∧
      final.result = some (.value (.bool true)) := by
    decide +kernel
  rcases accepts with ⟨final, ran, accepted⟩
  exact (protocol_safe ran).2.2.2.2 (.bool true) accepted

end Session

end Synapse.Ptc
