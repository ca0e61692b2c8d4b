import Synapse.Turns.Ownership

/-!
# Steering

Guidance is accepted for the live turn. The settlement of the turn clears the queue
before the next turn is started, so no later turn finds it there.
-/

namespace Synapse.Turns

open List

/-- `start` on its own does not schedule a settlement. -/
def SessionLabel.isStart : SessionLabel → Bool
  | .start _ _ => true
  | _ => false

/-- The guidance of the turn has not been cleared. -/
def Turn.Unsettled (handle : Turn) : Prop :=
  handle.settlement = none ∨ handle.settlement = some .waiting

namespace SessionRuntime

/-- The turns are started by `submit` and by the settlements. -/
def onLoop : Machine SessionRuntime SessionLabel where
  step session label := if label.isStart then none else machine.step session label

variable {session next : SessionRuntime}

/-! ### Guidance -/

theorem steerTurn_cases (session : SessionRuntime) (expectedTurnId : TurnId) (text : Text) :
    (session.steerTurn expectedTurnId text).1 = session ∨
      ∃ items, session.steerQueue = some items ∧ session.activeHandle = some expectedTurnId ∧
        session.Live expectedTurnId ∧
        (session.steerTurn expectedTurnId text).1 =
          { session with
            steerQueue := some (items ++ [⟨session.accepted, expectedTurnId, text.strip⟩])
            accepted := session.accepted + 1 } := by
  unfold steerTurn
  dsimp only
  split
  · exact Or.inl rfl
  split
  · exact Or.inl rfl
  case h_2 turn active =>
    split
    · exact Or.inl rfl
    case isFalse live =>
      split
      · exact Or.inl rfl
      case isFalse same =>
        split
        · exact Or.inl rfl
        split
        · exact Or.inl rfl
        case h_2 items queue =>
          split
          · exact Or.inl rfl
          · obtain rfl := not_not.mp same
            exact Or.inr ⟨items, queue, active, not_not.mp live, rfl⟩

/-! ### Fences -/

/-- Pending guidance is for a turn whose settlement has not cleared the queue. -/
structure Fenced (session : SessionRuntime) : Prop where
  scheduled : ∀ (turn : TurnId) (handle : Turn), session.turns[turn]? = some handle →
    handle.settlement = none → session.loop = some turn
  ended : ∀ (turn : TurnId) (handle : Turn), session.turns[turn]? = some handle →
    handle.result = none → handle.Unsettled
  pending : ∀ items, session.steerQueue = some items → ∀ guidance ∈ items,
    ∃ handle : Turn, session.turns[guidance.turn]? = some handle ∧ handle.Unsettled
  numbered : ∀ items, session.steerQueue = some items → ∀ guidance ∈ items,
    guidance.number < session.accepted
  counted : ∀ entry ∈ session.drained, entry.2.number < session.accepted
  unique : (session.drained.map (·.2.number) ++
    (session.steerQueue.getD []).map (·.number)).Nodup

/-- A step that leaves the guidance as it is, and the turns as unsettled as they are. -/
theorem Fenced.of_turns (fenced : Fenced session) (guidance : SameGuidance session next)
    (scheduled : ∀ (turn : TurnId) (handle : Turn), next.turns[turn]? = some handle →
      handle.settlement = none → next.loop = some turn)
    (ended : ∀ (turn : TurnId) (handle : Turn), next.turns[turn]? = some handle →
      handle.result = none → handle.Unsettled)
    (unsettled : session.steerQueue.getD [] ≠ [] → ∀ (turn : TurnId) (handle : Turn),
      session.turns[turn]? = some handle → handle.Unsettled →
        ∃ after : Turn, next.turns[turn]? = some after ∧ after.Unsettled) : Fenced next where
  scheduled := scheduled
  ended := ended
  pending := by
    intro items queue item present
    rw [guidance.steerQueue] at queue
    rcases fenced.pending items queue item present with ⟨handle, found, open_⟩
    refine unsettled ?_ item.turn handle found open_
    rw [queue]
    exact ne_nil_of_mem present
  numbered := by
    rw [guidance.steerQueue, guidance.accepted]
    exact fenced.numbered
  counted := by
    rw [guidance.drained, guidance.accepted]
    exact fenced.counted
  unique := by
    rw [guidance.drained, guidance.steerQueue]
    exact fenced.unique

theorem Fenced.congr (fenced : Fenced session) (guidance : SameGuidance session next)
    (turns : next.turns = session.turns) (loop : next.loop = session.loop) : Fenced next := by
  refine fenced.of_turns guidance ?_ ?_ ?_
  · rw [turns, loop]
    exact fenced.scheduled
  · rw [turns]
    exact fenced.ended
  · rw [turns]
    exact fun _ turn handle found open_ => ⟨handle, found, open_⟩

theorem Fenced.silent (fenced : Fenced session) (silent : Silent session next) : Fenced next :=
  fenced.congr silent.toSameGuidance silent.turns silent.loop

variable {turn : TurnId}

theorem Fenced.modify (fenced : Fenced session) (guidance : SameGuidance session next)
    {change : Turn → Turn} (turns : next.turns = session.turns.modify turn change)
    (loop : next.loop = session.loop ∨
      session.loop = some turn ∧ ∀ handle, (change handle).settlement ≠ none)
    (scheduled : ∀ handle, (change handle).settlement = none → handle.settlement = none)
    (ended : ∀ handle, session.turns[turn]? = some handle →
      (change handle).result = none → (change handle).Unsettled)
    (unsettled : session.steerQueue.getD [] = [] ∨
      ∀ handle, session.turns[turn]? = some handle → handle.Unsettled →
        (change handle).Unsettled) : Fenced next := by
  refine fenced.of_turns guidance ?_ ?_ ?_
  · intro other handle found open_
    rw [turns, getElem?_modify] at found
    split at found
    case isTrue same =>
      subst same
      rcases Option.map_eq_some_iff.mp found with ⟨before, stored, rfl⟩
      rcases loop with same | ⟨_, closed⟩
      · exact same.trans (fenced.scheduled turn before stored (scheduled before open_))
      · exact absurd open_ (closed before)
    case isFalse different =>
      have current := fenced.scheduled other handle found open_
      rcases loop with same | ⟨here, _⟩
      · exact same.trans current
      · exact absurd (Option.mem_unique here current) different
  · intro other handle found running
    rw [turns, getElem?_modify] at found
    split at found
    case isTrue same =>
      subst same
      rcases Option.map_eq_some_iff.mp found with ⟨before, stored, rfl⟩
      exact ended before stored running
    case isFalse => exact fenced.ended other handle found running
  · intro present other handle found open_
    rcases unsettled with empty | kept
    · exact absurd empty present
    by_cases same : turn = other
    · subst same
      refine ⟨change handle, ?_, kept handle found open_⟩
      rw [turns, getElem?_modify, if_pos rfl, found]
      rfl
    · refine ⟨handle, ?_, open_⟩
      rw [turns, getElem?_modify, if_neg same]
      exact found

/-! ### The queue -/

theorem clearSilent_empty (session : SessionRuntime) :
    session.clearSilent.steerQueue.getD [] = [] := by
  cases queue : session.steerQueue with
  | none => simp [clearSilent, queue]
  | some items => simp [clearSilent, queue]

theorem empty_of_cleared {items : List Guidance}
    (queue : session.clearSilent.steerQueue = some items) : items = [] := by
  rcases Option.map_eq_some_iff.mp queue with ⟨_, _, rfl⟩
  rfl

theorem Fenced.clear (fenced : Fenced session) : Fenced session.clearSilent where
  scheduled := fenced.scheduled
  ended := fenced.ended
  pending := by
    intro items queue item present
    rw [empty_of_cleared queue] at present
    cases present
  numbered := by
    intro items queue item present
    rw [empty_of_cleared queue] at present
    cases present
  counted := fenced.counted
  unique := by
    rw [clearSilent_empty, map_nil, append_nil]
    exact (nodup_append.mp fenced.unique).1

theorem Fenced.drain (fenced : Fenced session) (turn : TurnId) : Fenced (session.drain turn) where
  scheduled := fenced.scheduled
  ended := fenced.ended
  pending := fenced.clear.pending
  numbered := fenced.clear.numbered
  counted := by
    intro entry present
    rcases mem_append.mp present with before | now
    · exact fenced.counted entry before
    · rcases mem_map.mp now with ⟨item, queued, rfl⟩
      cases queue : session.steerQueue with
      | none =>
        rw [queue] at queued
        cases queued
      | some items =>
        rw [queue] at queued
        exact fenced.numbered items queue item queued
  unique := by
    have empty : (session.drain turn).steerQueue.getD [] = [] := clearSilent_empty session
    rw [empty, map_nil, append_nil, SessionRuntime.drain, map_append, map_map]
    exact fenced.unique

theorem Fenced.steer (fenced : Fenced session) (expectedTurnId : TurnId) (text : Text) :
    Fenced (session.steerTurn expectedTurnId text).1 := by
  rcases steerTurn_cases session expectedTurnId text with same | ⟨items, queue, _, live, accepts⟩
  · rw [same]
    exact fenced
  · rw [accepts]
    refine ⟨fenced.scheduled, fenced.ended, ?_, ?_, ?_, ?_⟩
    · intro later same item present
      cases same
      rcases mem_append.mp present with before | now
      · exact fenced.pending items queue item before
      · rcases live with ⟨handle, found, running⟩
        obtain rfl := mem_singleton.mp now
        exact ⟨handle, found, fenced.ended expectedTurnId handle found running⟩
    · intro later same item present
      cases same
      rcases mem_append.mp present with before | now
      · exact Nat.lt_succ_of_lt (fenced.numbered items queue item before)
      · obtain rfl := mem_singleton.mp now
        exact Nat.lt_succ_self _
    · intro entry present
      exact Nat.lt_succ_of_lt (fenced.counted entry present)
    · have unique := fenced.unique
      rw [queue] at unique
      simp only [Option.getD_some, map_append, map_cons, map_nil]
      rw [← append_assoc]
      refine unique.append (nodup_singleton _) ?_
      intro number before now
      obtain rfl := mem_singleton.mp now
      rcases mem_append.mp before with drained | pending
      · rcases mem_map.mp drained with ⟨entry, present, same⟩
        have older := fenced.counted entry present
        omega
      · rcases mem_map.mp pending with ⟨item, present, same⟩
        have older := fenced.numbered items queue item present
        omega

/-! ### Turns and settlements -/

/-- A turn is started with its own settlement to schedule, and no other. -/
theorem Fenced.begin (fenced : Fenced session) (message : UserTurn) (idle : session.loop = none) :
    Fenced { session.begin message with loop := some session.turns.length } := by
  refine fenced.of_turns ⟨rfl, rfl, rfl⟩ ?_ ?_ ?_
  · intro turn handle found open_
    rcases begin_turns session message turn found with older | ⟨newest, _⟩
    · rw [fenced.scheduled turn handle older open_] at idle
      cases idle
    · exact congrArg some newest
  · intro turn handle found running
    rcases begin_turns session message turn found with older | ⟨_, rfl⟩
    · exact fenced.ended turn handle older running
    · exact Or.inl rfl
  · intro _ turn handle found open_
    refine ⟨handle, ?_, open_⟩
    exact (getElem?_append_left (lt_of_found found)).trans found

theorem Fenced.startOnLoop (fenced : Fenced session) (message : UserTurn)
    (reservation : Option TurnReservation) (owner : Option TurnId) (idle : session.loop = none) :
    Fenced (session.startOnLoop message reservation owner) := by
  unfold SessionRuntime.startOnLoop
  rcases start_cases session message reservation owner with ⟨_, started⟩ | ⟨error, _, failed⟩
  · rw [started]
    exact fenced.begin message idle
  · rw [failed]
    exact fenced.silent (abandon_silent session reservation)

theorem Fenced.setCancelled (fenced : Fenced session) (guidance : SameGuidance session next)
    (turns : next.turns = (session.setCancelled turn).turns)
    (loop : next.loop = session.loop) : Fenced next :=
  fenced.modify guidance turns (Or.inl loop) (fun _ open_ => open_) (fun handle found running =>
    fenced.ended turn handle found running) (Or.inr fun _ _ open_ => open_)

variable {result : TurnStatus} {cancelled : Bool}

theorem Fenced.settle (fenced : Fenced session) {before after : Settlement}
    (guidance : SameGuidance session next)
    (found : session.turns[turn]? = some ⟨cancelled, some result, some before⟩)
    (turns : next.turns = (session.setSettlement turn after).turns)
    (loop : next.loop = session.loop)
    (cleared : session.steerQueue.getD [] = [] ∨ before ≠ .waiting) : Fenced next := by
  refine fenced.modify guidance turns (Or.inl loop) ?_ ?_ ?_
  · exact nofun
  · intro handle stored running
    obtain rfl := Option.mem_unique found stored
    cases running
  · refine cleared.imp_right fun past handle stored open_ => ?_
    obtain rfl := Option.mem_unique found stored
    rcases open_ with unscheduled | waiting
    · cases unscheduled
    · exact absurd (Option.some.inj waiting) past

theorem Fenced.schedule (fenced : Fenced session) (started : session.loop = some turn) :
    Fenced { session.scheduleSettlement turn with loop := none } := by
  have turns : { session.scheduleSettlement turn with loop := none }.turns =
      session.turns.modify turn ({ · with settlement := some .waiting }) := rfl
  refine fenced.modify ⟨rfl, rfl, rfl⟩ turns (Or.inr ⟨started, ?_⟩) ?_ ?_ ?_
  · intro handle open_
    cases open_
  · intro handle open_
    cases open_
  · exact fun _ _ _ => Or.inr rfl
  · exact Or.inr fun _ _ _ => Or.inr rfl

theorem Fenced.cancelTurn (fenced : Fenced session) (expectedTurnId : TurnId) :
    Fenced (session.cancelTurn expectedTurnId).1 := by
  unfold SessionRuntime.cancelTurn
  split
  · exact fenced
  split
  · exact fenced
  case h_2 turn active =>
    dsimp only
    split
    · exact fenced
    split
    · exact fenced
    split
    · exact fenced
    split
    · exact fenced.setCancelled ⟨rfl, rfl, rfl⟩ rfl rfl
    · exact fenced.setCancelled ⟨rfl, rfl, rfl⟩ rfl rfl

theorem Fenced.settleClear (fenced : Fenced session)
    (found : session.turns[turn]? = some ⟨cancelled, some result, some .waiting⟩) :
    Fenced (session.settleClear turn result) := by
  have cleared : session.clearSilent.turns[turn]? = some ⟨cancelled, some result, some .waiting⟩ :=
    found
  unfold SessionRuntime.settleClear
  dsimp only
  split
  · exact fenced.clear.settle ⟨rfl, rfl, rfl⟩ cleared rfl rfl (Or.inl (clearSilent_empty session))
  · exact fenced.clear.settle ⟨rfl, rfl, rfl⟩ cleared rfl rfl (Or.inl (clearSilent_empty session))

theorem Fenced.settlePublish (fenced : Fenced session)
    (found : session.turns[turn]? = some ⟨cancelled, some result, some .publishing⟩) :
    Fenced (session.settlePublish turn result) := by
  unfold SessionRuntime.settlePublish
  dsimp only
  split
  · exact fenced.settle ⟨rfl, rfl, rfl⟩ found rfl rfl (Or.inr (by rintro ⟨⟩))
  · exact fenced.settle ⟨rfl, rfl, rfl⟩ found rfl rfl (Or.inr (by rintro ⟨⟩))

theorem Fenced.close (fenced : Fenced session) (cancelActive strictBusy : Bool) :
    Fenced (session.close cancelActive strictBusy).1 := by
  have claimed : Fenced { session.clearSilent with
      closed := true, closeClaim := some session.activeHandle, reservation := none } :=
    fenced.clear.congr ⟨rfl, rfl, rfl⟩ rfl rfl
  unfold SessionRuntime.close
  split
  · exact fenced
  split
  · exact fenced
  · dsimp only
    split
    · split
      · exact fenced.clear.setCancelled ⟨rfl, rfl, rfl⟩ rfl rfl
      · exact claimed
    · exact claimed

variable {label : SessionLabel}

theorem step_of_onLoop (stepped : onLoop.step session label = some next) :
    label.isStart = false ∧ machine.step session label = some next := by
  simp only [onLoop] at stepped
  split at stepped
  · cases stepped
  case isFalse onLoop => exact ⟨by simpa using onLoop, stepped⟩

theorem Fenced.step (fenced : Fenced session)
    (stepped : onLoop.step session label = some next) : Fenced next := by
  rcases step_of_onLoop stepped with ⟨onLoop, taken⟩
  cases stepped_of_step taken with
  | call silent => exact fenced.silent silent
  | submit message reservation idle => exact fenced.startOnLoop message reservation none idle
  | start message reservation => cases onLoop
  | scheduleSettlement started => exact fenced.schedule started
  | cancelTurn expectedTurnId => exact fenced.cancelTurn expectedTurnId
  | steerTurn expectedTurnId text => exact fenced.steer expectedTurnId text
  | drain turn => exact fenced.drain turn
  | finish result live =>
    refine fenced.modify ⟨rfl, rfl, rfl⟩ rfl (Or.inl rfl) (fun _ open_ => open_) ?_
      (Or.inr fun _ _ open_ => open_)
    exact nofun
  | cancelToken turn => exact fenced.setCancelled ⟨rfl, rfl, rfl⟩ rfl rfl
  | settleClear found idle => exact fenced.settleClear found
  | settleGoal active found idle =>
    exact fenced.settle ⟨rfl, rfl, rfl⟩ found rfl rfl (Or.inr (by rintro ⟨⟩))
  | @settleFollow turn _ _ message found idle =>
    have moved : Fenced (session.setSettlement turn .publishing) :=
      fenced.settle ⟨rfl, rfl, rfl⟩ found rfl rfl (Or.inr (by rintro ⟨⟩))
    exact moved.startOnLoop message none (some turn) idle
  | settlePublish found idle => exact fenced.settlePublish found
  | settled found idle =>
    exact fenced.settle ⟨rfl, rfl, rfl⟩ found rfl rfl (Or.inr (by rintro ⟨⟩))
  | close cancelActive strictBusy idle => exact fenced.close cancelActive strictBusy
  | closeEnd claim ends => exact fenced.congr ⟨rfl, rfl, rfl⟩ rfl rfl
  | closeAbort => exact fenced.congr ⟨rfl, rfl, rfl⟩ rfl rfl

/-! ### Runs -/

/-- What was accepted and what was drained so far. -/
structure SameRecord (session next : SessionRuntime) : Prop where
  accepted : next.accepted = session.accepted
  drained : next.drained = session.drained

theorem SameGuidance.record (guidance : SameGuidance session next) : SameRecord session next :=
  ⟨guidance.accepted, guidance.drained⟩

theorem cancelTurn_record (session : SessionRuntime) (expectedTurnId : TurnId) :
    SameRecord session (session.cancelTurn expectedTurnId).1 := by
  unfold cancelTurn
  split
  · exact ⟨rfl, rfl⟩
  split
  · exact ⟨rfl, rfl⟩
  · dsimp only
    split
    · exact ⟨rfl, rfl⟩
    split
    · exact ⟨rfl, rfl⟩
    split
    · exact ⟨rfl, rfl⟩
    split
    · exact ⟨rfl, rfl⟩
    · exact ⟨rfl, rfl⟩

theorem close_record (session : SessionRuntime) (cancelActive strictBusy : Bool) :
    SameRecord session (session.close cancelActive strictBusy).1 := by
  unfold close
  split
  · exact ⟨rfl, rfl⟩
  split
  · exact ⟨rfl, rfl⟩
  · dsimp only
    split
    · split
      · exact ⟨rfl, rfl⟩
      · exact ⟨rfl, rfl⟩
    · exact ⟨rfl, rfl⟩

theorem startOnLoop_record (session : SessionRuntime) (message : UserTurn)
    (reservation : Option TurnReservation) (owner : Option TurnId) :
    SameRecord session (session.startOnLoop message reservation owner) := by
  rcases startOnLoop_cases session message reservation owner with ⟨_, started⟩ | failed
  · rw [started]
    exact ⟨rfl, rfl⟩
  · rw [failed]
    exact (abandon_silent session reservation).record

/-- Guidance is accepted by `steer_turn` and drained by the agent; no other step records any. -/
theorem record_of_step (stepped : onLoop.step session label = some next) :
    SameRecord session next ∨ (∃ turn text, label = .steerTurn turn text) ∨
      ∃ turn, label = .drain turn := by
  rcases step_of_onLoop stepped with ⟨onLoop, taken⟩
  cases stepped_of_step taken with
  | call silent => exact Or.inl silent.record
  | submit message reservation idle =>
    exact Or.inl (startOnLoop_record session message reservation none)
  | start message reservation => cases onLoop
  | cancelTurn expectedTurnId => exact Or.inl (cancelTurn_record session expectedTurnId)
  | steerTurn expectedTurnId text => exact Or.inr (Or.inl ⟨expectedTurnId, text, rfl⟩)
  | drain turn => exact Or.inr (Or.inr ⟨turn, rfl⟩)
  | settleClear found idle =>
    unfold settleClear
    dsimp only
    split
    · exact Or.inl ⟨rfl, rfl⟩
    · exact Or.inl ⟨rfl, rfl⟩
  | @settleFollow turn _ _ message found idle =>
    have started := startOnLoop_record (session.setSettlement turn .publishing) message none
      (some turn)
    exact Or.inl ⟨started.accepted, started.drained⟩
  | settlePublish found idle =>
    unfold settlePublish
    dsimp only
    split
    · exact Or.inl ⟨rfl, rfl⟩
    · exact Or.inl ⟨rfl, rfl⟩
  | close cancelActive strictBusy idle => exact Or.inl (close_record session cancelActive strictBusy)
  | scheduleSettlement | finish | cancelToken | settleGoal | settled | closeEnd | closeAbort =>
    exact Or.inl ⟨rfl, rfl⟩

theorem Fenced.scheduled_of_onLoop (fenced : Fenced session)
    (stepped : onLoop.step session label = some next) : session.Scheduled label := by
  intro starts handle present open_
  rcases getElem?_of_mem present with ⟨turn, found⟩
  have busy := fenced.scheduled turn handle found open_
  rcases step_of_onLoop stepped with ⟨direct, taken⟩
  cases label with
  | submit message reservation =>
    simp only [machine, SessionRuntime.step] at taken
    split at taken
    case isTrue idle =>
      rw [busy] at idle
      cases idle
    case isFalse => cases taken
  | start message reservation => cases direct
  | settleFollow turn message =>
    rcases settling_cases taken with ⟨_, _, _, idle, _⟩
    rw [busy] at idle
    cases idle
  | _ => cases starts

/-- A turn that is running or whose queue is not cleared is the last one. -/
theorem InOrder.last_of_unsettled (ordered : InOrder session) {turn : ℕ} {handle : Turn}
    (found : session.turns[turn]? = some handle) (open_ : handle.Unsettled) :
    turn + 1 = session.turns.length := by
  have inside := lt_of_found found
  by_contra older
  rcases ordered.late turn handle found (by omega) with ⟨settlement, same, late⟩
  rcases open_ with unscheduled | waiting
  · rw [unscheduled] at same
    cases same
  · obtain rfl := Option.mem_unique waiting same
    exact late

theorem Fenced.own (fenced : Fenced session) (ordered : InOrder session)
    (live : session.Live turn) {guidance : Guidance}
    (present : guidance ∈ session.steerQueue.getD []) : guidance.turn = turn := by
  cases queue : session.steerQueue with
  | none =>
    rw [queue] at present
    cases present
  | some items =>
    rw [queue] at present
    rcases live with ⟨handle, found, running⟩
    rcases fenced.pending items queue guidance present with ⟨other, stored, open_⟩
    have first := ordered.last_of_unsettled stored open_
    have second := ordered.last_of_unsettled found (fenced.ended turn handle found running)
    exact Nat.add_right_cancel (first.trans second.symm)

/-- What a step may do to the guidance. -/
structure SteeringFenced (session : SessionRuntime) (label : SessionLabel)
    (next : SessionRuntime) : Prop where
  /-- Guidance is accepted for the live turn, under a number of its own. -/
  accepted : next.accepted ≠ session.accepted → ∃ turn text, label = .steerTurn turn text ∧
    session.Live turn ∧ next.accepted = session.accepted + 1 ∧
    next.steerQueue = session.steerQueue.map (· ++ [⟨session.accepted, turn, text.strip⟩])
  /-- It is drained in the turn that it was accepted for, while that turn is live. -/
  drained : next.drained ≠ session.drained → ∃ turn, label = .drain turn ∧ session.Live turn ∧
    session.activeHandle = some turn ∧
    ∃ items : List Guidance, next.drained = session.drained ++ items.map (turn, ·) ∧
      ∀ guidance ∈ items, guidance.turn = turn
  /-- No guidance is drained twice. -/
  once : (next.drained.map (·.2.number)).Nodup

theorem opened_fenced (threadId : Text) : Fenced (opened threadId (some [])) where
  scheduled := by
    rintro turn handle ⟨⟩
  ended := by
    rintro turn handle ⟨⟩
  pending := by
    rintro items ⟨⟩ guidance ⟨⟩
  numbered := by
    rintro items ⟨⟩ guidance ⟨⟩
  counted := by
    rintro entry ⟨⟩
  unique := nodup_nil

/-- In every run, guidance is drained at most once, and only in the turn it was accepted for. -/
theorem steering_fenced {threadId : Text} {labels : List SessionLabel} {label : SessionLabel}
    (ran : onLoop.run (opened threadId (some [])) labels = some session)
    (stepped : onLoop.step session label = some next) : SteeringFenced session label next := by
  have holds : Fenced session ∧ InOrder session :=
    @Machine.run_invariant _ _ onLoop (fun session => Fenced session ∧ InOrder session)
      (fun holds stepped => ⟨holds.1.step stepped,
        holds.2.step (holds.1.scheduled_of_onLoop stepped) (step_of_onLoop stepped).2⟩)
      _ _ _ ⟨opened_fenced threadId, opened_inOrder threadId _⟩ ran
  rcases holds with ⟨fenced, ordered⟩
  have once := (List.nodup_append.mp (fenced.step stepped).unique).1
  rcases record_of_step stepped with same | ⟨turn, text, rfl⟩ | ⟨turn, rfl⟩
  · exact ⟨fun moved => absurd same.accepted moved, fun moved => absurd same.drained moved, once⟩
  · obtain rfl := Option.some.inj (step_of_onLoop stepped).2
    rcases steerTurn_cases session turn text with same | ⟨items, queue, _, live, accepts⟩
    · exact ⟨fun moved => absurd (congrArg accepted same) moved,
        fun moved => absurd (congrArg drained same) moved, once⟩
    · have kept : (session.steerTurn turn text).1.drained = session.drained := by
        rw [accepts]
      refine ⟨fun _ => ⟨turn, text, rfl, live, ?_, ?_⟩, fun moved => absurd kept moved, once⟩
      · exact congrArg accepted accepts
      · rw [queue]
        exact congrArg steerQueue accepts
  · have taken := (step_of_onLoop stepped).2
    simp only [machine, step] at taken
    split at taken
    case isTrue live =>
      obtain rfl := Option.some.inj taken
      refine ⟨fun moved => absurd rfl moved, fun _ => ⟨turn, rfl, live, ?_, ?_⟩, once⟩
      · exact ordered.owned.live turn live
      · exact ⟨session.steerQueue.getD [], rfl, fun guidance present =>
          fenced.own ordered live present⟩
    case isFalse => cases taken

/-- Guidance for the first turn is drained in it; what comes later is cleared before the follow-up
starts. -/
theorem steering_fenced_follow :
    ∃ session, onLoop.run (opened (Text.ofString "thread") (some []))
        [.submit {} none, .scheduleSettlement, .steerTurn 0 (Text.ofString "left"), .drain 0,
          .steerTurn 0 (Text.ofString "right"), .finish 0 .completed, .settleClear 0,
          .settleGoal 0 true, .settleFollow 0 {}, .scheduleSettlement] = some session ∧
      ∃ next, onLoop.step session (.drain 1) = some next ∧
        SteeringFenced session (.drain 1) next ∧ next.accepted = 2 ∧ next.drained.length = 1 := by
  have taken : ∃ session, onLoop.run (opened (Text.ofString "thread") (some []))
        [.submit {} none, .scheduleSettlement, .steerTurn 0 (Text.ofString "left"), .drain 0,
          .steerTurn 0 (Text.ofString "right"), .finish 0 .completed, .settleClear 0,
          .settleGoal 0 true, .settleFollow 0 {}, .scheduleSettlement] = some session ∧
      ∃ next, onLoop.step session (.drain 1) = some next ∧
        next.accepted = 2 ∧ next.drained.length = 1 := by
    decide +kernel
  rcases taken with ⟨session, ran, next, stepped, accepted, drained⟩
  exact ⟨session, ran, next, stepped, steering_fenced ran stepped, accepted, drained⟩

end SessionRuntime

end Synapse.Turns
