import Synapse.Ptc.Bridge
import Synapse.Ptc.Fairness

/-!
# Write exclusion covers the handlers

While the handler of a call runs, or can still run, the ticket of the call is held. So a
handler with a write ticket runs alone, whatever fails. That every ticket is released in the end
needs the hand-over: an exception between `acquire` and the hand-over, other than a full queue,
loses the ticket.
-/

namespace Synapse.Ptc

open List

/-! ### What the scheduler does to one ticket -/

namespace FairReadWriteScheduler

variable {scheduler next : FairReadWriteScheduler}

def Released (scheduler : FairReadWriteScheduler) (seq : ℕ) : Prop :=
  ∃ ticket, scheduler.tickets[seq]? = some ticket ∧ ticket.released = true

variable {seq : ℕ}
variable {other : ℕ}

theorem released_of_set {ticket after : Ticket}
    (found : scheduler.tickets[other]? = some ticket)
    (tickets : next.tickets = scheduler.tickets.set other after)
    (kept : ticket.released = true → after.released = true)
    (released : scheduler.Released seq) : next.Released seq := by
  rcases released with ⟨before, beforeFound, released⟩
  have lookup := Locks.getElem?_set_of_found found after seq
  rw [← tickets] at lookup
  split at lookup
  · rename_i same
    subst same
    obtain rfl := Option.mem_unique found beforeFound
    exact ⟨after, lookup, kept released⟩
  · exact ⟨before, lookup.trans beforeFound, released⟩

theorem Moved.released_stays (moved : Moved scheduler next)
    (released : scheduler.Released seq) : next.Released seq := by
  cases moved with
  | still tickets _ _ _ =>
    unfold Released
    rw [tickets]
    exact released
  | submitted fresh _ tickets _ _ _ =>
    rcases released with ⟨ticket, found, released⟩
    have inside := (List.getElem?_eq_some_iff.mp found).1
    refine ⟨ticket, ?_, released⟩
    rw [tickets, getElem?_append_left inside, found]
  | dropped other ticket found _ tickets _ _ _ _ =>
    exact released_of_set found tickets id released
  | granted other ticket found _ _ _ _ tickets _ _ =>
    exact released_of_set found tickets id released
  | released other ticket found _ tickets _ _ _ =>
    exact released_of_set found tickets (fun _ => rfl) released

theorem Fair.alone (fair : scheduler.Fair) {first second : ℕ} {writer other : Ticket}
    (different : first ≠ second) (firstFound : scheduler.tickets[first]? = some writer)
    (secondFound : scheduler.tickets[second]? = some other)
    (writes : writer.holds .write = true) : other.Held = false := by
  by_contra held
  simp only [Bool.not_eq_false] at held
  have positive : 0 < scheduler.held .write :=
    countP_pos_iff.mpr ⟨writer, mem_of_getElem? firstFound, writes⟩
  cases active : scheduler.writerActive with
  | false =>
    have none := fair.noWriter active
    omega
  | true =>
    have single := fair.writer active
    cases kind : other.kind with
    | read =>
      have reads : 0 < scheduler.held .read :=
        countP_pos_iff.mpr ⟨other, mem_of_getElem? secondFound,
          by simp [Ticket.holds, kind, held]⟩
      have counted := fair.reads
      omega
    | write =>
      -- Without the first ticket one write ticket would still be held.
      have fewer := Locks.countP_set_of_found (·.holds .write) firstFound
        { writer with released := true }
      have lookup := Locks.getElem?_set_of_found firstFound
        { writer with released := true } second
      rw [if_neg different.symm, secondFound] at lookup
      have rest : 0 < (scheduler.tickets.set first { writer with released := true }).countP
          (·.holds .write) :=
        countP_pos_iff.mpr ⟨other, mem_of_getElem? lookup,
          by simp [Ticket.holds, kind, held]⟩
      have total := single.2
      unfold FairReadWriteScheduler.held at total
      simp only [writes, Bool.toNat_true] at fewer
      have gone : ({ writer with released := true } : Ticket).holds .write = false := by
        simp [Ticket.holds, Ticket.Held]
      rw [gone, Bool.toNat_false] at fewer
      omega

theorem releaseNowait_tickets {ticket : Ticket} (sound : ticket.Sound) (held : ticket.Held = true) :
    (scheduler.releaseNowait seq ticket).tickets =
      scheduler.tickets.set seq { ticket with released := true } := by
  simp only [Ticket.Held, Bool.and_eq_true, Bool.not_eq_true'] at held
  have live : (!ticket.granted || ticket.released || ticket.cancelled) = false := by
    simp [held.1, held.2, sound.2 held.1]
  unfold releaseNowait
  simp only [live, Bool.false_eq_true, if_false, grantLocked, finishLocked_tickets, put]

/-- What an `acquire` that is given up does to its ticket. -/
def abandoned (ticket : Ticket) : Ticket :=
  if ticket.granted then { ticket with released := true } else { ticket with cancelled := true }

theorem abandon_tickets {ticket : Ticket} (unreleased : ticket.released = false) :
    (scheduler.abandon seq ticket).tickets = scheduler.tickets.set seq (abandoned ticket) := by
  unfold abandon abandoned
  cases ticket.granted with
  | true => simp [unreleased, grantLocked, put]
  | false => simp [grantLocked, put]

/-- What a pass over the queue does to a ticket. -/
inductive Passed (ticket : Ticket) : Ticket → Prop where
  | same : Passed ticket ticket
  | dropped (ungranted : ticket.granted = false) : Passed ticket { ticket with cancelled := true }
  | granted (waits : ticket.Waiting) (unreleased : ticket.released = false) :
      Passed ticket { ticket with granted := true, loop := none }

variable {label : SchedulerLabel}

theorem pass_released (pass : label = .prune ∨ label = .grant ∨ ∃ loop, label = .close loop)
    (stepped : scheduler.step label = some next) (seq : ℕ) :
    next.tickets[seq]?.map (·.released) = scheduler.tickets[seq]?.map (·.released) := by
  have kept : ∀ (other : ℕ) (ticket after : Ticket), scheduler.tickets[other]? = some ticket →
      after.released = ticket.released →
      (scheduler.tickets.set other after)[seq]?.map (·.released) =
        scheduler.tickets[seq]?.map (·.released) := by
    intro other ticket after found same
    rw [Locks.getElem?_set_of_found found after seq]
    split
    · rename_i equal
      rw [equal, found, Option.map_some, Option.map_some, same]
    · rfl
  rcases pass with rfl | rfl | ⟨loop, rfl⟩
  · simp only [step, pruneLocked] at stepped
    split at stepped
    · rcases Option.map_eq_some_iff.mp stepped with ⟨ticket, found, rfl⟩
      split
      · exact kept _ ticket _ found rfl
      · rfl
    · cases stepped
      rfl
    · cases stepped
  · simp only [step, grantNext] at stepped
    split at stepped
    · cases stepped
      rfl
    · rcases Option.map_eq_some_iff.mp stepped with ⟨ticket, found, rfl⟩
      split
      · rfl
      · split
        · simp only [admit_tickets, put]
          exact kept _ ticket _ found rfl
        · exact kept _ ticket _ found rfl
    · cases stepped
  · cases stepped
    rfl

theorem pass_length (pass : label = .prune ∨ label = .grant ∨ ∃ loop, label = .close loop)
    (stepped : scheduler.step label = some next) :
    next.tickets.length = scheduler.tickets.length := by
  have flags : next.tickets.map (·.released) = scheduler.tickets.map (·.released) := by
    apply ext_getElem?
    intro seq
    rw [getElem?_map, getElem?_map]
    exact pass_released pass stepped seq
  simpa using congrArg List.length flags

theorem passed_of_set {ticket before after : Ticket}
    (found : scheduler.tickets[seq]? = some ticket)
    (otherFound : scheduler.tickets[other]? = some before)
    (tickets : next.tickets = scheduler.tickets.set other after) (passed : Passed before after) :
    ∃ after, next.tickets[seq]? = some after ∧ Passed ticket after := by
  have lookup := Locks.getElem?_set_of_found otherFound after seq
  rw [← tickets] at lookup
  split at lookup
  · rename_i same
    subst same
    obtain rfl := Option.mem_unique found otherFound
    exact ⟨after, lookup, passed⟩
  · exact ⟨ticket, lookup.trans found, .same⟩

theorem passed_of_pass (queued : scheduler.Queued)
    (pass : label = .prune ∨ label = .grant ∨ ∃ loop, label = .close loop)
    (stepped : scheduler.step label = some next) {ticket : Ticket}
    (found : scheduler.tickets[seq]? = some ticket) :
    ∃ after, next.tickets[seq]? = some after ∧ Passed ticket after := by
  cases moved_of_step queued stepped with
  | still tickets _ _ _ =>
    refine ⟨ticket, ?_, .same⟩
    rw [tickets, found]
  | submitted fresh _ tickets _ _ _ =>
    have inside := (List.getElem?_eq_some_iff.mp found).1
    refine ⟨ticket, ?_, .same⟩
    rw [tickets, getElem?_append_left inside, found]
  | dropped other before otherFound ungranted tickets _ _ _ _ =>
    exact passed_of_set found otherFound tickets (.dropped ungranted)
  | granted other before otherFound _ unreleased pending _ tickets _ _ =>
    have waits : before.Waiting := by
      apply queued.waits otherFound
      rw [pending]
      exact mem_cons_self
    exact passed_of_set found otherFound tickets (.granted waits unreleased)
  | released other before otherFound held tickets _ _ _ =>
    -- A pass leaves the flag alone.
    have kept := pass_released pass stepped other
    have lookup := Locks.getElem?_set_of_found otherFound { before with released := true } other
    rw [← tickets, if_pos rfl] at lookup
    rw [lookup, otherFound] at kept
    simp only [Option.map_some, Option.some.injEq] at kept
    simp [Ticket.Held, ← kept] at held

end FairReadWriteScheduler

/-! ### What one step does -/

/-- The call whose ticket is not handed over, since an exception other than a full queue has left
`_invoke_tool`. -/
def BridgeLabel.loses : BridgeLabel → Option ℕ
  | .buildFails number | .submitFails number _ => some number
  | _ => none

/-- A step of one call that leaves the scheduler alone. -/
inductive Change (call : Call) : Bool → Call → Prop where
  | built (phase : call.phase = .building) :
      Change call false
        { call with phase := if call.offload then .submitting else .handling }
  | returned (phase : call.phase = .handling) :
      Change call false { call with phase := .returning }
  | refused (phase : call.phase = .submitting) :
      Change call false { call with phase := .refused }
  | submitted (phase : call.phase = .submitting) :
      Change call false { call with phase := .submitted, future := some ⟨.pending, .absent⟩ }
  | registered (phase : call.phase = .submitted) :
      Change call false
        { call with phase := .awaiting, future := call.future.map (·.addDoneCallback) }
  | gaveUp (phase : call.phase = .awaiting) :
      Change call false { call with phase := .ended, future := call.future.map (·.cancel) }
  | delivered (phase : call.phase = .awaiting) : Change call false { call with phase := .ended }
  | started (future : Future) (found : call.future = some future)
      (pending : future.state = .pending) :
      Change call false { call with future := some { future with state := .running } }
  | skipped : Change call false call
  | finished (future : Future) (found : call.future = some future)
      (running : future.state = .running) :
      Change call false { call with future := some (future.settle .finished) }
  | lost (phase : call.phase = .building) : Change call true { call with phase := .failed }
  | lostItem (phase : call.phase = .submitting) : Change call true { call with phase := .failed }
  | lostQueued (phase : call.phase = .submitting) :
      Change call true { call with phase := .failed, future := some ⟨.pending, .absent⟩ }

/-- A step of one call that releases its ticket. -/
inductive Hands (call : Call) : Call → Prop where
  | released (phase : call.phase = .returning ∨ call.phase = .refused) :
      Hands call { call with phase := .ended }
  | finished (future : Future) (found : call.future = some future)
      (due : future.callback = .due) :
      Hands call { call with future := some { future with callback := .ran } }

namespace PtcBridge

variable {bridge next : PtcBridge}

inductive Turned (bridge next : PtcBridge) : Option ℕ → Prop where
  | passed (label : SchedulerLabel)
      (pass : label = .prune ∨ label = .grant ∨ ∃ loop, label = .close loop)
      (stepped : bridge.scheduler.step label = some next.scheduler)
      (calls : next.calls = bridge.calls) : Turned bridge next none
  | still (scheduler : next.scheduler = bridge.scheduler) (calls : next.calls = bridge.calls) :
      Turned bridge next none
  | entered (kind : Kind) (loop : LoopId) (offload : Bool)
      (stepped : bridge.scheduler.step (.acquire kind loop) = some next.scheduler)
      (calls : next.calls = bridge.calls ++ [⟨offload, .acquiring, none⟩]) :
      Turned bridge next none
  | granted (number : ℕ) (call : Call) (ticket : Ticket)
      (found : bridge.calls[number]? = some call) (phase : call.phase = .acquiring)
      (ticketFound : bridge.scheduler.tickets[number]? = some ticket)
      (granted : ticket.granted = true) (scheduler : next.scheduler = bridge.scheduler)
      (calls : next.calls = bridge.calls.set number { call with phase := .building }) :
      Turned bridge next none
  | changed (fails : Bool) (number : ℕ) (call after : Call)
      (found : bridge.calls[number]? = some call) (change : Change call fails after)
      (scheduler : next.scheduler = bridge.scheduler)
      (calls : next.calls = bridge.calls.set number after) :
      Turned bridge next (bif fails then some number else none)
  | abandoned (number : ℕ) (call : Call) (found : bridge.calls[number]? = some call)
      (phase : call.phase = .acquiring)
      (stepped : bridge.scheduler.step (.abandon number) = some next.scheduler)
      (calls : next.calls = bridge.calls.set number { call with phase := .ended }) :
      Turned bridge next none
  | released (number : ℕ) (call after : Call) (found : bridge.calls[number]? = some call)
      (hands : Hands call after)
      (stepped : bridge.scheduler.step (.releaseNowait number) = some next.scheduler)
      (calls : next.calls = bridge.calls.set number after) : Turned bridge next none

variable {label : SchedulerLabel}

theorem schedule_eq_some :
    bridge.schedule label = some next ↔
      ∃ scheduler, bridge.scheduler.step label = some scheduler ∧
        next = { bridge with scheduler := scheduler } := by
  unfold schedule
  rw [Option.map_eq_some_iff]
  constructor
  · rintro ⟨scheduler, stepped, rfl⟩
    exact ⟨scheduler, stepped, rfl⟩
  · rintro ⟨scheduler, stepped, rfl⟩
    exact ⟨scheduler, stepped, rfl⟩

variable {number : ℕ}

theorem advance_eq_some {before after : Phase}
    (advanced : bridge.advance number before after = some next) :
    ∃ call, bridge.calls[number]? = some call ∧ call.phase = before ∧
      next = bridge.put number { call with phase := after } := by
  unfold advance at advanced
  rcases Option.bind_eq_some_iff.mp advanced with ⟨call, found, advanced⟩
  rcases Option.ite_none_right_eq_some.mp advanced with ⟨phase, advanced⟩
  exact ⟨call, found, phase, (Option.some.inj advanced).symm⟩

theorem turned_of_pass
    (pass : label = .prune ∨ label = .grant ∨ ∃ loop, label = .close loop)
    (stepped : bridge.schedule label = some next) : Turned bridge next none := by
  rcases schedule_eq_some.mp stepped with ⟨scheduler, scheduled, rfl⟩
  exact .passed label pass scheduled rfl

theorem turned_of_advance {before after : Phase} {fails : Bool}
    (change : ∀ call : Call, call.phase = before → Change call fails { call with phase := after })
    (advanced : bridge.advance number before after = some next) :
    Turned bridge next (bif fails then some number else none) := by
  rcases advance_eq_some advanced with ⟨call, found, phase, rfl⟩
  exact .changed fails number call _ found (change call phase) rfl rfl

/-- Every step moves one call, or the scheduler, in one of the ways listed. -/
theorem turned_of_step {label : BridgeLabel} (stepped : bridge.step label = some next) :
    Turned bridge next label.loses := by
  cases label with
  | dispatch kind loop offload =>
    rcases schedule_eq_some.mp stepped with ⟨scheduler, scheduled, rfl⟩
    exact .entered kind loop offload scheduled rfl
  | prune => exact turned_of_pass (.inl rfl) stepped
  | grant => exact turned_of_pass (.inr (.inl rfl)) stepped
  | close loop => exact turned_of_pass (.inr (.inr ⟨loop, rfl⟩)) stepped
  | granted number =>
    rcases Option.ite_none_right_eq_some.mp stepped with ⟨allowed, stepped⟩
    rcases (Option.any_eq_true _ _).mp allowed with ⟨ticket, ticketFound, granted⟩
    rcases advance_eq_some stepped with ⟨call, found, phase, rfl⟩
    exact .granted number call ticket found phase ticketFound granted rfl rfl
  | cancel number =>
    rcases Option.bind_eq_some_iff.mp stepped with ⟨call, found, stepped⟩
    split at stepped
    · rename_i phase
      rcases schedule_eq_some.mp stepped with ⟨scheduler, scheduled, rfl⟩
      exact .abandoned number call found phase scheduled rfl
    · rename_i phase
      cases stepped
      exact .changed false number call _ found (.gaveUp phase) rfl rfl
    · cases stepped
  | build number =>
    rcases Option.bind_eq_some_iff.mp stepped with ⟨call, found, stepped⟩
    rcases advance_eq_some stepped with ⟨other, again, phase, rfl⟩
    obtain rfl := Option.mem_unique found again
    exact .changed false number call _ found (.built phase) rfl rfl
  | buildFails number => exact turned_of_advance (fun _ phase => .lost phase) stepped
  | handlerReturns number => exact turned_of_advance (fun _ phase => .returned phase) stepped
  | release number =>
    rcases Option.bind_eq_some_iff.mp stepped with ⟨call, found, stepped⟩
    rcases Option.ite_none_right_eq_some.mp stepped with ⟨phase, stepped⟩
    rcases schedule_eq_some.mp stepped with ⟨scheduler, scheduled, rfl⟩
    exact .released number call _ found (.released phase) scheduled rfl
  | submit number =>
    rcases Option.bind_eq_some_iff.mp stepped with ⟨call, found, stepped⟩
    rcases of_guard stepped with ⟨phase, rfl⟩
    exact .changed false number call _ found (.submitted phase) rfl rfl
  | queueFull number =>
    rcases advance_eq_some stepped with ⟨call, found, phase, rfl⟩
    exact .changed false number call _ found (.refused phase) rfl rfl
  | submitFails number queued =>
    rcases Option.bind_eq_some_iff.mp stepped with ⟨call, found, stepped⟩
    rcases Option.ite_none_right_eq_some.mp stepped with ⟨phase, stepped⟩
    split at stepped
    · cases stepped
      exact .changed true number call _ found (.lostQueued phase) rfl rfl
    · cases stepped
      exact .changed true number call _ found (.lostItem phase) rfl rfl
  | addDoneCallback number =>
    rcases Option.bind_eq_some_iff.mp stepped with ⟨call, found, stepped⟩
    rcases Option.ite_none_right_eq_some.mp stepped with ⟨phase, ⟨⟩⟩
    exact .changed false number call _ found (.registered phase) rfl rfl
  | take =>
    simp only [step, take] at stepped
    split at stepped
    · cases stepped
    · cases stepped
      exact .still rfl rfl
  | start number =>
    rcases Option.ite_none_right_eq_some.mp stepped with ⟨_, stepped⟩
    rcases Option.bind_eq_some_iff.mp stepped with ⟨call, found, stepped⟩
    rcases Option.map_eq_some_iff.mp stepped with ⟨future, futureFound, rfl⟩
    split
    · rename_i pending
      exact .changed false number call _ found (.started future futureFound pending) rfl rfl
    · exact .changed false number call _ found .skipped rfl rfl
  | finish number =>
    rcases Option.bind_eq_some_iff.mp stepped with ⟨call, found, stepped⟩
    rcases Option.bind_eq_some_iff.mp stepped with ⟨future, futureFound, stepped⟩
    rcases of_guard stepped with ⟨running, rfl⟩
    exact .changed false number call _ found (.finished future futureFound running) rfl rfl
  | finished number =>
    rcases Option.bind_eq_some_iff.mp stepped with ⟨call, found, stepped⟩
    rcases Option.bind_eq_some_iff.mp stepped with ⟨future, futureFound, stepped⟩
    rcases Option.ite_none_right_eq_some.mp stepped with ⟨due, stepped⟩
    rcases schedule_eq_some.mp stepped with ⟨scheduler, scheduled, rfl⟩
    exact .released number call _ found (.finished future futureFound due) scheduled rfl
  | deliver number =>
    rcases Option.bind_eq_some_iff.mp stepped with ⟨call, found, stepped⟩
    rcases Option.ite_none_right_eq_some.mp stepped with ⟨_, stepped⟩
    exact turned_of_advance (fun _ phase => .delivered phase) stepped

end PtcBridge

/-! ### The call and its ticket -/

/-- The ticket was released, or given up without a grant. -/
def Ticket.Settled (ticket : Ticket) : Prop :=
  ticket.Held = false ∧ ¬ ticket.Waiting

/-- What the callback of a future says about the ticket. -/
def Future.Agrees (future : Future) (ticket : Ticket) : Prop :=
  match future.callback with
  | .absent => ticket.Held = true ∧ future.state ≠ .cancelled
  | .registered => ticket.Held = true ∧ (future.state = .pending ∨ future.state = .running)
  | .due => ticket.Held = true ∧ (future.state = .finished ∨ future.state = .cancelled)
  | .ran => ticket.Settled ∧ (future.state = .finished ∨ future.state = .cancelled)

/-- The ticket was handed over to the callback of the future. -/
def Call.HandedOver (call : Call) (ticket : Ticket) : Prop :=
  ∃ future, call.future = some future ∧ future.callback ≠ .absent ∧ future.Agrees ticket

/-- What the phase of a call says about its ticket. -/
def Call.Agrees (call : Call) (ticket : Ticket) : Prop :=
  match call.phase with
  | .acquiring => ticket.released = false ∧ call.future = none
  | .building | .handling | .returning | .submitting | .refused =>
    ticket.Held = true ∧ call.future = none
  | .submitted =>
    ticket.Held = true ∧ ∃ future, call.future = some future ∧ future.callback = .absent ∧
      future.state ≠ .cancelled
  | .failed =>
    ticket.Held = true ∧ ∀ future, call.future = some future →
      future.callback = .absent ∧ future.state ≠ .cancelled
  | .awaiting => call.HandedOver ticket
  | .ended => (call.future = none ∧ ticket.Settled) ∨ call.HandedOver ticket

/-- The handler of the call runs. -/
def Call.Running (call : Call) : Prop :=
  call.phase = .handling ∨ ∃ future, call.future = some future ∧ future.state = .running

theorem Future.Agrees.cancel {future : Future} {ticket : Ticket} (agrees : future.Agrees ticket)
    (present : future.callback ≠ .absent) :
    future.cancel.callback ≠ .absent ∧ future.cancel.Agrees ticket := by
  unfold Future.cancel
  split
  · rename_i pending
    unfold Future.settle
    unfold Future.Agrees at agrees
    cases callback : future.callback with
    | absent => exact absurd callback present
    | registered =>
      simp only [callback] at agrees
      exact ⟨by simp, by simp [Future.Agrees, agrees.1]⟩
    | due => simp [callback, pending] at agrees
    | ran => simp [callback, pending] at agrees
  · exact ⟨present, agrees⟩

variable {call : Call}

theorem Call.Agrees.future {future after : Future} {ticket : Ticket}
    (agrees : call.Agrees ticket) (found : call.future = some future)
    (unregistered : future.callback = .absent → after.callback = .absent ∧ after.state ≠ .cancelled)
    (registered : future.callback ≠ .absent → future.Agrees ticket →
      after.callback ≠ .absent ∧ after.Agrees ticket) :
    ({ call with future := some after } : Call).Agrees ticket := by
  have handed : call.HandedOver ticket →
      ({ call with future := some after } : Call).HandedOver ticket := by
    rintro ⟨other, again, present, agreed⟩
    obtain rfl := Option.mem_unique found again
    exact ⟨after, rfl, registered present agreed⟩
  unfold Call.Agrees at agrees ⊢
  cases phase : call.phase with
  | submitted =>
    simp only [phase] at agrees ⊢
    rcases agrees with ⟨held, other, again, absent, _⟩
    obtain rfl := Option.mem_unique found again
    exact ⟨held, after, rfl, unregistered absent⟩
  | failed =>
    simp only [phase] at agrees ⊢
    refine ⟨agrees.1, ?_⟩
    rintro _ ⟨⟩
    exact unregistered (agrees.2 future found).1
  | awaiting =>
    simp only [phase] at agrees ⊢
    exact handed agrees
  | ended =>
    simp only [phase] at agrees ⊢
    rcases agrees with ⟨none, _⟩ | agreed
    · rw [found] at none
      cases none
    · exact .inr (handed agreed)
  | _ =>
    simp only [phase] at agrees
    rw [found] at agrees
    cases agrees.2

theorem Change.agrees {after : Call} {fails : Bool} {ticket : Ticket}
    (change : Change call fails after) (agrees : call.Agrees ticket) : after.Agrees ticket := by
  cases change with
  | built phase =>
    simp only [Call.Agrees, phase] at agrees
    unfold Call.Agrees
    cases call.offload with
    | true => exact agrees
    | false => exact agrees
  | returned phase =>
    simp only [Call.Agrees, phase] at agrees
    exact agrees
  | refused phase =>
    simp only [Call.Agrees, phase] at agrees
    exact agrees
  | submitted phase =>
    simp only [Call.Agrees, phase] at agrees
    exact ⟨agrees.1, _, rfl, rfl, by simp⟩
  | registered phase =>
    simp only [Call.Agrees, phase] at agrees
    rcases agrees with ⟨held, future, found, _, live⟩
    refine ⟨future.addDoneCallback, by simp [found], ?_⟩
    unfold Future.addDoneCallback Future.Agrees
    cases state : future.state with
    | cancelled => exact absurd state live
    | _ => simp [held]
  | gaveUp phase =>
    simp only [Call.Agrees, phase] at agrees
    rcases agrees with ⟨future, found, present, agreed⟩
    right
    exact ⟨future.cancel, by simp [found], agreed.cancel present⟩
  | delivered phase =>
    simp only [Call.Agrees, phase] at agrees
    exact .inr agrees
  | started future found pending =>
    apply agrees.future found
    · intro absent
      exact ⟨absent, by simp⟩
    · intro present agreed
      refine ⟨present, ?_⟩
      unfold Future.Agrees at agreed ⊢
      cases callback : future.callback with
      | absent => exact absurd callback present
      | registered =>
        simp only [callback] at agreed ⊢
        exact ⟨agreed.1, by simp⟩
      | due => simp [callback, pending] at agreed
      | ran => simp [callback, pending] at agreed
  | skipped => exact agrees
  | finished future found running =>
    apply agrees.future found
    · intro absent
      simp [Future.settle, absent]
    · intro present agreed
      unfold Future.settle
      unfold Future.Agrees at agreed
      cases callback : future.callback with
      | absent => exact absurd callback present
      | registered =>
        simp only [callback] at agreed
        exact ⟨by simp, by simp [Future.Agrees, agreed.1]⟩
      | due => simp [callback, running] at agreed
      | ran => simp [callback, running] at agreed
  | lost phase =>
    simp only [Call.Agrees, phase] at agrees
    refine ⟨agrees.1, ?_⟩
    intro future found
    rw [agrees.2] at found
    cases found
  | lostItem phase =>
    simp only [Call.Agrees, phase] at agrees
    refine ⟨agrees.1, ?_⟩
    intro future found
    rw [agrees.2] at found
    cases found
  | lostQueued phase =>
    simp only [Call.Agrees, phase] at agrees
    refine ⟨agrees.1, ?_⟩
    rintro _ ⟨⟩
    exact ⟨rfl, by simp⟩

variable {after : Ticket}

/-- What is said about a ticket stays true while the ticket is held, or settled. -/
theorem Future.Agrees.kept {future : Future} {ticket : Ticket}
    (agrees : future.Agrees ticket) (held : ticket.Held = true → after.Held = true)
    (settled : ticket.Settled → after.Settled) : future.Agrees after := by
  unfold Future.Agrees at agrees ⊢
  cases callback : future.callback with
  | ran =>
    simp only [callback] at agrees ⊢
    exact ⟨settled agrees.1, agrees.2⟩
  | _ =>
    simp only [callback] at agrees ⊢
    exact ⟨held agrees.1, agrees.2⟩

theorem Call.Agrees.kept {ticket : Ticket} (agrees : call.Agrees ticket)
    (unreleased : ticket.released = false → after.released = false)
    (held : ticket.Held = true → after.Held = true)
    (settled : ticket.Settled → after.Settled) : call.Agrees after := by
  have handed : call.HandedOver ticket → call.HandedOver after := by
    rintro ⟨future, found, present, agreed⟩
    exact ⟨future, found, present, agreed.kept held settled⟩
  unfold Call.Agrees at agrees ⊢
  cases phase : call.phase with
  | acquiring =>
    simp only [phase] at agrees ⊢
    exact ⟨unreleased agrees.1, agrees.2⟩
  | awaiting =>
    simp only [phase] at agrees ⊢
    exact handed agrees
  | ended =>
    simp only [phase] at agrees ⊢
    exact agrees.imp (fun both => ⟨both.1, settled both.2⟩) handed
  | _ =>
    simp only [phase] at agrees ⊢
    exact ⟨held agrees.1, agrees.2⟩

theorem Call.Agrees.passed {ticket : Ticket} (agrees : call.Agrees ticket)
    (passed : FairReadWriteScheduler.Passed ticket after) : call.Agrees after := by
  cases passed with
  | same => exact agrees
  | dropped ungranted =>
    apply agrees.kept
    · exact id
    · exact id
    · intro settled
      exact ⟨settled.1, fun waits => by cases waits.2⟩
  | granted waits unreleased =>
    apply agrees.kept
    · exact id
    · intro held
      simp [Ticket.Held, waits.1] at held
    · intro settled
      exact absurd waits settled.2

/-- The callback of a call, or the call itself, releases a held ticket. -/
theorem Hands.agrees {after : Call} {ticket : Ticket} (hands : Hands call after)
    (agrees : call.Agrees ticket) :
    ticket.Held = true ∧ after.Agrees { ticket with released := true } := by
  have settled : ticket.Held = true → ({ ticket with released := true } : Ticket).Settled := by
    intro held
    simp only [Ticket.Held, Bool.and_eq_true] at held
    refine ⟨by simp [Ticket.Held], ?_⟩
    intro waits
    have ungranted : ticket.granted = false := waits.1
    rw [held.1] at ungranted
    cases ungranted
  cases hands with
  | released phase =>
    have both : ticket.Held = true ∧ call.future = none := by
      rcases phase with phase | phase
      · simpa only [Call.Agrees, phase] using agrees
      · simpa only [Call.Agrees, phase] using agrees
    exact ⟨both.1, .inl ⟨both.2, settled both.1⟩⟩
  | finished future found due =>
    have handed : call.HandedOver ticket →
        ticket.Held = true ∧ ({ call with future := some { future with callback := .ran } } :
          Call).HandedOver { ticket with released := true } := by
      rintro ⟨other, again, present, agreed⟩
      obtain rfl := Option.mem_unique found again
      simp only [Future.Agrees, due] at agreed
      exact ⟨agreed.1, _, rfl, by simp, settled agreed.1, agreed.2⟩
    unfold Call.Agrees at agrees ⊢
    cases phase : call.phase with
    | awaiting =>
      simp only [phase] at agrees ⊢
      exact handed agrees
    | ended =>
      simp only [phase] at agrees ⊢
      rcases agrees with ⟨none, _⟩ | agreed
      · rw [found] at none
        cases none
      · exact ⟨(handed agreed).1, .inr (handed agreed).2⟩
    | submitted =>
      simp only [phase] at agrees
      rcases agrees with ⟨_, other, again, absent, _⟩
      obtain rfl := Option.mem_unique found again
      rw [due] at absent
      cases absent
    | failed =>
      simp only [phase] at agrees
      have absent := (agrees.2 future found).1
      rw [due] at absent
      cases absent
    | _ =>
      simp only [phase] at agrees
      rw [found] at agrees
      cases agrees.2

theorem Call.Agrees.held {ticket : Ticket} (agrees : call.Agrees ticket)
    (running : call.Running) : ticket.Held = true := by
  rcases running with phase | ⟨future, found, running⟩
  · simp only [Call.Agrees, phase] at agrees
    exact agrees.1
  · have handed : call.HandedOver ticket → ticket.Held = true := by
      rintro ⟨other, again, present, agreed⟩
      obtain rfl := Option.mem_unique found again
      unfold Future.Agrees at agreed
      cases callback : future.callback with
      | ran => simp [callback, running] at agreed
      | _ =>
        simp only [callback] at agreed
        exact agreed.1
    unfold Call.Agrees at agrees
    cases phase : call.phase with
    | acquiring =>
      simp only [phase] at agrees
      rw [found] at agrees
      cases agrees.2
    | awaiting =>
      simp only [phase] at agrees
      exact handed agrees
    | ended =>
      simp only [phase] at agrees
      rcases agrees with ⟨none, _⟩ | agreed
      · rw [found] at none
        cases none
      · exact handed agreed
    | _ =>
      simp only [phase] at agrees
      exact agrees.1

/-! ### Runs -/

namespace PtcBridge

variable {bridge next : PtcBridge}

structure Sound (bridge : PtcBridge) : Prop where
  scheduler : bridge.scheduler.Sound
  length : bridge.calls.length = bridge.scheduler.tickets.length
  agrees : ∀ (number : ℕ) (call : Call) (ticket : Ticket), bridge.calls[number]? = some call →
    bridge.scheduler.tickets[number]? = some ticket → call.Agrees ticket

theorem sound_init (maxParallel : ℤ) : (init maxParallel).Sound where
  scheduler := FairReadWriteScheduler.sound_init maxParallel
  length := rfl
  agrees := by
    intro number call ticket found
    cases found

variable {number : ℕ} {call : Call}

theorem Sound.ticket (sound : bridge.Sound) (found : bridge.calls[number]? = some call) :
    ∃ ticket, bridge.scheduler.tickets[number]? = some ticket ∧ call.Agrees ticket := by
  have inside := (List.getElem?_eq_some_iff.mp found).1
  rw [sound.length] at inside
  have ticketFound := getElem?_eq_getElem inside
  exact ⟨_, ticketFound, sound.agrees number call _ found ticketFound⟩

variable {after : Call}

theorem Sound.turned (sound : bridge.Sound)
    {ticket afterTicket : Ticket} (found : bridge.calls[number]? = some call)
    (ticketFound : bridge.scheduler.tickets[number]? = some ticket)
    (scheduler : next.scheduler.Sound) (calls : next.calls = bridge.calls.set number after)
    (tickets : next.scheduler.tickets = bridge.scheduler.tickets.set number afterTicket)
    (agrees : after.Agrees afterTicket) : next.Sound where
  scheduler := scheduler
  length := by rw [calls, tickets, length_set, length_set, sound.length]
  agrees := by
    intro other otherCall otherTicket callFound otherFound
    rw [calls, Locks.getElem?_set_of_found found] at callFound
    rw [tickets, Locks.getElem?_set_of_found ticketFound] at otherFound
    split at callFound
    · rename_i same
      rw [if_pos same] at otherFound
      cases callFound
      cases otherFound
      exact agrees
    · rename_i different
      rw [if_neg different] at otherFound
      exact sound.agrees other otherCall otherTicket callFound otherFound

theorem Sound.changed (sound : bridge.Sound) {number : ℕ} {call after : Call}
    (found : bridge.calls[number]? = some call) (scheduler : next.scheduler = bridge.scheduler)
    (calls : next.calls = bridge.calls.set number after)
    (agrees : ∀ ticket, bridge.scheduler.tickets[number]? = some ticket → call.Agrees ticket →
      after.Agrees ticket) : next.Sound := by
  rcases sound.ticket found with ⟨ticket, ticketFound, agreed⟩
  apply sound.turned found ticketFound _ calls _ (agrees ticket ticketFound agreed)
  · rw [scheduler]
    exact sound.scheduler
  · have inside := (List.getElem?_eq_some_iff.mp ticketFound)
    rcases inside with ⟨inside, rfl⟩
    rw [scheduler, set_getElem_self]

theorem Sound.entered (sound : bridge.Sound) {kind : Kind} {loop : LoopId} {offload : Bool}
    (stepped : bridge.scheduler.step (.acquire kind loop) = some next.scheduler)
    (calls : next.calls = bridge.calls ++ [⟨offload, .acquiring, none⟩]) : next.Sound := by
  have tickets : next.scheduler.tickets =
      bridge.scheduler.tickets ++ [⟨kind, some loop, false, false, false⟩] := by
    rcases Option.ite_none_right_eq_some.mp stepped with ⟨_, stepped⟩
    rw [← Option.some.inj stepped]
    rfl
  constructor
  · exact sound.scheduler.step stepped
  · rw [calls, tickets, length_append, length_append, sound.length]
    rfl
  · intro number call ticket found ticketFound
    rw [calls, getElem?_append] at found
    rw [tickets, getElem?_append, ← sound.length] at ticketFound
    split at found
    · rename_i inside
      rw [if_pos inside] at ticketFound
      exact sound.agrees number call ticket found ticketFound
    · rename_i outside
      rw [if_neg outside] at ticketFound
      rcases List.getElem?_eq_some_iff.mp found with ⟨last, _⟩
      simp only [length_singleton, Nat.lt_one_iff] at last
      rw [last] at found ticketFound
      cases found
      cases ticketFound
      exact ⟨rfl, rfl⟩

theorem Sound.passed (sound : bridge.Sound) {label : SchedulerLabel}
    (pass : label = .prune ∨ label = .grant ∨ ∃ loop, label = .close loop)
    (stepped : bridge.scheduler.step label = some next.scheduler)
    (calls : next.calls = bridge.calls) : next.Sound := by
  constructor
  · exact sound.scheduler.step stepped
  · rw [calls, FairReadWriteScheduler.pass_length pass stepped, sound.length]
  · intro number call ticket found ticketFound
    rw [calls] at found
    rcases sound.ticket found with ⟨before, beforeFound, agreed⟩
    rcases FairReadWriteScheduler.passed_of_pass sound.scheduler.queued pass stepped beforeFound
      with ⟨after, afterFound, passed⟩
    obtain rfl := Option.mem_unique ticketFound afterFound
    exact agreed.passed passed

theorem Sound.abandoned (sound : bridge.Sound)
    (found : bridge.calls[number]? = some call) (phase : call.phase = .acquiring)
    (stepped : bridge.scheduler.step (.abandon number) = some next.scheduler)
    (calls : next.calls = bridge.calls.set number { call with phase := .ended }) : next.Sound := by
  rcases sound.ticket found with ⟨ticket, ticketFound, agreed⟩
  simp only [Call.Agrees, phase] at agreed
  have scheduler := sound.scheduler.step stepped
  simp only [FairReadWriteScheduler.step, ticketFound, Option.map_some] at stepped
  rcases Option.ite_none_right_eq_some.mp stepped with ⟨_, stepped⟩
  apply sound.turned found ticketFound scheduler calls
  · rw [← Option.some.inj stepped]
    exact FairReadWriteScheduler.abandon_tickets agreed.1
  · refine .inl ⟨agreed.2, ?_, ?_⟩
    · unfold FairReadWriteScheduler.abandoned
      split
      · simp [Ticket.Held]
      · rename_i ungranted
        simp [Ticket.Held, ungranted]
    · unfold FairReadWriteScheduler.abandoned
      intro waits
      split at waits
      · rename_i granted
        have ungranted := waits.1
        simp [granted] at ungranted
      · cases waits.2

theorem Sound.released (sound : bridge.Sound)
    (found : bridge.calls[number]? = some call) (hands : Hands call after)
    (stepped : bridge.scheduler.step (.releaseNowait number) = some next.scheduler)
    (calls : next.calls = bridge.calls.set number after) : next.Sound := by
  rcases sound.ticket found with ⟨ticket, ticketFound, agreed⟩
  rcases hands.agrees agreed with ⟨held, agrees⟩
  have scheduler := sound.scheduler.step stepped
  have fine := sound.scheduler.queued.sound ticket (mem_of_getElem? ticketFound)
  simp only [FairReadWriteScheduler.step, ticketFound, Option.map_some] at stepped
  rcases Option.ite_none_right_eq_some.mp stepped with ⟨_, stepped⟩
  apply sound.turned found ticketFound scheduler calls _ agrees
  rw [← Option.some.inj stepped]
  exact FairReadWriteScheduler.releaseNowait_tickets fine held

variable {label : BridgeLabel}

theorem Sound.step (sound : bridge.Sound)
    (stepped : bridge.step label = some next) : next.Sound := by
  have turned := turned_of_step stepped
  generalize label.loses = lost at turned
  cases turned with
  | passed label pass stepped calls => exact sound.passed pass stepped calls
  | still scheduler calls =>
    constructor
    · rw [scheduler]
      exact sound.scheduler
    · rw [scheduler, calls]
      exact sound.length
    · rw [scheduler, calls]
      exact sound.agrees
  | entered kind loop offload stepped calls => exact sound.entered stepped calls
  | granted number call ticket found phase ticketFound granted scheduler calls =>
    apply sound.changed found scheduler calls
    intro other otherFound agreed
    obtain rfl := Option.mem_unique ticketFound otherFound
    simp only [Call.Agrees, phase] at agreed
    exact ⟨by simp [Ticket.Held, granted, agreed.1], agreed.2⟩
  | changed fails number call after found change scheduler calls =>
    exact sound.changed found scheduler calls fun _ _ agreed => change.agrees agreed
  | abandoned number call found phase stepped calls =>
    exact sound.abandoned found phase stepped calls
  | released number call after found hands stepped calls =>
    exact sound.released found hands stepped calls

variable {labels : List BridgeLabel}

theorem sound_of_run {maxParallel : ℤ}
    (ran : machine.run (init maxParallel) labels = some bridge) : bridge.Sound :=
  Machine.run_invariant (fun sound stepped => sound.step stepped) (sound_init maxParallel) ran

/-- An exception has kept the call from handing its ticket over. -/
def Failed (bridge : PtcBridge) (number : ℕ) : Prop :=
  ∃ call, bridge.calls[number]? = some call ∧ call.phase = .failed

theorem failed_of_set {other : ℕ} (fails : Bool)
    (found : bridge.calls[number]? = some call)
    (phase : after.phase = .failed ↔ call.phase = .failed ∨ fails = true)
    (calls : next.calls = bridge.calls.set number after) :
    next.Failed other ↔
      bridge.Failed other ∨ (bif fails then some number else none) = some other := by
  unfold Failed
  rw [calls, Locks.getElem?_set_of_found found]
  by_cases same : other = number
  · subst same
    simp only [if_true, Option.some.injEq, exists_eq_left', found, phase]
    cases fails <;> simp
  · rw [if_neg same]
    cases fails with
    | true => simp [Ne.symm same]
    | false => simp

variable {lost : Option ℕ}

theorem Turned.failed_iff (turned : Turned bridge next lost) (other : ℕ) :
    next.Failed other ↔ bridge.Failed other ∨ lost = some other := by
  cases turned with
  | passed label pass stepped calls => simp [Failed, calls]
  | still scheduler calls => simp [Failed, calls]
  | entered kind loop offload stepped calls =>
    simp only [Failed, calls, getElem?_append, reduceCtorEq, or_false]
    constructor
    · rintro ⟨call, found, failed⟩
      split at found
      · exact ⟨call, found, failed⟩
      · have fresh := mem_singleton.mp (mem_of_getElem? found)
        rw [fresh] at failed
        cases failed
    · rintro ⟨call, found, failed⟩
      refine ⟨call, ?_, failed⟩
      rw [if_pos (List.getElem?_eq_some_iff.mp found).1, found]
  | granted number call ticket found phase ticketFound granted scheduler calls =>
    exact failed_of_set false found (by simp [phase]) calls
  | changed fails number call after found change scheduler calls =>
    apply failed_of_set fails found _ calls
    cases change with
    | built phase => cases call.offload <;> simp [phase]
    | _ => simp_all
  | abandoned number call found phase stepped calls =>
    exact failed_of_set false found (by simp [phase]) calls
  | released number call after found hands stepped calls =>
    apply failed_of_set false found _ calls
    cases hands with
    | released phase => rcases phase with phase | phase <;> simp [phase]
    | finished future futureFound due => simp

theorem failed_of_run {final : PtcBridge}
    (ran : machine.run bridge labels = some final) (number : ℕ) :
    final.Failed number ↔
      bridge.Failed number ∨ ∃ label ∈ labels, label.loses = some number := by
  induction labels generalizing bridge with
  | nil =>
    obtain rfl : bridge = final := by simpa using ran
    simp
  | cons label labels ih =>
    rcases Machine.run_cons.mp ran with ⟨next, stepped, rest⟩
    rw [ih rest, (turned_of_step stepped).failed_iff number]
    simp [or_assoc]

/-- The call has ended, and nothing of it is left in the pool. -/
def Rests (bridge : PtcBridge) (number : ℕ) : Prop :=
  ∃ call, bridge.calls[number]? = some call ∧
    (call.phase = .ended ∨ call.phase = .failed) ∧
    ∀ future, call.future = some future →
      (future.state = .finished ∨ future.state = .cancelled) ∧ future.callback ≠ .due

def Holds (bridge : PtcBridge) (number : ℕ) : Prop :=
  ∃ ticket, bridge.scheduler.tickets[number]? = some ticket ∧ ticket.Held = true

/-- A call that has come to rest still holds its ticket exactly when it has lost it. -/
theorem Sound.holds_iff_failed (sound : bridge.Sound) (rests : bridge.Rests number) :
    bridge.Holds number ↔ bridge.Failed number := by
  rcases rests with ⟨call, found, phase, quiet⟩
  rcases sound.ticket found with ⟨ticket, ticketFound, agrees⟩
  constructor
  · rintro ⟨other, again, held⟩
    obtain rfl := Option.mem_unique ticketFound again
    refine ⟨call, found, ?_⟩
    rcases phase with ended | failed
    · simp only [Call.Agrees, ended] at agrees
      rcases agrees with ⟨_, settled⟩ | ⟨future, futureFound, present, agreed⟩
      · rw [settled.1] at held
        cases held
      · rcases quiet future futureFound with ⟨done, notDue⟩
        unfold Future.Agrees at agreed
        cases callback : future.callback with
        | absent => exact absurd callback present
        | due => exact absurd callback notDue
        | registered =>
          simp only [callback] at agreed
          rcases done with state | state <;> simp [state] at agreed
        | ran =>
          simp only [callback] at agreed
          rw [agreed.1.1] at held
          cases held
    · exact failed
  · rintro ⟨other, again, failed⟩
    obtain rfl := Option.mem_unique found again
    simp only [Call.Agrees, failed] at agrees
    exact ⟨ticket, ticketFound, agrees.1⟩

/-- The handler of the call runs. -/
def Runs (bridge : PtcBridge) (number : ℕ) : Prop :=
  ∃ call, bridge.calls[number]? = some call ∧ call.Running

def Writes (bridge : PtcBridge) (number : ℕ) : Prop :=
  ∃ ticket, bridge.scheduler.tickets[number]? = some ticket ∧ ticket.kind = .write

theorem Sound.holds_of_runs (sound : bridge.Sound) (runs : bridge.Runs number) :
    bridge.Holds number := by
  rcases runs with ⟨call, found, running⟩
  rcases sound.ticket found with ⟨ticket, ticketFound, agrees⟩
  exact ⟨ticket, ticketFound, agrees.held running⟩

theorem Sound.exclusive (sound : bridge.Sound) {first second : ℕ} (different : first ≠ second)
    (runs : bridge.Runs first) (writes : bridge.Writes first) : ¬ bridge.Runs second := by
  intro other
  rcases sound.holds_of_runs runs with ⟨writer, firstFound, firstHeld⟩
  rcases sound.holds_of_runs other with ⟨ticket, secondFound, secondHeld⟩
  rcases writes with ⟨again, againFound, kind⟩
  obtain rfl := Option.mem_unique firstFound againFound
  have free := sound.scheduler.fair.alone different firstFound secondFound
    (by simp [Ticket.holds, kind, firstHeld])
  rw [free] at secondHeld
  cases secondHeld

theorem Turned.scheduler_step (turned : Turned bridge next lost) :
    next.scheduler = bridge.scheduler ∨
      ∃ label, bridge.scheduler.step label = some next.scheduler := by
  cases turned with
  | passed label _ stepped _ => exact .inr ⟨label, stepped⟩
  | still scheduler _ => exact .inl scheduler
  | entered kind loop _ stepped _ => exact .inr ⟨.acquire kind loop, stepped⟩
  | granted _ _ _ _ _ _ _ scheduler _ => exact .inl scheduler
  | changed _ _ _ _ _ _ scheduler _ => exact .inl scheduler
  | abandoned number _ _ _ stepped _ => exact .inr ⟨.abandon number, stepped⟩
  | released number _ _ _ _ stepped _ => exact .inr ⟨.releaseNowait number, stepped⟩

theorem Sound.released_stays (sound : bridge.Sound)
    (stepped : bridge.step label = some next)
    (released : bridge.scheduler.Released number) : next.scheduler.Released number := by
  rcases (turned_of_step stepped).scheduler_step with same | ⟨inner, moved⟩
  · rw [same]
    exact released
  · have moved := FairReadWriteScheduler.moved_of_step sound.scheduler.queued moved
    exact moved.released_stays released

/-- In every run the scheduler is fair and a write excludes every other handler, a released
ticket stays released and the handler of its call does not run again, and a call that has come to
rest has given its ticket back unless its hand-over failed. -/
theorem exclusion_of_run {maxParallel : ℤ} {front back : List BridgeLabel} {final : PtcBridge}
    (ran : machine.run (init maxParallel) front = some bridge)
    (later : machine.run bridge back = some final) :
    bridge.scheduler.Fair ∧
      (∀ first second, first ≠ second → bridge.Runs first → bridge.Writes first →
        ¬ bridge.Runs second) ∧
      (∀ number, bridge.scheduler.Released number →
        final.scheduler.Released number ∧ ¬ final.Runs number) ∧
      ∀ number, bridge.Rests number →
        (¬ bridge.Holds number ↔ ∀ label ∈ front, label.loses ≠ some number) := by
  have sound := sound_of_run ran
  refine ⟨sound.scheduler.fair, ?_, ?_, ?_⟩
  · intro first second different runs writes
    exact sound.exclusive different runs writes
  · intro number released
    have both := @Machine.run_invariant _ _ machine
      (fun state => state.Sound ∧ state.scheduler.Released number)
      (fun holds stepped => ⟨holds.1.step stepped, holds.1.released_stays stepped holds.2⟩)
      _ _ back ⟨sound, released⟩ later
    refine ⟨both.2, ?_⟩
    intro runs
    rcases both.1.holds_of_runs runs with ⟨ticket, found, held⟩
    rcases both.2 with ⟨other, again, released⟩
    obtain rfl := Option.some.inj (found.symm.trans again)
    simp [Ticket.Held, released] at held
  · intro number rests
    rw [sound.holds_iff_failed rests, failed_of_run ran number]
    have fresh : ¬ (init maxParallel).Failed number := by
      rintro ⟨call, found, _⟩
      cases found
    simp [fresh]

/-- An offloaded write is granted and built. -/
def offloadedLabels : List BridgeLabel :=
  [.dispatch .write 0 true, .prune, .prune, .grant, .grant, .granted 0, .build 0]

/-- The handler runs to its end, and the callback releases the ticket. -/
theorem exclusion_of_run_offloaded : ∃ bridge,
    machine.run (init 8) (offloadedLabels ++ [.submit 0, .addDoneCallback 0, .take, .start 0,
      .finish 0, .finished 0, .prune, .grant, .deliver 0]) = some bridge ∧ ¬ bridge.Holds 0 := by
  have reached : ∃ bridge,
      machine.run (init 8) (offloadedLabels ++ [.submit 0, .addDoneCallback 0, .take, .start 0,
        .finish 0, .finished 0, .prune, .grant, .deliver 0]) = some bridge ∧
      bridge.calls[0]? = some ⟨true, .ended, some ⟨.finished, .ran⟩⟩ := by
    decide
  rcases reached with ⟨bridge, ran, found⟩
  have rests : bridge.Rests 0 := by
    refine ⟨_, found, .inl rfl, ?_⟩
    rintro _ ⟨⟩
    exact ⟨.inl rfl, by simp⟩
  refine ⟨bridge, ran, ?_⟩
  exact ((exclusion_of_run ran (Machine.run_nil bridge)).2.2.2 0 rests).mpr (by decide)

/-- No thread can be started after the item was queued, and a worker that is there already runs
the handler: the call has failed, the handler has returned, and the ticket is held for ever. -/
theorem ticket_lost : ∃ bridge,
    machine.run (init 8) (offloadedLabels ++ [.submitFails 0 true, .take, .start 0, .finish 0]) =
      some bridge ∧ bridge.Rests 0 ∧ bridge.Holds 0 := by
  have reached : ∃ bridge,
      machine.run (init 8) (offloadedLabels ++ [.submitFails 0 true, .take, .start 0, .finish 0]) =
        some bridge ∧
      bridge.calls[0]? = some ⟨true, .failed, some ⟨.finished, .absent⟩⟩ ∧
      bridge.scheduler.tickets[0]? = some ⟨.write, none, true, false, false⟩ := by
    decide
  rcases reached with ⟨bridge, ran, found, ticketFound⟩
  refine ⟨bridge, ran, ⟨_, found, .inr rfl, ?_⟩, _, ticketFound, rfl⟩
  rintro _ ⟨⟩
  exact ⟨.inl rfl, by simp⟩

end PtcBridge

end Synapse.Ptc
