import Synapse.Foundation.Machine

/-!
# The fair read/write scheduler

Model of `FairReadWriteScheduler`. Its queue and counters are guarded by a lock, so one
critical section runs at a time, but event loops close in other threads while a section is
under way: the section is therefore taken ticket by ticket, first the pruning pass and then
the grants, and a loop may close before each of them.
-/

namespace Synapse.Ptc

abbrev LoopId := ℕ

inductive Kind where
  | read
  | write
  deriving DecidableEq, Repr

/-- `_Ticket`. Its number is its place in the list of all tickets. The future `wakeup` is made
and dropped together with the loop. -/
structure Ticket where
  kind : Kind
  loop : Option LoopId
  granted : Bool
  released : Bool
  cancelled : Bool
  deriving DecidableEq, Repr

/-- The critical section in progress. -/
inductive Critical where
  /-- Nobody holds the lock. -/
  | free
  /-- `_prune_locked` has kept `alive` and still has `rest` to look at. -/
  | pruning (alive rest : List ℕ)
  /-- The loop of `_grant_locked`. -/
  | granting
  deriving DecidableEq, Repr

structure FairReadWriteScheduler where
  maxParallel : ℕ
  queue : List ℕ
  activeReads : ℕ
  writerActive : Bool
  tickets : List Ticket
  closed : LoopId → Bool
  critical : Critical

inductive SchedulerLabel where
  | acquire (kind : Kind) (loop : LoopId)
  | releaseNowait (seq : ℕ)
  /-- The wait of `acquire` ends with a `BaseException`. -/
  | abandon (seq : ℕ)
  | close (loop : LoopId)
  | prune
  | grant
  deriving DecidableEq, Repr

namespace FairReadWriteScheduler

def init (maxParallel : ℤ) : FairReadWriteScheduler where
  maxParallel := (max 1 maxParallel).toNat
  queue := []
  activeReads := 0
  writerActive := false
  tickets := []
  closed := fun _ => false
  critical := .free

/-- The start of `_grant_locked`. -/
def grantLocked (scheduler : FairReadWriteScheduler) : FairReadWriteScheduler :=
  { scheduler with critical := .pruning [] scheduler.queue }

def put (scheduler : FairReadWriteScheduler) (seq : ℕ) (ticket : Ticket) : FairReadWriteScheduler :=
  { scheduler with tickets := scheduler.tickets.set seq ticket }

def finishLocked (scheduler : FairReadWriteScheduler) (ticket : Ticket) : FairReadWriteScheduler :=
  match ticket.kind with
  | .write => { scheduler with writerActive := false }
  | .read => { scheduler with activeReads := scheduler.activeReads - 1 }

/-- The critical section of `acquire`, on a loop that runs. -/
def acquire (scheduler : FairReadWriteScheduler) (kind : Kind) (loop : LoopId) :
    FairReadWriteScheduler :=
  grantLocked
    { scheduler with
      tickets := scheduler.tickets ++ [⟨kind, some loop, false, false, false⟩]
      queue := scheduler.queue ++ [scheduler.tickets.length] }

def releaseNowait (scheduler : FairReadWriteScheduler) (seq : ℕ) (ticket : Ticket) :
    FairReadWriteScheduler :=
  if !ticket.granted || ticket.released || ticket.cancelled then scheduler
  else ((scheduler.put seq { ticket with released := true }).finishLocked ticket).grantLocked

def abandon (scheduler : FairReadWriteScheduler) (seq : ℕ) (ticket : Ticket) :
    FairReadWriteScheduler :=
  if ticket.granted then
    if ticket.released then scheduler
    else ((scheduler.put seq { ticket with released := true }).finishLocked ticket).grantLocked
  else
    grantLocked
      { scheduler.put seq { ticket with cancelled := true } with
        queue := scheduler.queue.erase seq }

def canStartLocked (scheduler : FairReadWriteScheduler) (ticket : Ticket) : Bool :=
  if scheduler.writerActive then false
  else
    match ticket.kind with
    | .write => scheduler.activeReads == 0
    | .read => decide (scheduler.activeReads < scheduler.maxParallel)

/-- `_wake`, which fails when the loop is gone. -/
def wake (scheduler : FairReadWriteScheduler) (ticket : Ticket) : Bool :=
  match ticket.loop with
  | none => false
  | some loop => !scheduler.closed loop

/-- The counter that a granted ticket is added to. -/
def admitTicket (scheduler : FairReadWriteScheduler) (ticket : Ticket) : FairReadWriteScheduler :=
  match ticket.kind with
  | .write => { scheduler with writerActive := true }
  | .read => { scheduler with activeReads := scheduler.activeReads + 1 }

/-- One round of the loop in `_prune_locked`, or its end. -/
def pruneLocked (scheduler : FairReadWriteScheduler) : Option FairReadWriteScheduler :=
  match scheduler.critical with
  | .pruning alive (seq :: rest) =>
    scheduler.tickets[seq]?.map fun ticket =>
      if ticket.loop.any scheduler.closed then
        { scheduler.put seq { ticket with cancelled := true } with
          critical := .pruning alive rest }
      else { scheduler with critical := .pruning (alive ++ [seq]) rest }
  | .pruning alive [] => some { scheduler with queue := alive, critical := .granting }
  | _ => none

/-- One round of the loop in `_grant_locked`, or its end. -/
def grantNext (scheduler : FairReadWriteScheduler) : Option FairReadWriteScheduler :=
  match scheduler.critical, scheduler.queue with
  | .granting, [] => some { scheduler with critical := .free }
  | .granting, seq :: rest =>
    scheduler.tickets[seq]?.map fun ticket =>
      if !scheduler.canStartLocked ticket then { scheduler with critical := .free }
      else if scheduler.wake ticket then
        { (scheduler.put seq { ticket with granted := true, loop := none }).admitTicket ticket with
          queue := rest }
      else { scheduler.put seq { ticket with cancelled := true } with queue := rest }
  | _, _ => none

def step (scheduler : FairReadWriteScheduler) : SchedulerLabel → Option FairReadWriteScheduler
  | .acquire kind loop =>
    if scheduler.critical = .free ∧ scheduler.closed loop = false then
      some (scheduler.acquire kind loop)
    else none
  | .releaseNowait seq =>
    if scheduler.critical = .free then
      scheduler.tickets[seq]?.map (scheduler.releaseNowait seq)
    else none
  | .abandon seq =>
    if scheduler.critical = .free then scheduler.tickets[seq]?.map (scheduler.abandon seq)
    else none
  | .close loop => some { scheduler with closed := Function.update scheduler.closed loop true }
  | .prune => scheduler.pruneLocked
  | .grant => scheduler.grantNext

def machine : Machine FairReadWriteScheduler SchedulerLabel where
  step := step

end FairReadWriteScheduler

/-! ### What the tickets say -/

/-- The ticket is in the critical section that the scheduler guards. -/
def Ticket.Held (ticket : Ticket) : Bool :=
  ticket.granted && !ticket.released

def Ticket.holds (ticket : Ticket) (kind : Kind) : Bool :=
  decide (ticket.kind = kind) && ticket.Held

/-- The ticket is neither granted nor dropped. -/
def Ticket.Waiting (ticket : Ticket) : Prop :=
  ticket.granted = false ∧ ticket.cancelled = false

def Ticket.Sound (ticket : Ticket) : Prop :=
  (ticket.released = true → ticket.granted = true) ∧
    (ticket.granted = true → ticket.cancelled = false)

end Synapse.Ptc
