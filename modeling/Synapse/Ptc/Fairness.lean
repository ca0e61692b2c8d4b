import Synapse.Foundation.Locks
import Synapse.Ptc.Scheduler

/-!
# Fairness of the scheduler

A step submits, drops, grants or releases one ticket. The counters are those of the tickets
that are held, the queue holds the tickets that wait in the order of their submission, and a
pass over the queue ends only at a ticket that has to wait for one that is held.
-/

namespace Synapse.Ptc

open List

namespace FairReadWriteScheduler

variable {scheduler next : FairReadWriteScheduler}

/-- The tickets that are queued, in the middle of a pruning pass too. -/
def pending (scheduler : FairReadWriteScheduler) : List ℕ :=
  match scheduler.critical with
  | .pruning alive rest => alive ++ rest
  | _ => scheduler.queue

/-- The number of tickets of one kind that are granted and not released. -/
def held (scheduler : FairReadWriteScheduler) (kind : Kind) : ℕ :=
  scheduler.tickets.countP (·.holds kind)

/-- The counters are those of the tickets. -/
structure Counted (scheduler : FairReadWriteScheduler) : Prop where
  reads : scheduler.activeReads = scheduler.held .read
  writes : scheduler.writerActive.toNat = scheduler.held .write
  exclusive : scheduler.writerActive = true → scheduler.activeReads = 0
  bounded : scheduler.activeReads ≤ scheduler.maxParallel

/-- The queue holds the waiting tickets in the order of their submission, and whatever is ahead
of a granted ticket has left the queue. -/
structure Queued (scheduler : FairReadWriteScheduler) : Prop where
  sorted : scheduler.pending.Pairwise (· < ·)
  pending_iff : ∀ seq, seq ∈ scheduler.pending ↔
    ∃ ticket, scheduler.tickets[seq]? = some ticket ∧ ticket.Waiting
  sound : ∀ ticket ∈ scheduler.tickets, ticket.Sound
  inOrder : ∀ (first second : ℕ) (earlier later : Ticket), first < second →
    scheduler.tickets[first]? = some earlier → scheduler.tickets[second]? = some later →
    later.granted = true → earlier.granted = true ∨ earlier.cancelled = true

/-- What one step does to the tickets, the queue and the counters. -/
inductive Moved (scheduler next : FairReadWriteScheduler) : Prop where
  | still (tickets : next.tickets = scheduler.tickets) (pending : next.pending = scheduler.pending)
      (reads : next.activeReads = scheduler.activeReads)
      (writer : next.writerActive = scheduler.writerActive)
  | submitted (ticket : Ticket) (fresh : ticket.Waiting ∧ ticket.released = false)
      (tickets : next.tickets = scheduler.tickets ++ [ticket])
      (pending : next.pending = scheduler.pending ++ [scheduler.tickets.length])
      (reads : next.activeReads = scheduler.activeReads)
      (writer : next.writerActive = scheduler.writerActive)
  | dropped (seq : ℕ) (ticket : Ticket) (found : scheduler.tickets[seq]? = some ticket)
      (ungranted : ticket.granted = false)
      (tickets : next.tickets = scheduler.tickets.set seq { ticket with cancelled := true })
      (sublist : next.pending.Sublist scheduler.pending)
      (pending : ∀ other, other ∈ next.pending ↔ other ∈ scheduler.pending ∧ other ≠ seq)
      (reads : next.activeReads = scheduler.activeReads)
      (writer : next.writerActive = scheduler.writerActive)
  | granted (seq : ℕ) (ticket : Ticket) (found : scheduler.tickets[seq]? = some ticket)
      (ungranted : ticket.granted = false) (unreleased : ticket.released = false)
      (pending : scheduler.pending = seq :: next.pending)
      (started : scheduler.canStartLocked ticket = true)
      (tickets : next.tickets =
        scheduler.tickets.set seq { ticket with granted := true, loop := none })
      (reads : next.activeReads = (scheduler.admitTicket ticket).activeReads)
      (writer : next.writerActive = (scheduler.admitTicket ticket).writerActive)
  | released (seq : ℕ) (ticket : Ticket) (found : scheduler.tickets[seq]? = some ticket)
      (held : ticket.Held = true)
      (tickets : next.tickets = scheduler.tickets.set seq { ticket with released := true })
      (pending : next.pending = scheduler.pending)
      (reads : next.activeReads = (scheduler.finishLocked ticket).activeReads)
      (writer : next.writerActive = (scheduler.finishLocked ticket).writerActive)

variable {ticket : Ticket} {seq : ℕ}

theorem held_of_set {after : Ticket} (found : scheduler.tickets[seq]? = some ticket)
    (tickets : next.tickets = scheduler.tickets.set seq after) (kind : Kind) :
    next.held kind + (ticket.holds kind).toNat = scheduler.held kind + (after.holds kind).toNat := by
  unfold held
  rw [tickets]
  exact Locks.countP_set_of_found (·.holds kind) found after

theorem Counted.congr (counted : scheduler.Counted)
    (ceiling : next.maxParallel = scheduler.maxParallel)
    (held : ∀ kind, next.held kind = scheduler.held kind)
    (reads : next.activeReads = scheduler.activeReads)
    (writer : next.writerActive = scheduler.writerActive) : next.Counted where
  reads := by rw [reads, held, counted.reads]
  writes := by rw [writer, held, counted.writes]
  exclusive := by
    rw [writer, reads]
    exact counted.exclusive
  bounded := by
    rw [reads, ceiling]
    exact counted.bounded

theorem Counted.admitted (counted : scheduler.Counted)
    (started : scheduler.canStartLocked ticket = true)
    (ceiling : next.maxParallel = scheduler.maxParallel)
    (held : ∀ kind, next.held kind =
      scheduler.held kind + (decide (ticket.kind = kind)).toNat)
    (reads : next.activeReads = (scheduler.admitTicket ticket).activeReads)
    (writer : next.writerActive = (scheduler.admitTicket ticket).writerActive) : next.Counted := by
  have readers := held .read
  have writers := held .write
  rw [← counted.reads] at readers
  rw [← counted.writes] at writers
  unfold canStartLocked at started
  unfold admitTicket at reads writer
  split at started
  · cases started
  · rename_i inactive
    simp only [Bool.not_eq_true] at inactive
    cases kind : ticket.kind with
    | read =>
      simp only [kind, decide_eq_true_eq] at started reads writer readers writers
      simp only [inactive] at writer writers
      constructor
      · rw [readers, reads]
        rfl
      · rw [writers, writer]
        rfl
      · rw [writer]
        exact nofun
      · rw [reads, ceiling]
        omega
    | write =>
      simp only [kind, beq_iff_eq] at started reads writer readers writers
      simp only [inactive] at writers
      constructor
      · rw [readers, reads]
        rfl
      · rw [writers, writer]
        rfl
      · intro _
        rw [reads, started]
      · rw [reads, ceiling]
        exact counted.bounded

/-- A ticket that is released is taken off its counter. -/
theorem Counted.finished (counted : scheduler.Counted) {ticket : Ticket}
    (ceiling : next.maxParallel = scheduler.maxParallel)
    (held : ∀ kind, next.held kind + (decide (ticket.kind = kind)).toNat = scheduler.held kind)
    (reads : next.activeReads = (scheduler.finishLocked ticket).activeReads)
    (writer : next.writerActive = (scheduler.finishLocked ticket).writerActive) :
    next.Counted := by
  have readers := held .read
  have writers := held .write
  rw [← counted.reads] at readers
  rw [← counted.writes] at writers
  unfold finishLocked at reads writer
  have bounded := counted.bounded
  cases kind : ticket.kind with
  | read =>
    simp only [kind, decide_true, Bool.toNat_true, reduceCtorEq, decide_false,
      Bool.toNat_false] at reads writer readers writers
    constructor
    · omega
    · rw [writer, ← writers]
      rfl
    · intro active
      rw [writer] at active
      have idle := counted.exclusive active
      omega
    · rw [ceiling]
      omega
  | write =>
    simp only [kind, decide_true, Bool.toNat_true, reduceCtorEq, decide_false,
      Bool.toNat_false] at reads writer readers writers
    have single := Bool.toNat_le scheduler.writerActive
    constructor
    · omega
    · rw [writer, Bool.toNat_false]
      omega
    · rw [writer]
      exact nofun
    · rw [reads, ceiling]
      exact bounded

theorem Moved.counted (moved : Moved scheduler next)
    (ceiling : next.maxParallel = scheduler.maxParallel) (counted : scheduler.Counted) :
    next.Counted := by
  cases moved with
  | still tickets pending reads writer =>
    apply counted.congr ceiling _ reads writer
    intro kind
    unfold held
    rw [tickets]
  | submitted ticket fresh tickets pending reads writer =>
    apply counted.congr ceiling _ reads writer
    intro kind
    unfold held
    rw [tickets, countP_append, countP_singleton]
    simp [Ticket.holds, Ticket.Held, fresh.1.1]
  | dropped seq ticket found ungranted tickets sublist pending reads writer =>
    apply counted.congr ceiling _ reads writer
    intro kind
    have change := held_of_set found tickets kind
    simp only [Ticket.holds, Ticket.Held] at change
    omega
  | granted seq ticket found ungranted unreleased pending started tickets reads writer =>
    apply counted.admitted started ceiling _ reads writer
    intro kind
    have change := held_of_set found tickets kind
    simp only [Ticket.holds, Ticket.Held, ungranted, unreleased, Bool.and_false,
      Bool.toNat_false, Bool.not_false, Bool.and_true] at change
    exact change
  | released seq ticket found held tickets pending reads writer =>
    apply counted.finished ceiling _ reads writer
    intro kind
    have change := held_of_set found tickets kind
    simp only [Ticket.Held, Bool.and_eq_true] at held
    simp only [Ticket.holds, Ticket.Held, held, Bool.not_true, Bool.and_false,
      Bool.toNat_false, Bool.and_true] at change
    exact change

/-- A ticket has left the queue as soon as it is not waiting. -/
theorem Queued.left (queued : scheduler.Queued)
    (found : scheduler.tickets[seq]? = some ticket) (gone : seq ∉ scheduler.pending) :
    ticket.granted = true ∨ ticket.cancelled = true := by
  by_contra neither
  simp only [not_or, Bool.not_eq_true] at neither
  exact gone ((queued.pending_iff seq).mpr ⟨ticket, found, neither⟩)

theorem Queued.waits (queued : scheduler.Queued)
    (found : scheduler.tickets[seq]? = some ticket) (present : seq ∈ scheduler.pending) :
    ticket.Waiting := by
  rcases (queued.pending_iff seq).mp present with ⟨other, again, waits⟩
  obtain rfl := Option.mem_unique found again
  exact waits

/-- One ticket stops to wait, or goes on without waiting. It is granted only at the head of the
queue. -/
theorem Queued.replaced (queued : scheduler.Queued) {after : Ticket}
    (found : scheduler.tickets[seq]? = some ticket)
    (tickets : next.tickets = scheduler.tickets.set seq after)
    (sublist : next.pending.Sublist scheduler.pending)
    (pending : ∀ other, other ∈ next.pending ↔ other ∈ scheduler.pending ∧ other ≠ seq)
    (sound : after.Sound) (gone : after.granted = true ∨ after.cancelled = true)
    (head : after.granted = true →
      ticket.granted = true ∨ ∀ other ∈ scheduler.pending, seq ≤ other) : next.Queued := by
  have lookup := Locks.getElem?_set_of_found found after
  rw [← tickets] at lookup
  constructor
  · exact queued.sorted.sublist sublist
  · intro other
    rw [pending, lookup]
    by_cases same : other = seq
    · subst same
      simp only [ne_eq, not_true_eq_false, and_false, if_true, false_iff]
      rintro ⟨_, taken, ungranted, uncancelled⟩
      cases taken
      simp [ungranted, uncancelled] at gone
    · simp only [ne_eq, same, not_false_eq_true, and_true, if_false]
      exact queued.pending_iff other
  · intro other present
    rw [tickets] at present
    rcases mem_or_eq_of_mem_set present with old | rfl
    · exact queued.sound other old
    · exact sound
  · intro first second earlier later before firstFound secondFound granted
    rw [lookup] at firstFound secondFound
    by_cases second_eq : second = seq
    · have first_ne : first ≠ seq := by omega
      rw [if_pos second_eq] at secondFound
      rw [if_neg first_ne] at firstFound
      cases secondFound
      rcases head granted with already | least
      · subst second_eq
        exact queued.inOrder first second earlier ticket before firstFound found already
      · apply queued.left firstFound
        intro present
        have behind := least first present
        omega
    · rw [if_neg second_eq] at secondFound
      by_cases first_eq : first = seq
      · rw [if_pos first_eq] at firstFound
        cases firstFound
        exact gone
      · rw [if_neg first_eq] at firstFound
        exact queued.inOrder first second earlier later before firstFound secondFound granted

theorem Queued.submitted (queued : scheduler.Queued)
    (fresh : ticket.Waiting ∧ ticket.released = false)
    (tickets : next.tickets = scheduler.tickets ++ [ticket])
    (pending : next.pending = scheduler.pending ++ [scheduler.tickets.length]) : next.Queued := by
  have known : ∀ seq ∈ scheduler.pending, seq < scheduler.tickets.length := by
    intro seq present
    rcases (queued.pending_iff seq).mp present with ⟨_, found, _⟩
    exact (List.getElem?_eq_some_iff.mp found).1
  constructor
  · rw [pending, pairwise_append]
    refine ⟨queued.sorted, pairwise_singleton _ _, ?_⟩
    intro seq present other last
    rw [mem_singleton] at last
    rw [last]
    exact known seq present
  · intro seq
    rw [pending, tickets, mem_append, mem_singleton, getElem?_append]
    by_cases inside : seq < scheduler.tickets.length
    · rw [if_pos inside, ← queued.pending_iff seq]
      constructor
      · rintro (present | rfl)
        · exact present
        · omega
      · intro present
        exact .inl present
    · rw [if_neg inside]
      constructor
      · rintro (present | rfl)
        · exact absurd (known seq present) inside
        · exact ⟨ticket, by simp, fresh.1⟩
      · rintro ⟨other, found, _⟩
        have bound := (List.getElem?_eq_some_iff.mp found).1
        simp only [length_singleton] at bound
        exact .inr (by omega)
  · intro other present
    rw [tickets, mem_append, mem_singleton] at present
    rcases present with old | rfl
    · exact queued.sound other old
    · constructor
      · rw [fresh.2]
        exact nofun
      · intro _
        exact fresh.1.2
  · intro first second earlier later before firstFound secondFound granted
    rw [tickets, getElem?_append] at firstFound secondFound
    by_cases inside : second < scheduler.tickets.length
    · rw [if_pos inside] at secondFound
      rw [if_pos (by omega)] at firstFound
      exact queued.inOrder first second earlier later before firstFound secondFound granted
    · -- The new ticket is not granted.
      rw [if_neg inside] at secondFound
      have bound := (List.getElem?_eq_some_iff.mp secondFound).1
      simp only [length_singleton] at bound
      have index : second - scheduler.tickets.length = 0 := by omega
      rw [index] at secondFound
      cases secondFound
      rw [fresh.1.1] at granted
      cases granted

theorem Moved.queued (moved : Moved scheduler next) (queued : scheduler.Queued) :
    next.Queued := by
  cases moved with
  | still tickets pending reads writer =>
    constructor
    · rw [pending]
      exact queued.sorted
    · rw [pending, tickets]
      exact queued.pending_iff
    · rw [tickets]
      exact queued.sound
    · rw [tickets]
      exact queued.inOrder
  | submitted ticket fresh tickets pending reads writer =>
    exact queued.submitted fresh tickets pending
  | dropped seq ticket found ungranted tickets sublist pending reads writer =>
    have sound := queued.sound ticket (mem_of_getElem? found)
    apply queued.replaced found tickets sublist pending
    · refine ⟨sound.1, ?_⟩
      intro granted
      rw [ungranted] at granted
      cases granted
    · exact .inr rfl
    · intro granted
      exact .inl granted
  | granted seq ticket found ungranted unreleased pending started tickets reads writer =>
    have sorted := queued.sorted
    rw [pending, pairwise_cons] at sorted
    have waits : ticket.Waiting := by
      apply queued.waits found
      rw [pending]
      exact mem_cons_self
    apply queued.replaced found tickets
    · rw [pending]
      exact sublist_cons_self seq next.pending
    · intro other
      rw [pending, mem_cons]
      constructor
      · intro present
        exact ⟨.inr present, Nat.ne_of_gt (sorted.1 other present)⟩
      · rintro ⟨rfl | present, different⟩
        · exact absurd rfl different
        · exact present
    · exact ⟨fun _ => rfl, fun _ => waits.2⟩
    · exact .inl rfl
    · intro _
      refine .inr ?_
      intro other present
      rw [pending, mem_cons] at present
      rcases present with rfl | present
      · exact le_refl other
      · exact Nat.le_of_lt (sorted.1 other present)
  | released seq ticket found held tickets pending reads writer =>
    simp only [Ticket.Held, Bool.and_eq_true] at held
    have sound := queued.sound ticket (mem_of_getElem? found)
    apply queued.replaced found tickets
    · rw [pending]
    · intro other
      rw [pending]
      constructor
      · intro present
        refine ⟨present, ?_⟩
        rintro rfl
        have waits := queued.waits found present
        rw [waits.1] at held
        cases held.1
      · intro both
        exact both.1
    · exact ⟨fun _ => held.1, sound.2⟩
    · exact .inl held.1
    · intro _
      exact .inl held.1

/-! ### The steps -/

@[simp]
theorem grantLocked_pending (scheduler : FairReadWriteScheduler) :
    scheduler.grantLocked.pending = scheduler.queue := rfl

theorem pending_of_free (free : scheduler.critical = .free) :
    scheduler.pending = scheduler.queue := by
  unfold pending
  rw [free]

@[simp]
theorem finishLocked_tickets (scheduler : FairReadWriteScheduler) (ticket : Ticket) :
    (scheduler.finishLocked ticket).tickets = scheduler.tickets := by
  unfold finishLocked
  cases ticket.kind <;> rfl

@[simp]
theorem finishLocked_queue (scheduler : FairReadWriteScheduler) (ticket : Ticket) :
    (scheduler.finishLocked ticket).queue = scheduler.queue := by
  unfold finishLocked
  cases ticket.kind <;> rfl

@[simp]
theorem finishLocked_maxParallel (scheduler : FairReadWriteScheduler) (ticket : Ticket) :
    (scheduler.finishLocked ticket).maxParallel = scheduler.maxParallel := by
  unfold finishLocked
  cases ticket.kind <;> rfl

@[simp]
theorem admit_maxParallel (scheduler : FairReadWriteScheduler) (ticket : Ticket) :
    (scheduler.admitTicket ticket).maxParallel = scheduler.maxParallel := by
  unfold admitTicket
  cases ticket.kind <;> rfl

@[simp]
theorem admit_tickets (scheduler : FairReadWriteScheduler) (ticket : Ticket) :
    (scheduler.admitTicket ticket).tickets = scheduler.tickets := by
  unfold admitTicket
  cases ticket.kind <;> rfl

@[simp]
theorem admit_critical (scheduler : FairReadWriteScheduler) (ticket : Ticket) :
    (scheduler.admitTicket ticket).critical = scheduler.critical := by
  unfold admitTicket
  cases ticket.kind <;> rfl

theorem moved_of_released (free : scheduler.critical = .free)
    (found : scheduler.tickets[seq]? = some ticket) (held : ticket.Held = true) :
    Moved scheduler
      ((scheduler.put seq { ticket with released := true }).finishLocked ticket).grantLocked := by
  apply Moved.released seq ticket found held
  · exact finishLocked_tickets _ ticket
  · rw [pending_of_free free]
    exact finishLocked_queue _ ticket
  · unfold finishLocked
    cases ticket.kind <;> rfl
  · unfold finishLocked
    cases ticket.kind <;> rfl

theorem releaseNowait_moved (free : scheduler.critical = .free)
    (found : scheduler.tickets[seq]? = some ticket) :
    Moved scheduler (scheduler.releaseNowait seq ticket) := by
  unfold releaseNowait
  split
  · exact .still rfl rfl rfl rfl
  · rename_i live
    apply moved_of_released free found
    simp only [Bool.or_eq_true, Bool.not_eq_true', not_or, Bool.not_eq_false,
      Bool.not_eq_true] at live
    simp [Ticket.Held, live.1.1, live.1.2]

theorem abandon_moved (queued : scheduler.Queued)
    (free : scheduler.critical = .free) (found : scheduler.tickets[seq]? = some ticket) :
    Moved scheduler (scheduler.abandon seq ticket) := by
  have same := pending_of_free free
  unfold abandon
  split
  · rename_i granted
    split
    · exact .still rfl rfl rfl rfl
    · rename_i unreleased
      apply moved_of_released free found
      simp [Ticket.Held, granted, unreleased]
  · rename_i ungranted
    simp only [Bool.not_eq_true] at ungranted
    apply Moved.dropped seq ticket found ungranted
    · rfl
    · rw [same]
      exact erase_sublist
    · intro other
      have nodup : scheduler.queue.Nodup := by
        rw [← same]
        exact queued.sorted.imp Nat.ne_of_lt
      rw [same]
      constructor
      · intro present
        have both := nodup.mem_erase_iff.mp present
        exact ⟨both.2, both.1⟩
      · rintro ⟨present, different⟩
        exact nodup.mem_erase_iff.mpr ⟨different, present⟩
    · rfl
    · rfl

theorem acquire_moved (free : scheduler.critical = .free) (kind : Kind) (loop : LoopId) :
    Moved scheduler (scheduler.acquire kind loop) := by
  apply Moved.submitted ⟨kind, some loop, false, false, false⟩
  · exact ⟨⟨rfl, rfl⟩, rfl⟩
  · rfl
  · rw [pending_of_free free]
    rfl
  · rfl
  · rfl

/-- The head of a strictly ordered list occurs nowhere else in it. -/
theorem mem_without_middle {alive rest : List ℕ} {seq : ℕ}
    (sorted : (alive ++ seq :: rest).Pairwise (· < ·)) (other : ℕ) :
    other ∈ alive ++ rest ↔ other ∈ alive ++ seq :: rest ∧ other ≠ seq := by
  rw [pairwise_append, pairwise_cons] at sorted
  rcases sorted with ⟨_, ⟨behind, _⟩, ahead⟩
  simp only [mem_append, mem_cons]
  constructor
  · rintro (before | after)
    · exact ⟨.inl before, Nat.ne_of_lt (ahead other before seq mem_cons_self)⟩
    · exact ⟨.inr (.inr after), Nat.ne_of_gt (behind other after)⟩
  · rintro ⟨before | rfl | after, different⟩
    · exact .inl before
    · exact absurd rfl different
    · exact .inr after

theorem pruneLocked_moved (queued : scheduler.Queued)
    (stepped : scheduler.pruneLocked = some next) : Moved scheduler next := by
  have sorted := queued.sorted
  unfold pruneLocked at stepped
  unfold pending at sorted
  split at stepped
  · rename_i alive seq rest critical
    rw [critical] at sorted
    rcases Option.map_eq_some_iff.mp stepped with ⟨ticket, found, rfl⟩
    split
    · have waits : ticket.Waiting := by
        apply queued.waits found
        simp [pending, critical]
      apply Moved.dropped seq ticket found waits.1
      · rfl
      · simp only [pending, critical]
        exact (sublist_cons_self seq rest).append_left alive
      · simp only [pending, critical]
        exact mem_without_middle sorted
      · rfl
      · rfl
    · refine .still rfl ?_ rfl rfl
      simp only [pending, critical, append_assoc, singleton_append]
  · rename_i alive critical
    cases stepped
    refine .still rfl ?_ rfl rfl
    simp only [pending, critical, append_nil]
  · cases stepped

theorem grantNext_moved (queued : scheduler.Queued)
    (stepped : scheduler.grantNext = some next) : Moved scheduler next := by
  unfold grantNext at stepped
  split at stepped
  · rename_i critical empty
    cases stepped
    refine .still rfl ?_ rfl rfl
    simp only [pending, critical]
  · rename_i seq rest critical head
    have pending_eq : scheduler.pending = seq :: rest := by
      simp only [pending, critical, head]
    rcases Option.map_eq_some_iff.mp stepped with ⟨ticket, found, rfl⟩
    have waits : ticket.Waiting := by
      apply queued.waits found
      rw [pending_eq]
      exact mem_cons_self
    split
    · refine .still rfl ?_ rfl rfl
      simp only [pending, critical]
    · rename_i started
      simp only [Bool.not_eq_true', Bool.not_eq_false] at started
      split
      · apply Moved.granted seq ticket found waits.1 _ _ started
        · exact admit_tickets _ ticket
        · unfold admitTicket
          cases ticket.kind <;> rfl
        · unfold admitTicket
          cases ticket.kind <;> rfl
        · -- A waiting ticket is not released.
          have sound := queued.sound ticket (mem_of_getElem? found)
          by_contra released
          simp only [Bool.not_eq_false] at released
          have granted := sound.1 released
          rw [waits.1] at granted
          cases granted
        · rw [pending_eq]
          simp only [pending, admit_critical, put, critical]
      · have sorted := queued.sorted
        rw [pending_eq] at sorted
        apply Moved.dropped seq ticket found waits.1
        · rfl
        · rw [pending_eq]
          simp only [pending, put, critical]
          exact sublist_cons_self seq rest
        · rw [pending_eq]
          simp only [pending, put, critical]
          exact @mem_without_middle [] rest seq sorted
        · rfl
        · rfl
  · cases stepped

variable {label : SchedulerLabel}

/-- Every step moves the tickets, the queue and the counters in one of the ways listed. -/
theorem moved_of_step (queued : scheduler.Queued)
    (stepped : scheduler.step label = some next) : Moved scheduler next := by
  cases label with
  | acquire kind loop =>
    rcases of_guard stepped with ⟨ready, rfl⟩
    exact acquire_moved ready.1 kind loop
  | releaseNowait seq =>
    rcases Option.ite_none_right_eq_some.mp stepped with ⟨free, stepped⟩
    rcases Option.map_eq_some_iff.mp stepped with ⟨ticket, found, rfl⟩
    exact releaseNowait_moved free found
  | abandon seq =>
    rcases Option.ite_none_right_eq_some.mp stepped with ⟨free, stepped⟩
    rcases Option.map_eq_some_iff.mp stepped with ⟨ticket, found, rfl⟩
    exact abandon_moved queued free found
  | close loop =>
    cases stepped
    exact .still rfl rfl rfl rfl
  | prune => exact pruneLocked_moved queued stepped
  | grant => exact grantNext_moved queued stepped

theorem releaseNowait_maxParallel (seq : ℕ) (ticket : Ticket) :
    (scheduler.releaseNowait seq ticket).maxParallel = scheduler.maxParallel := by
  unfold releaseNowait
  split
  · rfl
  · exact finishLocked_maxParallel _ ticket

theorem abandon_maxParallel (seq : ℕ) (ticket : Ticket) :
    (scheduler.abandon seq ticket).maxParallel = scheduler.maxParallel := by
  unfold abandon
  split
  · split
    · rfl
    · exact finishLocked_maxParallel _ ticket
  · rfl

theorem step_maxParallel (stepped : scheduler.step label = some next) :
    next.maxParallel = scheduler.maxParallel := by
  cases label with
  | acquire kind loop =>
    rcases of_guard stepped with ⟨_, rfl⟩
    rfl
  | releaseNowait seq =>
    rcases Option.ite_none_right_eq_some.mp stepped with ⟨_, stepped⟩
    rcases Option.map_eq_some_iff.mp stepped with ⟨ticket, _, rfl⟩
    exact releaseNowait_maxParallel seq ticket
  | abandon seq =>
    rcases Option.ite_none_right_eq_some.mp stepped with ⟨_, stepped⟩
    rcases Option.map_eq_some_iff.mp stepped with ⟨ticket, _, rfl⟩
    exact abandon_maxParallel seq ticket
  | close loop =>
    cases stepped
    rfl
  | prune =>
    simp only [step, pruneLocked] at stepped
    split at stepped
    · rcases Option.map_eq_some_iff.mp stepped with ⟨ticket, _, rfl⟩
      split <;> rfl
    · cases stepped
      rfl
    · cases stepped
  | grant =>
    simp only [step, grantNext] at stepped
    split at stepped
    · cases stepped
      rfl
    · rcases Option.map_eq_some_iff.mp stepped with ⟨ticket, _, rfl⟩
      split
      · rfl
      · split
        · exact admit_maxParallel _ ticket
        · rfl
    · cases stepped

/-! ### Nothing is starved -/

/-- Outside the critical sections, a ticket is queued only behind one that is held. -/
def Busy (scheduler : FairReadWriteScheduler) : Prop :=
  scheduler.critical = .free → scheduler.queue ≠ [] →
    scheduler.writerActive = true ∨ 0 < scheduler.activeReads

theorem busy_of_canStart (positive : 0 < scheduler.maxParallel)
    (stopped : scheduler.canStartLocked ticket = false) :
    scheduler.writerActive = true ∨ 0 < scheduler.activeReads := by
  unfold canStartLocked at stopped
  split at stopped
  · exact .inl (by assumption)
  · right
    cases kind : ticket.kind with
    | read =>
      simp only [kind, decide_eq_false_iff_not, not_lt] at stopped
      omega
    | write =>
      simp only [kind, beq_eq_false_iff_ne] at stopped
      omega

/-- The grants stop only at the end of the queue or at a ticket that cannot start. -/
theorem grantNext_busy (positive : 0 < scheduler.maxParallel)
    (stepped : scheduler.grantNext = some next) : next.Busy := by
  unfold grantNext at stepped
  split at stepped
  · rename_i critical empty
    cases stepped
    intro _ waiting
    exact absurd empty waiting
  · rename_i seq rest critical head
    rcases Option.map_eq_some_iff.mp stepped with ⟨ticket, found, rfl⟩
    split
    · rename_i stopped
      intro _ _
      simp only [Bool.not_eq_true'] at stopped
      exact busy_of_canStart positive stopped
    · intro free _
      split at free
      · simp only [admit_critical, put, critical, reduceCtorEq] at free
      · simp only [put, critical, reduceCtorEq] at free
  · cases stepped

theorem Busy.releaseNowait (busy : scheduler.Busy) (seq : ℕ) (ticket : Ticket) :
    (scheduler.releaseNowait seq ticket).Busy := by
  unfold FairReadWriteScheduler.releaseNowait
  split
  · exact busy
  · intro free
    cases free

theorem Busy.abandon (busy : scheduler.Busy) (seq : ℕ) (ticket : Ticket) :
    (scheduler.abandon seq ticket).Busy := by
  unfold FairReadWriteScheduler.abandon
  split
  · split
    · exact busy
    · exact nofun
  · exact nofun

theorem Busy.step (busy : scheduler.Busy)
    (positive : 0 < scheduler.maxParallel) (stepped : scheduler.step label = some next) :
    next.Busy := by
  cases label with
  | acquire kind loop =>
    rcases of_guard stepped with ⟨_, rfl⟩
    exact nofun
  | releaseNowait seq =>
    rcases Option.ite_none_right_eq_some.mp stepped with ⟨_, stepped⟩
    rcases Option.map_eq_some_iff.mp stepped with ⟨ticket, _, rfl⟩
    exact busy.releaseNowait seq ticket
  | abandon seq =>
    simp only [FairReadWriteScheduler.step] at stepped
    rcases Option.ite_none_right_eq_some.mp stepped with ⟨_, stepped⟩
    rcases Option.map_eq_some_iff.mp stepped with ⟨ticket, _, rfl⟩
    exact busy.abandon seq ticket
  | close loop =>
    cases stepped
    exact busy
  | prune =>
    simp only [FairReadWriteScheduler.step, pruneLocked] at stepped
    split at stepped
    · rcases Option.map_eq_some_iff.mp stepped with ⟨ticket, _, rfl⟩
      intro free
      split at free
      · cases free
      · cases free
    · cases stepped
      exact nofun
    · cases stepped
  | grant => exact grantNext_busy positive stepped

/-! ### Runs -/

structure Sound (scheduler : FairReadWriteScheduler) : Prop where
  positive : 0 < scheduler.maxParallel
  counted : scheduler.Counted
  queued : scheduler.Queued
  busy : scheduler.Busy

theorem sound_init (maxParallel : ℤ) : (init maxParallel).Sound where
  positive := by
    simp only [init]
    omega
  counted := ⟨rfl, rfl, fun _ => rfl, Nat.zero_le _⟩
  queued := by
    constructor
    · exact List.Pairwise.nil
    · intro seq
      simp [pending, init]
    · intro ticket present
      cases present
    · intro first second earlier later _ found
      cases found
  busy := by
    intro _ waiting
    exact absurd rfl waiting

theorem Sound.step (sound : scheduler.Sound)
    (stepped : scheduler.step label = some next) : next.Sound := by
  have ceiling := step_maxParallel stepped
  have moved := moved_of_step sound.queued stepped
  constructor
  · rw [ceiling]
    exact sound.positive
  · exact moved.counted ceiling sound.counted
  · exact moved.queued sound.queued
  · exact sound.busy.step sound.positive stepped

theorem sound_of_run {maxParallel : ℤ} {labels : List SchedulerLabel}
    (ran : machine.run (init maxParallel) labels = some scheduler) : scheduler.Sound :=
  Machine.run_invariant (fun sound stepped => sound.step stepped) (sound_init maxParallel) ran

/-- The ticket has left the queue and was not granted. -/
def Dropped (scheduler : FairReadWriteScheduler) (seq : ℕ) : Prop :=
  ∃ ticket, scheduler.tickets[seq]? = some ticket ∧ ticket.granted = false ∧
    ticket.cancelled = true

def Granted (scheduler : FairReadWriteScheduler) (seq : ℕ) : Prop :=
  ∃ ticket, scheduler.tickets[seq]? = some ticket ∧ ticket.granted = true

theorem Dropped.not_granted (dropped : scheduler.Dropped seq) :
    ¬ scheduler.Granted seq := by
  rintro ⟨ticket, found, granted⟩
  rcases dropped with ⟨other, again, ungranted, _⟩
  obtain rfl := Option.mem_unique found again
  rw [granted] at ungranted
  cases ungranted

theorem Dropped.moved (dropped : scheduler.Dropped seq) (queued : scheduler.Queued)
    (moved : Moved scheduler next) : next.Dropped seq := by
  rcases dropped with ⟨ticket, found, ungranted, cancelled⟩
  cases moved with
  | still tickets _ _ _ =>
    refine ⟨ticket, ?_, ungranted, cancelled⟩
    rw [tickets, found]
  | submitted fresh _ tickets _ _ _ =>
    refine ⟨ticket, ?_, ungranted, cancelled⟩
    have inside := (List.getElem?_eq_some_iff.mp found).1
    rw [tickets, getElem?_append_left inside, found]
  | dropped other before otherFound _ tickets _ _ _ _ =>
    have lookup := Locks.getElem?_set_of_found otherFound { before with cancelled := true } seq
    rw [← tickets] at lookup
    split at lookup
    · rename_i same
      subst same
      obtain rfl := Option.mem_unique found otherFound
      exact ⟨_, lookup, ungranted, rfl⟩
    · exact ⟨ticket, lookup.trans found, ungranted, cancelled⟩
  | granted other before otherFound _ _ pending _ tickets _ _ =>
    have different : seq ≠ other := by
      rintro rfl
      have present : seq ∈ scheduler.pending := by
        rw [pending]
        exact mem_cons_self
      have waits := queued.waits found present
      rw [waits.2] at cancelled
      cases cancelled
    have lookup := Locks.getElem?_set_of_found otherFound
      { before with granted := true, loop := none } seq
    rw [← tickets, if_neg different] at lookup
    exact ⟨ticket, lookup.trans found, ungranted, cancelled⟩
  | released other before otherFound held tickets _ _ _ =>
    have different : seq ≠ other := by
      rintro rfl
      obtain rfl := Option.mem_unique found otherFound
      simp [Ticket.Held, ungranted] at held
    have lookup := Locks.getElem?_set_of_found otherFound { before with released := true } seq
    rw [← tickets, if_neg different] at lookup
    exact ⟨ticket, lookup.trans found, ungranted, cancelled⟩

/-- What the scheduler promises in a state: a writer is alone, the counters are exact, nothing
overtakes a ticket that waits, and something is held while a ticket waits. -/
structure Fair (scheduler : FairReadWriteScheduler) : Prop where
  writer : scheduler.writerActive = true → scheduler.activeReads = 0 ∧ scheduler.held .write = 1
  noWriter : scheduler.writerActive = false → scheduler.held .write = 0
  reads : scheduler.activeReads = scheduler.held .read
  bounded : scheduler.activeReads ≤ scheduler.maxParallel
  inOrder : ∀ (first second : ℕ) (earlier later : Ticket), first < second →
    scheduler.tickets[first]? = some earlier → scheduler.tickets[second]? = some later →
    later.granted = true → ¬ earlier.Waiting
  awake : scheduler.critical = .free → (∀ ticket ∈ scheduler.tickets, ticket.Held = false) →
    ∀ ticket ∈ scheduler.tickets, ¬ ticket.Waiting

theorem held_of_none {kind : Kind} (none : ∀ ticket ∈ scheduler.tickets, ticket.Held = false) :
    scheduler.held kind = 0 := by
  unfold held
  rw [countP_eq_zero]
  intro ticket present
  simp [Ticket.holds, none ticket present]

theorem Sound.fair (sound : scheduler.Sound) : scheduler.Fair := by
  have writes := sound.counted.writes
  constructor
  · intro active
    rw [active] at writes
    exact ⟨sound.counted.exclusive active, writes.symm⟩
  · intro inactive
    rw [inactive] at writes
    exact writes.symm
  · exact sound.counted.reads
  · exact sound.counted.bounded
  · intro first second earlier later before firstFound secondFound granted waits
    rcases sound.queued.inOrder first second earlier later before firstFound secondFound granted
      with already | dropped
    · rw [waits.1] at already
      cases already
    · rw [waits.2] at dropped
      cases dropped
  · intro free none ticket present waits
    rcases mem_iff_getElem?.mp present with ⟨seq, found⟩
    have queued := (sound.queued.pending_iff seq).mpr ⟨ticket, found, waits⟩
    rw [pending_of_free free] at queued
    have reads := sound.counted.reads
    rw [held_of_none none] at reads writes
    rcases sound.busy free (ne_nil_of_mem queued) with active | active
    · rw [active] at writes
      cases writes
    · omega

/-- In every state of every run the scheduler is fair, and a ticket that was passed by is never
granted later: tickets are granted in the order of their submission. -/
theorem fair_of_run {maxParallel : ℤ} {front back : List SchedulerLabel}
    {final : FairReadWriteScheduler}
    (ran : machine.run (init maxParallel) front = some scheduler)
    (later : machine.run scheduler back = some final) :
    scheduler.Fair ∧ scheduler.maxParallel = (max 1 maxParallel).toNat ∧
      ∀ first second, first < second → scheduler.Granted second → final.Granted first →
        scheduler.Granted first := by
  have sound := sound_of_run ran
  refine ⟨sound.fair, ?_, ?_⟩
  · exact @Machine.run_invariant _ _ machine
      (fun state => state.maxParallel = (max 1 maxParallel).toNat)
      (fun same stepped => (step_maxParallel stepped).trans same) _ _ front rfl ran
  · rintro first second before ⟨ticket, secondFound, granted⟩ reached
    have inside : first < scheduler.tickets.length := by
      have := (List.getElem?_eq_some_iff.mp secondFound).1
      omega
    have firstFound := List.getElem?_eq_getElem inside
    rcases sound.queued.inOrder first second _ ticket before firstFound secondFound granted
      with already | cancelled
    · exact ⟨_, firstFound, already⟩
    · -- The earlier ticket was dropped, and stays so.
      by_contra ungranted
      have dropped : scheduler.Dropped first := by
        refine ⟨_, firstFound, ?_, cancelled⟩
        by_contra other
        exact ungranted ⟨_, firstFound, Bool.not_eq_false _ ▸ other⟩
      have both := @Machine.run_invariant _ _ machine
        (fun state => state.Sound ∧ state.Dropped first)
        (fun holds stepped => ⟨holds.1.step stepped,
          holds.2.moved holds.1.queued (moved_of_step holds.1.queued stepped)⟩)
        _ _ back ⟨sound, dropped⟩ later
      exact both.2.not_granted reached

/-- A writer runs, a reader waits on another loop, and that loop closes while the pass that
follows the release of the writer is under way. -/
def closingLabels : List SchedulerLabel :=
  [.acquire .write 0, .prune, .prune, .grant, .grant, .acquire .read 1, .prune, .prune, .grant,
    .acquire .read 0, .prune, .prune, .prune, .grant, .releaseNowait 0, .prune, .close 1, .prune,
    .prune, .grant, .grant, .grant]

theorem fair_of_run_closing : ∃ scheduler, machine.run (init 2) closingLabels = some scheduler ∧
    scheduler.tickets.map (·.granted) = [true, false, true] ∧ scheduler.Fair := by
  have reached : ∃ scheduler, machine.run (init 2) closingLabels = some scheduler ∧
      scheduler.tickets.map (·.granted) = [true, false, true] := by
    decide
  rcases reached with ⟨scheduler, ran, granted⟩
  exact ⟨scheduler, ran, granted, (fair_of_run ran (Machine.run_nil scheduler)).1⟩

end FairReadWriteScheduler

end Synapse.Ptc
