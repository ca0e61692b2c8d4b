import Synapse.Transport.WriterOrder

/-!
# Acknowledgements of the writer

Every caller that waits gets an answer, and a cancelled one does not stop the writer, as long as no
acknowledgement is set that is done and nobody waits behind the end of the writer.
-/

namespace Synapse.Transport

open List

universe u

namespace Outgoing

variable {Message : Type u} {outgoing next : Outgoing Message} {size : ℕ}

/-! ### Careful runs -/

/-- No item of the list has a caller that waits. -/
def Quiet (outgoing : Outgoing Message) (items : List (OutgoingItem Message)) : Prop :=
  ∀ item ∈ items, ∀ number ∈ item.acknowledgement, outgoing.acknowledgements number ≠ some .pending

/-- Nobody waits behind an item that ends the writer and is next. -/
def QuietEnd (outgoing : Outgoing Message) : Prop :=
  ∀ item ∈ outgoing.queue.head?, item.message.isNone = true → Quiet outgoing outgoing.queue.tail

/-- The acknowledgement of a sent message is pending, nobody waits behind the end of the writer or for a writer
that never starts. -/
def CarefulStep (outgoing : Outgoing Message) : OutgoingStep Message → Prop
  | .put _ waitWritten => waitWritten = true → outgoing.Done → outgoing.terminal = true
  | .start => if outgoing.cancelled then Quiet outgoing outgoing.queue else QuietEnd outgoing
  | .wake => QuietEnd outgoing
  | .sent => (∀ item ∈ inFlight outgoing.writer, ∀ number ∈ item.acknowledgement,
      outgoing.acknowledgements number = some .pending) ∧ QuietEnd outgoing
  | _ => True

structure Careful (outgoing : Outgoing Message) : Prop where
  covered : ∀ number, outgoing.acknowledgements number = some .pending →
    ∃ item ∈ outgoing.held, item.acknowledgement = some number
  answered : outgoing.Done → ∀ number, outgoing.acknowledgements number ≠ some .pending
  stops : outgoing.Done → outgoing.sendFailed = true ∨ outgoing.closing = true
  cancels : outgoing.cancelled = true → outgoing.closing = true ∧ outgoing.aborted = true
  ends : ∀ item ∈ outgoing.held, item.message = none → outgoing.closing = true
  putting : ∀ number, outgoing.closes number = .putting → outgoing.closing = true
  keeps : outgoing.sendFailed = false → outgoing.aborted = false →
    outgoing.accepted = outgoing.sent ++ messages outgoing.held
  failing : outgoing.failed = true → outgoing.sendFailed = true

theorem careful_new : Careful (new : Outgoing Message) where
  covered := fun _ own => by cases own
  answered := fun done => False.elim done
  stops := fun done => False.elim done
  cancels := fun own => by cases own
  ends := fun _ mem => absurd mem not_mem_nil
  putting := fun _ own => by cases own
  keeps := fun _ _ => rfl
  failing := fun own => by cases own

theorem Careful.suspend (careful : Careful outgoing) (writer : Writer Message) (queue : List (OutgoingItem Message))
    (held : inFlight writer ++ queue = outgoing.held)
    (live : ¬ Done { outgoing with writer := writer, queue := queue }) :
    Careful { outgoing with writer := writer, queue := queue } where
  covered := fun number pending => by
    rw [Outgoing.held, held]
    exact careful.covered number pending
  answered := fun done => absurd done live
  stops := fun done => absurd done live
  cancels := careful.cancels
  ends := fun item mem => careful.ends item (by rw [← held]; exact mem)
  putting := careful.putting
  keeps := fun unfailed kept => by
    rw [Outgoing.held, held]
    exact careful.keeps unfailed kept
  failing := careful.failing

theorem Careful.loop (careful : Careful outgoing) (sound : Sound outgoing) (idle : inFlight outgoing.writer = [])
    (quiet : QuietEnd outgoing) (last : Option (OutgoingItem Message)) : Careful (outgoing.loop last) := by
  have held : outgoing.held = outgoing.queue := by rw [Outgoing.held, idle, nil_append]
  rcases loop_cases outgoing last with ⟨empty, same⟩ | ⟨item, rest, filled, ⟨_, same⟩ | ⟨none, other⟩⟩
  · rw [same]
    exact careful.suspend (.waiting last) outgoing.queue held.symm id
  · rw [same]
    exact careful.suspend (.sending item) rest (held.trans filled).symm id
  · have mem : item ∈ outgoing.held := by rw [held, filled]; exact mem_cons_self
    have unanswered := sound.quiet_end mem none
    have set : setResult { outgoing with queue := rest } item = some { outgoing with queue := rest } := by
      rw [setResult, unanswered]
    rw [set] at other
    rcases other with ⟨answered, answers, same⟩ | ⟨raised, _⟩
    · cases answers
      have nobody : ∀ number, outgoing.acknowledgements number ≠ some .pending := by
        intro number pending
        rcases careful.covered number pending with ⟨waiting, inside, own⟩
        rw [held, filled] at inside
        rcases mem_cons.1 inside with rfl | behind
        · rw [unanswered] at own
          cases own
        · rw [QuietEnd, filled] at quiet
          exact quiet item rfl (by rw [none]; rfl) waiting behind number own pending
      have closing := careful.ends item mem none
      rw [same]
      refine ⟨fun number pending => absurd pending (nobody number), fun _ => nobody, fun _ => Or.inr closing,
        careful.cancels, fun _ _ _ => closing, careful.putting, fun unfailed kept => ?_, careful.failing⟩
      have keeps := careful.keeps unfailed kept
      rw [held, filled, messages, filterMap_cons, none] at keeps
      exact keeps
    · cases raised

variable {current : Option (OutgoingItem Message)}

theorem Careful.nobody_waits (careful : Careful outgoing)
    (suspended : outgoing.writer = .waiting current ∨ ∃ item, outgoing.writer = .sending item ∧ current = some item)
    (number : ℕ) :
    answerAll .failure outgoing.acknowledgements (current.toList ++ outgoing.queue) number ≠ some .pending := by
  intro pending
  rcases answerAll_cases .failure outgoing.acknowledgements (current.toList ++ outgoing.queue) number with
    same | ⟨_, set⟩
  · rcases careful.covered number (same.symm.trans pending) with ⟨item, mem, own⟩
    have inside : item ∈ current.toList ++ outgoing.queue := by
      rcases suspended with waiting | ⟨other, sending, rfl⟩
      · rw [held, waiting] at mem
        exact mem_append_right _ mem
      · rw [held, sending] at mem
        exact mem
    exact answerAll_own (by decide) inside own pending
  · rw [set] at pending
    cases pending

variable {acknowledgements : ℕ → Option Acknowledgement} {item : OutgoingItem Message}

theorem Careful.log (careful : Careful outgoing) (sending : outgoing.writer = .sending item)
    (settled : ∀ number, acknowledgements number = some .pending →
      outgoing.acknowledgements number = some .pending ∧ item.acknowledgement ≠ some number) :
    Careful { outgoing.log item with acknowledgements := acknowledgements } where
  covered := fun number pending => by
    rcases settled number pending with ⟨before, other⟩
    rcases careful.covered number before with ⟨waiting, mem, own⟩
    rw [held, sending] at mem
    rcases mem_cons.1 mem with rfl | behind
    · exact absurd own other
    · exact ⟨waiting, behind, own⟩
  answered := fun done => False.elim done
  stops := fun done => False.elim done
  cancels := careful.cancels
  ends := fun other mem => careful.ends other (by
    rw [held, sending]
    exact mem_cons_of_mem _ mem)
  putting := careful.putting
  keeps := fun unfailed kept => by
    have keeps := careful.keeps unfailed kept
    rw [held, sending, inFlight, messages, singleton_append, filterMap_cons] at keeps
    cases own : item.message with
    | none =>
      rw [own] at keeps
      rw [Outgoing.log, own, Option.toList_none, append_nil]
      exact keeps
    | some message =>
      rw [own] at keeps
      rw [Outgoing.log, own, Option.toList_some, append_assoc]
      exact keeps
  failing := careful.failing

theorem Careful.written (careful : Careful outgoing) (sound : Sound outgoing) {item : OutgoingItem Message}
    (sending : outgoing.writer = .sending item) (step : CarefulStep outgoing .sent) :
    Careful (outgoing.written item) := by
  rcases step with ⟨waits, quiet⟩
  rw [sending] at waits
  rcases written_cases outgoing item with ⟨unanswered, same⟩ | ⟨number, own, pending, same⟩ | ⟨number, own, done, _⟩
  · rw [same]
    have logged : Careful (outgoing.log item) := careful.log sending fun number pending =>
      ⟨pending, by rw [unanswered]; exact (Option.some_ne_none number).symm⟩
    exact logged.loop (sound.log sending) rfl quiet (some item)
  · rw [same]
    have mem : item ∈ outgoing.held := by
      rw [held, sending]
      exact mem_append_left _ (mem_singleton_self item)
    rcases sound.named item mem number own with ⟨text, message⟩
    have logged : Careful { outgoing.log item with
        acknowledgements := Function.update outgoing.acknowledgements number (some (.result true)) } := by
      refine careful.log sending fun other waiting => ?_
      by_cases ours : other = number
      · rw [ours, Function.update_self] at waiting
        cases waiting
      · rw [Function.update_of_ne ours] at waiting
        refine ⟨waiting, ?_⟩
        rw [own]
        exact fun equal => ours (Option.some.inj equal).symm
    refine logged.loop ((sound.log sending).succeed pending (sent_log outgoing message)) rfl ?_ (some item)
    intro first head ends behind mem other waits pending
    refine quiet first head ends behind mem other waits ?_
    by_cases ours : other = number
    · rw [ours]
      assumption
    · exact (Function.update_of_ne ours ..).symm.trans pending
  · exact absurd (waits item (mem_singleton_self item) number own) done

theorem Careful.fail (careful : Careful outgoing) (sending : outgoing.writer = .sending item) :
    Careful { outgoing.fail (some item) with sendFailed := true } := by
  have nobody := careful.nobody_waits (Or.inr ⟨item, sending, rfl⟩)
  refine ⟨fun number pending => absurd pending (nobody number), fun _ => nobody, fun _ => Or.inl rfl,
    careful.cancels, fun _ mem => absurd mem not_mem_nil, careful.putting, fun unfailed => (by cases unfailed),
    fun _ => rfl⟩

theorem Careful.interrupted (careful : Careful outgoing)
    (suspended : outgoing.writer = .waiting current ∨ ∃ item, outgoing.writer = .sending item ∧ current = some item)
    (cancelled : outgoing.cancelled = true) : Careful (outgoing.interrupted current) := by
  have nobody := careful.nobody_waits suspended
  have closed := careful.cancels cancelled
  refine ⟨fun number pending => absurd pending (nobody number), fun _ => nobody, fun _ => Or.inr closed.1,
    careful.cancels, fun _ mem => absurd mem not_mem_nil, careful.putting, fun _ kept => ?_, careful.failing⟩
  have aborted : outgoing.aborted = false := kept
  rw [closed.2] at aborted
  cases aborted

/-- A writer that is cancelled before its first step leaves the queue behind. -/
theorem Careful.abort (careful : Careful outgoing) (starting : outgoing.writer = .starting)
    (cancelled : outgoing.cancelled = true) (quiet : Quiet outgoing outgoing.queue) :
    Careful { outgoing with writer := .ended } := by
  have closed := careful.cancels cancelled
  have held : outgoing.held = outgoing.queue := by rw [held, starting]; rfl
  have nobody : ∀ number, outgoing.acknowledgements number ≠ some .pending := by
    intro number pending
    rcases careful.covered number pending with ⟨item, mem, own⟩
    exact quiet item (held ▸ mem) number own pending
  refine ⟨fun number pending => absurd pending (nobody number), fun _ => nobody, fun _ => Or.inr closed.1,
    careful.cancels, fun _ _ _ => closed.1, careful.putting, fun _ kept => ?_, careful.failing⟩
  have aborted : outgoing.aborted = false := kept
  rw [closed.2] at aborted
  cases aborted

/-- A message that is accepted goes to the end of the queue, with its caller if it waits. -/
theorem Careful.enqueue (careful : Careful outgoing) (message : Message) (puts : ℕ) (outcomes : ℕ → PutOutcome)
    (acknowledgements : ℕ → Option Acknowledgement) (waits : Option ℕ)
    (settled : ∀ number, acknowledgements number = some .pending →
      outgoing.acknowledgements number = some .pending ∨ waits = some number)
    (answered : outgoing.Done → ∀ number, acknowledgements number ≠ some .pending) :
    Careful { outgoing with
      puts := puts
      queue := outgoing.queue ++ [⟨some (outgoing.puts, message), waits⟩]
      acknowledgements := acknowledgements
      outcomes := outcomes
      accepted := outgoing.accepted ++ [(outgoing.puts, message)] } := by
  refine { careful with covered := fun number pending => ?_, answered := answered, ends := fun item mem ends => ?_, keeps := fun unfailed kept => ?_ }
  · rw [held]
    dsimp only
    rw [← append_assoc]
    rcases settled number pending with before | own
    · rcases careful.covered number before with ⟨item, mem, own⟩
      exact ⟨item, mem_append_left _ mem, own⟩
    · exact ⟨_, mem_append_right _ (mem_singleton_self _), own⟩
  · rw [held] at mem
    dsimp only at mem
    rw [← append_assoc] at mem
    rcases mem_append.1 mem with old | new
    · exact careful.ends item old ends
    · rw [mem_singleton.1 new] at ends
      cases ends
  · rw [held]
    dsimp only
    rw [← append_assoc, filterMap_put, careful.keeps unfailed kept, append_assoc]
    rfl

theorem Careful.put (careful : Careful outgoing) (sound : Sound outgoing) {message : Message} {waitWritten : Bool}
    (step : CarefulStep outgoing (.put message waitWritten)) :
    Careful (outgoing.put size message waitWritten) := by
  have none := sound.fresh outgoing.puts le_rfl
  rw [Outgoing.put]
  dsimp only
  split
  · exact { careful with }
  · rename_i running
    split
    · have settled : ∀ number, (if waitWritten = true
          then Function.update outgoing.acknowledgements outgoing.puts (some (.result false))
          else outgoing.acknowledgements) number = some .pending →
            outgoing.acknowledgements number = some .pending := by
        intro number pending
        split at pending
        · by_cases same : number = outgoing.puts
          · rw [same, Function.update_self] at pending
            cases pending
          · exact (Function.update_of_ne same ..).symm.trans pending
        · exact pending
      exact { careful with covered := fun number pending => careful.covered number (settled number pending), answered := fun done number pending => careful.answered done number (settled number pending) }
    · split
      · rename_i waits
        have live : ¬ outgoing.Done := fun done => running (step waits done)
        refine careful.enqueue message (outgoing.puts + 1) outgoing.outcomes
          (Function.update outgoing.acknowledgements outgoing.puts (some .pending)) (some outgoing.puts)
          (fun number pending => ?_) fun done => absurd done live
        by_cases same : number = outgoing.puts
        · exact Or.inr (congrArg some same.symm)
        · exact Or.inl ((Function.update_of_ne same ..).symm.trans pending)
      · exact careful.enqueue message _ _ outgoing.acknowledgements Option.none (fun number pending => Or.inl pending)
          careful.answered

theorem Careful.settle (careful : Careful outgoing)
    {outcomes : ℕ → PutOutcome} (settled : ∀ number, acknowledgements number = some .pending →
      outgoing.acknowledgements number = some .pending) :
    Careful { outgoing with acknowledgements := acknowledgements, outcomes := outcomes } where
  covered := fun number pending => careful.covered number (settled number pending)
  answered := fun done number pending => careful.answered done number (settled number pending)
  stops := careful.stops
  cancels := careful.cancels
  ends := careful.ends
  putting := careful.putting
  keeps := careful.keeps
  failing := careful.failing

theorem Careful.cancelPut (careful : Careful outgoing) (number : ℕ) :
    Careful { outgoing with
      acknowledgements := if outgoing.acknowledgements number = some .pending
        then Function.update outgoing.acknowledgements number (some .cancelled) else outgoing.acknowledgements
      outcomes := Function.update outgoing.outcomes number .cancelled } := by
  refine careful.settle fun other pending => ?_
  split at pending
  · by_cases same : other = number
    · rw [same, Function.update_self] at pending
      cases pending
    · exact (Function.update_of_ne same ..).symm.trans pending
  · exact pending

theorem Careful.resumed (careful : Careful outgoing) {number : ℕ} {value : Acknowledgement}
    (resumed : outgoing.resumed number value = some next) : Careful next := by
  cases value with
  | pending => cases resumed
  | cancelled => cases resumed
  | result value =>
    cases resumed
    exact careful.settle fun _ pending => pending
  | failure =>
    cases resumed
    exact careful.settle fun _ pending => pending

/-- The phases of `close`, where only a transport that is closed puts the end. -/
theorem Careful.setClose (careful : Careful outgoing) (number : ℕ) {phase : ClosePhase}
    (putting : phase = .putting → outgoing.closing = true) : Careful (outgoing.setClose number phase) where
  covered := careful.covered
  answered := careful.answered
  stops := careful.stops
  cancels := careful.cancels
  ends := careful.ends
  putting := fun other own => by
    by_cases same : other = number
    · rw [same] at own
      exact putting ((Function.update_self ..).symm.trans own)
    · exact careful.putting other ((Function.update_of_ne same ..).symm.trans own)
  keeps := careful.keeps
  failing := careful.failing

theorem Careful.join (careful : Careful outgoing) (number : ℕ) : Careful (outgoing.join number) := by
  refine careful.setClose number fun putting => ?_
  split at putting
  · cases putting
  · cases putting

theorem Careful.putEnd (careful : Careful outgoing) (closing : outgoing.closing = true) (number : ℕ) :
    Careful (outgoing.putEnd number) := by
  have queued : Careful { outgoing with queue := outgoing.queue ++ [{ message := none }] } := by
    refine { careful with covered := fun other pending => ?_, ends := fun _ _ _ => closing, keeps := fun unfailed kept => ?_ }
    · rcases careful.covered other pending with ⟨item, mem, own⟩
      refine ⟨item, ?_, own⟩
      rw [held]
      dsimp only
      rw [← append_assoc]
      exact mem_append_left _ mem
    · rw [held]
      dsimp only
      rw [← append_assoc, messages, filterMap_append]
      exact (careful.keeps unfailed kept).trans (congrArg (outgoing.sent ++ ·) (append_nil _).symm)
  exact queued.join number

theorem Careful.closing (careful : Careful outgoing) : Careful { outgoing with closing := true } where
  covered := careful.covered
  answered := careful.answered
  stops := fun _ => Or.inr rfl
  cancels := fun cancelled => ⟨rfl, (careful.cancels cancelled).2⟩
  ends := fun _ _ _ => rfl
  putting := fun _ _ => rfl
  keeps := careful.keeps
  failing := careful.failing

/-- `close(graceful=False)` answers the callers of what was not sent. -/
theorem Careful.discard (careful : Careful outgoing) (live : ¬ outgoing.Done) :
    Careful { outgoing with
      queue := []
      acknowledgements := answerAll (.result false) outgoing.acknowledgements outgoing.queue
      closing := true
      cancelled := true
      aborted := true } where
  covered := fun number pending => by
    rcases answerAll_cases (.result false) outgoing.acknowledgements outgoing.queue number with same | ⟨_, set⟩
    · rcases careful.covered number (same.symm.trans pending) with ⟨item, mem, own⟩
      rcases mem_append.1 mem with current | queued
      · exact ⟨item, mem_append_left _ current, own⟩
      · exact absurd pending (answerAll_own (by decide) queued own)
    · dsimp only at pending
      rw [set] at pending
      cases pending
  answered := fun done => absurd done live
  stops := fun done => absurd done live
  cancels := fun _ => ⟨rfl, rfl⟩
  ends := fun _ _ _ => rfl
  putting := fun _ _ => rfl
  keeps := fun _ kept => by cases kept
  failing := careful.failing

theorem Careful.close (careful : Careful outgoing) (size number : ℕ) (graceful : Bool) :
    Careful (outgoing.close size number graceful) := by
  rw [Outgoing.close]
  dsimp only
  split
  · split
    · exact careful.closing.join number
    · split
      · exact careful.closing.setClose number fun _ => rfl
      · exact careful.closing.putEnd rfl number
  · split
    · exact careful.closing.setClose number fun putting => by cases putting
    · rename_i live
      exact (careful.discard live).join number

theorem Careful.step (careful : Careful outgoing) (sound : Sound outgoing) {label : OutgoingStep Message}
    (allowed : CarefulStep outgoing label) (stepped : (machine size).step outgoing label = some next) :
    Careful next := by
  cases moves stepped with
  | put message waitWritten => exact careful.put sound allowed
  | cancelPut number made => exact careful.cancelPut number
  | resume answered resumed => exact careful.resumed resumed
  | aborted starting cancelled =>
    rw [CarefulStep, if_pos cancelled] at allowed
    exact careful.abort starting cancelled allowed
  | start starting =>
    have quiet : QuietEnd outgoing := by
      rw [CarefulStep] at allowed
      split at allowed
      · exact fun _ _ _ item mem => allowed item (mem_of_mem_tail mem)
      · exact allowed
    exact careful.loop sound (by rw [starting]; rfl) quiet none
  | @wake last waiting => exact careful.loop sound (by rw [waiting]; rfl) allowed last
  | sent sending => exact careful.written sound sending allowed
  | sendFails sending => exact careful.fail sending
  | interrupt suspended cancelled => exact careful.interrupted suspended cancelled
  | close number graceful => exact careful.close size number graceful
  | @closePut number putting => exact careful.putEnd (careful.putting number putting) number
  | closeReturn number => exact careful.setClose number fun putting => by cases putting

/-! ### Laws of the runs -/

/-- The messages are sent in the order of the puts and once each at most, and a put that waits returns True only
if its message was sent. -/
structure Orderly (outgoing : Outgoing Message) : Prop where
  numbered : outgoing.accepted.Pairwise fun first second => first.1 < second.1
  ordered : outgoing.sent.Sublist outgoing.accepted
  truthful : ∀ number, outgoing.outcomes number = .returned true → outgoing.acknowledgements number ≠ none →
    number ∈ outgoing.sent.map Prod.fst

/-- When the writer has ended every put that waits has its answer. The writer ends only when a send fails or the
transport is closed, and keeps every accepted message until then. -/
structure Served (outgoing : Outgoing Message) : Prop where
  answered : outgoing.Done → ∀ number < outgoing.puts, outgoing.outcomes number = .waiting →
    (∃ value, outgoing.acknowledgements number = some (.result value)) ∨
      outgoing.acknowledgements number = some .failure
  stops : outgoing.Done → outgoing.sendFailed = true ∨ outgoing.closing = true
  failing : outgoing.failed = true → outgoing.sendFailed = true
  keeps : outgoing.sendFailed = false → outgoing.aborted = false →
    outgoing.accepted = outgoing.sent ++ messages outgoing.held

theorem Sound.orderly (sound : Sound outgoing) : Orderly outgoing where
  numbered := sound.increasing
  ordered := (sublist_append_left _ _).trans sound.ordered
  truthful := fun number returned waits => sound.truthful number (sound.returned number returned waits)

theorem Careful.served (careful : Careful outgoing) (sound : Sound outgoing) : Served outgoing where
  answered := fun done number made waiting => by
    have waits := sound.waits number made waiting
    have settled := careful.answered done number
    cases own : outgoing.acknowledgements number with
    | none => exact absurd own waits.1
    | some value =>
      cases value with
      | pending => exact absurd own settled
      | cancelled => exact absurd own waits.2
      | result value => exact Or.inl ⟨value, rfl⟩
      | failure => exact Or.inr rfl
  stops := careful.stops
  failing := careful.failing
  keeps := careful.keeps

/-- Every run is orderly; a run serves its callers if no acknowledgement that is done is set, and nobody waits
behind the end of the writer or for one that never starts. -/
theorem acknowledged_of_careful (size : ℕ) {labels : List (OutgoingStep Message)}
    (ran : (machine size).run new labels = some outgoing) :
    Orderly outgoing ∧ ((machine size).Guarded CarefulStep new labels → Served outgoing) := by
  have sound : Sound outgoing := Machine.run_invariant (fun holds stepped => holds.step stepped) sound_new ran
  refine ⟨sound.orderly, fun guarded => ?_⟩
  have step {before after : Outgoing Message} {label : OutgoingStep Message} (holds : Careful before ∧ Sound before)
      (allowed : CarefulStep before label) (stepped : (machine size).step before label = some after) :
      Careful after ∧ Sound after :=
    ⟨holds.1.step holds.2 allowed stepped, holds.2.step stepped⟩
  have both : Careful outgoing ∧ Sound outgoing :=
    Machine.run_invariant_of_guarded step ⟨careful_new, sound_new⟩ guarded ran
  exact both.1.served both.2

instance (outgoing : Outgoing Message) (items : List (OutgoingItem Message)) : Decidable (Quiet outgoing items) :=
  inferInstanceAs (Decidable (∀ item ∈ items, ∀ number ∈ item.acknowledgement,
    outgoing.acknowledgements number ≠ some .pending))

instance (outgoing : Outgoing Message) : Decidable (QuietEnd outgoing) :=
  inferInstanceAs (Decidable (∀ item ∈ outgoing.queue.head?, item.message.isNone = true →
    Quiet outgoing outgoing.queue.tail))

instance decidableCarefulStep (outgoing : Outgoing Message) : ∀ label, Decidable (CarefulStep outgoing label)
  | .put _ waitWritten => inferInstanceAs (Decidable (waitWritten = true → outgoing.Done → outgoing.terminal = true))
  | .start => inferInstanceAs (Decidable (if outgoing.cancelled = true then _ else _))
  | .wake => inferInstanceAs (Decidable (QuietEnd outgoing))
  | .sent => inferInstanceAs (Decidable ((∀ item ∈ inFlight outgoing.writer, ∀ number ∈ item.acknowledgement,
      outgoing.acknowledgements number = some .pending) ∧ QuietEnd outgoing))
  | .cancelPut _ => isTrue trivial
  | .resume _ => isTrue trivial
  | .sendFails => isTrue trivial
  | .interrupt => isTrue trivial
  | .close _ _ => isTrue trivial
  | .closePut _ => isTrue trivial
  | .closeReturn _ => isTrue trivial

/-- A message is written, another one is put, and the transport is closed. -/
def writeAndClose : List (OutgoingStep ℕ) :=
  [.start, .put 7 true, .wake, .sent, .resume 0, .put 8 false, .close 0 true, .wake, .sent, .closeReturn 0]

theorem writeAndClose_served : ∃ outgoing, (machine 2).run new writeAndClose = some outgoing ∧
    outgoing.sent = [(0, 7), (1, 8)] ∧ Orderly outgoing ∧ Served outgoing := by
  have sent : ((machine 2).run new writeAndClose).map Outgoing.sent = some [(0, 7), (1, 8)] := by decide
  rcases Option.map_eq_some_iff.1 sent with ⟨outgoing, ran, own⟩
  have guarded : (machine 2).Guarded CarefulStep (new : Outgoing ℕ) writeAndClose := by decide
  have laws := acknowledged_of_careful 2 ran
  exact ⟨outgoing, ran, own, laws.1, laws.2 guarded⟩

/-- The caller of the message that is being sent is cancelled, and another message waits. -/
def cancelWhileSending : List (OutgoingStep ℕ) :=
  [.start, .put 7 true, .wake, .put 8 false, .cancelPut 0, .sent]

/-- The writer fails although no send did, and drops the other message. -/
theorem cancelled_caller_stops_writer : ¬ ∀ (size : ℕ) (labels : List (OutgoingStep ℕ)) (outgoing : Outgoing ℕ),
    (machine size).run new labels = some outgoing → Orderly outgoing ∧ Served outgoing := by
  intro all
  have ended : ((machine 2).run new cancelWhileSending).map (fun outgoing : Outgoing ℕ =>
      (outgoing.failed, outgoing.sendFailed)) = some (true, false) := by decide
  rcases Option.map_eq_some_iff.1 ended with ⟨outgoing, ran, flags⟩
  injection flags with failed unfailed
  have cause := (all 2 cancelWhileSending outgoing ran).2.failing failed
  rw [unfailed] at cause
  cases cause

end Outgoing

end Synapse.Transport
