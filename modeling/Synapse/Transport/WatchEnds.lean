import Synapse.Transport.RemoteWatch

/-!
# A remote watch does not stall

While the task of the watch runs, its failures stay below the budget. When the task has ended,
the watch is terminal and the consumer is answered without waiting: the events that are left in
the queue, the error if there is one, and then the end of the stream. The exceptions are the exits
that set no terminal state: after a reconnect that failed within the budget, on a backoff policy
that gives a bad delay, and on a cancelled reconnect.
-/

namespace Synapse.Transport

open List

variable {Payload : Type}

def Outcome.isEvent : Outcome Payload → Bool
  | .event _ => true
  | _ => false

/-- A failure of the connection or of a reconnect, which the budget counts. -/
def WatchLabel.fails : WatchLabel Payload → Bool
  | .lose | .openFails .other => true
  | _ => false

namespace RemoteEventWatch

variable {watch next : RemoteEventWatch Payload}

/-! ### What the consumer is told -/

/-- The queue ends with the marker only when nothing else is in it, and nothing but the end of the
stream follows what is not an event. -/
structure Told (watch : RemoteEventWatch Payload) : Prop where
  fresh : watch.terminal = false →
    (∀ item ∈ watch.queue, item ≠ none) ∧ watch.terminalErrorValue = none
  marker : watch.queue = [none] ∨ ∀ item ∈ watch.queue, item ≠ none
  silent : (∃ outcome ∈ watch.outcomes, outcome.isEvent = false) →
    watch.terminal = true ∧ (∀ item ∈ watch.queue, item = none) ∧
      watch.terminalErrorValue = none
  ordered : watch.outcomes.Pairwise fun earlier later => earlier.isEvent = true ∨ later = .stopped

theorem Told.congr (told : watch.Told) (queue : next.queue = watch.queue)
    (terminal : next.terminal = watch.terminal)
    (error : next.terminalErrorValue = watch.terminalErrorValue)
    (outcomes : next.outcomes = watch.outcomes) : next.Told where
  fresh := by
    rw [queue, terminal, error]
    exact told.fresh
  marker := by
    rw [queue]
    exact told.marker
  silent := by
    rw [queue, terminal, error, outcomes]
    exact told.silent
  ordered := by
    rw [outcomes]
    exact told.ordered

theorem Told.terminalError (told : watch.Told) (error : WatchError) :
    (watch.terminalError error).Told := by
  unfold RemoteEventWatch.terminalError
  split
  · exact told.congr rfl rfl rfl rfl
  · rename_i open'
    simp only [Bool.not_eq_true] at open'
    constructor
    · intro impossible
      cases impossible
    · exact told.marker
    · intro done
      have ended := told.silent done
      rw [open'] at ended
      cases ended.1
    · exact told.ordered

theorem Told.terminalEof (told : watch.Told) : watch.terminalEof.Told := by
  unfold RemoteEventWatch.terminalEof
  split
  · exact told.congr rfl rfl rfl rfl
  · constructor
    · intro impossible
      cases impossible
    · exact told.marker
    · intro done
      exact ⟨rfl, (told.silent done).2⟩
    · exact told.ordered

theorem Told.notification (told : watch.Told) (notification : Notification Payload)
    (running : watch.terminal = false) : (watch.notification notification).Told := by
  cases notification with
  | event subscription event cursor =>
    simp only [RemoteEventWatch.notification]
    split
    · exact told.terminalError .protocol
    · split
      · exact told.terminalError .protocol
      · split
        · exact told.terminalError .overflow
        · have fresh := told.fresh running
          have items : ∀ item ∈ watch.queue ++ [some event], item ≠ none := by
            intro item present
            rcases mem_append.mp present with old | last
            · exact fresh.1 item old
            · rw [mem_singleton.mp last]
              exact Option.some_ne_none event
          constructor
          · intro _
            exact ⟨items, fresh.2⟩
          · exact .inr items
          · intro done
            have ended := told.silent done
            rw [running] at ended
            cases ended.1
          · exact told.ordered
  | complete subscription cursor =>
    simp only [RemoteEventWatch.notification]
    split
    · exact told.terminalError .protocol
    · exact told.terminalEof
  | error subscription serviceCode =>
    simp only [RemoteEventWatch.notification]
    split
    · exact told.terminalError .protocol
    · split
      · exact told.terminalError .replayGap
      · exact told.terminalError (.subscription serviceCode)
  | malformed => exact told.terminalError .protocol

/-- A last outcome that is the end of the stream, or follows only events. -/
theorem ordered_append {outcomes : List (Outcome Payload)} {outcome : Outcome Payload}
    (ordered : outcomes.Pairwise fun earlier later => earlier.isEvent = true ∨ later = .stopped)
    (fits : outcome = .stopped ∨ ∀ earlier ∈ outcomes, earlier.isEvent = true) :
    (outcomes ++ [outcome]).Pairwise
      fun earlier later => earlier.isEvent = true ∨ later = .stopped := by
  rw [pairwise_append]
  refine ⟨ordered, pairwise_singleton _ _, ?_⟩
  intro earlier present later last
  rw [mem_singleton.mp last]
  rcases fits with stopped | events
  · exact .inr stopped
  · exact .inl (events earlier present)

theorem Told.events (told : watch.Told)
    (left : watch.terminalErrorValue ≠ none ∨ ∃ item ∈ watch.queue, item ≠ none) :
    ∀ outcome ∈ watch.outcomes, outcome.isEvent = true := by
  intro outcome present
  by_contra silent
  simp only [Bool.not_eq_true] at silent
  rcases told.silent ⟨outcome, present, silent⟩ with ⟨_, markers, none⟩
  rcases left with error | ⟨item, queued, event⟩
  · exact error none
  · exact event (markers item queued)

theorem Told.finish (told : watch.Told) (terminal : watch.terminal = true)
    (markers : ∀ item ∈ watch.queue, item = none) : watch.finish.Told := by
  unfold RemoteEventWatch.finish
  split
  · rename_i error found
    constructor
    · intro impossible
      rw [terminal] at impossible
      cases impossible
    · exact told.marker
    · intro _
      exact ⟨terminal, markers, rfl⟩
    · apply ordered_append told.ordered
      right
      apply told.events
      left
      rw [found]
      exact Option.some_ne_none error
  · rename_i none
    constructor
    · intro impossible
      rw [terminal] at impossible
      cases impossible
    · exact told.marker
    · intro _
      exact ⟨terminal, markers, none⟩
    · exact ordered_append told.ordered (.inl rfl)

variable {rest : List (Option (RemoteEvent Payload))} {item : Option (RemoteEvent Payload)}

theorem Told.hand (told : watch.Told) (queue : watch.queue = item :: rest) :
    (watch.hand rest item).Told := by
  have marker := told.marker
  rw [queue] at marker
  cases item with
  | some event =>
    have items : ∀ item ∈ rest, item ≠ none := by
      rcases marker with single | items
      · cases single
      · intro item present
        exact items item (mem_cons_of_mem _ present)
    have events := told.events (.inr ⟨some event, by simp [queue], Option.some_ne_none event⟩)
    constructor
    · intro running
      exact ⟨items, (told.fresh running).2⟩
    · exact .inr items
    · rintro ⟨outcome, present, silent⟩
      rcases mem_append.mp present with old | last
      · rw [events outcome old] at silent
        cases silent
      · rw [mem_singleton.mp last] at silent
        cases silent
    · exact ordered_append told.ordered (.inr events)
  | none =>
    have alone : rest = [] := by
      rcases marker with single | items
      · exact (cons.inj single).2
      · exact absurd rfl (items none mem_cons_self)
    subst alone
    have terminal : watch.terminal = true := by
      by_contra running
      simp only [Bool.not_eq_true] at running
      exact (told.fresh running).1 none (by simp [queue]) rfl
    have popped : ({ watch with queue := [], waiting := false } :
        RemoteEventWatch Payload).Told := by
      constructor
      · intro running
        exact ⟨by simp, (told.fresh running).2⟩
      · exact .inr (by simp)
      · intro done
        exact ⟨terminal, by simp, (told.silent done).2.2⟩
      · exact told.ordered
    exact popped.finish terminal (by simp)

theorem Told.anext (told : watch.Told) (stepped : watch.anext = some next) : next.Told := by
  rcases Option.ite_none_left_eq_some.mp stepped with ⟨_, stepped⟩
  split at stepped
  · rename_i empty
    split at stepped
    · rename_i terminal
      cases stepped
      exact told.finish terminal (by simp [empty])
    · cases stepped
      exact told.congr rfl rfl rfl rfl
  · rename_i queue
    cases stepped
    exact told.hand queue

theorem Told.take (told : watch.Told) (stepped : watch.take = some next) : next.Told := by
  unfold RemoteEventWatch.take at stepped
  split at stepped
  · rename_i queue
    cases stepped
    exact told.hand queue
  · cases stepped

/-! ### Where the task is -/

/-- The task goes on: the watch is not terminal and the budget is not used up. -/
def Active (watch : RemoteEventWatch Payload) : Prop :=
  watch.terminal = false ∧ watch.attempts < watch.settings.maxAttempts

def Placed (watch : RemoteEventWatch Payload) : Prop :=
  match watch.phase with
  | .receiving generation => watch.current generation = true ∧ watch.Active
  | .dropping | .sleeping | .opening => watch.Active
  | .ending _ => watch.terminal = true
  | .ended => watch.terminal = true ∧ (watch.waiting = true → watch.queue ≠ [])

/-- What holds of a watch that the consumer has not closed. -/
structure Sound (watch : RemoteEventWatch Payload) : Prop where
  told : watch.Told
  budget : watch.attempts ≤ watch.settings.maxAttempts
  placed : watch.Placed

theorem sound_entered (settings : WatchSettings) (after : ℕ) (subscription : SubscriptionId) :
    (entered settings after subscription : RemoteEventWatch Payload).Sound where
  told := by
    constructor
    · intro _
      exact ⟨by simp [entered], rfl⟩
    · exact .inr (by simp [entered])
    · rintro ⟨outcome, present, _⟩
      cases present
    · exact List.Pairwise.nil
  budget := Nat.zero_le _
  placed := ⟨rfl, rfl, settings.attempted⟩

theorem Sound.terminalError (told : watch.Told)
    (budget : watch.attempts ≤ watch.settings.maxAttempts) (running : watch.terminal = false)
    (error : WatchError) : (watch.terminalError error).Sound := by
  refine ⟨told.terminalError error, ?_, ?_⟩
  · unfold RemoteEventWatch.terminalError
    rw [running]
    exact budget
  · unfold RemoteEventWatch.terminalError
    rw [running]
    rfl

theorem Sound.terminalEof (sound : watch.Sound) (running : watch.terminal = false) :
    watch.terminalEof.Sound := by
  refine ⟨sound.told.terminalEof, ?_, ?_⟩
  · unfold RemoteEventWatch.terminalEof
    rw [running]
    exact sound.budget
  · unfold RemoteEventWatch.terminalEof
    rw [running]
    rfl

theorem Sound.receive (sound : watch.Sound) {notification : Notification Payload}
    (stepped : watch.receive notification = some next) : next.Sound := by
  unfold RemoteEventWatch.receive at stepped
  split at stepped
  · rename_i generation phase
    cases stepped
    have placed := sound.placed
    unfold Placed at placed
    rw [phase] at placed
    have running := placed.2.1
    have failing := Sound.terminalError sound.told sound.budget running
    cases notification with
    | event subscription event cursor =>
      have told := sound.told.notification (.event subscription event cursor) running
      simp only [RemoteEventWatch.notification] at told ⊢
      split
      · exact failing .protocol
      · split
        · exact failing .protocol
        · split
          · exact failing .overflow
          · refine ⟨?_, sound.budget, ?_⟩
            · simpa only [*, if_false] using told
            · unfold Placed
              rw [phase]
              exact placed
    | complete subscription cursor =>
      simp only [RemoteEventWatch.notification]
      split
      · exact failing .protocol
      · exact sound.terminalEof running
    | error subscription serviceCode =>
      simp only [RemoteEventWatch.notification]
      split
      · exact failing .protocol
      · split
        · exact failing .replayGap
        · exact failing (.subscription serviceCode)
    | malformed => exact failing .protocol
  · cases stepped

theorem Sound.lose (sound : watch.Sound) (stepped : watch.lose = some next) : next.Sound := by
  unfold RemoteEventWatch.lose at stepped
  split at stepped
  · rename_i generation phase
    have placed := sound.placed
    unfold Placed at placed
    rw [phase] at placed
    rw [if_pos placed.1] at stepped
    cases stepped
    exact ⟨sound.told.congr rfl rfl rfl rfl, sound.budget, placed.2⟩
  · cases stepped

theorem Sound.closeDone (sound : watch.Sound) (stepped : watch.closeDone = some next) :
    next.Sound := by
  have placed := sound.placed
  unfold Placed at placed
  unfold RemoteEventWatch.closeDone at stepped
  split at stepped
  · rename_i phase
    rw [phase] at placed
    split at stepped
    · cases stepped
      apply Sound.terminalError
      · exact sound.told.congr rfl rfl rfl rfl
      · exact Nat.succ_le_of_lt placed.2
      · exact placed.1
    · rename_i within
      cases stepped
      simp only [not_or, not_le] at within
      exact ⟨sound.told.congr rfl rfl rfl rfl, within.1.le, placed.1, within.1⟩
  · rename_i phase
    rw [phase] at placed
    cases stepped
    refine ⟨?_, sound.budget, placed, by simp⟩
    constructor
    · intro running
      rw [placed] at running
      cases running
    · exact .inl rfl
    · intro done
      exact ⟨placed, by simp, (sound.told.silent done).2.2⟩
    · exact sound.told.ordered
  · rename_i phase
    rw [phase] at placed
    cases stepped
    cases queue : watch.queue with
    | nil =>
      refine ⟨?_, sound.budget, placed, by simp⟩
      constructor
      · intro running
        rw [placed] at running
        cases running
      · exact .inl rfl
      · intro done
        exact ⟨placed, by simp, (sound.told.silent done).2.2⟩
      · exact sound.told.ordered
    | cons item rest =>
      refine ⟨sound.told.congr ?_ rfl rfl rfl, sound.budget, placed, by simp⟩
      simp [queue]
  · cases stepped

theorem Sound.backoffFails (sound : watch.Sound)
    (stepped : watch.backoffFails true = some next) : next.Sound := by
  have placed := sound.placed
  unfold Placed at placed
  unfold RemoteEventWatch.backoffFails at stepped
  split at stepped
  · rename_i phase
    rw [phase] at placed
    cases stepped
    exact .terminalError sound.told sound.budget placed.1 .clientClosed
  · cases stepped

theorem Sound.opened (sound : watch.Sound) {subscription : SubscriptionId} {cursor : ℕ}
    (unclosed : watch.closed = false)
    (stepped : watch.opened subscription cursor = some next) : next.Sound := by
  have placed := sound.placed
  unfold Placed at placed
  unfold RemoteEventWatch.opened at stepped
  split at stepped
  · rename_i phase
    rw [phase] at placed
    split at stepped
    · cases stepped
      exact .terminalError sound.told sound.budget placed.1 .protocol
    · cases stepped
      simp only [loop, unclosed, Bool.false_eq_true, if_false]
      refine ⟨sound.told.congr rfl rfl rfl rfl, sound.budget, ?_, placed⟩
      simp [current]
  · cases stepped

/-- The steps after which the task ends without a terminal state are left out. -/
def Careful (watch : RemoteEventWatch Payload) : WatchLabel Payload → Prop
  | .openFails .cancelled => False
  | .openFails .other => watch.settings.maxAttempts ≤ watch.attempts + 1
  | .backoffFails closing => closing = true
  | _ => True

theorem Sound.openFails (sound : watch.Sound) {error : OpenError}
    (careful : watch.Careful (.openFails error))
    (stepped : watch.openFails error = some next) : next.Sound := by
  have placed := sound.placed
  unfold Placed at placed
  unfold RemoteEventWatch.openFails at stepped
  split at stepped
  · rename_i phase
    rw [phase] at placed
    cases stepped
    exact .terminalError sound.told sound.budget placed.1 _
  · exact careful.elim
  · rename_i phase
    rw [phase] at placed
    have last : watch.settings.maxAttempts ≤ watch.attempts + 1 := careful
    rw [if_pos last] at stepped
    cases stepped
    apply Sound.terminalError
    · exact sound.told.congr rfl rfl rfl rfl
    · exact Nat.succ_le_of_lt placed.2
    · exact placed.1
  · cases stepped

@[simp]
theorem finish_queue (watch : RemoteEventWatch Payload) : watch.finish.queue = watch.queue := by
  unfold finish
  split <;> rfl

/-- A consumer that has its answer has not touched the task. -/
structure Answered (watch next : RemoteEventWatch Payload) : Prop where
  phase : next.phase = watch.phase
  terminal : next.terminal = watch.terminal
  attempts : next.attempts = watch.attempts
  settings : next.settings = watch.settings
  current : ∀ generation, next.current generation = watch.current generation
  blocked : next.waiting = true → next.queue = [] ∧ watch.terminal = false

theorem answered_finish (watch : RemoteEventWatch Payload) (idle : watch.waiting = false) :
    Answered watch watch.finish := by
  unfold finish
  split
  · exact ⟨rfl, rfl, rfl, rfl, fun _ => rfl, fun waiting => by rw [idle] at waiting; cases waiting⟩
  · exact ⟨rfl, rfl, rfl, rfl, fun _ => rfl, fun waiting => by rw [idle] at waiting; cases waiting⟩

theorem answered_hand (watch : RemoteEventWatch Payload) (item : Option (RemoteEvent Payload))
    (rest : List (Option (RemoteEvent Payload))) : Answered watch (watch.hand rest item) := by
  cases item with
  | some event =>
    exact ⟨rfl, rfl, rfl, rfl, fun _ => rfl, fun waiting => by cases waiting⟩
  | none =>
    have done := answered_finish { watch with queue := rest, waiting := false } rfl
    exact { done with }

theorem answered_anext (stepped : watch.anext = some next) : Answered watch next := by
  rcases Option.ite_none_left_eq_some.mp stepped with ⟨idle, stepped⟩
  simp only [Bool.not_eq_true] at idle
  split at stepped
  · rename_i empty
    split at stepped
    · cases stepped
      exact answered_finish watch idle
    · rename_i running
      cases stepped
      simp only [Bool.not_eq_true] at running
      exact ⟨rfl, rfl, rfl, rfl, fun _ => rfl, fun _ => ⟨empty, running⟩⟩
  · cases stepped
    exact answered_hand watch _ _

theorem answered_take (stepped : watch.take = some next) : Answered watch next := by
  unfold take at stepped
  split at stepped
  · cases stepped
    exact answered_hand watch _ _
  · cases stepped

theorem Sound.answered (sound : watch.Sound) (told : next.Told) (answered : Answered watch next) :
    next.Sound := by
  refine ⟨told, ?_, ?_⟩
  · rw [answered.attempts, answered.settings]
    exact sound.budget
  · have placed := sound.placed
    unfold Placed Active at placed ⊢
    rw [answered.phase, answered.terminal, answered.attempts, answered.settings]
    cases phase : watch.phase with
    | receiving generation =>
      simp only [phase] at placed ⊢
      rw [answered.current]
      exact placed
    | ended =>
      simp only [phase] at placed ⊢
      refine ⟨placed.1, ?_⟩
      intro waiting
      have running := (answered.blocked waiting).2
      rw [placed.1] at running
      cases running
    | _ =>
      simp only [phase] at placed ⊢
      exact placed

variable {label : WatchLabel Payload}

theorem Sound.step (sound : watch.Sound)
    (unclosed : watch.closed = false) (careful : watch.Careful label)
    (stepped : watch.step label = some next) : next.closed = true ∨ next.Sound := by
  cases label with
  | receive notification => exact .inr (sound.receive stepped)
  | lose => exact .inr (sound.lose stepped)
  | closed => exact .inr (sound.closeDone stepped)
  | slept =>
    have placed := sound.placed
    unfold Placed at placed
    simp only [RemoteEventWatch.step] at stepped
    split at stepped
    · rename_i phase
      rw [phase] at placed
      cases stepped
      exact .inr ⟨sound.told.congr rfl rfl rfl rfl, sound.budget, placed⟩
    · cases stepped
  | backoffFails closing =>
    obtain rfl : closing = true := careful
    exact .inr (sound.backoffFails stepped)
  | opened subscription cursor => exact .inr (sound.opened unclosed stepped)
  | openFails error => exact .inr (sound.openFails careful stepped)
  | next => exact .inr (sound.answered (sound.told.anext stepped) (answered_anext stepped))
  | take => exact .inr (sound.answered (sound.told.take stepped) (answered_take stepped))
  | aclose =>
    cases stepped
    left
    unfold aclose
    rw [unclosed]
    rfl

/-! ### The answers after the end -/

/-- The events one by one, the error once, and then the end of the stream. -/
def answers : List (RemoteEvent Payload) → Option WatchError → ℕ → List (Outcome Payload)
  | _, _, 0 => []
  | event :: events, error, count + 1 => .event event :: answers events error count
  | [], some error, count + 1 => .error error :: answers [] none count
  | [], none, count + 1 => .stopped :: answers [] none count

/-- The next answers that a consumer of an ended watch gets. -/
def remaining (watch : RemoteEventWatch Payload) (count : ℕ) : List (Outcome Payload) :=
  answers (watch.queue.filterMap id) watch.terminalErrorValue count

theorem remaining_of_finish (watch : RemoteEventWatch Payload)
    (events : watch.queue.filterMap id = []) (count : ℕ) :
    watch.finish.outcomes ++ watch.finish.remaining count =
      watch.outcomes ++ watch.remaining (count + 1) := by
  unfold remaining
  rw [finish_queue, events]
  unfold finish
  cases watch.terminalErrorValue with
  | some error => simp [answers]
  | none => simp [answers]

theorem remaining_of_hand (told : watch.Told) (queue : watch.queue = item :: rest) (count : ℕ) :
    (watch.hand rest item).outcomes ++ (watch.hand rest item).remaining count =
      watch.outcomes ++ watch.remaining (count + 1) := by
  cases item with
  | some event => simp [hand, remaining, queue, answers]
  | none =>
    have alone : rest = [] := by
      have marker := told.marker
      rw [queue] at marker
      rcases marker with single | items
      · exact (cons.inj single).2
      · exact absurd rfl (items none mem_cons_self)
    subst alone
    have popped := remaining_of_finish { watch with queue := [], waiting := false } rfl count
    rw [hand, popped]
    simp [remaining, queue]

/-- The watch has ended, and a consumer that still waits has something to take. -/
structure Ended (watch : RemoteEventWatch Payload) : Prop where
  told : watch.Told
  phase : watch.phase = .ended
  terminal : watch.terminal = true
  woken : watch.waiting = true → watch.queue ≠ []

/-- The call that a consumer of an ended watch makes next. -/
def consume (watch : RemoteEventWatch Payload) : WatchLabel Payload :=
  if watch.waiting then .take else .next

theorem Ended.consumed (done : watch.Ended) :
    ∃ next, watch.step watch.consume = some next ∧ next.Ended ∧
      ∀ count, next.outcomes ++ next.remaining count =
        watch.outcomes ++ watch.remaining (count + 1) := by
  have handed : ∀ (item : Option (RemoteEvent Payload)) (rest : List (Option (RemoteEvent Payload))),
      watch.queue = item :: rest → (watch.hand rest item).Ended := by
    intro item rest queue
    have answered := answered_hand watch item rest
    refine ⟨done.told.hand queue, answered.phase.trans done.phase,
      answered.terminal.trans done.terminal, ?_⟩
    intro waiting
    have running := (answered.blocked waiting).2
    rw [done.terminal] at running
    cases running
  unfold consume
  cases waiting : watch.waiting with
  | true =>
    cases queue : watch.queue with
    | nil => exact absurd queue (done.woken waiting)
    | cons item rest =>
      refine ⟨watch.hand rest item, ?_, handed item rest queue, ?_⟩
      · simp [step, take, waiting, queue]
      · exact remaining_of_hand done.told queue
  | false =>
    cases queue : watch.queue with
    | nil =>
      have answered := answered_finish watch waiting
      refine ⟨watch.finish, ?_, ⟨?_, ?_, ?_, ?_⟩, ?_⟩
      · simp [step, anext, waiting, queue, done.terminal]
      · exact done.told.finish done.terminal (by simp [queue])
      · exact answered.phase.trans done.phase
      · exact answered.terminal.trans done.terminal
      · intro waits
        have running := (answered.blocked waits).2
        rw [done.terminal] at running
        cases running
      · exact remaining_of_finish watch (by simp [queue])
    | cons item rest =>
      refine ⟨watch.hand rest item, ?_, handed item rest queue, ?_⟩
      · simp [step, anext, waiting, queue]
      · exact remaining_of_hand done.told queue

theorem eq_consume (consuming : label = .next ∨ label = .take)
    (stepped : watch.step label = some next) : label = watch.consume := by
  unfold consume
  rcases consuming with rfl | rfl
  · simp only [step, anext] at stepped
    cases waiting : watch.waiting with
    | true => simp [waiting] at stepped
    | false => rfl
  · simp only [step, take] at stepped
    cases waiting : watch.waiting with
    | true => rfl
    | false => simp [waiting] at stepped

variable {labels : List (WatchLabel Payload)} {final : RemoteEventWatch Payload}

/-- Whatever calls a consumer of an ended watch makes, it is told what is left. -/
theorem Ended.answered (done : watch.Ended) (ran : machine.run watch labels = some final)
    (consuming : ∀ label ∈ labels, label = .next ∨ label = .take) :
    final.Ended ∧ final.outcomes = watch.outcomes ++ watch.remaining labels.length := by
  induction labels generalizing watch with
  | nil =>
    obtain rfl : watch = final := by simpa using ran
    exact ⟨done, by simp [remaining, answers]⟩
  | cons label labels ih =>
    rcases Machine.run_cons.mp ran with ⟨next, stepped, rest⟩
    have first := consuming label mem_cons_self
    obtain rfl := eq_consume first stepped
    rcases done.consumed with ⟨other, again, ended, same⟩
    obtain rfl := Option.mem_unique stepped again
    rcases ih ended rest fun later present => consuming later (mem_cons_of_mem _ present)
      with ⟨finalEnded, outcomes⟩
    exact ⟨finalEnded, by rw [outcomes, same, length_cons]⟩

/-! ### Runs -/

/-- The settings are fixed, and the watch has not been closed. -/
def Kept (watch next : RemoteEventWatch Payload) : Prop :=
  next.settings = watch.settings ∧ next.closed = watch.closed

theorem terminalError_kept (watch : RemoteEventWatch Payload) (error : WatchError) :
    Kept watch (watch.terminalError error) := by
  unfold terminalError
  split <;> exact ⟨rfl, rfl⟩

theorem terminalEof_kept (watch : RemoteEventWatch Payload) :
    Kept watch watch.terminalEof := by
  unfold terminalEof
  split <;> exact ⟨rfl, rfl⟩

theorem loop_kept (watch : RemoteEventWatch Payload) : Kept watch watch.loop := by
  unfold loop
  split
  · exact ⟨rfl, rfl⟩
  · split <;> exact ⟨rfl, rfl⟩

theorem notification_kept (watch : RemoteEventWatch Payload) (notification : Notification Payload) :
    Kept watch (watch.notification notification) := by
  cases notification with
  | event subscription event cursor =>
    simp only [RemoteEventWatch.notification]
    split
    · exact terminalError_kept watch .protocol
    · split
      · exact terminalError_kept watch .protocol
      · split
        · exact terminalError_kept watch .overflow
        · exact ⟨rfl, rfl⟩
  | complete subscription cursor =>
    simp only [RemoteEventWatch.notification]
    split
    · exact terminalError_kept watch .protocol
    · exact terminalEof_kept watch
  | error subscription serviceCode =>
    simp only [RemoteEventWatch.notification]
    split
    · exact terminalError_kept watch .protocol
    · split
      · exact terminalError_kept watch .replayGap
      · exact terminalError_kept watch (.subscription serviceCode)
  | malformed => exact terminalError_kept watch .protocol

theorem finish_kept (watch : RemoteEventWatch Payload) : Kept watch watch.finish := by
  unfold finish
  split <;> exact ⟨rfl, rfl⟩

theorem hand_kept (watch : RemoteEventWatch Payload) (item : Option (RemoteEvent Payload))
    (rest : List (Option (RemoteEvent Payload))) :
    Kept watch (watch.hand rest item) := by
  cases item with
  | some event => exact ⟨rfl, rfl⟩
  | none => exact finish_kept { watch with queue := rest, waiting := false }

/-- Only `aclose` closes the watch. -/
theorem kept_of_step (stepped : watch.step label = some next) :
    Kept watch next ∨ next.settings = watch.settings ∧ next.closed = true := by
  cases label with
  | receive notification =>
    simp only [step, receive] at stepped
    split at stepped
    · cases stepped
      exact .inl (notification_kept watch notification)
    · cases stepped
  | lose =>
    simp only [step, lose] at stepped
    split at stepped
    · split at stepped
      · cases stepped
        exact .inl ⟨rfl, rfl⟩
      · cases stepped
        exact .inl ⟨rfl, rfl⟩
    · cases stepped
  | closed =>
    simp only [step, closeDone] at stepped
    split at stepped
    · split at stepped
      · cases stepped
        exact .inl (terminalError_kept _ _)
      · cases stepped
        exact .inl ⟨rfl, rfl⟩
    · cases stepped
      exact .inl ⟨rfl, rfl⟩
    · cases stepped
      exact .inl ⟨rfl, rfl⟩
    · cases stepped
  | slept =>
    simp only [step] at stepped
    split at stepped
    · cases stepped
      exact .inl ⟨rfl, rfl⟩
    · cases stepped
  | backoffFails closing =>
    simp only [step, backoffFails] at stepped
    split at stepped
    · split at stepped
      · cases stepped
        exact .inl (terminalError_kept _ _)
      · cases stepped
        exact .inl ⟨rfl, rfl⟩
    · cases stepped
  | opened subscription cursor =>
    simp only [step, opened] at stepped
    split at stepped
    · split at stepped
      · cases stepped
        exact .inl (terminalError_kept _ _)
      · cases stepped
        exact .inl (loop_kept _)
    · cases stepped
  | openFails error =>
    simp only [step, openFails] at stepped
    split at stepped
    · cases stepped
      exact .inl (terminalError_kept _ _)
    · cases stepped
      exact .inl ⟨rfl, rfl⟩
    · split at stepped
      · cases stepped
        exact .inl (terminalError_kept _ _)
      · cases stepped
        exact .inl (loop_kept _)
    · cases stepped
  | next =>
    simp only [step, anext] at stepped
    rcases Option.ite_none_left_eq_some.mp stepped with ⟨_, stepped⟩
    split at stepped
    · split at stepped
      · cases stepped
        exact .inl (finish_kept watch)
      · cases stepped
        exact .inl ⟨rfl, rfl⟩
    · cases stepped
      exact .inl (hand_kept watch _ _)
  | take =>
    simp only [step, take] at stepped
    split at stepped
    · cases stepped
      exact .inl (hand_kept watch _ _)
    · cases stepped
  | aclose =>
    cases stepped
    unfold aclose
    split
    · exact .inl ⟨rfl, rfl⟩
    · exact .inr ⟨rfl, rfl⟩

/-- The failures so far. The last one is counted once its connection is closed. -/
def failures (watch : RemoteEventWatch Payload) : ℕ :=
  watch.attempts + if watch.phase = .dropping then 1 else 0

theorem failures_terminalError (running : watch.terminal = false) (error : WatchError) :
    (watch.terminalError error).failures = watch.attempts := by
  unfold terminalError
  rw [running]
  rfl

theorem failures_loop (watch : RemoteEventWatch Payload) : watch.loop.failures = watch.attempts := by
  unfold loop
  split
  · rfl
  · split <;> rfl

theorem failures_notification (running : watch.terminal = false)
    {generation : ℕ} (phase : watch.phase = .receiving generation)
    (notification : Notification Payload) :
    (watch.notification notification).failures = watch.attempts := by
  have failing := failures_terminalError running
  cases notification with
  | event subscription event cursor =>
    simp only [RemoteEventWatch.notification]
    split
    · exact failing .protocol
    · split
      · exact failing .protocol
      · split
        · exact failing .overflow
        · simp [failures, phase]
  | complete subscription cursor =>
    simp only [RemoteEventWatch.notification]
    split
    · exact failing .protocol
    · unfold terminalEof
      rw [running]
      rfl
  | error subscription serviceCode =>
    simp only [RemoteEventWatch.notification]
    split
    · exact failing .protocol
    · split
      · exact failing .replayGap
      · exact failing (.subscription serviceCode)
  | malformed => exact failing .protocol

theorem Answered.failures_eq (answered : Answered watch next) :
    next.failures = watch.failures := by
  unfold failures
  rw [answered.attempts, answered.phase]

theorem Sound.failures_step (sound : watch.Sound)
    (unclosed : watch.closed = false) (stillUnclosed : next.closed = false)
    (stepped : watch.step label = some next) :
    watch.failures + label.fails.toNat = next.failures := by
  have placed := sound.placed
  unfold Placed at placed
  cases label with
  | receive notification =>
    simp only [RemoteEventWatch.step, RemoteEventWatch.receive] at stepped
    split at stepped
    · rename_i generation phase
      rw [phase] at placed
      cases stepped
      rw [failures_notification placed.2.1 phase]
      simp [failures, phase, WatchLabel.fails]
    · cases stepped
  | lose =>
    simp only [RemoteEventWatch.step, RemoteEventWatch.lose] at stepped
    split at stepped
    · rename_i generation phase
      rw [phase] at placed
      rw [if_pos placed.1] at stepped
      cases stepped
      simp [failures, phase, WatchLabel.fails]
    · cases stepped
  | closed =>
    simp only [RemoteEventWatch.step, RemoteEventWatch.closeDone] at stepped
    split at stepped
    · rename_i phase
      rw [phase] at placed
      split at stepped
      · have bumped := @failures_terminalError _
          { watch with attempts := watch.attempts + 1 } placed.1 .connectionLost
        cases stepped
        rw [bumped]
        simp [failures, phase, WatchLabel.fails]
      · cases stepped
        simp [failures, phase, WatchLabel.fails]
    · rename_i phase
      cases stepped
      simp [failures, phase, WatchLabel.fails]
    · rename_i phase
      cases stepped
      simp [failures, phase, WatchLabel.fails]
    · cases stepped
  | slept =>
    simp only [RemoteEventWatch.step] at stepped
    split at stepped
    · rename_i phase
      cases stepped
      simp [failures, phase, WatchLabel.fails]
    · cases stepped
  | backoffFails closing =>
    simp only [RemoteEventWatch.step, RemoteEventWatch.backoffFails] at stepped
    split at stepped
    · rename_i phase
      rw [phase] at placed
      split at stepped
      · cases stepped
        rw [failures_terminalError placed.1]
        simp [failures, phase, WatchLabel.fails]
      · cases stepped
        simp [failures, phase, WatchLabel.fails]
    · cases stepped
  | opened subscription cursor =>
    simp only [RemoteEventWatch.step, RemoteEventWatch.opened] at stepped
    split at stepped
    · rename_i phase
      rw [phase] at placed
      split at stepped
      · cases stepped
        rw [failures_terminalError placed.1]
        simp [failures, phase, WatchLabel.fails]
      · cases stepped
        rw [failures_loop]
        simp [failures, phase, WatchLabel.fails]
    · cases stepped
  | openFails error =>
    simp only [RemoteEventWatch.step, RemoteEventWatch.openFails] at stepped
    split at stepped
    · rename_i phase
      rw [phase] at placed
      cases stepped
      rw [failures_terminalError placed.1]
      simp [failures, phase, WatchLabel.fails]
    · rename_i phase
      cases stepped
      simp [failures, phase, WatchLabel.fails]
    · rename_i phase
      rw [phase] at placed
      split at stepped
      · have bumped := @failures_terminalError _
          { watch with attempts := watch.attempts + 1 } placed.1 .connectionLost
        cases stepped
        rw [bumped]
        simp [failures, phase, WatchLabel.fails]
      · cases stepped
        rw [failures_loop]
        simp [failures, phase, WatchLabel.fails]
    · cases stepped
  | next =>
    rw [(answered_anext stepped).failures_eq]
    simp [WatchLabel.fails]
  | take =>
    rw [(answered_take stepped).failures_eq]
    simp [WatchLabel.fails]
  | aclose =>
    cases stepped
    simp [aclose, unclosed] at stillUnclosed

theorem Sound.failures_le (sound : watch.Sound) :
    watch.failures ≤ watch.settings.maxAttempts := by
  have placed := sound.placed
  have budget := sound.budget
  unfold Placed at placed
  unfold failures
  split
  · rename_i phase
    rw [phase] at placed
    exact placed.2
  · exact budget

theorem Sound.run (sound : watch.Sound) (unclosed : watch.closed = false)
    (guarded : machine.Guarded Careful watch labels)
    (ran : machine.run watch labels = some final) (finalUnclosed : final.closed = false) :
    final.Sound ∧ watch.failures + labels.countP (·.fails) = final.failures := by
  induction labels generalizing watch with
  | nil =>
    obtain rfl : watch = final := by simpa using ran
    exact ⟨sound, by simp⟩
  | cons label labels ih =>
    rcases Machine.run_cons.mp ran with ⟨next, stepped, rest⟩
    have stays : next.closed = false := by
      by_contra closed
      simp only [Bool.not_eq_false] at closed
      have later := @Machine.run_invariant _ _ machine
        (fun state : RemoteEventWatch Payload => state.closed = true)
        (fun closed stepped => (kept_of_step stepped).elim (·.2.trans closed) (·.2))
        _ _ labels closed rest
      rw [finalUnclosed] at later
      cases later
    have nextSound : next.Sound := by
      rcases sound.step unclosed guarded.1 stepped with closed | nextSound
      · rw [stays] at closed
        cases closed
      · exact nextSound
    have counted := sound.failures_step unclosed stays stepped
    rcases ih nextSound stays (guarded.2 next stepped) rest with ⟨finalSound, total⟩
    refine ⟨finalSound, ?_⟩
    rw [← total, ← counted, countP_cons, Nat.add_assoc, Nat.add_comm (labels.countP _)]
    cases label.fails <;> rfl

/-- In a run without the silent exits the failures stay within the budget. When the task has
ended and nobody has closed the watch, the watch is terminal, a consumer can go on, and whatever
calls it makes are answered: by the events that are left, the error, and the end of the stream. -/
theorem answered_of_careful {settings : WatchSettings} {after : ℕ}
    {subscription : SubscriptionId} {labels : List (WatchLabel Payload)}
    (guarded : machine.Guarded Careful (entered settings after subscription) labels)
    (ran : machine.run (entered settings after subscription) labels = some watch)
    (unclosed : watch.closed = false) :
    labels.countP (·.fails) ≤ settings.maxAttempts ∧
      (watch.phase = .ended →
        watch.terminal = true ∧
        (watch.outcomes.Pairwise fun earlier later =>
          earlier.isEvent = true ∨ later = .stopped) ∧
        (∃ next, watch.step watch.consume = some next) ∧
        ∀ calls final, (∀ label ∈ calls, label = .next ∨ label = .take) →
          machine.run watch calls = some final →
          (∃ next, final.step final.consume = some next) ∧
            final.outcomes = watch.outcomes ++ watch.remaining calls.length) := by
  rcases Sound.run (sound_entered settings after subscription) rfl guarded ran unclosed with
    ⟨sound, counted⟩
  have settled : watch.settings = settings :=
    @Machine.run_invariant _ _ machine
      (fun state : RemoteEventWatch Payload => state.settings = settings)
      (fun same stepped => (kept_of_step stepped).elim (·.1.trans same) (·.1.trans same))
      _ _ labels rfl ran
  constructor
  · have within := sound.failures_le
    rw [settled] at within
    omega
  · intro phase
    have placed := sound.placed
    unfold Placed at placed
    rw [phase] at placed
    have done : watch.Ended := ⟨sound.told, phase, placed.1, placed.2⟩
    refine ⟨placed.1, sound.told.ordered, ?_, ?_⟩
    · rcases done.consumed with ⟨next, stepped, _⟩
      exact ⟨next, stepped⟩
    · intro calls final consuming called
      rcases done.answered called consuming with ⟨finalDone, outcomes⟩
      rcases finalDone.consumed with ⟨next, stepped, _⟩
      exact ⟨⟨next, stepped⟩, outcomes⟩

/-- A client with three attempts and room for two events. -/
def smallSettings : WatchSettings := ⟨3, 2, by decide, by decide⟩

/-- An event arrives, the connection is lost and opened again, and the server completes. -/
theorem answered_of_careful_completed : ∃ watch : RemoteEventWatch ℕ,
    machine.run (entered smallSettings 0 7)
      [.receive (.event 7 ⟨1, 10⟩ 1), .lose, .closed, .slept, .opened 8 1,
        .receive (.complete 8 1), .closed] = some watch ∧
    ∃ next, watch.step watch.consume = some next := by
  have reached : ∃ watch : RemoteEventWatch ℕ,
      machine.run (entered smallSettings 0 7)
        [.receive (.event 7 ⟨1, 10⟩ 1), .lose, .closed, .slept, .opened 8 1,
          .receive (.complete 8 1), .closed] = some watch ∧
      watch.phase = .ended ∧ watch.closed = false := by
    decide
  rcases reached with ⟨watch, ran, phase, unclosed⟩
  refine ⟨watch, ran, ?_⟩
  have guarded : machine.Guarded Careful (entered smallSettings 0 7 : RemoteEventWatch ℕ)
      [.receive (.event 7 ⟨1, 10⟩ 1), .lose, .closed, .slept, .opened 8 1,
        .receive (.complete 8 1), .closed] := by
    simp [Machine.Guarded, Careful]
  exact ((answered_of_careful guarded ran unclosed).2 phase).2.2.1

/-- The first reconnect fails while the budget is three: the task ends, the watch is not terminal,
and a consumer that calls `__anext__` waits with nothing left that could wake it. -/
theorem watch_stalls : ∃ watch : RemoteEventWatch ℕ,
    machine.run (entered smallSettings 0 7) [.lose, .closed, .slept, .openFails .other, .next] =
        some watch ∧
      watch.phase = .ended ∧ watch.closed = false ∧ watch.terminal = false ∧
      watch.waiting = true ∧ watch.step .take = none := by
  decide

end RemoteEventWatch

end Synapse.Transport
