import Synapse.Steer.Queue

/-!
# The order of steering notifications

At most one thread delivers. What it still has to deliver and what is queued behind it are the snapshots that
a listener has not received, so every listener receives them in the order in which the queue changed.
-/

namespace Synapse.Steer

open List

universe u v

variable {Listener : Type u} {Thread : Type v} [DecidableEq Listener]
  {equal : Listener → Listener → Bool}

/-- A thread stops a listener from being notified. -/
def Label.Removes (me : Listener) : Label Listener Thread → Prop
  | .call _ (.removeListener callback) => callback = me
  | _ => False

/-! ### The steps -/

/-- What a step of a thread does to the queue, to the thread and to the listeners. -/
inductive Effect (queue : SteerQueue Listener) (received : Listener → List (List Text))
    (label : Label Listener Thread) :
    Phase Listener → SteerQueue Listener → Phase Listener → (Listener → List (List Text)) → Prop
  | kept {phase after} (quiet : phase.dispatches = false) (still : after.dispatches = false) :
      Effect queue received label phase queue after received
  | listened {listeners distinct} (registered : ∀ me ∈ queue.listeners, ¬ label.Removes me → me ∈ listeners) :
      Effect queue received label .idle { queue with listeners := listeners, distinct := distinct } .idle received
  | changed {items silent after} (different : items ≠ queue.items)
      (later : silent = true ∨ queue.notifying = true) (still : after.dispatches = false) :
      Effect queue received label .idle (SteerQueue.queueNotification silent { queue with items := items })
        after received
  | claimed {items} (different : items ≠ queue.items) (free : queue.notifying = false) :
      Effect queue received label .idle
        { SteerQueue.queueNotification false { queue with items := items } with notifying := true }
        .dispatching received
  | began {phase} (quiet : phase.dispatches = false) (free : queue.notifying = false) :
      Effect queue received label phase { queue with notifying := true } .dispatching received
  | ended (empty : queue.pendingNotifications = []) :
      Effect queue received label .dispatching { queue with notifying := false } .idle received
  | taken {notification rest} (first : queue.pendingNotifications = notification :: rest) :
      Effect queue received label .dispatching { queue with pendingNotifications := rest }
        (.delivering notification.snapshot notification.listeners) received
  | called {snapshot callback rest} :
      Effect queue received label (.delivering snapshot (callback :: rest)) queue (.delivering snapshot rest)
        (Function.update received callback (received callback ++ [snapshot]))
  | finished {snapshot} : Effect queue received label (.delivering snapshot []) queue .dispatching received

section

variable {queue : SteerQueue Listener} {received : Listener → List (List Text)}
  {label : Label Listener Thread} {items : List Text}

theorem effect_enqueue (different : items ≠ queue.items) : Effect queue received label .idle
    (SteerQueue.enqueueNotification { queue with items := items }).1
    (.after (SteerQueue.enqueueNotification { queue with items := items }).2) received := by
  unfold SteerQueue.enqueueNotification
  by_cases notifying : ({ queue with items := items } : SteerQueue Listener).notifying = true
  · rw [if_pos notifying]
    exact .changed different (Or.inr notifying) rfl
  · rw [if_neg notifying]
    exact .claimed different (Bool.eq_false_of_not_eq_true notifying)

theorem effect_pushSilent (text : Option Text) {after : Phase Listener} (still : after.dispatches = false) :
    Effect queue received label .idle (queue.pushSilent text).1 after received := by
  unfold SteerQueue.pushSilent
  dsimp only
  split
  · exact .kept rfl still
  · exact .changed (by simp) (Or.inl rfl) still

theorem effect_dispatchPending {phase : Phase Listener} (quiet : phase.dispatches = false) :
    Effect queue received label phase queue.dispatchPending.1 (.after queue.dispatchPending.2) received := by
  unfold SteerQueue.dispatchPending
  split
  · exact .kept quiet rfl
  · rename_i free
    rw [not_or, Bool.not_eq_true] at free
    exact .began quiet free.2

theorem effect_drain : Effect queue received label .idle queue.drain.1 (.after queue.drain.2.2) received := by
  unfold SteerQueue.drain
  split
  · exact .kept rfl rfl
  · rename_i filled
    exact effect_enqueue (Ne.symm filled)

theorem effect_clear : Effect queue received label .idle queue.clear.1 (.after queue.clear.2.2) received := by
  unfold SteerQueue.clear
  split
  · exact .kept rfl rfl
  · rename_i filled
    exact effect_enqueue (Ne.symm filled)

theorem effect_removeAt (index : ℤ) : Effect queue received label .idle (queue.removeAt index).1
    (.after (queue.removeAt index).2.2) received := by
  unfold SteerQueue.removeAt
  split
  · exact .kept rfl rfl
  · rename_i inside
    refine effect_enqueue fun same => ?_
    have shorter := congrArg List.length same
    rw [length_eraseIdx_of_lt (by omega)] at shorter
    omega

theorem effect_enter (thread : Thread) (call : Call Listener) : Effect queue received (.call thread call) .idle
    (call.enter equal queue).1 (call.enter equal queue).2 received := by
  cases call with
  | addListener callback =>
    dsimp only [Call.enter]
    unfold SteerQueue.addListener
    split
    · exact .kept rfl rfl
    · exact .listened fun me mem _ => mem_append_left _ mem
  | removeListener callback =>
    refine .listened fun me mem stays => mem_filter.2 ⟨mem, ?_⟩
    exact decide_eq_true fun same => stays same.symm
  | push text => exact effect_pushSilent text rfl
  | pushSilent text => exact effect_pushSilent text rfl
  | drain => exact effect_drain
  | clear => exact effect_clear
  | clearSilent =>
    dsimp only [Call.enter]
    unfold SteerQueue.clearSilent
    split
    · exact .kept rfl rfl
    · rename_i filled
      exact .changed (Ne.symm filled) (Or.inl rfl) rfl
  | removeAt index => exact effect_removeAt index
  | dispatchPending => exact effect_dispatchPending rfl

end

variable [DecidableEq Thread] {system next : System Listener Thread} {label : Label Listener Thread}

theorem step_effect (stepped : System.step equal system label = some next) :
    ∃ thread after, next.threads = Function.update system.threads thread after ∧
      Effect system.queue system.received label (system.threads thread) next.queue after next.received := by
  cases label with
  | call thread call =>
    simp only [System.step] at stepped
    split at stepped
    · rename_i idle
      cases stepped
      refine ⟨thread, _, rfl, ?_⟩
      rw [idle]
      exact effect_enter thread call
    · cases stepped
  | goOn thread =>
    simp only [System.step, System.goOn] at stepped
    split at stepped
    · cases stepped
    · rename_i pushed
      cases stepped
      refine ⟨thread, _, rfl, ?_⟩
      rw [pushed]
      exact effect_dispatchPending rfl
    · rename_i dispatching
      cases stepped
      refine ⟨thread, _, rfl, ?_⟩
      rw [dispatching]
      unfold SteerQueue.nextNotification
      split
      · rename_i empty
        exact .ended empty
      · rename_i notification rest first
        exact .taken first
    · rename_i snapshot delivering
      cases stepped
      exact ⟨thread, _, rfl, delivering ▸ .finished⟩
    · rename_i snapshot callback rest delivering
      cases stepped
      exact ⟨thread, _, rfl, delivering ▸ .called⟩

/-! ### The invariant -/

/-- The snapshot that a thread still has to deliver to a listener -/
def Phase.unsent (me : Listener) : Phase Listener → List (List Text)
  | .idle | .pushed | .dispatching => []
  | .delivering snapshot listeners => if me ∈ listeners then [snapshot] else []

/-- The listeners that a thread still calls -/
def Phase.listeners : Phase Listener → List Listener
  | .idle | .pushed | .dispatching => []
  | .delivering _ listeners => listeners

/-- What a listener has received and what is on its way to it are the changes of the queue in order. -/
inductive Delivery (me : Listener) (changes : List (List Text)) (system : System Listener Thread) : Prop
  | resting (free : system.queue.notifying = false) (quiet : ∀ thread, (system.threads thread).dispatches = false)
      (silent : ∀ notification ∈ system.queue.pendingNotifications, notification.silent = true)
      (told : system.received me ++ system.queue.pendingNotifications.map (·.snapshot) = changes)
  | running (taken : system.queue.notifying = true) (thread : Thread)
      (dispatches : (system.threads thread).dispatches = true)
      (quiet : ∀ other, other ≠ thread → (system.threads other).dispatches = false)
      (once : (system.threads thread).listeners.Nodup)
      (told : system.received me ++ (system.threads thread).unsent me ++
        system.queue.pendingNotifications.map (·.snapshot) = changes)

structure Ordered (me : Listener) (items : List Text) (changes : List (List Text))
    (system : System Listener Thread) : Prop where
  registered : me ∈ system.queue.listeners
  addressed : ∀ notification ∈ system.queue.pendingNotifications,
    me ∈ notification.listeners ∧ notification.listeners.Nodup
  delivery : Delivery me changes system
  current : (changes.getLast?).getD items = system.queue.items

/-- The items after a step, if it changed them -/
def change (system next : System Listener Thread) : List (List Text) :=
  if next.queue.items = system.queue.items then [] else [next.queue.items]

variable {me : Listener} {items : List Text} {changes : List (List Text)}

section

omit [DecidableEq Listener] [DecidableEq Thread]

theorem change_of_eq (same : next.queue.items = system.queue.items) : change system next = [] := if_pos same

theorem change_of_ne (different : next.queue.items ≠ system.queue.items) :
    change system next = [next.queue.items] := if_neg different

theorem thread_eq {thread other : Thread} {phases : Thread → Phase Listener}
    (quiet : ∀ other, other ≠ thread → (phases other).dispatches = false)
    (dispatches : (phases other).dispatches = true) : other = thread := by
  by_contra different
  rw [quiet other different] at dispatches
  cases dispatches

end

variable {thread : Thread} {after : Phase Listener}

omit [DecidableEq Listener] in
theorem update_quiet {phases : Thread → Phase Listener}
    (quiet : ∀ other, other ≠ thread → (phases other).dispatches = false) (still : after.dispatches = false)
    (other : Thread) : (Function.update phases thread after other).dispatches = false := by
  by_cases same : other = thread
  · rw [same, Function.update_self, still]
  · rw [Function.update_of_ne same, quiet other same]

/-- A step between quiet phases that queues some notifications leaves the delivery in order. -/
theorem Delivery.extend (delivery : Delivery me changes system)
    (more : List (Notification Listener)) (threads : next.threads = Function.update system.threads thread after)
    (quiet : (system.threads thread).dispatches = false) (still : after.dispatches = false)
    (received : next.received = system.received) (notifying : next.queue.notifying = system.queue.notifying)
    (queued : next.queue.pendingNotifications = system.queue.pendingNotifications ++ more)
    (later : system.queue.notifying = true ∨ ∀ notification ∈ more, notification.silent = true) :
    Delivery me (changes ++ more.map (·.snapshot)) next := by
  cases delivery with
  | resting free calm silent told =>
    refine .resting (notifying.trans free) ?_ ?_ ?_
    · rw [threads]
      exact update_quiet (fun other _ => calm other) still
    · rw [queued]
      intro notification mem
      rcases mem_append.1 mem with before | new
      · exact silent notification before
      · rcases later with taken | all
        · rw [free] at taken
          cases taken
        · exact all notification new
    · rw [received, queued, map_append, ← append_assoc, told]
  | running taken drainer dispatches others once told =>
    have different : drainer ≠ thread := by
      rintro rfl
      rw [quiet] at dispatches
      cases dispatches
    have phase : next.threads drainer = system.threads drainer := by
      rw [threads, Function.update_of_ne different]
    refine .running (notifying.trans taken) drainer (by rw [phase, dispatches]) ?_ (by rw [phase]; exact once) ?_
    · intro other away
      rw [threads]
      by_cases same : other = thread
      · rw [same, Function.update_self, still]
      · rw [Function.update_of_ne same, others other away]
    · rw [phase, received, queued, map_append, ← append_assoc, told]

theorem Delivery.begin (delivery : Delivery me changes system) (more : List (Notification Listener))
    (threads : next.threads = Function.update system.threads thread .dispatching)
    (free : system.queue.notifying = false) (received : next.received = system.received)
    (taken : next.queue.notifying = true)
    (queued : next.queue.pendingNotifications = system.queue.pendingNotifications ++ more) :
    Delivery me (changes ++ more.map (·.snapshot)) next := by
  cases delivery with
  | running claimed =>
    rw [free] at claimed
    cases claimed
  | resting _ calm _ told =>
    have phase : next.threads thread = .dispatching := by rw [threads, Function.update_self]
    refine .running taken thread (by rw [phase]; rfl) ?_ (by rw [phase]; exact nodup_nil) ?_
    · intro other away
      rw [threads, Function.update_of_ne away, calm other]
    · rw [phase, received, queued, map_append, Phase.unsent, append_nil, ← append_assoc, told]

theorem Delivery.advance
    (delivery : Delivery me changes system) (threads : next.threads = Function.update system.threads thread after)
    (dispatches : (system.threads thread).dispatches = true) (goes : after.dispatches = true)
    (notifying : next.queue.notifying = system.queue.notifying)
    (once : (system.threads thread).listeners.Nodup → after.listeners.Nodup)
    (told : (system.threads thread).listeners.Nodup → next.received me ++ after.unsent me ++
      next.queue.pendingNotifications.map (·.snapshot) = system.received me ++
        (system.threads thread).unsent me ++ system.queue.pendingNotifications.map (·.snapshot)) :
    Delivery me changes next := by
  cases delivery with
  | resting _ calm =>
    rw [calm thread] at dispatches
    cases dispatches
  | running taken drainer _ others distinct all =>
    obtain rfl := thread_eq others dispatches
    have phase : next.threads thread = after := by rw [threads, Function.update_self]
    refine .running (notifying.trans taken) thread (by rw [phase, goes]) ?_ (by rw [phase]; exact once distinct) ?_
    · intro other away
      rw [threads, Function.update_of_ne away, others other away]
    · rw [phase, told distinct, all]

theorem Delivery.stop (delivery : Delivery me changes system)
    (threads : next.threads = Function.update system.threads thread .idle)
    (dispatching : system.threads thread = .dispatching) (empty : system.queue.pendingNotifications = [])
    (free : next.queue.notifying = false) (received : next.received = system.received)
    (queued : next.queue.pendingNotifications = system.queue.pendingNotifications) :
    Delivery me changes next := by
  cases delivery with
  | resting _ calm =>
    have quiet := calm thread
    rw [dispatching] at quiet
    cases quiet
  | running _ drainer _ others _ told =>
    obtain rfl := thread_eq others (by rw [dispatching]; rfl : (system.threads thread).dispatches = true)
    rw [dispatching, empty, Phase.unsent, append_nil] at told
    refine .resting free ?_ ?_ ?_
    · rw [threads]
      exact update_quiet others rfl
    · rw [queued, empty]
      exact fun notification mem => absurd mem not_mem_nil
    · rw [received, queued, empty, told]

theorem Delivery.step (delivery : Delivery me changes system)
    (addressed : ∀ notification ∈ system.queue.pendingNotifications,
      me ∈ notification.listeners ∧ notification.listeners.Nodup)
    (stepped : System.step equal system label = some next) :
    Delivery me (changes ++ change system next) next := by
  rcases step_effect stepped with ⟨thread, after, threads, effect⟩
  generalize before : system.threads thread = phase at effect
  generalize reached : next.queue = queue at effect
  generalize heard : next.received = received at effect
  cases effect with
  | kept quiet still =>
    rw [change_of_eq (by rw [reached])]
    exact delivery.extend [] threads (by rw [before, quiet]) still heard (by rw [reached])
      (by rw [reached, append_nil]) (Or.inr fun _ mem => absurd mem not_mem_nil)
  | listened =>
    rw [change_of_eq (by rw [reached])]
    exact delivery.extend [] threads (by rw [before]; rfl) rfl heard (by rw [reached])
      (by rw [reached, append_nil]) (Or.inr fun _ mem => absurd mem not_mem_nil)
  | @changed items silent _ different later still =>
    have own := delivery.extend [⟨items, system.queue.listeners, silent⟩] threads
      (by rw [before]; rfl) still heard (by rw [reached]; rfl) (by rw [reached]; rfl) (by
        rcases later with quiet | taken
        · exact Or.inr fun _ mem => mem_singleton.1 mem ▸ quiet
        · exact Or.inl taken)
    rw [change_of_ne (by rw [reached]; exact different), reached]
    exact own
  | @claimed items different free =>
    have own := delivery.begin [⟨items, system.queue.listeners, false⟩] threads free heard
      (by rw [reached]) (by rw [reached]; rfl)
    rw [change_of_ne (by rw [reached]; exact different), reached]
    exact own
  | began _ free =>
    rw [change_of_eq (by rw [reached])]
    exact delivery.begin [] threads free heard (by rw [reached])
      (by rw [reached, append_nil])
  | ended empty =>
    rw [change_of_eq (by rw [reached]), append_nil]
    exact delivery.stop threads before empty (by rw [reached]) heard (by rw [reached])
  | @taken notification rest first =>
    have own := addressed notification (first ▸ mem_cons_self)
    rw [change_of_eq (by rw [reached]), append_nil]
    refine delivery.advance threads (by rw [before]; rfl) rfl (by rw [reached]) (fun _ => own.2) fun _ => ?_
    rw [before, reached, heard, first, map_cons, Phase.unsent, Phase.unsent, if_pos own.1,
      append_nil, append_assoc]
    rfl
  | @called snapshot callback rest =>
    rw [change_of_eq (by rw [reached]), append_nil]
    refine delivery.advance threads (by rw [before]; rfl) rfl (by rw [reached]) ?_ fun once => ?_
    · rw [before]
      exact fun once => once.of_cons
    · rw [before] at once
      rw [before, reached, heard, Phase.unsent, Phase.unsent]
      by_cases own : me = callback
      · subst own
        have gone : me ∉ rest := (nodup_cons.1 once).1
        rw [Function.update_self, if_neg gone, if_pos mem_cons_self, append_nil]
      · have same : me ∈ callback :: rest ↔ me ∈ rest := by rw [mem_cons, or_iff_right own]
        rw [Function.update_of_ne own]
        simp only [same]
  | @finished snapshot =>
    rw [change_of_eq (by rw [reached]), append_nil]
    refine delivery.advance threads (by rw [before]; rfl) rfl (by rw [reached]) (fun _ => nodup_nil)
      fun _ => ?_
    rw [before, reached, heard, Phase.unsent, Phase.unsent, if_neg not_mem_nil]

theorem Ordered.step (ordered : Ordered me items changes system) (stays : ¬ label.Removes me)
    (stepped : System.step equal system label = some next) :
    Ordered me items (changes ++ change system next) next := by
  have delivery := ordered.delivery.step ordered.addressed stepped
  rcases step_effect stepped with ⟨thread, after, threads, effect⟩
  generalize system.threads thread = phase at effect
  generalize next.received = received at effect
  refine ⟨?_, ?_, delivery, ?_⟩
  · generalize reached : next.queue = queue at effect
    cases effect with
    | listened registered => exact registered me ordered.registered stays
    | _ => exact ordered.registered
  · generalize reached : next.queue = queue at effect
    have queued {changed : List Text} {silent : Bool} : ∀ notification ∈ (SteerQueue.queueNotification silent
        { system.queue with items := changed }).pendingNotifications,
          me ∈ notification.listeners ∧ notification.listeners.Nodup := by
      intro notification mem
      rcases mem_append.1 mem with old | new
      · exact ordered.addressed notification old
      · obtain rfl := mem_singleton.1 new
        exact ⟨ordered.registered, system.queue.distinct⟩
    cases effect with
    | changed => exact queued
    | claimed => exact queued
    | taken first => exact fun notification mem =>
      ordered.addressed notification (first ▸ mem_cons_of_mem _ mem)
    | _ => exact ordered.addressed
  · by_cases same : next.queue.items = system.queue.items
    · rw [change_of_eq same, append_nil, ordered.current, same]
    · rw [change_of_ne same, getLast?_concat]
      rfl

/-! ### The runs -/

/-- A queue in which nothing is on its way -/
def System.still (queue : SteerQueue Listener) : System Listener Thread :=
  ⟨{ queue with pendingNotifications := [], notifying := false }, fun _ => .idle, fun _ => []⟩

variable {queue : SteerQueue Listener}

omit [DecidableEq Thread] in
theorem ordered_still (registered : me ∈ queue.listeners) :
    Ordered me queue.items [] (System.still queue : System Listener Thread) where
  registered := registered
  addressed _ mem := absurd mem not_mem_nil
  delivery := .resting rfl (fun _ => rfl) (fun _ mem => absurd mem not_mem_nil) rfl
  current := rfl

variable {labels : List (Label Listener Thread)}

theorem mutations_concat {start : System Listener Thread}
    (ran : (System.machine equal).run start labels = some system)
    (stepped : System.step equal system label = some next) :
    System.mutations equal start (labels ++ [label]) =
      System.mutations equal start labels ++ change system next := by
  induction labels generalizing start with
  | nil =>
    obtain rfl : start = system := by simpa using ran
    simp only [nil_append, System.mutations, stepped, change]
  | cons first labels ih =>
    rcases Machine.run_cons.mp ran with ⟨middle, taken, rest⟩
    have own : System.step equal start first = some middle := taken
    rw [cons_append, System.mutations, System.mutations, own]
    dsimp only
    split
    · exact ih rest
    · rw [ih rest, cons_append]

/-- While a listener stays registered, its notifications are in order. -/
def InOrder (equal : Listener → Listener → Bool) (me : Listener) (queue : SteerQueue Listener)
    (labels : List (Label Listener Thread)) (system : System Listener Thread) : Prop :=
  (∀ label ∈ labels, ¬ label.Removes me) →
    Ordered me queue.items (System.mutations equal (.still queue) labels) system

theorem inOrder_run {final : System Listener Thread} (registered : me ∈ queue.listeners)
    (ran : (System.machine equal).run (.still queue) labels = some final) :
    InOrder equal me queue labels final := by
  apply Machine.run_history _ _ ran
  · exact fun _ => ordered_still registered
  · intro done system label next reached inOrder stepped stays
    have before := inOrder fun other mem => stays other (mem_append_left _ mem)
    rw [mutations_concat reached stepped]
    exact before.step (stays label (mem_append_right _ (mem_singleton_self label))) stepped

/-- A listener that stays registered receives the snapshots in the order of the changes, and has received the
items that are queued once nobody delivers and no silent change waits. -/
theorem notified_in_order (equal : Listener → Listener → Bool) (queue : SteerQueue Listener) (me : Listener)
    (registered : me ∈ queue.listeners) (labels : List (Label Listener Thread))
    (stays : ∀ label ∈ labels, ¬ label.Removes me) (final : System Listener Thread)
    (ran : (System.machine equal).run (.still queue) labels = some final) :
    final.received me <+: System.mutations equal (.still queue) labels ∧
      ((∀ thread, (final.threads thread).dispatches = false) →
        (∀ notification ∈ final.queue.pendingNotifications, notification.silent = false) →
          final.received me = System.mutations equal (.still queue) labels ∧
            ((final.received me).getLast?).getD queue.items = final.queue.items) := by
  have ordered := inOrder_run registered ran stays
  have delivered := ordered.delivery
  cases delivered with
  | resting free quiet silent told =>
    refine ⟨⟨_, told⟩, fun _ loud => ?_⟩
    have empty : final.queue.pendingNotifications = [] := by
      refine List.eq_nil_iff_forall_not_mem.2 fun notification mem => ?_
      have both := (silent notification mem).symm.trans (loud notification mem)
      cases both
    rw [empty, List.map_nil, List.append_nil] at told
    exact ⟨told, by rw [told, ordered.current]⟩
  | running taken thread dispatches quiet once told =>
    rw [List.append_assoc] at told
    refine ⟨⟨_, told⟩, fun nobody _ => ?_⟩
    rw [nobody thread] at dispatches
    cases dispatches

/-- A queue with one listener -/
def heardQueue : SteerQueue Unit := { SteerQueue.new with listeners := [()], distinct := List.nodup_singleton () }

/-- One thread pushes guidance, and another one drains it and delivers both notifications. -/
def pushAndDrain : List (Label Unit Bool) :=
  [.call true (.push (some (.ofString "go"))), .call false .drain, .goOn true, .goOn false, .goOn false,
    .goOn false, .goOn false, .goOn false, .goOn false, .goOn false]

theorem pushAndDrain_notified : ∃ final, (System.machine fun _ _ => true).run (.still heardQueue) pushAndDrain =
    some final ∧ final.received () <+: System.mutations (fun _ _ => true) (.still heardQueue) pushAndDrain ∧
      final.received () = [[Text.ofString "go"], []] ∧
      ((final.received ()).getLast?).getD [] = final.queue.items := by
  have stays : ∀ label ∈ pushAndDrain, ¬ label.Removes () := by simp [pushAndDrain, Label.Removes]
  have law := notified_in_order (fun _ _ => true) heardQueue () List.mem_cons_self pushAndDrain stays _ rfl
  exact ⟨_, rfl, law.1, by decide +kernel, (law.2 (by decide +kernel) (by decide +kernel)).2⟩

end Synapse.Steer
