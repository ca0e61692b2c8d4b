import Synapse.Responses.WebSocket

/-!
# Complete responses

An iterator delivers the events of its own response in order. It ends without raising only after
the terminal one, as long as the task does not end with requests still queued: their senders are
dropped with the queue, and their iterators end as if nothing had been missed.
-/

namespace Synapse.Responses

open List

universe u

variable {Body : Type u} {id : ℕ} {event : ResponseWebSocketEvent Body} {message : Text}
  {payload : Payload Body} {own flight : List (Payload Body)} {iterator : StreamIter Body}
  {connection : Connection Body} {socket : List (SocketStep Body)}

theorem terminal_of_flag (flag : (websocketEventToJson event).2 = true) :
    (websocketEventToJson event).1.Terminal := by
  cases event with
  | stream type body => exact .inl (of_decide_eq_true flag)
  | error body => exact .inr rfl
  | unknown type body => cases flag

/-! ## The socket -/

theorem lastSent_append (current : Option ℕ) (socket more : List (SocketStep Body)) :
    lastSent current (socket ++ more) = lastSent (lastSent current socket) more := by
  induction socket generalizing current with
  | nil => rfl
  | cons step rest ih =>
    cases step with
    | sent id => exact ih (some id)
    | event event => exact ih current
    | failed => exact ih current

theorem eventsOf_append (id : ℕ) (current : Option ℕ) (socket more : List (SocketStep Body)) :
    eventsOf id current (socket ++ more) =
      eventsOf id current socket ++ eventsOf id (lastSent current socket) more := by
  induction socket generalizing current with
  | nil => rfl
  | cons step rest ih =>
    cases step with
    | sent other => exact ih (some other)
    | event event =>
      rw [cons_append, eventsOf, eventsOf, lastSent, ih]
      split
      · rfl
      · rfl
    | failed => exact ih current

theorem response_sent (other : ℕ) : response id (socket ++ [.sent other]) = response id socket := by
  simp [response, eventsOf_append, eventsOf]

theorem response_failed : response id (socket ++ [.failed]) = response id socket := by
  simp [response, eventsOf_append, eventsOf]

/-- An event belongs to the request whose frame was sent last. -/
theorem response_event_self (last : lastSent none socket = some id) :
    response id (socket ++ [.event event]) =
      response id socket ++ [(websocketEventToJson event).1] := by
  simp [response, eventsOf_append, eventsOf, last]

theorem response_event_other {other : ℕ} (last : lastSent none socket = some other)
    (different : id ≠ other) : response id (socket ++ [.event event]) = response id socket := by
  simp [response, eventsOf_append, eventsOf, last, different.symm]

/-! ## Iterators -/

/-- The payloads that wait in the channel. -/
def StreamIter.pending (iterator : StreamIter Body) : List (Payload Body) :=
  iterator.buffer.filterMap Except.toOption

/-- An iterator against its own response, with the event that the task holds for it. It is active
while its request is queued or at hand. -/
structure StreamIter.Fits (iterator : StreamIter Body) (own flight : List (Payload Body))
    (active : Prop) : Prop where
  sending : iterator.sending = true ↔ active
  held : flight ≠ [] → active
  inOrder : iterator.delivered <+: own
  whole : iterator.receiving = true → iterator.delivered ++ iterator.pending ++ flight = own
  clean : active → iterator.raised = [] ∧ ∀ message, .error message ∉ iterator.buffer
  drained : iterator.stopped = true → iterator.buffer = [] ∧ ¬active
  concluded : ¬active → iterator.receiving = true →
    (∃ last ∈ own.getLast?, last.Terminal) ∨ iterator.raised ≠ [] ∨
      ∃ message, .error message ∈ iterator.buffer
  complete : iterator.stopped = true → iterator.raised = [] →
    iterator.delivered = own ∧ ∃ last ∈ own.getLast?, last.Terminal

namespace StreamIter.Fits

variable {active : Prop}

theorem faithful (fits : iterator.Fits own flight active) : iterator.Faithful own :=
  ⟨fits.inOrder, fits.complete⟩

theorem opened : (StreamIter.opened : StreamIter Body).Fits [] [] True := by
  refine ⟨by simp [StreamIter.opened], by simp, prefix_rfl, fun _ => rfl, ?_, ?_, ?_, ?_⟩
  · simp [StreamIter.opened]
  · intro stopped
    cases stopped
  · simp
  · intro stopped
    cases stopped

theorem congr {now : Prop} (fits : iterator.Fits own flight active) (same : active ↔ now) :
    iterator.Fits own flight now :=
  propext same ▸ fits

/-- An event of the own response is taken from the socket. -/
theorem receive (fits : iterator.Fits own [] active) (current : active) :
    iterator.Fits (own ++ [payload]) [payload] active where
  sending := fits.sending
  held := fun _ => current
  inOrder := fits.inOrder.trans (prefix_append _ _)
  whole := by
    intro receiving
    rw [← fits.whole receiving, append_nil]
  clean := fits.clean
  drained := fits.drained
  concluded := fun inactive => absurd current inactive
  complete := fun stopped => absurd current (fits.drained stopped).2

theorem push (fits : iterator.Fits own [payload] active) (current : active)
    (receiving : iterator.receiving = true) :
    ({ iterator with buffer := iterator.buffer ++ [.ok payload] } : StreamIter Body).Fits own []
      active where
  sending := fits.sending
  held := fun none => absurd rfl none
  inOrder := fits.inOrder
  whole := by
    intro _
    rw [← fits.whole receiving]
    simp [pending, Except.toOption]
  clean := by
    rcases fits.clean current with ⟨raised, buffered⟩
    exact fun _ => ⟨raised, fun message => by simpa using buffered message⟩
  drained := fun stopped => absurd current (fits.drained stopped).2
  concluded := fun inactive => absurd current inactive
  complete := fits.complete

theorem conclude (fits : iterator.Fits own [] active) (current : active)
    (last : ∃ last ∈ own.getLast?, last.Terminal) :
    ({ iterator with sending := false } : StreamIter Body).Fits own [] False where
  sending := by simp
  held := fun none => absurd rfl none
  inOrder := fits.inOrder
  whole := fits.whole
  clean := False.elim
  drained := fun stopped => absurd current (fits.drained stopped).2
  concluded := fun _ _ => .inl last
  complete := fits.complete

/-- An error goes into the channel, and then the sender. -/
theorem fail (fits : iterator.Fits own [] active) (current : active) :
    ({ iterator with
      buffer := iterator.buffer ++ [.error message], sending := false } : StreamIter Body).Fits
        own [] False where
  sending := by simp
  held := fun none => absurd rfl none
  inOrder := fits.inOrder
  whole := by
    intro receiving
    rw [← fits.whole receiving]
    simp [pending, Except.toOption]
  clean := False.elim
  drained := fun stopped => absurd current (fits.drained stopped).2
  concluded := fun _ _ => .inr (.inr ⟨message, by simp⟩)
  complete := fits.complete

theorem abandon (fits : iterator.Fits own flight active) (dropped : iterator.receiving = false) :
    ({ iterator with sending := false } : StreamIter Body).Fits own [] False where
  sending := by simp
  held := fun none => absurd rfl none
  inOrder := fits.inOrder
  whole := by simp [dropped]
  clean := False.elim
  drained := fun stopped => ⟨(fits.drained stopped).1, id⟩
  concluded := by simp [dropped]
  complete := fits.complete

/-- An iterator without a sender is not touched when the task ends. -/
theorem finish (fits : iterator.Fits own flight active) (inactive : ¬active) :
    ({ iterator with sending := false } : StreamIter Body).Fits own [] False := by
  have silent : flight = [] := by
    by_contra held
    exact inactive (fits.held held)
  subst silent
  exact {
    sending := by simp
    held := fun none => absurd rfl none
    inOrder := fits.inOrder
    whole := fits.whole
    clean := False.elim
    drained := fun stopped => ⟨(fits.drained stopped).1, id⟩
    concluded := fun _ => fits.concluded inactive
    complete := fits.complete }

theorem drop (fits : iterator.Fits own flight active) :
    ({ iterator with receiving := false, buffer := [] } : StreamIter Body).Fits own flight
      active where
  sending := fits.sending
  held := fits.held
  inOrder := fits.inOrder
  whole := by simp
  clean := fun current => ⟨(fits.clean current).1, by simp⟩
  drained := fun stopped => ⟨rfl, (fits.drained stopped).2⟩
  concluded := by simp
  complete := fits.complete

theorem next {after : StreamIter Body} (fits : iterator.Fits own flight active)
    (receiving : iterator.receiving = true) (read : Connection.read iterator = some after) :
    after.Fits own flight active := by
  have whole := fits.whole receiving
  unfold Connection.read at read
  unfold pending at whole
  split at read
  case h_1 payload rest buffered =>
      cases read
      have waiting : (.ok payload :: rest : List (Except Text (Payload Body))).filterMap
          Except.toOption = payload :: rest.filterMap Except.toOption := rfl
      rw [buffered, waiting] at whole
      have order : iterator.delivered ++ [payload] ++ rest.filterMap Except.toOption ++ flight =
          own := by
        rw [← whole]
        simp
      exact {
        sending := fits.sending
        held := fits.held
        inOrder := by
          rw [← order, append_assoc _ _ flight]
          exact prefix_append _ _
        whole := fun _ => order
        clean := by
          intro current
          rcases fits.clean current with ⟨raised, errors⟩
          refine ⟨raised, fun message member => errors message ?_⟩
          rw [buffered]
          exact mem_cons_of_mem _ member
        drained := by
          intro stopped
          have empty := (fits.drained stopped).1
          rw [buffered] at empty
          cases empty
        concluded := by
          intro inactive _
          rcases fits.concluded inactive receiving with last | raised | ⟨message, member⟩
          · exact .inl last
          · exact .inr (.inl raised)
          · rw [buffered, mem_cons] at member
            rcases member with ⟨⟨⟩⟩ | member
            exact .inr (.inr ⟨message, member⟩)
        complete := by
          intro stopped
          have empty := (fits.drained stopped).1
          rw [buffered] at empty
          cases empty }
  case h_2 message rest buffered =>
      cases read
      have inactive : ¬active := by
        intro current
        apply (fits.clean current).2 message
        rw [buffered]
        exact mem_cons_self
      have waiting : (.error message :: rest : List (Except Text (Payload Body))).filterMap
          Except.toOption = rest.filterMap Except.toOption := rfl
      rw [buffered, waiting] at whole
      exact {
        sending := fits.sending
        held := fits.held
        inOrder := fits.inOrder
        whole := fun _ => whole
        clean := fun current => absurd current inactive
        drained := by
          intro stopped
          have empty := (fits.drained stopped).1
          rw [buffered] at empty
          cases empty
        concluded := fun _ _ => .inr (.inl (by simp))
        complete := by simp }
  case h_3 buffered =>
      split at read
      · cases read
      case isFalse unsent =>
          cases read
          have inactive : ¬active := fun current => unsent (fits.sending.2 current)
          have silent : flight = [] := by
            by_contra held
            exact inactive (fits.held held)
          rw [buffered, silent, filterMap_nil, append_nil, append_nil] at whole
          exact {
            sending := fits.sending
            held := fits.held
            inOrder := fits.inOrder
            whole := fits.whole
            clean := fits.clean
            drained := fun _ => ⟨buffered, inactive⟩
            concluded := fits.concluded
            complete := by
              intro _ raised
              refine ⟨whole, ?_⟩
              rcases fits.concluded inactive receiving with last | failed | ⟨message, member⟩
              · exact last
              · exact absurd raised failed
              · rw [buffered] at member
                cases member }

end StreamIter.Fits

/-! ## The connection -/

/-- The request at hand. -/
def Task.current : Task Body → Option ℕ
  | .waiting => none
  | .opening id => some id
  | .serving id => some id
  | .delivering id _ => some id
  | .failing id _ => some id
  | .ended => none

/-- The event of a request that the task holds. -/
def Task.inFlight (id : ℕ) : Task Body → List (Payload Body)
  | .delivering other event => if other = id then [(websocketEventToJson event).1] else []
  | _ => []

/-- The request whose response the task reads. -/
def Task.reads : Task Body → Option ℕ
  | .serving id => some id
  | .delivering id _ => some id
  | _ => none

def WsCommand.id? : WsCommand → Option ℕ
  | .request id => some id
  | .close => none

/-- The requests at hand and in the queue, whose senders exist. -/
def Connection.active (connection : Connection Body) : List ℕ :=
  connection.task.current.toList ++ connection.queue.filterMap WsCommand.id?

/-- Every iterator fits the response to its request. -/
structure Connection.Sound (connection : Connection Body) : Prop where
  fits : ∀ id (iterator : StreamIter Body), connection.iterators[id]? = some iterator →
    iterator.Fits (response id connection.socket) (connection.task.inFlight id)
      (id ∈ connection.active)
  known : ∀ id ∈ connection.active, id < connection.iterators.length
  unique : connection.active.Nodup
  read : ∀ id, connection.task.reads = some id → lastSent none connection.socket = some id
  fresh : ∀ id, connection.iterators.length ≤ id → response id connection.socket = []

namespace Connection.Sound

theorem established : (Connection.established : Connection Body).Sound where
  fits := by simp [Connection.established]
  known := by simp [Connection.established, active, Task.current]
  unique := by simp [Connection.established, active, Task.current]
  read := by simp [Connection.established, Task.reads]
  fresh := fun _ _ => rfl

/-- Steps that keep the iterators and the socket keep the rest with the active requests. -/
theorem moved {next : Connection Body} (sound : connection.Sound)
    (iterators : next.iterators = connection.iterators) (socket : next.socket = connection.socket)
    (flight : ∀ id, next.task.inFlight id = connection.task.inFlight id)
    (active : next.active = connection.active)
    (read : ∀ id, next.task.reads = some id → connection.task.reads = some id) : next.Sound where
  fits := by
    intro id iterator found
    rw [socket, flight, active]
    rw [iterators] at found
    exact sound.fits id iterator found
  known := by
    rw [active, iterators]
    exact sound.known
  unique := active ▸ sound.unique
  read := by
    intro id reading
    rw [socket]
    exact sound.read id (read id reading)
  fresh := by
    rw [iterators, socket]
    exact sound.fresh

/-- The task returns where no iterator waits for an event. -/
theorem finish
    (fits : ∀ id (iterator : StreamIter Body), connection.iterators[id]? = some iterator →
      ({ iterator with sending := false } : StreamIter Body).Fits
        (response id connection.socket) [] False)
    (fresh : ∀ id, connection.iterators.length ≤ id → response id connection.socket = []) :
    connection.finish.Sound where
  fits := by
    intro id iterator found
    rw [Connection.finish, getElem?_map, Option.map_eq_some_iff] at found
    rcases found with ⟨before, found, rfl⟩
    apply (fits id before found).congr
    simp [Connection.finish, active, Task.current]
  known := by simp [Connection.finish, active, Task.current]
  unique := by simp [Connection.finish, active, Task.current]
  read := by simp [Connection.finish, Task.reads]
  fresh := by
    intro id beyond
    rw [Connection.finish, length_map] at beyond
    exact fresh id beyond

theorem request {next : Connection Body} (sound : connection.Sound)
    (stepped : connection.request = some next) : next.Sound := by
  unfold Connection.request at stepped
  split at stepped
  case h_1 => cases stepped; exact sound
  case h_2 =>
      rcases of_guard stepped with ⟨_, rfl⟩
      have active : connection.active ++ [connection.iterators.length] =
          Connection.active { connection with
            iterators := connection.iterators ++ [.opened]
            queue := connection.queue ++ [.request connection.iterators.length] } := by
        simp [Connection.active, WsCommand.id?]
      have missing : connection.iterators.length ∉ connection.active :=
        fun member => absurd (sound.known _ member) (lt_irrefl _)
      refine ⟨?_, ?_, ?_, sound.read, ?_⟩
      · intro id iterator found
        rw [← active]
        dsimp only at found ⊢
        rw [getElem?_append] at found
        split at found
        case isTrue old =>
            apply (sound.fits id iterator found).congr
            simp [old.ne]
        case isFalse beyond =>
            have last : id = connection.iterators.length := by
              rw [getElem?_singleton] at found
              rcases Option.ite_none_right_eq_some.mp found with ⟨_, found⟩
              omega
            subst last
            rw [Nat.sub_self] at found
            cases found
            have silent : connection.task.inFlight connection.iterators.length = [] := by
              cases held : connection.task with
              | delivering other event =>
                refine if_neg fun same => missing ?_
                rw [Connection.active, held, ← same]
                exact mem_append_left _ (mem_singleton_self other)
              | _ => rfl
            rw [silent, sound.fresh _ le_rfl]
            exact StreamIter.Fits.opened.congr (by simp)
      · intro id member
        rw [← active, mem_append, mem_singleton] at member
        rw [length_append, length_singleton]
        rcases member with member | rfl
        · exact (sound.known id member).trans (Nat.lt_succ_self _)
        · exact Nat.lt_succ_self _
      · rw [← active]
        exact nodup_append.2 ⟨sound.unique, nodup_singleton _, by
          intro id member other last
          rw [mem_singleton] at last
          rintro rfl
          exact missing (last ▸ member)⟩
      · intro id beyond
        rw [length_append, length_singleton] at beyond
        exact sound.fresh id (Nat.le_of_succ_le beyond)

theorem enqueueClose {next : Connection Body} (sound : connection.Sound)
    (stepped : connection.enqueueClose = some next) : next.Sound := by
  rcases Option.ite_none_right_eq_some.mp stepped with ⟨_, stepped⟩
  split at stepped
  · cases stepped
    exact sound.moved rfl rfl (fun _ => rfl) rfl (fun _ => id)
  · rcases of_guard stepped with ⟨_, rfl⟩
    refine sound.moved rfl rfl (fun _ => rfl) ?_ (fun _ => id)
    simp [Connection.active, WsCommand.id?]

theorem take {next : Connection Body} (sound : connection.Sound)
    (safe : connection.Unhurried .take) (stepped : connection.take = some next) :
    next.Sound := by
  unfold Connection.take at stepped
  split at stepped
  case h_1 id rest waiting queue =>
      cases stepped
      refine sound.moved rfl rfl ?_ ?_ ?_
      · intro other
        rw [waiting]
        rfl
      · rw [Connection.active, Connection.active, waiting, queue]
        rfl
      · rintro other ⟨⟩
  case h_2 rest waiting queue =>
      cases stepped
      have idle := safe (by rw [Connection.quits, queue]; rfl)
      have inactive (id : ℕ) : id ∉ connection.active := by
        rw [Connection.active, waiting]
        intro member
        rcases mem_filterMap.1 member with ⟨command, queued, found⟩
        cases command with
        | request other => cases idle _ queued
        | close => cases found
      exact finish
        (fun id iterator found => (sound.fits id iterator found).finish (inactive id)) sound.fresh
  case h_3 => cases stepped

theorem send {next : Connection Body} {failure : Option Text} (sound : connection.Sound)
    (stepped : connection.send failure = some next) : next.Sound := by
  unfold Connection.send at stepped
  split at stepped
  case h_1 id opening =>
      have active (task : Task Body) (current : task.current = some id) :
          ({ connection with task := task } : Connection Body).active = connection.active := by
        rw [Connection.active, Connection.active, current, opening]
        rfl
      have silent (other : ℕ) : connection.task.inFlight other = [] := by
        rw [opening]
        rfl
      cases failure with
      | some cause =>
        cases stepped
        exact sound.moved rfl rfl (fun other => (silent other).symm) (active _ rfl)
          (by rintro other ⟨⟩)
      | none =>
        cases stepped
        refine ⟨?_, ?_, ?_, ?_, ?_⟩
        · intro other iterator found
          have fits := sound.fits other iterator found
          rw [silent] at fits
          dsimp only
          rw [response_sent]
          exact fits.congr (iff_of_eq (congrArg (other ∈ ·) (active _ rfl).symm))
        · intro other member
          exact sound.known other ((active (.serving id) rfl) ▸ member)
        · exact (active (.serving id) rfl).symm ▸ sound.unique
        · rintro other ⟨⟩
          rw [lastSent_append]
          rfl
        · intro other beyond
          dsimp only
          rw [response_sent]
          exact sound.fresh other beyond
  case h_2 => cases stepped

theorem receive {next : Connection Body} {outcome : Except Text (ResponseWebSocketEvent Body)}
    (sound : connection.Sound) (stepped : connection.receive outcome = some next) :
    next.Sound := by
  unfold Connection.receive at stepped
  split at stepped
  case h_1 id serving =>
      have active (task : Task Body) (current : task.current = some id) :
          ({ connection with task := task } : Connection Body).active = connection.active := by
        rw [Connection.active, Connection.active, current, serving]
        rfl
      have silent (other : ℕ) : connection.task.inFlight other = [] := by
        rw [serving]
        rfl
      have last : lastSent none connection.socket = some id :=
        sound.read id (by rw [serving]; rfl)
      have current : id ∈ connection.active := by
        rw [Connection.active, serving]
        exact mem_append_left _ (mem_singleton_self id)
      cases outcome with
      | error cause =>
        cases stepped
        refine ⟨?_, ?_, ?_, ?_, ?_⟩
        · intro other iterator found
          have fits := sound.fits other iterator found
          rw [silent] at fits
          dsimp only
          rw [response_failed]
          exact fits.congr (iff_of_eq (congrArg (other ∈ ·) (active _ rfl).symm))
        · intro other member
          exact sound.known other ((active (.failing id _) rfl) ▸ member)
        · exact (active (.failing id _) rfl).symm ▸ sound.unique
        · rintro other ⟨⟩
        · intro other beyond
          dsimp only
          rw [response_failed]
          exact sound.fresh other beyond
      | ok event =>
        cases stepped
        refine ⟨?_, ?_, ?_, ?_, ?_⟩
        · intro other iterator found
          have fits := sound.fits other iterator found
          rw [silent] at fits
          have same := iff_of_eq (congrArg (other ∈ ·) (active (.delivering id event) rfl).symm)
          by_cases own : id = other
          · subst own
            dsimp only [Task.inFlight]
            rw [response_event_self last, if_pos rfl]
            exact (fits.receive current).congr same
          · dsimp only [Task.inFlight]
            rw [response_event_other last (Ne.symm own), if_neg own]
            exact fits.congr same
        · intro other member
          exact sound.known other ((active (.delivering id event) rfl) ▸ member)
        · exact (active (.delivering id event) rfl).symm ▸ sound.unique
        · rintro other ⟨⟩
          rw [lastSent_append, last]
          rfl
        · intro other beyond
          have different : other ≠ id := by
            rintro rfl
            exact absurd (sound.known other current) (not_lt.2 beyond)
          dsimp only
          rw [response_event_other last different]
          exact sound.fresh other beyond
  case h_2 => cases stepped

/-- The request at hand is the only active one when the task returns. -/
theorem inactive_of_idle {other : ℕ} (idle : connection.Idle)
    (current : connection.task.current = some id) (different : other ≠ id) :
    other ∉ connection.active := by
  rw [Connection.active, current, mem_append]
  rintro (same | member)
  · exact different (mem_singleton.1 same)
  · rcases mem_filterMap.1 member with ⟨command, queued, found⟩
    cases command with
    | request queuedId => cases idle _ queued
    | close => cases found

/-- The task returns after a step of the iterator of the request at hand. -/
theorem finish_current {next : Connection Body} (sound : connection.Sound)
    (idle : connection.Idle) (current : connection.task.current = some id)
    (socket : next.socket = connection.socket)
    (length : next.iterators.length = connection.iterators.length)
    (own : ∀ after, next.iterators[id]? = some after →
      ({ after with sending := false } : StreamIter Body).Fits (response id connection.socket) []
        False)
    (others : ∀ other, other ≠ id → next.iterators[other]? = connection.iterators[other]?) :
    next.finish.Sound := by
  apply finish
  · intro other after found
    rw [socket]
    by_cases same : other = id
    · subst same
      exact own after found
    · rw [others other same] at found
      exact (sound.fits other after found).finish (inactive_of_idle idle current same)
  · rw [socket, length]
    exact sound.fresh

/-- A message in one channel leaves the others as they are. -/
theorem push_iterators {item : Except Text (Payload Body)}
    (found : connection.iterators[id]? = some iterator) :
    (connection.push id item).iterators[id]? =
        some { iterator with buffer := iterator.buffer ++ [item] } ∧
      (∀ other, other ≠ id →
        (connection.push id item).iterators[other]? = connection.iterators[other]?) ∧
      (connection.push id item).iterators.length = connection.iterators.length := by
  refine ⟨?_, ?_, length_modify _ _ _⟩
  · rw [Connection.push, getElem?_modify, found]
    simp
  · intro other different
    rw [Connection.push, getElem?_modify]
    simp [different.symm]

/-- The task goes on after a step of the iterator of the request at hand. -/
theorem continue_current {next : Connection Body} (sound : connection.Sound)
    (current : connection.task.current = some id) (socket : next.socket = connection.socket)
    (length : next.iterators.length = connection.iterators.length)
    (queue : next.queue = connection.queue)
    (task : next.task = .waiting ∨ next.task = .serving id ∧ connection.task.reads = some id)
    (own : ∀ after, next.iterators[id]? = some after →
      after.Fits (response id connection.socket) [] (next.task.current = some id))
    (others : ∀ other, other ≠ id → next.iterators[other]? = connection.iterators[other]?) :
    next.Sound := by
  have part : next.active.Sublist connection.active := by
    rw [Connection.active, Connection.active, queue, current]
    apply Sublist.append _ (Sublist.refl _)
    rcases task with waiting | ⟨serving, _⟩
    · rw [waiting]
      exact nil_sublist _
    · rw [serving]
      exact Sublist.refl _
  have nodup := sound.unique
  rw [Connection.active, current, Option.toList_some, singleton_append,
    nodup_cons] at nodup
  have member (other : ℕ) : other ∈ next.active ↔
      next.task.current = some other ∨ other ∈ connection.queue.filterMap WsCommand.id? := by
    rw [Connection.active, queue, mem_append, Option.mem_toList]
  have silent (other : ℕ) : next.task.inFlight other = ([] : List (Payload Body)) := by
    rcases task with waiting | ⟨serving, _⟩
    · rw [waiting]
      rfl
    · rw [serving]
      rfl
  have only (other : ℕ) (now : next.task.current = some other) : other = id := by
    rcases task with waiting | ⟨serving, _⟩
    · rw [waiting] at now
      cases now
    · rw [serving] at now
      exact (Option.some.inj now).symm
  refine ⟨?_, fun other active => ?_, part.nodup sound.unique, ?_, ?_⟩
  · intro other after found
    rw [socket, silent]
    by_cases same : other = id
    · subst same
      apply (own after found).congr
      rw [member]
      exact ⟨.inl, fun active => active.resolve_right nodup.1⟩
    · rw [others other same] at found
      have fits := sound.fits other after found
      have before : other ∈ connection.active ↔ other ∈ next.active := by
        rw [member, Connection.active, current, Option.toList_some, singleton_append,
          mem_cons]
        constructor
        · exact fun active => .inr (active.resolve_left same)
        · rintro (now | queued)
          · exact absurd (only other now) same
          · exact .inr queued
      have quiet : connection.task.inFlight other = ([] : List (Payload Body)) := by
        cases held : connection.task with
        | delivering holder event =>
          rw [held] at current
          cases current
          exact if_neg (Ne.symm same)
        | _ => rfl
      rw [quiet] at fits
      exact fits.congr before
  · rw [length]
    exact sound.known other (part.subset active)
  · intro other reads
    rw [socket]
    rcases task with waiting | ⟨serving, reading⟩
    · rw [waiting] at reads
      cases reads
    · rw [serving] at reads
      cases reads
      exact sound.read id reading
  · rw [length, socket]
    exact sound.fresh

theorem deliver {next : Connection Body} (sound : connection.Sound)
    (safe : connection.Unhurried .deliver)
    (stepped : connection.deliver = some next) : next.Sound := by
  unfold Connection.deliver at stepped
  split at stepped
  case h_1 id event delivering =>
      rcases Option.bind_eq_some_iff.1 stepped with ⟨iterator, found, stepped⟩
      have current : connection.task.current = some id := by
        rw [delivering]
        rfl
      have fits := sound.fits id iterator found
      have held : connection.task.inFlight id = [(websocketEventToJson event).1] := by
        rw [delivering]
        exact if_pos rfl
      rw [held] at fits
      have active : id ∈ connection.active := by
        rw [Connection.active, current]
        exact mem_append_left _ (mem_singleton_self id)
      split at stepped
      case isTrue dropped =>
          cases stepped
          have idle : connection.Idle := by
            apply safe
            rw [Connection.quits, delivering]
            dsimp only
            rw [found, Option.any_some, dropped]
            rfl
          refine finish_current sound idle current rfl rfl ?_ (fun _ _ => rfl)
          intro after same
          cases found.symm.trans same
          exact fits.abandon dropped
      case isFalse receiving =>
          split at stepped
          case isFalse => cases stepped
          case isTrue =>
              cases stepped
              rcases push_iterators found with ⟨own, others, length⟩
              have sender : iterator.receiving = true := by simpa using receiving
              have pushed := fits.push active sender
              -- The response ends with the event at hand.
              have last : (response id connection.socket).getLast? =
                  some (websocketEventToJson event).1 := by
                rw [← fits.whole sender, getLast?_append]
                rfl
              split
              case isTrue terminal =>
                  refine continue_current sound current rfl ?_ rfl (.inl rfl) ?_ ?_
                  · exact (length_modify _ _ _).trans length
                  · intro after same
                    rw [Connection.conclude, getElem?_modify, own] at same
                    cases same
                    simp only [if_pos]
                    apply (pushed.conclude active ⟨_, last, terminal_of_flag terminal⟩).congr
                    simp [Connection.conclude, Task.current]
                  · intro other different
                    rw [Connection.conclude, getElem?_modify, others other different]
                    simp [different.symm]
              case isFalse continuing =>
                  refine continue_current sound current rfl length rfl
                    (.inr ⟨rfl, by rw [delivering]; rfl⟩) ?_ others
                  intro after same
                  cases own.symm.trans same
                  exact pushed.congr (iff_of_true active rfl)
  case h_2 id message failing =>
      rcases Option.bind_eq_some_iff.1 stepped with ⟨iterator, found, stepped⟩
      have idle : connection.Idle := by
        apply safe
        rw [Connection.quits, failing]
      have current : connection.task.current = some id := by
        rw [failing]
        rfl
      have fits := sound.fits id iterator found
      have silent : connection.task.inFlight id = ([] : List (Payload Body)) := by
        rw [failing]
        rfl
      rw [silent] at fits
      have active : id ∈ connection.active := by
        rw [Connection.active, current]
        exact mem_append_left _ (mem_singleton_self id)
      split at stepped
      case isTrue dropped =>
          cases stepped
          refine finish_current sound idle current rfl rfl ?_ (fun _ _ => rfl)
          intro after same
          cases found.symm.trans same
          exact fits.abandon dropped
      case isFalse receiving =>
          split at stepped
          case isFalse => cases stepped
          case isTrue =>
              cases stepped
              rcases push_iterators found with ⟨own, others, length⟩
              refine finish_current sound idle current rfl length ?_ others
              intro after same
              cases own.symm.trans same
              exact fits.fail active
  case h_3 => cases stepped

theorem consume {after : StreamIter Body} (sound : connection.Sound)
    (fits : after.Fits (response id connection.socket) (connection.task.inFlight id)
      (id ∈ connection.active)) :
    ({ connection with iterators := connection.iterators.set id after } : Connection Body).Sound
    where
  fits := by
    intro other next at_
    dsimp only at at_
    rw [getElem?_set] at at_
    split at at_
    case isTrue same =>
        subst same
        rcases of_guard at_ with ⟨_, rfl⟩
        exact fits
    case isFalse => exact sound.fits other next at_
  known := by
    rw [length_set]
    exact sound.known
  unique := sound.unique
  read := sound.read
  fresh := by
    rw [length_set]
    exact sound.fresh

/-- Every step keeps every iterator with its response, where the task ends only without requests
in the queue. -/
theorem step {next : Connection Body} (sound : connection.Sound) (label : Label Body)
    (safe : connection.Unhurried label)
    (stepped : connection.step label = some next) : next.Sound := by
  cases label with
  | request => exact sound.request stepped
  | close =>
    cases stepped
    exact sound.moved rfl rfl (fun _ => rfl) rfl (fun _ => id)
  | enqueueClose => exact sound.enqueueClose stepped
  | take => exact sound.take safe stepped
  | send failure => exact sound.send stepped
  | receive outcome => exact sound.receive stepped
  | deliver => exact sound.deliver safe stepped
  | next id =>
    rcases Option.bind_eq_some_iff.1 stepped with ⟨iterator, found, stepped⟩
    split at stepped
    case isTrue receiving =>
        rcases Option.map_eq_some_iff.1 stepped with ⟨after, read, rfl⟩
        exact sound.consume ((sound.fits id iterator found).next receiving read)
    case isFalse => cases stepped
  | drop id =>
    rcases Option.map_eq_some_iff.1 stepped with ⟨iterator, found, rfl⟩
    exact sound.consume (sound.fits id iterator found).drop

end Connection.Sound

/-- Every iterator of a connection is faithful to the response to its request, where the task ended
only without requests in the queue. -/
theorem faithful_of_run {labels : List (Label Body)} {final : Connection Body}
    (guarded : Connection.machine.Guarded Connection.Unhurried .established labels)
    (run : Connection.machine.run .established labels = some final)
    (found : final.iterators[id]? = some iterator) :
    iterator.Faithful (response id final.socket) := by
  have sound : final.Sound := by
    refine Machine.run_invariant_of_guarded ?_ Connection.Sound.established guarded run
    intro connection label next before safe stepped
    exact before.step label safe stepped
  exact (sound.fits id iterator found).faithful

end Synapse.Responses
