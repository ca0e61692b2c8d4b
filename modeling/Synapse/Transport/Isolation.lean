import Synapse.Transport.Requests

/-!
# Requests do not disturb each other

On a server that answers every request once, each request that is not cancelled gets the response
with its own id, and the generation does not fail. This holds as long as the reader can recognise
every late response: no request is cancelled inside `send` behind the write, and no cancellation
comes when 256 cancelled requests are still unanswered.
-/

namespace Synapse.Transport

open List

/-- The server owes the request its response, or has given it. -/
def Request.Waits (request : Request) (unanswered : List (ℕ × ℕ)) : Prop :=
  (request.pending = true ∧ request.future = .unset ∧
      (request.generation, request.id) ∈ unanswered) ∨
    (request.pending = false ∧ request.future = .value request.id)

/-- What a request looks like in each phase. `own` says that it was cancelled by its caller. -/
def Request.Fits (request : Request) (unanswered : List (ℕ × ℕ)) (own : Prop) : Prop :=
  match request.phase with
  | .connecting => request.pending = false ∧ request.handed = false ∧ request.id = 0
  | .locking => request.pending = true ∧ request.future = .unset ∧ request.handed = false ∧
      0 < request.id
  | .sending => 0 < request.id ∧
      ((request.handed = false ∧ request.pending = true ∧ request.future = .unset) ∨
        (request.handed = true ∧ request.Waits unanswered))
  | .awaiting => 0 < request.id ∧ request.handed = true ∧ request.Waits unanswered
  | .finished outcome => request.pending = false ∧
      (outcome = .returned request.id ∨ (outcome = .cancelled ∧ own))

variable {request : Request}

theorem Request.Fits.congr {before after : List (ℕ × ℕ)} {own still : Prop}
    (fits : request.Fits before own)
    (kept : request.pending = true → (request.generation, request.id) ∈ before →
      (request.generation, request.id) ∈ after)
    (owned : own → still) : request.Fits after still := by
  have waits : request.Waits before → request.Waits after := by
    rintro (⟨pending, unset, owed⟩ | answered)
    · exact .inl ⟨pending, unset, kept pending owed⟩
    · exact .inr answered
  unfold Request.Fits at fits ⊢
  cases phase : request.phase with
  | connecting =>
    simp only [phase] at fits ⊢
    exact fits
  | locking =>
    simp only [phase] at fits ⊢
    exact fits
  | sending =>
    simp only [phase] at fits ⊢
    exact ⟨fits.1, fits.2.imp (fun same => same) fun both => ⟨both.1, waits both.2⟩⟩
  | awaiting =>
    simp only [phase] at fits ⊢
    exact ⟨fits.1, fits.2.1, waits fits.2.2⟩
  | finished outcome =>
    simp only [phase] at fits ⊢
    exact ⟨fits.1, fits.2.imp (fun same => same) fun both => ⟨both.1, owned both.2⟩⟩

theorem Request.Fits.answered {unanswered : List (ℕ × ℕ)} {own : Prop}
    (fits : request.Fits unanswered own) (pending : request.pending = true)
    (handed : request.handed = true) :
    { request.pop with future := .value request.id }.Fits unanswered own := by
  unfold Request.Fits at fits ⊢
  simp only [Request.pop]
  cases phase : request.phase with
  | connecting =>
    simp only [phase, pending] at fits
    cases fits.1
  | locking =>
    simp only [phase, handed] at fits
    cases fits.2.2.1
  | sending =>
    simp only [phase] at fits
    exact ⟨fits.1, .inr ⟨handed, .inr ⟨rfl, rfl⟩⟩⟩
  | awaiting =>
    simp only [phase] at fits
    exact ⟨fits.1, handed, .inr ⟨rfl, rfl⟩⟩
  | finished outcome =>
    simp only [phase, pending] at fits
    cases fits.1

namespace RuntimeClient

variable {client next : RuntimeClient} {done : List ClientLabel}

/-- The requests after the labels `done` on one connection that is never lost. -/
structure Isolated (done : List ClientLabel) (client : RuntimeClient) : Prop where
  unclosed : client.closing = false
  single : (client.connection = none ∧ client.generation = 0) ∨
    (client.connection = some 1 ∧ client.generation = 1)
  fits : ∀ (number : ℕ) (request : Request), client.requests[number]? = some request →
    request.Fits client.unanswered (.cancel number ∈ done)
  current : ∀ (number : ℕ) (request : Request), client.requests[number]? = some request →
    0 < request.id → client.connection = some request.generation
  fresh : ∀ (number : ℕ) (request : Request), client.requests[number]? = some request →
    request.id ≤ client.nextId
  distinct : ∀ (first second : ℕ) (one other : Request), first ≠ second →
    client.requests[first]? = some one → client.requests[second]? = some other →
    0 < one.id → one.id ≠ other.id
  sent : ∀ key ∈ client.unanswered, ∃ (number : ℕ) (request : Request), client.requests[number]? = some request ∧
    request.handed = true ∧ 0 < request.id ∧ key = (request.generation, request.id)
  known : ∀ (number : ℕ) (request : Request), client.requests[number]? = some request →
    (request.generation, request.id) ∈ client.unanswered → 0 < request.id →
    request.pending = true ∨ (request.generation, request.id) ∈ client.cancelled
  once : client.unanswered.Nodup
  writer : ∀ number, client.writer = some number → ∃ request,
    client.requests[number]? = some request ∧ request.phase = .sending

/-- A step keeps the lock with a request that is inside `send`, if `before` becomes `after`. -/
def Hands (client next : RuntimeClient) (number : ℕ) (before after : Request) : Prop :=
  next.writer = none ∨ (next.writer = some number ∧ after.phase = .sending) ∨
    (next.writer = client.writer ∧ (before.phase = .sending → after.phase = .sending))

variable {number : ℕ}
variable {before after : Request}

theorem hands_of_phase (same : next.writer = client.writer)
    (outside : before.phase ≠ .sending) : client.Hands next number before after :=
  .inr (.inr ⟨same, fun sending => absurd sending outside⟩)

theorem isolated_init (maxAttempts : ℕ) : Isolated [] (init maxAttempts) := by
  constructor
  · rfl
  · exact .inl ⟨rfl, rfl⟩
  · intro number request found
    cases found
  · intro number request found
    cases found
  · intro number request found
    cases found
  · intro first second one other _ found
    cases found
  · intro key present
    cases present
  · intro number request found
    cases found
  · exact nodup_nil
  · intro number held
    cases held

theorem Isolated.unsent (isolated : Isolated done client) {request : Request}
    (found : client.requests[number]? = some request) (registered : 0 < request.id)
    (unhanded : request.handed = false) :
    (request.generation, request.id) ∉ client.unanswered := by
  intro present
  rcases isolated.sent _ present with ⟨other, sender, senderFound, handed, _, key⟩
  by_cases same : number = other
  · subst same
    obtain rfl := Option.mem_unique found senderFound
    rw [handed] at unhanded
    cases unhanded
  · exact isolated.distinct number other request sender same found senderFound registered
      (Prod.mk.inj key).2

/-- One request changes and keeps its identity. What the requests are owed is left to show. -/
theorem Isolated.exchanged (isolated : Isolated done client)
    {later : List ClientLabel}
    (found : client.requests[number]? = some before)
    (requests : next.requests = client.requests.set number after)
    (connection : next.connection = client.connection)
    (generation : next.generation = client.generation) (nextId : next.nextId = client.nextId)
    (closing : next.closing = client.closing)
    (same : after.id = before.id) (owner : after.generation = before.generation)
    (fits : ∀ (other : ℕ) (request : Request), next.requests[other]? = some request →
      request.Fits next.unanswered (.cancel other ∈ later))
    (sent : ∀ key ∈ next.unanswered, ∃ (other : ℕ) (request : Request),
      next.requests[other]? = some request ∧ request.handed = true ∧ 0 < request.id ∧
        key = (request.generation, request.id))
    (known : ∀ (other : ℕ) (request : Request), next.requests[other]? = some request →
      (request.generation, request.id) ∈ next.unanswered → 0 < request.id →
      request.pending = true ∨ (request.generation, request.id) ∈ next.cancelled)
    (once : next.unanswered.Nodup) (hands : client.Hands next number before after) :
    Isolated later next := by
  have back : ∀ (other : ℕ) (request : Request), next.requests[other]? = some request →
      ∃ old, client.requests[other]? = some old ∧ request.id = old.id ∧
        request.generation = old.generation := by
    intro other request requestFound
    rw [requests, Locks.getElem?_set_of_found found] at requestFound
    split at requestFound
    · rename_i here
      subst here
      cases requestFound
      exact ⟨before, found, same, owner⟩
    · exact ⟨request, requestFound, rfl, rfl⟩
  refine ⟨?_, ?_, fits, ?_, ?_, ?_, sent, known, once, ?_⟩
  · rw [closing, isolated.unclosed]
  · rw [connection, generation]
    exact isolated.single
  · intro other request requestFound registered
    rcases back other request requestFound with ⟨old, oldFound, sameId, sameGeneration⟩
    rw [sameId] at registered
    rw [connection, sameGeneration]
    exact isolated.current other old oldFound registered
  · intro other request requestFound
    rcases back other request requestFound with ⟨old, oldFound, sameId, _⟩
    rw [sameId, nextId]
    exact isolated.fresh other old oldFound
  · intro first second one other different oneFound otherFound registered
    rcases back first one oneFound with ⟨oldOne, oldOneFound, oneId, _⟩
    rcases back second other otherFound with ⟨oldOther, oldOtherFound, otherId, _⟩
    rw [oneId] at registered ⊢
    rw [otherId]
    exact isolated.distinct first second oldOne oldOther different oldOneFound oldOtherFound
      registered
  · intro owner held
    rw [requests, Locks.getElem?_set_of_found found]
    rcases hands with free | ⟨taken, sending⟩ | ⟨unchanged, stays⟩
    · rw [free] at held
      cases held
    · obtain rfl := Option.mem_unique taken held
      exact ⟨after, if_pos rfl, sending⟩
    · rw [unchanged] at held
      rcases isolated.writer owner held with ⟨sender, senderFound, sending⟩
      split
      · rename_i here
        subst here
        obtain rfl := Option.mem_unique found senderFound
        exact ⟨after, rfl, stays sending⟩
      · exact ⟨sender, senderFound, sending⟩

variable {label : ClientLabel}

/-- One request changes, and the server, the recorded keys and the connection do not. -/
theorem Isolated.replaced (isolated : Isolated done client)
    (found : client.requests[number]? = some before)
    (requests : next.requests = client.requests.set number after)
    (server : next.unanswered = client.unanswered)
    (keys : ∀ key ∈ client.cancelled, key ∈ next.cancelled)
    (connection : next.connection = client.connection)
    (generation : next.generation = client.generation) (nextId : next.nextId = client.nextId)
    (closing : next.closing = client.closing)
    (same : after.id = before.id) (owner : after.generation = before.generation)
    (handed : before.handed = true → after.handed = true)
    (fits : after.Fits client.unanswered (.cancel number ∈ done ++ [label]))
    (kept : before.pending = true → 0 < before.id →
      (before.generation, before.id) ∈ client.unanswered →
      after.pending = true ∨ (before.generation, before.id) ∈ next.cancelled)
    (hands : client.Hands next number before after) :
    Isolated (done ++ [label]) next := by
  have lookup := Locks.getElem?_set_of_found found after
  rw [← requests] at lookup
  refine isolated.exchanged found requests connection generation nextId closing same owner
    ?_ ?_ ?_ ?_ hands
  · intro other request requestFound
    rw [lookup] at requestFound
    rw [server]
    split at requestFound
    · rename_i here
      subst here
      cases requestFound
      exact fits
    · apply (isolated.fits other request requestFound).congr
      · intro _ present
        exact present
      · intro own
        exact mem_append_left _ own
  · intro key present
    rw [server] at present
    rcases isolated.sent key present with ⟨other, sender, senderFound, sent, registered, rfl⟩
    by_cases here : other = number
    · subst here
      obtain rfl := Option.mem_unique found senderFound
      refine ⟨other, after, by rw [lookup, if_pos rfl], handed sent, ?_, ?_⟩
      · rw [same]
        exact registered
      · rw [same, owner]
    · exact ⟨other, sender, by rw [lookup, if_neg here, senderFound], sent, registered, rfl⟩
  · intro other request requestFound present registered
    rw [server] at present
    rw [lookup] at requestFound
    split at requestFound
    · rename_i here
      subst here
      cases requestFound
      rw [same, owner] at present ⊢
      rw [same] at registered
      rcases isolated.known other before found present registered with pending | recorded
      · exact kept pending registered present
      · exact .inr (keys _ recorded)
    · rcases isolated.known other request requestFound present registered with pending | recorded
      · exact .inl pending
      · exact .inr (keys _ recorded)
  · rw [server]
    exact isolated.once

theorem Isolated.congr (isolated : Isolated done client)
    (requests : next.requests = client.requests) (server : next.unanswered = client.unanswered)
    (keys : next.cancelled = client.cancelled) (connection : next.connection = client.connection)
    (generation : next.generation = client.generation) (nextId : next.nextId = client.nextId)
    (closing : next.closing = client.closing) (writer : next.writer = client.writer) :
    Isolated (done ++ [label]) next := by
  rcases isolated with ⟨unclosed, single, fits, current, fresh, distinct, sent, known, once, owner⟩
  rw [← closing] at unclosed
  rw [← connection, ← generation] at single
  rw [← requests] at fits current fresh distinct sent known owner
  rw [← server] at fits sent known once
  rw [← connection] at current
  rw [← nextId] at fresh
  rw [← keys] at known
  rw [← writer] at owner
  refine ⟨unclosed, single, ?_, current, fresh, distinct, sent, known, once, owner⟩
  intro number request found
  apply (fits number request found).congr
  · intro _ present
    exact present
  · intro own
    exact mem_append_left _ own

theorem Isolated.entered (isolated : Isolated done client) {owner : Option ℕ}
    {label : ClientLabel} (requests : next.requests = (client.enter owner).requests)
    (server : next.unanswered = client.unanswered) (keys : next.cancelled = client.cancelled)
    (connection : next.connection = client.connection)
    (generation : next.generation = client.generation) (nextId : next.nextId = client.nextId)
    (closing : next.closing = client.closing) (writer : next.writer = client.writer) :
    Isolated (done ++ [label]) next := by
  have back : ∀ (number : ℕ) (request : Request), next.requests[number]? = some request →
      client.requests[number]? = some request ∨
        (request.id = 0 ∧ request.pending = false ∧ request.handed = false ∧
          request.phase = .connecting) := by
    intro number request found
    rw [requests] at found
    rcases Locks.getElem?_append_one found with old | ⟨_, rfl⟩
    · exact .inl old
    · refine .inr ⟨rfl, rfl, rfl, ?_⟩
      simp only [isolated.unclosed, Bool.false_eq_true, if_false]
  have registeredBefore : ∀ (number : ℕ) (request : Request),
      next.requests[number]? = some request → 0 < request.id →
      client.requests[number]? = some request := by
    intro number request found registered
    rcases back number request found with old | ⟨unregistered, _⟩
    · exact old
    · rw [unregistered] at registered
      cases registered
  constructor
  · rw [closing, isolated.unclosed]
  · rw [connection, generation]
    exact isolated.single
  · intro number request found
    rw [server]
    rcases back number request found with old | ⟨unregistered, pending, unhanded, phase⟩
    · apply (isolated.fits number request old).congr
      · intro _ present
        exact present
      · intro own
        exact mem_append_left _ own
    · unfold Request.Fits
      simp only [phase]
      exact ⟨pending, unhanded, unregistered⟩
  · intro number request found registered
    rw [connection]
    exact isolated.current number request (registeredBefore number request found registered)
      registered
  · intro number request found
    rw [nextId]
    rcases back number request found with old | ⟨unregistered, _⟩
    · exact isolated.fresh number request old
    · rw [unregistered]
      exact Nat.zero_le _
  · intro first second one other different oneFound otherFound registered
    have oneBefore := registeredBefore first one oneFound registered
    rcases back second other otherFound with old | ⟨unregistered, _⟩
    · exact isolated.distinct first second one other different oneBefore old registered
    · rw [unregistered]
      exact registered.ne'
  · intro key present
    rw [server] at present
    rcases isolated.sent key present with ⟨number, sender, found, rest⟩
    refine ⟨number, sender, ?_, rest⟩
    rw [requests]
    exact Locks.getElem?_append_left found _
  · intro number request found present registered
    rw [server] at present
    rw [keys]
    exact isolated.known number request (registeredBefore number request found registered)
      present registered
  · rw [server]
    exact isolated.once
  · intro number held
    rw [writer] at held
    rcases isolated.writer number held with ⟨sender, found, sending⟩
    refine ⟨sender, ?_, sending⟩
    rw [requests]
    exact Locks.getElem?_append_left found _

theorem Isolated.connected (isolated : Isolated done client)
    (stepped : client.step .connected = some next) : Isolated (done ++ [label]) next := by
  rcases of_guard stepped with ⟨lost, rfl⟩
  have generation : client.generation = 0 := by
    rcases isolated.single with ⟨_, first⟩ | ⟨held, _⟩
    · exact first
    · rw [lost.1] at held
      cases held
  constructor
  · exact isolated.unclosed
  · refine .inr ⟨?_, ?_⟩ <;> simp only [generation]
  · intro number request found
    apply (isolated.fits number request found).congr
    · intro _ present
      exact present
    · intro own
      exact mem_append_left _ own
  · intro number request found registered
    have held := isolated.current number request found registered
    rw [lost.1] at held
    cases held
  · intro number request found
    exact Nat.le_succ_of_le (isolated.fresh number request found)
  · exact isolated.distinct
  · exact isolated.sent
  · exact isolated.known
  · exact isolated.once
  · exact isolated.writer

theorem Isolated.register (isolated : Isolated done client)
    (stepped : client.register number = some next) : Isolated (done ++ [label]) next := by
  rcases Option.bind_eq_some_iff.mp stepped with ⟨request, found, stepped⟩
  split at stepped
  · rename_i generation phase held
    cases stepped
    have fits := isolated.fits number request found
    unfold Request.Fits at fits
    simp only [phase] at fits
    have lookup := @Locks.getElem?_set_of_found _ client.requests number request found
    constructor
    · exact isolated.unclosed
    · exact isolated.single
    · intro other entry entryFound
      simp only [put, lookup] at entryFound
      split at entryFound
      · cases entryFound
        exact ⟨rfl, rfl, fits.2.1, Nat.succ_pos _⟩
      · apply (isolated.fits other entry entryFound).congr
        · intro _ present
          exact present
        · intro own
          exact mem_append_left _ own
    · intro other entry entryFound registered
      simp only [put, lookup] at entryFound
      split at entryFound
      · cases entryFound
        exact held
      · exact isolated.current other entry entryFound registered
    · intro other entry entryFound
      simp only [put, lookup] at entryFound
      split at entryFound
      · cases entryFound
        exact le_refl _
      · exact Nat.le_succ_of_le (isolated.fresh other entry entryFound)
    · intro first second one other different oneFound otherFound registered
      simp only [put, lookup] at oneFound otherFound
      split at oneFound
      · rename_i here
        cases oneFound
        rw [if_neg fun also => different (here.trans also.symm)] at otherFound
        exact (Nat.lt_succ_of_le (isolated.fresh second other otherFound)).ne'
      · split at otherFound
        · cases otherFound
          exact (Nat.lt_succ_of_le (isolated.fresh first one oneFound)).ne
        · exact isolated.distinct first second one other different oneFound otherFound registered
    · intro key present
      rcases isolated.sent key present with ⟨other, sender, senderFound, handed, rest⟩
      refine ⟨other, sender, ?_, handed, rest⟩
      simp only [put, lookup]
      rw [if_neg, senderFound]
      rintro rfl
      obtain rfl := Option.mem_unique found senderFound
      rw [fits.2.1] at handed
      cases handed
    · intro other entry entryFound present registered
      simp only [put, lookup] at entryFound
      split at entryFound
      · cases entryFound
        exact .inl rfl
      · exact isolated.known other entry entryFound present registered
    · exact isolated.once
    · intro owner taken
      rcases isolated.writer owner taken with ⟨sender, senderFound, sending⟩
      refine ⟨sender, ?_, sending⟩
      simp only [put, lookup]
      rw [if_neg, senderFound]
      rintro rfl
      obtain rfl := Option.mem_unique found senderFound
      rw [phase] at sending
      cases sending
  · cases stepped

/-- A request that has registered is on the current connection, so taking the lock never fails. -/
theorem Isolated.lock (isolated : Isolated done client)
    (stepped : client.lock number = some next) : Isolated (done ++ [label]) next := by
  rcases Option.bind_eq_some_iff.mp stepped with ⟨request, found, stepped⟩
  rcases Option.ite_none_right_eq_some.mp stepped with ⟨ready, stepped⟩
  have fits := isolated.fits number request found
  unfold Request.Fits at fits
  simp only [ready.1] at fits
  rw [if_pos (isolated.current number request found fits.2.2.2)] at stepped
  cases stepped
  refine isolated.replaced found rfl rfl (fun _ recorded => recorded) rfl rfl rfl rfl rfl rfl
    (fun handed => handed) ?_ (fun pending _ _ => .inl pending) (.inr (.inl ⟨rfl, rfl⟩))
  exact ⟨fits.2.2.2, .inl ⟨fits.2.2.1, fits.1, fits.2.1⟩⟩

theorem Isolated.write (isolated : Isolated done client)
    (stepped : client.write number = some next) : Isolated (done ++ [label]) next := by
  rcases Option.bind_eq_some_iff.mp stepped with ⟨request, found, stepped⟩
  rcases of_guard stepped with ⟨ready, rfl⟩
  have fits := isolated.fits number request found
  unfold Request.Fits at fits
  simp only [ready.1] at fits
  rcases fits with ⟨registered, ⟨_, pending, unset⟩ | ⟨handed, _⟩⟩
  · have absent := isolated.unsent found registered ready.2
    have lookup := @Locks.getElem?_set_of_found _ client.requests number request found
    have own : (request.generation, request.id) ∈
        client.unanswered ++ [(request.generation, request.id)] :=
      mem_append_right _ (mem_singleton_self _)
    refine isolated.exchanged found rfl rfl rfl rfl rfl rfl rfl ?_ ?_ ?_ ?_
      (.inr (.inr ⟨rfl, fun sending => sending⟩))
    · intro other entry entryFound
      simp only [put, lookup] at entryFound
      split at entryFound
      · cases entryFound
        unfold Request.Fits
        simp only [ready.1]
        exact ⟨registered, .inr ⟨trivial, .inl ⟨pending, unset, own⟩⟩⟩
      · apply (isolated.fits other entry entryFound).congr
        · intro _ present
          exact mem_append_left _ present
        · intro cancelled
          exact mem_append_left _ cancelled
    · intro key present
      rcases mem_append.mp present with before | new
      · rcases isolated.sent key before with ⟨other, sender, senderFound, handed, rest⟩
        refine ⟨other, sender, ?_, handed, rest⟩
        simp only [put, lookup]
        rw [if_neg, senderFound]
        rintro rfl
        obtain rfl := Option.mem_unique found senderFound
        rw [ready.2] at handed
        cases handed
      · refine ⟨number, { request with handed := true }, ?_, rfl, registered,
          mem_singleton.mp new⟩
        simp only [put, lookup]
        exact if_pos trivial
    · intro other entry entryFound present live
      simp only [put, lookup] at entryFound
      split at entryFound
      · cases entryFound
        exact .inl pending
      · rename_i elsewhere
        rcases mem_append.mp present with before | new
        · exact isolated.known other entry entryFound before live
        · refine absurd (Prod.mk.inj (mem_singleton.mp new)).2 ?_
          exact isolated.distinct other number entry request elsewhere entryFound found live
    · exact nodup_append.mpr ⟨isolated.once, nodup_singleton _, by
        intro key before new new' same
        rw [mem_singleton.mp new'] at same
        exact absent (same ▸ before)⟩
  · rw [ready.2] at handed
    cases handed

theorem Isolated.sendReturns (isolated : Isolated done client)
    (stepped : client.sendReturns number = some next) : Isolated (done ++ [label]) next := by
  rcases Option.bind_eq_some_iff.mp stepped with ⟨request, found, stepped⟩
  rcases of_guard stepped with ⟨ready, rfl⟩
  have fits := isolated.fits number request found
  unfold Request.Fits at fits
  simp only [ready.1] at fits
  refine isolated.replaced found rfl rfl (fun _ recorded => recorded) rfl rfl rfl rfl rfl rfl
    (fun handed => handed) ?_ (fun pending _ _ => .inl pending) (.inl rfl)
  rcases fits with ⟨registered, ⟨unhanded, _⟩ | ⟨handed, waits⟩⟩
  · rw [ready.2] at unhanded
    cases unhanded
  · exact ⟨registered, handed, waits⟩

/-- The reader recognises the response of every request that is cancelled here. -/
theorem Isolated.cancel (isolated : Isolated done client)
    (recognised : ∀ request, client.requests[number]? = some request → request.pending = true →
      (request.phase = .sending → request.handed = false) ∧
        (request.phase = .awaiting → client.cancelled.length < 256))
    (stepped : client.cancel number = some next) :
    Isolated (done ++ [.cancel number]) next := by
  have own : (ClientLabel.cancel number) ∈ done ++ [.cancel number] :=
    mem_append_right _ (mem_singleton_self _)
  rcases Option.bind_eq_some_iff.mp stepped with ⟨request, found, stepped⟩
  have fits := isolated.fits number request found
  unfold Request.Fits at fits
  cases phase : request.phase with
  | connecting =>
    simp only [phase] at fits stepped
    cases stepped
    refine isolated.replaced found rfl rfl (fun _ recorded => recorded) rfl rfl rfl rfl rfl rfl
      (fun handed => handed) ⟨fits.1, .inr ⟨rfl, own⟩⟩ ?_
      (hands_of_phase rfl (by rw [phase]; exact nofun))
    intro pending
    rw [fits.1] at pending
    cases pending
  | locking =>
    simp only [phase] at fits stepped
    cases stepped
    refine isolated.replaced found rfl rfl (fun _ recorded => recorded) rfl rfl rfl rfl rfl rfl
      (fun handed => handed) ⟨rfl, .inr ⟨rfl, own⟩⟩ ?_
      (hands_of_phase rfl (by rw [phase]; exact nofun))
    intro _ registered present
    exact absurd present (isolated.unsent found registered fits.2.2.1)
  | sending =>
    simp only [phase] at fits stepped
    cases stepped
    refine isolated.replaced found rfl rfl (fun _ recorded => recorded) rfl rfl rfl rfl rfl rfl
      (fun handed => handed) ⟨rfl, .inr ⟨rfl, own⟩⟩ ?_ (.inl rfl)
    intro pending registered present
    refine absurd present (isolated.unsent found registered ?_)
    exact (recognised request found pending).1 phase
  | awaiting =>
    simp only [phase] at fits stepped
    split at stepped
    · rename_i pending
      cases stepped
      have room := (recognised request found pending).2 phase
      have kept : ((client.put number (request.pop.finish .cancelled)).remember
          (request.generation, request.id)).cancelled =
            client.cancelled ++ [(request.generation, request.id)] := if_neg (by
        simp only [put]
        omega)
      refine isolated.replaced found rfl rfl ?_ rfl rfl rfl rfl rfl rfl
        (fun handed => handed) ⟨rfl, .inr ⟨rfl, own⟩⟩ ?_
        (hands_of_phase rfl (by rw [phase]; exact nofun))
      · intro key recorded
        rw [kept]
        exact mem_append_left _ recorded
      · intro _ _ _
        rw [kept]
        exact .inr (mem_append_right _ (mem_singleton_self _))
    · rename_i unpending
      cases stepped
      simp only [Bool.not_eq_true] at unpending
      refine isolated.replaced found rfl rfl (fun _ recorded => recorded) rfl rfl rfl rfl rfl rfl
        (fun handed => handed) ⟨unpending, .inr ⟨rfl, own⟩⟩ ?_
        (hands_of_phase rfl (by rw [phase]; exact nofun))
      intro pending
      rw [unpending] at pending
      cases pending
  | finished outcome =>
    simp only [phase] at stepped
    cases stepped

theorem Isolated.wake (isolated : Isolated done client) {number : ℕ} {label : ClientLabel}
    (stepped : client.wake number = some next) : Isolated (done ++ [label]) next := by
  rcases Option.bind_eq_some_iff.mp stepped with ⟨request, found, stepped⟩
  have fits := isolated.fits number request found
  unfold Request.Fits at fits
  split at stepped
  · rename_i reply phase answered
    simp only [phase] at fits
    rcases fits with ⟨registered, _, ⟨_, unset, _⟩ | ⟨popped, future⟩⟩
    · rw [answered] at unset
      cases unset
    · obtain rfl := Reply.value.inj (answered.symm.trans future)
      have held := isolated.current number request found registered
      rw [if_pos ⟨rfl, by rw [held]; exact nofun⟩] at stepped
      cases stepped
      refine isolated.replaced found rfl rfl (fun _ recorded => recorded) rfl rfl rfl rfl rfl rfl
        (fun handed => handed) ⟨popped, .inl rfl⟩ ?_
        (hands_of_phase rfl (by rw [phase]; exact nofun))
      intro pending
      rw [popped] at pending
      cases pending
  · rename_i error phase failed
    simp only [phase] at fits
    rcases fits with ⟨_, _, ⟨_, unset, _⟩ | ⟨_, future⟩⟩
    · rw [failed] at unset
      cases unset
    · rw [failed] at future
      cases future
  · cases stepped

/-- The response goes to the pending request with its id, or its key is recorded as cancelled. -/
theorem Isolated.respond (isolated : Isolated done client) {id : ℕ}
    {generation : ℕ} (held : client.connection = some generation)
    (owed : (generation, id) ∈ client.unanswered) (stepped : client.respond id = some next) :
    Isolated (done ++ [label]) next := by
  rcases isolated.sent _ owed with ⟨number, sender, senderFound, handed, registered, key⟩
  obtain ⟨rfl, rfl⟩ := Prod.mk.inj key
  rcases Option.map_eq_some_iff.mp stepped with ⟨current, again, stepped⟩
  obtain rfl := Option.mem_unique held again
  -- Another request has another id.
  have elsewhere : ∀ (other : ℕ) (entry : Request), other ≠ number →
      client.requests[other]? = some entry →
      (entry.generation, entry.id) ≠ (sender.generation, sender.id) := by
    intro other entry different found same
    exact isolated.distinct number other sender entry different.symm senderFound found registered
      (Prod.mk.inj same).2.symm
  have remains : ∀ key ∈ client.unanswered.erase (sender.generation, sender.id),
      key ∈ client.unanswered ∧ key ≠ (sender.generation, sender.id) := by
    intro key present
    exact ⟨mem_of_mem_erase present, fun same =>
      isolated.once.not_mem_erase (same ▸ present)⟩
  have congr : ∀ (other : ℕ) (entry : Request), client.requests[other]? = some entry →
      (entry.pending = true → other ≠ number) →
      entry.Fits (client.unanswered.erase (sender.generation, sender.id))
        (.cancel other ∈ done ++ [label]) := by
    intro other entry found unrelated
    apply (isolated.fits other entry found).congr
    · intro pending present
      exact (mem_erase_of_ne (elsewhere other entry (unrelated pending) found)).mpr present
    · intro own
      exact mem_append_left _ own
  cases waiting : client.requests.findIdx? fun request =>
      request.pending && decide (request.id = sender.id) with
  | some found =>
    rcases findIdx?_eq_some_iff_getElem.mp waiting with ⟨inside, chosen, _⟩
    simp only [Bool.and_eq_true, decide_eq_true_eq] at chosen
    have chosenFound := getElem?_eq_getElem inside
    -- Only the sender has this id.
    have here : found = number := by
      by_contra different
      exact isolated.distinct number found sender _ (Ne.symm different) senderFound chosenFound
        registered chosen.2.symm
    subst here
    rw [Option.mem_unique chosenFound senderFound] at chosen
    simp only [waiting, senderFound, if_true] at stepped
    subst stepped
    have lookup := @Locks.getElem?_set_of_found _ client.requests found _ senderFound
    have fits := isolated.fits found _ senderFound
    refine isolated.exchanged senderFound rfl rfl rfl rfl rfl rfl rfl ?_ ?_ ?_ ?_
      (.inr (.inr ⟨rfl, fun sending => sending⟩))
    · intro other entry entryFound
      simp only [put, lookup] at entryFound
      split at entryFound
      · rename_i here
        subst here
        cases entryFound
        exact (fits.answered chosen.1 handed).congr (fun pending => by cases pending)
          fun own => mem_append_left _ own
      · rename_i different
        exact congr other entry entryFound fun _ => different
    · intro key present
      have both := remains key present
      rcases isolated.sent key both.1 with ⟨other, entry, entryFound, rest⟩
      refine ⟨other, entry, ?_, rest⟩
      simp only [put, lookup]
      rw [if_neg, entryFound]
      rintro rfl
      obtain rfl := Option.mem_unique senderFound entryFound
      exact both.2 rest.2.2
    · intro other entry entryFound present live
      have both := remains _ present
      simp only [put, lookup] at entryFound
      split at entryFound
      · cases entryFound
        exact absurd rfl both.2
      · exact isolated.known other entry entryFound both.1 live
    · exact isolated.once.erase _
  | none =>
    have unpending : ∀ (other : ℕ) (entry : Request), client.requests[other]? = some entry →
        entry.pending = true → entry.id ≠ sender.id := by
      intro other entry found pending same
      have missed := findIdx?_eq_none_iff.mp waiting entry (mem_of_getElem? found)
      simp [pending, same] at missed
    have recorded : (sender.generation, sender.id) ∈ client.cancelled := by
      rcases isolated.known number sender senderFound owed registered with pending | recorded
      · exact absurd rfl (unpending number sender senderFound pending)
      · exact recorded
    simp only [waiting] at stepped
    rw [if_pos recorded] at stepped
    subst stepped
    constructor
    · exact isolated.unclosed
    · exact isolated.single
    · intro other entry found
      apply congr other entry found
      rintro pending rfl
      obtain rfl := Option.mem_unique senderFound found
      exact unpending other sender found pending rfl
    · exact isolated.current
    · exact isolated.fresh
    · exact isolated.distinct
    · intro key present
      exact isolated.sent key (remains key present).1
    · intro other entry found present live
      have both := remains _ present
      rcases isolated.known other entry found both.1 live with pending | late
      · exact .inl pending
      · exact .inr ((mem_erase_of_ne both.2).mpr late)
    · exact isolated.once.erase _
    · exact isolated.writer

/-! ### The runs -/

/-- The server answers what it has received and not answered, and nothing else ends the
connection. -/
def Served (client : RuntimeClient) : ClientLabel → Prop
  | .respond id =>
    match client.connection with
    | some generation => (generation, id) ∈ client.unanswered
    | none => False
  | .connectFails _ _ | .sendFails _ | .malformed | .lose _ | .fence | .close => False
  | _ => True

instance (client : RuntimeClient) (label : ClientLabel) : Decidable (client.Served label) :=
  match label with
  | .respond id =>
    match held : client.connection with
    | some generation =>
      decidable_of_iff ((generation, id) ∈ client.unanswered) (by simp [Served, held])
    | none => isFalse (by simp [Served, held])
  | .connectFails _ _ | .sendFails _ | .malformed | .lose _ | .fence | .close => isFalse not_false
  | .request | .command | .connected | .register _ | .lock _ | .encodeFails _ | .write _
  | .sendReturns _ | .cancel _ | .wake _ | .settle _ | .retry _ => isTrue trivial

/-- Every frame can be encoded, and no pending request is cancelled inside `send` behind the write,
or while it waits and 256 cancelled requests are recorded. -/
def Recognised (client : RuntimeClient) : ClientLabel → Prop
  | .encodeFails _ => False
  | .cancel number =>
    client.requests[number]?.all fun request =>
      !request.pending || !(decide (request.phase = .sending) && request.handed) &&
        (decide (request.phase ≠ .awaiting) || decide (client.cancelled.length < 256))
  | _ => True

instance (client : RuntimeClient) (label : ClientLabel) : Decidable (client.Recognised label) :=
  match label with
  | .encodeFails _ => isFalse not_false
  | .cancel _ => inferInstanceAs (Decidable (_ = true))
  | .request | .command | .connected | .connectFails _ _ | .register _ | .lock _ | .write _
  | .sendReturns _ | .sendFails _ | .respond _ | .malformed | .lose _ | .fence | .wake _
  | .settle _ | .retry _ | .close => isTrue trivial

theorem Isolated.step (isolated : Isolated done client)
    (served : client.Served label) (recognised : client.Recognised label)
    (stepped : client.step label = some next) : Isolated (done ++ [label]) next := by
  cases label with
  | request =>
    have entered := Option.some.inj stepped
    subst entered
    exact @Isolated.entered client _ done isolated none _ rfl rfl rfl rfl rfl rfl rfl rfl
  | command =>
    cases stepped
    exact isolated.entered rfl rfl rfl rfl rfl rfl rfl rfl
  | connected => exact isolated.connected stepped
  | register number => exact isolated.register stepped
  | lock number => exact isolated.lock stepped
  | write number => exact isolated.write stepped
  | sendReturns number => exact isolated.sendReturns stepped
  | cancel number =>
    apply isolated.cancel _ stepped
    intro request found pending
    simp only [Recognised, found, Option.all_some, pending, Bool.not_true, Bool.false_or,
      Bool.and_eq_true, Bool.not_eq_true', Bool.or_eq_true, decide_eq_true_eq] at recognised
    refine ⟨?_, ?_⟩
    · intro sending
      simpa [sending] using recognised.1
    · intro awaiting
      simpa [awaiting] using recognised.2
  | respond id =>
    simp only [Served] at served
    split at served
    · rename_i generation held
      exact isolated.respond held served stepped
    · cases served
  | wake number => exact isolated.wake stepped
  | settle number =>
    rcases Option.bind_eq_some_iff.mp stepped with ⟨⟨command, outcome⟩, _, stepped⟩
    rcases Option.map_eq_some_iff.mp stepped with ⟨result, _, rfl⟩
    exact (isolated.congr rfl rfl rfl rfl rfl rfl rfl rfl)
  | retry number =>
    rcases Option.bind_eq_some_iff.mp stepped with ⟨⟨command, outcome⟩, _, stepped⟩
    rcases of_guard stepped with ⟨_, rfl⟩
    exact isolated.entered rfl rfl rfl rfl rfl rfl rfl rfl
  | encodeFails number => exact recognised.elim
  | connectFails number error => exact served.elim
  | sendFails number => exact served.elim
  | malformed => exact served.elim
  | lose policy => exact served.elim
  | fence => exact served.elim
  | close => exact served.elim

theorem Isolated.of_run {labels : List ClientLabel} (isolated : Isolated done client)
    (guarded : machine.Guarded (fun client label => client.Served label ∧ client.Recognised label)
      client labels)
    (ran : machine.run client labels = some next) : Isolated (done ++ labels) next := by
  induction labels generalizing done client with
  | nil =>
    obtain rfl : client = next := by simpa using ran
    rw [append_nil]
    exact isolated
  | cons label labels ih =>
    rcases Machine.run_cons.mp ran with ⟨middle, stepped, rest⟩
    have after := ih (isolated.step guarded.1.1 guarded.1.2 stepped) (guarded.2 middle stepped) rest
    rwa [append_assoc] at after

/-- What the client and the transport do by themselves, once the server has answered. -/
def Advances : ClientLabel → Prop
  | .connected | .register _ | .lock _ | .write _ | .sendReturns _ | .wake _ => True
  | _ => False

/-- When nothing is owed and nothing can go on, every request has finished. -/
theorem Isolated.settled (isolated : Isolated done client) (answered : client.unanswered = [])
    (stuck : ∀ label, Advances label → client.step label = none) {number : ℕ}
    {request : Request} (found : client.requests[number]? = some request) :
    ∃ outcome, request.phase = .finished outcome := by
  have sendingGoesOn : ∀ (other : ℕ) (sender : Request),
      client.requests[other]? = some sender → sender.phase ≠ .sending := by
    intro other sender senderFound sending
    cases handed : sender.handed with
    | false =>
      have refused := stuck (.write other) trivial
      simp [RuntimeClient.step, RuntimeClient.write, senderFound, sending, handed] at refused
    | true =>
      have refused := stuck (.sendReturns other) trivial
      simp [RuntimeClient.step, RuntimeClient.sendReturns, senderFound, sending, handed] at refused
  have fits := isolated.fits number request found
  unfold Request.Fits at fits
  cases phase : request.phase with
  | connecting =>
    rcases isolated.single with ⟨lost, _⟩ | ⟨held, _⟩
    · have refused := stuck .connected trivial
      simp [RuntimeClient.step, lost, isolated.unclosed] at refused
    · have refused := stuck (.register number) trivial
      simp [RuntimeClient.step, RuntimeClient.register, found, phase, held] at refused
  | locking =>
    simp only [phase] at fits
    have refused := stuck (.lock number) trivial
    cases held : client.writer with
    | none =>
      have current := isolated.current number request found fits.2.2.2
      simp [RuntimeClient.step, RuntimeClient.lock, found, phase, held, current] at refused
    | some owner =>
      rcases isolated.writer owner held with ⟨sender, senderFound, sending⟩
      exact absurd sending (sendingGoesOn owner sender senderFound)
  | sending => exact absurd phase (sendingGoesOn number request found)
  | awaiting =>
    simp only [phase, answered] at fits
    rcases fits with ⟨_, _, ⟨_, _, owed⟩ | ⟨_, future⟩⟩
    · cases owed
    · have refused := stuck (.wake number) trivial
      simp only [RuntimeClient.step, RuntimeClient.wake, found, phase, future,
        Option.bind_some] at refused
      split at refused <;> cases refused
  | finished outcome => exact ⟨outcome, rfl⟩

/-- While every late response can be recognised, the connection is not lost, a request that has
finished has returned the response with its own id or was cancelled by its caller, and once the
server has answered everything the others can go on until they have finished too. -/
theorem isolated_of_recognised {maxAttempts : ℕ} {labels : List ClientLabel}
    (guarded : machine.Guarded (fun client label => client.Served label ∧ client.Recognised label)
      (init maxAttempts) labels)
    (ran : machine.run (init maxAttempts) labels = some client) :
    (0 < client.generation → client.connection = some client.generation) ∧
    (∀ (number : ℕ) (request : Request) (outcome : RequestOutcome),
      client.requests[number]? = some request → request.phase = .finished outcome →
      outcome = .returned request.id ∨ (outcome = .cancelled ∧ .cancel number ∈ labels)) ∧
    (client.unanswered = [] →
      (∀ label, Advances label → client.step label = none) →
      ∀ (number : ℕ) (request : Request), client.requests[number]? = some request →
        ∃ outcome, request.phase = .finished outcome) := by
  have isolated : Isolated labels client := (isolated_init maxAttempts).of_run guarded ran
  refine ⟨?_, ?_, ?_⟩
  · intro connected
    rcases isolated.single with ⟨_, first⟩ | ⟨held, current⟩
    · rw [first] at connected
      cases connected
    · rw [held, current]
  · intro number request outcome found phase
    have fits := isolated.fits number request found
    unfold Request.Fits at fits
    simp only [phase] at fits
    exact fits.2
  · intro answered stuck number request found
    exact isolated.settled answered stuck found

/-- Two requests of which the first is cancelled, here behind the write or while it waits. -/
def cancelledLabels (early : Bool) : List ClientLabel :=
  [.request, .request, .connected, .register 0, .register 1, .lock 0, .write 0] ++
    (if early then [.cancel 0] else [.sendReturns 0, .cancel 0]) ++
    [.lock 1, .write 1, .sendReturns 1]

/-- The late response is recognised, and the other request gets its own. -/
theorem isolated_of_recognised_late : ∃ client,
    machine.run (init 3) (cancelledLabels false ++ [.respond 2, .respond 3, .wake 1]) =
      some client ∧ client.connection = some client.generation := by
  have reached : ∃ client,
      machine.run (init 3) (cancelledLabels false ++ [.respond 2, .respond 3, .wake 1]) =
        some client ∧
      machine.Guarded (fun client label => client.Served label ∧ client.Recognised label) (init 3)
        (cancelledLabels false ++ [.respond 2, .respond 3, .wake 1]) ∧
      0 < client.generation := by
    decide +kernel
  rcases reached with ⟨client, ran, guarded, connected⟩
  exact ⟨client, ran, (isolated_of_recognised guarded ran).1 connected⟩

/-- A request is cancelled inside `send` behind the write. Its response is a protocol error, and
the other request, which nobody cancelled, fails with the connection. -/
theorem sibling_fails : ∃ client,
    machine.run (init 3) (cancelledLabels true ++ [.respond 2, .wake 1]) = some client ∧
      machine.Guarded Served (init 3) (cancelledLabels true ++ [.respond 2, .wake 1]) ∧
      client.connection = none ∧
      ∃ request, client.requests[1]? = some request ∧
        request.phase = .finished (.raised .protocol) := by
  decide +kernel

end RuntimeClient

end Synapse.Transport
