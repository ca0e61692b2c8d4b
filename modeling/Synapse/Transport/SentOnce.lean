import Synapse.Transport.Requests

/-!
# A command is sent once

An attempt whose frame the transport has taken is the last one of its command, and a lost
connection then makes the outcome ambiguous. This rests on the sent flag, which is set only after
`send` has returned: it is out of date when `send` fails behind the write, when the connection is
lost in between, and when the frame is written after the connection was lost.
-/

namespace Synapse.Transport

open List

/-! ### One request -/

/-- A request that was lost with an unset flag has not handed its frame over. -/
structure Request.Honest (request : Request) : Prop where
  started : request.handed = true → request.phase ≠ .connecting ∧ request.phase ≠ .locking
  frozen : request.future = .failed (.connectionLost false) → request.handed = false
  flagged : request.phase = .awaiting → request.pending = true → request.sentFlag = some true
  lost : request.phase = .finished (.raised (.connectionLost false)) → request.handed = false
  active : request.pending = true →
    request.phase = .locking ∨ request.phase = .sending ∨ request.phase = .awaiting
  unset : request.pending = true → request.future = .unset

/-- What the other requests see of a step: a command keeps its request, and what has ended stays
so. -/
structure Request.Evolves (before after : Request) : Prop where
  command : after.command = before.command
  finished : ∀ outcome, before.phase = .finished outcome → after.phase = .finished outcome

theorem Request.Evolves.refl (request : Request) : request.Evolves request :=
  ⟨rfl, fun _ ended => ended⟩

theorem Request.evolves_of_phase {before after : Request} (command : after.command = before.command)
    (unfinished : ∀ outcome, before.phase ≠ .finished outcome) : before.Evolves after :=
  ⟨command, fun outcome ended => absurd ended (unfinished outcome)⟩

theorem Request.fail_phase (request : Request) (generation : ℕ) (cause : Cause) (closing : Bool) :
    (request.fail generation cause closing).phase = request.phase := by
  unfold Request.fail
  split <;> rfl

theorem Request.fail_evolves (request : Request) (generation : ℕ) (cause : Cause)
    (closing : Bool) : request.Evolves (request.fail generation cause closing) := by
  refine ⟨?_, ?_⟩
  · unfold Request.fail
    split <;> rfl
  · intro outcome ended
    rw [Request.fail_phase, ended]

theorem Request.honest_of_popped {request : Request} (popped : request.pending = false)
    (started : request.handed = true → request.phase ≠ .connecting ∧ request.phase ≠ .locking)
    (frozen : request.future = .failed (.connectionLost false) → request.handed = false)
    (lost : request.phase = .finished (.raised (.connectionLost false)) →
      request.handed = false) : request.Honest where
  started := started
  frozen := frozen
  flagged := by
    intro _ pending
    rw [popped] at pending
    cases pending
  lost := lost
  active := by
    intro pending
    rw [popped] at pending
    cases pending
  unset := by
    intro pending
    rw [popped] at pending
    cases pending

variable {cause : Cause}

theorem Cause.error_lost {closing sent : Bool}
    (lost : cause.error closing sent = .connectionLost false) : sent = false := by
  unfold Cause.error at lost
  split at lost
  · cases lost
  · split at lost
    · cases lost
    · cases lost
    · simpa using lost

variable {request : Request}

/-- The flag that a failing generation freezes is right while no frame of it is inside `send`. -/
theorem Request.Honest.fail (honest : request.Honest) {generation : ℕ}
    {closing : Bool}
    (outside : cause.error closing false = .connectionLost false → request.pending = true →
      request.generation = generation → request.phase = .sending → request.handed = false) :
    (request.fail generation cause closing).Honest := by
  unfold Request.fail
  split
  · rename_i owned
    have lost := honest.lost
    refine Request.honest_of_popped rfl honest.started ?_ honest.lost
    intro frozen
    simp only [honest.unset owned.1, if_true, Reply.failed.injEq] at frozen
    -- The future was unset, and the exception carries the flag.
    have flag := Cause.error_lost frozen
    rw [flag] at frozen
    by_contra handed
    simp only [Request.pop, Bool.not_eq_false] at handed
    rcases honest.active owned.1 with locking | sending | awaiting
    · exact (honest.started handed).2 locking
    · have clean := outside frozen owned.1 owned.2 sending
      rw [handed] at clean
      cases clean
    · rw [honest.flagged awaiting owned.1] at flag
      cases flag
  · exact honest

theorem Request.Honest.finish (honest : request.Honest)
    (popped : request.pending = false) {outcome : RequestOutcome}
    (lost : outcome = .raised (.connectionLost false) → request.handed = false) :
    (request.finish outcome).Honest := by
  apply @Request.honest_of_popped (request.finish outcome) popped
  · intro _
    exact ⟨by simp [Request.finish], by simp [Request.finish]⟩
  · exact honest.frozen
  · intro ended
    simp only [Request.finish, RequestPhase.finished.injEq] at ended
    exact lost ended

theorem Request.Honest.pop (honest : request.Honest) : request.pop.Honest :=
  Request.honest_of_popped rfl honest.started honest.frozen honest.lost

/-! ### All requests -/

namespace RuntimeClient

variable {client next : RuntimeClient}

/-- The requests evolve one by one. -/
structure Evolved (client next : RuntimeClient) : Prop where
  length : next.requests.length = client.requests.length
  each : ∀ (number : ℕ) (before after : Request), client.requests[number]? = some before →
    next.requests[number]? = some after → before.Evolves after

/-- The attempts of a command come one after the other, and only the last one can be under way or
handed over. -/
structure Attempted (client : RuntimeClient) : Prop where
  owned : ∀ (number : ℕ) (request : Request) (owner : ℕ), client.requests[number]? = some request →
    request.command = some owner → ∃ command, client.commands[owner]? = some command ∧
      number ≤ command.request ∧ (number < command.request →
        request.phase = .finished (.raised (.connectionLost false)))
  latest : ∀ (owner : ℕ) (command : Command), client.commands[owner]? = some command →
    ∃ request, client.requests[command.request]? = some request ∧
      request.command = some owner ∧ ∀ result, command.outcome = some result →
        ∃ outcome, request.phase = .finished outcome ∧
          (outcome = .raised (.connectionLost true) → result = .ambiguous)

structure Sound (client : RuntimeClient) : Prop where
  honest : ∀ (number : ℕ) (request : Request), client.requests[number]? = some request →
    request.Honest
  writer : ∀ (number : ℕ) (request : Request), client.requests[number]? = some request →
    request.phase = .sending → client.writer = some number
  attempted : client.Attempted

theorem sound_init (maxAttempts : ℕ) : (init maxAttempts).Sound where
  honest := by
    intro number request found
    cases found
  writer := by
    intro number request found
    cases found
  attempted := by
    constructor
    · intro number request owner found
      cases found
    · intro owner command found
      cases found

variable {number : ℕ}

theorem getElem?_of_length {Entry : Type} {before after : List Entry} {entry : Entry}
    (length : after.length = before.length) (found : before[number]? = some entry) :
    ∃ other, after[number]? = some other := by
  have inside := (List.getElem?_eq_some_iff.mp found).1
  rw [← length] at inside
  exact ⟨_, getElem?_eq_getElem inside⟩

theorem Attempted.evolved (attempted : client.Attempted) (evolved : Evolved client next)
    (commands : next.commands = client.commands) : next.Attempted where
  owned := by
    intro number after owner found command
    rcases getElem?_of_length evolved.length.symm found with ⟨before, beforeFound⟩
    have evolves := evolved.each number before after beforeFound found
    rw [evolves.command] at command
    rcases attempted.owned number before owner beforeFound command with
      ⟨entry, entryFound, within, earlier⟩
    rw [commands]
    exact ⟨entry, entryFound, within, fun less => evolves.finished _ (earlier less)⟩
  latest := by
    intro owner command found
    rw [commands] at found
    rcases attempted.latest owner command found with ⟨before, beforeFound, owns, ended⟩
    rcases getElem?_of_length evolved.length beforeFound with ⟨after, afterFound⟩
    have evolves := evolved.each _ before after beforeFound afterFound
    refine ⟨after, afterFound, evolves.command.trans owns, ?_⟩
    intro result settled
    rcases ended result settled with ⟨outcome, phase, ambiguous⟩
    exact ⟨outcome, evolves.finished outcome phase, ambiguous⟩

/-- One request changes, and then a step that evolves every request runs over all of them. -/
structure Changed (client next : RuntimeClient) (number : ℕ) (after : Request)
    (all : Request → Request) : Prop where
  requests : next.requests = (client.requests.set number after).map all
  commands : next.commands = client.commands

variable {all : Request → Request}
variable {before : Request}

theorem Changed.lookup {after : Request} (changed : Changed client next number after all)
    (found : client.requests[number]? = some before) (other : ℕ) :
    next.requests[other]? =
      if other = number then some (all after) else client.requests[other]?.map all := by
  rw [changed.requests, getElem?_map, Locks.getElem?_set_of_found found]
  split <;> rfl

theorem Sound.changed (sound : client.Sound) {number : ℕ} {before after : Request}
    {all : Request → Request} (found : client.requests[number]? = some before)
    (changed : Changed client next number after all) (evolves : before.Evolves (all after))
    (each : ∀ request : Request, request.Evolves (all request))
    (phase : ∀ request, (all request).phase = request.phase) (honest : (all after).Honest)
    (others : ∀ (other : ℕ) (request : Request), other ≠ number →
      client.requests[other]? = some request → request.Honest → (all request).Honest)
    (writer : ∀ (other : ℕ) (request : Request), other ≠ number →
      client.requests[other]? = some request → request.phase = .sending →
      next.writer = some other)
    (own : after.phase = .sending → next.writer = some number) : next.Sound := by
  have lookup := changed.lookup found
  constructor
  · intro other request requestFound
    rw [lookup] at requestFound
    split at requestFound
    · cases requestFound
      exact honest
    · rename_i different
      rcases Option.map_eq_some_iff.mp requestFound with ⟨old, oldFound, rfl⟩
      exact others other old different oldFound (sound.honest other old oldFound)
  · intro other request requestFound sending
    rw [lookup] at requestFound
    split at requestFound
    · rename_i same
      cases requestFound
      rw [same]
      exact own ((phase after).symm.trans sending)
    · rename_i different
      rcases Option.map_eq_some_iff.mp requestFound with ⟨old, oldFound, rfl⟩
      exact writer other old different oldFound ((phase old).symm.trans sending)
  · apply sound.attempted.evolved _ changed.commands
    constructor
    · rw [changed.requests, length_map, length_set]
    · intro other old new oldFound newFound
      rw [lookup] at newFound
      split at newFound
      · rename_i same
        subst same
        obtain rfl := Option.mem_unique found oldFound
        cases newFound
        exact evolves
      · rw [oldFound] at newFound
        cases newFound
        exact each old

theorem Sound.mapped (sound : client.Sound) (requests : next.requests = client.requests.map all)
    (commands : next.commands = client.commands) (sameWriter : next.writer = client.writer)
    (each : ∀ request : Request, request.Evolves (all request))
    (phase : ∀ request, (all request).phase = request.phase)
    (honest : ∀ request ∈ client.requests, request.Honest → (all request).Honest) :
    next.Sound := by
  have lookup : ∀ (number : ℕ) (after : Request), next.requests[number]? = some after →
      ∃ before, client.requests[number]? = some before ∧ all before = after := by
    intro number after found
    rw [requests, getElem?_map] at found
    exact Option.map_eq_some_iff.mp found
  constructor
  · intro number after found
    rcases lookup number after found with ⟨before, beforeFound, rfl⟩
    exact honest before (mem_of_getElem? beforeFound)
      (sound.honest number before beforeFound)
  · intro number after found sending
    rcases lookup number after found with ⟨before, beforeFound, rfl⟩
    rw [sameWriter]
    exact sound.writer number before beforeFound ((phase before).symm.trans sending)
  · apply sound.attempted.evolved _ commands
    constructor
    · rw [requests, length_map]
    · intro number before after beforeFound found
      rcases lookup number after found with ⟨other, otherFound, rfl⟩
      obtain rfl := Option.mem_unique beforeFound otherFound
      exact each before

theorem Sound.failGeneration (sound : client.Sound) {generation : ℕ} {cause : Cause}
    (outside : cause.error client.closing false = .connectionLost false →
      ∀ request ∈ client.requests, request.generation = generation →
        request.phase = .sending → request.handed = false) :
    (client.failGeneration generation cause).Sound := by
  apply Sound.mapped sound
  · rfl
  · rfl
  · rfl
  · intro request
    exact request.fail_evolves generation cause client.closing
  · intro request
    exact request.fail_phase generation cause client.closing
  · intro request present honest
    exact honest.fail fun lost _ same sending => outside lost request present same sending

/-- A request is popped and finished while its generation fails, and the lock is free again. -/
theorem Sound.sendAborted (sound : client.Sound)
    (found : client.requests[number]? = some request)
    (unfinished : ∀ outcome, request.phase ≠ .finished outcome) (clean : request.handed = false)
    (alone : ∀ (other : ℕ) (old : Request), other ≠ number → client.requests[other]? = some old →
      old.phase ≠ .sending) : (client.sendAborted number request).Sound := by
  let outcome : RequestOutcome := .raised
    (if client.closing then .clientClosed else .connectionLost (request.sentFlag.getD false))
  have honest := sound.honest number request found
  have popped : ∀ (cause : Cause) (closing : Bool), (request.pop.finish outcome).fail
      request.generation cause closing = request.pop.finish outcome := by
    intro cause closing
    simp [Request.fail, Request.finish, Request.pop]
  have changed : Changed client (client.sendAborted number request) number
      (request.pop.finish outcome)
      (fun request' => request'.fail request.generation .other client.closing) := by
    constructor
    · simp only [RuntimeClient.sendAborted, RuntimeClient.failGeneration, put, map_set,
        set_set]
      rw [popped]
    · rfl
  apply sound.changed found changed
  · rw [popped]
    exact Request.evolves_of_phase rfl unfinished
  · intro other
    exact other.fail_evolves _ _ _
  · intro other
    exact other.fail_phase _ _ _
  · rw [popped]
    exact honest.pop.finish rfl fun _ => clean
  · intro other old different oldFound oldHonest
    apply oldHonest.fail
    intro _ _ _ sending
    exact absurd sending (alone other old different oldFound)
  · intro other old different oldFound sending
    exact absurd sending (alone other old different oldFound)
  · intro impossible
    cases impossible

/-! ### The steps -/

/-- The steps after which a sent flag is out of date are left out. -/
def Careful (client : RuntimeClient) : ClientLabel → Prop
  | .write number =>
    client.requests[number]?.all fun request =>
      decide (request.future ≠ .failed (.connectionLost false))
  | .sendFails number => client.requests[number]?.all fun request => !request.handed
  | .lose false =>
    client.requests.all fun request =>
      !(decide (client.connection = some request.generation) &&
        decide (request.phase = .sending) && request.handed)
  | _ => True

instance (client : RuntimeClient) (label : ClientLabel) : Decidable (client.Careful label) :=
  match label with
  | .write _ | .sendFails _ | .lose false => inferInstanceAs (Decidable (_ = true))
  | .request | .command | .connected | .connectFails _ _ | .register _ | .lock _ | .encodeFails _
  | .sendReturns _ | .cancel _ | .respond _ | .malformed | .lose true | .fence | .wake _
  | .settle _ | .retry _ | .close => isTrue trivial

theorem Sound.replaced (sound : client.Sound) {after : Request}
    (found : client.requests[number]? = some before)
    (requests : next.requests = client.requests.set number after)
    (commands : next.commands = client.commands) (evolves : before.Evolves after)
    (honest : after.Honest)
    (writer : ∀ (other : ℕ) (request : Request), other ≠ number →
      client.requests[other]? = some request → request.phase = .sending →
      next.writer = some other)
    (own : after.phase = .sending → next.writer = some number) : next.Sound := by
  have changed : Changed client next number after id := by
    refine ⟨?_, commands⟩
    rw [requests, map_id]
  exact sound.changed found changed evolves Request.Evolves.refl (fun _ => rfl) honest
    (fun _ _ _ _ kept => kept) writer own

/-- Nobody else is inside `send`. -/
theorem Sound.alone (sound : client.Sound) {number : ℕ}
    (held : client.writer = none ∨ client.writer = some number) (other : ℕ) (request : Request)
    (different : other ≠ number) (found : client.requests[other]? = some request) :
    request.phase ≠ .sending := by
  intro sending
  have owner := sound.writer other request found sending
  rcases held with free | own
  · rw [owner] at free
    cases free
  · rw [owner] at own
    exact different (Option.some.inj own)

theorem Sound.register (sound : client.Sound)
    (stepped : client.register number = some next) : next.Sound := by
  rcases Option.bind_eq_some_iff.mp stepped with ⟨request, found, stepped⟩
  have honest := sound.honest number request found
  split at stepped
  · rename_i phase connection
    have unfinished : ∀ outcome, request.phase ≠ .finished outcome := by
      intro outcome
      rw [phase]
      exact nofun
    have clean : request.handed = false := by
      by_contra handed
      simp only [Bool.not_eq_false] at handed
      exact (honest.started handed).1 phase
    cases stepped
    apply sound.replaced found
    · rfl
    · rfl
    · exact ⟨rfl, fun outcome ended => absurd ended (unfinished outcome)⟩
    · constructor
      · intro handed
        simp [clean] at handed
      · exact nofun
      · exact nofun
      · exact nofun
      · intro _
        exact .inl rfl
      · intro _
        rfl
    · intro other old _ oldFound sending
      exact sound.writer other old oldFound sending
    · exact nofun
  · cases stepped

theorem Sound.lock (sound : client.Sound)
    (stepped : client.lock number = some next) : next.Sound := by
  rcases Option.bind_eq_some_iff.mp stepped with ⟨request, found, stepped⟩
  rcases Option.ite_none_right_eq_some.mp stepped with ⟨ready, stepped⟩
  have honest := sound.honest number request found
  have unfinished : ∀ outcome, request.phase ≠ .finished outcome := by
    intro outcome
    rw [ready.1]
    exact nofun
  have clean : request.handed = false := by
    by_contra handed
    simp only [Bool.not_eq_false] at handed
    exact (honest.started handed).2 ready.1
  have alone := @Sound.alone client sound number (.inl ready.2)
  split at stepped
  · cases stepped
    apply sound.replaced found
    · rfl
    · rfl
    · exact ⟨rfl, fun outcome ended => absurd ended (unfinished outcome)⟩
    · constructor
      · intro handed
        simp [clean] at handed
      · intro _
        exact clean
      · exact nofun
      · exact nofun
      · intro _
        exact .inr (.inl rfl)
      · exact honest.unset
    · intro other old different oldFound sending
      exact absurd sending (alone other old different oldFound)
    · intro _
      rfl
  · -- The connection is gone: its requests fail, and then this one.
    have failed : (client.failGeneration request.generation .other).Sound := by
      apply sound.failGeneration
      intro _ old present _ sending
      rcases mem_iff_getElem?.mp present with ⟨other, oldFound⟩
      have owner := sound.writer other old oldFound sending
      rw [ready.2] at owner
      cases owner
    rcases Option.map_eq_some_iff.mp stepped with ⟨after, afterFound, rfl⟩
    have fails := afterFound
    simp only [RuntimeClient.failGeneration, getElem?_map, found, Option.map_some,
      Option.some.injEq] at fails
    apply failed.sendAborted afterFound
    · intro outcome
      rw [← fails, Request.fail_phase]
      exact unfinished outcome
    · rw [← fails]
      unfold Request.fail
      split <;> exact clean
    · exact failed.alone (.inl ready.2)

theorem Sound.encodeFails (sound : client.Sound)
    (stepped : client.encodeFails number = some next) : next.Sound := by
  rcases Option.bind_eq_some_iff.mp stepped with ⟨request, found, stepped⟩
  rcases of_guard stepped with ⟨ready, rfl⟩
  apply sound.sendAborted found
  · intro outcome
    rw [ready.1]
    exact nofun
  · by_contra handed
    simp only [Bool.not_eq_false] at handed
    exact ((sound.honest number request found).started handed).2 ready.1
  · exact sound.alone (.inl ready.2.1)

theorem Sound.sendFails (sound : client.Sound) {number : ℕ}
    (careful : client.Careful (.sendFails number))
    (stepped : client.sendFails number = some next) : next.Sound := by
  rcases Option.bind_eq_some_iff.mp stepped with ⟨request, found, stepped⟩
  simp only [Careful, found, Option.all_some, Bool.not_eq_true'] at careful
  rcases of_guard stepped with ⟨sending, rfl⟩
  apply sound.sendAborted found
  · intro outcome
    rw [sending]
    exact nofun
  · exact careful
  · exact sound.alone (.inr (sound.writer number request found sending))

theorem Sound.write (sound : client.Sound) (careful : client.Careful (.write number))
    (stepped : client.write number = some next) : next.Sound := by
  rcases Option.bind_eq_some_iff.mp stepped with ⟨request, found, stepped⟩
  simp only [Careful, found, Option.all_some, decide_eq_true_eq] at careful
  rcases Option.ite_none_right_eq_some.mp stepped with ⟨ready, stepped⟩
  have honest := sound.honest number request found
  cases stepped
  apply sound.replaced found
  · rfl
  · rfl
  · exact ⟨rfl, fun _ ended => ended⟩
  · constructor
    · intro _
      rw [ready.1]
      exact ⟨nofun, nofun⟩
    · intro lost
      exact absurd lost careful
    · exact honest.flagged
    · intro ended
      rw [ready.1] at ended
      cases ended
    · exact honest.active
    · exact honest.unset
  · intro other old _ oldFound sending
    exact sound.writer other old oldFound sending
  · intro sending
    exact sound.writer number request found sending

theorem Sound.sendReturns (sound : client.Sound)
    (stepped : client.sendReturns number = some next) : next.Sound := by
  rcases Option.bind_eq_some_iff.mp stepped with ⟨request, found, stepped⟩
  rcases Option.ite_none_right_eq_some.mp stepped with ⟨ready, stepped⟩
  have honest := sound.honest number request found
  have alone := sound.alone (.inr (sound.writer number request found ready.1))
  cases stepped
  apply sound.replaced found
  · rfl
  · rfl
  · refine ⟨rfl, fun outcome ended => ?_⟩
    rw [ready.1] at ended
    cases ended
  · constructor
    · intro _
      exact ⟨nofun, nofun⟩
    · exact honest.frozen
    · intro _ _
      rfl
    · exact nofun
    · intro _
      exact .inr (.inr rfl)
    · exact honest.unset
  · intro other old different oldFound sending
    exact absurd sending (alone other old different oldFound)
  · exact nofun

theorem Sound.ended (sound : client.Sound)
    (found : client.requests[number]? = some before)
    (unfinished : ∀ outcome, before.phase ≠ .finished outcome) (after : Request)
    (outcome : RequestOutcome) (command : after.command = before.command)
    (honest : (after.finish outcome).Honest)
    (requests : next.requests = client.requests.set number (after.finish outcome))
    (commands : next.commands = client.commands)
    (writer : next.writer = client.writer ∨ client.writer = some number) : next.Sound := by
  apply sound.replaced found requests commands
  · exact ⟨command, fun other finished => absurd finished (unfinished other)⟩
  · exact honest
  · intro other old different oldFound sending
    have owner := sound.writer other old oldFound sending
    rcases writer with same | own
    · rw [same, owner]
    · rw [own] at owner
      exact absurd (Option.some.inj owner).symm different
  · exact nofun

theorem Sound.cancel (sound : client.Sound)
    (stepped : client.cancel number = some next) : next.Sound := by
  rcases Option.bind_eq_some_iff.mp stepped with ⟨request, found, stepped⟩
  have honest := sound.honest number request found
  have unfinished : ∀ phase, request.phase = phase → (∀ outcome, phase ≠ .finished outcome) →
      ∀ outcome, request.phase ≠ .finished outcome := by
    rintro phase rfl unfinished
    exact unfinished
  have popped : (request.pop.finish .cancelled).Honest := honest.pop.finish rfl nofun
  split at stepped
  · rename_i phase
    have unpending : request.pending = false := by
      by_contra pending
      simp only [Bool.not_eq_false] at pending
      rcases honest.active pending with other | other | other <;> simp [phase] at other
    cases stepped
    exact sound.ended found (unfinished _ phase nofun) request .cancelled rfl (honest.finish unpending nofun) rfl rfl
      (.inl rfl)
  · rename_i phase
    cases stepped
    exact sound.ended found (unfinished _ phase nofun) request.pop .cancelled rfl popped rfl rfl (.inl rfl)
  · rename_i phase
    cases stepped
    exact sound.ended found (unfinished _ phase nofun) request.pop .cancelled rfl popped rfl rfl
      (.inr (sound.writer number request found phase))
  · rename_i phase
    split at stepped
    · cases stepped
      exact sound.ended found (unfinished _ phase nofun) request.pop .cancelled rfl popped rfl rfl (.inl rfl)
    · rename_i unpending
      simp only [Bool.not_eq_true] at unpending
      cases stepped
      exact sound.ended found (unfinished _ phase nofun) request .cancelled rfl (honest.finish unpending nofun) rfl
        rfl (.inl rfl)
  · cases stepped

theorem Sound.respond (sound : client.Sound) {id : ℕ}
    (stepped : client.respond id = some next) : next.Sound := by
  rcases Option.map_eq_some_iff.mp stepped with ⟨generation, _, rfl⟩
  -- What the server still has to answer is not part of the law.
  have answered : ({ client with unanswered := client.unanswered.erase (generation, id) } :
      RuntimeClient).Sound := ⟨sound.honest, sound.writer, sound.attempted.owned,
    sound.attempted.latest⟩
  dsimp only
  split
  · rename_i number _
    split
    · rename_i request found
      have honest := sound.honest number request found
      split
      · apply sound.replaced found
        · rfl
        · rfl
        · exact ⟨rfl, fun _ ended => ended⟩
        · apply @Request.honest_of_popped { request.pop with future := .value id } rfl
          · exact honest.started
          · exact nofun
          · exact honest.lost
        · intro other old _ oldFound sending
          exact sound.writer other old oldFound sending
        · intro sending
          exact sound.writer number request found sending
      · exact answered
    · exact answered
  · split
    · exact ⟨sound.honest, sound.writer, sound.attempted.owned, sound.attempted.latest⟩
    · apply answered.failGeneration
      intro lost
      unfold Cause.error at lost
      split at lost <;> cases lost

theorem Sound.failCurrent (sound : client.Sound) {cause : Cause}
    (outside : cause = .other → ∀ request ∈ client.requests,
      client.connection = some request.generation → request.phase = .sending →
      request.handed = false)
    (stepped : client.failCurrent cause = some next) : next.Sound := by
  rcases Option.map_eq_some_iff.mp stepped with ⟨generation, connected, rfl⟩
  apply sound.failGeneration
  intro lost request present same sending
  have other : cause = .other := by
    unfold Cause.error at lost
    split at lost
    · cases lost
    · split at lost
      · cases lost
      · cases lost
      · rfl
  exact outside other request present (by rw [connected, same]) sending

theorem Sound.wake (sound : client.Sound) {number : ℕ}
    (stepped : client.wake number = some next) : next.Sound := by
  rcases Option.bind_eq_some_iff.mp stepped with ⟨request, found, stepped⟩
  have honest := sound.honest number request found
  have unpending : request.future ≠ .unset → request.pending = false := by
    intro set
    by_contra pending
    simp only [Bool.not_eq_false] at pending
    exact set (honest.unset pending)
  split at stepped
  · rename_i phase future
    have popped := unpending (by rw [future]; exact nofun)
    have unfinished : ∀ outcome, request.phase ≠ .finished outcome := by
      rw [phase]
      exact nofun
    split at stepped
    · cases stepped
      exact sound.ended found unfinished request (.returned _) rfl (honest.finish popped nofun) rfl rfl
        (.inl rfl)
    · cases stepped
      exact sound.ended found unfinished request (.raised .protocol) rfl (honest.finish popped nofun) rfl rfl
        (.inl rfl)
  · rename_i error phase future
    have popped := unpending (by rw [future]; exact nofun)
    have unfinished : ∀ outcome, request.phase ≠ .finished outcome := by
      rw [phase]
      exact nofun
    cases stepped
    refine sound.ended found unfinished request (.raised error) rfl (honest.finish popped ?_) rfl rfl
      (.inl rfl)
    intro lost
    apply honest.frozen
    rw [future]
    simpa using lost
  · cases stepped

theorem Sound.close (sound : client.Sound) : client.close.Sound := by
  apply Sound.mapped sound
  · rfl
  · rfl
  · rfl
  · intro request
    split
    · exact ⟨rfl, fun _ ended => ended⟩
    · exact .refl request
  · intro request
    split <;> rfl
  · intro request _ honest
    split
    · rename_i pending
      refine Request.honest_of_popped rfl honest.started ?_ honest.lost
      simp [honest.unset pending]
    · exact honest

/-- The request that a call of `_request_once` begins with. -/
def fresh (client : RuntimeClient) (command : Option ℕ) : Request where
  command := command
  id := 0
  generation := 0
  pending := false
  sentFlag := none
  future := .unset
  phase := if client.closing then .finished (.raised .clientClosed) else .connecting
  handed := false

theorem fresh_honest (command : Option ℕ) : (client.fresh command).Honest := by
  apply Request.honest_of_popped rfl
  · exact nofun
  · exact nofun
  · intro _
    rfl

theorem Sound.entered (sound : client.Sound) {command : Option ℕ}
    (requests : next.requests = client.requests ++ [client.fresh command])
    (sameWriter : next.writer = client.writer) (attempted : next.Attempted) : next.Sound := by
  have cases_of : ∀ (number : ℕ) (request : Request), next.requests[number]? = some request →
      client.requests[number]? = some request ∨ request = client.fresh command := by
    intro number request found
    rw [requests, getElem?_append] at found
    split at found
    · exact .inl found
    · exact .inr (mem_singleton.mp (mem_of_getElem? found))
  refine ⟨?_, ?_, attempted⟩
  · intro number request found
    rcases cases_of number request found with old | rfl
    · exact sound.honest number request old
    · exact fresh_honest command
  · intro number request found sending
    rw [sameWriter]
    rcases cases_of number request found with old | rfl
    · exact sound.writer number request old sending
    · simp only [fresh] at sending
      split at sending <;> cases sending

variable {outcome : RequestOutcome}
variable {command : Command}

theorem ended_eq_some (ended : client.ended number = some (command, outcome)) :
    client.commands[number]? = some command ∧ command.outcome = none ∧
      ∃ request, client.requests[command.request]? = some request ∧
        request.phase = .finished outcome := by
  rcases Option.bind_eq_some_iff.mp ended with ⟨found, commandFound, ended⟩
  rcases Option.ite_none_right_eq_some.mp ended with ⟨unsettled, ended⟩
  rcases Option.bind_eq_some_iff.mp ended with ⟨request, requestFound, ended⟩
  split at ended
  · rename_i phase
    obtain ⟨rfl, rfl⟩ := Prod.mk.inj (Option.some.inj ended)
    exact ⟨commandFound, unsettled, request, requestFound, phase⟩
  · cases ended

theorem Attempted.entered (attempted : client.Attempted)
    (requests : next.requests = client.requests ++ [client.fresh none])
    (commands : next.commands = client.commands) : next.Attempted where
  owned := by
    intro number request owner found owns
    rw [requests] at found
    rcases Locks.getElem?_append_one found with old | ⟨_, rfl⟩
    · rw [commands]
      exact attempted.owned number request owner old owns
    · cases owns
  latest := by
    intro owner command found
    rw [commands] at found
    rcases attempted.latest owner command found with ⟨request, requestFound, rest⟩
    rw [requests]
    exact ⟨request, Locks.getElem?_append_left requestFound _, rest⟩

theorem Attempted.commanded (attempted : client.Attempted)
    (requests : next.requests =
      client.requests ++ [client.fresh (some client.commands.length)])
    (commands : next.commands = client.commands ++ [⟨1, client.requests.length, none⟩]) :
    next.Attempted where
  owned := by
    intro number request owner found owns
    rw [requests] at found
    rw [commands]
    rcases Locks.getElem?_append_one found with old | ⟨rfl, rfl⟩
    · rcases attempted.owned number request owner old owns with ⟨command, commandFound, rest⟩
      exact ⟨command, Locks.getElem?_append_left commandFound _, rest⟩
    · cases owns
      exact ⟨⟨1, client.requests.length, none⟩, by simp, le_refl _, fun less => by
        exact absurd less (lt_irrefl _)⟩
  latest := by
    intro owner command found
    rw [commands] at found
    rw [requests]
    rcases Locks.getElem?_append_one found with old | ⟨rfl, rfl⟩
    · rcases attempted.latest owner command old with ⟨request, requestFound, rest⟩
      exact ⟨request, Locks.getElem?_append_left requestFound _, rest⟩
    · exact ⟨client.fresh (some client.commands.length), by simp, rfl, nofun⟩

/-- Only a request that was lost unsent is followed by another attempt. -/
theorem lost_of_retried {attempt : ℕ} (retried : client.commandOutcome attempt outcome = none) :
    outcome = .raised (.connectionLost false) := by
  cases outcome with
  | returned id => cases retried
  | cancelled => cases retried
  | raised error =>
    cases error with
    | connectionLost sent =>
      cases sent with
      | true => cases retried
      | false => rfl
    | _ => cases retried

theorem Attempted.retried (attempted : client.Attempted)
    (commandFound : client.commands[number]? = some command)
    (requestFound : client.requests[command.request]? = some request)
    (lost : request.phase = .finished (.raised (.connectionLost false)))
    (requests : next.requests = client.requests ++ [client.fresh (some number)])
    (commands : next.commands = client.commands.set number
      { command with
        attempt := command.attempt + 1, request := client.requests.length,
        outcome := none }) : next.Attempted where
  owned := by
    intro other current owner found owns
    rw [commands, Locks.getElem?_set_of_found commandFound]
    rw [requests] at found
    rcases Locks.getElem?_append_one found with old | ⟨rfl, rfl⟩
    · rcases attempted.owned other current owner old owns with
        ⟨entry, entryFound, within, earlier⟩
      split
      · rename_i same
        subst same
        obtain rfl := Option.mem_unique commandFound entryFound
        have inside := (List.getElem?_eq_some_iff.mp old).1
        refine ⟨_, rfl, inside.le, ?_⟩
        intro _
        rcases Nat.lt_or_ge other command.request with less | more
        · exact earlier less
        · obtain rfl : other = command.request := le_antisymm within more
          obtain rfl := Option.mem_unique requestFound old
          exact lost
      · exact ⟨entry, entryFound, within, earlier⟩
    · cases owns
      rw [if_pos rfl]
      exact ⟨_, rfl, le_refl _, fun less => absurd less (lt_irrefl _)⟩
  latest := by
    intro owner entry found
    rw [commands, Locks.getElem?_set_of_found commandFound] at found
    rw [requests]
    split at found
    · rename_i same
      subst same
      cases found
      exact ⟨client.fresh (some owner), by simp, rfl, nofun⟩
    · rcases attempted.latest owner entry found with ⟨old, oldFound, rest⟩
      exact ⟨old, Locks.getElem?_append_left oldFound _, rest⟩

theorem Attempted.settled (attempted : client.Attempted) {number : ℕ} {command : Command}
    {request : Request} {outcome : RequestOutcome} {result : CommandOutcome}
    (commandFound : client.commands[number]? = some command)
    (requestFound : client.requests[command.request]? = some request)
    (phase : request.phase = .finished outcome)
    (settles : client.commandOutcome command.attempt outcome = some result)
    (requests : next.requests = client.requests)
    (commands : next.commands =
      client.commands.set number { command with outcome := some result }) : next.Attempted where
  owned := by
    intro other current owner found owns
    rw [requests] at found
    rw [commands, Locks.getElem?_set_of_found commandFound]
    rcases attempted.owned other current owner found owns with
      ⟨entry, entryFound, within, earlier⟩
    split
    · rename_i same
      subst same
      obtain rfl := Option.mem_unique commandFound entryFound
      exact ⟨_, rfl, within, earlier⟩
    · exact ⟨entry, entryFound, within, earlier⟩
  latest := by
    intro owner entry found
    rw [commands, Locks.getElem?_set_of_found commandFound] at found
    rw [requests]
    split at found
    · rename_i same
      subst same
      cases found
      rcases attempted.latest owner command commandFound with ⟨old, oldFound, owns, _⟩
      obtain rfl := Option.mem_unique requestFound oldFound
      refine ⟨request, requestFound, owns, ?_⟩
      rintro _ ⟨⟩
      refine ⟨outcome, phase, ?_⟩
      rintro rfl
      exact (Option.some.inj settles).symm
    · exact attempted.latest owner entry found

theorem Sound.step (sound : client.Sound) {label : ClientLabel} (careful : client.Careful label)
    (stepped : client.step label = some next) : next.Sound := by
  cases label with
  | request =>
    cases stepped
    exact sound.entered rfl rfl (sound.attempted.entered rfl rfl)
  | command =>
    cases stepped
    exact sound.entered rfl rfl (sound.attempted.commanded rfl rfl)
  | connected =>
    rcases of_guard stepped with ⟨_, rfl⟩
    exact ⟨sound.honest, sound.writer, sound.attempted.owned, sound.attempted.latest⟩
  | connectFails number error =>
    rcases Option.bind_eq_some_iff.mp stepped with ⟨request, found, stepped⟩
    have honest := sound.honest number request found
    rcases of_guard stepped with ⟨ready, rfl⟩
    have unpending : request.pending = false := by
      by_contra pending
      simp only [Bool.not_eq_false] at pending
      rcases honest.active pending with other | other | other <;> simp [ready.1] at other
    refine sound.ended found ?_ request (.raised error) rfl (honest.finish unpending ?_) rfl
      rfl (.inl rfl)
    · rw [ready.1]
      exact nofun
    · intro _
      by_contra handed
      simp only [Bool.not_eq_false] at handed
      exact (honest.started handed).1 ready.1
  | register number => exact sound.register stepped
  | lock number => exact sound.lock stepped
  | encodeFails number => exact sound.encodeFails stepped
  | write number => exact sound.write careful stepped
  | sendReturns number => exact sound.sendReturns stepped
  | sendFails number => exact sound.sendFails careful stepped
  | cancel number => exact sound.cancel stepped
  | respond id => exact sound.respond stepped
  | malformed => exact @Sound.failCurrent client next sound .protocol nofun stepped
  | lose policy =>
    cases policy with
    | true => exact @Sound.failCurrent client next sound .policy nofun stepped
    | false =>
      apply sound.failCurrent _ stepped
      intro _ request present current sending
      have clean := all_eq_true.mp careful request present
      simpa [current, sending] using clean
  | fence => exact @Sound.failCurrent client next sound .protocol nofun stepped
  | wake number => exact sound.wake stepped
  | settle number =>
    rcases Option.bind_eq_some_iff.mp stepped with ⟨⟨command, outcome⟩, ended, stepped⟩
    rcases Option.map_eq_some_iff.mp stepped with ⟨result, settles, rfl⟩
    rcases ended_eq_some ended with ⟨commandFound, _, request, requestFound, phase⟩
    exact ⟨sound.honest, sound.writer,
      sound.attempted.settled commandFound requestFound phase settles rfl rfl⟩
  | retry number =>
    rcases Option.bind_eq_some_iff.mp stepped with ⟨⟨command, outcome⟩, ended, stepped⟩
    rcases ended_eq_some ended with ⟨commandFound, unsettled, request, requestFound, phase⟩
    rcases of_guard stepped with ⟨retried, rfl⟩
    rw [lost_of_retried retried] at phase
    refine sound.entered rfl rfl ?_
    refine sound.attempted.retried commandFound requestFound phase rfl ?_
    rw [← unsettled]
  | close =>
    cases stepped
    exact sound.close

/-- In a run in which no sent flag goes out of date, the attempt of a command whose frame the
transport has taken is its last one, and if its connection is lost the command ends as ambiguous. -/
theorem sentOnce_of_careful {maxAttempts : ℕ} {labels : List ClientLabel}
    (guarded : machine.Guarded Careful (init maxAttempts) labels)
    (ran : machine.run (init maxAttempts) labels = some client) :
    (∀ (first second : ℕ) (earlier later : Request) (owner : ℕ), first < second →
      client.requests[first]? = some earlier → client.requests[second]? = some later →
      earlier.command = some owner → later.command = some owner → earlier.handed = false) ∧
    ∀ (owner : ℕ) (command : Command) (request : Request) (sent : Bool),
      client.commands[owner]? = some command →
      client.requests[command.request]? = some request → request.handed = true →
      request.phase = .finished (.raised (.connectionLost sent)) →
      client.retry owner = none ∧
        (command.outcome = none →
          client.commandOutcome command.attempt (.raised (.connectionLost sent)) =
            some .ambiguous) ∧
        ∀ result, command.outcome = some result → result = .ambiguous := by
  have sound : client.Sound :=
    Machine.run_invariant_of_guarded (fun sound careful stepped => sound.step careful stepped)
      (sound_init maxAttempts) guarded ran
  constructor
  · intro first second earlier later owner before firstFound secondFound firstOwns secondOwns
    rcases sound.attempted.owned first earlier owner firstFound firstOwns with
      ⟨command, commandFound, _, ended⟩
    rcases sound.attempted.owned second later owner secondFound secondOwns with
      ⟨other, otherFound, within, _⟩
    obtain rfl := Option.some.inj (commandFound.symm.trans otherFound)
    exact (sound.honest first earlier firstFound).lost (ended (lt_of_lt_of_le before within))
  · intro owner command request sent commandFound requestFound handed phase
    -- A frame that was handed over is lost as sent.
    have lostSent : sent = true := by
      by_contra unsent
      simp only [Bool.not_eq_true] at unsent
      rw [unsent] at phase
      have clean := (sound.honest _ request requestFound).lost phase
      rw [handed] at clean
      cases clean
    subst lostSent
    refine ⟨?_, fun _ => rfl, ?_⟩
    · by_contra retried
      rcases Option.ne_none_iff_exists'.mp retried with ⟨next, stepped⟩
      rcases Option.bind_eq_some_iff.mp stepped with ⟨⟨entry, outcome⟩, ended, stepped⟩
      rcases ended_eq_some ended with ⟨entryFound, _, current, currentFound, finished⟩
      obtain rfl := Option.some.inj (commandFound.symm.trans entryFound)
      obtain rfl := Option.some.inj (requestFound.symm.trans currentFound)
      rw [phase] at finished
      obtain rfl := RequestPhase.finished.inj finished
      cases stepped
    · intro result settled
      rcases sound.attempted.latest owner command commandFound with ⟨current, currentFound, _, ended⟩
      obtain rfl := Option.some.inj (requestFound.symm.trans currentFound)
      rcases ended result settled with ⟨outcome, finished, ambiguous⟩
      rw [phase] at finished
      exact ambiguous (RequestPhase.finished.inj finished).symm

/-- A command that is registered and inside `send`, with its frame taken by the transport. -/
def takenLabels : List ClientLabel :=
  [.command, .connected, .register 0, .lock 0, .write 0]

/-- The frame is sent, and the connection is lost while the response is awaited. -/
theorem sentOnce_of_careful_ambiguous : ∃ client,
    machine.run (init 3) (takenLabels ++ [.sendReturns 0, .lose false, .wake 0]) = some client ∧
      client.retry 0 = none := by
  have reached : ∃ client,
      machine.run (init 3) (takenLabels ++ [.sendReturns 0, .lose false, .wake 0]) = some client ∧
        machine.Guarded Careful (init 3) (takenLabels ++ [.sendReturns 0, .lose false, .wake 0]) ∧
        client.commands[0]? = some ⟨1, 0, none⟩ ∧
        client.requests[0]? = some ⟨some 0, 2, 1, false, none,
          .failed (.connectionLost true), .finished (.raised (.connectionLost true)), true⟩ := by
    decide +kernel
  rcases reached with ⟨client, ran, guarded, commandFound, requestFound⟩
  refine ⟨client, ran, ?_⟩
  exact ((sentOnce_of_careful guarded ran).2 0 _ _ true commandFound requestFound rfl rfl).1

/-- Two attempts of the first command have handed their frames over. -/
def SentTwice (client : RuntimeClient) : Prop :=
  (∃ first, client.requests[0]? = some first ∧ first.command = some 0 ∧ first.handed = true) ∧
    ∃ second, client.requests[1]? = some second ∧ second.command = some 0 ∧ second.handed = true

instance (client : RuntimeClient) : Decidable client.SentTwice :=
  inferInstanceAs (Decidable (_ ∧ _))

/-- `send` fails after the transport has taken the frame, or the reader loses the connection while
`send` is suspended behind the write: the exception carries the unset flag, and the command is
sent a second time. -/
theorem command_sent_twice :
    (∃ client, machine.run (init 3) (takenLabels ++ [.sendFails 0, .retry 0, .connected,
      .register 1, .lock 1, .write 1]) = some client ∧ client.SentTwice) ∧
    ∃ client, machine.run (init 3) (takenLabels ++ [.lose false, .sendReturns 0, .wake 0,
      .retry 0, .connected, .register 1, .lock 1, .write 1]) = some client ∧
      client.SentTwice := by
  decide +kernel

end RuntimeClient

end Synapse.Transport
