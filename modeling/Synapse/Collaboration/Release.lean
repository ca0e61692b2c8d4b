import Synapse.Collaboration.Worker

/-!
# Runs of a worker

Whenever a worker is done with a delivery, its recipient is free again, as long
as no compare-and-swap of the worker is lost to a change that its cleanup does
not expect.
-/

namespace Synapse.Collaboration

open CollaborationStore CollaborationRuntime

/-- The delivery that `_deliver` has returned `DONE` for. -/
def Phase.finished? : Phase → Option Delivery
  | .done delivery => some delivery
  | _ => none

/-- The start succeeds or is refused because the session is busy. -/
def RuntimeStep.promised : RuntimeStep → Bool
  | .started .unavailable | .started .failed => false
  | _ => true

/-- The three writes that may be refused while their row stays owned: a start that the request or
a fence no longer permits, a claim that a fence took away after it was read, and a reason that is
not a valid one. -/
def Phase.Careful (store : CollaborationStore) (recipient : SessionRef) : Phase → Prop
  | .link delivery _ turnId => StillClaimed store delivery → MayRun store delivery recipient turnId
  | .abandonClaim current _ => StillClaimed store current
  | .close _ reason => optionalArgument reason maxReasonBytes = .ok ()
  | _ => True

instance (store : CollaborationStore) (delivery : Delivery) :
    Decidable (StillClaimed store delivery) :=
  inferInstanceAs (Decidable (∃ row ∈ store.deliveries, _))

instance (store : CollaborationStore) (delivery : Delivery) (recipient : SessionRef)
    (turnId : Text) : Decidable (MayRun store delivery recipient turnId) :=
  inferInstanceAs (Decidable (∃ context, store.executionContext delivery.id = .ok context ∧ _))

instance (store : CollaborationStore) (recipient : SessionRef) :
    ∀ phase : Phase, Decidable (phase.Careful store recipient)
  | .link delivery _ turnId =>
    inferInstanceAs (Decidable (StillClaimed store delivery →
      MayRun store delivery recipient turnId))
  | .abandonClaim current _ => inferInstanceAs (Decidable (StillClaimed store current))
  | .close _ reason => inferInstanceAs (Decidable (optionalArgument reason maxReasonBytes = .ok ()))
  | .free | .deliver _ | .start _ _ | .settle _ _ | .reread _ _ _ | .finish _ _ _
  | .failRequest _ _ _ | .abandon _ _ | .holdForReview _ _ | .resolve _ _
  | .resolveUncertain _ _ _ | .done _ => isTrue trivial

namespace CollaborationRuntime

variable {store next : CollaborationStore} {recipient : SessionRef}
  {runtime later : CollaborationRuntime}

/-- The guard on one step of a run. -/
def Careful (recipient : SessionRef) (runtime : CollaborationRuntime) (step : RuntimeStep) : Prop :=
  step.promised = true ∧
    ∀ now, step = .work now → runtime.phase.Careful runtime.store recipient

instance (recipient : SessionRef) (runtime : CollaborationRuntime) :
    ∀ step, Decidable (Careful recipient runtime step)
  | .work _ => decidable_of_iff (runtime.phase.Careful runtime.store recipient)
      (by simp [Careful, RuntimeStep.promised])
  | .started outcome => decidable_of_iff ((RuntimeStep.started outcome).promised = true)
      (by simp [Careful])
  | .resumed _ | .settled _ | .ended | .participant _ =>
    isTrue (by simp [Careful, RuntimeStep.promised])

/-- What the worker is to leave behind: the delivery is settled or cancelled, nothing owns the
recipient, and a pending delivery of the recipient is handed out by the next claim. -/
structure Released (store : CollaborationStore) (recipient : SessionRef) (delivery : Delivery) :
    Prop where
  closed : ∀ row ∈ store.deliveries, row.id = delivery.id → Closed row
  present : ∃ row ∈ store.deliveries, row.id = delivery.id
  unowned : store.Unowned recipient
  serves : ∀ waiting ∈ store.deliveries, waiting.recipient = recipient →
    waiting.state = .pending → ∃ oldest ∈ store.deliveries, oldest.recipient = recipient ∧
      oldest.state = .pending ∧
      (∀ other ∈ store.deliveries, other.recipient = recipient → other.state = .pending →
        oldest.sequence ≤ other.sequence) ∧
      store.claimNext recipient = .ok (store.claiming oldest, some oldest.claim)

/-- Whenever the worker is done with a delivery, it has released its recipient. -/
def Releases (runtime : CollaborationRuntime) (recipient : SessionRef) : Prop :=
  ∀ delivery, runtime.phase.finished? = some delivery →
    Released runtime.store recipient delivery

/-! ### The invariant of the runs -/

structure Serving (maxPending : ℕ) (recipient : SessionRef) (runtime : CollaborationRuntime) :
    Prop where
  reached : CollaborationStore.machine.Reachable (empty maxPending) runtime.store
  safe : runtime.Safe recipient

variable {maxPending : ℕ}

theorem Serving.orderly (serving : Serving maxPending recipient runtime) :
    runtime.store.Orderly maxPending := by
  rcases serving.reached with ⟨operations, ran⟩
  exact orderly_of_run ran

theorem Serving.waiting (serving : Serving maxPending recipient runtime) :
    runtime.store.Waiting := by
  rcases serving.reached with ⟨operations, ran⟩
  exact waiting_of_run ran

theorem Serving.releases (serving : Serving maxPending recipient runtime) :
    runtime.Releases recipient := by
  intro delivery finished
  have orderly := serving.orderly
  have safe := serving.safe
  unfold CollaborationRuntime.Safe at safe
  cases phase : runtime.phase with
  | done other =>
    rw [phase] at finished safe
    obtain rfl := Option.some.inj finished
    rcases safe with ⟨⟨row, present, sameId, _, closed⟩, unowned⟩
    refine ⟨?_, ⟨row, present, sameId⟩, unowned, ?_⟩
    · intro other otherPresent otherId
      obtain rfl := Table.eq_of_key orderly.sound.keyed.deliveries otherPresent present
        (otherId.trans sameId.symm)
      exact closed
    · intro waiting waitingPresent own pending
      exact claimNext_serves orderly.sound orderly.owners unowned waitingPresent own pending
  | _ =>
    rw [phase] at finished
    cases finished

/-! ### Each transaction is an operation of the store -/

/-- The tables are left alone or one operation has succeeded on them. -/
def Transacts (store next : CollaborationStore) : Prop :=
  next = store ∨ ∃ operation, store.Admits operation ∧ store.apply operation = .ok next

theorem Transacts.reached (transacts : Transacts store next)
    (reached : CollaborationStore.machine.Reachable (empty maxPending) store) :
    CollaborationStore.machine.Reachable (empty maxPending) next := by
  rcases transacts with rfl | ⟨operation, admitted, applied⟩
  · exact reached
  · exact reached.step (step_of_apply admitted applied)

variable {phase : Phase}

theorem suppress_transacts {Value : Type}
    {outcome : Fallible (CollaborationStore × Value)} (operation : StoreOperation)
    (admitted : store.Admits operation)
    (performs : store.apply operation = do return (← outcome).1) :
    Transacts store (suppress store outcome phase).store := by
  unfold suppress
  split
  case h_1 next value => exact Or.inr ⟨operation, admitted, performs⟩
  case h_2 => exact Or.inl rfl

theorem claim_transacts : Transacts store (claim store recipient).store := by
  unfold claim
  split
  case h_1 next delivery claims =>
    refine Or.inr ⟨.claimNext recipient, by trivial, ?_⟩
    simp only [apply, claims]
    rfl
  case h_2 next claims =>
    refine Or.inr ⟨.claimNext recipient, by trivial, ?_⟩
    simp only [apply, claims]
    rfl
  case h_3 => exact Or.inl rfl

variable {now : ℤ}
variable {turnId : Text}

theorem link_transacts {delivery : Delivery} {request : Request} :
    Transacts store (link store recipient delivery request turnId now).store := by
  unfold link
  split
  case h_1 next running starts =>
    refine Or.inr ⟨.transitionDelivery delivery.id recipient .running delivery.version (some turnId)
      none now, by trivial, ?_⟩
    simp only [apply, starts]
    rfl
  case h_2 next starts =>
    refine Or.inr ⟨.transitionDelivery delivery.id recipient .running delivery.version (some turnId)
      none now, by trivial, ?_⟩
    simp only [apply, starts]
    rfl
  case h_3 => exact Or.inl rfl

theorem work_transacts
    (worked : work recipient now store phase = some later) : Transacts store later.store := by
  cases phase with
  | free =>
    obtain rfl := Option.some.inj worked
    exact claim_transacts
  | deliver delivery =>
    obtain rfl := Option.some.inj worked
    unfold deliver
    split
    · split <;> exact Or.inl rfl
    · exact Or.inl rfl
  | start delivery request => cases worked
  | settle running request => cases worked
  | link delivery request turnId =>
    obtain rfl := Option.some.inj worked
    exact link_transacts
  | reread running request reason =>
    obtain rfl := Option.some.inj worked
    unfold reread
    split <;> exact Or.inl rfl
  | finish running request reason =>
    obtain rfl := Option.some.inj worked
    unfold finish
    split
    · split
      · split <;> exact Or.inl rfl
      · exact Or.inl rfl
    · exact Or.inl rfl
  | failRequest running latest reason =>
    obtain rfl := Option.some.inj worked
    exact suppress_transacts (.failRequest latest.id recipient latest.version now) (by trivial) rfl
  | close running reason =>
    obtain rfl := Option.some.inj worked
    exact suppress_transacts (.transitionDelivery running.id recipient .settled running.version
      running.turnId reason now) (by trivial) rfl
  | abandon delivery reason =>
    obtain rfl := Option.some.inj worked
    unfold abandon
    split
    · split <;> exact Or.inl rfl
    · exact Or.inl rfl
  | abandonClaim current reason =>
    obtain rfl := Option.some.inj worked
    exact suppress_transacts (.abandonClaim current.id current.recipient current.version reason
      now) (by trivial) rfl
  | holdForReview delivery reason =>
    obtain rfl := Option.some.inj worked
    exact suppress_transacts (.transitionDelivery delivery.id delivery.recipient .review
      delivery.version none (some reason) now) (by trivial) rfl
  | resolve delivery reason =>
    obtain rfl := Option.some.inj worked
    unfold resolve
    split <;> exact Or.inl rfl
  | resolveUncertain delivery current reason =>
    obtain rfl := Option.some.inj worked
    exact suppress_transacts (.resolveUncertain current.id delivery.recipient current.version
      reason now) (by trivial) rfl
  | done delivery =>
    obtain rfl := Option.some.inj worked
    exact Or.inl rfl

/-! ### One step -/

variable {running : Delivery}

theorem failRequest_safe (sound : store.skeleton.Sound) {latest : Request}
    {reason : Option Text} (safe : (Phase.failRequest running latest reason).Safe store recipient) :
    (suppress store (store.failRequest latest.id recipient latest.version now)
      (.close running reason)).Safe recipient := by
  have closing : (Phase.close running reason).Safe store recipient := safe
  unfold suppress
  split
  case h_1 next request fails =>
    have performs : store.apply (.failRequest latest.id recipient latest.version now) =
        .ok next := by
      simp only [apply, fails]
      rfl
    have applied := applied_of_apply sound.keyed (by trivial) performs
    exact closing.of_applied sound applied rfl
  case h_2 error failed => exact error.caught_safe closing

theorem work_safe (serving : Serving maxPending recipient runtime)
    (careful : runtime.phase.Careful runtime.store recipient)
    (worked : work recipient now runtime.store runtime.phase = some later) :
    later.Safe recipient := by
  have sound := serving.orderly.sound
  have owners := serving.orderly.owners
  have safe := serving.safe
  rcases runtime with ⟨store, phase⟩
  cases phase with
  | free =>
    obtain rfl := Option.some.inj worked
    exact claim_safe sound serving.waiting
  | deliver delivery =>
    obtain rfl := Option.some.inj worked
    exact deliver_safe sound safe
  | start delivery request => cases worked
  | settle running request => cases worked
  | link delivery request turnId =>
    obtain rfl := Option.some.inj worked
    exact link_safe sound owners safe careful
  | reread running request reason =>
    obtain rfl := Option.some.inj worked
    exact reread_safe sound safe
  | finish running request reason =>
    obtain rfl := Option.some.inj worked
    exact finish_safe safe
  | failRequest running latest reason =>
    obtain rfl := Option.some.inj worked
    exact failRequest_safe sound safe
  | close running reason =>
    obtain rfl := Option.some.inj worked
    exact close_safe sound owners safe careful
  | abandon delivery reason =>
    obtain rfl := Option.some.inj worked
    exact abandon_safe sound safe
  | abandonClaim current reason =>
    obtain rfl := Option.some.inj worked
    exact abandonClaim_safe sound owners safe careful
  | holdForReview delivery reason => exact safe.elim
  | resolve delivery reason =>
    obtain rfl := Option.some.inj worked
    exact resolve_safe sound safe
  | resolveUncertain delivery current reason =>
    obtain rfl := Option.some.inj worked
    exact resolveUncertain_safe sound owners safe
  | done delivery =>
    obtain rfl := Option.some.inj worked
    trivial

theorem resumed_linked (sound : store.skeleton.Sound)
    (linked : Holds store recipient running Linked)
    (stepped : CollaborationStore.machine.step store
      (.linkResumedTurn running.id recipient turnId) = some next) :
    Holds next recipient running Linked := by
  rcases step_cases stepped with ⟨_, applied | rfl⟩
  · rcases linked with ⟨row, present, sameId, own, running, validTurn⟩
    simp only [apply, linkResumedTurn, bind_eq_ok_iff, orRaise_eq_ok_iff] at applied
    rcases applied with ⟨_, valid, _, _, found, read, _, _, applied⟩
    split at applied
    · simp only [pure_eq_ok_iff] at applied
      subst applied
      exact ⟨row, present, sameId, own, running, validTurn⟩
    · simp only [bind_eq_ok_iff] at applied
      rcases applied with ⟨_, _, _, _, _, _, updated⟩
      rcases updateDeliveries_ok updated with ⟨_, rfl⟩
      refine ⟨_, Table.mem_update present (by simpa using sameId), sameId, own, running, valid⟩
  · exact linked

theorem Serving.step {step : RuntimeStep}
    (serving : Serving maxPending recipient runtime) (careful : Careful recipient runtime step)
    (stepped : (machine recipient).step runtime step = some later) :
    Serving maxPending recipient later := by
  have sound := serving.orderly.sound
  have safe := serving.safe
  have reached := serving.reached
  cases step with
  | work now =>
    exact ⟨(work_transacts stepped).reached reached,
      work_safe serving (careful.2 now rfl) stepped⟩
  | started outcome =>
    rcases runtime with ⟨store, phase⟩
    cases phase with
    | start delivery request =>
      obtain rfl := Option.some.inj stepped
      refine ⟨reached, ?_⟩
      cases outcome with
      | token turnId => exact safe
      | busy => exact safe
      | unavailable => cases careful.1
      | failed => cases careful.1
    | _ => cases stepped
  | resumed turnId =>
    rcases runtime with ⟨store, phase⟩
    cases phase with
    | settle running request =>
      rcases Option.map_eq_some_iff.mp stepped with ⟨next, linked, rfl⟩
      exact ⟨reached.step linked, resumed_linked sound safe linked⟩
    | _ => cases stepped
  | settled reason =>
    rcases runtime with ⟨store, phase⟩
    cases phase with
    | settle running request =>
      obtain rfl := Option.some.inj stepped
      exact ⟨reached, safe⟩
    | _ => cases stepped
  | ended =>
    obtain rfl := Option.some.inj stepped
    exact ⟨reached, trivial⟩
  | participant operation =>
    simp only [machine, CollaborationRuntime.step] at stepped
    split at stepped
    case isTrue => cases stepped
    case isFalse other =>
      rcases Option.map_eq_some_iff.mp stepped with ⟨next, moved, rfl⟩
      have applied := applied_of_step sound moved
      exact ⟨reached.step moved, safe.of_applied sound applied (by simpa using other)⟩

/-! ### Every run -/

/-- In every careful run a worker that is done with a delivery has released its recipient. -/
theorem worker_releases {maxPending : ℕ} {operations : List StoreOperation}
    (opened : CollaborationStore.machine.run (empty maxPending) operations = some store)
    {steps : List RuntimeStep}
    (careful : (machine recipient).Guarded (Careful recipient) ⟨store, .free⟩ steps)
    (ran : (machine recipient).run ⟨store, .free⟩ steps = some runtime) :
    runtime.Releases recipient := by
  have initial : Serving maxPending recipient ⟨store, .free⟩ := ⟨⟨operations, opened⟩, trivial⟩
  exact (Machine.run_invariant_of_guarded
    (fun serving careful stepped => serving.step careful stepped) initial careful ran).releases

/-! ### A worker that settles its delivery -/

theorem digits_hex (number : ℕ) :
    (List.replicate 32 (Fin.ofNat 0x110000 (0x30 + number % 10))).length = 32 ∧
      (List.replicate 32 (Fin.ofNat 0x110000 (0x30 + number % 10))).all isHexDigit = true := by
  have small : (0x30 + number % 10) % 0x110000 = 0x30 + number % 10 :=
    Nat.mod_eq_of_lt (by omega)
  refine ⟨by simp, ?_⟩
  simp only [List.all_replicate, isHexDigit, Fin.ofNat, small]
  simp
  omega

/-- The identifier that repeats a decimal digit. -/
def numbered (number : ℕ) : FreshId :=
  ⟨List.replicate 32 (Fin.ofNat 0x110000 (0x30 + number % 10)), digits_hex number⟩

/-- A second assignment waits behind the first. -/
def twice : List StoreOperation :=
  Assignment.opened ++
    [.createRequest Assignment.scopeId.text Assignment.source Assignment.target
      (Text.ofString "assign again") (Text.ofString "body") [] (numbered 4) (numbered 5)
      (numbered 6) 1]

/-- The target is busy at first, then runs, is resumed and ends without an answer. -/
def unanswered : List RuntimeStep :=
  [.work 1, .work 2, .started .busy, .work 3, .started (.token (Text.ofString "turn")), .work 4,
    .resumed (Text.ofString "another turn"), .settled none, .work 5, .work 6, .work 7, .work 8]

theorem worker_releases_unanswered :
    ∃ store, CollaborationStore.machine.run (empty 256) twice = some store ∧
      ∃ runtime, (machine Assignment.target).run ⟨store, .free⟩ unanswered = some runtime ∧
        runtime.phase.finished?.isSome = true ∧ runtime.Releases Assignment.target := by
  have finished : ∃ store, CollaborationStore.machine.run (empty 256) twice = some store ∧
      (machine Assignment.target).Guarded (Careful Assignment.target) ⟨store, .free⟩ unanswered ∧
        ∃ runtime, (machine Assignment.target).run ⟨store, .free⟩ unanswered = some runtime ∧
          runtime.phase.finished?.isSome = true := by
    decide +kernel
  rcases finished with ⟨store, opened, careful, runtime, ran, done⟩
  exact ⟨store, opened, runtime, ran, done, worker_releases opened careful ran⟩

/-! ### A worker that strands its recipient -/

/-- The target has asked a question. -/
def asked : List StoreOperation :=
  Assignment.opened ++
    [.claimNext Assignment.target,
      .transitionDelivery Assignment.deliveryId.text Assignment.target .running 1
        (some (Text.ofString "turn")) none 1,
      .postMessage Assignment.requestId.text Assignment.target .clarification
        (Text.ofString "question") (Text.ofString "ask") [] (numbered 4) (numbered 5) 2]

/-- The target answers its own question after the source has started on it. -/
def overtaken : List RuntimeStep :=
  [.work 3, .work 4, .started (.token (Text.ofString "turn")),
    .participant (.postMessage Assignment.requestId.text Assignment.target .reply
      (Text.ofString "answer") (Text.ofString "tell") [] (numbered 6) (numbered 7) 5),
    .work 6, .work 7, .work 8]

/-- The start is lost, and the claim cannot go to `SETTLED`: the delivery stays claimed, and the
answer is never handed out. -/
theorem worker_strands :
    ∃ store, CollaborationStore.machine.run (empty 256) asked = some store ∧
      ∃ runtime, (machine Assignment.source).run ⟨store, .free⟩ overtaken = some runtime ∧
        (∀ step ∈ overtaken, step.promised = true) ∧ ¬runtime.Releases Assignment.source := by
  have stranded : ∃ store, CollaborationStore.machine.run (empty 256) asked = some store ∧
      ∃ runtime, (machine Assignment.source).run ⟨store, .free⟩ overtaken = some runtime ∧
        (∀ step ∈ overtaken, step.promised = true) ∧
          ∃ delivery, runtime.phase.finished? = some delivery ∧
            ∃ row ∈ runtime.store.deliveries, row.id = delivery.id ∧ row.state = .claimed := by
    decide +kernel
  rcases stranded with ⟨store, opened, runtime, ran, promised, delivery, finished, row, present,
    sameId, claimed⟩
  refine ⟨store, opened, runtime, ran, promised, fun releases => ?_⟩
  rcases (releases delivery finished).closed row present sameId with settled | cancelled
  · rw [claimed] at settled
    cases settled
  · rw [claimed] at cancelled
    cases cancelled

end CollaborationRuntime

end Synapse.Collaboration
