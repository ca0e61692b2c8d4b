import Synapse.Collaboration.Waiting

/-!
# Serving a mailbox

When the operations of a worker succeed: the claim of a free recipient, the
compare-and-swap of a delivery that is as it was read, and the start of a
delivery that its request and its fences permit.
-/

namespace Synapse.Collaboration

open List

/-- The row that `transition_delivery` writes. -/
def Delivery.write (delivery : Delivery) (state : DeliveryState) (turnId reason : Option Text) :
    Delivery :=
  { delivery with
    state
    version := delivery.version + 1
    turnId := delivery.turnId.or turnId
    reason := reason.or delivery.reason }

/-- The row that `claim_next` writes. -/
def Delivery.claim (delivery : Delivery) : Delivery :=
  { delivery with state := .claimed, version := delivery.version + 1 }

namespace CollaborationStore

variable {store next : CollaborationStore}

/-! ### The index on owners -/

variable {deliveries : List Delivery}

theorem ownersDistinct_iff :
    OwnersDistinct deliveries ↔ deliveries.Pairwise fun row other =>
      row.state.owns = true → other.state.owns = true → row.recipient ≠ other.recipient := by
  rw [OwnersDistinct, List.Nodup, pairwise_map, pairwise_filter]

variable {change : Delivery → Delivery} {chosen : Delivery → Bool}

theorem ownersDistinct_update (owners : OwnersDistinct deliveries)
    (keeps : ∀ row ∈ deliveries, chosen row = true → (change row).recipient = row.recipient ∧
      ((change row).state.owns = true → row.state.owns = true)) :
    OwnersDistinct (Table.update chosen change deliveries) := by
  rw [ownersDistinct_iff] at owners ⊢
  rw [Table.update, pairwise_map]
  refine owners.imp_of_mem fun {row other} present otherPresent apart => ?_
  have image : ∀ row ∈ deliveries,
      (if chosen row = true then change row else row).recipient = row.recipient ∧
        ((if chosen row = true then change row else row).state.owns = true →
          row.state.owns = true) := by
    intro row present
    split
    case isTrue selected => exact keeps row present selected
    case isFalse => exact ⟨rfl, id⟩
  intro owns otherOwns
  rw [(image row present).1, (image other otherPresent).1]
  exact apart ((image row present).2 owns) ((image other otherPresent).2 otherOwns)

variable {delivery : Delivery}

/-- A delivery may come to own a recipient that nothing else owns. -/
theorem ownersDistinct_claim (owners : OwnersDistinct deliveries)
    (distinct : (deliveries.map (·.id)).Nodup) (present : delivery ∈ deliveries)
    (free : ∀ row ∈ deliveries, row.recipient = delivery.recipient → row.state.owns = false)
    (keeps : ∀ row, (change row).recipient = row.recipient) :
    OwnersDistinct (Table.update (·.id = delivery.id) change deliveries) := by
  rw [ownersDistinct_iff] at owners ⊢
  rw [Table.update, pairwise_map]
  have ids : deliveries.Pairwise fun row other => row.id ≠ other.id := pairwise_map.mp distinct
  refine (owners.and ids).imp_of_mem fun {row other} rowPresent otherPresent both => ?_
  rcases both with ⟨apart, differ⟩
  by_cases own : row.id = delivery.id
  · obtain rfl := Table.eq_of_key distinct rowPresent present own
    have second : other.id ≠ row.id := differ.symm
    simp only [decide_true, if_true, second, decide_false, Bool.false_eq_true, if_false, keeps]
    intro _ otherOwns same
    rw [free other otherPresent same.symm] at otherOwns
    cases otherOwns
  · by_cases otherOwn : other.id = delivery.id
    · obtain rfl := Table.eq_of_key distinct otherPresent present otherOwn
      simp only [own, decide_true, decide_false, Bool.false_eq_true, if_true, if_false, keeps]
      intro rowOwns _ same
      rw [free row rowPresent same] at rowOwns
      cases rowOwns
    · simpa only [own, otherOwn, decide_false, Bool.false_eq_true, if_false] using apart

theorem updateDeliveries_succeeds
    (owners : OwnersDistinct (Table.update chosen change store.deliveries)) :
    store.updateDeliveries chosen change =
      .ok { store with deliveries := Table.update chosen change store.deliveries } := by
  simp only [updateDeliveries, raiseIf_of_not _ (not_not.mpr owners), ok_bind]
  rfl

/-! ### The records behind a delivery -/

structure Context (store : CollaborationStore) (delivery : Delivery) (request : Request)
    (scope : ContinuationScope) (message : Message) : Prop where
  requested : request ∈ store.requests ∧ request.id = delivery.requestId
  fenced : scope ∈ store.scopes ∧ scope.id = delivery.scopeId
  carried : message ∈ store.messages ∧ message.id = delivery.messageId
  shared : request.scopeId = delivery.scopeId ∧ scope.source = request.source
  addressed : delivery.recipient = Skeleton.recipient request.identity message.kind

theorem exists_context (sound : store.skeleton.Sound) (present : delivery ∈ store.deliveries) :
    ∃ request scope message, store.Context delivery request scope message := by
  rcases sound.messageOf _ (mem_map_of_mem present) with ⟨message, messagePresent, identity,
    identityPresent, messageId, _, requestId, scopeId, recipient⟩
  rcases mem_map.mp identityPresent with ⟨request, requestPresent, rfl⟩
  rcases sound.scopeOf _ identityPresent with ⟨scopeIdentity, scopePresent, sameScope, source⟩
  rcases mem_map.mp scopePresent with ⟨scope, scopeMem, rfl⟩
  exact ⟨request, scope, message, ⟨requestPresent, requestId⟩,
    ⟨scopeMem, sameScope.trans scopeId⟩, ⟨messagePresent, messageId⟩, ⟨scopeId, source⟩,
    recipient⟩

variable {scope : ContinuationScope} {request : Request} {message : Message}

theorem Context.participates (context : store.Context delivery request scope message) :
    delivery.recipient = request.source ∨ delivery.recipient = request.target := by
  rw [context.addressed, Skeleton.recipient]
  split
  · exact Or.inr rfl
  · exact Or.inl rfl

theorem validRecipient (sound : store.skeleton.Sound)
    (present : delivery ∈ store.deliveries) : validateRef delivery.recipient = .ok () := by
  rcases exists_context sound present with ⟨request, scope, message, context⟩
  have valid := (sound.participants _ (mem_map_of_mem context.requested.1)).2
  rcases context.participates with same | same
  · rw [same]
    exact valid.1
  · rw [same]
    exact valid.2

/-! ### The compare-and-swap -/

/-- The store after the claim of a delivery. -/
def claiming (store : CollaborationStore) (delivery : Delivery) : CollaborationStore :=
  { store with
    deliveries := Table.update (·.id = delivery.id) (·.claim) store.deliveries }

theorem claimed_mem (present : delivery ∈ store.deliveries) :
    delivery.claim ∈ (store.claiming delivery).deliveries :=
  Table.mem_update present (by simp)

theorem transitionDelivery_succeeds (sound : store.skeleton.Sound)
    (owners : OwnersDistinct store.deliveries) {row : Delivery} (present : row ∈ store.deliveries)
    {state : DeliveryState} {turnId reason : Option Text} (now : ℤ)
    (edge : state ∈ Lifecycle.edges row.state) (idle : state ≠ .running)
    (owned : state.owns = true → row.state.owns = true)
    (validTurn : optionalArgument turnId maxIdBytes = .ok ())
    (validReason : optionalArgument reason maxReasonBytes = .ok ())
    (bound : row.turnId = none ∨ turnId = none ∨ turnId = row.turnId) :
    ∃ result, store.transitionDelivery row.id row.recipient state row.version turnId reason now =
      .ok ({ store with
        deliveries := Table.update (·.id = row.id) (·.write state turnId reason)
          store.deliveries }, result) := by
  rcases exists_context sound present with ⟨request, scope, message, context⟩
  have validId := sound.deliveryNames row.identity (mem_map_of_mem present)
  change boundedText row.id maxIdBytes = .ok () at validId
  have read := readRequest_of_mem sound context.requested.1 context.participates
  rw [context.requested.2] at read
  have written : OwnersDistinct (Table.update (·.id = row.id) (·.write state turnId reason)
      store.deliveries) := by
    refine ownersDistinct_update owners fun other otherPresent chosen => ⟨rfl, fun owns => ?_⟩
    obtain rfl := Table.eq_of_key sound.keyed.deliveries otherPresent present
      (of_decide_eq_true chosen)
    exact owned owns
  have fits : ¬(row.turnId ≠ none ∧ turnId ≠ none ∧ turnId ≠ row.turnId) := by tauto
  have nonnegative : ¬((row.version : ℤ) < 0) := by omega
  simp only [transitionDelivery, validId, validRecipient sound present, validTurn, validReason,
    checkVersion, raiseIf_of_not _ nonnegative, ok_bind,
    Table.find?_eq_some sound.keyed.deliveries present, orRaise,
    checkTransition_of_mem_edges edge, read, if_neg idle]
  rw [raiseIf_of_not _ (by simp), raiseIf_of_not _ (by simp), raiseIf_of_not _ (by simp [idle]),
    raiseIf_of_not _ fits]
  have updated := updateDeliveries_succeeds written
  simp only [Delivery.write] at updated
  simp only [ok_bind, pure_bind, updated]
  exact ⟨_, rfl⟩

theorem startDelivery_succeeds (sound : store.skeleton.Sound)
    (owners : OwnersDistinct store.deliveries) {row : Delivery} (present : row ∈ store.deliveries)
    (claimed : row.state = .claimed) (context : store.Context row request scope message)
    (permitted : permitsExecution request scope row.recipient = true)
    (fits : allowed request row.recipient message.kind = some true) {turnId : Text}
    (validTurn : boundedText turnId maxIdBytes = .ok ())
    (bound : row.turnId = none ∨ row.turnId = some turnId) (now : ℤ) :
    ∃ next result, store.transitionDelivery row.id row.recipient .running row.version (some turnId)
        none now = .ok (next, result) ∧
      next.deliveries = Table.update (·.id = row.id) (·.write .running (some turnId) none)
        store.deliveries := by
  have validId := sound.deliveryNames row.identity (mem_map_of_mem present)
  change boundedText row.id maxIdBytes = .ok () at validId
  have read := readRequest_of_mem sound context.requested.1 context.participates
  rw [context.requested.2] at read
  have readFence := readScope_of_mem sound context.fenced.1
  rw [context.fenced.2] at readFence
  have found := Table.find?_eq_some sound.keyed.messages context.carried.1
  simp only [context.carried.2] at found
  have edge : DeliveryState.running ∈ Lifecycle.edges row.state := by
    simp [claimed, Lifecycle.edges]
  have written : OwnersDistinct (Table.update (·.id = row.id)
      (·.write .running (some turnId) none) store.deliveries) := by
    refine ownersDistinct_update owners fun other otherPresent chosen => ⟨rfl, fun _ => ?_⟩
    obtain rfl := Table.eq_of_key sound.keyed.deliveries otherPresent present
      (of_decide_eq_true chosen)
    rw [claimed]
    rfl
  have unbound : ¬(row.turnId ≠ none ∧ some turnId ≠ none ∧ some turnId ≠ row.turnId) := by
    rcases bound with free | same
    · simp [free]
    · simp [same]
  have nonnegative : ¬((row.version : ℤ) < 0) := by omega
  -- Whatever happens to the request, the deliveries are those of the store.
  have started : ∃ middle, store.startLocked row request row.recipient now = .ok middle ∧
      middle.deliveries = store.deliveries := by
    simp only [startLocked, readFence, ok_bind, findMessage, found, orRaise, fits]
    rw [raiseIf_of_not _ (by simp [permitted]), raiseIf_of_not _ (by simp)]
    simp only [ok_bind]
    split
    · exact ⟨_, rfl, rfl⟩
    · exact ⟨_, rfl, rfl⟩
  rcases started with ⟨middle, starts, kept⟩
  have updated : middle.updateDeliveries (·.id = row.id) (·.write .running (some turnId) none) =
      .ok { middle with
        deliveries := Table.update (·.id = row.id) (·.write .running (some turnId) none)
          middle.deliveries } := updateDeliveries_succeeds (kept ▸ written)
  simp only [Delivery.write] at updated
  simp only [transitionDelivery, validId, validRecipient sound present, validTurn, optionalArgument,
    checkVersion, raiseIf_of_not _ nonnegative, ok_bind, pure_bind,
    Table.find?_eq_some sound.keyed.deliveries present, orRaise,
    checkTransition_of_mem_edges edge, read, if_true, starts, updated]
  rw [raiseIf_of_not _ (by simp), raiseIf_of_not _ (by simp), raiseIf_of_not _ (by simp),
    raiseIf_of_not _ unbound]
  refine ⟨_, _, rfl, ?_⟩
  simp only [kept, Delivery.write]

theorem claimNext_succeeds (sound : store.skeleton.Sound) (owners : OwnersDistinct store.deliveries)
    (present : delivery ∈ store.deliveries)
    (free : ∀ row ∈ store.deliveries, row.recipient = delivery.recipient → row.state.owns = false)
    (found : (store.deliveries.find? fun row =>
      row.recipient = delivery.recipient ∧ row.state = .pending) = some delivery) :
    store.claimNext delivery.recipient = .ok (store.claiming delivery, some delivery.claim) := by
  have unowned : ¬∃ row ∈ store.deliveries, row.recipient = delivery.recipient ∧
      row.state.owns = true := by
    rintro ⟨row, rowPresent, same, owns⟩
    rw [free row rowPresent same] at owns
    cases owns
  have claimed := ownersDistinct_claim owners sound.keyed.deliveries present free
    (fun row => (rfl : row.claim.recipient = row.recipient))
  have updated : store.updateDeliveries (·.id = delivery.id)
      (fun row => { row with state := .claimed, version := row.version + 1 }) =
        .ok (store.claiming delivery) := updateDeliveries_succeeds claimed
  have kept : (store.claiming delivery).deliveries.map (·.id) = store.deliveries.map (·.id) :=
    Table.map_update fun _ => rfl
  have distinct : ((store.claiming delivery).deliveries.map (·.id)).Nodup := by
    rw [kept]
    exact sound.keyed.deliveries
  have returned : (store.claiming delivery).deliveries.find? (·.id = delivery.id) =
      some delivery.claim := Table.find?_eq_some distinct (claimed_mem present)
  simp only [claimNext, validRecipient sound present, ok_bind, if_neg unowned, found, updated,
    returned]
  rfl

/-! ### Reaching a delivery -/

/-- A pending delivery that may run once it is claimed, of a recipient that nothing owns. -/
structure Ready (store : CollaborationStore) (delivery : Delivery) : Prop where
  sound : store.skeleton.Sound
  owners : OwnersDistinct store.deliveries
  present : delivery ∈ store.deliveries
  pending : delivery.state = .pending
  unbound : delivery.turnId = none
  free : ∀ row ∈ store.deliveries, row.recipient = delivery.recipient → row.state.owns = false
  runnable : ∃ request scope message, store.Context delivery request scope message ∧
    permitsExecution request scope delivery.recipient = true ∧
    allowed request delivery.recipient message.kind = some true

/-- The deliveries that are claimed before this one. -/
def ahead (store : CollaborationStore) (delivery : Delivery) : ℕ :=
  store.deliveries.countP fun row => row.recipient = delivery.recipient ∧ row.state = .pending ∧
    row.sequence < delivery.sequence

/-- The first delivery of a mailbox that has a pending one. -/
theorem exists_oldest (present : delivery ∈ store.deliveries)
    (pending : delivery.state = .pending) :
    ∃ oldest, (store.deliveries.find? fun row =>
      row.recipient = delivery.recipient ∧ row.state = .pending) = some oldest := by
  refine Option.isSome_iff_exists.mp (find?_isSome.mpr ⟨delivery, present, ?_⟩)
  simp [pending]

theorem Context.of_deliveries
    (context : store.Context delivery request scope message) {claimed : Delivery}
    (identity : claimed.identity = delivery.identity) (deliveries : List Delivery) :
    { store with deliveries }.Context claimed request scope message := by
  have requestId : claimed.requestId = delivery.requestId :=
    congrArg DeliveryIdentity.requestId identity
  have scopeId : claimed.scopeId = delivery.scopeId := congrArg DeliveryIdentity.scopeId identity
  have messageId : claimed.messageId = delivery.messageId :=
    congrArg DeliveryIdentity.messageId identity
  have recipient : claimed.recipient = delivery.recipient :=
    congrArg DeliveryIdentity.recipient identity
  constructor <;> simp only [requestId, scopeId, messageId, recipient]
  · exact context.requested
  · exact context.fenced
  · exact context.carried
  · exact context.shared
  · exact context.addressed

/-- The worker claims the oldest delivery of the mailbox. -/
theorem Ready.claim {oldest : Delivery} (ready : store.Ready delivery)
    (found : (store.deliveries.find? fun row =>
      row.recipient = delivery.recipient ∧ row.state = .pending) = some oldest) :
    machine.step store (.claimNext delivery.recipient) = some (store.claiming oldest) := by
  have matched := find?_some found
  simp only [decide_eq_true_eq] at matched
  rw [← matched.1] at found ⊢
  have free : ∀ row ∈ store.deliveries, row.recipient = oldest.recipient →
      row.state.owns = false := by
    rw [matched.1]
    exact ready.free
  have claims := claimNext_succeeds ready.sound ready.owners (mem_of_find?_eq_some found) free
    found
  refine step_of_apply (by trivial) ?_
  simp only [apply, claims]
  rfl

theorem Ready.start (ready : store.Ready delivery)
    (stepped : machine.step store (.claimNext delivery.recipient) =
      some (store.claiming delivery)) :
    ∃ operation final, machine.step (store.claiming delivery) operation = some final ∧
      ∃ later ∈ final.deliveries, later.id = delivery.id ∧ later.state = .running := by
  have sound := sound_of_step ready.sound stepped
  have owners := (applied_of_step ready.sound stepped).owners ready.owners
  have present := claimed_mem ready.present
  rcases ready.runnable with ⟨request, scope, message, context, permitted, fits⟩
  have after : (store.claiming delivery).Context delivery.claim request scope message :=
    context.of_deliveries (rfl : delivery.claim.identity = delivery.identity) _
  have turn : boundedText (Text.ofString "turn") maxIdBytes = .ok () := by decide +kernel
  rcases startDelivery_succeeds sound owners present rfl after permitted fits turn
    (Or.inl ready.unbound) 0 with ⟨final, result, starts, written⟩
  refine ⟨.transitionDelivery delivery.claim.id delivery.claim.recipient .running
    delivery.claim.version (some (Text.ofString "turn")) none 0, final, ?_, ?_⟩
  · refine step_of_apply (by trivial) ?_
    simp only [apply, starts]
    rfl
  · rw [written]
    exact ⟨_, Table.mem_update present (by simp), rfl, rfl⟩

/-- If it is another one, the worker abandons it and the wanted one is closer. -/
theorem Ready.skip {oldest : Delivery} (ready : store.Ready delivery)
    (found : (store.deliveries.find? fun row =>
      row.recipient = delivery.recipient ∧ row.state = .pending) = some oldest)
    (other : oldest.id ≠ delivery.id)
    (stepped : machine.step store (.claimNext delivery.recipient) = some (store.claiming oldest)) :
    ∃ operation next, machine.step (store.claiming oldest) operation = some next ∧
      next.Ready delivery ∧ next.ahead delivery < store.ahead delivery := by
  have sound := sound_of_step ready.sound stepped
  have owners := (applied_of_step ready.sound stepped).owners ready.owners
  have oldestPresent := mem_of_find?_eq_some found
  have present := claimed_mem oldestPresent
  have matched := find?_some found
  simp only [decide_eq_true_eq] at matched
  have reason : optionalArgument (some (Text.ofString "skipped")) maxReasonBytes = .ok () := by
    decide +kernel
  have edge : DeliveryState.cancelled ∈ Lifecycle.edges oldest.claim.state := by
    simp [Delivery.claim, Lifecycle.edges]
  rcases transitionDelivery_succeeds sound owners present 0 edge (by decide)
    (fun owns => by cases owns) (rfl : optionalArgument none maxIdBytes = .ok ()) reason
    (Or.inr (Or.inl rfl)) with ⟨result, abandons⟩
  have abandoned : machine.step (store.claiming oldest) (.transitionDelivery oldest.claim.id
      oldest.claim.recipient .cancelled oldest.claim.version none
      (some (Text.ofString "skipped")) 0) = some { store.claiming oldest with
        deliveries := Table.update (·.id = oldest.id)
          (·.write .cancelled none (some (Text.ofString "skipped")))
          (store.claiming oldest).deliveries } := by
    refine step_of_apply (by trivial) ?_
    simp only [apply, abandons]
    rfl
  refine ⟨_, _, abandoned, ⟨sound_of_step sound abandoned,
    (applied_of_step sound abandoned).owners owners, ?_, ready.pending, ready.unbound, ?_, ?_⟩, ?_⟩
  · have apart : decide (delivery.id = oldest.id) = false := by simpa using Ne.symm other
    exact Table.mem_update_of_not (Table.mem_update_of_not ready.present apart) apart
  · intro row rowPresent same
    rcases mem_map.mp rowPresent with ⟨middle, middlePresent, rfl⟩
    rcases mem_map.mp middlePresent with ⟨earlier, earlierPresent, rfl⟩
    by_cases own : earlier.id = oldest.id
    · simp [own, Delivery.claim, Delivery.write, DeliveryState.owns]
    · simp only [own, decide_false, Bool.false_eq_true, if_false] at same ⊢
      exact ready.free earlier earlierPresent same
  · rcases ready.runnable with ⟨request, scope, message, context, runs⟩
    exact ⟨request, scope, message, context.of_deliveries rfl _, runs⟩
  · have before : oldest.sequence < delivery.sequence := by
      refine Nat.lt_of_le_of_ne ?_ fun same => other (congrArg Delivery.id
        (sequence_injective ready.sound oldestPresent ready.present same))
      exact Table.le_of_find? (sequences_ordered ready.sound) found ready.present
        (by simp [ready.pending])
    have claimed : (store.claiming oldest).ahead delivery < store.ahead delivery := by
      refine Table.countP_update_lt (fun row _ _ => ?_) oldestPresent (by simp) ?_
      · simp [Delivery.claim]
      · simp [matched, before]
    refine Nat.lt_of_le_of_lt (Table.countP_update_le fun row _ _ => ?_) claimed
    simp [Delivery.write]

/-- A worker that claims, and abandons what comes before, gets to start a ready delivery. -/
theorem can_start_of_ready (ready : store.Ready delivery) :
    ∃ operations final, machine.run store operations = some final ∧
      ∃ later ∈ final.deliveries, later.id = delivery.id ∧ later.state = .running := by
  induction weight : store.ahead delivery using Nat.strongRecOn generalizing store with
  | ind bound ih =>
    rcases exists_oldest ready.present ready.pending with ⟨oldest, found⟩
    have claimed := ready.claim found
    by_cases same : oldest.id = delivery.id
    · obtain rfl := Table.eq_of_key ready.sound.keyed.deliveries
        (mem_of_find?_eq_some found) ready.present same
      rcases ready.start claimed with ⟨operation, final, started, running⟩
      exact ⟨[_, operation], final,
        Machine.run_cons.mpr ⟨_, claimed, Machine.run_cons.mpr ⟨_, started, rfl⟩⟩, running⟩
    · rcases ready.skip found same claimed with ⟨operation, next, abandoned, readyNext, closer⟩
      rcases ih _ (weight ▸ closer) readyNext rfl with ⟨operations, final, ran, running⟩
      exact ⟨_ :: operation :: operations, final,
        Machine.run_cons.mpr ⟨_, claimed, Machine.run_cons.mpr ⟨_, abandoned, ran⟩⟩, running⟩

end CollaborationStore

end Synapse.Collaboration
