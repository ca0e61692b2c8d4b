import Synapse.Collaboration.Runtime
import Synapse.Collaboration.Restart

/-!
# A worker and its recipient

While a worker holds a delivery, the participants can only take it to `REVIEW`.
So a worker whose compare-and-swaps are not lost for another reason settles or
cancels each delivery it is done with, and its recipient is free for the next.
-/

namespace Synapse.Collaboration.CollaborationStore

variable {store next : CollaborationStore} {operation : StoreOperation} {recipient : SessionRef}

/-! ### What the participants leave alone -/

/-- An operation that is not about a recipient leaves its deliveries, or fences them. -/
theorem DeliveryMove.eq_or_fences {delivery later : Delivery}
    (move : store.DeliveryMove operation delivery later)
    (other : operation.concerns delivery.recipient = false) :
    later = delivery ∨ Fences delivery.state later.state := by
  cases move with
  | step later step =>
    cases step with
    | same => exact Or.inl rfl
    | moved state turnId reason edge idle bound cause =>
      rcases cause with concerned | fences
      · rw [other] at concerned
        cases concerned
      · exact Or.inr fences
    | linked turnId request scope running requested fenced permitted cause =>
      rw [other] at cause
      cases cause
  | started request scope turnId reason claimed requested fenced permitted cause =>
    rw [other] at cause
    cases cause

/-- Nothing of the recipient is claimed, running or under review. -/
def Unowned (store : CollaborationStore) (recipient : SessionRef) : Prop :=
  ∀ row ∈ store.deliveries, row.recipient = recipient → row.state.owns = false

theorem Unowned.of_applied (unowned : store.Unowned recipient) (sound : store.skeleton.Sound)
    (applied : store.Applied operation next) (other : operation.concerns recipient = false) :
    next.Unowned recipient := by
  intro later present same
  rcases (applied.deliveries_evolve sound.keyed).exists_before_or_fresh present with
    ⟨row, rowPresent, move⟩ | inserted
  · have kept : row.recipient = recipient :=
      (congrArg DeliveryIdentity.recipient move.identity).symm.trans same
    have free := unowned row rowPresent kept
    rcases move.eq_or_fences (kept ▸ other) with rfl | ⟨_, cancelled⟩ | ⟨claimed, _⟩
    · exact free
    · rw [cancelled]
      rfl
    · rw [claimed] at free
      cases free
  · exact inserted.unowned

variable {row : Delivery}

theorem eq_of_owns (owners : OwnersDistinct store.deliveries) {other : Delivery}
    (present : row ∈ store.deliveries) (otherPresent : other ∈ store.deliveries)
    (owns : row.state.owns = true) (otherOwns : other.state.owns = true)
    (same : row.recipient = other.recipient) : row = other :=
  Table.eq_of_key owners (List.mem_filter.mpr ⟨present, owns⟩)
    (List.mem_filter.mpr ⟨otherPresent, otherOwns⟩) same

theorem unowned_of_release (owners : OwnersDistinct store.deliveries)
    (present : row ∈ store.deliveries) (owns : row.state.owns = true)
    {change : Delivery → Delivery} (released : ∀ row, (change row).state.owns = false)
    (deliveries : next.deliveries = Table.update (·.id = row.id) change store.deliveries) :
    next.Unowned row.recipient := by
  intro later laterPresent same
  rw [deliveries] at laterPresent
  rcases List.mem_map.mp laterPresent with ⟨other, otherPresent, rfl⟩
  by_cases own : other.id = row.id
  · simpa [own] using released other
  · simp only [own, decide_false, Bool.false_eq_true, if_false] at same ⊢
    by_contra otherOwns
    apply own
    rw [eq_of_owns owners otherPresent present (by simpa using otherOwns) owns same]

/-! ### Reads and claims -/

theorem getDelivery_of_mem (sound : store.skeleton.Sound)
    (present : row ∈ store.deliveries) : store.getDelivery row.id row.recipient = .ok row := by
  have validId := sound.deliveryNames row.identity (List.mem_map_of_mem present)
  change boundedText row.id maxIdBytes = .ok () at validId
  simp only [getDelivery, validId, validRecipient sound present, ok_bind,
    Table.find?_eq_some sound.keyed.deliveries present, orRaise, ne_eq, not_true_eq_false]
  rfl

theorem executionContext_of_mem (sound : store.skeleton.Sound)
    (present : row ∈ store.deliveries) {request : Request} {scope : ContinuationScope}
    {message : Message} (context : store.Context row request scope message) :
    store.executionContext row.id = .ok (request, scope, message) := by
  have validId := sound.deliveryNames row.identity (List.mem_map_of_mem present)
  change boundedText row.id maxIdBytes = .ok () at validId
  have requested := Table.find?_eq_some sound.keyed.requests context.requested.1
  rw [context.requested.2] at requested
  have fenced := readScope_of_mem sound context.fenced.1
  rw [context.fenced.2] at fenced
  have carried := Table.find?_eq_some sound.keyed.messages context.carried.1
  rw [context.carried.2] at carried
  simp only [executionContext, findMessage, validId, ok_bind, orRaise, requested, carried, fenced,
    Table.find?_eq_some sound.keyed.deliveries present]
  rfl

/-- The delivery that `claim_next` returns. -/
theorem claimNext_result (sound : store.skeleton.Sound) {delivery : Delivery}
    (claims : store.claimNext recipient = .ok (next, some delivery)) :
    ∃ row ∈ store.deliveries, row.recipient = recipient ∧ row.state = .pending ∧
      delivery = row.claim ∧ next = store.claiming row := by
  simp only [claimNext, bind_eq_ok_iff] at claims
  rcases claims with ⟨_, _, claims⟩
  split at claims
  · simp at claims
  · split at claims
    case h_1 => simp at claims
    case h_2 row found =>
      simp only [bind_eq_ok_iff, pure_eq_ok_iff, Prod.mk.injEq] at claims
      rcases claims with ⟨after, updated, rfl, returned⟩
      have matched := List.find?_some found
      simp only [decide_eq_true_eq] at matched
      have present := List.mem_of_find?_eq_some found
      rcases updateDeliveries_ok updated with ⟨_, rfl⟩
      refine ⟨row, present, matched.1, matched.2, ?_, rfl⟩
      rcases Table.mem_of_find? returned with ⟨claimedPresent, sameId⟩
      rcases List.mem_map.mp claimedPresent with ⟨earlier, earlierPresent, rfl⟩
      by_cases own : earlier.id = row.id
      · obtain rfl := Table.eq_of_key sound.keyed.deliveries earlierPresent present own
        simp [Delivery.claim]
      · simp only [own, decide_false, Bool.false_eq_true, if_false] at sameId

theorem claimNext_serves (sound : store.skeleton.Sound) (owners : OwnersDistinct store.deliveries)
    (unowned : store.Unowned recipient) {waiting : Delivery} (present : waiting ∈ store.deliveries)
    (own : waiting.recipient = recipient) (pending : waiting.state = .pending) :
    ∃ oldest ∈ store.deliveries, oldest.recipient = recipient ∧ oldest.state = .pending ∧
      (∀ other ∈ store.deliveries, other.recipient = recipient → other.state = .pending →
        oldest.sequence ≤ other.sequence) ∧
      store.claimNext recipient = .ok (store.claiming oldest, some oldest.claim) := by
  subst own
  rcases exists_oldest present pending with ⟨oldest, found⟩
  have matched := List.find?_some found
  simp only [decide_eq_true_eq] at matched
  have oldestPresent := List.mem_of_find?_eq_some found
  refine ⟨oldest, oldestPresent, matched.1, matched.2, ?_, ?_⟩
  · intro other otherPresent same otherPending
    exact Table.le_of_find? (sequences_ordered sound) found otherPresent (by simp [same, otherPending])
  · rw [← matched.1] at found unowned ⊢
    exact claimNext_succeeds sound owners oldestPresent unowned found

end Synapse.Collaboration.CollaborationStore

namespace Synapse.Collaboration.CollaborationRuntime

open CollaborationStore

variable {store next : CollaborationStore} {operation : StoreOperation} {recipient : SessionRef}
  {delivery : Delivery}

/-! ### The row that the worker holds -/

/-- The row of a delivery of the recipient has a property. -/
def Holds (store : CollaborationStore) (recipient : SessionRef) (delivery : Delivery)
    (property : Delivery → Prop) : Prop :=
  ∃ row ∈ store.deliveries, row.id = delivery.id ∧ row.recipient = recipient ∧ property row

/-- The row is still as the worker claimed it, or a fence has held it for review. -/
def ClaimKept (delivery row : Delivery) : Prop :=
  row = delivery ∧ row.state = .claimed ∧ row.turnId = none ∨ row.state = .review

def Linked (row : Delivery) : Prop :=
  row.state = .running ∧ optionalArgument row.turnId maxIdBytes = .ok ()

def Closed (row : Delivery) : Prop :=
  row.state = .settled ∨ row.state = .cancelled

theorem Holds.of_applied {property : Delivery → Prop}
    (holds : Holds store recipient delivery property) (sound : store.skeleton.Sound)
    (applied : store.Applied operation next) (other : operation.concerns recipient = false)
    (stable : ∀ row later : Delivery, property row → Fences row.state later.state →
      property later) : Holds next recipient delivery property := by
  rcases holds with ⟨row, present, sameId, own, satisfied⟩
  rcases (applied.deliveries_evolve sound.keyed).exists_after present with
    ⟨later, laterPresent, move⟩
  have keptId : later.id = row.id := congrArg DeliveryIdentity.id move.identity
  have keptOwn : later.recipient = row.recipient :=
    congrArg DeliveryIdentity.recipient move.identity
  refine ⟨later, laterPresent, keptId.trans sameId, keptOwn.trans own, ?_⟩
  rcases move.eq_or_fences (own ▸ other) with rfl | fences
  · exact satisfied
  · exact stable row later satisfied fences

/-- No fence applies to a row that is neither pending nor claimed. -/
theorem not_fences {before after : DeliveryState} (fences : Fences before after)
    (past : before ≠ .pending ∧ before ≠ .claimed) : False := by
  rcases fences with ⟨pending, _⟩ | ⟨claimed, _⟩
  · exact past.1 pending
  · exact past.2 claimed

theorem ClaimKept.fenced {row later : Delivery} (kept : ClaimKept delivery row)
    (fences : Fences row.state later.state) : ClaimKept delivery later := by
  rcases kept with ⟨_, claimed, _⟩ | review
  · rcases fences with ⟨pending, _⟩ | ⟨_, held⟩
    · rw [claimed] at pending
      cases pending
    · exact Or.inr held
  · exact (not_fences fences (by simp [review])).elim

end Synapse.Collaboration.CollaborationRuntime

namespace Synapse.Collaboration

open CollaborationStore CollaborationRuntime

variable {store next : CollaborationStore} {operation : StoreOperation} {recipient : SessionRef}
  {phase : Phase}

/-! ### What each phase knows -/

/-- What the worker can rely on before each of its steps. -/
def Phase.Safe (store : CollaborationStore) (recipient : SessionRef) : Phase → Prop
  | .free => True
  | .deliver delivery | .start delivery _ | .link delivery _ _ =>
    delivery.recipient = recipient ∧ Holds store recipient delivery (ClaimKept delivery)
  | .abandon delivery reason | .abandonClaim delivery reason =>
    boundedText reason maxReasonBytes = .ok () ∧ delivery.recipient = recipient ∧
      Holds store recipient delivery (ClaimKept delivery)
  | .resolve delivery reason =>
    boundedText reason maxReasonBytes = .ok () ∧ delivery.recipient = recipient ∧
      Holds store recipient delivery (·.state = .review)
  | .resolveUncertain delivery current reason =>
    boundedText reason maxReasonBytes = .ok () ∧ delivery.recipient = recipient ∧
      Holds store recipient delivery fun row => row = current ∧ row.state = .review
  | .settle running _ | .reread running _ _ => Holds store recipient running Linked
  | .finish running _ _ | .failRequest running _ _ | .close running _ =>
    Holds store recipient running fun row => row = running ∧ Linked row
  -- The executor is not to report this.
  | .holdForReview _ _ => False
  | .done delivery => Holds store recipient delivery Closed ∧ store.Unowned recipient

theorem Phase.Safe.of_applied (safe : phase.Safe store recipient) (sound : store.skeleton.Sound)
    (applied : store.Applied operation next) (other : operation.concerns recipient = false) :
    phase.Safe next recipient := by
  have claimed : ∀ {delivery : Delivery}, Holds store recipient delivery (ClaimKept delivery) →
      Holds next recipient delivery (ClaimKept delivery) := fun holds =>
    holds.of_applied sound applied other fun _ _ kept fences => kept.fenced fences
  -- A row past its claim is out of the participants' reach.
  have past : ∀ {delivery : Delivery} {property : Delivery → Prop},
      Holds store recipient delivery property →
      (∀ row, property row → row.state ≠ .pending ∧ row.state ≠ .claimed) →
      Holds next recipient delivery property := fun holds beyond =>
    holds.of_applied sound applied other fun row _ satisfied fences =>
      (not_fences fences (beyond row satisfied)).elim
  cases phase with
  | free => trivial
  | deliver delivery => exact ⟨safe.1, claimed safe.2⟩
  | start delivery request => exact ⟨safe.1, claimed safe.2⟩
  | link delivery request turnId => exact ⟨safe.1, claimed safe.2⟩
  | abandon delivery reason => exact ⟨safe.1, safe.2.1, claimed safe.2.2⟩
  | abandonClaim delivery reason => exact ⟨safe.1, safe.2.1, claimed safe.2.2⟩
  | resolve delivery reason =>
    exact ⟨safe.1, safe.2.1, past safe.2.2 fun row review => by simp [review]⟩
  | resolveUncertain delivery current reason =>
    exact ⟨safe.1, safe.2.1, past safe.2.2 fun row held => by simp [held.2]⟩
  | settle running request => exact past safe fun row linked => by simp [linked.1]
  | reread running request reason => exact past safe fun row linked => by simp [linked.1]
  | finish running request reason => exact past safe fun row linked => by simp [linked.2.1]
  | failRequest running latest reason => exact past safe fun row linked => by simp [linked.2.1]
  | close running reason => exact past safe fun row linked => by simp [linked.2.1]
  | holdForReview delivery reason => exact safe.elim
  | done delivery =>
    refine ⟨past safe.1 fun row closed => ?_, safe.2.of_applied sound applied other⟩
    rcases closed with state | state <;> simp [state]

theorem CollaborationError.caught_safe (error : CollaborationError)
    (safe : phase.Safe store recipient) : (error.caught phase).Safe store recipient := by
  unfold CollaborationError.caught
  split
  · exact safe
  · trivial

namespace CollaborationRuntime

variable {delivery : Delivery}

/-- The worker is where its phase says it is. -/
def Safe (runtime : CollaborationRuntime) (recipient : SessionRef) : Prop :=
  runtime.phase.Safe runtime.store recipient

/-! ### One lemma for each step of the worker -/

theorem claim_safe (sound : store.skeleton.Sound) (waiting : store.Waiting) :
    (claim store recipient).Safe recipient := by
  unfold claim
  split
  case h_1 next delivery claims =>
    rcases claimNext_result sound claims with ⟨row, present, own, pending, rfl, rfl⟩
    exact ⟨own, row.claim, claimed_mem present, rfl, own,
      Or.inl ⟨rfl, rfl, waiting.unbound row present pending⟩⟩
  case h_2 => trivial
  case h_3 => trivial

theorem deliver_safe (sound : store.skeleton.Sound)
    (safe : (Phase.deliver delivery).Safe store recipient) :
    (deliver store recipient delivery).Safe recipient := by
  rcases safe with ⟨own, row, present, sameId, rowOwn, kept⟩
  rcases exists_context sound present with ⟨request, scope, message, context⟩
  have read := executionContext_of_mem sound present context
  rw [sameId] at read
  simp only [deliver, read]
  split
  · exact ⟨own, row, present, sameId, rowOwn, kept⟩
  · exact ⟨by decide +kernel, own, row, present, sameId, rowOwn, kept⟩

/-- The checks of the start at the moment of the compare-and-swap. -/
def MayRun (store : CollaborationStore) (delivery : Delivery) (recipient : SessionRef)
    (turnId : Text) : Prop :=
  ∃ context, store.executionContext delivery.id = .ok context ∧
    permitsExecution context.1 context.2.1 recipient = true ∧
      allowed context.1 recipient context.2.2.kind = some true ∧
        boundedText turnId maxIdBytes = .ok ()

/-- The row of the delivery is in the state `CLAIMED`. -/
def StillClaimed (store : CollaborationStore) (delivery : Delivery) : Prop :=
  ∃ row ∈ store.deliveries, row.id = delivery.id ∧ row.state = .claimed

variable {reason : Option Text} {now : ℤ}

theorem transitionDelivery_result {deliveryId : Text} {state : DeliveryState} {version : ℤ}
    {turnId : Option Text} {result : Option Delivery}
    (moved : store.transitionDelivery deliveryId recipient state version turnId reason now =
      .ok (next, result)) :
    ∃ row ∈ store.deliveries, row.id = deliveryId ∧ state ∈ Lifecycle.edges row.state ∧
      ∀ later, result = some later → later.id = deliveryId := by
  simp only [transitionDelivery, bind_eq_ok_iff, orRaise_eq_ok_iff, pure_eq_ok_iff,
    Prod.mk.injEq] at moved
  rcases moved with ⟨_, _, _, _, _, _, _, _, _, _, row, found, _, _, _, _, _, edge, _, _, _, _, _, _,
    _, _, after, _, rfl, rfl⟩
  rcases Table.mem_of_find? found with ⟨present, sameId⟩
  refine ⟨row, present, sameId, mem_edges_of_checkTransition edge, ?_⟩
  intro later returned
  exact (Table.mem_of_find? returned).2.trans sameId

variable {request : Request}

theorem link_safe (sound : store.skeleton.Sound) (owners : OwnersDistinct store.deliveries)
    {turnId : Text} (safe : (Phase.link delivery request turnId).Safe store recipient)
    (careful : StillClaimed store delivery → MayRun store delivery recipient turnId) :
    (link store recipient delivery request turnId now).Safe recipient := by
  rcases safe with ⟨own, row, present, sameId, rowOwn, kept⟩
  rcases kept with ⟨rfl, claimed, unbound⟩ | review
  · subst own
    rcases careful ⟨row, present, rfl, claimed⟩ with ⟨found, read, permitted, fits, validTurn⟩
    rcases exists_context sound present with ⟨request', scope, message, context⟩
    rw [executionContext_of_mem sound present context] at read
    cases read
    rcases startDelivery_succeeds sound owners present claimed context permitted fits validTurn
      (Or.inl unbound) now with ⟨next, result, starts, written⟩
    have named := transitionDelivery_result starts
    simp only [link, starts]
    cases result with
    | none => trivial
    | some running =>
      rcases named with ⟨_, _, _, _, named⟩
      have stored : row.write .running (some turnId) none ∈ next.deliveries := by
        rw [written]
        exact Table.mem_update present (by simp)
      refine ⟨_, stored, (named running rfl).symm, rfl, rfl, ?_⟩
      simpa [Delivery.write, unbound, optionalArgument] using validTurn
  · unfold link
    split
    case h_1 next running starts =>
      -- A row under review does not start.
      rcases transitionDelivery_result starts with ⟨other, otherPresent, otherId, edge, _⟩
      obtain rfl := Table.eq_of_key sound.keyed.deliveries otherPresent present
        (otherId.trans sameId.symm)
      simp [review, Lifecycle.edges] at edge
    case h_2 => trivial
    case h_3 error lost =>
      apply error.caught_safe
      exact ⟨by decide +kernel, own, row, present, sameId, rowOwn, review⟩

variable {running : Delivery}

theorem reread_safe (sound : store.skeleton.Sound)
    (safe : (Phase.reread running request reason).Safe store recipient) :
    (reread store recipient running request reason).Safe recipient := by
  rcases safe with ⟨row, present, sameId, rowOwn, linked⟩
  have read := getDelivery_of_mem sound present
  rw [sameId, rowOwn] at read
  simp only [reread, read]
  exact ⟨row, present, rfl, rowOwn, rfl, linked⟩

theorem finish_safe (safe : (Phase.finish running request reason).Safe store recipient) :
    (finish store recipient running request reason).Safe recipient := by
  unfold finish
  split
  case isTrue =>
    split
    case h_1 latest read =>
      split
      · exact safe
      · exact safe
    case h_2 error failed =>
      have closing : (Phase.close running reason).Safe store recipient := safe
      exact error.caught_safe closing
  case isFalse => exact safe

/-- The last write of the worker on a delivery releases the recipient. -/
theorem release_safe (sound : store.skeleton.Sound) (owners : OwnersDistinct store.deliveries)
    {row : Delivery} (present : row ∈ store.deliveries) (owns : row.state.owns = true)
    {state : DeliveryState} (edge : state ∈ Lifecycle.edges row.state)
    (final : state = .settled ∨ state = .cancelled) {turnId : Option Text}
    (validTurn : optionalArgument turnId maxIdBytes = .ok ())
    (validReason : optionalArgument reason maxReasonBytes = .ok ())
    (bound : turnId = none ∨ turnId = row.turnId) (now : ℤ) (sameId : row.id = delivery.id) :
    (suppress store (store.transitionDelivery row.id row.recipient state row.version turnId reason
      now) (.done delivery)).Safe row.recipient := by
  have released : state.owns = false := by
    rcases final with rfl | rfl <;> rfl
  have idle : state ≠ .running := by
    rcases final with rfl | rfl <;> simp
  rcases transitionDelivery_succeeds sound owners present now edge idle (fun _ => owns) validTurn
    validReason (Or.inr bound) with ⟨result, moved⟩
  simp only [suppress, moved]
  refine ⟨⟨row.write state turnId reason, Table.mem_update present (by simp), sameId, rfl, final⟩, ?_⟩
  exact unowned_of_release owners present owns (fun _ => released) rfl

theorem close_safe (sound : store.skeleton.Sound) (owners : OwnersDistinct store.deliveries)
    (safe : (Phase.close running reason).Safe store recipient)
    (careful : optionalArgument reason maxReasonBytes = .ok ()) :
    (suppress store (store.transitionDelivery running.id recipient .settled running.version
      running.turnId reason now) (.done running)).Safe recipient := by
  rcases safe with ⟨row, present, _, rfl, rfl, linked, validTurn⟩
  exact release_safe sound owners present (by simp [linked, DeliveryState.owns])
    (by simp [linked, Lifecycle.edges]) (Or.inl rfl) validTurn careful (Or.inr rfl) now rfl

theorem abandon_safe (sound : store.skeleton.Sound) {reason : Text}
    (safe : (Phase.abandon delivery reason).Safe store recipient) :
    (abandon store delivery reason).Safe recipient := by
  rcases safe with ⟨valid, rfl, row, present, sameId, rowOwn, kept⟩
  have read := getDelivery_of_mem sound present
  rw [sameId, rowOwn] at read
  simp only [abandon, read]
  split
  case isTrue review => exact ⟨valid, rowOwn, row, present, rfl, rowOwn, review⟩
  case isFalse other =>
    rcases kept with ⟨_, claimed, unbound⟩ | review
    · exact ⟨valid, rowOwn, row, present, rfl, rowOwn, Or.inl ⟨rfl, claimed, unbound⟩⟩
    · exact absurd review other

theorem abandonClaim_safe (sound : store.skeleton.Sound) (owners : OwnersDistinct store.deliveries)
    {current : Delivery} {reason : Text}
    (safe : (Phase.abandonClaim current reason).Safe store recipient)
    (careful : StillClaimed store current) :
    (suppress store (store.abandonClaim current.id current.recipient current.version reason now)
      (.done current)).Safe recipient := by
  rcases safe with ⟨valid, rfl, row, present, sameId, rowOwn, kept⟩
  rcases careful with ⟨other, otherPresent, otherId, claimed⟩
  obtain rfl := Table.eq_of_key sound.keyed.deliveries otherPresent present
    (otherId.trans sameId.symm)
  have validReason : optionalArgument (some reason) maxReasonBytes = .ok () := valid
  rcases kept with ⟨rfl, _, _⟩ | review
  · simp only [CollaborationStore.abandonClaim, valid, ok_bind]
    exact release_safe sound owners present (by simp [claimed, DeliveryState.owns])
      (by simp [claimed, Lifecycle.edges]) (Or.inr rfl) rfl validReason (Or.inl rfl) now rfl
  · rw [claimed] at review
    cases review

theorem resolve_safe (sound : store.skeleton.Sound) {reason : Text}
    (safe : (Phase.resolve delivery reason).Safe store recipient) :
    (resolve store delivery reason).Safe recipient := by
  rcases safe with ⟨valid, rfl, row, present, sameId, rowOwn, review⟩
  have read := getDelivery_of_mem sound present
  rw [sameId, rowOwn] at read
  simp only [resolve, read]
  exact ⟨valid, rfl, row, present, sameId, rowOwn, rfl, review⟩

theorem resolveUncertain_safe (sound : store.skeleton.Sound)
    (owners : OwnersDistinct store.deliveries) {current : Delivery} {reason : Text}
    (safe : (Phase.resolveUncertain delivery current reason).Safe store recipient) :
    (suppress store (store.resolveUncertain current.id delivery.recipient current.version reason
      now) (.done delivery)).Safe recipient := by
  rcases safe with ⟨valid, rfl, row, present, sameId, rowOwn, rfl, review⟩
  have validReason : optionalArgument (some reason) maxReasonBytes = .ok () := valid
  simp only [CollaborationStore.resolveUncertain, valid, ok_bind]
  rw [← rowOwn]
  exact release_safe sound owners present (by simp [review, DeliveryState.owns])
    (by simp [review, Lifecycle.edges]) (Or.inl rfl) rfl validReason (Or.inl rfl) now sameId

end CollaborationRuntime

end Synapse.Collaboration
