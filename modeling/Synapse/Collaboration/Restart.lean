import Synapse.Foundation.Batches
import Synapse.Collaboration.Serving

/-!
# Restart

At startup the daemon recovers what an earlier process left behind: it holds
claimed and running deliveries for review, and then settles what is held,
failing each request whose target has not answered. `settle_interrupted` looks
at one delivery and at the state of its request. It does not see another
delivery of the request that still waits for the target.
-/

namespace Synapse.Collaboration.CollaborationStore

open List

variable {store next : CollaborationStore}

/-- The two loops of the daemon, each with a bound on its calls. -/
def restart (recoverLimit settleLimit : ℤ) (clock : ℕ → ℤ) (fuel : ℕ)
    (store : CollaborationStore) : Option CollaborationStore := do
  let recovered ← drain (fun _ store => store.recoverUncertain recoverLimit) fuel clock store
  drain (fun now store => store.settleInterrupted settleLimit now) fuel clock recovered

/-! ### The first loop -/

/-- Claimed and running deliveries are held for review. -/
def heldForReview (store : CollaborationStore) : CollaborationStore :=
  { store with
    deliveries := Table.update (fun row => row.state = .claimed ∨ row.state = .running)
      (·.retire .review "restart") store.deliveries }

variable {limit : ℤ}

theorem recoverUncertain_succeeds (keyed : store.Keyed) (owners : OwnersDistinct store.deliveries)
    (valid : pageSize limit = .ok ()) :
    ∃ next count, store.recoverUncertain limit = .ok (next, count) := by
  have step : ∃ next, ((store.deliveries.filter fun row =>
        row.state = .claimed ∨ row.state = .running).take limit.toNat).foldlM
        (fun store row => store.updateDeliveries (·.id = row.id) (·.retire .review "restart"))
        store = .ok next ∧ OwnersDistinct next.deliveries ∧ ∀ row ∈ next.deliveries,
      row.id ∈ ((store.deliveries.filter fun row =>
        row.state = .claimed ∨ row.state = .running).take limit.toNat).map (·.id) →
      row.state.owns = true := by
    refine foldlM_succeeds ⟨owners, fun row present taken => ?_⟩ ?_
    · have live := of_mem_map_id keyed.deliveries present taken
      simp only [decide_eq_true_eq] at live
      rcases live with claimed | running
      · rw [claimed]
        rfl
      · rw [running]
        rfl
    · rintro state ⟨owners, owned⟩ row taken
      have stepped : OwnersDistinct (Table.update (·.id = row.id) (·.retire .review "restart")
          state.deliveries) := by
        refine ownersDistinct_update owners fun other present chosen => ⟨rfl, fun _ => ?_⟩
        rw [decide_eq_true_eq] at chosen
        exact owned other present (chosen ▸ mem_map_of_mem taken)
      refine ⟨_, updateDeliveries_succeeds stepped, stepped, fun other present chosen => ?_⟩
      rcases mem_map.mp present with ⟨earlier, earlierPresent, rfl⟩
      by_cases own : earlier.id = row.id
      · simp [own, Delivery.retire, DeliveryState.owns]
      · simp only [own, decide_false, Bool.false_eq_true, if_false] at chosen ⊢
        exact owned earlier earlierPresent chosen
  rcases step with ⟨next, folded, _⟩
  simp only [recoverUncertain, valid, ok_bind, folded]
  exact ⟨_, _, rfl⟩

theorem one_le_toNat (valid : pageSize limit = .ok ()) : 1 ≤ limit.toNat := by
  simp only [pageSize, raiseIf_eq_ok_iff, not_not] at valid
  omega

theorem filter_eq_nil_of_take {Row : Type} {rows : List Row} {query : Row → Bool}
    (valid : pageSize limit = .ok ()) (none : ((rows.filter query).take limit.toNat).length = 0) :
    ∀ row ∈ rows, query row = false := by
  have limited := one_le_toNat valid
  rw [length_take] at none
  have empty : (rows.filter query).length = 0 := by omega
  rw [length_eq_zero_iff, filter_eq_nil_iff] at empty
  intro row present
  simpa using empty row present

variable {rows : List Delivery} {change : Delivery → Delivery} {query : Delivery → Bool}

theorem update_batch_nil (none : ((rows.filter query).take limit.toNat).length = 0) :
    Table.update (fun row => row.id ∈ ((rows.filter query).take limit.toNat).map (·.id)) change
      rows = rows := by
  rw [length_eq_zero_iff] at none
  refine Table.update_eq_self fun row _ => ?_
  simp [none]

/-- A batch that takes something lowers the number of rows that are found. -/
theorem countP_batch_lt (stops : ∀ row, query (change row) = false)
    (some : ((rows.filter query).take limit.toNat).length ≠ 0) :
    (Table.update (fun row => row.id ∈ ((rows.filter query).take limit.toNat).map (·.id)) change
      rows).countP query < rows.countP query := by
  rcases exists_mem_of_length_pos (Nat.pos_of_ne_zero some) with ⟨row, taken⟩
  rcases mem_filter.mp (mem_of_mem_take taken) with ⟨present, found⟩
  refine Table.countP_update_lt (fun other _ _ => stops other) present ?_ found
  exact decide_eq_true (mem_map_of_mem taken)

/-- A state of the store from which the daemon restarts. -/
structure Restartable (store : CollaborationStore) : Prop where
  sound : store.skeleton.Sound
  owners : OwnersDistinct store.deliveries

theorem Restartable.of_apply {operation : StoreOperation} (restartable : store.Restartable)
    (admitted : store.Admits operation) (applied : store.apply operation = .ok next) :
    next.Restartable := by
  have done := applied_of_apply restartable.sound.keyed admitted applied
  exact ⟨(done.grown restartable.sound).sound restartable.sound, done.owners restartable.owners⟩

/-- A batch changes nothing of what the loop comes to. -/
theorem heldForReview_batch (keyed : store.Keyed) {count : ℕ}
    (recovers : store.recoverUncertain limit = .ok (next, count)) :
    next.heldForReview = store.heldForReview := by
  rcases recoverUncertain_ok keyed recovers with ⟨_, _, rfl⟩
  simp only [heldForReview]
  rw [Table.update_update fun row _ => by simp [Delivery.retire]]
  congr 1
  refine Table.update_congr fun row present => ?_
  rw [Bool.or_eq_right_iff_imp]
  intro taken
  exact of_mem_map_id keyed.deliveries present (of_decide_eq_true taken)

theorem drain_recoverUncertain (restartable : store.Restartable)
    (valid : pageSize limit = .ok ()) {fuel : ℕ} {clock : ℕ → ℤ}
    (enough : store.deliveries.length < fuel) :
    drain (fun _ store => store.recoverUncertain limit) fuel clock store =
      some store.heldForReview ∧ store.heldForReview.Restartable := by
  have spec : ∃ final, drain (fun (_ : ℤ) store => store.recoverUncertain limit) fuel clock store =
      some final ∧ final.Restartable ∧ final = store.heldForReview := by
    refine drain_spec (fun state final => final = state.heldForReview)
      (fun state => state.deliveries.countP fun row => row.state = .claimed ∨ row.state = .running)
      ?_ restartable (Nat.lt_of_le_of_lt countP_le_length enough)
    intro tick state restartable
    rcases recoverUncertain_succeeds restartable.sound.keyed restartable.owners valid with
      ⟨next, count, recovers⟩
    have applied : state.apply (.recoverUncertain limit) = .ok next := by
      simp only [apply, recovers]
      rfl
    have same := heldForReview_batch restartable.sound.keyed recovers
    rcases recoverUncertain_ok restartable.sound.keyed recovers with ⟨counted, _, equal⟩
    refine ⟨next, count, recovers, restartable.of_apply (by trivial) applied, fun none => ?_,
      fun some => ?_⟩
    · rw [counted] at none
      rw [update_batch_nil none] at equal
      rw [equal, heldForReview, Table.update_eq_self (filter_eq_nil_of_take valid none)]
    · rw [counted] at some
      rw [equal]
      exact ⟨countP_batch_lt (fun row => by simp [Delivery.retire]) some,
        fun final held => held.trans (equal ▸ same)⟩
  rcases spec with ⟨final, drained, after, rfl⟩
  exact ⟨drained, after⟩

/-! ### The second loop -/

/-- A request that `settle_interrupted` fails: its target has not answered, and a
delivery to the target is held for review. -/
def interrupted (store : CollaborationStore) (request : Request) : Bool :=
  failedBy (store.deliveries.filter (·.state = .review)) request

/-- Everything held for review is settled, and its unanswered requests have failed. -/
structure Settled (store final : CollaborationStore) : Prop where
  scopes : final.scopes = store.scopes
  messages : final.messages = store.messages
  deliveries : final.deliveries = Table.update (·.state = .review)
    (·.retire .settled "interrupted") store.deliveries
  requests : List.Forall₂ (fun request later =>
    if store.interrupted request = true then ∃ now, later = request.advance .failed now
    else later = request) store.requests final.requests

theorem settleInterrupted_succeeds (owners : OwnersDistinct store.deliveries)
    (valid : pageSize limit = .ok ()) (now : ℤ) :
    ∃ next count, store.settleInterrupted limit now = .ok (next, count) := by
  have step : ∃ next, ((store.deliveries.filter fun row => row.state = .review).take
      limit.toNat).foldlM (fun store row => store.settleLocked row now) store = .ok next ∧
      OwnersDistinct next.deliveries := by
    refine foldlM_succeeds owners fun state owners row taken => ?_
    have stepped : OwnersDistinct (Table.update (·.id = row.id) (·.retire .settled "interrupted")
        state.deliveries) :=
      ownersDistinct_update owners fun other present chosen => ⟨rfl, fun owns => by cases owns⟩
    simp only [settleLocked, updateDeliveries_succeeds stepped, ok_bind]
    split
    · exact ⟨_, rfl, stepped⟩
    · split
      · exact ⟨_, rfl, stepped⟩
      · exact ⟨_, rfl, stepped⟩
  rcases step with ⟨next, folded, _⟩
  simp only [settleInterrupted, valid, ok_bind, folded]
  exact ⟨_, _, rfl⟩

variable {request : Request}

/-- After a batch, a request that it has not failed is interrupted as before. -/
theorem interrupted_batch (keyed : store.Keyed)
    (taken : ∀ row ∈ rows, row ∈ store.deliveries ∧ row.state = .review)
    (deliveries : next.deliveries = Table.update (fun row => row.id ∈ rows.map (·.id))
      (·.retire .settled "interrupted") store.deliveries)
    (spared : failedBy rows request = false) :
    next.interrupted request = store.interrupted request := by
  rw [Bool.eq_iff_iff]
  simp only [interrupted, failedBy, decide_eq_true_eq]
  refine and_congr_right fun unanswered => ⟨?_, ?_⟩
  · rintro ⟨row, listed, addressed⟩
    rcases mem_filter.mp listed with ⟨present, review⟩
    rw [deliveries] at present
    rcases mem_map.mp present with ⟨earlier, earlierPresent, rfl⟩
    split at review
    · simp [Delivery.retire] at review
    case isFalse untouched =>
      rw [if_neg untouched] at addressed
      exact ⟨earlier, mem_filter.mpr ⟨earlierPresent, review⟩, addressed⟩
  · rintro ⟨row, listed, addressed⟩
    rcases mem_filter.mp listed with ⟨present, review⟩
    refine ⟨row, mem_filter.mpr ⟨?_, review⟩, addressed⟩
    rw [deliveries]
    refine Table.mem_update_of_not present (decide_eq_false fun inBatch => ?_)
    rcases mem_map.mp inBatch with ⟨other, otherTaken, same⟩
    obtain rfl := Table.eq_of_key keyed.deliveries (taken other otherTaken).1 present same
    have fails : failedBy rows request = true :=
      decide_eq_true ⟨unanswered, other, otherTaken, addressed⟩
    rw [spared] at fails
    cases fails

variable {final : CollaborationStore}

theorem Settled.of_batch (keyed : store.Keyed) {now : ℤ} {count : ℕ}
    (settles : store.settleInterrupted limit now = .ok (next, count))
    (settled : Settled next final) : Settled store final := by
  rcases settleInterrupted_ok keyed settles with ⟨_, _, equal⟩
  have taken : ∀ row ∈ (store.deliveries.filter fun row => row.state = .review).take limit.toNat,
      row ∈ store.deliveries ∧ row.state = .review := by
    intro row rowTaken
    simpa using mem_filter.mp (mem_of_mem_take rowTaken)
  have scopes := congrArg CollaborationStore.scopes equal
  have requests := congrArg CollaborationStore.requests equal
  have messages := congrArg CollaborationStore.messages equal
  have deliveries := congrArg CollaborationStore.deliveries equal
  refine ⟨settled.scopes.trans scopes, settled.messages.trans messages, ?_, ?_⟩
  · rw [settled.deliveries, deliveries, Table.update_update fun row _ => by simp [Delivery.retire]]
    refine Table.update_congr fun row present => ?_
    rw [Bool.or_eq_right_iff_imp]
    intro inBatch
    exact of_mem_map_id keyed.deliveries present (of_decide_eq_true inBatch)
  · have moved := settled.requests
    rw [requests, Table.update, forall₂_map_left_iff] at moved
    refine moved.imp fun request later step => ?_
    by_cases fails : failedBy ((store.deliveries.filter fun row => row.state = .review).take
        limit.toNat) request = true
    · have before : store.interrupted request = true := by
        simp only [failedBy, decide_eq_true_eq] at fails
        rcases fails with ⟨unanswered, row, rowTaken, addressed⟩
        exact decide_eq_true ⟨unanswered, row, mem_of_mem_take rowTaken, addressed⟩
      rw [if_pos before]
      rw [if_pos fails, if_neg (by simp [interrupted, failedBy, Request.advance])] at step
      exact ⟨now, step⟩
    · rw [if_neg fails] at step
      rw [Bool.not_eq_true] at fails
      rw [interrupted_batch keyed taken deliveries fails] at step
      exact step

theorem drain_settleInterrupted (restartable : store.Restartable)
    (valid : pageSize limit = .ok ()) {fuel : ℕ} {clock : ℕ → ℤ}
    (enough : store.deliveries.length < fuel) :
    ∃ final, drain (fun now store => store.settleInterrupted limit now) fuel clock store =
      some final ∧ final.Restartable ∧ Settled store final := by
  refine drain_spec Settled
    (fun state => state.deliveries.countP fun row => row.state = .review)
    ?_ restartable (Nat.lt_of_le_of_lt countP_le_length enough)
  intro now state restartable
  rcases settleInterrupted_succeeds restartable.owners valid now with ⟨next, count, settles⟩
  have applied : state.apply (.settleInterrupted limit now) = .ok next := by
    simp only [apply, settles]
    rfl
  have keyed := restartable.sound.keyed
  have compose : ∀ final, Settled next final → Settled state final := fun final settled =>
    settled.of_batch keyed settles
  rcases settleInterrupted_ok keyed settles with ⟨counted, _, equal⟩
  refine ⟨next, count, settles, restartable.of_apply (by trivial) applied, fun none => ?_,
    fun some => ⟨?_, compose⟩⟩
  · rw [counted] at none
    have idle := filter_eq_nil_of_take valid none
    apply compose
    rw [update_batch_nil none] at equal
    have rest : next.deliveries = state.deliveries := by rw [equal]
    have nextIdle : ∀ row ∈ next.deliveries, decide (row.state = .review) = false := by
      rw [rest]
      exact idle
    refine ⟨rfl, rfl, (Table.update_eq_self nextIdle).symm, forall₂_same.mpr ?_⟩
    intro request _
    have spared : next.interrupted request = false := by
      rw [interrupted, filter_eq_nil_iff.mpr fun row present => by
        simpa using nextIdle row present]
      simp [failedBy]
    simp [spared]
  · rw [counted] at some
    rw [equal]
    exact countP_batch_lt (fun row => by simp [Delivery.retire]) some

/-! ### What a restart comes to -/

/-- A pending delivery to the target of a request, under active fences. -/
structure Deliverable (store : CollaborationStore) (request : Request) (delivery : Delivery) :
    Prop where
  present : delivery ∈ store.deliveries
  pending : delivery.state = .pending
  addressed : delivery.requestId = request.id ∧ delivery.recipient = request.target
  continued : request.continuation = .active
  fenced : ∃ scope ∈ store.scopes, scope.id = request.scopeId ∧ scope.state = .active

instance (store : CollaborationStore) (request : Request) (delivery : Delivery) :
    Decidable (store.Deliverable request delivery) :=
  decidable_of_iff (delivery ∈ store.deliveries ∧ delivery.state = .pending ∧
      (delivery.requestId = request.id ∧ delivery.recipient = request.target) ∧
      request.continuation = .active ∧
      ∃ scope ∈ store.scopes, scope.id = request.scopeId ∧ scope.state = .active)
    ⟨fun ⟨present, pending, addressed, continued, fenced⟩ =>
      ⟨present, pending, addressed, continued, fenced⟩,
    fun ⟨present, pending, addressed, continued, fenced⟩ =>
      ⟨present, pending, addressed, continued, fenced⟩⟩

/-- Operations can take the delivery to `RUNNING`. -/
def CanStart (store : CollaborationStore) (delivery : Delivery) : Prop :=
  ∃ operations final, machine.run store operations = some final ∧
    ∃ later ∈ final.deliveries, later.id = delivery.id ∧ later.state = .running

/-- The restart loses no work that can be delivered. -/
structure LosesNoWork (store final : CollaborationStore) : Prop where
  unowned : ∀ row ∈ final.deliveries, row.state.owns = false
  pending : ∀ row ∈ store.deliveries, row.state = .pending → row ∈ final.deliveries
  unclosed : ∀ request ∈ store.requests, ¬Terminal request.state →
    ∀ later ∈ final.requests, later.id = request.id → Terminal later.state →
      ¬∃ delivery, store.Deliverable request delivery
  startable : ∀ request ∈ store.requests, ¬Terminal request.state →
    ∀ delivery, store.Deliverable request delivery → final.CanStart delivery

/-- A pending request with two deliveries to its target: one was interrupted, the
other, a supplement, is still to be delivered. -/
def Supplemented (store : CollaborationStore) : Prop :=
  ∃ request ∈ store.requests, request.state = .pending ∧
    (∃ delivery, store.Deliverable request delivery) ∧
    ∃ row ∈ store.deliveries, row.requestId = request.id ∧ row.recipient = request.target ∧
      row.state.owns = true

/-- A restart, row by row. -/
structure Restarted (store final : CollaborationStore) : Prop where
  restartable : final.Restartable
  scopes : final.scopes = store.scopes
  messages : final.messages = store.messages
  unowned : ∀ row ∈ final.deliveries, row.state.owns = false
  pending : ∀ row ∈ store.deliveries, row.state = .pending → row ∈ final.deliveries
  failed : ∀ request ∈ store.requests, (request.state = .pending ∨ request.state = .working) →
    (∃ row ∈ store.deliveries, row.requestId = request.id ∧ row.recipient = request.target ∧
      row.state.owns = true) →
    ∃ later ∈ final.requests, later.id = request.id ∧ later.state = .failed
  kept : ∀ request ∈ store.requests, ¬(∃ row ∈ store.deliveries, row.requestId = request.id ∧
      row.recipient = request.target ∧ row.state.owns = true) →
    request ∈ final.requests

theorem owns_iff {state : DeliveryState} :
    state.owns = true ↔ (state = .claimed ∨ state = .running) ∨ state = .review := by
  cases state <;> simp [DeliveryState.owns]

theorem interrupted_heldForReview :
    store.heldForReview.interrupted request = true ↔
      (request.state = .pending ∨ request.state = .working) ∧
        ∃ row ∈ store.deliveries, row.requestId = request.id ∧ row.recipient = request.target ∧
          row.state.owns = true := by
  simp only [interrupted, failedBy, decide_eq_true_eq]
  refine and_congr_right fun _ => ⟨?_, ?_⟩
  · rintro ⟨row, listed, addressed⟩
    rcases mem_filter.mp listed with ⟨present, review⟩
    rcases mem_map.mp present with ⟨earlier, earlierPresent, rfl⟩
    split at addressed
    case isTrue live =>
      exact ⟨earlier, earlierPresent, addressed.1, addressed.2,
        owns_iff.mpr (Or.inl (of_decide_eq_true live))⟩
    case isFalse idle =>
      rw [if_neg idle] at review
      exact ⟨earlier, earlierPresent, addressed.1, addressed.2,
        owns_iff.mpr (Or.inr (of_decide_eq_true review))⟩
  · rintro ⟨row, present, requestId, recipient, owns⟩
    rcases owns_iff.mp owns with live | review
    · exact ⟨row.retire .review "restart",
        mem_filter.mpr ⟨Table.mem_update present (decide_eq_true live), by
          simp [Delivery.retire]⟩, requestId, recipient⟩
    · have idle : decide (row.state = .claimed ∨ row.state = .running) = false := by simp [review]
      exact ⟨row, mem_filter.mpr ⟨Table.mem_update_of_not present idle, decide_eq_true review⟩,
        requestId, recipient⟩

theorem restart_spec (restartable : store.Restartable) {recoverLimit settleLimit : ℤ}
    (validRecover : pageSize recoverLimit = .ok ()) (validSettle : pageSize settleLimit = .ok ())
    (clock : ℕ → ℤ) {fuel : ℕ} (enough : store.deliveries.length < fuel) :
    ∃ final, restart recoverLimit settleLimit clock fuel store = some final ∧
      Restarted store final := by
  rcases drain_recoverUncertain restartable validRecover enough with ⟨recovers, held⟩
  have heldEnough : store.heldForReview.deliveries.length < fuel := by
    simpa [heldForReview, Table.update] using enough
  rcases drain_settleInterrupted held validSettle heldEnough with
    ⟨final, settles, restartable, settled⟩
  refine ⟨final, ?_, restartable, settled.scopes, settled.messages, ?_, ?_, ?_, ?_⟩
  · rw [restart, recovers]
    exact settles
  · rw [settled.deliveries]
    intro row present
    rcases mem_map.mp present with ⟨middle, middlePresent, rfl⟩
    rcases mem_map.mp middlePresent with ⟨earlier, earlierPresent, rfl⟩
    cases state : earlier.state <;> simp [state, Delivery.retire, DeliveryState.owns]
  · intro row present pending
    rw [settled.deliveries]
    refine Table.mem_update_of_not (Table.mem_update_of_not present ?_) ?_
    · simp [pending]
    · simp [pending]
  · intro request present unanswered owned
    rcases Table.exists_after settled.requests present with ⟨later, laterPresent, step⟩
    rw [if_pos (interrupted_heldForReview.mpr ⟨unanswered, owned⟩)] at step
    rcases step with ⟨now, rfl⟩
    exact ⟨_, laterPresent, rfl, rfl⟩
  · intro request present unowned
    rcases Table.exists_after settled.requests present with ⟨later, laterPresent, step⟩
    rw [if_neg fun interrupts => unowned (interrupted_heldForReview.mp interrupts).2] at step
    exact step ▸ laterPresent

/-- A request with a delivery that waits for its target is pending, if it is not closed. -/
theorem Deliverable.unstarted (waiting : store.Waiting)
    (present : request ∈ store.requests) (unclosed : ¬Terminal request.state) {delivery : Delivery}
    (deliverable : store.Deliverable request delivery) : request.state = .pending := by
  have awaits : delivery.Awaits request.identity :=
    ⟨deliverable.addressed.1, deliverable.addressed.2, Or.inl deliverable.pending⟩
  rcases (waiting.single request present delivery deliverable.present awaits).1 with
    pending | terminal
  · exact pending
  · exact absurd terminal unclosed

/-- Once nothing owns the recipient, such a delivery can be reached. -/
theorem Deliverable.ready (waiting : store.Waiting)
    (restarted : Restarted store final) (kept : request ∈ final.requests)
    (pending : request.state = .pending) {delivery : Delivery}
    (deliverable : store.Deliverable request delivery) : final.Ready delivery := by
  have sound := restarted.restartable.sound
  have present := restarted.pending delivery deliverable.present deliverable.pending
  refine ⟨sound, restarted.restartable.owners, present, deliverable.pending,
    waiting.unbound delivery deliverable.present deliverable.pending,
    fun row rowPresent _ => restarted.unowned row rowPresent, ?_⟩
  rcases exists_context sound present with ⟨found, scope, message, context⟩
  obtain rfl : found = request := Table.eq_of_key sound.keyed.requests context.requested.1 kept
    (context.requested.2.trans deliverable.addressed.1)
  rcases deliverable.fenced with ⟨active, activePresent, activeId, state⟩
  rw [← restarted.scopes] at activePresent
  obtain rfl : scope = active := Table.eq_of_key sound.keyed.scopes context.fenced.1 activePresent
    (context.fenced.2.trans (context.shared.1.symm.trans activeId.symm))
  refine ⟨found, scope, message, context, ?_, ?_⟩
  · simp [permitsExecution, state, deliverable.continued]
  · have apart := sound.apart kept
    have addressed := context.addressed
    rw [deliverable.addressed.2] at addressed ⊢
    cases kind : message.kind <;> simp [kind, Skeleton.recipient, MessageKind.fromSource,
      Request.identity, allowed, pending] at addressed ⊢ <;> exact apart addressed.symm

/-- A restart loses no work, unless a request has been supplemented while its target was at work. -/
theorem restart_losesNoWork_iff {maxPending : ℕ} {operations : List StoreOperation}
    (reached : machine.run (empty maxPending) operations = some store)
    {recoverLimit settleLimit : ℤ} (validRecover : pageSize recoverLimit = .ok ())
    (validSettle : pageSize settleLimit = .ok ()) (clock : ℕ → ℤ) {fuel : ℕ}
    (enough : store.deliveries.length < fuel) :
    ∃ final, restart recoverLimit settleLimit clock fuel store = some final ∧
      (LosesNoWork store final ↔ ¬store.Supplemented) := by
  have waiting := waiting_of_run reached
  have orderly := orderly_of_run reached
  rcases restart_spec ⟨orderly.sound, orderly.owners⟩ validRecover validSettle clock enough with
    ⟨final, restarts, restarted⟩
  refine ⟨final, restarts, ?_, ?_⟩
  · rintro loses ⟨request, present, pending, deliverable, owned⟩
    rcases restarted.failed request present (Or.inl pending) owned with
      ⟨later, laterPresent, same, failed⟩
    have unclosed : ¬Terminal request.state := by
      rw [pending]
      intro terminal
      cases terminal
    have closed : Terminal later.state := by
      rw [failed]
      rfl
    exact loses.unclosed request present unclosed later laterPresent same closed deliverable
  · intro plain
    have kept : ∀ request ∈ store.requests, ¬Terminal request.state →
        ∀ delivery, store.Deliverable request delivery →
          request ∈ final.requests ∧ request.state = .pending := by
      intro request present unclosed delivery deliverable
      have pending := deliverable.unstarted waiting present unclosed
      exact ⟨restarted.kept request present fun owned =>
        plain ⟨request, present, pending, ⟨delivery, deliverable⟩, owned⟩, pending⟩
    refine ⟨restarted.unowned, restarted.pending, ?_, ?_⟩
    · rintro request present unclosed later laterPresent same closed ⟨delivery, deliverable⟩
      have stays := (kept request present unclosed delivery deliverable).1
      obtain rfl := Table.eq_of_key restarted.restartable.sound.keyed.requests laterPresent stays same
      exact unclosed closed
    · intro request present unclosed delivery deliverable
      rcases kept request present unclosed delivery deliverable with ⟨stays, pending⟩
      exact can_start_of_ready (deliverable.ready waiting restarted stays pending)

/-- The target is at work, asks, and gets its answer while its turn still runs. -/
def supplemented : List StoreOperation :=
  Assignment.opened ++
    [.claimNext Assignment.target,
      .transitionDelivery Assignment.deliveryId.text Assignment.target .running 1
        (some (Text.ofString "turn")) none 1,
      .postMessage Assignment.requestId.text Assignment.target .clarification
        (Text.ofString "question") (Text.ofString "ask") [] (Assignment.identifier 0x34 (by decide))
        (Assignment.identifier 0x35 (by decide)) 2,
      .postMessage Assignment.requestId.text Assignment.source .supplement
        (Text.ofString "answer") (Text.ofString "tell") [] (Assignment.identifier 0x36 (by decide))
        (Assignment.identifier 0x37 (by decide)) 3]

theorem restart_losesNoWork_iff_opened :
    ∃ store, machine.run (empty 256) Assignment.opened = some store ∧
      ∃ final, restart 100 100 (fun tick => tick) 2 store = some final ∧
        (LosesNoWork store final ↔ ¬store.Supplemented) := by
  have opened : ∃ store, machine.run (empty 256) Assignment.opened = some store ∧
      store.deliveries.length < 2 := by
    decide +kernel
  rcases opened with ⟨store, reached, enough⟩
  exact ⟨store, reached, restart_losesNoWork_iff reached rfl rfl _ enough⟩

/-- The restart fails the request, and its pending supplement can no longer be delivered. -/
theorem restart_loses_supplement :
    ∃ store, machine.run (empty 256) supplemented = some store ∧
      ∃ final, restart 100 100 (fun tick => tick) 9 store = some final ∧
        ¬LosesNoWork store final := by
  have closed : ∃ store, machine.run (empty 256) supplemented = some store ∧
      ∃ final, restart 100 100 (fun tick => tick) 9 store = some final ∧
        ∃ request ∈ store.requests, ¬Terminal request.state ∧
          ∃ later ∈ final.requests, later.id = request.id ∧ Terminal later.state ∧
            ∃ delivery ∈ store.deliveries, store.Deliverable request delivery := by
    decide +kernel
  rcases closed with ⟨store, reached, final, restarts, request, present, unclosed, later,
    laterPresent, same, closed, delivery, _, deliverable⟩
  exact ⟨store, reached, final, restarts, fun loses =>
    loses.unclosed request present unclosed later laterPresent same closed ⟨delivery, deliverable⟩⟩

end Synapse.Collaboration.CollaborationStore
