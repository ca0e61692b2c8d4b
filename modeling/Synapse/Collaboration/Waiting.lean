import Synapse.Collaboration.Mailbox

/-!
# Work that waits for its target

At most one delivery of a request waits for the target, pending or claimed, and
while one does the request is pending or closed: the target answers a request
only after it has started on it, and a supplement is only accepted when the
target has asked for one.
-/

namespace Synapse.Collaboration

open List

/-- A delivery that its target has not started. -/
def Delivery.Awaits (delivery : Delivery) (request : RequestIdentity) : Prop :=
  delivery.requestId = request.id ∧ delivery.recipient = request.target ∧
    (delivery.state = .pending ∨ delivery.state = .claimed)

/-- A request that has not been started or is over. -/
def RequestState.Unstarted (state : RequestState) : Prop :=
  state = .pending ∨ Terminal state

/-- The one delivery that waits for the target of a request. -/
def SingleWaiting (deliveries : List Delivery) (request : Request) : Prop :=
  ∀ delivery ∈ deliveries, delivery.Awaits request.identity → request.state.Unstarted ∧
    ∀ other ∈ deliveries, other.Awaits request.identity → other.id = delivery.id

variable {deliveries : List Delivery} {request : Request}

theorem SingleWaiting.of_none (none : ∀ delivery ∈ deliveries, ¬delivery.Awaits request.identity) :
    SingleWaiting deliveries request :=
  fun delivery present awaits => absurd awaits (none delivery present)

theorem SingleWaiting.of_one (single : Delivery) (unstarted : request.state.Unstarted)
    (one : ∀ delivery ∈ deliveries, delivery.Awaits request.identity → delivery = single) :
    SingleWaiting deliveries request := by
  intro delivery present awaits
  refine ⟨unstarted, fun other otherPresent otherAwaits => ?_⟩
  rw [one delivery present awaits, one other otherPresent otherAwaits]

theorem SingleWaiting.of_earlier {before after : List Delivery} {later : Request}
    (single : SingleWaiting before request) (identity : later.identity = request.identity)
    (traced : ∀ delivery ∈ after, delivery.Awaits request.identity →
      ∃ earlier ∈ before, earlier.Awaits request.identity ∧ earlier.id = delivery.id)
    (unstarted : request.state.Unstarted → later.state.Unstarted) : SingleWaiting after later := by
  intro delivery present awaits
  rw [identity] at awaits ⊢
  rcases traced delivery present awaits with ⟨earlier, earlierPresent, earlierAwaits, same⟩
  rcases single earlier earlierPresent earlierAwaits with ⟨before, unique⟩
  refine ⟨unstarted before, fun other otherPresent otherAwaits => ?_⟩
  rcases traced other otherPresent otherAwaits with ⟨found, foundPresent, foundAwaits, foundId⟩
  rw [← same, ← foundId]
  exact unique found foundPresent foundAwaits

namespace CollaborationStore

variable {store next : CollaborationStore} {operation : StoreOperation}

theorem awaiting_of_follows {before after : DeliveryState} (follows : Follows before after)
    (awaits : after = .pending ∨ after = .claimed) : before = .pending ∨ before = .claimed := by
  rcases follows with rfl | edge
  · exact awaits
  · cases before with
    | pending => exact Or.inl rfl
    | claimed => exact Or.inr rfl
    | _ => rcases awaits with rfl | rfl <;> simp [Lifecycle.edges] at edge

variable {request : RequestIdentity} {delivery : Delivery}

theorem DeliveryMove.awaits {later : Delivery} (move : store.DeliveryMove operation delivery later)
    (awaits : later.Awaits request) : delivery.Awaits request := by
  have requestId : later.requestId = delivery.requestId :=
    congrArg DeliveryIdentity.requestId move.identity
  have recipient : later.recipient = delivery.recipient :=
    congrArg DeliveryIdentity.recipient move.identity
  exact ⟨requestId.symm.trans awaits.1, recipient.symm.trans awaits.2.1,
    awaiting_of_follows move.follows awaits.2.2⟩

/-- After moves in place the waiting deliveries are among the earlier ones. -/
theorem traced_of_moved {before after : List Delivery}
    (moved : List.Forall₂ (store.DeliveryMove operation) before after) :
    ∀ delivery ∈ after, delivery.Awaits request →
      ∃ earlier ∈ before, earlier.Awaits request ∧ earlier.id = delivery.id := by
  intro delivery present awaits
  rcases Table.exists_before moved present with ⟨earlier, earlierPresent, move⟩
  exact ⟨earlier, earlierPresent, move.awaits awaits,
    (congrArg DeliveryIdentity.id move.identity).symm⟩

theorem traced_of_stepped {before after : List Delivery}
    (stepped : List.Forall₂ (DeliveryStep store operation) before after) :
    ∀ delivery ∈ after, delivery.Awaits request →
      ∃ earlier ∈ before, earlier.Awaits request ∧ earlier.id = delivery.id :=
  traced_of_moved (stepped.imp fun delivery later step => .step delivery later step)

/-- An inserted delivery that does not wait for the target changes nothing. -/
theorem traced_append {before after : List Delivery}
    (traced : ∀ row ∈ after, row.Awaits request →
      ∃ earlier ∈ before, earlier.Awaits request ∧ earlier.id = row.id)
    (idle : ¬delivery.Awaits request) :
    ∀ row ∈ after ++ [delivery], row.Awaits request →
      ∃ earlier ∈ before, earlier.Awaits request ∧ earlier.id = row.id := by
  intro row present awaits
  rcases mem_append.mp present with old | new
  · exact traced row old awaits
  · rw [mem_singleton.mp new] at awaits
    exact absurd awaits idle

theorem RequestStep.unstarted {request later : Request} (step : RequestStep operation request later)
    (unstarted : request.state.Unstarted) : later.state.Unstarted := by
  cases step with
  | same => exact unstarted
  | controlled state now edge => exact unstarted
  | stopped now edge unanswered => exact Or.inr rfl
  | cancelled now pending => exact Or.inr rfl
  | failed now edge => exact Or.inr rfl
  | interrupted limit now recovery unanswered => exact Or.inr rfl

theorem not_awaits_fresh (sound : store.skeleton.Sound) {requestId : Text}
    (fresh : ∀ row ∈ store.requests, row.id ≠ requestId)
    (same : request.id = requestId) : ∀ delivery ∈ store.deliveries, ¬delivery.Awaits request := by
  intro delivery present awaits
  rcases sound.messageOf _ (mem_map_of_mem present) with
    ⟨message, _, found, foundPresent, _, _, foundId, _⟩
  rcases mem_map.mp foundPresent with ⟨row, rowPresent, rfl⟩
  exact fresh row rowPresent (foundId.trans (awaits.1.trans same))

/-- Only the source's messages are delivered to the target. -/
theorem Appendable.not_awaits {request : Request} {sender : SessionRef} {kind : MessageKind}
    {message : Message} (appendable : store.Appendable request sender kind message delivery)
    (apart : request.source ≠ request.target) (fromTarget : sender = request.target) :
    ¬delivery.Awaits request.identity := by
  intro awaits
  have addressed := appendable.addressed
  rw [fromTarget, if_neg apart.symm] at addressed
  exact apart (addressed.symm.trans awaits.2.1)

theorem Appendable.not_awaits_other {request other : Request} {sender : SessionRef}
    {kind : MessageKind} {message : Message}
    (appendable : store.Appendable request sender kind message delivery)
    (differs : other.id ≠ request.id) : ¬delivery.Awaits other.identity := by
  intro awaits
  exact differs (awaits.1.symm.trans appendable.carries.2.1)

theorem Applied.singleWaiting (sound : store.skeleton.Sound)
    (applied : store.Applied operation next)
    (single : ∀ request ∈ store.requests, SingleWaiting store.deliveries request) :
    ∀ request ∈ next.requests, SingleWaiting next.deliveries request := by
  have here : ∀ {request : RequestIdentity}, ∀ delivery ∈ store.deliveries,
      delivery.Awaits request →
        ∃ earlier ∈ store.deliveries, earlier.Awaits request ∧ earlier.id = delivery.id :=
    fun delivery present awaits => ⟨delivery, present, awaits, rfl⟩
  cases applied with
  | updated next updated =>
    intro later present
    rcases Table.exists_before updated.requests present with ⟨request, requestPresent, step⟩
    exact (single request requestPresent).of_earlier step.identity
      (traced_of_stepped updated.deliveries) step.unstarted
  | begun => exact single
  | created request message delivery scope inScope fresh keyFresh apart named valid initial
      appendable =>
      intro later present
      rcases mem_append.mp present with old | new
      · refine (single later old).of_earlier rfl (traced_append here ?_) id
        exact appendable.not_awaits_other (fresh later old)
      · obtain rfl := mem_singleton.mp new
        refine .of_one delivery (Or.inl initial) fun row rowPresent awaits => ?_
        rcases mem_append.mp rowPresent with old | new
        · exact absurd awaits (not_awaits_fresh sound fresh rfl row old)
        · exact mem_singleton.mp new
  | progressed request message delivery now present running appendable =>
    intro later laterPresent
    rcases mem_map.mp laterPresent with ⟨earlier, earlierPresent, rfl⟩
    have idle : ¬delivery.Awaits earlier.identity := by
      by_cases same : earlier.id = request.id
      · obtain rfl := Table.eq_of_key sound.keyed.requests earlierPresent present same
        exact appendable.not_awaits (sound.apart earlierPresent) rfl
      · exact appendable.not_awaits_other same
    refine (single earlier earlierPresent).of_earlier ?_ (traced_append here idle) ?_
    · split <;> rfl
    · split <;> exact id
  | posted kind state deliveries request message delivery now present leads edge cancelled kept
      appendable =>
      intro later laterPresent
      rcases mem_map.mp laterPresent with ⟨earlier, earlierPresent, rfl⟩
      by_cases same : earlier.id = request.id
      · obtain rfl := Table.eq_of_key sound.keyed.requests earlierPresent present same
        rw [if_pos (by simp)]
        -- The request has been started, so no delivery waits for its target.
        have started : ¬earlier.state.Unstarted := by
          rintro (pending | terminal)
          · rw [pending] at edge
            cases kind <;> simp [nextState] at leads <;> subst leads <;>
              simp [Lifecycle.edges] at edge
          · rw [terminal] at edge
            cases edge
        have idle : ∀ row ∈ deliveries, ¬row.Awaits earlier.identity := by
          intro row rowPresent awaits
          rcases traced_of_stepped cancelled row rowPresent awaits with
            ⟨found, foundPresent, foundAwaits, _⟩
          exact started (single earlier earlierPresent found foundPresent foundAwaits).1
        by_cases supplement : kind = .supplement
        · subst supplement
          obtain rfl : RequestState.pending = state := Option.some.inj leads
          refine .of_one delivery (Or.inl rfl) fun row rowPresent awaits => ?_
          rcases mem_append.mp rowPresent with old | new
          · exact absurd awaits (idle row old)
          · exact mem_singleton.mp new
        · refine .of_none fun row rowPresent awaits => ?_
          rcases mem_append.mp rowPresent with old | new
          · exact idle row old awaits
          · rw [mem_singleton.mp new] at awaits
            rw [if_neg supplement] at appendable
            exact appendable.not_awaits (sound.apart earlierPresent) rfl awaits
      · rw [if_neg (by simpa using same)]
        exact (single earlier earlierPresent).of_earlier rfl
          (traced_append (traced_of_stepped cancelled) (appendable.not_awaits_other same)) id
  | started delivery request scope message turnId reason now cause present claimed requested fenced
      permitted carried fits kept =>
      have moved : List.Forall₂ (store.DeliveryMove operation) store.deliveries
          (Table.update (·.id = delivery.id) (·.start (some turnId) reason) store.deliveries) :=
        forall₂_update_id sound.keyed.deliveries (fun row => .step row row (.same row)) present
          (.started delivery request scope turnId reason claimed requested fenced permitted cause)
      intro later laterPresent
      by_cases unstarted : delivery.recipient = request.target ∧ request.state = .pending
      · rw [if_pos unstarted] at laterPresent
        rcases mem_map.mp laterPresent with ⟨earlier, earlierPresent, rfl⟩
        by_cases same : earlier.id = request.id
        · obtain rfl := Table.eq_of_key sound.keyed.requests earlierPresent requested.1 same
          simp only [decide_true, if_true]
          -- The started delivery was the one that waited.
          refine .of_none fun row rowPresent awaits => ?_
          rcases mem_map.mp rowPresent with ⟨before, beforePresent, rfl⟩
          by_cases own : before.id = delivery.id
          · simp [own, Delivery.start, Delivery.Awaits] at awaits
          · simp only [own, decide_false, Bool.false_eq_true, if_false] at awaits
            have waiting : delivery.Awaits earlier.identity :=
              ⟨requested.2.symm, unstarted.1, Or.inr claimed⟩
            exact own ((single earlier earlierPresent delivery present waiting).2 before
              beforePresent awaits)
        · simp only [same, decide_false, Bool.false_eq_true, if_false]
          exact (single earlier earlierPresent).of_earlier rfl (traced_of_moved moved) id
      · rw [if_neg unstarted] at laterPresent
        exact (single later laterPresent).of_earlier rfl (traced_of_moved moved) id

/-! ### Pending deliveries are untouched -/

theorem DeliveryMove.eq_of_pending {later : Delivery}
    (move : store.DeliveryMove operation delivery later) (pending : later.state = .pending) :
    later = delivery := by
  have before := pending_of_follows move.follows pending
  cases move with
  | step later step =>
    cases step with
    | same => rfl
    | moved state turnId reason edge idle bound cause =>
      rw [before] at edge
      change state = .pending at pending
      subst pending
      simp [Lifecycle.edges] at edge
    | linked turnId request scope running requested fenced permitted cause =>
      rw [running] at before
      cases before
  | started request scope turnId reason claimed requested fenced permitted cause =>
    rw [claimed] at before
    cases before

theorem Applied.unbound (sound : store.skeleton.Sound) (applied : store.Applied operation next)
    (unbound : ∀ row ∈ store.deliveries, row.state = .pending → row.turnId = none) :
    ∀ row ∈ next.deliveries, row.state = .pending → row.turnId = none := by
  intro later present pending
  rcases (applied.deliveries_evolve sound.keyed).exists_before_or_fresh present with
    ⟨earlier, earlierPresent, move⟩ | inserted
  · obtain rfl := move.eq_of_pending pending
    exact unbound later earlierPresent pending
  · exact inserted.unbound

/-- What holds of the deliveries that have not been started. -/
structure Waiting (store : CollaborationStore) : Prop where
  single : ∀ request ∈ store.requests, SingleWaiting store.deliveries request
  unbound : ∀ row ∈ store.deliveries, row.state = .pending → row.turnId = none

theorem waiting_of_run {maxPending : ℕ} {operations : List StoreOperation}
    (reached : machine.run (empty maxPending) operations = some store) : store.Waiting := by
  have preserved : ∀ {state : CollaborationStore} {operation : StoreOperation}
      {next : CollaborationStore}, (state.skeleton.Sound ∧ state.Waiting) →
      machine.step state operation = some next → (next.skeleton.Sound ∧ next.Waiting) := by
    rintro state operation next ⟨sound, waiting⟩ stepped
    have applied := applied_of_step sound stepped
    exact ⟨(applied.grown sound).sound sound, applied.singleWaiting sound waiting.single,
      applied.unbound sound waiting.unbound⟩
  have initial : (empty maxPending).Waiting := ⟨by simp [empty], by simp [empty]⟩
  exact (Machine.run_invariant preserved ⟨skeleton_empty maxPending, initial⟩ reached).2

end CollaborationStore

end Synapse.Collaboration
