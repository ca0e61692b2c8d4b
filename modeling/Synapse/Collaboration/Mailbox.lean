import Synapse.Collaboration.Histories

/-!
# Mailboxes

A recipient owns at most one delivery, its mailbox stays within its capacity, a
request stays within its slots, and `claim_next` hands deliveries out in order.
-/

namespace Synapse.Collaboration.CollaborationStore

open List

variable {store next : CollaborationStore} {operation : StoreOperation}

/-! ### Ownership -/

theorem ownersDistinct_append {deliveries : List Delivery} {delivery : Delivery}
    (owners : OwnersDistinct deliveries) (unowned : delivery.state.owns = false) :
    OwnersDistinct (deliveries ++ [delivery]) := by
  have none : [delivery].filter (·.state.owns) = [] := by simp [unowned]
  rw [OwnersDistinct, filter_append, none, append_nil]
  exact owners

theorem Inserted.unowned {delivery : Delivery} (inserted : store.Inserted delivery) :
    delivery.state.owns = false := by
  rcases inserted.state with state | state | state <;> rw [state] <;> rfl

theorem Applied.owners (applied : store.Applied operation next)
    (owners : OwnersDistinct store.deliveries) : OwnersDistinct next.deliveries := by
  cases applied with
  | updated next updated => exact updated.owners owners
  | begun => exact owners
  | created request message delivery scope inScope fresh keyFresh apart named valid initial
      appendable => exact ownersDistinct_append owners appendable.inserted.unowned
  | progressed request message delivery now present running appendable =>
    exact ownersDistinct_append owners appendable.inserted.unowned
  | posted kind state deliveries request message delivery now present leads edge cancelled kept
      appendable => exact ownersDistinct_append (kept owners) appendable.inserted.unowned
  | started delivery request scope message turnId reason now cause present claimed requested fenced
      permitted carried fits kept => exact kept

/-- The deliveries that a recipient owns. -/
def ownership (store : CollaborationStore) (recipient : SessionRef) : ℕ :=
  store.deliveries.countP fun row => row.recipient = recipient ∧ row.state.owns

theorem ownership_le_one (owners : OwnersDistinct store.deliveries) (recipient : SessionRef) :
    store.ownership recipient ≤ 1 := by
  have once := nodup_iff_count_le_one.mp owners recipient
  rw [List.count, countP_map, countP_filter] at once
  have same : store.ownership recipient = store.deliveries.countP fun row =>
      ((· == recipient) ∘ fun row : Delivery => row.recipient) row && row.state.owns := by
    refine countP_congr fun row _ => ?_
    simp
  exact same.trans_le once

/-! ### Capacity -/

theorem occupies_of_follows {before after : DeliveryState} (follows : Follows before after)
    (occupies : after.occupies = true) : before.occupies = true := by
  rcases follows with rfl | edge
  · exact occupies
  · cases before with
    | settled => cases edge
    | cancelled => cases edge
    | _ => rfl

theorem occupancy_le_of_moved {deliveries : List Delivery} (recipient : SessionRef)
    (moved : List.Forall₂ (store.DeliveryMove operation) store.deliveries deliveries) :
    { store with deliveries }.occupancy recipient ≤ store.occupancy recipient := by
  refine Table.countP_le_of_forall₂ (fun move holds => ?_) moved
  simp only [Bool.decide_and, Bool.decide_eq_true, Bool.and_eq_true, decide_eq_true_eq] at holds ⊢
  have recipient := congrArg DeliveryIdentity.recipient move.identity
  exact ⟨recipient.symm.trans holds.1, occupies_of_follows move.follows holds.2⟩

theorem occupancy_le_of_stepped {deliveries : List Delivery} (recipient : SessionRef)
    (stepped : List.Forall₂ (DeliveryStep store operation) store.deliveries deliveries) :
    { store with deliveries }.occupancy recipient ≤ store.occupancy recipient :=
  occupancy_le_of_moved recipient (stepped.imp fun delivery later step => .step delivery later step)

/-- A message is only appended where its delivery has room. -/
theorem Appendable.occupancy_le {request : Request} {sender : SessionRef} {kind : MessageKind}
    {message : Message} {delivery : Delivery}
    (appendable : store.Appendable request sender kind message delivery)
    (bounded : ∀ recipient, store.occupancy recipient ≤ store.maxPending) (recipient : SessionRef) :
    (store.added message delivery).occupancy recipient ≤ store.maxPending := by
  have counted : (store.added message delivery).occupancy recipient =
      store.occupancy recipient +
        if delivery.recipient = recipient ∧ delivery.state.occupies = true then 1 else 0 := by
    simp [occupancy, added, countP_append, countP_cons]
  rw [counted]
  split
  case isTrue fills =>
    rcases appendable.outcome with ⟨settled, _⟩ | ⟨cancelled, _⟩ | ⟨_, _, room⟩
    · rw [settled] at fills
      cases fills.2
    · rw [cancelled] at fills
      cases fills.2
    · rw [fills.1] at room
      omega
  case isFalse => exact bounded recipient

theorem Applied.occupancy_le (keyed : store.Keyed) (applied : store.Applied operation next)
    (bounded : ∀ recipient, store.occupancy recipient ≤ store.maxPending) (recipient : SessionRef) :
    next.occupancy recipient ≤ next.maxPending := by
  cases applied with
  | updated next updated =>
    rw [updated.maxPending]
    exact (occupancy_le_of_stepped recipient updated.deliveries).trans (bounded recipient)
  | begun => exact bounded recipient
  | created request message delivery scope inScope fresh keyFresh apart named valid initial
      appendable => exact appendable.occupancy_le bounded recipient
  | progressed request message delivery now present running appendable =>
    exact appendable.occupancy_le bounded recipient
  | posted kind state deliveries request message delivery now present leads edge cancelled kept
      appendable =>
      have swept : ∀ other, { store with deliveries }.occupancy other ≤ store.maxPending :=
        fun other => (occupancy_le_of_stepped other cancelled).trans (bounded other)
      exact appendable.occupancy_le swept recipient
  | started delivery request scope message turnId reason now cause present claimed requested fenced
      permitted carried fits kept =>
      have moved : List.Forall₂ (store.DeliveryMove operation) store.deliveries
          (Table.update (·.id = delivery.id) (·.start (some turnId) reason) store.deliveries) :=
        forall₂_update_id keyed.deliveries (fun row => .step row row (.same row)) present
          (.started delivery request scope turnId reason claimed requested fenced permitted cause)
      exact (occupancy_le_of_moved recipient moved).trans (bounded recipient)

/-! ### Slots -/

/-- A request keeps its last slot for the reply. -/
def SlotLeft (store : CollaborationStore) (request : Request) : Prop :=
  store.messageCount request.id < maxMessages ∨
    request.state = .replied ∧ store.messageCount request.id = maxMessages

/-- A message that has been appended had a slot, and the last one took a reply. -/
def HadSlot (store next : CollaborationStore) (message : Message) : Prop :=
  store.messageCount message.requestId < maxMessages - 1 ∨
    store.messageCount message.requestId < maxMessages ∧
      ∀ row ∈ next.requests, row.id = message.requestId → row.state = .replied

theorem Appendable.hadSlot {request : Request} {sender : SessionRef} {kind : MessageKind}
    {message : Message} {delivery : Delivery}
    (appendable : store.Appendable request sender kind message delivery) (short : kind ≠ .reply)
    (next : CollaborationStore) : store.HadSlot next message := by
  have room := appendable.room
  rw [if_neg short] at room
  exact Or.inl (appendable.requestId ▸ room)

theorem Applied.messages (applied : store.Applied operation next) :
    next.messages = store.messages ∨
      ∃ message, next.messages = store.messages ++ [message] ∧ store.HadSlot next message := by
  cases applied with
  | updated next updated => exact Or.inl updated.messages
  | begun => exact Or.inl rfl
  | started => exact Or.inl rfl
  | created request message delivery scope inScope fresh keyFresh apart named valid initial
      appendable => exact Or.inr ⟨message, rfl, appendable.hadSlot (by decide) _⟩
  | progressed request message delivery now present running appendable =>
    exact Or.inr ⟨message, rfl, appendable.hadSlot (by decide) _⟩
  | posted kind state deliveries request message delivery now present leads edge cancelled kept
      appendable =>
      refine Or.inr ⟨message, rfl, ?_⟩
      by_cases reply : kind = .reply
      · subst reply
        obtain rfl : RequestState.replied = state := Option.some.inj leads
        refine Or.inr ⟨?_, ?_⟩
        · rw [appendable.requestId]
          exact appendable.room
        · intro row rowPresent same
          rcases mem_map.mp rowPresent with ⟨earlier, _, rfl⟩
          rw [appendable.requestId] at same
          by_cases chosen : earlier.id = request.id
          · simp [chosen, Request.advance]
          · simp [chosen] at same
      · exact appendable.hadSlot reply _

theorem messageCount_eq_zero (sound : store.skeleton.Sound) {requestId : Text}
    (fresh : ∀ row ∈ store.requests, row.id ≠ requestId) : store.messageCount requestId = 0 := by
  refine countP_eq_zero.mpr fun message present same => ?_
  rcases sound.requestOf message present with ⟨found, foundPresent, foundId, _⟩
  rcases mem_map.mp foundPresent with ⟨request, requestPresent, rfl⟩
  exact fresh request requestPresent (foundId.trans (of_decide_eq_true same))

theorem Applied.slotLeft (sound : store.skeleton.Sound) (applied : store.Applied operation next)
    (left : ∀ request ∈ store.requests, store.SlotLeft request) :
    ∀ request ∈ next.requests, next.SlotLeft request := by
  intro later present
  -- Before the step the request had a slot left too, and a replied request stays replied.
  have before : store.messageCount later.id < maxMessages ∨
      later.state = .replied ∧ store.messageCount later.id = maxMessages := by
    rcases (applied.requests_evolve sound.keyed).exists_before_or_fresh present with
      ⟨earlier, earlierPresent, move⟩ | fresh
    · have same : later.id = earlier.id := congrArg RequestIdentity.id move.identity
      rw [same]
      rcases left earlier earlierPresent with room | ⟨replied, full⟩
      · exact Or.inl room
      · have terminal : Terminal earlier.state := by rw [replied]; rfl
        exact Or.inr ⟨(move.eq_of_terminal terminal).trans replied, full⟩
    · rw [messageCount_eq_zero sound fresh]
      exact Or.inl (by decide)
  rcases applied.messages with same | ⟨message, appended, slot⟩
  · simpa only [SlotLeft, messageCount, same] using before
  · have counted : next.messageCount later.id =
        store.messageCount later.id + if message.requestId = later.id then 1 else 0 := by
      simp [messageCount, appended, countP_append, countP_cons]
    by_cases own : message.requestId = later.id
    · rw [if_pos own] at counted
      rw [SlotLeft, counted]
      rcases slot with room | ⟨room, replied⟩
      · rw [own] at room
        exact Or.inl (by omega)
      · rw [own] at room replied
        rcases Nat.lt_or_ge (store.messageCount later.id + 1) maxMessages with less | full
        · exact Or.inl less
        · exact Or.inr ⟨replied later present rfl, by omega⟩
    · rw [if_neg own, Nat.add_zero] at counted
      rw [SlotLeft, counted]
      exact before

/-! ### The order of claims -/

/-- Every pending delivery of the recipient comes after a number that has been given out. -/
structure ClaimedUpTo (store : CollaborationStore) (recipient : SessionRef) (number : ℕ) : Prop where
  given : number ≤ store.deliverySequence
  behind : ∀ row ∈ store.deliveries, row.recipient = recipient → row.state = .pending →
    number < row.sequence

theorem Applied.deliverySequence_le (applied : store.Applied operation next) :
    store.deliverySequence ≤ next.deliverySequence := by
  cases applied with
  | updated next updated => exact updated.deliverySequence.ge
  | begun => exact Nat.le_refl _
  | started => exact Nat.le_refl _
  | created => exact Nat.le_succ _
  | progressed => exact Nat.le_succ _
  | posted => exact Nat.le_succ _

theorem pending_of_follows {before after : DeliveryState} (follows : Follows before after)
    (pending : after = .pending) : before = .pending := by
  rcases follows with rfl | edge
  · exact pending
  · subst pending
    cases before <;> simp [Lifecycle.edges] at edge

theorem ClaimedUpTo.of_applied {recipient : SessionRef} {number : ℕ}
    (claimed : store.ClaimedUpTo recipient number) (sound : store.skeleton.Sound)
    (applied : store.Applied operation next) : next.ClaimedUpTo recipient number := by
  refine ⟨claimed.given.trans applied.deliverySequence_le, ?_⟩
  intro later present owned pending
  rcases (applied.deliveries_evolve sound.keyed).exists_before_or_fresh present with
    ⟨earlier, earlierPresent, move⟩ | inserted
  · have sequence : later.sequence = earlier.sequence :=
      congrArg DeliveryIdentity.sequence move.identity
    have recipient := congrArg DeliveryIdentity.recipient move.identity
    rw [sequence]
    exact claimed.behind earlier earlierPresent (recipient.symm.trans owned)
      (pending_of_follows move.follows pending)
  · have given := claimed.given
    rw [inserted.sequence]
    omega

theorem ClaimedUpTo.of_run {recipient : SessionRef} {number : ℕ} {final : CollaborationStore}
    {operations : List StoreOperation} (claimed : store.ClaimedUpTo recipient number)
    (sound : store.skeleton.Sound) (ran : machine.run store operations = some final) :
    final.ClaimedUpTo recipient number := by
  have preserved : ∀ {state : CollaborationStore} {operation : StoreOperation}
      {next : CollaborationStore},
      (state.skeleton.Sound ∧ state.ClaimedUpTo recipient number) →
      machine.step state operation = some next →
      (next.skeleton.Sound ∧ next.ClaimedUpTo recipient number) := by
    rintro state operation next ⟨sound, claimed⟩ stepped
    have applied := applied_of_step sound stepped
    exact ⟨(applied.grown sound).sound sound, claimed.of_applied sound applied⟩
  exact (Machine.run_invariant preserved ⟨sound, claimed⟩ ran).2

theorem sequences_ordered (sound : store.skeleton.Sound) :
    store.deliveries.Pairwise fun row other => row.sequence < other.sequence :=
  Pairwise.of_map Delivery.identity (fun _ _ less => less) sound.sequences.pairwise

/-- `claim_next` claims the oldest pending delivery of the recipient, or nothing. -/
theorem claimNext_ok (sound : store.skeleton.Sound) {recipient : SessionRef}
    {result : Option Delivery} (claims : store.claimNext recipient = .ok (next, result)) :
    next = store ∨ ∃ delivery ∈ store.deliveries, delivery.recipient = recipient ∧
      delivery.state = .pending ∧
      (∀ other ∈ store.deliveries, other.recipient = recipient → other.state = .pending →
        delivery.sequence ≤ other.sequence) ∧
      next = { store with
        deliveries := Table.update (·.id = delivery.id)
          (fun row => { row with state := .claimed, version := row.version + 1 })
          store.deliveries } := by
  simp only [claimNext, bind_eq_ok_iff] at claims
  rcases claims with ⟨_, _, claims⟩
  split at claims
  · simp only [pure_eq_ok_iff, Prod.mk.injEq] at claims
    exact Or.inl claims.1.symm
  · split at claims
    case h_1 =>
      simp only [pure_eq_ok_iff, Prod.mk.injEq] at claims
      exact Or.inl claims.1.symm
    case h_2 delivery found =>
      simp only [bind_eq_ok_iff, pure_eq_ok_iff, Prod.mk.injEq] at claims
      rcases claims with ⟨after, updated, rfl, _⟩
      have matched := find?_some found
      simp only [decide_eq_true_eq] at matched
      refine Or.inr ⟨delivery, mem_of_find?_eq_some found, matched.1, matched.2, ?_,
        (updateDeliveries_ok updated).2⟩
      intro other present owned pending
      exact Table.le_of_find? (sequences_ordered sound) found present (by simp [owned, pending])

theorem sequence_injective (sound : store.skeleton.Sound) {row other : Delivery}
    (present : row ∈ store.deliveries) (otherPresent : other ∈ store.deliveries)
    (same : row.sequence = other.sequence) : row = other := by
  have distinct : (store.deliveries.map (·.sequence)).Nodup :=
    pairwise_map.mpr ((sequences_ordered sound).imp Nat.ne_of_lt)
  exact Table.eq_of_key distinct present otherPresent same

theorem sequence_le (sound : store.skeleton.Sound) {delivery : Delivery}
    (present : delivery ∈ store.deliveries) : delivery.sequence ≤ store.deliverySequence := by
  have numbered := sound.sequences.number_le (mem_map_of_mem present)
  have counted := sound.deliverySequence
  change delivery.sequence ≤ (store.deliveries.map Delivery.identity).length at numbered
  change store.deliverySequence = (store.deliveries.map Delivery.identity).length at counted
  rwa [counted]

theorem claimedUpTo_of_claimNext (sound : store.skeleton.Sound) {recipient : SessionRef}
    (stepped : machine.step store (.claimNext recipient) = some next) {first : Delivery}
    (present : first ∈ next.deliveries) (claimed : Enters .claimed first.id store next) :
    first.recipient = recipient ∧ next.ClaimedUpTo recipient first.sequence := by
  have moved : next ≠ store := by
    rintro rfl
    rcases claimed with ⟨⟨row, rowPresent, same, state⟩, idle⟩
    exact idle row rowPresent same state
  rcases step_cases stepped with ⟨_, applied | same⟩
  · simp only [apply, bind_eq_ok_iff, pure_eq_ok_iff] at applied
    rcases applied with ⟨⟨after, result⟩, claims, rfl⟩
    rcases claimNext_ok sound claims with same | ⟨delivery, owned, rfl, pending, oldest, rfl⟩
    · exact absurd same moved
    · have nextSound := sound_of_step sound stepped
      have single : first.id = delivery.id ∧ first.recipient = delivery.recipient ∧
          first.sequence = delivery.sequence := by
        rcases claimed with ⟨⟨row, rowPresent, same, state⟩, idle⟩
        obtain rfl : row = first :=
          Table.eq_of_key nextSound.keyed.deliveries rowPresent present same
        rcases mem_map.mp present with ⟨earlier, earlierPresent, changed⟩
        by_cases chosen : earlier.id = delivery.id
        · have equal : earlier = delivery :=
            Table.eq_of_key sound.keyed.deliveries earlierPresent owned chosen
          subst equal
          rw [← changed]
          simp
        · simp only [chosen, decide_false, Bool.false_eq_true, if_false] at changed
          subst changed
          exact absurd state (idle earlier earlierPresent rfl)
      refine ⟨single.2.1, ?_, ?_⟩
      · rw [single.2.2]
        exact sequence_le sound owned
      · intro row rowPresent rowRecipient rowPending
        rw [single.2.2]
        rcases mem_map.mp rowPresent with ⟨earlier, earlierPresent, changed⟩
        by_cases chosen : earlier.id = delivery.id
        · simp only [chosen, decide_true, if_true] at changed
          subst changed
          cases rowPending
        · simp only [chosen, decide_false, Bool.false_eq_true, if_false] at changed
          subst changed
          refine Nat.lt_of_le_of_ne (oldest earlier earlierPresent rowRecipient rowPending) ?_
          intro same
          exact chosen (congrArg Delivery.id (sequence_injective sound owned earlierPresent same)).symm
  · exact absurd same moved

/-- What `claim_next` claims comes before everything that is claimed for the recipient later. -/
theorem claimed_in_order (sound : store.skeleton.Sound) {recipient : SessionRef}
    (stepped : machine.step store (.claimNext recipient) = some next) {first : Delivery}
    (firstPresent : first ∈ next.deliveries) (claimed : Enters .claimed first.id store next)
    {operations : List StoreOperation} {state later : CollaborationStore}
    (ran : machine.run next operations = some state)
    (again : machine.step state operation = some later) {second : Delivery}
    (secondPresent : second ∈ later.deliveries) (same : second.recipient = first.recipient)
    (reclaimed : Enters .claimed second.id state later) : first.sequence < second.sequence := by
  rcases claimedUpTo_of_claimNext sound stepped firstPresent claimed with ⟨rfl, upTo⟩
  have nextSound := sound_of_step sound stepped
  have stateSound := sound_of_run nextSound ran
  have behind := (upTo.of_run nextSound ran).behind
  have applied := applied_of_step stateSound again
  rcases reclaimed with ⟨⟨row, rowPresent, rowId, state⟩, idle⟩
  obtain rfl : row = second := Table.eq_of_key (sound_of_step stateSound again).keyed.deliveries
    rowPresent secondPresent rowId
  rcases (applied.deliveries_evolve stateSound.keyed).exists_before_or_fresh rowPresent with
    ⟨earlier, earlierPresent, move⟩ | inserted
  · have recipient : row.recipient = earlier.recipient :=
      congrArg DeliveryIdentity.recipient move.identity
    have sequence : row.sequence = earlier.sequence :=
      congrArg DeliveryIdentity.sequence move.identity
    have notClaimed := idle earlier earlierPresent
      (congrArg DeliveryIdentity.id move.identity).symm
    have pending : earlier.state = .pending := by
      rcases move.follows with kept | edge
      · exact absurd (kept.symm.trans state) notClaimed
      · rw [state] at edge
        cases before : earlier.state <;> simp [before, Lifecycle.edges] at edge ⊢
    rw [sequence]
    exact behind earlier earlierPresent (recipient.symm.trans same) pending
  · have unowned := inserted.unowned
    rw [state] at unowned
    cases unowned

/-! ### Runs -/

/-- What every operation keeps. -/
structure Orderly (maxPending : ℕ) (store : CollaborationStore) : Prop where
  sound : store.skeleton.Sound
  limit : store.maxPending = maxPending
  owners : OwnersDistinct store.deliveries
  capacity : ∀ recipient, store.occupancy recipient ≤ store.maxPending
  slots : ∀ request ∈ store.requests, store.SlotLeft request

theorem Applied.maxPending (applied : store.Applied operation next) :
    next.maxPending = store.maxPending := by
  cases applied with
  | updated next updated => exact updated.maxPending
  | _ => rfl

theorem orderly_of_run {maxPending : ℕ} {operations : List StoreOperation}
    (reached : machine.run (empty maxPending) operations = some store) :
    store.Orderly maxPending := by
  have preserved : ∀ {state : CollaborationStore} {operation : StoreOperation}
      {next : CollaborationStore}, state.Orderly maxPending →
      machine.step state operation = some next → next.Orderly maxPending := by
    intro state operation next orderly stepped
    have applied := applied_of_step orderly.sound stepped
    exact ⟨(applied.grown orderly.sound).sound orderly.sound,
      applied.maxPending.trans orderly.limit, applied.owners orderly.owners,
      applied.occupancy_le orderly.sound.keyed orderly.capacity,
      applied.slotLeft orderly.sound orderly.slots⟩
  apply Machine.run_invariant preserved _ reached
  exact ⟨skeleton_empty maxPending, rfl, by simp [OwnersDistinct, empty],
    by simp [occupancy, empty], by simp [empty]⟩

end Synapse.Collaboration.CollaborationStore
