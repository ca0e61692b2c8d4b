import Synapse.Collaboration.Histories

/-!
# Fences

A fence stands on a scope or on one assignment. It is committed with the
operation that restricts the row, it is never lifted, and while it stands no
delivery that it covers starts or is linked to another turn.
-/

namespace Synapse.Collaboration

/-- The fence that an operation puts up. -/
inductive Fence where
  | scope (scopeId : Text) (source : SessionRef) (state : ScopeState)
  | request (requestId : Text) (source : SessionRef) (state : ScopeState)
  deriving DecidableEq, Repr

def StoreOperation.fence? : StoreOperation → Option Fence
  | .restrictScope scopeId actor state _ _ => some (.scope scopeId actor state)
  | .controlRequest requestId source _ receiveOnly _ =>
    some (.request requestId source (if receiveOnly then .receiveOnly else .revoked))
  | _ => none

/-- A revoked row covers each of its deliveries, a receive-only one those addressed to the source. -/
def Fence.Covers : Fence → Delivery → Prop
  | .scope scopeId source state, delivery =>
    delivery.scopeId = scopeId ∧ (state = .receiveOnly → delivery.recipient = source)
  | .request requestId source state, delivery =>
    delivery.requestId = requestId ∧ (state = .receiveOnly → delivery.recipient = source)

instance (fence : Fence) (delivery : Delivery) : Decidable (fence.Covers delivery) :=
  match fence with
  | .scope .. => inferInstanceAs (Decidable (_ ∧ _))
  | .request .. => inferInstanceAs (Decidable (_ ∧ _))

/-- A state at least as strict as that of a fence. -/
def Restricts (fence current : ScopeState) : Prop :=
  current ≠ .active ∧ (fence = .receiveOnly ∨ current = .revoked)

theorem restricts_of_edge {before after : ScopeState} (edge : after ∈ Lifecycle.edges before) :
    Restricts after after := by
  cases before <;> simp [Lifecycle.edges] at edge
  · rcases edge with rfl | rfl <;> simp [Restricts]
  · subst edge
    simp [Restricts]

theorem Restricts.of_follows {fence before after : ScopeState} (restricts : Restricts fence before)
    (follows : Follows before after) : Restricts fence after := by
  rcases follows with rfl | edge
  · exact restricts
  · cases before <;> simp [Lifecycle.edges] at edge
    · exact absurd rfl restricts.1
    · subst edge
      simp [Restricts]

namespace CollaborationStore

/-- The restricted row is in the table, and at least as strict as the fence. -/
def Stands (store : CollaborationStore) : Fence → Prop
  | .scope scopeId source state => ∃ scope ∈ store.scopes, scope.id = scopeId ∧
      scope.source = source ∧ Restricts state scope.state
  | .request requestId source state => ∃ request ∈ store.requests, request.id = requestId ∧
      request.source = source ∧ Restricts state request.continuation

variable {store next : CollaborationStore} {operation : StoreOperation} {fence : Fence}

/-! ### A committed fence stands -/

theorem updateDeliveries_scopes {chosen : Delivery → Bool} {change : Delivery → Delivery}
    (updated : store.updateDeliveries chosen change = .ok next) :
    next.scopes = store.scopes ∧ next.requests = store.requests := by
  rcases updateDeliveries_ok updated with ⟨_, rfl⟩
  exact ⟨rfl, rfl⟩

variable {expectedVersion : ℤ}

theorem restrictScope_stands {scopeId : Text} {actor : SessionRef} {state : ScopeState}
    {now : ℤ} {result : ContinuationScope}
    (restricted : store.restrictScope scopeId actor state expectedVersion now =
      .ok (next, result)) : next.Stands (.scope scopeId actor state) := by
  simp only [restrictScope, bind_eq_ok_iff, raiseIf_eq_ok_iff, exists_const, pure_eq_ok_iff,
    Prod.mk.injEq, ne_eq, not_not] at restricted
  rcases restricted with
    ⟨_, _, _, _, scope, read, owned, _, _, checked, fenced, locked, _, _, rfl, _⟩
  rcases readScope_ok read with ⟨present, rfl⟩
  simp only [restrictLocked, bind_eq_ok_iff] at locked
  rcases locked with ⟨cancelled, first, reviewed, second, locked⟩
  have scopes : fenced.scopes = Table.update (·.id = scope.id)
      (fun row => { row with state, version := row.version + 1 }) store.scopes := by
    have kept := (updateDeliveries_scopes second).1.trans (updateDeliveries_scopes first).1
    split at locked <;>
    · simp only [pure_eq_ok_iff] at locked
      rw [← locked]
      exact kept
  refine ⟨{ scope with state, version := scope.version + 1 }, ?_, rfl, owned,
    restricts_of_edge (mem_edges_of_checkTransition checked)⟩
  rw [scopes]
  exact List.mem_map.mpr ⟨scope, present, by simp⟩

theorem controlRequest_stands {requestId : Text} {source : SessionRef}
    {receiveOnly : Bool} {now : ℤ} {result : Request}
    (controlled : store.controlRequest requestId source expectedVersion receiveOnly now =
      .ok (next, result)) :
    next.Stands (.request requestId source (if receiveOnly then .receiveOnly else .revoked)) := by
  simp only [controlRequest, bind_eq_ok_iff, raiseIf_eq_ok_iff, exists_const, pure_eq_ok_iff,
    Prod.mk.injEq, ne_eq, not_not] at controlled
  rcases controlled with ⟨_, _, request, read, owned, _, _, checked, cancelled, first, reviewed,
    second, _, _, rfl, _⟩
  rcases readRequest_ok read with ⟨present, rfl, _⟩
  have restricts := restricts_of_edge (mem_edges_of_checkTransition checked)
  have requests := (updateDeliveries_scopes second).2.trans (updateDeliveries_scopes first).2
  split
  case isTrue stops =>
    refine ⟨{ request with
      continuation := if receiveOnly then .receiveOnly else .revoked
      controlVersion := request.controlVersion + 1
      updatedAtMs := now
      state := .cancelled
      version := request.version + 1 }, ?_, rfl, owned, restricts⟩
    simp only [updateRequests, requests, Table.update, List.map_map]
    exact List.mem_map.mpr ⟨request, present, by simp⟩
  case isFalse =>
    refine ⟨{ request with
      continuation := if receiveOnly then .receiveOnly else .revoked
      controlVersion := request.controlVersion + 1
      updatedAtMs := now }, ?_, rfl, owned, restricts⟩
    rw [requests]
    exact List.mem_map.mpr ⟨request, present, by simp⟩

theorem stands_of_apply (applied : store.apply operation = .ok next)
    (committed : operation.fence? = some fence) : next.Stands fence := by
  cases operation with
  | restrictScope scopeId actor state expectedVersion now =>
    simp only [apply, bind_eq_ok_iff, pure_eq_ok_iff] at applied
    rcases applied with ⟨⟨after, result⟩, restricted, rfl⟩
    cases committed
    exact restrictScope_stands restricted
  | controlRequest requestId source expectedVersion receiveOnly now =>
    simp only [apply, bind_eq_ok_iff, pure_eq_ok_iff] at applied
    rcases applied with ⟨⟨after, result⟩, controlled, rfl⟩
    cases committed
    exact controlRequest_stands controlled
  | _ => cases committed

/-! ### A fence is never lifted -/

theorem stands_of_run {final : CollaborationStore} {operations : List StoreOperation}
    (sound : store.skeleton.Sound) (ran : machine.run store operations = some final)
    (stands : store.Stands fence) : final.Stands fence := by
  cases fence with
  | scope scopeId source state =>
    rcases stands with ⟨scope, present, rfl, owned, restricts⟩
    have kept : ∃ later ∈ final.scopes, later.id = scope.id ∧
        (later.source = source ∧ Restricts state later.state) := by
      apply scope_kept (fun later => later.source = source ∧ Restricts state later.state) _ sound
        ran present ⟨owned, restricts⟩
      intro earlier later step ⟨owned, restricts⟩
      exact ⟨(congrArg ScopeIdentity.source step.identity).trans owned,
        restricts.of_follows step.follows⟩
    exact kept
  | request requestId source state =>
    rcases stands with ⟨request, present, rfl, owned, restricts⟩
    have kept : ∃ later ∈ final.requests, later.identity = request.identity ∧
        Restricts state later.continuation := by
      apply request_kept (fun later => Restricts state later.continuation) _ sound ran present
        restricts
      intro operation earlier later move restricts
      exact restricts.of_follows move.follows_continuation
    rcases kept with ⟨later, laterPresent, identity, restricts⟩
    exact ⟨later, laterPresent, congrArg RequestIdentity.id identity,
      (congrArg RequestIdentity.source identity).trans owned, restricts⟩

/-! ### What it takes to start -/

/-- The fences of both levels let the recipient of a delivery execute. -/
def Permitted (store : CollaborationStore) (delivery : Delivery) : Prop :=
  ∃ request ∈ store.requests, ∃ scope ∈ store.scopes, request.id = delivery.requestId ∧
    scope.id = request.scopeId ∧ permitsExecution request scope delivery.recipient = true

variable {delivery : Delivery}

theorem scopeId_of_request (sound : store.skeleton.Sound)
    (present : delivery ∈ store.deliveries) {request : Request}
    (requestPresent : request ∈ store.requests) (same : request.id = delivery.requestId) :
    request.scopeId = delivery.scopeId := by
  rcases sound.messageOf _ (List.mem_map_of_mem present) with
    ⟨message, _, found, foundPresent, _, _, foundId, scopeId, _⟩
  rcases List.mem_map.mp foundPresent with ⟨other, otherPresent, rfl⟩
  have equal : other = request :=
    Table.eq_of_key sound.keyed.requests otherPresent requestPresent (foundId.trans same.symm)
  exact equal ▸ scopeId

theorem DeliveryMove.running (sound : store.skeleton.Sound) {later : Delivery}
    (present : delivery ∈ store.deliveries) (move : store.DeliveryMove operation delivery later)
    (running : later.state = .running) :
    (delivery.state = .running ∧ delivery.turnId = later.turnId) ∨ store.Permitted delivery := by
  cases move with
  | step later step =>
    cases step with
    | same => exact Or.inl ⟨running, rfl⟩
    | moved state turnId reason edge idle bound cause => exact absurd running idle
    | linked turnId request scope runs requested fenced permitted cause =>
      exact Or.inr ⟨request, requested.1, scope, fenced.1, requested.2, fenced.2, permitted⟩
  | started request scope turnId reason claimed requested fenced permitted cause =>
    have scopeId := scopeId_of_request sound present requested.1 requested.2
    exact Or.inr ⟨request, requested.1, scope, fenced.1, requested.2,
      fenced.2.trans scopeId.symm, permitted⟩

theorem not_permitted (sound : store.skeleton.Sound) (stands : store.Stands fence)
    (present : delivery ∈ store.deliveries)
    (covered : fence.Covers delivery) : ¬store.Permitted delivery := by
  rintro ⟨request, requestPresent, scope, scopePresent, requestId, scopeId, permitted⟩
  simp only [permitsExecution, decide_eq_true_eq] at permitted
  rcases permitted with ⟨scopeOpen, requestOpen, both⟩
  have shared := scopeId_of_request sound present requestPresent requestId
  cases fence with
  | scope fencedId source state =>
    rcases stands with ⟨row, rowPresent, rfl, rfl, notActive, strict⟩
    have equal : row = scope := Table.eq_of_key sound.keyed.scopes rowPresent scopePresent
      (covered.1.symm.trans (shared.symm.trans scopeId.symm))
    subst equal
    have source : request.source = row.source := by
      rcases sound.scopeOf _ (List.mem_map_of_mem requestPresent) with
        ⟨found, foundPresent, foundId, foundSource⟩
      rcases List.mem_map.mp foundPresent with ⟨other, otherPresent, rfl⟩
      have equal : other = row := Table.eq_of_key sound.keyed.scopes otherPresent rowPresent
        (foundId.trans scopeId.symm)
      exact equal ▸ foundSource.symm
    rcases strict with receiveOnly | revoked
    · exact notActive (both ((covered.2 receiveOnly).trans source.symm)).1
    · exact scopeOpen revoked
  | request fencedId source state =>
    rcases stands with ⟨row, rowPresent, rfl, rfl, notActive, strict⟩
    have equal : row = request := Table.eq_of_key sound.keyed.requests rowPresent requestPresent
      (covered.1.symm.trans requestId.symm)
    subst equal
    rcases strict with receiveOnly | revoked
    · exact notActive (both (covered.2 receiveOnly)).2
    · exact requestOpen revoked

/-! ### The law of fences -/

/-- After the fence is committed, a covered delivery that runs after a step ran before it, on the
same turn. -/
theorem no_start_behind_fence {maxPending : ℕ} {front back : List StoreOperation}
    {fenced state later : CollaborationStore} {another : StoreOperation}
    (reached : machine.run (empty maxPending) front = some store)
    (applied : store.apply operation = .ok fenced) (committed : operation.fence? = some fence)
    (ran : machine.run fenced back = some state)
    (stepped : machine.step state another = some later) {delivery : Delivery}
    (present : delivery ∈ later.deliveries) (running : delivery.state = .running)
    (covered : fence.Covers delivery) :
    ∃ earlier ∈ state.deliveries, earlier.id = delivery.id ∧ earlier.state = .running ∧
      earlier.turnId = delivery.turnId := by
  have sound := sound_of_run (skeleton_empty maxPending) reached
  have admitted : store.Admits operation := by
    cases operation <;> trivial
  have fencedSound := ((applied_of_apply sound.keyed admitted applied).grown sound).sound sound
  have stateSound := sound_of_run fencedSound ran
  have stands := stands_of_run fencedSound ran (stands_of_apply applied committed)
  have evolved := (applied_of_step stateSound stepped).deliveries_evolve stateSound.keyed
  rcases evolved.exists_before_or_fresh present with ⟨earlier, earlierPresent, move⟩ | inserted
  · have identity := move.identity
    refine ⟨earlier, earlierPresent, (congrArg DeliveryIdentity.id identity).symm, ?_⟩
    rcases move.running stateSound earlierPresent running with started | permitted
    · exact started
    · have same : fence.Covers earlier := by
        have scopeId : delivery.scopeId = earlier.scopeId :=
          congrArg DeliveryIdentity.scopeId identity
        have requestId : delivery.requestId = earlier.requestId :=
          congrArg DeliveryIdentity.requestId identity
        have recipient : delivery.recipient = earlier.recipient :=
          congrArg DeliveryIdentity.recipient identity
        cases fence <;> simpa only [Fence.Covers, scopeId, requestId, recipient] using covered
      exact absurd permitted (not_permitted stateSound stands earlierPresent same)
  · rcases inserted.state with state | state | state <;> simp [running] at state

/-- A running assignment, which its source then revokes. -/
def started : List StoreOperation :=
  Assignment.opened ++ [.claimNext Assignment.target,
    .transitionDelivery Assignment.deliveryId.text Assignment.target .running 1
      (some (Text.ofString "turn")) none 1]

def revocation : StoreOperation :=
  .controlRequest Assignment.requestId.text Assignment.source 0 false 2

/-- An attempt to resume the assignment on another turn. -/
def resumption : StoreOperation :=
  .linkResumedTurn Assignment.deliveryId.text Assignment.target (Text.ofString "another turn")

theorem no_start_behind_fence_revocation :
    ∃ store, machine.run (empty 256) started = some store ∧
      ∃ fenced, store.apply revocation = .ok fenced ∧
        ∃ state, machine.run fenced [.claimNext Assignment.target] = some state ∧
          ∃ later, machine.step state resumption = some later ∧
            ∃ delivery ∈ later.deliveries, delivery.state = .running ∧
              ∃ earlier ∈ state.deliveries, earlier.id = delivery.id ∧
                earlier.state = .running ∧ earlier.turnId = delivery.turnId := by
  have taken : ∃ store, machine.run (empty 256) started = some store ∧
      ∃ fenced, store.apply revocation = .ok fenced ∧
        ∃ state, machine.run fenced [.claimNext Assignment.target] = some state ∧
          ∃ later, machine.step state resumption = some later ∧
            ∃ delivery ∈ later.deliveries, delivery.state = .running ∧
              (Fence.request Assignment.requestId.text Assignment.source .revoked).Covers
                delivery := by
    decide +kernel
  rcases taken with ⟨store, reached, fenced, applied, state, ran, later, stepped, delivery, present,
    running, covered⟩
  exact ⟨store, reached, fenced, applied, state, ran, later, stepped, delivery, present, running,
    no_start_behind_fence reached applied rfl ran stepped present running covered⟩

end CollaborationStore

end Synapse.Collaboration
