import Synapse.Collaboration.Operations

/-!
# What each operation does

One lemma for each operation of the store: if it succeeds, it does one of the
things that `Applied` lists. The lemmas read the guards off the code; nothing
after this file unfolds an operation to learn what it changes.
-/

namespace Synapse.Collaboration.CollaborationStore

open List

theorem Updated.refl (store : CollaborationStore) (operation : StoreOperation) :
    store.Updated operation store :=
  ⟨rfl, forall₂_same.mpr fun row _ => .same row, forall₂_same.mpr fun row _ => .same row,
    rfl, forall₂_same.mpr fun row _ => .same row, rfl, id⟩

variable {store : CollaborationStore} {scope : ContinuationScope}

theorem readScope_ok {scopeId : Text}
    (read : store.readScope scopeId = .ok scope) : scope ∈ store.scopes ∧ scope.id = scopeId := by
  simp only [readScope, bind_eq_ok_iff, orRaise_eq_ok_iff] at read
  rcases read with ⟨_, _, found⟩
  exact Table.mem_of_find? found

theorem readRequest_ok {requestId : Text} {actor : SessionRef}
    {request : Request} (read : store.readRequest requestId actor = .ok request) :
    request ∈ store.requests ∧ request.id = requestId ∧
      (actor = request.source ∨ actor = request.target) := by
  simp only [readRequest, bind_eq_ok_iff, orRaise_eq_ok_iff, raiseIf_eq_ok_iff, pure_eq_ok_iff,
    exists_const] at read
  rcases read with ⟨_, _, _, _, row, found, participates, rfl⟩
  rcases Table.mem_of_find? found with ⟨present, same⟩
  exact ⟨present, same, by tauto⟩

theorem updateDeliveries_ok {next : CollaborationStore} {chosen : Delivery → Bool}
    {change : Delivery → Delivery} (updated : store.updateDeliveries chosen change = .ok next) :
    OwnersDistinct (Table.update chosen change store.deliveries) ∧
      next = { store with deliveries := Table.update chosen change store.deliveries } := by
  simp only [updateDeliveries, bind_eq_ok_iff, raiseIf_eq_ok_iff, pure_eq_ok_iff, not_not,
    exists_const] at updated
  exact ⟨updated.1, updated.2.symm⟩

theorem beginScope_applied {next : CollaborationStore} {source : SessionRef} {workId : Text}
    {fresh : FreshId} (operation : StoreOperation)
    (begun : store.beginScope source workId fresh = .ok (next, scope)) :
    store.Applied operation next := by
  simp only [beginScope, bind_eq_ok_iff] at begun
  rcases begun with ⟨_, _, _, _, begun⟩
  split at begun
  case h_1 existing found =>
    simp only [pure_eq_ok_iff, Prod.mk.injEq] at begun
    exact begun.1 ▸ .updated operation store (Updated.refl store operation)
  case h_2 absent =>
    simp only [insertScope, bind_eq_ok_iff, raiseIf_eq_ok_iff, pure_eq_ok_iff, exists_const,
      Prod.mk.injEq] at begun
    rcases begun with ⟨_, ⟨unique, rfl⟩, _, _, rfl, _⟩
    exact .begun operation _ (fun row present same => unique ⟨row, present, Or.inl same⟩)
      fresh.boundedText

/-- The fence on deliveries: pending ones are cancelled, claimed ones held for review. -/
theorem fence_deliveries {cancelled reviewed : CollaborationStore}
    {applies : Delivery → Bool} {reason : String}
    (first : store.updateDeliveries (fun row => applies row && row.state == .pending)
      (·.retire .cancelled reason) = .ok cancelled)
    (second : cancelled.updateDeliveries (fun row => applies row && row.state == .claimed)
      (·.retire .review reason) = .ok reviewed) :
    ∃ deliveries, reviewed = { store with deliveries } ∧ OwnersDistinct deliveries ∧
      ∀ other operation, List.Forall₂ (DeliveryStep other operation) store.deliveries deliveries := by
  rcases updateDeliveries_ok first with ⟨_, rfl⟩
  rcases updateDeliveries_ok second with ⟨owners, rfl⟩
  refine ⟨_, rfl, owners, fun other operation => ?_⟩
  simp only [Table.update, map_map, forall₂_map_right_iff, forall₂_same,
    Function.comp_apply]
  intro row _
  -- No row is chosen by both statements: a cancelled delivery is not claimed.
  cases chosen : applies row with
  | false => simpa [chosen] using DeliveryStep.same row
  | true =>
    cases state : row.state with
    | pending =>
      simpa [chosen, state, Delivery.retire] using
        DeliveryStep.moved row .cancelled row.turnId (some (Text.ofString reason))
          (by simp [state, Lifecycle.edges]) (by decide) (Or.inr rfl)
          (Or.inr (Or.inl ⟨state, rfl⟩))
    | claimed =>
      simpa [chosen, state, Delivery.retire] using
        DeliveryStep.moved row .review row.turnId (some (Text.ofString reason))
          (by simp [state, Lifecycle.edges]) (by decide) (Or.inr rfl)
          (Or.inr (Or.inr ⟨state, rfl⟩))
    | _ => simpa [chosen, state] using DeliveryStep.same row

/-- Identifiers are primary keys. -/
structure Keyed (store : CollaborationStore) : Prop where
  scopes : (store.scopes.map (·.id)).Nodup
  requests : (store.requests.map (·.id)).Nodup
  messages : (store.messages.map (·.id)).Nodup
  deliveries : (store.deliveries.map (·.id)).Nodup

section

variable {store next : CollaborationStore} {operation : StoreOperation}

/-- Updating one row by its identifier steps that row only. -/
theorem forall₂_update_id {Row : Type} {rows : List Row} {key : Row → Text}
    {Step : Row → Row → Prop} (distinct : (rows.map key).Nodup) (refl : ∀ row, Step row row)
    {row : Row} (present : row ∈ rows) {change : Row → Row} (step : Step row (change row)) :
    List.Forall₂ Step rows (Table.update (fun other => key other = key row) change rows) := by
  refine Table.forall₂_update (fun other _ => refl other) fun other otherPresent same => ?_
  have equal : other = row :=
    Table.eq_of_key distinct otherPresent present (by simpa using same)
  exact equal ▸ step

variable {now expectedVersion : ℤ} {actor : SessionRef}

theorem restrictScope_applied (keyed : store.Keyed) {scopeId : Text}
    {state : ScopeState} {scope : ContinuationScope}
    (restricted : store.restrictScope scopeId actor state expectedVersion now =
      .ok (next, scope)) : store.Applied operation next := by
  simp only [restrictScope, bind_eq_ok_iff, raiseIf_eq_ok_iff, exists_const, pure_eq_ok_iff,
    Prod.mk.injEq] at restricted
  rcases restricted with ⟨_, _, _, _, before, read, _, _, _, checked, fenced, locked, _, _, rfl, _⟩
  rcases readScope_ok read with ⟨present, rfl⟩
  have edge := mem_edges_of_checkTransition checked
  simp only [restrictLocked, bind_eq_ok_iff] at locked
  rcases locked with ⟨cancelled, first, reviewed, second, locked⟩
  rcases fence_deliveries first second with ⟨deliveries, rfl, owners, stepped⟩
  have scopes : List.Forall₂ ScopeStep store.scopes
      (Table.update (·.id = before.id) (fun row => { row with state, version := row.version + 1 })
        store.scopes) :=
    forall₂_update_id keyed.scopes .same present (.restricted before state edge)
  refine .updated operation fenced ?_
  split at locked
  · simp only [pure_eq_ok_iff] at locked
    subst locked
    refine ⟨rfl, scopes, ?_, rfl, ?_, rfl, fun _ => owners⟩
    · refine Table.forall₂_update (fun row _ => .same row) fun row _ chosen => ?_
      simp only [decide_eq_true_eq] at chosen
      exact .cancelled row now chosen.2.1
    · exact stepped store operation
  · simp only [pure_eq_ok_iff] at locked
    subst locked
    exact ⟨rfl, scopes, forall₂_same.mpr fun row _ => .same row, rfl, stepped store operation, rfl,
      fun _ => owners⟩

variable {request : Request} {requestId : Text}

theorem controlRequest_applied (keyed : store.Keyed) {source : SessionRef} {receiveOnly : Bool}
    (controlled : store.controlRequest requestId source expectedVersion receiveOnly now =
      .ok (next, request)) : store.Applied operation next := by
  simp only [controlRequest, bind_eq_ok_iff, raiseIf_eq_ok_iff, exists_const, pure_eq_ok_iff,
    Prod.mk.injEq] at controlled
  rcases controlled with ⟨_, _, before, read, _, _, _, checked, cancelled, first, reviewed, second,
    _, _, rfl, _⟩
  rcases readRequest_ok read with ⟨present, _, _⟩
  have edge := mem_edges_of_checkTransition checked
  rcases fence_deliveries first second with ⟨deliveries, rfl, owners, stepped⟩
  refine .updated operation _ ?_
  split
  case isTrue stops =>
    -- Two statements touch the request: its continuation and then its state.
    refine ⟨rfl, forall₂_same.mpr fun row _ => .same row, ?_, rfl, stepped store operation, rfl,
      fun _ => owners⟩
    simp only [updateRequests, Table.update, map_map, forall₂_map_right_iff,
      forall₂_same, Function.comp_apply]
    intro row rowPresent
    by_cases same : row.id = before.id
    · obtain rfl : row = before := Table.eq_of_key keyed.requests rowPresent present same
      simp only [stops.1, Bool.false_eq_true, if_false] at edge ⊢
      simpa using RequestStep.stopped row now edge stops.2
    · simpa [same] using RequestStep.same row
  case isFalse =>
    refine ⟨rfl, forall₂_same.mpr fun row _ => .same row, ?_, rfl, stepped store operation, rfl,
      fun _ => owners⟩
    exact forall₂_update_id keyed.requests .same present (.controlled before _ now edge)

variable {recipient : SessionRef}

theorem linkResumedTurn_applied (keyed : store.Keyed) {deliveryId : Text}
    {turnId : Text} (linked : store.linkResumedTurn deliveryId recipient turnId = .ok next) :
    store.Applied (.linkResumedTurn deliveryId recipient turnId) next := by
  simp only [linkResumedTurn, bind_eq_ok_iff, raiseIf_eq_ok_iff, orRaise_eq_ok_iff,
    exists_const] at linked
  rcases linked with ⟨_, _, _, delivery, found, owned, linked⟩
  rcases Table.mem_of_find? found with ⟨present, rfl⟩
  split at linked
  · simp only [pure_eq_ok_iff] at linked
    exact linked ▸ .updated _ store (Updated.refl store _)
  · simp only [bind_eq_ok_iff, raiseIf_eq_ok_iff, exists_const] at linked
    rcases linked with ⟨request, readRequest, scope, readScope, permitted, updated⟩
    rcases readRequest_ok readRequest with ⟨requestPresent, requestId, _⟩
    rcases updateDeliveries_ok updated with ⟨owners, rfl⟩
    simp only [not_or, not_not, Bool.not_eq_false] at permitted owned
    subst owned
    refine .updated _ _ ⟨rfl, forall₂_same.mpr fun row _ => .same row,
      forall₂_same.mpr fun row _ => .same row, rfl, ?_, rfl, fun _ => owners⟩
    exact forall₂_update_id keyed.deliveries .same present
      (.linked delivery turnId request scope permitted.1 ⟨requestPresent, requestId⟩
        (readScope_ok readScope) permitted.2 (decide_eq_true rfl))

theorem createRequest_applied {scopeId : Text} {source target : SessionRef}
    {operationKey body anchorTurnId : Text} {requestId messageId deliveryId : FreshId}
    (created : store.createRequest scopeId source target operationKey body anchorTurnId requestId
      messageId deliveryId now = .ok (next, request)) : store.Applied operation next := by
  simp only [createRequest, bind_eq_ok_iff, raiseIf_eq_ok_iff, exists_const] at created
  rcases created with ⟨_, validSource, _, validTarget, apart, _, _, _, _, _, _, scope, read, owned, created⟩
  rcases readScope_ok read with ⟨scopePresent, rfl⟩
  split at created
  case h_1 existing found =>
    simp only [bind_eq_ok_iff, raiseIf_eq_ok_iff, exists_const, pure_eq_ok_iff,
      Prod.mk.injEq] at created
    exact created.2.1 ▸ .updated operation store (Updated.refl store operation)
  case h_2 absent =>
    simp only [insertRequest, bind_eq_ok_iff, raiseIf_eq_ok_iff, exists_const, pure_eq_ok_iff,
      Prod.mk.injEq] at created
    rcases created with ⟨_, _, ⟨unique, rfl⟩, inserted, read, ⟨after, message⟩, appended, rfl, rfl⟩
    rcases readRequest_ok read with ⟨insertedPresent, insertedId, _⟩
    rcases append_ok appended with ⟨_, _, _, delivery, appendable, rfl⟩
    simp only [mem_append, mem_singleton] at insertedPresent
    rcases insertedPresent with old | rfl
    · exact absurd ⟨inserted, old, Or.inl insertedId⟩ unique
    · simp only [not_not] at owned
      exact .created operation _ message delivery scope ⟨scopePresent, rfl, owned⟩
        (fun row present same => unique ⟨row, present, Or.inl same⟩)
        (fun row present sameScope sameKey =>
          unique ⟨row, present, Or.inr ⟨sameScope, sameKey⟩⟩) apart requestId.boundedText
        ⟨validSource, validTarget⟩ rfl appendable

/-- Cancelling the pending clarifications of a request. -/
theorem cancelPendingClarifications_ok
    (cancelled : store.cancelPendingClarifications requestId = .ok next) :
    ∃ deliveries, next = { store with deliveries } ∧ OwnersDistinct deliveries ∧
      List.Forall₂ (DeliveryStep store operation) store.deliveries deliveries := by
  rcases updateDeliveries_ok cancelled with ⟨owners, rfl⟩
  refine ⟨_, rfl, owners, Table.forall₂_update (fun row _ => .same row) fun row _ chosen => ?_⟩
  simp only [decide_eq_true_eq] at chosen
  exact .moved row .cancelled row.turnId _ (by simp [chosen.2.1, Lifecycle.edges]) (by decide)
    (Or.inr rfl) (Or.inr (Or.inl ⟨chosen.2.1, rfl⟩))

theorem postMessage_applied {kind : MessageKind}
    {body operationKey anchorTurnId : Text} {messageId deliveryId : FreshId} {message : Message}
    (posted : store.postMessage requestId actor kind body operationKey anchorTurnId messageId
      deliveryId now = .ok (next, message)) : store.Applied operation next := by
  simp only [postMessage, bind_eq_ok_iff, raiseIf_eq_ok_iff, exists_const] at posted
  rcases posted with ⟨notRequest, _, _, _, _, _, _, request, read, role, posted⟩
  rcases readRequest_ok read with ⟨present, rfl, _⟩
  simp only [ne_eq, not_not] at role
  split at posted
  case h_1 existing found =>
    simp only [bind_eq_ok_iff, raiseIf_eq_ok_iff, exists_const, pure_eq_ok_iff,
      Prod.mk.injEq] at posted
    exact posted.2.1 ▸ .updated operation store (Updated.refl store operation)
  case h_2 absent =>
    split at posted
    case h_1 leads =>
      simp only [bind_eq_ok_iff, raiseIf_eq_ok_iff, exists_const, pure_eq_ok_iff,
        Prod.mk.injEq] at posted
      rcases posted with ⟨running, ⟨after, added⟩, appended, rfl, rfl⟩
      rcases append_ok appended with ⟨_, _, _, delivery, appendable, rfl⟩
      obtain rfl : kind = .progress := by
        cases kind <;> simp [nextState] at leads notRequest ⊢
      simp only [reduceCtorEq, if_false] at role
      subst role
      exact .progressed operation request _ delivery now present (by tauto) appendable
    case h_2 state leads =>
      simp only [bind_eq_ok_iff, pure_eq_ok_iff, Prod.mk.injEq] at posted
      rcases posted with ⟨_, _, _, checked, middle, cancelled, ⟨after, added⟩, appended, rfl, rfl⟩
      rcases append_ok appended with ⟨_, _, _, delivery, appendable, rfl⟩
      have edge := mem_edges_of_checkTransition checked
      rw [role] at appendable
      have swept : ∃ deliveries, middle = { store with deliveries } ∧
          (OwnersDistinct store.deliveries → OwnersDistinct deliveries) ∧
          List.Forall₂ (DeliveryStep store operation) store.deliveries deliveries := by
        split at cancelled
        · rcases cancelPendingClarifications_ok cancelled with ⟨deliveries, swept, owners, stepped⟩
          exact ⟨deliveries, swept, fun _ => owners, stepped⟩
        · simp only [pure_eq_ok_iff] at cancelled
          exact ⟨store.deliveries, cancelled.symm, id, forall₂_same.mpr fun row _ => .same row⟩
      rcases swept with ⟨deliveries, rfl, owners, stepped⟩
      exact .posted operation kind state deliveries request _ delivery now present leads edge stepped
        owners appendable

theorem failRequest_applied (keyed : store.Keyed)
    (failed : store.failRequest requestId actor expectedVersion now = .ok (next, request)) :
    store.Applied operation next := by
  simp only [failRequest, bind_eq_ok_iff, raiseIf_eq_ok_iff, exists_const, pure_eq_ok_iff,
    Prod.mk.injEq] at failed
  rcases failed with ⟨_, _, before, read, _, _, _, checked, swept, cancelled, _, _, rfl, _⟩
  rcases readRequest_ok read with ⟨present, rfl, _⟩
  have edge := mem_edges_of_checkTransition checked
  rcases cancelPendingClarifications_ok cancelled with ⟨deliveries, rfl, owners, stepped⟩
  refine .updated operation _ ⟨rfl, forall₂_same.mpr fun row _ => .same row, ?_, rfl, stepped,
    rfl, fun _ => owners⟩
  exact forall₂_update_id keyed.requests .same present (.failed before now edge)

theorem claimNext_applied (keyed : store.Keyed)
    {claimed : Option Delivery} (claims : store.claimNext recipient = .ok (next, claimed)) :
    store.Applied (.claimNext recipient) next := by
  simp only [claimNext, bind_eq_ok_iff] at claims
  rcases claims with ⟨_, _, claims⟩
  split at claims
  · simp only [pure_eq_ok_iff, Prod.mk.injEq] at claims
    exact claims.1 ▸ .updated _ store (Updated.refl store _)
  · split at claims
    case h_1 =>
      simp only [pure_eq_ok_iff, Prod.mk.injEq] at claims
      exact claims.1 ▸ .updated _ store (Updated.refl store _)
    case h_2 delivery found =>
      simp only [bind_eq_ok_iff, pure_eq_ok_iff, Prod.mk.injEq] at claims
      rcases claims with ⟨after, updated, rfl, _⟩
      rcases updateDeliveries_ok updated with ⟨owners, rfl⟩
      have present := mem_of_find?_eq_some found
      have matched := find?_some found
      simp only [decide_eq_true_eq] at matched
      rcases matched with ⟨owned, pending⟩
      refine .updated _ _ ⟨rfl, forall₂_same.mpr fun row _ => .same row,
        forall₂_same.mpr fun row _ => .same row, rfl, ?_, rfl, fun _ => owners⟩
      exact forall₂_update_id keyed.deliveries .same present
        (.moved delivery .claimed delivery.turnId delivery.reason
          (by simp [pending, Lifecycle.edges]) (by decide) (Or.inr rfl) (Or.inl (decide_eq_true owned)))

theorem claimed_of_running_edge {state : DeliveryState}
    (edge : DeliveryState.running ∈ Lifecycle.edges state) : state = .claimed := by
  cases state <;> simp [Lifecycle.edges] at edge ⊢

theorem startLocked_ok {delivery : Delivery}
    (starting : store.startLocked delivery request recipient now = .ok next) :
    ∃ scope message, (scope ∈ store.scopes ∧ scope.id = delivery.scopeId) ∧
      permitsExecution request scope recipient = true ∧
      (message ∈ store.messages ∧ message.id = delivery.messageId) ∧
      allowed request recipient message.kind = some true ∧
      next = { store with
        requests :=
          if recipient = request.target ∧ request.state = .pending then
            Table.update (·.id = request.id) (·.advance .working now) store.requests
          else store.requests } := by
  simp only [startLocked, bind_eq_ok_iff, raiseIf_eq_ok_iff, orRaise_eq_ok_iff,
    exists_const] at starting
  rcases starting with ⟨scope, read, permitted, message, found, fits, listed, fitting, starting⟩
  refine ⟨scope, message, readScope_ok read, by simpa using permitted, Table.mem_of_find? found,
    ?_, ?_⟩
  · rw [listed]
    simpa using fitting
  · split at starting
    case isTrue unstarted =>
      simp only [pure_eq_ok_iff, updateRequests] at starting
      rw [if_pos unstarted, starting]
    case isFalse other =>
      simp only [pure_eq_ok_iff] at starting
      rw [if_neg other, starting]

theorem transitionDelivery_applied (keyed : store.Keyed) {deliveryId : Text} {state : DeliveryState}
    {turnId reason : Option Text} {delivery : Option Delivery}
    (concerned : StoreOperation.concerns recipient operation = true)
    (moved : store.transitionDelivery deliveryId recipient state expectedVersion turnId reason now =
      .ok (next, delivery)) : store.Applied operation next := by
  simp only [transitionDelivery, bind_eq_ok_iff, raiseIf_eq_ok_iff, orRaise_eq_ok_iff,
    exists_const, pure_eq_ok_iff, Prod.mk.injEq] at moved
  rcases moved with ⟨_, _, _, _, _, _, _, _, _, _, before, found, owned, _, _, checked, turned, bound,
    request, read, middle, starting, after, updated, rfl, _⟩
  rcases Table.mem_of_find? found with ⟨present, rfl⟩
  have edge := mem_edges_of_checkTransition checked
  simp only [ne_eq, not_not] at owned
  subst owned
  split at starting
  case isTrue running =>
    subst running
    rcases startLocked_ok starting with
      ⟨scope, message, fenced, permitted, carried, fits, rfl⟩
    rcases updateDeliveries_ok updated with ⟨owners, rfl⟩
    rcases readRequest_ok read with ⟨requestPresent, requestId, _⟩
    cases turnId with
    | none => simp at turned
    | some turnId =>
      exact .started operation before request scope message turnId reason now concerned present
        (claimed_of_running_edge edge) ⟨requestPresent, requestId⟩ fenced permitted carried fits
        owners
  case isFalse idle =>
    simp only [pure_eq_ok_iff] at starting
    subst starting
    rcases updateDeliveries_ok updated with ⟨owners, rfl⟩
    refine .updated operation _ ⟨rfl, forall₂_same.mpr fun row _ => .same row,
      forall₂_same.mpr fun row _ => .same row, rfl, ?_, rfl, fun _ => owners⟩
    refine forall₂_update_id keyed.deliveries .same present
      (.moved before state _ _ edge idle ?_ (Or.inl concerned))
    cases before.turnId <;> simp

/-- Retiring deliveries one after the other retires them all. -/
theorem foldlM_updateDeliveries {change : Delivery → Delivery}
    (keeps : ∀ row, (change row).id = row.id) {rows : List Delivery}
    (distinct : (rows.map (·.id)).Nodup)
    (folded : rows.foldlM (fun store row => store.updateDeliveries (·.id = row.id) change) store =
      .ok next) :
    next = { store with
        deliveries := Table.update (fun row => row.id ∈ rows.map (·.id)) change store.deliveries } ∧
      (OwnersDistinct store.deliveries → OwnersDistinct next.deliveries) := by
  induction rows generalizing store with
  | nil =>
    simp only [foldlM_nil, pure_eq_ok_iff] at folded
    subst folded
    simp [Table.update]
  | cons row rows ih =>
    simp only [foldlM_cons, bind_eq_ok_iff] at folded
    rcases folded with ⟨middle, updated, folded⟩
    rcases updateDeliveries_ok updated with ⟨owners, rfl⟩
    rw [map_cons, nodup_cons] at distinct
    rcases ih distinct.2 folded with ⟨equal, owned⟩
    refine ⟨?_, fun _ => owned owners⟩
    have joined : Table.update (fun other => other.id ∈ rows.map (·.id)) change
          (Table.update (fun other => other.id = row.id) change store.deliveries) =
        Table.update (fun other => other.id ∈ (row :: rows).map (·.id)) change
          store.deliveries := by
      rw [Table.update_update fun other same => by simp_all]
      exact Table.update_congr fun other _ => by simp
    rw [equal]
    simpa using joined

variable {count : ℕ} {limit : ℤ}

theorem recoverUncertain_ok (keyed : store.Keyed)
    (recovered : store.recoverUncertain limit = .ok (next, count)) :
    let rows := (store.deliveries.filter fun row =>
      row.state = .claimed ∨ row.state = .running).take limit.toNat
    count = rows.length ∧
      (OwnersDistinct store.deliveries → OwnersDistinct next.deliveries) ∧
      next = { store with
        deliveries := Table.update (fun row => row.id ∈ rows.map (·.id))
          (·.retire .review "restart") store.deliveries } := by
  intro rows
  simp only [recoverUncertain, bind_eq_ok_iff, pure_eq_ok_iff, Prod.mk.injEq] at recovered
  rcases recovered with ⟨_, _, after, folded, rfl, rfl⟩
  have distinct : (rows.map (·.id)).Nodup :=
    keyed.deliveries.sublist (((take_sublist _ _).trans filter_sublist).map _)
  have keeps : ∀ row : Delivery, (row.retire .review "restart").id = row.id := fun _ => rfl
  rcases foldlM_updateDeliveries keeps distinct folded with ⟨equal, owners⟩
  exact ⟨rfl, owners, equal⟩

/-- The request that a settled row may fail. -/
def failedBy (rows : List Delivery) (request : Request) : Bool :=
  (request.state = .pending ∨ request.state = .working) ∧
    ∃ row ∈ rows, row.requestId = request.id ∧ row.recipient = request.target

theorem settleLocked_ok (distinct : (store.requests.map (·.id)).Nodup) {row : Delivery}
    (settled : store.settleLocked row now = .ok next) :
    OwnersDistinct next.deliveries ∧
      next = { store with
        deliveries := Table.update (·.id = row.id) (·.retire .settled "interrupted")
          store.deliveries
        requests := Table.update (failedBy [row]) (·.advance .failed now) store.requests } := by
  simp only [settleLocked, bind_eq_ok_iff] at settled
  rcases settled with ⟨middle, updated, settled⟩
  rcases updateDeliveries_ok updated with ⟨owners, rfl⟩
  split at settled
  case h_1 absent =>
    simp only [pure_eq_ok_iff] at settled
    subst settled
    have untouched : Table.update (failedBy [row]) (·.advance .failed now) store.requests =
        store.requests := by
      refine Table.update_eq_self fun request present => ?_
      rw [find?_eq_none] at absent
      have other := absent request present
      simp only [decide_eq_true_eq] at other
      simp [failedBy, Ne.symm other]
    exact ⟨owners, by rw [untouched]⟩
  case h_2 request found =>
    rcases Table.mem_of_find? found with ⟨present, same⟩
    have chosen : ∀ other ∈ store.requests,
        failedBy [row] other = (decide (other.id = request.id) && failedBy [row] request) := by
      intro other otherPresent
      by_cases equal : other.id = request.id
      · obtain rfl := Table.eq_of_key distinct otherPresent present equal
        simp
      · have apart : ¬row.requestId = other.id := fun equals => equal (equals.symm.trans same.symm)
        simp [failedBy, equal, apart]
    split at settled
    case isTrue spared =>
      simp only [pure_eq_ok_iff] at settled
      subst settled
      have untouched : Table.update (failedBy [row]) (·.advance .failed now) store.requests =
          store.requests := by
        refine Table.update_eq_self fun other otherPresent => ?_
        rw [chosen other otherPresent]
        simp only [failedBy, Bool.and_eq_false_iff, decide_eq_false_iff_not]
        right
        rintro ⟨unanswered, listed, listedMem, _, target⟩
        obtain rfl := mem_singleton.mp listedMem
        rcases spared with apart | ⟨notPending, notWorking⟩
        · exact apart target
        · exact unanswered.elim notPending notWorking
      exact ⟨owners, by rw [untouched]⟩
    case isFalse failing =>
      simp only [pure_eq_ok_iff, updateRequests] at settled
      subst settled
      refine ⟨owners, ?_⟩
      have fails : failedBy [row] request = true := by
        simp only [not_or, not_and_or, not_not] at failing
        simp [failedBy, same, failing.1, failing.2]
      congr 1
      refine (Table.update_congr fun other otherPresent => ?_).symm
      rw [chosen other otherPresent, fails, Bool.and_true]

theorem foldlM_settleLocked {rows : List Delivery}
    (distinctRequests : (store.requests.map (·.id)).Nodup) (distinct : (rows.map (·.id)).Nodup)
    (folded : rows.foldlM (fun store row => store.settleLocked row now) store = .ok next) :
    (OwnersDistinct store.deliveries → OwnersDistinct next.deliveries) ∧
      next = { store with
        deliveries := Table.update (fun row => row.id ∈ rows.map (·.id))
          (·.retire .settled "interrupted") store.deliveries
        requests := Table.update (failedBy rows) (·.advance .failed now) store.requests } := by
  induction rows generalizing store with
  | nil =>
    simp only [foldlM_nil, pure_eq_ok_iff] at folded
    subst folded
    have requests : Table.update (failedBy []) (·.advance .failed now) store.requests =
        store.requests := Table.update_eq_self fun request _ => by simp [failedBy]
    refine ⟨id, ?_⟩
    rw [requests, Table.update_eq_self (by simp)]
  | cons row rows ih =>
    simp only [foldlM_cons, bind_eq_ok_iff] at folded
    rcases folded with ⟨middle, settled, folded⟩
    rcases settleLocked_ok distinctRequests settled with ⟨owners, rfl⟩
    rw [map_cons, nodup_cons] at distinct
    have keptDistinct : ((Table.update (failedBy [row]) (·.advance .failed now)
        store.requests).map (·.id)).Nodup := by
      have ids : ∀ request : Request, (request.advance .failed now).id = request.id :=
        fun _ => rfl
      rw [Table.map_update ids]
      exact distinctRequests
    rcases ih keptDistinct distinct.2 folded with ⟨owned, equal⟩
    refine ⟨fun _ => owned owners, ?_⟩
    have deliveries : Table.update (fun other => other.id ∈ rows.map (·.id))
          (·.retire .settled "interrupted") (Table.update (fun other => other.id = row.id)
            (·.retire .settled "interrupted") store.deliveries) =
        Table.update (fun other => other.id ∈ (row :: rows).map (·.id))
          (·.retire .settled "interrupted") store.deliveries := by
      rw [Table.update_update fun other same => by simp_all [Delivery.retire]]
      exact Table.update_congr fun other _ => by simp
    have requests : Table.update (failedBy rows) (·.advance .failed now)
          (Table.update (failedBy [row]) (·.advance .failed now) store.requests) =
        Table.update (failedBy (row :: rows)) (·.advance .failed now) store.requests := by
      rw [Table.update_update fun other _ => by simp [failedBy, Request.advance]]
      exact Table.update_congr fun other _ => by simp [failedBy]; grind
    rw [equal]
    simp only [deliveries, requests]

theorem settleInterrupted_ok (keyed : store.Keyed)
    (settled : store.settleInterrupted limit now = .ok (next, count)) :
    let rows := (store.deliveries.filter fun row => row.state = .review).take limit.toNat
    count = rows.length ∧
      (OwnersDistinct store.deliveries → OwnersDistinct next.deliveries) ∧
      next = { store with
        deliveries := Table.update (fun row => row.id ∈ rows.map (·.id))
          (·.retire .settled "interrupted") store.deliveries
        requests := Table.update (failedBy rows) (·.advance .failed now) store.requests } := by
  intro rows
  simp only [settleInterrupted, bind_eq_ok_iff, pure_eq_ok_iff, Prod.mk.injEq] at settled
  rcases settled with ⟨_, _, after, folded, rfl, rfl⟩
  have distinct : (rows.map (·.id)).Nodup :=
    keyed.deliveries.sublist (((take_sublist _ _).trans filter_sublist).map _)
  rcases foldlM_settleLocked keyed.requests distinct folded with ⟨owners, equal⟩
  exact ⟨rfl, owners, equal⟩

/-- Rows taken from a filtered table satisfy the filter. -/
theorem of_mem_map_id {Row : Type} {rows : List Row} {key : Row → Text} {query : Row → Bool}
    (distinct : (rows.map key).Nodup) {row : Row} (present : row ∈ rows)
    (taken : key row ∈ ((rows.filter query).take count).map key) : query row = true := by
  rcases mem_map.mp taken with ⟨other, otherTaken, same⟩
  rcases mem_filter.mp (mem_of_mem_take otherTaken) with ⟨otherPresent, matched⟩
  rwa [Table.eq_of_key distinct present otherPresent same.symm]

theorem recoverUncertain_applied (keyed : store.Keyed)
    (recovered : store.recoverUncertain limit = .ok (next, count)) :
    store.Applied (.recoverUncertain limit) next := by
  rcases recoverUncertain_ok keyed recovered with ⟨_, owners, rfl⟩
  refine .updated _ _ ⟨rfl, forall₂_same.mpr fun row _ => .same row,
    forall₂_same.mpr fun row _ => .same row, rfl, ?_, rfl, owners⟩
  refine Table.forall₂_update (fun row _ => .same row) fun row present taken => ?_
  have live := of_mem_map_id keyed.deliveries present (of_decide_eq_true taken)
  simp only [decide_eq_true_eq] at live
  refine .moved row .review row.turnId _ ?_ (by decide) (Or.inr rfl) (Or.inl rfl)
  rcases live with claimed | running
  · simp [claimed, Lifecycle.edges]
  · simp [running, Lifecycle.edges]

theorem settleInterrupted_applied (keyed : store.Keyed)
    (settled : store.settleInterrupted limit now = .ok (next, count)) :
    store.Applied (.settleInterrupted limit now) next := by
  rcases settleInterrupted_ok keyed settled with ⟨_, owners, rfl⟩
  refine .updated _ _ ⟨rfl, forall₂_same.mpr fun row _ => .same row, ?_, rfl, ?_, rfl, owners⟩
  · refine Table.forall₂_update (fun row _ => .same row) fun row _ failing => ?_
    simp only [failedBy, decide_eq_true_eq] at failing
    exact .interrupted row limit now rfl failing.1
  · refine Table.forall₂_update (fun row _ => .same row) fun row present taken => ?_
    have review := of_mem_map_id keyed.deliveries present (of_decide_eq_true taken)
    simp only [decide_eq_true_eq] at review
    exact .moved row .settled row.turnId _ (by simp [review, Lifecycle.edges]) (by decide)
      (Or.inr rfl) (Or.inl rfl)

theorem foldl_updateRequests {rows : List Request} {change : Request → Request}
    (keeps : ∀ request, (change request).id = request.id) (distinct : (rows.map (·.id)).Nodup) :
    rows.foldl (fun store row => store.updateRequests (·.id = row.id) change) store =
      { store with
        requests := Table.update (fun row => row.id ∈ rows.map (·.id)) change store.requests } := by
  induction rows generalizing store with
  | nil =>
    have untouched : Table.update (fun row => row.id ∈ ([] : List Request).map (·.id)) change
        store.requests = store.requests := Table.update_eq_self (by simp)
    rw [foldl_nil, untouched]
  | cons row rows ih =>
    rw [map_cons, nodup_cons] at distinct
    rw [foldl_cons, ih distinct.2]
    simp only [updateRequests]
    rw [Table.update_update fun other same => by simp_all]
    congr 1
    exact Table.update_congr fun other _ => by simp

theorem reconcileStoppedRequests_applied (keyed : store.Keyed)
    {scan : List Request} (visits : scan.Perm store.requests)
    (reconciled : store.reconcileStoppedRequests limit scan now = .ok (next, count)) :
    store.Applied operation next := by
  simp only [reconcileStoppedRequests, bind_eq_ok_iff, pure_eq_ok_iff, Prod.mk.injEq] at reconciled
  rcases reconciled with ⟨_, _, rfl, _⟩
  have scanned : (scan.map (·.id)).Nodup := (visits.map _).nodup_iff.mpr keyed.requests
  have distinct : (((scan.filter store.isStopped).take limit.toNat).map (·.id)).Nodup :=
    scanned.sublist (((take_sublist _ _).trans filter_sublist).map _)
  have keeps : ∀ request : Request, (request.advance .cancelled now).id = request.id :=
    fun _ => rfl
  rw [foldl_updateRequests keeps distinct]
  refine .updated operation _ ⟨rfl, forall₂_same.mpr fun row _ => .same row, ?_, rfl,
    forall₂_same.mpr fun row _ => .same row, rfl, id⟩
  refine Table.forall₂_update (fun row _ => .same row) fun row present taken => ?_
  have stopped : store.isStopped row = true := of_mem_map_id scanned
    (visits.mem_iff.mpr present) (of_decide_eq_true taken)
  simp only [isStopped, decide_eq_true_eq] at stopped
  exact .cancelled row now stopped.1

/-- Every successful operation does one of the listed things. -/
theorem applied_of_apply (keyed : store.Keyed) (admitted : store.Admits operation)
    (applied : store.apply operation = .ok next) : store.Applied operation next := by
  cases operation with
  | linkResumedTurn deliveryId recipient turnId => exact linkResumedTurn_applied keyed applied
  | beginScope source workId fresh =>
    simp only [apply, bind_eq_ok_iff, pure_eq_ok_iff] at applied
    rcases applied with ⟨⟨after, result⟩, done, rfl⟩
    exact beginScope_applied _ done
  | restrictScope scopeId actor state expectedVersion now =>
    simp only [apply, bind_eq_ok_iff, pure_eq_ok_iff] at applied
    rcases applied with ⟨⟨after, result⟩, done, rfl⟩
    exact restrictScope_applied keyed done
  | controlRequest requestId source expectedVersion receiveOnly now =>
    simp only [apply, bind_eq_ok_iff, pure_eq_ok_iff] at applied
    rcases applied with ⟨⟨after, result⟩, done, rfl⟩
    exact controlRequest_applied keyed done
  | createRequest scopeId source target operationKey body anchorTurnId requestId messageId
      deliveryId now =>
      simp only [apply, bind_eq_ok_iff, pure_eq_ok_iff] at applied
      rcases applied with ⟨⟨after, result⟩, done, rfl⟩
      exact createRequest_applied done
  | postMessage requestId actor kind body operationKey anchorTurnId messageId deliveryId now =>
    simp only [apply, bind_eq_ok_iff, pure_eq_ok_iff] at applied
    rcases applied with ⟨⟨after, result⟩, done, rfl⟩
    exact postMessage_applied done
  | failRequest requestId actor expectedVersion now =>
    simp only [apply, bind_eq_ok_iff, pure_eq_ok_iff] at applied
    rcases applied with ⟨⟨after, result⟩, done, rfl⟩
    exact failRequest_applied keyed done
  | claimNext recipient =>
    simp only [apply, bind_eq_ok_iff, pure_eq_ok_iff] at applied
    rcases applied with ⟨⟨after, result⟩, done, rfl⟩
    exact claimNext_applied keyed done
  | transitionDelivery deliveryId recipient state expectedVersion turnId reason now =>
    simp only [apply, bind_eq_ok_iff, pure_eq_ok_iff] at applied
    rcases applied with ⟨⟨after, result⟩, done, rfl⟩
    exact transitionDelivery_applied keyed (decide_eq_true rfl) done
  | abandonClaim deliveryId recipient expectedVersion reason now =>
    simp only [apply, abandonClaim, bind_eq_ok_iff, pure_eq_ok_iff] at applied
    rcases applied with ⟨⟨after, result⟩, ⟨_, _, done⟩, rfl⟩
    exact transitionDelivery_applied keyed (decide_eq_true rfl) done
  | resolveUncertain deliveryId recipient expectedVersion reason now =>
    simp only [apply, resolveUncertain, bind_eq_ok_iff, pure_eq_ok_iff] at applied
    rcases applied with ⟨⟨after, result⟩, ⟨_, _, done⟩, rfl⟩
    exact transitionDelivery_applied keyed (decide_eq_true rfl) done
  | recoverUncertain limit =>
    simp only [apply, bind_eq_ok_iff, pure_eq_ok_iff] at applied
    rcases applied with ⟨⟨after, result⟩, done, rfl⟩
    exact recoverUncertain_applied keyed done
  | settleInterrupted limit now =>
    simp only [apply, bind_eq_ok_iff, pure_eq_ok_iff] at applied
    rcases applied with ⟨⟨after, result⟩, done, rfl⟩
    exact settleInterrupted_applied keyed done
  | reconcileStoppedRequests limit scan now =>
    simp only [apply, bind_eq_ok_iff, pure_eq_ok_iff] at applied
    rcases applied with ⟨⟨after, result⟩, done, rfl⟩
    exact reconcileStoppedRequests_applied keyed admitted done

end

end Synapse.Collaboration.CollaborationStore
