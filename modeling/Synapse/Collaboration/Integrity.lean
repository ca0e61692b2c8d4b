import Synapse.Collaboration.Effects
import Synapse.Foundation.RetainedLog

/-!
# Referential integrity

Some columns are written once: identifiers, participants, keys and numbers. They
are the skeleton of the store. An operation leaves the skeleton as it is, or adds
a scope, or a request with its first message, or a message with its delivery.
`Sound` states what holds of every skeleton so built: identifiers and operation
keys are unique, each message has exactly one delivery, and each row refers to
rows that exist and agree with it.
-/

namespace Synapse.Collaboration

open List

structure ScopeIdentity where
  id : Text
  source : SessionRef

structure RequestIdentity where
  id : Text
  scopeId : Text
  source : SessionRef
  target : SessionRef
  operationKey : Text
  body : Text
  anchorTurnId : Text

structure DeliveryIdentity where
  id : Text
  messageId : Text
  requestId : Text
  recipient : SessionRef
  scopeId : Text
  sequence : ℕ

def ContinuationScope.identity (scope : ContinuationScope) : ScopeIdentity :=
  ⟨scope.id, scope.source⟩

def Request.identity (request : Request) : RequestIdentity :=
  ⟨request.id, request.scopeId, request.source, request.target, request.operationKey,
    request.body, request.anchorTurnId⟩

def Delivery.identity (delivery : Delivery) : DeliveryIdentity :=
  ⟨delivery.id, delivery.messageId, delivery.requestId, delivery.recipient, delivery.scopeId,
    delivery.sequence⟩

/-- The columns of the store that are written once. -/
structure Skeleton where
  scopes : List ScopeIdentity
  requests : List RequestIdentity
  messages : List Message
  deliveries : List DeliveryIdentity
  deliverySequence : ℕ

/-- The source's messages go to the target, and the target's to the source. -/
def MessageKind.fromSource : MessageKind → Bool
  | .request | .supplement => true
  | _ => false

namespace Skeleton

def sender (request : RequestIdentity) (kind : MessageKind) : SessionRef :=
  if kind.fromSource then request.source else request.target

def recipient (request : RequestIdentity) (kind : MessageKind) : SessionRef :=
  if kind.fromSource then request.target else request.source

structure Sound (skeleton : Skeleton) : Prop where
  scopeIds : (skeleton.scopes.map (·.id)).Nodup
  requestIds : (skeleton.requests.map (·.id)).Nodup
  messageIds : (skeleton.messages.map (·.id)).Nodup
  deliveryIds : (skeleton.deliveries.map (·.id)).Nodup
  requestKeys : (skeleton.requests.map fun row => (row.scopeId, row.operationKey)).Nodup
  messageKeys :
    (skeleton.messages.map fun row => (row.requestId, row.sender, row.operationKey)).Nodup
  scopeNames : ∀ scope ∈ skeleton.scopes, boundedText scope.id maxIdBytes = .ok ()
  requestNames : ∀ request ∈ skeleton.requests, boundedText request.id maxIdBytes = .ok ()
  deliveryNames : ∀ delivery ∈ skeleton.deliveries, boundedText delivery.id maxIdBytes = .ok ()
  participants : ∀ request ∈ skeleton.requests, request.source ≠ request.target ∧
    validateRef request.source = .ok () ∧ validateRef request.target = .ok ()
  scopeOf : ∀ request ∈ skeleton.requests, ∃ scope ∈ skeleton.scopes,
    scope.id = request.scopeId ∧ scope.source = request.source
  requestOf : ∀ message ∈ skeleton.messages, ∃ request ∈ skeleton.requests,
    request.id = message.requestId ∧ message.sender = sender request message.kind
  messageOf : ∀ delivery ∈ skeleton.deliveries, ∃ message ∈ skeleton.messages,
    ∃ request ∈ skeleton.requests, message.id = delivery.messageId ∧
      message.requestId = delivery.requestId ∧ request.id = delivery.requestId ∧
      request.scopeId = delivery.scopeId ∧ delivery.recipient = recipient request message.kind
  carried : skeleton.deliveries.map (·.messageId) = skeleton.messages.map (·.id)
  sequences : Numbered (·.sequence) skeleton.deliveries
  deliverySequence : skeleton.deliverySequence = skeleton.deliveries.length
  numbers : ∀ requestId : Text,
    Numbered (·.sequence) (skeleton.messages.filter fun row => row.requestId = requestId)

/-- A skeleton with one message and its delivery added. -/
def withMessage (skeleton : Skeleton) (message : Message) (delivery : DeliveryIdentity) :
    Skeleton :=
  { skeleton with
    messages := skeleton.messages ++ [message]
    deliveries := skeleton.deliveries ++ [delivery]
    deliverySequence := skeleton.deliverySequence + 1 }

/-- A message with its delivery that a request of the skeleton may get. -/
structure Fits (skeleton : Skeleton) (request : RequestIdentity) (message : Message)
    (delivery : DeliveryIdentity) : Prop where
  messageFresh : ∀ row ∈ skeleton.messages, row.id ≠ message.id
  keyFresh : ∀ row ∈ skeleton.messages, row.requestId = message.requestId →
    row.sender = message.sender → row.operationKey ≠ message.operationKey
  deliveryFresh : ∀ row ∈ skeleton.deliveries, row.id ≠ delivery.id
  named : boundedText delivery.id maxIdBytes = .ok ()
  requestId : message.requestId = request.id
  sent : message.sender = sender request message.kind
  numbered : message.sequence =
    (skeleton.messages.filter fun row => row.requestId = request.id).length + 1
  carries : delivery.messageId = message.id ∧ delivery.requestId = request.id ∧
    delivery.scopeId = request.scopeId
  addressed : delivery.recipient = recipient request message.kind
  sequence : delivery.sequence = skeleton.deliverySequence + 1

theorem nodup_map_append {Row : Type} {Column : Type} {column : Row → Column} {rows : List Row}
    {row : Row} (distinct : (rows.map column).Nodup)
    (fresh : ∀ other ∈ rows, column other ≠ column row) : ((rows ++ [row]).map column).Nodup := by
  rw [map_append, nodup_append]
  refine ⟨distinct, by simp, ?_⟩
  rintro value present other single
  obtain rfl := mem_singleton.mp single
  rcases mem_map.mp present with ⟨found, foundMem, rfl⟩
  exact fresh found foundMem

variable {request : RequestIdentity}

theorem Sound.withMessage {skeleton : Skeleton} (sound : skeleton.Sound)
    (present : request ∈ skeleton.requests) {message : Message}
    {delivery : DeliveryIdentity} (fits : skeleton.Fits request message delivery) :
    (skeleton.withMessage message delivery).Sound := by
  constructor <;> simp only [Skeleton.withMessage]
  · exact sound.scopeIds
  · exact sound.requestIds
  · exact nodup_map_append sound.messageIds fits.messageFresh
  · exact nodup_map_append sound.deliveryIds fits.deliveryFresh
  · exact sound.requestKeys
  · refine nodup_map_append sound.messageKeys fun other otherMem same => ?_
    simp only [Prod.mk.injEq] at same
    exact fits.keyFresh other otherMem same.1 same.2.1 same.2.2
  · exact sound.scopeNames
  · exact sound.requestNames
  · intro row rowMem
    rcases mem_append.mp rowMem with old | new
    · exact sound.deliveryNames row old
    · obtain rfl := mem_singleton.mp new
      exact fits.named
  · exact sound.participants
  · exact sound.scopeOf
  · intro row rowMem
    rcases mem_append.mp rowMem with old | new
    · exact sound.requestOf row old
    · obtain rfl := mem_singleton.mp new
      exact ⟨request, present, fits.requestId.symm, fits.sent⟩
  · intro row rowMem
    rcases mem_append.mp rowMem with old | new
    · rcases sound.messageOf row old with ⟨found, foundMem, rest⟩
      exact ⟨found, mem_append_left _ foundMem, rest⟩
    · obtain rfl := mem_singleton.mp new
      rcases fits.carries with ⟨messageId, requestId, scopeId⟩
      exact ⟨message, by simp, request, present, messageId.symm,
        fits.requestId.trans requestId.symm, requestId.symm, scopeId.symm, fits.addressed⟩
  · rw [map_append, map_append, sound.carried]
    simp [fits.carries.1]
  · exact sound.sequences.append_singleton (by rw [fits.sequence, sound.deliverySequence])
  · rw [sound.deliverySequence, length_append, length_singleton]
  · intro requestId
    rw [filter_append]
    by_cases same : message.requestId = requestId
    · have alone : [message].filter (fun row => row.requestId = requestId) = [message] := by
        simp [same]
      rw [alone]
      refine (sound.numbers requestId).append_singleton ?_
      rw [fits.numbered, ← fits.requestId, same]
    · have none : [message].filter (fun row => row.requestId = requestId) = [] := by simp [same]
      rw [none, append_nil]
      exact sound.numbers requestId

theorem Sound.withScope {skeleton : Skeleton} (sound : skeleton.Sound) {scope : ScopeIdentity}
    (fresh : ∀ row ∈ skeleton.scopes, row.id ≠ scope.id)
    (named : boundedText scope.id maxIdBytes = .ok ()) :
    { skeleton with scopes := skeleton.scopes ++ [scope] }.Sound := by
  refine { sound with
    scopeIds := nodup_map_append sound.scopeIds fresh
    scopeNames := ?_
    scopeOf := ?_ }
  · intro row rowMem
    rcases mem_append.mp rowMem with old | new
    · exact sound.scopeNames row old
    · obtain rfl := mem_singleton.mp new
      exact named
  · intro request requestMem
    rcases sound.scopeOf request requestMem with ⟨found, foundMem, rest⟩
    exact ⟨found, mem_append_left _ foundMem, rest⟩

theorem Sound.withRequest {skeleton : Skeleton} (sound : skeleton.Sound)
    (fresh : ∀ row ∈ skeleton.requests, row.id ≠ request.id)
    (keyFresh : ∀ row ∈ skeleton.requests, row.scopeId = request.scopeId →
      row.operationKey ≠ request.operationKey)
    (named : boundedText request.id maxIdBytes = .ok ())
    (participants : request.source ≠ request.target ∧
      validateRef request.source = .ok () ∧ validateRef request.target = .ok ())
    (scopeOf : ∃ scope ∈ skeleton.scopes, scope.id = request.scopeId ∧
      scope.source = request.source) :
    { skeleton with requests := skeleton.requests ++ [request] }.Sound := by
  have each : ∀ {property : RequestIdentity → Prop},
      (∀ row ∈ skeleton.requests, property row) → property request →
      ∀ row ∈ skeleton.requests ++ [request], property row := by
    intro property old new row rowMem
    rcases mem_append.mp rowMem with rowMem | rowMem
    · exact old row rowMem
    · exact mem_singleton.mp rowMem ▸ new
  refine { sound with
    requestIds := nodup_map_append sound.requestIds fresh
    requestKeys := nodup_map_append sound.requestKeys fun row rowMem same => ?_
    requestNames := each sound.requestNames named
    participants := each sound.participants participants
    scopeOf := each sound.scopeOf scopeOf
    requestOf := fun message messageMem => ?_
    messageOf := fun delivery deliveryMem => ?_ }
  · simp only [Prod.mk.injEq] at same
    exact keyFresh row rowMem same.1 same.2
  · rcases sound.requestOf message messageMem with ⟨found, foundMem, rest⟩
    exact ⟨found, mem_append_left _ foundMem, rest⟩
  · rcases sound.messageOf delivery deliveryMem with ⟨message, messageMem, found, foundMem, rest⟩
    exact ⟨message, messageMem, found, mem_append_left _ foundMem, rest⟩

end Skeleton

namespace CollaborationStore

def skeleton (store : CollaborationStore) : Skeleton where
  scopes := store.scopes.map ContinuationScope.identity
  requests := store.requests.map Request.identity
  messages := store.messages
  deliveries := store.deliveries.map Delivery.identity
  deliverySequence := store.deliverySequence

/-! ### The skeleton under the operations -/

theorem ScopeStep.identity {scope later : ContinuationScope} (step : ScopeStep scope later) :
    later.identity = scope.identity := by
  cases step <;> rfl

variable {operation : StoreOperation}

theorem RequestStep.identity {request later : Request}
    (step : RequestStep operation request later) : later.identity = request.identity := by
  cases step <;> rfl

variable {store : CollaborationStore}

theorem DeliveryStep.identity
    {delivery later : Delivery} (step : DeliveryStep store operation delivery later) : later.identity = delivery.identity := by
  cases step <;> rfl

theorem Updated.skeleton {next : CollaborationStore}
    (updated : store.Updated operation next) : next.skeleton = store.skeleton := by
  have scopes : next.scopes.map ContinuationScope.identity =
      store.scopes.map ContinuationScope.identity :=
    Table.map_eq_of_forall₂ ScopeStep.identity updated.scopes
  have requests : next.requests.map Request.identity = store.requests.map Request.identity :=
    Table.map_eq_of_forall₂ RequestStep.identity updated.requests
  have deliveries : next.deliveries.map Delivery.identity =
      store.deliveries.map Delivery.identity :=
    Table.map_eq_of_forall₂ DeliveryStep.identity updated.deliveries
  simp only [CollaborationStore.skeleton, scopes, requests, deliveries, updated.messages,
    updated.deliverySequence]

/-- A message that may be appended fits the skeleton. -/
theorem Appendable.fits {request : Request} {sender : SessionRef}
    {kind : MessageKind} {message : Message} {delivery : Delivery}
    (appendable : store.Appendable request sender kind message delivery)
    (apart : request.source ≠ request.target)
    (role : sender = Skeleton.sender request.identity kind) :
    store.skeleton.Fits request.identity message delivery.identity := by
  rcases appendable.sent with ⟨sent, rfl⟩
  refine { appendable with deliveryFresh := ?_, sent := sent.trans role, numbered := ?_, addressed := ?_ }
  · simp only [CollaborationStore.skeleton, mem_map, forall_exists_index, and_imp,
      forall_apply_eq_imp_iff₂]
    exact appendable.deliveryFresh
  · rw [appendable.numbered, messageCount, countP_eq_length_filter]
    rfl
  · change delivery.recipient = _
    rw [appendable.addressed, role]
    simp only [Skeleton.sender, Skeleton.recipient, Request.identity]
    by_cases own : message.kind.fromSource = true <;> simp [own, apart.symm]

theorem skeleton_added (store : CollaborationStore) (message : Message) (delivery : Delivery) :
    (store.added message delivery).skeleton =
      store.skeleton.withMessage message delivery.identity := by
  simp [added, CollaborationStore.skeleton, Skeleton.withMessage]

/-- An update that leaves the identities of requests alone leaves the skeleton alone. -/
theorem skeleton_updateRequests (store : CollaborationStore) (chosen : Request → Bool)
    {change : Request → Request} (keeps : ∀ request, (change request).identity = request.identity) :
    (store.updateRequests chosen change).skeleton = store.skeleton := by
  simp [updateRequests, CollaborationStore.skeleton, Table.map_update keeps]

end CollaborationStore

variable {store : CollaborationStore}

theorem Skeleton.Sound.apart (sound : store.skeleton.Sound)
    {request : Request} (present : request ∈ store.requests) : request.source ≠ request.target :=
  (sound.participants request.identity (mem_map_of_mem present)).1

theorem Skeleton.Sound.keyed (sound : store.skeleton.Sound) :
    store.Keyed := by
  have scopes := sound.scopeIds
  have requests := sound.requestIds
  have deliveries := sound.deliveryIds
  simp only [CollaborationStore.skeleton, map_map] at scopes requests deliveries
  exact ⟨scopes, requests, sound.messageIds, deliveries⟩

namespace CollaborationStore

variable {store : CollaborationStore} {operation : StoreOperation}

theorem skeleton_deliveries {deliveries : List Delivery}
    (stepped : List.Forall₂ (DeliveryStep store operation) store.deliveries deliveries) :
    { store with deliveries }.skeleton = store.skeleton := by
  have same : deliveries.map Delivery.identity = store.deliveries.map Delivery.identity :=
    Table.map_eq_of_forall₂ DeliveryStep.identity stepped
  simp only [CollaborationStore.skeleton, same]

theorem skeleton_withRequest (store : CollaborationStore) (request : Request) :
    { store with requests := store.requests ++ [request] }.skeleton =
      { store.skeleton with requests := store.skeleton.requests ++ [request.identity] } := by
  simp [CollaborationStore.skeleton]

/-- The skeleton after an operation: the same, or with rows added. -/
inductive Grown (skeleton : Skeleton) : Skeleton → Prop where
  | same : Grown skeleton skeleton
  | scope (scope : ScopeIdentity) (fresh : ∀ row ∈ skeleton.scopes, row.id ≠ scope.id)
      (named : boundedText scope.id maxIdBytes = .ok ()) :
      Grown skeleton { skeleton with scopes := skeleton.scopes ++ [scope] }
  | request (request : RequestIdentity) (message : Message) (delivery : DeliveryIdentity)
      (fresh : ∀ row ∈ skeleton.requests, row.id ≠ request.id)
      (keyFresh : ∀ row ∈ skeleton.requests, row.scopeId = request.scopeId →
        row.operationKey ≠ request.operationKey)
      (named : boundedText request.id maxIdBytes = .ok ())
      (participants : request.source ≠ request.target ∧
        validateRef request.source = .ok () ∧ validateRef request.target = .ok ())
      (scopeOf : ∃ scope ∈ skeleton.scopes, scope.id = request.scopeId ∧
        scope.source = request.source)
      (fits : { skeleton with requests := skeleton.requests ++ [request] }.Fits request message
        delivery) :
      Grown skeleton
        ({ skeleton with requests := skeleton.requests ++ [request] }.withMessage message delivery)
  | message (request : RequestIdentity) (message : Message) (delivery : DeliveryIdentity)
      (present : request ∈ skeleton.requests) (fits : skeleton.Fits request message delivery) :
      Grown skeleton (skeleton.withMessage message delivery)

theorem Applied.grown {next : CollaborationStore}
    (applied : store.Applied operation next) (sound : store.skeleton.Sound) :
    Grown store.skeleton next.skeleton := by
  cases applied with
  | updated next updated =>
    rw [updated.skeleton]
    exact .same
  | begun scope fresh named =>
    have freshIdentity : ∀ row ∈ store.skeleton.scopes, row.id ≠ scope.identity.id := by
      simpa [CollaborationStore.skeleton, ContinuationScope.identity] using fresh
    have step := Grown.scope scope.identity freshIdentity named
    simpa [CollaborationStore.skeleton] using step
  | created request message delivery scope inScope fresh keyFresh apart named valid initial
      appendable =>
      have fits := appendable.fits apart rfl
      rw [skeleton_withRequest] at fits
      rw [skeleton_added, skeleton_withRequest]
      refine .request request.identity message delivery.identity ?_ ?_ named ⟨apart, valid⟩
        ⟨scope.identity, mem_map_of_mem inScope.1, inScope.2⟩ fits
      · simpa [CollaborationStore.skeleton, Request.identity] using fresh
      · simpa [CollaborationStore.skeleton, Request.identity] using keyFresh
  | progressed request message delivery now present running appendable =>
    rw [skeleton_updateRequests, skeleton_added]
    · exact .message request.identity message delivery.identity (mem_map_of_mem present)
        (appendable.fits (sound.apart present) rfl)
    · exact fun _ => rfl
  | posted kind state deliveries request message delivery now present leads edge cancelled owners
      appendable =>
      have role : (if kind = MessageKind.supplement then request.source else request.target) =
          Skeleton.sender request.identity kind := by
        cases kind <;> simp [Skeleton.sender, MessageKind.fromSource, nextState,
          Request.identity] at leads ⊢
      have fits := appendable.fits (sound.apart present) role
      rw [skeleton_deliveries cancelled] at fits
      rw [skeleton_updateRequests, skeleton_added, skeleton_deliveries cancelled]
      · exact .message request.identity message delivery.identity (mem_map_of_mem present) fits
      · exact fun _ => rfl
  | started delivery request scope message turnId reason now cause present claimed requested fenced
      permitted carried fits owners =>
      have unchanged : Grown store.skeleton store.skeleton := .same
      have requests : ∀ row : Request, (row.advance .working now).identity = row.identity :=
        fun _ => rfl
      have deliveries : ∀ row : Delivery,
          (row.start (some turnId) reason).identity = row.identity := fun _ => rfl
      simp only [CollaborationStore.skeleton, Table.map_update deliveries]
      split
      · simpa [CollaborationStore.skeleton, Table.map_update requests] using unchanged
      · exact unchanged

theorem Grown.sound {skeleton next : Skeleton} (grown : Grown skeleton next)
    (sound : skeleton.Sound) : next.Sound := by
  cases grown with
  | same => exact sound
  | scope scope fresh named => exact sound.withScope fresh named
  | request request message delivery fresh keyFresh named participants scopeOf fits =>
    exact (sound.withRequest fresh keyFresh named participants scopeOf).withMessage (by simp) fits
  | message request message delivery present fits => exact sound.withMessage present fits

/-! ### Reading rows back -/

theorem readScope_of_mem (sound : store.skeleton.Sound)
    {scope : ContinuationScope} (present : scope ∈ store.scopes) :
    store.readScope scope.id = .ok scope := by
  have valid := sound.scopeNames scope.identity (mem_map_of_mem present)
  change boundedText scope.id maxIdBytes = .ok () at valid
  simp only [readScope, valid, ok_bind, Table.find?_eq_some sound.keyed.scopes present, orRaise]

theorem readRequest_of_mem (sound : store.skeleton.Sound)
    {request : Request} (present : request ∈ store.requests) {actor : SessionRef}
    (participates : actor = request.source ∨ actor = request.target) :
    store.readRequest request.id actor = .ok request := by
  have valid := sound.requestNames request.identity (mem_map_of_mem present)
  have participants := (sound.participants request.identity (mem_map_of_mem present)).2
  change boundedText request.id maxIdBytes = .ok () at valid
  have validActor : validateRef actor = .ok () := by
    rcases participates with rfl | rfl
    · exact participants.1
    · exact participants.2
  have member : ¬(actor ≠ request.source ∧ actor ≠ request.target) := by tauto
  simp only [readRequest, valid, validActor, ok_bind,
    Table.find?_eq_some sound.keyed.requests present, orRaise, raiseIf_of_not _ member]
  rfl

/-! ### Runs -/

theorem skeleton_empty (maxPending : ℕ) : (empty maxPending).skeleton.Sound := by
  constructor <;> simp [empty, skeleton, Numbered]

/-- A step either does nothing or one of the listed things. -/
theorem applied_of_step {next : CollaborationStore}
    (sound : store.skeleton.Sound) (stepped : machine.step store operation = some next) :
    store.Applied operation next := by
  rcases step_cases stepped with ⟨admitted, applied | rfl⟩
  · exact applied_of_apply sound.keyed admitted applied
  · exact .updated operation next (Updated.refl next operation)

theorem sound_of_step {next : CollaborationStore}
    (sound : store.skeleton.Sound) (stepped : machine.step store operation = some next) :
    next.skeleton.Sound :=
  ((applied_of_step sound stepped).grown sound).sound sound

theorem sound_of_run {final : CollaborationStore} {operations : List StoreOperation}
    (sound : store.skeleton.Sound) (ran : machine.run store operations = some final) :
    final.skeleton.Sound := by
  have preserved : ∀ {state : CollaborationStore} {operation : StoreOperation}
      {next : CollaborationStore}, state.skeleton.Sound →
      machine.step state operation = some next → next.skeleton.Sound := fun sound stepped =>
    sound_of_step sound stepped
  exact Machine.run_invariant preserved sound ran

end CollaborationStore

end Synapse.Collaboration
