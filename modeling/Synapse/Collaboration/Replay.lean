import Synapse.Collaboration.Mailbox

/-!
# Repeated calls

An operation key names one assignment of a scope, or one message of a sender.
A call that repeats the key and the content returns the record that is there; a
call that repeats the key with other content fails. A reply is never refused for
want of a slot.
-/

namespace Synapse.Collaboration.CollaborationStore

open List

variable {store next final : CollaborationStore} {operation : StoreOperation}

/-! ### The errors of the parts -/

section

variable {allowed : CollaborationError → Prop}

theorem boundedText_raises (invalid : ∀ message, allowed (.invalid message)) (value : Text)
    (maximum : ℕ) : Raises allowed (boundedText value maximum) := by
  refine Raises.bind (raises_raiseIf fun _ => invalid _) fun _ _ => ?_
  refine Raises.bind (raises_raiseIf fun _ => invalid _) fun _ _ => ?_
  refine Raises.bind (raises_orRaise (invalid _)) fun size _ => ?_
  exact raises_raiseIf fun _ => invalid _

theorem optionalText_raises (invalid : ∀ message, allowed (.invalid message)) (value : Text) :
    Raises allowed (optionalText value) := by
  simp only [optionalText]
  split
  · exact raises_pure _
  · exact boundedText_raises invalid value maxIdBytes

theorem validateRef_raises (invalid : ∀ message, allowed (.invalid message)) (ref : SessionRef) :
    Raises allowed (validateRef ref) := by
  refine Raises.bind (boundedText_raises invalid _ _) fun _ _ => ?_
  exact boundedText_raises invalid _ _

theorem readScope_raises (invalid : ∀ message, allowed (.invalid message))
    (notFound : ∀ message, allowed (.notFound message)) (scopeId : Text) :
    Raises allowed (store.readScope scopeId) := by
  refine Raises.bind (boundedText_raises invalid _ _) fun _ _ => ?_
  exact raises_orRaise (notFound _)

theorem readRequest_raises (invalid : ∀ message, allowed (.invalid message))
    (notFound : ∀ message, allowed (.notFound message)) (requestId : Text) (actor : SessionRef) :
    Raises allowed (store.readRequest requestId actor) := by
  refine Raises.bind (boundedText_raises invalid _ _) fun _ _ => ?_
  refine Raises.bind (validateRef_raises invalid _) fun _ _ => ?_
  refine Raises.bind (raises_orRaise (notFound _)) fun request _ => ?_
  refine Raises.bind (raises_raiseIf fun _ => notFound _) fun _ _ => ?_
  exact raises_pure _

theorem updateDeliveries_raises (integrity : allowed .integrity) (chosen : Delivery → Bool)
    (change : Delivery → Delivery) : Raises allowed (store.updateDeliveries chosen change) := by
  refine Raises.bind (raises_raiseIf fun _ => integrity) fun _ _ => ?_
  exact raises_pure _

end

/-! ### The reply slot -/

/-- With a slot left, a reply is not refused for want of one. -/
theorem append_reply_raises {request : Request}
    (room : store.messageCount request.id < maxMessages) (sender : SessionRef)
    (body operationKey anchorTurnId : Text) (messageId deliveryId : FreshId) (now : ℤ) :
    Raises (· ≠ .capacity "request message limit reached")
      (store.append request sender .reply body operationKey anchorTurnId messageId deliveryId
        now) := by
  unfold append
  refine Raises.bind (raises_raiseIf ?_) fun _ _ => ?_
  · intro full
    simp only [messageCount, if_true] at room full
    omega
  refine Raises.bind (readScope_raises (by simp) (by simp) _) fun scope _ => ?_
  refine Raises.bind (raises_raiseIf (by simp)) fun _ _ => ?_
  refine Raises.bind ?_ fun _ _ => ?_
  · refine Raises.bind (raises_raiseIf (by simp)) fun _ _ => ?_
    exact raises_pure _
  refine Raises.bind ?_ fun _ _ => ?_
  · refine Raises.bind (raises_raiseIf (by simp)) fun _ _ => ?_
    exact raises_pure _
  exact raises_pure _

theorem postMessage_reply_raises
    (left : ∀ request ∈ store.requests, store.SlotLeft request) (requestId : Text)
    (actor : SessionRef) (body operationKey anchorTurnId : Text) (messageId deliveryId : FreshId)
    (now : ℤ) :
    Raises (· ≠ .capacity "request message limit reached")
      (store.postMessage requestId actor .reply body operationKey anchorTurnId messageId deliveryId
        now) := by
  unfold postMessage
  refine Raises.bind (raises_raiseIf (by simp)) fun _ _ => ?_
  refine Raises.bind (boundedText_raises (by simp) _ _) fun _ _ => ?_
  refine Raises.bind (boundedText_raises (by simp) _ _) fun _ _ => ?_
  refine Raises.bind (optionalText_raises (by simp) _) fun _ _ => ?_
  refine Raises.bind (readRequest_raises (by simp) (by simp) _ _) fun request read => ?_
  refine Raises.bind (raises_raiseIf (by simp)) fun _ _ => ?_
  split
  · refine Raises.bind (raises_raiseIf (by simp)) fun _ _ => ?_
    exact raises_pure _
  · simp only [nextState]
    refine Raises.bind (raises_pure _) fun _ _ => ?_
    refine Raises.bind (raises_raiseIf (by simp)) fun _ checked => ?_
    refine Raises.bind (updateDeliveries_raises (by simp) _ _) fun swept cancelled => ?_
    refine Raises.bind ?_ fun _ _ => ?_
    · apply append_reply_raises
      -- A request that may be replied to has not been replied to, so its last slot is free.
      have edge := mem_edges_of_checkTransition checked
      rcases updateDeliveries_ok cancelled with ⟨_, rfl⟩
      rcases left request (readRequest_ok read).1 with room | ⟨replied, _⟩
      · exact room
      · rw [replied] at edge
        cases edge
    · exact raises_pure _

/-! ### Assignments -/

/-- The assignment that a call of `create_request` asks for is on record. -/
structure Assigned (store : CollaborationStore) (scopeId : Text) (source target : SessionRef)
    (operationKey body anchorTurnId : Text) (request : Request) : Prop where
  participants : validateRef source = .ok () ∧ validateRef target = .ok () ∧ source ≠ target
  texts : boundedText operationKey maxIdBytes = .ok () ∧ boundedText body maxBodyBytes = .ok () ∧
    optionalText anchorTurnId = .ok ()
  scope : ∃ scope ∈ store.scopes, scope.id = scopeId ∧ scope.source = source
  present : request ∈ store.requests
  keyed : request.scopeId = scopeId ∧ request.operationKey = operationKey
  content : request.target = target ∧ request.body = body ∧ request.anchorTurnId = anchorTurnId

section

variable {scopeId : Text} {source target : SessionRef} {operationKey body anchorTurnId : Text}
  {requestId messageId deliveryId : FreshId} {now : ℤ} {request : Request}

theorem createRequest_assigned
    (created : store.createRequest scopeId source target operationKey body anchorTurnId requestId
      messageId deliveryId now = .ok (next, request)) :
    next.Assigned scopeId source target operationKey body anchorTurnId request := by
  simp only [createRequest, bind_eq_ok_iff, raiseIf_eq_ok_iff, exists_const] at created
  rcases created with ⟨_, validSource, _, validTarget, apart, _, validKey, _, validBody, _,
    validAnchor, scope, read, owned, created⟩
  rcases readScope_ok read with ⟨scopePresent, rfl⟩
  simp only [ne_eq, not_not] at owned
  split at created
  case h_1 existing found =>
    simp only [bind_eq_ok_iff, raiseIf_eq_ok_iff, exists_const, pure_eq_ok_iff, Prod.mk.injEq,
      not_not] at created
    rcases created with ⟨content, rfl, rfl⟩
    have keyed := find?_some found
    simp only [decide_eq_true_eq] at keyed
    exact ⟨⟨validSource, validTarget, apart⟩, ⟨validKey, validBody, validAnchor⟩,
      ⟨scope, scopePresent, rfl, owned⟩, mem_of_find?_eq_some found, keyed, content⟩
  case h_2 absent =>
    simp only [insertRequest, bind_eq_ok_iff, raiseIf_eq_ok_iff, exists_const, pure_eq_ok_iff,
      Prod.mk.injEq] at created
    rcases created with ⟨_, _, ⟨unique, rfl⟩, inserted, read, ⟨after, message⟩, appended, rfl, rfl⟩
    rcases readRequest_ok read with ⟨insertedPresent, insertedId, _⟩
    rcases append_ok appended with ⟨_, _, _, delivery, _, rfl⟩
    have new : inserted ∉ store.requests :=
      fun old => unique ⟨inserted, old, Or.inl insertedId⟩
    rcases mem_append.mp insertedPresent with old | single
    · exact absurd old new
    · refine ⟨⟨validSource, validTarget, apart⟩, ⟨validKey, validBody, validAnchor⟩,
        ⟨scope, scopePresent, rfl, owned⟩, insertedPresent, ?_, ?_⟩
      · rw [mem_singleton.mp single]
        exact ⟨rfl, rfl⟩
      · rw [mem_singleton.mp single]
        exact ⟨rfl, rfl, rfl⟩

theorem Assigned.of_run
    (assigned : store.Assigned scopeId source target operationKey body anchorTurnId request)
    (sound : store.skeleton.Sound) {operations : List StoreOperation}
    (ran : machine.run store operations = some final) :
    ∃ later, later.identity = request.identity ∧
      final.Assigned scopeId source target operationKey body anchorTurnId later := by
  have kept : ∃ later ∈ final.requests, later.identity = request.identity ∧ True := by
    apply request_kept (fun _ => True) _ sound ran assigned.present trivial
    intro _ _ _ _ _
    trivial
  rcases kept with ⟨later, laterPresent, identity, _⟩
  rcases assigned.scope with ⟨scope, scopePresent, rfl, owned⟩
  have scopeKept : ∃ row ∈ final.scopes, row.id = scope.id ∧ row.source = source := by
    apply scope_kept (fun row => row.source = source) _ sound ran scopePresent owned
    intro earlier row step same
    exact (congrArg ScopeIdentity.source step.identity).trans same
  refine ⟨later, identity, assigned.participants, assigned.texts, scopeKept, laterPresent, ?_, ?_⟩
  · exact ⟨(congrArg RequestIdentity.scopeId identity).trans assigned.keyed.1,
      (congrArg RequestIdentity.operationKey identity).trans assigned.keyed.2⟩
  · exact ⟨(congrArg RequestIdentity.target identity).trans assigned.content.1,
      (congrArg RequestIdentity.body identity).trans assigned.content.2.1,
      (congrArg RequestIdentity.anchorTurnId identity).trans assigned.content.2.2⟩

theorem find?_assigned (sound : store.skeleton.Sound) (present : request ∈ store.requests) :
    (store.requests.find? fun row =>
      row.scopeId = request.scopeId ∧ row.operationKey = request.operationKey) = some request := by
  have distinct : (store.requests.map fun row => (row.scopeId, row.operationKey)).Nodup := by
    have keys := sound.requestKeys
    simpa only [skeleton, map_map, Function.comp_def, Request.identity] using keys
  simpa only [Prod.mk.injEq] using Table.find?_eq_some distinct present

/-- A repeated call returns the assignment that is on record. -/
theorem Assigned.replay
    (assigned : store.Assigned scopeId source target operationKey body anchorTurnId request)
    (sound : store.skeleton.Sound) (requestId messageId deliveryId : FreshId) (now : ℤ) :
    store.createRequest scopeId source target operationKey body anchorTurnId requestId messageId
      deliveryId now = .ok (store, request) := by
  rcases assigned with ⟨⟨validSource, validTarget, apart⟩,
    ⟨validKey, validBody, validAnchor⟩, ⟨scope, scopePresent, rfl, rfl⟩, present,
    ⟨requestScope, rfl⟩, rfl, rfl, rfl⟩
  have found := find?_assigned sound present
  rw [requestScope] at found
  simp only [createRequest, validSource, validTarget, validKey, validBody, validAnchor, ok_bind,
    raiseIf_of_not _ apart, readScope_of_mem sound scopePresent, found]
  rw [raiseIf_of_not _ (by simp), raiseIf_of_not _ (by simp)]
  rfl

/-- A call that succeeds with the key of an assignment has its content. -/
theorem Assigned.content_eq
    (assigned : store.Assigned scopeId source target operationKey body anchorTurnId request)
    (sound : store.skeleton.Sound) {actor other : SessionRef} {text anchor : Text}
    {result : Request}
    (created : store.createRequest scopeId actor other operationKey text anchor requestId messageId
      deliveryId now = .ok (next, result)) :
    (other, text, anchor) = (target, body, anchorTurnId) := by
  rcases assigned with ⟨_, _, _, present, ⟨rfl, rfl⟩, rfl, rfl, rfl⟩
  simp only [createRequest, find?_assigned sound present, bind_eq_ok_iff, raiseIf_eq_ok_iff,
    exists_const, not_not] at created
  rcases created with ⟨_, _, _, _, _, _, _, _, _, _, _, _, _, _, content, _⟩
  rw [content.1, content.2.1, content.2.2]

end

/-! ### Messages -/

/-- The message that a call of `post_message` asks for is on record. -/
structure Posted (store : CollaborationStore) (requestId : Text) (actor : SessionRef)
    (kind : MessageKind) (body operationKey anchorTurnId : Text) (message : Message) : Prop where
  allowed : kind ≠ .request
  texts : boundedText body maxBodyBytes = .ok () ∧ boundedText operationKey maxIdBytes = .ok () ∧
    optionalText anchorTurnId = .ok ()
  request : ∃ request ∈ store.requests, request.id = requestId ∧
    actor = if kind = .supplement then request.source else request.target
  present : message ∈ store.messages
  keyed : message.requestId = requestId ∧ message.sender = actor ∧
    message.operationKey = operationKey
  content : message.kind = kind ∧ message.body = body ∧ message.anchorTurnId = anchorTurnId

section

variable {requestId : Text} {actor : SessionRef} {kind : MessageKind}
  {body operationKey anchorTurnId : Text} {messageId deliveryId : FreshId} {now : ℤ}
  {message : Message}

theorem postMessage_posted
    (posted : store.postMessage requestId actor kind body operationKey anchorTurnId messageId
      deliveryId now = .ok (next, message)) :
    next.Posted requestId actor kind body operationKey anchorTurnId message := by
  simp only [postMessage, bind_eq_ok_iff, raiseIf_eq_ok_iff, exists_const] at posted
  rcases posted with
    ⟨allowed, _, validBody, _, validKey, _, validAnchor, request, read, role, posted⟩
  rcases readRequest_ok read with ⟨present, rfl, _⟩
  simp only [ne_eq, not_not] at role
  -- Whatever is appended, the request keeps its participants.
  have appended : ∀ {middle after : CollaborationStore} {change : Request → Request},
      middle.requests = store.requests → (∀ row, (change row).identity = row.identity) →
      middle.append request actor kind body operationKey anchorTurnId messageId deliveryId now =
        .ok (after, message) →
      (after.updateRequests (·.id = request.id) change).Posted request.id actor kind body
        operationKey anchorTurnId message := by
    intro middle after change same keeps appended
    rcases append_ok appended with ⟨body, key, anchor, delivery, appendable, rfl⟩
    have kept : request ∈ middle.requests := same ▸ present
    rcases Table.exists_mem_update keeps kept with ⟨later, laterPresent, identity⟩
    have source : later.source = request.source := congrArg RequestIdentity.source identity
    have target : later.target = request.target := congrArg RequestIdentity.target identity
    refine ⟨allowed, ⟨validBody, validKey, validAnchor⟩,
      ⟨later, laterPresent, congrArg RequestIdentity.id identity, ?_⟩,
      mem_append_right _ (mem_singleton_self _),
      ⟨appendable.requestId, appendable.sent.1, key⟩, ⟨appendable.sent.2, body, anchor⟩⟩
    rw [source, target]
    exact role
  split at posted
  case h_1 existing found =>
    simp only [bind_eq_ok_iff, raiseIf_eq_ok_iff, exists_const, pure_eq_ok_iff, Prod.mk.injEq,
      not_not] at posted
    rcases posted with ⟨content, rfl, rfl⟩
    have keyed := find?_some found
    simp only [decide_eq_true_eq] at keyed
    exact ⟨allowed, ⟨validBody, validKey, validAnchor⟩,
      ⟨request, present, rfl, role⟩, mem_of_find?_eq_some found, keyed, content⟩
  case h_2 absent =>
    split at posted
    case h_1 leads =>
      simp only [bind_eq_ok_iff, raiseIf_eq_ok_iff, exists_const, pure_eq_ok_iff,
        Prod.mk.injEq] at posted
      rcases posted with ⟨_, ⟨after, added⟩, done, rfl, rfl⟩
      exact appended rfl (fun _ => rfl) done
    case h_2 state leads =>
      simp only [bind_eq_ok_iff, pure_eq_ok_iff, Prod.mk.injEq] at posted
      rcases posted with ⟨_, _, _, _, middle, cancelled, ⟨after, added⟩, done, rfl, rfl⟩
      refine appended ?_ (fun _ => rfl) done
      split at cancelled
      · rcases updateDeliveries_ok cancelled with ⟨_, rfl⟩
        rfl
      · simp only [pure_eq_ok_iff] at cancelled
        rw [cancelled]

theorem Applied.message_kept (applied : store.Applied operation next)
    (present : message ∈ store.messages) : message ∈ next.messages := by
  rcases applied.messages with same | ⟨added, appended, _⟩
  · rwa [same]
  · rw [appended]
    exact mem_append_left _ present

variable {operations : List StoreOperation}

theorem message_mem_of_run (sound : store.skeleton.Sound)
    (ran : machine.run store operations = some final) (present : message ∈ store.messages) :
    message ∈ final.messages := by
  have kept : ∃ later ∈ final.messages, later.id = message.id ∧ later = message := by
    refine kept_of_run ?_ sound ran present rfl
    rintro store next operation _ applied row rowPresent rfl
    exact ⟨row, applied.message_kept rowPresent, rfl, rfl⟩
  rcases kept with ⟨later, laterPresent, _, rfl⟩
  exact laterPresent

/-- Whatever is done with a store, its tables stay referentially integral, every message stays as it
was added, and every request and delivery keeps what identifies it. -/
theorem records_kept_of_run {maxPending : ℕ} {done : List StoreOperation}
    (reached : machine.run (empty maxPending) done = some store)
    (ran : machine.run store operations = some final) :
    final.skeleton.Sound ∧ (∀ message ∈ store.messages, message ∈ final.messages) ∧
      (∀ request ∈ store.requests, ∃ later ∈ final.requests, later.identity = request.identity) ∧
      ∀ delivery ∈ store.deliveries, ∃ later ∈ final.deliveries,
        later.identity = delivery.identity := by
  have sound := sound_of_run (skeleton_empty maxPending) reached
  refine ⟨sound_of_run sound ran, fun _ present => message_mem_of_run sound ran present, ?_, ?_⟩
  · intro request present
    rcases request_kept (fun row => row.identity = request.identity)
      (fun move same => move.identity.trans same) sound ran present rfl with ⟨later, found, _, same⟩
    exact ⟨later, found, same⟩
  · intro delivery present
    rcases delivery_kept (fun row => row.identity = delivery.identity)
      (fun move same => move.identity.trans same) sound ran present rfl with ⟨later, found, _, same⟩
    exact ⟨later, found, same⟩

theorem records_kept_of_recovered :
    ∃ store, machine.run (empty 256) recovered = some store ∧ store.skeleton.Sound := by
  have reached : ∃ store, machine.run (empty 256) recovered = some store ∧ True := by
    decide +kernel
  rcases reached with ⟨store, reached, _⟩
  exact ⟨store, reached, (records_kept_of_run reached (rfl : machine.run store [] = some store)).1⟩

theorem Posted.of_run
    (posted : store.Posted requestId actor kind body operationKey anchorTurnId message)
    (sound : store.skeleton.Sound) (ran : machine.run store operations = some final) :
    final.Posted requestId actor kind body operationKey anchorTurnId message := by
  rcases posted.request with ⟨request, requestPresent, rfl, role⟩
  have kept : ∃ later ∈ final.requests, later.identity = request.identity ∧ True := by
    apply request_kept (fun _ => True) _ sound ran requestPresent trivial
    intro _ _ _ _ _
    trivial
  rcases kept with ⟨later, laterPresent, identity, _⟩
  have source := congrArg RequestIdentity.source identity
  have target := congrArg RequestIdentity.target identity
  refine { posted with request := ⟨later, laterPresent, congrArg RequestIdentity.id identity, ?_⟩, present := message_mem_of_run sound ran posted.present }
  change later.source = request.source at source
  change later.target = request.target at target
  rw [source, target]
  exact role

theorem find?_posted (sound : store.skeleton.Sound) (present : message ∈ store.messages) :
    (store.messages.find? fun row => row.requestId = message.requestId ∧
      row.sender = message.sender ∧ row.operationKey = message.operationKey) = some message := by
  have found := Table.find?_eq_some sound.messageKeys present
  simp only [Prod.mk.injEq] at found
  exact found

/-- A repeated call returns the message that is on record. -/
theorem Posted.replay
    (posted : store.Posted requestId actor kind body operationKey anchorTurnId message)
    (sound : store.skeleton.Sound) (messageId deliveryId : FreshId) (now : ℤ) :
    store.postMessage requestId actor kind body operationKey anchorTurnId messageId deliveryId
      now = .ok (store, message) := by
  rcases posted with ⟨allowed, ⟨validBody, validKey, validAnchor⟩,
    ⟨request, requestPresent, rfl, role⟩, present, ⟨owner, rfl, rfl⟩, rfl, rfl, rfl⟩
  have participates : message.sender = request.source ∨ message.sender = request.target := by
    rw [role]
    split <;> simp
  have found := find?_posted sound present
  rw [owner] at found
  simp only [postMessage, validBody, validKey, validAnchor, ok_bind, raiseIf_of_not _ allowed,
    readRequest_of_mem sound requestPresent participates, found]
  rw [raiseIf_of_not _ (not_not.mpr role), raiseIf_of_not _ (by simp)]
  rfl

/-- A call that succeeds with the key of a message has its content. -/
theorem Posted.content_eq
    (posted : store.Posted requestId actor kind body operationKey anchorTurnId message)
    (sound : store.skeleton.Sound) {other : MessageKind} {text anchor : Text} {result : Message}
    (again : store.postMessage requestId actor other text operationKey anchor messageId deliveryId
      now = .ok (next, result)) :
    (other, text, anchor) = (kind, body, anchorTurnId) := by
  rcases posted with ⟨_, _, _, present, ⟨rfl, rfl, rfl⟩, rfl, rfl, rfl⟩
  simp only [postMessage, find?_posted sound present, bind_eq_ok_iff, raiseIf_eq_ok_iff,
    exists_const, not_not] at again
  rcases again with ⟨_, _, _, _, _, _, _, _, _, _, content, _⟩
  rw [content.1, content.2.1, content.2.2]

end

/-! ### The laws of the mailbox -/

/-- The operation key of `create_request` names one assignment, now and in every later state. -/
def CreatesOnce (store : CollaborationStore) : Prop :=
  ∀ scopeId source target operationKey body anchorTurnId requestId messageId deliveryId now next
    request, store.createRequest scopeId source target operationKey body anchorTurnId requestId
      messageId deliveryId now = .ok (next, request) →
    ∀ operations final, machine.run next operations = some final →
      (∃ later ∈ final.requests, later.identity = request.identity ∧
        ∀ requestId messageId deliveryId now,
          final.createRequest scopeId source target operationKey body anchorTurnId requestId
            messageId deliveryId now = .ok (final, later)) ∧
      ∀ actor other text anchor, (other, text, anchor) ≠ (target, body, anchorTurnId) →
        ∀ requestId messageId deliveryId now, ∃ error,
          final.createRequest scopeId actor other operationKey text anchor requestId messageId
            deliveryId now = .error error

/-- The operation key of `post_message` names one message of its sender. -/
def PostsOnce (store : CollaborationStore) : Prop :=
  ∀ requestId actor kind body operationKey anchorTurnId messageId deliveryId now next message,
    store.postMessage requestId actor kind body operationKey anchorTurnId messageId deliveryId
      now = .ok (next, message) →
    ∀ operations final, machine.run next operations = some final →
      (∀ messageId deliveryId now,
        final.postMessage requestId actor kind body operationKey anchorTurnId messageId deliveryId
          now = .ok (final, message)) ∧
      ∀ other text anchor, (other, text, anchor) ≠ (kind, body, anchorTurnId) →
        ∀ messageId deliveryId now, ∃ error,
          final.postMessage requestId actor other text operationKey anchor messageId deliveryId
            now = .error error

theorem createsOnce (sound : store.skeleton.Sound) : store.CreatesOnce := by
  intro scopeId source target operationKey body anchorTurnId requestId messageId deliveryId now next
    request created operations final ran
  have stepped : machine.step store (.createRequest scopeId source target operationKey body
      anchorTurnId requestId messageId deliveryId now) = some next := by
    refine step_of_apply (by trivial) ?_
    simp only [apply, created]
    rfl
  have nextSound := sound_of_step sound stepped
  have finalSound := sound_of_run nextSound ran
  rcases (createRequest_assigned created).of_run nextSound ran with ⟨later, identity, assigned⟩
  refine ⟨⟨later, assigned.present, identity, ?_⟩, ?_⟩
  · intro requestId messageId deliveryId now
    exact assigned.replay finalSound requestId messageId deliveryId now
  · intro actor other text anchor differs requestId messageId deliveryId now
    cases again : final.createRequest scopeId actor other operationKey text anchor requestId
        messageId deliveryId now with
    | error error => exact ⟨error, rfl⟩
    | ok result => exact absurd (assigned.content_eq finalSound again) differs

theorem postsOnce (sound : store.skeleton.Sound) : store.PostsOnce := by
  intro requestId actor kind body operationKey anchorTurnId messageId deliveryId now next message
    created operations final ran
  have stepped : machine.step store (.postMessage requestId actor kind body operationKey
      anchorTurnId messageId deliveryId now) = some next := by
    refine step_of_apply (by trivial) ?_
    simp only [apply, created]
    rfl
  have nextSound := sound_of_step sound stepped
  have finalSound := sound_of_run nextSound ran
  have posted := (postMessage_posted created).of_run nextSound ran
  refine ⟨?_, ?_⟩
  · intro messageId deliveryId now
    exact posted.replay finalSound messageId deliveryId now
  · intro other text anchor differs messageId deliveryId now
    cases again : final.postMessage requestId actor other text operationKey anchor messageId
        deliveryId now with
    | error error => exact ⟨error, rfl⟩
    | ok result => exact absurd (posted.content_eq finalSound again) differs

/-- What `claim_next` claims for a recipient comes before all that is claimed for it later. -/
def ClaimsInOrder (store : CollaborationStore) : Prop :=
  ∀ recipient next, machine.step store (.claimNext recipient) = some next →
    ∀ first ∈ next.deliveries, Enters .claimed first.id store next →
      ∀ operations state operation later, machine.run next operations = some state →
        machine.step state operation = some later →
        ∀ second ∈ later.deliveries, second.recipient = first.recipient →
          Enters .claimed second.id state later → first.sequence < second.sequence

structure MailboxLaws (maxPending : ℕ) (store : CollaborationStore) : Prop where
  owner : ∀ recipient, store.ownership recipient ≤ 1
  capacity : ∀ recipient, store.occupancy recipient ≤ maxPending
  claims : store.ClaimsInOrder
  carried : ∀ message ∈ store.messages,
    store.deliveries.countP (fun row => row.messageId = message.id) = 1
  numbered : ∀ requestId : Text,
    Numbered (·.sequence) (store.messages.filter fun row => row.requestId = requestId) ∧
      store.messageCount requestId ≤ maxMessages
  replies : ∀ requestId actor body operationKey anchorTurnId messageId deliveryId now,
    store.postMessage requestId actor .reply body operationKey anchorTurnId messageId deliveryId
      now ≠ .error (.capacity "request message limit reached")
  creates : store.CreatesOnce
  posts : store.PostsOnce

theorem carried_once (sound : store.skeleton.Sound) {message : Message}
    (present : message ∈ store.messages) :
    store.deliveries.countP (fun row => row.messageId = message.id) = 1 := by
  have carried : store.deliveries.map (·.messageId) = store.messages.map (·.id) := by
    have carried := sound.carried
    simpa only [skeleton, map_map, Function.comp_def, Delivery.identity] using carried
  have once : (store.messages.map (·.id)).count message.id = 1 :=
    count_eq_one_of_mem sound.keyed.messages (mem_map_of_mem present)
  rw [← carried, List.count, countP_map] at once
  rw [← once]
  refine countP_congr fun row _ => ?_
  simp

theorem messageCount_le (orderly : ∀ request ∈ store.requests, store.SlotLeft request)
    (sound : store.skeleton.Sound) (requestId : Text) :
    store.messageCount requestId ≤ maxMessages := by
  by_cases known : ∃ request ∈ store.requests, request.id = requestId
  · rcases known with ⟨request, present, rfl⟩
    rcases orderly request present with room | ⟨_, full⟩
    · exact Nat.le_of_lt room
    · exact full.le
  · have fresh : ∀ row ∈ store.requests, row.id ≠ requestId :=
      fun row present same => known ⟨row, present, same⟩
    rw [messageCount_eq_zero sound fresh]
    exact Nat.zero_le _

/-- The laws hold in every state that operations reach from an empty store. -/
theorem mailboxLaws_of_run {maxPending : ℕ} {operations : List StoreOperation}
    (reached : machine.run (empty maxPending) operations = some store) :
    store.MailboxLaws maxPending := by
  have orderly := orderly_of_run reached
  have sound := orderly.sound
  constructor
  · intro recipient
    exact ownership_le_one orderly.owners recipient
  · intro recipient
    exact orderly.limit ▸ orderly.capacity recipient
  · intro recipient next stepped first firstPresent claimed operations state operation later ran
      again second secondPresent same reclaimed
    exact claimed_in_order sound stepped firstPresent claimed ran again secondPresent same reclaimed
  · intro message present
    exact carried_once sound present
  · intro requestId
    exact ⟨sound.numbers requestId, messageCount_le orderly.slots sound requestId⟩
  · intro requestId actor body operationKey anchorTurnId messageId deliveryId now refused
    exact postMessage_reply_raises orderly.slots requestId actor body operationKey anchorTurnId
      messageId deliveryId now _ refused rfl
  · exact createsOnce sound
  · exact postsOnce sound

theorem mailboxLaws_of_run_recovered :
    ∃ store, machine.run (empty 256) recovered = some store ∧ store.MailboxLaws 256 := by
  have reached : ∃ store, machine.run (empty 256) recovered = some store ∧ True := by
    decide +kernel
  rcases reached with ⟨store, reached, _⟩
  exact ⟨store, reached, mailboxLaws_of_run reached⟩

/-! ### A claim out of order -/

/-- Two assignments to one recipient; the adapter claims the second delivery and abandons it. -/
def secondFirst : List StoreOperation :=
  Assignment.opened ++
    [.createRequest Assignment.scopeId.text Assignment.source Assignment.target
      (Text.ofString "assign again") (Text.ofString "body") [] (Assignment.identifier 0x34 rfl)
      (Assignment.identifier 0x35 rfl) (Assignment.identifier 0x36 rfl) 1]

/-- Through `transition_delivery` a delivery can be claimed before an older one. -/
theorem claimed_out_of_order :
    ∃ store, machine.run (empty 256) secondFirst = some store ∧
      ∃ claimed, machine.step store (.transitionDelivery (Assignment.identifier 0x36 rfl).text
          Assignment.target .claimed 0 none none 2) = some claimed ∧
        ∃ abandoned, machine.step claimed (.abandonClaim (Assignment.identifier 0x36 rfl).text
            Assignment.target 1 (Text.ofString "skipped") 3) = some abandoned ∧
          ∃ next, machine.step abandoned (.claimNext Assignment.target) = some next ∧
            ∃ first ∈ claimed.deliveries, ∃ second ∈ next.deliveries,
              first.recipient = second.recipient ∧ Enters .claimed first.id store claimed ∧
                Enters .claimed second.id abandoned next ∧ second.sequence < first.sequence := by
  decide +kernel

end Synapse.Collaboration.CollaborationStore
