import Synapse.Collaboration.Integrity

/-!
# Histories follow the transition tables

Every change of a state, checked or by a direct update, is an edge of its table.
There is one exception: `settle_interrupted` fails a request that is still
pending, which the table of requests does not list.
-/

namespace Synapse.Collaboration

/-- A state stays or takes one edge of its table. -/
def Follows {State : Type} [Lifecycle State] (before after : State) : Prop :=
  after = before ∨ after ∈ Lifecycle.edges before

/-- A state that no edge leaves. -/
def Terminal {State : Type} [Lifecycle State] (state : State) : Prop :=
  Lifecycle.edges state = []

instance {State : Type} [Lifecycle State] [DecidableEq State] (state : State) :
    Decidable (Terminal state) :=
  inferInstanceAs (Decidable (_ = _))

theorem Follows.eq_of_terminal {State : Type} [Lifecycle State] {before after : State}
    (follows : Follows before after) (terminal : Terminal before) : after = before := by
  rcases follows with same | edge
  · exact same
  · rw [terminal] at edge
    cases edge

/-- Running or past it. -/
def DeliveryState.begun : DeliveryState → Bool
  | .running | .review | .settled | .cancelled => true
  | .pending | .claimed => false

/-- A state that has begun never leads back to the start. -/
theorem Follows.begun {before after : DeliveryState} (follows : Follows before after)
    (begun : before.begun = true) : after.begun = true ∧ (after = .running → before = .running) := by
  rcases follows with rfl | edge
  · exact ⟨begun, id⟩
  · cases before with
    | pending => cases begun
    | claimed => cases begun
    | running =>
      simp only [Lifecycle.edges, List.mem_cons, List.not_mem_nil, or_false] at edge
      rcases edge with rfl | rfl <;> simp [DeliveryState.begun]
    | review =>
      simp only [Lifecycle.edges, List.mem_cons, List.not_mem_nil, or_false] at edge
      subst edge
      simp [DeliveryState.begun]
    | settled => cases edge
    | cancelled => cases edge

instance {State : Type} [Lifecycle State] [DecidableEq State] (before after : State) :
    Decidable (Follows before after) :=
  inferInstanceAs (Decidable (_ ∨ _))

namespace CollaborationStore

/-! ### How the rows of each table move -/

inductive RequestMove (operation : StoreOperation) : Request → Request → Prop where
  | step (request later : Request) (step : RequestStep operation request later) :
      RequestMove operation request later
  | touched (request : Request) (now : ℤ) :
      RequestMove operation request { request with updatedAtMs := now }
  | advanced (request : Request) (state : RequestState) (now : ℤ)
      (edge : state ∈ Lifecycle.edges request.state) :
      RequestMove operation request (request.advance state now)

inductive DeliveryMove (store : CollaborationStore) (operation : StoreOperation) :
    Delivery → Delivery → Prop where
  | step (delivery later : Delivery) (step : DeliveryStep store operation delivery later) :
      DeliveryMove store operation delivery later
  | started (delivery : Delivery) (request : Request) (scope : ContinuationScope)
      (turnId : Text) (reason : Option Text) (claimed : delivery.state = .claimed)
      (requested : request ∈ store.requests ∧ request.id = delivery.requestId)
      (fenced : scope ∈ store.scopes ∧ scope.id = delivery.scopeId)
      (permitted : permitsExecution request scope delivery.recipient = true)
      (cause : StoreOperation.concerns delivery.recipient operation = true) :
      DeliveryMove store operation delivery (delivery.start (some turnId) reason)

variable {request later : Request}

theorem RequestMove.identity {operation : StoreOperation}
    (move : RequestMove operation request later) : later.identity = request.identity := by
  cases move with
  | step later step => exact step.identity
  | touched now => rfl
  | advanced state now edge => rfl

variable {delivery : Delivery}

theorem DeliveryMove.identity {store : CollaborationStore} {operation : StoreOperation}
    {later : Delivery} (move : DeliveryMove store operation delivery later) : later.identity = delivery.identity := by
  cases move with
  | step later step => exact step.identity
  | started request scope turnId reason claimed requested fenced permitted cause => rfl

/-- A delivery as it is inserted. -/
structure Inserted (store : CollaborationStore) (delivery : Delivery) : Prop where
  fresh : ∀ row ∈ store.deliveries, row.id ≠ delivery.id
  sequence : delivery.sequence = store.deliverySequence + 1
  unbound : delivery.turnId = none
  state : delivery.state = .settled ∨ delivery.state = .cancelled ∨ delivery.state = .pending

theorem Appendable.inserted {store : CollaborationStore} {sender : SessionRef}
    {kind : MessageKind} {message : Message}
    (appendable : store.Appendable request sender kind message delivery) :
    store.Inserted delivery := by
  refine ⟨appendable.deliveryFresh, appendable.sequence, appendable.unbound, ?_⟩
  rcases appendable.outcome with ⟨settled, _⟩ | ⟨cancelled, _⟩ | ⟨pending, _⟩
  · exact Or.inl settled
  · exact Or.inr (Or.inl cancelled)
  · exact Or.inr (Or.inr pending)

variable {store next : CollaborationStore} {operation : StoreOperation}

theorem Applied.scopes_evolve (applied : store.Applied operation next) :
    Table.Evolves ScopeStep (fun scope => ∀ row ∈ store.scopes, row.id ≠ scope.id)
      store.scopes next.scopes := by
  have same : List.Forall₂ ScopeStep store.scopes store.scopes :=
    List.forall₂_same.mpr fun row _ => .same row
  cases applied with
  | updated next updated => exact .of_forall₂ updated.scopes
  | begun scope fresh named => exact .insert same fresh
  | created => exact .of_forall₂ same
  | progressed => exact .of_forall₂ same
  | posted => exact .of_forall₂ same
  | started => exact .of_forall₂ same

theorem Applied.requests_evolve (keyed : store.Keyed) (applied : store.Applied operation next) :
    Table.Evolves (RequestMove operation)
      (fun request => ∀ row ∈ store.requests, row.id ≠ request.id) store.requests next.requests := by
  have refl : ∀ request, RequestMove operation request request := fun request =>
    .step request request (.same request)
  have same : List.Forall₂ (RequestMove operation) store.requests store.requests :=
    List.forall₂_same.mpr fun row _ => refl row
  cases applied with
  | updated next updated =>
    exact .of_forall₂ (updated.requests.imp fun request later step => .step request later step)
  | begun scope fresh named => exact .of_forall₂ same
  | created request message delivery scope inScope fresh => exact .insert same fresh
  | progressed request message delivery now present running appendable =>
    exact .of_forall₂ (forall₂_update_id keyed.requests refl present (.touched request now))
  | posted kind state deliveries request message delivery now present leads edge cancelled owners
      appendable =>
      exact .of_forall₂
        (forall₂_update_id keyed.requests refl present (.advanced request state now edge))
  | started delivery request scope message turnId reason now cause present claimed requested fenced
      permitted carried fits owners =>
      refine .of_forall₂ ?_
      dsimp only
      split
      case isTrue unstarted =>
        exact forall₂_update_id keyed.requests refl requested.1
          (.advanced request .working now (by simp [unstarted.2, Lifecycle.edges]))
      case isFalse => exact same

theorem Applied.deliveries_evolve (keyed : store.Keyed) (applied : store.Applied operation next) :
    Table.Evolves (store.DeliveryMove operation) store.Inserted store.deliveries next.deliveries := by
  have refl : ∀ delivery, store.DeliveryMove operation delivery delivery := fun delivery =>
    .step delivery delivery (.same delivery)
  have same : List.Forall₂ (store.DeliveryMove operation) store.deliveries store.deliveries :=
    List.forall₂_same.mpr fun row _ => refl row
  cases applied with
  | updated next updated =>
    exact .of_forall₂ (updated.deliveries.imp fun delivery later step =>
      .step delivery later step)
  | begun scope fresh named => exact .of_forall₂ same
  | created request message delivery scope inScope fresh keyFresh apart named valid initial
      appendable =>
      exact .insert same ⟨appendable.inserted.fresh, appendable.inserted.sequence,
        appendable.inserted.unbound, appendable.inserted.state⟩
  | progressed request message delivery now present running appendable =>
    exact .insert same appendable.inserted
  | posted kind state deliveries request message delivery now present leads edge cancelled owners
      appendable =>
      refine .insert (cancelled.imp fun delivery later step => .step delivery later step) ?_
      refine ⟨fun row rowMem same => ?_, appendable.inserted.sequence, appendable.inserted.unbound,
        appendable.inserted.state⟩
      -- The cancelled clarifications keep their identifiers.
      rcases Table.exists_after cancelled rowMem with ⟨later, laterMem, step⟩
      have kept : later.id = row.id := congrArg DeliveryIdentity.id step.identity
      exact appendable.deliveryFresh later laterMem (kept.trans same)
  | started delivery request scope message turnId reason now cause present claimed requested fenced
      permitted carried fits owners =>
      exact .of_forall₂ (forall₂_update_id keyed.deliveries refl present
        (.started delivery request scope turnId reason claimed requested fenced permitted cause))

/-! ### Edges -/

theorem ScopeStep.follows {scope later : ContinuationScope} (step : ScopeStep scope later) :
    Follows scope.state later.state := by
  cases step with
  | same => exact Or.inl rfl
  | restricted state edge => exact Or.inr edge

theorem DeliveryMove.follows {later : Delivery}
    (move : store.DeliveryMove operation delivery later) : Follows delivery.state later.state := by
  cases move with
  | step later step =>
    cases step with
    | same => exact Or.inl rfl
    | moved state turnId reason edge idle bound cause => exact Or.inr edge
    | linked turnId request scope running requested fenced permitted cause => exact Or.inl rfl
  | started request scope turnId reason claimed requested fenced permitted cause =>
    exact Or.inr (by simp [Delivery.start, claimed, Lifecycle.edges])

theorem RequestMove.follows_continuation (move : RequestMove operation request later) :
    Follows request.continuation later.continuation := by
  cases move with
  | step later step =>
    cases step with
    | controlled state now edge => exact Or.inr edge
    | stopped now edge unanswered => exact Or.inr edge
    | _ => exact Or.inl rfl
  | touched now => exact Or.inl rfl
  | advanced state now edge => exact Or.inl rfl

/-- The one change that is not in the table. -/
def FailsPending (operation : StoreOperation) (before after : RequestState) : Prop :=
  (∃ limit now, operation = .settleInterrupted limit now) ∧ before = .pending ∧ after = .failed

theorem RequestMove.follows (move : RequestMove operation request later) :
    Follows request.state later.state ∨ FailsPending operation request.state later.state := by
  cases move with
  | step later step =>
    cases step with
    | same => exact Or.inl (Or.inl rfl)
    | controlled state now edge => exact Or.inl (Or.inl rfl)
    | stopped now edge unanswered =>
      refine Or.inl (Or.inr ?_)
      rcases unanswered with state | state | state <;> simp [state, Lifecycle.edges]
    | cancelled now pending =>
      exact Or.inl (Or.inr (by simp [Request.advance, pending, Lifecycle.edges]))
    | failed now edge => exact Or.inl (Or.inr edge)
    | interrupted limit now recovery unanswered =>
      rcases unanswered with pending | working
      · exact Or.inr ⟨⟨limit, now, recovery⟩, pending, rfl⟩
      · exact Or.inl (Or.inr (by simp [Request.advance, working, Lifecycle.edges]))
  | touched now => exact Or.inl (Or.inl rfl)
  | advanced state now edge => exact Or.inl (Or.inr edge)

/-! ### One step -/

/-- Two versions of a table in which each row keeps its key and moves by `Move`. -/
def Tracks {Row : Type} (key : Row → Text) (Move : Row → Row → Prop) (before after : List Row) :
    Prop :=
  ∀ row ∈ before, ∀ later ∈ after, key later = key row → Move row later

theorem Applied.tracks_scopes (keyed : store.Keyed) (applied : store.Applied operation next) :
    Tracks (·.id) ScopeStep store.scopes next.scopes := fun _ present _ laterPresent same =>
  applied.scopes_evolve.step_of_key (fun step => congrArg ScopeIdentity.id step.identity)
    keyed.scopes (fun fresh => fresh) present laterPresent same

theorem Applied.tracks_requests (keyed : store.Keyed) (applied : store.Applied operation next) :
    Tracks (·.id) (RequestMove operation) store.requests next.requests :=
  fun _ present _ laterPresent same =>
    (applied.requests_evolve keyed).step_of_key
      (fun move => congrArg RequestIdentity.id move.identity)
      keyed.requests (fun fresh => fresh) present laterPresent same

theorem Applied.tracks_deliveries (keyed : store.Keyed) (applied : store.Applied operation next) :
    Tracks (·.id) (store.DeliveryMove operation) store.deliveries next.deliveries :=
  fun _ present _ laterPresent same =>
    (applied.deliveries_evolve keyed).step_of_key
      (fun move => congrArg DeliveryIdentity.id move.identity)
      keyed.deliveries (fun inserted => inserted.fresh) present laterPresent same

/-! ### Whole runs -/

variable {operations : List StoreOperation}

/-- What holds of one row now and is kept by every step holds of it at the end of
every run. -/
theorem kept_of_run {Row : Type} {table : CollaborationStore → List Row} {key : Row → Text}
    {property : Row → Prop}
    (kept : ∀ {store next : CollaborationStore} {operation : StoreOperation},
      store.skeleton.Sound → store.Applied operation next →
      ∀ row ∈ table store, property row →
        ∃ later ∈ table next, key later = key row ∧ property later)
    {final : CollaborationStore} (sound : store.skeleton.Sound)
    (ran : machine.run store operations = some final)
    {row : Row} (present : row ∈ table store) (holds : property row) :
    ∃ later ∈ table final, key later = key row ∧ property later := by
  have preserved : ∀ {state : CollaborationStore} {operation : StoreOperation}
      {next : CollaborationStore},
      (state.skeleton.Sound ∧ ∃ other ∈ table state, key other = key row ∧ property other) →
      machine.step state operation = some next →
      (next.skeleton.Sound ∧ ∃ other ∈ table next, key other = key row ∧ property other) := by
    rintro state operation next ⟨sound, other, otherPresent, same, holds⟩ stepped
    have applied := applied_of_step sound stepped
    rcases kept sound applied other otherPresent holds with ⟨moved, movedPresent, sameKey, holds⟩
    exact ⟨(applied.grown sound).sound sound, moved, movedPresent, sameKey.trans same, holds⟩
  exact (Machine.run_invariant preserved ⟨sound, row, present, rfl, holds⟩ ran).2

section

variable {final : CollaborationStore} {operations : List StoreOperation}

theorem scope_kept (property : ContinuationScope → Prop)
    (kept : ∀ {scope later : ContinuationScope}, ScopeStep scope later → property scope →
      property later)
    (sound : store.skeleton.Sound) (ran : machine.run store operations = some final)
    {scope : ContinuationScope} (present : scope ∈ store.scopes) (holds : property scope) :
    ∃ later ∈ final.scopes, later.id = scope.id ∧ property later := by
  refine kept_of_run ?_ sound ran present holds
  intro store next operation _ applied row rowPresent holds
  rcases applied.scopes_evolve.exists_after rowPresent with ⟨later, laterPresent, step⟩
  exact ⟨later, laterPresent, congrArg ScopeIdentity.id step.identity, kept step holds⟩

theorem request_kept (property : Request → Prop)
    (kept : ∀ {operation : StoreOperation} {request later : Request},
      RequestMove operation request later → property request → property later)
    (sound : store.skeleton.Sound) (ran : machine.run store operations = some final)
    {request : Request} (present : request ∈ store.requests) (holds : property request) :
    ∃ later ∈ final.requests, later.identity = request.identity ∧ property later := by
  have carried : ∃ later ∈ final.requests, later.id = request.id ∧
      (later.identity = request.identity ∧ property later) := by
    refine kept_of_run ?_ sound ran present ⟨rfl, holds⟩
    intro store next operation sound applied row rowPresent ⟨same, holds⟩
    rcases (applied.requests_evolve sound.keyed).exists_after rowPresent with
      ⟨later, laterPresent, move⟩
    exact ⟨later, laterPresent, congrArg RequestIdentity.id move.identity,
      move.identity.trans same, kept move holds⟩
  rcases carried with ⟨later, laterPresent, _, holds⟩
  exact ⟨later, laterPresent, holds⟩

theorem delivery_kept (property : Delivery → Prop)
    (kept : ∀ {store : CollaborationStore} {operation : StoreOperation} {delivery later : Delivery},
      store.DeliveryMove operation delivery later → property delivery → property later)
    (sound : store.skeleton.Sound) (ran : machine.run store operations = some final)
    {delivery : Delivery} (present : delivery ∈ store.deliveries) (holds : property delivery) :
    ∃ later ∈ final.deliveries, later.id = delivery.id ∧ property later := by
  refine kept_of_run ?_ sound ran present holds
  intro store next operation sound applied row rowPresent holds
  rcases (applied.deliveries_evolve sound.keyed).exists_after rowPresent with
    ⟨later, laterPresent, move⟩
  exact ⟨later, laterPresent, congrArg DeliveryIdentity.id move.identity, kept move holds⟩

end

/-- Rows that are terminal stay as they are. -/
structure TerminalStates (before after : CollaborationStore) : Prop where
  scopes : Tracks (·.id) (fun scope later : ContinuationScope =>
    Terminal scope.state → later.state = scope.state) before.scopes after.scopes
  requests : Tracks (·.id) (fun request later : Request =>
    Terminal request.state → later.state = request.state) before.requests after.requests
  deliveries : Tracks (·.id) (fun delivery later : Delivery =>
    Terminal delivery.state → later.state = delivery.state) before.deliveries after.deliveries

theorem RequestMove.eq_of_terminal
    (move : RequestMove operation request later) (terminal : Terminal request.state) :
    later.state = request.state := by
  rcases move.follows with follows | ⟨_, pending, _⟩
  · exact follows.eq_of_terminal terminal
  · rw [pending] at terminal
    cases terminal

theorem terminalStates_of_run {final : CollaborationStore}
    (sound : store.skeleton.Sound) (ran : machine.run store operations = some final) :
    TerminalStates store final := by
  have keyed := (sound_of_run sound ran).keyed
  constructor
  · intro scope present later laterPresent same terminal
    have fixed : ∃ other ∈ final.scopes, other.id = scope.id ∧ other.state = scope.state := by
      apply scope_kept (fun other => other.state = scope.state) _ sound ran present rfl
      intro earlier next step holds
      exact (step.follows.eq_of_terminal (holds ▸ terminal)).trans holds
    rcases fixed with ⟨other, otherPresent, otherId, state⟩
    rwa [Table.eq_of_key keyed.scopes laterPresent otherPresent (same.trans otherId.symm)]
  · intro request present later laterPresent same terminal
    have fixed : ∃ other ∈ final.requests, other.identity = request.identity ∧
        other.state = request.state := by
      apply request_kept (fun other => other.state = request.state) _ sound ran present rfl
      intro operation earlier next move holds
      exact (move.eq_of_terminal (holds ▸ terminal)).trans holds
    rcases fixed with ⟨other, otherPresent, identity, state⟩
    have otherId : other.id = request.id := congrArg RequestIdentity.id identity
    rwa [Table.eq_of_key keyed.requests laterPresent otherPresent (same.trans otherId.symm)]
  · intro delivery present later laterPresent same terminal
    have fixed : ∃ other ∈ final.deliveries, other.id = delivery.id ∧
        other.state = delivery.state := by
      apply delivery_kept (fun other => other.state = delivery.state) _ sound ran present rfl
      intro store operation earlier next move holds
      exact (move.follows.eq_of_terminal (holds ▸ terminal)).trans holds
    rcases fixed with ⟨other, otherPresent, otherId, state⟩
    rwa [Table.eq_of_key keyed.deliveries laterPresent otherPresent (same.trans otherId.symm)]

/-! ### A delivery runs once -/

/-- After the step a delivery is in a state that it was not in before. -/
def Enters (state : DeliveryState) (deliveryId : Text) (before after : CollaborationStore) : Prop :=
  (∃ later ∈ after.deliveries, later.id = deliveryId ∧ later.state = state) ∧
    ∀ delivery ∈ before.deliveries, delivery.id = deliveryId → delivery.state ≠ state

instance (state : DeliveryState) (deliveryId : Text) (before after : CollaborationStore) :
    Decidable (Enters state deliveryId before after) :=
  inferInstanceAs (Decidable (_ ∧ _))

theorem not_enters_running_again {state later : CollaborationStore}
    (sound : store.skeleton.Sound) {deliveryId : Text}
    {before : CollaborationStore} (entered : Enters .running deliveryId before store)
    (ran : machine.run store operations = some state)
    (stepped : machine.step state operation = some later) :
    ¬Enters .running deliveryId state later := by
  rintro ⟨⟨final, finalPresent, finalId, runs⟩, idle⟩
  rcases entered.1 with ⟨first, firstPresent, firstId, running⟩
  have begun : ∃ other ∈ state.deliveries, other.id = first.id ∧ other.state.begun = true := by
    apply delivery_kept (fun other => other.state.begun = true) _ sound ran firstPresent
        (by rw [running]; rfl)
    intro store operation delivery next move holds
    exact (move.follows.begun holds).1
  rcases begun with ⟨other, otherPresent, otherId, begun⟩
  have stateSound := sound_of_run sound ran
  have applied := applied_of_step stateSound stepped
  have move := applied.tracks_deliveries stateSound.keyed other otherPresent final finalPresent
    (finalId.trans (firstId.symm.trans otherId.symm))
  exact idle other otherPresent (otherId.trans firstId)
    ((move.follows.begun begun).2 runs)

/-! ### Histories -/

/-- The changes of one step, each along its table. -/
structure StepFollows (operation : StoreOperation) (before after : CollaborationStore) : Prop where
  scopes : Tracks (·.id) (fun scope later : ContinuationScope =>
    Follows scope.state later.state) before.scopes after.scopes
  requests : Tracks (·.id) (fun request later : Request =>
    Follows request.state later.state ∨ FailsPending operation request.state later.state)
    before.requests after.requests
  deliveries : Tracks (·.id) (fun delivery later : Delivery =>
    Follows delivery.state later.state) before.deliveries after.deliveries

theorem Applied.stepFollows (keyed : store.Keyed) (applied : store.Applied operation next) :
    StepFollows operation store next := by
  constructor
  · intro scope present later laterPresent same
    exact (applied.tracks_scopes keyed scope present later laterPresent same).follows
  · intro request present later laterPresent same
    exact (applied.tracks_requests keyed request present later laterPresent same).follows
  · intro delivery present later laterPresent same
    exact (applied.tracks_deliveries keyed delivery present later laterPresent same).follows

/-- Histories follow the transition tables, but for the recovery that fails a
request which is still pending. -/
theorem histories_follow {maxPending : ℕ} {front : List StoreOperation}
    (reached : machine.run (empty maxPending) front = some store)
    (stepped : machine.step store operation = some next) :
    StepFollows operation store next ∧
      ∀ back final, machine.run next back = some final →
        TerminalStates next final ∧
        ∀ deliveryId, Enters .running deliveryId store next →
          ∀ another later, machine.step final another = some later →
            ¬Enters .running deliveryId final later := by
  have sound := sound_of_run (skeleton_empty maxPending) reached
  have applied := applied_of_step sound stepped
  have nextSound := (applied.grown sound).sound sound
  refine ⟨applied.stepFollows sound.keyed, fun back final ran => ?_⟩
  refine ⟨terminalStates_of_run nextSound ran, fun deliveryId entered another later again => ?_⟩
  exact not_enters_running_again nextSound entered ran again

/-- A claimed assignment, after a restart and the first recovery. -/
def recovered : List StoreOperation :=
  Assignment.opened ++ [.claimNext Assignment.target, .recoverUncertain 100]

theorem histories_follow_recovered :
    ∃ store, machine.run (empty 256) recovered = some store ∧
      ∃ next, machine.step store (.settleInterrupted 100 1) = some next ∧
        StepFollows (.settleInterrupted 100 1) store next := by
  have taken : ∃ store, machine.run (empty 256) recovered = some store ∧
      ∃ next, machine.step store (.settleInterrupted 100 1) = some next ∧ True := by
    decide +kernel
  rcases taken with ⟨store, ran, next, stepped, _⟩
  exact ⟨store, ran, next, stepped, (histories_follow ran stepped).1⟩

/-- The recovery takes a pending request to `FAILED`, which is not an edge. -/
theorem pending_request_failed :
    ∃ store, machine.run (empty 256) recovered = some store ∧
      ∃ next, machine.step store (.settleInterrupted 100 1) = some next ∧
        ∃ request ∈ store.requests, ∃ later ∈ next.requests, later.id = request.id ∧
          ¬Follows request.state later.state := by
  decide +kernel

end CollaborationStore

end Synapse.Collaboration
