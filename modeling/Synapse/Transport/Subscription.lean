import Synapse.Foundation.Machine
import Synapse.Service.Projection
import Synapse.Transport.Wire

/-!
# The pump of a subscription

Model of `_Subscription.pump` and of `notify`. The stream is known by what it returns; the frames
of the subscription are kept in the order in which they were put into the output queue.

A pump that ends by itself on an open connection has told the client so. This rests on `notify`,
which returns `False` for a closed connection and for an event without a wire projection alike.
-/

namespace Synapse.Transport

open List
open Wire
open Service (RuntimeEvent)

/-- The id of a subscription is the text of a random UUID. -/
abbrev HexId := { value : Text // isHexId value = true }

inductive SubscriptionFrame where
  | event (event : RuntimeEvent) (cursor : ℕ)
  | complete (cursor : ℕ)
  | error (code : ℤ) (serviceCode : Text)
  deriving DecidableEq, Repr

def SubscriptionFrame.terminal : SubscriptionFrame → Bool
  | .event _ _ => false
  | .complete _ | .error _ _ => true

def SubscriptionFrame.method : SubscriptionFrame → String
  | .event _ _ => "runtime.event"
  | .complete _ => "runtime.subscription.complete"
  | .error _ _ => "runtime.subscription.error"

def SubscriptionFrame.params (id : HexId) : SubscriptionFrame → Value
  | .event returned cursor =>
    .mapping true (.ofList
      [member "subscription_id" (.str true id.val), member "event" (.record returned.fields),
        member "cursor" (.int true cursor)])
  | .complete cursor =>
    .mapping true (.ofList
      [member "subscription_id" (.str true id.val), member "cursor" (.int true cursor)])
  | .error code serviceCode =>
    .mapping true (.ofList
      [member "subscription_id" (.str true id.val),
        member "error" (errorObject code serviceCode)])

def SubscriptionFrame.encode (id : HexId) (notification : SubscriptionFrame) :
    Except EncodeError Text :=
  encodeNotification notification.method (notification.params id)

inductive PumpPhase where
  /-- It waits for the stream. -/
  | reading
  /-- It lets the writer run. -/
  | yielding
  | stopped
  deriving DecidableEq, Repr

structure Subscription where
  id : HexId
  phase : PumpPhase
  unwatched : Bool
  closing : Bool
  /-- The messages in the output queue of the connection. -/
  queued : ℕ
  sent : List SubscriptionFrame
  deriving DecidableEq

/-- The exception that the stream raises. -/
inductive StreamFailure where
  | service (code : Text)
  | other
  deriving DecidableEq, Repr

inductive PumpLabel where
  /-- The stream returns an event; its cursor is read then. -/
  | returns (event : RuntimeEvent) (cursor : ℕ)
  | resumes
  | ends (cursor : ℕ)
  | fails (failure : StreamFailure)
  | unwatch
  | cleanup
  /-- Something else puts a message into the queue. -/
  | enqueue
  | written
  deriving DecidableEq, Repr

namespace Subscription

def init (id : HexId) : Subscription where
  id := id
  phase := .reading
  unwatched := false
  closing := false
  queued := 0
  sent := []

def stop (subscription : Subscription) : Subscription :=
  { subscription with phase := .stopped }

/-- `_cleanup` cancels the pump. -/
def close (subscription : Subscription) : Subscription :=
  { subscription with closing := true, phase := .stopped }

/-- `notify`, and what the pump does with its result: it goes on to `phase`, it returns, or its
handler sees the exception. -/
def notify (size : ℕ) (subscription : Subscription) (notification : SubscriptionFrame)
    (phase : PumpPhase) (raised : Subscription) : Subscription :=
  match notification.encode subscription.id with
  | .error .projection => subscription.stop
  | .error .unicode => raised
  | .ok _ =>
    if subscription.queued < size then
      { subscription with
        queued := subscription.queued + 1, phase := phase
        sent := subscription.sent ++ [notification] }
    else subscription.close

/-- The handlers of the pump. An exception in them leaves the task. -/
def report (size : ℕ) (subscription : Subscription) (code : ℤ) (serviceCode : Text) :
    Subscription :=
  subscription.notify size (.error code serviceCode) .stopped subscription.stop

/-- The handler for every other exception. -/
def internal (size : ℕ) (subscription : Subscription) : Subscription :=
  subscription.report size (-32603) (Text.ofString "internal_error")

def step (size : ℕ) (subscription : Subscription) : PumpLabel → Option Subscription
  | .returns event cursor =>
    if subscription.phase = .reading then
      some (subscription.notify size (.event event cursor) .yielding (subscription.internal size))
    else none
  | .resumes =>
    if subscription.phase = .yielding then some { subscription with phase := .reading } else none
  | .ends cursor =>
    if subscription.phase = .reading then
      some (subscription.notify size (.complete cursor) .stopped (subscription.internal size))
    else none
  | .fails failure =>
    if subscription.phase = .reading then
      match failure with
      | .service code => some (subscription.report size (-32000) code)
      | .other => some (subscription.internal size)
    else none
  | .unwatch =>
    if subscription.phase = .stopped then none
    else some { subscription.stop with unwatched := true }
  | .cleanup => some subscription.close
  | .enqueue =>
    if subscription.queued < size then
      some { subscription with queued := subscription.queued + 1 }
    else some subscription.close
  | .written =>
    if 0 < subscription.queued then
      some { subscription with queued := subscription.queued - 1 }
    else none

def machine (size : ℕ) : Machine Subscription PumpLabel where
  step := step size

/-! ### Frames that can be sent -/

theorem within_hex {value : Text} (digits : ∀ point ∈ value,
    (0x30 ≤ point.val ∧ point.val ≤ 0x39) ∨ (0x61 ≤ point.val ∧ point.val ≤ 0x66)) :
    value.Within value.length := by
  induction value with
  | nil => exact Text.within_nil
  | cons point rest ih =>
    have ascii : point.val < 0x80 := by
      have digit := digits point mem_cons_self
      omega
    have one : point.utf8Size? = some 1 := by
      unfold CodePoint.utf8Size?
      exact if_pos ascii
    have tail := ih fun other inside => digits other (mem_cons_of_mem _ inside)
    rw [length_cons, Nat.add_comm]
    exact Text.within_cons ⟨1, one, le_refl 1⟩ tail

theorem within_id (id : HexId) : id.val.Within 32 := by
  have hex := id.property
  simp only [isHexId, Bool.and_eq_true, decide_eq_true_eq, all_eq_true, Bool.or_eq_true] at hex
  have within := within_hex hex.2
  rwa [hex.1] at within

theorem encodes_member (id : HexId) {notification : SubscriptionFrame} {name : String}
    {value : Value}
    (params : notification.params id =
      .mapping true (.ofList [member "subscription_id" (.str true id.val), member name value]))
    (named : (Text.ofString name).Within 20)
    (method : (Text.ofString notification.method).Within 100)
    (projected : wire false 1 value = some value) (writable : value.writable = true)
    (small : value.weight ≤ 50000) : ∃ text, notification.encode id = .ok text := by
  have idWithin := within_id id
  have wired : projectResult (notification.params id) = some (notification.params id) := by
    rw [params]
    apply wire_members (Nat.zero_le _)
    · show 2 ≤ maxCollectionItems
      decide
    · intro entry present
      simp only [mem_cons, not_mem_nil, or_false] at present
      rcases present with rfl | rfl
      · exact ⟨_, rfl, wire_str (by decide) (idWithin.mono (by decide))⟩
      · exact ⟨_, rfl, projected⟩
  have literals : (Text.ofString "subscription_id").encodes = true ∧
      (Text.ofString "subscription_id").size = 15 := by
    decide
  have idSize := idWithin.encodes.2
  have nameSize := named.encodes.2
  apply encodeNotification_ok wired method
  · rw [params]
    simp only [cons_member_writable, literals.1, writable_str, idWithin.encodes.1,
      named.encodes.1, writable, nil_members.1, Bool.and_self]
  · rw [params]
    simp only [cons_member_weight, literals.2, weight_str, nil_members.2]
    omega

theorem encodes_complete (id : HexId) {cursor : ℕ} (small : cursor ≤ maxIntegerAbs) :
    ∃ text, (SubscriptionFrame.complete cursor).encode id = .ok text := by
  have known : (cursor : ℤ).natAbs ≤ maxIntegerAbs := by simpa using small
  apply @encodes_member id _ "cursor" _ rfl (by decide)
  · show (Text.ofString "runtime.subscription.complete").Within 100
    decide
  · exact wire_int (by decide) known
  · exact writable_int known
  · rw [weight_int]
    decide

theorem encodes_error (id : HexId) {code : ℤ} {serviceCode : Text}
    (known : code.natAbs ≤ maxIntegerAbs) (short : serviceCode.Within maxCommandIdBytes) :
    ∃ text, (SubscriptionFrame.error code serviceCode).encode id = .ok text := by
  have object := errorObject_writable known short
  have message : (Text.ofString (safeMessage code)).Within 50 := by
    unfold safeMessage
    split_ifs <;> decide
  apply @encodes_member id _ "error" _ rfl (by decide)
  · show (Text.ofString "runtime.subscription.error").Within 100
    decide
  · apply wire_members (by decide)
    · show 3 ≤ maxCollectionItems
      decide
    · intro entry present
      simp only [mem_cons, not_mem_nil, or_false] at present
      rcases present with rfl | rfl | rfl
      · exact ⟨_, rfl, wire_int (by decide) known⟩
      · exact ⟨_, rfl, wire_str (by decide) (message.mono (by decide))⟩
      · refine ⟨_, rfl, wire_members (by decide) ?_ ?_⟩
        · show 1 ≤ maxCollectionItems
          decide
        · intro inner inside
          obtain rfl := mem_singleton.mp inside
          exact ⟨_, rfl, wire_str (by decide) (short.mono (by decide))⟩
  · exact object.1
  · have bounded := object.2
    omega

/-! ### The runs -/

/-- The events that the stream has returned, as they are sent. -/
def returned : List PumpLabel → List SubscriptionFrame :=
  List.filterMap fun label =>
    match label with
    | .returns event cursor => some (.event event cursor)
    | _ => none

/-- What the stream gives to the pump can be sent. -/
def Encodable (subscription : Subscription) : PumpLabel → Bool
  | .returns event cursor => ((SubscriptionFrame.event event cursor).encode subscription.id).toBool
  | .ends cursor => decide (cursor ≤ maxIntegerAbs)
  | .fails (.service code) => fitsBytes maxCommandIdBytes code
  | _ => true

/-- While the connection is open, every returned event is sent. Behind them stands one terminal
notification once the pump has stopped by itself, and nothing otherwise. -/
def Told (done : List PumpLabel) (subscription : Subscription) : Prop :=
  subscription.closing = false →
    (subscription.phase = .stopped → subscription.unwatched = false →
      ∃ terminal : SubscriptionFrame, terminal.terminal = true ∧
        subscription.sent = returned done ++ [terminal]) ∧
    (subscription.phase ≠ .stopped →
      subscription.unwatched = false ∧ subscription.sent = returned done)

variable {size : ℕ} {subscription next : Subscription} {done : List PumpLabel}

theorem told_init (id : HexId) : Told [] (init id) :=
  fun _ => ⟨nofun, fun _ => ⟨rfl, rfl⟩⟩

theorem returned_silent {label : PumpLabel} (silent : ∀ event cursor, label ≠ .returns event cursor) :
    returned (done ++ [label]) = returned done := by
  unfold returned
  rw [filterMap_append]
  cases label with
  | returns event cursor => exact absurd rfl (silent event cursor)
  | resumes | ends _ | fails _ | unwatch | cleanup | enqueue | written => exact append_nil _

/-- A notification that can be encoded is sent, or the connection is closed for the overflow. -/
theorem notify_of_encodes {notification : SubscriptionFrame} {phase : PumpPhase}
    {raised : Subscription} {text : Text}
    (encodes : notification.encode subscription.id = .ok text) :
    (subscription.notify size notification phase raised).closing = true ∨
      ((subscription.notify size notification phase raised).phase = phase ∧
        (subscription.notify size notification phase raised).unwatched = subscription.unwatched ∧
        (subscription.notify size notification phase raised).sent =
          subscription.sent ++ [notification]) := by
  unfold notify
  rw [encodes]
  simp only
  split
  · exact .inr ⟨rfl, rfl, rfl⟩
  · exact .inl rfl

variable {label : PumpLabel} {notification : SubscriptionFrame}
variable {raised : Subscription}

theorem Told.ended (told : Told done subscription) {text : Text}
    (isOpen : subscription.closing = false) (reading : subscription.phase = .reading)
    (silent : ∀ event cursor, label ≠ .returns event cursor)
    (terminal : notification.terminal = true)
    (encodes : notification.encode subscription.id = .ok text) :
    Told (done ++ [label]) (subscription.notify size notification .stopped raised) := by
  intro stillOpen
  have before := (told isOpen).2 (by rw [reading]; exact nofun)
  rcases @notify_of_encodes size subscription notification .stopped raised text encodes with
    closed | ⟨stopped, _, sent⟩
  · rw [closed] at stillOpen
    cases stillOpen
  · rw [stopped, sent, before.2, returned_silent silent]
    exact ⟨fun _ _ => ⟨notification, terminal, rfl⟩, fun running => absurd rfl running⟩

theorem Told.internal (told : Told done subscription)
    (isOpen : subscription.closing = false) (reading : subscription.phase = .reading)
    (silent : ∀ event cursor, label ≠ .returns event cursor) :
    Told (done ++ [label]) (subscription.internal size) := by
  rcases encodes_error subscription.id (show Int.natAbs (-32603) ≤ maxIntegerAbs by decide)
    (show (Text.ofString "internal_error").Within maxCommandIdBytes by decide) with ⟨text, encodes⟩
  exact told.ended isOpen reading silent rfl encodes

theorem Told.quiet (told : Told done subscription)
    (silent : ∀ event cursor, label ≠ .returns event cursor)
    (closing : next.closing = subscription.closing) (phase : next.phase = subscription.phase)
    (unwatched : next.unwatched = subscription.unwatched) (sent : next.sent = subscription.sent) :
    Told (done ++ [label]) next := by
  intro isOpen
  rw [closing] at isOpen
  rw [phase, unwatched, sent, returned_silent silent]
  exact told isOpen

theorem notify_closing {phase : PumpPhase}
    (closed : subscription.closing = true) (also : raised.closing = true) :
    (subscription.notify size notification phase raised).closing = true := by
  unfold notify
  split
  · exact closed
  · exact also
  · split
    · exact closed
    · rfl

theorem internal_closing (closed : subscription.closing = true) :
    (subscription.internal size).closing = true :=
  notify_closing closed closed

theorem closing_of_step (closed : subscription.closing = true)
    (stepped : subscription.step size label = some next) : next.closing = true := by
  cases label <;> simp only [Subscription.step] at stepped
  case returns event cursor =>
    rcases of_guard stepped with ⟨_, rfl⟩
    exact notify_closing closed (internal_closing closed)
  case resumes =>
    rcases of_guard stepped with ⟨_, rfl⟩
    exact closed
  case ends cursor =>
    rcases of_guard stepped with ⟨_, rfl⟩
    exact notify_closing closed (internal_closing closed)
  case fails failure =>
    rcases Option.ite_none_right_eq_some.mp stepped with ⟨_, stepped⟩
    cases failure with
    | service code =>
      cases stepped
      exact notify_closing closed closed
    | other =>
      cases stepped
      exact internal_closing closed
  case unwatch =>
    rcases Option.ite_none_left_eq_some.mp stepped with ⟨_, ⟨⟩⟩
    exact closed
  case cleanup =>
    cases stepped
    rfl
  case enqueue =>
    split at stepped
    · cases stepped
      exact closed
    · cases stepped
      rfl
  case written =>
    rcases of_guard stepped with ⟨_, rfl⟩
    exact closed

theorem Told.step (told : Told done subscription) (encodable : subscription.Encodable label = true)
    (stepped : subscription.step size label = some next) : Told (done ++ [label]) next := by
  -- A closed connection stays closed, and the claim is about open ones.
  by_cases isOpen : subscription.closing = false
  · cases label with
    | returns event cursor =>
      rcases of_guard stepped with ⟨reading, rfl⟩
      have before := (told isOpen).2 (by rw [reading]; exact nofun)
      cases encoded : (SubscriptionFrame.event event cursor).encode subscription.id with
      | error error =>
        simp only [Encodable, encoded] at encodable
        cases encodable
      | ok text =>
        intro stillOpen
        rcases @notify_of_encodes size subscription _ .yielding (subscription.internal size)
          text encoded with closed | ⟨yielding, unwatched, sent⟩
        · rw [closed] at stillOpen
          cases stillOpen
        · rw [yielding, unwatched, sent, before.1, before.2]
          refine ⟨nofun, fun _ => ⟨rfl, ?_⟩⟩
          unfold returned
          rw [filterMap_append]
          rfl
    | resumes =>
      rcases of_guard stepped with ⟨yielding, rfl⟩
      have before := (told isOpen).2 (by rw [yielding]; exact nofun)
      intro _
      rw [@returned_silent done .resumes nofun]
      exact ⟨nofun, fun _ => before⟩
    | ends cursor =>
      rcases of_guard stepped with ⟨reading, rfl⟩
      rcases encodes_complete subscription.id (of_decide_eq_true encodable) with ⟨text, encodes⟩
      exact told.ended isOpen reading nofun rfl encodes
    | fails failure =>
      rcases Option.ite_none_right_eq_some.mp stepped with ⟨reading, stepped⟩
      cases failure with
      | service code =>
        cases stepped
        rcases encodes_error subscription.id
          (show Int.natAbs (-32000) ≤ maxIntegerAbs by decide)
          (fitsBytes_iff.mp encodable) with ⟨text, encodes⟩
        exact told.ended isOpen reading nofun rfl encodes
      | other =>
        cases stepped
        exact told.internal isOpen reading nofun
    | unwatch =>
      rcases Option.ite_none_left_eq_some.mp stepped with ⟨_, ⟨⟩⟩
      exact fun _ => ⟨fun _ => nofun, fun running => absurd rfl running⟩
    | cleanup =>
      cases stepped
      exact nofun
    | enqueue =>
      simp only [Subscription.step] at stepped
      split at stepped
      · cases stepped
        exact told.quiet nofun rfl rfl rfl rfl
      · cases stepped
        exact nofun
    | written =>
      rcases of_guard stepped with ⟨_, rfl⟩
      exact told.quiet nofun rfl rfl rfl rfl
  · intro stillOpen
    rw [closing_of_step (Bool.not_eq_false _ ▸ isOpen) stepped] at stillOpen
    cases stillOpen

/-- When the pump of a subscription has stopped by itself on an open connection, every event that
the stream returned was sent in order, and then exactly one terminal notification. -/
theorem told_of_encodable {id : HexId} {labels : List PumpLabel}
    (guarded : (machine size).Guarded
      (fun subscription label => subscription.Encodable label = true) (init id) labels)
    (ran : (machine size).run (init id) labels = some subscription)
    (stopped : subscription.phase = .stopped) (isOpen : subscription.closing = false)
    (watched : subscription.unwatched = false) :
    ∃ terminal : SubscriptionFrame, terminal.terminal = true ∧
      subscription.sent = returned labels ++ [terminal] := by
  have told : Told labels subscription := by
    have general : ∀ {start : Subscription} {done : List PumpLabel}, Told done start →
        (machine size).Guarded (fun subscription label => subscription.Encodable label = true)
          start labels →
        (machine size).run start labels = some subscription → Told (done ++ labels) subscription := by
      clear ran guarded
      induction labels with
      | nil =>
        intro start done told _ ran
        obtain rfl : start = subscription := by simpa using ran
        rw [List.append_nil]
        exact told
      | cons label labels ih =>
        intro start done told guarded ran
        rcases Machine.run_cons.mp ran with ⟨middle, stepped, rest⟩
        have after := ih (told.step guarded.1 stepped) (guarded.2 middle stepped) rest
        rwa [List.append_assoc] at after
    exact general (told_init id) guarded ran
  exact (told isOpen).1 stopped watched

/-- The id of the examples. -/
def plainId : HexId :=
  ⟨List.replicate 32 0x61, by decide⟩

def plainEvent (payload : Value) : RuntimeEvent where
  sequence := 1
  turnSequence := 1
  turnId := Text.ofString "t"
  kind := Text.ofString "answer_delta"
  payload := payload
  version := 1

/-- The stream returns one event, and the broker is closed. -/
theorem told_of_encodable_closed : ∃ subscription,
    (machine 128).run (init plainId)
      [.returns (plainEvent (.str true (Text.ofString "x"))) 1, .resumes, .ends 1] =
        some subscription ∧
      ∃ terminal : SubscriptionFrame, terminal.terminal = true ∧
        subscription.sent =
          [.event (plainEvent (.str true (Text.ofString "x"))) 1, terminal] := by
  have reached : ∃ subscription,
      (machine 128).run (init plainId)
        [.returns (plainEvent (.str true (Text.ofString "x"))) 1, .resumes, .ends 1] =
          some subscription ∧
        (machine 128).Guarded
          (fun subscription label => subscription.Encodable label = true) (init plainId)
          [.returns (plainEvent (.str true (Text.ofString "x"))) 1, .resumes, .ends 1] ∧
        subscription.phase = .stopped ∧ subscription.closing = false ∧
        subscription.unwatched = false := by
    decide +kernel
  rcases reached with ⟨subscription, ran, guarded, stopped, isOpen, watched⟩
  exact ⟨subscription, ran, told_of_encodable guarded ran stopped isOpen watched⟩

/-- An envelope whose payload the service projects, and the wire does not. -/
def largeEnvelope : Service.Envelope where
  sequence := 1
  turnSequence := 1
  turnId := Text.ofString "t"
  kind := Text.ofString "answer_delta"
  payload := .int true (2 ^ 63)
  version := 1

/-- The watch returns an event with an integer beyond the wire, and the pump ends in silence. -/
theorem subscription_silent :
    Service.toRuntimeEvent (1024 * 1024) largeEnvelope =
      .ok (plainEvent (.int true (2 ^ 63))) ∧
    ∃ subscription,
      (machine 128).run (init plainId) [.returns (plainEvent (.int true (2 ^ 63))) 1] =
        some subscription ∧
      subscription.phase = .stopped ∧ subscription.closing = false ∧
      subscription.unwatched = false ∧ subscription.sent = [] := by
  decide +kernel

end Subscription

end Synapse.Transport
