import Synapse.Foundation.Fallible
import Synapse.Python.Text

/-!
# Collaboration records and transitions

The records of the collaboration mailbox, the validation of the texts they hold,
and the three transition tables. A record is one row of its table.
-/

namespace Synapse.Collaboration

/-- The errors of the module, each with its text, and three that come from
below: `sqlite3.IntegrityError`, `UnicodeEncodeError`, and the `KeyError` or
`TypeError` of a failed lookup. -/
inductive CollaborationError where
  | invalid (message : String)
  | conflict (message : String)
  | notFound (message : String)
  | capacity (message : String)
  | integrity
  | unencodable
  | lookup
  deriving DecidableEq, Repr

/-- Whether `except CollaborationError` catches the error. -/
def CollaborationError.isDomain : CollaborationError → Bool
  | .integrity | .unencodable | .lookup => false
  | _ => true

abbrev Fallible (Value : Type) := Except CollaborationError Value

def maxIdBytes : ℕ := 256
def maxBodyBytes : ℕ := 32 * 1024
def maxPageSize : ℕ := 100
def maxMessages : ℕ := 64

/-! ### States -/

inductive RequestState where
  | pending | working | waitingInput | replied | cancelled | failed | review
  deriving DecidableEq, Repr

inductive MessageKind where
  | request | clarification | supplement | reply | progress
  deriving DecidableEq, Repr

inductive DeliveryState where
  | pending | claimed | running | settled | cancelled | review
  deriving DecidableEq, Repr

inductive ScopeState where
  | active | receiveOnly | revoked
  deriving DecidableEq, Repr

/-- A state domain with its transition table. -/
class Lifecycle (State : Type) where
  edges : State → List State

/-- `_REQUEST_EDGES`. -/
instance : Lifecycle RequestState where
  edges
    | .pending => [.working, .cancelled, .review]
    | .working => [.waitingInput, .replied, .failed, .review, .cancelled]
    | .waitingInput => [.pending, .replied, .failed, .review, .cancelled]
    | .review => [.failed]
    | .replied | .cancelled | .failed => []

/-- `_DELIVERY_EDGES`. -/
instance : Lifecycle DeliveryState where
  edges
    | .pending => [.claimed, .cancelled]
    | .claimed => [.running, .cancelled, .review]
    | .running => [.settled, .review]
    | .review => [.settled]
    | .settled | .cancelled => []

/-- `_SCOPE_EDGES`. -/
instance : Lifecycle ScopeState where
  edges
    | .active => [.receiveOnly, .revoked]
    | .receiveOnly => [.revoked]
    | .revoked => []

def checkTransition {State : Type} [Lifecycle State] [DecidableEq State] (before after : State) :
    Fallible Unit :=
  raiseIf (after ∉ Lifecycle.edges before) (.conflict "state transition is not allowed")

/-! ### Texts -/

def boundedText (value : Text) (maximum : ℕ) : Fallible Unit := do
  raiseIf (value.all CodePoint.isSpace ∨ 0 ∈ value)
    (.invalid "text must be nonempty and contain no NUL")
  raiseIf (maximum < value.length) (.invalid "text exceeds byte limit")
  let size ← orRaise value.utf8Size? (.invalid "text must be valid UTF-8")
  raiseIf (maximum < size) (.invalid "text exceeds byte limit")

def optionalText (value : Text) : Fallible Unit :=
  if value = [] then pure () else boundedText value maxIdBytes

def pageSize (limit : ℤ) : Fallible Unit :=
  raiseIf (¬(1 ≤ limit ∧ limit ≤ maxPageSize)) (.invalid "invalid page size")

/-! ### Records -/

structure SessionRef where
  projectId : Text
  threadId : Text
  deriving DecidableEq, Repr

def validateRef (ref : SessionRef) : Fallible Unit := do
  boundedText ref.projectId maxIdBytes
  boundedText ref.threadId maxIdBytes

structure ContinuationScope where
  id : Text
  source : SessionRef
  workId : Text
  state : ScopeState
  version : ℕ
  deriving DecidableEq, Repr

structure Request where
  id : Text
  scopeId : Text
  source : SessionRef
  target : SessionRef
  operationKey : Text
  body : Text
  anchorTurnId : Text
  state : RequestState
  version : ℕ
  createdAtMs : ℤ
  updatedAtMs : ℤ
  continuation : ScopeState
  controlVersion : ℕ
  deriving DecidableEq, Repr

structure Message where
  id : Text
  requestId : Text
  sequence : ℕ
  sender : SessionRef
  kind : MessageKind
  body : Text
  operationKey : Text
  anchorTurnId : Text
  createdAtMs : ℤ
  deriving DecidableEq, Repr

structure Delivery where
  id : Text
  messageId : Text
  requestId : Text
  recipient : SessionRef
  scopeId : Text
  state : DeliveryState
  version : ℕ
  turnId : Option Text
  reason : Option Text
  sequence : ℕ
  deriving DecidableEq, Repr

/-- `SET state=?,version=version+1,reason=?` on a delivery. -/
def Delivery.retire (delivery : Delivery) (state : DeliveryState) (reason : String) : Delivery :=
  { delivery with state, version := delivery.version + 1, reason := some (Text.ofString reason) }

/-- The delivery after its own step to `RUNNING`. -/
def Delivery.start (delivery : Delivery) (turnId reason : Option Text) : Delivery :=
  { delivery with
    state := .running
    version := delivery.version + 1
    turnId := delivery.turnId.or turnId
    reason := reason.or delivery.reason }

/-- `SET state=?,version=version+1,updated_at_ms=?` on a request. -/
def Request.advance (request : Request) (state : RequestState) (now : ℤ) : Request :=
  { request with state, version := request.version + 1, updatedAtMs := now }

/-- `'claimed', 'running', 'review'`: the states that own the recipient. -/
def DeliveryState.owns : DeliveryState → Bool
  | .claimed | .running | .review => true
  | _ => false

/-- `'pending', 'claimed', 'running', 'review'`: the states that fill a mailbox. -/
def DeliveryState.occupies (state : DeliveryState) : Bool :=
  state == .pending || state.owns

/-- A digit of `uuid4().hex`. -/
def isHexDigit (point : CodePoint) : Bool :=
  (0x30 ≤ point.val && point.val ≤ 0x39) || (0x61 ≤ point.val && point.val ≤ 0x66)

/-- What `_id()` returns: 32 hexadecimal digits. -/
structure FreshId where
  text : Text
  hex : text.length = 32 ∧ text.all isHexDigit = true

/-! ### Lemmas on validation -/

theorem mem_edges_of_checkTransition {State : Type} [Lifecycle State] [DecidableEq State]
    {before after : State} {done : Unit} (checked : checkTransition before after = .ok done) :
    after ∈ Lifecycle.edges before := by
  simpa [checkTransition] using checked

theorem checkTransition_of_mem_edges {State : Type} [Lifecycle State] [DecidableEq State]
    {before after : State} (edge : after ∈ Lifecycle.edges before) :
    checkTransition before after = .ok () :=
  raiseIf_of_not _ (not_not.mpr edge)

theorem isHexDigit_ascii {point : CodePoint} (digit : isHexDigit point = true) :
    point.isSpace = false ∧ point ≠ 0 ∧ point.utf8Size? = some 1 := by
  have bounds : 0x30 ≤ point.val ∧ point.val ≤ 0x66 := by
    simp only [isHexDigit, Bool.or_eq_true, Bool.and_eq_true, decide_eq_true_eq] at digit
    omega
  refine ⟨?_, ?_, ?_⟩
  · simp only [CodePoint.isSpace, Bool.or_eq_false_iff, Bool.and_eq_false_iff,
      decide_eq_false_iff_not, beq_eq_false_iff_ne]
    omega
  · rintro rfl
    simp at bounds
  · simp only [CodePoint.utf8Size?]
    rw [if_pos (by omega)]

theorem utf8Size?_of_hex {value : Text} (digits : value.all isHexDigit = true) :
    value.utf8Size? = some value.length := by
  induction value with
  | nil => rfl
  | cons point rest ih =>
    simp only [List.all_cons, Bool.and_eq_true] at digits
    simp only [Text.utf8Size?, List.foldr_cons] at ih ⊢
    rw [ih digits.2, (isHexDigit_ascii digits.1).2.2]
    simp [Nat.add_comm]

/-- A fresh identifier passes every later validation of it. -/
theorem FreshId.boundedText (fresh : FreshId) : boundedText fresh.text maxIdBytes = .ok () := by
  rcases fresh with ⟨value, length, digits⟩
  have readable : ¬(value.all CodePoint.isSpace = true ∨ 0 ∈ value) := by
    rw [List.all_eq_true] at digits
    rintro (blank | nul)
    · have first : 0 < value.length := by omega
      have present : value[0] ∈ value := List.getElem_mem first
      rw [List.all_eq_true] at blank
      have solid := (isHexDigit_ascii (digits _ present)).1
      simp [blank _ present] at solid
    · exact (isHexDigit_ascii (digits 0 nul)).2.1 rfl
  simp only [Collaboration.boundedText, utf8Size?_of_hex digits, length, orRaise]
  rw [raiseIf_of_not _ readable]
  rfl

end Synapse.Collaboration
