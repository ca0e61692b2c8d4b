import Synapse.Foundation.Machine
import Synapse.Python.Lines
import Synapse.Requests.ReadLifecycle

/-!
# Rows of program calls

A program that a `run_code` call runs calls tools itself, and what it calls is told in custom events.
`PtcToolTracker` turns them into rows below that of the call. An event names its call by the provider's
id; while no row with the id is live, the event waits in a queue that is bounded over all ids. The
rows in progress are kept under the id of the program's call alone.
-/

namespace Synapse.Streaming

open List

/-- The parts of the host that are not written here. -/
structure Host extends Requests.Host where
  /-- `str.lower` -/
  lower : Text → Text
  /-- The preview of a checklist call, from its name and arguments. -/
  checklist : Text → Entries → Option Text

/-! ### Events -/

inductive EventKind where
  | started | finished
  deriving DecidableEq, Repr

structure PtcToolEvent where
  event : EventKind
  parentCallId : Text
  callId : Text
  name : Text
  args : Entries
  status : Option Text
  preview : Option Text
  deriving DecidableEq

def ptcEventType : Text := Text.ofString "ptc_tool"

def maxPreviewChars : ℕ := 400

def eventKind? (text : Text) : Option EventKind :=
  if text = Text.ofString "started" then some .started
  else if text = Text.ofString "finished" then some .finished
  else none

/-- `_bounded_preview` -/
def boundedPreview (host : Host) (value : Value) : Option Text :=
  if value = .null then none
  else
    let text := host.str value
    if text.strip = [] then none
    else if text.length ≤ maxPreviewChars then some text
    else some ((text.take (maxPreviewChars - 1)).rdropWhile CodePoint.isSpace ++ Text.ofString "…")

def dictOf : Value → Entries
  | .mapping true entries => entries
  | _ => .nil

def parsePtcEvent (host : Host) : Value → Option PtcToolEvent
  | .mapping true entries =>
    let field (name : String) := entries.get? (Text.ofString name)
    let given (name : String) := (field name).getD .null
    if host.strOr (field "type") ≠ ptcEventType then none
    else
      let parentCallId := (host.strOr (field "parent_call_id")).strip
      let callId := (host.strOr (field "call_id")).strip
      let name := (host.strOr (field "name")).strip
      (eventKind? (host.lower (host.strOr (field "event")).strip)).bind fun event =>
        if parentCallId = [] ∨ callId = [] ∨ name = [] then none
        else some
          { event, parentCallId, callId, name
            args := dictOf (given "args")
            status :=
              if given "status" = .null then none
              else some (host.lower (host.str (given "status")).strip)
            preview := boundedPreview host (given "preview") }
  | _ => none

/-! ### Rows -/

inductive ItemStatus where
  | running | ok | error | failed | cancelled | canceled
  deriving DecidableEq, Repr

structure ToolItem where
  id : Text
  name : Text
  status : ItemStatus
  preview : Option Text
  error : Bool
  sub : Bool
  parentId : Option Text
  callId : Option Text
  deriving DecidableEq

/-- `build_tool_item` -/
def buildToolItem (host : Host) (name : Text) (args : Entries) (callId : Option Text)
    (itemId : Text) (sub : Bool) : ToolItem where
  id := itemId
  name := if name = [] then Text.ofString "?" else name
  status := .running
  preview := host.checklist name args
  error := false
  sub := sub
  parentId := none
  callId := callId.filter (· ≠ [])

def childId (parentId callId : Text) : Text :=
  parentId ++ Text.ofString "-ptc-" ++ callId

/-- `build_ptc_child` -/
def buildPtcChild (host : Host) (event : PtcToolEvent) (parent : ToolItem) : ToolItem :=
  { buildToolItem host event.name event.args (some event.callId) (childId parent.id event.callId) true
    with
    parentId := some parent.id
    callId := some event.callId }

/-- The first row that is not nested and has the provider's id. -/
def resolveParent (pending : List ToolItem) (parentCallId : Text) : Option ToolItem :=
  let wanted := parentCallId.strip
  if wanted = [] then none
  else pending.find? fun item => !item.sub && item.callId.getD [] = wanted

inductive SinkCall where
  | started (item : ToolItem)
  | finished (id : Text) (status : ItemStatus) (preview : Option Text) (error : Bool)
  deriving DecidableEq

/-! ### The tracker -/

structure PtcToolTracker where
  children : List (Text × ToolItem) := []
  deferred : List (Text × List PtcToolEvent) := []
  deferredCount : ℤ := 0

/-- A parse of the stream. The events that a flush has taken from the queue are applied one by one. -/
structure StreamState where
  tracker : PtcToolTracker := {}
  pending : List ToolItem := []
  toolGroupSeq : ℕ := 0
  index : ℕ := 0
  flushing : List (ToolItem × PtcToolEvent) := []
  /-- The rows of calls that were started, and the events that were recognised. -/
  parents : List ToolItem := []
  received : List PtcToolEvent := []
  log : List SinkCall := []

/-- `self._deferred.setdefault(key, []).append(event)` -/
def setdefaultAppend (key : Text) (event : PtcToolEvent) :
    List (Text × List PtcToolEvent) → List (Text × List PtcToolEvent)
  | [] => [(key, [event])]
  | entry :: rest =>
    if entry.1 = key then (key, entry.2 ++ [event]) :: rest
    else entry :: setdefaultAppend key event rest

namespace StreamState

/-- `_start` -/
def start (host : Host) (event : PtcToolEvent) (parent : ToolItem) (state : StreamState) :
    StreamState :=
  if (state.tracker.children.lookup event.callId).isSome then state
  else
    let child := buildPtcChild host event parent
    { state with
      tracker := { state.tracker with
        children := state.tracker.children ++ [(event.callId, child)] }
      pending := state.pending ++ [child]
      log := state.log ++ [.started child] }

/-- A row is told to be finished, and goes from the pending rows and from the children. -/
def close (key : Text) (child : ToolItem) (status : ItemStatus) (preview : Option Text)
    (error : Bool) (state : StreamState) : StreamState :=
  { state with
    tracker := { state.tracker with
      children := state.tracker.children.filter fun entry => entry.1 ≠ key }
    pending := state.pending.erase child
    log := state.log ++ [.finished child.id status preview error] }

def failure (host : Host) (status : Option Text) : Bool :=
  host.lower (status.getD []) ∈
    [Text.ofString "error", Text.ofString "failed", Text.ofString "failure"]

/-- `_finish` -/
def finish (host : Host) (event : PtcToolEvent) (state : StreamState) : StreamState :=
  match state.tracker.children.lookup event.callId with
  | none => state
  | some child =>
    let failed := failure host event.status
    state.close event.callId child (if failed then .error else .ok)
      (event.preview.orElse fun _ => child.preview) failed

/-- `_apply` -/
def apply (host : Host) (event : PtcToolEvent) (parent : ToolItem) (state : StreamState) :
    StreamState :=
  match event.event with
  | .started => state.start host event parent
  | .finished => state.finish host event

/-- `_defer` -/
def defer (maxDeferred : ℤ) (event : PtcToolEvent) (state : StreamState) : StreamState :=
  if max 0 maxDeferred ≤ 0 ∨ max 0 maxDeferred ≤ state.tracker.deferredCount then state
  else
    { state with
      tracker := { state.tracker with
        deferred := setdefaultAppend event.parentCallId event state.tracker.deferred
        deferredCount := state.tracker.deferredCount + 1 } }

/-- The events of an id are taken from the queue. -/
def dropDeferred (key : Text) (state : StreamState) : StreamState :=
  match state.tracker.deferred.lookup key with
  | none => state
  | some events =>
    { state with
      tracker := { state.tracker with
        deferred := state.tracker.deferred.filter fun entry => entry.1 ≠ key
        deferredCount := state.tracker.deferredCount - events.length } }

/-- `_flush`; the events go unapplied if their parent is not live. -/
def flush (key : Text) (state : StreamState) : StreamState :=
  match resolveParent state.pending key with
  | none => state.dropDeferred key
  | some parent =>
    { state.dropDeferred key with
      flushing := ((state.tracker.deferred.lookup key).getD []).map fun event => (parent, event) }

/-- `handle` -/
def handle (host : Host) (maxDeferred : ℤ) (data : Value) (state : StreamState) : StreamState :=
  match parsePtcEvent host data with
  | none => state
  | some event =>
    let state := { state with received := state.received ++ [event] }
    match resolveParent state.pending event.parentCallId with
    | none => state.defer maxDeferred event
    | some parent => (state.apply host event parent).flush event.parentCallId

/-- A child is sealed if it still runs. -/
def sealChild (failed : Bool) (state : StreamState) (child : ToolItem) : StreamState :=
  if child.status ≠ .running then state
  else
    state.close (child.callId.getD []) child (if failed then .error else .ok) child.preview failed

def parentFailed (parent : ToolItem) : Bool :=
  parent.error ∨ parent.status ∈ [.error, .failed, .cancelled, .canceled]

/-- `finish_parent_children` -/
def finishParentChildren (parent : ToolItem) (state : StreamState) : StreamState :=
  if parent.id = [] then state
  else
    let children := state.pending.filter fun child => child.sub ∧ child.parentId = some parent.id
    (children.foldl (sealChild (parentFailed parent)) state).dropDeferred (parent.callId.getD [])

/-- `g{group}-{index}` -/
def itemId (group index : ℕ) : Text :=
  Text.ofString "g" ++ Text.ofString group.repr ++ Text.ofString "-" ++ Text.ofString index.repr

/-- The row of a call is started, and the events that wait for it are flushed. -/
def parentStarted (host : Host) (name : Text) (args : Entries) (callId : Option Text)
    (state : StreamState) : StreamState :=
  let item := buildToolItem host name args callId (itemId state.toolGroupSeq state.index) false
  let state :=
    { state with
      pending := state.pending ++ [item]
      parents := state.parents ++ [item]
      index := state.index + 1 }
  if item.callId.getD [] = [] then state else state.flush (item.callId.getD [])

/-- The result of a call: its row is finished and its children are sealed. -/
def parentResult (id : Text) (failed : Bool) (state : StreamState) : Option StreamState :=
  (state.pending.find? fun item => !item.sub && item.id = id).map fun item =>
    let finished := { item with status := if failed then .error else .ok, error := failed }
    let state := state.finishParentChildren finished
    { state with pending := state.pending.erase item }

end StreamState

/-! ### Runs -/

inductive Action where
  | custom (data : Value)
  /-- The next event of a flush is applied. -/
  | flushNext
  /-- A message with calls. -/
  | group
  | call (name : Text) (args : Entries) (callId : Option Text)
  | result (id : Text) (failed : Bool)

open StreamState

def stream (host : Host) (maxDeferred : ℤ) : Machine StreamState Action where
  step state action :=
    match state.flushing, action with
    | [], .custom data => some (state.handle host maxDeferred data)
    | [], .flushNext => none
    | [], .group => some { state with toolGroupSeq := state.toolGroupSeq + 1, index := 0 }
    | [], .call name args callId => some (state.parentStarted host name args callId)
    | [], .result id failed => state.parentResult id failed
    | (parent, event) :: rest, .flushNext =>
      some ({ state with flushing := rest }.apply host event parent)
    | _ :: _, _ => none

/-! ### What the rows are told to do -/

/-- The rows that were started, in order. -/
def starts (log : List SinkCall) : List ToolItem :=
  log.filterMap fun told =>
    match told with
    | .started item => some item
    | .finished .. => none

def isFinish (id : Text) : SinkCall → Bool
  | .started _ => false
  | .finished other _ _ _ => other = id

/-- How often a row was finished. -/
def finishes (id : Text) (log : List SinkCall) : ℕ :=
  log.countP (isFinish id)

/-- The parent and the id of a call. -/
def rowKey (item : ToolItem) : Option Text × Option Text :=
  (item.parentId, item.callId)

/-- The number of queued events. -/
def queued (deferred : List (Text × List PtcToolEvent)) : ℕ :=
  (deferred.map fun entry => entry.2.length).sum

/-- A row is started once for a parent and a call id, from an event that names its parent; it is
finished once when its parent is no longer live; the queue is counted and bounded. -/
structure Attached (host : Host) (maxDeferred : ℤ) (state : StreamState) : Prop where
  once : ((starts state.log).map rowKey).Nodup
  own : ∀ child ∈ starts state.log, ∃ event ∈ state.received, event.event = .started ∧
    ∃ parent ∈ state.parents, parent.callId = some event.parentCallId ∧
      child = buildPtcChild host event parent
  finished : ∀ child ∈ starts state.log, finishes child.id state.log ≤ 1 ∧
    ((∀ parent ∈ state.pending, parent.sub = false → child.parentId ≠ some parent.id) →
      finishes child.id state.log = 1)
  counted : state.tracker.deferredCount = queued state.tracker.deferred
  bounded : (queued state.tracker.deferred : ℤ) ≤ max 0 maxDeferred

/-- The event that an action applies, and its parent. -/
def applied (host : Host) (state : StreamState) (action : Action) :
    Option (PtcToolEvent × ToolItem) :=
  match state.flushing, action with
  | [], .custom data =>
    (parsePtcEvent host data).bind fun event =>
      (resolveParent state.pending event.parentCallId).map fun parent => (event, parent)
  | (parent, event) :: _, .flushNext => some (event, parent)
  | _, _ => none

/-- The event starts a row that was started before and is no longer kept under its call id. -/
def Repaints (state : StreamState) (event : PtcToolEvent) (parent : ToolItem) : Prop :=
  event.event = .started ∧ state.tracker.children.lookup event.callId = none ∧
    (some parent.id, some event.callId) ∈ (starts state.log).map rowKey

def FirstStart (host : Host) (state : StreamState) (action : Action) : Prop :=
  ∀ event parent, applied host state action = some (event, parent) → ¬ Repaints state event parent

/-! ### The queue -/

variable {host : Host} {maxDeferred : ℤ} {state next : StreamState} {event : PtcToolEvent}
  {parent child : ToolItem} {key : Text}

theorem queued_cons (entry : Text × List PtcToolEvent) (deferred : List (Text × List PtcToolEvent)) :
    queued (entry :: deferred) = entry.2.length + queued deferred := by
  rw [queued, map_cons, sum_cons, queued]

theorem queued_setdefaultAppend (deferred : List (Text × List PtcToolEvent)) :
    queued (setdefaultAppend key event deferred) = queued deferred + 1 := by
  induction deferred with
  | nil => rfl
  | cons entry rest ih =>
    rw [setdefaultAppend]
    split
    · rw [queued_cons, queued_cons, length_append, length_singleton]
      omega
    · rw [queued_cons, queued_cons, ih]
      omega

variable {deferred : List (Text × List PtcToolEvent)}

theorem mem_setdefaultAppend
    {entry : Text × List PtcToolEvent} (present : entry ∈ setdefaultAppend key event deferred) :
    (∃ events, (key, events) ∈ deferred ∧ entry = (key, events ++ [event])) ∨
      entry = (key, [event]) ∨ entry ∈ deferred := by
  induction deferred with
  | nil => exact Or.inr (Or.inl (mem_singleton.1 present))
  | cons first rest ih =>
    rw [setdefaultAppend] at present
    split at present
    · rename_i same
      rcases mem_cons.1 present with rfl | later
      · refine Or.inl ⟨first.2, ?_, rfl⟩
        rw [← same]
        exact mem_cons_self
      · exact Or.inr (Or.inr (mem_cons_of_mem _ later))
    · rcases mem_cons.1 present with rfl | later
      · exact Or.inr (Or.inr mem_cons_self)
      · rcases ih later with ⟨events, inside, made⟩ | made | inside
        · exact Or.inl ⟨events, mem_cons_of_mem _ inside, made⟩
        · exact Or.inr (Or.inl made)
        · exact Or.inr (Or.inr (mem_cons_of_mem _ inside))

theorem keys_setdefaultAppend (deferred : List (Text × List PtcToolEvent)) :
    (setdefaultAppend key event deferred).map Prod.fst =
      if key ∈ deferred.map Prod.fst then deferred.map Prod.fst
      else deferred.map Prod.fst ++ [key] := by
  induction deferred with
  | nil => rfl
  | cons first rest ih =>
    rw [setdefaultAppend]
    split
    · rename_i same
      rw [map_cons, map_cons, if_pos (by rw [same]; exact mem_cons_self), same]
    · rename_i other
      rw [map_cons, ih, map_cons]
      by_cases inside : key ∈ rest.map Prod.fst
      · rw [if_pos inside, if_pos (mem_cons_of_mem _ inside)]
      · rw [if_neg inside, if_neg (by simp [inside, Ne.symm other]), cons_append]

theorem queued_filter {events : List PtcToolEvent}
    (once : (deferred.map Prod.fst).Nodup) (found : deferred.lookup key = some events) :
    queued (deferred.filter fun entry => entry.1 ≠ key) + events.length = queued deferred := by
  induction deferred with
  | nil => cases found
  | cons first rest ih =>
    rw [map_cons, nodup_cons] at once
    by_cases same : first.1 = key
    · rw [filter_cons_of_neg (by simp [same])]
      have all : (rest.filter fun entry => entry.1 ≠ key) = rest := by
        refine filter_eq_self.2 fun entry inside => decide_eq_true fun equal => once.1 ?_
        rw [same, ← equal]
        exact mem_map_of_mem inside
      have here : first.2 = events := by
        rcases first with ⟨name, own⟩
        cases same
        rw [lookup_cons_self] at found
        exact Option.some.inj found
      rw [all, queued_cons, here]
      omega
    · have later : rest.lookup key = some events := by
        rcases first with ⟨name, own⟩
        rw [lookup_cons, beq_false_of_ne (Ne.symm same)] at found
        exact found
      rw [filter_cons, if_pos (decide_eq_true same), queued_cons, queued_cons,
        ← ih once.2 later]
      omega

/-- What is queued was received, under the id of its parent, and is counted. -/
structure Waiting (maxDeferred : ℤ) (state : StreamState) : Prop where
  keys : (state.tracker.deferred.map Prod.fst).Nodup
  counted : state.tracker.deferredCount = queued state.tracker.deferred
  bounded : (queued state.tracker.deferred : ℤ) ≤ max 0 maxDeferred
  named : ∀ entry ∈ state.tracker.deferred, entry.1.strip = entry.1 ∧
    ∀ event ∈ entry.2, event.parentCallId = entry.1 ∧ event ∈ state.received

theorem Waiting.defer (waiting : Waiting maxDeferred state)
    (stripped : event.parentCallId.strip = event.parentCallId) (received : event ∈ state.received) :
    Waiting maxDeferred (state.defer maxDeferred event) := by
  unfold StreamState.defer
  split
  · exact waiting
  · rename_i room
    rw [not_or, not_le, not_le] at room
    have counted := waiting.counted
    constructor
    · change ((setdefaultAppend event.parentCallId event state.tracker.deferred).map Prod.fst).Nodup
      rw [keys_setdefaultAppend]
      split
      · exact waiting.keys
      · rename_i absent
        exact nodup_append.2 ⟨waiting.keys, nodup_singleton _,
          fun first inside second other same => absent (mem_singleton.1 other ▸ same ▸ inside)⟩
    · dsimp only
      rw [queued_setdefaultAppend, counted]
      push_cast
      rfl
    · dsimp only
      rw [queued_setdefaultAppend]
      push_cast
      omega
    · intro entry present
      rcases mem_setdefaultAppend present with ⟨events, inside, rfl⟩ | rfl | inside
      · refine ⟨stripped, fun other listed => ?_⟩
        rcases mem_append.1 listed with old | new
        · exact (waiting.named _ inside).2 other old
        · rw [mem_singleton.1 new]
          exact ⟨rfl, received⟩
      · refine ⟨stripped, fun other listed => ?_⟩
        rw [mem_singleton.1 listed]
        exact ⟨rfl, received⟩
      · exact waiting.named entry inside

theorem Waiting.dropDeferred (waiting : Waiting maxDeferred state) (key : Text) :
    Waiting maxDeferred (state.dropDeferred key) := by
  unfold StreamState.dropDeferred
  split
  · exact waiting
  · rename_i events found
    have counted := waiting.counted
    have bounded := waiting.bounded
    have split := queued_filter waiting.keys found
    constructor
    · exact waiting.keys.sublist (List.filter_sublist.map Prod.fst)
    · dsimp only
      omega
    · dsimp only
      omega
    · exact fun entry present => waiting.named entry (mem_of_mem_filter present)

/-! ### The ids of the rows -/

/-- The letter that the ids of calls lack. -/
def letterP : CodePoint := 0x70

theorem letterP_notMem_repr (value : ℕ) : letterP ∉ Text.ofString value.repr := by
  intro inside
  rw [Text.ofString, Nat.toList_repr, mem_map] at inside
  rcases inside with ⟨digit, present, same⟩
  have decimal := Nat.isDigit_of_mem_toDigits (by decide) (by decide) present
  exact Text.ne_of_isDigit decimal (by decide) same

theorem letterP_notMem_itemId (group index : ℕ) : letterP ∉ itemId group index := by
  have first : letterP ∉ Text.ofString "g" := by decide
  have second : letterP ∉ Text.ofString "-" := by decide
  simp only [itemId, mem_append, not_or]
  exact ⟨⟨⟨first, letterP_notMem_repr group⟩, second⟩, letterP_notMem_repr index⟩

theorem takeWhile_childId {parentId : Text} (plain : letterP ∉ parentId) (callId : Text) :
    (childId parentId callId).takeWhile (· ≠ letterP) = parentId ++ Text.ofString "-" := by
  have own : ∀ point ∈ parentId, decide (point ≠ letterP) = true := fun point inside =>
    decide_eq_true fun same => plain (same ▸ inside)
  rw [childId, append_assoc, takeWhile_append_of_pos own]
  rfl

/-- The id of a nested row tells its parent and its call, if the id of the parent lacks the letter. -/
theorem childId_inj {first second firstCall secondCall : Text} (plainFirst : letterP ∉ first)
    (plainSecond : letterP ∉ second) (same : childId first firstCall = childId second secondCall) :
    first = second ∧ firstCall = secondCall := by
  have parents : first = second := by
    have prefixes := congrArg (List.takeWhile (· ≠ letterP)) same
    rw [takeWhile_childId plainFirst, takeWhile_childId plainSecond] at prefixes
    exact append_cancel_right prefixes
  cases parents
  exact ⟨rfl, append_cancel_left same⟩

theorem starts_append (first second : List SinkCall) :
    starts (first ++ second) = starts first ++ starts second :=
  filterMap_append

theorem finishes_append (id : Text) (first second : List SinkCall) :
    finishes id (first ++ second) = finishes id first + finishes id second :=
  countP_append

/-! ### The rows -/

/-- The nested rows in progress are the children, and each has a live parent. -/
structure Rows (host : Host) (state : StreamState) : Prop where
  keys : (state.tracker.children.map Prod.fst).Nodup
  children : ∀ entry ∈ state.tracker.children, entry.2 ∈ state.pending ∧ entry.2.sub = true ∧
    entry.2.callId = some entry.1 ∧ entry.2.status = .running
  nested : ∀ item ∈ state.pending, item.sub = true → ∃ key, (key, item) ∈ state.tracker.children
  parent : ∀ item ∈ state.pending, item.sub = true →
    ∃ parent ∈ state.pending, parent.sub = false ∧ item.parentId = some parent.id
  known : ∀ item ∈ state.pending, item.sub = false → item ∈ state.parents
  ids : ∀ item ∈ state.parents, item.id ≠ [] ∧ letterP ∉ item.id
  single : (state.pending.filter (·.sub)).Nodup
  started : ∀ item ∈ state.pending, item.sub = true → item ∈ starts state.log
  own : ∀ child ∈ starts state.log, ∃ event ∈ state.received, event.event = .started ∧
    ∃ parent ∈ state.parents, parent.callId = some event.parentCallId ∧
      child = buildPtcChild host event parent

/-- The rows in progress are not finished, and the others are finished once. -/
structure Once (state : StreamState) : Prop where
  rows : ((starts state.log).map rowKey).Nodup
  finished : ∀ child ∈ starts state.log,
    finishes child.id state.log = if child ∈ state.pending then 0 else 1
  told : ∀ id, 0 < finishes id state.log → ∃ child ∈ starts state.log, child.id = id

/-- The queue may change, and events may be received. -/
structure SameRows (state next : StreamState) : Prop where
  children : next.tracker.children = state.tracker.children
  pending : next.pending = state.pending
  parents : next.parents = state.parents
  log : next.log = state.log
  received : ∀ event ∈ state.received, event ∈ next.received

theorem Rows.same (rows : Rows host state) (same : SameRows state next) : Rows host next := by
  rcases same with ⟨children, pending, parents, log, received⟩
  constructor
  · rw [children]
    exact rows.keys
  · rw [children, pending]
    exact rows.children
  · rw [children, pending]
    exact rows.nested
  · rw [pending]
    exact rows.parent
  · rw [pending, parents]
    exact rows.known
  · rw [parents]
    exact rows.ids
  · rw [pending]
    exact rows.single
  · rw [pending, log]
    exact rows.started
  · rw [log, parents]
    intro child started
    rcases rows.own child started with ⟨event, known, rest⟩
    exact ⟨event, received event known, rest⟩

theorem Once.same (once : Once state) (same : SameRows state next) : Once next := by
  rcases same with ⟨-, pending, -, log, -⟩
  constructor
  · rw [log]
    exact once.rows
  · rw [log, pending]
    exact once.finished
  · rw [log]
    exact once.told

variable {second first : ToolItem}

theorem Rows.child_unique (rows : Rows host state)
    (one : (key, first) ∈ state.tracker.children) (two : (key, second) ∈ state.tracker.children) :
    first = second := by
  have same := inj_on_of_nodup_map rows.keys one two rfl
  exact congrArg Prod.snd same

theorem Rows.notMem_erase (rows : Rows host state) (nested : child.sub = true) :
    child ∉ state.pending.erase child := by
  intro inside
  have left := count_pos_iff.2 inside
  rw [count_erase_self, ← count_filter nested] at left
  have atMost : List.count child (state.pending.filter ToolItem.sub) ≤ 1 :=
    nodup_iff_count_le_one.1 rows.single child
  omega

theorem starts_close (status : ItemStatus) (preview : Option Text) (error : Bool) :
    starts (state.close key child status preview error).log = starts state.log := by
  rw [close, starts_append]
  exact append_nil _

theorem Rows.close (rows : Rows host state) (open_ : (key, child) ∈ state.tracker.children)
    (status : ItemStatus) (preview : Option Text) (error : Bool) :
    Rows host (state.close key child status preview error) := by
  have nested := (rows.children _ open_).2.1
  have named := (rows.children _ open_).2.2.1
  have gone := rows.notMem_erase nested
  have within : ∀ item ∈ state.pending.erase child, item ∈ state.pending := fun item inside =>
    mem_of_mem_erase inside
  constructor
  · exact rows.keys.sublist (List.filter_sublist.map Prod.fst)
  · intro entry inside
    rcases mem_filter.1 inside with ⟨inside, other⟩
    have facts := rows.children entry inside
    refine ⟨(mem_erase_of_ne fun same => of_decide_eq_true other ?_).2 facts.1, facts.2⟩
    have equal : some entry.1 = some key := by rw [← facts.2.2.1, ← named, same]
    exact Option.some.inj equal
  · intro item inside itemNested
    rcases rows.nested item (within item inside) itemNested with ⟨name, listed⟩
    refine ⟨name, mem_filter.2 ⟨listed, decide_eq_true fun same => gone ?_⟩⟩
    subst same
    exact Eq.subst (motive := fun other => other ∈ state.pending.erase child)
      (rows.child_unique listed open_) inside
  · intro item inside itemNested
    rcases rows.parent item (within item inside) itemNested with ⟨parent, live, top, own⟩
    refine ⟨parent, (mem_erase_of_ne fun same => ?_).2 live, top, own⟩
    rw [same, nested] at top
    cases top
  · exact fun item inside => rows.known item (within item inside)
  · exact rows.ids
  · exact rows.single.sublist (List.erase_sublist.filter _)
  · intro item inside itemNested
    rw [starts_close]
    exact rows.started item (within item inside) itemNested
  · rw [starts_close]
    exact rows.own

theorem Rows.rowKey_eq (rows : Rows host state)
    (one : first ∈ starts state.log) (two : second ∈ starts state.log) (same : first.id = second.id) :
    rowKey first = rowKey second := by
  rcases rows.own first one with ⟨_, -, -, firstParent, firstKnown, -, rfl⟩
  rcases rows.own second two with ⟨_, -, -, secondParent, secondKnown, -, rfl⟩
  rcases childId_inj (rows.ids _ firstKnown).2 (rows.ids _ secondKnown).2 same with ⟨parents, calls⟩
  exact Prod.ext (congrArg some parents) (congrArg some calls)

theorem Once.eq_of_id_eq (once : Once state) (rows : Rows host state)
    (one : first ∈ starts state.log) (two : second ∈ starts state.log) (same : first.id = second.id) :
    first = second :=
  inj_on_of_nodup_map once.rows one two (rows.rowKey_eq one two same)

theorem Once.close (once : Once state) (rows : Rows host state)
    (open_ : (key, child) ∈ state.tracker.children) (status : ItemStatus) (preview : Option Text)
    (error : Bool) : Once (state.close key child status preview error) := by
  rcases rows.children _ open_ with ⟨live, nested, -, -⟩
  have started := rows.started child live nested
  constructor
  · rw [starts_close]
    exact once.rows
  · intro other otherStarted
    rw [starts_close] at otherStarted
    have before := once.finished other otherStarted
    rw [StreamState.close, finishes_append]
    dsimp only
    by_cases same : other = child
    · rw [if_pos (same ▸ live)] at before
      rw [before, same, if_neg (rows.notMem_erase nested)]
      simp [finishes, isFinish]
    · have different : child.id ≠ other.id := fun equal =>
        same (once.eq_of_id_eq rows otherStarted started equal.symm)
      have none : finishes other.id [.finished child.id status preview error] = 0 := by
        simp [finishes, isFinish, different]
      rw [none, before, Nat.add_zero]
      exact if_congr (mem_erase_of_ne same).symm rfl rfl
  · intro id told
    rw [StreamState.close, finishes_append] at told
    rw [starts_close]
    by_cases own : child.id = id
    · exact ⟨child, started, own⟩
    · have none : finishes id [.finished child.id status preview error] = 0 := by
        simp [finishes, isFinish, own]
      rw [none, Nat.add_zero] at told
      exact once.told id told

/-! ### What an event does -/

theorem start_cases (host : Host) (event : PtcToolEvent) (parent : ToolItem) (state : StreamState) :
    (state.start host event parent = state ∧
        (state.tracker.children.lookup event.callId).isSome = true) ∨
      (state.start host event parent =
          { state with
            tracker := { state.tracker with
              children :=
                state.tracker.children ++ [(event.callId, buildPtcChild host event parent)] }
            pending := state.pending ++ [buildPtcChild host event parent]
            log := state.log ++ [.started (buildPtcChild host event parent)] } ∧
        state.tracker.children.lookup event.callId = none) := by
  unfold StreamState.start
  split
  · rename_i known
    exact Or.inl ⟨rfl, known⟩
  · rename_i unknown
    exact Or.inr ⟨rfl, Option.not_isSome_iff_eq_none.1 unknown⟩

theorem finish_cases (host : Host) (event : PtcToolEvent) (state : StreamState) :
    state.finish host event = state ∨
      ∃ child status preview error, (event.callId, child) ∈ state.tracker.children ∧
        state.finish host event = state.close event.callId child status preview error := by
  unfold StreamState.finish
  cases found : state.tracker.children.lookup event.callId with
  | none => exact Or.inl rfl
  | some child =>
    rcases lookup_eq_some_iff.1 found with ⟨before, after, parts, -⟩
    refine Or.inr ⟨child, _, _, _, ?_, rfl⟩
    rw [parts]
    exact mem_append_right _ mem_cons_self

theorem key_notMem_of_lookup (missing : state.tracker.children.lookup key = none) :
    key ∉ state.tracker.children.map Prod.fst := by
  intro inside
  rcases mem_map.1 inside with ⟨entry, present, rfl⟩
  exact bne_iff_ne.1 (lookup_eq_none_iff.1 missing entry present) rfl

theorem Rows.start (rows : Rows host state) (live : parent ∈ state.pending)
    (top : parent.sub = false) (own : parent.callId = some event.parentCallId)
    (received : event ∈ state.received) (kind : event.event = .started) :
    Rows host (state.start host event parent) := by
  rcases start_cases host event parent state with ⟨same, -⟩ | ⟨painted, missing⟩
  · rw [same]
    exact rows
  · have fresh := key_notMem_of_lookup missing
    have unlike : buildPtcChild host event parent ∉ state.pending := by
      intro inside
      rcases rows.nested _ inside rfl with ⟨key, listed⟩
      have named : some event.callId = some key := (rows.children _ listed).2.2.1
      cases named
      exact fresh (mem_map_of_mem listed)
    rw [painted]
    constructor
    · dsimp only
      rw [map_append]
      refine nodup_append.2 ⟨rows.keys, nodup_singleton _, ?_⟩
      rintro first inside second other rfl
      cases mem_singleton.1 other
      exact fresh inside
    · intro entry inside
      rcases mem_append.1 inside with old | new
      · have facts := rows.children entry old
        exact ⟨mem_append_left _ facts.1, facts.2⟩
      · cases mem_singleton.1 new
        exact ⟨mem_append_right _ mem_cons_self, rfl, rfl, rfl⟩
    · intro item inside nested
      rcases mem_append.1 inside with old | new
      · rcases rows.nested item old nested with ⟨key, listed⟩
        exact ⟨key, mem_append_left _ listed⟩
      · cases mem_singleton.1 new
        exact ⟨event.callId, mem_append_right _ mem_cons_self⟩
    · intro item inside nested
      rcases mem_append.1 inside with old | new
      · rcases rows.parent item old nested with ⟨other, present, facts⟩
        exact ⟨other, mem_append_left _ present, facts⟩
      · cases mem_singleton.1 new
        exact ⟨parent, mem_append_left _ live, top, rfl⟩
    · intro item inside plain
      rcases mem_append.1 inside with old | new
      · exact rows.known item old plain
      · cases mem_singleton.1 new
        cases plain
    · exact rows.ids
    · dsimp only
      rw [filter_append]
      refine nodup_append.2 ⟨rows.single, nodup_singleton _,
        fun first inside second other same => unlike ?_⟩
      rw [← mem_singleton.1 other, ← same]
      exact mem_of_mem_filter inside
    · intro item inside nested
      dsimp only
      rw [starts_append]
      rcases mem_append.1 inside with old | new
      · exact mem_append_left _ (rows.started item old nested)
      · exact mem_append_right _ (mem_singleton.1 new ▸ mem_cons_self)
    · intro child started
      dsimp only at started
      rw [starts_append] at started
      rcases mem_append.1 started with old | new
      · exact rows.own child old
      · cases mem_singleton.1 new
        exact ⟨event, received, kind, parent, rows.known parent live top, own, rfl⟩

theorem Once.start (once : Once state) (rows : Rows host state) (live : parent ∈ state.pending)
    (top : parent.sub = false) (kind : event.event = .started)
    (first : ¬ Repaints state event parent) : Once (state.start host event parent) := by
  rcases start_cases host event parent state with ⟨same, -⟩ | ⟨painted, missing⟩
  · rw [same]
    exact once
  · have fresh : rowKey (buildPtcChild host event parent) ∉ (starts state.log).map rowKey :=
      fun inside => first ⟨kind, missing, inside⟩
    have plain := (rows.ids parent (rows.known parent live top)).2
    rw [painted]
    constructor
    · dsimp only
      rw [starts_append, map_append]
      refine nodup_append.2 ⟨once.rows, nodup_singleton _, ?_⟩
      rintro one inside two other rfl
      cases mem_singleton.1 other
      exact fresh inside
    · intro child started
      dsimp only at started ⊢
      rw [starts_append] at started
      have silent : finishes child.id [.started (buildPtcChild host event parent)] = 0 := rfl
      rw [finishes_append, silent, Nat.add_zero]
      rcases mem_append.1 started with old | new
      · have unlike : child ≠ buildPtcChild host event parent := fun same =>
          fresh (same ▸ mem_map_of_mem old)
        rw [once.finished child old]
        exact if_congr (by simp [unlike]) rfl rfl
      · rw [mem_singleton.1 new, if_pos (mem_append_right _ mem_cons_self)]
        refine Nat.eq_zero_of_not_pos fun told => ?_
        rcases once.told _ told with ⟨other, otherStarted, same⟩
        rcases rows.own other otherStarted with ⟨_, -, -, otherParent, known, -, rfl⟩
        rcases childId_inj (rows.ids _ known).2 plain same with ⟨parents, calls⟩
        refine fresh (mem_map.2 ⟨_, otherStarted, ?_⟩)
        exact Prod.ext (congrArg some parents) (congrArg some calls)
    · intro id told
      dsimp only at told ⊢
      have silent : finishes id [.started (buildPtcChild host event parent)] = 0 := rfl
      rw [finishes_append, silent, Nat.add_zero] at told
      rcases once.told id told with ⟨child, started, own⟩
      rw [starts_append]
      exact ⟨child, mem_append_left _ started, own⟩

/-- An event is applied to a live parent that it names. -/
structure Applies (state : StreamState) (event : PtcToolEvent) (parent : ToolItem) : Prop where
  live : parent ∈ state.pending
  top : parent.sub = false
  own : parent.callId = some event.parentCallId
  received : event ∈ state.received

theorem Rows.apply (rows : Rows host state) (applies : Applies state event parent) :
    Rows host (state.apply host event parent) := by
  unfold StreamState.apply
  cases kind : event.event with
  | started => exact rows.start applies.live applies.top applies.own applies.received kind
  | finished =>
    rcases finish_cases host event state with same | ⟨child, status, preview, error, open_, made⟩
    · exact same.symm ▸ rows
    · exact made.symm ▸ rows.close open_ status preview error

theorem Once.apply (once : Once state) (rows : Rows host state) (applies : Applies state event parent)
    (first : ¬ Repaints state event parent) : Once (state.apply host event parent) := by
  unfold StreamState.apply
  cases kind : event.event with
  | started => exact once.start rows applies.live applies.top kind first
  | finished =>
    rcases finish_cases host event state with same | ⟨child, status, preview, error, open_, made⟩
    · exact same.symm ▸ once
    · exact made.symm ▸ once.close rows open_ status preview error

/-- Rows that are not nested stay, the queue is left alone, and what was told stays told. -/
structure SameParents (state next : StreamState) : Prop where
  live : ∀ parent ∈ state.pending, parent.sub = false → parent ∈ next.pending
  deferred : next.tracker.deferred = state.tracker.deferred
  deferredCount : next.tracker.deferredCount = state.tracker.deferredCount
  received : next.received = state.received
  flushing : next.flushing = state.flushing
  log : state.log <+: next.log

theorem SameParents.refl (state : StreamState) : SameParents state state :=
  ⟨fun _ present _ => present, rfl, rfl, rfl, rfl, prefix_rfl⟩

theorem SameParents.trans {middle : StreamState} (first : SameParents state middle)
    (second : SameParents middle next) : SameParents state next where
  live parent present top := second.live parent (first.live parent present top) top
  deferred := second.deferred.trans first.deferred
  deferredCount := second.deferredCount.trans first.deferredCount
  received := second.received.trans first.received
  flushing := second.flushing.trans first.flushing
  log := first.log.trans second.log

theorem SameParents.close (nested : child.sub = true) (status : ItemStatus) (preview : Option Text)
    (error : Bool) : SameParents state (state.close key child status preview error) := by
  refine ⟨fun parent present top => (mem_erase_of_ne fun same => ?_).2 present, rfl, rfl, rfl,
    rfl, prefix_append _ _⟩
  rw [same, nested] at top
  cases top

theorem SameParents.apply (rows : Rows host state) (event : PtcToolEvent) (parent : ToolItem) :
    SameParents state (state.apply host event parent) := by
  unfold StreamState.apply
  cases event.event with
  | started =>
    rcases start_cases host event parent state with ⟨same, -⟩ | ⟨painted, -⟩
    · exact same.symm ▸ SameParents.refl state
    · rw [painted]
      exact ⟨fun parent present _ => mem_append_left _ present, rfl, rfl, rfl, rfl,
        prefix_append _ _⟩
  | finished =>
    rcases finish_cases host event state with same | ⟨child, status, preview, error, open_, made⟩
    · exact same.symm ▸ SameParents.refl state
    · exact made.symm ▸ SameParents.close (rows.children _ open_).2.1 status preview error

theorem Waiting.same (waiting : Waiting maxDeferred state) (same : SameParents state next) :
    Waiting maxDeferred next := by
  rcases same with ⟨-, deferred, deferredCount, received, -, -⟩
  constructor
  · rw [deferred]
    exact waiting.keys
  · rw [deferred, deferredCount]
    exact waiting.counted
  · rw [deferred]
    exact waiting.bounded
  · rw [deferred, received]
    exact waiting.named

/-! ### Sealing the children of a parent -/

theorem sealChild_eq (rows : Rows host state) (live : child ∈ state.pending)
    (nested : child.sub = true) (failed : Bool) :
    ∃ key, (key, child) ∈ state.tracker.children ∧ state.sealChild failed child =
      state.close key child (if failed then .error else .ok) child.preview failed := by
  rcases rows.nested child live nested with ⟨key, open_⟩
  rcases rows.children _ open_ with ⟨-, -, named, running⟩
  refine ⟨key, open_, ?_⟩
  have runs : ¬ child.status ≠ .running := not_not_intro running
  rw [sealChild, if_neg runs, named]
  rfl

variable {motive : StreamState → Prop}

/-- What each sealing preserves holds after all of them, and the sealed rows are gone. -/
theorem sealAll (failed : Bool)
    (closes : ∀ {state key child status preview error}, Rows host state → motive state →
      (key, child) ∈ state.tracker.children →
      motive (StreamState.close key child status preview error state))
    {children : List ToolItem} (rows : Rows host state) (holds : motive state)
    (all : ∀ child ∈ children, child ∈ state.pending ∧ child.sub = true)
    (distinct : children.Nodup) :
    Rows host (children.foldl (sealChild failed) state) ∧
      motive (children.foldl (sealChild failed) state) ∧
      SameParents state (children.foldl (sealChild failed) state) ∧
      ∀ item ∈ (children.foldl (sealChild failed) state).pending,
        item ∈ state.pending ∧ item ∉ children := by
  induction children generalizing state with
  | nil => exact ⟨rows, holds, SameParents.refl state, fun item live => ⟨live, not_mem_nil⟩⟩
  | cons child rest ih =>
    rcases all child mem_cons_self with ⟨live, nested⟩
    rcases sealChild_eq rows live nested failed with ⟨key, open_, made⟩
    have distinctRest := nodup_cons.1 distinct
    have left : ∀ other ∈ rest, other ∈ (state.sealChild failed child).pending ∧
        other.sub = true := by
      intro other later
      rcases all other (mem_cons_of_mem _ later) with ⟨otherLive, otherNested⟩
      rw [made]
      refine ⟨(mem_erase_of_ne fun same => distinctRest.1 ?_).2 otherLive, otherNested⟩
      exact same ▸ later
    have gone : ∀ item ∈ (state.sealChild failed child).pending,
        item ∈ state.pending ∧ item ≠ child := by
      intro item inside
      rw [made] at inside
      refine ⟨mem_of_mem_erase inside, fun same => rows.notMem_erase nested ?_⟩
      exact Eq.subst (motive := fun other => other ∈ state.pending.erase child) same inside
    have closed : SameParents state (state.close key child (if failed then .error else .ok)
        child.preview failed) := SameParents.close nested _ _ _
    have keeps := made.symm ▸ closed
    rcases ih (made.symm ▸ rows.close open_ _ _ _) (made.symm ▸ closes rows holds open_) left
      distinctRest.2 with ⟨restRows, restHolds, restKeeps, restGone⟩
    refine ⟨restRows, restHolds, keeps.trans restKeeps, fun item inside => ?_⟩
    rcases restGone item inside with ⟨before, other⟩
    rcases gone item before with ⟨live, unlike⟩
    exact ⟨live, not_mem_cons_of_ne_of_not_mem unlike other⟩

/-! ### Steps -/

variable {data : Value}

theorem parsePtcEvent_strip (read : parsePtcEvent host data = some event) :
    event.parentCallId.strip = event.parentCallId := by
  unfold parsePtcEvent at read
  split at read
  · dsimp only at read
    split at read
    · cases read
    · rcases Option.bind_eq_some_iff.1 read with ⟨kind, -, made⟩
      rcases Option.ite_none_left_eq_some.mp made with ⟨_, ⟨⟩⟩
      exact Text.strip_strip _
  · cases read

theorem resolveParent_eq_some {pending : List ToolItem}
    (found : resolveParent pending key = some parent) :
    parent ∈ pending ∧ parent.sub = false ∧ parent.callId = some key.strip := by
  unfold resolveParent at found
  rcases Option.ite_none_left_eq_some.mp found with ⟨named, found⟩
  have matched := find?_some found
  rw [Bool.and_eq_true, Bool.not_eq_true', decide_eq_true_eq] at matched
  refine ⟨mem_of_find?_eq_some found, matched.1, ?_⟩
  cases own : parent.callId with
  | none =>
    rw [own] at matched
    exact absurd matched.2.symm named
  | some callId =>
    rw [own] at matched
    exact congrArg some matched.2

theorem SameRows.refl (state : StreamState) : SameRows state state :=
  ⟨rfl, rfl, rfl, rfl, fun _ known => known⟩

theorem SameRows.defer (maxDeferred : ℤ) (event : PtcToolEvent) (state : StreamState) :
    SameRows state (state.defer maxDeferred event) := by
  unfold StreamState.defer
  split
  · exact SameRows.refl state
  · exact ⟨rfl, rfl, rfl, rfl, fun _ known => known⟩

theorem SameRows.dropDeferred (key : Text) (state : StreamState) :
    SameRows state (state.dropDeferred key) := by
  unfold StreamState.dropDeferred
  split
  · exact SameRows.refl state
  · exact ⟨rfl, rfl, rfl, rfl, fun _ known => known⟩

theorem SameRows.flush (key : Text) (state : StreamState) : SameRows state (state.flush key) := by
  have dropped := SameRows.dropDeferred key state
  unfold StreamState.flush
  split
  · exact dropped
  · exact { dropped with }

/-- What holds between two actions and between the events of a flush. -/
structure Kept (host : Host) (maxDeferred : ℤ) (state : StreamState) : Prop where
  rows : Rows host state
  waiting : Waiting maxDeferred state
  flushing : ∀ entry ∈ state.flushing, Applies state entry.2 entry.1

theorem flushing_defer (maxDeferred : ℤ) (event : PtcToolEvent) (state : StreamState) :
    (state.defer maxDeferred event).flushing = state.flushing := by
  unfold StreamState.defer
  split <;> rfl

theorem flushing_dropDeferred (key : Text) (state : StreamState) :
    (state.dropDeferred key).flushing = state.flushing := by
  unfold StreamState.dropDeferred
  split <;> rfl

theorem applies_of_idle (idle : state.flushing = []) :
    ∀ entry ∈ state.flushing, Applies state entry.2 entry.1 := by
  rw [idle]
  exact fun entry inside => absurd inside not_mem_nil

theorem Kept.flush (rows : Rows host state) (waiting : Waiting maxDeferred state)
    (idle : state.flushing = []) (key : Text) : Kept host maxDeferred (state.flush key) := by
  have dropped := SameRows.dropDeferred key state
  refine ⟨rows.same (SameRows.flush key state), ?_, ?_⟩
  · have rest := waiting.dropDeferred key
    unfold StreamState.flush
    split
    · exact rest
    · exact ⟨rest.keys, rest.counted, rest.bounded, rest.named⟩
  · unfold StreamState.flush
    cases found : resolveParent state.pending key with
    | none =>
      exact applies_of_idle ((flushing_dropDeferred key state).trans idle)
    | some parent =>
      rcases resolveParent_eq_some found with ⟨live, top, own⟩
      intro entry inside
      rcases mem_map.1 inside with ⟨event, queued, rfl⟩
      cases listed : state.tracker.deferred.lookup key with
      | none =>
        rw [listed] at queued
        cases queued
      | some events =>
        rw [listed] at queued
        rcases lookup_eq_some_iff.1 listed with ⟨before, after, parts, -⟩
        have present : (key, events) ∈ state.tracker.deferred :=
          parts ▸ mem_append_right _ mem_cons_self
        rcases waiting.named _ present with ⟨stripped, facts⟩
        rcases facts event queued with ⟨named, received⟩
        constructor
        · exact dropped.pending.symm ▸ live
        · exact top
        · rw [own, named, stripped]
        · exact dropped.received event received

theorem Waiting.receive (waiting : Waiting maxDeferred state) (event : PtcToolEvent) :
    Waiting maxDeferred { state with received := state.received ++ [event] } where
  keys := waiting.keys
  counted := waiting.counted
  bounded := waiting.bounded
  named entry inside := by
    rcases waiting.named entry inside with ⟨stripped, facts⟩
    exact ⟨stripped, fun other listed =>
      ⟨(facts other listed).1, mem_append_left _ (facts other listed).2⟩⟩

theorem SameRows.receive (event : PtcToolEvent) (state : StreamState) :
    SameRows state { state with received := state.received ++ [event] } :=
  ⟨rfl, rfl, rfl, rfl, fun _ known => mem_append_left _ known⟩

/-- A recognised event waits, or is applied to the parent that it names, and then those that waited
for the parent are taken. -/
theorem handle_cases (host : Host) (maxDeferred : ℤ) (data : Value) (state : StreamState) :
    (parsePtcEvent host data = none ∧ state.handle host maxDeferred data = state) ∨
    ∃ event, parsePtcEvent host data = some event ∧
      ((resolveParent state.pending event.parentCallId = none ∧
          state.handle host maxDeferred data =
            { state with received := state.received ++ [event] }.defer maxDeferred event) ∨
        ∃ parent, resolveParent state.pending event.parentCallId = some parent ∧
          state.handle host maxDeferred data =
            ({ state with received := state.received ++ [event] }.apply host event parent).flush
              event.parentCallId) := by
  unfold StreamState.handle
  cases read : parsePtcEvent host data with
  | none => exact Or.inl ⟨rfl, rfl⟩
  | some event =>
    refine Or.inr ⟨event, rfl, ?_⟩
    dsimp only
    cases resolveParent state.pending event.parentCallId with
    | none => exact Or.inl ⟨rfl, rfl⟩
    | some parent => exact Or.inr ⟨parent, rfl, rfl⟩

theorem applies_of_resolve (read : parsePtcEvent host data = some event)
    (found : resolveParent state.pending event.parentCallId = some parent) :
    Applies { state with received := state.received ++ [event] } event parent := by
  rcases resolveParent_eq_some found with ⟨live, top, own⟩
  refine ⟨live, top, ?_, mem_append_right _ mem_cons_self⟩
  rw [own, parsePtcEvent_strip read]

theorem Kept.handle (kept : Kept host maxDeferred state) (idle : state.flushing = [])
    (data : Value) : Kept host maxDeferred (state.handle host maxDeferred data) := by
  rcases handle_cases host maxDeferred data state with
    ⟨-, same⟩ | ⟨event, read, ⟨-, made⟩ | ⟨parent, found, made⟩⟩
  · rw [same]
    exact kept
  · have waiting := (kept.waiting.receive event).defer (parsePtcEvent_strip read)
      (mem_append_right _ mem_cons_self)
    rw [made]
    exact ⟨(kept.rows.same (SameRows.receive event state)).same (SameRows.defer _ _ _), waiting,
      applies_of_idle ((flushing_defer _ _ _).trans idle)⟩
  · have applies := applies_of_resolve read found
    have rows := kept.rows.same (SameRows.receive event state)
    have same := SameParents.apply rows event parent
    rw [made]
    exact Kept.flush (rows.apply applies) ((kept.waiting.receive event).same same)
      (same.flushing.trans idle) event.parentCallId

theorem Once.handle (once : Once state) (kept : Kept host maxDeferred state)
    (first : ∀ event parent, parsePtcEvent host data = some event →
      resolveParent state.pending event.parentCallId = some parent →
      ¬ Repaints state event parent) :
    Once (state.handle host maxDeferred data) := by
  rcases handle_cases host maxDeferred data state with
    ⟨-, same⟩ | ⟨event, read, ⟨-, made⟩ | ⟨parent, found, made⟩⟩
  · rw [same]
    exact once
  · rw [made]
    exact (once.same (SameRows.receive event state)).same (SameRows.defer _ _ _)
  · have applies := applies_of_resolve read found
    have rows := kept.rows.same (SameRows.receive event state)
    rw [made]
    exact ((once.same (SameRows.receive event state)).apply rows applies
      (first event parent read found)).same (SameRows.flush _ _)

/-! ### Rows of calls -/

theorem Rows.sub_of_started (rows : Rows host state) (started : child ∈ starts state.log) :
    child.sub = true := by
  rcases rows.own child started with ⟨event, -, -, parent, -, -, rfl⟩
  rfl

theorem itemId_ne_nil (group index : ℕ) : itemId group index ≠ [] := by
  intro empty
  have first := congrArg List.head? empty
  cases first

theorem Rows.addParent (rows : Rows host state) {item : ToolItem} (top : item.sub = false)
    (named : item.id ≠ [] ∧ letterP ∉ item.id) (index : ℕ) :
    Rows host { state with
      pending := state.pending ++ [item], parents := state.parents ++ [item], index } := by
  have nested : ∀ other ∈ state.pending ++ [item], other.sub = true → other ∈ state.pending := by
    intro other inside otherNested
    rcases mem_append.1 inside with old | new
    · exact old
    · rw [mem_singleton.1 new, top] at otherNested
      cases otherNested
  constructor
  · exact rows.keys
  · intro entry inside
    have facts := rows.children entry inside
    exact ⟨mem_append_left _ facts.1, facts.2⟩
  · exact fun other inside sub => rows.nested other (nested other inside sub) sub
  · intro other inside sub
    rcases rows.parent other (nested other inside sub) sub with ⟨parent, live, facts⟩
    exact ⟨parent, mem_append_left _ live, facts⟩
  · intro other inside plain
    rcases mem_append.1 inside with old | new
    · exact mem_append_left _ (rows.known other old plain)
    · exact mem_append_right _ new
  · intro other inside
    rcases mem_append.1 inside with old | new
    · exact rows.ids other old
    · rw [mem_singleton.1 new]
      exact named
  · dsimp only
    rw [filter_append, filter_cons_of_neg (by simp [top]), filter_nil,
      append_nil]
    exact rows.single
  · exact fun other inside sub => rows.started other (nested other inside sub) sub
  · intro child started
    rcases rows.own child started with ⟨event, received, kind, parent, known, facts⟩
    exact ⟨event, received, kind, parent, mem_append_left _ known, facts⟩

theorem Once.pending (once : Once state) (rows : Rows host state)
    (same : ∀ child, child.sub = true → (child ∈ next.pending ↔ child ∈ state.pending))
    (log : next.log = state.log) : Once next := by
  constructor
  · rw [log]
    exact once.rows
  · rw [log]
    intro child started
    rw [once.finished child started]
    exact if_congr (same child (rows.sub_of_started started)).symm rfl rfl
  · rw [log]
    exact once.told

theorem Rows.removeParent (rows : Rows host state) {item : ToolItem} (top : item.sub = false)
    (childless : ∀ other ∈ state.pending, other.sub = true → other.parentId ≠ some item.id) :
    Rows host { state with pending := state.pending.erase item } := by
  have within : ∀ other ∈ state.pending.erase item, other ∈ state.pending := fun other inside =>
    mem_of_mem_erase inside
  have stays : ∀ other ∈ state.pending, other.sub = true → other ∈ state.pending.erase item := by
    intro other live sub
    refine (mem_erase_of_ne fun same => ?_).2 live
    rw [same, top] at sub
    cases sub
  constructor
  · exact rows.keys
  · intro entry inside
    have facts := rows.children entry inside
    exact ⟨stays _ facts.1 facts.2.1, facts.2⟩
  · exact fun other inside => rows.nested other (within other inside)
  · intro other inside sub
    rcases rows.parent other (within other inside) sub with ⟨parent, live, plain, own⟩
    refine ⟨parent, (mem_erase_of_ne fun same => ?_).2 live, plain, own⟩
    exact childless other (within other inside) sub (same ▸ own)
  · exact fun other inside => rows.known other (within other inside)
  · exact rows.ids
  · exact rows.single.sublist (List.erase_sublist.filter _)
  · exact fun other inside => rows.started other (within other inside)
  · exact rows.own

/-- After a result the row of the call is gone, and so are the rows below it. What each closing
preserves is preserved. -/
theorem parentResult_spec
    (closes : ∀ {state key child status preview error}, Rows host state → motive state →
      (key, child) ∈ state.tracker.children →
      motive (StreamState.close key child status preview error state))
    (rows : Rows host state) (holds : motive state) {id : Text} {failed : Bool}
    (made : state.parentResult id failed = some next) :
    ∃ sealed item key, Rows host sealed ∧ motive sealed ∧ SameParents state sealed ∧
      item.sub = false ∧
      (∀ other ∈ sealed.pending, other.sub = true → other.parentId ≠ some item.id) ∧
      next = { sealed.dropDeferred key with
        pending := (sealed.dropDeferred key).pending.erase item } := by
  unfold StreamState.parentResult at made
  rcases Option.map_eq_some_iff.1 made with ⟨item, found, rfl⟩
  have matched := find?_some found
  rw [Bool.and_eq_true, Bool.not_eq_true'] at matched
  have named := (rows.ids item (rows.known item (mem_of_find?_eq_some found) matched.1)).1
  dsimp only
  rw [finishParentChildren, if_neg named]
  generalize parentFailed _ = seals
  have distinct : (state.pending.filter fun child =>
      child.sub ∧ child.parentId = some item.id).Nodup := by
    refine rows.single.sublist (monotone_filter_right state.pending fun child own => ?_)
    exact (of_decide_eq_true own).1
  have all : ∀ child ∈ state.pending.filter fun child =>
      child.sub ∧ child.parentId = some item.id, child ∈ state.pending ∧ child.sub = true :=
    fun child inside => ⟨mem_of_mem_filter inside,
      (of_decide_eq_true (mem_filter.1 inside).2).1⟩
  rcases sealAll seals closes rows holds all distinct with ⟨sealedRows, sealedHolds, same, gone⟩
  refine ⟨_, item, item.callId.getD [], sealedRows, sealedHolds, same, matched.1,
    fun other inside sub own => ?_, rfl⟩
  rcases gone other inside with ⟨live, unsealed⟩
  exact unsealed (mem_filter.2 ⟨live, decide_eq_true ⟨sub, own⟩⟩)

variable {action : Action}

theorem Kept.step (kept : Kept host maxDeferred state)
    (stepped : (stream host maxDeferred).step state action = some next) :
    Kept host maxDeferred next := by
  unfold stream at stepped
  dsimp only at stepped
  cases idle : state.flushing with
  | nil =>
    rw [idle] at stepped
    cases action with
    | custom data =>
      cases stepped
      exact kept.handle idle data
    | flushNext => cases stepped
    | group =>
      cases stepped
      refine ⟨kept.rows.same ⟨rfl, rfl, rfl, rfl, fun _ known => known⟩, ?_,
        applies_of_idle rfl⟩
      exact ⟨kept.waiting.keys, kept.waiting.counted, kept.waiting.bounded, kept.waiting.named⟩
    | call name args callId =>
      cases stepped
      unfold StreamState.parentStarted
      dsimp only
      have rows := @Rows.addParent _ _ kept.rows
        (buildToolItem host name args callId (itemId state.toolGroupSeq state.index) false) rfl ⟨itemId_ne_nil _ _, letterP_notMem_itemId _ _⟩ (state.index + 1)
      have waiting : Waiting maxDeferred { state with
          pending := state.pending ++
            [buildToolItem host name args callId (itemId state.toolGroupSeq state.index) false]
          parents := state.parents ++
            [buildToolItem host name args callId (itemId state.toolGroupSeq state.index) false]
          index := state.index + 1 } :=
        ⟨kept.waiting.keys, kept.waiting.counted, kept.waiting.bounded, kept.waiting.named⟩
      split
      · exact ⟨rows, waiting, applies_of_idle idle⟩
      · exact Kept.flush rows waiting idle _
    | result id failed =>
      rcases parentResult_spec (motive := fun _ => True) (fun _ _ _ => trivial) kept.rows trivial
        stepped with ⟨sealed, item, key, rows, -, same, top, childless, rfl⟩
      have dropped := SameRows.dropDeferred key sealed
      have none : (sealed.dropDeferred key).flushing = [] := by
        rw [flushing_dropDeferred, same.flushing, idle]
      refine ⟨(rows.same dropped).removeParent top ?_, ?_, applies_of_idle none⟩
      · rw [dropped.pending]
        exact childless
      · have waiting := (kept.waiting.same same).dropDeferred key
        exact ⟨waiting.keys, waiting.counted, waiting.bounded, waiting.named⟩
  | cons entry rest =>
    rcases entry with ⟨parent, event⟩
    rw [idle] at stepped
    cases action with
    | flushNext =>
      cases stepped
      have applies := kept.flushing (parent, event) (idle ▸ mem_cons_self)
      have rows : Rows host { state with flushing := rest } :=
        kept.rows.same ⟨rfl, rfl, rfl, rfl, fun _ known => known⟩
      have waiting : Waiting maxDeferred { state with flushing := rest } :=
        ⟨kept.waiting.keys, kept.waiting.counted, kept.waiting.bounded, kept.waiting.named⟩
      have same := SameParents.apply rows event parent
      refine ⟨rows.apply ⟨applies.live, applies.top, applies.own, applies.received⟩,
        waiting.same same, ?_⟩
      rw [same.flushing]
      intro other inside
      have later := kept.flushing other (idle ▸ mem_cons_of_mem _ inside)
      exact ⟨same.live _ later.live later.top, later.top, later.own,
        same.received.symm ▸ later.received⟩
    | custom data => cases stepped
    | group => cases stepped
    | call name args callId => cases stepped
    | result id failed => cases stepped

theorem Kept.initial (host : Host) (maxDeferred : ℤ) : Kept host maxDeferred {} := by
  refine ⟨?_, ?_, applies_of_idle rfl⟩
  · constructor
    case keys => exact nodup_nil
    case single => exact nodup_nil
    all_goals exact fun _ inside => absurd inside not_mem_nil
  · exact ⟨nodup_nil, rfl, le_max_left 0 maxDeferred,
      fun _ inside => absurd inside not_mem_nil⟩

theorem Once.initial : Once {} where
  rows := nodup_nil
  finished := fun _ inside => absurd inside not_mem_nil
  told := fun _ some => absurd some (lt_irrefl 0)

theorem Once.step (once : Once state) (kept : Kept host maxDeferred state)
    (first : FirstStart host state action)
    (stepped : (stream host maxDeferred).step state action = some next) : Once next := by
  unfold stream at stepped
  dsimp only at stepped
  cases idle : state.flushing with
  | nil =>
    rw [idle] at stepped
    cases action with
    | custom data =>
      cases stepped
      refine once.handle kept fun event parent read found => first event parent ?_
      simp only [applied, idle, read, Option.bind_some, found, Option.map_some]
    | flushNext => cases stepped
    | group =>
      cases stepped
      exact once.same ⟨rfl, rfl, rfl, rfl, fun _ known => known⟩
    | call name args callId =>
      cases stepped
      unfold StreamState.parentStarted
      dsimp only
      have added : Once { state with
          pending := state.pending ++
            [buildToolItem host name args callId (itemId state.toolGroupSeq state.index) false]
          parents := state.parents ++
            [buildToolItem host name args callId (itemId state.toolGroupSeq state.index) false]
          index := state.index + 1 } := by
        refine once.pending kept.rows (fun child nested => ?_) rfl
        refine ⟨fun inside => ?_, mem_append_left _⟩
        rcases mem_append.1 inside with old | new
        · exact old
        · rw [mem_singleton.1 new] at nested
          cases nested
      split
      · exact added
      · exact added.same (SameRows.flush _ _)
    | result id failed =>
      rcases parentResult_spec (motive := Once)
        (fun rows once open_ => once.close rows open_ _ _ _) kept.rows once stepped with
        ⟨sealed, item, key, rows, sealedOnce, same, top, childless, rfl⟩
      have dropped := SameRows.dropDeferred key sealed
      refine (sealedOnce.same dropped).pending (rows.same dropped) (fun child nested => ?_) rfl
      refine mem_erase_of_ne fun equal => ?_
      rw [equal, top] at nested
      cases nested
  | cons entry rest =>
    rcases entry with ⟨parent, event⟩
    rw [idle] at stepped
    cases action with
    | flushNext =>
      cases stepped
      have applies := kept.flushing (parent, event) (idle ▸ mem_cons_self)
      have rows : Rows host { state with flushing := rest } :=
        kept.rows.same ⟨rfl, rfl, rfl, rfl, fun _ known => known⟩
      have before : Once { state with flushing := rest } :=
        once.same ⟨rfl, rfl, rfl, rfl, fun _ known => known⟩
      have next : applied host state .flushNext = some (event, parent) := by
        simp only [applied, idle]
      exact before.apply rows ⟨applies.live, applies.top, applies.own, applies.received⟩
        (first event parent next)
    | custom data => cases stepped
    | group => cases stepped
    | call name args callId => cases stepped
    | result id failed => cases stepped

/-! ### What is told stays told -/

theorem log_step (kept : Kept host maxDeferred state)
    (stepped : (stream host maxDeferred).step state action = some next) :
    state.log <+: next.log := by
  unfold stream at stepped
  dsimp only at stepped
  cases idle : state.flushing with
  | nil =>
    rw [idle] at stepped
    cases action with
    | custom data =>
      cases stepped
      rcases handle_cases host maxDeferred data state with
        ⟨-, same⟩ | ⟨event, read, ⟨-, made⟩ | ⟨parent, found, made⟩⟩
      · rw [same]
      · rw [made, (SameRows.defer _ _ _).log]
      · have rows := kept.rows.same (SameRows.receive event state)
        rw [made, (SameRows.flush _ _).log]
        exact (SameParents.apply rows event parent).log
    | flushNext => cases stepped
    | group =>
      cases stepped
      exact prefix_rfl
    | call name args callId =>
      cases stepped
      unfold StreamState.parentStarted
      dsimp only
      split
      · exact prefix_rfl
      · rw [(SameRows.flush _ _).log]
    | result id failed =>
      rcases parentResult_spec (motive := fun _ => True) (fun _ _ _ => trivial) kept.rows trivial
        stepped with ⟨sealed, item, key, -, -, same, -, -, rfl⟩
      dsimp only
      rw [(SameRows.dropDeferred key sealed).log]
      exact same.log
  | cons entry rest =>
    rcases entry with ⟨parent, event⟩
    rw [idle] at stepped
    cases action with
    | flushNext =>
      cases stepped
      have rows : Rows host { state with flushing := rest } :=
        kept.rows.same ⟨rfl, rfl, rfl, rfl, fun _ known => known⟩
      exact (SameParents.apply rows event parent).log
    | custom data => cases stepped
    | group => cases stepped
    | call name args callId => cases stepped
    | result id failed => cases stepped

variable {actions : List Action}

theorem log_run {start final : StreamState}
    (kept : Kept host maxDeferred start)
    (ran : (stream host maxDeferred).run start actions = some final) : start.log <+: final.log := by
  induction actions generalizing start with
  | nil =>
    cases ran
    exact prefix_rfl
  | cons action actions ih =>
    rcases Machine.run_cons.1 ran with ⟨next, stepped, rest⟩
    exact (log_step kept stepped).trans (ih (kept.step stepped) rest)

theorem log_of_applied (is_applied : applied host state action = some (event, parent))
    (stepped : (stream host maxDeferred).step state action = some next) :
    next.log = (state.apply host event parent).log := by
  have same : ∀ other : StreamState, other.tracker = state.tracker → other.pending = state.pending →
      other.log = state.log → (other.apply host event parent).log =
        (state.apply host event parent).log := by
    intro other tracker pending log
    unfold StreamState.apply StreamState.start StreamState.finish StreamState.close
    rw [tracker, pending, log]
    cases event.event with
    | started =>
      dsimp only
      split
      · exact log
      · rfl
    | finished =>
      dsimp only
      split
      · exact log
      · rfl
  unfold stream at stepped
  dsimp only at stepped
  cases idle : state.flushing with
  | nil =>
    rw [idle] at stepped
    cases action with
    | custom data =>
      cases stepped
      simp only [applied, idle] at is_applied
      rcases Option.bind_eq_some_iff.1 is_applied with ⟨read, known, mapped⟩
      rcases Option.map_eq_some_iff.1 mapped with ⟨found, resolved, made⟩
      cases made
      rcases handle_cases host maxDeferred data state with
        ⟨unread, -⟩ | ⟨other, otherRead, ⟨missing, -⟩ | ⟨live, otherFound, made⟩⟩
      · rw [unread] at known
        cases known
      · rw [otherRead] at known
        cases known
        rw [resolved] at missing
        cases missing
      · rw [otherRead] at known
        cases known
        rw [otherFound] at resolved
        cases resolved
        rw [made, (SameRows.flush _ _).log]
        exact same _ rfl rfl rfl
    | flushNext => simp [applied, idle] at is_applied
    | group => simp [applied, idle] at is_applied
    | call name args callId => simp [applied, idle] at is_applied
    | result id failed => simp [applied, idle] at is_applied
  | cons entry rest =>
    rcases entry with ⟨other, head⟩
    rw [idle] at stepped
    cases action with
    | flushNext =>
      cases stepped
      simp only [applied, idle, Option.some.injEq, Prod.mk.injEq] at is_applied
      rcases is_applied with ⟨rfl, rfl⟩
      exact same _ rfl rfl rfl
    | custom data => cases stepped
    | group => cases stepped
    | call name args callId => cases stepped
    | result id failed => cases stepped

/-- A row that is started again is started twice for one parent and call. -/
theorem not_nodup_of_repaints (host : Host) (repaints : Repaints state event parent) :
    ¬ ((starts (state.apply host event parent).log).map rowKey).Nodup := by
  rcases repaints with ⟨kind, missing, before⟩
  rw [StreamState.apply, kind]
  dsimp only
  rcases start_cases host event parent state with ⟨-, known⟩ | ⟨painted, -⟩
  · rw [missing] at known
    cases known
  · rw [painted]
    dsimp only
    rw [starts_append, map_append]
    intro once
    exact (nodup_append.1 once).2.2 _ before _ mem_cons_self rfl

theorem firstStarts_of_nodup {start final : StreamState}
    (kept : Kept host maxDeferred start)
    (ran : (stream host maxDeferred).run start actions = some final)
    (once : ((starts final.log).map rowKey).Nodup) :
    (stream host maxDeferred).Guarded (FirstStart host) start actions := by
  induction actions generalizing start with
  | nil => exact trivial
  | cons action actions ih =>
    rcases Machine.run_cons.1 ran with ⟨next, stepped, rest⟩
    refine ⟨fun event parent is_applied repaints => ?_, fun other taken => ?_⟩
    · have later := log_run (kept.step stepped) rest
      rw [log_of_applied is_applied stepped] at later
      have told : starts (start.apply host event parent).log <+: starts final.log :=
        later.filterMap _
      exact not_nodup_of_repaints host repaints (once.sublist (told.map rowKey).sublist)
    · rw [stepped] at taken
      cases taken
      exact ih (kept.step stepped) rest

theorem Kept.attached (kept : Kept host maxDeferred state) (once : Once state) :
    Attached host maxDeferred state where
  once := once.rows
  own := kept.rows.own
  finished child started := by
    rw [once.finished child started]
    refine ⟨by split <;> omega, fun orphan => if_neg fun live => ?_⟩
    rcases kept.rows.parent child live (kept.rows.sub_of_started started) with
      ⟨parent, present, top, own⟩
    exact orphan parent present top own
  counted := kept.waiting.counted
  bounded := kept.waiting.bounded

/-- The rows of a run are attached and closed as they should be if and only if no event starts a row
that was started before and is no longer in progress. -/
theorem attached_iff_firstStarts (host : Host) (maxDeferred : ℤ) {actions : List Action}
    {final : StreamState} (ran : (stream host maxDeferred).run {} actions = some final) :
    Attached host maxDeferred final ↔
      (stream host maxDeferred).Guarded (FirstStart host) {} actions := by
  refine ⟨fun attached => firstStarts_of_nodup (Kept.initial host maxDeferred) ran attached.once,
    fun guarded => ?_⟩
  have both : Kept host maxDeferred final ∧ Once final :=
    @Machine.run_invariant_of_guarded _ _ (stream host maxDeferred) (FirstStart host)
      (fun state => Kept host maxDeferred state ∧ Once state)
      (fun holds first stepped => ⟨holds.1.step stepped, holds.2.step holds.1 first stepped⟩)
      _ _ _ ⟨Kept.initial host maxDeferred, Once.initial⟩ guarded ran
  exact both.1.attached both.2

/-- An event of the call `c` below the call `p`. -/
def eventData (event : String) : Value :=
  .mapping true (.ofList
    ([("type", "ptc_tool"), ("event", event), ("parent_call_id", "p"), ("call_id", "c"),
      ("name", "read_file")].map fun field =>
        (.str (Text.ofString field.1), .str true (Text.ofString field.2))))

def plainHost : Host where
  render := fun _ => []
  reference := fun _ => []
  lower := id
  checklist := fun _ _ => none

/-- A call, and a row below it that is started, finished and started again. -/
def startedAgain : List Action :=
  [.group, .call (Text.ofString "run_code") .nil (some (Text.ofString "p")),
    .custom (eventData "started"), .custom (eventData "finished"), .custom (eventData "started")]

def startedAgainFinal : StreamState :=
  ((stream plainHost 64).run {} startedAgain).getD {}

theorem startedAgain_run : (stream plainHost 64).run {} startedAgain = some startedAgainFinal := by
  unfold startedAgainFinal
  cases made : (stream plainHost 64).run {} startedAgain with
  | none => exact absurd (congrArg Option.isSome made) (by decide)
  | some final => rfl

/-- The row is started twice for its parent and call. -/
theorem started_twice : ¬ ∀ (host : Host) (maxDeferred : ℤ) (actions : List Action)
    (final : StreamState), (stream host maxDeferred).run {} actions = some final →
      Attached host maxDeferred final := by
  intro all
  have attached := all plainHost 64 startedAgain startedAgainFinal startedAgain_run
  exact absurd attached.once (by decide)

/-- The run without the second start. -/
theorem attached_iff_startedOnce :
    ∃ final, (stream plainHost 64).run {} (startedAgain.take 4) = some final ∧
      (Attached plainHost 64 final ↔
        (stream plainHost 64).Guarded (FirstStart plainHost) {} (startedAgain.take 4)) := by
  have ran : ((stream plainHost 64).run {} (startedAgain.take 4)).isSome = true := by decide
  rcases Option.isSome_iff_exists.1 ran with ⟨final, ran⟩
  exact ⟨final, ran, attached_iff_firstStarts plainHost 64 ran⟩

end Synapse.Streaming
