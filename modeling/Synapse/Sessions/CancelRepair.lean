import Synapse.Python.Text

/-!
# Repair of a cancelled thread

A turn that is stopped may leave calls without results and a graph with pending nodes.
`repair_thread_after_cancel` seals the thread: every open call gets a result, and the turn gets a
closing message. Both are only ever added at the end.
-/

namespace Synapse.Sessions.CancelRepair

open List

inductive Kind where
  | human
  | ai
  | tool
  | other
  deriving DecidableEq

structure ToolCall where
  id : Option Text
  name : Option Text
  deriving DecidableEq

/-- `content` is as `str` renders it. -/
structure Message where
  kind : Kind
  content : Text
  toolCalls : List ToolCall := []
  toolCallId : Option Text := none
  name : Option Text := none
  status : Option Text := none
  cancelBoundary : Bool := false
  cancelReason : Option Text := none
  deriving DecidableEq

/-- What `get_state` returns. -/
structure Thread where
  messages : List Message
  next : List Text
  deriving DecidableEq

/-- `updateState` adds messages as the given node, and is `none` where it raises. -/
structure Graph where
  nodes : List Text
  updateState : Thread → List Message → Option Text → Option Thread

structure Host where
  lower : Text → Text
  casefold : Text → Text

/-- A status note of the repair. -/
inductive Note where
  | emptyThread
  | sealed (count : ℕ) (node : Option Text)
  | noteAsNode (node : Text)
  | noteAppended
  | messages (count : ℕ)
  | pending (next : List Text)
  | ready
  | failed
  deriving DecidableEq

/-- A text that is not empty. -/
def filled (text : Option Text) : Option Text :=
  text.filter fun value => value ≠ []

/-! ### Nodes -/

def namesTool (host : Host) (node : Text) : Bool :=
  Text.ofString "tool" <:+: host.lower node

def isPrivate (node : Text) : Bool :=
  Text.ofString "__" <+: node

/-- `_pick_tools_node` -/
def pickToolsNode (host : Host) (nodes next : List Text) : Option Text :=
  (next.find? (namesTool host)).or
    (if Text.ofString "tools" ∈ nodes then some (Text.ofString "tools")
    else nodes.find? fun node => namesTool host node && !isPrivate node)

/-- `_pick_model_node` -/
def pickModelNode (host : Host) (nodes next : List Text) : Option Text :=
  (next.find? fun node => !namesTool host node && !isPrivate node).or
    (([Text.ofString "model", Text.ofString "agent"].find? fun preferred =>
        decide (preferred ∈ nodes)).or
      (nodes.find? fun node => !isPrivate node && !namesTool host node &&
        !decide (Text.ofString "middleware" <:+: host.lower node)))

/-! ### Open calls -/

/-- The call that a tool message is the result of. -/
def toolId? (message : Message) : Option Text :=
  if message.kind = .tool then filled message.toolCallId else none

/-- `_answered_tool_ids` -/
def answeredToolIds (messages : List Message) : List Text :=
  messages.filterMap toolId?

/-- `_is_user_cancel` -/
def isUserCancel (reason : Option Text) : Bool :=
  reason = none ∨ reason = some (Text.ofString "user")

/-- `_cancelled_tool_content` -/
def cancelledToolContent (reason : Option Text) : Text :=
  if isUserCancel reason then Text.ofString "[cancelled by user]" else Text.ofString "[cancelled]"

def sealOf (reason : Option Text) (call : ToolCall) (id : Text) : Message where
  kind := .tool
  content := cancelledToolContent reason
  toolCallId := some id
  name := some ((filled call.name).getD (Text.ofString "tool"))
  status := some (Text.ofString "error")

def sealCalls (reason : Option Text) : List Text → List ToolCall → List Message
  | _, [] => []
  | answered, call :: calls =>
    match filled call.id with
    | none => sealCalls reason answered calls
    | some id =>
      if id ∈ answered then sealCalls reason answered calls
      else sealOf reason call id :: sealCalls reason (id :: answered) calls

/-- `_pending_tool_seals` -/
def pendingToolSeals (reason : Option Text) (messages : List Message) : List Message :=
  sealCalls reason (answeredToolIds messages) (messages.flatMap (·.toolCalls))

/-! ### The closing message -/

def hasOpenEnd (message : Message) : Bool :=
  message.kind = .human ∨ message.kind = .tool ∨ message.kind = .ai ∧ message.toolCalls ≠ []

/-- `_needs_cancel_note` -/
def needsCancelNote (host : Host) (messages : List Message) : Bool :=
  match messages.getLast? with
  | none => false
  | some last =>
    if last.cancelBoundary then false
    else if last.kind = .ai ∧ last.toolCalls = [] then
      if Text.ofString "cancelled" <:+: host.casefold last.content ∨
          Text.ofString "终止" <:+: last.content then false
      else last.content.strip = []
    else true

def cancelNote (reason : Option Text) : Message where
  kind := .ai
  content := if isUserCancel reason then Text.ofString "[本轮已由用户终止，上下文已保留]" else []
  cancelBoundary := true
  cancelReason := some ((filled reason).getD (Text.ofString "legacy_user"))

/-! ### The repair -/

def sealOpenCalls (host : Host) (graph : Graph) (reason : Option Text) (thread : Thread) :
    Option (Thread × List Note) :=
  let seals := pendingToolSeals reason thread.messages
  if seals = [] then some (thread, [])
  else
    let node := pickToolsNode host graph.nodes thread.next
    (graph.updateState thread seals node).map fun after => (after, [.sealed seals.length node])

/-- A note that the model node does not take is added without a node. -/
def closeTurn (host : Host) (graph : Graph) (reason : Option Text) (thread : Thread) :
    Option (Thread × List Note) :=
  let append := (graph.updateState thread [cancelNote reason] none).map fun after =>
    (after, [Note.noteAppended])
  if needsCancelNote host thread.messages then
    match filled (pickModelNode host graph.nodes thread.next), thread.next with
    | some node, _ :: _ =>
      match graph.updateState thread [cancelNote reason] (some node) with
      | some after => some (after, [.noteAsNode node])
      | none => append
    | _, _ => if thread.messages.getLast?.any hasOpenEnd then append else some (thread, [])
  else some (thread, [])

def finalNotes (thread : Thread) : List Note :=
  [.messages thread.messages.length,
    if thread.next = [] then .ready else .pending thread.next]

/-- `repair_thread_after_cancel` -/
def repairThreadAfterCancel (host : Host) (graph : Graph) (reason : Option Text)
    (thread : Thread) : Thread × List Note :=
  if thread.messages = [] then (thread, [.emptyThread])
  else
    match sealOpenCalls host graph reason thread with
    | none => (thread, [.failed])
    | some (complete, notes) =>
      match closeTurn host graph reason complete with
      | none => (complete, notes ++ [.failed])
      | some (closed, more) => (closed, notes ++ more ++ finalNotes closed)

/-! ### What a repair is for -/

/-- Every call with an id has a result after its message. -/
def Complete (messages : List Message) : Prop :=
  ∀ before message after, messages = before ++ message :: after →
    ∀ call ∈ message.toolCalls, ∀ id, filled call.id = some id → id ∈ answeredToolIds after

structure Repaired (host : Host) (graph : Graph) (before after : Thread) : Prop where
  complete : Complete after.messages
  kept : before.messages <+: after.messages
  unanswered : ∀ added, after.messages = before.messages ++ added →
    (answeredToolIds added).Nodup ∧ List.Disjoint (answeredToolIds before.messages)
      (answeredToolIds added)
  again : ∀ reason,
    (repairThreadAfterCancel host graph reason after).1.messages = after.messages

/-- A call whose id has a result at all has one after its message. -/
def AnsweredInPlace (messages : List Message) : Prop :=
  ∀ before message after, messages = before ++ message :: after →
    ∀ call ∈ message.toolCalls, ∀ id, filled call.id = some id →
      id ∈ answeredToolIds messages → id ∈ answeredToolIds after

/-- The graph adds the messages that it is given. -/
def Graph.Appends (graph : Graph) : Prop :=
  ∀ thread added node, ∃ next,
    graph.updateState thread added node = some ⟨thread.messages ++ added, next⟩

variable {host : Host} {graph : Graph} {reason : Option Text} {thread : Thread}
  {messages : List Message} {calls : List ToolCall} {answered : List Text} {id : Text}

/-! ### Seals -/

theorem answeredToolIds_append (first second : List Message) :
    answeredToolIds (first ++ second) = answeredToolIds first ++ answeredToolIds second :=
  filterMap_append

theorem filled_eq_some {text : Option Text} : filled text = some id ↔ text = some id ∧ id ≠ [] := by
  rw [filled, Option.filter_eq_some_iff, decide_eq_true_iff]

variable {call : ToolCall}

theorem toolId?_sealOf (named : filled call.id = some id) :
    toolId? (sealOf reason call id) = some id := by
  have own : toolId? (sealOf reason call id) = filled (some id) := if_pos rfl
  rw [own, filled_eq_some]
  exact ⟨rfl, (filled_eq_some.1 named).2⟩

variable {message : Message}

theorem exists_of_mem_sealCalls
    (present : message ∈ sealCalls reason answered calls) :
    ∃ call id, filled call.id = some id ∧ message = sealOf reason call id := by
  induction calls generalizing answered with
  | nil => exact absurd present not_mem_nil
  | cons call calls hyp =>
    unfold sealCalls at present
    split at present
    · exact hyp present
    · rename_i own named
      split at present
      · exact hyp present
      · rcases mem_cons.1 present with rfl | later
        · exact ⟨call, own, named, rfl⟩
        · exact hyp later

/-- The calls that get a seal are those with an id that has no result, and each id gets one. -/
theorem sealCalls_ids : (answeredToolIds (sealCalls reason answered calls)).Nodup ∧
    ∀ id, id ∈ answeredToolIds (sealCalls reason answered calls) ↔
      id ∉ answered ∧ ∃ call ∈ calls, filled call.id = some id := by
  induction calls generalizing answered with
  | nil =>
    refine ⟨nodup_nil, fun id => iff_of_false not_mem_nil ?_⟩
    rintro ⟨-, call, inside, -⟩
    exact not_mem_nil inside
  | cons call calls hyp =>
    unfold sealCalls
    split
    · rename_i unnamed
      refine ⟨hyp.1, fun id => (hyp.2 id).trans (and_congr_right fun _ => ?_)⟩
      rw [exists_mem_cons_iff, unnamed, or_iff_right (Option.some_ne_none id).symm]
    · rename_i own named
      split
      · rename_i known
        refine ⟨hyp.1, fun id => (hyp.2 id).trans (and_congr_right fun fresh => ?_)⟩
        rw [exists_mem_cons_iff, named, or_iff_right]
        rintro ⟨rfl⟩
        exact fresh known
      · rename_i fresh
        have ids : answeredToolIds (sealOf reason call own ::
            sealCalls reason (own :: answered) calls) =
            own :: answeredToolIds (sealCalls reason (own :: answered) calls) :=
          filterMap_cons_some (toolId?_sealOf named)
        rw [ids]
        constructor
        · refine nodup_cons.2 ⟨fun inside => ?_, hyp.1⟩
          exact ((hyp.2 own).1 inside).1 mem_cons_self
        · intro id
          rw [mem_cons, hyp.2, mem_cons, not_or, exists_mem_cons_iff, named]
          constructor
          · rintro (rfl | ⟨⟨-, apart⟩, later⟩)
            · exact ⟨fresh, Or.inl rfl⟩
            · exact ⟨apart, Or.inr later⟩
          · rintro ⟨apart, same | later⟩
            · exact Or.inl (Option.some.inj same).symm
            · by_cases same : id = own
              · exact Or.inl same
              · exact Or.inr ⟨⟨same, apart⟩, later⟩

theorem mem_seals : id ∈ answeredToolIds (pendingToolSeals reason messages) ↔
    id ∉ answeredToolIds messages ∧
      ∃ message ∈ messages, ∃ call ∈ message.toolCalls, filled call.id = some id := by
  refine (sealCalls_ids.2 id).trans (and_congr_right fun _ => ?_)
  constructor
  · rintro ⟨call, inside, named⟩
    rcases mem_flatMap.1 inside with ⟨message, present, made⟩
    exact ⟨message, present, call, made, named⟩
  · rintro ⟨message, present, call, made, named⟩
    exact ⟨call, mem_flatMap.2 ⟨message, present, made⟩, named⟩

theorem seals_eq_nil : pendingToolSeals reason messages = [] ↔
    ∀ message ∈ messages, ∀ call ∈ message.toolCalls, ∀ id, filled call.id = some id →
      id ∈ answeredToolIds messages := by
  constructor
  · intro closed message present call made id named
    by_contra fresh
    have sealed : id ∈ answeredToolIds (pendingToolSeals reason messages) :=
      mem_seals.2 ⟨fresh, message, present, call, made, named⟩
    rw [closed] at sealed
    exact not_mem_nil sealed
  · intro closed
    by_contra open_
    rcases exists_mem_of_ne_nil _ open_ with ⟨added, inside⟩
    rcases exists_of_mem_sealCalls inside with ⟨own, id, named, rfl⟩
    have sealed : id ∈ answeredToolIds (pendingToolSeals reason messages) :=
      mem_filterMap.2 ⟨_, inside, toolId?_sealOf named⟩
    rcases mem_seals.1 sealed with ⟨fresh, message, present, call, made, same⟩
    exact fresh (closed message present call made id same)

/-! ### What a repair adds -/

/-- Whether the closing message is added; that does not depend on the reason. -/
def takesNote (host : Host) (graph : Graph) (thread : Thread) : Bool :=
  needsCancelNote host thread.messages ∧
    ((filled (pickModelNode host graph.nodes thread.next)).isSome ∧ thread.next ≠ [] ∨
      thread.messages.getLast?.any hasOpenEnd)

theorem sealOpenCalls_spec (appends : graph.Appends) :
    ∃ next notes, sealOpenCalls host graph reason thread =
        some (⟨thread.messages ++ pendingToolSeals reason thread.messages, next⟩, notes) ∧
      (pendingToolSeals reason thread.messages = [] → next = thread.next) := by
  unfold sealOpenCalls
  dsimp only
  split
  · rename_i closed
    refine ⟨thread.next, [], ?_, fun _ => rfl⟩
    rw [closed, append_nil]
  · rename_i open_
    rcases appends thread (pendingToolSeals reason thread.messages)
      (pickToolsNode host graph.nodes thread.next) with ⟨next, updated⟩
    rw [updated, Option.map_some]
    exact ⟨next, _, rfl, fun closed => absurd closed open_⟩

theorem closeTurn_spec (appends : graph.Appends) :
    if takesNote host graph thread then
      ∃ next notes, closeTurn host graph reason thread =
        some (⟨thread.messages ++ [cancelNote reason], next⟩, notes)
    else closeTurn host graph reason thread = some (thread, []) := by
  have added : ∃ next, (graph.updateState thread [cancelNote reason] none).map (fun after =>
      (after, [Note.noteAppended])) =
        some (⟨thread.messages ++ [cancelNote reason], next⟩, [Note.noteAppended]) := by
    rcases appends thread [cancelNote reason] none with ⟨next, updated⟩
    exact ⟨next, by rw [updated, Option.map_some]⟩
  rcases added with ⟨last, added⟩
  unfold closeTurn takesNote
  dsimp only
  rw [added]
  cases needed : needsCancelNote host thread.messages with
  | false => simp
  | true =>
    cases picked : filled (pickModelNode host graph.nodes thread.next) with
    | none =>
      cases open_ : thread.messages.getLast?.any hasOpenEnd with
      | false => simp
      | true => simp
    | some node =>
      cases pending : thread.next with
      | nil =>
        cases open_ : thread.messages.getLast?.any hasOpenEnd with
        | false => simp
        | true => simp
      | cons first rest =>
        rcases appends thread [cancelNote reason] (some node) with ⟨next, updated⟩
        simp [updated]

/-- What is added to a thread that is not empty: the seals, and a closing message if one is taken. -/
theorem repair_spec (appends : graph.Appends) (nonempty : thread.messages ≠ []) :
    ∃ complete : Thread,
      complete.messages = thread.messages ++ pendingToolSeals reason thread.messages ∧
      (pendingToolSeals reason thread.messages = [] → complete = thread) ∧
      if takesNote host graph complete then
        (repairThreadAfterCancel host graph reason thread).1.messages =
          complete.messages ++ [cancelNote reason]
      else (repairThreadAfterCancel host graph reason thread).1 = complete := by
  rcases @sealOpenCalls_spec host graph reason thread appends with ⟨next, notes, sealed, same⟩
  refine ⟨⟨thread.messages ++ pendingToolSeals reason thread.messages, next⟩, rfl, ?_, ?_⟩
  · intro closed
    rw [same closed, closed, append_nil]
  · have closing := @closeTurn_spec host graph reason
      ⟨thread.messages ++ pendingToolSeals reason thread.messages, next⟩ appends
    unfold repairThreadAfterCancel
    rw [if_neg nonempty, sealed]
    split
    · rename_i takes
      rw [if_pos takes] at closing
      rcases closing with ⟨last, more, closed⟩
      dsimp only
      rw [closed]
    · rename_i refuses
      rw [if_neg refuses] at closing
      dsimp only
      rw [closing]

/-- A thread whose calls all have results, and that takes no closing message, stays as it is. -/
theorem repair_settled (appends : graph.Appends)
    (closed : pendingToolSeals reason thread.messages = [])
    (refuses : takesNote host graph thread = false) :
    (repairThreadAfterCancel host graph reason thread).1 = thread := by
  by_cases empty : thread.messages = []
  · rw [repairThreadAfterCancel, if_pos empty]
  · rcases @repair_spec host graph reason thread appends empty with ⟨complete, -, same, closing⟩
    rw [same closed, if_neg (Bool.eq_false_iff.1 refuses)] at closing
    exact closing

theorem takesNote_note {before : Thread} (noted : thread.messages =
    before.messages ++ [cancelNote reason]) : takesNote host graph thread = false := by
  have last : thread.messages.getLast? = some (cancelNote reason) := by
    rw [noted, getLast?_concat]
  have unneeded : needsCancelNote host thread.messages = false := by
    rw [needsCancelNote, last]
    rfl
  rw [takesNote, unneeded]
  exact decide_eq_false fun both => Bool.false_ne_true both.1

variable {added : List Message}

theorem answered_after_seals
    (sealed : added = pendingToolSeals reason messages ∨
      added = pendingToolSeals reason messages ++ [cancelNote reason]) :
    answeredToolIds added = answeredToolIds (pendingToolSeals reason messages) := by
  rcases sealed with rfl | rfl
  · rfl
  · rw [answeredToolIds_append]
    exact append_nil _

theorem calls_of_added
    (sealed : added = pendingToolSeals reason messages ∨
      added = pendingToolSeals reason messages ++ [cancelNote reason]) :
    ∀ message ∈ added, message.toolCalls = [] := by
  have seals : ∀ message ∈ pendingToolSeals reason messages, message.toolCalls = [] := by
    intro message inside
    rcases exists_of_mem_sealCalls inside with ⟨call, id, -, rfl⟩
    rfl
  rcases sealed with rfl | rfl
  · exact seals
  · intro message inside
    rcases mem_append.1 inside with early | last
    · exact seals message early
    · rw [mem_singleton.1 last]
      rfl

theorem repair_adds (appends : graph.Appends) :
    ∃ added, (repairThreadAfterCancel host graph reason thread).1.messages =
        thread.messages ++ added ∧
      (added = pendingToolSeals reason thread.messages ∨
        added = pendingToolSeals reason thread.messages ++ [cancelNote reason]) ∧
      takesNote host graph (repairThreadAfterCancel host graph reason thread).1 = false := by
  by_cases empty : thread.messages = []
  · have stays : (repairThreadAfterCancel host graph reason thread).1 = thread := by
      rw [repairThreadAfterCancel, if_pos empty]
    rw [stays]
    refine ⟨[], (append_nil _).symm, Or.inl ?_, ?_⟩
    · rw [empty]
      rfl
    · rw [takesNote, empty]
      exact decide_eq_false fun both => Bool.false_ne_true both.1
  · rcases @repair_spec host graph reason thread appends empty with
      ⟨complete, sealed, same, closing⟩
    split at closing
    · refine ⟨_, ?_, Or.inr rfl, takesNote_note closing⟩
      rw [closing, sealed, append_assoc]
    · rename_i refuses
      rw [closing]
      exact ⟨_, sealed, Or.inl rfl, Bool.eq_false_iff.2 refuses⟩

theorem answered_of_call
    (sealed : answeredToolIds added = answeredToolIds (pendingToolSeals reason messages))
    (present : message ∈ messages)
    (made : call ∈ message.toolCalls) (named : filled call.id = some id) :
    id ∈ answeredToolIds messages ∨ id ∈ answeredToolIds added := by
  by_cases known : id ∈ answeredToolIds messages
  · exact Or.inl known
  · refine Or.inr ?_
    rw [sealed]
    exact mem_seals.2 ⟨known, message, present, call, made, named⟩

theorem seals_after_repair (again : Option Text)
    (sealed : added = pendingToolSeals reason messages ∨
      added = pendingToolSeals reason messages ++ [cancelNote reason]) :
    pendingToolSeals again (messages ++ added) = [] := by
  refine seals_eq_nil.2 fun message present call made id named => ?_
  rw [answeredToolIds_append, mem_append]
  rcases mem_append.1 present with early | late
  · exact answered_of_call (answered_after_seals sealed) early made named
  · rw [calls_of_added sealed message late] at made
    exact absurd made not_mem_nil

/-- Complete are the threads that had no call answered only by results before it. -/
theorem complete_iff
    (sealed : added = pendingToolSeals reason messages ∨
      added = pendingToolSeals reason messages ++ [cancelNote reason]) :
    Complete (messages ++ added) ↔ AnsweredInPlace messages := by
  have ids := answered_after_seals sealed
  constructor
  · intro complete before message after parts call made id named known
    have late := complete before message (after ++ added)
      (by rw [parts, append_assoc, cons_append]) call made id named
    rw [answeredToolIds_append, mem_append] at late
    refine late.resolve_right fun added => ?_
    rw [ids] at added
    exact (mem_seals.1 added).1 known
  · intro placed before message after parts call made id named
    rcases append_eq_append_iff.1 parts with ⟨rest, longer, here⟩ | ⟨rest, shorter, here⟩
    · have late : message ∈ added := by
        rw [here]
        exact mem_append_right _ mem_cons_self
      rw [calls_of_added sealed message late] at made
      exact absurd made not_mem_nil
    · cases rest with
      | nil =>
        rw [nil_append] at here
        have late : message ∈ added := here ▸ mem_cons_self
        rw [calls_of_added sealed message late] at made
        exact absurd made not_mem_nil
      | cons first rest =>
        rw [cons_append, cons.injEq] at here
        rcases here with ⟨rfl, rfl⟩
        have present : message ∈ messages := by
          rw [shorter]
          exact mem_append_right _ mem_cons_self
        rw [answeredToolIds_append, mem_append]
        refine (answered_of_call ids present made named).imp_left fun known => ?_
        exact placed before message rest shorter call made id named known

/-- Only the completeness of a repair can fail, where an id was used again. -/
theorem repaired_iff (appends : graph.Appends) :
    Repaired host graph thread (repairThreadAfterCancel host graph reason thread).1 ↔
      AnsweredInPlace thread.messages := by
  rcases @repair_adds host graph reason thread appends with ⟨added, longer, sealed, refuses⟩
  rw [← complete_iff sealed, ← longer]
  refine ⟨fun repaired => repaired.complete, fun complete => ?_⟩
  constructor
  · exact complete
  · rw [longer]
    exact List.prefix_append _ _
  · intro other same
    rw [longer] at same
    rw [← List.append_cancel_left same, answered_after_seals sealed]
    refine ⟨sealCalls_ids.1, fun id known fresh => ?_⟩
    exact (mem_seals.1 fresh).1 known
  · intro again
    refine congrArg Thread.messages (repair_settled appends ?_ refuses)
    rw [longer]
    exact seals_after_repair again sealed

/-! ### Runs -/

def plainHost : Host where
  lower text := text
  casefold text := text

/-- A graph whose pending step is over after an update. -/
def plainGraph : Graph where
  nodes := [Text.ofString "model", Text.ofString "tools"]
  updateState thread added _ := some ⟨thread.messages ++ added, []⟩

theorem plainGraph_appends : plainGraph.Appends := fun _ _ _ => ⟨[], rfl⟩

def stepWith (id : String) : Message where
  kind := .ai
  content := []
  toolCalls := [⟨some (Text.ofString id), some (Text.ofString "read_file")⟩]

def answerTo (id : String) : Message where
  kind := .tool
  content := Text.ofString "done"
  toolCallId := some (Text.ofString id)

/-- A call that was stopped, and one that was not. -/
def stoppedThread : Thread where
  messages := [stepWith "c1", answerTo "c1", stepWith "c2"]
  next := [Text.ofString "tools"]

/-- The second call has the id of the first. -/
def repeatedId : Thread where
  messages := [stepWith "c1", answerTo "c1", stepWith "c1"]
  next := [Text.ofString "tools"]

theorem repaired_stoppedThread :
    Repaired plainHost plainGraph stoppedThread
        (repairThreadAfterCancel plainHost plainGraph none stoppedThread).1 ↔
      AnsweredInPlace stoppedThread.messages :=
  repaired_iff plainGraph_appends

/-- A call with an id that has been used is left without a result. -/
theorem repeatedId_stays_open : ¬ ∀ (host : Host) (graph : Graph) (reason : Option Text)
    (thread : Thread), graph.Appends →
      Complete (repairThreadAfterCancel host graph reason thread).1.messages := by
  intro complete
  have result : (repairThreadAfterCancel plainHost plainGraph none repeatedId).1.messages =
      [stepWith "c1", answerTo "c1"] ++ stepWith "c1" :: [cancelNote none] := by decide +kernel
  have answered := complete plainHost plainGraph none repeatedId plainGraph_appends _ _ _ result
    ⟨some (Text.ofString "c1"), some (Text.ofString "read_file")⟩ List.mem_cons_self
    (Text.ofString "c1") (by decide)
  exact absurd answered (by decide)

end Synapse.Sessions.CancelRepair
