import Synapse.Transcript.Windows

/-!
# Batches of tool calls

Where a call and its result end up. A call is held from the step that makes it, and the batch that it
is in is closed by whatever comes first: the visible text of the same step, a human message, the next
step or the end. Its result is with it if it came before that.
-/

namespace Synapse.Transcript

open List

/-- The event holds the call and its result. -/
def together (call : ToolCall) (result : ToolResult) (event : UiTranscriptEvent) : Bool :=
  event.kind = .tools ∧ call ∈ event.toolCalls ∧ result ∈ event.toolResults

def messageCalls (host : Host) (message : Message) : List ToolCall :=
  if message.role = .ai then toolCalls host message else []

def toolId? (message : Message) : Option Text :=
  if message.role = .tool then message.toolCallId else none

/-- A message that shows a turn, as the fold does. -/
def showsTurn (host : Host) (message : Message) : Bool :=
  message.role = .human ∧ (userEvent? host message).isSome

/-- The message is a result of a call that the step makes, and neither another step nor another turn is
between them. -/
structure Answers (host : Host) (ai : Message) (middle : List Message) (call : ToolCall)
    (tool : Message) : Prop where
  step : ai.role = .ai
  made : call ∈ toolCalls host ai
  named : call.id ≠ []
  result : tool.role = .tool
  matching : tool.toolCallId = some call.id
  within : ∀ message ∈ middle, message.role ≠ .ai ∧ showsTurn host message = false

/-- Ids are unique, and every result is in the turn and the step of its call. -/
structure WellPlaced (host : Host) (messages : List Message) : Prop where
  calls : ((messages.flatMap (messageCalls host)).map (·.id)).Nodup
  results : (messages.filterMap toolId?).Nodup
  placed : ∀ before tool after, messages = before ++ tool :: after → tool.role = .tool →
    ∃ front ai middle call, before = front ++ ai :: middle ∧ Answers host ai middle call tool

/-- The result of a call as the fold makes it. -/
def resultOf (host : Host) (tool : Message) (call : ToolCall) : ToolResult :=
  toolResult host tool call.id

/-- How many events hold the call and its result. -/
def timesTogether (host : Host) (messages : List Message) (call : ToolCall) (tool : Message) : ℕ :=
  (foldMessagesForUi host messages).countP (together call (resultOf host tool call))

variable {host : Host} {call : ToolCall} {result : ToolResult} {state : FoldState}
  {message : Message} {held answered : Bool} {count : ℕ}

/-! ### The events of batches -/

variable {entry : Text × ToolResult}

theorem lookup_of_mem {entries : List (Text × ToolResult)}
    (once : (entries.map Prod.fst).Nodup) (present : entry ∈ entries) :
    entries.lookup entry.1 = some entry.2 := by
  induction entries with
  | nil => cases present
  | cons first rest ih =>
    rw [map_cons, nodup_cons] at once
    rcases mem_cons.1 present with rfl | later
    · rw [lookup_cons, beq_self_eq_true]
    · have other : entry.1 ≠ first.1 := fun same =>
        once.1 (same ▸ mem_map_of_mem later)
      rw [lookup_cons, beq_false_of_ne other]
      exact ih once.2 later

theorem mem_toolResults {calls : List ToolCall} {results : List (Text × ToolResult)}
    (once : (results.map Prod.fst).Nodup) :
    result ∈ (toolsEvent calls results).toolResults ↔ result ∈ results.map Prod.snd := by
  unfold toolsEvent
  dsimp only
  generalize answers : (calls.filter fun call =>
    decide (call.id ≠ [] ∧ (results.lookup call.id).isSome = true)) = answeredCalls
  split
  · rw [mem_append, mem_filterMap]
    constructor
    · rintro (⟨call, -, found⟩ | left)
      · rcases lookup_eq_some_iff.1 found with ⟨before, after, parts, -⟩
        refine mem_map.2 ⟨(call.id, result), ?_, rfl⟩
        rw [parts]
        exact mem_append_right _ mem_cons_self
      · rcases mem_map.1 left with ⟨entry, inside, rfl⟩
        exact mem_map_of_mem (mem_of_mem_filter inside)
    · intro inside
      rcases mem_map.1 inside with ⟨entry, present, rfl⟩
      by_cases known : entry.1 ∈ answeredCalls.map (·.id)
      · rcases mem_map.1 known with ⟨call, listed, same⟩
        refine Or.inl ⟨call, listed, ?_⟩
        rw [same]
        exact lookup_of_mem once present
      · exact Or.inr (mem_map.2
          ⟨entry, mem_filter.2 ⟨present, decide_eq_true known⟩, rfl⟩)
  · exact Iff.rfl

/-! ### Following a call and its result -/

/-- Whether the call and its result are held, and how often they went out together. -/
structure Tracks (call : ToolCall) (result : ToolResult) (state : FoldState) (held answered : Bool)
    (count : ℕ) : Prop where
  holds : call ∈ state.pendingCalls ↔ held = true
  keys : (state.pendingResults.map Prod.fst).Nodup
  ids : ∀ entry ∈ state.pendingResults, entry.2.id = entry.1
  answers : result ∈ state.pendingResults.map Prod.snd ↔ answered = true
  times : state.events.countP (together call result) = count

theorem Tracks.initial : Tracks call result {} false false 0 where
  holds := ⟨fun inside => absurd inside not_mem_nil, fun none => by cases none⟩
  keys := nodup_nil
  ids := fun _ inside => absurd inside not_mem_nil
  answers := ⟨fun inside => absurd inside not_mem_nil, fun none => by cases none⟩
  times := rfl

theorem Tracks.flushTools (tracks : Tracks call result state held answered count) :
    Tracks call result state.flushTools false false (count + if held && answered then 1 else 0) := by
  unfold FoldState.flushTools
  split
  · rename_i nothing
    have free : held = false := by
      rw [← Bool.not_eq_true, ← tracks.holds, nothing.1]
      exact not_mem_nil
    have open_ : answered = false := by
      rw [← Bool.not_eq_true, ← tracks.answers, nothing.2]
      exact not_mem_nil
    subst free open_
    exact tracks
  · have own : together call result (toolsEvent state.pendingCalls state.pendingResults) =
        (held && answered) := by
      have results := @mem_toolResults result state.pendingCalls _ tracks.keys
      rw [Bool.eq_iff_iff, Bool.and_eq_true, ← tracks.holds, ← tracks.answers, ← results, together,
        decide_eq_true_iff]
      exact ⟨fun both => both.2, fun both => ⟨rfl, both⟩⟩
    constructor
    · exact ⟨fun inside => absurd inside not_mem_nil, fun none => by cases none⟩
    · exact nodup_nil
    · exact fun _ inside => absurd inside not_mem_nil
    · exact ⟨fun inside => absurd inside not_mem_nil, fun none => by cases none⟩
    · rw [countP_append, tracks.times, countP_singleton, own]

variable {events : List UiTranscriptEvent}

theorem Tracks.emit (tracks : Tracks call result state held answered count)
    (other : ∀ event ∈ events, event.kind ≠ .tools) :
    Tracks call result (state.emit events) held answered count where
  holds := tracks.holds
  keys := tracks.keys
  ids := tracks.ids
  answers := tracks.answers
  times := by
    have none : events.countP (together call result) = 0 := by
      refine countP_eq_zero.2 fun event inside both => other event inside ?_
      exact (of_decide_eq_true both).1
    rw [FoldState.emit, countP_append, tracks.times, none, Nat.add_zero]

theorem Tracks.hold (tracks : Tracks call result state held answered count)
    (calls : List ToolCall) :
    Tracks call result (state.hold calls) (held || decide (call ∈ calls)) answered count where
  holds := by
    rw [FoldState.hold, mem_append, tracks.holds, Bool.or_eq_true, decide_eq_true_iff]
  keys := tracks.keys
  ids := tracks.ids
  answers := tracks.answers
  times := tracks.times

variable {results : List (Text × ToolResult)}
variable {key : Text}

theorem keys_setResult
    (once : (results.map Prod.fst).Nodup) : ((setResult key result results).map Prod.fst).Nodup := by
  unfold setResult
  split
  · have same : (results.map fun entry => if entry.1 = key then (key, result) else entry).map
        Prod.fst = results.map Prod.fst := by
      rw [map_map]
      refine map_congr_left fun entry _ => ?_
      rw [Function.comp_apply]
      split
      · rename_i own
        exact own.symm
      · rfl
    rw [same]
    exact once
  · rename_i absent
    rw [map_append]
    refine nodup_append.2 ⟨once, nodup_singleton _, ?_⟩
    rintro first inside second other rfl
    cases mem_singleton.1 other
    exact absent inside

theorem mem_setResult
    :
    entry ∈ setResult key result results ↔
      entry = (key, result) ∨ entry ∈ results ∧ entry.1 ≠ key := by
  unfold setResult
  split
  · rename_i present
    rw [mem_map]
    constructor
    · rintro ⟨old, inside, rfl⟩
      split
      · exact Or.inl rfl
      · rename_i other
        exact Or.inr ⟨inside, other⟩
    · rintro (rfl | ⟨inside, other⟩)
      · rcases mem_map.1 present with ⟨old, inside, same⟩
        exact ⟨old, inside, if_pos same⟩
      · exact ⟨entry, inside, if_neg other⟩
  · rename_i absent
    rw [mem_append, mem_singleton, or_comm]
    refine or_congr_right ⟨fun inside => ⟨inside, fun same => absent ?_⟩, And.left⟩
    exact same ▸ mem_map_of_mem inside

theorem Tracks.setResult (tracks : Tracks call result state held answered count)
    {other : ToolResult} (named : other.id = key) (own : result.id = call.id)
    (distinct : key = call.id → other = result) :
    Tracks call result
      { state with pendingResults := Transcript.setResult key other state.pendingResults } held
      (answered || decide (key = call.id)) count where
  holds := tracks.holds
  keys := keys_setResult tracks.keys
  ids entry inside := by
    rcases mem_setResult.1 inside with rfl | ⟨old, -⟩
    · exact named
    · exact tracks.ids entry old
  answers := by
    rw [Bool.or_eq_true, decide_eq_true_iff, ← tracks.answers, mem_map, mem_map]
    constructor
    · rintro ⟨entry, inside, same⟩
      rcases mem_setResult.1 inside with rfl | ⟨old, -⟩
      · refine Or.inr ?_
        rw [← named, ← own, ← same]
      · exact Or.inl ⟨entry, old, same⟩
    · rintro (⟨entry, old, same⟩ | here)
      · by_cases replaced : entry.1 = key
        · have keyed : key = call.id := by rw [← replaced, ← tracks.ids entry old, same, own]
          exact ⟨(key, other), mem_setResult.2 (Or.inl rfl), distinct keyed⟩
        · exact ⟨entry, mem_setResult.2 (Or.inr ⟨old, replaced⟩), same⟩
      · exact ⟨(key, other), mem_setResult.2 (Or.inl rfl), distinct here⟩
  times := tracks.times

/-! ### Messages with other calls and results -/

/-- The message neither makes the call nor is a result of it. -/
def Foreign (host : Host) (call : ToolCall) (message : Message) : Prop :=
  (message.role = .ai → ∀ other ∈ toolCalls host message, other.id ≠ call.id) ∧
    (message.role = .tool →
      ∃ id, message.toolCallId = some id ∧ id ≠ [] ∧ id ≠ call.id)

/-- What is held is held on, or a batch has been closed. -/
def Continues (call : ToolCall) (result : ToolResult) (held answered : Bool) (count : ℕ)
    (state : FoldState) : Prop :=
  Tracks call result state held answered count ∨
    Tracks call result state false false (count + if held && answered then 1 else 0)

theorem Continues.flushTools (continues : Continues call result held answered count state) :
    Continues call result held answered count state.flushTools :=
  Or.inr (continues.elim (fun tracks => tracks.flushTools) fun tracks => tracks.flushTools)

theorem Continues.emit (continues : Continues call result held answered count state)
    (other : ∀ event ∈ events, event.kind ≠ .tools) :
    Continues call result held answered count (state.emit events) :=
  continues.imp (fun tracks => tracks.emit other) fun tracks => tracks.emit other

theorem Continues.hold (continues : Continues call result held answered count state)
    {calls : List ToolCall} (other : call ∉ calls) :
    Continues call result held answered count (state.hold calls) := by
  have holds : ∀ {held answered count}, Tracks call result state held answered count →
      Tracks call result (state.hold calls) held answered count := by
    intro held answered count tracks
    have after := tracks.hold calls
    rwa [decide_eq_false other, Bool.or_false] at after
  exact continues.imp holds holds

theorem resultKey_of_id {id : Text} (named : message.toolCallId = some id) (nonempty : id ≠ [])
    (results : List (Text × ToolResult)) : resultKey message results = id := by
  rw [resultKey, named, Text.orElse, if_neg (by simp [nonempty]), Option.getD_some]

variable {event : UiTranscriptEvent}

theorem answer_kind {text : Text}
    (inside : event ∈ [({ kind := .answer, text } : UiTranscriptEvent)]) : event.kind ≠ .tools := by
  rw [mem_singleton.1 inside]
  intro same
  cases same

theorem thought_kind (inside : event ∈ thoughtEvents host message) :
    event.kind ≠ .tools := by
  rw [thoughtEvents_kind inside]
  intro same
  cases same

theorem user_kind (inside : event ∈ (userEvent? host message).toList) :
    event.kind ≠ .tools := by
  rw [userEvent?_kind (Option.mem_toList.1 inside)]
  intro same
  cases same

theorem Tracks.passing (tracks : Tracks call result state held answered count)
    (own : result.id = call.id) (foreign : Foreign host call message)
    (human : message.role ≠ .human) (ai : message.role ≠ .ai) :
    Tracks call result (foldMessage host state message) held answered count := by
  unfold foldMessage
  cases role : message.role with
  | human => exact absurd role human
  | ai => exact absurd role ai
  | tool =>
    rcases foreign.2 role with ⟨id, named, nonempty, other⟩
    dsimp only
    rw [resultKey_of_id named nonempty]
    have keyed : (toolResult host message id).id = id := rfl
    have set := tracks.setResult keyed own fun same => absurd same other
    rw [decide_eq_false other, Bool.or_false] at set
    exact set
  | system => exact tracks
  | other => exact tracks

theorem Tracks.human (tracks : Tracks call result state held answered count)
    (human : message.role = .human) :
    Tracks call result (foldMessage host state message) false false
      (count + if held && answered then 1 else 0) := by
  have step : foldMessage host state message =
      state.flushTools.emit (userEvent? host message).toList := by
    simp only [foldMessage, human]
  rw [step]
  exact tracks.flushTools.emit fun event inside => user_kind inside

theorem Continues.foldMessage (continues : Continues call result held answered count state)
    (own : result.id = call.id) (foreign : Foreign host call message) :
    Continues call result held answered count (foldMessage host state message) := by
  by_cases ai : message.role = .ai
  · have unmade : call ∉ toolCalls host message := fun made => foreign.1 ai call made rfl
    have closed : Continues call result held answered count
        (if state.pendingCalls ≠ [] then state.flushTools else state) := by
      split
      · exact continues.flushTools
      · exact continues
    have thought : ∀ event ∈ thoughtEvents host message, event.kind ≠ .tools :=
      fun event inside => thought_kind inside
    have called := (closed.emit thought).hold unmade
    unfold Transcript.foldMessage
    rw [ai]
    dsimp only
    cases answer? host message with
    | none => exact called
    | some text => exact called.flushTools.emit fun event inside => answer_kind inside
  · by_cases human : message.role = .human
    · exact Or.inr (continues.elim (fun tracks => tracks.human human) fun tracks => tracks.human human)
    · exact continues.imp (fun tracks => tracks.passing own foreign human ai)
        fun tracks => tracks.passing own foreign human ai

theorem Continues.foldl {messages : List Message}
    (continues : Continues call result held answered count state) (own : result.id = call.id)
    (foreign : ∀ message ∈ messages, Foreign host call message) :
    Continues call result held answered count (messages.foldl (Transcript.foldMessage host) state) := by
  induction messages generalizing state with
  | nil => exact continues
  | cons message rest ih =>
    exact ih (continues.foldMessage own (foreign message mem_cons_self))
      fun other later => foreign other (mem_cons_of_mem _ later)

theorem Continues.times_flushTools (continues : Continues call result held answered count state) :
    state.flushTools.events.countP (together call result) =
      count + if held && answered then 1 else 0 := by
  rcases continues with tracks | tracks
  · exact tracks.flushTools.times
  · simpa using tracks.flushTools.times

theorem Tracks.middle {messages : List Message}
    (tracks : Tracks call result state held false count) (own : result.id = call.id)
    (foreign : ∀ message ∈ messages, Foreign host call message)
    (ai : ∀ message ∈ messages, message.role ≠ .ai) :
    Tracks call result (messages.foldl (foldMessage host) state)
      (held && messages.all fun message => message.role ≠ .human) false count := by
  induction messages generalizing state held with
  | nil => exact (Bool.and_true held).symm ▸ tracks
  | cons message rest ih =>
    have later := fun other inside => foreign other (mem_cons_of_mem message inside)
    have laterAi := fun other inside => ai other (mem_cons_of_mem message inside)
    rw [foldl_cons, all_cons]
    by_cases human : message.role = .human
    · have next : Tracks call result (foldMessage host state message) false false
          (count + if held && false then 1 else 0) := tracks.human human
      rw [Bool.and_false, if_neg Bool.false_ne_true, Nat.add_zero] at next
      have rest := ih next later laterAi
      simpa [human] using rest
    · have next := tracks.passing own (foreign message mem_cons_self) human
        (ai message mem_cons_self)
      have rest := ih next later laterAi
      simpa [human] using rest

theorem Tracks.step (tracks : Tracks call result state false false count)
    (ai : message.role = .ai) (made : call ∈ toolCalls host message) :
    Tracks call result (foldMessage host state message) (answer? host message).isNone false count := by
  have closed : Tracks call result
      (if state.pendingCalls ≠ [] then state.flushTools else state) false false count := by
    split
    · exact tracks.flushTools
    · exact tracks
  have thought : ∀ event ∈ thoughtEvents host message, event.kind ≠ .tools :=
    fun event inside => thought_kind inside
  have called := (closed.emit thought).hold (toolCalls host message)
  rw [decide_eq_true made, Bool.or_true] at called
  unfold foldMessage
  rw [ai]
  dsimp only
  cases answer? host message with
  | none => exact called
  | some text => exact called.flushTools.emit fun event inside => answer_kind inside

theorem Tracks.tool {tool : Message} (held : Bool) (count : ℕ)
    (tracks : Tracks call (resultOf host tool call) state held false count) (role : tool.role = .tool)
    (matching : tool.toolCallId = some call.id) (named : call.id ≠ []) :
    Tracks call (resultOf host tool call) (foldMessage host state tool) held true count := by
  unfold foldMessage
  rw [role]
  dsimp only
  rw [resultKey_of_id matching named]
  have keyed : (toolResult host tool call.id).id = call.id := rfl
  have set := tracks.setResult keyed rfl fun _ => rfl
  rwa [decide_eq_true rfl, Bool.or_true] at set

/-! ### Well placed messages -/

variable {messages front middle back : List Message} {ai tool : Message}

theorem notMem_of_flatMap_nodup {α β : Type*} {values : α → List β} {before after : List α}
    {item other : α} {value : β} (once : ((before ++ item :: after).flatMap values).Nodup)
    (own : value ∈ values item) (elsewhere : other ∈ before ++ after) : value ∉ values other := by
  have apart := (nodup_flatMap.1 once).2
  have symmetric : ∀ {one two : α}, Function.onFun List.Disjoint values one two →
      Function.onFun List.Disjoint values two one := fun disjoint => List.Disjoint.symm disjoint
  rw [pairwise_middle symmetric] at apart
  exact (pairwise_cons.1 apart).1 other elsewhere own

variable {other : Message}

theorem WellPlaced.tool_named (placed : WellPlaced host messages)
    (present : other ∈ messages) (role : other.role = .tool) :
    ∃ id, other.toolCallId = some id ∧ id ≠ [] := by
  rcases append_of_mem present with ⟨before, after, parts⟩
  rcases placed.placed before other after parts role with ⟨_, _, _, call, -, answers⟩
  exact ⟨call.id, answers.matching, answers.named⟩

theorem WellPlaced.call_notMem (placed : WellPlaced host messages)
    {rest : List Message} (parts : messages = front ++ ai :: rest) (step : ai.role = .ai)
    (made : call ∈ toolCalls host ai) (elsewhere : other ∈ front ++ rest)
    (role : other.role = .ai) {made_ : ToolCall} (otherMade : made_ ∈ toolCalls host other) :
    made_.id ≠ call.id := by
  have once := placed.calls
  rw [parts, map_flatMap] at once
  have own : call.id ∈ (messageCalls host ai).map (·.id) := by
    rw [messageCalls, if_pos step]
    exact mem_map_of_mem made
  have absent := notMem_of_flatMap_nodup once own elsewhere
  rw [messageCalls, if_pos role] at absent
  exact fun same => absent (same ▸ mem_map_of_mem otherMade)

theorem WellPlaced.result_ne (placed : WellPlaced host messages) {before : List Message}
    (parts : messages = before ++ tool :: back) (result : tool.role = .tool)
    (matching : tool.toolCallId = some call.id) (elsewhere : other ∈ before ++ back)
    (role : other.role = .tool) {id : Text} (named : other.toolCallId = some id) : id ≠ call.id := by
  have once := placed.results
  rw [parts, filterMap_eq_flatMap_toList] at once
  have own : call.id ∈ (toolId? tool).toList := by
    rw [toolId?, if_pos result, matching]
    exact mem_singleton_self _
  have absent := notMem_of_flatMap_nodup once own elsewhere
  rw [toolId?, if_pos role, named, Option.toList_some, mem_singleton] at absent
  exact fun same => absent same.symm

theorem WellPlaced.foreign (placed : WellPlaced host messages)
    (parts : messages = front ++ ai :: (middle ++ tool :: back)) (step : ai.role = .ai)
    (made : call ∈ toolCalls host ai) (result : tool.role = .tool)
    (matching : tool.toolCallId = some call.id)
    (elsewhere : other ∈ front ∨ other ∈ middle ∨ other ∈ back) : Foreign host call other := by
  have split : messages = (front ++ ai :: middle) ++ tool :: back := by
    rw [parts, append_assoc, cons_append]
  refine ⟨fun role otherCall otherMade => ?_, fun role => ?_⟩
  · refine placed.call_notMem parts step made ?_ role otherMade
    rcases elsewhere with early | between | late
    · exact mem_append_left _ early
    · exact mem_append_right _ (mem_append_left _ between)
    · exact mem_append_right _ (mem_append_right _ (mem_cons_of_mem _ late))
  · have inside : other ∈ (front ++ ai :: middle) ++ back := by
      rcases elsewhere with early | between | late
      · exact mem_append_left _ (mem_append_left _ early)
      · exact mem_append_left _ (mem_append_right _ (mem_cons_of_mem _ between))
      · exact mem_append_right _ late
    have present : other ∈ messages := by
      rw [split]
      rcases mem_append.1 inside with before | after
      · exact mem_append_left _ before
      · exact mem_append_right _ (mem_cons_of_mem _ after)
    rcases placed.tool_named present role with ⟨id, named, nonempty⟩
    exact ⟨id, named, nonempty, placed.result_ne split result matching inside role named⟩

theorem WellPlaced.middle_ai (placed : WellPlaced host messages)
    (parts : messages = front ++ ai :: (middle ++ tool :: back)) (step : ai.role = .ai)
    (made : call ∈ toolCalls host ai) (result : tool.role = .tool)
    (matching : tool.toolCallId = some call.id) : ∀ message ∈ middle, message.role ≠ .ai := by
  have split : messages = (front ++ ai :: middle) ++ tool :: back := by
    rw [parts, append_assoc, cons_append]
  rcases placed.placed _ _ _ split result with ⟨early, other, between, otherCall, same, answers⟩
  have ids : otherCall.id = call.id :=
    Option.mem_unique answers.matching matching
  have unlike : ∀ elsewhere, elsewhere ∈ front ∨ elsewhere ∈ middle → elsewhere ≠ other := by
    rintro elsewhere inside rfl
    have foreign := placed.foreign parts step made result matching
      (inside.imp_right Or.inl)
    exact foreign.1 answers.step otherCall answers.made ids
  rcases append_eq_append_iff.1 same with ⟨rest, longer, here⟩ | ⟨rest, shorter, here⟩
  · cases rest with
    | nil =>
      rw [nil_append, cons.injEq] at here
      rw [here.2]
      exact fun message inside => (answers.within message inside).1
    | cons first rest =>
      rw [cons_append, cons.injEq] at here
      refine absurd rfl (unlike other (Or.inr ?_))
      rw [here.2]
      exact mem_append_right _ mem_cons_self
  · cases rest with
    | nil =>
      rw [nil_append, cons.injEq] at here
      rw [← here.2]
      exact fun message inside => (answers.within message inside).1
    | cons first rest =>
      rw [cons_append, cons.injEq] at here
      refine absurd rfl (unlike other (Or.inl ?_))
      rw [shorter, here.1]
      exact mem_append_right _ mem_cons_self

theorem wellPlaced_pair (answers : Answers host ai [] call tool)
    (once : ((toolCalls host ai).map (·.id)).Nodup) : WellPlaced host [ai, tool] where
  calls := by
    have step := answers.step
    have result := answers.result
    simpa [messageCalls, step, result] using once
  results := by
    have step := answers.step
    have result := answers.result
    simp [toolId?, step, result, answers.matching]
  placed before other after parts role := by
    rcases before with _ | ⟨first, _ | ⟨second, before⟩⟩
    · cases parts
      rw [answers.step] at role
      cases role
    · cases parts
      exact ⟨[], ai, [], call, rfl, answers⟩
    · have lengths := congrArg List.length parts
      simp at lengths

def callMade : ToolCall where
  id := Text.ofString "c1"
  name := Text.ofString "read_file"
  args := .mapping true .nil

/-- A step with a call, and visible text beside it. -/
def stepSaying (text : String) : Message where
  role := .ai
  content := .text (Text.ofString text)
  toolCalls := [.mapping true (.ofList
    [(.str (Text.ofString "id"), .str true (Text.ofString "c1")),
      (.str (Text.ofString "name"), .str true (Text.ofString "read_file")),
      (.str (Text.ofString "args"), .mapping true .nil)])]

def callResult : Message where
  role := .tool
  content := .text (Text.ofString "done")
  toolCallId := some (Text.ofString "c1")
  name := some (Text.ofString "read_file")

variable {text : String}

theorem stepSaying_answers
    (calls : toolCalls plainHost (stepSaying text) = [callMade]) :
    Answers plainHost (stepSaying text) [] callMade callResult where
  step := rfl
  made := by
    rw [calls]
    exact mem_singleton_self _
  named := by decide
  result := rfl
  matching := rfl
  within := fun _ inside => absurd inside not_mem_nil

theorem silentStep_calls : toolCalls plainHost (stepSaying "") = [callMade] := by decide +kernel

theorem speakingStep_calls : toolCalls plainHost (stepSaying "hi") = [callMade] := by
  decide +kernel

theorem stepSaying_wellPlaced
    (calls : toolCalls plainHost (stepSaying text) = [callMade]) :
    WellPlaced plainHost [stepSaying text, callResult] := by
  refine wellPlaced_pair (stepSaying_answers calls) ?_
  rw [calls]
  exact nodup_singleton _

end Synapse.Transcript
