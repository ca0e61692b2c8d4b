import Synapse.Foundation.Coalesce
import Synapse.Console.LiveReducer

/-!
# Batches of deltas

The console holds the deltas of a stream for a moment and merges neighbours of the same kind, turn and
message before it folds them. A delta adds its text to one row. The row that the first of two deltas
opens or extends is the one that the second finds, so a merged delta leaves what the two would leave.
-/

namespace Synapse.Console

open List

structure LiveEventEntry where
  event : RuntimeEvent
  subscriptionId : Option JsText

/-- `isCoalescibleDeltaKind` -/
def isCoalescibleDeltaKind (kind : RuntimeEventKind) : Bool :=
  kind = .reasoningDelta ∨ kind = .answerDelta

/-- `===`; two values from different events are not the same object. -/
def strictEq : Option Json → Option Json → Bool
  | none, none => true
  | some .null, some .null => true
  | some (.bool first), some (.bool second) => first = second
  | some (.number first), some (.number second) => first = second
  | some (.string first), some (.string second) => first = second
  | _, _ => false

/-- `mergeable` -/
def mergeable (previous next : RuntimeEvent) : Bool :=
  previous.kind = next.kind ∧ previous.turnId = next.turnId ∧
    (Json.string? (previous.payload.get? "text")).isSome ∧
    (Json.string? (next.payload.get? "text")).isSome ∧
    strictEq (previous.payload.get? "message_id") (next.payload.get? "message_id")

def textName : JsText := JsText.ofString "text"

/-- `{ ...payload, text }` of a payload that has a text. -/
def withText (text : JsText) : Json → Json
  | .object members => .object <| members.map fun member =>
    (member.1, if member.1 = textName then .string text else member.2)
  | payload => payload

def eventText (event : RuntimeEvent) : JsText := asText (event.payload.get? "text")

/-- The newest envelope with the text of both. -/
def merge? (previous entry : LiveEventEntry) : Option LiveEventEntry :=
  if isCoalescibleDeltaKind entry.event.kind ∧ mergeable previous.event entry.event then
    some { entry with
      event := { entry.event with
        payload := withText (eventText previous.event ++ eventText entry.event)
          entry.event.payload } }
  else none

/-- `coalesceLiveEvents` -/
def coalesceLiveEvents (entries : List LiveEventEntry) : List LiveEventEntry :=
  Coalesce.coalesce merge? entries

/-- `foldLiveEvents` -/
def foldLiveEvents (host : LiveHost) (clock : Clock) (state : LiveState)
    (entries : List LiveEventEntry) : LiveState :=
  entries.foldl (fun state entry => reduceRuntimeEvent host clock state entry.event) state

variable {host : LiveHost} {clock : Clock} {turnId : JsText} {kind : RuntimeEventKind}
  {text first second : JsText} {messages : List TranscriptMessage} {row : TranscriptMessage}
  {index : ℕ} {state : LiveState}

/-! ### Changes of a content -/

theorem extend_extend (message : TranscriptMessage) :
    (message.extend first).extend second = message.extend (first ++ second) := by
  simp [TranscriptMessage.extend]

variable {α : Type}
variable {change : α → α} {β : Type}

theorem map_modify {project : α → β}
    (same : ∀ item, project (change item) = project item) (items : List α) (index : ℕ) :
    (items.modify index change).map project = items.map project := by
  refine ext_getElem (by simp) fun place bounded _ => ?_
  rw [getElem_map, getElem_map, getElem_modify]
  split
  · exact same _
  · rfl

theorem map_extend {project : TranscriptMessage → β}
    (same : ∀ message, project (message.extend text) = project message)
    (messages : List TranscriptMessage) (index : ℕ) :
    (messages.modify index (·.extend text)).map project = messages.map project :=
  map_modify same messages index

theorem modify_concat (change : α → α) (items : List α) (item : α) :
    (items ++ [item]).modify items.length change = items ++ [change item] := by
  induction items with
  | nil => rfl
  | cons first items ih => exact congrArg (first :: ·) ih

variable {items : List α}

theorem mem_modify {item : α} (inside : item ∈ items.modify index change) :
    item ∈ items ∨ ∃ old, items[index]? = some old ∧ item = change old := by
  rcases mem_iff_getElem.1 inside with ⟨place, bounded, rfl⟩
  rw [getElem_modify]
  have within : place < items.length := by simpa using bounded
  split
  · rename_i here
    exact Or.inr ⟨items[place], by rw [here, getElem?_eq_getElem within], rfl⟩
  · exact Or.inl (getElem_mem within)

variable {passes : α → Bool}

theorem lastIndex?_congr {other : β → Bool}
    {others : List β} (same : items.map passes = others.map other) :
    lastIndex? passes items = lastIndex? other others := by
  induction items generalizing others with
  | nil =>
    cases others with
    | nil => rfl
    | cons item others => cases same
  | cons item items ih =>
    cases others with
    | nil => cases same
    | cons next others =>
      rw [map_cons, map_cons, cons.injEq] at same
      rw [lastIndex?, lastIndex?, ih same.2, same.1]

theorem lastIndex?_concat {item : α} (own : passes item = true)
    (items : List α) : lastIndex? passes (items ++ [item]) = some items.length := by
  induction items with
  | nil => simp [lastIndex?, own]
  | cons first items ih =>
    rw [cons_append, lastIndex?, ih]
    rfl

theorem lastIndex?_eq_none :
    lastIndex? passes items = none ↔ ∀ item ∈ items, passes item = false := by
  induction items with
  | nil => simp [lastIndex?]
  | cons item items ih =>
    rw [lastIndex?, forall_mem_cons, ← ih]
    cases lastIndex? passes items with
    | some index => simp
    | none => simp

theorem lastIndex?_spec (found : lastIndex? passes items = some index) :
    ∃ item, items[index]? = some item ∧ passes item = true := by
  induction items generalizing index with
  | nil => cases found
  | cons item items ih =>
    rw [lastIndex?] at found
    cases later : lastIndex? passes items with
    | some place =>
      rw [later] at found
      cases found
      exact ih later
    | none =>
      rw [later] at found
      dsimp only at found
      rcases Option.ite_none_right_eq_some.mp found with ⟨_, ⟨⟩⟩
      exact ⟨item, rfl, by assumption⟩

/-! ### Stamps -/

variable {existing : List JsText} {anchored : Bool}

theorem stampRows_append
    (old : ∀ message ∈ messages, message.id ∈ existing) (rest : List TranscriptMessage) :
    stampRows clock turnId existing anchored (messages ++ rest) =
      messages ++ stampRows clock turnId existing anchored rest := by
  induction messages with
  | nil => rfl
  | cons message messages ih =>
    rw [cons_append, stampRows, if_pos (Or.inl (old message mem_cons_self)),
      ih fun other later => old other (mem_cons_of_mem _ later), cons_append]

theorem stampRows_existing
    (old : ∀ message ∈ messages, message.id ∈ existing) :
    stampRows clock turnId existing anchored messages = messages := by
  simpa [stampRows] using stampRows_append old []

theorem stampNew_same {after : List TranscriptMessage}
    (same : after.map (·.id) = messages.map (·.id)) : stampNew clock turnId messages after = after := by
  refine stampRows_existing fun message inside => ?_
  rw [← same]
  exact mem_map_of_mem inside

/-- A row that is added, with its stamp. -/
def stampedRow (clock : Clock) (turnId : JsText) (messages : List TranscriptMessage)
    (row : TranscriptMessage) : TranscriptMessage :=
  if row.id ∈ messages.map (·.id) ∨ turnId = [] then row
  else
    { row with
      turnId := some turnId
      work := if (messages ++ [row]).any fun message =>
          message.turnId = some turnId && message.work.isSome then row.work
        else some { startedAt := some clock.time, ended := false } }

theorem stampNew_concat : stampNew clock turnId messages (messages ++ [row]) =
    messages ++ [stampedRow clock turnId messages row] := by
  rw [stampNew, stampRows_append fun message inside => mem_map_of_mem inside]
  unfold stampRows stampedRow
  split
  · rfl
  · rfl

theorem stampedRow_extend : stampedRow clock turnId messages (row.extend text) =
    (stampedRow clock turnId messages row).extend text := by
  have flags : (messages ++ [row.extend text]).any (fun message =>
      message.turnId = some turnId && message.work.isSome) =
      (messages ++ [row]).any fun message =>
        message.turnId = some turnId && message.work.isSome := by
    rw [any_append, any_append]
    rfl
  by_cases old : row.id ∈ messages.map (·.id) ∨ turnId = []
  · rw [stampedRow, stampedRow, if_pos old]
    exact if_pos old
  · rw [stampedRow, stampedRow, flags, if_neg old]
    exact (if_neg old).trans rfl

theorem stampedRow_keeps : (stampedRow clock turnId messages row).id = row.id ∧
    (stampedRow clock turnId messages row).type = row.type ∧
    (stampedRow clock turnId messages row).duration = row.duration ∧
    (stampedRow clock turnId messages row).streaming = row.streaming := by
  unfold stampedRow
  split
  · exact ⟨rfl, rfl, rfl, rfl⟩
  · exact ⟨rfl, rfl, rfl, rfl⟩

theorem stampedRow_hasEnded (open_ : row.hasEnded = false) :
    (stampedRow clock turnId messages row).hasEnded = false := by
  unfold stampedRow
  split
  · exact open_
  · unfold TranscriptMessage.hasEnded
    dsimp only
    split
    · exact open_
    · rfl

/-! ### The row that a delta finds -/

/-- The rows after a delta, with their stamps. -/
def grow (clock : Clock) (kind : RuntimeEventKind) (turnId text : JsText)
    (messages : List TranscriptMessage) : List TranscriptMessage :=
  if text = [] then messages
  else
    stampNew clock turnId messages <|
      if kind = .reasoningDelta then appendToThought clock turnId text messages
      else appendToAnswer clock turnId text messages

/-- A delta extends a row that is there, or opens one that the next delta extends. -/
inductive Grows (clock : Clock) (kind : RuntimeEventKind) (turnId : JsText)
    (messages : List TranscriptMessage) : Prop where
  | extends (index : ℕ)
      (extended : ∀ text, text ≠ [] →
        grow clock kind turnId text messages = messages.modify index (·.extend text))
      (again : ∀ first text, text ≠ [] →
        grow clock kind turnId text (messages.modify index (·.extend first)) =
          (messages.modify index (·.extend first)).modify index (·.extend text))
  | opens (row : TranscriptMessage) (other : row.type ≠ .user) (open_ : row.hasEnded = false)
      (opened : ∀ text, text ≠ [] →
        grow clock kind turnId text messages = messages ++ [row.extend text])
      (again : ∀ first text, text ≠ [] →
        grow clock kind turnId text (messages ++ [row.extend first]) =
          (messages ++ [row.extend first]).modify messages.length (·.extend text))

theorem grow_thought (filled : text ≠ []) : grow clock .reasoningDelta turnId text messages =
    stampNew clock turnId messages (appendToThought clock turnId text messages) := by
  rw [grow, if_neg filled, if_pos rfl]

theorem grow_answer (filled : text ≠ []) : grow clock .answerDelta turnId text messages =
    stampNew clock turnId messages (appendToAnswer clock turnId text messages) := by
  rw [grow, if_neg filled, if_neg (by decide)]

theorem stampNew_modify : stampNew clock turnId messages
    (messages.modify index (·.extend text)) = messages.modify index (·.extend text) :=
  stampNew_same (map_extend (fun _ => rfl) _ _)

variable {others : List TranscriptMessage}

theorem thoughtIdFor_congr
    (same : messages.map (fun message => (message.id, message.duration)) =
      others.map fun message => (message.id, message.duration)) :
    thoughtIdFor messages turnId = thoughtIdFor others turnId := by
  have ids : messages.map (·.id) = others.map (·.id) := by
    have firsts := congrArg (List.map Prod.fst) same
    rwa [map_map, map_map] at firsts
  have counts : ∀ start, countWithPrefix messages start = countWithPrefix others start := by
    intro start
    have mapped : ∀ rows : List TranscriptMessage, countWithPrefix rows start =
        (rows.map (·.id)).countP fun id => start <+: id := by
      intro rows
      rw [countP_map]
      rfl
    rw [mapped, mapped, ids]
  have lasts := congrArg List.getLast? same
  rw [getLast?_map, getLast?_map] at lasts
  unfold thoughtIdFor
  rw [counts]
  cases one : messages.getLast? with
  | none =>
    cases two : others.getLast? with
    | none => rfl
    | some last =>
      rw [one, two] at lasts
      cases lasts
  | some last =>
    cases two : others.getLast? with
    | none =>
      rw [one, two] at lasts
      cases lasts
    | some other =>
      rw [one, two, Option.map_some, Option.map_some, Option.some.injEq, Prod.mk.injEq] at lasts
      dsimp only
      rw [lasts.1, lasts.2]

theorem prefix_thoughtIdFor : thoughtPrefix turnId <+: thoughtIdFor messages turnId := by
  unfold thoughtIdFor
  dsimp only
  split
  · exact prefix_append _ _
  · split
    · rename_i both
      exact both.1
    · exact prefix_append _ _

theorem grows_thought : Grows clock .reasoningDelta turnId messages := by
  cases found : messages.findIdx? fun message => message.id = thoughtIdFor messages turnId with
  | some index =>
    have extended : ∀ (rows : List TranscriptMessage) (text : JsText), text ≠ [] →
        rows.map (fun message => (message.id, message.duration)) =
          messages.map (fun message => (message.id, message.duration)) →
        grow clock .reasoningDelta turnId text rows = rows.modify index (·.extend text) := by
      intro rows text filled same
      have ids : rows.map (·.id) = messages.map (·.id) := by
        have firsts := congrArg (List.map Prod.fst) same
        rwa [map_map, map_map] at firsts
      have place : rows.findIdx? (fun message => message.id = thoughtIdFor rows turnId) =
          some index := by
        rw [thoughtIdFor_congr same, ← found]
        have mapped : ∀ others : List TranscriptMessage,
            others.findIdx? (fun message => message.id = thoughtIdFor messages turnId) =
              (others.map (·.id)).findIdx? fun id => id = thoughtIdFor messages turnId := by
          intro others
          rw [findIdx?_map]
          rfl
        rw [mapped, mapped, ids]
      rw [grow_thought filled, appendToThought, place]
      exact stampNew_modify
    refine .extends index (fun text filled => extended messages text filled rfl) ?_
    intro first text filled
    exact extended _ text filled (map_extend (fun _ => rfl) _ _)
  | none =>
    refine .opens (stampedRow clock turnId messages
      { thoughtRow clock (thoughtIdFor messages turnId) [] with content := none }) ?_ ?_ ?_ ?_
    · rw [stampedRow_keeps.2.1]
      exact fun same => by cases same
    · exact stampedRow_hasEnded rfl
    · intro text filled
      rw [grow_thought filled, appendToThought, found]
      have row : thoughtRow clock (thoughtIdFor messages turnId) text = TranscriptMessage.extend
          { thoughtRow clock (thoughtIdFor messages turnId) [] with content := none } text := rfl
      rw [row, stampNew_concat, stampedRow_extend]
    · intro first text filled
      generalize opened : stampedRow clock turnId messages
        { thoughtRow clock (thoughtIdFor messages turnId) [] with content := none } = row
      have keeps : row.id = thoughtIdFor messages turnId ∧ row.duration = some streamingMark := by
        rw [← opened]
        exact ⟨stampedRow_keeps.1, stampedRow_keeps.2.2.1⟩
      have own : thoughtIdFor (messages ++ [row.extend first]) turnId =
          thoughtIdFor messages turnId := by
        have last : (messages ++ [row.extend first]).getLast? = some (row.extend first) :=
          getLast?_concat
        rw [thoughtIdFor, last]
        dsimp only
        rw [if_pos]
        · exact keeps.1
        · refine ⟨?_, keeps.2⟩
          have ids : (row.extend first).id = thoughtIdFor messages turnId := keeps.1
          rw [ids]
          exact prefix_thoughtIdFor
      have place : (messages ++ [row.extend first]).findIdx? (fun message =>
          message.id = thoughtIdFor (messages ++ [row.extend first]) turnId) =
          some messages.length := by
        have ids : (row.extend first).id = thoughtIdFor messages turnId := keeps.1
        rw [own, findIdx?_append, found, Option.none_or, findIdx?_cons,
          if_pos (decide_eq_true ids)]
        simp
      rw [grow_thought filled, appendToThought, place]
      exact stampNew_modify

theorem openAnswerIndex_congr
    (same : messages.map (fun message => (message.type, message.id, message.streaming)) =
      others.map fun message => (message.type, message.id, message.streaming)) :
    openAnswerIndex messages turnId = openAnswerIndex others turnId := by
  have places : lastIndex? (fun message : TranscriptMessage => decide (message.type = .assistant ∧
      answerPrefix turnId <+: message.id)) messages = lastIndex? (fun message : TranscriptMessage =>
      decide (message.type = .assistant ∧ answerPrefix turnId <+: message.id)) others := by
    refine lastIndex?_congr ?_
    have tests := congrArg (List.map fun parts : RowType × JsText × Option Bool =>
      decide (parts.1 = .assistant ∧ answerPrefix turnId <+: parts.2.1)) same
    rwa [map_map, map_map] at tests
  have flags : ∀ place : ℕ, (messages[place]?.bind (·.streaming)) =
      others[place]?.bind (·.streaming) := by
    intro place
    have items := congrArg (fun rows : List (RowType × JsText × Option Bool) =>
      rows[place]?.bind (·.2.2)) same
    rw [getElem?_map, getElem?_map, Option.bind_map, Option.bind_map] at items
    exact items
  unfold openAnswerIndex
  rw [places]
  simp only [flags]

theorem grows_answer : Grows clock .answerDelta turnId messages := by
  cases found : openAnswerIndex messages turnId with
  | some index =>
    have extended : ∀ (rows : List TranscriptMessage) (text : JsText), text ≠ [] →
        rows.map (fun message => (message.type, message.id, message.streaming)) =
          messages.map (fun message => (message.type, message.id, message.streaming)) →
        grow clock .answerDelta turnId text rows = rows.modify index (·.extend text) := by
      intro rows text filled same
      rw [grow_answer filled, appendToAnswer, openAnswerIndex_congr same, found]
      exact stampNew_modify
    refine .extends index (fun text filled => extended messages text filled rfl) ?_
    intro first text filled
    exact extended _ text filled (map_extend (fun _ => rfl) _ _)
  | none =>
    refine .opens (stampedRow clock turnId messages
      { answerRow clock messages turnId [] true with content := none }) ?_ ?_ ?_ ?_
    · rw [stampedRow_keeps.2.1]
      exact fun same => by cases same
    · exact stampedRow_hasEnded rfl
    · intro text filled
      rw [grow_answer filled, appendToAnswer, found]
      have row : answerRow clock messages turnId text true = TranscriptMessage.extend
          { answerRow clock messages turnId [] true with content := none } text := rfl
      rw [row, stampNew_concat, stampedRow_extend]
    · intro first text filled
      generalize opened : stampedRow clock turnId messages
        { answerRow clock messages turnId [] true with content := none } = row
      have keeps : row.type = .assistant ∧ answerPrefix turnId <+: row.id ∧
          row.streaming = some true := by
        rw [← opened]
        refine ⟨stampedRow_keeps.2.1, ?_, stampedRow_keeps.2.2.2⟩
        rw [stampedRow_keeps.1]
        exact prefix_append _ _
      have place : openAnswerIndex (messages ++ [row.extend first]) turnId =
          some messages.length := by
        have last := @lastIndex?_concat _ (fun message : TranscriptMessage =>
          decide (message.type = .assistant ∧ answerPrefix turnId <+: message.id))
          (row.extend first) (decide_eq_true ⟨keeps.1, keeps.2.1⟩) messages
        have flag : ((messages ++ [row.extend first])[messages.length]?.bind (·.streaming)) =
            some true := by
          rw [getElem?_concat_length]
          exact keeps.2.2
        rw [openAnswerIndex, last, Option.filter_some, if_pos (decide_eq_true flag)]
      rw [grow_answer filled, appendToAnswer, place]
      exact stampNew_modify

theorem grows_of_delta (delta : isCoalescibleDeltaKind kind = true) :
    Grows clock kind turnId messages := by
  unfold isCoalescibleDeltaKind at delta
  rcases of_decide_eq_true delta with rfl | rfl
  · exact grows_thought
  · exact grows_answer

theorem grow_nil : grow clock kind turnId [] messages = messages := if_pos rfl

theorem grow_grow (delta : isCoalescibleDeltaKind kind = true) :
    grow clock kind turnId second (grow clock kind turnId first messages) =
      grow clock kind turnId (first ++ second) messages := by
  by_cases empty : first = []
  · rw [empty, grow_nil, nil_append]
  · by_cases blank : second = []
    · rw [blank, grow_nil, append_nil]
    · have both : first ++ second ≠ [] := append_ne_nil_of_left_ne_nil empty _
      rcases @grows_of_delta clock turnId kind messages delta with
        ⟨index, extended, again⟩ | ⟨row, -, -, opened, again⟩
      · rw [extended _ empty, again _ _ blank, extended _ both, modify_modify_eq]
        exact congrArg (messages.modify index) (funext extend_extend)
      · rw [opened _ empty, again _ _ blank, opened _ both, modify_concat, extend_extend]

/-! ### The turn stays open -/

/-- The turn has its submitted row, or there is none for it. -/
def Bound (turnId : JsText) (messages : List TranscriptMessage) : Prop :=
  turnId = [] ∨ (∃ message ∈ messages, message.turnId = some turnId) ∨
    ∀ message ∈ messages, isUnclaimed message = false

theorem bindWorkTurn_of_bound (bound : Bound turnId messages) :
    bindWorkTurn clock turnId messages = messages := by
  unfold bindWorkTurn
  rcases bound with empty | ⟨message, inside, own⟩ | claimed
  · rw [if_pos (Or.inl empty)]
  · rw [if_pos (Or.inr (any_eq_true.2 ⟨message, inside, decide_eq_true own⟩))]
  · split
    · rfl
    · rw [lastIndex?_eq_none.2 claimed]

theorem bound_bindWorkTurn : Bound turnId (bindWorkTurn clock turnId messages) := by
  unfold bindWorkTurn
  split
  · rename_i known
    refine known.imp_right fun any_ => Or.inl ?_
    rcases any_eq_true.1 any_ with ⟨message, inside, own⟩
    exact ⟨message, inside, of_decide_eq_true own⟩
  · split
    · rename_i none
      exact Or.inr (Or.inr (lastIndex?_eq_none.1 none))
    · rename_i index found
      rcases lastIndex?_spec found with ⟨message, place, -⟩
      have claimed : (messages.modify index (claimRow clock turnId))[index]? =
          some (claimRow clock turnId message) := by
        rw [getElem?_modify_eq, place]
        rfl
      exact Or.inr (Or.inl ⟨_, mem_of_getElem? claimed, rfl⟩)

theorem mem_extend {β : Type} {project : TranscriptMessage → β}
    (same : ∀ message, project (message.extend text) = project message)
    {message : TranscriptMessage} (inside : message ∈ messages.modify index (·.extend text)) :
    ∃ old ∈ messages, project message = project old := by
  rcases mem_modify inside with old | ⟨old, place, rfl⟩
  · exact ⟨message, old, rfl⟩
  · exact ⟨old, mem_of_getElem? place, same old⟩

theorem Bound.grow (bound : Bound turnId messages) (delta : isCoalescibleDeltaKind kind = true)
    (text : JsText) : Bound turnId (grow clock kind turnId text messages) := by
  by_cases blank : text = []
  · rwa [blank, grow_nil]
  · rcases @grows_of_delta clock turnId kind messages delta with
      ⟨index, extended, -⟩ | ⟨row, other, -, opened, -⟩
    · rw [extended _ blank]
      refine bound.imp_right (Or.imp ?_ ?_)
      · rintro ⟨message, inside, own⟩
        have turns : (messages.modify index (·.extend text)).map (·.turnId) =
            messages.map (·.turnId) := map_extend (fun _ => rfl) messages index
        have present : some turnId ∈ messages.map (·.turnId) := own ▸ mem_map_of_mem inside
        rw [← turns, mem_map] at present
        exact present
      · intro claimed message inside
        rcases @mem_extend _ _ _ _ isUnclaimed (fun _ => rfl) _ inside with ⟨old, member, same⟩
        rw [same]
        exact claimed old member
    · rw [opened _ blank]
      refine bound.imp_right (Or.imp ?_ ?_)
      · rintro ⟨message, inside, own⟩
        exact ⟨message, mem_append_left _ inside, own⟩
      · intro claimed message inside
        rcases mem_append.1 inside with early | last
        · exact claimed message early
        · rw [mem_singleton.1 last]
          exact decide_eq_false fun all => other all.1

/-- No row of the turn has its end. -/
def Unsettled (turnId : JsText) (messages : List TranscriptMessage) : Prop :=
  ∀ message ∈ messages, ¬(message.turnId = some turnId ∧ message.hasEnded = true)

theorem isSettled_eq_false : isSettled state turnId = false ↔
    turnId = [] ∨ turnId ∉ state.settledTurnIds ∧ Unsettled turnId state.messages := by
  unfold isSettled Unsettled
  rw [decide_eq_false_iff_not, not_and_or, not_not, not_or]
  simp

theorem Unsettled.bindWorkTurn (unsettled : Unsettled turnId messages) :
    Unsettled turnId (bindWorkTurn clock turnId messages) := by
  unfold Console.bindWorkTurn
  split
  · exact unsettled
  · split
    · exact unsettled
    · rename_i index found
      rcases lastIndex?_spec found with ⟨pending, place, free⟩
      intro message inside
      rcases mem_modify inside with old | ⟨old, own, rfl⟩
      · exact unsettled message old
      · cases place.symm.trans own
        have open_ : pending.hasEnded = false := (of_decide_eq_true free).2.2.2
        rintro ⟨-, ended⟩
        unfold TranscriptMessage.hasEnded claimRow at ended
        unfold TranscriptMessage.hasEnded at open_
        dsimp only at ended
        cases work : pending.work with
        | none =>
          rw [work] at ended
          cases ended
        | some known =>
          rw [work] at open_ ended
          exact Bool.false_ne_true (open_.symm.trans ended)

theorem Unsettled.grow (unsettled : Unsettled turnId messages)
    (delta : isCoalescibleDeltaKind kind = true) (text : JsText) :
    Unsettled turnId (grow clock kind turnId text messages) := by
  by_cases blank : text = []
  · rwa [blank, grow_nil]
  · rcases @grows_of_delta clock turnId kind messages delta with
      ⟨index, extended, -⟩ | ⟨row, -, open_, opened, -⟩
    · rw [extended _ blank]
      intro message inside
      rcases @mem_extend _ _ _ _ (fun message => (message.turnId, message.hasEnded))
        (fun _ => rfl) _ inside with ⟨old, member, same⟩
      rw [Prod.mk.injEq] at same
      rw [same.1, same.2]
      exact unsettled old member
    · rw [opened _ blank]
      intro message inside
      rcases mem_append.1 inside with early | last
      · exact unsettled message early
      · rw [mem_singleton.1 last]
        rintro ⟨-, ended⟩
        exact Bool.false_ne_true (open_.symm.trans ended)

/-! ### One delta after another -/

/-- The effect of a delta. -/
def applyDelta (clock : Clock) (kind : RuntimeEventKind) (turnId text : JsText)
    (state : LiveState) : LiveState :=
  if isSettled state turnId then state
  else if isForeign state turnId ∧ state.runtimeStatus = .running then state
  else
    let opened := openTurn clock turnId state
    { opened with messages := grow clock kind turnId text opened.messages }

theorem reduce_delta {event : RuntimeEvent} (delta : isCoalescibleDeltaKind event.kind = true) :
    reduceRuntimeEvent host clock state event =
      applyDelta clock event.kind event.turnId (eventText event) state := by
  have kinds : event.kind = .reasoningDelta ∨ event.kind = .answerDelta :=
    of_decide_eq_true delta
  have working : isTurnTerminalKind event.kind = false := by
    rcases kinds with same | same
    · rw [same]
      rfl
    · rw [same]
      rfl
  have other : event.kind ≠ .turnChanges ∧ event.kind ≠ .activityStarted := by
    rcases kinds with same | same
    · rw [same]
      exact ⟨by decide, by decide⟩
    · rw [same]
      exact ⟨by decide, by decide⟩
  unfold reduceRuntimeEvent applyDelta
  dsimp only
  rw [working, if_neg (fun both => other.1 both.2)]
  by_cases settled : isSettled state event.turnId = true
  · rw [if_pos settled, if_pos ⟨settled, fun both => Bool.false_ne_true both.1⟩]
  · rw [if_neg settled, if_neg fun both => settled both.1]
    by_cases foreign : isForeign state event.turnId = true ∧ state.runtimeStatus = .running
    · rw [if_pos foreign, if_pos ⟨foreign.1, foreign.2, other.2⟩]
    · rw [if_neg foreign, if_neg fun all => foreign ⟨all.1, all.2.1⟩, if_neg Bool.false_ne_true]
      unfold takeEffect grow eventText
      dsimp only
      by_cases blank : asText (event.payload.get? "text") = []
      · rcases kinds with same | same
        · rw [same, if_pos blank]
          simp only [if_pos blank]
          rw [stampNew_same rfl]
        · rw [same, if_pos blank]
          simp only [if_pos blank]
          rw [stampNew_same rfl]
      · rcases kinds with same | same
        · rw [same, if_neg blank]
          simp only [if_neg blank]
          rfl
        · rw [same, if_neg blank]
          simp only [if_neg blank]
          rfl

theorem isForeign_opened {opened : LiveState}
    (active : opened.activeTurnId = if turnId = [] then state.activeTurnId else some turnId) :
    isForeign opened turnId = false := by
  unfold isForeign
  rw [active]
  by_cases empty : turnId = []
  · exact decide_eq_false fun both => both.1 empty
  · rw [if_neg empty]
    simp

theorem applyDelta_applyDelta (delta : isCoalescibleDeltaKind kind = true) :
    applyDelta clock kind turnId second (applyDelta clock kind turnId first state) =
      applyDelta clock kind turnId (first ++ second) state := by
  unfold applyDelta
  by_cases settled : isSettled state turnId = true
  · rw [if_pos settled, if_pos settled, if_pos settled]
  · by_cases foreign : isForeign state turnId = true ∧ state.runtimeStatus = .running
    · rw [if_neg settled, if_pos foreign, if_neg settled, if_pos foreign, if_neg settled,
        if_pos foreign]
    · rw [if_neg settled, if_neg foreign, if_neg settled, if_neg foreign]
      dsimp only
      -- After the first text the turn is open, and the second finds the same row.
      have still : isSettled { openTurn clock turnId state with
          messages := grow clock kind turnId first (openTurn clock turnId state).messages }
          turnId = false := by
        rw [isSettled_eq_false]
        refine (isSettled_eq_false.1 (Bool.eq_false_iff.2 settled)).imp_right fun both => ?_
        exact ⟨both.1, (both.2.bindWorkTurn).grow delta first⟩
      have own : isForeign { openTurn clock turnId state with
          messages := grow clock kind turnId first (openTurn clock turnId state).messages }
          turnId = false := @isForeign_opened turnId state _ rfl
      have bound : bindWorkTurn clock turnId
          (grow clock kind turnId first (openTurn clock turnId state).messages) =
          grow clock kind turnId first (openTurn clock turnId state).messages :=
        bindWorkTurn_of_bound (bound_bindWorkTurn.grow delta first)
      rw [still, own, if_neg Bool.false_ne_true, if_neg fun both => Bool.false_ne_true both.1]
      unfold openTurn at bound ⊢
      dsimp only at bound ⊢
      rw [bound, grow_grow delta]
      by_cases empty : turnId = []
      · simp only [if_pos empty]
      · simp only [if_neg empty]

/-! ### Batches -/

theorem lookup_withText {members : List (JsText × Json)} {old : Json}
    (found : members.lookup textName = some old) :
    (members.map fun member =>
      (member.1, if member.1 = textName then Json.string text else member.2)).lookup textName =
        some (.string text) := by
  induction members with
  | nil => cases found
  | cons member members ih =>
    rw [map_cons, lookup_cons]
    rw [lookup_cons] at found
    by_cases own : textName = member.1
    · rw [beq_iff_eq.2 own, if_pos own.symm]
    · rw [beq_false_of_ne own] at found ⊢
      exact ih found

theorem asText_withText {payload : Json}
    (present : (Json.string? (payload.get? "text")).isSome = true) :
    asText ((withText text payload).get? "text") = text := by
  cases payload with
  | object members =>
    cases found : members.lookup textName with
    | none =>
      have missing : (Json.object members).get? "text" = none := found
      rw [missing] at present
      cases present
    | some old =>
      have own : (withText text (.object members)).get? "text" = some (.string text) :=
        lookup_withText found
      rw [own]
      rfl
  | null | bool _ | number _ | string _ | array _ => cases present

theorem reduce_merged {previous entry both : LiveEventEntry} (merged : merge? previous entry = some both) :
    reduceRuntimeEvent host clock state both.event =
      reduceRuntimeEvent host clock (reduceRuntimeEvent host clock state previous.event)
        entry.event := by
  unfold merge? at merged
  rcases Option.ite_none_right_eq_some.mp merged with ⟨merges, merged⟩
  rcases merges with ⟨delta, same⟩
  unfold mergeable at same
  rcases of_decide_eq_true same with ⟨kinds, turns, -, filled, -⟩
  cases merged
  have former : isCoalescibleDeltaKind previous.event.kind = true := by rwa [kinds]
  rw [@reduce_delta host clock state previous.event former, @reduce_delta host clock _ entry.event delta,
    reduce_delta (by exact delta)]
  have texts : eventText { entry.event with
      payload := withText (eventText previous.event ++ eventText entry.event)
        entry.event.payload } = eventText previous.event ++ eventText entry.event :=
    asText_withText filled
  rw [texts, kinds, turns]
  exact (applyDelta_applyDelta delta).symm

/-- Batches of deltas are not seen. -/
theorem fold_coalesce (host : LiveHost) (clock : Clock) (state : LiveState)
    (entries : List LiveEventEntry) :
    foldLiveEvents host clock state (coalesceLiveEvents entries) =
      foldLiveEvents host clock state entries :=
  Coalesce.foldl_coalesce (fun _ _ _ merged _ => reduce_merged merged) entries state

end Synapse.Console
