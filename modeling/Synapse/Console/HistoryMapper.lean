import Synapse.Console.Transcript
import Synapse.Foundation.Separator

/-!
# Rows of a page of history

`mapHistoryEvents` turns the events of a page into rows. The turn, its id and the place of an event in
its turn are counted along the page, from the first turn of the page on. Rows are named after these,
so a history gives the same rows however it is cut between turns.
-/

namespace Synapse.Console.HistoryMapper

open List

inductive EventKind where
  | user
  | thought
  | answer
  | tools
  | changes
  | other
  deriving DecidableEq

/-- An event of the wire; `none` is a value that is `null` or empty where both count as missing. -/
structure HistoryEvent where
  kind : EventKind
  text : Option JsText := none
  toolCalls : List Json := []
  toolResults : List Json := []
  attachments : Option Json := none
  changes : Option Json := none
  changesTotal : Option Json := none
  revertedPaths : Option Json := none
  turnId : Option JsText := none
  elapsedS : Option Json := none
  collaboration : Option (List (JsText × JsText)) := none

/-- `toLowerCase`, and `String(value)` of a value that is not a string. -/
structure Host where
  toLowerCase : JsText → JsText
  toText : Json → JsText

/-! ### Todo lists -/

inductive TodoKind where
  | done
  | active
  | pending
  deriving DecidableEq

def todoToolNames : List JsText :=
  ["write_todos", "todo_write", "todos"].map JsText.ofString

def TodoKind.mark : TodoKind → JsText
  | .done => JsText.ofString "✓"
  | .active => JsText.ofString "●"
  | .pending => JsText.ofString "○"

def Host.string (host : Host) : Json → JsText
  | .string value => value
  | value => host.toText value

/-- `text.replace(/[\s-]+/g, '_')` -/
def underscored : Bool → JsText → JsText
  | _, [] => []
  | within, unit :: rest =>
    if JsText.isSpace unit ∨ unit = 0x2D then
      if within then underscored true rest else 0x5F :: underscored true rest
    else unit :: underscored false rest

/-- `kindOfStatus` -/
def kindOfStatus (host : Host) (status : Option Json) : TodoKind :=
  let text := ((Json.orElse status none).map host.string).getD (JsText.ofString "pending")
  let key := underscored false (host.toLowerCase text.trim)
  if key ∈ ["completed", "complete", "done", "finished", "closed", "resolved"].map JsText.ofString
  then .done
  else if key ∈ ["in_progress", "active", "doing", "running", "started", "current"].map
    JsText.ofString then .active
  else .pending

def todoItem (host : Host) : Json → Option (TodoKind × JsText)
  | .object members =>
    let record := Json.object members
    let content := Json.orElse (record.get? "content")
      (Json.orElse (record.get? "text") (record.get? "title"))
    some (kindOfStatus host (record.get? "status"),
      (((Json.orElse content none).map host.string).getD []).trim)
  | .string text => if text.trim = [] then none else some (.pending, text.trim)
  | _ => none

/-- `extractTodos` -/
def extractTodos (host : Host) (args : Option Json) : List (TodoKind × JsText) :=
  (Json.items (args.bind fun value => value.get? "todos")).filterMap (todoItem host)

/-- `todoPreviewFromArgs` -/
def todoPreviewFromArgs (host : Host) (toolName : JsText) (args : Option Json) : Option JsText :=
  let todos := extractTodos host args
  let count := fun kind => JsText.ofNat (todos.countP fun item => item.1 = kind)
  if host.toLowerCase toolName ∉ todoToolNames ∨ todos = [] then none
  else
    some <| JsText.join (JsText.ofString "\n") <|
      ((todos.take 16).map fun item => item.1.mark ++ JsText.ofString " " ++ item.2) ++
      (if 16 < todos.length then
        [JsText.ofString "… +" ++ JsText.ofNat (todos.length - 16) ++ JsText.ofString " more"]
      else []) ++
      [JsText.ofString "— done " ++ count .done ++ JsText.ofString " · doing " ++ count .active ++
        JsText.ofString " · todo " ++ count .pending]

/-! ### Where an event is -/

/-- The running counters of the loop: the turn, its id, and the next ordinal in it. -/
structure Cursor where
  turn : ℕ
  turnId : JsText
  ordinal : ℕ
  deriving DecidableEq

def positionalId (turn : ℕ) : JsText := JsText.ofString "history:" ++ JsText.ofNat turn

/-- The counters before the first event of a page. -/
def Cursor.before (startTurn : ℕ) : Cursor where
  turn := startTurn - 1
  turnId := positionalId (startTurn - 1)
  ordinal := 0

def dash : JsText := JsText.ofString "-"

/-- The counters at an event: a user event opens the next turn. -/
def Cursor.at (cursor : Cursor) (event : HistoryEvent) : Cursor :=
  if event.kind = .user then
    { turn := cursor.turn + 1
      turnId := (event.turnId.filter (· ≠ [])).getD (positionalId (cursor.turn + 1))
      ordinal := 0 }
  else cursor

def Cursor.next (cursor : Cursor) : Cursor := { cursor with ordinal := cursor.ordinal + 1 }

def Cursor.tag (cursor : Cursor) : JsText := cursor.turnId ++ dash ++ JsText.ofNat cursor.ordinal

def Cursor.label (cursor : Cursor) : JsText := JsText.ofString "Turn " ++ JsText.ofNat cursor.turn

/-! ### Rows -/

def collaborationId (entry : List (JsText × JsText)) : JsText :=
  JsText.ofString "collaboration-" ++
    (entry.lookup (JsText.ofString "message_id")).getD (JsText.ofString "undefined")

def elapsed (event : HistoryEvent) : Option ℚ :=
  (Json.number? event.elapsedS).filter fun seconds => decide (0 ≤ seconds)

def userRow (cursor : Cursor) (event : HistoryEvent) : Option TranscriptMessage :=
  let content := (event.text.getD []).trim
  let attachments := mapHistoryAttachments event.attachments
  if content ≠ [] ∨ attachments ≠ [] then
    some
      { id := (event.collaboration.map collaborationId).getD
          (JsText.ofString "hist-u-" ++ cursor.tag)
        type := if event.collaboration.isSome then .collaboration else .user
        timestamp := cursor.label
        turnId := some cursor.turnId
        work := some { elapsed := elapsed event, ended := true }
        content := some content
        attachments := if attachments = [] then none else some attachments }
  else none

/-- A row of text that is there if the text is not blank. -/
def textRow (kind : String) (type : RowType) (expanded : Option Bool) (cursor : Cursor)
    (event : HistoryEvent) : Option TranscriptMessage :=
  let content := event.text.getD []
  if content.trim ≠ [] then
    some
      { id := JsText.ofString kind ++ cursor.tag
        type
        timestamp := cursor.label
        turnId := some cursor.turnId
        content := some content
        expanded }
  else none

def thoughtRow : Cursor → HistoryEvent → Option TranscriptMessage :=
  textRow "hist-t-" .thought (some false)

def answerRow : Cursor → HistoryEvent → Option TranscriptMessage :=
  textRow "hist-a-" .assistant none

def toolName (entry : Json) : JsText :=
  (Json.filled? (entry.get? "name")).getD (JsText.ofString "tool")

/-- The names of the tools and their previews; a row without calls has those of its results. -/
def toolNames (host : Host) (event : HistoryEvent) : List (JsText × Option JsText) :=
  if event.toolCalls = [] then event.toolResults.map fun result => (toolName result, none)
  else event.toolCalls.map fun call =>
    (toolName call, todoPreviewFromArgs host (toolName call) (call.get? "args"))

def member (entry : Option Json) (name : String) : Option Json :=
  entry.bind fun value => value.get? name

/-- `historyToolItem`, and what the row sets over it. -/
def toolItem (tag : JsText) (event : HistoryEvent) (index : ℕ) (named : JsText × Option JsText) :
    ToolItemView :=
  let call := event.toolCalls[index]?
  let callId := Json.filled? (member call "id")
  let result := match callId with
    | some id => event.toolResults.find? fun result => Json.string? (result.get? "id") = some id
    | none => event.toolResults[index]?
  let args := Json.members (member call "args")
  let arg := fun name => Json.string? (args.lookup (JsText.ofString name))
  let status := (Json.string? (member result "status")).getD (JsText.ofString "completed")
  let error := decide (status = JsText.ofString "error" ∨ status = JsText.ofString "failed")
  { id := tag ++ dash ++ JsText.ofNat index
    callId
    name := named.1
    label := (arg "intent").getD named.1
    category := JsText.ofString "other"
    path := arg "file_path"
    status :=
      if error then JsText.ofString "failed"
      else if status = JsText.ofString "ok" ∨ status = JsText.ofString "success" then
        JsText.ofString "completed"
      else status
    preview := named.2.or ((Json.string? (member result "content")).map fun text => text.take 4000)
    error
    args := if args = [] then none else some args
    sub := false
    parentId := none
    subagentStatus := none
    subagentName := arg "subagent_type"
    icon := JsText.ofString "build"
    duration := some (JsText.ofString "done") }

def toolsTag (cursor : Cursor) : JsText := JsText.ofString "hist-x-" ++ cursor.tag

def toolsRow (host : Host) (cursor : Cursor) (event : HistoryEvent) : Option TranscriptMessage :=
  let names := toolNames host event
  if names ≠ [] then
    some
      { id := toolsTag cursor
        type := .toolGroup
        timestamp := cursor.label
        turnId := some cursor.turnId
        tools := some (names.mapIdx (toolItem (toolsTag cursor) event))
        finished := some true }
  else none

def changesRow (cursor : Cursor) (event : HistoryEvent) : Option TranscriptMessage :=
  let changes := turnChangeViews event.changes event.revertedPaths
  if changes ≠ [] then
    some
      { id := JsText.ofString "hist-c-" ++ cursor.tag
        type := .changes
        timestamp := cursor.label
        turnId := some cursor.turnId
        changes := some changes
        changesTotal := some (((Json.number? event.changesTotal).filter fun total =>
          decide (0 < total)).getD changes.length) }
  else none

/-- The row of an event, if it has one. -/
def rowOf (host : Host) (startTurn : ℕ) (cursor : Cursor) (event : HistoryEvent) :
    Option TranscriptMessage :=
  match event.kind with
  | .user => userRow cursor event
  | .thought => if startTurn ≤ cursor.turn then thoughtRow cursor event else none
  | .answer => if startTurn ≤ cursor.turn then answerRow cursor event else none
  | .tools => if startTurn ≤ cursor.turn then toolsRow host cursor event else none
  | .changes => if startTurn ≤ cursor.turn then changesRow cursor event else none
  | .other => none

def mapFrom (host : Host) (startTurn : ℕ) : Cursor → List HistoryEvent → List TranscriptMessage
  | _, [] => []
  | cursor, event :: events =>
    (rowOf host startTurn (cursor.at event) event).toList ++
      mapFrom host startTurn (cursor.at event).next events

/-- `mapHistoryEvents` -/
def mapHistoryEvents (host : Host) (startTurn : ℕ) (events : List HistoryEvent) :
    List TranscriptMessage :=
  mapFrom host startTurn (.before startTurn) events

/-! ### Pages and ids -/

/-- The events are cut at a turn. -/
def StartsTurn (events : List HistoryEvent) : Prop :=
  ∀ event ∈ events.head?, event.kind = .user

/-- How many turns a page opens. -/
def turnCount (events : List HistoryEvent) : ℕ := events.countP fun event => event.kind = .user

/-- The rows of the pages, each mapped from its own first turn. -/
def mapPages (host : Host) : ℕ → List (List HistoryEvent) → List TranscriptMessage
  | _, [] => []
  | startTurn, page :: pages =>
    mapHistoryEvents host startTurn page ++ mapPages host (startTurn + turnCount page) pages

/-- The events with the counters at each. -/
def placedFrom : Cursor → List HistoryEvent → List (Cursor × HistoryEvent)
  | _, [] => []
  | cursor, event :: events =>
    (cursor.at event, event) :: placedFrom (cursor.at event).next events

def placed (events : List HistoryEvent) : List (Cursor × HistoryEvent) :=
  placedFrom (.before 1) events

def turnIdsFrom (cursor : Cursor) (events : List HistoryEvent) : List JsText :=
  ((placedFrom cursor events).filter fun place => place.2.kind = .user).map (·.1.turnId)

/-- The ids of the turns, as the events give them or from their position. -/
def turnIds (events : List HistoryEvent) : List JsText := turnIdsFrom (.before 1) events

def messageIds (messages : List TranscriptMessage) : List JsText := messages.map (·.id)

def toolItemIds (messages : List TranscriptMessage) : List JsText :=
  messages.flatMap fun message => (message.tools.getD []).map (·.id)

/-- The row of an event whose turn is open. -/
def placeRow (host : Host) (place : Cursor × HistoryEvent) : Option TranscriptMessage :=
  rowOf host 0 place.1 place.2

/-- The places of the events that have rows. -/
def shown (host : Host) (events : List HistoryEvent) : List (Cursor × HistoryEvent) :=
  (placed events).filter fun place => (placeRow host place).isSome

/-- The message that a row is for, where its id is that of a collaboration message. -/
def collaboration? (place : Cursor × HistoryEvent) : Option JsText :=
  if place.2.kind = .user then place.2.collaboration.map collaborationId else none

/-- A tool row is named as an item of another one. -/
def Clashes (host : Host) (row other : Cursor × HistoryEvent) : Prop :=
  row.2.kind = .tools ∧ other.2.kind = .tools ∧ row.1.turnId = other.1.tag ∧
    row.1.ordinal < (toolNames host other.2).length

structure SeparateIds (host : Host) (events : List HistoryEvent) : Prop where
  collaborations : ((shown host events).filterMap collaboration?).Nodup
  tools : ∀ row ∈ shown host events, ∀ other ∈ shown host events, ¬Clashes host row other

/-- The rows do not show where the pages were cut, and with distinct turns all ids are distinct. -/
structure Faithful (host : Host) (events : List HistoryEvent) : Prop where
  paged : ∀ pages : List (List HistoryEvent), pages.flatten = events →
    (∀ page ∈ pages, StartsTurn page) → mapPages host 1 pages = mapHistoryEvents host 1 events
  distinct : (turnIds events).Nodup →
    (messageIds (mapHistoryEvents host 1 events) ++
      toolItemIds (mapHistoryEvents host 1 events)).Nodup

variable {host : Host} {cursor other : Cursor} {event : HistoryEvent} {events : List HistoryEvent}
  {startTurn : ℕ} {place : Cursor × HistoryEvent} {message : TranscriptMessage}

/-! ### Cuts -/

/-- The counters after some events. -/
def Cursor.after (cursor : Cursor) (events : List HistoryEvent) : Cursor :=
  events.foldl (fun cursor event => (cursor.at event).next) cursor

theorem at_user (user : event.kind = .user) (same : cursor.turn = other.turn) :
    cursor.at event = other.at event := by
  rw [Cursor.at, Cursor.at, if_pos user, if_pos user, same]

theorem at_turn : (cursor.at event).turn =
    cursor.turn + if event.kind = .user then 1 else 0 := by
  unfold Cursor.at
  split
  · rfl
  · rfl

theorem after_turn : (cursor.after events).turn = cursor.turn + turnCount events := by
  induction events generalizing cursor with
  | nil => rfl
  | cons event events ih =>
    have next : (cursor.at event).next.turn =
        cursor.turn + if event.kind = .user then 1 else 0 := at_turn
    rw [Cursor.after, foldl_cons, ← Cursor.after, ih, next]
    unfold turnCount
    rw [countP_cons]
    simp only [decide_eq_true_eq]
    omega

theorem mapFrom_append (front back : List HistoryEvent) :
    mapFrom host startTurn cursor (front ++ back) =
      mapFrom host startTurn cursor front ++ mapFrom host startTurn (cursor.after front) back := by
  induction front generalizing cursor with
  | nil => rfl
  | cons event front ih =>
    rw [cons_append, mapFrom, mapFrom, ih, append_assoc]
    rfl

theorem rowOf_started (started : startTurn ≤ cursor.turn) :
    rowOf host startTurn cursor event = rowOf host 0 cursor event := by
  unfold rowOf
  simp only [if_pos started, if_pos (Nat.zero_le cursor.turn)]

theorem mapFrom_started (started : startTurn ≤ cursor.turn) :
    mapFrom host startTurn cursor events = mapFrom host 0 cursor events := by
  induction events generalizing cursor with
  | nil => rfl
  | cons event events ih =>
    have still : startTurn ≤ (cursor.at event).turn := by
      rw [at_turn]
      omega
    rw [mapFrom, mapFrom, rowOf_started still, ih (show startTurn ≤ (cursor.at event).next.turn
      from still)]

/-- The rows of events that are cut at a turn depend on the number of that turn only. -/
theorem mapFrom_startsTurn (starts : StartsTurn events) (same : cursor.turn = other.turn)
    (next : startTurn ≤ cursor.turn + 1) :
    mapFrom host startTurn cursor events = mapFrom host 0 other events := by
  cases events with
  | nil => rfl
  | cons event events =>
    have user := starts event rfl
    have open_ : startTurn ≤ (cursor.at event).turn := by rwa [at_turn, if_pos user]
    rw [mapFrom, mapFrom, rowOf_started open_, mapFrom_started (show startTurn ≤
      (cursor.at event).next.turn from open_), at_user user same]

theorem mapPages_eq {pages : List (List HistoryEvent)} (starts : ∀ page ∈ pages, StartsTurn page)
    (same : startTurn = cursor.turn + 1) :
    mapPages host startTurn pages = mapFrom host 0 cursor pages.flatten := by
  induction pages generalizing startTurn cursor with
  | nil => rfl
  | cons page pages ih =>
    have before : (Cursor.before startTurn).turn = cursor.turn := by
      rw [same]
      rfl
    have first : mapHistoryEvents host startTurn page = mapFrom host 0 cursor page :=
      mapFrom_startsTurn (starts page mem_cons_self) before (by omega)
    have rest : startTurn + turnCount page = (cursor.after page).turn + 1 := by
      rw [after_turn]
      omega
    rw [mapPages, flatten_cons, mapFrom_append, first,
      ih (fun page later => starts page (mem_cons_of_mem _ later)) rest]

/-! ### Places -/

theorem mapFrom_eq_filterMap : mapFrom host 0 cursor events =
    (placedFrom cursor events).filterMap (placeRow host) := by
  induction events generalizing cursor with
  | nil => rfl
  | cons event events ih =>
    rw [mapFrom, placedFrom, ih, filterMap_cons]
    unfold placeRow
    dsimp only
    cases rowOf host 0 (cursor.at event) event with
    | none => rfl
    | some row => rfl

theorem mapHistoryEvents_eq (starts : StartsTurn events) : mapHistoryEvents host 1 events =
    (placed events).filterMap (placeRow host) := by
  rw [mapHistoryEvents, mapFrom_startsTurn starts rfl (Nat.le_refl 1), mapFrom_eq_filterMap]
  rfl

/-- The turn and the ordinal of a place. -/
def key (place : Cursor × HistoryEvent) : JsText × ℕ := (place.1.turnId, place.1.ordinal)

theorem turnIdsFrom_user (user : event.kind = .user) : turnIdsFrom cursor (event :: events) =
    (cursor.at event).turnId :: turnIdsFrom (cursor.at event).next events := by
  simp [turnIdsFrom, placedFrom, user]

theorem turnIdsFrom_other (user : event.kind ≠ .user) : turnIdsFrom cursor (event :: events) =
    turnIdsFrom cursor.next events := by
  have stays : cursor.at event = cursor := if_neg user
  simp [turnIdsFrom, placedFrom, user, stays]

/-- An event is later in the turn that is open, or in a turn that is opened later. -/
theorem placed_later (inside : place ∈ placedFrom cursor events) :
    (place.1.turnId = cursor.turnId ∧ cursor.ordinal ≤ place.1.ordinal) ∨
      place.1.turnId ∈ turnIdsFrom cursor events := by
  induction events generalizing cursor with
  | nil => cases inside
  | cons event events ih =>
    by_cases user : event.kind = .user
    · rw [turnIdsFrom_user user]
      rcases mem_cons.1 inside with rfl | later
      · exact Or.inr mem_cons_self
      · rcases ih later with ⟨same, -⟩ | opened
        · exact Or.inr (same ▸ mem_cons_self)
        · exact Or.inr (mem_cons_of_mem _ opened)
    · have stays : cursor.at event = cursor := if_neg user
      rw [turnIdsFrom_other user]
      rw [placedFrom, stays] at inside
      rcases mem_cons.1 inside with rfl | later
      · exact Or.inl ⟨rfl, Nat.le_refl _⟩
      · refine (ih later).imp_left fun both => ⟨both.1, ?_⟩
        exact (Nat.le_succ _).trans both.2

theorem keys_nodup_from (fresh : cursor.turnId ∉ turnIdsFrom cursor events)
    (once : (turnIdsFrom cursor events).Nodup) :
    ((placedFrom cursor events).map key).Nodup := by
  induction events generalizing cursor with
  | nil => exact nodup_nil
  | cons event events ih =>
    have apart : ∀ {cursor : Cursor}, cursor.turnId ∉ turnIdsFrom cursor.next events →
        key (cursor, event) ∉ (placedFrom cursor.next events).map key := by
      intro cursor fresh present
      rcases mem_map.1 present with ⟨place, inside, same⟩
      have turns : place.1.turnId = cursor.turnId := congrArg Prod.fst same
      have ordinals : place.1.ordinal = cursor.ordinal := congrArg Prod.snd same
      rcases placed_later inside with ⟨-, later⟩ | opened
      · rw [ordinals] at later
        exact absurd later (Nat.not_succ_le_self _)
      · exact fresh (turns ▸ opened)
    rw [placedFrom, map_cons, nodup_cons]
    by_cases user : event.kind = .user
    · rw [turnIdsFrom_user user, nodup_cons] at once
      exact ⟨apart once.1, ih once.1 once.2⟩
    · have stays : cursor.at event = cursor := if_neg user
      rw [turnIdsFrom_other user] at fresh once
      rw [stays]
      exact ⟨apart fresh, ih fresh once⟩

theorem keys_nodup (starts : StartsTurn events) (once : (turnIds events).Nodup) :
    ((placed events).map key).Nodup := by
  cases events with
  | nil => exact nodup_nil
  | cons event events =>
    -- The id before the first turn is not one that a row is named after.
    have user := starts event rfl
    rw [turnIds, turnIdsFrom_user user, nodup_cons] at once
    have apart := keys_nodup_from once.1 once.2
    rw [placed, placedFrom, map_cons, nodup_cons]
    refine ⟨fun present => ?_, apart⟩
    rcases mem_map.1 present with ⟨place, inside, equal⟩
    have turns : place.1.turnId = (Cursor.at (.before 1) event).turnId := congrArg Prod.fst equal
    have ordinals : place.1.ordinal = (Cursor.at (.before 1) event).ordinal :=
      congrArg Prod.snd equal
    rcases placed_later inside with ⟨-, later⟩ | opened
    · rw [ordinals] at later
      exact absurd later (Nat.not_succ_le_self _)
    · exact once.1 (turns ▸ opened)

/-! ### Names of rows -/

theorem dashed_inj {first second : JsText} {one two : ℕ} :
    first ++ dash ++ JsText.ofNat one = second ++ dash ++ JsText.ofNat two ↔
      first = second ∧ one = two := by
  have plain : ∀ number, (0x2D : UInt16) ∉ JsText.ofNat number := by
    intro number present
    exact absurd (JsText.mem_ofNat present).1 (by decide)
  have letter : dash = [0x2D] := by decide
  rw [letter, append_assoc, append_assoc, singleton_append, singleton_append,
    append_last_inj (plain one) (plain two), JsText.ofNat_injective.eq_iff]

theorem tag_inj : cursor.tag = other.tag ↔
    cursor.turnId = other.turnId ∧ cursor.ordinal = other.ordinal := dashed_inj

def rowPrefix : EventKind → JsText
  | .user => JsText.ofString "hist-u-"
  | .thought => JsText.ofString "hist-t-"
  | .answer => JsText.ofString "hist-a-"
  | .tools => JsText.ofString "hist-x-"
  | .changes => JsText.ofString "hist-c-"
  | .other => JsText.ofString "hist-o-"

/-- The id of the row of an event. -/
def rowId (place : Cursor × HistoryEvent) : JsText :=
  (collaboration? place).getD (rowPrefix place.2.kind ++ place.1.tag)

def itemIds (host : Host) (place : Cursor × HistoryEvent) : List JsText :=
  if place.2.kind = .tools then
    (List.range (toolNames host place.2).length).map fun index =>
      toolsTag place.1 ++ dash ++ JsText.ofNat index
  else []

theorem textRow_id {kind : String} {type : RowType} {expanded : Option Bool}
    (row : textRow kind type expanded cursor event = some message) :
    message.id = JsText.ofString kind ++ cursor.tag ∧ message.tools = none := by
  unfold textRow at row
  dsimp only at row
  rcases Option.ite_none_right_eq_some.mp row with ⟨_, ⟨⟩⟩
  exact ⟨rfl, rfl⟩

theorem userRow_id (row : userRow cursor event = some message) :
    message.id = (event.collaboration.map collaborationId).getD
      (JsText.ofString "hist-u-" ++ cursor.tag) ∧ message.tools = none := by
  unfold userRow at row
  dsimp only at row
  rcases Option.ite_none_right_eq_some.mp row with ⟨_, ⟨⟩⟩
  exact ⟨rfl, rfl⟩

theorem toolsRow_id (row : toolsRow host cursor event = some message) :
    message.id = toolsTag cursor ∧
      message.tools = some ((toolNames host event).mapIdx (toolItem (toolsTag cursor) event)) := by
  unfold toolsRow at row
  dsimp only at row
  rcases Option.ite_none_right_eq_some.mp row with ⟨_, ⟨⟩⟩
  exact ⟨rfl, rfl⟩

theorem changesRow_id (row : changesRow cursor event = some message) :
    message.id = JsText.ofString "hist-c-" ++ cursor.tag ∧ message.tools = none := by
  unfold changesRow at row
  dsimp only at row
  rcases Option.ite_none_right_eq_some.mp row with ⟨_, ⟨⟩⟩
  exact ⟨rfl, rfl⟩

theorem items_mapIdx (tag : JsText) (names : List (JsText × Option JsText)) :
    (names.mapIdx (toolItem tag event)).map (·.id) =
      (List.range names.length).map fun index => tag ++ dash ++ JsText.ofNat index := by
  refine ext_getElem (by simp) fun index first second => ?_
  simp [toolItem]

theorem placeRow_ids (row : placeRow host place = some message) :
    message.id = rowId place ∧ (message.tools.getD []).map (·.id) = itemIds host place := by
  unfold placeRow rowOf at row
  unfold rowId collaboration? itemIds
  cases kind : place.2.kind with
  | user =>
    rw [kind] at row
    rcases userRow_id row with ⟨own, none⟩
    rw [own, none]
    exact ⟨rfl, rfl⟩
  | thought =>
    rw [kind] at row
    rcases textRow_id row with ⟨own, none⟩
    rw [own, none]
    exact ⟨rfl, rfl⟩
  | answer =>
    rw [kind] at row
    rcases textRow_id row with ⟨own, none⟩
    rw [own, none]
    exact ⟨rfl, rfl⟩
  | tools =>
    rw [kind] at row
    rcases toolsRow_id row with ⟨own, items⟩
    rw [own, items]
    exact ⟨rfl, items_mapIdx _ _⟩
  | changes =>
    rw [kind] at row
    rcases changesRow_id row with ⟨own, none⟩
    rw [own, none]
    exact ⟨rfl, rfl⟩
  | other =>
    rw [kind] at row
    cases row

theorem ids_filterMap (places : List (Cursor × HistoryEvent)) :
    messageIds (places.filterMap (placeRow host)) =
        (places.filter fun place => (placeRow host place).isSome).map rowId ∧
      toolItemIds (places.filterMap (placeRow host)) =
        (places.filter fun place => (placeRow host place).isSome).flatMap (itemIds host) := by
  induction places with
  | nil => exact ⟨rfl, rfl⟩
  | cons place places ih =>
    cases row : placeRow host place with
    | none =>
      rw [filterMap_cons_none row, filter_cons_of_neg (by simp [row])]
      exact ih
    | some message =>
      rcases placeRow_ids row with ⟨own, items⟩
      rw [filterMap_cons_some row, filter_cons_of_pos (by simp [row])]
      constructor
      · rw [messageIds, map_cons, map_cons, own, ← messageIds, ih.1]
      · rw [toolItemIds, flatMap_cons, flatMap_cons, items, ← toolItemIds, ih.2]

/-! ### Distinct names -/

theorem collaborationId_ne (entry : List (JsText × JsText)) (kind : EventKind) (tag : JsText) :
    collaborationId entry ≠ rowPrefix kind ++ tag := by
  intro same
  have heads := congrArg List.head? same
  have letter : (collaborationId entry).head? = some 0x63 := rfl
  have other : (rowPrefix kind ++ tag).head? = some 0x68 := by
    cases kind <;> rfl
  rw [letter, other] at heads
  exact absurd heads (by decide)

theorem rowPrefix_length (kind : EventKind) : (rowPrefix kind).length = 7 := by
  cases kind <;> decide

/-- Rows at different places have the same name only if they are for the same message. -/
theorem rowId_eq_iff {first second : Cursor × HistoryEvent} (apart : key first ≠ key second) :
    rowId first = rowId second ↔
      ∃ id, collaboration? first = some id ∧ collaboration? second = some id := by
  have shape : ∀ place : Cursor × HistoryEvent, ∀ id, collaboration? place = some id →
      ∃ entry, id = collaborationId entry := by
    intro place id some_
    unfold collaboration? at some_
    rcases Option.ite_none_right_eq_some.mp some_ with ⟨_, some_⟩
    rcases Option.map_eq_some_iff.1 some_ with ⟨entry, -, rfl⟩
    exact ⟨entry, rfl⟩
  unfold rowId
  cases one : collaboration? first with
  | some id =>
    rcases shape first id one with ⟨entry, rfl⟩
    cases two : collaboration? second with
    | some other =>
      rw [Option.getD_some, Option.getD_some]
      constructor
      · rintro rfl
        exact ⟨_, rfl, rfl⟩
      · rintro ⟨id, same, also⟩
        rw [Option.some.inj same, Option.some.inj also]
    | none =>
      refine iff_of_false (collaborationId_ne entry _ _) ?_
      rintro ⟨id, -, none⟩
      cases none
  | none =>
    refine iff_of_false ?_ ?_
    · cases two : collaboration? second with
      | some other =>
        rcases shape second other two with ⟨entry, rfl⟩
        exact (collaborationId_ne entry _ _).symm
      | none =>
        intro same
        rw [Option.getD_none, Option.getD_none] at same
        have lengths : (rowPrefix first.2.kind).length = (rowPrefix second.2.kind).length := by
          rw [rowPrefix_length, rowPrefix_length]
        have tags := (append_inj same lengths).2
        rcases tag_inj.1 tags with ⟨turns, ordinals⟩
        exact apart (Prod.ext turns ordinals)
    · rintro ⟨id, none, -⟩
      cases none

theorem shown_pairwise (once : ((placed events).map key).Nodup) :
    (shown host events).Pairwise fun first second => key first ≠ key second := by
  have all : (placed events).Pairwise fun first second => key first ≠ key second :=
    pairwise_map.1 once
  exact all.sublist filter_sublist

theorem messageIds_nodup_iff (once : ((placed events).map key).Nodup) :
    ((shown host events).map rowId).Nodup ↔
      ((shown host events).filterMap collaboration?).Nodup := by
  have apart := @shown_pairwise host events once
  unfold List.Nodup
  rw [pairwise_map, pairwise_filterMap]
  constructor
  · intro distinct
    refine (pairwise_and_iff.2 ⟨apart, distinct⟩).imp ?_
    rintro first second ⟨other, names⟩ id one next two rfl
    exact names ((rowId_eq_iff other).2 ⟨id, one, two⟩)
  · intro distinct
    refine (pairwise_and_iff.2 ⟨apart, distinct⟩).imp ?_
    rintro first second ⟨other, ids⟩ same
    rcases (rowId_eq_iff other).1 same with ⟨id, one, two⟩
    exact ids id one id two rfl

theorem mem_itemIds {id : JsText} : id ∈ itemIds host place ↔ place.2.kind = .tools ∧
    ∃ index < (toolNames host place.2).length, toolsTag place.1 ++ dash ++ JsText.ofNat index = id := by
  unfold itemIds
  split
  · rename_i tools
    simp [tools]
  · rename_i other
    simp [other]

theorem toolsTag_inj : toolsTag cursor = toolsTag other ↔ cursor.tag = other.tag :=
  append_right_inj _

theorem itemIds_nodup (once : ((placed events).map key).Nodup) :
    ((shown host events).flatMap (itemIds host)).Nodup := by
  refine nodup_flatMap.2 ⟨fun place _ => ?_, ?_⟩
  · unfold itemIds
    split
    · refine List.Nodup.map (fun first second same => ?_) nodup_range
      exact (dashed_inj.1 same).2
    · exact nodup_nil
  · refine (shown_pairwise once).imp ?_
    intro first second apart id one two
    rcases mem_itemIds.1 one with ⟨-, index, -, rfl⟩
    rcases mem_itemIds.1 two with ⟨-, other, -, same⟩
    have tags := toolsTag_inj.1 (dashed_inj.1 same).1
    rcases tag_inj.1 tags with ⟨turns, ordinals⟩
    exact apart (Prod.ext turns.symm ordinals.symm)

theorem rowId_mem_itemIds {row other : Cursor × HistoryEvent} (shows : row ∈ shown host events) :
    rowId row ∈ itemIds host other ↔ Clashes host row other := by
  have own : ∀ index, (toolsTag other.1 ++ dash ++ JsText.ofNat index = rowId row ↔
      row.2.kind = .tools ∧ row.1.turnId = other.1.tag ∧ row.1.ordinal = index) := by
    intro index
    have long : toolsTag other.1 ++ dash ++ JsText.ofNat index =
        rowPrefix .tools ++ (other.1.tag ++ dash ++ JsText.ofNat index) := by
      rw [toolsTag, append_assoc, append_assoc, append_assoc]
      rfl
    rw [long, rowId]
    cases id : collaboration? row with
    | some id =>
      unfold collaboration? at id
      rcases Option.ite_none_right_eq_some.mp id with ⟨user, id⟩
      rcases Option.map_eq_some_iff.1 id with ⟨entry, -, rfl⟩
      refine iff_of_false (collaborationId_ne entry _ _).symm ?_
      rintro ⟨tools, -⟩
      rw [user] at tools
      cases tools
    | none =>
      rw [Option.getD_none]
      constructor
      · intro same
        have lengths : (rowPrefix .tools).length = (rowPrefix row.2.kind).length := by
          rw [rowPrefix_length, rowPrefix_length]
        rcases append_inj same lengths with ⟨kinds, tags⟩
        have parts := dashed_inj.1 tags
        refine ⟨?_, parts.1.symm, parts.2.symm⟩
        revert kinds
        cases row.2.kind <;> decide
      · rintro ⟨tools, turns, rfl⟩
        rw [tools, ← turns]
        rfl
  rw [mem_itemIds, Clashes]
  constructor
  · rintro ⟨tools, index, bounded, same⟩
    rcases (own index).1 same with ⟨kind, turns, rfl⟩
    exact ⟨kind, tools, turns, bounded⟩
  · rintro ⟨kind, tools, turns, bounded⟩
    exact ⟨tools, _, bounded, (own _).2 ⟨kind, turns, rfl⟩⟩

theorem ids_nodup_iff (starts : StartsTurn events) (once : (turnIds events).Nodup) :
    (messageIds (mapHistoryEvents host 1 events) ++
        toolItemIds (mapHistoryEvents host 1 events)).Nodup ↔ SeparateIds host events := by
  have keys := keys_nodup starts once
  rw [mapHistoryEvents_eq starts, (ids_filterMap _).1, (ids_filterMap _).2, ← shown,
    nodup_append', messageIds_nodup_iff keys]
  constructor
  · rintro ⟨collaborations, -, apart⟩
    refine ⟨collaborations, fun row shows other also clash => ?_⟩
    refine apart (mem_map_of_mem shows) (mem_flatMap.2 ⟨other, also, ?_⟩)
    exact (rowId_mem_itemIds shows).2 clash
  · rintro ⟨collaborations, tools⟩
    refine ⟨collaborations, itemIds_nodup keys, fun id message item => ?_⟩
    rcases mem_map.1 message with ⟨row, shows, rfl⟩
    rcases mem_flatMap.1 item with ⟨other, also, inside⟩
    exact tools row shows other also ((rowId_mem_itemIds shows).1 inside)

def plainHost : Host where
  toLowerCase text := text
  toText _ := []

/-- A turn that a message of another session opened. -/
def collaborationTurn (turn messageId : String) : HistoryEvent where
  kind := .user
  text := some (JsText.ofString "hello")
  turnId := some (JsText.ofString turn)
  collaboration := some [(JsText.ofString "message_id", JsText.ofString messageId)]

theorem startsTurn_collaboration {turn messageId : String} :
    StartsTurn (collaborationTurn turn messageId :: events) := by
  intro event first
  cases first
  rfl

end Synapse.Console.HistoryMapper
