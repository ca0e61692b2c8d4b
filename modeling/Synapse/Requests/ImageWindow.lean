import Synapse.Foundation.Greedy
import Synapse.Requests.ReadLifecycle

/-!
# Images in a model request

`prune_request_images` replaces the images of older tool results. Each of the two classes of tool
images has a window of messages, and both share what the images of the user leave of the payload
budget. The messages are walked from the newest to the oldest; an image that does not fit is
replaced, and the walk goes on.
-/

namespace Synapse.Requests.ImageWindow

open List

/-! ### Messages -/

structure ToolCall where
  id : Option Text
  name : Option Text
  deriving DecidableEq

inductive Role where
  | human
  | ai (toolCalls : List ToolCall)
  | tool (toolCallId : Text)
  | other
  deriving DecidableEq

inductive Content where
  | text (text : Text)
  | blocks (list : List Value)
  deriving DecidableEq

structure Message where
  id : Option Text
  role : Role
  name : Option Text
  content : Content
  deriving DecidableEq

def Content.list : Content → List Value
  | .text _ => []
  | .blocks list => list

def screenshotPlaceholder : Text :=
  Text.ofString "[previous screenshot removed to save context]"

def imagePlaceholder : Text :=
  Text.ofString "[previous image removed to save context]"

def screenshotToolMarkers : List Text :=
  [Text.ofString "screenshot", Text.ofString "screen_shot", Text.ofString "screencap",
    Text.ofString "cdp_", Text.ofString "browser", Text.ofString "get_window_state",
    Text.ofString "get_desktop_state"]

def imageBlockTypes : List Text :=
  [Text.ofString "image", Text.ofString "image_url", Text.ofString "input_image"]

def imageUrlKeys : List Text :=
  [Text.ofString "image_url", Text.ofString "url", Text.ofString "base64"]

/-! ### The images of a message -/

def isImageBlock (host : Host) : Value → Bool
  | .mapping _ entries => host.strOr (entries.get? (Text.ofString "type")) ∈ imageBlockTypes
  | _ => false

/-- `_image_blocks` -/
def imageBlocks (host : Host) (message : Message) : List Value :=
  message.content.list.filter (isImageBlock host)

/-- The first truthy value under the keys. -/
def firstTruthy (entries : Entries) (keys : List Text) : Option Value :=
  keys.findSome? fun key => (entries.get? key).filter truthy

/-- `_block_payload_chars` -/
def blockPayloadChars (host : Host) : Value → ℕ
  | .mapping _ entries =>
    match firstTruthy entries imageUrlKeys with
    | some (.mapping _ inner) => (host.strOr (inner.get? (Text.ofString "url"))).length
    | some value => (host.str value).length
    | none => 0
  | _ => 0

def payload (host : Host) (message : Message) : ℕ :=
  ((imageBlocks host message).map (blockPayloadChars host)).sum

/-- The names of the calls under their ids, in the order in which they are recorded. -/
def toolNameIndex (messages : List Message) : List (Text × Text) :=
  messages.flatMap fun message =>
    match message.role with
    | .ai toolCalls => toolCalls.filterMap fun call =>
      match call.id, call.name with
      | some id, some name => if id ≠ [] ∧ name ≠ [] then some (id, name) else none
      | _, _ => none
    | _ => []

inductive ImageClass where
  | user | screenshot | tool
  deriving DecidableEq, Repr

def isScreenshotTool (casefold : Text → Text) : Option Text → Bool
  | none => false
  | some name => name ≠ [] ∧ screenshotToolMarkers.any fun marker => marker <:+: casefold name

/-- `_image_class`; of two calls with one id the last one names the tool. -/
def imageClass (casefold : Text → Text) (names : List (Text × Text)) (message : Message) :
    ImageClass :=
  let name := message.name.filter (· ≠ [])
  match message.role with
  | .human => .user
  | .tool toolCallId =>
    if isScreenshotTool casefold (Text.orElse name (names.reverse.lookup toolCallId)) then
      .screenshot
    else .tool
  | _ => if isScreenshotTool casefold name then .screenshot else .tool

/-- A message with images, as far as the selection reads it. -/
structure Item where
  index : ℕ
  kind : ImageClass
  payload : ℕ
  deriving DecidableEq

def item? (host : Host) (casefold : Text → Text) (names : List (Text × Text)) (index : ℕ)
    (message : Message) : Option Item :=
  if imageBlocks host message = [] then none
  else some { index, kind := imageClass casefold names message, payload := payload host message }

/-- The messages with images among those from an index on. -/
def itemsFrom (host : Host) (casefold : Text → Text) (names : List (Text × Text)) (start : ℕ)
    (messages : List Message) : List Item :=
  (messages.zipIdx start).filterMap fun (message, index) => item? host casefold names index message

def items (host : Host) (casefold : Text → Text) (messages : List Message) : List Item :=
  itemsFrom host casefold (toolNameIndex messages) 0 messages

/-! ### `prune_request_images` -/

def ImageClass.placeholder : ImageClass → Text
  | .screenshot => screenshotPlaceholder
  | _ => imagePlaceholder

structure Limits where
  screenshotWindow : ℤ
  toolCeiling : ℤ
  payloadBudget : ℤ

def Limits.window (limits : Limits) : ImageClass → ℤ
  | .screenshot => limits.screenshotWindow
  | _ => limits.toolCeiling

def reserved (items : List Item) : ℕ :=
  ((items.filter fun item => item.kind = .user).map (·.payload)).sum

def available (limits : Limits) (items : List Item) : ℤ :=
  max 0 (limits.payloadBudget - reserved items)

/-- What the walk has counted, and the placeholders of the messages whose images go. -/
structure Selection where
  keptScreenshots : ℕ := 0
  keptToolImages : ℕ := 0
  usedPayload : ℕ := 0
  replacements : List (ℕ × Text) := []

def Selection.withinCount (selection : Selection) (limits : Limits) (kind : ImageClass) : Bool :=
  if kind = .screenshot then (selection.keptScreenshots : ℤ) < limits.screenshotWindow
  else (selection.keptToolImages : ℤ) < limits.toolCeiling

def Selection.visit (limits : Limits) (available : ℤ) (selection : Selection) (item : Item) :
    Selection :=
  if item.kind = .user then selection
  else if selection.withinCount limits item.kind ∧
      (selection.usedPayload : ℤ) + item.payload ≤ available then
    { selection with
      keptScreenshots := selection.keptScreenshots + if item.kind = .screenshot then 1 else 0
      keptToolImages := selection.keptToolImages + if item.kind = .screenshot then 0 else 1
      usedPayload := selection.usedPayload + item.payload }
  else
    { selection with
      replacements := selection.replacements ++ [(item.index, item.kind.placeholder)] }

/-- The walk from the newest to the oldest message with images. -/
def select (limits : Limits) (items : List Item) : Selection :=
  items.reverse.foldl (Selection.visit limits (available limits items)) {}

/-- `{"type": "text", "text": text}` -/
def textBlock (text : Text) : Value :=
  .mapping true (.ofList
    [(.str (Text.ofString "type"), .str true (Text.ofString "text")),
      (.str (Text.ofString "text"), .str true text)])

/-- `_prune_message` -/
def pruneMessage (host : Host) (message : Message) (placeholder : Text) : Option Message :=
  match message.content with
  | .text _ => none
  | .blocks blocks =>
    let kept := blocks.filter fun block => !isImageBlock host block
    if kept.length = blocks.length then none
    else some { message with content := .blocks (kept ++ [textBlock placeholder]) }

/-- The message at an index of the returned list. -/
def replaced (host : Host) (replacements : List (ℕ × Text)) (message : Message) (index : ℕ) :
    Message :=
  match replacements.lookup index with
  | some placeholder => (pruneMessage host message placeholder).getD message
  | none => message

def pruneRequestImages (host : Host) (casefold : Text → Text) (limits : Limits)
    (messages : List Message) : Option (List Message) :=
  let replacements := (select limits (items host casefold messages)).replacements
  if replacements = [] then none
  else some (messages.zipIdx.map fun (message, index) => replaced host replacements message index)

/-- The messages that go to the model. -/
def requestMessages (host : Host) (casefold : Text → Text) (limits : Limits)
    (messages : List Message) : List Message :=
  (pruneRequestImages host casefold limits messages).getD messages

/-! ### The selection is greedy -/

def count (kind : ImageClass) (kept : List Item) : ℕ :=
  (kept.filter fun item => item.kind = kind).length

/-- The payload of the tool images. -/
def used (kept : List Item) : ℕ :=
  ((kept.filter fun item => item.kind ≠ .user).map (·.payload)).sum

/-- The message is left as it is, beside the newer ones that are. -/
def fits (limits : Limits) (available : ℤ) (kept : List Item) (item : Item) : Bool :=
  item.kind = .user ∨ (count item.kind kept : ℤ) < limits.window item.kind ∧
    (used kept : ℤ) + item.payload ≤ available

variable {host : Host} {casefold : Text → Text} {limits : Limits} {names : List (Text × Text)}
  {messages : List Message} {left : ℤ} {item : Item} {kept refused : List Item}

/-- The selection sums up what is kept and what is refused. -/
structure Selection.Of (selection : Selection) (kept refused : List Item) : Prop where
  screenshots : selection.keptScreenshots = count .screenshot kept
  toolImages : selection.keptToolImages = count .tool kept
  payload : selection.usedPayload = used kept
  replacements : selection.replacements =
    (refused.map fun item => (item.index, item.kind.placeholder)).reverse

theorem count_cons (kind : ImageClass) (item : Item) (kept : List Item) :
    count kind (item :: kept) = count kind kept + if item.kind = kind then 1 else 0 := by
  unfold count
  by_cases same : item.kind = kind
  · simp [same]
  · simp [same]

theorem used_cons (item : Item) (kept : List Item) :
    used (item :: kept) = (if item.kind = .user then 0 else item.payload) + used kept := by
  unfold used
  by_cases user : item.kind = .user
  · simp [user]
  · simp [user]

variable {selection : Selection}

theorem Selection.Of.withinCount (sum : selection.Of kept refused)
    {kind : ImageClass} (tool : kind ≠ .user) :
    selection.withinCount limits kind = true ↔ (count kind kept : ℤ) < limits.window kind := by
  cases kind with
  | user => exact absurd rfl tool
  | screenshot => simp [Selection.withinCount, Limits.window, sum.screenshots]
  | tool => simp [Selection.withinCount, Limits.window, sum.toolImages]

theorem Selection.Of.visit_of_fits (sum : selection.Of kept refused)
    (fit : fits limits left kept item = true) :
    (selection.visit limits left item).Of (item :: kept) refused := by
  by_cases user : item.kind = .user
  · rw [Selection.visit, if_pos user]
    constructor
    · simp [sum.screenshots, count_cons, user]
    · simp [sum.toolImages, count_cons, user]
    · simp [sum.payload, used_cons, user]
    · exact sum.replacements
  · have room := of_decide_eq_true fit
    rw [or_iff_right user] at room
    rw [Selection.visit, if_neg user, if_pos ⟨(sum.withinCount user).2 room.1, by
      rw [sum.payload]
      exact room.2⟩]
    constructor
    · simp [sum.screenshots, count_cons]
    · cases kind : item.kind with
      | user => exact absurd kind user
      | screenshot => simp [sum.toolImages, count_cons, kind]
      | tool => simp [sum.toolImages, count_cons, kind]
    · simp only [sum.payload, used_cons, if_neg user]
      exact Nat.add_comm _ _
    · exact sum.replacements

theorem Selection.Of.visit_of_not_fits (sum : selection.Of kept refused)
    (unfit : ¬ fits limits left kept item = true) :
    (selection.visit limits left item).Of kept (item :: refused) := by
  have neither := mt decide_eq_true unfit
  rw [not_or] at neither
  rw [Selection.visit, if_neg neither.1, if_neg fun room =>
    neither.2 ⟨(sum.withinCount neither.1).1 room.1, by
      rw [← sum.payload]
      exact room.2⟩]
  constructor
  · exact sum.screenshots
  · exact sum.toolImages
  · exact sum.payload
  · simp only [sum.replacements, map_cons, reverse_cons]

theorem select_of (limits : Limits) (items : List Item) :
    (select limits items).Of (Greedy.keep (fits limits (available limits items)) items)
      (Greedy.refuse (fits limits (available limits items)) items) := by
  unfold select
  generalize available limits items = left
  rw [foldl_reverse]
  induction items with
  | nil => exact ⟨rfl, rfl, rfl, rfl⟩
  | cons item rest ih =>
    by_cases fit : fits limits left (Greedy.keep (fits limits left) rest) item = true
    · rw [Greedy.keep_cons_of_fits fit, Greedy.refuse_cons_of_fits fit]
      exact ih.visit_of_fits fit
    · rw [Greedy.keep_cons_of_not_fits fit, Greedy.refuse_cons_of_not_fits fit]
      exact ih.visit_of_not_fits fit

theorem replacements_map (limits : Limits) (items : List Item) :
    (select limits items).replacements.map Prod.fst =
      ((Greedy.refuse (fits limits (available limits items)) items).map (·.index)).reverse := by
  rw [(select_of limits items).replacements, map_reverse, map_map]
  rfl

/-! ### The items of the returned list -/

theorem itemsFrom_cons (start : ℕ) (message : Message) (rest : List Message) :
    itemsFrom host casefold names start (message :: rest) =
      (item? host casefold names start message).toList ++
        itemsFrom host casefold names (start + 1) rest := by
  unfold itemsFrom
  rw [zipIdx_cons, filterMap_cons]
  dsimp only
  cases item? host casefold names start message with
  | none => rfl
  | some item => rfl

variable {message : Message} {index : ℕ}

theorem item?_eq_some (found : item? host casefold names index message = some item) :
    imageBlocks host message ≠ [] ∧ item.index = index ∧
      item.kind = imageClass casefold names message ∧ item.payload = payload host message := by
  unfold item? at found
  rcases Option.ite_none_left_eq_some.mp found with ⟨images, ⟨⟩⟩
  exact ⟨images, rfl, rfl, rfl⟩

variable {start : ℕ}

theorem mem_itemsFrom :
    item ∈ itemsFrom host casefold names start messages ↔
      ∃ message index, (message, index) ∈ messages.zipIdx start ∧
        item? host casefold names index message = some item := by
  unfold itemsFrom
  rw [mem_filterMap]
  exact Prod.exists

theorem index_le_of_mem (present : item ∈ itemsFrom host casefold names start messages) :
    start ≤ item.index := by
  rcases mem_itemsFrom.1 present with ⟨message, index, listed, found⟩
  rw [(item?_eq_some found).2.1]
  exact le_snd_of_mem_zipIdx listed

theorem itemsFrom_sorted (start : ℕ) (messages : List Message) :
    (itemsFrom host casefold names start messages).Pairwise (·.index < ·.index) := by
  induction messages generalizing start with
  | nil => exact List.Pairwise.nil
  | cons message rest ih =>
    rw [itemsFrom_cons]
    cases found : item? host casefold names start message with
    | none => exact ih (start + 1)
    | some first =>
      refine List.Pairwise.cons (fun later present => ?_) (ih (start + 1))
      rw [(item?_eq_some found).2.1]
      exact index_le_of_mem present

theorem itemsFrom_keys_nodup (start : ℕ) (messages : List Message) :
    ((itemsFrom host casefold names start messages).map (·.index)).Nodup := by
  refine Pairwise.map _ ?_ (itemsFrom_sorted start messages)
  intro first second before
  exact before.ne

theorem isImageBlock_textBlock (text : Text) : isImageBlock host (textBlock text) = false := by
  rfl

theorem imageBlocks_pruneMessage {pruned : Message} {placeholder : Text}
    (made : pruneMessage host message placeholder = some pruned) :
    imageBlocks host pruned = [] := by
  unfold pruneMessage at made
  split at made
  · cases made
  · dsimp only at made
    split at made
    · cases made
    · cases made
      simp [imageBlocks, Content.list, isImageBlock_textBlock]

theorem imageBlocks_of_pruneMessage_eq_none {placeholder : Text}
    (kept : pruneMessage host message placeholder = none) : imageBlocks host message = [] := by
  unfold pruneMessage at kept
  split at kept
  · rename_i text
    simp [imageBlocks, text, Content.list]
  · rename_i blocks content
    dsimp only at kept
    split at kept
    · rename_i same
      rw [imageBlocks, content]
      refine filter_eq_nil_iff.2 fun block inside => ?_
      have plain := filter_eq_self.1 (List.filter_sublist.eq_of_length same) block inside
      simpa using plain
    · cases kept

variable {replacements : List (ℕ × Text)}

theorem imageBlocks_replaced (hit : index ∈ replacements.map Prod.fst) :
    imageBlocks host (replaced host replacements message index) = [] := by
  unfold replaced
  cases found : replacements.lookup index with
  | none =>
    rcases mem_map.1 hit with ⟨entry, inside, rfl⟩
    exact absurd (beq_self_eq_true entry.1) (by simpa using lookup_eq_none_iff.1 found _ inside)
  | some placeholder =>
    dsimp only
    cases made : pruneMessage host message placeholder with
    | none => exact imageBlocks_of_pruneMessage_eq_none made
    | some pruned => exact imageBlocks_pruneMessage made

theorem replaced_of_not_mem (miss : index ∉ replacements.map Prod.fst) :
    replaced host replacements message index = message := by
  have none : replacements.lookup index = none := by
    refine lookup_eq_none_iff.2 fun entry inside => ?_
    exact bne_iff_ne.2 fun same => miss (mem_map.2 ⟨entry, inside, same.symm⟩)
  rw [replaced, none]

theorem itemsFrom_replaced (replacements : List (ℕ × Text)) (start : ℕ) (messages : List Message) :
    itemsFrom host casefold names start
        ((messages.zipIdx start).map fun (message, index) =>
          replaced host replacements message index) =
      (itemsFrom host casefold names start messages).filter fun item =>
        item.index ∉ replacements.map Prod.fst := by
  induction messages generalizing start with
  | nil => rfl
  | cons message rest ih =>
    rw [zipIdx_cons, map_cons, itemsFrom_cons, itemsFrom_cons, filter_append, ih]
    congr 1
    dsimp only
    by_cases hit : start ∈ replacements.map Prod.fst
    · have gone : item? host casefold names start (replaced host replacements message start) =
          none := if_pos (imageBlocks_replaced hit)
      rw [gone]
      cases found : item? host casefold names start message with
      | none => rfl
      | some item =>
        rw [Option.toList_some, filter_cons_of_neg]
        · rfl
        · simpa [(item?_eq_some found).2.1] using hit
    · rw [replaced_of_not_mem hit]
      cases found : item? host casefold names start message with
      | none => rfl
      | some item =>
        rw [Option.toList_some, filter_cons_of_pos]
        · rfl
        · simpa [(item?_eq_some found).2.1] using hit

theorem requestMessages_eq (host : Host) (casefold : Text → Text) (limits : Limits)
    (messages : List Message) :
    requestMessages host casefold limits messages =
      messages.zipIdx.map fun (message, index) =>
        replaced host (select limits (items host casefold messages)).replacements message index := by
  unfold requestMessages pruneRequestImages
  dsimp only
  split
  · rename_i nothing
    rw [nothing, Option.getD_none]
    change messages = messages.zipIdx.map Prod.fst
    rw [zipIdx_map_fst]
  · rfl

/-- What a replacement leaves of a message: all but its images, and the placeholder behind it. -/
structure SameMessage (host : Host) (message kept : Message) : Prop where
  id : kept.id = message.id
  role : kept.role = message.role
  name : kept.name = message.name
  content : kept.content = message.content ∨ ∃ placeholder ∈ [screenshotPlaceholder, imagePlaceholder],
    kept.content = .blocks
      ((message.content.list.filter fun block => !isImageBlock host block) ++
        [textBlock placeholder])
  user : message.role = .human → kept = message

theorem SameMessage.refl (host : Host) (message : Message) : SameMessage host message message :=
  ⟨rfl, rfl, rfl, Or.inl rfl, fun _ => rfl⟩

theorem replaced_role (replacements : List (ℕ × Text)) (message : Message) (index : ℕ) :
    (replaced host replacements message index).role = message.role := by
  unfold replaced
  cases replacements.lookup index with
  | none => rfl
  | some placeholder =>
    dsimp only
    cases made : pruneMessage host message placeholder with
    | none => rfl
    | some pruned =>
      unfold pruneMessage at made
      split at made
      · cases made
      · dsimp only at made
        split at made
        · cases made
        · cases made
          rfl

theorem toolNameIndex_requestMessages :
    toolNameIndex (requestMessages host casefold limits messages) = toolNameIndex messages := by
  rw [requestMessages_eq, toolNameIndex, flatMap_map]
  simp only [replaced_role]
  conv_rhs => rw [toolNameIndex, ← zipIdx_map_fst 0 messages, flatMap_map]

theorem items_requestMessages :
    items host casefold (requestMessages host casefold limits messages) =
      Greedy.keep (fits limits (available limits (items host casefold messages)))
        (items host casefold messages) := by
  rw [items, toolNameIndex_requestMessages, requestMessages_eq, itemsFrom_replaced,
    ← Greedy.filter_refuse (·.index) (itemsFrom_keys_nodup 0 messages)]
  refine filter_congr fun item _ => ?_
  rw [replacements_map]
  simp only [mem_reverse]

theorem filter_user_keep (limits : Limits) (left : ℤ) (items : List Item) :
    ((Greedy.keep (fits limits left) items).filter fun item => item.kind = .user) =
      items.filter fun item => item.kind = .user := by
  refine Greedy.filter_keep (fun kept item user => ?_) items
  exact decide_eq_true (Or.inl (of_decide_eq_true user))

theorem available_requestMessages :
    available limits (items host casefold (requestMessages host casefold limits messages)) =
      available limits (items host casefold messages) := by
  rw [items_requestMessages, available, reserved, filter_user_keep]
  rfl

theorem pruneRequestImages_requestMessages :
    pruneRequestImages host casefold limits (requestMessages host casefold limits messages) =
      none := by
  have nothing : (select limits
      (items host casefold (requestMessages host casefold limits messages))).replacements = [] := by
    rw [(select_of limits _).replacements, available_requestMessages, items_requestMessages,
      Greedy.refuse_keep]
    rfl
  exact if_pos nothing

/-! ### Which images are kept -/

/-- The messages with images after an index. -/
def newerThan (index : ℕ) (items : List Item) : List Item :=
  items.filter fun other => index < other.index

theorem newerThan_keep {fits : List Item → Item → Bool} {before after : List Item}
    (sorted : (before ++ item :: after).Pairwise (·.index < ·.index)) :
    newerThan item.index (Greedy.keep fits (before ++ item :: after)) =
      Greedy.keep fits after := by
  rw [pairwise_append, pairwise_cons] at sorted
  rcases sorted with ⟨-, ⟨later, -⟩, earlier⟩
  rcases Greedy.keep_suffix fits before (item :: after) with ⟨chosen, within, kept⟩
  have none : newerThan item.index chosen = [] := by
    refine filter_eq_nil_iff.2 fun other inside => ?_
    have before := earlier other (within.subset inside) item mem_cons_self
    simpa using before.le
  have all : newerThan item.index (Greedy.keep fits after) = Greedy.keep fits after := by
    refine filter_eq_self.2 fun other inside => ?_
    exact decide_eq_true (later other ((Greedy.keep_sublist fits after).subset inside))
  rw [kept, newerThan, filter_append, ← newerThan, ← newerThan, none, nil_append]
  by_cases fit : fits (Greedy.keep fits after) item = true
  · rw [Greedy.keep_cons_of_fits fit, newerThan, filter_cons_of_neg (by simp), ← newerThan, all]
  · rw [Greedy.keep_cons_of_not_fits fit, all]

/-- Tool images are kept if and only if the window of their class and the budget leave room for them
beside the newer ones that are kept. -/
theorem mem_items_requestMessages_iff (present : item ∈ items host casefold messages)
    (tool : item.kind ≠ .user) :
    item ∈ items host casefold (requestMessages host casefold limits messages) ↔
      (count item.kind (newerThan item.index
          (items host casefold (requestMessages host casefold limits messages))) : ℤ) <
        limits.window item.kind ∧
      (used (newerThan item.index
          (items host casefold (requestMessages host casefold limits messages))) : ℤ) +
        item.payload ≤ available limits (items host casefold messages) := by
  have sorted : (items host casefold messages).Pairwise (·.index < ·.index) :=
    itemsFrom_sorted 0 messages
  have once : (items host casefold messages).Nodup :=
    (itemsFrom_keys_nodup 0 messages).of_map
  rcases append_of_mem present with ⟨before, after, parts⟩
  rw [items_requestMessages]
  generalize available limits (items host casefold messages) = left
  rw [parts] at sorted once ⊢
  rw [newerThan_keep sorted, Greedy.mem_keep_iff once, fits, decide_eq_true_iff, or_iff_right tool]

theorem count_newerThan_le {older newer : ℕ} (before : older < newer) (kind : ImageClass)
    (items : List Item) : count kind (newerThan newer items) ≤ count kind (newerThan older items) := by
  refine (List.Sublist.filter _ ?_).length_le
  exact monotone_filter_right items fun item above =>
    decide_eq_true (before.trans (of_decide_eq_true above))

/-! ### The payload that is kept -/

def imagePayload (host : Host) (messages : List Message) : ℕ :=
  (messages.map (payload host)).sum

/-- The images of the user alone. -/
def userPayload (host : Host) (messages : List Message) : ℕ :=
  imagePayload host (messages.filter fun message => message.role = .human)

theorem payload_of_imageBlocks_eq_nil (none : imageBlocks host message = []) :
    payload host message = 0 := by
  rw [payload, none]
  rfl

theorem imageClass_eq_user :
    imageClass casefold names message = .user ↔ message.role = .human := by
  unfold imageClass
  cases message.role with
  | human => exact iff_of_true rfl rfl
  | ai toolCalls =>
    dsimp only
    split <;> exact iff_of_false (by simp) (by simp)
  | tool toolCallId =>
    dsimp only
    split <;> exact iff_of_false (by simp) (by simp)
  | other =>
    dsimp only
    split <;> exact iff_of_false (by simp) (by simp)

theorem imagePayload_eq (names : List (Text × Text)) (start : ℕ) (messages : List Message) :
    imagePayload host messages =
      ((itemsFrom host casefold names start messages).map (·.payload)).sum := by
  induction messages generalizing start with
  | nil => rfl
  | cons message rest ih =>
    rw [itemsFrom_cons, map_append, sum_append, ← ih (start + 1)]
    unfold imagePayload item?
    split
    · rename_i none
      rw [map_cons, sum_cons, payload_of_imageBlocks_eq_nil none]
      rfl
    · rfl

theorem userPayload_eq (names : List (Text × Text)) (start : ℕ) (messages : List Message) :
    userPayload host messages = reserved (itemsFrom host casefold names start messages) := by
  induction messages generalizing start with
  | nil => rfl
  | cons message rest ih =>
    have rest_eq := ih (start + 1)
    rw [reserved] at rest_eq
    rw [reserved, itemsFrom_cons, filter_append, map_append, sum_append, ← rest_eq]
    unfold userPayload imagePayload item?
    by_cases human : message.role = .human
    · rw [filter_cons, if_pos (decide_eq_true human), map_cons, sum_cons]
      split
      · rename_i none
        rw [payload_of_imageBlocks_eq_nil none]
        rfl
      · simp [imageClass_eq_user.2 human]
    · rw [filter_cons, if_neg (by simpa using human)]
      split
      · simp
      · have tool : imageClass casefold names message ≠ .user := mt imageClass_eq_user.1 human
        simp [tool]

theorem sum_payload (items : List Item) :
    (items.map (·.payload)).sum = reserved items + used items := by
  induction items with
  | nil => rfl
  | cons item rest ih =>
    rw [map_cons, sum_cons, ih, used_cons, reserved, reserved]
    by_cases user : item.kind = .user
    · simp only [user, if_true, decide_true, filter_cons_of_pos, map_cons, sum_cons]
      omega
    · simp only [user, if_false, decide_false, filter_cons, Bool.false_eq_true]
      omega

theorem used_keep_le (room : 0 ≤ left) (limits : Limits) (items : List Item) :
    (used (Greedy.keep (fits limits left) items) : ℤ) ≤ left := by
  refine Greedy.keep_induction (motive := fun kept => (used kept : ℤ) ≤ left) room ?_ items
  intro kept item fit within
  rw [used_cons]
  split
  · simpa using within
  · rename_i tool
    have room := ((of_decide_eq_true fit).resolve_left tool).2
    push_cast
    omega

theorem imagePayload_requestMessages_le
    (within : (userPayload host messages : ℤ) ≤ limits.payloadBudget) :
    (imagePayload host (requestMessages host casefold limits messages) : ℤ) ≤
      limits.payloadBudget := by
  have users : reserved (items host casefold messages) = userPayload host messages :=
    (userPayload_eq _ 0 messages).symm
  have room : 0 ≤ available limits (items host casefold messages) := le_max_left 0 _
  have total : imagePayload host (requestMessages host casefold limits messages) =
      ((items host casefold (requestMessages host casefold limits messages)).map (·.payload)).sum :=
    imagePayload_eq _ 0 _
  rw [total, sum_payload, items_requestMessages, reserved, filter_user_keep, ← reserved]
  have tools := used_keep_le room limits (items host casefold messages)
  rw [available, max_eq_right (by omega)] at tools
  rw [available, max_eq_right (by omega)]
  push_cast
  omega

/-! ### The messages that are kept -/

theorem lookup_placeholder {placeholder : Text}
    (found : (select limits (items host casefold messages)).replacements.lookup index =
      some placeholder) :
    ∃ item ∈ items host casefold messages, item.index = index ∧ item.kind ≠ .user ∧
      item.kind.placeholder = placeholder := by
  rcases lookup_eq_some_iff.1 found with ⟨before, after, parts, -⟩
  have inside : (index, placeholder) ∈ (select limits (items host casefold messages)).replacements :=
    parts ▸ mem_append_right _ mem_cons_self
  rw [(select_of limits _).replacements, mem_reverse] at inside
  rcases mem_map.1 inside with ⟨item, refused, made⟩
  cases made
  have present := (Greedy.refuse_sublist _ _).subset refused
  rcases Greedy.not_fits_of_mem_refuse refused with ⟨kept, unfit⟩
  exact ⟨item, present, rfl, fun user => unfit (decide_eq_true (Or.inl user)), rfl⟩

theorem ImageClass.placeholder_mem (kind : ImageClass) :
    kind.placeholder ∈ [screenshotPlaceholder, imagePlaceholder] := by
  cases kind with
  | user => exact mem_cons_of_mem _ mem_cons_self
  | screenshot => exact mem_cons_self
  | tool => exact mem_cons_of_mem _ mem_cons_self

theorem sameMessage_replaced (listed : (message, index) ∈ messages.zipIdx) :
    SameMessage host message
      (replaced host (select limits (items host casefold messages)).replacements message index) := by
  unfold replaced
  cases found : (select limits (items host casefold messages)).replacements.lookup index with
  | none => exact SameMessage.refl host message
  | some placeholder =>
    rcases lookup_placeholder found with ⟨item, present, rfl, tool, rfl⟩
    dsimp only
    cases made : pruneMessage host message item.kind.placeholder with
    | none => exact SameMessage.refl host message
    | some pruned =>
      rw [Option.getD_some]
      unfold pruneMessage at made
      split at made
      · cases made
      · rename_i blocks content
        rcases Option.ite_none_left_eq_some.mp made with ⟨_, ⟨⟩⟩
        refine ⟨rfl, rfl, rfl, Or.inr ⟨_, item.kind.placeholder_mem, ?_⟩, fun human => ?_⟩
        · rw [content]
          rfl
        · rcases mem_itemsFrom.1 present with ⟨other, index, otherListed, otherFound⟩
          rcases item?_eq_some otherFound with ⟨-, rfl, kind, -⟩
          have same : messages[item.index]? = some message :=
            mem_zipIdx_iff_getElem?.1 listed
          rw [mem_zipIdx_iff_getElem?.1 otherListed] at same
          cases same
          exact absurd (kind.trans (imageClass_eq_user.2 human)) tool

theorem forall₂_map_zipIdx {related : Message → Message → Prop} {change : Message × ℕ → Message}
    (each : ∀ message index, (message, index) ∈ messages.zipIdx start →
      related message (change (message, index))) :
    List.Forall₂ related messages ((messages.zipIdx start).map change) := by
  induction messages generalizing start with
  | nil => exact List.Forall₂.nil
  | cons message rest ih =>
    rw [zipIdx_cons, map_cons]
    refine List.Forall₂.cons (each message start ?_) (ih fun other index listed => ?_)
    · rw [zipIdx_cons]
      exact mem_cons_self
    · refine each other index ?_
      rw [zipIdx_cons]
      exact mem_cons_of_mem _ listed

theorem sameMessages :
    List.Forall₂ (SameMessage host) messages
      (requestMessages host casefold limits messages) := by
  rw [requestMessages_eq]
  exact forall₂_map_zipIdx fun message index listed => sameMessage_replaced listed

/-- Only images go, the tool images that stay are the newest that fit, the budget holds if the images
of the user leave room, and a second selection changes nothing. An image of a class may stay while a
newer one of the class goes, but then the newer one did not fit into the budget. -/
theorem prune_keeps_newest_that_fit (host : Host) (casefold : Text → Text) (limits : Limits)
    (messages : List Message) :
    List.Forall₂ (SameMessage host) messages (requestMessages host casefold limits messages) ∧
    (∀ item ∈ items host casefold messages, item.kind ≠ .user →
      (item ∈ items host casefold (requestMessages host casefold limits messages) ↔
        (count item.kind (newerThan item.index
            (items host casefold (requestMessages host casefold limits messages))) : ℤ) <
          limits.window item.kind ∧
        (used (newerThan item.index
            (items host casefold (requestMessages host casefold limits messages))) : ℤ) +
          item.payload ≤ available limits (items host casefold messages))) ∧
    (∀ older ∈ items host casefold (requestMessages host casefold limits messages),
      ∀ newer ∈ items host casefold messages, newer.kind = older.kind → newer.kind ≠ .user →
        older.index < newer.index →
        newer ∉ items host casefold (requestMessages host casefold limits messages) →
        available limits (items host casefold messages) <
          used (newerThan newer.index
            (items host casefold (requestMessages host casefold limits messages))) +
            newer.payload) ∧
    ((userPayload host messages : ℤ) ≤ limits.payloadBudget →
      (imagePayload host (requestMessages host casefold limits messages) : ℤ) ≤
        limits.payloadBudget) ∧
    pruneRequestImages host casefold limits (requestMessages host casefold limits messages) =
      none := by
  refine ⟨sameMessages, fun item present tool => mem_items_requestMessages_iff present tool,
    fun older kept newer present same tool before gone => ?_, imagePayload_requestMessages_le,
    pruneRequestImages_requestMessages⟩
  have olderPresent : older ∈ items host casefold messages := by
    rw [items_requestMessages] at kept
    exact (Greedy.keep_sublist _ _).subset kept
  have olderRoom := (mem_items_requestMessages_iff olderPresent (same ▸ tool)).1 kept
  have fewer := count_newerThan_le before older.kind
    (items host casefold (requestMessages host casefold limits messages))
  rw [mem_items_requestMessages_iff present tool, not_and_or, not_lt, not_le, same] at gone
  rcases gone with full | large
  · omega
  · exact large

/-- `{"type": "image", "base64": data}` -/
def imageBlock (data : Text) : Value :=
  .mapping true (.ofList
    [(.str (Text.ofString "type"), .str true (Text.ofString "image")),
      (.str (Text.ofString "base64"), .str true data)])

def imageMessage (role : Role) (data : Text) : Message where
  id := none
  role := role
  name := some (Text.ofString "read_file")
  content := .blocks [imageBlock data]

/-- An upload between a small image and a large one: the budget leaves room for the small one. -/
def uploadBetween : List Message :=
  [imageMessage (.tool (Text.ofString "c2")) (Text.ofString "A"),
    imageMessage .human (Text.ofString "AAA"),
    imageMessage (.tool (Text.ofString "c1")) (Text.ofString "AAAA")]

/-- The older of two tool images stays and the newer one goes. -/
theorem older_image_kept : ¬ ∀ (host : Host) (casefold : Text → Text) (limits : Limits)
    (messages : List Message),
    ∀ older ∈ items host casefold (requestMessages host casefold limits messages),
      ∀ newer ∈ items host casefold messages, newer.kind = older.kind → newer.kind ≠ .user →
        older.index < newer.index →
        newer ∈ items host casefold (requestMessages host casefold limits messages) := by
  intro newest
  have kept := newest { render := fun _ => [], reference := fun _ => [] } id
    { screenshotWindow := 1, toolCeiling := 50, payloadBudget := 5 } uploadBetween
    { index := 0, kind := .tool, payload := 1 } (by decide)
    { index := 2, kind := .tool, payload := 4 } (by decide) rfl (by decide) (by decide)
  exact absurd kept (by decide)

end Synapse.Requests.ImageWindow
