import Synapse.Foundation.Paging
import Synapse.Transcript.Fold

/-!
# Windows of a thread

`turn_start_indexes` finds the messages at which a visible turn starts, and the windows of a thread
are cut there. It repeats the filter of the fold, but reads neither the attachments of a message nor
the text that a delivery between threads has for the reader.
-/

namespace Synapse.Transcript

open List

/-- Something is left to show, and it is not for the model only. -/
def shows (text : Text) (images : List Image) (attachments : List Value) : Bool :=
  isContextCompactText text = false ∧ isSteerText text = false ∧
    (text ≠ [] ∨ images ≠ [] ∨ attachments ≠ [])

def startsTurn (host : Host) (message : Message) : Bool :=
  let text := (messageContent host message).strip
  message.role = .human ∧ isLcSummarizationMessage message = false ∧
    isSteerMessage host message = false ∧ isContextCompactText text = false ∧
      isSteerText text = false ∧ (text ≠ [] ∨ messageImages host message ≠ [])

/-- `turn_start_indexes` -/
def turnStartIndexes (host : Host) (messages : List Message) : List ℕ :=
  (messages.zipIdx.filter fun entry => startsTurn host entry.1).map Prod.snd

/-- `starts[len(starts) - min(len(starts), max(1, int(tail_turns)))]` -/
def windowStart (starts : List ℕ) (tailTurns : ℤ) : ℕ :=
  starts.getD (starts.length - (min (starts.length : ℤ) (max 1 tailTurns)).toNat) 0

def emptyWindow : Page UiTranscriptEvent where
  items := []
  start := 0
  hasMore := false

def foldTailWindow (host : Host) (messages : List Message) (tailTurns : ℤ) :
    Page UiTranscriptEvent :=
  let starts := turnStartIndexes host messages
  if starts = [] then emptyWindow
  else
    let boundary := windowStart starts tailTurns
    { items := foldMessagesForUi host (messages.drop boundary)
      start := boundary
      hasMore := starts.any (· < boundary) }

def foldEarlierWindow (host : Host) (messages : List Message) (tailTurns : ℤ) (beforeIdx : ℕ) :
    Page UiTranscriptEvent :=
  let starts := (turnStartIndexes host messages).filter (· < beforeIdx)
  if starts = [] then emptyWindow
  else
    let boundary := windowStart starts tailTurns
    { items := foldMessagesForUi host ((messages.drop boundary).take (beforeIdx - boundary))
      start := boundary
      hasMore := starts.any (· < boundary) }

/-! ### Where the fold emits user events -/

/-- The events that the fold adds at a message. -/
def eventsAt (host : Host) (messages : List Message) (index : ℕ) : List UiTranscriptEvent :=
  (foldState host (messages.take (index + 1))).events.drop
    (foldState host (messages.take index)).events.length

def userEventIndexes (host : Host) (messages : List Message) : List ℕ :=
  (List.range messages.length).filter fun index =>
    (eventsAt host messages index).any fun event => event.kind = .user

variable {host : Host} {message : Message} {messages : List Message} {state : FoldState}

theorem userEvent?_isSome :
    (userEvent? host message).isSome = true ↔ isLcSummarizationMessage message = false ∧
      isSteerMessage host message = false ∧
      shows (userText host message) (messageImages host message)
        (messageAttachmentRefs host message) = true := by
  unfold userEvent? shows
  split
  · rename_i summary
    simp [summary]
  · split
    · rename_i steer
      simp [steer]
    · rename_i summary steer
      simp only [Bool.not_eq_true] at summary steer
      dsimp only
      split
      · rename_i compact
        simp [compact]
      · split
        · rename_i guidance
          simp [guidance]
        · rename_i compact guidance
          split
          · rename_i something
            simpa [summary, steer, compact, guidance] using something
          · rename_i nothing
            simpa [summary, steer, compact, guidance] using nothing

theorem userEvent?_kind {event : UiTranscriptEvent} (made : userEvent? host message = some event) :
    event.kind = .user := by
  unfold userEvent? at made
  grind

def emitsUser (host : Host) (message : Message) : Bool :=
  message.role = .human ∧ (userEvent? host message).isSome

/-- Events are added, and none of them is a user event. -/
def AddsNoUser (state next : FoldState) : Prop :=
  ∃ added, next.events = state.events ++ added ∧ ∀ event ∈ added, event.kind ≠ .user

theorem AddsNoUser.refl (state : FoldState) : AddsNoUser state state :=
  ⟨[], (append_nil _).symm, fun _ inside => absurd inside not_mem_nil⟩

theorem AddsNoUser.trans {first second third : FoldState} (one : AddsNoUser first second)
    (two : AddsNoUser second third) : AddsNoUser first third := by
  rcases one with ⟨early, early_eq, early_kind⟩
  rcases two with ⟨late, late_eq, late_kind⟩
  refine ⟨early ++ late, by rw [late_eq, early_eq, append_assoc], fun event inside => ?_⟩
  exact (mem_append.1 inside).elim (early_kind event) (late_kind event)

theorem AddsNoUser.flushTools (state : FoldState) : AddsNoUser state state.flushTools := by
  unfold FoldState.flushTools
  split
  · exact AddsNoUser.refl state
  · refine ⟨[toolsEvent state.pendingCalls state.pendingResults], rfl, fun event inside => ?_⟩
    rw [mem_singleton.1 inside]
    intro same
    cases same

theorem AddsNoUser.emit (state : FoldState) {events : List UiTranscriptEvent}
    (other : ∀ event ∈ events, event.kind ≠ .user) : AddsNoUser state (state.emit events) :=
  ⟨events, rfl, other⟩

theorem AddsNoUser.hold (state : FoldState) (calls : List ToolCall) :
    AddsNoUser state (state.hold calls) :=
  AddsNoUser.refl state

theorem AddsNoUser.foldMessage (host : Host) (state : FoldState) (other : message.role ≠ .human) :
    AddsNoUser state (foldMessage host state message) := by
  unfold Transcript.foldMessage
  cases role : message.role with
  | human => exact absurd role other
  | tool => exact AddsNoUser.refl state
  | ai =>
    dsimp only
    have closed : AddsNoUser state
        (if state.pendingCalls ≠ [] then state.flushTools else state) := by
      split
      · exact AddsNoUser.flushTools state
      · exact AddsNoUser.refl state
    have thought : ∀ event ∈ thoughtEvents host message, event.kind ≠ .user := by
      intro event inside
      rw [thoughtEvents_kind inside]
      intro same
      cases same
    have called := closed.trans ((AddsNoUser.emit _ thought).trans
      (AddsNoUser.hold _ (toolCalls host message)))
    cases answer? host message with
    | none => exact called
    | some text =>
      refine called.trans ((AddsNoUser.flushTools _).trans (AddsNoUser.emit _ ?_))
      intro event inside
      rw [mem_singleton.1 inside]
      intro same
      cases same
  | system => exact AddsNoUser.refl state
  | other => exact AddsNoUser.refl state

/-- A message adds a user event if it is a human one with something to show. -/
theorem foldMessage_events (host : Host) (state : FoldState) (message : Message) :
    ∃ added, (foldMessage host state message).events = state.events ++ added ∧
      (added.any fun event => event.kind = .user) = emitsUser host message := by
  by_cases human : message.role = .human
  · rcases AddsNoUser.flushTools state with ⟨flushed, flushed_eq, flushed_kind⟩
    refine ⟨flushed ++ (userEvent? host message).toList, ?_, ?_⟩
    · simp only [foldMessage, human, FoldState.emit, flushed_eq, append_assoc]
    · have none : (flushed.any fun event => event.kind = .user) = false :=
        any_eq_false.2 fun event inside same =>
          flushed_kind event inside (of_decide_eq_true same)
      rw [any_append, none, Bool.false_or, emitsUser]
      cases made : userEvent? host message with
      | none => simp
      | some event => simp [human, userEvent?_kind made]
  · rcases AddsNoUser.foldMessage host state human with ⟨added, added_eq, added_kind⟩
    refine ⟨added, added_eq, ?_⟩
    have none : (added.any fun event => event.kind = .user) = false :=
      any_eq_false.2 fun event inside same => added_kind event inside (of_decide_eq_true same)
    rw [none, emitsUser]
    simp [human]

variable {index : ℕ}

theorem eventsAt_any (found : messages[index]? = some message) :
    ((eventsAt host messages index).any fun event => event.kind = .user) =
      emitsUser host message := by
  have next : foldState host (messages.take (index + 1)) =
      foldMessage host (foldState host (messages.take index)) message := by
    rw [foldState, take_add_one, found, foldl_append]
    rfl
  rcases foldMessage_events host (foldState host (messages.take index)) message with
    ⟨added, added_eq, added_any⟩
  rw [eventsAt, next, added_eq, drop_left, added_any]

theorem turnStartIndexes_eq (host : Host) (messages : List Message) :
    turnStartIndexes host messages = (List.range messages.length).filter fun index =>
      messages[index]?.any (startsTurn host) := by
  have positions : List.range messages.length = messages.zipIdx.map Prod.snd := by
    rw [zipIdx_map_snd, range_eq_range']
  rw [turnStartIndexes, positions, filter_map]
  congr 1
  refine filter_congr fun entry inside => ?_
  rw [Function.comp_apply, mem_zipIdx_iff_getElem?.1 inside, Option.any_some]

theorem userEventIndexes_eq (host : Host) (messages : List Message) :
    userEventIndexes host messages = (List.range messages.length).filter fun index =>
      messages[index]?.any (emitsUser host) := by
  refine filter_congr fun index inside => ?_
  have found := getElem?_eq_getElem (mem_range.1 inside)
  rw [eventsAt_any found, found, Option.any_some]

/-- Turns start where the fold emits user events, if every message does both or neither. -/
theorem turnStartIndexes_eq_iff :
    turnStartIndexes host messages = userEventIndexes host messages ↔
      ∀ message ∈ messages, startsTurn host message = emitsUser host message := by
  rw [turnStartIndexes_eq, userEventIndexes_eq]
  constructor
  · intro same message inside
    rcases getElem?_of_mem inside with ⟨index, found⟩
    have bounded : index ∈ List.range messages.length :=
      mem_range.2 (List.getElem?_eq_some_iff.1 found).1
    have both := congrArg (index ∈ ·) same
    simp only [mem_filter, bounded, true_and, found, Option.any_some, eq_iff_iff] at both
    exact Bool.eq_iff_iff.2 both
  · intro same
    refine filter_congr fun index inside => ?_
    have found := getElem?_eq_getElem (mem_range.1 inside)
    rw [found, Option.any_some, Option.any_some]
    exact same _ (getElem_mem _)

/-! ### Messages that both filters treat alike -/

/-- A human message that has attachments alone is treated differently, and so may be one that has
another text for the reader. -/
def Aligned (host : Host) (message : Message) : Prop :=
  message.role = .human → isLcSummarizationMessage message = false →
    isSteerMessage host message = false →
      (collaboration? message = none → (messageContent host message).strip ≠ [] ∨
        messageImages host message ≠ [] ∨ messageAttachmentRefs host message = []) ∧
      ∀ entries text, collaboration? message = some (entries, text) →
        (shows (messageContent host message).strip (messageImages host message) [] = true ↔
          shows text (messageImages host message) (messageAttachmentRefs host message) = true)

theorem startsTurn_iff : startsTurn host message = true ↔ message.role = .human ∧
    isLcSummarizationMessage message = false ∧ isSteerMessage host message = false ∧
      shows (messageContent host message).strip (messageImages host message) [] = true := by
  simp [startsTurn, shows]

theorem emitsUser_iff : emitsUser host message = true ↔ message.role = .human ∧
    isLcSummarizationMessage message = false ∧ isSteerMessage host message = false ∧
      shows (userText host message) (messageImages host message)
        (messageAttachmentRefs host message) = true := by
  rw [emitsUser, decide_eq_true_iff, userEvent?_isSome]

theorem shows_nil_iff {text : Text} {images : List Image} {attachments : List Value} :
    (shows text images [] = true ↔ shows text images attachments = true) ↔
      text ≠ [] ∨ images ≠ [] ∨ attachments = [] := by
  have blank : isContextCompactText [] = false ∧ isSteerText [] = false := by decide +kernel
  unfold shows
  by_cases words : text = []
  · by_cases pictures : images = []
    · simp [words, pictures, blank]
    · simp [pictures]
  · simp [words]

theorem aligned_iff : Aligned host message ↔ startsTurn host message = emitsUser host message := by
  rw [Bool.eq_iff_iff, startsTurn_iff, emitsUser_iff]
  unfold Aligned userText
  by_cases human : message.role = .human
  · by_cases plain : isLcSummarizationMessage message = false
    · by_cases quiet : isSteerMessage host message = false
      · cases delivery : collaboration? message with
        | none => simpa [human, plain, quiet] using shows_nil_iff.symm
        | some given =>
          rcases given with ⟨entries, text⟩
          simp [human, plain, quiet]
      · simp [quiet]
    · simp [plain]
  · simp [human]

/-! ### Pages -/

variable {starts : List ℕ} {first : ℕ}

theorem turnStartIndexes_sorted (host : Host) (messages : List Message) :
    (turnStartIndexes host messages).Pairwise (· < ·) := by
  rw [turnStartIndexes_eq]
  exact List.pairwise_lt_range.filter _

theorem mem_turnStartIndexes (inside : index ∈ turnStartIndexes host messages) :
    ∃ message, messages[index]? = some message ∧ message.role = .human := by
  rw [turnStartIndexes_eq, mem_filter, Option.any_eq_true] at inside
  rcases inside with ⟨-, message, found, counted⟩
  exact ⟨message, found, (startsTurn_iff.1 counted).1⟩

theorem windowStart_mem (nonempty : starts ≠ []) (tailTurns : ℤ) :
    windowStart starts tailTurns ∈ starts := by
  have some := length_pos_of_ne_nil nonempty
  have bounded : starts.length - (min (starts.length : ℤ) (max 1 tailTurns)).toNat <
      starts.length := by
    omega
  rw [windowStart, getD_eq_getElem _ _ bounded]
  exact getElem_mem bounded

theorem head_le (sorted : starts.Pairwise (· < ·)) (head : starts.head? = some first)
    (inside : index ∈ starts) : first ≤ index := by
  cases starts with
  | nil => cases head
  | cons start rest =>
    cases head
    rcases mem_cons.1 inside with rfl | later
    · exact le_refl _
    · exact ((pairwise_cons.1 sorted).1 index later).le

theorem any_lt_iff (sorted : starts.Pairwise (· < ·)) (head : starts.head? = some first)
    (boundary : ℕ) : (starts.any fun start => start < boundary) = true ↔ first < boundary := by
  rw [any_eq_true]
  constructor
  · rintro ⟨start, inside, before⟩
    exact (head_le sorted head inside).trans_lt (of_decide_eq_true before)
  · intro before
    exact ⟨first, mem_of_head? head, decide_eq_true before⟩

theorem head?_filter_lt {stop : ℕ} (head : starts.head? = some first) (before : first < stop) :
    (starts.filter fun start => start < stop).head? = some first := by
  cases starts with
  | nil => cases head
  | cons start rest =>
    cases head
    rw [filter_cons, if_pos (decide_eq_true before)]
    rfl

/-- The fold of the messages between two positions. -/
def foldBetween (host : Host) (messages : List Message) (start stop : ℕ) :
    List UiTranscriptEvent :=
  foldMessagesForUi host ((messages.drop start).take (stop - start))

theorem foldBetween_append {start middle stop : ℕ}
    (inside : middle ∈ turnStartIndexes host messages) (after : start ≤ middle)
    (before : middle < stop) :
    foldBetween host messages start middle ++ foldBetween host messages middle stop =
      foldBetween host messages start stop := by
  rcases mem_turnStartIndexes inside with ⟨message, found, human⟩
  have bounded := (List.getElem?_eq_some_iff.1 found).1
  have cut : (messages.drop start).take (stop - start) =
      (messages.drop start).take (middle - start) ++ (messages.drop middle).take (stop - middle) := by
    have length : stop - start = (middle - start) + (stop - middle) := by omega
    have rest : messages.drop middle = (messages.drop start).drop (middle - start) := by
      rw [drop_drop]
      congr 1
      omega
    rw [length, take_add, rest]
  have head : (messages.drop middle).take (stop - middle) =
      message :: (messages.drop (middle + 1)).take (stop - middle - 1) := by
    have own : messages[middle] = message := by
      rw [getElem?_eq_getElem bounded] at found
      exact Option.some.inj found
    rw [drop_eq_getElem_cons bounded, own]
    have positive : stop - middle = (stop - middle - 1) + 1 := by omega
    rw [positive, take_succ_cons]
    rfl
  rw [foldBetween, foldBetween, foldBetween, cut, head]
  exact (foldMessagesForUi_append human).symm

theorem foldEarlierWindow_fills (tailTurns : ℤ)
    (head : (turnStartIndexes host messages).head? = some first) {stop : ℕ} (before : first < stop) :
    (foldEarlierWindow host messages tailTurns stop).Fills (foldBetween host messages)
      (· ∈ turnStartIndexes host messages) first stop := by
  have sorted := turnStartIndexes_sorted host messages
  have headBefore := head?_filter_lt head before
  have nonempty : (turnStartIndexes host messages).filter (· < stop) ≠ [] := by
    intro none
    rw [none] at headBefore
    cases headBefore
  have inside := windowStart_mem nonempty tailTurns
  rcases mem_filter.1 inside with ⟨start, earlier⟩
  rw [foldEarlierWindow, if_neg nonempty]
  exact
    { valid := start
      least := head_le sorted head start
      before := of_decide_eq_true earlier
      items := rfl
      hasMore := any_lt_iff (sorted.filter _) headBefore _ }

theorem foldTailWindow_fills (tailTurns : ℤ)
    (head : (turnStartIndexes host messages).head? = some first) :
    (foldTailWindow host messages tailTurns).Fills (foldBetween host messages)
      (· ∈ turnStartIndexes host messages) first messages.length := by
  have sorted := turnStartIndexes_sorted host messages
  have nonempty : turnStartIndexes host messages ≠ [] := by
    intro none
    rw [none] at head
    cases head
  have inside := windowStart_mem nonempty tailTurns
  rcases mem_turnStartIndexes inside with ⟨message, found, -⟩
  rw [foldTailWindow, if_neg nonempty]
  exact
    { valid := inside
      least := head_le sorted head inside
      before := (List.getElem?_eq_some_iff.1 found).1
      items := by rw [foldBetween, ← length_drop, take_length]
      hasMore := any_lt_iff sorted head _ }

/-- The windows, oldest first, are the fold of the thread from its first turn on. -/
theorem windows_fold (tailTurns : ℤ) (head : (turnStartIndexes host messages).head? = some first) :
    (∃ pages, Paged (foldEarlierWindow host messages tailTurns)
        (foldTailWindow host messages tailTurns) pages) ∧
      ∀ pages, Paged (foldEarlierWindow host messages tailTurns)
          (foldTailWindow host messages tailTurns) pages →
        pages.reverse.flatMap Page.items = foldMessagesForUi host (messages.drop first) := by
  have fills := fun stop (_ : stop ∈ turnStartIndexes host messages) (before : first < stop) =>
    foldEarlierWindow_fills tailTurns head before
  have newest := foldTailWindow_fills tailTurns head
  refine ⟨exists_paged fills newest, fun pages paged => ?_⟩
  rw [paged.flatMap_items (fun middle stop inside after before => foldBetween_append inside after before)
    fills newest, foldBetween, ← length_drop, take_length]

/-- A message with one attachment and no words. -/
def attachmentOnly : Message where
  role := .human
  content := .text []
  additionalKwargs := .cons (.str (Text.ofString "synapse_attachment_refs"))
    (.sequence (.cons (.mapping true (.cons (.str (Text.ofString "attachment_id"))
      (.str true (Text.ofString "a1")) .nil)) .nil)) .nil

end Synapse.Transcript
