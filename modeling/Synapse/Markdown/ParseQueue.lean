import Synapse.Console.JavaScript
import Synapse.Foundation.Machine

/-!
# The parse queue

The documents of a transcript share one worker, which has one request at a time. Texts that come while it
parses wait, at most one for each document. A worker that fails leaves every document with its text.
-/

namespace Synapse.Markdown

open Console (JsText)

universe u v

/-- `PARSE_MAX_CHARS` -/
def parseMaxChars : ℕ := 200000

structure ParsedBlock (Key : Type u) (Block : Type v) where
  key : Key
  block : Block

structure MarkdownSnapshot (Block : Type v) where
  source : JsText
  blocks : Option (List Block)

/-- `DocumentState`, with what its `receive` was called with -/
structure DocumentState (Key : Type u) (Block : Type v) where
  text : JsText
  blocks : List (ParsedBlock Key Block)
  /-- Each snapshot with the text that the document had then -/
  received : List (MarkdownSnapshot Block × JsText)
  /-- Whether `update` was called. No method reads it. -/
  updated : Bool

namespace DocumentState

variable {Key : Type u} {Block : Type v}

def receive (blocks : Option (List Block)) (source : JsText) (document : DocumentState Key Block) :
    DocumentState Key Block :=
  { document with received := document.received ++ [(⟨source, blocks⟩, document.text)] }

end DocumentState

structure Job where
  id : ℕ
  document : ℕ
  text : JsText
  deriving DecidableEq

structure ParseRequest where
  id : ℕ
  text : JsText
  deriving DecidableEq

structure ParseResponse (Key : Type u) (Block : Type v) where
  id : ℕ
  blocks : Option (List (ParsedBlock Key Block))

/-- `MarkdownParseQueue`, its documents and its workers. -/
structure MarkdownParseQueue (Key : Type u) (Block : Type v) where
  worker : Option ℕ
  failed : Bool
  nextId : ℕ
  active : Option Job
  /-- The open documents in the order in which they were opened -/
  documents : List ℕ
  pending : List (ℕ × JsText)
  states : ℕ → DocumentState Key Block
  /-- How many documents have been opened -/
  opened : ℕ
  /-- The requests that each worker has not answered -/
  unanswered : ℕ → List ParseRequest
  /-- How many workers have been created -/
  created : ℕ

/-- What happens when a request is sent: whether a worker can be created, and whether it takes messages. -/
structure Sending where
  creates : Bool
  posts : Bool
  deriving DecidableEq

inductive Event where
  | openDocument
  | update (document : ℕ) (text : JsText) (sending : Sending)
  | dispose (document : ℕ)
  /-- A worker answers its first request, by its blocks or by null. -/
  | respond (worker : ℕ) (parses : Bool) (sending : Sending)
  /-- `onerror` or `onmessageerror` of a worker -/
  | error (worker : ℕ)

namespace MarkdownParseQueue

variable {Key : Type u} {Block : Type v}

def new : MarkdownParseQueue Key Block where
  worker := none
  failed := false
  nextId := 0
  active := none
  documents := []
  pending := []
  states _ := ⟨[], [], [], false⟩
  opened := 0
  unanswered _ := []
  created := 0

variable (queue : MarkdownParseQueue Key Block)

def openDocument : MarkdownParseQueue Key Block :=
  { queue with
    documents := queue.documents ++ [queue.opened]
    states := Function.update queue.states queue.opened ⟨[], [], [], false⟩
    opened := queue.opened + 1 }

/-- `Map.set`, which keeps the place of a key. -/
def setPending (document : ℕ) (text : JsText) (pending : List (ℕ × JsText)) : List (ℕ × JsText) :=
  if document ∈ pending.map Prod.fst then
    pending.map fun entry => if entry.1 = document then (document, text) else entry
  else pending ++ [(document, text)]

def deletePending (document : ℕ) (pending : List (ℕ × JsText)) : List (ℕ × JsText) :=
  pending.filter fun entry => entry.1 ≠ document

def fail : MarkdownParseQueue Key Block :=
  { queue with
    failed := true
    worker := none
    active := none
    pending := []
    states := fun document =>
      if document ∈ queue.documents then
        { queue.states document with blocks := [] }.receive none (queue.states document).text
      else queue.states document }

/-- `worker.postMessage` -/
def post (worker : ℕ) (job : Job) : MarkdownParseQueue Key Block :=
  { queue with unanswered := Function.update queue.unanswered worker <|
      queue.unanswered worker ++ [⟨job.id, job.text⟩] }

/-- The sending of the active job -/
def send (sending : Sending) (job : Job) : MarkdownParseQueue Key Block :=
  match queue.worker with
  | some worker => if sending.posts then queue.post worker job else queue.fail
  | none =>
    if sending.creates then
      let started := { queue with worker := some queue.created, created := queue.created + 1 }
      if sending.posts then started.post queue.created job else started.fail
    else queue.fail

def pump (sending : Sending) : MarkdownParseQueue Key Block :=
  if queue.failed = true ∨ queue.active ≠ none then queue
  else
    match queue.pending with
    | [] => queue
    | (document, text) :: pending =>
      let job : Job := ⟨queue.nextId + 1, document, text⟩
      send { queue with pending := pending, nextId := queue.nextId + 1, active := some job } sending job

def update (document : ℕ) (text : JsText) (sending : Sending) : MarkdownParseQueue Key Block :=
  if document ∈ queue.documents then
    let written := { queue.states document with text := text, updated := true }
    if queue.failed = true ∨ parseMaxChars < text.length ∨ text = [] then
      { queue with
        pending := deletePending document queue.pending
        states := Function.update queue.states document <|
          { written with blocks := [] }.receive (if text = [] then some [] else none) text }
    else
      pump { queue with
        pending := setPending document text queue.pending
        states := Function.update queue.states document written } sending
  else queue

def dispose (document : ℕ) : MarkdownParseQueue Key Block :=
  let disposed := { queue with
    documents := queue.documents.filter fun other => other ≠ document
    pending := deletePending document queue.pending
    states := Function.update queue.states document { queue.states document with blocks := [] } }
  if disposed.documents = [] then { disposed with worker := none, active := none } else disposed

variable [DecidableEq Key]

/-- The blocks of a response, each as the object that was there before if its key is the same. -/
def reuse (previous entries : List (ParsedBlock Key Block)) : List (ParsedBlock Key Block) :=
  entries.mapIdx fun index entry =>
    match previous[index]? with
    | some old => if old.key = entry.key then old else entry
    | none => entry

/-- The part of `complete` that calls `receive` -/
def shown (job : Job) (response : ParseResponse Key Block) : MarkdownParseQueue Key Block :=
  let document := queue.states job.document
  if job.document ∈ queue.documents ∧ document.text.length ≤ parseMaxChars ∧
      job.text.isPrefixOf document.text = true then
    let blocks := response.blocks.map (reuse document.blocks)
    { queue with states := Function.update queue.states job.document <|
        { document with blocks := blocks.getD [] }.receive (blocks.map (List.map ParsedBlock.block)) job.text }
  else queue

def complete (response : ParseResponse Key Block) (sending : Sending) : MarkdownParseQueue Key Block :=
  match queue.active with
  | none => queue
  | some job =>
    if job.id ≠ response.id then queue
    else ({ queue with active := none }.shown job response).pump sending

variable (parse : JsText → Option (List Block)) (key : Block → Key)

/-- The answer of a worker, in which `parse` may raise. -/
def answer (request : ParseRequest) (parses : Bool) : ParseResponse Key Block :=
  ⟨request.id, if parses then (parse request.text).map (List.map fun block => ⟨key block, block⟩) else none⟩

def step : Event → Option (MarkdownParseQueue Key Block)
  | .openDocument => some queue.openDocument
  | .update document text sending =>
    if document < queue.opened then some (queue.update document text sending) else none
  | .dispose document => if document < queue.opened then some (queue.dispose document) else none
  | .respond worker parses sending =>
    match queue.unanswered worker with
    | [] => none
    | request :: rest =>
      let answered := { queue with unanswered := Function.update queue.unanswered worker rest }
      -- a worker that was replaced is not listened to
      if queue.worker = some worker then some (answered.complete (answer parse key request parses) sending)
      else some answered
  | .error worker => if queue.worker = some worker then some queue.fail else some queue

def machine : Machine (MarkdownParseQueue Key Block) Event := ⟨fun queue event => queue.step parse key event⟩

end MarkdownParseQueue

end Synapse.Markdown
