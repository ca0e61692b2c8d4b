import Synapse.Foundation.Machine

/-!
# The writer of a connection

Messages wait in a queue for a task that sends them one after the other. A caller may wait for an
acknowledgement of its message; the sending, the end of the writer and the discarding of the queue answer it,
and the caller may be cancelled before.
-/

namespace Synapse.Transport

universe u

/-- An acknowledgement future -/
inductive Acknowledgement where
  | pending
  | result (value : Bool)
  /-- `_WriterFailure` -/
  | failure
  | cancelled
  deriving DecidableEq

/-- `_OutgoingItem`: a message and the number of its put, and the put that waits for it. Without a message it
ends the writer. -/
structure OutgoingItem (Message : Type u) where
  message : Option (ℕ × Message)
  acknowledgement : Option ℕ := none

/-- The writer task: before its first step, in `queue.get` or `connection.send`, or done. -/
inductive Writer (Message : Type u) where
  | starting
  | waiting (last : Option (OutgoingItem Message))
  | sending (item : OutgoingItem Message)
  | ended

inductive PutOutcome where
  | waiting
  | returned (value : Bool)
  | cancelled
  deriving DecidableEq

inductive ClosePhase where
  | idle
  /-- in `queue.put` of the item that ends the writer -/
  | putting
  /-- waiting for the task -/
  | joining
  | closed
  deriving DecidableEq

/-- `_Outgoing`, with the calls of `put` and `close` -/
structure Outgoing (Message : Type u) where
  queue : List (OutgoingItem Message)
  terminal : Bool
  failed : Bool
  writer : Writer Message
  /-- Whether the task was cancelled -/
  cancelled : Bool
  /-- How many puts there were -/
  puts : ℕ
  acknowledgements : ℕ → Option Acknowledgement
  outcomes : ℕ → PutOutcome
  closes : ℕ → ClosePhase
  /-- The messages that were put into the queue -/
  accepted : List (ℕ × Message)
  /-- The messages that `connection.send` has taken -/
  sent : List (ℕ × Message)
  /-- Whether `connection.send` has raised -/
  sendFailed : Bool
  /-- Whether the transport was closed, and whether not gracefully -/
  closing : Bool
  aborted : Bool

inductive OutgoingStep (Message : Type u) where
  | put (message : Message) (waitWritten : Bool)
  /-- A caller that waits is cancelled. -/
  | cancelPut (number : ℕ)
  /-- A caller goes on with the answer. -/
  | resume (number : ℕ)
  /-- The first step of the writer -/
  | start
  /-- The writer was waiting for an item. -/
  | wake
  /-- `connection.send` returns. -/
  | sent
  /-- `connection.send` raises. -/
  | sendFails
  /-- The cancellation of the writer arrives. -/
  | interrupt
  | close (number : ℕ) (graceful : Bool)
  /-- A `close` that waits for room goes on. -/
  | closePut (number : ℕ)
  | closeReturn (number : ℕ)

namespace Outgoing

variable {Message : Type u}

def new : Outgoing Message where
  queue := []
  terminal := false
  failed := false
  writer := .starting
  cancelled := false
  puts := 0
  acknowledgements _ := none
  outcomes _ := .waiting
  closes _ := .idle
  accepted := []
  sent := []
  sendFailed := false
  closing := false
  aborted := false

variable (outgoing : Outgoing Message)

/-- `if not acknowledgement.done()` before the answer -/
def answer (value : Acknowledgement) (acknowledgements : ℕ → Option Acknowledgement) (item : OutgoingItem Message) :
    ℕ → Option Acknowledgement :=
  match item.acknowledgement with
  | some number =>
    if acknowledgements number = some .pending then Function.update acknowledgements number (some value)
    else acknowledgements
  | none => acknowledgements

/-- The answers to all items of a list -/
def answerAll (value : Acknowledgement) (acknowledgements : ℕ → Option Acknowledgement)
    (items : List (OutgoingItem Message)) : ℕ → Option Acknowledgement :=
  items.foldl (answer value) acknowledgements

/-- `_discard_pending` -/
def discardPending : Outgoing Message :=
  { outgoing with
    queue := []
    acknowledgements := answerAll (.result false) outgoing.acknowledgements outgoing.queue }

/-- `_fail_pending` -/
def failPending (current : Option (OutgoingItem Message)) : Outgoing Message :=
  { outgoing with
    queue := []
    acknowledgements := answerAll .failure outgoing.acknowledgements (current.toList ++ outgoing.queue) }

/-- The handler of an exception, and the end of the task -/
def fail (current : Option (OutgoingItem Message)) : Outgoing Message :=
  { outgoing.failPending current with
    failed := true
    terminal := true
    writer := .ended }

/-- `set_result(True)`, which raises where the future is done. -/
def setResult (item : OutgoingItem Message) : Option (Outgoing Message) :=
  match item.acknowledgement with
  | none => some outgoing
  | some number =>
    if outgoing.acknowledgements number = some .pending then
      some { outgoing with
        acknowledgements := Function.update outgoing.acknowledgements number (some (.result true)) }
    else none

/-- The loop of `_run` up to its next suspension, where `last` is the item before -/
def loop (last : Option (OutgoingItem Message)) : Outgoing Message :=
  match outgoing.queue with
  | [] => { outgoing with writer := .waiting last }
  | item :: rest =>
    let taken := { outgoing with queue := rest }
    match item.message with
    | none =>
      match taken.setResult item with
      | some answered => { answered with terminal := true, writer := .ended }
      | none => taken.fail (some item)
    | some _ => { taken with writer := .sending item }

/-- After `connection.send` -/
def written (item : OutgoingItem Message) : Outgoing Message :=
  let logged := { outgoing with sent := outgoing.sent ++ item.message.toList }
  match logged.setResult item with
  | some answered => answered.loop (some item)
  | none => logged.fail (some item)

/-- The handler of `CancelledError` -/
def interrupted (current : Option (OutgoingItem Message)) : Outgoing Message :=
  { outgoing.failPending current with
    terminal := true
    writer := .ended }

def Done : Prop :=
  match outgoing.writer with
  | .ended => True
  | _ => False

instance : Decidable outgoing.Done :=
  match own : outgoing.writer with
  | .ended => isTrue (by rw [Done, own]; trivial)
  | .starting => isFalse (by rw [Done, own]; exact id)
  | .waiting _ => isFalse (by rw [Done, own]; exact id)
  | .sending _ => isFalse (by rw [Done, own]; exact id)

/-- `queue.full()`; a queue without a size is never full. -/
def Full (size : ℕ) : Prop := 0 < size ∧ size ≤ outgoing.queue.length

instance (size : ℕ) : Decidable (outgoing.Full size) := inferInstanceAs (Decidable (_ ∧ _))

def put (size : ℕ) (message : Message) (waitWritten : Bool) : Outgoing Message :=
  let counted := { outgoing with puts := outgoing.puts + 1 }
  let number := outgoing.puts
  if outgoing.terminal then
    { counted with outcomes := Function.update outgoing.outcomes number (.returned false) }
  else if outgoing.Full size then
    { counted with
      acknowledgements := if waitWritten
        then Function.update outgoing.acknowledgements number (some (.result false)) else outgoing.acknowledgements
      outcomes := Function.update outgoing.outcomes number (.returned false) }
  else if waitWritten then
    { counted with
      queue := outgoing.queue ++ [⟨some (number, message), some number⟩]
      acknowledgements := Function.update outgoing.acknowledgements number (some .pending)
      accepted := outgoing.accepted ++ [(number, message)] }
  else
    { counted with
      queue := outgoing.queue ++ [⟨some (number, message), none⟩]
      outcomes := Function.update outgoing.outcomes number (.returned true)
      accepted := outgoing.accepted ++ [(number, message)] }

def setClose (number : ℕ) (phase : ClosePhase) : Outgoing Message :=
  { outgoing with closes := Function.update outgoing.closes number phase }

/-- The part of `close` that waits for the task -/
def join (number : ℕ) : Outgoing Message :=
  outgoing.setClose number (if outgoing.Done then .closed else .joining)

/-- `queue.put(_OutgoingItem(None))`, and what follows it -/
def putEnd (number : ℕ) : Outgoing Message :=
  join { outgoing with queue := outgoing.queue ++ [{ message := none }] } number

def close (size : ℕ) (number : ℕ) (graceful : Bool) : Outgoing Message :=
  let closing := { outgoing with closing := true }
  if graceful then
    if outgoing.terminal then closing.join number
    else if outgoing.Full size then closing.setClose number .putting
    else closing.putEnd number
  else if outgoing.Done then closing.setClose number .closed
  else join { closing.discardPending with cancelled := true, aborted := true } number

/-- What a caller of `put` does with the answer -/
def resumed (number : ℕ) (value : Acknowledgement) : Option (Outgoing Message) :=
  match value with
  | .result value => some { outgoing with outcomes := Function.update outgoing.outcomes number (.returned value) }
  | .failure => some { outgoing with outcomes := Function.update outgoing.outcomes number (.returned false) }
  | _ => none

def step (size : ℕ) : OutgoingStep Message → Option (Outgoing Message)
  | .put message waitWritten => some (outgoing.put size message waitWritten)
  | .cancelPut number =>
    if outgoing.outcomes number = .waiting ∧ number < outgoing.puts then
      some { outgoing with
        acknowledgements := if outgoing.acknowledgements number = some .pending
          then Function.update outgoing.acknowledgements number (some .cancelled) else outgoing.acknowledgements
        outcomes := Function.update outgoing.outcomes number .cancelled }
    else none
  | .resume number =>
    if outgoing.outcomes number = .waiting then (outgoing.acknowledgements number).bind (outgoing.resumed number)
    else none
  | .start =>
    match outgoing.writer with
    | .starting =>
      -- a task that is cancelled before its first step runs none of its code
      if outgoing.cancelled then some { outgoing with writer := .ended } else some (outgoing.loop none)
    | _ => none
  | .wake =>
    match outgoing.writer with
    | .waiting last => if outgoing.cancelled ∨ outgoing.queue.isEmpty then none else some (outgoing.loop last)
    | _ => none
  | .sent =>
    match outgoing.writer with
    | .sending item => if outgoing.cancelled then none else some (outgoing.written item)
    | _ => none
  | .sendFails =>
    match outgoing.writer with
    | .sending item => some { outgoing.fail (some item) with sendFailed := true }
    | _ => none
  | .interrupt =>
    match outgoing.writer with
    | .waiting last => if outgoing.cancelled then some (outgoing.interrupted last) else none
    | .sending item => if outgoing.cancelled then some (outgoing.interrupted (some item)) else none
    | _ => none
  | .close number graceful =>
    if outgoing.closes number = .idle then some (outgoing.close size number graceful) else none
  | .closePut number =>
    if outgoing.closes number = .putting ∧ ¬ outgoing.Full size then some (outgoing.putEnd number) else none
  | .closeReturn number =>
    if outgoing.closes number = .joining ∧ outgoing.Done then some (outgoing.setClose number .closed) else none

def machine (size : ℕ) : Machine (Outgoing Message) (OutgoingStep Message) :=
  ⟨fun outgoing label => outgoing.step size label⟩

end Outgoing

end Synapse.Transport
