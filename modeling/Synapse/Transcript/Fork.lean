import Synapse.Foundation.Cut
import Synapse.Python.Lines
import Synapse.Transcript.Message

/-!
# Forks of a thread

A fork copies the text of the first turns of a thread. `split_at_turn` cuts the messages before a
human message, and counts all of them; `project_messages` drops those without text.
-/

namespace Synapse.Transcript

structure ForkMessage where
  role : Role
  content : Text
  id : Text
  deriving DecidableEq

/-- The text that a fork copies of a message. -/
def copied? (host : Host) (message : Message) : Option (Role × Text) :=
  let text := (messageContent host message).strip
  if (message.role = .human ∨ message.role = .ai) ∧ text ≠ [] then some (message.role, text) else none

def ForkMessage.of (entry : (Role × Text) × ℕ) : ForkMessage where
  role := entry.1.1
  content := entry.1.2
  id := indexedId "fork" entry.2

/-- The copied texts get unique ids. -/
def numbered (copies : List (Role × Text)) : List ForkMessage :=
  copies.zipIdx.map ForkMessage.of

/-- `project_messages` -/
def projectMessages (host : Host) (messages : List Message) : List ForkMessage :=
  numbered (messages.filterMap (copied? host))

def isHuman (message : Message) : Bool :=
  message.role = .human

/-- `split_at_turn` -/
def splitAtTurn (messages : List Message) (turnId : Option Text) : List Message :=
  match turnId.bind Text.toInt? with
  | none => messages
  | some target => if target ≤ 0 then [] else cutBefore isHuman target.toNat messages

/-- The first turns of projected messages: what is before the human message after them. -/
def firstTurns (count : ℕ) (projected : List ForkMessage) : List ForkMessage :=
  beforeNth (fun copy => copy.role = .human) count projected

/-- A human message with text to copy. -/
def startsCopiedTurn (host : Host) (message : Message) : Bool :=
  (copied? host message).any fun copy => copy.1 = .human

/-- The messages from the human message at which the split cuts up to the one at which the projected
turns end. -/
def betweenCuts (host : Host) (count : ℕ) (messages : List Message) : List Message :=
  (cutBefore (startsCopiedTurn host) count messages).drop (cutBefore isHuman count messages).length

variable {host : Host} {message : Message} {count : ℕ}

theorem isHuman_of_startsCopiedTurn (starts : startsCopiedTurn host message = true) :
    isHuman message = true := by
  unfold startsCopiedTurn copied? at starts
  dsimp only at starts
  split at starts
  · exact starts
  · cases starts

theorem numbered_injective : Function.Injective numbered := by
  have read : ∀ copies, (numbered copies).map (fun copy => (copy.role, copy.content)) = copies := by
    intro copies
    rw [numbered, List.map_map]
    exact List.zipIdx_map_fst 0 copies
  intro first second same
  rw [← read first, same, read second]

theorem firstTurns_numbered (count : ℕ) (copies : List (Role × Text)) :
    firstTurns count (numbered copies) =
      numbered (beforeNth (fun copy => copy.1 = .human) count copies) := by
  have cut : ∀ (start : ℕ) (copies : List (Role × Text)),
      beforeNth (fun entry : (Role × Text) × ℕ => entry.1.1 = .human) count (copies.zipIdx start) =
        (beforeNth (fun copy => copy.1 = .human) count copies).zipIdx start := by
    intro start copies
    induction copies generalizing start count with
    | nil => cases count <;> rfl
    | cons copy rest ih =>
      rw [List.zipIdx_cons]
      cases count with
      | zero =>
        rw [beforeNth, beforeNth]
        split
        · rfl
        · rw [ih, List.zipIdx_cons]
      | succ count => rw [beforeNth, beforeNth, ih, List.zipIdx_cons]
  calc
    firstTurns count (numbered copies) =
        (beforeNth (fun entry : (Role × Text) × ℕ => entry.1.1 = .human) count copies.zipIdx).map
          ForkMessage.of := beforeNth_map (fun _ => rfl) count copies.zipIdx
    _ = numbered (beforeNth (fun copy => copy.1 = .human) count copies) := by rw [cut, numbered]

theorem splitAtTurn_eq {turnId : Text} (read : Text.toInt? turnId = some (count : ℤ))
    (positive : 1 ≤ count) (messages : List Message) :
    splitAtTurn messages (some turnId) = beforeNth isHuman count messages := by
  have some : (some turnId).bind Text.toInt? = some (count : ℤ) := read
  rw [splitAtTurn, some]
  dsimp only
  rw [if_neg (by omega), Int.toNat_natCast, cutBefore_eq]

/-- The split copies the first turns of the projection if and only if nothing is copied of the
messages between the two cuts. -/
theorem split_project_iff (host : Host) (messages : List Message) {turnId : Text}
    (read : Text.toInt? turnId = some (count : ℤ)) (positive : 1 ≤ count) :
    projectMessages host (splitAtTurn messages (some turnId)) =
        firstTurns count (projectMessages host messages) ↔
      ∀ message ∈ betweenCuts host count messages, copied? host message = none := by
  have turns : firstTurns count (projectMessages host messages) =
      numbered ((beforeNth (startsCopiedTurn host) count messages).filterMap (copied? host)) := by
    rw [projectMessages, firstTurns_numbered]
    exact congrArg numbered (beforeNth_filterMap (fun _ => rfl) count messages)
  rcases beforeNth_prefix (fun message => isHuman_of_startsCopiedTurn) (le_refl count) messages with
    ⟨between, parts⟩
  have gap : betweenCuts host count messages = between := by
    rw [betweenCuts, cutBefore_eq, cutBefore_eq, ← parts, List.drop_left]
  rw [splitAtTurn_eq read positive, turns, projectMessages, numbered_injective.eq_iff, gap, ← parts,
    List.filterMap_append, List.self_eq_append_right, List.filterMap_eq_nil_iff]

def spoken (role : Role) (text : String) : Message where
  role := role
  content := .text (Text.ofString text)

/-- A thread that begins with a message without text, such as one of images alone. -/
def silentFirst : List Message :=
  [spoken .human "", spoken .ai "a", spoken .human "b", spoken .ai "c"]

theorem split_project_silentFirst :
    projectMessages plainHost (splitAtTurn (silentFirst.drop 2) (some (Text.ofString "1"))) =
        firstTurns 1 (projectMessages plainHost (silentFirst.drop 2)) ↔
      ∀ message ∈ betweenCuts plainHost 1 (silentFirst.drop 2), copied? plainHost message = none :=
  split_project_iff plainHost (silentFirst.drop 2) (by decide +kernel) (le_refl 1)

/-- The fork through the first turn leaves out the turn's own question and answer. -/
theorem split_loses_turn : ¬ ∀ (host : Host) (messages : List Message) (turnId : Text) (count : ℕ),
    Text.toInt? turnId = some (count : ℤ) → 1 ≤ count →
      projectMessages host (splitAtTurn messages (some turnId)) =
        firstTurns count (projectMessages host messages) := by
  intro same
  have equal := same plainHost silentFirst (Text.ofString "1") 1 (by decide +kernel) (le_refl 1)
  exact absurd equal (by decide +kernel)

end Synapse.Transcript
