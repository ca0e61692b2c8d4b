import Synapse.Foundation.Like
import Synapse.Python.Text

/-!
# The search index

One row for each message with a text, and for each thread the checkpoint that its rows are from. A search
puts the query between two wildcards of a `LIKE`.
-/

namespace Synapse.Search

open List

/-! ### Messages -/

inductive Block where
  /-- Its `text`, where that is a `str`. -/
  | dict (content : Option Text)
  | text (content : Text)
  | other
  deriving DecidableEq

inductive Content where
  | missing
  | text (content : Text)
  | blocks (blocks : List Block)
  /-- Any other value, as `str` renders it. -/
  | other (rendered : Text)
  deriving DecidableEq

inductive Message where
  | dict (type role : Option Text) (content : Content)
  | object (type : Option Text) (content : Content)
  deriving DecidableEq

def Message.role : Message → Text
  | .dict type role _ => (Text.orElse (Text.orElse type role) (some (.ofString "unknown"))).getD []
  | .object type _ => type.getD (.ofString "unknown")

def Message.content : Message → Content
  | .dict _ _ content => content
  | .object _ content => content

/-- `text.strip()` of a block that has one. -/
def Block.part : Block → Option Text
  | .dict (some content) | .text content => if content.strip = [] then none else some content.strip
  | .dict none | .other => none

def newline : CodePoint := 10

/-- `_content_to_text` -/
def contentToText : Content → Text
  | .missing => []
  | .text content => content.strip
  | .blocks blocks => Text.strip ([newline].intercalate (blocks.filterMap Block.part))
  | .other rendered => rendered.strip

/-! ### Tables -/

/-- A row of `messages`. -/
structure Row where
  threadId : Text
  seq : ℕ
  role : Text
  content : Text
  deriving DecidableEq

/-- A row of `indexed`. -/
structure Entry where
  threadId : Text
  lastCheckpointId : Text
  updatedAt : Text
  deriving DecidableEq

def Row.key (row : Row) : Text × ℕ := (row.threadId, row.seq)

/-- Both tables, with their primary keys; the threads of the rows are indexed. -/
structure Index where
  messages : List Row
  indexed : List Entry
  keys : (messages.map Row.key).Nodup
  threads : (indexed.map Entry.threadId).Nodup
  paired : ∀ row ∈ messages, row.threadId ∈ indexed.map Entry.threadId
  deriving DecidableEq

def maxContentChars : ℕ := 2000

/-- Tool calls and system messages are not searched. -/
def skippedRoles : List Text := [.ofString "tool", .ofString "system"]

def rowOf (threadId : Text) (message : Message) (seq : ℕ) : Option Row :=
  if message.role ∈ skippedRoles then none
  else if contentToText message.content = [] then none
  else some ⟨threadId, seq, message.role, (contentToText message.content).take maxContentChars⟩

/-- The rows that `_replace_thread` writes. -/
def rowsOf (threadId : Text) (messages : List Message) : List Row :=
  messages.zipIdx.filterMap fun numbered => rowOf threadId numbered.1 numbered.2

variable {threadId checkpointId updatedAt : Text} {messages : List Message} {index : Index} {row : Row}

theorem threadId_of_rowOf {message : Message} {seq : ℕ} (found : rowOf threadId message seq = some row) :
    row.key = (threadId, seq) := by
  rcases Option.ite_none_left_eq_some.mp found with ⟨_, found⟩
  rcases Option.ite_none_left_eq_some.mp found with ⟨_, ⟨⟩⟩
  rfl

theorem threadId_of_mem (mem : row ∈ rowsOf threadId messages) : row.threadId = threadId := by
  rcases mem_filterMap.1 mem with ⟨numbered, _, found⟩
  exact congrArg Prod.fst (threadId_of_rowOf found)

theorem nodup_rowsOf (threadId : Text) (messages : List Message) :
    ((rowsOf threadId messages).map Row.key).Nodup := by
  have seqs := nodup_zipIdx_map_snd messages
  rw [List.Nodup, pairwise_map] at seqs ⊢
  rw [rowsOf, pairwise_filterMap]
  refine seqs.imp fun {first second} different row here other there same => different ?_
  rw [threadId_of_rowOf here, threadId_of_rowOf there] at same
  exact (Prod.mk.inj same).2

/-- The rows of other threads, and those of the messages. -/
def replacedMessages (index : Index) (threadId : Text) (messages : List Message) : List Row :=
  index.messages.filter (fun row => decide (row.threadId ≠ threadId)) ++ rowsOf threadId messages

def replacedIndexed (index : Index) (entry : Entry) : List Entry :=
  index.indexed.filter (fun other => decide (other.threadId ≠ entry.threadId)) ++ [entry]

theorem nodup_replacedMessages (index : Index) (threadId : Text) (messages : List Message) :
    ((replacedMessages index threadId messages).map Row.key).Nodup := by
  rw [replacedMessages, map_append]
  refine Nodup.append (index.keys.sublist (List.filter_sublist.map Row.key))
    (nodup_rowsOf threadId messages) fun key old new => ?_
  rcases mem_map.1 old with ⟨row, kept, rfl⟩
  rcases mem_map.1 new with ⟨other, own, same⟩
  have different := of_decide_eq_true (mem_filter.1 kept).2
  exact different ((congrArg Prod.fst same).symm.trans (threadId_of_mem own))

theorem nodup_replacedIndexed (index : Index) (entry : Entry) :
    ((replacedIndexed index entry).map Entry.threadId).Nodup := by
  rw [replacedIndexed, map_append]
  refine Nodup.append (index.threads.sublist (List.filter_sublist.map Entry.threadId))
    (nodup_singleton entry.threadId) fun thread old new => ?_
  rcases mem_map.1 old with ⟨other, kept, rfl⟩
  exact of_decide_eq_true (mem_filter.1 kept).2 (mem_singleton.1 new)

theorem paired_replaced (index : Index) (entry : Entry) (messages : List Message) :
    ∀ row ∈ replacedMessages index entry.threadId messages,
      row.threadId ∈ (replacedIndexed index entry).map Entry.threadId := by
  intro row mem
  rw [replacedIndexed, map_append, mem_append]
  rcases mem_append.1 mem with old | new
  · left
    rcases mem_filter.1 old with ⟨kept, different⟩
    rcases mem_map.1 (index.paired row kept) with ⟨other, stored, same⟩
    exact mem_map.2 ⟨other, mem_filter.2 ⟨stored, same ▸ different⟩, same⟩
  · right
    exact mem_singleton.2 (threadId_of_mem new)

/-- `_replace_thread`, which raises where a value cannot be encoded. -/
def replaceThread (index : Index) (threadId checkpointId : Text) (messages : List Message)
    (updatedAt : Text) : Option Index :=
  if Text.Encodes threadId ∧ Text.Encodes checkpointId ∧ Text.Encodes updatedAt ∧
      ∀ row ∈ rowsOf threadId messages, Text.Encodes row.role ∧ Text.Encodes row.content then
    some {
      messages := replacedMessages index threadId messages
      indexed := replacedIndexed index ⟨threadId, checkpointId, updatedAt⟩
      keys := nodup_replacedMessages index threadId messages
      threads := nodup_replacedIndexed index _
      paired := paired_replaced index ⟨threadId, checkpointId, updatedAt⟩ messages }
  else none

/-- `_get_last_indexed` -/
def Index.lastIndexed (index : Index) (threadId : Text) : Option Text :=
  (index.indexed.find? fun entry => decide (entry.threadId = threadId)).map Entry.lastCheckpointId

/-! ### Searches -/

/-- ASCII letters of both cases are one. -/
def fold (point : CodePoint) : ℕ :=
  if 65 ≤ point.val ∧ point.val ≤ 90 then point.val + 32 else point.val

def percent : CodePoint := 37

def underscore : CodePoint := 95

def token (point : CodePoint) : Like.Token CodePoint :=
  if point = percent then .all else if point = underscore then .one else .letter point

/-- What a `LIKE` sees of a text: it ends at a NUL. -/
def visible (value : Text) : Text := value.takeWhile fun point => decide (point ≠ 0)

/-- `content LIKE pattern` -/
def like (pattern content : Text) : Bool := Like.run fold ((visible pattern).map token) (visible content)

/-- The bytes that a pattern may have at most. -/
def likeLimit : ℕ := 50000

inductive SearchError where
  | unicodeEncode
  | overflow
  | patternTooComplex
  deriving DecidableEq

/-- `f"%{query.strip()}%"` -/
def patternOf (query : Text) : Text := percent :: (query.strip ++ [percent])

/-- `messages` joined with `indexed`, each row with the time of its thread. -/
def Index.joined (index : Index) : List (Row × Text) :=
  index.messages.flatMap fun row =>
    (index.indexed.filter fun entry => decide (entry.threadId = row.threadId)).map fun entry =>
      (row, entry.updatedAt)

/-- `role IN roles`, where there are any. -/
def Selects (roles : Option (List Text)) (role : Text) : Prop :=
  roles.getD [] = [] ∨ role ∈ roles.getD []

instance (roles : Option (List Text)) (role : Text) : Decidable (Selects roles role) :=
  inferInstanceAs (Decidable (_ ∨ _))

/-- `ORDER BY i.updated_at DESC, m.seq` -/
def before (first second : Row × Text) : Bool :=
  decide (second.2 < first.2 ∨ (second.2 = first.2 ∧ first.1.seq ≤ second.1.seq))

def maxInteger : ℤ := 2 ^ 63

def search (index : Index) (query : Text) (limit : ℤ) (roles : Option (List Text)) :
    Except SearchError (List (Row × Text)) :=
  if ¬ (Text.Encodes (patternOf query) ∧ ∀ role ∈ roles.getD [], Text.Encodes role) then .error .unicodeEncode
  else if maxInteger ≤ max 1 limit then .error .overflow
  else if likeLimit < (patternOf query).utf8Size?.getD 0 ∧ index.joined ≠ [] then .error .patternTooComplex
  else .ok (((index.joined.filter fun hit =>
    like (patternOf query) hit.1.content && decide (Selects roles hit.1.role)).mergeSort before).take
      (max 1 limit).toNat)

end Synapse.Search
