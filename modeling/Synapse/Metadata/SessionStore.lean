import Synapse.Foundation.Script
import Synapse.Python.Text

/-!
# The session store

The statements of a store go to a database that others have connections to. A statement that writes opens a
transaction and holds the write lock until the commit; what is written is seen by its own connection only,
until then.
-/

namespace Synapse.Metadata

/-! ### Titles -/

/-- `value.split()`; the letters of `word` are before the rest. -/
def wordsFrom (word : Text) : Text → List Text
  | [] => if word = [] then [] else [word]
  | letter :: rest =>
    if letter.isSpace then
      if word = [] then wordsFrom [] rest else word :: wordsFrom [] rest
    else wordsFrom (word ++ [letter]) rest

/-- `is_default_session_title`; `casefold` is `str.casefold`. -/
def isDefaultSessionTitle (casefold : Text → Text) (title threadId : Text) : Bool :=
  let text := title.strip
  text = [] || text = threadId || decide (Text.ofString "session " <+: text) ||
    decide (casefold text ∈ [Text.ofString "session", Text.ofString "new session", Text.ofString "untitled"])

/-- `title_from_user_message` -/
def titleFromUserMessage (text : Option Text) : Option Text :=
  match text with
  | none | some [] => none
  | some text =>
    let raw := if 80 * 4 + 64 < text.length then text.take (80 * 4 + 64) else text
    let one := [(0x20 : CodePoint)].intercalate (wordsFrom [] (Text.strip raw))
    if one = [] then none else some (one.take 80)

/-! ### Rows -/

structure ModelBinding where
  activeModel : Option Text := none
  model : Option Text := none
  thinking : Option Text := none
  deriving DecidableEq

def ModelBinding.hasData (binding : ModelBinding) : Bool :=
  [binding.activeModel, binding.model, binding.thinking].any fun value => value.any (· ≠ [])

structure SessionInfo where
  threadId : Text
  title : Text
  model : Option Text
  createdAt : Text
  updatedAt : Text
  activeModel : Option Text
  thinking : Option Text
  deriving DecidableEq

def SessionInfo.binding (info : SessionInfo) : ModelBinding :=
  { activeModel := info.activeModel, model := info.model, thinking := info.thinking }

/-- The tables; rows are in the order in which they were inserted. -/
structure Tables where
  sessions : List SessionInfo := []
  lastModelBinding : Option ModelBinding := none
  deriving DecidableEq

def Tables.get (tables : Tables) (threadId : Text) : Option SessionInfo :=
  tables.sessions.find? fun row => row.threadId = threadId

def Tables.insert (tables : Tables) (info : SessionInfo) : Tables :=
  { tables with sessions := tables.sessions ++ [info] }

inductive StoreError where
  /-- `sqlite3.IntegrityError`: there is a row with this key. -/
  | integrity
  deriving DecidableEq

/-- `INSERT INTO sessions` -/
def Tables.insertNew (tables : Tables) (info : SessionInfo) : Tables × Except StoreError Unit :=
  match tables.get info.threadId with
  | some _ => (tables, .error .integrity)
  | none => (tables.insert info, .ok ())

def Tables.delete (tables : Tables) (threadId : Text) : Tables :=
  { tables with sessions := tables.sessions.filter fun row => row.threadId ≠ threadId }

/-- `UPDATE sessions SET .. WHERE thread_id = ?` -/
def Tables.update (tables : Tables) (threadId : Text) (change : SessionInfo → SessionInfo) : Tables :=
  { tables with sessions :=
      tables.sessions.map fun row => if row.threadId = threadId then change row else row }

/-- `COALESCE(?, column)` for the columns of a binding. -/
def SessionInfo.bind (row : SessionInfo) (binding : ModelBinding) : SessionInfo :=
  { row with
    model := binding.model <|> row.model
    activeModel := binding.activeModel <|> row.activeModel
    thinking := binding.thinking <|> row.thinking }

/-! ### Statements -/

/-- The tables as committed, and those of the connection that holds the write lock. -/
structure Database where
  committed : Tables := {}
  transaction : Option (ℕ × Tables) := none

/-- What a connection reads. -/
def Database.view (database : Database) (connection : ℕ) : Tables :=
  match database.transaction with
  | some (holder, tables) => if holder = connection then tables else database.committed
  | none => database.committed

/-- The kind of a statement and the connection that it goes to. -/
inductive Statement where
  | begin (connection : ℕ)
  | read (connection : ℕ)
  | write (connection : ℕ)
  | commit (connection : ℕ)
  deriving DecidableEq

/-- Whether the write lock lets a statement run. -/
def Statement.Admitted (statement : Statement) (database : Database) : Prop :=
  match statement with
  | .begin connection | .write connection =>
    ∀ holder ∈ database.transaction.map Prod.fst, holder = connection
  | .read _ | .commit _ => True

instance (statement : Statement) (database : Database) : Decidable (statement.Admitted database) :=
  match statement with
  | .begin connection | .write connection =>
    inferInstanceAs (Decidable (∀ holder ∈ database.transaction.map Prod.fst, holder = connection))
  | .read _ | .commit _ => isTrue trivial

abbrev Sql (Value : Type) := Script Statement Database Value

section

variable (connection : ℕ)

/-- `BEGIN IMMEDIATE` -/
def beginImmediate : Sql Unit :=
  Script.atomically (.begin connection) fun database =>
    ({ database with transaction := some (connection, database.view connection) }, ())

def select {Value : Type} (query : Tables → Value) : Sql Value :=
  Script.atomically (.read connection) fun database => (database, query (database.view connection))

/-- A statement that writes; without a transaction it opens one. -/
def execute {Value : Type} (action : Tables → Tables × Value) : Sql Value :=
  Script.atomically (.write connection) fun database =>
    let (tables, value) := action (database.view connection)
    ({ database with transaction := some (connection, tables) }, value)

/-- The commit or rollback of the connection's transaction, if it has one. -/
def Database.finish (database : Database) (keep : Bool) : Database :=
  match database.transaction with
  | some (holder, tables) =>
    if holder = connection then ⟨if keep then tables else database.committed, none⟩ else database
  | none => database

def finish (keep : Bool) : Sql Unit :=
  Script.atomically (.commit connection) fun database => (database.finish connection keep, ())

def commit : Sql Unit := finish connection true

def update (threadId : Text) (change : SessionInfo → SessionInfo) : Sql Unit :=
  execute connection fun tables => (tables.update threadId change, ())

/-! ### Operations -/

def get (threadId : Text) : Sql (Option SessionInfo) :=
  select connection fun tables => tables.get threadId

/-- The title of a new row. -/
def createdTitle (threadId : Text) (title : Option Text) : Text :=
  let created := match titleFromUserMessage title, title with
    | some created, _ => created
    | none, none | none, some [] => Text.ofString "session " ++ threadId
    | none, some title => title.strip.take 120
  created.take 120

def insert (info : SessionInfo) : Sql (Except StoreError Unit) :=
  execute connection fun tables => tables.insertNew info

/-- The row that `ensure` inserts. -/
def createdSession (now threadId : Text) (title : Option Text) (binding : ModelBinding) : SessionInfo :=
  { threadId, title := createdTitle threadId title, model := binding.model, createdAt := now,
    updatedAt := now, activeModel := binding.activeModel, thinking := binding.thinking }

def ensure (now threadId : Text) (title : Option Text) (binding : ModelBinding) :
    Sql (Except StoreError SessionInfo) := do
  match ← get connection threadId with
  | some existing => return .ok existing
  | none =>
    let info := createdSession now threadId title binding
    match ← insert connection info with
    | .error error => return .error error
    | .ok () =>
      commit connection
      return .ok info

/-- The title that `touch` writes. -/
def touchedTitle (casefold : Text → Text) (threadId title : Text) (titleHint : Option Text) : Text :=
  match titleFromUserMessage titleHint with
  | some hint => if isDefaultSessionTitle casefold title threadId then hint else title
  | none => title

def touch (casefold : Text → Text) (now threadId : Text) (titleHint : Option Text) (binding : ModelBinding) :
    Sql (Except StoreError (Option SessionInfo)) := do
  match ← ensure connection now threadId titleHint binding with
  | .error error => return .error error
  | .ok info =>
    let title := touchedTitle casefold threadId info.title titleHint
    update connection threadId fun row => { row.bind binding with updatedAt := now, title }
    commit connection
    return .ok (← get connection threadId)

/-- The title that `rename` writes. -/
def renamedTitle (threadId title : Text) : Text :=
  if title.strip.take 120 = [] then threadId else title.strip.take 120

def rename (now threadId title : Text) : Sql (Option SessionInfo) := do
  match ← get connection threadId with
  | none => return none
  | some _ =>
    update connection threadId fun row =>
      { row with title := renamedTitle threadId title, updatedAt := now }
    commit connection
    get connection threadId

def setLastModelBinding (binding : ModelBinding) : Sql Unit :=
  if binding.hasData then do
    execute connection fun tables => ({ tables with lastModelBinding := some binding }, ())
    commit connection
  else return

/-- `if not create and self.get(thread_id) is None` -/
def skipsMissing (threadId : Text) (create : Bool) : Sql Bool :=
  if create then return false
  else do
    let existing ← get connection threadId
    return existing.isNone

/-- `if also_last` -/
def alsoSetLast (binding : ModelBinding) (alsoLast : Bool) : Sql Unit :=
  if alsoLast then setLastModelBinding connection binding else return

def saveModelBinding (now : Text) (threadId : Option Text) (binding : ModelBinding) (alsoLast create : Bool) :
    Sql (Except StoreError Bool) :=
  if binding.hasData = false then return .ok false
  else match threadId with
    | none | some [] => do
        alsoSetLast connection binding alsoLast
        return .ok false
    | some threadId => do
        let skips ← skipsMissing connection threadId create
        if skips then return .ok false
        else match ← ensure connection now threadId none { model := binding.model } with
          | .error error => return .error error
          | .ok _ => do
              update connection threadId fun row => { row.bind binding with updatedAt := now }
              commit connection
              alsoSetLast connection binding alsoLast
              return .ok true

/-- `DELETE FROM sessions`, whether there was a row. -/
def delete (threadId : Text) : Sql Bool := do
  let found ← execute connection fun tables => (tables.delete threadId, (tables.get threadId).isSome)
  commit connection
  return found

/-- `SELECT * FROM sessions ORDER BY updated_at DESC LIMIT ?` -/
def list (limit : ℤ) : Sql (List SessionInfo) :=
  select connection fun tables =>
    (tables.sessions.insertionSort fun first second => second.updatedAt ≤ first.updatedAt).take
      (max 1 limit).toNat

/-- Whether `prune_empty` deletes a row. -/
def prunes (casefold : Text → Text) (exceptIds : List Text) (item : SessionInfo) : Bool :=
  decide (item.threadId ∉ exceptIds) && isDefaultSessionTitle casefold item.title item.threadId &&
    !item.binding.hasData

def pruneItems : List SessionInfo → Sql (List Text)
  | [] => return []
  | item :: items => do
      let found ← delete connection item.threadId
      let deleted ← pruneItems items
      return if found then item.threadId :: deleted else deleted

def pruneEmpty (casefold : Text → Text) (exceptIds : List Text) (limit : ℤ) : Sql (List Text) := do
  let items ← list connection (max 1 limit)
  pruneItems connection (items.filter fun item => prunes casefold (exceptIds.filter (· ≠ [])) item)

/-- `with store.immediate()` around an operation that may raise. -/
def immediate {Value : Type} (body : Sql (Except StoreError Value)) : Sql (Except StoreError Value) := do
  beginImmediate connection
  let result ← body
  finish connection result.isOk
  return result

end

end Synapse.Metadata
