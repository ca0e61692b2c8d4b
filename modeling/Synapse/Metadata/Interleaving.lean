import Synapse.Foundation.RelyGuarantee
import Synapse.Metadata.Titles

/-!
# Stores on one file

Calls on connections of their own interleave statement by statement. A connection that holds the write lock
is alone until it commits, so a call that reads and writes under the lock writes what it has read.
-/

namespace Synapse.Metadata

/-! ### Calls -/

inductive Request where
  | ensure (now threadId : Text) (title : Option Text) (binding : ModelBinding)
  | touch (now threadId : Text) (titleHint : Option Text) (binding : ModelBinding)
  | rename (now threadId title : Text)
  | saveModelBinding (now : Text) (threadId : Option Text) (binding : ModelBinding) (alsoLast create : Bool)
  deriving DecidableEq

/-- A call on a connection, within `immediate` or not. -/
structure Call where
  connection : ℕ
  wrapped : Bool
  request : Request
  deriving DecidableEq

abbrev Answer := Except StoreError (Option SessionInfo)

def Request.script (casefold : Text → Text) (connection : ℕ) : Request → Sql Answer
  | .ensure now threadId title binding => do
      let result ← Metadata.ensure connection now threadId title binding
      return result.map some
  | .touch now threadId titleHint binding => Metadata.touch connection casefold now threadId titleHint binding
  | .rename now threadId title => do return .ok (← Metadata.rename connection now threadId title)
  | .saveModelBinding now threadId binding alsoLast create => do
      let result ← Metadata.saveModelBinding connection now threadId binding alsoLast create
      return result.map fun _ => none

def Call.script (casefold : Text → Text) (call : Call) : Sql Answer :=
  if call.wrapped then immediate call.connection (call.request.script casefold call.connection)
  else call.request.script casefold call.connection

def Request.Renames (id : Text) : Request → Prop
  | .rename _ threadId _ => threadId = id
  | _ => False

instance (id : Text) : ∀ request : Request, Decidable (request.Renames id)
  | .rename _ threadId _ => inferInstanceAs (Decidable (threadId = id))
  | .ensure .. | .touch .. | .saveModelBinding .. => isFalse fun renames => renames

/-- The request carries a binding for a session. -/
def Request.Binds (id : Text) : Request → Prop
  | .touch _ threadId _ binding => threadId = id ∧ binding ≠ {}
  | .saveModelBinding _ threadId _ _ _ => threadId = some id
  | _ => False

instance (id : Text) : ∀ request : Request, Decidable (request.Binds id)
  | .touch _ threadId _ binding => inferInstanceAs (Decidable (threadId = id ∧ binding ≠ {}))
  | .saveModelBinding _ threadId _ _ _ => inferInstanceAs (Decidable (threadId = some id))
  | .ensure .. | .rename .. => isFalse fun binds => binds

/-! ### The contract -/

variable {casefold : Text → Text} {call : Call} {before after middle : Tables} {database : Database}

/-- Rows stay, and only renames change titles that are no placeholders and calls with bindings change
bindings. -/
def Moves (casefold : Text → Text) (request : Request) (before after : Tables) : Prop :=
  ∀ id row, before.get id = some row → ∃ later, after.get id = some later ∧
    later.createdAt = row.createdAt ∧
    (¬ request.Renames id → isDefaultSessionTitle casefold row.title id = false → later.title = row.title) ∧
    (¬ request.Binds id → later.binding = row.binding)

/-- The connection holds no lock. -/
def Free (connection : ℕ) (database : Database) : Prop :=
  ∀ tables, database.transaction ≠ some (connection, tables)

/-- What the connection's own transaction has changed is allowed. -/
def Safe (casefold : Text → Text) (call : Call) (database : Database) : Prop :=
  ∀ tables, database.transaction = some (call.connection, tables) →
    Moves casefold call.request database.committed tables

/-- What other connections do: nothing while this one holds the lock. -/
structure Relies (connection : ℕ) (before after : Database) : Prop where
  held : ∀ tables, before.transaction = some (connection, tables) → after = before
  free : Free connection before → Free connection after
  rows : ∀ id row, before.committed.get id = some row →
    ∃ later, after.committed.get id = some later ∧ later.createdAt = row.createdAt

structure Promises (casefold : Text → Text) (call : Call) (before after : Database) : Prop where
  waits : ∀ holder tables, before.transaction = some (holder, tables) → holder ≠ call.connection →
    after = before
  own : ∀ holder tables, after.transaction = some (holder, tables) → holder ≠ call.connection →
    before.transaction = some (holder, tables)
  moves : Moves casefold call.request before.committed after.committed

/-- Calls are within `immediate`, apart from renames. -/
def Request.Plain : Request → Prop
  | .rename .. => True
  | _ => False

instance : ∀ request : Request, Decidable request.Plain
  | .rename .. => isTrue trivial
  | .ensure .. | .touch .. | .saveModelBinding .. => isFalse fun plain => plain

/-- A touch finds the row of its session. -/
def Request.Finds : Request → Tables → Prop
  | .touch _ threadId _ _, tables => (tables.get threadId).isSome = true
  | _, _ => True

instance : ∀ (request : Request) (tables : Tables), Decidable (request.Finds tables)
  | .touch _ threadId _ _, tables => inferInstanceAs (Decidable ((tables.get threadId).isSome = true))
  | .ensure .., _ | .rename .., _ | .saveModelBinding .., _ => isTrue trivial

def Statement.begins : Statement → Bool
  | .begin _ => true
  | _ => false

/-- The lock lets the statement run, and a touch finds its row when it begins. -/
def Allowed (call : Call) (statement : Statement) (database : Database) : Prop :=
  statement.Admitted database ∧ (statement.begins = true → call.request.Finds database.committed)

/-- The session that a row was created for, whatever was done to it since. -/
def Persists (info : SessionInfo) (database : Database) : Prop :=
  ∃ later, database.committed.get info.threadId = some later ∧ later.createdAt = info.createdAt

/-- No call raises, and an ensured session is that of the row. -/
def Ends (call : Call) (answer : Answer) (database : Database) : Prop :=
  match call.request with
  | .ensure _ threadId _ _ => ∃ info, answer = .ok (some info) ∧ info.threadId = threadId ∧
      Persists info database
  | _ => ∃ row, answer = .ok row

def contract (casefold : Text → Text) : Pool.Contract Call Statement Database Answer where
  compatible call other := call.connection ≠ other.connection
  starts call database := (call.wrapped = true ∨ call.request.Plain) ∧ Free call.connection database
  guard := Allowed
  rely call := Relies call.connection
  promise := Promises casefold
  post := Ends

/-! ### Moves -/

theorem Moves.refl (request : Request) (tables : Tables) : Moves casefold request tables tables :=
  fun _ row found => ⟨row, found, rfl, fun _ _ => rfl, fun _ => rfl⟩

variable {request : Request}

theorem Moves.trans (first : Moves casefold request before middle)
    (second : Moves casefold request middle after) : Moves casefold request before after := by
  intro id row found
  rcases first id row found with ⟨next, there, created, titled, bound⟩
  rcases second id next there with ⟨later, stored, createdLater, titledLater, boundLater⟩
  refine ⟨later, stored, createdLater.trans created, fun renames plain => ?_,
    fun binds => (boundLater binds).trans (bound binds)⟩
  have same := titled renames plain
  rw [titledLater renames (same ▸ plain), same]

theorem moves_insert (request : Request) {info : SessionInfo} (fresh : before.get info.threadId = none) :
    Moves casefold request before (before.insert info) := by
  intro id row found
  refine ⟨row, ?_, rfl, fun _ _ => rfl, fun _ => rfl⟩
  rw [Tables.get_insert fresh, if_neg, found]
  rintro rfl
  rw [fresh] at found
  cases found

theorem moves_update {id : Text} {change : SessionInfo → SessionInfo}
    (keeps : ∀ row, (change row).threadId = row.threadId)
    (changes : ∀ row, before.get id = some row → (change row).createdAt = row.createdAt ∧
      (¬ request.Renames id → isDefaultSessionTitle casefold row.title id = false →
        (change row).title = row.title) ∧ (¬ request.Binds id → (change row).binding = row.binding)) :
    Moves casefold request before (before.update id change) := by
  intro other row found
  rw [Tables.get_update keeps, found, Option.map_some]
  by_cases same : other = id
  · subst same
    rw [if_pos rfl]
    exact ⟨_, rfl, changes row found⟩
  · rw [if_neg same]
    exact ⟨row, rfl, rfl, fun _ _ => rfl, fun _ => rfl⟩

/-! ### Statements -/

theorem Promises.refl (call : Call) (database : Database) : Promises casefold call database database where
  waits _ _ _ _ := rfl
  own _ _ held _ := held
  moves := Moves.refl _ _

theorem safe_of_free (free : Free call.connection database) : Safe casefold call database :=
  fun tables held => absurd held (free tables)

theorem stable_free (connection : ℕ) : Script.Stable (Relies connection) (Free connection) :=
  fun _ _ free relied => relied.free free

/-- What holds of the database while the connection has the lock is stable. -/
theorem stable_held (connection : ℕ) (holds : Tables → Tables → Prop) :
    Script.Stable (Relies connection) fun database =>
      ∃ tables, database.transaction = some (connection, tables) ∧ holds database.committed tables := by
  rintro before after ⟨tables, held, own⟩ relied
  rw [relied.held tables held]
  exact ⟨tables, held, own⟩

theorem stable_safe : Script.Stable (Relies call.connection) (Safe casefold call) := by
  intro before after safe relied tables held
  by_cases free : Free call.connection before
  · exact absurd held (relied.free free tables)
  · rw [Free] at free
    push Not at free
    rcases free with ⟨own, before_held⟩
    have same := relied.held own before_held
    rw [same] at held ⊢
    exact safe tables held

theorem stable_persists (connection : ℕ) (info : SessionInfo) :
    Script.Stable (Relies connection) (Persists info) := by
  rintro before after ⟨row, found, created⟩ relied
  rcases relied.rows _ row found with ⟨later, stored, same⟩
  exact ⟨later, stored, same.trans created⟩

/-! ### Rules -/

section

variable {known : Database → Prop} {Value : Type} {post : Value → Database → Prop}

theorem moves_view (safe : Safe casefold call database) :
    Moves casefold call.request database.committed (database.view call.connection) := by
  rw [Database.view]
  split
  · next holder tables held =>
      split
      · next own => exact safe tables (own ▸ held)
      · exact Moves.refl _ _
  · exact Moves.refl _ _

theorem guarantees_select {query : Tables → Value}
    (stable : ∀ value, Script.Stable (Relies call.connection) (post value))
    (holds : ∀ database, known database → post (query (database.view call.connection)) database) :
    (select call.connection query).Guarantees (Allowed call) (Relies call.connection) (Promises casefold call)
      post known :=
  Script.guarantees_atomically stable fun database before _ =>
    ⟨Promises.refl call database, holds database before⟩

theorem promises_open {tables : Tables}
    (admitted : ∀ holder ∈ database.transaction.map Prod.fst, holder = call.connection) :
    Promises casefold call database { database with transaction := some (call.connection, tables) } where
  waits holder tables held other := absurd (admitted holder (by rw [held]; rfl)) other
  own holder tables held other := by
    cases held
    exact absurd rfl other
  moves := Moves.refl _ _

theorem guarantees_execute {action : Tables → Tables × Value}
    (stable : ∀ value, Script.Stable (Relies call.connection) (post value))
    (safe : ∀ database, known database → Safe casefold call database)
    (moves : ∀ database, known database → Moves casefold call.request (database.view call.connection)
      (action (database.view call.connection)).1)
    (holds : ∀ database, known database → post (action (database.view call.connection)).2
      { database with transaction := some (call.connection, (action (database.view call.connection)).1) }) :
    (execute call.connection action).Guarantees (Allowed call) (Relies call.connection)
      (Promises casefold call) (fun value database => Safe casefold call database ∧ post value database)
      known := by
  refine Script.guarantees_atomically (fun value => Script.stable_and stable_safe (stable value)) ?_
  intro database before allowed
  refine ⟨promises_open allowed.1, fun tables held => ?_, holds database before⟩
  cases held
  exact (moves_view (safe database before)).trans (moves database before)

theorem finish_eq (keep : Bool) (held : database.transaction = some (call.connection, after)) :
    database.finish call.connection keep = ⟨if keep then after else database.committed, none⟩ := by
  simp only [Database.finish, held, if_true]

theorem finish_free (keep : Bool) (free : Free call.connection database) :
    database.finish call.connection keep = database := by
  rw [Database.finish]
  split
  · next holder tables held =>
      rw [if_neg]
      rintro rfl
      exact free tables held
  · rfl

theorem free_or_held (connection : ℕ) (database : Database) :
    Free connection database ∨ ∃ tables, database.transaction = some (connection, tables) := by
  by_cases free : Free connection database
  · exact Or.inl free
  · rw [Free] at free
    push Not at free
    exact Or.inr free

theorem free_finish (keep : Bool) : Free call.connection (database.finish call.connection keep) := by
  rcases free_or_held call.connection database with free | ⟨tables, held⟩
  · rw [finish_free keep free]
    exact free
  · rw [finish_eq keep held]
    exact fun tables held => by cases held

theorem promises_finish (keep : Bool) (safe : Safe casefold call database) :
    Promises casefold call database (database.finish call.connection keep) := by
  rcases free_or_held call.connection database with free | ⟨tables, held⟩
  · rw [finish_free keep free]
    exact Promises.refl call database
  · rw [finish_eq keep held]
    refine ⟨fun holder other locked different => ?_, fun holder other locked _ => (by cases locked), ?_⟩
    · rw [held] at locked
      cases locked
      exact absurd rfl different
    · cases keep with
      | true => exact safe tables held
      | false => exact Moves.refl _ _

theorem guarantees_finish {keep : Bool} {post : Database → Prop}
    (stable : Script.Stable (Relies call.connection) post)
    (safe : ∀ database, known database → Safe casefold call database)
    (holds : ∀ database, known database → post (database.finish call.connection keep)) :
    (finish call.connection keep).Guarantees (Allowed call) (Relies call.connection) (Promises casefold call)
      (fun _ database => Free call.connection database ∧ post database) known := by
  refine Script.guarantees_atomically
    (fun _ => Script.stable_and (stable_free call.connection) stable) ?_
  intro database before _
  exact ⟨promises_finish keep (safe database before), free_finish keep, holds database before⟩

end

/-! ### Operations -/

/-- The connection has the lock, and has changed nothing. -/
def Clean (connection : ℕ) (holds : Tables → Prop) (database : Database) : Prop :=
  ∃ tables, database.transaction = some (connection, tables) ∧ (database.committed = tables ∧ holds tables)

theorem stable_clean (connection : ℕ) (holds : Tables → Prop) :
    Script.Stable (Relies connection) (Clean connection holds) :=
  stable_held connection fun committed tables => committed = tables ∧ holds tables

theorem Clean.safe {holds : Tables → Prop} (clean : Clean call.connection holds database) :
    Safe casefold call database := by
  rcases clean with ⟨tables, held, same, _⟩
  intro other locked
  rw [held] at locked
  cases locked
  rw [same]
  exact Moves.refl _ _

variable {connection : ℕ}

theorem Clean.view {holds : Tables → Prop} (clean : Clean connection holds database) :
    database.view connection = database.committed := by
  rcases clean with ⟨tables, held, same, _⟩
  rw [Database.view, held, same]
  exact if_pos rfl

theorem Clean.holds {holds : Tables → Prop} (clean : Clean connection holds database) :
    holds database.committed := by
  rcases clean with ⟨tables, _, same, own⟩
  rw [same]
  exact own

theorem stable_pure (connection : ℕ) (fact : Prop) : Script.Stable (Relies connection) fun _ => fact :=
  fun _ _ own _ => own

theorem guarantees_get {holds : Tables → Prop} (id : Text) :
    (get call.connection id).Guarantees (Allowed call) (Relies call.connection) (Promises casefold call)
      (fun value => Clean call.connection fun tables => tables.get id = value ∧ holds tables)
      (Clean call.connection holds) := by
  refine guarantees_select (fun value => stable_clean _ _) fun database clean => ?_
  have viewed := clean.view
  rcases clean with ⟨tables, held, same, own⟩
  exact ⟨tables, held, same, by rw [viewed, same], own⟩

/-- Under the lock, `ensure` returns the session of a row and does not raise. -/
theorem guarantees_ensure {holds : Tables → Prop} (now id : Text) (title : Option Text)
    (binding : ModelBinding) :
    (ensure call.connection now id title binding).Guarantees (Allowed call) (Relies call.connection)
      (Promises casefold call) (fun result database => Safe casefold call database ∧
        ∃ info, result = .ok info ∧ info.threadId = id ∧ Persists info database)
      (Clean call.connection holds) := by
  refine (guarantees_get id).bind fun existing => ?_
  cases existing with
  | some existing =>
    refine Script.guarantees_pure fun database clean => ⟨clean.safe, existing, rfl, ?_⟩
    have found := clean.holds.1
    have own := Tables.threadId_of_get found
    exact ⟨own, existing, by rw [own, found], rfl⟩
  | none =>
    let info := createdSession now id title binding
    have inserted : (insert call.connection info).Guarantees (Allowed call) (Relies call.connection)
        (Promises casefold call) (fun result database => Safe casefold call database ∧ result = .ok () ∧
          ∃ tables, database.transaction = some (call.connection, tables) ∧ tables.get id = some info)
        (Clean call.connection fun tables => tables.get id = none ∧ holds tables) := by
      have action (database : Database)
          (clean : Clean call.connection (fun tables => tables.get id = none ∧ holds tables) database) :
          (database.view call.connection).insertNew info = (database.committed.insert info, .ok ()) := by
        have fresh : database.committed.get info.threadId = none := clean.holds.1
        simp only [Tables.insertNew, clean.view, fresh]
      refine guarantees_execute (fun value => Script.stable_and (stable_pure _ _)
          (stable_held call.connection fun _ tables => tables.get id = some info))
        (fun database clean => clean.safe) (fun database clean => ?_) fun database clean => ?_
      · rw [action database clean, clean.view]
        exact moves_insert _ clean.holds.1
      · rw [action database clean]
        refine ⟨rfl, _, rfl, ?_⟩
        rw [Tables.get_insert clean.holds.1]
        exact if_pos rfl
    refine inserted.bind fun result => ?_
    cases result with
    | error error => exact Script.guarantees_pure fun database facts => by cases facts.2.1
    | ok _ =>
      have committed : (commit call.connection).Guarantees (Allowed call) (Relies call.connection)
          (Promises casefold call)
          (fun _ database => Free call.connection database ∧ Persists info database)
          (fun database => Safe casefold call database ∧ Except.ok (ε := StoreError) () = .ok () ∧
            ∃ tables, database.transaction = some (call.connection, tables) ∧
              tables.get id = some info) := by
        refine guarantees_finish (stable_persists _ info) (fun database facts => facts.1) ?_
        rintro database ⟨_, _, tables, held, found⟩
        rw [finish_eq true held]
        exact ⟨info, found, rfl⟩
      refine committed.bind fun _ => ?_
      exact Script.guarantees_pure fun database facts =>
        ⟨safe_of_free facts.1, info, rfl, rfl, facts.2⟩

/-- Under the lock, `ensure` returns a row that is there. -/
theorem guarantees_ensure_found (now id : Text) (title : Option Text) (binding : ModelBinding) :
    (ensure call.connection now id title binding).Guarantees (Allowed call) (Relies call.connection)
      (Promises casefold call) (fun result => Clean call.connection fun tables =>
        ∃ info, result = .ok info ∧ tables.get id = some info)
      (Clean call.connection fun tables => (tables.get id).isSome = true) := by
  refine (guarantees_get id).bind fun existing => ?_
  cases existing with
  | some existing =>
    refine Script.guarantees_pure ?_
    rintro database ⟨tables, held, same, found, _⟩
    exact ⟨tables, held, same, existing, rfl, found⟩
  | none =>
    refine Script.guarantees_of_false _ ?_
    rintro database ⟨tables, _, _, missing, found⟩
    rw [missing] at found
    cases found

theorem guarantees_update {known : Database → Prop} {id : Text} {change : SessionInfo → SessionInfo}
    (safe : ∀ database, known database → Safe casefold call database)
    (keeps : ∀ row, (change row).threadId = row.threadId)
    (changes : ∀ database, known database → ∀ row, (database.view call.connection).get id = some row →
      (change row).createdAt = row.createdAt ∧
        (¬ call.request.Renames id → isDefaultSessionTitle casefold row.title id = false →
          (change row).title = row.title) ∧
        (¬ call.request.Binds id → (change row).binding = row.binding)) :
    (update call.connection id change).Guarantees (Allowed call) (Relies call.connection)
      (Promises casefold call) (fun _ database => Safe casefold call database ∧ True) known :=
  guarantees_execute (fun _ => Script.stable_true) safe
    (fun database before => moves_update keeps (changes database before)) fun _ _ => trivial

variable {known : Database → Prop}

theorem guarantees_commit (safe : ∀ database, known database → Safe casefold call database) :
    (commit call.connection).Guarantees (Allowed call) (Relies call.connection) (Promises casefold call)
      (fun _ database => Free call.connection database ∧ True) known :=
  guarantees_finish Script.stable_true safe fun _ _ => trivial

theorem guarantees_alsoSetLast (binding : ModelBinding) (alsoLast : Bool)
    (safe : ∀ database, known database → Safe casefold call database) :
    (alsoSetLast call.connection binding alsoLast).Guarantees (Allowed call) (Relies call.connection)
      (Promises casefold call) (fun _ database => Safe casefold call database) known := by
  rw [alsoSetLast, setLastModelBinding]
  split
  · split
    · have written : (execute call.connection fun tables =>
          (({ tables with lastModelBinding := some binding } : Tables), ())).Guarantees (Allowed call)
            (Relies call.connection) (Promises casefold call)
            (fun _ database => Safe casefold call database ∧ True) known :=
        guarantees_execute (fun _ => Script.stable_true) safe
          (fun database _ id row found => ⟨row, found, rfl, fun _ _ => rfl, fun _ => rfl⟩) fun _ _ => trivial
      refine written.bind fun _ => ?_
      exact Script.guarantees_atomically (fun _ => stable_safe) fun database facts _ =>
        ⟨promises_finish true facts.1, safe_of_free (free_finish true)⟩
    · exact Script.guarantees_pure safe
  · exact Script.guarantees_pure safe

/-- Under the lock, `touch` of a session that has a row does not raise. -/
theorem guarantees_touch (now id : Text) (titleHint : Option Text) (binding : ModelBinding)
    (own : call.request = .touch now id titleHint binding) :
    (touch call.connection casefold now id titleHint binding).Guarantees (Allowed call)
      (Relies call.connection) (Promises casefold call)
      (fun result database => Safe casefold call database ∧ ∃ row, result = .ok row)
      (Clean call.connection fun tables => (tables.get id).isSome = true) := by
  refine (guarantees_ensure_found now id titleHint binding).bind fun result => ?_
  cases result with
  | error error =>
    refine Script.guarantees_of_false _ ?_
    rintro database ⟨tables, _, _, info, same, _⟩
    cases same
  | ok info =>
    let change (row : SessionInfo) : SessionInfo :=
      { row.bind binding with
        updatedAt := now
        title := touchedTitle casefold id info.title titleHint }
    have written := @guarantees_update casefold call
      (Clean call.connection fun tables => ∃ found, Except.ok (ε := StoreError) info = .ok found ∧
        tables.get id = some found) id change
      (fun database clean => clean.safe) (fun _ => rfl) (by
        intro database clean row stored
        rw [clean.view] at stored
        rcases clean.holds with ⟨found, same, read⟩
        cases same
        rw [read] at stored
        cases stored
        refine ⟨rfl, fun _ plain => ?_, fun binds => ?_⟩
        · have same : touchedTitle casefold id info.title titleHint = info.title := by
            simp only [touchedTitle, plain, Bool.false_eq_true, if_false]
            split <;> rfl
          exact same
        · rw [own, Request.Binds, not_and, not_not] at binds
          have same : (info.bind binding).binding = info.binding := by
            rw [binds rfl]
            rfl
          exact same)
    refine written.bind fun _ => ?_
    refine (guarantees_commit fun database facts => facts.1).bind fun _ => ?_
    have read : (get call.connection id).Guarantees (Allowed call) (Relies call.connection)
        (Promises casefold call) (fun _ database => Safe casefold call database)
        (fun database => Free call.connection database ∧ True) :=
      guarantees_select (fun _ => stable_safe) fun database facts => safe_of_free facts.1
    refine read.bind fun row => ?_
    exact Script.guarantees_pure fun database safe => ⟨safe, row, rfl⟩

/-- `rename` needs no lock. -/
theorem guarantees_rename (now id title : Text) (own : call.request = .rename now id title)
    (safe : ∀ database, known database → Safe casefold call database) :
    (rename call.connection now id title).Guarantees (Allowed call) (Relies call.connection)
      (Promises casefold call) (fun _ database => Safe casefold call database) known := by
  have read {before : Database → Prop}
      (allowed : ∀ database, before database → Safe casefold call database) :
      (get call.connection id).Guarantees (Allowed call) (Relies call.connection) (Promises casefold call)
        (fun _ database => Safe casefold call database) before :=
    guarantees_select (fun _ => stable_safe) allowed
  refine (read safe).bind fun existing => ?_
  cases existing with
  | none => exact Script.guarantees_pure fun database safe => safe
  | some row =>
    have written := @guarantees_update casefold call (Safe casefold call) id
      (fun row => { row with title := renamedTitle id title, updatedAt := now })
      (fun database safe => safe) (fun _ => rfl)
      (fun database _ row _ => ⟨rfl, fun renames => absurd (own ▸ rfl) renames, fun _ => rfl⟩)
    refine written.bind fun _ => ?_
    refine (guarantees_commit fun database facts => facts.1).bind fun _ => ?_
    exact read fun database facts => safe_of_free facts.1

/-- Under the lock, `save_model_binding` does not raise. -/
theorem guarantees_saveModelBinding (now : Text) (threadId : Option Text) (binding : ModelBinding)
    (alsoLast create : Bool) (own : call.request = .saveModelBinding now threadId binding alsoLast create) :
    (saveModelBinding call.connection now threadId binding alsoLast create).Guarantees (Allowed call)
      (Relies call.connection) (Promises casefold call)
      (fun result database => Safe casefold call database ∧ ∃ wrote, result = .ok wrote)
      (Clean call.connection fun _ => True) := by
  have unbound : (alsoSetLast call.connection binding alsoLast >>= fun _ =>
      (pure (.ok false) : Sql (Except StoreError Bool))).Guarantees (Allowed call) (Relies call.connection)
        (Promises casefold call)
        (fun result database => Safe casefold call database ∧ ∃ wrote, result = .ok wrote)
        (Clean call.connection fun _ => True) :=
    (guarantees_alsoSetLast binding alsoLast fun database clean => clean.safe).bind fun _ =>
      Script.guarantees_pure fun database safe => ⟨safe, false, rfl⟩
  unfold saveModelBinding
  split
  · exact Script.guarantees_pure fun database clean => ⟨clean.safe, false, rfl⟩
  · split
    · exact unbound
    · exact unbound
    · next id _ =>
        have skips : (skipsMissing call.connection id create).Guarantees (Allowed call)
            (Relies call.connection) (Promises casefold call)
            (fun _ => Clean call.connection fun _ => True) (Clean call.connection fun _ => True) := by
          rw [skipsMissing]
          split
          · exact Script.guarantees_pure fun database clean => clean
          · refine (guarantees_get id).bind fun existing => ?_
            refine Script.guarantees_pure ?_
            rintro database ⟨tables, held, same, _, _⟩
            exact ⟨tables, held, same, trivial⟩
        refine skips.bind fun skip => ?_
        split
        · exact Script.guarantees_pure fun database clean => ⟨clean.safe, false, rfl⟩
        · refine (guarantees_ensure now id none { model := binding.model }).bind fun result => ?_
          cases result with
          | error error =>
            refine Script.guarantees_of_false _ ?_
            rintro database ⟨_, info, same, _⟩
            cases same
          | ok info =>
            have written := @guarantees_update casefold call
              (fun database => Safe casefold call database ∧ ∃ found,
                Except.ok (ε := StoreError) info = .ok found ∧ found.threadId = id ∧
                  Persists found database) id
              (fun row => { row.bind binding with updatedAt := now }) (fun database facts => facts.1)
              (fun _ => rfl) (fun database _ row _ => ⟨rfl, fun _ _ => rfl,
                fun binds => absurd (own ▸ rfl) binds⟩)
            refine written.bind fun _ => ?_
            refine (guarantees_commit fun database facts => facts.1).bind fun _ => ?_
            refine (guarantees_alsoSetLast binding alsoLast
              fun database facts => safe_of_free facts.1).bind fun _ => ?_
            exact Script.guarantees_pure fun database safe => ⟨safe, true, rfl⟩

/-! ### Runs -/

theorem ends_of_rows {answer : Answer} {first second : Database} (ends : Ends call answer first)
    (rows : ∀ id row, first.committed.get id = some row →
      ∃ later, second.committed.get id = some later ∧ later.createdAt = row.createdAt) :
    Ends call answer second := by
  rw [Ends] at ends ⊢
  cases own : call.request with
  | ensure now id title binding =>
    rw [own] at ends
    rcases ends with ⟨info, same, named, row, found, created⟩
    rcases rows _ row found with ⟨later, stored, kept⟩
    exact ⟨info, same, named, later, stored, kept.trans created⟩
  | touch now id titleHint binding => rw [own] at ends; exact ends
  | rename now id title => rw [own] at ends; exact ends
  | saveModelBinding now id binding alsoLast create => rw [own] at ends; exact ends

theorem stable_ends (answer : Answer) : Script.Stable (Relies call.connection) (Ends call answer) :=
  fun _ _ ends relied => ends_of_rows ends relied.rows

theorem Moves.rows (moves : Moves casefold request before after) :
    ∀ id row, before.get id = some row →
      ∃ later, after.get id = some later ∧ later.createdAt = row.createdAt := by
  intro id row found
  rcases moves id row found with ⟨later, stored, created, _⟩
  exact ⟨later, stored, created⟩

theorem guarantees_request :
    (call.request.script casefold call.connection).Guarantees (Allowed call) (Relies call.connection)
      (Promises casefold call) (fun answer database => Safe casefold call database ∧ Ends call answer database)
      (Clean call.connection call.request.Finds) := by
  cases own : call.request with
  | ensure now id title binding =>
    refine (guarantees_ensure now id title binding).bind fun result => ?_
    refine Script.guarantees_pure ?_
    rintro database ⟨safe, info, rfl, named, persists⟩
    refine ⟨safe, ?_⟩
    rw [Ends, own]
    exact ⟨info, rfl, named, persists⟩
  | touch now id titleHint binding =>
    refine (guarantees_touch now id titleHint binding own).widen fun answer database facts => ⟨facts.1, ?_⟩
    rw [Ends, own]
    exact facts.2
  | rename now id title =>
    refine (guarantees_rename now id title own fun database clean => clean.safe).bind fun row => ?_
    refine Script.guarantees_pure fun database safe => ⟨safe, ?_⟩
    rw [Ends, own]
    exact ⟨row, rfl⟩
  | saveModelBinding now threadId binding alsoLast create =>
    refine (guarantees_saveModelBinding now threadId binding alsoLast create own).bind fun result => ?_
    refine Script.guarantees_pure ?_
    rintro database ⟨safe, wrote, rfl⟩
    refine ⟨safe, ?_⟩
    rw [Ends, own]
    exact ⟨none, rfl⟩

/-- A request within `immediate` ends as it should. -/
theorem guarantees_immediate :
    (immediate call.connection (call.request.script casefold call.connection)).Guarantees (Allowed call)
      (Relies call.connection) (Promises casefold call) (Ends call) (Free call.connection) := by
  have begins : (beginImmediate call.connection).Guarantees (Allowed call) (Relies call.connection)
      (Promises casefold call) (fun _ => Clean call.connection call.request.Finds) (Free call.connection) := by
    refine Script.guarantees_atomically (fun _ => stable_clean _ _) fun database free allowed => ?_
    have viewed : database.view call.connection = database.committed := by
      rw [Database.view]
      split
      · next holder tables held =>
          rw [if_neg]
          rintro rfl
          exact free tables held
      · rfl
    refine ⟨promises_open allowed.1, database.view call.connection, rfl, viewed.symm, ?_⟩
    rw [viewed]
    exact allowed.2 rfl
  refine begins.bind fun _ => ?_
  refine guarantees_request.bind fun answer => ?_
  have ended : (finish call.connection answer.isOk).Guarantees (Allowed call) (Relies call.connection)
      (Promises casefold call) (fun _ database => Free call.connection database ∧ Ends call answer database)
      (fun database => Safe casefold call database ∧ Ends call answer database) :=
    guarantees_finish (stable_ends answer) (fun database facts => facts.1) fun database facts =>
      ends_of_rows facts.2 (promises_finish _ facts.1).moves.rows
  exact ended.bind fun _ => Script.guarantees_pure fun database facts => facts.2

theorem sound_contract (casefold : Text → Text) :
    (contract casefold).Sound (Call.script casefold) where
  relies call other before after different promised :=
    { held := fun tables held => promised.waits _ tables held (Ne.symm different)
      free := fun free tables held => free tables (promised.own _ tables held (Ne.symm different))
      rows := promised.moves.rows }
  stable call := Script.stable_and (stable_pure _ _) (stable_free call.connection)
  guarantees call := by
    rw [Call.script]
    split
    · exact guarantees_immediate.mono fun database starts => starts.2
    · next unwrapped =>
        cases own : call.request with
        | rename now id title =>
          refine Script.Guarantees.bind (guarantees_rename now id title own
            fun database starts => safe_of_free (And.right starts)) fun row => ?_
          refine Script.guarantees_pure fun database safe => ?_
          have ends : Ends call (.ok row) database := by
            rw [Ends, own]
            exact ⟨row, rfl⟩
          exact ends
        | ensure now id title binding =>
          refine Script.guarantees_of_false _ fun database starts => ?_
          rcases starts.1 with wrapped | plain
          · exact unwrapped wrapped
          · rw [own] at plain
            exact plain
        | touch now id titleHint binding =>
          refine Script.guarantees_of_false _ fun database starts => ?_
          rcases starts.1 with wrapped | plain
          · exact unwrapped wrapped
          · rw [own] at plain
            exact plain
        | saveModelBinding now threadId binding alsoLast create =>
          refine Script.guarantees_of_false _ fun database starts => ?_
          rcases starts.1 with wrapped | plain
          · exact unwrapped wrapped
          · rw [own] at plain
            exact plain

/-- The jobs of any number of connections to one file. -/
def storePool (casefold : Text → Text) : Machine (Pool Call Statement Database Answer) (PoolStep Call) :=
  Pool.machine (Call.script casefold)

/-- In runs that a contract schedules, no title that a rename gave and no binding is lost, and no call that
has ended raised. -/
structure Isolated (casefold : Text → Text) (own : Pool.Contract Call Statement Database Answer)
    (pool : Pool Call Statement Database Answer) : Prop where
  titles : ∀ id row labels later, pool.shared.committed.get id = some row →
    isDefaultSessionTitle casefold row.title id = false →
    (storePool casefold).Guarded (fun pool label => own.Scheduled pool label ∧
      Pool.Contract.Avoids (fun call : Call => call.request.Renames id) pool label) pool labels →
    (storePool casefold).run pool labels = some later →
      ∃ final, later.shared.committed.get id = some final ∧ final.title = row.title
  bindings : ∀ id row labels later, pool.shared.committed.get id = some row →
    (storePool casefold).Guarded (fun pool label => own.Scheduled pool label ∧
      Pool.Contract.Avoids (fun call : Call => call.request.Binds id) pool label) pool labels →
    (storePool casefold).run pool labels = some later →
      ∃ final, later.shared.committed.get id = some final ∧ final.binding = row.binding
  answers : ∀ call answer, (⟨call, .done answer⟩ : Job Call Statement Database Answer) ∈ pool.jobs →
    Ends call answer pool.shared

/-- When all calls but renames are within `immediate` and touches find their rows, calls on connections of
their own do not lose each other's updates. -/
theorem calls_isolated (casefold : Text → Text) (tables : Tables) (labels : List (PoolStep Call))
    (pool : Pool Call Statement Database Answer)
    (scheduled : (storePool casefold).Guarded (contract casefold).Scheduled ⟨⟨tables, none⟩, []⟩ labels)
    (ran : (storePool casefold).run ⟨⟨tables, none⟩, []⟩ labels = some pool) :
    Isolated casefold (contract casefold) pool := by
  have sound := sound_contract casefold
  have secure := Pool.Contract.Secure.run sound (Pool.Contract.secure_start _) scheduled ran
  refine ⟨fun id row labels later found plain allowed went => ?_,
    fun id row labels later found allowed went => ?_, fun call answer mem => secure.post mem⟩
  · have keeps (call : Call) (before after : Database) (renames : ¬ call.request.Renames id)
        (promised : Promises casefold call before after)
        (holds : ∃ final, before.committed.get id = some final ∧ final.title = row.title) :
        ∃ final, after.committed.get id = some final ∧ final.title = row.title := by
      rcases holds with ⟨current, stored, same⟩
      rcases promised.moves id current stored with ⟨final, kept, _, titled, _⟩
      exact ⟨final, kept, by rw [titled renames (same ▸ plain), same]⟩
    exact secure.run_avoiding sound keeps allowed went ⟨row, found, rfl⟩
  · have keeps (call : Call) (before after : Database) (binds : ¬ call.request.Binds id)
        (promised : Promises casefold call before after)
        (holds : ∃ final, before.committed.get id = some final ∧ final.binding = row.binding) :
        ∃ final, after.committed.get id = some final ∧ final.binding = row.binding := by
      rcases holds with ⟨current, stored, same⟩
      rcases promised.moves id current stored with ⟨final, kept, _, _, bound⟩
      exact ⟨final, kept, by rw [bound binds, same]⟩
    exact secure.run_avoiding sound keeps allowed went ⟨row, found, rfl⟩

/-! ### Concrete runs -/

instance (connection : ℕ) (database : Database) : Decidable (Free connection database) :=
  decidable_of_iff (∀ holder ∈ database.transaction.map Prod.fst, holder ≠ connection) (by
    constructor
    · intro others tables held
      exact others connection (by rw [held]; rfl) rfl
    · rintro free holder mem rfl
      rcases Option.map_eq_some_iff.1 mem with ⟨⟨_, tables⟩, held, rfl⟩
      exact free tables held)

instance (call : Call) (statement : Statement) (database : Database) :
    Decidable (Allowed call statement database) :=
  inferInstanceAs (Decidable (statement.Admitted database ∧
    (statement.begins = true → call.request.Finds database.committed)))

instance (casefold : Text → Text) (call other : Call) : Decidable ((contract casefold).compatible call other) :=
  inferInstanceAs (Decidable (call.connection ≠ other.connection))

instance (casefold : Text → Text) (call : Call) (database : Database) :
    Decidable ((contract casefold).starts call database) :=
  inferInstanceAs (Decidable ((call.wrapped = true ∨ call.request.Plain) ∧ Free call.connection database))

instance (casefold : Text → Text) (call : Call) (statement : Statement) (database : Database) :
    Decidable ((contract casefold).guard call statement database) :=
  inferInstanceAs (Decidable (Allowed call statement database))

/-- Two calls ensure one session; the second begins when the first has committed. -/
def ensureTwice : List (PoolStep Call) :=
  [.call ⟨0, true, .ensure [] (Text.ofString "a") none {}⟩, .call ⟨1, true, .ensure [] (Text.ofString "a") none {}⟩] ++
    (List.replicate 5 0 ++ List.replicate 3 1).map .advance

theorem calls_isolated_ensures : ∃ pool, (storePool id).run ⟨⟨{}, none⟩, []⟩ ensureTwice = some pool ∧
    Isolated id (contract id) pool :=
  ⟨_, rfl, calls_isolated id {} ensureTwice _ (by decide) rfl⟩

/-- The schedules that connections of their own and the write lock allow. -/
def locked (casefold : Text → Text) : Pool.Contract Call Statement Database Answer :=
  { contract casefold with
    starts := fun call database => Free call.connection database
    guard := fun _ statement database => statement.Admitted database }

instance (casefold : Text → Text) (call other : Call) : Decidable ((locked casefold).compatible call other) :=
  inferInstanceAs (Decidable (call.connection ≠ other.connection))

instance (casefold : Text → Text) (call : Call) (database : Database) :
    Decidable ((locked casefold).starts call database) :=
  inferInstanceAs (Decidable (Free call.connection database))

instance (casefold : Text → Text) (call : Call) (statement : Statement) (database : Database) :
    Decidable ((locked casefold).guard call statement database) :=
  inferInstanceAs (Decidable (statement.Admitted database))

/-- A session without a title of its own. -/
def placeholderTables : Tables :=
  { sessions := [createdSession [] (Text.ofString "a") none {}] }

/-- A touch reads the row, and then a rename reads, writes and commits. -/
def touchThenRename : List (PoolStep Call) :=
  [.call ⟨0, false, .touch [] (Text.ofString "a") (some (Text.ofString "hello")) {}⟩,
    .call ⟨1, false, .rename [] (Text.ofString "a") (Text.ofString "notes")⟩] ++ [0, 1, 1, 1].map .advance

/-- The touch goes on with what it read, and the rename is undone. -/
theorem rename_undone : ¬ ∀ (casefold : Text → Text) (tables : Tables) (labels : List (PoolStep Call))
    (pool : Pool Call Statement Database Answer),
    (storePool casefold).Guarded (locked casefold).Scheduled ⟨⟨tables, none⟩, []⟩ labels →
      (storePool casefold).run ⟨⟨tables, none⟩, []⟩ labels = some pool →
        Isolated casefold (locked casefold) pool := by
  intro all
  have isolated := all id placeholderTables touchThenRename _ (by decide) rfl
  rcases isolated.titles (Text.ofString "a") _ ([0, 0].map .advance) _ rfl (by decide)
    (by decide) rfl with ⟨final, found, same⟩
  cases found
  exact absurd same (by decide)

end Synapse.Metadata
