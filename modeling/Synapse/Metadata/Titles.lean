import Synapse.Metadata.SessionStore

/-!
# Titles that users give

Operations follow each other on one store. Next to the tables stand the titles that were given by a rename or
bound from a message, and the sessions that received a hint or a rename.
-/

namespace Synapse.Metadata

open List

/-! ### Rows by key -/

namespace Tables

variable {tables : Tables} {id other : Text} {row info : SessionInfo} {change : SessionInfo → SessionInfo}

/-- The key of a row is primary. -/
def Keyed (tables : Tables) : Prop := (tables.sessions.map SessionInfo.threadId).Nodup

theorem threadId_of_get (found : tables.get id = some row) : row.threadId = id := by
  have holds := find?_some found
  exact of_decide_eq_true holds

theorem get_of_mem (keyed : tables.Keyed) (mem : row ∈ tables.sessions) : tables.get row.threadId = some row := by
  cases found : tables.get row.threadId with
  | none => exact absurd (decide_eq_true rfl) (find?_eq_none.1 found row mem)
  | some other =>
    have same := inj_on_of_nodup_map keyed (mem_of_find?_eq_some found) mem (threadId_of_get found)
    rw [same]

theorem get_update (keeps : ∀ row, (change row).threadId = row.threadId) :
    (tables.update id change).get other = (tables.get other).map fun row =>
      if other = id then change row else row := by
  have key (row : SessionInfo) : (if row.threadId = id then change row else row).threadId = row.threadId := by
    split
    · exact keeps row
    · rfl
  rw [get, update, find?_map, get]
  have same : (fun row : SessionInfo => decide (row.threadId = other)) ∘
      (fun row => if row.threadId = id then change row else row) =
        fun row => decide (row.threadId = other) := funext fun row => by rw [Function.comp, key]
  rw [same]
  cases found : tables.sessions.find? fun row => decide (row.threadId = other) with
  | none => rfl
  | some row =>
    have named : row.threadId = other := threadId_of_get found
    rw [Option.map_some, Option.map_some, named]

theorem get_insert (fresh : tables.get info.threadId = none) : (tables.insert info).get other =
    if other = info.threadId then some info else tables.get other := by
  rw [get, insert, find?_append]
  split
  · next same =>
      rw [same]
      have missing : tables.sessions.find? (fun row => decide (row.threadId = info.threadId)) = none := fresh
      rw [missing, find?_singleton, Option.none_or, if_pos (decide_eq_true rfl)]
  · next different =>
      rw [find?_singleton, if_neg fun same => different (of_decide_eq_true same).symm, Option.or_none, get]

theorem keyed_insert (keyed : tables.Keyed) (fresh : tables.get info.threadId = none) :
    (tables.insert info).Keyed := by
  rw [Keyed, insert, map_append, map_singleton]
  refine Nodup.append keyed (nodup_singleton _) ?_
  rw [disjoint_singleton]
  intro mem
  rcases mem_map.1 mem with ⟨row, present, same⟩
  exact find?_eq_none.1 fresh row present (decide_eq_true same)

theorem keyed_update (keyed : tables.Keyed) (keeps : ∀ row, (change row).threadId = row.threadId) :
    (tables.update id change).Keyed := by
  have same : (tables.update id change).sessions.map SessionInfo.threadId =
      tables.sessions.map SessionInfo.threadId := by
    rw [update, map_map]
    refine map_congr_left fun row _ => ?_
    rw [Function.comp]
    split
    · exact keeps row
    · rfl
  rw [Keyed, same]
  exact keyed

theorem get_delete : (tables.delete id).get other = if other = id then none else tables.get other := by
  rw [get, delete, find?_filter]
  split
  · next same =>
      rw [find?_eq_none]
      intro row _ both
      simp only [decide_not, Bool.not_eq_true', decide_eq_false_iff_not,
        decide_eq_true_iff, same] at both
      exact both.1 both.2
  · next different =>
      rw [get]
      congr 1
      funext row
      by_cases named : row.threadId = other
      · simp [named, different]
      · simp [named]

theorem keyed_delete (keyed : tables.Keyed) : (tables.delete id).Keyed :=
  keyed.sublist (List.filter_sublist.map _)

end Tables

/-! ### Operations on one connection -/

section

variable {connection : ℕ} {tables : Tables} {casefold : Text → Text} {now id : Text} {title : Option Text}
  {binding : ModelBinding}

@[simp]
theorem view_free (tables : Tables) : Database.view ⟨tables, none⟩ connection = tables := rfl

@[simp]
theorem view_held (committed tables : Tables) :
    Database.view ⟨committed, some (connection, tables)⟩ connection = tables := if_pos rfl

/-- Without a transaction, a statement that writes and the commit after it change the tables. -/
theorem run_execute_commit {Value Result : Type} (action : Tables → Tables × Value) (rest : Value → Sql Result) :
    (execute connection action >>= fun value => commit connection >>= fun _ => rest value).run ⟨tables, none⟩ =
      (rest (action tables).2).run ⟨(action tables).1, none⟩ := by
  simp [execute, commit, finish, Database.finish]

@[simp]
theorem run_get : (get connection id).run ⟨tables, none⟩ = (⟨tables, none⟩, tables.get id) := rfl

/-- The tables after `ensure`. -/
def ensured (tables : Tables) (now id : Text) (title : Option Text) (binding : ModelBinding) : Tables :=
  match tables.get id with
  | some _ => tables
  | none => tables.insert (createdSession now id title binding)

theorem run_ensure : (ensure connection now id title binding).run ⟨tables, none⟩ =
    (⟨ensured tables now id title binding, none⟩,
      .ok ((tables.get id).getD (createdSession now id title binding))) := by
  rw [ensure, Script.run_bind, run_get]
  cases found : tables.get id with
  | some existing => simp [ensured, found]
  | none =>
    have fresh : tables.get (createdSession now id title binding).threadId = none := found
    simp [ensured, found, insert, Tables.insertNew, execute, commit, finish, Database.finish, fresh]

theorem get_ensured {other : Text} : (ensured tables now id title binding).get other =
    if other = id then some ((tables.get id).getD (createdSession now id title binding)) else tables.get other := by
  cases found : tables.get id with
  | some existing =>
    simp only [ensured, found]
    split
    · next same => rw [same, found, Option.getD_some]
    · rfl
  | none =>
    simp only [ensured, found]
    exact Tables.get_insert found

theorem keyed_ensured (keyed : tables.Keyed) : (ensured tables now id title binding).Keyed := by
  cases found : tables.get id with
  | some existing =>
    simp only [ensured, found]
    exact keyed
  | none =>
    simp only [ensured, found]
    exact Tables.keyed_insert keyed found

/-- The tables after `touch`. -/
def touched (tables : Tables) (casefold : Text → Text) (now id : Text) (titleHint : Option Text)
    (binding : ModelBinding) : Tables :=
  (ensured tables now id titleHint binding).update id fun row =>
    { row.bind binding with
      updatedAt := now
      title := touchedTitle casefold id
        ((tables.get id).getD (createdSession now id titleHint binding)).title titleHint }

theorem run_touch : (touch connection casefold now id title binding).run ⟨tables, none⟩ =
    (⟨touched tables casefold now id title binding, none⟩,
      .ok ((touched tables casefold now id title binding).get id)) := by
  rw [touch, Script.run_bind, run_ensure]
  simp [update, execute, commit, finish, Database.finish, touched]

/-- The tables after `rename`. -/
def renamed (tables : Tables) (now id title : Text) : Tables :=
  match tables.get id with
  | none => tables
  | some _ => tables.update id fun row => { row with title := renamedTitle id title, updatedAt := now }

theorem run_rename {title : Text} : ((rename connection now id title).run ⟨tables, none⟩).1 =
    ⟨renamed tables now id title, none⟩ := by
  rw [rename, Script.run_bind, run_get]
  cases found : tables.get id with
  | none => simp [renamed, found]
  | some row => simp [renamed, found, update, execute, commit, finish, Database.finish]

theorem run_alsoSetLast {alsoLast : Bool} : ∃ last,
    (alsoSetLast connection binding alsoLast).run ⟨tables, none⟩ =
      (⟨{ tables with lastModelBinding := last }, none⟩, ()) := by
  rw [alsoSetLast, setLastModelBinding]
  split
  · split
    · exact ⟨some binding, by simp [execute, commit, finish, Database.finish]⟩
    · exact ⟨tables.lastModelBinding, rfl⟩
  · exact ⟨tables.lastModelBinding, rfl⟩

/-- The tables after the row of a binding is written. -/
def bound (tables : Tables) (now id : Text) (binding : ModelBinding) : Tables :=
  (ensured tables now id none { model := binding.model }).update id fun row =>
    { row.bind binding with updatedAt := now }

theorem run_skipsMissing {create : Bool} : ((skipsMissing connection id create).run ⟨tables, none⟩).1 =
    ⟨tables, none⟩ := by
  rw [skipsMissing]
  split <;> rfl

/-- `save_model_binding` writes no row, or that of the binding. -/
theorem run_saveModelBinding {threadId : Option Text} {alsoLast create : Bool} : ∃ after,
    ((saveModelBinding connection now threadId binding alsoLast create).run ⟨tables, none⟩).1 = ⟨after, none⟩ ∧
      (after.sessions = tables.sessions ∨ ∃ id, after.sessions = (bound tables now id binding).sessions) := by
  unfold saveModelBinding
  split
  · exact ⟨tables, rfl, Or.inl rfl⟩
  · have unbound : ∃ after, ((alsoSetLast connection binding alsoLast >>= fun _ =>
        (pure (.ok false) : Sql (Except StoreError Bool))).run ⟨tables, none⟩).1 = ⟨after, none⟩ ∧
          (after.sessions = tables.sessions ∨ ∃ id, after.sessions = (bound tables now id binding).sessions) := by
      rcases @run_alsoSetLast connection tables binding alsoLast with ⟨last, saved⟩
      rw [Script.run_bind, saved]
      exact ⟨_, rfl, Or.inl rfl⟩
    split
    · exact unbound
    · exact unbound
    · next id _ =>
        rw [Script.run_bind, run_skipsMissing]
        split
        · exact ⟨tables, rfl, Or.inl rfl⟩
        · rcases @run_alsoSetLast connection (bound tables now id binding) binding alsoLast with ⟨last, saved⟩
          refine ⟨{ bound tables now id binding with lastModelBinding := last }, ?_, Or.inr ⟨id, rfl⟩⟩
          rw [Script.run_bind, run_ensure]
          simp only [update]
          rw [run_execute_commit]
          rw [Script.run_bind]
          exact congrArg Prod.fst saved

theorem run_delete : (delete connection id).run ⟨tables, none⟩ =
    (⟨tables.delete id, none⟩, (tables.get id).isSome) := by
  simp [delete, execute, commit, finish, Database.finish]

theorem run_pruneItems (items : List SessionInfo) : ∃ after deleted,
    (pruneItems connection items).run ⟨tables, none⟩ = (⟨after, none⟩, deleted) ∧
      (tables.Keyed → after.Keyed) ∧ deleted ⊆ items.map SessionInfo.threadId ∧
      ∀ id, after.get id = if id ∈ items.map SessionInfo.threadId then none else tables.get id := by
  induction items generalizing tables with
  | nil => exact ⟨tables, [], rfl, fun keyed => keyed, nil_subset _, fun id => rfl⟩
  | cons item items ih =>
    rcases @ih (tables.delete item.threadId) with ⟨after, deleted, ran, keyed, fewer, gets⟩
    refine ⟨after, if (tables.get item.threadId).isSome then item.threadId :: deleted else deleted, ?_,
      fun own => keyed (Tables.keyed_delete own), ?_, ?_⟩
    · rw [pruneItems, Script.run_bind, run_delete, Script.run_bind, ran]
      rfl
    · rw [map_cons]
      split
      · exact cons_subset_cons _ fewer
      · exact subset_cons_of_subset _ fewer
    · intro id
      rw [gets id, Tables.get_delete, map_cons]
      by_cases own : id = item.threadId
      · simp [own]
      · simp [own]

theorem run_pruneEmpty {exceptIds : List Text} {limit : ℤ} (keyed : tables.Keyed) : ∃ after deleted,
    (pruneEmpty connection casefold exceptIds limit).run ⟨tables, none⟩ = (⟨after, none⟩, deleted) ∧
      after.Keyed ∧ (∀ id ∈ deleted, ∃ row, tables.get id = some row ∧
        isDefaultSessionTitle casefold row.title id = true) ∧
      ∀ id row, tables.get id = some row → isDefaultSessionTitle casefold row.title id = false →
        after.get id = some row := by
  let items := ((tables.sessions.insertionSort fun first second => second.updatedAt ≤ first.updatedAt).take
    (max 1 (max 1 limit)).toNat).filter fun item =>
      prunes casefold (exceptIds.filter (· ≠ [])) item
  have placeholder : ∀ id ∈ items.map SessionInfo.threadId, ∃ row, tables.get id = some row ∧
      isDefaultSessionTitle casefold row.title id = true := by
    intro id mem
    rcases mem_map.1 mem with ⟨row, present, rfl⟩
    rcases mem_filter.1 present with ⟨listed, pruned⟩
    have stored := (mem_insertionSort _).1 (mem_of_mem_take listed)
    rw [prunes, Bool.and_eq_true, Bool.and_eq_true] at pruned
    exact ⟨row, Tables.get_of_mem keyed stored, pruned.1.2⟩
  rcases @run_pruneItems connection tables items with ⟨after, deleted, ran, keeps, fewer, gets⟩
  refine ⟨after, deleted, ?_, keeps keyed, fun id mem => placeholder id (fewer mem), ?_⟩
  · rw [pruneEmpty, Script.run_bind]
    exact ran
  · intro id row found named
    rw [gets id, if_neg, found]
    intro mem
    rcases placeholder id mem with ⟨other, same, default⟩
    rw [found] at same
    cases same
    rw [named] at default
    cases default

end

/-! ### Runs -/

inductive Op where
  | ensure (now threadId : Text) (title : Option Text) (binding : ModelBinding)
  | touch (now threadId : Text) (titleHint : Option Text) (binding : ModelBinding)
  | rename (now threadId title : Text)
  | saveModelBinding (now : Text) (threadId : Option Text) (binding : ModelBinding) (alsoLast create : Bool)
  | pruneEmpty (exceptIds : List Text) (limit : ℤ)

/-- The tables after an operation on a connection of its own. -/
def Op.tables (casefold : Text → Text) (op : Op) (tables : Tables) : Tables :=
  let database : Database := ⟨tables, none⟩
  match op with
  | .ensure now threadId title binding => ((Metadata.ensure 0 now threadId title binding).run database).1.committed
  | .touch now threadId titleHint binding =>
    ((Metadata.touch 0 casefold now threadId titleHint binding).run database).1.committed
  | .rename now threadId title => ((Metadata.rename 0 now threadId title).run database).1.committed
  | .saveModelBinding now threadId binding alsoLast create =>
    ((Metadata.saveModelBinding 0 now threadId binding alsoLast create).run database).1.committed
  | .pruneEmpty exceptIds limit => ((Metadata.pruneEmpty 0 casefold exceptIds limit).run database).1.committed

/-- The tables, the title that each session was given, and whether it received a hint or a rename. -/
structure Given where
  tables : Tables := {}
  titled : Text → Option Text := fun _ => none
  hinted : Text → Bool := fun _ => false

/-- Whether a session has no row, or one with a placeholder. -/
def unnamed (casefold : Text → Text) (tables : Tables) (threadId : Text) : Bool :=
  (tables.get threadId).all fun row => isDefaultSessionTitle casefold row.title threadId

/-- The title that an operation gives. -/
def Op.gives (casefold : Text → Text) (given : Given) : Op → Option (Text × Text)
  | .touch _ threadId titleHint _ =>
    if given.titled threadId = none ∧ unnamed casefold given.tables threadId then
      (titleFromUserMessage titleHint).map fun hint => (threadId, hint)
    else none
  | .rename _ threadId title =>
    (given.tables.get threadId).map fun _ => (threadId, renamedTitle threadId title)
  | _ => none

/-- The session that an operation hints at or renames. -/
def Op.hints (given : Given) : Op → Option Text
  | .touch _ threadId titleHint _ => titleHint.map fun _ => threadId
  | .rename _ threadId _ => (given.tables.get threadId).map fun _ => threadId
  | _ => none

def Given.next (casefold : Text → Text) (given : Given) (op : Op) : Given where
  tables := op.tables casefold given.tables
  titled := match op.gives casefold given with
    | some (threadId, title) => Function.update given.titled threadId (some title)
    | none => given.titled
  hinted := match op.hints given with
    | some threadId => Function.update given.hinted threadId true
    | none => given.hinted

def titleMachine (casefold : Text → Text) : Machine Given Op where
  step given op := some (given.next casefold op)

/-- A rename of a row, and a hint for a session without a title, give a title that is no placeholder. -/
def Names (casefold : Text → Text) (given : Given) : Op → Prop
  | .touch _ threadId titleHint _ => titleHint ≠ none → unnamed casefold given.tables threadId = true →
      ∃ hint, titleFromUserMessage titleHint = some hint ∧ isDefaultSessionTitle casefold hint threadId = false
  | .rename _ threadId title => given.tables.get threadId ≠ none →
      isDefaultSessionTitle casefold (renamedTitle threadId title) threadId = false
  | _ => True

instance (casefold : Text → Text) (given : Given) : ∀ op, Decidable (Names casefold given op)
  | .touch _ threadId titleHint _ =>
    inferInstanceAs (Decidable (titleHint ≠ none → unnamed casefold given.tables threadId = true →
      ∃ hint, titleFromUserMessage titleHint = some hint ∧
        isDefaultSessionTitle casefold hint threadId = false))
  | .rename _ threadId title =>
    inferInstanceAs (Decidable (given.tables.get threadId ≠ none →
      isDefaultSessionTitle casefold (renamedTitle threadId title) threadId = false))
  | .ensure .. | .saveModelBinding .. | .pruneEmpty .. => isTrue trivial

/-- What was given to a session is its title, and a session that received a hint or a rename is kept. -/
structure TitlesKept (casefold : Text → Text) (given : Given) : Prop where
  titled : ∀ id title, given.titled id = some title →
    ∃ row, given.tables.get id = some row ∧ row.title = title
  hinted : ∀ id, given.hinted id = true → (given.tables.get id).isSome = true
  pruned : ∀ exceptIds limit,
    ∀ id ∈ ((pruneEmpty 0 casefold exceptIds limit).run ⟨given.tables, none⟩).2,
      given.hinted id = false ∧ given.titled id = none

/-- The titles that were given are in the rows, and no placeholders. -/
structure Titled (casefold : Text → Text) (given : Given) : Prop where
  keyed : given.tables.Keyed
  titled : ∀ id title, given.titled id = some title →
    ∃ row, given.tables.get id = some row ∧ row.title = title
  named : ∀ id, given.titled id ≠ none ∨ given.hinted id = true →
    ∃ row, given.tables.get id = some row ∧ isDefaultSessionTitle casefold row.title id = false

variable {casefold : Text → Text} {given : Given}

theorem Titled.kept (titled : Titled casefold given) : TitlesKept casefold given where
  titled := titled.titled
  hinted id hinted := by
    rcases titled.named id (Or.inr hinted) with ⟨row, found, _⟩
    rw [found, Option.isSome_some]
  pruned exceptIds limit id mem := by
    rcases @run_pruneEmpty 0 given.tables casefold exceptIds limit titled.keyed with
      ⟨after, deleted, ran, _, placeholder, _⟩
    rw [ran] at mem
    rcases placeholder id mem with ⟨row, found, default⟩
    have unnamed : ¬ (given.titled id ≠ none ∨ given.hinted id = true) := by
      intro named
      rcases titled.named id named with ⟨other, same, plain⟩
      rw [found] at same
      cases same
      rw [plain] at default
      cases default
    rw [not_or, not_not, Bool.not_eq_true] at unnamed
    exact ⟨unnamed.2, unnamed.1⟩

/-! ### Steps -/

/-- Tables that keep the titles that are no placeholders keep what was given. -/
theorem Titled.of_keeps (titled : Titled casefold given) {after : Tables} (keyed : after.Keyed)
    (keeps : ∀ id row, given.tables.get id = some row → isDefaultSessionTitle casefold row.title id = false →
      ∃ later, after.get id = some later ∧ later.title = row.title) :
    Titled casefold { given with tables := after } where
  keyed := keyed
  titled id title found := by
    rcases titled.titled id title found with ⟨row, stored, rfl⟩
    rcases titled.named id (Or.inl (found ▸ Option.some_ne_none _)) with ⟨other, same, plain⟩
    cases stored.symm.trans same
    exact keeps id row stored plain
  named id named := by
    rcases titled.named id named with ⟨row, stored, plain⟩
    rcases keeps id row stored plain with ⟨later, found, same⟩
    exact ⟨later, found, by rw [same, plain]⟩

theorem Titled.give (titled : Titled casefold given) {id : Text} {row : SessionInfo}
    (found : given.tables.get id = some row) (plain : isDefaultSessionTitle casefold row.title id = false) :
    Titled casefold { given with titled := Function.update given.titled id (some row.title) } where
  keyed := titled.keyed
  titled other title own := by
    by_cases same : other = id
    · subst same
      have given_title : Function.update given.titled other (some row.title) other = some title := own
      rw [Function.update_self, Option.some.injEq] at given_title
      exact ⟨row, found, given_title⟩
    · have elsewhere : Function.update given.titled id (some row.title) other = some title := own
      rw [Function.update_of_ne same] at elsewhere
      exact titled.titled other title elsewhere
  named other named := by
    by_cases same : other = id
    · subst same
      exact ⟨row, found, plain⟩
    · have elsewhere : Function.update given.titled id (some row.title) other ≠ none ∨
          given.hinted other = true := named
      rw [Function.update_of_ne same] at elsewhere
      exact titled.named other elsewhere

theorem Titled.hint (titled : Titled casefold given) {id : Text} {row : SessionInfo}
    (found : given.tables.get id = some row) (plain : isDefaultSessionTitle casefold row.title id = false) :
    Titled casefold { given with hinted := Function.update given.hinted id true } where
  keyed := titled.keyed
  titled := titled.titled
  named other named := by
    by_cases same : other = id
    · subst same
      exact ⟨row, found, plain⟩
    · have elsewhere : given.titled other ≠ none ∨ Function.update given.hinted id true other = true := named
      rw [Function.update_of_ne same] at elsewhere
      exact titled.named other elsewhere

section

variable {tables : Tables} {now id : Text} {titleHint : Option Text} {binding : ModelBinding}

theorem title_short {hint : Text} (found : titleFromUserMessage titleHint = some hint) : hint.length ≤ 80 := by
  unfold titleFromUserMessage at found
  split at found
  · cases found
  · cases found
  · dsimp only at found
    rw [Option.ite_none_left_eq_some, Option.some.injEq] at found
    rw [← found.2]
    exact length_take_le 80 _

theorem createdTitle_hint {hint : Text} (found : titleFromUserMessage titleHint = some hint) :
    createdTitle id titleHint = hint := by
  have short := title_short found
  simp only [createdTitle, found]
  exact take_of_length_le (by omega)

theorem get_touched {other : Text} : (touched tables casefold now id titleHint binding).get other =
    if other = id then
      some { ((tables.get id).getD (createdSession now id titleHint binding)).bind binding with
        updatedAt := now
        title := touchedTitle casefold id
          ((tables.get id).getD (createdSession now id titleHint binding)).title titleHint }
    else tables.get other := by
  have keeps (row : SessionInfo) : { row.bind binding with
      updatedAt := now
      title := touchedTitle casefold id
        ((tables.get id).getD (createdSession now id titleHint binding)).title titleHint }.threadId =
          row.threadId := rfl
  rw [touched, Tables.get_update keeps, get_ensured]
  split
  · rfl
  · exact Option.map_id'

/-- A hint for a session without a title becomes its title. -/
theorem touched_binds {hint : Text} (found : titleFromUserMessage titleHint = some hint)
    (free : unnamed casefold tables id = true) :
    ∃ row, (touched tables casefold now id titleHint binding).get id = some row ∧ row.title = hint := by
  rw [get_touched, if_pos rfl]
  refine ⟨_, rfl, ?_⟩
  simp only [touchedTitle, found]
  split
  · rfl
  · next named =>
      cases stored : tables.get id with
      | none => exact createdTitle_hint found
      | some row =>
        rw [unnamed, stored, Option.all_some] at free
        rw [stored, Option.getD_some] at named
        exact absurd free named

theorem touched_keeps {row : SessionInfo} {other : Text} (found : tables.get other = some row)
    (plain : isDefaultSessionTitle casefold row.title other = false) :
    ∃ later, (touched tables casefold now id titleHint binding).get other = some later ∧
      later.title = row.title := by
  rw [get_touched]
  split
  · next same =>
      subst same
      refine ⟨_, rfl, ?_⟩
      simp only [found, Option.getD_some, touchedTitle, plain, Bool.false_eq_true, if_false]
      split <;> rfl
  · exact ⟨row, found, rfl⟩

theorem keyed_touched (keyed : tables.Keyed) : (touched tables casefold now id titleHint binding).Keyed :=
  Tables.keyed_update (keyed_ensured keyed) fun _ => rfl

end

/-- After a hint the session has a title that is no placeholder. -/
theorem touched_plain {now id : Text} {titleHint : Option Text} {binding : ModelBinding}
    (names : Names casefold given (.touch now id titleHint binding)) (hinted : titleHint ≠ none) :
    ∃ row, (touched given.tables casefold now id titleHint binding).get id = some row ∧
      isDefaultSessionTitle casefold row.title id = false := by
  cases free : unnamed casefold given.tables id with
  | true =>
    rcases names hinted free with ⟨hint, found, plain⟩
    rcases @touched_binds casefold given.tables now id titleHint binding hint found free with
      ⟨row, stored, rfl⟩
    exact ⟨row, stored, plain⟩
  | false =>
    cases stored : given.tables.get id with
    | none =>
      rw [unnamed, stored, Option.all_none] at free
      cases free
    | some row =>
      rw [unnamed, stored, Option.all_some] at free
      rcases @touched_keeps casefold given.tables now id titleHint binding row id stored free with
        ⟨later, found, same⟩
      exact ⟨later, found, by rw [same, free]⟩

theorem Titled.touch (titled : Titled casefold given) (now id : Text) (titleHint : Option Text)
    (binding : ModelBinding) (names : Names casefold given (.touch now id titleHint binding)) :
    Titled casefold (given.next casefold (.touch now id titleHint binding)) := by
  have tables : (Op.touch now id titleHint binding).tables casefold given.tables =
      touched given.tables casefold now id titleHint binding := by
    simp only [Op.tables, run_touch]
  have kept : Titled casefold
      { given with tables := touched given.tables casefold now id titleHint binding } :=
    titled.of_keeps (keyed_touched titled.keyed) fun other row => touched_keeps
  have titles : Titled casefold
      { given with
        tables := touched given.tables casefold now id titleHint binding
        titled := match (Op.touch now id titleHint binding).gives casefold given with
          | some (threadId, title) => Function.update given.titled threadId (some title)
          | none => given.titled } := by
    simp only [Op.gives]
    split
    · next threadId title own =>
        rcases Option.ite_none_right_eq_some.mp own with ⟨_, own⟩
        next free =>
          rcases Option.map_eq_some_iff.1 own with ⟨hint, found, same⟩
          cases same
          have hinted : titleHint ≠ none := by
            rintro rfl
            cases found
          rcases @touched_binds casefold given.tables now id titleHint binding title found free.2 with
            ⟨row, stored, rfl⟩
          rcases names hinted free.2 with ⟨other, same, plain⟩
          cases found.symm.trans same
          exact kept.give stored plain
    · exact kept
  rw [Given.next, tables]
  cases titleHint with
  | none => exact titles
  | some hint =>
    rcases touched_plain names (Option.some_ne_none hint) with ⟨row, stored, plain⟩
    exact titles.hint stored plain

/-- A rename gives a title to one session, and leaves the others as they are. -/
theorem Titled.rename (titled : Titled casefold given) (now id title : Text)
    (names : Names casefold given (.rename now id title)) :
    Titled casefold (given.next casefold (.rename now id title)) := by
  have tables : (Op.rename now id title).tables casefold given.tables = renamed given.tables now id title := by
    simp only [Op.tables, run_rename]
  rw [Given.next, tables]
  cases stored : given.tables.get id with
  | none =>
    simp only [renamed, Op.gives, Op.hints, stored, Option.map_none]
    exact titled
  | some row =>
    have plain := names (stored ▸ Option.some_ne_none row)
    simp only [renamed, Op.gives, Op.hints, stored, Option.map_some]
    let change (row : SessionInfo) : SessionInfo :=
      { row with title := renamedTitle id title, updatedAt := now }
    have keeps (row : SessionInfo) : (change row).threadId = row.threadId := rfl
    have own : (given.tables.update id change).get id = some (change row) := by
      rw [Tables.get_update keeps, stored, Option.map_some, if_pos rfl]
    have others {other : Text} (different : other ≠ id) :
        (given.tables.update id change).get other = given.tables.get other := by
      rw [Tables.get_update keeps]
      simp only [if_neg different, Option.map_id']
    refine ⟨Tables.keyed_update titled.keyed fun _ => rfl, fun other found given_title => ?_,
      fun other named => ?_⟩
    · dsimp only at given_title ⊢
      by_cases same : other = id
      · subst same
        rw [Function.update_self, Option.some.injEq] at given_title
        exact ⟨change row, own, given_title⟩
      · rw [Function.update_of_ne same] at given_title
        rw [others same]
        exact titled.titled other found given_title
    · dsimp only at named ⊢
      by_cases same : other = id
      · subst same
        exact ⟨change row, own, plain⟩
      · rw [Function.update_of_ne same, Function.update_of_ne same] at named
        rw [others same]
        exact titled.named other named

theorem Titled.ensure (titled : Titled casefold given) (now id : Text) (title : Option Text)
    (binding : ModelBinding) : Titled casefold (given.next casefold (.ensure now id title binding)) := by
  have tables : (Op.ensure now id title binding).tables casefold given.tables =
      ensured given.tables now id title binding := by
    simp only [Op.tables, run_ensure]
  rw [Given.next, tables]
  refine titled.of_keeps (keyed_ensured titled.keyed) fun other row stored _ => ⟨row, ?_, rfl⟩
  rw [get_ensured]
  split
  · next same =>
      subst same
      rw [stored, Option.getD_some]
  · exact stored

theorem Tables.get_of_sessions {tables other : Tables} (same : tables.sessions = other.sessions) (id : Text) :
    tables.get id = other.get id := by
  rw [Tables.get, Tables.get, same]

theorem Titled.saveModelBinding (titled : Titled casefold given) (now : Text) (threadId : Option Text)
    (binding : ModelBinding) (alsoLast create : Bool) :
    Titled casefold (given.next casefold (.saveModelBinding now threadId binding alsoLast create)) := by
  rcases @run_saveModelBinding 0 given.tables now binding threadId alsoLast create with ⟨after, ran, written⟩
  have tables : (Op.saveModelBinding now threadId binding alsoLast create).tables casefold given.tables =
      after := by
    simp only [Op.tables, ran]
  rw [Given.next, tables]
  rcases written with same | ⟨id, same⟩
  · refine titled.of_keeps ?_ fun other row stored _ => ⟨row, ?_, rfl⟩
    · rw [Tables.Keyed, same]
      exact titled.keyed
    · rw [Tables.get_of_sessions same, stored]
  · have keyed : (bound given.tables now id binding).Keyed :=
      Tables.keyed_update (keyed_ensured titled.keyed) fun _ => rfl
    refine titled.of_keeps ?_ fun other row stored _ => ?_
    · rw [Tables.Keyed, same]
      exact keyed
    · have keeps (row : SessionInfo) :
          { row.bind binding with updatedAt := now }.threadId = row.threadId := rfl
      rw [Tables.get_of_sessions same, bound, Tables.get_update keeps, get_ensured]
      split
      · next own =>
          subst own
          rw [stored]
          exact ⟨_, rfl, rfl⟩
      · rw [stored]
        exact ⟨_, rfl, rfl⟩

theorem Titled.pruneEmpty (titled : Titled casefold given) (exceptIds : List Text) (limit : ℤ) :
    Titled casefold (given.next casefold (.pruneEmpty exceptIds limit)) := by
  rcases @run_pruneEmpty 0 given.tables casefold exceptIds limit titled.keyed with
    ⟨after, deleted, ran, keyed, _, keeps⟩
  have tables : (Op.pruneEmpty exceptIds limit).tables casefold given.tables = after := by
    simp only [Op.tables, ran]
  rw [Given.next, tables]
  exact titled.of_keeps keyed fun other row stored plain => ⟨row, keeps other row stored plain, rfl⟩

theorem Titled.next (titled : Titled casefold given) (op : Op) (names : Names casefold given op) :
    Titled casefold (given.next casefold op) := by
  cases op with
  | ensure now id title binding => exact titled.ensure now id title binding
  | touch now id titleHint binding => exact titled.touch now id titleHint binding names
  | rename now id title => exact titled.rename now id title names
  | saveModelBinding now threadId binding alsoLast create =>
    exact titled.saveModelBinding now threadId binding alsoLast create
  | pruneEmpty exceptIds limit => exact titled.pruneEmpty exceptIds limit

theorem titled_start : Titled casefold {} where
  keyed := nodup_nil
  titled _ _ found := by cases found
  named _ named := by
    rcases named with given_title | hinted
    · exact absurd rfl given_title
    · cases hinted

/-- When renames and hints give titles that are no placeholders, what was given to a session stays its title
and the session is kept. -/
theorem titles_kept (casefold : Text → Text) {ops : List Op} {given : Given}
    (guarded : (titleMachine casefold).Guarded (Names casefold) {} ops)
    (ran : (titleMachine casefold).run {} ops = some given) : TitlesKept casefold given := by
  have titled : Titled casefold given := by
    refine Machine.run_invariant_of_guarded ?_ titled_start guarded ran
    intro state op next titled names stepped
    cases stepped
    exact titled.next op names
  exact titled.kept

/-- A session is renamed, hinted at, and survives a pruning that deletes another. -/
def sampleOps : List Op :=
  [.ensure [] (Text.ofString "a") none {}, .ensure [] (Text.ofString "b") none {},
    .rename [] (Text.ofString "a") (Text.ofString "notes"),
    .touch [] (Text.ofString "a") (some (Text.ofString "hello")) {}, .pruneEmpty [] 500]

theorem titles_kept_sample : TitlesKept id (sampleOps.foldl (Given.next id) {}) :=
  titles_kept id (show (titleMachine id).Guarded (Names id) {} sampleOps by decide) rfl

/-- A session is renamed to a text that looks like a placeholder, and the next message takes its place. -/
theorem rename_lost : ¬ ∀ (casefold : Text → Text) (ops : List Op) (given : Given),
    (titleMachine casefold).run {} ops = some given → TitlesKept casefold given := by
  intro all
  let given : Given := Given.next id (Given.next id {} (.ensure [] (Text.ofString "a") none {}))
    (.rename [] (Text.ofString "a") (Text.ofString "session notes"))
  have kept := all id [.ensure [] (Text.ofString "a") none {},
    .rename [] (Text.ofString "a") (Text.ofString "session notes"),
    .touch [] (Text.ofString "a") (some (Text.ofString "hello")) {}]
      (given.next id (.touch [] (Text.ofString "a") (some (Text.ofString "hello")) {})) rfl
  rcases kept.titled (Text.ofString "a") (Text.ofString "session notes") (by decide) with
    ⟨row, found, same⟩
  have title : ((given.next id (.touch [] (Text.ofString "a") (some (Text.ofString "hello")) {})).tables.get
      (Text.ofString "a")).map SessionInfo.title = some (Text.ofString "hello") := by decide
  rw [found, Option.map_some, same] at title
  exact absurd title (by decide)

end Synapse.Metadata
