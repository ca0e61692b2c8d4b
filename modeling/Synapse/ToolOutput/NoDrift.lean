import Synapse.ToolOutput.Rollup

/-!
# A rollup that does not drift

Every event that can be parsed is behind the cursor of no backfill without its projection. A projection is the
one of the current event as long as no event is replaced by another one while a backfill has read it.
-/

namespace Synapse.ToolOutput

open List

variable {Event Value Real Payload : Type} {host : EventHost Event Value Real Payload}

/-! ### Tables -/

section

variable {table : EventTable Payload} {row : EventRow Payload}

theorem EventTable.le_highWater (mem : row ∈ table.rows) : row.id ≤ table.highWater := by
  have bound (ids : List ℕ) (id : ℕ) (inside : id ∈ ids) : id ≤ ids.foldr max 0 := by
    induction ids with
    | nil => exact absurd inside not_mem_nil
    | cons first ids ih =>
      rcases mem_cons.1 inside with rfl | later
      · exact le_max_left _ _
      · exact (ih later).trans (le_max_right _ _)
  exact bound _ _ (mem_map_of_mem mem)

variable {eventJson : Payload}

theorem EventTable.mem_insertOrReplace {requestId threadId createdAt : Text}
    (mem : row ∈ (table.insertOrReplace requestId threadId eventJson createdAt).rows) :
    row ∈ table.rows ∧ row.requestId ≠ requestId ∨
      row = ⟨table.lastId + 1, requestId, threadId, eventJson, createdAt⟩ := by
  rcases mem_append.1 mem with old | new
  · exact Or.inl ⟨(mem_filter.1 old).1, of_decide_eq_true (mem_filter.1 old).2⟩
  · exact Or.inr (mem_singleton.1 new)

theorem EventTable.requested_insertOrReplace {requestId threadId createdAt : Text}
    (mem : row ∈ table.rows) :
    ∃ current ∈ (table.insertOrReplace requestId threadId eventJson createdAt).rows,
      current.requestId = row.requestId := by
  by_cases same : row.requestId = requestId
  · exact ⟨_, mem_append_right _ (mem_singleton_self _), same.symm⟩
  · exact ⟨row, mem_append_left _ (mem_filter.2 ⟨mem, decide_eq_true same⟩), rfl⟩

/-- In a sorted list, what is not behind the last row of a front is in it. -/
theorem mem_take_of_le {rows : List (EventRow Payload)} (sorted : rows.Pairwise fun first second => first.id < second.id)
    {limit : ℕ} {last : EventRow Payload} (ends : (rows.take limit).getLast? = some last) (mem : row ∈ rows)
    (le : row.id ≤ last.id) : row ∈ rows.take limit := by
  rw [← take_append_drop limit rows, mem_append] at mem
  rcases mem with front | back
  · exact front
  · rw [← take_append_drop limit rows, pairwise_append] at sorted
    have later := sorted.2.2 last (mem_of_getLast? ends) row back
    omega

end

section

variable {rollup : List (RollupRow Real)} {entry row : RollupRow Real}

theorem mem_insertRollup (mem : entry ∈ insertRollup rollup row) :
    entry ∈ rollup ∧ entry.requestId ≠ row.requestId ∨ entry = row := by
  rcases mem_append.1 mem with old | new
  · exact Or.inl ⟨(mem_filter.1 old).1, of_decide_eq_true (mem_filter.1 old).2⟩
  · exact Or.inr (mem_singleton.1 new)

variable {requestId : Text}

theorem requested_insertRollup :
    requestId ∈ (insertRollup rollup row).map RollupRow.requestId ↔
      requestId ∈ rollup.map RollupRow.requestId ∨ requestId = row.requestId := by
  rw [insertRollup, map_append, mem_append, map_singleton, mem_singleton]
  constructor
  · rintro (old | new)
    · rcases mem_map.1 old with ⟨entry, kept, rfl⟩
      exact Or.inl (mem_map_of_mem (mem_of_mem_filter kept))
    · exact Or.inr new
  · rintro (old | new)
    · by_cases same : requestId = row.requestId
      · exact Or.inr same
      · rcases mem_map.1 old with ⟨entry, kept, rfl⟩
        exact Or.inl (mem_map_of_mem (mem_filter.2 ⟨kept, decide_eq_true same⟩))
    · exact Or.inr new

theorem nodup_insertRollup (nodup : (rollup.map RollupRow.requestId).Nodup) :
    ((insertRollup rollup row).map RollupRow.requestId).Nodup := by
  rw [insertRollup, map_append, nodup_append]
  refine ⟨nodup.sublist (List.filter_sublist.map _), nodup_singleton _, ?_⟩
  intro first mem second new
  rcases mem_map.1 mem with ⟨entry, kept, rfl⟩
  rw [map_singleton, mem_singleton] at new
  rw [new]
  exact of_decide_eq_true (mem_filter.1 kept).2

variable {rows : List (RollupRow Real)}

theorem mem_insertAll (mem : entry ∈ rows.foldl insertRollup rollup) : entry ∈ rollup ∨ entry ∈ rows := by
  induction rows generalizing rollup with
  | nil => exact Or.inl mem
  | cons row rows ih =>
    rcases ih mem with inside | later
    · rcases mem_insertRollup inside with ⟨old, _⟩ | rfl
      · exact Or.inl old
      · exact Or.inr mem_cons_self
    · exact Or.inr (mem_cons_of_mem _ later)

theorem requested_insertAll :
    requestId ∈ (rows.foldl insertRollup rollup).map RollupRow.requestId ↔
      requestId ∈ rollup.map RollupRow.requestId ∨ requestId ∈ rows.map RollupRow.requestId := by
  induction rows generalizing rollup with
  | nil => exact ⟨Or.inl, fun old => old.elim id fun none => absurd none not_mem_nil⟩
  | cons row rows ih =>
    rw [foldl_cons, ih, requested_insertRollup, map_cons, mem_cons, or_assoc]

theorem nodup_insertAll (nodup : (rollup.map RollupRow.requestId).Nodup) :
    ((rows.foldl insertRollup rollup).map RollupRow.requestId).Nodup := by
  induction rows generalizing rollup with
  | nil => exact nodup
  | cons row rows ih => exact ih (nodup_insertRollup nodup)

end

/-! ### Projections -/

/-- The projection of a row, if it can be parsed -/
def rowProjection (host : EventHost Event Value Real Payload) (row : EventRow Payload) : Option (RollupRow Real) :=
  (host.loads row.eventJson).bind (projectionOf host row)

variable {entry : RollupRow Real}

theorem requestId_rollupRow {requestId threadId createdAt : Text} {event : Event}
    (made : rollupRow host requestId threadId createdAt event = some entry) : entry.requestId = requestId := by
  simp only [rollupRow, Option.bind_eq_bind, Option.bind_eq_some_iff, Option.pure_def, Option.some.injEq] at made
  rcases made with ⟨_, _, _, _, _, _, _, _, _, _, _, _, _, _, _, _, _, _, _, _, rfl⟩
  rfl

theorem requestId_projection {row : EventRow Payload}
    (own : rowProjection host row = some entry) : entry.requestId = row.requestId := by
  rcases Option.bind_eq_some_iff.1 own with ⟨event, _, made⟩
  exact requestId_rollupRow made

theorem mem_projected {rows : List (EventRow Payload)} {projections : List (RollupRow Real)}
    (made : projected host rows = some projections) :
    (∀ entry ∈ projections, ∃ row ∈ rows, rowProjection host row = some entry) ∧
      ∀ row ∈ rows, (host.loads row.eventJson).isSome = true →
        ∃ entry ∈ projections, rowProjection host row = some entry := by
  induction rows generalizing projections with
  | nil =>
    cases made
    exact ⟨fun _ mem => absurd mem not_mem_nil, fun _ mem => absurd mem not_mem_nil⟩
  | cons row rows ih =>
    rw [projected] at made
    cases parsed : host.loads row.eventJson with
    | none =>
      rw [parsed] at made
      rcases ih made with ⟨sound, complete⟩
      refine ⟨fun entry mem => ?_, fun other mem parses => ?_⟩
      · rcases sound entry mem with ⟨other, inside, own⟩
        exact ⟨other, mem_cons_of_mem _ inside, own⟩
      · rcases mem_cons.1 mem with rfl | later
        · rw [parsed] at parses
          cases parses
        · exact complete other later parses
    | some event =>
      rw [parsed] at made
      rcases Option.bind_eq_some_iff.1 made with ⟨first, own, made⟩
      rcases Option.bind_eq_some_iff.1 made with ⟨others, rest, made⟩
      cases made
      rcases ih rest with ⟨sound, complete⟩
      have projects : rowProjection host row = some first := by rw [rowProjection, parsed]; exact own
      refine ⟨fun entry mem => ?_, fun other mem parses => ?_⟩
      · rcases mem_cons.1 mem with rfl | later
        · exact ⟨row, mem_cons_self, projects⟩
        · rcases sound entry later with ⟨other, inside, own⟩
          exact ⟨other, mem_cons_of_mem _ inside, own⟩
      · rcases mem_cons.1 mem with rfl | later
        · exact ⟨first, mem_cons_self, projects⟩
        · rcases complete other later parses with ⟨entry, inside, own⟩
          exact ⟨entry, mem_cons_of_mem _ inside, own⟩

namespace RollupStore

variable {store next : RollupStore Real Payload} {label : RollupStep Event}

/-- What a step does to a store -/
inductive Change (host : EventHost Event Value Real Payload) (store : RollupStore Real Payload) :
    RollupStep Event → RollupStore Real Payload → Prop
  | refused (threadId requestId : Text) (event : Event) (created : Text) :
      Change host store (.recordModelRequest threadId requestId event created) store
  | recorded {threadId requestId : Text} {event : Event} {created : Text} {payload : Payload} {row : RollupRow Real}
      (dumped : host.dumps event = some payload) (made : rollupRow host requestId threadId created event = some row) :
      Change host store (.recordModelRequest threadId requestId event created) { store with
        events := store.events.insertOrReplace requestId threadId payload created
        rollup := insertRollup store.rollup row }
  | marked (backfill : ℕ) (thread : Bool) : Change host store (.highWater backfill thread)
      (store.setBackfill backfill (.marked (batchOf thread) store.events.highWater))
  | placed {backfill batch highWater : ℕ} (own : store.backfills backfill = .marked batch highWater) :
      Change host store (.readCursor backfill) (store.readCursor backfill batch highWater)
  | scanned {backfill batch highWater cursor : ℕ} (own : store.backfills backfill = .placed batch highWater cursor) :
      Change host store (.readRows backfill) (store.readRows backfill batch highWater cursor)
  | raised {backfill highWater : ℕ} {rows : List (EventRow Payload)}
      (own : store.backfills backfill = .scanned highWater rows) :
      Change host store (.writeRows backfill) (store.setBackfill backfill .raised)
  | written {backfill highWater : ℕ} {rows : List (EventRow Payload)} {projections : List (RollupRow Real)}
      (own : store.backfills backfill = .scanned highWater rows) (made : projected host rows = some projections) :
      Change host store (.writeRows backfill)
        { store.setBackfill backfill (.returned (highWater ≤ lastOf rows)) with
          rollup := projections.foldl insertRollup store.rollup
          cursor := some (lastOf rows) }
  | skipped (backfill : ℕ) : Change host store (.skip backfill) (store.setBackfill backfill (.returned true))

theorem change (stepped : (machine host).step store label = some next) : Change host store label next := by
  change store.step host label = some next at stepped
  cases label with
  | recordModelRequest threadId requestId event created =>
    rw [step, recordModelRequest] at stepped
    split at stepped
    · cases stepped
      exact .refused threadId requestId event created
    · split at stepped
      · rename_i payload row dumped made
        cases stepped
        exact .recorded dumped made
      · cases stepped
        exact .refused threadId requestId event created
  | highWater backfill thread =>
    rw [step] at stepped
    split at stepped
    · cases stepped
      exact .marked backfill thread
    · cases stepped
  | readCursor backfill =>
    rw [step] at stepped
    split at stepped
    · rename_i batch highWater own
      cases stepped
      exact .placed own
    · cases stepped
  | readRows backfill =>
    rw [step] at stepped
    split at stepped
    · rename_i batch highWater cursor own
      cases stepped
      exact .scanned own
    · cases stepped
  | writeRows backfill =>
    rw [step] at stepped
    split at stepped
    · rename_i highWater rows own
      rw [writeRows] at stepped
      split at stepped
      · cases stepped
        exact .raised own
      · rename_i projections made
        cases stepped
        exact .written own made
    · cases stepped
  | skip backfill =>
    rw [step] at stepped
    split at stepped
    · cases stepped
    · cases stepped
    · cases stepped
      exact .skipped backfill

variable {backfill : ℕ} {phase : Backfill Payload}

theorem setBackfill_cases {other : ℕ} {found : Backfill Payload}
    (own : (store.setBackfill backfill phase).backfills other = found) :
    found = phase ∨ store.backfills other = found := by
  by_cases same : other = backfill
  · rw [same] at own
    exact Or.inl (own.symm.trans (Function.update_self ..))
  · exact Or.inr ((Function.update_of_ne same ..).symm.trans own)

/-! ### Every run -/

/-- The request has an event. -/
def Requested (store : RollupStore Real Payload) (requestId : Text) : Prop :=
  ∃ row ∈ store.events.rows, row.requestId = requestId

/-- No request has two projections, and every one has an event. -/
structure Owned (store : RollupStore Real Payload) : Prop where
  once : (store.rollup.map RollupRow.requestId).Nodup
  requested : ∀ entry ∈ store.rollup, Requested store entry.requestId
  scanned : ∀ backfill highWater rows, store.backfills backfill = .scanned highWater rows →
    ∀ row ∈ rows, Requested store row.requestId

theorem owned_unprojected (events : EventTable Payload) : Owned (unprojected events : RollupStore Real Payload) where
  once := nodup_nil
  requested := fun _ mem => absurd mem not_mem_nil
  scanned := fun _ _ _ own => by cases own

theorem Owned.setBackfill (owned : Owned store)
    (scans : ∀ highWater rows, phase = .scanned highWater rows → ∀ row ∈ rows, row ∈ store.events.rows) :
    Owned (store.setBackfill backfill phase) where
  once := owned.once
  requested := owned.requested
  scanned := fun other highWater rows own row mem => by
    rcases setBackfill_cases own with new | old
    · exact ⟨row, scans highWater rows new.symm row mem, rfl⟩
    · exact owned.scanned other highWater rows old row mem

theorem Owned.step (owned : Owned store) (stepped : (machine host).step store label = some next) : Owned next := by
  cases change stepped with
  | refused => exact owned
  | @recorded threadId requestId event created payload row dumped made =>
    have kept (other : Text) (requested : Requested store other) :
        ∃ current ∈ (store.events.insertOrReplace requestId threadId payload created).rows,
          current.requestId = other := by
      rcases requested with ⟨old, mem, rfl⟩
      exact EventTable.requested_insertOrReplace mem
    refine ⟨nodup_insertRollup owned.once, fun entry mem => ?_,
      fun backfill highWater rows own other mem => kept _ (owned.scanned backfill highWater rows own other mem)⟩
    rcases mem_insertRollup mem with ⟨old, _⟩ | rfl
    · exact kept _ (owned.requested entry old)
    · exact ⟨_, mem_append_right _ (mem_singleton_self _), (requestId_rollupRow made).symm⟩
  | marked backfill thread => exact owned.setBackfill fun _ _ none => by cases none
  | placed own =>
    refine owned.setBackfill fun _ _ none => ?_
    split at none
    · cases none
    · cases none
  | scanned own =>
    refine owned.setBackfill fun highWater rows found row mem => ?_
    split at found
    · cases found
    · cases found
      exact mem_of_mem_filter (mem_of_mem_take mem)
  | raised own => exact owned.setBackfill fun _ _ none => by cases none
  | @written backfill highWater rows projections own made =>
    have after : Owned (store.setBackfill backfill (.returned (highWater ≤ lastOf rows))) :=
      owned.setBackfill fun _ _ none => by cases none
    refine ⟨nodup_insertAll owned.once, fun entry mem => ?_, after.scanned⟩
    rcases mem_insertAll mem with old | new
    · exact owned.requested entry old
    · rcases (mem_projected made).1 entry new with ⟨row, inside, projects⟩
      rw [requestId_projection projects]
      exact owned.scanned backfill highWater rows own row inside
  | skipped backfill => exact owned.setBackfill fun _ _ none => by cases none

/-! ### Fresh runs -/

/-- The rows that a backfill is about to write -/
def rowsOf : Backfill Payload → List (EventRow Payload)
  | .scanned _ rows => rows
  | _ => []

/-- A recorded event is read back with its projection, what a backfill has read is the projection of the current
event when it is written, and no statement fails. -/
def Fresh (host : EventHost Event Value Real Payload) (store : RollupStore Real Payload) : RollupStep Event → Prop
  | .recordModelRequest threadId requestId event created => ∀ payload ∈ host.dumps event,
      (host.loads payload).bind (rollupRow host requestId threadId created) =
        rollupRow host requestId threadId created event
  | .writeRows backfill => ∀ row ∈ rowsOf (store.backfills backfill), (host.loads row.eventJson).isSome = true →
      ∀ current ∈ store.events.rows, current.requestId = row.requestId →
        rowProjection host current = rowProjection host row
  | .skip _ => False
  | _ => True

/-- An event that can be parsed has a projection. -/
def Covered (host : EventHost Event Value Real Payload) (store : RollupStore Real Payload) (row : EventRow Payload) :
    Prop :=
  (host.loads row.eventJson).isSome = true → row.requestId ∈ store.rollup.map RollupRow.requestId

/-- What a backfill knows of the events -/
def Knows (host : EventHost Event Value Real Payload) (store : RollupStore Real Payload) : Backfill Payload → Prop
  | .idle => True
  | .marked batch highWater => 0 < batch ∧ ∀ row ∈ store.events.rows, highWater < row.id → Covered host store row
  | .placed batch highWater cursor => 0 < batch ∧
      ∀ row ∈ store.events.rows, highWater < row.id ∨ row.id ≤ cursor → Covered host store row
  | .scanned highWater rows => ∀ row ∈ store.events.rows,
      (highWater < row.id → Covered host store row) ∧
        (row.id ≤ lastOf rows → Covered host store row ∨ row ∈ rows)
  | .returned caughtUp => caughtUp = true → ∀ row ∈ store.events.rows, Covered host store row
  | .raised => True

structure Current (host : EventHost Event Value Real Payload) (store : RollupStore Real Payload) : Prop where
  exact : ∀ entry ∈ store.rollup, ∀ row ∈ store.events.rows, row.requestId = entry.requestId →
    rowProjection host row = some entry
  cursor : ∀ row ∈ store.events.rows, row.id ≤ store.cursor.getD 0 → Covered host store row
  knows : ∀ backfill, Knows host store (store.backfills backfill)

theorem current_unprojected (events : EventTable Payload) :
    Current host (unprojected events : RollupStore Real Payload) where
  exact := fun _ mem => absurd mem not_mem_nil
  cursor := fun row mem le => by
    have positive := (events.bounded row mem).1
    have none : row.id ≤ 0 := le
    omega
  knows := fun _ => trivial

/-- What is known stays known while projections are added and new events have theirs. -/
theorem Knows.grow (knows : Knows host store phase)
    (grows : ∀ row, Covered host store row → Covered host next row)
    (news : ∀ row ∈ next.events.rows, row ∈ store.events.rows ∨ Covered host next row) : Knows host next phase := by
  have lift {claim : EventRow Payload → Prop} (known : ∀ row ∈ store.events.rows, claim row → Covered host store row) :
      ∀ row ∈ next.events.rows, claim row → Covered host next row := by
    intro row mem own
    rcases news row mem with old | new
    · exact grows row (known row old own)
    · exact new
  cases phase with
  | idle => trivial
  | raised => trivial
  | marked batch highWater => exact ⟨knows.1, lift knows.2⟩
  | placed batch highWater cursor => exact ⟨knows.1, lift knows.2⟩
  | returned caughtUp =>
    intro caught row mem
    rcases news row mem with old | new
    · exact grows row (knows caught row old)
    · exact new
  | scanned highWater rows =>
    intro row mem
    rcases news row mem with old | new
    · rcases knows row old with ⟨above, below⟩
      exact ⟨fun later => grows row (above later), fun le => (below le).imp_left (grows row)⟩
    · exact ⟨fun _ => new, fun _ => Or.inl new⟩

theorem Current.setBackfill (current : Current host store)
    (knows : Knows host store phase) : Current host (store.setBackfill backfill phase) where
  exact := current.exact
  cursor := current.cursor
  knows := fun other => by
    have own : Knows host store ((store.setBackfill backfill phase).backfills other) := by
      by_cases same : other = backfill
      · have new : (store.setBackfill backfill phase).backfills other = phase := by
          rw [same]
          exact Function.update_self ..
        rw [new]
        exact knows
      · have old : (store.setBackfill backfill phase).backfills other = store.backfills other :=
          Function.update_of_ne same ..
        rw [old]
        exact current.knows other
    exact own.grow (fun _ covered => covered) fun row mem => Or.inl mem

variable {rows : List (EventRow Payload)}

theorem lastOf_eq (filled : rows ≠ []) :
    ∃ last, rows.getLast? = some last ∧ lastOf rows = last.id := by
  refine ⟨rows.getLast filled, getLast?_eq_some_getLast filled, ?_⟩
  rw [lastOf, getLast?_eq_some_getLast filled]
  rfl

variable {highWater : ℕ}

theorem Current.readCursor (current : Current host store) {batch : ℕ}
    (own : store.backfills backfill = .marked batch highWater) :
    Current host (store.readCursor backfill batch highWater) := by
  have knows := current.knows backfill
  rw [own] at knows
  refine current.setBackfill ?_
  split
  · rename_i behind
    intro _ row mem
    by_cases later : highWater < row.id
    · exact knows.2 row mem later
    · exact current.cursor row mem (by omega)
  · refine ⟨knows.1, fun row mem side => ?_⟩
    rcases side with later | le
    · exact knows.2 row mem later
    · exact current.cursor row mem le

theorem Current.readRows (current : Current host store) {batch cursor : ℕ}
    (own : store.backfills backfill = .placed batch highWater cursor) :
    Current host (store.readRows backfill batch highWater cursor) := by
  have knows := current.knows backfill
  rw [own] at knows
  rcases knows with ⟨positive, covered⟩
  have inside (row : EventRow Payload) (mem : row ∈ store.events.rows) (above : cursor < row.id)
      (below : row.id ≤ highWater) :
      row ∈ store.events.rows.filter fun row => cursor < row.id ∧ row.id ≤ highWater :=
    mem_filter.2 ⟨mem, decide_eq_true ⟨above, below⟩⟩
  refine current.setBackfill ?_
  split
  · rename_i empty
    intro _ row mem
    by_cases side : highWater < row.id ∨ row.id ≤ cursor
    · exact covered row mem side
    · have between := inside row mem (by omega) (by omega)
      rw [List.isEmpty_iff, EventTable.between, take_eq_nil_iff] at empty
      rcases empty with none | none
      · omega
      · rw [none] at between
        exact absurd between not_mem_nil
  · rename_i filled
    rw [List.isEmpty_iff] at filled
    intro row mem
    refine ⟨fun later => covered row mem (Or.inl later), fun le => ?_⟩
    rcases lastOf_eq filled with ⟨last, ends, same⟩
    rw [same] at le
    by_cases low : row.id ≤ cursor
    · exact Or.inl (covered row mem (Or.inr low))
    · have bounds := of_decide_eq_true (mem_filter.1 (mem_of_mem_take (mem_of_getLast? ends))).2
      exact Or.inr (mem_take_of_le (store.events.sorted.filter _) ends (inside row mem (by omega) (by omega)) le)

/-- A written batch covers what it has read, and nothing in it is stale. -/
theorem Current.writeRows (current : Current host store)
    {projections : List (RollupRow Real)} (own : store.backfills backfill = .scanned highWater rows)
    (made : projected host rows = some projections) (fresh : Fresh host store (.writeRows backfill)) :
    Current host { store.setBackfill backfill (.returned (highWater ≤ lastOf rows)) with
      rollup := projections.foldl insertRollup store.rollup
      cursor := some (lastOf rows) } := by
  have knows := current.knows backfill
  rw [own] at knows
  have fresh_rows : ∀ row ∈ rows, (host.loads row.eventJson).isSome = true →
      ∀ current ∈ store.events.rows, current.requestId = row.requestId →
        rowProjection host current = rowProjection host row := by
    intro row mem
    refine fresh row ?_
    rw [own]
    exact mem
  rcases mem_projected made with ⟨sound, complete⟩
  have grows (row : EventRow Payload) (covered : Covered host store row) (parses : (host.loads row.eventJson).isSome = true) :
      row.requestId ∈ (projections.foldl insertRollup store.rollup).map RollupRow.requestId :=
    requested_insertAll.2 (Or.inl (covered parses))
  have read (row : EventRow Payload) (mem : row ∈ rows) (parses : (host.loads row.eventJson).isSome = true) :
      row.requestId ∈ (projections.foldl insertRollup store.rollup).map RollupRow.requestId := by
    rcases complete row mem parses with ⟨entry, inside, projects⟩
    rw [← requestId_projection projects]
    exact requested_insertAll.2 (Or.inr (mem_map_of_mem inside))
  have below (row : EventRow Payload) (mem : row ∈ store.events.rows) (le : row.id ≤ lastOf rows)
      (parses : (host.loads row.eventJson).isSome = true) :
      row.requestId ∈ (projections.foldl insertRollup store.rollup).map RollupRow.requestId := by
    rcases (knows row mem).2 le with covered | inside
    · exact grows row covered parses
    · exact read row inside parses
  refine ⟨fun entry mem row inside same => ?_, fun row mem le => below row mem le, fun other => ?_⟩
  · rcases mem_insertAll mem with old | new
    · exact current.exact entry old row inside same
    · rcases sound entry new with ⟨first, there, projects⟩
      have parses : (host.loads first.eventJson).isSome = true := by
        rcases Option.bind_eq_some_iff.1 projects with ⟨event, parsed, _⟩
        rw [parsed]
        rfl
      rw [fresh_rows first there parses row inside (same.trans (requestId_projection projects))]
      exact projects
  · by_cases same : other = backfill
    · have new : (store.setBackfill backfill (.returned (highWater ≤ lastOf rows))).backfills other =
          .returned (highWater ≤ lastOf rows) := by
        rw [same]
        exact Function.update_self ..
      dsimp only
      rw [new]
      intro caught row mem
      have reaches := of_decide_eq_true caught
      by_cases later : highWater < row.id
      · exact grows row ((knows row mem).1 later)
      · exact below row mem (by omega)
    · have old : (store.setBackfill backfill (.returned (highWater ≤ lastOf rows))).backfills other =
          store.backfills other := Function.update_of_ne same ..
      dsimp only
      rw [old]
      exact (current.knows other).grow grows fun row mem => Or.inl mem

theorem Current.record (current : Current host store) {threadId requestId : Text} {event : Event} {created : Text}
    {payload : Payload} {row : RollupRow Real} (dumped : host.dumps event = some payload)
    (made : rollupRow host requestId threadId created event = some row)
    (fresh : Fresh host store (.recordModelRequest threadId requestId event created)) :
    Current host { store with
      events := store.events.insertOrReplace requestId threadId payload created
      rollup := insertRollup store.rollup row } := by
  have named := requestId_rollupRow made
  have grows (other : EventRow Payload) (covered : Covered host store other)
      (parses : (host.loads other.eventJson).isSome = true) :
      other.requestId ∈ (insertRollup store.rollup row).map RollupRow.requestId :=
    requested_insertRollup.2 (Or.inl (covered parses))
  have news (other : EventRow Payload)
      (mem : other ∈ (store.events.insertOrReplace requestId threadId payload created).rows) :
      other ∈ store.events.rows ∨ other.requestId ∈ (insertRollup store.rollup row).map RollupRow.requestId := by
    rcases EventTable.mem_insertOrReplace mem with ⟨old, _⟩ | rfl
    · exact Or.inl old
    · exact Or.inr (requested_insertRollup.2 (Or.inr named.symm))
  refine ⟨fun entry mem other inside same => ?_, fun other mem le => ?_, fun backfill => ?_⟩
  · rcases mem_insertRollup mem with ⟨old, apart⟩ | rfl
    · rcases EventTable.mem_insertOrReplace inside with ⟨there, _⟩ | rfl
      · exact current.exact entry old other there same
      · exact absurd (same.symm.trans named.symm) apart
    · rcases EventTable.mem_insertOrReplace inside with ⟨_, apart⟩ | rfl
      · exact absurd (same.trans named) apart
      · exact (fresh payload dumped).trans made
  · rcases news other mem with old | new
    · exact grows other (current.cursor other old le)
    · exact fun _ => new
  · exact (current.knows backfill).grow grows fun other mem => (news other mem).imp_right fun new _ => new

theorem Current.step (current : Current host store) (fresh : Fresh host store label)
    (stepped : (machine host).step store label = some next) : Current host next := by
  cases change stepped with
  | refused => exact current
  | recorded dumped made => exact current.record dumped made fresh
  | marked backfill thread =>
    refine current.setBackfill ⟨?_, fun row mem later => ?_⟩
    · cases thread <;> decide
    · have le := EventTable.le_highWater mem
      omega
  | placed own => exact current.readCursor own
  | scanned own => exact current.readRows own
  | raised own => exact current.setBackfill trivial
  | written own made => exact current.writeRows own made fresh
  | skipped backfill => exact fresh.elim

/-! ### The rollup -/

def Finished : Backfill Payload → Prop
  | .idle | .returned _ | .raised => True
  | _ => False

/-- All backfills have ended, and one has reported that the store is caught up. -/
def Settled (store : RollupStore Real Payload) : Prop :=
  (∀ backfill, Finished (store.backfills backfill)) ∧ ∃ backfill, store.backfills backfill = .returned true

/-- Every event that can be parsed has one projection, which is its own, and there are no others. -/
structure Exact (host : EventHost Event Value Real Payload) (store : RollupStore Real Payload) : Prop where
  once : (store.rollup.map RollupRow.requestId).Nodup
  projected : ∀ row ∈ store.events.rows, (host.loads row.eventJson).isSome = true →
    ∃ entry ∈ store.rollup, entry.requestId = row.requestId ∧ rowProjection host row = some entry
  requested : ∀ entry ∈ store.rollup, Requested store entry.requestId

/-- In every run no request has two projections or one without an event; and in a run without stale writes the
rollup is exact once a backfill has caught up. -/
theorem never_drifts (host : EventHost Event Value Real Payload) (events : EventTable Payload)
    {labels : List (RollupStep Event)} (ran : (machine host).run (unprojected events) labels = some store) :
    (store.rollup.map RollupRow.requestId).Nodup ∧ (∀ entry ∈ store.rollup, Requested store entry.requestId) ∧
      ((machine host).Guarded (Fresh host) (unprojected events) labels → Settled store → Exact host store) := by
  have owned : Owned store :=
    Machine.run_invariant (fun holds stepped => holds.step stepped) (owned_unprojected events) ran
  refine ⟨owned.once, owned.requested, fun guarded settled => ?_⟩
  have current : Current host store := by
    refine Machine.run_invariant_of_guarded ?_ (current_unprojected events) guarded ran
    intro before label after holds fresh stepped
    exact holds.step fresh stepped
  rcases settled.2 with ⟨backfill, caught⟩
  have covers := current.knows backfill
  rw [caught] at covers
  refine ⟨owned.once, fun row mem parses => ?_, owned.requested⟩
  rcases List.mem_map.1 (covers rfl row mem parses) with ⟨entry, inside, same⟩
  exact ⟨entry, inside, same, current.exact entry inside row mem same.symm⟩

/-- The backfill that takes a step -/
def backfillOf : RollupStep Event → Option ℕ
  | .recordModelRequest _ _ _ _ => none
  | .highWater backfill _ | .readCursor backfill | .readRows backfill | .writeRows backfill | .skip backfill =>
    some backfill

theorem backfill_unchanged (other : backfillOf label ≠ some backfill)
    (stepped : (machine host).step store label = some next) :
    next.backfills backfill = store.backfills backfill := by
  have apart (own : ℕ) (phase : Backfill Payload) (others : some own ≠ some backfill) :
      (store.setBackfill own phase).backfills backfill = store.backfills backfill :=
    Function.update_of_ne (fun same => others (congrArg some same.symm)) ..
  cases change stepped with
  | refused => rfl
  | recorded dumped made => rfl
  | marked own thread => exact apart own _ other
  | placed own => exact apart _ _ other
  | scanned own => exact apart _ _ other
  | raised own => exact apart _ _ other
  | written own made => exact apart _ _ other
  | skipped own => exact apart own _ other

theorem idle_of_untouched {events : EventTable Payload} {labels : List (RollupStep Event)}
    (untouched : ∀ label ∈ labels, backfillOf label ≠ some backfill)
    (ran : (machine host).run (unprojected events) labels = some store) : store.backfills backfill = .idle := by
  have step {before after : RollupStore Real Payload} {label : RollupStep Event}
      (idle : before.backfills backfill = .idle) (other : backfillOf label ≠ some backfill)
      (stepped : (machine host).step before label = some after) : after.backfills backfill = .idle :=
    (backfill_unchanged other stepped).trans idle
  exact Machine.run_invariant_of_guarded step rfl (Machine.guarded_of_labels untouched _) ran

/-! ### A replaced event -/

/-- Events that are a number of tokens -/
def numbersHost : EventHost ℕ ℕ ℕ ℕ where
  dumps := some
  loads := some
  get event _ := event
  text _ := some []
  int value := some value
  float value := some value

/-- A store with one event of one token -/
def oneEvent : EventTable ℕ where
  rows := [⟨1, Text.ofString "r", Text.ofString "t", 1, []⟩]
  lastId := 1
  sorted := List.pairwise_singleton ..
  bounded := fun row mem => by
    rw [List.mem_singleton.1 mem]
    exact ⟨Nat.one_pos, le_rfl⟩
  unique := List.nodup_singleton _

instance decidableFresh (store : RollupStore ℕ ℕ) : ∀ label, Decidable (Fresh numbersHost store label)
  | .recordModelRequest _ _ event _ => inferInstanceAs (Decidable (∀ payload ∈ numbersHost.dumps event, _ = _))
  | .writeRows _ => inferInstanceAs (Decidable (∀ row ∈ _, (_ = true) → ∀ current ∈ store.events.rows, _ → _ = _))
  | .skip _ => isFalse id
  | .highWater _ _ => isTrue trivial
  | .readCursor _ => isTrue trivial
  | .readRows _ => isTrue trivial

/-- The event is replaced after a batch, which is caught up. -/
def replacedAfter : List (RollupStep ℕ) :=
  [.highWater 0 false, .readCursor 0, .readRows 0, .writeRows 0,
    .recordModelRequest (Text.ofString "t") (Text.ofString "r") 2 []]

/-- The event is replaced between the reading of a batch and its writing. -/
def replacedBetween : List (RollupStep ℕ) :=
  [.highWater 0 false, .readCursor 0, .readRows 0,
    .recordModelRequest (Text.ofString "t") (Text.ofString "r") 2 [], .writeRows 0]

/-- The columns of the rollup that the examples look at -/
def tokensOf (store : RollupStore ℕ ℕ) : List (Text × ℤ) :=
  store.rollup.map fun row => (row.requestId, row.outputTokens)

def caughtUp : Backfill ℕ → Bool
  | .returned caughtUp => caughtUp
  | _ => false

theorem settled_of_one {labels : List (RollupStep ℕ)} {store : RollupStore ℕ ℕ}
    (only : ∀ label ∈ labels, backfillOf label = none ∨ backfillOf label = some 0)
    (ran : (machine numbersHost).run (unprojected oneEvent) labels = some store)
    (caught : caughtUp (store.backfills 0) = true) : Settled store := by
  have returned : store.backfills 0 = .returned true := by
    generalize store.backfills 0 = phase at caught
    cases phase with
    | returned value =>
      cases value with
      | true => rfl
      | false => cases caught
    | idle => cases caught
    | marked _ _ => cases caught
    | placed _ _ _ => cases caught
    | scanned _ _ => cases caught
    | raised => cases caught
  refine ⟨fun backfill => ?_, 0, returned⟩
  by_cases first : backfill = 0
  · rw [first, returned]
    trivial
  · have untouched : ∀ label ∈ labels, backfillOf label ≠ some backfill := by
      intro label mem
      rcases only label mem with none | zero
      · rw [none]
        exact (Option.some_ne_none _).symm
      · rw [zero]
        exact fun same => first (Option.some.inj same).symm
    rw [idle_of_untouched untouched ran]
    trivial

theorem replacedAfter_exact : ∃ store, (machine numbersHost).run (unprojected oneEvent) replacedAfter = some store ∧
    tokensOf store = [(Text.ofString "r", 2)] ∧ Exact numbersHost store := by
  have ended : ((machine numbersHost).run (unprojected oneEvent) replacedAfter).map
      (fun store => (tokensOf store, caughtUp (store.backfills 0))) = some ([(Text.ofString "r", 2)], true) := by
    decide
  rcases Option.map_eq_some_iff.1 ended with ⟨store, ran, own⟩
  injection own with tokens caught
  have guarded : (machine numbersHost).Guarded (Fresh numbersHost) (unprojected oneEvent) replacedAfter := by
    decide
  have settled := settled_of_one (by decide) ran caught
  exact ⟨store, ran, tokens, (never_drifts numbersHost oneEvent ran).2.2 guarded settled⟩

/-- The old projection overwrites the new one, and the backfill reports that the store is caught up. -/
theorem replaced_event_drifts : ¬ ∀ (events : EventTable ℕ) (labels : List (RollupStep ℕ)) (store : RollupStore ℕ ℕ),
    (machine numbersHost).run (unprojected events) labels = some store → Settled store → Exact numbersHost store := by
  intro all
  have ended : ((machine numbersHost).run (unprojected oneEvent) replacedBetween).map
      (fun store => ((tokensOf store, caughtUp (store.backfills 0)),
        store.events.rows.map fun row => (row.requestId, row.eventJson))) =
      some (([(Text.ofString "r", 1)], true), [(Text.ofString "r", 2)]) := by decide
  rcases Option.map_eq_some_iff.1 ended with ⟨store, ran, own⟩
  injection own with rollup events
  injection rollup with tokens caught
  have whole := all oneEvent replacedBetween store ran (settled_of_one (by decide) ran caught)
  have stored : (Text.ofString "r", 2) ∈ store.events.rows.map fun row => (row.requestId, row.eventJson) := by
    rw [events]
    exact List.mem_singleton_self _
  rcases List.mem_map.1 stored with ⟨row, mem, same⟩
  rcases whole.projected row mem rfl with ⟨entry, inside, _, projects⟩
  have two : entry.outputTokens = (row.eventJson : ℤ) := by
    cases projects
    rfl
  have one : (entry.requestId, entry.outputTokens) ∈ tokensOf store := List.mem_map_of_mem inside
  rw [tokens, List.mem_singleton] at one
  injection one with _ output
  injection same with _ json
  rw [two, json] at output
  exact absurd output (by decide)

end RollupStore

end Synapse.ToolOutput
