import Synapse.Foundation.Selection
import Synapse.ToolOutput.Critical

/-!
# Compressed search results

The matches of a search are grouped by file, some are shown and the others are counted by file. The files
beyond the greatest number of files are not counted.
-/

namespace Synapse.ToolOutput

open List

/-! ### The transformer -/

structure SearchLimits where
  maxFiles : ℤ := 15
  maxMatchesPerFile : ℤ := 5
  maxTotalMatches : ℤ := 30

/-- The path, the line and the text of each match. -/
def searchMatches (m : Matchers) (content : Text) : List (Text × ℕ × Text) :=
  (Text.splitlines content).filterMap fun raw => (m.searchLine raw).map fun found => (found.1, found.2, raw)

/-- The order of paths and lines. -/
def placeLe (first second : Text × ℕ × Text) : Bool := tupleLe (first.1, first.2.1) (second.1, second.2.1)

/-- The first and the last match of a file, and those with the best scores. -/
def keptMatches (maxMatchesPerFile : ℤ) (score : Text → ℚ) (items : List (ℕ × Text)) : List (ℕ × Text) :=
  let ranked := items.mergeSort fun first second => decide (score second.2 ≤ score first.2)
  (items.head?.toList ++ items.getLast?.toList ++ upTo maxMatchesPerFile ranked).dedup.mergeSort tupleLe

/-- The matches that are shown of the files, and the numbers of those that are not. -/
def selectMatches (limits : SearchLimits) (score : Text → ℚ) :
    List (Text × List (ℕ × Text)) → ℕ → List (Text × ℕ × Text) × List (Text × ℕ)
  | [], _ => ([], [])
  | (path, items) :: files, selected =>
    if limits.maxTotalMatches ≤ selected then
      let (shown, summaries) := selectMatches limits score files selected
      (shown, (path, items.length) :: summaries)
    else
      let own := upTo (limits.maxTotalMatches - selected) (keptMatches limits.maxMatchesPerFile score items)
      let (shown, summaries) := selectMatches limits score files (selected + own.length)
      (own.map (fun item => (path, item)) ++ shown,
        if own.length < items.length then (path, items.length - own.length) :: summaries else summaries)

/-- What a compressed search result shows. -/
structure SearchView where
  files : ℕ
  shown : List (Text × ℕ × Text)
  summaries : List (Text × ℕ)

/-- The numbers that are read back from the summaries. -/
def SearchView.omitted (view : SearchView) : ℕ := (view.summaries.map Prod.snd).sum

def searchView (m : Matchers) (limits : SearchLimits) (query content : Text) : Option SearchView :=
  let groups := grouped (searchMatches m content)
  if groups = [] then none
  else
    let fileScore (file : Text × List (ℕ × Text)) := m.sum (file.2.map fun item => m.score query item.2)
    let files := upTo limits.maxFiles (groups.mergeSort fun first second =>
      decide (fileScore second ≤ fileScore first))
    let (selected, summaries) := selectMatches limits (m.score query) files 0
    some ⟨groups.length, selected.mergeSort placeLe, summaries⟩

def summaryText (summary : Text × ℕ) : Text :=
  summary.1 ++ Text.ofString ": " ++ decimal summary.2 ++ Text.ofString " matches omitted"

def SearchView.body (view : SearchView) : Text :=
  Text.joinLines ((Text.ofString "[search results compressed: " ++ decimal view.files ++ Text.ofString " files, " ++
    decimal view.omitted ++ Text.ofString " matches omitted]") ::
      (view.shown.map (fun item => item.2.2) ++ view.summaries.map summaryText))

/-- `SearchTransformer.transform` -/
def searchTransform (m : Matchers) (limits : SearchLimits) (content : Text) (context : TransformContext) :
    TransformResult :=
  match searchView m limits context.query content with
  | none => unchanged content "search-v1" .search
  | some view =>
    result m content view.body "search-v1" .search
      [metaInt "files" view.files, metaInt "omitted_matches" view.omitted,
        (Text.ofString "file_summaries",
          .sequence (Values.ofList (view.summaries.map fun summary => .str true (summaryText summary))))]

/-! ### Matches of a file -/

variable {m : Matchers} {limits : SearchLimits} {score : Text → ℚ} {perFile : ℤ} {items : List (ℕ × Text)}
  {files : List (Text × List (ℕ × Text))} {path : Text}

theorem mem_of_kept {item : ℕ × Text} (mem : item ∈ keptMatches perFile score items) : item ∈ items := by
  simp only [keptMatches, mem_mergeSort, mem_dedup, mem_append, Option.mem_toList] at mem
  rcases mem with (first | last) | ranked
  · exact mem_of_mem_head? first
  · exact mem_of_getLast? last
  · exact mem_mergeSort.1 ((upTo_sublist _ _).subset ranked)

/-- The matches that are kept are different ones of the file, in order. -/
theorem kept_sublist : (keptMatches perFile score items).Sublist (items.dedup.mergeSort tupleLe) :=
  mergeSort_tupleLe_sublist (nodup_dedup _) fun _ mem =>
    mem_dedup.2 (mem_of_kept (mem_mergeSort.2 mem))

theorem length_kept_le : (keptMatches perFile score items).length ≤ items.length := by
  calc
    _ ≤ (items.dedup.mergeSort tupleLe).length := kept_sublist.length_le
    _ = items.dedup.length := length_mergeSort _
    _ ≤ items.length := (dedup_sublist items).length_le

theorem kept_of_le (room : items.length ≤ perFile) :
    keptMatches perFile score items = items.dedup.mergeSort tupleLe := by
  refine mergeSort_tupleLe_congr (nodup_dedup _) (nodup_dedup _) fun item => ?_
  rw [mem_dedup, mem_dedup]
  constructor
  · intro mem
    have kept : item ∈ keptMatches perFile score items := mem_mergeSort.2 (mem_dedup.2 mem)
    exact mem_of_kept kept
  · intro mem
    rw [upTo_of_le (by rwa [length_mergeSort])]
    exact mem_append_right _ (mem_mergeSort.2 mem)

/-! ### Matches of all files -/

variable {selected : ℕ}

theorem selectMatches_full (full : limits.maxTotalMatches ≤ selected) :
    selectMatches limits score ((path, items) :: files) selected =
      ((selectMatches limits score files selected).1,
        (path, items.length) :: (selectMatches limits score files selected).2) := by
  rw [selectMatches, if_pos full]

/-- The matches of a file that are shown after others. -/
def shownMatches (limits : SearchLimits) (score : Text → ℚ) (items : List (ℕ × Text)) (selected : ℕ) :
    List (ℕ × Text) :=
  upTo (limits.maxTotalMatches - selected) (keptMatches limits.maxMatchesPerFile score items)

theorem shown_sublist :
    (shownMatches limits score items selected).Sublist (items.dedup.mergeSort tupleLe) :=
  (upTo_sublist _ _).trans kept_sublist

theorem length_shown_le : (shownMatches limits score items selected).length ≤ items.length :=
  (upTo_sublist _ _).length_le.trans length_kept_le

theorem selectMatches_room (room : ¬ limits.maxTotalMatches ≤ selected) :
    selectMatches limits score ((path, items) :: files) selected =
      ((shownMatches limits score items selected).map (fun item => (path, item)) ++ (selectMatches limits score files
          (selected + (shownMatches limits score items selected).length)).1,
        if (shownMatches limits score items selected).length < items.length then
          (path, items.length - (shownMatches limits score items selected).length) :: (selectMatches limits score
            files (selected + (shownMatches limits score items selected).length)).2
        else (selectMatches limits score files (selected + (shownMatches limits score items selected).length)).2) := by
  rw [selectMatches, if_neg room]
  rfl

theorem count_selectMatches (files : List (Text × List (ℕ × Text))) (selected : ℕ) :
    (selectMatches limits score files selected).1.length +
      ((selectMatches limits score files selected).2.map Prod.snd).sum =
        (files.map fun file => file.2.length).sum := by
  induction files generalizing selected with
  | nil => rfl
  | cons file files ih =>
    rcases file with ⟨path, items⟩
    by_cases full : limits.maxTotalMatches ≤ selected
    · rw [selectMatches_full full]
      simp only [map_cons, sum_cons, ← ih selected]
      omega
    · have least : (shownMatches limits score items selected).length ≤ items.length := length_shown_le
      have rest := ih (selected + (shownMatches limits score items selected).length)
      rw [selectMatches_room full]
      simp only [map_cons, sum_cons, length_append, length_map]
      split
      · rw [map_cons, sum_cons]
        omega
      · omega

/-- The matches of a path that are shown are different ones of its file, in order. -/
theorem own_selectMatches (distinct : (files.map Prod.fst).Nodup) (selected : ℕ) (path : Text) :
    own path (selectMatches limits score files selected).1 = [] ∨ ∃ items, (path, items) ∈ files ∧
      (own path (selectMatches limits score files selected).1).Sublist (items.dedup.mergeSort tupleLe) := by
  induction files generalizing selected with
  | nil => exact Or.inl rfl
  | cons file files ih =>
    rcases file with ⟨other, items⟩
    have rest := fun selected => ih (nodup_cons.1 distinct).2 selected
    have unlisted : other ∉ files.map Prod.fst := (nodup_cons.1 distinct).1
    by_cases full : limits.maxTotalMatches ≤ selected
    · rw [selectMatches_full full]
      rcases rest selected with none | ⟨found, mem, part⟩
      · exact Or.inl none
      · exact Or.inr ⟨found, mem_cons_of_mem _ mem, part⟩
    · rw [selectMatches_room full, own_append]
      by_cases same : other = path
      · subst same
        have none : own other (selectMatches limits score files
            (selected + (shownMatches limits score items selected).length)).1 = [] := by
          rcases rest (selected + (shownMatches limits score items selected).length) with none | ⟨found, mem, _⟩
          · exact none
          · exact absurd (mem_map_of_mem mem) unlisted
        refine Or.inr ⟨items, mem_cons_self, ?_⟩
        rw [own_pairs, none, append_nil]
        exact shown_sublist
      · have none : own path ((shownMatches limits score items selected).map fun item => (other, item)) = [] := by
          refine own_eq_nil fun listed => same ?_
          rcases mem_map.1 listed with ⟨pair, mem, rfl⟩
          rcases mem_map.1 mem with ⟨item, _, rfl⟩
          rfl
        rw [none, nil_append]
        rcases rest (selected + (shownMatches limits score items selected).length) with empty | ⟨found, mem, part⟩
        · exact Or.inl empty
        · exact Or.inr ⟨found, mem_cons_of_mem _ mem, part⟩

/-- With room for all matches, the different ones of each file are shown. -/
theorem own_selectMatches_all (distinct : (files.map Prod.fst).Nodup)
    (room : ((selected + (files.map fun file => file.2.length).sum : ℕ) : ℤ) < limits.maxTotalMatches)
    (each : ∀ file ∈ files, file.2.length ≤ limits.maxMatchesPerFile) (mem : (path, items) ∈ files) :
    own path (selectMatches limits score files selected).1 = items.dedup.mergeSort tupleLe := by
  induction files generalizing selected with
  | nil => cases mem
  | cons file files ih =>
    rcases file with ⟨other, others⟩
    have unlisted : other ∉ files.map Prod.fst := (nodup_cons.1 distinct).1
    have least : (shownMatches limits score others selected).length ≤ others.length := length_shown_le
    simp only [map_cons, sum_cons] at room
    rw [selectMatches_room (by omega), own_append]
    rcases mem_cons.1 mem with same | later
    · obtain ⟨rfl, rfl⟩ := Prod.mk.inj same
      have all : shownMatches limits score items selected = items.dedup.mergeSort tupleLe := by
        have kept : (keptMatches limits.maxMatchesPerFile score items).length ≤ items.length := length_kept_le
        rw [shownMatches, upTo_of_le (by omega), kept_of_le (each _ mem_cons_self)]
      have none : own path (selectMatches limits score files
          (selected + (shownMatches limits score items selected).length)).1 = [] := by
        rcases own_selectMatches (nodup_cons.1 distinct).2
          (selected + (shownMatches limits score items selected).length) path with none | ⟨found, here, _⟩
        · exact none
        · exact absurd (mem_map_of_mem here) unlisted
      rw [own_pairs, none, append_nil, all]
    · have none : own path ((shownMatches limits score others selected).map fun item => (other, item)) = [] := by
        refine own_eq_nil fun listed => unlisted ?_
        rcases mem_map.1 listed with ⟨pair, inside, rfl⟩
        rcases mem_map.1 inside with ⟨item, _, rfl⟩
        exact mem_map_of_mem later
      rw [none, nil_append]
      refine ih (nodup_cons.1 distinct).2 ?_ (fun file mem => each file (mem_cons_of_mem _ mem)) later
      omega

/-! ### The view -/

/-- The matches that are shown and those that are counted are all of them; those of a file are shown in
order. -/
structure SearchView.Truthful (found : List (Text × ℕ × Text)) (view : SearchView) : Prop where
  count : view.shown.length + view.omitted = found.length
  occurs : ∀ item ∈ view.shown, item ∈ found
  order : ∀ path, (own path view.shown).Sublist (own path found)

/-- The different matches of each file come in the order of their lines and texts. -/
def Ascending (found : List (Text × ℕ × Text)) : Prop :=
  ∀ path, ((own path found).dedup.mergeSort tupleLe).Sublist (own path found)

/-- The files that are looked at: those with the best scores. -/
def rankedFiles (m : Matchers) (maxFiles : ℤ) (query content : Text) : List (Text × List (ℕ × Text)) :=
  upTo maxFiles ((grouped (searchMatches m content)).mergeSort fun first second =>
    decide (m.sum (second.2.map fun item => m.score query item.2) ≤
      m.sum (first.2.map fun item => m.score query item.2)))

variable {query content : Text} {view : SearchView} {maxFiles : ℤ}

theorem searchView_eq (found : searchView m limits query content = some view) :
    view.shown = (selectMatches limits (m.score query) (rankedFiles m limits.maxFiles query content) 0).1.mergeSort
      placeLe ∧
    view.summaries = (selectMatches limits (m.score query) (rankedFiles m limits.maxFiles query content) 0).2 := by
  unfold searchView at found
  rcases Option.ite_none_left_eq_some.mp found with ⟨_, found⟩
  obtain rfl := Option.some.inj found
  exact ⟨rfl, rfl⟩

theorem mem_rankedFiles {file : Text × List (ℕ × Text)} (mem : file ∈ rankedFiles m maxFiles query content) :
    file ∈ grouped (searchMatches m content) := mem_mergeSort.1 ((upTo_sublist _ _).subset mem)

theorem nodup_rankedFiles : ((rankedFiles m maxFiles query content).map Prod.fst).Nodup :=
  (((mergeSort_perm _ _).map Prod.fst).nodup_iff.2 (groups_grouped _).keys).sublist
    ((upTo_sublist _ _).map Prod.fst)

/-- The matches that are shown of a path keep their order when all are sorted by place. -/
theorem own_shown (found : searchView m limits query content = some view) (path : Text) :
    own path view.shown =
      own path (selectMatches limits (m.score query) (rankedFiles m limits.maxFiles query content) 0).1 := by
  have sorted : (own path (selectMatches limits (m.score query)
      (rankedFiles m limits.maxFiles query content) 0).1).Pairwise fun a b => tupleLe a b = true := by
    rcases @own_selectMatches limits (m.score query) _
      (@nodup_rankedFiles m query content limits.maxFiles) 0 path with
      none | ⟨items, _, part⟩
    · rw [none]
      exact List.Pairwise.nil
    · exact (pairwise_mergeSort tupleLe_trans tupleLe_total _).sublist part
  have placed : ((selectMatches limits (m.score query) (rankedFiles m limits.maxFiles query content) 0).1.filter
      fun item => item.1 = path).Pairwise fun a b => placeLe a b = true := by
    rw [← map_own, pairwise_map]
    refine sorted.imp fun {a b} before => ?_
    refine tupleLe_iff.2 (Or.inr ⟨rfl, ?_⟩)
    rcases tupleLe_iff.1 before with earlier | ⟨same, _⟩
    · exact earlier.le
    · exact same.le
  have trans : ∀ a b c, placeLe a b = true → placeLe b c = true → placeLe a c = true :=
    fun _ _ _ => tupleLe_trans _ _ _
  have total : ∀ a b, (placeLe a b || placeLe b a) = true := fun _ _ => tupleLe_total _ _
  rw [(searchView_eq found).1, own, own, filter_mergeSort trans total placed]

theorem count_shown (found : searchView m limits query content = some view) :
    view.shown.length + view.omitted =
      ((rankedFiles m limits.maxFiles query content).map fun file => file.2.length).sum := by
  rw [(searchView_eq found).1, SearchView.omitted, (searchView_eq found).2, length_mergeSort, count_selectMatches]

/-- When no file is left out and matches come in order, the view is truthful. -/
theorem truthful_of_files (found : searchView m limits query content = some view)
    (room : ((searchMatches m content).map Prod.fst).dedup.length ≤ limits.maxFiles)
    (ascending : Ascending (searchMatches m content)) : view.Truthful (searchMatches m content) := by
  have groups := groups_grouped (searchMatches m content)
  have all : (rankedFiles m limits.maxFiles query content).Perm (grouped (searchMatches m content)) := by
    rw [rankedFiles, upTo_of_le (by rw [length_mergeSort, groups.length]; exact room)]
    exact mergeSort_perm _ _
  have order (path : Text) : (own path view.shown).Sublist (own path (searchMatches m content)) := by
    rw [own_shown found path]
    rcases @own_selectMatches limits (m.score query) _
      (@nodup_rankedFiles m query content limits.maxFiles) 0 path with
      none | ⟨items, mem, part⟩
    · rw [none]
      exact nil_sublist _
    · have same : items = own path (searchMatches m content) := groups.own _ (mem_rankedFiles mem)
      rw [same] at part
      exact part.trans (ascending path)
  refine ⟨?_, fun item mem => ?_, order⟩
  · rw [count_shown found, (all.map fun file => file.2.length).sum_eq, groups.total]
  · have inside : item.2 ∈ own item.1 view.shown :=
      mem_map_of_mem (mem_filter.2 ⟨mem, decide_eq_true rfl⟩)
    rcases mem_map.1 ((order item.1).subset inside) with ⟨other, kept, same⟩
    rcases mem_filter.1 kept with ⟨there, path⟩
    rwa [← Prod.ext (of_decide_eq_true path) same]

theorem total_rankedFiles_lt (short : maxFiles < ((searchMatches m content).map Prod.fst).dedup.length)
    (filled : searchMatches m content ≠ []) :
    ((rankedFiles m maxFiles query content).map fun file => file.2.length).sum < (searchMatches m content).length := by
  have groups := groups_grouped (searchMatches m content)
  rw [← groups.total, rankedFiles]
  generalize sorted : (grouped (searchMatches m content)).mergeSort _ = files
  have same : files.Perm (grouped (searchMatches m content)) := sorted ▸ mergeSort_perm _ _
  rw [← (same.map fun file => file.2.length).sum_eq]
  have size : files.length = ((searchMatches m content).map Prod.fst).dedup.length := by
    rw [same.length_eq, groups.length]
  have some : files ≠ [] := by
    intro none
    have total := groups.total
    rw [← (same.map fun file => file.2.length).sum_eq, none] at total
    exact filled (eq_nil_of_length_eq_zero total.symm)
  have left := length_upTo_lt some (by omega : maxFiles < files.length)
  have whole := congrArg List.sum
    (congrArg (List.map fun file => file.2.length) (take_append_drop (sliceIndex files.length maxFiles) files))
  rw [map_append, sum_append] at whole
  rw [upTo, length_take] at left
  rw [upTo]
  have last : sliceIndex files.length maxFiles < files.length := by omega
  have mem : files[sliceIndex files.length maxFiles] ∈ files.drop (sliceIndex files.length maxFiles) := by
    rw [drop_eq_getElem_cons last]
    exact mem_cons_self
  have counted := le_sum_of_mem (mem_map_of_mem (f := fun file => file.2.length) mem)
  have shown := groups.filled _ (same.mem_iff.1 (mem_of_mem_drop mem))
  have one := length_pos_of_ne_nil shown
  omega

/-- The view is truthful whatever the query and the other limits are exactly when no file is left out and
matches come in order, or there is nothing to show. -/
theorem search_truthful_iff (m : Matchers) (maxFiles : ℤ) (content : Text) :
    (∀ query perFile total view, searchView m ⟨maxFiles, perFile, total⟩ query content = some view →
      view.Truthful (searchMatches m content)) ↔
    searchMatches m content = [] ∨
      (((searchMatches m content).map Prod.fst).dedup.length ≤ maxFiles ∧ Ascending (searchMatches m content)) := by
  have groups := groups_grouped (searchMatches m content)
  constructor
  · intro truthful
    by_cases empty : searchMatches m content = []
    · exact Or.inl empty
    · right
      have some : grouped (searchMatches m content) ≠ [] := by
        intro none
        have total := groups.total
        rw [none] at total
        exact empty (eq_nil_of_length_eq_zero total.symm)
      have view : ∃ view, searchView m ⟨maxFiles, (searchMatches m content).length,
          (searchMatches m content).length + 1⟩ [] content = Option.some view := by
        unfold searchView
        simp only [if_neg some]
        exact ⟨_, rfl⟩
      rcases view with ⟨view, found⟩
      have honest := truthful [] _ _ view found
      have whole := count_shown found
      rw [honest.count] at whole
      have room : ((searchMatches m content).map Prod.fst).dedup.length ≤ maxFiles := by
        by_contra short
        exact absurd whole (total_rankedFiles_lt (not_le.1 short) empty).ne'
      refine ⟨room, fun path => ?_⟩
      by_cases listed : path ∈ (searchMatches m content).map Prod.fst
      · rcases mem_map.1 ((groups.covers path).2 listed) with ⟨file, mem, rfl⟩
        have same : file.2 = own file.1 (searchMatches m content) := groups.own _ mem
        have looked : (file.1, file.2) ∈ rankedFiles m maxFiles [] content := by
          rw [rankedFiles, upTo_of_le (by rw [length_mergeSort, groups.length]; exact room)]
          exact mem_mergeSort.2 mem
        have part := honest.order file.1
        rw [own_shown found, own_selectMatches_all nodup_rankedFiles _ _ looked, same] at part
        · exact part
        · show ((0 + ((rankedFiles m maxFiles [] content).map fun file => file.2.length).sum : ℕ) : ℤ) < _ + 1
          rw [← whole]
          omega
        · intro file mem
          rw [groups.own _ (mem_rankedFiles mem), own, length_map]
          exact Int.ofNat_le.2 (length_filter_le _ _)
      · rw [own_eq_nil listed, dedup_nil, mergeSort_nil]
  · rintro (empty | ⟨room, ascending⟩) query perFile total view found
    · have none : grouped (searchMatches m content) = [] := by
        rw [empty]
        rfl
      rw [searchView] at found
      simp only [none, if_true] at found
      cases found
    · exact truthful_of_files found room ascending

end Synapse.ToolOutput
