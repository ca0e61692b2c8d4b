import Synapse.Foundation.Selection
import Synapse.ToolOutput.Critical

/-!
# Compressed logs and Git summaries

The lines that are shown are picked by a set of indices, and the header counts the others.
-/

namespace Synapse.ToolOutput

open List

variable {m : Matchers} {content : Text} {lines : List Text}

/-! ### Indices of lines -/

/-- `[i for i, line in enumerate(lines) if chosen(line)]` -/
def positions (chosen : Text → Bool) (lines : List Text) : List ℕ :=
  (lines.zipIdx.filter fun line => chosen line.1).map Prod.snd

/-- `set(range(start, stop))`, where the start is not negative. -/
def between (start stop : ℤ) : Finset ℕ := Finset.Ico start.toNat stop.toNat

variable {index : ℕ}

theorem mem_positions {chosen : Text → Bool} :
    index ∈ positions chosen lines ↔ ∃ line, lines[index]? = some line ∧ chosen line = true := by
  rw [positions, mem_map]
  constructor
  · rintro ⟨⟨line, _⟩, mem, rfl⟩
    rcases mem_filter.1 mem with ⟨there, own⟩
    exact ⟨line, mk_mem_zipIdx_iff_getElem?.1 there, own⟩
  · rintro ⟨line, there, own⟩
    exact ⟨(line, index), mem_filter.2 ⟨mk_mem_zipIdx_iff_getElem?.2 there, own⟩, rfl⟩

theorem lt_of_mem_positions {chosen : Text → Bool} (mem : index ∈ positions chosen lines) :
    index < lines.length := by
  rcases mem_positions.1 mem with ⟨line, there, _⟩
  exact (List.getElem?_eq_some_iff.1 there).1

theorem lt_of_mem_between {start stop : ℤ} {length : ℕ} (inside : stop ≤ length)
    (mem : index ∈ between start stop) : index < length := by
  have least := (Finset.mem_Ico.1 mem).2
  omega

/-! ### Logs -/

structure LogLimits where
  contextLines : ℤ := 3
  maxLines : ℤ := 100
  minLinesForCompression : ℤ := 50
  maxWarnings : ℤ := 5

/-- `_normalise` -/
def normalise (m : Matchers) (line : Text) : Text := m.withoutValues (m.casefold line)

/-- The first warnings of each kind, up to the greatest number. -/
def firstWarnings (m : Matchers) (maxWarnings : ℤ) (lines : List Text) : List ℕ → List Text → List ℕ
  | [], _ => []
  | index :: rest, seen =>
    let key := normalise m (lines.getD index [])
    if key ∈ seen ∨ maxWarnings ≤ seen.length then firstWarnings m maxWarnings lines rest seen
    else index :: firstWarnings m maxWarnings lines rest (key :: seen)

/-- The indices without the warnings that repeat others or are too many. -/
def withoutWarnings (m : Matchers) (maxWarnings : ℤ) (errors : List ℕ) (lines : List Text) :
    List ℕ → List Text → List ℕ
  | [], _ => []
  | index :: rest, retained =>
    let line := lines.getD index []
    if m.warningLine line ∧ index ∉ errors then
      if normalise m line ∈ retained ∨ maxWarnings ≤ retained.length then
        withoutWarnings m maxWarnings errors lines rest retained
      else index :: withoutWarnings m maxWarnings errors lines rest (normalise m line :: retained)
    else index :: withoutWarnings m maxWarnings errors lines rest retained

/-- The place of an index in the order of `(i not in errors, i not in summaries)`. -/
def rank (errors summaries : List ℕ) (index : ℕ) : ℕ :=
  (if index ∈ errors then 0 else 2) + if index ∈ summaries then 0 else 1

/-- The indices that are kept of too many. -/
def prioritised (maxLines : ℤ) (errors summaries ordered : List ℕ) : List ℕ :=
  if maxLines < ordered.length then
    let priority := ordered.mergeSort fun first second =>
      tupleLe (rank errors summaries first, first) (rank errors summaries second, second)
    (upTo maxLines priority).mergeSort fun first second => decide (first ≤ second)
  else ordered

structure LogView where
  errors : ℕ
  warnings : ℕ
  omitted : ℤ
  shown : List Text

/-- The lines around errors. -/
def around (contextLines : ℤ) (length : ℕ) (index : ℕ) : Finset ℕ :=
  between (max 0 (index - contextLines)) (min length (index + contextLines + 1))

def logSelected (m : Matchers) (limits : LogLimits) (lines : List Text) : Finset ℕ :=
  let errors := positions (isError m) lines
  let warnings := (positions m.warningLine lines).filter fun index => decide (index ∉ errors)
  let stack := (positions m.stackLine lines).filter fun (index : ℕ) =>
    errors.any fun (error : ℕ) => decide (((index : ℤ) - (error : ℤ)).natAbs ≤ 20)
  between 0 (min 3 lines.length) ∪ between (max 0 (lines.length - 3)) lines.length ∪
    (positions m.logSummary lines).toFinset ∪ errors.toFinset.biUnion (around limits.contextLines lines.length) ∪
    (firstWarnings m limits.maxWarnings lines warnings []).toFinset ∪ stack.toFinset

def logOrdered (m : Matchers) (limits : LogLimits) (lines : List Text) : List ℕ :=
  let errors := positions (isError m) lines
  prioritised limits.maxLines errors (positions m.logSummary lines)
    (withoutWarnings m limits.maxWarnings errors lines (logSelected m limits lines).sort [])

def logView (m : Matchers) (limits : LogLimits) (content : Text) : Option LogView :=
  let lines := Text.splitlines content
  if lines.length < limits.minLinesForCompression then none
  else
    let errors := positions (isError m) lines
    let ordered := logOrdered m limits lines
    some {
      errors := errors.length
      warnings := ((positions m.warningLine lines).filter fun index => decide (index ∉ errors)).length
      omitted := max 0 (lines.length - ordered.length)
      shown := pick lines ordered }

def logHeader (omitted errors warnings : ℕ) : Text :=
  Text.ofString "[log compressed: " ++ decimal omitted ++ Text.ofString " lines omitted; ERROR=" ++
    decimal errors ++ Text.ofString " WARN=" ++ decimal warnings ++ Text.ofString "]"

def LogView.body (view : LogView) : Text :=
  Text.joinLines (logHeader view.omitted.toNat view.errors view.warnings :: view.shown)

/-- `LogTransformer.transform` -/
def logTransform (m : Matchers) (limits : LogLimits) (content : Text) : TransformResult :=
  match logView m limits content with
  | none => unchanged content "log-v1" .log
  | some view =>
    result m content view.body "log-v1" .log
      [metaInt "errors" view.errors, metaInt "warnings" view.warnings, metaInt "selected" view.shown.length,
        metaInt "omitted_lines" view.omitted.toNat]

theorem mem_of_firstWarnings {maxWarnings : ℤ} {indices : List ℕ} {seen : List Text}
    (mem : index ∈ firstWarnings m maxWarnings lines indices seen) : index ∈ indices := by
  induction indices generalizing seen with
  | nil => cases mem
  | cons first rest ih =>
    rw [firstWarnings] at mem
    split at mem
    · exact mem_cons_of_mem first (ih mem)
    · rcases mem_cons.1 mem with rfl | later
      · exact mem_cons_self
      · exact mem_cons_of_mem first (ih later)

theorem withoutWarnings_sublist (maxWarnings : ℤ) (errors indices : List ℕ) (retained : List Text) :
    (withoutWarnings m maxWarnings errors lines indices retained).Sublist indices := by
  induction indices generalizing retained with
  | nil => exact Sublist.refl []
  | cons index rest ih =>
    rw [withoutWarnings]
    split
    · split
      · exact (ih retained).cons index
      · exact (ih _).cons_cons index
    · exact (ih retained).cons_cons index

/-- The indices of selected lines are within the list, in order. -/
theorem logSelected_lt (limits : LogLimits) : ∀ index ∈ logSelected m limits lines, index < lines.length := by
  intro index mem
  simp only [logSelected, Finset.mem_union, Finset.mem_biUnion, mem_toFinset] at mem
  rcases mem with ((((start | stop) | summary) | ⟨error, _, near⟩) | warning) | stack
  · exact lt_of_mem_between (min_le_right _ _) start
  · exact lt_of_mem_between le_rfl stop
  · exact lt_of_mem_positions summary
  · exact lt_of_mem_between (min_le_left _ _) near
  · exact lt_of_mem_positions (mem_of_mem_filter (mem_of_firstWarnings warning))
  · exact lt_of_mem_positions (mem_of_mem_filter stack)

theorem prioritised_sublist {maxLines : ℤ} {errors summaries ordered : List ℕ} {length : ℕ}
    (inside : ordered.Sublist (List.range length)) :
    (prioritised maxLines errors summaries ordered).Sublist (List.range length) := by
  unfold prioritised
  split
  · have once : ordered.Nodup := List.nodup_range.sublist inside
    have part : (upTo maxLines (ordered.mergeSort fun first second =>
        tupleLe (rank errors summaries first, first) (rank errors summaries second, second))).Nodup :=
      ((mergeSort_perm _ _).nodup_iff.2 once).sublist (upTo_sublist _ _)
    have sub := subperm_of_subset ((mergeSort_perm _
      fun first second => decide (first ≤ second)).nodup_iff.2 part) fun index mem =>
        inside.subset (mem_mergeSort.1 ((upTo_sublist _ _).subset (mem_mergeSort.1 mem)))
    refine sublist_of_subperm_of_pairwise sub ?_ pairwise_le_range
    exact pairwise_mergeSort' (· ≤ ·) _
  · exact inside

theorem logOrdered_sublist (limits : LogLimits) :
    (logOrdered m limits lines).Sublist (List.range lines.length) :=
  prioritised_sublist ((withoutWarnings_sublist _ _ _ _).trans (sort_sublist_range (logSelected_lt limits)))

/-- The header of a log counts the lines that are not shown. -/
theorem accounts_logView {limits : LogLimits} {view : LogView} (found : logView m limits content = some view) :
    Accounts (Text.splitlines content) view.shown view.omitted := by
  unfold logView at found
  rcases Option.ite_none_left_eq_some.mp found with ⟨_, found⟩
  obtain rfl := Option.some.inj found
  have inside := @logOrdered_sublist m (Text.splitlines content) limits
  have least := inside.length_le
  rw [length_range] at least
  show Accounts _ _ (max 0 (((Text.splitlines content).length : ℤ) - _))
  rw [max_eq_right (by omega)]
  exact accounts_pick inside

/-! ### Git summaries -/

structure GitLimits where
  headLines : ℤ := 8
  tailLines : ℤ := 8
  maxFileEntries : ℤ := 30

structure GitView where
  entries : ℕ
  omittedEntries : ℤ
  omittedLines : ℤ
  shown : List Text

def gitSelected (m : Matchers) (limits : GitLimits) (lines : List Text) : Finset ℕ :=
  let entries := positions m.gitFileEntry lines
  between 0 (min limits.headLines lines.length) ∪
    between (max 0 (lines.length - limits.tailLines)) lines.length ∪ (positions m.gitTotals lines).toFinset ∪
    (upTo (limits.maxFileEntries / 2) entries).toFinset ∪
    (onward (-(limits.maxFileEntries - limits.maxFileEntries / 2)) entries).toFinset

def gitView (m : Matchers) (limits : GitLimits) (content : Text) : Option GitView :=
  let lines := Text.splitlines content
  let entries := positions m.gitFileEntry lines
  if entries.length ≤ limits.maxFileEntries then none
  else
    let selected := gitSelected m limits lines
    let ordered := selected.sort
    some {
      entries := entries.length
      omittedEntries := entries.length - (entries.toFinset ∩ selected).card
      omittedLines := lines.length - ordered.length
      shown := pick lines ordered }

def gitHeader (entries lines : ℕ) : Text :=
  Text.ofString "[git summary compressed: " ++ decimal entries ++ Text.ofString " file entries and " ++
    decimal lines ++ Text.ofString " lines omitted]"

def GitView.body (view : GitView) : Text :=
  Text.joinLines (gitHeader view.omittedEntries.toNat view.omittedLines.toNat :: view.shown)

/-- `GitSummaryTransformer.transform` -/
def gitTransform (m : Matchers) (limits : GitLimits) (content : Text) : TransformResult :=
  match gitView m limits content with
  | none => unchanged content "git-summary-v1" .gitSummary
  | some view =>
    result m content view.body "git-summary-v1" .gitSummary
      [metaInt "file_entries" view.entries, metaInt "omitted_file_entries" view.omittedEntries.toNat]

theorem gitSelected_lt (limits : GitLimits) : ∀ index ∈ gitSelected m limits lines, index < lines.length := by
  intro index mem
  simp only [gitSelected, Finset.mem_union, mem_toFinset] at mem
  rcases mem with (((start | stop) | totals) | first) | last
  · exact lt_of_mem_between (min_le_right _ _) start
  · exact lt_of_mem_between le_rfl stop
  · exact lt_of_mem_positions totals
  · exact lt_of_mem_positions ((upTo_sublist _ _).subset first)
  · exact lt_of_mem_positions (mem_of_mem_drop last)

/-- The lines that are picked and chosen are those at chosen positions. -/
theorem countP_pick (chosen : Text → Bool) {indices : List ℕ} (inside : ∀ index ∈ indices, index < lines.length) :
    (pick lines indices).countP chosen = indices.countP fun index => decide (index ∈ positions chosen lines) := by
  induction indices with
  | nil => rfl
  | cons index indices ih =>
    have there := getElem?_eq_getElem (inside index mem_cons_self)
    have rest := ih fun other mem => inside other (mem_cons_of_mem _ mem)
    have bound := inside index mem_cons_self
    have same : chosen lines[index] =
        decide (index ∈ positions chosen lines) := by
      rw [Bool.eq_iff_iff, decide_eq_true_iff, mem_positions]
      simp [there]
    rw [pick, filterMap_cons, there, countP_cons, countP_cons, ← pick, rest, same]

theorem length_positions (chosen : Text → Bool) (lines : List Text) :
    (positions chosen lines).length = lines.countP chosen := by
  rw [positions, length_map, ← countP_eq_length_filter]
  conv_rhs => rw [← zipIdx_map_fst 0 lines, countP_map]
  rfl

/-- The header of a Git summary counts the lines and the file entries that are not shown. -/
theorem accounts_gitView {limits : GitLimits} {view : GitView} (found : gitView m limits content = some view) :
    Accounts (Text.splitlines content) view.shown view.omittedLines ∧
      (view.shown.countP m.gitFileEntry : ℤ) + view.omittedEntries =
        (Text.splitlines content).countP m.gitFileEntry := by
  unfold gitView at found
  rcases Option.ite_none_left_eq_some.mp found with ⟨_, found⟩
  obtain rfl := Option.some.inj found
  have inside := @gitSelected_lt m (Text.splitlines content) limits
  refine ⟨accounts_pick (sort_sublist_range inside), ?_⟩
  have entries : (pick (Text.splitlines content) (gitSelected m limits (Text.splitlines content)).sort).countP
      m.gitFileEntry = ((positions m.gitFileEntry (Text.splitlines content)).toFinset ∩
        gitSelected m limits (Text.splitlines content)).card := by
    rw [countP_pick m.gitFileEntry fun index mem => inside index ((Finset.mem_sort _).1 mem),
      countP_eq_length_filter, ← toFinset_card_of_nodup ((Finset.sort_nodup _ _).filter _)]
    congr 1
    ext index
    simp only [mem_toFinset, mem_filter, Finset.mem_sort, decide_eq_true_iff, Finset.mem_inter, and_comm]
  show ((pick _ _).countP m.gitFileEntry : ℤ) + (_ - _) = _
  rw [entries, ← length_positions]
  omega

end Synapse.ToolOutput
