import Synapse.ToolOutput.LogLines
import Synapse.ToolOutput.SearchMatches

/-!
# What headers say

The numbers of shown and omitted items of a compressed output. Those of JSON data, logs and Git summaries are
right. A search leaves out files without counting their matches, and a text without a tail is shown again.
-/

namespace Synapse.ToolOutput

open List

variable {m : Matchers} {query content : Text}

/-! ### JSON -/

/-- `json.loads` of a text that is valid, and `json.dumps` for scores and for the body. -/
structure JsonHost where
  loads : Text → Option Value
  dumps : Value → Text
  render : Value → Text

/-- The word that makes a value important. -/
def alarming : List Text := ["error", "failed", "fatal", "exception"].map Text.ofString

/-- `_score` -/
def jsonScore (m : Matchers) (host : JsonHost) (terms : List Text) (value : Value) : ℕ :=
  let text := m.casefold (host.dumps value)
  let score := terms.countP fun term => decide (term <:+: text)
  if alarming.any fun word => decide (word <:+: text) then score + 5 else score

def queryTerms (m : Matchers) (query : Text) : List Text :=
  (((m.tokens query).filter fun term => decide (1 < term.length)).map m.casefold).dedup

inductive IndexError where
  | outOfRange
  deriving DecidableEq

inductive JsonView where
  | items (shown : List Value) (omitted : ℤ)
  | values (shown : List (Key × Value)) (omitted : ℤ)

def Key.text : Key → Text
  | .str value | .scalar value => value
  | .other => []

/-- The items with the best scores, the first one and the last one. -/
def jsonIndexes (m : Matchers) (host : JsonHost) (maxItems : ℤ) (terms : List Text) (items : List Value) :
    Finset ℕ :=
  let ranked := items.zipIdx.mergeSort fun first second =>
    tupleLe (jsonScore m host terms second.1, -(second.2 : ℤ)) (jsonScore m host terms first.1, -(first.2 : ℤ))
  {0, items.length - 1} ∪ ((upTo maxItems ranked).map Prod.snd).toFinset

/-- The entries by descending scores and keys. -/
def jsonRanked (m : Matchers) (host : JsonHost) (terms : List Text) (entries : List (Key × Value)) :
    List (Key × Value) :=
  entries.mergeSort fun first second =>
    tupleLe (jsonScore m host terms (.mapping true (.cons second.1 second.2 .nil)), Key.text second.1)
      (jsonScore m host terms (.mapping true (.cons first.1 first.2 .nil)), Key.text first.1)

def jsonView (m : Matchers) (host : JsonHost) (maxItems : ℤ) (query content : Text) :
    Except IndexError (Option JsonView) :=
  let terms := queryTerms m query
  match host.loads content with
  | some (.sequence data) =>
    let items := data.toList
    if maxItems < items.length then
      -- an empty list has no first item
      if items = [] then .error .outOfRange
      else
        let shown := pick items (jsonIndexes m host maxItems terms items).sort
        .ok (some (.items shown (items.length - shown.length)))
    else .ok none
  | some (.mapping true data) =>
    let entries := data.toList
    if maxItems < entries.length then
      let shown := upTo maxItems (jsonRanked m host terms entries)
      .ok (some (.values shown (entries.length - shown.length)))
    else .ok none
  | _ => .ok none

def intValue (value : ℤ) : Value := .int true value

def summaryOf (kind : String) (shown : ℕ) (omitted : ℤ) : Key × Value :=
  (.str (Text.ofString "_summary"), .mapping true (Entries.ofList
    [(.str (Text.ofString ("original_" ++ kind)), intValue (shown + omitted)),
      (.str (Text.ofString ("shown_" ++ kind)), intValue shown),
      (.str (Text.ofString ("omitted_" ++ kind)), intValue omitted)]))

/-- `body_data` -/
def JsonView.data : JsonView → Value
  | .items shown omitted => .mapping true (Entries.ofList [summaryOf "items" shown.length omitted,
      (.str (Text.ofString "items"), .sequence (Values.ofList shown))])
  | .values shown omitted => .mapping true (Entries.ofList [summaryOf "keys" shown.length omitted,
      (.str (Text.ofString "values"), .mapping true (Entries.ofList shown))])

/-- `JsonTransformer.transform` -/
def jsonTransform (m : Matchers) (host : JsonHost) (maxItems : ℤ) (content : Text) (context : TransformContext) :
    Except IndexError TransformResult := do
  match ← jsonView m host maxItems context.query content with
  | none => return unchanged content "json-v1" .json
  | some view =>
    return result m content (host.render view.data) "json-v1" .json [(Text.ofString "structured", .bool true)]

/-- What is shown of the data and what is counted. -/
def JsonView.Truthful (data : Option Value) : JsonView → Prop
  | .items shown omitted => ∃ items, data = some (.sequence items) ∧ Accounts items.toList shown omitted
  | .values shown omitted => ∃ entries, data = some (.mapping true entries) ∧
      (shown.length : ℤ) + omitted = entries.toList.length ∧ ∀ entry ∈ shown, entry ∈ entries.toList

theorem jsonIndexes_lt {host : JsonHost} {maxItems : ℤ} {terms : List Text} {items : List Value}
    (filled : items ≠ []) : ∀ index ∈ jsonIndexes m host maxItems terms items, index < items.length := by
  intro index mem
  have some := length_pos_of_ne_nil filled
  simp only [jsonIndexes, Finset.mem_union, Finset.mem_insert, Finset.mem_singleton, mem_toFinset,
    mem_map] at mem
  rcases mem with (rfl | rfl) | ⟨numbered, kept, rfl⟩
  · exact some
  · omega
  · have there := mem_mergeSort.1 ((upTo_sublist _ _).subset kept)
    exact (List.getElem?_eq_some_iff.1 (mk_mem_zipIdx_iff_getElem?.1 there)).1

theorem truthful_jsonView {host : JsonHost} {maxItems : ℤ} {view : JsonView}
    (found : jsonView m host maxItems query content = .ok (some view)) : view.Truthful (host.loads content) := by
  unfold jsonView at found
  simp only at found
  split at found
  · next data loaded =>
      split at found
      · split at found
        · cases found
        · next filled =>
            obtain rfl := Option.some.inj (Except.ok.inj found)
            have inside := sort_sublist_range (@jsonIndexes_lt m host maxItems
              (queryTerms m query) _ filled)
            refine ⟨data, loaded, ?_, pick_sublist inside⟩
            omega
      · cases found
  · next data loaded =>
      split at found
      · obtain rfl := Option.some.inj (Except.ok.inj found)
        refine ⟨data, loaded, by omega, fun entry mem => ?_⟩
        exact mem_mergeSort.1 ((upTo_sublist _ _).subset mem)
      · cases found
  · cases found

/-! ### Other texts -/

structure GenericView where
  head : List Text
  omitted : ℤ
  anchors : List Text
  tail : List Text

def GenericView.shown (view : GenericView) : List Text := view.head ++ view.anchors ++ view.tail

structure GenericLimits where
  headLines : ℤ := 40
  tailLines : ℤ := 16
  maxAnchorLines : ℤ := 12

/-- `items[start:stop]` -/
def slice (start stop : ℤ) (items : List Text) : List Text :=
  (items.take (sliceIndex items.length stop)).drop (sliceIndex items.length start)

def genericView (m : Matchers) (limits : GenericLimits) (content : Text) : Option GenericView :=
  let lines := Text.splitlines content
  if lines.length ≤ limits.headLines + limits.tailLines then none
  else
    let anchors := upTo limits.maxAnchorLines
      ((slice limits.headLines (-limits.tailLines) lines).filter m.errorLine)
    some {
      head := upTo limits.headLines lines
      omitted := max 0 (lines.length - limits.headLines - limits.tailLines - anchors.length)
      anchors := anchors
      tail := onward (-limits.tailLines) lines }

def GenericView.body (view : GenericView) : Text :=
  Text.joinLines (view.head ++ (Text.ofString "...[" ++ decimal view.omitted.toNat ++ Text.ofString " lines omitted]...") ::
    (view.anchors ++ view.tail))

/-- `GenericTransformer.transform` -/
def genericTransform (m : Matchers) (limits : GenericLimits) (content : Text) : TransformResult :=
  match genericView m limits content with
  | none => unchanged content "generic-v1" .text
  | some view =>
    result m content view.body "generic-v1" .text [metaInt "omitted_lines" view.omitted.toNat]

theorem accounts_genericView {limits : GenericLimits} {view : GenericView} (head : 0 ≤ limits.headLines)
    (tail : 1 ≤ limits.tailLines) (found : genericView m limits content = some view) :
    Accounts (Text.splitlines content) view.shown view.omitted := by
  unfold genericView at found
  rcases Option.ite_none_left_eq_some.mp found with ⟨_, found⟩
  next long =>
    obtain rfl := Option.some.inj found
    generalize Text.splitlines content = lines at long ⊢
    have start : sliceIndex lines.length limits.headLines = limits.headLines.toNat := if_neg (by omega)
    have stop : sliceIndex lines.length (-limits.tailLines) = (lines.length - limits.tailLines).toNat :=
      if_pos (by omega)
    have anchored : (upTo limits.maxAnchorLines
        ((slice limits.headLines (-limits.tailLines) lines).filter m.errorLine)).Sublist
          ((lines.take (sliceIndex lines.length (-limits.tailLines))).drop
            (sliceIndex lines.length limits.headLines)) :=
      (upTo_sublist _ _).trans filter_sublist
    have least := anchored.length_le
    rw [length_drop, length_take, start, stop] at least
    refine ⟨?_, ?_⟩
    · simp only [GenericView.shown, length_append, upTo, onward, length_take, length_drop] at least ⊢
      rw [start, stop]
      omega
    · have whole : lines = lines.take (sliceIndex lines.length limits.headLines) ++
          (lines.take (sliceIndex lines.length (-limits.tailLines))).drop
            (sliceIndex lines.length limits.headLines) ++
          lines.drop (sliceIndex lines.length (-limits.tailLines)) := by
        have front : lines.take (sliceIndex lines.length limits.headLines) =
            (lines.take (sliceIndex lines.length (-limits.tailLines))).take
              (sliceIndex lines.length limits.headLines) := by
          rw [take_take, min_eq_left (by omega)]
        rw [front, take_append_drop, take_append_drop]
      show (upTo limits.headLines lines ++ _ ++ onward (-limits.tailLines) lines).Sublist lines
      conv_rhs => rw [whole]
      exact ((Sublist.refl _).append anchored).append (Sublist.refl _)

/-- Whatever the greatest number of anchors is, the header is right exactly when there is a tail, or nothing to
leave out. -/
theorem generic_truthful_iff (m : Matchers) (head tail : ℤ) (content : Text) :
    (∀ anchors view, genericView m ⟨head, tail, anchors⟩ content = some view →
      Accounts (Text.splitlines content) view.shown view.omitted) ↔
    (Text.splitlines content).length ≤ head + tail ∨ (0 ≤ head ∧ 1 ≤ tail) := by
  constructor
  · intro truthful
    by_cases short : (Text.splitlines content).length ≤ head + tail
    · exact Or.inl short
    · right
      have view : genericView m ⟨head, tail, 0⟩ content = some ⟨upTo head (Text.splitlines content),
          max 0 ((Text.splitlines content).length - head - tail), [], onward (-tail) (Text.splitlines content)⟩ := by
        have none (lines : List Text) : upTo 0 lines = [] := take_zero
        unfold genericView
        simp only [if_neg short, none, length_nil, Nat.cast_zero, sub_zero]
      have counted := (truthful 0 _ view).count
      generalize Text.splitlines content = lines at counted short
      simp only [GenericView.shown, upTo, onward, sliceIndex, length_append, length_take,
        length_drop, length_nil] at counted
      split at counted <;> split at counted <;> omega
  · rintro (short | ⟨least, some⟩) anchors view found
    · rw [genericView] at found
      simp only [if_pos short] at found
      cases found
    · exact accounts_genericView least some found

/-! ### All headers -/

/-- The headers of logs, Git summaries and JSON data are right. That of a search is right when no file is left
out and matches come in order, that of another text when it has a tail. -/
theorem headers_truthful (m : Matchers) (host : JsonHost) (content : Text) :
    (∀ maxFiles, (∀ query perFile total view, searchView m ⟨maxFiles, perFile, total⟩ query content = some view →
        view.Truthful (searchMatches m content)) ↔
      searchMatches m content = [] ∨
        (((searchMatches m content).map Prod.fst).dedup.length ≤ maxFiles ∧
          Ascending (searchMatches m content))) ∧
    (∀ limits view, logView m limits content = some view →
      Accounts (Text.splitlines content) view.shown view.omitted) ∧
    (∀ limits view, gitView m limits content = some view →
      Accounts (Text.splitlines content) view.shown view.omittedLines ∧
        (view.shown.countP m.gitFileEntry : ℤ) + view.omittedEntries =
          (Text.splitlines content).countP m.gitFileEntry) ∧
    (∀ maxItems query view, jsonView m host maxItems query content = .ok (some view) →
      view.Truthful (host.loads content)) ∧
    (∀ head tail, (∀ anchors view, genericView m ⟨head, tail, anchors⟩ content = some view →
        Accounts (Text.splitlines content) view.shown view.omitted) ↔
      (Text.splitlines content).length ≤ head + tail ∨ (0 ≤ head ∧ 1 ≤ tail)) :=
  ⟨fun maxFiles => search_truthful_iff m maxFiles content, fun _ _ => accounts_logView,
    fun _ _ => accounts_gitView, fun _ _ _ => truthful_jsonView,
    fun head tail => generic_truthful_iff m head tail content⟩

/-- The regular expressions on the lines of the sample, which have neither errors nor warnings. -/
def sampleMatchers : Matchers where
  searchLine line := if Text.ofString ":1:x" <:+ line then some (line.take (line.length - 4), 1) else none
  errorLine _ := false
  exceptionLine _ := false
  warningLine _ := false
  stackLine _ := false
  logSummary _ := false
  gitStatus _ := false
  gitTotals _ := false
  gitFileEntry _ := false
  withoutValues line := line
  tokens _ := []
  casefold line := line
  score _ _ := 0
  sum scores := scores.sum

/-- A match in each of sixteen files. -/
def sixteenFiles : Text :=
  Text.joinLines ((List.range 16).map fun number => Text.ofString "f" ++ decimal number ++ Text.ofString ":1:x")

/-- Of sixteen files fifteen are looked at, and the matches of the last one are neither shown nor counted. -/
theorem file_uncounted : ∃ view, searchView sampleMatchers {} [] sixteenFiles = some view ∧
    view.shown.length + view.omitted < (searchMatches sampleMatchers sixteenFiles).length ∧
      ¬ view.Truthful (searchMatches sampleMatchers sixteenFiles) := by
  have files : ((searchMatches sampleMatchers sixteenFiles).map Prod.fst).dedup.length = 16 := by decide +kernel
  have filled : searchMatches sampleMatchers sixteenFiles ≠ [] := by decide +kernel
  have some : grouped (searchMatches sampleMatchers sixteenFiles) ≠ [] := by decide +kernel
  have found : ∃ view, searchView sampleMatchers {} [] sixteenFiles = Option.some view := by
    unfold searchView
    simp only [if_neg some]
    exact ⟨_, rfl⟩
  rcases found with ⟨view, found⟩
  have short : ({} : SearchLimits).maxFiles < ((searchMatches sampleMatchers sixteenFiles).map Prod.fst).dedup.length := by
    rw [files]
    decide
  have fewer : view.shown.length + view.omitted < (searchMatches sampleMatchers sixteenFiles).length := by
    rw [count_shown found]
    exact total_rankedFiles_lt short filled
  exact ⟨view, found, fewer, fun truthful => absurd truthful.count fewer.ne⟩

end Synapse.ToolOutput
