import Synapse.Console.WordDiff

/-!
# The parts of a word difference

The parts of either line are the runs of its tokens that are marked alike. They give the lines back, the
parts that are kept are equal, and they have as many tokens as a longest common subsequence. A part ends
inside a character when tokens of the two lines are halves of different characters, one half in common.
-/

namespace Synapse.Console

open List
open Subsequence

/-! ### Tokens -/

/-- Neighbours that are in one token. -/
def joins (first second : UInt16) : Bool :=
  isWordUnit first && isWordUnit second || JsText.isSpace first && JsText.isSpace second

variable {unit : UInt16}

theorem not_space_of_word (word : isWordUnit unit = true) :
    JsText.isSpace unit = false := by
  rw [Bool.eq_false_iff]
  intro space
  simp only [isWordUnit, JsText.isSpace, Bool.or_eq_true, Bool.and_eq_true, decide_eq_true_eq,
    beq_iff_eq] at word space
  omega

theorem isChain_run {α : Type} {p : α → Bool} {r : α → α → Bool}
    (inside : ∀ first second, p first = true → p second = true → r first second = true)
    {run : List α} (own : ∀ entry ∈ run, p entry = true) : run.IsChain fun x y => r x y = true := by
  induction run with
  | nil => exact isChain_nil
  | cons entry run ih =>
    refine isChain_cons.2 ⟨?_, ih fun other present => own other (mem_cons_of_mem _ present)⟩
    intro next first
    exact inside entry next (own entry mem_cons_self)
      (own next (mem_cons_of_mem _ (mem_of_mem_head? first)))

theorem splitBy_run {α : Type} {p : α → Bool} {r : α → α → Bool}
    (inside : ∀ first second, p first = true → p second = true → r first second = true)
    (border : ∀ first second, p first = true → p second = false → r first second = false)
    {entry : α} {rest : List α} (own : p entry = true) : (entry :: rest).splitBy r =
      (entry :: rest.takeWhile p) :: (rest.dropWhile p).splitBy r := by
  have run : ∀ other ∈ entry :: rest.takeWhile p, p other = true := by
    intro other present
    rcases mem_cons.1 present with rfl | present
    · exact own
    · exact mem_takeWhile_imp present
  have parts : entry :: rest = (entry :: rest.takeWhile p) ++ rest.dropWhile p := by
    rw [cons_append, takeWhile_append_dropWhile]
  have apart : ∀ x ∈ (entry :: rest.takeWhile p).getLast?, ∀ y ∈ (rest.dropWhile p).head?,
      r x y = false := by
    intro x last y first
    have stop : p y = false := by
      have head := head?_dropWhile_not p rest
      rw [Option.mem_def.1 first] at head
      exact head
    exact border x y (run x (mem_of_mem_getLast? last)) stop
  rw [parts, splitBy_append apart,
    splitBy_of_isChain (cons_ne_nil _ _) (isChain_run inside run)]
  rfl

theorem tokenizeLine_eq (text : JsText) : tokenizeLine text = text.splitBy joins := by
  fun_induction tokenizeLine text with
  | case1 => rfl
  | case2 unit rest word ih =>
    rw [ih, splitBy_run (p := isWordUnit) _ _ word]
    · intro first second one other
      rw [joins, one, other]
      rfl
    · intro first second one other
      rw [joins, other, not_space_of_word one, Bool.and_false]
      rfl
  | case3 unit rest word space ih =>
    have border : ∀ first second, JsText.isSpace first = true → JsText.isSpace second = false →
        joins first second = false := by
      intro first second one other
      have plain : isWordUnit first = false := by
        by_contra word
        rw [not_space_of_word (Bool.not_eq_false _ ▸ word)] at one
        cases one
      rw [joins, other, plain, Bool.and_false]
      rfl
    have inside : ∀ first second, JsText.isSpace first = true → JsText.isSpace second = true →
        joins first second = true := by
      intro first second one other
      rw [joins, one, other, Bool.and_self, Bool.or_true]
    rw [ih, splitBy_run inside border space]
  | case4 unit rest word space ih =>
    have apart : ∀ x ∈ [unit].getLast?, ∀ y ∈ rest.head?, joins x y = false := by
      intro x last y _
      have own : unit = x := Option.some.inj last
      rw [← own, joins, Bool.eq_false_iff.2 word, Bool.eq_false_iff.2 space]
      rfl
    have parts : unit :: rest = [unit] ++ rest := rfl
    rw [ih, parts, splitBy_append apart]
    rfl

theorem flatten_tokenizeLine (text : JsText) : (tokenizeLine text).flatten = text := by
  rw [tokenizeLine_eq, flatten_splitBy]

variable {tokens : List JsText}

theorem tokenizeLine_infix {text : JsText}
    (inside : tokens <:+: tokenizeLine text) : tokenizeLine tokens.flatten = tokens := by
  rw [tokenizeLine_eq] at inside
  rw [tokenizeLine_eq]
  refine splitBy_flatten ?_ ?_ ?_
  · exact fun present => nil_notMem_splitBy joins text (inside.subset present)
  · exact fun token present => isChain_of_mem_splitBy (inside.subset present)
  · exact IsChain.infix (isChain_getLast_head_splitBy joins text) inside

theorem token_ne_nil {text token : JsText} (present : token ∈ tokenizeLine text) : token ≠ [] := by
  rw [tokenizeLine_eq] at present
  exact ne_nil_of_mem_splitBy present

/-! ### The table -/

section

variable {α : Type} [DecidableEq α]

theorem tableRow_getD (x : α) (xs ys : List α) (below : List ℕ)
    (known : ∀ j, below.getD j 0 = longest xs (ys.drop j)) (j : ℕ) :
    (tableRow x ys below).getD j 0 = longest (x :: xs) (ys.drop j) := by
  induction ys generalizing below j with
  | nil =>
    rw [drop_nil, longest_nil, tableRow]
    cases j with
    | zero => rfl
    | succ j => rfl
  | cons y ys ih =>
    have next : ∀ j, below.tail.getD j 0 = longest xs (ys.drop j) := by
      intro j
      have own := known (j + 1)
      cases below with
      | nil => exact own
      | cons first below => exact own
    have head : ∀ entries : List ℕ, entries.headD 0 = entries.getD 0 0 := by
      intro entries
      cases entries with
      | nil => rfl
      | cons first entries => rfl
    rw [tableRow]
    cases j with
    | succ j => exact ih below.tail next j
    | zero =>
      have diagonal := next 0
      have under := known 0
      have right := ih below.tail next 0
      rw [drop_zero] at diagonal under right
      rw [getD_cons_zero, head, head, head, diagonal, under, right, drop_zero, longest]

/-- The entries of the table are the lengths for what is left of the lists. -/
theorem entry_lcsTable (xs ys : List α) (i j : ℕ) :
    entry (lcsTable xs ys) i j = longest (xs.drop i) (ys.drop j) := by
  induction xs generalizing i j with
  | nil =>
    rw [drop_nil, longest, entry, lcsTable]
    cases i with
    | zero =>
      rw [getD_cons_zero, getD_eq_getElem?_getD,
        getElem?_getD_replicate_default_eq]
    | succ i => rfl
  | cons x xs ih =>
    rw [lcsTable]
    cases i with
    | succ i => exact ih i j
    | zero =>
      refine tableRow_getD x xs ys _ (fun j => ?_) j
      have first := ih 0 j
      rw [drop_zero, entry] at first
      cases table : lcsTable xs ys with
      | nil => rw [table] at first; exact first
      | cons row rows => rw [table] at first; exact first

theorem walk_eq_align (midOld midNew : List α) (i j : ℕ) (xs ys : List α)
    (left : midOld.drop i = xs) (right : midNew.drop j = ys) :
    walk (lcsTable midOld midNew) i j xs ys = align xs ys := by
  have next : ∀ {list : List α} {n : ℕ} {x : α} {rest : List α},
      list.drop n = x :: rest → list.drop (n + 1) = rest := by
    intro list n x rest shape
    rw [← tail_drop, shape, tail_cons]
  fun_induction align xs ys generalizing i j with
  | case1 ys => rw [walk]
  | case2 x xs => rw [walk]
  | case3 xs x ys ih => rw [walk, if_pos rfl, ih (i + 1) (j + 1) (next left) (next right)]
  | case4 x xs y ys different more ih =>
    rw [walk, if_neg different, entry_lcsTable, entry_lcsTable, left, right, next left, next right,
      if_pos more, ih (i + 1) j (next left) right]
  | case5 x xs y ys different more ih =>
    rw [walk, if_neg different, entry_lcsTable, entry_lcsTable, left, right, next left, next right,
      if_neg more, ih i (j + 1) left (next right)]

theorem take_prefixLength (xs ys : List α) :
    xs.take (prefixLength xs ys) = ys.take (prefixLength xs ys) := by
  fun_induction prefixLength xs ys with
  | case1 x xs ys ih => rw [take_succ_cons, take_succ_cons, ih]
  | case2 x xs y ys different => rfl
  | case3 xs ys other => rfl

theorem trimmed_parts (xs ys : List α) :
    (trimmed xs ys).start ++ ((trimmed xs ys).midOld ++ (trimmed xs ys).finish) = xs ∧
      (trimmed xs ys).start ++ ((trimmed xs ys).midNew ++ (trimmed xs ys).finish) = ys := by
  have finish : ∀ first second : List α,
      first.drop (first.length - prefixLength first.reverse second.reverse) =
        second.drop (second.length - prefixLength first.reverse second.reverse) := by
    intro first second
    have ends := take_prefixLength first.reverse second.reverse
    rw [take_reverse, take_reverse] at ends
    exact reverse_injective ends
  refine ⟨?_, ?_⟩
  · rw [trimmed]
    dsimp only
    rw [take_append_drop, take_append_drop]
  · rw [trimmed]
    dsimp only
    rw [finish, take_append_drop, take_prefixLength, take_append_drop]

/-- The pushed tokens are an alignment between what the lines start and end with together. -/
theorem tokenSteps_eq (xs ys : List α) : tokenSteps xs ys =
    (trimmed xs ys).start.map .same ++
      align (trimmed xs ys).midOld (trimmed xs ys).midNew ++
      (trimmed xs ys).finish.map .same := by
  rw [tokenSteps, walk_eq_align _ _ 0 0 _ _ drop_zero drop_zero]

theorem olds_tokenSteps (xs ys : List α) : olds (tokenSteps xs ys) =
    (trimmed xs ys).start.map (true, ·) ++
      (olds (align (trimmed xs ys).midOld (trimmed xs ys).midNew) ++
        (trimmed xs ys).finish.map (true, ·)) := by
  rw [tokenSteps_eq, append_assoc, olds_append, olds_append, olds_map_same, olds_map_same]

theorem news_tokenSteps (xs ys : List α) : news (tokenSteps xs ys) =
    (trimmed xs ys).start.map (true, ·) ++
      (news (align (trimmed xs ys).midOld (trimmed xs ys).midNew) ++
        (trimmed xs ys).finish.map (true, ·)) := by
  rw [tokenSteps_eq, append_assoc, news_append, news_append, news_map_same, news_map_same]

theorem map_olds_tokenSteps (xs ys : List α) : (olds (tokenSteps xs ys)).map (·.2) = xs := by
  rw [olds_tokenSteps, map_append, map_append, map_mark, map_mark, map_olds_align]
  exact (trimmed_parts xs ys).1

theorem map_news_tokenSteps (xs ys : List α) : (news (tokenSteps xs ys)).map (·.2) = ys := by
  rw [news_tokenSteps, map_append, map_append, map_mark, map_mark, map_news_align]
  exact (trimmed_parts xs ys).2

theorem kept_tokenSteps (xs ys : List α) :
    kept (olds (tokenSteps xs ys)) = kept (news (tokenSteps xs ys)) := by
  rw [olds_tokenSteps, news_tokenSteps, kept_append, kept_append, kept_append, kept_append,
    kept_align]

theorem length_kept_tokenSteps (xs ys : List α) :
    (kept (olds (tokenSteps xs ys))).length = longest xs ys := by
  have parts := trimmed_parts xs ys
  have value : longest xs ys = (trimmed xs ys).start.length +
      (longest (trimmed xs ys).midOld (trimmed xs ys).midNew + (trimmed xs ys).finish.length) := by
    rw [← longest_append_right, ← longest_append_left, parts.1, parts.2]
  rw [value, olds_tokenSteps, kept_append, kept_append, kept_map_true, kept_map_true,
    length_append, length_append, length_kept_align]

end

/-! ### Parts -/

/-- The type of a marked token; `kind` is that of the tokens of a line that are not kept. -/
def typeOf (kind : DiffWordType) (flag : Bool) : DiffWordType := if flag then .same else kind

def pushMark (kind : DiffWordType) (target : List DiffWordPart) (mark : Bool × JsText) :
    List DiffWordPart :=
  pushPart target mark.2 (typeOf kind mark.1)

theorem foldl_push (steps : List (Step JsText)) (diff : WordDiff) : steps.foldl WordDiff.push diff =
    { oldParts := (olds steps).foldl (pushMark .removed) diff.oldParts
      newParts := (news steps).foldl (pushMark .added) diff.newParts } := by
  induction steps generalizing diff with
  | nil => rfl
  | cons step steps ih =>
    rw [foldl_cons, ih]
    cases step with
    | same text => rfl
    | removed text => rfl
    | added text => rfl

/-- The part of a run of tokens that are marked alike. -/
def partOf (kind : DiffWordType) (run : Bool × List JsText) : DiffWordPart where
  text := run.2.flatten
  type := typeOf kind run.1

/-- Parts that are the runs of marked tokens. -/
def Grouped (kind : DiffWordType) (marks : List (Bool × JsText)) (parts : List DiffWordPart) : Prop :=
  ∃ runs : List (Bool × List JsText), marks = runs.flatMap (fun run => run.2.map (run.1, ·)) ∧
    parts = runs.map (partOf kind) ∧ (∀ run ∈ runs, run.2 ≠ []) ∧
    runs.IsChain fun first second => first.1 ≠ second.1

variable {kind : DiffWordType} {marks : List (Bool × JsText)} {parts : List DiffWordPart}

theorem typeOf_inj (other : kind ≠ .same) {first second : Bool}
    (alike : typeOf kind first = typeOf kind second) : first = second := by
  cases first <;> cases second
  · rfl
  · exact absurd alike other
  · exact absurd alike.symm other
  · rfl

theorem pushPart_concat (other : kind ≠ .same) {text : JsText} (filled : text ≠ []) (flag : Bool)
    (init : List DiffWordPart) (last : Bool × List JsText) :
    pushPart (init ++ [partOf kind last]) text (typeOf kind flag) =
      if last.1 = flag then init ++ [partOf kind (last.1, last.2 ++ [text])]
      else init ++ [partOf kind last] ++ [partOf kind (flag, [text])] := by
  have single : [text].flatten = text := append_nil text
  rw [pushPart, if_neg filled, getLast?_concat, dropLast_concat]
  dsimp only [partOf]
  by_cases same : last.1 = flag
  · rw [if_pos same, if_pos (congrArg (typeOf kind) same), flatten_append, single]
  · rw [if_neg same, if_neg fun alike => same (typeOf_inj other alike), single]

theorem Grouped.push (grouped : Grouped kind marks parts) (other : kind ≠ .same) {mark : Bool × JsText}
    (filled : mark.2 ≠ []) : Grouped kind (marks ++ [mark]) (pushMark kind parts mark) := by
  rcases grouped with ⟨runs, rfl, rfl, nonempty, apart⟩
  rcases mark with ⟨flag, text⟩
  rw [pushMark]
  rcases eq_nil_or_concat' runs with rfl | ⟨init, last, rfl⟩
  · refine ⟨[(flag, [text])], rfl, ?_, ?_, isChain_singleton _⟩
    · rw [pushPart, if_neg filled]
      exact congrArg (fun text => [DiffWordPart.mk text (typeOf kind flag)]) (append_nil text).symm
    · intro run present
      rw [mem_singleton.1 present]
      exact cons_ne_nil _ _
  · rw [isChain_append] at apart
    rw [map_append, map_singleton, pushPart_concat other filled, flatMap_append,
      flatMap_singleton]
    split
    · rename_i same
      refine ⟨init ++ [(last.1, last.2 ++ [text])], ?_, ?_, ?_, ?_⟩
      · rw [flatMap_append, flatMap_singleton, map_append, append_assoc, same]
        rfl
      · rw [map_append, map_singleton]
      · intro run present
        rcases mem_append.1 present with present | present
        · exact nonempty run (mem_append_left _ present)
        · rw [mem_singleton.1 present]
          exact append_ne_nil_of_right_ne_nil _ (cons_ne_nil _ _)
      · rw [isChain_append]
        refine ⟨apart.1, isChain_singleton _, ?_⟩
        rintro run final next ⟨⟩
        exact apart.2.2 run final last rfl
    · rename_i different
      refine ⟨init ++ [last] ++ [(flag, [text])], ?_, ?_, ?_, ?_⟩
      · rw [flatMap_append, flatMap_append, flatMap_singleton, flatMap_singleton]
        rfl
      · rw [map_append, map_append, map_singleton, map_singleton]
      · intro run present
        rcases mem_append.1 present with present | present
        · exact nonempty run present
        · rw [mem_singleton.1 present]
          exact cons_ne_nil _ _
      · rw [isChain_append, isChain_append]
        refine ⟨apart, isChain_singleton _, ?_⟩
        rintro run final next ⟨⟩
        rw [getLast?_concat, Option.mem_some] at final
        rw [← final]
        exact different

theorem grouped_foldl (other : kind ≠ .same) (filled : ∀ mark ∈ marks, mark.2 ≠ []) :
    Grouped kind marks (marks.foldl (pushMark kind) []) := by
  induction marks using List.reverseRecOn with
  | nil => exact ⟨[], rfl, rfl, fun run present => absurd present not_mem_nil, isChain_nil⟩
  | append_singleton marks mark ih =>
    rw [foldl_append]
    exact (ih fun mark present => filled mark (mem_append_left _ present)).push other
      (filled mark (mem_append_right _ mem_cons_self))

/-- The parts of a type that are kept. -/
def sameParts (parts : List DiffWordPart) : List DiffWordPart :=
  parts.filter fun part => part.type = .same

def textOf (parts : List DiffWordPart) : JsText := parts.flatMap (·.text)

/-- The number of tokens that parts mark as kept. -/
def sameTokens (parts : List DiffWordPart) : ℕ :=
  ((sameParts parts).map fun part => (tokenizeLine part.text).length).sum

theorem sameParts_cons (other : kind ≠ .same) (run : Bool × List JsText) (parts : List DiffWordPart) :
    sameParts (partOf kind run :: parts) =
      if run.1 then partOf kind run :: sameParts parts else sameParts parts := by
  rcases run with ⟨flag, texts⟩
  cases flag with
  | true => rfl
  | false =>
    rw [sameParts, filter_cons_of_neg]
    · rfl
    · rw [decide_eq_true_iff]
      exact other

theorem kept_run (flag : Bool) (texts : List JsText) (marks : List (Bool × JsText)) :
    kept (texts.map (flag, ·) ++ marks) = if flag then texts ++ kept marks else kept marks := by
  rw [kept_append]
  cases flag with
  | true => rw [kept_map_true, if_pos rfl]
  | false => rw [kept_map_false, if_neg Bool.false_ne_true]; rfl

theorem Grouped.text (grouped : Grouped kind marks parts) :
    textOf parts = (marks.map (·.2)).flatten := by
  rcases grouped with ⟨runs, rfl, rfl, nonempty, apart⟩
  clear nonempty apart
  induction runs with
  | nil => rfl
  | cons run runs ih =>
    rw [flatMap_cons, map_append, map_mark, flatten_append, ← ih]
    rfl

theorem Grouped.same_text (grouped : Grouped kind marks parts) (other : kind ≠ .same) :
    textOf (sameParts parts) = (kept marks).flatten := by
  rcases grouped with ⟨runs, rfl, rfl, nonempty, apart⟩
  clear nonempty apart
  induction runs with
  | nil => rfl
  | cons run runs ih =>
    rw [flatMap_cons, map_cons, sameParts_cons other, kept_run]
    split
    · rw [flatten_append, ← ih]
      rfl
    · exact ih

theorem Grouped.types (grouped : Grouped kind marks parts) (other : kind ≠ .same) :
    parts.IsChain fun first second => first.type ≠ second.type := by
  rcases grouped with ⟨runs, rfl, rfl, nonempty, apart⟩
  rw [isChain_map]
  exact apart.imp fun first second different alike => different (typeOf_inj other alike)

theorem Grouped.same_tokens (grouped : Grouped kind marks parts) (other : kind ≠ .same)
    {text : JsText} (line : marks.map (·.2) = tokenizeLine text) :
    sameTokens parts = (kept marks).length := by
  rcases grouped with ⟨runs, rfl, rfl, nonempty, apart⟩
  have own : ∀ run ∈ runs, tokenizeLine run.2.flatten = run.2 := by
    intro run present
    have inside : run.2 <:+: tokenizeLine text := by
      rcases append_of_mem present with ⟨before, after, rfl⟩
      rw [← line, flatMap_append, flatMap_cons, map_append, map_append, map_mark,
        ← append_assoc]
      exact infix_append _ _ _
    exact tokenizeLine_infix inside
  clear line nonempty apart
  induction runs with
  | nil => rfl
  | cons run runs ih =>
    have rest := ih fun other present => own other (mem_cons_of_mem _ present)
    rw [flatMap_cons, map_cons, sameTokens, sameParts_cons other, kept_run]
    split
    · have size : (tokenizeLine (partOf kind run).text).length = run.2.length :=
        congrArg List.length (own run mem_cons_self)
      rw [map_cons, sum_cons, length_append, size, ← rest]
      rfl
    · exact rest

/-! ### Characters -/

/-- A text that ends with the first half of a character. -/
def endsHigh (text : JsText) : Bool := text.getLast?.any Utf16.isHigh

/-- A text that starts with the second half of a character. -/
def startsLow (text : JsText) : Bool := text.head?.any Utf16.isLow

/-- Neighbouring tokens that are halves of a character are marked alike. -/
def Together (first second : Bool × JsText) : Prop :=
  endsHigh first.2 = true → startsLow second.2 = true → first.1 = second.1

theorem endsHigh_flatten {texts : List JsText} {last : JsText} (final : texts.getLast? = some last)
    (filled : last ≠ []) : endsHigh texts.flatten = endsHigh last := by
  rcases getLast?_eq_some_iff.1 final with ⟨init, rfl⟩
  rw [flatten_append, flatten_singleton, endsHigh, endsHigh,
    getLast?_append_of_ne_nil _ filled]

theorem startsLow_flatten {texts : List JsText} {first : JsText} (head : texts.head? = some first)
    (filled : first ≠ []) : startsLow texts.flatten = startsLow first := by
  rcases head?_eq_some_iff.1 head with ⟨rest, rfl⟩
  rw [flatten_cons, startsLow, startsLow, head?_append_of_ne_nil _ filled]

/-- Parts do not end inside a character when its halves are marked alike. -/
theorem Grouped.whole (grouped : Grouped kind marks parts) (filled : ∀ mark ∈ marks, mark.2 ≠ [])
    (together : marks.IsChain Together) :
    parts.IsChain fun first second => ¬ (endsHigh first.text ∧ startsLow second.text) := by
  rcases grouped with ⟨runs, rfl, rfl, nonempty, apart⟩
  rw [isChain_map]
  induction runs with
  | nil => exact isChain_nil
  | cons run runs ih =>
    rw [flatMap_cons, isChain_append] at together
    rw [isChain_cons] at apart ⊢
    have later : runs.IsChain fun first second =>
        ¬ (endsHigh (partOf kind first).text ∧ startsLow (partOf kind second).text) :=
      ih (fun mark present => filled mark (mem_append_right _ present)) together.2.1
        (fun run present => nonempty run (mem_cons_of_mem _ present)) apart.2
    refine ⟨?_, later⟩
    rintro next first ⟨high, low⟩
    rcases head?_eq_some_iff.1 first with ⟨rest, rfl⟩
    have own := nonempty run mem_cons_self
    have their := nonempty next (mem_cons_of_mem _ mem_cons_self)
    have last := getLast?_eq_some_getLast own
    have head := head?_eq_some_head their
    have mark : (run.1, run.2.getLast own) ∈ (run.2.map (run.1, ·)).getLast? := by
      rw [getLast?_map, last]
      rfl
    have after : (next.1, next.2.head their) ∈
        ((next :: rest).flatMap fun run => run.2.map (run.1, ·)).head? := by
      rw [flatMap_cons, head?_append, head?_map, head]
      rfl
    have first_filled := filled _ (mem_append_left _ (mem_of_mem_getLast? mark))
    have second_filled := filled _ (mem_append_right _ (mem_of_mem_head? after))
    refine apart.1 next rfl (together.2.2 _ mark _ after ?_ ?_)
    · rw [← endsHigh_flatten last first_filled]
      exact high
    · rw [← startsLow_flatten head second_filled]
      exact low

/-- Tokens with the two halves of a character together. -/
def characters : List JsText → List (List JsText)
  | [] => []
  | [token] => [[token]]
  | first :: second :: rest =>
    if endsHigh first && startsLow second then [first, second] :: characters rest
    else [first] :: characters (second :: rest)

theorem flatten_characters (tokens : List JsText) : (characters tokens).flatten = tokens := by
  fun_induction characters tokens with
  | case1 => rfl
  | case2 token => rfl
  | case3 first second rest pair ih => rw [flatten_cons, ih]; rfl
  | case4 first second rest plain ih => rw [flatten_cons, ih]; rfl

theorem character_ne_nil : ∀ block ∈ characters tokens, block ≠ [] := by
  fun_induction characters tokens with
  | case1 => exact fun block present => absurd present not_mem_nil
  | case2 token =>
    intro block present
    rw [mem_singleton.1 present]
    exact cons_ne_nil _ _
  | case3 first second rest pair ih =>
    intro block present
    rcases mem_cons.1 present with rfl | later
    · exact cons_ne_nil _ _
    · exact ih block later
  | case4 first second rest plain ih =>
    intro block present
    rcases mem_cons.1 present with rfl | later
    · exact cons_ne_nil _ _
    · exact ih block later

/-- No token is both halves. -/
def Halved (tokens : List JsText) : Prop :=
  ∀ token ∈ tokens, ¬ (endsHigh token = true ∧ startsLow token = true)

theorem character_nodup (halved : Halved tokens) :
    ∀ block ∈ characters tokens, block.Nodup := by
  fun_induction characters tokens with
  | case1 => exact fun block present => absurd present not_mem_nil
  | case2 token =>
    intro block present
    rw [mem_singleton.1 present]
    exact nodup_singleton token
  | case3 first second rest pair ih =>
    intro block present
    rcases mem_cons.1 present with rfl | later
    · rw [Bool.and_eq_true] at pair
      have different : first ≠ second := by
        rintro rfl
        exact halved first mem_cons_self pair
      rw [nodup_cons, mem_singleton]
      exact ⟨different, nodup_singleton second⟩
    · exact ih (fun token inside =>
        halved token (mem_cons_of_mem _ (mem_cons_of_mem _ inside))) block later
  | case4 first second rest plain ih =>
    intro block present
    rcases mem_cons.1 present with rfl | later
    · exact nodup_singleton first
    · exact ih (fun token inside => halved token (mem_cons_of_mem _ inside)) block later

theorem whole_tokens {blocks : List (List JsText)}
    (whole : Whole marks blocks) : marks.map (·.2) = blocks.flatten := by
  induction whole with
  | nil => rfl
  | cons flag block rest ih => rw [map_append, map_mark, ih, flatten_cons]

/-- Halves of characters that are kept or dropped as a whole are marked alike. -/
theorem together_of_whole (halved : Halved tokens) (whole : Whole marks (characters tokens)) :
    marks.IsChain Together := by
  fun_induction characters tokens generalizing marks with
  | case1 =>
    cases whole
    exact isChain_nil
  | case2 token =>
    cases whole with
    | cons flag block rest =>
      cases rest
      exact isChain_singleton _
  | case3 first second rest pair ih =>
    cases whole with
    | cons flag block rest =>
      have later := ih (fun token inside =>
        halved token (mem_cons_of_mem _ (mem_cons_of_mem _ inside))) rest
      rw [Bool.and_eq_true] at pair
      refine isChain_cons.2 ⟨?_, isChain_cons.2 ⟨?_, later⟩⟩
      · rintro next ⟨⟩ _ _
        rfl
      · intro next _ high _
        exact absurd ⟨high, pair.2⟩ (halved second (mem_cons_of_mem _ mem_cons_self))
  | case4 first second rest plain ih =>
    cases whole with
    | @cons flag block marks _ rest =>
      have later := ih (fun token inside => halved token (mem_cons_of_mem _ inside)) rest
      refine isChain_cons.2 ⟨?_, later⟩
      intro next head high low
      have tokens := whole_tokens rest
      rw [flatten_characters] at tokens
      rcases head?_eq_some_iff.1 head with ⟨others, rfl⟩
      rw [map_cons, cons.injEq] at tokens
      rw [tokens.1] at low
      exact absurd (Bool.and_eq_true_iff.2 ⟨high, low⟩) plain

theorem not_high_of_joins {first second : UInt16} (joined : joins first second = true) :
    Utf16.isHigh second = false := by
  rw [Bool.eq_false_iff]
  intro high
  simp only [joins, isWordUnit, JsText.isSpace, Utf16.isHigh, Bool.or_eq_true, Bool.and_eq_true,
    decide_eq_true_eq, beq_iff_eq] at joined high
  omega

theorem halved_tokenizeLine (text : JsText) : Halved (tokenizeLine text) := by
  rintro token present ⟨high, low⟩
  rw [tokenizeLine_eq] at present
  have chain := isChain_of_mem_splitBy present
  rw [endsHigh] at high
  rw [startsLow] at low
  rcases eq_nil_or_concat' token with rfl | ⟨init, last, rfl⟩
  · cases high
  · rw [getLast?_concat] at high
    have last_high : Utf16.isHigh last = true := high
    rcases eq_nil_or_concat' init with rfl | ⟨before, unit, rfl⟩
    · have last_low : Utf16.isLow last = true := low
      simp only [Utf16.isHigh, Utf16.isLow, Bool.and_eq_true, decide_eq_true_eq] at last_high last_low
      omega
    · have joined := (isChain_append.1 chain).2.2 unit getLast?_concat last rfl
      rw [not_high_of_joins joined] at last_high
      cases last_high

/-! ### Lines -/

/-- Two neighbouring runs of tokens do not share a character. -/
def Seam (before after : List JsText) : Prop :=
  ∀ first ∈ before.getLast?, ∀ second ∈ after.head?,
    ¬ (endsHigh first = true ∧ startsLow second = true)

/-- What the lines start and end with together has whole characters, and characters of what is between
that share a half are equal. -/
structure Uncut (oldTokens newTokens : List JsText) : Prop where
  start_old : Seam (trimmed oldTokens newTokens).start (trimmed oldTokens newTokens).midOld
  start_new : Seam (trimmed oldTokens newTokens).start (trimmed oldTokens newTokens).midNew
  finish_old : Seam (trimmed oldTokens newTokens).midOld (trimmed oldTokens newTokens).finish
  finish_new : Seam (trimmed oldTokens newTokens).midNew (trimmed oldTokens newTokens).finish
  apart : ∀ first ∈ characters (trimmed oldTokens newTokens).midOld,
    ∀ second ∈ characters (trimmed oldTokens newTokens).midNew,
      ∀ token ∈ first, token ∈ second → first = second

theorem chain_kept (tokens : List JsText) : (tokens.map (true, ·)).IsChain Together := by
  induction tokens with
  | nil => exact isChain_nil
  | cons token tokens ih =>
    refine isChain_cons.2 ⟨?_, ih⟩
    intro next first _ _
    rcases mem_map.1 (mem_of_mem_head? first) with ⟨other, _, rfl⟩
    rfl

theorem chain_between {start mid finish : List JsText}
    (line : marks.map (·.2) = mid) (together : marks.IsChain Together) (before : Seam start mid)
    (after : Seam mid finish) :
    (start.map (true, ·) ++ (marks ++ finish.map (true, ·))).IsChain Together := by
  have head : ∀ {mark : Bool × JsText}, mark ∈ marks.head? → mark.2 ∈ mid.head? := by
    intro mark first
    rw [← line, head?_map, Option.mem_def.1 first]
    rfl
  have last : ∀ {mark : Bool × JsText}, mark ∈ marks.getLast? → mark.2 ∈ mid.getLast? := by
    intro mark final
    rw [← line, getLast?_map, Option.mem_def.1 final]
    rfl
  have marked : ∀ {tokens : List JsText} {mark : Bool × JsText}, mark ∈ tokens.map (true, ·) →
      mark.1 = true := by
    intro tokens mark present
    rcases mem_map.1 present with ⟨token, _, rfl⟩
    rfl
  rw [isChain_append, isChain_append]
  refine ⟨chain_kept start, ⟨together, chain_kept finish, ?_⟩, ?_⟩
  · intro first final second next high low
    rw [head?_map] at next
    rcases Option.mem_map.1 next with ⟨token, present, rfl⟩
    exact absurd ⟨high, low⟩ (after first.2 (last final) token present)
  · intro first final second next high low
    rw [getLast?_map] at final
    rcases Option.mem_map.1 final with ⟨token, present, rfl⟩
    cases marks with
    | nil => exact (marked (mem_of_mem_head? next)).symm
    | cons mark marks =>
      have same : mark = second := Option.some.inj next
      exact absurd ⟨high, low⟩ (before token present second.2 (head (congrArg some same)))

theorem Uncut.together {oldTokens newTokens : List JsText} (uncut : Uncut oldTokens newTokens)
    (old_halved : Halved oldTokens) (new_halved : Halved newTokens) :
    (olds (tokenSteps oldTokens newTokens)).IsChain Together ∧
      (news (tokenSteps oldTokens newTokens)).IsChain Together := by
  have parts := trimmed_parts oldTokens newTokens
  have left : Halved (trimmed oldTokens newTokens).midOld := fun token present =>
    old_halved token (parts.1 ▸ mem_append_right _ (mem_append_left _ present))
  have right : Halved (trimmed oldTokens newTokens).midNew := fun token present =>
    new_halved token (parts.2 ▸ mem_append_right _ (mem_append_left _ present))
  have whole := align_whole character_ne_nil character_ne_nil (character_nodup left) uncut.apart
  rw [flatten_characters, flatten_characters] at whole
  rw [olds_tokenSteps, news_tokenSteps]
  exact ⟨chain_between (map_olds_align _ _) (together_of_whole left whole.1) uncut.start_old
      uncut.finish_old,
    chain_between (map_news_align _ _) (together_of_whole right whole.2) uncut.start_new
      uncut.finish_new⟩

/-- No part ends inside a character. -/
def Unsplit (parts : List DiffWordPart) : Prop :=
  parts.IsChain fun first second => ¬ (endsHigh first.text ∧ startsLow second.text)

/-- A word difference is an alignment of two lines. -/
structure Exact (oldText newText : JsText) : Prop where
  old_text : textOf (computeWordDiff oldText newText).oldParts = oldText
  new_text : textOf (computeWordDiff oldText newText).newParts = newText
  same_text : textOf (sameParts (computeWordDiff oldText newText).oldParts) =
    textOf (sameParts (computeWordDiff oldText newText).newParts)
  old_whole : Unsplit (computeWordDiff oldText newText).oldParts
  new_whole : Unsplit (computeWordDiff oldText newText).newParts
  old_types : (computeWordDiff oldText newText).oldParts.IsChain fun first second =>
    first.type ≠ second.type
  new_types : (computeWordDiff oldText newText).newParts.IsChain fun first second =>
    first.type ≠ second.type
  /-- Below the size threshold as many tokens are kept as a longest common subsequence has. -/
  longest : tooLong (tokenizeLine oldText) (tokenizeLine newText) = false →
    IsLongest (sameTokens (computeWordDiff oldText newText).oldParts) (tokenizeLine oldText)
      (tokenizeLine newText) ∧
    sameTokens (computeWordDiff oldText newText).newParts =
      sameTokens (computeWordDiff oldText newText).oldParts

theorem exact_tokens {oldText newText : JsText}
    (diff : computeWordDiff oldText newText =
      (tokenSteps (tokenizeLine oldText) (tokenizeLine newText)).foldl WordDiff.push {})
    (uncut : Uncut (tokenizeLine oldText) (tokenizeLine newText)) : Exact oldText newText := by
  have old_tokens := map_olds_tokenSteps (tokenizeLine oldText) (tokenizeLine newText)
  have new_tokens := map_news_tokenSteps (tokenizeLine oldText) (tokenizeLine newText)
  have same := kept_tokenSteps (tokenizeLine oldText) (tokenizeLine newText)
  have size := length_kept_tokenSteps (tokenizeLine oldText) (tokenizeLine newText)
  have together := uncut.together (halved_tokenizeLine oldText) (halved_tokenizeLine newText)
  have old_filled : ∀ mark ∈ olds (tokenSteps (tokenizeLine oldText) (tokenizeLine newText)),
      mark.2 ≠ [] := fun mark present =>
    token_ne_nil (old_tokens ▸ mem_map_of_mem present : mark.2 ∈ tokenizeLine oldText)
  have new_filled : ∀ mark ∈ news (tokenSteps (tokenizeLine oldText) (tokenizeLine newText)),
      mark.2 ≠ [] := fun mark present =>
    token_ne_nil (new_tokens ▸ mem_map_of_mem present : mark.2 ∈ tokenizeLine newText)
  have removed : DiffWordType.removed ≠ .same := by decide
  have added : DiffWordType.added ≠ .same := by decide
  have left := grouped_foldl removed old_filled
  have right := grouped_foldl added new_filled
  rw [foldl_push] at diff
  constructor
  · rw [diff, left.text, old_tokens, flatten_tokenizeLine]
  · rw [diff, right.text, new_tokens, flatten_tokenizeLine]
  · rw [diff, left.same_text removed, right.same_text added, same]
  · rw [diff]
    exact left.whole old_filled together.1
  · rw [diff]
    exact right.whole new_filled together.2
  · rw [diff]
    exact left.types removed
  · rw [diff]
    exact right.types added
  · intro _
    rw [diff, left.same_tokens removed old_tokens, right.same_tokens added new_tokens, ← same, size]
    exact ⟨isLongest_longest _ _, rfl⟩

/-- The parts of a line that is not aligned. -/
def wholeLine (kind : DiffWordType) (text : JsText) : List DiffWordPart :=
  if text = [] then [] else [{ text, type := kind }]

theorem textOf_wholeLine (kind : DiffWordType) (text : JsText) : textOf (wholeLine kind text) = text := by
  rw [wholeLine]
  split
  · rename_i empty
    exact empty.symm
  · exact append_nil text

theorem sameParts_wholeLine {kind : DiffWordType} (other : kind ≠ .same) (text : JsText) :
    sameParts (wholeLine kind text) = [] := by
  rw [wholeLine]
  split
  · rfl
  · rw [sameParts, filter_cons_of_neg]
    · rfl
    · rw [decide_eq_true_iff]
      exact other

theorem isChain_wholeLine (kind : DiffWordType) (text : JsText)
    (relation : DiffWordPart → DiffWordPart → Prop) : (wholeLine kind text).IsChain relation := by
  rw [wholeLine]
  split
  · exact isChain_nil
  · exact isChain_singleton _

theorem exact_lines {oldText newText : JsText}
    (diff : computeWordDiff oldText newText =
      { oldParts := wholeLine .removed oldText, newParts := wholeLine .added newText })
    (separate : oldText = [] ∨ newText = [] ∨
      tooLong (tokenizeLine oldText) (tokenizeLine newText) = true) : Exact oldText newText := by
  have old_same := @sameParts_wholeLine .removed (by decide) oldText
  have new_same := @sameParts_wholeLine .added (by decide) newText
  constructor
  · rw [diff, textOf_wholeLine]
  · rw [diff, textOf_wholeLine]
  · rw [diff, old_same, new_same]
  · rw [diff]
    exact isChain_wholeLine _ _ _
  · rw [diff]
    exact isChain_wholeLine _ _ _
  · rw [diff]
    exact isChain_wholeLine _ _ _
  · rw [diff]
    exact isChain_wholeLine _ _ _
  · intro short
    have none_kept : longest (tokenizeLine oldText) (tokenizeLine newText) = 0 := by
      rcases separate with rfl | rfl | long
      · rw [tokenizeLine, longest]
      · rw [tokenizeLine, longest_nil]
      · rw [short] at long
        cases long
    have counts : sameTokens (wholeLine .removed oldText) = 0 ∧
        sameTokens (wholeLine .added newText) = 0 := by
      rw [sameTokens, sameTokens, old_same, new_same]
      exact ⟨rfl, rfl⟩
    rw [diff, counts.1, counts.2]
    exact ⟨none_kept ▸ isLongest_longest _ _, rfl⟩

/-- A word difference is an alignment of its lines when these are not cut inside a character. -/
theorem exact_of_uncut (oldText newText : JsText)
    (uncut : tooLong (tokenizeLine oldText) (tokenizeLine newText) = false →
      Uncut (tokenizeLine oldText) (tokenizeLine newText)) : Exact oldText newText := by
  by_cases old_empty : oldText = []
  · refine exact_lines ?_ (Or.inl old_empty)
    by_cases new_empty : newText = []
    · rw [computeWordDiff, if_pos ⟨old_empty, new_empty⟩, wholeLine, wholeLine, if_pos old_empty,
        if_pos new_empty]
    · rw [computeWordDiff, if_neg fun both => new_empty both.2, if_pos old_empty, wholeLine, wholeLine,
        if_pos old_empty, if_neg new_empty]
  · by_cases new_empty : newText = []
    · refine exact_lines ?_ (Or.inr (Or.inl new_empty))
      rw [computeWordDiff, if_neg fun both => old_empty both.1, if_neg old_empty, if_pos new_empty,
        wholeLine, wholeLine, if_neg old_empty, if_pos new_empty]
    · cases long : tooLong (tokenizeLine oldText) (tokenizeLine newText) with
      | true =>
        refine exact_lines ?_ (Or.inr (Or.inr long))
        rw [computeWordDiff, if_neg fun both => old_empty both.1, if_neg old_empty,
          if_neg new_empty, if_pos long, wholeLine, wholeLine, if_neg old_empty, if_neg new_empty]
      | false =>
        refine exact_tokens ?_ (uncut long)
        rw [computeWordDiff, if_neg fun both => old_empty both.1, if_neg old_empty,
          if_neg new_empty, if_neg (Bool.eq_false_iff.1 long)]

/-- A letter before a face is replaced. -/
theorem exact_letter : Exact [0x61, 0xD83D, 0xDE00] [0x62, 0xD83D, 0xDE00] := by
  refine exact_of_uncut _ _ fun _ => ?_
  have old_tokens : tokenizeLine [0x61, 0xD83D, 0xDE00] = [[0x61], [0xD83D], [0xDE00]] := by
    decide +kernel
  have new_tokens : tokenizeLine [0x62, 0xD83D, 0xDE00] = [[0x62], [0xD83D], [0xDE00]] := by
    decide +kernel
  have parts : trimmed (tokenizeLine [0x61, 0xD83D, 0xDE00]) (tokenizeLine [0x62, 0xD83D, 0xDE00]) =
      Trimmed.mk [] [[0x61]] [[0x62]] [[0xD83D], [0xDE00]] := by
    rw [old_tokens, new_tokens]
    rfl
  constructor
  · rw [parts]
    rintro first ⟨⟩
  · rw [parts]
    rintro first ⟨⟩
  · rw [parts]
    rintro first ⟨⟩ second ⟨⟩
    decide
  · rw [parts]
    rintro first ⟨⟩ second ⟨⟩
    decide
  · rw [parts]
    decide

/-! ### Characters that share a half -/

theorem plain_of_surrogate (half : Utf16.isHigh unit = true ∨ Utf16.isLow unit = true) :
    isWordUnit unit = false ∧ JsText.isSpace unit = false := by
  rw [Bool.eq_false_iff, Bool.eq_false_iff]
  simp only [Utf16.isHigh, Utf16.isLow, Bool.and_eq_true, decide_eq_true_eq] at half
  constructor
  · intro word
    simp only [isWordUnit, Bool.or_eq_true, Bool.and_eq_true, decide_eq_true_eq, beq_iff_eq] at word
    omega
  · intro space
    simp only [JsText.isSpace, Bool.or_eq_true, Bool.and_eq_true, decide_eq_true_eq,
      beq_iff_eq] at space
    omega

theorem tokenizeLine_surrogate (half : Utf16.isHigh unit = true ∨ Utf16.isLow unit = true)
    (rest : JsText) : tokenizeLine (unit :: rest) = [unit] :: tokenizeLine rest := by
  have plain := plain_of_surrogate half
  rw [tokenizeLine, if_neg (Bool.eq_false_iff.1 plain.1), if_neg (Bool.eq_false_iff.1 plain.2)]

/-- A character that is replaced by another one with the same first half is cut. -/
theorem shared_half_split {high low other : UInt16} (first : Utf16.isHigh high = true)
    (second : Utf16.isLow low = true) (third : Utf16.isLow other = true) (different : low ≠ other) :
    ¬ Exact [high, low] [high, other] := by
  have old_tokens : tokenizeLine [high, low] = [[high], [low]] := by
    rw [tokenizeLine_surrogate (Or.inl first), tokenizeLine_surrogate (Or.inr second), tokenizeLine]
  have new_tokens : tokenizeLine [high, other] = [[high], [other]] := by
    rw [tokenizeLine_surrogate (Or.inl first), tokenizeLine_surrogate (Or.inr third), tokenizeLine]
  have unlike : ([low] : JsText) ≠ [other] := fun alike => different (cons.inj alike).1
  have steps : tokenSteps (tokenizeLine [high, low]) (tokenizeLine [high, other]) =
      [.same [high], .removed [low], .added [other]] := by
    rw [tokenSteps_eq, old_tokens, new_tokens]
    simp [trimmed, prefixLength, unlike, align, longest]
  have diff : (computeWordDiff [high, low] [high, other]).oldParts =
      [{ text := [high], type := .same }, { text := [low], type := .removed }] := by
    rw [computeWordDiff, if_neg (fun both => cons_ne_nil _ _ both.1),
      if_neg (cons_ne_nil _ _), if_neg (cons_ne_nil _ _)]
    dsimp only
    rw [if_neg, steps]
    · rfl
    · rw [old_tokens, new_tokens]
      exact Bool.false_ne_true
  intro exact_diff
  have whole := exact_diff.old_whole
  rw [diff] at whole
  exact (isChain_cons.1 whole).1 _ rfl ⟨first, second⟩

/-- The faces U+1F600 and U+1F601. -/
theorem faces_split : ¬ Exact [0xD83D, 0xDE00] [0xD83D, 0xDE01] :=
  shared_half_split (by decide) (by decide) (by decide) (by decide)

end Synapse.Console
