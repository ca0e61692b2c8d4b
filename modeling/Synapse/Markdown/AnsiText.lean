import Synapse.Markdown.AnsiSequences

/-!
# The text of terminal output

What the reader leaves of a text and what ECMA-48 leaves of it are the same text only if the CSI sequences in
it are those that the reader matches.
-/

namespace Synapse.Markdown

open List
open Console (JsText)

variable {find : JsText → Option (ℕ × List Sgr)} {text rest part : JsText} {done : List Sgr}

theorem shown_drop (skip : ℕ) : shown find skip done text = shown find 0 done (text.drop skip) := by
  induction text generalizing skip with
  | nil => cases skip with
    | zero => rfl
    | succ skip => simp [shown]
  | cons unit text ih =>
    cases skip with
    | zero => rfl
    | succ skip => exact ih skip

theorem map_fst_shown (skip : ℕ) (done other : List Sgr) :
    (shown find skip done text).map Prod.fst = (shown find skip other text).map Prod.fst := by
  induction text generalizing skip done other with
  | nil => simp [shown]
  | cons unit text ih =>
    cases skip with
    | succ skip => exact ih skip done other
    | zero =>
      rw [shown, shown]
      cases find (unit :: text) with
      | none => exact congrArg (unit :: ·) (ih 0 done other)
      | some found => exact ih _ _ _

/-- The units outside of the sequences -/
def visible (find : JsText → Option (ℕ × List Sgr)) (text : JsText) : JsText :=
  (shown find 0 [] text).map Prod.fst

variable {unit : UInt16}

theorem visible_of_none (none : find (unit :: rest) = none) :
    visible find (unit :: rest) = unit :: visible find rest := by
  rw [visible, shown, none]
  rfl

theorem visible_of_some {params : List Sgr} (filled : part ≠ [])
    (found : find (part ++ rest) = some (part.length, params)) :
    visible find (part ++ rest) = visible find rest := by
  cases part with
  | nil => exact absurd rfl filled
  | cons unit part =>
    rw [cons_append] at found ⊢
    rw [visible, shown, found]
    dsimp only
    rw [map_fst_shown _ _ [], shown_drop, length_cons, Nat.add_sub_cancel, drop_left, visible]

theorem visible_append (nothing : ∀ before inside, part = before ++ inside → inside ≠ [] →
    find (inside ++ rest) = none) : visible find (part ++ rest) = part ++ visible find rest := by
  induction part with
  | nil => rfl
  | cons unit part ih =>
    have own := nothing [] (unit :: part) rfl (cons_ne_nil _ _)
    rw [cons_append] at own ⊢
    rw [visible_of_none own, ih, cons_append]
    intro before inside split filled
    exact nothing (unit :: before) inside (by rw [split, cons_append]) filled

theorem suffix_cases (suffix : rest <:+ part ++ text) :
    rest <:+ text ∨ ∃ before inside, part = before ++ inside ∧ inside ≠ [] ∧ rest = inside ++ text := by
  rcases suffix with ⟨front, same⟩
  rcases append_eq_append_iff.1 same with ⟨inside, split, whole⟩ | ⟨more, split, whole⟩
  · by_cases filled : inside = []
    · rw [filled, nil_append] at whole
      exact Or.inl ⟨[], whole⟩
    · exact Or.inr ⟨front, inside, split, filled, whole⟩
  · exact Or.inl ⟨more, whole.symm⟩

/-! ### Weights -/

/-- Units that only one of the grammars has in a sequence weigh more than nothing. -/
def weight (unit : UInt16) : ℤ :=
  if unit = escape then -1 else if isMarked unit = true ∨ isLetter unit = true then 0 else 1

def total (text : JsText) : ℤ := (text.map weight).sum

theorem total_append (first second : JsText) : total (first ++ second) = total first + total second := by
  rw [total, map_append, sum_append]
  rfl

theorem total_cons (unit : UInt16) (text : JsText) : total (unit :: text) = weight unit + total text := by
  rw [total, map_cons, sum_cons]
  rfl

theorem weight_eq_zero (plain : unit ≠ escape)
    (known : isMarked unit = true ∨ isLetter unit = true) : weight unit = 0 := by
  rw [weight, if_neg plain, if_pos known]

theorem total_eq_zero (all : ∀ unit ∈ text, weight unit = 0) : total text = 0 := by
  induction text with
  | nil => rfl
  | cons unit text ih =>
    rw [total_cons, all unit mem_cons_self, ih fun other mem => all other (mem_cons_of_mem _ mem)]
    rfl

theorem total_nonneg (plain : escape ∉ text) : 0 ≤ total text := by
  refine sum_nonneg fun value mem => ?_
  rcases mem_map.1 mem with ⟨unit, inside, rfl⟩
  have other : unit ≠ escape := fun same => plain (same ▸ inside)
  rw [weight, if_neg other]
  split
  · exact le_rfl
  · exact zero_le_one

/-- A unit that the reader does not match weighs one. -/
theorem one_le_total (plain : escape ∉ text) (mem : unit ∈ text)
    (unknown : ¬ (isMarked unit = true ∨ isLetter unit = true)) : 1 ≤ total text := by
  rcases append_of_mem mem with ⟨before, after, rfl⟩
  rw [mem_append, mem_cons, not_or, not_or] at plain
  have own : weight unit = 1 := by rw [weight, if_neg (Ne.symm plain.2.1), if_neg unknown]
  have front := total_nonneg plain.1
  have back := total_nonneg plain.2.2
  rw [total_append, total_cons, own]
  omega

theorem total_start (body : JsText) : total (escape :: bracket :: body) = total body := by
  have first : weight escape = -1 := by decide
  have second : weight bracket = 1 := by decide
  rw [total_cons, total_cons, first, second]
  omega

theorem escape_notMem_body {body : JsText} {final : UInt16} (inside : ∀ unit ∈ body, isBody unit = true)
    (ends : isFinal final = true) : escape ∉ body ++ [final] := by
  intro mem
  rcases mem_append.1 mem with own | last
  · have bounds := body_bounds (inside _ own)
    exact absurd bounds.1 (by decide)
  · rw [← mem_singleton.1 last] at ends
    exact absurd (final_bounds ends).1 (by decide)

theorem total_matched (matched : IsMatched part) : total part = 0 := by
  rcases matched with ⟨params, final, marked, letter, rfl⟩
  have plain := escape_notMem_body (fun unit mem => body_of_marked (marked unit mem)) (final_of_letter letter)
  rw [total_start]
  refine total_eq_zero fun unit mem => weight_eq_zero (fun same => plain (same ▸ mem)) ?_
  rcases mem_append.1 mem with own | last
  · exact Or.inl (marked unit own)
  · exact Or.inr (mem_singleton.1 last ▸ letter)

theorem total_unmatched (csi : IsCsi part) (unmatched : ¬ IsMatched part) : 1 ≤ total part := by
  rcases csi.shape with ⟨body, final, inside, ends, rfl⟩
  rw [total_start]
  have plain := escape_notMem_body inside ends
  by_contra light
  have known : ∀ unit ∈ body ++ [final], isMarked unit = true ∨ isLetter unit = true := by
    intro unit mem
    by_contra unknown
    exact light (one_le_total plain mem unknown)
  refine unmatched ⟨body, final, fun unit mem => ?_, ?_, rfl⟩
  · rcases known unit (mem_append_left _ mem) with marked | letter
    · exact marked
    · have bounds := body_bounds (inside unit mem)
      have others := final_bounds (final_of_letter letter)
      omega
  · rcases known final (mem_append_right _ (mem_singleton_self final)) with marked | letter
    · have bounds := not_body_of_final ends
      rw [body_of_marked marked] at bounds
      cases bounds
    · exact letter

/-! ### The same text -/

/-- The reader matches the sequences of ECMA-48. -/
def Known (text : JsText) : Prop :=
  ∀ rest, rest <:+ text → (sequenceAt rest).isSome = true → (matchAt rest).isSome = true

/-- The reader matches no other sequences. -/
def Only (text : JsText) : Prop :=
  ∀ rest, rest <:+ text → (matchAt rest).isSome = true → (sequenceAt rest).isSome = true

theorem matchAt_of_matched (matched : IsMatched part) (rest : JsText) :
    ∃ params, matchAt (part ++ rest) = some (part.length, params) := by
  rcases escapeAt_of_matched matched rest with ⟨params, found⟩
  rw [matchAt, found]
  exact ⟨_, rfl⟩

theorem matchAt_of_osc (osc : IsOsc part) (rest : JsText) :
    matchAt (part ++ rest) = some (part.length, []) := by
  rw [matchAt, escapeAt_of_osc osc rest]
  rfl

theorem matchAt_cases {length : ℕ} {params : List Sgr} (found : matchAt text = some (length, params)) :
    ∃ part rest, text = part ++ rest ∧ part.length = length ∧ (IsMatched part ∨ IsOsc part) := by
  rcases Option.map_eq_some_iff.1 found with ⟨matched, there, same⟩
  cases same
  rcases escapeAt_cases there with ⟨part, rest, whole, length, kind⟩
  exact ⟨part, rest, whole, length, kind.imp_right And.left⟩

/-- What is found at the start of a text, by the reader, by ECMA-48, by both or by neither. -/
inductive Head (text : JsText) : Prop
  | neither (sequence : sequenceAt text = none) (matched : matchAt text = none)
  | both (part rest : JsText) (whole : text = part ++ rest) (kind : IsCsi part ∨ IsMatched part ∨ IsOsc part)
      (sequence : ∃ params, sequenceAt text = some (part.length, params))
      (matched : ∃ params, matchAt text = some (part.length, params))
  | unmatched (part rest : JsText) (whole : text = part ++ rest) (csi : IsCsi part) (other : ¬ IsMatched part)
      (matched : matchAt text = none)
  | unknown (part rest : JsText) (whole : text = part ++ rest) (own : IsMatched part)
      (sequence : sequenceAt text = none)

theorem head_cases (text : JsText) : Head text := by
  cases sequence : sequenceAt text with
  | none =>
    cases matched : matchAt text with
    | none => exact .neither sequence matched
    | some found =>
      rcases found with ⟨length, params⟩
      rcases matchAt_cases matched with ⟨part, rest, rfl, rfl, own | osc⟩
      · exact .unknown part rest rfl own sequence
      · rw [sequenceAt_of_osc osc] at sequence
        cases sequence
  | some found =>
    rcases found with ⟨length, params⟩
    rcases sequenceAt_cases sequence with ⟨part, rest, rfl, rfl, csi | osc⟩
    · cases matched : matchAt (part ++ rest) with
      | none =>
        refine .unmatched part rest rfl csi (fun own => ?_) matched
        rcases matchAt_of_matched own rest with ⟨other, found⟩
        rw [matched] at found
        cases found
      | some found =>
        rcases found with ⟨length, others⟩
        rcases matchAt_cases matched with ⟨other, otherRest, whole, rfl, own | osc⟩
        · obtain rfl := same_length (Or.inl csi) (Or.inr own) whole
          exact .both part rest rfl (Or.inl csi) ⟨_, sequence⟩ ⟨_, matched⟩
        · rcases csi with ⟨body, inter, final, _, _, _, rfl⟩
          rcases osc with ⟨title, ending, _, _, rfl⟩
          rw [cons_append, cons_append, cons_append, cons_append] at whole
          exact absurd (cons.inj (cons.inj whole).2).1 bracket_ne
    · exact .both part rest rfl (Or.inr (Or.inr osc)) ⟨_, sequence⟩ ⟨_, matchAt_of_osc osc rest⟩

theorem part_ne_nil (kind : IsCsi part ∨ IsMatched part ∨ IsOsc part) : part ≠ [] := by
  rcases kind with ⟨_, _, _, _, _, _, rfl⟩ | ⟨_, _, _, _, rfl⟩ | ⟨_, _, _, _, rfl⟩
  · exact cons_ne_nil _ _
  · exact cons_ne_nil _ _
  · exact cons_ne_nil _ _

theorem eq_none_of_not_starts (own : find = matchAt ∨ find = sequenceAt)
    (quiet : ¬ Starts text) : find text = none := by
  rw [← Option.not_isSome_iff_eq_none]
  exact fun found => quiet (starts_of_found own found)

/-- A law of the suffixes of a text that start behind a sequence is one of all suffixes. -/
theorem forall_suffix {law : JsText → Prop} (kind : IsCsi part ∨ IsMatched part ∨ IsOsc part)
    (own : law (part ++ rest)) (quiet : ∀ other, ¬ Starts other → law other)
    (later : ∀ other, other <:+ rest → law other) : ∀ other, other <:+ part ++ rest → law other := by
  intro other suffix
  rcases suffix_cases suffix with behind | ⟨before, inside, split, filled, rfl⟩
  · exact later other behind
  · cases before with
    | nil =>
      rw [nil_append] at split
      exact split ▸ own
    | cons unit before =>
      exact quiet _ (not_starts_inside kind split (cons_ne_nil _ _) filled rest)

theorem visible_of_unfound (own : find = matchAt ∨ find = sequenceAt)
    (kind : IsCsi part ∨ IsMatched part ∨ IsOsc part) (none : find (part ++ rest) = none) :
    visible find (part ++ rest) = part ++ visible find rest := by
  refine visible_append fun before inside split filled => ?_
  cases before with
  | nil =>
    rw [nil_append] at split
    exact split ▸ none
  | cons unit before =>
    exact eq_none_of_not_starts own (not_starts_inside kind split (cons_ne_nil _ _) filled rest)

theorem known_of_quiet (quiet : ¬ Starts text) : (sequenceAt text).isSome = true → (matchAt text).isSome = true :=
  fun found => absurd (starts_of_found (Or.inr rfl) found) quiet

theorem only_of_quiet (quiet : ¬ Starts text) : (matchAt text).isSome = true → (sequenceAt text).isSome = true :=
  fun found => absurd (starts_of_found (Or.inl rfl) found) quiet

/-- What the reader leaves weighs at least as much, and more if it leaves a sequence. -/
theorem visible_weight (text : JsText) : total (visible sequenceAt text) ≤ total (visible matchAt text) ∧
    (total (visible matchAt text) = total (visible sequenceAt text) → Known text) := by
  induction size : text.length using Nat.strongRecOn generalizing text with
  | ind bound ih =>
    cases head_cases text with
    | neither sequence matched =>
      cases text with
      | nil =>
        refine ⟨le_rfl, fun _ rest suffix found => ?_⟩
        rw [suffix_nil.1 suffix] at found
        cases found
      | cons unit text =>
        rw [visible_of_none sequence, visible_of_none matched, total_cons, total_cons]
        have rest := ih text.length (by rw [← size]; simp) text rfl
        refine ⟨by omega, fun same other suffix found => ?_⟩
        rcases suffix_cons_iff.1 suffix with rfl | later
        · rw [sequence] at found
          cases found
        · exact rest.2 (by omega) other later found
    | both part rest whole kind sequence matched =>
      subst whole
      rcases sequence with ⟨params, sequence⟩
      rcases matched with ⟨others, matched⟩
      have filled := part_ne_nil kind
      rw [visible_of_some filled sequence, visible_of_some filled matched]
      have smaller : rest.length < bound := by
        rw [← size, length_append]
        have := length_pos_of_ne_nil filled
        omega
      have tail := ih rest.length smaller rest rfl
      refine ⟨tail.1, fun same => forall_suffix kind ?_ (fun _ => known_of_quiet) (tail.2 same)⟩
      exact fun _ => by rw [matched]; rfl
    | unmatched part rest whole csi other matched =>
      subst whole
      have filled := part_ne_nil (Or.inl csi)
      have found : ∃ params, sequenceAt (part ++ rest) = some (part.length, params) := sequenceAt_of_csi csi rest
      rcases found with ⟨params, sequence⟩
      have smaller : rest.length < bound := by
        rw [← size, length_append]
        have := length_pos_of_ne_nil filled
        omega
      have tail := ih rest.length smaller rest rfl
      have heavy := total_unmatched csi other
      have stays := visible_of_unfound (Or.inl rfl) (Or.inl csi) matched
      rw [visible_of_some filled sequence, stays, total_append]
      exact ⟨by omega, fun same => absurd same (by omega)⟩
    | unknown part rest whole own sequence =>
      subst whole
      have filled := part_ne_nil (Or.inr (Or.inl own))
      rcases matchAt_of_matched own rest with ⟨params, matched⟩
      have smaller : rest.length < bound := by
        rw [← size, length_append]
        have := length_pos_of_ne_nil filled
        omega
      have tail := ih rest.length smaller rest rfl
      have light := total_matched own
      have stays := visible_of_unfound (Or.inr rfl) (Or.inr (Or.inl own)) sequence
      rw [visible_of_some filled matched, stays, total_append, light, zero_add]
      refine ⟨tail.1, fun same => forall_suffix (Or.inr (Or.inl own)) ?_ (fun _ => known_of_quiet)
        (tail.2 same)⟩
      exact fun _ => by rw [matched]; rfl

/-- A reader that matches every sequence leaves no more, and less if it matches another one. -/
theorem visible_length (text : JsText) (known : Known text) :
    (visible matchAt text).length ≤ (visible sequenceAt text).length ∧
      ((visible matchAt text).length = (visible sequenceAt text).length → Only text) := by
  induction size : text.length using Nat.strongRecOn generalizing text with
  | ind bound ih =>
    cases head_cases text with
    | neither sequence matched =>
      cases text with
      | nil =>
        refine ⟨le_rfl, fun _ rest suffix found => ?_⟩
        rw [suffix_nil.1 suffix] at found
        cases found
      | cons unit text =>
        rw [visible_of_none sequence, visible_of_none matched, length_cons, length_cons]
        have rest := ih text.length (by rw [← size]; simp) text
          (fun other suffix => known other (suffix.trans (suffix_cons _ _))) rfl
        refine ⟨by omega, fun same other suffix found => ?_⟩
        rcases suffix_cons_iff.1 suffix with rfl | later
        · rw [matched] at found
          cases found
        · exact rest.2 (by omega) other later found
    | both part rest whole kind sequence matched =>
      subst whole
      rcases sequence with ⟨params, sequence⟩
      rcases matched with ⟨others, matched⟩
      have filled := part_ne_nil kind
      rw [visible_of_some filled sequence, visible_of_some filled matched]
      have smaller : rest.length < bound := by
        rw [← size, length_append]
        have := length_pos_of_ne_nil filled
        omega
      have tail := ih rest.length smaller rest
        (fun other suffix => known other (suffix.trans (suffix_append _ _))) rfl
      refine ⟨tail.1, fun same => forall_suffix kind ?_ (fun _ => only_of_quiet) (tail.2 same)⟩
      exact fun _ => by rw [sequence]; rfl
    | unmatched part rest whole csi other matched =>
      subst whole
      rcases sequenceAt_of_csi csi rest with ⟨params, sequence⟩
      have found := known _ suffix_rfl (by rw [sequence]; rfl)
      rw [matched] at found
      cases found
    | unknown part rest whole own sequence =>
      subst whole
      have filled := part_ne_nil (Or.inr (Or.inl own))
      rcases matchAt_of_matched own rest with ⟨params, matched⟩
      have positive := length_pos_of_ne_nil filled
      have smaller : rest.length < bound := by
        rw [← size, length_append]
        omega
      have tail := ih rest.length smaller rest
        (fun other suffix => known other (suffix.trans (suffix_append _ _))) rfl
      have stays := visible_of_unfound (Or.inr rfl) (Or.inr (Or.inl own)) sequence
      rw [visible_of_some filled matched, stays, length_append]
      exact ⟨by omega, fun same => absurd same (by omega)⟩

/-- The CSI sequences in a text are those that the reader matches. -/
def Matches (text : JsText) : Prop := ∀ part, part <:+: text → (IsCsi part ↔ IsMatched part)

theorem bracket_clash {other otherRest : JsText} (kind : IsCsi part ∨ IsMatched part) (osc : IsOsc other) :
    part ++ rest ≠ other ++ otherRest := by
  intro same
  rcases osc with ⟨title, ending, _, _, rfl⟩
  rcases kind with ⟨params, inter, final, _, _, _, rfl⟩ | ⟨params, final, _, _, rfl⟩
  · exact bracket_ne (cons.inj (cons.inj same).2).1
  · exact bracket_ne (cons.inj (cons.inj same).2).1

theorem matches_of_known (known : Known text) (only : Only text) : Matches text := by
  rintro part ⟨before, rest, rfl⟩
  have suffix : part ++ rest <:+ before ++ part ++ rest := ⟨before, (append_assoc _ _ _).symm⟩
  constructor
  · intro csi
    rcases sequenceAt_of_csi csi rest with ⟨params, sequence⟩
    rcases Option.isSome_iff_exists.1 (known _ suffix (by rw [sequence]; rfl)) with ⟨⟨length, others⟩, matched⟩
    rcases matchAt_cases matched with ⟨other, otherRest, whole, _, own | osc⟩
    · exact same_length (Or.inl csi) (Or.inr own) whole ▸ own
    · exact absurd whole (bracket_clash (Or.inl csi) osc)
  · intro own
    rcases matchAt_of_matched own rest with ⟨params, matched⟩
    rcases Option.isSome_iff_exists.1 (only _ suffix (by rw [matched]; rfl)) with ⟨⟨length, others⟩, sequence⟩
    rcases sequenceAt_cases sequence with ⟨other, otherRest, whole, _, csi | osc⟩
    · exact same_length (Or.inr own) (Or.inl csi) whole ▸ csi
    · exact absurd whole (bracket_clash (Or.inr own) osc)

theorem visible_of_matches (text : JsText) (own : Matches text) :
    visible matchAt text = visible sequenceAt text := by
  induction size : text.length using Nat.strongRecOn generalizing text with
  | ind bound ih =>
    cases head_cases text with
    | neither sequence matched =>
      cases text with
      | nil => rfl
      | cons unit text =>
        rw [visible_of_none sequence, visible_of_none matched]
        exact congrArg (unit :: ·) (ih text.length (by rw [← size]; simp) text
          (fun part inside => own part (infix_cons inside)) rfl)
    | both part rest whole kind sequence matched =>
      subst whole
      rcases sequence with ⟨params, sequence⟩
      rcases matched with ⟨others, matched⟩
      have filled := part_ne_nil kind
      rw [visible_of_some filled sequence, visible_of_some filled matched]
      have smaller : rest.length < bound := by
        rw [← size, length_append]
        have := length_pos_of_ne_nil filled
        omega
      exact ih rest.length smaller rest
        (fun part inside => own part (inside.trans (suffix_append _ _).isInfix)) rfl
    | unmatched part rest whole csi other matched =>
      exact absurd ((own part (whole ▸ (prefix_append part rest).isInfix)).1 csi) other
    | unknown part rest whole matched sequence =>
      have csi := (own part (whole ▸ (prefix_append part rest).isInfix)).2 matched
      rcases sequenceAt_of_csi csi rest with ⟨params, found⟩
      rw [← whole, sequence] at found
      cases found

/-- The reader leaves the text that ECMA-48 leaves exactly when it matches the sequences in it and no others. -/
theorem visible_eq_iff (text : JsText) : visible matchAt text = visible sequenceAt text ↔ Matches text := by
  constructor
  · intro same
    have known := (visible_weight text).2 (by rw [same])
    exact matches_of_known known ((visible_length text known).2 (by rw [same]))
  · exact visible_of_matches text

end Synapse.Markdown
