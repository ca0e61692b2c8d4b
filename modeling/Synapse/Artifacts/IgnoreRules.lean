import Synapse.Artifacts.ToolIgnore

/-!
# What ignore rules hide

Paths on one line that normalization keeps: a component `.git` hides them whatever the rules are, what is
below a hidden path is hidden unless a negated rule matches it, and a pattern without wildcards matches what
it names.
-/

namespace Synapse.Artifacts

open List
open Glob

/-- The components of a path. -/
def names (path : Text) : List Text :=
  (components slash path).filter fun part => part ≠ [] ∧ part ≠ [0x2E]

/-- A path on one line whose components normalization keeps. -/
structure Regular (path : Text) : Prop where
  single : newline ∉ normalize path
  kept : normalize path = [slash].intercalate (names path)

def Below (path other : Text) : Prop := ∃ more, more ≠ [] ∧ names other = names path ++ more

/-- A pattern without wildcards. -/
def Literal (pattern : Text) : Prop := ∀ letter ∈ pattern, letter ≠ 0x2A ∧ letter ≠ 0x3F ∧ letter ≠ 0x5B

instance (pattern : Text) : Decidable (Literal pattern) :=
  List.decidableBAll _ pattern

/-- A pattern names a path or one of the directories that it is in, which start at the root if the pattern
is anchored. -/
def NamedBy (pattern path : Text) : Prop :=
  let (name, anchored) := anchoredName pattern
  if anchored then ∃ after, names path = components slash name ++ after
  else ∃ before after, names path = before ++ (components slash name ++ after)

/-- `.git` -/
def gitName : Text := Text.ofString ".git"

variable {classes : Text → Option (Text → Bool)} {path other : Text}

/-! ### Components -/

theorem slash_not_mem {part : Text} (path : Text) (mem : part ∈ components slash path) : slash ∉ part := by
  induction path generalizing part with
  | nil =>
    rcases mem_singleton.1 mem with rfl
    exact not_mem_nil
  | cons letter path ih =>
    rw [components, splitOn_cons_eq_if_modifyHead] at mem
    split at mem
    · rcases mem_cons.1 mem with rfl | mem
      · exact not_mem_nil
      · exact ih mem
    · next plain =>
        have filled := components_ne_nil slash path
        rcases exists_cons_of_ne_nil filled with ⟨first, others, shape⟩
        have parts : path.splitOn slash = first :: others := shape
        rw [parts, modifyHead_cons] at mem
        rcases mem_cons.1 mem with rfl | mem
        · rw [mem_cons, not_or]
          refine ⟨fun same => plain (beq_iff_eq.2 same.symm), ih ?_⟩
          rw [shape]
          exact mem_cons_self
        · exact ih (shape ▸ mem_cons_of_mem first mem)

theorem components_names (filled : names path ≠ []) :
    components slash ([slash].intercalate (names path)) = names path :=
  splitOn_intercalate slash (fun _ mem => slash_not_mem path (mem_of_mem_filter mem)) filled

theorem names_eq_nil_of_empty (regular : Regular path) (empty : normalize path = []) : names path = [] := by
  by_contra filled
  have kept := components_names filled
  rw [← regular.kept, empty] at kept
  have single : [] ∈ names path := by
    rw [← kept]
    exact mem_singleton_self []
  have real := of_mem_filter single
  exact absurd rfl (of_decide_eq_true real).1

theorem components_normalize (regular : Regular path) (filled : normalize path ≠ []) :
    components slash (normalize path) = names path := by
  have some : names path ≠ [] := by
    intro empty
    rw [regular.kept, empty] at filled
    exact filled rfl
  rw [regular.kept, components_names some]

theorem normalize_below (regular : Regular path) (filled : normalize path ≠ []) (inner : Regular other)
    (below : Below path other) : ∃ more, normalize other = normalize path ++ slash :: more := by
  rcases below with ⟨more, some, same⟩
  have start : names path ≠ [] := by
    intro empty
    rw [regular.kept, empty] at filled
    exact filled rfl
  rw [inner.kept, same, intercalate_append slash start some, ← regular.kept]
  exact ⟨_, rfl⟩

/-! ### Patterns -/

theorem pieces_supported (pattern : Text) (supported : 0x5B ∉ pattern) :
    ∃ shape, pieces pattern = some shape := by
  fun_induction pieces pattern <;> simp_all

theorem anchoredName_subset (pattern : Text) : (anchoredName pattern).1 ⊆ pattern := by
  have rest (name : Text) (shorter : name ⊆ pattern) :
      (if name.head? = some slash then (name.drop 1, true) else (name, decide (slash ∈ name))).1 ⊆ pattern := by
    split
    · exact List.Subset.trans (drop_subset 1 name) shorter
    · exact shorter
  refine rest _ ?_
  split
  · exact dropLast_subset pattern
  · exact Subset.refl pattern

theorem compile_supported (pattern : Text) (supported : 0x5B ∉ pattern) :
    ∃ shape, compile classes pattern = some (run slash newline (treeRun slash newline) shape) := by
  have plain : 0x5B ∉ (anchoredName pattern).1 := fun mem => supported (anchoredName_subset pattern mem)
  rcases pieces_supported _ plain with ⟨shape, found⟩
  refine ⟨if (anchoredName pattern).2 then shape else .dirs :: shape, ?_⟩
  simp only [compile, found]

theorem pieces_literal (name : Text) (plain : Literal name) :
    pieces name = some (name.map .literal) := by
  induction name with
  | nil => rfl
  | cons letter name ih =>
    rcases plain letter mem_cons_self with ⟨star, one, bracket⟩
    rw [pieces.eq_def]
    simp only [if_neg star, if_neg one, if_neg (fun both => bracket (And.left both)),
      ih fun other mem => plain other (mem_cons_of_mem letter mem)]
    rfl

theorem compile_literal {pattern : Text}
    (plain : Literal pattern) (regular : Regular path) (filled : normalize path ≠ []) : ∃ regex, compile classes pattern = some regex ∧
      (regex (normalize path) = true ↔ NamedBy pattern path) := by
  have literal := pieces_literal (anchoredName pattern).1 fun letter mem =>
    plain letter (anchoredName_subset pattern mem)
  refine ⟨run slash newline (treeRun slash newline) (if (anchoredName pattern).2
    then (anchoredName pattern).1.map .literal else .dirs :: (anchoredName pattern).1.map .literal),
    by simp only [compile, literal], ?_⟩
  cases anchored : (anchoredName pattern).2 with
  | true =>
    simp only [NamedBy, anchored, if_true]
    rw [run_word_iff regular.single, components_normalize regular filled]
  | false =>
    simp only [NamedBy, anchored, Bool.false_eq_true, if_false]
    rw [run_dirs_iff regular.single, components_normalize regular filled]

theorem unescape_subset (letter : CodePoint) (text : Text) : unescape letter text ⊆ text := by
  fun_induction unescape letter text with
  | case1 first second rest both ih =>
    rw [both.2]
    exact subset_cons_of_subset first (cons_subset_cons letter ih)
  | case2 first second rest other ih => exact cons_subset_cons first ih
  | case3 text => exact Subset.refl text

theorem beforeComment_subset (escaped : Bool) (text : Text) : beforeComment escaped text ⊆ text := by
  fun_induction beforeComment escaped text with
  | case1 => exact Subset.refl []
  | case2 letter rest ih => exact cons_subset_cons letter ih
  | case3 rest ih => exact cons_subset_cons backslash ih
  | case4 => exact nil_subset _
  | case5 letter rest _ _ ih => exact cons_subset_cons letter ih

theorem strip_subset (text : Text) : text.strip ⊆ text :=
  List.Subset.trans ( rdropWhile_prefix _ _).subset (dropWhile_subset _)

theorem stripComment_subset (line : Text) : stripComment line ⊆ line :=
  calc stripComment line
    _ ⊆ unescape 0x20 ((beforeComment false line).rdropWhile CodePoint.isSpace) := unescape_subset _ _
    _ ⊆ (beforeComment false line).rdropWhile CodePoint.isSpace := unescape_subset _ _
    _ ⊆ beforeComment false line := ( rdropWhile_prefix _ _).subset
    _ ⊆ line := beforeComment_subset false line

theorem patternOf_subset {line pattern : Text} {negate : Bool} (found : patternOf line = some (pattern, negate)) :
    pattern ⊆ line := by
  have body : stripComment line.strip ⊆ line :=
    List.Subset.trans (stripComment_subset _) (strip_subset line)
  unfold patternOf at found
  rcases Option.ite_none_left_eq_some.mp found with ⟨_, found⟩
  split at found
  · rcases Option.ite_none_left_eq_some.mp found with ⟨_, ⟨⟩⟩
    exact List.Subset.trans (strip_subset _) (List.Subset.trans (drop_subset 1 _) body)
  · cases found
    exact body

/-! ### Rules -/

/-- A rule that matches a path matches what is below it. -/
def Covers (regex : Text → Bool) : Prop := ∀ text more, newline ∉ text ++ slash :: more →
  regex text = true → regex (text ++ slash :: more) = true

theorem compile_covers {pattern : Text} (supported : 0x5B ∉ pattern) {regex : Text → Bool}
    (found : compile classes pattern = some regex) : Covers regex := by
  rcases @compile_supported classes pattern supported with ⟨shape, same⟩
  cases same.symm.trans found
  exact fun _ _ single matched => run_below single matched

variable {lines : List Text}

theorem parseLines_covers (supported : ∀ line ∈ lines, 0x5B ∉ line) :
    ∀ rule ∈ parseLines classes lines, Covers rule.regex := by
  intro rule mem
  rcases mem_filterMap.1 mem with ⟨line, there, parsed⟩
  simp only [Option.bind_eq_bind, Option.bind_eq_some_iff, Option.pure_def, Option.some.injEq] at parsed
  rcases parsed with ⟨⟨pattern, negate⟩, found, regex, compiled, rfl⟩
  exact compile_covers (fun mem => supported line there (patternOf_subset found mem)) compiled

theorem plainRules_covers {patterns : List Text} (supported : ∀ pattern ∈ patterns, 0x5B ∉ pattern) :
    ∀ rule ∈ plainRules classes patterns, Covers rule.regex := by
  intro rule mem
  rcases mem_filterMap.1 mem with ⟨pattern, there, compiled⟩
  rcases Option.map_eq_some_iff.1 compiled with ⟨regex, found, rfl⟩
  exact compile_covers (supported pattern there) found

variable {rules : List Rule}

theorem anyMatch_below {text more : Text} (covers : ∀ rule ∈ rules, Covers rule.regex)
    (single : newline ∉ text ++ slash :: more) (found : anyMatch rules text = true) :
    anyMatch rules (text ++ slash :: more) = true := by
  rcases any_eq_true.1 found with ⟨rule, mem, matched⟩
  exact any_eq_true.2 ⟨rule, mem, covers rule mem text more single matched⟩

/-- Rules that ignore a path ignore what is below it when no negated rule matches that. -/
theorem decideBy_below {text more : Text} (covers : ∀ rule ∈ rules, Covers rule.regex)
    (single : newline ∉ text ++ slash :: more)
    (kept : ∀ rule ∈ rules, rule.negate = true → rule.regex (text ++ slash :: more) = false) :
    ∀ {outer inner : Bool}, (outer = true → inner = true) → decideBy rules text outer = true →
      decideBy rules (text ++ slash :: more) inner = true := by
  induction rules with
  | nil => exact fun grows found => grows found
  | cons rule rules ih =>
    intro outer inner grows found
    refine ih (fun other mem => covers other (mem_cons_of_mem rule mem))
      (fun other mem => kept other (mem_cons_of_mem rule mem)) ?_ found
    have covered := covers rule mem_cons_self text more single
    have plain (there : rule.regex (text ++ slash :: more) = true) : rule.negate = false := by
      by_contra negated
      rw [kept rule mem_cons_self (Bool.eq_true_of_not_eq_false negated)] at there
      cases there
    dsimp only
    cases there : rule.regex (text ++ slash :: more) with
    | true =>
      rw [if_pos rfl, plain there]
      exact fun _ => rfl
    | false =>
      -- a rule that does not match what is below the path does not match the path
      have elsewhere : rule.regex text = false := by
        by_contra matched
        rw [covered (Bool.eq_true_of_not_eq_false matched)] at there
        cases there
      rw [elsewhere, if_neg Bool.false_ne_true, if_neg Bool.false_ne_true]
      exact grows

/-! ### Paths -/

/-- A component `.git` hides a path from every list of rules. -/
theorem git_ignored (rules : List Rule) (regular : Regular path) (mem : gitName ∈ names path) :
    isIgnored classes rules path = true := by
  have filled : normalize path ≠ [] := by
    intro empty
    rw [names_eq_nil_of_empty regular empty] at mem
    cases mem
  have literal : Literal (Text.ofString ".git/") := by decide
  rcases @compile_literal classes _ _ literal regular filled with ⟨regex, compiled, matches_iff⟩
  rcases append_of_mem mem with ⟨before, after, same⟩
  have named : NamedBy (Text.ofString ".git/") path := ⟨before, after, same⟩
  have denied : anyMatch (plainRules classes builtinDenyPatterns) (normalize path) = true :=
    any_eq_true.2 ⟨⟨regex, false, Text.ofString ".git/"⟩,
      mem_filterMap.2 ⟨Text.ofString ".git/", mem_singleton_self _,
        by rw [compiled]; rfl⟩, matches_iff.2 named⟩
  rw [isIgnored]
  simp only [if_neg filled, denied, if_true]

theorem builtin_supported : ∀ pattern ∈ builtinDenyPatterns, 0x5B ∉ pattern := by decide

theorem default_supported : ∀ pattern ∈ defaultIgnorePatterns, 0x5B ∉ pattern := by decide

/-- What is below an ignored path is ignored unless a negated rule matches it. -/
theorem below_ignored (supported : ∀ line ∈ lines, 0x5B ∉ line) (regular : Regular path)
    (inner : Regular other) (below : Below path other)
    (kept : ∀ rule ∈ parseLines classes lines, rule.negate = true → rule.regex (normalize other) = false)
    (ignored : isIgnored classes (parseLines classes lines) path = true) :
    isIgnored classes (parseLines classes lines) other = true := by
  have filled : normalize path ≠ [] := by
    intro empty
    simp only [isIgnored, empty, if_true, Bool.false_eq_true] at ignored
  rcases normalize_below regular filled inner below with ⟨more, same⟩
  have single := inner.single
  simp only [isIgnored, if_neg filled] at ignored
  have some : normalize other ≠ [] := by
    rw [same]
    exact append_ne_nil_of_right_ne_nil _ (cons_ne_nil slash more)
  simp only [isIgnored, if_neg some]
  rw [same] at single kept ⊢
  split at ignored
  · next denied => rw [if_pos (anyMatch_below (plainRules_covers builtin_supported) single denied)]
  · split
    · rfl
    · exact decideBy_below (parseLines_covers supported) single kept
        (anyMatch_below (plainRules_covers default_supported) single) ignored

theorem gitignore_names (canonical : path = [slash].intercalate (names path)) :
    path = gitignore ∨ gitignore ++ [slash] <+: path ↔ ∃ after, names path = gitignore :: after := by
  have whole : components slash gitignore = [gitignore] := by decide
  constructor
  · intro found
    have shown : path = gitignore ∨ ∃ below, path = gitignore ++ slash :: below := by
      rcases found with same | ⟨below, same⟩
      · exact Or.inl same
      · exact Or.inr ⟨below, by rw [← same, append_assoc]; rfl⟩
    rcases exists_components shown with ⟨after, same⟩
    rw [whole] at same
    have real : gitignore ≠ [] ∧ gitignore ≠ [0x2E] := by decide
    refine ⟨after.filter fun part => part ≠ [] ∧ part ≠ [0x2E], ?_⟩
    have head : decide (gitignore ≠ [] ∧ gitignore ≠ [0x2E]) = true := decide_eq_true real
    rw [names, same, singleton_append, filter_cons, if_pos head]
  · rintro ⟨after, same⟩
    rw [canonical, same]
    cases after with
    | nil => exact Or.inl (append_nil gitignore)
    | cons next after =>
      refine Or.inr ⟨[slash].intercalate (next :: after), ?_⟩
      rw [intercalate_cons slash gitignore (cons_ne_nil next after), append_assoc]
      rfl

/-- What is below a path that is no artifact is none unless a negated rule matches it. -/
theorem below_hidden (supported : ∀ line ∈ lines, 0x5B ∉ line) (regular : Regular path)
    (canonical : path = [slash].intercalate (names path)) (inner : Regular other)
    (written : other = [slash].intercalate (names other)) (below : Below path other)
    (kept : ∀ rule ∈ parseLines classes lines, rule.negate = true → rule.regex (normalize other) = false)
    (hidden : isHidden classes (parseLines classes lines) path = true) :
    isHidden classes (parseLines classes lines) other = true := by
  simp only [isHidden, Bool.or_eq_true, decide_eq_true_iff] at hidden ⊢
  rcases hidden with file | ignored
  · rcases (gitignore_names canonical).1 file with ⟨after, same⟩
    rcases below with ⟨more, _, rest⟩
    exact Or.inl ((gitignore_names written).2 ⟨after ++ more, by rw [rest, same]; rfl⟩)
  · exact Or.inr (below_ignored supported regular inner below kept ignored)

/-- What ignore rules should make of a path: a component `.git` hides it, what is below it is hidden with it
unless a negated rule matches that, and a pattern without wildcards matches it when it names it. -/
structure Hides (classes : Text → Option (Text → Bool)) (lines : List Text) (path : Text) : Prop where
  git : gitName ∈ names path → isIgnored classes (parseLines classes lines) path = true
  below : ∀ other, Regular other → Below path other →
    (∀ rule ∈ parseLines classes lines, rule.negate = true → rule.regex (normalize other) = false) →
    isIgnored classes (parseLines classes lines) path = true →
      isIgnored classes (parseLines classes lines) other = true
  artifacts : path = [slash].intercalate (names path) → ∀ other, Regular other →
    other = [slash].intercalate (names other) → Below path other →
    (∀ rule ∈ parseLines classes lines, rule.negate = true → rule.regex (normalize other) = false) →
    isHidden classes (parseLines classes lines) path = true →
      isHidden classes (parseLines classes lines) other = true
  literal : names path ≠ [] → ∀ pattern, Literal pattern →
    ∃ regex, compile classes pattern = some regex ∧ (regex (normalize path) = true ↔ NamedBy pattern path)

end Synapse.Artifacts
