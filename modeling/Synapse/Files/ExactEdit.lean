import Mathlib

/-!
# Exact edits

`apply_exact_edit` replaces a search text, which it tries as given, with its lines ended by newlines, and
with its lines ended by carriage returns and newlines. The first of these that is found decides.
-/

namespace Synapse.Files

/-- A Rust `str`. -/
abbrev Str := List Char

/-! ### Matches -/

/-- The matches that do not overlap, from the left; `skip` characters belong to the last one. -/
def countFrom (old : Str) : ℕ → Str → ℕ
  | _, [] => 0
  | skip + 1, _ :: rest => countFrom old skip rest
  | 0, letter :: rest =>
    if old <+: letter :: rest then countFrom old (old.length - 1) rest + 1
    else countFrom old 0 rest

/-- `text.matches(old).count()` of a search text that is not empty. -/
def matchCount (old text : Str) : ℕ := countFrom old 0 text

def replaceFrom (old new : Str) : ℕ → Str → Str
  | _, [] => []
  | skip + 1, _ :: rest => replaceFrom old new skip rest
  | 0, letter :: rest =>
    if old <+: letter :: rest then new ++ replaceFrom old new (old.length - 1) rest
    else letter :: replaceFrom old new 0 rest

/-- `text.replace(old, new)` -/
def replaceAll (old new text : Str) : Str := replaceFrom old new 0 text

/-- `text.replacen(old, new, 1)` -/
def replaceFirst (old new : Str) : Str → Str
  | [] => []
  | letter :: rest =>
    if old <+: letter :: rest then new ++ (letter :: rest).drop old.length
    else letter :: replaceFirst old new rest

/-! ### Line endings -/

def crlf : Str := ['\r', '\n']

/-- `text.replace("\r\n", "\n")` -/
def toLf (text : Str) : Str := replaceAll crlf ['\n'] text

/-- `text.replace('\n', "\r\n")` -/
def toCrlf (text : Str) : Str := replaceAll ['\n'] crlf text

/-- `push_candidate` -/
def pushCandidate (candidates : List (Str × Str)) (candidate : Str × Str) : List (Str × Str) :=
  if candidate ∈ candidates then candidates else candidates ++ [candidate]

/-- `line_ending_candidates` -/
def lineEndingCandidates (old new : Str) : List (Str × Str) :=
  let lf := (toLf old, toLf new)
  [(old, new), lf, (toCrlf lf.1, toCrlf lf.2)].foldl pushCandidate []

/-! ### The edit -/

inductive ExactEditError where
  | stringsMustDiffer
  | oldStringNotFound
  | oldStringFoundMultipleTimes
  deriving DecidableEq

/-- The first candidate that is found, everywhere. -/
def editAll (previous : Str) : List (Str × Str) → Except ExactEditError (Str × ℕ)
  | [] => .error .oldStringNotFound
  | (old, new) :: candidates =>
    if 0 < matchCount old previous then .ok (replaceAll old new previous, matchCount old previous)
    else editAll previous candidates

/-- The first candidate that is found once. -/
def editOnce (previous : Str) (ambiguous : Bool) :
    List (Str × Str) → Except ExactEditError (Str × ℕ)
  | [] => .error (if ambiguous then .oldStringFoundMultipleTimes else .oldStringNotFound)
  | (old, new) :: candidates =>
    if matchCount old previous = 1 then .ok (replaceFirst old new previous, 1)
    else editOnce previous (ambiguous || decide (1 < matchCount old previous)) candidates

/-- `apply_exact_edit` -/
def applyExactEdit (previous old new : Str) (all : Bool) : Except ExactEditError (Str × ℕ) :=
  if old = new then .error .stringsMustDiffer
  else if old = [] then .ok (new, 1)
  else if all then editAll previous (lineEndingCandidates old new)
  else editOnce previous false (lineEndingCandidates old new)

/-! ### What an edit does -/

variable {old new text previous result : Str} {count : ℕ}

theorem countFrom_skip (old : Str) (skip : ℕ) (text : Str) :
    countFrom old skip text = countFrom old 0 (text.drop skip) := by
  induction text generalizing skip with
  | nil => cases skip <;> rfl
  | cons letter rest ih =>
    cases skip with
    | zero => rfl
    | succ skip => exact ih skip

theorem replaceFrom_skip (old new : Str) (skip : ℕ) (text : Str) :
    replaceFrom old new skip text = replaceFrom old new 0 (text.drop skip) := by
  induction text generalizing skip with
  | nil => cases skip <;> rfl
  | cons letter rest ih =>
    cases skip with
    | zero => rfl
    | succ skip => exact ih skip

/-- A text is what stands before its matches and the pieces behind them; a replacement of all matches
keeps these, and a replacement of the first one keeps the other matches too. -/
structure CutAt (old text first : Str) (pieces : List Str) : Prop where
  count : pieces.length = matchCount old text
  whole : text = first ++ pieces.flatMap (old ++ ·)
  all : ∀ new, replaceAll old new text = first ++ pieces.flatMap (new ++ ·)
  once : ∀ new piece rest, pieces = piece :: rest →
    replaceFirst old new text = first ++ new ++ piece ++ rest.flatMap (old ++ ·)

theorem exists_cutAt (present : old ≠ []) (text : Str) :
    ∃ first pieces, CutAt old text first pieces := by
  induction length : text.length using Nat.strongRecOn generalizing text with
  | ind bound ih =>
    cases text with
    | nil => exact ⟨[], [], rfl, rfl, fun _ => rfl, nofun⟩
    | cons letter rest =>
      rw [List.length_cons] at length
      by_cases found : old <+: letter :: rest
      · rcases found with ⟨back, cut⟩
        have found : old <+: letter :: rest := ⟨back, cut⟩
        cases old with
        | nil => exact absurd rfl present
        | cons head tail =>
          have same : tail ++ back = rest := (List.cons.inj cut).2
          have dropped : rest.drop ((head :: tail).length - 1) = back := by
            simp [← same]
          have shorter : back.length < bound := by
            rw [← length, ← same, List.length_append]
            omega
          rcases ih back.length shorter back rfl with ⟨first, pieces, behind⟩
          refine ⟨[], first :: pieces, ?_, ?_, ?_, ?_⟩
          · rw [List.length_cons, behind.count, matchCount, matchCount]
            rw [countFrom.eq_3, if_pos found, countFrom_skip _ _ rest, dropped]
          · rw [List.nil_append, List.flatMap_cons, List.append_assoc, ← behind.whole, cut]
          · intro new
            rw [replaceAll, replaceFrom, if_pos found, replaceFrom_skip, dropped, List.nil_append,
              List.flatMap_cons, List.append_assoc, ← behind.all, replaceAll]
          · rintro new piece others ⟨⟩
            rw [replaceFirst, if_pos found, ← cut, List.drop_left, List.nil_append,
              List.append_assoc, ← behind.whole]
      · rcases ih rest.length (by omega) rest rfl with ⟨first, pieces, behind⟩
        refine ⟨letter :: first, pieces, ?_, ?_, ?_, ?_⟩
        · rw [behind.count, matchCount, matchCount, countFrom, if_neg found]
        · rw [List.cons_append, ← behind.whole]
        · intro new
          rw [replaceAll, replaceFrom, if_neg found, List.cons_append, ← behind.all, replaceAll]
        · intro new piece others shape
          rw [replaceFirst, if_neg found, behind.once new piece others shape]
          rfl

theorem replaceAll_ne_nil (present : text ≠ []) (filled : new ≠ []) :
    replaceAll old new text ≠ [] := by
  cases text with
  | nil => exact absurd rfl present
  | cons letter rest =>
    rw [replaceAll, replaceFrom]
    split
    · exact fun empty => filled (List.append_eq_nil_iff.mp empty).1
    · exact List.cons_ne_nil _ _

theorem mem_pushCandidate {candidates : List (Str × Str)} {candidate other : Str × Str}
    (present : other ∈ pushCandidate candidates candidate) :
    other ∈ candidates ∨ other = candidate := by
  unfold pushCandidate at present
  split at present
  · exact .inl present
  · simpa using present

theorem candidate_ne_nil (present : old ≠ []) {candidate : Str × Str}
    (tried : candidate ∈ lineEndingCandidates old new) : candidate.1 ≠ [] := by
  have lf : toLf old ≠ [] := replaceAll_ne_nil present (List.cons_ne_nil _ _)
  rcases mem_pushCandidate tried with tried | rfl
  · rcases mem_pushCandidate tried with tried | rfl
    · rcases mem_pushCandidate tried with tried | rfl
      · cases tried
      · exact present
    · exact lf
  · exact replaceAll_ne_nil lf (List.cons_ne_nil _ _)

theorem editAll_ok {candidates : List (Str × Str)}
    (edited : editAll previous candidates = .ok (result, count)) :
    ∃ candidate ∈ candidates, count = matchCount candidate.1 previous ∧ 0 < count ∧
      result = replaceAll candidate.1 candidate.2 previous := by
  induction candidates with
  | nil => cases edited
  | cons candidate candidates ih =>
    rw [editAll] at edited
    split at edited
    · rename_i found
      cases edited
      exact ⟨candidate, List.mem_cons_self, rfl, found, rfl⟩
    · rcases ih edited with ⟨other, tried, rest⟩
      exact ⟨other, List.mem_cons_of_mem _ tried, rest⟩

theorem editOnce_ok {candidates : List (Str × Str)} {ambiguous : Bool}
    (edited : editOnce previous ambiguous candidates = .ok (result, count)) :
    count = 1 ∧ ∃ candidate ∈ candidates, matchCount candidate.1 previous = 1 ∧
      result = replaceFirst candidate.1 candidate.2 previous := by
  induction candidates generalizing ambiguous with
  | nil => cases edited
  | cons candidate candidates ih =>
    rw [editOnce] at edited
    split at edited
    · rename_i found
      cases edited
      exact ⟨rfl, candidate, List.mem_cons_self, found, rfl⟩
    · rcases ih edited with ⟨one, other, tried, rest⟩
      exact ⟨one, other, List.mem_cons_of_mem _ tried, rest⟩

/-- An edit that succeeds replaces exactly the matches of the search text, in one of its line endings,
and leaves everything around them as it was; only with `all` it replaces more than one. -/
theorem applyExactEdit_replaces {all : Bool} (present : old ≠ [])
    (edited : applyExactEdit previous old new all = .ok (result, count)) :
    0 < count ∧ (all = false → count = 1) ∧
      ∃ candidate ∈ lineEndingCandidates old new, matchCount candidate.1 previous = count ∧
        ∃ (first : Str) (pieces : List Str), pieces.length = count ∧
          previous = first ++ pieces.flatMap (candidate.1 ++ ·) ∧
          result = first ++ pieces.flatMap (candidate.2 ++ ·) := by
  unfold applyExactEdit at edited
  split at edited
  · cases edited
  · cases all with
    | true =>
      rcases editAll_ok edited with ⟨candidate, tried, counted, found, rfl⟩
      rcases exists_cutAt (candidate_ne_nil present tried) previous with ⟨first, pieces, cut⟩
      exact ⟨found, nofun, candidate, tried, counted.symm, first, pieces,
        cut.count.trans counted.symm, cut.whole, cut.all candidate.2⟩
    | false =>
      rcases editOnce_ok edited with ⟨rfl, candidate, tried, found, rfl⟩
      rcases exists_cutAt (candidate_ne_nil present tried) previous with ⟨first, pieces, cut⟩
      rcases List.length_eq_one_iff.mp (cut.count.trans found) with ⟨piece, rfl⟩
      refine ⟨Nat.one_pos, fun _ => rfl, candidate, tried, found, first, [piece], rfl, cut.whole, ?_⟩
      rw [cut.once candidate.2 piece [] rfl]
      simp

theorem applyExactEdit_replaces_line : ∃ candidate ∈ lineEndingCandidates ['a', '\n'] ['b', '\n'],
    matchCount candidate.1 ['a', '\r', '\n', 'c'] = 1 := by
  rcases applyExactEdit_replaces (List.cons_ne_nil 'a' ['\n'])
    (rfl : applyExactEdit ['a', '\r', '\n', 'c'] ['a', '\n'] ['b', '\n'] false = .ok (['b', '\r', '\n', 'c'], 1)) with
    ⟨_, _, candidate, tried, found, _⟩
  exact ⟨candidate, tried, found⟩

end Synapse.Files
