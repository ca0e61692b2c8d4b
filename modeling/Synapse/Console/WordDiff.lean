import Synapse.Foundation.Subsequence
import Synapse.Console.JavaScript

/-!
# Word differences

Two lines are split into words, spaces and single code units. What the token lists start and end with
together is kept, the rest is aligned by a table of common subsequences, and neighbouring tokens that
are marked alike are one part.
-/

namespace Synapse.Console

open Subsequence

inductive DiffWordType where
  | same
  | added
  | removed
  deriving DecidableEq

structure DiffWordPart where
  text : JsText
  type : DiffWordType
  deriving DecidableEq

/-! ### Tokens -/

/-- `[a-zA-Z0-9_$]` -/
def isWordUnit (unit : UInt16) : Bool :=
  let value := unit.toNat
  (0x61 ≤ value && value ≤ 0x7A) || (0x41 ≤ value && value ≤ 0x5A) ||
    (0x30 ≤ value && value ≤ 0x39) || value == 0x5F || value == 0x24

/-- The matches of `[a-zA-Z0-9_$]+|[^\s\w]|\s+`; no code unit is passed over. -/
def tokenizeLine : JsText → List JsText
  | [] => []
  | unit :: rest =>
    if isWordUnit unit then
      (unit :: rest.takeWhile isWordUnit) :: tokenizeLine (rest.dropWhile isWordUnit)
    else if JsText.isSpace unit then
      (unit :: rest.takeWhile JsText.isSpace) :: tokenizeLine (rest.dropWhile JsText.isSpace)
    else [unit] :: tokenizeLine rest
termination_by text => text.length
decreasing_by
  · exact Nat.lt_succ_of_le (List.length_dropWhile_le _ _)
  · exact Nat.lt_succ_of_le (List.length_dropWhile_le _ _)
  · exact Nat.lt_succ_self _

/-! ### The table -/

section

variable {α : Type} [DecidableEq α]

/-- How many entries two lists start with together. -/
def prefixLength : List α → List α → ℕ
  | x :: xs, y :: ys => if x = y then prefixLength xs ys + 1 else 0
  | _, _ => 0

/-- A row of the table, from the row below it. -/
def tableRow (x : α) : List α → List ℕ → List ℕ
  | [], _ => [0]
  | y :: ys, below =>
    let right := tableRow x ys below.tail
    (if x = y then below.tail.headD 0 + 1 else max (below.headD 0) (right.headD 0)) :: right

def lcsTable : List α → List α → List (List ℕ)
  | [], ys => [List.replicate (ys.length + 1) 0]
  | x :: xs, ys =>
    let below := lcsTable xs ys
    tableRow x ys (below.headD []) :: below

/-- `table[i][j]` -/
def entry (table : List (List ℕ)) (i j : ℕ) : ℕ := (table.getD i []).getD j 0

/-- The loops over what is left of the lists after `i` and `j` entries. -/
def walk (table : List (List ℕ)) : ℕ → ℕ → List α → List α → List (Step α)
  | _, _, [], ys => ys.map .added
  | _, _, x :: xs, [] => (x :: xs).map .removed
  | i, j, x :: xs, y :: ys =>
    if x = y then .same x :: walk table (i + 1) (j + 1) xs ys
    else if entry table i (j + 1) ≤ entry table (i + 1) j then
      .removed x :: walk table (i + 1) j xs (y :: ys)
    else .added y :: walk table i (j + 1) (x :: xs) ys
termination_by _ _ xs ys => xs.length + ys.length

/-- Two lists without what they start and end with together. -/
structure Trimmed (α : Type) where
  start : List α
  midOld : List α
  midNew : List α
  finish : List α

def trimmed (xs ys : List α) : Trimmed α :=
  let start := prefixLength xs ys
  let suffix := prefixLength (xs.drop start).reverse (ys.drop start).reverse
  { start := xs.take start
    midOld := (xs.drop start).take ((xs.drop start).length - suffix)
    midNew := (ys.drop start).take ((ys.drop start).length - suffix)
    finish := (xs.drop start).drop ((xs.drop start).length - suffix) }

/-- The tokens in the order in which they are pushed. -/
def tokenSteps (xs ys : List α) : List (Step α) :=
  let parts := trimmed xs ys
  parts.start.map .same ++
    walk (lcsTable parts.midOld parts.midNew) 0 0 parts.midOld parts.midNew ++
    parts.finish.map .same

end

/-! ### Parts -/

/-- `pushPart` -/
def pushPart (target : List DiffWordPart) (text : JsText) (type : DiffWordType) : List DiffWordPart :=
  if text = [] then target
  else
    match target.getLast? with
    | some last =>
      if last.type = type then target.dropLast ++ [{ last with text := last.text ++ text }]
      else target ++ [{ text, type }]
    | none => [{ text, type }]

structure WordDiff where
  oldParts : List DiffWordPart := []
  newParts : List DiffWordPart := []
  deriving DecidableEq

def WordDiff.push (diff : WordDiff) : Step JsText → WordDiff
  | .same text =>
    { oldParts := pushPart diff.oldParts text .same, newParts := pushPart diff.newParts text .same }
  | .removed text => { diff with oldParts := pushPart diff.oldParts text .removed }
  | .added text => { diff with newParts := pushPart diff.newParts text .added }

/-- The size from which lines are not aligned. -/
def tooLong (oldTokens newTokens : List JsText) : Bool :=
  200 < oldTokens.length || 200 < newTokens.length ||
    20000 < oldTokens.length * newTokens.length

/-- `computeWordDiff` -/
def computeWordDiff (oldText newText : JsText) : WordDiff :=
  if oldText = [] ∧ newText = [] then {}
  else if oldText = [] then { newParts := [{ text := newText, type := .added }] }
  else if newText = [] then { oldParts := [{ text := oldText, type := .removed }] }
  else
    let oldTokens := tokenizeLine oldText
    let newTokens := tokenizeLine newText
    if tooLong oldTokens newTokens then
      { oldParts := [{ text := oldText, type := .removed }]
        newParts := [{ text := newText, type := .added }] }
    else (tokenSteps oldTokens newTokens).foldl WordDiff.push {}

end Synapse.Console
