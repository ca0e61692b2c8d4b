import Synapse.Foundation.Glob
import Synapse.Python.Text

/-!
# Ignore rules

Lines of ignore files are compiled to patterns over normalized paths. The rules that are built in and the
defaults come first, and the last of the other rules that matches decides.
-/

namespace Synapse.Artifacts

open Glob

def slash : CodePoint := 0x2F

def newline : CodePoint := 0x0A

def backslash : CodePoint := 0x5C

/-! ### Lines -/

/-- The letters of a line before a comment. -/
def beforeComment : Bool → Text → Text
  | _, [] => []
  | true, letter :: rest => letter :: beforeComment false rest
  | false, letter :: rest =>
    if letter = backslash then letter :: beforeComment true rest
    else if letter = 0x23 then []
    else letter :: beforeComment false rest

/-- `value.replace("\\" + letter, letter)` -/
def unescape (letter : CodePoint) : Text → Text
  | first :: second :: rest =>
    if first = backslash ∧ second = letter then letter :: unescape letter rest
    else first :: unescape letter (second :: rest)
  | rest => rest

/-- `_strip_comment` -/
def stripComment (line : Text) : Text :=
  unescape 0x23 (unescape 0x20 ((beforeComment false line).rdropWhile CodePoint.isSpace))

/-! ### Patterns -/

/-- Whether a bracket starts a class, from what follows it. -/
def closesClass (rest : Text) : Bool :=
  let rest := if rest.head? = some 0x21 ∨ rest.head? = some 0x5D then rest.drop 1 else rest
  (0x5D : CodePoint) ∈ rest

/-- The pieces of a pattern without a class. -/
def pieces : Text → Option (List (Piece CodePoint))
  | [] => some []
  | letter :: rest =>
    if letter = 0x2A then
      match rest with
      | second :: third :: after =>
        if second = 0x2A then
          if third = slash then (pieces after).map (.dirs :: ·)
          else (pieces (third :: after)).map (.all :: ·)
        else (pieces (second :: third :: after)).map (.star :: ·)
      | [second] =>
        if second = 0x2A then some [.all] else (pieces [second]).map (.star :: ·)
      | [] => some [.star]
    else if letter = 0x3F then (pieces rest).map (.one :: ·)
    else if letter = 0x5B ∧ closesClass rest then none
    else (pieces rest).map (.literal letter :: ·)

/-- A pattern without a separator at its end and one at its start, and whether it is anchored. -/
def anchoredName (pattern : Text) : Text × Bool :=
  let name := if pattern.getLast? = some slash then pattern.dropLast else pattern
  if name.head? = some slash then (name.drop 1, true) else (name, decide (slash ∈ name))

/-- `_gitignore_pattern_to_regex(pattern).match`; `classes` compiles patterns with classes, or raises. -/
def compile (classes : Text → Option (Text → Bool)) (pattern : Text) : Option (Text → Bool) :=
  let (name, anchored) := anchoredName pattern
  match pieces name with
  | none => classes pattern
  | some pieces =>
    some (run slash newline (treeRun slash newline) (if anchored then pieces else .dirs :: pieces))

structure Rule where
  regex : Text → Bool
  negate : Bool
  raw : Text

/-- The pattern of a line and whether it is negated. -/
def patternOf (line : Text) : Option (Text × Bool) :=
  let body := stripComment line.strip
  if body = [] then none
  else if body.head? = some 0x21 then
    let body := Text.strip (body.drop 1)
    if body = [] then none else some (body, true)
  else some (body, false)

/-- `_parse_lines` -/
def parseLines (classes : Text → Option (Text → Bool)) (lines : List Text) : List Rule :=
  lines.filterMap fun line => do
    let (pattern, negate) ← patternOf line
    let regex ← compile classes pattern
    return { regex, negate, raw := line.strip }

/-! ### Paths -/

/-- `while text.startswith("./"): text = text[2:]` -/
def dropHere : Text → Text
  | first :: second :: rest =>
    if first = 0x2E ∧ second = slash then dropHere rest else first :: second :: rest
  | rest => rest

/-- `PurePosixPath(text).as_posix()` -/
def asPosix (text : Text) : Text :=
  let leading := (text.takeWhile (· = slash)).length
  let root := if leading = 0 then [] else if leading = 2 then [slash, slash] else [slash]
  let parts := (components slash text).filter fun part => part ≠ [] ∧ part ≠ [0x2E]
  let path := root ++ [slash].intercalate parts
  if path = [] then [0x2E] else path

/-- `normalize` -/
def normalize (path : Text) : Text :=
  let text := Text.strip (path.map fun letter => if letter = backslash then slash else letter)
  if text = [] ∨ text = [0x2E] ∨ text = [0x2E, slash] then []
  else
    let text := dropHere text
    let text := if text.head? = some slash then text.drop 1 else text
    let text := if 2 ≤ text.length ∧ text[1]? = some 0x3A then (text.drop 2).dropWhile (· = slash)
      else text
    let text := asPosix text
    if text = [0x2E] then [] else text.rdropWhile (· = slash)

/-! ### The matcher -/

def builtinDenyPatterns : List Text := [Text.ofString ".git/"]

def defaultIgnorePatterns : List Text :=
  [Text.ofString "target/", Text.ofString ".venv/", Text.ofString ".node_modules/",
    Text.ofString "node_modules/", Text.ofString "__pycache__/"]

/-- The rules of patterns that are not negated. -/
def plainRules (classes : Text → Option (Text → Bool)) (patterns : List Text) : List Rule :=
  patterns.filterMap fun pattern =>
    (compile classes pattern).map fun regex => { regex, negate := false, raw := pattern }

def anyMatch (rules : List Rule) (path : Text) : Bool := rules.any fun rule => rule.regex path

/-- What the rules make of a path that is ignored before them or not. -/
def decideBy (rules : List Rule) (path : Text) (ignored : Bool) : Bool :=
  rules.foldl (fun ignored rule => if rule.regex path then !rule.negate else ignored) ignored

/-- `is_ignored` -/
def isIgnored (classes : Text → Option (Text → Bool)) (rules : List Rule) (path : Text) : Bool :=
  let rel := normalize path
  if rel = [] then false
  else if anyMatch (plainRules classes builtinDenyPatterns) rel then true
  else decideBy rules rel (anyMatch (plainRules classes defaultIgnorePatterns) rel)

def gitignore : Text := Text.ofString ".gitignore"

/-- `_is_ignored`, for which ignore files are no artifacts. -/
def isHidden (classes : Text → Option (Text → Bool)) (rules : List Rule) (path : Text) : Bool :=
  path = gitignore || decide (gitignore ++ [slash] <+: path) || isIgnored classes rules path

end Synapse.Artifacts
