import Synapse.Files.ExactEdit

/-!
# Unified patches

`apply_unified_diff` takes the lines of a file without their endings, replaces the old lines of each hunk
where they are found first, and joins the lines with one ending.
-/

namespace Synapse.Files

/-! ### Lines -/

def startsWith (text : Str) (literal : String) : Bool := literal.toList <+: text

/-- A line without the carriage return before its newline. -/
def withoutReturn (line : Str) : Str :=
  if line.getLast? = some '\r' then line.dropLast else line

/-- `str::lines`; the characters of `line` are before the rest. -/
def linesFrom (line : Str) : Str → List Str
  | [] => if line = [] then [] else [line]
  | letter :: rest =>
    if letter = '\n' then withoutReturn line :: linesFrom [] rest
    else linesFrom (line ++ [letter]) rest

def linesOf (text : Str) : List Str := linesFrom [] text

/-- The lines of a file; newlines at its end do not make lines. -/
def contentLines (content : Str) : List Str :=
  let normalized := toLf content
  if normalized = [] then []
  else (normalized.rdropWhile fun letter => letter = '\n').splitOn '\n'

/-! ### Hunks -/

structure Hunk where
  old : List Str := []
  new : List Str := []
  deriving DecidableEq

/-- A line of a hunk; a line with another first character is passed over. -/
def Hunk.push (hunk : Hunk) : Str → Hunk
  | ' ' :: value => { old := hunk.old ++ [value], new := hunk.new ++ [value] }
  | '-' :: value => { hunk with old := hunk.old ++ [value] }
  | '+' :: value => { hunk with new := hunk.new ++ [value] }
  | _ => hunk

/-- The hunks of the lines of a patch, after the one that is open. -/
def hunksFrom : Option Hunk → List Str → List Hunk
  | hunk, [] => hunk.toList
  | hunk, line :: lines =>
    if startsWith line "@@" then hunk.toList ++ hunksFrom (some {}) lines
    else hunksFrom (hunk.map fun hunk => hunk.push line) lines

def hunksOf (patch : Str) : List Hunk := hunksFrom none (linesOf patch)

/-! ### The patch -/

inductive PatchError where
  | invalidPatch
  | hunkFailed (number : ℕ)
  deriving DecidableEq

/-- Where the old lines are found first. -/
def position (old : List Str) : List Str → Option ℕ
  | [] => if old = [] then some 0 else none
  | line :: lines => if old <+: line :: lines then some 0 else (position old lines).map (· + 1)

/-- The lines with those of a hunk replaced; a hunk without old lines is put at the start. -/
def Hunk.apply (hunk : Hunk) (lines : List Str) : Option (List Str) :=
  (position hunk.old lines).map fun start =>
    lines.take start ++ hunk.new ++ lines.drop (start + hunk.old.length)

def applyHunks (number : ℕ) (lines : List Str) : List Hunk → Except PatchError (List Str)
  | [] => .ok lines
  | hunk :: hunks =>
    match hunk.apply lines with
    | none => .error (.hunkFailed number)
    | some changed => applyHunks (number + 1) changed hunks

/-- `apply_unified_diff` -/
def applyUnifiedDiff (content patch : Str) : Except PatchError (Str × ℕ) :=
  let ending := if crlf <:+: content then crlf else ['\n']
  let hunks := hunksOf patch
  match applyHunks 1 (contentLines content) hunks with
  | .error error => .error error
  | .ok lines =>
    if hunks = [] then .error .invalidPatch
    else
      let output := ending.intercalate lines
      .ok (if content.getLast? = some '\n' ∧ output ≠ [] then output ++ ending else output,
        hunks.length)

end Synapse.Files
