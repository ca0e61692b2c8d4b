import Synapse.Python.Value
import Synapse.Foundation.Separator

/-!
# What git prints

The lines of `git status --porcelain=v1` and of `git diff --numstat`, as git documents them. Under
`core.quotePath` a path with a control character, a quote, a backslash or a byte beyond ASCII is
written as a C string, and `status` does the same for a path with a space. What is printed is
therefore ASCII, and a byte of it is decoded as the code point with its number.
-/

namespace Synapse.Git

open List

/-- A path as git holds it. -/
structure GitPath where
  bytes : List UInt8
  nonempty : bytes ≠ []
  noNul : 0 ∉ bytes
  deriving DecidableEq

/-- The code point that an ASCII byte is decoded to. -/
def point (byte : UInt8) : CodePoint := Fin.castLE CodePoint.size_uint8_le byte.toFin

def raw (bytes : List UInt8) : Text := bytes.map point

@[simp]
theorem raw_nil : raw [] = [] := rfl

@[simp]
theorem raw_append (first second : List UInt8) : raw (first ++ second) = raw first ++ raw second :=
  map_append

@[simp]
theorem length_raw (bytes : List UInt8) : (raw bytes).length = bytes.length :=
  length_map point

/-! ### Quoting -/

def mustQuote (byte : UInt8) : Bool :=
  byte < 0x20 || byte == 0x22 || byte == 0x5C || 0x7F ≤ byte

/-- The bytes that are escaped by a letter. -/
def escapeLetters : List (UInt8 × CodePoint) :=
  [(0x07, 0x61), (0x08, 0x62), (0x09, 0x74), (0x0A, 0x6E), (0x0B, 0x76), (0x0C, 0x66), (0x0D, 0x72),
    (0x22, 0x22), (0x5C, 0x5C)]

def octal (byte : UInt8) : Text :=
  [point (0x30 + byte / 64), point (0x30 + byte / 8 % 8), point (0x30 + byte % 8)]

def escape (byte : UInt8) : Text :=
  if mustQuote byte = false then [point byte]
  else 0x5C :: match escapeLetters.lookup byte with
    | some letter => [letter]
    | none => octal byte

/-- The path is written as a C string; `spaces` says whether a space is a reason. -/
def Quoted (spaces : Bool) (path : GitPath) : Prop :=
  (∃ byte ∈ path.bytes, mustQuote byte = true) ∨ (spaces = true ∧ 0x20 ∈ path.bytes)

instance (spaces : Bool) (path : GitPath) : Decidable (Quoted spaces path) :=
  inferInstanceAs (Decidable (_ ∨ _))

def quote (spaces : Bool) (path : GitPath) : Text :=
  if Quoted spaces path then 0x22 :: path.bytes.flatMap escape ++ [0x22] else raw path.bytes

/-! ### `git status --porcelain=v1` -/

/-- A column of a status line. -/
inductive Column where
  | unmodified | modified | typeChanged | added | deleted | renamed | copied | unmerged
  deriving DecidableEq, Repr

def Column.letter : Column → CodePoint
  | .unmodified => 0x20
  | .modified => 0x4D
  | .typeChanged => 0x54
  | .added => 0x41
  | .deleted => 0x44
  | .renamed => 0x52
  | .copied => 0x43
  | .unmerged => 0x55

inductive StatusEntry where
  | untracked (path : GitPath)
  | changed (index worktree : Column) (source : Option GitPath) (path : GitPath)
  deriving DecidableEq

def statusArrow : Text := Text.ofString " -> "

def StatusEntry.print : StatusEntry → Text
  | .untracked path => Text.ofString "?? " ++ quote true path
  | .changed index worktree none path => [index.letter, worktree.letter, 0x20] ++ quote true path
  | .changed index worktree (some source) path =>
    [index.letter, worktree.letter, 0x20] ++ (quote true source ++ statusArrow ++ quote true path)

def printStatus (entries : List StatusEntry) : Text :=
  entries.flatMap fun entry => entry.print ++ [0x0A]

/-! ### `git diff --numstat` -/

/-- The counts of a change, in git's `uintmax_t`. -/
inductive Counts where
  | lines (added removed : UInt64)
  | binary
  deriving DecidableEq

structure NumstatEntry where
  counts : Counts
  source : Option GitPath := none
  path : GitPath
  deriving DecidableEq

/-- The length of the longest common beginning that ends with a slash. -/
def commonDirs : List UInt8 → List UInt8 → ℕ
  | first :: firsts, second :: seconds =>
    if first ≠ second then 0
    else if commonDirs firsts seconds ≠ 0 then commonDirs firsts seconds + 1
    else if first = 0x2F then 1 else 0
  | _, _ => 0

def commonHead (source path : GitPath) : ℕ := commonDirs source.bytes path.bytes

/-- The length of the longest common end that begins with a slash, which may be the last one of the
common beginning. -/
def commonTail (source path : GitPath) : ℕ :=
  commonDirs (source.bytes.drop (commonHead source path - 1)).reverse
    (path.bytes.drop (commonHead source path - 1)).reverse

/-- What lies between the common beginning and the common end. -/
def middle (head tail : ℕ) (path : GitPath) : List UInt8 :=
  (path.bytes.drop head).take (path.bytes.length - head - tail)

def numstatArrow : Text := Text.ofString " => "

/-- The rename is written with braces around what differs. -/
def Braced (source path : GitPath) : Prop :=
  ¬Quoted false source ∧ ¬Quoted false path ∧ 0 < commonHead source path + commonTail source path

instance (source path : GitPath) : Decidable (Braced source path) :=
  inferInstanceAs (Decidable (_ ∧ _))

/-- The common directories, the brace and what the old path has in it. -/
def openBrace (source path : GitPath) : Text :=
  raw (source.bytes.take (commonHead source path)) ++ [0x7B] ++
    raw (middle (commonHead source path) (commonTail source path) source)

def printRename (source path : GitPath) : Text :=
  if Braced source path then
    openBrace source path ++ numstatArrow ++
      (raw (middle (commonHead source path) (commonTail source path) path) ++ [0x7D] ++
        raw (source.bytes.drop (source.bytes.length - commonTail source path)))
  else quote false source ++ numstatArrow ++ quote false path

def printCounts : Counts → Text
  | .lines added removed =>
    Text.ofString added.toNat.repr ++ [0x09] ++ Text.ofString removed.toNat.repr
  | .binary => Text.ofString "-\t-"

def NumstatEntry.print (entry : NumstatEntry) : Text :=
  printCounts entry.counts ++ [0x09] ++
    match entry.source with
    | none => quote false entry.path
    | some source => printRename source entry.path

def printNumstat (entries : List NumstatEntry) : Text :=
  entries.flatMap fun entry => entry.print ++ [0x0A]

/-! ### Printed text -/

/-- Every character is printable ASCII. -/
def Printable (text : Text) : Prop := ∀ point ∈ text, 0x20 ≤ point.val ∧ point.val < 0x7F

theorem Printable.append {first second : Text} (left : Printable first) (right : Printable second) :
    Printable (first ++ second) :=
  fun point present => (mem_append.1 present).elim (left point) (right point)

instance (text : Text) : Decidable (Printable text) :=
  List.decidableBAll _ text

theorem point_injective : Function.Injective point := by
  intro first second same
  exact UInt8.toFin_inj.1 (Fin.castLE_injective _ same)

theorem raw_injective : Function.Injective raw :=
  map_injective_iff.2 point_injective

/-- A byte is escaped by printable characters, and none of them is the head of an arrow unless the
byte is. -/
theorem escape_spec (byte : UInt8) :
    Printable (escape byte) ∧ (escape byte).count 0x3E = [byte].count 0x3E ∧ escape byte ≠ [] := by
  have all : ∀ number : Fin 256, Printable (escape (.ofFin number)) ∧
      (escape (.ofFin number)).count 0x3E = [UInt8.ofFin number].count 0x3E ∧
      escape (.ofFin number) ≠ [] := by
    decide +kernel
  exact all byte.toFin

theorem bounds_of_not_mustQuote {byte : UInt8} (plain : mustQuote byte = false) :
    0x20 ≤ byte.toNat ∧ byte.toNat < 0x7F := by
  simp only [mustQuote, Bool.or_eq_false_iff, decide_eq_false_iff_not, UInt8.lt_iff_toNat_lt,
    UInt8.le_iff_toNat_le, not_lt, not_le] at plain
  exact ⟨plain.1.1.1, plain.2⟩

section

variable {spaces : Bool} {path : GitPath}

theorem plain_of_not_quoted (unquoted : ¬Quoted spaces path) :
    ∀ byte ∈ path.bytes, mustQuote byte = false := by
  intro byte present
  rw [← Bool.not_eq_true]
  exact fun special => unquoted (Or.inl ⟨byte, present, special⟩)

theorem printable_raw (unquoted : ¬Quoted spaces path) : Printable (raw path.bytes) := by
  intro letter present
  rcases mem_map.1 present with ⟨byte, inPath, rfl⟩
  exact bounds_of_not_mustQuote (plain_of_not_quoted unquoted byte inPath)

theorem printable_quote : Printable (quote spaces path) := by
  unfold quote
  split
  case isTrue =>
    have inner : Printable (path.bytes.flatMap escape) := by
      intro letter present
      rcases mem_flatMap.1 present with ⟨byte, -, present⟩
      exact (escape_spec byte).1 letter present
    have mark : Printable [0x22] := by decide
    exact (mark.append inner).append mark
  case isFalse unquoted => exact printable_raw unquoted

theorem length_raw_lt_quote (quoted : Quoted spaces path) :
    (raw path.bytes).length < (quote spaces path).length := by
  have longer : ∀ bytes : List UInt8, bytes.length ≤ (bytes.flatMap escape).length := by
    intro bytes
    induction bytes with
    | nil => exact le_rfl
    | cons byte bytes ih =>
      have first := length_pos_of_ne_nil (escape_spec byte).2.2
      rw [flatMap_cons, length_append, length_cons]
      omega
  have inner := longer path.bytes
  rw [quote, if_pos quoted, raw, length_map]
  simp only [length_append, length_cons, length_nil]
  omega

theorem length_raw_le_quote : (raw path.bytes).length ≤ (quote spaces path).length := by
  by_cases quoted : Quoted spaces path
  · exact (length_raw_lt_quote quoted).le
  · rw [quote, if_neg quoted]

theorem quote_eq_raw_iff : quote spaces path = raw path.bytes ↔ ¬Quoted spaces path := by
  constructor
  · intro same quoted
    have longer := length_raw_lt_quote quoted
    rw [same] at longer
    exact lt_irrefl _ longer
  · exact fun unquoted => if_neg unquoted

theorem count_quote : (quote spaces path).count 0x3E = (raw path.bytes).count 0x3E := by
  unfold quote
  split
  case isTrue =>
    have inner : ∀ bytes : List UInt8, (bytes.flatMap escape).count 0x3E = (raw bytes).count 0x3E := by
      intro bytes
      induction bytes with
      | nil => rfl
      | cons byte bytes ih =>
        have own : [byte].count 0x3E = [point byte].count 0x3E :=
          (count_map_of_injective [byte] point point_injective 0x3E).symm
        rw [flatMap_cons, count_append, ih, (escape_spec byte).2.1, own,
          ← count_append]
        rfl
    have outer : (0x22 :: path.bytes.flatMap escape ++ [0x22] : Text).count 0x3E =
        (path.bytes.flatMap escape).count 0x3E := by
      simp
    rw [outer, inner]
  case isFalse => rfl

/-- A path in a status line neither begins nor ends with a space. -/
theorem quote_ends (point : CodePoint)
    (outer : point ∈ (quote true path).head? ∨ point ∈ (quote true path).getLast?) :
    CodePoint.isSpace point = false := by
  by_cases quoted : Quoted true path
  · rw [quote, if_pos quoted] at outer
    have mark : point = 0x22 := by
      rcases outer with first | last
      · simpa [eq_comm] using first
      · rw [getLast?_concat] at last
        simpa [eq_comm] using last
    rw [mark]
    decide
  · rw [quote, if_neg quoted] at outer
    have present : point ∈ raw path.bytes :=
      outer.elim mem_of_mem_head? mem_of_mem_getLast?
    rcases mem_map.1 present with ⟨byte, inPath, rfl⟩
    rcases bounds_of_not_mustQuote (plain_of_not_quoted quoted byte inPath) with ⟨least, most⟩
    have solid : byte.toNat ≠ 0x20 := by
      intro space
      have same : byte = 0x20 := UInt8.toNat_inj.1 space
      exact quoted (Or.inr ⟨rfl, same ▸ inPath⟩)
    have value : (Git.point byte).val = byte.toNat := rfl
    simp only [CodePoint.isSpace, value]
    grind

end

/-! ### Common directories -/

theorem commonDirs_spec (first second : List UInt8) :
    first.take (commonDirs first second) = second.take (commonDirs first second) ∧
      commonDirs first second ≤ first.length ∧ commonDirs first second ≤ second.length ∧
      (commonDirs first second = 0 ∨
        ∃ dirs, first.take (commonDirs first second) = dirs ++ [0x2F]) := by
  fun_induction commonDirs first second with
  | case1 first firsts second seconds differ => simp
  | case2 first firsts second seconds same longer ih =>
    rw [ne_eq, not_not] at same
    rcases ih with ⟨agree, fitsFirst, fitsSecond, dirs | ⟨dirs, shape⟩⟩
    · exact absurd dirs longer
    · refine ⟨?_, Nat.succ_le_succ fitsFirst, Nat.succ_le_succ fitsSecond,
        Or.inr ⟨first :: dirs, ?_⟩⟩
      · rw [take_succ_cons, take_succ_cons, same, agree]
      · rw [take_succ_cons, shape, cons_append]
  | case3 firsts second seconds shorter same =>
    rw [ne_eq, not_not] at same
    subst same
    exact ⟨rfl, by simp, by simp, Or.inr ⟨[], rfl⟩⟩
  | case4 => simp
  | case5 => simp

section

variable (source path : GitPath)

theorem commonHead_le :
    source.bytes.take (commonHead source path) = path.bytes.take (commonHead source path) ∧
      commonHead source path ≤ source.bytes.length ∧ commonHead source path ≤ path.bytes.length :=
  ⟨(commonDirs_spec _ _).1, (commonDirs_spec _ _).2.1, (commonDirs_spec _ _).2.2.1⟩

theorem commonTail_le :
    source.bytes.drop (source.bytes.length - commonTail source path) =
        path.bytes.drop (path.bytes.length - commonTail source path) ∧
      commonTail source path ≤ path.bytes.length - (commonHead source path - 1) := by
  rcases commonDirs_spec (source.bytes.drop (commonHead source path - 1)).reverse
    (path.bytes.drop (commonHead source path - 1)).reverse with ⟨agree, fitsSource, fitsPath, -⟩
  rw [length_reverse, length_drop] at fitsSource fitsPath
  rw [take_reverse, take_reverse, reverse_inj, drop_drop, drop_drop,
    length_drop, length_drop] at agree
  rcases commonHead_le source path with ⟨-, headSource, headPath⟩
  change commonTail source path ≤ _ at fitsSource fitsPath
  change List.drop (_ + (_ - commonTail source path)) _ =
    List.drop (_ + (_ - commonTail source path)) _ at agree
  have sourceAt : commonHead source path - 1 +
      (source.bytes.length - (commonHead source path - 1) - commonTail source path) =
        source.bytes.length - commonTail source path := by
    omega
  have pathAt : commonHead source path - 1 +
      (path.bytes.length - (commonHead source path - 1) - commonTail source path) =
        path.bytes.length - commonTail source path := by
    omega
  rw [sourceAt, pathAt] at agree
  exact ⟨agree, fitsPath⟩

/-- The common parts do not share a slash of the new path. -/
theorem eq_parts_of_le
    (apart : commonHead source path + commonTail source path ≤ path.bytes.length) :
    path.bytes = source.bytes.take (commonHead source path) ++
      middle (commonHead source path) (commonTail source path) path ++
        source.bytes.drop (source.bytes.length - commonTail source path) := by
  rw [(commonHead_le source path).1, (commonTail_le source path).1, middle, append_assoc]
  have rest : path.bytes.drop (path.bytes.length - commonTail source path) =
      (path.bytes.drop (commonHead source path)).drop
        (path.bytes.length - commonHead source path - commonTail source path) := by
    rw [drop_drop]
    congr 1
    omega
  rw [rest, take_append_drop, take_append_drop]

/-- The common parts share a slash of the new path, and leave nothing of it between them. -/
theorem eq_parts_of_lt
    (share : path.bytes.length < commonHead source path + commonTail source path) :
    middle (commonHead source path) (commonTail source path) path = [] ∧
      path.bytes = (source.bytes.take (commonHead source path)).dropLast ++
        source.bytes.drop (source.bytes.length - commonTail source path) := by
  rcases commonHead_le source path with ⟨dirs, -, headPath⟩
  rcases commonTail_le source path with ⟨rest, tailPath⟩
  have one : path.bytes.length - commonTail source path = commonHead source path - 1 := by omega
  constructor
  · rw [middle, show path.bytes.length - commonHead source path - commonTail source path = 0 by omega,
      take_zero]
  · have parent : (path.bytes.take (commonHead source path)).dropLast =
        path.bytes.take (commonHead source path - 1) := by
      rw [dropLast_eq_take, take_take, length_take, min_eq_left headPath,
        min_eq_left (Nat.sub_le _ _)]
    rw [dirs, rest, one, parent, take_append_drop]

theorem take_commonHead :
    commonHead source path = 0 ∨
      ∃ dirs, source.bytes.take (commonHead source path) = dirs ++ [0x2F] :=
  (commonDirs_spec _ _).2.2.2

end

end Synapse.Git
