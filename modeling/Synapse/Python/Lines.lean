import Synapse.Python.Value

/-!
# Lines and numbers in Python text

`str.splitlines`, `int(value)` and `os.fsencode`, and which texts they read back.
-/

namespace Synapse

open List

namespace Text

/-- The characters at which `str.splitlines` breaks; a carriage return takes a newline with it. -/
def isLineBreak (point : CodePoint) : Bool :=
  let value := point.val
  (0x0A ≤ value && value ≤ 0x0D) || (0x1C ≤ value && value ≤ 0x1E) || value == 0x85 ||
    value == 0x2028 || value == 0x2029

/-- The lines after the characters of `line`; `returned` says whether a carriage return is before
the rest. -/
def linesFrom (returned : Bool) (line : Text) : Text → List Text
  | [] => if line = [] then [] else [line]
  | point :: rest =>
    if returned = true ∧ point = 0x0A then linesFrom false line rest
    else if isLineBreak point then line :: linesFrom (point = 0x0D) [] rest
    else linesFrom false (line ++ [point]) rest

/-- `value.splitlines()`. -/
def splitlines (value : Text) : List Text := linesFrom false [] value

/-- The value of an ASCII digit. -/
def digitValue (point : CodePoint) : Option ℕ :=
  if 0x30 ≤ point.val ∧ point.val ≤ 0x39 then some (point.val - 0x30) else none

/-- The digits of an `int` literal after `value`; a single underscore may stand between digits. -/
def digitsFrom (afterDigit : Bool) (value : ℕ) : Text → Option ℕ
  | [] => if afterDigit then some value else none
  | point :: rest =>
    if point = 0x5F then if afterDigit then digitsFrom false value rest else none
    else
      match digitValue point with
      | some digit => digitsFrom true (10 * value + digit) rest
      | none => none

/-- `int(value)` of a text whose digits are ASCII, or `none` where it raises `ValueError`. -/
def toInt? (value : Text) : Option ℤ :=
  let digits (literal : Text) : Option ℤ :=
    if maxStrDigits < (literal.filter (· ≠ 0x5F)).length then none
    else (digitsFrom false 0 literal).map Int.ofNat
  match strip value with
  | [] => none
  | first :: rest =>
    if first = 0x2B then digits rest
    else if first = 0x2D then (digits rest).map fun value => -value
    else digits (first :: rest)

/-- The bytes of a code point under `os.fsencode`, which turns a surrogate that stands for a byte
back into it. -/
def fsencodePoint (point : CodePoint) : Option (List UInt8) :=
  let value := point.val
  if value < 0x80 then some [.ofNat value]
  else if value < 0x800 then some [.ofNat (0xC0 + value / 0x40), .ofNat (0x80 + value % 0x40)]
  else if 0xDC80 ≤ value ∧ value ≤ 0xDCFF then some [.ofNat (value - 0xDC00)]
  else if 0xD800 ≤ value ∧ value ≤ 0xDFFF then none
  else if value < 0x10000 then
    some [.ofNat (0xE0 + value / 0x1000), .ofNat (0x80 + value / 0x40 % 0x40),
      .ofNat (0x80 + value % 0x40)]
  else
    some [.ofNat (0xF0 + value / 0x40000), .ofNat (0x80 + value / 0x1000 % 0x40),
      .ofNat (0x80 + value / 0x40 % 0x40), .ofNat (0x80 + value % 0x40)]

/-- The path that the program opens. -/
def fsencode (value : Text) : Option (List UInt8) :=
  (value.mapM fsencodePoint).map List.flatten

variable {text : Text}

theorem linesFrom_line (unbroken : ∀ point ∈ text, isLineBreak point = false) (line rest : Text) :
    linesFrom false line (text ++ 0x0A :: rest) = (line ++ text) :: linesFrom false [] rest := by
  induction text generalizing line with
  | nil =>
    rw [nil_append, linesFrom, if_neg (by simp), if_pos (by decide), append_nil]
    rfl
  | cons point text ih =>
    have inside : isLineBreak point = false := unbroken point mem_cons_self
    rw [cons_append, linesFrom, if_neg (by simp), if_neg (by simp [inside]),
      ih fun other present => unbroken other (mem_cons_of_mem _ present)]
    simp

theorem splitlines_flatMap {lines : List Text}
    (unbroken : ∀ line ∈ lines, ∀ point ∈ line, isLineBreak point = false) :
    splitlines (lines.flatMap (· ++ [0x0A])) = lines := by
  unfold splitlines
  induction lines with
  | nil => rfl
  | cons line lines ih =>
    rw [flatMap_cons, append_assoc, singleton_append,
      linesFrom_line (unbroken line mem_cons_self), nil_append,
      ih fun other present => unbroken other (mem_cons_of_mem _ present)]

/-- `"\n".join(lines)`. -/
def joinLines (lines : List Text) : Text := [(0x0A : CodePoint)].intercalate lines

theorem joinLines_cons (line next : Text) (lines : List Text) :
    joinLines (line :: next :: lines) = line ++ 0x0A :: joinLines (next :: lines) := by
  simp [joinLines, List.intercalate]

theorem linesFrom_end (unbroken : ∀ point ∈ text, isLineBreak point = false)
    (line : Text) : linesFrom false line text = if line ++ text = [] then [] else [line ++ text] := by
  induction text generalizing line with
  | nil => rw [append_nil, linesFrom]
  | cons point text ih =>
    have inside : isLineBreak point = false := unbroken point mem_cons_self
    rw [linesFrom, if_neg (by simp), if_neg (by simp [inside]),
      ih fun other present => unbroken other (mem_cons_of_mem _ present)]
    simp

/-- Lines with newlines between them are read back, if the last one is not empty. -/
theorem splitlines_joinLines {lines : List Text}
    (unbroken : ∀ line ∈ lines, ∀ point ∈ line, isLineBreak point = false)
    (ended : ∀ line ∈ lines.getLast?, line ≠ []) : splitlines (joinLines lines) = lines := by
  unfold splitlines
  induction lines with
  | nil => rfl
  | cons line lines ih =>
    cases lines with
    | nil =>
      have whole : joinLines [line] = line := by simp [joinLines]
      rw [whole, linesFrom_end (unbroken line mem_cons_self), nil_append,
        if_neg (ended line rfl)]
    | cons next lines =>
      rw [joinLines_cons, linesFrom_line (unbroken line mem_cons_self), nil_append]
      refine congrArg (line :: ·) (ih ?_ ?_)
      · exact fun other present => unbroken other (mem_cons_of_mem _ present)
      · rwa [getLast?_cons_cons] at ended

theorem linesFrom_unbroken {line : Text} {returned : Bool}
    (started : ∀ point ∈ line, isLineBreak point = false) :
    ∀ other ∈ linesFrom returned line text, ∀ point ∈ other, isLineBreak point = false := by
  induction text generalizing line returned with
  | nil =>
    intro other present
    unfold linesFrom at present
    split at present
    · cases present
    · rw [mem_singleton.1 present]
      exact started
  | cons point text ih =>
    intro other present
    unfold linesFrom at present
    split at present
    · exact ih started other present
    · split at present
      · rcases mem_cons.1 present with rfl | later
        · exact started
        · exact ih (fun _ inside => absurd inside not_mem_nil) other later
      · rename_i inside
        refine ih ?_ other present
        intro next member
        rcases mem_append.1 member with early | last
        · exact started next early
        · rw [mem_singleton.1 last]
          exact Bool.eq_false_iff.2 inside

variable {point : CodePoint}

theorem mem_of_mem_linesFrom {line other : Text} {returned : Bool}
    (present : other ∈ linesFrom returned line text) (inside : point ∈ other) :
    point ∈ line ∨ point ∈ text := by
  induction text generalizing line returned with
  | nil =>
    unfold linesFrom at present
    split at present
    · cases present
    · rw [mem_singleton.1 present] at inside
      exact Or.inl inside
  | cons first text ih =>
    unfold linesFrom at present
    split at present
    · exact (ih present).imp_right (mem_cons_of_mem first)
    · split at present
      · rcases mem_cons.1 present with rfl | later
        · exact Or.inl inside
        · refine Or.inr ((ih later).elim (fun none => absurd none not_mem_nil) ?_)
          exact mem_cons_of_mem first
      · rcases ih present with early | late
        · rcases mem_append.1 early with before | last
          · exact Or.inl before
          · rw [mem_singleton.1 last]
            exact Or.inr mem_cons_self
        · exact Or.inr (mem_cons_of_mem first late)

variable {value : Text}

theorem mem_of_mem_splitlines {line : Text}
    (present : line ∈ splitlines value) (inside : point ∈ line) : point ∈ value :=
  (mem_of_mem_linesFrom present inside).resolve_left not_mem_nil

theorem splitlines_unbroken {line : Text} (present : line ∈ splitlines value) :
    ∀ point ∈ line, isLineBreak point = false :=
  linesFrom_unbroken (fun _ inside => absurd inside not_mem_nil) line present

theorem strip_of_ends (first : ∀ point ∈ value.head?, CodePoint.isSpace point = false)
    (last : ∀ point ∈ value.getLast?, CodePoint.isSpace point = false) : strip value = value := by
  have front : value.dropWhile CodePoint.isSpace = value := by
    rw [dropWhile_eq_self_iff]
    intro nonempty
    rw [first _ (by rw [head?_eq_getElem?, getElem?_eq_getElem nonempty]; rfl)]
    exact Bool.false_ne_true
  rw [strip, front, rdropWhile_eq_self_iff]
  intro nonempty
  rw [last _ (by rw [getLast?_eq_getLast_of_ne_nil nonempty]; rfl)]
  exact Bool.false_ne_true

theorem strip_subset (present : point ∈ strip value) :
    point ∈ value :=
  (dropWhile_sublist _).mem (( rdropWhile_prefix _ _).mem present)

theorem strip_eq_nil :
    strip value = [] ↔ ∀ point ∈ value, CodePoint.isSpace point = true := by
  rw [strip, rdropWhile_eq_nil_iff]
  constructor
  · intro spaces point present
    by_contra visible
    have kept : value.dropWhile CodePoint.isSpace ≠ [] := by
      rw [Ne, dropWhile_eq_nil_iff]
      exact fun all => visible (all point present)
    have first := dropWhile_get_zero_not CodePoint.isSpace value
      (length_pos_of_ne_nil kept)
    exact first (spaces _ (getElem_mem _))
  · intro spaces point present
    exact spaces point ((dropWhile_sublist _).mem present)

theorem last_of_strip (stripped : strip value = value) :
    ∀ point ∈ value.getLast?, CodePoint.isSpace point = false := by
  intro point last
  have whole : strip value = (value.dropWhile CodePoint.isSpace).rdropWhile CodePoint.isSpace := rfl
  have nonempty : value ≠ [] := by
    rintro rfl
    cases last
  rw [← stripped, whole] at nonempty last
  rw [getLast?_eq_some_getLast nonempty] at last
  cases Option.some.inj last
  exact Bool.eq_false_iff.2 (rdropWhile_last_not _ _ nonempty)

/-- Every character is ASCII. -/
def Ascii (value : Text) : Prop := ∀ point ∈ value, point.val < 0x80

theorem fsencode_eq_map (ascii : Ascii value) :
    fsencode value = some (value.map fun point => .ofNat point.val) := by
  induction value with
  | nil => rfl
  | cons point value ih =>
    have first : fsencodePoint point = some [.ofNat point.val] :=
      if_pos (ascii point mem_cons_self)
    have rest := ih fun other present => ascii other (mem_cons_of_mem _ present)
    unfold fsencode at rest ⊢
    rw [Option.map_eq_some_iff] at rest
    rcases rest with ⟨parts, encoded, joined⟩
    rw [mapM_cons, first, encoded, map_cons, ← joined]
    rfl

variable {digit : Char}

theorem val_of_isDigit (decimal : digit.isDigit = true) :
    (Fin.ofNat 0x110000 digit.toNat).val = digit.toNat ∧ 0x30 ≤ digit.toNat ∧ digit.toNat ≤ 0x39 := by
  rw [Char.isDigit, Bool.and_eq_true, decide_eq_true_eq, decide_eq_true_eq] at decimal
  have least : 48 ≤ digit.toNat := UInt32.le_iff_toNat_le.1 decimal.1
  have most : digit.toNat ≤ 57 := UInt32.le_iff_toNat_le.1 decimal.2
  exact ⟨Nat.mod_eq_of_lt (by omega), least, most⟩

/-- The digits of a number are neither spaces nor line breaks. -/
theorem mem_repr {value : ℕ} (present : point ∈ ofString value.repr) :
    0x30 ≤ point.val ∧ point.val ≤ 0x39 := by
  rw [ofString, Nat.toList_repr, mem_map] at present
  rcases present with ⟨digit, present, rfl⟩
  rcases val_of_isDigit (Nat.isDigit_of_mem_toDigits (by decide) (by decide) present) with
    ⟨number, bounds⟩
  rwa [number]

theorem ne_of_isDigit (decimal : digit.isDigit = true)
    (other : point.val < 0x30 ∨ 0x39 < point.val) : Fin.ofNat 0x110000 digit.toNat ≠ point := by
  rintro rfl
  rcases val_of_isDigit decimal with ⟨value, least, most⟩
  omega

theorem digitsFrom_cons (decimal : digit.isDigit = true) (afterDigit : Bool)
    (value : ℕ) (rest : Text) :
    digitsFrom afterDigit value (Fin.ofNat 0x110000 digit.toNat :: rest) =
      digitsFrom true (10 * value + (digit.toNat - 48)) rest := by
  rcases val_of_isDigit decimal with ⟨number, bounds⟩
  have own : digitValue (Fin.ofNat 0x110000 digit.toNat) = some (digit.toNat - 48) := by
    rw [digitValue, number, if_pos bounds]
  rw [digitsFrom, if_neg (ne_of_isDigit decimal (by decide)), own]

theorem digitsFrom_digits {digits : List Char} (decimal : ∀ digit ∈ digits, digit.isDigit = true)
    (value : ℕ) :
    digitsFrom true value (digits.map fun digit => Fin.ofNat 0x110000 digit.toNat) =
      some (Nat.ofDigitChars 10 digits value) := by
  induction digits generalizing value with
  | nil => rfl
  | cons digit digits ih =>
    rw [map_cons, digitsFrom_cons (decimal digit mem_cons_self), Nat.ofDigitChars_cons]
    exact ih (fun other present => decimal other (mem_cons_of_mem _ present)) _

theorem toInt?_repr {value : ℕ} (small : value < 10 ^ maxStrDigits) :
    toInt? (ofString value.repr) = some (value : ℤ) := by
  have decimal : ∀ digit ∈ Nat.toDigits 10 value, digit.isDigit = true :=
    fun digit present => Nat.isDigit_of_mem_toDigits (by decide) (by decide) present
  have short : (Nat.toDigits 10 value).length ≤ maxStrDigits :=
    (Nat.length_toDigits_le_iff (by decide) (by decide)).2 small
  have whole : Nat.ofDigitChars 10 (Nat.toDigits 10 value) 0 = value :=
    Nat.ofDigitChars_ten_toDigits
  have solid : ∀ point ∈ ofString value.repr, CodePoint.isSpace point = false := by
    intro point present
    rw [ofString, Nat.toList_repr, mem_map] at present
    rcases present with ⟨digit, present, rfl⟩
    rcases val_of_isDigit (decimal digit present) with ⟨number, least, most⟩
    simp only [CodePoint.isSpace, number]
    grind
  have stripped : strip (ofString value.repr) = ofString value.repr :=
    strip_of_ends (fun point first => solid point (mem_of_mem_head? first))
      fun point last => solid point (mem_of_mem_getLast? last)
  rw [toInt?, stripped, ofString, Nat.toList_repr]
  rcases exists_cons_of_ne_nil (Nat.toDigits_ne_nil (n := value) (b := 10)) with
    ⟨digit, digits, shape⟩
  rw [shape] at decimal short whole ⊢
  have own := decimal digit mem_cons_self
  have fits : ¬maxStrDigits < (((digit :: digits).map fun digit =>
      Fin.ofNat 0x110000 digit.toNat).filter (· ≠ 0x5F)).length := by
    refine not_lt.2 ((length_filter_le _ _).trans ?_)
    rwa [length_map]
  rw [map_cons] at fits ⊢
  dsimp only
  rw [if_neg (ne_of_isDigit own (by decide)), if_neg (ne_of_isDigit own (by decide)), if_neg fits,
    digitsFrom_cons own,
    digitsFrom_digits fun other present => decimal other (mem_cons_of_mem _ present)]
  rw [Nat.ofDigitChars_cons] at whole
  exact congrArg (fun value => some (Int.ofNat value)) whole

end Text

end Synapse
