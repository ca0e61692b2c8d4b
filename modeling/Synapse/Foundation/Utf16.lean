import Mathlib

/-!
# UTF-16

Characters as code units, one or a pair of surrogates, and their bytes in either order. What is written
is read back, and what can be read at all is written as it was.
-/

namespace Synapse.Utf16

/-- The code units of a character. -/
def units (character : Char) : List UInt16 :=
  let value := character.toNat
  if value < 0x10000 then [.ofNat value]
  else [.ofNat (0xD800 + (value - 0x10000) / 0x400), .ofNat (0xDC00 + (value - 0x10000) % 0x400)]

def encode (text : List Char) : List UInt16 := text.flatMap units

def isHigh (unit : UInt16) : Bool := 0xD800 ≤ unit.toNat && unit.toNat < 0xDC00

def isLow (unit : UInt16) : Bool := 0xDC00 ≤ unit.toNat && unit.toNat < 0xE000

/-- The character of a surrogate pair. -/
def pair (high low : UInt16) : Char :=
  .ofNat (0x10000 + (high.toNat - 0xD800) * 0x400 + (low.toNat - 0xDC00))

/-- The characters of code units, or `none` where a surrogate has no partner. -/
def decode : List UInt16 → Option (List Char)
  | [] => some []
  | [unit] => if isHigh unit || isLow unit then none else some [.ofNat unit.toNat]
  | unit :: next :: rest =>
    if isHigh unit then
      if isLow next then (decode rest).map (pair unit next :: ·) else none
    else if isLow unit then none
    else (decode (next :: rest)).map (Char.ofNat unit.toNat :: ·)

variable {text : List Char} {character : Char} {unit high low : UInt16} {rest : List UInt16}

theorem not_surrogate (character : Char) : character.toNat < 0xD800 ∨
    0xDFFF < character.toNat ∧ character.toNat < 0x110000 := character.valid

theorem toNat_ofNat {value : ℕ} (valid : value < 0xD800 ∨ 0xDFFF < value ∧ value < 0x110000) :
    (Char.ofNat value).toNat = value := by
  have legal : value.isValidChar := valid
  rw [Char.ofNat, dif_pos legal]
  rfl

theorem decode_plain (plain : isHigh unit = false ∧ isLow unit = false) :
    decode (unit :: rest) = (decode rest).map (Char.ofNat unit.toNat :: ·) := by
  cases rest with
  | nil => simp [decode, plain.1, plain.2]
  | cons next rest => rw [decode, plain.1, plain.2]; rfl

theorem decode_pair (first : isHigh high = true) (second : isLow low = true) :
    decode (high :: low :: rest) = (decode rest).map (pair high low :: ·) := by
  rw [decode, if_pos first, if_pos second]

/-- A character is one code unit, or a pair that stands for it. -/
theorem units_cases (character : Char) :
    (∃ unit, units character = [unit] ∧ (isHigh unit = false ∧ isLow unit = false) ∧
      Char.ofNat unit.toNat = character) ∨
    ∃ high low, units character = [high, low] ∧ isHigh high = true ∧ isLow low = true ∧
      pair high low = character := by
  have legal := not_surrogate character
  unfold units
  dsimp only
  split
  · rename_i small
    have value : (UInt16.ofNat character.toNat).toNat = character.toNat :=
      UInt16.toNat_ofNat_of_lt' small
    refine Or.inl ⟨_, rfl, ⟨?_, ?_⟩, ?_⟩
    · rw [isHigh, value]
      grind
    · rw [isLow, value]
      grind
    · rw [value, Char.ofNat_toNat]
  · rename_i large
    have first : (UInt16.ofNat (0xD800 + (character.toNat - 0x10000) / 0x400)).toNat =
        0xD800 + (character.toNat - 0x10000) / 0x400 :=
      UInt16.toNat_ofNat_of_lt' (show _ < 65536 by omega)
    have second : (UInt16.ofNat (0xDC00 + (character.toNat - 0x10000) % 0x400)).toNat =
        0xDC00 + (character.toNat - 0x10000) % 0x400 :=
      UInt16.toNat_ofNat_of_lt' (show _ < 65536 by omega)
    refine Or.inr ⟨_, _, rfl, ?_, ?_, ?_⟩
    · rw [isHigh, first, Bool.and_eq_true, decide_eq_true_iff, decide_eq_true_iff]
      omega
    · rw [isLow, second, Bool.and_eq_true, decide_eq_true_iff, decide_eq_true_iff]
      omega
    · have whole : 0x10000 + (0xD800 + (character.toNat - 0x10000) / 0x400 - 0xD800) * 0x400 +
          (0xDC00 + (character.toNat - 0x10000) % 0x400 - 0xDC00) = character.toNat := by
        omega
      rw [pair, first, second, whole, Char.ofNat_toNat]

theorem decode_units_append (character : Char) (rest : List UInt16) :
    decode (units character ++ rest) = (decode rest).map (character :: ·) := by
  rcases units_cases character with ⟨unit, shape, plain, same⟩ | ⟨high, low, shape, first, second, same⟩
  · rw [shape, List.singleton_append, decode_plain plain, same]
  · rw [shape, List.cons_append, List.singleton_append, decode_pair first second, same]

theorem decode_encode (text : List Char) : decode (encode text) = some text := by
  induction text with
  | nil => rfl
  | cons character text ih =>
    have parts : encode (character :: text) = units character ++ encode text := rfl
    rw [parts, decode_units_append, ih]
    rfl

theorem units_plain (plain : isHigh unit = false ∧ isLow unit = false) :
    units (Char.ofNat unit.toNat) = [unit] := by
  have bounded : unit.toNat < 65536 := unit.toNat_lt
  have legal : unit.toNat < 0xD800 ∨ 0xDFFF < unit.toNat ∧ unit.toNat < 0x110000 := by
    have one := plain.1
    have other := plain.2
    unfold isHigh at one
    unfold isLow at other
    grind
  rw [units, toNat_ofNat legal, if_pos bounded, UInt16.ofNat_toNat]

theorem units_pair (first : isHigh high = true) (second : isLow low = true) :
    units (pair high low) = [high, low] := by
  rw [isHigh, Bool.and_eq_true, decide_eq_true_iff, decide_eq_true_iff] at first
  rw [isLow, Bool.and_eq_true, decide_eq_true_iff, decide_eq_true_iff] at second
  have value : (pair high low).toNat =
      0x10000 + (high.toNat - 0xD800) * 0x400 + (low.toNat - 0xDC00) :=
    toNat_ofNat (by omega)
  have one : 0xD800 + (0x10000 + (high.toNat - 0xD800) * 0x400 + (low.toNat - 0xDC00) - 0x10000) /
      0x400 = high.toNat := by
    omega
  have other : 0xDC00 + (0x10000 + (high.toNat - 0xD800) * 0x400 + (low.toNat - 0xDC00) - 0x10000) %
      0x400 = low.toNat := by
    omega
  rw [units, value, if_neg (by omega), one, other, UInt16.ofNat_toNat, UInt16.ofNat_toNat]

theorem encode_of_decode {codes : List UInt16} (read : decode codes = some text) :
    encode text = codes := by
  fun_induction decode codes generalizing text with
  | case1 =>
    cases read
    rfl
  | case2 unit surrogate => cases read
  | case3 unit plain =>
    cases read
    rw [Bool.or_eq_true, not_or, Bool.not_eq_true, Bool.not_eq_true] at plain
    rw [encode, List.flatMap_singleton, units_plain plain]
  | case4 unit next rest first second ih =>
    rcases Option.map_eq_some_iff.1 read with ⟨others, later, rfl⟩
    have parts : encode (pair unit next :: others) = units (pair unit next) ++ encode others := rfl
    rw [parts, units_pair first second, ih later]
    rfl
  | case5 unit next rest first second => cases read
  | case6 unit next rest first second => cases read
  | case7 unit next rest first second ih =>
    rcases Option.map_eq_some_iff.1 read with ⟨others, later, rfl⟩
    have parts : encode (Char.ofNat unit.toNat :: others) =
        units (Char.ofNat unit.toNat) ++ encode others := rfl
    rw [parts, units_plain ⟨Bool.eq_false_iff.2 first, Bool.eq_false_iff.2 second⟩, ih later]
    rfl

/-! ### Bytes -/

/-- The bytes of a code unit, the low one first or last. -/
def unitBytes (little : Bool) (unit : UInt16) : List UInt8 :=
  let high := UInt8.ofNat (unit.toNat / 256)
  let low := UInt8.ofNat (unit.toNat % 256)
  if little then [low, high] else [high, low]

def unitOf (little : Bool) (first second : UInt8) : UInt16 :=
  if little then .ofNat (second.toNat * 256 + first.toNat)
  else .ofNat (first.toNat * 256 + second.toNat)

/-- The code units of bytes, or `none` where one byte is left. -/
def unitsOf (little : Bool) : List UInt8 → Option (List UInt16)
  | [] => some []
  | [_] => none
  | first :: second :: rest => (unitsOf little rest).map (unitOf little first second :: ·)

theorem unitOf_unitBytes (little : Bool) (unit : UInt16) : ∃ first second,
    unitBytes little unit = [first, second] ∧ unitOf little first second = unit := by
  have bounded : unit.toNat < 65536 := unit.toNat_lt
  have high : (UInt8.ofNat (unit.toNat / 256)).toNat = unit.toNat / 256 :=
    UInt8.toNat_ofNat_of_lt' (show _ < 256 by omega)
  have low : (UInt8.ofNat (unit.toNat % 256)).toNat = unit.toNat % 256 :=
    UInt8.toNat_ofNat_of_lt' (show _ < 256 by omega)
  have whole : unit.toNat / 256 * 256 + unit.toNat % 256 = unit.toNat := by omega
  cases little with
  | true =>
    refine ⟨_, _, rfl, ?_⟩
    rw [unitOf, if_pos rfl, high, low, whole, UInt16.ofNat_toNat]
  | false =>
    refine ⟨_, _, rfl, ?_⟩
    rw [unitOf, if_neg Bool.false_ne_true, high, low, whole, UInt16.ofNat_toNat]

theorem unitsOf_bytes (little : Bool) (codes : List UInt16) :
    unitsOf little (codes.flatMap (unitBytes little)) = some codes := by
  induction codes with
  | nil => rfl
  | cons unit codes ih =>
    rcases unitOf_unitBytes little unit with ⟨first, second, bytes, own⟩
    rw [List.flatMap_cons, bytes, List.cons_append, List.singleton_append, unitsOf, ih, own]
    rfl

theorem unitBytes_unitOf (little : Bool) (first second : UInt8) :
    unitBytes little (unitOf little first second) = [first, second] := by
  have one : first.toNat < 256 := first.toNat_lt
  have other : second.toNat < 256 := second.toNat_lt
  cases little with
  | true =>
    have value : (unitOf true first second).toNat = second.toNat * 256 + first.toNat :=
      UInt16.toNat_ofNat_of_lt' (show _ < 65536 by omega)
    have low : (second.toNat * 256 + first.toNat) % 256 = first.toNat := by omega
    have high : (second.toNat * 256 + first.toNat) / 256 = second.toNat := by omega
    rw [unitBytes, value, low, high, UInt8.ofNat_toNat, UInt8.ofNat_toNat]
    rfl
  | false =>
    have value : (unitOf false first second).toNat = first.toNat * 256 + second.toNat :=
      UInt16.toNat_ofNat_of_lt' (show _ < 65536 by omega)
    have low : (first.toNat * 256 + second.toNat) % 256 = second.toNat := by omega
    have high : (first.toNat * 256 + second.toNat) / 256 = first.toNat := by omega
    rw [unitBytes, value, low, high, UInt8.ofNat_toNat, UInt8.ofNat_toNat]
    rfl

theorem bytes_unitsOf {little : Bool} {bytes : List UInt8} {codes : List UInt16}
    (read : unitsOf little bytes = some codes) : codes.flatMap (unitBytes little) = bytes := by
  fun_induction unitsOf little bytes generalizing codes with
  | case1 =>
    cases read
    rfl
  | case2 => cases read
  | case3 first second rest ih =>
    rcases Option.map_eq_some_iff.1 read with ⟨others, later, rfl⟩
    rw [List.flatMap_cons, unitBytes_unitOf, ih later]
    rfl

end Synapse.Utf16
