import Mathlib

/-!
# Python text

A Python `str` is a sequence of code points, surrogates included. Lean strings
cannot hold a lone surrogate, so text that the program stores, compares,
concatenates or encodes is a list of code points here.
-/

namespace Synapse

/-- A Unicode code point; unlike a `Char` it may be a surrogate. -/
abbrev CodePoint := Fin 0x110000

instance CodePoint.neZero : NeZero 0x110000 := ⟨by decide⟩

instance CodePoint.lawfulBEq : LawfulBEq CodePoint := inferInstance

/-- A Python `str`. -/
abbrev Text := List CodePoint

instance Text.lawfulBEq : LawfulBEq Text := inferInstance

namespace CodePoint

theorem size_uint8_le : UInt8.size ≤ 0x110000 := by decide

/-- Code points `chr(c)` for which `chr(c).isspace()` holds; `str.strip` removes these. -/
def isSpace (point : CodePoint) : Bool :=
  let value := point.val
  (0x09 ≤ value && value ≤ 0x0D) || (0x1C ≤ value && value ≤ 0x20) || value == 0x85 ||
    value == 0xA0 || value == 0x1680 || (0x2000 ≤ value && value ≤ 0x200A) ||
    value == 0x2028 || value == 0x2029 || value == 0x202F || value == 0x205F || value == 0x3000

/-- Bytes of one code point in UTF-8; a surrogate has no encoding. -/
def utf8Size? (point : CodePoint) : Option ℕ :=
  let value := point.val
  if value < 0x80 then some 1
  else if value < 0x800 then some 2
  else if 0xD800 ≤ value && value ≤ 0xDFFF then none
  else if value < 0x10000 then some 3
  else some 4

end CodePoint

namespace Text

/-- The Python literal with the same characters as a Lean one. -/
def ofString (literal : String) : Text :=
  literal.toList.map fun character => Fin.ofNat 0x110000 character.toNat

/-- `len(value.encode('utf-8'))`, or `none` where the encoder raises `UnicodeEncodeError`. -/
def utf8Size? (value : Text) : Option ℕ :=
  value.foldr (fun point rest => return (← point.utf8Size?) + (← rest)) (some 0)

/-- `value.encode('utf-8')` does not raise. -/
def Encodes (value : Text) : Prop := value.utf8Size?.isSome = true

instance (value : Text) : Decidable value.Encodes := inferInstanceAs (Decidable (_ = true))

/-- `value.strip()`. -/
def strip (value : Text) : Text :=
  (value.dropWhile CodePoint.isSpace).rdropWhile CodePoint.isSpace

/-- `first or second`, where an empty text counts as missing. -/
def orElse (first second : Option Text) : Option Text :=
  if first = none ∨ first = some [] then second else first

theorem encodes_iff {value : Text} : value.Encodes ↔ ∀ point ∈ value, point.utf8Size?.isSome = true := by
  induction value with
  | nil => exact ⟨fun _ _ mem => absurd mem List.not_mem_nil, fun _ => rfl⟩
  | cons point rest ih =>
    rw [List.forall_mem_cons, ← ih, Encodes, Encodes, utf8Size?, List.foldr_cons]
    cases own : point.utf8Size? <;> cases others : utf8Size? rest <;>
      simp [utf8Size?] at others <;> simp [others]

theorem Encodes.of_subset {first second : Text} (encodes : second.Encodes) (among : ∀ point ∈ first, point ∈ second) :
    first.Encodes := encodes_iff.2 fun point mem => encodes_iff.1 encodes point (among point mem)

theorem dropWhile_strip (value : Text) : value.strip.dropWhile CodePoint.isSpace = value.strip := by
  rw [List.dropWhile_eq_self_iff]
  intro nonempty
  have part : value.strip <+: value.dropWhile CodePoint.isSpace := List.rdropWhile_prefix _ _
  rw [part.getElem nonempty]
  exact List.dropWhile_get_zero_not _ _ (nonempty.trans_le part.length_le)

theorem strip_strip (value : Text) : value.strip.strip = value.strip :=
  calc
    value.strip.strip = value.strip.rdropWhile CodePoint.isSpace := by rw [strip, dropWhile_strip]
    _ = value.strip := List.rdropWhile_idempotent _ _

theorem isSpace_of_strip {value rest : Text} {point : CodePoint} (starts : value.strip = point :: rest) :
    point.isSpace = false := by
  have same := dropWhile_strip value
  rw [starts, List.dropWhile_cons] at same
  split at same
  · next space =>
      have shorter := (List.dropWhile_suffix CodePoint.isSpace (l := rest)).length_le
      rw [same, List.length_cons] at shorter
      omega
  · next plain => exact Bool.eq_false_iff.2 plain

end Text

end Synapse
