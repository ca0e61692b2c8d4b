import Synapse.Foundation.Utf16

/-!
# JavaScript strings and JSON values

A string of the console is a sequence of UTF-16 code units, and a value from the wire is what
`JSON.parse` makes of it. A member that is missing is `none`, and so are the values that no branch of
the program tells from a missing one.
-/

namespace Synapse.Console

open List

/-- A JavaScript string. -/
abbrev JsText := List UInt16

instance JsText.lawfulBEq : LawfulBEq JsText := inferInstance

namespace JsText

def ofString (literal : String) : JsText := Utf16.encode literal.toList

/-- A whole number in a template literal. -/
def ofNat (value : ℕ) : JsText := ofString value.repr

/-- What `trim` removes at the ends, and what `\s` matches. -/
def isSpace (unit : UInt16) : Bool :=
  let value := unit.toNat
  (0x09 ≤ value && value ≤ 0x0D) || value == 0x20 || value == 0xA0 || value == 0x1680 ||
    (0x2000 ≤ value && value ≤ 0x200A) || value == 0x2028 || value == 0x2029 || value == 0x202F ||
    value == 0x205F || value == 0x3000 || value == 0xFEFF

/-- `text.trim()` -/
def trim (text : JsText) : JsText := (text.dropWhile isSpace).rdropWhile isSpace

def join (separator : JsText) (parts : List JsText) : JsText := separator.intercalate parts

theorem units_ascii {character : Char} (small : character.toNat < 0x80) :
    Utf16.units character = [.ofNat character.toNat] := if_pos (by omega)

theorem toNat_ofNat_small {value : ℕ} (small : value < 0x80) : (UInt16.ofNat value).toNat = value :=
  UInt16.toNat_ofNat_of_lt' (small.trans (by decide))

theorem mem_ofNat {value : ℕ} {unit : UInt16} (present : unit ∈ ofNat value) :
    0x30 ≤ unit.toNat ∧ unit.toNat ≤ 0x39 := by
  rw [ofNat, ofString, Utf16.encode, Nat.toList_repr, mem_flatMap] at present
  rcases present with ⟨digit, inside, own⟩
  have decimal := Nat.isDigit_of_mem_toDigits (by decide) (by decide) inside
  rw [Char.isDigit, Bool.and_eq_true, decide_eq_true_eq, decide_eq_true_eq] at decimal
  have least : 48 ≤ digit.toNat := UInt32.le_iff_toNat_le.1 decimal.1
  have most : digit.toNat ≤ 57 := UInt32.le_iff_toNat_le.1 decimal.2
  rw [units_ascii (by omega), mem_singleton] at own
  rw [own, toNat_ofNat_small (by omega)]
  exact ⟨least, most⟩

theorem units_digit {digit : Char} (decimal : digit.isDigit = true) :
    Utf16.units digit = [.ofNat digit.toNat] := by
  rw [Char.isDigit, Bool.and_eq_true, decide_eq_true_eq, decide_eq_true_eq] at decimal
  have most : digit.toNat ≤ 57 := UInt32.le_iff_toNat_le.1 decimal.2
  exact units_ascii (by omega)

theorem digits_injective {first second : List Char} (one : ∀ digit ∈ first, digit.isDigit = true)
    (other : ∀ digit ∈ second, digit.isDigit = true)
    (same : Utf16.encode first = Utf16.encode second) : first = second := by
  induction first generalizing second with
  | nil =>
    cases second with
    | nil => rfl
    | cons digit second =>
      rw [Utf16.encode, Utf16.encode, flatMap_cons,
        units_digit (other digit mem_cons_self)] at same
      cases same
  | cons digit first ih =>
    cases second with
    | nil =>
      rw [Utf16.encode, Utf16.encode, flatMap_cons,
        units_digit (one digit mem_cons_self)] at same
      cases same
    | cons next second =>
      have own := one digit mem_cons_self
      have their := other next mem_cons_self
      rw [Utf16.encode, Utf16.encode, flatMap_cons, flatMap_cons, units_digit own,
        units_digit their, singleton_append, singleton_append, cons.injEq] at same
      have letters : digit = next := by
        rw [Char.isDigit, Bool.and_eq_true, decide_eq_true_eq, decide_eq_true_eq] at own their
        have small : digit.toNat ≤ 57 := UInt32.le_iff_toNat_le.1 own.2
        have bounded : next.toNat ≤ 57 := UInt32.le_iff_toNat_le.1 their.2
        have values := congrArg UInt16.toNat same.1
        rw [toNat_ofNat_small (by omega), toNat_ofNat_small (by omega)] at values
        exact Char.toNat_inj.1 values
      have rest := ih (fun other present => one other (mem_cons_of_mem _ present))
        (fun next present => other next (mem_cons_of_mem _ present)) same.2
      rw [letters, rest]

theorem ofNat_injective : Function.Injective ofNat := by
  intro first second same
  rw [ofNat, ofNat, ofString, ofString, Nat.toList_repr, Nat.toList_repr] at same
  have digits := digits_injective
    (fun digit present => Nat.isDigit_of_mem_toDigits (by decide) (by decide) present)
    (fun digit present => Nat.isDigit_of_mem_toDigits (by decide) (by decide) present) same
  have values := congrArg (fun digits => Nat.ofDigitChars 10 digits 0) digits
  simpa [Nat.ofDigitChars_ten_toDigits] using values

end JsText

/-- A value of `JSON.parse`; its numbers are finite. -/
inductive Json where
  | null
  | bool (value : Bool)
  | number (value : ℚ)
  | string (value : JsText)
  | array (items : List Json)
  | object (members : List (JsText × Json))

namespace Json

/-- The named member of an object. -/
def get? (value : Json) (name : String) : Option Json :=
  match value with
  | .object members => members.lookup (JsText.ofString name)
  | _ => none

/-- The value where it is a string. -/
def string? : Option Json → Option JsText
  | some (.string value) => some value
  | _ => none

/-- The value where it is a string that is not empty. -/
def filled? (value : Option Json) : Option JsText := (string? value).filter (· ≠ [])

def number? : Option Json → Option ℚ
  | some (.number value) => some value
  | _ => none

def isTrue : Option Json → Bool
  | some (.bool true) => true
  | _ => false

def items : Option Json → List Json
  | some (.array items) => items
  | _ => []

def members : Option Json → List (JsText × Json)
  | some (.object members) => members
  | _ => []

/-- `value ?? other` -/
def orElse : Option Json → Option Json → Option Json
  | none, other => other
  | some .null, other => other
  | some value, _ => some value

end Json

end Synapse.Console
