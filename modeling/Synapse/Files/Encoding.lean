import Synapse.Files.UnifiedPatch
import Synapse.Foundation.Utf16

/-!
# Encodings of files

The text of a file, which is read as UTF-8 or UTF-16 where its mark or its bytes say so and in a legacy
encoding otherwise, and the bytes that a text is written to.
-/

namespace Synapse.Files

open List

/-! ### UTF-8 -/

def utf8Bytes (text : Str) : List UInt8 := text.flatMap String.utf8EncodeChar

/-- `std::str::from_utf8` -/
def fromUtf8 (bytes : List UInt8) : Option Str := bytes.toByteArray.utf8Decode?.map Array.toList

theorem fromUtf8_bytes (text : Str) : fromUtf8 (utf8Bytes text) = some text := by
  have own : (utf8Bytes text).toByteArray.utf8Decode? = some text.toArray :=
    List.utf8Decode?_utf8Encode
  rw [fromUtf8, own]
  rfl

variable {bytes : List UInt8}

theorem bytes_of_fromUtf8 {text : Str} (read : fromUtf8 bytes = some text) :
    utf8Bytes text = bytes := by
  rcases Option.map_eq_some_iff.1 read with ⟨letters, found, rfl⟩
  have valid : bytes.toByteArray.utf8Decode?.isSome = true := by
    rw [found]
    rfl
  have own : (bytes.toByteArray.utf8Decode?.get valid).toList.utf8Encode = bytes.toByteArray :=
    ByteArray.utf8Encode_get_utf8Decode?
  have letters_get : bytes.toByteArray.utf8Decode?.get valid = letters :=
    Option.get_of_eq_some valid found
  rw [letters_get] at own
  exact toByteArray_inj.1 own

/-! ### Encodings -/

/-- The detector, the encoders and the decoders of legacy encodings. -/
structure Codecs (Legacy : Type) where
  /-- `EncodingDetector::guess` -/
  guess : List UInt8 → Legacy
  /-- The bytes of a character, or `none` where the encoding has none for it. -/
  encodeChar : Legacy → Char → Option (List UInt8)
  /-- `decode_without_bom_handling`, or `none` where it had errors. -/
  decode : Legacy → List UInt8 → Option Str

/-- The numeric reference to a character. -/
def reference (character : Char) : Str :=
  '&' :: '#' :: (Nat.toDigits 10 character.toNat ++ [';'])

variable {Legacy : Type}

/-- `Encoding::encode` of a legacy encoding, with whether a character is written as a reference. -/
def Codecs.encode (codecs : Codecs Legacy) (encoding : Legacy) (text : Str) : List UInt8 × Bool :=
  (text.flatMap fun character =>
      (codecs.encodeChar encoding character).getD (utf8Bytes (reference character)),
    text.any fun character => (codecs.encodeChar encoding character).isNone)

/-- What is read where a character was written. -/
def Codecs.readBack (codecs : Codecs Legacy) (encoding : Legacy) (character : Char) : Str :=
  match codecs.encodeChar encoding character with
  | some bytes => (codecs.decode encoding bytes).getD []
  | none => reference character

/-- Decoders read what the encoders write, a character for each that has bytes. -/
structure Codecs.Lawful (codecs : Codecs Legacy) : Prop where
  decode_encode : ∀ encoding text, codecs.decode encoding (codecs.encode encoding text).1 =
    some (text.flatMap (codecs.readBack encoding))
  one : ∀ encoding character bytes, codecs.encodeChar encoding character = some bytes →
    ∃ letter, codecs.decode encoding bytes = some [letter]

inductive Encoding (Legacy : Type) where
  | utf8
  | utf16 (little : Bool)
  | legacy (encoding : Legacy)
  deriving DecidableEq

structure FileEncoding (Legacy : Type) where
  encoding : Encoding Legacy
  hasBom : Bool
  deriving DecidableEq

def utf8Mark : List UInt8 := [0xEF, 0xBB, 0xBF]

def utf16Mark (little : Bool) : List UInt8 := if little then [0xFF, 0xFE] else [0xFE, 0xFF]

/-- `encode_utf16` -/
def encodeUtf16 (text : Str) (hasBom little : Bool) : List UInt8 :=
  (if hasBom then utf16Mark little else []) ++
    (Utf16.encode text).flatMap (Utf16.unitBytes little)

/-- `FileEncoding::encode`; whether characters had no bytes is not looked at. -/
def FileEncoding.encode (codecs : Codecs Legacy) (file : FileEncoding Legacy) (text : Str) :
    List UInt8 :=
  match file.encoding with
  | .utf16 little => encodeUtf16 text file.hasBom little
  | .utf8 => (if file.hasBom then utf8Mark else []) ++ utf8Bytes text
  | .legacy encoding => (codecs.encode encoding text).1

inductive ReadError (Legacy : Type) where
  | invalidUtf8
  | invalidUtf16 (little : Bool)
  | undecodable (encoding : Legacy)
  deriving DecidableEq

/-- `decode_utf16` of what follows the mark. -/
def decodeUtf16 (little : Bool) (rest : List UInt8) :
    Except (ReadError Legacy) (Str × FileEncoding Legacy) :=
  match (Utf16.unitsOf little rest).bind Utf16.decode with
  | some text => .ok (text, { encoding := .utf16 little, hasBom := true })
  | none => .error (.invalidUtf16 little)

/-- A text without a mark. -/
def decodeUnmarked (codecs : Codecs Legacy) (bytes : List UInt8) :
    Except (ReadError Legacy) (Str × FileEncoding Legacy) :=
  match fromUtf8 bytes with
  | some text => .ok (text, { encoding := .utf8, hasBom := false })
  | none =>
    let encoding := codecs.guess bytes
    match codecs.decode encoding bytes with
    | some text => .ok (text, { encoding := .legacy encoding, hasBom := false })
    | none => .error (.undecodable encoding)

/-- `detect_and_decode` -/
def detectAndDecode (codecs : Codecs Legacy) : List UInt8 →
    Except (ReadError Legacy) (Str × FileEncoding Legacy)
  | 0xEF :: 0xBB :: 0xBF :: rest =>
    match fromUtf8 rest with
    | some text => .ok (text, { encoding := .utf8, hasBom := true })
    | none => .error .invalidUtf8
  | 0xFF :: 0xFE :: rest => decodeUtf16 true rest
  | 0xFE :: 0xFF :: rest => decodeUtf16 false rest
  | bytes => decodeUnmarked codecs bytes

/-! ### Reading back -/

/-- `bytes` without a mark that they start with. -/
def withoutMark (mark bytes : List UInt8) : Option (List UInt8) :=
  if mark <+: bytes then some (bytes.drop mark.length) else none

/-- The text of bytes in the encoding of a file, after its mark. -/
def FileEncoding.decode (codecs : Codecs Legacy) (file : FileEncoding Legacy)
    (bytes : List UInt8) : Option Str :=
  match file.encoding with
  | .utf8 => (withoutMark (if file.hasBom then utf8Mark else []) bytes).bind fromUtf8
  | .utf16 little =>
    ((withoutMark (if file.hasBom then utf16Mark little else []) bytes).bind
      (Utf16.unitsOf little)).bind Utf16.decode
  | .legacy encoding => codecs.decode encoding bytes

/-- An encoding writes a character as bytes that stand for it. -/
def Encoding.Stands (codecs : Codecs Legacy) (encoding : Encoding Legacy) (character : Char) : Prop :=
  match encoding with
  | .legacy encoding => ∃ bytes, codecs.encodeChar encoding character = some bytes ∧
      codecs.decode encoding bytes = some [character]
  | _ => True

theorem withoutMark_append (mark rest : List UInt8) : withoutMark mark (mark ++ rest) = some rest := by
  rw [withoutMark, if_pos (prefix_append mark rest), drop_left]

theorem reference_length (character : Char) : 1 < (reference character).length := by
  rw [reference, length_cons, length_cons]
  omega

variable {codecs : Codecs Legacy} {file : FileEncoding Legacy} {encoding : Legacy} {text : Str}
  {character : Char}

theorem readBack_of_stands (stands : (Encoding.legacy encoding).Stands codecs character) :
    codecs.readBack encoding character = [character] := by
  rcases stands with ⟨bytes, written, read⟩
  rw [Codecs.readBack, written]
  dsimp only
  rw [read, Option.getD_some]

theorem stands_of_readBack (lawful : codecs.Lawful)
    (same : codecs.readBack encoding character = [character]) :
    (Encoding.legacy encoding).Stands codecs character := by
  rw [Codecs.readBack] at same
  split at same
  · rename_i bytes written
    rcases lawful.one encoding character bytes written with ⟨letter, read⟩
    rw [read, Option.getD_some] at same
    exact ⟨bytes, written, read.trans (congrArg some same)⟩
  · have long := reference_length character
    rw [same] at long
    exact absurd long (lt_irrefl 1)

theorem readBack_nonempty (lawful : codecs.Lawful) (encoding : Legacy) (character : Char) :
    1 ≤ (codecs.readBack encoding character).length := by
  rw [Codecs.readBack]
  split
  · rename_i bytes written
    rcases lawful.one encoding character bytes written with ⟨letter, read⟩
    rw [read, Option.getD_some]
    rfl
  · exact (reference_length character).le

/-- Pieces that are not empty and make up a text of as many characters are its characters. -/
theorem flatMap_eq_self {piece : Char → Str} (nonempty : ∀ character, 1 ≤ (piece character).length)
    (same : text.flatMap piece = text) : ∀ character ∈ text, piece character = [character] := by
  have longer : ∀ text : Str, text.length ≤ (text.flatMap piece).length := by
    intro text
    induction text with
    | nil => exact Nat.le_refl 0
    | cons letter rest ih =>
      rw [flatMap_cons, length_append, length_cons]
      have one := nonempty letter
      omega
  induction text with
  | nil =>
    intro character member
    exact absurd member not_mem_nil
  | cons letter rest ih =>
    rw [flatMap_cons] at same
    have total := congrArg List.length same
    rw [length_append, length_cons] at total
    have one := nonempty letter
    have others := longer rest
    have single : (piece letter).length = 1 := by omega
    rcases length_eq_one_iff.1 single with ⟨first, shape⟩
    rw [shape, singleton_append, cons.injEq] at same
    intro character member
    rcases mem_cons.1 member with rfl | later
    · rw [shape, same.1]
    · exact ih same.2 character later

theorem legacy_decode_iff (lawful : codecs.Lawful) :
    codecs.decode encoding (codecs.encode encoding text).1 = some text ↔
      ∀ character ∈ text, (Encoding.legacy encoding).Stands codecs character := by
  rw [lawful.decode_encode, Option.some.injEq]
  constructor
  · intro same character member
    exact stands_of_readBack lawful
      (flatMap_eq_self (readBack_nonempty lawful encoding) same character member)
  · intro stands
    have pieces : text.flatMap (codecs.readBack encoding) = text.flatMap fun letter => [letter] :=
      flatMap_congr fun character member => readBack_of_stands (stands character member)
    rw [pieces, flatMap_singleton']

/-- The bytes of a text stand for it exactly when those of its characters do. -/
theorem decode_encode_iff (lawful : codecs.Lawful) :
    file.decode codecs (file.encode codecs text) = some text ↔
      ∀ character ∈ text, file.encoding.Stands codecs character := by
  unfold FileEncoding.decode FileEncoding.encode
  cases file.encoding with
  | utf8 =>
    dsimp only
    rw [withoutMark_append, Option.bind_some, fromUtf8_bytes]
    exact iff_of_true rfl fun _ _ => trivial
  | utf16 little =>
    dsimp only
    rw [encodeUtf16, withoutMark_append, Option.bind_some, Utf16.unitsOf_bytes, Option.bind_some,
      Utf16.decode_encode]
    exact iff_of_true rfl fun _ _ => trivial
  | legacy encoding => exact legacy_decode_iff lawful

/-! ### Detection -/

theorem decodeUtf16_eq_ok {little : Bool} {rest : List UInt8}
    (read : decodeUtf16 little rest = .ok (text, file)) :
    file = { encoding := .utf16 little, hasBom := true } ∧
      (Utf16.encode text).flatMap (Utf16.unitBytes little) = rest := by
  rw [decodeUtf16] at read
  split at read
  · rename_i content found
    cases read
    rcases Option.bind_eq_some_iff.1 found with ⟨codes, split, decoded⟩
    rw [Utf16.encode_of_decode decoded]
    exact ⟨rfl, Utf16.bytes_unitsOf split⟩
  · cases read

theorem decodeUnmarked_eq_ok (read : decodeUnmarked codecs bytes = .ok (text, file)) :
    file = { encoding := .utf8, hasBom := false } ∧ utf8Bytes text = bytes ∨
      ∃ encoding, file = { encoding := .legacy encoding, hasBom := false } ∧
        codecs.decode encoding bytes = some text := by
  rw [decodeUnmarked] at read
  split at read
  · rename_i content found
    cases read
    exact Or.inl ⟨rfl, bytes_of_fromUtf8 found⟩
  · dsimp only at read
    split at read
    · rename_i content found
      cases read
      exact Or.inr ⟨_, rfl, found⟩
    · cases read

/-- A UTF-8 or UTF-16 file is written as it was read. -/
theorem encode_of_detect (read : detectAndDecode codecs bytes = .ok (text, file))
    (unicode : ∀ encoding, file.encoding ≠ .legacy encoding) : file.encode codecs text = bytes := by
  unfold detectAndDecode at read
  split at read
  · split at read
    · rename_i content found
      cases read
      exact congrArg (utf8Mark ++ ·) (bytes_of_fromUtf8 found)
    · cases read
  · rcases decodeUtf16_eq_ok read with ⟨rfl, written⟩
    exact congrArg (utf16Mark true ++ ·) written
  · rcases decodeUtf16_eq_ok read with ⟨rfl, written⟩
    exact congrArg (utf16Mark false ++ ·) written
  · rcases decodeUnmarked_eq_ok read with ⟨rfl, written⟩ | ⟨encoding, rfl, found⟩
    · exact written
    · exact absurd rfl (unicode encoding)

end Synapse.Files
