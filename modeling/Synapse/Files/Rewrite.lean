import Synapse.Files.Encoding

/-!
# Rewriting files

The edit and the patch tool read a file, change its text and write it in the encoding it was read in. A
character that a legacy encoding has no bytes for is written as a reference, and no error is reported: a
rewrite keeps its file's encoding exactly when each character of the changed text stands for itself.
-/

namespace Synapse.Files

variable {Legacy : Type}

inductive ToolError (Legacy : Type) where
  | read (error : ReadError Legacy)
  | edit (error : ExactEditError)
  | patch (error : PatchError)
  deriving DecidableEq

/-- What a tool does to a text. -/
inductive Operation where
  | edit (old new : Str) (all : Bool)
  | patch (text : Str)
  deriving DecidableEq

/-- The changed text and the number of replacements or hunks. -/
def Operation.change (content : Str) : Operation → Except (ToolError Legacy) (Str × ℕ)
  | .edit old new all => (applyExactEdit content old new all).mapError .edit
  | .patch text => (applyUnifiedDiff content text).mapError .patch

/-- `edit` and `patch` of a file that is there: the answer, and the bytes of the file after it. -/
def Operation.run (codecs : Codecs Legacy) (operation : Operation) (file : List UInt8) :
    Except (ToolError Legacy) ℕ × List UInt8 :=
  match detectAndDecode codecs file with
  | .error error => (.error (.read error), file)
  | .ok (content, encoding) =>
    match operation.change content with
    | .error error => (.error error, file)
    | .ok (edited, count) => (.ok count, encoding.encode codecs edited)

/-- What a rewrite of a file keeps. -/
structure Preserves (codecs : Codecs Legacy) (operation : Operation) (file : List UInt8) : Prop where
  /-- After a success the bytes are the edited text in the encoding of the file. -/
  written : ∀ content encoding edited count,
    detectAndDecode codecs file = .ok (content, encoding) →
    @Operation.change Legacy content operation = .ok (edited, count) →
    (∃ count, (operation.run codecs file).1 = .ok count) →
      encoding.decode codecs (operation.run codecs file).2 = some edited
  /-- An edited text that no bytes stand for is an error. -/
  refused : ∀ content encoding edited count,
    detectAndDecode codecs file = .ok (content, encoding) →
    @Operation.change Legacy content operation = .ok (edited, count) →
    (∀ bytes, encoding.decode codecs bytes ≠ some edited) →
      ∃ error, (operation.run codecs file).1 = .error error
  /-- After an error the file is as it was. -/
  unchanged : ∀ error, (operation.run codecs file).1 = .error error →
    (operation.run codecs file).2 = file
  /-- A UTF-8 or UTF-16 file that is not edited is written as it was read. -/
  unedited : ∀ content encoding, detectAndDecode codecs file = .ok (content, encoding) →
    (∀ legacy, encoding.encoding ≠ .legacy legacy) → encoding.encode codecs content = file

variable {codecs : Codecs Legacy} {operation : Operation} {file : List UInt8} {content edited : Str}
  {encoding : FileEncoding Legacy} {count : ℕ}

theorem run_of_change (read : detectAndDecode codecs file = .ok (content, encoding))
    (changed : @Operation.change Legacy content operation = .ok (edited, count)) :
    operation.run codecs file = (.ok count, encoding.encode codecs edited) := by
  rw [Operation.run, read]
  dsimp only
  rw [changed]

theorem run_unchanged {error : ToolError Legacy}
    (failed : (operation.run codecs file).1 = .error error) :
    (operation.run codecs file).2 = file := by
  unfold Operation.run at failed ⊢
  split
  · rfl
  · rename_i content encoding read
    rw [read] at failed
    dsimp only at failed ⊢
    split
    · rfl
    · rename_i edited count changed
      rw [changed] at failed
      cases failed

/-- A rewrite keeps its file's encoding exactly when the encoding writes each character of the changed
text as bytes that stand for it. -/
theorem preserves_iff (lawful : codecs.Lawful) (operation : Operation) (file : List UInt8) :
    Preserves codecs operation file ↔
      ∀ content encoding edited count, detectAndDecode codecs file = .ok (content, encoding) →
        @Operation.change Legacy content operation = .ok (edited, count) →
          ∀ character ∈ edited, encoding.encoding.Stands codecs character := by
  constructor
  · intro kept content encoding edited count read changed
    have run := run_of_change read changed
    have back := kept.written content encoding edited count read changed ⟨count, by rw [run]⟩
    rw [run] at back
    exact (decode_encode_iff lawful).1 back
  · intro stands
    refine ⟨?_, ?_, ?_, ?_⟩
    · intro content encoding edited count read changed _
      rw [run_of_change read changed]
      exact (decode_encode_iff lawful).2 (stands content encoding edited count read changed)
    · intro content encoding edited count read changed unreadable
      exact absurd ((decode_encode_iff lawful).2 (stands content encoding edited count read changed))
        (unreadable _)
    · intro error failed
      exact run_unchanged failed
    · intro content encoding read unicode
      exact encode_of_detect read unicode

/-! ### A Western file -/

/-- The characters of the bytes in windows-1252. -/
def windows1252 : List Char :=
  ((List.range 128) ++ [0x20AC, 0x81, 0x201A, 0x192, 0x201E, 0x2026, 0x2020, 0x2021, 0x2C6, 0x2030,
      0x160, 0x2039, 0x152, 0x8D, 0x17D, 0x8F, 0x90, 0x2018, 0x2019, 0x201C, 0x201D, 0x2022, 0x2013,
      0x2014, 0x2DC, 0x2122, 0x161, 0x203A, 0x153, 0x9D, 0x17E, 0x178] ++
    (List.range 96).map (160 + ·)).map Char.ofNat

def western : Codecs Unit where
  guess := fun _ => ()
  encodeChar := fun _ character =>
    if character ∈ windows1252 then some [.ofNat (windows1252.idxOf character)] else none
  decode := fun _ bytes => some (bytes.map fun byte => windows1252.getD byte.toNat '?')

theorem windows1252_ascii : ∀ value < 128, windows1252.getD value '?' = Char.ofNat value := by
  decide +kernel

theorem western_ascii {text : Str} (ascii : ∀ character ∈ text, character.toNat < 128) :
    (utf8Bytes text).map (fun byte => windows1252.getD byte.toNat '?') = text := by
  induction text with
  | nil => rfl
  | cons character text ih =>
    have small := ascii character List.mem_cons_self
    have byte : String.utf8EncodeChar character = [.ofNat character.toNat] := by
      have low : character.val.toNat ≤ 127 := Nat.le_of_lt_succ small
      rw [String.utf8EncodeChar, if_pos low]
      rfl
    have value : (UInt8.ofNat character.toNat).toNat = character.toNat :=
      UInt8.toNat_ofNat_of_lt' (show _ < 256 by omega)
    have parts : utf8Bytes (character :: text) =
        String.utf8EncodeChar character ++ utf8Bytes text := rfl
    rw [parts, byte, List.singleton_append, List.map_cons, value, windows1252_ascii _ small,
      Char.ofNat_toNat, ih fun other member => ascii other (List.mem_cons_of_mem _ member)]

theorem reference_ascii (character : Char) : ∀ letter ∈ reference character, letter.toNat < 128 := by
  intro letter member
  rw [reference, List.mem_cons, List.mem_cons, List.mem_append] at member
  rcases member with rfl | rfl | digit | last
  · decide
  · decide
  · have digits := Nat.isDigit_of_mem_toDigits (by decide) (by decide) digit
    rw [Char.isDigit, Bool.and_eq_true, decide_eq_true_iff, decide_eq_true_iff] at digits
    have top : letter.val ≤ 57 := digits.2
    have bound : letter.val.toNat ≤ 57 := UInt32.le_iff_toNat_le.1 top
    exact Nat.lt_of_le_of_lt bound (by decide)
  · rw [List.mem_singleton.1 last]
    decide

theorem western_lawful : western.Lawful where
  decode_encode := by
    intro encoding text
    refine congrArg some ?_
    rw [Codecs.encode]
    dsimp only
    rw [List.map_flatMap]
    refine List.flatMap_congr fun character _ => ?_
    rw [Codecs.readBack, western]
    dsimp only
    split
    · rfl
    · exact western_ascii (reference_ascii character)
  one := by
    intro encoding character bytes written
    rw [western] at written
    dsimp only at written
    rcases Option.ite_none_right_eq_some.mp written with ⟨_, ⟨⟩⟩
    exact ⟨_, rfl⟩

theorem accent_not_utf8 : fromUtf8 [0xE9] = none := by
  have invalid : ([0xE9] : List UInt8).toByteArray.utf8Decode?.isSome = false := by
    rw [ByteArray.isSome_utf8Decode?_eq_validateUTF8]
    decide
  rw [fromUtf8, Option.map_eq_none_iff, ← Option.not_isSome_iff_eq_none, invalid]
  exact Bool.false_ne_true

theorem western_accent : detectAndDecode western [0xE9] =
    .ok (['é'], { encoding := .legacy (), hasBom := false }) := by
  have unmarked : detectAndDecode western [0xE9] = decodeUnmarked western [0xE9] := rfl
  rw [unmarked, decodeUnmarked, accent_not_utf8]
  dsimp only [western]
  have letter : windows1252.getD (0xE9 : UInt8).toNat '?' = 'é' := by decide
  rw [List.map_singleton, letter]

/-- The accent of a Western file is changed to another one. -/
theorem preserves_accent : Preserves western (.edit ['é'] ['è'] false) [0xE9] := by
  refine (preserves_iff western_lawful _ _).2 ?_
  intro content encoding edited count read changed character member
  rw [western_accent] at read
  cases read
  have result : @Operation.change Unit ['é'] (.edit ['é'] ['è'] false) =
      .ok (['è'], 1) := by decide +kernel
  rw [result] at changed
  cases changed
  rw [List.mem_singleton.1 member]
  have byte : windows1252.idxOf 'è' = 0xE8 ∧ 'è' ∈ windows1252 ∧
      windows1252.getD 0xE8 '?' = 'è' := by decide +kernel
  refine ⟨[0xE8], ?_, ?_⟩
  · rw [western]
    dsimp only
    rw [if_pos byte.2.1, byte.1]
    rfl
  · exact congrArg (fun letter => some [letter]) byte.2.2

/-- An arrow in a Western file is written as a reference, and the edit reports a success. -/
theorem arrow_lost : western.Lawful ∧
    (Operation.edit ['é'] ['→'] false).run western [0xE9] =
      (.ok 1, [0x26, 0x23, 0x38, 0x35, 0x39, 0x34, 0x3B]) ∧
    ¬ Preserves western (.edit ['é'] ['→'] false) [0xE9] := by
  have result : @Operation.change Unit ['é'] (.edit ['é'] ['→'] false) =
      .ok (['→'], 1) := by decide
  have missing : '→' ∉ windows1252 := by decide
  have none_for : western.encodeChar () '→' = none := by
    rw [western]
    dsimp only
    rw [if_neg missing]
  refine ⟨western_lawful, ?_, ?_⟩
  · rw [run_of_change western_accent result]
    have bytes : utf8Bytes (reference '→') = [0x26, 0x23, 0x38, 0x35, 0x39, 0x34, 0x3B] := by
      decide
    have written : FileEncoding.encode western { encoding := .legacy (), hasBom := false } ['→'] =
        (western.encodeChar () '→').getD (utf8Bytes (reference '→')) ++ [] := rfl
    rw [written, none_for, Option.getD_none, bytes, List.append_nil]
  · intro kept
    have back := kept.written _ _ _ _ western_accent result ⟨1, by
      rw [run_of_change western_accent result]⟩
    rw [run_of_change western_accent result] at back
    have stands := (decode_encode_iff western_lawful).1 back '→' List.mem_cons_self
    rcases stands with ⟨bytes, written, read⟩
    rw [none_for] at written
    cases written

end Synapse.Files
