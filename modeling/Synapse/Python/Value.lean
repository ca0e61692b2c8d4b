import Synapse.Python.Text

/-!
# Python values and their JSON text

The values that the program projects, serialises and sends are trees. A leaf stands for every
object that the projections treat alike; what `json.dumps` cannot write is an error of its own
kind, since the callers catch some kinds and not others.
-/

namespace Synapse

open List

/-- The exceptions of `json.dumps(...).encode("utf-8")`. -/
inductive JsonError where
  | type
  | value
  /-- `UnicodeEncodeError`, which is a `ValueError` too. -/
  | unicode
  | recursion
  /-- Whatever an accessor of the object raises. -/
  | accessor
  deriving DecidableEq, Repr

/-- A key of a mapping. -/
inductive Key where
  | str (value : Text)
  /-- `None`, a boolean or a number, which `json.dumps` writes as a string. -/
  | scalar (literal : Text)
  | other
  deriving DecidableEq, Repr

mutual

/-- `plain` tells an instance of the built-in class from one of a subclass. -/
inductive Value where
  /-- `None`. -/
  | null
  | bool (value : Bool)
  | int (plain : Bool) (value : ℤ)
  | float (finite : Bool) (literal : Text)
  | str (plain : Bool) (value : Text)
  /-- A member of an enumeration that is neither a string nor a number. -/
  | enumeration (value : Value)
  /-- A dataclass instance. -/
  | record (fields : Entries)
  /-- A dictionary, or another `Mapping` where it is not plain. -/
  | mapping (plain : Bool) (entries : Entries)
  /-- A list or a tuple. -/
  | sequence (items : Values)
  | set (items : Values)
  /-- Bytes, by their base64 text. -/
  | bytes (encoded : Text)
  /-- A decimal, an identifier, a date or a path, by its text. -/
  | rendered (value : Text)
  /-- A reference to a container that holds it. -/
  | cycle
  /-- An object whose accessors raise. -/
  | raising
  | unknown
  deriving DecidableEq, Repr

inductive Values where
  | nil
  | cons (head : Value) (tail : Values)
  deriving DecidableEq, Repr

inductive Entries where
  | nil
  | cons (key : Key) (value : Value) (rest : Entries)
  deriving DecidableEq, Repr

end

namespace Values

def toList : Values → List Value
  | .nil => []
  | .cons head tail => head :: tail.toList

def ofList : List Value → Values
  | [] => .nil
  | head :: tail => .cons head (ofList tail)

def length (items : Values) : ℕ :=
  items.toList.length

end Values

namespace Entries

def toList : Entries → List (Key × Value)
  | .nil => []
  | .cons key value rest => (key, value) :: rest.toList

def ofList : List (Key × Value) → Entries
  | [] => .nil
  | (key, value) :: rest => .cons key value (ofList rest)

def length (entries : Entries) : ℕ :=
  entries.toList.length

def keys (entries : Entries) : List Key :=
  entries.toList.map Prod.fst

/-- `mapping.get(name)`. -/
def get? (entries : Entries) (name : Text) : Option Value :=
  entries.toList.lookup (.str name)

end Entries

namespace Text

/-- The order of `str`, by code points. -/
def before (first second : Text) : Prop :=
  first ≤ second

instance (first second : Text) : Decidable (first.before second) :=
  inferInstanceAs (Decidable (first ≤ second))

def hexDigit (digit : ℕ) : CodePoint :=
  Fin.ofNat 0x110000 (if digit < 10 then 0x30 + digit else 0x57 + digit)

/-- One character of a JSON string, written with `ensure_ascii=False`. -/
def escape (point : CodePoint) : Text :=
  if point.val = 0x22 then Text.ofString "\\\""
  else if point.val = 0x5C then Text.ofString "\\\\"
  else if point.val = 0x0A then Text.ofString "\\n"
  else if point.val = 0x0D then Text.ofString "\\r"
  else if point.val = 0x09 then Text.ofString "\\t"
  else if point.val = 0x0C then Text.ofString "\\f"
  else if point.val = 0x08 then Text.ofString "\\b"
  else if point.val < 0x20 then
    Text.ofString "\\u00" ++ [hexDigit (point.val / 16), hexDigit (point.val % 16)]
  else [point]

def quote (value : Text) : Text :=
  Text.ofString "\"" ++ value.flatMap escape ++ Text.ofString "\""

/-- The parts, with commas between them. -/
def joinComma : List Text → Text
  | [] => []
  | [part] => part
  | part :: parts => part ++ Text.ofString "," ++ joinComma parts

end Text

/-- The digits that `int.__repr__` writes; beyond that it raises a `ValueError`. -/
def maxStrDigits : ℕ := 4300

def Text.digit (value : ℕ) : CodePoint :=
  Fin.ofNat 0x110000 (0x30 + value)

/-- The decimal digits of a number that has at most `limit` of them. -/
def Text.decimal : ℕ → ℕ → Text
  | 0, _ => []
  | limit + 1, value =>
    if value < 10 then [digit value] else decimal limit (value / 10) ++ [digit (value % 10)]

def intLiteral (value : ℤ) : Except JsonError Text :=
  if 10 ^ maxStrDigits ≤ value.natAbs then .error .value
  else .ok ((if value < 0 then Text.ofString "-" else []) ++ Text.decimal maxStrDigits value.natAbs)

/-- A key as the text of a string. -/
def Key.dump : Key → Except JsonError Text
  | .str value => .ok value
  | .scalar literal => .ok literal
  | .other => .error .type

/-- The members of an object, in the order of their keys where `sort_keys` is set. -/
def dumpMembers (sorted : Bool) (members : List (Text × Text)) : Text :=
  let ordered :=
    if sorted then members.insertionSort fun first second => first.1.before second.1 else members
  Text.ofString "\x7b" ++
    Text.joinComma (ordered.map fun member => member.1.quote ++ Text.ofString ":" ++ member.2) ++
    Text.ofString "\x7d"

mutual

/-- `json.dumps(value, allow_nan=False, separators=(",", ":"), ensure_ascii=False)`, with
`sort_keys` as given. -/
def Value.dumps (sorted : Bool) : Value → Except JsonError Text
  | .null => .ok (Text.ofString "null")
  | .bool value => .ok (Text.ofString (if value then "true" else "false"))
  | .int _ value => intLiteral value
  | .float finite literal => if finite then .ok literal else .error .value
  | .str _ value => .ok value.quote
  | .mapping true entries => do
      let members ← entries.dumps sorted
      return dumpMembers sorted members
  | .sequence items => do
      let parts ← items.dumps sorted
      return Text.ofString "[" ++ Text.joinComma parts ++ Text.ofString "]"
  | .cycle => .error .value
  | .raising => .error .accessor
  | .mapping false _ | .enumeration _ | .record _ | .set _ | .bytes _ | .rendered _ | .unknown =>
    .error .type

def Values.dumps (sorted : Bool) : Values → Except JsonError (List Text)
  | .nil => .ok []
  | .cons head tail => do
      let first ← head.dumps sorted
      let others ← tail.dumps sorted
      return first :: others

def Entries.dumps (sorted : Bool) : Entries → Except JsonError (List (Text × Text))
  | .nil => .ok []
  | .cons key value rest => do
      let name ← key.dump
      let text ← value.dumps sorted
      let others ← rest.dumps sorted
      return (name, text) :: others

end

/-- `len(json.dumps(value, ...).encode("utf-8"))`. -/
def Value.dumpSize (sorted : Bool) (value : Value) : Except JsonError ℕ := do
  let text ← value.dumps sorted
  match text.utf8Size? with
  | some size => return size
  | none => throw .unicode

/-! ### Sizes -/

namespace Text

theorem utf8Size?_cons (point : CodePoint) (rest : Text) :
    utf8Size? (point :: rest) =
      point.utf8Size?.bind fun size => (utf8Size? rest).map fun others => size + others := by
  unfold utf8Size?
  rw [foldr_cons]
  cases point.utf8Size? with
  | none => rfl
  | some size =>
    cases List.foldr _ (some 0) rest with
    | none => rfl
    | some others => rfl

/-- The text can be encoded, in at most `limit` bytes. -/
def Within (limit : ℕ) (value : Text) : Prop :=
  ∃ size, value.utf8Size? = some size ∧ size ≤ limit

instance (limit : ℕ) (value : Text) : Decidable (Within limit value) :=
  match measured : value.utf8Size? with
  | some size => decidable_of_iff (size ≤ limit) (by simp [Within, measured])
  | none => isFalse (by simp [Within, measured])

theorem Within.mono {small large : ℕ} {value : Text} (within : Within small value)
    (fits : small ≤ large) : Within large value := by
  rcases within with ⟨size, measured, bounded⟩
  exact ⟨size, measured, bounded.trans fits⟩

theorem within_nil : Within 0 [] :=
  ⟨0, rfl, le_refl 0⟩

theorem within_cons {limit bound : ℕ} {point : CodePoint} {rest : Text}
    (encodes : ∃ size, point.utf8Size? = some size ∧ size ≤ bound) (within : Within limit rest) :
    Within (bound + limit) (point :: rest) := by
  rcases encodes with ⟨size, first, small⟩
  rcases within with ⟨others, measured, bounded⟩
  refine ⟨size + others, ?_, Nat.add_le_add small bounded⟩
  rw [utf8Size?_cons, first, Option.bind_some, measured, Option.map_some]

theorem within_append {left right : ℕ} {front back : Text} (first : Within left front)
    (second : Within right back) : Within (left + right) (front ++ back) := by
  rcases first with ⟨size, measured, bounded⟩
  induction front generalizing size left with
  | nil =>
    refine second.mono ?_
    exact Nat.le_add_left right left
  | cons point rest ih =>
    rw [utf8Size?_cons] at measured
    rcases Option.bind_eq_some_iff.mp measured with ⟨one, head, tail⟩
    rcases Option.map_eq_some_iff.mp tail with ⟨others, encoded, rfl⟩
    have joined := ih others encoded (le_refl others)
    exact (within_cons ⟨one, head, le_refl one⟩ joined).mono (by omega)

theorem hexDigit_encodes {digit : ℕ} (small : digit < 16) :
    (hexDigit digit).utf8Size? = some 1 := by
  interval_cases digit <;> decide

/-- An escaped character takes at most six bytes for one. -/
theorem within_escape {point : CodePoint} {size : ℕ} (encodes : point.utf8Size? = some size) :
    Within (6 * size) (escape point) := by
  have positive : 1 ≤ size := by
    unfold CodePoint.utf8Size? at encodes
    simp only at encodes
    split at encodes
    · exact (Option.some.inj encodes).le
    · split at encodes
      · have two := Option.some.inj encodes
        omega
      · rcases Option.ite_none_left_eq_some.mp encodes with ⟨_, encodes⟩
        split at encodes <;>
        · have more := Option.some.inj encodes
          omega
  have short : ∀ {text : Text}, Within 6 text → Within (6 * size) text :=
    fun within => within.mono (by omega)
  unfold escape
  split
  · exact short (by decide)
  · split
    · exact short (by decide)
    · split
      · exact short (by decide)
      · split
        · exact short (by decide)
        · split
          · exact short (by decide)
          · split
            · exact short (by decide)
            · split
              · exact short (by decide)
              · split
                · rename_i control
                  apply short
                  apply @within_append 4 2 _ _ (by decide)
                  apply @within_cons 1 1 _ _ ⟨1, hexDigit_encodes (by omega), le_refl 1⟩
                  exact @within_cons 0 1 _ _ ⟨1, hexDigit_encodes (by omega), le_refl 1⟩ within_nil
                · refine (within_cons ⟨size, encodes, le_refl size⟩ within_nil).mono ?_
                  omega

theorem within_quote {limit : ℕ} {value : Text} (within : Within limit value) :
    Within (6 * limit + 2) value.quote := by
  have escaped : Within (6 * limit) (value.flatMap escape) := by
    rcases within with ⟨size, measured, bounded⟩
    refine Within.mono ?_ (Nat.mul_le_mul_left 6 bounded)
    clear bounded
    induction value generalizing size with
    | nil => exact within_nil.mono (Nat.zero_le _)
    | cons point rest ih =>
      rw [utf8Size?_cons] at measured
      rcases Option.bind_eq_some_iff.mp measured with ⟨one, head, tail⟩
      rcases Option.map_eq_some_iff.mp tail with ⟨others, encoded, rfl⟩
      rw [flatMap_cons]
      exact (within_append (within_escape head) (ih others encoded)).mono (by omega)
  have mark : Within 1 (ofString "\"") := by decide
  exact (within_append (within_append mark escaped) mark).mono (by omega)

theorem within_decimal (limit value : ℕ) : Within limit (decimal limit value) := by
  have encodes : ∀ digits < 10, (digit digits).utf8Size? = some 1 := by decide
  induction limit generalizing value with
  | zero => exact within_nil
  | succ limit ih =>
    unfold decimal
    split
    · rename_i single
      exact (within_cons ⟨1, encodes value single, le_refl 1⟩ within_nil).mono (by omega)
    · apply within_append (ih (value / 10))
      exact within_cons ⟨1, encodes _ (Nat.mod_lt _ (by omega)), le_refl 1⟩ within_nil

end Text

/-! ### What can be written -/

def Text.encodes (value : Text) : Bool :=
  value.utf8Size?.isSome

def Text.size (value : Text) : ℕ :=
  value.utf8Size?.getD 0

theorem Text.within_size {value : Text} (encodes : value.encodes = true) :
    value.Within value.size := by
  rcases Option.isSome_iff_exists.mp encodes with ⟨size, measured⟩
  exact ⟨size, measured, by simp [Text.size, measured]⟩

theorem Text.Within.encodes {limit : ℕ} {value : Text} (within : value.Within limit) :
    value.encodes = true ∧ value.size ≤ limit := by
  rcases within with ⟨size, measured, bounded⟩
  simp [Text.encodes, Text.size, measured, bounded]

/-- The parts of a list or an object, each with the comma behind it. -/
def Text.total (parts : List Text) : ℕ :=
  (parts.map fun part => part.size + 1).sum

theorem Text.within_joinComma {parts : List Text} (encode : ∀ part ∈ parts, part.encodes = true) :
    (joinComma parts).Within (total parts) := by
  induction parts with
  | nil => exact within_nil
  | cons part parts ih =>
    have first := within_size (encode part mem_cons_self)
    have rest := ih fun other present => encode other (mem_cons_of_mem _ present)
    cases parts with
    | nil => exact first.mono (by simp [total])
    | cons next parts =>
      have comma : Within 1 (ofString ",") := by decide
      refine (within_append (within_append first comma) rest).mono ?_
      simp only [total, map_cons, sum_cons]
      omega

mutual

/-- `json.dumps(value).encode("utf-8")` raises nothing. -/
def Value.writable : Value → Bool
  | .null | .bool _ => true
  | .int _ value => decide (value.natAbs < 10 ^ maxStrDigits)
  | .float finite literal => finite && literal.encodes
  | .str _ value => value.encodes
  | .mapping true entries => entries.writable
  | .sequence items => items.writable
  | _ => false

def Values.writable : Values → Bool
  | .nil => true
  | .cons head tail => head.writable && tail.writable

def Entries.writable : Entries → Bool
  | .nil => true
  | .cons (.str key) value rest => key.encodes && value.writable && rest.writable
  | .cons (.scalar literal) value rest => literal.encodes && value.writable && rest.writable
  | .cons .other _ _ => false

end

mutual

/-- A bound on the bytes of the JSON text. -/
def Value.weight : Value → ℕ
  | .int _ _ => maxStrDigits + 1
  | .float _ literal => literal.size
  | .str _ value => 6 * value.size + 2
  | .mapping _ entries => entries.weight + 2
  | .sequence items => items.weight + 2
  | _ => 5

def Values.weight : Values → ℕ
  | .nil => 0
  | .cons head tail => head.weight + 1 + tail.weight

def Entries.weight : Entries → ℕ
  | .nil => 0
  | .cons key value rest =>
    (match key with
      | .str name => 6 * name.size + 3
      | .scalar literal => 6 * literal.size + 3
      | .other => 0) + value.weight + 1 + rest.weight

end

theorem intLiteral_ok {value : ℤ} (small : value.natAbs < 10 ^ maxStrDigits) :
    ∃ text, intLiteral value = .ok text ∧ Text.Within (maxStrDigits + 1) text := by
  refine ⟨_, if_neg (Nat.not_le.mpr small), ?_⟩
  rw [Nat.add_comm]
  apply Text.within_append _ (Text.within_decimal maxStrDigits value.natAbs)
  split <;> decide

/-- The text of one member of an object. -/
def memberText (member : Text × Text) : Text :=
  member.1.quote ++ Text.ofString ":" ++ member.2

theorem within_dumpMembers {sorted : Bool} {members : List (Text × Text)}
    (encode : ∀ member ∈ members, (memberText member).encodes = true) :
    (dumpMembers sorted members).Within (Text.total (members.map memberText) + 2) := by
  have opening : Text.Within 1 (Text.ofString "\x7b") := by decide
  have closing : Text.Within 1 (Text.ofString "\x7d") := by decide
  unfold dumpMembers
  have ordered : ∀ order : List (Text × Text), order.Perm members →
      (Text.joinComma (order.map memberText)).Within (Text.total (members.map memberText)) := by
    intro order same
    refine (Text.within_joinComma ?_).mono ?_
    · intro part present
      rcases mem_map.mp present with ⟨member, inside, rfl⟩
      exact encode member (same.mem_iff.mp inside)
    · exact (((same.map memberText).map _).sum_eq).le
  have joined := ordered
    (if sorted then members.insertionSort fun first second => first.1.before second.1 else members)
    (by split; exacts [perm_insertionSort _ _, List.Perm.refl _])
  exact (Text.within_append (Text.within_append opening joined) closing).mono (by omega)

mutual

/-- A writable value has a JSON text, and it can be encoded. -/
theorem Value.dumps_of_writable (sorted : Bool) (value : Value) (writable : value.writable = true) :
    ∃ text, value.dumps sorted = .ok text ∧ text.Within value.weight := by
  cases value with
  | null => exact ⟨_, rfl, by decide⟩
  | bool value => exact ⟨_, rfl, by cases value <;> decide⟩
  | int plain value =>
    simp only [Value.writable, decide_eq_true_eq] at writable
    exact intLiteral_ok writable
  | float finite literal =>
    simp only [Value.writable, Bool.and_eq_true] at writable
    exact ⟨literal, if_pos writable.1, Text.within_size writable.2⟩
  | str plain value => exact ⟨_, rfl, Text.within_quote (Text.within_size writable)⟩
  | mapping plain entries =>
    cases plain with
    | false => cases writable
    | true =>
      rcases Entries.dumps_of_writable sorted entries writable with
        ⟨members, dumped, encode, bounded⟩
      refine ⟨dumpMembers sorted members, ?_, ?_⟩
      · simp only [Value.dumps, dumped]
        rfl
      · exact (within_dumpMembers encode).mono (Nat.add_le_add_right bounded 2)
  | sequence items =>
    rcases Values.dumps_of_writable sorted items writable with ⟨parts, dumped, encode, bounded⟩
    have opening : Text.Within 1 (Text.ofString "[") := by decide
    have closing : Text.Within 1 (Text.ofString "]") := by decide
    refine ⟨Text.ofString "[" ++ Text.joinComma parts ++ Text.ofString "]", ?_, ?_⟩
    · simp only [Value.dumps, dumped]
      rfl
    · refine (Text.within_append (Text.within_append opening
        ((Text.within_joinComma encode).mono bounded)) closing).mono ?_
      simp only [Value.weight]
      omega
  | enumeration _ | record _ | set _ | bytes _ | rendered _ | cycle | raising | unknown =>
    cases writable

theorem Values.dumps_of_writable (sorted : Bool) (items : Values)
    (writable : items.writable = true) :
    ∃ parts, items.dumps sorted = .ok parts ∧ (∀ part ∈ parts, Text.encodes part = true) ∧
      Text.total parts ≤ items.weight := by
  cases items with
  | nil => exact ⟨[], rfl, by simp, le_refl 0⟩
  | cons head tail =>
    simp only [Values.writable, Bool.and_eq_true] at writable
    rcases Value.dumps_of_writable sorted head writable.1 with ⟨text, first, within⟩
    rcases Values.dumps_of_writable sorted tail writable.2 with ⟨parts, rest, encode, bounded⟩
    refine ⟨text :: parts, ?_, ?_, ?_⟩
    · simp only [Values.dumps, first, rest]
      rfl
    · intro part present
      rcases mem_cons.mp present with rfl | inside
      · exact within.encodes.1
      · exact encode part inside
    · have head := within.encodes.2
      simp only [Text.total, map_cons, sum_cons, Values.weight] at bounded ⊢
      omega

theorem Entries.dumps_of_writable (sorted : Bool) (entries : Entries)
    (writable : entries.writable = true) :
    ∃ members, entries.dumps sorted = .ok members ∧
      (∀ member ∈ members, (memberText member).encodes = true) ∧
      Text.total (members.map memberText) ≤ entries.weight := by
  cases entries with
  | nil => exact ⟨[], rfl, by simp, le_refl 0⟩
  | cons key value rest =>
    have member : ∃ name : Text, key.dump = .ok name ∧ name.encodes = true ∧
        value.writable = true ∧ rest.writable = true ∧
        (Entries.cons key value rest).weight = 6 * name.size + 3 + value.weight + 1 + rest.weight := by
      cases key with
      | str name =>
        simp only [Entries.writable, Bool.and_eq_true] at writable
        exact ⟨name, rfl, writable.1.1, writable.1.2, writable.2, rfl⟩
      | scalar literal =>
        simp only [Entries.writable, Bool.and_eq_true] at writable
        exact ⟨literal, rfl, writable.1.1, writable.1.2, writable.2, rfl⟩
      | other => cases writable
    rcases member with ⟨name, named, encodes, first, others, weight⟩
    rcases Value.dumps_of_writable sorted value first with ⟨text, dumped, within⟩
    rcases Entries.dumps_of_writable sorted rest others with ⟨members, remaining, encode, bounded⟩
    have colon : Text.Within 1 (Text.ofString ":") := by decide
    have whole : (memberText (name, text)).Within (6 * name.size + 3 + value.weight) :=
      (Text.within_append (Text.within_append
        (Text.within_quote (Text.within_size encodes)) colon) within).mono (by omega)
    refine ⟨(name, text) :: members, ?_, ?_, ?_⟩
    · simp only [Entries.dumps, named, dumped, remaining]
      rfl
    · intro member present
      rcases mem_cons.mp present with rfl | inside
      · exact whole.encodes.1
      · exact encode member inside
    · have size := whole.encodes.2
      simp only [Text.total, map_cons, sum_cons, weight] at bounded ⊢
      omega

end

/-- Projected items in the order of their JSON text. -/
def sortByDump (items : List Value) : Except JsonError (List Value) := do
  let keyed ← items.mapM fun item => return (← item.dumps true, item)
  return (keyed.insertionSort fun first second => first.1.before second.1).map Prod.snd

theorem Values.ofList_writable (items : List Value) :
    (Values.ofList items).writable = true ↔ ∀ item ∈ items, item.writable = true := by
  induction items with
  | nil => simp [Values.ofList, Values.writable]
  | cons item items ih => simp [Values.ofList, Values.writable, ih]

theorem keyed_mem {items : List Value} {pairs : List (Text × Value)}
    (keyed : (items.mapM fun item => do return (← item.dumps true, item)) = .ok pairs)
    {pair : Text × Value} (inside : pair ∈ pairs) : pair.2 ∈ items := by
  induction items generalizing pairs with
  | nil =>
    cases keyed
    cases inside
  | cons item items ih =>
    rw [mapM_cons] at keyed
    cases dumped : item.dumps true with
    | error error =>
      rw [dumped] at keyed
      cases keyed
    | ok text =>
      cases rest : items.mapM fun item => do return (← item.dumps true, item) with
      | error error =>
        rw [dumped, rest] at keyed
        cases keyed
      | ok others =>
        rw [dumped, rest] at keyed
        cases keyed
        rcases mem_cons.mp inside with rfl | later
        · exact mem_cons_self
        · exact mem_cons_of_mem _ (ih rest later)

theorem sortByDump_mem {items ordered : List Value} (sorted : sortByDump items = .ok ordered)
    {item : Value} (inside : item ∈ ordered) : item ∈ items := by
  unfold sortByDump at sorted
  cases keyed : items.mapM fun item => do return (← item.dumps true, item) with
  | error error =>
    rw [keyed] at sorted
    cases sorted
  | ok pairs =>
    rw [keyed] at sorted
    cases sorted
    rcases mem_map.mp inside with ⟨pair, present, rfl⟩
    exact keyed_mem keyed ((mem_insertionSort _).mp present)

end Synapse
