import Synapse.Python.Value

/-!
# Frames of a run

Model of `encode_json` and of the frames that the host and the worker of a PTC run exchange.
A frame that cannot be written raises, and both writers catch a part of what it can raise.
-/

namespace Synapse

open List

mutual

/-- What the encoder can see of a value. It enters at most `nesting` containers that are inside
one another, and raises `RecursionError` at the next; its callers let that pass as they do an
exception of an accessor. -/
def Value.cut : Value → ℕ → Value
  | .mapping true entries, nesting =>
    if nesting = 0 then .raising else .mapping true (entries.cut (nesting - 1))
  | .sequence items, nesting =>
    if nesting = 0 then .raising else .sequence (items.cut (nesting - 1))
  | value, _ => value

def Values.cut : Values → ℕ → Values
  | .nil, _ => .nil
  | .cons head tail, nesting => .cons (head.cut nesting) (tail.cut nesting)

def Entries.cut : Entries → ℕ → Entries
  | .nil, _ => .nil
  | .cons key value rest, nesting => .cons key (value.cut nesting) (rest.cut nesting)

end

namespace Ptc

/-- `len(encode_json(value))`. -/
def encodeJson (nesting : ℕ) (value : Value) : Except JsonError ℕ :=
  (value.cut nesting).dumpSize false

/-- `except (TypeError, ValueError)`. -/
def caught : JsonError → Bool
  | .type | .value | .unicode => true
  | .recursion | .accessor => false

/-- `len(encode_frame(frame))`. -/
def encodeFrame (nesting : ℕ) (frame : Value) : Except JsonError ℕ :=
  (encodeJson nesting frame).map fun size => size + 1

def maxErrorChars : ℕ := 4000

/-- `_short`. -/
def short (message : Text) : Text :=
  if message.length ≤ maxErrorChars then message
  else message.take maxErrorChars ++ Text.ofString "...[truncated]"

def literal (value : String) : Value :=
  .str true (Text.ofString value)

def object (members : List (String × Value)) : Value :=
  .mapping true (.ofList (members.map fun member => (.str (Text.ofString member.1), member.2)))

/-- The id of a call, by the number that the counter has given to it. -/
def callId (number : ℕ) : Value :=
  .str true (Text.ofString "c" ++ Text.decimal (number + 1) number)

def toolCallFrame (number : ℕ) (name : Text) (arguments : Entries) : Value :=
  object [("type", literal "tool_call"), ("id", callId number), ("name", .str true name),
    ("arguments", .mapping true arguments)]

/-- What a `tool_result` frame says. -/
inductive Response where
  | value (value : Value)
  | error (kind name message : Text)
  deriving DecidableEq, Repr

def toolResultFrame (number : ℕ) : Response → Value
  | .value value =>
    object [("type", literal "tool_result"), ("id", callId number), ("ok", .bool true),
      ("value", value)]
  | .error kind name message =>
    object [("type", literal "tool_result"), ("id", callId number), ("ok", .bool false),
      ("error", object [("kind", .str true kind), ("name", .str true name),
        ("message", .str true message)])]

/-- The error of a `result` frame. -/
structure ScriptError where
  kind : String
  message : Text
  deriving DecidableEq, Repr

def resultFrame (value : Value) (error : Option ScriptError) : Value :=
  object [("type", literal "result"), ("value", value),
    ("error", match error with
      | none => .null
      | some error => object [("kind", literal error.kind), ("message", .str true error.message)])]

/-! ### Less room -/

end Ptc

variable {sorted : Bool}

mutual

/-- With less room for nesting, a value that has a text has the same one, or it is nested too
deep. -/
theorem Value.dumps_cut {large small : ℕ} (fits : small ≤ large) (value : Value) {text : Text}
    (dumped : (value.cut large).dumps sorted = .ok text) :
    (value.cut small).dumps sorted = .ok text ∨
      (value.cut small).dumps sorted = .error .accessor := by
  cases value with
  | mapping plain entries =>
    cases plain with
    | false => exact .inl dumped
    | true =>
      rw [Value.cut] at dumped ⊢
      split at dumped
      · cases dumped
      · split
        · exact .inr rfl
        · rw [Value.dumps] at dumped ⊢
          cases whole : (entries.cut (large - 1)).dumps sorted with
          | error error =>
            rw [whole] at dumped
            cases dumped
          | ok members =>
            rcases Entries.dumps_cut (Nat.sub_le_sub_right fits 1) entries whole with
              same | deep
            · rw [same, ← whole]
              exact .inl dumped
            · rw [deep]
              exact .inr rfl
  | sequence items =>
    rw [Value.cut] at dumped ⊢
    split at dumped
    · cases dumped
    · split
      · exact .inr rfl
      · rw [Value.dumps] at dumped ⊢
        cases whole : (items.cut (large - 1)).dumps sorted with
        | error error =>
          rw [whole] at dumped
          cases dumped
        | ok parts =>
          rcases Values.dumps_cut (Nat.sub_le_sub_right fits 1) items whole with same | deep
          · rw [same, ← whole]
            exact .inl dumped
          · rw [deep]
            exact .inr rfl
  | null | bool _ | int _ _ | float _ _ | str _ _ | enumeration _ | record _ | set _ | bytes _
  | rendered _ | cycle | raising | unknown =>
    exact .inl dumped

theorem Values.dumps_cut {large small : ℕ} (fits : small ≤ large) (items : Values)
    {parts : List Text} (dumped : (items.cut large).dumps sorted = .ok parts) :
    (items.cut small).dumps sorted = .ok parts ∨
      (items.cut small).dumps sorted = .error .accessor := by
  cases items with
  | nil => exact .inl dumped
  | cons head tail =>
    rw [Values.cut, Values.dumps] at dumped ⊢
    cases first : (head.cut large).dumps sorted with
    | error error =>
      rw [first] at dumped
      cases dumped
    | ok text =>
      cases others : (tail.cut large).dumps sorted with
      | error error =>
        rw [first, others] at dumped
        cases dumped
      | ok texts =>
        rw [first, others] at dumped
        rcases Value.dumps_cut fits head first with same | deep
        · rcases Values.dumps_cut fits tail others with rest | deep
          · rw [same, rest]
            exact .inl dumped
          · rw [same, deep]
            exact .inr rfl
        · rw [deep]
          exact .inr rfl

theorem Entries.dumps_cut {large small : ℕ} (fits : small ≤ large) (entries : Entries)
    {members : List (Text × Text)} (dumped : (entries.cut large).dumps sorted = .ok members) :
    (entries.cut small).dumps sorted = .ok members ∨
      (entries.cut small).dumps sorted = .error .accessor := by
  cases entries with
  | nil => exact .inl dumped
  | cons key value rest =>
    rw [Entries.cut, Entries.dumps] at dumped ⊢
    cases named : key.dump with
    | error error =>
      rw [named] at dumped
      cases dumped
    | ok name =>
      cases first : (value.cut large).dumps sorted with
      | error error =>
        rw [named, first] at dumped
        cases dumped
      | ok text =>
        cases others : (rest.cut large).dumps sorted with
        | error error =>
          rw [named, first, others] at dumped
          cases dumped
        | ok texts =>
          rw [named, first, others] at dumped
          rcases Value.dumps_cut fits value first with same | deep
          · rcases Entries.dumps_cut fits rest others with remaining | deep
            · rw [same, remaining]
              exact .inl dumped
            · rw [same, deep]
              exact .inr rfl
          · rw [deep]
            exact .inr rfl

end

namespace Ptc

/-! ### What can be encoded -/

def encodable (nesting : ℕ) (value : Value) : Bool :=
  (encodeJson nesting value).toBool

variable {nesting : ℕ}
variable {value : Value}

theorem encodable_iff :
    encodable nesting value = true ↔
      ∃ text : Text, (value.cut nesting).dumps false = .ok text ∧ text.encodes = true := by
  unfold encodable encodeJson Value.dumpSize Text.encodes
  cases (value.cut nesting).dumps false with
  | error error => simp [Except.toBool, bind, Except.bind]
  | ok text =>
    cases measured : text.utf8Size? with
    | none => simp [Except.toBool, bind, Except.bind, measured, throw, throwThe, MonadExceptOf.throw]
    | some size => simp [Except.toBool, bind, Except.bind, measured, pure, Except.pure]

theorem encodable_str {plain : Bool} {text : Text} (encodes : text.encodes = true) :
    encodable nesting (.str plain text) = true :=
  encodable_iff.mpr ⟨text.quote, rfl, (Text.within_quote (Text.within_size encodes)).encodes.1⟩

theorem encodable_bool (value : Bool) : encodable nesting (.bool value) = true := by
  apply encodable_iff.mpr
  refine ⟨_, rfl, ?_⟩
  cases value <;> decide

theorem encodable_null : encodable nesting .null = true :=
  encodable_iff.mpr ⟨Text.ofString "null", rfl, by decide⟩

theorem encodable_callId (number : ℕ) : encodable nesting (callId number) = true := by
  apply encodable_str
  have mark : (Text.ofString "c").Within 1 := by decide
  exact (Text.within_append mark (Text.within_decimal (number + 1) number)).encodes.1

theorem cut_ofList (entries : List (Key × Value)) :
    (Entries.ofList entries).cut nesting =
      .ofList (entries.map fun entry => (entry.1, entry.2.cut nesting)) := by
  induction entries with
  | nil => rfl
  | cons entry rest ih =>
    rw [map_cons, Entries.ofList, Entries.cut, ih]
    rfl

/-- An object can be encoded when its members can, one level further in. -/
theorem encodable_object {members : List (String × Value)} {names : List String}
    (named : members.map Prod.fst = names)
    (readable : ∀ name ∈ names, (Text.ofString name).encodes = true)
    (encodes : ∀ member ∈ members, encodable nesting member.2 = true) :
    encodable (nesting + 1) (object members) = true := by
  have dumped : ∃ texts, (Entries.ofList (members.map fun member =>
      (Key.str (Text.ofString member.1), member.2.cut nesting))).dumps false = .ok texts ∧
      ∀ text ∈ texts, (memberText text).encodes = true := by
    subst named
    induction members with
    | nil => exact ⟨[], rfl, by simp⟩
    | cons member rest ih =>
      rcases ih (fun other inside => encodes other (mem_cons_of_mem _ inside))
        (fun name inside => readable name (mem_cons_of_mem _ inside)) with
        ⟨texts, others, encode⟩
      have name := readable member.1 mem_cons_self
      rcases encodable_iff.mp (encodes member mem_cons_self) with ⟨text, whole, written⟩
      refine ⟨(Text.ofString member.1, text) :: texts, ?_, ?_⟩
      · rw [map_cons, Entries.ofList, Entries.dumps, whole, others]
        rfl
      · intro other inside
        rcases mem_cons.mp inside with rfl | later
        · have colon : Text.Within 1 (Text.ofString ":") := by decide
          exact (Text.within_append (Text.within_append
            (Text.within_quote (Text.within_size name)) colon)
            (Text.within_size written)).encodes.1
        · exact encode other later
  rcases dumped with ⟨texts, dumped, encode⟩
  apply encodable_iff.mpr
  refine ⟨dumpMembers false texts, ?_, (within_dumpMembers encode).encodes.1⟩
  unfold object
  rw [Value.cut, if_neg (Nat.succ_ne_zero nesting), Nat.add_sub_cancel, cut_ofList, map_map,
    Value.dumps]
  simp only [Function.comp_def, dumped]
  rfl

theorem encodeFrame_of_encodable {frame : Value} (encodes : encodable nesting frame = true) :
    ∃ size, encodeFrame nesting frame = .ok size := by
  unfold encodable at encodes
  unfold encodeFrame
  cases whole : encodeJson nesting frame with
  | ok size => exact ⟨size + 1, rfl⟩
  | error error =>
    rw [whole] at encodes
    cases encodes

theorem encodable_of_ok {size : ℕ} (encoded : encodeJson nesting value = .ok size) :
    encodable nesting value = true := by
  rw [encodable, encoded]
  rfl

/-- An exception that the writers do not catch comes out of `json.dumps`. -/
theorem dumps_of_uncaught {error : JsonError}
    (raised : encodeJson nesting value = .error error) (passes : caught error = false) :
    (value.cut nesting).dumps false = .error error := by
  unfold encodeJson Value.dumpSize at raised
  cases dumped : (value.cut nesting).dumps false with
  | error other =>
    rw [dumped] at raised
    simp only [bind, Except.bind, Except.error.injEq] at raised
    rw [raised]
  | ok text =>
    rw [dumped] at raised
    cases measured : text.utf8Size? with
    | some size =>
      simp [bind, Except.bind, measured, pure, Except.pure] at raised
    | none =>
      simp only [bind, Except.bind, measured, throw, throwThe, MonadExceptOf.throw,
        Except.error.injEq] at raised
      rw [← raised] at passes
      cases passes

/-- The first member that cannot be written decides how an object fails. -/
theorem encodeFrame_raises {front rest : List (String × Value)} {name : String} {value : Value}
    {error : JsonError}
    (written : ∀ member ∈ front, ∃ text, (member.2.cut nesting).dumps false = .ok text)
    (raises : (value.cut nesting).dumps false = .error error) :
    encodeFrame (nesting + 1) (object (front ++ (name, value) :: rest)) = .error error := by
  have fails : (Entries.ofList ((front ++ (name, value) :: rest).map fun member =>
      (Key.str (Text.ofString member.1), member.2.cut nesting))).dumps false = .error error := by
    induction front with
    | nil =>
      rw [nil_append, map_cons, Entries.ofList, Entries.dumps, raises]
      rfl
    | cons member front ih =>
      rcases written member mem_cons_self with ⟨text, dumped⟩
      have later := ih fun other inside => written other (mem_cons_of_mem _ inside)
      rw [cons_append, map_cons, Entries.ofList, Entries.dumps, dumped, later]
      rfl
  unfold encodeFrame encodeJson Value.dumpSize object
  rw [Value.cut, if_neg (Nat.succ_ne_zero nesting), Nat.add_sub_cancel, cut_ofList, map_map,
    Value.dumps]
  simp only [Function.comp_def, fails]
  rfl

theorem encodes_take {text : Text} (count : ℕ) (encodes : text.encodes = true) :
    Text.encodes (text.take count) = true := by
  induction text generalizing count with
  | nil =>
    rw [take_nil]
    exact encodes
  | cons point rest ih =>
    cases count with
    | zero => exact (by decide : Text.encodes [] = true)
    | succ count =>
      unfold Text.encodes at encodes ih ⊢
      rw [Text.utf8Size?_cons] at encodes
      rw [take_succ_cons, Text.utf8Size?_cons]
      cases first : point.utf8Size? with
      | none => simp [first] at encodes
      | some size =>
        simp only [first, Option.bind_some, Option.isSome_map] at encodes ⊢
        exact ih count encodes

theorem encodes_append {front back : Text} (first : front.encodes = true)
    (second : back.encodes = true) : Text.encodes (front ++ back) = true :=
  (Text.within_append (Text.within_size first) (Text.within_size second)).encodes.1

theorem encodes_short {message : Text} (encodes : message.encodes = true) :
    (short message).encodes = true := by
  unfold short
  split
  · exact encodes
  · exact encodes_append (encodes_take maxErrorChars encodes) (by decide)

/-- The frame of a value that can be encoded inside an object. -/
theorem encodable_valueFrame {number : ℕ} {value : Value}
    (encodes : encodable nesting value = true) :
    encodable (nesting + 1) (toolResultFrame number (.value value)) = true := by
  apply @encodable_object nesting _ ["type", "id", "ok", "value"] rfl (by decide)
  intro member present
  simp only [mem_cons, not_mem_nil, or_false] at present
  rcases present with rfl | rfl | rfl | rfl
  · exact encodable_str (by decide)
  · exact encodable_callId number
  · exact encodable_bool true
  · exact encodes

theorem encodable_errorFrame {number : ℕ} {kind name message : Text} (kinds : kind.encodes = true)
    (names : name.encodes = true) (messages : message.encodes = true) :
    encodable (nesting + 2) (toolResultFrame number (.error kind name message)) = true := by
  apply @encodable_object (nesting + 1) _ ["type", "id", "ok", "error"] rfl (by decide)
  intro member present
  simp only [mem_cons, not_mem_nil, or_false] at present
  rcases present with rfl | rfl | rfl | rfl
  · exact encodable_str (by decide)
  · exact encodable_callId number
  · exact encodable_bool false
  · apply @encodable_object nesting _ ["kind", "name", "message"] rfl (by decide)
    intro inner inside
    simp only [mem_cons, not_mem_nil, or_false] at inside
    rcases inside with rfl | rfl | rfl
    · exact encodable_str kinds
    · exact encodable_str names
    · exact encodable_str messages

theorem encodable_failedResult {error : ScriptError}
    (kinds : (Text.ofString error.kind).encodes = true) (messages : error.message.encodes = true) :
    encodable (nesting + 2) (resultFrame .null (some error)) = true := by
  apply @encodable_object (nesting + 1) _ ["type", "value", "error"] rfl (by decide)
  intro member present
  simp only [mem_cons, not_mem_nil, or_false] at present
  rcases present with rfl | rfl | rfl
  · exact encodable_str (by decide)
  · exact encodable_null
  · apply @encodable_object nesting _ ["kind", "message"] rfl (by decide)
    intro inner inside
    simp only [mem_cons, not_mem_nil, or_false] at inside
    rcases inside with rfl | rfl
    · exact encodable_str kinds
    · exact encodable_str messages

theorem encodable_returned (encodes : encodable nesting value = true) :
    encodable (nesting + 1) (resultFrame value none) = true := by
  apply @encodable_object nesting _ ["type", "value", "error"] rfl (by decide)
  intro member present
  simp only [mem_cons, not_mem_nil, or_false] at present
  rcases present with rfl | rfl | rfl
  · exact encodable_str (by decide)
  · exact encodes
  · exact encodable_null

end Ptc

end Synapse
