import Synapse.Foundation.Bisection
import Synapse.Python.Sizes
import Synapse.Ptc.Run

/-!
# The cap on the output of a run

`_finalize_output` bounds the encoding of the whole mapping that a run returns. What is too large
becomes an error with as many of the first log lines as fit beside it and beside the marker that
tells of the missing ones. The sizes are added up from those of the parts, and the number of lines
is found by bisection.
-/

namespace Synapse.Ptc

open List

/-- The mapping `{logs, value, error?}`. -/
structure RunOutput where
  logs : Value
  value : Value
  error : Option Value
  deriving DecidableEq

namespace RunOutput

def toValue (output : RunOutput) : Value :=
  match output.error with
  | none => object [("logs", output.logs), ("value", output.value)]
  | some error => object [("logs", output.logs), ("value", output.value), ("error", error)]

/-- The strings among the logs. -/
def lines (output : RunOutput) : List Text :=
  match output.logs with
  | .sequence items =>
    items.toList.filterMap fun item =>
      match item with
      | .str _ line => some line
      | _ => none
  | _ => []

/-- The kind and the message of an error that has a kind. -/
def failure (output : RunOutput) : Option (Text × Text) :=
  match output.error with
  | some (.mapping true entries) =>
    match entries.get? (Text.ofString "kind") with
    | some (.str _ kind) =>
      match entries.get? (Text.ofString "message") with
      | some (.str _ message) => some (kind, message)
      | _ => some (kind, [])
    | _ => none
  | _ => none

/-- An error with some of the logs. -/
def failed (logs : List Text) (kind message : Text) : RunOutput where
  logs := .sequence (.ofList (logs.map (.str true)))
  value := .null
  error := some (object [("kind", .str true kind), ("message", .str true message)])

end RunOutput

open RunOutput

def outputLimitMarker : Text :=
  Text.ofString "[logs truncated: output limit reached]"

def errorEnvelopeHeadroom : ℕ := 64

def outputLimit : Text :=
  Text.ofString "output_limit"

/-- The message where the value is dropped without an error of its own. -/
def exceeded (cap : ℕ) : Text :=
  Text.ofString "run_code output exceeded max_output_bytes (" ++ Text.decimal (cap + 1) cap ++
    Text.ofString "); value dropped and logs truncated"

/-- The half of a text is taken until it fits; each time it gets shorter. -/
def halve (nesting budget : ℕ) : ℕ → Text → Except JsonError Text
  | 0, text => return text
  | fuel + 1, text => do
      if text ≠ [] ∧ budget < (← encodeJson nesting (.str true text)) then
        halve nesting budget fuel (text.take (text.length / 2))
      else return text

/-- `_bound_message` -/
def boundMessage (nesting : ℕ) (message : Text) (cap : ℕ) : Except JsonError Text := do
  let budget := cap - errorEnvelopeHeadroom
  if (← encodeJson nesting (.str true message)) ≤ budget then return message
  halve nesting budget (message.take budget).length (message.take budget)

/-- The size with the first `count` lines, and with the marker behind them. -/
def whole (base : ℕ) (sizes : List ℕ) (markerSize count : ℕ) (marker : Bool) : ℕ :=
  let total := (sizes.take count).sum + (if marker then markerSize else 0)
  let lines := count + (if marker then 1 else 0)
  if lines = 0 then base else base + total + (lines - 1)

/-- `_fit_output` -/
def fitOutput (nesting : ℕ) (logs : List Text) (kind message : Text) (cap : ℕ) :
    Except JsonError RunOutput := do
  let bounded ← boundMessage nesting message cap
  let first ← encodeJson nesting (failed [] kind bounded).toValue
  let message := if cap < first then [] else bounded
  let base ← encodeJson nesting (failed [] kind message).toValue
  if cap < base then return failed [] outputLimit []
  if logs = [] then return failed [] kind message
  let sizes ← logs.mapM fun line => encodeJson nesting (.str true line)
  let markerSize ← encodeJson nesting (.str true outputLimitMarker)
  if whole base sizes markerSize logs.length false ≤ cap then return failed logs kind message
  if cap < whole base sizes markerSize 0 true then return failed [] kind message
  let best := bisect (fun count => decide (whole base sizes markerSize count true ≤ cap))
    (logs.length + 1) 0 (logs.length + 1) 0
  let candidate := failed (logs.take best ++ [outputLimitMarker]) kind message
  if (← encodeJson nesting candidate.toValue) ≤ cap then return candidate
  return failed [] kind message

/-- `_finalize_output` -/
def finalizeOutput (nesting : ℕ) (result : RunOutput) (cap : ℕ) : Except JsonError RunOutput := do
  if (← encodeJson nesting result.toValue) ≤ cap then return result
  match result.failure with
  | some (kind, message) => fitOutput nesting result.lines kind message cap
  | none => fitOutput nesting result.lines outputLimit (exceeded cap) cap

/-! ### Sizes -/

variable {nesting : ℕ}
variable {value : Value} {text : Text}

theorem encodeJson_of_dumps
    (dumped : (value.cut nesting).dumps false = .ok text) (encodes : text.encodes = true) :
    encodeJson nesting value = .ok text.size := by
  rcases Option.isSome_iff_exists.mp encodes with ⟨size, measured⟩
  unfold encodeJson Value.dumpSize
  rw [dumped]
  simp [bind, Except.bind, measured, Text.size, pure, Except.pure]

theorem encodeJson_str (encodes : text.encodes = true) :
    encodeJson nesting (.str true text) = .ok text.quote.size :=
  encodeJson_of_dumps rfl (Text.quote_encodes.mpr encodes)

/-- The size of a list, without its brackets. -/
def listed (sizes : List ℕ) : ℕ :=
  sizes.sum + (sizes.length - 1)

/-- The size of an error without logs. -/
def envelope (kind message : Text) : ℕ :=
  53 + kind.quote.size + message.quote.size

theorem cut_strings (lines : List Text) :
    (Values.ofList (lines.map (.str true))).cut nesting = .ofList (lines.map (.str true)) := by
  induction lines with
  | nil => rfl
  | cons line lines ih =>
    rw [map_cons, Values.ofList, Values.cut, ih]
    rfl

theorem dumps_strings (lines : List Text) :
    (Values.ofList (lines.map (.str true))).dumps false = .ok (lines.map Text.quote) := by
  induction lines with
  | nil => rfl
  | cons line lines ih =>
    rw [map_cons, Values.ofList, Values.dumps, ih]
    rfl

/-- An object is written from what its members are written as, one level further in. -/
theorem dumps_object {members : List (String × Value)} {texts : List Text}
    (dumped : members.map (fun member => (member.2.cut nesting).dumps false) =
      texts.map Except.ok) :
    ((object members).cut (nesting + 1)).dumps false =
      .ok (dumpMembers false ((members.map fun member => Text.ofString member.1).zip texts)) := by
  have whole : (Entries.ofList (members.map fun member =>
      (Key.str (Text.ofString member.1), member.2.cut nesting))).dumps false =
      .ok ((members.map fun member => Text.ofString member.1).zip texts) := by
    induction members generalizing texts with
    | nil => rfl
    | cons member rest ih =>
      cases texts with
      | nil => cases dumped
      | cons text others =>
        rw [map_cons, map_cons, cons.injEq] at dumped
        rw [map_cons, Entries.ofList, Entries.dumps, dumped.1, ih dumped.2]
        rfl
  unfold object
  rw [Value.cut, if_neg (Nat.succ_ne_zero nesting), Nat.add_sub_cancel, cut_ofList, map_map,
    Value.dumps]
  simp only [Function.comp_def, whole]
  rfl

/-- The text of a list of strings. -/
def listText (lines : List Text) : Text :=
  Text.ofString "[" ++ Text.joinComma (lines.map Text.quote) ++ Text.ofString "]"

/-- The text of an error. -/
def errorText (kind message : Text) : Text :=
  dumpMembers false
    [(Text.ofString "kind", kind.quote), (Text.ofString "message", message.quote)]

/-- The text of an error with logs. -/
def failedText (lines : List Text) (kind message : Text) : Text :=
  dumpMembers false [(Text.ofString "logs", listText lines),
    (Text.ofString "value", Text.ofString "null"), (Text.ofString "error", errorText kind message)]

theorem dumps_failed (lines : List Text) (kind message : Text) :
    ((failed lines kind message).toValue.cut (nesting + 2)).dumps false =
      .ok (failedText lines kind message) := by
  have logs : (Value.cut (.sequence (.ofList (lines.map (.str true)))) (nesting + 1)).dumps false =
      .ok (listText lines) := by
    rw [Value.cut, if_neg (Nat.succ_ne_zero nesting), cut_strings, Value.dumps, dumps_strings]
    rfl
  have error : ((object [("kind", .str true kind), ("message", .str true message)]).cut
      (nesting + 1)).dumps false = .ok (errorText kind message) :=
    @dumps_object nesting _ [kind.quote, message.quote] rfl
  apply @dumps_object (nesting + 1) _
    [listText lines, Text.ofString "null", errorText kind message]
  simp only [failed, map_cons, map_nil, logs, error]
  rfl

theorem size_listText {lines : List Text} (encode : ∀ line ∈ lines, line.encodes = true) :
    (listText lines).encodes = true ∧
      (listText lines).size = listed (lines.map fun line => line.quote.size) + 2 := by
  have opening : Text.encodes (Text.ofString "[") = true := by decide
  have closing : Text.encodes (Text.ofString "]") = true := by decide
  have first : (Text.ofString "[").size = 1 := by decide
  have last : (Text.ofString "]").size = 1 := by decide
  have parts : ∀ part ∈ lines.map Text.quote, Text.encodes part = true := by
    intro part present
    rcases mem_map.mp present with ⟨line, inside, rfl⟩
    exact Text.quote_encodes.mpr (encode line inside)
  have joined := Text.joinComma_encodes.mpr parts
  have measured := Text.size_joinComma parts
  rw [map_map, length_map] at measured
  unfold listText listed
  refine ⟨Text.append_encodes.mpr ⟨Text.append_encodes.mpr ⟨opening, joined⟩, closing⟩, ?_⟩
  rw [Text.size_append (Text.append_encodes.mpr ⟨opening, joined⟩) closing,
    Text.size_append opening joined, measured, first, last, length_map]
  simp only [Function.comp_def]
  omega

theorem size_errorText {kind message : Text} (kinds : kind.encodes = true)
    (messages : message.encodes = true) :
    (errorText kind message).encodes = true ∧
      (errorText kind message).size = kind.quote.size + message.quote.size + 20 := by
  have first : (Text.ofString "kind").encodes = true := by decide
  have second : (Text.ofString "message").encodes = true := by decide
  have one : (Text.ofString "kind").quote.size = 6 := by decide
  have other : (Text.ofString "message").quote.size = 9 := by decide
  have kindText := Text.quote_encodes.mpr kinds
  have messageText := Text.quote_encodes.mpr messages
  have encode : ∀ member ∈ [(Text.ofString "kind", kind.quote),
      (Text.ofString "message", message.quote)], (memberText member).encodes = true := by
    simp only [forall_mem_cons, memberText_encodes]
    exact ⟨⟨first, kindText⟩, ⟨second, messageText⟩, by simp⟩
  refine ⟨dumpMembers_encodes.mpr encode, ?_⟩
  unfold errorText
  rw [size_dumpMembers encode]
  simp only [map_cons, map_nil, sum_cons, sum_nil, length_cons,
    length_nil, size_memberText first kindText, size_memberText second messageText, one, other]
  omega

theorem encodeJson_failed (deep : 2 ≤ nesting) {lines : List Text} {kind message : Text}
    (encode : ∀ line ∈ lines, line.encodes = true) (kinds : kind.encodes = true)
    (messages : message.encodes = true) :
    encodeJson nesting (failed lines kind message).toValue =
      .ok (envelope kind message + listed (lines.map fun line => line.quote.size)) := by
  obtain ⟨inner, rfl⟩ := Nat.exists_eq_add_of_le' deep
  have first : (Text.ofString "logs").encodes = true := by decide
  have second : (Text.ofString "value").encodes = true := by decide
  have third : (Text.ofString "error").encodes = true := by decide
  have null : (Text.ofString "null").encodes = true := by decide
  have sizes : (Text.ofString "logs").quote.size = 6 ∧ (Text.ofString "value").quote.size = 7 ∧
      (Text.ofString "error").quote.size = 7 ∧ (Text.ofString "null").size = 4 := by decide
  rcases size_listText encode with ⟨logs, measured⟩
  rcases size_errorText kinds messages with ⟨error, bounded⟩
  have written : ∀ member ∈ [(Text.ofString "logs", listText lines),
      (Text.ofString "value", Text.ofString "null"),
      (Text.ofString "error", errorText kind message)], (memberText member).encodes = true := by
    simp only [forall_mem_cons, memberText_encodes]
    exact ⟨⟨first, logs⟩, ⟨second, null⟩, ⟨third, error⟩, by simp⟩
  rw [encodeJson_of_dumps (dumps_failed lines kind message) (dumpMembers_encodes.mpr written)]
  unfold failedText envelope
  rw [size_dumpMembers written]
  simp only [map_cons, map_nil, sum_cons, sum_nil, length_cons,
    length_nil, size_memberText first logs, size_memberText second null,
    size_memberText third error, sizes, measured, bounded]
  congr 1
  omega

/-! ### What fits -/

def Fits (nesting cap : ℕ) (output : RunOutput) : Prop :=
  ∃ size, encodeJson nesting output.toValue = .ok size ∧ size ≤ cap

theorem fits_failed (deep : 2 ≤ nesting) {lines : List Text} {kind message : Text} {cap : ℕ}
    (encode : ∀ line ∈ lines, line.encodes = true) (kinds : kind.encodes = true)
    (messages : message.encodes = true) :
    Fits nesting cap (failed lines kind message) ↔
      envelope kind message + listed (lines.map fun line => line.quote.size) ≤ cap := by
  unfold Fits
  rw [encodeJson_failed deep encode kinds messages]
  simp

/-- The first lines, with the marker behind them or without it. -/
def cutLines (lines : List Text) (count : ℕ) (marked : Bool) : List Text :=
  lines.take count ++ (if marked then [outputLimitMarker] else [])

theorem cutLines_encode {lines : List Text} (encode : ∀ line ∈ lines, line.encodes = true)
    (count : ℕ) (marked : Bool) : ∀ line ∈ cutLines lines count marked, line.encodes = true := by
  intro line present
  unfold cutLines at present
  rcases mem_append.mp present with kept | marker
  · exact encode line (mem_of_mem_take kept)
  · cases marked with
    | false => cases marker
    | true =>
      obtain rfl := mem_singleton.mp marker
      decide

/-- What `whole` adds up is the size of the encoding. -/
theorem whole_eq (base : ℕ) {lines : List Text} {count : ℕ} (within : count ≤ lines.length)
    (marked : Bool) :
    whole base (lines.map fun line => line.quote.size) outputLimitMarker.quote.size count marked =
      base + listed ((cutLines lines count marked).map fun line => line.quote.size) := by
  unfold whole listed cutLines
  cases marked with
  | true =>
    simp only [if_true, map_append, map_take, map_cons, map_nil,
      sum_append, sum_singleton, length_append, length_take, length_map,
      length_singleton, Nat.min_eq_left within]
    simp [Nat.add_assoc]
  | false =>
    simp only [Bool.false_eq_true, if_false, append_nil, map_take, length_take,
      length_map, Nat.min_eq_left within, Nat.add_zero]
    split
    · rename_i none
      simp [none]
    · omega

theorem whole_mono {base markerSize few many : ℕ} (sizes : List ℕ) (fewer : few ≤ many) :
    whole base sizes markerSize few true ≤ whole base sizes markerSize many true := by
  have sums : (sizes.take few).sum ≤ (sizes.take many).sum :=
    (take_sublist_take_left fewer).sum_le_sum fun _ _ => Nat.zero_le _
  unfold whole
  simp only [if_true, Nat.add_eq_zero_iff, one_ne_zero, and_false, if_false]
  omega

/-! ### Messages -/

theorem halve_ok {budget : ℕ} {fuel : ℕ} {text : Text} (enough : text.length ≤ fuel)
    (encodes : text.encodes = true) :
    ∃ kept, halve nesting budget fuel text = .ok kept ∧ kept.encodes = true ∧
      (kept = [] ∨ kept.quote.size ≤ budget) := by
  induction fuel generalizing text with
  | zero => exact ⟨text, rfl, encodes, .inl (length_eq_zero_iff.mp (Nat.le_zero.mp enough))⟩
  | succ fuel ih =>
    by_cases empty : text = []
    · subst empty
      refine ⟨[], ?_, encodes, .inl rfl⟩
      simp [halve, encodeJson_str encodes, bind, Except.bind, pure, Except.pure]
    · by_cases large : budget < text.quote.size
      · have nonempty := length_pos_of_ne_nil empty
        have shorter : (text.take (text.length / 2)).length ≤ fuel := by
          rw [length_take]
          omega
        rcases ih shorter (encodes_take _ encodes) with ⟨kept, halved, fine⟩
        refine ⟨kept, ?_, fine⟩
        rw [← halved]
        simp [halve, encodeJson_str encodes, empty, large, bind, Except.bind]
      · refine ⟨text, ?_, encodes, .inr (Nat.not_lt.mp large)⟩
        simp [halve, encodeJson_str encodes, large, bind, Except.bind, pure, Except.pure]

theorem boundMessage_ok {message : Text} (encodes : message.encodes = true) (cap : ℕ) :
    ∃ bounded, boundMessage nesting message cap = .ok bounded ∧ bounded.encodes = true ∧
      (bounded = [] ∨ bounded.quote.size ≤ cap - errorEnvelopeHeadroom) := by
  by_cases small : message.quote.size ≤ cap - errorEnvelopeHeadroom
  · refine ⟨message, ?_, encodes, .inr small⟩
    simp [boundMessage, encodeJson_str encodes, small, bind, Except.bind, pure, Except.pure]
  · rcases @halve_ok nesting (cap - errorEnvelopeHeadroom) _ _ (Nat.le_refl _)
      (encodes_take (cap - errorEnvelopeHeadroom) encodes) with ⟨bounded, halved, fine⟩
    refine ⟨bounded, ?_, fine⟩
    rw [← halved]
    simp [boundMessage, encodeJson_str encodes, small, bind, Except.bind]

theorem mapM_encodeJson {lines : List Text} (encode : ∀ line ∈ lines, line.encodes = true) :
    (lines.mapM fun line => encodeJson nesting (.str true line)) =
      .ok (lines.map fun line => line.quote.size) := by
  induction lines with
  | nil => rfl
  | cons line lines ih =>
    rw [mapM_cons, encodeJson_str (encode line mem_cons_self),
      ih fun other present => encode other (mem_cons_of_mem line present)]
    rfl

/-! ### The log lines that are kept -/

/-- An error within the cap: it keeps the longest prefix of the log lines that fits, with the marker
behind it unless no line is missing, or unless not even the marker fits. -/
structure KeepsLines (nesting cap : ℕ) (lines : List Text) (kind message : Text) (count : ℕ)
    (marked : Bool) : Prop where
  within : count ≤ lines.length
  missing : marked = true → count < lines.length
  fits : Fits nesting cap (failed (cutLines lines count marked) kind message)
  longest : ∀ longer, count < longer → longer ≤ lines.length →
    ¬Fits nesting cap (failed (cutLines lines longer (decide (longer < lines.length))) kind message)

theorem fitLines_keeps (deep : 2 ≤ nesting) {lines : List Text} {kind message : Text} {cap : ℕ}
    (encode : ∀ line ∈ lines, line.encodes = true) (kinds : kind.encodes = true)
    (messages : message.encodes = true) (fits : envelope kind message ≤ cap)
    (overflows : cap < envelope kind message + listed (lines.map fun line => line.quote.size)) :
    let sizes := lines.map fun line => line.quote.size
    let best := bisect (fun count => decide (whole (envelope kind message) sizes
      outputLimitMarker.quote.size count true ≤ cap)) (lines.length + 1) 0 (lines.length + 1) 0
    (whole (envelope kind message) sizes outputLimitMarker.quote.size 0 true ≤ cap →
      KeepsLines nesting cap lines kind message best true) ∧
    (cap < whole (envelope kind message) sizes outputLimitMarker.quote.size 0 true →
      KeepsLines nesting cap lines kind message 0 false) := by
  intro sizes best
  have fits_iff : ∀ {count}, count ≤ lines.length → ∀ marked,
      Fits nesting cap (failed (cutLines lines count marked) kind message) ↔
        whole (envelope kind message) sizes outputLimitMarker.quote.size count marked ≤ cap := by
    intro count within marked
    rw [fits_failed deep (cutLines_encode encode count marked) kinds messages,
      ← whole_eq _ within marked]
  have all : ¬Fits nesting cap (failed (cutLines lines lines.length false) kind message) := by
    rw [fits_iff (Nat.le_refl _), whole_eq _ (Nat.le_refl _)]
    simpa [cutLines] using overflows
  -- Behind the last line nothing is missing, and there the marker would be too much as well.
  have beyond : ∀ {count}, (∀ longer, count < longer → longer ≤ lines.length →
      cap < whole (envelope kind message) sizes outputLimitMarker.quote.size longer true) →
      ∀ longer, count < longer → longer ≤ lines.length → ¬Fits nesting cap
        (failed (cutLines lines longer (decide (longer < lines.length))) kind message) := by
    intro count above longer more inside
    by_cases last : longer < lines.length
    · rw [decide_eq_true last, fits_iff inside]
      exact Nat.not_le.mpr (above longer more inside)
    · rw [decide_eq_false last, Nat.le_antisymm inside (Nat.not_lt.mp last)]
      exact all
  constructor
  · intro marker
    have greatest := @greatest_bisect (fun count => decide (whole (envelope kind message) sizes
      outputLimitMarker.quote.size count true ≤ cap)) lines.length
      (fun fewer many => decide_eq_true ((whole_mono sizes fewer).trans (of_decide_eq_true many)))
      (decide_eq_true marker)
    have above : ∀ longer, best < longer → longer ≤ lines.length →
        cap < whole (envelope kind message) sizes outputLimitMarker.quote.size longer true :=
      fun longer more inside =>
        Nat.not_le.mp (of_decide_eq_false (greatest.beyond longer more inside))
    refine ⟨greatest.within, fun _ => ?_, (fits_iff greatest.within true).mpr
      (of_decide_eq_true greatest.accepted), beyond above⟩
    refine lt_of_le_of_ne greatest.within fun last => all ?_
    rw [fits_iff (Nat.le_refl _)]
    have accepted :
        whole (envelope kind message) sizes outputLimitMarker.quote.size best true ≤ cap :=
      of_decide_eq_true greatest.accepted
    rw [last] at accepted
    refine le_trans ?_ accepted
    unfold whole
    simp only [Bool.false_eq_true, if_false, if_true, Nat.add_zero, Nat.add_eq_zero_iff,
      one_ne_zero, and_false]
    split <;> omega
  · intro marker
    refine ⟨Nat.zero_le _, by simp, ?_, beyond fun longer _ _ =>
      marker.trans_le (whole_mono sizes (Nat.zero_le longer))⟩
    rw [fits_iff (Nat.zero_le _)]
    simpa [whole] using fits

theorem cutLines_all (lines : List Text) : cutLines lines lines.length false = lines := by
  simp [cutLines]

theorem cutLines_none (lines : List Text) : cutLines lines 0 false = [] := by
  simp [cutLines]

/-- What `_fit_output` returns: the smallest error where even an envelope with the kind alone does
not fit, and otherwise an error of that kind with the lines that fit. -/
theorem fitOutput_ok (deep : 2 ≤ nesting) {lines : List Text} {kind message : Text} {cap : ℕ}
    (encode : ∀ line ∈ lines, line.encodes = true) (kinds : kind.encodes = true)
    (messages : message.encodes = true) :
    ∃ output, fitOutput nesting lines kind message cap = .ok output ∧
      ((cap < envelope kind [] ∧ output = failed [] outputLimit []) ∨
        ∃ final count marked, output = failed (cutLines lines count marked) kind final ∧
          KeepsLines nesting cap lines kind final count marked) := by
  have nothing : Text.encodes [] = true := by decide
  rcases @boundMessage_ok nesting message messages cap with ⟨bounded, ok, encodes, -⟩
  have empty : ∀ {final : Text}, final.encodes = true →
      encodeJson nesting (failed [] kind final).toValue = .ok (envelope kind final) := by
    intro final finals
    simpa [listed] using @encodeJson_failed nesting deep [] kind final (by simp) kinds finals
  generalize chosen : (if cap < envelope kind bounded then [] else bounded) = final
  have finals : Text.encodes final = true := by
    rw [← chosen]
    split <;> assumption
  have bare : cap < envelope kind final → cap < envelope kind [] := by
    intro large
    rw [← chosen] at large
    split at large
    · exact large
    · contradiction
  unfold fitOutput
  simp only [ok, empty encodes, empty finals, chosen, bind, Except.bind, pure, Except.pure]
  split
  · rename_i large
    exact ⟨_, rfl, .inl ⟨bare large, rfl⟩⟩
  · rename_i fits
    replace fits := Nat.not_lt.mp fits
    split
    · rename_i none
      subst none
      refine ⟨_, rfl, .inr ⟨final, 0, false, rfl, ?_⟩⟩
      refine ⟨Nat.zero_le _, by simp, ⟨_, empty finals, fits⟩, fun longer more inside => ?_⟩
      exact absurd more (Nat.not_lt.mpr inside)
    · have all := whole_eq (envelope kind final) (Nat.le_refl lines.length) false
      rw [cutLines_all] at all
      have marker : outputLimitMarker.encodes = true := by decide
      simp only [mapM_encodeJson encode, encodeJson_str marker]
      split
      · rename_i room
        rw [all] at room
        refine ⟨_, rfl, .inr ⟨final, lines.length, false, by rw [cutLines_all], ?_⟩⟩
        refine ⟨Nat.le_refl _, by simp, ?_, fun longer more inside =>
          absurd more (Nat.not_lt.mpr inside)⟩
        rw [cutLines_all]
        exact (fits_failed deep encode kinds finals).mpr room
      · rename_i overflows
        rw [all] at overflows
        have found := fitLines_keeps deep encode kinds finals fits (Nat.not_le.mp overflows)
        dsimp only at found
        split
        · rename_i marker
          exact ⟨_, rfl, .inr ⟨final, 0, false, by rw [cutLines_none], found.2 marker⟩⟩
        · rename_i marker
          have kept := found.1 (Nat.not_lt.mp marker)
          have room := kept.fits
          unfold Fits at room
          rcases room with ⟨size, encoded, within⟩
          rw [cutLines, if_pos rfl] at encoded
          simp only [encoded, if_pos within]
          exact ⟨_, rfl, .inr ⟨final, _, true, rfl, kept⟩⟩

/-! ### What is inside an encodable value -/

theorem dumps_items {items : Values} {parts : List Text}
    (dumped : (items.cut nesting).dumps false = .ok parts) {item : Value}
    (inside : item ∈ items.toList) : ∃ part ∈ parts, (item.cut nesting).dumps false = .ok part := by
  match items with
  | .nil => cases inside
  | .cons head tail =>
    rw [Values.cut, Values.dumps] at dumped
    cases first : (head.cut nesting).dumps false with
    | error error =>
      rw [first] at dumped
      cases dumped
    | ok text =>
      cases others : (tail.cut nesting).dumps false with
      | error error =>
        rw [first, others] at dumped
        cases dumped
      | ok texts =>
        rw [first, others] at dumped
        cases dumped
        rcases mem_cons.mp inside with rfl | later
        · exact ⟨text, mem_cons_self, first⟩
        · rcases dumps_items others later with ⟨part, present, same⟩
          exact ⟨part, mem_cons_of_mem _ present, same⟩

theorem dumps_entries {entries : Entries} {members : List (Text × Text)}
    (dumped : (entries.cut nesting).dumps false = .ok members) {key : Key} {value : Value}
    (inside : (key, value) ∈ entries.toList) :
    ∃ member ∈ members, (value.cut nesting).dumps false = .ok member.2 := by
  match entries with
  | .nil => cases inside
  | .cons head first rest =>
    rw [Entries.cut, Entries.dumps] at dumped
    cases named : head.dump with
    | error error =>
      rw [named] at dumped
      cases dumped
    | ok name =>
      cases whole : (first.cut nesting).dumps false with
      | error error =>
        rw [named, whole] at dumped
        cases dumped
      | ok text =>
        cases others : (rest.cut nesting).dumps false with
        | error error =>
          rw [named, whole, others] at dumped
          cases dumped
        | ok texts =>
          rw [named, whole, others] at dumped
          cases dumped
          rcases mem_cons.mp inside with same | later
          · obtain ⟨rfl, rfl⟩ := Prod.mk.inj same
            exact ⟨(name, text), mem_cons_self, whole⟩
          · rcases dumps_entries others later with ⟨member, present, same⟩
            exact ⟨member, mem_cons_of_mem _ present, same⟩

/-- The items of an encodable list can be encoded, and so can the members of an object. -/
theorem encodable_item {items : Values} (encodes : encodable nesting (.sequence items) = true)
    {item : Value} (inside : item ∈ items.toList) : encodable (nesting - 1) item = true := by
  rcases encodable_iff.mp encodes with ⟨text, dumped, written⟩
  rw [Value.cut] at dumped
  split at dumped
  · cases dumped
  · rw [Value.dumps] at dumped
    cases whole : (items.cut (nesting - 1)).dumps false with
    | error error =>
      rw [whole] at dumped
      cases dumped
    | ok parts =>
      rw [whole] at dumped
      cases dumped
      rcases dumps_items whole inside with ⟨part, present, same⟩
      have joined := (Text.append_encodes.mp (Text.append_encodes.mp written).1).2
      exact encodable_iff.mpr ⟨part, same, Text.joinComma_encodes.mp joined part present⟩

theorem encodable_member {entries : Entries}
    (encodes : encodable nesting (.mapping true entries) = true) {key : Key}
    (inside : (key, value) ∈ entries.toList) : encodable (nesting - 1) value = true := by
  rcases encodable_iff.mp encodes with ⟨text, dumped, written⟩
  rw [Value.cut] at dumped
  split at dumped
  · cases dumped
  · rw [Value.dumps] at dumped
    cases whole : (entries.cut (nesting - 1)).dumps false with
    | error error =>
      rw [whole] at dumped
      cases dumped
    | ok members =>
      rw [whole] at dumped
      cases dumped
      rcases dumps_entries whole inside with ⟨⟨name, part⟩, present, same⟩
      have member := dumpMembers_encodes.mp written (name, part) present
      exact encodable_iff.mpr ⟨part, same, (memberText_encodes.mp member).2⟩

theorem encodes_of_encodable {plain : Bool}
    (encodes : encodable nesting (.str plain text) = true) : text.encodes = true := by
  rcases encodable_iff.mp encodes with ⟨written, dumped, fine⟩
  cases dumped
  exact Text.quote_encodes.mp fine

theorem mem_of_get? {entries : Entries} {name : Text}
    (found : entries.get? name = some value) : (Key.str name, value) ∈ entries.toList := by
  rcases lookup_eq_some_iff.mp found with ⟨front, back, same, -⟩
  rw [same]
  exact mem_append_right _ mem_cons_self

namespace RunOutput

variable {output : RunOutput}

/-- The strings that are taken over from an encodable mapping can be encoded. -/
theorem logs_encodable (encodes : encodable nesting output.toValue = true) :
    encodable (nesting - 1) output.logs = true := by
  unfold toValue at encodes
  split at encodes <;> exact encodable_member encodes mem_cons_self

theorem lines_encode (encodes : encodable nesting output.toValue = true) :
    ∀ line ∈ output.lines, line.encodes = true := by
  have logs := logs_encodable encodes
  intro line present
  unfold lines at present
  split at present
  · rename_i items found
    rw [found] at logs
    rcases mem_filterMap.mp present with ⟨item, inside, same⟩
    cases item with
    | str plain text =>
      cases same
      exact encodes_of_encodable (encodable_item logs inside)
    | null | bool _ | int _ _ | float _ _ | enumeration _ | record _ | mapping _ _ | sequence _
    | set _ | bytes _ | rendered _ | cycle | raising | unknown => cases same
  · cases present

theorem failure_encodes (encodes : encodable nesting output.toValue = true) {kind message : Text}
    (failed : output.failure = some (kind, message)) :
    kind.encodes = true ∧ message.encodes = true := by
  unfold failure at failed
  split at failed
  · rename_i entries found
    have error : encodable (nesting - 1) (.mapping true entries) = true := by
      unfold toValue at encodes
      rw [found] at encodes
      exact encodable_member encodes (mem_cons_of_mem _ (mem_cons_of_mem _
        mem_cons_self))
    split at failed
    · rename_i plain text kindFound
      have first := encodes_of_encodable (encodable_member error (mem_of_get? kindFound))
      split at failed
      · rename_i other words messageFound
        obtain ⟨rfl, rfl⟩ := Prod.mk.inj (Option.some.inj failed)
        exact ⟨first, encodes_of_encodable (encodable_member error (mem_of_get? messageFound))⟩
      · obtain ⟨rfl, rfl⟩ := Prod.mk.inj (Option.some.inj failed)
        exact ⟨first, by decide⟩
    · cases failed
  · cases failed

end RunOutput

/-! ### The cap -/

/-- What becomes of an output that is too large. -/
inductive Capped (nesting cap : ℕ) (result : RunOutput) : RunOutput → Prop where
  /-- An error of the kind that there was, with the lines that fit. -/
  | keeps {kind message : Text} {count : ℕ} {marked : Bool}
      (kept : ∀ given words, result.failure = some (given, words) → kind = given)
      (lines : KeepsLines nesting cap result.lines kind message count marked) :
      Capped nesting cap result (failed (cutLines result.lines count marked) kind message)
  /-- Not even an envelope with the kind fits, and the smallest error takes its place. -/
  | bare {given words : Text} (failure : result.failure = some (given, words))
      (large : ¬Fits nesting cap (failed [] given []))
      (fits : Fits nesting cap (failed [] outputLimit [])) :
      Capped nesting cap result (failed [] outputLimit [])

theorem exceeded_encodes (cap : ℕ) : (exceeded cap).encodes = true :=
  encodes_append (encodes_append (by decide) (Text.within_decimal (cap + 1) cap).encodes.1)
    (by decide)

theorem envelope_outputLimit : envelope outputLimit [] = 69 := by decide

/-- An output whose encoding is within the cap is returned as it is. Any other becomes an error
within the cap that keeps its kind if an envelope with it fits, and then as many of the first log
lines as fit with the marker, or all of them. -/
theorem output_capped (settings : RunSettings) (result : RunOutput) {cap : ℕ} (large : 256 ≤ cap) :
    (∀ error, encodeJson settings.nesting result.toValue = .error error →
      finalizeOutput settings.nesting result cap = .error error) ∧
    (∀ size, encodeJson settings.nesting result.toValue = .ok size → size ≤ cap →
      finalizeOutput settings.nesting result cap = .ok result) ∧
    ∀ size, encodeJson settings.nesting result.toValue = .ok size → cap < size →
      ∃ output, finalizeOutput settings.nesting result cap = .ok output ∧
        Capped settings.nesting cap result output := by
  have deep := settings.nesting_le
  refine ⟨fun error raised => ?_, fun size encoded within => ?_, fun size encoded exceeds => ?_⟩
  · simp [finalizeOutput, raised, bind, Except.bind]
  · simp [finalizeOutput, encoded, within, bind, Except.bind, pure, Except.pure]
  · have encodes : encodable settings.nesting result.toValue = true := by
      simp [encodable, encoded, Except.toBool]
    have lines := lines_encode encodes
    have nothing : Text.encodes [] = true := by decide
    cases failure : result.failure with
    | none =>
      have same : finalizeOutput settings.nesting result cap =
          fitOutput settings.nesting result.lines outputLimit (exceeded cap) cap := by
        simp [finalizeOutput, encoded, Nat.not_le.mpr exceeds, failure, bind, Except.bind]
      rw [same]
      rcases @fitOutput_ok _ deep _ outputLimit _ cap lines (by decide)
        (exceeded_encodes cap) with ⟨output, ok, ⟨small, -⟩ | ⟨message, count, marked, rfl, kept⟩⟩
      · rw [envelope_outputLimit] at small
        exact absurd small (by omega)
      · refine ⟨_, ok, .keeps (fun given words found => ?_) kept⟩
        rw [failure] at found
        cases found
    | some given =>
      rcases given with ⟨kind, words⟩
      rcases failure_encodes encodes failure with ⟨kinds, messages⟩
      have same : finalizeOutput settings.nesting result cap =
          fitOutput settings.nesting result.lines kind words cap := by
        simp [finalizeOutput, encoded, Nat.not_le.mpr exceeds, failure, bind, Except.bind]
      rw [same]
      rcases @fitOutput_ok _ deep _ kind _ cap lines kinds messages with
        ⟨output, ok, ⟨small, rfl⟩ | ⟨message, count, marked, rfl, kept⟩⟩
      · refine ⟨_, ok, .bare failure ?_ ?_⟩
        · rw [fits_failed deep (by simp) kinds nothing]
          exact Nat.not_le.mpr (small.trans_le (Nat.le_add_right _ _))
        · rw [fits_failed deep (by simp) (by decide) nothing, envelope_outputLimit]
          simp only [listed, List.map_nil, List.sum_nil, List.length_nil]
          omega
      · refine ⟨_, ok, .keeps (fun given other found => ?_) kept⟩
        rw [failure] at found
        exact (Prod.mk.inj (Option.some.inj found)).1

/-- An output of some twenty lines and a large value. -/
def longOutput : RunOutput where
  logs := .sequence (.ofList (List.replicate 20 (literal "a line of the log")))
  value := .str true (List.replicate 300 0x61)
  error := none

def longSettings : RunSettings where
  nesting := 1000
  nesting_le := two_le_recursionLimit
  toolNames := []
  maxCalls := 1
  maxParallel := 1
  parallel_pos := Nat.one_pos
  maxOutputBytes := 256
  maxResultBytes := 4000000
  maxCodeBytes := 64000
  repr := fun _ => ⟨Text.ofString "...", dots_encode⟩

theorem output_capped_long : ∃ size output, encodeJson 1000 longOutput.toValue = .ok size ∧
    256 < size ∧ finalizeOutput 1000 longOutput 256 = .ok output ∧
    Capped 1000 256 longOutput output := by
  have encoded : encodeJson 1000 longOutput.toValue = .ok 721 := by decide +kernel
  rcases (output_capped longSettings longOutput (Nat.le_refl 256)).2.2 721 encoded (by decide) with
    ⟨output, ok, capped⟩
  exact ⟨721, output, encoded, by decide, ok, capped⟩

/-- An output with one line and an error of a kind that is too long. -/
def longKind : RunOutput where
  logs := .sequence (.ofList [literal "line"])
  value := .null
  error := some (object [("kind", .str true (List.replicate 300 0x61)), ("message", literal "")])

/-- The smallest error drops lines that would fit beside it. -/
theorem longer_prefix_fits : ∃ size, encodeJson 1000 longKind.toValue = .ok size ∧ 256 < size ∧
    finalizeOutput 1000 longKind 256 = .ok (failed [] outputLimit []) ∧
    Fits 1000 256 (failed (longKind.lines.take 1) outputLimit []) := by
  refine ⟨363, by decide +kernel, by decide, by decide +kernel, 75, by decide +kernel, by decide⟩

end Synapse.Ptc
