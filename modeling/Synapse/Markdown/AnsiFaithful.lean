import Synapse.Markdown.AnsiAttributes

/-!
# Faithful terminal output

The rendering of a text against ECMA-48: its visible text, the attributes that are in force at each visible
unit, and the colours. It is faithful exactly for the texts that the reader reads as ECMA-48 does.
-/

namespace Synapse.Markdown

open Console (JsText)

/-! ### The rendering of a text -/

/-- The spans of a text keep what is visible of it, have six digits in their colours, and have the attributes
that ECMA-48 has in force. -/
structure Faithful (text : JsText) : Prop where
  visible : (parseAnsi text).flatMap AnsiSpan.text = visible sequenceAt text
  colours : ∀ span ∈ parseAnsi text, ∀ value, span.color = some value ∨ span.backgroundColor = some value →
    SixDigits value
  attributes : List.Forall₂ (fun (span : AnsiSpan) (own : UInt16 × List Sgr) =>
      ∀ mark : Attribute, mark.On span ↔ inForce mark.code mark.ends own.2 = true)
    ((parseAnsi text).flatMap AnsiSpan.units) (shown sequenceAt 0 [] text)

/-- A text whose sequences are those that the reader matches, without a palette index after the grey ones, and with
the attributes of both readings in force at each visible unit. -/
structure Readable (text : JsText) : Prop where
  sequences : Matches text
  palette : ∀ read ∈ shown matchAt 0 [] text, ∀ side index, indexInForce side read.2 = some index → index ≤ 256
  attributes : List.Forall₂ (fun read own : UInt16 × List Sgr => ∀ mark : Attribute,
      inForce mark.code mark.removers read.2 = inForce mark.code mark.ends own.2)
    (shown matchAt 0 [] text) (shown sequenceAt 0 [] text)

/-- A law of the spans that does not look at their text is one of their units. -/
theorem forall_units {law : AnsiSpan → Prop} (blind : ∀ span text, law { span with text := text } ↔ law span)
    (text : JsText) : (∀ span ∈ parseAnsi text, law span) ↔ ∀ unit ∈ (parseAnsi text).flatMap AnsiSpan.units, law unit := by
  constructor
  · intro all unit mem
    rcases List.mem_flatMap.1 mem with ⟨span, inside, own⟩
    rcases List.mem_map.1 own with ⟨first, _, rfl⟩
    exact (blind span [first]).2 (all span inside)
  · intro all span inside
    have filled : span.text ≠ [] := by simpa using (List.mem_filter.1 inside).2
    rcases List.exists_mem_of_ne_nil _ filled with ⟨first, mem⟩
    exact (blind span [first]).1 (all _ (List.mem_flatMap.2 ⟨span, inside, List.mem_map_of_mem mem⟩))

theorem colours_iff (text : JsText) :
    (∀ span ∈ parseAnsi text, ∀ value, span.color = some value ∨ span.backgroundColor = some value →
        SixDigits value) ↔
      ∀ read ∈ shown matchAt 0 [] text, ∀ side index, indexInForce side read.2 = some index → index ≤ 256 := by
  rw [forall_units (fun _ _ => Iff.rfl), units_parseAnsi, List.forall_mem_map]
  refine forall₂_congr fun read _ => ?_
  constructor
  · intro six side
    refine (AnsiState.sixDigits_after side read.2).1 fun name own => six name ?_
    cases side with
    | false => exact Or.inl own
    | true => exact Or.inr own
  · rintro small name (front | back)
    · exact (AnsiState.sixDigits_after false read.2).2 (small false) name front
    · exact (AnsiState.sixDigits_after true read.2).2 (small true) name back

theorem attributes_iff (text : JsText) :
    List.Forall₂ (fun (span : AnsiSpan) (own : UInt16 × List Sgr) =>
        ∀ mark : Attribute, mark.On span ↔ inForce mark.code mark.ends own.2 = true)
      ((parseAnsi text).flatMap AnsiSpan.units) (shown sequenceAt 0 [] text) ↔
    List.Forall₂ (fun read own : UInt16 × List Sgr => ∀ mark : Attribute,
        inForce mark.code mark.removers read.2 = inForce mark.code mark.ends own.2)
      (shown matchAt 0 [] text) (shown sequenceAt 0 [] text) := by
  rw [units_parseAnsi, List.forall₂_map_left_iff]
  have same (read own : UInt16 × List Sgr) :
      (∀ mark : Attribute, mark.On ((AnsiState.after read.2).spanOf [read.1]) ↔
        inForce mark.code mark.ends own.2 = true) ↔
      ∀ mark : Attribute, inForce mark.code mark.removers read.2 = inForce mark.code mark.ends own.2 := by
    refine forall_congr' fun mark => ?_
    rw [(AnsiState.sound_after read.2).on_spanOf, ← AnsiState.present_after]
    exact Bool.eq_iff_iff.symm
  exact ⟨List.Forall₂.imp fun read own => (same read own).1, List.Forall₂.imp fun read own => (same read own).2⟩

/-- `ESC[2m ESC[22m x`: a faint text that is ended as ECMA-48 ends it -/
def faintEnded : JsText := [0x1B, 0x5B, 0x32, 0x6D, 0x1B, 0x5B, 0x32, 0x32, 0x6D, 0x78]

end Synapse.Markdown
