import Synapse.Python.Value

/-!
# Sizes of JSON texts

What can be written has an exact size, which adds up along the text: the parts of a list or an
object with the commas between them, and each member with its name.
-/

namespace Synapse

open List

namespace Text

theorem utf8Size?_append (front back : Text) :
    utf8Size? (front ++ back) =
      (utf8Size? front).bind fun size => (utf8Size? back).map fun others => size + others := by
  induction front with
  | nil =>
    have same : (fun others : ℕ => 0 + others) = id := funext Nat.zero_add
    change utf8Size? back = (utf8Size? back).map fun others => 0 + others
    rw [same, Option.map_id, id]
  | cons point rest ih =>
    rw [cons_append, utf8Size?_cons, utf8Size?_cons, ih]
    cases point.utf8Size? with
    | none => rfl
    | some first =>
      cases utf8Size? rest with
      | none => rfl
      | some second =>
        cases utf8Size? back with
        | none => rfl
        | some third => exact congrArg some (Nat.add_assoc first second third).symm

theorem append_encodes {front back : Text} :
    encodes (front ++ back) = true ↔ front.encodes = true ∧ back.encodes = true := by
  unfold encodes
  rw [utf8Size?_append]
  cases utf8Size? front with
  | none => simp
  | some size => simp

theorem size_append {front back : Text} (first : front.encodes = true)
    (second : back.encodes = true) : size (front ++ back) = front.size + back.size := by
  rcases Option.isSome_iff_exists.mp first with ⟨one, measured⟩
  rcases Option.isSome_iff_exists.mp second with ⟨other, bounded⟩
  simp [size, utf8Size?_append, measured, bounded]

theorem cons_encodes {point : CodePoint} {rest : Text} :
    encodes (point :: rest) = true ↔ encodes [point] = true ∧ rest.encodes = true :=
  @append_encodes [point] rest

theorem escape_encodes (point : CodePoint) : (escape point).encodes = encodes [point] := by
  have written : ∀ {text : Text}, point.val < 0x80 → text.encodes = true →
      text.encodes = encodes [point] := by
    intro text small whole
    have single : encodes [point] = true := by
      have first : point.utf8Size? = some 1 := by
        unfold CodePoint.utf8Size?
        exact if_pos small
      simp [encodes, utf8Size?, first]
    rw [whole, single]
  unfold escape
  split
  · exact written (by omega) (by decide)
  · split
    · exact written (by omega) (by decide)
    · split
      · exact written (by omega) (by decide)
      · split
        · exact written (by omega) (by decide)
        · split
          · exact written (by omega) (by decide)
          · split
            · exact written (by omega) (by decide)
            · split
              · exact written (by omega) (by decide)
              · split
                · rename_i control
                  refine written (by omega) ?_
                  have high := @hexDigit_encodes (point.val / 16) (by omega)
                  have low := @hexDigit_encodes (point.val % 16) (by omega)
                  refine append_encodes.mpr ⟨by decide, ?_⟩
                  simp [encodes, utf8Size?, high, low]
                · rfl

theorem quote_encodes {value : Text} : value.quote.encodes = true ↔ value.encodes = true := by
  have escaped : encodes (value.flatMap escape) = value.encodes := by
    induction value with
    | nil => rfl
    | cons point rest ih =>
      apply Bool.eq_iff_iff.mpr
      rw [flatMap_cons, append_encodes, cons_encodes, escape_encodes, ih]
  have mark : encodes (ofString "\"") = true := by decide
  unfold quote
  rw [append_encodes, append_encodes, escaped]
  simp [mark]

theorem joinComma_cons (part next : Text) (parts : List Text) :
    joinComma (part :: next :: parts) = part ++ ofString "," ++ joinComma (next :: parts) := rfl

theorem joinComma_encodes {parts : List Text} :
    (joinComma parts).encodes = true ↔ ∀ part ∈ parts, part.encodes = true := by
  induction parts with
  | nil => simp [joinComma, encodes, utf8Size?]
  | cons part parts ih =>
    cases parts with
    | nil => simp [joinComma]
    | cons next parts =>
      have comma : encodes (ofString ",") = true := by decide
      rw [joinComma_cons, append_encodes, append_encodes, ih, forall_mem_cons]
      simp [comma]

theorem size_joinComma {parts : List Text} (encode : ∀ part ∈ parts, part.encodes = true) :
    (joinComma parts).size = (parts.map size).sum + (parts.length - 1) := by
  induction parts with
  | nil => rfl
  | cons part parts ih =>
    have first := encode part mem_cons_self
    have rest := fun other present => encode other (mem_cons_of_mem part present)
    cases parts with
    | nil => simp [joinComma]
    | cons next parts =>
      have comma : encodes (ofString ",") = true := by decide
      have one : size (ofString ",") = 1 := by decide
      rw [joinComma_cons, size_append (append_encodes.mpr ⟨first, comma⟩)
        (joinComma_encodes.mpr rest), size_append first comma, ih rest, one]
      simp only [map_cons, sum_cons, length_cons]
      omega

end Text

variable {members : List (Text × Text)}

theorem dumpMembers_encodes :
    (dumpMembers false members).encodes = true ↔
      ∀ member ∈ members, (memberText member).encodes = true := by
  have opening : Text.encodes (Text.ofString "\x7b") = true := by decide
  have closing : Text.encodes (Text.ofString "\x7d") = true := by decide
  change (Text.ofString "\x7b" ++ Text.joinComma (members.map memberText) ++
    Text.ofString "\x7d").encodes = true ↔ _
  rw [Text.append_encodes, Text.append_encodes, Text.joinComma_encodes, forall_mem_map]
  simp [opening, closing]

theorem memberText_encodes {name text : Text} :
    (memberText (name, text)).encodes = true ↔ name.encodes = true ∧ text.encodes = true := by
  have colon : Text.encodes (Text.ofString ":") = true := by decide
  unfold memberText
  rw [Text.append_encodes, Text.append_encodes, Text.quote_encodes]
  simp [colon]

theorem size_memberText {name text : Text} (named : name.encodes = true)
    (encodes : text.encodes = true) :
    (memberText (name, text)).size = name.quote.size + 1 + text.size := by
  have colon : Text.encodes (Text.ofString ":") = true := by decide
  have quoted := Text.quote_encodes.mpr named
  have one : (Text.ofString ":").size = 1 := by decide
  unfold memberText
  rw [Text.size_append (Text.append_encodes.mpr ⟨quoted, colon⟩) encodes,
    Text.size_append quoted colon, one]

theorem size_dumpMembers (encode : ∀ member ∈ members, (memberText member).encodes = true) :
    (dumpMembers false members).size =
      (members.map fun member => (memberText member).size).sum + (members.length - 1) + 2 := by
  have opening : Text.encodes (Text.ofString "\x7b") = true := by decide
  have closing : Text.encodes (Text.ofString "\x7d") = true := by decide
  have parts : ∀ part ∈ members.map memberText, Text.encodes part = true := by
    intro part present
    rcases mem_map.mp present with ⟨member, inside, rfl⟩
    exact encode member inside
  have joined := Text.joinComma_encodes.mpr parts
  have measured := Text.size_joinComma parts
  rw [map_map, length_map] at measured
  have first : (Text.ofString "\x7b").size = 1 := by decide
  have last : (Text.ofString "\x7d").size = 1 := by decide
  change (Text.ofString "\x7b" ++ Text.joinComma (members.map memberText) ++
    Text.ofString "\x7d").size = _
  rw [Text.size_append (Text.append_encodes.mpr ⟨opening, joined⟩) closing,
    Text.size_append opening joined, measured, first, last]
  simp only [Function.comp_def]
  omega

end Synapse
