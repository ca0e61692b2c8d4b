import Synapse.Markdown.Ansi

/-!
# Control sequences

What ECMA-48 calls a control sequence, and the sequences that the reader of terminal output matches. The two
leave the same text only where they agree on every sequence: a sequence that only one of them takes weighs
differently in what the other one leaves.
-/

namespace Synapse.Markdown

open List
open Console (JsText)

/-! ### The parameters of a sequence -/

inductive Colour where
  | palette (index : ℕ)
  | rgb (red green blue : ℕ)
  deriving DecidableEq

/-- A parameter, or an extended colour with its operands. -/
inductive Sgr where
  | code (code : ℕ)
  | colour (background : Bool) (value : Colour)
  deriving DecidableEq

/-- The parameters of a list, with the number of operands that are left of the last one -/
def readSgr : ℕ → List ℕ → List Sgr
  | _, [] => []
  | skip + 1, _ :: params => readSgr skip params
  | 0, code :: params =>
    if code = 38 ∨ code = 48 then
      match params with
      | 5 :: index :: _ => .colour (code = 48) (.palette index) :: readSgr 2 params
      | 2 :: red :: green :: blue :: _ => .colour (code = 48) (.rgb red green blue) :: readSgr 4 params
      | _ => readSgr 0 params
    else .code code :: readSgr 0 params

/-! ### Sequences -/

def isParameter (unit : UInt16) : Bool := 0x30 ≤ unit ∧ unit ≤ 0x3F

def isIntermediate (unit : UInt16) : Bool := 0x20 ≤ unit ∧ unit ≤ 0x2F

def isFinal (unit : UInt16) : Bool := 0x40 ≤ unit ∧ unit ≤ 0x7E

/-- A CSI sequence of ECMA-48 -/
def IsCsi (text : JsText) : Prop :=
  ∃ params inter final, (∀ unit ∈ params, isParameter unit = true) ∧
    (∀ unit ∈ inter, isIntermediate unit = true) ∧ isFinal final = true ∧
      text = escape :: bracket :: (params ++ inter ++ [final])

/-- An OSC sequence that is ended -/
def IsOsc (text : JsText) : Prop :=
  ∃ body ending, (∀ unit ∈ body, inTitle unit = true) ∧ (ending = [bell] ∨ ending = [escape, backslash]) ∧
    text = escape :: closingBracket :: (body ++ ending)

/-- A CSI sequence that `ESCAPE` matches -/
def IsMatched (text : JsText) : Prop :=
  ∃ params final, (∀ unit ∈ params, isMarked unit = true) ∧ isLetter final = true ∧
    text = escape :: bracket :: (params ++ [final])

/-- The control sequence at the start of a text: its length, and its parameters when it selects a rendition -/
def sequenceAt : JsText → Option (ℕ × List Sgr)
  | first :: second :: rest =>
    if first = escape ∧ second = bracket then
      let params := rest.takeWhile isParameter
      let inter := (rest.dropWhile isParameter).takeWhile isIntermediate
      match (rest.dropWhile isParameter).dropWhile isIntermediate with
      | final :: _ =>
        if isFinal final then
          some (params.length + inter.length + 3,
            if final = 0x6D ∧ inter = [] ∧ params.all (fun unit => isDigit unit ∨ unit = 0x3B) then
              readSgr 0 (numbers params)
            else [])
        else none
      | [] => none
    else (escapeAt (first :: second :: rest)).map fun found => (found.length, [])
  | _ => none

/-- The match at the start of a text, with its parameters as they are read -/
def matchAt (text : JsText) : Option (ℕ × List Sgr) :=
  (escapeAt text).map fun found =>
    (found.length, found.params.elim [] fun params => readSgr 0 (numbers params))

/-- The units outside of the sequences, each with the parameters before it -/
def shown (find : JsText → Option (ℕ × List Sgr)) : ℕ → List Sgr → JsText → List (UInt16 × List Sgr)
  | _, _, [] => []
  | skip + 1, done, _ :: rest => shown find skip done rest
  | 0, done, unit :: rest =>
    match find (unit :: rest) with
    | some (length, params) => shown find (length - 1) (done ++ params) rest
    | none => (unit, done) :: shown find 0 done rest

section

variable {unit : UInt16} {text rest part : JsText}

theorem toNat_bounds {low high : UInt16} (bounded : low ≤ unit ∧ unit ≤ high) :
    low.toNat ≤ unit.toNat ∧ unit.toNat ≤ high.toNat :=
  ⟨UInt16.le_iff_toNat_le.1 bounded.1, UInt16.le_iff_toNat_le.1 bounded.2⟩

theorem parameter_bounds (known : isParameter unit = true) : 0x30 ≤ unit.toNat ∧ unit.toNat ≤ 0x3F :=
  toNat_bounds (of_decide_eq_true known)

theorem intermediate_bounds (known : isIntermediate unit = true) : 0x20 ≤ unit.toNat ∧ unit.toNat ≤ 0x2F :=
  toNat_bounds (of_decide_eq_true known)

theorem final_bounds (known : isFinal unit = true) : 0x40 ≤ unit.toNat ∧ unit.toNat ≤ 0x7E :=
  toNat_bounds (of_decide_eq_true known)

theorem digit_bounds (known : isDigit unit = true) : 0x30 ≤ unit.toNat ∧ unit.toNat ≤ 0x39 :=
  toNat_bounds (of_decide_eq_true known)

theorem letter_bounds (known : isLetter unit = true) :
    0x41 ≤ unit.toNat ∧ unit.toNat ≤ 0x5A ∨ 0x61 ≤ unit.toNat ∧ unit.toNat ≤ 0x7A := by
  rcases of_decide_eq_true known with upper | lower
  · exact Or.inl (toNat_bounds upper)
  · exact Or.inr (toNat_bounds lower)

theorem marked_bounds (known : isMarked unit = true) :
    0x30 ≤ unit.toNat ∧ unit.toNat ≤ 0x3F ∨ unit = 0x21 := by
  rcases of_decide_eq_true known with digit | rfl | rfl | rfl | rfl | rfl
  · have bounds := digit_bounds digit
    exact Or.inl ⟨bounds.1, by omega⟩
  · exact Or.inl (by decide)
  · exact Or.inl (by decide)
  · exact Or.inl (by decide)
  · exact Or.inl (by decide)
  · exact Or.inr rfl

/-- The units of the body of a sequence, and the final ones -/
def isBody (unit : UInt16) : Bool := 0x20 ≤ unit ∧ unit ≤ 0x3F

theorem body_of_bounds (low : 0x20 ≤ unit.toNat) (high : unit.toNat ≤ 0x3F) : isBody unit = true :=
  decide_eq_true ⟨UInt16.le_iff_toNat_le.2 low, UInt16.le_iff_toNat_le.2 high⟩

theorem body_bounds (known : isBody unit = true) : 0x20 ≤ unit.toNat ∧ unit.toNat ≤ 0x3F :=
  toNat_bounds (of_decide_eq_true known)

theorem body_of_parameter (known : isParameter unit = true) : isBody unit = true := by
  have bounds := parameter_bounds known
  exact body_of_bounds (by omega) bounds.2

theorem body_of_intermediate (known : isIntermediate unit = true) : isBody unit = true := by
  have bounds := intermediate_bounds known
  exact body_of_bounds bounds.1 (by omega)

theorem body_of_marked (known : isMarked unit = true) : isBody unit = true := by
  rcases marked_bounds known with bounds | rfl
  · exact body_of_bounds (by omega) bounds.2
  · decide

/-- A sequence with a body and a final unit, as both grammars have it -/
theorem IsCsi.shape (csi : IsCsi part) : ∃ body final, (∀ unit ∈ body, isBody unit = true) ∧
    isFinal final = true ∧ part = escape :: bracket :: (body ++ [final]) := by
  rcases csi with ⟨params, inter, final, parameters, intermediates, ends, rfl⟩
  refine ⟨params ++ inter, final, fun unit mem => ?_, ends, rfl⟩
  rcases mem_append.1 mem with first | second
  · exact body_of_parameter (parameters unit first)
  · exact body_of_intermediate (intermediates unit second)

theorem final_of_bounds (low : 0x40 ≤ unit.toNat) (high : unit.toNat ≤ 0x7E) : isFinal unit = true :=
  decide_eq_true ⟨UInt16.le_iff_toNat_le.2 low, UInt16.le_iff_toNat_le.2 high⟩

theorem final_of_letter (known : isLetter unit = true) : isFinal unit = true := by
  rcases letter_bounds known with upper | lower
  · exact final_of_bounds (by omega) (by omega)
  · exact final_of_bounds (by omega) (by omega)

theorem IsMatched.shape (matched : IsMatched part) : ∃ body final, (∀ unit ∈ body, isBody unit = true) ∧
    isFinal final = true ∧ part = escape :: bracket :: (body ++ [final]) := by
  rcases matched with ⟨params, final, marked, letter, rfl⟩
  exact ⟨params, final, fun unit mem => body_of_marked (marked unit mem), final_of_letter letter, rfl⟩

theorem not_body_of_final (known : isFinal unit = true) : isBody unit = false := by
  have bounds := final_bounds known
  refine Bool.eq_false_of_not_eq_true fun body => ?_
  have others := body_bounds body
  omega

/-! ### What is found at the start of a text -/

variable {property : UInt16 → Bool} {last : UInt16}

theorem takeWhile_cut {front : JsText}
    (all : ∀ unit ∈ front, property unit = true) (stops : property last = false) (rest : JsText) :
    (front ++ last :: rest).takeWhile property = front := by
  rw [takeWhile_append_of_pos all, takeWhile_cons_of_neg (Bool.not_eq_true _ ▸ stops), append_nil]

theorem dropWhile_cut {front : JsText}
    (all : ∀ unit ∈ front, property unit = true) (stops : property last = false) (rest : JsText) :
    (front ++ last :: rest).dropWhile property = last :: rest := by
  rw [dropWhile_append_of_pos all, dropWhile_cons_of_neg (Bool.not_eq_true _ ▸ stops)]

/-- What follows the longest front with a property starts without it. -/
theorem dropWhile_head (found : text.dropWhile property = last :: rest) :
    text = text.takeWhile property ++ last :: rest ∧ property last = false := by
  refine ⟨?_, ?_⟩
  · rw [← found, takeWhile_append_dropWhile]
  · have stops := head?_dropWhile_not property text
    rw [found] at stops
    simpa using stops

theorem bracket_ne : bracket ≠ closingBracket := by decide

theorem escapeAt_of_matched (matched : IsMatched part) (rest : JsText) :
    ∃ params, escapeAt (part ++ rest) = some ⟨part.length, params⟩ := by
  rcases matched with ⟨body, final, marked, letter, rfl⟩
  have stops : isMarked final = false := by
    refine Bool.eq_false_of_not_eq_true fun known => ?_
    have bounds := final_bounds (final_of_letter letter)
    rcases marked_bounds known with others | rfl
    · omega
    · exact absurd bounds.1 (by decide)
  have whole : (escape :: bracket :: (body ++ [final])) ++ rest =
      escape :: bracket :: (body ++ final :: rest) := by simp
  rw [whole, escapeAt, if_pos ⟨rfl, rfl⟩, dropWhile_cut marked stops, takeWhile_cut marked stops]
  dsimp only
  rw [if_pos letter]
  exact ⟨if final = 0x6D then some body else none, by simp⟩

theorem escapeAt_of_osc (osc : IsOsc part) (rest : JsText) :
    escapeAt (part ++ rest) = some ⟨part.length, none⟩ := by
  rcases osc with ⟨body, ending, inside, ends, rfl⟩
  have other : ¬ (escape = escape ∧ closingBracket = bracket) := fun both => bracket_ne both.2.symm
  rcases ends with rfl | rfl
  · have whole : (escape :: closingBracket :: (body ++ [bell])) ++ rest =
        escape :: closingBracket :: (body ++ bell :: rest) := by simp
    rw [whole, escapeAt, if_neg other, if_pos ⟨rfl, rfl⟩, dropWhile_cut inside (by decide),
      takeWhile_cut inside (by decide)]
    cases rest with
    | nil =>
      dsimp only
      rw [if_pos rfl]
      simp
    | cons unit rest =>
      dsimp only
      rw [if_pos rfl]
      simp
  · have whole : (escape :: closingBracket :: (body ++ [escape, backslash])) ++ rest =
        escape :: closingBracket :: (body ++ escape :: backslash :: rest) := by simp
    rw [whole, escapeAt, if_neg other, if_pos ⟨rfl, rfl⟩, dropWhile_cut inside (by decide),
      takeWhile_cut inside (by decide)]
    dsimp only
    rw [if_neg (by decide), if_pos rfl]
    simp

/-- A match is a CSI sequence that the expression knows, or an OSC sequence. -/
theorem escapeAt_cases {found : Escape} (matched : escapeAt text = some found) :
    ∃ part rest, text = part ++ rest ∧ part.length = found.length ∧
      (IsMatched part ∨ IsOsc part ∧ found.params = none) := by
  match text with
  | [] => cases matched
  | [_] => cases matched
  | first :: second :: rest =>
    rw [escapeAt] at matched
    split at matched
    · rename_i csi
      rcases csi with ⟨rfl, rfl⟩
      split at matched
      · rename_i final after stopped
        split at matched
        · rename_i letter
          cases matched
          have cut := dropWhile_head stopped
          refine ⟨escape :: bracket :: (rest.takeWhile isMarked ++ [final]), after, ?_, by simp, Or.inl
            ⟨_, final, fun unit mem => mem_takeWhile_imp mem, letter, rfl⟩⟩
          conv_lhs => rw [cut.1]
          simp
        · cases matched
      · cases matched
    · split at matched
      · rename_i osc
        rcases osc with ⟨rfl, rfl⟩
        have inside : ∀ unit ∈ rest.takeWhile inTitle, inTitle unit = true :=
          fun unit mem => mem_takeWhile_imp mem
        split at matched
        · cases matched
        · rename_i final stopped
          split at matched
          · rename_i ends
            cases matched
            have cut := dropWhile_head stopped
            refine ⟨escape :: closingBracket :: (rest.takeWhile inTitle ++ [bell]), [], ?_, by simp, Or.inr
              ⟨⟨_, [bell], inside, Or.inl rfl, rfl⟩, rfl⟩⟩
            conv_lhs => rw [cut.1, ends]
            simp
          · cases matched
        · rename_i final after more stopped
          have cut := dropWhile_head stopped
          split at matched
          · rename_i ends
            cases matched
            refine ⟨escape :: closingBracket :: (rest.takeWhile inTitle ++ [bell]), after :: more, ?_, by simp,
              Or.inr ⟨⟨_, [bell], inside, Or.inl rfl, rfl⟩, rfl⟩⟩
            conv_lhs => rw [cut.1, ends]
            simp
          · rename_i noBell
            rcases Option.ite_none_right_eq_some.mp matched with ⟨ends, ⟨⟩⟩
            have escaped : final = escape := by
              have stops := cut.2
              simp only [inTitle, ne_eq, decide_eq_false_iff_not, not_and, not_not] at stops
              exact stops noBell
            refine ⟨escape :: closingBracket :: (rest.takeWhile inTitle ++ [escape, backslash]), more, ?_,
              by simp, Or.inr ⟨⟨_, [escape, backslash], inside, Or.inr rfl, rfl⟩, rfl⟩⟩
            conv_lhs => rw [cut.1, ends, escaped]
            simp
      · cases matched

theorem sequenceAt_of_csi (csi : IsCsi part) (rest : JsText) :
    ∃ params, sequenceAt (part ++ rest) = some (part.length, params) := by
  rcases csi with ⟨params, inter, final, parameters, intermediates, ends, rfl⟩
  have bounds := final_bounds ends
  have noParameter : isParameter final = false :=
    Bool.eq_false_of_not_eq_true fun known => by have others := parameter_bounds known; omega
  have noIntermediate : isIntermediate final = false :=
    Bool.eq_false_of_not_eq_true fun known => by have others := intermediate_bounds known; omega
  have cut : (params ++ inter ++ final :: rest).takeWhile isParameter = params ∧
      (params ++ inter ++ final :: rest).dropWhile isParameter = inter ++ final :: rest := by
    cases inter with
    | nil =>
      rw [append_nil]
      exact ⟨takeWhile_cut parameters noParameter rest, dropWhile_cut parameters noParameter rest⟩
    | cons first inter =>
      have stops : isParameter first = false := Bool.eq_false_of_not_eq_true fun known => by
        have own := intermediate_bounds (intermediates first mem_cons_self)
        have others := parameter_bounds known
        omega
      rw [append_assoc, cons_append]
      exact ⟨takeWhile_cut parameters stops _, dropWhile_cut parameters stops _⟩
  have whole : (escape :: bracket :: (params ++ inter ++ [final])) ++ rest =
      escape :: bracket :: (params ++ inter ++ final :: rest) := by simp
  rw [whole, sequenceAt, if_pos ⟨rfl, rfl⟩]
  dsimp only
  rw [cut.1, cut.2, dropWhile_cut intermediates noIntermediate, takeWhile_cut intermediates noIntermediate]
  dsimp only
  rw [if_pos ends]
  have length : (escape :: bracket :: (params ++ inter ++ [final])).length =
      params.length + inter.length + 3 := by simp [Nat.add_assoc]
  rw [length]
  exact ⟨_, rfl⟩

theorem sequenceAt_of_osc (osc : IsOsc part) (rest : JsText) :
    sequenceAt (part ++ rest) = some (part.length, []) := by
  have found := escapeAt_of_osc osc rest
  rcases osc with ⟨body, ending, inside, ends, rfl⟩
  have other : ¬ (escape = escape ∧ closingBracket = bracket) := fun both => bracket_ne both.2.symm
  rw [cons_append, cons_append] at found ⊢
  rw [sequenceAt, if_neg other, found]
  rfl

theorem sequenceAt_cases {length : ℕ} {params : List Sgr} (found : sequenceAt text = some (length, params)) :
    ∃ part rest, text = part ++ rest ∧ part.length = length ∧ (IsCsi part ∨ IsOsc part) := by
  match text with
  | [] => cases found
  | [_] => cases found
  | first :: second :: rest =>
    rw [sequenceAt] at found
    split at found
    · rename_i csi
      rcases csi with ⟨rfl, rfl⟩
      dsimp only at found
      split at found
      · rename_i final after stopped
        rcases Option.ite_none_right_eq_some.mp found with ⟨ends, ⟨⟩⟩
        have cut := dropWhile_head stopped
        refine ⟨escape :: bracket :: (rest.takeWhile isParameter ++
          (rest.dropWhile isParameter).takeWhile isIntermediate ++ [final]), after, ?_, by simp [Nat.add_assoc], Or.inl
          ⟨_, _, final, fun unit mem => mem_takeWhile_imp mem,
            fun unit mem => mem_takeWhile_imp mem, ends, rfl⟩⟩
        conv_lhs => rw [← takeWhile_append_dropWhile (p := isParameter) (l := rest), cut.1]
        simp
      · cases found
    · rename_i noCsi
      rcases Option.map_eq_some_iff.1 found with ⟨matched, there, same⟩
      cases same
      rcases escapeAt_cases there with ⟨part, rest', whole, length, csi | ⟨osc, _⟩⟩
      · rcases csi with ⟨body, final, _, _, rfl⟩
        rw [cons_append, cons_append, cons.injEq, cons.injEq] at whole
        exact absurd ⟨whole.1, whole.2.1⟩ noCsi
      · exact ⟨part, rest', whole, length, Or.inr osc⟩

/-- The final unit is the first one after the bracket that is not of a body. -/
theorem length_of_shape {body : JsText} {final : UInt16} (inside : ∀ unit ∈ body, isBody unit = true)
    (ends : isFinal final = true) (rest : JsText) :
    ((body ++ [final] ++ rest).takeWhile isBody).length = body.length := by
  rw [append_assoc, singleton_append, takeWhile_cut inside (not_body_of_final ends)]

/-- At one place both grammars find sequences of the same length. -/
theorem same_length {other otherRest : JsText} (csi : IsCsi part ∨ IsMatched part)
    (also : IsCsi other ∨ IsMatched other) (same : part ++ rest = other ++ otherRest) :
    part = other := by
  have shape (part : JsText) (kind : IsCsi part ∨ IsMatched part) : ∃ body final,
      (∀ unit ∈ body, isBody unit = true) ∧ isFinal final = true ∧
        part = escape :: bracket :: (body ++ [final]) := by
    rcases kind with csi | matched
    · exact csi.shape
    · exact matched.shape
  rcases shape part csi with ⟨body, final, inside, ends, rfl⟩
  rcases shape other also with ⟨body', final', inside', ends', rfl⟩
  have tails : body ++ [final] ++ rest = body' ++ [final'] ++ otherRest := by simpa using same
  have lengths : body.length = body'.length := by
    rw [← length_of_shape inside ends rest, tails, length_of_shape inside' ends' otherRest]
  exact append_inj_left same (by simp [lengths])

/-! ### What is left of a text -/

/-- No sequence starts behind the first unit of one. -/
def Starts (text : JsText) : Prop := ∃ rest, text = escape :: bracket :: rest ∨ text = escape :: closingBracket :: rest

theorem starts_of_found {find : JsText → Option (ℕ × List Sgr)} (own : find = matchAt ∨ find = sequenceAt)
    (found : (find text).isSome = true) : Starts text := by
  rcases Option.isSome_iff_exists.1 found with ⟨⟨length, params⟩, some⟩
  rcases own with rfl | rfl
  · rcases Option.map_eq_some_iff.1 some with ⟨matched, there, _⟩
    rcases escapeAt_cases there with ⟨part, rest, rfl, _, ⟨body, final, _, _, rfl⟩ | ⟨⟨body, ending, _, _, rfl⟩, _⟩⟩
    · exact ⟨_, Or.inl rfl⟩
    · exact ⟨_, Or.inr rfl⟩
  · rcases sequenceAt_cases some with ⟨part, rest, rfl, _, ⟨params, inter, final, _, _, _, rfl⟩ | ⟨body, ending, _, _, rfl⟩⟩
    · exact ⟨_, Or.inl rfl⟩
    · exact ⟨_, Or.inr rfl⟩

/-- Only the ending of an OSC sequence has an escape, which a backslash follows. -/
theorem behind_escape {front before inside ending : JsText}
    (free : ∀ unit ∈ front, decide (unit ≠ escape) = true)
    (ends : ending = [bell] ∨ ending = [escape, backslash])
    (same : front ++ ending = before ++ escape :: inside) : inside = [backslash] := by
  have dropped := congrArg (List.dropWhile fun unit => decide (unit ≠ escape)) same
  have stops : (escape :: inside).dropWhile (fun unit => decide (unit ≠ escape)) = escape :: inside :=
    dropWhile_cons_of_neg (by decide)
  rw [dropWhile_append_of_pos free, dropWhile_append, stops] at dropped
  rcases ends with rfl | rfl
  · have nothing : [bell].dropWhile (fun unit => decide (unit ≠ escape)) = [] := by decide
    rw [nothing] at dropped
    split at dropped
    · cases dropped
    · exact absurd dropped.symm (by simp)
  · have whole : [escape, backslash].dropWhile (fun unit => decide (unit ≠ escape)) = [escape, backslash] := by
      decide
    rw [whole] at dropped
    split at dropped
    · exact (cons.inj dropped).2.symm
    · generalize before.dropWhile (fun unit => decide (unit ≠ escape)) = rest at *
      match rest with
      | [] => exact (cons.inj dropped).2.symm
      | [unit] => exact absurd (cons.inj (cons.inj dropped).2).1 (by decide)
      | _ :: _ :: _ => simp at dropped

/-- Behind the first unit of a sequence no other one starts. -/
theorem not_starts_inside (kind : IsCsi part ∨ IsMatched part ∨ IsOsc part) {before inside : JsText}
    (split : part = before ++ inside) (later : before ≠ []) (filled : inside ≠ []) (rest : JsText) :
    ¬ Starts (inside ++ rest) := by
  have plain (body : JsText) (final : UInt16) (all : ∀ unit ∈ body, isBody unit = true)
      (ends : isFinal final = true) (same : part = escape :: bracket :: (body ++ [final])) :
      ¬ Starts (inside ++ rest) := by
    have units : ∀ unit ∈ bracket :: (body ++ [final]), unit ≠ escape := by
      intro unit mem
      rcases mem_cons.1 mem with rfl | mem
      · decide
      · rcases mem_append.1 mem with own | last
        · have bounds := body_bounds (all unit own)
          rintro rfl
          exact absurd bounds.1 (by decide)
        · rw [mem_singleton.1 last]
          have bounds := final_bounds ends
          rintro rfl
          exact absurd bounds.1 (by decide)
    cases before with
    | nil => exact absurd rfl later
    | cons first before =>
      have tail : bracket :: (body ++ [final]) = before ++ inside := (cons.inj (same.symm.trans split)).2
      cases inside with
      | nil => exact absurd rfl filled
      | cons unit inside =>
        have other := units unit (tail ▸ mem_append_right before mem_cons_self)
        rintro ⟨more, start | start⟩
        · exact other (cons.inj start).1
        · exact other (cons.inj start).1
  rcases kind with csi | matched | osc
  · rcases csi.shape with ⟨body, final, all, ends, same⟩
    exact plain body final all ends same
  · rcases matched.shape with ⟨body, final, all, ends, same⟩
    exact plain body final all ends same
  · rcases osc with ⟨body, ending, all, ends, same⟩
    cases before with
    | nil => exact absurd rfl later
    | cons first before =>
      have tail : closingBracket :: (body ++ ending) = before ++ inside :=
        (cons.inj (same.symm.trans split)).2
      cases inside with
      | nil => exact absurd rfl filled
      | cons unit inside =>
        rintro ⟨more, start⟩
        have own : unit = escape := by
          rcases start with start | start
          · exact (cons.inj start).1
          · exact (cons.inj start).1
        rw [own, ← cons_append] at tail
        have free : ∀ unit ∈ closingBracket :: body, decide (unit ≠ escape) = true := by
          intro unit mem
          refine decide_eq_true ?_
          rcases mem_cons.1 mem with rfl | mem
          · decide
          · exact (of_decide_eq_true (all unit mem)).2
        have escaped := behind_escape free ends tail
        rw [escaped] at start
        rcases start with start | start
        · exact absurd (cons.inj (cons.inj start).2).1 (by decide)
        · exact absurd (cons.inj (cons.inj start).2).1 (by decide)

end

end Synapse.Markdown
