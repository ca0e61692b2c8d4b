import Synapse.Console.JavaScript

/-!
# Terminal output

The colours that a command printed are read from its escape sequences. The text between the sequences is
split into spans with the classes and colours in force.
-/

namespace Synapse.Markdown

open Console (JsText)

structure AnsiSpan where
  text : JsText
  className : JsText
  color : Option JsText
  backgroundColor : Option JsText
  deriving DecidableEq

/-- `FOREGROUND` -/
def foregroundClasses : List (ℕ × JsText) :=
  [(30, "text-gray-900"), (31, "text-red-600"), (32, "text-emerald-600"), (33, "text-amber-600"),
    (34, "text-blue-500"), (35, "text-fuchsia-600"), (36, "text-cyan-600"), (37, "text-gray-500"),
    (90, "text-gray-400"), (91, "text-red-400"), (92, "text-emerald-500"), (93, "text-amber-500"),
    (94, "text-blue-400"), (95, "text-fuchsia-500"), (96, "text-cyan-500"), (97, "text-gray-300")].map
      fun entry => (entry.1, .ofString entry.2)

/-- `BACKGROUND` -/
def backgroundClasses : List (ℕ × JsText) :=
  [(40, "bg-gray-900"), (41, "bg-red-600"), (42, "bg-emerald-600"), (43, "bg-amber-600"),
    (44, "bg-blue-600"), (45, "bg-fuchsia-600"), (46, "bg-cyan-600"), (47, "bg-gray-200"),
    (100, "bg-gray-800"), (101, "bg-red-500"), (102, "bg-emerald-500"), (103, "bg-amber-500"),
    (104, "bg-blue-500"), (105, "bg-fuchsia-500"), (106, "bg-cyan-500"), (107, "bg-gray-300")].map
      fun entry => (entry.1, .ofString entry.2)

/-! ### Colours -/

/-- `BASE_RGB` -/
def baseRgb : List JsText :=
  ["#000000", "#cd0000", "#00cd00", "#cdcd00", "#0000ee", "#cd00cd", "#00cdcd", "#e5e5e5",
    "#7f7f7f", "#ff0000", "#00ff00", "#ffff00", "#5c5cff", "#ff00ff", "#00ffff", "#ffffff"].map .ofString

def hexDigit (value : ℕ) : UInt16 := .ofNat (if value < 10 then 0x30 + value else 0x57 + value)

/-- `value.toString(16).padStart(2, '0')` -/
def hex (value : ℕ) : JsText :=
  let digits := if value = 0 then [0x30] else (Nat.digits 16 value).reverse.map hexDigit
  List.replicate (2 - digits.length) 0x30 ++ digits

/-- A level of the colour cube -/
def level (value : ℕ) : ℕ := if value = 0 then 0 else 55 + value * 40

/-- The `#` of a colour -/
def hash : UInt16 := 0x23

def rgbOf (index : ℕ) : JsText :=
  if index < 16 then baseRgb.getD index []
  else if index < 232 then
    let n := index - 16
    hash :: (hex (level (n / 36)) ++ hex (level (n % 36 / 6)) ++ hex (level (n % 6)))
  else
    let grey := 8 + (index - 232) * 10
    hash :: (hex grey ++ hex grey ++ hex grey)

/-- A true-colour value with clamped channels -/
def trueColour (red green blue : ℕ) : JsText :=
  hash :: (hex (max 0 (min 255 red)) ++ hex (max 0 (min 255 green)) ++ hex (max 0 (min 255 blue)))

/-! ### The state -/

structure AnsiState where
  attributes : List JsText
  foreground : Option JsText
  background : Option JsText
  deriving DecidableEq

namespace AnsiState

def reset : AnsiState := ⟨[], none, none⟩

def semibold : JsText := .ofString "font-semibold"
def opacity : JsText := .ofString "opacity-70"
def italic : JsText := .ofString "italic"
def underline : JsText := .ofString "underline"
def inverseBackground : JsText := .ofString "bg-gray-900"
def inverseText : JsText := .ofString "text-gray-100"

def push (classes : List JsText) (state : AnsiState) : AnsiState :=
  { state with attributes := state.attributes ++ classes }

def remove (classes : List JsText) (state : AnsiState) : AnsiState :=
  { state with attributes := state.attributes.filter fun name => name ∉ classes }

/-- The branches of `applySgr` for a parameter that stands alone -/
def applyCode (state : AnsiState) (code : ℕ) : AnsiState :=
  if code = 0 then reset
  else if code = 1 then state.push [semibold]
  else if code = 2 then state.push [opacity]
  else if code = 3 then state.push [italic]
  else if code = 4 then state.push [underline]
  else if code = 22 then state.remove [semibold]
  else if code = 23 then state.remove [italic]
  else if code = 24 then state.remove [underline]
  else if code = 7 then state.push [inverseBackground, inverseText]
  else if code = 27 then state.remove [inverseBackground, inverseText]
  else if code = 39 then { state with foreground := none }
  else if code = 49 then { state with background := none }
  else
    match foregroundClasses.lookup code, backgroundClasses.lookup code with
    | some name, _ => { state with foreground := some name }
    | none, some name => { state with background := some name }
    | none, none => state

def setColour (code : ℕ) (value : JsText) (state : AnsiState) : AnsiState :=
  if code = 38 then { state with foreground := some value } else { state with background := some value }

/-- The loop of `applySgr`, with the number of parameters that it skips -/
def applyFrom (state : AnsiState) : ℕ → List ℕ → AnsiState
  | _, [] => state
  | skip + 1, _ :: params => state.applyFrom skip params
  | 0, code :: params =>
    if code = 38 ∨ code = 48 then
      match params with
      | 5 :: index :: _ => (state.setColour code (rgbOf index)).applyFrom 2 params
      | 2 :: red :: green :: blue :: _ => (state.setColour code (trueColour red green blue)).applyFrom 4 params
      | _ => state.applyFrom 0 params
    else (state.applyCode code).applyFrom 0 params

def applySgr (state : AnsiState) (params : List ℕ) : AnsiState := state.applyFrom 0 params

/-- A value with a `#` is a colour, and one without it a class. -/
def isExplicit (value : JsText) : Bool := value.head? = some hash

def explicit (value : Option JsText) : Option JsText := value.filter isExplicit

def colour (value : Option JsText) : Option JsText := value.filter fun name => !isExplicit name

def classes (state : AnsiState) : List JsText :=
  state.attributes ++ (colour state.foreground).toList ++ (colour state.background).toList

def spanOf (text : JsText) (state : AnsiState) : AnsiSpan where
  text := text
  className := JsText.join [0x20] state.classes
  color := explicit state.foreground
  backgroundColor := explicit state.background

end AnsiState

/-! ### Escape sequences -/

def escape : UInt16 := 0x1B
def bracket : UInt16 := 0x5B
def closingBracket : UInt16 := 0x5D
def bell : UInt16 := 0x07
def backslash : UInt16 := 0x5C

def isDigit (unit : UInt16) : Bool := 0x30 ≤ unit ∧ unit ≤ 0x39

def isLetter (unit : UInt16) : Bool := 0x41 ≤ unit ∧ unit ≤ 0x5A ∨ 0x61 ≤ unit ∧ unit ≤ 0x7A

/-- `[0-9;?<>!]` -/
def isMarked (unit : UInt16) : Bool :=
  isDigit unit ∨ unit = 0x3B ∨ unit = 0x3F ∨ unit = 0x3C ∨ unit = 0x3E ∨ unit = 0x21

/-- `[^\u0007\u001b]` -/
def inTitle (unit : UInt16) : Bool := unit ≠ bell ∧ unit ≠ escape

/-- A match of `ESCAPE`: its length, and its parameters when its final letter is `m`. -/
structure Escape where
  length : ℕ
  params : Option JsText
  deriving DecidableEq

/-- The match of `ESCAPE` at the start of a text -/
def escapeAt : JsText → Option Escape
  | first :: second :: rest =>
    if first = escape ∧ second = bracket then
      match rest.dropWhile isMarked with
      | final :: _ =>
        if isLetter final then
          some ⟨(rest.takeWhile isMarked).length + 3,
            if final = 0x6D then some (rest.takeWhile isMarked) else none⟩
        else none
      | [] => none
    else if first = escape ∧ second = closingBracket then
      match rest.dropWhile inTitle with
      | [] => none
      | [final] => if final = bell then some ⟨(rest.takeWhile inTitle).length + 3, none⟩ else none
      | final :: after :: _ =>
        if final = bell then some ⟨(rest.takeWhile inTitle).length + 3, none⟩
        else if after = backslash then some ⟨(rest.takeWhile inTitle).length + 4, none⟩
        else none
    else none
  | _ => none

/-- `Number(part) || 0` of a part without a semicolon -/
def number (part : JsText) : ℕ :=
  if part.all isDigit then part.foldl (fun value digit => 10 * value + (digit.toNat - 0x30)) 0 else 0

/-- The parameters of a match; those of an empty text are `Number('')`. -/
def numbers (params : JsText) : List ℕ :=
  if params = [] then [0] else (params.splitOn 0x3B).map number

/-- A span of a text, unless it is empty -/
def flush (text : JsText) (state : AnsiState) : List AnsiSpan :=
  if text = [] then [] else [state.spanOf text]

/-- The loop of `parseAnsi`, with the part of a match that is left and the text since the last one -/
def scan : ℕ → AnsiState → JsText → JsText → List AnsiSpan
  | _, state, text, [] => flush text state
  | skip + 1, state, text, _ :: rest => scan skip state text rest
  | 0, state, text, unit :: rest =>
    match escapeAt (unit :: rest) with
    | some found => flush text state ++
        scan (found.length - 1) (found.params.elim state fun params => state.applySgr (numbers params)) [] rest
    | none => scan 0 state (text ++ [unit]) rest

def parseAnsi (text : JsText) : List AnsiSpan :=
  (scan 0 AnsiState.reset [] text).filter fun span => span.text ≠ []

end Synapse.Markdown
