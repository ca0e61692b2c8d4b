import Synapse.Python.Text
import Synapse.Foundation.Separator

/-!
# The catalog of models

The profiles of the configured model endpoints, their credentials, and the lookup of a profile by
the name that a session selects. The environment and the case folding of Python's Unicode tables
are given from outside.
-/

namespace Synapse.Models

/-- What the interpreter process supplies. -/
structure Process where
  environ : Text → Option Text
  casefold : Text → Text

/-! ## Environment variables in configured strings -/

def isNameStart (point : CodePoint) : Bool :=
  let value := point.val
  (0x41 ≤ value && value ≤ 0x5A) || (0x61 ≤ value && value ≤ 0x7A) || value == 0x5F

def isNamePart (point : CodePoint) : Bool :=
  isNameStart point || (0x30 ≤ point.val && point.val ≤ 0x39)

/-- A variable name at the head of the text, with what follows it. -/
def variableName? : Text → Option (Text × Text)
  | [] => none
  | first :: rest =>
    if isNameStart first then
      some (first :: rest.takeWhile isNamePart, rest.dropWhile isNamePart)
    else none

/-- What the pattern matches after a dollar sign: a name in braces, or a bare name. -/
def reference? : Text → Option (Text × Text)
  | 0x7B :: inner =>
    match variableName? inner with
    | some (name, 0x7D :: rest) => some (name, rest)
    | _ => none
  | text => variableName? text

/-- Substitution from left to right; each step consumes a code point of the text. -/
def expandWithin (environ : Text → Option Text) : ℕ → Text → Text
  | 0, _ => []
  | _ + 1, [] => []
  | fuel + 1, point :: rest =>
    if point = 0x24 then
      match reference? rest with
      | some (name, after) => (environ name).getD [] ++ expandWithin environ fuel after
      | none => point :: expandWithin environ fuel rest
    else point :: expandWithin environ fuel rest

/-- `expand_env_string`: `${VAR}` and `$VAR` are replaced, and a missing variable is empty. -/
def expandEnvString (process : Process) (value : Text) : Text :=
  expandWithin process.environ value.length value

/-! ## Profiles -/

/-- `value or None` for an optional text. -/
def present (value : Option Text) : Option Text :=
  value.filter fun text => !text.isEmpty

/-- One named model endpoint, `ModelProfile`. -/
structure ModelProfile where
  name : Text
  model : Text
  apiKey : Option Text := none
  apiKeyEnv : Option Text := none
  auth : Option Text := none
  baseUrl : Option Text := none
  provider : Option Text := none
  enableThinking : Option Bool := none
  reasoningEffort : Option Text := none
  thinkingLevels : Option (List Text) := none
  parallelToolCalls : Option Bool := none
  turbo : Bool := false
  turboBaseUrl : Option Text := none
  deriving DecidableEq

/-- `resolved_api_key`. -/
def ModelProfile.resolvedApiKey (process : Process) (profile : ModelProfile) : Option Text :=
  match present profile.apiKey with
  | some key => present (some (expandEnvString process key))
  | none =>
    match present profile.apiKeyEnv with
    | some name => present (process.environ (expandEnvString process name))
    | none => none

def colon : CodePoint := 0x3A

/-- `text.split(":", 1)[1] if ":" in text else text`. -/
def afterColon (text : Text) : Text :=
  (afterFirst [colon] text).getD text

/-- `model_provider`: the provider before the first colon, or empty. -/
def modelProvider (process : Process) (model : Text) : Text :=
  let text := model.strip
  if colon ∈ text then process.casefold (Text.strip (text.takeWhile (· ≠ colon))) else []

/-- `short_model_id`. -/
def shortModelId (model : Text) : Text :=
  let text := afterColon model.strip
  if text = [] then .ofString "model" else text

/-- A profile for a `provider:model` that the configuration does not have. -/
def ModelProfile.adHoc (key : Text) : ModelProfile where
  name := key
  model := key

/-! ## The registry -/

def defaultThinkingLevels : List Text :=
  ["off", "minimal", "low", "medium", "high", "max"].map .ofString

/-- `ModelRegistry`: a profile is stored under its own name, in the order of insertion. -/
structure ModelRegistry where
  profiles : List ModelProfile
  default : Text
  thinkingLevels : List Text := defaultThinkingLevels

namespace ModelRegistry

/-- The selection key of `get`: the name, or the default, without the spaces around it. -/
def key (registry : ModelRegistry) (name : Option Text) : Text :=
  ((present name).getD registry.default).strip

/-- The profile stored under a name. -/
def named (registry : ModelRegistry) (name : Text) : Option ModelProfile :=
  registry.profiles.find? (·.name = name)

/-- The name that a session's active model, or else its concrete model, selects. -/
def selection (registry : ModelRegistry) (activeModel : Option Text) (model : Text) : Text :=
  let selected := (activeModel.getD []).strip
  if selected ≠ [] then selected
  else if (registry.named model.strip).isSome then model.strip else []

/-- The registry with a selection as its default, stored as a new profile when it is unknown. -/
def select (registry : ModelRegistry) (selected : Text) : ModelRegistry :=
  if selected = [] then registry
  else if (registry.named selected).isSome then { registry with default := selected }
  else if colon ∈ selected then
    { registry with profiles := registry.profiles ++ [.adHoc selected], default := selected }
  else registry

/-- The profiles that `get` tries after the name: an equal model, then an equal short id. -/
def matching (registry : ModelRegistry) (key : Text) : Option ModelProfile :=
  (registry.profiles.find? (·.model = key)).or
    (registry.profiles.find? (shortModelId ·.model = afterColon key))

/-- `get`; `none` where it raises `KeyError`. -/
def get (registry : ModelRegistry) (name : Option Text) : Option ModelProfile :=
  let key := registry.key name
  if key = [] then none
  else
    (registry.named key).or
      ((registry.matching key).or (if colon ∈ key then some (.adHoc key) else none))

/-- `allowed_thinking_levels`. -/
def allowedThinkingLevels (registry : ModelRegistry) (name : Option Text) : List Text :=
  let base :=
    if registry.thinkingLevels = [] then defaultThinkingLevels else registry.thinkingLevels
  match (registry.get name).bind (·.thinkingLevels) with
  | none => base
  | some [] => base
  | some levels =>
    let filtered := base.filter (· ∈ levels)
    if filtered = [] then levels else filtered

end ModelRegistry

/-- A registry as the configuration files give it: names are the keys of a mapping, and the loader
strips every model and raises where nothing is left of one. -/
structure Catalog extends ModelRegistry where
  distinct : (profiles.map (·.name)).Nodup
  stripped : ∀ profile ∈ profiles, profile.model.strip = profile.model
  modelled : ∀ profile ∈ profiles, profile.model ≠ []

end Synapse.Models
