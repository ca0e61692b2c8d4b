import Synapse.Models.Registry

/-!
# Session settings

The fields of the settings that select a model, and the operations that move them: applying a
profile, a thinking level or a stored binding, and the resolution of one session's axes.
-/

namespace Synapse.Models

/-- The fields of `SESSION_AXIS_FIELDS`. -/
structure SessionAxes where
  activeModel : Option Text
  model : Text
  enableThinking : Bool
  reasoningEffort : Text
  parallelToolCalls : Bool
  openaiApiKey : Option Text
  anthropicApiKey : Option Text
  openaiBaseUrl : Option Text
  deriving DecidableEq

/-- The settings of a session; `Source` stands for the fields that locate its model files. -/
structure Settings (Source : Type) extends SessionAxes where
  turbo : Bool
  turboProxyUrl : Option Text
  source : Source

/-- The fields outside `SESSION_AXIS_FIELDS`. -/
def Settings.AgreeOutside {Source : Type} (first second : Settings Source) : Prop :=
  first.turbo = second.turbo ∧ first.turboProxyUrl = second.turboProxyUrl ∧
    first.source = second.source

/-- The process, the merged configuration of a source, and the project's own level. -/
structure Host (Source Workspace : Type) extends Process where
  loadMergedModelsRegistry : Source → Option Catalog
  readProjectThinkingDefault : Workspace → Option Text

variable {Source Workspace : Type}

/-! ## The registry of the settings -/

/-- The single profile of settings without model files. -/
def Settings.ownProfile (settings : Settings Source) : ModelProfile where
  name := settings.model
  model := settings.model
  apiKey := (present settings.openaiApiKey).or settings.anthropicApiKey
  baseUrl := settings.openaiBaseUrl
  enableThinking := some settings.enableThinking
  reasoningEffort := some settings.reasoningEffort
  parallelToolCalls := some settings.parallelToolCalls

/-- `registry_from_settings`. -/
def registryFromSettings (host : Host Source Workspace) (settings : Settings Source) :
    ModelRegistry :=
  match host.loadMergedModelsRegistry settings.source with
  | some catalog => catalog.select (catalog.selection settings.activeModel settings.model)
  | none => { profiles := [settings.ownProfile], default := settings.model }

/-! ## Profiles and levels -/

/-- The credentials of a profile replace both keys; the one it does not set is cleared. -/
def applyCredentials (process : Process) (profile : ModelProfile) (settings : Settings Source) :
    Settings Source :=
  match profile.resolvedApiKey process with
  | some key =>
    if modelProvider process profile.model = Text.ofString "anthropic" then
      { settings with anthropicApiKey := some key, openaiApiKey := none }
    else { settings with openaiApiKey := some key, anthropicApiKey := none }
  | none => { settings with openaiApiKey := none, anthropicApiKey := none }

/-- The thinking defaults of a profile, where it has them. -/
def seedThinking (profile : ModelProfile) (settings : Settings Source) : Settings Source :=
  { settings with
    enableThinking := profile.enableThinking.getD settings.enableThinking
    reasoningEffort := (present profile.reasoningEffort).getD settings.reasoningEffort
    parallelToolCalls := profile.parallelToolCalls.getD settings.parallelToolCalls }

/-- `apply_profile_to_settings`. -/
def applyProfileToSettings (process : Process) (settings : Settings Source)
    (profile : ModelProfile) (seed : Bool) : Settings Source :=
  let identified := { settings with
    activeModel := some profile.name
    model := profile.model
    openaiBaseUrl := (present profile.baseUrl).or settings.openaiBaseUrl }
  let credentialed := applyCredentials process profile identified
  if seed then seedThinking profile credentialed else credentialed

/-- What `apply_thinking_to_settings` raises. -/
inductive ThinkingError where
  | emptyLevel
  | unknownLevel (raw : Text)
  | notAllowed (level : Text) (catalog : List Text)
  deriving DecidableEq

def offAliases : List Text :=
  ["off", "false", "0", "disabled", "none", "no"].map .ofString

def levelAliases : List (Text × Text) :=
  [("min", "minimal"), ("minimal", "minimal"), ("low", "low"), ("medium", "medium"),
    ("med", "medium"), ("mid", "medium"), ("high", "high"), ("max", "max"), ("maximum", "max"),
    ("xhigh", "max"), ("ultra", "max"), ("highest", "max")].map
      fun (name, level) => (Text.ofString name, Text.ofString level)

/-- `normalize_thinking_level` of a string. -/
def normalizeThinkingLevel (process : Process) (value : Text) : Option Text :=
  let text := process.casefold value.strip
  if text = [] then none
  else if text ∈ offAliases then some (Text.ofString "off")
  else (levelAliases.lookup text).or (some value.strip)

/-- `apply_thinking_to_settings`. -/
def applyThinkingToSettings (process : Process) (settings : Settings Source) (raw : Text)
    (allowed : Option (List Text)) : Except ThinkingError (Settings Source) :=
  let text := raw.strip
  if text = [] then .error .emptyLevel
  else
    match (normalizeThinkingLevel process text).filter (· ≠ []) with
    | none => .error (.unknownLevel raw)
    | some level =>
      let catalog := allowed.getD defaultThinkingLevels
      if level ∉ catalog then .error (.notAllowed level catalog)
      else if level = Text.ofString "off" then .ok { settings with enableThinking := false }
      else .ok { settings with enableThinking := true, reasoningEffort := level }

/-! ## The project's level -/

def maxRuntimeConfigTextBytes : ℕ := 256

def maxRuntimeConfigThinkingLevels : ℕ := 32

/-- `_model_text`: nothing for a blank text; the outer `none` where it raises. -/
def modelText (value : Option Text) : Option (Option Text) :=
  match present (value.map .strip) with
  | none => some none
  | some text =>
    match text.utf8Size? with
    | none => none
    | some size => if size > maxRuntimeConfigTextBytes then none else some (some text)

/-- The first non-blank text; `none` where an earlier one raises. -/
def firstModelText : List (Option Text) → Option (Option Text)
  | [] => some none
  | value :: rest =>
    match modelText value with
    | none => none
    | some none => firstModelText rest
    | some (some text) => some (some text)

/-- `resolve_thinking_levels` without an explicit model; `none` where it raises. -/
def resolveThinkingLevels (host : Host Source Workspace) (settings : Settings Source) :
    Option (List Text) :=
  let registry := registryFromSettings host settings
  match firstModelText [settings.activeModel, some registry.default, some settings.model] with
  | none => none
  | some none => none
  | some (some target) =>
    let levels := registry.allowedThinkingLevels (some target)
    let allowed := if levels = [] then defaultThinkingLevels else levels
    if allowed.length > maxRuntimeConfigThinkingLevels then none
    else allowed.mapM fun level => (modelText (some level)).join

/-- `apply_project_layer_thinking`, where an error leaves the settings as they are. -/
def applyProjectLayerThinking (host : Host Source Workspace) (settings : Settings Source)
    (workspace : Workspace) : Settings Source :=
  match host.readProjectThinkingDefault workspace with
  | none => settings
  | some level =>
    match resolveThinkingLevels host settings with
    | none => settings
    | some allowed =>
      match applyThinkingToSettings host.toProcess settings level (some allowed) with
      | .ok next => next
      | .error _ => settings

/-! ## Bindings -/

/-- `ModelBinding`: what is stored with a session. -/
structure ModelBinding where
  activeModel : Option Text := none
  model : Option Text := none
  thinking : Option Text := none
  deriving DecidableEq

/-- The profile that a binding refers to: its alias first, then its concrete model. -/
def ModelBinding.profile (binding : ModelBinding) (registry : ModelRegistry) :
    Option ModelProfile :=
  ((present binding.activeModel).bind fun name => registry.get (some name)).or
    ((present binding.model).bind fun model => registry.get (some model))

/-- The identity that a binding gives to the settings. -/
def applyIdentity (host : Host Source Workspace) (settings : Settings Source)
    (binding : ModelBinding) : Settings Source :=
  match binding.profile (registryFromSettings host settings) with
  | some profile => applyProfileToSettings host.toProcess settings profile false
  | none =>
    match present binding.model with
    | some model =>
      { settings with
        model := model
        activeModel := (present settings.activeModel).or (some model) }
    | none => settings

/-- `apply_binding_to_settings`. -/
def applyBindingToSettings (host : Host Source Workspace) (settings : Settings Source)
    (binding : ModelBinding) : Settings Source :=
  let identified := applyIdentity host settings binding
  match present binding.thinking with
  | none => identified
  | some thinking =>
    match applyThinkingToSettings host.toProcess identified thinking none with
    | .ok next => next
    | .error _ => identified

/-! ## One session's axes -/

/-- `restore_session_axes` with a complete snapshot. -/
def restoreSessionAxes (settings : Settings Source) (snapshot : SessionAxes) : Settings Source :=
  { settings with toSessionAxes := snapshot }

/-- What `resolve_session_axes` is called with. -/
structure Resolution (Workspace : Type) where
  binding : ModelBinding
  baseline : Option SessionAxes
  workspace : Option Workspace

/-- `resolve_session_axes`: the settings it leaves. -/
def resolved (host : Host Source Workspace) (settings : Settings Source)
    (resolution : Resolution Workspace) : Settings Source :=
  let reset := match resolution.baseline with
    | some baseline => restoreSessionAxes settings baseline
    | none => settings
  let layered := match resolution.workspace with
    | some workspace => applyProjectLayerThinking host reset workspace
    | none => reset
  applyBindingToSettings host layered resolution.binding

/-- `resolve_session_axes`: whether the axes changed, and the settings it leaves. -/
def resolveSessionAxes (host : Host Source Workspace) (settings : Settings Source)
    (resolution : Resolution Workspace) : Bool × Settings Source :=
  let next := resolved host settings resolution
  (decide (next.toSessionAxes ≠ settings.toSessionAxes), next)

end Synapse.Models
