import Synapse.Models.Settings

/-!
# Building the chat model

The credential and the endpoint of the chat model that the settings select. The login of the OpenAI
account and the health of the local proxy are given from outside.
-/

namespace Synapse.Models

/-- What the build asks of the integrations: the OAuth login, and whether the proxy is ready. -/
structure Integrations where
  accessToken : Option Text
  accountId : Option Text
  proxyReady : Bool

/-- A chat model, with the endpoint that its requests are meant for. A turbo proxy relays them. -/
structure ChatModel where
  model : Text
  apiKey : Option Text
  endpoint : Option Text
  oauth : Bool
  proxy : Option Text
  deriving DecidableEq

/-- What the build raises before it makes a model. -/
inductive BuildError where
  | unknownProfile
  | oauthNeedsOpenai
  | notLoggedIn
  | missingAccount
  deriving DecidableEq

/-- `OPENAI_CODEX_BASE_URL`. -/
def openaiCodexBaseUrl : Text := .ofString "https://chatgpt.com/backend-api/codex"

/-- `str(url).rstrip("/")`. -/
def trimSlashes (url : Text) : Text := url.rdropWhile (· = 0x2F)

/-- The base URL of a profile, or else a fallback. -/
def ModelProfile.endpoint (profile : ModelProfile) (fallback : Option Text) : Option Text :=
  (present ((present profile.baseUrl).or fallback)).map trimSlashes

/-- The model with its provider, which the profile may name apart. -/
def ModelProfile.modelName (profile : ModelProfile) : Text :=
  match present profile.provider with
  | some provider =>
    if colon ∈ profile.model then profile.model else provider ++ colon :: profile.model
  | none => profile.model

/-- `model_name.startswith(provider + ":")`. -/
def HasProvider (modelName : Text) (provider : String) : Prop :=
  Text.ofString provider ++ [colon] <+: modelName

instance (modelName : Text) (provider : String) : Decidable (HasProvider modelName provider) :=
  inferInstanceAs (Decidable (_ <+: _))

/-- `auth == "openai_oauth"`. -/
def ModelProfile.UsesOauth (profile : ModelProfile) : Prop :=
  profile.auth = some (.ofString "openai_oauth")

instance (profile : ModelProfile) : Decidable profile.UsesOauth :=
  inferInstanceAs (Decidable (_ = _))

/-- `settings_fallback_api_key`. -/
def settingsFallbackApiKey {Source : Type} (process : Process) (settings : Settings Source)
    (model : Text) : Option Text :=
  let provider := modelProvider process (if model = [] then settings.model else model)
  if provider = .ofString "anthropic" then settings.anthropicApiKey
  else if provider = .ofString "openai" then settings.openaiApiKey
  else (present settings.openaiApiKey).or settings.anthropicApiKey

/-- `_resolve_turbo_proxy_url`. -/
def resolveTurboProxyUrl (process : Process) (profile : ModelProfile) (fallback : Option Text) :
    Text :=
  ((present profile.turboBaseUrl).or ((present fallback).or
    (present (process.environ (.ofString "SYNAPSE_TURBO_PROXY_URL"))))).getD
      (.ofString "http://localhost:8787/v1")

/-- The turbo proxy of an OpenAI model that is not logged in with OAuth. -/
def turboProxy {Source : Type} (process : Process) (integrations : Integrations)
    (settings : Settings Source) (profile : ModelProfile) (endpoint : Option Text) : Option Text :=
  if (settings.turbo || profile.turbo) && endpoint.isSome && integrations.proxyReady then
    some (resolveTurboProxyUrl process profile settings.turboProxyUrl)
  else none

/-- The model that `build_chat_model` makes of a profile and the fallbacks of the settings. -/
def chatModelOf {Source : Type} (process : Process) (integrations : Integrations)
    (settings : Settings Source) (profile : ModelProfile) : Except BuildError ChatModel :=
  let modelName := profile.modelName
  let apiKey := present ((profile.resolvedApiKey process).or
    (settingsFallbackApiKey process settings profile.model))
  let endpoint := profile.endpoint settings.openaiBaseUrl
  if profile.UsesOauth then
    if ¬HasProvider modelName "openai" then .error .oauthNeedsOpenai
    else
      match integrations.accessToken, present integrations.accountId with
      | none, _ => .error .notLoggedIn
      | some _, none => .error .missingAccount
      -- The token is for the first-party backend only, whatever the profile and settings say.
      | some token, some _ => .ok ⟨modelName, some token, some openaiCodexBaseUrl, true, none⟩
  else if HasProvider modelName "openai" then
    .ok ⟨modelName, apiKey, endpoint, false,
      turboProxy process integrations settings profile endpoint⟩
  else if HasProvider modelName "anthropic" ∨ HasProvider modelName "google_genai" then
    .ok ⟨modelName, apiKey, endpoint, false, none⟩
  else .ok ⟨modelName, none, none, false, none⟩

/-- The profile that `build_model_from_settings` selects. -/
def selectedProfile {Source Workspace : Type} (host : Host Source Workspace)
    (settings : Settings Source) : Option ModelProfile :=
  let registry := registryFromSettings host settings
  registry.get (some ((present settings.activeModel).getD registry.default))

/-- `build_model_from_settings`. -/
def buildModelFromSettings {Source Workspace : Type} (host : Host Source Workspace)
    (integrations : Integrations) (settings : Settings Source) : Except BuildError ChatModel :=
  match selectedProfile host settings with
  | none => .error .unknownProfile
  | some profile => chatModelOf host.toProcess integrations settings profile

end Synapse.Models
