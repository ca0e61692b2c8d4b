import Synapse.Models.SessionAxes
import Synapse.Models.ChatModel
import Synapse.Foundation.Machine

/-!
# Credentials and endpoints

A switch to a profile replaces both keys of the settings, and their base URL only when the profile
has one. The key of a profile without a base URL of its own therefore goes to the endpoint that an
earlier profile left.
-/

namespace Synapse.Models

variable {Source Workspace : Type} {host : Host Source Workspace}
  {settings start : Settings Source} {profile : ModelProfile} {binding : ModelBinding}

/-! ## Switches -/

/-- A switch of the model; a session is resolved without a baseline. -/
inductive Switch (Workspace : Type) where
  | profile (name : Option Text) (seedThinking : Bool)
  | binding (binding : ModelBinding)
  | session (binding : ModelBinding) (workspace : Option Workspace)

/-- The settings before the binding of a session. -/
def layered (host : Host Source Workspace) (settings : Settings Source)
    (workspace : Option Workspace) : Settings Source :=
  match workspace with
  | some workspace => applyProjectLayerThinking host settings workspace
  | none => settings

namespace Switch

/-- The profile that a switch applies. -/
def applies (host : Host Source Workspace) (settings : Settings Source) :
    Switch Workspace → Option ModelProfile
  | .profile name _ => (registryFromSettings host settings).get name
  | .binding stored => stored.profile (registryFromSettings host settings)
  | .session stored workspace =>
    stored.profile (registryFromSettings host (layered host settings workspace))

/-- The settings that a switch leaves; a lookup that fails leaves them as they are. -/
def apply (host : Host Source Workspace) (settings : Settings Source) :
    Switch Workspace → Settings Source
  | .profile name seed =>
    match (registryFromSettings host settings).get name with
    | some found => applyProfileToSettings host.toProcess settings found seed
    | none => settings
  | .binding stored => applyBindingToSettings host settings stored
  | .session stored workspace => resolved host settings ⟨stored, none, workspace⟩

end Switch

/-- Settings with the last profile whose credentials they hold. -/
structure Switching (Source : Type) where
  settings : Settings Source
  applied : Option ModelProfile

/-- Settings as they were loaded. -/
def Switching.loaded (settings : Settings Source) : Switching Source := ⟨settings, none⟩

def Switching.next (host : Host Source Workspace) (state : Switching Source)
    (switch : Switch Workspace) : Switching Source where
  settings := switch.apply host state.settings
  applied := (switch.applies host state.settings).or state.applied

/-- Every sequence of switches. -/
def Switching.machine (host : Host Source Workspace) :
    Machine (Switching Source) (Switch Workspace) where
  step state switch := some (state.next host switch)

/-! ## Whose key goes where -/

/-- The profile whose key the model of a selected profile uses: its own, or the one in the
settings. -/
def Switching.owner (process : Process) (state : Switching Source) (selected : ModelProfile) :
    Option ModelProfile :=
  if (selected.resolvedApiKey process).isSome then some selected else state.applied

/-- A key goes to the base URL of its profile, or, where that has none, to the one that the
settings had before any profile. -/
def Switching.Separate (host : Host Source Workspace) (integrations : Integrations)
    (start : Settings Source) (state : Switching Source) : Prop :=
  ∀ selected chat owner, selectedProfile host state.settings = some selected →
    buildModelFromSettings host integrations state.settings = .ok chat →
    chat.oauth = false → chat.apiKey ≠ none → state.owner host.toProcess selected = some owner →
      chat.endpoint = owner.endpoint start.openaiBaseUrl

/-- The model of a profile is built with the keys of the profile or the settings. -/
def ModelProfile.Keyed (profile : ModelProfile) : Prop :=
  ¬profile.UsesOauth ∧ (HasProvider profile.modelName "openai" ∨
    HasProvider profile.modelName "anthropic" ∨ HasProvider profile.modelName "google_genai")

/-- A profile that its own name selects, or nothing else: the name is not empty, and leads to no
other profile. -/
def Catalog.Selects (catalog : Catalog) (profile : ModelProfile) : Prop :=
  profile.name ≠ [] ∧
    ∀ found, (catalog.select profile.name.strip).get (some profile.name) = some found →
      found = profile

/-- A switch under which keys stay with their endpoints: a profile that brings a key of its own
brings a base URL too, or finds the one from before any profile. -/
def Switch.Keeps (host : Host Source Workspace) (start : Settings Source)
    (state : Switching Source) (switch : Switch Workspace) : Prop :=
  ∀ catalog, host.loadMergedModelsRegistry start.source = some catalog →
    ∀ profile, switch.applies host state.settings = some profile →
      catalog.Selects profile ∧
        (profile.Keyed → (profile.resolvedApiKey host.toProcess).isSome →
          present profile.baseUrl ≠ none ∨
            state.settings.openaiBaseUrl = start.openaiBaseUrl)

/-! ## What a switch does -/

/-- The settings after a profile was applied. -/
structure Applied (process : Process) (before after : Settings Source) (profile : ModelProfile) :
    Prop where
  activeModel : after.activeModel = some profile.name
  baseUrl : after.openaiBaseUrl = (present profile.baseUrl).or before.openaiBaseUrl
  cleared : profile.resolvedApiKey process = none →
    after.openaiApiKey = none ∧ after.anthropicApiKey = none
  source : after.source = before.source

/-- The settings after a switch that found no profile. -/
structure Kept (before after : Settings Source) : Prop where
  activeModel : ∀ active, present before.activeModel = some active →
    after.activeModel = some active
  baseUrl : after.openaiBaseUrl = before.openaiBaseUrl
  openaiApiKey : after.openaiApiKey = before.openaiApiKey
  anthropicApiKey : after.anthropicApiKey = before.anthropicApiKey
  source : after.source = before.source

theorem Kept.refl (settings : Settings Source) : Kept settings settings :=
  ⟨fun _ kept => (present_eq_some kept).1, rfl, rfl, rfl, rfl⟩

theorem applied_applyProfile (process : Process) (settings : Settings Source)
    (profile : ModelProfile) (seed : Bool) :
    Applied process settings (applyProfileToSettings process settings profile seed) profile := by
  have credentials : Applied process settings
      (applyCredentials process profile { settings with
        activeModel := some profile.name
        model := profile.model
        openaiBaseUrl := (present profile.baseUrl).or settings.openaiBaseUrl }) profile := by
    unfold applyCredentials
    split
    case h_1 key resolved =>
        have keyed : profile.resolvedApiKey process ≠ none := by
          rw [resolved]
          exact Option.some_ne_none key
        split
        · exact ⟨rfl, rfl, fun missing => absurd missing keyed, rfl⟩
        · exact ⟨rfl, rfl, fun missing => absurd missing keyed, rfl⟩
    case h_2 => exact ⟨rfl, rfl, fun _ => ⟨rfl, rfl⟩, rfl⟩
  cases seed with
  | false => exact credentials
  | true => exact ⟨credentials.activeModel, credentials.baseUrl, credentials.cleared,
      credentials.source⟩

/-- A binding applies the profile it refers to, or keeps the keys and the base URL. -/
theorem applyBinding_cases (host : Host Source Workspace) (settings : Settings Source)
    (binding : ModelBinding) :
    (∃ profile, binding.profile (registryFromSettings host settings) = some profile ∧
        Applied host.toProcess settings (applyBindingToSettings host settings binding) profile) ∨
      binding.profile (registryFromSettings host settings) = none ∧
        Kept settings (applyBindingToSettings host settings binding) := by
  rcases applyBindingToSettings_eq host settings binding with ⟨enabled, effort, bound⟩
  rw [bound]
  unfold applyIdentity
  cases found : binding.profile (registryFromSettings host settings) with
  | some profile =>
    have applied := applied_applyProfile host.toProcess settings profile false
    exact .inl ⟨profile, rfl, applied.activeModel, applied.baseUrl, applied.cleared,
      applied.source⟩
  | none =>
    refine .inr ⟨rfl, ?_⟩
    cases present binding.model with
    | none =>
      have kept := Kept.refl settings
      exact ⟨kept.activeModel, rfl, rfl, rfl, rfl⟩
    | some model =>
      refine ⟨?_, rfl, rfl, rfl, rfl⟩
      intro active kept
      dsimp only
      rw [kept, Option.some_or]

theorem layered_eq (host : Host Source Workspace) (settings : Settings Source)
    (workspace : Option Workspace) :
    ∃ enabled effort, layered host settings workspace = settings.levelled enabled effort := by
  cases workspace with
  | none => exact ⟨settings.enableThinking, settings.reasoningEffort, rfl⟩
  | some workspace => exact applyProjectLayerThinking_eq host settings workspace

/-- Every switch applies a profile or keeps what belongs to the last one. -/
theorem switch_cases (host : Host Source Workspace) (settings : Settings Source)
    (switch : Switch Workspace) :
    (∃ profile, switch.applies host settings = some profile ∧
        Applied host.toProcess settings (switch.apply host settings) profile) ∨
      switch.applies host settings = none ∧ Kept settings (switch.apply host settings) := by
  cases switch with
  | profile name seed =>
    dsimp only [Switch.applies, Switch.apply]
    cases (registryFromSettings host settings).get name with
    | some profile => exact .inl ⟨profile, rfl, applied_applyProfile _ _ _ _⟩
    | none => exact .inr ⟨rfl, Kept.refl settings⟩
  | binding stored => exact applyBinding_cases host settings stored
  | session stored workspace =>
    rcases layered_eq host settings workspace with ⟨enabled, effort, levelled⟩
    have bound := applyBinding_cases host (layered host settings workspace) stored
    rw [levelled] at bound
    dsimp only [Switch.applies, Switch.apply]
    rw [levelled, show resolved host settings ⟨stored, none, workspace⟩ =
      applyBindingToSettings host (layered host settings workspace) stored from rfl, levelled]
    rcases bound with ⟨profile, found, applied⟩ | ⟨missing, kept⟩
    · exact .inl ⟨profile, found, applied.activeModel, applied.baseUrl, applied.cleared,
        applied.source⟩
    · exact .inr ⟨missing, kept.activeModel, kept.baseUrl, kept.openaiApiKey,
        kept.anthropicApiKey, kept.source⟩

/-! ## The built model -/

variable {process : Process}

/-- A model that is built with a key, other than the OAuth token, goes to the endpoint of its
profile or of the settings. -/
theorem chatModelOf_ok {integrations : Integrations} {chat : ChatModel}
    (built : chatModelOf process integrations settings profile = .ok chat)
    (oauth : chat.oauth = false) (key : chat.apiKey ≠ none) :
    profile.Keyed ∧ chat.endpoint = profile.endpoint settings.openaiBaseUrl ∧
      chat.apiKey = present ((profile.resolvedApiKey process).or
        (settingsFallbackApiKey process settings profile.model)) := by
  unfold chatModelOf at built
  dsimp only at built
  split at built
  · split at built
    · cases built
    · split at built
      · cases built
      · cases built
      · cases built
        cases oauth
  case isFalse plain =>
      split at built
      case isTrue openai =>
          cases built
          exact ⟨⟨plain, .inl openai⟩, rfl, rfl⟩
      case isFalse =>
          split at built
          case isTrue other =>
              cases built
              exact ⟨⟨plain, .inr other⟩, rfl, rfl⟩
          case isFalse =>
              cases built
              exact absurd rfl key

theorem settingsFallbackApiKey_eq_none {model : Text}
    (openai : settings.openaiApiKey = none) (anthropic : settings.anthropicApiKey = none) :
    settingsFallbackApiKey process settings model = none := by
  unfold settingsFallbackApiKey
  dsimp only
  rw [openai, anthropic, present_none, Option.none_or, ite_self, ite_self]

variable {base : Option Text}

theorem endpoint_of_own
    (own : profile.baseUrl = base ∨ profile.baseUrl = none) :
    profile.endpoint base = (present base).map trimSlashes := by
  unfold ModelProfile.endpoint
  rcases own with own | own
  · rw [own]
    cases kept : present base with
    | none => rw [Option.none_or, kept]
    | some url =>
      rw [Option.some_or, present_some_of_ne_nil (present_eq_some kept).2]
  · rw [own, present_none, Option.none_or]

/-- Without model files a lookup returns the settings' own endpoint, or none. -/
theorem baseUrl_of_none {name : Option Text}
    (loaded : host.loadMergedModelsRegistry settings.source = none)
    (found : (registryFromSettings host settings).get name = some profile) :
    profile.baseUrl = settings.openaiBaseUrl ∨ profile.baseUrl = none := by
  have registry : registryFromSettings host settings = settings.ownRegistry :=
    registry_of_none loaded
  rw [registry] at found
  have nonempty := (ModelRegistry.get_eq_some_iff.1 found).1
  by_cases answers : Answers settings.model (settings.ownRegistry.key name)
  · rw [get_ownRegistry_of_answers nonempty answers] at found
    cases found
    exact .inl rfl
  · rw [get_ownRegistry_of_not_answers nonempty answers] at found
    rcases of_guard found with ⟨_, rfl⟩
    exact .inr rfl

/-! ## Runs of switches -/

/-- What the settings hold of the last profile, and of the start. -/
structure Sound (host : Host Source Workspace) (start : Settings Source)
    (state : Switching Source) : Prop where
  source : state.settings.source = start.source
  untouched : state.applied = none → state.settings.openaiBaseUrl = start.openaiBaseUrl
  cleared : ∀ profile, state.applied = some profile →
    profile.resolvedApiKey host.toProcess = none →
      state.settings.openaiApiKey = none ∧ state.settings.anthropicApiKey = none
  configured : ∀ catalog, host.loadMergedModelsRegistry start.source = some catalog →
    ∀ profile, state.applied = some profile →
      state.settings.activeModel = some profile.name ∧ catalog.Selects profile ∧
        (profile.Keyed → (profile.resolvedApiKey host.toProcess).isSome →
          profile.endpoint state.settings.openaiBaseUrl = profile.endpoint start.openaiBaseUrl)
  single : host.loadMergedModelsRegistry start.source = none →
    state.settings.openaiBaseUrl = start.openaiBaseUrl ∧
      ∀ profile, state.applied = some profile →
        profile.baseUrl = start.openaiBaseUrl ∨ profile.baseUrl = none

theorem sound_loaded (host : Host Source Workspace) (start : Settings Source) :
    Sound host start (.loaded start) := by
  refine ⟨rfl, fun _ => rfl, ?_, ?_, fun _ => ⟨rfl, ?_⟩⟩
  · rintro profile ⟨⟩
  · rintro catalog loaded profile ⟨⟩
  · rintro profile ⟨⟩

/-- The base URL of a profile stands over any base URL of the settings. -/
theorem endpoint_congr {first second : Option Text}
    (own : present profile.baseUrl ≠ none ∨ first = second) :
    profile.endpoint first = profile.endpoint second := by
  rcases own with own | rfl
  · rcases Option.ne_none_iff_exists'.1 own with ⟨url, own⟩
    unfold ModelProfile.endpoint
    rw [own, Option.some_or, Option.some_or]
  · rfl

/-- A profile's own base URL is the endpoint whether or not the settings took it. -/
theorem endpoint_applied :
    profile.endpoint ((present profile.baseUrl).or base) = profile.endpoint base := by
  cases own : present profile.baseUrl with
  | none => rw [Option.none_or]
  | some url => exact endpoint_congr (.inl (own ▸ Option.some_ne_none url))

theorem applies_get (host : Host Source Workspace) (settings : Settings Source)
    (switch : Switch Workspace) (applied : switch.applies host settings = some profile) :
    ∃ (looked : Settings Source) (name : Option Text),
      (registryFromSettings host looked).get name = some profile ∧
        looked.source = settings.source ∧ looked.openaiBaseUrl = settings.openaiBaseUrl := by
  cases switch with
  | profile name seed => exact ⟨settings, name, applied, rfl, rfl⟩
  | binding stored =>
    rcases get_of_profile applied with ⟨name, found⟩
    exact ⟨settings, name, found, rfl, rfl⟩
  | session stored workspace =>
    rcases get_of_profile applied with ⟨name, found⟩
    rcases layered_eq host settings workspace with ⟨enabled, effort, levelled⟩
    rw [levelled] at found
    exact ⟨settings.levelled enabled effort, name, found, rfl, rfl⟩

variable {state : Switching Source}

theorem Sound.next (sound : Sound host start state)
    (switch : Switch Workspace) (keeps : switch.Keeps host start state) :
    Sound host start (state.next host switch) := by
  rcases switch_cases host state.settings switch with ⟨profile, applies, applied⟩ | ⟨missing, kept⟩
  · have last : (state.next host switch).applied = some profile := by
      rw [Switching.next, applies, Option.some_or]
    refine ⟨applied.source.trans sound.source, ?_, ?_, ?_, ?_⟩
    · intro untouched
      rw [last] at untouched
      cases untouched
    · intro other same unkeyed
      rw [last] at same
      cases same
      exact applied.cleared unkeyed
    · intro catalog loaded other same
      rw [last] at same
      cases same
      rcases keeps catalog loaded profile applies with ⟨selects, safe⟩
      refine ⟨applied.activeModel, selects, fun keyed resolved => ?_⟩
      calc
        _ = profile.endpoint ((present profile.baseUrl).or state.settings.openaiBaseUrl) :=
          congrArg profile.endpoint applied.baseUrl
        _ = profile.endpoint state.settings.openaiBaseUrl := endpoint_applied
        _ = profile.endpoint start.openaiBaseUrl := endpoint_congr (safe keyed resolved)
    · intro loaded
      rcases applies_get host state.settings switch applies with ⟨looked, name, found, source, base⟩
      have unmoved := (sound.single loaded).1
      have own := baseUrl_of_none (source.trans sound.source ▸ loaded) found
      rw [base, unmoved] at own
      constructor
      · rw [show (state.next host switch).settings.openaiBaseUrl = _ from applied.baseUrl, unmoved]
        rcases own with own | own
        · rw [own]
          cases kept : present start.openaiBaseUrl with
          | none => rw [Option.none_or]
          | some url => rw [Option.some_or, (present_eq_some kept).1]
        · rw [own, present_none, Option.none_or]
      · intro other same
        rw [last] at same
        cases same
        exact own
  · have last : (state.next host switch).applied = state.applied := by
      rw [Switching.next, missing, Option.none_or]
    have base : (state.next host switch).settings.openaiBaseUrl = state.settings.openaiBaseUrl :=
      kept.baseUrl
    refine ⟨kept.source.trans sound.source, ?_, ?_, ?_, ?_⟩
    · rw [last, base]
      exact sound.untouched
    · intro profile same unkeyed
      rw [last] at same
      rcases sound.cleared profile same unkeyed with ⟨openai, anthropic⟩
      exact ⟨kept.openaiApiKey.trans openai, kept.anthropicApiKey.trans anthropic⟩
    · intro catalog loaded profile same
      rw [last] at same
      rcases sound.configured catalog loaded profile same with ⟨active, selects, safe⟩
      rw [base]
      refine ⟨kept.activeModel profile.name ?_, selects, safe⟩
      rw [active]
      exact present_some_of_ne_nil selects.1
    · rw [last, base]
      exact sound.single

/-- What the settings hold of the last profile keeps its key from other endpoints. -/
theorem Sound.separate (sound : Sound host start state)
    (integrations : Integrations) : state.Separate host integrations start := by
  intro selected chat owner found built oauth key owned
  rw [buildModelFromSettings, found] at built
  rcases chatModelOf_ok built oauth key with ⟨keyed, endpoint, used⟩
  rw [endpoint]
  -- A key that is not the selected profile's own is the one of the last profile.
  have fallback (unkeyed : selected.resolvedApiKey host.toProcess = none) :
      ∀ last, state.applied = some last → last.resolvedApiKey host.toProcess ≠ none := by
    intro last applied missing
    rcases sound.cleared last applied missing with ⟨openai, anthropic⟩
    rw [unkeyed, settingsFallbackApiKey_eq_none openai anthropic] at used
    exact key used
  cases loaded : host.loadMergedModelsRegistry start.source with
  | some catalog =>
    cases applied : state.applied with
    | none =>
      rw [Switching.owner, applied] at owned
      rcases of_guard owned with ⟨_, rfl⟩
      rw [sound.untouched applied]
    | some last =>
      rcases sound.configured catalog loaded last applied with ⟨active, ⟨named, only⟩, safe⟩
      have same : selected = last := by
        have configured : registryFromSettings host state.settings =
            catalog.select (catalog.selection (some last.name) state.settings.model) := by
          rw [registry_of_catalog (sound.source.symm ▸ loaded), active]
        rw [selectedProfile, active, present_some_of_ne_nil named, Option.getD_some,
          configured] at found
        have remains : last.name.strip ≠ [] := by
          have nonempty := (ModelRegistry.get_eq_some_iff.1 found).1
          rw [ModelRegistry.key_of_ne_nil named] at nonempty
          exact nonempty
        rw [ModelRegistry.selection, Option.getD_some, if_pos remains] at found
        exact only selected found
      subst same
      rw [Switching.owner, applied, ite_self] at owned
      cases owned
      cases resolved : selected.resolvedApiKey host.toProcess with
      | some own => exact safe keyed (by rw [resolved]; rfl)
      | none => exact absurd resolved (fallback resolved selected applied)
  | none =>
    rcases sound.single loaded with ⟨unmoved, single⟩
    have own := baseUrl_of_none (sound.source.symm ▸ loaded) found
    rw [unmoved] at own ⊢
    rw [Switching.owner] at owned
    split at owned
    · cases owned
      rfl
    · rw [endpoint_of_own own, endpoint_of_own (single owner owned)]

/-! ## Providers -/

/-- A profile that is not of another provider than a selection key. -/
def SameProvider (process : Process) (key : Text) (profile : ModelProfile) : Prop :=
  modelProvider process profile.modelName = [] ∨
    modelProvider process profile.modelName = modelProvider process key

instance (process : Process) (key : Text) (profile : ModelProfile) :
    Decidable (SameProvider process key profile) :=
  inferInstanceAs (Decidable (_ ∨ _))

/-- A profile named by the key has its provider, and otherwise so has the first one with its short
id, unless some profile has the very model. -/
def KeepsProvider (process : Process) (registry : ModelRegistry) (key : Text) : Prop :=
  match registry.named key.strip with
  | some profile => SameProvider process key profile
  | none =>
    (∃ profile ∈ registry.profiles, profile.model = key.strip) ∨
      ∀ profile, registry.profiles.find? (shortModelId ·.model = afterColon key.strip) =
        some profile → SameProvider process key profile

theorem mem_strip {point : CodePoint} {text : Text} (member : point ∈ text)
    (solid : point.isSpace = false) : point ∈ text.strip := by
  have front : point ∈ text.dropWhile CodePoint.isSpace := by
    rw [← List.takeWhile_append_dropWhile (p := CodePoint.isSpace) (l := text),
      List.mem_append] at member
    refine member.resolve_left fun spaces => ?_
    rw [List.mem_takeWhile_imp spaces] at solid
    cases solid
  rw [← List.rdropWhile_append_rtakeWhile (p := CodePoint.isSpace)
    (l := text.dropWhile CodePoint.isSpace), List.mem_append] at front
  refine front.resolve_right fun spaces => ?_
  rw [List.mem_rtakeWhile_imp spaces] at solid
  cases solid

theorem modelProvider_strip (process : Process) (text : Text) :
    modelProvider process text.strip = modelProvider process text := by
  unfold modelProvider
  rw [Text.strip_strip]

theorem sameProvider_of_model {key : Text} (prefixed : colon ∈ key.strip)
    (model : profile.model = key.strip) : SameProvider process key profile := by
  have name : profile.modelName = key.strip := by
    unfold ModelProfile.modelName
    split
    · rw [model, if_pos prefixed]
    · exact model
  right
  rw [name, modelProvider_strip]

theorem same_provider_iff (process : Process) (registry : ModelRegistry) {key : Text}
    (prefixed : colon ∈ key) :
    (∀ profile, registry.get (some key) = some profile → SameProvider process key profile) ↔
      KeepsProvider process registry key := by
  have inside : colon ∈ key.strip := mem_strip prefixed (by decide)
  have looked : registry.key (some key) = key.strip :=
    ModelRegistry.key_of_ne_nil (List.ne_nil_of_mem prefixed)
  have get : registry.get (some key) = (registry.named key.strip).or
      ((registry.matching key.strip).or (some (.adHoc key.strip))) := by
    rw [ModelRegistry.get, looked, if_neg (List.ne_nil_of_mem inside), if_pos inside]
  have adHoc : SameProvider process key (.adHoc key.strip) := sameProvider_of_model inside rfl
  unfold KeepsProvider
  rw [get]
  cases named : registry.named key.strip with
  | some profile =>
    rw [Option.some_or]
    exact ⟨fun all => all profile rfl, fun same _ found => Option.some.inj found ▸ same⟩
  | none =>
    rw [Option.none_or, ModelRegistry.matching]
    cases exact : registry.profiles.find? (·.model = key.strip) with
    | some profile =>
      have model : profile.model = key.strip := by simpa using List.find?_some exact
      rw [Option.some_or, Option.some_or]
      refine iff_of_true ?_ (.inl ⟨profile, List.mem_of_find?_eq_some exact, model⟩)
      intro other found
      cases found
      exact sameProvider_of_model inside model
    | none =>
      have absent : ¬∃ profile ∈ registry.profiles, profile.model = key.strip := by
        rintro ⟨profile, member, model⟩
        exact List.find?_eq_none.1 exact profile member (decide_eq_true model)
      rw [Option.none_or]
      dsimp only
      rw [or_iff_right absent]
      cases registry.profiles.find? (shortModelId ·.model = afterColon key.strip) with
      | some profile => rw [Option.some_or]
      | none =>
        rw [Option.none_or]
        refine iff_of_true ?_ ?_
        · intro other found
          cases found
          exact adHoc
        · rintro other ⟨⟩

/-! ## The whole -/

/-- Where every switch keeps keys with their endpoints, every built model has a key only with the
endpoint of its profile; and a key `provider:model` leads to no other provider exactly when neither
a name nor a short id crosses providers. -/
theorem credentials_follow_endpoints (host : Host Source Workspace) (integrations : Integrations) :
    (∀ (start : Settings Source) (switches : List (Switch Workspace)) (final : Switching Source),
        (Switching.machine host).Guarded (fun state switch => switch.Keeps host start state)
            (.loaded start) switches →
          (Switching.machine host).run (.loaded start) switches = some final →
            final.Separate host integrations start) ∧
      ∀ (registry : ModelRegistry) (key : Text), colon ∈ key →
        ((∀ profile, registry.get (some key) = some profile →
            SameProvider host.toProcess key profile) ↔
          KeepsProvider host.toProcess registry key) := by
  constructor
  · intro start switches final guarded run
    have sound : Sound host start final := by
      refine Machine.run_invariant_of_guarded ?_ (sound_loaded host start) guarded run
      intro state switch next before keeps stepped
      cases stepped
      exact before.next switch keeps
    exact sound.separate integrations
  · exact fun registry key prefixed => same_provider_iff host.toProcess registry prefixed

/-! ## A switch to a profile without a base URL -/

/-- Two profiles of one provider; only the first has a base URL of its own. -/
def hostedProfile : ModelProfile where
  name := .ofString "a"
  model := .ofString "openai:demo-a"
  apiKey := some (.ofString "key-a")
  baseUrl := some (.ofString "https://a.example/v1")

def plainProfile : ModelProfile where
  name := .ofString "b"
  model := .ofString "openai:demo-b"
  apiKey := some (.ofString "key-b")

def azureProfile : ModelProfile where
  name := .ofString "c"
  model := .ofString "azure:demo-c"

def switchCatalog : Catalog where
  profiles := [hostedProfile, plainProfile, azureProfile]
  default := .ofString "a"
  distinct := by decide
  stripped := by decide
  modelled := by decide

def switchHost : Host Unit Unit where
  environ := fun _ => none
  casefold := id
  loadMergedModelsRegistry := fun _ => some switchCatalog
  readProjectThinkingDefault := fun _ => none

def noIntegrations : Integrations := ⟨none, none, false⟩

def switchSettings : Settings Unit :=
  { demoSettings with openaiBaseUrl := some (.ofString "https://api.openai.com/v1") }

/-- The switch to the first profile and then to the second. -/
def leavingSwitches : List (Switch Unit) :=
  [.profile (some (.ofString "a")) true, .profile (some (.ofString "b")) true]

/-- The settings after a list of switches. -/
def afterSwitches (switches : List (Switch Unit)) : Switching Unit :=
  switches.foldl (Switching.next switchHost) (.loaded switchSettings)

/-- A switch that keeps keys with their endpoints, and a key that leads to its own provider. -/
theorem credentials_follow_endpoints_demo :
    (afterSwitches [.profile (some (.ofString "b")) true]).Separate switchHost noIntegrations
        switchSettings ∧
      ∀ profile, switchCatalog.get (some (.ofString "openai:demo-a")) = some profile →
        SameProvider switchHost.toProcess (.ofString "openai:demo-a") profile := by
  rcases credentials_follow_endpoints switchHost noIntegrations with ⟨runs, keys⟩
  constructor
  · refine runs switchSettings [.profile (some (.ofString "b")) true] _ ⟨?_, fun _ _ => trivial⟩ rfl
    rintro catalog ⟨⟩ profile applies
    have plain : (Switch.profile (some (.ofString "b")) true : Switch Unit).applies switchHost
        switchSettings = some plainProfile := by
      decide
    cases plain.symm.trans applies
    refine ⟨⟨by decide, ?_⟩, fun _ _ => .inr rfl⟩
    intro found selected
    have only : (switchCatalog.select plainProfile.name.strip).get (some plainProfile.name) =
        some plainProfile := by
      decide
    exact Option.some.inj (selected.symm.trans only)
  · refine (keys switchCatalog.toModelRegistry (.ofString "openai:demo-a") (by decide)).2 ?_
    have named : switchCatalog.named (Text.ofString "openai:demo-a").strip = none := by
      decide
    rw [KeepsProvider, named]
    exact .inl ⟨hostedProfile, List.mem_cons_self, by decide⟩

/-- The key of the second profile goes to the base URL of the first, and a key of one provider
leads to a profile of another. -/
theorem keys_cross_endpoints :
    (∃ final, (Switching.machine switchHost).run (.loaded switchSettings) leavingSwitches =
        some final ∧ ¬final.Separate switchHost noIntegrations switchSettings) ∧
      ∃ profile, switchCatalog.get (some (.ofString "openai:demo-c")) = some profile ∧
        ¬SameProvider switchHost.toProcess (.ofString "openai:demo-c") profile := by
  refine ⟨⟨afterSwitches leavingSwitches, rfl, fun separate => ?_⟩,
    azureProfile, by decide, by decide⟩
  have crossed := separate plainProfile
    ⟨.ofString "openai:demo-b", some (.ofString "key-b"), some (.ofString "https://a.example/v1"),
      false, none⟩ plainProfile (by decide) (by decide) rfl (by decide)
    (by decide)
  revert crossed
  decide

end Synapse.Models
