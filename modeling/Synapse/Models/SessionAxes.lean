import Synapse.Models.Lookup
import Synapse.Models.Settings

/-!
# Resolving a session

A resolution with a baseline forgets the session before it. Whether it leaves an active model that
resolves to the concrete model depends on the reference in the binding: a binding to a model that
is no longer known changes the concrete model below an active one.
-/

namespace Synapse.Models

variable {Source Workspace : Type} {host : Host Source Workspace}
  {settings other : Settings Source} {binding : ModelBinding} {baseline : SessionAxes}

/-! ## Independence of the session before -/

namespace Settings

theorem AgreeOutside.trans {last : Settings Source} (first : settings.AgreeOutside other)
    (second : other.AgreeOutside last) : settings.AgreeOutside last :=
  ⟨first.1.trans second.1, first.2.1.trans second.2.1, first.2.2.trans second.2.2⟩

end Settings

theorem applyCredentials_agree (process : Process) (profile : ModelProfile)
    (settings : Settings Source) :
    (applyCredentials process profile settings).AgreeOutside settings := by
  unfold applyCredentials
  split
  · split
    · exact ⟨rfl, rfl, rfl⟩
    · exact ⟨rfl, rfl, rfl⟩
  · exact ⟨rfl, rfl, rfl⟩

theorem applyProfileToSettings_agree (process : Process) (settings : Settings Source)
    (profile : ModelProfile) (seed : Bool) :
    (applyProfileToSettings process settings profile seed).AgreeOutside settings := by
  have credentials := applyCredentials_agree process profile
    { settings with
      activeModel := some profile.name
      model := profile.model
      openaiBaseUrl := (present profile.baseUrl).or settings.openaiBaseUrl }
  cases seed
  · exact credentials
  · exact credentials

/-- An accepted level moves the two thinking fields and nothing else. -/
theorem applyThinkingToSettings_ok {process : Process} {raw : Text} {allowed : Option (List Text)}
    {next : Settings Source}
    (accepted : applyThinkingToSettings process settings raw allowed = .ok next) :
    ∃ enabled effort,
      next = { settings with enableThinking := enabled, reasoningEffort := effort } := by
  unfold applyThinkingToSettings at accepted
  dsimp only at accepted
  split at accepted
  · cases accepted
  · split at accepted
    · cases accepted
    · split at accepted
      · cases accepted
      · split at accepted
        · cases accepted
          exact ⟨false, settings.reasoningEffort, rfl⟩
        · cases accepted
          exact ⟨true, _, rfl⟩

theorem applyProjectLayerThinking_eq (host : Host Source Workspace) (settings : Settings Source)
    (workspace : Workspace) :
    ∃ enabled effort, applyProjectLayerThinking host settings workspace =
      { settings with enableThinking := enabled, reasoningEffort := effort } := by
  have same : ∃ enabled effort, settings =
      { settings with enableThinking := enabled, reasoningEffort := effort } :=
    ⟨settings.enableThinking, settings.reasoningEffort, rfl⟩
  unfold applyProjectLayerThinking
  split
  · exact same
  · split
    · exact same
    · split
      case h_1 next accepted => exact applyThinkingToSettings_ok accepted
      case h_2 => exact same

/-- The level of a binding comes last, and moves the two thinking fields only. -/
theorem applyBindingToSettings_eq (host : Host Source Workspace) (settings : Settings Source)
    (binding : ModelBinding) :
    ∃ enabled effort, applyBindingToSettings host settings binding =
      { applyIdentity host settings binding with
        enableThinking := enabled, reasoningEffort := effort } := by
  have same : ∃ enabled effort, applyIdentity host settings binding =
      { applyIdentity host settings binding with
        enableThinking := enabled, reasoningEffort := effort } :=
    ⟨(applyIdentity host settings binding).enableThinking,
      (applyIdentity host settings binding).reasoningEffort, rfl⟩
  unfold applyBindingToSettings
  dsimp only
  split
  · exact same
  · split
    case h_1 next accepted => exact applyThinkingToSettings_ok accepted
    case h_2 => exact same

theorem applyIdentity_agree (host : Host Source Workspace) (settings : Settings Source)
    (binding : ModelBinding) : (applyIdentity host settings binding).AgreeOutside settings := by
  unfold applyIdentity
  split
  · exact applyProfileToSettings_agree _ _ _ _
  · split
    · exact ⟨rfl, rfl, rfl⟩
    · exact ⟨rfl, rfl, rfl⟩

theorem resolved_agree (host : Host Source Workspace) (settings : Settings Source)
    (resolution : Resolution Workspace) :
    (resolved host settings resolution).AgreeOutside settings := by
  have layers (reset : Settings Source) (agree : reset.AgreeOutside settings) :
      (applyBindingToSettings host reset resolution.binding).AgreeOutside settings := by
    rcases applyBindingToSettings_eq host reset resolution.binding with ⟨enabled, effort, layered⟩
    rw [layered]
    have identity := (applyIdentity_agree host reset resolution.binding).trans agree
    exact ⟨identity.1, identity.2.1, identity.2.2⟩
  unfold resolved
  dsimp only
  apply layers
  rcases resolution with ⟨binding, baseline, workspace⟩
  cases workspace with
  | none =>
    cases baseline with
    | none => exact ⟨rfl, rfl, rfl⟩
    | some baseline => exact ⟨rfl, rfl, rfl⟩
  | some workspace =>
    dsimp only
    rcases applyProjectLayerThinking_eq host _ workspace with ⟨enabled, effort, layered⟩
    rw [layered]
    cases baseline with
    | none => exact ⟨rfl, rfl, rfl⟩
    | some baseline => exact ⟨rfl, rfl, rfl⟩

/-- With a baseline, settings that agree outside the axes are resolved alike. -/
theorem resolved_of_agree (agree : settings.AgreeOutside other) {workspace : Option Workspace} :
    resolved host settings ⟨binding, some baseline, workspace⟩ =
      resolved host other ⟨binding, some baseline, workspace⟩ := by
  have same : restoreSessionAxes settings baseline = restoreSessionAxes other baseline := by
    rcases settings with ⟨axes, turbo, proxy, source⟩
    rcases other with ⟨otherAxes, otherTurbo, otherProxy, otherSource⟩
    rcases agree with ⟨rfl, rfl, rfl⟩
    rfl
  unfold resolved
  dsimp only
  rw [same]

theorem resolved_all_agree (host : Host Source Workspace) (settings : Settings Source)
    (sessions : List (Resolution Workspace)) :
    (sessions.foldl (resolved host) settings).AgreeOutside settings := by
  induction sessions generalizing settings with
  | nil => exact ⟨rfl, rfl, rfl⟩
  | cons session sessions ih =>
    rw [List.foldl_cons]
    exact (ih _).trans (resolved_agree host settings session)

/-! ## The active model and the concrete one -/

/-- The active model resolves to the concrete model. -/
def Settings.Consistent (host : Host Source Workspace) (settings : Settings Source) : Prop :=
  ((registryFromSettings host settings).get settings.activeModel).map (·.model) =
    some settings.model

instance (host : Host Source Workspace) (settings : Settings Source) :
    Decidable (settings.Consistent host) :=
  inferInstanceAs (Decidable (_ = _))

/-- The name of a profile, which becomes the active model, leads back to the model of the profile:
it has no spaces around it, or what is found without them has the same model. -/
def Returns (loaded : Option Catalog) (profile : ModelProfile) : Prop :=
  profile.name ≠ [] ∧ profile.name.strip = profile.name ∨
    match loaded with
    | some catalog =>
      ((catalog.select (catalog.selection (some profile.name) profile.model)).get
        (some profile.name)).map (·.model) = some profile.model
    | none => profile.name.strip ≠ [] ∧ afterColon profile.name.strip ≠ []

/-- A binding to a model that is no longer known leaves the active model of the baseline. Without
model files that one still leads to the concrete model if it has the same short id. -/
def LeavesActive (loaded : Option Catalog) (activeModel : Option Text) (model : Text) : Prop :=
  loaded = none ∧
    match present activeModel with
    | none => model.strip ≠ []
    | some active => active.strip ≠ [] ∧ afterColon active.strip = shortModelId model

/-- When a binding leaves the active model and the concrete one of a baseline consistent. -/
def Settles (host : Host Source Workspace) (reset : Settings Source) (binding : ModelBinding) :
    Prop :=
  match binding.profile (registryFromSettings host reset) with
  | some profile => Returns (host.loadMergedModelsRegistry reset.source) profile
  | none =>
    match present binding.model with
    | some model =>
      LeavesActive (host.loadMergedModelsRegistry reset.source) reset.activeModel model
    | none => reset.Consistent host

/-! ## Levels and the registry -/

/-- What the selection of a model reads of a profile. -/
def ModelProfile.identity (profile : ModelProfile) : Text × Text := (profile.name, profile.model)

theorem find?_identity {profiles others : List ModelProfile}
    (same : profiles.map (·.identity) = others.map (·.identity)) (accepts : Text × Text → Bool) :
    (profiles.find? fun profile => accepts profile.identity).map (·.identity) =
      (others.find? fun profile => accepts profile.identity).map (·.identity) := by
  calc
    _ = (profiles.map (·.identity)).find? accepts := List.find?_map.symm
    _ = (others.map (·.identity)).find? accepts := by rw [same]
    _ = _ := List.find?_map

theorem get_identity {registry another : ModelRegistry}
    (same : registry.profiles.map (·.identity) = another.profiles.map (·.identity))
    (default : registry.default = another.default) (name : Option Text) :
    (registry.get name).map (·.identity) = (another.get name).map (·.identity) := by
  have key : registry.key name = another.key name := by
    unfold ModelRegistry.key
    rw [default]
  unfold ModelRegistry.get
  dsimp only
  rw [key]
  split
  case isTrue empty => rfl
  case isFalse nonempty =>
      have named := find?_identity same fun identity => identity.1 = another.key name
      have model := find?_identity same fun identity => identity.2 = another.key name
      have short := find?_identity same fun identity =>
        shortModelId identity.2 = afterColon (another.key name)
      unfold ModelRegistry.matching
      rw [Option.map_or, Option.map_or, Option.map_or, Option.map_or, Option.map_or, Option.map_or]
      exact congrArg₂ Option.or named (congrArg₂ Option.or (congrArg₂ Option.or model short) rfl)

theorem profile_identity {registry another : ModelRegistry}
    (same : registry.profiles.map (·.identity) = another.profiles.map (·.identity))
    (default : registry.default = another.default) (binding : ModelBinding) :
    (binding.profile registry).map (·.identity) = (binding.profile another).map (·.identity) := by
  have reference (value : Option Text) :
      (value.bind fun name => registry.get (some name)).map (·.identity) =
        (value.bind fun name => another.get (some name)).map (·.identity) := by
    cases value with
    | none => rfl
    | some name => exact get_identity same default (some name)
  unfold ModelBinding.profile
  rw [Option.map_or, Option.map_or, reference, reference]

/-- The settings with other thinking fields. -/
def Settings.levelled (settings : Settings Source) (enabled : Bool) (effort : Text) :
    Settings Source :=
  { settings with enableThinking := enabled, reasoningEffort := effort }

theorem registry_levelled (host : Host Source Workspace) (settings : Settings Source)
    (enabled : Bool) (effort : Text) :
    (registryFromSettings host (settings.levelled enabled effort)).profiles.map (·.identity) =
        (registryFromSettings host settings).profiles.map (·.identity) ∧
      (registryFromSettings host (settings.levelled enabled effort)).default =
        (registryFromSettings host settings).default := by
  unfold registryFromSettings Settings.levelled
  dsimp only
  cases host.loadMergedModelsRegistry settings.source with
  | some catalog => exact ⟨rfl, rfl⟩
  | none => exact ⟨rfl, rfl⟩

theorem consistent_levelled {enabled : Bool} {effort : Text} :
    (settings.levelled enabled effort).Consistent host ↔ settings.Consistent host := by
  rcases registry_levelled host settings enabled effort with ⟨profiles, default⟩
  have same := congrArg (Option.map Prod.snd)
    (get_identity profiles default settings.activeModel)
  rw [Option.map_map, Option.map_map] at same
  exact iff_of_eq (congrArg (· = some settings.model) same)

/-! ## The shapes of a binding -/

section

variable {profile : ModelProfile} {name : Option Text} {model : Text}

theorem registry_of_catalog {catalog : Catalog}
    (loaded : host.loadMergedModelsRegistry settings.source = some catalog) :
    registryFromSettings host settings =
      catalog.select (catalog.selection settings.activeModel settings.model) := by
  unfold registryFromSettings
  rw [loaded]

theorem registry_of_none (loaded : host.loadMergedModelsRegistry settings.source = none) :
    registryFromSettings host settings =
      { profiles := [settings.ownProfile], default := settings.model } := by
  unfold registryFromSettings
  rw [loaded]

variable {registry : ModelRegistry}

/-- A profile of a binding was returned by some lookup. -/
theorem get_of_profile (found : binding.profile registry = some profile) :
    ∃ name, registry.get name = some profile := by
  unfold ModelBinding.profile at found
  rw [Option.or_eq_some_iff, Option.bind_eq_some_iff, Option.bind_eq_some_iff] at found
  rcases found with ⟨name, _, found⟩ | ⟨_, name, _, found⟩
  · exact ⟨some name, found⟩
  · exact ⟨some name, found⟩

/-- Where no profile answers to the concrete model of a binding, the lookup of it fails. -/
theorem get_eq_none_of_profile
    (missing : binding.profile registry = none) (stored : present binding.model = some model) :
    registry.get (some model) = none := by
  unfold ModelBinding.profile at missing
  rw [Option.or_eq_none_iff, stored, Option.bind_some] at missing
  exact missing.2

theorem consistent_of_catalog {catalog : Catalog}
    (loaded : host.loadMergedModelsRegistry settings.source = some catalog) :
    settings.Consistent host ↔
      ((catalog.select (catalog.selection settings.activeModel settings.model)).get
        settings.activeModel).map (·.model) = some settings.model := by
  rw [Settings.Consistent, registry_of_catalog loaded]

/-- The registry of settings without model files. -/
def Settings.ownRegistry (settings : Settings Source) : ModelRegistry where
  profiles := [settings.ownProfile]
  default := settings.model

/-- A key leads to the only profile when it equals its model or has the same short id. -/
def Answers (model key : Text) : Prop := model = key ∨ shortModelId model = afterColon key

theorem get_ownRegistry_of_answers (nonempty : settings.ownRegistry.key name ≠ [])
    (answers : Answers settings.model (settings.ownRegistry.key name)) :
    settings.ownRegistry.get name = some settings.ownProfile := by
  rw [ModelRegistry.get_eq_some_iff]
  refine ⟨nonempty, ?_⟩
  by_cases same : settings.model = settings.ownRegistry.key name
  · left
    exact List.find?_cons_of_pos (decide_eq_true same)
  · have short := answers.resolve_left same
    right
    refine ⟨?_, .inl ?_⟩
    · exact List.find?_cons_of_neg fun equal => same (of_decide_eq_true equal)
    · have missing : settings.ownRegistry.profiles.find?
          (·.model = settings.ownRegistry.key name) = none :=
        List.find?_cons_of_neg fun equal => same (of_decide_eq_true equal)
      rw [ModelRegistry.matching, missing, Option.none_or]
      exact List.find?_cons_of_pos (decide_eq_true short)

theorem get_ownRegistry_of_not_answers (nonempty : settings.ownRegistry.key name ≠ [])
    (unanswered : ¬Answers settings.model (settings.ownRegistry.key name)) :
    settings.ownRegistry.get name =
      if colon ∈ settings.ownRegistry.key name then some (.adHoc (settings.ownRegistry.key name))
      else none := by
  rw [Answers, not_or] at unanswered
  have named : settings.ownRegistry.named (settings.ownRegistry.key name) = none :=
    List.find?_cons_of_neg fun equal => unanswered.1 (of_decide_eq_true equal)
  have model : settings.ownRegistry.profiles.find?
      (·.model = settings.ownRegistry.key name) = none :=
    List.find?_cons_of_neg fun equal => unanswered.1 (of_decide_eq_true equal)
  have short : settings.ownRegistry.profiles.find?
      (shortModelId ·.model = afterColon (settings.ownRegistry.key name)) = none :=
    List.find?_cons_of_neg fun equal => unanswered.2 (of_decide_eq_true equal)
  rw [ModelRegistry.get, if_neg nonempty, named, ModelRegistry.matching, model, short]
  rfl

/-- Without model files the active model leads to the concrete one exactly when it answers to
it. -/
theorem consistent_of_none (loaded : host.loadMergedModelsRegistry settings.source = none) :
    settings.Consistent host ↔
      settings.ownRegistry.key settings.activeModel ≠ [] ∧
        Answers settings.model (settings.ownRegistry.key settings.activeModel) := by
  have registry : registryFromSettings host settings = settings.ownRegistry :=
    registry_of_none loaded
  rw [Settings.Consistent, registry]
  constructor
  · intro consistent
    rcases Option.map_eq_some_iff.1 consistent with ⟨profile, found, model⟩
    have nonempty := (ModelRegistry.get_eq_some_iff.1 found).1
    refine ⟨nonempty, ?_⟩
    by_contra unanswered
    rw [get_ownRegistry_of_not_answers nonempty unanswered] at found
    rcases Option.ite_none_right_eq_some.mp found with ⟨_, ⟨⟩⟩
    exact unanswered (.inl model.symm)
  · rintro ⟨nonempty, answers⟩
    rw [get_ownRegistry_of_answers nonempty answers]
    rfl

/-- What a lookup without model files returns has its model for its name. -/
theorem name_eq_model_of_none (loaded : host.loadMergedModelsRegistry settings.source = none)
    (found : (registryFromSettings host settings).get name = some profile) :
    profile.name = profile.model := by
  have registry : registryFromSettings host settings = settings.ownRegistry :=
    registry_of_none loaded
  rw [registry] at found
  have nonempty := (ModelRegistry.get_eq_some_iff.1 found).1
  by_cases answers : Answers settings.model (settings.ownRegistry.key name)
  · rw [get_ownRegistry_of_answers nonempty answers] at found
    cases found
    rfl
  · rw [get_ownRegistry_of_not_answers nonempty answers] at found
    rcases Option.ite_none_right_eq_some.mp found with ⟨_, ⟨⟩⟩
    rfl

end

/-! ## Consistency after each shape -/

section

variable {profile : ModelProfile} {name : Option Text} {model active : Text}

@[simp]
theorem applyProfileToSettings_activeModel (process : Process) (settings : Settings Source)
    (profile : ModelProfile) :
    (applyProfileToSettings process settings profile false).activeModel = some profile.name := by
  rw [applyProfileToSettings, if_neg Bool.false_ne_true, applyCredentials]
  split
  · split
    · rfl
    · rfl
  · rfl

@[simp]
theorem applyProfileToSettings_model (process : Process) (settings : Settings Source)
    (profile : ModelProfile) :
    (applyProfileToSettings process settings profile false).model = profile.model := by
  rw [applyProfileToSettings, if_neg Bool.false_ne_true, applyCredentials]
  split
  · split
    · rfl
    · rfl
  · rfl

theorem key_ownRegistry_model : settings.ownRegistry.key (some settings.model) =
    settings.model.strip := by
  by_cases empty : settings.model = []
  · rw [ModelRegistry.key, Settings.ownRegistry, empty]
    rfl
  · exact ModelRegistry.key_of_ne_nil empty

/-- After a profile the pair is consistent exactly when the profile's name leads back to it. -/
theorem consistent_applyProfile
    (found : (registryFromSettings host settings).get name = some profile) :
    (applyProfileToSettings host.toProcess settings profile false).Consistent host ↔
      Returns (host.loadMergedModelsRegistry settings.source) profile := by
  have source : (applyProfileToSettings host.toProcess settings profile false).source =
      settings.source := (applyProfileToSettings_agree _ _ _ _).2.2
  cases loaded : host.loadMergedModelsRegistry settings.source with
  | some catalog =>
    rw [consistent_of_catalog (source ▸ loaded), applyProfileToSettings_activeModel,
      applyProfileToSettings_model]
    constructor
    · exact Or.inr
    · rintro (⟨nonempty, stripped⟩ | back)
      · have known : Known catalog.toModelRegistry profile := by
          rw [registry_of_catalog loaded] at found
          exact ModelRegistry.known_of_get (ModelRegistry.strip_selection _ _ _) found
        have selected : catalog.selection (some profile.name) profile.model = profile.name := by
          rw [ModelRegistry.selection, Option.getD_some, stripped]
          exact if_pos nonempty
        rw [selected, catalog.get_name known nonempty stripped]
        rfl
      · exact back
  | none =>
    have same := name_eq_model_of_none loaded found
    rw [consistent_of_none (source ▸ loaded), applyProfileToSettings_activeModel, same,
      ← applyProfileToSettings_model host.toProcess settings profile, key_ownRegistry_model,
      applyProfileToSettings_model, Answers, shortModelId_eq_iff, Returns, same]
    constructor
    · rintro ⟨remains, equal | short⟩
      · exact .inl ⟨equal ▸ remains, equal.symm⟩
      · exact .inr ⟨remains, short⟩
    · rintro (⟨nonempty, stripped⟩ | ⟨remains, short⟩)
      · exact ⟨stripped.symm ▸ nonempty, .inl stripped.symm⟩
      · exact ⟨remains, .inr short⟩

/-- The settings after a binding to an unknown model. -/
def Settings.withModel (settings : Settings Source) (model : Text) : Settings Source :=
  { settings with
    model := model
    activeModel := (present settings.activeModel).or (some model) }

/-- A configured registry never leads to a model that it does not know. -/
theorem not_consistent_withModel {catalog : Catalog}
    (loaded : host.loadMergedModelsRegistry settings.source = some catalog)
    (missing : (registryFromSettings host settings).get (some model) = none) :
    ¬(settings.withModel model).Consistent host := by
  intro consistent
  have unmoved : host.loadMergedModelsRegistry (settings.withModel model).source = some catalog :=
    loaded
  rw [consistent_of_catalog unmoved] at consistent
  rcases Option.map_eq_some_iff.1 consistent with ⟨profile, found, same⟩
  have known := ModelRegistry.known_of_get (ModelRegistry.strip_selection _ _ _) found
  rw [registry_of_catalog loaded] at missing
  apply catalog.get_model_ne_none known (ModelRegistry.strip_selection _ _ _)
  rw [same]
  exact missing

/-- Without model files, an unknown model has no provider. -/
theorem notMem_colon_of_missing (loaded : host.loadMergedModelsRegistry settings.source = none)
    (missing : (registryFromSettings host settings).get (some model) = none)
    (remains : model.strip ≠ []) : colon ∉ model.strip := by
  have nonempty : model ≠ [] := by
    rintro rfl
    exact remains rfl
  rw [show registryFromSettings host settings = settings.ownRegistry from registry_of_none loaded,
    ModelRegistry.get_eq_none_iff, ModelRegistry.key_of_ne_nil nonempty] at missing
  exact (missing.resolve_left remains).2.2

theorem consistent_withModel (stored : model ≠ [])
    (missing : (registryFromSettings host settings).get (some model) = none) :
    (settings.withModel model).Consistent host ↔
      LeavesActive (host.loadMergedModelsRegistry settings.source) settings.activeModel model := by
  cases loaded : host.loadMergedModelsRegistry settings.source with
  | some catalog =>
    constructor
    · exact fun consistent => absurd consistent (not_consistent_withModel loaded missing)
    · rintro ⟨⟨⟩, _⟩
  | none =>
    have unmoved : host.loadMergedModelsRegistry (settings.withModel model).source = none :=
      loaded
    rw [consistent_of_none unmoved, LeavesActive]
    have bare := notMem_colon_of_missing loaded missing
    cases kept : present settings.activeModel with
    | none =>
      have key : (settings.withModel model).ownRegistry.key
          (settings.withModel model).activeModel = model.strip := by
        rw [show (settings.withModel model).activeModel = some model by
          simp [Settings.withModel, kept]]
        exact ModelRegistry.key_of_ne_nil stored
      rw [key]
      constructor
      · exact fun ⟨remains, _⟩ => ⟨rfl, remains⟩
      · rintro ⟨_, remains⟩
        refine ⟨remains, .inr ?_⟩
        change shortModelId model = _
        rw [shortModelId_eq_iff, afterColon_of_notMem (bare remains)]
        exact remains
    | some active =>
      have key : (settings.withModel model).ownRegistry.key
          (settings.withModel model).activeModel = active.strip := by
        rw [show (settings.withModel model).activeModel = some active by
          simp [Settings.withModel, kept]]
        exact ModelRegistry.key_of_ne_nil (present_eq_some kept).2
      rw [key]
      constructor
      · rintro ⟨remains, equal | short⟩
        · refine ⟨rfl, remains, ?_⟩
          change model = _ at equal
          have stripped : model.strip = model := by rw [equal, Text.strip_strip]
          have unprefixed := afterColon_of_notMem (bare (stripped.symm ▸ stored))
          have answered := shortModelId_eq_iff.2 (unprefixed ▸ stripped.symm ▸ stored)
          rw [← equal, answered, stripped]
        · exact ⟨rfl, remains, short.symm⟩
      · rintro ⟨_, remains, short⟩
        exact ⟨remains, .inr short.symm⟩

/-- The identity that a binding gives is consistent exactly when the binding settles. -/
theorem consistent_applyIdentity (host : Host Source Workspace) (settings : Settings Source)
    (binding : ModelBinding) :
    (applyIdentity host settings binding).Consistent host ↔ Settles host settings binding := by
  unfold applyIdentity Settles
  cases found : binding.profile (registryFromSettings host settings) with
  | some profile =>
    rcases get_of_profile found with ⟨name, returned⟩
    exact consistent_applyProfile returned
  | none =>
    cases stored : present binding.model with
    | none => exact Iff.rfl
    | some model =>
      exact consistent_withModel (present_eq_some stored).2
        (get_eq_none_of_profile found stored)

end

/-- What a binding refers to does not depend on the levels. -/
theorem settles_levelled {enabled : Bool} {effort : Text} :
    Settles host (settings.levelled enabled effort) binding ↔ Settles host settings binding := by
  rcases registry_levelled host settings enabled effort with ⟨profiles, default⟩
  have same := profile_identity profiles default binding
  unfold Settles
  cases levelled :
      binding.profile (registryFromSettings host (settings.levelled enabled effort)) with
  | some profile =>
    cases found : binding.profile (registryFromSettings host settings) with
    | some other =>
      rw [levelled, found, Option.map_some, Option.map_some, Option.some_inj] at same
      rcases Prod.ext_iff.1 same with ⟨name, model⟩
      dsimp only [ModelProfile.identity] at name model
      dsimp only
      unfold Returns
      rw [name, model]
      rfl
    | none => simp [levelled, found] at same
  | none =>
    cases found : binding.profile (registryFromSettings host settings) with
    | some other => simp [levelled, found] at same
    | none =>
      dsimp only
      cases present binding.model with
      | some model => exact Iff.rfl
      | none => exact consistent_levelled

theorem consistent_applyBinding (settings : Settings Source) (binding : ModelBinding)
    (enabled : Bool) (effort : Text) :
    (applyBindingToSettings host (settings.levelled enabled effort) binding).Consistent host ↔
      Settles host settings binding := by
  rcases applyBindingToSettings_eq host (settings.levelled enabled effort) binding with
    ⟨last, level, bound⟩
  rw [bound]
  calc
    _ ↔ (applyIdentity host (settings.levelled enabled effort) binding).Consistent host :=
      consistent_levelled
    _ ↔ Settles host (settings.levelled enabled effort) binding :=
      consistent_applyIdentity host _ binding
    _ ↔ Settles host settings binding := settles_levelled

theorem consistent_resolved (host : Host Source Workspace) (settings : Settings Source)
    (baseline : SessionAxes) (binding : ModelBinding) (workspace : Option Workspace) :
    (resolved host settings ⟨binding, some baseline, workspace⟩).Consistent host ↔
      Settles host (restoreSessionAxes settings baseline) binding := by
  cases workspace with
  | none =>
    exact consistent_applyBinding (restoreSessionAxes settings baseline) binding
      baseline.enableThinking baseline.reasoningEffort
  | some workspace =>
    unfold resolved
    dsimp only
    rcases applyProjectLayerThinking_eq host (restoreSessionAxes settings baseline) workspace with
      ⟨enabled, effort, layered⟩
    rw [layered]
    exact consistent_applyBinding (restoreSessionAxes settings baseline) binding enabled effort

/-- What a resolution promises, for settings that agree with others outside the axes: the axes do
not depend on the settings or on the sessions before, a second resolution changes nothing, and the
active model leads to the concrete one. -/
structure Resolves (host : Host Source Workspace) (settings other : Settings Source)
    (resolution : Resolution Workspace) : Prop where
  independent : ∀ sessions : List (Resolution Workspace),
    (resolved host (sessions.foldl (resolved host) settings) resolution).toSessionAxes =
      (resolved host other resolution).toSessionAxes
  repeated : (resolveSessionAxes host (resolved host settings resolution) resolution).1 = false
  consistent : (resolved host settings resolution).Consistent host

/-- With a baseline the first two promises are kept always, and the third exactly when the binding
settles. -/
theorem session_axes_resolve_iff (host : Host Source Workspace) (settings other : Settings Source)
    (agree : settings.AgreeOutside other) (baseline : SessionAxes) (binding : ModelBinding)
    (workspace : Option Workspace) :
    Resolves host settings other ⟨binding, some baseline, workspace⟩ ↔
      Settles host (restoreSessionAxes settings baseline) binding := by
  have independent (sessions : List (Resolution Workspace)) :
      resolved host (sessions.foldl (resolved host) settings)
          ⟨binding, some baseline, workspace⟩ =
        resolved host other ⟨binding, some baseline, workspace⟩ :=
    resolved_of_agree ((resolved_all_agree host settings sessions).trans agree)
  have again : resolved host (resolved host settings ⟨binding, some baseline, workspace⟩)
        ⟨binding, some baseline, workspace⟩ =
      resolved host settings ⟨binding, some baseline, workspace⟩ :=
    resolved_of_agree (resolved_agree host settings _)
  have settled := consistent_resolved host settings baseline binding workspace
  constructor
  · exact fun resolves => settled.1 resolves.consistent
  · intro settles
    refine ⟨fun sessions => by rw [independent], ?_, settled.2 settles⟩
    unfold resolveSessionAxes
    dsimp only
    rw [again]
    simp

/-! ## A binding to a model that is gone -/

/-- A configuration with one profile. -/
def demoProfile : ModelProfile where
  name := .ofString "a"
  model := .ofString "openai:demo-a"

def demoCatalog : Catalog where
  profiles := [demoProfile]
  default := .ofString "a"
  distinct := List.nodup_singleton _
  stripped := by decide
  modelled := by decide

def demoHost : Host Unit Unit where
  environ := fun _ => none
  casefold := id
  loadMergedModelsRegistry := fun _ => some demoCatalog
  readProjectThinkingDefault := fun _ => some (.ofString "low")

/-- The settings of a project whose profile is selected. -/
def demoSettings : Settings Unit where
  activeModel := some (.ofString "a")
  model := .ofString "openai:demo-a"
  enableThinking := true
  reasoningEffort := .ofString "high"
  parallelToolCalls := true
  openaiApiKey := none
  anthropicApiKey := none
  openaiBaseUrl := none
  turbo := false
  turboProxyUrl := none
  source := ()

/-- The settings that an earlier session left. -/
def demoLeft : Settings Unit :=
  { demoSettings with
    activeModel := some (.ofString "azure:other")
    model := .ofString "azure:other"
    reasoningEffort := .ofString "max" }

theorem session_axes_resolve_demo :
    Resolves demoHost demoLeft demoSettings
      ⟨{ activeModel := some (.ofString "a") }, some demoSettings.toSessionAxes, some ()⟩ := by
  apply (session_axes_resolve_iff demoHost demoLeft demoSettings ⟨rfl, rfl, rfl⟩ _ _ _).2
  have found : ({ activeModel := some (.ofString "a") } : ModelBinding).profile
      (registryFromSettings demoHost (restoreSessionAxes demoLeft demoSettings.toSessionAxes)) =
        some demoProfile := by
    decide
  unfold Settles
  rw [found]
  exact .inl (by decide)

/-- A binding to a concrete model that the configuration does not have puts it below the active
model of the baseline, which leads to another model. -/
theorem unknown_model_below_active :
    ¬Resolves demoHost demoSettings demoSettings
      ⟨{ model := some (.ofString "ghost") }, some demoSettings.toSessionAxes, none⟩ := by
  intro resolves
  have consistent := resolves.consistent
  revert consistent
  decide

end Synapse.Models
