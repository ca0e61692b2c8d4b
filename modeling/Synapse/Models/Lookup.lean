import Synapse.Models.Registry

/-!
# Lookup in the registry

What a successful lookup found, where it found it, and which profiles are found again under their
own names.
-/

namespace Synapse

open List

namespace Models

variable {process : Process} {text key selected : Text} {name : Option Text}
  {profile other : ModelProfile}

@[simp]
theorem present_none : present none = none := rfl

theorem present_some_of_ne_nil (nonempty : text ≠ []) : present (some text) = some text := by
  cases text with
  | nil => exact absurd rfl nonempty
  | cons point rest => rfl

theorem present_eq_some {value : Option Text} (found : present value = some text) :
    value = some text ∧ text ≠ [] := by
  rcases Option.filter_eq_some_iff.1 found with ⟨value, nonempty⟩
  refine ⟨value, ?_⟩
  rintro rfl
  cases nonempty

theorem infix_singleton {α : Type*} {letter : α} {text : List α} :
    [letter] <:+: text ↔ letter ∈ text := by
  constructor
  · rintro ⟨before, after, rfl⟩
    simp
  · intro member
    rcases append_of_mem member with ⟨before, after, rfl⟩
    exact ⟨before, after, by simp⟩

theorem afterColon_of_notMem (absent : colon ∉ text) : afterColon text = text := by
  have missing : afterFirst [colon] text = none := by
    rw [afterFirst_eq_none_iff (cons_ne_nil _ _), infix_singleton]
    exact absent
  rw [afterColon, missing, Option.getD_none]

/-- The short id of a model meets the short part of its stripped text unless nothing follows the
colon. -/
theorem shortModelId_eq_iff :
    shortModelId text = afterColon text.strip ↔ afterColon text.strip ≠ [] := by
  unfold shortModelId
  dsimp only
  split
  case isTrue empty =>
      rw [empty]
      decide
  case isFalse remains => exact iff_of_true rfl remains

namespace ModelRegistry

variable {registry : ModelRegistry}

theorem mem_of_named (found : registry.named key = some profile) : profile ∈ registry.profiles :=
  mem_of_find?_eq_some found

theorem name_of_named (found : registry.named key = some profile) : profile.name = key := by
  simpa using find?_some found

theorem named_of_mem (member : profile ∈ registry.profiles) :
    (registry.named profile.name).isSome := by
  rw [named, find?_isSome]
  exact ⟨profile, member, by simp⟩

/-- A profile that a name does not find and another rule does is one of the catalog. -/
theorem matching_cases (found : registry.matching key = some profile) :
    profile ∈ registry.profiles ∧
      (profile.model = key ∨
        (∀ other ∈ registry.profiles, other.model ≠ key) ∧
          shortModelId profile.model = afterColon key) := by
  unfold matching at found
  rw [Option.or_eq_some_iff] at found
  rcases found with found | ⟨missing, found⟩
  · exact ⟨mem_of_find?_eq_some found, .inl (by simpa using find?_some found)⟩
  · rw [find?_eq_none] at missing
    refine ⟨mem_of_find?_eq_some found, .inr ⟨?_, by simpa using find?_some found⟩⟩
    intro other member
    simpa using missing other member

theorem get_eq_some_iff :
    registry.get name = some profile ↔
      registry.key name ≠ [] ∧
        (registry.named (registry.key name) = some profile ∨
          registry.named (registry.key name) = none ∧
            (registry.matching (registry.key name) = some profile ∨
              registry.matching (registry.key name) = none ∧
                colon ∈ registry.key name ∧ .adHoc (registry.key name) = profile)) := by
  unfold get
  dsimp only
  split
  case isTrue empty => simp [empty]
  case isFalse nonempty =>
      rw [Option.or_eq_some_iff, Option.or_eq_some_iff]
      simp [nonempty]

theorem get_eq_none_iff :
    registry.get name = none ↔
      registry.key name = [] ∨
        registry.named (registry.key name) = none ∧ registry.matching (registry.key name) = none ∧
          colon ∉ registry.key name := by
  unfold get
  dsimp only
  split
  case isTrue empty => simp [empty]
  case isFalse nonempty =>
      rw [Option.or_eq_none_iff, Option.or_eq_none_iff]
      simp [nonempty]

theorem key_strip : (registry.key name).strip = registry.key name := Text.strip_strip _

theorem key_of_ne_nil (nonempty : text ≠ []) : registry.key (some text) = text.strip := by
  rw [key, present_some_of_ne_nil nonempty, Option.getD_some]

end ModelRegistry

/-- A selection that the catalog does not have: an ad-hoc `provider:model`. -/
structure Unlisted (registry : ModelRegistry) (key : Text) : Prop where
  nonempty : key ≠ []
  stripped : key.strip = key
  prefixed : colon ∈ key
  unnamed : registry.named key = none

/-- What a lookup may return: a profile of the catalog, or an ad-hoc one. -/
def Known (registry : ModelRegistry) (profile : ModelProfile) : Prop :=
  profile ∈ registry.profiles ∨ ∃ key, Unlisted registry key ∧ profile = .adHoc key

namespace ModelRegistry

variable {registry : ModelRegistry}

theorem named_append_adHoc (unlisted : Unlisted registry selected) :
    (registry.profiles ++ [ModelProfile.adHoc selected]).find? (·.name = selected) =
      some (.adHoc selected) := by
  have unnamed : registry.profiles.find? (·.name = selected) = none := unlisted.unnamed
  rw [find?_append, unnamed, Option.none_or]
  exact find?_cons_of_pos (by simp [ModelProfile.adHoc])

/-- The cases of `select`. -/
theorem select_cases (registry : ModelRegistry) (stripped : selected.strip = selected) :
    (registry.select selected).profiles = registry.profiles ∨
      Unlisted registry selected ∧
        (registry.select selected).profiles = registry.profiles ++ [.adHoc selected] := by
  unfold select
  split
  case isTrue empty => exact .inl rfl
  case isFalse nonempty =>
      split
      case isTrue listed => exact .inl rfl
      case isFalse missing =>
          split
          case isTrue prefixed =>
              exact .inr ⟨⟨nonempty, stripped, prefixed, by simpa using missing⟩, rfl⟩
          case isFalse bare => exact .inl rfl

theorem mem_select (stripped : selected.strip = selected)
    (member : profile ∈ (registry.select selected).profiles) :
    profile ∈ registry.profiles ∨ Unlisted registry selected ∧ profile = .adHoc selected := by
  rcases registry.select_cases stripped with same | ⟨unlisted, added⟩
  · rw [same] at member
    exact .inl member
  · rw [added, mem_append, mem_singleton] at member
    exact member.imp id fun adHoc => ⟨unlisted, adHoc⟩

theorem mem_select_of_mem (stripped : selected.strip = selected)
    (member : profile ∈ registry.profiles) : profile ∈ (registry.select selected).profiles := by
  rcases registry.select_cases stripped with same | ⟨_, added⟩
  · rw [same]
    exact member
  · rw [added]
    exact mem_append_left _ member

theorem named_of_select_eq_none (stripped : selected.strip = selected)
    (missing : (registry.select selected).named key = none) : registry.named key = none := by
  unfold named at missing ⊢
  rw [find?_eq_none] at missing ⊢
  intro profile member
  exact missing profile (mem_select_of_mem stripped member)

/-- A lookup after any selection returns a profile of the catalog or an ad-hoc one. -/
theorem known_of_get (stripped : selected.strip = selected)
    (found : (registry.select selected).get name = some profile) : Known registry profile := by
  rcases get_eq_some_iff.1 found with ⟨nonempty, named | ⟨missing, matched | ⟨_, prefixed, adHoc⟩⟩⟩
  · exact (mem_select stripped (mem_of_named named)).imp id fun ⟨unlisted, adHoc⟩ =>
      ⟨selected, unlisted, adHoc⟩
  · exact (mem_select stripped (matching_cases matched).1).imp id fun ⟨unlisted, adHoc⟩ =>
      ⟨selected, unlisted, adHoc⟩
  · exact .inr ⟨_, ⟨nonempty, key_strip, prefixed, named_of_select_eq_none stripped missing⟩,
      adHoc.symm⟩

theorem strip_selection (registry : ModelRegistry) (activeModel : Option Text) (model : Text) :
    (registry.selection activeModel model).strip = registry.selection activeModel model := by
  unfold selection
  dsimp only
  split
  · exact Text.strip_strip _
  · split
    · exact Text.strip_strip _
    · rfl

end ModelRegistry

namespace Catalog

variable {catalog : Catalog}

theorem named_eq_of_mem (member : profile ∈ catalog.profiles) :
    catalog.named profile.name = some profile := by
  rcases Option.isSome_iff_exists.1 (ModelRegistry.named_of_mem member) with ⟨other, found⟩
  have same : other = profile :=
    inj_on_of_nodup_map catalog.distinct (ModelRegistry.mem_of_named found) member
      (ModelRegistry.name_of_named found)
  rw [found, same]

/-- A model that a lookup returned is stripped, and not empty. -/
theorem model_of_known (known : Known catalog.toModelRegistry profile) :
    profile.model.strip = profile.model ∧ profile.model ≠ [] := by
  rcases known with member | ⟨key, unlisted, rfl⟩
  · exact ⟨catalog.stripped profile member, catalog.modelled profile member⟩
  · exact ⟨unlisted.stripped, unlisted.nonempty⟩

/-- A profile whose name has no spaces around it is found again once its name is selected. -/
theorem get_name (known : Known catalog.toModelRegistry profile) (nonempty : profile.name ≠ [])
    (stripped : profile.name.strip = profile.name) :
    (catalog.select profile.name).get (some profile.name) = some profile := by
  rw [ModelRegistry.get_eq_some_iff, ModelRegistry.key_of_ne_nil nonempty, stripped]
  refine ⟨nonempty, .inl ?_⟩
  rcases known with member | ⟨key, unlisted, rfl⟩
  · have listed := named_eq_of_mem member
    have same : catalog.select profile.name =
        { catalog.toModelRegistry with default := profile.name } := by
      rw [ModelRegistry.select, if_neg nonempty, listed, Option.isSome_some, if_pos rfl]
    rw [same]
    exact listed
  · have selected : catalog.select key =
        { catalog.toModelRegistry with
          profiles := catalog.profiles ++ [.adHoc key], default := key } := by
      rw [ModelRegistry.select, if_neg unlisted.nonempty, unlisted.unnamed, Option.isSome_none,
        if_neg Bool.false_ne_true, if_pos unlisted.prefixed]
    rw [show (ModelProfile.adHoc key).name = key from rfl, selected]
    exact ModelRegistry.named_append_adHoc unlisted

/-- The lookup of a concrete model that some lookup returned does not fail. -/
theorem get_model_ne_none (known : Known catalog.toModelRegistry profile)
    (stripped : selected.strip = selected) :
    (catalog.select selected).get (some profile.model) ≠ none := by
  rcases model_of_known known with ⟨model, nonempty⟩
  rw [Ne, ModelRegistry.get_eq_none_iff, ModelRegistry.key_of_ne_nil nonempty, model]
  rintro (empty | ⟨_, unmatched, bare⟩)
  · exact nonempty empty
  · rcases known with member | ⟨key, unlisted, rfl⟩
    · have matched := ModelRegistry.mem_select_of_mem stripped member
      unfold ModelRegistry.matching at unmatched
      rw [Option.or_eq_none_iff, find?_eq_none] at unmatched
      exact unmatched.1 profile matched (by simp)
    · exact bare unlisted.prefixed

end Catalog

end Models

end Synapse
