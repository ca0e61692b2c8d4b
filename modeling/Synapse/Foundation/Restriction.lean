import Mathlib.Data.Finset.Basic
import Mathlib.Data.List.Basic

/-!
# Restrictions and filters

A restriction is a set of values or nothing, and nothing restricts nothing. A filter is a set
alone, and the empty filter restricts nothing. A restriction that is handed on as a filter loses
the difference between nothing and the empty set.
-/

namespace Synapse

universe u

variable {α : Type u} [DecidableEq α] {visible requested : List α} {value : α}

/-- The values a restriction admits. -/
def Admits (restriction : Option (List α)) (value : α) : Prop :=
  ∀ visible, restriction = some visible → value ∈ visible

/-- The values a filter lets pass. -/
def Passes (filter : List α) (value : α) : Prop :=
  filter = [] ∨ value ∈ filter

instance (filter : List α) (value : α) : Decidable (Passes filter value) :=
  inferInstanceAs (Decidable (_ ∨ _))

/-- The filter that stands for a restriction together with a filter. -/
def narrowed (restriction : Option (List α)) (requested : List α) : List α :=
  match restriction with
  | none => requested
  | some visible => if requested = [] then visible else visible.filter (· ∈ requested)

omit [DecidableEq α] in
@[simp]
theorem admits_none : Admits none value := by
  intro visible given
  cases given

omit [DecidableEq α] in
@[simp]
theorem admits_some : Admits (some visible) value ↔ value ∈ visible := by
  simp [Admits]

omit [DecidableEq α] in
@[simp]
theorem passes_nil : Passes [] value :=
  Or.inl rfl

omit [DecidableEq α] in
theorem passes_of_ne_nil {filter : List α} (nonempty : filter ≠ []) :
    Passes filter value ↔ value ∈ filter := by
  simp [Passes, nonempty]

omit [DecidableEq α] in
theorem passes_congr {first second : List α} (same : ∀ value, value ∈ first ↔ value ∈ second) :
    Passes first value ↔ Passes second value := by
  have empty : first = [] ↔ second = [] := by
    rw [List.eq_nil_iff_forall_not_mem, List.eq_nil_iff_forall_not_mem]
    exact forall_congr' fun value => not_congr (same value)
  unfold Passes
  rw [empty, same value]

/-- A narrowed filter that is not empty lets pass what both of its parts do. -/
theorem passes_narrowed {restriction : Option (List α)}
    (nonempty : restriction = none ∨ narrowed restriction requested ≠ []) :
    Passes (narrowed restriction requested) value ↔
      Admits restriction value ∧ Passes requested value := by
  cases restriction with
  | none => simp [narrowed]
  | some visible =>
    have nonempty : narrowed (some visible) requested ≠ [] := by simpa using nonempty
    rw [passes_of_ne_nil nonempty, admits_some]
    by_cases unrestricted : requested = []
    · simp [narrowed, unrestricted]
    · rw [passes_of_ne_nil unrestricted]
      simp [narrowed, unrestricted, List.mem_filter]

/-- A restriction and a filter that exclude each other narrow to the filter of everything. -/
theorem narrowed_eq_nil_iff (nonempty : visible ≠ []) :
    narrowed (some visible) requested = [] ↔
      requested ≠ [] ∧ ∀ value ∈ visible, value ∉ requested := by
  by_cases unrestricted : requested = []
  · simp [narrowed, unrestricted, nonempty]
  · simp [narrowed, unrestricted, List.filter_eq_nil_iff]

end Synapse
