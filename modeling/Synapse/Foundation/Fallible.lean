import Mathlib.Data.List.Basic

/-!
# Fallible computations

Code that raises is modelled by `Except`. A successful computation is taken
apart one bind at a time: each guard it passed and each value it read becomes a
hypothesis.
-/

namespace Synapse

universe u v w

variable {Failure : Type u} {Value : Type v} {Result : Type v}

/-- `if condition: raise failure`. -/
def raiseIf (condition : Prop) [Decidable condition] (failure : Failure) :
    Except Failure PUnit.{v + 1} :=
  if condition then .error failure else .ok ⟨⟩

/-- The row a query found, where the absence of one is an error. -/
def orRaise (found : Option Value) (failure : Failure) : Except Failure Value :=
  match found with
  | some value => .ok value
  | none => .error failure

theorem bind_eq_ok_iff {first : Except Failure Value} {rest : Value → Except Failure Result}
    {result : Result} :
    (first >>= rest) = .ok result ↔ ∃ value, first = .ok value ∧ rest value = .ok result := by
  cases first with
  | error failure => simp [bind, Except.bind]
  | ok value => simp [bind, Except.bind]

@[simp]
theorem raiseIf_eq_ok_iff {condition : Prop} [Decidable condition] {failure : Failure}
    {done : PUnit.{v + 1}} : raiseIf condition failure = .ok done ↔ ¬condition := by
  unfold raiseIf
  split <;> simp_all

theorem raiseIf_of_not {condition : Prop} [Decidable condition] (failure : Failure)
    (fine : ¬condition) : raiseIf.{u, v} condition failure = .ok ⟨⟩ :=
  if_neg fine

@[simp]
theorem orRaise_eq_ok_iff {found : Option Value} {failure : Failure} {value : Value} :
    orRaise found failure = .ok value ↔ found = some value := by
  cases found <;> simp [orRaise]

@[simp]
theorem ok_bind (value : Value) (rest : Value → Except Failure Result) :
    ((.ok value : Except Failure Value) >>= rest) = rest value := rfl

@[simp]
theorem error_bind (failure : Failure) (rest : Value → Except Failure Result) :
    ((.error failure : Except Failure Value) >>= rest) = .error failure := rfl

@[simp]
theorem pure_eq_ok_iff {value result : Value} :
    (pure value : Except Failure Value) = .ok result ↔ value = result := by
  simp [pure, Except.pure]

/-- A loop over rows succeeds when each of its calls does. -/
theorem foldlM_succeeds {State : Type v} {Row : Type w} {body : State → Row → Except Failure State}
    {invariant : State → Prop} {rows : List Row} {state : State} (initial : invariant state)
    (progress : ∀ state, invariant state → ∀ row ∈ rows,
      ∃ next, body state row = .ok next ∧ invariant next) :
    ∃ next, rows.foldlM body state = .ok next ∧ invariant next := by
  induction rows generalizing state with
  | nil => exact ⟨state, rfl, initial⟩
  | cons row rows ih =>
    rcases progress state initial row List.mem_cons_self with ⟨next, done, holds⟩
    rcases ih holds fun state holds other present =>
        progress state holds other (List.mem_cons_of_mem _ present) with ⟨final, folded, finalHolds⟩
    refine ⟨final, ?_, finalHolds⟩
    rw [List.foldlM_cons, done, ok_bind]
    exact folded

/-! ### Which errors are raised -/

/-- Every error that the computation raises is an allowed one. -/
def Raises (allowed : Failure → Prop) (outcome : Except Failure Value) : Prop :=
  ∀ failure, outcome = .error failure → allowed failure

section

variable {allowed : Failure → Prop}

theorem Raises.bind {first : Except Failure Value} {rest : Value → Except Failure Result}
    (head : Raises allowed first) (tail : ∀ value, first = .ok value → Raises allowed (rest value)) :
    Raises allowed (first >>= rest) := by
  cases first with
  | error raised =>
    intro failure same
    exact head failure (by simpa using same)
  | ok value => exact tail value rfl

theorem raises_pure (value : Value) : Raises allowed (pure value : Except Failure Value) := by
  intro failure same
  cases same

theorem raises_raiseIf {condition : Prop} [Decidable condition] {raised : Failure}
    (fine : condition → allowed raised) : Raises allowed (raiseIf.{u, v} condition raised) := by
  intro failure same
  simp only [raiseIf] at same
  split at same
  case isTrue holds => exact Except.error.inj same ▸ fine holds
  case isFalse => cases same

theorem raises_orRaise {found : Option Value} {raised : Failure} (fine : allowed raised) :
    Raises allowed (orRaise found raised) := by
  intro failure same
  cases found with
  | some value => cases same
  | none => exact Except.error.inj same ▸ fine

end

instance decidableExistsOk (outcome : Except Failure Value) (property : Value → Prop)
    [∀ value, Decidable (property value)] :
    Decidable (∃ value, outcome = .ok value ∧ property value) :=
  match outcome with
  | .error _ => isFalse (by simp)
  | .ok value => decidable_of_iff (property value) (by simp)

end Synapse
