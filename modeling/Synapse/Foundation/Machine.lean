import Mathlib

/-!
# Labelled machines

The components of this development take one atomic step at a time: a critical
section, a database transaction, or the return of a callback. A `Machine` gives
the successor of a state under a label; the label carries every choice the
environment makes (which thread moves, what a callback does, which identifier
is drawn), so a machine is a function and its runs can be evaluated.

A law about every interleaving is an invariant of every run. When a law holds
only as long as some branch is not taken, the branch is excluded by a guard on
the state before the step, and the law is an invariant of the guarded runs.
-/

namespace Synapse

universe u v

/-- A state machine whose nondeterminism is carried by its labels. A label is
either refused in a state, or leads to exactly one successor. -/
structure Machine (State : Type u) (Label : Type v) where
  step : State → Label → Option State

/-- Whether a concrete step or run ends where a property holds can be checked by taking it. -/
instance decidableExistsSome {Value : Type u} (found : Option Value) (property : Value → Prop)
    [∀ value, Decidable (property value)] : Decidable (∃ value, found = some value ∧ property value) :=
  match found with
  | none => isFalse (by simp)
  | some value => decidable_of_iff (property value) (by simp)

/-- A guarded step is taken where its guard holds, and leads to what it says. -/
theorem of_guard {Value : Type u} {guard : Prop} [Decidable guard] {next after : Value}
    (stepped : (if guard then some next else none) = some after) : guard ∧ next = after := by
  simpa using stepped

namespace Machine

variable {State : Type u} {Label : Type v} (machine : Machine State Label)

/-- The state reached by taking the labels one after the other. -/
def run : State → List Label → Option State
  | state, [] => some state
  | state, label :: labels => (machine.step state label).bind fun next => run next labels

/-- Every step of the run from a state is taken where `guard` allows it. -/
def Guarded (guard : State → Label → Prop) : State → List Label → Prop
  | _, [] => True
  | state, label :: labels =>
    guard state label ∧ ∀ next, machine.step state label = some next →
      Guarded guard next labels

/-- Whether a concrete run is guarded can be checked by running it. -/
instance decidableGuarded (guard : State → Label → Prop)
    [∀ state label, Decidable (guard state label)] :
    ∀ state labels, Decidable (machine.Guarded guard state labels)
  | _, [] => isTrue trivial
  | state, label :: labels =>
    match stepped : machine.step state label with
    | none => decidable_of_iff (guard state label) (by simp [Guarded, stepped])
    | some next =>
      have := decidableGuarded guard next labels
      decidable_of_iff (guard state label ∧ machine.Guarded guard next labels)
        (by simp [Guarded, stepped])

/-- A state that some run from `start` ends in. -/
def Reachable (start state : State) : Prop :=
  ∃ labels, machine.run start labels = some state

variable {machine}

@[simp]
theorem run_nil (state : State) : machine.run state [] = some state := rfl

variable {labels : List Label}

theorem run_cons {state final : State} {label : Label} :
    machine.run state (label :: labels) = some final ↔
      ∃ next, machine.step state label = some next ∧ machine.run next labels = some final := by
  simp [run, Option.bind_eq_some_iff]

variable {start : State}

theorem run_append {final : State} {front back : List Label} :
    machine.run start (front ++ back) = some final ↔
      ∃ middle, machine.run start front = some middle ∧
        machine.run middle back = some final := by
  induction front generalizing start with
  | nil => simp
  | cons label labels ih =>
    simp only [List.cons_append, run_cons, ih]
    constructor
    · rintro ⟨next, stepped, middle, front, back⟩
      exact ⟨middle, ⟨next, stepped, front⟩, back⟩
    · rintro ⟨middle, ⟨next, stepped, front⟩, back⟩
      exact ⟨next, stepped, middle, front, back⟩

theorem Guarded.of_append {guard : State → Label → Prop} {middle : State}
    {front back : List Label} (guarded : machine.Guarded guard start (front ++ back))
    (ran : machine.run start front = some middle) :
    machine.Guarded guard start front ∧ machine.Guarded guard middle back := by
  induction front generalizing start with
  | nil =>
    obtain rfl : start = middle := by simpa using ran
    exact ⟨trivial, guarded⟩
  | cons label labels ih =>
    rcases run_cons.mp ran with ⟨next, stepped, rest⟩
    refine ⟨⟨guarded.1, fun other taken => ?_⟩, (ih (guarded.2 next stepped) rest).2⟩
    obtain rfl := Option.mem_unique stepped taken
    exact (ih (guarded.2 next stepped) rest).1

/-- A property that every allowed step preserves holds at the end of every
guarded run that starts in it. -/
theorem run_invariant_of_guarded {guard : State → Label → Prop} {invariant : State → Prop}
    (preserved : ∀ {state label next}, invariant state → guard state label →
      machine.step state label = some next → invariant next)
    {start final : State} {labels : List Label}
    (initial : invariant start) (guarded : machine.Guarded guard start labels)
    (ran : machine.run start labels = some final) : invariant final := by
  induction labels generalizing start with
  | nil =>
    obtain rfl : start = final := by simpa using ran
    exact initial
  | cons label labels ih =>
    rcases run_cons.mp ran with ⟨next, stepped, rest⟩
    exact ih (preserved initial guarded.1 stepped) (guarded.2 next stepped) rest

variable {allowed : Label → Prop}

/-- A guard on the labels alone can be checked on the labels. -/
theorem guarded_of_labels (fine : ∀ label ∈ labels, allowed label) (start : State) :
    machine.Guarded (fun _ label => allowed label) start labels := by
  induction labels generalizing start with
  | nil => trivial
  | cons label labels ih =>
    exact ⟨fine label List.mem_cons_self,
      fun next _ => ih (fun other present => fine other (List.mem_cons_of_mem _ present)) next⟩

/-- A property that every step preserves holds at the end of every run. -/
theorem run_invariant {invariant : State → Prop}
    (preserved : ∀ {state label next}, invariant state →
      machine.step state label = some next → invariant next)
    {start final : State} {labels : List Label}
    (initial : invariant start) (ran : machine.run start labels = some final) :
    invariant final :=
  run_invariant_of_guarded (fun holds _ stepped => preserved holds stepped) initial
    (guarded_of_labels (fun _ _ => trivial : ∀ label ∈ labels, True) start) ran

/-- A law about a state and the labels that have led to it: it holds at the end of every run in
which each step from a reached state preserves it. -/
theorem run_history {final : State} {law : List Label → State → Prop} (initial : law [] start)
    (preserved : ∀ {done state label next}, machine.run start done = some state →
      law done state → machine.step state label = some next → law (done ++ [label]) next)
    (ran : machine.run start labels = some final) : law labels final := by
  induction labels using List.reverseRecOn generalizing final with
  | nil =>
    obtain rfl : start = final := by simpa using ran
    exact initial
  | append_singleton done label ih =>
    rcases run_append.mp ran with ⟨middle, front, back⟩
    rcases run_cons.mp back with ⟨next, stepped, rest⟩
    obtain rfl : next = final := by simpa using rest
    exact preserved front (ih front) stepped

/-- While each state is done or has an allowed step that lowers the load, some
allowed run comes to rest in a done state. -/
theorem run_to_rest {invariant done : State → Prop} (load : State → ℕ)
    (progress : ∀ state, invariant state → done state ∨ ∃ label next, allowed label ∧
      machine.step state label = some next ∧ invariant next ∧ load next < load state)
    (initial : invariant start) :
    ∃ labels final, (∀ label ∈ labels, allowed label) ∧ machine.run start labels = some final ∧
      invariant final ∧ done final := by
  induction weight : load start using Nat.strongRecOn generalizing start with
  | ind bound ih =>
    rcases progress start initial with rest | ⟨label, next, fine, stepped, holds, lighter⟩
    · exact ⟨[], start, by simp, rfl, initial, rest⟩
    · rcases ih (load next) (weight ▸ lighter) holds rfl with
        ⟨labels, final, allFine, ran, finalHolds, rest⟩
      refine ⟨label :: labels, final, ?_, run_cons.mpr ⟨next, stepped, ran⟩, finalHolds, rest⟩
      rintro other (_ | ⟨_, present⟩)
      · exact fine
      · exact allFine other present

theorem Reachable.refl (state : State) : machine.Reachable state state :=
  ⟨[], rfl⟩

theorem Reachable.trans {middle final : State}
    (front : machine.Reachable start middle) (back : machine.Reachable middle final) :
    machine.Reachable start final := by
  rcases front with ⟨front, frontRan⟩
  rcases back with ⟨back, backRan⟩
  exact ⟨front ++ back, run_append.mpr ⟨middle, frontRan, backRan⟩⟩

theorem Reachable.step {state next : State} {label : Label}
    (reachable : machine.Reachable start state)
    (stepped : machine.step state label = some next) : machine.Reachable start next :=
  reachable.trans ⟨[label], run_cons.mpr ⟨next, stepped, rfl⟩⟩

end Machine

end Synapse
