import Synapse.Foundation.Machine

/-!
# Scripts

A script is a program whose steps are atomic on a shared state. Run alone, its
steps follow each other; in a pool of jobs, the steps of other scripts come
between them. One script serves for both, so a law of a sequence of calls and a
law of every interleaving speak about one definition.

A step has a tag, so that a guard on a pool can name the step that is about to
be taken.
-/

namespace Synapse

universe u v w x

/-- What a step returns, and so what follows it, depends on the state before it. -/
inductive Script (Tag : Type u) (State : Type v) (Result : Type w) where
  | done (result : Result)
  | atomic (tag : Tag) (effect : State → State) (resume : State → Script Tag State Result)

namespace Script

variable {Tag : Type u} {State : Type v} {Result Value : Type w}

def bind (script : Script Tag State Value) (rest : Value → Script Tag State Result) :
    Script Tag State Result :=
  match script with
  | .done value => rest value
  | .atomic tag effect resume => .atomic tag effect fun state => (resume state).bind rest

instance : Monad (Script Tag State) where
  pure := .done
  bind := bind

/-- One step that changes the state and returns a value. -/
def atomically (tag : Tag) (action : State → State × Result) : Script Tag State Result :=
  .atomic tag (fun state => (action state).1) fun state => .done (action state).2

/-! ### A script on its own -/

/-- The state and the value that a script ends with when nothing comes between its steps. -/
def run : Script Tag State Result → State → State × Result
  | .done result, state => (state, result)
  | .atomic _ effect resume, state => (resume state).run (effect state)

@[simp]
theorem run_done (result : Result) (state : State) :
    (done result : Script Tag State Result).run state = (state, result) := rfl

@[simp]
theorem run_pure (result : Result) (state : State) :
    (pure result : Script Tag State Result).run state = (state, result) := rfl

@[simp]
theorem run_atomically (tag : Tag) (action : State → State × Result) (state : State) :
    (atomically tag action).run state = action state := rfl

@[simp]
theorem run_bind (script : Script Tag State Value) (rest : Value → Script Tag State Result)
    (state : State) :
    (script >>= rest).run state = (rest (script.run state).2).run (script.run state).1 := by
  induction script generalizing state with
  | done value => rfl
  | atomic tag effect resume ih => exact ih state (effect state)

/-! ### Pre- and postconditions -/

/-- From every state with the precondition, the script ends with the postcondition. -/
def Triple (pre : State → Prop) (script : Script Tag State Result)
    (post : Result → State → Prop) : Prop :=
  ∀ state, pre state → post (script.run state).2 (script.run state).1

section

variable {pre : State → Prop} {post : Result → State → Prop}

theorem triple_pure {result : Result} (holds : ∀ state, pre state → post result state) :
    Triple pre (pure result : Script Tag State Result) post :=
  holds

theorem triple_atomically {tag : Tag} {action : State → State × Result}
    (holds : ∀ state, pre state → post (action state).2 (action state).1) :
    Triple pre (atomically tag action) post :=
  holds

theorem Triple.bind {script : Script Tag State Value} {rest : Value → Script Tag State Result}
    {middle : Value → State → Prop} (head : Triple pre script middle)
    (tail : ∀ value, Triple (middle value) (rest value) post) :
    Triple pre (script >>= rest) post := by
  intro state holds
  rw [run_bind]
  exact tail _ _ (head state holds)

theorem Triple.weaken {script : Script Tag State Result} {stronger : State → Prop}
    {weaker : Result → State → Prop} (triple : Triple pre script post)
    (narrows : ∀ state, stronger state → pre state)
    (widens : ∀ result state, post result state → weaker result state) :
    Triple stronger script weaker :=
  fun state holds => widens _ _ (triple state (narrows state holds))

end

/-- The script preserves an invariant. -/
def Keeps (invariant : State → Prop) (script : Script Tag State Result) : Prop :=
  Triple invariant script fun _ => invariant

section

variable {invariant : State → Prop}

theorem keeps_pure (result : Result) :
    Keeps invariant (pure result : Script Tag State Result) :=
  triple_pure fun _ holds => holds

theorem keeps_atomically {tag : Tag} {action : State → State × Result}
    (keeps : ∀ state, invariant state → invariant (action state).1) :
    Keeps invariant (atomically tag action) :=
  triple_atomically keeps

theorem Keeps.bind {script : Script Tag State Value} {rest : Value → Script Tag State Result}
    (head : Keeps invariant script) (tail : ∀ value, Keeps invariant (rest value)) :
    Keeps invariant (script >>= rest) :=
  Triple.bind head tail

end

/-! ### Promises -/

/-- Each step of a script keeps a promise, as long as it is taken where its tag allows it and
whatever happens between the steps. -/
def Respects (guard : Tag → State → Prop) (promise : State → State → Prop) :
    Script Tag State Result → Prop
  | .done _ => True
  | .atomic tag effect resume =>
    ∀ state, guard tag state →
      promise state (effect state) ∧ (resume state).Respects guard promise

section

variable {guard : Tag → State → Prop} {promise : State → State → Prop}

theorem Respects.mono {script : Script Tag State Result} {stronger : Tag → State → Prop}
    {weaker : State → State → Prop} (respects : script.Respects guard promise)
    (narrows : ∀ tag state, stronger tag state → guard tag state)
    (widens : ∀ before after, promise before after → weaker before after) :
    script.Respects stronger weaker := by
  induction script with
  | done result => trivial
  | atomic tag effect resume ih =>
    intro state allowed
    rcases respects state (narrows tag state allowed) with ⟨kept, rest⟩
    exact ⟨widens state (effect state) kept, ih state rest⟩

theorem respects_pure (result : Result) :
    (pure result : Script Tag State Result).Respects guard promise :=
  trivial

variable {rest : Value → Script Tag State Result}

theorem Respects.bind {script : Script Tag State Value} (head : script.Respects guard promise)
    (tail : ∀ value, (rest value).Respects guard promise) :
    (script >>= rest).Respects guard promise := by
  induction script with
  | done value => exact tail value
  | atomic tag effect resume ih =>
    intro state allowed
    exact ⟨(head state allowed).1, ih state (head state allowed).2⟩

theorem respects_of_trivial (trivial : ∀ before after, promise before after)
    (script : Script Tag State Result) : script.Respects guard promise := by
  induction script with
  | done result => exact True.intro
  | atomic tag effect resume ih =>
    intro state _
    exact ⟨trivial state (effect state), ih state⟩

/-- The rest of a script may rely on what its first step has read. -/
theorem respects_atomically_bind {tag : Tag} {action : State → State × Value}
    (steps : ∀ state, guard tag state →
      promise state (action state).1 ∧ (rest (action state).2).Respects guard promise) :
    (atomically tag action >>= rest).Respects guard promise :=
  steps

theorem respects_atomically {tag : Tag} {action : State → State × Result}
    (steps : ∀ state, guard tag state → promise state (action state).1) :
    (atomically tag action).Respects guard promise :=
  fun state allowed => ⟨steps state allowed, trivial⟩

end

end Script

/-! ### Pools -/

/-- A call in progress: what was called, and the steps it still has to take. -/
structure Job (Call : Type x) (Tag : Type u) (State : Type v) (Result : Type w) where
  call : Call
  rest : Script Tag State Result

/-- The jobs of any number of callers over one state. -/
structure Pool (Call : Type x) (Tag : Type u) (State : Type v) (Result : Type w) where
  shared : State
  jobs : List (Job Call Tag State Result)

/-- A caller makes a call, or the job at an index takes its next step. -/
inductive PoolStep (Call : Type x) where
  | call (call : Call)
  | advance (index : ℕ)

namespace Pool

variable {Call : Type x} {Tag : Type u} {State : Type v} {Result : Type w}

def step (script : Call → Script Tag State Result) (pool : Pool Call Tag State Result) :
    PoolStep Call → Option (Pool Call Tag State Result)
  | .call call => some { pool with jobs := pool.jobs ++ [⟨call, script call⟩] }
  | .advance index =>
    match pool.jobs[index]? with
    | some ⟨call, .atomic _ effect resume⟩ =>
      some ⟨effect pool.shared, pool.jobs.set index ⟨call, resume pool.shared⟩⟩
    | _ => none

def machine (script : Call → Script Tag State Result) :
    Machine (Pool Call Tag State Result) (PoolStep Call) where
  step := step script

/-- A guard on the calls, their tags and the shared state, as a guard on the steps of a pool. -/
def Guard (guard : Call → Tag → State → Prop) (pool : Pool Call Tag State Result) :
    PoolStep Call → Prop
  | .call _ => True
  | .advance index =>
    match pool.jobs[index]? with
    | some ⟨call, .atomic tag _ _⟩ => guard call tag pool.shared
    | _ => True

instance decidableGuard (guard : Call → Tag → State → Prop)
    [∀ call tag state, Decidable (guard call tag state)] (pool : Pool Call Tag State Result) :
    ∀ label, Decidable (pool.Guard guard label)
  | .call _ => isTrue trivial
  | .advance index =>
    match found : pool.jobs[index]? with
    | some ⟨call, .atomic tag _ _⟩ =>
      decidable_of_iff (guard call tag pool.shared) (by simp [Guard, found])
    | some ⟨_, .done _⟩ => isTrue (by simp [Guard, found])
    | none => isTrue (by simp [Guard, found])

/-- Each call keeps a promise of its own. -/
def Keeps (guard : Call → Tag → State → Prop) (promise : Call → State → State → Prop)
    (pool : Pool Call Tag State Result) : Prop :=
  ∀ job ∈ pool.jobs, job.rest.Respects (guard job.call) (promise job.call)

variable {script : Call → Script Tag State Result} {guard : Call → Tag → State → Prop}
  {promise : Call → State → State → Prop} {pool next : Pool Call Tag State Result}

theorem advance_cases {index : ℕ} (stepped : (machine script).step pool (.advance index) = some next) :
    ∃ call tag effect resume, pool.jobs[index]? = some ⟨call, .atomic tag effect resume⟩ ∧
      next = ⟨effect pool.shared, pool.jobs.set index ⟨call, resume pool.shared⟩⟩ := by
  simp only [machine, step] at stepped
  split at stepped
  case h_1 call tag effect resume found =>
    exact ⟨call, tag, effect, resume, found, (Option.some.inj stepped).symm⟩
  case h_2 => cases stepped

theorem Keeps.step (keeps : pool.Keeps guard promise)
    (respects : ∀ call, (script call).Respects (guard call) (promise call)) {label : PoolStep Call}
    (allowed : pool.Guard guard label) (stepped : (machine script).step pool label = some next) :
    next.Keeps guard promise := by
  cases label with
  | call call =>
    cases stepped
    intro job present
    rcases List.mem_append.mp present with earlier | new
    · exact keeps job earlier
    · rw [List.mem_singleton.mp new]
      exact respects call
  | advance index =>
    rcases advance_cases stepped with ⟨call, tag, effect, resume, found, rfl⟩
    simp only [Guard, found] at allowed
    intro job present
    rcases List.mem_or_eq_of_mem_set present with earlier | rfl
    · exact keeps job earlier
    · exact (keeps _ (List.mem_of_getElem? found) pool.shared allowed).2

/-- In a guarded run from an empty pool, each step keeps the promise of the call it belongs to. -/
theorem promise_of_run (respects : ∀ call, (script call).Respects (guard call) (promise call))
    {shared : State} {labels : List (PoolStep Call)} {index : ℕ}
    (guarded : (machine script).Guarded (Guard guard) ⟨shared, []⟩ (labels ++ [.advance index]))
    (ran : (machine script).run ⟨shared, []⟩ labels = some pool)
    (stepped : (machine script).step pool (.advance index) = some next) :
    ∃ job, pool.jobs[index]? = some job ∧ promise job.call pool.shared next.shared := by
  rcases guarded.of_append ran with ⟨guarded, allowed, _⟩
  have initial : (⟨shared, []⟩ : Pool Call Tag State Result).Keeps guard promise := by
    exact nofun
  have keeps : pool.Keeps guard promise :=
    Machine.run_invariant_of_guarded
      (fun keeps allowed stepped => keeps.step respects allowed stepped) initial guarded ran
  rcases advance_cases stepped with ⟨call, tag, effect, resume, found, rfl⟩
  simp only [Guard, found] at allowed
  exact ⟨_, found, (keeps _ (List.mem_of_getElem? found) pool.shared allowed).1⟩

end Pool

end Synapse
