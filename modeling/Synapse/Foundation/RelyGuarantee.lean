import Synapse.Foundation.Script

/-!
# Rely and guarantee

What a script knows between its steps is a property that the steps of others keep. Each of its own steps
keeps a promise to the others, and what it knows at its end is its postcondition. In a pool whose calls keep
what the others rely on, every job goes on as it would by itself.
-/

namespace Synapse

open List

universe u v w x

namespace Script

variable {Tag : Type u} {State : Type v} {Result Value : Type w}

/-- The steps of others keep a property. -/
def Stable (rely : State → State → Prop) (known : State → Prop) : Prop :=
  ∀ before after, known before → rely before after → known after

/-- From what is known, each step keeps the promise and the script ends with the postcondition. -/
def Guarantees (guard : Tag → State → Prop) (rely promise : State → State → Prop)
    (post : Result → State → Prop) : Script Tag State Result → (State → Prop) → Prop
  | .done result, known => ∀ state, known state → post result state
  | .atomic tag effect resume, known => ∀ state, known state → guard tag state →
      promise state (effect state) ∧ ∃ next, Stable rely next ∧ next (effect state) ∧
        (resume state).Guarantees guard rely promise post next

variable {guard : Tag → State → Prop} {rely promise : State → State → Prop}
  {post : Result → State → Prop} {known : State → Prop}

variable {script : Script Tag State Result}

theorem Guarantees.mono {weaker : State → Prop}
    (own : script.Guarantees guard rely promise post weaker) (implies : ∀ state, known state → weaker state) :
    script.Guarantees guard rely promise post known := by
  cases script with
  | done result => exact fun state holds => own state (implies state holds)
  | atomic tag effect resume => exact fun state holds allowed => own state (implies state holds) allowed

theorem Guarantees.widen {stronger : Result → State → Prop}
    (own : script.Guarantees guard rely promise stronger known)
    (implies : ∀ result state, stronger result state → post result state) :
    script.Guarantees guard rely promise post known := by
  induction script generalizing known with
  | done result => exact fun state holds => implies result state (own state holds)
  | atomic tag effect resume ih =>
    intro state holds allowed
    rcases own state holds allowed with ⟨kept, next, stable, reached, goes⟩
    exact ⟨kept, next, stable, reached, ih state goes⟩

theorem guarantees_pure {result : Result} (holds : ∀ state, known state → post result state) :
    (pure result : Script Tag State Result).Guarantees guard rely promise post known := holds

theorem guarantees_of_false (script : Script Tag State Result) (never : ∀ state, ¬ known state) :
    script.Guarantees guard rely promise post known := by
  cases script with
  | done result => exact fun state holds => absurd holds (never state)
  | atomic tag effect resume => exact fun state holds => absurd holds (never state)

theorem Guarantees.bind {script : Script Tag State Value} {rest : Value → Script Tag State Result}
    {middle : Value → State → Prop} (head : script.Guarantees guard rely promise middle known)
    (tail : ∀ value, (rest value).Guarantees guard rely promise post (middle value)) :
    (script >>= rest).Guarantees guard rely promise post known := by
  induction script generalizing known with
  | done value => exact (tail value).mono head
  | atomic tag effect resume ih =>
    intro state holds allowed
    rcases head state holds allowed with ⟨kept, next, stable, reached, goes⟩
    exact ⟨kept, next, stable, reached, ih state goes⟩

theorem stable_and {other : State → Prop} (first : Stable rely known) (second : Stable rely other) :
    Stable rely fun state => known state ∧ other state :=
  fun before after both relied => ⟨first before after both.1 relied, second before after both.2 relied⟩

theorem Guarantees.frame {beside : State → Prop}
    (own : script.Guarantees guard rely promise post known) (stable : Stable rely beside)
    (keeps : ∀ before after, promise before after → beside before → beside after) :
    script.Guarantees guard rely promise (fun result state => post result state ∧ beside state)
      fun state => known state ∧ beside state := by
  induction script generalizing known with
  | done result => exact fun state holds => ⟨own state holds.1, holds.2⟩
  | atomic tag effect resume ih =>
    intro state holds allowed
    rcases own state holds.1 allowed with ⟨kept, next, stableNext, reached, goes⟩
    exact ⟨kept, _, stable_and stableNext stable, ⟨reached, keeps _ _ kept holds.2⟩, ih state goes⟩

theorem guarantees_atomically {tag : Tag} {action : State → State × Result}
    (stable : ∀ result, Stable rely (post result)) (steps : ∀ state, known state → guard tag state →
      promise state (action state).1 ∧ post (action state).2 (action state).1) :
    (atomically tag action).Guarantees guard rely promise post known := by
  intro state holds allowed
  exact ⟨(steps state holds allowed).1, post (action state).2, stable _, (steps state holds allowed).2,
    fun after reached => reached⟩

theorem stable_true : Stable rely fun _ => True := fun _ _ _ _ => trivial

end Script

namespace Pool

variable {Call : Type x} {Tag : Type u} {State : Type v} {Result : Type w}

/-- What calls start with, where their steps are allowed, what they rely on and promise, and how they end. -/
structure Contract (Call : Type x) (Tag : Type u) (State : Type v) (Result : Type w) where
  compatible : Call → Call → Prop
  starts : Call → State → Prop
  guard : Call → Tag → State → Prop
  rely : Call → State → State → Prop
  promise : Call → State → State → Prop
  post : Call → Result → State → Prop

namespace Contract

variable (contract : Contract Call Tag State Result)

/-- A job goes on as it would by itself. -/
def Secures (job : Job Call Tag State Result) (state : State) : Prop :=
  ∃ known, Script.Stable (contract.rely job.call) known ∧ known state ∧
    job.rest.Guarantees (contract.guard job.call) (contract.rely job.call) (contract.promise job.call)
      (contract.post job.call) known

/-- Calls are made where they can start and beside those they are compatible with, and steps are taken where
they are allowed. -/
def Scheduled (pool : Pool Call Tag State Result) : PoolStep Call → Prop
  | .call call => contract.starts call pool.shared ∧
      ∀ job ∈ pool.jobs, contract.compatible call job.call ∧ contract.compatible job.call call
  | .advance index =>
    match pool.jobs[index]? with
    | some ⟨call, .atomic tag _ _⟩ => contract.guard call tag pool.shared
    | _ => True

/-- Every job is secure, and every two are compatible. -/
structure Secure (pool : Pool Call Tag State Result) : Prop where
  secures : ∀ job ∈ pool.jobs, contract.Secures job pool.shared
  compatible : ∀ (i j : ℕ) (first second : Job Call Tag State Result), i ≠ j →
    pool.jobs[i]? = some first → pool.jobs[j]? = some second →
      contract.compatible first.call second.call

instance decidableScheduled [∀ call other, Decidable (contract.compatible call other)]
    [∀ call state, Decidable (contract.starts call state)]
    [∀ call tag state, Decidable (contract.guard call tag state)] (pool : Pool Call Tag State Result) :
    ∀ label, Decidable (contract.Scheduled pool label)
  | .call call => inferInstanceAs (Decidable (contract.starts call pool.shared ∧
      ∀ job ∈ pool.jobs, contract.compatible call job.call ∧ contract.compatible job.call call))
  | .advance index =>
    match found : pool.jobs[index]? with
    | some ⟨call, .atomic tag _ _⟩ =>
      decidable_of_iff (contract.guard call tag pool.shared) (by simp [Scheduled, found])
    | some ⟨_, .done _⟩ => isTrue (by simp [Scheduled, found])
    | none => isTrue (by simp [Scheduled, found])

/-- A step is not one of a call of a kind. -/
def Avoids (kind : Call → Prop) (pool : Pool Call Tag State Result) : PoolStep Call → Prop
  | .call _ => True
  | .advance index => ∀ job ∈ pool.jobs[index]?, ¬ kind job.call

instance decidableAvoids (kind : Call → Prop) [∀ call, Decidable (kind call)]
    (pool : Pool Call Tag State Result) : ∀ label, Decidable (Avoids kind pool label)
  | .call _ => isTrue trivial
  | .advance index => inferInstanceAs (Decidable (∀ job ∈ pool.jobs[index]?, ¬ kind job.call))

variable {contract} {script : Call → Script Tag State Result} {pool next : Pool Call Tag State Result}

/-- A call keeps its contract when its promise is what others rely on and its script guarantees it. -/
structure Sound (contract : Contract Call Tag State Result) (script : Call → Script Tag State Result) :
    Prop where
  relies : ∀ call other before after, contract.compatible call other →
    contract.promise call before after → contract.rely other before after
  stable : ∀ call, Script.Stable (contract.rely call) (contract.starts call)
  guarantees : ∀ call, (script call).Guarantees (contract.guard call) (contract.rely call)
    (contract.promise call) (contract.post call) (contract.starts call)

theorem Secure.promise (secure : contract.Secure pool) {index : ℕ}
    (scheduled : contract.Scheduled pool (.advance index))
    (stepped : (Pool.machine script).step pool (.advance index) = some next) :
    ∃ job, pool.jobs[index]? = some job ∧ contract.promise job.call pool.shared next.shared := by
  rcases advance_cases stepped with ⟨call, tag, effect, resume, found, rfl⟩
  simp only [Scheduled, found] at scheduled
  rcases secure.secures _ (mem_of_getElem? found) with ⟨known, _, holds, goes⟩
  exact ⟨_, found, (goes pool.shared holds scheduled).1⟩

theorem Secure.step (sound : contract.Sound script) (secure : contract.Secure pool)
    {label : PoolStep Call} (scheduled : contract.Scheduled pool label)
    (stepped : (Pool.machine script).step pool label = some next) : contract.Secure next := by
  cases label with
  | call call =>
    cases stepped
    refine ⟨fun job mem => ?_, fun i j first second different here there => ?_⟩
    · rcases mem_append.1 mem with earlier | new
      · exact secure.secures job earlier
      · rw [mem_singleton.1 new]
        exact ⟨contract.starts call, sound.stable call, scheduled.1, sound.guarantees call⟩
    · have place {k : ℕ} {job : Job Call Tag State Result}
          (found : (pool.jobs ++ [⟨call, script call⟩])[k]? = some job) :
          pool.jobs[k]? = some job ∨ k = pool.jobs.length ∧ job.call = call := by
        rw [getElem?_append] at found
        split at found
        · exact Or.inl found
        · next beyond =>
            rcases List.getElem?_eq_some_iff.1 found with ⟨inside, rfl⟩
            rw [length_singleton] at inside
            exact Or.inr ⟨by omega, by rw [getElem_singleton]⟩
      rcases place here with old | ⟨last, own⟩ <;> rcases place there with other | ⟨final, other⟩
      · exact secure.compatible i j first second different old other
      · rw [other]
        exact (scheduled.2 first (mem_of_getElem? old)).2
      · rw [own]
        exact (scheduled.2 second (mem_of_getElem? other)).1
      · exact absurd (last.trans final.symm) different
  | advance index =>
    rcases secure.promise scheduled stepped with ⟨own, located, promised⟩
    rcases advance_cases stepped with ⟨call, tag, effect, resume, found, rfl⟩
    obtain rfl : own = _ := Option.mem_unique located found
    simp only [Scheduled, found] at scheduled
    have calls {k : ℕ} {job : Job Call Tag State Result}
        (there : (pool.jobs.set index ⟨call, resume pool.shared⟩)[k]? = some job) :
        ∃ before, pool.jobs[k]? = some before ∧ before.call = job.call ∧ (k ≠ index → before = job) := by
      rw [getElem?_set] at there
      split at there
      · next same =>
          subst same
          split at there
          · exact ⟨_, found, by rw [← Option.some.inj there], fun different => absurd rfl different⟩
          · cases there
      · exact ⟨job, there, rfl, fun _ => rfl⟩
    refine ⟨fun job mem => ?_, fun i j first second different here there => ?_⟩
    · rcases mem_iff_getElem?.1 mem with ⟨k, there⟩
      by_cases same : k = index
      · subst same
        have inside := (List.getElem?_eq_some_iff.1 found).1
        rw [getElem?_set_self inside, Option.some.injEq] at there
        subst there
        rcases secure.secures _ (mem_of_getElem? found) with ⟨known, _, holds, goes⟩
        rcases goes pool.shared holds scheduled with ⟨_, next, stable, reached, rest⟩
        exact ⟨next, stable, reached, rest⟩
      · rcases calls there with ⟨before, old, _, unchanged⟩
        obtain rfl := unchanged same
        rcases secure.secures before (mem_of_getElem? old) with ⟨known, stable, holds, goes⟩
        have compatible := secure.compatible index k _ before (Ne.symm same) found old
        exact ⟨known, stable, stable _ _ holds (sound.relies _ _ _ _ compatible promised), goes⟩
    · rcases calls here with ⟨first_before, old, sameCall, _⟩
      rcases calls there with ⟨second_before, older, same_call, _⟩
      rw [← sameCall, ← same_call]
      exact secure.compatible i j first_before second_before different old older

theorem secure_start (shared : State) : contract.Secure (⟨shared, []⟩ : Pool Call Tag State Result) where
  secures _ mem := absurd mem not_mem_nil
  compatible _ _ _ _ _ here := by cases here

variable {labels : List (PoolStep Call)}

theorem Secure.run (sound : contract.Sound script) (secure : contract.Secure pool)
    (scheduled : (Pool.machine script).Guarded contract.Scheduled pool labels)
    (ran : (Pool.machine script).run pool labels = some next) : contract.Secure next :=
  Machine.run_invariant_of_guarded
    (fun secure allowed stepped => secure.step sound allowed stepped) secure scheduled ran

/-- A property that the promises of calls of other kinds keep is kept in a run that avoids a kind. -/
theorem Secure.run_avoiding (sound : contract.Sound script) (secure : contract.Secure pool)
    {kind : Call → Prop} {holds : State → Prop} (keeps : ∀ call before after, ¬ kind call →
      contract.promise call before after → holds before → holds after)
    (scheduled : (Pool.machine script).Guarded
      (fun pool label => contract.Scheduled pool label ∧ Avoids kind pool label) pool labels)
    (ran : (Pool.machine script).run pool labels = some next) (initial : holds pool.shared) :
    holds next.shared := by
  have step {state after : Pool Call Tag State Result} {label : PoolStep Call}
      (before : contract.Secure state ∧ holds state.shared)
      (allowed : contract.Scheduled state label ∧ Avoids kind state label)
      (stepped : (Pool.machine script).step state label = some after) :
      contract.Secure after ∧ holds after.shared := by
    refine ⟨before.1.step sound allowed.1 stepped, ?_⟩
    cases label with
    | call call =>
      cases stepped
      exact before.2
    | advance index =>
      rcases before.1.promise allowed.1 stepped with ⟨job, found, promised⟩
      exact keeps job.call _ _ (allowed.2 job found) promised before.2
  exact (Machine.run_invariant_of_guarded step ⟨secure, initial⟩ scheduled ran).2

theorem Secure.post (secure : contract.Secure pool) {call : Call} {result : Result}
    (mem : (⟨call, .done result⟩ : Job Call Tag State Result) ∈ pool.jobs) :
    contract.post call result pool.shared := by
  rcases secure.secures _ mem with ⟨known, _, holds, ends⟩
  exact ends pool.shared holds

end Contract

end Pool

end Synapse
