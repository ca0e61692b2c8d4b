import Synapse.Foundation.Machine

/-!
# Routines under locks

A routine takes atomic steps on a shared state and holds locks in between. What the environment
decides in a step (a failure of the disk, how much of a write goes through, what time it is) is a
choice. A worker may crash at any point, and its locks are free from then on.

The rules are those of rely and guarantee: a protocol says what a worker may do in a step, given
the locks that it holds, and what a lock promises while it is free. Between two steps of a worker
the others may have done anything that the protocol allows with locks of their own.
-/

namespace Synapse

open List

universe u v w x y

/-- What follows a step depends on the state before it and on the choice. -/
inductive Routine (Lock : Type u) (State : Type v) (Choice : Type w) (Result : Type x) where
  | done (result : Result)
  | atomic (effect : State → Choice → State)
      (resume : State → Choice → Routine Lock State Choice Result)
  | acquire (lock : Lock) (rest : Routine Lock State Choice Result)
  | release (lock : Lock) (rest : Routine Lock State Choice Result)

namespace Routine

variable {Lock : Type u} {State : Type v} {Choice : Type w} {Result Value : Type x}

def bind (routine : Routine Lock State Choice Value)
    (next : Value → Routine Lock State Choice Result) : Routine Lock State Choice Result :=
  match routine with
  | .done value => next value
  | .atomic effect resume => .atomic effect fun state choice => (resume state choice).bind next
  | .acquire lock rest => .acquire lock (rest.bind next)
  | .release lock rest => .release lock (rest.bind next)

instance : Monad (Routine Lock State Choice) where
  pure := .done
  bind := bind

/-- One step that changes the state and returns a value. -/
def atomically (action : State → Choice → State × Result) : Routine Lock State Choice Result :=
  .atomic (fun state choice => (action state choice).1) fun state choice =>
    .done (action state choice).2

/-- `with lock: body` -/
def holding (lock : Lock) (body : Routine Lock State Choice Result) :
    Routine Lock State Choice Result :=
  .acquire lock (body >>= fun result => .release lock (.done result))

/-- The routine ends in a state with a result when it runs alone, with allowed choices. -/
def Ends (allowed : Choice → Prop) :
    Routine Lock State Choice Result → State → State → Result → Prop
  | .done result, state, final, last => final = state ∧ last = result
  | .atomic effect resume, state, final, last =>
    ∃ choice, allowed choice ∧ (resume state choice).Ends allowed (effect state choice) final last
  | .acquire _ rest, state, final, last => rest.Ends allowed state final last
  | .release _ rest, state, final, last => rest.Ends allowed state final last

section

variable {allowed : Choice → Prop} {state final : State}

theorem Ends.bind_iff {routine : Routine Lock State Choice Value}
    {next : Value → Routine Lock State Choice Result} {last : Result} :
    (routine >>= next).Ends allowed state final last ↔
      ∃ middle value, routine.Ends allowed state middle value ∧
        (next value).Ends allowed middle final last := by
  induction routine generalizing state with
  | done value =>
    constructor
    · intro ends
      exact ⟨state, value, ⟨rfl, rfl⟩, ends⟩
    · rintro ⟨middle, other, ⟨rfl, rfl⟩, ends⟩
      exact ends
  | atomic effect resume ih =>
    constructor
    · rintro ⟨choice, fine, ends⟩
      rcases (ih state choice).mp ends with ⟨middle, value, first, rest⟩
      exact ⟨middle, value, ⟨choice, fine, first⟩, rest⟩
    · rintro ⟨middle, value, ⟨choice, fine, first⟩, rest⟩
      exact ⟨choice, fine, (ih state choice).mpr ⟨middle, value, first, rest⟩⟩
  | acquire lock rest ih => exact ih
  | release lock rest ih => exact ih

theorem exists_ends (choice : Choice) (fine : allowed choice)
    (routine : Routine Lock State Choice Result) (state : State) :
    ∃ final last, routine.Ends allowed state final last := by
  induction routine generalizing state with
  | done result => exact ⟨state, result, rfl, rfl⟩
  | atomic effect resume ih =>
    rcases ih state choice (effect state choice) with ⟨final, last, ends⟩
    exact ⟨final, last, choice, fine, ends⟩
  | acquire lock rest ih => exact ih state
  | release lock rest ih => exact ih state

end

end Routine

/-! ### Protocols -/

structure Protocol (Lock : Type u) (State : Type v) (Choice : Type w) where
  invariant : State → Prop
  /-- What a worker may do in one step, given the locks that it holds. -/
  allows : List Lock → State → State → Prop
  /-- The choices that are considered, given the locks that the worker holds. -/
  permits : List Lock → State → Choice → Prop
  /-- What holds while a lock is free. -/
  promise : Lock → State → Prop
  invariant_of_allows : ∀ {held before after}, invariant before → allows held before after →
    invariant after
  /-- Nobody but its holder changes what a lock protects. -/
  promise_of_allows : ∀ {held before after lock}, lock ∉ held → allows held before after →
    promise lock before → promise lock after

namespace Protocol

variable {Lock : Type u} {State : Type v} {Choice : Type w} {Result Value : Type x}
  (protocol : Protocol Lock State Choice)

/-- What the other workers may have done while a worker holds locks. -/
def Others (held : List Lock) : State → State → Prop :=
  Relation.ReflTransGen fun before after =>
    ∃ theirs, held.Disjoint theirs ∧ protocol.allows theirs before after

/-- Every step of the routine is allowed, every lock is given back as it promises, and the routine
ends with the postcondition, whatever the others do. -/
def Safe (post : List Lock → Result → State → Prop) :
    List Lock → Routine Lock State Choice Result → State → Prop
  | held, .done result, state => ∀ now, protocol.Others held state now → post held result now
  | held, .atomic effect resume, state =>
    ∀ now choice, protocol.Others held state now → protocol.invariant now →
      protocol.permits held now choice →
        protocol.allows held now (effect now choice) ∧
          Safe post held (resume now choice) (effect now choice)
  | held, .acquire lock rest, state =>
    ∀ now, protocol.Others held state now → protocol.invariant now → protocol.promise lock now →
      Safe post (lock :: held) rest now
  | held, .release lock rest, state =>
    ∀ now, protocol.Others held state now →
      protocol.promise lock now ∧ ∃ others, held = lock :: others ∧ Safe post others rest now

variable {protocol} {post : List Lock → Result → State → Prop} {held : List Lock}
  {state after : State}

variable {routine : Routine Lock State Choice Result}

theorem Safe.later
    (safe : protocol.Safe post held routine state) (others : protocol.Others held state after) :
    protocol.Safe post held routine after := by
  cases routine with
  | done result => exact fun now more => safe now (others.trans more)
  | atomic effect resume => exact fun now choice more => safe now choice (others.trans more)
  | acquire lock rest => exact fun now more => safe now (others.trans more)
  | release lock rest => exact fun now more => safe now (others.trans more)

variable {next : Value → Routine Lock State Choice Result}

theorem Safe.bind {routine : Routine Lock State Choice Value}
    (safe : protocol.Safe (fun held value now => protocol.Safe post held (next value) now) held
      routine state) :
    protocol.Safe post held (routine >>= next) state := by
  induction routine generalizing held state with
  | done value => exact safe state .refl
  | atomic effect resume ih =>
    intro now choice others holds permitted
    rcases safe now choice others holds permitted with ⟨allowed, rest⟩
    exact ⟨allowed, ih now choice rest⟩
  | acquire lock rest ih => exact fun now others holds promised => ih (safe now others holds promised)
  | release lock rest ih =>
    intro now others
    rcases safe now others with ⟨promised, before, rfl, rest⟩
    exact ⟨promised, before, rfl, ih rest⟩

theorem Safe.mono
    {weaker : List Lock → Result → State → Prop} (safe : protocol.Safe post held routine state)
    (widens : ∀ held result state, post held result state → weaker held result state) :
    protocol.Safe weaker held routine state := by
  induction routine generalizing held state with
  | done result => exact fun now others => widens held result now (safe now others)
  | atomic effect resume ih =>
    intro now choice others holds permitted
    rcases safe now choice others holds permitted with ⟨allowed, rest⟩
    exact ⟨allowed, ih now choice rest⟩
  | acquire lock rest ih => exact fun now others holds promised => ih (safe now others holds promised)
  | release lock rest ih =>
    intro now others
    rcases safe now others with ⟨promised, before, rfl, rest⟩
    exact ⟨promised, before, rfl, ih rest⟩

variable {action : State → Choice → State × Result}

theorem safe_atomically
    (step : ∀ now choice, protocol.Others held state now → protocol.invariant now →
      protocol.permits held now choice →
        protocol.allows held now (action now choice).1 ∧
          ∀ after, protocol.Others held (action now choice).1 after →
            post held (action now choice).2 after) :
    protocol.Safe post held (Routine.atomically action) state :=
  step

/-- A relation that every allowed step respects. -/
structure Respected (protocol : Protocol Lock State Choice) (relation : State → State → Prop) :
    Prop where
  refl : ∀ state, relation state state
  trans : ∀ {before middle after}, relation before middle → relation middle after →
    relation before after
  step : ∀ {held before after}, protocol.allows held before after → relation before after

variable {relation : State → State → Prop}

theorem Respected.others (respected : protocol.Respected relation)
    (others : protocol.Others held state after) : relation state after := by
  induction others with
  | refl => exact respected.refl state
  | tail _ step ih =>
    rcases step with ⟨theirs, _, allowed⟩
    exact respected.trans ih (respected.step allowed)

/-- Between the start of a routine and its end the relation holds, too. -/
theorem Safe.related
    (respected : protocol.Respected relation) (safe : protocol.Safe post held routine state)
    {start : State} (since : relation start state) :
    protocol.Safe (fun held result now => post held result now ∧ relation start now) held routine
      state := by
  induction routine generalizing held state with
  | done result =>
    intro now others
    exact ⟨safe now others, respected.trans since (respected.others others)⟩
  | atomic effect resume ih =>
    intro now choice others holds permitted
    rcases safe now choice others holds permitted with ⟨allowed, rest⟩
    have before := respected.trans since (respected.others others)
    exact ⟨allowed, ih now choice rest (respected.trans before (respected.step allowed))⟩
  | acquire lock rest ih =>
    intro now others holds promised
    exact ih (safe now others holds promised) (respected.trans since (respected.others others))
  | release lock rest ih =>
    intro now others
    rcases safe now others with ⟨promised, before, rfl, rest⟩
    exact ⟨promised, before, rfl, ih rest (respected.trans since (respected.others others))⟩

/-! ### Alone behind a lock -/

/-- The part of the state that each lock protects. -/
structure Ownership (protocol : Protocol Lock State Choice) (Part : Type y) where
  part : Lock → State → Part
  part_of_allows : ∀ {held before after lock}, lock ∉ held → protocol.allows held before after →
    part lock after = part lock before

variable {Part : Type y} (ownership : protocol.Ownership Part)

/-- The steps of a routine on the part that its lock protects, which nobody else changes. -/
def Alone (lock : Lock) (held : List Lock) (post : Result → Part → Prop) :
    Routine Lock State Choice Result → Part → Prop
  | .done result, part => post result part
  | .atomic effect resume, part =>
    ∀ now choice, ownership.part lock now = part → protocol.invariant now →
      protocol.permits held now choice →
        protocol.allows held now (effect now choice) ∧
          Alone lock held post (resume now choice) (ownership.part lock (effect now choice))
  | .acquire _ _, _ => False
  | .release _ _, _ => False

variable {ownership} {lock : Lock} {part : Part} {post : Result → Part → Prop}

theorem Alone.bind {middle : Value → Part → Prop} {routine : Routine Lock State Choice Value}
    (head : protocol.Alone ownership lock held middle routine part)
    (tail : ∀ value part, middle value part →
      protocol.Alone ownership lock held post (next value) part) :
    protocol.Alone ownership lock held post (routine >>= next) part := by
  induction routine generalizing part with
  | done value => exact tail value part head
  | atomic effect resume ih =>
    intro now choice same holds permitted
    rcases head now choice same holds permitted with ⟨allowed, rest⟩
    exact ⟨allowed, ih now choice rest⟩
  | acquire _ _ => exact head.elim
  | release _ _ => exact head.elim

theorem alone_atomically
    (step : ∀ now choice, ownership.part lock now = part → protocol.invariant now →
      protocol.permits held now choice →
        protocol.allows held now (action now choice).1 ∧
          post (action now choice).2 (ownership.part lock (action now choice).1)) :
    protocol.Alone ownership lock held post (Routine.atomically action) part :=
  step

theorem Others.part_eq (others : protocol.Others held state after) (holds : lock ∈ held) :
    ownership.part lock after = ownership.part lock state := by
  induction others with
  | refl => rfl
  | tail _ step ih =>
    rcases step with ⟨theirs, disjoint, allowed⟩
    rw [ownership.part_of_allows (fun theirs => disjoint holds theirs) allowed, ih]

/-- Behind its lock a routine is safe if it is safe alone. -/
theorem Alone.safe
    (alone : protocol.Alone ownership lock held post routine (ownership.part lock state))
    (holds : lock ∈ held) :
    protocol.Safe (fun now result state => now = held ∧ post result (ownership.part lock state)) held
      routine state := by
  induction routine generalizing state with
  | done result =>
    intro now others
    refine ⟨rfl, ?_⟩
    rw [others.part_eq holds]
    exact alone
  | atomic effect resume ih =>
    intro now choice others invariant permitted
    have same : ownership.part lock now = ownership.part lock state := others.part_eq holds
    rcases alone now choice same invariant permitted with ⟨allowed, rest⟩
    exact ⟨allowed, ih now choice rest⟩
  | acquire _ _ => exact alone.elim
  | release _ _ => exact alone.elim

/-- The rule for a critical section. Behind it, only what the others leave alone is known. -/
theorem safe_holding (ownership : protocol.Ownership Part) (inside : Result → Part → Prop)
    {body : Routine Lock State Choice Result} {post : List Lock → Result → State → Prop}
    (promises : ∀ result state, inside result (ownership.part lock state) →
      protocol.promise lock state)
    (enters : ∀ now, protocol.Others held state now → protocol.invariant now →
      protocol.promise lock now →
        protocol.Alone ownership lock (lock :: held) inside body (ownership.part lock now))
    (leaves : ∀ result now, inside result (ownership.part lock now) →
      ∀ after, protocol.Others held now after → post held result after) :
    protocol.Safe post held (Routine.holding lock body) state := by
  intro now others holds promised
  apply Safe.bind
  apply ((enters now others holds promised).safe mem_cons_self).mono
  rintro locks result before ⟨rfl, inner⟩
  intro after more
  have same : ownership.part lock after = ownership.part lock before :=
    more.part_eq mem_cons_self
  rw [← same] at inner
  exact ⟨promises result after inner, held, rfl, leaves result after inner⟩

end Protocol

namespace Protocol

variable {Lock : Type u} {State : Type v} {Choice : Type w} {Result : Type x} {Part : Type y}
  {protocol : Protocol Lock State Choice} {ownership : protocol.Ownership Part} {lock : Lock}
  {held : List Lock} {post : Result → Part → Prop}

/-- What is safe alone reaches its postcondition alone. -/
theorem Alone.ends {allowed : Choice → Prop} (steady : State → Prop)
    (keeps : ∀ {before after}, protocol.allows held before after → steady before → steady after)
    (permits : ∀ {state choice}, steady state → allowed choice → protocol.permits held state choice)
    {routine : Routine Lock State Choice Result} {state final : State} {result : Result}
    (alone : protocol.Alone ownership lock held post routine (ownership.part lock state))
    (holds : protocol.invariant state) (calm : steady state)
    (ends : routine.Ends allowed state final result) :
    post result (ownership.part lock final) ∧ protocol.invariant final := by
  induction routine generalizing state with
  | done last =>
    rcases ends with ⟨rfl, rfl⟩
    exact ⟨alone, holds⟩
  | atomic effect resume ih =>
    rcases ends with ⟨choice, fine, rest⟩
    rcases alone state choice rfl holds (permits calm fine) with ⟨allows, later⟩
    exact ih state choice later (protocol.invariant_of_allows holds allows) (keeps allows calm) rest
  | acquire _ _ => exact alone.elim
  | release _ _ => exact alone.elim

end Protocol

/-! ### Crews -/

/-- A call in progress: the locks that it holds, and what it still has to do. -/
structure Worker (Call : Type y) (Lock : Type u) (State : Type v) (Choice : Type w)
    (Result : Type x) where
  call : Call
  held : List Lock
  rest : Routine Lock State Choice Result

/-- Any number of workers over one state, and the results so far. -/
structure Crew (Call : Type y) (Lock : Type u) (State : Type v) (Choice : Type w)
    (Result : Type x) where
  shared : State
  workers : List (Worker Call Lock State Choice Result)
  finished : List (Call × Result)

inductive CrewStep (Call : Type y) (Choice : Type w) where
  | call (call : Call)
  | advance (worker : ℕ) (choice : Choice)
  | crash (worker : ℕ)

namespace Crew

variable {Call : Type y} {Lock : Type u} {State : Type v} {Choice : Type w} {Result : Type x}

def start (shared : State) : Crew Call Lock State Choice Result := ⟨shared, [], []⟩

/-- The locks that somebody holds. -/
def held (crew : Crew Call Lock State Choice Result) : List Lock :=
  crew.workers.flatMap Worker.held

def step [DecidableEq Lock] (routine : Call → Routine Lock State Choice Result)
    (crew : Crew Call Lock State Choice Result) :
    CrewStep Call Choice → Option (Crew Call Lock State Choice Result)
  | .call call => some { crew with workers := crew.workers ++ [⟨call, [], routine call⟩] }
  | .advance index choice =>
    match crew.workers[index]? with
    | none => none
    | some ⟨call, held, .atomic effect resume⟩ =>
      some { crew with
        shared := effect crew.shared choice
        workers := crew.workers.set index ⟨call, held, resume crew.shared choice⟩ }
    | some ⟨call, held, .acquire lock rest⟩ =>
      if lock ∈ crew.held then none
      else some { crew with workers := crew.workers.set index ⟨call, lock :: held, rest⟩ }
    | some ⟨call, held, .release lock rest⟩ =>
      some { crew with workers := crew.workers.set index ⟨call, held.erase lock, rest⟩ }
    | some ⟨call, _, .done result⟩ =>
      some { crew with
        workers := crew.workers.eraseIdx index, finished := crew.finished ++ [(call, result)] }
  | .crash index =>
    if index < crew.workers.length then
      some { crew with workers := crew.workers.eraseIdx index }
    else none

def machine [DecidableEq Lock] (routine : Call → Routine Lock State Choice Result) :
    Machine (Crew Call Lock State Choice Result) (CrewStep Call Choice) where
  step := step routine

/-- The calls and the choices are admitted, and nobody crashes while what its locks promise does not
hold. -/
def Guard (protocol : Protocol Lock State Choice) (admits : Call → Prop)
    (crew : Crew Call Lock State Choice Result) : CrewStep Call Choice → Prop
  | .call call => admits call
  | .advance index choice =>
    ∀ worker, crew.workers[index]? = some worker →
      protocol.permits worker.held crew.shared choice
  | .crash index =>
    ∀ worker, crew.workers[index]? = some worker →
      ∀ lock ∈ worker.held, protocol.promise lock crew.shared

/-- A call returns with no lock in its hands. -/
def Returned (reports : Call → Result → State → Prop) (call : Call) (held : List Lock)
    (result : Result) (state : State) : Prop :=
  held = [] ∧ reports call result state

/-- Everything that the workers have done is allowed, and everything that they will do. -/
structure Sound (protocol : Protocol Lock State Choice)
    (reports : Call → Result → State → Prop) (crew : Crew Call Lock State Choice Result) : Prop where
  invariant : protocol.invariant crew.shared
  exclusive : crew.held.Nodup
  safe : ∀ worker ∈ crew.workers,
    protocol.Safe (Returned reports worker.call) worker.held worker.rest crew.shared
  free : ∀ lock, lock ∉ crew.held → protocol.promise lock crew.shared
  reported : ∀ entry ∈ crew.finished, reports entry.1 entry.2 crew.shared

variable {routine : Call → Routine Lock State Choice Result} {protocol : Protocol Lock State Choice}
  {admits : Call → Prop} {reports : Call → Result → State → Prop} {crew next : Crew Call Lock State Choice Result}

variable {shared : State}

theorem sound_start (invariant : protocol.invariant shared)
    (free : ∀ lock, protocol.promise lock shared) :
    (start shared : Crew Call Lock State Choice Result).Sound protocol reports where
  invariant := invariant
  exclusive := nodup_nil
  safe := nofun
  free := fun lock _ => free lock
  reported := nofun

variable {worker : Worker Call Lock State Choice Result} {index : ℕ}

theorem workers_split (found : crew.workers[index]? = some worker) :
    ∃ front back, crew.workers = front ++ worker :: back ∧
      (∀ other, crew.workers.set index other = front ++ other :: back) ∧
        crew.workers.eraseIdx index = front ++ back := by
  rcases List.getElem?_eq_some_iff.mp found with ⟨inside, rfl⟩
  refine ⟨crew.workers.take index, crew.workers.drop (index + 1), ?_, ?_, ?_⟩
  · rw [getElem_cons_drop inside, take_append_drop]
  · intro other
    rw [set_eq_take_append_cons_drop, if_pos inside]
  · exact eraseIdx_eq_take_drop_succ _ _

theorem Sound.gone (sound : crew.Sound protocol reports)
    (found : crew.workers[index]? = some worker)
    (promised : ∀ lock ∈ worker.held, protocol.promise lock crew.shared)
    {finished : List (Call × Result)}
    (reported : ∀ entry ∈ finished, reports entry.1 entry.2 crew.shared) :
    ({ crew with workers := crew.workers.eraseIdx index, finished := finished }).Sound protocol
      reports := by
  rcases workers_split found with ⟨front, back, split, _, erased⟩
  have before : crew.held = front.flatMap Worker.held ++ (worker.held ++ back.flatMap Worker.held) := by
    unfold held
    rw [split, flatMap_append, flatMap_cons]
  have exclusive := sound.exclusive
  rw [before] at exclusive
  refine ⟨sound.invariant, ?_, ?_, ?_, reported⟩
  · show ((crew.workers.eraseIdx index).flatMap Worker.held).Nodup
    rw [erased, flatMap_append]
    exact exclusive.sublist ((sublist_append_right _ _).append_left _)
  · intro other inside
    exact sound.safe other (mem_of_mem_eraseIdx inside)
  · intro lock unheld
    by_cases own : lock ∈ worker.held
    · exact promised lock own
    · apply sound.free
      rw [before]
      have others : lock ∉ front.flatMap Worker.held ++ back.flatMap Worker.held := by
        rw [← flatMap_append, ← erased]
        exact unheld
      intro inside
      rcases mem_append.mp inside with here | there
      · exact others (mem_append_left _ here)
      · rcases mem_append.mp there with here | there
        · exact own here
        · exact others (mem_append_right _ there)

/-- A worker goes on, and the others see an allowed step. -/
theorem Sound.moves (sound : crew.Sound protocol reports)
    (stable : ∀ {call result held before after}, protocol.invariant before →
      protocol.allows held before after → reports call result before → reports call result after)
    {other : Worker Call Lock State Choice Result}
    (found : crew.workers[index]? = some worker)
    (allowed : protocol.allows worker.held crew.shared shared) (locks : other.held = worker.held)
    (safe : protocol.Safe (Returned reports other.call) other.held other.rest shared) :
    ({ crew with shared := shared, workers := crew.workers.set index other }).Sound protocol
      reports := by
  rcases workers_split found with ⟨front, back, split, replaced, _⟩
  have same : ({ crew with shared := shared, workers := crew.workers.set index other }).held =
      crew.held := by
    unfold held
    rw [replaced, split, flatMap_append, flatMap_append, flatMap_cons,
      flatMap_cons, locks]
  have exclusive := sound.exclusive
  refine ⟨protocol.invariant_of_allows sound.invariant allowed, ?_, ?_, ?_, ?_⟩
  · rw [same]
    exact exclusive
  · show ∀ member ∈ crew.workers.set index other, _
    rw [replaced]
    unfold held at exclusive
    rw [split, flatMap_append, flatMap_cons] at exclusive
    have apart : ∀ member ∈ front ++ back, member.held.Disjoint worker.held := by
      intro member inside lock theirs own
      rcases mem_append.mp inside with here | there
      · exact disjoint_of_nodup_append exclusive
          (mem_flatMap.mpr ⟨member, here, theirs⟩) (mem_append_left _ own)
      · exact disjoint_of_nodup_append (nodup_append.mp exclusive).2.1 own
          (mem_flatMap.mpr ⟨member, there, theirs⟩)
    have goes : ∀ member ∈ front ++ back, protocol.Safe (Returned reports member.call) member.held
        member.rest shared := by
      intro member inside
      have before : member ∈ crew.workers := by
        rw [split]
        rcases mem_append.mp inside with here | there
        · exact mem_append_left _ here
        · exact mem_append_right _ (mem_cons_of_mem _ there)
      exact (sound.safe member before).later
        (Relation.ReflTransGen.single ⟨worker.held, apart member inside, allowed⟩)
    intro member inside
    rcases mem_append.mp inside with here | there
    · exact goes member (mem_append_left _ here)
    · rcases mem_cons.mp there with rfl | there
      · exact safe
      · exact goes member (mem_append_right _ there)
  · intro lock unheld
    rw [same] at unheld
    have free := sound.free lock unheld
    apply protocol.promise_of_allows _ allowed free
    intro own
    exact unheld (mem_flatMap.mpr ⟨worker, mem_of_getElem? found, own⟩)
  · exact fun entry inside => stable sound.invariant allowed (sound.reported entry inside)

theorem Sound.locks (sound : crew.Sound protocol reports)
    {other : Worker Call Lock State Choice Result} (found : crew.workers[index]? = some worker)
    (safe : protocol.Safe (Returned reports other.call) other.held other.rest crew.shared)
    (exclusive : ∀ front back : List Lock, (front ++ (worker.held ++ back)).Nodup →
      crew.held = front ++ (worker.held ++ back) → (front ++ (other.held ++ back)).Nodup)
    (promised : ∀ lock ∈ worker.held, lock ∉ other.held → protocol.promise lock crew.shared) :
    ({ crew with workers := crew.workers.set index other }).Sound protocol reports := by
  rcases workers_split found with ⟨front, back, split, replaced, _⟩
  have before : crew.held = front.flatMap Worker.held ++ (worker.held ++ back.flatMap Worker.held) := by
    unfold held
    rw [split, flatMap_append, flatMap_cons]
  have now : ({ crew with workers := crew.workers.set index other }).held =
      front.flatMap Worker.held ++ (other.held ++ back.flatMap Worker.held) := by
    unfold held
    rw [replaced, flatMap_append, flatMap_cons]
  have distinct := sound.exclusive
  rw [before] at distinct
  refine ⟨sound.invariant, ?_, ?_, ?_, sound.reported⟩
  · rw [now]
    exact exclusive _ _ distinct before
  · intro member inside
    rcases mem_or_eq_of_mem_set inside with earlier | rfl
    · exact sound.safe member earlier
    · exact safe
  · intro lock unheld
    rw [now] at unheld
    by_cases own : lock ∈ worker.held
    · apply promised lock own
      intro still
      exact unheld (mem_append_right _ (mem_append_left _ still))
    · apply sound.free
      rw [before]
      intro inside
      rcases mem_append.mp inside with here | there
      · exact unheld (mem_append_left _ here)
      · rcases mem_append.mp there with here | there
        · exact own here
        · exact unheld (mem_append_right _ (mem_append_right _ there))

variable {label : CrewStep Call Choice}

theorem Sound.step [DecidableEq Lock] (sound : crew.Sound protocol reports)
    (safe : ∀ call state, admits call → protocol.invariant state →
      protocol.Safe (Returned reports call) [] (routine call) state)
    (stable : ∀ {call result held before after}, protocol.invariant before →
      protocol.allows held before after → reports call result before → reports call result after)
    (guarded : crew.Guard protocol admits label)
    (stepped : (machine routine).step crew label = some next) : next.Sound protocol reports := by
  cases label with
  | call call =>
    cases stepped
    have same : (crew.workers ++ [(⟨call, [], routine call⟩ : Worker Call Lock State Choice
        Result)]).flatMap Worker.held = crew.held := by
      unfold held
      rw [flatMap_append, flatMap_singleton, append_nil]
    refine ⟨sound.invariant, ?_, ?_, ?_, sound.reported⟩
    · unfold held
      rw [same]
      exact sound.exclusive
    · intro worker inside
      rcases mem_append.mp inside with earlier | new
      · exact sound.safe worker earlier
      · rw [mem_singleton.mp new]
        exact safe call crew.shared guarded sound.invariant
    · intro lock unheld
      unfold held at unheld
      rw [same] at unheld
      exact sound.free lock unheld
  | advance index choice =>
    simp only [machine, Crew.step] at stepped
    cases found : crew.workers[index]? with
    | none =>
      rw [found] at stepped
      cases stepped
    | some worker =>
      have goes := sound.safe worker (mem_of_getElem? found)
      have permitted := guarded worker found
      rcases worker with ⟨call, locks, rest⟩
      rw [found] at stepped
      cases rest with
      | done result =>
        cases stepped
        rcases goes crew.shared .refl with ⟨rfl, returned⟩
        apply sound.gone found nofun
        intro entry inside
        rcases mem_append.mp inside with earlier | new
        · exact sound.reported entry earlier
        · rw [mem_singleton.mp new]
          exact returned
      | atomic effect resume =>
        cases stepped
        rcases goes crew.shared choice .refl sound.invariant permitted with ⟨allowed, later⟩
        exact sound.moves stable found allowed rfl later
      | acquire lock rest =>
        simp only at stepped
        split at stepped
        · cases stepped
        · rename_i unheld
          cases stepped
          apply sound.locks found
          · exact goes crew.shared .refl sound.invariant (sound.free lock unheld)
          · intro front back distinct split
            rw [split] at unheld
            have moved : (front ++ (lock :: locks ++ back)).Perm
                (lock :: (front ++ (locks ++ back))) := perm_middle
            exact moved.nodup_iff.mpr (nodup_cons.mpr ⟨unheld, distinct⟩)
          · intro other own gone
            exact absurd (mem_cons_of_mem _ own) gone
      | release lock rest =>
        cases stepped
        rcases goes crew.shared .refl with ⟨promised, others, rfl, later⟩
        have erased : (lock :: others).erase lock = others := erase_cons_head ..
        simp only [erased]
        apply sound.locks found later
        · intro front back distinct _
          exact distinct.sublist ((sublist_cons_self _ _).append_left _)
        · intro other own gone
          rcases mem_cons.mp own with rfl | still
          · exact promised
          · exact absurd still gone
  | crash index =>
    simp only [machine, Crew.step] at stepped
    split at stepped
    · rename_i inside
      cases stepped
      have found : crew.workers[index]? = some crew.workers[index] :=
        getElem?_eq_getElem inside
      exact sound.gone found (guarded _ found) sound.reported
    · cases stepped

variable {labels : List (CrewStep Call Choice)}

/-- In a guarded run every result that has been returned is a true report, now and later. -/
theorem sound_run [DecidableEq Lock]
    (invariant : protocol.invariant shared) (free : ∀ lock, protocol.promise lock shared)
    (safe : ∀ call state, admits call → protocol.invariant state →
      protocol.Safe (Returned reports call) [] (routine call) state)
    (stable : ∀ {call result held before after}, protocol.invariant before →
      protocol.allows held before after → reports call result before → reports call result after)
    (guarded : (machine routine).Guarded (Guard protocol admits) (start shared) labels)
    (ran : (machine routine).run (start shared) labels = some crew) :
    crew.Sound protocol reports :=
  Machine.run_invariant_of_guarded
    (fun sound guarded stepped => Sound.step sound safe stable guarded stepped)
    (sound_start invariant free) guarded ran

/-- A step leaves the shared state alone, or is allowed to the worker that takes it. -/
theorem Sound.shared_of_step [DecidableEq Lock] (sound : crew.Sound protocol reports)
    (guarded : crew.Guard protocol admits label)
    (stepped : (machine routine).step crew label = some next) :
    next.shared = crew.shared ∨ ∃ held, protocol.allows held crew.shared next.shared := by
  cases label with
  | call call =>
    cases stepped
    exact .inl rfl
  | advance index choice =>
    simp only [machine, Crew.step] at stepped
    cases found : crew.workers[index]? with
    | none =>
      rw [found] at stepped
      cases stepped
    | some worker =>
      have goes := sound.safe worker (mem_of_getElem? found)
      have permitted := guarded worker found
      rcases worker with ⟨call, locks, rest⟩
      rw [found] at stepped
      cases rest with
      | done result =>
        cases stepped
        exact .inl rfl
      | atomic effect resume =>
        cases stepped
        exact .inr ⟨locks, (goes crew.shared choice .refl sound.invariant permitted).1⟩
      | acquire lock rest =>
        simp only at stepped
        split at stepped
        · cases stepped
        · cases stepped
          exact .inl rfl
      | release lock rest =>
        cases stepped
        exact .inl rfl
  | crash index =>
    simp only [machine, Crew.step] at stepped
    split at stepped
    · cases stepped
      exact .inl rfl
    · cases stepped

/-- What every allowed step respects holds between any two states of a run. -/
theorem Sound.run_related [DecidableEq Lock] {relation : State → State → Prop}
    (respected : protocol.Respected relation)
    (safe : ∀ call state, admits call → protocol.invariant state →
      protocol.Safe (Returned reports call) [] (routine call) state)
    (stable : ∀ {call result held before after}, protocol.invariant before →
      protocol.allows held before after → reports call result before → reports call result after)
    (sound : crew.Sound protocol reports)
    (guarded : (machine routine).Guarded (Guard protocol admits) crew labels)
    (ran : (machine routine).run crew labels = some next) : relation crew.shared next.shared := by
  suffices both : next.Sound protocol reports ∧ relation crew.shared next.shared from both.2
  apply Machine.run_invariant_of_guarded _ ⟨sound, respected.refl crew.shared⟩ guarded ran
  rintro state label after ⟨sound, related⟩ allowed stepped
  refine ⟨sound.step safe stable allowed stepped, ?_⟩
  rcases sound.shared_of_step allowed stepped with same | ⟨held, moves⟩
  · rw [same]
    exact related
  · exact respected.trans related (respected.step moves)

end Crew

end Synapse
