import Mathlib.Data.List.Basic

/-!
# Fan-out queues

A fan-out queue holds items together with the recipients each of them is still
owed to, in the order of delivery. Serving the first recipient of the first
item moves one item from what that recipient is owed to what it has received.
The law of the queue is that `received ++ addressed` never changes except by
what is added at the end.
-/

namespace Synapse.FanOut

open List

universe u v

variable {Item : Type u} {Recipient : Type v} [DecidableEq Recipient]

/-- The items a queue still owes to a recipient, in order of delivery. -/
def addressed (recipient : Recipient) (queue : List (Item × List Recipient)) : List Item :=
  queue.filterMap fun entry => if recipient ∈ entry.2 then some entry.1 else none

/-- The items a recipient has received according to a log of deliveries. -/
def received (recipient : Recipient) (log : List (Recipient × Item)) : List Item :=
  log.filterMap fun entry => if entry.1 = recipient then some entry.2 else none

@[simp]
theorem addressed_nil (recipient : Recipient) :
    addressed recipient ([] : List (Item × List Recipient)) = [] := rfl

@[simp]
theorem received_nil (recipient : Recipient) :
    received recipient ([] : List (Recipient × Item)) = [] := rfl

@[simp]
theorem addressed_append (recipient : Recipient) (front back : List (Item × List Recipient)) :
    addressed recipient (front ++ back) = addressed recipient front ++ addressed recipient back :=
  filterMap_append

@[simp]
theorem received_append (recipient : Recipient) (front back : List (Recipient × Item)) :
    received recipient (front ++ back) = received recipient front ++ received recipient back :=
  filterMap_append

@[simp]
theorem addressed_cons (recipient : Recipient) (entry : Item × List Recipient)
    (queue : List (Item × List Recipient)) :
    addressed recipient (entry :: queue) =
      (if recipient ∈ entry.2 then [entry.1] else []) ++ addressed recipient queue := by
  by_cases owed : recipient ∈ entry.2 <;> simp [addressed, owed]

/-- An item without recipients left is owed to nobody. -/
theorem addressed_exhausted (recipient : Recipient) (item : Item)
    (queue : List (Item × List Recipient)) :
    addressed recipient ((item, []) :: queue) = addressed recipient queue := by
  simp

/-- Items queued for one recipient are owed to it alone. -/
theorem addressed_single (recipient target : Recipient) (items : List Item) :
    addressed recipient (items.map fun item => (item, [target])) =
      if recipient = target then items else [] := by
  induction items with
  | nil => simp
  | cons item items ih =>
    rw [map_cons, addressed_cons, ih]
    by_cases same : recipient = target <;> simp [same]

theorem addressed_eq_nil {recipient : Recipient} {queue : List (Item × List Recipient)}
    (absent : ∀ entry ∈ queue, recipient ∉ entry.2) : addressed recipient queue = [] := by
  rw [addressed, filterMap_eq_nil_iff]
  intro entry present
  simp [absent entry present]

theorem received_eq_nil {recipient : Recipient} {log : List (Recipient × Item)}
    (absent : ∀ entry ∈ log, entry.1 ≠ recipient) : received recipient log = [] := by
  rw [received, filterMap_eq_nil_iff]
  intro entry present
  simp [absent entry present]

/-- Serving the first recipient of the first item conserves, for every
recipient, what it has received followed by what it is owed. -/
theorem serve (recipient server : Recipient) (rest : List Recipient) (item : Item)
    (queue : List (Item × List Recipient)) (log : List (Recipient × Item)) (once : server ∉ rest) :
    received recipient (log ++ [(server, item)]) ++ addressed recipient ((item, rest) :: queue) =
      received recipient log ++ addressed recipient ((item, server :: rest) :: queue) := by
  by_cases same : recipient = server
  · subst same
    simp [received, once]
  · have other : ¬server = recipient := fun equal => same equal.symm
    simp [received, same, other]

/-- Every item of a queue names known recipients, each at most once, and every
delivery of the log went to a known recipient. -/
structure WellAddressed (known : Recipient → Prop) (queue : List (Item × List Recipient))
    (log : List (Recipient × Item)) : Prop where
  items : ∀ entry ∈ queue, entry.2.Nodup ∧ ∀ recipient ∈ entry.2, known recipient
  log : ∀ entry ∈ log, known entry.1

/-- One step of whoever serves the queue: the first recipient of the first item
is served, or the first item is done, or neither changes. -/
inductive Advance : List (Item × List Recipient) → List (Recipient × Item) →
    List (Item × List Recipient) → List (Recipient × Item) → Prop where
  | stay (queue : List (Item × List Recipient)) (log : List (Recipient × Item)) :
      Advance queue log queue log
  | exhaust (item : Item) (queue : List (Item × List Recipient)) (log : List (Recipient × Item)) :
      Advance ((item, []) :: queue) log queue log
  | serve (item : Item) (server : Recipient) (rest : List Recipient)
      (queue : List (Item × List Recipient)) (log : List (Recipient × Item)) :
      Advance ((item, server :: rest) :: queue) log ((item, rest) :: queue)
        (log ++ [(server, item)])

namespace WellAddressed

variable {known : Recipient → Prop} {queue queue' : List (Item × List Recipient)}
  {log log' : List (Recipient × Item)}

omit [DecidableEq Recipient] in
theorem mono {wider : Recipient → Prop} (addressed : WellAddressed known queue log)
    (grows : ∀ recipient, known recipient → wider recipient) : WellAddressed wider queue log :=
  ⟨fun entry present => ⟨(addressed.items entry present).1,
      fun recipient named => grows recipient ((addressed.items entry present).2 recipient named)⟩,
    fun entry present => grows entry.1 (addressed.log entry present)⟩

omit [DecidableEq Recipient] in
theorem append {back : List (Item × List Recipient)} (addressed : WellAddressed known queue log)
    (items : ∀ entry ∈ back, entry.2.Nodup ∧ ∀ recipient ∈ entry.2, known recipient) :
    WellAddressed known (queue ++ back) log := by
  refine ⟨fun entry present => ?_, addressed.log⟩
  rcases mem_append.mp present with front | back
  · exact addressed.items entry front
  · exact items entry back

omit [DecidableEq Recipient] in
theorem advance (addressed : WellAddressed known queue log)
    (advanced : Advance queue log queue' log') : WellAddressed known queue' log' := by
  cases advanced with
  | stay => exact addressed
  | exhaust item => exact ⟨fun entry present => addressed.items entry (by simp [present]),
      addressed.log⟩
  | serve item server rest queue =>
    rcases addressed.items (item, server :: rest) (by simp) with ⟨once, named⟩
    refine ⟨fun entry present => ?_, fun entry present => ?_⟩
    · rcases mem_cons.mp present with rfl | present
      · exact ⟨(nodup_cons.mp once).2,
          fun recipient named' => named recipient (mem_cons_of_mem _ named')⟩
      · exact addressed.items entry (mem_cons_of_mem _ present)
    · rcases mem_append.mp present with old | new
      · exact addressed.log entry old
      · obtain rfl := mem_singleton.mp new
        exact named server mem_cons_self

/-- Every step conserves what a recipient has received and is still owed. -/
theorem conserves (addressed' : WellAddressed known queue log)
    (advanced : Advance queue log queue' log') (recipient : Recipient) :
    received recipient log' ++ addressed recipient queue' =
      received recipient log ++ addressed recipient queue := by
  cases advanced with
  | stay => rfl
  | exhaust item => rw [addressed_exhausted]
  | serve item server rest queue =>
    have once := (addressed'.items (item, server :: rest) (by simp)).1
    exact FanOut.serve recipient server rest item queue log (nodup_cons.mp once).1

/-- A recipient that is not known yet is neither owed nor sent anything. -/
theorem of_unknown (addressed' : WellAddressed known queue log) {recipient : Recipient}
    (unknown : ¬known recipient) :
    received recipient log = [] ∧ addressed recipient queue = [] := by
  refine ⟨received_eq_nil fun entry present same => ?_, addressed_eq_nil fun entry present named => ?_⟩
  · exact unknown (same ▸ addressed'.log entry present)
  · exact unknown ((addressed'.items entry present).2 recipient named)

end WellAddressed

end Synapse.FanOut
