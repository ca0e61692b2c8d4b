import Synapse.Transport.Outgoing

/-!
# The order of the writer

In every run the messages are sent in the order in which they were put, each once at most, and a caller is
told that its message was written only if it was sent.
-/

namespace Synapse.Transport

open List

universe u

namespace Outgoing

variable {Message : Type u} {outgoing next : Outgoing Message} {size : ℕ}

/-! ### Answers -/

section

variable {value : Acknowledgement} {acknowledgements : ℕ → Option Acknowledgement}
  {items : List (OutgoingItem Message)} {number : ℕ}

theorem answer_cases (value : Acknowledgement) (acknowledgements : ℕ → Option Acknowledgement)
    (item : OutgoingItem Message) (number : ℕ) :
    answer value acknowledgements item number = acknowledgements number ∨
      acknowledgements number = some .pending ∧ answer value acknowledgements item number = some value := by
  rw [answer]
  cases item.acknowledgement with
  | none => exact Or.inl rfl
  | some own =>
    dsimp only
    by_cases pending : acknowledgements own = some .pending
    · rw [if_pos pending]
      by_cases same : number = own
      · subst same
        exact Or.inr ⟨pending, Function.update_self ..⟩
      · exact Or.inl (Function.update_of_ne same ..)
    · rw [if_neg pending]
      exact Or.inl rfl

theorem answer_own (item : OutgoingItem Message) (own : item.acknowledgement = some number)
    (settles : value ≠ .pending) : answer value acknowledgements item number ≠ some .pending := by
  rw [answer, own]
  dsimp only
  by_cases pending : acknowledgements number = some .pending
  · rw [if_pos pending, Function.update_self]
    exact fun same => settles (Option.some.inj same)
  · rw [if_neg pending]
    exact pending

theorem answerAll_cases (value : Acknowledgement) (acknowledgements : ℕ → Option Acknowledgement)
    (items : List (OutgoingItem Message)) (number : ℕ) :
    answerAll value acknowledgements items number = acknowledgements number ∨
      acknowledgements number = some .pending ∧ answerAll value acknowledgements items number = some value := by
  induction items generalizing acknowledgements with
  | nil => exact Or.inl rfl
  | cons item items ih =>
    have first := answer_cases value acknowledgements item number
    rcases ih (answer value acknowledgements item) with same | ⟨pending, answered⟩
    · rcases first with kept | ⟨pending, set⟩
      · exact Or.inl (same.trans kept)
      · exact Or.inr ⟨pending, same.trans set⟩
    · rcases first with kept | ⟨before, _⟩
      · exact Or.inr ⟨kept.symm.trans pending, answered⟩
      · exact Or.inr ⟨before, answered⟩

theorem answerAll_own (settles : value ≠ .pending) {item : OutgoingItem Message} (mem : item ∈ items)
    (own : item.acknowledgement = some number) :
    answerAll value acknowledgements items number ≠ some .pending := by
  induction items generalizing acknowledgements with
  | nil => exact absurd mem not_mem_nil
  | cons first items ih =>
    rcases mem_cons.1 mem with rfl | later
    · rcases answerAll_cases value (answer value acknowledgements item) items number with same | ⟨pending, _⟩
      · intro pending
        exact answer_own item own settles (same.symm.trans pending)
      · exact absurd pending (answer_own item own settles)
    · exact ih later

end

/-! ### What every run keeps -/

/-- The item that is being sent -/
def inFlight : Writer Message → List (OutgoingItem Message)
  | .sending item => [item]
  | _ => []

/-- The items that are not sent yet -/
def held (outgoing : Outgoing Message) : List (OutgoingItem Message) := inFlight outgoing.writer ++ outgoing.queue

def messages (items : List (OutgoingItem Message)) : List (ℕ × Message) := items.filterMap OutgoingItem.message

/-- Acknowledgements change from pending only, and neither to success nor to a cancellation. -/
def Settles (before after : ℕ → Option Acknowledgement) : Prop :=
  ∀ number, after number = before number ∨ before number = some .pending ∧ after number ≠ none ∧
    after number ≠ some (.result true) ∧ after number ≠ some .cancelled

theorem settles_answerAll {value : Acknowledgement} (other : value ≠ .result true) (live : value ≠ .cancelled)
    (acknowledgements : ℕ → Option Acknowledgement) (items : List (OutgoingItem Message)) :
    Settles acknowledgements (answerAll value acknowledgements items) := by
  intro number
  rcases answerAll_cases value acknowledgements items number with same | ⟨pending, set⟩
  · exact Or.inl same
  · rw [set]
    exact Or.inr ⟨pending, Option.some_ne_none value, fun same => other (Option.some.inj same),
      fun same => live (Option.some.inj same)⟩

structure Sound (outgoing : Outgoing Message) : Prop where
  increasing : outgoing.accepted.Pairwise fun first second => first.1 < second.1
  below : ∀ entry ∈ outgoing.accepted, entry.1 < outgoing.puts
  ordered : (outgoing.sent ++ messages outgoing.held).Sublist outgoing.accepted
  named : ∀ item ∈ outgoing.held, ∀ number, item.acknowledgement = some number →
    ∃ text, item.message = some (number, text)
  truthful : ∀ number, outgoing.acknowledgements number = some (.result true) →
    number ∈ outgoing.sent.map Prod.fst
  fresh : ∀ number, outgoing.puts ≤ number → outgoing.acknowledgements number = none
  unmade : ∀ number, outgoing.puts ≤ number → outgoing.outcomes number = .waiting
  returned : ∀ number, outgoing.outcomes number = .returned true → outgoing.acknowledgements number ≠ none →
    outgoing.acknowledgements number = some (.result true)
  waits : ∀ number < outgoing.puts, outgoing.outcomes number = .waiting →
    outgoing.acknowledgements number ≠ none ∧ outgoing.acknowledgements number ≠ some .cancelled

theorem sound_new : Sound (new : Outgoing Message) where
  increasing := List.Pairwise.nil
  below := fun _ mem => absurd mem not_mem_nil
  ordered := Sublist.refl _
  named := fun _ mem => absurd mem not_mem_nil
  truthful := fun _ own => by cases own
  fresh := fun _ _ => rfl
  unmade := fun _ _ => rfl
  returned := fun _ own => by cases own
  waits := fun _ made => absurd made (Nat.not_lt_zero _)

/-- Items may be dropped, and acknowledgements be answered without success. -/
theorem Sound.lessen (sound : Sound outgoing) (puts : next.puts = outgoing.puts)
    (accepted : next.accepted = outgoing.accepted) (sent : next.sent = outgoing.sent)
    (outcomes : next.outcomes = outgoing.outcomes) (fewer : next.held.Sublist outgoing.held)
    (settles : Settles outgoing.acknowledgements next.acknowledgements) : Sound next where
  increasing := by rw [accepted]; exact sound.increasing
  below := by rw [accepted, puts]; exact sound.below
  ordered := by
    rw [accepted, sent]
    exact (Sublist.append_left (fewer.filterMap _) outgoing.sent).trans sound.ordered
  named := fun item mem => sound.named item (fewer.subset mem)
  truthful := fun number own => by
    rw [sent]
    rcases settles number with same | ⟨_, _, other, _⟩
    · exact sound.truthful number (same.symm.trans own)
    · exact absurd own other
  fresh := fun number large => by
    rw [puts] at large
    have none := sound.fresh number large
    rcases settles number with same | ⟨pending, _⟩
    · exact same.trans none
    · rw [none] at pending
      cases pending
  unmade := by rw [puts, outcomes]; exact sound.unmade
  returned := fun number own filled => by
    rw [outcomes] at own
    rcases settles number with same | ⟨pending, _⟩
    · rw [same] at filled ⊢
      exact sound.returned number own filled
    · have result := sound.returned number own (by rw [pending]; exact Option.some_ne_none _)
      rw [pending] at result
      cases result
  waits := fun number made own => by
    rw [puts] at made
    rw [outcomes] at own
    rcases settles number with same | ⟨_, filled, _, live⟩
    · rw [same]
      exact sound.waits number made own
    · exact ⟨filled, live⟩

theorem settles_refl (acknowledgements : ℕ → Option Acknowledgement) : Settles acknowledgements acknowledgements :=
  fun _ => Or.inl rfl

theorem Sound.fail (sound : Sound outgoing) (current : Option (OutgoingItem Message)) :
    Sound (outgoing.fail current) :=
  sound.lessen rfl rfl rfl rfl (nil_sublist _) (settles_answerAll (by decide) (by decide) _ _)

theorem Sound.interrupted (sound : Sound outgoing) (current : Option (OutgoingItem Message)) :
    Sound (outgoing.interrupted current) :=
  sound.lessen rfl rfl rfl rfl (nil_sublist _) (settles_answerAll (by decide) (by decide) _ _)

theorem loop_cases (outgoing : Outgoing Message) (last : Option (OutgoingItem Message)) :
    outgoing.queue = [] ∧ outgoing.loop last = { outgoing with writer := .waiting last } ∨
      ∃ item rest, outgoing.queue = item :: rest ∧
        ((∃ message, item.message = some message) ∧
            outgoing.loop last = { outgoing with queue := rest, writer := .sending item } ∨
          item.message = none ∧
            ((∃ answered, setResult { outgoing with queue := rest } item = some answered ∧
                outgoing.loop last = { answered with terminal := true, writer := .ended }) ∨
              setResult { outgoing with queue := rest } item = none ∧
                outgoing.loop last = fail { outgoing with queue := rest } (some item))) := by
  rw [loop]
  split
  · rename_i empty
    exact Or.inl ⟨empty, rfl⟩
  · rename_i item rest filled
    refine Or.inr ⟨item, rest, filled, ?_⟩
    dsimp only
    split
    · rename_i none
      refine Or.inr ⟨none, ?_⟩
      split
      · rename_i answered set
        exact Or.inl ⟨answered, set, rfl⟩
      · rename_i raised
        exact Or.inr ⟨raised, rfl⟩
    · rename_i message found
      exact Or.inl ⟨⟨message, found⟩, rfl⟩

variable {item : OutgoingItem Message}

/-- The item that ends the writer has no acknowledgement. -/
theorem Sound.quiet_end (sound : Sound outgoing) (mem : item ∈ outgoing.held)
    (none : item.message = none) : item.acknowledgement = Option.none := by
  cases own : item.acknowledgement with
  | none => rfl
  | some number =>
    rcases sound.named item mem number own with ⟨text, message⟩
    rw [none] at message
    cases message

theorem Sound.loop (sound : Sound outgoing) (idle : inFlight outgoing.writer = [])
    (last : Option (OutgoingItem Message)) : Sound (outgoing.loop last) := by
  have held : outgoing.held = outgoing.queue := by rw [Outgoing.held, idle, nil_append]
  rcases loop_cases outgoing last with ⟨empty, same⟩ | ⟨item, rest, filled, ⟨_, same⟩ | ⟨none, other⟩⟩
  · rw [same]
    exact sound.lessen rfl rfl rfl rfl (by rw [held]; exact Sublist.refl _) (settles_refl _)
  · rw [same]
    refine sound.lessen rfl rfl rfl rfl ?_ (settles_refl _)
    rw [held, filled]
    exact Sublist.refl _
  · have mem : item ∈ outgoing.held := by rw [held, filled]; exact mem_cons_self
    have quiet := sound.quiet_end mem none
    have set : setResult { outgoing with queue := rest } item = some { outgoing with queue := rest } := by
      rw [setResult, quiet]
    rw [set] at other
    rcases other with ⟨answered, answers, same⟩ | ⟨raised, _⟩
    · cases answers
      rw [same]
      refine sound.lessen rfl rfl rfl rfl ?_ (settles_refl _)
      rw [held, filled]
      exact sublist_cons_self item rest
    · cases raised

/-- A message that `connection.send` has taken -/
def log (outgoing : Outgoing Message) (item : OutgoingItem Message) : Outgoing Message :=
  { outgoing with
    sent := outgoing.sent ++ item.message.toList
    writer := .waiting (some item) }

theorem loop_writer (outgoing : Outgoing Message) (writer : Writer Message) (last : Option (OutgoingItem Message)) :
    loop { outgoing with writer := writer } last = outgoing.loop last := by
  rw [loop, loop]
  dsimp only
  split
  · rfl
  · rename_i item rest filled
    split
    · cases own : item.acknowledgement with
      | none => simp only [setResult, own]
      | some number =>
        simp only [setResult, own]
        by_cases pending : outgoing.acknowledgements number = some .pending
        · simp only [if_pos pending]
        · simp only [if_neg pending, fail, failPending]
    · rfl

theorem written_cases (outgoing : Outgoing Message) (item : OutgoingItem Message) :
    (item.acknowledgement = none ∧ outgoing.written item = (outgoing.log item).loop (some item)) ∨
      (∃ number, item.acknowledgement = some number ∧ outgoing.acknowledgements number = some .pending ∧
        outgoing.written item = loop { outgoing.log item with
          acknowledgements := Function.update outgoing.acknowledgements number (some (.result true)) } (some item)) ∨
      ∃ number, item.acknowledgement = some number ∧ outgoing.acknowledgements number ≠ some .pending ∧
        outgoing.written item = (outgoing.log item).fail (some item) := by
  cases own : item.acknowledgement with
  | none =>
    refine Or.inl ⟨rfl, ?_⟩
    simp only [written, setResult, own]
    exact (loop_writer { outgoing with sent := outgoing.sent ++ item.message.toList } _ _).symm
  | some number =>
    by_cases pending : outgoing.acknowledgements number = some .pending
    · refine Or.inr (Or.inl ⟨number, rfl, pending, ?_⟩)
      simp only [written, setResult, own, if_pos pending]
      exact (loop_writer { outgoing with
        sent := outgoing.sent ++ item.message.toList
        acknowledgements := Function.update outgoing.acknowledgements number (some (.result true)) } _ _).symm
    · refine Or.inr (Or.inr ⟨number, rfl, pending, ?_⟩)
      simp only [written, setResult, own, if_neg pending]
      rfl

theorem Sound.log (sound : Sound outgoing) (sending : outgoing.writer = .sending item) :
    Sound (outgoing.log item) where
  increasing := sound.increasing
  below := sound.below
  ordered := by
    have ordered := sound.ordered
    rw [Outgoing.held, sending, inFlight, messages, singleton_append, filterMap_cons] at ordered
    cases own : item.message with
    | none =>
      rw [own] at ordered
      rw [Outgoing.log, own, Option.toList_none, append_nil]
      exact ordered
    | some message =>
      rw [own] at ordered
      rw [Outgoing.log, own, Option.toList_some, append_assoc]
      exact ordered
  named := fun other mem => sound.named other (by
    rw [Outgoing.held, sending]
    exact mem_append_right _ mem)
  truthful := fun number own => by
    rw [Outgoing.log, map_append]
    exact mem_append_left _ (sound.truthful number own)
  fresh := sound.fresh
  unmade := sound.unmade
  returned := sound.returned
  waits := sound.waits

variable {number : ℕ}

theorem Sound.succeed (sound : Sound outgoing) (pending : outgoing.acknowledgements number = some .pending)
    (sent : number ∈ outgoing.sent.map Prod.fst) :
    Sound { outgoing with
      acknowledgements := Function.update outgoing.acknowledgements number (some (.result true)) } where
  increasing := sound.increasing
  below := sound.below
  ordered := sound.ordered
  named := sound.named
  truthful := fun other own => by
    by_cases same : other = number
    · rw [same]
      exact sent
    · exact sound.truthful other ((Function.update_of_ne same ..).symm.trans own)
  fresh := fun other large => by
    by_cases same : other = number
    · rw [← same, sound.fresh other large] at pending
      cases pending
    · exact (Function.update_of_ne same ..).trans (sound.fresh other large)
  unmade := sound.unmade
  returned := fun other own filled => by
    dsimp only at filled ⊢
    by_cases same : other = number
    · rw [same, Function.update_self]
    · rw [Function.update_of_ne same] at filled ⊢
      exact sound.returned other own filled
  waits := fun other made own => by
    dsimp only
    by_cases same : other = number
    · rw [same, Function.update_self]
      exact ⟨Option.some_ne_none _, by decide⟩
    · rw [Function.update_of_ne same]
      exact sound.waits other made own

theorem sent_log (outgoing : Outgoing Message) {text : Message}
    (own : item.message = some (number, text)) : number ∈ (outgoing.log item).sent.map Prod.fst := by
  rw [log, own, map_append]
  exact mem_append_right _ (mem_singleton_self number)

theorem Sound.written (sound : Sound outgoing) {item : OutgoingItem Message}
    (sending : outgoing.writer = .sending item) : Sound (outgoing.written item) := by
  have logged := sound.log sending
  rcases written_cases outgoing item with ⟨_, same⟩ | ⟨number, own, pending, same⟩ | ⟨number, _, _, same⟩
  · rw [same]
    exact logged.loop rfl (some item)
  · rw [same]
    have mem : item ∈ outgoing.held := by
      rw [Outgoing.held, sending]
      exact mem_append_left _ (mem_singleton_self item)
    rcases sound.named item mem number own with ⟨text, message⟩
    exact (logged.succeed pending (sent_log outgoing message)).loop rfl (some item)
  · rw [same]
    exact logged.fail (some item)

theorem filterMap_put (items : List (OutgoingItem Message)) (message : ℕ × Message) (own : Option ℕ) :
    messages (items ++ [⟨some message, own⟩]) = messages items ++ [message] := by
  rw [messages, filterMap_append]
  rfl

/-- The next message goes behind all that were accepted. -/
theorem Sound.accept (sound : Sound outgoing) (message : Message) (waits : Option ℕ)
    (own : ∀ number, waits = some number → number = outgoing.puts) (puts : next.puts = outgoing.puts + 1)
    (accepted : next.accepted = outgoing.accepted ++ [(outgoing.puts, message)]) (sent : next.sent = outgoing.sent)
    (held : next.held = outgoing.held ++ [⟨some (outgoing.puts, message), waits⟩])
    (kept : ∀ number, number ≠ outgoing.puts → next.acknowledgements number = outgoing.acknowledgements number ∧
      next.outcomes number = outgoing.outcomes number)
    (pending : next.acknowledgements outgoing.puts = none ∧ next.outcomes outgoing.puts ≠ .waiting ∨
      next.acknowledgements outgoing.puts = some .pending ∧ next.outcomes outgoing.puts ≠ .returned true) :
    Sound next where
  increasing := by
    rw [accepted, pairwise_append]
    refine ⟨sound.increasing, pairwise_singleton .., fun first mem last other => ?_⟩
    rw [mem_singleton.1 other]
    exact sound.below first mem
  below := fun entry mem => by
    rw [accepted] at mem
    rw [puts]
    rcases mem_append.1 mem with old | new
    · exact Nat.lt_succ_of_lt (sound.below entry old)
    · rw [mem_singleton.1 new]
      exact Nat.lt_succ_self _
  ordered := by
    rw [accepted, sent, held, filterMap_put, ← append_assoc]
    exact sound.ordered.append (Sublist.refl _)
  named := fun item mem number acknowledges => by
    rw [held] at mem
    rcases mem_append.1 mem with old | new
    · exact sound.named item old number acknowledges
    · rw [mem_singleton.1 new] at acknowledges ⊢
      rw [own number acknowledges]
      exact ⟨message, rfl⟩
  truthful := fun number success => by
    rw [sent]
    by_cases same : number = outgoing.puts
    · rw [same] at success
      rcases pending with ⟨none, _⟩ | ⟨pending, _⟩
      · rw [none] at success
        cases success
      · rw [pending] at success
        cases success
    · exact sound.truthful number ((kept number same).1.symm.trans success)
  fresh := fun number large => by
    rw [puts] at large
    rw [(kept number (by omega)).1]
    exact sound.fresh number (by omega)
  unmade := fun number large => by
    rw [puts] at large
    rw [(kept number (by omega)).2]
    exact sound.unmade number (by omega)
  returned := fun number returns filled => by
    by_cases same : number = outgoing.puts
    · rw [same] at returns filled
      rcases pending with ⟨none, _⟩ | ⟨_, other⟩
      · exact absurd none filled
      · exact absurd returns other
    · rw [(kept number same).1] at filled ⊢
      exact sound.returned number ((kept number same).2.symm.trans returns) filled
  waits := fun number made own => by
    rw [puts] at made
    by_cases same : number = outgoing.puts
    · rw [same] at own ⊢
      rcases pending with ⟨_, other⟩ | ⟨pending, _⟩
      · exact absurd own other
      · rw [pending]
        exact ⟨Option.some_ne_none _, by decide⟩
    · rw [(kept number same).1]
      exact sound.waits number (by omega) ((kept number same).2.symm.trans own)

theorem Sound.reject (sound : Sound outgoing) (puts : next.puts = outgoing.puts + 1)
    (accepted : next.accepted = outgoing.accepted) (sent : next.sent = outgoing.sent) (held : next.held = outgoing.held)
    (kept : ∀ number, number ≠ outgoing.puts → next.acknowledgements number = outgoing.acknowledgements number ∧
      next.outcomes number = outgoing.outcomes number)
    (answered : next.acknowledgements outgoing.puts ≠ some (.result true))
    (refused : next.outcomes outgoing.puts = .returned false) : Sound next where
  increasing := by rw [accepted]; exact sound.increasing
  below := by
    rw [accepted, puts]
    exact fun entry mem => Nat.lt_succ_of_lt (sound.below entry mem)
  ordered := by rw [accepted, sent, held]; exact sound.ordered
  named := by rw [held]; exact sound.named
  truthful := fun number success => by
    rw [sent]
    by_cases same : number = outgoing.puts
    · exact absurd (same ▸ success) answered
    · exact sound.truthful number ((kept number same).1.symm.trans success)
  fresh := fun number large => by
    rw [puts] at large
    rw [(kept number (by omega)).1]
    exact sound.fresh number (by omega)
  unmade := fun number large => by
    rw [puts] at large
    rw [(kept number (by omega)).2]
    exact sound.unmade number (by omega)
  returned := fun number returns filled => by
    by_cases same : number = outgoing.puts
    · rw [same, refused] at returns
      cases returns
    · rw [(kept number same).1] at filled ⊢
      exact sound.returned number ((kept number same).2.symm.trans returns) filled
  waits := fun number made own => by
    rw [puts] at made
    by_cases same : number = outgoing.puts
    · rw [same, refused] at own
      cases own
    · rw [(kept number same).1]
      exact sound.waits number (by omega) ((kept number same).2.symm.trans own)

theorem Sound.put (sound : Sound outgoing) (size : ℕ) (message : Message) (waitWritten : Bool) :
    Sound (outgoing.put size message waitWritten) := by
  have none := sound.fresh outgoing.puts le_rfl
  rw [Outgoing.put]
  dsimp only
  split
  · refine sound.reject rfl rfl rfl rfl (fun number other => ⟨rfl, Function.update_of_ne other ..⟩) ?_
      (Function.update_self ..)
    rw [none]
    exact (Option.some_ne_none _).symm
  · split
    · refine sound.reject rfl rfl rfl rfl (fun number other => ⟨?_, Function.update_of_ne other ..⟩) ?_
        (Function.update_self ..)
      · dsimp only
        split
        · exact Function.update_of_ne other ..
        · rfl
      · dsimp only
        split
        · rw [Function.update_self]
          decide
        · rw [none]
          exact (Option.some_ne_none _).symm
    · split
      · refine sound.accept message (some outgoing.puts) (fun number own => (Option.some.inj own).symm) rfl rfl rfl
          (append_assoc _ _ _).symm (fun number other => ⟨Function.update_of_ne other .., rfl⟩)
          (Or.inr ⟨Function.update_self .., ?_⟩)
        rw [sound.unmade outgoing.puts le_rfl]
        decide
      · refine sound.accept message Option.none (fun number own => by cases own) rfl rfl rfl
          (append_assoc _ _ _).symm (fun number other => ⟨rfl, Function.update_of_ne other ..⟩)
          (Or.inl ⟨none, ?_⟩)
        dsimp only
        rw [Function.update_self]
        decide

theorem Sound.resumed (sound : Sound outgoing) {value : Acknowledgement}
    (answered : outgoing.acknowledgements number = some value) (resumed : outgoing.resumed number value = some next) :
    Sound next := by
  have made : number < outgoing.puts := by
    by_contra large
    rw [sound.fresh number (by omega)] at answered
    cases answered
  have goes (outcome : PutOutcome) (true_of : outcome = .returned true → value = .result true)
      (goes_on : outcome ≠ .waiting) :
      Sound { outgoing with outcomes := Function.update outgoing.outcomes number outcome } := by
    refine { sound with unmade := ?_, returned := ?_, waits := ?_ }
    · intro other large
      have ne : other ≠ number := by
        dsimp only at large
        omega
      exact (Function.update_of_ne ne ..).trans (sound.unmade other large)
    · intro other returned filled
      by_cases same : other = number
      · rw [same] at returned ⊢
        rw [answered, true_of ((Function.update_self ..).symm.trans returned)]
      · exact sound.returned other ((Function.update_of_ne same ..).symm.trans returned) filled
    · intro other before waits
      by_cases same : other = number
      · rw [same] at waits
        exact absurd ((Function.update_self ..).symm.trans waits) goes_on
      · exact sound.waits other before ((Function.update_of_ne same ..).symm.trans waits)
  cases value with
  | pending => cases resumed
  | cancelled => cases resumed
  | result value =>
    cases resumed
    exact goes (.returned value) (fun same => by cases same; rfl) (by simp)
  | failure =>
    cases resumed
    exact goes (.returned false) (fun same => by cases same) (by simp)

theorem Sound.cancelPut (sound : Sound outgoing) (made : number < outgoing.puts) :
    Sound { outgoing with
      acknowledgements := if outgoing.acknowledgements number = some .pending
        then Function.update outgoing.acknowledgements number (some .cancelled) else outgoing.acknowledgements
      outcomes := Function.update outgoing.outcomes number .cancelled } := by
  have other_kept (other : ℕ) (ne : other ≠ number) : (if outgoing.acknowledgements number = some .pending
      then Function.update outgoing.acknowledgements number (some .cancelled)
      else outgoing.acknowledgements) other = outgoing.acknowledgements other := by
    split
    · exact Function.update_of_ne ne ..
    · rfl
  have own_kept : (if outgoing.acknowledgements number = some .pending
      then Function.update outgoing.acknowledgements number (some .cancelled)
      else outgoing.acknowledgements) number ≠ some (.result true) ∨
        outgoing.acknowledgements number = some (.result true) := by
    split
    · rw [Function.update_self]
      exact Or.inl (by decide)
    · exact (ne_or_eq _ _)
  refine ⟨sound.increasing, sound.below, sound.ordered, sound.named, ?_, ?_, ?_, ?_, ?_⟩
  · intro other success
    by_cases same : other = number
    · rw [same] at success ⊢
      rcases own_kept with no | before
      · exact absurd success no
      · exact sound.truthful number before
    · exact sound.truthful other ((other_kept other same).symm.trans success)
  · intro other large
    have ne : other ≠ number := by
      dsimp only at large
      omega
    exact (other_kept other ne).trans (sound.fresh other large)
  · intro other large
    have ne : other ≠ number := by
      dsimp only at large
      omega
    exact (Function.update_of_ne ne ..).trans (sound.unmade other large)
  · intro other returned filled
    by_cases same : other = number
    · rw [same] at returned
      cases (Function.update_self ..).symm.trans returned
    · dsimp only at filled ⊢
      rw [other_kept other same] at filled ⊢
      exact sound.returned other ((Function.update_of_ne same ..).symm.trans returned) filled
  · intro other before waits
    by_cases same : other = number
    · rw [same] at waits
      cases (Function.update_self ..).symm.trans waits
    · dsimp only
      rw [other_kept other same]
      exact sound.waits other before ((Function.update_of_ne same ..).symm.trans waits)

/-- Neither the phases of `close` nor the flags matter. -/
theorem Sound.congr (sound : Sound outgoing) (puts : next.puts = outgoing.puts)
    (accepted : next.accepted = outgoing.accepted) (sent : next.sent = outgoing.sent)
    (outcomes : next.outcomes = outgoing.outcomes) (held : next.held = outgoing.held)
    (acknowledgements : next.acknowledgements = outgoing.acknowledgements) : Sound next :=
  sound.lessen puts accepted sent outcomes (held ▸ Sublist.refl _) (acknowledgements ▸ settles_refl _)

theorem Sound.putEnd (sound : Sound outgoing) (number : ℕ) : Sound (outgoing.putEnd number) := by
  have held : (outgoing.putEnd number).held = outgoing.held ++ [{ message := none }] :=
    (append_assoc _ _ _).symm
  refine { sound with ordered := ?_, named := fun item mem => ?_ }
  · rw [held, messages, filterMap_append]
    have nothing : [({ message := none } : OutgoingItem Message)].filterMap OutgoingItem.message = [] := rfl
    rw [nothing, append_nil]
    exact sound.ordered
  · rw [held] at mem
    rcases mem_append.1 mem with old | new
    · exact sound.named item old
    · rw [mem_singleton.1 new]
      rintro number ⟨⟩

theorem Sound.close (sound : Sound outgoing) (size number : ℕ) (graceful : Bool) :
    Sound (outgoing.close size number graceful) := by
  rw [Outgoing.close]
  dsimp only
  split
  · split
    · exact sound.congr rfl rfl rfl rfl rfl rfl
    · split
      · exact sound.congr rfl rfl rfl rfl rfl rfl
      · have closing : Sound { outgoing with closing := true } := sound.congr rfl rfl rfl rfl rfl rfl
        exact closing.putEnd number
  · split
    · exact sound.congr rfl rfl rfl rfl rfl rfl
    · exact sound.lessen rfl rfl rfl rfl (Sublist.append_left (nil_sublist _) _)
        (settles_answerAll (by decide) (by decide) _ _)

/-! ### Steps -/

/-- What a step does to the writer -/
inductive Moves (size : ℕ) (outgoing : Outgoing Message) : OutgoingStep Message → Outgoing Message → Prop
  | put (message : Message) (waitWritten : Bool) :
      Moves size outgoing (.put message waitWritten) (outgoing.put size message waitWritten)
  | cancelPut (number : ℕ) (made : number < outgoing.puts) :
      Moves size outgoing (.cancelPut number) { outgoing with
        acknowledgements := if outgoing.acknowledgements number = some .pending
          then Function.update outgoing.acknowledgements number (some .cancelled) else outgoing.acknowledgements
        outcomes := Function.update outgoing.outcomes number .cancelled }
  | resume {number : ℕ} {value : Acknowledgement} {next : Outgoing Message}
      (answered : outgoing.acknowledgements number = some value) (resumed : outgoing.resumed number value = some next) :
      Moves size outgoing (.resume number) next
  | aborted (starting : outgoing.writer = .starting) (cancelled : outgoing.cancelled = true) :
      Moves size outgoing .start { outgoing with writer := .ended }
  | start (starting : outgoing.writer = .starting) : Moves size outgoing .start (outgoing.loop none)
  | wake {last : Option (OutgoingItem Message)} (waiting : outgoing.writer = .waiting last) :
      Moves size outgoing .wake (outgoing.loop last)
  | sent {item : OutgoingItem Message} (sending : outgoing.writer = .sending item) :
      Moves size outgoing .sent (outgoing.written item)
  | sendFails {item : OutgoingItem Message} (sending : outgoing.writer = .sending item) :
      Moves size outgoing .sendFails { outgoing.fail (some item) with sendFailed := true }
  | interrupt {current : Option (OutgoingItem Message)}
      (suspended : outgoing.writer = .waiting current ∨ ∃ item, outgoing.writer = .sending item ∧ current = some item)
      (cancelled : outgoing.cancelled = true) : Moves size outgoing .interrupt (outgoing.interrupted current)
  | close (number : ℕ) (graceful : Bool) :
      Moves size outgoing (.close number graceful) (outgoing.close size number graceful)
  | closePut {number : ℕ} (putting : outgoing.closes number = .putting) :
      Moves size outgoing (.closePut number) (outgoing.putEnd number)
  | closeReturn (number : ℕ) : Moves size outgoing (.closeReturn number) (outgoing.setClose number .closed)

variable {label : OutgoingStep Message}

theorem moves (stepped : (machine size).step outgoing label = some next) :
    Moves size outgoing label next := by
  change outgoing.step size label = some next at stepped
  cases label with
  | put message waitWritten =>
    cases stepped
    exact .put message waitWritten
  | cancelPut number =>
    rw [step] at stepped
    rcases of_guard stepped with ⟨waits, rfl⟩
    exact .cancelPut number waits.2
  | resume number =>
    rw [step] at stepped
    rcases Option.ite_none_right_eq_some.mp stepped with ⟨_, stepped⟩
    rcases Option.bind_eq_some_iff.1 stepped with ⟨value, answered, resumed⟩
    exact .resume answered resumed
  | start =>
    rw [step] at stepped
    split at stepped
    · rename_i starting
      split at stepped
      · rename_i cancelled
        cases stepped
        exact .aborted starting cancelled
      · cases stepped
        exact .start starting
    · cases stepped
  | wake =>
    rw [step] at stepped
    split at stepped
    · rename_i last waiting
      rcases Option.ite_none_left_eq_some.mp stepped with ⟨_, ⟨⟩⟩
      exact .wake waiting
    · cases stepped
  | sent =>
    rw [step] at stepped
    split at stepped
    · rename_i item sending
      rcases Option.ite_none_left_eq_some.mp stepped with ⟨_, ⟨⟩⟩
      exact .sent sending
    · cases stepped
  | sendFails =>
    rw [step] at stepped
    split at stepped
    · rename_i item sending
      cases stepped
      exact .sendFails sending
    · cases stepped
  | interrupt =>
    rw [step] at stepped
    split at stepped
    · rename_i last waiting
      rcases of_guard stepped with ⟨cancelled, rfl⟩
      exact .interrupt (Or.inl waiting) cancelled
    · rename_i item sending
      rcases of_guard stepped with ⟨cancelled, rfl⟩
      exact .interrupt (Or.inr ⟨item, sending, rfl⟩) cancelled
    · cases stepped
  | close number graceful =>
    rw [step] at stepped
    rcases of_guard stepped with ⟨_, rfl⟩
    exact .close number graceful
  | closePut number =>
    rw [step] at stepped
    rcases of_guard stepped with ⟨waits, rfl⟩
    exact .closePut waits.1
  | closeReturn number =>
    rw [step] at stepped
    rcases of_guard stepped with ⟨_, rfl⟩
    exact .closeReturn number

theorem Sound.step (sound : Sound outgoing)
    (stepped : (machine size).step outgoing label = some next) : Sound next := by
  cases moves stepped with
  | put message waitWritten => exact sound.put size message waitWritten
  | cancelPut number made => exact sound.cancelPut made
  | resume answered resumed => exact sound.resumed answered resumed
  | aborted starting cancelled =>
    refine sound.lessen rfl rfl rfl rfl ?_ (settles_refl _)
    rw [held, held, starting]
    exact Sublist.refl _
  | start starting => exact sound.loop (by rw [starting]; rfl) none
  | @wake last waiting => exact sound.loop (by rw [waiting]; rfl) last
  | sent sending => exact sound.written sending
  | @sendFails item sending => exact (sound.fail (some item)).congr rfl rfl rfl rfl rfl rfl
  | @interrupt current suspended cancelled => exact sound.interrupted current
  | close number graceful => exact sound.close size number graceful
  | @closePut number putting => exact sound.putEnd number
  | closeReturn number => exact sound.congr rfl rfl rfl rfl rfl rfl

end Outgoing

end Synapse.Transport
