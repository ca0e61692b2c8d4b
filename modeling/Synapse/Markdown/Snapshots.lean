import Synapse.Markdown.ParseQueue

/-!
# What documents show

A document waits, or its text is being parsed, or its last snapshot is of its text. While a request is
unanswered it is the active one, so when none is every document shows its text.
-/

namespace Synapse.Markdown

open List
open Console (JsText)

universe u v

variable {Key : Type u} {Block : Type v} {parse : JsText → Option (List Block)}
  {key : Block → Key}

/-- A snapshot has no blocks, or those of its source up to their keys. -/
def Shows (parse : JsText → Option (List Block)) (key : Block → Key) (snapshot : MarkdownSnapshot Block) : Prop :=
  snapshot.blocks = none ∨ ∃ blocks parsed, snapshot.blocks = some blocks ∧ parse snapshot.source = some parsed ∧
    blocks.map key = parsed.map key ∧ (Function.Injective key → blocks = parsed)

theorem shows_of_keys {source : JsText} {blocks parsed : List Block} (found : parse source = some parsed)
    (same : blocks.map key = parsed.map key) : Shows parse key ⟨source, some blocks⟩ :=
  Or.inr ⟨blocks, parsed, rfl, found, same, fun injective => injective.list_map same⟩

def Keyed (key : Block → Key) (blocks : List (ParsedBlock Key Block)) : Prop :=
  ∀ entry ∈ blocks, entry.key = key entry.block

theorem keyed_reuse [DecidableEq Key] {previous entries : List (ParsedBlock Key Block)} (old : Keyed key previous)
    (new : Keyed key entries) : Keyed key (MarkdownParseQueue.reuse previous entries) := by
  intro entry mem
  rcases mem_mapIdx.1 mem with ⟨index, bound, rfl⟩
  split
  · rename_i other found
    split
    · exact old other (mem_of_getElem? found)
    · exact new _ (getElem_mem bound)
  · exact new _ (getElem_mem bound)

theorem map_key_reuse [DecidableEq Key] (previous entries : List (ParsedBlock Key Block)) :
    (MarkdownParseQueue.reuse previous entries).map ParsedBlock.key = entries.map ParsedBlock.key := by
  refine ext_getElem (by simp [MarkdownParseQueue.reuse]) fun index first second => ?_
  simp only [MarkdownParseQueue.reuse, getElem_map, getElem_mapIdx]
  split
  · split
    · assumption
    · rfl
  · rfl

theorem map_block_key {blocks : List (ParsedBlock Key Block)} (keyed : Keyed key blocks) :
    (blocks.map ParsedBlock.block).map key = blocks.map ParsedBlock.key := by
  rw [map_map]
  exact map_congr_left fun entry mem => (keyed entry mem).symm

namespace MarkdownParseQueue

variable {queue next : MarkdownParseQueue Key Block}

/-! ### Invariants -/

/-- What holds of a queue also while it sends a request. -/
structure Core (parse : JsText → Option (List Block)) (key : Block → Key) (queue : MarkdownParseQueue Key Block) :
    Prop where
  documents_lt : ∀ document ∈ queue.documents, document < queue.opened
  worker_lt : ∀ worker, queue.worker = some worker → worker < queue.created
  unused : ∀ worker, queue.created ≤ worker → queue.unanswered worker = []
  keyed : ∀ document, Keyed key (queue.states document).blocks
  shows : ∀ document, ∀ entry ∈ (queue.states document).received,
    entry.1.source <+: entry.2 ∧ Shows parse key entry.1

/-- The active job can no longer change what a document shows. -/
def Displaced (queue : MarkdownParseQueue Key Block) (document : ℕ) : Prop :=
  ∀ job, queue.active = some job → job.document = document →
    ¬ ((queue.states document).text.length ≤ parseMaxChars ∧ job.text <+: (queue.states document).text)

def ShowsText (document : DocumentState Key Block) : Prop :=
  ∃ entry, document.received.getLast? = some entry ∧ entry.1.source = document.text

/-- The text of a document waits, is being parsed, or is what it shows. -/
def Served (queue : MarkdownParseQueue Key Block) (document : ℕ) : Prop :=
  (∃ entry ∈ queue.pending, entry.1 = document) ∨
    (∃ job, queue.active = some job ∧ job.document = document ∧ job.text = (queue.states document).text) ∨
    ShowsText (queue.states document) ∧ queue.Displaced document

/-- A text that is sent to a worker -/
def Parsable (text : JsText) : Prop := text ≠ [] ∧ text.length ≤ parseMaxChars

structure Sound (parse : JsText → Option (List Block)) (key : Block → Key) (queue : MarkdownParseQueue Key Block) :
    Prop extends Core parse key queue where
  waiting : ∀ entry ∈ queue.pending, entry.1 ∈ queue.documents ∧ entry.2 = (queue.states entry.1).text ∧
    Parsable entry.2
  stopped : queue.failed = true → queue.worker = none ∧ queue.active = none ∧ queue.pending = []
  asked : ∀ job, queue.active = some job → Parsable job.text ∧
    ∃ worker, queue.worker = some worker ∧ queue.unanswered worker = [⟨job.id, job.text⟩]
  quiet : queue.active = none → ∀ worker, queue.worker = some worker → queue.unanswered worker = []
  served : ∀ document ∈ queue.documents, (queue.states document).updated = true → queue.Served document

/-- Between events no text waits without a job. -/
structure Lawful (parse : JsText → Option (List Block)) (key : Block → Key) (queue : MarkdownParseQueue Key Block) :
    Prop extends Sound parse key queue where
  idle : queue.active = none → queue.pending = []

theorem lawful_new : Lawful parse key (new : MarkdownParseQueue Key Block) where
  documents_lt _ mem := absurd mem not_mem_nil
  worker_lt _ some := by cases some
  unused _ _ := rfl
  keyed _ _ mem := absurd mem not_mem_nil
  shows _ _ mem := absurd mem not_mem_nil
  waiting _ mem := absurd mem not_mem_nil
  stopped failed := by cases failed
  asked _ some := by cases some
  quiet _ _ _ := rfl
  served _ mem := absurd mem not_mem_nil
  idle _ := rfl

/-! ### Failing and sending -/

theorem Core.fail (core : Core parse key queue) : Lawful parse key queue.fail where
  documents_lt := core.documents_lt
  worker_lt _ some := by cases some
  unused := core.unused
  keyed document := by
    dsimp only [MarkdownParseQueue.fail]
    split
    · exact fun _ mem => absurd mem not_mem_nil
    · exact core.keyed document
  shows document := by
    dsimp only [MarkdownParseQueue.fail]
    split
    · intro entry mem
      rcases mem_append.1 mem with old | new
      · exact core.shows document entry old
      · obtain rfl := mem_singleton.1 new
        exact ⟨prefix_rfl, Or.inl rfl⟩
    · exact core.shows document
  waiting _ mem := absurd mem not_mem_nil
  stopped _ := ⟨rfl, rfl, rfl⟩
  asked _ some := by cases some
  quiet _ _ some := by cases some
  served document mem _ := by
    refine Or.inr (Or.inr ⟨?_, fun _ some => by cases some⟩)
    have inside : document ∈ queue.documents := mem
    dsimp only [MarkdownParseQueue.fail]
    rw [if_pos inside]
    exact ⟨_, getLast?_concat, rfl⟩
  idle _ := rfl

variable {job : Job} {worker : ℕ}

theorem Core.post (core : Core parse key queue) (used : worker < queue.created) :
    Core parse key (queue.post worker job) where
  documents_lt := core.documents_lt
  worker_lt := core.worker_lt
  unused other unused := by
    have away : queue.created ≤ other := unused
    have different : other ≠ worker := by omega
    exact (Function.update_of_ne different _ _).trans (core.unused other away)
  keyed := core.keyed
  shows := core.shows

/-- What holds before the active job is sent. -/
structure Ready (parse : JsText → Option (List Block)) (key : Block → Key) (queue : MarkdownParseQueue Key Block)
    (job : Job) : Prop extends Core parse key queue where
  running : queue.failed = false
  active : queue.active = some job
  parsable : Parsable job.text
  waiting : ∀ entry ∈ queue.pending, entry.1 ∈ queue.documents ∧ entry.2 = (queue.states entry.1).text ∧
    Parsable entry.2
  free : ∀ worker, queue.worker = some worker → queue.unanswered worker = []
  served : ∀ document ∈ queue.documents, (queue.states document).updated = true → queue.Served document

theorem Ready.posted (ready : Ready parse key queue job)
    (live : queue.worker = some worker) : Lawful parse key (queue.post worker job) where
  toCore := ready.toCore.post (ready.worker_lt worker live)
  waiting := ready.waiting
  stopped failed := by
    have running : queue.failed = true := failed
    rw [ready.running] at running
    cases running
  asked other some := by
    have same : queue.active = Option.some other := some
    rw [ready.active] at same
    obtain rfl := Option.some.inj same
    refine ⟨ready.parsable, worker, live, ?_⟩
    dsimp only [MarkdownParseQueue.post]
    rw [Function.update_self, ready.free worker live, nil_append]
  quiet none := by
    have same : queue.active = Option.none := none
    rw [ready.active] at same
    cases same
  served := ready.served
  idle none := by
    have same : queue.active = Option.none := none
    rw [ready.active] at same
    cases same

theorem Ready.send (ready : Ready parse key queue job) (sending : Sending) :
    Lawful parse key (queue.send sending job) := by
  unfold MarkdownParseQueue.send
  split
  · rename_i worker live
    split
    · exact ready.posted live
    · exact ready.toCore.fail
  · rename_i missing
    split
    · have started : Ready parse key
          { queue with worker := some queue.created, created := queue.created + 1 } job := by
        refine { ready with
          worker_lt := ?_
          unused := ?_
          free := ?_ }
        · rintro worker same
          cases same
          exact Nat.lt_succ_self _
        · exact fun worker unused => ready.unused worker (Nat.le_of_succ_le unused)
        · rintro worker same
          cases same
          exact ready.unused _ le_rfl
      dsimp only
      split
      · exact started.posted rfl
      · exact started.toCore.fail
    · exact ready.toCore.fail

theorem Sound.pump (sound : Sound parse key queue) (sending : Sending) :
    Lawful parse key (queue.pump sending) := by
  unfold MarkdownParseQueue.pump
  split
  · rename_i busy
    refine { sound with idle := fun none => ?_ }
    rcases busy with failed | active
    · exact (sound.stopped failed).2.2
    · exact absurd none active
  · rename_i free
    rw [not_or, not_not, Bool.not_eq_true] at free
    split
    · rename_i empty
      exact { sound with idle := fun _ => empty }
    · rename_i document text pending first
      have own := sound.waiting (document, text) (first ▸ mem_cons_self)
      have ready : Ready parse key { queue with
          pending := pending, nextId := queue.nextId + 1, active := some ⟨queue.nextId + 1, document, text⟩ }
          ⟨queue.nextId + 1, document, text⟩ := by
        refine { sound.toCore with
          running := free.1
          active := rfl
          parsable := own.2.2
          waiting := fun entry mem => sound.waiting entry (first ▸ mem_cons_of_mem _ mem)
          free := sound.quiet free.2
          served := ?_ }
        intro other mem updated
        by_cases same : other = document
        · exact Or.inr (Or.inl ⟨_, rfl, same.symm, same ▸ own.2.1⟩)
        · rcases sound.served other mem updated with ⟨entry, waits, named⟩ | ⟨job, active, _⟩ | ⟨shows, _⟩
          · rw [first] at waits
            rcases mem_cons.1 waits with rfl | later
            · exact absurd named.symm same
            · exact Or.inl ⟨entry, later, named⟩
          · rw [free.2] at active
            cases active
          · refine Or.inr (Or.inr ⟨shows, ?_⟩)
            rintro job active named
            cases active
            exact absurd named.symm same
      exact ready.send sending

/-! ### Events -/

theorem Lawful.openDocument (lawful : Lawful parse key queue) : Lawful parse key queue.openDocument := by
  have away {document : ℕ} (mem : document ∈ queue.documents) : document ≠ queue.opened :=
    (lawful.documents_lt document mem).ne
  have states {document : ℕ} (other : document ≠ queue.opened) :
      queue.openDocument.states document = queue.states document := Function.update_of_ne other _ _
  have fresh : queue.openDocument.states queue.opened = ⟨[], [], [], false⟩ := Function.update_self _ _ _
  refine { lawful with
    documents_lt := ?_
    keyed := ?_
    shows := ?_
    waiting := ?_
    served := ?_ }
  · intro document mem
    rcases mem_append.1 mem with old | new
    · exact (lawful.documents_lt document old).trans (Nat.lt_succ_self _)
    · exact mem_singleton.1 new ▸ Nat.lt_succ_self _
  · intro document
    by_cases same : document = queue.opened
    · rw [same, fresh]
      exact fun _ mem => absurd mem not_mem_nil
    · rw [states same]
      exact lawful.keyed document
  · intro document
    by_cases same : document = queue.opened
    · rw [same, fresh]
      exact fun _ mem => absurd mem not_mem_nil
    · rw [states same]
      exact lawful.shows document
  · intro entry mem
    have own := lawful.waiting entry mem
    exact ⟨mem_append_left _ own.1, by rw [states (away own.1)]; exact own.2⟩
  · intro document mem updated
    rcases mem_append.1 mem with old | new
    · rw [states (away old)] at updated
      unfold Served Displaced
      rw [states (away old)]
      exact lawful.served document old updated
    · obtain rfl := mem_singleton.1 new
      rw [fresh] at updated
      cases updated

variable {document : ℕ} {pending : List (ℕ × JsText)}
variable {entry : ℕ × JsText}

theorem mem_deletePending :
    entry ∈ deletePending document pending ↔ entry ∈ pending ∧ entry.1 ≠ document := by
  simp [deletePending]

variable {text : JsText}

theorem mem_setPending :
    entry ∈ setPending document text pending ↔
      entry = (document, text) ∨ entry ∈ pending ∧ entry.1 ≠ document := by
  unfold setPending
  split
  · rename_i there
    rcases mem_map.1 there with ⟨old, known, named⟩
    rw [mem_map]
    constructor
    · rintro ⟨other, mem, rfl⟩
      split
      · exact Or.inl rfl
      · rename_i different
        exact Or.inr ⟨mem, different⟩
    · rintro (rfl | ⟨mem, different⟩)
      · exact ⟨old, known, if_pos named⟩
      · exact ⟨entry, mem, if_neg different⟩
  · rename_i missing
    rw [mem_append, mem_singleton]
    constructor
    · rintro (mem | own)
      · exact Or.inr ⟨mem, fun named => missing (mem_map.2 ⟨entry, mem, named⟩)⟩
      · exact Or.inl own
    · rintro (own | ⟨mem, _⟩)
      · exact Or.inr own
      · exact Or.inl mem

theorem Lawful.showAtOnce (lawful : Lawful parse key queue)
    {blocks : Option (List Block)} (direct : queue.failed = true ∨ parseMaxChars < text.length ∨ text = [])
    (shows : Shows parse key ⟨text, blocks⟩) : Lawful parse key { queue with
      pending := deletePending document queue.pending
      states := Function.update queue.states document <|
        { queue.states document with text := text, updated := true, blocks := [] }.receive blocks text } := by
  have away {other : ℕ} (different : other ≠ document) (state : DocumentState Key Block) :
      Function.update queue.states document state other = queue.states other :=
    Function.update_of_ne different _ _
  refine { lawful with
    keyed := ?_
    shows := ?_
    waiting := ?_
    stopped := ?_
    served := ?_
    idle := ?_ }
  · intro other
    by_cases same : other = document
    · subst same
      dsimp only
      rw [Function.update_self]
      exact fun _ mem => absurd mem not_mem_nil
    · dsimp only
      rw [away same]
      exact lawful.keyed other
  · intro other
    by_cases same : other = document
    · subst same
      dsimp only
      rw [Function.update_self]
      intro entry mem
      rcases mem_append.1 mem with old | new
      · exact lawful.shows other entry old
      · obtain rfl := mem_singleton.1 new
        exact ⟨prefix_rfl, shows⟩
    · dsimp only
      rw [away same]
      exact lawful.shows other
  · intro entry mem
    have kept := mem_deletePending.1 mem
    dsimp only
    rw [away kept.2]
    exact lawful.waiting entry kept.1
  · intro failed
    have idle := lawful.stopped failed
    exact ⟨idle.1, idle.2.1, by rw [idle.2.2]; rfl⟩
  · intro other mem updated
    by_cases same : other = document
    · subst same
      refine Or.inr (Or.inr ⟨?_, ?_⟩)
      · dsimp only
        rw [Function.update_self]
        exact ⟨_, getLast?_concat, rfl⟩
      · intro job active _ accepted
        have parsable := (lawful.asked job active).1
        dsimp only at accepted
        rw [Function.update_self] at accepted
        rcases direct with failed | long | empty
        · have none := (lawful.stopped failed).2.1
          rw [active] at none
          cases none
        · exact absurd accepted.1 (not_le.2 long)
        · have nothing : job.text <+: text := accepted.2
          rw [empty, prefix_nil] at nothing
          exact parsable.1 nothing
    · dsimp only at updated
      rw [away same] at updated
      unfold Served Displaced
      dsimp only
      rw [away same]
      rcases lawful.served other mem updated with ⟨entry, waits, named⟩ | rest
      · exact Or.inl ⟨entry, mem_deletePending.2 ⟨waits, named ▸ same⟩, named⟩
      · exact Or.inr rest
  · intro none
    show deletePending document queue.pending = []
    rw [lawful.idle none]
    rfl

theorem Sound.wait (sound : Sound parse key queue)
    (mem : document ∈ queue.documents) (running : queue.failed = false) (parsable : Parsable text) :
    Sound parse key { queue with
      pending := setPending document text queue.pending
      states := Function.update queue.states document
        { queue.states document with text := text, updated := true } } := by
  have away {other : ℕ} (different : other ≠ document) (state : DocumentState Key Block) :
      Function.update queue.states document state other = queue.states other :=
    Function.update_of_ne different _ _
  refine { sound with
    keyed := ?_
    shows := ?_
    waiting := ?_
    stopped := ?_
    served := ?_ }
  · intro other
    by_cases same : other = document
    · subst same
      dsimp only
      rw [Function.update_self]
      exact sound.keyed other
    · dsimp only
      rw [away same]
      exact sound.keyed other
  · intro other
    by_cases same : other = document
    · subst same
      dsimp only
      rw [Function.update_self]
      exact sound.shows other
    · dsimp only
      rw [away same]
      exact sound.shows other
  · intro entry queued
    rcases mem_setPending.1 queued with rfl | ⟨old, different⟩
    · dsimp only
      rw [Function.update_self]
      exact ⟨mem, rfl, parsable⟩
    · dsimp only
      rw [away different]
      exact sound.waiting entry old
  · intro failed
    have same : queue.failed = true := failed
    rw [running] at same
    cases same
  · intro other inside updated
    by_cases same : other = document
    · exact Or.inl ⟨(document, text), mem_setPending.2 (Or.inl rfl), same.symm⟩
    · dsimp only at updated
      rw [away same] at updated
      unfold Served Displaced
      dsimp only
      rw [away same]
      rcases sound.served other inside updated with ⟨entry, waits, named⟩ | rest
      · exact Or.inl ⟨entry, mem_setPending.2 (Or.inr ⟨waits, named ▸ same⟩), named⟩
      · exact Or.inr rest

theorem Lawful.update (lawful : Lawful parse key queue) (empty : parse [] = some []) (document : ℕ)
    (text : JsText) (sending : Sending) : Lawful parse key (queue.update document text sending) := by
  unfold MarkdownParseQueue.update
  split
  · rename_i mem
    dsimp only
    split
    · rename_i direct
      refine lawful.showAtOnce direct ?_
      by_cases nothing : text = []
      · rw [if_pos nothing, nothing]
        exact shows_of_keys empty rfl
      · rw [if_neg nothing]
        exact Or.inl rfl
    · rename_i queued
      rw [not_or, not_or, Bool.not_eq_true, not_lt] at queued
      exact (lawful.toSound.wait mem queued.1 ⟨queued.2.2, queued.2.1⟩).pump sending
  · exact lawful

theorem Lawful.dispose (lawful : Lawful parse key queue) (document : ℕ) :
    Lawful parse key (queue.dispose document) := by
  have text (other : ℕ) : (Function.update queue.states document
      { queue.states document with blocks := [] } other).text = (queue.states other).text := by
    by_cases same : other = document
    · rw [same, Function.update_self]
    · rw [Function.update_of_ne same]
  have received (other : ℕ) : (Function.update queue.states document
      { queue.states document with blocks := [] } other).received = (queue.states other).received := by
    by_cases same : other = document
    · rw [same, Function.update_self]
    · rw [Function.update_of_ne same]
  have disposed : Lawful parse key { queue with
      documents := queue.documents.filter fun other => other ≠ document
      pending := deletePending document queue.pending
      states := Function.update queue.states document { queue.states document with blocks := [] } } := by
    refine { lawful with
      documents_lt := fun other mem => lawful.documents_lt other (mem_of_mem_filter mem)
      keyed := ?_
      shows := ?_
      waiting := ?_
      stopped := ?_
      served := ?_
      idle := ?_ }
    · intro other
      by_cases same : other = document
      · subst same
        dsimp only
        rw [Function.update_self]
        exact fun _ mem => absurd mem not_mem_nil
      · dsimp only
        rw [Function.update_of_ne same]
        exact lawful.keyed other
    · intro other
      dsimp only
      rw [received]
      exact lawful.shows other
    · intro entry mem
      have kept := mem_deletePending.1 mem
      have own := lawful.waiting entry kept.1
      dsimp only
      rw [text]
      exact ⟨mem_filter.2 ⟨own.1, decide_eq_true kept.2⟩, own.2⟩
    · intro failed
      have idle := lawful.stopped failed
      exact ⟨idle.1, idle.2.1, by rw [idle.2.2]; rfl⟩
    · intro other mem updated
      have different : other ≠ document := of_decide_eq_true (mem_filter.1 mem).2
      dsimp only at updated
      rw [Function.update_of_ne different] at updated
      unfold Served Displaced
      dsimp only
      rw [Function.update_of_ne different]
      rcases lawful.served other (mem_of_mem_filter mem) updated with ⟨entry, waits, named⟩ | rest
      · exact Or.inl ⟨entry, mem_deletePending.2 ⟨waits, named ▸ different⟩, named⟩
      · exact Or.inr rest
    · intro none
      show deletePending document queue.pending = []
      rw [lawful.idle none]
      rfl
  unfold MarkdownParseQueue.dispose
  dsimp only
  split
  · rename_i last
    have nothing : deletePending document queue.pending = [] := by
      refine eq_nil_iff_forall_not_mem.2 fun entry mem => ?_
      have own := (disposed.waiting entry mem).1
      dsimp only at own
      rw [last] at own
      cases own
    exact { disposed with
      worker_lt := fun _ some => by cases some
      stopped := fun _ => ⟨rfl, rfl, nothing⟩
      asked := fun _ some => by cases some
      quiet := fun _ _ some => by cases some
      served := fun other mem => by
        dsimp only at mem
        rw [last] at mem
        cases mem
      idle := fun _ => nothing }
  · exact disposed

theorem Lawful.finish (lawful : Lawful parse key queue)
    (active : queue.active = some job) (live : queue.worker = some worker) {state : DocumentState Key Block}
    (text : state.text = (queue.states job.document).text) (keyed : Keyed key state.blocks)
    (shows : ∀ entry ∈ state.received, entry.1.source <+: entry.2 ∧ Shows parse key entry.1)
    (served : job.document ∈ queue.documents → state.updated = true →
      (∃ entry ∈ queue.pending, entry.1 = job.document) ∨ ShowsText state) :
    Sound parse key { queue with
      unanswered := Function.update queue.unanswered worker []
      active := none
      states := Function.update queue.states job.document state } := by
  refine { lawful with
    unused := ?_
    keyed := ?_
    shows := ?_
    waiting := ?_
    stopped := ?_
    asked := fun _ some => by cases some
    quiet := ?_
    served := ?_ }
  · intro other unused
    dsimp only
    by_cases same : other = worker
    · rw [same, Function.update_self]
    · rw [Function.update_of_ne same]
      exact lawful.unused other unused
  · intro other
    dsimp only
    by_cases same : other = job.document
    · rw [same, Function.update_self]
      exact keyed
    · rw [Function.update_of_ne same]
      exact lawful.keyed other
  · intro other
    dsimp only
    by_cases same : other = job.document
    · rw [same, Function.update_self]
      exact shows
    · rw [Function.update_of_ne same]
      exact lawful.shows other
  · intro entry mem
    have own := lawful.waiting entry mem
    dsimp only
    by_cases same : entry.1 = job.document
    · rw [same, Function.update_self, text, ← same]
      exact own
    · rw [Function.update_of_ne same]
      exact own
  · intro failed
    have idle := lawful.stopped failed
    rw [idle.2.1] at active
    cases active
  · intro _ other same
    have own := Option.mem_unique live same
    dsimp only
    rw [← own, Function.update_self]
  · intro other mem changed
    unfold Served Displaced
    dsimp only at changed ⊢
    by_cases same : other = job.document
    · rw [same, Function.update_self] at changed ⊢
      rcases served (same ▸ mem) changed with waits | shown
      · exact Or.inl waits
      · exact Or.inr (Or.inr ⟨shown, fun _ some => by cases some⟩)
    · rw [Function.update_of_ne same] at changed ⊢
      rcases lawful.served other mem changed with waits | ⟨own, parses, named, _⟩ | ⟨shown, _⟩
      · exact Or.inl waits
      · rw [active] at parses
        obtain rfl := Option.some.inj parses
        exact absurd named.symm same
      · exact Or.inr (Or.inr ⟨shown, fun _ some => by cases some⟩)

section

variable [DecidableEq Key]

/-- The blocks of an answer are those of the text, with their keys. -/
def Answers (parse : JsText → Option (List Block)) (key : Block → Key) (text : JsText)
    (response : ParseResponse Key Block) : Prop :=
  response.blocks = none ∨ ∃ parsed, parse text = some parsed ∧
    response.blocks = some (parsed.map fun block => ⟨key block, block⟩)

omit [DecidableEq Key] in
theorem answers_answer (request : ParseRequest) (parses : Bool) :
    Answers parse key request.text (answer parse key request parses) := by
  unfold Answers answer
  cases parses with
  | false => exact Or.inl rfl
  | true =>
    cases found : parse request.text with
    | none => exact Or.inl rfl
    | some parsed => exact Or.inr ⟨parsed, rfl, rfl⟩

omit [DecidableEq Key] in
theorem keyed_answer (parsed : List Block) :
    Keyed key (parsed.map fun block => (⟨key block, block⟩ : ParsedBlock Key Block)) := by
  intro entry mem
  rcases mem_map.1 mem with ⟨block, _, rfl⟩
  rfl

variable {response : ParseResponse Key Block}

theorem Answers.shows {previous : List (ParsedBlock Key Block)}
    (answers : Answers parse key text response) (old : Keyed key previous) :
    Keyed key ((response.blocks.map (reuse previous)).getD []) ∧
      Shows parse key ⟨text, (response.blocks.map (reuse previous)).map (List.map ParsedBlock.block)⟩ := by
  rcases answers with none | ⟨parsed, found, some⟩
  · rw [none]
    exact ⟨fun _ mem => absurd mem not_mem_nil, Or.inl rfl⟩
  · rw [some]
    have keyed := keyed_reuse old (keyed_answer parsed)
    refine ⟨keyed, shows_of_keys found ?_⟩
    rw [map_block_key keyed, map_key_reuse, map_map]
    rfl

variable {worker : ℕ}

/-- A job that ends shows a prefix of the text, and all of it unless another text waits. -/
theorem Lawful.shown (lawful : Lawful parse key queue)
    (active : queue.active = some job) (live : queue.worker = some worker)
    (answers : Answers parse key job.text response) :
    Sound parse key (MarkdownParseQueue.shown { queue with
      unanswered := Function.update queue.unanswered worker []
      active := none } job response) := by
  have parsable := (lawful.asked job active).1
  have shows := answers.shows (lawful.keyed job.document)
  unfold MarkdownParseQueue.shown
  dsimp only
  split
  · rename_i accepted
    have front : job.text <+: (queue.states job.document).text := isPrefixOf_iff_prefix.1 accepted.2.2
    refine lawful.finish active live rfl shows.1 ?_ ?_
    · intro entry mem
      rcases mem_append.1 mem with old | new
      · exact lawful.shows job.document entry old
      · obtain rfl := mem_singleton.1 new
        exact ⟨front, shows.2⟩
    · intro mem updated
      rcases lawful.served job.document mem updated with waits | ⟨own, parses, _, whole⟩ | ⟨_, displaced⟩
      · exact Or.inl waits
      · rw [active] at parses
        obtain rfl := Option.some.inj parses
        exact Or.inr ⟨_, getLast?_concat, whole⟩
      · exact absurd ⟨accepted.2.1, front⟩ (displaced job active rfl)
  · rename_i refused
    have finished := lawful.finish active live rfl (lawful.keyed job.document) (lawful.shows job.document)
      (fun mem updated => by
        rcases lawful.served job.document mem updated with waits | ⟨own, parses, _, whole⟩ | ⟨shown, _⟩
        · exact Or.inl waits
        · rw [active] at parses
          obtain rfl := Option.some.inj parses
          refine absurd ⟨mem, ?_, ?_⟩ refused
          · rw [← whole]
            exact parsable.2
          · rw [← whole]
            exact isPrefixOf_iff_prefix.2 prefix_rfl
        · exact Or.inr shown)
    rw [Function.update_eq_self] at finished
    exact finished

variable {rest : List ParseRequest}
variable {request : ParseRequest}

theorem Lawful.respond (lawful : Lawful parse key queue)
    (first : queue.unanswered worker = request :: rest)
    (live : queue.worker = some worker) (parses : Bool) (sending : Sending) :
    Lawful parse key (complete { queue with unanswered := Function.update queue.unanswered worker rest }
      (answer parse key request parses) sending) := by
  cases active : queue.active with
  | none =>
    rw [lawful.quiet active worker live] at first
    cases first
  | some job =>
    rcases (lawful.asked job active).2 with ⟨other, used, only⟩
    obtain rfl := Option.mem_unique live used
    rw [only] at first
    obtain ⟨rfl, rfl⟩ := cons.inj first
    unfold MarkdownParseQueue.complete
    dsimp only
    have same : ¬ job.id ≠ (answer parse key ⟨job.id, job.text⟩ parses).id := not_not.2 rfl
    rw [if_neg same]
    exact (lawful.shown active live (answers_answer ⟨job.id, job.text⟩ parses)).pump sending

omit [DecidableEq Key] in
theorem Lawful.ignore (lawful : Lawful parse key queue)
    (first : queue.unanswered worker = request :: rest) (dead : queue.worker ≠ some worker) :
    Lawful parse key { queue with unanswered := Function.update queue.unanswered worker rest } := by
  have away {other : ℕ} (live : queue.worker = some other) : other ≠ worker := by
    rintro rfl
    exact dead live
  refine { lawful with
    unused := ?_
    asked := ?_
    quiet := ?_ }
  · intro other unused
    have different : other ≠ worker := by
      rintro rfl
      rw [lawful.unused other unused] at first
      cases first
    dsimp only
    rw [Function.update_of_ne different]
    exact lawful.unused other unused
  · intro job active
    rcases lawful.asked job active with ⟨parsable, other, live, only⟩
    refine ⟨parsable, other, live, ?_⟩
    dsimp only
    rw [Function.update_of_ne (away live)]
    exact only
  · intro none other live
    dsimp only
    rw [Function.update_of_ne (away live)]
    exact lawful.quiet none other live

variable {event : Event}

theorem Lawful.step (lawful : Lawful parse key queue) (empty : parse [] = some [])
    (stepped : queue.step parse key event = some next) : Lawful parse key next := by
  cases event with
  | openDocument =>
    cases stepped
    exact lawful.openDocument
  | update document text sending =>
    rcases of_guard stepped with ⟨_, rfl⟩
    exact lawful.update empty document text sending
  | dispose document =>
    rcases of_guard stepped with ⟨_, rfl⟩
    exact lawful.dispose document
  | respond worker parses sending =>
    simp only [MarkdownParseQueue.step] at stepped
    split at stepped
    · cases stepped
    · rename_i request rest first
      split at stepped
      · rename_i live
        cases stepped
        exact lawful.respond first live parses sending
      · rename_i dead
        cases stepped
        exact lawful.ignore first dead
  | error worker =>
    simp only [MarkdownParseQueue.step] at stepped
    split at stepped
    · cases stepped
      exact lawful.toCore.fail
    · cases stepped
      exact lawful

/-! ### Disposed documents -/

/-- A document that was opened and disposed, and what it has received. -/
structure Gone (document : ℕ) (received : List (MarkdownSnapshot Block × JsText))
    (queue : MarkdownParseQueue Key Block) : Prop where
  opened : document < queue.opened
  closed : document ∉ queue.documents
  received : (queue.states document).received = received

variable {document : ℕ} {received : List (MarkdownSnapshot Block × JsText)}

omit [DecidableEq Key] in
theorem Gone.fail (gone : Gone document received queue) : Gone document received queue.fail where
  opened := gone.opened
  closed := gone.closed
  received := by
    dsimp only [MarkdownParseQueue.fail]
    rw [if_neg gone.closed]
    exact gone.received

omit [DecidableEq Key] in
theorem Gone.send (gone : Gone document received queue) (sending : Sending) (job : Job) :
    Gone document received (queue.send sending job) := by
  unfold MarkdownParseQueue.send
  split
  · split
    · exact ⟨gone.opened, gone.closed, gone.received⟩
    · exact gone.fail
  · split
    · have started : Gone document received
          { queue with worker := some queue.created, created := queue.created + 1 } :=
        ⟨gone.opened, gone.closed, gone.received⟩
      dsimp only
      split
      · exact ⟨gone.opened, gone.closed, gone.received⟩
      · exact started.fail
    · exact gone.fail

omit [DecidableEq Key] in
theorem Gone.pump (gone : Gone document received queue) (sending : Sending) :
    Gone document received (queue.pump sending) := by
  unfold MarkdownParseQueue.pump
  split
  · exact gone
  · split
    · exact gone
    · have ready (job : Job) (pending : List (ℕ × JsText)) : Gone document received { queue with
          pending := pending, nextId := queue.nextId + 1, active := some job } :=
        ⟨gone.opened, gone.closed, gone.received⟩
      exact (ready _ _).send sending _

omit [DecidableEq Key] in
theorem Gone.other (gone : Gone document received queue) {other : ℕ} (different : other ≠ document)
    (state : DocumentState Key Block) : (Function.update queue.states other state document).received = received := by
  rw [Function.update_of_ne (Ne.symm different)]
  exact gone.received

theorem Gone.step (gone : Gone document received queue)
    (stepped : queue.step parse key event = some next) : Gone document received next := by
  cases event with
  | openDocument =>
    cases stepped
    refine ⟨Nat.lt_succ_of_lt gone.opened, fun mem => ?_, gone.other gone.opened.ne' _⟩
    rcases mem_append.1 mem with old | new
    · exact gone.closed old
    · exact gone.opened.ne (mem_singleton.1 new)
  | update other text sending =>
    rcases of_guard stepped with ⟨_, rfl⟩
    unfold MarkdownParseQueue.update
    split
    · rename_i mem
      have different : other ≠ document := fun same => gone.closed (same ▸ mem)
      dsimp only
      split
      · exact ⟨gone.opened, gone.closed, gone.other different _⟩
      · have waiting : Gone document received { queue with
            pending := setPending other text queue.pending
            states := Function.update queue.states other
              { queue.states other with text := text, updated := true } } :=
          ⟨gone.opened, gone.closed, gone.other different _⟩
        exact waiting.pump sending
    · exact gone
  | dispose other =>
    simp only [MarkdownParseQueue.step] at stepped
    rcases of_guard stepped with ⟨_, rfl⟩
    have closed : document ∉ queue.documents.filter fun open_ => open_ ≠ other :=
      fun mem => gone.closed (mem_of_mem_filter mem)
    have same : (Function.update queue.states other { queue.states other with blocks := [] } document).received =
        received := by
      by_cases own : document = other
      · rw [own, Function.update_self, ← own]
        exact gone.received
      · exact gone.other (Ne.symm own) _
    unfold MarkdownParseQueue.dispose
    dsimp only
    split
    · exact ⟨gone.opened, closed, same⟩
    · exact ⟨gone.opened, closed, same⟩
  | respond worker parses sending =>
    simp only [MarkdownParseQueue.step] at stepped
    split at stepped
    · cases stepped
    · split at stepped
      · cases stepped
        unfold MarkdownParseQueue.complete
        split
        · exact ⟨gone.opened, gone.closed, gone.received⟩
        · split
          · exact ⟨gone.opened, gone.closed, gone.received⟩
          · rename_i job _ _
            refine Gone.pump ?_ sending
            unfold MarkdownParseQueue.shown
            dsimp only
            split
            · rename_i accepted
              have different : job.document ≠ document := fun same => gone.closed (same ▸ accepted.1)
              exact ⟨gone.opened, gone.closed, gone.other different _⟩
            · exact ⟨gone.opened, gone.closed, gone.received⟩
      · cases stepped
        exact ⟨gone.opened, gone.closed, gone.received⟩
  | error worker =>
    simp only [MarkdownParseQueue.step] at stepped
    split at stepped
    · cases stepped
      exact gone.fail
    · cases stepped
      exact gone

/-! ### Runs -/

theorem lawful_run (empty : parse [] = some []) {events : List Event}
    (ran : (machine parse key).run new events = some queue) : Lawful parse key queue :=
  Machine.run_invariant (fun lawful stepped => lawful.step empty stepped) lawful_new ran

omit [DecidableEq Key] in
theorem Lawful.unanswered_le (lawful : Lawful parse key queue) (live : queue.worker = some worker) :
    (queue.unanswered worker).length ≤ 1 := by
  cases active : queue.active with
  | none =>
    rw [lawful.quiet active worker live]
    exact Nat.zero_le 1
  | some job =>
    rcases (lawful.asked job active).2 with ⟨other, same, only⟩
    obtain rfl := Option.mem_unique live same
    rw [only]
    exact le_rfl

omit [DecidableEq Key] in
theorem Lawful.settled (lawful : Lawful parse key queue)
    (none : ∀ worker, queue.worker = some worker → queue.unanswered worker = []) {document : ℕ}
    (mem : document ∈ queue.documents) (updated : (queue.states document).updated = true) :
    ShowsText (queue.states document) := by
  have idle : queue.active = Option.none := by
    cases active : queue.active with
    | none => rfl
    | some job =>
      rcases (lawful.asked job active).2 with ⟨worker, live, only⟩
      rw [none worker live] at only
      cases only
  rcases lawful.served document mem updated with ⟨entry, waits, _⟩ | ⟨job, active, _⟩ | ⟨shown, _⟩
  · rw [lawful.idle idle] at waits
    cases waits
  · rw [idle] at active
    cases active
  · exact shown

/-- In every run the documents receive prefixes of their texts and blocks of these, one request at most is
unanswered, disposed documents receive nothing more, and when no request is unanswered every document shows
its text. -/
theorem never_stale (empty : parse [] = some []) {events : List Event}
    (ran : (machine parse key).run new events = some queue) :
    (∀ document, ∀ entry ∈ (queue.states document).received,
        entry.1.source <+: entry.2 ∧ Shows parse key entry.1) ∧
      (∀ worker, queue.worker = some worker → (queue.unanswered worker).length ≤ 1) ∧
      (∀ more last, (machine parse key).run queue more = some last → ∀ document < queue.opened,
        document ∉ queue.documents →
          (last.states document).received = (queue.states document).received) ∧
      ((∀ worker, queue.worker = some worker → queue.unanswered worker = []) →
        ∀ document ∈ queue.documents, (queue.states document).updated = true →
          ShowsText (queue.states document)) := by
  have lawful := lawful_run empty ran
  refine ⟨lawful.shows, fun _ live => lawful.unanswered_le live, ?_, fun none _ => lawful.settled none⟩
  intro more last went document opened closed
  have gone : Gone document (queue.states document).received last :=
    Machine.run_invariant (fun gone stepped => gone.step stepped) ⟨opened, closed, rfl⟩ went
  exact gone.received

end

/-- A text of one block -/
def paragraph (text : JsText) : Option (List JsText) := some (if text = [] then [] else [text])

/-- A document whose text grows while the worker parses it -/
def growing : List Event :=
  [.openDocument, .update 0 [0x61] ⟨true, true⟩, .update 0 [0x61, 0x62] ⟨true, true⟩, .respond 0 true ⟨true, true⟩,
    .respond 0 true ⟨true, true⟩]

theorem growing_never_stale : ∃ queue, (machine paragraph id).run new growing = some queue ∧
    (queue.states 0).received.map (fun entry => entry.1.source) = [[0x61], [0x61, 0x62]] ∧
      ∀ document, ∀ entry ∈ (queue.states document).received,
        entry.1.source <+: entry.2 ∧ Shows paragraph id entry.1 := by
  have empty : paragraph [] = some [] := rfl
  have runs : ((machine paragraph id).run new growing).isSome = true := by decide +kernel
  rcases Option.isSome_iff_exists.1 runs with ⟨queue, ran⟩
  have sources : ((machine paragraph id).run new growing).map
      (fun queue => (queue.states 0).received.map fun entry => entry.1.source) =
        some [[0x61], [0x61, 0x62]] := by decide +kernel
  rw [ran] at sources
  exact ⟨queue, ran, Option.some.inj sources, (never_stale empty ran).1⟩

end MarkdownParseQueue

end Synapse.Markdown
