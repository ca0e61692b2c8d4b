import Synapse.Foundation.Table
import Synapse.Search.Index

/-!
# What a search matches

A query without wildcards matches the rows whose text contains it. The pattern of another query matches what
fills its wildcards.
-/

namespace Synapse.Search

open List

/-! ### Hits -/

/-- The text contains the query, up to the case of ASCII letters. -/
def Contains (query content : Text) : Prop := query.map fold <:+: content.map fold

instance (query content : Text) : Decidable (Contains query content) :=
  inferInstanceAs (Decidable (_ <:+: _))

/-- The row is of a selected role and contains the query. -/
def Hit (query : Text) (roles : Option (List Text)) (row : Row) : Prop :=
  Selects roles row.role ∧ Contains query.strip row.content

instance (query : Text) (roles : Option (List Text)) (row : Row) : Decidable (Hit query roles row) :=
  inferInstanceAs (Decidable (_ ∧ _))

def hits (rows : List Row) (query : Text) (roles : Option (List Text)) : List Row :=
  rows.filter fun row => decide (Hit query roles row)

/-- The search returns each hit among the rows once, and nothing else. -/
def Exact (rows : List Row) (index : Index) (query : Text) (limit : ℤ) (roles : Option (List Text)) : Prop :=
  ∃ found, search index query limit roles = .ok found ∧ (found.map Prod.fst).Nodup ∧
    (found.map Prod.fst).Perm (hits rows query roles)

variable {query content pattern : Text} {roles : Option (List Text)} {limit : ℤ} {index : Index}
  {rows : List Row} {row : Row}

/-! ### The join -/

theorem filter_threadId (index : Index) {entry : Entry} (mem : entry ∈ index.indexed) :
    index.indexed.filter (fun other => decide (other.threadId = entry.threadId)) = [entry] := by
  have once : (index.indexed.filter fun other => decide (other.threadId = entry.threadId)).Nodup :=
    index.threads.of_map.filter _
  refine perm_singleton.1 ((perm_ext_iff_of_nodup once (nodup_singleton entry)).2 fun other => ?_)
  rw [mem_filter, mem_singleton, decide_eq_true_iff]
  constructor
  · rintro ⟨stored, same⟩
    exact Table.eq_of_key index.threads stored mem same
  · rintro rfl
    exact ⟨mem, rfl⟩

/-- Every row is joined with the one entry of its thread. -/
theorem fst_joined (index : Index) : index.joined.map Prod.fst = index.messages := by
  have each : ∀ row ∈ index.messages, ((index.indexed.filter fun entry =>
      decide (entry.threadId = row.threadId)).map fun entry => (row, entry.updatedAt)).map Prod.fst = [row] := by
    intro row mem
    rcases mem_map.1 (index.paired row mem) with ⟨entry, stored, same⟩
    rw [← same, filter_threadId index stored]
    rfl
  rw [Index.joined, map_flatMap, flatMap_congr each, flatMap_singleton']

theorem joined_eq_nil : index.joined = [] ↔ index.messages = [] := by
  rw [← fst_joined index, map_eq_nil_iff]

/-- The rows that the pattern and the roles leave. -/
def matched (index : Index) (query : Text) (roles : Option (List Text)) : List Row :=
  index.messages.filter fun row => like (patternOf query) row.content && decide (Selects roles row.role)

theorem nodup_matched (index : Index) (query : Text) (roles : Option (List Text)) :
    (matched index query roles).Nodup := index.keys.of_map.filter _

theorem fst_matched (index : Index) (query : Text) (roles : Option (List Text)) :
    ((index.joined.filter fun hit => like (patternOf query) hit.1.content &&
      decide (Selects roles hit.1.role)).map Prod.fst) = matched index query roles := by
  rw [matched, ← fst_joined index, filter_map]
  rfl

/-- The values of a search that the driver takes. -/
structure Binds (query : Text) (limit : ℤ) (roles : Option (List Text)) : Prop where
  encodes : Text.Encodes (patternOf query)
  roles : ∀ role ∈ roles.getD [], Text.Encodes role
  small : limit < maxInteger
  short : (patternOf query).utf8Size?.getD 0 ≤ likeLimit

/-- A search whose values are taken returns what is matched, up to the limit. -/
theorem search_eq (binds : Binds query limit roles) : ∃ sorted : List (Row × Text),
    search index query limit roles = .ok (sorted.take (max 1 limit).toNat) ∧
      (sorted.map Prod.fst).Perm (matched index query roles) := by
  refine ⟨_, ?_, ((mergeSort_perm _ before).map Prod.fst).trans
    (Perm.of_eq (fst_matched index query roles))⟩
  have small : ¬ maxInteger ≤ max 1 limit := by
    have one : (1 : ℤ) < maxInteger := by decide
    have limited := binds.small
    omega
  have short : ¬ (likeLimit < (patternOf query).utf8Size?.getD 0 ∧ index.joined ≠ []) :=
    fun long => absurd binds.short (not_le.2 long.1)
  rw [search, if_neg (not_not.2 ⟨binds.encodes, binds.roles⟩), if_neg small, if_neg short]

/-! ### Queries without wildcards -/

/-- No character of the query is a wildcard or ends the pattern. -/
def Literal (query : Text) : Prop := ∀ point ∈ query, point ≠ percent ∧ point ≠ underscore ∧ point ≠ 0

instance (query : Text) : Decidable (Literal query) := List.decidableBAll _ query

theorem visible_starts (value : Text) : visible value <+: value := takeWhile_prefix _

theorem visible_of_free (free : ∀ point ∈ content, point ≠ 0) : visible content = content :=
  takeWhile_eq_self_iff.2 fun point mem => decide_eq_true (free point mem)

theorem Contains.of_visible (contains : Contains query (visible content)) : Contains query content :=
  contains.trans ((visible_starts content).map fold).isInfix

/-- The pattern of a query without wildcards matches the texts that contain the query where they are seen. -/
theorem like_iff (literal : Literal query.strip) :
    like (patternOf query) content = true ↔ Contains query.strip (visible content) := by
  have tokens : (visible (patternOf query)).map token =
      .all :: (query.strip.map Like.Token.letter ++ [.all]) := by
    have seen : visible (patternOf query) = patternOf query := by
      refine visible_of_free fun point mem => ?_
      rw [patternOf, mem_cons, mem_append, mem_singleton] at mem
      rcases mem with rfl | own | rfl
      · decide
      · exact (literal point own).2.2
      · decide
    have plain : query.strip.map token = query.strip.map Like.Token.letter :=
      map_congr_left fun point mem => by
        rw [token, if_neg (literal point mem).1, if_neg (literal point mem).2.1]
    rw [seen, patternOf, map_cons, map_append, plain]
    rfl
  rw [like, tokens, Like.run_inside, Contains]

theorem mem_matched (literal : Literal query.strip) : row ∈ matched index query roles ↔
    row ∈ index.messages ∧ Selects roles row.role ∧ Contains query.strip (visible row.content) := by
  rw [matched, mem_filter, Bool.and_eq_true, decide_eq_true_iff, like_iff literal, and_comm (a := Contains ..)]

theorem mem_hits : row ∈ hits rows query roles ↔ row ∈ rows ∧ Selects roles row.role ∧
    Contains query.strip row.content := by
  rw [hits, mem_filter, decide_eq_true_iff, Hit]

theorem exact_of_perm (binds : Binds query limit roles) (same : (matched index query roles).Perm (hits rows query roles))
    (room : (hits rows query roles).length ≤ limit) : Exact rows index query limit roles := by
  rcases @search_eq _ _ _ index binds with ⟨sorted, found, order⟩
  have all : sorted.take (max 1 limit).toNat = sorted := by
    have count : sorted.length = (hits rows query roles).length := by
      rw [← length_map Prod.fst, order.length_eq, same.length_eq]
    exact take_of_length_le (by omega)
  rw [all] at found
  exact ⟨sorted, found, order.nodup_iff.2 (nodup_matched index query roles), order.trans same⟩

/-- A query without wildcards finds the hits when each contains it where it is seen. -/
theorem exact_iff (literal : Literal query.strip) (binds : Binds query limit roles)
    (same : index.messages.Perm rows) (room : (hits rows query roles).length ≤ limit) :
    Exact rows index query limit roles ↔ ∀ row ∈ rows, Selects roles row.role →
      Contains query.strip row.content → Contains query.strip (visible row.content) := by
  constructor
  · rintro ⟨found, result, _, exactly⟩ row mem selects contains
    rcases @search_eq _ _ _ index binds with ⟨sorted, own, order⟩
    obtain rfl := Except.ok.inj (result.symm.trans own)
    have inFound := exactly.mem_iff.2 (mem_hits.2 ⟨mem, selects, contains⟩)
    have inSorted := ((take_sublist _ sorted).map Prod.fst).subset inFound
    exact ((mem_matched literal).1 (order.mem_iff.1 inSorted)).2.2
  · intro seen
    refine exact_of_perm binds ?_ room
    have once : (hits rows query roles).Nodup := (same.nodup_iff.1 index.keys.of_map).filter _
    refine (perm_ext_iff_of_nodup (nodup_matched index query roles) once).2 fun row => ?_
    rw [mem_matched literal, mem_hits, same.mem_iff]
    constructor
    · rintro ⟨mem, selects, contains⟩
      exact ⟨mem, selects, contains.of_visible⟩
    · rintro ⟨mem, selects, contains⟩
      exact ⟨mem, selects, seen row mem selects contains⟩

/-! ### Rows of messages -/

/-- The content starts with no space, and is cut. -/
structure Stored (content : Text) : Prop where
  starts : ∀ point rest, content = point :: rest → point.isSpace = false
  length : content.length ≤ maxContentChars

theorem contentToText_eq_strip (content : Content) : ∃ value : Text, contentToText content = value.strip := by
  cases content with
  | missing => exact ⟨[], rfl⟩
  | text value => exact ⟨value, rfl⟩
  | blocks blocks => exact ⟨_, rfl⟩
  | other rendered => exact ⟨rendered, rfl⟩

theorem stored_of_mem {threadId : Text} {messages : List Message} (mem : row ∈ rowsOf threadId messages) :
    Stored row.content := by
  rcases mem_filterMap.1 mem with ⟨numbered, _, found⟩
  rcases Option.ite_none_left_eq_some.mp found with ⟨_, found⟩
  rcases Option.ite_none_left_eq_some.mp found with ⟨_, found⟩
  obtain rfl := Option.some.inj found
  rcases contentToText_eq_strip numbered.1.content with ⟨value, stripped⟩
  refine ⟨fun point rest same => ?_, length_take_le _ _⟩
  change (contentToText numbered.1.content).take maxContentChars = point :: rest at same
  rw [stripped] at same
  cases whole : value.strip with
  | nil => rw [whole] at same; cases same
  | cons first others =>
    rw [whole] at same
    obtain ⟨rfl, _⟩ := cons.inj same
    exact Text.isSpace_of_strip whole

/-! ### Queries that match nothing -/

/-- The tokens of the query that stand for one character each. -/
def core (query : Text) : List (Like.Token CodePoint) := Like.single ((visible query).map token)

/-- The token stands for a space. -/
def IsSpace : Like.Token CodePoint → Prop
  | .letter point => point.isSpace = true
  | _ => False

instance : DecidablePred IsSpace
  | .letter point => inferInstanceAs (Decidable (point.isSpace = true))
  | .one | .all => isFalse fun space => space

/-- The pattern is longer than any content, or as long and starts with a space. -/
def Beyond (query : Text) : Prop :=
  maxContentChars < (core query).length ∨
    (core query).length = maxContentChars ∧ ∃ first ∈ (core query).head?, IsSpace first

instance (query : Text) : Decidable (Beyond query) := inferInstanceAs (Decidable (_ ∨ _ ∧ ∃ _ ∈ _, _))

theorem isSpace_of_fold {first other : CodePoint} (space : first.isSpace = true) (same : fold first = fold other) :
    other.isSpace = true := by
  have equal : first = other := by
    unfold CodePoint.isSpace at space
    simp only [Bool.or_eq_true, Bool.and_eq_true, decide_eq_true_iff, beq_iff_eq] at space
    unfold fold at same
    ext
    split at same <;> split at same <;> omega
  exact equal ▸ space

theorem single_patternOf (query : Text) :
    Like.single ((visible (patternOf query)).map token) = core query.strip := by
  have rest : visible (query.strip ++ [percent]) = visible query.strip ∨
      visible (query.strip ++ [percent]) = visible query.strip ++ [percent] := by
    rw [visible, takeWhile_append]
    split
    · next whole =>
        right
        rw [visible, ( takeWhile_prefix _).eq_of_length whole]
        rfl
    · exact Or.inl rfl
  have front : visible (patternOf query) = percent :: visible (query.strip ++ [percent]) := by
    rw [patternOf, visible, takeWhile_cons, if_pos (by decide)]
    rfl
  rw [front, map_cons, core]
  rcases rest with same | same
  · rw [same]
    rfl
  · rw [same, map_append, ← cons_append, Like.single, filter_append]
    exact append_nil _

theorem Stored.visible (stored : Stored content) : Stored (visible content) where
  starts point rest same := by
    rcases visible_starts content with ⟨back, whole⟩
    exact stored.starts point (rest ++ back) (by rw [← whole, same, cons_append])
  length := (visible_starts content).length_le.trans stored.length

theorem length_core_le (query : Text) : (core query).length ≤ query.length := by
  calc
    (core query).length ≤ ((Search.visible query).map token).length := length_filter_le _ _
    _ = (Search.visible query).length := length_map _
    _ ≤ query.length := (visible_starts query).length_le

/-- A query beyond every content is contained in none. -/
theorem not_contains_of_beyond (beyond : Beyond query.strip) (filled : query.strip ≠ []) (stored : Stored content) :
    ¬ Contains query.strip content := by
  intro contains
  have short : query.strip.length ≤ content.length := by
    simpa only [length_map] using contains.length_le
  have least := length_core_le query.strip
  have limited := stored.length
  rcases beyond with longer | ⟨whole, first, starts, space⟩
  · omega
  · have tokens : core query.strip = query.strip.map token := by
      have seen : Search.visible query.strip = query.strip :=
        (visible_starts query.strip).eq_of_length (le_antisymm (visible_starts query.strip).length_le (by
          have counted : (core query.strip).length ≤ (Search.visible query.strip).length :=
            (length_filter_le _ _).trans_eq (length_map _)
          omega))
      rw [core, seen]
      exact List.filter_sublist.eq_of_length (by
        rw [length_map]
        have counted : (core query.strip).length = query.strip.length := by omega
        rw [core, seen] at counted
        exact counted)
    cases opened : query.strip with
    | nil => exact filled opened
    | cons point rest =>
      rw [tokens, opened, map_cons, head?_cons] at starts
      obtain rfl := Option.some.inj starts
      have plain := Text.isSpace_of_strip opened
      unfold token at space
      split at space
      · exact space
      · split at space
        · exact space
        · exact absurd space (Bool.eq_false_iff.1 plain)

/-- A query beyond every content is the pattern of none. -/
theorem not_like_of_beyond (beyond : Beyond query.strip) (stored : Stored content) :
    ¬ like (patternOf query) content = true := by
  intro found
  have limited := stored.visible.length
  have least := Like.length_le_of_run found
  rw [single_patternOf] at least
  rcases beyond with longer | ⟨whole, first, starts, space⟩
  · omega
  · have covers := Like.covers_of_run_of_length found (by rw [single_patternOf]; omega)
    rw [single_patternOf] at covers
    cases tokens : core query.strip with
    | nil => rw [tokens] at starts; cases starts
    | cons own others =>
      rw [tokens, head?_cons] at starts
      obtain rfl := Option.some.inj starts
      cases seen : visible content with
      | nil =>
        rw [tokens, seen] at covers
        cases covers
      | cons point rest =>
        rw [tokens, seen] at covers
        have plain := stored.visible.starts point rest seen
        cases own with
        | letter letter =>
          have same : fold letter = fold point := (forall₂_cons.1 covers).1
          exact absurd (isSpace_of_fold space same) (Bool.eq_false_iff.1 plain)
        | one => exact space
        | all => exact space

/-! ### Texts that fill the wildcards -/

def filler : CodePoint := 120

/-- A content of the greatest length that the pattern of the query matches at its end. -/
def filling (query : Text) : Text :=
  List.replicate (maxContentChars - (core query).length) filler ++
    (core query).flatMap (Like.Token.fill filler)

theorem length_fill {tokens : List (Like.Token CodePoint)} (single : ∀ token ∈ tokens, token.isAll = false) :
    (tokens.flatMap (Like.Token.fill filler)).length = tokens.length := by
  induction tokens with
  | nil => rfl
  | cons token tokens ih =>
    have one : (token.fill filler).length = 1 := by
      have plain := single token mem_cons_self
      cases token with
      | letter letter => rfl
      | one => rfl
      | all => cases plain
    rw [flatMap_cons, length_append, one, length_cons,
      ih fun other mem => single other (mem_cons_of_mem _ mem), Nat.add_comm]

theorem isAll_of_mem_core {own : Like.Token CodePoint} (mem : own ∈ core query) : own.isAll = false :=
  Bool.not_eq_true' own.isAll ▸ (mem_filter.1 mem).2

theorem length_filling (short : (core query).length ≤ maxContentChars) :
    (filling query).length = maxContentChars := by
  rw [filling, length_append, length_replicate, length_fill fun _ mem => isAll_of_mem_core mem]
  omega

variable {point : CodePoint}

/-- The characters of the filling are those of the query, but for wildcards and the end, and the filler. -/
theorem mem_filling (mem : point ∈ filling query) :
    point = filler ∨ point ∈ query ∧ point ≠ percent ∧ point ≠ underscore ∧ point ≠ 0 := by
  rcases mem_append.1 mem with padded | filled
  · exact Or.inl (eq_of_mem_replicate padded)
  · rcases mem_flatMap.1 filled with ⟨own, inCore, fills⟩
    rcases mem_map.1 (mem_of_mem_filter inCore) with ⟨letter, seen, rfl⟩
    rw [token] at fills
    split at fills
    · cases fills
    · next plain =>
        split at fills
        · exact Or.inl (mem_singleton.1 fills)
        · next other =>
            obtain rfl := mem_singleton.1 fills
            exact Or.inr ⟨(visible_starts query).subset seen, plain, other,
              by simpa using mem_takeWhile_imp seen⟩

theorem free_filling : ∀ point ∈ filling query, point ≠ 0 := by
  intro point mem
  rcases mem_filling mem with rfl | ⟨_, _, _, free⟩
  · decide
  · exact free

theorem flatMap_single (tokens : List (Like.Token CodePoint)) :
    (Like.single tokens).flatMap (Like.Token.fill filler) = tokens.flatMap (Like.Token.fill filler) := by
  induction tokens with
  | nil => rfl
  | cons token tokens ih =>
    cases token with
    | letter letter => exact congrArg (letter :: ·) ih
    | one => exact congrArg (filler :: ·) ih
    | all => exact ih

theorem like_filling (query : Text) : like (patternOf query) (filling query.strip) = true := by
  have fills : Like.run fold ((visible (patternOf query)).map token)
      ((core query.strip).flatMap (Like.Token.fill filler)) = true := by
    rw [← single_patternOf, flatMap_single]
    exact Like.run_fill filler _
  rw [like, visible_of_free free_filling, filling]
  have front : ∃ rest, (visible (patternOf query)).map token = .all :: rest := by
    rw [patternOf, visible, takeWhile_cons, if_pos (by decide), map_cons]
    exact ⟨_, rfl⟩
  rcases front with ⟨rest, same⟩
  rw [same] at fills ⊢
  rcases Like.run_all.1 fills with ⟨tail, suffix, found⟩
  exact Like.run_all.2 ⟨tail, suffix.trans (suffix_append _ _), found⟩

theorem fold_plain {other : CodePoint} (mark : point = percent ∨ point = underscore ∨ point = 0)
    (same : fold other = fold point) : other = point := by
  unfold fold at same
  ext
  rcases mark with rfl | rfl | rfl <;> split at same <;> simp [percent, underscore] at * <;> omega

theorem not_contains_filling (wild : ¬ Literal query) : ¬ Contains query (filling query) := by
  intro contains
  rw [Literal] at wild
  push Not at wild
  rcases wild with ⟨point, mem, special⟩
  have mark : point = percent ∨ point = underscore ∨ point = 0 := by
    by_cases all : point = percent
    · exact Or.inl all
    · by_cases one : point = underscore
      · exact Or.inr (Or.inl one)
      · exact Or.inr (Or.inr (special all one))
  rcases mem_map.1 (contains.subset (mem_map_of_mem mem)) with ⟨other, filled, same⟩
  obtain rfl := fold_plain mark same
  rcases mem_filling filled with rfl | ⟨_, all, one, free⟩
  · rcases mark with same | same | same <;> exact absurd same (by decide)
  · rcases mark with same | same | same
    · exact all same
    · exact one same
    · exact free same

theorem strip_of_ends {value : Text} (filled : value ≠ []) (first : (value.head filled).isSpace = false)
    (last : (value.getLast filled).isSpace = false) : value.strip = value := by
  have front : value.dropWhile CodePoint.isSpace = value := by
    refine dropWhile_eq_self_iff.2 fun nonempty => ?_
    rw [← head_eq_getElem_zero filled, first]
    exact Bool.false_ne_true
  rw [Text.strip, front]
  refine rdropWhile_eq_self_iff.2 fun nonempty => ?_
  rw [last]
  exact Bool.false_ne_true

theorem starts_filling (short : (core query).length ≤ maxContentChars) (within : ¬ Beyond query)
    {rest : Text} (starts : filling query = point :: rest) : point.isSpace = false := by
  have plain : filler.isSpace = false := by decide
  rw [filling] at starts
  by_cases padded : (core query).length = maxContentChars
  · rw [padded, Nat.sub_self, replicate_zero, nil_append] at starts
    cases tokens : core query with
    | nil => rw [tokens] at starts; cases starts
    | cons own others =>
      have visible : ¬ IsSpace own := fun space => within (Or.inr ⟨padded, own, by rw [tokens]; rfl, space⟩)
      rw [tokens, flatMap_cons] at starts
      cases own with
      | letter letter =>
        obtain rfl := (cons.inj starts).1
        exact Bool.eq_false_iff.2 visible
      | one =>
        obtain rfl := (cons.inj starts).1
        exact plain
      | all =>
        have single := isAll_of_mem_core (tokens ▸ mem_cons_self : Like.Token.all ∈ core query)
        cases single
  · rcases Nat.exists_eq_succ_of_ne_zero (by omega : maxContentChars - (core query).length ≠ 0) with ⟨n, more⟩
    rw [more, replicate_succ, cons_append] at starts
    obtain rfl := (cons.inj starts).1
    exact plain

/-- What a message says to have the filling as its content. -/
def said (query : Text) : Text := filling query ++ [filler]

theorem strip_said (short : (core query).length ≤ maxContentChars) (within : ¬ Beyond query) :
    (said query).strip = said query := by
  have plain : filler.isSpace = false := by decide
  have filled : said query ≠ [] := append_ne_nil_of_right_ne_nil _ (cons_ne_nil _ _)
  refine strip_of_ends filled ?_ (by simpa [said] using plain)
  cases opened : filling query with
  | nil =>
    have length := length_filling short
    rw [opened] at length
    cases length
  | cons point rest =>
    simp only [said, opened, cons_append, head_cons]
    exact starts_filling short within opened

theorem rowsOf_said (threadId : Text) (short : (core query).length ≤ maxContentChars) (within : ¬ Beyond query) :
    rowsOf threadId [.object (some (.ofString "human")) (.text (said query))] =
      [⟨threadId, 0, .ofString "human", filling query⟩] := by
  have filled : said query ≠ [] := append_ne_nil_of_right_ne_nil _ (cons_ne_nil _ _)
  have human : Text.ofString "human" ∉ skippedRoles := by decide
  have cut : (said query).take maxContentChars = filling query := by
    rw [said, take_append_of_le_length (length_filling short).ge, ← length_filling short, take_length]
  have row : rowOf threadId (.object (some (.ofString "human")) (.text (said query))) 0 =
      some ⟨threadId, 0, .ofString "human", filling query⟩ := by
    simp only [rowOf, Message.role, Option.getD_some, if_neg human, Message.content, contentToText,
      strip_said short within, if_neg filled, cut]
  rw [rowsOf, zipIdx_cons, zipIdx_nil, filterMap_cons, row, filterMap_nil]

theorem encodes_filling (encodes : Text.Encodes query) : Text.Encodes (filling query) := by
  refine Text.encodes_iff.2 fun point mem => ?_
  rcases mem_filling mem with rfl | ⟨own, _⟩
  · decide
  · exact Text.encodes_iff.1 encodes point own

end Synapse.Search
