import Synapse.Python.Lines
import Synapse.Reverts.GitFormat

/-!
# Reading what git prints

`_status_entries` and `_numstat_entries` read the lines that git prints. Neither undoes the quoting
of a path, and the braces of a rename stay in the path. This file says which entries are read back.
-/

namespace Synapse

open List

namespace Git

/-! ### The parsers -/

/-- `path.split(arrow, 1)[1]`, if the arrow is there. -/
def currentPath (arrow path : Text) : Text := (afterFirst arrow path).getD path

/-- One line of `_status_entries`. -/
def statusEntry (line : Text) : Option (Text × Text) :=
  match line with
  | index :: worktree :: _ :: _ :: _ =>
    if index = 0x3F ∧ worktree = 0x3F then
      some (Text.ofString "??", Text.strip (line.drop 3))
    else
      let path := currentPath statusArrow (Text.strip (line.drop 3))
      some ([if worktree ≠ 0x20 then worktree else index], path)
  | _ => none

/-- `_status_entries`: the worktree letter and the path of each line. -/
def statusEntries (printed : Text) : List (Text × Text) :=
  (Text.splitlines printed).filterMap statusEntry

abbrev Totals := List (Text × (ℤ × ℤ × Bool))

/-- `totals[path] = counts`; a dictionary keeps the place of a key that it has. -/
def put (path : Text) (counts : ℤ × ℤ × Bool) (totals : Totals) : Totals :=
  if path ∈ totals.map (·.1) then
    totals.map fun entry => if entry.1 = path then (path, counts) else entry
  else totals ++ [(path, counts)]

/-- One line of `_numstat_entries`. -/
def numstatEntry (line : Text) : Option (Text × (ℤ × ℤ × Bool)) :=
  match line.splitOn 0x09 with
  | added :: removed :: path :: _ =>
    let path := currentPath numstatArrow path
    if added = [0x2D] ∨ removed = [0x2D] then some (path, 0, 0, true)
    else
      match Text.toInt? added, Text.toInt? removed with
      | some added, some removed => some (path, added, removed, false)
      | _, _ => none
  | _ => none

/-- `_numstat_entries`: the insertions and deletions of each path, and whether it is binary. -/
def numstatEntries (printed : Text) : Totals :=
  ((Text.splitlines printed).filterMap numstatEntry).foldl
    (fun totals entry => put entry.1 entry.2 totals) []

/-! ### Which paths are read back -/

section

variable {arrow first : Text} {spaces : Bool} {source path : GitPath}

/-- A path alone is read back if it is written as it is and holds no arrow. -/
theorem currentPath_quote_iff (pointed : 0x3E ∈ arrow) :
    currentPath arrow (quote spaces path) = raw path.bytes ↔
      ¬Quoted spaces path ∧ ¬arrow <:+: raw path.bytes := by
  have nonempty : arrow ≠ [] := ne_nil_of_mem pointed
  unfold currentPath
  cases found : afterFirst arrow (quote spaces path) with
  | none =>
    have absent := (afterFirst_eq_none_iff nonempty).1 found
    rw [Option.getD_none]
    constructor
    · intro same
      rw [same] at absent
      exact ⟨quote_eq_raw_iff.1 same, absent⟩
    · exact fun plain => quote_eq_raw_iff.2 plain.1
  | some after =>
    rcases eq_append_of_afterFirst found with ⟨before, shape⟩
    rw [Option.getD_some]
    constructor
    · -- What follows an arrow has fewer heads of arrows than the path.
      intro same
      have heads := @count_quote spaces path
      rw [shape, count_append, count_append, same] at heads
      have one := count_pos_iff.2 pointed
      omega
    · rintro ⟨unquoted, absent⟩
      rw [quote_eq_raw_iff.2 unquoted] at shape
      exact absurd ⟨before, after, shape.symm⟩ absent

/-- The second path of a pair is read back if it is written as it is and the arrow before it is the
first. -/
theorem currentPath_pair_iff (nonempty : arrow ≠ []) :
    currentPath arrow (first ++ arrow ++ quote spaces path) = raw path.bytes ↔
      Separates arrow first ∧ ¬Quoted spaces path := by
  rcases exists_afterFirst nonempty first (quote spaces path) with ⟨after, found, suffix⟩
  rw [currentPath, found, Option.getD_some]
  constructor
  · intro same
    have shorter := suffix.length_le
    rw [same] at shorter
    have unquoted : ¬Quoted spaces path :=
      fun quoted => absurd (length_raw_lt_quote quoted) (not_lt.2 shorter)
    rw [same, ← quote_eq_raw_iff.2 unquoted] at found
    exact ⟨(afterFirst_append_iff nonempty).1 found, unquoted⟩
  · rintro ⟨separates, unquoted⟩
    rw [(afterFirst_append_iff nonempty).2 separates, Option.some.injEq] at found
    rw [← found]
    exact quote_eq_raw_iff.2 unquoted

/-- The braces of a rename are read away: nothing of the new path is left between the common parts,
and what follows the first arrow up to the closing brace is the common beginning without its
slash. -/
def BracesCancel (source path : GitPath) : Prop :=
  path.bytes.length < commonHead source path + commonTail source path ∧
    afterFirst numstatArrow (openBrace source path ++ numstatArrow ++ [0x7D]) =
      some (raw (source.bytes.take (commonHead source path)).dropLast)

instance (source path : GitPath) : Decidable (BracesCancel source path) :=
  inferInstanceAs (Decidable (_ ∧ _))

theorem currentPath_braced_iff (braced : Braced source path) :
    currentPath numstatArrow (printRename source path) = raw path.bytes ↔
      BracesCancel source path := by
  have nonempty : numstatArrow ≠ [] := by decide
  rw [printRename, if_pos braced, currentPath, BracesCancel]
  by_cases share : path.bytes.length < commonHead source path + commonTail source path
  · rcases eq_parts_of_lt source path share with ⟨between, parts⟩
    rcases exists_afterFirst nonempty (openBrace source path) [0x7D] with ⟨after, found, -⟩
    have own := congrArg raw parts
    rw [raw_append] at own
    rw [own, between, raw_nil, nil_append, ← append_assoc,
      afterFirst_append_of_some found, found, Option.getD_some, Option.some.injEq,
      append_left_inj]
    exact (and_iff_right share).symm
  · simp only [share, false_and, iff_false]
    have parts := congrArg raw (eq_parts_of_le source path (not_lt.1 share))
    rcases exists_afterFirst nonempty (openBrace source path)
      (raw (middle (commonHead source path) (commonTail source path) path) ++ [0x7D] ++
        raw (source.bytes.drop (source.bytes.length - commonTail source path)))
      with ⟨after, found, ⟨before, shape⟩⟩
    rw [found, Option.getD_some, ← shape, parts, raw_append, raw_append, ← append_assoc,
      append_left_inj]
    intro same
    rcases take_commonHead source path with none | ⟨dirs, slash⟩
    · have lengths := congrArg List.length same
      simp only [none, take_zero, raw_nil, nil_append, length_append,
        length_singleton] at lengths
      omega
    · -- The slash before the middle would be one of its own.
      rw [slash, raw_append, append_assoc] at same
      have last := append_inj_right' same (by simp [Nat.add_comm])
      have slashes := congrArg (List.count 0x2F) last
      rw [count_append, count_append] at slashes
      have brace : ([0x7D] : Text).count 0x2F = 0 := by decide
      have own : (raw [0x2F]).count 0x2F = 1 := by decide
      omega

end

variable {text : Text}

theorem unbroken_of_printable (printable : Printable text) :
    ∀ point ∈ text, Text.isLineBreak point = false := by
  intro point present
  rcases printable point present with ⟨least, most⟩
  simp only [Text.isLineBreak]
  grind

theorem fsencode_eq_iff {bytes : List UInt8} (ascii : Text.Ascii text) :
    Text.fsencode text = some bytes ↔ text = raw bytes := by
  rw [Text.fsencode_eq_map ascii, Option.some.injEq]
  constructor
  · rintro rfl
    have same : ∀ letter ∈ text, (point ∘ fun letter : CodePoint => .ofNat letter.val) letter =
        id letter := by
      intro letter present
      have small : letter.val < 256 := (ascii letter present).trans (by decide)
      exact Fin.ext (UInt8.toNat_ofNat_of_lt' small)
    rw [raw, map_map, map_congr_left same, map_id]
  · rintro rfl
    have same : ∀ byte ∈ bytes, ((fun letter : CodePoint => UInt8.ofNat letter.val) ∘ point) byte =
        id byte :=
      fun byte _ => UInt8.ofNat_toNat
    rw [raw, map_map, map_congr_left same, map_id]

/-! ### `_status_entries` -/

/-- The letter of an entry: that of the worktree, or that of the index if the worktree has none. -/
def StatusEntry.letter : StatusEntry → Text
  | .untracked _ => Text.ofString "??"
  | .changed index worktree _ _ => [if worktree = .unmodified then index.letter else worktree.letter]

def StatusEntry.path : StatusEntry → GitPath
  | .untracked path => path
  | .changed _ _ _ path => path

/-- The current path is written as it is, and in a rename the first arrow is the one before it. -/
def StatusEntry.Readable : StatusEntry → Prop
  | .untracked path => ¬Quoted true path
  | .changed _ _ none path => ¬Quoted true path
  | .changed _ _ (some source) path =>
    Separates statusArrow (quote true source) ∧ ¬Quoted true path

/-- The parsed entries are those of git, with the paths that the program would open. -/
def StatusExact (entries : List StatusEntry) : Prop :=
  (statusEntries (printStatus entries)).map (fun entry => (entry.1, Text.fsencode entry.2)) =
    entries.map fun entry => (entry.letter, some entry.path.bytes)

theorem quote_ne_nil (spaces : Bool) (path : GitPath) : quote spaces path ≠ [] := by
  intro empty
  have shorter := @length_raw_le_quote spaces path
  rw [empty, length_raw] at shorter
  exact path.nonempty (eq_nil_of_length_eq_zero (Nat.le_zero.1 shorter))

theorem strip_quote (path : GitPath) : Text.strip (quote true path) = quote true path :=
  Text.strip_of_ends (fun point first => quote_ends point (Or.inl first))
    fun point last => quote_ends point (Or.inr last)

theorem strip_pair (source path : GitPath) :
    Text.strip (quote true source ++ statusArrow ++ quote true path) =
      quote true source ++ statusArrow ++ quote true path := by
  refine Text.strip_of_ends ?_ ?_
  · intro point first
    rw [append_assoc, head?_append_of_ne_nil _ (quote_ne_nil true source)] at first
    exact quote_ends point (Or.inl first)
  · intro point last
    rw [getLast?_append_of_ne_nil _ (quote_ne_nil true path)] at last
    exact quote_ends point (Or.inr last)

theorem not_arrow_of_not_quoted {path : GitPath} (unquoted : ¬Quoted true path) :
    ¬statusArrow <:+: raw path.bytes := by
  intro arrow
  have space : (0x20 : CodePoint) ∈ raw path.bytes := arrow.subset (by decide)
  rcases mem_map.1 space with ⟨byte, present, same⟩
  have own : byte = 0x20 := point_injective same
  exact unquoted (Or.inr ⟨rfl, own ▸ present⟩)

theorem statusEntry_changed (index worktree : Column) {body : Text} (nonempty : body ≠ [])
    (stripped : Text.strip body = body) :
    statusEntry ([index.letter, worktree.letter, 0x20] ++ body) =
      some ([if worktree = .unmodified then index.letter else worktree.letter],
        currentPath statusArrow body) := by
  rcases exists_cons_of_ne_nil nonempty with ⟨point, rest, rfl⟩
  have tracked : ¬(index.letter = 0x3F ∧ worktree.letter = 0x3F) := by
    rintro ⟨mark, -⟩
    cases index <;> cases mark
  have column : (worktree.letter ≠ 0x20) ↔ ¬worktree = .unmodified := by
    cases worktree <;> decide
  simp only [cons_append, nil_append, statusEntry, if_neg tracked, drop_succ_cons,
    drop_zero, stripped, column]
  by_cases unmodified : worktree = .unmodified
  · simp [unmodified]
  · simp [unmodified]

theorem Printable.ascii (printable : Printable text) : Text.Ascii text :=
  fun point present => (printable point present).2.trans (by decide)

theorem ascii_currentPath {arrow : Text} (printable : Printable text) :
    Text.Ascii (currentPath arrow text) := by
  unfold currentPath
  cases found : afterFirst arrow text with
  | none => exact printable.ascii
  | some after =>
    rcases eq_append_of_afterFirst found with ⟨before, rfl⟩
    exact fun point present => printable.ascii point (mem_append_right _ present)

theorem statusEntry_print (entry : StatusEntry) :
    ∃ path, statusEntry entry.print = some (entry.letter, path) ∧ Text.Ascii path ∧
      (path = raw entry.path.bytes ↔ entry.Readable) := by
  cases entry with
  | untracked path =>
    refine ⟨quote true path, ?_, printable_quote.ascii, quote_eq_raw_iff⟩
    have shape : (StatusEntry.untracked path).print = 0x3F :: 0x3F :: 0x20 :: quote true path := rfl
    have stripped := strip_quote path
    rcases exists_cons_of_ne_nil (quote_ne_nil true path) with ⟨point, rest, quoted⟩
    rw [quoted] at stripped
    simp only [shape, quoted, statusEntry, true_and, if_true, drop_succ_cons, drop_zero,
      stripped]
    rfl
  | changed index worktree source path =>
    cases source with
    | none =>
      refine ⟨_, statusEntry_changed index worktree (quote_ne_nil true path) (strip_quote path),
        ascii_currentPath printable_quote, ?_⟩
      exact (currentPath_quote_iff (by decide)).trans
        (and_iff_left_of_imp not_arrow_of_not_quoted)
    | some source =>
      have nonempty : quote true source ++ statusArrow ++ quote true path ≠ [] :=
        append_ne_nil_of_right_ne_nil _ (quote_ne_nil true path)
      have arrow : Printable statusArrow := by decide
      exact ⟨_, statusEntry_changed index worktree nonempty (strip_pair source path),
        ascii_currentPath ((printable_quote.append arrow).append printable_quote),
        currentPath_pair_iff (by decide)⟩

theorem printable_statusEntry (entry : StatusEntry) : Printable entry.print := by
  have column : ∀ column : Column, 0x20 ≤ column.letter.val ∧ column.letter.val < 0x7F := by
    intro column
    cases column <;> decide
  have columns : ∀ index worktree : Column, Printable [index.letter, worktree.letter, 0x20] := by
    intro index worktree point present
    rcases mem_cons.1 present with rfl | present
    · exact column index
    · rcases mem_cons.1 present with rfl | present
      · exact column worktree
      · rw [mem_singleton.1 present]
        decide
  cases entry with
  | untracked path =>
    have marks : Printable (Text.ofString "?? ") := by decide
    exact marks.append printable_quote
  | changed index worktree source path =>
    cases source with
    | none => exact (columns index worktree).append printable_quote
    | some source =>
      have arrow : Printable statusArrow := by decide
      exact (columns index worktree).append
        ((printable_quote.append arrow).append printable_quote)

theorem statusEntries_print (entries : List StatusEntry) :
    statusEntries (printStatus entries) = entries.filterMap fun entry => statusEntry entry.print := by
  have lines : printStatus entries = (entries.map (·.print)).flatMap (· ++ [0x0A]) := by
    rw [flatMap_map, printStatus]
  rw [statusEntries, lines, Text.splitlines_flatMap, filterMap_map]
  · rfl
  · intro line present
    rcases mem_map.1 present with ⟨entry, -, rfl⟩
    exact unbroken_of_printable (printable_statusEntry entry)

theorem statusExact_iff (entries : List StatusEntry) :
    StatusExact entries ↔ ∀ entry ∈ entries, entry.Readable := by
  choose read parsed ascii readable using statusEntry_print
  have all : entries.filterMap (fun entry => statusEntry entry.print) =
      entries.map fun entry => (entry.letter, read entry) := by
    rw [← filterMap_eq_map]
    exact filterMap_congr fun entry _ => parsed entry
  rw [StatusExact, statusEntries_print, all, map_map, map_inj_left]
  refine forall₂_congr fun entry _ => ?_
  rw [Function.comp_apply, Prod.mk.injEq, fsencode_eq_iff (ascii entry), readable]
  exact and_iff_right rfl

/-! ### `_numstat_entries` -/

/-- The totals of an entry: insertions, deletions, and whether it is binary. -/
def Counts.totals : Counts → ℤ × ℤ × Bool
  | .lines added removed => (added.toNat, removed.toNat, false)
  | .binary => (0, 0, true)

/-- The current path is written as it is and the only arrow is the one before it, if there is one;
or the braces of a rename are read away. -/
def NumstatEntry.Readable (entry : NumstatEntry) : Prop :=
  match entry.source with
  | none => ¬Quoted false entry.path ∧ ¬numstatArrow <:+: raw entry.path.bytes
  | some source =>
    if Braced source entry.path then BracesCancel source entry.path
    else Separates numstatArrow (quote false source) ∧ ¬Quoted false entry.path

/-- What git lists in one run: no path is listed twice. -/
structure Numstat where
  entries : List NumstatEntry
  nodup : (entries.map (·.path)).Nodup

/-- The parsed totals are those of git, with the paths that the program would look up. -/
def NumstatExact (numstat : Numstat) : Prop :=
  (numstatEntries (printNumstat numstat.entries)).map
      (fun entry => (Text.fsencode entry.1, entry.2)) =
    numstat.entries.map fun entry => (some entry.path.bytes, entry.counts.totals)

theorem length_put_le (path : Text) (counts : ℤ × ℤ × Bool) (totals : Totals) :
    (put path counts totals).length ≤ totals.length + 1 := by
  unfold put
  split <;> simp

theorem length_foldl_put_le (items totals : Totals) :
    (items.foldl (fun totals item => put item.1 item.2 totals) totals).length ≤
      totals.length + items.length := by
  induction items generalizing totals with
  | nil => exact le_rfl
  | cons item items ih =>
    have one := length_put_le item.1 item.2 totals
    have rest := ih (put item.1 item.2 totals)
    rw [foldl_cons, length_cons]
    omega

/-- A dictionary that has as many keys as were put lists them in order. -/
theorem foldl_put_eq {items totals : Totals}
    (full : (items.foldl (fun totals item => put item.1 item.2 totals) totals).length =
      totals.length + items.length) :
    items.foldl (fun totals item => put item.1 item.2 totals) totals = totals ++ items := by
  induction items generalizing totals with
  | nil => exact (append_nil _).symm
  | cons item items ih =>
    rw [foldl_cons, length_cons] at full
    rw [foldl_cons]
    by_cases known : item.1 ∈ totals.map (·.1)
    · have same : (put item.1 item.2 totals).length = totals.length := by
        rw [put, if_pos known, length_map]
      have most := length_foldl_put_le items (put item.1 item.2 totals)
      omega
    · have new : put item.1 item.2 totals = totals ++ [item] := if_neg known
      rw [new] at full
      have rest := @ih (totals ++ [item]) (by
        rw [full, length_append, length_singleton]
        omega)
      rw [new, rest, append_assoc, singleton_append]

theorem foldl_put_of_nodup {items totals : Totals} (nodup : ((totals ++ items).map (·.1)).Nodup) :
    items.foldl (fun totals item => put item.1 item.2 totals) totals = totals ++ items := by
  induction items generalizing totals with
  | nil => exact (append_nil _).symm
  | cons item items ih =>
    have fresh : item.1 ∉ totals.map (·.1) := by
      rw [map_append, map_cons] at nodup
      intro known
      exact (disjoint_of_nodup_append nodup) known mem_cons_self
    have new : put item.1 item.2 totals = totals ++ [item] := if_neg fresh
    rw [foldl_cons, new, ih (by rwa [append_assoc, singleton_append]),
      append_assoc, singleton_append]

theorem splitOn_tab {first : Text} (whole : (0x09 : CodePoint) ∉ first) (rest : Text) :
    (first ++ 0x09 :: rest).splitOn 0x09 = first :: rest.splitOn 0x09 := by
  rw [splitOn_eq_splitOnP, splitOn_eq_splitOnP]
  refine splitOnP_append_cons_of_forall_mem ?_ _ (by decide) _
  intro point present
  rw [beq_eq_false_iff_ne]
  rintro rfl
  exact whole present

theorem splitOn_last {last : Text} (whole : (0x09 : CodePoint) ∉ last) :
    last.splitOn 0x09 = [last] := by
  rw [splitOn_eq_splitOnP]
  refine splitOnP_eq_singleton fun point present => ?_
  rw [beq_eq_false_iff_ne]
  rintro rfl
  exact whole present

theorem tab_not_mem_of_printable (printable : Printable text) :
    (0x09 : CodePoint) ∉ text :=
  fun tab => absurd (printable 0x09 tab).1 (by decide)

theorem printable_repr (value : ℕ) : Printable (Text.ofString value.repr) := by
  intro point present
  rw [Text.ofString, Nat.toList_repr, mem_map] at present
  rcases present with ⟨digit, present, rfl⟩
  rcases Text.val_of_isDigit (Nat.isDigit_of_mem_toDigits (by decide) (by decide) present) with
    ⟨number, least, most⟩
  rw [number]
  omega

theorem repr_ne_dash (value : ℕ) : Text.ofString value.repr ≠ [0x2D] := by
  intro same
  have present : (0x2D : CodePoint) ∈ Text.ofString value.repr := by
    rw [same]
    exact mem_singleton_self _
  rw [Text.ofString, Nat.toList_repr, mem_map] at present
  rcases present with ⟨digit, present, dash⟩
  exact Text.ne_of_isDigit (Nat.isDigit_of_mem_toDigits (by decide) (by decide) present)
    (Or.inl (by decide)) dash

theorem toInt?_uint64 (value : UInt64) :
    Text.toInt? (Text.ofString value.toNat.repr) = some (value.toNat : ℤ) := by
  have small : value.toNat < 10 ^ 20 := (UInt64.toNat_lt value).trans (by norm_num)
  have limit : 10 ^ 20 ≤ 10 ^ maxStrDigits := Nat.pow_le_pow_right (by decide) (by decide)
  exact Text.toInt?_repr (small.trans_le limit)

theorem numstatEntry_counts (counts : Counts) {name : Text} (whole : (0x09 : CodePoint) ∉ name) :
    numstatEntry (printCounts counts ++ [0x09] ++ name) =
      some (currentPath numstatArrow name, counts.totals) := by
  cases counts with
  | binary =>
    have columns : (printCounts .binary ++ [0x09] ++ name).splitOn 0x09 = [[0x2D], [0x2D], name] := by
      change ([0x2D] ++ 0x09 :: ([0x2D] ++ 0x09 :: name)).splitOn 0x09 = _
      rw [splitOn_tab (by decide), splitOn_tab (by decide), splitOn_last whole]
    rw [numstatEntry, columns]
    exact if_pos (Or.inl rfl)
  | lines added removed =>
    have columns : (printCounts (.lines added removed) ++ [0x09] ++ name).splitOn 0x09 =
        [Text.ofString added.toNat.repr, Text.ofString removed.toNat.repr, name] := by
      rw [printCounts, append_assoc, append_assoc, append_assoc,
        singleton_append, singleton_append,
        splitOn_tab (tab_not_mem_of_printable (printable_repr _)),
        splitOn_tab (tab_not_mem_of_printable (printable_repr _)), splitOn_last whole]
    have counted : ¬(Text.ofString added.toNat.repr = [0x2D] ∨
        Text.ofString removed.toNat.repr = [0x2D]) :=
      fun dash => dash.elim (repr_ne_dash _) (repr_ne_dash _)
    rw [numstatEntry, columns]
    dsimp only
    rw [if_neg counted, toInt?_uint64, toInt?_uint64]
    rfl

/-- The name that is printed of an entry. -/
def NumstatEntry.name (entry : NumstatEntry) : Text :=
  match entry.source with
  | none => quote false entry.path
  | some source => printRename source entry.path

theorem printable_printRename (source path : GitPath) : Printable (printRename source path) := by
  have arrow : Printable numstatArrow := by decide
  unfold printRename
  split
  case isTrue braced =>
    have part : ∀ {path : GitPath} {bytes : List UInt8}, ¬Quoted false path → bytes ⊆ path.bytes →
        Printable (raw bytes) := by
      intro path bytes unquoted inside point present
      rcases mem_map.1 present with ⟨byte, inPart, rfl⟩
      exact printable_raw unquoted _ (mem_map_of_mem (inside inPart))
    have between : ∀ (head tail : ℕ) (path : GitPath), middle head tail path ⊆ path.bytes :=
      fun head tail path byte present => mem_of_mem_drop (mem_of_mem_take present)
    have opening : Printable [0x7B] := by decide
    have closing : Printable [0x7D] := by decide
    have front : Printable (openBrace source path) :=
      ((part braced.1 (take_subset _ _)).append opening).append
        (part braced.1 (between _ _ source))
    have back := (part braced.2.1 (between (commonHead source path) (commonTail source path) path))
    exact (front.append arrow).append
      ((back.append closing).append (part braced.1 (drop_subset _ _)))
  case isFalse => exact (printable_quote.append arrow).append printable_quote

theorem printable_name (entry : NumstatEntry) : Printable entry.name := by
  unfold NumstatEntry.name
  cases entry.source with
  | none => exact printable_quote
  | some source => exact printable_printRename source entry.path

theorem currentPath_name_iff (entry : NumstatEntry) :
    currentPath numstatArrow entry.name = raw entry.path.bytes ↔ entry.Readable := by
  unfold NumstatEntry.name NumstatEntry.Readable
  cases entry.source with
  | none => exact currentPath_quote_iff (by decide)
  | some source =>
    dsimp only
    split
    case isTrue braced => exact currentPath_braced_iff braced
    case isFalse plain =>
      rw [printRename, if_neg plain]
      exact currentPath_pair_iff (by decide)

theorem unbroken_numstatEntry (entry : NumstatEntry) :
    ∀ point ∈ entry.print, Text.isLineBreak point = false := by
  have tab : ∀ point ∈ ([0x09] : Text), Text.isLineBreak point = false := by
    intro point present
    rw [mem_singleton.1 present]
    decide
  have counts : ∀ point ∈ printCounts entry.counts, Text.isLineBreak point = false := by
    cases entry.counts with
    | binary =>
      have dashes : Text.ofString "-\t-" = [0x2D, 0x09, 0x2D] := rfl
      intro point present
      rw [printCounts, dashes] at present
      simp only [mem_cons, not_mem_nil, or_false] at present
      rcases present with rfl | rfl | rfl <;> decide
    | lines added removed =>
      intro point present
      rcases mem_append.1 present with front | back
      · rcases mem_append.1 front with number | between
        · exact unbroken_of_printable (printable_repr _) point number
        · exact tab point between
      · exact unbroken_of_printable (printable_repr _) point back
  intro point present
  rcases mem_append.1 present with front | name
  · exact (mem_append.1 front).elim (counts point) (tab point)
  · exact unbroken_of_printable (printable_name entry) point name

theorem numstatEntries_print (entries : List NumstatEntry) :
    numstatEntries (printNumstat entries) =
      (entries.map fun entry => (currentPath numstatArrow entry.name, entry.counts.totals)).foldl
        (fun totals item => put item.1 item.2 totals) [] := by
  have lines : printNumstat entries = (entries.map (·.print)).flatMap (· ++ [0x0A]) := by
    rw [flatMap_map, printNumstat]
  have parsed : ∀ entry ∈ entries, numstatEntry entry.print =
      some (currentPath numstatArrow entry.name, entry.counts.totals) :=
    fun entry _ => numstatEntry_counts _ (tab_not_mem_of_printable (printable_name entry))
  have all : (entries.map (·.print)).filterMap numstatEntry =
      entries.map fun entry => (currentPath numstatArrow entry.name, entry.counts.totals) := by
    rw [filterMap_map, ← filterMap_eq_map]
    exact filterMap_congr parsed
  rw [numstatEntries, lines, Text.splitlines_flatMap, all]
  intro line present
  rcases mem_map.1 present with ⟨entry, -, rfl⟩
  exact unbroken_numstatEntry entry

theorem numstatExact_iff (numstat : Numstat) :
    NumstatExact numstat ↔ ∀ entry ∈ numstat.entries, entry.Readable := by
  rw [NumstatExact, numstatEntries_print]
  constructor
  · intro exact entry present
    have lengths := congrArg List.length exact
    rw [length_map, length_map] at lengths
    rw [foldl_put_eq (by rw [lengths, length_map, length_nil, Nat.zero_add]),
      nil_append, map_map, map_inj_left] at exact
    have own := congrArg Prod.fst (exact entry present)
    rw [Function.comp_apply] at own
    exact (currentPath_name_iff entry).1
      ((fsencode_eq_iff (ascii_currentPath (printable_name entry))).1 own)
  · intro readable
    have paths : ∀ entry ∈ numstat.entries,
        currentPath numstatArrow entry.name = raw entry.path.bytes :=
      fun entry present => (currentPath_name_iff entry).2 (readable entry present)
    have keys : (numstat.entries.map fun entry => currentPath numstatArrow entry.name).Nodup := by
      have distinct : (numstat.entries.map fun entry => raw entry.path.bytes).Nodup := by
        have inject : Function.Injective fun path : GitPath => raw path.bytes := by
          intro first second same
          cases first
          cases second
          cases raw_injective same
          rfl
        have all := numstat.nodup.map inject
        rwa [map_map] at all
      rwa [map_congr_left paths]
    rw [foldl_put_of_nodup (by rw [nil_append, map_map]; exact keys), nil_append,
      map_map, map_inj_left]
    intro entry present
    have own := (fsencode_eq_iff (ascii_currentPath (printable_name entry))).2 (paths entry present)
    rw [Function.comp_apply, own]

/-! ### The two listings of a snapshot -/

instance (entries : List StatusEntry) : Decidable (StatusExact entries) :=
  inferInstanceAs (Decidable (_ = _))

instance (numstat : Numstat) : Decidable (NumstatExact numstat) :=
  inferInstanceAs (Decidable (_ = _))

/-- What git prints is read back exactly when every entry is readable. -/
theorem listings_exact_iff (status : List StatusEntry) (numstat : Numstat) :
    StatusExact status ∧ NumstatExact numstat ↔
      (∀ entry ∈ status, entry.Readable) ∧ ∀ entry ∈ numstat.entries, entry.Readable :=
  and_congr (statusExact_iff status) (numstatExact_iff numstat)

/-- `a b`. -/
def spacedPath : GitPath := ⟨[0x61, 0x20, 0x62], by decide, by decide⟩

/-- `d/a`. -/
def oldPath : GitPath := ⟨[0x64, 0x2F, 0x61], by decide, by decide⟩

/-- `d/b`. -/
def newPath : GitPath := ⟨[0x64, 0x2F, 0x62], by decide, by decide⟩

/-- An untracked path with a space keeps its quotes, and a renamed one its brace. -/
theorem quotes_and_braces_stay :
    ¬StatusExact [.untracked spacedPath] ∧
      ¬NumstatExact
        ⟨[{ counts := .lines 1 1, source := some oldPath, path := newPath }], by decide⟩ := by
  decide +kernel

/-- Braces that are read away: `}/x/b` is renamed to `}/b`. -/
example : BracesCancel ⟨[0x7D, 0x2F, 0x78, 0x2F, 0x62], by decide, by decide⟩
    ⟨[0x7D, 0x2F, 0x62], by decide, by decide⟩ := by
  decide +kernel

end Git

end Synapse
