import Mathlib

/-!
# Selections of a list

Some items of a list are shown, in order, and the others are counted. Slices by an index that may be counted
from the end, items picked by increasing indices, and items grouped by a key.
-/

namespace Synapse

open List

universe u v

variable {α : Type u} {κ : Type v}

/-- The items that are shown are among those of the list, in order, and the others are counted. -/
structure Accounts (items shown : List α) (omitted : ℤ) : Prop where
  count : (shown.length : ℤ) + omitted = items.length
  order : shown.Sublist items

/-! ### Slices -/

/-- Where an index of a slice is, which is counted from the end when it is negative. -/
def sliceIndex (length : ℕ) (index : ℤ) : ℕ := if index < 0 then (length + index).toNat else index.toNat

/-- `items[:stop]` -/
def upTo (stop : ℤ) (items : List α) : List α := items.take (sliceIndex items.length stop)

/-- `items[start:]` -/
def onward (start : ℤ) (items : List α) : List α := items.drop (sliceIndex items.length start)

theorem upTo_sublist (stop : ℤ) (items : List α) : (upTo stop items).Sublist items := take_sublist _ _

variable {items : List α}

theorem upTo_of_le {stop : ℤ} (room : items.length ≤ stop) : upTo stop items = items := by
  refine take_of_length_le ?_
  rw [sliceIndex]
  split <;> omega

theorem length_upTo_lt {stop : ℤ} (filled : items ≠ []) (short : stop < items.length) :
    (upTo stop items).length < items.length := by
  have some := length_pos_of_ne_nil filled
  rw [upTo, length_take, sliceIndex]
  split <;> omega

/-! ### Picked items -/

def pick (items : List α) (indices : List ℕ) : List α := indices.filterMap fun index => items[index]?

theorem pick_range (items : List α) : pick items (List.range items.length) = items := by
  induction items with
  | nil => rfl
  | cons item items ih =>
    rw [pick, length_cons, range_succ_eq_map, filterMap_cons, filterMap_map]
    exact congrArg (item :: ·) ih

variable {indices : List ℕ}

theorem pick_sublist (inside : indices.Sublist (List.range items.length)) :
    (pick items indices).Sublist items := by
  have picked := inside.filterMap fun index => items[index]?
  rwa [← pick, ← pick, pick_range] at picked

theorem length_pick (inside : ∀ index ∈ indices, index < items.length) :
    (pick items indices).length = indices.length := by
  induction indices with
  | nil => rfl
  | cons index indices ih =>
    rw [pick, filterMap_cons, getElem?_eq_getElem (inside index mem_cons_self)]
    exact congrArg Nat.succ (ih fun other mem => inside other (mem_cons_of_mem _ mem))

/-- Items picked by increasing indices are accounted for by the number of the others. -/
theorem accounts_pick (inside : indices.Sublist (List.range items.length)) :
    Accounts items (pick items indices) (items.length - indices.length) where
  count := by
    rw [length_pick fun index mem => mem_range.1 (inside.subset mem)]
    omega
  order := pick_sublist inside

theorem sort_sublist_range {indices : Finset ℕ} {length : ℕ} (inside : ∀ index ∈ indices, index < length) :
    indices.sort.Sublist (List.range length) := by
  have part : indices.sort.Subperm (List.range length) :=
    subperm_of_subset (Finset.sort_nodup _ _) fun index mem =>
      mem_range.2 (inside index ((Finset.mem_sort _).1 mem))
  exact sublist_of_subperm_of_pairwise part (Finset.pairwise_sort _ _) (pairwise_le_range)

/-- Items that are in order keep it in a stable sort. -/
theorem filter_mergeSort {le : α → α → Bool} (trans : ∀ a b c, le a b = true → le b c = true → le a c = true)
    (total : ∀ a b, (le a b || le b a) = true) {chosen : α → Bool}
    (ordered : (items.filter chosen).Pairwise fun a b => le a b = true) :
    (items.mergeSort le).filter chosen = items.filter chosen := by
  have part := (sublist_mergeSort trans total ordered filter_sublist).filter chosen
  rw [filter_filter] at part
  simp only [Bool.and_self] at part
  exact (part.eq_of_length ((mergeSort_perm items le).filter chosen).length_eq.symm).symm

/-! ### The order of tuples -/

section

variable {β γ : Type*} [LinearOrder β] [LinearOrder γ]

def tupleLe (first second : β × γ) : Bool :=
  decide (first.1 < second.1 ∨ (first.1 = second.1 ∧ first.2 ≤ second.2))

theorem tupleLe_iff {first second : β × γ} : tupleLe first second = true ↔
    first.1 < second.1 ∨ (first.1 = second.1 ∧ first.2 ≤ second.2) := decide_eq_true_iff

theorem tupleLe_trans (a b c : β × γ) (first : tupleLe a b = true) (second : tupleLe b c = true) :
    tupleLe a c = true := by
  rw [tupleLe_iff] at *
  rcases first with before | ⟨same, earlier⟩
  · rcases second with after | ⟨equal, _⟩
    · exact Or.inl (before.trans after)
    · exact Or.inl (equal ▸ before)
  · rcases second with after | ⟨equal, later⟩
    · exact Or.inl (same ▸ after)
    · exact Or.inr ⟨same.trans equal, earlier.trans later⟩

theorem tupleLe_total (a b : β × γ) : (tupleLe a b || tupleLe b a) = true := by
  rw [Bool.or_eq_true, tupleLe_iff, tupleLe_iff]
  rcases lt_trichotomy a.1 b.1 with before | same | after
  · exact Or.inl (Or.inl before)
  · rcases le_total a.2 b.2 with earlier | later
    · exact Or.inl (Or.inr ⟨same, earlier⟩)
    · exact Or.inr (Or.inr ⟨same.symm, later⟩)
  · exact Or.inr (Or.inl after)

theorem tupleLe_antisymm {a b : β × γ} (first : tupleLe a b = true) (second : tupleLe b a = true) : a = b := by
  rw [tupleLe_iff] at first second
  rcases first with before | ⟨same, earlier⟩
  · rcases second with after | ⟨equal, _⟩
    · exact absurd after before.asymm
    · exact absurd equal before.ne'
  · rcases second with after | ⟨_, later⟩
    · exact absurd same after.ne'
    · exact Prod.ext same (le_antisymm earlier later)

instance tupleLe.antisymm : Std.Antisymm fun a b : β × γ => tupleLe a b = true :=
  ⟨fun _ _ => tupleLe_antisymm⟩

/-- The different items in order, which are those of every list with the same items. -/
theorem mergeSort_tupleLe_congr [DecidableEq β] [DecidableEq γ] {items others : List (β × γ)} (once : items.Nodup)
    (distinct : others.Nodup) (same : ∀ item, item ∈ items ↔ item ∈ others) :
    items.mergeSort tupleLe = others.mergeSort tupleLe := by
  have perm : (items.mergeSort tupleLe).Perm (others.mergeSort tupleLe) :=
    (mergeSort_perm _ _).trans (((perm_ext_iff_of_nodup once distinct).2 same).trans
      (mergeSort_perm _ _).symm)
  exact perm.eq_of_pairwise' (pairwise_mergeSort tupleLe_trans tupleLe_total _)
    (pairwise_mergeSort tupleLe_trans tupleLe_total _)

/-- Some of the items in order are among all of them in order. -/
theorem mergeSort_tupleLe_sublist [DecidableEq β] [DecidableEq γ] {items others : List (β × γ)}
    (once : items.Nodup) (among : ∀ item ∈ items, item ∈ others) :
    (items.mergeSort tupleLe).Sublist (others.mergeSort tupleLe) := by
  have part : (items.mergeSort tupleLe).Subperm (others.mergeSort tupleLe) :=
    subperm_of_subset ((mergeSort_perm _ _).nodup_iff.2 once) fun item mem =>
      mem_mergeSort.2 (among item (mem_mergeSort.1 mem))
  exact sublist_of_subperm_of_pairwise part (pairwise_mergeSort tupleLe_trans tupleLe_total _)
    (pairwise_mergeSort tupleLe_trans tupleLe_total _)

end

/-! ### Groups -/

variable [DecidableEq κ]

def addTo (key : κ) (item : α) : List (κ × List α) → List (κ × List α)
  | [] => [(key, [item])]
  | (other, items) :: groups =>
    if other = key then (other, items ++ [item]) :: groups else (other, items) :: addTo key item groups

/-- The items of each key, in the order of the first items. -/
def grouped (items : List (κ × α)) : List (κ × List α) :=
  items.foldl (fun groups item => addTo item.1 item.2 groups) []

/-- The items of a key. -/
def own (key : κ) (items : List (κ × α)) : List α := (items.filter fun item => item.1 = key).map Prod.snd

theorem grouped_concat (items : List (κ × α)) (item : κ × α) :
    grouped (items ++ [item]) = addTo item.1 item.2 (grouped items) := by
  rw [grouped, foldl_append]
  rfl

theorem own_concat (key : κ) (items : List (κ × α)) (item : κ × α) :
    own key (items ++ [item]) = if item.1 = key then own key items ++ [item.2] else own key items := by
  rw [own, filter_append, map_append, ← own]
  split
  · next same => simp [same]
  · next other => simp [other]

theorem keys_addTo (key : κ) (item : α) (groups : List (κ × List α)) : (addTo key item groups).map Prod.fst =
    if key ∈ groups.map Prod.fst then groups.map Prod.fst else groups.map Prod.fst ++ [key] := by
  induction groups with
  | nil => rfl
  | cons group groups ih =>
    rw [addTo]
    split
    · next same => simp [same]
    · next other =>
        have different : key ≠ group.1 := Ne.symm other
        simp only [map_cons, ih, mem_cons, different, false_or, cons_append]
        split <;> rfl

theorem total_addTo (key : κ) (item : α) (groups : List (κ × List α)) :
    ((addTo key item groups).map fun group => group.2.length).sum =
      (groups.map fun group => group.2.length).sum + 1 := by
  induction groups with
  | nil => rfl
  | cons group groups ih =>
    rw [addTo]
    split
    · simp only [map_cons, sum_cons, length_append, length_singleton]
      omega
    · simp only [map_cons, sum_cons, ih]
      omega

variable {groups : List (κ × List α)}

/-- A group of others is kept, and that of the key has the item at its end. -/
theorem mem_addTo {key : κ} {item : α} (distinct : (groups.map Prod.fst).Nodup)
    {group : κ × List α} (mem : group ∈ addTo key item groups) : (group.1 ≠ key ∧ group ∈ groups) ∨
      (group.1 = key ∧ key ∉ groups.map Prod.fst ∧ group.2 = [item]) ∨
      (group.1 = key ∧ ∃ items, (key, items) ∈ groups ∧ group.2 = items ++ [item]) := by
  induction groups with
  | nil =>
    obtain rfl := mem_singleton.1 mem
    exact Or.inr (Or.inl ⟨rfl, not_mem_nil, rfl⟩)
  | cons first groups ih =>
    have unlisted := (nodup_cons.1 distinct).1
    rw [addTo] at mem
    split at mem
    · next same =>
        rcases mem_cons.1 mem with rfl | old
        · exact Or.inr (Or.inr ⟨same, first.2, by rw [← same]; exact mem_cons_self, rfl⟩)
        · left
          refine ⟨fun equal => unlisted ?_, mem_cons_of_mem first old⟩
          rw [same, ← equal]
          exact mem_map_of_mem old
    · next other =>
        rcases mem_cons.1 mem with rfl | later
        · exact Or.inl ⟨other, mem_cons_self⟩
        · rcases ih (nodup_cons.1 distinct).2 later with ⟨different, old⟩ | ⟨same, fresh, one⟩ |
            ⟨same, items, old, more⟩
          · exact Or.inl ⟨different, mem_cons_of_mem first old⟩
          · refine Or.inr (Or.inl ⟨same, ?_, one⟩)
            rw [map_cons, mem_cons, not_or]
            exact ⟨Ne.symm other, fresh⟩
          · exact Or.inr (Or.inr ⟨same, items, mem_cons_of_mem first old, more⟩)

theorem own_eq_nil {key : κ} {items : List (κ × α)} (none : key ∉ items.map Prod.fst) : own key items = [] := by
  rw [own, map_eq_nil_iff, filter_eq_nil_iff]
  exact fun item mem same => none (of_decide_eq_true same ▸ mem_map_of_mem mem)

theorem own_append (key : κ) (items others : List (κ × α)) :
    own key (items ++ others) = own key items ++ own key others := by
  rw [own, filter_append, map_append]
  rfl

theorem own_pairs (key : κ) (items : List α) : own key (items.map fun item => (key, item)) = items := by
  have whole : ∀ item ∈ items.map fun item => (key, item), decide (item.1 = key) = true := by
    intro item mem
    rcases mem_map.1 mem with ⟨value, _, rfl⟩
    exact decide_eq_true rfl
  rw [own, filter_eq_self.2 whole, map_map]
  exact map_id items

theorem map_own (key : κ) (items : List (κ × α)) :
    (own key items).map (fun item => (key, item)) = items.filter fun item => item.1 = key := by
  rw [own, map_map]
  refine map_congr_left (g := id) ?_ |>.trans (map_id _)
  intro item mem
  exact Prod.ext (of_decide_eq_true (mem_filter.1 mem).2).symm rfl

/-- Each key is there once with its items, in order. -/
structure Groups (items : List (κ × α)) (groups : List (κ × List α)) : Prop where
  keys : (groups.map Prod.fst).Nodup
  covers : ∀ key, key ∈ groups.map Prod.fst ↔ key ∈ items.map Prod.fst
  own : ∀ group ∈ groups, group.2 = own group.1 items
  total : (groups.map fun group => group.2.length).sum = items.length

theorem groups_grouped (items : List (κ × α)) : Groups items (grouped items) := by
  induction items using List.reverseRecOn with
  | nil => exact ⟨nodup_nil, fun _ => Iff.rfl, fun _ mem => absurd mem not_mem_nil, rfl⟩
  | append_singleton items item ih =>
    rw [grouped_concat]
    refine ⟨?_, fun key => ?_, fun group mem => ?_, ?_⟩
    · rw [keys_addTo]
      split
      · exact ih.keys
      · next fresh =>
          exact Nodup.append ih.keys (nodup_singleton _) fun key old new =>
            fresh (mem_singleton.1 new ▸ old)
    · rw [keys_addTo, map_append, mem_append, ← ih.covers]
      split
      · next old =>
          refine ⟨Or.inl, fun either => either.elim id fun last => ?_⟩
          rw [mem_singleton.1 last]
          exact old
      · exact mem_append
    · rw [own_concat]
      rcases mem_addTo ih.keys mem with ⟨different, old⟩ | ⟨same, fresh, one⟩ | ⟨same, others, old, more⟩
      · rw [if_neg (Ne.symm different), ih.own group old]
      · have nothing : own item.1 items = [] := own_eq_nil fun listed => fresh ((ih.covers _).2 listed)
        rw [same, if_pos rfl, one, nothing, nil_append]
      · have before : others = own item.1 items := ih.own _ old
        rw [same, if_pos rfl, more, before]
    · rw [total_addTo, ih.total, length_append, length_singleton]

theorem Groups.filled {items : List (κ × α)} (all : Groups items groups)
    (group : κ × List α) (mem : group ∈ groups) : group.2 ≠ [] := by
  rcases mem_map.1 ((all.covers group.1).1 (mem_map_of_mem mem)) with ⟨item, there, same⟩
  rw [all.own group mem]
  exact ne_nil_of_mem (mem_map_of_mem (mem_filter.2 ⟨there, decide_eq_true same⟩))

theorem Groups.length {items : List (κ × α)} (all : Groups items groups) :
    groups.length = (items.map Prod.fst).dedup.length := by
  rw [← length_map Prod.fst]
  refine ((perm_ext_iff_of_nodup all.keys (nodup_dedup _)).2 fun key => ?_).length_eq
  rw [all.covers, mem_dedup]

end Synapse
