import Mathlib

/-!
# Paging backwards

A sequence is cut at numbered positions, and read from its end in pages. A page tells where it
starts, which is where the page before it stops, and whether there is more before it.
-/

namespace Synapse

structure Page (α : Type*) where
  items : List α
  start : ℕ
  hasMore : Bool

/-- The pages from a page back to one with nothing before it, newest first. -/
inductive Paged {α : Type*} (earlier : ℕ → Page α) : Page α → List (Page α) → Prop
  | last {page : Page α} : page.hasMore = false → Paged earlier page [page]
  | more {page : Page α} {pages : List (Page α)} : page.hasMore = true →
      Paged earlier (earlier page.start) pages → Paged earlier page (page :: pages)

variable {α : Type*} {earlier : ℕ → Page α} {slice : ℕ → ℕ → List α} {position : ℕ → Prop}
  {first stop : ℕ} {page : Page α} {pages : List (Page α)}

/-- The page stops where it should and starts at a position before that, and there is more before it
unless it starts at the first position. -/
structure Page.Fills (slice : ℕ → ℕ → List α) (position : ℕ → Prop) (first stop : ℕ)
    (page : Page α) : Prop where
  valid : position page.start
  least : first ≤ page.start
  before : page.start < stop
  items : page.items = slice page.start stop
  hasMore : page.hasMore = true ↔ first < page.start

theorem exists_paged
    (fills : ∀ stop, position stop → first < stop → (earlier stop).Fills slice position first stop)
    (page_fills : page.Fills slice position first stop) : ∃ pages, Paged earlier page pages := by
  induction start : page.start using Nat.strongRecOn generalizing page stop with
  | ind bound ih =>
    cases more : page.hasMore with
    | false => exact ⟨[page], Paged.last more⟩
    | true =>
      have next := fills page.start page_fills.valid (page_fills.hasMore.1 more)
      rcases ih _ (start ▸ next.before) next rfl with ⟨pages, paged⟩
      exact ⟨page :: pages, Paged.more more paged⟩

/-- The pages, oldest first, make up what is before the end of the newest one. -/
theorem Paged.flatMap_items
    (append : ∀ middle stop, position middle → first ≤ middle → middle < stop →
      slice first middle ++ slice middle stop = slice first stop)
    (fills : ∀ stop, position stop → first < stop → (earlier stop).Fills slice position first stop)
    (paged : Paged earlier page pages) (page_fills : page.Fills slice position first stop) :
    pages.reverse.flatMap Page.items = slice first stop := by
  induction paged generalizing stop with
  | @last page none =>
    have start : page.start = first := by
      have least := page_fills.least
      have most := mt page_fills.hasMore.2 (by simp [none])
      omega
    rw [List.reverse_singleton, List.flatMap_singleton, page_fills.items, start]
  | @more page pages more paged ih =>
    have next := fills page.start page_fills.valid (page_fills.hasMore.1 more)
    rw [List.reverse_cons, List.flatMap_append, ih next, List.flatMap_singleton,
      page_fills.items]
    exact append page.start stop page_fills.valid page_fills.least page_fills.before

end Synapse
