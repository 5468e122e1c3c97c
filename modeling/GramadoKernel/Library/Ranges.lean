import Mathlib.Data.List.Basic

namespace Ranges

-- The numbers from `first` up to `past`, without `past`.
structure Range where
  first : Nat
  past : Nat
  deriving DecidableEq

def Range.Apart (a b : Range) : Prop := a.past ≤ b.first ∨ b.past ≤ a.first

-- Every range lies between the two bounds and no two of them overlap.
structure Laid (low : Nat) (ranges : List Range) (high : Nat) : Prop where
  inside : ∀ r ∈ ranges, low ≤ r.first ∧ r.first ≤ r.past ∧ r.past ≤ high
  apart : ranges.Pairwise Range.Apart

theorem laid_nil (low high : Nat) : Laid low [] high := ⟨by simp,.nil⟩

theorem Laid.snoc (laid : Laid low ranges middle) (grows : middle ≤ high)
    (bounds : low ≤ r.first ∧ r.first ≤ r.past ∧ r.past ≤ high) (fresh : ∀ old ∈ ranges, old.Apart r) : Laid low (ranges ++ [r]) high := by
  constructor
  · intro x member
    rcases List.mem_append.mp member with old | new
    · have before := laid.inside x old
      omega
    · cases List.mem_singleton.mp new
      exact bounds
  · rw [List.pairwise_append]
    refine ⟨laid.apart,List.pairwise_singleton _ _,?_⟩
    intro old member new single
    cases List.mem_singleton.mp single
    exact fresh old member

theorem Laid.push (laid : Laid low ranges middle) (start : low ≤ middle) (ordered : middle ≤ r.first)
    (proper : r.first ≤ r.past) (bound : r.past ≤ high) : Laid low (ranges ++ [r]) high := by
  refine laid.snoc (by omega) ⟨by omega,proper,bound⟩ ?_
  intro old member
  have before := laid.inside old member
  exact .inl (by omega)

-- Two ranges of which one has a property at all of its points and the other at
-- none are apart.
theorem apart_of_split {a b : Range} (Marked : Nat → Prop) (left : a.first < a.past) (right : b.first < b.past)
    (all : ∀ i, a.first ≤ i → i < a.past → Marked i) (none : ∀ i, b.first ≤ i → i < b.past → ¬ Marked i) : a.Apart b := by
  by_contra overlap
  unfold Range.Apart at overlap
  have later : max a.first b.first < b.past := by omega
  exact none (max a.first b.first) (by omega) later (all _ (by omega) (by omega))

end Ranges
