import Mathlib.Algebra.BigOperators.Group.Finset.Basic
import Mathlib.Logic.Function.Basic

namespace References

variable {ι κ τ : Type} [DecidableEq τ]

def refers (entry : Option τ) (target : τ) : Nat := if entry = some target then 1 else 0

-- How many entries of one table refer to a target, and how many of all tables.
def row (places : Finset κ) (table : κ → Option τ) (target : τ) : Nat := ∑ k ∈ places,refers (table k) target

def count (owners : Finset ι) (places : Finset κ) (tables : ι → κ → Option τ) (target : τ) : Nat :=
  ∑ i ∈ owners,row places (tables i) target

-- Two sums that differ at one place.
theorem sum_change {α : Type} [DecidableEq α] {s : Finset α} {a : α} (member : a ∈ s) (f g : α → Nat)
    (others : ∀ b ∈ s, b ≠ a → g b = f b) : ∑ b ∈ s,g b+f a = ∑ b ∈ s,f b+g a := by
  have rest : ∑ b ∈ s.erase a,g b = ∑ b ∈ s.erase a,f b :=
    Finset.sum_congr rfl fun b inside => others b (Finset.mem_of_mem_erase inside) (Finset.ne_of_mem_erase inside)
  rw [← Finset.add_sum_erase s f member,← Finset.add_sum_erase s g member,rest]
  omega

theorem row_empty (places : Finset κ) (target : τ) : row places (fun _ => none) target = 0 :=
  Finset.sum_eq_zero fun _ _ => by simp [refers]

theorem row_update [DecidableEq κ] {places : Finset κ} {k : κ} (member : k ∈ places) (table : κ → Option τ) (entry : Option τ) (target : τ) :
    row places (Function.update table k entry) target+refers (table k) target = row places table target+refers entry target := by
  have changed := sum_change member (fun j => refers (table j) target) (fun j => refers (Function.update table k entry j) target)
    fun j _ other => by rw [Function.update_of_ne other]
  rw [Function.update_self] at changed
  exact changed

-- One table replaced by another.
theorem count_update [DecidableEq ι] {owners : Finset ι} {i : ι} (member : i ∈ owners) (places : Finset κ) (tables : ι → κ → Option τ) (table : κ → Option τ)
    (target : τ) : count owners places (Function.update tables i table) target+row places (tables i) target =
      count owners places tables target+row places table target := by
  have changed := sum_change member (fun j => row places (tables j) target) (fun j => row places (Function.update tables i table j) target)
    fun j _ other => by rw [Function.update_of_ne other]
  rw [Function.update_self] at changed
  exact changed

-- One entry of one table replaced.
theorem count_entry [DecidableEq ι] [DecidableEq κ] {owners : Finset ι} {i : ι} (member : i ∈ owners) {places : Finset κ} {k : κ} (place : k ∈ places)
    (tables : ι → κ → Option τ) (entry : Option τ) (target : τ) :
    count owners places (Function.update tables i (Function.update (tables i) k entry)) target+refers (tables i k) target =
      count owners places tables target+refers entry target := by
  have rows := row_update place (tables i) entry target
  have all := count_update member places tables (Function.update (tables i) k entry) target
  omega

theorem count_outside [DecidableEq ι] {owners : Finset ι} {i : ι} (outside : i ∉ owners) (places : Finset κ) (tables : ι → κ → Option τ)
    (table : κ → Option τ) (target : τ) : count owners places (Function.update tables i table) target = count owners places tables target := by
  refine Finset.sum_congr rfl fun j inside => ?_
  have other : j ≠ i := fun same => outside (same ▸ inside)
  rw [Function.update_of_ne other]

-- A new owner with an empty table.
theorem count_insert [DecidableEq ι] {owners : Finset ι} {i : ι} (outside : i ∉ owners) (places : Finset κ) (tables : ι → κ → Option τ)
    (target : τ) : count (insert i owners) places (Function.update tables i fun _ => none) target = count owners places tables target := by
  have rest := count_outside outside places tables (fun _ => none) target
  unfold count at rest ⊢
  rw [Finset.sum_insert outside,rest,Function.update_self,row_empty,Nat.zero_add]

end References
