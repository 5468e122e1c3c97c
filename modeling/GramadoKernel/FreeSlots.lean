import GramadoKernel.Library.Loops
import GramadoKernel.PagePool
import Mathlib.Order.Bounds.Basic

namespace GramadoKernel

-- The registers of __firstSlotForAList. The search ends with a base, or with -1.
structure SlotSearch where
  i : Nat := 0
  base : Nat := 0
  count : Nat := 0

-- One turn of its loop. An occupied slot goes back to tryAgain, which sets i to
-- the new base.
def slotTurn (pool : PagePool) (size : Nat) (search : SlotSearch) : SlotSearch ⊕ Option Nat :=
  if search.i < pageCountMax then
    match pool.slot search.i with
    | some _ =>
        let base := search.base+search.count+1
        .inl {i := base,base,count := 0}
    | none =>
        let count := search.count+1
        if size ≤ count then .inr (some search.base) else .inl {search with i := search.i+1,count}
  else .inr none

def FreeRun (pool : PagePool) (size b : Nat) : Prop := b+size ≤ pageCountMax ∧ ∀ k < size, pool.slot (b+k) = none

-- The slots behind the base are free as far as they were counted, and no run
-- that is long enough begins before the base.
structure Searching (pool : PagePool) (size : Nat) (search : SlotSearch) : Prop where
  index : search.i = search.base+search.count
  inside : search.i ≤ pageCountMax
  short : search.count < size
  free : ∀ k < search.count, pool.slot (search.base+k) = none
  earlier : ∀ b < search.base, ¬ FreeRun pool size b
  known : slotsFrom pool size (pageCountMax-search.i) search.base search.count = firstSlotForAList pool size

theorem searching_start (positive : 1 ≤ size) : Searching pool size {} where
  index := rfl
  inside := Nat.zero_le _
  short := positive
  free := fun k before => absurd before (Nat.not_lt_zero k)
  earlier := fun b before => absurd before (Nat.not_lt_zero b)
  known := rfl

-- A run that begins at or behind the base and not behind an occupied slot
-- would contain that slot.
theorem occupied_ends_run (searching : Searching pool size search) (occupied : pool.slot search.i = some p)
    (low : search.base ≤ b) (high : b ≤ search.i) : ¬ FreeRun pool size b := by
  intro fits
  have index := searching.index
  have short := searching.short
  have empty := fits.2 (search.i-b) (by omega)
  rw [Nat.add_sub_cancel' high,occupied] at empty
  cases empty

section Searching

variable {pool : PagePool} {size : Nat} {search : SlotSearch}

-- The turn of the recursive search that is due here.
theorem Searching.due (searching : Searching pool size search) (left : search.i < pageCountMax) :
    (if (pool.slot search.i).isSome then slotsFrom pool size (pageCountMax-(search.i+1)) (search.i+1) 0
      else if size ≤ search.count+1 then some search.base
      else slotsFrom pool size (pageCountMax-(search.i+1)) search.base (search.count+1)) = firstSlotForAList pool size := by
  have known := searching.known
  have fuel : pageCountMax-search.i = pageCountMax-(search.i+1)+1 := by omega
  rw [fuel] at known
  unfold slotsFrom at known
  rwa [← searching.index] at known

theorem Searching.passes (searching : Searching pool size search) (left : search.i < pageCountMax)
    (held : pool.slot search.i = some p) : Searching pool size {i := search.i+1,base := search.i+1,count := 0} := by
  have due := searching.due left
  rw [held,Option.isSome_some,if_pos rfl] at due
  refine ⟨rfl,left,Nat.zero_lt_of_lt searching.short,?_,?_,due⟩
  · intro k before
    exact absurd before (Nat.not_lt_zero k)
  · intro b before
    by_cases low : search.base ≤ b
    · exact occupied_ends_run searching held low (Nat.le_of_lt_succ before)
    · exact searching.earlier b (Nat.lt_of_not_le low)

-- One more free slot behind the base.
theorem Searching.grown (searching : Searching pool size search) (empty : pool.slot search.i = none) :
    ∀ k < search.count+1, pool.slot (search.base+k) = none := by
  intro k before
  rcases Nat.lt_succ_iff_lt_or_eq.mp before with counted | last
  · exact searching.free k counted
  · rw [last,← searching.index]
    exact empty

theorem Searching.counts (searching : Searching pool size search) (left : search.i < pageCountMax)
    (empty : pool.slot search.i = none) (more : ¬ size ≤ search.count+1) :
    Searching pool size {search with i := search.i+1,count := search.count+1} := by
  have due := searching.due left
  rw [empty,Option.isSome_none,if_neg Bool.false_ne_true,if_neg more] at due
  refine ⟨?_,left,Nat.lt_of_not_le more,searching.grown empty,searching.earlier,due⟩
  simp only [searching.index,Nat.add_assoc]

theorem slotTurn_goes (searching : Searching pool size search) (goes : slotTurn pool size search = .inl next) :
    Searching pool size next ∧ pageCountMax-next.i < pageCountMax-search.i := by
  unfold slotTurn at goes
  by_cases left : search.i < pageCountMax
  · have less : pageCountMax-(search.i+1) < pageCountMax-search.i := by omega
    rw [if_pos left] at goes
    cases held : pool.slot search.i with
    | some p =>
        simp only [held,← searching.index] at goes
        injection goes with goes
        subst goes
        exact ⟨searching.passes left held,less⟩
    | none =>
        by_cases enough : size ≤ search.count+1
        · simp only [held,if_pos enough,reduceCtorEq] at goes
        · simp only [held,if_neg enough] at goes
          injection goes with goes
          subst goes
          exact ⟨searching.counts left held enough,less⟩
  · rw [if_neg left] at goes
    cases goes

-- What the answer of the search says about the pool.
structure FirstSlot (pool : PagePool) (size : Nat) (answer : Option Nat) : Prop where
  same : answer = firstSlotForAList pool size
  least : ∀ b, answer = some b ↔ IsLeast {b | FreeRun pool size b} b
  missing : answer = none ↔ ¬ ∃ b, FreeRun pool size b

theorem Searching.found (searching : Searching pool size search) (left : search.i < pageCountMax)
    (empty : pool.slot search.i = none) (enough : size ≤ search.count+1) : FirstSlot pool size (some search.base) := by
  have due := searching.due left
  rw [empty,Option.isSome_none,if_neg Bool.false_ne_true,if_pos enough] at due
  have fits : FreeRun pool size search.base := by
    have index := searching.index
    have short := searching.short
    exact ⟨by omega,fun k before => searching.grown empty k (by omega)⟩
  have first : IsLeast {b | FreeRun pool size b} search.base :=
    ⟨fits,fun b other => Nat.le_of_not_lt fun before => searching.earlier b before other⟩
  refine ⟨due,fun b => ⟨?_,?_⟩,?_⟩
  · intro same
    injection same with same
    subst same
    exact first
  · intro other
    exact congrArg some (first.unique other)
  · exact ⟨fun none => absurd none (Option.some_ne_none _),fun none => absurd ⟨_,fits⟩ none⟩

-- Behind the last slot a run would have to begin before the base.
theorem Searching.exhausted (searching : Searching pool size search) (passed : ¬ search.i < pageCountMax) :
    FirstSlot pool size none := by
  have index := searching.index
  have short := searching.short
  have nowhere : ¬ ∃ b, FreeRun pool size b := by
    rintro ⟨b,fits⟩
    have room := fits.1
    exact searching.earlier b (by omega) fits
  have known := searching.known
  rw [Nat.sub_eq_zero_of_le (Nat.le_of_not_lt passed)] at known
  refine ⟨known,fun b => ⟨?_,?_⟩,⟨fun _ => nowhere,fun _ => rfl⟩⟩
  · intro same
    cases same
  · intro first
    exact absurd ⟨b,first.1⟩ nowhere

theorem slotTurn_leaves (searching : Searching pool size search) (leaves : slotTurn pool size search = .inr answer) :
    FirstSlot pool size answer := by
  unfold slotTurn at leaves
  by_cases left : search.i < pageCountMax
  · rw [if_pos left] at leaves
    cases held : pool.slot search.i with
    | some p =>
        rw [held] at leaves
        cases leaves
    | none =>
        by_cases enough : size ≤ search.count+1
        · simp only [held,if_pos enough] at leaves
          injection leaves with leaves
          subst leaves
          exact searching.found left held enough
        · simp only [held,if_neg enough,reduceCtorEq] at leaves
  · rw [if_neg left] at leaves
    injection leaves with leaves
    subst leaves
    exact searching.exhausted left

end Searching

-- __firstSlotForAList ends on every pool.
theorem firstSlotForAList_ends (pool : PagePool) (positive : 1 ≤ size) :
    ∃ turns answer, Loops.run (slotTurn pool size) turns {} = .inr answer ∧ FirstSlot pool size answer :=
  Loops.run_ends (Searching pool size) (fun search => pageCountMax-search.i) (fun _ _ => slotTurn_goes)
    (fun _ _ => slotTurn_leaves) (searching_start positive)

def holedPool : PagePool := {slot := fun i => if i % 4 = 0 then some {id := i} else none,base := 0,process := none}

theorem firstSlotForAList_ends_holed :
    ∃ turns answer, Loops.run (slotTurn holedPool 3) turns {} = .inr answer ∧ FirstSlot holedPool 3 answer :=
  firstSlotForAList_ends holedPool (by decide)

end GramadoKernel
