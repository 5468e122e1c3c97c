import Mathlib.Logic.Function.Basic

namespace TableWalk

variable {π ι ε : Type}

-- A walk through tables: from a page, the entry at an index leads to the next
-- page.
def walk (next : ε → π) (memory : π → ι → ε) : π → List ι → π
  | page,[] => page
  | page,i :: rest => walk next memory (next (memory page i)) rest

-- The cells that a walk reads.
def cells (next : ε → π) (memory : π → ι → ε) : π → List ι → List (π × ι)
  | _,[] => []
  | page,i :: rest => (page,i) :: cells next memory (next (memory page i)) rest

section Frame

variable {next : ε → π} {memory other : π → ι → ε} {page : π} {path : List ι}

-- Memory whose entries lead to the same pages in the cells of a walk has the same walk.
theorem cells_same (same : ∀ cell ∈ cells next memory page path, next (other cell.1 cell.2) = next (memory cell.1 cell.2)) :
    cells next other page path = cells next memory page path := by
  induction path generalizing page with
  | nil => rfl
  | cons i rest ih =>
      have first : next (other page i) = next (memory page i) := same (page,i) (List.mem_cons_self)
      simp only [cells,first]
      rw [ih fun cell member => same cell (List.mem_cons_of_mem _ member)]

theorem walk_same (same : ∀ cell ∈ cells next memory page path, next (other cell.1 cell.2) = next (memory cell.1 cell.2)) :
    walk next other page path = walk next memory page path := by
  induction path generalizing page with
  | nil => rfl
  | cons i rest ih =>
      have first : next (other page i) = next (memory page i) := same (page,i) (List.mem_cons_self)
      simp only [walk,first]
      exact ih fun cell member => same cell (List.mem_cons_of_mem _ member)

end Frame

section Permission

variable (next : ε → π) (permits : ε → Prop)

-- The walk of a reader who goes no further than the first entry that does not permit it.
def reach [DecidablePred permits] (memory : π → ι → ε) : π → List ι → Option π
  | page,[] => some page
  | page,i :: rest => if permits (memory page i) then reach memory (next (memory page i)) rest else none

-- Each cell that such a reader comes to, and the page where it ends.
def Along (memory : π → ι → ε) (Cell : π → ι → Prop) (Leaf : π → Prop) : π → List ι → Prop
  | page,[] => Leaf page
  | page,i :: rest => Cell page i ∧ (permits (memory page i) → Along memory Cell Leaf (next (memory page i)) rest)

variable {next permits} {memory other : π → ι → ε} {Cell Cell' : π → ι → Prop} {Leaf Leaf' : π → Prop} {page frame : π} {path : List ι}

-- Where the reader is let through, it goes where the walk goes.
theorem reach_walk [DecidablePred permits] (reached : reach next permits memory page path = some frame) : walk next memory page path = frame := by
  induction path generalizing page with
  | nil => exact Option.some.inj reached
  | cons i rest ih =>
      rw [reach] at reached
      split at reached
      · exact ih reached
      · cases reached

-- A reader who is let through everywhere where another is comes as far.
theorem reach_weaker {permits' : ε → Prop} [DecidablePred permits] [DecidablePred permits'] (weaker : ∀ entry, permits entry → permits' entry)
    (reached : reach next permits memory page path = some frame) : reach next permits' memory page path = some frame := by
  induction path generalizing page with
  | nil => exact reached
  | cons i rest ih =>
      rw [reach] at reached ⊢
      split at reached
      · rename_i permitted
        rw [if_pos (weaker _ permitted)]
        exact ih reached
      · cases reached

theorem Along.leaf [DecidablePred permits] (along : Along next permits memory Cell Leaf page path)
    (reached : reach next permits memory page path = some frame) :
    Leaf frame := by
  induction path generalizing page with
  | nil =>
      cases reached
      exact along
  | cons i rest ih =>
      rw [reach] at reached
      split at reached
      · rename_i permitted
        exact ih (along.2 permitted) reached
      · cases reached

-- Other memory in which these cells are as they were, or stop the reader.
theorem Along.carried (along : Along next permits memory Cell Leaf page path)
    (cells : ∀ page i, Cell page i → Cell' page i ∧ (other page i = memory page i ∨ ¬ permits (other page i)))
    (leaves : ∀ page, Leaf page → Leaf' page) : Along next permits other Cell' Leaf' page path := by
  induction path generalizing page with
  | nil => exact leaves page along
  | cons i rest ih =>
      obtain ⟨here,later⟩ := along
      obtain ⟨kept,same | stopped⟩ := cells page i here
      · rw [Along,same]
        exact ⟨kept,fun permitted => ih (later permitted)⟩
      · exact ⟨kept,fun permitted => absurd permitted stopped⟩

end Permission

-- One entry, or a whole page, written.
def store [DecidableEq π] [DecidableEq ι] (memory : π → ι → ε) (page : π) (i : ι) (entry : ε) : π → ι → ε :=
  Function.update memory page (Function.update (memory page) i entry)

theorem store_apply [DecidableEq π] [DecidableEq ι] (memory : π → ι → ε) (page : π) (i : ι) (entry : ε) (p : π) (j : ι) :
    store memory page i entry p j = if p = page ∧ j = i then entry else memory p j := by
  unfold store
  by_cases own : p = page
  · subst own
    by_cases same : j = i
    · simp [same]
    · simp [same]
  · simp [own]

end TableWalk
