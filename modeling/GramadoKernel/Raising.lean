import GramadoKernel.ZOrderRuns

open Linked Loops
namespace GramadoKernel

-- wm_update_desktop2 as far as the list goes: its loops end, and what they draw
-- and post leaves the list.
def wmUpdateDesktop2 (fuel : Nat) (d : Desktop) : Option Desktop := (d.traversed fuel d.firstWindow).map fun _ => d

def wmUpdateDesktop3 (fuel : Nat) (window : Option Nat) (d : Desktop) : Option Desktop :=
  match window with
  | none => some d
  | some w =>
      if window = d.lastWindow then wmUpdateDesktop2 fuel (setActiveWindow window d)
      else do
        let d ←
          if window ≠ d.firstWindow then do
            let d ← wmRemoveWindowFromList fuel window d
            wmAddWindowToTop fuel window d
          else some d
        let d := if window = d.firstWindow then {d with firstWindow := d.next w} else d
        wmUpdateDesktop2 fuel (setActiveWindow window d)

-- A list that ends in last_window, all of live overlapped windows.
structure Stacked (d : Desktop) (items : List Nat) : Prop where
  chain : Chain d items
  live : ∀ w ∈ items, d.Valid w ∧ d.Overlapped w

-- The same windows with one of them last, the others in their order.
def movedLast (items : List Nat) (w : Nat) : List Nat := items.erase w ++ [w]

-- Every raise of a sequence returns and leaves such a list.
def Raises (d : Desktop) (items : List Nat) : List Nat → Prop
  | [] => Stacked d items
  | w :: rest => Stacked d items ∧ ∃ t, (∃ fuel, wmUpdateDesktop3 fuel (some w) d = some t) ∧ Raises t (movedLast items w) rest

theorem Raises.stacked (raises : Raises d items raised) : Stacked d items := by
  cases raised with
  | nil => exact raises
  | cons w rest => exact raises.1

section Raising

variable {d t : Desktop} {items : List Nat} {w : Nat}

theorem Stacked.activated (stacked : Stacked d items) (window : Option Nat) :
    Stacked (setActiveWindow window d) items ∧ (setActiveWindow window d).lastWindow = d.lastWindow := by
  obtain ⟨_,_,_,owners⟩ := setActiveWindow_owners window d
  rw [owners]
  exact ⟨⟨⟨stacked.chain.visits,stacked.chain.last⟩,stacked.live⟩,rfl⟩

theorem movedLast_last (stacked : Stacked d items) (last : d.lastWindow = some w) : movedLast items w = items := by
  obtain rfl | ⟨others,x,rfl⟩ := List.eq_nil_or_concat' items
  · have none := stacked.chain.last
    rw [last] at none
    cases none
  · have ends := stacked.chain.last
    rw [List.getLast?_concat,last] at ends
    obtain rfl : x = w := Option.some.inj ends
    have fresh : x ∉ others := by
      intro among
      have distinct := stacked.chain.visits.nodup
      exact (List.nodup_append.mp distinct).2.2 x among x (List.mem_singleton_self x) rfl
    rw [movedLast,List.erase_append_right _ fresh,List.erase_cons_head,List.append_nil]

-- The raise of the last window makes it active.
theorem wmUpdateDesktop3_last (stacked : Stacked d items) (last : d.lastWindow = some w) :
    Settles (fun fuel => wmUpdateDesktop3 fuel (some w) d) (setActiveWindow (some w) d) := by
  have visits := (stacked.activated (some w)).1.chain.visits
  simp only [wmUpdateDesktop3,if_pos last.symm,wmUpdateDesktop2]
  exact (traversed_settles visits).map _

-- Any other raise either leaves the first window out of the list or kills the
-- window where it stands.
theorem wmUpdateDesktop3_other (stacked : Stacked d items) (listed : w ∈ items) (other : d.lastWindow ≠ some w)
    (result : wmUpdateDesktop3 fuel (some w) d = some t) :
    if d.firstWindow = some w then t = setActiveWindow (some w) {d with firstWindow := d.next w}
    else t = setActiveWindow (some w) (d.killed w) := by
  have elsewhere : some w ≠ d.lastWindow := fun same => other same.symm
  simp only [wmUpdateDesktop3,if_neg elsewhere,wmUpdateDesktop2] at result
  by_cases first : d.firstWindow = some w
  · rw [if_pos first]
    simp only [ne_eq,first.symm,not_true_eq_false,if_false,Option.bind_eq_bind,Option.bind_some,if_true] at result
    obtain ⟨_,_,same⟩ := Option.map_eq_some_iff.mp result
    rw [← same,first]
  · rw [if_neg first]
    have further : some w ≠ d.firstWindow := fun same => first same.symm
    have settles := removed_settles stacked.chain.visits w
    rw [if_pos listed] at settles
    rw [if_pos further] at result
    obtain ⟨k,removed,result⟩ := Option.bind_eq_some_iff.mp result
    obtain ⟨m,added,result⟩ := Option.bind_eq_some_iff.mp result
    obtain rfl : k = d.killed w := settles.2 fuel k removed
    have dead : ¬ ((d.killed w).Valid w ∧ (d.killed w).Overlapped w) := by
      rintro ⟨⟨used,_⟩,_⟩
      simp only [Desktop.killed,Desktop.setWindow,Function.update_self,Bool.false_eq_true] at used
    rw [wmAddWindowToTop_other fuel dead] at added
    obtain rfl : d.killed w = m := Option.some.inj added
    have stays : some w ≠ (d.killed w).firstWindow := further
    rw [if_neg stays] at result
    obtain ⟨_,_,same⟩ := Option.map_eq_some_iff.mp result
    exact same.symm

theorem wmUpdateDesktop3_loses (stacked : Stacked d items) (listed : w ∈ items) (other : d.lastWindow ≠ some w)
    (result : wmUpdateDesktop3 fuel (some w) d = some t) : ¬ Stacked t (movedLast items w) := by
  intro after
  have known := wmUpdateDesktop3_other stacked listed other result
  by_cases first : d.firstWindow = some w
  · rw [if_pos first] at known
    obtain ⟨_,_,_,owners⟩ := setActiveWindow_owners (some w) {d with firstWindow := d.next w}
    rw [owners] at known
    subst known
    have visits := stacked.chain.visits
    rw [first] at visits
    cases items with
    | nil => cases listed
    | cons x rest =>
        obtain ⟨same,later⟩ := visits
        cases same
        have unique := after.chain.visits.unique later
        have lengths := congrArg List.length unique
        simp [movedLast] at lengths
  · rw [if_neg first] at known
    obtain ⟨_,_,_,owners⟩ := setActiveWindow_owners (some w) (d.killed w)
    rw [owners] at known
    subst known
    have live := (after.live w (by simp [movedLast])).1.1
    simp only [Desktop.killed,Desktop.setWindow,Function.update_self,Bool.false_eq_true] at live

-- A sequence of raises goes well exactly when each of them is a raise of the last window.
theorem wmUpdateDesktop3_raises {raised : List Nat} (stacked : Stacked d items) (listed : ∀ w ∈ raised, w ∈ items) :
    Raises d items raised ↔ ∀ w ∈ raised, d.lastWindow = some w := by
  induction raised generalizing d with
  | nil => exact iff_of_true stacked fun w none => absurd none List.not_mem_nil
  | cons w rest ih =>
      have here := listed w List.mem_cons_self
      have others : ∀ x ∈ rest, x ∈ items := fun x among => listed x (List.mem_cons_of_mem w among)
      by_cases last : d.lastWindow = some w
      · obtain ⟨activated,same⟩ := stacked.activated (some w)
        have settles := wmUpdateDesktop3_last stacked last
        rw [Raises,movedLast_last stacked last,List.forall_mem_cons,and_iff_right stacked,and_iff_right last,← same,← ih activated others]
        constructor
        · rintro ⟨t,returns,raises⟩
          rw [settles.result_iff.mp returns] at raises
          exact raises
        · intro raises
          exact ⟨_,settles.result_iff.mpr rfl,raises⟩
      · refine iff_of_false ?_ fun all => last (all w List.mem_cons_self)
        rintro ⟨_,t,⟨fuel,returns⟩,raises⟩
        exact wmUpdateDesktop3_loses stacked here last returns raises.stacked

end Raising

-- Three windows, each added to the top of the list.
def threeStacked : Desktop :=
  let one := {createWindow 0 wtOverlapped none bootDesktop with firstWindow := some 0, lastWindow := some 0}.addedToTop 0
  let two := ((createWindow 1 wtOverlapped none one).linkAfter 0 1).addedToTop 1
  ((createWindow 2 wtOverlapped none two).linkAfter 1 2).addedToTop 2

theorem threeStacked_stacked : Stacked threeStacked [0,1,2] := by
  refine ⟨⟨⟨rfl,rfl,rfl,rfl⟩,rfl⟩,?_⟩
  intro w listed
  simp only [List.mem_cons,List.not_mem_nil,or_false] at listed
  rcases listed with rfl | rfl | rfl
  all_goals exact ⟨⟨rfl,rfl⟩,rfl,rfl⟩

theorem wmUpdateDesktop3_raises_last : Raises threeStacked [0,1,2] [2,2] ↔ ∀ w ∈ [2,2], threeStacked.lastWindow = some w :=
  wmUpdateDesktop3_raises threeStacked_stacked (by decide)

-- A raise of the first window leaves it out of the list, and one of the second
-- window kills it.
theorem wmUpdateDesktop3_deviates :
    Stacked threeStacked [0,1,2] ∧ ¬ Raises threeStacked [0,1,2] [0] ∧ ¬ Raises threeStacked [0,1,2] [1] := by
  have first : ¬ ∃ t, (∃ fuel, wmUpdateDesktop3 fuel (some 0) threeStacked = some t) ∧ Stacked t (movedLast [0,1,2] 0) := by
    rintro ⟨t,⟨fuel,returns⟩,after⟩
    exact wmUpdateDesktop3_loses threeStacked_stacked (by decide) (by decide) returns after
  have second : ¬ ∃ t, (∃ fuel, wmUpdateDesktop3 fuel (some 1) threeStacked = some t) ∧ Stacked t (movedLast [0,1,2] 1) := by
    rintro ⟨t,⟨fuel,returns⟩,after⟩
    exact wmUpdateDesktop3_loses threeStacked_stacked (by decide) (by decide) returns after
  exact ⟨threeStacked_stacked,fun raises => first raises.2,fun raises => second raises.2⟩

end GramadoKernel
