import GramadoKernel.State
import GramadoKernel.Library.Linked
import GramadoKernel.Library.Loops

open Linked Loops
namespace GramadoKernel

-- wt.h and window.h
def wtOverlapped : Nat := 3
def windowCountMax : Nat := 1024

-- struct gws_window_d. A pointer to a window is its address, or none.
structure Window where
  used : Bool := false
  magic : Nat := 0
  type : Nat := 0
  prev : Option Nat := none
  next : Option Nat := none

-- The windows that malloc has given out, and the globals of wm.c.
structure Desktop where
  window : Nat → Window
  created : Nat → Bool
  firstWindow : Option Nat
  lastWindow : Option Nat
  activeWindow : Option Nat
  keyboardOwner : Option Nat
  mouseOwner : Option Nat
  windowList : Nat → Option Nat
  windowsCount : Nat

def Desktop.setWindow (d : Desktop) (w : Nat) (window : Window) : Desktop := {d with window := Function.update d.window w window}

-- window->next = p and window->prev = p
def Desktop.setNext (d : Desktop) (w : Nat) (p : Option Nat) : Desktop := d.setWindow w {d.window w with next := p}
def Desktop.setPrev (d : Desktop) (w : Nat) (p : Option Nat) : Desktop := d.setWindow w {d.window w with prev := p}

def Desktop.next (d : Desktop) (w : Nat) : Option Nat := (d.window w).next

def Desktop.Valid (d : Desktop) (w : Nat) : Prop := (d.window w).used = true ∧ (d.window w).magic = 1234

def Desktop.Overlapped (d : Desktop) (w : Nat) : Prop := (d.window w).magic = 1234 ∧ (d.window w).type = wtOverlapped

instance validWindowDecidable (d : Desktop) (w : Nat) : Decidable (d.Valid w) := inferInstanceAs (Decidable (_ ∧ _))
instance overlappedWindowDecidable (d : Desktop) (w : Nat) : Decidable (d.Overlapped w) := inferInstanceAs (Decidable (_ ∧ _))

def setActiveWindow (window : Option Nat) (d : Desktop) : Desktop :=
  match window with
  | none => d
  | some w =>
      if (d.window w).magic ≠ 1234 then d
      else if window = d.activeWindow then d
      else {d with activeWindow := window, keyboardOwner := window, mouseOwner := window}

-- The end of wm_add_window_to_top.
def Desktop.addedToTop (d : Desktop) (w : Nat) : Desktop :=
  setActiveWindow (some w) ({d with lastWindow := some w}.setNext w none)

-- while ( (void*) Next->next != NULL )
def Desktop.lastLinked (d : Desktop) : Nat → Nat → Option Nat
  | 0,_ => none
  | fuel+1,w =>
      match d.next w with
      | none => some w
      | some following => d.lastLinked fuel following

def Desktop.linkAfter (d : Desktop) (last w : Nat) : Desktop := (d.setNext last (some w)).setPrev w (some last)

def wmAddWindowToTop (fuel : Nat) (window : Option Nat) (d : Desktop) : Option Desktop :=
  match window with
  | none => some d
  | some w =>
      if (d.window w).used ≠ true then some d
      else if (d.window w).magic ≠ 1234 then some d
      else if (d.window w).type ≠ wtOverlapped then some d
      else
        let alone := {d with firstWindow := some w, lastWindow := some w}
        match d.firstWindow with
        | none => some (alone.addedToTop w)
        | some first =>
            if (d.window first).used ≠ true then some (alone.addedToTop w)
            else if (d.window first).magic ≠ 1234 then some (alone.addedToTop w)
            else do
              let last ← d.lastLinked fuel first
              some ((d.linkAfter last w).addedToTop w)

def Desktop.linkBefore (d : Desktop) (w first : Nat) : Desktop :=
  ({d with firstWindow := some w}.setNext w (some first)).setPrev first (some w)

-- The second checks of the parameter find nothing that the first have let through.
def wmAddWindowToBottom (window : Option Nat) (d : Desktop) : Except Halt Desktop :=
  match window with
  | none => .ok d
  | some w =>
      if (d.window w).magic ≠ 1234 then .ok d
      else if (d.window w).magic ≠ 1234 then .ok {d with firstWindow := some w}
      else if window = d.firstWindow then .ok d
      else do
        let oldFirst ← pointer d.firstWindow (.nullPointer "old_first->prev")
        .ok (d.linkBefore w oldFirst)

-- One turn of the loops of wm_rebuild_list and wm_rebuild_list2.
def rebuildEntry [Monad m] (add : Option Nat → Desktop → m Desktop) (d : Desktop) (i : Nat) : m Desktop :=
  match d.windowList i with
  | none => pure d
  | some w =>
      if (d.window w).magic = 1234 then
        if (d.window w).type = wtOverlapped then add (some w) d
        else pure d
      else pure d

def wmRebuildList (fuel : Nat) (d : Desktop) : Option Desktop :=
  (List.range windowCountMax).foldlM (rebuildEntry (wmAddWindowToTop fuel)) d

def wmRebuildList2 (d : Desktop) : Except Halt Desktop :=
  (List.range windowCountMax).foldlM (rebuildEntry wmAddWindowToBottom) d

def Desktop.killed (d : Desktop) (w : Nat) : Desktop := d.setWindow w {d.window w with used := false, magic := 0}

-- The search of wm_remove_window_from_list. What it calls gluing moves a local pointer.
def Desktop.removed (d : Desktop) (w : Nat) : Nat → Option Nat → Option Desktop
  | 0,_ => none
  | _+1,none => some d
  | fuel+1,some here => if here = w then some (d.killed here) else d.removed w fuel (d.next here)

def wmRemoveWindowFromList (fuel : Nat) (window : Option Nat) (d : Desktop) : Option Desktop :=
  match window with
  | none => some d
  | some w => d.removed w fuel d.firstWindow

-- The windows that a traversal of wm_update_desktop2 meets.
def Desktop.traversed (d : Desktop) : Nat → Option Nat → Option (List Nat)
  | 0,_ => none
  | _+1,none => some []
  | fuel+1,some w => (d.traversed fuel (d.next w)).map (w :: ·)

-- __create_window_object and the fields that doCreateWindow and CreateWindow give the window.
def createWindow (w type : Nat) (parent : Option Nat) (d : Desktop) : Desktop :=
  {d.setWindow w {used := true, magic := 1234, type := type, prev := parent, next := none} with
    created := Function.update d.created w true}

def registerWindow (w : Nat) (d : Desktop) : Desktop :=
  let counted := {d with windowsCount := d.windowsCount+1}
  if windowCountMax ≤ counted.windowsCount then counted
  else
    match (List.range windowCountMax).find? (fun i => (d.windowList i).isNone) with
    | none => counted
    | some slot => {counted with windowList := Function.update d.windowList slot (some w)}

-- The records of the windows, their links apart, and the table of the windows.
structure SameWindows (d t : Desktop) : Prop where
  used : ∀ w, (t.window w).used = (d.window w).used
  magic : ∀ w, (t.window w).magic = (d.window w).magic
  type : ∀ w, (t.window w).type = (d.window w).type
  created : t.created = d.created
  windowList : t.windowList = d.windowList

theorem SameWindows.refl (d : Desktop) : SameWindows d d := ⟨fun _ => rfl,fun _ => rfl,fun _ => rfl,rfl,rfl⟩

theorem SameWindows.trans (one : SameWindows d m) (two : SameWindows m t) : SameWindows d t :=
  ⟨fun w => (two.used w).trans (one.used w),fun w => (two.magic w).trans (one.magic w),fun w => (two.type w).trans (one.type w),
    two.created.trans one.created,two.windowList.trans one.windowList⟩

theorem SameWindows.valid (same : SameWindows d t) (w : Nat) : t.Valid w ↔ d.Valid w := by
  simp only [Desktop.Valid,same.used,same.magic]

theorem SameWindows.overlapped (same : SameWindows d t) (w : Nat) : t.Overlapped w ↔ d.Overlapped w := by
  simp only [Desktop.Overlapped,same.magic,same.type]

-- What a write to a field other than these leaves.
theorem same_table (window : t.window = d.window) (created : t.created = d.created) (windowList : t.windowList = d.windowList) : SameWindows d t :=
  ⟨fun w => by rw [window],fun w => by rw [window],fun w => by rw [window],created,windowList⟩

theorem setWindow_same (d : Desktop) {w : Nat} {window : Window} (used : window.used = (d.window w).used)
    (magic : window.magic = (d.window w).magic) (type : window.type = (d.window w).type) : SameWindows d (d.setWindow w window) := by
  refine ⟨?_,?_,?_,rfl,rfl⟩
  all_goals
    intro x
    by_cases here : x = w
    · subst here
      simp only [Desktop.setWindow,Function.update_self]
      assumption
    · simp only [Desktop.setWindow,Function.update_of_ne here]

theorem setNext_same (d : Desktop) (w : Nat) (p : Option Nat) : SameWindows d (d.setNext w p) := setWindow_same d rfl rfl rfl
theorem setPrev_same (d : Desktop) (w : Nat) (p : Option Nat) : SameWindows d (d.setPrev w p) := setWindow_same d rfl rfl rfl

theorem setWindow_next (d : Desktop) (w : Nat) (window : Window) : (d.setWindow w window).next = Function.update d.next w window.next := by
  funext x
  by_cases here : x = w
  · subst here
    simp only [Desktop.next,Desktop.setWindow,Function.update_self]
  · simp only [Desktop.next,Desktop.setWindow,Function.update_of_ne here]

theorem setNext_next (d : Desktop) (w : Nat) (p : Option Nat) : (d.setNext w p).next = Function.update d.next w p := setWindow_next d w _

theorem setPrev_next (d : Desktop) (w : Nat) (p : Option Nat) : (d.setPrev w p).next = d.next :=
  (setWindow_next d w _).trans (Function.update_eq_self w d.next)

theorem setActiveWindow_owners (window : Option Nat) (d : Desktop) :
    ∃ active keyboard mouse, setActiveWindow window d = {d with activeWindow := active, keyboardOwner := keyboard, mouseOwner := mouse} := by
  cases window with
  | none => exact ⟨_,_,_,rfl⟩
  | some w =>
      simp only [setActiveWindow]
      split
      · exact ⟨_,_,_,rfl⟩
      · split
        · exact ⟨_,_,_,rfl⟩
        · exact ⟨_,_,_,rfl⟩

theorem addedToTop_same (d : Desktop) (w : Nat) : SameWindows d (d.addedToTop w) := by
  unfold Desktop.addedToTop
  obtain ⟨_,_,_,owners⟩ := setActiveWindow_owners (some w) ({d with lastWindow := some w}.setNext w none)
  rw [owners]
  have marked : SameWindows d {d with lastWindow := some w} := same_table rfl rfl rfl
  exact (marked.trans (setNext_same _ w none)).trans (same_table rfl rfl rfl)

theorem addedToTop_list (d : Desktop) (w : Nat) :
    (d.addedToTop w).next = Function.update d.next w none ∧ (d.addedToTop w).firstWindow = d.firstWindow ∧ (d.addedToTop w).lastWindow = some w := by
  unfold Desktop.addedToTop
  obtain ⟨_,_,_,owners⟩ := setActiveWindow_owners (some w) ({d with lastWindow := some w}.setNext w none)
  rw [owners]
  exact ⟨setNext_next _ w none,rfl,rfl⟩

theorem linkAfter_same (d : Desktop) (last w : Nat) : SameWindows d (d.linkAfter last w) := (setNext_same d last _).trans (setPrev_same _ w _)

theorem linkAfter_next (d : Desktop) (last w : Nat) : (d.linkAfter last w).next = Function.update d.next last (some w) :=
  (setPrev_next _ w _).trans (setNext_next d last _)

theorem linkBefore_same (d : Desktop) (w first : Nat) : SameWindows d (d.linkBefore w first) := by
  have marked : SameWindows d {d with firstWindow := some w} := same_table rfl rfl rfl
  exact (marked.trans (setNext_same _ w _)).trans (setPrev_same _ first _)

theorem linkBefore_next (d : Desktop) (w first : Nat) : (d.linkBefore w first).next = Function.update d.next w (some first) :=
  (setPrev_next _ first _).trans (setNext_next _ w _)

-- The list from first_window ends, and last_window is its last window.
structure Chain (d : Desktop) (items : List Nat) : Prop where
  visits : Visits d.next d.firstWindow items none
  last : items.getLast? = d.lastWindow

-- The first window where wm_add_window_to_top goes on from it.
def Desktop.leading (d : Desktop) : Option Nat := d.firstWindow.filter (fun first => d.Valid first)

-- The windows of the list that it adds to.
def Desktop.standing (d : Desktop) (items : List Nat) : List Nat := if d.leading = none then [] else items

section Additions

variable {d : Desktop}

theorem lastLinked_settles {items : List Nat} {w last : Nat} (visits : Visits d.next (some w) (items ++ [last]) none) :
    Settles (fun fuel => d.lastLinked fuel w) last := by
  induction items generalizing w with
  | nil =>
      obtain ⟨same,ends⟩ := visits
      cases same
      have ends : d.next last = none := ends
      apply Settles.turn rfl _ (.pure last)
      intro fuel
      simp only [Desktop.lastLinked,ends]
  | cons x rest ih =>
      obtain ⟨same,later⟩ := visits
      cases same
      cases following : d.next x with
      | none =>
          rw [following] at later
          cases rest with
          | nil => cases later.1
          | cons y more => cases later.1
      | some m =>
          rw [following] at later
          apply Settles.turn rfl _ (ih later)
          intro fuel
          simp only [Desktop.lastLinked,following]

theorem removed_settles {items : List Nat} (visits : Visits d.next p items none) (w : Nat) :
    Settles (fun fuel => d.removed w fuel p) (if w ∈ items then d.killed w else d) := by
  induction items generalizing p with
  | nil =>
      obtain rfl : p = none := visits
      rw [if_neg List.not_mem_nil]
      exact Settles.turn rfl (fun fuel => rfl) (.pure d)
  | cons x rest ih =>
      obtain ⟨rfl,later⟩ := visits
      by_cases here : x = w
      · subst here
        rw [if_pos List.mem_cons_self]
        apply Settles.turn rfl _ (.pure (d.killed x))
        intro fuel
        simp only [Desktop.removed,if_true]
      · have elsewhere : (w ∈ x :: rest) = (w ∈ rest) := by
          rw [List.mem_cons]
          exact propext (or_iff_right fun same => here same.symm)
        simp only [elsewhere]
        apply Settles.turn rfl _ (ih later)
        intro fuel
        simp only [Desktop.removed,if_neg here]

theorem traversed_settles {items : List Nat} (visits : Visits d.next p items none) : Settles (fun fuel => d.traversed fuel p) items := by
  induction items generalizing p with
  | nil =>
      obtain rfl : p = none := visits
      exact Settles.turn rfl (fun fuel => rfl) (.pure [])
  | cons x rest ih =>
      obtain ⟨rfl,later⟩ := visits
      exact Settles.turn rfl (fun fuel => rfl) ((ih later).map (x :: ·))

theorem traversed_visits {fuel : Nat} {items : List Nat} (traversed : d.traversed fuel p = some items) : Visits d.next p items none := by
  induction fuel generalizing p items with
  | zero => cases traversed
  | succ fuel ih =>
      cases p with
      | none =>
          cases traversed
          rfl
      | some w =>
          obtain ⟨rest,later,rfl⟩ := Option.map_eq_some_iff.mp traversed
          exact ⟨rfl,ih later⟩

theorem leading_none : d.leading = none ↔ ∀ first, d.firstWindow = some first → ¬ d.Valid first := by
  simp [Desktop.leading,Option.filter_eq_none_iff]

theorem leading_some : d.leading = some first ↔ d.firstWindow = some first ∧ d.Valid first := by
  simp [Desktop.leading,Option.filter_eq_some_iff]

theorem wmAddWindowToTop_eq (fuel : Nat) (valid : d.Valid w) (overlapped : d.Overlapped w) :
    wmAddWindowToTop fuel (some w) d =
      match d.leading with
      | none => some ({d with firstWindow := some w, lastWindow := some w}.addedToTop w)
      | some first => (d.lastLinked fuel first).map (fun last => (d.linkAfter last w).addedToTop w) := by
  simp only [wmAddWindowToTop,if_neg (not_not.mpr valid.1),if_neg (not_not.mpr valid.2),if_neg (not_not.mpr overlapped.2)]
  cases first : d.firstWindow with
  | none =>
      have free : d.leading = none := leading_none.mpr (by simp [first])
      rw [free]
  | some f =>
      by_cases good : d.Valid f
      · have led : d.leading = some f := leading_some.mpr ⟨first,good⟩
        simp only [led,if_neg (not_not.mpr good.1),if_neg (not_not.mpr good.2)]
        exact Option.map_eq_bind.symm
      · have free : d.leading = none := leading_none.mpr (by simp [first,good])
        by_cases used : (d.window f).used = true
        · have magic : (d.window f).magic ≠ 1234 := fun magic => good ⟨used,magic⟩
          simp only [free,if_neg (not_not.mpr used),if_pos magic]
        · simp only [free,if_pos (show (d.window f).used ≠ true from used)]

theorem wmAddWindowToTop_other (fuel : Nat) (other : ¬ (d.Valid w ∧ d.Overlapped w)) : wmAddWindowToTop fuel (some w) d = some d := by
  by_cases used : (d.window w).used = true
  · by_cases magic : (d.window w).magic = 1234
    · have type : (d.window w).type ≠ wtOverlapped := fun type => other ⟨⟨used,magic⟩,magic,type⟩
      simp only [wmAddWindowToTop,if_neg (not_not.mpr used),if_neg (not_not.mpr magic),if_pos type]
    · simp only [wmAddWindowToTop,if_neg (not_not.mpr used),if_pos (show (d.window w).magic ≠ 1234 from magic)]
  · simp only [wmAddWindowToTop,if_pos (show (d.window w).used ≠ true from used)]

theorem wmAddWindowToTop_same {fuel : Nat} (added : wmAddWindowToTop fuel (some w) d = some t) : SameWindows d t := by
  by_cases good : d.Valid w ∧ d.Overlapped w
  · rw [wmAddWindowToTop_eq fuel good.1 good.2] at added
    cases led : d.leading with
    | none =>
        simp only [led] at added
        cases added
        have alone : SameWindows d {d with firstWindow := some w, lastWindow := some w} := same_table rfl rfl rfl
        exact alone.trans (addedToTop_same _ w)
    | some first =>
        simp only [led] at added
        obtain ⟨last,_,rfl⟩ := Option.map_eq_some_iff.mp added
        exact (linkAfter_same d last w).trans (addedToTop_same _ w)
  · rw [wmAddWindowToTop_other fuel good] at added
    cases added
    exact .refl d

-- The window goes to the end of the list, and what stood behind it is lost.
theorem wmAddWindowToTop_chain {items : List Nat} (chain : Chain d items) (valid : d.Valid w) (overlapped : d.Overlapped w) :
    ∃ t, Settles (fun fuel => wmAddWindowToTop fuel (some w) d) t ∧ SameWindows d t ∧ Chain t (raise (d.standing items) w) ∧ t.leading ≠ none := by
  simp only [wmAddWindowToTop_eq _ valid overlapped]
  cases led : d.leading with
  | none =>
      have alone : SameWindows d {d with firstWindow := some w, lastWindow := some w} := same_table rfl rfl rfl
      have same := alone.trans (addedToTop_same _ w)
      obtain ⟨links,first,last⟩ := addedToTop_list {d with firstWindow := some w, lastWindow := some w} w
      refine ⟨_,.pure _,same,⟨?_,?_⟩,?_⟩
      · simp only [Desktop.standing,if_pos led,first,links]
        exact ⟨rfl,Function.update_self _ _ _⟩
      · rw [last]
        exact List.getLast?_concat
      · rw [leading_some.mpr ⟨first,(same.valid w).mpr valid⟩]
        exact Option.some_ne_none w
  | some front =>
      obtain ⟨begins,good⟩ := leading_some.mp led
      have visits := chain.visits
      obtain rfl | ⟨others,end_,rfl⟩ := List.eq_nil_or_concat' items
      · rw [begins] at visits
        cases visits
      · have stays : d.standing (others ++ [end_]) = others ++ [end_] := by simp [Desktop.standing,led]
        obtain ⟨links,first,last⟩ := addedToTop_list (d.linkAfter end_ w) w
        have same := (linkAfter_same d end_ w).trans (addedToTop_same _ w)
        rw [begins] at visits
        refine ⟨_,(lastLinked_settles visits).map _,same,⟨?_,?_⟩,?_⟩
        · rw [stays,links,linkAfter_next,first]
          exact visits_back chain.visits
        · rw [last]
          exact List.getLast?_concat
        · rw [leading_some.mpr ⟨first.trans begins,(same.valid front).mpr good⟩]
          exact Option.some_ne_none front

-- The additions of a rebuild, one after another.
theorem addAllToTop {items tops : List Nat} (chain : Chain d items) (good : ∀ w ∈ tops, d.Valid w ∧ d.Overlapped w) :
    ∃ t, Settles (fun fuel => tops.foldlM (fun d w => wmAddWindowToTop fuel (some w) d) d) t ∧ SameWindows d t ∧
      Chain t (if tops = [] then items else tops.foldl raise (d.standing items)) := by
  induction tops generalizing d items with
  | nil => exact ⟨d,.pure d,.refl d,chain⟩
  | cons w rest ih =>
      obtain ⟨valid,overlapped⟩ := good w List.mem_cons_self
      obtain ⟨m,one,same,linked,led⟩ := wmAddWindowToTop_chain chain valid overlapped
      obtain ⟨t,others,further,result⟩ := ih linked fun x among =>
        (good x (List.mem_cons_of_mem w among)).imp (same.valid x).mpr (same.overlapped x).mpr
      refine ⟨t,?_,same.trans further,?_⟩
      · simp only [List.foldlM_cons]
        exact one.bind others
      · rw [if_neg (List.cons_ne_nil w rest),List.foldl_cons]
        have stays : m.standing (raise (d.standing items) w) = raise (d.standing items) w := if_neg led
        rw [stays] at result
        cases rest with
        | nil => exact result
        | cons x more => exact result

end Additions

section Bottom

variable {d : Desktop}

theorem Chain.first {items : List Nat} (chain : Chain d items) (some : items ≠ []) :
    ∃ first rest, items = first :: rest ∧ d.firstWindow = Option.some first := by
  cases items with
  | nil => exact absurd rfl some
  | cons first rest => exact ⟨first,rest,rfl,chain.visits.1⟩

theorem wmAddWindowToBottom_ok (magic : (d.window w).magic = 1234) :
    wmAddWindowToBottom (some w) d = .ok t ↔
      d.firstWindow = some w ∧ t = d ∨ ∃ first, d.firstWindow = some first ∧ first ≠ w ∧ t = d.linkBefore w first := by
  simp only [wmAddWindowToBottom,if_neg (not_not.mpr magic)]
  by_cases already : some w = d.firstWindow
  · rw [if_pos already]
    constructor
    · intro same
      exact .inl ⟨already.symm,(Except.ok.inj same).symm⟩
    · rintro (⟨_,rfl⟩ | ⟨first,begins,apart,_⟩)
      · rfl
      · rw [begins] at already
        exact absurd (Option.some.inj already).symm apart
  · simp only [if_neg already,bind_ok,pointer_ok,Except.ok.injEq]
    constructor
    · rintro ⟨first,begins,rfl⟩
      refine .inr ⟨first,begins,?_,rfl⟩
      rintro rfl
      exact already begins.symm
    · rintro (⟨begins,_⟩ | ⟨first,begins,_,rfl⟩)
      · exact absurd begins.symm already
      · exact ⟨first,begins,rfl⟩

-- The list ends after an addition before its first window only where it did without it.
theorem linkBefore_visits {items : List Nat} (begins : d.firstWindow = some first) :
    Visits (d.linkBefore w first).next (d.linkBefore w first).firstWindow items none ↔
      ∃ rest, items = w :: rest ∧ w ∉ rest ∧ Visits d.next d.firstWindow rest none := by
  rw [linkBefore_next,begins]
  exact visits_front

theorem linkBefore_chain {items : List Nat} (chain : Chain d items) (begins : d.firstWindow = some first) (fresh : w ∉ items) :
    Chain (d.linkBefore w first) (w :: items) := by
  refine ⟨(linkBefore_visits begins).mpr ⟨items,rfl,fresh,chain.visits⟩,?_⟩
  have ends : (d.linkBefore w first).lastWindow = d.lastWindow := rfl
  rw [ends,← chain.last]
  cases items with
  | nil =>
      have empty := chain.visits
      rw [begins] at empty
      cases empty
  | cons x rest => exact List.getLast?_cons_cons

-- The windows are not in the list, which has one. The first of them may stand first in it.
def Desktop.FitsBelow (d : Desktop) (items : List Nat) : List Nat → Prop
  | [] => True
  | first :: later => (d.firstWindow = some first ∨ items ≠ [] ∧ first ∉ items) ∧ ∀ w ∈ later, w ∉ items

def addAllToBottom (bottoms : List Nat) (d : Desktop) : Except Halt Desktop := bottoms.foldlM (fun d w => wmAddWindowToBottom (some w) d) d

theorem addAllToBottom_cons : addAllToBottom (w :: rest) d = .ok t ↔ ∃ m, wmAddWindowToBottom (some w) d = .ok m ∧ addAllToBottom rest m = .ok t := by
  simp only [addAllToBottom,List.foldlM_cons,bind_ok]

theorem addAllToBottom_fits {items bottoms : List Nat} (chain : Chain d items) (some : items ≠ []) (distinct : bottoms.Nodup)
    (magic : ∀ w ∈ bottoms, (d.window w).magic = 1234) (fresh : ∀ w ∈ bottoms, w ∉ items) :
    ∃ t, addAllToBottom bottoms d = .ok t ∧ SameWindows d t ∧ Chain t (bottoms.reverse ++ items) := by
  induction bottoms generalizing d items with
  | nil => exact ⟨d,rfl,.refl d,chain⟩
  | cons w rest ih =>
      obtain ⟨never,different⟩ := List.nodup_cons.mp distinct
      have unlisted := fresh w List.mem_cons_self
      obtain ⟨first,others,rfl,begins⟩ := chain.first some
      have apart : first ≠ w := fun same => unlisted (same ▸ List.mem_cons_self)
      have linked := linkBefore_chain chain begins unlisted
      have same := linkBefore_same d w first
      obtain ⟨t,result,further,longer⟩ := ih linked (List.cons_ne_nil _ _) different
        (fun x among => (same.magic x).trans (magic x (List.mem_cons_of_mem w among))) fun x among => by
          rintro (_ | ⟨_,listed⟩)
          · exact never among
          · exact fresh x (List.mem_cons_of_mem w among) listed
      refine ⟨t,addAllToBottom_cons.mpr ⟨_,?_,result⟩,same.trans further,?_⟩
      · exact (wmAddWindowToBottom_ok (magic w List.mem_cons_self)).mpr (.inr ⟨first,begins,apart,rfl⟩)
      · rw [List.reverse_cons,List.append_assoc]
        exact longer

-- A list that does not end stays so.
theorem addAllToBottom_broken {bottoms : List Nat} (broken : ∀ items, ¬ Visits d.next d.firstWindow items none)
    (magic : ∀ w ∈ bottoms, (d.window w).magic = 1234) (added : addAllToBottom bottoms d = .ok t) (items : List Nat) :
    ¬ Visits t.next t.firstWindow items none := by
  induction bottoms generalizing d with
  | nil =>
      cases added
      exact broken items
  | cons w rest ih =>
      obtain ⟨m,one,others⟩ := addAllToBottom_cons.mp added
      obtain ⟨_,rfl⟩ | ⟨first,begins,_,rfl⟩ := (wmAddWindowToBottom_ok (magic w List.mem_cons_self)).mp one
      · exact ih broken (fun x among => magic x (List.mem_cons_of_mem w among)) others
      · have same := linkBefore_same d w first
        apply ih _ (fun x among => (same.magic x).trans (magic x (List.mem_cons_of_mem w among))) others
        intro all visits
        obtain ⟨before,_,_,ends⟩ := (linkBefore_visits begins).mp visits
        exact broken before ends

theorem addAllToBottom_only {items bottoms all : List Nat} (chain : Chain d items) (distinct : bottoms.Nodup)
    (magic : ∀ w ∈ bottoms, (d.window w).magic = 1234) (elsewhere : ∀ w, bottoms.head? = some w → d.firstWindow ≠ some w)
    (added : addAllToBottom bottoms d = .ok t) (visits : Visits t.next t.firstWindow all none) : ∀ w ∈ bottoms, w ∉ items := by
  induction bottoms generalizing d items with
  | nil =>
      intro w among
      cases among
  | cons w rest ih =>
      obtain ⟨never,different⟩ := List.nodup_cons.mp distinct
      obtain ⟨m,one,others⟩ := addAllToBottom_cons.mp added
      obtain ⟨begins,_⟩ | ⟨first,begins,apart,rfl⟩ := (wmAddWindowToBottom_ok (magic w List.mem_cons_self)).mp one
      · exact absurd begins (elsewhere w rfl)
      · have same := linkBefore_same d w first
        have kept : ∀ x ∈ rest, ((d.linkBefore w first).window x).magic = 1234 :=
          fun x among => (same.magic x).trans (magic x (List.mem_cons_of_mem w among))
        by_cases listed : w ∈ items
        · -- The window is linked before itself.
          have broken : ∀ items, ¬ Visits (d.linkBefore w first).next (d.linkBefore w first).firstWindow items none := by
            intro longer ends
            obtain ⟨before,_,fresh,earlier⟩ := (linkBefore_visits begins).mp ends
            rw [chain.visits.unique earlier] at listed
            exact fresh listed
          exact absurd visits (addAllToBottom_broken broken kept others all)
        · have fresh := ih (linkBefore_chain chain begins listed) different kept
            (fun x heads begins => by
              obtain rfl : w = x := Option.some.inj begins
              exact never (List.mem_of_head? heads)) others
          rintro x (_ | ⟨_,among⟩)
          · exact listed
          · exact fun present => fresh x among (List.mem_cons_of_mem w present)

theorem addAllToBottom_already {items : List Nat} (chain : Chain d items) (magic : (d.window first).magic = 1234) (begins : d.firstWindow = some first) :
    items ≠ [] ∧ wmAddWindowToBottom (some first) d = .ok d := by
  constructor
  · rintro rfl
    have empty := chain.visits
    rw [begins] at empty
    cases empty
  · exact (wmAddWindowToBottom_ok magic).mpr (.inl ⟨begins,rfl⟩)

theorem addAllToBottom_chain {items bottoms : List Nat} (chain : Chain d items) (distinct : bottoms.Nodup)
    (magic : ∀ w ∈ bottoms, (d.window w).magic = 1234) (fits : d.FitsBelow items bottoms) :
    ∃ t others, addAllToBottom bottoms d = .ok t ∧ SameWindows d t ∧ Chain t others ∧ ∀ w, w ∈ others ↔ w ∈ items ∨ w ∈ bottoms := by
  cases bottoms with
  | nil => exact ⟨d,items,rfl,.refl d,chain,by simp⟩
  | cons first later =>
      obtain ⟨start,fresh⟩ := fits
      have kept : ∀ w ∈ later, (d.window w).magic = 1234 := fun w among => magic w (List.mem_cons_of_mem first among)
      by_cases begins : d.firstWindow = some first
      · obtain ⟨some,skipped⟩ := addAllToBottom_already chain (magic first List.mem_cons_self) begins
        obtain ⟨t,added,same,longer⟩ := addAllToBottom_fits chain some (List.nodup_cons.mp distinct).2 kept fresh
        obtain ⟨x,rest,rfl,head⟩ := chain.first some
        obtain rfl : first = x := Option.some.inj (begins.symm.trans head)
        refine ⟨t,_,addAllToBottom_cons.mpr ⟨d,skipped,added⟩,same,longer,fun w => ?_⟩
        simp only [List.mem_append,List.mem_reverse,List.mem_cons]
        tauto
      · obtain ⟨some,unlisted⟩ := start.resolve_left begins
        obtain ⟨t,added,same,longer⟩ := addAllToBottom_fits chain some distinct magic fun w among => by
          rcases List.mem_cons.mp among with rfl | among
          · exact unlisted
          · exact fresh w among
        refine ⟨t,_,added,same,longer,fun w => ?_⟩
        rw [List.mem_append,List.mem_reverse,or_comm]

theorem addAllToBottom_needs {items bottoms all : List Nat} (chain : Chain d items) (distinct : bottoms.Nodup)
    (magic : ∀ w ∈ bottoms, (d.window w).magic = 1234) (added : addAllToBottom bottoms d = .ok t)
    (visits : Visits t.next t.firstWindow all none) : d.FitsBelow items bottoms := by
  cases bottoms with
  | nil => trivial
  | cons first later =>
      obtain ⟨never,different⟩ := List.nodup_cons.mp distinct
      by_cases begins : d.firstWindow = some first
      · obtain ⟨some,skipped⟩ := addAllToBottom_already chain (magic first List.mem_cons_self) begins
        obtain ⟨m,one,others⟩ := addAllToBottom_cons.mp added
        obtain rfl : d = m := Except.ok.inj (skipped.symm.trans one)
        refine ⟨.inl begins,addAllToBottom_only chain different (fun w among => magic w (List.mem_cons_of_mem first among)) ?_ others visits⟩
        intro x heads again
        obtain rfl : first = x := Option.some.inj (begins.symm.trans again)
        exact never (List.mem_of_head? heads)
      · have fresh := addAllToBottom_only chain distinct magic (fun x heads => by
          obtain rfl : first = x := Option.some.inj heads
          exact begins) added visits
        refine ⟨.inr ⟨?_,fresh first List.mem_cons_self⟩,fun w among => fresh w (List.mem_cons_of_mem first among)⟩
        rintro rfl
        obtain ⟨m,one,_⟩ := addAllToBottom_cons.mp added
        have empty : none = d.firstWindow := chain.visits.symm
        obtain ⟨same,_⟩ | ⟨_,same,_⟩ := (wmAddWindowToBottom_ok (magic first List.mem_cons_self)).mp one
        · exact begins same
        · cases empty.trans same

end Bottom

-- The windows that a rebuild finds in windowList.
def Desktop.registered (d : Desktop) : List Nat := ((List.range windowCountMax).filterMap d.windowList).filter (fun w => d.Overlapped w)

section Rebuild

theorem wmAddWindowToBottom_same (added : wmAddWindowToBottom (some w) d = .ok t) : SameWindows d t := by
  by_cases magic : (d.window w).magic = 1234
  · obtain ⟨_,rfl⟩ | ⟨first,_,_,rfl⟩ := (wmAddWindowToBottom_ok magic).mp added
    · exact .refl t
    · exact linkBefore_same d w first
  · simp only [wmAddWindowToBottom,if_pos (show (d.window w).magic ≠ 1234 from magic)] at added
    cases added
    exact .refl d

-- The additions leave what the loop reads, so the windows are those it finds at first.
theorem rebuild_eq [Monad m] [LawfulMonad m] {add : Option Nat → Desktop → m Desktop} (Result : m Desktop → Desktop → Prop)
    (bind_same : ∀ x (f g : Desktop → m Desktop), (∀ t, Result x t → f t = g t) → x >>= f = x >>= g)
    (keeps : ∀ w d t, Result (add (some w) d) t → SameWindows d t) (slots : List Nat) (d : Desktop) :
    slots.foldlM (rebuildEntry add) d =
      ((slots.filterMap d.windowList).filter (fun w => d.Overlapped w)).foldlM (fun d w => add (some w) d) d := by
  induction slots generalizing d with
  | nil => rfl
  | cons i rest ih =>
      rw [List.foldlM_cons]
      cases here : d.windowList i with
      | none =>
          simp only [rebuildEntry,here,pure_bind,List.filterMap_cons]
          exact ih d
      | some w =>
          by_cases overlapped : d.Overlapped w
          · simp only [rebuildEntry,here,if_pos overlapped.1,if_pos overlapped.2,List.filterMap_cons,List.filter_cons,
              decide_eq_true overlapped,if_true,List.foldlM_cons]
            apply bind_same
            intro t result
            have same := keeps w d t result
            rw [ih t,same.windowList]
            simp only [same.overlapped]
          · have passed : rebuildEntry add d i = pure d := by
              by_cases magic : (d.window w).magic = 1234
              · have type : (d.window w).type ≠ wtOverlapped := fun type => overlapped ⟨magic,type⟩
                simp only [rebuildEntry,here,if_pos magic,if_neg type]
              · simp only [rebuildEntry,here,if_neg magic]
            simp only [passed,pure_bind,here,List.filterMap_cons,List.filter_cons,decide_eq_false overlapped,Bool.false_eq_true,if_false]
            exact ih d

theorem wmRebuildList_eq (fuel : Nat) (d : Desktop) :
    wmRebuildList fuel d = d.registered.foldlM (fun d w => wmAddWindowToTop fuel (some w) d) d := by
  refine rebuild_eq (fun x t => x = some t) ?_ (fun w d t added => wmAddWindowToTop_same added) (List.range windowCountMax) d
  intro x f g same
  cases x with
  | none => rfl
  | some t => exact same t rfl

theorem wmRebuildList2_eq (d : Desktop) : wmRebuildList2 d = addAllToBottom d.registered d := by
  refine rebuild_eq (fun x t => x = .ok t) ?_ (fun w d t added => wmAddWindowToBottom_same added) (List.range windowCountMax) d
  intro x f g same
  cases x with
  | error halt => rfl
  | ok t => exact same t rfl

theorem registered_overlapped {d : Desktop} (among : w ∈ d.registered) : d.Overlapped w := of_decide_eq_true (List.mem_filter.mp among).2

end Rebuild

end GramadoKernel
