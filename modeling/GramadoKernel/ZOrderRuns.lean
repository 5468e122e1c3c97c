import GramadoKernel.Library.Runs
import GramadoKernel.ZOrder

open Linked Loops
namespace GramadoKernel

inductive WindowCall where
  | create (w type : Nat) (parent : Option Nat)
  | register (w : Nat)
  | addToTop (window : Option Nat)
  | addToBottom (window : Option Nat)
  | removeFromList (window : Option Nat)
  | rebuildList
  | rebuildList2

-- The result with some fuel. There is none in it where the call has not returned.
def WindowCall.on (call : WindowCall) (fuel : Nat) (d : Desktop) : Except Halt (Option Desktop) :=
  match call with
  | .create w type parent => .ok (some (createWindow w type parent d))
  | .register w => .ok (some (registerWindow w d))
  | .addToTop window => .ok (wmAddWindowToTop fuel window d)
  | .addToBottom window => (wmAddWindowToBottom window d).map some
  | .removeFromList window => .ok (wmRemoveWindowFromList fuel window d)
  | .rebuildList => .ok (wmRebuildList fuel d)
  | .rebuildList2 => (wmRebuildList2 d).map some

def WindowCall.Returns (call : WindowCall) (d t : Desktop) : Prop := ∃ fuel, call.on fuel d = .ok (some t)

-- malloc gives a new address, a window is registered once, and a pointer is NULL or
-- points to a window.
def WindowCall.Allowed (d : Desktop) : WindowCall → Prop
  | .create w _ _ => d.created w = false
  | .register w => d.created w = true ∧ ∀ i, d.windowList i ≠ some w
  | .addToTop window => ∀ w, window = some w → d.created w = true
  | .addToBottom window => ∀ w, window = some w → d.created w = true
  | .removeFromList window => ∀ w, window = some w → d.created w = true
  | .rebuildList => True
  | .rebuildList2 => True

-- The windows that a call adds to the top, and to the bottom, in their order.
def WindowCall.tops (d : Desktop) : WindowCall → List Nat
  | .addToTop window => window.toList.filter (fun w => d.Overlapped w)
  | .rebuildList => d.registered
  | _ => []

def WindowCall.bottoms (d : Desktop) : WindowCall → List Nat
  | .addToBottom window => window.toList.filter (fun w => (d.window w).magic = 1234)
  | .rebuildList2 => d.registered
  | _ => []

-- The display server with the windows that have been added to the list so far.
structure Session where
  desktop : Desktop
  added : Nat → Prop

def Session.after (s : Session) (call : WindowCall) (t : Desktop) : Session where
  desktop := t
  added := fun w => s.added w ∨ w ∈ call.tops s.desktop ∨ w ∈ call.bottoms s.desktop

-- A window that the list has to have. The removal of a window ends its life.
def Session.Kept (s : Session) (w : Nat) : Prop := s.added w ∧ s.desktop.Valid w ∧ s.desktop.Overlapped w

-- A traversal ends, its last window is last_window, it meets no window twice, and it meets
-- every live window that was added.
def Session.Ordered (s : Session) : Prop :=
  ∃ fuel items, s.desktop.traversed fuel s.desktop.firstWindow = some items ∧ items.getLast? = s.desktop.lastWindow ∧
    items.Nodup ∧ ∀ w, s.Kept w → w ∈ items

-- The call returns and leaves such a list.
def WindowCall.Laws (s : Session) (call : WindowCall) : Prop := ∃ t, call.Returns s.desktop t ∧ (s.after call t).Ordered

-- None of the later windows stands before the first one, and every live window stands
-- there or is added again.
def Session.FitsOnTop (s : Session) (items : List Nat) : List Nat → Prop
  | [] => True
  | first :: later =>
      (∀ w ∈ later, w ∉ before first (s.desktop.standing items)) ∧
        ∀ w, s.Kept w → w ∈ before first (s.desktop.standing items) ∨ w ∈ first :: later

def WindowCall.Meets (s : Session) (call : WindowCall) : Prop :=
  ∀ fuel items, s.desktop.traversed fuel s.desktop.firstWindow = some items →
    s.FitsOnTop items (call.tops s.desktop) ∧ s.desktop.FitsBelow items (call.bottoms s.desktop)

-- What runs keep beside the order of the list.
structure Session.Sound (s : Session) (items : List Nat) : Prop where
  chain : Chain s.desktop items
  complete : ∀ w, s.Kept w → w ∈ items
  created : ∀ w ∈ items, s.desktop.created w = true
  used : ∀ w, (s.desktop.window w).magic = 1234 → (s.desktop.window w).used = true
  added : ∀ w, s.added w → s.desktop.created w = true
  registered : ∀ i w, s.desktop.windowList i = some w → s.desktop.created w = true
  once : ∀ i j w, s.desktop.windowList i = some w → s.desktop.windowList j = some w → i = j

theorem ordered_iff {s : Session} :
    s.Ordered ↔ ∃ items, Chain s.desktop items ∧ ∀ w, s.Kept w → w ∈ items := by
  constructor
  · rintro ⟨fuel,items,traversed,last,_,complete⟩
    exact ⟨items,⟨traversed_visits traversed,last⟩,complete⟩
  · rintro ⟨items,chain,complete⟩
    obtain ⟨fuel,traversed⟩ := (traversed_settles chain.visits).result_iff.mpr rfl
    exact ⟨fuel,items,traversed,chain.last,chain.visits.nodup,complete⟩

section Steps

variable {s : Session} {items : List Nat} {call : WindowCall}

theorem Session.Sound.valid (sound : s.Sound items) (magic : (s.desktop.window w).magic = 1234) : s.desktop.Valid w := ⟨sound.used w magic,magic⟩

theorem standing_subset (d : Desktop) (items : List Nat) : d.standing items ⊆ items := by
  unfold Desktop.standing
  split
  · exact List.nil_subset items
  · exact List.Subset.refl items

theorem Session.Sound.standing_nodup (sound : s.Sound items) : (s.desktop.standing items).Nodup := by
  unfold Desktop.standing
  split
  · exact List.nodup_nil
  · exact sound.chain.visits.nodup

theorem Session.Sound.registered_nodup (sound : s.Sound items) : s.desktop.registered.Nodup := by
  apply List.Nodup.filter
  refine List.Nodup.filterMap ?_ List.nodup_range
  intro i j w one two
  exact sound.once i j w one two

theorem Session.Sound.registered_created (sound : s.Sound items) (among : w ∈ s.desktop.registered) : s.desktop.created w = true := by
  obtain ⟨i,_,found⟩ := List.mem_filterMap.mp (List.mem_filter.mp among).1
  exact sound.registered i w found

theorem Session.Sound.traversed (sound : s.Sound items) {fuel : Nat} {others : List Nat}
    (traversed : s.desktop.traversed fuel s.desktop.firstWindow = some others) : others = items :=
  (traversed_visits traversed).unique sound.chain.visits

theorem Session.Sound.ordered (sound : s.Sound items) : s.Ordered := ordered_iff.mpr ⟨items,sound.chain,sound.complete⟩

theorem Session.Sound.meets_iff (sound : s.Sound items) :
    call.Meets s ↔ s.FitsOnTop items (call.tops s.desktop) ∧ s.desktop.FitsBelow items (call.bottoms s.desktop) := by
  constructor
  · intro meets
    obtain ⟨fuel,traversed⟩ := (traversed_settles sound.chain.visits).result_iff.mpr rfl
    exact meets fuel items traversed
  · intro fits fuel others traversed
    rw [sound.traversed traversed]
    exact fits

theorem kept_after {t : Desktop} (same : SameWindows s.desktop t) :
    (s.after call t).Kept w ↔
      (s.added w ∨ w ∈ call.tops s.desktop ∨ w ∈ call.bottoms s.desktop) ∧ s.desktop.Valid w ∧ s.desktop.Overlapped w :=
  and_congr_right fun _ => and_congr (same.valid w) (same.overlapped w)

-- A call that only links windows.
theorem Session.Sound.linked {t : Desktop} {others : List Nat} (sound : s.Sound items) (same : SameWindows s.desktop t) (chain : Chain t others)
    (complete : ∀ w, (s.after call t).Kept w → w ∈ others) (inside : ∀ w ∈ others, s.desktop.created w = true)
    (tops : ∀ w ∈ call.tops s.desktop, s.desktop.created w = true) (bottoms : ∀ w ∈ call.bottoms s.desktop, s.desktop.created w = true) :
    (s.after call t).Sound others where
  chain := chain
  complete := complete
  created := fun w among => (congrFun same.created w).trans (inside w among)
  used := fun w magic => (same.used w).trans (sound.used w ((same.magic w).symm.trans magic))
  added := by
    intro w added
    refine (congrFun same.created w).trans ?_
    rcases added with before | top | bottom
    · exact sound.added w before
    · exact tops w top
    · exact bottoms w bottom
  registered := by
    intro i w found
    exact (congrFun same.created w).trans (sound.registered i w ((congrFun same.windowList i).symm.trans found))
  once := by
    intro i j w one two
    exact sound.once i j w ((congrFun same.windowList i).symm.trans one) ((congrFun same.windowList j).symm.trans two)

-- What is to be shown of a call: it meets the laws exactly under its condition, and then
-- the runs go on.
def WindowCall.Steps (s : Session) (call : WindowCall) : Prop :=
  (call.Laws s ↔ call.Meets s) ∧ (call.Meets s → ∀ t, call.Returns s.desktop t → ∃ items, (s.after call t).Sound items)

theorem steps_of {t : Desktop} (result : ∀ u, call.Returns s.desktop u ↔ u = t) (only : (s.after call t).Ordered → call.Meets s)
    (sound : call.Meets s → ∃ items, (s.after call t).Sound items) : call.Steps s := by
  refine ⟨⟨?_,?_⟩,?_⟩
  · rintro ⟨u,returns,ordered⟩
    rw [(result u).mp returns] at ordered
    exact only ordered
  · intro meets
    obtain ⟨_,sound⟩ := sound meets
    exact ⟨t,(result t).mpr rfl,sound.ordered⟩
  · intro meets u returns
    rw [(result u).mp returns]
    exact sound meets

theorem returns_iff_of_settles {f : Nat → Option Desktop} {t : Desktop} (on : ∀ fuel, call.on fuel s.desktop = .ok (f fuel))
    (settles : Settles f t) (u : Desktop) : call.Returns s.desktop u ↔ u = t := by
  simp only [WindowCall.Returns,on,Except.ok.injEq]
  exact settles.result_iff

theorem top_steps (sound : s.Sound items)
    (on : ∀ fuel, call.on fuel s.desktop = .ok ((call.tops s.desktop).foldlM (fun d w => wmAddWindowToTop fuel (some w) d) s.desktop))
    (bottoms : call.bottoms s.desktop = []) (distinct : (call.tops s.desktop).Nodup)
    (good : ∀ w ∈ call.tops s.desktop, s.desktop.Overlapped w) (created : ∀ w ∈ call.tops s.desktop, s.desktop.created w = true) : call.Steps s := by
  have valid : ∀ w ∈ call.tops s.desktop, s.desktop.Valid w ∧ s.desktop.Overlapped w := fun w top => ⟨sound.valid (good w top).1,good w top⟩
  obtain ⟨t,settles,same,chain⟩ := addAllToTop sound.chain valid
  have kept : ∀ w, (s.after call t).Kept w ↔ s.Kept w ∨ w ∈ call.tops s.desktop := by
    intro w
    rw [kept_after same,bottoms]
    constructor
    · rintro ⟨before | top | none,live⟩
      · exact .inl ⟨before,live⟩
      · exact .inr top
      · cases none
    · rintro (⟨before,live⟩ | top)
      · exact ⟨.inl before,live⟩
      · exact ⟨.inr (.inl top),valid w top⟩
  have exactly : call.Meets s ↔ ∀ w, (s.after call t).Kept w →
      w ∈ (if call.tops s.desktop = [] then items else (call.tops s.desktop).foldl raise (s.desktop.standing items)) := by
    rw [sound.meets_iff,bottoms]
    simp only [kept]
    cases tops : call.tops s.desktop with
    | nil => simpa [Session.FitsOnTop,Desktop.FitsBelow] using sound.complete
    | cons first later =>
        rw [tops] at distinct
        simp only [if_neg (List.cons_ne_nil first later)]
        rw [raise_all_iff (sound.standing_nodup) distinct s.Kept]
        exact and_iff_left trivial
  apply steps_of (returns_iff_of_settles on settles)
  · intro ordered
    obtain ⟨others,found,complete⟩ := ordered_iff.mp ordered
    rw [← found.visits.unique chain.visits] at exactly
    exact exactly.mpr complete
  · intro meets
    refine ⟨_,sound.linked same chain (exactly.mp meets) ?_ created (by simp [bottoms])⟩
    intro w among
    by_contra fresh
    have unlisted : w ∉ items := fun listed => fresh (sound.created w listed)
    have untouched : w ∉ call.tops s.desktop := fun top => fresh (created w top)
    split at among
    · exact unlisted among
    · exact raise_all_missing (fun stands => unlisted (standing_subset s.desktop items stands)) untouched among

theorem bottom_steps (sound : s.Sound items)
    (on : ∀ fuel, call.on fuel s.desktop = (addAllToBottom (call.bottoms s.desktop) s.desktop).map some)
    (tops : call.tops s.desktop = []) (distinct : (call.bottoms s.desktop).Nodup)
    (magic : ∀ w ∈ call.bottoms s.desktop, (s.desktop.window w).magic = 1234)
    (created : ∀ w ∈ call.bottoms s.desktop, s.desktop.created w = true) : call.Steps s := by
  have meets : call.Meets s ↔ s.desktop.FitsBelow items (call.bottoms s.desktop) := by
    rw [sound.meets_iff,tops]
    exact and_iff_right trivial
  cases added : addAllToBottom (call.bottoms s.desktop) s.desktop with
  | error halt =>
      have none : ¬ call.Meets s := by
        intro fits
        obtain ⟨t,_,result,_⟩ := addAllToBottom_chain sound.chain distinct magic (meets.mp fits)
        rw [added] at result
        cases result
      refine ⟨iff_of_false ?_ none,fun fits => absurd fits none⟩
      rintro ⟨t,⟨fuel,returns⟩,_⟩
      rw [on,added] at returns
      cases returns
  | ok t =>
      have result : ∀ u, call.Returns s.desktop u ↔ u = t := by
        intro u
        simp only [WindowCall.Returns,on,added]
        constructor
        · rintro ⟨_,same⟩
          cases same
          rfl
        · rintro rfl
          exact ⟨0,rfl⟩
      apply steps_of result
      · intro ordered
        obtain ⟨others,chain,_⟩ := ordered_iff.mp ordered
        exact meets.mpr (addAllToBottom_needs sound.chain distinct magic added chain.visits)
      · intro fits
        obtain ⟨u,others,same,windows,chain,among⟩ := addAllToBottom_chain sound.chain distinct magic (meets.mp fits)
        obtain rfl : t = u := Except.ok.inj (added.symm.trans same)
        refine ⟨others,sound.linked windows chain ?_ ?_ (by simp [tops]) created⟩
        · intro w kept
          obtain ⟨before | top | bottom,live⟩ := (kept_after windows).mp kept
          · exact (among w).mpr (.inl (sound.complete w ⟨before,live⟩))
          · rw [tops] at top
            cases top
          · exact (among w).mpr (.inr bottom)
        · intro w listed
          cases (among w).mp listed with
          | inl before => exact sound.created w before
          | inr bottom => exact created w bottom

-- A call that adds no window.
theorem steps_plain {t : Desktop} {others : List Nat} (tops : call.tops s.desktop = []) (bottoms : call.bottoms s.desktop = [])
    (result : ∀ u, call.Returns s.desktop u ↔ u = t) (sound : (s.after call t).Sound others) : call.Steps s := by
  have meets : call.Meets s := by
    intro fuel items _
    rw [tops,bottoms]
    exact ⟨trivial,trivial⟩
  exact steps_of result (fun _ => meets) fun _ => ⟨others,sound⟩

theorem returns_of_on {t : Desktop} (on : ∀ fuel, call.on fuel s.desktop = .ok (some t)) (u : Desktop) : call.Returns s.desktop u ↔ u = t :=
  returns_iff_of_settles on (.pure t) u

theorem create_steps (sound : s.Sound items) (w type : Nat) (parent : Option Nat) (fresh : s.desktop.created w = false) :
    (WindowCall.create w type parent).Steps s := by
  have elsewhere : ∀ x, s.desktop.created x = true → x ≠ w := by
    rintro x old rfl
    rw [fresh] at old
    cases old
  have window : ∀ x, x ≠ w → (createWindow w type parent s.desktop).window x = s.desktop.window x := fun x apart => Function.update_of_ne apart _ _
  have created : ∀ x, s.desktop.created x = true → (createWindow w type parent s.desktop).created x = true := fun x old =>
    (Function.update_of_ne (elsewhere x old) _ _).trans old
  have kept : ∀ x, (s.after (.create w type parent) (createWindow w type parent s.desktop)).Kept x → s.Kept x := by
    rintro x ⟨added | none | none,valid,overlapped⟩
    · have same := window x (elsewhere x (sound.added x added))
      simp only [Session.after,Desktop.Valid,Desktop.Overlapped,same] at valid overlapped
      exact ⟨added,valid,overlapped⟩
    · cases none
    · cases none
  apply steps_plain rfl rfl (returns_of_on fun _ => rfl)
  refine ⟨⟨?_,sound.chain.last⟩,fun x here => sound.complete x (kept x here),fun x among => created x (sound.created x among),?_,?_,?_,sound.once⟩
  · apply sound.chain.visits.congr
    intro x among
    exact congrArg Window.next (window x (elsewhere x (sound.created x among)))
  · intro x magic
    by_cases here : x = w
    · subst here
      have given : (createWindow x type parent s.desktop).window x = _ := Function.update_self _ _ _
      simp only [Session.after,given]
    · simp only [Session.after,window x here] at magic ⊢
      exact sound.used x magic
  · rintro x (added | none | none)
    · exact created x (sound.added x added)
    · cases none
    · cases none
  · intro i x found
    exact created x (sound.registered i x found)

-- A registration fills a free place of windowList or none.
theorem registerWindow_list (w : Nat) (d : Desktop) :
    ∃ count list, registerWindow w d = {d with windowsCount := count, windowList := list} ∧
      (list = d.windowList ∨ ∃ slot, d.windowList slot = none ∧ list = Function.update d.windowList slot (some w)) := by
  simp only [registerWindow]
  split
  · exact ⟨_,_,rfl,.inl rfl⟩
  · cases found : (List.range windowCountMax).find? (fun i => (d.windowList i).isNone) with
    | none => exact ⟨_,_,rfl,.inl rfl⟩
    | some slot =>
        have free := List.find?_some found
        exact ⟨_,_,rfl,.inr ⟨slot,Option.isNone_iff_eq_none.mp free,rfl⟩⟩

theorem register_steps (sound : s.Sound items) (w : Nat) (created : s.desktop.created w = true) (unregistered : ∀ i, s.desktop.windowList i ≠ some w) :
    (WindowCall.register w).Steps s := by
  obtain ⟨count,list,result,filled⟩ := registerWindow_list w s.desktop
  suffices registered : (s.after (.register w) (registerWindow w s.desktop)).Sound items from
    steps_plain rfl rfl (returns_of_on fun _ => rfl) registered
  have known : ∀ x, (s.after (.register w) (registerWindow w s.desktop)).added x → s.added x := by
    rintro x (added | none | none)
    · exact added
    · cases none
    · cases none
  rw [result] at known ⊢
  refine ⟨⟨sound.chain.visits,sound.chain.last⟩,fun x kept => sound.complete x ⟨known x kept.1,kept.2⟩,sound.created,sound.used,
    fun x added => sound.added x (known x added),?_,?_⟩
  · rintro i x (found : list i = some x)
    obtain rfl | ⟨slot,free,rfl⟩ := filled
    · exact sound.registered i x found
    · by_cases here : i = slot
      · rw [here,Function.update_self] at found
        exact Option.some.inj found ▸ created
      · rw [Function.update_of_ne here] at found
        exact sound.registered i x found
  · rintro i j x (one : list i = some x) (two : list j = some x)
    obtain rfl | ⟨slot,free,rfl⟩ := filled
    · exact sound.once i j x one two
    · by_cases first : i = slot
      · by_cases second : j = slot
        · exact first.trans second.symm
        · rw [first,Function.update_self] at one
          rw [Function.update_of_ne second,← one] at two
          exact absurd two (unregistered j)
      · rw [Function.update_of_ne first] at one
        by_cases second : j = slot
        · rw [second,Function.update_self] at two
          rw [← two] at one
          exact absurd one (unregistered i)
        · rw [Function.update_of_ne second] at two
          exact sound.once i j x one two

-- A window is removed in that it is marked as dead. It stays in the list.
theorem Session.Sound.killed (sound : s.Sound items) (window : Option Nat) (w : Nat) :
    (s.after (.removeFromList window) (s.desktop.killed w)).Sound items := by
  have links : (s.desktop.killed w).next = s.desktop.next := (setWindow_next _ w _).trans (Function.update_eq_self w s.desktop.next)
  have dead : (s.desktop.killed w).window w = _ := Function.update_self _ _ _
  have others : ∀ x, x ≠ w → (s.desktop.killed w).window x = s.desktop.window x := fun x apart => Function.update_of_ne apart _ _
  have known : ∀ x, (s.after (.removeFromList window) (s.desktop.killed w)).added x → s.added x := by
    rintro x (added | none | none)
    · exact added
    · cases none
    · cases none
  refine ⟨⟨?_,sound.chain.last⟩,?_,sound.created,?_,fun x added => sound.added x (known x added),sound.registered,sound.once⟩
  · simp only [Session.after,links]
    exact sound.chain.visits
  · rintro x ⟨added,valid,overlapped⟩
    by_cases here : x = w
    · subst here
      simp [Session.after,Desktop.Valid,dead] at valid
    · simp only [Session.after,Desktop.Valid,Desktop.Overlapped,others x here] at valid overlapped
      exact sound.complete x ⟨known x added,valid,overlapped⟩
  · intro x magic
    by_cases here : x = w
    · subst here
      simp [Session.after,dead] at magic
    · simp only [Session.after,others x here] at magic ⊢
      exact sound.used x magic

theorem Session.Sound.unchanged (sound : s.Sound items) (window : Option Nat) : (s.after (.removeFromList window) s.desktop).Sound items := by
  refine sound.linked (.refl _) sound.chain ?_ sound.created (fun w none => by cases none) (fun w none => by cases none)
  rintro w ⟨added | none | none,live⟩
  · exact sound.complete w ⟨added,live⟩
  · cases none
  · cases none

theorem remove_steps (sound : s.Sound items) (window : Option Nat) : (WindowCall.removeFromList window).Steps s := by
  cases window with
  | none => exact steps_plain rfl rfl (returns_of_on fun _ => rfl) (sound.unchanged none)
  | some w =>
      have settles := removed_settles sound.chain.visits w
      have removed : (s.after (.removeFromList (some w)) (if w ∈ items then s.desktop.killed w else s.desktop)).Sound items := by
        split
        · exact sound.killed (some w) w
        · exact sound.unchanged (some w)
      exact steps_plain rfl rfl (returns_iff_of_settles (fun _ => rfl) settles) removed

theorem addToTop_on (window : Option Nat) (fuel : Nat) (d : Desktop) :
    wmAddWindowToTop fuel window d = (WindowCall.tops d (.addToTop window)).foldlM (fun d w => wmAddWindowToTop fuel (some w) d) d := by
  cases window with
  | none => rfl
  | some w =>
      by_cases overlapped : d.Overlapped w
      · simp only [WindowCall.tops,Option.toList_some,List.filter_cons,decide_eq_true overlapped,if_true,List.filter_nil,List.foldlM_cons,
          List.foldlM_nil,bind_pure]
      · simp only [WindowCall.tops,Option.toList_some,List.filter_cons,decide_eq_false overlapped,Bool.false_eq_true,if_false,List.filter_nil,
          List.foldlM_nil]
        exact wmAddWindowToTop_other fuel fun good => overlapped good.2

theorem addToBottom_on (window : Option Nat) (d : Desktop) :
    wmAddWindowToBottom window d = addAllToBottom (WindowCall.bottoms d (.addToBottom window)) d := by
  cases window with
  | none => rfl
  | some w =>
      by_cases magic : (d.window w).magic = 1234
      · simp only [WindowCall.bottoms,addAllToBottom,Option.toList_some,List.filter_cons,decide_eq_true magic,if_true,List.filter_nil,
          List.foldlM_cons,List.foldlM_nil,bind_pure]
      · simp only [WindowCall.bottoms,addAllToBottom,Option.toList_some,List.filter_cons,List.filter_nil,wmAddWindowToBottom,ne_eq,magic,
          not_false_eq_true,if_true]
        rfl

theorem toList_nodup (window : Option Nat) : window.toList.Nodup := by
  cases window with
  | none => exact List.nodup_nil
  | some w => exact List.nodup_singleton w

theorem call_steps (sound : s.Sound items) (allowed : call.Allowed s.desktop) : call.Steps s := by
  cases call with
  | create w type parent => exact create_steps sound w type parent allowed
  | register w => exact register_steps sound w allowed.1 allowed.2
  | addToTop window =>
      refine top_steps sound (fun fuel => congrArg Except.ok (addToTop_on window fuel s.desktop)) rfl ((toList_nodup window).filter _) ?_ ?_
      · intro w top
        exact of_decide_eq_true (List.mem_filter.mp top).2
      · intro w top
        exact allowed w (Option.mem_toList.mp (List.mem_filter.mp top).1)
  | addToBottom window =>
      refine bottom_steps sound (fun fuel => congrArg (Except.map some) (addToBottom_on window s.desktop)) rfl ((toList_nodup window).filter _) ?_ ?_
      · intro w bottom
        exact of_decide_eq_true (List.mem_filter.mp bottom).2
      · intro w bottom
        exact allowed w (Option.mem_toList.mp (List.mem_filter.mp bottom).1)
  | removeFromList window => exact remove_steps sound window
  | rebuildList =>
      exact top_steps sound (fun fuel => congrArg Except.ok (wmRebuildList_eq fuel s.desktop)) rfl sound.registered_nodup
        (fun w top => registered_overlapped top) fun w top => sound.registered_created top
  | rebuildList2 =>
      have on : ∀ fuel, WindowCall.on .rebuildList2 fuel s.desktop = (addAllToBottom s.desktop.registered s.desktop).map some := by
        intro fuel
        rw [WindowCall.on,wmRebuildList2_eq]
      exact bottom_steps sound on rfl sound.registered_nodup
        (fun w bottom => (registered_overlapped (d := s.desktop) bottom).1) fun w bottom => sound.registered_created bottom

end Steps

-- Before the first window.
def bootDesktop : Desktop where
  window := fun _ => {}
  created := fun _ => false
  firstWindow := none
  lastWindow := none
  activeWindow := none
  keyboardOwner := none
  mouseOwner := none
  windowList := fun _ => none
  windowsCount := 0

def bootSession : Session where
  desktop := bootDesktop
  added := fun _ => False

def Session.Turn (s : Session) (call : WindowCall) (t : Session) : Prop :=
  call.Allowed s.desktop ∧ ∃ d, call.Returns s.desktop d ∧ t = s.after call d

theorem boot_sound : bootSession.Sound [] where
  chain := ⟨rfl,rfl⟩
  complete := by
    rintro w ⟨none,_⟩
    cases none
  created := by
    intro w none
    cases none
  used := by
    intro w none
    cases none
  added := by
    intro w none
    cases none
  registered := by
    intro i w none
    cases none
  once := by
    intro i j w none
    cases none

-- The list stays in order in every run whose calls all meet the condition, and the next
-- call leaves it in order exactly when it meets it too.
theorem z_order_laws {calls : List WindowCall} {s : Session}
    (run : Runs.Path (fun s (call : WindowCall) t => call.Meets s ∧ s.Turn call t) bootSession calls s) :
    s.Ordered ∧ ∀ call : WindowCall, call.Allowed s.desktop → (call.Laws s ↔ call.Meets s) := by
  obtain ⟨items,sound⟩ : ∃ items, s.Sound items := by
    refine run.invariant (fun s => ∃ items, s.Sound items) ?_ ⟨[],boot_sound⟩
    rintro s call t ⟨items,sound⟩ ⟨meets,allowed,d,returns,rfl⟩
    exact (call_steps sound allowed).2 meets d returns
  exact ⟨sound.ordered,fun call allowed => (call_steps sound allowed).1⟩

-- One window, created and added.
theorem z_order_laws_single :
    let created : Session := bootSession.after (.create 0 wtOverlapped none) (createWindow 0 wtOverlapped none bootDesktop)
    let added : Session := created.after (.addToTop (some 0)) ({created.desktop with firstWindow := some 0, lastWindow := some 0}.addedToTop 0)
    added.Ordered ∧ ∀ call : WindowCall, call.Allowed added.desktop → (call.Laws added ↔ call.Meets added) := by
  intro created added
  have free : (WindowCall.create 0 wtOverlapped none).Meets bootSession := fun fuel items _ => ⟨trivial,trivial⟩
  have none_kept : ∀ w, ¬ created.Kept w := by
    rintro w ⟨none | none | none,_⟩
    · cases none
    · cases none
    · cases none
  have fits : (WindowCall.addToTop (some 0)).Meets created := by
    intro fuel items _
    refine ⟨⟨?_,fun w kept => absurd kept (none_kept w)⟩,trivial⟩
    intro w none
    cases none
  have valid : ∀ w, some 0 = some w → created.desktop.created w = true := by
    rintro w ⟨⟩
    rfl
  exact z_order_laws (.step (.step .nil ⟨free,rfl,_,⟨0,rfl⟩,rfl⟩) ⟨fits,valid,_,⟨0,rfl⟩,rfl⟩)

theorem not_ordered_of_cycle {s : Session} (first : s.desktop.firstWindow = some a) (there : s.desktop.next a = some b)
    (back : s.desktop.next b = some a) : ¬ s.Ordered := by
  intro ordered
  obtain ⟨items,chain,_⟩ := ordered_iff.mp ordered
  have visits := chain.visits
  have distinct := visits.nodup
  rw [first] at visits
  cases items with
  | nil => cases visits
  | cons x rest =>
      obtain ⟨same,later⟩ := visits
      cases same
      rw [there] at later
      cases rest with
      | nil => cases later
      | cons y more =>
          obtain ⟨same,later⟩ := later
          cases same
          rw [back] at later
          cases more with
          | nil => cases later
          | cons z others =>
              cases later.1
              simp at distinct

theorem not_ordered_of_lost {s : Session} (first : s.desktop.firstWindow = some a) (ends : s.desktop.next a = none)
    (kept : s.Kept w) (apart : w ≠ a) : ¬ s.Ordered := by
  intro ordered
  obtain ⟨items,chain,complete⟩ := ordered_iff.mp ordered
  have single : Visits s.desktop.next s.desktop.firstWindow [a] none := ⟨first,ends⟩
  have present := complete w kept
  rw [chain.visits.unique single] at present
  exact apart (List.mem_singleton.mp present)

-- Two windows, created and added one after the other.
def twoListed : Session :=
  let one := createWindow 0 wtOverlapped none bootDesktop
  let two := createWindow 1 wtOverlapped none one
  let first := {two with firstWindow := some 0, lastWindow := some 0}.addedToTop 0
  (((bootSession.after (.create 0 wtOverlapped none) one).after (.create 1 wtOverlapped none) two).after (.addToTop (some 0)) first).after
    (.addToTop (some 1)) ((first.linkAfter 0 1).addedToTop 1)

def twoListedCalls : List WindowCall := [.create 0 wtOverlapped none,.create 1 wtOverlapped none,.addToTop (some 0),.addToTop (some 1)]

theorem created_points {d : Desktop} (created : d.created w = true) : ∀ x, some w = some x → d.created x = true := by
  rintro x ⟨⟩
  exact created

theorem two_listed_run : Runs.Path Session.Turn bootSession twoListedCalls twoListed :=
  .step (.step (.step (.step .nil ⟨rfl,_,⟨0,rfl⟩,rfl⟩) ⟨rfl,_,⟨0,rfl⟩,rfl⟩) ⟨created_points rfl,_,⟨0,rfl⟩,rfl⟩) ⟨created_points rfl,_,⟨1,rfl⟩,rfl⟩

-- The last window goes below the first and the list is a cycle. The first window goes to
-- the top and the second is lost. A window is added while the first is dead and the second
-- is lost.
theorem z_order_deviates :
    (∃ s, Runs.Path Session.Turn bootSession (twoListedCalls ++ [.addToBottom (some 1)]) s ∧ ¬ s.Ordered) ∧
    (∃ s, Runs.Path Session.Turn bootSession (twoListedCalls ++ [.addToTop (some 0)]) s ∧ ¬ s.Ordered) ∧
    (∃ s, Runs.Path Session.Turn bootSession
      (twoListedCalls ++ [.create 2 wtOverlapped none] ++ [.removeFromList (some 0)] ++ [.addToTop (some 2)]) s ∧ ¬ s.Ordered) := by
  refine ⟨⟨_,.step two_listed_run ⟨created_points rfl,_,⟨0,rfl⟩,rfl⟩,?_⟩,⟨_,.step two_listed_run ⟨created_points rfl,_,⟨2,rfl⟩,rfl⟩,?_⟩,
    ⟨_,.step (.step (.step two_listed_run ⟨rfl,_,⟨0,rfl⟩,rfl⟩) ⟨created_points rfl,_,⟨1,rfl⟩,rfl⟩) ⟨created_points rfl,_,⟨0,rfl⟩,rfl⟩,?_⟩⟩
  · exact not_ordered_of_cycle (a := 1) (b := 0) rfl rfl rfl
  · refine not_ordered_of_lost (a := 0) (w := 1) rfl rfl ⟨?_,⟨rfl,rfl⟩,rfl,rfl⟩ (by decide)
    exact .inl (.inr (.inl List.mem_cons_self))
  · refine not_ordered_of_lost (a := 2) (w := 1) rfl rfl ⟨?_,⟨rfl,rfl⟩,rfl,rfl⟩ (by decide)
    exact .inl (.inl (.inl (.inr (.inl List.mem_cons_self))))

end GramadoKernel
