import GramadoKernel.WindowEvents
import Mathlib.Data.List.Induction

namespace GramadoKernel

-- wt.h, window.h and protocol.h
def wtEditbox : Nat := 2
def wtEditboxMultipleLines : Nat := 7
def wtButton : Nat := 8
def bsReleased : Int32 := 1
def bsFocus : Int32 := 2
def gwsMouseClicked : Int32 := 37

-- The other fields of struct gws_window_d that a release reads or writes.
structure Widget where
  absoluteX : UInt64 := 0
  absoluteY : UInt64 := 0
  absoluteRight : UInt64 := 0
  absoluteBottom : UInt64 := 0
  ipX : UInt64 := 0
  ipY : UInt64 := 0
  parent : Option Nat := none
  isControl : Bool := false
  status : Int32 := 0
  enabled : Bool := true
  hasEvent : Bool := false
  clientTid : Int32 := -1

-- The display server, with the position of the pointer and the thread that it has
-- last made the foreground thread.
structure MouseServer where
  events : EventServer
  widget : Nat → Widget
  mouseHover : Option Nat
  taskbarWindow : Option Nat
  mouseX : Int64
  mouseY : Int64
  foregroundTid : Option Int32

def MouseServer.window (s : MouseServer) (w : Nat) : Window := s.events.desktop.window w

def MouseServer.setDesktop (s : MouseServer) (d : Desktop) : MouseServer := {s with events := {s.events with desktop := d}}

def MouseServer.setWidget (s : MouseServer) (w : Nat) (widget : Widget) : MouseServer := {s with widget := Function.update s.widget w widget}

def MouseServer.Editable (s : MouseServer) (w : Nat) : Prop :=
  (s.window w).type = wtEditbox ∨ (s.window w).type = wtEditboxMultipleLines

instance (s : MouseServer) (w : Nat) : Decidable (s.Editable w) := inferInstanceAs (Decidable (_ ∨ _))

-- The beginning of set_focus for a window that can have the focus: its parent becomes
-- the active window.
def activateParent (window : Nat) (s : MouseServer) : MouseServer :=
  match (s.widget window).parent with
  | none => s
  | some p =>
      if (s.window p).magic = 1234 ∧ some p ≠ s.events.desktop.activeWindow ∧ (s.window p).type = wtOverlapped then
        s.setDesktop (setActiveWindow (some p) s.events.desktop)
      else s

-- set_focus, without the drawing.
def setFocus (window : Nat) (s : MouseServer) : MouseServer :=
  if (s.window window).used ≠ true then s
  else if (s.window window).magic ≠ 1234 then s
  else if some window = s.events.desktop.keyboardOwner then s.setWidget window {s.widget window with enabled := true}
  else
    let tid := (s.widget window).clientTid
    if s.Editable window ∨ (s.window window).type = wtButton then
      let s := activateParent window s
      let s := s.setDesktop {s.events.desktop with keyboardOwner := some window,mouseOwner := some window}
      let status := if (s.window window).type = wtButton then bsFocus else (s.widget window).status
      let s := s.setWidget window {s.widget window with status,enabled := true}
      if tid < 0 then s else {s with foregroundTid := some tid}
    else s

-- __button_released and set_status_by_id, without the drawing.
def buttonReleased (wid : Int32) (s : MouseServer) : MouseServer :=
  match s.events.validWindow wid with
  | none => s
  | some w => if (s.window w).used = true then s.setWidget w {s.widget w with status := bsReleased} else s

-- The pointer is inside the absolute rectangle of a window.
def MouseServer.Inside (s : MouseServer) (w : Nat) : Prop :=
  (s.widget w).absoluteX ≤ s.mouseX.toUInt64 ∧ s.mouseX.toUInt64 ≤ (s.widget w).absoluteRight ∧
    (s.widget w).absoluteY ≤ s.mouseY.toUInt64 ∧ s.mouseY.toUInt64 ≤ (s.widget w).absoluteBottom

instance (s : MouseServer) (w : Nat) : Decidable (s.Inside w) := inferInstanceAs (Decidable (_ ∧ _))

-- if (mouse_hover != mouse_owner) mouse_owner = mouse_hover;
def MouseServer.ownMouse (s : MouseServer) (w : Nat) : MouseServer :=
  if some w ≠ s.events.desktop.mouseOwner then s.setDesktop {s.events.desktop with mouseOwner := some w} else s

-- The release of the mouse over an editbox.
def releasedOnEditbox (w : Nat) (inX inY : UInt64) (s : MouseServer) : MouseServer :=
  let s := if 0 < inX then s.setWidget w {s.widget w with ipX := inX/8} else s
  let s := if 0 < inY then s.setWidget w {s.widget w with ipY := inY/8} else s
  let s := if some w ≠ s.events.desktop.keyboardOwner then setFocus w s else s
  let s := s.ownMouse w
  s.setWidget w {s.widget w with hasEvent := false}

-- The release over a regular button.
def releasedOnButton (w : Nat) (s : MouseServer) : MouseServer :=
  let s := buttonReleased (s.events.id w) s
  match (s.widget w).parent with
  | none => s
  | some p =>
      if (s.window p).magic ≠ 1234 then s
      else if (s.window p).type = wtOverlapped ∨ some p = s.taskbarWindow then
        let wid := s.events.id w
        let posted := windowPostMessage (s.events.id p) gwsMouseClicked wid.toInt64.toUInt64 wid.toInt64.toUInt64 s.events
        {s with events := posted.2}
      else s

-- The display server between two calls. The flag is a static variable of on_mouse_released.
structure MouseState where
  server : MouseServer
  isInsideMouseHover : Bool

-- on_mouse_released. What it does over another kind of window, when a window is
-- dropped or a control of a title bar is clicked, is `further`.
def onMouseReleased (further : MouseServer → MouseServer) (m : MouseState) : MouseState :=
  let s := m.server
  match s.mouseHover with
  | none => m
  | some w =>
      if (s.window w).magic ≠ 1234 then m
      else
        let savedX := s.mouseX.toUInt64
        let savedY := s.mouseY.toUInt64
        let inX := if s.Inside w then savedX-(s.widget w).absoluteX else 0
        let inY := if s.Inside w then savedY-(s.widget w).absoluteY else 0
        let isInsideMouseHover := if s.Inside w then true else m.isInsideMouseHover
        let s := if s.Inside w then s.setWidget w {s.widget w with hasEvent := false} else s
        let server :=
          if isInsideMouseHover ≠ true then s
          else if s.Editable w then releasedOnEditbox w inX inY s
          else if (s.window w).type = wtButton ∧ (s.widget w).isControl ≠ true then releasedOnButton w s
          else further s
        {server,isInsideMouseHover}

inductive MouseStep where
  | move (x y : Int64)
  | hover (window : Option Nat)
  | release

def MouseState.after (further : MouseServer → MouseServer) (m : MouseState) : MouseStep → MouseState
  | .move x y => {m with server := {m.server with mouseX := x,mouseY := y}}
  | .hover window => {m with server := {m.server with mouseHover := window}}
  | .release => onMouseReleased further m

def MouseState.run (further : MouseServer → MouseServer) (m : MouseState) (steps : List MouseStep) : MouseState := steps.foldl (·.after further ·) m

def MouseServer.InsideHover (s : MouseServer) : Prop := ∃ w, s.mouseHover = some w ∧ s.Inside w

def MouseServer.ValidHover (s : MouseServer) : Prop := ∃ w, s.mouseHover = some w ∧ (s.window w).magic = 1234

-- One of the input pointers, the keyboard focus, the mouse owner or a queue of a window is changed.
def Affects (s t : MouseServer) : Prop :=
  (∃ w, ((t.widget w).ipX,(t.widget w).ipY) ≠ ((s.widget w).ipX,(s.widget w).ipY)) ∨ t.events.desktop.keyboardOwner ≠ s.events.desktop.keyboardOwner ∨
    t.events.desktop.mouseOwner ≠ s.events.desktop.mouseOwner ∨ t.events.queue ≠ s.events.queue

-- A release reaches a window only under the pointer, and one outside changes nothing.
structure ReleaseLaws (further : MouseServer → MouseServer) (m : MouseState) : Prop where
  only : Affects m.server (onMouseReleased further m).server → m.server.InsideHover
  unchanged : ¬ m.server.InsideHover → onMouseReleased further m = m

-- Some release among the steps was inside the window that the mouse was over.
def ReleasedInside (further : MouseServer → MouseServer) (m : MouseState) (steps : List MouseStep) : Prop :=
  ∃ front rest, steps = front ++ .release :: rest ∧ (m.run further front).server.ValidHover ∧ (m.run further front).server.InsideHover

-- The release behind the steps is inside, or over no window, or the first of them that is not outside is still to come.
def ReleaseMeets (further : MouseServer → MouseServer) (m : MouseState) (steps : List MouseStep) : Prop :=
  (m.run further steps).server.InsideHover ∨ ¬ (m.run further steps).server.ValidHover ∨ ¬ ReleasedInside further m steps

-- The windows where a release that goes on has an effect: an editbox that does not own the mouse, and
-- a regular button with a parent that gets its message.
def MouseServer.Reacts (s : MouseServer) (w : Nat) : Prop :=
  s.Editable w ∧ s.events.desktop.mouseOwner ≠ some w ∨
    ¬ s.Editable w ∧ ((s.window w).type = wtButton ∧ (s.widget w).isControl ≠ true) ∧
      ∃ p q, (s.widget w).parent = some p ∧ (s.window p).magic = 1234 ∧ ((s.window p).type = wtOverlapped ∨ some p = s.taskbarWindow) ∧
        s.events.validWindow (s.events.id p) = some q

section Releases

variable {further : MouseServer → MouseServer} {m : MouseState}

theorem not_affects (s : MouseServer) : ¬ Affects s s := by
  rintro (⟨w,changed⟩ | changed | changed | changed)
  all_goals exact changed rfl

theorem released_flag :
    (onMouseReleased further m).isInsideMouseHover = true ↔ m.isInsideMouseHover = true ∨ m.server.ValidHover ∧ m.server.InsideHover := by
  unfold onMouseReleased
  cases hover : m.server.mouseHover with
  | none => simp [MouseServer.ValidHover,hover]
  | some w =>
      by_cases magic : (m.server.window w).magic = 1234
      · by_cases inside : m.server.Inside w
        · simp [MouseServer.ValidHover,MouseServer.InsideHover,hover,magic,inside]
        · simp [MouseServer.ValidHover,MouseServer.InsideHover,hover,magic,inside]
      · simp [MouseServer.ValidHover,hover,magic]

-- The flag says whether some release was inside so far.
theorem run_flag (boot : m.isInsideMouseHover = false) (steps : List MouseStep) :
    (m.run further steps).isInsideMouseHover = true ↔ ReleasedInside further m steps := by
  induction steps using List.reverseRecOn with
  | nil =>
      refine iff_of_false (by rw [show (m.run further []).isInsideMouseHover = false from boot]; exact Bool.false_ne_true) ?_
      rintro ⟨front,rest,same,_⟩
      simp at same
  | append_singleton steps step ih =>
      have snoc : ReleasedInside further m (steps ++ [step]) ↔
          ReleasedInside further m steps ∨ step = .release ∧ (m.run further steps).server.ValidHover ∧ (m.run further steps).server.InsideHover := by
        constructor
        · rintro ⟨front,rest,same,hit⟩
          obtain rfl | ⟨others,last,rfl⟩ := List.eq_nil_or_concat' rest
          · obtain ⟨rfl,final⟩ := List.append_inj' same rfl
            exact .inr ⟨List.singleton_inj.mp final,hit⟩
          · rw [← List.cons_append,← List.append_assoc] at same
            obtain ⟨rfl,_⟩ := List.append_inj' same rfl
            exact .inl ⟨front,others,rfl,hit⟩
        · rintro (⟨front,rest,rfl,hit⟩ | ⟨rfl,hit⟩)
          · exact ⟨front,rest ++ [step],by simp,hit⟩
          · exact ⟨steps,[],rfl,hit⟩
      have further_step : m.run further (steps ++ [step]) = (m.run further steps).after further step := List.foldl_concat ..
      rw [snoc,← ih,further_step]
      cases step with
      | move x y => simp [MouseState.after]
      | hover window => simp [MouseState.after]
      | release =>
          rw [and_iff_right rfl]
          exact released_flag

theorem released_outside (outside : ¬ m.server.InsideHover) (meets : ¬ m.server.ValidHover ∨ m.isInsideMouseHover = false) :
    onMouseReleased further m = m := by
  unfold onMouseReleased
  cases hover : m.server.mouseHover with
  | none => simp only [hover]
  | some w =>
      by_cases magic : (m.server.window w).magic = 1234
      · have valid : m.server.ValidHover := ⟨w,hover,magic⟩
        have flag := meets.resolve_left (not_not.mpr valid)
        have apart : ¬ m.server.Inside w := fun inside => outside ⟨w,hover,inside⟩
        simp only [hover,magic,ne_eq,not_true_eq_false,if_false,apart,flag,Bool.false_eq_true,not_false_eq_true,if_true]
        rw [← flag]
      · simp only [hover,ne_eq,magic,not_false_eq_true,if_true]

theorem ownMouse_owner (s : MouseServer) (w : Nat) : (s.ownMouse w).events.desktop.mouseOwner = some w := by
  unfold MouseServer.ownMouse
  split
  · rfl
  · rename_i owned
    exact (not_not.mp owned).symm

theorem releasedOnEditbox_owner (w : Nat) (inX inY : UInt64) (s : MouseServer) :
    (releasedOnEditbox w inX inY s).events.desktop.mouseOwner = some w := ownMouse_owner _ w

theorem post_changes (q : EventQueue) (event : WindowEvent) : q.post event ≠ q := by
  intro same
  have tail := congrArg EventQueue.evTail same
  exact Ring.next_ne (by decide) tail

theorem buttonReleased_keeps (wid : Int32) (s : MouseServer) :
    (buttonReleased wid s).events = s.events ∧ (buttonReleased wid s).taskbarWindow = s.taskbarWindow ∧
      ∀ w, ((buttonReleased wid s).widget w).parent = (s.widget w).parent := by
  unfold buttonReleased
  cases s.events.validWindow wid with
  | none => exact ⟨rfl,rfl,fun _ => rfl⟩
  | some x =>
      simp only
      split
      · refine ⟨rfl,rfl,fun w => ?_⟩
        by_cases here : w = x
        · subst here
          simp only [MouseServer.setWidget,Function.update_self]
        · simp only [MouseServer.setWidget,Function.update_of_ne here]
      · exact ⟨rfl,rfl,fun _ => rfl⟩

theorem windowPostMessage_changes {s : EventServer} (positive : ¬ eventType < 0) (valid : s.validWindow wid = some q) :
    (windowPostMessage wid eventType long1 long2 s).2.queue ≠ s.queue := by
  intro same
  simp only [windowPostMessage,if_neg positive,valid] at same
  have there := congrFun same q
  simp only [EventServer.setQueue,Function.update_self] at there
  exact post_changes _ _ there

theorem releasedOnButton_posts {s : MouseServer} (parent : (s.widget w).parent = some p) (magic : (s.window p).magic = 1234)
    (listens : (s.window p).type = wtOverlapped ∨ some p = s.taskbarWindow) (valid : s.events.validWindow (s.events.id p) = some q) :
    (releasedOnButton w s).events.queue ≠ s.events.queue := by
  obtain ⟨events,taskbar,parents⟩ := buttonReleased_keeps (s.events.id w) s
  have window : ((buttonReleased (s.events.id w) s).window p) = s.window p := by rw [MouseServer.window,events,MouseServer.window]
  unfold releasedOnButton
  simp only [parents,parent,window,magic,ne_eq,not_true_eq_false,if_false,taskbar,if_pos listens,events]
  exact windowPostMessage_changes (by decide) valid

theorem released_reacts {w : Nat} (hover : m.server.mouseHover = some w) (magic : (m.server.window w).magic = 1234) (reacts : m.server.Reacts w)
    (outside : ¬ m.server.Inside w) (flag : m.isInsideMouseHover = true) : Affects m.server (onMouseReleased further m).server := by
  unfold onMouseReleased
  simp only [hover,magic,ne_eq,not_true_eq_false,if_false,if_neg outside,flag]
  rcases reacts with ⟨editable,other⟩ | ⟨plain,regular,p,q,parent,alive,listens,valid⟩
  · rw [if_pos editable]
    right; right; left
    rw [releasedOnEditbox_owner]
    exact other.symm
  · rw [if_neg plain,if_pos regular]
    right; right; right
    exact releasedOnButton_posts parent alive listens valid

-- What a release does after any steps of a run that begins with no release before.
theorem onMouseReleased_laws (further : MouseServer → MouseServer) (m : MouseState) (boot : m.isInsideMouseHover = false) (steps : List MouseStep) :
    (ReleaseMeets further m steps → ReleaseLaws further (m.run further steps)) ∧
      ((∃ w, (m.run further steps).server.mouseHover = some w ∧ (m.run further steps).server.Reacts w) →
        ReleaseLaws further (m.run further steps) → ReleaseMeets further m steps) := by
  have flag : (m.run further steps).isInsideMouseHover = true ↔ ReleasedInside further m steps := run_flag boot steps
  constructor
  · intro meets
    have unchanged : ¬ (m.run further steps).server.InsideHover → onMouseReleased further (m.run further steps) = m.run further steps := by
      intro outside
      apply released_outside outside
      rcases meets.resolve_left outside with invalid | never
      · exact .inl invalid
      · exact .inr (Bool.eq_false_iff.mpr fun set => never (flag.mp set))
    refine ⟨?_,unchanged⟩
    intro affects
    by_contra outside
    rw [unchanged outside] at affects
    exact not_affects _ affects
  · rintro ⟨w,hover,reacts⟩ laws
    by_contra fails
    obtain ⟨outside,later⟩ := not_or.mp fails
    obtain ⟨valid,earlier⟩ := not_or.mp later
    obtain ⟨x,same,magic⟩ := not_not.mp valid
    obtain rfl : w = x := Option.some.inj (hover.symm.trans same)
    have apart : ¬ (m.run further steps).server.Inside w := fun inside => outside ⟨w,hover,inside⟩
    exact outside (laws.only (released_reacts hover magic reacts apart (flag.mpr (not_not.mp earlier))))

end Releases

-- Two editboxes, and the pointer over the first of them.
def twoEditboxes : MouseState where
  server :=
    { events := ⟨{bootDesktop with window := fun _ => {used := true,magic := 1234,type := wtEditbox}},Int32.ofNat,fun _ => {},fun _ => 0⟩
      widget := fun w => if w = 0 then {absoluteRight := 80,absoluteBottom := 8} else {absoluteX := 100,absoluteRight := 180,absoluteBottom := 8}
      mouseHover := none
      taskbarWindow := none
      mouseX := 40
      mouseY := 4
      foregroundTid := none }
  isInsideMouseHover := false

theorem onMouseReleased_laws_editboxes :
    let steps : List MouseStep := [.hover (some 1),.move 120 4]
    (ReleaseMeets id twoEditboxes steps → ReleaseLaws id (twoEditboxes.run id steps)) ∧
      ((∃ w, (twoEditboxes.run id steps).server.mouseHover = some w ∧ (twoEditboxes.run id steps).server.Reacts w) →
        ReleaseLaws id (twoEditboxes.run id steps) → ReleaseMeets id twoEditboxes steps) :=
  onMouseReleased_laws id twoEditboxes rfl [.hover (some 1),.move 120 4]

-- A release in the first editbox, and then one with the pointer still there while the
-- mouse is over the second: this gets the focus.
theorem onMouseReleased_outside :
    let m := twoEditboxes.run id [.hover (some 0),.release,.hover (some 1)]
    ¬ m.server.InsideHover ∧ m.server.events.desktop.keyboardOwner = some 0 ∧
      (onMouseReleased id m).server.events.desktop.keyboardOwner = some 1 ∧ ¬ ReleaseLaws id m := by
  intro m
  have outside : ¬ m.server.InsideHover := by
    rintro ⟨w,hover,inside⟩
    have hovered : m.server.mouseHover = some 1 := rfl
    obtain rfl : 1 = w := Option.some.inj (hovered.symm.trans hover)
    revert inside
    decide
  have first : m.server.events.desktop.keyboardOwner = some 0 := by decide
  have second : (onMouseReleased id m).server.events.desktop.keyboardOwner = some 1 := by decide
  refine ⟨outside,first,second,fun laws => outside (laws.only (.inr (.inl ?_)))⟩
  rw [first,second]
  decide

end GramadoKernel
