import GramadoKernel.ConsolePaths
import GramadoKernel.ConsoleWrite

namespace GramadoKernel

open Stateful

-- A character drawn on the screen.
def Drawing.Inside (d : Drawing) : Prop := d.x < d.right ∧ d.y < d.bottom

-- Nothing is drawn without a graphical mode and a font.
def Terminal.Draws (t : Terminal) : Prop := t.useGui = true ∧ t.SizedFont

-- The limits of a console of the given size, before and after its first scroll.
structure Console.Framed (c : Console) (right bottom : UInt64) : Prop where
  left : c.cursorLeft = 0
  top : c.cursorTop = 0
  right : c.cursorRight = right ∨ c.cursorRight = right &&& 0xFFFF
  bottom : c.cursorBottom = bottom ∨ c.cursorBottom = bottom &&& 0xFFFF

structure Terminal.Safe (t : Terminal) (right bottom : UInt64) : Prop where
  frame : t.console.Framed right bottom
  fits : t.Draws → right &&& 0xFFFF ≠ 0 ∧ bottom &&& 0xFFFF ≠ 0
  inside : ∀ d ∈ t.drawings, d.Inside
  npar : t.npar < nparMax
  written : ∀ place ∈ t.written, place < nparMax

section Cells

variable {right bottom : UInt64}

theorem masked_twice (limit : UInt64) : limit &&& 0xFFFF &&& 0xFFFF = limit &&& 0xFFFF := by
  rw [UInt64.and_assoc]
  rfl

theorem Console.Framed.scrolled {c : Console} (frame : c.Framed right bottom) : c.scrolled.Framed right bottom := by
  refine ⟨?_,?_,.inr ?_,.inr ?_⟩
  · show c.cursorLeft &&& 0xFFFF = 0
    rw [frame.left]
    rfl
  · show c.cursorTop &&& 0xFFFF = 0
    rw [frame.top]
    rfl
  · show c.cursorRight &&& 0xFFFF = _
    rcases frame.right with same | masked
    · rw [same]
    · rw [masked,masked_twice]
  · show c.cursorBottom &&& 0xFFFF = _
    rcases frame.bottom with same | masked
    · rw [same]
    · rw [masked,masked_twice]

theorem Console.Framed.goto {c : Console} (frame : c.Framed right bottom) (x y : UInt64) : (c.goto x y).Framed right bottom :=
  ⟨frame.left,frame.top,frame.right,frame.bottom⟩

theorem Console.Framed.remember {c : Console} (frame : c.Framed right bottom) (char : Int) : (c.remember char).Framed right bottom :=
  ⟨frame.left,frame.top,frame.right,frame.bottom⟩

theorem Terminal.Safe.bottomed {t : Terminal} (safe : t.Safe right bottom) : t.bottomed.Safe right bottom := by
  unfold Terminal.bottomed
  by_cases full : t.console.fullscreenFlag = true
  · rw [if_pos full]
    exact ⟨safe.frame.scrolled.goto _ _,safe.fits,safe.inside,safe.npar,safe.written⟩
  · rw [if_neg full]
    exact ⟨safe.frame.goto _ _,safe.fits,safe.inside,safe.npar,safe.written⟩

theorem line_before {limit : UInt64} (some : limit ≠ 0) : limit-1 < limit := by
  rw [UInt64.lt_iff_toNat_lt,UInt64.toNat_sub]
  have positive : limit.toNat ≠ 0 := fun zero => some (UInt64.toNat_inj.mp zero)
  have high := limit.toNat_lt
  simp
  omega

theorem Console.Framed.limits {c : Console} (frame : c.Framed right bottom)
    (fits : right &&& 0xFFFF ≠ 0 ∧ bottom &&& 0xFFFF ≠ 0) : c.cursorRight &&& 0xFFFF ≠ 0 ∧ c.cursorBottom &&& 0xFFFF ≠ 0 := by
  constructor
  · rcases frame.right with same | masked
    · rw [same]
      exact fits.1
    · rw [masked,masked_twice]
      exact fits.1
  · rcases frame.bottom with same | masked
    · rw [same]
      exact fits.2
    · rw [masked,masked_twice]
      exact fits.2

theorem Console.Framed.nonzero {c : Console} (frame : c.Framed right bottom) (room : ¬ c.Closed) : c.cursorRight ≠ 0 ∧ c.cursorBottom ≠ 0 := by
  unfold Console.Closed at room
  rw [frame.left,frame.top] at room
  obtain ⟨wide,high⟩ := not_or.mp room
  constructor
  · intro zero
    exact wide (zero ▸ UInt64.le_refl _)
  · intro zero
    exact high (zero ▸ UInt64.le_refl _)

section Writes

variable {answer : Output Unit} (answers : Keeps (Terminal.Safe · right bottom) answer)

include answers

end Writes

def Consoles.Safe (s : Consoles) (right bottom : UInt64) : Prop := ∀ n < consolettysCountMax, (s.terminal n).Safe right bottom

theorem Consoles.Safe.store {s : Consoles} (safe : s.Safe right bottom) {t : Terminal} (after : t.Safe right bottom) (n : Nat) :
    (s.store n t).Safe right bottom := by
  intro m small
  refine ⟨?_,after.fits,after.inside,after.npar,after.written⟩
  show (Function.update s.tty n t.console m).Framed right bottom
  by_cases here : m = n
  · rw [here,Function.update_self]
    exact after.frame
  · rw [Function.update_of_ne here]
    exact (safe m small).frame

end Cells

inductive ConsoleCall where
  | write (consoleNumber : Int) (buf : Option (List UInt8))
  | outbyte (char consoleNumber : Int)
  | outbyte2 (char consoleNumber : Int)

def ConsoleCall.on : ConsoleCall → EStateM Halt Consoles Unit
  | .write consoleNumber buf => do
      let _ ← consoleWrite consoleNumber buf
      pure ()
  | .outbyte char consoleNumber => onTerminal consoleNumber () (consoleOutbyte char)
  | .outbyte2 char consoleNumber => onTerminal consoleNumber () (consoleOutbyte2 char)

-- What the calls leave, also where one of them stops the kernel.
def afterCalls (calls : List ConsoleCall) (s : Consoles) : Consoles := final ((forM calls ConsoleCall.on : EStateM Halt Consoles Unit) s)

def Consoles.Draws (s : Consoles) : Prop := s.useGui = true ∧ ¬ (s.charWidth = 0 ∨ s.charHeight = 0)

-- A console whose cursor went down to a line.
structure AtLine (t : Terminal) (right bottom : UInt64) (line : Nat) : Prop where
  draws : t.Draws
  initialized : t.console.initialized = true
  full : t.console.fullscreenFlag = true
  echoes : t.console.Echoes
  left : t.console.cursorLeft = 0
  top : t.console.cursorTop = 0
  right : t.console.cursorRight = right
  bottom : t.console.cursorBottom = bottom
  x : t.console.cursorX = 0
  y : t.console.cursorY = UInt64.ofNat line
  drawings : t.drawings = []

section Descent

variable {t : Terminal} {right bottom : UInt64} {line : Nat}

theorem AtLine.used (here : AtLine t right bottom line) : InUse t :=
  ⟨here.draws.2,by rw [here.initialized]; decide⟩

theorem outbyte_newline (used : InUse t) (above : ¬ t.console.cursorBottom ≤ t.console.cursorY) (start : t.console.cursorX = t.console.cursorLeft) :
    consoleOutbyte Ascii.newline.toNat t =
      .ok () (t.put ((t.console.goto t.console.cursorLeft (t.console.cursorY+1)).remember Ascii.newline.toNat)) := by
  unfold consoleOutbyte
  rw [get_bind]
  simp only [Int.natCast_inj,UInt8.toNat_inj,true_and]
  rw [if_neg used.sized,if_neg used.initialized,if_neg (Int.not_lt.mpr (Int.natCast_nonneg _)),if_neg (show ¬ Ascii.newline = Ascii.formFeed by decide)]
  by_cases carried : t.console.prevChar = Ascii.carriageReturn
  · rw [if_pos carried]
    unfold newlineAfterReturn
    rw [get_bind,if_neg above]
    rfl
  · rw [if_neg carried,if_pos carried]
    unfold newlineAlone
    rw [get_bind,if_neg above]
    by_cases mode : t.stdioTerminalmodeFlag = true ∨ t.stdioVerbosemodeFlag = true
    · simp only [if_pos mode]
      rfl
    · simp only [if_neg mode]
      rw [← start]
      rfl

theorem AtLine.newline (here : AtLine t right bottom line) (above : line < bottom.toNat) :
    ∃ u, consoleOutbyte Ascii.newline.toNat t = .ok () u ∧ AtLine u right bottom (line+1) := by
  have high : ¬ t.console.cursorBottom ≤ t.console.cursorY := by
    rw [here.bottom,here.y,UInt64.le_iff_toNat_le,UInt64.toNat_ofNat_of_lt' (Nat.lt_trans above bottom.toNat_lt)]
    exact Nat.not_le.mpr above
  refine ⟨_,outbyte_newline here.used high (here.x.trans here.left.symm),?_⟩
  refine ⟨here.draws,here.initialized,here.full,here.echoes,here.left,here.top,here.right,here.bottom,here.left,?_,here.drawings⟩
  show t.console.cursorY+1 = _
  rw [here.y,UInt64.ofNat_add]
  rfl

theorem several_columns {limit : UInt64} (wide : 2 ≤ limit) : ¬ limit ≤ 0 ∧ ¬ limit-1 ≤ 0 := by
  have high := limit.toNat_lt
  rw [UInt64.le_iff_toNat_le] at wide
  rw [UInt64.le_iff_toNat_le,UInt64.le_iff_toNat_le,UInt64.toNat_sub]
  simp at wide ⊢
  omega

end Descent

-- The consoles of a screen of this size
def bootConsoles (gSavedX gSavedY : UInt64) : Consoles where
  toShared := bootTerminal.toShared
  tty := fun _ => Console.ddinit ⟨0,false,0,0,0,0,0,0,0,false,0⟩ gSavedX gSavedY
  fgConsole := 0
  printkToSerial := false

end GramadoKernel
