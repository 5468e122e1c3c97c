import GramadoKernel.Console
import GramadoKernel.Library.Runs
import Mathlib.Data.List.Induction

namespace GramadoKernel

open Stateful

-- The same but for what was refreshed.
def SameScreen (s t : Terminal) : Prop := ∃ cells, t = {s with refreshed := cells}

def Drawing.cell (d : Drawing) : Int × UInt64 × UInt64 := (d.char,d.x,d.y)

def SamePicture (s t : Terminal) : Prop := s.drawings.map Drawing.cell = t.drawings.map Drawing.cell ∧ s.scrolls = t.scrolls

theorem SameScreen.picture (same : SameScreen s t) : SamePicture s t := by
  obtain ⟨cells,rfl⟩ := same
  exact ⟨rfl,rfl⟩

theorem SameScreen.console (same : SameScreen s t) : t.console = s.console := by
  obtain ⟨cells,rfl⟩ := same
  rfl

theorem SameScreen.useGui (same : SameScreen s t) : t.useGui = s.useGui := by
  obtain ⟨cells,rfl⟩ := same
  rfl

theorem SameScreen.put (same : SameScreen s t) (console : Console) : SameScreen (s.put console) (t.put console) := by
  obtain ⟨cells,rfl⟩ := same
  exact ⟨cells,rfl⟩

theorem sameScreen_refl (s : Terminal) : SameScreen s s := ⟨s.refreshed,rfl⟩

section Shared

-- What both routines do in the same way.

theorem onConsole_same (change : Console → Console) : Simulates SameScreen SamePicture (onConsole change) (onConsole change) := by
  apply Simulates.modify
  rintro s t ⟨cells,rfl⟩
  exact ⟨cells,rfl⟩

theorem scroll_same : Simulates SameScreen SamePicture consoleScrollRect consoleScrollRect := by
  apply Simulates.get
  rintro s t ⟨cells,rfl⟩
  dsimp only
  by_cases text : s.useGui = false
  · rw [if_pos text]
    exact ⟨rfl,rfl⟩
  · rw [if_neg text]
    exact ⟨cells,rfl⟩

theorem scrollIfFullscreen_same : Simulates SameScreen SamePicture scrollIfFullscreen scrollIfFullscreen := by
  apply Simulates.get
  rintro s t ⟨cells,rfl⟩
  dsimp only
  by_cases full : s.console.fullscreenFlag = true
  · rw [if_pos full]
    exact scroll_same s _ ⟨cells,rfl⟩
  · rw [if_neg full]
    exact ⟨cells,rfl⟩

theorem scrollThen_same (change : Console → Console) :
    Simulates SameScreen SamePicture (scrollIfFullscreen >>= fun _ => onConsole change) (scrollIfFullscreen >>= fun _ => onConsole change) :=
  scrollIfFullscreen_same.bind (onConsole_same change)

theorem newlineAfterReturn_same (char : Int) : Simulates SameScreen SamePicture (newlineAfterReturn char) (newlineAfterReturn char) := by
  apply Simulates.get
  rintro s t ⟨cells,rfl⟩
  dsimp only
  by_cases bottom : s.console.cursorBottom ≤ s.console.cursorY
  · rw [if_pos bottom]
    exact scrollThen_same _ s _ ⟨cells,rfl⟩
  · rw [if_neg bottom]
    exact onConsole_same _ s _ ⟨cells,rfl⟩

theorem newlineAlone_same (char : Int) : Simulates SameScreen SamePicture (newlineAlone char) (newlineAlone char) := by
  apply Simulates.get
  rintro s t ⟨cells,rfl⟩
  dsimp only
  by_cases bottom : s.console.cursorBottom ≤ s.console.cursorY
  · rw [if_pos bottom]
    exact scrollThen_same _ s _ ⟨cells,rfl⟩
  · rw [if_neg bottom]
    exact onConsole_same _ s _ ⟨cells,rfl⟩

theorem scrollAtBottom_same : Simulates SameScreen SamePicture scrollAtBottom scrollAtBottom := by
  apply Simulates.get
  rintro s t ⟨cells,rfl⟩
  dsimp only
  by_cases bottom : s.console.cursorBottom ≤ s.console.cursorY
  · rw [if_pos bottom]
    exact scrollThen_same _ s _ ⟨cells,rfl⟩
  · rw [if_neg bottom]
    exact ⟨cells,rfl⟩

theorem consoleDrawOutbyte_same (char : Int) : Simulates SameScreen SamePicture (consoleDrawOutbyte char) (consoleDrawOutbyte char) := by
  apply Simulates.get
  rintro s t ⟨cells,rfl⟩
  dsimp only
  by_cases size : s.charWidth = 0 ∨ s.charHeight = 0
  · rw [if_pos size]
    exact ⟨rfl,rfl⟩
  · rw [if_neg size]
    by_cases text : s.useGui = false
    · rw [if_pos text]
      exact ⟨rfl,rfl⟩
    · rw [if_neg text]
      exact ⟨cells,rfl⟩

theorem drawIfEcho_same (char : Int) : Simulates SameScreen SamePicture (drawIfEcho char) (drawIfEcho char) := by
  apply Simulates.get
  rintro s t ⟨cells,rfl⟩
  dsimp only
  by_cases on : s.console.cLflag &&& echo ≠ 0
  · rw [if_pos on]
    exact consoleDrawOutbyte_same char s _ ⟨cells,rfl⟩
  · rw [if_neg on]
    exact ⟨cells,rfl⟩

end Shared

section Runs

variable {s : Terminal} {char : Int}

abbrev Console.Echoes (c : Console) : Prop := c.cLflag &&& echo ≠ 0

abbrev Terminal.SizedFont (t : Terminal) : Prop := ¬ (t.charWidth = 0 ∨ t.charHeight = 0)

def Console.Closed (c : Console) : Prop := c.cursorRight ≤ c.cursorLeft ∨ c.cursorBottom ≤ c.cursorTop

theorem collision_closed (closed : s.console.Closed) (horizontal vertical : String) : ∃ halt, collision horizontal vertical s = .error halt s := by
  unfold collision
  rw [get_bind]
  by_cases narrow : s.console.cursorRight ≤ s.console.cursorLeft
  · rw [if_pos narrow]
    exact ⟨_,rfl⟩
  · rw [if_neg narrow,if_pos (closed.resolve_left narrow)]
    exact ⟨_,rfl⟩

theorem collision_open (room : ¬ s.console.Closed) (horizontal vertical : String) : collision horizontal vertical s = .ok () s := by
  obtain ⟨wide,high⟩ := not_or.mp room
  unfold collision
  rw [get_bind,if_neg wide,if_neg high]
  rfl

theorem scrollAtBottom_above (above : ¬ s.console.cursorBottom ≤ s.console.cursorY) : scrollAtBottom s = .ok () s := by
  unfold scrollAtBottom
  rw [get_bind,if_neg above]
  rfl

theorem scrollAtBottom_text (below : s.console.cursorBottom ≤ s.console.cursorY) (full : s.console.fullscreenFlag = true)
    (text : s.useGui = false) : ∃ halt, scrollAtBottom s = .error halt s := by
  have stops : scrollIfFullscreen s = .error (.panic "console_scroll_rect: no GUI\n") s := by
    unfold scrollIfFullscreen
    rw [get_bind,if_pos full]
    unfold consoleScrollRect
    rw [get_bind,if_pos text]
    rfl
  unfold scrollAtBottom
  rw [get_bind,if_pos below,bind_stopped stops]
  exact ⟨_,rfl⟩

-- The console at the start of its last line, after the scroll if there is one.
def Terminal.bottomed (t : Terminal) : Terminal :=
  let scrolled := if t.console.fullscreenFlag = true then t.scrolled else t
  scrolled.put (scrolled.console.goto 0 (scrolled.console.cursorBottom-1))

theorem scrollAtBottom_below (below : s.console.cursorBottom ≤ s.console.cursorY)
    (able : ¬ (s.console.fullscreenFlag = true ∧ s.useGui = false)) : scrollAtBottom s = .ok () s.bottomed := by
  unfold scrollAtBottom Terminal.bottomed
  rw [get_bind,if_pos below]
  by_cases full : s.console.fullscreenFlag = true
  · have gui : ¬ s.useGui = false := fun text => able ⟨full,text⟩
    have scrolls : scrollIfFullscreen s = .ok () s.scrolled := by
      unfold scrollIfFullscreen
      rw [get_bind,if_pos full]
      unfold consoleScrollRect
      rw [get_bind,if_neg gui]
      rfl
    rw [bind_done scrolls,if_pos full]
    rfl
  · have stays : scrollIfFullscreen s = .ok () s := by
      unfold scrollIfFullscreen
      rw [get_bind,if_neg full]
      rfl
    rw [bind_done stays,if_neg full]
    rfl

theorem drawIfEcho_off (off : ¬ s.console.Echoes) : drawIfEcho char s = .ok () s := by
  unfold drawIfEcho
  rw [get_bind,if_neg off]
  rfl

theorem drawIfEcho_gui (on : s.console.Echoes) (sized : s.SizedFont) (gui : s.useGui = true) : drawIfEcho char s = .ok () (s.drawn char) := by
  unfold drawIfEcho
  rw [get_bind,if_pos on]
  unfold consoleDrawOutbyte
  rw [get_bind,if_neg sized,if_neg (by rw [gui]; decide)]
  rfl

theorem drawIfEcho_text (on : s.console.Echoes) (sized : s.SizedFont) (text : s.useGui = false) : ∃ halt, drawIfEcho char s = .error halt s := by
  unfold drawIfEcho
  rw [get_bind,if_pos on]
  unfold consoleDrawOutbyte
  rw [get_bind,if_neg sized,if_pos text]
  exact ⟨_,rfl⟩

-- What follows the move to the cell of the character.
def drawHere (char : Int) : Output Unit := do
  scrollAtBottom
  drawIfEcho char
  onConsole fun c => c.remember char

theorem drawHere_same (char : Int) : Simulates SameScreen SamePicture (drawHere char) (drawHere char) :=
  scrollAtBottom_same.bind ((drawIfEcho_same char).bind (onConsole_same _))

theorem drawAfterStep_open (room : ¬ s.console.Closed) :
    drawAfterStep char s = drawHere char (s.put (if s.console.AtLineEnd then s.console.goto s.console.cursorLeft (s.console.cursorY+1)
      else s.console.goto (s.console.cursorX+1) s.console.cursorY)) := by
  unfold drawAfterStep
  rw [bind_done (collision_open room _ _)]
  rfl

theorem drawBeforeStep_open (room : ¬ s.console.Closed) :
    drawBeforeStep char s = (drawHere char >>= fun _ => refreshCell >>= fun _ =>
      onConsole fun c => if s.console.AtLineEnd then c else c.goto (c.cursorX+1) c.cursorY)
        (s.put (if s.console.AtLineEnd then s.console.goto s.console.cursorLeft (s.console.cursorY+1) else s.console)) := by
  unfold drawBeforeStep drawHere
  rw [bind_done (collision_open room _ _),get_bind,bind_assoc]
  simp only [bind_assoc]
  rfl

end Runs

theorem SameScreen.sizedFont {s t : Terminal} (same : SameScreen s t) (sized : s.SizedFont) : t.SizedFont := by
  obtain ⟨cells,rfl⟩ := same
  exact sized

-- What a reader of the screen and of the cursor can tell.
def SameShown (s t : Terminal) : Prop :=
  SamePicture s t ∧ s.console.cursorX = t.console.cursorX ∧ s.console.cursorY = t.console.cursorY ∧ s.console.prevChar = t.console.prevChar

def SameOutput : EStateM.Result Halt Terminal Unit → EStateM.Result Halt Terminal Unit → Prop := Together SameShown SamePicture

-- A character is drawn before or after its column is counted: this is alike at the end of
-- a line, where nothing is drawn, and where both stop.
def DrawsAlike (t : Terminal) : Prop :=
  t.console.AtLineEnd ∨ t.console.Closed ∨
    t.useGui = false ∧ (t.console.Echoes ∨ t.console.cursorBottom ≤ t.console.cursorY ∧ t.console.fullscreenFlag = true) ∨
    ¬ t.console.Echoes ∧ ¬ t.console.cursorBottom ≤ t.console.cursorY

theorem bottomed_shared (t : Terminal) : t.bottomed.useGui = t.useGui ∧ t.bottomed.charWidth = t.charWidth ∧
    t.bottomed.charHeight = t.charHeight ∧ t.bottomed.console.cLflag = t.console.cLflag ∧ t.bottomed.drawings = t.drawings := by
  unfold Terminal.bottomed
  by_cases full : t.console.fullscreenFlag = true
  · rw [if_pos full]
    exact ⟨rfl,rfl,rfl,rfl,rfl⟩
  · rw [if_neg full]
    exact ⟨rfl,rfl,rfl,rfl,rfl⟩

theorem bottomed_useGui (t : Terminal) : t.bottomed.useGui = t.useGui := (bottomed_shared t).1

theorem bottomed_drawings (t : Terminal) : t.bottomed.drawings = t.drawings := (bottomed_shared t).2.2.2.2

theorem bottomed_echoes (t : Terminal) : t.bottomed.console.Echoes ↔ t.console.Echoes := by
  unfold Console.Echoes
  rw [(bottomed_shared t).2.2.2.1]

theorem bottomed_sizedFont {t : Terminal} (sized : t.SizedFont) : t.bottomed.SizedFont := by
  obtain ⟨_,width,height,_⟩ := bottomed_shared t
  unfold Terminal.SizedFont
  rw [width,height]
  exact sized

section DrawHere

variable {s : Terminal} {char : Int}

theorem drawHere_above (above : ¬ s.console.cursorBottom ≤ s.console.cursorY) :
    drawHere char s = (drawIfEcho char >>= fun _ => onConsole fun c => c.remember char) s := bind_done (scrollAtBottom_above above)

theorem drawHere_below (below : s.console.cursorBottom ≤ s.console.cursorY) (able : ¬ (s.console.fullscreenFlag = true ∧ s.useGui = false)) :
    drawHere char s = (drawIfEcho char >>= fun _ => onConsole fun c => c.remember char) s.bottomed :=
  bind_done (scrollAtBottom_below below able)

theorem drawHere_off (above : ¬ s.console.cursorBottom ≤ s.console.cursorY) (off : ¬ s.console.Echoes) :
    drawHere char s = .ok () (s.put (s.console.remember char)) := by
  rw [drawHere_above above,bind_done (drawIfEcho_off off)]
  rfl

theorem drawHere_gui (above : ¬ s.console.cursorBottom ≤ s.console.cursorY) (on : s.console.Echoes) (sized : s.SizedFont) (gui : s.useGui = true) :
    drawHere char s = .ok () ((s.drawn char).put (s.console.remember char)) := by
  rw [drawHere_above above,bind_done (drawIfEcho_gui on sized gui)]
  rfl

theorem drawHere_bottom_off (below : s.console.cursorBottom ≤ s.console.cursorY)
    (able : ¬ (s.console.fullscreenFlag = true ∧ s.useGui = false)) (off : ¬ s.console.Echoes) :
    drawHere char s = .ok () (s.bottomed.put (s.bottomed.console.remember char)) := by
  rw [drawHere_below below able,bind_done (drawIfEcho_off (fun on => off ((bottomed_echoes s).mp on)))]
  rfl

theorem drawHere_bottom_gui (below : s.console.cursorBottom ≤ s.console.cursorY) (on : s.console.Echoes) (sized : s.SizedFont)
    (gui : s.useGui = true) : drawHere char s = .ok () ((s.bottomed.drawn char).put (s.bottomed.console.remember char)) := by
  have able : ¬ (s.console.fullscreenFlag = true ∧ s.useGui = false) := by
    rw [gui]
    exact fun both => by cases both.2
  have drawn : drawIfEcho char s.bottomed = _ := drawIfEcho_gui ((bottomed_echoes s).mpr on) (bottomed_sizedFont sized) ((bottomed_useGui s).trans gui)
  rw [drawHere_below below able,bind_done drawn]
  rfl

theorem drawHere_stops (sized : s.SizedFont) (text : s.useGui = false)
    (why : s.console.Echoes ∨ s.console.cursorBottom ≤ s.console.cursorY ∧ s.console.fullscreenFlag = true) :
    ∃ halt t, drawHere char s = .error halt t ∧ SamePicture s t := by
  by_cases below : s.console.cursorBottom ≤ s.console.cursorY
  · by_cases full : s.console.fullscreenFlag = true
    · obtain ⟨halt,stopped⟩ := scrollAtBottom_text below full text
      exact ⟨halt,s,bind_stopped stopped,rfl,rfl⟩
    · have on := (bottomed_echoes s).mpr (why.resolve_right fun both => full both.2)
      have stops : ∃ halt, drawIfEcho char s.bottomed = .error halt s.bottomed :=
        drawIfEcho_text on (bottomed_sizedFont sized) ((bottomed_useGui s).trans text)
      obtain ⟨halt,stopped⟩ := stops
      refine ⟨halt,s.bottomed,(drawHere_below below fun both => full both.1).trans (bind_stopped stopped),?_⟩
      unfold Terminal.bottomed
      rw [if_neg full]
      exact ⟨rfl,rfl⟩
  · have on := why.resolve_right fun both => below both.1
    have stops : ∃ halt, drawIfEcho char s = .error halt s := drawIfEcho_text on sized text
    obtain ⟨halt,stopped⟩ := stops
    exact ⟨halt,s,(drawHere_above below).trans (bind_stopped stopped),rfl,rfl⟩

theorem drawHere_bottom (below : s.console.cursorBottom ≤ s.console.cursorY) (able : ¬ (s.console.fullscreenFlag = true ∧ s.useGui = false))
    (sized : s.SizedFont) (draws : s.console.Echoes → s.useGui = true) :
    ∃ t, drawHere char s = .ok () t ∧ t.console.cursorX = 0 := by
  by_cases on : s.console.Echoes
  · exact ⟨_,drawHere_bottom_gui below on sized (draws on),rfl⟩
  · exact ⟨_,drawHere_bottom_off below able on,rfl⟩

-- Where the character is echoed, it is drawn or the kernel stops.
theorem drawHere_draws (on : s.console.Echoes) (sized : s.SizedFont) (done : drawHere char s = .ok () t) :
    t.drawings.length = s.drawings.length+1 := by
  cases gui : s.useGui with
  | false =>
      have never : ∃ halt u, drawHere char s = .error halt u ∧ SamePicture s u := drawHere_stops sized gui (.inl on)
      obtain ⟨halt,u,stops,_⟩ := never
      cases stops.symm.trans done
  | true =>
      by_cases below : s.console.cursorBottom ≤ s.console.cursorY
      · cases (drawHere_bottom_gui below on sized gui).symm.trans done
        show (s.bottomed.drawings ++ [_]).length = _
        rw [List.length_append,bottomed_drawings]
        rfl
      · cases (drawHere_gui below on sized gui).symm.trans done
        exact List.length_append

end DrawHere

theorem sameShown_of_same {s t : Terminal} (same : SameScreen s t) : SameShown s t := by
  obtain ⟨cells,rfl⟩ := same
  exact ⟨⟨rfl,rfl⟩,rfl,rfl,rfl⟩

theorem previous_column (x : UInt64) : x-1 ≠ x := by
  intro same
  have back := congrArg (· + 1) same
  simp at back

theorem drawStep_closed {s t : Terminal} (same : SameScreen s t) (closed : s.console.Closed) (char : Int) :
    Together SameScreen SamePicture (drawAfterStep char s) (drawBeforeStep char t) := by
  obtain ⟨halt,stops⟩ := collision_closed closed "console_oubyte: l >= r \n" "console_oubyte: t >= b \n"
  rw [← same.console] at closed
  obtain ⟨other,stopped⟩ := collision_closed closed "console_outbyte2: l >= r \n" "console_outbyte2: t >= b \n"
  unfold drawAfterStep drawBeforeStep
  rw [bind_stopped stops,bind_stopped stopped]
  exact same.picture

theorem drawStep_lineEnd {s t : Terminal} (same : SameScreen s t) (room : ¬ s.console.Closed) (ending : s.console.AtLineEnd) (char : Int) :
    Together SameScreen SamePicture (drawAfterStep char s) (drawBeforeStep char t) := by
  have later : Simulates SameScreen SamePicture (pure () : Output Unit)
      (refreshCell >>= fun _ => onConsole fun c => if t.console.AtLineEnd then c else c.goto (c.cursorX+1) c.cursorY) := by
    rintro s' t' ⟨cells,rfl⟩
    refine ⟨cells ++ [(s'.console.cursorX,s'.console.cursorY)],?_⟩
    simp only [same.console,if_pos ending]
    rfl
  have place := same.put (s.console.goto s.console.cursorLeft (s.console.cursorY+1))
  have open_t : ¬ t.console.Closed := by
    rw [same.console]
    exact room
  rw [same.console] at later
  rw [drawAfterStep_open room,drawBeforeStep_open open_t,same.console,if_pos ending,if_pos ending]
  exact (drawHere_same char _ _ place).then later

def Terminal.nextColumn (t : Terminal) : Terminal := t.put (t.console.goto (t.console.cursorX+1) t.console.cursorY)

def Terminal.nextLine (t : Terminal) : Terminal := t.put (t.console.goto t.console.cursorLeft (t.console.cursorY+1))

theorem drawBeforeStep_lineEnd {s t : Terminal} (same : SameScreen s t) (room : ¬ s.console.Closed) (ending : s.console.AtLineEnd) (char : Int) :
    drawBeforeStep char t = (drawHere char >>= fun _ => refreshCell >>= fun _ => onConsole fun c => c) t.nextLine := by
  rw [← same.console] at room ending
  rw [drawBeforeStep_open room]
  simp only [if_pos ending]
  rfl

-- In the middle of a line the two routines draw in neighbouring cells.
section Middle

variable {s t : Terminal} (same : SameScreen s t) (sized : s.SizedFont) (room : ¬ s.console.Closed) (middle : ¬ s.console.AtLineEnd) (char : Int)

include room middle

theorem drawAfterStep_middle : drawAfterStep char s = drawHere char s.nextColumn := by
  rw [drawAfterStep_open room,if_neg middle]
  rfl

include same

theorem drawBeforeStep_middle :
    drawBeforeStep char t = (drawHere char >>= fun _ => refreshCell >>= fun _ => onConsole fun c => c.goto (c.cursorX+1) c.cursorY) t := by
  rw [← same.console] at room middle
  rw [drawBeforeStep_open room]
  simp only [if_neg middle]
  rfl

theorem drawStep_silent (off : ¬ s.console.Echoes) (above : ¬ s.console.cursorBottom ≤ s.console.cursorY) :
    Together SameScreen SamePicture (drawAfterStep char s) (drawBeforeStep char t) := by
  have one : drawHere char s.nextColumn = _ := drawHere_off above off
  have two : drawHere char t = _ := drawHere_off (same.console ▸ above) (same.console ▸ off)
  rw [drawAfterStep_middle room middle,drawBeforeStep_middle same room middle,one,bind_done two]
  obtain ⟨cells,rfl⟩ := same
  exact ⟨_,rfl⟩

include sized

theorem drawStep_stops (text : s.useGui = false)
    (why : s.console.Echoes ∨ s.console.cursorBottom ≤ s.console.cursorY ∧ s.console.fullscreenFlag = true) :
    Together SameScreen SamePicture (drawAfterStep char s) (drawBeforeStep char t) := by
  have one : ∃ halt u, drawHere char s.nextColumn = .error halt u ∧ SamePicture s.nextColumn u := drawHere_stops sized text why
  have two : ∃ halt u, drawHere char t = .error halt u ∧ SamePicture t u :=
    drawHere_stops (same.sizedFont sized) (same.useGui.trans text) (same.console ▸ why)
  obtain ⟨halt,u,stops,picture⟩ := one
  obtain ⟨other,v,stopped,shown⟩ := two
  rw [drawAfterStep_middle room middle,drawBeforeStep_middle same room middle,stops,bind_stopped stopped]
  obtain ⟨cells,rfl⟩ := same
  exact ⟨picture.1.symm.trans shown.1,picture.2.symm.trans shown.2⟩

theorem drawStep_drawn (on : s.console.Echoes) (gui : s.useGui = true) (above : ¬ s.console.cursorBottom ≤ s.console.cursorY) :
    ¬ SameOutput (drawAfterStep char s) (drawBeforeStep char t) := by
  have one : drawHere char s.nextColumn = _ := drawHere_gui above on sized gui
  have two : drawHere char t = _ :=
    drawHere_gui (same.console ▸ above) (same.console ▸ on) (same.sizedFont sized) (same.useGui.trans gui)
  rw [drawAfterStep_middle room middle,drawBeforeStep_middle same room middle,one,bind_done two]
  intro shown
  have drawings := shown.1.1
  obtain ⟨cells,rfl⟩ := same
  have cell : (s.nextColumn.drawn char).drawings.map Drawing.cell = (s.drawn char).drawings.map Drawing.cell := drawings
  simp [Terminal.drawn,Terminal.nextColumn,Terminal.put,Console.goto,Drawing.cell] at cell

theorem drawStep_bottom (below : s.console.cursorBottom ≤ s.console.cursorY) (able : ¬ (s.console.fullscreenFlag = true ∧ s.useGui = false))
    (draws : s.console.Echoes → s.useGui = true) : ¬ SameOutput (drawAfterStep char s) (drawBeforeStep char t) := by
  have one : ∃ u, drawHere char s.nextColumn = .ok () u ∧ u.console.cursorX = 0 := drawHere_bottom below able sized draws
  have two : ∃ u, drawHere char t = .ok () u ∧ u.console.cursorX = 0 := by
    apply drawHere_bottom (same.console ▸ below) _ (same.sizedFont sized)
    · intro on
      rw [same.useGui]
      exact draws (same.console ▸ on)
    · rw [same.console,same.useGui]
      exact able
  obtain ⟨u,first,start⟩ := one
  obtain ⟨v,second,begin⟩ := two
  rw [drawAfterStep_middle room middle,drawBeforeStep_middle same room middle,first,bind_done second]
  intro shown
  have apart : u.console.cursorX = v.console.cursorX+1 := shown.2.1
  rw [start,begin] at apart
  cases apart

end Middle

theorem drawStep_same {s t : Terminal} (same : SameScreen s t) (sized : s.SizedFont) (alike : DrawsAlike s) (char : Int) :
    Together SameScreen SamePicture (drawAfterStep char s) (drawBeforeStep char t) := by
  by_cases closed : s.console.Closed
  · exact drawStep_closed same closed char
  · by_cases ending : s.console.AtLineEnd
    · exact drawStep_lineEnd same closed ending char
    · obtain ⟨text,why⟩ | ⟨off,above⟩ := (alike.resolve_left ending).resolve_left closed
      · exact drawStep_stops same sized closed ending char text why
      · exact drawStep_silent same closed ending char off above

theorem drawStep_differs {s t : Terminal} (same : SameScreen s t) (sized : s.SizedFont) (other : ¬ DrawsAlike s) (char : Int) :
    ¬ SameOutput (drawAfterStep char s) (drawBeforeStep char t) := by
  unfold DrawsAlike at other
  simp only [not_or] at other
  obtain ⟨middle,room,able,loud⟩ := other
  have draws : s.console.Echoes → s.useGui = true := by
    intro on
    by_contra text
    exact able ⟨by simpa using text,.inl on⟩
  by_cases below : s.console.cursorBottom ≤ s.console.cursorY
  · exact drawStep_bottom same sized room middle char below (fun both => able ⟨both.2,.inr ⟨below,both.1⟩⟩) draws
  · have on : s.console.Echoes := fun off => loud ⟨fun on => on off,below⟩
    exact drawStep_drawn same sized room middle char on (draws on) below

-- A console of one cell where nothing is drawn: the routine that falls through to the
-- drawing comes back to where it was.
structure SingleCell (c : Console) : Prop where
  x : c.cursorX = 0
  y : c.cursorY = 0
  left : c.cursorLeft = 0
  top : c.cursorTop = 0
  right : c.cursorRight = 1
  bottom : c.cursorBottom = 1
  window : c.fullscreenFlag = false
  silent : ¬ c.Echoes

def Special (char : UInt8) : Prop :=
  char = Ascii.formFeed ∨ char = Ascii.newline ∨ char = Ascii.carriageReturn ∨ char = Ascii.tab ∨ char = Ascii.space

-- When the two routines do the same with a character.
def SameEffect (t : Terminal) (char : UInt8) : Prop :=
  ¬ t.SizedFont ∨ t.console.initialized = false ∨ Special char ∨
    (char = Ascii.backspace ∧ (t.console.cursorLeft < t.console.cursorX ∨ SingleCell t.console)) ∨
    (char ≠ Ascii.backspace ∧ DrawsAlike t)

section FallThrough

theorem one_column {left right : UInt64} (room : ¬ right ≤ left) (ending : right-1 ≤ 0) : left = 0 ∧ right = 1 := by
  rw [UInt64.le_iff_toNat_le] at room ending
  rw [UInt64.toNat_sub] at ending
  simp only [← UInt64.toNat_inj]
  have low := left.toNat_lt
  have high := right.toNat_lt
  simp at ending ⊢
  omega

theorem one_line {top bottom : UInt64} (room : ¬ bottom ≤ top) (below : bottom ≤ 0+1) : top = 0 ∧ bottom = 1 := by
  rw [UInt64.le_iff_toNat_le] at room below
  simp only [← UInt64.toNat_inj]
  simp at below ⊢
  omega

variable {s t : Terminal} (same : SameScreen s t) (sized : s.SizedFont) (x : s.console.cursorX = 0) (y : s.console.cursorY = 0) (char : Int)

include same

theorem fallThrough_open (shown : SameOutput (.ok () s) (drawBeforeStep char t)) : ¬ s.console.Closed := by
  intro closed
  rw [← same.console] at closed
  obtain ⟨halt,stops⟩ := collision_closed closed "console_outbyte2: l >= r \n" "console_outbyte2: t >= b \n"
  unfold drawBeforeStep at shown
  rw [bind_stopped stops] at shown
  exact shown

include sized

theorem fallThrough_silent (shown : SameOutput (.ok () s) (drawBeforeStep char t)) : ¬ s.console.Echoes := by
  intro on
  have room := fallThrough_open same char shown
  rw [← same.console] at room on
  rw [drawBeforeStep_open room] at shown
  obtain ⟨place,here⟩ : ∃ place, place = t.put (if t.console.AtLineEnd then t.console.goto t.console.cursorLeft (t.console.cursorY+1) else t.console) :=
    ⟨_,rfl⟩
  have echoes : place.console.Echoes := by
    rw [here]
    split
    · exact on
    · exact on
  have font : place.SizedFont := by
    rw [here]
    exact same.sizedFont sized
  have drawings : place.drawings = t.drawings := by
    rw [here]
    rfl
  rw [← here] at shown
  cases done : drawHere char place with
  | error halt u =>
      rw [bind_stopped done] at shown
      exact shown
  | ok _ u =>
      have more := drawHere_draws echoes font done
      rw [bind_done done] at shown
      have cells : s.drawings.map Drawing.cell = u.drawings.map Drawing.cell := shown.1.1
      have count := congrArg List.length (cells.symm.trans same.picture.1)
      rw [List.length_map,List.length_map,more,drawings] at count
      omega

include x y

theorem fallThrough_middle (middle : ¬ s.console.AtLineEnd) : ¬ SameOutput (.ok () s) (drawBeforeStep char t) := by
  intro shown
  have room := fallThrough_open same char shown
  have off := fallThrough_silent same sized char shown
  have above : ¬ s.console.cursorBottom ≤ s.console.cursorY := by
    rw [y]
    intro low
    exact room (.inr (UInt64.le_trans low UInt64.zero_le))
  have done : drawHere char t = _ := drawHere_off (same.console ▸ above) (same.console ▸ off)
  rw [drawBeforeStep_middle same room middle,bind_done done] at shown
  have column : s.console.cursorX = t.console.cursorX+1 := shown.2.1
  rw [same.console,x] at column
  cases column

theorem fallThrough_lineEnd (ending : s.console.AtLineEnd) (shown : SameOutput (.ok () s) (drawBeforeStep char t)) : SingleCell s.console := by
  have room := fallThrough_open same char shown
  have off := fallThrough_silent same sized char shown
  obtain ⟨wide,high⟩ := not_or.mp room
  obtain ⟨left,right⟩ := one_column wide (x ▸ ending)
  rw [drawBeforeStep_lineEnd same room ending] at shown
  by_cases below : s.console.cursorBottom ≤ s.console.cursorY+1
  · obtain ⟨top,bottom⟩ := one_line high (y ▸ below)
    by_cases full : s.console.fullscreenFlag = true
    · rw [← same.console] at below full off
      cases gui : t.useGui with
      | false =>
          have never : ∃ halt u, drawHere char t.nextLine = .error halt u ∧ SamePicture t.nextLine u :=
            drawHere_stops (same.sizedFont sized) gui (.inr ⟨below,full⟩)
          obtain ⟨halt,u,stops,_⟩ := never
          rw [bind_stopped stops] at shown
          exact shown.elim
      | true =>
          have able : ¬ (t.nextLine.console.fullscreenFlag = true ∧ t.nextLine.useGui = false) := by
            rintro ⟨_,text⟩
            cases gui.symm.trans text
          have done : drawHere char t.nextLine = _ := drawHere_bottom_off below able off
          rw [bind_done done] at shown
          have scrolls : s.scrolls = t.nextLine.bottomed.scrolls := shown.1.2
          unfold Terminal.bottomed at scrolls
          rw [if_pos (show t.nextLine.console.fullscreenFlag = true from full)] at scrolls
          have more : s.scrolls = t.scrolls+1 := scrolls
          have before := same.picture.2
          omega
    · exact ⟨x,y,left,top,right,bottom,by simpa using full,off⟩
  · rw [← same.console] at below off
    have done : drawHere char t.nextLine = _ := drawHere_off below off
    rw [bind_done done] at shown
    have line : s.console.cursorY = t.console.cursorY+1 := shown.2.2.1
    rw [same.console,y] at line
    cases line

end FallThrough

theorem SingleCell.back {c : Console} (single : SingleCell c) {char : Int} (remembered : c.prevChar = UInt8.ofInt char) :
    (c.goto 0 (c.cursorBottom-1)).remember char = c := by
  obtain ⟨x,y,_,_,_,bottom,_,_⟩ := single
  have line : c.cursorBottom-1 = c.cursorY := by
    rw [bottom,y]
    rfl
  unfold Console.goto Console.remember
  rw [line,← x,← remembered]

-- With nothing to draw the fall through leaves the single cell as it is.
theorem singleCell_same {s t : Terminal} (same : SameScreen s t) (single : SingleCell s.console) (char : Int)
    (remembered : s.console.prevChar = UInt8.ofInt char) : Together SameScreen SamePicture ((pure () : Output Unit) s) (drawBeforeStep char t) := by
  obtain ⟨x,y,left,top,right,bottom,window,silent⟩ := single
  have room : ¬ s.console.Closed := by
    unfold Console.Closed
    rw [left,top,right,bottom]
    decide
  have ending : s.console.AtLineEnd := by
    unfold Console.AtLineEnd
    rw [right,x]
    decide
  have below : s.console.cursorBottom ≤ s.console.cursorY+1 := by
    rw [bottom,y]
    decide
  have able : ¬ (s.console.fullscreenFlag = true ∧ s.useGui = false) := by
    rw [window]
    rintro ⟨never,_⟩
    cases never
  have back := SingleCell.back ⟨x,y,left,top,right,bottom,window,silent⟩ remembered
  rw [drawBeforeStep_lineEnd same room ending]
  obtain ⟨cells,rfl⟩ := same
  have done : drawHere char (Terminal.nextLine {s with refreshed := cells}) = _ := drawHere_bottom_off below able silent
  have place : (Terminal.nextLine {s with refreshed := cells}).bottomed.console.remember char = s.console := by
    unfold Terminal.bottomed
    rw [if_neg (show ¬ (Terminal.nextLine {s with refreshed := cells}).console.fullscreenFlag = true from fun full => by cases window.symm.trans full)]
    exact back
  rw [bind_done done,place]
  unfold Terminal.bottomed
  rw [if_neg (show ¬ (Terminal.nextLine {s with refreshed := cells}).console.fullscreenFlag = true from fun full => by cases window.symm.trans full)]
  exact ⟨_,rfl⟩

-- What the routines do with each character, on a console that is in use.
structure InUse (t : Terminal) : Prop where
  sized : t.SizedFont
  initialized : ¬ t.console.initialized = false

def Console.backspaced (c : Console) : Console := if c.cursorLeft < c.cursorX then c.goto (c.cursorX-1) c.cursorY else c

section Dispatch

variable {s t : Terminal} {char : UInt8}

theorem outbyte_special (same : SameScreen s t) (used : InUse s) (special : Special char) :
    Together SameScreen SamePicture (consoleOutbyte char.toNat s) (consoleOutbyte2 char.toNat t) := by
  obtain ⟨cells,rfl⟩ := same
  have same : SameScreen s {s with refreshed := cells} := ⟨cells,rfl⟩
  unfold consoleOutbyte consoleOutbyte2
  rw [get_bind,get_bind]
  simp only [Int.natCast_inj,UInt8.toNat_inj]
  rw [if_neg used.sized,if_neg used.sized,if_neg used.initialized,if_neg used.initialized,if_neg (Int.not_lt.mpr (Int.natCast_nonneg _))]
  by_cases feed : char = Ascii.formFeed
  · rw [if_pos feed,if_pos feed]
    exact onConsole_same _ _ _ same
  rw [if_neg feed,if_neg feed]
  by_cases line : char = Ascii.newline
  · by_cases carried : s.console.prevChar = Ascii.carriageReturn
    · rw [if_pos ⟨line,carried⟩,if_pos ⟨line,carried⟩]
      exact newlineAfterReturn_same _ _ _ same
    · have first : ¬ (char = Ascii.newline ∧ s.console.prevChar = Ascii.carriageReturn) := fun both => carried both.2
      rw [if_neg first,if_neg first,if_pos ⟨line,carried⟩,if_pos ⟨line,carried⟩]
      exact newlineAlone_same _ _ _ same
  have first : ¬ (char = Ascii.newline ∧ s.console.prevChar = Ascii.carriageReturn) := fun both => line both.1
  have second : ¬ (char = Ascii.newline ∧ s.console.prevChar ≠ Ascii.carriageReturn) := fun both => line both.1
  rw [if_neg first,if_neg first,if_neg second,if_neg second]
  by_cases carriage : char = Ascii.carriageReturn
  · have tab : char ≠ Ascii.tab := by
      rw [carriage]
      decide
    rw [if_pos carriage,if_neg tab,if_pos carriage]
    exact onConsole_same _ _ _ same
  by_cases tab : char = Ascii.tab
  · rw [if_neg carriage,if_pos tab,if_pos tab]
    exact onConsole_same _ _ _ same
  · have space := (((special.resolve_left feed).resolve_left line).resolve_left carriage).resolve_left tab
    rw [if_neg carriage,if_neg tab,if_pos space,if_neg tab,if_neg carriage,if_pos space]
    exact onConsole_same _ _ _ same

theorem outbyte_plain (used : InUse s) (plain : ¬ Special char) (other : char ≠ Ascii.backspace) :
    consoleOutbyte char.toNat s = drawAfterStep char.toNat s ∧ consoleOutbyte2 char.toNat s = drawBeforeStep char.toNat s := by
  unfold Special at plain
  simp only [not_or] at plain
  obtain ⟨feed,line,carriage,tab,space⟩ := plain
  unfold consoleOutbyte consoleOutbyte2
  rw [get_bind,get_bind]
  simp only [Int.natCast_inj,UInt8.toNat_inj,feed,line,carriage,tab,space,other,if_false,false_and]
  rw [if_neg used.sized,if_neg used.sized,if_neg used.initialized,if_neg used.initialized,if_neg (Int.not_lt.mpr (Int.natCast_nonneg _))]
  exact ⟨rfl,rfl⟩

theorem outbyte_backspace (used : InUse s) :
    consoleOutbyte Ascii.backspace.toNat s = .ok () (s.put (s.console.backspaced.remember Ascii.backspace.toNat)) := by
  unfold consoleOutbyte
  rw [get_bind]
  simp only [Int.natCast_inj,UInt8.toNat_inj]
  rw [if_neg used.sized,if_neg used.initialized]
  rfl

def Terminal.erasing (t : Terminal) : Terminal := t.put (t.console.remember Ascii.backspace.toNat)

theorem outbyte2_backspace (used : InUse s) :
    consoleOutbyte2 Ascii.backspace.toNat s =
      if 0 < s.console.cursorX then .ok () (s.erasing.put (s.erasing.console.goto (s.console.cursorX-1) s.console.cursorY))
      else if 0 < s.console.cursorY then .ok () (s.erasing.put (s.erasing.console.goto (s.console.cursorRight-1) (s.console.cursorY-1)))
      else drawBeforeStep Ascii.backspace.toNat s.erasing := by
  unfold consoleOutbyte2
  rw [get_bind]
  simp only [Int.natCast_inj,UInt8.toNat_inj]
  rw [if_neg used.sized,if_neg used.initialized]
  by_cases x : 0 < s.console.cursorX
  · rw [if_pos x,if_pos x]
    rfl
  · rw [if_neg x,if_neg x]
    by_cases y : 0 < s.console.cursorY
    · rw [if_pos y,if_pos y]
      rfl
    · rw [if_neg y,if_neg y]
      rfl

theorem SameScreen.inUse (same : SameScreen s t) (used : InUse s) : InUse t := by
  obtain ⟨cells,rfl⟩ := same
  exact ⟨used.sized,used.initialized⟩

theorem SameScreen.erasing (same : SameScreen s t) : SameScreen s.erasing t.erasing := by
  obtain ⟨cells,rfl⟩ := same
  exact ⟨cells,rfl⟩

theorem erased_cell (single : SingleCell s.erasing.console) : SingleCell s.console :=
  ⟨single.x,single.y,single.left,single.top,single.right,single.bottom,single.window,single.silent⟩

theorem backspace_unmoved (used : InUse s) (low : ¬ s.console.cursorLeft < s.console.cursorX) :
    consoleOutbyte Ascii.backspace.toNat s = .ok () s.erasing := by
  rw [outbyte_backspace used]
  unfold Console.backspaced
  rw [if_neg low]
  rfl

theorem backspace_start (same : SameScreen s t) (used : InUse s) (x : ¬ 0 < s.console.cursorX) (y : ¬ 0 < s.console.cursorY) :
    consoleOutbyte2 Ascii.backspace.toNat t = drawBeforeStep Ascii.backspace.toNat t.erasing := by
  rw [outbyte2_backspace (same.inUse used),same.console,if_neg x,if_neg y]

theorem backspace_same (same : SameScreen s t) (used : InUse s) (fine : s.console.cursorLeft < s.console.cursorX ∨ SingleCell s.console) :
    Together SameScreen SamePicture (consoleOutbyte Ascii.backspace.toNat s) (consoleOutbyte2 Ascii.backspace.toNat t) := by
  by_cases inside : s.console.cursorLeft < s.console.cursorX
  · have x : 0 < s.console.cursorX := UInt64.lt_of_le_of_lt UInt64.zero_le inside
    rw [outbyte_backspace used,outbyte2_backspace (same.inUse used),same.console,if_pos x]
    unfold Console.backspaced
    rw [if_pos inside]
    obtain ⟨cells,rfl⟩ := same
    exact ⟨cells,rfl⟩
  · have single := fine.resolve_left inside
    have x : ¬ 0 < s.console.cursorX := by
      rw [single.x]
      decide
    have y : ¬ 0 < s.console.cursorY := by
      rw [single.y]
      decide
    have erased : SingleCell s.erasing.console :=
      ⟨single.x,single.y,single.left,single.top,single.right,single.bottom,single.window,single.silent⟩
    rw [backspace_unmoved used inside,backspace_start same used x y]
    exact singleCell_same same.erasing erased _ rfl

theorem backspace_differs (same : SameScreen s t) (used : InUse s) (low : ¬ s.console.cursorLeft < s.console.cursorX)
    (several : ¬ SingleCell s.console) : ¬ SameOutput (consoleOutbyte Ascii.backspace.toNat s) (consoleOutbyte2 Ascii.backspace.toNat t) := by
  rw [backspace_unmoved used low]
  intro shown
  by_cases x : 0 < s.console.cursorX
  · rw [outbyte2_backspace (same.inUse used),same.console,if_pos x] at shown
    exact previous_column s.console.cursorX shown.2.1.symm
  · by_cases y : 0 < s.console.cursorY
    · rw [outbyte2_backspace (same.inUse used),same.console,if_neg x,if_pos y] at shown
      exact previous_column s.console.cursorY shown.2.2.1.symm
    · rw [backspace_start same used x y] at shown
      have column : s.console.cursorX = 0 := by
        simpa using x
      have line : s.console.cursorY = 0 := by
        simpa using y
      have sized : s.erasing.SizedFont := used.sized
      have single : SingleCell s.erasing.console := by
        by_cases ending : s.erasing.console.AtLineEnd
        · exact fallThrough_lineEnd same.erasing sized column line _ ending shown
        · exact absurd shown (fallThrough_middle same.erasing sized column line _ ending)
      exact several (erased_cell single)

end Dispatch

theorem outbyte_unused {s t : Terminal} (same : SameScreen s t) (idle : ¬ s.SizedFont ∨ s.console.initialized = false) (char : Int) :
    Together SameScreen SamePicture (consoleOutbyte char s) (consoleOutbyte2 char t) := by
  obtain ⟨cells,rfl⟩ := same
  unfold consoleOutbyte consoleOutbyte2
  rw [get_bind,get_bind]
  dsimp only
  by_cases size : s.charWidth = 0 ∨ s.charHeight = 0
  · rw [if_pos size,if_pos size]
    exact ⟨rfl,rfl⟩
  · have unused := idle.resolve_left (not_not.mpr size)
    rw [if_neg size,if_neg size,if_pos unused,if_pos unused]
    exact ⟨cells,rfl⟩

-- One character: the routines do the same exactly when the condition holds.
theorem outbyte_same {s t : Terminal} (same : SameScreen s t) {char : UInt8} (alike : SameEffect s char) :
    Together SameScreen SamePicture (consoleOutbyte char.toNat s) (consoleOutbyte2 char.toNat t) := by
  by_cases sized : s.SizedFont
  · by_cases initialized : s.console.initialized = false
    · exact outbyte_unused same (.inr initialized) _
    · have used : InUse s := ⟨sized,initialized⟩
      have kind := (alike.resolve_left (not_not.mpr sized)).resolve_left initialized
      by_cases special : Special char
      · exact outbyte_special same used special
      · rcases kind.resolve_left special with ⟨rfl,fine⟩ | ⟨other,drawn⟩
        · exact backspace_same same used fine
        · rw [(outbyte_plain used special other).1,(outbyte_plain (same.inUse used) special other).2]
          exact drawStep_same same sized drawn _
  · exact outbyte_unused same (.inl sized) _

theorem outbyte_differs {s t : Terminal} (same : SameScreen s t) {char : UInt8} (other : ¬ SameEffect s char) :
    ¬ SameOutput (consoleOutbyte char.toNat s) (consoleOutbyte2 char.toNat t) := by
  unfold SameEffect at other
  obtain ⟨font,kind⟩ := not_or.mp other
  obtain ⟨initialized,kind⟩ := not_or.mp kind
  obtain ⟨plain,kind⟩ := not_or.mp kind
  obtain ⟨erasing,drawing⟩ := not_or.mp kind
  have sized : s.SizedFont := not_not.mp font
  have used : InUse s := ⟨sized,initialized⟩
  by_cases erases : char = Ascii.backspace
  · subst erases
    have both := not_or.mp fun fine => erasing ⟨rfl,fine⟩
    exact backspace_differs same used both.1 both.2
  · rw [(outbyte_plain used plain erases).1,(outbyte_plain (same.inUse used) plain erases).2]
    exact drawStep_differs same sized (fun drawn => drawing ⟨erases,drawn⟩) _

-- A text, one character after the other.
def print (outbyte : Int → Output Unit) (text : List UInt8) : Output Unit := forM text fun char => outbyte char.toNat

theorem print_snoc (outbyte : Int → Output Unit) (text : List UInt8) (char : UInt8) :
    print outbyte (text ++ [char]) = print outbyte text >>= fun _ => outbyte char.toNat := by
  unfold print
  rw [List.forM_append,List.forM_cons,List.forM_nil,bind_pure_unit]

-- Each character of the text meets the condition in the state before it.
def AllAlike (text : List UInt8) (t : Terminal) : Prop :=
  ∀ before char after, text = before ++ char :: after → ∀ u, print consoleOutbyte before t = .ok () u → SameEffect u char

def SameOutputs (text : List UInt8) (t : Terminal) : Prop := SameOutput (print consoleOutbyte text t) (print consoleOutbyte2 text t)

theorem allAlike_snoc {text : List UInt8} {char : UInt8} {t : Terminal} :
    AllAlike (text ++ [char]) t ↔ AllAlike text t ∧ ∀ u, print consoleOutbyte text t = .ok () u → SameEffect u char := Runs.forall_labels_snoc

theorem print_same {text : List UInt8} {t : Terminal} (alike : AllAlike text t) :
    Together SameScreen SamePicture (print consoleOutbyte text t) (print consoleOutbyte2 text t) := by
  induction text using List.reverseRecOn with
  | nil => exact sameScreen_refl t
  | append_singleton text char ih =>
      obtain ⟨earlier,last⟩ := allAlike_snoc.mp alike
      rw [print_snoc,print_snoc]
      exact (ih earlier).bind_at fun u v done _ same => outbyte_same same (last u done)

-- The two routines agree on all the beginnings of a text exactly when each of its
-- characters meets the condition.
theorem console_paths_iff (text : List UInt8) (t : Terminal) :
    (∀ before, before <+: text → SameOutputs before t) ↔ AllAlike text t := by
  constructor
  · intro agree
    induction text using List.reverseRecOn with
    | nil =>
        intro before char after same
        simp at same
    | append_singleton text char ih =>
        have earlier := ih fun before begins => agree before (begins.trans (List.prefix_append _ _))
        refine allAlike_snoc.mpr ⟨earlier,fun u done => ?_⟩
        obtain ⟨v,met,same⟩ := (print_same earlier).ok done
        have whole := agree (text ++ [char]) (List.prefix_refl _)
        unfold SameOutputs at whole
        rw [print_snoc,print_snoc,bind_done done,bind_done met] at whole
        by_contra other
        exact outbyte_differs same other whole
  · rintro alike before ⟨rest,rfl⟩
    have begins : AllAlike before t := fun first char after same => alike first char (after ++ rest) (by simp [same])
    exact (print_same begins).weaken fun _ _ => sameShown_of_same

-- A console of 100 columns and 75 lines after its initialization.
def bootTerminal : Terminal where
  useGui := true
  charWidth := 8
  charHeight := 8
  font8x16 := false
  stdioTerminalmodeFlag := true
  stdioVerbosemodeFlag := true
  savedX := 0
  savedY := 0
  escapeSequenceStage := .text
  par := fun _ => 0
  npar := 0
  written := []
  drawings := []
  scrolls := 0
  refreshed := []
  console := Console.ddinit ⟨0,false,0,0,0,0,0,0,0,false,0⟩ 800 600

-- "A" is drawn in two cells, and a backspace at the start of the second line leaves the
-- cursor on different lines.
theorem console_paths_deviate : ¬ SameOutputs [65] bootTerminal ∧ ¬ SameOutputs [10,8] bootTerminal := by
  constructor
  · intro same
    have cells : [((65 : Int),(1 : UInt64),(0 : UInt64))] = [(65,0,0)] := same.1.1
    cases cells
  · intro same
    have lines : (1 : UInt64) = 0 := same.2.2.1
    cases lines

end GramadoKernel
