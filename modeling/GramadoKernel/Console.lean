import GramadoKernel.Library.Stateful
import GramadoKernel.State

namespace GramadoKernel

-- CONSOLETTYS_COUNT_MAX, NPAR and ECHO
def consolettysCountMax : Nat := 4
def nparMax : Nat := 16
def echo : UInt32 := 1

namespace Ascii

def backspace : UInt8 := 8
def tab : UInt8 := 9
def newline : UInt8 := 10
def formFeed : UInt8 := 12
def carriageReturn : UInt8 := 13
def escape : UInt8 := 27
def space : UInt8 := 32

end Ascii

-- struct tty_d of a virtual console: what its output reads and writes.
structure Console where
  magic : Nat
  initialized : Bool
  prevChar : UInt8
  cursorX : UInt64
  cursorY : UInt64
  cursorLeft : UInt64
  cursorTop : UInt64
  cursorRight : UInt64
  cursorBottom : UInt64
  fullscreenFlag : Bool
  cLflag : UInt32

-- A character given to d_draw_char, with the limits of its console at that time.
structure Drawing where
  char : Int
  x : UInt64
  y : UInt64
  right : UInt64
  bottom : UInt64
  deriving DecidableEq

-- Where an escape sequence is: the values 0 to 4 of __EscapeSequenceStage.
inductive EscapeSequenceStage where
  | text
  | escape
  | csi
  | parameters
  | final
  deriving DecidableEq

-- What the consoles share: the video block, the font, the flags of stdio.c and the
-- variables of console.c; and what the display was told to do. Pixels are not modelled.
structure Shared where
  useGui : Bool
  charWidth : UInt32
  charHeight : UInt32
  font8x16 : Bool
  stdioTerminalmodeFlag : Bool
  stdioVerbosemodeFlag : Bool
  savedX : Int
  savedY : Int
  escapeSequenceStage : EscapeSequenceStage
  par : Nat → UInt64
  npar : Nat
  -- the places of par[] that were written
  written : List Nat
  drawings : List Drawing
  scrolls : Nat
  refreshed : List (UInt64 × UInt64)

structure Terminal extends Shared where
  console : Console

abbrev Output := EStateM Halt Terminal

def Console.goto (c : Console) (x y : UInt64) : Console := {c with cursorX := x, cursorY := y}

def Console.remember (c : Console) (char : Int) : Console := {c with prevChar := UInt8.ofInt char}

def Terminal.put (t : Terminal) (console : Console) : Terminal := {t with console := console}

def onConsole (change : Console → Console) : Output Unit := modify fun t => t.put (change t.console)

-- Only the low 16 bits of the limits come back.
def Console.scrolled (c : Console) : Console :=
  {c with
    cursorLeft := c.cursorLeft &&& 0xFFFF
    cursorTop := c.cursorTop &&& 0xFFFF
    cursorRight := c.cursorRight &&& 0xFFFF
    cursorBottom := c.cursorBottom &&& 0xFFFF
    cursorX := 0
    cursorY := (c.cursorBottom &&& 0xFFFF)-1}

def Terminal.scrolled (t : Terminal) : Terminal := {t with console := t.console.scrolled, scrolls := t.scrolls+1}

def consoleScrollRect : Output Unit := do
  let t ← get
  if t.useGui = false then throw (.panic "console_scroll_rect: no GUI\n")
  else modify Terminal.scrolled

def scrollIfFullscreen : Output Unit := do
  let t ← get
  if t.console.fullscreenFlag = true then consoleScrollRect else pure ()

-- d_draw_char sets the size of the font.
def Terminal.drawn (t : Terminal) (char : Int) : Terminal :=
  {t with
    drawings := t.drawings ++ [⟨char,t.console.cursorX,t.console.cursorY,t.console.cursorRight,t.console.cursorBottom⟩]
    charWidth := 8
    charHeight := if t.font8x16 = true then 16 else 8}

def consoleDrawOutbyte (char : Int) : Output Unit := do
  let t ← get
  if t.charWidth = 0 ∨ t.charHeight = 0 then throw (.panic "__ConsoleDraw_Outbyte: fail w h")
  else if t.useGui = false then throw (.panic "__ConsoleDraw_Outbyte: kernel in text mode")
  else modify fun t => t.drawn char

-- refresh_rectangle for the cell at the cursor
def refreshCell : Output Unit := modify fun t => {t with refreshed := t.refreshed ++ [(t.console.cursorX,t.console.cursorY)]}

def Console.lastLine (c : Console) : Console := c.goto c.cursorX (c.cursorBottom-1)

-- '\n' after '\r'
def newlineAfterReturn (char : Int) : Output Unit := do
  let t ← get
  if t.console.cursorBottom ≤ t.console.cursorY then do
    scrollIfFullscreen
    onConsole fun c => c.lastLine.remember char
  else onConsole fun c => (c.goto c.cursorLeft (c.cursorY+1)).remember char

-- '\n' after anything else
def newlineAlone (char : Int) : Output Unit := do
  let t ← get
  if t.console.cursorBottom ≤ t.console.cursorY then do
    scrollIfFullscreen
    onConsole fun c => c.lastLine.remember char
  else
    onConsole fun c =>
      let x := if t.stdioTerminalmodeFlag = true ∨ t.stdioVerbosemodeFlag = true then c.cursorLeft else c.cursorX
      (c.goto x (c.cursorY+1)).remember char

-- Out of screen
def collision (horizontal vertical : String) : Output Unit := do
  let t ← get
  if t.console.cursorRight ≤ t.console.cursorLeft then throw (.panic horizontal)
  else if t.console.cursorBottom ≤ t.console.cursorTop then throw (.panic vertical)
  else pure ()

def Console.AtLineEnd (c : Console) : Prop := c.cursorRight-1 ≤ c.cursorX

instance (c : Console) : Decidable c.AtLineEnd := inferInstanceAs (Decidable (_ ≤ _))

def scrollAtBottom : Output Unit := do
  let t ← get
  if t.console.cursorBottom ≤ t.console.cursorY then do
    scrollIfFullscreen
    onConsole fun c => c.goto 0 (c.cursorBottom-1)
  else pure ()

def drawIfEcho (char : Int) : Output Unit := do
  let t ← get
  if t.console.cLflag &&& echo ≠ 0 then consoleDrawOutbyte char else pure ()

-- The end of console_outbyte: the column is counted first.
def drawAfterStep (char : Int) : Output Unit := do
  collision "console_oubyte: l >= r \n" "console_oubyte: t >= b \n"
  onConsole fun c => if c.AtLineEnd then c.goto c.cursorLeft (c.cursorY+1) else c.goto (c.cursorX+1) c.cursorY
  scrollAtBottom
  drawIfEcho char
  onConsole fun c => c.remember char

-- The end of console_outbyte2: the column is counted last.
def drawBeforeStep (char : Int) : Output Unit := do
  collision "console_outbyte2: l >= r \n" "console_outbyte2: t >= b \n"
  let t ← get
  onConsole fun c => if c.AtLineEnd then c.goto c.cursorLeft (c.cursorY+1) else c
  scrollAtBottom
  drawIfEcho char
  onConsole fun c => c.remember char
  refreshCell
  onConsole fun c => if t.console.AtLineEnd then c else c.goto (c.cursorX+1) c.cursorY

def consoleOutbyte (char : Int) : Output Unit := do
  let t ← get
  let c := t.console
  if t.charWidth = 0 ∨ t.charHeight = 0 then throw (.panic "console_outbyte: char size")
  else if c.initialized = false then pure ()
  else if char < 0 then pure ()
  else if char = Ascii.formFeed.toNat then onConsole fun c => c.goto c.cursorLeft c.cursorTop
  else if char = Ascii.newline.toNat ∧ c.prevChar = Ascii.carriageReturn then newlineAfterReturn char
  else if char = Ascii.newline.toNat ∧ c.prevChar ≠ Ascii.carriageReturn then newlineAlone char
  else if char = Ascii.carriageReturn.toNat then onConsole fun c => (c.goto c.cursorLeft c.cursorY).remember char
  else if char = Ascii.tab.toNat then onConsole fun c => (c.goto (c.cursorX+8) c.cursorY).remember char
  else if char = Ascii.space.toNat then onConsole fun c => (c.goto (c.cursorX+1) c.cursorY).remember char
  else if char = Ascii.backspace.toNat then
    onConsole fun c => (if c.cursorLeft < c.cursorX then c.goto (c.cursorX-1) c.cursorY else c).remember char
  else drawAfterStep char

def consoleOutbyte2 (char : Int) : Output Unit := do
  let t ← get
  let c := t.console
  if t.charWidth = 0 ∨ t.charHeight = 0 then throw (.panic "console_outbyte2: char size")
  else if c.initialized = false then pure ()
  else if char = Ascii.formFeed.toNat then onConsole fun c => c.goto c.cursorLeft c.cursorTop
  else if char = Ascii.newline.toNat ∧ c.prevChar = Ascii.carriageReturn then newlineAfterReturn char
  else if char = Ascii.newline.toNat ∧ c.prevChar ≠ Ascii.carriageReturn then newlineAlone char
  else if char = Ascii.tab.toNat then onConsole fun c => (c.goto (c.cursorX+8) c.cursorY).remember char
  else if char = Ascii.carriageReturn.toNat then onConsole fun c => (c.goto c.cursorLeft c.cursorY).remember char
  else if char = Ascii.space.toNat then onConsole fun c => (c.goto (c.cursorX+1) c.cursorY).remember char
  else if char = Ascii.backspace.toNat then do
    onConsole fun c => c.remember char
    if 0 < c.cursorX then onConsole fun c => c.goto (c.cursorX-1) c.cursorY
    else if 0 < c.cursorY then onConsole fun c => c.goto (c.cursorRight-1) (c.cursorY-1)
    else drawBeforeStep char
  else drawBeforeStep char

-- DDINIT_console: what it writes to the fields above.
def Console.ddinit (old : Console) (gSavedX gSavedY : UInt64) : Console where
  magic := 1234
  initialized := true
  prevChar := old.prevChar
  cursorX := 0
  cursorY := 0
  cursorLeft := 0
  cursorTop := 0
  cursorRight := gSavedX/8
  cursorBottom := gSavedY/8
  fullscreenFlag := true
  cLflag := echo

end GramadoKernel
