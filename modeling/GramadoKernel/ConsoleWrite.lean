import GramadoKernel.Console

namespace GramadoKernel

-- The four virtual consoles, and the one that printk prints to.
structure Consoles extends Shared where
  tty : Nat → Console
  fgConsole : Int
  printkToSerial : Bool

def Consoles.terminal (s : Consoles) (n : Nat) : Terminal := {s.toShared with console := s.tty n}

def Consoles.store (s : Consoles) (n : Nat) (t : Terminal) : Consoles :=
  {s with toShared := t.toShared, tty := Function.update s.tty n t.console}

-- Output to CONSOLE_TTYS[console_number], if there is one.
def onTerminal (consoleNumber : Int) (outside : α) (program : Output α) : EStateM Halt Consoles α := fun s =>
  if consoleNumber < 0 ∨ (consolettysCountMax : Int) ≤ consoleNumber then .ok outside s
  else
    match program (s.terminal consoleNumber.toNat) with
    | .ok value t => .ok value (s.store consoleNumber.toNat t)
    | .error halt t => .error halt (s.store consoleNumber.toNat t)

def Terminal.setMode (t : Terminal) (on : Bool) : Terminal := {t with stdioTerminalmodeFlag := on}

def consolePutchar (char : Int) : Output Unit := do
  let t ← get
  if t.charWidth &&& 0xFFFF = 0 ∨ t.charHeight &&& 0xFFFF = 0 then throw (.panic "console_putchar: char\n")
  else do
    modify fun t => t.setMode true
    consoleOutbyte char
    refreshCell
    modify fun t => t.setMode false

-- The conversions between unsigned long and int.
def asInt (value : UInt64) : Int := value.toUInt32.toInt32.toInt
def asLong (value : Int) : UInt64 := UInt64.ofInt value

def localGotoxy (newX newY : Int) : Output Unit := onConsole fun c =>
  if c.cursorRight < asLong newX then c
  else if c.cursorBottom < asLong newY then c
  else c.goto (asLong newX &&& 0xFFFFFFFF) (asLong newY &&& 0xFFFFFFFF)

def localSaveCur : Output Unit :=
  modify fun t => {t with savedX := asInt t.console.cursorX, savedY := asInt t.console.cursorY}

def localRestoreCur : Output Unit :=
  modify fun t => t.put (t.console.goto (asLong t.savedX &&& 0xFFFF) (asLong t.savedY &&& 0xFFFF))

-- TODO in the source
def localRi : Output Unit := pure ()
def csiJ (_par : Int) : Output Unit := pure ()
def csiK (_par : Int) : Output Unit := pure ()
def csiL (_nr : Int) : Output Unit := pure ()
def csiM (_nr : Int) : Output Unit := pure ()

def localInsertChar : Output Unit := consolePutchar 0x20
def localDeleteChar : Output Unit := consolePutchar Ascii.space.toNat

-- csi_P and csi_at limit their count alike.
def repeated (nr : Int) (once : Output Unit) : Output Unit := do
  let t ← get
  let last := t.console.cursorRight-1
  let nr := if last < asLong nr then asInt last else if nr = 0 then 1 else nr
  if nr < 0 then pure () else forM (List.replicate nr.toNat ()) fun _ => once

def csiP (nr : Int) : Output Unit := repeated nr localDeleteChar
def csiAt (nr : Int) : Output Unit := repeated nr localInsertChar

def isDigit (char : UInt8) : Bool := 48 ≤ char && char ≤ 57
def isSign (char : UInt8) : Bool := char == 43 || char == 45

-- The characters of a string before its NUL. Those of 128 and more are negative and skipped.
def kAtoi (string : List UInt8) : Int :=
  let string := string.dropWhile fun char => !isDigit char && !isSign char
  let digits := if string.head?.any isSign = true then string.tail else string
  let rv := (digits.takeWhile isDigit).foldl (fun rv char => rv*10+((char.toNat : Int)-48)) 0
  if string.head? = some 45 then -rv else rv

-- ivalue = par[i] & 0xFF; ivalue = k_atoi(&ivalue)
def Terminal.parameter (t : Terminal) (i : Nat) : Int :=
  let low := (t.par i &&& 0xFF).toUInt8
  kAtoi (if low = 0 then [] else [low])

def Terminal.inStage (t : Terminal) (stage : EscapeSequenceStage) : Terminal := {t with escapeSequenceStage := stage}

def setStage (stage : EscapeSequenceStage) : Output Unit := modify fun t => t.inStage stage

-- for (npar=0; npar<NPAR; npar++){ par[npar]=0; }; npar=0;
def Terminal.cleared (t : Terminal) : Terminal :=
  {t with
    par := fun i => if i < nparMax then 0 else t.par i
    npar := 0
    written := t.written ++ List.range nparMax}

def clearParameters : Output Unit := modify Terminal.cleared

-- Stage 4. A sequence of letters goes on with the same parameters.
def writeFinal (ch : UInt8) : Output Unit := do
  setStage .text
  let t ← get
  let x := t.console.cursorX
  let y := t.console.cursorY
  let ivalue := t.parameter 0
  let ivalue2 := t.parameter 1
  -- 96 is the grave accent
  if ch = 'G'.toUInt8 ∨ ch = 96 then do localGotoxy ivalue (asInt y); setStage .final
  else if ch = 'A'.toUInt8 then do localGotoxy (asInt x) (asInt (y-asLong ivalue)); setStage .final
  else if ch = 'B'.toUInt8 ∨ ch = 'e'.toUInt8 then do localGotoxy (asInt x) (asInt (y+asLong ivalue)); setStage .final
  else if ch = 'C'.toUInt8 ∨ ch = 'a'.toUInt8 then do localGotoxy (asInt (x+asLong ivalue)) (asInt y); setStage .final
  else if ch = 'D'.toUInt8 then do localGotoxy (asInt (x-asLong ivalue)) (asInt y); setStage .final
  else if ch = 'E'.toUInt8 then do localGotoxy 0 (asInt (y+asLong ivalue)); setStage .final
  else if ch = 'F'.toUInt8 then do localGotoxy 0 (asInt (y-asLong ivalue)); setStage .final
  else if ch = 'd'.toUInt8 then do localGotoxy (asInt x) ivalue; setStage .final
  else if ch = 'H'.toUInt8 ∨ ch = 'f'.toUInt8 then do localGotoxy ivalue ivalue2; setStage .final
  else if ch = 'J'.toUInt8 then do csiJ ivalue; setStage .final
  else if ch = 'K'.toUInt8 then do csiK ivalue; setStage .final
  else if ch = 'L'.toUInt8 then do csiL ivalue; setStage .final
  else if ch = 'M'.toUInt8 then do csiM ivalue; setStage .final
  else if ch = 'P'.toUInt8 then do csiP ivalue; setStage .final
  else if ch = '@'.toUInt8 then do csiAt ivalue; setStage .final
  else if ch = 'm'.toUInt8 then do clearParameters; setStage .text
  else if ch = 'r'.toUInt8 then setStage .final
  else if ch = 's'.toUInt8 then do localSaveCur; setStage .final
  else if ch = 'u'.toUInt8 then do localRestoreCur; setStage .final
  else pure ()

def Terminal.nextParameter (t : Terminal) : Terminal := {t with npar := t.npar+1}

def Terminal.setParameter (t : Terminal) (ch : UInt8) : Terminal :=
  {t with par := Function.update t.par t.npar ch.toUInt64, written := t.written ++ [t.npar]}

-- Stage 3
def writeParameter (ch : UInt8) : Output Unit := do
  let t ← get
  if ch = ';'.toUInt8 ∧ t.npar < nparMax-1 then modify Terminal.nextParameter
  else if isDigit ch = true then modify fun t => t.setParameter ch
  else do
    setStage .final
    writeFinal ch

-- Stage 2
def writeCsi (ch : UInt8) : Output Unit := do
  clearParameters
  setStage .parameters
  if ch = '?'.toUInt8 then pure () else writeParameter ch

-- Stage 1
def writeEscape (respond : Output Unit) (ch : UInt8) : Output Unit := do
  setStage .text
  let t ← get
  if ch = '['.toUInt8 then setStage .csi
  else if ch = 'E'.toUInt8 then localGotoxy 0 (asInt (t.console.cursorY+1))
  else if ch = 'M'.toUInt8 then localRi
  else if ch = 'D'.toUInt8 then consolePutchar ch.toNat
  else if ch = 'Z'.toUInt8 then respond
  else pure ()

def consoleEcho (char : Int) : Output Unit := consoleOutbyte2 char

-- Stage 0. Characters from 128 on are printable and not echoed.
def writeText (doEcho : Bool) (ch : UInt8) : Output Unit :=
  if 32 ≤ ch ∧ ch ≠ 127 then
    if doEcho = true ∧ ch ≤ 127 then consoleEcho ch.toNat else pure ()
  else if ch = Ascii.escape then setStage .escape
  else if ch = Ascii.newline then consolePutchar ch.toNat
  else if ch = Ascii.carriageReturn then consolePutchar ch.toNat
  else if ch = Ascii.backspace then consolePutchar ch.toNat
  else if ch = Ascii.tab then consolePutchar ch.toNat
  else pure ()

def writeByte (respond : Output Unit) (doEcho : Bool) (ch : UInt8) : Output Unit := do
  let t ← get
  match t.escapeSequenceStage with
  | .text => writeText doEcho ch
  | .escape => writeEscape respond ch
  | .csi => writeCsi ch
  | .parameters => writeParameter ch
  | .final => writeFinal ch

-- console_write for a buffer with something in it
def writeBytes (respond : Output Unit) (data : List UInt8) : Output Int := do
  let t ← get
  if t.console.magic ≠ 1234 then throw (.panic "console_write: tty validation\n")
  else do
    setStage .text
    forM data (writeByte respond (decide (t.console.cLflag &&& echo ≠ 0)))
    pure data.length

-- "\033[?1;2c"
def response : List UInt8 := [27,91,63,49,59,50,99]

-- console_write_string writes every byte with a console_write of its own, which starts at
-- stage 0 and so never responds again.
def respond : Output Unit := forM response fun ch => do
  let _ ← writeBytes (pure ()) [ch]
  pure ()

theorem writeBytes_single (one two : Output Unit) (ch : UInt8) : writeBytes one [ch] = writeBytes two [ch] := by
  funext t
  unfold writeBytes
  rw [Stateful.get_bind,Stateful.get_bind]
  by_cases invalid : t.console.magic ≠ 1234
  · rw [if_pos invalid,if_pos invalid]
  · rw [if_neg invalid,if_neg invalid,List.forM_cons,List.forM_cons]
    rfl

-- So the response is written by the same routine that it is called from.
theorem respond_recursive : respond = forM response fun ch => writeBytes respond [ch] >>= fun _ => pure () := by
  have each (ch : UInt8) : writeBytes (pure ()) [ch] = writeBytes respond [ch] := writeBytes_single _ _ ch
  simp only [← each]
  rfl

def printk (text : String) : EStateM Halt Consoles Unit := do
  let s ← get
  if s.printkToSerial = true then pure ()
  else forM text.toList fun char => onTerminal s.fgConsole () (consoleOutbyte2 char.toNat)

def consoleWrite (consoleNumber : Int) (buf : Option (List UInt8)) : EStateM Halt Consoles Int :=
  if consoleNumber < 0 ∨ (consolettysCountMax : Int) ≤ consoleNumber then pure (-1)
  else
    match buf with
    | none => do
        printk "console_write: buf\n"
        pure (-1)
    | some data => do
        if data = [] then do
          printk "console_write: count\n"
          pure (-1)
        else onTerminal consoleNumber (-1) (writeBytes respond data)

end GramadoKernel
