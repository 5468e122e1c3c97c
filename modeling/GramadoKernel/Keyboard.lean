import GramadoKernel.Library.Runs
import GramadoKernel.State

namespace GramadoKernel

-- msgcode.h
def msgKeydown : Nat := 20
def msgKeyup : Nat := 21
def msgSyskeydown : Nat := 22
def msgSyskeyup : Nat := 23

-- ibroker.c
def keyboardKeyMask : UInt8 := 0x7F
def breakMask : UInt8 := 0x80

-- vk.h
def vkLcontrol : UInt8 := 0x1D
def vkLshift : UInt8 := 0x2A
def vkRshift : UInt8 := 0x36
def vkLmenu : UInt8 := 0x38
def vkCapital : UInt8 := 0x3A
def vkF1 : UInt8 := 0x3B
def vkF10 : UInt8 := 0x44
def vkNumlock : UInt8 := 0x45
def vkScroll : UInt8 := 0x46
def vkF11 : UInt8 := 0x57
def vkF12 : UInt8 := 0x58
def vkLwin : UInt8 := 0x5B
def vkRwin : UInt8 := 0x5C
def vkControlMenu : UInt8 := 0x5D
def vkRcontrol : UInt8 := 0xA3

-- map_abnt2, shift_abnt2 and ctl_abnt2
structure KeyMaps where
  map : UInt8 → UInt8
  shift : UInt8 → UInt8
  ctl : UInt8 → UInt8

-- system_state with SYSTEM_RUNNING, the foreground console, the static variable of
-- ps2kbd.c and the status of the keys.
structure Keyboard where
  running : Bool
  fgConsole : Int
  ttyMagic : Int → Nat
  keyPrefix : UInt8
  shiftStatus : Bool
  ctrlStatus : Bool
  winkeyStatus : Bool
  altStatus : Bool
  capslockStatus : Bool
  numlockStatus : Bool
  scrolllockStatus : Bool

-- What wmRawKeyEvent has made of a scancode at its label done.
structure KeyStroke where
  keyPrefix : UInt8
  message : Nat
  asciiCode : UInt8
  rawByte : UInt8
  deriving DecidableEq

-- VK_F1 to VK_F10 follow each other.
def functionKey (scanCode : UInt8) : Prop := (vkF1 ≤ scanCode ∧ scanCode ≤ vkF10) ∨ scanCode = vkF11 ∨ scanCode = vkF12

instance (scanCode : UInt8) : Decidable (functionKey scanCode) := inferInstanceAs (Decidable (_ ∨ _))

-- The switch for a key that is released.
def keyUp (scanCode : UInt8) (k : Keyboard) : Keyboard × Nat :=
  if scanCode = vkLshift ∨ scanCode = vkRshift then ({k with shiftStatus := false},msgSyskeyup)
  else if scanCode = vkLcontrol ∨ scanCode = vkRcontrol then ({k with ctrlStatus := false},msgSyskeyup)
  else if scanCode = vkLwin ∨ scanCode = vkRwin then ({k with winkeyStatus := false},msgSyskeyup)
  else if scanCode = vkLmenu then ({k with altStatus := false},msgSyskeyup)
  else if scanCode = vkControlMenu then (k,msgSyskeyup)
  else if functionKey scanCode then (k,msgSyskeyup)
  else (k,msgKeyup)

-- The switch for a key that is pressed.
def keyDown (scanCode : UInt8) (k : Keyboard) : Keyboard × Nat :=
  if scanCode = vkLshift ∨ scanCode = vkRshift then ({k with shiftStatus := true},msgSyskeydown)
  else if scanCode = vkLcontrol ∨ scanCode = vkRcontrol then ({k with ctrlStatus := true},msgSyskeydown)
  else if scanCode = vkLwin ∨ scanCode = vkRwin then ({k with winkeyStatus := true},msgSyskeydown)
  else if scanCode = vkLmenu then ({k with altStatus := true},msgSyskeydown)
  else if scanCode = vkCapital then ({k with capslockStatus := !k.capslockStatus},msgSyskeydown)
  else if scanCode = vkNumlock then ({k with numlockStatus := !k.numlockStatus},msgSyskeydown)
  else if scanCode = vkScroll then ({k with scrolllockStatus := !k.scrolllockStatus},msgSyskeydown)
  else if functionKey scanCode then (k,msgSyskeydown)
  else (k,msgKeydown)

-- The maps that are read after the switches. The shift key counts for a key that is typed.
def asciiCode (maps : KeyMaps) (k : Keyboard) (message : Nat) (scanCode : UInt8) : UInt8 :=
  if message = msgKeydown then
    if k.ctrlStatus = true then maps.ctl scanCode
    else if k.capslockStatus = false ∧ k.shiftStatus = false then maps.map scanCode
    else maps.shift scanCode
  else if k.capslockStatus = false then maps.map scanCode
  else maps.shift scanCode

-- wmRawKeyEvent up to its label done. What follows sends the stroke on, by its prefix, and
-- writes none of the variables above.
def wmRawKeyEvent (maps : KeyMaps) (raw keyPrefix : UInt8) (k : Keyboard) : Except Halt (Keyboard × Option KeyStroke) :=
  if k.running = false then .ok (k,none)
  else do
    require (0 ≤ k.fgConsole ∧ k.fgConsole ≤ 3) (.panic "wmRawKeyEvent: fg_console")
    require (k.ttyMagic k.fgConsole = 1234) (.panic "wmRawKeyEvent: target_tty->magic")
    if raw = 0xFF then .ok (k,none)
    else
      let scanCode := raw &&& keyboardKeyMask
      let (next,message) := if raw &&& breakMask ≠ 0 then keyUp scanCode k else keyDown scanCode k
      .ok (next,some ⟨keyPrefix,message,asciiCode maps next message scanCode,raw⟩)

-- ACKNOWLEDGE, RESEND and the two error codes.
def replyByte (raw : UInt8) : Prop := raw = 0 ∨ raw = 0xFA ∨ raw = 0xFE ∨ raw = 0xFF

instance (raw : UInt8) : Decidable (replyByte raw) := inferInstanceAs (Decidable (_ ∨ _))

-- One turn of the loop of DeviceInterface_PS2Keyboard with the byte that it reads, and
-- whether the loop is left.
def keyboardByte (maps : KeyMaps) (k : Keyboard) (raw : UInt8) : Except Halt (Keyboard × List KeyStroke × Bool) :=
  if replyByte raw then .ok (k,[],true)
  else if raw = 0xE0 then .ok ({k with keyPrefix := raw},[],true)
  else if raw = 0xE1 then .ok ({k with keyPrefix := raw},[],true)
  else do
    let (next,stroke) ← wmRawKeyEvent maps raw k.keyPrefix k
    .ok ({next with keyPrefix := 0},stroke.toList,false)

-- DeviceInterface_PS2Keyboard, with the bytes that the controller has for the keyboard and
-- those that it has after the call.
def deviceInterfacePs2Keyboard (maps : KeyMaps) (k : Keyboard) : List UInt8 → Except Halt (Keyboard × List KeyStroke × List UInt8)
  | [] => .ok (k,[],[])
  | raw :: pending => do
      let (next,strokes,done) ← keyboardByte maps k raw
      if done = true then .ok (next,strokes,pending)
      else
        let (last,more,rest) ← deviceInterfacePs2Keyboard maps next pending
        .ok (last,strokes ++ more,rest)

-- The bytes one after the other, however many interrupts there are for them.
def feedKeys (maps : KeyMaps) (k : Keyboard) : List UInt8 → Except Halt (Keyboard × List KeyStroke)
  | [] => .ok (k,[])
  | raw :: bytes => do
      let (next,strokes,_) ← keyboardByte maps k raw
      let (last,more) ← feedKeys maps next bytes
      .ok (last,strokes ++ more)

theorem feedKeys_cons : feedKeys maps k (raw :: bytes) = .ok (t,strokes) ↔
    ∃ next first done more, keyboardByte maps k raw = .ok (next,first,done) ∧ feedKeys maps next bytes = .ok (t,more) ∧
      strokes = first ++ more := by
  simp only [feedKeys,bind_ok,Prod.exists,Except.ok.injEq,Prod.mk.injEq]
  constructor
  · rintro ⟨next,first,done,turn,last,more,later,rfl,rfl⟩
    exact ⟨next,first,done,more,turn,later,rfl⟩
  · rintro ⟨next,first,done,more,turn,later,rfl⟩
    exact ⟨next,first,done,turn,t,more,later,rfl,rfl⟩

theorem feedKeys_append : feedKeys maps k (bytes ++ later) = .ok (t,strokes) ↔
    ∃ m first more, feedKeys maps k bytes = .ok (m,first) ∧ feedKeys maps m later = .ok (t,more) ∧ strokes = first ++ more := by
  induction bytes generalizing k strokes with
  | nil => simp [feedKeys]
  | cons raw bytes ih =>
      simp only [List.cons_append,feedKeys_cons,ih]
      constructor
      · rintro ⟨next,one,done,_,turn,⟨m,two,three,here,there,rfl⟩,rfl⟩
        exact ⟨m,one ++ two,three,⟨next,one,done,two,turn,here,rfl⟩,there,(List.append_assoc ..).symm⟩
      · rintro ⟨m,_,three,⟨next,one,done,two,turn,here,rfl⟩,there,rfl⟩
        exact ⟨next,one,done,two ++ three,turn,⟨m,two,three,here,there,rfl⟩,List.append_assoc ..⟩

-- One interrupt takes some of the bytes.
theorem deviceInterfacePs2Keyboard_feed (called : deviceInterfacePs2Keyboard maps k pending = .ok (t,strokes,rest)) :
    ∃ bytes, pending = bytes ++ rest ∧ feedKeys maps k bytes = .ok (t,strokes) := by
  induction pending generalizing k strokes with
  | nil =>
      cases called
      exact ⟨[],rfl,rfl⟩
  | cons raw pending ih =>
      simp only [deviceInterfacePs2Keyboard,bind_ok,Prod.exists] at called
      obtain ⟨next,first,done,turn,called⟩ := called
      cases done with
      | true =>
          cases called
          exact ⟨[raw],rfl,feedKeys_cons.mpr ⟨t,strokes,true,[],turn,rfl,by simp⟩⟩
      | false =>
          simp only [Bool.false_eq_true,if_false,bind_ok,Prod.exists] at called
          obtain ⟨last,more,left,later,equal⟩ := called
          cases equal
          obtain ⟨bytes,rfl,fed⟩ := ih later
          exact ⟨raw :: bytes,rfl,feedKeys_cons.mpr ⟨next,first,false,more,turn,fed,rfl⟩⟩

-- An interrupt with the bytes that it takes.
structure KeyInterrupt where
  bytes : List UInt8
  strokes : List KeyStroke

def KeyInterruptTurn (maps : KeyMaps) (s : Keyboard) (e : KeyInterrupt) (t : Keyboard) : Prop :=
  ∃ rest, deviceInterfacePs2Keyboard maps s (e.bytes ++ rest) = .ok (t,e.strokes,rest)

theorem keyInterrupts_feed {s t : Keyboard} {labels : List KeyInterrupt} (run : Runs.Path (KeyInterruptTurn maps) s labels t) :
    feedKeys maps s (labels.flatMap KeyInterrupt.bytes) = .ok (t,labels.flatMap KeyInterrupt.strokes) := by
  refine run.history (fun labels t => feedKeys maps s (labels.flatMap KeyInterrupt.bytes) = .ok (t,labels.flatMap KeyInterrupt.strokes)) ?_ rfl
  intro labels s' e t' sofar turn
  obtain ⟨rest,called⟩ := turn
  obtain ⟨bytes,cut,same⟩ := deviceInterfacePs2Keyboard_feed called
  have taken : e.bytes = bytes := List.append_cancel_right cut
  rw [List.flatMap_append,List.flatMap_append,List.flatMap_singleton,List.flatMap_singleton,taken]
  exact feedKeys_append.mpr ⟨s',_,_,sofar,same,rfl⟩

-- One scancode as a keyboard sends it: a prefix or none, which 0 stands for, and the code.
structure ScanCode where
  keyPrefix : UInt8
  raw : UInt8
  known : keyPrefix = 0 ∨ keyPrefix = 0xE0 ∨ keyPrefix = 0xE1
  plain : raw ≠ 0xE0 ∧ raw ≠ 0xE1
  deriving DecidableEq

def ScanCode.bytes (c : ScanCode) : List UInt8 := if c.keyPrefix = 0 then [c.raw] else [c.keyPrefix,c.raw]
def ScanCode.make (c : ScanCode) : Bool := decide (c.raw &&& breakMask = 0)
def ScanCode.pair (c : ScanCode) : UInt8 × UInt8 := (c.keyPrefix,c.raw)
def KeyStroke.pair (stroke : KeyStroke) : UInt8 × UInt8 := (stroke.keyPrefix,stroke.rawByte)

-- The codes that the switches take for a shift key and for a control key.
def ScanCode.shift (c : ScanCode) : Bool := decide (c.raw &&& keyboardKeyMask = vkLshift ∨ c.raw &&& keyboardKeyMask = vkRshift)
def ScanCode.control (c : ScanCode) : Bool := decide (c.raw &&& keyboardKeyMask = vkLcontrol ∨ c.raw &&& keyboardKeyMask = vkRcontrol)
def ScanCode.reply (c : ScanCode) : Bool := decide (replyByte c.raw)

structure Keyboard.Ready (k : Keyboard) : Prop where
  running : k.running = true
  console : 0 ≤ k.fgConsole ∧ k.fgConsole ≤ 3
  magic : k.ttyMagic k.fgConsole = 1234

-- What the two switches make of the shift and the control status.
structure Switched (scanCode : UInt8) (value : Bool) (k t : Keyboard) : Prop where
  ready : k.Ready → t.Ready
  shift : t.shiftStatus = if scanCode = vkLshift ∨ scanCode = vkRshift then value else k.shiftStatus
  ctrl : t.ctrlStatus = if scanCode = vkLcontrol ∨ scanCode = vkRcontrol then value else k.ctrlStatus

theorem shift_not_control (shift : scanCode = vkLshift ∨ scanCode = vkRshift) : ¬ (scanCode = vkLcontrol ∨ scanCode = vkRcontrol) := by
  rcases shift with rfl | rfl
  · decide
  · decide

-- What the keys besides shift and control leave alone.
structure Unswitched (k t : Keyboard) : Prop where
  running : t.running = k.running
  console : t.fgConsole = k.fgConsole
  magic : t.ttyMagic = k.ttyMagic
  shift : t.shiftStatus = k.shiftStatus
  ctrl : t.ctrlStatus = k.ctrlStatus

-- Both switches ask for the shift keys first, and for the control keys next.
theorem switched_cases {k : Keyboard} {shifted controlled others : Keyboard × Nat} (pressed : shifted.1 = {k with shiftStatus := value})
    (held : controlled.1 = {k with ctrlStatus := value}) (rest : Unswitched k others.1) :
    Switched scanCode value k (if scanCode = vkLshift ∨ scanCode = vkRshift then shifted
      else if scanCode = vkLcontrol ∨ scanCode = vkRcontrol then controlled else others).1 := by
  split
  · rename_i shift
    rw [pressed]
    exact ⟨fun ready => ⟨ready.running,ready.console,ready.magic⟩,(if_pos shift).symm,(if_neg (shift_not_control shift)).symm⟩
  · rename_i noShift
    split
    · rename_i control
      rw [held]
      exact ⟨fun ready => ⟨ready.running,ready.console,ready.magic⟩,(if_neg noShift).symm,(if_pos control).symm⟩
    · rename_i noControl
      refine ⟨?_,by rw [if_neg noShift]; exact rest.shift,by rw [if_neg noControl]; exact rest.ctrl⟩
      intro ready
      refine ⟨?_,?_,?_⟩
      · rw [rest.running]; exact ready.running
      · rw [rest.console]; exact ready.console
      · rw [rest.magic,rest.console]; exact ready.magic

theorem keyUp_switched (scanCode : UInt8) (k : Keyboard) : Switched scanCode false k (keyUp scanCode k).1 := by
  refine switched_cases rfl rfl ?_
  constructor
  all_goals split_ifs <;> rfl

theorem keyDown_switched (scanCode : UInt8) (k : Keyboard) : Switched scanCode true k (keyDown scanCode k).1 := by
  refine switched_cases rfl rfl ?_
  constructor
  all_goals split_ifs <;> rfl

-- The status that the last of the codes for a key gives, or the old one.
def lastMake (counts : ScanCode → Bool) (codes : List ScanCode) (status : Bool) : Bool :=
  ((codes.filter counts).getLast?.map ScanCode.make).getD status

theorem lastMake_cons (counts : ScanCode → Bool) (c : ScanCode) (codes : List ScanCode) (status : Bool) :
    lastMake counts (c :: codes) status = lastMake counts codes (if counts c = true then c.make else status) := by
  unfold lastMake
  cases counted : counts c with
  | true =>
      rw [List.filter_cons_of_pos counted,List.getLast?_cons]
      cases (codes.filter counts).getLast? <;> simp
  | false => simp [counted]

-- What the driver makes of scancodes. Their prefixes play no part in the status of the keys.
structure CodesDone (k : Keyboard) (codes : List ScanCode) (t : Keyboard) (strokes : List KeyStroke) : Prop where
  ready : t.Ready
  shift : t.shiftStatus = lastMake ScanCode.shift codes k.shiftStatus
  ctrl : t.ctrlStatus = lastMake ScanCode.control codes k.ctrlStatus
  count : strokes.length = (codes.filter fun c => !c.reply).length
  clean : k.keyPrefix = 0 → (∀ c ∈ codes, c.keyPrefix ≠ 0 → c.reply = false) →
    t.keyPrefix = 0 ∧ strokes.map KeyStroke.pair = (codes.filter fun c => !c.reply).map ScanCode.pair

-- A byte that is no prefix and no reply is taken as a scancode with the prefix before it.
theorem keyboardByte_key (maps : KeyMaps) {k : Keyboard} (ready : k.Ready) (c : ScanCode) (key : c.reply = false) :
    ∃ next stroke, keyboardByte maps k c.raw = .ok ({next with keyPrefix := 0},[stroke],false) ∧
      Switched (c.raw &&& keyboardKeyMask) c.make k next ∧ stroke.pair = (k.keyPrefix,c.raw) := by
  have noReply : ¬ replyByte c.raw := by simpa [ScanCode.reply] using key
  have noError : c.raw ≠ 0xFF := fun error => noReply (.inr (.inr (.inr error)))
  simp only [keyboardByte,if_neg noReply,if_neg c.plain.1,if_neg c.plain.2,wmRawKeyEvent,ready.running,require,if_pos ready.console,
    if_pos ready.magic,if_neg noError,Bool.true_eq_false,if_false]
  cases broken : c.make with
  | true =>
      have made : ¬ c.raw &&& breakMask ≠ 0 := by simpa [ScanCode.make] using broken
      simp only [if_neg made]
      exact ⟨_,_,rfl,keyDown_switched _ _,rfl⟩
  | false =>
      have released : c.raw &&& breakMask ≠ 0 := by simpa [ScanCode.make] using broken
      simp only [if_pos released]
      exact ⟨_,_,rfl,keyUp_switched _ _,rfl⟩

theorem reply_no_modifier {c : ScanCode} (reply : c.reply = true) : c.shift = false ∧ c.control = false := by
  have among : replyByte c.raw := of_decide_eq_true reply
  unfold ScanCode.shift ScanCode.control
  rcases among with equal | equal | equal | equal
  all_goals
    rw [equal]
    exact ⟨by decide,by decide⟩

-- A prefix waits for the next byte.
theorem keyboardByte_waits (maps : KeyMaps) (k : Keyboard) (c : ScanCode) (given : c.keyPrefix ≠ 0) :
    keyboardByte maps k c.keyPrefix = .ok ({k with keyPrefix := c.keyPrefix},[],true) := by
  rcases c.known with zero | equal | equal
  · exact absurd zero given
  · rw [equal]; rfl
  · rw [equal]; rfl

theorem keyboardByte_returns (maps : KeyMaps) {k : Keyboard} (ready : k.Ready) (raw : UInt8) :
    ∃ next strokes done, keyboardByte maps k raw = .ok (next,strokes,done) ∧ next.Ready := by
  have waits : Keyboard.Ready {k with keyPrefix := raw} := ⟨ready.running,ready.console,ready.magic⟩
  by_cases reply : replyByte raw
  · exact ⟨k,[],true,if_pos reply,ready⟩
  by_cases first : raw = 0xE0
  · exact ⟨_,[],true,by rw [keyboardByte,if_neg reply,if_pos first],waits⟩
  by_cases second : raw = 0xE1
  · exact ⟨_,[],true,by rw [keyboardByte,if_neg reply,if_neg first,if_pos second],waits⟩
  · have key : ScanCode.reply ⟨0,raw,.inl rfl,first,second⟩ = false := decide_eq_false reply
    obtain ⟨next,stroke,turn,switched,_⟩ := keyboardByte_key maps ready _ key
    have still := switched.ready ready
    exact ⟨_,[stroke],false,turn,still.running,still.console,still.magic⟩

-- In a running system the driver does not stop, whatever the bytes.
theorem deviceInterfacePs2Keyboard_returns (maps : KeyMaps) {k : Keyboard} (ready : k.Ready) (pending : List UInt8) :
    ∃ t strokes rest, deviceInterfacePs2Keyboard maps k pending = .ok (t,strokes,rest) ∧ t.Ready := by
  induction pending generalizing k with
  | nil => exact ⟨k,[],[],rfl,ready⟩
  | cons raw pending ih =>
      obtain ⟨next,strokes,done,turn,still⟩ := keyboardByte_returns maps ready raw
      cases done with
      | true => exact ⟨next,strokes,pending,by simp [deviceInterfacePs2Keyboard,turn,bind,Except.bind],still⟩
      | false =>
          obtain ⟨t,more,rest,later,last⟩ := ih still
          exact ⟨t,strokes ++ more,rest,by simp [deviceInterfacePs2Keyboard,turn,later,bind,Except.bind],last⟩

-- The byte after the prefix, with what waits for it.
structure ByteDone (k : Keyboard) (c : ScanCode) (t : Keyboard) (strokes : List KeyStroke) : Prop where
  ready : t.Ready
  shift : t.shiftStatus = if c.shift = true then c.make else k.shiftStatus
  ctrl : t.ctrlStatus = if c.control = true then c.make else k.ctrlStatus
  pairs : strokes.map KeyStroke.pair = if c.reply = true then [] else [(k.keyPrefix,c.raw)]
  waiting : t.keyPrefix = if c.reply = true then k.keyPrefix else 0

theorem byte_done (maps : KeyMaps) {k : Keyboard} (ready : k.Ready) (c : ScanCode) :
    ∃ t strokes, feedKeys maps k [c.raw] = .ok (t,strokes) ∧ ByteDone k c t strokes := by
  cases reply : c.reply with
  | true =>
      obtain ⟨noShift,noControl⟩ := reply_no_modifier reply
      have turn : keyboardByte maps k c.raw = .ok (k,[],true) := if_pos (of_decide_eq_true reply)
      refine ⟨k,[],feedKeys_cons.mpr ⟨k,[],true,[],turn,rfl,rfl⟩,ready,?_,?_,?_,?_⟩
      · simp [noShift]
      · simp [noControl]
      · simp [reply]
      · simp [reply]
  | false =>
      obtain ⟨next,stroke,turn,switched,pair⟩ := keyboardByte_key maps ready c reply
      have still : next.Ready := switched.ready ready
      refine ⟨_,[stroke],feedKeys_cons.mpr ⟨_,_,_,[],turn,rfl,rfl⟩,⟨still.running,still.console,still.magic⟩,?_,?_,?_,?_⟩
      · simpa [ScanCode.shift] using switched.shift
      · simpa [ScanCode.control] using switched.ctrl
      · simp [reply,pair]
      · simp [reply]

theorem code_done (maps : KeyMaps) {k : Keyboard} (ready : k.Ready) (c : ScanCode) :
    ∃ t strokes, feedKeys maps k c.bytes = .ok (t,strokes) ∧
      ByteDone {k with keyPrefix := if c.keyPrefix = 0 then k.keyPrefix else c.keyPrefix} c t strokes := by
  by_cases bare : c.keyPrefix = 0
  · simp only [ScanCode.bytes,if_pos bare]
    exact byte_done maps ready c
  · simp only [ScanCode.bytes,if_neg bare]
    have waits : Keyboard.Ready {k with keyPrefix := c.keyPrefix} := ⟨ready.running,ready.console,ready.magic⟩
    obtain ⟨t,strokes,fed,done⟩ := byte_done maps waits c
    exact ⟨t,strokes,feedKeys_cons.mpr ⟨_,_,_,strokes,keyboardByte_waits maps k c bare,fed,rfl⟩,done⟩

theorem codes_done (maps : KeyMaps) {k : Keyboard} (ready : k.Ready) (codes : List ScanCode) :
    ∃ t strokes, feedKeys maps k (codes.flatMap ScanCode.bytes) = .ok (t,strokes) ∧ CodesDone k codes t strokes := by
  induction codes generalizing k with
  | nil => exact ⟨k,[],rfl,ready,rfl,rfl,rfl,fun zero _ => ⟨zero,rfl⟩⟩
  | cons c codes ih =>
      obtain ⟨m,one,fed,done⟩ := code_done maps ready c
      obtain ⟨t,more,later,rest⟩ := ih done.ready
      refine ⟨t,one ++ more,feedKeys_append.mpr ⟨m,one,more,fed,later,rfl⟩,rest.ready,?_,?_,?_,?_⟩
      · rw [rest.shift,done.shift,lastMake_cons]
      · rw [rest.ctrl,done.ctrl,lastMake_cons]
      · have length := congrArg List.length done.pairs
        rw [List.length_map] at length
        rw [List.length_append,length,rest.count]
        cases reply : c.reply <;> simp [reply,Nat.add_comm]
      · intro zero kept
        have first := kept c (by simp)
        have clear : m.keyPrefix = 0 := by
          rw [done.waiting]
          by_cases bare : c.keyPrefix = 0
          · simp [bare,zero]
          · simp [first bare]
        obtain ⟨ending,pairs⟩ := rest.clean clear fun d member => kept d (by simp [member])
        refine ⟨ending,?_⟩
        rw [List.map_append,done.pairs,pairs]
        cases reply : c.reply with
        | true => simp [reply]
        | false =>
            by_cases bare : c.keyPrefix = 0
            · simp [reply,bare,zero,ScanCode.pair]
            · simp [reply,bare,ScanCode.pair]

-- The two shift keys and the two control keys of the device.
inductive ModifierKey where
  | lshift
  | rshift
  | lcontrol
  | rcontrol
  deriving DecidableEq

-- The other key that shares the status.
def ModifierKey.twin : ModifierKey → ModifierKey
  | .lshift => .rshift
  | .rshift => .lshift
  | .lcontrol => .rcontrol
  | .rcontrol => .lcontrol

def ModifierKey.scanCode : ModifierKey → Bool → ScanCode
  | .lshift,true => ⟨0,0x2A,.inl rfl,by decide⟩
  | .lshift,false => ⟨0,0xAA,.inl rfl,by decide⟩
  | .rshift,true => ⟨0,0x36,.inl rfl,by decide⟩
  | .rshift,false => ⟨0,0xB6,.inl rfl,by decide⟩
  | .lcontrol,true => ⟨0,0x1D,.inl rfl,by decide⟩
  | .lcontrol,false => ⟨0,0x9D,.inl rfl,by decide⟩
  | .rcontrol,true => ⟨0xE0,0x1D,.inr (.inl rfl),by decide⟩
  | .rcontrol,false => ⟨0xE0,0x9D,.inr (.inl rfl),by decide⟩

-- What is done with a key. Another key sends any scancodes that are not those of the four,
-- several of them where it is a key such as Pause or Print Screen.
inductive KeyAction where
  | press (key : ModifierKey)
  | release (key : ModifierKey)
  | other (codes : List ScanCode) (foreign : ∀ c ∈ codes, ∀ key down, c ≠ ModifierKey.scanCode key down)

def KeyAction.codes : KeyAction → List ScanCode
  | .press key => [key.scanCode true]
  | .release key => [key.scanCode false]
  | .other codes _ => codes

def KeyAction.bytes (action : KeyAction) : List UInt8 := action.codes.flatMap ScanCode.bytes

def KeyAction.held (action : KeyAction) (down : ModifierKey → Bool) : ModifierKey → Bool :=
  match action with
  | .press key => Function.update down key true
  | .release key => Function.update down key false
  | .other _ _ => down

def anyShift (down : ModifierKey → Bool) : Bool := down .lshift || down .rshift
def anyControl (down : ModifierKey → Bool) : Bool := down .lcontrol || down .rcontrol

-- The keys that are down, with the kernel's variables.
structure KeySession where
  down : ModifierKey → Bool
  keyboard : Keyboard

-- An action with the keys before it, and what the driver has made of it.
structure Typed where
  down : ModifierKey → Bool
  action : KeyAction
  strokes : List KeyStroke
  after : KeySession

def KeyTurn (maps : KeyMaps) (s : KeySession) (h : Typed) (t : KeySession) : Prop :=
  h.down = s.down ∧ h.after = t ∧ t.down = h.action.held s.down ∧
    feedKeys maps s.keyboard h.action.bytes = .ok (t.keyboard,h.strokes)

-- The status of the keys is that of the device, and every prefixed scancode is taken with
-- its prefix, every other one without. A code without a prefix may look like a reply.
structure Typed.Mirrors (h : Typed) : Prop where
  shift : h.after.keyboard.shiftStatus = anyShift h.after.down
  ctrl : h.after.keyboard.ctrlStatus = anyControl h.after.down
  pairs : h.strokes.map KeyStroke.pair = (h.action.codes.filter fun c => c.keyPrefix ≠ 0 ∨ c.reply = false).map ScanCode.pair

-- A shift or control key is released while the other one of its pair is up. The last code
-- of another key that the switches take for such a key says what is the case already, and
-- no code of another key looks like a reply after its prefix.
def Typed.Meets (h : Typed) : Prop :=
  match h.action with
  | .press _ => True
  | .release key => h.down key.twin = false
  | .other codes _ =>
      (∀ c ∈ (codes.filter ScanCode.shift).getLast?, c.make = anyShift h.down) ∧
      (∀ c ∈ (codes.filter ScanCode.control).getLast?, c.make = anyControl h.down) ∧
      ∀ c ∈ codes, c.keyPrefix ≠ 0 → c.reply = false

structure KeySession.Good (s : KeySession) : Prop where
  ready : s.keyboard.Ready
  clear : s.keyboard.keyPrefix = 0
  shift : s.keyboard.shiftStatus = anyShift s.down
  ctrl : s.keyboard.ctrlStatus = anyControl s.down

theorem turn_codes {s t : KeySession} (ready : s.keyboard.Ready) (turn : KeyTurn maps s h t) :
    CodesDone s.keyboard h.action.codes t.keyboard h.strokes := by
  obtain ⟨_,_,_,fed⟩ := turn
  obtain ⟨last,strokes,again,done⟩ := codes_done maps ready h.action.codes
  rw [KeyAction.bytes,again] at fed
  cases fed
  exact done

-- Where a prefixed code is dropped as a reply, there are fewer strokes than codes.
theorem pairs_iff (done : CodesDone k codes t strokes) (clear : k.keyPrefix = 0) :
    strokes.map KeyStroke.pair = (codes.filter fun c => c.keyPrefix ≠ 0 ∨ c.reply = false).map ScanCode.pair ↔
      ∀ c ∈ codes, c.keyPrefix ≠ 0 → c.reply = false := by
  constructor
  · intro same c member given
    have lengths := congrArg List.length same
    rw [List.length_map,List.length_map,done.count] at lengths
    have sub : (codes.filter fun c => !c.reply).Sublist (codes.filter fun c => c.keyPrefix ≠ 0 ∨ c.reply = false) := by
      apply List.monotone_filter_right
      intro d free
      simp_all
    have equal := sub.eq_of_length lengths
    have among : c ∈ codes.filter fun c => c.keyPrefix ≠ 0 ∨ c.reply = false := List.mem_filter.mpr ⟨member,by simp [given]⟩
    rw [← equal] at among
    simpa using (List.mem_filter.mp among).2
  · intro kept
    rw [(done.clean clear kept).2]
    congr 1
    apply List.filter_congr
    intro c member
    by_cases given : c.keyPrefix = 0
    · simp [given]
    · simp [kept c member given]

theorem lastMake_iff (counts : ScanCode → Bool) (codes : List ScanCode) (status : Bool) :
    lastMake counts codes status = status ↔ ∀ c ∈ (codes.filter counts).getLast?, c.make = status := by
  unfold lastMake
  cases (codes.filter counts).getLast? <;> simp

theorem modifier_code (key : ModifierKey) (down : Bool) :
    (key.scanCode down).shift = decide (key = .lshift ∨ key = .rshift) ∧
      (key.scanCode down).control = decide (key = .lcontrol ∨ key = .rcontrol) ∧
      (key.scanCode down).make = down ∧ (key.scanCode down).reply = false := by
  cases key <;> cases down <;> decide

theorem lastMake_modifier (counts : ScanCode → Bool) (key : ModifierKey) (down status : Bool) :
    lastMake counts [key.scanCode down] status = if counts (key.scanCode down) = true then down else status := by
  rw [lastMake_cons,(modifier_code key down).2.2.1]
  rfl

theorem turn_iff {s t : KeySession} (good : s.Good) (turn : KeyTurn maps s h t) : h.Mirrors ↔ h.Meets := by
  have done := turn_codes good.ready turn
  have prefixes := pairs_iff done good.clear
  obtain ⟨down,action,strokes,after⟩ := h
  obtain ⟨here,there,held,_⟩ := turn
  replace here : down = s.down := here
  replace there : after = t := there
  subst here there
  have shift : after.keyboard.shiftStatus = _ := done.shift
  have ctrl : after.keyboard.ctrlStatus = _ := done.ctrl
  rw [good.shift] at shift
  rw [good.ctrl] at ctrl
  have parts : Typed.Mirrors ⟨s.down,action,strokes,after⟩ ↔ _ ∧ _ ∧ _ :=
    ⟨fun m => ⟨m.shift,m.ctrl,prefixes.mp m.pairs⟩,fun all => ⟨all.1,all.2.1,prefixes.mpr all.2.2⟩⟩
  rw [parts]
  simp only [shift,ctrl,held]
  cases action with
  | press key =>
      obtain ⟨shifts,controls,_,reply⟩ := modifier_code key true
      simp only [KeyAction.codes,KeyAction.held,lastMake_modifier,shifts,controls,Typed.Meets,iff_true]
      refine ⟨?_,?_,by simp [reply]⟩
      · cases key <;> simp [anyShift]
      · cases key <;> simp [anyControl]
  | release key =>
      obtain ⟨shifts,controls,_,reply⟩ := modifier_code key false
      simp only [KeyAction.codes,KeyAction.held,lastMake_modifier,shifts,controls,Typed.Meets]
      cases key <;> simp [anyShift,anyControl,ModifierKey.twin,reply]
  | other codes foreign =>
      simp only [KeyAction.codes,KeyAction.held,lastMake_iff,Typed.Meets]

theorem turn_good {s t : KeySession} (good : s.Good) (turn : KeyTurn maps s h t) (mirrors : h.Mirrors) : t.Good := by
  have done := turn_codes good.ready turn
  have kept := (pairs_iff done good.clear).mp mirrors.pairs
  obtain ⟨_,there,_,_⟩ := turn
  subst there
  exact ⟨done.ready,(done.clean good.clear kept).1,mirrors.shift,mirrors.ctrl⟩

-- The bytes of the actions make a run, whatever the interrupts that deliver them.
theorem delivered_run {s : KeySession} (ready : s.keyboard.Ready) (actions : List KeyAction)
    (fed : feedKeys maps s.keyboard (actions.flatMap KeyAction.bytes) = .ok (last,strokes)) :
    ∃ run t, Runs.Path (KeyTurn maps) s run t ∧ t.keyboard = last ∧ run.map Typed.action = actions ∧
      run.flatMap Typed.strokes = strokes := by
  induction actions generalizing s strokes with
  | nil =>
      cases fed
      exact ⟨[],s,.nil,rfl,rfl,rfl⟩
  | cons action actions ih =>
      rw [List.flatMap_cons,feedKeys_append] at fed
      obtain ⟨m,one,more,first,rest,rfl⟩ := fed
      let next : KeySession := ⟨action.held s.down,m⟩
      have turn : KeyTurn maps s ⟨s.down,action,one,next⟩ next := ⟨rfl,rfl,rfl,first⟩
      have still : next.keyboard.Ready := (turn_codes ready turn).ready
      obtain ⟨run,t,path,ending,same,all⟩ := ih still rest
      exact ⟨_ :: run,t,path.cons turn,ending,by simp [same],by simp [all]⟩

-- As the initialisation leaves it, in a running system.
structure Keyboard.Fresh (k : Keyboard) : Prop extends k.Ready where
  clear : k.keyPrefix = 0
  shift : k.shiftStatus = false
  ctrl : k.ctrlStatus = false

def noneDown : ModifierKey → Bool := fun _ => false

theorem fresh_good (fresh : k.Fresh) : KeySession.Good ⟨noneDown,k⟩ := ⟨fresh.toReady,fresh.clear,fresh.shift,fresh.ctrl⟩

-- Delivered by whatever interrupts, the actions are mirrored one after the other exactly
-- when each of them meets its condition.
theorem modifiers_mirrored_iff (fresh : k.Fresh) (path : Runs.Path (KeyInterruptTurn maps) k labels last)
    (delivered : labels.flatMap KeyInterrupt.bytes = actions.flatMap KeyAction.bytes) :
    ∃ run t, Runs.Path (KeyTurn maps) ⟨noneDown,k⟩ run t ∧ t.keyboard = last ∧ run.map Typed.action = actions ∧
      run.flatMap Typed.strokes = labels.flatMap KeyInterrupt.strokes ∧ ((∀ h ∈ run, h.Mirrors) ↔ ∀ h ∈ run, h.Meets) := by
  have fed := keyInterrupts_feed path
  rw [delivered] at fed
  have start := fresh_good fresh
  obtain ⟨run,t,typing,ending,same,strokes⟩ := delivered_run (s := ⟨noneDown,k⟩) start.ready actions fed
  refine ⟨run,t,typing,ending,same,strokes,?_⟩
  have both := typing.forall_iff KeySession.Good Typed.Mirrors Typed.Meets (fun _ _ _ good turn => turn_iff good turn)
    (fun _ _ _ good turn mirrors => turn_good good turn mirrors) start
  exact both.1

def bootKeyboard : Keyboard := ⟨true,0,fun _ => 1234,0,false,false,false,false,false,false,false⟩

theorem bootKeyboard_fresh : bootKeyboard.Fresh := ⟨⟨rfl,by decide,rfl⟩,rfl,rfl,rfl⟩

-- The tables give the keys below their own codes.
def ownCodes : KeyMaps := ⟨id,id,id⟩

-- The right control key, its prefix in an interrupt of its own.
theorem control_mirrored : ∃ labels last run t, Runs.Path (KeyInterruptTurn ownCodes) bootKeyboard labels last ∧
    labels.map KeyInterrupt.bytes = [[0xE0],[0x1D]] ∧ Runs.Path (KeyTurn ownCodes) ⟨noneDown,bootKeyboard⟩ run t ∧
    run.map Typed.action = [.press .rcontrol] ∧ ∀ h ∈ run, h.Mirrors := by
  have first : KeyInterruptTurn ownCodes bootKeyboard ⟨[0xE0],[]⟩ {bootKeyboard with keyPrefix := 0xE0} := ⟨[0x1D],rfl⟩
  have second : KeyInterruptTurn ownCodes {bootKeyboard with keyPrefix := 0xE0} ⟨[0x1D],[⟨0xE0,msgSyskeydown,0x1D,0x1D⟩]⟩
      {bootKeyboard with ctrlStatus := true} := ⟨[],rfl⟩
  have path := (Runs.Path.nil.step first).step second
  have delivered : ([0xE0] ++ [0x1D] : List UInt8) = [KeyAction.press .rcontrol].flatMap KeyAction.bytes := rfl
  obtain ⟨run,t,typing,_,same,_,iff⟩ := modifiers_mirrored_iff bootKeyboard_fresh path delivered
  refine ⟨_,_,run,t,path,rfl,typing,same,iff.mpr ?_⟩
  intro h member
  have among : h.action ∈ run.map Typed.action := List.mem_map_of_mem member
  rw [same,List.mem_singleton] at among
  simp [Typed.Meets,among]

def KeySession.typing (s : KeySession) (action : KeyAction) (keyboard : Keyboard) : KeySession := ⟨action.held s.down,keyboard⟩

-- Both shift keys go down and one comes up again.
theorem shift_lost : ∃ labels last run t, Runs.Path (KeyInterruptTurn ownCodes) bootKeyboard labels last ∧
    labels.flatMap KeyInterrupt.bytes = [.press .lshift,.press .rshift,.release .lshift].flatMap KeyAction.bytes ∧
    Runs.Path (KeyTurn ownCodes) ⟨noneDown,bootKeyboard⟩ run t ∧ t.keyboard = last ∧
    run.map Typed.action = [.press .lshift,.press .rshift,.release .lshift] ∧
    t.down .rshift = true ∧ t.keyboard.shiftStatus = false ∧ ¬ ∀ h ∈ run, h.Mirrors := by
  let held : Keyboard := {bootKeyboard with shiftStatus := true}
  let strokes : List KeyStroke := [⟨0,msgSyskeydown,0x2A,0x2A⟩,⟨0,msgSyskeydown,0x36,0x36⟩,⟨0,msgSyskeyup,0x2A,0xAA⟩]
  let s₀ : KeySession := ⟨noneDown,bootKeyboard⟩
  let s₁ := s₀.typing (.press .lshift) held
  let s₂ := s₁.typing (.press .rshift) held
  let s₃ := s₂.typing (.release .lshift) bootKeyboard
  have burst : KeyInterruptTurn ownCodes bootKeyboard ⟨[0x2A,0x36,0xAA],strokes⟩ bootKeyboard := ⟨[],rfl⟩
  have left : KeyTurn ownCodes s₀ ⟨s₀.down,.press .lshift,[⟨0,msgSyskeydown,0x2A,0x2A⟩],s₁⟩ s₁ := ⟨rfl,rfl,rfl,rfl⟩
  have right : KeyTurn ownCodes s₁ ⟨s₁.down,.press .rshift,[⟨0,msgSyskeydown,0x36,0x36⟩],s₂⟩ s₂ := ⟨rfl,rfl,rfl,rfl⟩
  have released : KeyTurn ownCodes s₂ ⟨s₂.down,.release .lshift,[⟨0,msgSyskeyup,0x2A,0xAA⟩],s₃⟩ s₃ := ⟨rfl,rfl,rfl,rfl⟩
  refine ⟨_,_,_,s₃,.step .nil burst,rfl,.step (.step (.step .nil left) right) released,rfl,rfl,rfl,rfl,?_⟩
  intro all
  have last := (all ⟨s₂.down,.release .lshift,[⟨0,msgSyskeyup,0x2A,0xAA⟩],s₃⟩ (by simp)).shift
  revert last
  decide

end GramadoKernel
