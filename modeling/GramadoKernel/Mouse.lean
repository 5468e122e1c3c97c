import GramadoKernel.Library.Runs
import Mathlib.Logic.Function.Basic

namespace GramadoKernel

-- msgcode.h and ps2mouse.h
def msgMousemove : Nat := 32
def msgMousepressed : Nat := 35
def msgMousereleased : Nat := 36
def mouseFlagsAlways1 : UInt8 := 0x08

-- MOUSE_LEFT_BUTTON, MOUSE_RIGHT_BUTTON and MOUSE_MIDDLE_BUTTON
def mouseButton : Nat → UInt8
  | 0 => 0x01
  | 1 => 0x02
  | _ => 0x04

-- What wmMouseEvent is called with.
structure MouseEvent where
  eventId : Nat
  long1 : Int
  long2 : Int
  deriving DecidableEq

-- The variables of ps2mouse.c, with PS2.mouse_initialized and PS2Mouse.has_wheel.
structure Mouse where
  initialized : Bool
  hasWheel : Bool
  stage : Nat
  buffer : Nat → UInt8
  x : Int
  y : Int
  oldState : Nat → Bool

def pressedIn (flags : UInt8) (button : Nat) : Bool := decide (flags &&& mouseButton button ≠ 0)

-- A byte as char, after the correction of its sign.
def mouseDelta (byte : UInt8) (sign : Bool) : Int :=
  let c := byte.toInt8
  if c ≠ 0 ∧ sign = true then (Int8.ofInt (c.toInt-0xFF-0x01)).toInt else c.toInt

def overflows (flags : UInt8) : Prop := flags &&& 0x40 ≠ 0 ∨ flags &&& 0x80 ≠ 0

instance (flags : UInt8) : Decidable (overflows flags) := inferInstanceAs (Decidable (_ ∨ _))

def buttonEvent (pressed : Bool) (number : Nat) : MouseEvent :=
  ⟨if pressed = true then msgMousepressed else msgMousereleased,number,number⟩

-- __ps2mouse_parse_data_packet. The mask 0x3FF is the remainder by 1024. Every call of
-- wmMouseEvent is followed by a return, and all variables are stored before.
def parseDataPacket (m : Mouse) : Mouse × List MouseEvent :=
  let flags := m.buffer 0
  if overflows flags then (m,[])
  else
    let x := (m.x+mouseDelta (m.buffer 1) (decide (flags &&& 0x10 ≠ 0))) % 1024
    let y := (m.y-mouseDelta (m.buffer 2) (decide (flags &&& 0x20 ≠ 0))) % 1024
    let current := pressedIn flags
    let after : Mouse := {m with x := x,y := y,oldState := fun i => if i < 3 then current i else m.oldState i}
    (after,
      if current 0 ≠ m.oldState 0 then [buttonEvent (current 0) 1]
      else if current 1 ≠ m.oldState 1 then [buttonEvent (current 1) 2]
      else if current 2 ≠ m.oldState 2 then [buttonEvent (current 2) 3]
      else if m.x ≠ x ∨ m.y ≠ y then [⟨msgMousemove,x,y⟩]
      else [])

def Mouse.parsed (m : Mouse) : Mouse × List MouseEvent := ({(parseDataPacket m).1 with stage := 0},(parseDataPacket m).2)

-- The switch of DeviceInterface_PS2Mouse for one byte, and whether the loop is left.
def mouseByte (m : Mouse) (byte : UInt8) : Mouse × List MouseEvent × Bool :=
  let stored := {m with buffer := Function.update m.buffer m.stage byte}
  match m.stage with
  | 0 => if byte &&& mouseFlagsAlways1 = 0 then ({stored with stage := 0},[],true) else ({stored with stage := 1},[],false)
  | 1 => ({stored with stage := 2},[],false)
  | 2 =>
      if m.hasWheel = true then ({stored with stage := 3},[],false)
      else (stored.parsed.1,stored.parsed.2,true)
  | 3 => (stored.parsed.1,stored.parsed.2,true)
  | _ => ({stored with stage := 0},[],true)

-- DeviceInterface_PS2Mouse, with the bytes that the controller has for the mouse and
-- those that it has after the call.
def deviceInterfacePs2Mouse (m : Mouse) : List UInt8 → Mouse × List MouseEvent × List UInt8
  | [] => (m,[],[])
  | byte :: pending =>
      if m.initialized = false then (m,[],byte :: pending)
      else
        let (next,events,done) := mouseByte m byte
        if done = true then (next,events,pending)
        else
          let (last,more,rest) := deviceInterfacePs2Mouse next pending
          (last,events ++ more,rest)

-- The bytes one after the other, however many interrupts there are for them.
def feed (m : Mouse) : List UInt8 → Mouse × List MouseEvent
  | [] => (m,[])
  | byte :: bytes => ((feed (mouseByte m byte).1 bytes).1,(mouseByte m byte).2.1 ++ (feed (mouseByte m byte).1 bytes).2)

theorem feed_append (m : Mouse) (bytes later : List UInt8) :
    feed m (bytes ++ later) = ((feed (feed m bytes).1 later).1,(feed m bytes).2 ++ (feed (feed m bytes).1 later).2) := by
  induction bytes generalizing m with
  | nil => rfl
  | cons byte bytes ih => simp only [List.cons_append,feed,ih,List.append_assoc]

-- One interrupt takes some of the bytes.
theorem deviceInterfacePs2Mouse_feed (m : Mouse) (pending : List UInt8) :
    ∃ bytes, pending = bytes ++ (deviceInterfacePs2Mouse m pending).2.2 ∧
      feed m bytes = ((deviceInterfacePs2Mouse m pending).1,(deviceInterfacePs2Mouse m pending).2.1) := by
  induction pending generalizing m with
  | nil => exact ⟨[],rfl,rfl⟩
  | cons byte pending ih =>
      unfold deviceInterfacePs2Mouse
      split
      · exact ⟨[],rfl,rfl⟩
      · cases left : (mouseByte m byte).2.2 with
        | true => exact ⟨[byte],by simp [left],by simp [feed,left]⟩
        | false =>
            obtain ⟨bytes,cut,same⟩ := ih (mouseByte m byte).1
            refine ⟨byte :: bytes,?_,?_⟩
            · simp only [left,Bool.false_eq_true,if_false,List.cons_append]
              rw [← cut]
            · simp only [left,Bool.false_eq_true,if_false,feed,same]

-- An interrupt with the bytes that it takes.
structure Interrupt where
  bytes : List UInt8
  events : List MouseEvent

def InterruptTurn (s : Mouse) (e : Interrupt) (t : Mouse) : Prop :=
  ∃ rest, deviceInterfacePs2Mouse s (e.bytes ++ rest) = (t,e.events,rest)

theorem interrupts_feed {s t : Mouse} {labels : List Interrupt} (run : Runs.Path InterruptTurn s labels t) :
    feed s (labels.flatMap Interrupt.bytes) = (t,labels.flatMap Interrupt.events) := by
  refine run.history (fun labels t => feed s (labels.flatMap Interrupt.bytes) = (t,labels.flatMap Interrupt.events)) ?_ rfl
  rintro labels s' e t' sofar ⟨rest,turn⟩
  obtain ⟨bytes,cut,same⟩ := deviceInterfacePs2Mouse_feed s' (e.bytes ++ rest)
  rw [turn] at cut same
  have taken : e.bytes = bytes := List.append_cancel_right cut
  simp only [List.flatMap_append,List.flatMap_singleton,feed_append,sofar,taken,same]

-- A packet whose first byte is well formed and reports no overflow.
structure MousePacket where
  flags : UInt8
  dx : UInt8
  dy : UInt8
  wheel : UInt8
  always : flags &&& mouseFlagsAlways1 ≠ 0
  bounded : ¬ overflows flags

def MousePacket.bytes (p : MousePacket) (hasWheel : Bool) : List UInt8 :=
  if hasWheel = true then [p.flags,p.dx,p.dy,p.wheel] else [p.flags,p.dx,p.dy]

-- A packet with what it made of the mouse.
structure Handled where
  before : Mouse
  packet : MousePacket
  events : List MouseEvent
  after : Mouse

def PacketTurn (s : Mouse) (h : Handled) (t : Mouse) : Prop :=
  h.before = s ∧ h.after = t ∧ feed s (h.packet.bytes s.hasWheel) = (t,h.events)

def Handled.bit (h : Handled) (button : Nat) : Bool := pressedIn h.packet.flags button

def Handled.Changes (h : Handled) (button : Nat) : Prop := h.bit button ≠ h.before.oldState button

def Handled.Moves (h : Handled) : Prop := h.before.x ≠ h.after.x ∨ h.before.y ≠ h.after.y

-- The packet changes no button, or at most one.
def Handled.Still (h : Handled) : Prop := ∀ button < 3, ¬ h.Changes button
def Handled.OneButton (h : Handled) : Prop := ∀ button < 3, ∀ other < 3, h.Changes button → h.Changes other → button = other

-- The ways a packet is reported.
inductive Reported (h : Handled) : Prop where
  | button (b : Nat) (few : b < 3) (changes : h.Changes b) (first : ∀ c < b, ¬ h.Changes c) (sent : h.events = [buttonEvent (h.bit b) (b+1)])
  | move (still : h.Still) (moves : h.Moves) (sent : h.events = [⟨msgMousemove,h.after.x,h.after.y⟩])
  | nothing (still : h.Still) (rests : ¬ h.Moves) (sent : h.events = [])

structure PacketDone (h : Handled) : Prop where
  ready : h.after.stage = 0
  state : ∀ button < 3, h.after.oldState button = h.bit button
  reported : Reported h

-- The whole packet is in the buffer before it is parsed.
theorem feed_packet {s : Mouse} (ready : s.stage = 0) (p : MousePacket) :
    ∃ full : Mouse, feed s (p.bytes s.hasWheel) = (full.parsed.1,full.parsed.2) ∧ full.buffer 0 = p.flags ∧ full.x = s.x ∧ full.y = s.y ∧
      full.oldState = s.oldState := by
  have always : ¬ p.flags &&& mouseFlagsAlways1 = 0 := p.always
  cases wheel : s.hasWheel with
  | false =>
      simp only [MousePacket.bytes,Bool.false_eq_true,if_false,feed,mouseByte,ready,always,wheel,List.nil_append,List.append_nil]
      exact ⟨_,rfl,by simp,rfl,rfl,rfl⟩
  | true =>
      simp only [MousePacket.bytes,if_true,feed,mouseByte,ready,always,wheel,List.nil_append,List.append_nil,if_false]
      exact ⟨_,rfl,by simp,rfl,rfl,rfl⟩

-- The parser by the first button that changes.
theorem parseDataPacket_eq {m : Mouse} (bounded : ¬ overflows (m.buffer 0)) :
    ∃ after : Mouse, (∀ b < 3, after.oldState b = pressedIn (m.buffer 0) b) ∧ parseDataPacket m =
      (after,if pressedIn (m.buffer 0) 0 ≠ m.oldState 0 then [buttonEvent (pressedIn (m.buffer 0) 0) 1]
        else if pressedIn (m.buffer 0) 1 ≠ m.oldState 1 then [buttonEvent (pressedIn (m.buffer 0) 1) 2]
        else if pressedIn (m.buffer 0) 2 ≠ m.oldState 2 then [buttonEvent (pressedIn (m.buffer 0) 2) 3]
        else if m.x ≠ after.x ∨ m.y ≠ after.y then [⟨msgMousemove,after.x,after.y⟩]
        else []) := by
  unfold parseDataPacket
  simp only [if_neg bounded]
  refine ⟨{m with
    x := (m.x+mouseDelta (m.buffer 1) (decide (m.buffer 0 &&& 0x10 ≠ 0))) % 1024
    y := (m.y-mouseDelta (m.buffer 2) (decide (m.buffer 0 &&& 0x20 ≠ 0))) % 1024
    oldState := fun i => if i < 3 then pressedIn (m.buffer 0) i else m.oldState i},fun b few => if_pos few,rfl⟩

theorem packet_done {s t : Mouse} {h : Handled} (ready : s.stage = 0) (turn : PacketTurn s h t) : PacketDone h := by
  obtain ⟨before,packet,events,after⟩ := h
  obtain ⟨here,there,fed⟩ := turn
  replace here : before = s := here
  replace there : after = t := there
  subst here there
  obtain ⟨full,parsed,flags,x,y,old⟩ := feed_packet ready packet
  obtain ⟨next,state,same⟩ := parseDataPacket_eq (flags ▸ packet.bounded)
  replace fed : feed before (packet.bytes before.hasWheel) = (after,events) := fed
  rw [parsed,Mouse.parsed,same,flags,x,y,old] at fed
  rw [flags] at state
  obtain ⟨rfl,rfl⟩ := Prod.mk.inj fed
  refine ⟨rfl,state,?_⟩
  by_cases left : pressedIn packet.flags 0 ≠ before.oldState 0
  · refine .button 0 (by decide) left (fun c small => absurd small (Nat.not_lt_zero c)) ?_
    simp only [if_pos left]
    rfl
  by_cases right : pressedIn packet.flags 1 ≠ before.oldState 1
  · refine .button 1 (by decide) right (fun c small => ?_) ?_
    · obtain rfl : c = 0 := by omega
      exact left
    · simp only [if_neg left,if_pos right]
      rfl
  by_cases middle : pressedIn packet.flags 2 ≠ before.oldState 2
  · refine .button 2 (by decide) middle (fun c small => ?_) ?_
    · obtain rfl | rfl : c = 0 ∨ c = 1 := by omega
      · exact left
      · exact right
    · simp only [if_neg left,if_neg right,if_pos middle]
      rfl
  have still : ∀ b < 3, ¬ pressedIn packet.flags b ≠ before.oldState b := by
    intro b few
    obtain rfl | rfl | rfl : b = 0 ∨ b = 1 ∨ b = 2 := by omega
    · exact left
    · exact right
    · exact middle
  by_cases moves : before.x ≠ next.x ∨ before.y ≠ next.y
  · refine .move still moves ?_
    simp only [if_neg left,if_neg right,if_neg middle,if_pos moves]
  · refine .nothing still moves ?_
    simp only [if_neg left,if_neg right,if_neg middle,if_neg moves]

-- What the events of a packet say about a button, and the button as the events of many
-- packets leave it.
def Handled.presses (h : Handled) (button : Nat) : List Bool :=
  h.events.filterMap fun e =>
    if e = buttonEvent true (button+1) then some true
    else if e = buttonEvent false (button+1) then some false
    else none

def presses (button : Nat) (run : List Handled) : List Bool := run.flatMap fun h => h.presses button
def told (button : Nat) (run : List Handled) : Bool := (presses button run).getLast?.getD false

def Handled.First (h : Handled) (button : Nat) : Prop := h.Changes button ∧ ∀ other < button, ¬ h.Changes other

theorem buttonEvent_inj {pressed other : Bool} {m n : Nat} : buttonEvent pressed m = buttonEvent other n ↔ pressed = other ∧ m = n := by
  cases pressed <;> cases other <;> simp [buttonEvent,msgMousepressed,msgMousereleased,Int.natCast_inj]

theorem presses_button {h : Handled} {pressed : Bool} {b : Nat} (sent : h.events = [buttonEvent pressed (b+1)]) (button : Nat) :
    h.presses button = if button = b then [pressed] else [] := by
  unfold Handled.presses
  rw [sent]
  by_cases same : button = b
  · cases pressed <;> simp [buttonEvent_inj,same]
  · have apart : ¬ b = button := fun other => same other.symm
    cases pressed <;> simp [buttonEvent_inj,same,apart]

theorem PacketDone.presses_first {h : Handled} (done : PacketDone h) {button : Nat} (few : button < 3) (first : h.First button) :
    h.presses button = [h.bit button] := by
  cases done.reported with
  | button b _ changes earlier sent =>
      have same : button = b := by
        rcases Nat.lt_trichotomy button b with before | same | after
        · exact absurd first.1 (earlier button before)
        · exact same
        · exact absurd changes (first.2 b after)
      rw [presses_button sent,if_pos same,same]
  | move still => exact absurd first.1 (still button few)
  | nothing still => exact absurd first.1 (still button few)

theorem PacketDone.presses_other {h : Handled} (done : PacketDone h) {button : Nat} (other : ¬ h.First button) : h.presses button = [] := by
  cases done.reported with
  | button b _ changes earlier sent =>
      rw [presses_button sent,if_neg]
      rintro rfl
      exact other ⟨changes,earlier⟩
  | move _ _ sent => simp [Handled.presses,buttonEvent,sent,msgMousemove,msgMousepressed,msgMousereleased]
  | nothing _ _ sent => simp [Handled.presses,sent]

theorem told_first {h : Handled} (done : PacketDone h) (run : List Handled) {button : Nat} (few : button < 3) (first : h.First button) :
    told button (run ++ [h]) = h.bit button := by
  simp [told,presses,done.presses_first few first]

theorem told_other {h : Handled} (done : PacketDone h) (run : List Handled) {button : Nat} (other : ¬ h.First button) :
    told button (run ++ [h]) = told button run := by
  simp [told,presses,done.presses_other other]

-- After each packet the buttons are as the events have told.
def Matched (run : List Handled) : Prop :=
  ∀ before h after, run = before ++ h :: after → ∀ button < 3, told button (before ++ [h]) = h.bit button

def Alternates (run : List Handled) : Prop := ∀ button < 3, (false :: presses button run).IsChain (· ≠ ·)

-- What the packets so far mean for the buttons, while each was told.
structure Followed (run : List Handled) (s : Mouse) : Prop where
  ready : s.stage = 0
  matched : Matched run ↔ ∀ h ∈ run, h.OneButton
  knows : Matched run → ∀ button < 3, told button run = s.oldState button
  alternates : Matched run → Alternates run

-- Where the old states were told, a packet is told exactly when it changes one button.
theorem told_iff {run : List Handled} {h : Handled} (done : PacketDone h) (known : ∀ button < 3, told button run = h.before.oldState button) :
    (∀ button < 3, told button (run ++ [h]) = h.bit button) ↔ h.OneButton := by
  constructor
  · intro matched
    -- a button that changes and is not told would differ, so it is the first to change
    have first : ∀ button < 3, h.Changes button → h.First button := by
      intro button few changes
      by_contra other
      have same := matched button few
      rw [told_other done run other,known button few] at same
      exact changes same.symm
    intro button few other also changes moves
    rcases Nat.lt_trichotomy button other with before | same | after
    · exact absurd changes ((first other also moves).2 button before)
    · exact same
    · exact absurd moves ((first button few changes).2 other after)
  · intro one button few
    by_cases changes : h.Changes button
    · refine told_first done run few ⟨changes,fun other before moves => ?_⟩
      have same := one button few other (by omega) changes moves
      omega
    · rw [told_other done run (fun first => changes first.1),known button few]
      exact (not_not.mp changes).symm

theorem Followed.snoc {run : List Handled} {s t : Mouse} {h : Handled} (followed : Followed run s) (turn : PacketTurn s h t) :
    Followed (run ++ [h]) t := by
  have done := packet_done followed.ready turn
  obtain ⟨rfl,rfl,_⟩ := turn
  have iff : Matched (run ++ [h]) ↔ ∀ e ∈ run ++ [h], e.OneButton := by
    unfold Matched
    rw [Runs.forall_labels_snoc,List.forall_mem_append,List.forall_mem_singleton]
    constructor
    · rintro ⟨earlier,now⟩
      exact ⟨followed.matched.mp earlier,(told_iff done (followed.knows earlier)).mp now⟩
    · rintro ⟨earlier,now⟩
      have matched : Matched run := followed.matched.mpr earlier
      exact ⟨matched,(told_iff done (followed.knows matched)).mpr now⟩
  refine ⟨done.ready,iff,?_,?_⟩
  · intro matched button few
    rw [done.state button few]
    exact matched run h [] rfl button few
  · intro matched button few
    have earlier : Matched run := (Runs.forall_labels_snoc.mp matched).1
    have known := followed.knows earlier button few
    have chain := followed.alternates earlier button few
    by_cases first : h.First button
    · have more : false :: presses button (run ++ [h]) = (false :: presses button run) ++ [h.bit button] := by
        simp [presses,done.presses_first few first]
      rw [more,List.isChain_append]
      refine ⟨chain,.singleton _,fun old ending new start => ?_⟩
      rw [List.getLast?_cons] at ending
      cases ending
      cases start
      show told button run ≠ h.bit button
      rw [known]
      exact first.1.symm
    · simpa [presses,done.presses_other first] using chain

-- A pointer that has moved is reported with the packet or with the next one.
def Pointed (run : List Handled) : Prop := ∀ before h next after, run = before ++ h :: next :: after →
  h.Moves → ⟨msgMousemove,h.after.x,h.after.y⟩ ∈ h.events ++ next.events

structure MouseKept (run : List Handled) : Prop where
  alternates : Alternates run
  matched : Matched run
  pointed : Pointed run

-- As the initialisation leaves it, with all buttons up.
structure Mouse.Fresh (m : Mouse) : Prop where
  ready : m.stage = 0
  released : ∀ button < 3, m.oldState button = false

theorem mouse_followed {m t : Mouse} {run : List Handled} (fresh : m.Fresh) (path : Runs.Path PacketTurn m run t) : Followed run t := by
  refine path.history Followed (fun _ _ _ _ followed turn => followed.snoc turn) ⟨fresh.ready,?_,?_,?_⟩
  · simp [Matched]
  · exact fun _ button few => (fresh.released button few).symm
  · exact fun _ _ _ => .singleton _

theorem mouse_done {m t : Mouse} {run : List Handled} (fresh : m.Fresh) (path : Runs.Path PacketTurn m run t) : ∀ h ∈ run, PacketDone h := by
  have kept : ∀ s h t, s.stage = 0 → PacketTurn s h t → t.stage = 0 := by
    intro s h t ready turn
    have done := packet_done ready turn
    obtain ⟨_,rfl,_⟩ := turn
    exact done.ready
  exact (path.under (fun s => s.stage = 0) kept fresh.ready).each PacketDone fun _ _ _ both => packet_done both.1 both.2

theorem reports_move {h : Handled} (done : PacketDone h) (x y : Int) :
    ⟨msgMousemove,x,y⟩ ∈ h.events ↔ h.Still ∧ h.Moves ∧ x = h.after.x ∧ y = h.after.y := by
  cases done.reported with
  | button b few changes _ sent =>
      rw [sent,List.mem_singleton]
      constructor
      · intro same
        cases told : h.bit b with
        | true =>
            rw [told] at same
            exact absurd (congrArg MouseEvent.eventId same) (show ¬ 32 = 35 by decide)
        | false =>
            rw [told] at same
            exact absurd (congrArg MouseEvent.eventId same) (show ¬ 32 = 36 by decide)
      · rintro ⟨still,_⟩
        exact absurd changes (still b few)
  | move still moves sent =>
      rw [sent,List.mem_singleton,MouseEvent.mk.injEq]
      exact ⟨fun same => ⟨still,moves,same.2⟩,fun all => ⟨rfl,all.2.2⟩⟩
  | nothing still rests sent =>
      rw [sent]
      constructor
      · intro among
        cases among
      · rintro ⟨_,moves,_⟩
        exact absurd moves rests

theorem mouse_next {m t : Mouse} {run before after : List Handled} {h next : Handled} (path : Runs.Path PacketTurn m run t)
    (same : run = before ++ h :: next :: after) : h.after = next.before := by
  have chain := (path.linked Handled.before Handled.after (fun _ _ _ turn => ⟨turn.1,turn.2.1⟩)).1
  rw [same,List.isChain_append] at chain
  exact chain.2.1.rel

-- Nothing of the mouse is lost exactly when no packet changes two buttons, and none that
-- moves the pointer changes one.
theorem mouse_kept_iff {m t : Mouse} {run : List Handled} (fresh : m.Fresh) (path : Runs.Path PacketTurn m run t) :
    MouseKept run ↔ (∀ h ∈ run, h.OneButton) ∧ ∀ before h next after, run = before ++ h :: next :: after → h.Moves → h.Still := by
  have followed := mouse_followed fresh path
  have done := mouse_done fresh path
  have pointed : Pointed run ↔ ∀ before h next after, run = before ++ h :: next :: after → h.Moves → h.Still := by
    constructor
    · intro pointed before h next after same moves
      have seen := pointed before h next after same moves
      have one : PacketDone h := done h (by simp [same])
      have two : PacketDone next := done next (by simp [same])
      rcases List.mem_append.mp seen with now | later
      · exact ((reports_move one _ _).mp now).1
      · -- the next packet would report the place that it has moved the pointer to
        obtain ⟨_,again,x,y⟩ := (reports_move two _ _).mp later
        rw [mouse_next path same] at x y
        exact absurd again (by simp [Handled.Moves,x,y])
    · intro still before h next after same moves
      have one : PacketDone h := done h (by simp [same])
      exact List.mem_append_left _ ((reports_move one _ _).mpr ⟨still before h next after same moves,moves,rfl,rfl⟩)
  rw [← followed.matched,← pointed]
  constructor
  · intro kept
    exact ⟨kept.matched,kept.pointed⟩
  · rintro ⟨matched,pointing⟩
    exact ⟨followed.alternates matched,matched,pointing⟩

-- The same where it is enough that the pointer is reported where it then is.
theorem mouse_moves_iff {m t : Mouse} {run before after : List Handled} {h next : Handled} (fresh : m.Fresh)
    (path : Runs.Path PacketTurn m run t) (same : run = before ++ h :: next :: after) (moves : h.Moves) :
    (⟨msgMousemove,h.after.x,h.after.y⟩ ∈ h.events ∨ ⟨msgMousemove,next.after.x,next.after.y⟩ ∈ next.events) ↔
      h.Still ∨ (next.Still ∧ next.Moves) := by
  have done := mouse_done fresh path
  rw [reports_move (done h (by simp [same])),reports_move (done next (by simp [same]))]
  simp [moves]

def Mouse.handle (m : Mouse) (p : MousePacket) : Handled := ⟨m,p,(feed m (p.bytes m.hasWheel)).2,(feed m (p.bytes m.hasWheel)).1⟩

theorem handle_turn (m : Mouse) (p : MousePacket) : PacketTurn m (m.handle p) (m.handle p).after := ⟨rfl,rfl,rfl⟩

def mouseUp : Mouse := ⟨true,false,0,fun _ => 0,0,0,fun _ => false⟩

theorem mouseUp_fresh : mouseUp.Fresh := ⟨rfl,fun _ _ => rfl⟩

def leftPressed : MousePacket := ⟨0x09,0,0,0,by decide,by decide⟩
def twoPressed : MousePacket := ⟨0x0B,0,0,0,by decide,by decide⟩
def pressedAndMoved : MousePacket := ⟨0x09,5,0,0,by decide,by decide⟩

theorem left_kept : MouseKept [mouseUp.handle leftPressed] := by
  have path : Runs.Path PacketTurn mouseUp [mouseUp.handle leftPressed] (mouseUp.handle leftPressed).after := .step .nil (handle_turn _ _)
  refine (mouse_kept_iff mouseUp_fresh path).mpr ⟨?_,?_⟩
  · rw [List.forall_mem_singleton]
    unfold Handled.OneButton Handled.Changes
    decide
  · intro before h next after same
    have short := congrArg List.length same
    simp only [List.length_append,List.length_cons,List.length_nil] at short
    omega

-- Two buttons go down in one packet and one is told. A button goes down in a packet that
-- moves the pointer, the mouse rests, and no move is told.
theorem mouse_loses : (∃ h t, Runs.Path PacketTurn mouseUp [h] t ∧ h.packet = twoPressed ∧ ¬ MouseKept [h]) ∧
    ∃ h next t, Runs.Path PacketTurn mouseUp [h,next] t ∧ h.packet = pressedAndMoved ∧ next.packet = leftPressed ∧
      Matched [h,next] ∧ ¬ Pointed [h,next] := by
  constructor
  · refine ⟨mouseUp.handle twoPressed,_,.step .nil (handle_turn _ _),rfl,fun kept => ?_⟩
    have right := kept.matched [] _ [] rfl 1 (by decide)
    exact absurd right (by decide)
  · let h := mouseUp.handle pressedAndMoved
    let next := h.after.handle leftPressed
    have path : Runs.Path PacketTurn mouseUp [h,next] next.after :=
      .step (.step .nil (handle_turn mouseUp pressedAndMoved)) (handle_turn h.after leftPressed)
    have followed := mouse_followed mouseUp_fresh path
    refine ⟨h,next,_,path,rfl,rfl,followed.matched.mpr ?_,fun pointed => ?_⟩
    · rw [List.forall_mem_cons,List.forall_mem_singleton]
      unfold Handled.OneButton Handled.Changes
      decide
    · have moves : h.Moves := .inl (by decide)
      exact absurd (pointed [] h next [] rfl moves) (by decide)

end GramadoKernel
