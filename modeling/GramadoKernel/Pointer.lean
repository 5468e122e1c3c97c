import GramadoKernel.Mouse
import GramadoKernel.State
import Mathlib.Data.List.GetD

namespace GramadoKernel

-- __initialize_mouse_position, with what screenGetWidth and screenGetHeight return.
def initializeMousePosition (m : Mouse) (width height : Nat) : Except Halt Mouse := do
  let deviceWidth := width%65536
  let deviceHeight := height%65536
  require (¬ (deviceWidth = 0 ∨ deviceHeight = 0)) (.panic "initialize_mouse_position: w h\n")
  .ok {m with x := deviceWidth/2,y := deviceHeight/2}

-- A packet as the device sends it, with or without overflow.
structure PointerPacket where
  flags : UInt8
  dx : UInt8
  dy : UInt8
  wheel : UInt8
  always : flags &&& mouseFlagsAlways1 ≠ 0

def PointerPacket.bytes (p : PointerPacket) (hasWheel : Bool) : List UInt8 :=
  if hasWheel = true then [p.flags,p.dx,p.dy,p.wheel] else [p.flags,p.dx,p.dy]

-- A number of 9 bits, of which the sign is apart.
def nineBits (byte : UInt8) (sign : Bool) : Int := if sign = true then byte.toNat-256 else byte.toNat

def PointerPacket.xSign (p : PointerPacket) : Bool := decide (p.flags &&& 0x10 ≠ 0)
def PointerPacket.ySign (p : PointerPacket) : Bool := decide (p.flags &&& 0x20 ≠ 0)
def PointerPacket.moveX (p : PointerPacket) : Int := nineBits p.dx p.xSign
def PointerPacket.moveY (p : PointerPacket) : Int := nineBits p.dy p.ySign

def clamp (v limit : Int) : Int := max 0 (min v (limit-1))

-- A packet with the mouse before and after it.
structure Pointing where
  before : Mouse
  packet : PointerPacket
  after : Mouse

def PointerTurn (s : Mouse) (e : Pointing) (t : Mouse) : Prop :=
  e.before = s ∧ e.after = t ∧ (feed s (e.packet.bytes s.hasWheel)).1 = t

-- The buffer holds the bytes of this packet, as many as have come, and the next byte
-- after them begins another.
def Pointing.Framed (e : Pointing) : Prop :=
  let bytes := e.packet.bytes e.before.hasWheel
  ∀ i ≤ bytes.length, (feed e.before (bytes.take i)).1.stage = (if i = bytes.length then 0 else i) ∧
    ∀ j < i, (feed e.before (bytes.take i)).1.buffer j = bytes.getD j 0

def Pointing.Tracks (w h : Int) (e : Pointing) : Prop :=
  ¬ overflows e.packet.flags →
    e.after.x = clamp (e.before.x+e.packet.moveX) w ∧ e.after.y = clamp (e.before.y-e.packet.moveY) h

-- The sign repeats the top bit of the byte.
def SignInByte (byte : UInt8) (sign : Bool) : Prop := sign = decide (128 ≤ byte.toNat)

-- The packet overflows, or it keeps the pointer on the screen with signs that the bytes
-- have too; a move of -256 from the left or the lower edge is as good.
def Pointing.Agrees (w h : Int) (e : Pointing) : Prop :=
  let p := e.packet
  overflows p.flags ∨
    (SignInByte p.dx p.xSign ∧ 0 ≤ e.before.x+p.moveX ∧ e.before.x+p.moveX < w ∨ e.before.x = 0 ∧ p.moveX = -256) ∧
    (SignInByte p.dy p.ySign ∧ 0 ≤ e.before.y-p.moveY ∧ e.before.y-p.moveY < h ∨ e.before.y = h-1 ∧ p.moveY = -256)

theorem toInt8_toInt (byte : UInt8) : byte.toInt8.toInt = if byte.toNat < 128 then (byte.toNat : Int) else byte.toNat-256 := by
  have small := byte.toNat_lt
  change byte.toBitVec.toInt = _
  rw [BitVec.toInt_eq_toNat_cond]
  change (if 2*byte.toNat < 2^8 then (byte.toNat : Int) else byte.toNat-(2^8 : Nat)) = _
  split <;> split <;> omega

-- Taking 256 away changes nothing in a char.
theorem mouseDelta_eq (byte : UInt8) (sign : Bool) : mouseDelta byte sign = byte.toInt8.toInt := by
  unfold mouseDelta
  simp only
  split
  · have turn : Int8.ofInt (byte.toInt8.toInt-0xFF-0x01) = byte.toInt8 := by
      have around : -Int8.ofInt 0xFF+-Int8.ofInt 0x01 = 0 := by decide
      rw [Int8.ofInt_sub,Int8.ofInt_sub,Int8.ofInt_toInt,Int8.sub_eq_add_neg,Int8.sub_eq_add_neg,Int8.add_assoc,around,Int8.add_zero]
    rw [turn]
  · rfl

theorem mouseDelta_nineBits (byte : UInt8) (sign : Bool) :
    (-128 ≤ mouseDelta byte sign ∧ mouseDelta byte sign ≤ 127) ∧ (SignInByte byte sign ↔ nineBits byte sign = mouseDelta byte sign) ∧
      (nineBits byte sign = mouseDelta byte sign ∨ nineBits byte sign = mouseDelta byte sign+256 ∧ mouseDelta byte sign < 0 ∨
        nineBits byte sign = mouseDelta byte sign-256 ∧ 0 ≤ mouseDelta byte sign) := by
  have small := byte.toNat_lt
  rw [mouseDelta_eq,toInt8_toInt]
  unfold SignInByte nineBits
  by_cases top : 128 ≤ byte.toNat
  · rw [decide_eq_true top,if_neg (by omega)]
    refine ⟨by omega,?_⟩
    cases sign with
    | false =>
        have other : (byte.toNat : Int) ≠ byte.toNat-256 := by omega
        exact ⟨⟨fun same => absurd same (by decide),fun same => absurd same other⟩,.inr (.inl ⟨(Int.sub_add_cancel _ _).symm,by omega⟩)⟩
    | true => exact ⟨⟨fun _ => rfl,fun _ => rfl⟩,.inl rfl⟩
  · rw [decide_eq_false top,if_pos (by omega)]
    refine ⟨by omega,?_⟩
    cases sign with
    | false => exact ⟨⟨fun _ => rfl,fun _ => rfl⟩,.inl rfl⟩
    | true =>
        have other : (byte.toNat : Int)-256 ≠ byte.toNat := by omega
        exact ⟨⟨fun same => absurd same (by decide),fun same => absurd same other⟩,.inr (.inr ⟨rfl,by omega⟩)⟩

-- The remainder by 1024 against the limits.
theorem axis_iff (wide narrow : Int) {p limit : Int} (inside : 0 ≤ p ∧ p < limit ∧ limit ≤ 1024) (range : -128 ≤ narrow ∧ narrow ≤ 128)
    (differ : wide = narrow ∨ wide = narrow+256 ∧ narrow ≤ 0 ∨ wide = narrow-256 ∧ 0 ≤ narrow) :
    (p+narrow) % 1024 = clamp (p+wide) limit ↔
      wide = narrow ∧ 0 ≤ p+wide ∧ p+wide < limit ∨ p = 0 ∧ wide = -256 ∨ p = limit-1 ∧ wide = 256 := by
  unfold clamp
  omega

-- What the parser does to the position, and what it leaves alone.
theorem parsed_spec (m : Mouse) :
    m.parsed.1.stage = 0 ∧ m.parsed.1.buffer = m.buffer ∧ m.parsed.1.hasWheel = m.hasWheel ∧
      (overflows (m.buffer 0) → m.parsed.1.x = m.x ∧ m.parsed.1.y = m.y) ∧
      (¬ overflows (m.buffer 0) → m.parsed.1.x = (m.x+mouseDelta (m.buffer 1) (decide (m.buffer 0 &&& 0x10 ≠ 0))) % 1024 ∧
        m.parsed.1.y = (m.y-mouseDelta (m.buffer 2) (decide (m.buffer 0 &&& 0x20 ≠ 0))) % 1024) := by
  unfold Mouse.parsed parseDataPacket
  by_cases overflow : overflows (m.buffer 0)
  · simp only [if_pos overflow]
    exact ⟨trivial,trivial,trivial,fun _ => ⟨trivial,trivial⟩,fun bounded => absurd overflow bounded⟩
  · simp only [if_neg overflow]
    exact ⟨trivial,trivial,trivial,fun overflowing => absurd overflowing overflow,fun _ => ⟨trivial,trivial⟩⟩

-- The mouse with the whole packet in its buffer.
def Mouse.holding (m : Mouse) (p : PointerPacket) : Mouse :=
  let three := Function.update (Function.update (Function.update m.buffer 0 p.flags) 1 p.dx) 2 p.dy
  {m with stage := if m.hasWheel = true then 3 else 2,buffer := if m.hasWheel = true then Function.update three 3 p.wheel else three}

theorem feed_pointer {s : Mouse} (ready : s.stage = 0) (p : PointerPacket) :
    (feed s (p.bytes s.hasWheel)).1 = (s.holding p).parsed.1 := by
  have always : ¬ p.flags &&& mouseFlagsAlways1 = 0 := p.always
  cases wheel : s.hasWheel with
  | false => simp only [PointerPacket.bytes,Mouse.holding,Bool.false_eq_true,if_false,feed,mouseByte,ready,always,wheel]
  | true => simp only [PointerPacket.bytes,Mouse.holding,if_true,feed,mouseByte,ready,always,wheel,if_false]

-- The bytes of a packet.
def Mouse.packetLength (m : Mouse) : Nat := if m.hasWheel = true then 4 else 3

theorem bytes_length (m : Mouse) (p : PointerPacket) : (p.bytes m.hasWheel).length = m.packetLength := by
  unfold PointerPacket.bytes Mouse.packetLength
  split <;> rfl

-- One byte of a packet goes to its place, and the last one ends the packet.
theorem mouseByte_stored {m : Mouse} {byte : UInt8} (inside : m.stage < m.packetLength) (first : m.stage = 0 → byte &&& mouseFlagsAlways1 ≠ 0) :
    (mouseByte m byte).1.hasWheel = m.hasWheel ∧ (mouseByte m byte).1.buffer = Function.update m.buffer m.stage byte ∧
      (mouseByte m byte).1.stage = if m.stage+1 = m.packetLength then 0 else m.stage+1 := by
  obtain ⟨initialized,hasWheel,stage,buffer,x,y,oldState⟩ := m
  replace inside : stage < if hasWheel = true then 4 else 3 := inside
  replace first : stage = 0 → byte &&& mouseFlagsAlways1 ≠ 0 := first
  obtain rfl | rfl | rfl | rfl : stage = 0 ∨ stage = 1 ∨ stage = 2 ∨ stage = 3 := by
    split at inside <;> omega
  · have next : mouseByte ⟨initialized,hasWheel,0,buffer,x,y,oldState⟩ byte =
        (⟨initialized,hasWheel,1,Function.update buffer 0 byte,x,y,oldState⟩,[],false) := if_neg (first rfl)
    rw [next]
    cases hasWheel with
    | true => exact ⟨rfl,rfl,rfl⟩
    | false => exact ⟨rfl,rfl,rfl⟩
  · cases hasWheel with
    | true => exact ⟨rfl,rfl,rfl⟩
    | false => exact ⟨rfl,rfl,rfl⟩
  · cases hasWheel with
    | true => exact ⟨rfl,rfl,rfl⟩
    | false =>
        have parsed := parsed_spec ⟨initialized,false,2,Function.update buffer 2 byte,x,y,oldState⟩
        exact ⟨parsed.2.2.1,parsed.2.1,parsed.1⟩
  · cases hasWheel with
    | true =>
        have parsed := parsed_spec ⟨initialized,true,3,Function.update buffer 3 byte,x,y,oldState⟩
        exact ⟨parsed.2.2.1,parsed.2.1,parsed.1⟩
    | false => exact absurd inside (by decide)

theorem feed_framed {s : Mouse} (ready : s.stage = 0) (p : PointerPacket) {i : Nat} (within : i ≤ (p.bytes s.hasWheel).length) :
    (feed s ((p.bytes s.hasWheel).take i)).1.hasWheel = s.hasWheel ∧
      (feed s ((p.bytes s.hasWheel).take i)).1.stage = (if i = (p.bytes s.hasWheel).length then 0 else i) ∧
      ∀ j < i, (feed s ((p.bytes s.hasWheel).take i)).1.buffer j = (p.bytes s.hasWheel).getD j 0 := by
  induction i with
  | zero => exact ⟨rfl,by rw [List.take_zero,feed,ready,ite_self],fun j small => absurd small (Nat.not_lt_zero j)⟩
  | succ i ih =>
      obtain ⟨wheel,stage,held⟩ := ih (by omega)
      rw [if_neg (by omega)] at stage
      have last : (feed s ((p.bytes s.hasWheel).take (i+1))).1 =
          (mouseByte (feed s ((p.bytes s.hasWheel).take i)).1 ((p.bytes s.hasWheel).getD i 0)).1 := by
        rw [List.take_succ_eq_append_getElem (by omega),feed_append,List.getD_eq_getElem _ _ (by omega)]
        rfl
      have length : (feed s ((p.bytes s.hasWheel).take i)).1.packetLength = (p.bytes s.hasWheel).length := by
        rw [bytes_length,Mouse.packetLength,wheel]
        rfl
      have first : i = 0 → (p.bytes s.hasWheel).getD i 0 &&& mouseFlagsAlways1 ≠ 0 := by
        rintro rfl
        unfold PointerPacket.bytes
        split <;> exact p.always
      obtain ⟨sameWheel,buffer,next⟩ := mouseByte_stored (by omega) (fun none => first (stage.symm.trans none))
      rw [last,sameWheel,buffer,next,length,stage]
      refine ⟨wheel,rfl,fun j small => ?_⟩
      by_cases here : j = i
      · rw [here,Function.update_self]
      · rw [Function.update_of_ne here,held j (by omega)]

theorem holding_parsed (s : Mouse) (p : PointerPacket) :
    (overflows p.flags → (s.holding p).parsed.1.x = s.x ∧ (s.holding p).parsed.1.y = s.y) ∧
      (¬ overflows p.flags → (s.holding p).parsed.1.x = (s.x+mouseDelta p.dx p.xSign) % 1024 ∧
        (s.holding p).parsed.1.y = (s.y-mouseDelta p.dy p.ySign) % 1024) := by
  have held : (s.holding p).buffer 0 = p.flags ∧ (s.holding p).buffer 1 = p.dx ∧ (s.holding p).buffer 2 = p.dy := by
    cases wheel : s.hasWheel with
    | true => simp [Mouse.holding,wheel]
    | false => simp [Mouse.holding,wheel]
  have parsed := (parsed_spec (s.holding p)).2.2.2
  rw [held.1,held.2.1,held.2.2] at parsed
  exact parsed

-- The mouse between two packets, with the pointer on the screen.
structure Mouse.OnScreen (w h : Int) (m : Mouse) : Prop where
  ready : m.stage = 0
  x : 0 ≤ m.x ∧ m.x < w
  y : 0 ≤ m.y ∧ m.y < h

theorem pointer_ready {s t : Mouse} {e : Pointing} (ready : s.stage = 0) (turn : PointerTurn s e t) :
    t.stage = 0 ∧ t.hasWheel = s.hasWheel ∧ e.Framed := by
  obtain ⟨before,packet,after⟩ := e
  obtain ⟨rfl,rfl,fed⟩ := turn
  have framed {i : Nat} (within : i ≤ (packet.bytes before.hasWheel).length) := feed_framed ready packet within
  have whole := framed (Nat.le_refl _)
  rw [List.take_length,if_pos rfl] at whole
  replace fed : (feed before (packet.bytes before.hasWheel)).1 = after := fed
  rw [fed] at whole
  exact ⟨whole.2.1,whole.1,fun i within => (framed within).2⟩

theorem tracks_iff {w h : Int} (screen : w ≤ 1024 ∧ h ≤ 1024) {s t : Mouse} {e : Pointing} (on : s.OnScreen w h) (turn : PointerTurn s e t) :
    e.Tracks w h ↔ e.Agrees w h := by
  obtain ⟨before,packet,after⟩ := e
  obtain ⟨here,there,fed⟩ := turn
  replace here : before = s := here
  replace there : after = t := there
  subst here there
  replace fed : (feed before (packet.bytes before.hasWheel)).1 = after := fed
  rw [feed_pointer on.ready] at fed
  obtain ⟨ready,x,y⟩ := on
  unfold Pointing.Tracks Pointing.Agrees
  dsimp only
  by_cases overflow : overflows packet.flags
  · exact ⟨fun _ => .inl overflow,fun _ bounded => absurd overflow bounded⟩
  · have moved := (holding_parsed before packet).2 overflow
    rw [fed] at moved
    obtain ⟨rangeX,signX,nineX⟩ := mouseDelta_nineBits packet.dx packet.xSign
    obtain ⟨rangeY,signY,nineY⟩ := mouseDelta_nineBits packet.dy packet.ySign
    simp only [overflow,not_false_eq_true,true_imp_iff,false_or,moved,signX,signY]
    unfold PointerPacket.moveX PointerPacket.moveY
    refine and_congr ?_ ?_
    · rw [axis_iff _ _ ⟨x.1,x.2,screen.1⟩ (by omega) (by omega)]
      omega
    · rw [Int.sub_eq_add_neg,Int.sub_eq_add_neg,axis_iff _ _ ⟨y.1,y.2,screen.2⟩ (by omega) (by omega)]
      omega

theorem tracks_onScreen {w h : Int} (screen : (1 ≤ w ∧ w ≤ 1024) ∧ 1 ≤ h ∧ h ≤ 1024) {s t : Mouse} {e : Pointing} (on : s.OnScreen w h)
    (turn : PointerTurn s e t) (tracks : e.Tracks w h) : t.OnScreen w h := by
  have ready := (pointer_ready on.ready turn).1
  obtain ⟨before,packet,after⟩ := e
  obtain ⟨here,there,fed⟩ := turn
  replace here : before = s := here
  replace there : after = t := there
  subst here there
  replace fed : (feed before (packet.bytes before.hasWheel)).1 = after := fed
  rw [feed_pointer on.ready] at fed
  obtain ⟨x,y⟩ : (0 ≤ after.x ∧ after.x < w) ∧ 0 ≤ after.y ∧ after.y < h := by
    by_cases overflow : overflows packet.flags
    · have kept := (holding_parsed before packet).1 overflow
      rw [fed] at kept
      rw [kept.1,kept.2]
      exact ⟨on.x,on.y⟩
    · obtain ⟨x,y⟩ := tracks overflow
      dsimp only at x y
      unfold clamp at x y
      omega
  exact ⟨ready,x,y⟩

-- The packets of a stream one after the other.
theorem packets_run {s : Mouse} (ready : s.stage = 0) (packets : List PointerPacket) (rest : List UInt8) :
    ∃ events mid, Runs.Path PointerTurn s events mid ∧ events.map Pointing.packet = packets ∧
      (feed s (packets.flatMap (fun p => p.bytes s.hasWheel) ++ rest)).1 = (feed mid rest).1 := by
  induction packets generalizing s with
  | nil => exact ⟨[],s,.nil,rfl,rfl⟩
  | cons p packets ih =>
      have turn : PointerTurn s ⟨s,p,(feed s (p.bytes s.hasWheel)).1⟩ (feed s (p.bytes s.hasWheel)).1 := ⟨rfl,rfl,rfl⟩
      obtain ⟨still,wheel,_⟩ := pointer_ready ready turn
      obtain ⟨events,mid,path,same,fed⟩ := ih still
      refine ⟨_ :: events,mid,path.cons turn,by rw [List.map_cons,same],?_⟩
      rw [wheel] at fed
      rw [List.flatMap_cons,List.append_assoc,feed_append]
      exact fed

theorem start_onScreen {w h : Nat} (screen : (1 ≤ w ∧ w ≤ 1024) ∧ 1 ≤ h ∧ h ≤ 1024) {m s : Mouse} (ready : m.stage = 0)
    (start : initializeMousePosition m w h = .ok s) : s.OnScreen w h ∧ s.hasWheel = m.hasWheel := by
  simp only [initializeMousePosition,bind_ok,require_ok,Except.ok.injEq] at start
  obtain ⟨_,_,rfl⟩ := start
  exact ⟨⟨ready,by dsimp only; omega,by dsimp only; omega⟩,rfl⟩

-- Delivered by whatever interrupts, the packets stay apart, and all of them are tracked
-- exactly when each of them agrees with the arithmetic of the parser.
theorem pointer_tracks_iff {w h : Nat} (screen : (1 ≤ w ∧ w ≤ 1024) ∧ 1 ≤ h ∧ h ≤ 1024) {m s t : Mouse} (ready : m.stage = 0)
    (start : initializeMousePosition m w h = .ok s) {labels : List Interrupt} (path : Runs.Path InterruptTurn s labels t)
    {packets : List PointerPacket} {rest : List UInt8}
    (delivered : labels.flatMap Interrupt.bytes = packets.flatMap (fun p => p.bytes m.hasWheel) ++ rest) :
    ∃ events mid, Runs.Path PointerTurn s events mid ∧ events.map Pointing.packet = packets ∧ (feed mid rest).1 = t ∧
      (∀ e ∈ events, e.Framed) ∧ ((∀ e ∈ events, e.Tracks w h) ↔ ∀ e ∈ events, e.Agrees w h) := by
  obtain ⟨on,wheel⟩ := start_onScreen screen ready start
  have fed := interrupts_feed path
  rw [delivered,← wheel] at fed
  obtain ⟨events,mid,turns,same,split⟩ := packets_run on.ready packets rest
  rw [fed] at split
  have limits : (1 ≤ (w : Int) ∧ (w : Int) ≤ 1024) ∧ 1 ≤ (h : Int) ∧ (h : Int) ≤ 1024 := by omega
  have framed : ∀ e ∈ events, e.Framed := by
    have kept : ∀ s e t, s.stage = 0 → PointerTurn s e t → t.stage = 0 := fun _ _ _ ready turn => (pointer_ready ready turn).1
    exact (turns.under (fun s => s.stage = 0) kept on.ready).each Pointing.Framed fun _ _ _ both => (pointer_ready both.1 both.2).2.2
  have both := turns.forall_iff (Mouse.OnScreen w h) (Pointing.Tracks w h) (Pointing.Agrees w h)
    (fun _ _ _ on turn => tracks_iff ⟨limits.1.2,limits.2.2⟩ on turn) (fun _ _ _ on turn tracks => tracks_onScreen limits on turn tracks) on
  exact ⟨events,mid,turns,same,split.symm,framed,both.1⟩

-- A mouse in the middle of a screen of 1024 by 768 that moves by 5 and 3, in two bursts.
def mouseInMiddle : Mouse := {mouseUp with x := 512,y := 384}

def fiveAndThree : PointerPacket := ⟨0x08,5,3,0,by decide⟩

def twoBursts : List Interrupt := [⟨[0x08,5],[]⟩,⟨[3],[⟨msgMousemove,517,381⟩]⟩]

theorem pointer_tracks_bursts : ∃ t events mid, Runs.Path InterruptTurn mouseInMiddle twoBursts t ∧
    Runs.Path PointerTurn mouseInMiddle events mid ∧ events.map Pointing.packet = [fiveAndThree] ∧ (feed mid []).1 = t ∧
      (∀ e ∈ events, e.Framed) ∧ ((∀ e ∈ events, e.Tracks 1024 768) ↔ ∀ e ∈ events, e.Agrees 1024 768) := by
  have path : Runs.Path InterruptTurn mouseInMiddle twoBursts
      (deviceInterfacePs2Mouse (deviceInterfacePs2Mouse mouseInMiddle [0x08,5]).1 [3]).1 := .cons ⟨[],rfl⟩ (.cons ⟨[],rfl⟩ .nil)
  obtain ⟨events,mid,turns,same,last,framed,iff⟩ := pointer_tracks_iff (m := mouseUp) (w := 1024) (h := 768) (by decide) rfl rfl path
    (show _ = [fiveAndThree].flatMap (fun p => p.bytes mouseUp.hasWheel) ++ [] from rfl)
  exact ⟨_,events,mid,path,turns,same,last,framed,iff⟩

-- The device reports 200 to the right, and the pointer goes 56 to the left.
def twoHundred : PointerPacket := ⟨0x08,200,0,0,by decide⟩

theorem pointer_goes_back : ∃ e t, initializeMousePosition mouseUp 1024 768 = .ok mouseInMiddle ∧
    Runs.Path InterruptTurn mouseInMiddle [⟨[0x08,200,0],[⟨msgMousemove,456,384⟩]⟩] t ∧ PointerTurn mouseInMiddle e t ∧ e.packet = twoHundred ∧
      ¬ e.Tracks 1024 768 := by
  refine ⟨⟨mouseInMiddle,twoHundred,_⟩,_,rfl,.step .nil ⟨[],rfl⟩,⟨rfl,rfl,rfl⟩,rfl,?_⟩
  intro tracks
  exact absurd (tracks (by decide)).1 (by decide)

end GramadoKernel
