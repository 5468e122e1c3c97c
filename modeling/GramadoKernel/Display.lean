import GramadoKernel.Library.Moving
import Mathlib.Algebra.Order.Ring.Int
import Mathlib.Tactic.Linarith

open Moving
namespace GramadoKernel

-- x64gva.h
def frontbufferVa : Nat := 0x30200000
def backbufferVa : Nat := 0x30400000

-- gSavedX, gSavedY and gSavedBPP. screenGetWidth and screenGetHeight give the same sizes,
-- which the boot loader has read from two words of the VBE mode info.
structure Screen where
  width : Nat
  height : Nat
  bpp : Nat
  width_word : width < 2^16
  height_word : height < 2^16

-- The VESA mode 0x412E.
def smallScreen : Screen := ⟨800,600,32,by decide,by decide⟩

-- A routine that does not return: it has called panic, or loops for ever.
inductive NoReturn where
  | panic (text : String)
  | forever

abbrev Display := Except NoReturn (Nat × Storage UInt8)

structure Pixel where
  b : UInt8
  g : UInt8
  r : UInt8
  a : UInt8

def colorPixel (color : UInt32) : Pixel where
  b := color.toUInt8
  g := (color >>> 8).toUInt8
  r := (color >>> 16).toUInt8
  a := (color >>> 24).toUInt8+1

-- The colour that bldisp_putpixel0 stores. Its locals b3, g3, r3 and a3 keep what they
-- hold unset under another operation.
def operated (operation : Nat) (color old unset : Pixel) : Pixel :=
  match operation with
  | 0 => color
  | 1 => {old with b := old.b ||| color.b,g := old.g ||| color.g,r := old.r ||| color.r}
  | 2 => {old with b := old.b &&& color.b,g := old.g &&& color.g,r := old.r &&& color.r}
  | 3 => {old with b := old.b ^^^ color.b,g := old.g ^^^ color.g,r := old.r ^^^ color.r}
  | 4 => {old with b := ~~~old.b &&& color.b,g := ~~~old.g &&& color.g,r := ~~~old.r &&& color.r}
  | 10 => {old with r := old.r &&& 0xFE}
  | 11 => {old with g := old.g &&& 0xFE}
  | 12 => {old with b := old.b &&& 0xFE}
  | 20 => {old with b := old.b &&& 0x80,g := old.g &&& 0x80,r := old.r &&& 0x80}
  | 21 => {old with b := old.b &&& 0xFF,g := old.g &&& 0xFF,r := old.r &&& 0x00}
  | _ => unset

-- bytes_count
def bytesPerPixel (s : Screen) : Option Nat :=
  match s.bpp with
  | 32 => some 4
  | 24 => some 3
  | _ => none

-- buffer_va+offset for an int offset.
def pixelAddress (bufferVa bytesCount width x y : Nat) : Nat :=
  (bufferVa+((bytesCount*width*y+bytesCount*x : Nat) : Int).bmod (2^32)).toNat

def bldispPutpixel0 (s : Screen) (unset : Pixel) (color : UInt32) (x y rop bufferVa : Nat) (m : Storage UInt8) : Display :=
  if bufferVa = 0 then .error (.panic "putpixel0: buffer_va\n")
  else
    match bytesPerPixel s with
    | none => .error .forever
    | some bytesCount =>
        let here := pixelAddress bufferVa bytesCount (s.width % 0x10000) (x % 0x10000) (y % 0x10000)
        let (b2,m) := m.load here
        let (g2,m) := m.load (here+1)
        let (r2,m) := m.load (here+2)
        let (a2,m) := if s.bpp = 32 then m.load (here+3) else (unset.a,m)
        let stored := operated (rop % 0x100) (colorPixel color) ⟨b2,g2,r2,a2⟩ unset
        let m := ((m.store here stored.b).store (here+1) stored.g).store (here+2) stored.r
        .ok (1,if s.bpp = 32 then m.store (here+3) stored.a else m)

-- while (x1 < x2), over the pixels that are left.
def linePixels (s : Screen) (unset : Pixel) (bufferVa : Nat) (color : UInt32) (y rop : Nat) : Nat → Nat → Nat → Storage UInt8 → Display
  | 0,_,n2,m => .ok (n2,m)
  | left+1,x1,n2,m => do
      let (one,m) ← bldispPutpixel0 s unset color x1 y rop bufferVa m
      linePixels s unset bufferVa color y rop left (x1+1) (n2+one) m

-- backbuffer_draw_horizontal_line and frontbuffer_draw_horizontal_line, with the buffer.
def drawHorizontalLine (s : Screen) (unset : Pixel) (bufferVa x1 y x2 : Nat) (color : UInt32) (rop : Nat) (m : Storage UInt8) : Display :=
  if x2 < x1 then .ok (0,m)
  else do
    let n := x2-x1
    let (n2,m) ← linePixels s unset bufferVa color y rop n x1 0 m
    .ok (if n2 < n then n2 else n,m)

-- The loop of __drawrectangle0. Its counter is an unsigned long and is decremented after
-- the line number has been checked.
def drawLines (s : Screen) (unset : Pixel) (bufferVa left right bottom : Nat) (color : UInt32) (rop y : Nat) (internalHeight : UInt64)
    (npixels : Nat) (m : Storage UInt8) : Display := do
  let (n,m) ← drawHorizontalLine s unset bufferVa left y right color rop m
  if bottom < y+1 then .ok (npixels+n,m)
  else if internalHeight-1 = 0 then .ok (npixels+n,m)
  else drawLines s unset bufferVa left right bottom color rop (y+1) (internalHeight-1) (npixels+n) m
termination_by bottom+1-y

def drawrectangle0 (s : Screen) (unset : Pixel) (x y width height : Nat) (color : UInt32) (rop backOrFront : Nat) (m : Storage UInt8) : Display :=
  let x := x % 0x10000
  let y := y % 0x10000
  let width := width % 0x10000
  let height := height % 0x10000
  if backOrFront ≠ 1 ∧ backOrFront ≠ 2 then .error (.panic "__drawrectangle0: back_or_front\n")
  else if s.width = 0 ∨ s.height = 0 then .ok (0,m)
  else
    let clippingRight := s.width % 0x10000
    let clippingBottom := s.height % 0x10000
    if 800 < clippingRight then .error (.panic "__drawrectangle0: width\n")
    else if 600 < clippingBottom then .error (.panic "__drawrectangle0: height\n")
    else
      let right := if clippingRight < x+width then clippingRight else x+width
      if 600 < height then .error (.panic "__drawrectangle0: internal_height\n")
      else if right = x then .ok (0,m)
      else
        let bufferVa := if backOrFront = 1 then backbufferVa else frontbufferVa
        drawLines s unset bufferVa x right clippingBottom color rop y (UInt64.ofNat height) 0 m

def backbufferDrawRectangle (s : Screen) (unset : Pixel) (x y width height : Nat) (color : UInt32) (rop : Nat) (m : Storage UInt8) : Display :=
  drawrectangle0 s unset x y width height color rop 1 m

def frontbufferDrawRectangle (s : Screen) (unset : Pixel) (x y width height : Nat) (color : UInt32) (rop : Nat) (m : Storage UInt8) : Display :=
  drawrectangle0 s unset x y width height color rop 2 m

theorem word_mod (small : n < 2^16) : n % 0x10000 = n := Nat.mod_eq_of_lt small

section Depth

variable {s : Screen} {size : Nat}

theorem bytesPerPixel_some : bytesPerPixel s = some size ↔ s.bpp = 32 ∧ size = 4 ∨ s.bpp = 24 ∧ size = 3 := by
  unfold bytesPerPixel
  split
  · rename_i depth
    simp [depth,eq_comm]
  · rename_i depth
    simp [depth,eq_comm]
  · rename_i other one
    simp only [reduceCtorEq,false_iff]
    rintro (⟨depth,_⟩ | ⟨depth,_⟩)
    · exact other depth
    · exact one depth

theorem bytesPerPixel_known (depth : s.bpp = 32 ∨ s.bpp = 24) : ∃ size, bytesPerPixel s = some size := by
  rcases depth with bpp | bpp
  · exact ⟨4,bytesPerPixel_some.mpr (.inl ⟨bpp,rfl⟩)⟩
  · exact ⟨3,bytesPerPixel_some.mpr (.inr ⟨bpp,rfl⟩)⟩

theorem bytesPerPixel_depth (depth : bytesPerPixel s = some size) : s.bpp = 32 ∨ s.bpp = 24 :=
  (bytesPerPixel_some.mp depth).imp And.left And.left

theorem bytesPerPixel_le (depth : bytesPerPixel s = some size) : size ≤ 4 := by
  rcases bytesPerPixel_some.mp depth with ⟨_,rfl⟩ | ⟨_,rfl⟩
  · exact Nat.le_refl 4
  · exact Nat.le_succ 3

theorem bytesPerPixel_pos (depth : bytesPerPixel s = some size) : 0 < size := by
  rcases bytesPerPixel_some.mp depth with ⟨_,rfl⟩ | ⟨_,rfl⟩
  · exact Nat.succ_pos 3
  · exact Nat.succ_pos 2

theorem depth_size (depth : bytesPerPixel s = some size) : s.bpp/8 = size := by
  rcases bytesPerPixel_some.mp depth with ⟨bpp,rfl⟩ | ⟨bpp,rfl⟩
  · rw [bpp]
  · rw [bpp]

end Depth

end GramadoKernel
