import GramadoKernel.Library.Loops
import Mathlib.Logic.Function.Iterate
import Mathlib.Tactic.Linarith

open Loops
namespace GramadoKernel

-- bmp.h
def bmpChangeColorNull : Int := 0
def bmpChangeColorTransparent : Int := 1000
def bmpChangeColorSubstitute : Int := 2000

-- bmp_change_color_flag, bmp_selected_color and bmp_substitute_color.
structure BmpColors where
  changeColorFlag : Int
  selectedColor : UInt32
  substituteColor : UInt32

-- A call of libdisp_backbuffer_putpixel. The coordinates are those of the call, before
-- they become ints.
structure Dot where
  color : UInt32
  x : Int
  y : Int
deriving DecidableEq

-- The memory from the address of a file on.
abbrev Bmp := Nat → UInt8

def bmpWord (bmp : Bmp) (a : Nat) : Nat := (bmp a).toNat+256*(bmp (a+1)).toNat

def bmpDword (bmp : Bmp) (a : Nat) : Nat := bmpWord bmp a+65536*bmpWord bmp (a+2)

-- The bytes c[0] to c[3] of a colour.
def bytesColor (c0 c1 c2 c3 : UInt8) : UInt32 := UInt32.ofNat (c0.toNat+256*c1.toNat+65536*c2.toNat+2^24*c3.toNat)

-- __Local_bi.bmpWidth, bmpHeight and bmpBitCount.
def bmpWidth (bmp : Bmp) : Nat := bmpDword bmp 18 % 0x10000
def bmpHeight (bmp : Bmp) : Nat := bmpDword bmp 22 % 0x10000
def bmpBitCount (bmp : Bmp) : Nat := bmpWord bmp 28

def offsetForBase (bmp : Bmp) : Nat := bmpDword bmp 10 % 0x100

def bmpPalette (bmp : Bmp) (index : Nat) : UInt32 := UInt32.ofNat (bmpDword bmp (offsetForBase bmp+4*index))

-- What is added to OffsetForBase for the data area.
def paletteSize : Nat → Nat
  | 1 => 8
  | 4 => 64
  | 8 => 1024
  | 16 => 65536
  | _ => 0

-- The data cursor, the local colour and the static nibble_count_16colors.
structure BmpCursor where
  base : Nat
  color : UInt32
  nibbleCount16colors : Nat

-- Decoding the next pixel. The colour is kept under another depth.
def nextColor (bmp : Bmp) (k : BmpCursor) : BmpCursor :=
  match bmpBitCount bmp with
  | 4 =>
      if k.nibbleCount16colors = 2222 then ⟨k.base+1,bmpPalette bmp (bmp k.base &&& 0x0F).toNat,0⟩
      else ⟨k.base,bmpPalette bmp ((bmp k.base >>> 4) &&& 0x0F).toNat,2222⟩
  | 8 => {k with base := k.base+1,color := bmpPalette bmp (bmp k.base).toNat}
  | 16 =>
      let c1 := bmp k.base &&& 0xF8
      let c2 := (bmp k.base &&& 0x07) ||| (bmp (k.base+1) &&& 0xE0)
      let c3 := bmp (k.base+1) &&& 0x1F
      {k with base := k.base+2,color := bytesColor 0 c1 c2 c3}
  | 24 => {k with base := k.base+3,color := bytesColor (bmp k.base) (bmp (k.base+1)) (bmp (k.base+2)) 0}
  | 32 => {k with base := k.base+4,color := bytesColor (bmp k.base) (bmp (k.base+1)) (bmp (k.base+2)) 0}
  | _ => k

-- The loops over ihZoom and iwZoom.
def zoomedDots (color : UInt32) (left bottom : UInt32) (zoomFactor i j : Nat) : List Dot :=
  (List.range zoomFactor).flatMap fun ihZoom => (List.range zoomFactor).map fun iwZoom =>
    ⟨color,left.toNat+(j*zoomFactor+iwZoom : Nat),bottom.toNat-(i*zoomFactor+ihZoom : Nat)⟩

def pixelDots (colors : BmpColors) (useZoom : Bool) (color left bottom : UInt32) (zoomFactor i j : Nat) : List Dot :=
  if colors.changeColorFlag = bmpChangeColorTransparent then
    if color ≠ colors.selectedColor then
      if useZoom then zoomedDots color left bottom zoomFactor i j else [⟨color,left.toNat,bottom.toNat⟩]
    else []
  else if colors.changeColorFlag = bmpChangeColorSubstitute then
    if color = colors.selectedColor then [⟨colors.substituteColor,left.toNat,bottom.toNat⟩]
    else [⟨color,left.toNat,bottom.toNat⟩]
  else [⟨color,left.toNat,bottom.toNat⟩]

structure BmpDrawing where
  cursor : BmpCursor
  left : UInt32
  bottom : UInt32
  dots : List Dot

def drawPixel (colors : BmpColors) (bmp : Bmp) (useZoom : Bool) (zoomFactor i j : Nat) (d : BmpDrawing) : BmpDrawing :=
  let cursor := nextColor bmp d.cursor
  {d with
    cursor := cursor
    left := if useZoom then d.left else d.left+1
    dots := d.dots ++ pixelDots colors useZoom cursor.color d.left d.bottom zoomFactor i j}

def drawRow (colors : BmpColors) (bmp : Bmp) (useZoom : Bool) (zoomFactor x i : Nat) (d : BmpDrawing) : BmpDrawing :=
  let d := times (drawPixel colors bmp useZoom zoomFactor i) (bmpWidth bmp) d
  if useZoom then d else {d with bottom := d.bottom-1,left := UInt32.ofNat x}

structure BmpRect where
  left : Nat
  top : Nat
  width : Nat
  height : Nat
deriving DecidableEq

-- What a call returns, leaves in its static variable, paints and refreshes.
structure BmpResult where
  result : Int
  nibbleCount16colors : Nat
  dots : List Dot
  refreshed : Option BmpRect

-- The address is none for NULL.
def bmpDisplayBMP0 (colors : BmpColors) (nibbleCount16colors : Nat) (address : Option Bmp) (x y zoomFactor : Nat) (shows : Bool) : BmpResult :=
  let fail : BmpResult := ⟨-1,nibbleCount16colors,[],none⟩
  match address with
  | none => fail
  | some bmp =>
      if 800 < x ∨ 600 < y then fail
      else if bmp 0 ≠ 0x42 ∨ bmp 1 ≠ 0x4D then fail
      else
        let useZoom := decide (zoomFactor ≠ 1)
        let left := UInt32.ofNat (x % 0x10000)
        let top := UInt32.ofNat (y % 0x10000)
        let bottom := top+UInt32.ofNat (bmpHeight bmp*zoomFactor)
        let width := UInt32.ofNat (bmpWidth bmp*zoomFactor)
        let base := offsetForBase bmp+paletteSize (bmpBitCount bmp)
        let d := times (drawRow colors bmp useZoom zoomFactor x) (bmpHeight bmp) ⟨⟨base,0,nibbleCount16colors⟩,left,bottom,[]⟩
        ⟨0,d.cursor.nibbleCount16colors,d.dots,if shows then some ⟨left.toNat,top.toNat,width.toNat,(bottom-top).toNat⟩ else none⟩

-- The cursor before pixel n of a file.
def cursorAt (bmp : Bmp) (nibble n : Nat) : BmpCursor := (nextColor bmp)^[n] ⟨offsetForBase bmp+paletteSize (bmpBitCount bmp),0,nibble⟩

-- The colour of pixel j of line i, counted from the bottom of the image.
def decodedColor (bmp : Bmp) (nibble i j : Nat) : UInt32 := (cursorAt bmp nibble (i*bmpWidth bmp+j+1)).color

theorem cursorAt_succ (bmp : Bmp) (nibble n : Nat) : cursorAt bmp nibble (n+1) = nextColor bmp (cursorAt bmp nibble n) :=
  Function.iterate_succ_apply' _ _ _

section Drawing

variable (colors : BmpColors) (bmp : Bmp) (useZoom : Bool) (zoomFactor x bottom nibble : Nat)

-- Where left and bottom stand for a pixel. They only move without zoom.
def leftAt (j : Nat) : Nat := if useZoom then x else x+j
def bottomAt (i : Nat) : Nat := if useZoom then bottom else bottom-i

def dotsAt (i j : Nat) : List Dot :=
  pixelDots colors useZoom (decodedColor bmp nibble i j) (UInt32.ofNat (leftAt useZoom x j)) (UInt32.ofNat (bottomAt useZoom bottom i))
    zoomFactor i j

def lineDots (i : Nat) : List Dot := (List.range (bmpWidth bmp)).flatMap (dotsAt colors bmp useZoom zoomFactor x bottom nibble i)

-- The drawing before pixel j of line i, with the dots of the lines below.
def drawingAt (dots : List Dot) (i j : Nat) : BmpDrawing where
  cursor := cursorAt bmp nibble (i*bmpWidth bmp+j)
  left := UInt32.ofNat (leftAt useZoom x j)
  bottom := UInt32.ofNat (bottomAt useZoom bottom i)
  dots := dots ++ (List.range j).flatMap (dotsAt colors bmp useZoom zoomFactor x bottom nibble i)

theorem drawPixel_drawingAt (dots : List Dot) (i j : Nat) :
    drawPixel colors bmp useZoom zoomFactor i j (drawingAt colors bmp useZoom zoomFactor x bottom nibble dots i j) =
      drawingAt colors bmp useZoom zoomFactor x bottom nibble dots i (j+1) := by
  have left : (if useZoom then UInt32.ofNat (leftAt useZoom x j) else UInt32.ofNat (leftAt useZoom x j)+1) =
      UInt32.ofNat (leftAt useZoom x (j+1)) := by
    cases useZoom with
    | true => rfl
    | false => exact (UInt32.ofNat_add (x+j) 1).symm
  simp only [drawPixel,drawingAt,left,← cursorAt_succ,List.range_succ,List.flatMap_append,List.flatMap_singleton,List.append_assoc]
  rfl

theorem drawRow_drawingAt (dots : List Dot) (i : Nat) (inside : i < bottom) :
    drawRow colors bmp useZoom zoomFactor x i (drawingAt colors bmp useZoom zoomFactor x bottom nibble dots i 0) =
      drawingAt colors bmp useZoom zoomFactor x bottom nibble (dots ++ lineDots colors bmp useZoom zoomFactor x bottom nibble i) (i+1) 0 := by
  have row := times_trail (drawingAt colors bmp useZoom zoomFactor x bottom nibble dots i) (bmpWidth bmp)
    fun j _ => drawPixel_drawingAt colors bmp useZoom zoomFactor x bottom nibble dots i j
  have next : i*bmpWidth bmp+bmpWidth bmp = (i+1)*bmpWidth bmp+0 := by rw [Nat.add_mul,Nat.one_mul,Nat.add_zero]
  have below : UInt32.ofNat (bottom-i)-1 = UInt32.ofNat (bottom-(i+1)) := by
    obtain ⟨rest,known⟩ : ∃ rest, bottom-i = rest+1 := ⟨bottom-i-1,by omega⟩
    have less : bottom-(i+1) = rest := by omega
    rw [known,less,UInt32.ofNat_add]
    exact UInt32.add_sub_cancel _ _
  rw [drawRow,row]
  cases useZoom with
  | true => simp only [drawingAt,next,leftAt,bottomAt,lineDots,if_true,List.range_zero,List.flatMap_nil,List.append_nil]
  | false =>
      simp only [drawingAt,next,leftAt,bottomAt,lineDots,List.range_zero,List.flatMap_nil,List.append_nil,Bool.false_eq_true,if_false,below,
        Nat.add_zero]

-- The whole image, line after line from the bottom.
theorem rows_drawingAt (high : bmpHeight bmp ≤ bottom) :
    times (drawRow colors bmp useZoom zoomFactor x) (bmpHeight bmp) (drawingAt colors bmp useZoom zoomFactor x bottom nibble [] 0 0) =
      drawingAt colors bmp useZoom zoomFactor x bottom nibble
        ((List.range (bmpHeight bmp)).flatMap (lineDots colors bmp useZoom zoomFactor x bottom nibble)) (bmpHeight bmp) 0 := by
  apply times_trail fun i => drawingAt colors bmp useZoom zoomFactor x bottom nibble
    ((List.range i).flatMap (lineDots colors bmp useZoom zoomFactor x bottom nibble)) i 0
  intro i small
  rw [drawRow_drawingAt colors bmp useZoom zoomFactor x bottom nibble _ i (Nat.lt_of_lt_of_le small high),List.range_succ,
    List.flatMap_append,List.flatMap_singleton]

end Drawing

-- A file with the signature of a bitmap.
def Signed (bmp : Bmp) : Prop := bmp 0 = 0x42 ∧ bmp 1 = 0x4D

section Display

variable (colors : BmpColors) {bmp : Bmp} {x y : Nat} (nibble zoomFactor : Nat) (shows : Bool)

theorem bmpDisplayBMP0_far (far : 800 < x ∨ 600 < y) : (bmpDisplayBMP0 colors nibble (some bmp) x y zoomFactor shows).dots = [] := by
  rw [bmpDisplayBMP0]
  simp only [if_pos far]

theorem bmpDisplayBMP0_near (near : ¬ (800 < x ∨ 600 < y)) (signed : Signed bmp) (positive : 1 ≤ zoomFactor) :
    (bmpDisplayBMP0 colors nibble (some bmp) x y zoomFactor shows).result = 0 ∧
      (bmpDisplayBMP0 colors nibble (some bmp) x y zoomFactor shows).dots = (List.range (bmpHeight bmp)).flatMap
        (lineDots colors bmp (decide (zoomFactor ≠ 1)) zoomFactor x (y+bmpHeight bmp*zoomFactor) nibble) := by
  have unsigned : ¬ (bmp 0 ≠ 0x42 ∨ bmp 1 ≠ 0x4D) := by
    rintro (first | second)
    · exact first signed.1
    · exact second signed.2
  have high : bmpHeight bmp ≤ y+bmpHeight bmp*zoomFactor := by
    have line := Nat.mul_le_mul_left (bmpHeight bmp) positive
    omega
  have column : x % 0x10000 = x := Nat.mod_eq_of_lt (by omega)
  have row : y % 0x10000 = y := Nat.mod_eq_of_lt (by omega)
  have begins : (⟨⟨offsetForBase bmp+paletteSize (bmpBitCount bmp),0,nibble⟩,UInt32.ofNat x,
      UInt32.ofNat y+UInt32.ofNat (bmpHeight bmp*zoomFactor),[]⟩ : BmpDrawing) =
      drawingAt colors bmp (decide (zoomFactor ≠ 1)) zoomFactor x (y+bmpHeight bmp*zoomFactor) nibble [] 0 0 := by
    rw [← UInt32.ofNat_add]
    simp only [drawingAt,leftAt,bottomAt,Nat.add_zero,Nat.sub_zero,ite_self,Nat.zero_mul,List.range_zero,List.flatMap_nil,List.append_nil]
    rfl
  have rows := rows_drawingAt colors bmp (decide (zoomFactor ≠ 1)) zoomFactor x (y+bmpHeight bmp*zoomFactor) nibble high
  rw [bmpDisplayBMP0]
  simp only [if_neg near,if_neg unsigned,column,row,begins,rows]
  exact ⟨trivial,List.append_nil _⟩

-- What is painted, pixel by pixel.
theorem mem_dots (near : ¬ (800 < x ∨ 600 < y)) (signed : Signed bmp) (positive : 1 ≤ zoomFactor) (dot : Dot) :
    dot ∈ (bmpDisplayBMP0 colors nibble (some bmp) x y zoomFactor shows).dots ↔
      ∃ i < bmpHeight bmp, ∃ j < bmpWidth bmp,
        dot ∈ dotsAt colors bmp (decide (zoomFactor ≠ 1)) zoomFactor x (y+bmpHeight bmp*zoomFactor) nibble i j := by
  rw [(bmpDisplayBMP0_near colors nibble zoomFactor shows near signed positive).2]
  simp only [lineDots,List.mem_flatMap,List.mem_range]

end Display

end GramadoKernel
