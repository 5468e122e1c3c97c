import GramadoKernel.Bitmap

open Loops
namespace GramadoKernel

-- An uncompressed bitmap file of one of these depths, with a full palette directly after
-- the 54 bytes of the headers.
structure BmpFile (bmp : Bmp) (bits width height : Nat) : Prop where
  signed : Signed bmp
  depth : bits = 4 ∨ bits = 8 ∨ bits = 24 ∨ bits = 32
  bitCount : bmpWord bmp 28 = bits
  columns : bmpDword bmp 18 = width
  lines : bmpDword bmp 22 = height
  wide : 1 ≤ width ∧ width ≤ 600
  high : 1 ≤ height ∧ height ≤ 600
  uncompressed : bmpDword bmp 30 = 0
  data : 54+(if bits ≤ 8 then 4*2^bits else 0) ≤ bmpDword bmp 10

-- The bytes of a line, up to a multiple of 4.
def fileLine (bits width : Nat) : Nat := (bits*width+31)/32*4

-- The colour of column j in line r from the top. The file begins with the line at the bottom.
def fileColor (bmp : Bmp) (bits width height j r : Nat) : UInt32 :=
  let line := bmpDword bmp 10+(height-1-r)*fileLine bits width
  let entry (index : Nat) := UInt32.ofNat (bmpDword bmp (54+4*index))
  let bytes (a : Nat) := bytesColor (bmp a) (bmp (a+1)) (bmp (a+2)) 0
  match bits with
  | 4 => entry (if j % 2 = 0 then (bmp (line+j/2)).toNat/16 else (bmp (line+j/2)).toNat % 16)
  | 8 => entry (bmp (line+j)).toNat
  | 24 => bytes (line+3*j)
  | _ => bytes (line+4*j)

-- The colour that stands at a place after some pixels have been painted.
def paintedColor (dots : List Dot) (x y : Int) : Option UInt32 := (dots.reverse.find? fun d => d.x = x ∧ d.y = y).map Dot.color

-- On the device the image is painted at (x,y), and nothing else is.
def Decodes (bmp : Bmp) (bits width height x y deviceWidth deviceHeight : Nat) (dots : List Dot) : Prop :=
  ∀ X < deviceWidth, ∀ Y < deviceHeight, paintedColor dots X Y =
    if (x ≤ X ∧ X < x+width) ∧ (y ≤ Y ∧ Y < y+height) then some (fileColor bmp bits width height (X-x) (Y-y)) else none

structure BmpCall where
  colors : BmpColors
  address : Option Bmp
  x : Nat
  y : Nat
  zoomFactor : Nat
  shows : Bool

-- nibble_count_16colors after some calls.
def nibbleAfter (calls : List BmpCall) : Nat :=
  calls.foldl (fun nibble c => (bmpDisplayBMP0 c.colors nibble c.address c.x c.y c.zoomFactor c.shows).nibbleCount16colors) 0

section Lowered

variable {bmp : Bmp} {x y : Nat} {colors : BmpColors}

theorem pixelDots_plain (null : colors.changeColorFlag = bmpChangeColorNull) (useZoom : Bool) (color left bottom : UInt32) (zoomFactor i j : Nat) :
    pixelDots colors useZoom color left bottom zoomFactor i j = [⟨color,left.toNat,bottom.toNat⟩] := by
  rw [pixelDots,null,if_neg (by decide),if_neg (by decide)]

-- Line i of the image, counted from the bottom, is painted i lines above the end of its place.
theorem dots_lowered (near : ¬ (800 < x ∨ 600 < y)) (signed : Signed bmp) (null : colors.changeColorFlag = bmpChangeColorNull) (nibble : Nat)
    (shows : Bool) (dot : Dot) (painted : dot ∈ (bmpDisplayBMP0 colors nibble (some bmp) x y 1 shows).dots) :
    ∃ i < bmpHeight bmp, dot.y = (y+bmpHeight bmp-i : Nat) := by
  obtain ⟨i,line,j,_,among⟩ := (mem_dots colors nibble 1 shows near signed (Nat.le_refl 1) dot).mp painted
  have small : y+bmpHeight bmp*1-i < 2^32 := by
    have high : bmpHeight bmp < 0x10000 := Nat.mod_lt _ (by decide)
    omega
  rw [dotsAt,pixelDots_plain null,List.mem_singleton] at among
  refine ⟨i,line,?_⟩
  rw [among]
  change ((UInt32.ofNat (y+bmpHeight bmp*1-i)).toNat : Int) = _
  rw [UInt32.toNat_ofNat_of_lt' small,Nat.mul_one]

theorem paintedColor_none {dots : List Dot} {X Y : Int} (absent : ∀ dot ∈ dots, dot.y ≠ Y) : paintedColor dots X Y = none := by
  rw [paintedColor,Option.map_eq_none_iff,List.find?_eq_none]
  intro dot among here
  exact absent dot (List.mem_reverse.mp among) (of_decide_eq_true here).2

-- The first line of the place is not painted.
theorem paintedColor_first (null : colors.changeColorFlag = bmpChangeColorNull) (signed : Signed bmp) (nibble : Nat) (shows : Bool) (X : Int) :
    paintedColor (bmpDisplayBMP0 colors nibble (some bmp) x y 1 shows).dots X y = none := by
  apply paintedColor_none
  intro dot painted here
  by_cases far : 800 < x ∨ 600 < y
  · rw [bmpDisplayBMP0_far colors nibble 1 shows far] at painted
    exact List.not_mem_nil painted
  · obtain ⟨i,line,place⟩ := dots_lowered far signed null nibble shows dot painted
    omega

end Lowered

-- No file is painted at its place: the lines begin one below it.
theorem bmpDisplayBMP0_lowers (calls : List BmpCall) (bmp : Bmp) (bits width height x y deviceWidth deviceHeight : Nat) (colors : BmpColors)
    (shows : Bool) (file : BmpFile bmp bits width height) (null : colors.changeColorFlag = bmpChangeColorNull)
    (right : x+width ≤ deviceWidth) (below : y+height ≤ deviceHeight) :
    ¬ Decodes bmp bits width height x y deviceWidth deviceHeight
      (bmpDisplayBMP0 colors (nibbleAfter calls) (some bmp) x y 1 shows).dots := by
  intro decodes
  have wide := file.wide
  have high := file.high
  have first := decodes x (by omega) y (by omega)
  rw [paintedColor_first null file.signed,if_pos ⟨⟨by omega,by omega⟩,by omega,by omega⟩] at first
  cases first

-- A file of one pixel with 24 bits.
def pixelBmp : Bmp := fun a => [0x42,0x4D,58,0,0,0,0,0,0,0,54,0,0,0,40,0,0,0,1,0,0,0,1,0,0,0,1,0,24].getD a (if a = 54 then 1 else 0)

theorem pixelBmp_file : BmpFile pixelBmp 24 1 1 :=
  ⟨⟨rfl,rfl⟩,by decide,rfl,rfl,rfl,by decide,by decide,rfl,by decide⟩

theorem bmpDisplayBMP0_lowers_pixel :
    ¬ Decodes pixelBmp 24 1 1 10 10 800 600 (bmpDisplayBMP0 ⟨0,0,0⟩ (nibbleAfter []) (some pixelBmp) 10 10 1 false).dots :=
  bmpDisplayBMP0_lowers [] pixelBmp 24 1 1 10 10 800 600 ⟨0,0,0⟩ false pixelBmp_file rfl (by decide) (by decide)

-- The pixel is painted at (10,11).
theorem bmpDisplayBMP0_below : ¬ Decodes pixelBmp 24 1 1 10 10 800 600 (bmpDisplayBMP0 ⟨0,0,0⟩ 0 (some pixelBmp) 10 10 1 false).dots := by
  have dots : (bmpDisplayBMP0 ⟨0,0,0⟩ 0 (some pixelBmp) 10 10 1 false).dots = [⟨1,10,11⟩] := by decide
  intro decodes
  have first := decodes 10 (by decide) 11 (by decide)
  rw [dots] at first
  exact absurd first (by decide)

end GramadoKernel
