import GramadoKernel.Bitmap
import Mathlib.Tactic.Ring

open Loops
namespace GramadoKernel

def IsInt (n : Int) : Prop := -2^31 ≤ n ∧ n < 2^31

-- What is painted is what factor 1 paints, moved and scaled to blocks, with coordinates
-- that are ints and in the lines that are refreshed.
structure Zooms (colors : BmpColors) (bmp : Bmp) (nibble x y zoomFactor : Nat) (shows : Bool) (move : Int × Int) : Prop where
  ints : ∀ dot ∈ (bmpDisplayBMP0 colors nibble (some bmp) x y zoomFactor shows).dots, IsInt dot.x ∧ IsInt dot.y
  blocks : ∀ dot, dot ∈ (bmpDisplayBMP0 colors nibble (some bmp) x y zoomFactor shows).dots ↔
    ∃ pixel ∈ (bmpDisplayBMP0 colors nibble (some bmp) x y 1 shows).dots, ∃ iw < zoomFactor, ∃ ih < zoomFactor,
      dot = ⟨pixel.color,zoomFactor*pixel.x+move.1+iw,zoomFactor*pixel.y+move.2+ih⟩
  refreshed : ∀ dot ∈ (bmpDisplayBMP0 colors nibble (some bmp) x y zoomFactor shows).dots,
    (y : Int) ≤ dot.y ∧ dot.y < y+bmpHeight bmp*zoomFactor

-- The bytes of a file of 24 or 32 bits that are taken for pixel j of line i from the
-- bottom. The padding of the lines is not skipped.
def trueColor (bmp : Bmp) (i j : Nat) : UInt32 :=
  let a := offsetForBase bmp+(i*bmpWidth bmp+j)*(bmpBitCount bmp/8)
  bytesColor (bmp a) (bmp (a+1)) (bmp (a+2)) 0

-- The flag does not leave out the colour.
def Shown (colors : BmpColors) (color : UInt32) : Prop :=
  colors.changeColorFlag = bmpChangeColorTransparent → color ≠ colors.selectedColor

instance (colors : BmpColors) (color : UInt32) : Decidable (Shown colors color) := inferInstanceAs (Decidable (_ → _))

-- top+height*ZoomFactor, as an unsigned int.
def zoomBottom (y height zoomFactor : Nat) : Nat := (y+height*zoomFactor) % 2^32

-- The translation of the image.
def zoomMove (x y height zoomFactor : Nat) : Int × Int :=
  (x-zoomFactor*x,zoomBottom y height zoomFactor-zoomFactor*(y+height)-(zoomFactor-1))

-- A pixel is painted as a block, above the bottom line of the image, and with coordinates
-- that fit their types.
def BlockFits (colors : BmpColors) (x y height zoomFactor i j : Nat) : Prop :=
  (zoomFactor = 1 ∨ colors.changeColorFlag = bmpChangeColorTransparent) ∧ zoomBottom y height zoomFactor < y+height*zoomFactor+i ∧
    x+(j+1)*zoomFactor ≤ 2^31 ∧ y+(i+1)*zoomFactor ≤ zoomBottom y height zoomFactor+1 ∧ zoomBottom y height zoomFactor < 2^31+i*zoomFactor

instance (colors : BmpColors) (x y height zoomFactor i j : Nat) : Decidable (BlockFits colors x y height zoomFactor i j) :=
  inferInstanceAs (Decidable (_ ∧ _))

-- Nothing is painted outside of the limits. Elsewhere every pixel that is not left out must
-- fit. The pixels of the bottom line are painted behind the refreshed lines, and do not as
-- long as the bottom itself fits its type.
def ZoomMeets (colors : BmpColors) (bmp : Bmp) (x y zoomFactor : Nat) : Prop :=
  800 < x ∨ 600 < y ∨ ∀ i < bmpHeight bmp, ∀ j < bmpWidth bmp, Shown colors (trueColor bmp i j) →
    BlockFits colors x y (bmpHeight bmp) zoomFactor i j

instance (colors : BmpColors) (bmp : Bmp) (x y zoomFactor : Nat) : Decidable (ZoomMeets colors bmp x y zoomFactor) :=
  inferInstanceAs (Decidable (_ ∨ _ ∨ _))

-- The places of a block.
def InBlock (color : UInt32) (x bottom zoomFactor i j : Nat) (dot : Dot) : Prop :=
  ∃ ih < zoomFactor, ∃ iw < zoomFactor, dot = ⟨color,x+(j*zoomFactor+iw : Nat),bottom-(i*zoomFactor+ih : Nat)⟩

-- The colour that is painted for a pixel.
def paintColor (colors : BmpColors) (color : UInt32) : UInt32 :=
  if colors.changeColorFlag = bmpChangeColorSubstitute ∧ color = colors.selectedColor then colors.substituteColor else color

section Pixels

variable {colors : BmpColors} {bmp : Bmp} {x y zoomFactor : Nat}

theorem nextColor_true (depth : bmpBitCount bmp = 24 ∨ bmpBitCount bmp = 32) (k : BmpCursor) : nextColor bmp k =
    ⟨k.base+bmpBitCount bmp/8,bytesColor (bmp k.base) (bmp (k.base+1)) (bmp (k.base+2)) 0,k.nibbleCount16colors⟩ := by
  rcases depth with bits | bits
  · rw [nextColor,bits]
    rfl
  · rw [nextColor,bits]
    rfl

theorem cursorAt_true (depth : bmpBitCount bmp = 24 ∨ bmpBitCount bmp = 32) (nibble n : Nat) :
    (cursorAt bmp nibble n).base = offsetForBase bmp+n*(bmpBitCount bmp/8) := by
  induction n with
  | zero =>
      rw [Nat.zero_mul,Nat.add_zero]
      rcases depth with bits | bits
      · simp [cursorAt,paletteSize,bits]
      · simp [cursorAt,paletteSize,bits]
  | succ n ih => rw [cursorAt_succ,nextColor_true depth,Nat.add_mul,Nat.one_mul,← Nat.add_assoc,← ih]

theorem decodedColor_true (depth : bmpBitCount bmp = 24 ∨ bmpBitCount bmp = 32) (nibble i j : Nat) :
    decodedColor bmp nibble i j = trueColor bmp i j := by
  rw [decodedColor,cursorAt_succ,nextColor_true depth,cursorAt_true depth,trueColor]

theorem transparent_color (transparent : colors.changeColorFlag = bmpChangeColorTransparent) (color : UInt32) :
    paintColor colors color = color := by
  rw [paintColor,transparent]
  exact if_neg fun both => absurd both.1 (by decide)

-- A pixel that is painted once.
theorem mem_pixelDots (useZoom : Bool) (once : useZoom = false ∨ colors.changeColorFlag ≠ bmpChangeColorTransparent)
    (color left bottom : UInt32) (i j : Nat) (dot : Dot) : dot ∈ pixelDots colors useZoom color left bottom zoomFactor i j ↔
      Shown colors color ∧ dot = ⟨paintColor colors color,left.toNat,bottom.toNat⟩ := by
  by_cases transparent : colors.changeColorFlag = bmpChangeColorTransparent
  · obtain rfl : useZoom = false := once.resolve_right fun other => other transparent
    rw [pixelDots,if_pos transparent,transparent_color transparent]
    by_cases selected : color = colors.selectedColor
    · simp [Shown,transparent,selected]
    · simp [Shown,transparent,selected]
  · have shown : Shown colors color := fun flag => (transparent flag).elim
    rw [pixelDots,if_neg transparent,paintColor]
    by_cases substitute : colors.changeColorFlag = bmpChangeColorSubstitute
    · by_cases selected : color = colors.selectedColor
      · rw [if_pos substitute,if_pos selected,if_pos ⟨substitute,selected⟩,List.mem_singleton]
        exact (and_iff_right shown).symm
      · rw [if_pos substitute,if_neg selected,if_neg fun both => selected both.2,List.mem_singleton]
        exact (and_iff_right shown).symm
    · rw [if_neg substitute,if_neg fun both => substitute both.1,List.mem_singleton]
      exact (and_iff_right shown).symm

theorem mem_zoomedDots (color left bottom : UInt32) (i j : Nat) (dot : Dot) :
    dot ∈ zoomedDots color left bottom zoomFactor i j ↔ InBlock color left.toNat bottom.toNat zoomFactor i j dot := by
  simp only [zoomedDots,InBlock,List.mem_flatMap,List.mem_map,List.mem_range,eq_comm]

-- A pixel that is painted as a block.
theorem mem_pixelDots_block (transparent : colors.changeColorFlag = bmpChangeColorTransparent) (color left bottom : UInt32) (i j : Nat)
    (dot : Dot) : dot ∈ pixelDots colors true color left bottom zoomFactor i j ↔
      Shown colors color ∧ dot ∈ zoomedDots color left bottom zoomFactor i j := by
  rw [pixelDots,if_pos transparent]
  by_cases selected : color = colors.selectedColor
  · simp [Shown,transparent,selected]
  · simp [Shown,transparent,selected]

theorem mem_pixelDots_shown (useZoom : Bool) (color left bottom : UInt32) (i j : Nat) (dot : Dot)
    (among : dot ∈ pixelDots colors useZoom color left bottom zoomFactor i j) : Shown colors color := by
  intro transparent selected
  rw [pixelDots,if_pos transparent,if_neg fun other => other selected] at among
  exact List.not_mem_nil among

-- A block fits exactly if its places are ints in the refreshed lines.
theorem blockFits_iff (positive : 1 ≤ zoomFactor) (color : UInt32) (height i j : Nat)
    (scales : zoomFactor = 1 ∨ colors.changeColorFlag = bmpChangeColorTransparent) : BlockFits colors x y height zoomFactor i j ↔
      ∀ dot, InBlock color x (zoomBottom y height zoomFactor) zoomFactor i j dot →
        (IsInt dot.x ∧ IsInt dot.y) ∧ (y : Int) ≤ dot.y ∧ dot.y < y+height*zoomFactor := by
  have least : zoomBottom y height zoomFactor ≤ y+height*zoomFactor := Nat.mod_le _ _
  have end_ : (height : Int)*zoomFactor = (height*zoomFactor : Nat) := (Nat.cast_mul _ _).symm
  have block (n : Nat) : (n+1)*zoomFactor = n*zoomFactor+zoomFactor := by rw [Nat.add_mul,Nat.one_mul]
  rw [BlockFits,block,block,end_]
  unfold IsInt
  constructor
  · rintro ⟨_,above,right,low,high⟩ dot ⟨ih,up,iw,across,rfl⟩
    have lifted : i ≤ i*zoomFactor := Nat.le_mul_of_pos_right i positive
    simp only
    omega
  · intro inside
    obtain ⟨⟨across,_⟩,_,first⟩ := inside _ ⟨0,positive,zoomFactor-1,by omega,rfl⟩
    obtain ⟨_,last,_⟩ := inside _ ⟨zoomFactor-1,by omega,0,positive,rfl⟩
    obtain ⟨⟨_,row⟩,_⟩ := inside _ ⟨0,positive,0,positive,rfl⟩
    simp only at across first last row
    refine ⟨scales,?_,by omega,by omega,by omega⟩
    rcases Nat.eq_zero_or_pos i with rfl | higher
    · omega
    · omega

-- A place of a block, counted from the other end.
theorem block_row (b z i y h : Int) (up : Int) : z*(y+h-i)+(b-z*(y+h)-(z-1))+(z-1-up) = b-(i*z+up) := by ring

theorem block_column (z x j : Int) (across : Int) : z*(x+j)+(x-z*x)+across = x+(j*z+across) := by ring

end Pixels

section Painting

variable {colors : BmpColors} {bmp : Bmp} {x y zoomFactor : Nat}

section Near

variable (near : ¬ (800 < x ∨ 600 < y))
include near

theorem zoomBottom_one : zoomBottom y (bmpHeight bmp) 1 = y+bmpHeight bmp := by
  have high : bmpHeight bmp < 0x10000 := Nat.mod_lt _ (by decide)
  rw [zoomBottom,Nat.mul_one]
  exact Nat.mod_eq_of_lt (by omega)

theorem leftAt_toNat (useZoom : Bool) (column : j < bmpWidth bmp) :
    (UInt32.ofNat (leftAt useZoom x j)).toNat = leftAt useZoom x j := by
  have wide : bmpWidth bmp < 0x10000 := Nat.mod_lt _ (by decide)
  apply UInt32.toNat_ofNat_of_lt'
  change leftAt useZoom x j < 2^32
  unfold leftAt
  split
  · omega
  · omega

-- One pixel without zoom, as a block of one.
theorem mem_dotsAt_one (nibble : Nat) (line : i < bmpHeight bmp) (column : j < bmpWidth bmp) (dot : Dot) :
    dot ∈ dotsAt colors bmp false 1 x (y+bmpHeight bmp*1) nibble i j ↔
      Shown colors (decodedColor bmp nibble i j) ∧
        InBlock (paintColor colors (decodedColor bmp nibble i j)) x (zoomBottom y (bmpHeight bmp) 1) 1 i j dot := by
  have high : bmpHeight bmp < 0x10000 := Nat.mod_lt _ (by decide)
  have bottom : (UInt32.ofNat (bottomAt false (y+bmpHeight bmp*1) i)).toNat = y+bmpHeight bmp-i := by
    rw [Nat.mul_one]
    apply UInt32.toNat_ofNat_of_lt'
    change y+bmpHeight bmp-i < 2^32
    omega
  have row : ((y+bmpHeight bmp-i : Nat) : Int) = zoomBottom y (bmpHeight bmp) 1-i := by
    rw [zoomBottom_one near]
    omega
  rw [dotsAt,mem_pixelDots false (.inl rfl),leftAt_toNat near false column,bottom,row]
  simp [leftAt,InBlock]

-- One pixel with zoom and the transparent flag.
theorem mem_dotsAt_block (transparent : colors.changeColorFlag = bmpChangeColorTransparent) (nibble : Nat)
    (column : j < bmpWidth bmp) (dot : Dot) :
    dot ∈ dotsAt colors bmp true zoomFactor x (y+bmpHeight bmp*zoomFactor) nibble i j ↔
      Shown colors (decodedColor bmp nibble i j) ∧
        InBlock (paintColor colors (decodedColor bmp nibble i j)) x (zoomBottom y (bmpHeight bmp) zoomFactor) zoomFactor i j dot := by
  have bottom : (UInt32.ofNat (bottomAt true (y+bmpHeight bmp*zoomFactor) i)).toNat = zoomBottom y (bmpHeight bmp) zoomFactor :=
    UInt32.toNat_ofNat'
  rw [dotsAt,mem_pixelDots_block transparent,mem_zoomedDots,leftAt_toNat near true column,bottom,transparent_color transparent]
  rfl

variable (signed : Signed bmp) (depth : bmpBitCount bmp = 24 ∨ bmpBitCount bmp = 32)
include signed depth

-- What a factor paints that scales: 1, or any with the transparent flag.
theorem mem_dots_blocks (positive : 1 ≤ zoomFactor) (scales : zoomFactor = 1 ∨ colors.changeColorFlag = bmpChangeColorTransparent)
    (nibble : Nat) (shows : Bool) (dot : Dot) : dot ∈ (bmpDisplayBMP0 colors nibble (some bmp) x y zoomFactor shows).dots ↔
      ∃ i < bmpHeight bmp, ∃ j < bmpWidth bmp, Shown colors (trueColor bmp i j) ∧
        InBlock (paintColor colors (trueColor bmp i j)) x (zoomBottom y (bmpHeight bmp) zoomFactor) zoomFactor i j dot := by
  rw [mem_dots colors nibble zoomFactor shows near signed positive dot]
  apply exists_congr
  intro i
  apply and_congr_right
  intro line
  apply exists_congr
  intro j
  apply and_congr_right
  intro column
  rw [← decodedColor_true depth nibble i j]
  by_cases one : zoomFactor = 1
  · subst one
    exact mem_dotsAt_one near nibble line column dot
  · rw [decide_eq_true one]
    exact mem_dotsAt_block near (scales.resolve_left one) nibble column dot

omit depth in
-- What another factor paints: every pixel at one place.
theorem mem_dots_piled (positive : 1 ≤ zoomFactor) (zoomed : zoomFactor ≠ 1) (piles : colors.changeColorFlag ≠ bmpChangeColorTransparent)
    (nibble : Nat) (shows : Bool) (dot : Dot) (painted : dot ∈ (bmpDisplayBMP0 colors nibble (some bmp) x y zoomFactor shows).dots) : dot.x = x := by
  obtain ⟨i,line,j,column,among⟩ := (mem_dots colors nibble zoomFactor shows near signed positive dot).mp painted
  obtain ⟨_,rfl⟩ := (mem_pixelDots _ (.inr piles) _ _ _ i j dot).mp among
  change ((UInt32.ofNat (leftAt _ x j)).toNat : Int) = x
  rw [leftAt_toNat near _ column,leftAt,if_pos (decide_eq_true zoomed)]

-- The dot of a pixel under factor 1.
theorem mem_dots_one (nibble : Nat) (shows : Bool) (dot : Dot) :
    dot ∈ (bmpDisplayBMP0 colors nibble (some bmp) x y 1 shows).dots ↔
      ∃ i < bmpHeight bmp, ∃ j < bmpWidth bmp, Shown colors (trueColor bmp i j) ∧
        dot = ⟨paintColor colors (trueColor bmp i j),x+j,y+bmpHeight bmp-i⟩ := by
  rw [mem_dots_blocks near signed depth (Nat.le_refl 1) (.inl rfl) nibble shows dot,zoomBottom_one near]
  simp [InBlock]

-- Blocks cannot all be painted at one place.
theorem zooms_scales {move : Int × Int} (positive : 1 ≤ zoomFactor) (zooms : Zooms colors bmp nibble x y zoomFactor shows move)
    (line : i < bmpHeight bmp) (column : j < bmpWidth bmp) (shown : Shown colors (trueColor bmp i j)) :
    zoomFactor = 1 ∨ colors.changeColorFlag = bmpChangeColorTransparent := by
  by_contra neither
  obtain ⟨zoomed,piles⟩ := not_or.mp neither
  have pixel := (mem_dots_one near signed depth nibble shows _).mpr ⟨i,line,j,column,shown,rfl⟩
  have first := mem_dots_piled near signed positive zoomed piles nibble shows _
    ((zooms.blocks _).mpr ⟨_,pixel,0,by omega,0,by omega,rfl⟩)
  have second := mem_dots_piled near signed positive zoomed piles nibble shows _
    ((zooms.blocks _).mpr ⟨_,pixel,1,by omega,0,by omega,rfl⟩)
  simp only at first second
  omega

-- Under the condition everything that is painted is scaled.
theorem mem_dots_meets (positive : 1 ≤ zoomFactor) (meets : ZoomMeets colors bmp x y zoomFactor) (nibble : Nat) (shows : Bool)
    (dot : Dot) : dot ∈ (bmpDisplayBMP0 colors nibble (some bmp) x y zoomFactor shows).dots ↔
      ∃ i < bmpHeight bmp, ∃ j < bmpWidth bmp, Shown colors (trueColor bmp i j) ∧
        InBlock (paintColor colors (trueColor bmp i j)) x (zoomBottom y (bmpHeight bmp) zoomFactor) zoomFactor i j dot := by
  have inside := (or_assoc.mpr meets).resolve_left near
  have known {i j : Nat} (line : i < bmpHeight bmp) (column : j < bmpWidth bmp) (shown : Shown colors (trueColor bmp i j)) :=
    mem_dots_blocks near signed depth positive (inside i line j column shown).1 nibble shows dot
  constructor
  · intro painted
    obtain ⟨i,line,j,column,among⟩ := (mem_dots colors nibble zoomFactor shows near signed positive dot).mp painted
    have shown := mem_pixelDots_shown _ _ _ _ i j dot among
    rw [decodedColor_true depth] at shown
    exact (known line column shown).mp painted
  · rintro ⟨i,line,j,column,shown,block⟩
    exact (known line column shown).mpr ⟨i,line,j,column,shown,block⟩

-- Moved by the translation, the blocks are those of factor 1.
theorem meets_blocks (positive : 1 ≤ zoomFactor) (meets : ZoomMeets colors bmp x y zoomFactor) (nibble : Nat) (shows : Bool) (dot : Dot) :
    dot ∈ (bmpDisplayBMP0 colors nibble (some bmp) x y zoomFactor shows).dots ↔
      ∃ pixel ∈ (bmpDisplayBMP0 colors nibble (some bmp) x y 1 shows).dots, ∃ iw < zoomFactor, ∃ ih < zoomFactor,
        dot = ⟨pixel.color,zoomFactor*pixel.x+(zoomMove x y (bmpHeight bmp) zoomFactor).1+iw,
          zoomFactor*pixel.y+(zoomMove x y (bmpHeight bmp) zoomFactor).2+ih⟩ := by
  have place (i j ih iw : Nat) (up : ih < zoomFactor) (color : UInt32) :
      (⟨color,x+(j*zoomFactor+iw : Nat),zoomBottom y (bmpHeight bmp) zoomFactor-(i*zoomFactor+ih : Nat)⟩ : Dot) =
        ⟨color,zoomFactor*(x+j)+(zoomMove x y (bmpHeight bmp) zoomFactor).1+iw,
          zoomFactor*(y+bmpHeight bmp-i)+(zoomMove x y (bmpHeight bmp) zoomFactor).2+(zoomFactor-1-ih : Nat)⟩ := by
    have other : ((zoomFactor-1-ih : Nat) : Int) = zoomFactor-1-ih := by omega
    rw [zoomMove,other,block_row,block_column]
    push_cast
    rfl
  rw [mem_dots_meets near signed depth positive meets nibble shows dot]
  constructor
  · rintro ⟨i,line,j,column,shown,ih,up,iw,across,rfl⟩
    have pixel := (mem_dots_one near signed depth nibble shows _).mpr ⟨i,line,j,column,shown,rfl⟩
    exact ⟨_,pixel,iw,across,zoomFactor-1-ih,by omega,place i j ih iw up _⟩
  · rintro ⟨pixel,painted,iw,across,ih,up,rfl⟩
    obtain ⟨i,line,j,column,shown,rfl⟩ := (mem_dots_one near signed depth nibble shows pixel).mp painted
    refine ⟨i,line,j,column,shown,zoomFactor-1-ih,by omega,iw,across,?_⟩
    rw [place i j (zoomFactor-1-ih) iw (by omega),show zoomFactor-1-(zoomFactor-1-ih) = ih by omega]

end Near

-- Whatever the translation, a factor that scales meets the condition.
theorem zooms_meets {move : Int × Int} (signed : Signed bmp) (depth : bmpBitCount bmp = 24 ∨ bmpBitCount bmp = 32) (positive : 1 ≤ zoomFactor)
    (zooms : Zooms colors bmp nibble x y zoomFactor shows move) : ZoomMeets colors bmp x y zoomFactor := by
  by_cases near : 800 < x ∨ 600 < y
  · exact or_assoc.mp (.inl near)
  · refine .inr (.inr fun i line j column shown => ?_)
    have scales := zooms_scales near signed depth positive zooms line column shown
    apply (blockFits_iff positive (paintColor colors (trueColor bmp i j)) (bmpHeight bmp) i j scales).mpr
    intro dot place
    have painted := (mem_dots_blocks near signed depth positive scales nibble shows dot).mpr ⟨i,line,j,column,shown,place⟩
    exact ⟨zooms.ints dot painted,zooms.refreshed dot painted⟩

theorem meets_zooms (signed : Signed bmp) (depth : bmpBitCount bmp = 24 ∨ bmpBitCount bmp = 32) (positive : 1 ≤ zoomFactor)
    (meets : ZoomMeets colors bmp x y zoomFactor) (nibble : Nat) (shows : Bool) :
    Zooms colors bmp nibble x y zoomFactor shows (zoomMove x y (bmpHeight bmp) zoomFactor) := by
  by_cases near : 800 < x ∨ 600 < y
  · have none := @bmpDisplayBMP0_far colors bmp x y nibble zoomFactor shows near
    have one := @bmpDisplayBMP0_far colors bmp x y nibble 1 shows near
    refine ⟨?_,?_,?_⟩
    · simp [none]
    · simp [none,one]
    · simp [none]
  · have inside := (or_assoc.mpr meets).resolve_left near
    have fits (dot : Dot) (painted : dot ∈ (bmpDisplayBMP0 colors nibble (some bmp) x y zoomFactor shows).dots) :
        (IsInt dot.x ∧ IsInt dot.y) ∧ (y : Int) ≤ dot.y ∧ dot.y < y+bmpHeight bmp*zoomFactor := by
      obtain ⟨i,line,j,column,shown,place⟩ := (mem_dots_meets near signed depth positive meets nibble shows dot).mp painted
      have block := inside i line j column shown
      exact (blockFits_iff positive _ (bmpHeight bmp) i j block.1).mp block dot place
    refine ⟨?_,meets_blocks near signed depth positive meets nibble shows,?_⟩
    · intro dot painted
      exact (fits dot painted).1
    · intro dot painted
      exact (fits dot painted).2

end Painting

-- A factor scales the image exactly under the condition, by a translation that depends on
-- the position, the factor and the height; under any other it does so at most then.
theorem bmpDisplayBMP0_zooms (colors : BmpColors) (bmp : Bmp) (nibble x y zoomFactor : Nat) (shows : Bool) (signed : Signed bmp)
    (depth : bmpBitCount bmp = 24 ∨ bmpBitCount bmp = 32) (positive : 1 ≤ zoomFactor) :
    (Zooms colors bmp nibble x y zoomFactor shows (zoomMove x y (bmpHeight bmp) zoomFactor) ↔ ZoomMeets colors bmp x y zoomFactor) ∧
      ∀ move, Zooms colors bmp nibble x y zoomFactor shows move → ZoomMeets colors bmp x y zoomFactor := by
  refine ⟨⟨fun zooms => zooms_meets signed depth positive zooms,fun meets => meets_zooms signed depth positive meets nibble shows⟩,?_⟩
  intro move zooms
  exact zooms_meets signed depth positive zooms

-- Two pixels of 32 bits above each other.
def columnBmp : Bmp := fun a => [0x42,0x4D,62,0,0,0,0,0,0,0,54,0,0,0,40,0,0,0,1,0,0,0,2,0,0,0,1,0,32].getD a (if a = 54 then 1 else 0)

-- The pixel at the bottom is transparent.
theorem bmpDisplayBMP0_zooms_twice : Zooms ⟨1000,1,0⟩ columnBmp 0 10 20 2 false (zoomMove 10 20 2 2) := by
  apply (bmpDisplayBMP0_zooms ⟨1000,1,0⟩ columnBmp 0 10 20 2 false ⟨rfl,rfl⟩ (.inr rfl) (by decide)).1.mpr
  decide

-- Line 22 is painted, behind the lines 20 and 21.
theorem bmpDisplayBMP0_outside : ¬ ∃ move, Zooms ⟨0,0,0⟩ columnBmp 0 10 20 1 false move := by
  rintro ⟨move,zooms⟩
  have row := (zooms.refreshed ⟨1,10,22⟩ (by decide)).2
  exact absurd row (by decide)

end GramadoKernel
