import GramadoKernel.Display

open Moving
namespace GramadoKernel

-- The bytes of a colour, in the order of the buffer.
def colorByte (color : UInt32) : Nat → UInt8
  | 0 => (colorPixel color).b
  | 1 => (colorPixel color).g
  | 2 => (colorPixel color).r
  | _ => (colorPixel color).a

-- Some pixels of a buffer, counted in the order of the lines, have the colour, and all
-- other bytes of the memory are unchanged.
structure Painted (bufferVa size : Nat) (color : UInt32) (Pixels : Nat → Prop) (m t : Storage UInt8) : Prop where
  painted : ∀ p k, Pixels p → k < size → t.cell (bufferVa+p*size+k) = colorByte color k
  kept : ∀ a, (∀ p k, Pixels p → k < size → a ≠ bufferVa+p*size+k) → t.cell a = m.cell a

section Painting

variable {bufferVa size : Nat} {color : UInt32} {m t u : Storage UInt8} {One Two : Nat → Prop}

theorem Painted.refl (m : Storage UInt8) : Painted bufferVa size color (fun _ => False) m m :=
  ⟨fun _ _ none => none.elim,fun _ _ => rfl⟩

theorem Painted.congr (painted : Painted bufferVa size color One m t) (same : ∀ p, One p ↔ Two p) : Painted bufferVa size color Two m t := by
  obtain rfl : One = Two := funext fun p => propext (same p)
  exact painted

-- A place in a buffer belongs to one pixel.
theorem place_unique (one : k < size) (two : l < size) (same : p*size+k = q*size+l) : p = q := by
  have positive : 0 < size := Nat.zero_lt_of_lt one
  have left : (p*size+k)/size = p := by rw [Nat.mul_comm,Nat.mul_add_div positive,Nat.div_eq_of_lt one,Nat.add_zero]
  have right : (q*size+l)/size = q := by rw [Nat.mul_comm,Nat.mul_add_div positive,Nat.div_eq_of_lt two,Nat.add_zero]
  rw [← left,same,right]

theorem Painted.append (first : Painted bufferVa size color One m t) (second : Painted bufferVa size color Two t u) :
    Painted bufferVa size color (fun p => One p ∨ Two p) m u := by
  constructor
  · intro p k inside small
    by_cases later : Two p
    · exact second.painted p k later small
    · rw [second.kept]
      · exact first.painted p k (inside.resolve_right later) small
      · intro q l among bound same
        have equal : p = q := place_unique small bound (by omega)
        exact later (equal ▸ among)
  · intro a outside
    rw [second.kept a fun p k among small => outside p k (.inr among) small]
    exact first.kept a fun p k among small => outside p k (.inl among) small

end Painting

section Drawing

variable {s : Screen} {unset : Pixel} {bufferVa size : Nat} {color : UInt32} {m t : Storage UInt8}

-- The offset of a pixel is a small int on a screen of this width.
theorem pixelAddress_eq (small : size ≤ 4) (narrow : width ≤ 800) (left : x < 2^16) (top : y < 2^16) :
    pixelAddress bufferVa size width x y = bufferVa+(y*width+x)*size := by
  have area : width*y ≤ 800*65535 := Nat.mul_le_mul narrow (Nat.le_of_lt_succ top)
  have place : size*(width*y+x) ≤ 4*(800*65535+65535) := Nat.mul_le_mul small (by omega)
  have offset : size*width*y+size*x = (y*width+x)*size := by
    rw [Nat.mul_assoc,← Nat.mul_add,Nat.mul_comm size,Nat.mul_comm width]
  have bound : size*width*y+size*x < 2^31 := by
    rw [offset,Nat.mul_comm _ size,Nat.mul_comm y]
    omega
  unfold pixelAddress
  rw [Int.bmod_eq_of_le (by omega) (by omega),← offset]
  omega

theorem store_cell (m : Storage UInt8) (a : Nat) (value : UInt8) (x : Nat) : (m.store a value).cell x = if x = a then value else m.cell x := rfl

-- The bytes of one pixel, stored one after the other.
theorem stores_paint (color : UInt32) (p : Nat) (same : t.cell = m.cell) :
    Painted bufferVa 3 color (· = p) m
      (((t.store (bufferVa+p*3) (colorPixel color).b).store (bufferVa+p*3+1) (colorPixel color).g).store (bufferVa+p*3+2) (colorPixel color).r) := by
  constructor
  · rintro p k rfl small
    simp only [store_cell]
    obtain rfl | rfl | rfl : k = 0 ∨ k = 1 ∨ k = 2 := by omega
    all_goals simp [colorByte]
  · intro a outside
    have first : a ≠ bufferVa+p*3 := outside p 0 rfl (by decide)
    have second := outside p 1 rfl (by decide)
    have third := outside p 2 rfl (by decide)
    rw [store_cell,if_neg third,store_cell,if_neg second,store_cell,if_neg first,same]

theorem stores_paint_alpha (color : UInt32) (p : Nat) (same : t.cell = m.cell) :
    Painted bufferVa 4 color (· = p) m
      ((((t.store (bufferVa+p*4) (colorPixel color).b).store (bufferVa+p*4+1) (colorPixel color).g).store (bufferVa+p*4+2)
        (colorPixel color).r).store (bufferVa+p*4+3) (colorPixel color).a) := by
  constructor
  · rintro p k rfl small
    simp only [store_cell]
    obtain rfl | rfl | rfl | rfl : k = 0 ∨ k = 1 ∨ k = 2 ∨ k = 3 := by omega
    all_goals simp [colorByte]
  · intro a outside
    have first : a ≠ bufferVa+p*4 := outside p 0 rfl (by decide)
    have second := outside p 1 rfl (by decide)
    have third := outside p 2 rfl (by decide)
    have fourth := outside p 3 rfl (by decide)
    rw [store_cell,if_neg fourth,store_cell,if_neg third,store_cell,if_neg second,store_cell,if_neg first,same]

theorem putpixel_paints (depth : bytesPerPixel s = some size) (narrow : s.width ≤ 800) (buffer : bufferVa ≠ 0) (left : x < 2^16)
    (top : y < 2^16) (m : Storage UInt8) :
    ∃ t, bldispPutpixel0 s unset color x y 0 bufferVa m = .ok (1,t) ∧ Painted bufferVa size color (· = y*s.width+x) m t := by
  have address : pixelAddress bufferVa size (s.width % 0x10000) (x % 0x10000) (y % 0x10000) = bufferVa+(y*s.width+x)*size := by
    rw [word_mod s.width_word,word_mod left,word_mod top]
    exact pixelAddress_eq (bytesPerPixel_le depth) narrow left top
  rcases bytesPerPixel_some.mp depth with ⟨bpp,rfl⟩ | ⟨bpp,rfl⟩
  · simp only [bldispPutpixel0,if_neg buffer,depth,address,bpp,if_true]
    exact ⟨_,rfl,stores_paint_alpha color _ rfl⟩
  · have other : ¬ s.bpp = 32 := by
      rw [bpp]
      decide
    simp only [bldispPutpixel0,if_neg buffer,depth,address,if_neg other]
    exact ⟨_,rfl,stores_paint color _ rfl⟩

theorem linePixels_paint (depth : bytesPerPixel s = some size) (narrow : s.width ≤ 800) (buffer : bufferVa ≠ 0) (top : y < 2^16)
    (left x1 n2 : Nat) (inside : x1+left ≤ 2^16) (m : Storage UInt8) :
    ∃ t, linePixels s unset bufferVa color y 0 left x1 n2 m = .ok (n2+left,t) ∧
      Painted bufferVa size color (fun p => ∃ i, x1 ≤ i ∧ i < x1+left ∧ p = y*s.width+i) m t := by
  induction left generalizing x1 n2 m with
  | zero =>
      refine ⟨m,rfl,(Painted.refl m).congr fun p => ?_⟩
      refine iff_of_false id ?_
      rintro ⟨i,low,high,_⟩
      omega
  | succ left ih =>
      obtain ⟨one,put,first⟩ := @putpixel_paints s unset bufferVa size color x1 y depth narrow buffer (by omega) top m
      obtain ⟨t,rest,later⟩ := ih (x1+1) (n2+1) (by omega) one
      refine ⟨t,?_,(first.append later).congr fun p => ?_⟩
      · simp only [linePixels,put]
        exact rest.trans (by rw [Nat.add_assoc,Nat.add_comm 1])
      · constructor
        · rintro (rfl | ⟨i,low,high,rfl⟩)
          · exact ⟨x1,by omega,by omega,rfl⟩
          · exact ⟨i,by omega,by omega,rfl⟩
        · rintro ⟨i,low,high,rfl⟩
          rcases Nat.eq_or_lt_of_le low with rfl | further
          · exact .inl rfl
          · exact .inr ⟨i,further,by omega,rfl⟩

theorem drawHorizontalLine_paints (depth : bytesPerPixel s = some size) (narrow : s.width ≤ 800) (buffer : bufferVa ≠ 0) (top : y < 2^16)
    (inside : x2 ≤ 2^16) (m : Storage UInt8) :
    ∃ t, drawHorizontalLine s unset bufferVa x1 y x2 color 0 m = .ok (x2-x1,t) ∧
      Painted bufferVa size color (fun p => ∃ i, x1 ≤ i ∧ i < x2 ∧ p = y*s.width+i) m t := by
  by_cases empty : x2 < x1
  · refine ⟨m,?_,(Painted.refl m).congr fun p => ?_⟩
    · rw [drawHorizontalLine,if_pos empty,Nat.sub_eq_zero_of_le (Nat.le_of_lt empty)]
    · refine iff_of_false id ?_
      rintro ⟨i,low,high,_⟩
      omega
  · obtain ⟨t,run,paints⟩ := @linePixels_paint s unset bufferVa size color y depth narrow buffer top (x2-x1) x1 0 (by omega) m
    refine ⟨t,?_,?_⟩
    · rw [Nat.zero_add] at run
      simp only [drawHorizontalLine,if_neg empty,run]
      exact congrArg (fun n => Except.ok (n,t)) (ite_self (x2-x1))
    · rw [Nat.add_sub_cancel' (Nat.le_of_not_lt empty)] at paints
      exact paints

-- The lines that the loop draws from y on. A counter of 0 runs through all values.
def drawnLines (bottom y : Nat) (internalHeight : UInt64) : Nat := min ((internalHeight-1).toNat+1) (max 1 (bottom+1-y))

-- The pixels of a rectangle that begins on the screen in every line of it.
def InRectangle (s : Screen) (left right y lines p : Nat) : Prop :=
  ∃ i j, (left ≤ i ∧ i < right) ∧ (y ≤ j ∧ j < y+lines) ∧ p = j*s.width+i

theorem inRectangle_succ (s : Screen) (left right y lines p : Nat) :
    (∃ i, left ≤ i ∧ i < right ∧ p = y*s.width+i) ∨ InRectangle s left right (y+1) lines p ↔ InRectangle s left right y (lines+1) p := by
  constructor
  · rintro (⟨i,low,high,rfl⟩ | ⟨i,j,across,⟨low,high⟩,rfl⟩)
    · exact ⟨i,y,⟨low,high⟩,⟨by omega,by omega⟩,rfl⟩
    · exact ⟨i,j,across,⟨by omega,by omega⟩,rfl⟩
  · rintro ⟨i,j,across,⟨low,high⟩,rfl⟩
    rcases Nat.eq_or_lt_of_le low with rfl | further
    · exact .inl ⟨i,across.1,across.2,rfl⟩
    · exact .inr ⟨i,j,across,⟨further,by omega⟩,rfl⟩

theorem inRectangle_one (s : Screen) (left right y p : Nat) :
    (∃ i, left ≤ i ∧ i < right ∧ p = y*s.width+i) ↔ InRectangle s left right y 1 p := by
  rw [← inRectangle_succ]
  refine ⟨.inl,fun either => either.resolve_right ?_⟩
  rintro ⟨i,j,_,⟨low,high⟩,_⟩
  omega

theorem toNat_sub_one {h : UInt64} (positive : 1 ≤ h.toNat) : h.toNat = (h-1).toNat+1 := by
  have known : (h-1).toNat = h.toNat-1 := by
    rw [UInt64.toNat_sub_of_le]
    · rfl
    · exact UInt64.le_iff_toNat_le.mpr positive
  omega

theorem drawLines_paint (depth : bytesPerPixel s = some size) (narrow : s.width ≤ 800) (buffer : bufferVa ≠ 0) (inside : right ≤ 2^16)
    (low : bottom < 2^16) (y : Nat) (top : y < 2^16) (internalHeight : UInt64) (npixels : Nat) (m : Storage UInt8) :
    ∃ t, drawLines s unset bufferVa left right bottom color 0 y internalHeight npixels m =
        .ok (npixels+(right-left)*drawnLines bottom y internalHeight,t) ∧
      Painted bufferVa size color (InRectangle s left right y (drawnLines bottom y internalHeight)) m t := by
  induction gap : bottom+1-y using Nat.strong_induction_on generalizing y internalHeight npixels m with
  | _ gap ih =>
      obtain ⟨one,line,first⟩ := @drawHorizontalLine_paints s unset bufferVa size color y right left depth narrow buffer top inside m
      rw [drawLines]
      simp only [line]
      by_cases last : bottom < y+1
      · have single : drawnLines bottom y internalHeight = 1 := by
          unfold drawnLines
          omega
        rw [single,Nat.mul_one]
        exact ⟨one,if_pos last,first.congr (inRectangle_one s left right y)⟩
      · by_cases done : internalHeight-1 = 0
        · have single : drawnLines bottom y internalHeight = 1 := by
            unfold drawnLines
            rw [done]
            exact Nat.min_eq_left (Nat.le_max_left _ _)
          rw [single,Nat.mul_one]
          exact ⟨one,(if_neg last).trans (if_pos done),first.congr (inRectangle_one s left right y)⟩
        · obtain ⟨t,rest,later⟩ := ih (bottom+1-(y+1)) (by omega) (y+1) (by omega) (internalHeight-1) (npixels+(right-left)) one rfl
          have more : drawnLines bottom y internalHeight = drawnLines bottom (y+1) (internalHeight-1)+1 := by
            have positive : 1 ≤ (internalHeight-1).toNat := by
              rw [Nat.one_le_iff_ne_zero]
              exact fun zero => done (UInt64.toNat_inj.mp zero)
            have count := toNat_sub_one positive
            unfold drawnLines
            omega
          refine ⟨t,((if_neg last).trans (if_neg done)).trans ?_,(first.append later).congr fun p => ?_⟩
          · rw [rest,more,Nat.mul_add,Nat.mul_one,Nat.add_assoc,Nat.add_comm (right-left)]
          · rw [more]
            exact inRectangle_succ s left right y _ p

end Drawing

-- The pixels of a rectangle that are on the screen.
def VisiblePixel (s : Screen) (x y width height p : Nat) : Prop :=
  ∃ i j, (x ≤ i ∧ i < min (x+width) s.width) ∧ (y ≤ j ∧ j < min (y+height) s.height) ∧ p = j*s.width+i

def visiblePixels (s : Screen) (x y width height : Nat) : Nat := (min (x+width) s.width-x)*(min (y+height) s.height-y)

-- A rectangle has been drawn: it returns the number of its pixels that are on the screen,
-- and has stored the colour in these only.
def ClipsExactly (s : Screen) (unset : Pixel) (x y width height : Nat) (color : UInt32) (m : Storage UInt8) : Prop :=
  ∃ t, backbufferDrawRectangle s unset x y width height color 0 m = .ok (visiblePixels s x y width height,t) ∧
    Painted backbufferVa (s.bpp/8) color (VisiblePixel s x y width height) m t

-- Nothing of the rectangle is beside a screen line, or all of its lines are on a screen
-- that can be drawn to. The lines are counted down to zero from the height, and the last
-- of them is one below the screen when the screen ends first.
def DrawMeets (s : Screen) (x y width height : Nat) : Prop :=
  s.width = 0 ∨ s.height = 0 ∨ width = 0 ∨ s.width ≤ x ∨ ((s.bpp = 32 ∨ s.bpp = 24) ∧ 0 < height ∧ y+height ≤ s.height)

-- A rectangle that passes the checks of __drawrectangle0 on a screen with pixels.
structure Drawable (s : Screen) (x y width height : Nat) : Prop where
  narrow : s.width ≤ 800
  low : s.height ≤ 600
  left : x < 2^16
  top : y < 2^16
  wide : width < 2^16
  high : height ≤ 600
  pixels : ¬ (s.width = 0 ∨ s.height = 0)

section Rectangles

variable {s : Screen} {unset : Pixel} {color : UInt32} {x y width height size : Nat}

theorem backbufferDrawRectangle_eq (unset : Pixel) (color : UInt32) (drawable : Drawable s x y width height) (m : Storage UInt8) :
    backbufferDrawRectangle s unset x y width height color 0 m = if min (x+width) s.width = x then .ok (0,m)
      else drawLines s unset backbufferVa x (min (x+width) s.width) s.height color 0 y (UInt64.ofNat height) 0 m := by
  have right : (if s.width < x+width then s.width else x+width) = min (x+width) s.width := by
    rw [Nat.min_def]
    split
    · rw [if_neg (by omega)]
    · rw [if_pos (by omega)]
  have buffer : ¬ (1 ≠ 1 ∧ 1 ≠ 2) := fun both => both.1 rfl
  have high : height < 2^16 := Nat.lt_of_le_of_lt drawable.high (by decide)
  simp only [backbufferDrawRectangle,drawrectangle0,word_mod drawable.left,word_mod drawable.top,word_mod drawable.wide,word_mod high,
    word_mod s.width_word,word_mod s.height_word,right,if_neg buffer,if_neg drawable.pixels,if_neg (Nat.not_lt.mpr drawable.narrow),
    if_neg (Nat.not_lt.mpr drawable.low),if_neg (Nat.not_lt.mpr drawable.high),if_true]

-- The first pixel of a line already loops for ever on another screen.
theorem drawLines_stuck (depth : bytesPerPixel s = none) (visible : x < right) (bottom : Nat) (rop y : Nat) (h : UInt64) (npixels : Nat)
    (m : Storage UInt8) : drawLines s unset backbufferVa x right bottom color rop y h npixels m = .error .forever := by
  have line : drawHorizontalLine s unset backbufferVa x y right color rop m = .error .forever := by
    obtain ⟨left,count⟩ : ∃ left, right-x = left+1 := ⟨right-x-1,by omega⟩
    have pixel : bldispPutpixel0 s unset color x y rop backbufferVa m = .error .forever := by
      rw [bldispPutpixel0,depth]
      exact if_neg (by decide)
    simp only [drawHorizontalLine,if_neg (Nat.not_lt.mpr (Nat.le_of_lt visible)),count,linePixels,pixel]
    rfl
  rw [drawLines,line]
  rfl

-- A rectangle that begins beside the screen.
theorem drawLines_beside (beside : right < x) (bottom : Nat) (rop y : Nat) (h : UInt64) (npixels : Nat) (m : Storage UInt8) :
    drawLines s unset backbufferVa x right bottom color rop y h npixels m = .ok (npixels,m) := by
  induction gap : bottom+1-y using Nat.strong_induction_on generalizing y h with
  | _ gap ih =>
      have line : drawHorizontalLine s unset backbufferVa x y right color rop m = .ok (0,m) := if_pos beside
      rw [drawLines,line]
      by_cases last : bottom < y+1
      · exact if_pos last
      · by_cases done : h-1 = 0
        · exact (if_neg last).trans (if_pos done)
        · exact ((if_neg last).trans (if_neg done)).trans (ih (bottom+1-(y+1)) (by omega) (y+1) (h-1) rfl)

theorem drawnLines_ofNat (low : bottom ≤ 600) (high : height ≤ 600) :
    drawnLines bottom y (UInt64.ofNat height) = if height = 0 then max 1 (bottom+1-y) else min height (max 1 (bottom+1-y)) := by
  split
  · rename_i none
    have counter : (UInt64.ofNat height-1).toNat = 2^64-1 := by
      rw [none]
      decide
    rw [drawnLines,counter]
    omega
  · rename_i more
    have counter : (UInt64.ofNat height).toNat = height := UInt64.toNat_ofNat_of_lt' (Nat.lt_of_le_of_lt high (by decide))
    have known : (UInt64.ofNat height).toNat = (UInt64.ofNat height-1).toNat+1 := by
      apply toNat_sub_one
      omega
    rw [drawnLines,← known,counter]

-- The loop draws the lines of the rectangle that are on the screen only if all of them are.
theorem drawnLines_visible (low : bottom ≤ 600) (high : height ≤ 600) :
    drawnLines bottom y (UInt64.ofNat height) = min (y+height) bottom-y ↔ 0 < height ∧ y+height ≤ bottom := by
  rw [drawnLines_ofNat low high]
  split
  all_goals omega

-- Nothing has been drawn, and nothing of the rectangle is on the screen.
theorem clips_nothing (run : backbufferDrawRectangle s unset x y width height color 0 m = .ok (0,t)) (same : t = m)
    (none : min (x+width) s.width ≤ x ∨ s.height = 0) : ClipsExactly s unset x y width height color m := by
  refine ⟨m,?_,(Painted.refl m).congr fun p => iff_of_false id ?_⟩
  · rw [run,same,visiblePixels]
    rcases none with beside | lines
    · rw [Nat.sub_eq_zero_of_le beside,Nat.zero_mul]
    · rw [lines,Nat.min_zero,Nat.zero_sub,Nat.mul_zero]
  · rintro ⟨i,j,⟨first,second⟩,⟨_,under⟩,_⟩
    omega

variable (unset color) in
theorem backbufferDrawRectangle_draws (depth : bytesPerPixel s = some size) (drawable : Drawable s x y width height)
    (some : min (x+width) s.width ≠ x) (m : Storage UInt8) :
    ∃ t, backbufferDrawRectangle s unset x y width height color 0 m =
        .ok ((min (x+width) s.width-x)*drawnLines s.height y (UInt64.ofNat height),t) ∧
      Painted backbufferVa size color
        (InRectangle s x (min (x+width) s.width) y (drawnLines s.height y (UInt64.ofNat height))) m t := by
  have right : min (x+width) s.width ≤ 2^16 := Nat.le_trans (Nat.min_le_right _ _) (Nat.le_of_lt s.width_word)
  obtain ⟨t,run,paints⟩ := @drawLines_paint s unset backbufferVa size color _ s.height x depth drawable.narrow (by decide) right
    s.height_word y drawable.top (UInt64.ofNat height) 0 m
  refine ⟨t,?_,paints⟩
  rw [backbufferDrawRectangle_eq unset color drawable m,if_neg some,run,Nat.zero_add]

theorem visiblePixel_iff (s : Screen) (x y width height p : Nat) :
    InRectangle s x (min (x+width) s.width) y (min (y+height) s.height-y) p ↔ VisiblePixel s x y width height p := by
  constructor
  · rintro ⟨i,j,across,⟨above,below⟩,rfl⟩
    exact ⟨i,j,across,⟨above,by omega⟩,rfl⟩
  · rintro ⟨i,j,across,⟨above,below⟩,rfl⟩
    exact ⟨i,j,across,⟨above,by omega⟩,rfl⟩

-- No column of the rectangle is on the screen.
variable (unset color) in
theorem clips_beside (drawable : Drawable s x y width height) (beside : min (x+width) s.width ≤ x) (m : Storage UInt8) :
    ClipsExactly s unset x y width height color m := by
  have run := backbufferDrawRectangle_eq unset color drawable m
  rcases Nat.lt_or_eq_of_le beside with further | empty
  · rw [if_neg (Nat.ne_of_lt further),drawLines_beside further] at run
    exact clips_nothing run rfl (.inl beside)
  · rw [if_pos empty] at run
    exact clips_nothing run rfl (.inl beside)

-- Some column is on a screen that cannot be drawn to.
variable (unset color) in
theorem clips_stuck (drawable : Drawable s x y width height) (depth : bytesPerPixel s = none) (visible : x < min (x+width) s.width)
    (m : Storage UInt8) : ¬ ClipsExactly s unset x y width height color m := by
  have run := backbufferDrawRectangle_eq unset color drawable m
  rw [if_neg (Nat.ne_of_gt visible),drawLines_stuck depth visible] at run
  rintro ⟨t,returned,_⟩
  cases run.symm.trans returned

-- Some column is on a screen that can be drawn to.
variable (unset color) in
theorem clips_visible (depth : bytesPerPixel s = some size) (drawable : Drawable s x y width height)
    (visible : x < min (x+width) s.width) (m : Storage UInt8) :
    ClipsExactly s unset x y width height color m ↔ 0 < height ∧ y+height ≤ s.height := by
  have lines : drawnLines s.height y (UInt64.ofNat height) = min (y+height) s.height-y ↔ 0 < height ∧ y+height ≤ s.height :=
    drawnLines_visible drawable.low drawable.high
  obtain ⟨t,drawn,paints⟩ := backbufferDrawRectangle_draws unset color depth drawable (Nat.ne_of_gt visible) m
  rw [← lines]
  constructor
  · rintro ⟨_,returned,_⟩
    have count := congrArg Prod.fst (Except.ok.inj (drawn.symm.trans returned))
    exact Nat.eq_of_mul_eq_mul_left (Nat.sub_pos_of_lt visible) count
  · intro same
    rw [same] at drawn paints
    refine ⟨t,drawn,?_⟩
    rw [depth_size depth]
    exact paints.congr (visiblePixel_iff s x y width height)

-- The rectangle is drawn exactly where it is on the screen if no line is drawn below it.
theorem backbufferDrawRectangle_clips (s : Screen) (unset : Pixel) (x y width height : Nat) (color : UInt32) (m : Storage UInt8)
    (narrow : s.width ≤ 800) (low : s.height ≤ 600) (left : x < 2^16) (top : y < 2^16) (wide : width < 2^16) (high : height ≤ 600) :
    ClipsExactly s unset x y width height color m ↔ DrawMeets s x y width height := by
  by_cases screen : s.width = 0 ∨ s.height = 0
  · have run : backbufferDrawRectangle s unset x y width height color 0 m = .ok (0,m) := by
      simp [backbufferDrawRectangle,drawrectangle0,screen]
    apply iff_of_true
    · exact clips_nothing run rfl (by omega)
    · unfold DrawMeets
      omega
  · have drawable : Drawable s x y width height := ⟨narrow,low,left,top,wide,high,screen⟩
    rcases Nat.lt_or_ge x (min (x+width) s.width) with visible | beside
    · cases depth : bytesPerPixel s with
      | none =>
          apply iff_of_false (clips_stuck unset color drawable depth visible m)
          intro meets
          have known : s.bpp = 32 ∨ s.bpp = 24 := by
            unfold DrawMeets at meets
            omega
          obtain ⟨size,supported⟩ := bytesPerPixel_known known
          cases depth.symm.trans supported
      | some size =>
          have known := bytesPerPixel_depth depth
          rw [clips_visible unset color depth drawable visible m]
          unfold DrawMeets
          omega
    · apply iff_of_true (clips_beside unset color drawable beside m)
      unfold DrawMeets
      omega

end Rectangles

def blackMemory : Storage UInt8 := ⟨fun _ => 0,[],[]⟩

theorem backbufferDrawRectangle_clips_corner : ClipsExactly smallScreen ⟨0,0,0,0⟩ 790 580 20 20 0xFFFFFF blackMemory :=
  (backbufferDrawRectangle_clips smallScreen ⟨0,0,0,0⟩ 790 580 20 20 0xFFFFFF blackMemory (by decide) (by decide) (by decide) (by decide)
    (by decide) (by decide)).mpr (by unfold DrawMeets; decide)

-- Line 600 of the screen is drawn, as 110 pixels are counted.
theorem backbufferDrawRectangle_overruns : ¬ ClipsExactly smallScreen ⟨0,0,0,0⟩ 0 590 10 20 0xFFFFFF blackMemory := by
  intro clips
  have depth : bytesPerPixel smallScreen = some 4 := rfl
  have drawable : Drawable smallScreen 0 590 10 20 :=
    ⟨by decide,by decide,by decide,by decide,by decide,by decide,by decide⟩
  have inside := (clips_visible ⟨0,0,0,0⟩ 0xFFFFFF depth drawable (by decide) blackMemory).mp clips
  exact absurd inside.2 (by decide)

end GramadoKernel
