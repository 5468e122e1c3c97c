import GramadoKernel.ScreenCopies
import Mathlib.Tactic.Ring

open Moving
namespace GramadoKernel

-- The offsets of the bytes of a rectangle in a buffer.
def RectangleByte (s : Screen) (b x y width height offset : Nat) : Prop :=
  ∃ i j k, i < width ∧ j < height ∧ k < b ∧ offset = ((y+j)*s.width+(x+i))*b+k

-- Copying the rectangle to the front buffer pixel by pixel.
def copyPixels (s : Screen) (b x y width height : Nat) (m : Storage UInt8) : Storage UInt8 :=
  m.copyLines b width (s.width*b) height (frontbufferVa+(y*s.width+x)*b) (backbufferVa+(y*s.width+x)*b)

-- Whatever the buffers hold, a refresh leaves the same bytes in both of them, and changes
-- what copying pixels would change.
def Refreshes (s : Screen) (x y width height : Nat) : Prop :=
  ∀ m, ∃ t, refreshRectangle s x y width height m = .ok t ∧
    (∀ o, RectangleByte s (s.bpp/8) x y width height o → t.cell (frontbufferVa+o) = t.cell (backbufferVa+o)) ∧
    (∀ a, (∀ o, RectangleByte s (s.bpp/8) x y width height o → a ≠ frontbufferVa+o) → t.cell a = m.cell a) ∧
    t.cell = (copyPixels s (s.bpp/8) x y width height m).cell

-- The rectangle is empty, or it begins in the first 4 GiB and no line of it in the front
-- buffer meets one of its lines in the back buffer, which is 2 MiB away.
def RefreshMeets (s : Screen) (x y width height : Nat) : Prop :=
  s.width ≠ 0 ∧ s.height ≠ 0 ∧ (width = 0 ∨ height = 0 ∨ ((y*s.width+x)*(s.bpp/8) < 2^32 ∧
    ∀ i < height, i*(s.width*(s.bpp/8))+width*(s.bpp/8) ≤ 2^21 ∨ 2^21+width*(s.bpp/8) ≤ i*(s.width*(s.bpp/8))))

section Overlaps

variable {first length pitch count d : Nat}

-- Lines do not meet themselves further on.
theorem lines_apart (size : 0 < length) (short : length ≤ pitch) :
    (∀ a, Lines first length pitch count a → ¬ Lines first length pitch count (a+d)) ↔
      ∀ i < count, i*pitch+length ≤ d ∨ d+length ≤ i*pitch := by
  constructor
  · intro apart i small
    by_contra near
    have some : 0 < count := Nat.zero_lt_of_lt small
    rcases Nat.le_total (i*pitch) d with behind | ahead
    · apply apart first
      · exact ⟨0,some,by omega,by omega⟩
      · exact ⟨i,small,by omega,by omega⟩
    · apply apart (first+(i*pitch-d))
      · exact ⟨0,some,by omega,by omega⟩
      · exact ⟨i,small,by omega,by omega⟩
  · rintro apart a ⟨i,_,low,high⟩ ⟨j,less,after,before⟩
    have order : i ≤ j := by
      by_contra later
      have line : (j+1)*pitch ≤ i*pitch := Nat.mul_le_mul_right pitch (by omega)
      rw [Nat.add_mul,Nat.one_mul] at line
      omega
    obtain ⟨q,rfl⟩ := Nat.exists_eq_add_of_le order
    rw [Nat.add_mul] at after before
    have far := apart q (by omega)
    omega

end Overlaps

-- One byte of the memory is 1.
def single (a : Nat) : Storage UInt8 := ⟨fun x => if x = a then 1 else 0,[],[]⟩

section Mirrors

variable {Region : Nat → Prop} {d : Nat}

theorem moved_mirrors {m t : Storage UInt8} (moved : Moved m t Region d) (apart : ∀ a, Region a → ¬ Region (a+d)) :
    ∀ a, Region a → t.cell a = t.cell (a+d) := by
  intro a inside
  rw [moved.moved a inside,moved.kept (a+d) (apart a inside)]

-- A byte that is moved away and overwritten.
theorem moved_differs {t : Storage UInt8} (positive : 0 < d) (moved : Moved (single (a+d)) t Region d) (here : Region a)
    (there : Region (a+d)) : t.cell a ≠ t.cell (a+d) := by
  have other : a+d+d ≠ a+d := by omega
  rw [moved.moved a here,moved.moved (a+d) there]
  simp only [single,if_neg other,if_true]
  decide

end Mirrors

-- Lines of a buffer, by their offsets.
theorem lines_offset (va first length pitch count a : Nat) :
    Lines (va+first) length pitch count a ↔ ∃ o, Lines first length pitch count o ∧ a = va+o := by
  constructor
  · rintro ⟨i,small,low,high⟩
    exact ⟨a-va,⟨i,small,by omega,by omega⟩,by omega⟩
  · rintro ⟨o,⟨i,small,low,high⟩,rfl⟩
    exact ⟨i,small,by omega,by omega⟩

section Refreshing

variable {s : Screen} {b : Nat} {m : Storage UInt8}

theorem rectangleByte_iff (s : Screen) (b x y width height o : Nat) :
    RectangleByte s b x y width height o ↔ Lines ((y*s.width+x)*b) (width*b) (s.width*b) height o := by
  have place (i j : Nat) : ((y+j)*s.width+(x+i))*b = (y*s.width+x)*b+j*(s.width*b)+i*b := by ring
  constructor
  · rintro ⟨i,j,k,column,line,byte,rfl⟩
    have inside : (i+1)*b ≤ width*b := Nat.mul_le_mul_right b column
    rw [Nat.add_mul,Nat.one_mul] at inside
    rw [place]
    exact ⟨j,line,by omega,by omega⟩
  · rintro ⟨j,line,low,high⟩
    obtain ⟨r,rfl⟩ := Nat.exists_eq_add_of_le low
    have positive : 0 < b := by
      by_contra none
      obtain rfl : b = 0 := by omega
      omega
    have column : r/b < width := (Nat.div_lt_iff_lt_mul positive).mpr (by omega)
    refine ⟨r/b,j,r % b,column,line,Nat.mod_lt r positive,?_⟩
    rw [place,Nat.add_assoc _ (r/b*b),Nat.mul_comm (r/b),Nat.div_add_mod]

-- The bytes of the rectangle, as lines of the front buffer.
def FrontBytes (s : Screen) (b x y width height : Nat) : Nat → Prop :=
  Lines (frontbufferVa+(y*s.width+x)*b) (width*b) (s.width*b) height

theorem frontBytes_iff (s : Screen) (b x y width height a : Nat) :
    FrontBytes s b x y width height a ↔ ∃ o, RectangleByte s b x y width height o ∧ a = frontbufferVa+o := by
  simp only [FrontBytes,lines_offset,rectangleByte_iff]

-- A refresh in terms of what it leaves in the front buffer and behind it.
theorem refreshes_iff (depth : bytesPerPixel s = some b) : Refreshes s x y width height ↔
    ∀ m, ∃ t, refreshRectangle s x y width height m = .ok t ∧ (∀ a, FrontBytes s b x y width height a → t.cell a = t.cell (a+2^21)) ∧
      (∀ a, ¬ FrontBytes s b x y width height a → t.cell a = m.cell a) ∧ t.cell = (copyPixels s b x y width height m).cell := by
  have back (o : Nat) : frontbufferVa+o+2^21 = backbufferVa+o := by
    rw [backbufferVa_eq,Nat.add_right_comm]
  unfold Refreshes
  rw [depth_size depth]
  apply forall_congr'
  intro m
  apply exists_congr
  intro t
  apply and_congr_right
  intro _
  apply and_congr
  · constructor
    · intro same a inside
      obtain ⟨o,among,rfl⟩ := (frontBytes_iff s b x y width height a).mp inside
      rw [back]
      exact same o among
    · intro same o among
      rw [← back]
      exact same _ ((frontBytes_iff s b x y width height _).mpr ⟨o,among,rfl⟩)
  · apply and_congr_left
    intro _
    simp only [frontBytes_iff,not_exists,not_and,ne_eq]

theorem copyPixels_moved (inside : width ≤ s.width) (m : Storage UInt8) :
    Moved m (copyPixels s b x y width height m) (FrontBytes s b x y width height) (2^21) := by
  have short : width*b ≤ s.width*b := Nat.mul_le_mul_right b inside
  have source : backbufferVa+(y*s.width+x)*b = frontbufferVa+(y*s.width+x)*b+2^21 := by
    rw [backbufferVa_eq,Nat.add_right_comm]
  rw [copyPixels,source]
  apply copyLines_moved
  omega

-- The code copies other lines than those of the rectangle when the offset does not fit.
theorem refreshedBytes_front (b width : Nat) (fits : (y*s.width+x)*b < 2^32) (below : y+height ≤ s.height) :
    RefreshedBytes s b x y width height = FrontBytes s b x y width height := by
  have lines : refreshedLines s y height = height := by
    unfold refreshedLines
    omega
  rw [RefreshedBytes,refreshOffset,Nat.mod_eq_of_lt fits,lines]
  rfl

-- The last byte of a rectangle whose offset does not fit is not refreshed.
theorem lastByte_missed (bytes : 0 < b) (columns : 0 < width) (some : 0 < height) (far : 2^32 ≤ (y*s.width+x)*b) :
    ∃ a, FrontBytes s b x y width height a ∧ ∀ n, ¬ RefreshedBytes s b x y width height (a+n) := by
  have size : 0 < width*b := Nat.mul_pos columns bytes
  refine ⟨frontbufferVa+(y*s.width+x)*b+(height-1)*(s.width*b)+(width*b-1),⟨height-1,by omega,by omega,by omega⟩,?_⟩
  rintro n ⟨i,small,low,high⟩
  have line : i*(s.width*b) ≤ (height-1)*(s.width*b) := by
    apply Nat.mul_le_mul_right
    unfold refreshedLines at small
    omega
  have wrapped : refreshOffset s b x y < 2^32 := Nat.mod_lt _ (by decide)
  omega

-- A rectangle of a screen with pixels.
structure OnScreen (s : Screen) (b x y width height : Nat) : Prop where
  depth : bytesPerPixel s = some b
  pixels : ¬ (s.width = 0 ∨ s.height = 0)
  inside : x+width ≤ s.width
  below : y+height ≤ s.height

theorem OnScreen.refreshable (screen : OnScreen s b x y width height) (columns : width ≠ 0) (lines : height ≠ 0) :
    Refreshable s b x y width height := by
  have right := Nat.lt_of_le_of_lt screen.inside s.width_word
  have bottom := Nat.lt_of_le_of_lt screen.below s.height_word
  exact ⟨screen.depth,screen.pixels,by omega,by omega,by omega,by omega,columns,lines⟩

theorem OnScreen.narrow (screen : OnScreen s b x y width height) : width ≤ s.width := Nat.le_trans (Nat.le_add_left width x) screen.inside

-- A refresh whose lines are those of the rectangle.
theorem refreshes_front (screen : OnScreen s b x y width height) (columns : width ≠ 0) (lines : height ≠ 0) (fits : (y*s.width+x)*b < 2^32) :
    Refreshes s x y width height ↔ ∀ a, FrontBytes s b x y width height a → ¬ FrontBytes s b x y width height (a+2^21) := by
  have run := refreshRectangle_ok (screen.refreshable columns lines)
  rw [refreshedBytes_front b width fits screen.below] at run
  rw [refreshes_iff screen.depth]
  constructor
  · intro refreshes a here there
    obtain ⟨t,returned,_,moved⟩ := run (single (a+2^21))
    obtain ⟨u,again,same,_,_⟩ := refreshes (single (a+2^21))
    cases returned.symm.trans again
    exact moved_differs (by decide) (moved screen.narrow) here there (same a here)
  · intro apart m
    obtain ⟨t,returned,_,moved⟩ := run m
    have front := moved screen.narrow
    exact ⟨t,returned,moved_mirrors front apart,front.kept,front.unique (copyPixels_moved screen.narrow m)⟩

-- A rectangle with no pixels.
theorem refreshes_none (screen : OnScreen s b x y width height) (none : width = 0 ∨ height = 0) : Refreshes s x y width height := by
  have wide : width < 2^16 := Nat.lt_of_le_of_lt screen.narrow s.width_word
  have high : height < 2^16 := Nat.lt_of_le_of_lt (Nat.le_trans (Nat.le_add_left height y) screen.below) s.height_word
  have empty (a : Nat) : ¬ FrontBytes s b x y width height a := by
    rintro ⟨i,small,low,high⟩
    obtain rfl : width = 0 := by omega
    omega
  apply (refreshes_iff screen.depth).mpr
  intro m
  refine ⟨m,refreshRectangle_none screen.pixels wide high none m,fun a among => (empty a among).elim,fun _ _ => rfl,?_⟩
  funext a
  exact ((copyPixels_moved screen.narrow m).kept a (empty a)).symm

-- A rectangle whose offset does not fit.
theorem refreshes_far (screen : OnScreen s b x y width height) (columns : width ≠ 0) (lines : height ≠ 0) (far : 2^32 ≤ (y*s.width+x)*b) :
    ¬ Refreshes s x y width height := by
  have bytes : 0 < b := bytesPerPixel_pos screen.depth
  obtain ⟨a,front,missed⟩ := lastByte_missed bytes (Nat.pos_of_ne_zero columns) (Nat.pos_of_ne_zero lines) far
  intro refreshes
  obtain ⟨t,returned,_,moved⟩ := refreshRectangle_ok (screen.refreshable columns lines) (single a)
  obtain ⟨u,again,same,_,_⟩ := (refreshes_iff screen.depth).mp refreshes (single a)
  cases returned.symm.trans again
  have kept := (moved screen.narrow).kept
  have equal := same a front
  rw [kept a (missed 0),kept (a+2^21) (missed (2^21))] at equal
  have other : a+2^21 ≠ a := by omega
  simp only [single,if_neg other,if_true] at equal
  exact absurd equal (by decide)

end Refreshing

-- The refresh loops agree with a pixel copy exactly when the offset fits an unsigned int
-- and the rectangle does not overlap with itself in the other buffer.
theorem refreshRectangle_refreshes (s : Screen) (x y width height : Nat) (depth : s.bpp = 32 ∨ s.bpp = 24) (inside : x+width ≤ s.width)
    (below : y+height ≤ s.height) : Refreshes s x y width height ↔ RefreshMeets s x y width height := by
  obtain ⟨b,known⟩ := bytesPerPixel_known depth
  have bytes : 0 < b := bytesPerPixel_pos known
  by_cases pixels : s.width = 0 ∨ s.height = 0
  · apply iff_of_false
    · intro refreshes
      obtain ⟨t,returned,_⟩ := refreshes (single 0)
      rw [refreshRectangle,refreshRectangle0,if_pos pixels] at returned
      cases returned
    · rintro ⟨columns,lines,_⟩
      exact pixels.elim columns lines
  · have screen : OnScreen s b x y width height := ⟨known,pixels,inside,below⟩
    have whole := not_or.mp pixels
    by_cases none : width = 0 ∨ height = 0
    · exact iff_of_true (refreshes_none screen none) ⟨whole.1,whole.2,or_assoc.mp (.inl none)⟩
    · have some := not_or.mp none
      rw [RefreshMeets,depth_size known]
      by_cases fits : (y*s.width+x)*b < 2^32
      · have size : 0 < width*b := Nat.mul_pos (Nat.pos_of_ne_zero some.1) bytes
        have short : width*b ≤ s.width*b := Nat.mul_le_mul_right b screen.narrow
        rw [refreshes_front screen some.1 some.2 fits]
        apply (lines_apart size short).trans
        constructor
        · intro apart
          exact ⟨whole.1,whole.2,.inr (.inr ⟨fits,apart⟩)⟩
        · rintro ⟨_,_,columns | lines | meets⟩
          · exact (some.1 columns).elim
          · exact (some.2 lines).elim
          · exact meets.2
      · apply iff_of_false
        · exact refreshes_far screen some.1 some.2 (Nat.le_of_not_lt fits)
        · rintro ⟨_,_,columns | lines | meets⟩
          · exact some.1 columns
          · exact some.2 lines
          · exact fits meets.1

theorem refreshRectangle_refreshes_screen : Refreshes smallScreen 0 0 800 600 := by
  apply (refreshRectangle_refreshes smallScreen 0 0 800 600 (.inl rfl) (by decide) (by decide)).mpr
  refine ⟨by decide,by decide,.inr (.inr ⟨by decide,?_⟩)⟩
  intro i small
  change i*(800*4)+800*4 ≤ 2^21 ∨ _
  omega

-- The lines from 512 on of a larger screen are copied over the first ones of the back buffer.
theorem refreshRectangle_overlaps : ¬ Refreshes ⟨1024,768,32,by decide,by decide⟩ 0 0 1024 768 := by
  intro refreshes
  have screen : OnScreen ⟨1024,768,32,by decide,by decide⟩ 4 0 0 1024 768 := ⟨rfl,by decide,by decide,by decide⟩
  apply (refreshes_front screen (by decide) (by decide) (by decide)).mp refreshes frontbufferVa
  · exact ⟨0,by decide,by decide,by decide⟩
  · exact ⟨512,by decide,by decide,by decide⟩

end GramadoKernel
