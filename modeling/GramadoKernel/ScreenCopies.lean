import GramadoKernel.Display

open Moving
namespace GramadoKernel

abbrev ScreenCopy := Except NoReturn (Storage UInt8)

-- A line loop of __refresh_rectangle0, over the lines that are left.
def refreshLines (s : Screen) (size count pitch firstLine : Nat) : Nat → Nat → Nat → Nat → Storage UInt8 → Storage UInt8
  | 0,_,_,_,m => m
  | lines+1,i,dest,src,m =>
      if s.height < firstLine+i then m
      else refreshLines s size count pitch firstLine lines (i+1) (dest+pitch) (src+pitch) (m.copies size count dest src)

-- The offset is an unsigned int.
def refreshRectangle0 (s : Screen) (x y width height bufferDest bufferSrc : Nat) (m : Storage UInt8) : ScreenCopy :=
  if s.width = 0 ∨ s.height = 0 then .error (.panic "refresh_rectangle: w h\n")
  else
    let X := x % 0x10000
    let Y := y % 0x10000
    let hlWidth := width % 0x10000
    let lines := height % 0x10000
    if hlWidth = 0 then .ok m
    else if lines = 0 then .ok m
    else
      match bytesPerPixel s with
      | none => .error (.panic "refresh_rectangle: gSavedBPP\n")
      | some bytesCount =>
          let screenPitch := bytesCount*s.width
          let rectanglePitch := bytesCount*hlWidth
          let offset := (Y*screenPitch+X*bytesCount) % 2^32
          let dest := bufferDest+offset
          let src := bufferSrc+offset
          if dest = src then .ok m
          else if rectanglePitch % 8 = 0 then .ok (refreshLines s 8 (rectanglePitch/8) screenPitch Y lines 0 dest src m)
          else if rectanglePitch % 4 = 0 then .ok (refreshLines s 4 (rectanglePitch/4) screenPitch Y lines 0 dest src m)
          else .ok (refreshLines s 1 rectanglePitch screenPitch Y lines 0 dest src m)

def refreshRectangle (s : Screen) (x y width height : Nat) (m : Storage UInt8) : ScreenCopy :=
  refreshRectangle0 s x y width height frontbufferVa backbufferVa m

def scrollScreenRect (s : Screen) (cHeight : Nat) (m : Storage UInt8) : ScreenCopy :=
  if s.width = 0 ∨ s.height = 0 then .error (.panic "scroll_screen_rect: [PANIC] w h\n")
  else
    match bytesPerPixel s with
    | none => .error (.panic "scroll_screen_rect: gSavedBPP")
    | some bytesCount =>
        let pitch := s.width*bytesCount
        let dest := backbufferVa
        let src := backbufferVa+bytesCount*s.width*cHeight
        if pitch % 4 = 0 then .ok (m.copyLines 4 (pitch/4) pitch s.height dest src)
        else .ok (m.copyLines 1 pitch pitch s.height dest src)

theorem backbufferVa_eq : backbufferVa = frontbufferVa+2^21 := rfl

section Refreshing

variable {s : Screen} {b : Nat} {m : Storage UInt8}

-- Lines are copied down to the one below the screen.
theorem refreshLines_eq (s : Screen) (size count pitch firstLine lines i dest src : Nat) (m : Storage UInt8) :
    refreshLines s size count pitch firstLine lines i dest src m =
      m.copyLines size count pitch (min lines (s.height+1-(firstLine+i))) dest src := by
  induction lines generalizing i dest src m with
  | zero =>
      rw [Nat.zero_min]
      rfl
  | succ lines ih =>
      by_cases clipped : s.height < firstLine+i
      · rw [Nat.sub_eq_zero_of_le clipped,Nat.min_zero]
        exact if_pos clipped
      · have next : min (lines+1) (s.height+1-(firstLine+i)) = min lines (s.height+1-(firstLine+(i+1)))+1 := by omega
        rw [next]
        exact (if_neg clipped).trans (ih _ _ _ _)

-- The offset of the first byte, which the code keeps in an unsigned int.
def refreshOffset (s : Screen) (b x y : Nat) : Nat := (y*s.width+x)*b % 2^32

theorem refreshOffset_eq (s : Screen) (b x y : Nat) : (y*(b*s.width)+x*b) % 2^32 = refreshOffset s b x y := by
  rw [refreshOffset,Nat.add_mul,Nat.mul_assoc,Nat.mul_comm s.width]

def refreshedLines (s : Screen) (y height : Nat) : Nat := min height (s.height+1-y)

-- A refresh that copies: a rectangle with pixels, given in words, on a screen with pixels.
structure Refreshable (s : Screen) (b x y width height : Nat) : Prop where
  depth : bytesPerPixel s = some b
  pixels : ¬ (s.width = 0 ∨ s.height = 0)
  left : x < 2^16
  top : y < 2^16
  wide : width < 2^16
  high : height < 2^16
  columns : width ≠ 0
  lines : height ≠ 0

-- Whichever loop is taken, whole lines of the rectangle are copied.
theorem refreshRectangle_copies (refreshable : Refreshable s b x y width height) (m : Storage UInt8) :
    ∃ size count, count*size = width*b ∧ refreshRectangle s x y width height m =
      .ok (m.copyLines size count (s.width*b) (refreshedLines s y height) (frontbufferVa+refreshOffset s b x y)
        (frontbufferVa+refreshOffset s b x y+2^21)) := by
  have apart : ¬ frontbufferVa+refreshOffset s b x y = backbufferVa+refreshOffset s b x y := by
    rw [backbufferVa_eq]
    omega
  have source : backbufferVa+refreshOffset s b x y = frontbufferVa+refreshOffset s b x y+2^21 := by
    rw [backbufferVa_eq,Nat.add_right_comm]
  simp only [refreshRectangle,refreshRectangle0,if_neg refreshable.pixels,word_mod refreshable.left,word_mod refreshable.top,
    word_mod refreshable.wide,word_mod refreshable.high,if_neg refreshable.columns,if_neg refreshable.lines,refreshable.depth,
    refreshLines_eq,refreshOffset_eq]
  rw [Nat.add_zero,← refreshedLines,if_neg apart,source,Nat.mul_comm b width,Nat.mul_comm b]
  split
  · rename_i eights
    exact ⟨8,width*b/8,Nat.div_mul_cancel (Nat.dvd_of_mod_eq_zero eights),rfl⟩
  · split
    · rename_i fours
      exact ⟨4,width*b/4,Nat.div_mul_cancel (Nat.dvd_of_mod_eq_zero fours),rfl⟩
    · exact ⟨1,width*b,Nat.mul_one _,rfl⟩

-- The bytes that are copied to the front buffer, from 2 MiB behind them.
def RefreshedBytes (s : Screen) (b x y width height : Nat) : Nat → Prop :=
  Lines (frontbufferVa+refreshOffset s b x y) (width*b) (s.width*b) (refreshedLines s y height)

theorem refreshRectangle_ok (refreshable : Refreshable s b x y width height) (m : Storage UInt8) :
    ∃ t, refreshRectangle s x y width height m = .ok t ∧ Touched m t (RefreshedBytes s b x y width height) (2^21) ∧
      (width ≤ s.width → Moved m t (RefreshedBytes s b x y width height) (2^21)) := by
  obtain ⟨size,count,whole,run⟩ := refreshRectangle_copies refreshable m
  refine ⟨_,run,?_,fun inside => ?_⟩
  · rw [RefreshedBytes,← whole]
    apply copyLines_reached
  · have short : width*b ≤ s.width*b := Nat.mul_le_mul_right b inside
    rw [RefreshedBytes,← whole]
    rw [← whole] at short
    apply copyLines_moved
    omega

theorem refreshRectangle_none (pixels : ¬ (s.width = 0 ∨ s.height = 0)) (wide : width < 2^16) (high : height < 2^16)
    (none : width = 0 ∨ height = 0) (m : Storage UInt8) : refreshRectangle s x y width height m = .ok m := by
  simp only [refreshRectangle,refreshRectangle0,if_neg pixels,word_mod wide,word_mod high]
  rcases none with columns | lines
  · exact if_pos columns
  · rw [if_pos lines]
    exact ite_self _

theorem scrollScreenRect_copies (depth : bytesPerPixel s = some b) (pixels : ¬ (s.width = 0 ∨ s.height = 0)) (c : Nat) (m : Storage UInt8) :
    ∃ size count, count*size = s.width*b ∧
      scrollScreenRect s c m = .ok (m.copyLines size count (s.width*b) s.height backbufferVa (backbufferVa+c*(s.width*b))) := by
  have source : b*s.width*c = c*(s.width*b) := by rw [Nat.mul_comm,Nat.mul_comm b]
  simp only [scrollScreenRect,if_neg pixels,depth,source]
  split
  · rename_i fours
    exact ⟨4,s.width*b/4,Nat.div_mul_cancel (Nat.dvd_of_mod_eq_zero fours),rfl⟩
  · exact ⟨1,s.width*b,Nat.mul_one _,rfl⟩

-- The whole of the buffer is filled, from the lines behind it.
theorem scrollScreenRect_ok (depth : bytesPerPixel s = some b) (pixels : ¬ (s.width = 0 ∨ s.height = 0)) (c : Nat) (m : Storage UInt8) :
    ∃ t, scrollScreenRect s c m = .ok t ∧ Touched m t (Span backbufferVa (s.height*(s.width*b))) (c*(s.width*b)) ∧
      Moved m t (Span backbufferVa (s.height*(s.width*b))) (c*(s.width*b)) := by
  obtain ⟨size,count,whole,run⟩ := scrollScreenRect_copies depth pixels c m
  refine ⟨_,run,?_,?_⟩
  · apply (copyLines_reached size count (s.width*b) s.height backbufferVa (c*(s.width*b)) m).congr
    intro a
    rw [whole]
    exact lines_full backbufferVa (s.width*b) s.height a
  · apply (copyLines_moved size count (s.width*b) s.height backbufferVa (c*(s.width*b)) (by omega) m).congr
    intro a
    rw [whole]
    exact lines_full backbufferVa (s.width*b) s.height a

end Refreshing

-- The bytes of the visible part of a buffer.
def bufferBytes (s : Screen) : Nat := s.width*s.height*(s.bpp/8)

def InBuffer (s : Screen) (bufferVa a : Nat) : Prop := bufferVa ≤ a ∧ a < bufferVa+bufferBytes s

-- A refresh that returns has only read the back buffer and written the front buffer.
def RefreshConfined (s : Screen) (x y width height : Nat) (cell : Nat → UInt8) : Prop :=
  ∀ t, refreshRectangle s x y width height ⟨cell,[],[]⟩ = .ok t →
    (∀ a ∈ t.loads, InBuffer s backbufferVa a) ∧ (∀ a ∈ t.stores, InBuffer s frontbufferVa a)

def ScrollConfined (s : Screen) (cHeight : Nat) (cell : Nat → UInt8) : Prop :=
  ∀ t, scrollScreenRect s cHeight ⟨cell,[],[]⟩ = .ok t →
    (∀ a ∈ t.loads, InBuffer s backbufferVa a) ∧ (∀ a ∈ t.stores, InBuffer s backbufferVa a)

-- Nothing is copied, or the last byte of the last line that is copied belongs to the
-- buffer. The line below the screen is copied too, and the offset of the first byte is
-- taken as an unsigned int.
def RefreshFits (s : Screen) (x y width height : Nat) : Prop :=
  s.width = 0 ∨ s.height = 0 ∨ width = 0 ∨ height = 0 ∨ s.height < y ∨
    (y*s.width+x)*(s.bpp/8) % 2^32+(min height (s.height+1-y)-1)*(s.width*(s.bpp/8))+width*(s.bpp/8) ≤ bufferBytes s

section Confinement

variable {s : Screen} {b : Nat} {cell : Nat → UInt8}

-- Lines are inside a buffer if the end of the last one is.
theorem lines_inside (size : 0 < length) (count : 0 < n) : (∀ a, Lines (va+first) length pitch n a → va ≤ a ∧ a < va+limit) ↔
    first+(n-1)*pitch+length ≤ limit := by
  constructor
  · intro inside
    have last := inside (va+first+(n-1)*pitch+(length-1)) ⟨n-1,by omega,by omega,by omega⟩
    omega
  · rintro fits a ⟨i,small,low,high⟩
    have line : i*pitch ≤ (n-1)*pitch := Nat.mul_le_mul_right pitch (by omega)
    omega

-- The back buffer begins 2 MiB behind the front buffer.
theorem inBuffer_back (s : Screen) (a : Nat) : InBuffer s backbufferVa (a+2^21) ↔ InBuffer s frontbufferVa a := by
  unfold InBuffer
  rw [backbufferVa_eq]
  omega

theorem reached_fresh (reached : Touched ⟨cell,[],[]⟩ t Region d) :
    (∀ a, a ∈ t.loads ↔ ∃ x, Region x ∧ a = x+d) ∧ ∀ a, a ∈ t.stores ↔ Region a := by
  constructor
  · intro a
    rw [reached.loads]
    simp
  · intro a
    rw [reached.stores]
    simp

-- A refresh reads as far into the one buffer as it writes into the other.
theorem refresh_written (refreshable : Refreshable s b x y width height) :
    RefreshConfined s x y width height cell ↔ ∀ a, RefreshedBytes s b x y width height a → InBuffer s frontbufferVa a := by
  obtain ⟨t,run,reached,_⟩ := refreshRectangle_ok refreshable ⟨cell,[],[]⟩
  obtain ⟨loads,stores⟩ := reached_fresh reached
  constructor
  · intro inside a among
    exact (inside t run).2 a ((stores a).mpr among)
  · intro inside u returned
    cases run.symm.trans returned
    constructor
    · intro a read
      obtain ⟨source,among,rfl⟩ := (loads a).mp read
      exact (inBuffer_back s source).mpr (inside source among)
    · intro a written
      exact inside a ((stores a).mp written)

theorem refresh_confined (depth : bytesPerPixel s = some b) (left : x < 2^16) (top : y < 2^16) (wide : width < 2^16) (high : height < 2^16) :
    RefreshConfined s x y width height cell ↔ RefreshFits s x y width height := by
  by_cases pixels : s.width = 0 ∨ s.height = 0
  · apply iff_of_true
    · intro t returned
      rw [refreshRectangle,refreshRectangle0,if_pos pixels] at returned
      cases returned
    · exact or_assoc.mp (.inl pixels)
  · by_cases none : width = 0 ∨ height = 0
    · apply iff_of_true
      · intro t returned
        rw [refreshRectangle_none pixels wide high none] at returned
        cases returned
        exact ⟨fun a absent => (List.not_mem_nil absent).elim,fun a absent => (List.not_mem_nil absent).elim⟩
      · exact .inr (.inr (or_assoc.mp (.inl none)))
    · have columns : width ≠ 0 := fun zero => none (.inl zero)
      have lines : height ≠ 0 := fun zero => none (.inr zero)
      have bytes : 0 < b := bytesPerPixel_pos depth
      have refreshable : Refreshable s b x y width height := ⟨depth,pixels,left,top,wide,high,columns,lines⟩
      rw [refresh_written refreshable,RefreshFits,depth_size depth]
      by_cases below : s.height < y
      · apply iff_of_true
        · rintro a ⟨i,small,_⟩
          unfold refreshedLines at small
          omega
        · exact .inr (.inr (.inr (.inr (.inl below))))
      · have some : 0 < refreshedLines s y height := by
          unfold refreshedLines
          omega
        have size : 0 < width*b := Nat.mul_pos (Nat.pos_of_ne_zero columns) bytes
        apply (lines_inside size some).trans
        unfold refreshOffset refreshedLines
        omega

theorem scroll_confined (depth : bytesPerPixel s = some b) : ScrollConfined s c cell ↔ s.width = 0 ∨ s.height = 0 ∨ c = 0 := by
  by_cases pixels : s.width = 0 ∨ s.height = 0
  · apply iff_of_true
    · intro t returned
      rw [scrollScreenRect,if_pos pixels] at returned
      cases returned
    · exact or_assoc.mp (.inl pixels)
  · obtain ⟨t,run,reached,_⟩ := scrollScreenRect_ok depth pixels c ⟨cell,[],[]⟩
    obtain ⟨loads,stores⟩ := reached_fresh reached
    have bytes : 0 < b := bytesPerPixel_pos depth
    have line : 0 < s.width*b := Nat.mul_pos (by omega) bytes
    have size : bufferBytes s = s.height*(s.width*b) := by
      rw [bufferBytes,depth_size depth,Nat.mul_comm s.width,Nat.mul_assoc]
    have some : 0 < s.height*(s.width*b) := Nat.mul_pos (by omega) line
    constructor
    · intro inside
      have last := (inside t run).1 (backbufferVa+(s.height*(s.width*b)-1)+c*(s.width*b))
        ((loads _).mpr ⟨_,⟨by omega,by omega⟩,rfl⟩)
      have none : c*(s.width*b) = 0 := by
        unfold InBuffer at last
        omega
      exact .inr (.inr ((Nat.mul_eq_zero.mp none).resolve_right (Nat.ne_of_gt line)))
    · intro none u returned
      obtain rfl : c = 0 := by omega
      cases run.symm.trans returned
      rw [Nat.zero_mul] at loads
      constructor
      · intro a read
        obtain ⟨source,among,rfl⟩ := (loads a).mp read
        rw [InBuffer,size]
        exact among
      · intro a written
        rw [InBuffer,size]
        exact (stores a).mp written

end Confinement

-- The screen copies stay inside their buffers exactly if the refreshed lines fit and
-- nothing is scrolled: the lines to be scrolled in stand behind the back buffer.
theorem copies_confined (s : Screen) (x y width height cHeight : Nat) (cell : Nat → UInt8) (depth : s.bpp = 32 ∨ s.bpp = 24)
    (left : x < 2^16) (top : y < 2^16) (wide : width < 2^16) (high : height < 2^16) (small : cHeight < s.height) :
    (RefreshConfined s x y width height cell ↔ RefreshFits s x y width height) ∧
      (ScrollConfined s cHeight cell ↔ s.width = 0 ∨ cHeight = 0) := by
  obtain ⟨b,known⟩ := bytesPerPixel_known depth
  refine ⟨refresh_confined known left top wide high,(scroll_confined known).trans ?_⟩
  omega

theorem copies_confined_corner : RefreshConfined smallScreen 700 500 100 100 (fun _ => 0) ∧ ScrollConfined smallScreen 0 (fun _ => 0) :=
  have confined := copies_confined smallScreen 700 500 100 100 0 (fun _ => 0) (.inl rfl) (by decide) (by decide) (by decide) (by decide)
    (by decide)
  ⟨confined.1.mpr (by unfold RefreshFits; decide),confined.2.mpr (.inr rfl)⟩

-- Line 600 of the screen is refreshed, and is scrolled into the screen.
theorem copies_overrun : ¬ RefreshConfined smallScreen 0 590 10 20 (fun _ => 0) ∧ ¬ ScrollConfined smallScreen 16 (fun _ => 0) := by
  have depth : bytesPerPixel smallScreen = some 4 := rfl
  constructor
  · intro confined
    have fits := (refresh_confined depth (by decide) (by decide) (by decide) (by decide)).mp confined
    unfold RefreshFits at fits
    exact absurd fits (by decide)
  · intro confined
    have still := (scroll_confined depth).mp confined
    exact absurd still (by decide)

end GramadoKernel
