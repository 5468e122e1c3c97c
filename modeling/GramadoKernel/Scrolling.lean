import GramadoKernel.ScreenCopies

open Moving
namespace GramadoKernel

-- Successive calls, until one does not return.
def scrolls (s : Screen) (cHeight : Nat) : Nat → Storage UInt8 → ScreenCopy
  | 0,m => .ok m
  | k+1,m => do
      let m ← scrollScreenRect s cHeight m
      scrolls s cHeight k m

-- A byte of a row of the back buffer, or of the memory behind it.
def backbufferRow (s : Screen) (m : Storage UInt8) (row place : Nat) : UInt8 := m.cell (backbufferVa+row*(s.width*(s.bpp/8))+place)

section Scrolling

variable {s : Screen} {b c : Nat} {m t : Storage UInt8}

theorem scrollScreenRect_pixels (returned : scrollScreenRect s c m = .ok t) : ¬ (s.width = 0 ∨ s.height = 0) := by
  intro none
  rw [scrollScreenRect,if_pos none] at returned
  cases returned

-- One call moves every row of the screen up by the height of a character.
theorem scrollScreenRect_row (depth : bytesPerPixel s = some b) (returned : scrollScreenRect s c m = .ok t) (screen : row < s.height)
    (column : place < s.width*b) : backbufferRow s t row place = backbufferRow s m (row+c) place := by
  have pixels := scrollScreenRect_pixels returned
  obtain ⟨u,run,_,moved⟩ := scrollScreenRect_ok depth pixels c m
  cases run.symm.trans returned
  have above : (row+1)*(s.width*b) ≤ s.height*(s.width*b) := Nat.mul_le_mul_right _ screen
  rw [Nat.add_mul,Nat.one_mul] at above
  have inside : Span backbufferVa (s.height*(s.width*b)) (backbufferVa+row*(s.width*b)+place) := ⟨by omega,by omega⟩
  have from_ : backbufferVa+row*(s.width*b)+place+c*(s.width*b) = backbufferVa+(row+c)*(s.width*b)+place := by
    rw [Nat.add_mul]
    omega
  rw [backbufferRow,backbufferRow,depth_size depth,moved.moved _ inside,from_]

-- After k calls the rows that have not come from behind the screen are k characters up.
theorem scrolls_row (depth : bytesPerPixel s = some b) (k : Nat) (m : Storage UInt8) (returned : scrolls s c k m = .ok t)
    (screen : row+k*c < s.height) (column : place < s.width*b) : backbufferRow s t row place = backbufferRow s m (row+k*c) place := by
  induction k generalizing m with
  | zero =>
      cases returned
      rw [Nat.zero_mul,Nat.add_zero]
  | succ k ih =>
      have further : row+(k+1)*c = row+k*c+c := by rw [Nat.add_mul,Nat.one_mul,Nat.add_assoc]
      rw [further] at screen ⊢
      cases first : scrollScreenRect s c m with
      | error stuck =>
          rw [scrolls,first] at returned
          cases returned
      | ok u =>
          rw [scrolls,first] at returned
          rw [ih u returned (by omega)]
          exact scrollScreenRect_row depth first (by omega) column

theorem scrolls_return (depth : bytesPerPixel s = some b) (pixels : ¬ (s.width = 0 ∨ s.height = 0)) (k : Nat) (m : Storage UInt8) :
    ∃ t, scrolls s c k m = .ok t := by
  induction k generalizing m with
  | zero => exact ⟨m,rfl⟩
  | succ k ih =>
      obtain ⟨u,run,_⟩ := scrollScreenRect_ok depth pixels c m
      obtain ⟨t,rest⟩ := ih u
      exact ⟨t,by rw [scrolls,run]; exact rest⟩

end Scrolling

-- On a screen that has columns every sequence of calls returns, and each call moves the
-- rows up. The rows that are left of the original ones keep all their bytes.
theorem scrolls_up (s : Screen) (c k : Nat) (m : Storage UInt8) (depth : s.bpp = 32 ∨ s.bpp = 24) (visible : k*c < s.height) :
    (s.width ≠ 0 → ∃ t, scrolls s c k m = .ok t) ∧
      ∀ t, scrolls s c k m = .ok t → ∀ row < s.height-k*c, ∀ place < s.width*(s.bpp/8),
        backbufferRow s t row place = backbufferRow s m (row+k*c) place := by
  obtain ⟨b,known⟩ := bytesPerPixel_known depth
  constructor
  · intro columns
    exact scrolls_return known (by omega) k m
  · intro t returned row above place column
    rw [depth_size known] at column
    exact scrolls_row known k m returned (by omega) column

theorem scrolls_up_twice : ∃ t, scrolls smallScreen 16 2 ⟨UInt8.ofNat,[],[]⟩ = .ok t ∧
    ∀ row < 568, ∀ place < 3200, backbufferRow smallScreen t row place = backbufferRow smallScreen ⟨UInt8.ofNat,[],[]⟩ (row+32) place := by
  obtain ⟨returns,rows⟩ := scrolls_up smallScreen 16 2 ⟨UInt8.ofNat,[],[]⟩ (.inl rfl) (by decide)
  obtain ⟨t,returned⟩ := returns (by decide)
  exact ⟨t,returned,rows t returned⟩

end GramadoKernel
