import GramadoKernel.AddressSpaces
import Mathlib.Data.Finset.Card
import Mathlib.Data.Set.Basic

namespace GramadoKernel

-- The entry of a page table for the window of an address space.
def windowEntry (memory : Memory) (pml4 : UInt64) (i : Nat) : UInt64 := memory (TableWalk.walk target memory pml4 [0,0,1]) i

-- The frames that the user can reach through the window.
def userFrames (memory : Memory) (pml4 : UInt64) : Set UInt64 :=
  {frame | ∃ i < 512, windowEntry memory pml4 i &&& pageUser ≠ 0 ∧ frame = target (windowEntry memory pml4 i)}

-- The pages of the memory for an image: 1 MB of the slab, or what mmAllocPages is asked
-- for.
def imagePages (s : System) : Nat :=
  match slab1MbAllocator s with
  | .ok (base,_) => if base = 0 then imagesizeLimitInKb*1024/4096 else 1024*1024/4096
  | .error _ => 0

def imageFrames (supply : CloneSupply) (s : System) : Set UInt64 :=
  {frame | ∃ base t, imageBase supply s = .ok (base,t) ∧ ∃ k < imagePages s, s.physical (base+UInt64.ofNat (4096*k)) = .ok frame}

-- A clone with the frames that were allocated for it and the frames that its page table
-- has for the user.
structure CloneRecord where
  call : CloneCall
  allocated : Set UInt64
  mapped : Set UInt64

def RecordedClone (s : System) (r : CloneRecord) (t : System) : Prop :=
  ∃ m, KeepsTables s m ∧ CloneStep m (.clone r.call) t ∧
    (∃ u, Cloned r.call.supply m r.call.child u t ∧ r.allocated = imageFrames r.call.supply u) ∧
    r.mapped = userFrames t.tables.memory (t.info r.call.child).pml4Va

-- The window of a clone leads to its own memory, and no two windows to one frame.
structure Isolated (records : List CloneRecord) : Prop where
  own : ∀ r ∈ records, r.mapped ⊆ r.allocated
  apart : records.Pairwise fun a b => ∀ frame ∈ a.mapped, frame ∉ b.mapped

theorem imagePages_le (s : System) : imagePages s ≤ 256 := by
  unfold imagePages
  split
  · split
    · decide
    · exact Nat.le_refl _
  · exact Nat.zero_le _

theorem filledPage_user (region : UInt64) (i : Nat) : filledPage region 7 i &&& pageUser ≠ 0 := by
  intro none
  have bits := congrArg UInt64.toNat none
  unfold filledPage at bits
  rw [UInt64.toNat_and,UInt64.toNat_or,Nat.and_or_distrib_right] at bits
  have user : (7 : UInt64).toNat &&& pageUser.toNat = 4 := by decide
  have least := Nat.right_le_or (n := (region+UInt64.ofNat (4096*i)).toNat &&& pageUser.toNat) (m := 4)
  rw [user] at bits
  rw [bits] at least
  exact absurd least (by decide)

-- The 512 entries lead to 512 frames.
theorem filledPage_frames (region : UInt64) {i j : Nat} (first : i < 512) (second : j < 512)
    (same : target (filledPage region 7 i) = target (filledPage region 7 j)) : i = j := by
  unfold filledPage at same
  rw [target_flags,target_flags] at same
  have frames := congrArg UInt64.toNat same
  rw [target_toNat,target_toNat,UInt64.toNat_add,UInt64.toNat_add,UInt64.toNat_ofNat',UInt64.toNat_ofNat'] at frames
  omega

section Child

variable {t t' : Tables} {pml4 imagePa : UInt64} {r : ImageTables}

theorem Installed.entry (installed : Installed t pml4 imagePa r t') (formed : WellFormed t) (i : Nat) :
    windowEntry t'.memory pml4 i = filledPage imagePa 7 i := by
  simp only [windowEntry,TableWalk.walk,installed.root,installed.page formed (Nat.le_refl 3),installed.pdpt,
    installed.page formed (show 2 ≤ 3 by decide),installed.directory formed,childTable,if_true,installed.pt]

theorem Installed.frames (installed : Installed t pml4 imagePa r t') (formed : WellFormed t) {i : Nat} (few : i < 512) :
    target (filledPage imagePa 7 i) ∈ userFrames t'.memory pml4 := by
  refine ⟨i,few,?_,?_⟩
  · rw [installed.entry formed]
    exact filledPage_user imagePa i
  · rw [installed.entry formed]

end Child

-- 512 frames are not among those of 256 pages.
theorem clone_not_within {s t : System} {r : CloneRecord} (formed : WellFormed s.tables) (cloned : RecordedClone s r t) :
    ¬ r.mapped ⊆ r.allocated := by
  intro within
  obtain ⟨m,keeps,_,⟨u,made,allocated⟩,mapped⟩ := cloned
  obtain ⟨_,_,formedU,⟨_,installed⟩,_,_⟩ := made.tables (keeps.tables ▸ formed)
  obtain ⟨base,v,image,_⟩ := made.image
  let page := fun i => target (filledPage (t.info r.call.child).imagePa 7 i)
  let given := fun k => (u.supply fun _ => true).virtualToPhysical (base+UInt64.ofNat (4096*k))
  have among : (Finset.range 512).image page ⊆ (Finset.range (imagePages u)).image given := by
    intro frame member
    obtain ⟨i,few,rfl⟩ := Finset.mem_image.mp member
    have inside : page i ∈ r.allocated := within (mapped ▸ installed.frames formedU (Finset.mem_range.mp few))
    rw [allocated] at inside
    obtain ⟨base',v',image',k,below,place⟩ := inside
    obtain ⟨rfl,rfl⟩ := Prod.mk.inj (Except.ok.inj (image'.symm.trans image))
    refine Finset.mem_image.mpr ⟨k,Finset.mem_range.mpr below,?_⟩
    simp only [given,System.supply,place]
  have distinct : ((Finset.range 512).image page).card = 512 := by
    rw [Finset.card_image_of_injOn,Finset.card_range]
    intro i first j second same
    exact filledPage_frames _ (by simpa using first) (by simpa using second) same
  have count := (Finset.card_le_card among).trans Finset.card_image_le
  rw [distinct,Finset.card_range] at count
  exact absurd (count.trans (imagePages_le u)) (by decide)

theorem recordedClone_formed {s t : System} {r : CloneRecord} (formed : WellFormed s.tables) (cloned : RecordedClone s r t) :
    WellFormed t.tables := by
  obtain ⟨m,keeps,_,⟨u,made,_⟩,_⟩ := cloned
  have tables := made.tables (keeps.tables ▸ formed)
  exact (show WellFormed m.tables from keeps.tables ▸ formed).written tables.writes tables.page

-- Clones are isolated as long as there are none.
theorem isolated_iff_none {s t : System} {records : List CloneRecord} (formed : WellFormed s.tables)
    (run : Runs.Path RecordedClone s records t) : Isolated records ↔ records = [] := by
  constructor
  · intro isolated
    have sound := run.under (fun s => WellFormed s.tables) (fun _ _ _ => recordedClone_formed) formed
    have never := sound.each (fun r => ¬ r.mapped ⊆ r.allocated) fun _ _ _ step => clone_not_within step.1 step.2
    exact List.eq_nil_iff_forall_not_mem.mpr fun r member => never r member (isolated.own r member)
  · rintro rfl
    exact ⟨by simp,.nil⟩

def secondClone : CloneCall := {firstClone with child := 3}

-- The record of a call on a state.
theorem recordedClone_cloned (s : System) (call : CloneCall) (returned : s.clonePid call = call.child) :
    ∃ r : CloneRecord, RecordedClone s r (s.cloned call) ∧ r.call = call ∧
      r.mapped = userFrames (s.cloned call).tables.memory ((s.cloned call).info call.child).pml4Va := by
  have step := cloneStep_cloned returned
  obtain ⟨u,made⟩ := copyProcess_made step
  exact ⟨⟨call,imageFrames call.supply u,_⟩,⟨s,.refl s,step,⟨u,made,rfl⟩,rfl⟩,rfl,rfl⟩

theorem isolated_iff_none_first : ∃ r t, Runs.Path RecordedClone (bootSystem 0) [r] t ∧ ¬ Isolated [r] := by
  obtain ⟨r,recorded,_⟩ := recordedClone_cloned (bootSystem 0) firstClone (by decide +kernel)
  have run : Runs.Path RecordedClone (bootSystem 0) [r] _ := .step .nil recorded
  refine ⟨r,_,run,fun isolated => ?_⟩
  have none := (isolated_iff_none (bootSystem_sound 0).formed run).mp isolated
  cases none

-- The second megabyte of the first window is the block of the second clone.
theorem neighbour_block_shared : ∃ a b t, Runs.Path RecordedClone (bootSystem 0) [a,b] t ∧ (0x01500000 : UInt64) ∈ a.mapped ∧
    (0x01500000 : UInt64) ∈ b.mapped ∧ ¬ Isolated [a,b] := by
  obtain ⟨a,first,_,mappedA⟩ := recordedClone_cloned (bootSystem 0) firstClone (by decide +kernel)
  obtain ⟨b,second,_,mappedB⟩ := recordedClone_cloned ((bootSystem 0).cloned firstClone) secondClone (by decide +kernel)
  have inA : (0x01500000 : UInt64) ∈ a.mapped := by
    rw [mappedA]
    exact ⟨256,by decide,by decide +kernel,by decide +kernel⟩
  have inB : (0x01500000 : UInt64) ∈ b.mapped := by
    rw [mappedB]
    exact ⟨0,by decide,by decide +kernel,by decide +kernel⟩
  refine ⟨a,b,_,.step (.step .nil first) second,inA,inB,fun isolated => ?_⟩
  exact List.rel_of_pairwise_cons isolated.apart (List.mem_singleton_self b) _ inA inB

end GramadoKernel
