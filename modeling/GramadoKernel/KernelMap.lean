import GramadoKernel.ProcessHeaps
import GramadoKernel.RegionMapping

namespace GramadoKernel

-- paging.h, x64gva.h and x64gpa.h
def pagePresent : UInt64 := 1
def pageWrite : UInt64 := 2
def pagedpoolVa : UInt64 := 0x30600000
def extraheap2Va : UInt64 := 0x30C00000
def extraheap3Va : UInt64 := 0x30E00000

-- What a page table of a whole block of 2 MB leads to, and the flags of its entries.
structure Block where
  pa : UInt64
  flags : UInt64
  low : flags.toNat < 4096

theorem systemFlags_low : (pageWrite ||| pagePresent).toNat < 4096 := by decide

theorem userFlags_low : (pageUser ||| pageWrite ||| pagePresent).toNat < 4096 := by decide

def systemBlock (pa : UInt64) : Block := ⟨pa,pageWrite ||| pagePresent,systemFlags_low⟩

def userBlock (pa : UInt64) : Block := ⟨pa,pageUser ||| pageWrite ||| pagePresent,userFlags_low⟩

structure Region where
  va : UInt64
  block : Block

def ring0area : Region := ⟨0,systemBlock 0⟩
def ring3area : Region := ⟨controlthreadBase,userBlock 0x02000000⟩
def kernelimage : Region := ⟨0x30000000,systemBlock 0x00100000⟩
def frontbuffer (lfb : UInt64) : Region := ⟨0x30200000,userBlock lfb⟩
def backbuffer : Region := ⟨0x30400000,userBlock 0x04000000⟩
def pagedpool : Region := ⟨pagedpoolVa,userBlock 0x01800000⟩
def heappool : Region := ⟨heappoolVa,userBlock 0x01000000⟩
def extraheap1 : Region := ⟨0x30A00000,systemBlock 0x01200000⟩
def extraheap2 : Region := ⟨extraheap2Va,userBlock 0x01400000⟩
def extraheap3 : Region := ⟨extraheap3Va,userBlock 0x01600000⟩

def canonicalRegions (lfb : UInt64) : List Region :=
  [ring0area,ring3area,kernelimage,frontbuffer lfb,backbuffer,pagedpool,heappool,extraheap1,extraheap2,extraheap3]

-- What the routines for the regions have in common: a new page table, and the entry for it
-- in the directory of the kernel.
def Region.install (r : Region) (s : System) : Except Halt System := do
  let (pt,t) ← getTablePointerVa s.tables
  .ok {s with tables := (mmFillPageTable kernelPdPa (x64GetPdeIndex r.va) pt r.block.pa r.block.flags t).2}

def initializeRing0area (s : System) : Except Halt System := ring0area.install s
def initializeRing3area (s : System) : Except Halt System := ring3area.install s
def initializeKernelimageRegion (s : System) : Except Halt System := kernelimage.install s
def initializeFrontbuffer (gSavedLfb : UInt64) (s : System) : Except Halt System := (frontbuffer gSavedLfb).install s
def initializeBackbuffer (s : System) : Except Halt System := backbuffer.install s
def initializePagedpool (s : System) : Except Halt System := pagedpool.install {s with pool := {s.pool with base := pagedpoolVa}}
def initializeHeappoolRegion (s : System) : Except Halt System := heappool.install (initializeHeappool s)
def initializeExtraheap1 (s : System) : Except Halt System := extraheap1.install s
def initializeExtraheap2 (s : System) : Except Halt System := extraheap2.install s
def initializeExtraheap3 (s : System) : Except Halt System := extraheap3.install s

def initializeCanonicalKernelPagetables (gSavedLfb : UInt64) (s : System) : Except Halt System := do
  let s ← initializeRing0area s
  let s ← initializeRing3area s
  let s ← initializeKernelimageRegion s
  let s ← initializeFrontbuffer gSavedLfb s
  let s ← initializeBackbuffer s
  let s ← initializePagedpool s
  let s ← initializeHeappoolRegion s
  let s ← initializeExtraheap1 s
  let s ← initializeExtraheap2 s
  let s ← initializeExtraheap3 s
  let slab ← slabInitialize extraheap2Va extraheap3Va
  .ok {s with newPagedPool := slab}

-- The 512 entries of a table of the kernel, none of them present.
def Tables.clear (t : Tables) (page : UInt64) : Tables := {t with memory := Function.update t.memory page fun _ => pageWrite}

-- pagesInitializePaging, as far as the page tables and the allocators under them go.
def pagesInitializePaging (gSavedLfb : UInt64) (s : System) : Except Halt System :=
  let t := ((s.tables.clear gKernelPml4Address).clear kernelPdptPa).clear kernelPdPa
  let t := t.link kernelPdptPa 0 kernelPdPa (pageUser ||| pageWrite ||| pagePresent)
  let t := t.link gKernelPml4Address 0 kernelPdptPa (pageUser ||| pageWrite ||| pagePresent)
  initializeCanonicalKernelPagetables gSavedLfb {s with tables := t}

-- What a memory access asks of the entries on its way.
structure Access where
  write : Bool
  user : Bool

def Access.bits (kind : Access) : UInt64 :=
  pagePresent ||| (if kind.write = true then pageWrite else 0) ||| if kind.user = true then pageUser else 0

def Access.Allowed (kind : Access) (entry : UInt64) : Prop := entry &&& kind.bits = kind.bits

instance (kind : Access) : DecidablePred kind.Allowed := fun _ => inferInstanceAs (Decidable (_ = _))

def tablePath (va : UInt64) : List Nat := [pml4Index va,pdptIndex va,pdIndex va,ptIndex va]

-- The walk of the processor, which uses no entry that does not allow the access.
def access (memory : Memory) (pml4 : UInt64) (kind : Access) (va : UInt64) : Option UInt64 :=
  (TableWalk.reach target kind.Allowed memory pml4 (tablePath va)).map fun page => page+(va &&& 0xFFF)

section Bits

variable {kind : Access}

theorem bits_cases (kind : Access) : kind.bits = 1 ∨ kind.bits = 3 ∨ kind.bits = 5 ∨ kind.bits = 7 := by
  obtain ⟨write,user⟩ := kind
  cases write <;> cases user <;> decide

theorem not_allowed_cleared (kind : Access) : ¬ kind.Allowed pageWrite := by
  unfold Access.Allowed
  rcases bits_cases kind with bits | bits | bits | bits <;> rw [bits] <;> decide

theorem allowed_user (kind : Access) : kind.Allowed 7 := by
  unfold Access.Allowed
  rcases bits_cases kind with bits | bits | bits | bits <;> rw [bits] <;> decide

-- More bits allow no less.
theorem Access.Allowed.or {flags : UInt64} (allowed : kind.Allowed flags) (entry : UInt64) : kind.Allowed (entry ||| flags) := by
  unfold Access.Allowed at *
  rw [← UInt64.toBitVec_inj] at *
  simp only [UInt64.toBitVec_and,UInt64.toBitVec_or] at *
  ext i small
  have bit := congrArg (fun b => b.getLsbD i) allowed
  simp at bit ⊢
  grind

-- The bits of the address of a page allow nothing.
theorem allowed_page {page flags : UInt64} (place : IsPage page) : kind.Allowed (page ||| flags) ↔ kind.Allowed flags := by
  refine ⟨fun allowed => ?_,fun allowed => allowed.or page⟩
  have mask : pageMask &&& kind.bits = 0 := by
    rcases bits_cases kind with bits | bits | bits | bits <;> rw [bits] <;> decide
  have none : page &&& kind.bits = 0 := by rw [← place,target,UInt64.and_assoc,mask,UInt64.and_zero]
  unfold Access.Allowed at *
  rw [← UInt64.toBitVec_inj] at *
  simp only [UInt64.toBitVec_and,UInt64.toBitVec_or] at *
  ext i small
  have bit := congrArg (fun b => b.getLsbD i) allowed
  have clear := congrArg (fun b => b.getLsbD i) none
  simp at bit clear ⊢
  grind

end Bits

-- A page that has been handed out for a table.
structure TablePage (t : Tables) (page : UInt64) : Prop where
  place : IsPage page
  some : page ≠ 0
  taken : page ≤ t.heapBase

-- The tables of the kernel are those of a map from the entries of its directory to blocks:
-- nothing else is present in them.
structure KernelMapped (map : Nat → Option Block) (t : Tables) : Prop where
  base : IsPage t.heapBase
  limit : t.heapBase < fatAddress
  root : ∀ a, t.memory gKernelPml4Address a = if a = 0 then kernelPdptPa ||| 7 else pageWrite
  pdpt : ∀ b, t.memory kernelPdptPa b = if b = 0 then kernelPdPa ||| 7 else pageWrite
  absent : ∀ d, map d = none → t.memory kernelPdPa d = pageWrite
  mapped : ∀ d block, map d = some block → ∃ pt, TablePage t pt ∧ t.memory kernelPdPa d = pt ||| block.flags ∧
    ∀ i, t.memory pt i = filledPage block.pa block.flags i

def Block.place (block : Block) (va : UInt64) : UInt64 := target (block.pa+UInt64.ofNat (4096*ptIndex va))+(va &&& 0xFFF)

-- The place of an address in a block that begins at a page.
theorem Block.place_toNat (block : Block) (va : UInt64) :
    (block.place va).toNat = (block.pa.toNat/4096*4096+va.toNat % 2^21) % 2^48 := by
  have size := block.pa.toNat_lt
  rw [Block.place,framed_toNat,UInt64.toNat_add,UInt64.toNat_ofNat',ptIndex_toNat]
  omega

-- An access by a map of the blocks below 1 GB, with no tables.
def mapAccess (map : Nat → Option Block) (kind : Access) (va : UInt64) : Option UInt64 :=
  if pml4Index va = 0 ∧ pdptIndex va = 0 then
    (map (pdIndex va)).bind fun block => if kind.Allowed block.flags then some (block.place va) else none
  else none

section Mapped

variable {t : Tables} {map : Nat → Option Block}

theorem TablePage.above {page kernelPage : UInt64} (table : TablePage t page) (limit : t.heapBase < fatAddress)
    (kernel : fatAddress ≤ kernelPage) : page ≠ kernelPage := by
  rintro rfl
  exact absurd (UInt64.lt_of_le_of_lt table.taken limit) (UInt64.not_lt.mpr kernel)

theorem KernelMapped.frame (mapped : KernelMapped map t) {block : Block} {d : Nat} (entry : map d = some block) (i : Nat) :
    frame t.memory gKernelPml4Address d i = target (block.pa+UInt64.ofNat (4096*i)) := by
  obtain ⟨pt,table,pd,entries⟩ := mapped.mapped d block entry
  have root : target (t.memory gKernelPml4Address 0) = kernelPdptPa := by
    rw [mapped.root]
    decide
  have pdpt : target (t.memory kernelPdptPa 0) = kernelPdPa := by
    rw [mapped.pdpt]
    decide
  rw [kernel_frame root pdpt,pd,target_or block.low,table.place,entries]
  exact target_or block.low _

-- What the processor makes of an address in the address space of the kernel.
theorem KernelMapped.access (mapped : KernelMapped map t) (kind : Access) (va : UInt64) :
    access t.memory gKernelPml4Address kind va = mapAccess map kind va := by
  have pdptPage : target (kernelPdptPa ||| 7) = kernelPdptPa := by decide
  have pdPage : target (kernelPdPa ||| 7) = kernelPdPa := by decide
  have upper (entry : UInt64) : kind.Allowed (entry ||| 7) := (allowed_user kind).or entry
  have cleared := not_allowed_cleared kind
  simp only [GramadoKernel.access,mapAccess,tablePath,TableWalk.reach,mapped.root]
  by_cases first : pml4Index va = 0
  · by_cases second : pdptIndex va = 0
    · simp only [first,second,if_true,upper,pdptPage,mapped.pdpt,pdPage,and_self]
      cases entry : map (pdIndex va) with
      | none => simp [mapped.absent _ entry,cleared]
      | some block =>
          obtain ⟨pt,table,pd,entries⟩ := mapped.mapped _ block entry
          simp only [pd,allowed_page table.place,target_or block.low,show target pt = pt from table.place,entries,Option.bind_some]
          by_cases allowed : kind.Allowed block.flags
          · have last : kind.Allowed (filledPage block.pa block.flags (ptIndex va)) := allowed.or _
            have page : target (filledPage block.pa block.flags (ptIndex va)) = target (block.pa+UInt64.ofNat (4096*ptIndex va)) :=
              target_or block.low _
            simp [allowed,last,page,Block.place]
          · simp [allowed]
    · simp [first,second,upper,pdptPage,mapped.pdpt,cleared]
  · simp [first,cleared]

theorem TablePage.closed {page : UInt64} (table : TablePage t page) : ¬ t.Free page := fun free =>
  absurd free.1 (UInt64.not_lt.mpr table.taken)

theorem TablePage.later {t' : Tables} {page : UInt64} (table : TablePage t page) (later : t.heapBase ≤ t'.heapBase) : TablePage t' page :=
  ⟨table.place,table.some,UInt64.le_trans table.taken later⟩

theorem zero_closed (t : Tables) : ¬ t.Free 0 := fun free =>
  absurd free.1 (UInt64.not_lt.mpr (UInt64.le_iff_toNat_le.mpr (Nat.zero_le _)))

-- With the first 2 MB where they are, the tables are well formed.
theorem KernelMapped.formed (mapped : KernelMapped map t) {block : Block} (entry : map 0 = some block) (zero : block.pa = 0) :
    WellFormed t := by
  have root : target (t.memory gKernelPml4Address 0) = kernelPdptPa := by
    rw [mapped.root]
    decide
  have pdpt : target (t.memory kernelPdptPa 0) = kernelPdPa := by
    rw [mapped.pdpt]
    decide
  refine ⟨mapped.base,root,pdpt,fun page free place => ?_,fun d _ i _ cell member => ?_⟩
  · have bounds := isPage_iff.mp place
    have limit : page.toNat < 0x30000 := UInt64.lt_iff_toNat_lt.mp free.2
    have directory : pdIndex page = 0 := by
      rw [pdIndex_toNat]
      omega
    have first : pml4Index page = 0 := by
      rw [pml4Index_toNat]
      omega
    have second : pdptIndex page = 0 := by
      rw [pdptIndex_toNat]
      omega
    refine virtualToPhysical_ok.mpr ⟨first,second,by decide,?_⟩
    rw [directory,mapped.frame entry,zero,← UInt64.toNat_inj,framed_toNat,UInt64.toNat_add,UInt64.toNat_ofNat',ptIndex_toNat,
      UInt64.toNat_zero]
    omega
  · rw [kernel_reads root pdpt] at member
    simp only [List.mem_cons,List.not_mem_nil,or_false] at member
    rcases member with rfl | rfl | rfl | rfl
    · exact kernelTable_taken t (by decide)
    · exact kernelTable_taken t (show fatAddress ≤ kernelPdptPa by decide)
    · exact kernelTable_taken t (show fatAddress ≤ kernelPdPa by decide)
    · cases here : map d with
      | none =>
          rw [mapped.absent d here]
          exact zero_closed t
      | some block =>
          obtain ⟨pt,table,pd,_⟩ := mapped.mapped d block here
          rw [pd,target_or block.low,table.place]
          exact table.closed

-- A new table for one entry of the directory.
theorem KernelMapped.install {pt : UInt64} {u : Tables} (mapped : KernelMapped map t) (taken : getTablePointerVa t = .ok (pt,u)) (va : UInt64)
    (block : Block) : KernelMapped (Function.update map (pdIndex va) (some block))
      (mmFillPageTable kernelPdPa (x64GetPdeIndex va) pt block.pa block.flags u).2 := by
  obtain ⟨place,below,rfl⟩ := getTablePointerVa_ok.mp taken
  have place : pt = tablePage t 1 := place
  have new : TablePage ⟨t.memory,pt⟩ pt := by
    have page := tablePage_toNat mapped.base (show 1 < 5 by decide)
    refine ⟨place ▸ tablePage_isPage mapped.base (by decide) (place ▸ below),fun zero => ?_,UInt64.le_refl _⟩
    rw [← place,zero,UInt64.toNat_zero] at page
    omega
  have free : t.Free pt := by
    rw [place] at below ⊢
    exact tablePage_free mapped.base (by decide) (by decide) below
  have later : t.heapBase ≤ pt := UInt64.le_of_lt free.1
  have few := pdIndex_below va
  have kernel : ∀ kernelPage, fatAddress ≤ kernelPage → kernelPage ≠ pt := fun _ above same => kernelTable_taken t above (same ▸ free)
  rw [x64GetPdeIndex_eq,mmFillPageTable_memory _ _ _ _ few]
  refine ⟨new.place,below,fun a => ?_,fun b => ?_,fun d none => ?_,fun d other entry => ?_⟩
  · rw [Tables.link_memory,if_neg (fun here => absurd here.1 (by decide))]
    dsimp only
    rw [Function.update_of_ne (kernel _ (by decide)),mapped.root]
  · rw [Tables.link_memory,if_neg (fun here => absurd here.1 (by decide))]
    dsimp only
    rw [Function.update_of_ne (kernel _ (by decide)),mapped.pdpt]
  · by_cases own : d = pdIndex va
    · subst own
      rw [Function.update_self] at none
      cases none
    · rw [Function.update_of_ne own] at none
      rw [Tables.link_memory,if_neg (fun here => own here.2)]
      dsimp only
      rw [Function.update_of_ne (kernel _ (by decide)),mapped.absent d none]
  · by_cases own : d = pdIndex va
    · subst own
      rw [Function.update_self] at entry
      cases entry
      refine ⟨pt,⟨new.place,new.some,new.taken⟩,?_,fun i => ?_⟩
      · rw [Tables.link_memory,if_pos ⟨rfl,rfl⟩]
      · rw [Tables.link_memory,if_neg (fun here => kernel _ (by decide) here.1.symm)]
        dsimp only
        rw [Function.update_self]
    · rw [Function.update_of_ne own] at entry
      obtain ⟨table,old,pd,entries⟩ := mapped.mapped d other entry
      refine ⟨table,old.later later,?_,fun i => ?_⟩
      · rw [Tables.link_memory,if_neg (fun here => own here.2)]
        dsimp only
        rw [Function.update_of_ne (kernel _ (by decide)),pd]
      · have apart : table ≠ kernelPdPa := old.above mapped.limit (by decide)
        have before : table ≠ pt := fun same => old.closed (same ▸ free)
        rw [Tables.link_memory,if_neg (fun here => apart here.1)]
        dsimp only
        rw [Function.update_of_ne before,entries]

-- The tables while the kernel starts, after n of its regions.
structure Booting (map : Nat → Option Block) (n : Nat) (t : Tables) : Prop where
  mapped : KernelMapped map t
  count : t.heapBase.toNat = 4096*(n+1)

theorem Region.install_booting {s : System} {n : Nat} (booting : Booting map n s.tables) (few : n < 40) (r : Region) :
    ∃ u, r.install s = .ok {s with tables := u} ∧ Booting (Function.update map (pdIndex r.va) (some r.block)) (n+1) u := by
  have next : (s.tables.heapBase+0x1000).toNat = 4096*(n+1+1) := by
    have count := booting.count
    rw [UInt64.toNat_add,show (0x1000 : UInt64).toNat = 4096 by rfl]
    omega
  have below : s.tables.heapBase+0x1000 < fatAddress := by
    rw [UInt64.lt_iff_toNat_lt,next,show fatAddress.toNat = 0x30000 by rfl]
    omega
  have taken := getTablePointerVa_ok.mpr ⟨rfl,below,rfl⟩
  have installed := booting.mapped.install taken r.va r.block
  refine ⟨_,?_,installed,?_⟩
  · simp only [Region.install,taken]
    rfl
  · rw [x64GetPdeIndex_eq,mmFillPageTable_memory _ _ _ _ (pdIndex_below r.va)]
    exact next

end Mapped

def mapRegions (regions : List Region) (map : Nat → Option Block) : Nat → Option Block :=
  regions.foldl (fun map r => Function.update map (pdIndex r.va) (some r.block)) map

theorem mapRegions_some {regions : List Region} (apart : (regions.map fun r => pdIndex r.va).Nodup) {map : Nat → Option Block} {d : Nat}
    {block : Block} : mapRegions regions map d = some block ↔
      (∃ r ∈ regions, pdIndex r.va = d ∧ r.block = block) ∨ (∀ r ∈ regions, pdIndex r.va ≠ d) ∧ map d = some block := by
  induction regions generalizing map with
  | nil => simp [mapRegions]
  | cons r rest ih =>
      rw [List.map_cons,List.nodup_cons] at apart
      have later : ∀ other ∈ rest, pdIndex other.va ≠ pdIndex r.va := fun other member same =>
        apart.1 (List.mem_map.mpr ⟨other,member,same⟩)
      change mapRegions rest (Function.update map (pdIndex r.va) (some r.block)) d = some block ↔ _
      rw [ih apart.2]
      by_cases own : d = pdIndex r.va
      · subst own
        rw [Function.update_self]
        constructor
        · rintro (⟨other,member,same,_⟩ | ⟨_,same⟩)
          · exact absurd same (later other member)
          · exact .inl ⟨r,List.mem_cons_self,rfl,Option.some.inj same⟩
        · rintro (⟨other,member,same,rfl⟩ | ⟨none,_⟩)
          · rcases List.mem_cons.mp member with rfl | old
            · exact .inr ⟨later,rfl⟩
            · exact absurd same (later other old)
          · exact absurd rfl (none r List.mem_cons_self)
      · rw [Function.update_of_ne own]
        have other : pdIndex r.va ≠ d := fun same => own same.symm
        simp [other]

theorem canonicalRegions_va (lfb : UInt64) : (canonicalRegions lfb).map Region.va = [0,controlthreadBase,0x30000000,0x30200000,0x30400000,
    pagedpoolVa,heappoolVa,0x30A00000,extraheap2Va,extraheap3Va] := rfl

def bootMap (lfb : UInt64) : Nat → Option Block := mapRegions (canonicalRegions lfb) fun _ => none

theorem bootMap_some {lfb : UInt64} {d : Nat} {block : Block} :
    bootMap lfb d = some block ↔ ∃ r ∈ canonicalRegions lfb, pdIndex r.va = d ∧ r.block = block := by
  have apart : ((canonicalRegions lfb).map fun r => pdIndex r.va).Nodup := by
    change (((canonicalRegions lfb).map Region.va).map pdIndex).Nodup
    rw [canonicalRegions_va]
    decide
  rw [bootMap,mapRegions_some apart]
  simp

-- The memory of the four blocks of 1 MB.
def bootSlab : NewPagedPool := ⟨true,extraheap2Va,extraheap2Va+0x100000,extraheap3Va,extraheap3Va+0x100000,fun _ => true⟩

theorem cleared_mapped (t : Tables) (fresh : t.heapBase = tablePointerHeapBase) :
    Booting (fun _ => none) 0 (((((t.clear gKernelPml4Address).clear kernelPdptPa).clear kernelPdPa).link kernelPdptPa 0 kernelPdPa
      (pageUser ||| pageWrite ||| pagePresent)).link gKernelPml4Address 0 kernelPdptPa (pageUser ||| pageWrite ||| pagePresent)) := by
  have base : (((((t.clear gKernelPml4Address).clear kernelPdptPa).clear kernelPdPa).link kernelPdptPa 0 kernelPdPa
      (pageUser ||| pageWrite ||| pagePresent)).link gKernelPml4Address 0 kernelPdptPa
      (pageUser ||| pageWrite ||| pagePresent)).heapBase = tablePointerHeapBase := fresh
  have all : (pageUser ||| pageWrite ||| pagePresent : UInt64) = 7 := by decide
  have apart : gKernelPml4Address ≠ kernelPdptPa ∧ gKernelPml4Address ≠ kernelPdPa ∧ kernelPdptPa ≠ kernelPdPa := by decide
  obtain ⟨first,second,third⟩ := apart
  refine ⟨⟨base ▸ isPage_iff.mpr (by decide),base ▸ (by decide),fun a => ?_,fun b => ?_,fun d _ => ?_,fun d block entry => by cases entry⟩,
    by rw [base]; rfl⟩
  · simp [Tables.link_memory,Tables.clear,first,second,all]
  · simp [Tables.link_memory,Tables.clear,first.symm,third,all]
  · simp [Tables.link_memory,Tables.clear,third.symm,second.symm]

-- pagesInitializePaging never fails, and leaves the tables of the regions.
theorem pagesInitializePaging_ok (gSavedLfb : UInt64) {s : System} (fresh : s.tables.heapBase = tablePointerHeapBase) :
    ∃ u, pagesInitializePaging gSavedLfb s =
      .ok {initializeHeappool s with tables := u,pool := {s.pool with base := pagedpoolVa},newPagedPool := bootSlab} ∧
      Booting (bootMap gSavedLfb) 10 u := by
  have start := cleared_mapped s.tables fresh
  obtain ⟨t1,call1,boot1⟩ := ring0area.install_booting (s := {s with tables := _}) start (by decide)
  obtain ⟨t2,call2,boot2⟩ := ring3area.install_booting (s := {s with tables := t1}) boot1 (by decide)
  obtain ⟨t3,call3,boot3⟩ := kernelimage.install_booting (s := {s with tables := t2}) boot2 (by decide)
  obtain ⟨t4,call4,boot4⟩ := (frontbuffer gSavedLfb).install_booting (s := {s with tables := t3}) boot3 (by decide)
  obtain ⟨t5,call5,boot5⟩ := backbuffer.install_booting (s := {s with tables := t4}) boot4 (by decide)
  obtain ⟨t6,call6,boot6⟩ := pagedpool.install_booting (s := {s with tables := t5,pool := {s.pool with base := pagedpoolVa}}) boot5 (by decide)
  obtain ⟨t7,call7,boot7⟩ := heappool.install_booting
    (s := initializeHeappool {s with tables := t6,pool := {s.pool with base := pagedpoolVa}}) boot6 (by decide)
  obtain ⟨t8,call8,boot8⟩ := extraheap1.install_booting
    (s := initializeHeappool {s with tables := t7,pool := {s.pool with base := pagedpoolVa}}) boot7 (by decide)
  obtain ⟨t9,call9,boot9⟩ := extraheap2.install_booting
    (s := initializeHeappool {s with tables := t8,pool := {s.pool with base := pagedpoolVa}}) boot8 (by decide)
  obtain ⟨t10,call10,boot10⟩ := extraheap3.install_booting
    (s := initializeHeappool {s with tables := t9,pool := {s.pool with base := pagedpoolVa}}) boot9 (by decide)
  refine ⟨t10,?_,boot10⟩
  have slab : slabInitialize extraheap2Va extraheap3Va = .ok bootSlab := rfl
  exact bind_ok.mpr ⟨_,call1,bind_ok.mpr ⟨_,call2,bind_ok.mpr ⟨_,call3,bind_ok.mpr ⟨_,call4,bind_ok.mpr ⟨_,call5,bind_ok.mpr ⟨_,call6,
    bind_ok.mpr ⟨_,call7,bind_ok.mpr ⟨_,call8,bind_ok.mpr ⟨_,call9,bind_ok.mpr ⟨_,call10,bind_ok.mpr ⟨_,slab,rfl⟩⟩⟩⟩⟩⟩⟩⟩⟩⟩⟩

-- The addresses of a region, by the 48 bits that are translated.
def Region.Holds (r : Region) (va : UInt64) : Prop := va.toNat % 2^48/2^21 = r.va.toNat/2^21

theorem holds_iff {r : Region} {va : UInt64} (low : r.va.toNat < 2^30) :
    r.Holds va ↔ (pml4Index va = 0 ∧ pdptIndex va = 0) ∧ pdIndex r.va = pdIndex va := by
  rw [Region.Holds,pml4Index_toNat,pdptIndex_toNat,pdIndex_toNat,pdIndex_toNat]
  omega

end GramadoKernel
