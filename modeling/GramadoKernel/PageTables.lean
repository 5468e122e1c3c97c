import GramadoKernel.Library.TableWalk
import GramadoKernel.Connections

namespace GramadoKernel

-- x64gpa.h, x64gva.h, paging.h. The three upper tables of the kernel lie where the
-- physical and the virtual address are the same.
def tablePointerHeapBase : UInt64 := 0x1000
def fatAddress : UInt64 := 0x30000
def kernelPdPa : UInt64 := 0x9A000
def kernelPdptPa : UInt64 := 0x9B000
def gKernelPml4Address : UInt64 := 0x9C000
def pageUser : UInt64 := 4
def pageMask : UInt64 := 0xFFFFFFFFF000

-- The words of the pages that can be page tables: the address of a page and the
-- index of an entry.
abbrev Memory := UInt64 → Nat → UInt64

-- What an entry points to, without its flags.
def target (entry : UInt64) : UInt64 := entry &&& pageMask

def pml4Index (va : UInt64) : Nat := ((va >>> 39) &&& 0x1FF).toNat
def pdptIndex (va : UInt64) : Nat := ((va >>> 30) &&& 0x1FF).toNat
def pdIndex (va : UInt64) : Nat := ((va >>> 21) &&& 0x1FF).toNat
def ptIndex (va : UInt64) : Nat := ((va >>> 12) &&& 0x1FF).toNat

-- __virtual_to_physical. The five parts of the address are always in their limits,
-- and the bit for a present page is not looked at.
def virtualToPhysical (memory : Memory) (va pml4 : UInt64) : Except Halt UInt64 := do
  require (pml4Index va = 0) (.panic "__virtual_to_physical: [TODO] a != 0 \n")
  require (pdptIndex va = 0) (.panic "__virtual_to_physical: [TODO] b != 0 \n")
  require (pml4 ≠ 0) (.panic "__virtual_to_physical: [FAIL] Invalid pml4_va\n")
  .ok (TableWalk.walk target memory pml4 [pml4Index va,pdptIndex va,pdIndex va,ptIndex va]+(va &&& 0xFFF))

-- The pages of tables, with table_pointer_heap_base.
structure Tables where
  memory : Memory
  heapBase : UInt64

def Tables.store (t : Tables) (page : UInt64) (i : Nat) (entry : UInt64) : Tables :=
  {t with memory := TableWalk.store t.memory page i entry}

def getTablePointerVa (t : Tables) : Except Halt (UInt64 × Tables) := do
  let t := {t with heapBase := t.heapBase+0x1000}
  require (t.heapBase < fatAddress) (.panic "get_table_pointer_va: [FIXME] Limits\n")
  .ok (t.heapBase,t)

-- A copy of the 512 entries of a table of the kernel.
def cloneKernelTable (source : UInt64) (zero : String) (t : Tables) : Except Halt (UInt64 × Tables) := do
  let (va,t) ← getTablePointerVa t
  require (va ≠ 0) (.panic zero)
  .ok (va,{t with memory := Function.update t.memory va (t.memory source)})

def cloneKernelPml4 (t : Tables) : Except Halt (UInt64 × Tables) := cloneKernelTable gKernelPml4Address "CloneKernelPML4: destAddressVA\n" t

def cloneKernelPdpt0 (t : Tables) : Except Halt (UInt64 × Tables) := cloneKernelTable kernelPdptPa "CloneKernelPDPT0: destAddressVA\n" t

def cloneKernelPd0 (t : Tables) : Except Halt (UInt64 × Tables) := cloneKernelTable kernelPdPa "CloneKernelPD0: destAddressVA\n" t

-- The entries of a page table for a region of 2 MB.
def filledPage (region flags : UInt64) (i : Nat) : UInt64 := region+UInt64.ofNat (4096*i) ||| flags

-- An entry is written without its flags first.
def Tables.link (t : Tables) (page : UInt64) (i : Nat) (address flags : UInt64) : Tables :=
  let t := t.store page i address
  t.store page i (t.memory page i ||| flags)

def mmFillPageTable (directory : UInt64) (entry : Int) (pt region flags : UInt64) (t : Tables) : Int × Tables :=
  if entry < 0 ∨ 512 ≤ entry then (-1,t)
  else
    let t := {t with memory := Function.update t.memory pt (filledPage region flags)}
    (0,t.link directory entry.toNat pt flags)

-- The tables that copy_process puts in the structure of the child.
structure ImageTables where
  pd0Va : UInt64
  pd0Pa : UInt64
  pdpt0Va : UInt64
  pdpt0Pa : UInt64

-- The page table for the image of the child and the directories over it, under the
-- copy of the PML4 that copy_process made when it began.
def installImage (pml4 imagePa : UInt64) (t : Tables) : Except Halt (ImageTables × Tables) := do
  let (ptVa,t) ← getTablePointerVa t
  require (ptVa ≠ 0) (.panic "copy_process: [FAIL] ptVA\n")
  let ptPa ← virtualToPhysical t.memory ptVa gKernelPml4Address
  let (pd0Va,t) ← cloneKernelPd0 t
  let pd0Pa ← virtualToPhysical t.memory pd0Va gKernelPml4Address
  require (pd0Va ≠ 0) (.panic "copy_process: child_process->pd0_VA==0\n")
  require (pd0Pa ≠ 0) (.panic "copy_process: child_process->pd0_PA==0\n")
  let index := pdIndex controlthreadBase
  let t := (mmFillPageTable pd0Va index ptVa imagePa 7 t).2
  let (pdpt0Va,t) ← cloneKernelPdpt0 t
  let pdpt0Pa ← virtualToPhysical t.memory pdpt0Va gKernelPml4Address
  require (pdpt0Va ≠ 0) (.panic "copy_process: child_process->pdpt0_VA==0\n")
  require (pdpt0Pa ≠ 0) (.panic "copy_process: child_process->pdpt0_PA==0\n")
  let t := t.link pd0Va index ptPa 7
  let t := t.link pdpt0Va 0 pd0Pa 7
  let t := t.link pml4 0 pdpt0Pa 7
  .ok (⟨pd0Va,pd0Pa,pdpt0Va,pdpt0Pa⟩,t)

section Bits

theorem target_toNat (entry : UInt64) : (target entry).toNat = entry.toNat % 2^48/4096*4096 := by
  have mask : pageMask.toNat = (2^36-1) <<< 12 := by decide
  unfold target
  rw [UInt64.toNat_and,mask,show (4096 : Nat) = 2^12 by rfl,← Nat.shiftRight_eq_div_pow,← Nat.shiftLeft_eq]
  apply Nat.eq_of_testBit_eq
  intro i
  simp only [Nat.testBit_and,Nat.testBit_shiftLeft,Nat.testBit_shiftRight,Nat.testBit_two_pow_sub_one,Nat.testBit_mod_two_pow]
  by_cases low : 12 ≤ i
  · have place : 12+(i-12) = i := by omega
    have below : (i-12 < 36) = (i < 48) := by
      apply propext
      omega
    simp only [low,place,below,decide_true,Bool.true_and,Bool.and_comm]
  · simp [low]

-- Where a page begins, in the 48 bits that an entry has for it.
def IsPage (address : UInt64) : Prop := target address = address

theorem isPage_iff {address : UInt64} : IsPage address ↔ address.toNat % 4096 = 0 ∧ address.toNat < 2^48 := by
  rw [IsPage,← UInt64.toNat_inj,target_toNat]
  omega

-- Flags are in the bits below the address.
theorem target_or {flags : UInt64} (low : flags.toNat < 4096) (entry : UInt64) : target (entry ||| flags) = target entry := by
  have none : flags.toNat &&& pageMask.toNat = 0 := by
    rw [← UInt64.toNat_and]
    change (target flags).toNat = 0
    rw [target_toNat]
    omega
  apply UInt64.toNat_inj.mp
  unfold target
  rw [UInt64.toNat_and,UInt64.toNat_or,Nat.and_or_distrib_right,none,Nat.or_zero,UInt64.toNat_and]

theorem target_flags (entry : UInt64) : target (entry ||| 7) = target entry := target_or (by decide) entry

theorem index_toNat (va shift : UInt64) : ((va >>> shift) &&& 0x1FF).toNat = va.toNat/2^(shift.toNat % 64) % 512 := by
  rw [UInt64.toNat_and,UInt64.toNat_shiftRight,Nat.shiftRight_eq_div_pow,show (0x1FF : UInt64).toNat = 2^9-1 by rfl,
    Nat.and_two_pow_sub_one_eq_mod]

theorem pml4Index_toNat (va : UInt64) : pml4Index va = va.toNat/2^39 % 512 := index_toNat va 39
theorem pdptIndex_toNat (va : UInt64) : pdptIndex va = va.toNat/2^30 % 512 := index_toNat va 30
theorem pdIndex_toNat (va : UInt64) : pdIndex va = va.toNat/2^21 % 512 := index_toNat va 21
theorem ptIndex_toNat (va : UInt64) : ptIndex va = va.toNat/2^12 % 512 := index_toNat va 12

theorem offset_toNat (va : UInt64) : (va &&& 0xFFF).toNat = va.toNat % 4096 := by
  rw [UInt64.toNat_and,show (0xFFF : UInt64).toNat = 2^12-1 by rfl,Nat.and_two_pow_sub_one_eq_mod]

-- The entry of a page that is in the 48 bits.
theorem target_filledPage {region : UInt64} {i : Nat} (page : IsPage region) (within : region.toNat+4096*i < 2^48) :
    target (filledPage region 7 i) = region+UInt64.ofNat (4096*i) := by
  have bounds := isPage_iff.mp page
  have sum : (region+UInt64.ofNat (4096*i)).toNat = region.toNat+4096*i := by
    rw [UInt64.toNat_add,UInt64.toNat_ofNat']
    omega
  unfold filledPage
  rw [target_flags]
  exact isPage_iff.mpr ⟨by omega,by omega⟩

end Bits

-- Addresses below 1 GB.
def Low (va : UInt64) : Prop := va.toNat < 2^30

theorem virtualToPhysical_low (memory : Memory) {va pml4 : UInt64} (low : Low va) (root : pml4 ≠ 0) : virtualToPhysical memory va pml4 =
    .ok (TableWalk.walk target memory pml4 [0,0,pdIndex va,ptIndex va]+(va &&& 0xFFF)) := by
  unfold Low at low
  have first : pml4Index va = 0 := by
    rw [pml4Index_toNat]
    omega
  have second : pdptIndex va = 0 := by
    rw [pdptIndex_toNat]
    omega
  simp only [virtualToPhysical,first,second,require,if_pos,root,ne_eq,not_false_eq_true]
  rfl

theorem Tables.link_memory (t : Tables) (page : UInt64) (i : Nat) (address flags : UInt64) (p : UInt64) (j : Nat) :
    (t.link page i address flags).memory p j = if p = page ∧ j = i then address ||| flags else t.memory p j := by
  simp only [Tables.link,Tables.store,TableWalk.store_apply]
  by_cases here : p = page ∧ j = i
  · simp [here]
  · simp [here]

-- The pages that get_table_pointer_va has still to hand out.
def Tables.Free (t : Tables) (page : UInt64) : Prop := t.heapBase < page ∧ page < fatAddress

-- The cells that virtual_to_physical reads for an address below 1 GB, and the page
-- that it comes to.
def reads (memory : Memory) (pml4 : UInt64) (d i : Nat) : List (UInt64 × Nat) := TableWalk.cells target memory pml4 [0,0,d,i]

def frame (memory : Memory) (pml4 : UInt64) (d i : Nat) : UInt64 := TableWalk.walk target memory pml4 [0,0,d,i]

theorem virtualToPhysical_ok {memory : Memory} {va pml4 result : UInt64} : virtualToPhysical memory va pml4 = .ok result ↔
    pml4Index va = 0 ∧ pdptIndex va = 0 ∧ pml4 ≠ 0 ∧ result = frame memory pml4 (pdIndex va) (ptIndex va)+(va &&& 0xFFF) := by
  simp only [virtualToPhysical,bind_ok,require_ok,Except.ok.injEq]
  constructor
  · rintro ⟨_,first,_,second,_,root,rfl⟩
    refine ⟨first,second,root,?_⟩
    rw [first,second]
    rfl
  · rintro ⟨first,second,root,rfl⟩
    refine ⟨(),first,(),second,(),root,?_⟩
    rw [first,second]
    rfl

-- No table of an address space is in a page that is still to be handed out.
def Sealed (t : Tables) (pml4 : UInt64) : Prop := ∀ d < 512, ∀ i < 512, ∀ cell ∈ reads t.memory pml4 d i, ¬ t.Free cell.1

-- Only pages that were free are written.
structure Apart (t t' : Tables) : Prop where
  base : t.heapBase ≤ t'.heapBase
  same : ∀ page i, ¬ t.Free page → t'.memory page i = t.memory page i

theorem Apart.refl (t : Tables) : Apart t t := ⟨UInt64.le_refl _,fun _ _ _ => rfl⟩

-- Further writes to free pages.
theorem Apart.page {t u : Tables} (apart : Apart t u) {page : UInt64} (free : t.Free page) (entries : Nat → UInt64) (base : UInt64)
    (later : u.heapBase ≤ base) : Apart t ⟨Function.update u.memory page entries,base⟩ := by
  refine ⟨UInt64.le_trans apart.base later,fun p i taken => ?_⟩
  have other : p ≠ page := fun same => taken (same ▸ free)
  simp only [Function.update_of_ne other]
  exact apart.same p i taken

theorem Apart.link {t u : Tables} (apart : Apart t u) {page : UInt64} (free : t.Free page) (i : Nat) (address flags : UInt64) :
    Apart t (u.link page i address flags) := by
  refine ⟨apart.base,fun p j taken => ?_⟩
  have other : ¬ (p = page ∧ j = i) := fun here => taken (here.1 ▸ free)
  rw [Tables.link_memory,if_neg other]
  exact apart.same p j taken

theorem Apart.frame {t t' : Tables} {pml4 : UInt64} {d i : Nat} (apart : Apart t t') (space : Sealed t pml4) (first : d < 512)
    (second : i < 512) : frame t'.memory pml4 d i = frame t.memory pml4 d i :=
  TableWalk.walk_same fun cell member => congrArg target (apart.same cell.1 cell.2 (space d first i second cell member))

theorem pdIndex_below (va : UInt64) : pdIndex va < 512 := by
  rw [pdIndex_toNat]
  exact Nat.mod_lt _ (by decide)

theorem ptIndex_below (va : UInt64) : ptIndex va < 512 := by
  rw [ptIndex_toNat]
  exact Nat.mod_lt _ (by decide)

-- virtual_to_physical looks at nothing but the frame, and only where the two upper
-- indices are 0.
theorem virtualToPhysical_frame {memory memory' : Memory} {va pml4 : UInt64} (same : pml4Index va = 0 → pdptIndex va = 0 →
    frame memory' pml4 (pdIndex va) (ptIndex va) = frame memory pml4 (pdIndex va) (ptIndex va)) :
    virtualToPhysical memory' va pml4 = virtualToPhysical memory va pml4 := by
  unfold virtualToPhysical require
  by_cases first : pml4Index va = 0
  · by_cases second : pdptIndex va = 0
    · have frames := same first second
      unfold frame at frames
      rw [first,second,frames]
    · simp only [if_pos first,if_neg second]
      rfl
  · simp only [if_neg first]
    rfl

theorem virtualToPhysical_same {memory memory' : Memory} {pml4 : UInt64}
    (same : ∀ d < 512, ∀ i < 512, frame memory' pml4 d i = frame memory pml4 d i) (va : UInt64) :
    virtualToPhysical memory' va pml4 = virtualToPhysical memory va pml4 :=
  virtualToPhysical_frame fun _ _ => same (pdIndex va) (pdIndex_below va) (ptIndex va) (ptIndex_below va)

-- The three upper tables of the kernel, and the identity of the pages that are still
-- to be handed out.
structure WellFormed (t : Tables) : Prop where
  page : IsPage t.heapBase
  pdpt : target (t.memory gKernelPml4Address 0) = kernelPdptPa
  pd : target (t.memory kernelPdptPa 0) = kernelPdPa
  identity : ∀ page, t.Free page → IsPage page → virtualToPhysical t.memory page gKernelPml4Address = .ok page
  kernel : Sealed t gKernelPml4Address

theorem getTablePointerVa_ok {t t' : Tables} {va : UInt64} : getTablePointerVa t = .ok (va,t') ↔
    va = t.heapBase+0x1000 ∧ va < fatAddress ∧ t' = {t with heapBase := va} := by
  simp only [getTablePointerVa,bind_ok,require_ok,Except.ok.injEq,Prod.mk.injEq]
  constructor
  · rintro ⟨_,below,rfl,rfl⟩
    exact ⟨rfl,below,rfl⟩
  · rintro ⟨rfl,below,rfl⟩
    exact ⟨(),below,rfl,rfl⟩

-- The n-th page that is still to be handed out.
def tablePage (t : Tables) (n : Nat) : UInt64 := t.heapBase+UInt64.ofNat (0x1000*n)

theorem tablePage_toNat {t : Tables} (page : IsPage t.heapBase) {n : Nat} (few : n < 5) :
    (tablePage t n).toNat = t.heapBase.toNat+4096*n := by
  have bounds := isPage_iff.mp page
  rw [tablePage,UInt64.toNat_add,UInt64.toNat_ofNat']
  omega

theorem tablePage_isPage {t : Tables} (page : IsPage t.heapBase) {n : Nat} (few : n < 5) (below : tablePage t n < fatAddress) :
    IsPage (tablePage t n) := by
  have bounds := isPage_iff.mp page
  have place := tablePage_toNat page few
  rw [UInt64.lt_iff_toNat_lt,place] at below
  have limit : fatAddress.toNat = 0x30000 := rfl
  exact isPage_iff.mpr ⟨by omega,by omega⟩

theorem tablePage_free {t : Tables} (page : IsPage t.heapBase) {n : Nat} (some : 0 < n) (few : n < 5) (below : tablePage t n < fatAddress) :
    t.Free (tablePage t n) := by
  refine ⟨?_,below⟩
  rw [UInt64.lt_iff_toNat_lt,tablePage_toNat page few]
  omega

theorem cloneKernelTable_ok {source va : UInt64} {zero : String} {t t' : Tables} (cloned : cloneKernelTable source zero t = .ok (va,t')) :
    va = t.heapBase+0x1000 ∧ va < fatAddress ∧ t' = ⟨Function.update t.memory va (t.memory source),va⟩ := by
  simp only [cloneKernelTable,bind_ok,require_ok,Except.ok.injEq,Prod.mk.injEq] at cloned
  obtain ⟨⟨page,u⟩,taken,_,_,rfl,rfl⟩ := cloned
  obtain ⟨place,below,rfl⟩ := getTablePointerVa_ok.mp taken
  exact ⟨place,below,rfl⟩

theorem WellFormed.identical {t u : Tables} (formed : WellFormed t) (apart : Apart t u) {page : UInt64} (free : t.Free page)
    (place : IsPage page) : virtualToPhysical u.memory page gKernelPml4Address = .ok page := by
  rw [virtualToPhysical_same (fun d first i second => apart.frame formed.kernel first second)]
  exact formed.identity page free place

-- What the installation of an image leaves.
structure Installed (t : Tables) (pml4 imagePa : UInt64) (r : ImageTables) (t' : Tables) : Prop where
  below : tablePage t 3 < fatAddress
  tables : r = ⟨tablePage t 2,tablePage t 2,tablePage t 3,tablePage t 3⟩
  base : t'.heapBase = tablePage t 3
  pt : ∀ i, t'.memory (tablePage t 1) i = filledPage imagePa 7 i
  pd : ∀ d, t'.memory (tablePage t 2) d = if d = 1 then tablePage t 1 ||| 7 else t.memory kernelPdPa d
  pdpt : t'.memory (tablePage t 3) 0 = tablePage t 2 ||| 7
  root : t'.memory pml4 0 = tablePage t 3 ||| 7
  same : ∀ page i, ¬ t.Free page → (page,i) ≠ (pml4,0) → t'.memory page i = t.memory page i

theorem tablePage_apart {t : Tables} (page : IsPage t.heapBase) {n m : Nat} (few : n < 5) (also : m < 5) (different : n ≠ m) :
    tablePage t n ≠ tablePage t m := by
  intro same
  have first := tablePage_toNat page few
  have second := tablePage_toNat page also
  rw [same] at first
  omega

theorem tablePage_before {t : Tables} (page : IsPage t.heapBase) {n m : Nat} (few : m < 5) (before : n ≤ m) (below : tablePage t m < fatAddress) :
    tablePage t n < fatAddress := by
  rw [UInt64.lt_iff_toNat_lt,tablePage_toNat page few] at below
  rw [UInt64.lt_iff_toNat_lt,tablePage_toNat page (by omega)]
  omega

theorem tablePage_le {t : Tables} (page : IsPage t.heapBase) {n m : Nat} (few : m < 5) (before : n ≤ m) : tablePage t n ≤ tablePage t m := by
  rw [UInt64.le_iff_toNat_le,tablePage_toNat page (by omega),tablePage_toNat page few]
  omega

theorem mmFillPageTable_memory (directory pt region flags : UInt64) {n : Nat} (few : n < 512) (t : Tables) :
    (mmFillPageTable directory n pt region flags t).2 =
      (⟨Function.update t.memory pt (filledPage region flags),t.heapBase⟩ : Tables).link directory n pt flags := by
  unfold mmFillPageTable
  rw [if_neg (by omega)]
  rfl

theorem tablePage_next (t : Tables) (n : Nat) : tablePage t n+0x1000 = tablePage t (n+1) := by
  unfold tablePage
  rw [UInt64.add_assoc,Nat.mul_add,UInt64.ofNat_add]
  rfl

theorem installImage_ok {t t' : Tables} {pml4 imagePa : UInt64} {r : ImageTables} (formed : WellFormed t) (root : ¬ t.Free pml4)
    (installed : installImage pml4 imagePa t = .ok (r,t')) : Installed t pml4 imagePa r t' := by
  have index : pdIndex controlthreadBase = 1 := by decide
  simp only [installImage,index,mmFillPageTable_memory _ _ _ _ (show 1 < 512 by decide),bind_ok,require_ok,Except.ok.injEq,
    Prod.mk.injEq] at installed
  obtain ⟨⟨ptVa,t1⟩,first,_,_,ptPa,ptAt,⟨pd0Va,t2⟩,second,pd0Pa,pd0At,_,_,_,_,⟨pdpt0Va,t3⟩,third,pdpt0Pa,pdpt0At,_,_,_,_,rfl,rfl⟩ := installed
  obtain ⟨ptPlace,_,rfl⟩ := getTablePointerVa_ok.mp first
  obtain ⟨pdPlace,_,rfl⟩ := cloneKernelTable_ok second
  obtain ⟨pdptPlace,below,rfl⟩ := cloneKernelTable_ok third
  -- The three pages are the next three.
  obtain rfl : ptVa = tablePage t 1 := ptPlace
  obtain rfl : pd0Va = tablePage t 2 := pdPlace.trans (tablePage_next t 1)
  obtain rfl : pdpt0Va = tablePage t 3 := pdptPlace.trans (tablePage_next t 2)
  have page := formed.page
  have below2 := tablePage_before page (n := 2) (by decide) (by decide) below
  have below1 := tablePage_before page (n := 1) (by decide) (by decide) below
  have free1 := tablePage_free page (by decide) (by decide) below1
  have free2 := tablePage_free page (by decide) (by decide) below2
  have free3 := tablePage_free page (by decide) (by decide) below
  have step1 : Apart t ⟨t.memory,tablePage t 1⟩ := ⟨UInt64.le_of_lt free1.1,fun _ _ _ => rfl⟩
  have step2 : Apart t ⟨Function.update t.memory (tablePage t 2) (t.memory kernelPdPa),tablePage t 2⟩ :=
    step1.page free2 _ _ (tablePage_le page (by decide) (by decide))
  have filled := (step2.page free1 (filledPage imagePa 7) _ (UInt64.le_refl _)).link free2 1 (tablePage t 1) 7
  have step3 := fun entries => filled.page free3 entries (tablePage t 3) (tablePage_le page (by decide) (by decide))
  obtain rfl : ptPa = tablePage t 1 :=
    Except.ok.inj (ptAt.symm.trans (formed.identical step1 free1 (tablePage_isPage page (by decide) below1)))
  obtain rfl : pd0Pa = tablePage t 2 :=
    Except.ok.inj (pd0At.symm.trans (formed.identical step2 free2 (tablePage_isPage page (by decide) below2)))
  obtain rfl : pdpt0Pa = tablePage t 3 :=
    Except.ok.inj (pdpt0At.symm.trans (formed.identical (step3 _) free3 (tablePage_isPage page (by decide) below)))
  have apart12 : tablePage t 1 ≠ tablePage t 2 := tablePage_apart page (by decide) (by decide) (by decide)
  have apart13 : tablePage t 1 ≠ tablePage t 3 := tablePage_apart page (by decide) (by decide) (by decide)
  have apart23 : tablePage t 2 ≠ tablePage t 3 := tablePage_apart page (by decide) (by decide) (by decide)
  have root1 : tablePage t 1 ≠ pml4 := fun same => root (same ▸ free1)
  have root2 : tablePage t 2 ≠ pml4 := fun same => root (same ▸ free2)
  have root3 : tablePage t 3 ≠ pml4 := fun same => root (same ▸ free3)
  refine ⟨below,rfl,rfl,?_,?_,?_,?_,?_⟩
  · intro i
    simp [Tables.link_memory,root1,apart12,apart13]
  · intro d
    by_cases window : d = 1
    · simp [Tables.link_memory,root2,apart23,window]
    · simp [Tables.link_memory,root2,apart23,apart12.symm,window]
  · simp [Tables.link_memory,root3]
  · simp [Tables.link_memory]
  · intro p i taken other
    have other1 : p ≠ tablePage t 1 := fun same => taken (same ▸ free1)
    have other2 : p ≠ tablePage t 2 := fun same => taken (same ▸ free2)
    have other3 : p ≠ tablePage t 3 := fun same => taken (same ▸ free3)
    have kept : ¬ (p = pml4 ∧ i = 0) := fun here => other (Prod.ext here.1 here.2)
    simp [Tables.link_memory,other1,other2,other3,kept]

end GramadoKernel
