import GramadoKernel.MapRuns

namespace GramadoKernel

-- The first megabytes, with the page tables and the image of the kernel, and the memory of
-- its modules.
def KernelMemory (pa : UInt64) : Prop :=
  pa.toNat < kernelimage.block.pa.toNat+2^21 ∨ extraheap1.block.pa.toNat ≤ pa.toNat ∧ pa.toNat < extraheap1.block.pa.toNat+2^21

theorem kernelMemory_iff {pa : UInt64} : KernelMemory pa ↔ pa.toNat < 0x300000 ∨ 0x1200000 ≤ pa.toNat ∧ pa.toNat < 0x1400000 := Iff.rfl

-- A page belongs to the memory of the kernel as a whole.
theorem kernelMemory_offset {entry va : UInt64} : KernelMemory (target entry+(va &&& 0xFFF)) ↔ KernelMemory (target entry) := by
  rw [kernelMemory_iff,kernelMemory_iff,framed_toNat,target_toNat]
  omega

def userRead : Access := ⟨false,true⟩

-- Who may write from ring 3 may read.
theorem Access.Allowed.read {kind : Access} {entry : UInt64} (user : kind.user = true) (allowed : kind.Allowed entry) : userRead.Allowed entry := by
  have bits : kind.bits &&& userRead.bits = userRead.bits := by
    obtain ⟨write,_⟩ := kind
    cases user
    cases write <;> decide
  unfold Access.Allowed at *
  rw [← bits,← UInt64.and_assoc,allowed]

-- A page that is in use, and can be told from page 0.
structure Occupied (t : Tables) (page : UInt64) : Prop where
  place : IsPage page
  closed : ¬ t.Free page
  some : page ≠ 0

-- No address leads a reader in ring 3 to the memory of the kernel, by tables that nothing
-- else will be written to.
def Shielded (t : Tables) (pml4 : UInt64) : Prop :=
  ∀ va, TableWalk.Along target userRead.Allowed t.memory (fun page _ => ¬ t.Free page ∧ page ≠ 0) (fun page => ¬ KernelMemory page) pml4
    (tablePath va)

-- What the user may read in the blocks of a map.
def UserClear (map : Nat → Option Block) : Prop :=
  ∀ d block, map d = some block → userRead.Allowed block.flags → ∀ i < 512, ¬ KernelMemory (target (block.pa+UInt64.ofNat (4096*i)))

section Tables

variable {t t' : Tables} {map : Nat → Option Block} {pml4 pdpt pd : UInt64}

theorem TablePage.occupied {page : UInt64} (table : TablePage t page) : Occupied t page := ⟨table.place,table.closed,table.some⟩

theorem kernelTable_occupied (t : Tables) {page : UInt64} (place : IsPage page) (above : fatAddress ≤ page) : Occupied t page := by
  refine ⟨place,kernelTable_taken t above,?_⟩
  rintro rfl
  exact absurd above (by decide)

theorem Shielded.written (shielded : Shielded t pml4) (writes : Writes t t') : Shielded t' pml4 := by
  intro va
  refine (shielded va).carried (fun page i cell => ?_) fun _ clear => clear
  obtain ⟨closed,some⟩ := cell
  refine ⟨⟨fun free => closed (writes.free free),some⟩,.inl ?_⟩
  rcases writes.same page i closed with same | ⟨null,_⟩
  · exact same
  · exact absurd (Prod.mk.inj null).1 some

-- The user may not read what a device is mapped to.
theorem Shielded.device {pt pa va : UInt64} {u : Tables} (shielded : Shielded t pml4) (base : IsPage t.heapBase)
    (taken : getTablePointerVa t = .ok (pt,u)) :
    Shielded (mmFillPageTable kernelPdPa (x64GetPdeIndex va) pt pa 0x1B u).2 pml4 := by
  obtain ⟨place,below,rfl⟩ := getTablePointerVa_ok.mp taken
  obtain rfl : pt = tablePage t 1 := place
  have free := tablePage_free base (n := 1) (by decide) (by decide) below
  have page := tablePage_isPage base (n := 1) (by decide) below
  rw [x64GetPdeIndex_eq,mmFillPageTable_memory _ _ _ _ (pdIndex_below va)]
  intro x
  refine (shielded x).carried (fun p i cell => ?_) fun _ clear => clear
  obtain ⟨closed,some⟩ := cell
  refine ⟨⟨fun later => closed ⟨UInt64.lt_trans free.1 later.1,later.2⟩,some⟩,?_⟩
  rw [Tables.link_memory]
  by_cases here : p = kernelPdPa ∧ i = pdIndex va
  · rw [if_pos here,allowed_page page]
    exact .inr (by unfold Access.Allowed; decide)
  · have other : p ≠ tablePage t 1 := fun same => closed (same ▸ free)
    rw [if_neg here]
    dsimp only
    rw [Function.update_of_ne other]
    exact .inl rfl

-- An address space by its directory.
theorem upper_shielded (root : Occupied t pml4) (middle : Occupied t pdpt) (directory : Occupied t pd)
    (first : ∀ a, t.memory pml4 a = if a = 0 then pdpt ||| 7 else pageWrite)
    (second : ∀ b, t.memory pdpt b = if b = 0 then pd ||| 7 else pageWrite)
    (tables : ∀ d, ∀ i < 512, userRead.Allowed (t.memory pd d) → TableWalk.Along target userRead.Allowed t.memory
      (fun page _ => ¬ t.Free page ∧ page ≠ 0) (fun page => ¬ KernelMemory page) (target (t.memory pd d)) [i]) : Shielded t pml4 := by
  intro va
  refine ⟨⟨root.closed,root.some⟩,fun allowed => ?_⟩
  rw [first] at allowed ⊢
  split
  · rw [target_flags,show target pdpt = pdpt from middle.place]
    refine ⟨⟨middle.closed,middle.some⟩,fun allowed => ?_⟩
    rw [second] at allowed ⊢
    split
    · rw [target_flags,show target pd = pd from directory.place]
      exact ⟨⟨directory.closed,directory.some⟩,tables _ _ (ptIndex_below va)⟩
    · rename_i other
      rw [if_neg other] at allowed
      exact absurd allowed (not_allowed_cleared _)
  · rename_i other
    rw [if_neg other] at allowed
    exact absurd allowed (not_allowed_cleared _)

theorem KernelMapped.directory (mapped : KernelMapped map t) (clear : UserClear map) {d i : Nat} (few : i < 512)
    (allowed : userRead.Allowed (t.memory kernelPdPa d)) : TableWalk.Along target userRead.Allowed t.memory
      (fun page _ => ¬ t.Free page ∧ page ≠ 0) (fun page => ¬ KernelMemory page) (target (t.memory kernelPdPa d)) [i] := by
  cases entry : map d with
  | none =>
      rw [mapped.absent d entry] at allowed
      exact absurd allowed (not_allowed_cleared _)
  | some block =>
      obtain ⟨pt,table,pd,entries⟩ := mapped.mapped d block entry
      rw [pd,allowed_page table.place] at allowed
      rw [pd,target_or block.low,show target pt = pt from table.place]
      refine ⟨⟨table.closed,table.some⟩,fun _ => ?_⟩
      rw [entries]
      change ¬ KernelMemory (target (filledPage block.pa block.flags i))
      unfold filledPage
      rw [target_or block.low]
      exact clear d block entry allowed i few

-- The kernel's own address space, and a copy of its first table.
theorem KernelMapped.shielded (mapped : KernelMapped map t) (clear : UserClear map) (root : Occupied t pml4)
    (copied : ∀ a, t.memory pml4 a = t.memory gKernelPml4Address a) : Shielded t pml4 := by
  have middle := kernelTable_occupied t (isPage_iff.mpr (by decide)) (show fatAddress ≤ kernelPdptPa by decide)
  have directory := kernelTable_occupied t (isPage_iff.mpr (by decide)) (show fatAddress ≤ kernelPdPa by decide)
  exact upper_shielded root middle directory (fun a => (copied a).trans (mapped.root a)) mapped.pdpt fun _ _ few => mapped.directory clear few

-- The entries of the second table of a clone that are not its own.
theorem installImage_pdpt {imagePa : UInt64} {r : ImageTables} (formed : WellFormed t) (root : ¬ t.Free pml4)
    (installed : installImage pml4 imagePa t = .ok (r,t')) {b : Nat} (other : b ≠ 0) :
    t'.memory (tablePage t 3) b = t.memory kernelPdptPa b := by
  have index : pdIndex controlthreadBase = 1 := by decide
  simp only [installImage,index,mmFillPageTable_memory _ _ _ _ (show 1 < 512 by decide),bind_ok,require_ok,Except.ok.injEq,
    Prod.mk.injEq] at installed
  obtain ⟨⟨ptVa,t1⟩,first,_,_,ptPa,ptAt,⟨pd0Va,t2⟩,second,pd0Pa,pd0At,_,_,_,_,⟨pdpt0Va,t3⟩,third,pdpt0Pa,pdpt0At,_,_,_,_,rfl,rfl⟩ := installed
  obtain ⟨ptPlace,_,rfl⟩ := getTablePointerVa_ok.mp first
  obtain ⟨pdPlace,_,rfl⟩ := cloneKernelTable_ok second
  obtain ⟨pdptPlace,below,rfl⟩ := cloneKernelTable_ok third
  obtain rfl : ptVa = tablePage t 1 := ptPlace
  obtain rfl : pd0Va = tablePage t 2 := pdPlace.trans (tablePage_next t 1)
  obtain rfl : pdpt0Va = tablePage t 3 := pdptPlace.trans (tablePage_next t 2)
  have page := formed.page
  have below2 := tablePage_before page (n := 2) (by decide) (by decide) below
  have below1 := tablePage_before page (n := 1) (by decide) (by decide) below
  have free1 := tablePage_free page (by decide) (by decide) below1
  have free2 := tablePage_free page (by decide) (by decide) below2
  have free3 := tablePage_free page (by decide) (by decide) below
  have apart23 : tablePage t 3 ≠ tablePage t 2 := tablePage_apart page (by decide) (by decide) (by decide)
  have root3 : tablePage t 3 ≠ pml4 := fun same => root (same ▸ free3)
  have kernel : ∀ n, t.Free (tablePage t n) → kernelPdptPa ≠ tablePage t n := fun n free same =>
    kernelTable_taken t (show fatAddress ≤ kernelPdptPa by decide) (same ▸ free)
  have directory : kernelPdptPa ≠ tablePage t 2 := kernel 2 free2
  simp [Tables.link_memory,root3,apart23,other,directory,kernel 1 free1]

end Tables

section Pools

variable {s t : System}

theorem KeepsPools.refl (s : System) : KeepsPools s s := ⟨rfl,rfl⟩

theorem KeepsPools.trans {u : System} (one : KeepsPools s t) (two : KeepsPools t u) : KeepsPools s u :=
  ⟨two.slab.trans one.slab,two.pool.trans one.pool⟩

theorem slab1MbAllocator_pools {base : UInt64} (taken : slab1MbAllocator s = .ok (base,t)) :
    KeepsPools s t ∧ (base = 0 ∨ ∃ i < 4, base = s.newPagedPool.block i) := by
  unfold slab1MbAllocator at taken
  split at taken
  · cases taken
    exact ⟨.refl s,.inl rfl⟩
  · obtain ⟨_,_,taken⟩ := bind_ok.mp taken
    split at taken
    · cases taken
      exact ⟨.refl s,.inl rfl⟩
    · rename_i i found
      cases taken
      exact ⟨⟨rfl,rfl⟩,.inr ⟨i,List.mem_range.mp (List.mem_of_find?_eq_some found),rfl⟩⟩

theorem mmAllocPages_pools {page : Nat → Bool} {conductor : Option Nat} {size : Int} {va : UInt64}
    (taken : mmAllocPages page conductor size s = .ok (va,t)) : KeepsPools s t ∧ ∃ n < pageCountMax, va = pageAddress s.pool.base n := by
  obtain ⟨⟨_,pool⟩,allocated,taken⟩ := bind_ok.mp taken
  cases taken
  obtain ⟨first,inside,some,filled,place⟩ := allocPages_filled allocated
  exact ⟨⟨rfl,filled.base⟩,first,by omega,place⟩

-- Images come from the slab or from the page pool.
theorem imageBase_pools {supply : CloneSupply} {base : UInt64} (taken : imageBase supply s = .ok (base,t)) :
    KeepsPools s t ∧ ((∃ i < 4, base = s.newPagedPool.block i) ∨ ∃ n < pageCountMax, base = pageAddress s.pool.base n) := by
  obtain ⟨⟨first,u⟩,slab,taken⟩ := bind_ok.mp taken
  obtain ⟨kept,place⟩ := slab1MbAllocator_pools slab
  simp only at taken
  split at taken
  · obtain ⟨pages,n,few,pool⟩ := mmAllocPages_pools taken
    exact ⟨kept.trans pages,.inr ⟨n,few,kept.pool ▸ pool⟩⟩
  · rename_i found
    cases taken
    exact ⟨kept,.inl (place.resolve_left found)⟩

theorem allocMemory_pools {supply : CloneSupply} {pid : Nat} {status : Int} (taken : allocMemoryForImageAndStack supply pid s = .ok (status,t)) :
    KeepsPools s t := by
  simp only [allocMemoryForImageAndStack,bind_ok,require_ok,pointer_ok] at taken
  obtain ⟨_,_,_,_,⟨_,u⟩,image,_,_,⟨_,v⟩,pages,_,_,_,_,_,_,_,_,taken⟩ := taken
  have kept := (imageBase_pools image).1.trans (mmAllocPages_pools pages).1
  simp only at taken
  split at taken
  · cases taken
    exact kept
  · cases taken
    exact ⟨kept.slab,kept.pool⟩

theorem copyParts_pools {supply : CloneSupply} {parent thread child clone : Nat} (copied : copyParts supply parent thread child s = .ok (clone,t)) :
    KeepsPools s t := by
  simp only [copyParts,bind_ok,require_ok] at copied
  obtain ⟨⟨_,u⟩,taken,_,_,⟨_,p⟩,_,_,_,⟨_,k⟩,_,_,_,_,_,copied⟩ := copied
  cases copied
  have kept := allocMemory_pools taken
  exact ⟨kept.slab,kept.pool⟩

theorem finishClone_pools {supply : CloneSupply} {thread child clone : Nat} (finished : finishClone supply thread child clone s = .ok t) :
    KeepsPools s t := by
  simp only [finishClone,bind_ok,require_ok,Except.ok.injEq] at finished
  obtain ⟨_,_,_,_,_,_,_,_,_,_,rfl⟩ := finished
  exact ⟨rfl,rfl⟩

theorem adopted_pools {supply : CloneSupply} {pid : Int} {parent thread child clone : Nat} {pml4 : UInt64} {tables : Tables} {a b u v : System}
    (threads : checkThread pid parent (s.cloning tables) = .ok (thread,a))
    (created : createAndInitializeProcessObject supply a = .ok (some child,b)) (adopted : adoptTables pid parent child pml4 b = .ok u)
    (copied : copyParts supply parent thread child u = .ok (clone,v)) : KeepsPools s v := by
  obtain ⟨_,blocksA,pagesA,_⟩ := checkThread_ok threads
  have fresh := createAndInitializeProcessObject_ok created
  obtain ⟨_,_,blocksU,pagesU,_⟩ := adoptTables_ok adopted
  have before : KeepsPools s u := by
    refine ⟨?_,?_⟩
    · rw [blocksU,fresh.blocks,blocksA]
      rfl
    · rw [pagesU,fresh.pages,pagesA]
      rfl
  exact before.trans (copyParts_pools copied)

theorem copyProcess_pools {supply : CloneSupply} {filename : Option String} {pid rv : Int} {cloneFlags : UInt64}
    (done : copyProcess supply filename pid cloneFlags s = .ok (rv,t)) : KeepsPools s t := by
  cases copyProcess_cases done with
  | refused => exact ⟨rfl,rfl⟩
  | orphan => exact ⟨rfl,rfl⟩
  | childless plain root parents threads created =>
      obtain ⟨rfl,_⟩ := createAndInitializeProcessObject_none created
      obtain ⟨_,blocks,pages,_⟩ := checkThread_ok threads
      exact ⟨congrArg NewPagedPool.block blocks,congrArg PagePool.base pages⟩
  | unloaded plain root parents threads created adopted copied =>
      have kept := adopted_pools threads created adopted copied
      exact ⟨kept.slab,kept.pool⟩
  | made plain root parents threads created adopted copied finished =>
      exact (adopted_pools threads created adopted copied).trans (finishClone_pools finished)

end Pools

theorem pagedpoolAddress_toNat {n : Nat} (few : n < pageCountMax) : (pageAddress pagedpoolVa n).toNat = 0x30600000+n*4096 := by
  unfold pageCountMax at few
  have small : ((n : Int)*pageSize % 2^64).toNat = n*4096 := by
    unfold pageSize
    omega
  unfold pageAddress UInt64.ofInt
  rw [UInt64.toNat_add,small,UInt64.toNat_ofNat',show pagedpoolVa.toNat = 0x30600000 by rfl]
  omega

-- The regions that images are taken from.
theorem image_region {supply : CloneSupply} {s t : System} {base : UInt64} (slab : s.newPagedPool.block = bootSlab.block)
    (pool : s.pool.base = pagedpoolVa) (taken : imageBase supply s = .ok (base,t)) : ∃ r ∈ [pagedpool,extraheap2,extraheap3], r.Holds base := by
  rcases (imageBase_pools taken).2 with ⟨i,few,rfl⟩ | ⟨n,few,rfl⟩
  · rw [slab]
    have cases : i = 0 ∨ i = 1 ∨ i = 2 ∨ i = 3 := by omega
    rcases cases with rfl | rfl | rfl | rfl
    · exact ⟨extraheap2,by simp,by unfold Region.Holds; decide⟩
    · exact ⟨extraheap2,by simp,by unfold Region.Holds; decide⟩
    · exact ⟨extraheap3,by simp,by unfold Region.Holds; decide⟩
    · exact ⟨extraheap3,by simp,by unfold Region.Holds; decide⟩
  · refine ⟨pagedpool,by simp,?_⟩
    have below : n < 512 := few
    rw [Region.Holds,pool,pagedpoolAddress_toNat few,show pagedpool.va.toNat = 0x30600000 by rfl]
    omega

section Secure

variable {gSavedLfb : UInt64} {s t : System} {map : Nat → Option Block}

-- The map still has the regions that the kernel starts with, and the user may read no others.
structure KeepsRegions (gSavedLfb : UInt64) (map : Nat → Option Block) : Prop where
  kept : ∀ r ∈ canonicalRegions gSavedLfb, map (pdIndex r.va) = some r.block
  users : ∀ d block, map d = some block → userRead.Allowed block.flags → ∃ r ∈ canonicalRegions gSavedLfb, r.block = block

-- The 2 MB behind the start of an image are not the kernel's.
theorem image_clear {supply : CloneSupply} {base pa : UInt64} (mapped : KernelMapped map s.tables) (keeps : KeepsRegions gSavedLfb map)
    (slab : s.newPagedPool.block = bootSlab.block) (pool : s.pool.base = pagedpoolVa) (taken : imageBase supply s = .ok (base,t))
    (physical : s.physical base = .ok pa) {i : Nat} (few : i < 512) : ¬ KernelMemory (target (pa+UInt64.ofNat (4096*i))) := by
  obtain ⟨r,member,holds⟩ := image_region slab pool taken
  have regions : ∀ r ∈ [pagedpool,extraheap2,extraheap3], r.va.toNat < 0x40000000 ∧ 0x1400000 ≤ r.block.pa.toNat ∧ r.block.pa.toNat ≤ 0x1800000 ∧
      r.block.pa.toNat % 4096 = 0 := by decide +kernel
  have canonical : r ∈ canonicalRegions gSavedLfb := by
    simp only [List.mem_cons,List.not_mem_nil,or_false] at member
    rcases member with rfl | rfl | rfl <;> simp [canonicalRegions]
  obtain ⟨low,above,below,aligned⟩ := regions r member
  obtain ⟨_,index⟩ := (holds_iff (show r.va.toNat < 2^30 by omega)).mp holds
  obtain ⟨_,_,_,rfl⟩ := virtualToPhysical_ok.mp physical
  rw [mapped.frame (index ▸ keeps.kept r canonical)]
  have place : (r.block.place base).toNat = _ := r.block.place_toNat base
  rw [kernelMemory_iff,target_toNat,UInt64.toNat_add,UInt64.toNat_ofNat',show target (r.block.pa+UInt64.ofNat (4096*ptIndex base))+(base &&& 0xFFF) =
    r.block.place base from rfl,place]
  omega

-- The frame buffer is outside the memory of the kernel, and within the 48 bits of an entry.
structure OffKernel (gSavedLfb : UInt64) : Prop where
  above : 0x300000 ≤ gSavedLfb.toNat
  within : gSavedLfb.toNat+0x200000 ≤ 2^48
  apart : gSavedLfb.toNat+0x200000 ≤ 0x1200000 ∨ 0x1400000 ≤ gSavedLfb.toNat

theorem KeepsRegions.clear (keeps : KeepsRegions gSavedLfb map) (off : OffKernel gSavedLfb) : UserClear map := by
  intro d block entry allowed i few
  obtain ⟨r,member,rfl⟩ := keeps.users d block entry allowed
  have denied : ¬ userRead.Allowed (pageWrite ||| pagePresent) := by
    unfold Access.Allowed
    decide
  have system : ∀ pa, ¬ userRead.Allowed (systemBlock pa).flags := fun _ => denied
  have size := gSavedLfb.toNat_lt
  obtain ⟨above,within,apart⟩ := off
  simp only [canonicalRegions,List.mem_cons,List.not_mem_nil,or_false] at member
  rw [kernelMemory_iff,target_toNat,UInt64.toNat_add,UInt64.toNat_ofNat']
  rcases member with rfl | rfl | rfl | rfl | rfl | rfl | rfl | rfl | rfl | rfl
  · exact absurd allowed (system _)
  · rw [show ring3area.block.pa.toNat = 0x2000000 by rfl]
    omega
  · exact absurd allowed (system _)
  · rw [show (frontbuffer gSavedLfb).block.pa = gSavedLfb by rfl]
    omega
  · rw [show backbuffer.block.pa.toNat = 0x4000000 by rfl]
    omega
  · rw [show pagedpool.block.pa.toNat = 0x1800000 by rfl]
    omega
  · rw [show heappool.block.pa.toNat = 0x1000000 by rfl]
    omega
  · exact absurd allowed (system _)
  · rw [show extraheap2.block.pa.toNat = 0x1400000 by rfl]
    omega
  · rw [show extraheap3.block.pa.toNat = 0x1600000 by rfl]
    omega

theorem KeepsRegions.first (keeps : KeepsRegions gSavedLfb map) : map 0 = some ring0area.block := keeps.kept ring0area List.mem_cons_self

-- A copy of the first table of the kernel, in a new page.
theorem cloneKernelPml4_shielded {tables tables' : Tables} {pml4 : UInt64} (mapped : KernelMapped map tables) (clear : UserClear map)
    (copied : cloneKernelPml4 tables = .ok (pml4,tables')) : Occupied tables' pml4 ∧ Shielded tables' pml4 := by
  obtain ⟨writes,base,limit⟩ := cloneKernelPml4_writes mapped.base copied
  have after := mapped.written writes base limit
  obtain ⟨place,below,rfl⟩ := cloneKernelTable_ok copied
  obtain rfl : pml4 = tablePage tables 1 := place
  have free := tablePage_free mapped.base (n := 1) (by decide) (by decide) below
  have root : Occupied ⟨Function.update tables.memory (tablePage tables 1) (tables.memory gKernelPml4Address),tablePage tables 1⟩
      (tablePage tables 1) :=
    ⟨base,fun again => absurd again.1 (UInt64.lt_irrefl _),fun zero => zero_closed tables (zero ▸ free)⟩
  have kernel : gKernelPml4Address ≠ tablePage tables 1 := fun same =>
    kernelTable_taken tables (show fatAddress ≤ gKernelPml4Address by decide) (same ▸ free)
  refine ⟨root,after.shielded clear root fun a => ?_⟩
  dsimp only
  rw [Function.update_self,Function.update_of_ne kernel]

-- The address space of a clone: the window is its image, and all else is the kernel's.
theorem Cloned.shielded {supply : CloneSupply} {child : Nat} {u : System} (cloned : Cloned supply s child u t) (mapped : KernelMapped map s.tables)
    (keeps : KeepsRegions gSavedLfb map) (off : OffKernel gSavedLfb) (slab : s.newPagedPool.block = bootSlab.block)
    (pool : s.pool.base = pagedpoolVa) : Shielded t.tables (t.info child).pml4Va := by
  have formed := mapped.formed keeps.first rfl
  have tables := cloned.tables formed
  obtain ⟨made,installs⟩ := cloned.installed
  have installed := installImage_ok tables.formed tables.taken installs
  obtain ⟨first,copied,before⟩ := cloned.root
  obtain ⟨writes,base,limit⟩ := cloneKernelPml4_writes mapped.base copied
  obtain ⟨root,_⟩ := cloneKernelPml4_shielded mapped (keeps.clear off) copied
  have mappedU : KernelMapped map u.tables := by
    rw [before]
    exact mapped.written (writes.trans (.null _)) base limit
  have mappedT : KernelMapped map t.tables := mapped.written tables.writes tables.page (installed.base ▸ installed.below)
  have page := mappedU.base
  have pages : ∀ n, 0 < n → n ≤ 3 → Occupied t.tables (tablePage u.tables n) := by
    intro n some few
    have below := tablePage_before page (show 3 < 5 by decide) few installed.below
    have free := tablePage_free page some (show n < 5 by omega) below
    refine ⟨tablePage_isPage page (by omega) below,fun again => ?_,fun zero => zero_closed u.tables (zero ▸ free)⟩
    rw [Tables.Free,installed.base] at again
    exact absurd again.1 (UInt64.not_lt.mpr (tablePage_le page (by decide) few))
  have own : Occupied t.tables (t.info child).pml4Va := by
    have later : u.tables.heapBase ≤ t.tables.heapBase := by
      rw [installed.base]
      exact UInt64.le_of_lt (tablePage_free page (by decide) (by decide) installed.below).1
    exact ⟨root.place,fun again => tables.taken ⟨UInt64.lt_of_le_of_lt later again.1,again.2⟩,root.some⟩
  refine upper_shielded own (pages 3 (by decide) (by decide)) (pages 2 (by decide) (by decide)) (fun a => ?_) (fun b => ?_) fun d i few allowed => ?_
  · split
    · rename_i zero
      subst zero
      exact installed.root
    · rename_i other
      rw [installed.same _ _ tables.taken fun same => other (Prod.mk.inj same).2,before]
      simp only [Tables.store,TableWalk.store_apply]
      rw [if_neg fun here => root.some here.1]
      obtain ⟨_,_,rfl⟩ := cloneKernelTable_ok copied
      dsimp only
      rw [Function.update_self,mapped.root,if_neg other]
  · split
    · rename_i zero
      subst zero
      exact installed.pdpt
    · rename_i other
      rw [installImage_pdpt tables.formed tables.taken installs other,mappedU.pdpt,if_neg other]
  · rw [installed.pd] at allowed ⊢
    split
    · have table := pages 1 (by decide) (by decide)
      rw [target_flags,show target (tablePage u.tables 1) = _ from table.place]
      refine ⟨⟨table.closed,table.some⟩,fun _ => ?_⟩
      rw [installed.pt]
      change ¬ KernelMemory (target (filledPage _ 7 i))
      unfold filledPage
      rw [target_flags]
      obtain ⟨image,v,taken,physical⟩ := cloned.image
      exact image_clear mappedU keeps (cloned.blocks ▸ slab) (cloned.pages ▸ pool) taken physical few
    · rename_i other
      rw [if_neg other] at allowed
      have kernel : ¬ u.tables.Free kernelPdPa := kernelTable_taken u.tables (by decide)
      have apart : (kernelPdPa,d) ≠ ((t.info child).pml4Va,0) := fun same =>
        kernelTable_taken s.tables (show fatAddress ≤ kernelPdPa by decide) ((Prod.mk.inj same).1 ▸ tables.root)
      rw [← installed.same kernelPdPa d kernel apart] at allowed ⊢
      exact mappedT.directory (keeps.clear off) few allowed

-- The state of a run: the map of the kernel, the memory for images, and every address space.
structure Secure (gSavedLfb : UInt64) (map : Nat → Option Block) (s : System) : Prop where
  mapped : KernelMapped map s.tables
  keeps : KeepsRegions gSavedLfb map
  slab : s.newPagedPool.block = bootSlab.block
  pool : s.pool.base = pagedpoolVa
  spaces : ∀ pml4, s.Space pml4 → Shielded s.tables pml4

theorem KernelMapped.kernel_shielded (mapped : KernelMapped map t.tables) (clear : UserClear map) : Shielded t.tables gKernelPml4Address :=
  mapped.shielded clear (kernelTable_occupied _ (isPage_iff.mpr (by decide)) (by decide)) fun _ => rfl

-- Where only free pages are written, the address spaces that are left keep their shields.
theorem Secure.later {map' : Nat → Option Block} (secure : Secure gSavedLfb map s) (mapped : KernelMapped map' t.tables)
    (keeps : KeepsRegions gSavedLfb map') (pools : KeepsPools s t)
    (spaces : ∀ pml4, t.Space pml4 → Shielded s.tables pml4 → Shielded t.tables pml4)
    (new : ∀ pml4, t.Space pml4 → s.Space pml4 ∨ Shielded t.tables pml4) : Secure gSavedLfb map' t := by
  refine ⟨mapped,keeps,pools.slab.trans secure.slab,pools.pool.trans secure.pool,fun pml4 space => ?_⟩
  rcases new pml4 space with old | shielded
  · exact spaces pml4 space (secure.spaces pml4 old)
  · exact shielded

theorem Tabled.space {tables : Tables} {pml4 : UInt64} (tabled : Tabled s tables t) (space : t.Space pml4) : s.Space pml4 := by
  rcases space with rfl | ⟨pid,process,listed,root⟩
  · exact .inl rfl
  · exact .inr ⟨pid,process,tabled.kept.processes ▸ listed,(tabled.kept.pml4 pid).symm.trans root⟩

theorem ProcessMade.space {pid : Nat} {pml4 root : UInt64} {tables : Tables} (made : ProcessMade s pid root tables t) (space : t.Space pml4) :
    s.Space pml4 ∨ pml4 = root := by
  rcases space with rfl | ⟨q,process,listed,place⟩
  · exact .inl (.inl rfl)
  · by_cases own : q = pid
    · subst own
      exact .inr (place.symm.trans made.root)
    · obtain ⟨lists,roots⟩ := made.others q own
      exact .inl (.inr ⟨q,process,lists ▸ listed,roots.symm.trans place⟩)

-- The address spaces after a call of copy_process: one more at most.
theorem copyProcess_spaces {supply : CloneSupply} {filename : Option String} {pid rv : Int} {cloneFlags : UInt64} (secure : Secure gSavedLfb map s)
    (off : OffKernel gSavedLfb) (done : copyProcess supply filename pid cloneFlags s = .ok (rv,t)) {pml4 : UInt64} (space : t.Space pml4) :
    s.Space pml4 ∨ Shielded t.tables pml4 := by
  have ends := copyProcess_cases done
  generalize same : rv = r at ends
  cases ends with
  | refused => exact .inl space
  | orphan => exact .inl space
  | childless plain root parents threads created =>
      obtain ⟨rfl,_⟩ := createAndInitializeProcessObject_none created
      have kept := (checkThread_ok threads).1
      rcases space with rfl | ⟨q,process,listed,place⟩
      · exact .inl (.inl rfl)
      · exact .inl (.inr ⟨q,process,(congrFun kept.processes q).symm.trans listed,(kept.pml4 q).symm.trans place⟩)
  | @unloaded copy tables parent thread child clone a b u v plain root parents threads created adopted copied =>
      obtain ⟨rfl,nonneg,_,_⟩ := checkParent_ok parents
      obtain ⟨apart,tablesU,_,_,rootU,othersU,pml4Pa,kernelU⟩ := adoptTables_ok adopted
      have fresh := createAndInitializeProcessObject_ok created
      have checked := (checkThread_ok threads).1
      have parts := (copyParts_ok (show pid.toNat ≠ child by omega) copied).1
      have after : v.tables = tables.store 0 contextRspEntry controlthreadStack := by
        rw [parts.tables,tablesU,fresh.tables,checked.tables]
        rfl
      rcases space with rfl | ⟨q,process,listed,place⟩
      · exact .inl (.inl rfl)
      · change v.kernel.processList q = some process at listed
        change (v.info q).pml4Va = pml4 at place
        by_cases own : q = child
        · subst own
          rw [parts.pml4,rootU] at place
          subst place
          change s.Space copy ∨ Shielded v.tables copy
          rw [after]
          exact .inr ((cloneKernelPml4_shielded secure.mapped (secure.keeps.clear off) root).2.written (.null _))
        · rw [parts.pml4,othersU q own,fresh.info q own,checked.pml4] at place
          rw [parts.processes,kernelU,setProcess_processList,if_neg own,fresh.kernel,setProcess_processList,if_neg own,checked.processes] at listed
          exact .inl (.inr ⟨q,process,listed,place⟩)
  | @made copy tables parent thread child clone a b u v t plain root parents threads created adopted copied finished =>
      subst same
      obtain ⟨w,cloned⟩ := copyProcess_made done
      rcases space with rfl | ⟨q,process,listed,place⟩
      · exact .inl (.inl rfl)
      · by_cases own : q = child
        · subst own
          subst place
          exact .inr (cloned.shielded secure.mapped secure.keeps off secure.slab secure.pool)
        · obtain ⟨lists,roots⟩ := cloned.others q own
          exact .inl (.inr ⟨q,process,lists ▸ listed,roots.symm.trans place⟩)

theorem KeepsRegions.remap {turn : MemoryTurn} (keeps : KeepsRegions gSavedLfb map) (spares : turn.Spares (canonicalRegions gSavedLfb)) :
    KeepsRegions gSavedLfb (turn.remap map) := by
  cases turn with
  | device pa va =>
      refine ⟨fun r member => ?_,fun d block entry allowed => ?_⟩
      · exact (Function.update_of_ne (spares r member) _ _).trans (keeps.kept r member)
      · by_cases own : d = pdIndex va
        · subst own
          rw [MemoryTurn.remap,Function.update_self] at entry
          cases entry
          exact absurd allowed (show ¬ userRead.Allowed 0x1B by unfold Access.Allowed; decide)
        · rw [MemoryTurn.remap,Function.update_of_ne own] at entry
          exact keeps.users d block entry allowed
  | other => exact keeps
  | table => exact keeps
  | process => exact keeps
  | clone => exact keeps

theorem secure_step {turn : MemoryTurn} (off : OffKernel gSavedLfb) (secure : Secure gSavedLfb map s) (step : MemoryStep s turn t)
    (spares : turn.Spares (canonicalRegions gSavedLfb)) : Secure gSavedLfb (turn.remap map) t := by
  have first := secure.keeps.first
  have ring0 : turn.Spares [ring0area] := by
    cases turn with
    | device => exact fun r member => spares r (List.mem_singleton.mp member ▸ List.mem_cons_self)
    | other | table | process | clone => trivial
  have mapped := (memoryStep_map secure.mapped first step ring0).1
  have keeps := secure.keeps.remap spares
  have base := secure.mapped.base
  cases turn with
  | other =>
      refine secure.later mapped keeps step.pools (fun _ _ shielded => ?_) fun _ space => .inl (step.space space)
      rwa [show t.tables = s.tables from step.kept.tables]
  | table =>
      obtain ⟨pt,tables,taken,same⟩ := step
      refine secure.later mapped keeps same.pools (fun _ _ shielded => ?_) fun _ space => .inl (same.space space)
      rw [show t.tables = tables from same.kept.tables]
      exact shielded.written (getTablePointerVa_writes base taken).1
  | device pa va =>
      obtain ⟨rv,tables,called,same⟩ := step
      refine secure.later mapped keeps same.pools (fun _ _ shielded => ?_) fun _ space => .inl (same.space space)
      rw [show t.tables = tables from same.kept.tables]
      obtain ⟨pt,u,taken,⟨_,_,rfl⟩ | ⟨_,rfl⟩⟩ := mmMap2mbRegion_ok called
      · exact shielded.written (getTablePointerVa_writes base taken).1
      · exact shielded.device base taken
  | process pid copied =>
      cases copied with
      | false =>
          have made : ProcessMade s pid gKernelPml4Address s.tables t := step
          refine secure.later mapped keeps made.pools (fun _ _ shielded => ?_) fun pml4 space => ?_
          · rwa [made.tables]
          · rcases made.space space with old | rfl
            · exact .inl old
            · exact .inl (.inl rfl)
      | true =>
          obtain ⟨root,tables,cloned,made⟩ := step
          refine secure.later mapped keeps made.pools (fun _ _ shielded => ?_) fun pml4 space => ?_
          · rw [made.tables]
            exact shielded.written (cloneKernelPml4_writes base cloned).1
          · rcases made.space space with old | rfl
            · exact .inl old
            · rw [made.tables]
              exact .inr (cloneKernelPml4_shielded secure.mapped (secure.keeps.clear off) cloned).2
  | clone supply filename pid cloneFlags =>
      obtain ⟨rv,done⟩ := step
      have writes := (copyProcess_writes (secure.mapped.formed first rfl) secure.mapped.limit done).1
      exact secure.later mapped keeps (copyProcess_pools done) (fun _ _ shielded => shielded.written writes)
        fun _ space => copyProcess_spaces secure off done space

theorem secure_run {turns : List MemoryTurn} (off : OffKernel gSavedLfb) (secure : Secure gSavedLfb map s)
    (run : Runs.Path (fun s turn t => MemoryStep s turn t ∧ turn.Spares (canonicalRegions gSavedLfb)) s turns t) :
    Secure gSavedLfb (remapped map turns) t := by
  have start : Secure gSavedLfb (remapped map []) s := secure
  refine run.history (fun turns t => Secure gSavedLfb (remapped map turns) t) ?_ start
  intro turns s turn t before step
  rw [remapped,List.foldl_append]
  exact secure_step off before step.1 step.2

theorem bootMap_keeps (gSavedLfb : UInt64) : KeepsRegions gSavedLfb (bootMap gSavedLfb) := by
  refine ⟨fun r member => bootMap_some.mpr ⟨r,member,rfl,rfl⟩,fun d block entry _ => ?_⟩
  obtain ⟨r,member,_,same⟩ := bootMap_some.mp entry
  exact ⟨r,member,same⟩

theorem booted_secure (off : OffKernel gSavedLfb) (booted : pagesInitializePaging gSavedLfb s = .ok t)
    (fresh : s.tables.heapBase = tablePointerHeapBase) (empty : ∀ pid, s.kernel.processList pid = none) :
    Secure gSavedLfb (bootMap gSavedLfb) t := by
  have mapped := booted_map booted fresh
  obtain ⟨u,result,_⟩ := pagesInitializePaging_ok gSavedLfb fresh
  cases booted.symm.trans result
  refine ⟨mapped,bootMap_keeps gSavedLfb,rfl,rfl,fun pml4 space => ?_⟩
  rcases space with rfl | ⟨pid,process,listed,_⟩
  · exact mapped.kernel_shielded ((bootMap_keeps gSavedLfb).clear off)
  · exact absurd ((empty pid).symm.trans listed) (by simp)

end Secure

-- From the initialisation of paging on, whatever processes are created, cloned or fail to be
-- cloned and whatever devices are mapped apart from the regions of the kernel, no program in ring
-- 3 comes to the page tables, the image of the kernel or its modules, in any address space.
theorem kernel_memory_shielded {gSavedLfb : UInt64} {s t u : System} {turns : List MemoryTurn} (off : OffKernel gSavedLfb)
    (booted : pagesInitializePaging gSavedLfb s = .ok t) (fresh : s.tables.heapBase = tablePointerHeapBase)
    (empty : ∀ pid, s.kernel.processList pid = none)
    (run : Runs.Path (fun s turn t => MemoryStep s turn t ∧ turn.Spares (canonicalRegions gSavedLfb)) t turns u)
    {pml4 : UInt64} (space : u.Space pml4) {kind : Access} (user : kind.user = true) {va pa : UInt64}
    (reached : access u.tables.memory pml4 kind va = some pa) : ¬ KernelMemory pa := by
  have shielded := (secure_run off (booted_secure off booted fresh empty) run).spaces pml4 space
  obtain ⟨page,walked,rfl⟩ := Option.map_eq_some_iff.mp reached
  have clear := (shielded va).leaf (TableWalk.reach_weaker (fun _ => Access.Allowed.read user) walked)
  obtain ⟨entry,rfl⟩ : ∃ entry, page = target entry := ⟨_,(TableWalk.reach_walk walked).symm⟩
  exact fun kernel => clear (kernelMemory_offset.mp kernel)

-- The first process gets a copy of the first table of the kernel.
def initCreated : System :=
  match cloneKernelPml4 startedSystem.tables with
  | .ok (pml4,tables) =>
      {startedSystem with
        kernel := startedSystem.kernel.setProcess 1 initProcess
        info := Function.update startedSystem.info 1 {ProcessInfo.zeroed with pml4Va := pml4}
        tables := tables}
  | .error _ => startedSystem

-- Ring 3 may write to the heap pool.
theorem kernel_memory_shielded_heappool : access initCreated.tables.memory 0xC000 ⟨true,true⟩ 0x30800123 = some 0x01000123 ∧
    ¬ KernelMemory 0x01000123 := by
  have off : OffKernel 0xFD000000 := ⟨by decide,by decide,.inr (by decide)⟩
  have booted : pagesInitializePaging 0xFD000000 bareSystem = .ok startedSystem := rfl
  have made : ProcessMade startedSystem 1 0xC000 initCreated.tables initCreated := by
    refine ⟨rfl,rfl,fun q other => ⟨?_,?_⟩,⟨rfl,rfl⟩⟩
    · change (startedSystem.kernel.setProcess 1 initProcess).processList q = _
      rw [setProcess_processList,if_neg other]
    · change (Function.update startedSystem.info 1 _ q).pml4Va = _
      rw [Function.update_of_ne other]
  have step : MemoryStep startedSystem (.process 1 true) initCreated := ⟨0xC000,initCreated.tables,rfl,made⟩
  have reached : access initCreated.tables.memory 0xC000 ⟨true,true⟩ 0x30800123 = some 0x01000123 := by decide +kernel
  exact ⟨reached,kernel_memory_shielded off booted rfl (fun _ => rfl) (.step .nil ⟨step,trivial⟩) (.inr ⟨1,initProcess,rfl,rfl⟩) rfl reached⟩

end GramadoKernel
