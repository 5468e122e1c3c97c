import GramadoKernel.AddressSpaces

namespace GramadoKernel

-- X64_GET_PDE_INDEX, with its cast to unsigned.
def x64GetPdeIndex (va : UInt64) : Nat := ((va.toUInt32 >>> 21) &&& 0x1FF).toNat

-- mm_map_2mb_region, with the flags 0x1B.
def mmMap2mbRegion (pa va : UInt64) (t : Tables) : Except Halt (Int × Tables) := do
  let (pt,t) ← getTablePointerVa t
  if pt = 0 then .ok (-1,t)
  else
    let pdindex := x64GetPdeIndex va
    if 512 ≤ pdindex then .ok (-1,t)
    else .ok (0,(mmFillPageTable kernelPdPa pdindex pt pa 0x1B t).2)

def present (entry : UInt64) : Prop := entry &&& 1 ≠ 0

-- The entries of all four levels have their present bit.
def AllPresent (memory : Memory) (pml4 : UInt64) (d i : Nat) : Prop := ∀ cell ∈ reads memory pml4 d i, present (memory cell.1 cell.2)

-- A result that is not 0 stands for a mapped page.
def RespectsPresent (memory : Memory) (va pml4 : UInt64) : Prop :=
  ∀ result, virtualToPhysical memory va pml4 = .ok result → result ≠ 0 →
    AllPresent memory pml4 (pdIndex va) (ptIndex va) ∧ result = frame memory pml4 (pdIndex va) (ptIndex va)+(va &&& 0xFFF)

theorem frame_isPage (memory : Memory) (pml4 : UInt64) (d i : Nat) : ∃ entry, frame memory pml4 d i = target entry := ⟨_,rfl⟩

-- The frame and the offset do not meet.
theorem framed_toNat (entry va : UInt64) : (target entry+(va &&& 0xFFF)).toNat = entry.toNat % 2^48/4096*4096+va.toNat % 4096 := by
  rw [UInt64.toNat_add,target_toNat,offset_toNat]
  omega

theorem framed_zero (entry va : UInt64) : target entry+(va &&& 0xFFF) = 0 ↔ target entry = 0 ∧ va.toNat % 4096 = 0 := by
  rw [← UInt64.toNat_inj,← UInt64.toNat_inj,framed_toNat,target_toNat,UInt64.toNat_zero]
  omega

theorem respects_iff (memory : Memory) (pml4 : UInt64) {va : UInt64} (first : pml4Index va = 0) (second : pdptIndex va = 0) :
    RespectsPresent memory va pml4 ↔ pml4 = 0 ∨ AllPresent memory pml4 (pdIndex va) (ptIndex va) ∨
      frame memory pml4 (pdIndex va) (ptIndex va) = 0 ∧ va.toNat % 4096 = 0 := by
  obtain ⟨entry,last⟩ := frame_isPage memory pml4 (pdIndex va) (ptIndex va)
  unfold RespectsPresent
  simp only [virtualToPhysical_ok]
  rw [last,← framed_zero]
  constructor
  · intro respects
    by_contra none
    rw [not_or,not_or] at none
    exact none.2.1 (respects _ ⟨first,second,none.1,rfl⟩ none.2.2).1
  · rintro either result ⟨_,_,root,rfl⟩ nonzero
    rcases either with zero | all | zero
    · exact absurd zero root
    · exact ⟨all,rfl⟩
    · exact absurd zero nonzero

-- The second byte of a page.
def secondByte (d i : Nat) : UInt64 := UInt64.ofNat (2^21*d+4096*i+1)

theorem secondByte_place {d i : Nat} (first : d < 512) (second : i < 512) :
    pml4Index (secondByte d i) = 0 ∧ pdptIndex (secondByte d i) = 0 ∧ pdIndex (secondByte d i) = d ∧ ptIndex (secondByte d i) = i ∧
      (secondByte d i).toNat % 4096 = 1 := by
  have value : (secondByte d i).toNat = 2^21*d+4096*i+1 := by
    unfold secondByte
    rw [UInt64.toNat_ofNat']
    omega
  rw [pml4Index_toNat,pdptIndex_toNat,pdIndex_toNat,ptIndex_toNat,value]
  omega

theorem present_respected_iff (memory : Memory) (pml4 : UInt64) :
    (∀ va, pml4Index va = 0 → pdptIndex va = 0 → (RespectsPresent memory va pml4 ↔ pml4 = 0 ∨
      AllPresent memory pml4 (pdIndex va) (ptIndex va) ∨ frame memory pml4 (pdIndex va) (ptIndex va) = 0 ∧ va.toNat % 4096 = 0)) ∧
    ((∀ va, pml4Index va = 0 → pdptIndex va = 0 → RespectsPresent memory va pml4) ↔
      pml4 = 0 ∨ ∀ d < 512, ∀ i < 512, AllPresent memory pml4 d i) := by
  refine ⟨fun va first second => respects_iff memory pml4 first second,?_⟩
  constructor
  · intro all
    by_contra none
    rw [not_or] at none
    refine none.2 fun d first i second => ?_
    obtain ⟨low,lower,pd,pt,offset⟩ := secondByte_place first second
    have either := (respects_iff memory pml4 low lower).mp (all _ low lower)
    rw [pd,pt,offset] at either
    rcases either with zero | mapped | none'
    · exact absurd zero none.1
    · exact mapped
    · exact absurd none'.2 (by decide)
  · rintro either va first second
    rw [respects_iff memory pml4 first second]
    rcases either with zero | all
    · exact .inl zero
    · exact .inr (.inl (all _ (pdIndex_below va) _ (ptIndex_below va)))

-- Tables of which each entry leads to page 0x5000, present or not.
def presentTables : Memory := fun _ _ => 0x5001
def absentTables : Memory := fun _ _ => 0x5000

theorem present_respected_mapped : RespectsPresent presentTables 0x200005 0x5000 := by
  have bit : present 0x5001 := by
    unfold present
    decide
  exact ((present_respected_iff presentTables 0x5000).1 0x200005 (by decide) (by decide)).mpr (.inr (.inl fun _ _ => bit))

-- No entry is present, and the address is translated.
theorem absent_translated : virtualToPhysical absentTables 0x200000 0x5000 = .ok 0x5000 ∧
    (∀ cell ∈ reads absentTables 0x5000 1 0, ¬ present (absentTables cell.1 cell.2)) ∧ ¬ RespectsPresent absentTables 0x200000 0x5000 := by
  have absent : ¬ present 0x5000 := fun bit => bit (by decide)
  refine ⟨rfl,fun _ _ => absent,fun respects => ?_⟩
  exact absent ((respects 0x5000 rfl (by decide)).1 (0x5000,0) List.mem_cons_self)

section Regions

theorem x64GetPdeIndex_eq (va : UInt64) : x64GetPdeIndex va = pdIndex va := by
  have shifted : (va.toUInt32 >>> 21 &&& 0x1FF).toNat = va.toNat % 2^32/2^21 % 512 := by
    rw [UInt32.toNat_and,UInt32.toNat_shiftRight,Nat.shiftRight_eq_div_pow,show (0x1FF : UInt32).toNat = 2^9-1 by rfl,
      Nat.and_two_pow_sub_one_eq_mod,UInt64.toNat_toUInt32]
    rfl
  rw [x64GetPdeIndex,shifted,pdIndex_toNat]
  omega

-- The addresses of the block that are k away from va, with k taken modulo 2^64.
def MapsBlock (t : Tables) (pa va : UInt64) : Prop :=
  ∀ k, (va+k).toNat/2^21 = va.toNat/2^21 → virtualToPhysical t.memory (va+k) gKernelPml4Address = .ok (pa+k)

-- The other blocks keep their translation, where an address is the 48 bits that are
-- translated, or all 64 bits.
def KeepsOthers (t t' : Tables) (va : UInt64) : Prop :=
  ∀ other, other.toNat % 2^48/2^21 ≠ va.toNat % 2^48/2^21 →
    virtualToPhysical t'.memory other gKernelPml4Address = virtualToPhysical t.memory other gKernelPml4Address

def KeepsAllOthers (t t' : Tables) (va : UInt64) : Prop :=
  ∀ other, other.toNat/2^21 ≠ va.toNat/2^21 →
    virtualToPhysical t'.memory other gKernelPml4Address = virtualToPhysical t.memory other gKernelPml4Address

-- The block is in the first GB, pa is as far into its page as va is into its block, and
-- the 2 MB from that page on are within the 48 bits of an entry.
structure FitsBlock (pa va : UInt64) : Prop where
  pml4 : pml4Index va = 0
  pdpt : pdptIndex va = 0
  offset : va.toNat % 2^21 = pa.toNat % 4096
  within : pa.toNat/4096*4096+2^21 ≤ 2^48

-- What the call leaves.
structure RegionMapped (t : Tables) (pa va : UInt64) (t' : Tables) : Prop where
  free : t.Free (tablePage t 1)
  page : IsPage (tablePage t 1)
  pt : ∀ i, t'.memory (tablePage t 1) i = filledPage pa 0x1B i
  pd : t'.memory kernelPdPa (pdIndex va) = tablePage t 1 ||| 0x1B
  same : ∀ page i, page ≠ tablePage t 1 → (page,i) ≠ (kernelPdPa,pdIndex va) → t'.memory page i = t.memory page i

theorem mmMap2mbRegion_mapped {t t' : Tables} {pa va : UInt64} (formed : WellFormed t) (mapped : mmMap2mbRegion pa va t = .ok (0,t')) :
    RegionMapped t pa va t' := by
  simp only [mmMap2mbRegion,bind_ok] at mapped
  obtain ⟨⟨pt,u⟩,taken,mapped⟩ := mapped
  obtain ⟨place,below,rfl⟩ := getTablePointerVa_ok.mp taken
  obtain rfl : pt = tablePage t 1 := place
  have free := tablePage_free formed.page (n := 1) (by decide) (by decide) below
  have apart : tablePage t 1 ≠ kernelPdPa := fun same => kernelTable_taken t (show fatAddress ≤ kernelPdPa by decide) (same ▸ free)
  have few := pdIndex_below va
  split at mapped
  · cases mapped
  rw [x64GetPdeIndex_eq,if_neg (by omega),mmFillPageTable_memory _ _ _ _ few] at mapped
  simp only [Except.ok.injEq,Prod.mk.injEq,true_and] at mapped
  subst mapped
  refine ⟨free,tablePage_isPage formed.page (by decide) below,?_,?_,?_⟩
  · intro i
    rw [Tables.link_memory,if_neg (fun here => apart here.1)]
    dsimp only
    rw [Function.update_self]
  · rw [Tables.link_memory,if_pos ⟨rfl,rfl⟩]
  · intro page i other cell
    rw [Tables.link_memory,if_neg (fun here => cell (Prod.ext here.1 here.2))]
    dsimp only
    rw [Function.update_of_ne other]

variable {t t' : Tables} {pa va : UInt64}

theorem RegionMapped.above (mapped : RegionMapped t pa va t') (page : UInt64) (i : Nat) (high : fatAddress ≤ page)
    (cell : (page,i) ≠ (kernelPdPa,pdIndex va)) : t'.memory page i = t.memory page i :=
  mapped.same page i (fun same => kernelTable_taken t high (same ▸ mapped.free)) cell

theorem RegionMapped.frame_eq (mapped : RegionMapped t pa va t') (formed : WellFormed t) (d i : Nat) :
    frame t'.memory gKernelPml4Address d i = target (t'.memory (target (t'.memory kernelPdPa d)) i) := by
  have pdpt := mapped.above gKernelPml4Address 0 (by decide) (fun same => absurd (Prod.mk.inj same).1 (by decide))
  have pd := mapped.above kernelPdptPa 0 (by decide) (fun same => absurd (Prod.mk.inj same).1 (by decide))
  exact kernel_frame (pdpt ▸ formed.pdpt) (pd ▸ formed.pd) d i

-- The frames of the block.
theorem RegionMapped.block (mapped : RegionMapped t pa va t') (formed : WellFormed t) (i : Nat) :
    frame t'.memory gKernelPml4Address (pdIndex va) i = target (pa+UInt64.ofNat (4096*i)) := by
  have table : target (tablePage t 1 ||| 0x1B) = tablePage t 1 := (target_or (by decide) _).trans mapped.page
  rw [mapped.frame_eq formed,mapped.pd,table,mapped.pt]
  exact target_or (by decide) _

theorem blockFrame_toNat (pa : UInt64) (i : Nat) :
    (target (pa+UInt64.ofNat (4096*i))).toNat = (pa.toNat+4096*i) % 2^48/4096*4096 := by
  rw [target_toNat,UInt64.toNat_add,UInt64.toNat_ofNat']
  omega

-- The pages of the other directory entries, unless one of them is the directory.
theorem RegionMapped.other (mapped : RegionMapped t pa va t') (formed : WellFormed t) {d i : Nat} (first : d < 512) (second : i < 512)
    (entry : d ≠ pdIndex va) (cell : target (t.memory kernelPdPa d) ≠ kernelPdPa ∨ i ≠ pdIndex va) :
    frame t'.memory gKernelPml4Address d i = frame t.memory gKernelPml4Address d i := by
  have pd := mapped.above kernelPdPa d (by decide) (fun same => entry (Prod.mk.inj same).2)
  have member : (target (t.memory kernelPdPa d),i) ∈ reads t.memory gKernelPml4Address d i := by
    rw [kernel_reads formed.pdpt formed.pd]
    simp
  have taken := formed.kernel d first i second _ member
  rw [mapped.frame_eq formed,kernel_frame formed.pdpt formed.pd,pd]
  congr 1
  refine mapped.same _ _ (fun same => taken (same ▸ mapped.free)) fun same => ?_
  obtain ⟨page,place⟩ := Prod.mk.inj same
  rcases cell with apart | apart
  · exact apart page
  · exact apart place

theorem mapsBlock_iff (mapped : RegionMapped t pa va t') (formed : WellFormed t) : MapsBlock t' pa va ↔ FitsBlock pa va := by
  have root : gKernelPml4Address ≠ 0 := by decide
  -- what an address with the same entry of the directory is translated to
  have value (x : UInt64) (same : pdIndex x = pdIndex va) :
      (frame t'.memory gKernelPml4Address (pdIndex x) (ptIndex x)+(x &&& 0xFFF)).toNat =
        (pa.toNat+4096*(x.toNat/2^12 % 512)) % 2^48/4096*4096+x.toNat % 4096 := by
    have place := blockFrame_toNat pa (ptIndex x)
    rw [same,mapped.block formed,framed_toNat,← target_toNat,place,ptIndex_toNat]
  have size := pa.toNat_lt
  have bound := va.toNat_lt
  constructor
  · intro maps
    have here := maps 0 (by rw [UInt64.add_zero])
    rw [UInt64.add_zero,UInt64.add_zero,virtualToPhysical_ok] at here
    obtain ⟨pml4,pdpt,_,first⟩ := here
    replace first := congrArg UInt64.toNat first
    rw [value va rfl] at first
    have offset : va.toNat % 2^21 = pa.toNat % 4096 := by omega
    -- the first byte of the last page
    have last := maps (UInt64.ofNat (2^21-4096-va.toNat % 2^21))
    have step : (UInt64.ofNat (2^21-4096-va.toNat % 2^21)).toNat = 2^21-4096-va.toNat % 2^21 := by
      rw [UInt64.toNat_ofNat']
      omega
    have place : (va+UInt64.ofNat (2^21-4096-va.toNat % 2^21)).toNat = va.toNat-va.toNat % 2^21+(2^21-4096) := by
      rw [UInt64.toNat_add,step]
      omega
    have second := (virtualToPhysical_ok.mp (last (by rw [place]; omega))).2.2.2
    replace second := congrArg UInt64.toNat second
    rw [value _ (by rw [pdIndex_toNat,pdIndex_toNat,place]; omega),place,UInt64.toNat_add,step] at second
    exact ⟨pml4,pdpt,offset,by omega⟩
  · intro fits k inside
    obtain ⟨pml4,pdpt,offset,within⟩ := fits
    rw [pml4Index_toNat] at pml4
    rw [pdptIndex_toNat] at pdpt
    have place := UInt64.toNat_add va k
    have aim := UInt64.toNat_add pa k
    have bound := k.toNat_lt
    rw [virtualToPhysical_ok,pml4Index_toNat,pdptIndex_toNat]
    refine ⟨by omega,by omega,root,?_⟩
    rw [← UInt64.toNat_inj,value _ (by rw [pdIndex_toNat,pdIndex_toNat]; omega)]
    omega

-- The directory is not a page table of its own, as far as another entry is concerned.
def DirectoryApart (t : Tables) (va : UInt64) : Prop := ∀ d < 512, d ≠ pdIndex va → target (t.memory kernelPdPa d) ≠ kernelPdPa

-- The block has been mapped to the same frames before.
def AlreadyMapped (t : Tables) (pa va : UInt64) : Prop :=
  ∀ i < 512, frame t.memory gKernelPml4Address (pdIndex va) i = target (pa+UInt64.ofNat (4096*i))

-- Two translations of one address, by their frames.
theorem frames_same (root : pml4 ≠ 0) {x : UInt64} (first : pml4Index x = 0) (second : pdptIndex x = 0)
    (same : virtualToPhysical memory' x pml4 = virtualToPhysical memory x pml4) :
    frame memory' pml4 (pdIndex x) (ptIndex x) = frame memory pml4 (pdIndex x) (ptIndex x) := by
  have after : virtualToPhysical memory' x pml4 = .ok _ := virtualToPhysical_ok.mpr ⟨first,second,root,rfl⟩
  rw [same,virtualToPhysical_ok] at after
  exact (UInt64.add_left_inj _).mp after.2.2.2

theorem keepsOthers_iff (mapped : RegionMapped t pa va t') (formed : WellFormed t) (fits : FitsBlock pa va) :
    KeepsOthers t t' va ↔ DirectoryApart t va := by
  obtain ⟨pml4,pdpt,_,_⟩ := fits
  rw [pml4Index_toNat] at pml4
  rw [pdptIndex_toNat] at pdpt
  have few := pdIndex_below va
  have number := pdIndex_toNat va
  constructor
  · intro keeps d first entry own
    -- an address whose entry of the last level is the one that is written
    obtain ⟨low,lower,pd,pt,_⟩ := secondByte_place first few
    have outside : (secondByte d (pdIndex va)).toNat % 2^48/2^21 ≠ va.toNat % 2^48/2^21 := by
      rw [pml4Index_toNat] at low
      rw [pdptIndex_toNat] at lower
      rw [pdIndex_toNat] at pd
      omega
    have frames := frames_same (by decide) low lower (keeps _ outside)
    have table : target (tablePage t 1 ||| 0x1B) = tablePage t 1 := (target_or (by decide) _).trans mapped.page
    have unchanged := mapped.above kernelPdPa d (by decide) (fun same => entry (Prod.mk.inj same).2)
    have member : (target (t.memory kernelPdPa (pdIndex va)),0) ∈ reads t.memory gKernelPml4Address (pdIndex va) 0 := by
      rw [kernel_reads formed.pdpt formed.pd]
      simp
    rw [pd,pt,mapped.frame_eq formed,kernel_frame formed.pdpt formed.pd,unchanged,own,mapped.pd,table] at frames
    exact formed.kernel _ few 0 (by decide) _ member (frames ▸ mapped.free)
  · intro apart other outside
    refine virtualToPhysical_frame fun first second => ?_
    have entry : pdIndex other ≠ pdIndex va := by
      rw [pml4Index_toNat] at first
      rw [pdptIndex_toNat] at second
      rw [number,pdIndex_toNat]
      omega
    exact mapped.other formed (pdIndex_below other) (ptIndex_below other) entry (.inl (apart _ (pdIndex_below other) entry))

-- An address with the same 48 bits as one of the block, and others above them.
def twin (va : UInt64) (i : Nat) : UInt64 :=
  UInt64.ofNat ((if va.toNat < 2^48 then 2^48 else 0)+va.toNat % 2^48/2^21*2^21+4096*i)

theorem keepsAllOthers_iff (mapped : RegionMapped t pa va t') (formed : WellFormed t) (fits : FitsBlock pa va) :
    KeepsAllOthers t t' va ↔ DirectoryApart t va ∧ AlreadyMapped t pa va := by
  constructor
  · intro keeps
    refine ⟨(keepsOthers_iff mapped formed fits).mp fun other outside => keeps other (by omega),fun i few => ?_⟩
    obtain ⟨pml4,pdpt,_,_⟩ := fits
    rw [pml4Index_toNat] at pml4
    rw [pdptIndex_toNat] at pdpt
    have bound := va.toNat_lt
    have value : (twin va i).toNat = (if va.toNat < 2^48 then 2^48 else 0)+va.toNat % 2^48/2^21*2^21+4096*i := by
      unfold twin
      rw [UInt64.toNat_ofNat',Nat.mod_eq_of_lt]
      split <;> omega
    have places : pml4Index (twin va i) = 0 ∧ pdptIndex (twin va i) = 0 ∧ pdIndex (twin va i) = pdIndex va ∧ ptIndex (twin va i) = i := by
      rw [pml4Index_toNat,pdptIndex_toNat,pdIndex_toNat,pdIndex_toNat,ptIndex_toNat,value]
      split <;> omega
    obtain ⟨low,lower,pd,pt⟩ := places
    have outside : (twin va i).toNat/2^21 ≠ va.toNat/2^21 := by
      rw [value]
      split <;> omega
    have frames := frames_same (by decide) low lower (keeps _ outside)
    rw [pd,pt,mapped.block formed] at frames
    exact frames.symm
  · rintro ⟨apart,already⟩ other outside
    refine virtualToPhysical_frame fun first second => ?_
    by_cases entry : pdIndex other = pdIndex va
    · rw [entry,mapped.block formed,already _ (ptIndex_below other)]
    · exact mapped.other formed (pdIndex_below other) (ptIndex_below other) entry (.inl (apart _ (pdIndex_below other) entry))

-- What mm_map_2mb_region makes of any two addresses.
theorem region_mapped_iff (formed : WellFormed t) (mapped : mmMap2mbRegion pa va t = .ok (0,t')) :
    (MapsBlock t' pa va ∧ KeepsOthers t t' va ↔ FitsBlock pa va ∧ DirectoryApart t va) ∧
      (MapsBlock t' pa va ∧ KeepsAllOthers t t' va ↔ FitsBlock pa va ∧ DirectoryApart t va ∧ AlreadyMapped t pa va) := by
  have region := mmMap2mbRegion_mapped formed mapped
  rw [mapsBlock_iff region formed]
  exact ⟨and_congr_right fun fits => keepsOthers_iff region formed fits,and_congr_right fun fits => keepsAllOthers_iff region formed fits⟩

end Regions

theorem bootTables_apart (null va : UInt64) : DirectoryApart (bootSystem null).tables va := by
  intro d _ _ own
  have below := regionTable_below d
  change target (bootMemory null kernelPdPa d) = kernelPdPa at own
  rw [bootMemory_pd] at own
  rw [own] at below
  exact absurd below (by decide)

theorem region_mapped_aligned : ∃ t', mmMap2mbRegion 0x1000000 0x600000 (bootSystem 0).tables = .ok (0,t') ∧ MapsBlock t' 0x1000000 0x600000 ∧
    KeepsOthers (bootSystem 0).tables t' 0x600000 := by
  obtain ⟨t',mapped⟩ : ∃ t', mmMap2mbRegion 0x1000000 0x600000 (bootSystem 0).tables = .ok (0,t') := ⟨_,rfl⟩
  have fits : FitsBlock 0x1000000 0x600000 := ⟨by decide,by decide,by decide,by decide⟩
  exact ⟨t',mapped,(region_mapped_iff (bootSystem_sound 0).formed mapped).1.mpr ⟨fits,bootTables_apart 0 _⟩⟩

-- The offset of va in the block is lost.
theorem region_offset_lost : ∃ t', WellFormed (bootSystem 0).tables ∧ mmMap2mbRegion 0x1000000 0x600123 (bootSystem 0).tables = .ok (0,t') ∧
    virtualToPhysical t'.memory 0x600123 gKernelPml4Address = .ok 0x1000123 ∧ ¬ MapsBlock t' 0x1000000 0x600123 := by
  obtain ⟨t',mapped⟩ : ∃ t', mmMap2mbRegion 0x1000000 0x600123 (bootSystem 0).tables = .ok (0,t') := ⟨_,rfl⟩
  have formed := (bootSystem_sound 0).formed
  have region := mmMap2mbRegion_mapped formed mapped
  have block := region.block formed 0
  have translated : virtualToPhysical t'.memory 0x600123 gKernelPml4Address = .ok 0x1000123 := by
    rw [virtualToPhysical_ok]
    refine ⟨by decide,by decide,by decide,?_⟩
    rw [show ptIndex 0x600123 = 0 by decide,block]
    decide
  refine ⟨t',formed,mapped,translated,fun maps => ?_⟩
  have here := maps 0 rfl
  rw [UInt64.add_zero,translated] at here
  exact absurd here (by decide)

end GramadoKernel
