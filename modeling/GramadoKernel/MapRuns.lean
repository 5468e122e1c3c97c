import GramadoKernel.KernelMap

namespace GramadoKernel

-- What changes the page tables, and everything else. The page that the initialisation of a
-- local APIC takes for a table is not used.
inductive MemoryTurn where
  | other
  | table
  | device (pa va : UInt64)
  | process (pid : Nat) (copied : Bool)
  | clone (supply : CloneSupply) (filename : Option String) (pid : Int) (cloneFlags : UInt64)

-- The memory that images are taken from stays where it is.
structure KeepsPools (s t : System) : Prop where
  slab : t.newPagedPool.block = s.newPagedPool.block
  pool : t.pool.base = s.pool.base

-- Nothing that matters changes but the tables.
structure Tabled (s : System) (tables : Tables) (t : System) : Prop where
  kept : KeepsTables {s with tables := tables} t
  pools : KeepsPools s t

-- A new process with the given tables.
structure ProcessMade (s : System) (pid : Nat) (pml4 : UInt64) (tables : Tables) (t : System) : Prop where
  tables : t.tables = tables
  root : (t.info pid).pml4Va = pml4
  others : ∀ q, q ≠ pid → t.kernel.processList q = s.kernel.processList q ∧ (t.info q).pml4Va = (s.info q).pml4Va
  pools : KeepsPools s t

def MemoryStep (s : System) : MemoryTurn → System → Prop
  | .other,t => Tabled s s.tables t
  | .table,t => ∃ pt tables, getTablePointerVa s.tables = .ok (pt,tables) ∧ Tabled s tables t
  | .device pa va,t => ∃ rv tables, mmMap2mbRegion pa va s.tables = .ok (rv,tables) ∧ Tabled s tables t
  | .process pid false,t => ProcessMade s pid gKernelPml4Address s.tables t
  | .process pid true,t => ∃ pml4 tables, cloneKernelPml4 s.tables = .ok (pml4,tables) ∧ ProcessMade s pid pml4 tables t
  | .clone supply filename pid cloneFlags,t => ∃ rv, copyProcess supply filename pid cloneFlags s = .ok (rv,t)

-- No device is mapped over one of these regions.
def MemoryTurn.Spares (regions : List Region) : MemoryTurn → Prop
  | .device _ va => ∀ r ∈ regions, pdIndex r.va ≠ pdIndex va
  | _ => True

theorem deviceFlags_low : (0x1B : UInt64).toNat < 4096 := by decide

def deviceBlock (pa : UInt64) : Block := ⟨pa,0x1B,deviceFlags_low⟩

-- What a step does to the map of the kernel.
def MemoryTurn.remap (map : Nat → Option Block) : MemoryTurn → Nat → Option Block
  | .device pa va => Function.update map (pdIndex va) (some (deviceBlock pa))
  | _ => map

section Tables

variable {t t' : Tables} {map : Nat → Option Block}

-- Pages that are free may be written, and the entry of page 0.
theorem KernelMapped.written (mapped : KernelMapped map t) (writes : Writes t t') (base : IsPage t'.heapBase) (limit : t'.heapBase < fatAddress) :
    KernelMapped map t' := by
  refine ⟨base,limit,fun a => ?_,fun b => ?_,fun d none => ?_,fun d block entry => ?_⟩
  · rw [writes.kernelTable (by decide),mapped.root]
  · rw [writes.kernelTable (show fatAddress ≤ kernelPdptPa by decide),mapped.pdpt]
  · rw [writes.kernelTable (show fatAddress ≤ kernelPdPa by decide),mapped.absent d none]
  · obtain ⟨pt,table,pd,entries⟩ := mapped.mapped d block entry
    refine ⟨pt,table.later writes.base,?_,fun i => ?_⟩
    · rw [writes.kernelTable (show fatAddress ≤ kernelPdPa by decide),pd]
    · rcases writes.same pt i table.closed with same | ⟨null,_⟩
      · rw [same,entries]
      · exact absurd (Prod.mk.inj null).1 table.some

theorem getTablePointerVa_writes {pt : UInt64} (base : IsPage t.heapBase) (taken : getTablePointerVa t = .ok (pt,t')) :
    Writes t t' ∧ IsPage t'.heapBase ∧ t'.heapBase < fatAddress := by
  obtain ⟨place,below,rfl⟩ := getTablePointerVa_ok.mp taken
  obtain rfl : pt = tablePage t 1 := place
  have free := tablePage_free base (n := 1) (by decide) (by decide) below
  exact ⟨⟨UInt64.le_of_lt free.1,fun _ _ _ => .inl rfl⟩,tablePage_isPage base (by decide) below,below⟩

theorem cloneKernelPml4_writes {pml4 : UInt64} (base : IsPage t.heapBase) (copied : cloneKernelPml4 t = .ok (pml4,t')) :
    Writes t t' ∧ IsPage t'.heapBase ∧ t'.heapBase < fatAddress := by
  obtain ⟨place,below,rfl⟩ := cloneKernelTable_ok copied
  obtain rfl : pml4 = tablePage t 1 := place
  have free := tablePage_free base (n := 1) (by decide) (by decide) below
  exact ⟨((Apart.refl t).page free _ _ (UInt64.le_of_lt free.1)).writes,tablePage_isPage base (by decide) below,below⟩

end Tables

-- Whatever copy_process returns, it has written to new tables only, and to page 0.
theorem copyProcess_writes {supply : CloneSupply} {filename : Option String} {pid rv : Int} {cloneFlags : UInt64} {s t : System}
    (formed : WellFormed s.tables) (limit : s.tables.heapBase < fatAddress) (done : copyProcess supply filename pid cloneFlags s = .ok (rv,t)) :
    Writes s.tables t.tables ∧ IsPage t.tables.heapBase ∧ t.tables.heapBase < fatAddress := by
  cases copyProcess_cases done with
  | refused => exact ⟨(Apart.refl _).writes,formed.page,limit⟩
  | orphan plain root => exact cloneKernelPml4_writes formed.page root
  | @childless pml4 tables parent thread a b plain root parents threads created =>
      obtain ⟨rfl,_⟩ := createAndInitializeProcessObject_none created
      have same : (System.failed b).tables = tables := (checkThread_ok threads).1.tables
      rw [same]
      exact cloneKernelPml4_writes formed.page root
  | @unloaded pml4 tables parent thread child clone a b u v plain root parents threads created adopted copied =>
      obtain ⟨rfl,_,_,_⟩ := checkParent_ok parents
      have apart := (adoptTables_ok adopted).1
      have parts := (copyParts_ok (show pid.toNat ≠ child by have := (checkParent_ok parents).2.1; omega) copied).1
      have same : (System.failed v).tables = tables.store 0 contextRspEntry controlthreadStack := by
        change v.tables = _
        rw [parts.tables,(adoptTables_ok adopted).2.1,(createAndInitializeProcessObject_ok created).tables,(checkThread_ok threads).1.tables]
        rfl
      obtain ⟨writes,base,below⟩ := cloneKernelPml4_writes formed.page root
      rw [same]
      exact ⟨writes.trans (.null _),base,below⟩
  | @made pml4 tables parent thread child clone a b u v t plain root parents threads created adopted copied finished =>
      obtain ⟨w,cloned⟩ := copyProcess_made done
      have result := cloned.tables formed
      obtain ⟨_,installed⟩ := result.installed
      exact ⟨result.writes,result.page,installed.base ▸ installed.below⟩

section Map

variable {s t : System} {map : Nat → Option Block} {turn : MemoryTurn}

theorem mmMap2mbRegion_ok {tables tables' : Tables} {pa va : UInt64} {rv : Int} (called : mmMap2mbRegion pa va tables = .ok (rv,tables')) :
    ∃ pt u, getTablePointerVa tables = .ok (pt,u) ∧ (pt = 0 ∧ rv = -1 ∧ tables' = u ∨
      rv = 0 ∧ tables' = (mmFillPageTable kernelPdPa (x64GetPdeIndex va) pt pa 0x1B u).2) := by
  simp only [mmMap2mbRegion,bind_ok] at called
  obtain ⟨⟨pt,u⟩,taken,called⟩ := called
  refine ⟨pt,u,taken,?_⟩
  have few := pdIndex_below va
  simp only at called
  split at called
  · rename_i zero
    cases called
    exact .inl ⟨zero,rfl,rfl⟩
  · rw [x64GetPdeIndex_eq,if_neg (by omega)] at called
    cases called
    exact .inr ⟨rfl,by rw [x64GetPdeIndex_eq]⟩

theorem memoryStep_map (mapped : KernelMapped map s.tables) (first : map 0 = some ring0area.block) (step : MemoryStep s turn t)
    (spares : turn.Spares [ring0area]) : KernelMapped (turn.remap map) t.tables ∧ turn.remap map 0 = some ring0area.block := by
  have formed := mapped.formed first rfl
  cases turn with
  | other =>
      rw [show t.tables = s.tables from step.kept.tables]
      exact ⟨mapped,first⟩
  | table =>
      obtain ⟨pt,tables,taken,same⟩ := step
      obtain ⟨writes,base,limit⟩ := getTablePointerVa_writes mapped.base taken
      rw [show t.tables = tables from same.kept.tables]
      exact ⟨mapped.written writes base limit,first⟩
  | device pa va =>
      obtain ⟨rv,tables,called,same⟩ := step
      obtain ⟨pt,u,taken,result⟩ := mmMap2mbRegion_ok called
      have other : pdIndex va ≠ 0 := fun zero => spares ring0area (List.mem_singleton_self _) zero.symm
      have installed := mapped.install taken va (deviceBlock pa)
      rw [show t.tables = tables from same.kept.tables]
      rcases result with ⟨zero,_⟩ | ⟨_,rfl⟩
      · obtain ⟨place,below,_⟩ := getTablePointerVa_ok.mp taken
        have place : pt = tablePage s.tables 1 := place
        have page := tablePage_toNat mapped.base (show 1 < 5 by decide)
        rw [← place,zero,UInt64.toNat_zero] at page
        omega
      · exact ⟨installed,(Function.update_of_ne other.symm _ _).trans first⟩
  | process pid copied =>
      cases copied with
      | false =>
          rw [show t.tables = s.tables from ProcessMade.tables step]
          exact ⟨mapped,first⟩
      | true =>
          obtain ⟨pml4,tables,root,made⟩ := step
          obtain ⟨writes,base,limit⟩ := cloneKernelPml4_writes mapped.base root
          rw [made.tables]
          exact ⟨mapped.written writes base limit,first⟩
  | clone supply filename pid cloneFlags =>
      obtain ⟨rv,done⟩ := step
      obtain ⟨writes,base,limit⟩ := copyProcess_writes formed mapped.limit done
      exact ⟨mapped.written writes base limit,first⟩

end Map

-- The map of the kernel after some turns.
def remapped (map : Nat → Option Block) (turns : List MemoryTurn) : Nat → Option Block := turns.foldl (fun map turn => turn.remap map) map

theorem memory_run_map {s t : System} {map : Nat → Option Block} {turns : List MemoryTurn} (mapped : KernelMapped map s.tables)
    (first : map 0 = some ring0area.block)
    (run : Runs.Path (fun s turn t => MemoryStep s turn t ∧ turn.Spares [ring0area]) s turns t) :
    KernelMapped (remapped map turns) t.tables ∧ remapped map turns 0 = some ring0area.block := by
  have start : KernelMapped (remapped map []) s.tables ∧ remapped map [] 0 = some ring0area.block := ⟨mapped,first⟩
  refine run.history (fun turns t => KernelMapped (remapped map turns) t.tables ∧ remapped map turns 0 = some ring0area.block) ?_ start
  intro turns s turn t before step
  rw [remapped,List.foldl_append]
  exact memoryStep_map before.1 before.2 step.1 step.2

theorem bootMap_first (gSavedLfb : UInt64) : bootMap gSavedLfb 0 = some ring0area.block :=
  bootMap_some.mpr ⟨ring0area,List.mem_cons_self,by decide,rfl⟩

theorem booted_map {gSavedLfb : UInt64} {s t : System} (booted : pagesInitializePaging gSavedLfb s = .ok t)
    (fresh : s.tables.heapBase = tablePointerHeapBase) : KernelMapped (bootMap gSavedLfb) t.tables := by
  obtain ⟨u,result,booting⟩ := pagesInitializePaging_ok gSavedLfb fresh
  cases booted.symm.trans result
  exact booting.mapped

-- The address space of the kernel is a map of blocks, whatever else has been done: each device
-- that is mapped replaces one block of those that the kernel starts with, and clones change
-- none. Where the processor lets the kernel through, virtual_to_physical agrees with it.
theorem kernel_space_maps {gSavedLfb : UInt64} {s t u : System} {turns : List MemoryTurn} (booted : pagesInitializePaging gSavedLfb s = .ok t)
    (fresh : s.tables.heapBase = tablePointerHeapBase)
    (run : Runs.Path (fun s turn t => MemoryStep s turn t ∧ turn.Spares [ring0area]) t turns u) (kind : Access) (va : UInt64) :
    access u.tables.memory gKernelPml4Address kind va = mapAccess (remapped (bootMap gSavedLfb) turns) kind va ∧
      ∀ pa, access u.tables.memory gKernelPml4Address kind va = some pa →
        virtualToPhysical u.tables.memory va gKernelPml4Address = .ok pa := by
  obtain ⟨mapped,_⟩ := memory_run_map (booted_map booted fresh) (bootMap_first gSavedLfb) run
  refine ⟨mapped.access kind va,fun pa reached => ?_⟩
  have allowed := reached
  rw [mapped.access,mapAccess] at allowed
  split at allowed
  · rename_i upper
    obtain ⟨page,walked,rfl⟩ := Option.map_eq_some_iff.mp reached
    have frame := TableWalk.reach_walk walked
    rw [tablePath,upper.1,upper.2] at frame
    exact virtualToPhysical_ok.mpr ⟨upper.1,upper.2,by decide,congrArg (· + (va &&& 0xFFF)) frame.symm⟩
  · cases allowed

-- A kernel that starts, with its frame buffer at 0xFD000000.
def bareSystem : System :=
  {bootSystem 0 with
    kernel := {bootKernel with processList := fun _ => none}
    tables := ⟨fun _ _ => 0,tablePointerHeapBase⟩}

def startedSystem : System :=
  match pagesInitializePaging 0xFD000000 bareSystem with
  | .ok t => t
  | .error _ => bareSystem

-- The local APIC is mapped.
def apicTables : Tables :=
  match mmMap2mbRegion 0xFEE00000 0x31400000 startedSystem.tables with
  | .ok (_,tables) => tables
  | .error _ => startedSystem.tables

theorem kernel_space_maps_apic :
    access apicTables.memory gKernelPml4Address ⟨true,false⟩ 0x314000F0 = some 0xFEE000F0 ∧
      virtualToPhysical apicTables.memory 0x314000F0 gKernelPml4Address = .ok 0xFEE000F0 := by
  have booted : pagesInitializePaging 0xFD000000 bareSystem = .ok startedSystem := rfl
  have step : MemoryStep startedSystem (.device 0xFEE00000 0x31400000) {startedSystem with tables := apicTables} :=
    ⟨0,apicTables,rfl,⟨rfl,rfl,fun _ => rfl⟩,⟨rfl,rfl⟩⟩
  have spares : (MemoryTurn.device 0xFEE00000 0x31400000).Spares [ring0area] := by
    unfold MemoryTurn.Spares
    decide
  obtain ⟨maps,agrees⟩ := kernel_space_maps booted rfl (.step .nil ⟨step,spares⟩) ⟨true,false⟩ 0x314000F0
  have place : mapAccess (remapped (bootMap 0xFD000000) ([] ++ [.device 0xFEE00000 0x31400000])) ⟨true,false⟩ 0x314000F0 = some 0xFEE000F0 := by
    decide +kernel
  exact ⟨maps.trans place,agrees _ (maps.trans place)⟩

end GramadoKernel
