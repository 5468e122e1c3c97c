import GramadoKernel.Creation
import GramadoKernel.LoadFile
import GramadoKernel.PagePool
import GramadoKernel.PageTables
import GramadoKernel.Processes

namespace GramadoKernel

-- clone.h, kpid.h, config.h, x64gva.h, prio.h, quantum.h
def fCloneUnixStyle : UInt64 := 0x0010
def gramadoPidKernel : Nat := 0
def controlthreadEntrypoint : UInt64 := 0x00201000
def controlthreadStack : UInt64 := 0x003FFFF0
def priorityNormalThreshold : UInt64 := 1
def quantumSystemThreshold : UInt64 := quantumMultiplier*4

-- The entry of page 0 where a thread structure at NULL has context.rsp (offset 1272).
def contextRspEntry : Nat := 159

-- struct newpagedpool_d
structure NewPagedPool where
  initialized : Bool
  a1Va : UInt64
  a2Va : UInt64
  b1Va : UInt64
  b2Va : UInt64
  free : Nat → Bool

def slabInitialize (extraheap2 extraheap3 : UInt64) : Except Halt NewPagedPool := do
  require (extraheap2 ≠ 0) (.panic "slab_initialize: address\n")
  require (extraheap3 ≠ 0) (.panic "slab_initialize: address\n")
  .ok ⟨true,extraheap2,extraheap2+0x100000,extraheap3,extraheap3+0x100000,fun _ => true⟩

def NewPagedPool.block (pool : NewPagedPool) (i : Nat) : UInt64 :=
  if i = 0 then pool.a1Va
  else if i = 1 then pool.a2Va
  else if i = 2 then pool.b1Va
  else pool.b2Va

-- Everything that copy_process works on.
structure System extends Processes where
  tables : Tables
  newPagedPool : NewPagedPool
  pool : PagePool
  gHeappoolVa : UInt64
  gHeapCount : Int
  gHeapSize : UInt64
  copyProcessInProgress : Bool

-- What the routines outside answer during one call: kmalloc for the process structure,
-- tty_create, kmalloc for page objects and for the buffers of connectors, the two
-- pointers that allocPages has not initialised, the time, fs_load_image and
-- fsCheckELFFile. The type of a thread is not in this state either.
structure CloneSupply where
  processObject : Bool
  tty : Bool
  page : Nat → Bool
  buffers : Option (Int → UInt8) × Option (Int → UInt8)
  imageConductor : Option Nat
  stackConductor : Option Nat
  systimeMs : UInt64
  loadImage : Int
  checkElf : Int
  systemThread : Bool

def System.withKernel (s : System) (k : Kernel) : System := {s with kernel := k}

def System.setInfo (s : System) (pid : Nat) (change : ProcessInfo → ProcessInfo) : System :=
  {s with toProcesses := s.toProcesses.setInfo pid change}

-- The first of the four blocks that is free, or 0.
def slab1MbAllocator (s : System) : Except Halt (UInt64 × System) :=
  if s.newPagedPool.initialized = false then .ok (0,s)
  else do
    let _ ← pointer (if s.kernel.systemState = .running then currentProcess s.kernel else none) (.panic "slab_1MB_allocator: process\n")
    match (List.range 4).find? fun i => s.newPagedPool.free i = true with
    | none => .ok (0,s)
    | some i => .ok (s.newPagedPool.block i,{s with newPagedPool := {s.newPagedPool with free := Function.update s.newPagedPool.free i false}})

def System.physical (s : System) (va : UInt64) : Except Halt UInt64 := virtualToPhysical s.tables.memory va gKernelPml4Address

-- The pool is below 1 GB, so its addresses are always translated.
def System.supply (s : System) (page : Nat → Bool) : Supply :=
  ⟨page,fun va => match s.physical va with
    | .ok pa => pa
    | .error _ => 0⟩

def mmAllocPages (page : Nat → Bool) (conductor : Option Nat) (size : Int) (s : System) : Except Halt (UInt64 × System) := do
  let (va,pool) ← allocPages (s.supply page) conductor size s.pool
  .ok (va,{s with pool := pool})

-- The image of the child: a block of the slab, or pages.
def imageBase (supply : CloneSupply) (s : System) : Except Halt (UInt64 × System) := do
  let (base,s) ← slab1MbAllocator s
  if base = 0 then mmAllocPages supply.page supply.imageConductor (imagesizeLimitInKb*1024/4096) s
  else .ok (base,s)

-- alloc_memory_for_image_and_stack. The copies of the memory of the father are not in
-- this state.
def allocMemoryForImageAndStack (supply : CloneSupply) (pid : Nat) (s : System) : Except Halt (Int × System) := do
  let process ← pointer (s.kernel.processList pid) (.panic "alloc_memory_for_image_and_stack: process\n")
  require (process.magic = 1234) (.panic "alloc_memory_for_image_and_stack: process validation\n")
  let (base,s) ← imageBase supply s
  require (base ≠ 0) (.panic "alloc_memory_for_image_and_stack: __new_base\n")
  let (stack,s) ← mmAllocPages supply.page supply.stackConductor (32*1024/4096) s
  require (stack ≠ 0) (.panic "alloc_memory_for_image_and_stack: __new_stack\n")
  let basePa ← s.physical base
  let stackPa ← s.physical stack
  require (basePa ≠ 0) (.panic "alloc_memory_for_image_and_stack: new_base_PA\n")
  if stackPa = 0 then .ok (-1,s)
  else .ok (0,s.setInfo pid fun i => {i with childImage := base,childStack := stack,childImagePa := basePa,childStackPa := stackPa})

def getNewPid (k : Kernel) : Option Nat := (List.range processCountMax).find? fun pid => (k.processList pid).isNone

def Kernel.setProcess (k : Kernel) (pid : Nat) (process : Process) : Kernel :=
  {k with processList := Function.update k.processList pid (some process)}

-- create_and_initialize_process_object. The new structure is cleared, so its control
-- thread is NULL when the stack pointer is stored through it.
def createAndInitializeProcessObject (supply : CloneSupply) (s : System) : Except Halt (Option Nat × System) :=
  if supply.processObject = false then .ok (none,s)
  else
    match getNewPid s.kernel with
    | none => .ok (none,s)
    | some pid => do
        require (supply.tty = true) (.panic "create_and_initialize_process_object: tty_create\n")
        require (s.gHeappoolVa ≠ 0) (.panic "create_and_initialize_process_object: g_heappool_va\n")
        require (s.gHeapCount ≠ 0) (.panic "create_and_initialize_process_object: g_heap_count\n")
        require (s.gHeapSize ≠ 0) (.panic "create_and_initialize_process_object: g_heap_size\n")
        let heap := s.gHeappoolVa+UInt64.ofInt s.gHeapCount*s.gHeapSize
        let s := {s with gHeapCount := s.gHeapCount+1}
        let s := {s with tables := s.tables.store 0 contextRspEntry controlthreadStack}
        let s := {s with toProcesses := s.toProcesses.setObjects pid fun _ => none}
        let s := s.setInfo pid fun _ =>
          {ProcessInfo.zeroed with ppid := -1,heapStart := heap,heapSize := s.gHeapSize,heapEnd := heap+s.gHeapSize,image := controlthreadBase}
        .ok (some pid,s.withKernel (s.kernel.setProcess pid ⟨true,1234,pid,0⟩))

def clampQuantum (quantum : UInt64) : UInt64 :=
  let quantum := if quantum < quantumMin then quantumMin else quantum
  if quantumMax < quantum then quantumMax else quantum

-- What copy_thread_struct writes over a new thread.
def Thread.copied (clone father : Thread) : Thread :=
  {clone with
    basePriority := father.basePriority
    priority := father.priority
    state := .blocked
    rflagsCurrentIopl := father.rflagsCurrentIopl
    saved := father.saved
    step := 0
    quantum := clampQuantum father.quantum
    standbyCount := 0
    runningCount := 0
    runningCountMs := 0
    readyCount := 0
    waitingCount := father.waitingCount
    blockedCount := father.blockedCount
    scheduledCount := 0
    yieldInProgress := false
    sleepInProgress := false
    desiredSleepMs := 0
    hasPendingEvent := false
    initialTimeMs := father.initialTimeMs
    totalTimeMs := father.totalTimeMs
    ownerProcess := father.ownerProcess
    context := {father.context with
      ss := father.context.ss &&& 0xFFFF
      cs := father.context.cs &&& 0xFFFF
      fpuBuffer := clone.context.fpuBuffer}}

-- copy_thread_struct. rflags_initial_iopl is 3 in every thread of ring 3.
def copyThreadStruct (father : Nat) (systimeMs : UInt64) (k : Kernel) : Except Halt (Nat × Kernel) := do
  let t := k.thread father
  require (t.magic = 1234) (.panic "copy_thread_struct: father validation\n")
  require (t.cpl = ring3) (.panic "copy_thread_struct: father_cpl!=RING3\n")
  let (made,k) ← createThread 0 0 t.ownerPid (some "clone-thread") t.cpl systimeMs k
  let clone ← pointer made (.panic "copy_thread_struct: clone\n")
  require ((k.thread clone).magic = 1234) (.panic "copy_thread_struct: clone validation\n")
  require ((k.thread clone).cpl = ring3) (.panic "copy_thread_struct: clone_cpl!=RING3\n")
  require (t.context.cs &&& 3 = 3) (.panic "copy_thread_struct: cpl\n")
  .ok (clone,k.modify clone fun c => c.copied t)

def System.failed (s : System) : System := {s with copyProcessInProgress := false}

-- The checks of the process to be cloned; `none` is a failure.
def checkParent (pid : Int) (s : System) : Except Halt (Option Nat) :=
  if pid < 0 ∨ processCountMax ≤ pid then .ok none
  else if ¬ validProcess s.toProcesses pid.toNat then .ok none
  else do
    let info := s.info pid.toNat
    require (info.cpl = ring3) (.panic "copy_process: cpl != RING3\n")
    if info.pml4Va = 0 then .ok none
    else if info.pdpt0Va = 0 then .ok none
    else if info.pd0Va = 0 then .ok none
    else .ok (some pid.toNat)

-- The control thread of the process has to be the one that runs.
def checkThread (pid : Int) (parent : Nat) (s : System) : Except Halt (Nat × System) := do
  let thread ← pointer (s.info parent).control (.panic "copy_process: parent_thread\n")
  require ((s.kernel.thread thread).magic = 1234) (.panic "copy_process: parent_thread validation\n")
  require ((s.kernel.thread thread).cpl = ring3) (.panic "copy_process: parent_thread->cpl\n")
  let own := pidAt s.toProcesses parent
  require ((s.kernel.thread thread).ownerPid = own) (.panic "copy_process: parent_thread->owner_pid\n")
  require (s.kernel.currentThread = (s.kernel.thread thread).tid) (.panic "copy_process: current_thread mismatched\n")
  require (pid = own) (.panic "copy_process: parent_pid mismatched\n")
  require (0 ≤ own ∧ own < processCountMax) (.panic "copy_process: parent_process->pid limits\n")
  require (s.kernel.currentPid = own) (.panic "copy_process: current_process != parent_process->pid\n")
  .ok (thread,s.withKernel (s.kernel.modify thread fun t => {t with state := .running}))

-- The tables of the child: the copy of the PML4, and the others of its father for now.
def adoptTables (pid : Int) (parent child : Nat) (pml4 : UInt64) (s : System) : Except Halt System := do
  require ((child : Int) ≠ pid) (.panic "copy_process: child_pid == parent_pid\n")
  require (child ≠ gramadoPidKernel) (.panic "copy_process: child_pid == GRAMADO_PID_KERNEL\n")
  require (pml4 ≠ 0) (.panic "copy_process: [FAIL] child_process->pml4_VA\n")
  let pml4Pa ← s.physical pml4
  let father := s.info parent
  let s := s.setInfo child fun i =>
    {i with
      pml4Va := pml4
      pdpt0Va := father.pdpt0Va
      pdpt0Pa := father.pdpt0Pa
      pd0Va := father.pd0Va
      pd0Pa := father.pd0Pa}
  .ok (s.withKernel (s.kernel.setProcess child ⟨true,1234,child,pml4Pa⟩))

-- The memory for the child, its structure and its control thread.
def copyParts (supply : CloneSupply) (parent thread child : Nat) (s : System) : Except Halt (Nat × System) := do
  let (status,s) ← allocMemoryForImageAndStack supply parent s
  require (status = 0) (.panic "copy_process: __alloc_memory_for_image_and_stack\n")
  let (status,p) ← copyProcessStruct parent child supply.buffers s.toProcesses
  require (status = 0) (.panic "copy_process: [FAIL] copy_process_struct\n")
  let s := {s with toProcesses := p}
  let (clone,k) ← copyThreadStruct thread supply.systimeMs s.kernel
  let s : System := (s.withKernel k).setInfo child fun i => {i with control := some clone}
  let father : ProcessInfo := s.info parent
  let pml4Pa : UInt64 := match s.kernel.processList child with
    | none => 0
    | some process => process.pml4Pa
  let s : System := s.withKernel (s.kernel.modify clone fun t =>
    {t with
      ownerProcess := true
      ownerPid := child
      context := {t.context with rip := controlthreadEntrypoint,rsp := father.childStack+30*1024}
      pml4Pa := pml4Pa})
  let s : System := s.setInfo child fun i => {i with image := father.childImage,imagePa := father.childImagePa}
  require (father.childImage ≠ 0) (.panic "copy_process: [FAIL] child_process->Image\n")
  require (father.childImagePa ≠ 0) (.panic "copy_process: [FAIL] child_process->ImagePA\n")
  .ok (clone,s)

-- The tables for the image, and the clone is selected for execution.
def finishClone (supply : CloneSupply) (thread child clone : Nat) (s : System) : Except Halt System := do
  let info := s.info child
  require (info.pml4Va ≠ 0) (.panic "copy_process: [2nd time] child_process->pml4_VA\n")
  require (info.pdpt0Va ≠ 0) (.panic "copy_process: [2nd time] child_process->pdpt0_VA\n")
  require (info.pd0Va ≠ 0) (.panic "copy_process: [2nd time] child_process->pd0_VA\n")
  let (made,tables) ← installImage info.pml4Va info.imagePa s.tables
  let s := {s with tables := tables}
  let s := s.setInfo child fun i =>
    {i with
      pd0Va := made.pd0Va
      pd0Pa := made.pd0Pa
      pdpt0Va := made.pdpt0Va
      pdpt0Pa := made.pdpt0Pa
      image := controlthreadBase}
  let priority := if supply.systemThread = true then prioritySystemThreshold else priorityNormalThreshold
  let quantum := if supply.systemThread = true then quantumSystemThreshold else quantumNormalThreshold
  let k := s.kernel.modify thread fun t => {t with priority := priority,quantum := quantum}
  let k := k.modify clone fun t =>
    {t with
      context := {t.context with rip := controlthreadEntrypoint}
      saved := false
      priority := priority
      quantum := quantum
      state := .standby
      standbyCount := 0}
  let current := (k.thread thread).tid
  require (0 ≤ current ∧ current < (threadCountMax : Int)) (.panic "copy_process: current_thread limits\n")
  .ok {s.withKernel {k with currentThread := current} with copyProcessInProgress := false}

def copyProcess (supply : CloneSupply) (filename : Option String) (pid : Int) (cloneFlags : UInt64) (s : System) : Except Halt (Int × System) := do
  let s := {s with copyProcessInProgress := true}
  let name ← pointer filename (.panic "copy_process: filename\n")
  require (name ≠ "") (.panic "copy_process: *filename\n")
  if cloneFlags &&& fCloneUnixStyle ≠ 0 then .ok (-1,s)
  else do
    let (pml4,tables) ← cloneKernelPml4 s.tables
    let s := {s with tables := tables}
    let checked ← checkParent pid s
    match checked with
    | none => .ok (-1,s.failed)
    | some parent => do
        let (thread,s) ← checkThread pid parent s
        let (made,s) ← createAndInitializeProcessObject supply s
        match made with
        | none => .ok (-1,s.failed)
        | some child => do
            let s ← adoptTables pid parent child pml4 s
            let (clone,s) ← copyParts supply parent thread child s
            if supply.loadImage ≠ 0 then .ok (-1,s.failed)
            else if supply.checkElf < 0 then .ok (-1,s.failed)
            else do
              let s ← finishClone supply thread child clone s
              .ok (child,s)

-- What the allocation and the copies leave as it is: page tables, the list of processes
-- and the PML4 of each of them.
structure KeepsTables (s t : System) : Prop where
  tables : t.tables = s.tables
  processes : t.kernel.processList = s.kernel.processList
  pml4 : ∀ pid, (t.info pid).pml4Va = (s.info pid).pml4Va

theorem KeepsTables.refl (s : System) : KeepsTables s s := ⟨rfl,rfl,fun _ => rfl⟩

theorem KeepsTables.trans {s t u : System} (one : KeepsTables s t) (two : KeepsTables t u) : KeepsTables s u :=
  ⟨two.tables.trans one.tables,two.processes.trans one.processes,fun pid => (two.pml4 pid).trans (one.pml4 pid)⟩

theorem setInfo_info (p : Processes) (pid : Nat) (change : ProcessInfo → ProcessInfo) (q : Nat) :
    (p.setInfo pid change).info q = if q = pid then change (p.info pid) else p.info q := by
  by_cases same : q = pid
  · simp [Processes.setInfo,same]
  · simp [Processes.setInfo,same]

theorem KeepsTables.setInfo {s t : System} (keeps : KeepsTables s t) (pid : Nat) {change : ProcessInfo → ProcessInfo}
    (same : ∀ i, (change i).pml4Va = i.pml4Va) : KeepsTables s (t.setInfo pid change) := by
  refine ⟨keeps.tables,keeps.processes,fun q => ?_⟩
  have info := setInfo_info t.toProcesses pid change q
  unfold System.setInfo
  simp only [info]
  by_cases own : q = pid
  · rw [if_pos own,same,own]
    exact keeps.pml4 pid
  · rw [if_neg own]
    exact keeps.pml4 q

theorem slab1MbAllocator_keeps {s t : System} {base : UInt64} (taken : slab1MbAllocator s = .ok (base,t)) : KeepsTables s t := by
  unfold slab1MbAllocator at taken
  split at taken
  · cases taken
    exact .refl s
  · obtain ⟨_,_,taken⟩ := bind_ok.mp taken
    split at taken
    · cases taken
      exact .refl s
    · cases taken
      exact ⟨rfl,rfl,fun _ => rfl⟩

theorem mmAllocPages_keeps {page : Nat → Bool} {conductor : Option Nat} {size : Int} {s t : System} {va : UInt64}
    (taken : mmAllocPages page conductor size s = .ok (va,t)) : KeepsTables s t := by
  obtain ⟨⟨_,pool⟩,_,taken⟩ := bind_ok.mp taken
  cases taken
  exact ⟨rfl,rfl,fun _ => rfl⟩

theorem imageBase_keeps {supply : CloneSupply} {s t : System} {base : UInt64} (taken : imageBase supply s = .ok (base,t)) :
    KeepsTables s t := by
  obtain ⟨⟨first,u⟩,slab,taken⟩ := bind_ok.mp taken
  have kept := slab1MbAllocator_keeps slab
  simp only at taken
  split at taken
  · exact kept.trans (mmAllocPages_keeps taken)
  · cases taken
    exact kept

-- An allocation that succeeds: where the image lies, and where the pages say it does.
theorem allocMemory_ok {supply : CloneSupply} {pid : Nat} {s t : System}
    (taken : allocMemoryForImageAndStack supply pid s = .ok (0,t)) : KeepsTables s t ∧ ∃ base u, imageBase supply s = .ok (base,u) ∧
      s.physical base = .ok (t.info pid).childImagePa ∧ (t.info pid).childImage = base := by
  simp only [allocMemoryForImageAndStack,bind_ok,require_ok,pointer_ok] at taken
  obtain ⟨process,_,_,_,⟨base,u⟩,image,_,_,⟨stack,v⟩,pages,_,_,basePa,physical,stackPa,_,_,_,taken⟩ := taken
  simp only at physical taken
  split at taken
  · cases taken
  · cases taken
    have kept := (imageBase_keeps image).trans (mmAllocPages_keeps pages)
    refine ⟨kept.setInfo pid fun _ => rfl,base,u,image,?_,?_⟩
    · simp only [System.setInfo,setInfo_info,if_true]
      unfold System.physical at physical ⊢
      rw [← kept.tables]
      exact physical
    · simp only [System.setInfo,setInfo_info,if_true]

-- What copy_process_struct leaves as it is.
structure KeepsImages (child : Nat) (p q : Processes) : Prop where
  kernel : q.kernel = p.kernel
  pml4 : ∀ pid, (q.info pid).pml4Va = (p.info pid).pml4Va
  image : ∀ pid, pid ≠ child → (q.info pid).childImage = (p.info pid).childImage ∧ (q.info pid).childImagePa = (p.info pid).childImagePa

theorem KeepsImages.trans {child : Nat} {p q r : Processes} (one : KeepsImages child p q) (two : KeepsImages child q r) :
    KeepsImages child p r :=
  ⟨two.kernel.trans one.kernel,fun pid => (two.pml4 pid).trans (one.pml4 pid),fun pid other =>
    ⟨(two.image pid other).1.trans (one.image pid other).1,(two.image pid other).2.trans (one.image pid other).2⟩⟩

theorem KeepsImages.same {child : Nat} {p q : Processes} (kernel : q.kernel = p.kernel) (info : q.info = p.info) : KeepsImages child p q :=
  ⟨kernel,fun pid => by rw [info],fun pid _ => by rw [info]; exact ⟨rfl,rfl⟩⟩

theorem KeepsImages.setInfo (p : Processes) (pid child : Nat) {change : ProcessInfo → ProcessInfo} (same : ∀ i, (change i).pml4Va = i.pml4Va)
    (image : pid ≠ child → ∀ i, (change i).childImage = i.childImage ∧ (change i).childImagePa = i.childImagePa) :
    KeepsImages child p (p.setInfo pid change) := by
  refine ⟨rfl,fun q => ?_,fun q other => ?_⟩
  · rw [setInfo_info]
    split
    · rename_i own
      rw [same,own]
    · rfl
  · rw [setInfo_info]
    split
    · rename_i own
      rw [own]
      exact image (own ▸ other) _
    · exact ⟨rfl,rfl⟩

theorem newFile_keeps {object : ObjectType} {buffer : Option (Int → UInt8)} {p q : Processes} {id child : Nat}
    (made : newFile object buffer p = .ok (id,q)) : KeepsImages child p q := by
  simp only [newFile,bind_ok,pointer_ok] at made
  obtain ⟨_,_,_,_,_,_,made⟩ := made
  cases made
  exact .same rfl rfl

theorem connect_keeps {pid connector1 connector2 child : Nat} {p q : Processes} (made : p.connect pid connector1 connector2 = .ok q) :
    KeepsImages child p q := by
  simp only [Processes.connect,bind_ok,pointer_ok] at made
  obtain ⟨_,_,_,_,made⟩ := made
  cases made
  have objects : ∀ table, KeepsImages child p (p.setObjects pid table) := fun _ => .same rfl rfl
  exact (objects _).trans (.setInfo _ pid child (fun _ => rfl) fun _ _ => ⟨rfl,rfl⟩)

theorem copyProcessStruct_keeps {father child : Nat} {buffers : Option (Int → UInt8) × Option (Int → UInt8)} {p q : Processes} {status : Int}
    (copied : copyProcessStruct father child buffers p = .ok (status,q)) : KeepsImages child p q := by
  unfold copyProcessStruct at copied
  split at copied
  · cases copied
    exact .same rfl rfl
  split at copied
  · cases copied
    exact .same rfl rfl
  have first : KeepsImages child p (p.setInfo child fun i =>
      {i with
        ppid := pidAt p father
        image := (p.info father).childImage
        imagePa := (p.info father).childImagePa
        childImage := 0
        childImagePa := 0
        cpl := (p.info father).cpl}) := .setInfo p child child (fun _ => rfl) fun apart => absurd rfl apart
  have second := first.trans (.same (q := Processes.inherit _ father child) rfl rfl)
  simp only at copied
  split at copied
  · simp only [bind_ok] at copied
    obtain ⟨⟨_,r⟩,connector1,⟨_,u⟩,connector2,v,fathers,w,childs,copied⟩ := copied
    cases copied
    have third := (second.trans (newFile_keeps connector1)).trans (newFile_keeps connector2)
    have fourth := (third.trans (connect_keeps fathers)).trans (connect_keeps childs)
    exact fourth.trans (.setInfo w child child (fun _ => rfl) fun _ _ => ⟨rfl,rfl⟩)
  · cases copied
    exact second

theorem createThread_processes {rip stack cpl ms : UInt64} {pid : Int} {name : Option String} {k k' : Kernel} {made : Option Nat}
    (created : createThread rip stack pid name cpl ms k = .ok (made,k')) : k'.processList = k.processList := by
  simp only [createThread,bind_ok,require_ok,pointer_ok] at created
  obtain ⟨_,_,text,_,_,_,_,_,created⟩ := created
  split at created
  · cases created
    rfl
  · simp only [bind_ok,require_ok,pointer_ok,Except.ok.injEq,Prod.mk.injEq] at created
    obtain ⟨_,_,_,_,_,_,_,_,_,_,_,_,_,rfl⟩ := created
    rfl

theorem copyThreadStruct_processes {father clone : Nat} {ms : UInt64} {k k' : Kernel} (copied : copyThreadStruct father ms k = .ok (clone,k')) :
    k'.processList = k.processList := by
  simp only [copyThreadStruct,bind_ok,require_ok,pointer_ok,Except.ok.injEq,Prod.mk.injEq] at copied
  obtain ⟨_,_,_,_,⟨made,_⟩,created,_,_,_,_,_,_,_,_,_,rfl⟩ := copied
  have same := createThread_processes created
  exact same

-- The parts of the child: its image is where the allocation put it.
theorem copyParts_ok {supply : CloneSupply} {parent thread child clone : Nat} {s t : System} (apart : parent ≠ child)
    (copied : copyParts supply parent thread child s = .ok (clone,t)) : KeepsTables s t ∧ ∃ base u, imageBase supply s = .ok (base,u) ∧
      s.physical base = .ok (t.info child).imagePa := by
  simp only [copyParts,bind_ok,require_ok] at copied
  obtain ⟨⟨status,u⟩,taken,_,done,⟨_,p⟩,struct,_,_,⟨clone,k⟩,thread,_,_,_,_,copied⟩ := copied
  simp only at done
  subst done
  obtain ⟨kept,base,v,image,physical,_⟩ := allocMemory_ok taken
  have structs := copyProcessStruct_keeps struct
  have threads := copyThreadStruct_processes thread
  cases copied
  have middle : KeepsTables u (System.withKernel {u with toProcesses := p} k) :=
    ⟨rfl,threads.trans (congrArg Kernel.processList structs.kernel),structs.pml4⟩
  have control : KeepsTables u (System.setInfo (System.withKernel {u with toProcesses := p} k) child fun i => {i with control := some clone}) :=
    middle.setInfo child fun _ => rfl
  refine ⟨kept.trans ?_,base,v,image,?_⟩
  · refine KeepsTables.setInfo ?_ child fun _ => rfl
    exact ⟨control.tables,control.processes,control.pml4⟩
  · rw [physical]
    have images := (structs.image parent apart).2
    simp [System.setInfo,System.withKernel,setInfo_info,apart,images]

-- A new process structure: only page 0 of the tables is written.
structure CreatedProcess (s : System) (child : Nat) (t : System) : Prop where
  fresh : s.kernel.processList child = none
  tables : t.tables = s.tables.store 0 contextRspEntry controlthreadStack
  kernel : t.kernel = s.kernel.setProcess child ⟨true,1234,child,0⟩
  info : ∀ pid, pid ≠ child → t.info pid = s.info pid
  blocks : t.newPagedPool = s.newPagedPool
  pages : t.pool = s.pool

theorem createAndInitializeProcessObject_ok {supply : CloneSupply} {s t : System} {child : Nat}
    (created : createAndInitializeProcessObject supply s = .ok (some child,t)) : CreatedProcess s child t := by
  unfold createAndInitializeProcessObject at created
  split at created
  · cases created
  split at created
  · cases created
  · rename_i pid found
    have free : (s.kernel.processList pid).isNone = true := by simpa using List.find?_some found
    simp only [bind_ok,require_ok,Except.ok.injEq,Prod.mk.injEq,Option.some.injEq] at created
    obtain ⟨_,_,_,_,_,_,_,_,rfl,rfl⟩ := created
    refine ⟨Option.isNone_iff_eq_none.mp free,rfl,rfl,fun q other => ?_,rfl,rfl⟩
    simp [System.setInfo,System.withKernel,setInfo_info,other,Processes.setObjects]

theorem createAndInitializeProcessObject_none {supply : CloneSupply} {s t : System}
    (created : createAndInitializeProcessObject supply s = .ok (none,t)) :
    t = s ∧ (supply.processObject = false ∨ getNewPid s.kernel = none) := by
  unfold createAndInitializeProcessObject at created
  split at created
  · rename_i none
    cases created
    exact ⟨rfl,.inl none⟩
  split at created
  · rename_i full
    cases created
    exact ⟨rfl,.inr full⟩
  · simp [bind_ok] at created

-- What the checks of the parent's thread leave as it is.
theorem checkThread_ok {pid : Int} {parent thread : Nat} {s t : System} (checked : checkThread pid parent s = .ok (thread,t)) :
    KeepsTables s t ∧ t.newPagedPool = s.newPagedPool ∧ t.pool = s.pool ∧ t.kernel.systemState = s.kernel.systemState ∧
      t.kernel.currentPid = s.kernel.currentPid ∧ pid = s.kernel.currentPid := by
  simp only [checkThread,bind_ok,require_ok,pointer_ok,Except.ok.injEq,Prod.mk.injEq] at checked
  obtain ⟨_,_,_,_,_,_,_,_,_,_,_,own,_,_,_,current,rfl,rfl⟩ := checked
  exact ⟨⟨rfl,rfl,fun _ => rfl⟩,rfl,rfl,rfl,rfl,own.trans current.symm⟩

theorem adoptTables_ok {pid : Int} {parent child : Nat} {pml4 : UInt64} {s t : System} (adopted : adoptTables pid parent child pml4 s = .ok t) :
    (child : Int) ≠ pid ∧ t.tables = s.tables ∧ t.newPagedPool = s.newPagedPool ∧ t.pool = s.pool ∧ (t.info child).pml4Va = pml4 ∧
      (∀ q, q ≠ child → t.info q = s.info q) ∧ ∃ pml4Pa, t.kernel = s.kernel.setProcess child ⟨true,1234,child,pml4Pa⟩ := by
  simp only [adoptTables,bind_ok,require_ok,Except.ok.injEq] at adopted
  obtain ⟨_,apart,_,_,_,_,pml4Pa,_,rfl⟩ := adopted
  refine ⟨apart,rfl,rfl,rfl,?_,fun q other => ?_,pml4Pa,rfl⟩
  · simp [System.setInfo,System.withKernel,setInfo_info]
  · simp [System.setInfo,System.withKernel,setInfo_info,other]

theorem finishClone_ok {supply : CloneSupply} {thread child clone : Nat} {s t : System} (finished : finishClone supply thread child clone s = .ok t) :
    (∃ made, installImage (s.info child).pml4Va (s.info child).imagePa s.tables = .ok (made,t.tables)) ∧
      t.kernel.processList = s.kernel.processList ∧
      ∀ pid, (t.info pid).pml4Va = (s.info pid).pml4Va ∧ (t.info pid).imagePa = (s.info pid).imagePa := by
  simp only [finishClone,bind_ok,require_ok,Except.ok.injEq] at finished
  obtain ⟨_,_,_,_,_,_,⟨made,tables⟩,installed,_,_,rfl⟩ := finished
  refine ⟨⟨made,installed⟩,rfl,fun pid => ?_⟩
  simp only [System.setInfo,System.withKernel,setInfo_info]
  by_cases own : pid = child
  · simp [own]
  · simp [own]

-- A clone whose pid is returned: the memory for the image is allocated in the state
-- `u`, and from there on the tables change only where the image is installed.
structure Cloned (supply : CloneSupply) (s : System) (child : Nat) (u t : System) : Prop where
  fresh : s.kernel.processList child = none
  listed : ∃ process, t.kernel.processList child = some process
  others : ∀ pid, pid ≠ child → t.kernel.processList pid = s.kernel.processList pid ∧ (t.info pid).pml4Va = (s.info pid).pml4Va
  root : ∃ first, cloneKernelPml4 s.tables = .ok ((t.info child).pml4Va,first) ∧
    u.tables = first.store 0 contextRspEntry controlthreadStack
  blocks : u.newPagedPool = s.newPagedPool
  pages : u.pool = s.pool
  running : u.kernel.systemState = s.kernel.systemState
  current : currentProcess u.kernel = currentProcess s.kernel
  image : ∃ base v, imageBase supply u = .ok (base,v) ∧ u.physical base = .ok (t.info child).imagePa
  installed : ∃ made, installImage (t.info child).pml4Va (t.info child).imagePa u.tables = .ok (made,t.tables)

theorem checkParent_ok {pid : Int} {parent : Nat} {s : System} (checked : checkParent pid s = .ok (some parent)) :
    parent = pid.toNat ∧ 0 ≤ pid ∧ pid < processCountMax ∧ validProcess s.toProcesses parent := by
  unfold checkParent at checked
  split at checked
  · cases checked
  split at checked
  · cases checked
  rename_i limits valid
  simp only [bind_ok,require_ok] at checked
  obtain ⟨_,_,checked⟩ := checked
  have same : parent = pid.toNat := by
    split at checked
    · cases checked
    split at checked
    · cases checked
    split at checked
    · cases checked
    · cases checked
      rfl
  exact ⟨same,by omega,by omega,same ▸ not_not.mp valid⟩

-- The state in which copy_process checks the parent: the flag is set, and the PML4 is
-- copied.
def System.cloning (s : System) (tables : Tables) : System := {s with copyProcessInProgress := true,tables := tables}

-- The ways in which copy_process returns.
inductive CloneEnds (supply : CloneSupply) (pid : Int) (cloneFlags : UInt64) (s : System) : Int → System → Prop where
  | refused (unixStyle : cloneFlags &&& fCloneUnixStyle ≠ 0) : CloneEnds supply pid cloneFlags s (-1) {s with copyProcessInProgress := true}
  | orphan {pml4 tables} (plain : cloneFlags &&& fCloneUnixStyle = 0) (root : cloneKernelPml4 s.tables = .ok (pml4,tables))
      (parents : checkParent pid (s.cloning tables) = .ok none) : CloneEnds supply pid cloneFlags s (-1) (s.cloning tables).failed
  | childless {pml4 tables parent thread a b} (plain : cloneFlags &&& fCloneUnixStyle = 0) (root : cloneKernelPml4 s.tables = .ok (pml4,tables))
      (parents : checkParent pid (s.cloning tables) = .ok (some parent)) (threads : checkThread pid parent (s.cloning tables) = .ok (thread,a))
      (created : createAndInitializeProcessObject supply a = .ok (none,b)) : CloneEnds supply pid cloneFlags s (-1) b.failed
  | unloaded {pml4 tables parent thread child clone a b u v} (plain : cloneFlags &&& fCloneUnixStyle = 0)
      (root : cloneKernelPml4 s.tables = .ok (pml4,tables)) (parents : checkParent pid (s.cloning tables) = .ok (some parent))
      (threads : checkThread pid parent (s.cloning tables) = .ok (thread,a)) (created : createAndInitializeProcessObject supply a = .ok (some child,b))
      (adopted : adoptTables pid parent child pml4 b = .ok u) (copied : copyParts supply parent thread child u = .ok (clone,v))
      (unloaded : supply.loadImage ≠ 0 ∨ supply.checkElf < 0) : CloneEnds supply pid cloneFlags s (-1) v.failed
  | made {pml4 tables parent thread child clone a b u v t} (plain : cloneFlags &&& fCloneUnixStyle = 0)
      (root : cloneKernelPml4 s.tables = .ok (pml4,tables)) (parents : checkParent pid (s.cloning tables) = .ok (some parent))
      (threads : checkThread pid parent (s.cloning tables) = .ok (thread,a)) (created : createAndInitializeProcessObject supply a = .ok (some child,b))
      (adopted : adoptTables pid parent child pml4 b = .ok u) (copied : copyParts supply parent thread child u = .ok (clone,v))
      (finished : finishClone supply thread child clone v = .ok t) : CloneEnds supply pid cloneFlags s child t

theorem copyProcess_cases {supply : CloneSupply} {filename : Option String} {pid r : Int} {cloneFlags : UInt64} {s t : System}
    (done : copyProcess supply filename pid cloneFlags s = .ok (r,t)) : CloneEnds supply pid cloneFlags s r t := by
  unfold copyProcess at done
  obtain ⟨name,_,done⟩ := bind_ok.mp done
  obtain ⟨_,_,done⟩ := bind_ok.mp done
  split at done
  · rename_i unixStyle
    cases done
    exact .refused unixStyle
  rename_i plain
  have plain := not_not.mp plain
  obtain ⟨⟨pml4,tables⟩,root,done⟩ := bind_ok.mp done
  obtain ⟨checked,parents,done⟩ := bind_ok.mp done
  rcases checked with _ | parent
  · cases done
    exact .orphan plain root parents
  obtain ⟨⟨thread,a⟩,threads,done⟩ := bind_ok.mp done
  obtain ⟨⟨made,b⟩,created,done⟩ := bind_ok.mp done
  rcases made with _ | child
  · cases done
    exact .childless plain root parents threads created
  obtain ⟨u,adopted,done⟩ := bind_ok.mp done
  obtain ⟨⟨clone,v⟩,copied,done⟩ := bind_ok.mp done
  simp only at done
  split at done
  · rename_i failed
    cases done
    exact .unloaded plain root parents threads created adopted copied (.inl failed)
  split at done
  · rename_i failed
    cases done
    exact .unloaded plain root parents threads created adopted copied (.inr failed)
  obtain ⟨w,finished,done⟩ := bind_ok.mp done
  cases done
  exact .made plain root parents threads created adopted copied finished

theorem setProcess_processList (k : Kernel) (pid : Nat) (process : Process) (q : Nat) :
    (k.setProcess pid process).processList q = if q = pid then some process else k.processList q := by
  by_cases own : q = pid
  · simp [Kernel.setProcess,own]
  · simp [Kernel.setProcess,own]

-- A process in a slot that is not the current one.
theorem currentProcess_setProcess {k : Kernel} {pid : Nat} (process : Process) (other : (pid : Int) ≠ k.currentPid) :
    currentProcess (k.setProcess pid process) = currentProcess k := by
  unfold currentProcess
  have pids : (k.setProcess pid process).currentPid = k.currentPid := rfl
  rw [pids]
  split
  · rename_i limits
    have apart : k.currentPid.toNat ≠ pid := by omega
    rw [setProcess_processList,if_neg apart]
  · rfl

theorem copyProcess_made {supply : CloneSupply} {filename : Option String} {pid : Int} {cloneFlags : UInt64} {s t : System} {child : Nat}
    (done : copyProcess supply filename pid cloneFlags s = .ok (child,t)) : ∃ u, Cloned supply s child u t := by
  generalize result : (child : Int) = r at done
  cases copyProcess_cases done with
  | refused => omega
  | orphan => omega
  | childless => omega
  | unloaded => omega
  | @made pml4 tables parent thread child' clone a b u v t plain root parents threads created adopted copied finished =>
      obtain rfl : child = child' := by omega
      obtain ⟨rfl,nonneg,_,_⟩ := checkParent_ok parents
      obtain ⟨checked,blocksA,pagesA,runningA,currentA,own⟩ := checkThread_ok threads
      have fresh := createAndInitializeProcessObject_ok created
      obtain ⟨apart,tablesU,blocksU,pagesU,rootU,othersU,pml4Pa,kernelU⟩ := adoptTables_ok adopted
      obtain ⟨parts,base,w,image,physical⟩ := copyParts_ok (show pid.toNat ≠ child by omega) copied
      obtain ⟨⟨made,installed⟩,lists,infos⟩ := finishClone_ok finished
      have pml4Va : (t.info child).pml4Va = pml4 := ((infos child).1.trans (parts.pml4 child)).trans rootU
      have listU : ∀ q, u.kernel.processList q = if q = child then some ⟨true,1234,child,pml4Pa⟩ else s.kernel.processList q := by
        intro q
        rw [kernelU,fresh.kernel,setProcess_processList,setProcess_processList,checked.processes]
        split
        · rfl
        · rfl
      have listT : t.kernel.processList = u.kernel.processList := lists.trans parts.processes
      have current : currentProcess a.kernel = currentProcess s.kernel := by
        unfold currentProcess
        rw [currentA,checked.processes]
        rfl
      have other : (child : Int) ≠ a.kernel.currentPid := by
        rw [currentA]
        exact fun same => apart (same.trans own.symm)
      refine ⟨u,⟨?_,?_,?_,?_,?_,?_,?_,?_,?_,?_⟩⟩
      · rw [← fresh.fresh,checked.processes]
        rfl
      · exact ⟨_,(congrFun listT child).trans ((listU child).trans (if_pos rfl))⟩
      · intro q different
        refine ⟨by rw [listT,listU,if_neg different],?_⟩
        rw [(infos q).1,parts.pml4,othersU q different,fresh.info q different,checked.pml4]
        rfl
      · rw [pml4Va,tablesU,fresh.tables,checked.tables]
        exact ⟨tables,root,rfl⟩
      · exact blocksU.trans (fresh.blocks.trans blocksA)
      · exact pagesU.trans (fresh.pages.trans pagesA)
      · rw [kernelU,fresh.kernel]
        exact runningA
      · rw [kernelU,currentProcess_setProcess _ (by rw [fresh.kernel]; exact other),fresh.kernel,currentProcess_setProcess _ other]
        exact current
      · rw [(infos child).2]
        exact ⟨base,w,image,physical⟩
      · rw [(infos child).1,(infos child).2,← parts.tables]
        exact ⟨made,installed⟩

end GramadoKernel
