import GramadoKernel.Library.Runs
import GramadoKernel.Cloning

namespace GramadoKernel

-- Only free pages are written, and the entry of page 0 that the store through the
-- NULL control thread falls on.
structure Writes (t t' : Tables) : Prop where
  base : t.heapBase ≤ t'.heapBase
  same : ∀ page i, ¬ t.Free page → t'.memory page i = t.memory page i ∨
    (page,i) = (0,contextRspEntry) ∧ t'.memory page i = controlthreadStack

theorem Apart.writes {t t' : Tables} (apart : Apart t t') : Writes t t' :=
  ⟨apart.base,fun page i taken => .inl (apart.same page i taken)⟩

theorem Writes.free {t t' : Tables} (writes : Writes t t') {page : UInt64} (free : t'.Free page) : t.Free page :=
  ⟨UInt64.lt_of_le_of_lt writes.base free.1,free.2⟩

theorem Writes.trans {t u v : Tables} (one : Writes t u) (two : Writes u v) : Writes t v := by
  refine ⟨UInt64.le_trans one.base two.base,fun page i taken => ?_⟩
  rcases two.same page i fun free => taken (one.free free) with same | null
  · rcases one.same page i taken with first | ⟨cell,value⟩
    · exact .inl (same.trans first)
    · exact .inr ⟨cell,same.trans value⟩
  · exact .inr null

theorem Writes.null (t : Tables) : Writes t (t.store 0 contextRspEntry controlthreadStack) := by
  refine ⟨UInt64.le_refl _,fun page i _ => ?_⟩
  simp only [Tables.store,TableWalk.store_apply]
  split
  · rename_i cell
    exact .inr ⟨Prod.ext cell.1 cell.2,rfl⟩
  · exact .inl rfl

-- The entry of page 0 leads where the stored value leads, or no walk of the address
-- space comes to it.
def NullSafe (t : Tables) (pml4 : UInt64) : Prop :=
  target (t.memory 0 contextRspEntry) = target controlthreadStack ∨
    ∀ d < 512, ∀ i < 512, (0,contextRspEntry) ∉ reads t.memory pml4 d i

section Spaces

variable {t t' : Tables} {pml4 : UInt64} {d i : Nat}

theorem Writes.targets (writes : Writes t t') (space : Sealed t pml4) (safe : NullSafe t pml4) (first : d < 512) (second : i < 512)
    {cell : UInt64 × Nat} (member : cell ∈ reads t.memory pml4 d i) : target (t'.memory cell.1 cell.2) = target (t.memory cell.1 cell.2) := by
  rcases writes.same cell.1 cell.2 (space d first i second cell member) with same | ⟨null,value⟩
  · rw [same]
  · obtain rfl : cell = (0,contextRspEntry) := null
    rcases safe with equal | never
    · rw [value,equal]
    · exact absurd member (never d first i second)

theorem Writes.reads (writes : Writes t t') (space : Sealed t pml4) (safe : NullSafe t pml4) (first : d < 512) (second : i < 512) :
    reads t'.memory pml4 d i = reads t.memory pml4 d i :=
  TableWalk.cells_same fun _ member => writes.targets space safe first second member

theorem Writes.frame (writes : Writes t t') (space : Sealed t pml4) (safe : NullSafe t pml4) (first : d < 512) (second : i < 512) :
    frame t'.memory pml4 d i = frame t.memory pml4 d i :=
  TableWalk.walk_same fun _ member => writes.targets space safe first second member

theorem Writes.sealed (writes : Writes t t') (space : Sealed t pml4) (safe : NullSafe t pml4) : Sealed t' pml4 := by
  intro d first i second cell member free
  rw [writes.reads space safe first second] at member
  exact space d first i second cell member (writes.free free)

theorem Writes.translation (writes : Writes t t') (space : Sealed t pml4) (safe : NullSafe t pml4) (va : UInt64) :
    virtualToPhysical t'.memory va pml4 = virtualToPhysical t.memory va pml4 :=
  virtualToPhysical_same (fun _ first _ second => writes.frame space safe first second) va

end Spaces

-- The tables of the kernel are above the pages for tables.
theorem kernelTable_taken (t : Tables) {page : UInt64} (above : fatAddress ≤ page) : ¬ t.Free page := fun free =>
  absurd free.2 (UInt64.not_lt.mpr above)

theorem Writes.kernelTable {t t' : Tables} (writes : Writes t t') {page : UInt64} (above : fatAddress ≤ page) (i : Nat) :
    t'.memory page i = t.memory page i := by
  rcases writes.same page i (kernelTable_taken t above) with same | ⟨null,_⟩
  · exact same
  · obtain rfl := congrArg Prod.fst null
    exact absurd above (by decide)

-- The cells and the frames of the kernel's own tables.
theorem kernel_reads {t : Tables} (pdpt : target (t.memory gKernelPml4Address 0) = kernelPdptPa)
    (pd : target (t.memory kernelPdptPa 0) = kernelPdPa) (d i : Nat) : reads t.memory gKernelPml4Address d i =
      [(gKernelPml4Address,0),(kernelPdptPa,0),(kernelPdPa,d),(target (t.memory kernelPdPa d),i)] := by
  simp only [reads,TableWalk.cells,pdpt,pd]

theorem kernel_frame {t : Tables} (pdpt : target (t.memory gKernelPml4Address 0) = kernelPdptPa)
    (pd : target (t.memory kernelPdptPa 0) = kernelPdPa) (d i : Nat) :
    frame t.memory gKernelPml4Address d i = target (t.memory (target (t.memory kernelPdPa d)) i) := by
  simp only [frame,TableWalk.walk,pdpt,pd]

-- The tables of the kernel itself never come to page 0 before their last step, and the
-- entries for the free pages lie before the one that is written there.
theorem WellFormed.written {t t' : Tables} (formed : WellFormed t) (writes : Writes t t') (page : IsPage t'.heapBase) : WellFormed t' := by
  have pdpt : target (t'.memory gKernelPml4Address 0) = kernelPdptPa := by
    rw [writes.kernelTable (by decide)]
    exact formed.pdpt
  have pd : target (t'.memory kernelPdptPa 0) = kernelPdPa := by
    rw [writes.kernelTable (by decide)]
    exact formed.pd
  have table : ∀ d, target (t'.memory kernelPdPa d) = target (t.memory kernelPdPa d) := fun d => by rw [writes.kernelTable (by decide)]
  have cells : ∀ d i, reads t'.memory gKernelPml4Address d i = reads t.memory gKernelPml4Address d i := fun d i => by
    rw [kernel_reads pdpt pd,kernel_reads formed.pdpt formed.pd,table]
  refine ⟨page,pdpt,pd,fun p free place => ?_,fun d first i second cell member free => ?_⟩
  · have bounds := isPage_iff.mp place
    have limit : p.toNat < 0x30000 := UInt64.lt_iff_toNat_lt.mp free.2
    have low : Low p := by
      unfold Low
      omega
    have early : ptIndex p < contextRspEntry := by
      rw [ptIndex_toNat,contextRspEntry]
      omega
    have cell : (target (t.memory kernelPdPa (pdIndex p)),ptIndex p) ∈ reads t.memory gKernelPml4Address (pdIndex p) (ptIndex p) := by
      rw [kernel_reads formed.pdpt formed.pd]
      simp
    have entry : t'.memory (target (t.memory kernelPdPa (pdIndex p))) (ptIndex p) =
        t.memory (target (t.memory kernelPdPa (pdIndex p))) (ptIndex p) := by
      rcases writes.same _ (ptIndex p) (formed.kernel _ (pdIndex_below p) _ (ptIndex_below p) _ cell) with same | ⟨null,_⟩
      · exact same
      · exact absurd (Prod.mk.inj null).2 (Nat.ne_of_lt early)
    have frames : frame t'.memory gKernelPml4Address (pdIndex p) (ptIndex p) = frame t.memory gKernelPml4Address (pdIndex p) (ptIndex p) := by
      rw [kernel_frame pdpt pd,kernel_frame formed.pdpt formed.pd,table,entry]
    have before := formed.identity p (writes.free free) place
    rw [virtualToPhysical_low _ low (by decide)] at before ⊢
    unfold frame at frames
    rw [frames]
    exact before
  · rw [cells] at member
    exact formed.kernel d first i second cell member (writes.free free)

-- The 2 MB from CONTROLTHREAD_BASE on.
def InWindow (va : UInt64) : Prop := controlthreadBase ≤ va ∧ va < controlthreadBase+0x200000

theorem inWindow_iff {va : UInt64} : InWindow va ↔ 0x200000 ≤ va.toNat ∧ va.toNat < 0x400000 := by
  simp only [InWindow,UInt64.le_iff_toNat_le,UInt64.lt_iff_toNat_lt]
  exact Iff.rfl

theorem pdIndex_window {va : UInt64} (low : Low va) : pdIndex va = 1 ↔ InWindow va := by
  rw [pdIndex_toNat,inWindow_iff]
  unfold Low at low
  omega

section Child

variable {t t' : Tables} {pml4 imagePa : UInt64} {r : ImageTables}

-- The page table of the child for an entry of its directory.
def childTable (t : Tables) (d : Nat) : UInt64 := if d = 1 then tablePage t 1 else target (t.memory kernelPdPa d)

theorem Installed.page (installed : Installed t pml4 imagePa r t') (formed : WellFormed t) {n : Nat} (few : n ≤ 3) :
    target (tablePage t n ||| 7) = tablePage t n := by
  rw [target_flags]
  exact tablePage_isPage formed.page (by omega) (tablePage_before formed.page (by decide) few installed.below)

theorem Installed.directory (installed : Installed t pml4 imagePa r t') (formed : WellFormed t) (d : Nat) :
    target (t'.memory (tablePage t 2) d) = childTable t d := by
  rw [installed.pd,childTable]
  split
  · exact installed.page formed (by decide)
  · rfl

theorem Installed.reads (installed : Installed t pml4 imagePa r t') (formed : WellFormed t) (d i : Nat) :
    reads t'.memory pml4 d i = [(pml4,0),(tablePage t 3,0),(tablePage t 2,d),(childTable t d,i)] := by
  simp only [GramadoKernel.reads,TableWalk.cells,installed.root,installed.page formed (Nat.le_refl 3),installed.pdpt,
    installed.page formed (show 2 ≤ 3 by decide),installed.directory formed]

theorem Installed.frame (installed : Installed t pml4 imagePa r t') (formed : WellFormed t) (d i : Nat) :
    frame t'.memory pml4 d i = target (t'.memory (childTable t d) i) := by
  simp only [GramadoKernel.frame,TableWalk.walk,installed.root,installed.page formed (Nat.le_refl 3),installed.pdpt,
    installed.page formed (show 2 ≤ 3 by decide),installed.directory formed]

theorem Installed.window (installed : Installed t pml4 imagePa r t') (formed : WellFormed t) (root : pml4 ≠ 0) (place : IsPage imagePa)
    (within : imagePa.toNat+0x200000 ≤ 2^48) {va : UInt64} (inside : InWindow va) :
    virtualToPhysical t'.memory va pml4 = .ok (imagePa+(va-controlthreadBase)) := by
  have bounds := inWindow_iff.mp inside
  have low : Low va := by
    unfold Low
    omega
  have below := ptIndex_below va
  have entry := installed.frame formed 1 (ptIndex va)
  rw [childTable,if_pos rfl,installed.pt,target_filledPage place (by omega)] at entry
  unfold GramadoKernel.frame at entry
  rw [virtualToPhysical_low _ low root,(pdIndex_window low).mpr inside,entry]
  apply congrArg
  apply UInt64.toNat_inj.mp
  have base : controlthreadBase.toNat = 0x200000 := rfl
  have whole : (va-controlthreadBase).toNat = va.toNat-0x200000 := UInt64.toNat_sub_of_le _ _ inside.1
  rw [UInt64.toNat_add,UInt64.toNat_add,UInt64.toNat_add,offset_toNat,UInt64.toNat_ofNat',whole,ptIndex_toNat]
  omega

theorem Installed.elsewhere (installed : Installed t pml4 imagePa r t') (formed : WellFormed t) (root : pml4 ≠ 0) (below : pml4 < fatAddress)
    {va : UInt64} (low : Low va) (outside : ¬ InWindow va) :
    virtualToPhysical t'.memory va pml4 = virtualToPhysical t'.memory va gKernelPml4Address := by
  have kernel : ∀ page i, fatAddress ≤ page → t'.memory page i = t.memory page i := by
    intro page i above
    refine installed.same page i (kernelTable_taken t above) fun same => ?_
    obtain rfl := congrArg Prod.fst same
    exact absurd below (UInt64.not_lt.mpr above)
  have other : pdIndex va ≠ 1 := fun same => outside ((pdIndex_window low).mp same)
  have kernels := kernel_frame (t := t') (by rw [kernel _ _ (by decide)]; exact formed.pdpt) (by rw [kernel _ _ (by decide)]; exact formed.pd)
    (pdIndex va) (ptIndex va)
  have childs := installed.frame formed (pdIndex va) (ptIndex va)
  rw [childTable,if_neg other] at childs
  rw [kernel kernelPdPa (pdIndex va) (by decide),← childs] at kernels
  unfold GramadoKernel.frame at kernels
  rw [virtualToPhysical_low _ low root,virtualToPhysical_low _ low (by decide),kernels]

-- No table of the child is handed out again.
theorem Installed.sealed (installed : Installed t pml4 imagePa r t') (formed : WellFormed t) (root : ¬ t.Free pml4) : Sealed t' pml4 := by
  have base : t.heapBase ≤ t'.heapBase := by
    rw [installed.base]
    have grown := tablePage_le formed.page (n := 0) (m := 3) (by decide) (by decide)
    rwa [show tablePage t 0 = t.heapBase from UInt64.add_zero _] at grown
  have taken : ∀ page, ¬ t.Free page → ¬ t'.Free page := fun _ taken free => taken ⟨UInt64.lt_of_le_of_lt base free.1,free.2⟩
  have pages : ∀ n ≤ 3, ¬ t'.Free (tablePage t n) := by
    intro n few free
    rw [Tables.Free,installed.base] at free
    exact absurd free.1 (UInt64.not_lt.mpr (tablePage_le formed.page (by decide) few))
  intro d first i second cell member
  rw [installed.reads formed] at member
  simp only [List.mem_cons,List.not_mem_nil,or_false] at member
  rcases member with rfl | rfl | rfl | rfl
  · exact taken _ root
  · exact pages 3 (by decide)
  · exact pages 2 (by decide)
  · unfold childTable
    split
    · exact pages 1 (by decide)
    · refine taken _ (formed.kernel d first i second (target (t.memory kernelPdPa d),i) ?_)
      rw [kernel_reads formed.pdpt formed.pd]
      simp

end Child

-- The tables of a clone: the copy of the PML4 in a free page, and the image installed
-- under it in tables that are well formed.
structure ClonedTables (s : System) (child : Nat) (u t : System) : Prop where
  root : s.tables.Free (t.info child).pml4Va
  taken : ¬ u.tables.Free (t.info child).pml4Va
  formed : WellFormed u.tables
  installed : ∃ made, Installed u.tables (t.info child).pml4Va (t.info child).imagePa made t.tables
  writes : Writes s.tables t.tables
  page : IsPage t.tables.heapBase

theorem Cloned.tables {supply : CloneSupply} {s u t : System} {child : Nat} (cloned : Cloned supply s child u t) (formed : WellFormed s.tables) :
    ClonedTables s child u t := by
  obtain ⟨first,root,tables⟩ := cloned.root
  obtain ⟨made,installed⟩ := cloned.installed
  obtain ⟨place,below,rfl⟩ := cloneKernelTable_ok root
  have place : (t.info child).pml4Va = tablePage s.tables 1 := place
  have free : s.tables.Free (t.info child).pml4Va := by
    rw [place] at below ⊢
    exact tablePage_free formed.page (by decide) (by decide) below
  have page : IsPage (t.info child).pml4Va := by
    rw [place] at below ⊢
    exact tablePage_isPage formed.page (by decide) below
  have copied := ((Apart.refl s.tables).page free (s.tables.memory gKernelPml4Address) _ (UInt64.le_of_lt free.1)).writes
  have base : u.tables.heapBase = (t.info child).pml4Va := by rw [tables]; rfl
  have written : Writes s.tables u.tables := by
    rw [tables]
    exact copied.trans (.null _)
  have formedU := formed.written written (base ▸ page)
  have taken : ¬ u.tables.Free (t.info child).pml4Va := fun again => absurd again.1 (by rw [base]; exact UInt64.lt_irrefl _)
  have result := installImage_ok formedU taken installed
  have above : u.tables.heapBase ≤ t.tables.heapBase := by
    rw [result.base]
    exact UInt64.le_of_lt (tablePage_free formedU.page (by decide) (by decide) result.below).1
  refine ⟨free,taken,formedU,⟨made,result⟩,⟨UInt64.le_trans written.base above,fun p i occupied => ?_⟩,?_⟩
  · rw [result.same p i (fun again => occupied (written.free again)) fun same => occupied ((Prod.mk.inj same).1 ▸ free)]
    exact written.same p i occupied
  · rw [result.base]
    exact tablePage_isPage formedU.page (by decide) result.below

-- The address spaces of the kernel and of the processes.
def System.Space (s : System) (pml4 : UInt64) : Prop :=
  pml4 = gKernelPml4Address ∨ ∃ pid process, s.kernel.processList pid = some process ∧ (s.info pid).pml4Va = pml4

-- The tables are well formed, and no address space has one in a page that is still to
-- be handed out.
structure SoundSpaces (s : System) : Prop where
  formed : WellFormed s.tables
  closed : ∀ pml4, s.Space pml4 → Sealed s.tables pml4

-- The store through the NULL control thread changes nothing in the address spaces.
def System.NullSafe (s : System) : Prop := ∀ pml4, s.Space pml4 → GramadoKernel.NullSafe s.tables pml4

-- The memory for the image ends before the last address of 48 bits.
def Placed (supply : CloneSupply) (s : System) : Prop :=
  ∀ base u pa, imageBase supply s = .ok (base,u) → s.physical base = .ok pa → pa.toNat+0x200000 ≤ 2^48

-- The image is placed by the blocks, the pages and the translation of the kernel.
theorem slab1MbAllocator_same {s u v : System} {base : UInt64} (blocks : u.newPagedPool = s.newPagedPool)
    (running : u.kernel.systemState = s.kernel.systemState) (current : currentProcess u.kernel = currentProcess s.kernel)
    (taken : slab1MbAllocator u = .ok (base,v)) : (v.pool = u.pool ∧ v.tables = u.tables) ∧
      ∃ w, slab1MbAllocator s = .ok (base,w) ∧ w.pool = s.pool ∧ w.tables = s.tables := by
  unfold slab1MbAllocator at taken ⊢
  rw [blocks,running,current] at taken
  split at taken
  · rename_i cold
    cases taken
    exact ⟨⟨rfl,rfl⟩,s,if_pos cold,rfl,rfl⟩
  rename_i warm
  rw [if_neg warm]
  obtain ⟨pid,process,taken⟩ := bind_ok.mp taken
  simp only [process]
  split at taken
  · cases taken
    exact ⟨⟨rfl,rfl⟩,s,rfl,rfl,rfl⟩
  · cases taken
    exact ⟨⟨rfl,rfl⟩,_,rfl,rfl,rfl⟩

theorem imageBase_same {supply : CloneSupply} {s u v : System} {base : UInt64} (blocks : u.newPagedPool = s.newPagedPool)
    (pages : u.pool = s.pool) (running : u.kernel.systemState = s.kernel.systemState) (current : currentProcess u.kernel = currentProcess s.kernel)
    (physical : ∀ va, u.physical va = s.physical va) (taken : imageBase supply u = .ok (base,v)) : ∃ w, imageBase supply s = .ok (base,w) := by
  obtain ⟨⟨first,a⟩,slab,taken⟩ := bind_ok.mp taken
  obtain ⟨⟨poolA,tablesA⟩,b,slabS,poolB,tablesB⟩ := slab1MbAllocator_same blocks running current slab
  unfold imageBase
  rw [slabS]
  simp only at taken ⊢
  split at taken
  · rename_i full
    obtain ⟨⟨va,pool⟩,allocated,taken⟩ := bind_ok.mp taken
    cases taken
    have supplies : a.supply supply.page = b.supply supply.page := by
      unfold System.supply
      congr 1
      funext va
      have same := physical va
      unfold System.physical at same ⊢
      rw [tablesA,tablesB,same]
    refine ⟨{b with pool := pool},?_⟩
    rw [supplies,poolA,pages,← poolB] at allocated
    simp only [full,bind,Except.bind,if_true,mmAllocPages,allocated]
  · rename_i some
    cases taken
    exact ⟨b,by simp only [bind,Except.bind,if_neg some]⟩

-- One call of copy_process that returns a pid.
structure CloneCall where
  supply : CloneSupply
  filename : Option String
  pid : Int
  cloneFlags : UInt64
  child : Nat

-- The kernel does anything that leaves page tables and the list of processes as they
-- are, or it clones a process.
inductive CloneTurn where
  | other
  | clone (call : CloneCall)

def CloneStep (s : System) : CloneTurn → System → Prop
  | .other,t => KeepsTables s t
  | .clone call,t => copyProcess call.supply call.filename call.pid call.cloneFlags s = .ok (call.child,t)

-- ImagePA begins at a page.
def CloneTurn.Aligned (t : System) : CloneTurn → Prop
  | .other => True
  | .clone call => (t.info call.child).imagePa.toNat % 4096 = 0

def CloneTurn.Careful (s : System) : CloneTurn → Prop
  | .other => True
  | .clone call => s.NullSafe ∧ Placed call.supply s

section Clones

variable {s u t : System} {supply : CloneSupply} {child : Nat}

theorem Cloned.spaces (cloned : Cloned supply s child u t) (sound : SoundSpaces s) (safe : s.NullSafe) : SoundSpaces t := by
  obtain ⟨_,taken,formed,⟨_,installed⟩,writes,page⟩ := cloned.tables sound.formed
  have before : ∀ pml4, s.Space pml4 → Sealed t.tables pml4 := fun pml4 space => writes.sealed (sound.closed pml4 space) (safe pml4 space)
  refine ⟨sound.formed.written writes page,fun pml4 space => ?_⟩
  rcases space with rfl | ⟨pid,process,listed,root⟩
  · exact before _ (.inl rfl)
  · by_cases new : pid = child
    · subst new
      rw [← root]
      exact installed.sealed formed taken
    · obtain ⟨lists,roots⟩ := cloned.others pid new
      exact before _ (.inr ⟨pid,process,lists ▸ listed,roots ▸ root⟩)

-- A call changes no translation in the address spaces that are there already.
theorem Cloned.unchanged (cloned : Cloned supply s child u t) (sound : SoundSpaces s) (safe : s.NullSafe) {pml4 : UInt64} (space : s.Space pml4)
    (va : UInt64) : virtualToPhysical t.tables.memory va pml4 = virtualToPhysical s.tables.memory va pml4 :=
  (cloned.tables sound.formed).writes.translation (sound.closed pml4 space) (safe pml4 space) va

theorem Cloned.placed (cloned : Cloned supply s child u t) (sound : SoundSpaces s) (safe : s.NullSafe) (placed : Placed supply s) :
    (t.info child).imagePa.toNat+0x200000 ≤ 2^48 := by
  obtain ⟨first,root,tables⟩ := cloned.root
  obtain ⟨place,below,rfl⟩ := cloneKernelTable_ok root
  obtain ⟨base,v,image,physical⟩ := cloned.image
  have free : s.tables.Free (t.info child).pml4Va := (cloned.tables sound.formed).root
  have copied := ((Apart.refl s.tables).page free (s.tables.memory gKernelPml4Address) _ (UInt64.le_of_lt free.1)).writes
  have kernel : ∀ va, u.physical va = s.physical va := by
    intro va
    unfold System.physical
    rw [tables]
    exact (copied.trans (.null _)).translation sound.formed.kernel (safe _ (.inl rfl)) va
  obtain ⟨w,before⟩ := imageBase_same cloned.blocks cloned.pages cloned.running cloned.current kernel image
  exact placed base w _ before ((kernel base).symm.trans physical)

end Clones

theorem KeepsTables.spaces {s t : System} (keeps : KeepsTables s t) (sound : SoundSpaces s) : SoundSpaces t := by
  refine ⟨keeps.tables ▸ sound.formed,fun pml4 space => ?_⟩
  rw [keeps.tables]
  refine sound.closed pml4 ?_
  rcases space with rfl | ⟨pid,process,listed,root⟩
  · exact .inl rfl
  · exact .inr ⟨pid,process,keeps.processes ▸ listed,(keeps.pml4 pid) ▸ root⟩

theorem cloneStep_spaces {s t : System} {turn : CloneTurn} (sound : SoundSpaces s) (step : CloneStep s turn t) (careful : turn.Careful s) :
    SoundSpaces t := by
  cases turn with
  | other => exact KeepsTables.spaces step sound
  | clone call =>
      obtain ⟨u,cloned⟩ := copyProcess_made step
      exact cloned.spaces sound careful.1

-- After every clone of a run the window of the child leads to its image, the rest of
-- its first GB leads where the kernel's leads, and no older address space has changed.
theorem clone_address_space {s m t : System} {turns : List CloneTurn} {call : CloneCall} (sound : SoundSpaces s)
    (run : Runs.Path (fun s turn t => CloneStep s turn t ∧ turn.Aligned t ∧ turn.Careful s) s turns m)
    (cloned : CloneStep m (.clone call) t) (aligned : (CloneTurn.clone call).Aligned t) (careful : (CloneTurn.clone call).Careful m) :
    (∀ va, InWindow va → virtualToPhysical t.tables.memory va (t.info call.child).pml4Va =
      .ok ((t.info call.child).imagePa+(va-controlthreadBase))) ∧
    (∀ va, Low va → ¬ InWindow va → virtualToPhysical t.tables.memory va (t.info call.child).pml4Va =
      virtualToPhysical t.tables.memory va gKernelPml4Address) ∧
    ∀ pml4, m.Space pml4 → ∀ va, virtualToPhysical t.tables.memory va pml4 = virtualToPhysical m.tables.memory va pml4 := by
  have before := run.invariant SoundSpaces (fun _ _ _ sound step => cloneStep_spaces sound step.1 step.2.2) sound
  obtain ⟨u,made⟩ := copyProcess_made cloned
  have tables := made.tables before.formed
  obtain ⟨_,installed⟩ := tables.installed
  have root : (t.info call.child).pml4Va ≠ 0 := fun zero => by
    have free := tables.root.1
    rw [zero] at free
    exact absurd free (UInt64.not_lt.mpr (UInt64.le_iff_toNat_le.mpr (Nat.zero_le _)))
  have within := made.placed before careful.1 careful.2
  have place : IsPage (t.info call.child).imagePa := isPage_iff.mpr ⟨aligned,by omega⟩
  exact ⟨fun va inside => installed.window tables.formed root place within inside,
    fun va low outside => installed.elsewhere tables.formed root tables.root.2 low outside,
    fun pml4 space va => made.unchanged before careful.1 space va⟩

-- The tables that the kernel starts with: the first 2 MB as they are, the page pool and
-- two of the extra heaps, and `null` in the entry of page 0.
def regionTable (d : Nat) : UInt64 :=
  if d = 0 then 0x2000
  else if d = 387 then 0x7000
  else if d = 390 then 0xA000
  else if d = 391 then 0xB000
  else 2

def regionPa (page : UInt64) : Option UInt64 :=
  if page = 0x2000 then some 0
  else if page = 0x7000 then some 0x02000000
  else if page = 0xA000 then some 0x01400000
  else if page = 0xB000 then some 0x01600000
  else none

def bootMemory (null page : UInt64) (i : Nat) : UInt64 :=
  if page = gKernelPml4Address ∨ page = 0xC000 then if i = 0 then kernelPdptPa ||| 7 else 0
  else if page = kernelPdptPa then if i = 0 then kernelPdPa ||| 7 else 0
  else if page = kernelPdPa then regionTable i
  else
    match regionPa page with
    | some region => filledPage region 7 i
    | none => if page = 0 ∧ i = contextRspEntry then null else 0

-- The kernel process and the init process, which runs and can be cloned.
def twoProcesses : Kernel :=
  {bootKernel with
    currentPid := 1
    processList := fun pid => if pid = 0 then some ⟨true,1234,0,gKernelPml4Address⟩ else if pid = 1 then some initProcess else none}

def bootSystem (null : UInt64) : System where
  kernel := twoProcesses
  file := fun i => {socketFile i 0 fun _ => 0 with object := .file,socket := none}
  objects := fun pid fd => if pid ≤ 1 ∧ fd < 3 then some fd else none
  console := fun _ _ => 0
  socket := createSocketObject
  priv := fun _ => none
  gramadoPorts := fun _ => 0
  newClientPortNumber := 11000
  info := fun pid =>
    if pid = 0 then {ProcessInfo.zeroed with pml4Va := gKernelPml4Address,heapStart := 0x30800000,heapSize := 0x8000,heapEnd := 0x30808000}
    else if pid = 1 then
      {ProcessInfo.zeroed with
        cpl := ring3
        control := some 0
        pml4Va := 0xC000
        pdpt0Va := kernelPdptPa
        pd0Va := kernelPdPa
        heapStart := 0x30808000
        heapSize := 0x8000
        heapEnd := 0x30810000}
    else ProcessInfo.zeroed
  fdCounter := fun id => if id < 3 then 1 else 0
  fileTable := fun i => i
  inodeCounter := fun i => if i < 3 then 1 else 0
  stdin := 0
  stdout := 1
  stderr := 2
  tables := ⟨bootMemory null,0xC000⟩
  newPagedPool := ⟨true,0x30C00000,0x30D00000,0x30E00000,0x30F00000,fun _ => true⟩
  pool := ⟨fun i => if i = 0 then some {id := 0,used := true,magic := 1234,free := true} else none,0x30600000,some ⟨1234,0⟩⟩
  gHeappoolVa := 0x30800000
  gHeapCount := 2
  gHeapSize := 0x8000
  copyProcessInProgress := false

theorem bootMemory_root (null : UInt64) {root : UInt64} (either : root = gKernelPml4Address ∨ root = 0xC000) :
    target (bootMemory null root 0) = kernelPdptPa := by
  rw [bootMemory,if_pos either]
  decide

theorem bootMemory_pdpt (null : UInt64) : target (bootMemory null kernelPdptPa 0) = kernelPdPa := by
  rw [bootMemory,if_neg (by decide),if_pos rfl]
  decide

theorem bootMemory_pd (null : UInt64) (d : Nat) : bootMemory null kernelPdPa d = regionTable d := by
  rw [bootMemory,if_neg (by decide),if_neg (by decide),if_pos rfl]

theorem bootMemory_reads (null : UInt64) {root : UInt64} (either : root = gKernelPml4Address ∨ root = 0xC000) (d i : Nat) :
    reads (bootMemory null) root d i = [(root,0),(kernelPdptPa,0),(kernelPdPa,d),(target (regionTable d),i)] := by
  simp only [reads,TableWalk.cells,bootMemory_root null either,bootMemory_pdpt,bootMemory_pd]

-- The first region has every page at its own address.
theorem bootMemory_first (null : UInt64) {i : Nat} (few : i < 512) : frame (bootMemory null) gKernelPml4Address 0 i = UInt64.ofNat (4096*i) := by
  have table : target (regionTable 0) = 0x2000 := by decide
  have filled : bootMemory null 0x2000 i = filledPage 0 7 i := rfl
  have zero : IsPage 0 := isPage_iff.mpr (by decide)
  simp only [frame,TableWalk.walk,bootMemory_root null (.inl rfl),bootMemory_pdpt,bootMemory_pd,table,filled]
  rw [target_filledPage zero (by rw [UInt64.toNat_zero]; omega),UInt64.zero_add]

theorem regionTable_below (d : Nat) : target (regionTable d) ≤ 0xC000 := by
  unfold regionTable
  repeat' split
  all_goals decide

theorem bootSystem_sealed (null : UInt64) {root : UInt64} (either : root = gKernelPml4Address ∨ root = 0xC000) :
    Sealed (bootSystem null).tables root := by
  have below : ∀ {page : UInt64}, page ≤ 0xC000 → ¬ (bootSystem null).tables.Free page := fun low free =>
    absurd (UInt64.lt_of_lt_of_le free.1 low) (UInt64.lt_irrefl _)
  intro d _ i _ cell member
  change cell ∈ reads (bootMemory null) root d i at member
  rw [bootMemory_reads null either] at member
  simp only [List.mem_cons,List.not_mem_nil,or_false] at member
  rcases member with rfl | rfl | rfl | rfl
  · rcases either with rfl | rfl
    · exact kernelTable_taken _ (by decide)
    · exact below (by decide)
  · exact kernelTable_taken _ (show fatAddress ≤ kernelPdptPa by decide)
  · exact kernelTable_taken _ (show fatAddress ≤ kernelPdPa by decide)
  · exact below (regionTable_below d)

theorem bootSystem_sound (null : UInt64) : SoundSpaces (bootSystem null) := by
  have base : IsPage 0xC000 := isPage_iff.mpr (by decide)
  refine ⟨⟨base,bootMemory_root null (.inl rfl),bootMemory_pdpt null,fun page free place => ?_,bootSystem_sealed null (.inl rfl)⟩,
    fun pml4 space => ?_⟩
  · have bounds := isPage_iff.mp place
    have limit : page.toNat < 0x30000 := UInt64.lt_iff_toNat_lt.mp free.2
    have low : Low page := by
      unfold Low
      omega
    have directory : pdIndex page = 0 := by
      rw [pdIndex_toNat]
      omega
    have table : ptIndex page = page.toNat/4096 := by
      rw [ptIndex_toNat]
      omega
    have entry := bootMemory_first null (show page.toNat/4096 < 512 by omega)
    unfold frame at entry
    rw [virtualToPhysical_low _ low (by decide),directory,table]
    change Except.ok (TableWalk.walk target (bootMemory null) gKernelPml4Address [0,0,0,page.toNat/4096]+_) = _
    rw [entry]
    apply congrArg
    apply UInt64.toNat_inj.mp
    rw [UInt64.toNat_add,offset_toNat,UInt64.toNat_ofNat']
    omega
  · rcases space with rfl | ⟨pid,process,listed,rfl⟩
    · exact bootSystem_sealed null (.inl rfl)
    · have cases : pid = 0 ∨ pid = 1 := by
        by_contra other
        rw [not_or] at other
        simp [bootSystem,twoProcesses,other] at listed
      rcases cases with rfl | rfl
      · exact bootSystem_sealed null (.inl rfl)
      · exact bootSystem_sealed null (.inr rfl)

-- kmalloc and the loader give what they are asked for.
def plentiful : CloneSupply := ⟨true,true,fun _ => true,(none,none),none,none,0,0,0,false⟩

def firstClone : CloneCall := ⟨plentiful,some "shell.bin",1,0,2⟩

-- The state that a call leaves.
def System.cloned (s : System) (call : CloneCall) : System :=
  match copyProcess call.supply call.filename call.pid call.cloneFlags s with
  | .ok (_,t) => t
  | .error _ => s

def System.clonePid (s : System) (call : CloneCall) : Int :=
  match copyProcess call.supply call.filename call.pid call.cloneFlags s with
  | .ok (pid,_) => pid
  | .error _ => -1

theorem cloneStep_cloned {s : System} {call : CloneCall} (returned : s.clonePid call = call.child) : CloneStep s (.clone call) (s.cloned call) := by
  simp only [CloneStep,System.clonePid,System.cloned] at *
  cases done : copyProcess call.supply call.filename call.pid call.cloneFlags s with
  | error => simp only [done] at returned; omega
  | ok result => simp only [done] at returned ⊢; rw [← returned]

theorem firstClone_placed : Placed plentiful (bootSystem controlthreadStack) := by
  have image : (match imageBase plentiful (bootSystem controlthreadStack) with | .ok (base,_) => base | .error _ => 0) = 0x30C00000 := by
    decide +kernel
  have physical : (bootSystem controlthreadStack).physical 0x30C00000 = .ok 0x01400000 := by rfl
  intro base u pa taken place
  simp only [taken] at image
  subst image
  obtain rfl := Except.ok.inj (place.symm.trans physical)
  decide

theorem clone_address_space_first :
    virtualToPhysical ((bootSystem controlthreadStack).cloned firstClone).tables.memory 0x201000
      (((bootSystem controlthreadStack).cloned firstClone).info firstClone.child).pml4Va = .ok 0x01401000 := by
  have step : CloneStep (bootSystem controlthreadStack) (.clone firstClone) _ := cloneStep_cloned (by decide +kernel)
  have safe : (bootSystem controlthreadStack).NullSafe := fun _ _ => .inl rfl
  have window := (clone_address_space (bootSystem_sound _) .nil step (by unfold CloneTurn.Aligned; decide +kernel) ⟨safe,firstClone_placed⟩).1
    0x201000 (inWindow_iff.mpr (by decide))
  have image : (((bootSystem controlthreadStack).cloned firstClone).info firstClone.child).imagePa = 0x01400000 := by decide +kernel
  rw [image] at window
  exact window.trans (by decide)

-- With the entry of page 0 still clear, the first clone moves an address of the kernel
-- that no table maps.
theorem null_entry_moves_address : SoundSpaces (bootSystem 0) ∧ CloneStep (bootSystem 0) (.clone firstClone) ((bootSystem 0).cloned firstClone) ∧
    (CloneTurn.clone firstClone).Aligned ((bootSystem 0).cloned firstClone) ∧ (bootSystem 0).Space gKernelPml4Address ∧
    virtualToPhysical (bootSystem 0).tables.memory 0x49F000 gKernelPml4Address = .ok 0 ∧
    virtualToPhysical ((bootSystem 0).cloned firstClone).tables.memory 0x49F000 gKernelPml4Address = .ok 0x3FF000 := by
  refine ⟨bootSystem_sound 0,cloneStep_cloned (by decide +kernel),by unfold CloneTurn.Aligned; decide +kernel,.inl rfl,rfl,?_⟩
  decide +kernel

end GramadoKernel
