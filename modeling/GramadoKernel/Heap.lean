import GramadoKernel.Library.Ranges
import GramadoKernel.Library.Runs
import GramadoKernel.State

namespace GramadoKernel

-- x64gva.h, mmblock.h
def kernelHeapStart : UInt64 := 0x30100000
def kernelHeapEnd : UInt64 := 0x301D0000
def mmblockCountMax : Int := 2*4096

-- sizeof(struct mmblock_d): five longs, six ints and a pointer.
def headerInBytes : UInt64 := 72

-- struct mmblock_d, in the fields that an allocation writes.
structure MmBlock where
  header : UInt64
  headerSize : UInt64
  userArea : UInt64
  userareaSize : UInt64
  footer : UInt64
  id : Int
  used : Bool
  magic : Nat
  free : Bool
  deriving DecidableEq

-- The globals of mm.c and the block headers in the heap, by their address.
structure Heap where
  pointer : UInt64
  available : UInt64
  prevPointer : UInt64
  blockCount : Int
  blockList : Int → UInt64
  block : UInt64 → Option MmBlock

-- __init_kernel_heap
def initKernelHeap : Heap :=
  ⟨kernelHeapStart,kernelHeapEnd-kernelHeapStart,0,0,fun _ => 0,fun _ => none⟩

def userAreaInBytes (size : UInt64) : UInt64 := if size = 0 then 8 else size

def heapAllocateMemory (size : UInt64) (h : Heap) : Except Halt (UInt64 × Heap) :=
  let userBytes := userAreaInBytes size
  if h.available = 0 then .ok (0,h)
  else if h.available ≤ userBytes then .ok (0,h)
  else do
    let h := {h with blockCount := h.blockCount+1}
    require (h.blockCount < mmblockCountMax) (.panic "heapAllocateMemory: mmblockCount\n")
    require (kernelHeapStart ≤ h.pointer ∧ h.pointer < kernelHeapEnd) (.panic "heapAllocateMemory: Out of kernel heap")
    if h.pointer = 0 then .ok (0,h)
    else
      let userAreaBase := h.pointer+headerInBytes
      let current : MmBlock :=
        {header := h.pointer,headerSize := headerInBytes,userArea := userAreaBase,userareaSize := userBytes
         footer := userAreaBase+userBytes,id := h.blockCount,used := true,magic := 1234,free := false}
      let total := current.footer-current.header
      .ok (userAreaBase,
        {h with
          available := h.available-total
          prevPointer := h.pointer
          pointer := current.footer
          blockList := Function.update h.blockList h.blockCount current.header
          block := Function.update h.block h.pointer (some current)})

-- heapFreeMemory. An address with no header behind it fails the validation.
def heapFreeMemory (ptr : UInt64) (h : Heap) : Heap :=
  if ptr = 0 then h
  else if ptr < kernelHeapStart ∨ kernelHeapEnd ≤ ptr then h
  else
    let blockHeader := ptr-headerInBytes
    if blockHeader = 0 then h
    else match h.block blockHeader with
      | none => h
      | some b =>
          if b.used = true ∧ b.magic = 1234 then
            {h with block := Function.update h.block blockHeader (some {b with used := true,magic := 4321})}
          else h

-- What a call did: `available` is the value that the request was held against.
inductive HeapEvent where
  | allocated (size available : UInt64) (block : MmBlock)
  | refused
  | freed

inductive HeapStep : Heap → HeapEvent → Heap → Prop where
  | allocated (base : UInt64) : heapAllocateMemory size h = .ok (base,h') → base ≠ 0 → h'.block (base-headerInBytes) = some b →
      HeapStep h (.allocated size h.available b) h'
  | refused : heapAllocateMemory size h = .ok (0,h') → HeapStep h .refused h'
  | freed (ptr : UInt64) (h : Heap) : HeapStep h .freed (heapFreeMemory ptr h)

structure Taken (size : UInt64) (h : Heap) (b : MmBlock) (h' : Heap) : Prop where
  admitted : userAreaInBytes size < h.available
  header : b.header = h.pointer
  userArea : b.userArea = h.pointer+headerInBytes
  footer : b.footer = h.pointer+headerInBytes+userAreaInBytes size
  pointer : h'.pointer = b.footer
  available : h'.available = h.available-(b.footer-b.header)

theorem heapAllocateMemory_parts (called : heapAllocateMemory size h = .ok (base,h')) :
    (base = 0 ∧ h'.pointer = h.pointer ∧ h'.available = h.available) ∨
      ∃ b, base = b.userArea ∧ h'.block h.pointer = some b ∧ Taken size h b h' := by
  unfold heapAllocateMemory at called
  simp only [] at called
  split at called
  · cases called
    exact .inl ⟨rfl,rfl,rfl⟩
  split at called
  · cases called
    exact .inl ⟨rfl,rfl,rfl⟩
  rename_i admitted
  simp only [bind_ok,require_ok] at called
  obtain ⟨_,_,_,_,called⟩ := called
  split at called
  · cases called
    exact .inl ⟨rfl,rfl,rfl⟩
  · cases called
    exact .inr ⟨_,rfl,Function.update_self _ _ _,UInt64.not_le.mp admitted,rfl,rfl,rfl,rfl,rfl⟩

theorem allocated_taken (called : heapAllocateMemory size h = .ok (base,h')) (nonnull : base ≠ 0)
    (found : h'.block (base-headerInBytes) = some b) : Taken size h b h' := by
  rcases heapAllocateMemory_parts called with ⟨none,_⟩ | ⟨c,rfl,stored,taken⟩
  · exact absurd none nonnull
  · rw [taken.userArea,UInt64.add_sub_cancel,stored] at found
    cases found
    exact taken

theorem heapFreeMemory_kept (ptr : UInt64) (h : Heap) :
    (heapFreeMemory ptr h).pointer = h.pointer ∧ (heapFreeMemory ptr h).available = h.available := by
  unfold heapFreeMemory
  simp only []
  repeat' split
  all_goals exact ⟨rfl,rfl⟩

def HeapEvent.block : HeapEvent → Option (UInt64 × MmBlock)
  | .allocated size _ b => some (size,b)
  | _ => none

def handedOut (events : List HeapEvent) : List (UInt64 × MmBlock) := events.filterMap HeapEvent.block

def MmBlock.range (b : MmBlock) : Ranges.Range := ⟨b.header.toNat,b.footer.toNat⟩

structure HeapDiscipline (events : List HeapEvent) (h : Heap) : Prop where
  blocks : Ranges.Laid kernelHeapStart.toNat ((handedOut events).map fun pair => pair.2.range) kernelHeapEnd.toNat
  userAreas : ∀ pair ∈ handedOut events, pair.2.header ≤ pair.2.userArea ∧
    pair.2.userArea.toNat+pair.1.toNat ≤ pair.2.footer.toNat
  pointer : h.pointer.toNat ≤ kernelHeapEnd.toNat
  available : h.available.toNat = kernelHeapEnd.toNat-h.pointer.toNat

-- The header is counted too.
def HeapEvent.Fits : HeapEvent → Prop
  | .allocated size available _ => (userAreaInBytes size).toNat+headerInBytes.toNat ≤ available.toNat
  | _ => True

-- The discipline with the blocks up to the heap pointer.
structure Packed (events : List HeapEvent) (h : Heap) : Prop where
  blocks : Ranges.Laid kernelHeapStart.toNat ((handedOut events).map fun pair => pair.2.range) h.pointer.toNat
  userAreas : ∀ pair ∈ handedOut events, pair.2.header ≤ pair.2.userArea ∧
    pair.2.userArea.toNat+pair.1.toNat ≤ pair.2.footer.toNat
  start : kernelHeapStart.toNat ≤ h.pointer.toNat
  rest : h.pointer.toNat+h.available.toNat = kernelHeapEnd.toNat

theorem Packed.discipline (packed : Packed events h) : HeapDiscipline events h := by
  have rest := packed.rest
  refine ⟨⟨?_,packed.blocks.apart⟩,packed.userAreas,by omega,by omega⟩
  intro r member
  have inside := packed.blocks.inside r member
  omega

theorem userAreaInBytes_le (size : UInt64) : size.toNat ≤ (userAreaInBytes size).toNat := by
  unfold userAreaInBytes
  split
  · rename_i zero
    simp [zero]
  · exact Nat.le_refl _

-- An admitted request ends at most one header behind the end of the heap, so
-- no address wraps.
theorem Taken.footer_toNat (taken : Taken size h b h') (rest : h.pointer.toNat+h.available.toNat = kernelHeapEnd.toNat) :
    b.footer.toNat = h.pointer.toNat+headerInBytes.toNat+(userAreaInBytes size).toNat ∧
      b.userArea.toNat = h.pointer.toNat+headerInBytes.toNat := by
  have admitted := UInt64.lt_iff_toNat_lt.mp taken.admitted
  have last : kernelHeapEnd.toNat = 0x301D0000 := rfl
  have header : headerInBytes.toNat = 72 := rfl
  rw [taken.footer,taken.userArea]
  simp only [UInt64.toNat_add]
  omega

theorem Taken.packed (taken : Taken size h b h') (packed : Packed events h)
    (fits : (userAreaInBytes size).toNat+headerInBytes.toNat ≤ h.available.toNat) :
    Packed (events ++ [.allocated size h.available b]) h' := by
  obtain ⟨footer,userArea⟩ := taken.footer_toNat packed.rest
  have start := packed.start
  have rest := packed.rest
  have asked := userAreaInBytes_le size
  have header : b.header.toNat = h.pointer.toNat := by rw [taken.header]
  have next : h'.pointer.toNat = b.footer.toNat := by rw [taken.pointer]
  have total : (b.footer-b.header).toNat = b.footer.toNat-b.header.toNat := by
    apply UInt64.toNat_sub_of_le
    rw [UInt64.le_iff_toNat_le]
    omega
  have available : h'.available.toNat = h.available.toNat-(b.footer-b.header).toNat := by
    rw [taken.available]
    apply UInt64.toNat_sub_of_le
    rw [UInt64.le_iff_toNat_le]
    omega
  have appended : handedOut (events ++ [.allocated size h.available b]) = handedOut events ++ [(size,b)] := by
    simp [handedOut,HeapEvent.block]
  refine ⟨?_,?_,by omega,by omega⟩
  · rw [appended,List.map_append]
    apply packed.blocks.push start
    · exact Nat.le_of_eq header.symm
    · change b.header.toNat ≤ b.footer.toNat
      omega
    · exact Nat.le_of_eq next.symm
  · rw [appended]
    intro pair member
    rcases List.mem_append.mp member with old | new
    · exact packed.userAreas pair old
    · cases List.mem_singleton.mp new
      refine ⟨?_,by change b.userArea.toNat+size.toNat ≤ b.footer.toNat; omega⟩
      rw [UInt64.le_iff_toNat_le]
      change b.header.toNat ≤ b.userArea.toNat
      omega

structure Spills (events : List HeapEvent) : Prop where
  request : ∃ e ∈ events, ¬ e.Fits
  block : ∃ pair ∈ handedOut events, kernelHeapEnd.toNat < pair.2.footer.toNat

theorem Spills.snoc (spills : Spills events) (event : HeapEvent) : Spills (events ++ [event]) := by
  obtain ⟨⟨e,present,unfit⟩,pair,member,past⟩ := spills
  refine ⟨⟨e,List.mem_append_left _ present,unfit⟩,pair,?_,past⟩
  unfold handedOut
  rw [List.filterMap_append]
  exact List.mem_append_left _ member

theorem Packed.kept (packed : Packed events h) (silent : HeapEvent.block event = none)
    (pointer : h'.pointer = h.pointer) (available : h'.available = h.available) : Packed (events ++ [event]) h' := by
  have same : handedOut (events ++ [event]) = handedOut events := by simp [handedOut,silent]
  refine ⟨?_,?_,?_,?_⟩
  · rw [same,pointer]
    exact packed.blocks
  · rw [same]
    exact packed.userAreas
  · rw [pointer]
    exact packed.start
  · rw [pointer,available]
    exact packed.rest

-- Every step: packed as long as all requests fit, and a block too many after
-- the first that does not.
theorem heap_step (step : HeapStep h event h') (run : Spills events ∨ ((∀ e ∈ events, e.Fits) ∧ Packed events h)) :
    Spills (events ++ [event]) ∨ ((∀ e ∈ events ++ [event], e.Fits) ∧ Packed (events ++ [event]) h') := by
  rcases run with spills | ⟨fits,packed⟩
  · exact .inl (spills.snoc event)
  have all : event.Fits → ∀ e ∈ events ++ [event], e.Fits := by
    intro fit e member
    rcases List.mem_append.mp member with old | new
    · exact fits e old
    · cases List.mem_singleton.mp new
      exact fit
  cases step with
  | allocated base called nonnull found =>
      rename_i size b
      have taken := allocated_taken called nonnull found
      by_cases fit : (userAreaInBytes size).toNat+headerInBytes.toNat ≤ h.available.toNat
      · exact .inr ⟨all fit,taken.packed packed fit⟩
      · left
        refine ⟨⟨.allocated size h.available b,by simp,fit⟩,(size,b),by simp [handedOut,HeapEvent.block],?_⟩
        have footer := (taken.footer_toNat packed.rest).1
        have rest := packed.rest
        change kernelHeapEnd.toNat < b.footer.toNat
        omega
  | refused called =>
      rcases heapAllocateMemory_parts called with ⟨_,pointer,available⟩ | ⟨b,null,_,taken⟩
      · exact .inr ⟨all trivial,packed.kept rfl pointer available⟩
      · exfalso
        have userArea := (taken.footer_toNat packed.rest).2
        have header : headerInBytes.toNat = 72 := rfl
        rw [← null] at userArea
        simp at userArea
        omega
  | freed ptr =>
      have kept := heapFreeMemory_kept ptr h
      exact .inr ⟨all trivial,packed.kept rfl kept.1 kept.2⟩

theorem heap_run (path : Runs.Path HeapStep initKernelHeap events h) :
    Spills events ∨ ((∀ e ∈ events, e.Fits) ∧ Packed events h) := by
  refine path.history (fun events h => Spills events ∨ ((∀ e ∈ events, e.Fits) ∧ Packed events h))
    (fun _ _ _ _ run step => heap_step step run) ?_
  exact .inr ⟨by simp,Ranges.laid_nil _ _,by simp [handedOut],by decide,by decide⟩

theorem heap_discipline_iff (path : Runs.Path HeapStep initKernelHeap events h) :
    HeapDiscipline events h ↔ ∀ e ∈ events, e.Fits := by
  rcases heap_run path with spills | ⟨fits,packed⟩
  · constructor
    · intro discipline
      obtain ⟨pair,member,past⟩ := spills.block
      have inside := discipline.blocks.inside pair.2.range (List.mem_map_of_mem member)
      exact absurd inside.2.2 (Nat.not_le.mpr past)
    · intro fits
      obtain ⟨e,present,unfit⟩ := spills.request
      exact absurd (fits e present) unfit
  · exact ⟨fun _ => fits,fun _ => packed.discipline⟩

def afterHeap (call : Except Halt (UInt64 × Heap)) : Heap :=
  match call with
  | .ok (_,h) => h
  | .error _ => initKernelHeap

def firstBlock (size : UInt64) : MmBlock :=
  ⟨kernelHeapStart,headerInBytes,kernelHeapStart+headerInBytes,size,kernelHeapStart+headerInBytes+size,1,true,1234,false⟩

def smallRequest : Except Halt (UInt64 × Heap) := heapAllocateMemory 16 initKernelHeap

theorem small_request_disciplined :
    HeapDiscipline [.allocated 16 (kernelHeapEnd-kernelHeapStart) (firstBlock 16)] (afterHeap smallRequest) := by
  have taken : HeapStep initKernelHeap (.allocated 16 initKernelHeap.available (firstBlock 16)) (afterHeap smallRequest) :=
    .allocated (kernelHeapStart+headerInBytes) rfl (by decide) (by decide +kernel)
  exact (heap_discipline_iff (.step .nil taken)).mpr (by simp [HeapEvent.Fits,userAreaInBytes]; decide)

def largestRequest : Except Halt (UInt64 × Heap) := heapAllocateMemory 0xCFFFF initKernelHeap

-- One byte less than the whole heap is admitted: the block ends 71 bytes behind
-- the heap and the available size wraps.
theorem largest_request_spills :
    HeapStep initKernelHeap (.allocated 0xCFFFF 0xD0000 (firstBlock 0xCFFFF)) (afterHeap largestRequest) ∧
    kernelHeapEnd < (firstBlock 0xCFFFF).footer ∧ (afterHeap largestRequest).available = 0-71 := by
  refine ⟨.allocated (kernelHeapStart+headerInBytes) rfl (by decide) (by decide +kernel),by decide,by decide +kernel⟩

end GramadoKernel
