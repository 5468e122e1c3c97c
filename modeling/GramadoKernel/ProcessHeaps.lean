import GramadoKernel.AddressSpaces
import GramadoKernel.Library.Ranges

namespace GramadoKernel
open Ranges

-- process.h and x64gva.h. The pool takes one page table.
def gDefaultProcessheapSize : UInt64 := 32*1024
def gDefaultProcessheapCountmax : Int := 64
def heappoolVa : UInt64 := 0x30800000
def heappoolSize : Nat := 2048*1024

-- __initialize_heappool, without its page table. g_heap_count_max, which only a message
-- of create_process depends on, is the constant.
def initializeHeappool (s : System) : System := {s with gHeappoolVa := heappoolVa,gHeapCount := 0,gHeapSize := gDefaultProcessheapSize}

-- destroy_process_structure, for the structure that a slot of processList points to.
def destroyProcessStructure (slot : Nat) (s : System) : Int × System :=
  match s.kernel.processList slot with
  | none => (-1,s)
  | some process =>
      if process.used = false then (-1,s)
      else if process.pid < 0 then (-1,s)
      else if (processCountMax : Int) ≤ process.pid then (-1,s)
      else if process.pid ≠ slot then (-1,s)
      else (0,s.withKernel (s.kernel.setProcess slot {process with used := false,magic := 0}))

inductive ProcessCall where
  | create (supply : CloneSupply)
  | destroy (slot : Nat)

def ProcessCall.on (s : System) : ProcessCall → Except Halt System
  | .create supply => do
      let (_,t) ← createAndInitializeProcessObject supply s
      .ok t
  | .destroy slot => .ok (destroyProcessStructure slot s).2

def ProcessTurn (s : System) (call : ProcessCall) (t : System) : Prop := call.on s = .ok t

-- A process is created while the pool still has a heap that was never handed out.
def ProcessCall.Within (s : System) : ProcessCall → Prop
  | .create _ => s.gHeapCount < gDefaultProcessheapCountmax
  | .destroy _ => True

-- kmalloc and tty_create give what is asked for.
structure CloneSupply.Answers (supply : CloneSupply) : Prop where
  processObject : supply.processObject = true
  tty : supply.tty = true

def Creates (s : System) : Prop := ∀ supply : CloneSupply, supply.Answers → ∃ pid t, createAndInitializeProcessObject supply s = .ok (some pid,t)

def System.heap (s : System) (slot : Nat) : Range := ⟨(s.info slot).heapStart.toNat,(s.info slot).heapEnd.toNat⟩

def System.Live (s : System) (slot : Nat) : Prop := validProcess s.toProcesses slot

-- Every live process has its own pid and its own part of the heap pool.
structure Identified (s : System) : Prop where
  own : ∀ slot process, s.kernel.processList slot = some process → process.used = true → process.magic = 1234 → process.pid = slot
  inside : ∀ slot, s.Live slot → heappoolVa.toNat ≤ (s.heap slot).first ∧ (s.heap slot).past ≤ heappoolVa.toNat+heappoolSize
  apart : ∀ slot other, s.Live slot → s.Live other → slot ≠ other → (s.heap slot).Apart (s.heap other)

-- The heaps of the living are among the first g_heap_count heaps of the pool.
structure HeapsSound (s : System) : Prop where
  pool : s.gHeappoolVa = heappoolVa
  size : s.gHeapSize = gDefaultProcessheapSize
  count : 0 ≤ s.gHeapCount ∧ s.gHeapCount ≤ gDefaultProcessheapCountmax
  own : ∀ slot process, s.kernel.processList slot = some process → process.used = true → process.magic = 1234 → process.pid = slot
  inside : ∀ slot, s.Live slot → heappoolVa.toNat ≤ (s.heap slot).first ∧ (s.heap slot).first ≤ (s.heap slot).past ∧
    (s.heap slot).past ≤ heappoolVa.toNat+s.gHeapCount.toNat*gDefaultProcessheapSize.toNat
  apart : ∀ slot other, s.Live slot → s.Live other → slot ≠ other → (s.heap slot).Apart (s.heap other)

theorem processheapSize_toNat : gDefaultProcessheapSize.toNat = 32768 := rfl

theorem HeapsSound.identified {s : System} (sound : HeapsSound s) : Identified s := by
  refine ⟨sound.own,fun slot live => ?_,sound.apart⟩
  obtain ⟨low,_,high⟩ := sound.inside slot live
  have few : s.gHeapCount ≤ 64 := sound.count.2
  rw [processheapSize_toNat] at high
  refine ⟨low,Nat.le_trans high ?_⟩
  unfold heappoolSize
  omega

theorem heap_address {count : Int} (few : 0 ≤ count ∧ count ≤ 1024) :
    (heappoolVa+UInt64.ofInt count*gDefaultProcessheapSize).toNat = heappoolVa.toNat+count.toNat*gDefaultProcessheapSize.toNat ∧
    (heappoolVa+UInt64.ofInt count*gDefaultProcessheapSize+gDefaultProcessheapSize).toNat =
      heappoolVa.toNat+(count.toNat+1)*gDefaultProcessheapSize.toNat := by
  have pool : heappoolVa.toNat = 813694976 := rfl
  have number : (UInt64.ofInt count).toNat = count.toNat := by
    have small : count % 2^64 = count := Int.emod_eq_of_lt few.1 (by omega)
    unfold UInt64.ofInt
    rw [small]
    exact UInt64.toNat_ofNat_of_lt (by unfold UInt64.size; omega)
  simp only [UInt64.toNat_add,UInt64.toNat_mul,processheapSize_toNat,pool,number]
  omega

-- The first slot of processList that is NULL.
theorem getNewPid_some {k : Kernel} {pid : Nat} (found : getNewPid k = some pid) :
    k.processList pid = none ∧ pid < processCountMax ∧ ∀ q < pid, k.processList q ≠ none := by
  unfold getNewPid at found
  obtain ⟨free,among,earlier⟩ := List.find?_range_eq_some.mp found
  refine ⟨Option.isNone_iff_eq_none.mp free,List.mem_range.mp among,fun q before => ?_⟩
  have occupied := earlier q before
  rw [Bool.not_eq_true',Option.isNone_eq_false_iff] at occupied
  exact Option.isSome_iff_ne_none.mp occupied

theorem getNewPid_free {k : Kernel} {pid : Nat} (small : pid < processCountMax) (free : k.processList pid = none) : ∃ new, getNewPid k = some new := by
  apply Option.ne_none_iff_exists'.mp
  intro full
  unfold getNewPid at full
  have occupied := List.find?_eq_none.mp full pid (List.mem_range.mpr small)
  rw [free] at occupied
  exact occupied rfl

-- What a new process is, by the heaps that were handed out before it.
structure Made (s : System) (pid : Nat) (t : System) : Prop where
  found : getNewPid s.kernel = some pid
  counted : s.gHeapCount ≠ 0
  count : t.gHeapCount = s.gHeapCount+1
  pool : t.gHeappoolVa = s.gHeappoolVa
  size : t.gHeapSize = s.gHeapSize
  list : ∀ slot, t.kernel.processList slot = if slot = pid then some ⟨true,1234,pid,0⟩ else s.kernel.processList slot
  others : ∀ slot, slot ≠ pid → t.heap slot = s.heap slot
  heap : t.heap pid = ⟨(s.gHeappoolVa+UInt64.ofInt s.gHeapCount*s.gHeapSize).toNat,
    (s.gHeappoolVa+UInt64.ofInt s.gHeapCount*s.gHeapSize+s.gHeapSize).toNat⟩

theorem createAndInitializeProcessObject_made {supply : CloneSupply} {s t : System} {pid : Nat}
    (created : createAndInitializeProcessObject supply s = .ok (some pid,t)) : Made s pid t := by
  unfold createAndInitializeProcessObject at created
  split at created
  · cases created
  split at created
  · cases created
  · rename_i pid' found
    simp only [bind_ok,require_ok,Except.ok.injEq,Prod.mk.injEq,Option.some.injEq] at created
    obtain ⟨_,_,_,_,_,counted,_,_,rfl,rfl⟩ := created
    refine ⟨found,counted,rfl,rfl,rfl,fun slot => setProcess_processList _ _ _ _,fun slot other => ?_,?_⟩
    · simp [System.heap,System.setInfo,System.withKernel,setInfo_info,other,Processes.setObjects]
    · simp [System.heap,System.setInfo,System.withKernel,setInfo_info]

-- Memory and a tty are always found.
def amply : CloneSupply := ⟨true,true,fun _ => true,(none,none),none,none,0,0,0,false⟩

theorem creates_iff {s : System} (pool : s.gHeappoolVa ≠ 0) (size : s.gHeapSize ≠ 0) :
    Creates s ↔ s.gHeapCount ≠ 0 ∧ ∃ pid < processCountMax, s.kernel.processList pid = none := by
  constructor
  · intro creates
    obtain ⟨pid,t,created⟩ := creates amply ⟨rfl,rfl⟩
    have made := createAndInitializeProcessObject_made created
    obtain ⟨free,small,_⟩ := getNewPid_some made.found
    exact ⟨made.counted,pid,small,free⟩
  · rintro ⟨counted,pid,small,free⟩ supply answers
    obtain ⟨new,found⟩ := getNewPid_free small free
    unfold createAndInitializeProcessObject
    rw [if_neg (by rw [answers.processObject]; decide),found]
    simp only [require,if_pos answers.tty,if_pos pool,if_pos counted,if_pos size]
    exact ⟨new,_,rfl⟩

theorem HeapsSound.create {supply : CloneSupply} {s t : System} {pid : Nat} (sound : HeapsSound s)
    (room : s.gHeapCount < gDefaultProcessheapCountmax) (created : createAndInitializeProcessObject supply s = .ok (some pid,t)) : HeapsSound t := by
  have made := createAndInitializeProcessObject_made created
  have few : 0 ≤ s.gHeapCount ∧ s.gHeapCount < 64 := ⟨sound.count.1,room⟩
  have bound : 0 ≤ s.gHeapCount ∧ s.gHeapCount ≤ 1024 := ⟨few.1,by omega⟩
  obtain ⟨first,past⟩ := heap_address bound
  have heap := made.heap
  rw [sound.pool,sound.size,first,past] at heap
  have more : t.gHeapCount.toNat = s.gHeapCount.toNat+1 := by
    rw [made.count]
    omega
  have larger : heappoolVa.toNat+s.gHeapCount.toNat*gDefaultProcessheapSize.toNat ≤
      heappoolVa.toNat+(s.gHeapCount.toNat+1)*gDefaultProcessheapSize.toNat :=
    Nat.add_le_add_left (Nat.mul_le_mul_right _ (Nat.le_succ _)) _
  have older : ∀ slot, slot ≠ pid → t.Live slot → s.Live slot := by
    rintro slot other ⟨process,here,valid⟩
    rw [made.list,if_neg other] at here
    exact ⟨process,here,valid⟩
  -- the new heap starts where all the others have ended
  have after : ∀ slot, slot ≠ pid → t.Live slot → (t.heap slot).Apart (t.heap pid) := by
    intro slot other live
    have inside := sound.inside slot (older slot other live)
    rw [made.others slot other,heap]
    exact .inl inside.2.2
  refine ⟨made.pool.trans sound.pool,made.size.trans sound.size,?_,?_,?_,?_⟩
  · rw [made.count]
    show 0 ≤ s.gHeapCount+1 ∧ s.gHeapCount+1 ≤ 64
    omega
  · intro slot process here used magic
    rw [made.list] at here
    by_cases own : slot = pid
    · rw [if_pos own] at here
      cases here
      exact congrArg _ own.symm
    · rw [if_neg own] at here
      exact sound.own slot process here used magic
  · intro slot live
    rw [more]
    by_cases own : slot = pid
    · rw [own,heap]
      exact ⟨Nat.le_add_right _ _,larger,Nat.le_refl _⟩
    · have inside := sound.inside slot (older slot own live)
      rw [made.others slot own]
      exact ⟨inside.1,inside.2.1,Nat.le_trans inside.2.2 larger⟩
  · intro slot other live second different
    by_cases own : slot = pid
    · rw [own]
      exact (after other (fun same => different (own.trans same.symm)) second).symm
    · by_cases also : other = pid
      · rw [also]
        exact after slot own live
      · rw [made.others slot own,made.others other also]
        exact sound.apart slot other (older slot own live) (older other also second) different

theorem HeapsSound.destroy {s : System} (sound : HeapsSound s) (slot : Nat) : HeapsSound (destroyProcessStructure slot s).2 := by
  unfold destroyProcessStructure
  split
  · exact sound
  split
  · exact sound
  split
  · exact sound
  split
  · exact sound
  split
  · exact sound
  · rename_i process here _ _ _ _
    have list : ∀ other, (s.kernel.setProcess slot {process with used := false,magic := 0}).processList other =
        if other = slot then some {process with used := false,magic := 0} else s.kernel.processList other := setProcess_processList _ _ _
    have older : ∀ other, (s.withKernel (s.kernel.setProcess slot {process with used := false,magic := 0})).Live other → s.Live other := by
      rintro other ⟨owner,found,used,magic⟩
      rw [show (s.withKernel (s.kernel.setProcess slot {process with used := false,magic := 0})).kernel.processList other = _ from list other] at found
      by_cases gone : other = slot
      · rw [if_pos gone] at found
        cases found
        cases used
      · rw [if_neg gone] at found
        exact ⟨owner,found,used,magic⟩
    refine ⟨sound.pool,sound.size,sound.count,?_,fun other live => sound.inside other (older other live),
      fun other third live also different => sound.apart other third (older other live) (older third also) different⟩
    intro other owner found used magic
    rw [show (s.withKernel (s.kernel.setProcess slot {process with used := false,magic := 0})).kernel.processList other = _ from list other] at found
    by_cases gone : other = slot
    · rw [if_pos gone] at found
      cases found
      cases used
    · rw [if_neg gone] at found
      exact sound.own other owner found used magic

theorem HeapsSound.turn {s t : System} {call : ProcessCall} (sound : HeapsSound s) (turn : ProcessTurn s call t) (within : call.Within s) :
    HeapsSound t := by
  cases call with
  | create supply =>
      simp only [ProcessTurn,ProcessCall.on,bind_ok,Except.ok.injEq] at turn
      obtain ⟨⟨made,u⟩,created,rfl⟩ := turn
      rcases made with _ | pid
      · rw [(createAndInitializeProcessObject_none created).1]
        exact sound
      · exact sound.create within created
  | destroy slot =>
      cases turn
      exact sound.destroy slot

-- Paging leaves no heap handed out.
theorem initializeHeappool_sound {s : System} (nobody : ∀ slot, s.kernel.processList slot = none) : HeapsSound (initializeHeappool s) := by
  have dead : ∀ slot, ¬ (initializeHeappool s).Live slot := by
    rintro slot ⟨process,here,_⟩
    cases (nobody slot).symm.trans here
  refine ⟨rfl,rfl,⟨Int.le_refl 0,show (0 : Int) ≤ 64 by decide⟩,fun slot process here => ?_,fun slot live => absurd live (dead slot),fun slot _ live => absurd live (dead slot)⟩
  cases (nobody slot).symm.trans here

theorem bootSystem_others (null : UInt64) {slot : Nat} (first : slot ≠ 0) (second : slot ≠ 1) :
    (bootSystem null).kernel.processList slot = none := by
  show (if slot = 0 then _ else if slot = 1 then _ else none) = none
  rw [if_neg first,if_neg second]

-- So many processes were made, and all but the first of them are dead again.
structure Drained (born made : Nat) (s : System) : Prop where
  pool : s.gHeappoolVa = heappoolVa
  size : s.gHeapSize = gDefaultProcessheapSize
  count : s.gHeapCount = made
  used : ∀ slot, slot < made → s.kernel.processList slot ≠ none
  free : ∀ slot, made ≤ slot → s.kernel.processList slot = none
  dead : ∀ slot, born ≤ slot → ¬ s.Live slot

theorem Drained.creates {born made : Nat} {s : System} (drained : Drained born made s) (some : 0 < made) (more : made < processCountMax) :
    ∃ t, ProcessTurn s (.create amply) t ∧ Made s made t := by
  have creates : Creates s := by
    rw [creates_iff (by rw [drained.pool]; decide) (by rw [drained.size]; decide)]
    exact ⟨by rw [drained.count]; omega,made,more,drained.free made (Nat.le_refl _)⟩
  obtain ⟨pid,t,created⟩ := creates amply ⟨rfl,rfl⟩
  have new := createAndInitializeProcessObject_made created
  obtain ⟨free,_,earlier⟩ := getNewPid_some new.found
  have same : pid = made := by
    rcases Nat.lt_trichotomy pid made with before | same | later
    · exact absurd free (drained.used pid before)
    · exact same
    · exact absurd (drained.free made (Nat.le_refl _)) (earlier made later)
  subst same
  refine ⟨t,?_,new⟩
  simp only [ProcessTurn,ProcessCall.on,created]
  rfl

theorem Drained.turn {born made : Nat} {s : System} (drained : Drained born made s) (some : 0 < made)
    (more : made < processCountMax) :
    ∃ t, Runs.Path ProcessTurn s [.create amply,.destroy made] t ∧ Drained born (made+1) t := by
  obtain ⟨t,created,new⟩ := drained.creates some more
  have here : t.kernel.processList made = Option.some ⟨true,1234,made,0⟩ := by rw [new.list,if_pos rfl]
  have gone : (destroyProcessStructure made t).2 = t.withKernel (t.kernel.setProcess made ⟨false,0,made,0⟩) := by
    unfold destroyProcessStructure
    rw [here]
    simp only
    rw [if_neg (by decide),if_neg (by omega),if_neg (by omega),if_neg (not_not.mpr rfl)]
  have list : ∀ slot, (t.withKernel (t.kernel.setProcess made ⟨false,0,made,0⟩)).kernel.processList slot =
      if slot = made then Option.some ⟨false,0,made,0⟩ else s.kernel.processList slot := by
    intro slot
    show (t.kernel.setProcess made ⟨false,0,made,0⟩).processList slot = _
    rw [setProcess_processList,new.list]
    by_cases own : slot = made
    · rw [if_pos own,if_pos own]
    · rw [if_neg own,if_neg own,if_neg own]
  refine ⟨_,.step (.step .nil created) rfl,?_⟩
  rw [gone]
  refine ⟨new.pool.trans drained.pool,new.size.trans drained.size,?_,?_,?_,?_⟩
  · show t.gHeapCount = _
    rw [new.count,drained.count]
    rfl
  · intro slot earlier
    rw [list]
    by_cases own : slot = made
    · rw [if_pos own]
      exact Option.some_ne_none _
    · rw [if_neg own]
      exact drained.used slot (by omega)
  · intro slot later
    rw [list,if_neg (by omega)]
    exact drained.free slot (by omega)
  · rintro slot later ⟨process,found,used,magic⟩
    rw [show (t.withKernel (t.kernel.setProcess made ⟨false,0,made,0⟩)).toProcesses.kernel.processList slot = _ from list slot] at found
    by_cases own : slot = made
    · rw [if_pos own] at found
      cases found
      cases used
    · rw [if_neg own] at found
      exact drained.dead slot later ⟨process,found,used,magic⟩

theorem Drained.run {born : Nat} {s : System} (drained : Drained born born s) (some : 0 < born) (made : Nat) (older : born ≤ made)
    (few : made ≤ processCountMax) : ∃ calls t, Runs.Path ProcessTurn s calls t ∧ Drained born made t := by
  induction made, older using Nat.le_induction with
  | base => exact ⟨[],s,.nil,drained⟩
  | succ made older ih =>
      obtain ⟨calls,t,run,here⟩ := ih (by omega)
      obtain ⟨u,more,there⟩ := here.turn (by omega) (by omega)
      exact ⟨_,u,run.append more,there⟩

theorem bootSystem_drained : Drained 2 2 (bootSystem 0) := by
  have others : ∀ slot, 2 ≤ slot → (bootSystem 0).kernel.processList slot = none := fun slot later => bootSystem_others 0 (by omega) (by omega)
  refine ⟨rfl,rfl,rfl,?_,others,?_⟩
  · intro slot small
    obtain rfl | rfl : slot = 0 ∨ slot = 1 := by omega
    · exact Option.some_ne_none _
    · exact Option.some_ne_none _
  · rintro slot later ⟨process,here,_⟩
    cases (others slot later).symm.trans here

-- After 62 processes have come and gone the next one gets a heap behind the pool.
theorem pool_exhausted : ∃ calls t, Runs.Path ProcessTurn (bootSystem 0) calls t ∧ (∀ slot, 2 ≤ slot → slot ≠ 64 → ¬ t.Live slot) ∧ ¬ Identified t := by
  obtain ⟨calls,s,run,drained⟩ := bootSystem_drained.run (by decide) 64 (by decide) (by decide)
  obtain ⟨t,created,new⟩ := drained.creates (by decide) (by decide)
  refine ⟨_,t,.step run created,?_,?_⟩
  · rintro slot later other ⟨process,here,valid⟩
    rw [new.list,if_neg other] at here
    exact drained.dead slot later ⟨process,here,valid⟩
  · intro identified
    have live : t.Live 64 := ⟨_,(new.list 64).trans (if_pos rfl),rfl,rfl⟩
    have inside := (identified.inside 64 live).2
    rw [new.heap,drained.pool,drained.size,drained.count] at inside
    exact absurd inside (by decide)

-- After 1022 of them nothing can be created, though only the first two processes live.
theorem pids_exhausted : ∃ calls t, Runs.Path ProcessTurn (bootSystem 0) calls t ∧ (∀ slot, 2 ≤ slot → ¬ t.Live slot) ∧ ¬ Creates t := by
  obtain ⟨calls,t,run,drained⟩ := bootSystem_drained.run (by decide) 1024 (by decide) (by decide)
  refine ⟨calls,t,run,drained.dead,fun creates => ?_⟩
  obtain ⟨pid,u,created⟩ := creates amply ⟨rfl,rfl⟩
  obtain ⟨free,small,_⟩ := getNewPid_some (createAndInitializeProcessObject_made created).found
  exact drained.used pid small free

end GramadoKernel
