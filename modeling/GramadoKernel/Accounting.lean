import GramadoKernel.Creation
import GramadoKernel.Library.Runs
import GramadoKernel.Machine

namespace GramadoKernel

-- The slots whose threads have used TRUE and magic 1234, and the user slots in use.
def validSlots (k : Kernel) : Finset Nat := (Finset.range threadCountMax).filter fun i => k.listed i = true ∧ (k.thread i).Valid
def usedSlots (k : Kernel) : Finset Nat := (Finset.Ico userThresholdTid threadCountMax).filter fun i => k.listed i = true

-- The kernel with the number of threads that create_thread has made since boot.
structure Census where
  kernel : Kernel
  created : Nat

inductive ThreadCall where
  | create
  | exit (tid : Int)
  | request (request : Request)
  | round (tmpTid : Int)

-- Any order of creations, exits of both kinds, other calls on single threads and
-- rounds of the scheduler.
inductive ThreadStep : Census → ThreadCall → Census → Prop where
  | created {s : Census} {rip stack : UInt64} {pid : Int} {name : Option String} {cpl ms : UInt64} {i : Nat} {k : Kernel}
      (call : createThread rip stack pid name cpl ms s.kernel = .ok (some i,k)) : ThreadStep s .create ⟨k,s.created+1⟩
  | declined {s : Census} {rip stack : UInt64} {pid : Int} {name : Option String} {cpl ms : UInt64} {k : Kernel}
      (call : createThread rip stack pid name cpl ms s.kernel = .ok (none,k)) : ThreadStep s .create ⟨k,s.created⟩
  | exited {s : Census} {tid : Int} {k : Kernel} (call : exitThread tid s.kernel = .ok ((),k)) : ThreadStep s (.exit tid) ⟨k,s.created⟩
  | asked {s : Census} (request : Request) : ThreadStep s (.request request) ⟨perform request s.kernel,s.created⟩
  | round {s : Census} {tmpTid tid : Int} {k : Kernel} (call : scheduler tmpTid s.kernel = .ok (tid,k)) :
      ThreadStep s (.round tmpTid) ⟨k,s.created⟩
  | scheduled {s : Census} {tmpTid tid : Int} {k : Kernel} (call : psScheduler tmpTid s.kernel = .ok (tid,k)) :
      ThreadStep s (.round tmpTid) ⟨k,s.created⟩

-- A round that finds no ZOMBIE thread which is not about to exit. The first thing
-- that a round does is to make the thread `tmpTid` READY.
def SparesThreads (s : Census) : ThreadCall → Prop
  | .round tmpTid => ∀ i, 0 < i → i < threadCountMax → s.kernel.listed i = true → (s.kernel.thread i).Valid →
      (s.kernel.thread i).state = .zombie → (s.kernel.thread i).exitInProgress = false → s.kernel.lookup tmpTid = some i
  | _ => True

-- Booted with the init thread only.
structure OneThread (k : Kernel) : Prop where
  listed : ∀ i, k.listed i = decide (i = 0)
  valid : (k.thread 0).Valid
  counter : k.threadsCounter = 1

structure Counted (s : Census) : Prop where
  counter : s.kernel.threadsCounter.toNat = (validSlots s.kernel).card
  slots : ∀ i, s.kernel.listed i = true → i = 0 ∨ userThresholdTid ≤ i ∧ i < threadCountMax
  created : (usedSlots s.kernel).card = s.created

theorem validSlots_congr {k k' : Kernel} (listed : k'.listed = k.listed)
    (valid : ∀ i, k.listed i = true → ((k'.thread i).Valid ↔ (k.thread i).Valid)) : validSlots k' = validSlots k := by
  apply Finset.filter_congr
  intro i _
  rw [listed]
  constructor
  · rintro ⟨present,good⟩
    exact ⟨present,(valid i present).mp good⟩
  · rintro ⟨present,good⟩
    exact ⟨present,(valid i present).mpr good⟩

-- A step that leaves the table, the counter and every marker alone.
theorem Counted.still {s : Census} (counted : Counted s) {k : Kernel} (listed : k.listed = s.kernel.listed)
    (counter : k.threadsCounter = s.kernel.threadsCounter)
    (valid : ∀ i, s.kernel.listed i = true → ((k.thread i).Valid ↔ (s.kernel.thread i).Valid)) : Counted ⟨k,s.created⟩ := by
  refine ⟨?_,?_,?_⟩
  · rw [validSlots_congr listed valid,counter]
    exact counted.counter
  · intro i present
    exact counted.slots i (listed ▸ present)
  · have same : usedSlots k = usedSlots s.kernel := by
      unfold usedSlots
      rw [listed]
    rw [same]
    exact counted.created

theorem oneThread_counted {k : Kernel} (start : OneThread k) : Counted ⟨k,0⟩ := by
  have single : validSlots k = {0} := by
    ext i
    simp only [validSlots,Finset.mem_filter,Finset.mem_range,start.listed,decide_eq_true_eq,Finset.mem_singleton]
    constructor
    · exact fun all => all.2.1
    · rintro rfl
      exact ⟨by decide,rfl,start.valid⟩
  refine ⟨?_,?_,?_⟩
  · rw [single,start.counter]
    rfl
  · intro i present
    rw [start.listed] at present
    exact .inl (of_decide_eq_true present)
  · have none : usedSlots k = ∅ := by
      ext i
      simp only [usedSlots,Finset.mem_filter,Finset.mem_Ico,start.listed,decide_eq_true_eq,Finset.notMem_empty,iff_false]
      rintro ⟨⟨low,_⟩,rfl⟩
      exact absurd low (by decide)
    rw [none]
    rfl

theorem createThread_parts {k k' : Kernel} {rip stack : UInt64} {pid : Int} {name : Option String} {cpl ms : UInt64} {i : Nat}
    (call : createThread rip stack pid name cpl ms k = .ok (some i,k')) :
    userThresholdTid ≤ i ∧ i < threadCountMax ∧ k.listed i = false ∧ k'.listed = Function.update k.listed i true ∧ (k'.thread i).Valid ∧
      (∀ j, j ≠ i → k'.thread j = k.thread j) ∧ k'.threadsCounter = k.threadsCounter+1 ∧ k'.threadsCounter < threadCountMax.toUInt64 := by
  simp only [createThread,bind_ok,require_ok,pointer_ok] at call
  obtain ⟨_,_,text,_,_,_,_,_,call⟩ := call
  split at call
  · cases call
  simp only [bind_ok,require_ok,pointer_ok,Except.ok.injEq,Prod.mk.injEq,Option.some.injEq] at call
  obtain ⟨_,_,process,_,_,_,_,_,slot,found,_,below,rfl,rfl⟩ := call
  have inside := List.mem_range'_1.mp (List.mem_of_find?_eq_some found)
  have empty := List.find?_some found
  refine ⟨inside.1,?_,by simpa using empty,rfl,?_,?_,rfl,below⟩
  · unfold userThresholdTid threadCountMax at *
    omega
  · simp [Kernel.insert,Thread.Valid,Thread.created]
  · intro j other
    exact Function.update_of_ne other _ _

theorem created_counted {s : Census} (counted : Counted s) {rip stack : UInt64} {pid : Int} {name : Option String} {cpl ms : UInt64} {i : Nat}
    {k : Kernel} (call : createThread rip stack pid name cpl ms s.kernel = .ok (some i,k)) : Counted ⟨k,s.created+1⟩ := by
  obtain ⟨low,high,empty,listed,valid,others,counter,below⟩ := createThread_parts call
  have added : validSlots k = insert i (validSlots s.kernel) := by
    ext j
    simp only [validSlots,Finset.mem_filter,Finset.mem_range,Finset.mem_insert,listed]
    by_cases same : j = i
    · subst j
      simp [high,valid]
    · simp [same,others j same]
  have used : usedSlots k = insert i (usedSlots s.kernel) := by
    ext j
    simp only [usedSlots,Finset.mem_filter,Finset.mem_Ico,Finset.mem_insert,listed]
    by_cases same : j = i
    · subst j
      simp [low,high]
    · simp [same]
  have fresh : i ∉ validSlots s.kernel := by simp [validSlots,empty]
  have unused : i ∉ usedSlots s.kernel := by simp [usedSlots,empty]
  have few : (validSlots s.kernel).card ≤ threadCountMax := (Finset.card_filter_le _ _).trans_eq (Finset.card_range _)
  refine ⟨?_,?_,?_⟩
  · have small : s.kernel.threadsCounter.toNat+1 < 2^64 := by
      rw [counted.counter]
      unfold threadCountMax at few
      omega
    rw [added,Finset.card_insert_of_notMem fresh,counter,UInt64.toNat_add,counted.counter]
    rw [counted.counter] at small
    exact Nat.mod_eq_of_lt small
  · intro j present
    rw [listed] at present
    by_cases same : j = i
    · subst j
      exact .inr ⟨low,high⟩
    · rw [Function.update_of_ne same] at present
      exact counted.slots j present
  · rw [used,Finset.card_insert_of_notMem unused,counted.created]

theorem declined_same {k k' : Kernel} {rip stack : UInt64} {pid : Int} {name : Option String} {cpl ms : UInt64}
    (call : createThread rip stack pid name cpl ms k = .ok (none,k')) : k' = k := by
  simp only [createThread,bind_ok,require_ok,pointer_ok] at call
  obtain ⟨_,_,text,_,_,_,_,_,call⟩ := call
  split at call
  · cases call
    rfl
  · simp [bind_ok] at call

theorem exitThread_still {k k' : Kernel} {tid : Int} (call : exitThread tid k = .ok ((),k')) : k'.listed = k.listed ∧
    k'.threadsCounter = k.threadsCounter ∧ ∀ i, ((k'.thread i).Valid ↔ (k.thread i).Valid) := by
  unfold exitThread at call
  split at call
  · cases call
    exact ⟨rfl,rfl,fun _ => Iff.rfl⟩
  simp only [bind_ok,require_ok,pointer_ok] at call
  obtain ⟨idle,_,_,_,_,_,call⟩ := call
  split at call
  · cases call
    exact ⟨rfl,rfl,fun _ => Iff.rfl⟩
  · split at call
    · cases call
      refine ⟨rfl,rfl,fun i => ?_⟩
      rw [Kernel.modify_thread]
      split
      · rename_i same
        subst same
        exact Iff.rfl
      · exact Iff.rfl
    · cases call
      exact ⟨rfl,rfl,fun _ => Iff.rfl⟩

theorem perform_valid (request : Request) (k : Kernel) (i : Nat) : ((perform request k).thread i).Valid ↔ (k.thread i).Valid := by
  rw [perform_thread]
  split
  · cases request with
    | sleep | yield | blocked | waiting => exact Iff.rfl
    | wakeup | zombie =>
        simp only [Request.change]
        split
        · exact Iff.rfl
        · exact Iff.rfl
  · exact Iff.rfl

-- In a round that spares all threads, every thread stays as valid as it was.
theorem round_valid {k k' : Kernel} {tmpTid : Int} {idle : Nat} {joined : List Nat} (round : Round tmpTid idle joined k k')
    (spares : SparesThreads ⟨k,n⟩ (.round tmpTid)) (i : Nat) (below : i < threadCountMax) (present : k.listed i = true) :
    (k'.thread i).Valid ↔ (k.thread i).Valid := by
  rcases Nat.eq_zero_or_pos i with rfl | positive
  · obtain ⟨next,same⟩ := round.others 0 (fun all => Nat.lt_irrefl 0 all.1)
    rw [same]
    exact openedThread_valid
  · obtain ⟨t,joins,next,visit,_,same⟩ := round.visited i positive below present
    have kept : (t.link next).Valid ↔ t.Valid := Iff.rfl
    have opened : (openedThread tmpTid idle k i).Valid ↔ (k.thread i).Valid := openedThread_valid
    rw [same,kept,← opened]
    cases visit with
    | exits | sleeps | wakes | runs | passed => exact Iff.rfl
    | reaped alive valid zombie =>
        have apart : i ≠ idle := by
          rintro rfl
          have own := k.tids i present
          have zero := round.idleTid
          omega
        have lasting := openedThread_lasting tmpTid idle k i
        have calm : (k.thread i).exitInProgress = false := by
          rw [← lasting.exitInProgress]
          exact Bool.eq_false_iff.mpr fun marked => alive ⟨⟨valid.2,marked⟩,apart⟩
        have before := openedThread_valid.mp valid
        rw [openedThread_state] at zombie
        split at zombie
        · cases zombie
        · rename_i unready
          exact absurd ⟨spares i positive below present before zombie calm,before⟩ unready

theorem round_counted {s : Census} (counted : Counted s) {k : Kernel} {tmpTid : Int} {idle : Nat} {joined : List Nat}
    (round : Round tmpTid idle joined s.kernel k) (spares : SparesThreads s (.round tmpTid)) : Counted ⟨k,s.created⟩ := by
  refine counted.still round.globals.listed round.globals.threadsCounter fun i present => ?_
  have below : i < threadCountMax := by
    rcases counted.slots i present with rfl | user
    · decide
    · exact user.2
  exact round_valid round (n := s.created) spares i below present

theorem threadStep_counted {s s' : Census} {call : ThreadCall} (counted : Counted s) (step : ThreadStep s call s') (spares : SparesThreads s call) :
    Counted s' := by
  cases step with
  | created call => exact created_counted counted call
  | declined call =>
      rw [declined_same call]
      exact counted
  | exited call =>
      obtain ⟨listed,counter,valid⟩ := exitThread_still call
      exact counted.still listed counter fun i _ => valid i
  | asked request =>
      have globals := perform_globals request s.kernel
      exact counted.still globals.listed globals.threadsCounter fun i _ => perform_valid request s.kernel i
  | round call =>
      obtain ⟨_,idle,joined,round⟩ := scheduler_parts call
      exact round_counted counted round spares
  | scheduled call =>
      rcases psScheduler_parts call with ⟨_,_,same⟩ | ⟨_,_,idle,_,_,same⟩ | ⟨_,_,_,idle,joined,round⟩
      · rw [same]
        exact counted
      · rw [same]
        exact counted.still rfl rfl fun _ _ => Iff.rfl
      · exact round_counted counted round spares

-- What create_thread checks of its arguments.
structure CreateArgs (k : Kernel) (pid : Int) (name : Option String) (cpl : UInt64) : Prop where
  range : 0 ≤ pid ∧ pid < processCountMax
  name : ∃ text, name = some text ∧ text ≠ ""
  cpl : cpl = ring0 ∨ cpl = ring3
  current : 0 ≤ k.currentThread ∧ k.currentThread < threadCountMax
  process : ∃ process, k.processList pid.toNat = some process ∧ process.used = true ∧ process.magic = 1234

theorem free_slot {s : Census} (counted : Counted s) (room : s.created < threadCountMax-userThresholdTid) :
    ∃ i, (List.range' userThresholdTid (threadCountMax-userThresholdTid)).find? (fun i => s.kernel.listed i = false) = some i := by
  by_contra full
  have all : ∀ i ∈ List.range' userThresholdTid (threadCountMax-userThresholdTid), s.kernel.listed i = true := by
    intro i member
    by_contra empty
    have found : ((List.range' userThresholdTid (threadCountMax-userThresholdTid)).find? fun i => s.kernel.listed i = false).isSome = true :=
      List.find?_isSome.mpr ⟨i,member,by simpa using empty⟩
    exact full (Option.isSome_iff_exists.mp found)
  have used : usedSlots s.kernel = Finset.Ico userThresholdTid threadCountMax := by
    apply Finset.filter_true_of_mem
    intro i member
    have bounds := Finset.mem_Ico.mp member
    refine all i (List.mem_range'_1.mpr ⟨bounds.1,?_⟩)
    unfold threadCountMax userThresholdTid at *
    omega
  have count := counted.created
  rw [used,Nat.card_Ico] at count
  omega

theorem validSlots_few {s : Census} (counted : Counted s) : (validSlots s.kernel).card ≤ s.created+1 := by
  have inside : validSlots s.kernel ⊆ insert 0 (usedSlots s.kernel) := by
    intro i member
    have valid := (Finset.mem_filter.mp member).2
    rcases counted.slots i valid.1 with rfl | user
    · exact Finset.mem_insert_self 0 _
    · exact Finset.mem_insert_of_mem (Finset.mem_filter.mpr ⟨Finset.mem_Ico.mpr user,valid.1⟩)
  have bound := (Finset.card_le_card inside).trans (Finset.card_insert_le 0 _)
  rwa [counted.created] at bound

theorem createThread_succeeds {s : Census} (counted : Counted s) (room : s.created < threadCountMax-userThresholdTid) (rip stack ms : UInt64)
    {pid : Int} {name : Option String} {cpl : UInt64} (args : CreateArgs s.kernel pid name cpl) :
    ∃ i k, createThread rip stack pid name cpl ms s.kernel = .ok (some i,k) := by
  obtain ⟨i,found⟩ := free_slot counted room
  obtain ⟨text,named,nonempty⟩ := args.name
  obtain ⟨process,present,used,magic⟩ := args.process
  have few := validSlots_few counted
  have within : ¬ (s.kernel.currentThread < 0 ∨ threadCountMax ≤ s.kernel.currentThread) := by
    have current := args.current
    omega
  have below : s.kernel.threadsCounter+1 < threadCountMax.toUInt64 := by
    rw [UInt64.lt_iff_toNat_lt,UInt64.toNat_add,counted.counter]
    have max : threadCountMax.toUInt64.toNat = 1024 := rfl
    have one : (1 : UInt64).toNat = 1 := rfl
    unfold threadCountMax userThresholdTid at room
    rw [max,one]
    omega
  have made : ∃ k, createThread rip stack pid name cpl ms s.kernel = .ok (some i,k) := by
    simp only [createThread,bind_ok,require_ok,pointer_ok,if_neg within,Except.ok.injEq,Prod.mk.injEq]
    exact ⟨_,(),args.range.1,text,named,(),nonempty,(),args.cpl,(),args.range.2,process,present,(),used,(),magic,i,found,(),below,rfl,rfl⟩
  obtain ⟨after,call⟩ := made
  exact ⟨i,after,call⟩

theorem run_counted {k : Kernel} (start : OneThread k) {calls : List ThreadCall} {s : Census}
    (run : Runs.Path (fun s call s' => ThreadStep s call s' ∧ SparesThreads s call) ⟨k,0⟩ calls s) : Counted s :=
  run.invariant Counted (fun _ _ _ counted step => threadStep_counted counted step.1 step.2) (oneThread_counted start)

-- While no round retires a thread, the counter is the number of valid threads,
-- each is found at its tid, and a thread can be created until all the user slots
-- have been used once.
theorem threads_accounted {k : Kernel} (start : OneThread k) {calls : List ThreadCall} {s : Census}
    (run : Runs.Path (fun s call s' => ThreadStep s call s' ∧ SparesThreads s call) ⟨k,0⟩ calls s) :
    s.kernel.threadsCounter.toNat = (validSlots s.kernel).card ∧
      (∀ i ∈ validSlots s.kernel, s.kernel.lookup (s.kernel.thread i).tid = some i) ∧
      (s.created < 1024-100 → ∀ rip stack ms pid name cpl, CreateArgs s.kernel pid name cpl →
        ∃ i after, createThread rip stack pid name cpl ms s.kernel = .ok (some i,after)) := by
  have counted := run_counted start run
  refine ⟨counted.counter,?_,?_⟩
  · intro i member
    obtain ⟨below,present,_⟩ := Finset.mem_filter.mp member
    exact lookup_own s.kernel present (Finset.mem_range.mp below)
  · intro room rip stack ms pid name cpl args
    exact createThread_succeeds counted room rip stack ms args

theorem bootKernel_oneThread : OneThread bootKernel := ⟨fun _ => rfl,by decide,rfl⟩

theorem newThread_made : newThread = .ok (some 100,afterCall newThread) := afterCall_ok (by decide +kernel)

theorem newThread_accounted :
    (afterCall newThread).threadsCounter.toNat = (validSlots (afterCall newThread)).card ∧
      (∀ i ∈ validSlots (afterCall newThread), (afterCall newThread).lookup ((afterCall newThread).thread i).tid = some i) ∧
      (1 < 1024-100 → ∀ rip stack ms pid name cpl, CreateArgs (afterCall newThread) pid name cpl →
        ∃ i after, createThread rip stack pid name cpl ms (afterCall newThread) = .ok (some i,after)) :=
  threads_accounted (s := ⟨afterCall newThread,1⟩) bootKernel_oneThread (.cons ⟨.created newThread_made,trivial⟩ .nil)

def zombieTable : Kernel := doThreadZombie 100 (afterCall newThread)

theorem zombieTable_booted : Booted zombieTable := by
  refine ⟨⟨?_,?_,?_,?_,?_,?_⟩,?_,?_,?_⟩
  all_goals decide +kernel

theorem visit_retires {jiffies : UInt64} {plain : Prop} {t t' : Thread} {joins : Bool} (visit : Visit jiffies plain t t' joins)
    (valid : t.Valid) (zombie : t.state = .zombie) (calm : t.exitInProgress = false) : ¬ t'.Valid := by
  cases visit with
  | exits exiting => exact absurd (calm.symm.trans exiting.2) (by decide)
  | sleeps _ waits => exact absurd (zombie.symm.trans waits.2) (by decide)
  | reaped => exact fun still => absurd still.1 Bool.false_ne_true
  | wakes _ waits => exact absurd (zombie.symm.trans waits.2) (by decide)
  | runs _ _ ready => exact absurd (zombie.symm.trans ready) (by decide)
  | passed _ _ other => exact absurd ⟨valid,.inl zombie⟩ other

-- A thread is created, made a ZOMBIE and retired by the next round: the counter
-- keeps counting it.
theorem retired_thread_counted : ∃ calls s, OneThread bootKernel ∧ Runs.Path ThreadStep ⟨bootKernel,0⟩ calls s ∧
    s.kernel.threadsCounter.toNat ≠ (validSlots s.kernel).card := by
  obtain ⟨k,call⟩ := scheduler_returns (-1) zombieTable_booted
  obtain ⟨_,idle,joined,round⟩ := scheduler_parts call
  have listed : ∀ i, k.listed i = true → i = 0 ∨ i = 100 := by
    intro i present
    have table : zombieTable.listed = Function.update bootKernel.listed 100 true :=
      (perform_globals (.zombie 100) _).listed.trans (createThread_parts newThread_made).2.2.2.1
    rw [round.globals.listed] at present
    change zombieTable.listed i = true at present
    rw [table] at present
    by_cases same : i = 100
    · exact .inr same
    · rw [Function.update_of_ne same] at present
      exact .inl (of_decide_eq_true present)
  have marked : (zombieTable.thread 100).Valid ∧ (zombieTable.thread 100).state = .zombie ∧
      (zombieTable.thread 100).exitInProgress = false := by decide +kernel
  have none : zombieTable.lookup (-1) ≠ some 100 := by decide +kernel
  have retired : ¬ (k.thread 100).Valid := by
    obtain ⟨t,joins,next,visit,_,same⟩ := round.visited 100 (by decide) (by decide) (by decide +kernel)
    rw [same]
    have zombie : (openedThread (-1) idle zombieTable 100).state = .zombie := by
      rw [openedThread_state,if_neg fun both => absurd both.1 none]
      exact marked.2.1
    have calm := (openedThread_lasting (-1) idle zombieTable 100).exitInProgress.trans marked.2.2
    have gone : ¬ t.Valid := visit_retires visit (openedThread_valid.mpr marked.1) zombie calm
    exact gone
  have single : validSlots k ⊆ {0} := by
    intro i member
    obtain ⟨_,present,valid⟩ := Finset.mem_filter.mp member
    rcases listed i present with rfl | rfl
    · exact Finset.mem_singleton_self 0
    · exact absurd valid retired
  have counter : k.threadsCounter.toNat = 2 := by
    have before : zombieTable.threadsCounter.toNat = 2 := by decide +kernel
    rw [round.globals.threadsCounter]
    exact before
  refine ⟨_,_,bootKernel_oneThread,.cons (.created newThread_made) (.cons (.asked (.zombie 100)) (.cons (.round call) .nil)),?_⟩
  have few := Finset.card_le_card single
  rw [counter]
  intro same
  rw [← same] at few
  exact absurd few (by decide)

end GramadoKernel
