import GramadoKernel.AddressSpaces

namespace GramadoKernel

-- What a failed call leaves as it was. Of the parent the descriptors and the connectors
-- are compared, of the threads the structures too.
structure Untraced (parent : Nat) (s t : System) : Prop where
  processes : t.kernel.processList = s.kernel.processList
  listed : t.kernel.listed = s.kernel.listed
  threads : t.kernel.thread = s.kernel.thread
  objects : t.objects parent = s.objects parent
  connectors : (t.info parent).connectors = (s.info parent).connectors
  counters : t.fdCounter = s.fdCounter
  heaps : t.gHeapCount = s.gHeapCount
  inProgress : t.copyProcessInProgress = s.copyProcessInProgress

-- The three ways to fail before anything is made: the flags are refused while another
-- call is in progress, or none is in progress and the parent is refused, or there is no
-- process structure for a parent whose control thread runs.
inductive EarlyFailure (supply : CloneSupply) (pid : Int) (cloneFlags : UInt64) (s : System) : Prop where
  | refused (unixStyle : cloneFlags &&& fCloneUnixStyle ≠ 0) (busy : s.copyProcessInProgress = true) : EarlyFailure supply pid cloneFlags s
  | orphan (plain : cloneFlags &&& fCloneUnixStyle = 0) (idle : s.copyProcessInProgress = false) (parents : checkParent pid s = .ok none) :
      EarlyFailure supply pid cloneFlags s
  | childless {parent thread} (plain : cloneFlags &&& fCloneUnixStyle = 0) (idle : s.copyProcessInProgress = false)
      (parents : checkParent pid s = .ok (some parent)) (control : (s.info parent).control = some thread)
      (running : (s.kernel.thread thread).state = .running) (full : supply.processObject = false ∨ getNewPid s.kernel = none) :
      EarlyFailure supply pid cloneFlags s

section Early

variable {supply : CloneSupply} {pid : Int} {cloneFlags : UInt64} {s : System}

theorem earlyFailure_unixStyle_iff (unixStyle : cloneFlags &&& fCloneUnixStyle ≠ 0) :
    EarlyFailure supply pid cloneFlags s ↔ s.copyProcessInProgress = true := by
  constructor
  · intro early
    cases early with
    | refused _ busy => exact busy
    | orphan plain => exact absurd plain unixStyle
    | childless plain => exact absurd plain unixStyle
  · exact .refused unixStyle

theorem earlyFailure_orphan_iff (plain : cloneFlags &&& fCloneUnixStyle = 0) (parents : checkParent pid s = .ok none) :
    EarlyFailure supply pid cloneFlags s ↔ s.copyProcessInProgress = false := by
  constructor
  · intro early
    cases early with
    | refused unixStyle => exact absurd plain unixStyle
    | orphan _ idle => exact idle
    | childless _ _ accepted => cases parents.symm.trans accepted
  · exact fun idle => .orphan plain idle parents

theorem earlyFailure_parent_iff {parent thread : Nat} (plain : cloneFlags &&& fCloneUnixStyle = 0)
    (parents : checkParent pid s = .ok (some parent)) (control : (s.info parent).control = some thread) :
    EarlyFailure supply pid cloneFlags s ↔ s.copyProcessInProgress = false ∧ (s.kernel.thread thread).state = .running ∧
      (supply.processObject = false ∨ getNewPid s.kernel = none) := by
  constructor
  · intro early
    cases early with
    | refused unixStyle => exact absurd plain unixStyle
    | orphan _ _ refused => cases parents.symm.trans refused
    | childless _ idle accepted own running full =>
        cases parents.symm.trans accepted
        cases own.symm.trans control
        exact ⟨idle,running,full⟩
  · rintro ⟨idle,running,full⟩
    exact .childless plain idle parents control running full

end Early

theorem checkParent_cloning (pid : Int) (s : System) (tables : Tables) : checkParent pid (s.cloning tables) = checkParent pid s := rfl

theorem checkThread_state {pid : Int} {parent thread : Nat} {s t : System} (checked : checkThread pid parent s = .ok (thread,t)) :
    (s.info parent).control = some thread ∧ t = s.withKernel (s.kernel.modify thread fun t => {t with state := .running}) := by
  simp only [checkThread,bind_ok,require_ok,pointer_ok,Except.ok.injEq,Prod.mk.injEq] at checked
  obtain ⟨_,control,_,_,_,_,_,_,_,_,_,_,_,_,_,_,rfl,rfl⟩ := checked
  exact ⟨control,rfl⟩

theorem createAndInitializeProcessObject_possible {supply : CloneSupply} {s t : System} {child : Nat}
    (created : createAndInitializeProcessObject supply s = .ok (some child,t)) :
    supply.processObject = true ∧ getNewPid s.kernel = some child := by
  unfold createAndInitializeProcessObject at created
  split at created
  · cases created
  rename_i object
  split at created
  · cases created
  · rename_i pid found
    simp only [bind_ok,require_ok,Except.ok.injEq,Prod.mk.injEq,Option.some.injEq] at created
    obtain ⟨_,_,_,_,_,_,_,_,rfl,_⟩ := created
    exact ⟨Bool.eq_true_of_not_eq_false object,found⟩

-- The new process stays in the list when its image cannot be loaded.
theorem adopted_listed {supply : CloneSupply} {pid : Int} {parent thread child clone : Nat} {pml4 : UInt64} {b u v : System}
    (apart : parent ≠ child) (adopted : adoptTables pid parent child pml4 b = .ok u)
    (copied : copyParts supply parent thread child u = .ok (clone,v)) : v.kernel.processList child ≠ none := by
  obtain ⟨_,_,_,_,_,_,pml4Pa,kernel⟩ := adoptTables_ok adopted
  obtain ⟨parts,_⟩ := copyParts_ok apart copied
  rw [parts.processes,kernel,setProcess_processList,if_pos rfl]
  exact Option.some_ne_none _

-- A failed clone leaves no trace exactly when it fails before anything is made.
theorem failed_clone_untraced_iff {supply : CloneSupply} {filename : Option String} {pid : Int} {cloneFlags : UInt64} {s t : System}
    (failed : copyProcess supply filename pid cloneFlags s = .ok (-1,t)) :
    Untraced pid.toNat s t ↔ EarlyFailure supply pid cloneFlags s := by
  generalize result : (-1 : Int) = r at failed
  cases copyProcess_cases failed with
  | refused unixStyle =>
      rw [earlyFailure_unixStyle_iff unixStyle]
      exact ⟨fun untraced => untraced.inProgress.symm,fun busy => ⟨rfl,rfl,rfl,rfl,rfl,rfl,rfl,busy.symm⟩⟩
  | orphan plain root parents =>
      rw [earlyFailure_orphan_iff plain ((checkParent_cloning _ _ _).symm.trans parents)]
      exact ⟨fun untraced => untraced.inProgress.symm,fun idle => ⟨rfl,rfl,rfl,rfl,rfl,rfl,rfl,idle.symm⟩⟩
  | @childless pml4 tables parent thread a b plain root parents threads created =>
      obtain ⟨control,rfl⟩ := checkThread_state threads
      obtain ⟨rfl,full⟩ := createAndInitializeProcessObject_none created
      rw [earlyFailure_parent_iff plain ((checkParent_cloning _ _ _).symm.trans parents) control]
      constructor
      · intro untraced
        have same := congrFun untraced.threads thread
        have running : (s.kernel.thread thread).state = .running := by
          rw [← same]
          simp [System.failed,System.withKernel,System.cloning]
        exact ⟨untraced.inProgress.symm,running,full⟩
      · rintro ⟨idle,running,_⟩
        have same : {s.kernel.thread thread with state := .running} = s.kernel.thread thread := by rw [← running]
        exact ⟨rfl,rfl,(congrArg (Function.update s.kernel.thread thread) same).trans (Function.update_eq_self _ _),rfl,rfl,rfl,rfl,idle.symm⟩
  | @unloaded pml4 tables parent thread child clone a b u v plain root parents threads created adopted copied unloaded =>
      obtain ⟨control,rfl⟩ := checkThread_state threads
      obtain ⟨object,found⟩ := createAndInitializeProcessObject_possible created
      have fresh := (createAndInitializeProcessObject_ok created).fresh
      have apart := (adoptTables_ok adopted).1
      obtain ⟨rfl,nonneg,_,_⟩ := checkParent_ok parents
      rw [earlyFailure_parent_iff plain ((checkParent_cloning _ _ _).symm.trans parents) control]
      constructor
      · intro untraced
        have stays := adopted_listed (show pid.toNat ≠ child by omega) adopted copied
        exact absurd ((congrFun untraced.processes child).trans fresh) stays
      · rintro ⟨_,_,none | full⟩
        · cases object.symm.trans none
        · cases found.symm.trans full
  | made => omega

theorem failed_cloned {s : System} (call : CloneCall)
    (returns : (copyProcess call.supply call.filename call.pid call.cloneFlags s).isOk = true) (failed : s.clonePid call = -1) :
    copyProcess call.supply call.filename call.pid call.cloneFlags s = .ok (-1,s.cloned call) := by
  simp only [System.clonePid,System.cloned] at *
  cases done : copyProcess call.supply call.filename call.pid call.cloneFlags s with
  | error => simp [done,Except.isOk,Except.toBool] at returns
  | ok result => simp only [done] at failed ⊢; rw [← failed]

-- A process that is not there cannot be cloned, and nothing has changed.
theorem failed_clone_untraced_orphan : Untraced 0 (bootSystem 0) ((bootSystem 0).cloned {firstClone with pid := -5}) :=
  (failed_clone_untraced_iff (failed_cloned {firstClone with pid := -5} (by decide +kernel) (by decide +kernel))).mpr
    (.orphan (by decide) rfl rfl)

-- An image that is not on the disk.
def missingImage : CloneCall := {firstClone with supply := {plentiful with loadImage := 1}}

-- The process, its thread, its heap and the counters of its files are left behind.
theorem missing_image_traced : copyProcess missingImage.supply missingImage.filename missingImage.pid missingImage.cloneFlags (bootSystem 0) =
      .ok (-1,(bootSystem 0).cloned missingImage) ∧
    (bootSystem 0).kernel.processList 2 = none ∧ (((bootSystem 0).cloned missingImage).kernel.processList 2).isSome = true ∧
    (bootSystem 0).kernel.listed 100 = false ∧ ((bootSystem 0).cloned missingImage).kernel.listed 100 = true ∧
    (bootSystem 0).fdCounter 0 = 1 ∧ ((bootSystem 0).cloned missingImage).fdCounter 0 = 2 ∧
    (bootSystem 0).gHeapCount = 2 ∧ ((bootSystem 0).cloned missingImage).gHeapCount = 3 := by
  refine ⟨failed_cloned missingImage (by decide +kernel) (by decide +kernel),rfl,?_,rfl,?_,rfl,?_,rfl,?_⟩
  all_goals decide +kernel

end GramadoKernel
