import GramadoKernel.Ipc

namespace GramadoKernel

def userThresholdTid : Nat := 100
def ring0 : UInt64 := 0
def ring3 : UInt64 := 3

def Thread.zeroed : Thread where
  used := false
  magic := 0
  tid := 0
  exitInProgress := false
  ownerProcess := false
  ownerPid := 0
  basePriority := 0
  priority := 0
  state := .initialized
  yieldInProgress := false
  sleepInProgress := false
  desiredSleepMs := 0
  hasPendingEvent := false
  pml4Pa := 0
  cpl := 0
  rflagsCurrentIopl := 0
  toSupervisor := 0
  toUser := 0
  initialJiffy := 0
  readyJiffy := 0
  waitingJiffy := 0
  blockedJiffy := 0
  zombieJiffy := 0
  wakeJiffy := 0
  step := 0
  initialTimeMs := 0
  totalTimeMs := 0
  credits := 0
  quantum := 0
  standbyCount := 0
  standbyCountMs := 0
  runningCount := 0
  runningCountMs := 0
  readyCount := 0
  readyCountMs := 0
  waitingCount := 0
  waitingCountMs := 0
  blockedCount := 0
  blockedCountMs := 0
  scheduledCount := 0
  alarm := 0
  queue := ⟨fun _ => none,0,0⟩
  isResponder := false
  context := .zero
  saved := false
  next := none

-- __ps_setup_x64_context
def setupContext (cpl stack rip : UInt64) : Registers :=
  if cpl = ring0 then
    {Registers.zero with
      ss := 0x10,rsp := stack,rflags := 0x0202,cs := 0x8,rip := rip
      ds := 0x10,es := 0x10,fs := 0x10,gs := 0x10}
  else
    {Registers.zero with
      ss := 0x23,rsp := stack,rflags := 0x3202,cs := 0x1B,rip := rip
      ds := 0x23,es := 0x23,fs := 0x23,gs := 0x23}

-- What create_thread and create_init_thread write into a new structure.
def Thread.created (tid pid : Int) (pml4Pa cpl stack rip systimeMs : UInt64) : Thread :=
  {Thread.zeroed with
    used := true
    magic := 1234
    tid := tid
    ownerProcess := true
    ownerPid := pid
    basePriority := prioritySystemThreshold
    priority := prioritySystemThreshold
    pml4Pa := pml4Pa
    cpl := cpl
    rflagsCurrentIopl := if cpl = ring0 then 0 else 3
    initialTimeMs := systimeMs
    quantum := quantumNormalThreshold
    queue := MsgQueue.built
    context := setupContext cpl stack rip}

def Kernel.insert (k : Kernel) (i : Nat) (t : Thread) (own : t.tid = i) : Kernel :=
  {k with
    thread := Function.update k.thread i t
    listed := Function.update k.listed i true
    tids := by
      intro j present
      by_cases same : j = i
      · subst j; simpa using own
      · simp only [Function.update_of_ne same] at present ⊢
        exact k.tids j present}

-- create_thread. The search goes over the user slots three times before it
-- gives up; kmalloc is taken to succeed, and the name is only checked.
def createThread (initRip initStack : UInt64) (pid : Int) (name : Option String) (cpl systimeMs : UInt64) (k : Kernel) :
    Except Halt (Option Nat × Kernel) := do
  require (0 ≤ pid) (.panic "create_thread: [ERROR] pid\n")
  let text ← pointer name (.panic "create_thread: [ERROR] name\n")
  require (text ≠ "") (.panic "create_thread: [ERROR] *name\n")
  require (cpl = ring0 ∨ cpl = ring3) (.panic "create_thread: [ERROR] Invalid cpl\n")
  if k.currentThread < 0 ∨ threadCountMax ≤ k.currentThread then .ok (none,k)
  else do
    require (pid < processCountMax) (.panic "create_thread: ProcessID")
    let process ← pointer (k.processList pid.toNat) (.panic "create_thread: Process\n")
    require (process.used = true) (.panic "create_thread: Process->used\n")
    require (process.magic = 1234) (.panic "create_thread: Process->magic\n")
    let i ← pointer ((List.range' userThresholdTid (threadCountMax-userThresholdTid)).find? fun i => k.listed i = false)
      (.panic "create_thread: [FAIL] No more slots\n")
    let k := k.insert i (Thread.created i pid process.pml4Pa cpl initStack initRip systimeMs) rfl
    let k := {k with threadsCounter := k.threadsCounter+1}
    require (k.threadsCounter < threadCountMax.toUInt64) (.panic "create_thread: [FAIL] UPProcessorBlock.threads_counter \n")
    .ok (some i,k)

-- exit_thread: the scheduler turns the mark into the ZOMBIE state.
def exitThread (tid : Int) (k : Kernel) : Except Halt (Unit × Kernel) :=
  if tid < 0 ∨ threadCountMax ≤ tid then .ok ((),k)
  else do
    let idle ← pointer k.idleThread (.panic "exit_thread: Idle\n")
    require ((k.thread idle).magic = 1234) (.panic "exit_thread: Idle validation\n")
    require (tid ≠ (k.thread idle).tid) (.panic "exit_thread: We can't kill the Idle thread\n")
    match k.lookup tid with
    | none => .ok ((),k)
    | some p =>
        if (k.thread p).magic = 1234 then .ok ((),k.modify p fun t => {t with exitInProgress := true})
        else .ok ((),k)

-- A thread that create_thread returns has the queue of the common part: every
-- slot a cleared structure, both cursors at the first.
theorem createThread_queue (made : createThread initRip initStack pid name cpl systimeMs k = .ok (some i,k')) :
    (k'.thread i).queue = MsgQueue.built := by
  simp only [createThread,bind_ok,require_ok,pointer_ok] at made
  obtain ⟨_,_,text,_,_,_,_,_,made⟩ := made
  split at made
  · cases made
  · simp only [bind_ok,require_ok,pointer_ok,Except.ok.injEq,Prod.mk.injEq,Option.some.injEq] at made
    obtain ⟨_,_,process,_,_,_,_,_,slot,_,_,_,rfl,rfl⟩ := made
    simp [Kernel.insert,Thread.created]

-- The kernel when the init process starts: its control thread is Idle and
-- Init, RUNNING at slot 0, and the only thread.
def initProcess : Process := ⟨true,1234,1,0x1000⟩

def bootKernel : Kernel where
  thread := fun i => if i = 0 then
      {Thread.created 0 1 initProcess.pml4Pa ring3 0x003FFFF0 0x00201000 0 with state := .running}
    else Thread.zeroed
  listed := fun i => decide (i = 0)
  tids := by
    intro i present
    obtain rfl : i = 0 := by simpa using present
    rfl
  currentThread := 0
  foregroundThread := 0
  initThread := some 0
  idleThread := some 0
  upCurrentThread := none
  threadsCounter := 1
  currentq := some 0
  gUseEventResponder := true
  evResponderThread := none
  taskSwitchStatus := unlocked
  gSchedulerStatus := unlocked
  schedulerInitialized := true
  schedulerPolicy := schedPolicyRr
  rrRoundCounter := 0
  systemState := .running
  displayServerInitialized := false
  displayServerTid := -1
  jiffies := 0
  sysTimeHz := 1000
  processList := fun pid => if pid = 1 then some initProcess else none
  currentPid := 1
  dispatchCount := some ⟨1234,0,0,0,0,0,0,0⟩
  cpu := .zero
  contextCpl := 3
  cr3 := 0x1000
  spawnEoiIsNecessary := false

def afterCall (call : Except Halt (α × Kernel)) : Kernel :=
  match call with
  | .ok (_,k) => k
  | .error _ => bootKernel

def returnsValue [DecidableEq α] (call : Except Halt (α × Kernel)) (value : α) : Bool :=
  match call with
  | .ok (result,_) => decide (result = value)
  | .error _ => false

theorem afterCall_ok [DecidableEq α] {call : Except Halt (α × Kernel)} (result : returnsValue call value = true) :
    call = .ok (value,afterCall call) := by
  cases call with
  | error => cases result
  | ok pair =>
      obtain rfl : pair.1 = value := by simpa [returnsValue] using result
      rfl

def afterTick (call : Except Halt (Option (α × Kernel))) : Kernel :=
  match call with
  | .ok (some (_,k)) => k
  | _ => bootKernel

def endsWith [DecidableEq α] (call : Except Halt (Option (α × Kernel))) (value : α) : Bool :=
  match call with
  | .ok (some (result,_)) => decide (result = value)
  | _ => false

theorem afterTick_ok [DecidableEq α] {call : Except Halt (Option (α × Kernel))} (result : endsWith call value = true) :
    call = .ok (some (value,afterTick call)) := by
  match call,result with
  | .ok (some (found,k)),result =>
      obtain rfl : found = value := by simpa [endsWith] using result
      rfl

def newThread : Except Halt (Option Nat × Kernel) := createThread 0x00401000 0x0040FFF0 1 (some "new") ring3 0 bootKernel

end GramadoKernel
