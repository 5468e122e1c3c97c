import GramadoKernel.Ipc
import GramadoKernel.Scheduler

namespace GramadoKernel

-- dispatch.h
inductive Select where
  | idle | initialized | next | current | any | ideal | dispatcher
  deriving DecidableEq

def DispatchCount.count (d : DispatchCount) : Select → DispatchCount
  | .idle => {d with selectIdle := d.selectIdle+1}
  | .initialized => {d with selectInitialized := d.selectInitialized+1}
  | .next => {d with selectNext := d.selectNext+1}
  | .current => {d with selectCurrent := d.selectCurrent+1}
  | .any => {d with selectAny := d.selectAny+1}
  | .ideal => {d with selectIdeal := d.selectIdeal+1}
  | .dispatcher => {d with selectDispatcherQueue := d.selectDispatcherQueue+1}

def incrementDispatcherCount (type : Select) (k : Kernel) : Except Halt Kernel := do
  let d ← pointer k.dispatchCount (.panic "IncrementDispatcherCount:\n")
  require (d.magic = 1234) (.panic "IncrementDispatcherCount: validation\n")
  .ok {k with dispatchCount := some (d.count type)}

-- Selectors are kept to 16 bits on the way in and on the way out.
def Registers.selectors16 (r : Registers) : Registers :=
  {r with
    ss := r.ss &&& 0xFFFF
    cs := r.cs &&& 0xFFFF
    ds := r.ds &&& 0xFFFF
    es := r.es &&& 0xFFFF
    fs := r.fs &&& 0xFFFF
    gs := r.gs &&& 0xFFFF}

-- save_current_context, x64cont.c
def saveCurrentContext (k : Kernel) : Except Halt Kernel := do
  require (0 ≤ k.currentThread ∧ k.currentThread < threadCountMax) (.die "save_current_context: TID=%d\n")
  let p ← pointer (k.lookup k.currentThread) (.die "save_current_context: [ERROR] Struct Thread=\x7b%d\x7d\n")
  require (k.thread p).Valid (.die "save_current_context: [ERROR] Validation Thread=\x7b%d\x7d\n")
  let cpl := k.contextCpl &&& 3
  require (cpl = (k.thread p).cpl) (.panic "save_current_context: cpl != t->cpl\n")
  require (cpl ≠ 0) (.panic "save_current_context: cpl 0\n")
  require (cpl ≠ 1) (.panic "save_current_context: cpl 1\n")
  require (cpl ≠ 2) (.panic "save_current_context: cpl 2\n")
  .ok (k.modify p fun t =>
    {t with
      context := k.cpu.selectors16
      toSupervisor := t.toSupervisor+1
      rflagsCurrentIopl := k.cpu.rflags &&& 0x200})

-- restore_current_context, x64cont.c
def restoreCurrentContext (k : Kernel) : Except Halt Kernel := do
  require (0 ≤ k.currentThread ∧ k.currentThread < threadCountMax) (.die "restore_current_context: TID=%d\n")
  let p ← pointer (k.lookup k.currentThread) (.die "restore_current_context error: t\n")
  require (k.thread p).Valid (.die "restore_current_context error: t validation\n")
  let k := {k with cpu := (k.thread p).context.selectors16}
  require ((k.thread p).cpl = 3) (.panic "restore_current_context: t->cpl\n")
  .ok ({k with cr3 := (k.thread p).pml4Pa}.modify p fun t => {t with toUser := t.toUser+1})

-- MOVEMENT 4 (Ready --> Running) with the lower limits.
def Thread.dispatched (t : Thread) : Thread :=
  {t with
    state := .running
    runningCount := 0
    runningCountMs := 0
    readyCount := 0
    readyCountMs := 0
    waitingCount := 0
    waitingCountMs := 0
    blockedCount := 0
    blockedCountMs := 0
    basePriority := if t.basePriority < priorityMin then priorityMin else t.basePriority
    priority := if t.priority < priorityMin then priorityMin else t.priority
    quantum := if t.quantum < quantumMin then quantumMin else t.quantum
    saved := false}

theorem dispatched_tid (t : Thread) : t.dispatched.tid = t.tid := rfl

def dispatcher (k : Kernel) : Except Halt Kernel := do
  require (0 ≤ k.currentThread ∧ k.currentThread < threadCountMax) (.panic "dispatcher: current_thread\n")
  let p ← pointer (k.lookup k.currentThread) (.panic "dispatcher: TargetThread\n")
  require ((k.thread p).magic = 1234) (.panic "dispatcher: magic\n")
  require ((k.thread p).state = .ready) (.panic "dispatcher: state\n")
  restoreCurrentContext ({k with upCurrentThread := some p}.modify p Thread.dispatched dispatched_tid)

-- MOVEMENT 2 (Standby --> Running).
def Thread.spawned (t : Thread) (jiffies : UInt64) (next : Option Nat) : Thread :=
  {t with
    saved := false
    exitInProgress := false
    standbyCount := 0
    standbyCountMs := 0
    runningCount := 0
    runningCountMs := 0
    readyCount := 0
    readyCountMs := 0
    waitingCount := 0
    waitingCountMs := 0
    blockedCount := 0
    blockedCountMs := 0
    initialJiffy := jiffies
    step := 0
    initialTimeMs := 0
    totalTimeMs := 0
    next := next
    state := .running}

theorem spawned_tid (jiffies : UInt64) (next : Option Nat) (t : Thread) : (t.spawned jiffies next).tid = t.tid := rfl

def startThread (p : Nat) (k : Kernel) : Kernel :=
  {k.modify p (fun t => t.spawned k.jiffies k.initThread) (spawned_tid k.jiffies k.initThread) with
    taskSwitchStatus := unlocked
    gSchedulerStatus := unlocked}

-- The last part of the spawn, up to the iretq.
def enterThread (p : Nat) (k : Kernel) : Except Halt Kernel := do
  require (0 ≤ k.currentThread ∧ k.currentThread < threadCountMax) (.panic "__spawn_thread_by_tid_imp: current_thread\n")
  let k ← incrementDispatcherCount .initialized k
  require (k.spawnEoiIsNecessary = true) (.panic "__spawn_thread_by_tid_imp: eoi_is_needed != TRUE\n")
  require ((k.thread p).cpl = 3) (.panic "__spawn_thread_by_tid_imp: Invalid cpl\n")
  .ok ({k with cr3 := (k.thread p).pml4Pa}.modify p fun t => {t with toUser := t.toUser+1})

-- psSpawnThreadByTID and __spawn_thread_by_tid_imp. A kernel in the result is
-- the one in which the new thread starts in user mode; the call does not return.
def spawnThreadByTid (tid : Int) (k : Kernel) : Except Halt Kernel := do
  require (0 ≤ tid ∧ tid < threadCountMax) (.die "psSpawnThreadByTID: TID=%d\n")
  let p ← pointer (k.lookup tid) (.die "__spawn_thread_by_tid_imp: target_thread, TargetTID=\x7b%d\x7d")
  require (k.thread p).Valid (.panic "__spawn_thread_by_tid_imp: target_thread validation\n")
  require ((k.thread p).tid = tid) (.panic "__spawn_thread_by_tid_imp: target_thread->tid validation\n")
  require ((k.thread p).state = .standby) (.die "__spawn_thread_by_tid_imp: TID=\x7b%d\x7d not in Standby\n")
  require ((k.thread p).saved = false) (.die "__spawn_thread_by_tid_imp: Saved TID=\x7b%d\x7d\n")
  let k := startThread p k
  require ((k.thread p).ownerProcess = true) (.panic "__spawn_thread_by_tid_imp: target_thread->owner_process\n")
  let pid : Int := (k.thread p).ownerPid
  require (0 ≤ pid ∧ pid < processCountMax) (.panic "__spawn_thread_by_tid_imp: cur_pid\n")
  enterThread p (setCurrentThread (k.thread p).tid {k with currentPid := pid})

-- schedi_check_for_standby: `none` when it returns.
def schediCheckForStandby (k : Kernel) : Except Halt (Option (Int × Kernel)) :=
  match (List.range threadCountMax).find? fun i =>
      k.listed i = true ∧ (k.thread i).Valid ∧ (k.thread i).state = .standby with
  | none => .ok none
  | some i => do
      let target := (k.thread i).tid
      require (0 ≤ target ∧ target < threadCountMax) (.panic "schedi_check_for_standby: fail\n")
      require (target ≠ initTid) (.panic "schedi_check_for_standby: Can't spawn INIT_TID\n")
      let k ← spawnThreadByTid target (setCurrentThread target k)
      .ok (some (target,k))

-- __tsOnFinishedExecuting: MOVEMENT 3 (Running --> Ready), then the probe for
-- a thread in standby. The dead thread collector is never switched on.
def tsOnFinishedExecuting (p : Nat) (k : Kernel) : Kernel :=
  k.modify p fun t =>
    {t with
      state := if t.state = .running then .ready else t.state
      readyCount := if t.state = .running then 0 else t.readyCount}

-- One turn from ZeroGravity to go_ahead.
def zeroGravity (tmpTid : Int) (k : Kernel) : Except Halt Kernel := do
  require (k.threadsCounter ≠ 0) (.panic "ts: No threads\n")
  if k.threadsCounter = 1 then
    require (k.initThread = k.idleThread) (.panic "ts: Invalid single thread\n")
    .ok {k with currentq := k.idleThread}
  else match k.evResponderThread with
    | some e =>
        if k.gUseEventResponder = true ∧ hasPendingEvent (some e) k = true then
          .ok ({k with currentq := some e}.modify e fun t =>
            {t with
              runningCount := 0
              runningCountMs := 0
              quantum := quantumMax
              priority := priorityMax
              state := .ready
              scheduledCount := t.scheduledCount+1
              hasPendingEvent := false
              next := none})
        else endOfRound k
    | none => endOfRound k
where
  endOfRound (k : Kernel) : Except Halt Kernel := do
    let c ← pointer k.currentq (.nullPointer "currentq->next")
    match (k.thread c).next with
    | none => do
        let (tid,k) ← psScheduler tmpTid k
        .ok {k with currentThread := tid}
    | some n => .ok {k with currentq := some n}

-- go_ahead: a READY target becomes the current thread, anything else sends
-- the control back to ZeroGravity after one more call of the scheduler.
def goAhead (tmpTid : Int) (k : Kernel) : Except Halt (Bool × Kernel) :=
  match k.currentq with
  | some p =>
      if (k.thread p).Valid ∧ (k.thread p).state = .ready then
        .ok (true,{k with currentThread := (k.thread p).tid})
      else retry k
  | none => retry k
where
  retry (k : Kernel) : Except Halt (Bool × Kernel) := do
    let (tid,k) ← psScheduler tmpTid k
    .ok (false,{k with currentThread := tid})

-- The selection cycle, followed for at most `fuel` turns. `tmp` gives the
-- values of the uninitialised read in the successive scheduler calls.
def selectThread (tmp : Nat → Int) : Nat → Kernel → Except Halt (Option Kernel)
  | 0,_ => .ok none
  | fuel+1,k => do
      let k ← zeroGravity (tmp 0) k
      let (found,k) ← goAhead (tmp 1) k
      if found then .ok (some k) else selectThread (fun i => tmp (i+2)) fuel k

def Thread.prepared (t : Thread) : Thread :=
  {t with
    standbyCount := 0
    standbyCountMs := 0
    runningCount := 0
    runningCountMs := 0
    readyCount := 0
    readyCountMs := 0
    waitingCount := 0
    waitingCountMs := 0
    blockedCount := 0
    blockedCountMs := 0
    basePriority := if priorityMax < t.basePriority then priorityMax else t.basePriority
    priority := if priorityMax < t.priority then priorityMax else t.priority
    quantum := if quantumMax < t.quantum then quantumMax else t.quantum}

theorem prepared_tid (t : Thread) : t.prepared.tid = t.tid := rfl

-- dispatch_current and the owner validation behind it. The owner's pid is
-- held against THREAD_COUNT_MAX here.
def dispatchCurrent (k : Kernel) : Except Halt Kernel := do
  require (0 ≤ k.currentThread ∧ k.currentThread < threadCountMax) (.panic "ts-dispatch_current: current_thread\n")
  let p ← pointer (k.lookup k.currentThread) (.panic "ts-dispatch_current: TargetThread\n")
  require (k.thread p).Valid (.panic "ts-dispatch_current: validation\n")
  require ((k.thread p).state = .ready) (.panic "ts-dispatch_current: Not ready\n")
  let k ← incrementDispatcherCount .dispatcher (k.modify p Thread.prepared prepared_tid)
  let k ← dispatcher k
  let pid : Int := (k.thread p).ownerPid
  require (0 ≤ pid ∧ pid < threadCountMax) (.die "ts: targetthread_OwnerPID ERROR\n")
  let process ← pointer (k.processList pid.toNat) (.die "ts: TargetProcess %s struct fail\n")
  require (process.used = true ∧ process.magic = 1234) (.die "ts: TargetProcess %s validation\n")
  require (process.pid = pid) (.panic "ts: TargetProcess->pid != targetthread_OwnerPID\n")
  let k := {k with currentPid := process.pid}
  require (process.pml4Pa ≠ 0) (.die "ts: Process %s pml4 fail\n")
  .ok k

-- How a task switch ends: the interrupted thread goes on, a thread in standby
-- starts, or the selected thread is dispatched.
inductive Switch where
  | same
  | spawn (tid : Int)
  | dispatch (tid : Int)
  deriving DecidableEq

def Thread.charged (t : Thread) (ms : UInt64) : Thread :=
  {t with
    step := t.step+1
    totalTimeMs := t.totalTimeMs+ms
    runningCount := t.runningCount+1
    runningCountMs := t.runningCountMs+ms}

theorem charged_tid (ms : UInt64) (t : Thread) : (t.charged ms).tid = t.tid := rfl

-- Still in quantum: the yield and sleep requests are honoured here.
def stillInQuantum (p : Nat) (k : Kernel) : Kernel :=
  let k := if (k.thread p).state = .running ∧ (k.thread p).yieldInProgress = true then
      k.modify p fun t => {t with runningCount := t.quantum,yieldInProgress := false}
    else k
  if (k.thread p).state = .running ∧ (k.thread p).sleepInProgress = true then
    let k := k.modify p fun t => {t with runningCount := t.quantum}
    (sleepUntil (k.thread p).tid (k.thread p).desiredSleepMs k).modify p fun t => {t with sleepInProgress := false}
  else k

-- __task_switch up to the save of the context.
def chargeCurrent (k : Kernel) : Except Halt (Nat × Kernel) := do
  require (0 ≤ k.currentThread ∧ k.currentThread < threadCountMax) (.panic "ts: current_thread\n")
  let p ← pointer (k.lookup k.currentThread) (.panic "ts: CurrentThread\n")
  require (k.thread p).Valid (.panic "ts: CurrentThread validation\n")
  let pid : Int := (k.thread p).ownerPid
  require (0 ≤ pid ∧ pid < processCountMax) (.panic "ts: owner_pid\n")
  let process ← pointer (k.processList pid.toNat) (.panic "ts: CurrentProcess\n")
  require (process.used = true ∧ process.magic = 1234) (.panic "ts: CurrentProcess validation\n")
  require (process.pid = pid) (.panic "ts: CurrentProcess->pid != owner_pid\n")
  require (k.sysTimeHz ≠ 0) (.divideError "DEFAULT_PIT_FREQ/sys_time_hz")
  let ms := defaultPitFreq/k.sysTimeHz
  .ok (p,{k with currentPid := pid}.modify p (fun t => t.charged ms) (charged_tid ms))

-- __task_switch. `none`: the selection is still going on after `fuel` turns.
def taskSwitch (tmp : Nat → Int) (fuel : Nat) (k : Kernel) : Except Halt (Option (Switch × Kernel)) := do
  let (p,k) ← chargeCurrent k
  if k.taskSwitchStatus = locked then
    let k ← incrementDispatcherCount .current k
    .ok (some (.same,k))
  else
    require (k.taskSwitchStatus = unlocked) (.panic "ts: task_switch_status != UNLOCKED\n")
    let k ← saveCurrentContext k
    let k := k.modify p fun t => {t with saved := true}
    if (k.thread p).runningCount < (k.thread p).quantum then
      let k ← incrementDispatcherCount .current (stillInQuantum p k)
      .ok (some (.same,k))
    else
      let k := tsOnFinishedExecuting p k
      match ← schediCheckForStandby k with
      | some (tid,k) => .ok (some (.spawn tid,k))
      | none =>
          match ← selectThread tmp fuel k with
          | none => .ok none
          | some k =>
              let k ← dispatchCurrent k
              .ok (some (.dispatch k.currentThread,k))

-- The timer sends the display server a message once a second.
def wmTimerEvent (signature : Int) (k : Kernel) : Except Halt (Int × Kernel) :=
  if k.systemState ≠ .running then .ok (-1,k)
  else if signature ≠ 1234 then .ok (-1,k)
  else if k.jiffies % jiffyFreq = 0 then do
    let (_,k) ← ipcPostMessageToDs msgTimer 1234 k.jiffies k
    .ok (0,k)
  else .ok (0,k)

-- irq0_TIMER with the context captured by _irq0; PITInfo.initialized is set with
-- sys_time_hz and taken for TRUE. A display server callback that is ready takes
-- the place of the task switch; after a spawn the eoi mark stays set.
def irq0Timer (frame : Registers) (cpl : UInt64) (callback : Bool) (tmp : Nat → Int) (fuel : Nat) (k : Kernel) :
    Except Halt (Option (Switch × Kernel)) := do
  let (_,k) ← wmTimerEvent 1234 {k with jiffies := k.jiffies+1}
  let k : Kernel := {k with cpu := frame,contextCpl := cpl,spawnEoiIsNecessary := true}
  require (0 ≤ k.currentPid ∧ k.currentPid < processCountMax) (.die "psTaskSwitch: current_process_pid %d")
  require (0 ≤ k.currentThread ∧ k.currentThread < threadCountMax) (.die "psTaskSwitch: current_thread %d")
  if callback = true then .ok (some (.same,{k with spawnEoiIsNecessary := false}))
  else
    match ← taskSwitch tmp fuel k with
    | some (.spawn tid,k) => .ok (some (.spawn tid,k))
    | some (switch,k) => .ok (some (switch,{k with spawnEoiIsNecessary := false}))
    | none => .ok none

end GramadoKernel
