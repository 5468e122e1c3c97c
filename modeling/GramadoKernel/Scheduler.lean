import GramadoKernel.Scheduling
import Mathlib

namespace GramadoKernel

-- The quantum a READY thread is given for the next round. Later rules win:
-- threshold, foreground thread, display server, responder, credits.
def roundQuantum (k : Kernel) (t : Thread) : UInt64 :=
  let q := quantumNormalThreshold
  let q := if t.tid = k.foregroundThread then quantumNormalTimeCritical else q
  let q := if k.displayServerInitialized = true ∧ t.tid = k.displayServerTid then quantumMax else q
  let q := if t.isResponder = true then quantumSystemTimeCritical else q
  if 2 ≤ t.credits then q+1 else q

def balancedPriority (p : UInt64) : UInt64 :=
  let p := if p < priorityMin then priorityMin else p
  if priorityMax < p then priorityMax else p

def Thread.scheduled (t : Thread) (quantum : UInt64) : Thread :=
  {t with
    runningCount := 0
    runningCountMs := 0
    scheduledCount := t.scheduledCount+1
    basePriority := balancedPriority t.basePriority
    priority := balancedPriority t.basePriority
    quantum := quantum
    isResponder := false
    credits := if 2 ≤ t.credits then 0 else t.credits}

theorem scheduled_tid (quantum : UInt64) (t : Thread) : (t.scheduled quantum).tid = t.tid := rfl

def Thread.link (t : Thread) (next : Option Nat) : Thread := {t with next := next}

theorem link_tid (next : Option Nat) (t : Thread) : (t.link next).tid = t.tid := rfl

-- `if (jiffies > TmpThread->alarm) TmpThread->alarm=0;`
def Thread.checkAlarm (t : Thread) (jiffies : UInt64) : Thread :=
  {t with alarm := if t.alarm < jiffies then 0 else t.alarm}

theorem checkAlarm_tid (jiffies : UInt64) (t : Thread) : (t.checkAlarm jiffies).tid = t.tid := rfl

def Thread.Exiting (t : Thread) : Prop := t.magic = 1234 ∧ t.exitInProgress = true
instance (t : Thread) : Decidable t.Exiting := inferInstanceAs (Decidable (_ ∧ _))

def Thread.Waits (t : Thread) : Prop := t.Valid ∧ t.state = .waiting
instance (t : Thread) : Decidable t.Waits := inferInstanceAs (Decidable (_ ∧ _))

-- A WAITING thread whose time has come: alarm, then do_thread_ready.
def rrWake (i : Nat) (k : Kernel) : Kernel :=
  if (k.thread i).Waits then
    doThreadReady (k.thread i).tid (k.modify i (fun t => t.checkAlarm k.jiffies) (checkAlarm_tid k.jiffies))
  else k

-- One turn of the loop over threadList, for a non-NULL entry `i`; the second
-- component is p1q, the last thread of the list built so far.
def rrVisit (idle i : Nat) (k : Kernel) (p1q : Nat) : Except Halt (Kernel × Nat) :=
  let t := k.thread i
  if t.Exiting ∧ i ≠ idle then
    .ok ({k with foregroundThread := if t.tid = k.foregroundThread then -1 else k.foregroundThread}.modify i
      fun t => {t with state := .zombie},p1q)
  else if t.Waits ∧ k.jiffies < t.wakeJiffy then
    .ok (k.modify i (fun t => t.checkAlarm k.jiffies) (checkAlarm_tid k.jiffies),p1q)
  else
    let k := rrWake i k
    let t := k.thread i
    if t.Valid ∧ t.state = .zombie then do
      let k := {k with displayServerInitialized :=
        k.displayServerInitialized && !decide (t.tid = k.displayServerTid)}
      require (k.initThread ≠ some i) (.panic "__scheduler_rr: Can't kill InitThread\n")
      .ok (k.modify i fun t => {t with used := false,magic := 0},p1q)
    else if t.Valid ∧ t.state = .ready then
      let k := k.modify p1q (fun t => t.link (some i)) (link_tid (some i))
      .ok (k.modify i (fun t => t.scheduled (roundQuantum k t)) (fun t => scheduled_tid (roundQuantum k t) t),i)
    else .ok (k,p1q)

def rrLoop (idle : Nat) : List Nat → Kernel → Nat → Except Halt (Kernel × Nat)
  | [],k,p1q => .ok (k,p1q)
  | i :: rest,k,p1q =>
      if k.listed i = true then do
        let (k,p1q) ← rrVisit idle i k p1q
        rrLoop idle rest k p1q
      else rrLoop idle rest k p1q

-- __scheduler_rr. `tmpTid` is what the uninitialised `TmpThread->tid` reads as.
-- p2q~p6q and the qlist are written only, with Idle.
def schedulerRr (tmpTid : Int) (k : Kernel) : Except Halt (Int × Kernel) := do
  let k := {k with currentq := none}
  require (k.schedulerInitialized = true) (.panic "__scheduler_rr: Scheduler not initialized\n")
  require (k.schedulerPolicy = schedPolicyRr) (.panic "__scheduler_rr: Scheduler policy\n")
  let idle ← pointer k.idleThread (.panic "__scheduler_rr: Idle\n")
  require (k.thread idle).Valid (.panic "__scheduler_rr: Idle validation\n")
  require (k.initThread = some idle) (.panic "__scheduler_rr: Idle != InitThread\n")
  let k := k.modify idle fun t =>
    {t with
      basePriority := prioritySystemThreshold
      priority := prioritySystemThreshold
      quantum := quantumNormalThreshold}
  let firstTid := (k.thread idle).tid
  require (firstTid = systemThresholdTid) (.panic "__scheduler_rr: FirstTID\n")
  let k := {k with currentq := some idle}
  require ((k.thread idle).tid = 0) (.panic "sched: Idle->tid != INIT_TID\n")
  require ((k.thread idle).tid = initTid) (.panic "sched: Idle->tid != INIT_TID\n")
  let k := doThreadReady tmpTid k
  let (k,p1q) ← rrLoop idle (List.range' 1 (threadCountMax-1)) k idle
  let k := k.modify p1q (fun t => t.link none) (link_tid none)
  .ok (firstTid,{k with rrRoundCounter := k.rrRoundCounter+1})

def scheduler (tmpTid : Int) (k : Kernel) : Except Halt (Int × Kernel) := do
  require (k.systemState = .running) (.panic "scheduler: system_state\n")
  let k := {k with systemState := .scheduling}
  require (k.threadsCounter ≠ 0) (.panic "scheduler: UPProcessorBlock.threads_counter == 0\n")
  require (k.schedulerInitialized = true) (.panic "scheduler: SchedulerInfo.initialized\n")
  require (k.schedulerPolicy ≠ schedPolicyQueues) (.panic "scheduler: Policy not supported\n")
  require (k.schedulerPolicy = schedPolicyRr) (.panic "scheduler: Invalid policy\n")
  let (firstTid,k) ← schedulerRr tmpTid k
  let idle ← pointer k.idleThread (.panic "scheduler: Idle\n")
  require ((k.thread idle).magic = 1234) (.panic "scheduler: Idle validation\n")
  require (firstTid = (k.thread idle).tid) (.panic "scheduler: first_tid != Idle->tid\n")
  .ok (firstTid,{k with systemState := .running})

def psScheduler (tmpTid : Int) (k : Kernel) : Except Halt (Int × Kernel) :=
  if k.gSchedulerStatus = locked then .ok (-1,k)
  else do
    require (k.threadsCounter ≠ 0) (.panic "psScheduler: No threads\n")
    if k.threadsCounter = 1 then
      let idle ← pointer k.idleThread (.nullPointer "currentq->tid")
      .ok ((k.thread idle).tid,{k with currentq := some idle,currentThread := (k.thread idle).tid})
    else scheduler tmpTid k

end GramadoKernel
