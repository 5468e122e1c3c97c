import Mathlib.Logic.Function.Basic

namespace GramadoKernel

-- thread.h, process.h, ipc.h
def threadCountMax : Nat := 1024
def processCountMax : Nat := 1024
def msgQueueMax : Nat := 64
def initTid : Int := 0
def systemThresholdTid : Int := 0

-- quantum.h with CONFIG_QUANTUM_MULTIPLIER = 1, prio.h
def quantumMultiplier : UInt64 := 1
def quantumNormalThreshold : UInt64 := quantumMultiplier*1
def quantumNormalTimeCritical : UInt64 := quantumMultiplier*3
def quantumSystemTimeCritical : UInt64 := quantumMultiplier*6
def quantumMin : UInt64 := quantumMultiplier*1
def quantumMax : UInt64 := quantumMultiplier*6
def prioritySystemThreshold : UInt64 := 4
def priorityMin : UInt64 := 1
def priorityMax : UInt64 := 6

-- sched.h
def locked : UInt64 := 0
def unlocked : UInt64 := 1
def schedPolicyRr : Int := 0
def schedPolicyQueues : Int := 1

-- jiffies.h, pit.h, msgcode.h
def jiffyFreq : UInt64 := 1000
def defaultPitFreq : UInt64 := jiffyFreq
def msgTimer : Int := 53

-- thread_state_t
inductive ThreadState where
  | initialized | standby | zombie | dead | ready | running | waiting | blocked
  deriving DecidableEq

-- state.h
inductive SystemState where
  | null | preinit | booting | scheduling | running | reboot | poweroff | restart | aborted | panic | dead
  deriving DecidableEq

-- A kernel routine that does not return: `panic`, `die` or `keDie` after a
-- message, a NULL pointer read, or a division fault.
inductive Halt where
  | panic (text : String)
  | die (text : String)
  | nullPointer (expression : String)
  | divideError (expression : String)
  deriving DecidableEq

-- struct msg_d. Its `next` is written NULL by every post and read by nothing.
structure Msg where
  used : Bool := false
  magic : Nat := 0
  opaqueWindow : UInt64 := 0
  msg : Int := 0
  long1 : UInt64 := 0
  long2 : UInt64 := 0
  long3 : UInt64 := 0
  long4 : UInt64 := 0
  senderTid : Int := 0
  receiverTid : Int := 0
  senderPid : Int := 0
  receiverPid : Int := 0
  deriving DecidableEq

-- MsgQueue, MsgQueueHead and MsgQueueTail of struct thread_d.
structure MsgQueue where
  slot : Nat → Option Msg
  head : Nat
  tail : Nat

-- struct x64_context_d
structure Registers where
  (rax rcx rdx rbx rsp rbp rsi rdi : UInt64)
  (r8 r9 r10 r11 r12 r13 r14 r15 : UInt64)
  (rip cs ds es fs gs ss rflags : UInt64)
  fpuBuffer : Nat → UInt8

def Registers.zero : Registers :=
  ⟨0,0,0,0,0,0,0,0,0,0,0,0,0,0,0,0,0,0,0,0,0,0,0,0,fun _ => 0⟩

-- struct thread_d
structure Thread where
  used : Bool
  magic : Nat
  tid : Int
  exitInProgress : Bool
  ownerProcess : Bool
  ownerPid : Int
  basePriority : UInt64
  priority : UInt64
  state : ThreadState
  yieldInProgress : Bool
  sleepInProgress : Bool
  desiredSleepMs : UInt64
  hasPendingEvent : Bool
  pml4Pa : UInt64
  cpl : UInt64
  rflagsCurrentIopl : UInt64
  toSupervisor : UInt64
  toUser : UInt64
  initialJiffy : UInt64
  readyJiffy : UInt64
  waitingJiffy : UInt64
  blockedJiffy : UInt64
  zombieJiffy : UInt64
  wakeJiffy : UInt64
  step : UInt64
  initialTimeMs : UInt64
  totalTimeMs : UInt64
  credits : UInt64
  quantum : UInt64
  standbyCount : UInt64
  standbyCountMs : UInt64
  runningCount : UInt64
  runningCountMs : UInt64
  readyCount : UInt64
  readyCountMs : UInt64
  waitingCount : UInt64
  waitingCountMs : UInt64
  blockedCount : UInt64
  blockedCountMs : UInt64
  scheduledCount : UInt64
  alarm : UInt64
  queue : MsgQueue
  isResponder : Bool
  context : Registers
  saved : Bool
  next : Option Nat

-- The check `used == TRUE && magic == 1234` made before a structure is trusted.
def Thread.Valid (t : Thread) : Prop := t.used = true ∧ t.magic = 1234
instance (t : Thread) : Decidable t.Valid := inferInstanceAs (Decidable (_ ∧ _))

def Msg.Valid (m : Msg) : Prop := m.used = true ∧ m.magic = 1234
instance (m : Msg) : Decidable m.Valid := inferInstanceAs (Decidable (_ ∧ _))

-- struct process_d, as the task switch reads it.
structure Process where
  used : Bool
  magic : Nat
  pid : Int
  pml4Pa : UInt64

-- struct dispatch_count_d
structure DispatchCount where
  magic : Nat
  selectIdle : UInt64
  selectInitialized : UInt64
  selectNext : UInt64
  selectCurrent : UInt64
  selectAny : UInt64
  selectIdeal : UInt64
  selectDispatcherQueue : UInt64

-- The globals of the intake. `threadList[i]` is NULL unless `listed i`; a
-- thread structure is stored once, at the slot that is its tid, and is never
-- moved, so a `struct thread_d *` is that slot and `thread` the memory behind it.
structure Kernel where
  thread : Nat → Thread
  listed : Nat → Bool
  tids : ∀ i, listed i = true → (thread i).tid = i
  currentThread : Int
  foregroundThread : Int
  initThread : Option Nat
  idleThread : Option Nat
  upCurrentThread : Option Nat
  threadsCounter : UInt64
  currentq : Option Nat
  gUseEventResponder : Bool
  evResponderThread : Option Nat
  taskSwitchStatus : UInt64
  gSchedulerStatus : UInt64
  schedulerInitialized : Bool
  schedulerPolicy : Int
  rrRoundCounter : UInt64
  systemState : SystemState
  displayServerInitialized : Bool
  displayServerTid : Int
  jiffies : UInt64
  sysTimeHz : UInt64
  processList : Nat → Option Process
  currentPid : Int
  dispatchCount : Option DispatchCount
  cpu : Registers
  contextCpl : UInt64
  cr3 : UInt64
  spawnEoiIsNecessary : Bool

-- A write through a thread pointer. No kernel routine writes a thread's tid
-- after its creation, so the table keeps `tids`.
def Kernel.modify (k : Kernel) (p : Nat) (f : Thread → Thread)
    (keeps : ∀ t, (f t).tid = t.tid := by intro t; rfl) : Kernel :=
  {k with
    thread := Function.update k.thread p (f (k.thread p))
    tids := by
      intro i present
      by_cases same : i = p
      · subst i; simpa [keeps] using k.tids p present
      · simpa [same] using k.tids i present}

theorem Kernel.modify_thread (k : Kernel) (p : Nat) (f : Thread → Thread) (keeps : ∀ t, (f t).tid = t.tid)
    (i : Nat) : (k.modify p f keeps).thread i = if i = p then f (k.thread p) else k.thread i := by
  simp [Kernel.modify,Function.update_apply]

@[simp] theorem Kernel.modify_same (k : Kernel) (p : Nat) (f : Thread → Thread)
    (keeps : ∀ t, (f t).tid = t.tid) : (k.modify p f keeps).thread p = f (k.thread p) := by
  simp [Kernel.modify_thread]

@[simp] theorem Kernel.modify_other (k : Kernel) (p : Nat) (f : Thread → Thread)
    (keeps : ∀ t, (f t).tid = t.tid) (other : i ≠ p) : (k.modify p f keeps).thread i = k.thread i := by
  simp [Kernel.modify_thread,other]

-- threadList[tid] behind the range check that precedes it; `none` is a tid
-- out of range or a NULL entry.
def Kernel.lookup (k : Kernel) (tid : Int) : Option Nat :=
  if 0 ≤ tid ∧ tid < threadCountMax ∧ k.listed tid.toNat = true then some tid.toNat else none

theorem lookup_some {k : Kernel} : k.lookup tid = some p ↔
    tid = p ∧ p < threadCountMax ∧ k.listed p = true := by
  unfold Kernel.lookup
  split
  · rename_i found
    constructor
    · intro equal
      cases equal
      exact ⟨by omega,by omega,found.2.2⟩
    · intro found
      obtain ⟨rfl,_,_⟩ := found
      rfl
  · rename_i missing
    constructor
    · intro equal; cases equal
    · intro found
      obtain ⟨rfl,below,present⟩ := found
      exact absurd ⟨by omega,by omega,by simpa using present⟩ missing

-- Checked steps: a failed check stops the kernel with the given text.
def require (condition : Prop) [Decidable condition] (halt : Halt) : Except Halt Unit :=
  if condition then .ok () else .error halt

@[simp] theorem require_ok {condition : Prop} [Decidable condition] :
    require condition halt = .ok u ↔ condition := by
  unfold require
  split <;> simp_all

def pointer (p : Option α) (halt : Halt) : Except Halt α :=
  match p with
  | some target => .ok target
  | none => .error halt

@[simp] theorem pointer_ok : pointer p halt = .ok target ↔ p = some target := by
  cases p <;> simp [pointer]

@[simp] theorem bind_ok {x : Except ε α} {f : α → Except ε β} :
    (x >>= f) = .ok b ↔ ∃ a, x = .ok a ∧ f a = .ok b := by
  cases x <;> simp [bind,Except.bind]

end GramadoKernel
