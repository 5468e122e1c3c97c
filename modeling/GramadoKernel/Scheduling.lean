import GramadoKernel.State

namespace GramadoKernel

-- The shape shared by the state changers of schedi.c: range check, NULL check,
-- `used`, `magic`, then a write to the structure; a failed check returns.
def Kernel.onThread (k : Kernel) (tid : Int) (f : Thread → Thread)
    (keeps : ∀ t, (f t).tid = t.tid := by intro t; rfl) : Kernel :=
  match k.lookup tid with
  | none => k
  | some p => if (k.thread p).Valid then k.modify p f keeps else k

def doThreadBlocked (tid : Int) (k : Kernel) : Kernel :=
  k.onThread tid fun t => {t with state := .blocked,blockedJiffy := k.jiffies}

def doThreadReady (tid : Int) (k : Kernel) : Kernel :=
  k.onThread tid fun t => {t with state := .ready,readyJiffy := k.jiffies}

def doThreadWaiting (tid : Int) (ms : UInt64) (k : Kernel) : Kernel :=
  let jiffiesToWait := if ms = 0 then 1 else ms
  k.onThread tid fun t =>
    {t with state := .waiting,waitingJiffy := k.jiffies,wakeJiffy := k.jiffies+jiffiesToWait}

-- The init thread passes every check and is then left alone.
def doThreadZombie (tid : Int) (k : Kernel) : Kernel :=
  if tid = initTid then k
  else k.onThread tid fun t => {t with state := .zombie,zombieJiffy := k.jiffies}

def yield (tid : Int) (k : Kernel) : Kernel :=
  k.onThread tid fun t => {t with yieldInProgress := true}

def sleep (tid : Int) (ms : UInt64) (k : Kernel) : Kernel :=
  k.onThread tid fun t => {t with sleepInProgress := true,desiredSleepMs := ms}

def sleepUntil (tid : Int) (ms : UInt64) (k : Kernel) : Kernel :=
  doThreadWaiting tid (if ms = 0 then 1 else ms) k

-- do_credits behind the range and NULL checks of do_credits_by_tid.
def doCreditsByTid (tid : Int) (k : Kernel) : Kernel :=
  k.onThread tid fun t => {t with credits := t.credits+1}

-- The states from which wakeup_thread goes on to do_thread_ready.
def wakeupAllows (t : Thread) : Prop :=
  t.saved = true ∧ t.state ≠ .ready ∧ t.state ≠ .running ∧ t.state ≠ .blocked
instance (t : Thread) : Decidable (wakeupAllows t) := inferInstanceAs (Decidable (_ ∧ _))

def wakeupThread (tid : Int) (k : Kernel) : Kernel :=
  match k.lookup tid with
  | none => k
  | some p =>
      if (k.thread p).Valid then
        if wakeupAllows (k.thread p) then doThreadReady tid k else k
      else k

def setCurrentThread (tid : Int) (k : Kernel) : Kernel :=
  if tid = k.currentThread then k
  else match k.lookup tid with
    | none => k
    | some p => if (k.thread p).Valid then {k with currentThread := tid} else k

-- schediSelectForExecution: MOVEMENT 1 (Initialized --> Standby)
def schediSelectForExecution (p : Option Nat) (k : Kernel) : Kernel :=
  match p with
  | none => k
  | some i => k.modify i fun t => {t with state := .standby,standbyCount := 0}

-- set_ev_responder and has_pending_event of sched.c. The latter also rewrites
-- a flag that is neither TRUE nor FALSE to FALSE, which a `Bool` cannot be.
def setEvResponder (p : Option Nat) (k : Kernel) : Int × Kernel :=
  match p with
  | none => (-1,k)
  | some i =>
      if (k.thread i).Valid then
        (0,{k with evResponderThread := some i}.modify i fun t =>
          {t with quantum := quantumMax,priority := priorityMax})
      else (-1,k)

def hasPendingEvent (p : Option Nat) (k : Kernel) : Bool :=
  match p with
  | none => false
  | some i => if (k.thread i).Valid then (k.thread i).hasPendingEvent else false

theorem onThread_thread (k : Kernel) (tid : Int) (f : Thread → Thread) (keeps : ∀ t, (f t).tid = t.tid)
    (i : Nat) : (k.onThread tid f keeps).thread i =
      if k.lookup tid = some i ∧ (k.thread i).Valid then f (k.thread i) else k.thread i := by
  unfold Kernel.onThread
  cases found : k.lookup tid with
  | none => simp
  | some p =>
      by_cases valid : (k.thread p).Valid
      · by_cases same : i = p
        · subst i; simp [valid]
        · simp [valid,same,Ne.symm same]
      · by_cases same : i = p
        · subst i; simp [valid]
        · simp [valid,Ne.symm same]

-- Everything outside the thread memory is untouched by a write to a thread.
structure SameGlobals (k k' : Kernel) : Prop where
  listed : k'.listed = k.listed
  currentThread : k'.currentThread = k.currentThread
  initThread : k'.initThread = k.initThread
  idleThread : k'.idleThread = k.idleThread
  threadsCounter : k'.threadsCounter = k.threadsCounter
  currentq : k'.currentq = k.currentq
  gUseEventResponder : k'.gUseEventResponder = k.gUseEventResponder
  taskSwitchStatus : k'.taskSwitchStatus = k.taskSwitchStatus
  gSchedulerStatus : k'.gSchedulerStatus = k.gSchedulerStatus
  schedulerInitialized : k'.schedulerInitialized = k.schedulerInitialized
  schedulerPolicy : k'.schedulerPolicy = k.schedulerPolicy
  rrRoundCounter : k'.rrRoundCounter = k.rrRoundCounter
  systemState : k'.systemState = k.systemState
  jiffies : k'.jiffies = k.jiffies
  processList : k'.processList = k.processList

theorem SameGlobals.refl (k : Kernel) : SameGlobals k k := by constructor <;> rfl

theorem SameGlobals.trans (left : SameGlobals a b) (right : SameGlobals b c) : SameGlobals a c := by
  obtain ⟨l1,l2,l3,l4,l5,l6,l7,l8,l9,l10,l11,l12,l13,l14,l15⟩ := left
  obtain ⟨r1,r2,r3,r4,r5,r6,r7,r8,r9,r10,r11,r12,r13,r14,r15⟩ := right
  exact ⟨r1.trans l1,r2.trans l2,r3.trans l3,r4.trans l4,r5.trans l5,r6.trans l6,r7.trans l7,r8.trans l8,
    r9.trans l9,r10.trans l10,r11.trans l11,r12.trans l12,r13.trans l13,r14.trans l14,r15.trans l15⟩

theorem modify_globals (k : Kernel) (p : Nat) (f : Thread → Thread) (keeps : ∀ t, (f t).tid = t.tid) :
    SameGlobals k (k.modify p f keeps) := by constructor <;> rfl

theorem onThread_globals (k : Kernel) (tid : Int) (f : Thread → Thread) (keeps : ∀ t, (f t).tid = t.tid) :
    SameGlobals k (k.onThread tid f keeps) := by
  unfold Kernel.onThread
  split
  · exact .refl k
  · split
    · exact modify_globals k _ f keeps
    · exact .refl k

end GramadoKernel
