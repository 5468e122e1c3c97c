import GramadoKernel.Library.Ring
import GramadoKernel.Scheduling

namespace GramadoKernel

-- `(int) (x & 0xFFFFFFFF)` and `x & 0xFFFF`
def cInt (x : Int) : Int := Int.bmod x (2^32)
def low16 (x : Int) : Int := x % 65536

theorem low16_slot (valid : i < threadCountMax) : low16 (i : Nat) = i := by
  unfold low16 threadCountMax at *
  omega

theorem low16_tid {k : Kernel} (found : k.lookup (low16 tid) = some i) (low : 0 ≤ tid) (high : tid < threadCountMax) :
    k.lookup tid = some i := by
  have same : low16 tid = tid := by
    unfold low16 threadCountMax at *
    omega
  rwa [same] at found

-- The queue part of __ps_initialize_thread_common_elements: MSG_QUEUE_MAX
-- zeroed structures marked used, and both cursors at the first slot.
def MsgQueue.built : MsgQueue :=
  ⟨fun i => if i < msgQueueMax then some {used := true,magic := 1234} else none,0,0⟩

def MsgQueue.store (q : MsgQueue) (m : Msg) : MsgQueue :=
  {q with slot := Function.update q.slot q.tail (some m),tail := Ring.next msgQueueMax q.tail}

def MsgQueue.turn (q : MsgQueue) : MsgQueue := {q with head := Ring.next msgQueueMax q.head}

def MsgQueue.seek (q : MsgQueue) (index : Nat) : MsgQueue := {q with head := index}

def MsgQueue.restart (q : MsgQueue) : MsgQueue := {q with head := 0,tail := 0}

def MsgQueue.finish (q : MsgQueue) (restart : Bool) : MsgQueue := if restart then q.restart else q.turn

def Msg.cleared (m : Msg) : Msg := {used := m.used,magic := m.magic}

def MsgQueue.consume (q : MsgQueue) (m : Msg) : MsgQueue :=
  {q with slot := Function.update q.slot q.head (some m.cleared)}

-- The message a reader takes from a slot: structure present and valid, and a
-- positive message code.
def MsgQueue.message (q : MsgQueue) (i : Nat) : Option Msg :=
  (q.slot i).filter fun m => m.Valid ∧ 0 < m.msg

def Kernel.setQueue (k : Kernel) (p : Nat) (q : MsgQueue) : Kernel := k.modify p fun t => {t with queue := q}

def Msg.fill (m : Msg) (src dst code : Int) (long1 long2 long3 long4 : UInt64) : Msg :=
  {m with
    opaqueWindow := 0,msg := code,long1 := long1,long2 := long2,long3 := long3,long4 := long4
    senderTid := src,receiverTid := dst}

-- ts.c is told that the receiver needs a timeout: it is made READY whatever
-- its state was.
def Thread.notified (t : Thread) : Thread :=
  {t with hasPendingEvent := true,quantum := quantumMax,priority := priorityMax,state := .ready}

@[simp] theorem notified_tid (t : Thread) : t.notified.tid = t.tid := rfl

def notifyReceiver (p : Nat) (k : Kernel) : Kernel :=
  if k.gUseEventResponder then (setEvResponder (some p) (k.modify p Thread.notified notified_tid)).2 else k

-- The common body of the two post functions, after their checks of the code.
def postMessage (name : String) (src dst code : Int) (long1 long2 long3 long4 : UInt64) (k : Kernel) :
    Except Halt (Int × Kernel) := do
  require (0 ≤ dst ∧ dst < threadCountMax) (.panic (name ++ ": dst_tid\n"))
  let p ← pointer (k.lookup dst) (.panic (name ++ ": t\n"))
  require (k.thread p).Valid (.panic (name ++ ": t validation\n"))
  require ((k.thread p).tid = dst) (.panic (name ++ ": t->tid != dst_tid\n"))
  let k := notifyReceiver p k
  let q := (k.thread p).queue
  let m ← pointer (q.slot q.tail) (.panic (name ++ ": m\n"))
  require m.Valid (.panic (name ++ ": m validation\n"))
  let m := m.fill src dst code long1 long2 long3 long4
  .ok (0,k.modify p fun t => {t with queue := q.store m,isResponder := true})

def ipcPostMessageToTid2 (senderTid receiverTid msg : Int) (long1 long2 long3 long4 : UInt64) (k : Kernel) :
    Except Halt (Int × Kernel) :=
  if cInt msg < 0 then .ok (-1,k)
  else postMessage "ipc_post_message_to_tid2" (low16 senderTid) (low16 receiverTid) (cInt msg) long1 long2 long3 long4 k

def ipcPostMessageToTid (senderTid receiverTid msg : Int) (long1 long2 : UInt64) (k : Kernel) :
    Except Halt (Int × Kernel) :=
  if cInt msg ≤ 0 then .ok (-1,k)
  else postMessage "ipc_post_message_to_tid" (low16 senderTid) (low16 receiverTid) (cInt msg) long1 long2 k.jiffies k.jiffies k

-- Posts to the display server. What ipc_post_message_to_tid returns is not looked at.
def ipcPostMessageToDs (msg : Int) (long1 long2 : UInt64) (k : Kernel) : Except Halt (Int × Kernel) :=
  if k.displayServerInitialized ≠ true then .ok (-1,k)
  else if ¬ (0 ≤ k.displayServerTid ∧ k.displayServerTid < threadCountMax) then .ok (-1,k)
  else
    let receiver := k.displayServerTid
    let k := wakeupThread receiver (doCreditsByTid receiver (doCreditsByTid receiver k))
    if msg < 0 then .ok (-1,k)
    else do
      let (_,k) ← ipcPostMessageToTid 0 receiver msg long1 long2 k
      .ok (0,k)

-- One slot of the broadcast loop. Only `magic` is looked at here.
def broadcastTo (senderTid msg : Int) (long1 long2 long3 long4 : UInt64) (i : Nat) (counter : UInt64) (k : Kernel) :
    Except Halt (UInt64 × Kernel) :=
  if k.listed i = true ∧ (k.thread i).magic = 1234 then do
    let (rv,k) ← ipcPostMessageToTid2 senderTid (k.thread i).tid msg long1 long2 long3 long4 k
    .ok (if 0 ≤ rv then counter+1 else counter,k)
  else .ok (counter,k)

def broadcastLoop (senderTid msg : Int) (long1 long2 long3 long4 : UInt64) :
    List Nat → UInt64 → Kernel → Except Halt (UInt64 × Kernel)
  | [],counter,k => .ok (counter,k)
  | i :: rest,counter,k => do
      let (counter,k) ← broadcastTo senderTid msg long1 long2 long3 long4 i counter k
      broadcastLoop senderTid msg long1 long2 long3 long4 rest counter k

def ipcBroadcastSystemMessage (senderTid msg : Int) (long1 long2 long3 long4 : UInt64) (k : Kernel) :
    Except Halt (UInt64 × Kernel) := do
  let (counter,k) ← broadcastLoop senderTid msg long1 long2 long3 long4 (List.range threadCountMax) 0 k
  .ok (counter &&& 0xFFFFFFFF,k)

-- The words written to the caller's buffer: 0~5 and 8~11.
structure Delivery where
  opaqueWindow : UInt64
  msg : Int
  long1 : UInt64
  long2 : UInt64
  long3 : UInt64
  long4 : UInt64
  senderTid : Int
  receiverTid : Int
  postedJiffies : UInt64
  gottenJiffies : UInt64
  deriving DecidableEq

def Msg.deliver (m : Msg) (jiffies : UInt64) : Delivery :=
  ⟨m.opaqueWindow,m.msg % 2^32,m.long1,m.long2,m.long3,m.long4,m.senderTid,m.receiverTid,m.long3,jiffies⟩

def sysGetMessage (ubuf : UInt64) (k : Kernel) : Except Halt (Option Delivery × Kernel) := do
  require (ubuf ≠ 0) (.panic "sys_get_message: ubuf\n")
  if k.currentThread < 0 ∨ threadCountMax ≤ k.currentThread then .ok (none,k)
  else do
    let p ← pointer (k.lookup k.currentThread) (.panic "sys_get_message: t\n")
    require (k.thread p).Valid (.panic "sys_get_message: t validation\n")
    let q := (k.thread p).queue
    match q.message q.head with
    | some m => .ok (some (m.deliver k.jiffies),k.setQueue p (q.consume m).turn)
    | none => .ok (none,k.setQueue p q.turn)

def sysGetMessage2 (ubuf : UInt64) (index : Int) (restart : Bool) (k : Kernel) :
    Except Halt (Option Delivery × Kernel) := do
  require (ubuf ≠ 0) (.panic "sys_get_message2: ubuf\n")
  if k.currentThread < 0 ∨ threadCountMax ≤ k.currentThread then .ok (none,k)
  else do
    let p ← pointer (k.lookup k.currentThread) (.panic "sys_get_message2: t\n")
    require (k.thread p).Valid (.panic "sys_get_message2: t validation\n")
    let q := (k.thread p).queue
    if index < 0 ∨ msgQueueMax ≤ index then
      .ok (none,k.setQueue p (q.finish restart))
    else
      let q := q.seek index.toNat
      match q.message q.head with
      | some m => .ok (some (m.deliver k.jiffies),k.setQueue p ((q.consume m).finish restart))
      | none => .ok (none,k.setQueue p (q.finish restart))

-- set_ev_responder writes quantum and priority a second time, with the same values.
theorem notifyReceiver_thread (p : Nat) (k : Kernel) (i : Nat) :
    (notifyReceiver p k).thread i =
      if k.gUseEventResponder = true ∧ i = p then (k.thread p).notified else k.thread i := by
  unfold notifyReceiver setEvResponder
  by_cases responder : k.gUseEventResponder = true
  · by_cases same : i = p
    · subst i
      simp only [responder,if_true,true_and]
      split <;> simp [Thread.notified]
    · simp only [responder,if_true,true_and,same,if_false]
      split <;> simp [same]
  · simp [responder]

theorem notifyReceiver_globals (p : Nat) (k : Kernel) : SameGlobals k (notifyReceiver p k) := by
  unfold notifyReceiver setEvResponder
  split
  · dsimp only
    split <;> constructor <;> rfl
  · exact .refl k

theorem postMessage_parts (posted : postMessage name src dst code long1 long2 long3 long4 k = .ok (rv,k')) :
    rv = 0 ∧ ∃ p m, k.lookup dst = some p ∧ (k.thread p).Valid ∧
      ((notifyReceiver p k).thread p).queue.slot ((notifyReceiver p k).thread p).queue.tail = some m ∧ m.Valid ∧
      k' = (notifyReceiver p k).modify p fun t => {t with
        queue := ((notifyReceiver p k).thread p).queue.store (m.fill src dst code long1 long2 long3 long4)
        isResponder := true} := by
  simp only [postMessage,bind_ok,require_ok,pointer_ok,Except.ok.injEq,Prod.mk.injEq] at posted
  obtain ⟨_,_,p,found,_,valid,_,_,m,slot,_,mvalid,rfl,rfl⟩ := posted
  exact ⟨rfl,p,m,found,valid,slot,mvalid,rfl⟩

structure Posted (p : Nat) (k k' : Kernel) : Prop where
  valid : (k.thread p).Valid
  globals : SameGlobals k k'
  responder : k'.evResponderThread = if k.gUseEventResponder = true then some p else k.evResponderThread
  target : ∃ q, k'.thread p =
    {(if k.gUseEventResponder = true then (k.thread p).notified else k.thread p) with queue := q,isResponder := true}
  others : ∀ i, i ≠ p → k'.thread i = k.thread i

theorem notifyReceiver_responder (valid : (k.thread p).Valid) : (notifyReceiver p k).evResponderThread =
    if k.gUseEventResponder = true then some p else k.evResponderThread := by
  have still : ((k.modify p Thread.notified notified_tid).thread p).Valid := by
    rw [Kernel.modify_same]
    exact valid
  unfold notifyReceiver setEvResponder
  split
  · simp only [still,if_true]
    rfl
  · rfl

theorem postMessage_posted (posted : postMessage name src dst code long1 long2 long3 long4 k = .ok (rv,k')) :
    rv = 0 ∧ ∃ p, k.lookup dst = some p ∧ Posted p k k' := by
  obtain ⟨zero,p,m,found,valid,_,_,rfl⟩ := postMessage_parts posted
  refine ⟨zero,p,found,valid,(notifyReceiver_globals p k).trans (modify_globals _ _ _ _),notifyReceiver_responder valid,?_,?_⟩
  · refine ⟨((notifyReceiver p k).thread p).queue.store (m.fill src dst code long1 long2 long3 long4),?_⟩
    rw [Kernel.modify_same,notifyReceiver_thread]
    simp only [and_true]
  · intro i other
    rw [Kernel.modify_other _ _ _ _ other,notifyReceiver_thread,if_neg (fun both => other both.2)]

theorem Posted.markers (posted : Posted p k k') (i : Nat) :
    (k'.thread i).used = (k.thread i).used ∧ (k'.thread i).magic = (k.thread i).magic := by
  by_cases same : i = p
  · subst i
    obtain ⟨q,target⟩ := posted.target
    rw [target]
    split <;> exact ⟨rfl,rfl⟩
  · rw [posted.others i same]
    exact ⟨rfl,rfl⟩

end GramadoKernel
