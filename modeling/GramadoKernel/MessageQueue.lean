import GramadoKernel.Ipc
import GramadoKernel.Library.Runs

namespace GramadoKernel

structure Post where
  code : Int
  long1 : UInt64
  long2 : UInt64
  long3 : UInt64
  long4 : UInt64
  sender : Int
  receiver : Int
  deriving DecidableEq

def Msg.post (m : Msg) : Post := ⟨m.msg,m.long1,m.long2,m.long3,m.long4,m.senderTid,m.receiverTid⟩
def Delivery.post (d : Delivery) : Post := ⟨d.msg,d.long1,d.long2,d.long3,d.long4,d.senderTid,d.receiverTid⟩

-- A slot of a queue made by create_thread keeps its structure for ever; its
-- message code is a non-negative `int`.
structure Msg.Kept (m : Msg) : Prop where
  valid : m.Valid
  low : 0 ≤ m.msg
  high : m.msg < 2^31

structure MsgQueue.Kept (q : MsgQueue) : Prop where
  slots : ∀ i < msgQueueMax, ∃ m, q.slot i = some m ∧ m.Kept
  head_lt : q.head < msgQueueMax
  tail_lt : q.tail < msgQueueMax

theorem built_kept : MsgQueue.built.Kept := by
  refine ⟨?_,by decide,by decide⟩
  intro i inside
  exact ⟨{used := true,magic := 1234},by simp [MsgQueue.built,inside],by decide,by decide,by decide⟩

theorem cleared_kept (kept : Msg.Kept m) : m.cleared.Kept := ⟨kept.valid,by simp [Msg.cleared],by simp [Msg.cleared]⟩

-- The reader's view of a queue: a cell is empty unless a reader takes its message.
def MsgQueue.ring (q : MsgQueue) : Ring.Buffer Post := ⟨fun i => (q.message i).map Msg.post,q.head,q.tail⟩

-- A reader recognises a post only by a positive code.
def Post.visible (p : Post) : Option Post := if 0 < p.code then some p else none

theorem message_some {q : MsgQueue} : q.message i = some m ↔ q.slot i = some m ∧ m.Valid ∧ 0 < m.msg := by
  simp [MsgQueue.message,Option.filter_eq_some_iff]

theorem ring_inside {q : MsgQueue} (kept : q.Kept) : Ring.Inside msgQueueMax q.ring := ⟨kept.head_lt,kept.tail_lt⟩

theorem built_ring : MsgQueue.built.ring = Ring.empty := by
  have clear : ∀ i, MsgQueue.built.message i = none := by
    intro i
    by_cases inside : i < msgQueueMax <;> simp [MsgQueue.message,MsgQueue.built,inside,Option.filter]
  simp only [MsgQueue.ring,clear,Option.map_none]
  rfl

theorem ring_slot (q : MsgQueue) (i : Nat) (m : Msg) (valid : m.Valid) :
    (fun j => (MsgQueue.message {q with slot := Function.update q.slot i (some m)} j).map Msg.post) =
      Function.update q.ring.cell i m.post.visible := by
  funext j
  by_cases same : j = i
  · subst j
    by_cases positive : 0 < m.msg <;>
      simp [MsgQueue.message,Option.filter,valid,positive,Post.visible,Msg.post]
  · simp [MsgQueue.message,MsgQueue.ring,same]

theorem store_ring (q : MsgQueue) (m : Msg) (valid : m.Valid) :
    (q.store m).ring = Ring.write msgQueueMax q.ring m.post.visible := by
  have cells := ring_slot q q.tail m valid
  unfold MsgQueue.ring Ring.write
  simp only [MsgQueue.store]
  exact congrArg (fun c => Ring.Buffer.mk c q.head (Ring.next msgQueueMax q.tail)) cells

theorem consume_ring (q : MsgQueue) (m : Msg) (valid : m.Valid) :
    (q.consume m).turn.ring = Ring.poll msgQueueMax q.ring := by
  have cells := ring_slot q q.head m.cleared valid
  unfold MsgQueue.ring Ring.poll
  simp only [MsgQueue.consume,MsgQueue.turn]
  exact congrArg (fun c => Ring.Buffer.mk c (Ring.next msgQueueMax q.head) q.tail) cells

theorem turn_ring (q : MsgQueue) (missing : q.message q.head = none) :
    q.turn.ring = Ring.poll msgQueueMax q.ring := by
  have same : q.ring.cell = Function.update q.ring.cell q.head none := by
    funext j
    by_cases here : j = q.head
    · subst j; simp [MsgQueue.ring,missing]
    · simp [here]
  exact congrArg (fun c => Ring.Buffer.mk c (Ring.next msgQueueMax q.head) q.tail) same

theorem store_kept (kept : MsgQueue.Kept q) (message : Msg.Kept m) : (q.store m).Kept := by
  refine ⟨?_,kept.head_lt,Ring.next_lt (by decide)⟩
  intro i inside
  by_cases same : i = q.tail
  · exact ⟨m,by simp [MsgQueue.store,same],message⟩
  · simpa [MsgQueue.store,same] using kept.slots i inside

theorem consume_kept (kept : MsgQueue.Kept q) (message : Msg.Kept m) : (q.consume m).Kept := by
  refine ⟨?_,kept.head_lt,kept.tail_lt⟩
  intro i inside
  by_cases same : i = q.head
  · exact ⟨m.cleared,by simp [MsgQueue.consume,same],cleared_kept message⟩
  · simpa [MsgQueue.consume,same] using kept.slots i inside

theorem turn_kept (kept : MsgQueue.Kept q) : q.turn.Kept := ⟨kept.slots,Ring.next_lt (by decide),kept.tail_lt⟩
theorem restart_kept (kept : MsgQueue.Kept q) : q.restart.Kept := ⟨kept.slots,Nat.succ_pos 63,Nat.succ_pos 63⟩

theorem message_kept (kept : MsgQueue.Kept q) (inside : i < msgQueueMax) (found : q.message i = some m) :
    m.Kept := by
  obtain ⟨m',slot,good⟩ := kept.slots i inside
  have same := (message_some.mp found).1
  rw [slot] at same
  cases same
  exact good

theorem deliver_post (kept : Msg.Kept m) : (m.deliver jiffies).post = m.post := by
  obtain ⟨_,low,high⟩ := kept
  have word : m.msg % 2^32 = m.msg := Int.emod_eq_of_lt low (by omega)
  simp only [Msg.deliver,Delivery.post,Msg.post,word]

theorem fill_kept (kept : Msg.Valid m) (low : 0 ≤ code) (high : code < 2^31) :
    (m.fill src dst code long1 long2 long3 long4).Kept := ⟨kept,low,high⟩

theorem fill_post : (Msg.fill m src dst code long1 long2 long3 long4).post =
    ⟨code,long1,long2,long3,long4,src,dst⟩ := rfl

theorem cInt_lt (x : Int) : cInt x < 2^31 := by
  have bound := Int.bmod_lt (x := x) (m := 2^32) (by decide)
  unfold cInt
  omega

theorem notifyReceiver_queue (p : Nat) (k : Kernel) (i : Nat) :
    ((notifyReceiver p k).thread i).queue = (k.thread i).queue := by
  rw [notifyReceiver_thread]
  split
  · rename_i inside
    rw [inside.2]
    rfl
  · rfl

end GramadoKernel
