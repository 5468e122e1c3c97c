import GramadoKernel.MessageQueue

namespace GramadoKernel

-- What one kernel call did to the queue of one thread; `slot` is the place
-- where a message was put or taken. A call that concerns the queue of another
-- thread, or is rejected, is quiet.
inductive Event where
  | accepted (post : Post) (slot : Nat)
  | got (post : Post) (slot : Nat)
  | missed
  | jumped (taken : Option (Post × Nat))
  | quiet
  deriving DecidableEq

def acceptance (r : Nat) (k : Kernel) (rv : Int) (p : Post) : Event :=
  if rv = 0 ∧ k.lookup p.receiver = some r then .accepted p (k.thread r).queue.tail else .quiet

def announcement (r : Nat) (k : Kernel) (p : Post) : Event :=
  if k.lookup r = some r ∧ (k.thread r).magic = 1234 ∧ 0 ≤ p.code then .accepted p (k.thread r).queue.tail
  else .quiet

def reading (r : Nat) (k : Kernel) (result : Option Delivery) : Event :=
  if k.lookup k.currentThread = some r then
    match result with
    | some d => .got d.post (k.thread r).queue.head
    | none => .missed
  else .quiet

def jumping (r : Nat) (k : Kernel) (index : Int) (result : Option Delivery) : Event :=
  if k.lookup k.currentThread = some r then .jumped (result.map fun d => (d.post,index.toNat)) else .quiet

-- Any interleaving of the message calls of all threads, seen from thread `r`,
-- with any other activity that leaves the queue of `r` alone.
inductive QueueStep (r : Nat) : Kernel → Event → Kernel → Prop where
  | post2 : ipcPostMessageToTid2 sender receiver msg long1 long2 long3 long4 k = .ok (rv,k') →
      QueueStep r k (acceptance r k rv ⟨cInt msg,long1,long2,long3,long4,low16 sender,low16 receiver⟩) k'
  | post : ipcPostMessageToTid sender receiver msg long1 long2 k = .ok (rv,k') →
      QueueStep r k (acceptance r k rv ⟨cInt msg,long1,long2,k.jiffies,k.jiffies,low16 sender,low16 receiver⟩) k'
  | broadcast : ipcBroadcastSystemMessage sender msg long1 long2 long3 long4 k = .ok (count,k') →
      QueueStep r k (announcement r k ⟨cInt msg,long1,long2,long3,long4,low16 sender,r⟩) k'
  | get : sysGetMessage ubuf k = .ok (result,k') → QueueStep r k (reading r k result) k'
  | get2 : sysGetMessage2 ubuf index restart k = .ok (result,k') → QueueStep r k (jumping r k index result) k'
  | other : (k'.thread r).queue = (k.thread r).queue → QueueStep r k .quiet k'

inductive Moves (b : Ring.Buffer Post) : Event → Ring.Buffer Post → Prop where
  | accepted : 0 ≤ p.code → Moves b (.accepted p b.tail) (Ring.write msgQueueMax b p.visible)
  | got : b.cell b.head = some p → Moves b (.got p b.head) (Ring.poll msgQueueMax b)
  | missed : b.cell b.head = none → Moves b .missed (Ring.poll msgQueueMax b)
  | jumped : index < msgQueueMax → Moves b (.jumped ((b.cell index).map fun p => (p,index)))
      (Ring.poll msgQueueMax (Ring.seek b index))
  | returned : index < msgQueueMax → Moves b (.jumped ((b.cell index).map fun p => (p,index)))
      (Ring.rewind (Ring.poll msgQueueMax (Ring.seek b index)))
  | skipped : Moves b (.jumped none) (Ring.skip msgQueueMax b)
  | rewound : Moves b (.jumped none) (Ring.rewind b)
  | quiet : Moves b .quiet b

def Event.place : Event → Option Nat
  | .accepted _ slot => some slot
  | .got _ slot => some slot
  | .jumped taken => taken.map Prod.snd
  | .missed => none
  | .quiet => none

-- One call keeps the queue well formed, is one move of the view, and leaves
-- every structure alone that its event does not name.
structure Tracked (q : MsgQueue) (event : Event) (q' : MsgQueue) : Prop where
  kept : q'.Kept
  moves : Moves q.ring event q'.ring
  written : ∀ p i, event = .accepted p i → ∃ m, q'.slot i = some m ∧ m.post = p
  untouched : ∀ i, event.place ≠ some i → q'.slot i = q.slot i

def Tracks (r : Nat) (k : Kernel) (event : Event) (k' : Kernel) : Prop :=
  Tracked (k.thread r).queue event (k'.thread r).queue

theorem tracks_quiet (kept : (k.thread r).queue.Kept) (same : (k'.thread r).queue = (k.thread r).queue) :
    Tracks r k .quiet k' := by
  unfold Tracks
  rw [same]
  exact ⟨kept,.quiet,by simp,fun _ _ => rfl⟩

theorem store_tracked (kept : MsgQueue.Kept q) (message : Msg.Kept m) :
    Tracked q (.accepted m.post q.tail) (q.store m) := by
  refine ⟨store_kept kept message,?_,?_,?_⟩
  · rw [store_ring q m message.valid]
    exact .accepted message.low
  · intro p i equal
    obtain ⟨rfl,rfl⟩ := equal
    exact ⟨m,by simp [MsgQueue.store],rfl⟩
  · intro i other
    have apart : i ≠ q.tail := by
      intro same
      subst same
      exact other rfl
    simp [MsgQueue.store,apart]

theorem consume_tracked (kept : MsgQueue.Kept q) (here : q.message q.head = some m) :
    Tracked q (.got m.post q.head) (q.consume m).turn := by
  have good := message_kept kept kept.head_lt here
  refine ⟨turn_kept (consume_kept kept good),?_,by simp,?_⟩
  · rw [consume_ring q m good.valid]
    exact .got (by simp [MsgQueue.ring,here])
  · intro i other
    have apart : i ≠ q.head := by
      intro same
      subst same
      exact other rfl
    simp [MsgQueue.consume,MsgQueue.turn,apart]

theorem turn_tracked (kept : MsgQueue.Kept q) (missing : q.message q.head = none) : Tracked q .missed q.turn := by
  refine ⟨turn_kept kept,?_,by simp,fun _ _ => rfl⟩
  rw [turn_ring q missing]
  exact .missed (by simp [MsgQueue.ring,missing])

theorem postMessage_tracks (kept : (k.thread r).queue.Kept) (low : 0 ≤ code) (high : code < 2^31)
    (posted : postMessage name src dst code long1 long2 long3 long4 k = .ok (rv,k')) :
    Tracks r k (acceptance r k rv ⟨code,long1,long2,long3,long4,src,dst⟩) k' := by
  obtain ⟨rfl,p,m,found,_,_,mvalid,rfl⟩ := postMessage_parts posted
  by_cases same : p = r
  · subst p
    have good : (m.fill src dst code long1 long2 long3 long4).Kept := fill_kept mvalid low high
    unfold Tracks acceptance
    rw [Kernel.modify_same,notifyReceiver_queue,if_pos ⟨rfl,found⟩,← fill_post (m := m)]
    exact store_tracked kept good
  · have away : acceptance r k 0 ⟨code,long1,long2,long3,long4,src,dst⟩ = .quiet := by
      simp [acceptance,found,same]
    rw [away]
    apply tracks_quiet kept
    rw [Kernel.modify_other _ _ _ _ (Ne.symm same),notifyReceiver_queue]

theorem post2_tracks (kept : (k.thread r).queue.Kept)
    (posted : ipcPostMessageToTid2 sender receiver msg long1 long2 long3 long4 k = .ok (rv,k')) :
    Tracks r k (acceptance r k rv ⟨cInt msg,long1,long2,long3,long4,low16 sender,low16 receiver⟩) k' := by
  unfold ipcPostMessageToTid2 at posted
  split at posted
  · cases posted
    exact tracks_quiet kept rfl
  · exact postMessage_tracks kept (by omega) (cInt_lt msg) posted

theorem post_tracks (kept : (k.thread r).queue.Kept)
    (posted : ipcPostMessageToTid sender receiver msg long1 long2 k = .ok (rv,k')) :
    Tracks r k (acceptance r k rv ⟨cInt msg,long1,long2,k.jiffies,k.jiffies,low16 sender,low16 receiver⟩) k' := by
  unfold ipcPostMessageToTid at posted
  split at posted
  · cases posted
    exact tracks_quiet kept rfl
  · exact postMessage_tracks kept (by omega) (cInt_lt msg) posted

structure Elsewhere (r : Nat) (k k' : Kernel) : Prop where
  listed : k'.listed = k.listed
  magic : (k'.thread r).magic = (k.thread r).magic
  queue : (k'.thread r).queue = (k.thread r).queue

theorem broadcastTo_elsewhere (sent : broadcastTo sender msg long1 long2 long3 long4 i counter k = .ok (counter',k'))
    (valid : i < threadCountMax) (other : i ≠ r) : Elsewhere r k k' := by
  unfold broadcastTo at sent
  split at sent
  · rename_i present
    simp only [bind_ok,Except.ok.injEq,Prod.mk.injEq,Prod.exists] at sent
    obtain ⟨rv,after,posted,_,rfl⟩ := sent
    rw [k.tids i present.1] at posted
    unfold ipcPostMessageToTid2 at posted
    split at posted
    · cases posted
      exact ⟨rfl,rfl,rfl⟩
    · obtain ⟨_,p,m,found,_,_,_,rfl⟩ := postMessage_parts posted
      rw [low16_slot valid] at found
      have target := (lookup_some.mp found).1
      have apart : r ≠ p := by omega
      refine ⟨(notifyReceiver_globals p k).listed,?_,?_⟩
      · rw [Kernel.modify_other _ _ _ _ apart,notifyReceiver_thread,if_neg (fun both => apart both.2)]
      · rw [Kernel.modify_other _ _ _ _ apart,notifyReceiver_queue]
  · cases sent
    exact ⟨rfl,rfl,rfl⟩

theorem broadcastTo_tracks (kept : (k.thread r).queue.Kept) (valid : r < threadCountMax)
    (sent : broadcastTo sender msg long1 long2 long3 long4 r counter k = .ok (counter',k')) :
    Tracks r k (announcement r k ⟨cInt msg,long1,long2,long3,long4,low16 sender,r⟩) k' := by
  unfold broadcastTo at sent
  split at sent
  · rename_i present
    simp only [bind_ok,Except.ok.injEq,Prod.mk.injEq,Prod.exists] at sent
    obtain ⟨rv,after,posted,_,rfl⟩ := sent
    have found : k.lookup r = some r := lookup_some.mpr ⟨rfl,valid,present.1⟩
    have tracked := post2_tracks kept posted
    rw [k.tids r present.1,low16_slot valid] at tracked
    have same : announcement r k ⟨cInt msg,long1,long2,long3,long4,low16 sender,r⟩ =
        acceptance r k rv ⟨cInt msg,long1,long2,long3,long4,low16 sender,r⟩ := by
      unfold ipcPostMessageToTid2 at posted
      split at posted
      · rename_i negative
        cases posted
        simp [announcement,acceptance,show ¬ 0 ≤ cInt msg by omega]
      · rename_i positive
        obtain ⟨rfl,_⟩ := postMessage_parts posted
        simp [announcement,acceptance,found,present.2,show 0 ≤ cInt msg by omega]
    rwa [same]
  · rename_i absent
    cases sent
    have silent : announcement r k ⟨cInt msg,long1,long2,long3,long4,low16 sender,r⟩ = .quiet := by
      unfold announcement
      rw [if_neg]
      intro announced
      obtain ⟨found,magic,_⟩ := announced
      exact absent ⟨(lookup_some.mp found).2.2,magic⟩
    rw [silent]
    exact tracks_quiet kept rfl

-- The loop reaches the slot of `r` once; before and after it the queue of `r`
-- stays as it is.
theorem broadcastLoop_tracks (items : List Nat) (nodup : items.Nodup) (inside : ∀ i ∈ items, i < threadCountMax)
    (kept : (k.thread r).queue.Kept)
    (sent : broadcastLoop sender msg long1 long2 long3 long4 items counter k = .ok (counter',k')) :
    (r ∈ items → Tracks r k (announcement r k ⟨cInt msg,long1,long2,long3,long4,low16 sender,r⟩) k') ∧
      (r ∉ items → (k'.thread r).queue = (k.thread r).queue) := by
  induction items generalizing k counter with
  | nil =>
      cases sent
      exact ⟨by simp,fun _ => rfl⟩
  | cons i rest ih =>
      simp only [broadcastLoop,bind_ok,Prod.exists] at sent
      obtain ⟨middle,k1,first,later⟩ := sent
      obtain ⟨fresh,distinct⟩ := List.nodup_cons.mp nodup
      have valid := inside i (by simp)
      have others : ∀ j ∈ rest, j < threadCountMax := fun j present => inside j (by simp [present])
      by_cases same : i = r
      · subst i
        have tracked := broadcastTo_tracks kept valid first
        have still := (ih distinct others tracked.kept later).2 fresh
        refine ⟨fun _ => ?_,by simp⟩
        unfold Tracks at tracked ⊢
        rwa [still]
      · have frame := broadcastTo_elsewhere first valid same
        have tail := ih distinct others (frame.queue.symm ▸ kept) later
        rw [frame.queue] at tail
        refine ⟨fun present => ?_,fun absent => tail.2 (fun later => absent (by simp [later]))⟩
        have tracked := tail.1 ((List.mem_cons.mp present).resolve_left (Ne.symm same))
        have lookups : k1.lookup r = k.lookup r := by simp [Kernel.lookup,frame.listed]
        unfold Tracks announcement at tracked ⊢
        rwa [frame.queue,lookups,frame.magic] at tracked

theorem broadcast_tracks (kept : (k.thread r).queue.Kept)
    (sent : ipcBroadcastSystemMessage sender msg long1 long2 long3 long4 k = .ok (count,k')) :
    Tracks r k (announcement r k ⟨cInt msg,long1,long2,long3,long4,low16 sender,r⟩) k' := by
  simp only [ipcBroadcastSystemMessage,bind_ok,Prod.exists,Except.ok.injEq,Prod.mk.injEq] at sent
  obtain ⟨counter,after,looped,_,rfl⟩ := sent
  have tracked := broadcastLoop_tracks _ List.nodup_range (by simp) kept looped
  by_cases valid : r < threadCountMax
  · exact tracked.1 (List.mem_range.mpr valid)
  · have silent : announcement r k ⟨cInt msg,long1,long2,long3,long4,low16 sender,r⟩ = .quiet := by
      unfold announcement
      rw [if_neg]
      exact fun found => valid (lookup_some.mp found.1).2.1
    rw [silent]
    exact tracks_quiet kept (tracked.2 (by simpa using valid))

theorem sysGetMessage_parts (called : sysGetMessage ubuf k = .ok (result,k')) :
    (k.lookup k.currentThread = none ∧ result = none ∧ k' = k) ∨
    ∃ p, k.lookup k.currentThread = some p ∧
      ((∃ m, (k.thread p).queue.message (k.thread p).queue.head = some m ∧ result = some (m.deliver k.jiffies) ∧
          k' = k.setQueue p ((k.thread p).queue.consume m).turn) ∨
        (k.thread p).queue.message (k.thread p).queue.head = none ∧ result = none ∧
          k' = k.setQueue p (k.thread p).queue.turn) := by
  simp only [sysGetMessage,bind_ok,require_ok] at called
  obtain ⟨_,_,called⟩ := called
  split at called
  · rename_i outside
    cases called
    refine .inl ⟨?_,rfl,rfl⟩
    unfold Kernel.lookup
    rw [if_neg]
    omega
  · simp only [bind_ok,require_ok,pointer_ok] at called
    obtain ⟨p,found,_,_,called⟩ := called
    refine .inr ⟨p,found,?_⟩
    split at called
    · rename_i m here
      cases called
      exact .inl ⟨m,here,rfl,rfl⟩
    · rename_i missing
      cases called
      exact .inr ⟨missing,rfl,rfl⟩

theorem setQueue_queue (k : Kernel) (p : Nat) (q : MsgQueue) : ((k.setQueue p q).thread p).queue = q := by
  simp [Kernel.setQueue]

theorem setQueue_other (k : Kernel) (p : Nat) (q : MsgQueue) (other : r ≠ p) :
    ((k.setQueue p q).thread r).queue = (k.thread r).queue := by
  simp [Kernel.setQueue,other]

theorem get_tracks (kept : (k.thread r).queue.Kept) (called : sysGetMessage ubuf k = .ok (result,k')) :
    Tracks r k (reading r k result) k' := by
  unfold reading
  rcases sysGetMessage_parts called with ⟨missing,rfl,rfl⟩ | ⟨p,found,read⟩
  · rw [missing,if_neg (by simp)]
    exact tracks_quiet kept rfl
  · by_cases same : p = r
    · subst p
      rw [if_pos found]
      unfold Tracks
      rcases read with ⟨m,here,rfl,rfl⟩ | ⟨missing,rfl,rfl⟩
      · rw [setQueue_queue]
        change Tracked _ (.got (m.deliver k.jiffies).post _) _
        rw [deliver_post (message_kept kept kept.head_lt here)]
        exact consume_tracked kept here
      · rw [setQueue_queue]
        exact turn_tracked kept missing
    · rw [if_neg (by simp [found,same])]
      apply tracks_quiet kept
      rcases read with ⟨_,_,_,rfl⟩ | ⟨_,_,rfl⟩ <;> exact setQueue_other _ _ _ (Ne.symm same)

theorem sysGetMessage2_parts (called : sysGetMessage2 ubuf index restart k = .ok (result,k')) :
    (k.lookup k.currentThread = none ∧ result = none ∧ k' = k) ∨
    ∃ p, k.lookup k.currentThread = some p ∧
      ((result = none ∧ k' = k.setQueue p ((k.thread p).queue.finish restart)) ∨
        ∃ i : Nat, index = i ∧ i < msgQueueMax ∧
          ((∃ m, (k.thread p).queue.message i = some m ∧ result = some (m.deliver k.jiffies) ∧
            k' = k.setQueue p ((((k.thread p).queue.seek i).consume m).finish restart)) ∨
          (k.thread p).queue.message i = none ∧ result = none ∧
            k' = k.setQueue p (((k.thread p).queue.seek i).finish restart))) := by
  simp only [sysGetMessage2,bind_ok,require_ok] at called
  obtain ⟨_,_,called⟩ := called
  split at called
  · rename_i outside
    cases called
    refine .inl ⟨?_,rfl,rfl⟩
    unfold Kernel.lookup
    rw [if_neg]
    omega
  · simp only [bind_ok,require_ok,pointer_ok] at called
    obtain ⟨p,found,_,_,called⟩ := called
    refine .inr ⟨p,found,?_⟩
    split at called
    · cases called
      exact .inl ⟨rfl,rfl⟩
    · refine .inr ⟨index.toNat,by omega,by omega,?_⟩
      split at called
      · rename_i m here
        cases called
        exact .inl ⟨m,here,rfl,rfl⟩
      · rename_i missing
        cases called
        exact .inr ⟨missing,rfl,rfl⟩

theorem seek_kept (kept : MsgQueue.Kept q) (valid : index < msgQueueMax) : (q.seek index).Kept :=
  ⟨kept.slots,valid,kept.tail_lt⟩

theorem finish_kept (kept : MsgQueue.Kept q) : (q.finish restart).Kept := by
  cases restart
  · exact turn_kept kept
  · exact restart_kept kept

theorem finish_slot (q : MsgQueue) : (q.finish restart).slot = q.slot := by
  cases restart <;> rfl

theorem finish_tracked (kept : MsgQueue.Kept q) : Tracked q (.jumped none) (q.finish restart) := by
  refine ⟨finish_kept kept,?_,by simp,fun i _ => by rw [finish_slot]⟩
  cases restart
  · exact .skipped
  · exact .rewound

theorem jump_tracked (restart : Bool) (kept : MsgQueue.Kept q') (valid : i < msgQueueMax)
    (cleared : q'.turn.ring = Ring.poll msgQueueMax (q.seek i).ring)
    (untouched : ∀ j, (q.message i).map (fun _ => i) ≠ some j → q'.slot j = q.slot j) :
    Tracked q (.jumped ((q.ring.cell i).map fun p => (p,i))) (q'.finish restart) := by
  refine ⟨finish_kept kept,?_,by simp,?_⟩
  · cases restart
    · change Moves _ _ q'.turn.ring
      rw [cleared]
      exact .jumped valid
    · have back : q'.restart.ring = Ring.rewind q'.turn.ring := rfl
      change Moves _ _ q'.restart.ring
      rw [back,cleared]
      exact .returned valid
  · intro j other
    rw [finish_slot]
    apply untouched
    simpa [Event.place,MsgQueue.ring] using other

theorem get2_tracks (kept : (k.thread r).queue.Kept) (called : sysGetMessage2 ubuf index restart k = .ok (result,k')) :
    Tracks r k (jumping r k index result) k' := by
  unfold jumping
  rcases sysGetMessage2_parts called with ⟨missing,rfl,rfl⟩ | ⟨p,found,read⟩
  · rw [missing,if_neg (by simp)]
    exact tracks_quiet kept rfl
  · by_cases same : p = r
    · subst p
      rw [if_pos found]
      unfold Tracks
      rcases read with ⟨rfl,rfl⟩ | ⟨i,rfl,valid,⟨m,here,rfl,rfl⟩ | ⟨missing,rfl,rfl⟩⟩
      · rw [setQueue_queue]
        exact finish_tracked kept
      · have good := message_kept kept valid here
        have view : (k.thread r).queue.ring.cell i = some m.post := by simp [MsgQueue.ring,here]
        have tracked := jump_tracked restart (consume_kept (seek_kept kept valid) good) valid
          (consume_ring ((k.thread r).queue.seek i) m good.valid) (by
            intro j other
            have apart : j ≠ i := by simpa [here,eq_comm] using other
            simp [MsgQueue.consume,MsgQueue.seek,apart])
        rw [view] at tracked
        rw [setQueue_queue,Option.map_some,deliver_post good,Int.toNat_natCast]
        exact tracked
      · have view : (k.thread r).queue.ring.cell i = none := by simp [MsgQueue.ring,missing]
        have tracked := jump_tracked restart (seek_kept kept valid) valid
          (turn_ring ((k.thread r).queue.seek i) missing) (fun _ _ => rfl)
        rw [view] at tracked
        rw [setQueue_queue,Option.map_none]
        exact tracked
    · rw [if_neg (by simp [found,same])]
      apply tracks_quiet kept
      rcases read with ⟨_,rfl⟩ | ⟨_,_,_,⟨_,_,_,rfl⟩ | ⟨_,_,rfl⟩⟩ <;> exact setQueue_other _ _ _ (Ne.symm same)

theorem queueStep_tracks (kept : (k.thread r).queue.Kept) (step : QueueStep r k event k') : Tracks r k event k' := by
  cases step with
  | post2 posted => exact post2_tracks kept posted
  | post posted => exact post_tracks kept posted
  | broadcast sent => exact broadcast_tracks kept sent
  | get called => exact get_tracks kept called
  | get2 called => exact get2_tracks kept called
  | other same => exact tracks_quiet kept same

end GramadoKernel
