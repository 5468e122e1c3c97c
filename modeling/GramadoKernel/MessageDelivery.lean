import Mathlib.Data.List.Basic
import GramadoKernel.Creation
import GramadoKernel.MessageRuns

namespace GramadoKernel

-- The posts that returned 0, and the messages that reads returned, in order.
def accepted (events : List Event) : List Post :=
  events.filterMap fun
    | .accepted p _ => some p
    | _ => none

def returned (events : List Event) : List Post :=
  events.filterMap fun
    | .got p _ => some p
    | .jumped taken => taken.map Prod.fst
    | _ => none

-- Where each accepted message is: still in the slot it was written to, or
-- lost when a later post was written to the same slot before a read.
structure Ledger where
  held : Nat → Option Post
  lost : List Post

def Ledger.put (l : Ledger) (p : Post) (slot : Nat) : Ledger :=
  ⟨Function.update l.held slot (some p),l.lost ++ (l.held slot).toList⟩

def Ledger.take (l : Ledger) (slot : Nat) : Ledger := ⟨Function.update l.held slot none,l.lost⟩

def Ledger.record (l : Ledger) : Event → Ledger
  | .accepted p slot => l.put p slot
  | .got _ slot => l.take slot
  | .jumped (some (_,slot)) => l.take slot
  | .jumped none => l
  | .missed => l
  | .quiet => l

def ledger (events : List Event) : Ledger := events.foldl Ledger.record ⟨fun _ => none,[]⟩

def Ledger.unread (l : Ledger) : List Post := (List.range msgQueueMax).filterMap l.held

theorem ledger_snoc (events : List Event) (event : Event) :
    ledger (events ++ [event]) = (ledger events).record event := by
  simp [ledger]

theorem accepted_snoc (events : List Event) (event : Event) :
    accepted (events ++ [event]) = accepted events ++ accepted [event] := List.filterMap_append

theorem returned_snoc (events : List Event) (event : Event) :
    returned (events ++ [event]) = returned events ++ returned [event] := List.filterMap_append

theorem put_unread (l : Ledger) (p : Post) (inside : slot < msgQueueMax) :
    List.Perm ((l.held slot).toList ++ (l.put p slot).unread) (p :: l.unread) :=
  Ring.filterMap_exchange l.held slot (some p) (List.range msgQueueMax) List.nodup_range (List.mem_range.mpr inside)

theorem take_unread (l : Ledger) (found : l.held slot = some p) (inside : slot < msgQueueMax) :
    List.Perm (p :: (l.take slot).unread) l.unread := by
  have exchange := Ring.filterMap_exchange l.held slot none (List.range msgQueueMax) List.nodup_range
    (List.mem_range.mpr inside)
  rw [found] at exchange
  exact exchange

-- The books agree with the queue: a reader sees exactly the held messages of
-- positive code, and every held message stands in its slot.
structure Balanced (events : List Event) (q : MsgQueue) : Prop where
  kept : q.Kept
  seen : ∀ i < msgQueueMax, q.ring.cell i = ((ledger events).held i).bind Post.visible
  stands : ∀ i p, (ledger events).held i = some p → ∃ m, q.slot i = some m ∧ m.post = p
  total : List.Perm (accepted events) (returned events ++ ((ledger events).unread ++ (ledger events).lost))

theorem balanced_built : Balanced [] MsgQueue.built := by
  refine ⟨built_kept,?_,?_,?_⟩
  · intro i _
    rw [built_ring]
    rfl
  · intro i p found
    cases found
  · simp [accepted,returned,ledger,Ledger.unread]

theorem visible_bind (held : Option Post) : held.bind Post.visible = some p → held = some p := by
  cases held with
  | none => simp
  | some x =>
      simp only [Option.bind_some,Post.visible]
      split <;> simp

theorem balanced_take (balanced : Balanced events q) (tracked : Tracked q event q') (inside : slot < msgQueueMax)
    (found : q.ring.cell slot = some p) (place : event.place = some slot)
    (cells : ∀ i, q'.ring.cell i = if i = slot then none else q.ring.cell i)
    (books : (ledger events).record event = (ledger events).take slot)
    (nothing : accepted [event] = []) (one : returned [event] = [p]) : Balanced (events ++ [event]) q' := by
  have holds : (ledger events).held slot = some p := visible_bind _ (balanced.seen slot inside ▸ found)
  refine ⟨tracked.kept,?_,?_,?_⟩
  · intro i valid
    rw [ledger_snoc,books,cells]
    by_cases same : i = slot
    · simp [same,Ledger.take]
    · simpa [same,Ledger.take] using balanced.seen i valid
  · intro i x held
    rw [ledger_snoc,books] at held
    have other : i ≠ slot := by
      intro same
      subst same
      simp [Ledger.take] at held
    rw [tracked.untouched i (by rw [place]; simpa using Ne.symm other)]
    exact balanced.stands i x (by simpa [Ledger.take,other] using held)
  · rw [ledger_snoc,accepted_snoc,returned_snoc,books,nothing,one,List.append_nil]
    have taken := take_unread (ledger events) holds inside
    calc
      List.Perm (accepted events) (returned events ++ ((ledger events).unread ++ (ledger events).lost)) := balanced.total
      List.Perm _ (returned events ++ (p :: ((ledger events).take slot).unread ++ (ledger events).lost)) :=
        (taken.symm.append_right _).append_left _
      _ = returned events ++ [p] ++ (((ledger events).take slot).unread ++ ((ledger events).take slot).lost) := by
        simp [Ledger.take]

theorem balanced_still (balanced : Balanced events q) (tracked : Tracked q event q') (place : event.place = none)
    (cells : ∀ i, q'.ring.cell i = q.ring.cell i) (books : (ledger events).record event = ledger events)
    (nothing : accepted [event] = []) (none : returned [event] = []) : Balanced (events ++ [event]) q' := by
  refine ⟨tracked.kept,?_,?_,?_⟩
  · intro i valid
    rw [ledger_snoc,books,cells]
    exact balanced.seen i valid
  · intro i x held
    rw [ledger_snoc,books] at held
    rw [tracked.untouched i (by simp [place])]
    exact balanced.stands i x held
  · rw [ledger_snoc,books,accepted_snoc,returned_snoc,nothing,none,List.append_nil,List.append_nil]
    exact balanced.total

theorem balanced_put (balanced : Balanced events q) (tracked : Tracked q (.accepted p q.tail) q')
    (moved : q'.ring = Ring.write msgQueueMax q.ring p.visible) :
    Balanced (events ++ [.accepted p q.tail]) q' := by
  have inside := balanced.kept.tail_lt
  refine ⟨tracked.kept,?_,?_,?_⟩
  · intro i valid
    rw [ledger_snoc,moved]
    by_cases same : i = q.tail
    · subst i
      simp [Ring.write,Ledger.record,Ledger.put,MsgQueue.ring]
    · have away : (Ring.write msgQueueMax q.ring p.visible).cell i = q.ring.cell i := Function.update_of_ne same _ _
      rw [away,balanced.seen i valid]
      simp [Ledger.record,Ledger.put,same]
  · intro i x held
    rw [ledger_snoc] at held
    by_cases same : i = q.tail
    · subst i
      obtain rfl : p = x := by simpa [Ledger.record,Ledger.put] using held
      exact tracked.written p _ rfl
    · rw [tracked.untouched i (by simpa [Event.place] using Ne.symm same)]
      exact balanced.stands i x (by simpa [Ledger.record,Ledger.put,same] using held)
  · have put := put_unread (ledger events) p inside
    rw [ledger_snoc,accepted_snoc,returned_snoc]
    change List.Perm (accepted events ++ [p])
      (returned events ++ [] ++ (((ledger events).put p q.tail).unread ++
        ((ledger events).lost ++ ((ledger events).held q.tail).toList)))
    rw [List.append_nil]
    calc
      List.Perm (accepted events ++ [p]) (p :: accepted events) := List.perm_append_singleton p _
      List.Perm _ (p :: (returned events ++ ((ledger events).unread ++ (ledger events).lost))) := balanced.total.cons p
      List.Perm _ (returned events ++ (p :: (ledger events).unread ++ (ledger events).lost)) := List.perm_middle.symm
      List.Perm _ (returned events ++ (((ledger events).held q.tail).toList ++
          ((ledger events).put p q.tail).unread ++ (ledger events).lost)) := (put.symm.append_right _).append_left _
      List.Perm _ _ := by
        apply List.Perm.append_left
        rw [List.append_assoc]
        exact List.perm_append_comm.trans (by rw [List.append_assoc])

theorem balanced_step (balanced : Balanced events q) (tracked : Tracked q event q') :
    Balanced (events ++ [event]) q' := by
  have moves := tracked.moves
  have inside := balanced.kept.head_lt
  generalize ring : q'.ring = b' at moves
  cases moves with
  | accepted => exact balanced_put balanced tracked ring
  | got found =>
      exact balanced_take balanced tracked inside found rfl (fun i => by rw [ring,Ring.poll_cell]; rfl) rfl rfl rfl
  | missed clear =>
      refine balanced_still balanced tracked rfl (fun i => ?_) rfl rfl rfl
      rw [ring,Ring.poll_cell]
      split
      · rename_i same; rw [same,clear]
      · rfl
  | jumped valid | returned valid =>
      rename_i index
      have cells : ∀ i, q'.ring.cell i = if i = index then none else q.ring.cell i := by
        intro i
        rw [ring]
        exact Ring.poll_cell msgQueueMax (Ring.seek q.ring index)
      cases found : q.ring.cell index with
      | none =>
          rw [found] at tracked
          refine balanced_still balanced tracked rfl (fun i => ?_) rfl rfl rfl
          rw [cells]
          split
          · rename_i same; rw [same,found]
          · rfl
      | some p =>
          rw [found] at tracked
          exact balanced_take balanced tracked valid found rfl cells rfl rfl rfl
  | skipped => exact balanced_still balanced tracked rfl (fun i => by rw [ring]; rfl) rfl rfl rfl
  | rewound => exact balanced_still balanced tracked rfl (fun i => by rw [ring]; rfl) rfl rfl rfl
  | quiet => exact balanced_still balanced tracked rfl (fun i => by rw [ring]) rfl rfl rfl

theorem reached_balanced (start : (k.thread r).queue = MsgQueue.built)
    (path : Runs.Path (QueueStep r) k events k') : Balanced events (k'.thread r).queue := by
  refine Runs.Path.history (fun events k => Balanced events (k.thread r).queue) ?_ path ?_
  · intro events s event t balanced step
    exact balanced_step balanced (queueStep_tracks balanced.kept step)
  · rw [start]
    exact balanced_built

def firstPost : Post := ⟨7,0,0,0,0,0,0⟩
def oncePosted : Kernel := afterCall (ipcPostMessageToTid 0 0 7 0 0 bootKernel)
def onceRead : Kernel := afterCall (sysGetMessage 1 oncePosted)
def onceEvents : List Event := [.accepted firstPost 0,.got firstPost 0]

theorem once_posted : QueueStep 0 bootKernel (.accepted firstPost 0) oncePosted := by
  have call : ipcPostMessageToTid 0 0 7 0 0 bootKernel = .ok (0,oncePosted) := afterCall_ok (by decide +kernel)
  exact .post call

theorem once_read : QueueStep 0 oncePosted (.got firstPost 0) onceRead := by
  have call : sysGetMessage 1 oncePosted = .ok (some ⟨0,7,0,0,0,0,0,0,0,0⟩,onceRead) := afterCall_ok (by decide +kernel)
  exact .get call

def flood (n : Nat) : List Event := (List.range n).map fun i => .accepted firstPost (i % msgQueueMax)

def gets (ubuf : UInt64) : Nat → Kernel → Except Halt (List Delivery × Kernel)
  | 0,k => .ok ([],k)
  | count+1,k => do
      let (result,k) ← sysGetMessage ubuf k
      let (rest,k) ← gets ubuf count k
      .ok (result.toList ++ rest,k)

structure Reader (r : Nat) (k : Kernel) : Prop where
  running : k.lookup k.currentThread = some r
  valid : (k.thread r).Valid

theorem setQueue_reader (reader : Reader r k) : Reader r (k.setQueue r q) :=
  ⟨reader.running,by simpa [Kernel.setQueue,Thread.Valid] using reader.valid⟩

theorem sysGetMessage_returns (reader : Reader r k) (buffer : ubuf ≠ 0) :
    ∃ result k', sysGetMessage ubuf k = .ok (result,k') ∧ Reader r k' := by
  obtain ⟨same,below,_⟩ := lookup_some.mp reader.running
  have inside : ¬ (k.currentThread < 0 ∨ threadCountMax ≤ k.currentThread) := by omega
  cases found : (k.thread r).queue.message (k.thread r).queue.head with
  | some m =>
      refine ⟨some (m.deliver k.jiffies),k.setQueue r ((k.thread r).queue.consume m).turn,?_,setQueue_reader reader⟩
      simp [sysGetMessage,require,buffer,inside,reader.running,pointer,reader.valid,found,bind,Except.bind]
  | none =>
      refine ⟨none,k.setQueue r (k.thread r).queue.turn,?_,setQueue_reader reader⟩
      simp [sysGetMessage,require,buffer,inside,reader.running,pointer,reader.valid,found,bind,Except.bind]

theorem get_poll (reader : Reader r k) (kept : (k.thread r).queue.Kept) (called : sysGetMessage ubuf k = .ok (result,k')) :
    (k'.thread r).queue.Kept ∧ result.toList.map Delivery.post =
      ((k.thread r).queue.ring.cell (k.thread r).queue.ring.head).toList ∧
      (k'.thread r).queue.ring = Ring.poll msgQueueMax (k.thread r).queue.ring := by
  have tracked := get_tracks (r := r) kept called
  refine ⟨tracked.kept,?_⟩
  have moves := tracked.moves
  generalize ring : (k'.thread r).queue.ring = b' at moves
  simp only [reading,reader.running,if_true] at moves
  cases result with
  | some d =>
      cases moves with
      | got found => exact ⟨by rw [found]; rfl,rfl⟩
  | none =>
      cases moves with
      | missed clear => exact ⟨by rw [clear]; rfl,rfl⟩

theorem gets_polls (count : Nat) (reader : Reader r k) (kept : (k.thread r).queue.Kept) (buffer : ubuf ≠ 0) :
    ∃ results k', gets ubuf count k = .ok (results,k') ∧
      results.map Delivery.post = (Ring.polls msgQueueMax count (k.thread r).queue.ring).1 := by
  induction count generalizing k with
  | zero => exact ⟨[],k,rfl,rfl⟩
  | succ count ih =>
      obtain ⟨result,k1,called,next⟩ := sysGetMessage_returns reader buffer
      obtain ⟨kept',obtained,polled⟩ := get_poll reader kept called
      obtain ⟨rest,k2,later,posts⟩ := ih next kept'
      refine ⟨result.toList ++ rest,k2,?_,?_⟩
      · simp [gets,called,later,bind,Except.bind]
      · rw [List.map_append,obtained,posts,polled]
        rfl

theorem filterMap_visible (posts : List Post) : posts.filterMap Post.visible = posts.filter fun p => 0 < p.code := by
  rw [← List.filterMap_eq_filter]
  apply List.filterMap_congr
  intro p _
  simp [Post.visible,Option.guard]

theorem balanced_stored (balanced : Balanced events q) :
    Ring.stored msgQueueMax q.ring = (ledger events).unread.filter fun p => 0 < p.code := by
  rw [← filterMap_visible,Ledger.unread,List.filterMap_filterMap]
  apply List.filterMap_congr
  intro i present
  exact balanced.seen i (List.mem_range.mp present)

theorem sweep_positive (balanced : Balanced events (k.thread r).queue) (reader : Reader r k) (buffer : ubuf ≠ 0) :
    ∃ results k', gets ubuf msgQueueMax k = .ok (results,k') ∧
      List.Perm (results.map Delivery.post) ((ledger events).unread.filter fun p => 0 < p.code) := by
  have called := gets_polls msgQueueMax reader balanced.kept buffer
  obtain ⟨results,k',called,posts⟩ := called
  have swept := Ring.sweep_obtains (ring_inside balanced.kept)
  rw [← posts,balanced_stored balanced] at swept
  exact ⟨results,k',called,swept⟩

-- Whatever the readers did with the cursors, a turn of plain reads returns
-- every unread message if and only if none of them has code zero.
theorem sweep_iff_positive (start : (k.thread r).queue = MsgQueue.built)
    (path : Runs.Path (QueueStep r) k events k') :
    ((k'.thread r).queue.head < msgQueueMax ∧ (k'.thread r).queue.tail < msgQueueMax) ∧
      (returned events).Subperm (accepted events) ∧
      ∀ ubuf, ubuf ≠ 0 → Reader r k' → ∃ results k'', gets ubuf msgQueueMax k' = .ok (results,k'') ∧
        (List.Perm (results.map Delivery.post) (ledger events).unread ↔ ∀ p ∈ (ledger events).unread, 0 < p.code) := by
  have balanced := reached_balanced start path
  refine ⟨⟨balanced.kept.head_lt,balanced.kept.tail_lt⟩,?_,?_⟩
  · exact (List.sublist_append_left _ _).subperm.trans balanced.total.symm.subperm
  · intro ubuf buffer reader
    obtain ⟨results,k'',called,swept⟩ := sweep_positive balanced reader buffer
    refine ⟨results,k'',called,?_⟩
    constructor
    · intro all
      have lengths := (swept.symm.trans all).length_eq
      simpa using List.length_filter_eq_length_iff.mp lengths
    · intro positive
      rwa [List.filter_eq_self.mpr (by simpa using positive)] at swept

theorem sweep_one_message : Runs.Path (QueueStep 0) bootKernel [.accepted firstPost 0] oncePosted ∧ Reader 0 oncePosted ∧
    ∃ results k', gets 1 msgQueueMax oncePosted = .ok (results,k') ∧ List.Perm (results.map Delivery.post) [firstPost] := by
  have path : Runs.Path (QueueStep 0) bootKernel [.accepted firstPost 0] oncePosted := .step .nil once_posted
  have reader : Reader 0 oncePosted := ⟨by decide +kernel,by decide +kernel⟩
  obtain ⟨results,k',called,iff⟩ := (sweep_iff_positive rfl path).2.2 1 (by decide) reader
  refine ⟨path,reader,results,k',called,iff.mpr ?_⟩
  decide

-- A message of code zero is accepted and stored, and no read returns it.
def zeroPost : Post := ⟨0,5,0,0,0,0,0⟩
def zeroPosted : Kernel := afterCall (ipcPostMessageToTid2 0 0 0 5 0 0 0 bootKernel)

theorem code_zero_unreachable : Runs.Path (QueueStep 0) bootKernel [.accepted zeroPost 0] zeroPosted ∧ Reader 0 zeroPosted ∧
    (ledger [.accepted zeroPost 0]).unread = [zeroPost] ∧
    ∃ results k', gets 1 msgQueueMax zeroPosted = .ok (results,k') ∧ zeroPost ∉ results.map Delivery.post := by
  have posted : QueueStep 0 bootKernel (.accepted zeroPost 0) zeroPosted := by
    have call : ipcPostMessageToTid2 0 0 0 5 0 0 0 bootKernel = .ok (0,zeroPosted) := afterCall_ok (by decide +kernel)
    exact .post2 call
  have path : Runs.Path (QueueStep 0) bootKernel [.accepted zeroPost 0] zeroPosted := .step .nil posted
  have reader : Reader 0 zeroPosted := ⟨by decide +kernel,by decide +kernel⟩
  obtain ⟨results,k',called,swept⟩ := sweep_positive (reached_balanced rfl path) reader (show (1 : UInt64) ≠ 0 by decide)
  refine ⟨path,reader,by decide,results,k',called,?_⟩
  intro member
  have positive := (List.mem_filter.mp (swept.subset member)).2
  revert positive
  decide

structure PlainStep (r : Nat) (k : Kernel) (event : Event) (k' : Kernel) : Prop where
  step : QueueStep r k event k'
  plain : ∀ taken, event ≠ .jumped taken
  positive : ∀ p slot, event = .accepted p slot → 0 < p.code

-- A step that keeps the order: no post at a moment when the two cursors are
-- equal and a message is unread.
structure FifoStep (r : Nat) (k : Kernel) (event : Event) (k' : Kernel) : Prop extends PlainStep r k event k' where
  apart : ∀ p slot, event = .accepted p slot → (k.thread r).queue.head = (k.thread r).queue.tail →
    ∀ i < msgQueueMax, (k.thread r).queue.message i = none

-- The unread messages stand in posting order in one window that ends at the
-- tail, and together with the returned ones they are the accepted ones.
def InOrder (events : List Event) (q : MsgQueue) : Prop :=
  q.Kept ∧ ∃ start unread, Ring.Window msgQueueMax q.ring start unread ∧ accepted events = returned events ++ unread

theorem inOrder_step (ordered : InOrder events (k.thread r).queue) (step : FifoStep r k event k') :
    InOrder (events ++ [event]) (k'.thread r).queue := by
  obtain ⟨kept,start,unread,window,same⟩ := ordered
  have tracked := queueStep_tracks kept step.step
  refine ⟨tracked.kept,?_⟩
  have moves := tracked.moves
  rw [accepted_snoc,returned_snoc]
  generalize (k'.thread r).queue.ring = b' at moves
  cases moves with
  | accepted low =>
      rename_i p
      have clear : (k.thread r).queue.ring.head = (k.thread r).queue.ring.tail → unread = [] := by
        intro equal
        rw [← window.clear_iff]
        intro j valid
        simp [MsgQueue.ring,step.apart p _ rfl equal j valid]
      have shown : p.visible = some p := by simp [Post.visible,step.positive p _ rfl]
      obtain ⟨start',longer⟩ := window.extend (x := p) clear
      rw [shown]
      exact ⟨start',unread ++ [p],longer,by rw [same]; simp [accepted,returned]⟩
  | got found =>
      rcases window.advance with ⟨x,rest,rfl,here,shorter⟩ | ⟨clear,_⟩
      · rw [found] at here
        cases here
        exact ⟨_,rest,shorter,by simpa [accepted,returned] using same⟩
      · rw [found] at clear
        cases clear
  | missed clear =>
      rcases window.advance with ⟨x,rest,_,here,_⟩ | ⟨_,still⟩
      · rw [clear] at here
        cases here
      · exact ⟨start,unread,still,by simpa [accepted,returned] using same⟩
  | jumped | returned | skipped | rewound => exact absurd rfl (step.plain _)
  | quiet => exact ⟨start,unread,window,by simpa [accepted,returned] using same⟩

theorem reached_inOrder (start : (k.thread r).queue = MsgQueue.built)
    (path : Runs.Path (FifoStep r) k events k') : InOrder events (k'.thread r).queue := by
  refine Runs.Path.history (fun events k => InOrder events (k.thread r).queue) ?_ path ?_
  · intro events s event t ordered step
    exact inOrder_step ordered step
  · rw [start]
    exact ⟨built_kept,0,[],built_ring ▸ Ring.window_empty (by decide),rfl⟩

theorem overtaking_post (kept : (k.thread r).queue.Kept) (step : QueueStep r k (.accepted p slot) k')
    (positive : 0 < p.code) (meet : (k.thread r).queue.head = (k.thread r).queue.tail) (reader : Reader r k')
    (buffer : ubuf ≠ 0) : ∃ d k'', sysGetMessage ubuf k' = .ok (some d,k'') ∧ d.post = p := by
  have tracked := queueStep_tracks kept step
  obtain ⟨result,k'',called,_⟩ := sysGetMessage_returns reader buffer
  obtain ⟨_,obtained,_⟩ := get_poll reader tracked.kept called
  have moves := tracked.moves
  generalize ring : (k'.thread r).queue.ring = b' at moves obtained
  cases moves with
  | accepted low =>
      have front : (Ring.write msgQueueMax (k.thread r).queue.ring p.visible).cell
          (Ring.write msgQueueMax (k.thread r).queue.ring p.visible).head = some p := by
        simp [Ring.write,MsgQueue.ring,meet,Post.visible,positive]
      rw [front] at obtained
      cases result with
      | none => cases obtained
      | some d => exact ⟨d,k'',called,List.singleton_inj.mp obtained⟩

-- Delivery in posting order, as long as no post is made while the cursors are
-- equal and a message is unread; after such a post the newest message comes
-- out before the older ones.
theorem fifo_unless_cursors_meet (start : (k.thread r).queue = MsgQueue.built)
    (path : Runs.Path (FifoStep r) k events k') :
    ∃ first unread, Ring.Window msgQueueMax (k'.thread r).queue.ring first unread ∧
      accepted events = returned events ++ unread ∧
      ∀ p slot k₁ ubuf, QueueStep r k' (.accepted p slot) k₁ → 0 < p.code →
        (k'.thread r).queue.head = (k'.thread r).queue.tail → unread ≠ [] → Reader r k₁ → ubuf ≠ 0 →
        ∃ d k₂, sysGetMessage ubuf k₁ = .ok (some d,k₂) ∧ d.post = p := by
  obtain ⟨kept,first,unread,window,same⟩ := reached_inOrder start path
  refine ⟨first,unread,window,same,?_⟩
  intro p slot k₁ ubuf step positive meet _ reader buffer
  exact overtaking_post kept step positive meet reader buffer

theorem fifo_one_message : Runs.Path (FifoStep 0) bootKernel onceEvents onceRead ∧
    ∃ first unread, Ring.Window msgQueueMax (onceRead.thread 0).queue.ring first unread ∧
      accepted onceEvents = returned onceEvents ++ unread := by
  have first : FifoStep 0 bootKernel (.accepted firstPost 0) oncePosted := by
    refine ⟨⟨once_posted,by simp,?_⟩,?_⟩
    · intro p slot equal
      obtain ⟨rfl,rfl⟩ := equal
      decide
    · intro p slot _ _ i inside
      simp [bootKernel,Thread.created,MsgQueue.message,MsgQueue.built,inside,Option.filter]
  have second : FifoStep 0 oncePosted (.got firstPost 0) onceRead := ⟨⟨once_read,by simp,by simp⟩,by simp⟩
  have path : Runs.Path (FifoStep 0) bootKernel onceEvents onceRead :=
    .step (.step .nil first) second
  obtain ⟨start,unread,window,same,_⟩ := fifo_unless_cursors_meet rfl path
  exact ⟨path,start,unread,window,same⟩

-- After one empty poll the reader stands one slot ahead, and the second of
-- two messages comes out first.
def secondPost : Post := ⟨8,0,0,0,0,0,0⟩
def polledEmpty : Kernel := afterCall (sysGetMessage 1 bootKernel)
def polledThenPosted : Kernel := afterCall (ipcPostMessageToTid 0 0 7 0 0 polledEmpty)
def polledThenTwo : Kernel := afterCall (ipcPostMessageToTid 0 0 8 0 0 polledThenPosted)
def newestRead : Kernel := afterCall (sysGetMessage 1 polledThenTwo)

def newestFirst : List Event := [.missed,.accepted firstPost 0,.accepted secondPost 1,.got secondPost 1]

theorem newest_comes_first : Runs.Path (PlainStep 0) bootKernel newestFirst newestRead ∧
    (accepted newestFirst).length ≤ msgQueueMax ∧ ¬ ∃ unread, accepted newestFirst = returned newestFirst ++ unread := by
  have missed : QueueStep 0 bootKernel .missed polledEmpty := by
    have call : sysGetMessage 1 bootKernel = .ok (none,polledEmpty) := afterCall_ok (by decide +kernel)
    exact .get call
  have first : QueueStep 0 polledEmpty (.accepted firstPost 0) polledThenPosted := by
    have call : ipcPostMessageToTid 0 0 7 0 0 polledEmpty = .ok (0,polledThenPosted) := afterCall_ok (by decide +kernel)
    exact .post call
  have second : QueueStep 0 polledThenPosted (.accepted secondPost 1) polledThenTwo := by
    have call : ipcPostMessageToTid 0 0 8 0 0 polledThenPosted = .ok (0,polledThenTwo) := afterCall_ok (by decide +kernel)
    exact .post call
  have read : QueueStep 0 polledThenTwo (.got secondPost 1) newestRead := by
    have call : sysGetMessage 1 polledThenTwo = .ok (some ⟨0,8,0,0,0,0,0,0,0,0⟩,newestRead) :=
      afterCall_ok (by decide +kernel)
    exact .get call
  have path : Runs.Path (PlainStep 0) bootKernel newestFirst newestRead := by
    refine .step (.step (.step (.step .nil ⟨missed,by simp,by simp⟩) ⟨first,by simp,?_⟩) ⟨second,by simp,?_⟩)
      ⟨read,by simp,by simp⟩
    · intro p slot equal
      obtain ⟨rfl,rfl⟩ := equal
      decide
    · intro p slot equal
      obtain ⟨rfl,rfl⟩ := equal
      decide
  refine ⟨path,by decide,?_⟩
  intro ordered
  obtain ⟨unread,same⟩ := ordered
  have heads : some firstPost = some secondPost := congrArg List.head? same
  revert heads
  decide

end GramadoKernel
