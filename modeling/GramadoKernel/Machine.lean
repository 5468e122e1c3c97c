import GramadoKernel.Ipc
import GramadoKernel.Tick

namespace GramadoKernel

-- The calls of schedi.c on one thread.
inductive Request where
  | sleep (tid : Int) (ms : UInt64)
  | yield (tid : Int)
  | wakeup (tid : Int)
  | blocked (tid : Int)
  | waiting (tid : Int) (ms : UInt64)
  | zombie (tid : Int)
  deriving DecidableEq

def Request.tid : Request → Int
  | .sleep tid _ => tid
  | .yield tid => tid
  | .wakeup tid => tid
  | .blocked tid => tid
  | .waiting tid _ => tid
  | .zombie tid => tid

def perform : Request → Kernel → Kernel
  | .sleep tid ms => sleep tid ms
  | .yield tid => yield tid
  | .wakeup tid => wakeupThread tid
  | .blocked tid => doThreadBlocked tid
  | .waiting tid ms => doThreadWaiting tid ms
  | .zombie tid => doThreadZombie tid

def Request.change (jiffies : UInt64) : Request → Thread → Thread
  | .sleep _ ms,t => {t with sleepInProgress := true,desiredSleepMs := ms}
  | .yield _,t => {t with yieldInProgress := true}
  | .wakeup _,t => if wakeupAllows t then {t with state := .ready,readyJiffy := jiffies} else t
  | .blocked _,t => {t with state := .blocked,blockedJiffy := jiffies}
  | .waiting _ ms,t => {t with state := .waiting,waitingJiffy := jiffies,wakeJiffy := jiffies+sleepTicks ms}
  | .zombie tid,t => if tid = initTid then t else {t with state := .zombie,zombieJiffy := jiffies}

theorem wakeupThread_thread (tid : Int) (k : Kernel) (i : Nat) : (wakeupThread tid k).thread i =
    if k.lookup tid = some i ∧ (k.thread i).Valid then (Request.wakeup tid).change k.jiffies (k.thread i)
    else k.thread i := by
  unfold wakeupThread
  simp only [Request.change]
  split
  · rename_i missing
    simp [missing]
  · rename_i p found
    by_cases same : p = i
    · subst p
      by_cases valid : (k.thread i).Valid
      · by_cases allowed : wakeupAllows (k.thread i)
        · simp [valid,allowed,doThreadReady_thread,found]
        · simp [valid,allowed]
      · simp [valid]
    · have unlike : ¬ (k.lookup tid = some i ∧ (k.thread i).Valid) := by simp [found,same]
      rw [if_neg unlike]
      split
      · split
        · rw [doThreadReady_thread,if_neg unlike]
        · rfl
      · rfl

theorem perform_thread (request : Request) (k : Kernel) (i : Nat) : (perform request k).thread i =
    if k.lookup request.tid = some i ∧ (k.thread i).Valid then request.change k.jiffies (k.thread i) else k.thread i := by
  cases request with
  | sleep | yield | blocked | waiting => exact onThread_thread _ _ _ _ _
  | wakeup tid =>
      exact wakeupThread_thread tid k i
  | zombie tid =>
      simp only [perform,doThreadZombie,Request.tid,Request.change]
      split
      · simp
      · exact onThread_thread _ _ _ _ _

theorem onThread_responder (k : Kernel) (tid : Int) (f : Thread → Thread) (keeps : ∀ t, (f t).tid = t.tid) :
    (k.onThread tid f keeps).evResponderThread = k.evResponderThread := by
  unfold Kernel.onThread
  split
  · rfl
  · split <;> rfl

theorem perform_globals (request : Request) (k : Kernel) : SameGlobals k (perform request k) := by
  cases request with
  | sleep | yield | blocked | waiting => exact onThread_globals _ _ _ _
  | wakeup tid =>
      simp only [perform,wakeupThread]
      repeat' split
      all_goals first | exact doThreadReady_globals tid k | exact .refl k
  | zombie tid =>
      simp only [perform,doThreadZombie]
      split
      · exact .refl k
      · exact onThread_globals _ _ _ _

theorem perform_responder (request : Request) (k : Kernel) :
    (perform request k).evResponderThread = k.evResponderThread := by
  cases request with
  | sleep | yield | blocked | waiting => exact onThread_responder _ _ _ _
  | wakeup tid =>
      simp only [perform,wakeupThread]
      repeat' split
      all_goals first | exact doThreadReady_responder tid k | rfl
  | zombie tid =>
      simp only [perform,doThreadZombie]
      split
      · rfl
      · exact onThread_responder _ _ _ _

inductive Mail where
  | tid2 (sender receiver msg : Int) (long1 long2 long3 long4 : UInt64)
  | tid (sender receiver msg : Int) (long1 long2 : UInt64)
  | broadcast (sender msg : Int) (long1 long2 long3 long4 : UInt64)
  deriving DecidableEq

def Sends (k : Kernel) (mail : Mail) (k' : Kernel) : Prop :=
  match mail with
  | .tid2 sender receiver msg long1 long2 long3 long4 =>
      ∃ rv, ipcPostMessageToTid2 sender receiver msg long1 long2 long3 long4 k = .ok (rv,k')
  | .tid sender receiver msg long1 long2 => ∃ rv, ipcPostMessageToTid sender receiver msg long1 long2 k = .ok (rv,k')
  | .broadcast sender msg long1 long2 long3 long4 =>
      ∃ count, ipcBroadcastSystemMessage sender msg long1 long2 long3 long4 k = .ok (count,k')

def Mail.Reaches (k : Kernel) (mail : Mail) (i : Nat) : Prop :=
  match mail with
  | .tid2 _ receiver msg _ _ _ _ => 0 ≤ cInt msg ∧ k.lookup (low16 receiver) = some i
  | .tid _ receiver msg _ _ => 0 < cInt msg ∧ k.lookup (low16 receiver) = some i
  | .broadcast _ msg _ _ _ _ => 0 ≤ cInt msg ∧ i < threadCountMax ∧ k.listed i = true ∧ (k.thread i).magic = 1234

structure Mailed (Reached : Nat → Prop) (k k' : Kernel) : Prop where
  globals : SameGlobals k k'
  valid : ∀ i, Reached i → (k.thread i).Valid
  responder : k'.evResponderThread = k.evResponderThread ∨ ∃ e, Reached e ∧ k'.evResponderThread = some e
  reached : ∀ i, Reached i → ∃ q, k'.thread i =
    {(if k.gUseEventResponder = true then (k.thread i).notified else k.thread i) with queue := q,isResponder := true}
  others : ∀ i, ¬ Reached i → k'.thread i = k.thread i

theorem mailed_nobody (nobody : ∀ i, ¬ Reached i) (k : Kernel) : Mailed Reached k k :=
  ⟨.refl k,fun i reached => absurd reached (nobody i),.inl rfl,fun i reached => absurd reached (nobody i),fun _ _ => rfl⟩

theorem Posted.mailed (posted : Posted p k k') : Mailed (fun i => i = p) k k' := by
  refine ⟨posted.globals,?_,?_,?_,posted.others⟩
  · intro i same
    subst same
    exact posted.valid
  · rw [posted.responder]
    split
    · exact .inr ⟨p,rfl,rfl⟩
    · exact .inl rfl
  · intro i same
    subst same
    exact posted.target

theorem Mailed.congr (mailed : Mailed Reached k k') (same : ∀ i, Reached' i ↔ Reached i) : Mailed Reached' k k' := by
  obtain rfl : Reached' = Reached := funext fun i => propext (same i)
  exact mailed

theorem Mailed.trans (first : Mailed Early k k₁) (second : Mailed Late k₁ k₂) (apart : ∀ i, Early i → ¬ Late i) :
    Mailed (fun i => Early i ∨ Late i) k k₂ := by
  refine ⟨first.globals.trans second.globals,?_,?_,?_,?_⟩
  · intro i reached
    rcases reached with early | late
    · exact first.valid i early
    · rw [← first.others i (fun early => apart i early late)]
      exact second.valid i late
  · rcases second.responder with same | ⟨e,late,new⟩
    · rw [same]
      rcases first.responder with old | ⟨e,early,new⟩
      · exact .inl old
      · exact .inr ⟨e,.inl early,new⟩
    · exact .inr ⟨e,.inr late,new⟩
  · intro i reached
    rcases reached with early | late
    · rw [second.others i (apart i early)]
      exact first.reached i early
    · have target := second.reached i late
      rwa [first.others i (fun early => apart i early late),first.globals.gUseEventResponder] at target
  · intro i neither
    rw [second.others i (fun late => neither (.inr late)),first.others i (fun early => neither (.inl early))]

theorem post2_mailed (called : ipcPostMessageToTid2 sender receiver msg long1 long2 long3 long4 k = .ok (rv,k')) :
    Mailed (fun i => 0 ≤ cInt msg ∧ k.lookup (low16 receiver) = some i) k k' := by
  unfold ipcPostMessageToTid2 at called
  split at called
  · cases called
    exact mailed_nobody (fun i reached => by omega) k
  · obtain ⟨_,p,found,posted⟩ := postMessage_posted called
    apply posted.mailed.congr
    intro i
    rw [found]
    simp only [Option.some.injEq,eq_comm (a := p)]
    constructor
    · exact fun both => both.2
    · exact fun same => ⟨by omega,same⟩

theorem post_mailed (called : ipcPostMessageToTid sender receiver msg long1 long2 k = .ok (rv,k')) :
    Mailed (fun i => 0 < cInt msg ∧ k.lookup (low16 receiver) = some i) k k' := by
  unfold ipcPostMessageToTid at called
  split at called
  · cases called
    exact mailed_nobody (fun i reached => by omega) k
  · obtain ⟨_,p,found,posted⟩ := postMessage_posted called
    apply posted.mailed.congr
    intro i
    rw [found]
    simp only [Option.some.injEq,eq_comm (a := p)]
    constructor
    · exact fun both => both.2
    · exact fun same => ⟨by omega,same⟩

theorem broadcastTo_mailed (below : i < threadCountMax)
    (sent : broadcastTo sender msg long1 long2 long3 long4 i counter k = .ok (counter',k')) :
    Mailed (fun j => 0 ≤ cInt msg ∧ j = i ∧ k.listed j = true ∧ (k.thread j).magic = 1234) k k' := by
  unfold broadcastTo at sent
  split at sent
  · rename_i present
    simp only [bind_ok,Except.ok.injEq,Prod.mk.injEq,Prod.exists] at sent
    obtain ⟨rv,after,posted,_,rfl⟩ := sent
    rw [k.tids i present.1] at posted
    apply (post2_mailed posted).congr
    intro j
    rw [low16_slot below,lookup_some]
    constructor
    · intro reached
      obtain ⟨code,rfl,listed,_⟩ := reached
      exact ⟨code,rfl,below,listed⟩
    · intro reached
      obtain ⟨code,same,_,listed⟩ := reached
      obtain rfl : i = j := by omega
      exact ⟨code,rfl,present⟩
  · rename_i absent
    cases sent
    apply mailed_nobody
    intro j reached
    obtain ⟨_,rfl,both⟩ := reached
    exact absent both

theorem broadcastLoop_mailed (items : List Nat) (nodup : items.Nodup) (inside : ∀ i ∈ items, i < threadCountMax)
    (sent : broadcastLoop sender msg long1 long2 long3 long4 items counter k = .ok (counter',k')) :
    Mailed (fun j => 0 ≤ cInt msg ∧ j ∈ items ∧ k.listed j = true ∧ (k.thread j).magic = 1234) k k' := by
  induction items generalizing k counter with
  | nil =>
      cases sent
      exact mailed_nobody (by simp) _
  | cons i rest ih =>
      simp only [broadcastLoop,bind_ok,Prod.exists] at sent
      obtain ⟨middle,k₁,first,later⟩ := sent
      obtain ⟨fresh,distinct⟩ := List.nodup_cons.mp nodup
      have here := broadcastTo_mailed (inside i (by simp)) first
      have there := ih distinct (fun j present => inside j (by simp [present])) later
      have apart : ∀ j, 0 ≤ cInt msg ∧ j = i ∧ k.listed j = true ∧ (k.thread j).magic = 1234 →
          ¬ (0 ≤ cInt msg ∧ j ∈ rest ∧ k₁.listed j = true ∧ (k₁.thread j).magic = 1234) := by
        rintro j ⟨_,rfl,_,_⟩ ⟨_,present,_,_⟩
        exact fresh present
      apply (here.trans there apart).congr
      intro j
      rw [here.globals.listed]
      by_cases same : j = i
      · subst j
        simp [fresh]
      · rw [here.others j (fun reached => same reached.2.1)]
        simp [same]

theorem sends_mailed (sent : Sends k mail k') : Mailed (mail.Reaches k) k k' := by
  cases mail with
  | tid2 sender receiver msg long1 long2 long3 long4 =>
      obtain ⟨rv,called⟩ := sent
      exact post2_mailed called
  | tid sender receiver msg long1 long2 =>
      obtain ⟨rv,called⟩ := sent
      exact post_mailed called
  | broadcast sender msg long1 long2 long3 long4 =>
      obtain ⟨count,called⟩ := sent
      simp only [ipcBroadcastSystemMessage,bind_ok,Prod.exists,Except.ok.injEq,Prod.mk.injEq] at called
      obtain ⟨counter,after,looped,_,rfl⟩ := called
      apply (broadcastLoop_mailed _ List.nodup_range (by simp) looped).congr
      intro i
      simp [Mail.Reaches]

-- The thread that the next timer interrupt has a message for.
def Rings (k : Kernel) (i : Nat) : Prop :=
  k.systemState = .running ∧ (k.jiffies+1) % jiffyFreq = 0 ∧ k.displayServerInitialized = true ∧
    k.lookup k.displayServerTid = some i

-- What credits, wakeup_thread and a message may do to a thread.
structure Roused (t t' : Thread) : Prop where
  valid : t'.Valid ↔ t.Valid
  state : t'.state = t.state ∨ t'.state = .ready
  wakeJiffy : t'.wakeJiffy = t.wakeJiffy
  exitInProgress : t'.exitInProgress = t.exitInProgress

theorem Roused.refl (t : Thread) : Roused t t := ⟨Iff.rfl,.inl rfl,rfl,rfl⟩

theorem Roused.trans (left : Roused a b) (right : Roused b c) : Roused a c := by
  refine ⟨right.valid.trans left.valid,?_,right.wakeJiffy.trans left.wakeJiffy,right.exitInProgress.trans left.exitInProgress⟩
  rcases right.state with same | ready
  · rw [same]
    exact left.state
  · exact .inr ready

theorem Alike.roused (alike : Alike t t') : Roused t t' :=
  ⟨alike.valid,.inl alike.state,alike.wakeJiffy,alike.exitInProgress⟩

theorem doCreditsByTid_roused (tid : Int) (k : Kernel) (i : Nat) : Roused (k.thread i) ((doCreditsByTid tid k).thread i) := by
  unfold doCreditsByTid
  rw [onThread_thread]
  split
  · exact ⟨Iff.rfl,.inl rfl,rfl,rfl⟩
  · exact .refl _

theorem wakeupThread_roused (tid : Int) (k : Kernel) (i : Nat) : Roused (k.thread i) ((wakeupThread tid k).thread i) := by
  rw [wakeupThread_thread]
  simp only [Request.change]
  repeat' split
  all_goals first | exact ⟨Iff.rfl,.inr rfl,rfl,rfl⟩ | exact .refl _

theorem Mailed.roused (mailed : Mailed Reached k k') (i : Nat) : Roused (k.thread i) (k'.thread i) := by
  by_cases reached : Reached i
  · obtain ⟨q,target⟩ := mailed.reached i reached
    rw [target]
    split
    · exact ⟨Iff.rfl,.inr rfl,rfl,rfl⟩
    · exact ⟨Iff.rfl,.inl rfl,rfl,rfl⟩
  · rw [mailed.others i reached]
    exact .refl _

-- The tick of the clock: one jiffy, and what its message does to the thread of
-- the display server.
structure Clocked (k k' : Kernel) : Prop where
  globals : SameGlobals {k with jiffies := k.jiffies+1} k'
  responder : k'.evResponderThread = k.evResponderThread ∨ ∃ e, Rings k e ∧ k'.evResponderThread = some e
  others : ∀ i, ¬ Rings k i → k'.thread i = k.thread i
  roused : ∀ i, Roused (k.thread i) (k'.thread i)

-- The thread of the display server before the message is posted.
def summoned (tid : Int) (k : Kernel) : Kernel := wakeupThread tid (doCreditsByTid tid (doCreditsByTid tid k))

theorem wakeupThread_globals (tid : Int) (k : Kernel) : SameGlobals k (wakeupThread tid k) := perform_globals (.wakeup tid) k

theorem doCreditsByTid_globals (tid : Int) (k : Kernel) : SameGlobals k (doCreditsByTid tid k) := onThread_globals _ _ _ _

theorem doCreditsByTid_other (other : k.lookup tid ≠ some i) : (doCreditsByTid tid k).thread i = k.thread i := by
  unfold doCreditsByTid
  rw [onThread_thread,if_neg (fun both => other both.1)]

theorem doCreditsByTid_lookup (tid other : Int) (k : Kernel) : (doCreditsByTid tid k).lookup other = k.lookup other :=
  lookup_congr (doCreditsByTid_globals tid k).listed other

theorem summoned_globals (tid : Int) (k : Kernel) : SameGlobals k (summoned tid k) :=
  (doCreditsByTid_globals _ _).trans ((doCreditsByTid_globals _ _).trans (wakeupThread_globals _ _))

theorem summoned_responder (tid : Int) (k : Kernel) : (summoned tid k).evResponderThread = k.evResponderThread :=
  (perform_responder (.wakeup tid) _).trans ((onThread_responder _ _ _ _).trans (onThread_responder _ _ _ _))

theorem summoned_other (other : k.lookup tid ≠ some i) : (summoned tid k).thread i = k.thread i := by
  have once : (doCreditsByTid tid k).lookup tid ≠ some i := by rwa [doCreditsByTid_lookup]
  have twice : (doCreditsByTid tid (doCreditsByTid tid k)).lookup tid ≠ some i := by rwa [doCreditsByTid_lookup]
  unfold summoned
  rw [wakeupThread_thread,if_neg (fun both => twice both.1),doCreditsByTid_other once,doCreditsByTid_other other]

theorem summoned_roused (tid : Int) (k : Kernel) (i : Nat) : Roused (k.thread i) ((summoned tid k).thread i) :=
  (doCreditsByTid_roused tid k i).trans ((doCreditsByTid_roused tid _ i).trans (wakeupThread_roused tid _ i))

theorem ipcPostMessageToDs_parts (called : ipcPostMessageToDs msg long1 long2 k = .ok (rv,k')) :
    k' = k ∨ (k.displayServerInitialized = true ∧ ∃ Reached : Nat → Prop, (∀ i, Reached i → k.lookup k.displayServerTid = some i) ∧
      Mailed Reached (summoned k.displayServerTid k) k') := by
  unfold ipcPostMessageToDs at called
  split at called
  · cases called
    exact .inl rfl
  rename_i server
  split at called
  · cases called
    exact .inl rfl
  rename_i range
  have valid := not_not.mp range
  refine .inr ⟨not_not.mp server,?_⟩
  simp only [] at called
  split at called
  · cases called
    exact ⟨fun _ => False,fun _ reached => reached.elim,mailed_nobody (fun _ reached => reached) _⟩
  · simp only [bind_ok,Prod.exists,Except.ok.injEq,Prod.mk.injEq] at called
    obtain ⟨_,_,posted,_,rfl⟩ := called
    refine ⟨_,?_,post_mailed posted⟩
    intro i reached
    have found := low16_tid reached.2 valid.1 valid.2
    rwa [lookup_congr (summoned_globals k.displayServerTid k).listed] at found

theorem clocked_quiet (k : Kernel) : Clocked k {k with jiffies := k.jiffies+1} :=
  ⟨.refl _,.inl rfl,fun _ _ => rfl,fun i => .refl (k.thread i)⟩

theorem Clocked.lookup (clocked : Clocked k k') (tid : Int) : k'.lookup tid = k.lookup tid :=
  lookup_congr clocked.globals.listed tid

-- Only the thread it has a message for can be pending because of it.
theorem Clocked.pending (clocked : Clocked k k') (silent : ¬ Rings k t) (pending : PendingResponder k' t) :
    PendingResponder k t := by
  obtain ⟨use,event,raised⟩ := pending
  rw [clocked.others t silent] at raised
  rcases clocked.responder with same | ⟨e,rings,new⟩
  · exact ⟨clocked.globals.gUseEventResponder.symm.trans use,same.symm.trans event,raised⟩
  · obtain rfl : e = t := Option.some.inj (new.symm.trans event)
    exact absurd rings silent

theorem wmTimerEvent_clocked (called : wmTimerEvent 1234 {k with jiffies := k.jiffies+1} = .ok (rv,k')) : Clocked k k' := by
  unfold wmTimerEvent at called
  split at called
  · cases called
    exact clocked_quiet k
  rename_i running
  split at called
  · cases called
    exact clocked_quiet k
  split at called
  · rename_i second
    simp only [bind_ok,Prod.exists,Except.ok.injEq,Prod.mk.injEq] at called
    obtain ⟨_,_,posted,_,rfl⟩ := called
    rcases ipcPostMessageToDs_parts posted with rfl | ⟨server,Reached,named,mailed⟩
    · exact clocked_quiet k
    · have rings : ∀ i, k.lookup k.displayServerTid = some i → Rings k i := fun i found =>
        ⟨not_not.mp running,second,server,found⟩
      refine ⟨(summoned_globals _ _).trans mailed.globals,?_,?_,?_⟩
      · rcases mailed.responder with same | ⟨e,reached,new⟩
        · exact .inl (same.trans (summoned_responder _ _))
        · exact .inr ⟨e,rings e (named e reached),new⟩
      · intro i silent
        have other : k.lookup k.displayServerTid ≠ some i := fun found => silent (rings i found)
        rw [mailed.others i (fun reached => other (named i reached))]
        exact summoned_other other
      · intro i
        exact (summoned_roused _ {k with jiffies := k.jiffies+1} i).trans (mailed.roused i)
  · cases called
    exact clocked_quiet k

-- A timer interrupt is one tick of the clock and what follows it.
theorem irq0Timer_parts (called : irq0Timer frame cpl callback tmp fuel k = .ok (some (switch,k'))) :
    ∃ k₁, Clocked k k₁ ∧ Tick tmp k₁ switch k' := by
  obtain ⟨rv,k₁,event,tick⟩ := irq0Timer_tick called
  exact ⟨k₁,wmTimerEvent_clocked event,tick⟩

inductive Action where
  | request (request : Request)
  | mail (mail : Mail)
  | tick (callback : Bool) (tmp : Nat → Int) (switch : Switch)

inductive Acts : Kernel → Action → Kernel → Prop where
  | request (request : Request) (k : Kernel) : Acts k (.request request) (perform request k)
  | mail : Sends k mail k' → Acts k (.mail mail) k'
  | tick : irq0Timer frame cpl callback tmp fuel k = .ok (some (switch,k')) → Acts k (.tick callback tmp switch) k'

-- The same machine with the selection cycle taken apart, so that the single
-- rounds built inside one interrupt can be told from each other.
inductive Phase where
  | outside | selecting
  deriving DecidableEq

inductive Stage where
  | request (request : Request)
  | mail (mail : Mail)
  | clock
  | kept
  | spawned (thread : Nat)
  | ended
  | turn (turn : Turn)
  | dispatched (thread : Nat)
  deriving DecidableEq

inductive Step : Kernel × Phase → Stage → Kernel × Phase → Prop where
  | request (request : Request) (k : Kernel) : Step (k,.outside) (.request request) (perform request k,.outside)
  | mail : Sends k mail k' → Step (k,.outside) (.mail mail) (k',.outside)
  | clock : Clocked k k' → Step (k,.outside) .clock (k',.outside)
  | kept : Tick tmp k .same k' → Step (k,.outside) .kept (k',.outside)
  | spawned : Ended p k k₁ → Spawned q k₁ k' → Step (k,.outside) (.spawned q) (k',.outside)
  | ended : Ended p k k' → Step (k,.outside) .ended (k',.selecting)
  | turn : Move tmp k turn k' → Step (k,.selecting) (.turn turn) (k',.selecting)
  | dispatched : Dispatched q {k with currentThread := (q : Nat)} k' → Step (k,.selecting) (.dispatched q) (k',.outside)

theorem moves_steps (moves : Runs.Path (Move tmp) k turns k') :
    Runs.Path Step (k,.selecting) (turns.map .turn) (k',.selecting) := by
  induction moves with
  | nil => exact .nil
  | step earlier last ih =>
      rw [List.map_append]
      exact .step ih (.turn last)

-- Every action is a run of the small steps.
theorem acts_steps (acts : Acts k action k') : ∃ events, Runs.Path Step (k,.outside) events (k',.outside) := by
  cases acts with
  | request request => exact ⟨_,.step .nil (.request request k)⟩
  | mail sent => exact ⟨_,.step .nil (.mail sent)⟩
  | tick called =>
      obtain ⟨k₁,clocked,tick⟩ := irq0Timer_parts called
      cases switched : tick with
      | callback | locked | within => exact ⟨_,.cons (.clock clocked) (.step .nil (.kept tick))⟩
      | spawn ended spawned => exact ⟨_,.cons (.clock clocked) (.step .nil (.spawned ended spawned))⟩
      | dispatch ended nobody moves dispatched =>
          exact ⟨_,.cons (.clock clocked) (.cons (.ended ended) ((moves_steps moves).step (.dispatched dispatched)))⟩

theorem runs_steps (path : Runs.Path Acts k actions k') : ∃ events, Runs.Path Step (k,.outside) events (k',.outside) := by
  induction path with
  | nil => exact ⟨_,.nil⟩
  | step earlier last ih =>
      obtain ⟨before,first⟩ := ih
      obtain ⟨after,rest⟩ := acts_steps last
      exact ⟨_,first.append rest⟩

end GramadoKernel
