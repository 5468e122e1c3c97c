import GramadoKernel.Creation
import GramadoKernel.Switching

namespace GramadoKernel

def Thread.Due (jiffies : UInt64) (t : Thread) : Prop :=
  t.Valid ∧ t.exitInProgress = false ∧ (t.state = .ready ∨ (t.state = .waiting ∧ t.wakeJiffy ≤ jiffies))

theorem staying (valid : Thread.Valid t) (stays : ¬ (t.Exiting ∧ plain)) (ordinary : plain) : t.exitInProgress = false := by
  by_contra exits
  exact stays ⟨⟨valid.2,by simpa using exits⟩,ordinary⟩

theorem Visit.joins_iff (visit : Visit jiffies plain t t' joins) (ordinary : plain) : joins = true ↔ t.Due jiffies := by
  unfold Thread.Due
  cases visit with
  | exits exiting => simp [exiting.2]
  | sleeps _ waits early =>
      have late : ¬ t.wakeJiffy ≤ jiffies := by rwa [UInt64.not_le]
      simp [waits.2,late]
  | reaped _ _ zombie => simp [zombie]
  | wakes stays waits late => simp [waits.1,waits.2,late,staying waits.1 stays ordinary]
  | runs stays valid ready => simp [valid,ready,staying valid stays ordinary]
  | passed stays awake other =>
      simp only [Bool.false_eq_true,false_iff]
      intro due
      rcases due with ⟨valid,_,ready | ⟨waiting,_⟩⟩
      · exact other ⟨valid,.inr ready⟩
      · exact awake ⟨valid,waiting⟩

theorem Visit.due_iff (visit : Visit jiffies plain t t' joins) (ordinary : plain) : t'.Due jiffies ↔ t.Due jiffies := by
  have joins := visit.joins_iff ordinary
  cases visit with
  | exits exiting =>
      constructor
      · exact fun due => absurd (exiting.2.symm.trans due.2.1) (by decide)
      · exact fun due => absurd (exiting.2.symm.trans due.2.1) (by decide)
  | sleeps => exact Iff.rfl
  | reaped _ _ zombie =>
      constructor
      · intro due
        cases due.1.1
      · exact fun due => absurd (joins.mpr due) (by decide)
  | wakes stays waits late =>
      constructor
      · exact fun _ => joins.mp rfl
      · exact fun due => ⟨⟨due.1.1,due.1.2⟩,due.2.1,.inl rfl⟩
  | runs stays valid ready =>
      constructor
      · exact fun _ => joins.mp rfl
      · exact fun due => ⟨⟨due.1.1,due.1.2⟩,due.2.1,.inl ready⟩
  | passed => exact Iff.rfl

theorem Visit.joined_ready (visit : Visit jiffies plain t t' true) : t'.Valid ∧ t'.state = .ready := by
  cases visit with
  | wakes _ waits => exact ⟨⟨waits.1.1,waits.1.2⟩,rfl⟩
  | runs _ valid ready => exact ⟨⟨valid.1,valid.2⟩,ready⟩

-- A thread that do_thread_ready can bring into the round.
def Nameable (k : Kernel) (i : Nat) : Prop := (k.thread i).Valid ∧ (i = 0 ∨ (k.thread i).exitInProgress = false)

theorem openedThread_due (tmpTid : Int) (idle : Nat) (ordinary : j ≠ 0) : (openedThread tmpTid idle k j).Due jiffies ↔
    (k.thread j).Due jiffies ∨ (k.lookup tmpTid = some j ∧ Nameable k j) := by
  have lasting := openedThread_lasting tmpTid idle k j
  unfold Thread.Due Nameable
  rw [openedThread_valid,lasting.exitInProgress,lasting.wakeJiffy,openedThread_state]
  by_cases valid : (k.thread j).Valid
  · by_cases named : k.lookup tmpTid = some j
    · simp only [valid,named,true_and,if_true,ordinary,false_or]
      constructor
      · exact fun due => .inr due.1
      · intro either
        rcases either with ⟨stays,_⟩ | stays
        · exact ⟨stays,.inl trivial⟩
        · exact ⟨stays,.inl trivial⟩
    · simp [valid,named]
  · simp [valid]

-- Some thread can be dispatched from a round built now.
def Hot (k : Kernel) : Prop :=
  (k.thread 0).state = .ready ∨ ∃ i, 0 < i ∧ i < threadCountMax ∧ k.listed i = true ∧ (k.thread i).Due k.jiffies

theorem Round.idle_state (round : Round tmpTid 0 joined k k') : (k'.thread 0).state =
    if k.lookup tmpTid = some 0 ∧ (k.thread 0).Valid then .ready else (k.thread 0).state := by
  obtain ⟨next,same⟩ := round.others 0 (by simp)
  rw [same]
  exact openedThread_state

theorem Round.due_iff (round : Round tmpTid 0 joined k k') (positive : 0 < j) (below : j < threadCountMax)
    (listed : k.listed j = true) : (k'.thread j).Due k.jiffies ↔
      (k.thread j).Due k.jiffies ∨ (k.lookup tmpTid = some j ∧ Nameable k j) := by
  obtain ⟨t,joins,next,visit,_,same⟩ := round.visited j positive below listed
  rw [same,← openedThread_due tmpTid 0 (by omega)]
  exact visit.due_iff (by omega)

-- A round makes a cold table hot only through the thread it names at its start.
theorem Round.hot_iff (round : Round tmpTid 0 joined k k') :
    Hot k' ↔ Hot k ∨ ∃ i, k.lookup tmpTid = some i ∧ Nameable k i := by
  unfold Hot
  rw [round.idle_state,show k'.jiffies = k.jiffies from round.globals.jiffies,
    show k'.listed = k.listed from round.globals.listed]
  constructor
  · intro hot
    rcases hot with idle | ⟨i,positive,below,listed,due⟩
    · split at idle
      · rename_i named
        exact .inr ⟨0,named.1,named.2,.inl rfl⟩
      · exact .inl (.inl idle)
    · rcases (round.due_iff positive below listed).mp due with before | named
      · exact .inl (.inr ⟨i,positive,below,listed,before⟩)
      · exact .inr ⟨i,named⟩
  · intro either
    rcases either with (idle | ⟨i,positive,below,listed,due⟩) | ⟨i,named,able⟩
    · left
      rw [idle,ite_self]
    · exact .inr ⟨i,positive,below,listed,(round.due_iff positive below listed).mpr (.inl due)⟩
    · obtain ⟨_,below,listed⟩ := lookup_some.mp named
      by_cases first : i = 0
      · subst i
        exact .inl (if_pos ⟨named,able.1⟩)
      · exact .inr ⟨i,by omega,below,listed,(round.due_iff (by omega) below listed).mpr (.inr ⟨named,able⟩)⟩

-- The round is at its start, and what follows Idle in it can be dispatched.
structure Settled (k : Kernel) : Prop where
  start : k.currentq = some 0
  following : ∀ n, (k.thread 0).next = some n → Eligible k n ∧ Hot k
  alone : (k.thread 0).next = none → Hot k → (k.thread 0).state = .ready

theorem Round.settled (round : Round tmpTid 0 joined k k') : Settled {k' with currentThread := 0} := by
  obtain ⟨last,segment,closed⟩ := round.segment
  have joined_due : ∀ n ∈ joined, Eligible k' n ∧ (k'.thread n).Due k'.jiffies := by
    intro n member
    obtain ⟨positive,below,listed⟩ := round.inside n member
    obtain ⟨t,joins,next,visit,iff,same⟩ := round.visited n positive below listed
    obtain rfl : joins = true := iff.mpr member
    have due := (visit.due_iff (by omega)).mpr ((visit.joins_iff (by omega)).mp rfl)
    rw [show k'.jiffies = k.jiffies from round.globals.jiffies]
    unfold Eligible
    rw [same]
    exact ⟨visit.joined_ready,due⟩
  refine ⟨round.globals.currentq,?_,?_⟩
  · intro n following
    cases joined with
    | nil =>
        obtain rfl : 0 = last := segment
        rw [closed] at following
        cases following
    | cons first rest =>
        obtain rfl : first = n := Option.some.inj (segment.1.symm.trans following)
        have both := joined_due first (by simp)
        obtain ⟨positive,below,listed⟩ := round.inside first (by simp)
        rw [← show k'.listed = k.listed from round.globals.listed] at listed
        exact ⟨both.1,.inr ⟨first,positive,below,listed,both.2⟩⟩
  · intro alone hot
    rcases hot with idle | ⟨i,positive,below,listed,due⟩
    · exact idle
    · exfalso
      rw [show k'.listed = k.listed from round.globals.listed] at listed
      obtain ⟨t,joins,next,visit,iff,same⟩ := round.visited i positive below listed
      rw [show k'.jiffies = k.jiffies from round.globals.jiffies,same] at due
      have member := iff.mp ((visit.joins_iff (by omega)).mpr ((visit.due_iff (by omega)).mp due))
      cases joined with
      | nil => cases member
      | cons first rest => cases segment.1.symm.trans alone

structure Selecting (k : Kernel) : Prop extends Booted k where
  unlocked : k.gSchedulerStatus ≠ locked
  several : k.threadsCounter ≠ 1

theorem Round.selecting (round : Round tmpTid 0 joined k k') (selecting : Selecting k) :
    Selecting {k' with currentThread := 0} := by
  have globals := round.globals
  refine ⟨⟨⟨globals.idleThread.trans selecting.idleThread,globals.initThread.trans selecting.initThread,?_,round.idle_kept,
    globals.schedulerInitialized.trans selecting.initialized,globals.schedulerPolicy.trans selecting.policy⟩,
    globals.systemState.trans selecting.systemState,?_,?_⟩,?_,?_⟩
  · exact (congrFun globals.listed 0).trans selecting.idleListed
  · exact fun none => selecting.counter (globals.threadsCounter.symm.trans none)
  · exact fun none => Option.some_ne_none 0 (globals.currentq.symm.trans none)
  · exact fun shut => selecting.unlocked (globals.gSchedulerStatus.symm.trans shut)
  · exact fun single => selecting.several (globals.threadsCounter.symm.trans single)

theorem psScheduler_round (tmpTid : Int) (selecting : Selecting k) :
    ∃ k₁ joined, psScheduler tmpTid k = .ok (0,k₁) ∧ Round tmpTid 0 joined k k₁ := by
  obtain ⟨k₁,called⟩ := scheduler_returns tmpTid selecting.toBooted
  obtain ⟨_,idle,joined,round⟩ := scheduler_parts called
  obtain rfl : idle = 0 := Option.some.inj (round.idleThread.symm.trans selecting.idleThread)
  refine ⟨k₁,joined,?_,round⟩
  simp [psScheduler,selecting.unlocked,selecting.several,selecting.counter,require,called,bind,Except.bind]

theorem zeroGravity_responds (tmpTid : Int) (counter : k.threadsCounter ≠ 0) (several : k.threadsCounter ≠ 1)
    (pending : PendingResponder k e) :
    zeroGravity tmpTid k = .ok ({k with currentq := some e}.modify e Thread.responded responded_tid) := by
  have event := hasPendingEvent_iff.mpr ⟨pending.2.2.1,pending.2.2.2⟩
  simp only [zeroGravity,require,counter,ne_eq,not_false_eq_true,if_true,bind,Except.bind,several,if_false,
    pending.2.1,pending.1,event,and_self]
  rfl

theorem zeroGravity_walks (tmpTid : Int) (counter : k.threadsCounter ≠ 0) (several : k.threadsCounter ≠ 1)
    (quiet : ∀ e, ¬ PendingResponder k e) : zeroGravity tmpTid k = zeroGravity.endOfRound tmpTid k := by
  simp only [zeroGravity,require,counter,ne_eq,not_false_eq_true,if_true,bind,Except.bind,several,if_false]
  split
  · rename_i e responder
    rw [if_neg]
    intro pending
    obtain ⟨use,event⟩ := pending
    have valid := hasPendingEvent_iff.mp event
    exact quiet e ⟨use,responder,valid.1,valid.2⟩
  · rfl

theorem endOfRound_next (tmpTid : Int) (here : k.currentq = some c) (following : (k.thread c).next = some n) :
    zeroGravity.endOfRound tmpTid k = .ok {k with currentq := some n} := by
  simp [zeroGravity.endOfRound,here,pointer,bind,Except.bind,following]

theorem endOfRound_last (here : k.currentq = some c) (last : (k.thread c).next = none)
    (called : psScheduler tmpTid k = .ok (tid,k')) :
    zeroGravity.endOfRound tmpTid k = .ok {k' with currentThread := tid} := by
  simp [zeroGravity.endOfRound,here,pointer,bind,Except.bind,last,called]

theorem goAhead_found (tmpTid : Int) (here : k.currentq = some p) (eligible : Eligible k p) :
    goAhead tmpTid k = .ok (true,{k with currentThread := (k.thread p).tid}) := by
  have both : (k.thread p).Valid ∧ (k.thread p).state = .ready := eligible
  simp [goAhead,here,both]

theorem goAhead_back (here : k.currentq = some p) (ineligible : ¬ Eligible k p)
    (called : psScheduler tmpTid k = .ok (tid,k')) : goAhead tmpTid k = .ok (false,{k' with currentThread := tid}) := by
  have neither : ¬ ((k.thread p).Valid ∧ (k.thread p).state = .ready) := ineligible
  simp [goAhead,here,neither,goAhead.retry,called,bind,Except.bind]

theorem selectThread_found (tmp : Nat → Int) (fuel : Nat) (turned : zeroGravity (tmp 0) k = .ok k₁)
    (here : k₁.currentq = some p) (eligible : Eligible k₁ p) :
    ∃ k', selectThread tmp (fuel+1) k = .ok (some k') := by
  simp [selectThread,turned,goAhead_found (tmp 1) here eligible,bind,Except.bind]

theorem selectThread_back (tmp : Nat → Int) (fuel : Nat) (turned : zeroGravity (tmp 0) k = .ok k₁)
    (back : goAhead (tmp 1) k₁ = .ok (false,k₂)) :
    selectThread tmp (fuel+1) k = selectThread (fun i => tmp (i+2)) fuel k₂ := by
  simp [selectThread,turned,back,bind,Except.bind]

theorem responded_eligible (k : Kernel) (valid : (k.thread e).Valid) :
    Eligible ({k with currentq := some e}.modify e Thread.responded responded_tid) e := by
  unfold Eligible
  rw [Kernel.modify_same]
  exact ⟨⟨valid.1,valid.2⟩,rfl⟩

theorem settled_ends (tmp : Nat → Int) (selecting : Selecting k) (settled : Settled k) (hot : Hot k) :
    ∃ k', selectThread tmp 1 k = .ok (some k') := by
  by_cases pending : ∃ e, PendingResponder k e
  · obtain ⟨e,event⟩ := pending
    exact selectThread_found tmp 0 (zeroGravity_responds (tmp 0) selecting.counter selecting.several event) rfl
      (responded_eligible k event.2.2.1)
  · have walks := zeroGravity_walks (tmp 0) selecting.counter selecting.several (not_exists.mp pending)
    cases following : (k.thread 0).next with
    | some n =>
        rw [endOfRound_next (tmp 0) settled.start following] at walks
        exact selectThread_found tmp 0 walks rfl (settled.following n following).1
    | none =>
        obtain ⟨k₁,joined,called,round⟩ := psScheduler_round (tmp 0) selecting
        rw [endOfRound_last settled.start following called] at walks
        have ready := settled.alone following hot
        refine selectThread_found tmp 0 walks round.globals.currentq ⟨round.idle_kept,?_⟩
        change (k₁.thread 0).state = .ready
        rw [round.idle_state,ready,ite_self]

theorem hot_round_ends (tmp : Nat → Int) (turned : zeroGravity (tmp 0) k = .ok k₁)
    (selecting₁ : Selecting k₁) (here : k₁.currentq = some p)
    (heats : ¬ Eligible k₁ p → ∀ joined k₂, Round (tmp 1) 0 joined k₁ k₂ → Hot k₂) :
    ∃ fuel k', selectThread tmp fuel k = .ok (some k') := by
  by_cases eligible : Eligible k₁ p
  · exact ⟨1,selectThread_found tmp 0 turned here eligible⟩
  · obtain ⟨k₂,joined,called,round⟩ := psScheduler_round (tmp 1) selecting₁
    refine ⟨2,?_⟩
    rw [selectThread_back tmp 1 turned (goAhead_back here eligible called)]
    exact settled_ends _ (round.selecting selecting₁) round.settled (heats eligible joined k₂ round)

def NextEligible (k : Kernel) : Prop := ∃ c n, k.currentq = some c ∧ (k.thread c).next = some n ∧ Eligible k n

-- The tables from which the cycle comes to an end: some thread can be had now,
-- or every thread in threadList is one that do_thread_ready revives.
def CanDispatch (k : Kernel) : Prop :=
  if k.threadsCounter = 1 then (k.thread 0).state = .ready
  else (∃ e, PendingResponder k e) ∨ NextEligible k ∨ Hot k ∨
    ∀ i, i < threadCountMax → k.listed i = true → Nameable k i

theorem zeroGravity_single (tmpTid : Int) (booted : Booted k) (single : k.threadsCounter = 1) :
    zeroGravity tmpTid k = .ok {k with currentq := some 0} := by
  simp [zeroGravity,require,single,bind,Except.bind,booted.initThread,booted.idleThread]

theorem selection_ends (booted : Booted k) (unlocked : k.gSchedulerStatus ≠ locked) (can : CanDispatch k)
    (threads : ∀ n, ∃ i, k.lookup (tmp n) = some i) : ∃ fuel k', selectThread tmp fuel k = .ok (some k') := by
  unfold CanDispatch at can
  by_cases single : k.threadsCounter = 1
  · rw [if_pos single] at can
    exact ⟨1,selectThread_found tmp 0 (zeroGravity_single (tmp 0) booted single) rfl ⟨booted.idleValid,can⟩⟩
  rw [if_neg single] at can
  have selecting : Selecting k := ⟨booted,unlocked,single⟩
  by_cases pending : ∃ e, PendingResponder k e
  · obtain ⟨e,event⟩ := pending
    exact ⟨1,selectThread_found tmp 0 (zeroGravity_responds (tmp 0) booted.counter single event) rfl
      (responded_eligible k event.2.2.1)⟩
  have walks := zeroGravity_walks (tmp 0) booted.counter single (not_exists.mp pending)
  have heats : ¬ NextEligible k → ∀ n, Hot k ∨ ∃ i, k.lookup (tmp n) = some i ∧ Nameable k i := by
    intro ineligible n
    rcases can with event | next | hot | all
    · exact absurd event pending
    · exact absurd next ineligible
    · exact .inl hot
    · obtain ⟨i,named⟩ := threads n
      obtain ⟨_,below,listed⟩ := lookup_some.mp named
      exact .inr ⟨i,named,all i below listed⟩
  obtain ⟨c,here⟩ := Option.ne_none_iff_exists'.mp booted.currentq
  cases following : (k.thread c).next with
  | some n =>
      rw [endOfRound_next (tmp 0) here following] at walks
      have next : Selecting {k with currentq := some n} :=
        {selecting with currentq := by simp}
      refine hot_round_ends tmp walks next rfl ?_
      intro ineligible joined k₂ round
      apply round.hot_iff.mpr
      apply heats
      intro next
      obtain ⟨d,m,there,after,eligible⟩ := next
      obtain rfl : c = d := Option.some.inj (here.symm.trans there)
      obtain rfl : n = m := Option.some.inj (following.symm.trans after)
      exact ineligible eligible
  | none =>
      obtain ⟨k₁,joined,called,round⟩ := psScheduler_round (tmp 0) selecting
      rw [endOfRound_last here following called] at walks
      have ineligible : ¬ NextEligible k := by
        intro next
        obtain ⟨d,m,there,after,_⟩ := next
        obtain rfl : c = d := Option.some.inj (here.symm.trans there)
        rw [following] at after
        cases after
      have hot : Hot {k₁ with currentThread := 0} := round.hot_iff.mpr (heats ineligible 0)
      refine hot_round_ends tmp walks (round.selecting selecting) round.globals.currentq ?_
      intro _ joined' k₂ again
      exact again.hot_iff.mpr (.inl hot)

-- The tables in which every turn fails, as long as `u` is the thread named.
structure Stuck (u : Int) (k : Kernel) : Prop extends Selecting k where
  quiet : ∀ e, ¬ PendingResponder k e
  cold : ¬ Hot k
  unnext : ¬ NextEligible k
  bad : ∃ i, k.lookup u = some i ∧ ¬ Nameable k i

theorem Round.stuck (round : Round u 0 joined k k') (selecting : Selecting k) (quiet : ∀ e, ¬ PendingResponder k e)
    (cold : ¬ Hot k) (bad : ∃ i, k.lookup u = some i ∧ ¬ Nameable k i) : Stuck u {k' with currentThread := 0} := by
  have settled := round.settled
  obtain ⟨i,named,unable⟩ := bad
  have still : ¬ Hot k' := by
    intro hot
    rcases round.hot_iff.mp hot with before | ⟨j,same,able⟩
    · exact cold before
    · obtain rfl : i = j := Option.some.inj (named.symm.trans same)
      exact unable able
  refine ⟨round.selecting selecting,?_,still,?_,i,?_,?_⟩
  · intro e pending
    have move : Move (fun _ => u) k (.round u) {k' with currentThread := 0} := .round (i := 0) round
    exact quiet e (move.pending pending)
  · intro next
    obtain ⟨c,n,here,following,_⟩ := next
    obtain rfl : 0 = c := Option.some.inj (settled.start.symm.trans here)
    exact still (settled.following n following).2
  · rw [← named]
    simp only [Kernel.lookup,show k'.listed = k.listed from round.globals.listed]
  · intro nameable
    obtain ⟨valid,able⟩ := nameable
    have lasting := round.lasting i
    rw [show ({k' with currentThread := 0} : Kernel).thread i = k'.thread i from rfl,lasting.exitInProgress] at able
    exact unable ⟨lasting.valid valid,able⟩

-- One whole turn of the cycle leads back to where it started.
theorem stuck_turn (stuck : Stuck u k) :
    ∃ k₁ k₂, zeroGravity u k = .ok k₁ ∧ goAhead u k₁ = .ok (false,k₂) ∧ Stuck u k₂ := by
  have walks := zeroGravity_walks u stuck.counter stuck.several stuck.quiet
  obtain ⟨c,here⟩ := Option.ne_none_iff_exists'.mp stuck.currentq
  cases following : (k.thread c).next with
  | some n =>
      rw [endOfRound_next u here following] at walks
      have next : Selecting {k with currentq := some n} := {stuck with currentq := by simp}
      obtain ⟨k₂,joined,called,round⟩ := psScheduler_round u next
      have ineligible : ¬ Eligible {k with currentq := some n} n := fun eligible =>
        stuck.unnext ⟨c,n,here,following,eligible⟩
      exact ⟨_,_,walks,goAhead_back rfl ineligible called,round.stuck next stuck.quiet stuck.cold stuck.bad⟩
  | none =>
      obtain ⟨k₁,joined,called,round⟩ := psScheduler_round u stuck.toSelecting
      rw [endOfRound_last here following called] at walks
      have middle := round.stuck stuck.toSelecting stuck.quiet stuck.cold stuck.bad
      obtain ⟨k₂,joined',called',again⟩ := psScheduler_round u middle.toSelecting
      have ineligible : ¬ Eligible {k₁ with currentThread := 0} 0 := fun eligible => middle.cold (.inl eligible.2)
      exact ⟨_,_,walks,goAhead_back round.globals.currentq ineligible called',
        again.stuck middle.toSelecting middle.quiet middle.cold middle.bad⟩

theorem stuck_forever (stuck : Stuck u k) (fuel : Nat) : selectThread (fun _ => u) fuel k = .ok none := by
  induction fuel generalizing k with
  | zero => rfl
  | succ fuel ih =>
      obtain ⟨k₁,k₂,turned,back,again⟩ := stuck_turn stuck
      rw [selectThread_back (fun _ => u) fuel turned back]
      exact ih again

theorem single_forever (u : Int) (booted : Booted k) (unlocked : k.gSchedulerStatus ≠ locked)
    (single : k.threadsCounter = 1) (unready : (k.thread 0).state ≠ .ready) (fuel : Nat) :
    selectThread (fun _ => u) fuel k = .ok none := by
  induction fuel generalizing k with
  | zero => rfl
  | succ fuel ih =>
      have called : psScheduler u {k with currentq := some 0} = .ok ((k.thread 0).tid,
          {k with currentq := some 0,currentThread := (k.thread 0).tid}) := by
        simp [psScheduler,unlocked,single,require,pointer,booted.idleThread,bind,Except.bind]
      have ineligible : ¬ Eligible {k with currentq := some 0} 0 := fun eligible => unready eligible.2
      rw [selectThread_back (fun _ => u) fuel (zeroGravity_single u booted single) (goAhead_back rfl ineligible called)]
      exact ih {booted with currentq := by simp} unlocked single unready

theorem selection_ends_iff (booted : Booted k) (unlocked : k.gSchedulerStatus ≠ locked) :
    (∀ tmp, (∀ n, ∃ i, k.lookup (tmp n) = some i) → ∃ fuel k', selectThread tmp fuel k = .ok (some k')) ↔
      CanDispatch k := by
  constructor
  · intro ends
    by_contra cannot
    unfold CanDispatch at cannot
    by_cases single : k.threadsCounter = 1
    · rw [if_pos single] at cannot
      have idle : k.lookup 0 = some 0 := lookup_some.mpr ⟨rfl,by decide,booted.idleListed⟩
      obtain ⟨fuel,k',found⟩ := ends (fun _ => 0) (fun _ => ⟨0,idle⟩)
      rw [single_forever 0 booted unlocked single cannot] at found
      cases found
    · rw [if_neg single] at cannot
      simp only [not_or,not_exists,not_forall] at cannot
      obtain ⟨quiet,unnext,cold,i,below,listed,unable⟩ := cannot
      have named : k.lookup (i : Nat) = some i := lookup_some.mpr ⟨rfl,below,listed⟩
      obtain ⟨fuel,k',found⟩ := ends (fun _ => (i : Nat)) (fun _ => ⟨i,named⟩)
      rw [stuck_forever ⟨⟨booted,unlocked,single⟩,quiet,cold,unnext,i,named,unable⟩] at found
      cases found
  · intro can tmp threads
    exact selection_ends booted unlocked can threads

def readyTable : Kernel := doThreadReady 0 (afterCall newThread)

theorem readyTable_booted : Booted readyTable :=
  ⟨⟨by decide +kernel,by decide +kernel,by decide +kernel,by decide +kernel,by decide +kernel,by decide +kernel⟩,
    by decide +kernel,by decide +kernel,by decide +kernel⟩

theorem ready_table_ends : ∃ fuel k', selectThread (fun _ => 100) fuel readyTable = .ok (some k') := by
  have can : CanDispatch readyTable := by
    unfold CanDispatch
    rw [if_neg (by decide +kernel)]
    exact .inr (.inr (.inl (.inl (by decide +kernel))))
  exact (selection_ends_iff readyTable_booted (by decide +kernel)).mpr can _ fun _ => ⟨100,by decide +kernel⟩

-- Idle sleeps and the only other thread is on its way out.
def stuckTable : Kernel := doThreadWaiting 0 1000 (afterCall (exitThread 100 (afterCall newThread)))

theorem stuckTable_listed : ∀ i, i < threadCountMax → stuckTable.listed i = true → i = 0 ∨ i = 100 := by decide +kernel

theorem stuck_table_never_ends :
    Booted stuckTable ∧ stuckTable.gSchedulerStatus ≠ locked ∧ (∃ i, stuckTable.lookup 100 = some i) ∧
      ∀ fuel, selectThread (fun _ => 100) fuel stuckTable = .ok none := by
  have booted : Booted stuckTable :=
    ⟨⟨by decide +kernel,by decide +kernel,by decide +kernel,by decide +kernel,by decide +kernel,by decide +kernel⟩,
      by decide +kernel,by decide +kernel,by decide +kernel⟩
  have unshut : stuckTable.gSchedulerStatus ≠ locked := by decide +kernel
  have named : stuckTable.lookup 100 = some 100 := by decide +kernel
  have exits : (stuckTable.thread 100).exitInProgress = true := by decide +kernel
  refine ⟨booted,unshut,⟨100,named⟩,stuck_forever ⟨⟨booted,unshut,by decide +kernel⟩,?_,?_,?_,100,named,?_⟩⟩
  · intro e pending
    obtain ⟨_,responder,_⟩ := pending
    have nobody : stuckTable.evResponderThread = none := by decide +kernel
    rw [nobody] at responder
    cases responder
  · intro hot
    rcases hot with idle | ⟨i,positive,below,listed,due⟩
    · exact absurd idle (by decide +kernel)
    · rcases stuckTable_listed i below listed with rfl | rfl
      · omega
      · exact absurd (exits.symm.trans due.2.1) (by decide)
  · intro next
    obtain ⟨c,n,here,following,_⟩ := next
    have first : stuckTable.currentq = some 0 := by decide +kernel
    have last : (stuckTable.thread 0).next = none := by decide +kernel
    obtain rfl : 0 = c := Option.some.inj (first.symm.trans here)
    rw [last] at following
    cases following
  · intro nameable
    rcases nameable with ⟨_,zero | stays⟩
    · cases zero
    · exact absurd (exits.symm.trans stays) (by decide)

end GramadoKernel
