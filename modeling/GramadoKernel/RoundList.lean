import GramadoKernel.Selection

namespace GramadoKernel

-- The list that the task switcher walks after a round was built: Idle, then
-- the threads that can run now in the order of their slots, then NULL.
def RoundComposed (k k' : Kernel) : Prop :=
  ∃ items, Linked.Visits (fun j => (k'.thread j).next) k'.currentq (0 :: items) none ∧ items.Pairwise (· < ·) ∧
    ∀ i, i ∈ items ↔ 0 < i ∧ i < threadCountMax ∧ k.listed i = true ∧ (k.thread i).Due k.jiffies

theorem Round.mem_iff (round : Round tmpTid 0 joined k k') (i : Nat) : i ∈ joined ↔
    0 < i ∧ i < threadCountMax ∧ k.listed i = true ∧
      ((k.thread i).Due k.jiffies ∨ (k.lookup tmpTid = some i ∧ Nameable k i)) := by
  constructor
  · intro member
    obtain ⟨positive,below,listed⟩ := round.inside i member
    obtain ⟨t,joins,next,visit,iff,_⟩ := round.visited i positive below listed
    have due := (visit.joins_iff (Nat.ne_of_gt positive)).mp (iff.mpr member)
    exact ⟨positive,below,listed,(openedThread_due tmpTid 0 (Nat.ne_of_gt positive)).mp due⟩
  · intro member
    obtain ⟨positive,below,listed,due⟩ := member
    obtain ⟨t,joins,next,visit,iff,_⟩ := round.visited i positive below listed
    apply iff.mp
    apply (visit.joins_iff (Nat.ne_of_gt positive)).mpr
    exact (openedThread_due tmpTid 0 (Nat.ne_of_gt positive)).mpr due

theorem Round.visits (round : Round tmpTid idle joined k k') :
    Linked.Visits (fun j => (k'.thread j).next) k'.currentq (idle :: joined) none := by
  obtain ⟨last,segment,closed⟩ := round.segment
  rw [show k'.currentq = some idle from round.globals.currentq,← closed]
  exact segment.visits

-- Every table gives a list in slot order. Besides the threads that can run now
-- it holds the one that `TmpThread` names before anything has set it.
theorem schedulerRr_list (tmpTid : Int) (established : Established k) : ∃ k' joined, schedulerRr tmpTid k = .ok (0,k') ∧
    Linked.Visits (fun j => (k'.thread j).next) k'.currentq (0 :: joined) none ∧ joined.Pairwise (· < ·) ∧
      ∀ i, i ∈ joined ↔ 0 < i ∧ i < threadCountMax ∧ k.listed i = true ∧
        ((k.thread i).Due k.jiffies ∨ (k.lookup tmpTid = some i ∧ Nameable k i)) := by
  obtain ⟨k',built⟩ := schedulerRr_returns tmpTid established
  obtain ⟨_,idle,joined,ordered,round⟩ := schedulerRr_ordered built
  obtain rfl : idle = 0 := Option.some.inj (round.idleThread.symm.trans established.idleThread)
  exact ⟨k',joined,built,round.visits,List.Pairwise.sublist ordered List.pairwise_lt_range',round.mem_iff⟩

-- The comment over the call says "Wake up init thread": any thread that the
-- stale pointer names is made READY there, a sleeping one too.
theorem round_composed_iff (tmpTid : Int) (established : Established k) : ∃ k', schedulerRr tmpTid k = .ok (0,k') ∧
    (RoundComposed k k' ↔ ∀ i, k.lookup tmpTid = some i → 0 < i → (k.thread i).Valid →
      (k.thread i).exitInProgress = false → (k.thread i).Due k.jiffies) := by
  obtain ⟨k',joined,built,visits,ordered,joins⟩ := schedulerRr_list tmpTid established
  refine ⟨k',built,?_⟩
  constructor
  · intro composed i named positive valid stays
    obtain ⟨items,others,_,member⟩ := composed
    obtain ⟨_,below,listed⟩ := lookup_some.mp named
    have same : items = joined := (List.cons.inj (others.unique visits)).2
    have present : i ∈ joined := (joins i).mpr ⟨positive,below,listed,.inr ⟨named,valid,.inr stays⟩⟩
    rw [← same] at present
    exact ((member i).mp present).2.2.2
  · intro harmless
    refine ⟨joined,visits,ordered,fun i => ?_⟩
    rw [joins]
    refine and_congr_right fun positive => and_congr_right fun _ => and_congr_right fun _ => ?_
    constructor
    · rintro (due | ⟨named,valid,stays⟩)
      · exact due
      · exact harmless i named positive valid (stays.resolve_left (Nat.ne_of_gt positive))
    · exact .inl

-- Thread 100 sleeps for a second.
def sleepingTable : Kernel := doThreadWaiting 100 1000 readyTable

theorem sleepingTable_established : Established sleepingTable :=
  ⟨by decide +kernel,by decide +kernel,by decide +kernel,by decide +kernel,by decide +kernel,by decide +kernel⟩

theorem sleeping_round_composed : ∃ k', schedulerRr (-1) sleepingTable = .ok (0,k') ∧ RoundComposed sleepingTable k' := by
  obtain ⟨k',built,iff⟩ := round_composed_iff (-1) sleepingTable_established
  refine ⟨k',built,iff.mpr ?_⟩
  intro i named
  have same := (lookup_some.mp named).1
  omega

-- The stale pointer still names the sleeper: it is in the round a second early.
theorem sleeper_joins_round : (sleepingTable.thread 100).state = .waiting ∧
    sleepingTable.jiffies < (sleepingTable.thread 100).wakeJiffy ∧
    ∃ k', schedulerRr 100 sleepingTable = .ok (0,k') ∧ ¬ RoundComposed sleepingTable k' := by
  have waits : (sleepingTable.thread 100).state = .waiting := by decide +kernel
  have early : sleepingTable.jiffies < (sleepingTable.thread 100).wakeJiffy := by decide +kernel
  obtain ⟨k',joined,built,visits,_,joins⟩ := schedulerRr_list 100 sleepingTable_established
  refine ⟨waits,early,k',built,?_⟩
  intro composed
  obtain ⟨items,others,_,member⟩ := composed
  have same : items = joined := (List.cons.inj (others.unique visits)).2
  have present : 100 ∈ joined := (joins 100).mpr
    ⟨by decide,by decide,by decide +kernel,.inr ⟨by decide +kernel,by decide +kernel,.inr (by decide +kernel)⟩⟩
  rw [← same] at present
  obtain ⟨_,_,ready | due⟩ := ((member 100).mp present).2.2.2
  · rw [waits] at ready
    cases ready
  · exact absurd due.2 (UInt64.not_le.mpr early)

end GramadoKernel
