import GramadoKernel.Creation
import GramadoKernel.Machine

namespace GramadoKernel

-- A RUNNING thread is threadList[current_thread], so there is at most one.
def SingleRunning (k : Kernel) : Prop :=
  ∀ i, i < threadCountMax → k.listed i = true → (k.thread i).state = .running → k.currentThread = i

-- The stronger fact between the end of a quantum and the dispatch: current_thread
-- is assigned there before the target is validated.
def NoneRunning (k : Kernel) : Prop :=
  ∀ i, i < threadCountMax → k.listed i = true → (k.thread i).state ≠ .running

theorem SingleRunning.kept (single : SingleRunning k) (listed : k'.listed = k.listed)
    (current : k'.currentThread = k.currentThread)
    (states : ∀ i, (k'.thread i).state = .running → (k.thread i).state = .running) : SingleRunning k' := by
  intro i below present running
  rw [current]
  exact single i below (listed ▸ present) (states i running)

theorem NoneRunning.kept (nobody : NoneRunning k) (listed : k'.listed = k.listed)
    (states : ∀ i, (k'.thread i).state = .running → (k.thread i).state = .running) : NoneRunning k' := by
  intro i below present running
  exact nobody i below (listed ▸ present) (states i running)

theorem change_running (request : Request) (running : (request.change jiffies t).state = .running) :
    t.state = .running := by
  cases request with
  | sleep | yield => exact running
  | blocked | waiting => cases running
  | wakeup =>
      simp only [Request.change] at running
      split at running
      · cases running
      · exact running
  | zombie =>
      simp only [Request.change] at running
      split at running
      · exact running
      · cases running

theorem perform_running (request : Request) (k : Kernel) (i : Nat)
    (running : ((perform request k).thread i).state = .running) : (k.thread i).state = .running := by
  rw [perform_thread] at running
  split at running
  · exact change_running request running
  · exact running

theorem Mailed.running (mailed : Mailed Reached k k') (i : Nat) (running : (k'.thread i).state = .running) :
    (k.thread i).state = .running := by
  by_cases reached : Reached i
  · obtain ⟨q,target⟩ := mailed.reached i reached
    rw [target] at running
    split at running
    · cases running
    · exact running
  · rwa [mailed.others i reached] at running

theorem Visit.running (visit : Visit jiffies plain t t' joins) (running : t'.state = .running) : t.state = .running := by
  cases visit with
  | exits => cases running
  | wakes => cases running
  | sleeps | reaped | runs | passed => exact running

theorem openedThread_running (running : (openedThread tmpTid idle k j).state = .running) : (k.thread j).state = .running := by
  rw [openedThread_state] at running
  split at running
  · cases running
  · exact running

theorem Round.running (round : Round tmpTid idle joined k k') (i : Nat) (running : (k'.thread i).state = .running) :
    (k.thread i).state = .running := by
  obtain ⟨t,next,same,origin⟩ := round.thread i
  rw [same] at running
  rcases origin with rfl | ⟨joins,visit⟩
  · exact openedThread_running running
  · exact openedThread_running (visit.running running)

theorem move_noneRunning (move : Move tmp k turn k') (nobody : NoneRunning k) : NoneRunning k' := by
  cases move with
  | cursor q tid => exact nobody
  | respond pending =>
      refine nobody.kept rfl ?_
      intro i running
      rw [Kernel.modify_thread] at running
      split at running
      · cases running
      · exact running
  | round round => exact nobody.kept round.globals.listed round.running

theorem tick_kept_single (tick : Tick tmp k .same k') (single : SingleRunning k) : SingleRunning k' := by
  have globals := (tick_kept tick 0).1
  refine single.kept globals.listed globals.currentThread ?_
  intro i running
  obtain ⟨_,_,alike | ⟨_,_,before,_⟩⟩ := tick_kept tick i
  · exact alike.state.symm.trans running
  · exact before

theorem Ended.noneRunning (ended : Ended p k k') (single : SingleRunning k) : NoneRunning k' := by
  obtain ⟨_,_,interrupted⟩ := ended.interrupted
  have slot := (lookup_some.mp interrupted.found).1
  intro i below present running
  obtain ⟨globals,_,⟨_,u,_,same⟩ | ⟨other,same⟩⟩ := ended.thread i
  · rw [same] at running
    simp only [Thread.finished] at running
    split at running
    · cases running
    · contradiction
  · rw [same] at running
    have current := single i below (globals.listed ▸ present) running
    omega

theorem NoneRunning.start {k k' : Kernel} {p : Nat} (nobody : NoneRunning k) (listed : k'.listed = k.listed)
    (current : k'.currentThread = p) (others : ∀ i, i ≠ p → k'.thread i = k.thread i) : SingleRunning k' := by
  intro i below present running
  by_cases same : i = p
  · rw [current,same]
  · rw [others i same] at running
    exact absurd running (nobody i below (listed ▸ present))

theorem tick_single (tick : Tick tmp k switch k') (single : SingleRunning k) : SingleRunning k' := by
  by_cases kept : switch = .same
  · subst switch
    exact tick_kept_single tick single
  cases tick with
  | callback | locked | within => exact absurd rfl kept
  | spawn ended spawned =>
      exact (ended.noneRunning single).start spawned.globals.listed spawned.globals.currentThread spawned.others
  | dispatch ended nobody moves dispatched =>
      have none := moves.invariant NoneRunning (fun _ _ _ holds move => move_noneRunning move holds)
        (ended.noneRunning single)
      exact NoneRunning.start none dispatched.globals.listed dispatched.globals.currentThread dispatched.others

theorem Clocked.single (clocked : Clocked k k') (single : SingleRunning k) : SingleRunning k' := by
  refine single.kept clocked.globals.listed clocked.globals.currentThread ?_
  intro i running
  rcases (clocked.roused i).state with same | ready
  · exact same.symm.trans running
  · cases ready.symm.trans running

theorem acts_single (acts : Acts k action k') (single : SingleRunning k) : SingleRunning k' := by
  cases acts with
  | request request =>
      exact single.kept (perform_globals request k).listed (perform_globals request k).currentThread
        (perform_running request k)
  | mail sent =>
      have mailed := sends_mailed sent
      exact single.kept mailed.globals.listed mailed.globals.currentThread mailed.running
  | tick called =>
      obtain ⟨k₁,clocked,tick⟩ := irq0Timer_parts called
      exact tick_single tick (clocked.single single)

def Launched (k : Kernel) : Prop :=
  ∃ p, k.lookup k.currentThread = some p ∧ (k.thread p).state = .running ∧
    quantumMin ≤ (k.thread p).quantum ∧ (k.thread p).quantum ≤ quantumMax ∧
    priorityMin ≤ (k.thread p).priority ∧ (k.thread p).priority ≤ priorityMax

-- The upper limit of dispatch_current followed by the lower limit of dispatcher.
theorem limits_between (low high x : UInt64) (ordered : low ≤ high) :
    low ≤ (if (if high < x then high else x) < low then low else (if high < x then high else x)) ∧
      (if (if high < x then high else x) < low then low else (if high < x then high else x)) ≤ high := by
  simp only [UInt64.le_iff_toNat_le,UInt64.lt_iff_toNat_lt] at *
  split <;> split <;> constructor <;> omega

theorem Dispatched.launched (dispatched : Dispatched p k k') : Launched k' := by
  have found : k'.lookup k'.currentThread = some p := by
    have before := dispatched.found
    simp only [Kernel.lookup,dispatched.globals.currentThread,dispatched.globals.listed] at before ⊢
    exact before
  have quantum := limits_between quantumMin quantumMax (k.thread p).quantum (by decide)
  have priority := limits_between priorityMin priorityMax (k.thread p).priority (by decide)
  refine ⟨p,found,?_⟩
  rw [dispatched.target]
  exact ⟨rfl,quantum.1,quantum.2,priority.1,priority.2⟩

theorem tick_launched (tick : Tick tmp k (.dispatch tid) k') : Launched k' := by
  generalize same : Switch.dispatch tid = switch at tick
  cases tick with
  | callback | locked | within | spawn => cases same
  | dispatch ended nobody moves dispatched => exact dispatched.launched

theorem single_running_kept (path : Runs.Path Acts k actions k') (start : SingleRunning k) :
    SingleRunning k' ∧ ∀ callback tmp tid k'', Acts k' (.tick callback tmp (.dispatch tid)) k'' →
      SingleRunning k'' ∧ Launched k'' := by
  have single := path.invariant SingleRunning (fun _ _ _ holds acts => acts_single acts holds) start
  refine ⟨single,?_⟩
  intro callback tmp tid k'' acts
  refine ⟨acts_single acts single,?_⟩
  cases acts with
  | tick called =>
      obtain ⟨k₁,_,tick⟩ := irq0Timer_parts called
      exact tick_launched tick

def firstTick : Except Halt (Option (Switch × Kernel)) := irq0Timer .zero 3 false (fun _ => -1) 1 bootKernel

theorem single_running_after_boot : SingleRunning (afterTick firstTick) ∧ Launched (afterTick firstTick) := by
  have acts : Acts bootKernel (.tick false (fun _ => -1) (.dispatch 0)) (afterTick firstTick) :=
    .tick (afterTick_ok (by decide +kernel))
  have start : SingleRunning bootKernel := by
    intro i _ present _
    obtain rfl : i = 0 := by simpa [bootKernel] using present
    rfl
  exact (single_running_kept .nil start).2 _ _ _ _ acts

end GramadoKernel
