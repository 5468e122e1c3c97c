import GramadoKernel.Machine
import GramadoKernel.Selection

namespace GramadoKernel

def OnRound (k : Kernel) (t : Nat) : Prop :=
  ∃ head items last, k.currentq = some head ∧ Linked.Segment (fun j => (k.thread j).next) head items last ∧
    (k.thread last).next = none ∧ t ∈ head :: items

-- Steps of others: no call blocks `t`, sends it to ZOMBIE or to sleep again, and
-- it does not put itself to sleep again.
def Foreign (t : Nat) (k : Kernel) : Stage → Prop
  | .request (.blocked tid) => k.lookup tid ≠ some t
  | .request (.waiting tid _) => k.lookup tid ≠ some t
  | .request (.zombie tid) => k.lookup tid ≠ some t
  | .kept => ¬ ((k.thread t).state = .running ∧ (k.thread t).sleepInProgress = true)
  | _ => True

def ForeignStep (t : Nat) (c : Kernel × Phase) (stage : Stage) (c' : Kernel × Phase) : Prop :=
  Step c stage c' ∧ Foreign t c.1 stage

structure SameTable (k k' : Kernel) : Prop where
  listed : k'.listed = k.listed
  idleThread : k'.idleThread = k.idleThread

theorem SameGlobals.table (globals : SameGlobals k k') : SameTable k k' := ⟨globals.listed,globals.idleThread⟩

theorem SameTable.trans (left : SameTable a b) (right : SameTable b c) : SameTable a c :=
  ⟨right.listed.trans left.listed,right.idleThread.trans left.idleThread⟩

theorem step_table (step : Step c stage c') : SameTable c.1 c'.1 := by
  cases step with
  | request request k => exact (perform_globals request k).table
  | mail sent => exact (sends_mailed sent).globals.table
  | clock clocked => exact ⟨clocked.globals.listed,clocked.globals.idleThread⟩
  | kept tick => exact ⟨(tick_kept tick 0).1.listed,(tick_kept tick 0).1.idleThread⟩
  | spawned ended spawned =>
      have globals := (ended.thread 0).1
      exact ⟨spawned.globals.listed.trans globals.listed,spawned.globals.idleThread.trans globals.idleThread⟩
  | ended ended => exact ⟨(ended.thread 0).1.listed,(ended.thread 0).1.idleThread⟩
  | turn move =>
      cases move with
      | cursor q tid => exact ⟨rfl,rfl⟩
      | respond pending => exact ⟨rfl,rfl⟩
      | round round => exact ⟨round.globals.listed,round.globals.idleThread⟩
  | dispatched dispatched => exact ⟨dispatched.globals.listed,dispatched.globals.idleThread⟩

-- A sleeper that stays: it waits for `w`, or has been woken and is in use.
structure Watched (t : Nat) (w : UInt64) (k : Kernel) (phase : Phase) : Prop where
  valid : (k.thread t).Valid
  stays : (k.thread t).exitInProgress = false
  state : ((k.thread t).state = .waiting ∧ (k.thread t).wakeJiffy = w) ∨ (k.thread t).state = .ready ∨
    (phase = .outside ∧ (k.thread t).state = .running ∧ k.currentThread = t)

theorem Watched.roused (watched : Watched t w k phase) (roused : Roused (k.thread t) (k'.thread t))
    (current : k'.currentThread = k.currentThread) : Watched t w k' phase := by
  refine ⟨roused.valid.mpr watched.valid,roused.exitInProgress.trans watched.stays,?_⟩
  rw [roused.wakeJiffy,current]
  rcases roused.state with same | ready
  · rw [same]
    exact watched.state
  · exact .inr (.inl ready)

-- A call of another thread may wake the sleeper and does nothing else to it.
theorem foreign_roused (request : Request) (foreign : Foreign t k (.request request)) :
    Roused (k.thread t) ((perform request k).thread t) := by
  rw [perform_thread]
  split
  · rename_i found
    cases request with
    | sleep | yield => exact ⟨Iff.rfl,.inl rfl,rfl,rfl⟩
    | wakeup tid =>
        simp only [Request.change]
        split
        · exact ⟨Iff.rfl,.inr rfl,rfl,rfl⟩
        · exact .refl _
    | blocked | waiting | zombie => exact absurd found.1 foreign
  · exact .refl _

theorem tick_watched (tick : Tick tmp k .same k') (foreign : Foreign t k .kept) (watched : Watched t w k .outside) :
    Watched t w k' .outside := by
  obtain ⟨globals,_,alike | ⟨_,_,running,request,_⟩⟩ := tick_kept tick t
  · exact watched.roused alike.roused globals.currentThread
  · exact absurd ⟨running,request⟩ foreign

theorem Ended.watched (ended : Ended p k k') (watched : Watched t w k .outside) : Watched t w k' .selecting := by
  obtain ⟨_,_,interrupted⟩ := ended.interrupted
  have slot := (lookup_some.mp interrupted.found).1
  obtain ⟨_,_,⟨rfl,u,alike,same⟩ | ⟨other,same⟩⟩ := ended.thread t
  · refine ⟨by rw [same]; exact (finished_valid u).mpr (alike.valid.mpr watched.valid),
      by rw [same]; exact alike.exitInProgress.trans watched.stays,?_⟩
    rw [same]
    simp only [Thread.finished,alike.state,alike.wakeJiffy]
    rcases watched.state with ⟨waiting,hour⟩ | ready | ⟨_,running,_⟩
    · exact .inl ⟨by simp [waiting],hour⟩
    · exact .inr (.inl (by simp [ready]))
    · exact .inr (.inl (by simp [running]))
  · refine ⟨by rw [same]; exact watched.valid,by rw [same]; exact watched.stays,?_⟩
    rw [same]
    rcases watched.state with waiting | ready | ⟨_,_,current⟩
    · exact .inl waiting
    · exact .inr (.inl ready)
    · omega

def Rested (w : UInt64) (t : Thread) : Prop := (t.state = .waiting ∧ t.wakeJiffy = w) ∨ t.state = .ready

theorem Watched.rested (watched : Watched t w k .selecting) : Rested w (k.thread t) := by
  rcases watched.state with waiting | ready | ⟨impossible,_⟩
  · exact .inl waiting
  · exact .inr ready
  · cases impossible

theorem Rested.watched (rested : Rested w (k.thread t)) (valid : (k.thread t).Valid)
    (stays : (k.thread t).exitInProgress = false) (phase : Phase) : Watched t w k phase := by
  refine ⟨valid,stays,?_⟩
  rcases rested with waiting | ready
  · exact .inl waiting
  · exact .inr (.inl ready)

theorem Visit.rested (visit : Visit jiffies plain t t' joins) (stays : t.exitInProgress = false) (valid : t.Valid)
    (rested : Rested w t) : t'.Valid ∧ Rested w t' := by
  cases visit with
  | exits exiting => exact absurd (exiting.2.symm.trans stays) (by decide)
  | sleeps => exact ⟨⟨valid.1,valid.2⟩,rested⟩
  | reaped _ _ zombie =>
      rcases rested with ⟨waiting,_⟩ | ready
      · cases zombie.symm.trans waiting
      · cases zombie.symm.trans ready
  | wakes => exact ⟨⟨valid.1,valid.2⟩,.inr rfl⟩
  | runs _ _ ready => exact ⟨⟨valid.1,valid.2⟩,.inr ready⟩
  | passed => exact ⟨valid,rested⟩

theorem openedThread_rested (tmpTid : Int) (idle : Nat) (rested : Rested w (k.thread t)) :
    Rested w (openedThread tmpTid idle k t) := by
  unfold Rested
  rw [openedThread_state,(openedThread_lasting tmpTid idle k t).wakeJiffy]
  split
  · exact .inr rfl
  · exact rested

theorem Round.watched (round : Round tmpTid idle joined k k') (watched : Watched t w k .selecting) :
    Watched t w {k' with currentThread := 0} .selecting := by
  have opened := openedThread_rested tmpTid idle watched.rested
  have valid : (openedThread tmpTid idle k t).Valid := openedThread_valid.mpr watched.valid
  have stays := (openedThread_lasting tmpTid idle k t).exitInProgress.trans watched.stays
  obtain ⟨u,next,same,origin⟩ := round.thread t
  have after : u.Valid ∧ Rested w u := by
    rcases origin with rfl | ⟨joins,visit⟩
    · exact ⟨valid,opened⟩
    · exact visit.rested stays valid opened
  have lasting := (round.lasting t).exitInProgress.trans watched.stays
  have linked : (u.link next).Valid ∧ Rested w (u.link next) := ⟨⟨after.1.1,after.1.2⟩,after.2⟩
  rw [← same] at linked
  exact Rested.watched (k := {k' with currentThread := 0}) linked.2 linked.1 lasting .selecting

theorem move_watched (move : Move tmp k turn k') (watched : Watched t w k .selecting) : Watched t w k' .selecting := by
  cases move with
  | cursor q tid =>
      exact Rested.watched (k := {k with currentq := q,currentThread := tid}) watched.rested watched.valid watched.stays
        .selecting
  | respond pending =>
      rename_i e
      by_cases same : t = e
      · subst t
        refine ⟨?_,?_,.inr (.inl ?_)⟩ <;> rw [Kernel.modify_same]
        · exact ⟨watched.valid.1,watched.valid.2⟩
        · exact watched.stays
        · rfl
      · refine watched.roused ?_ rfl
        rw [Kernel.modify_other _ _ _ _ same]
        exact .refl _
  | round round => exact round.watched watched

theorem Spawned.watched (spawned : Spawned q k k') (watched : Watched t w k .selecting) : Watched t w k' .outside := by
  have apart : t ≠ q := by
    intro same
    subst same
    rcases watched.rested with ⟨waiting,_⟩ | ready
    · cases spawned.standby.symm.trans waiting
    · cases spawned.standby.symm.trans ready
  have same := spawned.others t apart
  exact Rested.watched (same ▸ watched.rested) (same ▸ watched.valid) (same ▸ watched.stays) .outside

theorem Dispatched.watched {k : Kernel} {q : Nat} (dispatched : Dispatched q {k with currentThread := q} k')
    (watched : Watched t w k .selecting) : Watched t w k' .outside := by
  by_cases same : t = q
  · subst t
    refine ⟨?_,?_,.inr (.inr ⟨rfl,?_,dispatched.globals.currentThread⟩)⟩ <;> rw [dispatched.target]
    · exact ⟨watched.valid.1,watched.valid.2⟩
    · exact watched.stays
    · rfl
  · have kept : k'.thread t = k.thread t := dispatched.others t same
    exact Rested.watched (kept ▸ watched.rested) (kept ▸ watched.valid) (kept ▸ watched.stays) .outside

theorem step_watched (step : ForeignStep t c stage c') (watched : Watched t w c.1 c.2) : Watched t w c'.1 c'.2 := by
  obtain ⟨step,foreign⟩ := step
  cases step with
  | request request k => exact watched.roused (foreign_roused request foreign) (perform_globals request k).currentThread
  | mail sent =>
      have mailed := sends_mailed sent
      exact watched.roused (mailed.roused t) mailed.globals.currentThread
  | clock clocked => exact watched.roused (clocked.roused t) clocked.globals.currentThread
  | kept tick => exact tick_watched tick foreign watched
  | spawned ended spawned => exact spawned.watched (ended.watched watched)
  | ended ended => exact ended.watched watched
  | turn move => exact move_watched move watched
  | dispatched dispatched => exact dispatched.watched watched

-- A thread with the exit mark, which every round sends to ZOMBIE.
structure Leaving (t : Nat) (k : Kernel) : Prop where
  valid : (k.thread t).Valid
  leaves : (k.thread t).exitInProgress = true
  unspawned : (k.thread t).state ≠ .standby

theorem Leaving.kept (leaving : Leaving t k) (valid : (k.thread t).Valid → (k'.thread t).Valid)
    (exits : (k'.thread t).exitInProgress = (k.thread t).exitInProgress)
    (state : (k'.thread t).state = .standby → (k.thread t).state = .standby) : Leaving t k' :=
  ⟨valid leaving.valid,exits.trans leaving.leaves,fun standby => leaving.unspawned (state standby)⟩

theorem Leaving.roused (leaving : Leaving t k) (roused : Roused (k.thread t) (k'.thread t)) : Leaving t k' := by
  refine leaving.kept roused.valid.mpr roused.exitInProgress ?_
  intro standby
  rcases roused.state with same | ready
  · exact same.symm.trans standby
  · cases ready.symm.trans standby

theorem Leaving.same (leaving : Leaving t k) (same : k'.thread t = k.thread t) : Leaving t k' := by
  refine leaving.kept ?_ ?_ ?_ <;> rw [same]
  · exact id
  · exact id

theorem tick_leaving (tick : Tick tmp k .same k') (leaving : Leaving t k) : Leaving t k' := by
  obtain ⟨_,_,alike | ⟨_,_,running,request,ms,cpu,same⟩⟩ := tick_kept tick t
  · exact leaving.roused alike.roused
  · have alike := (suspended_alike (k.thread t) ms cpu).trans (yielded_alike _)
    have slept := slept_kept ((k.thread t).suspended ms cpu).yielded k.jiffies
    have waiting := request_within ms cpu k.jiffies running request
    rw [← same] at slept waiting
    exact leaving.kept (fun valid => slept.1.mpr (alike.valid.mpr valid)) (slept.2.2.trans alike.exitInProgress)
      (fun standby => by cases waiting.symm.trans standby)

theorem Ended.leaving (ended : Ended p k k') (leaving : Leaving t k) : Leaving t k' := by
  obtain ⟨_,_,⟨rfl,u,alike,same⟩ | ⟨_,same⟩⟩ := ended.thread t
  · refine leaving.kept ?_ ?_ ?_ <;> rw [same]
    · exact fun valid => (finished_valid u).mpr (alike.valid.mpr valid)
    · exact alike.exitInProgress
    · intro standby
      simp only [Thread.finished] at standby
      split at standby
      · cases standby
      · rwa [← alike.state]
  · exact leaving.same same

theorem Visit.leaving (visit : Visit jiffies plain t t' joins) (ordinary : plain) (valid : t.Valid)
    (exits : t.exitInProgress = true) : t'.Valid ∧ t'.exitInProgress = true ∧ t'.state = .zombie := by
  have exiting : t.Exiting ∧ plain := ⟨⟨valid.2,exits⟩,ordinary⟩
  cases visit with
  | exits => exact ⟨⟨valid.1,valid.2⟩,exits,rfl⟩
  | sleeps stays | reaped stays | wakes stays | runs stays | passed stays => exact absurd exiting stays

theorem Round.leaving (round : Round tmpTid 0 joined k k') (positive : 0 < t) (below : t < threadCountMax)
    (listed : k.listed t = true) (leaving : Leaving t k) : Leaving t k' ∧ (k'.thread t).state = .zombie := by
  have opened := openedThread_lasting tmpTid 0 k t
  obtain ⟨u,joins,next,visit,_,same⟩ := round.visited t positive below listed
  obtain ⟨valid,exits,zombie⟩ := visit.leaving (by omega) (openedThread_valid.mpr leaving.valid)
    (opened.exitInProgress.trans leaving.leaves)
  have state : (k'.thread t).state = .zombie := by rw [same]; exact zombie
  refine ⟨⟨?_,?_,?_⟩,state⟩
  · rw [same]
    exact ⟨valid.1,valid.2⟩
  · rw [same]
    exact exits
  · rw [state]
    decide

theorem step_leaving (step : ForeignStep t c stage c') (positive : 0 < t) (below : t < threadCountMax)
    (listed : c.1.listed t = true) (idle : c.1.idleThread = some 0) (leaving : Leaving t c.1) : Leaving t c'.1 := by
  obtain ⟨step,foreign⟩ := step
  cases step with
  | request request k => exact leaving.roused (foreign_roused request foreign)
  | mail sent => exact leaving.roused ((sends_mailed sent).roused t)
  | clock clocked => exact leaving.roused (clocked.roused t)
  | kept tick => exact tick_leaving tick leaving
  | spawned ended spawned =>
      have after := ended.leaving leaving
      refine after.same (spawned.others t ?_)
      intro same
      subst same
      exact after.unspawned spawned.standby
  | ended ended => exact ended.leaving leaving
  | turn move =>
      cases move with
      | cursor q tid => exact leaving.same rfl
      | respond pending =>
          rename_i e
          by_cases same : t = e
          · subst t
            refine leaving.kept ?_ ?_ ?_ <;> rw [Kernel.modify_same]
            · exact fun valid => ⟨valid.1,valid.2⟩
            · rfl
            · exact fun standby => by cases standby
          · exact leaving.same (Kernel.modify_other _ _ _ responded_tid same)
      | round round =>
          rename_i i z joined k'
          obtain rfl : z = 0 := Option.some.inj (round.idleThread.symm.trans idle)
          exact (round.leaving positive below listed leaving).1.same rfl
  | dispatched dispatched =>
      rename_i q k k'
      by_cases same : t = q
      · subst t
        refine leaving.kept ?_ ?_ ?_ <;> rw [dispatched.target]
        · exact fun valid => ⟨valid.1,valid.2⟩
        · rfl
        · exact fun standby => by cases standby
      · exact leaving.same (dispatched.others t same)

theorem run_table (path : Runs.Path (ForeignStep t) c stages c') : SameTable c.1 c'.1 := by
  induction path with
  | nil => exact ⟨rfl,rfl⟩
  | step _ last ih => exact ih.trans (step_table last.1)

theorem run_watched (path : Runs.Path (ForeignStep t) c stages c') (watched : Watched t w c.1 c.2) :
    Watched t w c'.1 c'.2 :=
  path.invariant (fun c => Watched t w c.1 c.2) (fun _ _ _ holds step => step_watched step holds) watched

theorem run_leaving (path : Runs.Path (ForeignStep t) c stages c') (positive : 0 < t) (below : t < threadCountMax)
    (listed : c.1.listed t = true) (idle : c.1.idleThread = some 0) (leaving : Leaving t c.1) : Leaving t c'.1 := by
  induction path with
  | nil => exact leaving
  | step earlier last ih =>
      have table := run_table earlier
      exact step_leaving last positive below (table.listed ▸ listed) (table.idleThread.trans idle) ih

theorem Round.wakes (round : Round tmpTid 0 joined k k') (positive : 0 < t) (below : t < threadCountMax)
    (listed : k.listed t = true) (watched : Watched t w k .selecting) (late : w ≤ k.jiffies) :
    (k'.thread t).state = .ready ∧ t ∈ joined := by
  have due : (k.thread t).Due k.jiffies := by
    refine ⟨watched.valid,watched.stays,?_⟩
    rcases watched.rested with ⟨waiting,rfl⟩ | ready
    · exact .inr ⟨waiting,late⟩
    · exact .inl ready
  obtain ⟨u,joins,next,visit,iff,same⟩ := round.visited t positive below listed
  have opened := (openedThread_due tmpTid 0 (by omega)).mpr (.inl due)
  obtain rfl : joins = true := (visit.joins_iff (by omega)).mpr opened
  rw [same]
  exact ⟨visit.joined_ready.2,iff.mp rfl⟩

theorem Round.onRound (round : Round tmpTid idle joined k k') (member : t ∈ idle :: joined) : OnRound k' t := by
  obtain ⟨last,segment,closed⟩ := round.segment
  exact ⟨idle,joined,last,round.globals.currentq,segment,closed,member⟩

theorem sleeper_wakes_iff {t : Nat} (idle : k.idleThread = some 0) (found : k.lookup tid = some t) (valid : (k.thread t).Valid)
    (path : Runs.Path (ForeignStep t) (doThreadWaiting tid ms k,.outside) stages (k₁,.selecting))
    (late : ((doThreadWaiting tid ms k).thread t).wakeJiffy ≤ k₁.jiffies)
    (built : schedulerRr tmpTid k₁ = .ok (head,k₂)) :
    ((k₂.thread t).state = .ready ∧ OnRound k₂ t) ↔
      if t = 0 then (k₁.thread 0).state = .ready ∨ tmpTid = 0 else (k.thread t).exitInProgress = false := by
  have globals : SameGlobals k (doThreadWaiting tid ms k) := onThread_globals _ _ _ _
  have table := globals.table.trans (run_table path)
  obtain ⟨_,below,present⟩ := lookup_some.mp found
  have listed : k₁.listed t = true := (congrFun table.listed t).trans present
  obtain ⟨_,z,joined,round⟩ := schedulerRr_parts built
  obtain rfl : z = 0 := Option.some.inj (round.idleThread.symm.trans (table.idleThread.trans idle))
  have start := doThreadWaiting_thread tid ms k t
  rw [if_pos ⟨found,valid⟩] at start
  by_cases init : t = 0
  · subst t
    have named : k₁.lookup tmpTid = some 0 ↔ tmpTid = 0 := by
      rw [lookup_some]
      exact ⟨fun both => both.1,fun same => ⟨same,below,listed⟩⟩
    rw [if_pos rfl,round.idle_state,and_iff_left (round.onRound (by simp))]
    by_cases zero : tmpTid = 0
    · rw [if_pos ⟨named.mpr zero,round.idleValid⟩]
      simp [zero]
    · rw [if_neg (fun both => zero (named.mp both.1))]
      simp [zero]
  · rw [if_neg init]
    by_cases exits : (k.thread t).exitInProgress = true
    · have leaving : Leaving t (doThreadWaiting tid ms k) := by
        refine ⟨?_,?_,?_⟩ <;> rw [start]
        · exact ⟨valid.1,valid.2⟩
        · exact exits
        · simp
      have before := run_leaving path (by omega) below ((congrFun globals.listed t).trans present)
        (globals.idleThread.trans idle) leaving
      have zombie := (round.leaving (by omega) below listed before).2
      simp [zombie,exits]
    · have stays : (k.thread t).exitInProgress = false := by simpa using exits
      have watched : Watched t _ (doThreadWaiting tid ms k) .outside :=
        ⟨by rw [start]; exact ⟨valid.1,valid.2⟩,by rw [start]; exact stays,.inl ⟨by rw [start],rfl⟩⟩
      have woken := round.wakes (by omega) below listed (run_watched path watched) late
      exact ⟨fun _ => stays,fun _ => ⟨woken.1,round.onRound (List.mem_cons_of_mem 0 woken.2)⟩⟩

theorem quantumOver_tid (t : Thread) : (t.suspended 1 .zero).finished.tid = t.tid :=
  (finished_tid _).trans (suspended_tid t 1 .zero)

def quantumOver (k : Kernel) : Kernel :=
  {k with jiffies := k.jiffies+1}.modify 0 (fun t => (t.suspended 1 .zero).finished) quantumOver_tid

theorem quantumOver_steps {t : Nat} (found : k.lookup k.currentThread = some 0) (valid : (k.thread 0).Valid)
    (status : k.taskSwitchStatus = unlocked) (spent : ¬ (k.thread 0).runningCount+1 < (k.thread 0).quantum) :
    Runs.Path (ForeignStep t) (k,.outside) [.clock,.ended] (quantumOver k,.selecting) := by
  have ended : Ended 0 {k with jiffies := k.jiffies+1} (quantumOver k) :=
    ⟨status,spent,1,.zero,found,valid,
      modify_rewritten {k with jiffies := k.jiffies+1} 0 (fun t => (t.suspended 1 .zero).finished) quantumOver_tid⟩
  exact .step (.step .nil ⟨.clock (clocked_quiet k),trivial⟩) ⟨.ended ended,trivial⟩

def otherSleeps : Kernel := doThreadWaiting 100 1 (afterCall newThread)

def otherRound : Except Halt (Int × Kernel) := schedulerRr (-1) (quantumOver otherSleeps)

theorem other_sleeper_wakes :
    ((afterCall otherRound).thread 100).state = .ready ∧ OnRound (afterCall otherRound) 100 := by
  have path : Runs.Path (ForeignStep 100) (otherSleeps,.outside) [.clock,.ended] (quantumOver otherSleeps,.selecting) :=
    quantumOver_steps (by decide +kernel) (by decide +kernel) (by decide +kernel) (by decide +kernel)
  have built : otherRound = .ok (0,afterCall otherRound) := afterCall_ok (by decide +kernel)
  exact (sleeper_wakes_iff (by decide +kernel) (by decide +kernel) (by decide +kernel) path (by decide +kernel) built).mpr
    (by decide +kernel)

def initSleeps : Kernel := doThreadWaiting 0 1 (afterCall newThread)

def initRound : Except Halt (Int × Kernel) := schedulerRr 100 (quantumOver initSleeps)

-- Init sleeps for one jiffy; the round at its time leaves it WAITING.
theorem init_sleeper_forgotten :
    (initSleeps.thread 0).state = .waiting ∧ (initSleeps.thread 0).wakeJiffy = 1 ∧
    Runs.Path (ForeignStep 0) (initSleeps,.outside) [.clock,.ended] (quantumOver initSleeps,.selecting) ∧
    (quantumOver initSleeps).jiffies = 1 ∧ returnsValue initRound 0 = true ∧
    ((afterCall initRound).thread 0).state = .waiting := by
  have path : Runs.Path (ForeignStep 0) (initSleeps,.outside) [.clock,.ended] (quantumOver initSleeps,.selecting) :=
    quantumOver_steps (by decide +kernel) (by decide +kernel) (by decide +kernel) (by decide +kernel)
  exact ⟨by decide +kernel,by decide +kernel,path,by decide +kernel,by decide +kernel,by decide +kernel⟩

end GramadoKernel
