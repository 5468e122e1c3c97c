import GramadoKernel.Library.Rounds
import GramadoKernel.Machine
import GramadoKernel.RoundList
import GramadoKernel.Unschedulable

namespace GramadoKernel

-- A thread that has been started stays linked and started.
structure Unmoved (t t' : Thread) : Prop where
  valid : t'.Valid ↔ t.Valid
  next : t.state ≠ .standby → t'.next = t.next
  started : t.state ≠ .standby → t'.state ≠ .standby

theorem Unmoved.refl (t : Thread) : Unmoved t t := ⟨Iff.rfl,fun _ => rfl,id⟩

theorem Unmoved.trans (left : Unmoved a b) (right : Unmoved b c) : Unmoved a c :=
  ⟨right.valid.trans left.valid,fun started => (right.next (left.started started)).trans (left.next started),
    fun started => right.started (left.started started)⟩

-- What is left of a round is not touched: the scheduler is where it was, only the processor
-- may have gone to another thread and the locks may have been opened.
structure RoundKept (k k' : Kernel) : Prop where
  globals : ∃ tid status shut jiffies, (shut = k.gSchedulerStatus ∨ shut = unlocked) ∧
    SameGlobals {k with currentThread := tid,taskSwitchStatus := status,gSchedulerStatus := shut,jiffies := jiffies} k'
  threads : ∀ i, Unmoved (k.thread i) (k'.thread i)

theorem SameGlobals.roundKept (globals : SameGlobals k k') (threads : ∀ i, Unmoved (k.thread i) (k'.thread i)) : RoundKept k k' :=
  ⟨⟨k.currentThread,k.taskSwitchStatus,k.gSchedulerStatus,k.jiffies,.inl rfl,globals⟩,threads⟩

theorem change_unmoved (jiffies : UInt64) (request : Request) (t : Thread) : Unmoved t (request.change jiffies t) := by
  cases request with
  | sleep | yield => exact ⟨Iff.rfl,fun _ => rfl,id⟩
  | blocked | waiting => exact ⟨Iff.rfl,fun _ => rfl,fun _ => by simp [Request.change]⟩
  | wakeup =>
      simp only [Request.change]
      split
      · exact ⟨Iff.rfl,fun _ => rfl,fun _ => by simp⟩
      · exact .refl t
  | zombie =>
      simp only [Request.change]
      split
      · exact .refl t
      · exact ⟨Iff.rfl,fun _ => rfl,fun _ => by simp⟩

theorem perform_unmoved (request : Request) (k : Kernel) (i : Nat) : Unmoved (k.thread i) ((perform request k).thread i) := by
  rw [perform_thread]
  split
  · exact change_unmoved _ _ _
  · exact .refl _

theorem Mailed.unmoved (mailed : Mailed Reached k k') (i : Nat) : Unmoved (k.thread i) (k'.thread i) := by
  by_cases reached : Reached i
  · obtain ⟨q,target⟩ := mailed.reached i reached
    rw [target]
    split
    · exact ⟨Iff.rfl,fun _ => rfl,fun _ => by simp [Thread.notified]⟩
    · exact ⟨Iff.rfl,fun _ => rfl,id⟩
  · rw [mailed.others i reached]
    exact .refl _

theorem summoned_unmoved (tid : Int) (k : Kernel) (i : Nat) : Unmoved (k.thread i) ((summoned tid k).thread i) := by
  have credits : ∀ k : Kernel, Unmoved (k.thread i) ((doCreditsByTid tid k).thread i) := by
    intro k
    unfold doCreditsByTid
    rw [onThread_thread]
    split
    · exact ⟨Iff.rfl,fun _ => rfl,id⟩
    · exact .refl _
  exact (credits k).trans ((credits _).trans (perform_unmoved (.wakeup tid) _ i))

theorem wmTimerEvent_unmoved {k : Kernel} (called : wmTimerEvent 1234 {k with jiffies := k.jiffies+1} = .ok (rv,k')) (i : Nat) :
    Unmoved (k.thread i) (k'.thread i) := by
  unfold wmTimerEvent at called
  split at called
  · cases called
    exact .refl _
  split at called
  · cases called
    exact .refl _
  split at called
  · simp only [bind_ok,Prod.exists,Except.ok.injEq,Prod.mk.injEq] at called
    obtain ⟨_,_,posted,_,rfl⟩ := called
    rcases ipcPostMessageToDs_parts posted with rfl | ⟨_,_,_,mailed⟩
    · exact .refl _
    · exact (summoned_unmoved _ {k with jiffies := k.jiffies+1} i).trans (mailed.unmoved i)
  · cases called
    exact .refl _

theorem Interrupted.unmoved (interrupted : Interrupted p u k k') (same : Unmoved (k.thread p) u) (i : Nat) : Unmoved (k.thread i) (k'.thread i) := by
  rcases interrupted.either i with ⟨rfl,here⟩ | ⟨_,elsewhere⟩
  · rw [here]
    exact same
  · rw [elsewhere]
    exact .refl _

theorem suspended_unmoved (t : Thread) (ms : UInt64) (cpu : Registers) : Unmoved t (t.suspended ms cpu) := by
  unfold Thread.suspended Thread.captured
  exact ⟨Iff.rfl,fun _ => rfl,id⟩

theorem slept_unmoved (t : Thread) (jiffies : UInt64) : Unmoved t (t.yielded.slept jiffies) := by
  have yielded : Unmoved t t.yielded := by
    unfold Thread.yielded
    split
    · exact ⟨Iff.rfl,fun _ => rfl,id⟩
    · exact .refl t
  refine yielded.trans ?_
  unfold Thread.slept
  split
  · exact ⟨Iff.rfl,fun _ => rfl,fun _ => by simp⟩
  · exact .refl _

theorem finished_unmoved (t : Thread) : Unmoved t t.finished := by
  refine ⟨Iff.rfl,fun _ => rfl,fun started => ?_⟩
  simp only [Thread.finished]
  split
  · simp
  · exact started

theorem Ended.roundKept (ended : Ended p k k') : RoundKept k k' := by
  obtain ⟨ms,cpu,interrupted⟩ := ended.interrupted
  exact interrupted.rewritten.globals.roundKept (interrupted.unmoved ((suspended_unmoved _ ms cpu).trans (finished_unmoved _)))

theorem kept_roundKept (tick : Tick tmp k .same k') : RoundKept k k' := by
  generalize kept : Switch.same = switch at tick
  cases tick with
  | callback threads globals => exact globals.roundKept fun i => by rw [threads]; exact .refl _
  | locked status interrupted => exact interrupted.rewritten.globals.roundKept (interrupted.unmoved ⟨Iff.rfl,fun _ => rfl,id⟩)
  | within status short interrupted =>
      exact interrupted.rewritten.globals.roundKept (interrupted.unmoved ((suspended_unmoved _ _ _).trans (slept_unmoved _ _)))
  | spawn | dispatch => cases kept

theorem Spawned.roundKept (spawned : Spawned p k k') : RoundKept k k' := by
  refine ⟨⟨p,unlocked,unlocked,k.jiffies,.inr rfl,spawned.globals⟩,fun i => ?_⟩
  by_cases same : i = p
  · subst same
    rw [spawned.target]
    exact ⟨Iff.rfl,fun started => absurd spawned.standby started,fun started => absurd spawned.standby started⟩
  · rw [spawned.others i same]
    exact .refl _

theorem Dispatched.roundKept (dispatched : Dispatched p k k') : RoundKept k k' := by
  refine dispatched.globals.roundKept fun i => ?_
  by_cases same : i = p
  · subst same
    rw [dispatched.target]
    exact ⟨Iff.rfl,fun _ => rfl,fun _ => by simp [Thread.launched,Thread.dispatched,Thread.entered]⟩
  · rw [dispatched.others i same]
    exact .refl _

theorem wmTimerEvent_roundKept {k : Kernel} (called : wmTimerEvent 1234 {k with jiffies := k.jiffies+1} = .ok (rv,k')) : RoundKept k k' :=
  ⟨⟨k.currentThread,k.taskSwitchStatus,k.gSchedulerStatus,k.jiffies+1,.inl rfl,(wmTimerEvent_clocked called).globals⟩,
    wmTimerEvent_unmoved called⟩

-- The scheduler stands at `c` in a round, and `rest` is left of it.
structure InRound (k : Kernel) (c : Nat) (rest : List Nat) : Prop extends Selecting k where
  idleStarted : (k.thread 0).state ≠ .standby
  here : k.currentq = some c
  visits : Linked.Visits (fun j => (k.thread j).next) (some c) (c :: rest) none
  inside : ∀ j ∈ rest, 0 < j ∧ j < threadCountMax ∧ k.listed j = true
  begun : ∀ j ∈ c :: rest, (k.thread j).state ≠ .standby

theorem InRound.kept (round : InRound k c rest) (kept : RoundKept k k') : InRound k' c rest ∧ k'.listed = k.listed := by
  obtain ⟨⟨tid,status,shut,jiffies,open_,globals⟩,threads⟩ := kept
  have listed : k'.listed = k.listed := globals.listed
  refine ⟨⟨⟨⟨⟨globals.idleThread.trans round.idleThread,globals.initThread.trans round.initThread,?_,?_,
    globals.schedulerInitialized.trans round.initialized,globals.schedulerPolicy.trans round.policy⟩,
    globals.systemState.trans round.systemState,?_,?_⟩,?_,?_⟩,?_,?_,?_,?_,?_⟩,listed⟩
  · exact (congrFun listed 0).trans round.idleListed
  · exact (threads 0).valid.mpr round.idleValid
  · exact fun none => round.counter (globals.threadsCounter.symm.trans none)
  · exact fun none => round.currentq (globals.currentq.symm.trans none)
  · intro closed
    have before : shut = locked := globals.gSchedulerStatus.symm.trans closed
    rcases open_ with same | opened
    · exact round.unlocked (same.symm.trans before)
    · exact absurd (opened.symm.trans before) (by decide)
  · exact fun single => round.several (globals.threadsCounter.symm.trans single)
  · exact (threads 0).started round.idleStarted
  · exact globals.currentq.trans round.here
  · exact round.visits.congr fun j member => (threads j).next (round.begun j member)
  · intro j member
    rw [listed]
    exact round.inside j member
  · exact fun j member => (threads j).started (round.begun j member)

-- A new round holds threads that are READY.
theorem Round.inRound (round : Round tmpTid 0 joined k k') (selecting : Selecting k) (started : (k.thread 0).state ≠ .standby) :
    InRound {k' with currentThread := 0} 0 joined := by
  have idle : (k'.thread 0).state ≠ .standby := by
    rw [round.idle_state]
    split
    · simp
    · exact started
  refine ⟨round.selecting selecting,idle,round.globals.currentq,?_,?_,?_⟩
  · have visits := round.visits
    rwa [show k'.currentq = some 0 from round.globals.currentq] at visits
  · intro j member
    rw [show k'.listed = k.listed from round.globals.listed]
    exact round.inside j member
  · intro j member
    rcases List.mem_cons.mp member with rfl | among
    · exact idle
    · obtain ⟨positive,below,listed⟩ := round.inside j among
      obtain ⟨t,joins,next,visit,iff,same⟩ := round.visited j positive below listed
      obtain rfl : joins = true := iff.mpr among
      rw [show ({k' with currentThread := 0} : Kernel).thread j = k'.thread j from rfl,same]
      simp [Thread.link,visit.joined_ready.2]

theorem psScheduler_rebuilds (selecting : Selecting k) (called : psScheduler tmpTid k = .ok (tid,k')) :
    tid = 0 ∧ ∃ joined, Round tmpTid 0 joined k k' := by
  rcases psScheduler_parts called with ⟨closed,_⟩ | ⟨_,single,_⟩ | ⟨_,_,zero,idle,joined,round⟩
  · exact absurd closed selecting.unlocked
  · exact absurd single selecting.several
  · obtain rfl : idle = 0 := Option.some.inj (round.idleThread.symm.trans selecting.idleThread)
    exact ⟨zero,joined,round⟩

-- The event responder is put on a round of its own.
theorem InRound.responded (round : InRound k c rest) (pending : PendingResponder k e) :
    InRound ({k with currentq := some e}.modify e Thread.responded responded_tid) e [] := by
  have threads : ∀ i, i ≠ e → ({k with currentq := some e}.modify e Thread.responded responded_tid).thread i = k.thread i :=
    fun i other => Kernel.modify_other _ _ _ _ other
  have target : ({k with currentq := some e}.modify e Thread.responded responded_tid).thread e = (k.thread e).responded :=
    Kernel.modify_same _ _ _ _
  refine ⟨⟨⟨⟨round.idleThread,round.initThread,round.idleListed,?_,round.initialized,round.policy⟩,round.systemState,round.counter,
    Option.some_ne_none e⟩,round.unlocked,round.several⟩,?_,rfl,?_,by simp,?_⟩
  · by_cases same : 0 = e
    · rw [← same] at target pending ⊢
      rw [target]
      exact pending.2.2.1
    · rw [threads 0 same]
      exact round.idleValid
  · by_cases same : 0 = e
    · rw [← same] at target ⊢
      rw [target]
      simp [Thread.responded]
    · rw [threads 0 same]
      exact round.idleStarted
  · refine ⟨rfl,?_⟩
    change (({k with currentq := some e}.modify e Thread.responded responded_tid).thread e).next = none
    rw [target]
    rfl
  · intro j member
    rw [List.mem_singleton.mp member,target]
    simp [Thread.responded]

theorem InRound.advanced (round : InRound k c (n :: rest)) : InRound {k with currentq := some n} n rest := by
  obtain ⟨_,following⟩ := round.visits
  refine ⟨{round with currentq := by simp},round.idleStarted,rfl,?_,fun j member => round.inside j (List.mem_cons_of_mem n member),
    fun j member => round.begun j (List.mem_cons_of_mem c member)⟩
  have start : (fun j => (k.thread j).next) c = some n := following.1
  rwa [start] at following

theorem InRound.following (round : InRound k c (n :: rest)) : (k.thread c).next = some n := round.visits.2.1

theorem InRound.last (round : InRound k c []) : (k.thread c).next = none := round.visits.2

theorem InRound.retargeted (round : InRound k c rest) (tid : Int) : InRound {k with currentThread := tid} c rest := {round with}

-- Whatever a turn of the selection cycle does, it leaves a round in progress.
theorem zeroGravity_inRound (round : InRound k c rest) (called : zeroGravity tmpTid k = .ok k') : ∃ d left, InRound k' d left ∧ k'.listed = k.listed := by
  rcases zeroGravity_parts called with ⟨single,_⟩ | ⟨_,e,pending,rfl⟩ | ⟨_,_,d,here,⟨_,tid,k₁,scheduled,rfl⟩ | ⟨n,following,rfl⟩⟩
  · exact absurd single round.several
  · exact ⟨e,[],round.responded pending,rfl⟩
  · obtain ⟨rfl,joined,built⟩ := psScheduler_rebuilds round.toSelecting scheduled
    exact ⟨0,joined,built.inRound round.toSelecting round.idleStarted,built.globals.listed⟩
  · obtain rfl : c = d := Option.some.inj (round.here.symm.trans here)
    cases rest with
    | nil => cases round.last.symm.trans following
    | cons m rest =>
        obtain rfl : m = n := Option.some.inj (round.following.symm.trans following)
        exact ⟨m,rest,round.advanced,rfl⟩

theorem selectThread_inRound (round : InRound k c rest) (selected : selectThread tmp fuel k = .ok (some k')) :
    ∃ d left, InRound k' d left ∧ k'.listed = k.listed := by
  induction fuel generalizing k c rest tmp with
  | zero => cases selected
  | succ fuel ih =>
      simp only [selectThread,bind_ok,Prod.exists] at selected
      obtain ⟨k₁,turned,found,k₂,ahead,selected⟩ := selected
      obtain ⟨d,left,turn,listed⟩ := zeroGravity_inRound round turned
      rcases goAhead_parts ahead with ⟨rfl,p,_,_,rfl⟩ | ⟨rfl,_,tid,k₃,scheduled,rfl⟩
      · cases selected
        exact ⟨d,left,turn.retargeted _,listed⟩
      · obtain ⟨rfl,joined,built⟩ := psScheduler_rebuilds turn.toSelecting scheduled
        obtain ⟨d',left',again,same⟩ := ih (built.inRound turn.toSelecting turn.idleStarted) selected
        exact ⟨d',left',again,same.trans (Eq.trans built.globals.listed listed)⟩

-- With nothing pending, the next of the round is selected if it can run.
theorem selects_next (round : InRound k c (n :: rest)) (quiet : ∀ e, ¬ PendingResponder k e) (eligible : Eligible k n)
    (selected : selectThread tmp fuel k = .ok (some k')) :
    k'.currentThread = n ∧ InRound k' n rest ∧ k'.listed = k.listed := by
  cases fuel with
  | zero => cases selected
  | succ fuel =>
      have own : (k.thread n).tid = n := k.tids n (round.inside n List.mem_cons_self).2.2
      have walks := zeroGravity_walks (tmp 0) round.counter round.several quiet
      rw [endOfRound_next (tmp 0) round.here round.following] at walks
      have found := goAhead_found (k := {k with currentq := some n}) (tmp 1) rfl eligible
      simp only [selectThread,walks,found,bind,Except.bind,if_true,Except.ok.injEq,Option.some.injEq] at selected
      subst selected
      exact ⟨own,round.advanced.retargeted _,rfl⟩

-- A thread that can be dispatched and keeps running.
def Able (k : Kernel) (t : Nat) : Prop := Eligible k t ∧ (k.thread t).exitInProgress = false

-- With nothing pending and nothing left, a new round is built in which every able thread has
-- a place, and its first is selected.
theorem selects_new (round : InRound k c []) (quiet : ∀ e, ¬ PendingResponder k e) (present : ∃ t : Nat, k.lookup t = some t ∧ Able k t)
    (selected : selectThread tmp fuel k = .ok (some k')) :
    ∃ q left, k'.currentThread = (q : Nat) ∧ InRound k' q left ∧ k'.listed = k.listed ∧
      ∀ t : Nat, k.lookup t = some t → Able k t → q = t ∨ t ∈ left := by
  cases fuel with
  | zero => cases selected
  | succ fuel =>
      obtain ⟨k₁,joined,called,built⟩ := psScheduler_round (tmp 0) round.toSelecting
      have walks := zeroGravity_walks (tmp 0) round.counter round.several quiet
      rw [endOfRound_last round.here round.last called] at walks
      have first := built.inRound round.toSelecting round.idleStarted
      have same : k₁.listed = k.listed := built.globals.listed
      have zero : (k₁.thread 0).tid = 0 := k₁.tids 0 first.idleListed
      by_cases idle : Eligible {k₁ with currentThread := 0} 0
      · have ahead := goAhead_found (tmp 1) first.here idle
        simp only [selectThread,walks,ahead,bind,Except.bind,if_true,Except.ok.injEq,Option.some.injEq] at selected
        subst selected
        refine ⟨0,joined,zero,first.retargeted _,same,?_⟩
        intro t found able
        obtain ⟨_,below,listed⟩ := lookup_some.mp found
        by_cases init : t = 0
        · exact .inl init.symm
        · exact .inr ((built.mem_iff t).mpr ⟨Nat.pos_of_ne_zero init,below,listed,.inl ⟨able.1.1,able.2,.inl able.1.2⟩⟩)
      · obtain ⟨k₂,again,called₂,rebuilt⟩ := psScheduler_round (tmp 1) first.toSelecting
        have back := goAhead_back first.here idle called₂
        rw [selectThread_back tmp fuel walks back] at selected
        have second := rebuilt.inRound first.toSelecting first.idleStarted
        have place : ∀ t : Nat, k.lookup t = some t → Able k t → t ∈ again := by
          intro t found able
          obtain ⟨⟨valid,ready⟩,stays⟩ := able
          obtain ⟨_,below,listed⟩ := lookup_some.mp found
          have init : t ≠ 0 := by
            rintro rfl
            refine idle ⟨first.idleValid,?_⟩
            change (k₁.thread 0).state = .ready
            rw [built.idle_state,ready,ite_self]
          have still : (k₁.thread t).Due k.jiffies :=
            (built.due_iff (Nat.pos_of_ne_zero init) below listed).mpr (.inl ⟨valid,stays,.inl ready⟩)
          refine (rebuilt.mem_iff t).mpr ⟨Nat.pos_of_ne_zero init,below,(congrFun same t).trans listed,.inl ?_⟩
          rw [show ({k₁ with currentThread := 0} : Kernel).jiffies = k.jiffies from built.globals.jiffies]
          exact still
        have calm : ∀ e, ¬ PendingResponder {k₂ with currentThread := 0} e := by
          intro e pending
          have before : Move tmp k (.round (tmp 0)) {k₁ with currentThread := 0} := .round (i := 0) built
          have after : Move tmp {k₁ with currentThread := 0} (.round (tmp 1)) {k₂ with currentThread := 0} := .round (i := 1) rebuilt
          exact quiet e (before.pending (after.pending pending))
        obtain ⟨t,found,able⟩ := present
        cases again with
        | nil => cases place t found able
        | cons n left =>
            obtain ⟨current,there,last⟩ := selects_next second calm (rebuilt.settled.following n second.following).1 selected
            refine ⟨n,left,current,there,last.trans (Eq.trans rebuilt.globals.listed same),?_⟩
            intro t found able
            exact (List.mem_cons.mp (place t found able)).imp Eq.symm id

-- The thread that an action gives the processor to at the end of another's quantum.
def Action.dispatched : Action → Option Int
  | .tick _ _ (.dispatch tid) => some tid
  | _ => none

def dispatches (actions : List Action) : List Int := actions.filterMap Action.dispatched

theorem irq0Timer_selects (called : irq0Timer frame cpl callback tmp fuel k = .ok (some (.dispatch tid,k'))) :
    ∃ rv k₁ p k₂ k₃ q, wmTimerEvent 1234 {k with jiffies := k.jiffies+1} = .ok (rv,k₁) ∧ Ended p k₁ k₂ ∧
      selectThread tmp fuel k₂ = .ok (some k₃) ∧ Dispatched q k₃ k' ∧ tid = k₃.currentThread := by
  simp only [irq0Timer,bind_ok,require_ok,Prod.exists] at called
  obtain ⟨rv,k₁,event,_,_,_,_,called⟩ := called
  split at called
  · cases called
  · simp only [bind_ok] at called
    obtain ⟨result,switched,called⟩ := called
    split at called
    · cases called
    · rename_i k₄ _
      cases called
      rcases taskSwitch_cases k₁ frame cpl switched with ⟨kept,_⟩ | ⟨p,k₂,ended,⟨q,spawn,_⟩ | ⟨current,_,k₃,chosen,dispatched⟩⟩
      · cases kept
      · cases spawn
      · cases current
        obtain ⟨q,effect⟩ := dispatchCurrent_dispatched dispatched
        exact ⟨rv,k₁,p,k₂,k₃,q,event,ended,chosen,
          ⟨effect.found,effect.valid,effect.ready,effect.target,effect.others,{effect.globals with},effect.responder⟩,effect.globals.currentThread⟩
    · cases called

-- Every action leaves a round in progress, and only a dispatch moves it on.
theorem acts_inRound (round : InRound k c rest) (acts : Acts k action k') :
    ∃ d left, InRound k' d left ∧ k'.listed = k.listed ∧ (action.dispatched = none → d = c ∧ left = rest) := by
  have carried : RoundKept k k' → ∃ d left, InRound k' d left ∧ k'.listed = k.listed ∧ (action.dispatched = none → d = c ∧ left = rest) :=
    fun kept => ⟨c,rest,(round.kept kept).1,(round.kept kept).2,fun _ => ⟨rfl,rfl⟩⟩
  cases acts with
  | request request => exact carried ((perform_globals request k).roundKept (perform_unmoved request k))
  | mail sent => exact carried ((sends_mailed sent).globals.roundKept (sends_mailed sent).unmoved)
  | tick called =>
      rename_i switch
      by_cases taken : ∃ tid, switch = .dispatch tid
      · obtain ⟨tid,rfl⟩ := taken
        obtain ⟨rv,k₁,p,k₂,k₃,q,event,ended,chosen,dispatched,_⟩ := irq0Timer_selects called
        obtain ⟨clocked,first⟩ := round.kept (wmTimerEvent_roundKept event)
        obtain ⟨stopped,second⟩ := clocked.kept ended.roundKept
        obtain ⟨d,left,selected,third⟩ := selectThread_inRound stopped chosen
        obtain ⟨there,last⟩ := selected.kept dispatched.roundKept
        exact ⟨d,left,there,last.trans (third.trans (second.trans first)),fun none => by cases none⟩
      · obtain ⟨rv,k₁,event,tick⟩ := irq0Timer_tick called
        obtain ⟨clocked,first⟩ := round.kept (wmTimerEvent_roundKept event)
        cases which : tick with
        | callback | locked | within =>
            obtain ⟨there,last⟩ := clocked.kept (kept_roundKept tick)
            exact ⟨c,rest,there,last.trans first,fun _ => ⟨rfl,rfl⟩⟩
        | spawn ended spawned =>
            obtain ⟨stopped,second⟩ := clocked.kept ended.roundKept
            obtain ⟨there,last⟩ := stopped.kept spawned.roundKept
            exact ⟨c,rest,there,last.trans (second.trans first),fun _ => ⟨rfl,rfl⟩⟩
        | dispatch => exact absurd ⟨_,rfl⟩ taken

-- The threads in threadList.
def residents (listed : Nat → Bool) : List Nat := (List.range threadCountMax).filter (listed ·)

theorem InRound.short (round : InRound k c rest) : rest.length < (residents k.listed).length := by
  have apart : 0 ∉ rest := fun member => absurd (round.inside 0 member).1 (Nat.lt_irrefl 0)
  have distinct : (0 :: rest).Nodup := List.nodup_cons.mpr ⟨apart,(List.nodup_cons.mp round.visits.nodup).2⟩
  have inside : 0 :: rest ⊆ residents k.listed := by
    intro j member
    rw [residents,List.mem_filter,List.mem_range]
    rcases List.mem_cons.mp member with rfl | among
    · exact ⟨by decide,round.idleListed⟩
    · exact (round.inside j among).2
  exact (List.subperm_of_subset distinct inside).length_le

-- A thread that the task switch at the end of a quantum finds READY: it is, or it is the one
-- whose quantum ends.
def CanRun (k : Kernel) (t : Nat) : Prop :=
  (k.thread t).Valid ∧ ((k.thread t).state = .ready ∨ ((k.thread t).state = .running ∧ k.lookup k.currentThread = some t))

-- Nothing cuts the round here: no responder waits, the clock has no message, and the next of
-- the round can run.
structure Smooth (k : Kernel) : Prop where
  quiet : ∀ e, ¬ PendingResponder k e
  silent : k.gUseEventResponder = true → ∀ e, ¬ Rings k e
  following : ∀ c n, k.currentq = some c → (k.thread c).next = some n → CanRun k n

theorem Smooth.stopped (smooth : Smooth k) (clocked : Clocked k k₁) (ended : Ended p k₁ k₂) : ∀ e, ¬ PendingResponder k₂ e := by
  intro e pending
  have before := ended.pending pending
  have use : k.gUseEventResponder = true := clocked.globals.gUseEventResponder.symm.trans before.1
  exact smooth.quiet e (clocked.pending (smooth.silent use e) before)

theorem CanRun.stopped (can : CanRun k t) (clocked : Clocked k k₁) (ended : Ended p k₁ k₂) : Eligible k₂ t := by
  obtain ⟨valid,runs⟩ := can
  have roused := clocked.roused t
  have still : (k₁.thread t).Valid := roused.valid.mpr valid
  have states : (k₁.thread t).state = .ready ∨ ((k₁.thread t).state = .running ∧ t = p) := by
    rcases roused.state with same | ready
    · rw [same]
      refine runs.imp id fun ⟨running,current⟩ => ⟨running,?_⟩
      obtain ⟨_,_,interrupted⟩ := ended.interrupted
      have found := interrupted.found
      rw [clocked.lookup,clocked.globals.currentThread] at found
      exact Option.some.inj (current.symm.trans found)
    · exact .inl ready
  obtain ⟨_,_,⟨_,u,alike,here⟩ | ⟨other,elsewhere⟩⟩ := ended.thread t
  · unfold Eligible
    rw [here,finished_valid,alike.valid]
    refine ⟨still,?_⟩
    simp only [Thread.finished,alike.state]
    rcases states with ready | ⟨running,_⟩
    · simp [ready]
    · simp [running]
  · unfold Eligible
    rw [elsewhere]
    exact ⟨still,states.resolve_right fun both => other both.2⟩

theorem CanRun.able (can : CanRun k t) (stays : (k.thread t).exitInProgress = false) (clocked : Clocked k k₁) (ended : Ended p k₁ k₂) : Able k₂ t := by
  refine ⟨can.stopped clocked ended,?_⟩
  have roused := (clocked.roused t).exitInProgress.trans stays
  obtain ⟨_,_,⟨_,u,alike,here⟩ | ⟨_,elsewhere⟩⟩ := ended.thread t
  · rw [here]
    exact alike.exitInProgress.trans roused
  · rw [elsewhere]
    exact roused

-- The thread can be dispatched at this end of a quantum and is not on its way out.
def Competes (t : Nat) (k : Kernel) : Prop := CanRun k t ∧ (k.thread t).exitInProgress = false

-- A new round gives a place to every thread that competes.
def Seating (k : Kernel) (x : Int) (others : List Int) : Prop :=
  (∀ t : Nat, k.lookup t = some t → Competes t k → x = t ∨ (t : Int) ∈ others) ∧ others.length < (residents k.listed).length

def tids (threads : List Nat) : List Int := List.map (fun j : Nat => (j : Int)) threads

-- A smooth dispatch is a turn of the round.
theorem smooth_turn (round : InRound k c rest) (smooth : Smooth k) (acts : Acts k action k') (taken : action.dispatched = some tid) :
    ∃ d left, InRound k' d left ∧ k'.listed = k.listed ∧ Rounds.Turn (Seating k) (tids rest) tid (tids left) := by
  cases acts with
  | request | mail => cases taken
  | tick called =>
      rename_i switch
      cases switch with
      | same | spawn => cases taken
      | dispatch target =>
          cases taken
          obtain ⟨rv,k₁,p,k₂,k₃,q,event,ended,chosen,dispatched,rfl⟩ := irq0Timer_selects called
          have clocked := wmTimerEvent_clocked event
          obtain ⟨first,same₁⟩ := round.kept (wmTimerEvent_roundKept event)
          obtain ⟨stopped,same₂⟩ := first.kept ended.roundKept
          have quiet := smooth.stopped clocked ended
          have listed : k₂.listed = k.listed := same₂.trans same₁
          cases rest with
          | cons n rest =>
              have eligible := (smooth.following c n round.here round.following).stopped clocked ended
              obtain ⟨current,selected,same₃⟩ := selects_next stopped quiet eligible chosen
              obtain ⟨there,same₄⟩ := selected.kept dispatched.roundKept
              refine ⟨n,rest,there,same₄.trans (same₃.trans listed),?_⟩
              rw [current]
              exact .next
          | nil =>
              have able : ∀ t : Nat, Competes t k → Able k₂ t := fun t competes => competes.1.able competes.2 clocked ended
              by_cases present : ∃ t : Nat, k₂.lookup t = some t ∧ Able k₂ t
              · obtain ⟨q,left,current,selected,same₃,seats⟩ := selects_new stopped quiet present chosen
                obtain ⟨there,same₄⟩ := selected.kept dispatched.roundKept
                have same := same₄.trans (same₃.trans listed)
                refine ⟨q,left,there,same,?_⟩
                rw [current]
                refine .renewed ⟨?_,?_⟩
                · intro t found competes
                  refine (seats t (by rwa [lookup_congr listed]) (able t competes)).imp (congrArg _) fun member => ?_
                  exact List.mem_map_of_mem member
                · rw [tids,List.length_map,← same]
                  exact there.short
              · obtain ⟨q,left,selected,same₃⟩ := selectThread_inRound stopped chosen
                obtain ⟨there,same₄⟩ := selected.kept dispatched.roundKept
                have same := same₄.trans (same₃.trans listed)
                refine ⟨q,left,there,same,.renewed ⟨?_,?_⟩⟩
                · intro t found competes
                  exact absurd ⟨t,by rwa [lookup_congr listed],able t competes⟩ present
                · rw [tids,List.length_map,← same]
                  exact there.short

-- An action under which the round goes on, and a condition on the state where the processor
-- is given away.
def Smoothly (Met : Kernel → Prop) (k : Kernel) (action : Action) (k' : Kernel) : Prop :=
  Acts k action k' ∧ (action.dispatched ≠ none → Smooth k ∧ Met k)

theorem dispatches_snoc (actions : List Action) (action : Action) :
    dispatches (actions ++ [action]) = dispatches actions ++ action.dispatched.toList := by
  unfold dispatches
  cases dispatched : action.dispatched <;> simp [dispatched]

-- The machine serves its rounds in turn.
theorem smooth_run {New : Int → List Int → Prop} {Met : Kernel → Prop} (round : InRound k c rest)
    (seats : ∀ m x others, m.listed = k.listed → Met m → Seating m x others → New x others)
    (run : Runs.Path (Smoothly Met) k actions k') :
    ∃ d left, InRound k' d left ∧ k'.listed = k.listed ∧ Runs.Path (Rounds.Turn New) (tids rest) (dispatches actions) (tids left) := by
  induction run with
  | nil => exact ⟨c,rest,round,rfl,.nil⟩
  | step earlier last ih =>
      rename_i m action k'
      obtain ⟨d,left,there,listed,served⟩ := ih
      obtain ⟨acts,met⟩ := last
      rw [dispatches_snoc]
      cases taken : action.dispatched with
      | none =>
          obtain ⟨d',left',after,same,still⟩ := acts_inRound there acts
          rw [(still taken).2] at after
          exact ⟨d',left,after,same.trans listed,by simpa using served⟩
      | some tid =>
          obtain ⟨smooth,condition⟩ := met (by simp [taken])
          obtain ⟨d',left',after,same,turn⟩ := smooth_turn there smooth acts taken
          exact ⟨d',left',after,same.trans listed,.step served (turn.weaken fun x others => seats m x others listed condition)⟩

theorem acts_run (round : InRound k c rest) (run : Runs.Path Acts k actions k') : ∃ d left, InRound k' d left ∧ k'.listed = k.listed := by
  induction run with
  | nil => exact ⟨c,rest,round,rfl⟩
  | step _ last ih =>
      obtain ⟨d,left,there,listed⟩ := ih
      obtain ⟨d',left',after,same,_⟩ := acts_inRound there last
      exact ⟨d',left',after,same.trans listed⟩

-- A round is served in its order: as long as nothing cuts it, the processor goes to the threads
-- that are left of it, one after another and each once, before it goes to any other.
theorem round_in_order (round : InRound k c rest) (run : Runs.Path (Smoothly fun _ => True) k actions k') :
    (∃ d left, InRound k' d left ∧ tids rest = dispatches actions ++ tids left) ∨ tids rest <+: dispatches actions := by
  have seats : ∀ m x others, m.listed = k.listed → True → Seating m x others → (fun _ _ => True) x others := fun _ _ _ _ _ _ => trivial
  obtain ⟨d,left,there,_,served⟩ := smooth_run round seats run
  exact (Rounds.served_in_order served).imp (fun split => ⟨d,left,there,split⟩) id

instance (k : Kernel) (t : Nat) : Decidable (CanRun k t) := inferInstanceAs (Decidable (_ ∧ (_ ∨ (_ ∧ _))))

instance (t : Nat) (k : Kernel) : Decidable (Competes t k) := inferInstanceAs (Decidable (_ ∧ _))

def nextTick (k : Kernel) : Except Halt (Option (Switch × Kernel)) := irq0Timer .zero 3 false (fun _ => -1) 2 k

def dispatchOf (tid : Int) : Action := .tick false (fun _ => -1) (.dispatch tid)

-- Idle starts a round in which thread 100 is next; no thread has the foreground.
def idleRuns : Kernel := afterTick (nextTick {doThreadReady 100 (afterCall newThread) with foregroundThread := -1})

def otherRuns : Kernel := afterTick (nextTick idleRuns)

def idleAgain : Kernel := afterTick (nextTick otherRuns)

theorem idleRuns_inRound : InRound idleRuns 0 [100] := by
  have globals : idleRuns.idleThread = some 0 ∧ idleRuns.initThread = some 0 ∧ idleRuns.listed 0 = true ∧ idleRuns.schedulerInitialized = true ∧
      idleRuns.schedulerPolicy = schedPolicyRr ∧ idleRuns.systemState = .running ∧ idleRuns.threadsCounter = 2 ∧
      idleRuns.currentq = some 0 ∧ idleRuns.gSchedulerStatus = unlocked ∧ idleRuns.listed 100 = true := by
    decide +kernel
  have threads : (idleRuns.thread 0).Valid ∧ (idleRuns.thread 0).state ≠ .standby ∧ (idleRuns.thread 100).state ≠ .standby ∧
      (idleRuns.thread 0).next = some 100 ∧ (idleRuns.thread 100).next = none := by
    decide +kernel
  obtain ⟨idle,init,listed,ready,policy,running,counter,here,unlocked,other⟩ := globals
  obtain ⟨valid,started,begun,next,last⟩ := threads
  refine ⟨⟨⟨⟨idle,init,listed,valid,ready,policy⟩,running,?_,?_⟩,?_,?_⟩,started,here,⟨rfl,next,last⟩,?_,?_⟩
  · rw [counter]
    decide
  · rw [here]
    exact Option.some_ne_none 0
  · rw [unlocked]
    decide
  · rw [counter]
    decide
  · intro j member
    obtain rfl := List.mem_singleton.mp member
    exact ⟨by decide,by decide,other⟩
  · intro j member
    rcases List.mem_cons.mp member with rfl | rest
    · exact started
    · obtain rfl := List.mem_singleton.mp rest
      exact begun

theorem smoothly_tick {tid : Int} {Met : Kernel → Prop} (clear : endsWith (nextTick k) (.dispatch tid) = true ∧ k.evResponderThread = none ∧
    k.displayServerInitialized = false ∧ k.currentq = some c ∧ ∀ n ∈ (k.thread c).next, CanRun k n) (met : Met k) :
    Smoothly Met k (dispatchOf tid) (afterTick (nextTick k)) := by
  obtain ⟨called,nobody,serverless,here,following⟩ := clear
  refine ⟨.tick (afterTick_ok called),fun _ => ⟨⟨?_,?_,?_⟩,met⟩⟩
  · intro e pending
    cases nobody.symm.trans pending.2.1
  · intro _ e rings
    cases serverless.symm.trans rings.2.2.1
  · intro d n standing next
    obtain rfl : c = d := Option.some.inj (here.symm.trans standing)
    exact following n next

theorem idleRuns_smoothly {Met : Kernel → Prop} (met : Met idleRuns) : Smoothly Met idleRuns (dispatchOf 100) otherRuns :=
  smoothly_tick (c := 0) (by decide +kernel) met

theorem round_in_order_once : (∃ d left, InRound otherRuns d left ∧ tids [100] = [100] ++ tids left) ∨ tids [100] <+: [100] :=
  round_in_order idleRuns_inRound (.step .nil (idleRuns_smoothly trivial))

-- No thread waits for more than two rounds: whatever has happened before, a thread that can run
-- whenever the processor is given away gets it among the next dispatches, of which there are
-- fewer than two for each thread in threadList, unless something cuts a round.
theorem ready_thread_dispatched {t : Nat} (round : InRound k c rest) (before : Runs.Path Acts k earlier m) (found : k.lookup t = some t)
    (run : Runs.Path (Smoothly (Competes t)) m actions k') (long : 2*(residents k.listed).length ≤ (dispatches actions).length+1) :
    (t : Int) ∈ dispatches actions := by
  obtain ⟨d,left,there,listed⟩ := acts_run round before
  have seats : ∀ n x others, n.listed = m.listed → Competes t n → Seating n x others →
      Rounds.Seats (t : Int) (residents k.listed).length x others := by
    intro n x others same competes seating
    obtain ⟨seats,short⟩ := seating
    rw [same,listed] at short
    exact ⟨seats t ((lookup_congr (same.trans listed) t).trans found) competes,short⟩
  obtain ⟨_,_,_,_,served⟩ := smooth_run there seats run
  refine Rounds.served_within served ?_ long
  rw [tids,List.length_map,← listed]
  exact there.short

theorem ready_thread_dispatched_once : (100 : Int) ∈ dispatches [dispatchOf 100,dispatchOf 0,dispatchOf 100] := by
  have first : Smoothly (Competes 100) idleRuns (dispatchOf 100) otherRuns := idleRuns_smoothly (by decide +kernel)
  have second : Smoothly (Competes 100) otherRuns (dispatchOf 0) idleAgain :=
    smoothly_tick (c := 100) (by decide +kernel) (by decide +kernel)
  have third : Smoothly (Competes 100) idleAgain (dispatchOf 100) (afterTick (nextTick idleAgain)) :=
    smoothly_tick (c := 0) (by decide +kernel) (by decide +kernel)
  exact ready_thread_dispatched (t := 100) idleRuns_inRound .nil (by decide +kernel) (.cons first (.cons second (.cons third .nil))) (by decide +kernel)

theorem selects_responder (round : InRound k c rest) (pending : PendingResponder k e) (own : (k.thread e).tid = e)
    (selected : selectThread tmp fuel k = .ok (some k')) : k'.currentThread = e ∧ InRound k' e [] := by
  cases fuel with
  | zero => cases selected
  | succ fuel =>
      have responds := zeroGravity_responds (tmp 0) round.counter round.several pending
      have found := goAhead_found (tmp 1) rfl (responded_eligible k pending.2.2.1)
      simp only [selectThread,responds,found,bind,Except.bind,if_true,Except.ok.injEq,Option.some.injEq] at selected
      subst selected
      refine ⟨?_,(round.responded pending).retargeted _⟩
      simp only [Kernel.modify_same]
      exact own

theorem Clocked.stillPending (clocked : Clocked k k') (silent : ∀ i, ¬ Rings k i) (pending : PendingResponder k e) : PendingResponder k' e := by
  obtain ⟨use,responder,event⟩ := pending
  refine ⟨clocked.globals.gUseEventResponder.trans use,?_,?_⟩
  · rcases clocked.responder with same | ⟨i,rings,_⟩
    · exact same.trans responder
    · exact absurd rings (silent i)
  · rw [clocked.others e (silent e)]
    exact event

theorem Ended.stillPending (ended : Ended p k k') (pending : PendingResponder k e) : PendingResponder k' e := by
  obtain ⟨use,responder,valid,event⟩ := pending
  obtain ⟨globals,same,place⟩ := ended.thread e
  refine ⟨globals.gUseEventResponder.trans use,same.trans responder,?_⟩
  rcases place with ⟨_,u,alike,here⟩ | ⟨_,elsewhere⟩
  · rw [here]
    exact ⟨alike.valid.mpr valid,alike.hasPendingEvent.trans event⟩
  · rw [elsewhere]
    exact ⟨valid,event⟩

-- Whenever the processor is given away a message for `e` is waiting, and the clock brings none.
def Flooded (e : Nat) (k : Kernel) (action : Action) (k' : Kernel) : Prop :=
  Acts k action k' ∧ (action.dispatched ≠ none → PendingResponder k e ∧ ∀ i, ¬ Rings k i)

theorem flooded_step {e : Nat} (round : InRound k c rest) (found : k.lookup e = some e) (step : Flooded e k action k') (taken : action.dispatched = some tid) :
    tid = e ∧ InRound k' e [] := by
  obtain ⟨acts,flood⟩ := step
  obtain ⟨pending,silent⟩ := flood (by simp [taken])
  cases acts with
  | request | mail => cases taken
  | tick called =>
      rename_i switch
      cases switch with
      | same | spawn => cases taken
      | dispatch target =>
          cases taken
          obtain ⟨rv,k₁,p,k₂,k₃,q,event,ended,chosen,dispatched,rfl⟩ := irq0Timer_selects called
          obtain ⟨first,same₁⟩ := round.kept (wmTimerEvent_roundKept event)
          obtain ⟨stopped,same₂⟩ := first.kept ended.roundKept
          have still := ended.stillPending ((wmTimerEvent_clocked event).stillPending silent pending)
          have listed := congrFun (same₂.trans same₁) e
          obtain ⟨current,selected⟩ := selects_responder stopped still (k₂.tids e (listed.trans (lookup_some.mp found).2.2)) chosen
          exact ⟨current,(selected.kept dispatched.roundKept).1⟩

-- A thread that always has a message waiting starves all others, and what is left of the round
-- is dropped.
theorem responder_starves {e : Nat} (round : InRound k c rest) (before : Runs.Path Acts k earlier m) (found : k.lookup e = some e)
    (run : Runs.Path (Flooded e) m actions k') :
    (∀ tid ∈ dispatches actions, tid = e) ∧ (dispatches actions ≠ [] → InRound k' e []) := by
  obtain ⟨c,rest,start,listed⟩ := acts_run round before
  have both : ∃ d left, InRound k' d left ∧ k'.listed = k.listed ∧ (∀ tid ∈ dispatches actions, tid = e) ∧
      (dispatches actions ≠ [] → d = e ∧ left = []) := by
    induction run with
    | nil => exact ⟨c,rest,start,listed,by simp [dispatches],by simp [dispatches]⟩
    | step earlier last ih =>
        rename_i action after
        obtain ⟨d,left,there,same,only,dropped⟩ := ih
        rw [dispatches_snoc]
        cases taken : action.dispatched with
        | none =>
            obtain ⟨d',left',after,same',still⟩ := acts_inRound there last.1
            obtain ⟨rfl,rfl⟩ := still taken
            exact ⟨d',left',after,same'.trans same,by simpa using only,by simpa using dropped⟩
        | some tid =>
            obtain ⟨_,_,_,same',_⟩ := acts_inRound there last.1
            obtain ⟨rfl,alone⟩ := flooded_step there ((lookup_congr same e).trans found) last taken
            refine ⟨e,[],alone,same'.trans same,?_,fun _ => ⟨rfl,rfl⟩⟩
            intro tid member
            rcases List.mem_append.mp member with old | new
            · exact only tid old
            · simpa using new
  obtain ⟨d,left,there,_,only,dropped⟩ := both
  refine ⟨only,fun some => ?_⟩
  obtain ⟨rfl,rfl⟩ := dropped some
  exact there

-- A message for thread 100 before the tick.
def messageWaits : Kernel := afterCall (ipcPostMessageToTid 0 100 7 0 0 idleRuns)

theorem responder_starves_once : (∀ tid ∈ dispatches [dispatchOf 100], tid = (100 : Nat)) ∧
    (dispatches [dispatchOf 100] ≠ [] → InRound (afterTick (nextTick messageWaits)) 100 []) := by
  have posted : Acts idleRuns (.mail (.tid 0 100 7 0 0)) messageWaits := .mail ⟨0,afterCall_ok (by decide +kernel)⟩
  have flooded : Flooded 100 messageWaits (dispatchOf 100) (afterTick (nextTick messageWaits)) := by
    have facts : endsWith (nextTick messageWaits) (.dispatch 100) = true ∧ messageWaits.gUseEventResponder = true ∧
        messageWaits.evResponderThread = some 100 ∧ (messageWaits.thread 100).Valid ∧ (messageWaits.thread 100).hasPendingEvent = true ∧
        messageWaits.displayServerInitialized = false := by
      decide +kernel
    obtain ⟨called,use,responder,valid,event,serverless⟩ := facts
    refine ⟨.tick (afterTick_ok called),fun _ => ⟨⟨use,responder,valid,event⟩,?_⟩⟩
    intro i rings
    cases serverless.symm.trans rings.2.2.1
  exact responder_starves idleRuns_inRound (.step .nil posted) (by decide +kernel) (.step .nil flooded)

end GramadoKernel
