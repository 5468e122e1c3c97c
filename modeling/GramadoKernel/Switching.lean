import GramadoKernel.Library.Runs
import GramadoKernel.Round
import GramadoKernel.TaskSwitch

namespace GramadoKernel

-- One thread structure becomes `t`, and nothing else is touched that a
-- scheduling decision reads.
structure Rewritten (p : Nat) (t : Thread) (k k' : Kernel) : Prop where
  globals : SameGlobals k k'
  responder : k'.evResponderThread = k.evResponderThread
  target : k'.thread p = t
  others : ∀ i, i ≠ p → k'.thread i = k.thread i

theorem modify_rewritten (k : Kernel) (p : Nat) (f : Thread → Thread) (keeps : ∀ t, (f t).tid = t.tid) :
    Rewritten p (f (k.thread p)) k (k.modify p f keeps) :=
  ⟨modify_globals k p f keeps,rfl,k.modify_same p f keeps,fun _ other => k.modify_other p f keeps other⟩

theorem Rewritten.trans (first : Rewritten p t a b) (second : Rewritten p u b c) : Rewritten p u a c :=
  ⟨first.globals.trans second.globals,second.responder.trans first.responder,second.target,
    fun i other => (second.others i other).trans (first.others i other)⟩

theorem same_rewritten (k : Kernel) (p : Nat) : Rewritten p (k.thread p) k k := ⟨.refl k,rfl,rfl,fun _ _ => rfl⟩

theorem incrementDispatcherCount_parts (called : incrementDispatcherCount type k = .ok k') :
    ∃ d, k' = {k with dispatchCount := some d} := by
  simp only [incrementDispatcherCount,bind_ok,require_ok,pointer_ok,Except.ok.injEq] at called
  obtain ⟨d,_,_,_,rfl⟩ := called
  exact ⟨d.count type,rfl⟩

def Thread.captured (t : Thread) (cpu : Registers) : Thread :=
  {t with
    context := cpu.selectors16
    toSupervisor := t.toSupervisor+1
    rflagsCurrentIopl := cpu.rflags &&& 0x200}

theorem captured_tid (cpu : Registers) (t : Thread) : (t.captured cpu).tid = t.tid := rfl

theorem saveCurrentContext_parts (called : saveCurrentContext k = .ok k') :
    ∃ p, k.lookup k.currentThread = some p ∧ Rewritten p ((k.thread p).captured k.cpu) k k' := by
  simp only [saveCurrentContext,bind_ok,require_ok,pointer_ok,Except.ok.injEq] at called
  obtain ⟨_,_,p,found,_,_,_,_,_,_,_,_,_,_,rfl⟩ := called
  exact ⟨p,found,modify_rewritten k p (fun t => t.captured k.cpu) (captured_tid k.cpu)⟩

def Thread.entered (t : Thread) : Thread := {t with toUser := t.toUser+1}

theorem entered_tid (t : Thread) : t.entered.tid = t.tid := rfl

theorem restoreCurrentContext_parts (called : restoreCurrentContext k = .ok k') :
    ∃ p, k.lookup k.currentThread = some p ∧ k' = {k with
      cpu := (k.thread p).context.selectors16,cr3 := (k.thread p).pml4Pa}.modify p Thread.entered entered_tid := by
  simp only [restoreCurrentContext,bind_ok,require_ok,pointer_ok,Except.ok.injEq] at called
  obtain ⟨_,_,p,found,_,_,_,_,rfl⟩ := called
  exact ⟨p,found,rfl⟩

theorem chargeCurrent_parts (called : chargeCurrent k = .ok (p,k')) :
    k.lookup k.currentThread = some p ∧ (k.thread p).Valid ∧
      ∃ ms, Rewritten p ((k.thread p).charged ms) k k' := by
  simp only [chargeCurrent,bind_ok,require_ok,pointer_ok,Except.ok.injEq,Prod.mk.injEq] at called
  obtain ⟨_,_,q,found,_,valid,_,_,_,_,_,_,_,_,_,_,rfl,rfl⟩ := called
  refine ⟨found,valid,defaultPitFreq/k.sysTimeHz,by constructor <;> rfl,rfl,Kernel.modify_same _ _ _ _,?_⟩
  intro i other
  rw [Kernel.modify_other _ _ _ _ other]

def Thread.launched (t : Thread) : Thread := t.prepared.dispatched.entered

structure Dispatched (p : Nat) (k k' : Kernel) : Prop where
  found : k.lookup k.currentThread = some p
  valid : (k.thread p).Valid
  ready : (k.thread p).state = .ready
  target : k'.thread p = (k.thread p).launched
  others : ∀ i, i ≠ p → k'.thread i = k.thread i
  globals : SameGlobals k k'
  responder : k'.evResponderThread = k.evResponderThread

theorem dispatchCurrent_dispatched (called : dispatchCurrent k = .ok k') : ∃ p, Dispatched p k k' := by
  simp only [dispatchCurrent,bind_ok,require_ok,pointer_ok,Except.ok.injEq] at called
  obtain ⟨_,_,p,found,_,valid,_,ready,k1,counted,k2,dispatched,_,_,_,_,_,_,_,_,_,_,rfl⟩ := called
  obtain ⟨d,rfl⟩ := incrementDispatcherCount_parts counted
  simp only [dispatcher,bind_ok,require_ok,pointer_ok] at dispatched
  obtain ⟨_,_,q,again,_,_,_,_,restored⟩ := dispatched
  obtain rfl : q = p := Option.some.inj (again.symm.trans found)
  obtain ⟨r,third,rfl⟩ := restoreCurrentContext_parts restored
  obtain rfl : r = q := Option.some.inj (third.symm.trans found)
  refine ⟨r,found,valid,ready,?_,?_,by constructor <;> rfl,rfl⟩
  · simp [Thread.launched]
  · intro i other
    simp [other]

structure Spawned (p : Nat) (k k' : Kernel) : Prop where
  below : p < threadCountMax
  listed : k.listed p = true
  valid : (k.thread p).Valid
  standby : (k.thread p).state = .standby
  target : k'.thread p = ((k.thread p).spawned k.jiffies k.initThread).entered
  others : ∀ i, i ≠ p → k'.thread i = k.thread i
  globals : SameGlobals {k with currentThread := p,taskSwitchStatus := unlocked,gSchedulerStatus := unlocked} k'
  responder : k'.evResponderThread = k.evResponderThread

theorem setCurrentThread_valid (found : k.lookup tid = some p) (valid : (k.thread p).Valid) :
    setCurrentThread tid k = {k with currentThread := tid} := by
  unfold setCurrentThread
  split
  · rename_i same
    subst tid
    rfl
  · simp [found,valid]

theorem enterThread_parts (called : enterThread p k = .ok k') : ∃ d,
    k' = {k with dispatchCount := d,cr3 := (k.thread p).pml4Pa}.modify p Thread.entered entered_tid := by
  simp only [enterThread,bind_ok,require_ok,Except.ok.injEq] at called
  obtain ⟨_,_,k1,counted,_,_,_,_,rfl⟩ := called
  obtain ⟨d,rfl⟩ := incrementDispatcherCount_parts counted
  exact ⟨some d,rfl⟩

theorem startThread_self (p : Nat) (k : Kernel) :
    (startThread p k).thread p = (k.thread p).spawned k.jiffies k.initThread := by
  simp [startThread]

theorem startThread_other (k : Kernel) (other : i ≠ p) : (startThread p k).thread i = k.thread i := by
  simp [startThread,other]

theorem spawnThreadByTid_spawned (called : spawnThreadByTid tid k = .ok k') : ∃ p, tid = (p : Nat) ∧ Spawned p k k' := by
  simp only [spawnThreadByTid,bind_ok,require_ok,pointer_ok] at called
  obtain ⟨_,_,p,found,_,valid,_,same,_,standby,_,_,_,_,_,_,entered⟩ := called
  obtain ⟨rfl,below,listed⟩ := lookup_some.mp found
  have own : ((startThread p k).thread p).tid = p := by rw [startThread_self]; exact same
  have running : ((startThread p k).thread p).Valid := by rw [startThread_self]; exact valid
  have there : (startThread p k).lookup p = some p := found
  rw [own,setCurrentThread_valid (k := {startThread p k with currentPid := ((startThread p k).thread p).ownerPid})
    there running] at entered
  obtain ⟨d,rfl⟩ := enterThread_parts entered
  refine ⟨p,rfl,below,listed,valid,standby,?_,?_,by constructor <;> rfl,rfl⟩
  · rw [Kernel.modify_same]
    exact congrArg Thread.entered (startThread_self p k)
  · intro i other
    rw [Kernel.modify_other _ _ _ _ other]
    exact startThread_other k other

def Thread.Standby (t : Thread) : Prop := t.Valid ∧ t.state = .standby

theorem schediCheckForStandby_parts (called : schediCheckForStandby k = .ok result) :
    (result = none ∧ ∀ i, i < threadCountMax → k.listed i = true → ¬ (k.thread i).Standby) ∨
    ∃ p k', result = some (((p : Nat) : Int),k') ∧ p ≠ 0 ∧ Spawned p k k' := by
  unfold schediCheckForStandby at called
  split at called
  · rename_i nobody
    cases called
    refine .inl ⟨rfl,?_⟩
    intro i below listed standby
    have unlike := List.find?_eq_none.mp nobody i (List.mem_range.mpr below)
    simp [listed,standby.1,standby.2] at unlike
  · rename_i i somebody
    simp only [bind_ok,require_ok,Except.ok.injEq] at called
    obtain ⟨_,_,_,ordinary,k',spawned,rfl⟩ := called
    have chosen := List.find?_some somebody
    have below := List.mem_range.mp (List.mem_of_find?_eq_some somebody)
    simp only [decide_eq_true_eq] at chosen
    have own := k.tids i chosen.1
    have found : k.lookup (k.thread i).tid = some i := lookup_own k chosen.1 below
    rw [setCurrentThread_valid found chosen.2.1] at spawned
    obtain ⟨p,same,effect⟩ := spawnThreadByTid_spawned spawned
    obtain rfl : i = p := by omega
    refine .inr ⟨i,k',by rw [own],?_,effect.below,effect.listed,effect.valid,effect.standby,effect.target,effect.others,
      {effect.globals with},effect.responder⟩
    intro same
    subst same
    exact ordinary own

def Thread.responded (t : Thread) : Thread :=
  {t with
    runningCount := 0
    runningCountMs := 0
    quantum := quantumMax
    priority := priorityMax
    state := .ready
    scheduledCount := t.scheduledCount+1
    hasPendingEvent := false
    next := none}

theorem responded_tid (t : Thread) : t.responded.tid = t.tid := rfl

-- The event responder that ZeroGravity would put on a round of its own.
def PendingResponder (k : Kernel) (e : Nat) : Prop :=
  k.gUseEventResponder = true ∧ k.evResponderThread = some e ∧ (k.thread e).Valid ∧ (k.thread e).hasPendingEvent = true

theorem hasPendingEvent_iff : hasPendingEvent (some e) k = true ↔ (k.thread e).Valid ∧ (k.thread e).hasPendingEvent = true := by
  unfold hasPendingEvent
  split <;> simp_all

theorem endOfRound_parts (ended : zeroGravity.endOfRound tmpTid k = .ok k') : ∃ c, k.currentq = some c ∧
    (((k.thread c).next = none ∧ ∃ tid k₁, psScheduler tmpTid k = .ok (tid,k₁) ∧ k' = {k₁ with currentThread := tid}) ∨
      ∃ n, (k.thread c).next = some n ∧ k' = {k with currentq := some n}) := by
  simp only [zeroGravity.endOfRound,bind_ok,pointer_ok] at ended
  obtain ⟨c,here,ended⟩ := ended
  refine ⟨c,here,?_⟩
  split at ended
  · rename_i last
    simp only [bind_ok,Prod.exists,Except.ok.injEq] at ended
    obtain ⟨tid,k₁,scheduled,rfl⟩ := ended
    exact .inl ⟨last,tid,k₁,scheduled,rfl⟩
  · rename_i n following
    cases ended
    exact .inr ⟨n,following,rfl⟩

theorem zeroGravity_parts (called : zeroGravity tmpTid k = .ok k') :
    (k.threadsCounter = 1 ∧ k.initThread = k.idleThread ∧ k' = {k with currentq := k.idleThread}) ∨
    (k.threadsCounter ≠ 1 ∧ ∃ e, PendingResponder k e ∧
      k' = {k with currentq := some e}.modify e Thread.responded responded_tid) ∨
    (k.threadsCounter ≠ 1 ∧ (∀ e, ¬ PendingResponder k e) ∧ ∃ c, k.currentq = some c ∧
      (((k.thread c).next = none ∧ ∃ tid k₁, psScheduler tmpTid k = .ok (tid,k₁) ∧ k' = {k₁ with currentThread := tid}) ∨
        ∃ n, (k.thread c).next = some n ∧ k' = {k with currentq := some n})) := by
  simp only [zeroGravity,bind_ok,require_ok] at called
  obtain ⟨_,_,called⟩ := called
  split at called
  · rename_i single
    simp only [bind_ok,require_ok,Except.ok.injEq] at called
    obtain ⟨_,same,rfl⟩ := called
    exact .inl ⟨single,same,rfl⟩
  rename_i several
  split at called
  · rename_i e responder
    split at called
    · rename_i pending
      cases called
      have event := hasPendingEvent_iff.mp pending.2
      exact .inr (.inl ⟨several,e,⟨pending.1,responder,event.1,event.2⟩,rfl⟩)
    · rename_i unpending
      refine .inr (.inr ⟨several,?_,endOfRound_parts called⟩)
      intro f pending
      obtain ⟨use,same,valid,event⟩ := pending
      obtain rfl : e = f := Option.some.inj (responder.symm.trans same)
      exact unpending ⟨use,hasPendingEvent_iff.mpr ⟨valid,event⟩⟩
  · rename_i nobody
    refine .inr (.inr ⟨several,?_,endOfRound_parts called⟩)
    intro f pending
    obtain ⟨_,same,_,_⟩ := pending
    rw [nobody] at same
    cases same

def Eligible (k : Kernel) (p : Nat) : Prop := (k.thread p).Valid ∧ (k.thread p).state = .ready

theorem goAhead_parts (called : goAhead tmpTid k = .ok (found,k')) :
    (found = true ∧ ∃ p, k.currentq = some p ∧ Eligible k p ∧ k' = {k with currentThread := (k.thread p).tid}) ∨
    (found = false ∧ (∀ p, k.currentq = some p → ¬ Eligible k p) ∧
      ∃ tid k₁, psScheduler tmpTid k = .ok (tid,k₁) ∧ k' = {k₁ with currentThread := tid}) := by
  have again : ∀ retried : goAhead.retry tmpTid k = .ok (found,k'), found = false ∧
      ∃ tid k₁, psScheduler tmpTid k = .ok (tid,k₁) ∧ k' = {k₁ with currentThread := tid} := by
    intro retried
    simp only [goAhead.retry,bind_ok,Prod.exists,Except.ok.injEq,Prod.mk.injEq] at retried
    obtain ⟨tid,k₁,scheduled,rfl,rfl⟩ := retried
    exact ⟨rfl,tid,k₁,scheduled,rfl⟩
  unfold goAhead at called
  split at called
  · rename_i p here
    split at called
    · rename_i eligible
      cases called
      exact .inl ⟨rfl,p,here,eligible,rfl⟩
    · rename_i ineligible
      refine .inr ⟨(again called).1,?_,(again called).2⟩
      intro q same
      obtain rfl : p = q := Option.some.inj (here.symm.trans same)
      exact ineligible
  · rename_i nothing
    refine .inr ⟨(again called).1,?_,(again called).2⟩
    intro q same
    rw [nothing] at same
    cases same

-- The selection cycle taken apart: one call of psScheduler at most, or the
-- pending responder, or a step along the round.
inductive Turn where
  | cursor
  | respond (thread : Nat)
  | round (tmpTid : Int)
  deriving DecidableEq

inductive Move (tmp : Nat → Int) : Kernel → Turn → Kernel → Prop where
  | cursor (q : Option Nat) (tid : Int) : Move tmp k .cursor {k with currentq := q,currentThread := tid}
  | respond : PendingResponder k e →
      Move tmp k (.respond e) ({k with currentq := some e}.modify e Thread.responded responded_tid)
  | round : Round (tmp i) idle joined k k' → Move tmp k (.round (tmp i)) {k' with currentThread := 0}

theorem psScheduler_moves (i : Nat) (called : psScheduler (tmp i) k = .ok (tid,k')) :
    ∃ turn, Move tmp k turn {k' with currentThread := tid} := by
  rcases psScheduler_parts called with ⟨_,rfl,rfl⟩ | ⟨_,_,idle,_,rfl,rfl⟩ | ⟨_,_,rfl,idle,joined,round⟩
  · exact ⟨.cursor,.cursor k'.currentq (-1)⟩
  · exact ⟨.cursor,.cursor (some idle) _⟩
  · exact ⟨.round (tmp i),.round round⟩

theorem zeroGravity_moves (i : Nat) (called : zeroGravity (tmp i) k = .ok k') : ∃ turn, Move tmp k turn k' := by
  rcases zeroGravity_parts called with ⟨_,_,rfl⟩ | ⟨_,e,pending,rfl⟩ | ⟨_,_,c,_,⟨_,tid,k₁,scheduled,rfl⟩ | ⟨n,_,rfl⟩⟩
  · exact ⟨.cursor,.cursor k.idleThread k.currentThread⟩
  · exact ⟨.respond e,.respond pending⟩
  · exact psScheduler_moves i scheduled
  · exact ⟨.cursor,.cursor (some n) k.currentThread⟩

theorem Move.globals (move : Move tmp k turn k') :
    k'.listed = k.listed ∧ k'.jiffies = k.jiffies ∧ k'.evResponderThread = k.evResponderThread ∧
      k'.gUseEventResponder = k.gUseEventResponder := by
  cases move with
  | cursor q tid => exact ⟨rfl,rfl,rfl,rfl⟩
  | respond pending => exact ⟨rfl,rfl,rfl,rfl⟩
  | round round =>
      exact ⟨round.globals.listed,round.globals.jiffies,round.responder,round.globals.gUseEventResponder⟩

theorem Move.pending (move : Move tmp k turn k') (pending : PendingResponder k' t) : PendingResponder k t := by
  obtain ⟨use,same,valid,event⟩ := pending
  cases move with
  | cursor q tid => exact ⟨use,same,valid,event⟩
  | respond other =>
      rw [Kernel.modify_thread] at valid event
      split at event
      · cases event
      · rename_i apart
        rw [if_neg apart] at valid
        exact ⟨use,same,valid,event⟩
  | round round =>
      have lasting := round.lasting t
      exact ⟨round.globals.gUseEventResponder ▸ use,round.responder ▸ same,lasting.valid valid,
        lasting.hasPendingEvent ▸ event⟩

theorem lookup_congr {k k' : Kernel} (listed : k'.listed = k.listed) (tid : Int) : k'.lookup tid = k.lookup tid := by
  simp only [Kernel.lookup,listed]

-- What every move preserves, as long as the uninitialised read does not name `t`.
theorem moves_spared (Holds : Kernel → Prop) {t : Nat}
    (preserved : ∀ k turn k', (∀ n, k.lookup (tmp n) ≠ some t) → Holds k → Move tmp k turn k' → Holds k')
    (moves : Runs.Path (Move tmp) k turns k') (spared : ∀ n, k.lookup (tmp n) ≠ some t) (start : Holds k) : Holds k' := by
  have both := moves.invariant (fun k => (∀ n, k.lookup (tmp n) ≠ some t) ∧ Holds k) (by
    intro k turn k' holds move
    refine ⟨?_,preserved k turn k' holds.1 holds.2 move⟩
    intro n
    rw [lookup_congr move.globals.1]
    exact holds.1 n) ⟨spared,start⟩
  exact both.2

theorem Move.later (move : Move (fun i => tmp (i+2)) k turn k') : Move tmp k turn k' := by
  cases move with
  | cursor q tid => exact .cursor q tid
  | respond pending => exact .respond pending
  | round round => exact .round round

theorem selectThread_moves (selected : selectThread tmp fuel k = .ok (some k')) : ∃ turns k₁ q,
    Runs.Path (Move tmp) k turns k₁ ∧ k₁.currentq = some q ∧ Eligible k₁ q ∧
      k' = {k₁ with currentThread := (k₁.thread q).tid} := by
  induction fuel generalizing tmp k with
  | zero => cases selected
  | succ fuel ih =>
      simp only [selectThread,bind_ok,Prod.exists] at selected
      obtain ⟨k₁,turned,found,k₂,went,selected⟩ := selected
      obtain ⟨turn,first⟩ := zeroGravity_moves 0 turned
      rcases goAhead_parts went with ⟨rfl,q,here,eligible,rfl⟩ | ⟨rfl,_,tid,k₃,scheduled,rfl⟩
      · cases selected
        exact ⟨[turn],k₁,q,.cons first .nil,here,eligible,rfl⟩
      · obtain ⟨back,second⟩ := psScheduler_moves 1 scheduled
        obtain ⟨turns,k₄,q,moves,here,eligible,rfl⟩ := ih selected
        refine ⟨turn :: back :: turns,k₄,q,.cons first (.cons second ?_),here,eligible,rfl⟩
        exact moves.weaken fun _ _ _ => Move.later

end GramadoKernel
