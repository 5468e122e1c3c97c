import GramadoKernel.Creation
import GramadoKernel.Machine

namespace GramadoKernel

-- Blocked, dead, or never spawned.
def Thread.Shelved (t : Thread) : Prop :=
  t.state = .blocked ∨ t.state = .zombie ∨ t.state = .initialized ∨ t.state = .standby

def Thread.Unschedulable (t : Thread) : Prop := t.Shelved ∨ t.saved = false

def OnlyWakes (t t' : Thread) : Prop :=
  (t.Unschedulable → t'.state = t.state) ∧ (t'.state ≠ t.state → wakeupAllows t ∧ t'.state = .ready)

-- A thread that the unconditional write of READY cannot hurt.
def Thread.Wakeable (t : Thread) : Prop := t.state = .ready ∨ (t.saved = true ∧ (t.state = .waiting ∨ t.state = .dead))

theorem onlyWakes_iff (ready : t'.state = .ready) : OnlyWakes t t' ↔ t.Wakeable := by
  unfold OnlyWakes Thread.Wakeable Thread.Unschedulable Thread.Shelved wakeupAllows
  rw [ready]
  cases t.state <;> cases t.saved <;> simp

theorem Mailed.ready (mailed : Mailed Reached k k') (responder : k.gUseEventResponder = true) (reached : Reached i) :
    (k'.thread i).state = .ready := by
  obtain ⟨q,target⟩ := mailed.reached i reached
  rw [target,if_pos responder]
  rfl

-- The threads a step may take from the shelf: a call that says so, or the
-- spawn of a thread in standby.
def Action.Releases (t : Nat) : Action → Prop
  | .request (.wakeup tid) => tid = t
  | .request (.waiting tid _) => tid = t
  | .tick _ _ (.spawn tid) => tid = t
  | _ => False

-- The steps at which no thread is woken past the rules of wakeup_thread.
def Harmless (k : Kernel) : Action → Prop
  | .request _ => True
  | .mail mail => k.gUseEventResponder = true → ∀ i, mail.Reaches k i → (k.thread i).Wakeable
  | .tick _ tmp _ =>
      (∀ e, PendingResponder k e ∨ Rings k e → ¬ (k.thread e).Shelved) ∧
        ∀ n i, k.lookup (tmp n) = some i → ¬ (k.thread i).Shelved

def Rests (t : Nat) (k : Kernel) : Prop := (k.thread t).Shelved ∧ ¬ PendingResponder k t

theorem Visit.shelved (visit : Visit jiffies plain t t' joins) (shelved : t.Shelved) : t'.Shelved := by
  unfold Thread.Shelved at *
  cases visit with
  | exits => exact .inr (.inl rfl)
  | sleeps _ waits => simp [waits.2] at shelved
  | wakes _ waits => simp [waits.2] at shelved
  | runs _ _ ready => simp [ready] at shelved
  | reaped | passed => exact shelved

theorem openedThread_shelved (idle : Nat) (spared : k.lookup tmpTid ≠ some j) (shelved : (k.thread j).Shelved) :
    (openedThread tmpTid idle k j).Shelved := by
  unfold Thread.Shelved
  rw [openedThread_state,if_neg (fun both => spared both.1)]
  exact shelved

theorem Round.shelved (round : Round tmpTid idle joined k k') (spared : k.lookup tmpTid ≠ some t)
    (shelved : (k.thread t).Shelved) : (k'.thread t).Shelved := by
  obtain ⟨u,next,same,origin⟩ := round.thread t
  have before := openedThread_shelved idle spared shelved
  rw [same]
  rcases origin with rfl | ⟨joins,visit⟩
  · exact before
  · exact visit.shelved before

theorem move_rests (move : Move tmp k turn k') (spared : ∀ n, k.lookup (tmp n) ≠ some t) (rests : Rests t k) :
    Rests t k' := by
  refine ⟨?_,fun pending => rests.2 (move.pending pending)⟩
  cases move with
  | cursor q tid => exact rests.1
  | respond pending =>
      rw [Kernel.modify_thread]
      split
      · rename_i same
        exact absurd (same ▸ pending) rests.2
      · exact rests.1
  | round round => exact round.shelved (spared _) rests.1

theorem Thread.Shelved.idle (shelved : Thread.Shelved t) : t.state ≠ .running := by
  intro running
  unfold Thread.Shelved at shelved
  simp [running] at shelved

theorem Alike.shelved (alike : Alike t t') (shelved : t.Shelved) : t'.Shelved := by
  unfold Thread.Shelved
  rw [alike.state]
  exact shelved

theorem tick_kept_shelved (tick : Tick tmp k .same k') (shelved : (k.thread t).Shelved) : (k'.thread t).Shelved := by
  obtain ⟨_,_,alike | ⟨_,_,running,_⟩⟩ := tick_kept tick t
  · exact alike.shelved shelved
  · exact absurd running shelved.idle

theorem Ended.shelved (ended : Ended p k k') (shelved : (k.thread t).Shelved) : (k'.thread t).Shelved := by
  obtain ⟨_,_,⟨rfl,u,alike,same⟩ | ⟨_,same⟩⟩ := ended.thread t
  · have kept := alike.shelved shelved
    have state : u.finished.state = u.state := if_neg kept.idle
    rw [same]
    unfold Thread.Shelved
    rw [state]
    exact kept
  · rwa [same]

theorem tick_shelved {t : Nat} (tick : Tick tmp k switch k') (unpending : ¬ PendingResponder k t)
    (unnamed : ∀ n, k.lookup (tmp n) ≠ some t) (unspawned : switch ≠ .spawn t) (shelved : (k.thread t).Shelved) :
    (k'.thread t).Shelved ∧ switch ≠ .dispatch t := by
  by_cases kept : switch = .same
  · subst switch
    exact ⟨tick_kept_shelved tick shelved,by simp⟩
  cases tick with
  | callback | locked | within => exact absurd rfl kept
  | spawn ended spawned =>
      rename_i p k₁ q
      have apart : t ≠ q := by
        intro same
        exact unspawned (same ▸ rfl)
      rw [spawned.others t apart]
      exact ⟨ended.shelved shelved,by simp⟩
  | dispatch ended nobody moves dispatched =>
      rename_i p k₁ turns k₂ q
      have spared : ∀ n, k₁.lookup (tmp n) ≠ some t := by
        intro n
        rw [ended.lookup]
        exact unnamed n
      have quiet : ¬ PendingResponder k₁ t := fun pending => unpending (ended.pending pending)
      have rests := moves_spared (Rests t) (fun _ _ _ spared rests move => move_rests move spared rests) moves spared
        ⟨ended.shelved shelved,quiet⟩
      have apart : t ≠ q := by
        intro same
        subst q
        have ready : (k₂.thread t).state = .ready := dispatched.ready
        have still := rests.1
        unfold Thread.Shelved at still
        simp [ready] at still
      refine ⟨?_,?_⟩
      · rw [dispatched.others t apart]
        exact rests.1
      · intro same
        simp only [Switch.dispatch.injEq] at same
        omega

theorem change_shelved {t : Nat} (request : Request) (kept : ¬ Action.Releases t (.request request))
    (named : request.tid = t) (shelved : Thread.Shelved u) : (request.change jiffies u).Shelved := by
  cases request with
  | sleep | yield => exact shelved
  | wakeup tid => exact absurd named kept
  | waiting tid ms => exact absurd named kept
  | blocked => exact .inl rfl
  | zombie tid =>
      simp only [Request.change]
      split
      · exact shelved
      · exact .inr (.inl rfl)

theorem acts_shelved (acts : Acts k action k') (harmless : Harmless k action) (kept : ¬ action.Releases t)
    (shelved : (k.thread t).Shelved) : (k'.thread t).Shelved ∧ ∀ callback tmp, action ≠ .tick callback tmp (.dispatch t) := by
  cases acts with
  | request request =>
      refine ⟨?_,by simp⟩
      rw [perform_thread]
      split
      · rename_i found
        exact change_shelved request kept (lookup_some.mp found.1).1 shelved
      · exact shelved
  | mail sent =>
      rename_i mail
      refine ⟨?_,by simp⟩
      have mailed := sends_mailed sent
      by_cases reached : mail.Reaches k t
      · by_cases responder : k.gUseEventResponder = true
        · have wakeable := harmless responder t reached
          unfold Thread.Wakeable at wakeable
          unfold Thread.Shelved at shelved
          exfalso
          rcases wakeable with ready | ⟨_,waiting | dead⟩
          · simp [ready] at shelved
          · simp [waiting] at shelved
          · simp [dead] at shelved
        · obtain ⟨q,target⟩ := mailed.reached t reached
          rw [target,if_neg responder]
          exact shelved
      · rwa [mailed.others t reached]
  | tick called =>
      rename_i frame cpl callback tmp fuel switch
      have unspawned : switch ≠ .spawn t := by
        intro same
        subst same
        exact kept rfl
      obtain ⟨k₁,clocked,tick⟩ := irq0Timer_parts called
      have silent : ¬ Rings k t := fun rings => harmless.1 t (.inr rings) shelved
      have unpending : ¬ PendingResponder k₁ t := fun pending => harmless.1 t (.inl (clocked.pending silent pending)) shelved
      have unnamed : ∀ n, k₁.lookup (tmp n) ≠ some t := by
        intro n named
        rw [clocked.lookup] at named
        exact harmless.2 n t named shelved
      have after := tick_shelved tick unpending unnamed unspawned (by rwa [clocked.others t silent])
      refine ⟨after.1,?_⟩
      intro other values equal
      obtain ⟨rfl,rfl,rfl⟩ := equal
      exact after.2 rfl

def HarmlessActs (k : Kernel) (action : Action) (k' : Kernel) : Prop := Acts k action k' ∧ Harmless k action

theorem run_shelved {t : Nat} (path : Runs.Path HarmlessActs k actions k') (shelved : (k.thread t).Shelved)
    (kept : ∀ action ∈ actions, ¬ action.Releases t) :
    (k'.thread t).Shelved ∧ ∀ callback tmp, .tick callback tmp (.dispatch t) ∉ actions := by
  induction path with
  | nil => exact ⟨shelved,by simp⟩
  | step earlier last ih =>
      obtain ⟨before,absent⟩ := ih (fun action member => kept action (List.mem_append_left _ member))
      obtain ⟨after,other⟩ := acts_shelved last.1 last.2 (kept _ (by simp)) before
      refine ⟨after,?_⟩
      intro callback tmp member
      rcases List.mem_append.mp member with old | new
      · exact absent callback tmp old
      · exact other callback tmp (List.mem_singleton.mp new).symm

-- In every state a message call wakes as wakeup_thread does if and only if the
-- threads it reaches can be woken, and a run of such steps disturbs no thread
-- on the shelf.
theorem post_only_wakes {t : Nat} (path : Runs.Path HarmlessActs k actions k') :
    (∀ mail after, k'.gUseEventResponder = true → Sends k' mail after →
      ((∀ i, mail.Reaches k' i → OnlyWakes (k'.thread i) (after.thread i)) ↔
        ∀ i, mail.Reaches k' i → (k'.thread i).Wakeable)) ∧
    ((k.thread t).Shelved → (∀ action ∈ actions, ¬ action.Releases t) →
      (k'.thread t).Shelved ∧ ∀ callback tmp, .tick callback tmp (.dispatch t) ∉ actions) := by
  constructor
  · intro mail after responder sent
    have mailed := sends_mailed sent
    constructor
    · intro only i reached
      exact (onlyWakes_iff (mailed.ready responder reached)).mp (only i reached)
    · intro wakeable i reached
      exact (onlyWakes_iff (mailed.ready responder reached)).mpr (wakeable i reached)
  · intro shelved kept
    exact run_shelved path shelved kept

def tickBeside : Except Halt (Option (Switch × Kernel)) := irq0Timer .zero 3 false (fun _ => -1) 2 (afterCall newThread)

def postToNew : Except Halt (Int × Kernel) := ipcPostMessageToTid 0 100 7 0 0 (afterCall newThread)

def tickAfterPost : Except Halt (Option (Switch × Kernel)) := irq0Timer .zero 3 false (fun _ => -1) 1 (afterCall postToNew)

theorem new_thread_rests : ((afterTick tickBeside).thread 100).Shelved := by
  have harmless : Harmless (afterCall newThread) (.tick false (fun _ => -1) (.dispatch 0)) := by
    refine ⟨?_,fun n i named => by simp [Kernel.lookup] at named⟩
    intro e either
    rcases either with ⟨_,same,_⟩ | ⟨_,_,server,_⟩
    · exact absurd same (by rw [show (afterCall newThread).evResponderThread = none by decide +kernel]; simp)
    · exact absurd server (by decide +kernel)
  have acts : Acts (afterCall newThread) (.tick false (fun _ => -1) (.dispatch 0)) (afterTick tickBeside) :=
    .tick (afterTick_ok (by decide +kernel))
  have created : ((afterCall newThread).thread 100).state = .initialized := by decide +kernel
  exact ((post_only_wakes (.step .nil ⟨acts,harmless⟩)).2 (.inr (.inr (.inl created))) (by simp [Action.Releases])).1

-- A post to it is enough to have it dispatched.
theorem post_runs_new_thread :
    ((afterCall newThread).thread 100).state = .initialized ∧ ((afterCall newThread).thread 100).saved = false ∧
    (afterCall newThread).gUseEventResponder = true ∧ returnsValue postToNew 0 = true ∧
    ((afterCall postToNew).thread 100).state = .ready ∧ endsWith tickAfterPost (.dispatch 100) = true := by
  decide +kernel

end GramadoKernel
