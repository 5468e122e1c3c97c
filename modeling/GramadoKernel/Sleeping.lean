import GramadoKernel.Creation
import GramadoKernel.Unschedulable

namespace GramadoKernel

structure Requested (t : Nat) (k : Kernel) : Prop where
  current : k.lookup k.currentThread = some t
  valid : (k.thread t).Valid
  running : (k.thread t).state = .running
  request : (k.thread t).sleepInProgress = true

def Thread.Resting (t : Thread) : Prop := t.state = .waiting ∨ t.state = .blocked ∨ t.state = .zombie

def Woken (t : Nat) (k : Kernel) : Prop := (k.thread t).wakeJiffy ≤ k.jiffies

-- What a step has to respect for the request of `t` to be honoured. The message
-- and the wakeup, also those of the timer, are the exceptions made for the
-- sleeper; a tick that finds the request has to find the thread short of the end
-- of its quantum.
def Respects (t : Nat) (k : Kernel) : Action → Prop
  | .request (.wakeup tid) => k.lookup tid ≠ some t
  | .request _ => True
  | .mail mail => ¬ mail.Reaches k t
  | .tick callback tmp _ =>
      (Requested t k → callback = false → k.taskSwitchStatus = unlocked →
        (k.thread t).runningCount+1 < (k.thread t).quantum) ∧
      (∀ n, k.lookup (tmp n) ≠ some t) ∧ k.jiffies+1 ≠ 0 ∧ ¬ Rings k t

def Mindful (t : Nat) (k : Kernel) (action : Action) (k' : Kernel) : Prop := Acts k action k' ∧ Respects t k action

-- The life of the sleeper: its request stands, it rests, or its time has come.
structure Slumber (t : Nat) (k : Kernel) : Prop where
  quiet : ¬ PendingResponder k t
  stage : Requested t k ∨ (k.thread t).Resting ∨ Woken t k

theorem Visit.resting (visit : Visit jiffies plain t t' joins) (resting : t.Resting) :
    t'.Resting ∨ t'.wakeJiffy ≤ jiffies := by
  cases visit with
  | exits => exact .inl (.inr (.inr rfl))
  | sleeps | reaped | passed => exact .inl resting
  | wakes _ _ late => exact .inr late
  | runs _ _ ready =>
      unfold Thread.Resting at resting
      simp [ready] at resting

theorem Round.resting (round : Round tmpTid idle joined k k') (spared : k.lookup tmpTid ≠ some t)
    (resting : (k.thread t).Resting) : (k'.thread t).Resting ∨ (k'.thread t).wakeJiffy ≤ k.jiffies := by
  obtain ⟨u,next,same,origin⟩ := round.thread t
  have opened : (openedThread tmpTid idle k t).Resting := by
    unfold Thread.Resting
    rw [openedThread_state,if_neg (fun both => spared both.1)]
    exact resting
  rw [same]
  rcases origin with rfl | ⟨joins,visit⟩
  · exact .inl opened
  · exact visit.resting opened

def Undisturbed (t : Nat) (k : Kernel) : Prop := ¬ PendingResponder k t ∧ ((k.thread t).Resting ∨ Woken t k)

theorem move_undisturbed (move : Move tmp k turn k') (spared : ∀ n, k.lookup (tmp n) ≠ some t)
    (undisturbed : Undisturbed t k) : Undisturbed t k' := by
  refine ⟨fun pending => undisturbed.1 (move.pending pending),?_⟩
  cases move with
  | cursor q tid => exact undisturbed.2
  | respond pending =>
      rename_i e
      have apart : t ≠ e := by
        intro same
        subst same
        exact undisturbed.1 pending
      unfold Woken
      rw [Kernel.modify_other _ _ _ _ apart]
      exact undisturbed.2
  | round round =>
      rename_i i idle joined k₁
      have time : k₁.jiffies = k.jiffies := round.globals.jiffies
      change (k₁.thread t).Resting ∨ (k₁.thread t).wakeJiffy ≤ k₁.jiffies
      rw [time]
      rcases undisturbed.2 with resting | woken
      · exact round.resting (spared _) resting
      · rw [(round.lasting t).wakeJiffy]
        exact .inr woken

theorem later (time : (w : UInt64) ≤ jiffies) (more : jiffies+1 ≠ 0) : w ≤ jiffies+1 := by
  have grown : jiffies.toNat+1 < 2^64 := by
    by_contra wraps
    apply more
    have last : jiffies.toNat+1 = 2^64 := by
      have bound := jiffies.toNat_lt
      omega
    apply UInt64.toNat_inj.mp
    rw [UInt64.toNat_add,UInt64.toNat_one,last]
    rfl
  rw [UInt64.le_iff_toNat_le] at time ⊢
  rw [UInt64.toNat_add,UInt64.toNat_one,Nat.mod_eq_of_lt grown]
  omega

theorem Thread.Resting.idle (resting : Thread.Resting t) : t.state ≠ .running := by
  intro running
  unfold Thread.Resting at resting
  simp [running] at resting

theorem Requested.spent (requested : Requested t k) (ended : Ended p k k') :
    ¬ (k.thread t).runningCount+1 < (k.thread t).quantum := by
  obtain ⟨ms,cpu,interrupted⟩ := ended.interrupted
  obtain rfl : p = t := Option.some.inj (interrupted.found.symm.trans requested.current)
  exact ended.spent

theorem Ended.undisturbed (ended : Ended p k k') (quiet : ¬ PendingResponder k t)
    (stage : (k.thread t).Resting ∨ Woken t k) : Undisturbed t k' := by
  refine ⟨fun pending => quiet (ended.pending pending),?_⟩
  unfold Woken
  obtain ⟨globals,_,⟨rfl,u,alike,same⟩ | ⟨_,same⟩⟩ := ended.thread t
  · rw [globals.jiffies,same]
    rcases stage with resting | woken
    · have idle : u.state ≠ .running := by rw [alike.state]; exact resting.idle
      have state : u.finished.state = u.state := if_neg idle
      left
      unfold Thread.Resting
      rwa [state,alike.state]
    · right
      change u.wakeJiffy ≤ k.jiffies
      rw [alike.wakeJiffy]
      exact woken
  · rw [globals.jiffies,same]
    exact stage

theorem Requested.kept (requested : Requested t k) (listed : k'.listed = k.listed)
    (current : k'.currentThread = k.currentThread) (valid : (k.thread t).Valid → (k'.thread t).Valid)
    (state : (k'.thread t).state = (k.thread t).state)
    (request : (k.thread t).sleepInProgress = true → (k'.thread t).sleepInProgress = true) : Requested t k' := by
  refine ⟨?_,valid requested.valid,state.trans requested.running,request requested.request⟩
  rw [current,lookup_congr listed]
  exact requested.current

theorem kept_slumber (tick : Tick tmp k .same k') (slumber : Slumber t k) : Slumber t k' := by
  obtain ⟨globals,responder,alike | ⟨_,_,running,request,ms,cpu,same⟩⟩ := tick_kept tick t
  · refine ⟨?_,?_⟩
    · intro pending
      obtain ⟨use,event,valid,raised⟩ := pending
      exact slumber.quiet ⟨globals.gUseEventResponder.symm.trans use,responder.symm.trans event,alike.valid.mp valid,
        alike.hasPendingEvent.symm.trans raised⟩
    · rcases slumber.stage with requested | resting | woken
      · exact .inl (requested.kept globals.listed globals.currentThread alike.valid.mpr alike.state
          fun request => alike.sleepInProgress.trans request)
      · right; left
        unfold Thread.Resting
        rwa [alike.state]
      · right; right
        unfold Woken
        rw [alike.wakeJiffy,globals.jiffies]
        exact woken
  · have before := (suspended_alike (k.thread t) ms cpu).trans (yielded_alike _)
    have slept := slept_kept ((k.thread t).suspended ms cpu).yielded k.jiffies
    have waiting := request_within ms cpu k.jiffies running request
    rw [← same] at slept waiting
    refine ⟨?_,.inr (.inl (.inl waiting))⟩
    intro pending
    obtain ⟨use,event,valid,raised⟩ := pending
    exact slumber.quiet ⟨globals.gUseEventResponder.symm.trans use,responder.symm.trans event,
      before.valid.mp (slept.1.mp valid),before.hasPendingEvent.symm.trans (slept.2.1.symm.trans raised)⟩

theorem Spawned.pending (spawned : Spawned q k k') (pending : PendingResponder k' t) : PendingResponder k t := by
  obtain ⟨use,event,valid,raised⟩ := pending
  refine ⟨spawned.globals.gUseEventResponder.symm.trans use,spawned.responder.symm.trans event,?_⟩
  by_cases same : t = q
  · subst t
    rw [spawned.target] at raised
    exact ⟨spawned.valid,raised⟩
  · rw [spawned.others t same] at valid raised
    exact ⟨valid,raised⟩

theorem Dispatched.pending (dispatched : Dispatched q k k') (pending : PendingResponder k' t) : PendingResponder k t := by
  obtain ⟨use,event,valid,raised⟩ := pending
  refine ⟨dispatched.globals.gUseEventResponder.symm.trans use,dispatched.responder.symm.trans event,?_⟩
  by_cases same : t = q
  · subst t
    rw [dispatched.target] at raised
    exact ⟨dispatched.valid,raised⟩
  · rw [dispatched.others t same] at valid raised
    exact ⟨valid,raised⟩

theorem Spawned.undisturbed (spawned : Spawned q k k') (undisturbed : Undisturbed t k) : Undisturbed t k' := by
  refine ⟨fun pending => undisturbed.1 (spawned.pending pending),?_⟩
  have time : k'.jiffies = k.jiffies := spawned.globals.jiffies
  unfold Woken
  rw [time]
  by_cases same : t = q
  · subst t
    rcases undisturbed.2 with resting | woken
    · unfold Thread.Resting at resting
      simp [spawned.standby] at resting
    · rw [spawned.target]
      exact .inr woken
  · rw [spawned.others t same]
    exact undisturbed.2

theorem Dispatched.undisturbed {k : Kernel} {q : Nat} (dispatched : Dispatched q {k with currentThread := q} k')
    (undisturbed : Undisturbed t k) : Undisturbed t k' ∧ (t = q → Woken t k') := by
  have time : k'.jiffies = k.jiffies := dispatched.globals.jiffies
  have started : t = q → Woken t k' := by
    intro same
    subst same
    rcases undisturbed.2 with resting | woken
    · have ready : (k.thread t).state = .ready := dispatched.ready
      unfold Thread.Resting at resting
      simp [ready] at resting
    · unfold Woken
      rw [dispatched.target,time]
      exact woken
  refine ⟨⟨fun pending => undisturbed.1 (dispatched.pending pending),?_⟩,started⟩
  by_cases same : t = q
  · exact .inr (started same)
  · unfold Woken
    rw [dispatched.others t same,time]
    exact undisturbed.2

-- A tick that takes the processor away finds no open request, so the sleeper
-- rests or its time has come; only the latter can be dispatched.
theorem tick_slumber {t : Nat} (tick : Tick tmp k switch k') (spared : ∀ n, k.lookup (tmp n) ≠ some t)
    (short : Requested t k → switch ≠ .same → k.taskSwitchStatus = unlocked →
      (k.thread t).runningCount+1 < (k.thread t).quantum)
    (slumber : Slumber t k) : Slumber t k' ∧ (switch = .dispatch t → Woken t k') := by
  by_cases kept : switch = .same
  · subst switch
    exact ⟨kept_slumber tick slumber,by simp⟩
  have taken : ∀ p k₁, Ended p k k₁ → Undisturbed t k₁ := by
    intro p k₁ ended
    refine ended.undisturbed slumber.quiet (slumber.stage.resolve_left ?_)
    exact fun requested => requested.spent ended (short requested kept ended.status)
  cases tick with
  | callback | locked | within => exact absurd rfl kept
  | spawn ended spawned =>
      obtain ⟨quiet,stage⟩ := spawned.undisturbed (taken _ _ ended)
      exact ⟨⟨quiet,.inr stage⟩,by simp⟩
  | dispatch ended nobody moves dispatched =>
      have lookups : ∀ n, _ := fun n => (ended.lookup (tmp n)).trans_ne (spared n)
      have selected := moves_spared (Undisturbed t) (fun _ _ _ spared holds move => move_undisturbed move spared holds)
        moves lookups (taken _ _ ended)
      obtain ⟨⟨quiet,stage⟩,started⟩ := dispatched.undisturbed selected
      refine ⟨⟨quiet,.inr stage⟩,?_⟩
      intro same
      simp only [Switch.dispatch.injEq] at same
      exact started (by omega)

theorem stage_same {t : Nat} (globals : SameGlobals k k') (same : k'.thread t = k.thread t)
    (stage : Requested t k ∨ (k.thread t).Resting ∨ Woken t k) :
    Requested t k' ∨ (k'.thread t).Resting ∨ Woken t k' := by
  rcases stage with requested | resting | woken
  · refine .inl (requested.kept globals.listed globals.currentThread ?_ ?_ ?_) <;> rw [same] <;> exact id
  · exact .inr (.inl (same ▸ resting))
  · right; right
    unfold Woken
    rw [same,globals.jiffies]
    exact woken

theorem change_pending (request : Request) (jiffies : UInt64) (u : Thread) :
    ((request.change jiffies u).Valid ↔ u.Valid) ∧ (request.change jiffies u).hasPendingEvent = u.hasPendingEvent := by
  cases request with
  | sleep | yield | blocked | waiting => exact ⟨Iff.rfl,rfl⟩
  | wakeup =>
      simp only [Request.change]
      split <;> exact ⟨Iff.rfl,rfl⟩
  | zombie =>
      simp only [Request.change]
      split <;> exact ⟨Iff.rfl,rfl⟩

theorem perform_pending (request : Request) (pending : PendingResponder (perform request k) t) : PendingResponder k t := by
  obtain ⟨use,event,valid,raised⟩ := pending
  refine ⟨(perform_globals request k).gUseEventResponder.symm.trans use,(perform_responder request k).symm.trans event,?_⟩
  rw [perform_thread] at valid raised
  split at raised
  · rename_i found
    rw [if_pos found] at valid
    exact ⟨found.2,(change_pending request _ _).2.symm.trans raised⟩
  · rename_i missed
    rw [if_neg missed] at valid
    exact ⟨valid,raised⟩

theorem request_slumber {t : Nat} (request : Request) (respects : Respects t k (.request request)) (slumber : Slumber t k) :
    Slumber t (perform request k) := by
  have globals := perform_globals request k
  refine ⟨fun pending => slumber.quiet (perform_pending request pending),?_⟩
  by_cases found : k.lookup request.tid = some t ∧ (k.thread t).Valid
  · have same : (perform request k).thread t = request.change k.jiffies (k.thread t) := by
      rw [perform_thread,if_pos found]
    have untouched : (request.change k.jiffies (k.thread t)).state = (k.thread t).state →
        (request.change k.jiffies (k.thread t)).wakeJiffy = (k.thread t).wakeJiffy →
        ((k.thread t).sleepInProgress = true → (request.change k.jiffies (k.thread t)).sleepInProgress = true) →
        Requested t (perform request k) ∨ ((perform request k).thread t).Resting ∨ Woken t (perform request k) := by
      intro state hour flag
      rcases slumber.stage with requested | resting | woken
      · refine .inl (requested.kept globals.listed globals.currentThread ?_ ?_ ?_) <;> rw [same]
        · exact (change_pending request _ _).1.mpr
        · exact state
        · exact flag
      · right; left
        unfold Thread.Resting
        rwa [same,state]
      · right; right
        unfold Woken
        rw [same,hour,globals.jiffies]
        exact woken
    cases request with
    | sleep => exact untouched rfl rfl fun _ => rfl
    | yield => exact untouched rfl rfl id
    | wakeup tid => exact absurd found.1 respects
    | blocked => exact .inr (.inl (by rw [same]; exact .inr (.inl rfl)))
    | waiting => exact .inr (.inl (by rw [same]; exact .inl rfl))
    | zombie tid =>
        by_cases init : tid = initTid
        · have unchanged : (Request.zombie tid).change k.jiffies (k.thread t) = k.thread t := if_pos init
          rw [unchanged] at untouched
          exact untouched rfl rfl id
        · refine .inr (.inl ?_)
          rw [same]
          simp only [Request.change,if_neg init]
          exact .inr (.inr rfl)
  · exact stage_same globals (by rw [perform_thread,if_neg found]) slumber.stage

theorem Mailed.slumber (mailed : Mailed Reached k k') (unreached : ¬ Reached t) (slumber : Slumber t k) : Slumber t k' := by
  have same := mailed.others t unreached
  refine ⟨?_,stage_same mailed.globals same slumber.stage⟩
  intro pends
  obtain ⟨use,event,pending⟩ := pends
  rw [same] at pending
  rcases mailed.responder with old | ⟨e,reached,new⟩
  · exact slumber.quiet ⟨mailed.globals.gUseEventResponder.symm.trans use,old.symm.trans event,pending⟩
  · obtain rfl : e = t := Option.some.inj (new.symm.trans event)
    exact unreached reached

theorem Clocked.requested (clocked : Clocked k k') (silent : ¬ Rings k t) : Requested t k' ↔ Requested t k := by
  have same := clocked.others t silent
  have current : k'.lookup k'.currentThread = k.lookup k.currentThread := by
    rw [clocked.lookup,show k'.currentThread = k.currentThread from clocked.globals.currentThread]
  constructor
  · intro requested
    exact ⟨current.symm.trans requested.current,same ▸ requested.valid,same ▸ requested.running,same ▸ requested.request⟩
  · intro requested
    exact ⟨current.trans requested.current,same.symm ▸ requested.valid,same.symm ▸ requested.running,
      same.symm ▸ requested.request⟩

theorem Clocked.slumber (clocked : Clocked k k') (silent : ¬ Rings k t) (more : k.jiffies+1 ≠ 0) (slumber : Slumber t k) :
    Slumber t k' := by
  refine ⟨fun pending => slumber.quiet (clocked.pending silent pending),?_⟩
  rcases slumber.stage with requested | resting | woken
  · exact .inl ((clocked.requested silent).mpr requested)
  · right; left
    rwa [clocked.others t silent]
  · right; right
    unfold Woken
    rw [clocked.others t silent,show k'.jiffies = k.jiffies+1 from clocked.globals.jiffies]
    exact later woken more

-- A tick that respects the sleeper, from behind the clock on.
theorem mindful_tick {t : Nat} (called : irq0Timer frame cpl callback tmp fuel k = .ok (some (switch,k')))
    (respects : Respects t k (.tick callback tmp switch)) : ∃ k₁, Clocked k k₁ ∧ Tick tmp k₁ switch k' ∧
      (∀ n, k₁.lookup (tmp n) ≠ some t) ∧ (Requested t k₁ → switch ≠ .same → k₁.taskSwitchStatus = unlocked →
        (k₁.thread t).runningCount+1 < (k₁.thread t).quantum) := by
  obtain ⟨short,spared,_,silent⟩ := respects
  obtain ⟨k₁,clocked,tick⟩ := irq0Timer_parts called
  refine ⟨k₁,clocked,tick,?_,?_⟩
  · intro n
    rw [clocked.lookup]
    exact spared n
  · intro requested taken status
    have ordinary := irq0Timer_callback called taken
    rw [clocked.others t silent]
    exact short ((clocked.requested silent).mp requested) ordinary (clocked.globals.taskSwitchStatus.symm.trans status)

theorem mindful_slumber {t : Nat} (step : Mindful t k action k') (slumber : Slumber t k) : Slumber t k' := by
  obtain ⟨acts,respects⟩ := step
  cases acts with
  | request request => exact request_slumber request respects slumber
  | mail sent => exact (sends_mailed sent).slumber respects slumber
  | tick called =>
      obtain ⟨k₁,clocked,tick,spared,short⟩ := mindful_tick called respects
      exact (tick_slumber tick spared short (clocked.slumber respects.2.2.2 respects.2.2.1 slumber)).1

def Action.Keeps : Action → Prop
  | .tick _ _ switch => switch = .same
  | _ => True

def Action.Shelves (t : Nat) : Action → Prop
  | .request (.blocked tid) => tid = t
  | .request (.zombie tid) => tid = t
  | _ => False

-- Until the processor is taken away the request stands or is fulfilled.
def Held (t : Nat) (k : Kernel) : Prop := Requested t k ∨ (k.thread t).state = .waiting

theorem held_same {t : Nat} (globals : SameGlobals k k') (same : k'.thread t = k.thread t) (held : Held t k) : Held t k' := by
  rcases held with requested | waiting
  · refine .inl (requested.kept globals.listed globals.currentThread ?_ ?_ ?_) <;> rw [same] <;> exact id
  · exact .inr (same ▸ waiting)

theorem request_held {t : Nat} (request : Request) (respects : Respects t k (.request request)) (held : Held t k) :
    Held t (perform request k) ∨ Action.Shelves t (.request request) := by
  have globals := perform_globals request k
  by_cases found : k.lookup request.tid = some t ∧ (k.thread t).Valid
  · have same : (perform request k).thread t = request.change k.jiffies (k.thread t) := by
      rw [perform_thread,if_pos found]
    cases request with
    | sleep =>
        left
        rcases held with requested | waiting
        · refine .inl (requested.kept globals.listed globals.currentThread ?_ ?_ ?_) <;> rw [same]
          · exact (change_pending _ _ _).1.mpr
          · rfl
          · exact fun _ => rfl
        · exact .inr (by rw [same]; exact waiting)
    | yield =>
        left
        rcases held with requested | waiting
        · refine .inl (requested.kept globals.listed globals.currentThread ?_ ?_ ?_) <;> rw [same]
          · exact (change_pending _ _ _).1.mpr
          · rfl
          · exact id
        · exact .inr (by rw [same]; exact waiting)
    | wakeup tid => exact absurd found.1 respects
    | blocked tid => exact .inr (lookup_some.mp found.1).1
    | waiting tid ms => exact .inl (.inr (by rw [same]; rfl))
    | zombie tid => exact .inr (lookup_some.mp found.1).1
  · exact .inl (held_same globals (by rw [perform_thread,if_neg found]) held)

theorem kept_held (tick : Tick tmp k .same k') (held : Held t k) : Held t k' := by
  obtain ⟨globals,_,alike | ⟨_,_,running,request,ms,cpu,same⟩⟩ := tick_kept tick t
  · rcases held with requested | waiting
    · exact .inl (requested.kept globals.listed globals.currentThread alike.valid.mpr alike.state
        fun request => alike.sleepInProgress.trans request)
    · exact .inr (alike.state.trans waiting)
  · have waiting := request_within ms cpu k.jiffies running request
    rw [← same] at waiting
    exact .inr waiting

theorem Clocked.held (clocked : Clocked k k') (silent : ¬ Rings k t) (held : Held t k) : Held t k' := by
  rcases held with requested | waiting
  · exact .inl ((clocked.requested silent).mpr requested)
  · right
    rwa [clocked.others t silent]

theorem step_held {t : Nat} (step : Mindful t k action k') (keeps : action.Keeps) (held : Held t k) :
    Held t k' ∨ action.Shelves t := by
  obtain ⟨acts,respects⟩ := step
  cases acts with
  | request request => exact request_held request respects held
  | mail sent =>
      have mailed := sends_mailed sent
      exact .inl (held_same mailed.globals (mailed.others t respects) held)
  | tick called =>
      obtain rfl : _ = Switch.same := keeps
      obtain ⟨k₁,clocked,tick,_⟩ := mindful_tick called respects
      exact .inl (kept_held tick (clocked.held respects.2.2.2 held))

theorem run_held {t : Nat} (path : Runs.Path (Mindful t) k actions k') (keeps : ∀ a ∈ actions, a.Keeps) (held : Held t k) :
    Held t k' ∨ ∃ a ∈ actions, a.Shelves t := by
  induction path with
  | nil => exact .inl held
  | step earlier last ih =>
      rcases ih (fun a member => keeps a (List.mem_append_left _ member)) with before | ⟨a,member,shelves⟩
      · rcases step_held last (keeps _ (by simp)) before with after | shelves
        · exact .inl after
        · exact .inr ⟨_,by simp,shelves⟩
      · exact .inr ⟨a,List.mem_append_left _ member,shelves⟩

theorem sleep_honoured {t : Nat} (requested : Requested t k) (quiet : ¬ PendingResponder k t)
    (path : Runs.Path (Mindful t) k actions k') (last : Mindful t k' (.tick callback tmp switch) k'') :
    ((∀ a ∈ actions, a.Keeps) → switch ≠ .same → (k'.thread t).state = .waiting ∨ ∃ a ∈ actions, a.Shelves t) ∧
    (switch = .dispatch t → (k''.thread t).wakeJiffy ≤ k''.jiffies) := by
  have slumber := path.invariant (Slumber t) (fun _ _ _ holds step => mindful_slumber step holds) ⟨quiet,.inl requested⟩
  obtain ⟨acts,respects⟩ := last
  cases acts with
  | tick called =>
      obtain ⟨k₁,clocked,tick,spared,short⟩ := mindful_tick called respects
      have silent := respects.2.2.2
      refine ⟨?_,(tick_slumber tick spared short (clocked.slumber silent respects.2.2.1 slumber)).2⟩
      intro keeps taken
      rcases run_held path keeps (.inl requested) with (standing | waiting) | shelved
      · exfalso
        have still := (clocked.requested silent).mpr standing
        cases tick with
        | callback | locked | within => exact taken rfl
        | spawn ended => exact still.spent ended (short still taken ended.status)
        | dispatch ended => exact still.spent ended (short still taken ended.status)
      · exact .inl waiting
      · exact .inr shelved

def pairTable : Kernel := schediSelectForExecution (some 100) (afterCall newThread)

def longSleep : Kernel := sleep 0 10 (pairTable.modify 0 fun t => {t with quantum := quantumMax})

def longFirst : Except Halt (Option (Switch × Kernel)) := irq0Timer .zero 3 false (fun _ => -1) 1 longSleep

def longSecond : Except Halt (Option (Switch × Kernel)) := irq0Timer .zero 3 false (fun _ => -1) 1 (afterTick longFirst)

-- With a whole quantum before it the thread is WAITING when the other starts.
theorem long_quantum_sleeps : endsWith longSecond (.spawn 100) = true ∧ ((afterTick longFirst).thread 0).state = .waiting := by
  have requested : Requested 0 longSleep :=
    ⟨by decide +kernel,by decide +kernel,by decide +kernel,by decide +kernel⟩
  have quiet : ¬ PendingResponder longSleep 0 := by
    intro pending
    obtain ⟨_,event,_⟩ := pending
    exact absurd event (by decide +kernel)
  have first : Mindful 0 longSleep (.tick false (fun _ => -1) .same) (afterTick longFirst) := by
    refine ⟨.tick (afterTick_ok (by decide +kernel)),fun _ _ _ => by decide +kernel,?_,by decide +kernel,?_⟩
    · simp [Kernel.lookup]
    · exact fun rings => absurd rings.2.2.1 (by decide +kernel)
  have second : Mindful 0 (afterTick longFirst) (.tick false (fun _ => -1) (.spawn 100)) (afterTick longSecond) := by
    refine ⟨.tick (afterTick_ok (by decide +kernel)),?_,?_,by decide +kernel,?_⟩
    · intro standing
      exact absurd standing.running (by decide +kernel)
    · simp [Kernel.lookup]
    · exact fun rings => absurd rings.2.2.1 (by decide +kernel)
  have kept := (sleep_honoured requested quiet (.step .nil first) second).1 (by simp [Action.Keeps]) (by decide)
  refine ⟨by decide +kernel,kept.resolve_right ?_⟩
  simp [Action.Shelves]

def shortSleep : Kernel := sleep 0 10 pairTable

def shortTick : Except Halt (Option (Switch × Kernel)) := irq0Timer .zero 3 false (fun _ => -1) 1 shortSleep

-- With the smallest quantum the request is passed over: the processor goes to
-- the other thread and the sleeper is READY.
theorem short_quantum_stays_ready :
    Requested 0 shortSleep ∧ (shortSleep.thread 0).quantum = quantumMin ∧ endsWith shortTick (.spawn 100) = true ∧
    ((afterTick shortTick).thread 0).state = .ready ∧ ((afterTick shortTick).thread 0).sleepInProgress = true := by
  exact ⟨⟨by decide +kernel,by decide +kernel,by decide +kernel,by decide +kernel⟩,by decide +kernel,by decide +kernel,
    by decide +kernel,by decide +kernel⟩

end GramadoKernel
