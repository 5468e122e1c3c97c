import GramadoKernel.Switching

namespace GramadoKernel

def Thread.suspended (t : Thread) (ms : UInt64) (cpu : Registers) : Thread :=
  {(t.charged ms).captured cpu with saved := true}

def sleepTicks (ms : UInt64) : UInt64 := if ms = 0 then 1 else ms

theorem sleepTicks_again (ms : UInt64) : sleepTicks (sleepTicks ms) = sleepTicks ms := by
  unfold sleepTicks
  by_cases none : ms = 0 <;> simp [none]

def Thread.yielded (t : Thread) : Thread :=
  if t.state = .running ∧ t.yieldInProgress = true then {t with runningCount := t.quantum,yieldInProgress := false} else t

def Thread.slept (t : Thread) (jiffies : UInt64) : Thread :=
  if t.state = .running ∧ t.sleepInProgress = true then
    {t with
      runningCount := t.quantum
      state := .waiting
      waitingJiffy := jiffies
      wakeJiffy := jiffies+sleepTicks t.desiredSleepMs
      sleepInProgress := false}
  else t

def Thread.finished (t : Thread) : Thread :=
  {t with
    state := if t.state = .running then .ready else t.state
    readyCount := if t.state = .running then 0 else t.readyCount}

theorem suspended_tid (t : Thread) (ms : UInt64) (cpu : Registers) : (t.suspended ms cpu).tid = t.tid := by
  unfold Thread.suspended Thread.captured
  rfl

theorem finished_tid (t : Thread) : t.finished.tid = t.tid := rfl

theorem finished_valid (t : Thread) : t.finished.Valid ↔ t.Valid := Iff.rfl

theorem slept_kept (t : Thread) (jiffies : UInt64) : ((t.slept jiffies).Valid ↔ t.Valid) ∧
    (t.slept jiffies).hasPendingEvent = t.hasPendingEvent ∧ (t.slept jiffies).exitInProgress = t.exitInProgress := by
  unfold Thread.slept
  split <;> exact ⟨Iff.rfl,rfl,rfl⟩

theorem doThreadWaiting_thread (tid : Int) (ms : UInt64) (k : Kernel) (i : Nat) : (doThreadWaiting tid ms k).thread i =
    if k.lookup tid = some i ∧ (k.thread i).Valid then
      {k.thread i with state := .waiting,waitingJiffy := k.jiffies,wakeJiffy := k.jiffies+sleepTicks ms}
    else k.thread i := onThread_thread _ _ _ _ _

theorem sleepUntil_rewritten (ms : UInt64) (found : k.lookup tid = some p) (valid : (k.thread p).Valid) :
    Rewritten p {k.thread p with state := .waiting,waitingJiffy := k.jiffies,wakeJiffy := k.jiffies+sleepTicks ms} k
      (sleepUntil tid ms k) := by
  unfold sleepUntil
  refine ⟨onThread_globals _ _ _ _,?_,?_,?_⟩
  · unfold doThreadWaiting Kernel.onThread
    simp [found,valid,Kernel.modify]
  · rw [doThreadWaiting_thread,if_pos ⟨found,valid⟩]
    change {k.thread p with state := .waiting,waitingJiffy := k.jiffies,wakeJiffy := k.jiffies+sleepTicks (sleepTicks ms)} = _
    rw [sleepTicks_again]
  · intro i other
    rw [doThreadWaiting_thread,found,if_neg (fun both => other (Option.some.inj both.1).symm)]

theorem stillInQuantum_rewritten (listed : k.listed p = true) (below : p < threadCountMax) (valid : (k.thread p).Valid) :
    Rewritten p ((k.thread p).yielded.slept k.jiffies) k (stillInQuantum p k) := by
  unfold stillInQuantum
  have yielded : Rewritten p (k.thread p).yielded k
      (if (k.thread p).state = .running ∧ (k.thread p).yieldInProgress = true then
        k.modify p fun t => {t with runningCount := t.quantum,yieldInProgress := false} else k) := by
    unfold Thread.yielded
    split
    · exact modify_rewritten k p (fun t => {t with runningCount := t.quantum,yieldInProgress := false}) (by intro t; rfl)
    · exact same_rewritten k p
  generalize (if (k.thread p).state = .running ∧ (k.thread p).yieldInProgress = true then
    k.modify p fun t => {t with runningCount := t.quantum,yieldInProgress := false} else k) = k₁ at yielded
  have kept : (k.thread p).yielded.Valid := by
    unfold Thread.yielded
    split <;> exact valid
  have found : k₁.lookup (k₁.thread p).tid = some p := lookup_own k₁ (yielded.globals.listed ▸ listed) below
  rw [← yielded.target] at kept
  simp only []
  split
  · rename_i sleeps
    have spent := modify_rewritten k₁ p (fun t => {t with runningCount := t.quantum}) (by intro t; rfl)
    have again : (k₁.modify p fun t => {t with runningCount := t.quantum}).lookup (k₁.thread p).tid = some p := found
    have still : ((k₁.modify p fun t => {t with runningCount := t.quantum}).thread p).Valid := by
      rw [Kernel.modify_same]
      exact kept
    have asleep := sleepUntil_rewritten (k₁.thread p).desiredSleepMs again still
    have cleared := modify_rewritten (sleepUntil (k₁.thread p).tid (k₁.thread p).desiredSleepMs
      (k₁.modify p fun t => {t with runningCount := t.quantum})) p (fun t => {t with sleepInProgress := false}) (by intro t; rfl)
    have whole := yielded.trans (spent.trans (asleep.trans cleared))
    rw [asleep.target,Kernel.modify_same] at whole
    rw [yielded.target] at sleeps
    rw [Thread.slept,if_pos sleeps]
    rw [Kernel.modify_same]
    convert whole using 1
    rw [yielded.target,show (k₁.modify p fun t => {t with runningCount := t.quantum}).jiffies = k.jiffies from
      yielded.globals.jiffies]
  · rename_i awake
    rw [yielded.target] at awake
    rw [Thread.slept,if_neg awake]
    exact yielded

structure Interrupted (p : Nat) (t : Thread) (k k' : Kernel) : Prop where
  found : k.lookup k.currentThread = some p
  valid : (k.thread p).Valid
  rewritten : Rewritten p t k k'

theorem Interrupted.either (interrupted : Interrupted p u k k') (t : Nat) :
    (t = p ∧ k'.thread t = u) ∨ (t ≠ p ∧ k'.thread t = k.thread t) := by
  by_cases same : t = p
  · subst t
    exact .inl ⟨rfl,interrupted.rewritten.target⟩
  · exact .inr ⟨same,interrupted.rewritten.others t same⟩

-- The quantum is over and the processor is taken from the thread.
structure Ended (p : Nat) (k k' : Kernel) : Prop where
  status : k.taskSwitchStatus = unlocked
  spent : ¬ (k.thread p).runningCount+1 < (k.thread p).quantum
  interrupted : ∃ ms cpu, Interrupted p ((k.thread p).suspended ms cpu).finished k k'

-- The ways a timer interrupt returns to user mode.
inductive Tick (tmp : Nat → Int) (k : Kernel) : Switch → Kernel → Prop where
  | callback : k'.thread = k.thread → SameGlobals k k' →
      k'.evResponderThread = k.evResponderThread → Tick tmp k .same k'
  | locked : k.taskSwitchStatus = locked → Interrupted p ((k.thread p).charged ms) k k' → Tick tmp k .same k'
  | within : k.taskSwitchStatus = unlocked → (k.thread p).runningCount+1 < (k.thread p).quantum →
      Interrupted p (((k.thread p).suspended ms cpu).yielded.slept k.jiffies) k k' → Tick tmp k .same k'
  | spawn : Ended p k k₁ → Spawned q k₁ k' → Tick tmp k (.spawn q) k'
  | dispatch : Ended p k k₁ → (∀ i, i < threadCountMax → k₁.listed i = true → ¬ (k₁.thread i).Standby) →
      Runs.Path (Move tmp) k₁ turns k₂ → Dispatched q {k₂ with currentThread := (q : Nat)} k' → Tick tmp k (.dispatch q) k'

theorem Rewritten.eoi (rewritten : Rewritten p t k k') (necessary : Bool) :
    Rewritten p t k {k' with spawnEoiIsNecessary := necessary} :=
  ⟨{rewritten.globals with},rewritten.responder,rewritten.target,rewritten.others⟩

-- The eoi mark that irq0_TIMER clears at its end concerns nothing here.
theorem Tick.eoi (tick : Tick tmp k switch k') (necessary : Bool) :
    Tick tmp k switch {k' with spawnEoiIsNecessary := necessary} := by
  cases tick with
  | callback threads globals responder => exact .callback threads {globals with} responder
  | locked status interrupted =>
      exact .locked status ⟨interrupted.found,interrupted.valid,interrupted.rewritten.eoi necessary⟩
  | within status short interrupted =>
      exact .within status short ⟨interrupted.found,interrupted.valid,interrupted.rewritten.eoi necessary⟩
  | spawn ended spawned => exact .spawn ended {spawned with globals := {spawned.globals with}}
  | dispatch ended nobody moves dispatched =>
      exact .dispatch ended nobody moves {dispatched with globals := {dispatched.globals with}}

theorem Rewritten.framed {k : Kernel} (frame : Registers) (cpl : UInt64)
    (rewritten : Rewritten p t {k with cpu := frame,contextCpl := cpl,spawnEoiIsNecessary := true} k') : Rewritten p t k k' :=
  ⟨{rewritten.globals with},rewritten.responder,rewritten.target,rewritten.others⟩

theorem incrementDispatcherCount_rewritten (rewritten : Rewritten p t k k')
    (counted : incrementDispatcherCount type k' = .ok k'') : Rewritten p t k k'' := by
  obtain ⟨d,rfl⟩ := incrementDispatcherCount_parts counted
  exact ⟨{rewritten.globals with},rewritten.responder,rewritten.target,rewritten.others⟩

-- The last part of __task_switch: selection, then dispatch.
theorem selected_tick (ended : Ended p k k₁) (nobody : ∀ i, i < threadCountMax → k₁.listed i = true → ¬ (k₁.thread i).Standby)
    (chosen : selectThread tmp fuel k₁ = .ok (some k₂)) (dispatched : dispatchCurrent k₂ = .ok k') :
    Tick tmp k (.dispatch k'.currentThread) k' := by
  obtain ⟨turns,k₃,c,moves,_,_,rfl⟩ := selectThread_moves chosen
  obtain ⟨q,effect⟩ := dispatchCurrent_dispatched dispatched
  have own := (lookup_some.mp effect.found).1
  rw [effect.globals.currentThread,own]
  have same : (k₃.thread c).tid = q := own
  rw [same] at effect
  exact .dispatch ended nobody moves effect

-- The processor stays where it is, or the quantum is over and a thread in standby starts
-- or one is selected.
theorem taskSwitch_cases (k : Kernel) (frame : Registers) (cpl : UInt64)
    (called : taskSwitch tmp fuel {k with cpu := frame,contextCpl := cpl,spawnEoiIsNecessary := true} = .ok (some (switch,k'))) :
    (switch = .same ∧ Tick tmp k .same k') ∨ ∃ p k₁, Ended p k k₁ ∧
      ((∃ q : Nat, switch = .spawn q ∧ Spawned q k₁ k') ∨
        (switch = .dispatch k'.currentThread ∧ (∀ i, i < threadCountMax → k₁.listed i = true → ¬ (k₁.thread i).Standby) ∧
          ∃ k₂, selectThread tmp fuel k₁ = .ok (some k₂) ∧ dispatchCurrent k₂ = .ok k')) := by
  simp only [taskSwitch,bind_ok,Prod.exists] at called
  obtain ⟨p,k₁,began,called⟩ := called
  obtain ⟨found,valid,ms,charge⟩ := chargeCurrent_parts began
  have charged : Rewritten p ((k.thread p).charged ms) k k₁ := charge.framed frame cpl
  have listed := (lookup_some.mp found).2.2
  have below := (lookup_some.mp found).2.1
  have status : k₁.taskSwitchStatus = k.taskSwitchStatus := charged.globals.taskSwitchStatus
  split at called
  · rename_i shut
    simp only [bind_ok,Except.ok.injEq,Option.some.injEq,Prod.mk.injEq] at called
    obtain ⟨k₂,counted,rfl,rfl⟩ := called
    exact .inl ⟨rfl,.locked (status ▸ shut) ⟨found,valid,incrementDispatcherCount_rewritten charged counted⟩⟩
  · simp only [bind_ok,require_ok] at called
    obtain ⟨_,unshut,k₂,saving,called⟩ := called
    obtain ⟨q,again,captured⟩ := saveCurrentContext_parts saving
    have lookups : k₁.lookup k₁.currentThread = k.lookup k.currentThread := by
      simp only [Kernel.lookup,charged.globals.currentThread,charged.globals.listed]
    obtain rfl : q = p := Option.some.inj (again.symm.trans (lookups.trans found))
    have marked := modify_rewritten k₂ q (fun t => {t with saved := true}) (by intro t; rfl)
    rw [captured.target,charged.target] at marked
    have suspended := charged.trans (captured.trans marked)
    generalize k₂.modify q (fun t => {t with saved := true}) (by intro t; rfl) = k₃ at called suspended
    have short : (k₃.thread q).runningCount < (k₃.thread q).quantum ↔
        (k.thread q).runningCount+1 < (k.thread q).quantum := by
      rw [suspended.target]
      rfl
    split at called
    · rename_i inside
      simp only [bind_ok,Except.ok.injEq,Option.some.injEq,Prod.mk.injEq] at called
      obtain ⟨k₄,counted,rfl,rfl⟩ := called
      have ready : (k₃.thread q).Valid := by
        rw [suspended.target]
        exact valid
      have requested := stillInQuantum_rewritten (suspended.globals.listed ▸ listed) below ready
      rw [suspended.target,suspended.globals.jiffies] at requested
      exact .inl ⟨rfl,.within (status ▸ unshut) (short.mp inside)
        ⟨found,valid,incrementDispatcherCount_rewritten (suspended.trans requested) counted⟩⟩
    · rename_i outside
      have finished := modify_rewritten k₃ q Thread.finished (by intro t; rfl)
      rw [suspended.target] at finished
      have ended : Ended q k (tsOnFinishedExecuting q k₃) :=
        ⟨status ▸ unshut,fun inside => outside (short.mpr inside),ms,_,found,valid,suspended.trans finished⟩
      generalize tsOnFinishedExecuting q k₃ = k₄ at called ended
      simp only [bind_ok] at called
      obtain ⟨standby,checked,called⟩ := called
      rcases schediCheckForStandby_parts checked with ⟨rfl,nobody⟩ | ⟨r,k₅,rfl,_,spawned⟩
      · simp only [bind_ok] at called
        obtain ⟨selected,chosen,called⟩ := called
        cases selected with
        | none => cases called
        | some k₅ =>
            simp only [bind_ok,Except.ok.injEq,Option.some.injEq,Prod.mk.injEq] at called
            obtain ⟨k₆,dispatched,rfl,rfl⟩ := called
            exact .inr ⟨q,k₄,ended,.inr ⟨rfl,nobody,k₅,chosen,dispatched⟩⟩
      · cases called
        exact .inr ⟨q,k₄,ended,.inl ⟨r,rfl,spawned⟩⟩

theorem taskSwitch_tick (k : Kernel) (frame : Registers) (cpl : UInt64)
    (called : taskSwitch tmp fuel {k with cpu := frame,contextCpl := cpl,spawnEoiIsNecessary := true} = .ok (some (switch,k'))) :
    Tick tmp k switch k' := by
  rcases taskSwitch_cases k frame cpl called with ⟨rfl,kept⟩ | ⟨p,k₁,ended,⟨q,rfl,spawned⟩ | ⟨rfl,nobody,k₂,chosen,dispatched⟩⟩
  · exact kept
  · exact .spawn ended spawned
  · exact selected_tick ended nobody chosen dispatched

-- A timer interrupt is the tick of the clock with its message, then this.
theorem irq0Timer_tick (called : irq0Timer frame cpl callback tmp fuel k = .ok (some (switch,k'))) :
    ∃ rv k₁, wmTimerEvent 1234 {k with jiffies := k.jiffies+1} = .ok (rv,k₁) ∧ Tick tmp k₁ switch k' := by
  simp only [irq0Timer,bind_ok,require_ok,Prod.exists] at called
  obtain ⟨rv,k₁,event,_,_,_,_,called⟩ := called
  refine ⟨rv,k₁,event,?_⟩
  split at called
  · cases called
    exact .callback rfl (by constructor <;> rfl) rfl
  · simp only [bind_ok] at called
    obtain ⟨result,switched,called⟩ := called
    split at called
    · cases called
      exact taskSwitch_tick k₁ frame cpl switched
    · cases called
      exact (taskSwitch_tick k₁ frame cpl switched).eoi false
    · cases called

-- Two states of a thread that differ in its accounts only.
structure Alike (t t' : Thread) : Prop where
  valid : t'.Valid ↔ t.Valid
  state : t'.state = t.state
  wakeJiffy : t'.wakeJiffy = t.wakeJiffy
  sleepInProgress : t'.sleepInProgress = t.sleepInProgress
  hasPendingEvent : t'.hasPendingEvent = t.hasPendingEvent
  exitInProgress : t'.exitInProgress = t.exitInProgress

theorem Alike.refl (t : Thread) : Alike t t := ⟨Iff.rfl,rfl,rfl,rfl,rfl,rfl⟩

theorem Alike.trans (left : Alike a b) (right : Alike b c) : Alike a c :=
  ⟨right.valid.trans left.valid,right.state.trans left.state,right.wakeJiffy.trans left.wakeJiffy,
    right.sleepInProgress.trans left.sleepInProgress,right.hasPendingEvent.trans left.hasPendingEvent,
    right.exitInProgress.trans left.exitInProgress⟩

theorem charged_alike (t : Thread) (ms : UInt64) : Alike t (t.charged ms) := ⟨Iff.rfl,rfl,rfl,rfl,rfl,rfl⟩

theorem suspended_alike (t : Thread) (ms : UInt64) (cpu : Registers) : Alike t (t.suspended ms cpu) := by
  unfold Thread.suspended Thread.captured
  exact ⟨Iff.rfl,rfl,rfl,rfl,rfl,rfl⟩

theorem yielded_alike (t : Thread) : Alike t t.yielded := by
  unfold Thread.yielded
  split <;> exact ⟨Iff.rfl,rfl,rfl,rfl,rfl,rfl⟩

theorem slept_awake {t : Thread} (jiffies : UInt64) (awake : ¬ (t.state = .running ∧ t.sleepInProgress = true)) :
    t.slept jiffies = t := if_neg awake

theorem within_alike (ms : UInt64) (cpu : Registers) (jiffies : UInt64)
    (awake : ¬ (t.state = .running ∧ t.sleepInProgress = true)) :
    Alike t ((Thread.suspended t ms cpu).yielded.slept jiffies) := by
  have alike := (suspended_alike t ms cpu).trans (yielded_alike _)
  rwa [slept_awake jiffies (by rwa [alike.state,alike.sleepInProgress])]

theorem request_within (ms : UInt64) (cpu : Registers) (jiffies : UInt64) (running : t.state = .running)
    (request : t.sleepInProgress = true) : ((Thread.suspended t ms cpu).yielded.slept jiffies).state = .waiting := by
  have both : (Thread.suspended t ms cpu).yielded.state = .running ∧
      (Thread.suspended t ms cpu).yielded.sleepInProgress = true := by
    have alike := (suspended_alike t ms cpu).trans (yielded_alike _)
    rw [alike.state,alike.sleepInProgress]
    exact ⟨running,request⟩
  unfold Thread.slept
  rw [if_pos both]

-- A tick that leaves the processor where it is does nothing to a thread but to
-- put the current one to sleep at its own request.
theorem tick_kept (tick : Tick tmp k .same k') (t : Nat) :
    SameGlobals k k' ∧ k'.evResponderThread = k.evResponderThread ∧
    (Alike (k.thread t) (k'.thread t) ∨ (k.lookup k.currentThread = some t ∧ k.taskSwitchStatus = unlocked ∧
      (k.thread t).state = .running ∧ (k.thread t).sleepInProgress = true ∧
      ∃ ms cpu, k'.thread t = ((k.thread t).suspended ms cpu).yielded.slept k.jiffies)) := by
  generalize kept : Switch.same = switch at tick
  cases tick with
  | callback threads globals responder =>
      refine ⟨globals,responder,.inl ?_⟩
      rw [threads]
      exact .refl _
  | locked status interrupted =>
      refine ⟨interrupted.rewritten.globals,interrupted.rewritten.responder,.inl ?_⟩
      rcases interrupted.either t with ⟨rfl,here⟩ | ⟨_,elsewhere⟩
      · rw [here]
        exact charged_alike _ _
      · rw [elsewhere]
        exact .refl _
  | within status short interrupted =>
      rename_i p ms cpu
      refine ⟨interrupted.rewritten.globals,interrupted.rewritten.responder,?_⟩
      rcases interrupted.either t with ⟨rfl,here⟩ | ⟨_,elsewhere⟩
      · by_cases asleep : (k.thread t).state = .running ∧ (k.thread t).sleepInProgress = true
        · exact .inr ⟨interrupted.found,status,asleep.1,asleep.2,ms,cpu,here⟩
        · rw [here]
          exact .inl (within_alike ms cpu _ asleep)
      · rw [elsewhere]
        exact .inl (.refl _)
  | spawn | dispatch => cases kept

theorem Ended.thread (ended : Ended p k k') (t : Nat) : SameGlobals k k' ∧
    k'.evResponderThread = k.evResponderThread ∧
    ((t = p ∧ ∃ u, Alike (k.thread t) u ∧ k'.thread t = u.finished) ∨ (t ≠ p ∧ k'.thread t = k.thread t)) := by
  obtain ⟨ms,cpu,interrupted⟩ := ended.interrupted
  refine ⟨interrupted.rewritten.globals,interrupted.rewritten.responder,?_⟩
  rcases interrupted.either t with ⟨rfl,here⟩ | elsewhere
  · exact .inl ⟨rfl,_,suspended_alike _ _ _,here⟩
  · exact .inr elsewhere

theorem Ended.pending (ended : Ended p k k') (pending : PendingResponder k' t) : PendingResponder k t := by
  obtain ⟨use,same,kept,raised⟩ := pending
  obtain ⟨globals,responder,⟨_,u,alike,here⟩ | ⟨_,elsewhere⟩⟩ := ended.thread t
  · rw [here] at kept raised
    have valid := alike.valid.mp ((finished_valid u).mp kept)
    exact ⟨globals.gUseEventResponder.symm.trans use,responder.symm.trans same,valid,alike.hasPendingEvent.symm.trans raised⟩
  · rw [elsewhere] at kept raised
    exact ⟨globals.gUseEventResponder.symm.trans use,responder.symm.trans same,kept,raised⟩

theorem Ended.lookup (ended : Ended p k k') (tid : Int) : k'.lookup tid = k.lookup tid :=
  lookup_congr (ended.thread 0).1.listed tid

-- A display server callback never takes the processor away.
theorem irq0Timer_callback (called : irq0Timer frame cpl callback tmp fuel k = .ok (some (switch,k')))
    (taken : switch ≠ .same) : callback = false := by
  simp only [irq0Timer,bind_ok,require_ok,Prod.exists] at called
  obtain ⟨_,_,_,_,_,_,_,called⟩ := called
  split at called
  · cases called
    exact absurd rfl taken
  · rename_i ordinary
    simpa using ordinary

end GramadoKernel
