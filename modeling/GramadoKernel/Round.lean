import GramadoKernel.Library.Linked
import GramadoKernel.Scheduler

namespace GramadoKernel

theorem doThreadReady_thread (tid : Int) (k : Kernel) (i : Nat) : (doThreadReady tid k).thread i =
    if k.lookup tid = some i ∧ (k.thread i).Valid then {k.thread i with state := .ready,readyJiffy := k.jiffies}
    else k.thread i := onThread_thread _ _ _ _ _

theorem doThreadReady_globals (tid : Int) (k : Kernel) : SameGlobals k (doThreadReady tid k) := onThread_globals _ _ _ _

theorem doThreadReady_responder (tid : Int) (k : Kernel) :
    (doThreadReady tid k).evResponderThread = k.evResponderThread := by
  unfold doThreadReady Kernel.onThread
  split
  · rfl
  · split <;> rfl

theorem lookup_own (k : Kernel) (present : k.listed i = true) (below : i < threadCountMax) :
    k.lookup (k.thread i).tid = some i := by
  rw [k.tids i present]
  exact lookup_some.mpr ⟨rfl,below,present⟩

theorem rrWake_globals (i : Nat) (k : Kernel) : SameGlobals k (rrWake i k) := by
  unfold rrWake
  split
  · exact (modify_globals _ _ _ _).trans (doThreadReady_globals _ _)
  · exact .refl k

theorem rrWake_responder (i : Nat) (k : Kernel) : (rrWake i k).evResponderThread = k.evResponderThread := by
  unfold rrWake
  split
  · exact doThreadReady_responder _ _
  · rfl

theorem rrWake_other (present : k.listed i = true) (below : i < threadCountMax) (other : j ≠ i) :
    (rrWake i k).thread j = k.thread j := by
  unfold rrWake
  split
  · have own : (k.modify i (fun t => t.checkAlarm k.jiffies) (checkAlarm_tid k.jiffies)).lookup (k.thread i).tid = some i :=
      lookup_own k present below
    rw [doThreadReady_thread,own,if_neg (by simp [Ne.symm other]),Kernel.modify_other _ _ _ _ other]
  · rfl

theorem rrWake_self (present : k.listed i = true) (below : i < threadCountMax) (waits : (k.thread i).Waits) :
    (rrWake i k).thread i = {(k.thread i).checkAlarm k.jiffies with state := .ready,readyJiffy := k.jiffies} := by
  unfold rrWake
  rw [if_pos waits]
  have own : (k.modify i (fun t => t.checkAlarm k.jiffies) (checkAlarm_tid k.jiffies)).lookup (k.thread i).tid = some i :=
    lookup_own k present below
  have valid : ((k.thread i).checkAlarm k.jiffies).Valid := waits.1
  rw [doThreadReady_thread,own,Kernel.modify_same,if_pos ⟨rfl,valid⟩]
  rfl

theorem rrWake_awake (i : Nat) (k : Kernel) (awake : ¬ (k.thread i).Waits) : rrWake i k = k := if_neg awake

-- What the visit of a slot makes of its thread, and whether the thread joins
-- the round; `plain` says that it is not Idle.
inductive Visit (jiffies : UInt64) (plain : Prop) (t : Thread) : Thread → Bool → Prop where
  | exits : t.Exiting → plain → Visit jiffies plain t {t with state := .zombie} false
  | sleeps : ¬ (t.Exiting ∧ plain) → t.Waits → jiffies < t.wakeJiffy →
      Visit jiffies plain t (t.checkAlarm jiffies) false
  | reaped : ¬ (t.Exiting ∧ plain) → t.Valid → t.state = .zombie →
      Visit jiffies plain t {t with used := false,magic := 0} false
  | wakes : ¬ (t.Exiting ∧ plain) → t.Waits → t.wakeJiffy ≤ jiffies →
      Visit jiffies plain t
        ({t.checkAlarm jiffies with state := .ready,readyJiffy := jiffies}.scheduled quantum) true
  | runs : ¬ (t.Exiting ∧ plain) → t.Valid → t.state = .ready → Visit jiffies plain t (t.scheduled quantum) true
  | passed : ¬ (t.Exiting ∧ plain) → ¬ t.Waits → ¬ (t.Valid ∧ (t.state = .zombie ∨ t.state = .ready)) →
      Visit jiffies plain t t false

-- The whole effect of a visit: the slot itself, and one link when it joins.
structure Visited (idle i : Nat) (k : Kernel) (p : Nat) (k' : Kernel) (p' : Nat) : Prop where
  globals : SameGlobals k k'
  responder : k'.evResponderThread = k.evResponderThread
  slot : ∃ joins, Visit k.jiffies (i ≠ idle) (k.thread i) (k'.thread i) joins ∧
    p' = (if joins = true then i else p) ∧
    (p ≠ i → k'.thread p = (k.thread p).link (if joins = true then some i else (k.thread p).next))
  others : ∀ j, j ≠ i → j ≠ p → k'.thread j = k.thread j

-- A visit that writes nothing but its own slot.
theorem modify_visited {k₁ : Kernel} (f : Thread → Thread) (keeps : ∀ t, (f t).tid = t.tid) (apart : p ≠ i)
    (globals : SameGlobals k k₁) (responder : k₁.evResponderThread = k.evResponderThread) (threads : k₁.thread = k.thread)
    (visit : Visit k.jiffies (i ≠ idle) (k.thread i) (f (k.thread i)) false) :
    Visited idle i k p (k₁.modify i f keeps) p := by
  refine ⟨globals.trans (modify_globals _ _ _ _),responder,⟨false,?_,rfl,?_⟩,?_⟩
  · rwa [Kernel.modify_same,threads]
  · intro _
    rw [Kernel.modify_other _ _ _ _ apart,threads]
    rfl
  · intro j other _
    rw [Kernel.modify_other _ _ _ _ other,threads]

theorem joined_visited {k₁ : Kernel} (present : k.listed i = true) (below : i < threadCountMax) (apart : p ≠ i)
    (stays : ¬ ((k.thread i).Exiting ∧ i ≠ idle)) (wakes : ¬ ((k.thread i).Waits ∧ k.jiffies < (k.thread i).wakeJiffy))
    (ready : ((rrWake i k).thread i).Valid ∧ ((rrWake i k).thread i).state = .ready)
    (linked : k₁ = (rrWake i k).modify p (fun t => t.link (some i)) (link_tid (some i))) :
    Visited idle i k p (k₁.modify i (fun t => t.scheduled (roundQuantum k₁ t))
      (fun t => scheduled_tid (roundQuantum k₁ t) t)) i := by
  subst linked
  refine ⟨(rrWake_globals i k).trans ((modify_globals _ _ _ _).trans (modify_globals _ _ _ _)),
    rrWake_responder i k,⟨true,?_,rfl,?_⟩,?_⟩
  · rw [Kernel.modify_same,Kernel.modify_other _ _ _ _ (Ne.symm apart)]
    by_cases waits : (k.thread i).Waits
    · rw [rrWake_self present below waits]
      refine .wakes stays waits ?_
      by_contra late
      exact wakes ⟨waits,UInt64.not_le.mp late⟩
    · rw [rrWake_awake i k waits] at ready ⊢
      exact .runs stays ready.1 ready.2
  · intro _
    rw [Kernel.modify_other _ _ _ _ apart,Kernel.modify_same,rrWake_other present below apart]
    rfl
  · intro j other away
    rw [Kernel.modify_other _ _ _ _ other,Kernel.modify_other _ _ _ _ away,rrWake_other present below other]

theorem rrVisit_visited (present : k.listed i = true) (below : i < threadCountMax) (apart : p ≠ i)
    (visited : rrVisit idle i k p = .ok (k',p')) : Visited idle i k p k' p' := by
  unfold rrVisit at visited
  simp only [] at visited
  split at visited
  · rename_i exits
    cases visited
    exact modify_visited _ _ apart (by constructor <;> rfl) rfl rfl (.exits exits.1 exits.2)
  rename_i stays
  split at visited
  · rename_i sleeps
    cases visited
    exact modify_visited _ _ apart (.refl k) rfl rfl (.sleeps stays sleeps.1 sleeps.2)
  rename_i wakes
  split at visited
  · rename_i zombie
    simp only [bind_ok,require_ok,Except.ok.injEq,Prod.mk.injEq] at visited
    obtain ⟨_,_,rfl,rfl⟩ := visited
    have awake : ¬ (k.thread i).Waits := by
      intro waits
      rw [rrWake_self present below waits] at zombie
      cases zombie.2
    rw [rrWake_awake i k awake] at zombie ⊢
    exact modify_visited _ _ apart (by constructor <;> rfl) rfl rfl (.reaped stays zombie.1 zombie.2)
  rename_i unreaped
  split at visited
  · rename_i ready
    cases visited
    exact joined_visited present below apart stays wakes ready rfl
  · rename_i unready
    cases visited
    have awake : ¬ (k.thread i).Waits := by
      intro waits
      apply unready
      rw [rrWake_self present below waits]
      exact ⟨waits.1,rfl⟩
    rw [rrWake_awake i k awake] at unreaped unready ⊢
    refine ⟨.refl k,rfl,⟨false,.passed stays awake ?_,rfl,fun _ => rfl⟩,fun _ _ _ => rfl⟩
    intro either
    rcases either with ⟨valid,zombie | ready⟩
    · exact unreaped ⟨valid,zombie⟩
    · exact unready ⟨valid,ready⟩

theorem Visited.fresh (visit : Visited idle i k p k' p') (absent : i ∉ rest)
    (fresh : ¬ (p ∈ i :: rest ∧ k.listed p = true)) : ¬ (p' ∈ rest ∧ k'.listed p' = true) := by
  rw [visit.globals.listed]
  obtain ⟨joins,_,cursor,_⟩ := visit.slot
  cases joins with
  | true =>
      obtain rfl : p' = i := cursor
      exact fun both => absent both.1
  | false =>
      obtain rfl : p' = p := cursor
      exact fun both => fresh ⟨List.mem_cons_of_mem i both.1,both.2⟩

theorem link_link (t : Thread) : (t.link a).link b = t.link b := rfl
theorem link_own (t : Thread) : t.link t.next = t := rfl

-- The whole effect of the loop. Each listed slot is visited once, a link may
-- be written anywhere, and the links lead from `p` through the joined slots.
structure Walked (idle : Nat) (slots : List Nat) (k : Kernel) (p : Nat) (k' : Kernel) (p' : Nat)
    (joined : List Nat) : Prop where
  globals : SameGlobals k k'
  responder : k'.evResponderThread = k.evResponderThread
  inside : ∀ j ∈ joined, j ∈ slots ∧ k.listed j = true
  nodup : joined.Nodup
  segment : Linked.Segment (fun j => (k'.thread j).next) p joined p'
  visited : ∀ j ∈ slots, k.listed j = true → ∃ t joins next,
    Visit k.jiffies (j ≠ idle) (k.thread j) t joins ∧ (joins = true ↔ j ∈ joined) ∧ k'.thread j = t.link next
  others : ∀ j, ¬ (j ∈ slots ∧ k.listed j = true) → ∃ next, k'.thread j = (k.thread j).link next
  away : ∀ j, ¬ (j ∈ slots ∧ k.listed j = true) → j ≠ p → k'.thread j = k.thread j

theorem Visited.outside (visit : Visited idle i k p k1 p1) (present : k.listed i = true)
    (out : ¬ (j ∈ i :: rest ∧ k.listed j = true)) : j ≠ i ∧ ¬ (j ∈ rest ∧ k1.listed j = true) := by
  rw [visit.globals.listed]
  refine ⟨?_,fun both => out ⟨List.mem_cons_of_mem i both.1,both.2⟩⟩
  intro same
  subst same
  exact out ⟨by simp,present⟩

-- The rest of the loop seen from before the visit of the first slot.
theorem Visited.others_linked (visit : Visited idle i k p k1 p1) (walk : Walked idle rest k1 p1 k' p' joined) (apart : p ≠ i)
    (present : k.listed i = true) (out : ¬ (j ∈ i :: rest ∧ k.listed j = true)) :
    ∃ next, k'.thread j = (k.thread j).link next := by
  obtain ⟨_,_,_,linked⟩ := visit.slot
  obtain ⟨other,later⟩ := visit.outside present out
  obtain ⟨next,same⟩ := walk.others j later
  by_cases here : j = p
  · subst j
    exact ⟨next,by rw [same,linked apart,link_link]⟩
  · exact ⟨next,by rw [same,visit.others j other here]⟩

theorem Visited.rest_visited (visit : Visited idle i k p k1 p1) (walk : Walked idle rest k1 p1 k' p' joined)
    (absent : i ∉ rest) (fresh : ¬ (p ∈ i :: rest ∧ k.listed p = true)) (member : j ∈ rest) (listed : k.listed j = true) :
    ∃ t joins next, Visit k.jiffies (j ≠ idle) (k.thread j) t joins ∧ (joins = true ↔ j ∈ joined) ∧
      k'.thread j = t.link next := by
  have other : j ≠ i := by
    intro same
    subst same
    exact absent member
  have away : j ≠ p := by
    intro same
    subst same
    exact fresh ⟨List.mem_cons_of_mem i member,listed⟩
  have found := walk.visited j member (visit.globals.listed ▸ listed)
  rwa [visit.globals.jiffies,visit.others j other away] at found

theorem Walked.cons (present : k.listed i = true) (apart : p ≠ i) (absent : i ∉ rest)
    (fresh : ¬ (p ∈ i :: rest ∧ k.listed p = true)) (visit : Visited idle i k p k1 p1)
    (ordered : joined.Sublist rest) (walk : Walked idle rest k1 p1 k' p' joined) :
    ∃ joined', joined'.Sublist (i :: rest) ∧ Walked idle (i :: rest) k p k' p' joined' := by
  obtain ⟨joins,own,cursor,linked⟩ := visit.slot
  have unjoined : i ∉ joined := fun member => absent (walk.inside i member).1
  have inside : ∀ j ∈ joined, j ∈ i :: rest ∧ k.listed j = true := by
    intro j member
    exact ⟨List.mem_cons_of_mem i (walk.inside j member).1,visit.globals.listed ▸ (walk.inside j member).2⟩
  have itself := walk.others i (fun both => absent both.1)
  have others := fun j => visit.others_linked (j := j) walk apart present
  cases joins with
  | true =>
      obtain rfl : p1 = i := cursor
      have link : (k'.thread p).next = some p1 := by
        rw [walk.away p (visit.outside present fresh).2 apart,linked apart]
        rfl
      refine ⟨p1 :: joined,ordered.cons_cons p1,visit.globals.trans walk.globals,walk.responder.trans visit.responder,?_,
        List.nodup_cons.mpr ⟨unjoined,walk.nodup⟩,⟨link,walk.segment⟩,?_,others,?_⟩
      · intro j member
        rcases List.mem_cons.mp member with rfl | old
        · exact ⟨by simp,present⟩
        · exact inside j old
      · intro j member listed
        by_cases here : j = p1
        · subst j
          obtain ⟨next,same⟩ := itself
          exact ⟨_,true,next,own,by simp,same⟩
        · obtain ⟨t,joins,next,found,iff,same⟩ :=
            visit.rest_visited walk absent fresh ((List.mem_cons.mp member).resolve_left here) listed
          exact ⟨t,joins,next,found,by simp [iff,here],same⟩
      · intro j out away
        obtain ⟨other,later⟩ := visit.outside present out
        rw [walk.away j later other,visit.others j other away]
  | false =>
      obtain rfl : p1 = p := cursor
      refine ⟨joined,ordered.cons i,visit.globals.trans walk.globals,walk.responder.trans visit.responder,inside,
        walk.nodup,walk.segment,?_,others,?_⟩
      · intro j member listed
        by_cases here : j = i
        · subst j
          obtain ⟨next,same⟩ := itself
          exact ⟨_,false,next,own,by simp [unjoined],same⟩
        · exact visit.rest_visited walk absent fresh ((List.mem_cons.mp member).resolve_left here) listed
      · intro j out away
        obtain ⟨other,later⟩ := visit.outside present out
        rw [walk.away j later away,visit.others j other away]

theorem Walked.skip (hidden : k.listed i = false) (walk : Walked idle rest k p k' p' joined) :
    Walked idle (i :: rest) k p k' p' joined := by
  have still : ∀ j, ¬ (j ∈ i :: rest ∧ k.listed j = true) → ¬ (j ∈ rest ∧ k.listed j = true) :=
    fun j out both => out ⟨List.mem_cons_of_mem i both.1,both.2⟩
  refine ⟨walk.globals,walk.responder,?_,walk.nodup,walk.segment,?_,?_,?_⟩
  · exact fun j member => ⟨List.mem_cons_of_mem i (walk.inside j member).1,(walk.inside j member).2⟩
  · intro j member listed
    rcases List.mem_cons.mp member with rfl | old
    · rw [hidden] at listed
      cases listed
    · exact walk.visited j old listed
  · exact fun j out => walk.others j (still j out)
  · exact fun j out => walk.away j (still j out)

theorem rrLoop_walked {k : Kernel} (nodup : slots.Nodup) (below : ∀ i ∈ slots, i < threadCountMax)
    (fresh : ¬ (p ∈ slots ∧ k.listed p = true)) (looped : rrLoop idle slots k p = .ok (k',p')) :
    ∃ joined, joined.Sublist slots ∧ Walked idle slots k p k' p' joined := by
  induction slots generalizing k p with
  | nil =>
      cases looped
      exact ⟨[],.slnil,.refl _,rfl,by simp,List.nodup_nil,rfl,by simp,fun j _ => ⟨_,(link_own _).symm⟩,fun _ _ _ => rfl⟩
  | cons i rest ih =>
      obtain ⟨absent,distinct⟩ := List.nodup_cons.mp nodup
      have later : ∀ j ∈ rest, j < threadCountMax := fun j member => below j (List.mem_cons_of_mem i member)
      unfold rrLoop at looped
      split at looped
      · rename_i present
        simp only [bind_ok,Prod.exists] at looped
        obtain ⟨k1,p1,first,looped⟩ := looped
        have apart : p ≠ i := by
          intro same
          subst same
          exact fresh ⟨by simp,present⟩
        have visit := rrVisit_visited present (below i (by simp)) apart first
        obtain ⟨joined,ordered,walk⟩ := ih distinct later (visit.fresh absent fresh) looped
        exact walk.cons present apart absent fresh visit ordered
      · rename_i hidden
        have fresh1 : ¬ (p ∈ rest ∧ k.listed p = true) := fun both => fresh ⟨List.mem_cons_of_mem i both.1,both.2⟩
        obtain ⟨joined,ordered,walk⟩ := ih distinct later fresh1 looped
        exact ⟨joined,ordered.cons i,walk.skip (by simpa using hidden)⟩

def Thread.steadied (t : Thread) : Thread :=
  {t with
    basePriority := prioritySystemThreshold
    priority := prioritySystemThreshold
    quantum := quantumNormalThreshold}

theorem steadied_tid (t : Thread) : t.steadied.tid = t.tid := rfl

def opened (tmpTid : Int) (idle : Nat) (k : Kernel) : Kernel :=
  doThreadReady tmpTid ({k with currentq := some idle}.modify idle Thread.steadied steadied_tid)

def openedThread (tmpTid : Int) (idle : Nat) (k : Kernel) (j : Nat) : Thread :=
  let t := if j = idle then (k.thread j).steadied else k.thread j
  if k.lookup tmpTid = some j ∧ t.Valid then {t with state := .ready,readyJiffy := k.jiffies} else t

theorem opened_thread (tmpTid : Int) (idle : Nat) (k : Kernel) (j : Nat) :
    (opened tmpTid idle k).thread j = openedThread tmpTid idle k j := by
  unfold opened openedThread
  rw [doThreadReady_thread,Kernel.modify_thread]
  by_cases same : j = idle
  · subst j; rfl
  · simp only [same,if_false]
    rfl

-- What one call of __scheduler_rr did: `joined` are the threads of the round
-- after Idle, linked in this order.
structure Round (tmpTid : Int) (idle : Nat) (joined : List Nat) (k k' : Kernel) : Prop where
  idleThread : k.idleThread = some idle
  initThread : k.initThread = some idle
  idleValid : (k.thread idle).Valid
  idleTid : (k.thread idle).tid = 0
  globals : SameGlobals {k with currentq := some idle,rrRoundCounter := k.rrRoundCounter+1} k'
  responder : k'.evResponderThread = k.evResponderThread
  inside : ∀ j ∈ joined, 0 < j ∧ j < threadCountMax ∧ k.listed j = true
  nodup : joined.Nodup
  segment : ∃ last, Linked.Segment (fun j => (k'.thread j).next) idle joined last ∧ (k'.thread last).next = none
  visited : ∀ j, 0 < j → j < threadCountMax → k.listed j = true → ∃ t joins next,
    Visit k.jiffies (j ≠ idle) (openedThread tmpTid idle k j) t joins ∧ (joins = true ↔ j ∈ joined) ∧
      k'.thread j = t.link next
  others : ∀ j, ¬ (0 < j ∧ j < threadCountMax ∧ k.listed j = true) →
    ∃ next, k'.thread j = (openedThread tmpTid idle k j).link next

theorem opened_globals (tmpTid : Int) (idle : Nat) (k : Kernel) :
    SameGlobals {k with currentq := some idle} (opened tmpTid idle k) :=
  (modify_globals _ _ _ _).trans (doThreadReady_globals _ _)

theorem mem_slots : j ∈ List.range' 1 (threadCountMax-1) ↔ 0 < j ∧ j < threadCountMax := by
  rw [List.mem_range'_1]
  unfold threadCountMax
  omega

theorem closed_link (k : Kernel) (p : Nat) (j : Nat) :
    ∃ next, (k.modify p (fun t => t.link none) (link_tid none)).thread j = (k.thread j).link next := by
  rw [Kernel.modify_thread]
  split
  · rename_i same
    exact ⟨none,by rw [same]⟩
  · exact ⟨_,(link_own _).symm⟩

theorem schedulerRr_ordered (built : schedulerRr tmpTid k = .ok (tid,k')) :
    tid = 0 ∧ ∃ idle joined, joined.Sublist (List.range' 1 (threadCountMax-1)) ∧ Round tmpTid idle joined k k' := by
  simp only [schedulerRr,bind_ok,require_ok,pointer_ok,Prod.exists,Except.ok.injEq,Prod.mk.injEq] at built
  obtain ⟨_,_,_,_,idle,idleIs,_,valid,_,init,_,first,_,zero,_,_,k1,p1q,looped,rfl,rfl⟩ := built
  have zeroTid : (k.thread idle).tid = 0 := by simpa using zero
  have fresh : ¬ (idle ∈ List.range' 1 (threadCountMax-1) ∧ (opened tmpTid idle k).listed idle = true) := by
    rw [(opened_globals tmpTid idle k).listed]
    intro both
    obtain ⟨member,listed⟩ := both
    have own := k.tids idle listed
    have inside := mem_slots.mp member
    omega
  obtain ⟨joined,ordered,walk⟩ := rrLoop_walked (k := opened tmpTid idle k) List.nodup_range'
    (fun i member => (mem_slots.mp member).2) fresh looped
  have table := (opened_globals tmpTid idle k).listed
  have before := (opened_globals tmpTid idle k).trans walk.globals
  have unjoined : idle ∉ joined := fun member => fresh (walk.inside idle member)
  refine ⟨first,idle,joined,ordered,idleIs,init,valid,zeroTid,?_,?_,?_,walk.nodup,⟨p1q,?_,?_⟩,?_,?_⟩
  · refine {before with rrRoundCounter := ?_}
    change k1.rrRoundCounter+1 = k.rrRoundCounter+1
    rw [before.rrRoundCounter]
  · exact walk.responder.trans (doThreadReady_responder _ _)
  · intro j member
    obtain ⟨slot,listed⟩ := walk.inside j member
    rw [table] at listed
    exact ⟨(mem_slots.mp slot).1,(mem_slots.mp slot).2,listed⟩
  · apply walk.segment.congr (List.nodup_cons.mpr ⟨unjoined,walk.nodup⟩)
    intro x _ other
    change ((k1.modify p1q (fun t => t.link none) (link_tid none)).thread x).next = (k1.thread x).next
    rw [Kernel.modify_other _ _ _ _ other]
  · change ((k1.modify p1q (fun t => t.link none) (link_tid none)).thread p1q).next = none
    rw [Kernel.modify_same]
    rfl
  · intro j positive below listed
    obtain ⟨t,joins,next,visit,iff,same⟩ := walk.visited j (mem_slots.mpr ⟨positive,below⟩) (table ▸ listed)
    rw [(opened_globals tmpTid idle k).jiffies,opened_thread] at visit
    obtain ⟨last,closed⟩ := closed_link k1 p1q j
    exact ⟨t,joins,last,visit,iff,closed.trans (by rw [same,link_link])⟩
  · intro j outside
    obtain ⟨next,same⟩ := walk.others j (by
      rw [table,mem_slots]
      exact fun both => outside ⟨both.1.1,both.1.2,both.2⟩)
    obtain ⟨last,closed⟩ := closed_link k1 p1q j
    exact ⟨last,closed.trans (by rw [same,link_link,opened_thread])⟩

theorem schedulerRr_parts (built : schedulerRr tmpTid k = .ok (tid,k')) :
    tid = 0 ∧ ∃ idle joined, Round tmpTid idle joined k k' := by
  obtain ⟨zero,idle,joined,_,round⟩ := schedulerRr_ordered built
  exact ⟨zero,idle,joined,round⟩

-- What initialisation leaves behind and no later operation takes away: Idle
-- is the init thread at slot 0, valid, and the scheduler is set up.
structure Established (k : Kernel) : Prop where
  idleThread : k.idleThread = some 0
  initThread : k.initThread = some 0
  idleListed : k.listed 0 = true
  idleValid : (k.thread 0).Valid
  initialized : k.schedulerInitialized = true
  policy : k.schedulerPolicy = schedPolicyRr

structure Booted (k : Kernel) : Prop extends Established k where
  systemState : k.systemState = .running
  counter : k.threadsCounter ≠ 0
  currentq : k.currentq ≠ none

theorem rrVisit_returns (idle p : Nat) (ordinary : k.initThread ≠ some i) : ∃ k' p', rrVisit idle i k p = .ok (k',p') := by
  unfold rrVisit
  simp only []
  split
  · exact ⟨_,_,rfl⟩
  split
  · exact ⟨_,_,rfl⟩
  split
  · have still : (rrWake i k).initThread ≠ some i := by rwa [(rrWake_globals i k).initThread]
    simp [require,still,bind,Except.bind]
  split <;> exact ⟨_,_,rfl⟩

theorem rrLoop_returns {k : Kernel} (idle : Nat) (nodup : slots.Nodup) (below : ∀ i ∈ slots, i < threadCountMax)
    (fresh : ¬ (p ∈ slots ∧ k.listed p = true)) (ordinary : ∀ i ∈ slots, k.initThread ≠ some i) :
    ∃ k' p', rrLoop idle slots k p = .ok (k',p') := by
  induction slots generalizing k p with
  | nil => exact ⟨k,p,rfl⟩
  | cons i rest ih =>
      obtain ⟨absent,distinct⟩ := List.nodup_cons.mp nodup
      have later : ∀ j ∈ rest, j < threadCountMax := fun j member => below j (List.mem_cons_of_mem i member)
      have plain : ∀ j ∈ rest, k.initThread ≠ some j := fun j member => ordinary j (List.mem_cons_of_mem i member)
      unfold rrLoop
      split
      · rename_i present
        have apart : p ≠ i := by
          intro same
          subst same
          exact fresh ⟨by simp,present⟩
        obtain ⟨k1,p1,first⟩ := rrVisit_returns idle p (ordinary i (by simp))
        have visit := rrVisit_visited present (below i (by simp)) apart first
        obtain ⟨k',p',looped⟩ := ih distinct later (visit.fresh absent fresh)
          (fun j member => visit.globals.initThread ▸ plain j member)
        exact ⟨k',p',by simp [first,looped,bind,Except.bind]⟩
      · exact ih distinct later (fun both => fresh ⟨List.mem_cons_of_mem i both.1,both.2⟩) plain

theorem schedulerRr_returns (tmpTid : Int) (booted : Established k) : ∃ k', schedulerRr tmpTid k = .ok (0,k') := by
  have zero : (k.thread 0).tid = 0 := k.tids 0 booted.idleListed
  have globals := opened_globals tmpTid 0 k
  obtain ⟨k1,p1,looped⟩ := rrLoop_returns (k := opened tmpTid 0 k) (p := 0) 0
    List.nodup_range' (fun i member => (mem_slots.mp member).2)
    (fun both => Nat.lt_irrefl 0 (mem_slots.mp both.1).1) (by
      intro i member same
      rw [globals.initThread] at same
      have none : some 0 = some i := booted.initThread.symm.trans same
      have positive := (mem_slots.mp member).1
      cases none
      omega)
  refine ⟨{k1.modify p1 (fun t => t.link none) (link_tid none) with rrRoundCounter := k1.rrRoundCounter+1},?_⟩
  simp only [schedulerRr,bind_ok,require_ok,pointer_ok,Prod.exists,Except.ok.injEq,Prod.mk.injEq]
  exact ⟨(),booted.initialized,(),booted.policy,0,booted.idleThread,(),booted.idleValid,(),booted.initThread,
    (),zero,(),zero,(),zero,k1,p1,looped,zero,rfl⟩

theorem openedThread_valid : (openedThread tmpTid idle k j).Valid ↔ (k.thread j).Valid := by
  unfold openedThread
  by_cases same : j = idle <;> simp only [same,if_true,if_false] <;> split <;> exact Iff.rfl

theorem openedThread_state : (openedThread tmpTid idle k j).state =
    if k.lookup tmpTid = some j ∧ (k.thread j).Valid then .ready else (k.thread j).state := by
  have valid : (k.thread idle).steadied.Valid ↔ (k.thread idle).Valid := Iff.rfl
  unfold openedThread
  by_cases same : j = idle
  · simp only [same,if_true,valid]
    split <;> rfl
  · simp only [same,if_false]
    split <;> rfl

theorem Round.idle_kept (round : Round tmpTid idle joined k k') : (k'.thread idle).Valid := by
  obtain ⟨next,same⟩ := round.others idle (by
    intro visited
    obtain ⟨positive,_,listed⟩ := visited
    have own := k.tids idle listed
    have zero := round.idleTid
    omega)
  rw [same]
  exact openedThread_valid.mpr round.idleValid

theorem Round.thread (round : Round tmpTid idle joined k k') (j : Nat) : ∃ t next, k'.thread j = t.link next ∧
    (t = openedThread tmpTid idle k j ∨ ∃ joins, Visit k.jiffies (j ≠ idle) (openedThread tmpTid idle k j) t joins) := by
  by_cases slot : 0 < j ∧ j < threadCountMax ∧ k.listed j = true
  · obtain ⟨t,joins,next,visit,_,same⟩ := round.visited j slot.1 slot.2.1 slot.2.2
    exact ⟨t,next,same,.inr ⟨joins,visit⟩⟩
  · obtain ⟨next,same⟩ := round.others j slot
    exact ⟨_,next,same,.inl rfl⟩

-- What no round writes; a round may make a thread invalid, never valid.
structure Lasting (t t' : Thread) : Prop where
  exitInProgress : t'.exitInProgress = t.exitInProgress
  hasPendingEvent : t'.hasPendingEvent = t.hasPendingEvent
  wakeJiffy : t'.wakeJiffy = t.wakeJiffy
  valid : t'.Valid → t.Valid

theorem Visit.lasting (visit : Visit jiffies plain t t' joins) : Lasting t t' := by
  cases visit with
  | reaped _ valid => exact ⟨rfl,rfl,rfl,fun _ => valid⟩
  | exits | sleeps | wakes | runs | passed => exact ⟨rfl,rfl,rfl,id⟩

theorem openedThread_lasting (tmpTid : Int) (idle : Nat) (k : Kernel) (j : Nat) :
    Lasting (k.thread j) (openedThread tmpTid idle k j) := by
  refine ⟨?_,?_,?_,openedThread_valid.mp⟩
  all_goals
    unfold openedThread
    by_cases same : j = idle <;> simp only [same,if_true,if_false] <;> split <;> rfl

theorem Round.lasting (round : Round tmpTid idle joined k k') (j : Nat) : Lasting (k.thread j) (k'.thread j) := by
  obtain ⟨t,next,same,origin⟩ := round.thread j
  have before := openedThread_lasting tmpTid idle k j
  rw [same]
  rcases origin with rfl | ⟨joins,visit⟩
  · exact ⟨before.exitInProgress,before.hasPendingEvent,before.wakeJiffy,before.valid⟩
  · have after := visit.lasting
    exact ⟨after.exitInProgress.trans before.exitInProgress,after.hasPendingEvent.trans before.hasPendingEvent,
      after.wakeJiffy.trans before.wakeJiffy,fun valid => before.valid (after.valid valid)⟩

-- `scheduler` passes through SYSTEM_SCHEDULING and back.
theorem scheduler_parts (called : scheduler tmpTid k = .ok (tid,k')) :
    tid = 0 ∧ ∃ idle joined, Round tmpTid idle joined k k' := by
  simp only [scheduler,bind_ok,require_ok,pointer_ok,Prod.exists,Except.ok.injEq,Prod.mk.injEq] at called
  obtain ⟨_,state,_,_,_,_,_,_,_,_,first,k1,built,idle,_,_,_,_,_,rfl,rfl⟩ := called
  obtain ⟨zero,idle,joined,round⟩ := schedulerRr_parts built
  exact ⟨zero,idle,joined,{round with globals := {round.globals with systemState := state.symm}}⟩

theorem scheduler_returns (tmpTid : Int) (booted : Booted k) : ∃ k', scheduler tmpTid k = .ok (0,k') := by
  obtain ⟨⟨idle,init,listed,valid,ready,policy⟩,running,counter,_⟩ := booted
  obtain ⟨k1,built⟩ := schedulerRr_returns (k := {k with systemState := .scheduling}) tmpTid
    ⟨idle,init,listed,valid,ready,policy⟩
  obtain ⟨_,z,joined,round⟩ := schedulerRr_parts built
  obtain rfl : z = 0 := Option.some.inj (round.idleThread.symm.trans idle)
  obtain ⟨same,markers⟩ := round.idle_kept
  have still : k1.idleThread = some 0 := round.globals.idleThread.trans idle
  have zero : (k1.thread 0).tid = 0 := k1.tids 0 (round.globals.listed ▸ listed)
  refine ⟨{k1 with systemState := .running},?_⟩
  simp only [scheduler,bind_ok,require_ok,pointer_ok,Prod.exists,Except.ok.injEq,Prod.mk.injEq]
  exact ⟨(),running,(),counter,(),ready,(),by rw [policy]; decide,(),policy,0,k1,built,0,still,(),markers,(),zero.symm,rfl,rfl⟩

theorem psScheduler_parts (called : psScheduler tmpTid k = .ok (tid,k')) :
    (k.gSchedulerStatus = locked ∧ tid = -1 ∧ k' = k) ∨
    (k.gSchedulerStatus ≠ locked ∧ k.threadsCounter = 1 ∧ ∃ idle, k.idleThread = some idle ∧
      tid = (k.thread idle).tid ∧ k' = {k with currentq := some idle,currentThread := (k.thread idle).tid}) ∨
    (k.gSchedulerStatus ≠ locked ∧ k.threadsCounter ≠ 1 ∧ tid = 0 ∧ ∃ idle joined, Round tmpTid idle joined k k') := by
  unfold psScheduler at called
  split at called
  · rename_i shut
    cases called
    exact .inl ⟨shut,rfl,rfl⟩
  · rename_i unshut
    simp only [bind_ok,require_ok] at called
    obtain ⟨_,_,called⟩ := called
    split at called
    · rename_i single
      simp only [bind_ok,pointer_ok,Except.ok.injEq,Prod.mk.injEq] at called
      obtain ⟨idle,found,rfl,rfl⟩ := called
      exact .inr (.inl ⟨unshut,single,idle,found,rfl,rfl⟩)
    · rename_i several
      exact .inr (.inr ⟨unshut,several,scheduler_parts called⟩)

end GramadoKernel
