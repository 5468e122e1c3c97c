import GramadoKernel.Tty

namespace GramadoKernel

-- A tty and the one behind its `link`.
structure TtyPair where
  master : Tty
  slave : Tty

structure TtyPair.Linked (s : TtyPair) : Prop where
  master : s.master.Sound
  slave : s.slave.Sound
  link : s.master.link = some ⟨s.slave.magic,s.slave.rawQueue.buf⟩

inductive PairCall where
  | write (buffer : Nat → UInt8) (nr : Int)
  | readMaster (buffer : Nat → UInt8) (nr : Int)
  | readSlave (buffer : Nat → UInt8) (nr : Int)

def PairCall.on (s : TtyPair) : PairCall → Except Halt (TtyResult × TtyPair)
  | .write buffer nr => do
      let r ← ttyWrite s.master (some buffer) nr
      .ok (r,{s with master := r.tty})
  | .readMaster buffer nr => do
      let r ← ttyRead s.master (some buffer) nr
      .ok (r,{s with master := r.tty})
  | .readSlave buffer nr => do
      let r ← ttyRead s.slave (some buffer) nr
      .ok (r,{s with slave := r.tty})

structure PairEvent where
  before : TtyPair
  call : PairCall
  result : TtyResult
  after : TtyPair

def PairTurn (s : TtyPair) (e : PairEvent) (t : TtyPair) : Prop := e.before = s ∧ e.call.on s = .ok (e.result,t) ∧ e.after = t

def PairEvent.written (e : PairEvent) : List UInt8 :=
  match e.call with
  | .write buffer _ => bytesOf buffer 0 e.result.value.toNat
  | _ => []

def Tty.queued (tty : Tty) : List UInt8 := bytesOf tty.rawQueue.buf tty.rawQueue.tail tty.rawQueue.unread

-- What a write on the master should do for both of them.
structure PairEvent.Feeds (e : PairEvent) : Prop where
  intact : e.after.master.queued = e.before.master.queued ++ e.written
  copied : ∀ i < ttyBufSize, e.after.slave.rawQueue.buf i = e.after.master.rawQueue.buf i
  obtained : ∃ nr, ∀ buffer, ∃ r, ttyRead e.after.slave (some buffer) nr = .ok r ∧ e.written <:+: bytesOf r.buffer 0 r.value.toNat

-- The slave holds everything already: at the places of the master's queue its bytes and
-- the new ones, and the new ones among what its own readers have not taken.
def SlaveHolds (s : TtyPair) (buffer : Nat → UInt8) (nr : Int) : Prop :=
  if nr ≤ 0 then ∀ i < ttyBufSize, s.slave.rawQueue.buf i = s.master.rawQueue.buf i
  else
    bytesOf s.slave.rawQueue.buf s.master.rawQueue.tail (s.master.rawQueue.unread+s.master.stores nr) =
        s.master.queued ++ bytesOf buffer 0 (s.master.stores nr) ∧
      bytesOf buffer 0 (s.master.stores nr) <:+: s.slave.queued

def PairEvent.Kept (e : PairEvent) : Prop := ∀ buffer nr, e.call = .write buffer nr → e.Feeds
def PairEvent.Met (e : PairEvent) : Prop := ∀ buffer nr, e.call = .write buffer nr → SlaveHolds e.before buffer nr

-- The bytes go from the slave to the master.
theorem ttyWrite_linked {s : Tty} (sound : s.Sound) {slave : LinkedTty} (link : s.link = some slave) (magic : slave.magic = 1234)
    {buffer : Nat → UInt8} {nr : Int} (positive : 0 < nr) {r : TtyResult} (done : ttyWrite s (some buffer) nr = .ok r) {i : Nat}
    (inside : i < ttyBufSize) : r.tty.rawQueue.buf i = slave.buf i := by
  have valid : ¬ ¬ (s.used = true ∧ s.magic = 1234) := not_not.mpr ⟨sound.used,sound.magic⟩
  simp only [ttyWrite,if_neg valid,bind_ok,pointer_ok,Option.some.injEq,if_neg (show ¬ nr ≤ 0 by omega)] at done
  obtain ⟨_,rfl,done⟩ := done
  rw [putBytes_first _ _ _ sound.inside] at done
  obtain rfl := (Except.ok.inj done).symm
  have linked : (s.withQueue (s.rawQueue.extended buffer (min (atMost nr) (ttyBufSize-s.rawQueue.head)))).link = some slave := link
  simp only [Tty.copySlave,linked,magic,if_true]
  exact if_pos inside

theorem ttyWrite_refused {s : Tty} (sound : s.Sound) {buffer : Nat → UInt8} {nr : Int} (low : nr ≤ 0) {r : TtyResult}
    (done : ttyWrite s (some buffer) nr = .ok r) : r = .failed s buffer := by
  have valid : ¬ ¬ (s.used = true ∧ s.magic = 1234) := not_not.mpr ⟨sound.used,sound.magic⟩
  simp only [ttyWrite,if_neg valid,bind_ok,pointer_ok,Option.some.injEq,if_pos low] at done
  obtain ⟨_,rfl,done⟩ := done
  exact (Except.ok.inj done).symm

theorem pairTurn_linked {s t : TtyPair} {e : PairEvent} (linked : s.Linked) (turn : PairTurn s e t) : t.Linked := by
  obtain ⟨before,call,result,after⟩ := e
  obtain ⟨_,done,_⟩ := turn
  cases call with
  | write buffer nr =>
      simp only [PairCall.on,bind_ok,Except.ok.injEq,Prod.mk.injEq] at done
      obtain ⟨r,written,_,rfl⟩ := done
      have wrote := ttyWrite_wrote linked.master written
      exact ⟨wrote.sound,linked.slave,wrote.link.trans linked.link⟩
  | readMaster buffer nr =>
      simp only [PairCall.on,bind_ok,Except.ok.injEq,Prod.mk.injEq] at done
      obtain ⟨r,taken,_,rfl⟩ := done
      have took := ttyRead_took linked.master taken
      exact ⟨took.sound,linked.slave,took.link.trans linked.link⟩
  | readSlave buffer nr =>
      simp only [PairCall.on,bind_ok,Except.ok.injEq,Prod.mk.injEq] at done
      obtain ⟨r,taken,_,rfl⟩ := done
      have took := ttyRead_took linked.slave taken
      refine ⟨linked.master,took.sound,?_⟩
      rw [linked.link,took.bytes,took.sound.magic,linked.slave.magic]

-- One read can give some bytes exactly when they are in the queue.
theorem obtained_iff {s : Tty} (sound : s.Sound) (bytes : List UInt8) :
    (∃ nr, ∀ buffer, ∃ r, ttyRead s (some buffer) nr = .ok r ∧ bytes <:+: bytesOf r.buffer 0 r.value.toNat) ↔ bytes <:+: s.queued := by
  have order := sound.order
  have inside := sound.inside
  constructor
  · rintro ⟨nr,all⟩
    -- a caller whose buffer holds the unread bytes already
    obtain ⟨r,done,among⟩ := all fun i => s.rawQueue.buf (s.rawQueue.tail+i)
    have took := ttyRead_took sound done
    have given : bytesOf r.buffer 0 (s.takes nr) = bytesOf s.rawQueue.buf s.rawQueue.tail (s.takes nr) := by
      rw [took_delivers took]
      exact .inr fun i _ => rfl
    have start : bytesOf s.rawQueue.buf s.rawQueue.tail (s.takes nr) <+: s.queued := by
      have fewer : s.takes nr ≤ s.rawQueue.unread := Nat.min_le_right _ _
      obtain ⟨rest,all⟩ := Nat.exists_eq_add_of_le fewer
      rw [Tty.queued,all,bytesOf_append]
      exact List.prefix_append _ _
    rw [took.value,given] at among
    exact among.trans start.isInfix
  · intro among
    refine ⟨s.rawQueue.unread,fun buffer => ?_⟩
    obtain ⟨r,done⟩ := ttyRead_returns sound buffer s.rawQueue.unread
    have took := ttyRead_took sound done
    have most : atMost s.rawQueue.unread = s.rawQueue.unread := by
      have small : ¬ (ttyBufSize : Int) < s.rawQueue.unread := by
        unfold TtyQueue.unread
        omega
      rw [atMost,if_neg small,Int.toNat_natCast]
    have count : s.takes s.rawQueue.unread = s.rawQueue.unread := by rw [Tty.takes,most,Nat.min_self]
    refine ⟨r,done,?_⟩
    rw [took.value,(took_delivers took).mpr (.inl (Nat.le_of_eq most)),count]
    exact among

-- What a write does to the pair, against what the slave held before it.
theorem write_feeds_iff {s : TtyPair} (linked : s.Linked) {buffer : Nat → UInt8} {nr : Int} {r : TtyResult}
    (done : ttyWrite s.master (some buffer) nr = .ok r) :
    PairEvent.Feeds ⟨s,.write buffer nr,r,{s with master := r.tty}⟩ ↔ SlaveHolds s buffer nr := by
  have wrote := ttyWrite_wrote linked.master done
  unfold SlaveHolds
  by_cases low : nr ≤ 0
  · rw [if_pos low]
    obtain rfl := ttyWrite_refused linked.master low done
    constructor
    · intro feeds
      exact feeds.copied
    · intro same
      refine ⟨(List.append_nil _).symm,same,(obtained_iff linked.slave _).mpr ?_⟩
      exact List.nil_infix
  · rw [if_neg low]
    have copied : ∀ i < ttyBufSize, r.tty.rawQueue.buf i = s.slave.rawQueue.buf i := fun i inside =>
      ttyWrite_linked linked.master linked.link linked.slave.magic (by omega) done inside
    have order := linked.master.order
    have within := wrote.sound.inside
    have queued : Tty.queued r.tty = bytesOf s.slave.rawQueue.buf s.master.rawQueue.tail (s.master.rawQueue.unread+s.master.stores nr) := by
      have length : r.tty.rawQueue.unread = s.master.rawQueue.unread+s.master.stores nr := by
        have head := wrote.head
        have tail := wrote.tail
        unfold TtyQueue.unread
        omega
      rw [Tty.queued,length,wrote.tail,bytesOf_congr]
      intro i small
      apply copied
      have head := wrote.head
      unfold TtyQueue.unread at small
      omega
    have written : PairEvent.written ⟨s,.write buffer nr,r,{s with master := r.tty}⟩ = bytesOf buffer 0 (s.master.stores nr) := by
      rw [PairEvent.written,wrote.value]
    rw [← queued,← written]
    constructor
    · intro feeds
      exact ⟨feeds.intact,(obtained_iff linked.slave _).mp feeds.obtained⟩
    · rintro ⟨intact,among⟩
      exact ⟨intact,fun i inside => (copied i inside).symm,(obtained_iff linked.slave _).mpr among⟩

theorem pairTurn_iff {s t : TtyPair} {e : PairEvent} (linked : s.Linked) (turn : PairTurn s e t) : e.Kept ↔ e.Met := by
  obtain ⟨before,call,result,after⟩ := e
  obtain ⟨here,done,there⟩ := turn
  replace here : before = s := here
  replace there : after = t := there
  subst here there
  cases call with
  | write buffer nr =>
      simp only [PairCall.on,bind_ok,Except.ok.injEq,Prod.mk.injEq] at done
      obtain ⟨r,written,rfl,rfl⟩ := done
      have iff := write_feeds_iff linked written
      constructor
      · rintro kept _ _ ⟨⟩
        exact iff.mp (kept buffer nr rfl)
      · rintro met _ _ ⟨⟩
        exact iff.mpr (met buffer nr rfl)
  | readMaster buffer nr => exact ⟨fun _ _ _ other => (by cases other),fun _ _ _ other => (by cases other)⟩
  | readSlave buffer nr => exact ⟨fun _ _ _ other => (by cases other),fun _ _ _ other => (by cases other)⟩

-- Each write of a run feeds the slave exactly when the slave has no need of it.
theorem link_feeds_iff {s t : TtyPair} {events : List PairEvent} (linked : s.Linked) (run : Runs.Path PairTurn s events t) :
    (∀ e ∈ events, e.Kept) ↔ ∀ e ∈ events, e.Met := by
  have iff : ∀ e ∈ events, e.Kept ↔ e.Met :=
    (run.under TtyPair.Linked (fun _ _ _ linked turn => pairTurn_linked linked turn) linked).each _ fun _ _ _ both => pairTurn_iff both.1 both.2
  exact forall₂_congr iff

-- A created tty linked to a slave with some queue.
def TtyPair.created (queue : TtyQueue) : TtyPair := ⟨{ttyCreated with link := some ⟨1234,queue.buf⟩},{ttyCreated with rawQueue := queue}⟩

theorem created_linked {queue : TtyQueue} (order : queue.tail ≤ queue.head) (inside : queue.head ≤ ttyBufSize) : (TtyPair.created queue).Linked where
  master := ⟨rfl,rfl,Nat.le_refl 0,Nat.zero_le _⟩
  slave := ⟨rfl,rfl,order,inside⟩
  link := rfl

theorem write_turn {s : TtyPair} {buffer : Nat → UInt8} {nr : Int} {r : TtyResult} (done : ttyWrite s.master (some buffer) nr = .ok r) :
    PairTurn s ⟨s,.write buffer nr,r,{s with master := r.tty}⟩ {s with master := r.tty} := by
  refine ⟨rfl,?_,rfl⟩
  simp only [PairCall.on,bind_ok]
  exact ⟨r,done,rfl⟩

-- The slave has the letter A already.
theorem link_feeds_letter : ∃ e t, Runs.Path PairTurn (.created (.letter 0)) [e] t ∧ e.call = .write (fun _ => 65) 1 ∧ e.Feeds := by
  have linked : (TtyPair.created (.letter 0)).Linked := created_linked (by decide) (by decide)
  obtain ⟨r,done,_⟩ := ttyWrite_returns linked.master (fun _ => 65) (Int.le_refl 1)
  have run : Runs.Path PairTurn _ [_] _ := .step .nil (write_turn done)
  have holds : SlaveHolds (.created (.letter 0)) (fun _ => 65) 1 := ⟨by decide,⟨[],[],by decide⟩⟩
  refine ⟨_,_,run,rfl,(link_feeds_iff linked run).mpr ?_ _ List.mem_cons_self _ _ rfl⟩
  rw [List.forall_mem_singleton]
  rintro _ _ ⟨⟩
  exact holds

-- A is written to a fresh pair, and the master then holds a NUL in its place.
theorem link_overwrites : ∃ e t, (TtyPair.created ⟨fun _ => 0,0,0⟩).Linked ∧ Runs.Path PairTurn (.created ⟨fun _ => 0,0,0⟩) [e] t ∧
    e.call = .write (fun _ => 65) 1 ∧ e.result.value = 1 ∧ t.master.rawQueue.buf 0 = 0 ∧ ¬ e.Feeds := by
  have linked : (TtyPair.created ⟨fun _ => 0,0,0⟩).Linked := created_linked (by decide) (by decide)
  obtain ⟨r,done,value⟩ := ttyWrite_returns linked.master (fun _ => 65) (Int.le_refl 1)
  have first : r.tty.rawQueue.buf 0 = 0 := ttyWrite_linked linked.master linked.link rfl (by decide) done (by decide)
  refine ⟨_,_,linked,.step .nil (write_turn done),rfl,value,first,?_⟩
  rw [write_feeds_iff linked done]
  intro holds
  exact absurd holds.1 (by decide)

end GramadoKernel
