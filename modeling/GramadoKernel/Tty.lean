import GramadoKernel.Library.Runs
import GramadoKernel.State

namespace GramadoKernel

-- tty.h
def ttyBufSize : Nat := 1024

-- struct tty_queue. The two offsets are never compared with `cnt`.
structure TtyQueue where
  buf : Nat → UInt8
  head : Nat
  tail : Nat

-- What tty_copy_raw_buffer reads of the tty behind `link`.
structure LinkedTty where
  magic : Nat
  buf : Nat → UInt8

-- struct tty_d
structure Tty where
  used : Bool
  magic : Nat
  rawQueue : TtyQueue
  link : Option LinkedTty

def ttyCreated : Tty := ⟨true,1234,⟨fun _ => 0,0,0⟩,none⟩

-- What a call leaves: the value, the tty, the buffer of the caller and the places of
-- raw_queue.buf that were read or written.
structure TtyResult where
  value : Int
  tty : Tty
  buffer : Nat → UInt8
  touched : List Nat

def TtyResult.failed (tty : Tty) (buffer : Nat → UInt8) : TtyResult := ⟨-1,tty,buffer,[]⟩

def Tty.withQueue (tty : Tty) (q : TtyQueue) : Tty := {tty with rawQueue := q}

-- The loop of __tty_read. The local buffer is kept with the places that its bytes come
-- from. The loop is left by `return i` where the last component is false, and by `break`
-- where it is true.
def takeBytes : Nat → TtyQueue → List (Nat × UInt8) → TtyQueue × List (Nat × UInt8) × Bool
  | 0,q,data => (q,data,true)
  | rbytes+1,q,data =>
      if q.head = q.tail then (q,data,false)
      else if ttyBufSize < q.tail then (q,data,false)
      else takeBytes rbytes {q with tail := q.tail+1} (data ++ [(q.tail,q.buf q.tail)])

-- memcpy to the start of a buffer.
def copiedOver (buffer : Nat → UInt8) (data : List UInt8) : Nat → UInt8 := fun i => data.getD i (buffer i)

def atMost (nr : Int) : Nat := if (ttyBufSize : Int) < nr then ttyBufSize else nr.toNat

-- __tty_read
def ttyRead (tty : Tty) (buffer : Option (Nat → UInt8)) (nr : Int) : Except Halt TtyResult :=
  if ¬ (tty.used = true ∧ tty.magic = 1234) then .ok (.failed tty (buffer.getD fun _ => 0))
  else do
    let b ← pointer buffer (.panic "__tty_read: buffer\n")
    if nr ≤ 0 then .ok (.failed tty b)
    else
      let (q,data,copies) := takeBytes (atMost nr) tty.rawQueue []
      .ok ⟨data.length,tty.withQueue q,if copies = true then copiedOver b (data.map Prod.snd) else b,data.map Prod.fst⟩

-- The loop of __tty_write over the local buffer, with the places that are written.
def putBytes (data : Nat → UInt8) : Nat → List Nat → TtyQueue → List Nat × TtyQueue
  | 0,places,q => (places,q)
  | wbytes+1,places,q =>
      if ttyBufSize ≤ q.head then (places,q)
      else putBytes data wbytes (places ++ [q.head]) {q with buf := Function.update q.buf q.head (data places.length),head := q.head+1}

-- tty_copy_raw_buffer(tty,tty_slave): the first parameter is where the bytes go.
def copyRawBuffer (queue : TtyQueue) (source : LinkedTty) : TtyQueue :=
  {queue with buf := fun i => if i < ttyBufSize then source.buf i else queue.buf i}

def Tty.copySlave (tty : Tty) : Tty × List Nat :=
  match tty.link with
  | none => (tty,[])
  | some slave => if slave.magic = 1234 then (tty.withQueue (copyRawBuffer tty.rawQueue slave),List.range ttyBufSize) else (tty,[])

-- __tty_write
def ttyWrite (tty : Tty) (buffer : Option (Nat → UInt8)) (nr : Int) : Except Halt TtyResult :=
  if ¬ (tty.used = true ∧ tty.magic = 1234) then .ok (.failed tty (buffer.getD fun _ => 0))
  else do
    let b ← pointer buffer (.panic "__tty_write: Invalid buffer\n")
    if nr ≤ 0 then .ok (.failed tty b)
    else
      let (places,q) := putBytes b (atMost nr) [] tty.rawQueue
      let (tty,copied) := (tty.withQueue q).copySlave
      .ok ⟨places.length,tty,b,places ++ copied⟩

inductive TtyCall where
  | write (buffer : Nat → UInt8) (nr : Int)
  | read (buffer : Nat → UInt8) (nr : Int)

def TtyCall.on (tty : Tty) : TtyCall → Except Halt TtyResult
  | .write buffer nr => ttyWrite tty (some buffer) nr
  | .read buffer nr => ttyRead tty (some buffer) nr

-- A call with the tty before it.
structure TtyEvent where
  before : Tty
  call : TtyCall
  result : TtyResult

def TtyTurn (s : Tty) (e : TtyEvent) (t : Tty) : Prop := e.before = s ∧ e.call.on s = .ok e.result ∧ e.result.tty = t

def bytesOf (buffer : Nat → UInt8) (first count : Nat) : List UInt8 := (List.range' first count).map buffer

-- The bytes that a write reports as written, and those that a read reports and leaves
-- in the buffer of its caller.
def TtyEvent.written (e : TtyEvent) : List UInt8 :=
  match e.call with
  | .write buffer _ => bytesOf buffer 0 e.result.value.toNat
  | .read _ _ => []

def TtyEvent.given (e : TtyEvent) : List UInt8 :=
  match e.call with
  | .write _ _ => []
  | .read _ _ => bytesOf e.result.buffer 0 e.result.value.toNat

def TtyQueue.unread (q : TtyQueue) : Nat := q.head-q.tail

section Loops

theorem takeBytes_eq (n : Nat) (q : TtyQueue) (data : List (Nat × UInt8)) (order : q.tail ≤ q.head) (inside : q.head ≤ ttyBufSize) :
    takeBytes n q data = ({q with tail := q.tail+min n q.unread},
      data ++ (List.range' q.tail (min n q.unread)).map (fun i => (i,q.buf i)),decide (n ≤ q.unread)) := by
  unfold TtyQueue.unread
  induction n generalizing q data with
  | zero => simp [takeBytes]
  | succ n ih =>
      unfold takeBytes
      by_cases empty : q.head = q.tail
      · obtain ⟨buf,head,tail⟩ := q
        obtain rfl : head = tail := empty
        simp
      · have more : q.tail+1 ≤ q.head := by omega
        have count : min (n+1) (q.head-q.tail) = min n (q.head-(q.tail+1))+1 := by omega
        have enough : n+1 ≤ q.head-q.tail ↔ n ≤ q.head-(q.tail+1) := by omega
        rw [if_neg empty,if_neg (by omega),ih {q with tail := q.tail+1} _ more inside,count,List.range'_succ]
        simp only [List.map_cons,List.append_assoc,List.singleton_append,enough]
        rw [show q.tail+1+min n (q.head-(q.tail+1)) = q.tail+(min n (q.head-(q.tail+1))+1) by omega]

-- The queue after `count` bytes of a buffer.
def TtyQueue.extended (q : TtyQueue) (data : Nat → UInt8) (count : Nat) : TtyQueue :=
  {q with buf := fun i => if q.head ≤ i ∧ i < q.head+count then data (i-q.head) else q.buf i,head := q.head+count}

theorem putBytes_eq (data : Nat → UInt8) (n : Nat) (places : List Nat) (q : TtyQueue) (inside : q.head ≤ ttyBufSize) :
    putBytes data n places q = (places ++ List.range' q.head (min n (ttyBufSize-q.head)),
      q.extended (fun i => data (places.length+i)) (min n (ttyBufSize-q.head))) := by
  unfold TtyQueue.extended
  induction n generalizing q places with
  | zero => simp [putBytes,show ∀ i, ¬ (q.head ≤ i ∧ i < q.head) by omega]
  | succ n ih =>
      unfold putBytes
      by_cases full : ttyBufSize ≤ q.head
      · have none : ttyBufSize-q.head = 0 := by omega
        simp [full,none,show ∀ i, ¬ (q.head ≤ i ∧ i < q.head) by omega]
      · have count : min (n+1) (ttyBufSize-q.head) = min n (ttyBufSize-(q.head+1))+1 := by omega
        rw [if_neg full,ih _ _ (by simp only; omega),count,List.range'_succ]
        simp only [List.append_assoc,List.singleton_append,List.length_append,List.length_singleton,Prod.mk.injEq,true_and,
          TtyQueue.mk.injEq,and_true]
        refine ⟨?_,by omega⟩
        funext i
        by_cases here : i = q.head
        · subst here
          simp [show ¬ q.head+1 ≤ q.head by omega]
        · by_cases later : q.head+1 ≤ i
          · rw [Function.update_of_ne here,show places.length+1+(i-(q.head+1)) = places.length+(i-q.head) by omega]
            by_cases stored : i < q.head+1+min n (ttyBufSize-(q.head+1))
            · rw [if_pos ⟨later,stored⟩,if_pos ⟨by omega,by omega⟩]
            · rw [if_neg (fun both => stored both.2),if_neg (fun both => stored (by omega))]
          · rw [Function.update_of_ne here,if_neg (fun both => later both.1),if_neg (fun both => later (by omega))]

theorem putBytes_first (data : Nat → UInt8) (n : Nat) (q : TtyQueue) (inside : q.head ≤ ttyBufSize) :
    putBytes data n [] q = (List.range' q.head (min n (ttyBufSize-q.head)),q.extended data (min n (ttyBufSize-q.head))) := by
  rw [putBytes_eq data n [] q inside]
  simp only [List.nil_append,List.length_nil,Nat.zero_add]

end Loops

structure Tty.Sound (tty : Tty) : Prop where
  used : tty.used = true
  magic : tty.magic = 1234
  order : tty.rawQueue.tail ≤ tty.rawQueue.head
  inside : tty.rawQueue.head ≤ ttyBufSize

-- How many bytes a write of `nr` bytes stores, and a read of `nr` bytes takes.
def Tty.stores (tty : Tty) (nr : Int) : Nat := min (atMost nr) (ttyBufSize-tty.rawQueue.head)
def Tty.takes (tty : Tty) (nr : Int) : Nat := min (atMost nr) tty.rawQueue.unread

theorem atMost_negative {nr : Int} (low : nr ≤ 0) : atMost nr = 0 := by
  unfold atMost ttyBufSize
  rw [if_neg (by omega)]
  omega

theorem copySlave_same (tty : Tty) : tty.copySlave.1.used = tty.used ∧ tty.copySlave.1.magic = tty.magic ∧ tty.copySlave.1.link = tty.link ∧
    tty.copySlave.1.rawQueue.head = tty.rawQueue.head ∧ tty.copySlave.1.rawQueue.tail = tty.rawQueue.tail := by
  unfold Tty.copySlave
  split
  · exact ⟨rfl,rfl,rfl,rfl,rfl⟩
  · split
    · exact ⟨rfl,rfl,rfl,rfl,rfl⟩
    · exact ⟨rfl,rfl,rfl,rfl,rfl⟩

-- What a write of `count` bytes leaves.
structure TtyWrote (s : Tty) (buffer : Nat → UInt8) (count : Nat) (r : TtyResult) : Prop where
  value : r.value.toNat = count
  sound : r.tty.Sound
  link : r.tty.link = s.link
  head : r.tty.rawQueue.head = s.rawQueue.head+count
  tail : r.tty.rawQueue.tail = s.rawQueue.tail
  alone : s.link = none → r.tty.rawQueue = s.rawQueue.extended buffer count ∧ ∀ i ∈ r.touched, i < ttyBufSize

theorem ttyWrite_wrote {s : Tty} (sound : s.Sound) {buffer : Nat → UInt8} {nr : Int} {r : TtyResult}
    (done : ttyWrite s (some buffer) nr = .ok r) : TtyWrote s buffer (s.stores nr) r := by
  have valid : ¬ ¬ (s.used = true ∧ s.magic = 1234) := not_not.mpr ⟨sound.used,sound.magic⟩
  simp only [ttyWrite,if_neg valid,bind_ok,pointer_ok,Option.some.injEq] at done
  obtain ⟨_,rfl,done⟩ := done
  split at done
  · rename_i low
    cases done
    have none : s.stores nr = 0 := by
      unfold Tty.stores
      rw [atMost_negative low,Nat.zero_min]
    rw [none]
    refine ⟨rfl,sound,rfl,rfl,rfl,fun _ => ⟨?_,fun i touched => by cases touched⟩⟩
    simp [TtyQueue.extended,TtyResult.failed,show ∀ i, ¬ (s.rawQueue.head ≤ i ∧ i < s.rawQueue.head) by omega]
  · rw [putBytes_first _ _ _ sound.inside] at done
    let stored := s.withQueue (s.rawQueue.extended buffer (s.stores nr))
    obtain rfl : r = ⟨(List.range' s.rawQueue.head (s.stores nr)).length,stored.copySlave.1,buffer,
      List.range' s.rawQueue.head (s.stores nr) ++ stored.copySlave.2⟩ := (Except.ok.inj done).symm
    have bound : s.rawQueue.head+s.stores nr ≤ ttyBufSize := by
      have inside := sound.inside
      unfold Tty.stores
      omega
    obtain ⟨used,magic,link,head,tail⟩ := copySlave_same stored
    refine ⟨?_,⟨used.trans sound.used,magic.trans sound.magic,?_,?_⟩,link,head,tail,fun unlinked => ?_⟩
    · rw [List.length_range']
      rfl
    · rw [head,tail]
      exact Nat.le_trans sound.order (Nat.le_add_right _ _)
    · rw [head]
      exact bound
    · have alone : stored.copySlave = (stored,[]) := by
        unfold Tty.copySlave
        rw [show stored.link = none from unlinked]
      rw [alone]
      refine ⟨rfl,fun i touched => ?_⟩
      have place := List.mem_range'_1.mp (by simpa using touched)
      omega

-- What a read that takes `count` bytes leaves.
structure TtyTook (s : Tty) (buffer : Nat → UInt8) (nr : Int) (count : Nat) (r : TtyResult) : Prop where
  value : r.value.toNat = count
  sound : r.tty.Sound
  link : r.tty.link = s.link
  head : r.tty.rawQueue.head = s.rawQueue.head
  tail : r.tty.rawQueue.tail = s.rawQueue.tail+count
  bytes : r.tty.rawQueue.buf = s.rawQueue.buf
  buffer : bytesOf r.buffer 0 count = if atMost nr ≤ s.rawQueue.unread then bytesOf s.rawQueue.buf s.rawQueue.tail count else bytesOf buffer 0 count
  inside : ∀ i ∈ r.touched, i < ttyBufSize

theorem bytesOf_copiedOver (buffer : Nat → UInt8) {data : List UInt8} {count : Nat} (length : data.length = count) :
    bytesOf (copiedOver buffer data) 0 count = data := by
  subst length
  unfold bytesOf copiedOver
  apply List.ext_getElem
  · simp
  · intro i small also
    simp [also]

theorem ttyRead_took {s : Tty} (sound : s.Sound) {buffer : Nat → UInt8} {nr : Int} {r : TtyResult}
    (done : ttyRead s (some buffer) nr = .ok r) : TtyTook s buffer nr (s.takes nr) r := by
  have valid : ¬ ¬ (s.used = true ∧ s.magic = 1234) := not_not.mpr ⟨sound.used,sound.magic⟩
  simp only [ttyRead,if_neg valid,bind_ok,pointer_ok,Option.some.injEq] at done
  obtain ⟨_,rfl,done⟩ := done
  split at done
  · rename_i low
    cases done
    have none : s.takes nr = 0 := by
      unfold Tty.takes
      rw [atMost_negative low,Nat.zero_min]
    rw [none]
    refine ⟨rfl,sound,rfl,rfl,rfl,rfl,?_,fun i touched => by cases touched⟩
    simp [bytesOf]
  · rw [takeBytes_eq _ _ _ sound.order sound.inside] at done
    let taken := List.range' s.rawQueue.tail (s.takes nr)
    let data := taken.map fun i => (i,s.rawQueue.buf i)
    obtain rfl : r = ⟨data.length,s.withQueue {s.rawQueue with tail := s.rawQueue.tail+s.takes nr},
      if decide (atMost nr ≤ s.rawQueue.unread) = true then copiedOver buffer (data.map Prod.snd) else buffer,data.map Prod.fst⟩ :=
      (Except.ok.inj done).symm
    have count : data.length = s.takes nr := by simp [data,taken]
    have order := sound.order
    have bound : s.rawQueue.tail+s.takes nr ≤ s.rawQueue.head := by
      unfold Tty.takes TtyQueue.unread
      omega
    refine ⟨?_,⟨sound.used,sound.magic,bound,sound.inside⟩,rfl,rfl,rfl,rfl,?_,fun i touched => ?_⟩
    · simp only [count,Int.toNat_natCast]
    · have bytes : data.map Prod.snd = bytesOf s.rawQueue.buf s.rawQueue.tail (s.takes nr) := by simp [data,taken,bytesOf]
      simp only [decide_eq_true_eq,bytes]
      split
      · exact bytesOf_copiedOver buffer (by simp [bytesOf])
      · rfl
    · have place : i ∈ taken := by simpa [data] using touched
      have inside := sound.inside
      have within := List.mem_range'_1.mp place
      omega

-- A tty as tty_create makes it, linked or not.
structure Tty.Fresh (tty : Tty) : Prop where
  used : tty.used = true
  magic : tty.magic = 1234
  head : tty.rawQueue.head = 0
  tail : tty.rawQueue.tail = 0

theorem Tty.Fresh.sound {tty : Tty} (fresh : tty.Fresh) : tty.Sound :=
  ⟨fresh.used,fresh.magic,Nat.le_of_eq (fresh.tail.trans fresh.head.symm),by rw [fresh.head]; exact Nat.zero_le _⟩

def bytesWritten (events : List TtyEvent) : List UInt8 := events.flatMap TtyEvent.written
def bytesGiven (events : List TtyEvent) : List UInt8 := events.flatMap TtyEvent.given

theorem ttyWrite_returns {s : Tty} (sound : s.Sound) (buffer : Nat → UInt8) {nr : Int} (positive : 1 ≤ nr) :
    ∃ r, ttyWrite s (some buffer) nr = .ok r ∧ r.value = s.stores nr := by
  have valid : ¬ ¬ (s.used = true ∧ s.magic = 1234) := not_not.mpr ⟨sound.used,sound.magic⟩
  have asks : ¬ nr ≤ 0 := by omega
  simp only [ttyWrite,if_neg valid,pointer,if_neg asks,putBytes_first _ _ _ sound.inside]
  refine ⟨_,rfl,?_⟩
  rw [List.length_range']
  rfl

theorem ttyRead_returns {s : Tty} (sound : s.Sound) (buffer : Nat → UInt8) (nr : Int) : ∃ r, ttyRead s (some buffer) nr = .ok r := by
  have valid : ¬ ¬ (s.used = true ∧ s.magic = 1234) := not_not.mpr ⟨sound.used,sound.magic⟩
  simp only [ttyRead,if_neg valid,pointer]
  split
  · exact ⟨_,rfl⟩
  · exact ⟨_,rfl⟩

theorem ttyCreated_fresh : ttyCreated.Fresh := ⟨rfl,rfl,rfl,rfl⟩

theorem bytesOf_length (buffer : Nat → UInt8) (first count : Nat) : (bytesOf buffer first count).length = count := by
  rw [bytesOf,List.length_map,List.length_range']

theorem bytesOf_append (buffer : Nat → UInt8) (first m n : Nat) :
    bytesOf buffer first (m+n) = bytesOf buffer first m ++ bytesOf buffer (first+m) n := by
  unfold bytesOf
  rw [← List.map_append,List.range'_append_1]

theorem bytesOf_congr {buffer other : Nat → UInt8} {first second count : Nat} :
    bytesOf buffer first count = bytesOf other second count ↔ ∀ i < count, buffer (first+i) = other (second+i) := by
  simp only [bytesOf,List.range'_eq_map_range,List.map_map,List.map_inj_left,List.mem_range,Function.comp_apply]

-- A read gets what it asks for, or finds the bytes that it should get in its buffer.
def Delivers (s : Tty) : TtyCall → Prop
  | .write _ _ => True
  | .read buffer nr => atMost nr ≤ s.rawQueue.unread ∨ ∀ i < s.rawQueue.unread, buffer i = s.rawQueue.buf (s.rawQueue.tail+i)

theorem took_delivers {s : Tty} {buffer : Nat → UInt8} {nr : Int} {r : TtyResult} (took : TtyTook s buffer nr (s.takes nr) r) :
    bytesOf r.buffer 0 (s.takes nr) = bytesOf s.rawQueue.buf s.rawQueue.tail (s.takes nr) ↔ Delivers s (.read buffer nr) := by
  rw [took.buffer]
  unfold Delivers
  by_cases enough : atMost nr ≤ s.rawQueue.unread
  · simp [enough]
  · have all : s.takes nr = s.rawQueue.unread := by
      unfold Tty.takes
      omega
    rw [if_neg enough,bytesOf_congr,all]
    simp [enough]

-- Nothing that was written to an unlinked tty is ever written over.
structure TtyKept (events : List TtyEvent) (s : Tty) : Prop where
  sound : s.Sound
  unlinked : s.link = none
  bytes : bytesWritten events = bytesOf s.rawQueue.buf 0 s.rawQueue.head
  count : (bytesGiven events).length = s.rawQueue.tail
  delivered : bytesGiven events = bytesOf s.rawQueue.buf 0 s.rawQueue.tail ↔ ∀ e ∈ events, Delivers e.before e.call
  inside : ∀ e ∈ events, ∀ i ∈ e.result.touched, i < ttyBufSize

theorem extended_before (q : TtyQueue) (data : Nat → UInt8) (count : Nat) {n : Nat} (below : n ≤ q.head) :
    bytesOf (q.extended data count).buf 0 n = bytesOf q.buf 0 n := by
  rw [bytesOf_congr]
  intro i small
  unfold TtyQueue.extended
  simp only
  rw [if_neg (by omega)]

theorem extended_after (q : TtyQueue) (data : Nat → UInt8) (count : Nat) :
    bytesOf (q.extended data count).buf 0 (q.head+count) = bytesOf q.buf 0 q.head ++ bytesOf data 0 count := by
  rw [bytesOf_append,extended_before q data count (Nat.le_refl q.head)]
  congr 1
  rw [bytesOf_congr]
  intro i small
  unfold TtyQueue.extended
  simp only
  rw [if_pos ⟨by omega,by omega⟩]
  congr 1
  omega

theorem TtyKept.turn {events : List TtyEvent} {s t : Tty} {e : TtyEvent} (kept : TtyKept events s) (turn : TtyTurn s e t) :
    TtyKept (events ++ [e]) t := by
  obtain ⟨before,call,result⟩ := e
  obtain ⟨here,done,after⟩ := turn
  replace here : before = s := here
  replace after : result.tty = t := after
  subst here after
  have order := kept.sound.order
  cases call with
  | write buffer nr =>
      have wrote := ttyWrite_wrote kept.sound done
      obtain ⟨queue,touched⟩ := wrote.alone kept.unlinked
      have more : bytesWritten (events ++ [⟨before,.write buffer nr,result⟩]) = bytesWritten events ++ bytesOf buffer 0 (before.stores nr) := by
        simp [bytesWritten,TtyEvent.written,wrote.value]
      have same : bytesGiven (events ++ [⟨before,.write buffer nr,result⟩]) = bytesGiven events := by simp [bytesGiven,TtyEvent.given]
      refine ⟨wrote.sound,wrote.link.trans kept.unlinked,?_,?_,?_,?_⟩
      · rw [more,queue,kept.bytes]
        exact (extended_after _ _ _).symm
      · rw [same,wrote.tail]
        exact kept.count
      · rw [same,wrote.tail,queue,extended_before _ _ _ order,kept.delivered,List.forall_mem_append,List.forall_mem_singleton]
        exact (and_iff_left trivial).symm
      · rw [List.forall_mem_append,List.forall_mem_singleton]
        exact ⟨kept.inside,touched⟩
  | read buffer nr =>
      have took := ttyRead_took kept.sound done
      have same : bytesWritten (events ++ [⟨before,.read buffer nr,result⟩]) = bytesWritten events := by simp [bytesWritten,TtyEvent.written]
      have more : bytesGiven (events ++ [⟨before,.read buffer nr,result⟩]) = bytesGiven events ++ bytesOf result.buffer 0 (before.takes nr) := by
        simp [bytesGiven,TtyEvent.given,took.value]
      refine ⟨took.sound,took.link.trans kept.unlinked,?_,?_,?_,?_⟩
      · rw [same,took.bytes,took.head]
        exact kept.bytes
      · rw [more,took.tail,List.length_append,kept.count,bytesOf_length]
      · have lengths : (bytesGiven events).length = (bytesOf before.rawQueue.buf 0 before.rawQueue.tail).length := by
          rw [kept.count,bytesOf_length]
        rw [more,took.tail,took.bytes,bytesOf_append,Nat.zero_add,List.forall_mem_append,List.forall_mem_singleton,← kept.delivered,
          ← took_delivers took]
        constructor
        · intro both
          exact List.append_inj both lengths
        · rintro ⟨earlier,now⟩
          rw [earlier,now]
      · rw [List.forall_mem_append,List.forall_mem_singleton]
        exact ⟨kept.inside,took.inside⟩

theorem tty_kept {t : Tty} {events : List TtyEvent} (run : Runs.Path TtyTurn ttyCreated events t) : TtyKept events t := by
  refine run.history TtyKept (fun _ _ _ _ kept turn => kept.turn turn) ⟨ttyCreated_fresh.sound,rfl,rfl,rfl,?_,?_⟩
  · simp [bytesGiven,bytesOf,ttyCreated]
  · simp

-- What the readers of a tty are given is a prefix of what its writers have written.
structure TtyStreams (events : List TtyEvent) : Prop where
  prefixed : bytesGiven events <+: bytesWritten events
  inside : ∀ e ∈ events, ∀ i ∈ e.result.touched, i < ttyBufSize

-- The stream is kept exactly when no read asks for more than there is, or when the buffer
-- of its caller happens to hold the bytes already.
theorem tty_streams_iff {t : Tty} {events : List TtyEvent} (run : Runs.Path TtyTurn ttyCreated events t) :
    TtyStreams events ↔ ∀ e ∈ events, Delivers e.before e.call := by
  have kept := tty_kept run
  have taken : (bytesWritten events).take (bytesGiven events).length = bytesOf t.rawQueue.buf 0 t.rawQueue.tail := by
    obtain ⟨rest,all⟩ := Nat.exists_eq_add_of_le kept.sound.order
    rw [kept.bytes,kept.count,all,bytesOf_append,List.take_left' (bytesOf_length _ _ _)]
  rw [← kept.delivered]
  constructor
  · intro streams
    rw [← taken]
    exact List.prefix_iff_eq_take.mp streams.prefixed
  · intro same
    refine ⟨List.prefix_iff_eq_take.mpr ?_,kept.inside⟩
    rw [taken]
    exact same

-- The letter A in the queue, taken or not.
def TtyQueue.letter (tail : Nat) : TtyQueue := ⟨Function.update (fun _ => 0) 0 65,1,tail⟩

theorem letter_written : ttyWrite ttyCreated (some fun _ => 65) 1 = .ok ⟨1,ttyCreated.withQueue (.letter 0),fun _ => 65,[0]⟩ := rfl

theorem tty_letter_streams : ∃ e₁ e₂ t, Runs.Path TtyTurn ttyCreated [e₁,e₂] t ∧ bytesGiven [e₁,e₂] = [65] ∧ TtyStreams [e₁,e₂] := by
  have run : Runs.Path TtyTurn ttyCreated [⟨ttyCreated,.write (fun _ => 65) 1,⟨1,ttyCreated.withQueue (.letter 0),fun _ => 65,[0]⟩⟩,
      ⟨ttyCreated.withQueue (.letter 0),.read (fun _ => 0) 1,⟨1,ttyCreated.withQueue (.letter 1),copiedOver (fun _ => 0) [65],[0]⟩⟩]
      (ttyCreated.withQueue (.letter 1)) := .step (.step .nil ⟨rfl,letter_written,rfl⟩) ⟨rfl,rfl,rfl⟩
  refine ⟨_,_,_,run,rfl,(tty_streams_iff run).mpr ?_⟩
  simp only [List.forall_mem_cons]
  exact ⟨trivial,.inl (by decide),List.forall_mem_nil _⟩

-- One letter is written. A read of two bytes reports it and leaves the buffer as it was.
theorem tty_letter_lost : ∃ e₁ e₂ t, Runs.Path TtyTurn ttyCreated [e₁,e₂] t ∧ e₁.call = .write (fun _ => 65) 1 ∧
    e₂.call = .read (fun _ => 0) 2 ∧ bytesWritten [e₁,e₂] = [65] ∧ bytesGiven [e₁,e₂] = [0] ∧ ¬ TtyStreams [e₁,e₂] := by
  have run : Runs.Path TtyTurn ttyCreated [⟨ttyCreated,.write (fun _ => 65) 1,⟨1,ttyCreated.withQueue (.letter 0),fun _ => 65,[0]⟩⟩,
      ⟨ttyCreated.withQueue (.letter 0),.read (fun _ => 0) 2,⟨1,ttyCreated.withQueue (.letter 1),fun _ => 0,[0]⟩⟩]
      (ttyCreated.withQueue (.letter 1)) := .step (.step .nil ⟨rfl,letter_written,rfl⟩) ⟨rfl,rfl,rfl⟩
  refine ⟨_,_,_,run,rfl,rfl,rfl,rfl,?_⟩
  intro streams
  exact absurd streams.prefixed (by decide)

end GramadoKernel
