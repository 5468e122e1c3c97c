import GramadoKernel.FileBuffer

namespace GramadoKernel

-- The offsets of a regular file that is used as a stream.
structure Streaming (f : File) : Prop where
  object : f.object = .file
  valid : f.Valid
  some : 0 < f.lbfsize
  limit : f.lbfsize ≤ bufsiz
  start : 0 ≤ f.r
  order : f.r ≤ f.w
  inside : f.w ≤ f.lbfsize
  space : f.cnt = f.lbfsize-f.w

-- What is written and not yet read.
def unread (f : File) : List UInt8 := bytesAt f.base f.r (f.w-f.r).toNat

theorem memcpyLength_small {n : Int} (positive : 0 ≤ n) (small : n ≤ bufsiz) : memcpyLength n = n.toNat := by
  simp only [bufsiz] at small
  rw [memcpyLength,Int.emod_eq_of_lt positive (by omega)]

theorem bytesAt_append (memory : Int → UInt8) (offset : Int) (a b : Nat) :
    bytesAt memory offset (a+b) = bytesAt memory offset a ++ bytesAt memory (offset+a) b := by
  simp only [bytesAt,List.range_add,List.map_append,List.map_map]
  congr 1
  apply List.map_congr_left
  intro i _
  simp only [Function.comp_apply,Int.natCast_add,Int.add_assoc]

theorem bytesAt_take (memory : Int → UInt8) (offset : Int) {m n : Nat} (within : m ≤ n) :
    bytesAt memory offset m = (bytesAt memory offset n).take m := by
  obtain ⟨rest,rfl⟩ := Nat.exists_eq_add_of_le within
  rw [bytesAt_append,List.take_left' (by simp [bytesAt])]

theorem bytesAt_below (memory : Int → UInt8) {offset place : Int} {a : Nat} (below : offset+a ≤ place) (source : Nat → UInt8) (n : Nat) :
    bytesAt (memcpy memory place source n) offset a = bytesAt memory offset a := by
  apply List.map_congr_left
  intro i member
  have range := List.mem_range.mp member
  exact if_neg (by omega)

theorem bytesAt_copied (memory : Int → UInt8) (place : Int) (source : Nat → UInt8) {n m : Nat} (within : m ≤ n) :
    bytesAt (memcpy memory place source n) place m = (List.range m).map source := by
  apply List.map_congr_left
  intro i member
  have range := List.mem_range.mp member
  rw [memcpy,if_pos (by omega),show (place+(i : Int)-place).toNat = i by omega]

-- A call that leaves the stream as it is.
structure Untouched (f g : File) : Prop where
  object : g.object = f.object
  valid : f.Valid → g.Valid
  lbfsize : g.lbfsize = f.lbfsize
  base : g.base = f.base
  r : g.r = f.r
  w : g.w = f.w
  cnt : g.cnt = f.cnt

theorem Untouched.refl (f : File) : Untouched f f := ⟨rfl,id,rfl,rfl,rfl,rfl,rfl⟩

structure Appended (f : File) (source : Nat → UInt8) (n : Nat) (g : File) : Prop where
  object : g.object = f.object
  valid : f.Valid → g.Valid
  lbfsize : g.lbfsize = f.lbfsize
  base : g.base = memcpy f.base f.w source n
  r : g.r = f.r
  w : g.w = f.w+n
  cnt : g.cnt = f.cnt-n

structure Consumed (f : File) (n : Nat) (g : File) : Prop where
  object : g.object = f.object
  valid : f.Valid → g.Valid
  lbfsize : g.lbfsize = f.lbfsize
  base : g.base = f.base
  r : g.r = f.r+n
  w : g.w = f.w
  cnt : g.cnt = f.cnt

-- A write that comes when the buffer is full up to a _lbfsize below BUFSIZ moves
-- the read offset to the end, over what is still unread.
def Discards (f : File) (string : Option (Nat → UInt8)) (len : Int) : Prop :=
  string ≠ none ∧ 0 < len ∧ len < bufsiz ∧ f.w = f.lbfsize ∧ f.lbfsize < bufsiz ∧ f.r < f.w

theorem fileWriteBuffer_stream {f : File} {string : Option (Nat → UInt8)} {len : Int} (streaming : Streaming f)
    (safe : ¬ Discards f string len) :
    (fileWriteBuffer f string len).value = -1 ∧ (fileWriteBuffer f string len).copied = none ∧
        Untouched f (fileWriteBuffer f string len).file ∨
      ∃ source n, string = some source ∧ f.w+(n : Nat) ≤ f.lbfsize ∧ (fileWriteBuffer f string len).value = n ∧
        (fileWriteBuffer f string len).copied = some ⟨f.w,n⟩ ∧ Appended f source n (fileWriteBuffer f string len).file := by
  obtain ⟨object,valid,some,limit,start,order,inside,space⟩ := streaming
  cases string with
  | none => exact .inl ⟨rfl,rfl,.refl f⟩
  | some source =>
      have dispatch : fileWriteBuffer f (.some source) len = if bufsiz ≤ len then ⟨eof,f,none⟩ else writeStream f source len := by
        simp only [fileWriteBuffer,object]
      rw [dispatch]
      unfold writeStream
      by_cases long : bufsiz ≤ len
      · rw [if_pos long]
        exact .inl ⟨rfl,rfl,.refl f⟩
      · rw [if_neg long,if_neg (by omega),if_neg (by omega)]
        by_cases past : bufsiz ≤ f.w
        · rw [if_pos past]
          exact .inl ⟨rfl,rfl,rfl,id,rfl,rfl,rfl,by simp only; omega,by simp only; omega⟩
        · rw [if_neg past,if_neg (by omega),if_neg (show ¬ f.lbfsize < f.cnt by omega)]
          by_cases negative : len < 0
          · rw [if_pos negative]
            exact .inl ⟨rfl,rfl,.refl f⟩
          · rw [if_neg negative]
            by_cases full : f.cnt < len ∧ f.cnt ≤ 0
            · rw [if_pos full]
              -- The offsets are set to the end of the buffer, where they are.
              have read : ¬ f.r < f.w := fun unread => safe ⟨by simp,by omega,by omega,by omega,by omega,unread⟩
              exact .inl ⟨rfl,rfl,rfl,id,rfl,rfl,by simp only; omega,by simp only; omega,by simp only; omega⟩
            · rw [if_neg full,if_neg (show ¬ f.w < f.r by omega)]
              have fits : ∃ n : Nat, (if f.cnt < len then f.cnt else len) = n ∧ f.w+n ≤ f.lbfsize := by
                split
                · exact ⟨f.cnt.toNat,by omega,by omega⟩
                · exact ⟨len.toNat,by omega,by omega⟩
              obtain ⟨n,same,room⟩ := fits
              have length : memcpyLength n = n := by
                rw [memcpyLength_small (by omega) (by omega)]
                rfl
              refine .inr ⟨source,n,rfl,room,?_⟩
              simp only [same,length]
              exact ⟨trivial,trivial,rfl,id,rfl,rfl,rfl,rfl,rfl⟩

theorem fileReadBuffer_stream {f : File} (streaming : Streaming f) (buffer : UInt64) (len : Int) :
    (fileReadBuffer f buffer len).value ≤ 0 ∧ (fileReadBuffer f buffer len).copied = none ∧
        Untouched f (fileReadBuffer f buffer len).file ∧
          (buffer = 0 ∨ len % 65536 ≤ 0 ∨ f.lbfsize < len % 65536 ∨ f.w = f.r) ∨
      ∃ n : Nat, (n : Int) = min (len % 65536) (f.w-f.r) ∧ (fileReadBuffer f buffer len).value = n ∧
        (fileReadBuffer f buffer len).copied = some ⟨f.r,n⟩ ∧ Consumed f n (fileReadBuffer f buffer len).file := by
  obtain ⟨object,valid,some,limit,start,order,inside,space⟩ := streaming
  simp only [bufsiz] at limit
  have dispatch : fileReadBuffer f buffer len = if buffer = 0 then ⟨eof,f,none⟩ else if len % 65536 ≤ 0 then ⟨eof,f,none⟩
      else if f.lbfsize < len % 65536 then ⟨eof,f,none⟩ else readStream f (len % 65536) := by
    simp only [fileReadBuffer,object,not_not.mpr valid,if_false]
  rw [dispatch]
  unfold readStream
  by_cases null : buffer = 0
  · rw [if_pos null]
    exact .inl ⟨show eof ≤ 0 by decide,rfl,.refl f,.inl null⟩
  · rw [if_neg null]
    by_cases nothing : len % 65536 ≤ 0
    · rw [if_pos nothing]
      exact .inl ⟨show eof ≤ 0 by decide,rfl,.refl f,.inr (.inl nothing)⟩
    · rw [if_neg nothing]
      by_cases long : f.lbfsize < len % 65536
      · rw [if_pos long]
        exact .inl ⟨show eof ≤ 0 by decide,rfl,.refl f,.inr (.inr (.inl long))⟩
      · simp only [if_neg long,if_neg (show ¬ f.lbfsize ≤ 0 by omega),if_neg (show ¬ 8*1024 < f.lbfsize by omega),
          if_neg (show ¬ f.r < 0 by omega),if_neg (show ¬ f.lbfsize < f.r by omega),if_neg (show ¬ f.w < f.r by omega)]
        by_cases empty : f.w-f.r = 0
        · rw [if_pos empty]
          exact .inl ⟨Int.le_refl 0,rfl,.refl f,.inr (.inr (.inr (by omega)))⟩
        · rw [if_neg empty]
          have fits : ∃ n : Nat, (if f.w-f.r < len % 65536 then f.w-f.r else len % 65536) = n ∧ 0 < n ∧
              (n : Int) = min (len % 65536) (f.w-f.r) := by
            split
            · exact ⟨(f.w-f.r).toNat,by omega,by omega,by omega⟩
            · exact ⟨(len % 65536).toNat,by omega,by omega,by omega⟩
          obtain ⟨n,same,more,least⟩ := fits
          have length : memcpyLength n = n := by
            rw [memcpyLength_small (by omega) (by simp only [bufsiz]; omega)]
            rfl
          refine .inr ⟨n,least,?_⟩
          simp only [same,length,if_neg (show ¬ (n : Int) ≤ 0 by omega),if_neg (show ¬ f.w < f.r+n by omega)]
          exact ⟨trivial,trivial,rfl,id,rfl,rfl,rfl,rfl,rfl⟩

section Stream

variable {f g : File}

theorem Untouched.streaming (same : Untouched f g) (streaming : Streaming f) : Streaming g where
  object := same.object.trans streaming.object
  valid := same.valid streaming.valid
  some := by rw [same.lbfsize]; exact streaming.some
  limit := by rw [same.lbfsize]; exact streaming.limit
  start := by rw [same.r]; exact streaming.start
  order := by rw [same.r,same.w]; exact streaming.order
  inside := by rw [same.w,same.lbfsize]; exact streaming.inside
  space := by rw [same.cnt,same.lbfsize,same.w]; exact streaming.space

theorem Untouched.unread (same : Untouched f g) : GramadoKernel.unread g = GramadoKernel.unread f := by
  rw [GramadoKernel.unread,same.base,same.r,same.w]
  rfl

theorem Appended.streaming (more : Appended f source n g) (streaming : Streaming f) (room : f.w+n ≤ f.lbfsize) : Streaming g where
  object := more.object.trans streaming.object
  valid := more.valid streaming.valid
  some := by rw [more.lbfsize]; exact streaming.some
  limit := by rw [more.lbfsize]; exact streaming.limit
  start := by rw [more.r]; exact streaming.start
  order := by
    have order := streaming.order
    rw [more.r,more.w]
    omega
  inside := by rw [more.w,more.lbfsize]; exact room
  space := by
    have space := streaming.space
    rw [more.cnt,more.lbfsize,more.w]
    omega

theorem Appended.unread (more : Appended f source n g) (order : f.r ≤ f.w) :
    GramadoKernel.unread g = GramadoKernel.unread f ++ (List.range n).map source := by
  have length : (f.w+n-f.r).toNat = (f.w-f.r).toNat+n := by omega
  have place : f.r+(f.w-f.r).toNat = f.w := by omega
  unfold GramadoKernel.unread
  rw [more.base,more.r,more.w,length,bytesAt_append,bytesAt_below f.base (by omega),place,bytesAt_copied f.base f.w source (Nat.le_refl n)]

theorem Consumed.streaming (less : Consumed f n g) (streaming : Streaming f) (left : f.r+n ≤ f.w) : Streaming g where
  object := less.object.trans streaming.object
  valid := less.valid streaming.valid
  some := by rw [less.lbfsize]; exact streaming.some
  limit := by rw [less.lbfsize]; exact streaming.limit
  start := by
    have start := streaming.start
    rw [less.r]
    omega
  order := by rw [less.r,less.w]; exact left
  inside := by rw [less.w,less.lbfsize]; exact streaming.inside
  space := by rw [less.cnt,less.lbfsize,less.w]; exact streaming.space

theorem Consumed.unread (less : Consumed f n g) (left : f.r+n ≤ f.w) :
    GramadoKernel.unread f = bytesAt f.base f.r n ++ GramadoKernel.unread g := by
  have length : (f.w-f.r).toNat = n+(f.w-(f.r+n)).toNat := by omega
  unfold GramadoKernel.unread
  rw [less.base,less.r,less.w,length,bytesAt_append]

end Stream

-- The calls on one file, with any lengths.
inductive StreamCall where
  | read (buffer : UInt64) (len : Int)
  | write (string : Option (Nat → UInt8)) (len : Int)

def StreamCall.transfer (f : File) : StreamCall → Transfer
  | .read buffer len => fileReadBuffer f buffer len
  | .write string len => fileWriteBuffer f string len

def StreamCall.Discards (f : File) : StreamCall → Prop
  | .read _ _ => False
  | .write string len => GramadoKernel.Discards f string len

structure StreamEvent where
  call : StreamCall
  transfer : Transfer

def Streams (f : File) (e : StreamEvent) (g : File) : Prop := e.transfer = e.call.transfer f ∧ g = e.transfer.file

-- The bytes that a write takes from its caller.
def StreamEvent.accepted (e : StreamEvent) : List UInt8 :=
  match e.call with
  | .read _ _ => []
  | .write none _ => []
  | .write (some string) _ => (List.range e.transfer.value.toNat).map string

def StreamEvent.returned (e : StreamEvent) : List UInt8 :=
  match e.call with
  | .read _ _ => e.transfer.given
  | .write _ _ => []

def Transfer.Inside (t : Transfer) (lbfsize : Int) : Prop := ∀ c ∈ t.copied, 0 ≤ c.offset ∧ c.offset+c.length ≤ lbfsize

-- What one call does to a stream.
structure Flows (f : File) (e : StreamEvent) (g : File) : Prop where
  streaming : Streaming g
  lbfsize : g.lbfsize = f.lbfsize
  inside : e.transfer.Inside f.lbfsize
  moved : unread f ++ e.accepted = e.returned ++ unread g

theorem streams_flow {f g : File} {e : StreamEvent} (streaming : Streaming f) (taken : Streams f e g) (safe : ¬ e.call.Discards f) :
    Flows f e g := by
  obtain ⟨call,transfer⟩ := e
  obtain ⟨made,rfl⟩ := taken
  simp only at made safe
  subst made
  have start := streaming.start
  have order := streaming.order
  have bound := streaming.inside
  cases call with
  | read buffer len =>
      rcases fileReadBuffer_stream streaming buffer len with ⟨_,nothing,same,_⟩ | ⟨n,least,_,copied,less⟩
      · refine ⟨same.streaming streaming,same.lbfsize,?_,?_⟩
        · intro c member
          simp [StreamCall.transfer,nothing] at member
        · simp only [StreamEvent.accepted,StreamEvent.returned,StreamCall.transfer,Transfer.given,nothing,same.unread,List.append_nil,
            List.nil_append]
      · refine ⟨less.streaming streaming (by omega),less.lbfsize,?_,?_⟩
        · intro c member
          simp only [StreamCall.transfer,copied,Option.mem_def,Option.some.injEq] at member
          rw [← member]
          exact ⟨start,by simp only; omega⟩
        · simp only [StreamEvent.accepted,StreamEvent.returned,StreamCall.transfer,Transfer.given,copied,less.base,List.append_nil]
          exact less.unread (by omega)
  | write string len =>
      rcases fileWriteBuffer_stream streaming safe with ⟨refused,nothing,same⟩ | ⟨source,n,rfl,room,value,copied,more⟩
      · refine ⟨same.streaming streaming,same.lbfsize,?_,?_⟩
        · intro c member
          simp [StreamCall.transfer,nothing] at member
        · have none : StreamEvent.accepted ⟨.write string len,fileWriteBuffer f string len⟩ = [] := by
            cases string with
            | none => rfl
            | some source => simp [StreamEvent.accepted,refused]
          simp only [StreamEvent.returned,StreamCall.transfer,same.unread,none,List.append_nil,List.nil_append]
      · refine ⟨more.streaming streaming room,more.lbfsize,?_,?_⟩
        · intro c member
          simp only [StreamCall.transfer,copied,Option.mem_def,Option.some.injEq] at member
          rw [← member]
          exact ⟨by simp only; omega,room⟩
        · simp only [StreamEvent.accepted,StreamEvent.returned,StreamCall.transfer,value,Int.toNat_natCast,List.nil_append]
          exact (more.unread order).symm

-- The next read gives the oldest unread bytes.
theorem unread_readable {f : File} (streaming : Streaming f) {buffer : UInt64} {len : Int} (present : buffer ≠ 0) (some : 0 < len)
    (limit : len ≤ f.lbfsize) : (fileReadBuffer f buffer len).given = (unread f).take len.toNat := by
  have bound := streaming.limit
  have order := streaming.order
  simp only [bufsiz] at bound
  have count : len % 65536 = len := Int.emod_eq_of_lt (by omega) (by omega)
  rcases fileReadBuffer_stream streaming buffer len with ⟨_,nothing,_,reason⟩ | ⟨n,least,_,copied,less⟩
  · have empty : f.w = f.r := by
      rcases reason with null | others
      · exact absurd null present
      · omega
    simp [Transfer.given,nothing,unread,bytesAt,empty]
  · have left : f.r+n ≤ f.w := by omega
    have length : (bytesAt f.base f.r n).length = n := by simp [bytesAt]
    rw [less.unread left,Transfer.given,copied]
    simp only [less.base]
    by_cases all : len = n
    · rw [List.take_left' (by omega)]
    · have done : unread (fileReadBuffer f buffer len).file = [] := by
        have end_ : f.w-(f.r+n) = 0 := by omega
        simp [unread,less.r,less.w,end_,bytesAt]
      rw [done,List.append_nil,List.take_of_length_le (by omega)]

-- A file as the claims on streams start it.
structure Opened (f : File) : Prop where
  object : f.object = .file
  valid : f.Valid
  some : 0 < f.lbfsize
  limit : f.lbfsize ≤ bufsiz
  r : f.r = 0
  w : f.w = 0
  cnt : f.cnt = f.lbfsize

theorem Opened.streaming {f : File} (opened : Opened f) : Streaming f where
  object := opened.object
  valid := opened.valid
  some := opened.some
  limit := opened.limit
  start := Int.le_of_eq opened.r.symm
  order := Int.le_of_eq (opened.r.trans opened.w.symm)
  inside := by rw [opened.w]; exact Int.le_of_lt opened.some
  space := by rw [opened.cnt,opened.w,Int.sub_zero]

theorem stream_in_order {f g : File} {events : List StreamEvent} (opened : Opened f)
    (run : Runs.Path (fun f e g => Streams f e g ∧ ¬ e.call.Discards f) f events g) :
    (0 ≤ g.r ∧ g.r ≤ g.w ∧ g.w ≤ f.lbfsize ∧ g.cnt = f.lbfsize-g.w) ∧
      (∀ e ∈ events, e.transfer.Inside f.lbfsize) ∧
      (∃ rest, events.flatMap StreamEvent.accepted = events.flatMap StreamEvent.returned ++ rest ∧
        ∀ buffer len, buffer ≠ 0 → 0 < len → len ≤ f.lbfsize → (fileReadBuffer g buffer len).given = rest.take len.toNat) := by
  have preserved : ∀ s e t, (Streaming s ∧ s.lbfsize = f.lbfsize) → (Streams s e t ∧ ¬ e.call.Discards s) →
      Streaming t ∧ t.lbfsize = f.lbfsize := by
    intro s e t kept taken
    have flows := streams_flow kept.1 taken.1 taken.2
    exact ⟨flows.streaming,flows.lbfsize.trans kept.2⟩
  have start : Streaming f ∧ f.lbfsize = f.lbfsize := ⟨opened.streaming,rfl⟩
  obtain ⟨streaming,size⟩ := run.invariant (fun s => Streaming s ∧ s.lbfsize = f.lbfsize) preserved start
  have kept := run.under (fun s => Streaming s ∧ s.lbfsize = f.lbfsize) preserved start
  have none : unread f = [] := by
    simp [unread,bytesAt,opened.r,opened.w]
  refine ⟨?_,?_,unread g,?_,?_⟩
  · have inside := streaming.inside
    have space := streaming.space
    exact ⟨streaming.start,streaming.order,by omega,by omega⟩
  · refine kept.each (fun e => e.transfer.Inside f.lbfsize) ?_
    intro s e t taken
    have inside := (streams_flow taken.1.1 taken.2.1 taken.2.2).inside
    rwa [taken.1.2] at inside
  · have moved := kept.conserved unread StreamEvent.accepted StreamEvent.returned
      fun s e t taken => (streams_flow taken.1.1 taken.2.1 taken.2.2).moved
    rwa [none,List.nil_append] at moved
  · intro buffer len present some limit
    exact unread_readable streaming present some (by omega)

-- A regular file with a buffer of 2 bytes.
def smallFile : File where
  object := .file
  used := true
  magic := 1234
  descriptor := 3
  socketBufferFull := false
  socket := none
  base := fun _ => 0
  p := 0
  r := 0
  w := 0
  lbfsize := 2
  cnt := 2
  flags := swr
  sync := ⟨true,true,false,false,false,false,false⟩
  tidWaiting := -1

theorem smallFile_opened : Opened smallFile := ⟨rfl,⟨rfl,rfl⟩,by decide,by decide,rfl,rfl,rfl⟩

-- The event of a call on a file.
def StreamCall.on (call : StreamCall) (f : File) : StreamEvent := ⟨call,call.transfer f⟩

theorem streams_on (call : StreamCall) (f : File) : Streams f (call.on f) (call.on f).transfer.file := ⟨rfl,rfl⟩

def writeTwo : StreamCall := .write (some fun i => if i = 0 then 7 else 8) 2

-- Two bytes written and one of them read.
theorem stream_in_order_small :
    (StreamCall.on (.read 1 1) (writeTwo.on smallFile).transfer.file).returned = [7] ∧
      (fileReadBuffer (StreamCall.on (.read 1 1) (writeTwo.on smallFile).transfer.file).transfer.file 1 1).given = [8] := by
  obtain ⟨_,_,rest,moved,readable⟩ := stream_in_order smallFile_opened
    (.cons ⟨streams_on writeTwo smallFile,fun discards => absurd discards.2.2.2.1 (by decide)⟩
      (.cons ⟨streams_on (.read 1 1) (writeTwo.on smallFile).transfer.file,id⟩ .nil))
  have first : (StreamCall.on (.read 1 1) (writeTwo.on smallFile).transfer.file).returned = [7] := by decide
  refine ⟨first,?_⟩
  rw [readable 1 1 (by decide) (by decide) (by decide)]
  simp only [List.flatMap_cons,List.flatMap_nil,List.append_nil,first] at moved
  have written : (writeTwo.on smallFile).accepted = [7,8] := by decide
  have nothing : (writeTwo.on smallFile).returned = [] := rfl
  have neither : (StreamCall.on (.read 1 1) (writeTwo.on smallFile).transfer.file).accepted = [] := rfl
  rw [written,nothing,neither] at moved
  simp only [List.append_nil,List.nil_append,List.cons_append,List.cons.injEq,true_and] at moved
  rw [← moved]
  rfl

-- The same file written full: a third byte is refused, and the two are gone.
theorem refused_write_discards :
    Opened smallFile ∧ (writeTwo.on smallFile).transfer.value = 2 ∧
      (fileWriteBuffer (writeTwo.on smallFile).transfer.file (some fun _ => 9) 1).value = -1 ∧
      ∀ buffer len, (fileReadBuffer (fileWriteBuffer (writeTwo.on smallFile).transfer.file (some fun _ => 9) 1).file buffer len).given = [] := by
  refine ⟨smallFile_opened,by decide,by decide,?_⟩
  intro buffer len
  have streaming : Streaming (fileWriteBuffer (writeTwo.on smallFile).transfer.file (some fun _ => 9) 1).file :=
    ⟨rfl,⟨rfl,rfl⟩,by decide,by decide,by decide,by decide,by decide,by decide⟩
  rcases fileReadBuffer_stream streaming buffer len with ⟨_,nothing,_⟩ | ⟨n,least,_,copied,_⟩
  · rw [Transfer.given,nothing]
  · have met : (fileWriteBuffer (writeTwo.on smallFile).transfer.file (some fun _ => 9) 1).file.w-
        (fileWriteBuffer (writeTwo.on smallFile).transfer.file (some fun _ => 9) 1).file.r = 0 := by decide
    have none : n = 0 := by omega
    rw [Transfer.given,copied,none]
    rfl

end GramadoKernel
