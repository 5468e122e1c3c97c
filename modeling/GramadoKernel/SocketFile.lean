import GramadoKernel.Creation
import GramadoKernel.Descriptors
import GramadoKernel.StreamBuffer

namespace GramadoKernel

-- What no call changes in the file of a socket.
structure SocketFile (f : File) : Prop where
  object : f.object = .socket
  valid : f.Valid
  descriptor : 3 ≤ f.descriptor
  size : f.lbfsize = bufsiz
  readable : f.sync.canRead = true
  writable : f.sync.canWrite = true

-- All that __read_imp can do to the file it reads, when that is a socket.
inductive ReadsSocket (f : File) (count : Int) : Int → List UInt8 → File → Prop where
  | refused : value ≤ 0 → ReadsSocket f count value [] f
  | empty : f.flags &&& srd ≠ 0 → f.socketBufferFull = false →
      ReadsSocket f count (-1) [] {f with flags := swr,tidWaiting := -1}
  | taken : f.flags &&& srd ≠ 0 → f.socketBufferFull = true → 0 < count % 65536 → count % 65536 ≤ bufsiz →
      ReadsSocket f count (count % 65536) (bytesAt f.base 0 (count % 65536).toNat)
        {f with socketBufferFull := false,flags := (f.flags ||| swr) &&& ~~~ srd ||| swr,tidWaiting := -1}

-- All that __write_imp can do to it.
inductive WritesSocket (f : File) (ubuf : Option (Nat → UInt8)) (count : Int) : Int → File → Prop where
  | refused : value ≤ 0 → (f.flags &&& swr = 0 ∨ ubuf = none ∨ count ≤ 0) → WritesSocket f ubuf count value f
  | full (waiting : Int) : f.flags &&& swr ≠ 0 → f.socketBufferFull = true →
      WritesSocket f ubuf count (-1) {f with flags := srd,tidWaiting := waiting}
  | long : f.flags &&& swr ≠ 0 → f.socketBufferFull = false → ubuf ≠ none → bufsiz ≤ count →
      WritesSocket f ubuf count (-1) {f with flags := 0}
  | stored (source : Nat → UInt8) (waiting : Int) : f.flags &&& swr ≠ 0 → f.socketBufferFull = false → ubuf = some source → 0 < count →
      count < bufsiz → WritesSocket f ubuf count count
        {f with base := memcpy f.base 0 source count.toNat,socketBufferFull := true,flags := srd,tidWaiting := waiting}

theorem fileReadBuffer_socket {f : File} (socket : SocketFile f) {ubuf : UInt64} (present : ubuf ≠ 0) (count : Int) :
    fileReadBuffer f ubuf count = ⟨eof,f,none⟩ ∨
      0 < count % 65536 ∧ count % 65536 ≤ bufsiz ∧ fileReadBuffer f ubuf count =
        ⟨count % 65536,{f with flags := f.flags ||| swr},some ⟨0,(count % 65536).toNat⟩⟩ := by
  have dispatch : fileReadBuffer f ubuf count = if count % 65536 ≤ 0 then ⟨eof,f,none⟩
      else if bufsiz < count % 65536 then ⟨eof,f,none⟩ else readMessage f (count % 65536) := by
    simp only [fileReadBuffer,socket.object,not_not.mpr socket.valid,present,if_false,socket.size]
  rw [dispatch]
  by_cases nothing : count % 65536 ≤ 0
  · exact .inl (if_pos nothing)
  · by_cases long : bufsiz < count % 65536
    · exact .inl ((if_neg nothing).trans (if_pos long))
    · refine .inr ⟨by omega,by omega,?_⟩
      rw [if_neg nothing,if_neg long,readMessage,memcpyLength_small (by omega) (by omega)]

theorem readFile_socket {io : Io} {id : Nat} {ubuf : UInt64} {count : Int} {answer : Answer} (socket : SocketFile (io.file id))
    (present : ubuf ≠ 0) (read : readFile io id ubuf count = .ok answer) :
    ReadsSocket (io.file id) count answer.value answer.given (answer.io.file id) := by
  have dispatch : readFile io id ubuf count = readSocket io id ubuf count := by
    simp only [readFile,socket.readable,socket.object,Bool.true_eq_false,if_false]
  rw [dispatch] at read
  have same : io.credited.file id = io.file id := rfl
  unfold readSocket at read
  simp only [same] at read
  split at read
  · obtain rfl := Except.ok.inj read
    exact .refused (by simp)
  · rename_i flag
    split at read
    · rename_i hollow
      split at read
      · cases read
      · obtain rfl := Except.ok.inj read
        have now : (Io.yielded (io.credited.put id {io.file id with flags := swr,tidWaiting := -1})).file id =
            {io.file id with flags := swr,tidWaiting := -1} := Io.put_same _ _ _
        rw [now]
        exact .empty flag hollow
    · rename_i full
      rw [Bool.not_eq_false] at full
      rcases fileReadBuffer_socket socket present count with failed | ⟨some,short,copied⟩
      · rw [failed] at read
        obtain rfl := Except.ok.inj ((if_pos (show eof ≤ 0 by decide)).symm.trans read)
        simp only [Io.put_same]
        exact .refused (by simp)
      · rw [copied] at read
        obtain rfl := Except.ok.inj ((if_neg (show ¬ count % 65536 ≤ 0 by omega)).symm.trans read)
        simp only [Io.put_same]
        exact .taken flag full some short

theorem writeFile_socket {io : Io} {id : Nat} {source : Nat → UInt8} {count : Int} (socket : SocketFile (io.file id)) (some : 0 < count) :
    WritesSocket (io.file id) (.some source) count (writeFile io id source count).value ((writeFile io id source count).io.file id) := by
  have descriptor := socket.descriptor
  have dispatch : writeFile io id source count = writeSocket io id source count := by
    simp only [writeFile,socket.writable,socket.object,Bool.true_eq_false,if_false,
      if_neg (show ¬ ((io.file id).descriptor = 0 ∨ (io.file id).descriptor = 2) by omega),
      if_neg (show ¬ (io.file id).descriptor = 1 by omega)]
  have same : io.credited.file id = io.file id := rfl
  rw [dispatch]
  unfold writeSocket
  simp only [same]
  split
  · rename_i closed
    exact .refused (by simp) (.inl closed)
  · rename_i flag
    split
    · rename_i full
      have now : ∀ f : File, ((Io.ready (io.credited.put id f) (io.file id).tidWaiting).yielded).file id = f := fun f => Io.put_same _ _ _
      simp only [now]
      exact .full _ flag full
    · rename_i hollow
      rw [Bool.not_eq_true] at hollow
      by_cases long : bufsiz ≤ count
      · have now : ∀ f : File, (Io.yielded (io.credited.put id f)).file id = f := fun f => Io.put_same _ _ _
        have failed : fileWriteBuffer {io.file id with flags := 0} (.some source) count = ⟨eof,{io.file id with flags := 0},none⟩ := by
          simp only [fileWriteBuffer,long,if_true]
        simp only [failed,if_pos (show eof ≤ 0 by decide),now]
        exact .long flag hollow (by simp) long
      · have done : fileWriteBuffer {io.file id with flags := 0} (.some source) count =
            ⟨count,{io.file id with flags := 0,base := memcpy (io.file id).base 0 source count.toNat},.some ⟨0,count.toNat⟩⟩ := by
          simp only [fileWriteBuffer,long,if_false,socket.object,writeMessage,memcpyLength_small (Int.le_of_lt some) (by omega)]
        simp only [done,if_neg (show ¬ count ≤ 0 by omega),Io.put_same]
        exact .stored source _ flag hollow rfl some (by omega)

-- The calls that any process makes, between which the scheduler may do anything.
inductive IoCall where
  | switch (k : Kernel)
  | read (fd : Int) (ubuf : UInt64) (count : Int)
  | write (fd : Int) (ubuf : Option (Nat → UInt8)) (count : Int)

-- A call with the file it looks up and what it returns.
structure IoEvent where
  call : IoCall
  target : Option Nat
  value : Int
  given : List UInt8

inductive IoStep (io : Io) : IoEvent → Io → Prop where
  | switch (k : Kernel) : IoStep io ⟨.switch k,none,0,[]⟩ {io with kernel := k}
  | read : readImp io fd ubuf count = .ok answer →
      IoStep io ⟨.read fd ubuf count,getFileFromFd io fd,answer.value,answer.given⟩ answer.io
  | write : writeImp io fd ubuf count = answer →
      IoStep io ⟨.write fd ubuf count,getFileFromFd io fd,answer.value,answer.given⟩ answer.io

-- What a step does to the file of a socket.
inductive SocketStep (id : Nat) (f : File) (e : IoEvent) : File → Prop where
  | apart : e.target ≠ some id → SocketStep id f e f
  | read : e.target = some id → e.call = .read fd ubuf count → ReadsSocket f count e.value e.given g → SocketStep id f e g
  | write : e.target = some id → e.call = .write fd ubuf count → WritesSocket f ubuf count e.value g → SocketStep id f e g

theorem ioStep_other {io after : Io} {e : IoEvent} {id : Nat} (step : IoStep io e after) (other : e.target ≠ some id) :
    after.file id = io.file id := by
  cases step with
  | switch k => rfl
  | read read => exact (readImp_touches read).other other
  | write wrote =>
      subst wrote
      exact (writeImp_touches io _ _ _).other other

theorem ioStep_socket {io after : Io} {e : IoEvent} {id : Nat} (socket : SocketFile (io.file id)) (step : IoStep io e after) :
    SocketStep id (io.file id) e (after.file id) := by
  by_cases target : e.target = some id
  · cases step with
    | switch k => cases target
    | read read =>
        refine .read target rfl ?_
        rcases readImp_cases read with ⟨refused,nothing,same⟩ | ⟨j,found,present,_,served⟩
        · simp only [nothing,same]
          exact .refused refused
        · obtain rfl := Option.some.inj (found.symm.trans target)
          exact readFile_socket socket present served
    | write wrote =>
        refine .write target rfl ?_
        rcases writeImp_cases wrote with ⟨⟨refused,_,same⟩,reason⟩ | ⟨j,source,found,rfl,some,served⟩
        · simp only [same]
          simp only at target
          rw [target] at reason
          exact .refused refused (.inr (reason.resolve_left (by simp)))
        · obtain rfl := Option.some.inj (found.symm.trans target)
          rw [served]
          exact writeFile_socket socket some
  · rw [ioStep_other step target]
    exact .apart target

theorem SocketStep.keeps {id : Nat} {f g : File} {e : IoEvent} (socket : SocketFile f) (step : SocketStep id f e g) : SocketFile g := by
  obtain ⟨call,target,value,given⟩ := e
  cases step with
  | apart _ => exact socket
  | read _ _ read =>
      cases read with
      | refused _ => exact socket
      | empty _ _ => exact ⟨socket.object,socket.valid,socket.descriptor,socket.size,socket.readable,socket.writable⟩
      | taken _ _ _ _ => exact ⟨socket.object,socket.valid,socket.descriptor,socket.size,socket.readable,socket.writable⟩
  | write _ _ wrote =>
      cases wrote with
      | refused _ _ => exact socket
      | full _ _ _ => exact ⟨socket.object,socket.valid,socket.descriptor,socket.size,socket.readable,socket.writable⟩
      | long _ _ _ _ => exact ⟨socket.object,socket.valid,socket.descriptor,socket.size,socket.readable,socket.writable⟩
      | stored _ _ _ _ _ _ _ => exact ⟨socket.object,socket.valid,socket.descriptor,socket.size,socket.readable,socket.writable⟩

-- The two states of a socket file that works.
def Ready (f : File) : Prop :=
  f.socketBufferFull = false ∧ f.flags = swr ∨ f.socketBufferFull = true ∧ f.flags = srd

-- A write of BUFSIZ bytes or more to an empty buffer.
def IoEvent.Overlong (id : Nat) (f : File) (e : IoEvent) : Prop :=
  e.target = some id ∧ f.socketBufferFull = false ∧ ∃ fd ubuf count, e.call = .write fd ubuf count ∧ ubuf ≠ none ∧ bufsiz ≤ count

theorem SocketStep.ready {id : Nat} {f g : File} {e : IoEvent} (ready : Ready f) (step : SocketStep id f e g) (fits : ¬ e.Overlong id f) :
    Ready g := by
  obtain ⟨call,target,value,given⟩ := e
  cases step with
  | apart _ => exact ready
  | read _ _ read =>
      cases read with
      | refused _ => exact ready
      | empty _ hollow => exact .inl ⟨hollow,rfl⟩
      | taken flag full _ _ =>
          refine .inl ⟨rfl,?_⟩
          rcases ready with ⟨hollow,_⟩ | ⟨_,flags⟩
          · rw [full] at hollow
            cases hollow
          · simp only [flags]
            decide
  | write found made wrote =>
      cases wrote with
      | refused _ _ => exact ready
      | full _ _ full => exact .inr ⟨full,rfl⟩
      | long _ hollow present long => exact absurd ⟨found,hollow,_,_,_,made,present,long⟩ fits
      | stored _ _ _ _ _ _ _ => exact .inr ⟨rfl,rfl⟩

-- The permission bits fit the buffer, and one of them is set.
def Live (f : File) : Prop :=
  (f.flags &&& srd ≠ 0 ∨ f.flags &&& swr ≠ 0) ∧ (f.socketBufferFull = true → f.flags &&& srd ≠ 0) ∧
    (f.socketBufferFull = false → f.flags &&& swr ≠ 0)

theorem Ready.live {f : File} (ready : Ready f) : Live f := by
  rcases ready with ⟨hollow,flags⟩ | ⟨full,flags⟩
  · refine ⟨.inr (by rw [flags]; decide),?_,fun _ => by rw [flags]; decide⟩
    intro full
    rw [hollow] at full
    cases full
  · refine ⟨.inl (by rw [flags]; decide),fun _ => by rw [flags]; decide,?_⟩
    intro hollow
    rw [full] at hollow
    cases hollow

-- An overlong write leaves neither bit.
theorem SocketStep.wedged {id : Nat} {f g : File} {e : IoEvent} (ready : Ready f) (step : SocketStep id f e g) (long : e.Overlong id f) :
    g.flags = 0 := by
  obtain ⟨call,target,value,given⟩ := e
  obtain ⟨found,hollow,fd,ubuf,count,made,present,long⟩ := long
  have flags : f.flags = swr := by
    rcases ready with ⟨_,flags⟩ | ⟨full,_⟩
    · exact flags
    · rw [hollow] at full
      cases full
  simp only [bufsiz] at long
  cases step with
  | apart other => exact absurd found other
  | read _ other _ =>
      rw [made] at other
      cases other
  | write _ same wrote =>
      rw [made] at same
      cases same
      cases wrote with
      | refused _ reason =>
          rw [flags] at reason
          rcases reason with closed | absent | nothing
          · exact absurd closed (by decide)
          · exact absurd absent present
          · omega
      | full _ _ full =>
          rw [hollow] at full
          cases full
      | long _ _ _ _ => rfl
      | stored _ _ _ _ _ _ short =>
          simp only [bufsiz] at short long
          omega

-- A failed call leaves the message alone, and only an empty buffer is written.
structure KeepsMessage (f g : File) (e : IoEvent) : Prop where
  failed : e.value < 0 → g.base = f.base ∧ g.socketBufferFull = f.socketBufferFull
  written : g.base ≠ f.base → f.socketBufferFull = false

theorem SocketStep.keepsMessage {id : Nat} {f g : File} {e : IoEvent} (step : SocketStep id f e g) : KeepsMessage f g e := by
  obtain ⟨call,target,value,given⟩ := e
  cases step with
  | apart _ => exact ⟨fun _ => ⟨rfl,rfl⟩,fun changed => absurd rfl changed⟩
  | read _ _ read =>
      cases read with
      | refused _ => exact ⟨fun _ => ⟨rfl,rfl⟩,fun changed => absurd rfl changed⟩
      | empty _ _ => exact ⟨fun _ => ⟨rfl,rfl⟩,fun changed => absurd rfl changed⟩
      | taken _ _ some _ => exact ⟨fun failed => absurd failed (Int.not_lt.mpr (Int.le_of_lt some)),fun changed => absurd rfl changed⟩
  | write _ _ wrote =>
      cases wrote with
      | refused _ _ => exact ⟨fun _ => ⟨rfl,rfl⟩,fun changed => absurd rfl changed⟩
      | full _ _ _ => exact ⟨fun _ => ⟨rfl,rfl⟩,fun changed => absurd rfl changed⟩
      | long _ _ _ _ => exact ⟨fun _ => ⟨rfl,rfl⟩,fun changed => absurd rfl changed⟩
      | stored _ _ _ hollow _ some _ => exact ⟨fun failed => absurd failed (Int.not_lt.mpr (Int.le_of_lt some)),fun _ => hollow⟩

theorem socketFile_new {slot : Int} (place : 3 ≤ slot) (sock : Nat) (buff : Int → UInt8) : SocketFile (socketFile slot sock buff) :=
  ⟨rfl,⟨rfl,rfl⟩,place,rfl,rfl,rfl⟩

theorem socket_file_stays_live {io after : Io} {events : List IoEvent} {id : Nat} {slot : Int} {sock : Nat} {buff : Int → UInt8}
    (place : 3 ≤ slot) (new : io.file id = socketFile slot sock buff)
    (run : Runs.Path (fun io e after => IoStep io e after ∧ ¬ e.Overlong id (io.file id)) io events after) :
    Live (after.file id) ∧ ∀ e next, IoStep after e next →
      KeepsMessage (after.file id) (next.file id) e ∧ (Live (next.file id) ↔ ¬ e.Overlong id (after.file id)) := by
  have start : SocketFile (io.file id) ∧ Ready (io.file id) := by
    rw [new]
    exact ⟨socketFile_new place sock buff,.inl ⟨rfl,rfl⟩⟩
  obtain ⟨socket,ready⟩ := run.invariant (fun io => SocketFile (io.file id) ∧ Ready (io.file id))
    (fun _ _ _ kept taken => ⟨(ioStep_socket kept.1 taken.1).keeps kept.1,(ioStep_socket kept.1 taken.1).ready kept.2 taken.2⟩) start
  refine ⟨ready.live,?_⟩
  intro e next taken
  have step := ioStep_socket socket taken
  refine ⟨step.keepsMessage,?_,fun fits => (step.ready ready fits).live⟩
  intro live long
  rcases live.1 with read | write
  · rw [step.wedged ready long] at read
    exact read (by decide)
  · rw [step.wedged ready long] at write
    exact write (by decide)

-- The process of the freshly booted kernel with a socket as descriptor 3.
def bootIo : Io := ⟨bootKernel,fun _ => socketFile 3 0 fun _ => 0,fun _ fd => if fd = 3 then some 0 else none,fun _ _ => 0⟩

-- One message of four bytes.
theorem socket_file_stays_live_once : Live ((writeImp bootIo 3 (some fun _ => 0x41) 4).io.file 0) :=
  (socket_file_stays_live (by decide) rfl (.cons ⟨.write rfl,fun long => by
    obtain ⟨_,_,fd,ubuf,count,made,_,long⟩ := long
    cases made
    revert long
    decide⟩ .nil)).1

-- Once neither bit is set, no call changes anything.
theorem SocketStep.stuck {id : Nat} {f g : File} {e : IoEvent} (closed : f.flags = 0) (step : SocketStep id f e g) : g.flags = 0 := by
  obtain ⟨call,target,value,given⟩ := e
  have none : ∀ bit : UInt16, ¬ f.flags &&& bit ≠ 0 := by
    intro bit set
    rw [closed] at set
    exact set (UInt16.zero_and)
  cases step with
  | apart _ => exact closed
  | read _ _ read =>
      cases read with
      | refused _ => exact closed
      | empty set _ => exact absurd set (none srd)
      | taken set _ _ _ => exact absurd set (none srd)
  | write _ _ wrote =>
      cases wrote with
      | refused _ _ => exact closed
      | full _ set _ => exact absurd set (none swr)
      | long _ _ _ _ => rfl
      | stored _ _ set _ _ _ _ => exact absurd set (none swr)

theorem overlong_write_wedges : ¬ ∃ events after,
    Runs.Path IoStep (writeImp bootIo 3 (some fun _ => 0x41) 1024).io events after ∧ Live (after.file 0) := by
  rintro ⟨events,after,run,live⟩
  have socket : SocketFile (bootIo.file 0) := socketFile_new (by decide) 0 _
  have first : IoStep bootIo _ (writeImp bootIo 3 (some fun _ => 0x41) 1024).io := .write rfl
  have start : SocketFile ((writeImp bootIo 3 (some fun _ => 0x41) 1024).io.file 0) ∧
      ((writeImp bootIo 3 (some fun _ => 0x41) 1024).io.file 0).flags = 0 :=
    ⟨(ioStep_socket socket first).keeps socket,by decide⟩
  obtain ⟨_,closed⟩ := run.invariant (fun io => SocketFile (io.file 0) ∧ (io.file 0).flags = 0)
    (fun _ _ _ kept taken => ⟨(ioStep_socket kept.1 taken).keeps kept.1,(ioStep_socket kept.1 taken).stuck kept.2⟩) start
  rcases live.1 with read | write
  · rw [closed] at read
    exact read (by decide)
  · rw [closed] at write
    exact write (by decide)

-- The bytes of an accepted write to a file.
def IoEvent.message (id : Nat) (e : IoEvent) : Option (List UInt8) :=
  match e.call with
  | .write _ (some source) _ => if e.target = some id ∧ 0 < e.value then some ((List.range e.value.toNat).map source) else none
  | _ => none

def lastMessage (id : Nat) (events : List IoEvent) : Option (List UInt8) :=
  events.foldl (fun last e => (e.message id).or last) none

theorem lastMessage_snoc (id : Nat) (events : List IoEvent) (e : IoEvent) :
    lastMessage id (events ++ [e]) = (e.message id).or (lastMessage id events) := by
  simp [lastMessage]

theorem message_refused {id : Nat} {e : IoEvent} (refused : e.value ≤ 0) : e.message id = none := by
  unfold IoEvent.message
  split
  · exact if_neg (by omega)
  · rfl

-- A full buffer begins with the last message.
def Holding (id : Nat) (events : List IoEvent) (f : File) : Prop :=
  f.socketBufferFull = true → ∃ message, lastMessage id events = some message ∧ (message.length : Int) < bufsiz ∧
    bytesAt f.base 0 message.length = message

theorem SocketStep.holding {id : Nat} {f g : File} {e : IoEvent} {events : List IoEvent} (holding : Holding id events f)
    (step : SocketStep id f e g) : Holding id (events ++ [e]) g := by
  obtain ⟨call,target,value,bytes⟩ := e
  intro full
  rw [lastMessage_snoc]
  cases step with
  | apart other =>
      have none : IoEvent.message id ⟨call,target,value,bytes⟩ = .none := by
        unfold IoEvent.message
        split
        · exact if_neg fun both => other both.1
        · rfl
      rw [none,Option.none_or]
      exact holding full
  | read _ made read =>
      have none : IoEvent.message id ⟨call,target,value,bytes⟩ = .none := by
        simp only [IoEvent.message,show call = _ from made]
      rw [none,Option.none_or]
      cases read with
      | refused _ => exact holding full
      | empty _ hollow =>
          rw [show f.socketBufferFull = true from full] at hollow
          cases hollow
      | taken _ _ _ _ => cases full
  | write found made wrote =>
      cases wrote with
      | refused refused _ =>
          rw [message_refused refused,Option.none_or]
          exact holding full
      | full _ _ held =>
          rw [message_refused (by simp),Option.none_or]
          exact holding held
      | long _ hollow _ _ =>
          rw [show f.socketBufferFull = true from full] at hollow
          cases hollow
      | stored source waiting _ _ given some short =>
          have message : IoEvent.message id ⟨call,target,value,bytes⟩ = .some ((List.range value.toNat).map source) := by
            simp only [IoEvent.message,show call = _ from made,given]
            exact if_pos ⟨found,some⟩
          refine ⟨(List.range value.toNat).map source,by rw [message,Option.some_or],?_,?_⟩
          · simp only [List.length_map,List.length_range]
            simp only at some short
            omega
          · simp only [List.length_map,List.length_range]
            exact bytesAt_copied f.base 0 source (Nat.le_refl _)

-- A read that succeeds gives the bytes of the last message exactly when it asks
-- for no more of them, or for their number and a multiple of 65536 more.
theorem socket_read_exact_iff {io after : Io} {events : List IoEvent} {id : Nat} {slot : Int} {sock : Nat} {buff : Int → UInt8}
    (place : 3 ≤ slot) (new : io.file id = socketFile slot sock buff) (run : Runs.Path IoStep io events after)
    {fd : Int} {ubuf : UInt64} {count : Int} {answer : Answer} (target : getFileFromFd after fd = some id)
    (read : readImp after fd ubuf count = .ok answer) (success : 0 < answer.value) :
    ∃ message, lastMessage id events = some message ∧
      ((answer.value = min count message.length ∧ answer.given = message.take count.toNat) ↔
        count ≤ message.length ∨ count % 65536 = message.length) := by
  have start : SocketFile (io.file id) ∧ Holding id [] (io.file id) := by
    rw [new]
    refine ⟨socketFile_new place sock buff,?_⟩
    intro full
    cases full
  obtain ⟨socket,holding⟩ := run.history (fun events io => SocketFile (io.file id) ∧ Holding id events (io.file id))
    (fun _ _ _ _ kept taken => ⟨(ioStep_socket kept.1 taken).keeps kept.1,(ioStep_socket kept.1 taken).holding kept.2⟩) start
  rcases readImp_cases read with ⟨refused,_,_⟩ | ⟨j,found,present,positive,served⟩
  · omega
  · obtain rfl := Option.some.inj (found.symm.trans target)
    have value : (after.file j).socketBufferFull = true ∧ 0 < count % 65536 ∧ answer.value = count % 65536 ∧
        answer.given = bytesAt (after.file j).base 0 (count % 65536).toNat := by
      obtain ⟨value,given,next⟩ := answer
      have step := readFile_socket socket present served
      simp only at step success
      generalize next.file j = g at step
      cases step with
      | refused refused => omega
      | empty _ _ => exact absurd success (by decide)
      | taken _ full some _ => exact ⟨full,some,rfl,rfl⟩
    obtain ⟨full,some,value,given⟩ := value
    obtain ⟨message,last,short,held⟩ := holding full
    simp only [bufsiz] at short
    refine ⟨message,last,?_⟩
    rw [value,given]
    constructor
    · rintro ⟨least,_⟩
      omega
    · rintro (few | wrapped)
      · have whole : count % 65536 = count := Int.emod_eq_of_lt (by omega) (by omega)
        refine ⟨by omega,?_⟩
        rw [whole,bytesAt_take _ _ (show count.toNat ≤ message.length by omega),held]
      · have length : (count % 65536).toNat = message.length := by omega
        refine ⟨by omega,?_⟩
        rw [length,held,List.take_of_length_le (by omega)]

-- Two of four bytes.
theorem socket_read_exact_once : ∃ answer, readImp (writeImp bootIo 3 (some fun _ => 0x41) 4).io 3 1 2 = .ok answer ∧
    answer.given = [0x41,0x41] := by
  obtain ⟨answer,read⟩ : ∃ answer, readImp (writeImp bootIo 3 (some fun _ => 0x41) 4).io 3 1 2 = .ok answer := ⟨_,rfl⟩
  have success : 0 < answer.value := by
    obtain rfl := Except.ok.inj read
    decide
  have new : bootIo.file 0 = socketFile 3 0 fun _ => 0 := rfl
  have target : getFileFromFd (writeImp bootIo 3 (some fun _ => 0x41) 4).io 3 = some 0 := by decide
  obtain ⟨message,last,exactly⟩ := socket_read_exact_iff (by decide) new (.cons (.write rfl) .nil) target read success
  obtain rfl : [0x41,0x41,0x41,0x41] = message := Option.some.inj last
  exact ⟨answer,read,(exactly.mpr (.inl (by decide))).2⟩

-- A message of four bytes, read, and then one of one byte: a read of four bytes
-- gives three of the earlier message.
theorem stale_bytes_read : ∃ first last, readImp (writeImp bootIo 3 (some fun _ => 0x41) 4).io 3 1 4 = .ok first ∧
    (writeImp first.io 3 (some fun _ => 0x42) 1).value = 1 ∧
    readImp (writeImp first.io 3 (some fun _ => 0x42) 1).io 3 1 4 = .ok last ∧
    last.value = 4 ∧ last.given = [0x42,0x41,0x41,0x41] := by
  refine ⟨_,_,rfl,by decide,rfl,by decide,by decide⟩

end GramadoKernel
