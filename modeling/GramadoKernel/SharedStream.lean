import GramadoKernel.Duplicates

namespace GramadoKernel

-- What sys_dup makes the same in both structures, the buffer being one memory.
structure OneBuffer (f g : File) : Prop where
  object : g.object = f.object
  used : g.used = f.used
  magic : g.magic = f.magic
  lbfsize : g.lbfsize = f.lbfsize
  base : g.base = f.base

-- The rest of what the two routines on buffers look at.
structure SameOffsets (f g : File) : Prop where
  r : g.r = f.r
  w : g.w = f.w
  cnt : g.cnt = f.cnt

structure SameView (f g : File) : Prop where
  buffer : OneBuffer f g
  offsets : SameOffsets f g

structure Transfer.SameView (t u : Transfer) : Prop where
  value : u.value = t.value
  copied : u.copied = t.copied
  file : GramadoKernel.SameView t.file u.file

theorem SameOffsets.trans {f g h : File} (one : SameOffsets f g) (two : SameOffsets g h) : SameOffsets f h :=
  ⟨two.r.trans one.r,two.w.trans one.w,two.cnt.trans one.cnt⟩

-- A branch that both calls take for the same reason.
theorem Transfer.SameView.branch {c : Prop} [Decidable c] {t t' u u' : Transfer} (yes : c → t.SameView u) (no : ¬ c → t'.SameView u') :
    (if c then t else t').SameView (if c then u else u') := by
  by_cases h : c
  · rw [if_pos h,if_pos h]
    exact yes h
  · rw [if_neg h,if_neg h]
    exact no h

-- The fields that the two routines do not look at.
theorem SameView.shape {f g : File} (same : SameView f g) : ∃ descriptor full socket p flags sync waiting,
    g = {f with
      descriptor := descriptor
      socketBufferFull := full
      socket := socket
      p := p
      flags := flags
      sync := sync
      tidWaiting := waiting} := by
  obtain ⟨⟨object,used,magic,lbfsize,base⟩,⟨r,w,cnt⟩⟩ := same
  refine ⟨g.descriptor,g.socketBufferFull,g.socket,g.p,g.flags,g.sync,g.tidWaiting,?_⟩
  rw [← object,← used,← magic,← lbfsize,← base,← r,← w,← cnt]

section Views

variable {f g : File}

theorem SameView.readStream (same : SameView f g) (count : Int) : (readStream f count).SameView (readStream g count) := by
  obtain ⟨_,_,_,_,_,_,_,rfl⟩ := same.shape
  unfold GramadoKernel.readStream
  iterate 7 refine .branch (fun _ => ⟨rfl,rfl,⟨rfl,rfl,rfl,rfl,rfl⟩,rfl,rfl,rfl⟩) fun _ => ?_
  exact ⟨rfl,rfl,⟨rfl,rfl,rfl,rfl,rfl⟩,rfl,rfl,rfl⟩

theorem SameView.writeStream (same : SameView f g) (string : Nat → UInt8) (len : Int) :
    (writeStream f string len).SameView (writeStream g string len) := by
  obtain ⟨_,_,_,_,_,_,_,rfl⟩ := same.shape
  unfold GramadoKernel.writeStream
  iterate 4 refine .branch (fun _ => ⟨rfl,rfl,⟨rfl,rfl,rfl,rfl,rfl⟩,rfl,rfl,rfl⟩) fun _ => ?_
  by_cases more : f.lbfsize < f.cnt
  · simp only [if_pos more,if_neg (Int.lt_irrefl 0)]
    iterate 2 refine .branch (fun _ => ⟨rfl,rfl,⟨rfl,rfl,rfl,rfl,rfl⟩,rfl,rfl,rfl⟩) fun _ => ?_
    exact ⟨rfl,rfl,⟨rfl,rfl,rfl,rfl,rfl⟩,rfl,rfl,rfl⟩
  · simp only [if_neg more]
    iterate 2 refine .branch (fun _ => ⟨rfl,rfl,⟨rfl,rfl,rfl,rfl,rfl⟩,rfl,rfl,rfl⟩) fun _ => ?_
    by_cases behind : f.w < f.r
    · simp only [if_pos behind]
      exact ⟨rfl,rfl,⟨rfl,rfl,rfl,rfl,rfl⟩,rfl,rfl,rfl⟩
    · simp only [if_neg behind]
      exact ⟨rfl,rfl,⟨rfl,rfl,rfl,rfl,rfl⟩,rfl,rfl,rfl⟩

theorem SameView.readMessage (same : SameView f g) (count : Int) : (readMessage f count).SameView (readMessage g count) := by
  obtain ⟨_,_,_,_,_,_,_,rfl⟩ := same.shape
  exact ⟨rfl,rfl,⟨rfl,rfl,rfl,rfl,rfl⟩,rfl,rfl,rfl⟩

theorem SameView.writeMessage (same : SameView f g) (string : Nat → UInt8) (len : Int) :
    (writeMessage f string len).SameView (writeMessage g string len) := by
  obtain ⟨_,_,_,_,_,_,_,rfl⟩ := same.shape
  exact ⟨rfl,rfl,⟨rfl,rfl,rfl,rfl,rfl⟩,rfl,rfl,rfl⟩

theorem SameView.valid (same : SameView f g) : g.Valid ↔ f.Valid := by
  unfold File.Valid
  rw [same.buffer.used,same.buffer.magic]

-- The two routines do not tell structures apart that are alike.
theorem SameView.transfer (same : SameView f g) (call : StreamCall) : (call.transfer f).SameView (call.transfer g) := by
  cases call with
  | read buffer len =>
      simp only [StreamCall.transfer,fileReadBuffer,same.valid,same.buffer.object,same.buffer.lbfsize]
      iterate 4 refine .branch (fun _ => ⟨rfl,rfl,same⟩) fun _ => ?_
      cases f.object with
      | socket => exact same.readMessage _
      | pipe => exact same.readMessage _
      | file => exact same.readStream _
      | tty => exact same.readStream _
      | ioBuffer => exact same.readStream _
      | virtualConsole => exact ⟨rfl,rfl,same⟩
      | nic => exact ⟨rfl,rfl,same⟩
      | ptmx => exact ⟨rfl,rfl,same⟩
      | pty => exact ⟨rfl,rfl,same⟩
      | fileSystem => exact ⟨rfl,rfl,same⟩
      | other => exact ⟨rfl,rfl,same⟩
  | write string len =>
      cases string with
      | none => exact ⟨rfl,rfl,same⟩
      | some string =>
          simp only [StreamCall.transfer,fileWriteBuffer,same.buffer.object]
          refine .branch (fun _ => ⟨rfl,rfl,same⟩) fun _ => ?_
          cases f.object with
          | socket => exact same.writeMessage _ _
          | pipe => exact same.writeMessage _ _
          | file => exact same.writeStream _ _
          | tty => exact same.writeStream _ _
          | ioBuffer => exact same.writeStream _ _
          | virtualConsole => exact ⟨rfl,rfl,same⟩
          | nic => exact ⟨rfl,rfl,same⟩
          | ptmx => exact ⟨rfl,rfl,same⟩
          | pty => exact ⟨rfl,rfl,same⟩
          | fileSystem => exact ⟨rfl,rfl,same⟩
          | other => exact ⟨rfl,rfl,same⟩

end Views

-- The descriptor of a call.
inductive View where
  | original | duplicate
  deriving DecidableEq

-- The structures of the two descriptors, which look at one buffer, and the
-- descriptor that was used last.
structure Sharing where
  original : File
  duplicate : File
  last : View

def Sharing.file (s : Sharing) : View → File
  | .original => s.original
  | .duplicate => s.duplicate

-- A call that comes back before it has looked at the offsets.
def Refused (f : File) : StreamCall → Prop
  | .read buffer len => buffer = 0 ∨ len % 65536 = 0 ∨ f.lbfsize < len % 65536 ∨ 8*1024 < f.lbfsize
  | .write string len => string.isNone ∨ bufsiz ≤ len ∨ bufsiz < f.lbfsize

instance (f : File) (call : StreamCall) : Decidable (Refused f call) :=
  match call with
  | .read _ _ => inferInstanceAs (Decidable (_ ∨ _ ∨ _ ∨ _))
  | .write _ _ => inferInstanceAs (Decidable (_ ∨ _ ∨ _))

-- A call through one of the descriptors. What it writes to the buffer is there
-- for the other one too.
def Sharing.after (s : Sharing) (view : View) (call : StreamCall) : Sharing :=
  let f := (call.transfer (s.file view)).file
  let last := if Refused (s.file view) call then s.last else view
  match view with
  | .original => ⟨f,{s.duplicate with base := f.base},last⟩
  | .duplicate => ⟨{s.original with base := f.base},f,last⟩

def Shares (s : Sharing) (e : View × StreamEvent) (t : Sharing) : Prop :=
  e.2.transfer = e.2.call.transfer (s.file e.1) ∧ t = s.after e.1 e.2.call

-- The offsets of the descriptor are those of the one used last, or do not matter.
def Abreast (s : Sharing) (e : View × StreamEvent) : Prop :=
  SameOffsets (s.file s.last) (s.file e.1) ∨ Refused (s.file e.1) e.2.call

-- The two descriptors after sys_dup.
def Io.sharing (io : Io) (pid oldfd newfd : Nat) : Option Sharing :=
  match io.objects pid oldfd,io.objects pid newfd with
  | some old,some new => some ⟨io.file old,io.file new,.original⟩
  | _,_ => none

-- All calls on one file.
def alone (f : File) : List StreamCall → List StreamEvent
  | [] => []
  | call :: rest => call.on f :: alone (call.transfer f).file rest

def File.afterCalls (f : File) (calls : List StreamCall) : File := calls.foldl (fun f call => (call.transfer f).file) f

-- What the caller sees of a call.
def StreamEvent.seen (e : StreamEvent) : Int × List UInt8 × List UInt8 := (e.transfer.value,e.returned,e.accepted)

theorem alone_append (f : File) (calls : List StreamCall) (call : StreamCall) :
    alone f (calls ++ [call]) = alone f calls ++ [call.on (f.afterCalls calls)] := by
  induction calls generalizing f with
  | nil => rfl
  | cons first rest ih =>
      simp only [List.cons_append,alone,ih]
      rfl

theorem afterCalls_append (f : File) (calls : List StreamCall) (call : StreamCall) :
    f.afterCalls (calls ++ [call]) = (call.transfer (f.afterCalls calls)).file := by
  simp [File.afterCalls]

-- What no call on the file changes.
structure SameStream (f g : File) : Prop where
  object : g.object = f.object
  used : g.used = f.used
  magic : g.magic = f.magic
  lbfsize : g.lbfsize = f.lbfsize

theorem SameStream.refl (f : File) : SameStream f f := ⟨rfl,rfl,rfl,rfl⟩

theorem SameStream.branch {c : Prop} [Decidable c] {f : File} {t u : Transfer} (yes : SameStream f t.file) (no : SameStream f u.file) :
    SameStream f (if c then t else u).file := by
  by_cases h : c
  · rwa [if_pos h]
  · rwa [if_neg h]

theorem readStream_same (f : File) (count : Int) : SameStream f (readStream f count).file := by
  unfold readStream
  iterate 7 refine .branch ⟨rfl,rfl,rfl,rfl⟩ ?_
  exact ⟨rfl,rfl,rfl,rfl⟩

theorem writeStream_same (f : File) (string : Nat → UInt8) (len : Int) : SameStream f (writeStream f string len).file := by
  unfold writeStream
  iterate 4 refine .branch ⟨rfl,rfl,rfl,rfl⟩ ?_
  by_cases more : f.lbfsize < f.cnt
  · simp only [if_pos more,if_neg (Int.lt_irrefl 0)]
    exact .branch ⟨rfl,rfl,rfl,rfl⟩ (.branch ⟨rfl,rfl,rfl,rfl⟩ ⟨rfl,rfl,rfl,rfl⟩)
  · simp only [if_neg more]
    refine .branch ⟨rfl,rfl,rfl,rfl⟩ (.branch ⟨rfl,rfl,rfl,rfl⟩ ?_)
    by_cases behind : f.w < f.r
    · simp only [if_pos behind]
      exact ⟨rfl,rfl,rfl,rfl⟩
    · simp only [if_neg behind]
      exact ⟨rfl,rfl,rfl,rfl⟩

theorem transfer_same {f : File} (regular : f.object = .file) (call : StreamCall) : SameStream f (call.transfer f).file := by
  cases call with
  | read buffer len =>
      simp only [StreamCall.transfer,fileReadBuffer,regular]
      exact .branch (.refl f) (.branch (.refl f) (.branch (.refl f) (.branch (.refl f) (readStream_same f _))))
  | write string len =>
      cases string with
      | none => exact .refl f
      | some string =>
          simp only [StreamCall.transfer,fileWriteBuffer,regular]
          exact .branch (.refl f) (writeStream_same f string len)

theorem transfer_refused {f : File} {call : StreamCall} (regular : f.object = .file) (valid : f.Valid) (refused : Refused f call) :
    call.transfer f = ⟨eof,f,none⟩ := by
  cases call with
  | read buffer len =>
      have count : 0 ≤ len % 65536 := Int.emod_nonneg _ (by omega)
      simp only [StreamCall.transfer,fileReadBuffer,regular,if_neg (not_not.mpr valid)]
      rcases refused with null | nothing | long | large
      · rw [if_pos null]
      · rw [if_pos (Int.le_of_eq nothing),ite_self]
      · rw [if_pos long,ite_self,ite_self]
      · simp only [readStream,if_pos large,ite_self]
  | write string len =>
      cases string with
      | none => rfl
      | some string =>
          simp only [StreamCall.transfer,fileWriteBuffer,regular]
          rcases refused with null | long | large
          · exact absurd null (by simp)
          · rw [if_pos long]
          · simp only [writeStream,if_pos large,ite_self]

theorem refused_iff {f g : File} (one : OneBuffer f g) (call : StreamCall) : Refused g call ↔ Refused f call := by
  cases call with
  | read buffer len => simp only [Refused,one.lbfsize]
  | write string len => simp only [Refused,one.lbfsize]

theorem seen_alike {call : StreamCall} {t u : Transfer} (same : t.SameView u) : StreamEvent.seen ⟨call,u⟩ = StreamEvent.seen ⟨call,t⟩ := by
  have given : u.given = t.given := by
    unfold Transfer.given
    rw [same.copied,same.file.buffer.base]
  cases call with
  | read buffer len => simp only [StreamEvent.seen,StreamEvent.returned,StreamEvent.accepted,same.value,given]
  | write string len =>
      cases string with
      | none => simp only [StreamEvent.seen,StreamEvent.returned,StreamEvent.accepted,same.value]
      | some string => simp only [StreamEvent.seen,StreamEvent.returned,StreamEvent.accepted,same.value]

-- The descriptor used last is where the file would be if it had been used alone.
structure Follows (s : Sharing) (f : File) : Prop where
  regular : f.object = .file
  valid : f.Valid
  buffer : ∀ view, OneBuffer f (s.file view)
  offsets : SameOffsets f (s.file s.last)

theorem Sharing.after_last (s : Sharing) (view : View) (call : StreamCall) :
    (s.after view call).last = if Refused (s.file view) call then s.last else view := by
  cases view with
  | original => rfl
  | duplicate => rfl

theorem Sharing.after_own (s : Sharing) (view : View) (call : StreamCall) :
    (s.after view call).file view = (call.transfer (s.file view)).file := by
  cases view with
  | original => rfl
  | duplicate => rfl

theorem Sharing.after_other (s : Sharing) {view other : View} (call : StreamCall) (apart : other ≠ view) :
    (s.after view call).file other = {s.file other with base := (call.transfer (s.file view)).file.base} := by
  cases view with
  | original =>
      cases other with
      | original => exact absurd rfl apart
      | duplicate => rfl
  | duplicate =>
      cases other with
      | original => rfl
      | duplicate => exact absurd rfl apart

theorem follows_refused {s : Sharing} {f : File} {view : View} {call : StreamCall} (follows : Follows s f)
    (refused : Refused (s.file view) call) :
    StreamEvent.seen (call.on (s.file view)) = (call.on f).seen ∧ Follows (s.after view call) (call.transfer f).file := by
  have own := follows.buffer view
  have nothing : call.transfer f = ⟨eof,f,none⟩ := transfer_refused follows.regular follows.valid ((refused_iff own call).mp refused)
  have valid : (s.file view).Valid := ⟨own.used.trans follows.valid.1,own.magic.trans follows.valid.2⟩
  have neither : call.transfer (s.file view) = ⟨eof,s.file view,none⟩ := transfer_refused (own.object.trans follows.regular) valid refused
  have still : ∀ v, (s.after view call).file v = s.file v := by
    intro v
    by_cases apart : v = view
    · rw [apart,Sharing.after_own,neither]
    · rw [Sharing.after_other s call apart,neither]
      simp only [own.base,← (follows.buffer v).base]
  refine ⟨?_,?_⟩
  · unfold StreamCall.on
    rw [nothing,neither]
    cases call with
    | read buffer len => rfl
    | write string len =>
        cases string with
        | none => rfl
        | some string => rfl
  · rw [nothing]
    refine ⟨follows.regular,follows.valid,fun v => ?_,?_⟩
    · rw [still]
      exact follows.buffer v
    · rw [still,Sharing.after_last,if_pos refused]
      exact follows.offsets

theorem follows_abreast {s : Sharing} {f : File} {view : View} {call : StreamCall} (follows : Follows s f)
    (offsets : SameOffsets (s.file s.last) (s.file view)) (looked : ¬ Refused (s.file view) call) :
    StreamEvent.seen (call.on (s.file view)) = (call.on f).seen ∧ Follows (s.after view call) (call.transfer f).file := by
  have alike : SameView f (s.file view) := ⟨follows.buffer view,follows.offsets.trans offsets⟩
  have both := alike.transfer call
  have same := transfer_same follows.regular call
  refine ⟨seen_alike both,same.object.trans follows.regular,⟨same.used.trans follows.valid.1,same.magic.trans follows.valid.2⟩,fun v => ?_,?_⟩
  · by_cases apart : v = view
    · rw [apart,Sharing.after_own]
      exact both.file.buffer
    · have other := follows.buffer v
      rw [Sharing.after_other s call apart]
      exact ⟨other.object.trans same.object.symm,other.used.trans same.used.symm,other.magic.trans same.magic.symm,
        other.lbfsize.trans same.lbfsize.symm,both.file.buffer.base⟩
  · rw [Sharing.after_last,if_neg looked,Sharing.after_own]
    exact both.file.offsets

theorem follows_step {s t : Sharing} {f : File} {e : View × StreamEvent} (follows : Follows s f) (taken : Shares s e t) (abreast : Abreast s e) :
    e.2.seen = (e.2.call.on f).seen ∧ Follows t (e.2.call.transfer f).file := by
  obtain ⟨view,call,transfer⟩ := e
  obtain ⟨made,rfl⟩ := taken
  simp only at made
  subst made
  by_cases refused : Refused (s.file view) call
  · exact follows_refused follows refused
  · rcases abreast with offsets | early
    · exact follows_abreast follows offsets refused
    · exact absurd early refused

-- A successful sys_dup.
theorem sysDup_made {io : Io} {oldfd : Int} {memory : Option Nat} {d : Duplication} (called : sysDup io oldfd memory = .ok d)
    (done : 0 ≤ d.value) : ∃ pid slot old new, Duplicated io oldfd memory pid slot old new ∧ d.value = slot ∧
      d.io = (io.put new ((io.file new).inherits (io.file old))).setObject pid slot (some new) := by
  cases sysDup_way called with
  | failed negative => exact absurd done (Int.not_le.mpr negative)
  | full => exact absurd done (show ¬ (0 : Int) ≤ -1 by decide)
  | cleared => exact absurd done (show ¬ (0 : Int) ≤ -1 by decide)
  | @made pid slot old new duplicated => exact ⟨pid,slot,old,new,duplicated,rfl,rfl⟩

theorem sysDup_follows {io : Io} {oldfd : Int} {memory : Option Nat} {d : Duplication} {pid : Nat} {start : Sharing}
    (called : sysDup io oldfd memory = .ok d) (done : 0 ≤ d.value) (own : currentProcess io.kernel = some pid)
    (both : d.io.sharing pid oldfd.toNat d.value.toNat = some start) (regular : start.original.object = .file)
    (valid : start.original.Valid) : Follows start start.original := by
  obtain ⟨pid',slot,old,new,duplicated,value,made⟩ := sysDup_made called done
  obtain rfl := Option.some.inj (own.symm.trans duplicated.current)
  have source := duplicated.source
  have apart : oldfd.toNat ≠ slot := by
    intro same
    rw [same,(freeDescriptor_some duplicated.free).2.2] at source
    cases source
  have kept : d.io.objects pid oldfd.toNat = some old := by
    rw [made,setObject_objects,if_neg fun both => apart both.2]
    exact source
  have opened : d.io.objects pid d.value.toNat = some new := by
    rw [made,setObject_objects,value,if_pos ⟨rfl,rfl⟩]
  unfold Io.sharing at both
  rw [kept,opened] at both
  cases both
  refine ⟨regular,valid,fun view => ?_,⟨rfl,rfl,rfl⟩⟩
  cases view with
  | original => exact ⟨rfl,rfl,rfl,rfl,rfl⟩
  | duplicate =>
      by_cases self : old = new
      · rw [self]
        exact ⟨rfl,rfl,rfl,rfl,rfl⟩
      · have dup : d.io.file new = (io.file new).inherits (io.file old) := by
          rw [made]
          exact Io.put_same io new _
        have left : d.io.file old = io.file old := by
          rw [made]
          exact Io.put_other io _ self
        rw [left] at valid
        rw [Sharing.file,dup,left]
        exact ⟨rfl,valid.1.symm,valid.2.symm,rfl,rfl⟩

-- What the calls through the two descriptors give is what they give through one,
-- as long as a descriptor is only used where the one used before it left off.
theorem duplicate_same_stream {io : Io} {oldfd : Int} {memory : Option Nat} {d : Duplication} {pid : Nat} {start s : Sharing}
    {events : List (View × StreamEvent)} (called : sysDup io oldfd memory = .ok d) (done : 0 ≤ d.value)
    (own : currentProcess io.kernel = some pid) (both : d.io.sharing pid oldfd.toNat d.value.toNat = some start)
    (regular : start.original.object = .file) (valid : start.original.Valid)
    (run : Runs.Path (fun s e t => Shares s e t ∧ Abreast s e) start events s) :
    events.map (fun e => e.2.seen) = (alone start.original (events.map fun e => e.2.call)).map StreamEvent.seen := by
  have along : events.map (fun e => e.2.seen) = (alone start.original (events.map fun e => e.2.call)).map StreamEvent.seen ∧
      Follows s (start.original.afterCalls (events.map fun e => e.2.call)) := by
    refine run.history (fun events s => events.map (fun e => e.2.seen) = (alone start.original (events.map fun e => e.2.call)).map
      StreamEvent.seen ∧ Follows s (start.original.afterCalls (events.map fun e => e.2.call))) ?_
      ⟨rfl,sysDup_follows called done own both regular valid⟩
    intro events s e t before taken
    obtain ⟨same,next⟩ := follows_step before.2 taken.1 taken.2
    simp only [List.map_append,List.map_cons,List.map_nil,alone_append,afterCalls_append,before.1,same]
    exact ⟨trivial,next⟩
  exact along.1

-- A regular file behind the descriptor 3; the memory that kmalloc gives to its
-- duplicate holds a zero read offset and a zero write offset.
def streamIo : Io := ⟨bootKernel,fun _ => smallFile,fun _ fd => if fd = 3 then some 0 else none,fun _ _ => 0⟩

def streamDup : Duplication := ⟨4,none,[4],(streamIo.put 7 (smallFile.inherits smallFile)).setObject 1 4 (some 7)⟩

theorem streamDup_called : sysDup streamIo 3 (some 7) = .ok streamDup := rfl

def streamShared : Sharing := ⟨smallFile,smallFile.inherits smallFile,.original⟩

theorem streamDup_sharing : streamDup.io.sharing 1 3 4 = some streamShared := by
  have kept : streamDup.io.objects 1 3 = some 0 := rfl
  have opened : streamDup.io.objects 1 4 = some 7 := rfl
  have old : streamDup.io.file 0 = smallFile := @Io.put_other streamIo 7 0 (smallFile.inherits smallFile) (by decide)
  have new : streamDup.io.file 7 = smallFile.inherits smallFile := Io.put_same streamIo 7 (smallFile.inherits smallFile)
  unfold Io.sharing
  rw [kept,opened]
  simp only [old,new]
  rfl

-- Two bytes through the duplicate, before anything has moved the original.
theorem duplicate_writes_first : (writeTwo.on (smallFile.inherits smallFile)).seen = (2,[],[7,8]) := by
  have step : Shares streamShared (.duplicate,writeTwo.on (smallFile.inherits smallFile)) (streamShared.after .duplicate writeTwo) ∧
      Abreast streamShared (.duplicate,writeTwo.on (smallFile.inherits smallFile)) := ⟨⟨rfl,rfl⟩,.inl ⟨rfl,rfl,rfl⟩⟩
  have run := duplicate_same_stream streamDup_called (by decide) rfl streamDup_sharing rfl ⟨rfl,rfl⟩ (.cons step .nil)
  have only := (List.cons.inj run).1
  simp only at only
  rw [only]
  decide

-- The bytes written through the original are not there for the duplicate, whose
-- write offset stays where it was.
theorem duplicate_reads_nothing : ∃ io oldfd memory d pid start s events, sysDup io oldfd memory = .ok d ∧ 0 ≤ d.value ∧
    currentProcess io.kernel = some pid ∧ d.io.sharing pid oldfd.toNat d.value.toNat = some start ∧
      start.original.object = .file ∧ start.original.Valid ∧ Runs.Path Shares start events s ∧
        events.map (fun e => e.2.seen) ≠ (alone start.original (events.map fun e => e.2.call)).map StreamEvent.seen := by
  let written := streamShared.after .original writeTwo
  refine ⟨streamIo,3,some 7,streamDup,1,streamShared,_,[(.original,writeTwo.on smallFile),(.duplicate,StreamCall.on (.read 1 2) written.duplicate)],
    streamDup_called,by decide,rfl,streamDup_sharing,rfl,⟨rfl,rfl⟩,.cons ⟨rfl,rfl⟩ (.cons ⟨rfl,rfl⟩ .nil),?_⟩
  decide

end GramadoKernel
