import GramadoKernel.FileBuffer
import GramadoKernel.Scheduling

namespace GramadoKernel

-- klimits.h, kerrno.h
def openMax : Int := 32
def ebadf : Int := 9
def einval : Int := 22

-- The processes with their open files. A `file *` is an index of `file`, and
-- `objects` holds the Objects[] of every process; `console` stands for what the
-- console answers to a write.
structure Io where
  kernel : Kernel
  file : Nat → File
  objects : Nat → Nat → Option Nat
  console : (Nat → UInt8) → Int → Int

def Io.put (io : Io) (id : Nat) (f : File) : Io := {io with file := Function.update io.file id f}

@[simp] theorem Io.put_same (io : Io) (id : Nat) (f : File) : (io.put id f).file id = f := by
  simp [Io.put]

@[simp] theorem Io.put_other (io : Io) {id j : Nat} (f : File) (other : j ≠ id) : (io.put id f).file j = io.file j := by
  simp [Io.put,other]

-- What a read or a write returns to its caller.
structure Answer where
  value : Int
  given : List UInt8
  io : Io

-- The current process behind the checks made on it.
def currentProcess (k : Kernel) : Option Nat :=
  if 0 ≤ k.currentPid ∧ k.currentPid < processCountMax then
    match k.processList k.currentPid.toNat with
    | none => none
    | some p => if p.used = true ∧ p.magic = 1234 then some k.currentPid.toNat else none
  else none

def getFileFromFd (io : Io) (fd : Int) : Option Nat :=
  if fd < 0 ∨ 32 ≤ fd then none
  else (currentProcess io.kernel).bind fun pid => io.objects pid fd.toNat

def Io.credited (io : Io) : Io := {io with kernel := doCreditsByTid io.kernel.currentThread io.kernel}

def Io.yielded (io : Io) : Io := {io with kernel := yield io.kernel.currentThread io.kernel}

def Io.ready (io : Io) (tid : Int) : Io := {io with kernel := doThreadReady tid io.kernel}

-- __read_imp on a socket file.
def readSocket (io : Io) (id : Nat) (ubuf : UInt64) (count : Int) : Except Halt Answer :=
  let io := io.credited
  let fp := io.file id
  if fp.flags &&& srd = 0 then .ok ⟨-1,[],io⟩
  else if fp.socketBufferFull = false then
    if fp.sync.blockOnReadEmpty = true then .error (.panic "__read_imp: [DEBUG] Couldn't read socket. Buffer not full\n")
    else .ok ⟨-1,[],(io.put id {fp with flags := swr,tidWaiting := -1}).yielded⟩
  else
    let t := fileReadBuffer fp ubuf count
    if t.value ≤ 0 then .ok ⟨-1,t.given,io.put id t.file⟩
    else .ok ⟨t.value,t.given,io.put id {t.file with
      socketBufferFull := false
      flags := t.file.flags &&& ~~~ srd ||| swr
      tidWaiting := -1}⟩

-- __read_imp on a regular file.
def readRegular (io : Io) (id : Nat) (ubuf : UInt64) (count : Int) : Answer :=
  let fp := io.file id
  if fp.flags &&& srd = 0 then ⟨-1,[],io⟩
  else
    let t := fileReadBuffer fp ubuf count
    if t.value ≤ 0 then ⟨-1,t.given,io.put id t.file⟩
    else ⟨t.value,t.given,io.put id {t.file with
      flags := t.file.flags ||| swr
      sync := {t.file.sync with canWrite := true}}⟩

-- __read_imp once the file is found. A regular file goes to the same place under
-- the descriptors 0, 1 and 2, and sys_read_pipe is still to be written.
def readFile (io : Io) (id : Nat) (ubuf : UInt64) (count : Int) : Except Halt Answer :=
  if (io.file id).sync.canRead = false then .ok ⟨-1,[],io⟩
  else
    match (io.file id).object with
    | .socket => readSocket io id ubuf count
    | .file => .ok (readRegular io id ubuf count)
    | .ptmx => .ok ⟨0,[],io⟩
    | .pty => .ok ⟨0,[],io⟩
    | .fileSystem => .ok ⟨0,[],io⟩
    | .pipe => .ok ⟨-1,[],io⟩
    | _ => .ok ⟨-1,[],io⟩

def readImp (io : Io) (fd : Int) (ubuf : UInt64) (count : Int) : Except Halt Answer :=
  if currentProcess io.kernel = none then .ok ⟨-1,[],io⟩
  else if fd < 0 ∨ openMax ≤ fd then .ok ⟨-ebadf,[],io⟩
  else if ubuf = 0 then .ok ⟨-einval,[],io⟩
  else if count < 0 then .ok ⟨-einval,[],io⟩
  else if count = 0 then .ok ⟨0,[],io⟩
  else
    match getFileFromFd io fd with
    | none => .ok ⟨-1,[],io⟩
    | some id => readFile io id ubuf count

-- __write_imp on a socket file.
def writeSocket (io : Io) (id : Nat) (ubuf : Nat → UInt8) (count : Int) : Answer :=
  let io := io.credited
  let fp := io.file id
  if fp.flags &&& swr = 0 then ⟨-1,[],io⟩
  else if fp.socketBufferFull = true then
    let waiting := if fp.sync.blockOnWriteFull = true then io.kernel.currentThread else -1
    ⟨-1,[],((io.put id {fp with flags := srd,tidWaiting := waiting}).ready fp.tidWaiting).yielded⟩
  else
    let t := fileWriteBuffer {fp with flags := 0} (some ubuf) count
    if t.value ≤ 0 then ⟨-1,[],(io.put id t.file).yielded⟩
    else
      let waiting := if fp.sync.blockOnWrite = true then io.kernel.currentThread else -1
      ⟨t.value,[],io.put id {t.file with
        socketBufferFull := true
        flags := t.file.flags &&& ~~~ swr ||| srd
        tidWaiting := waiting}⟩

-- __write_imp on a regular file.
def writeRegular (io : Io) (id : Nat) (ubuf : Nat → UInt8) (count : Int) : Answer :=
  let fp := io.file id
  if fp.flags &&& swr = 0 then ⟨0,[],io⟩
  else
    let t := fileWriteBuffer fp (some ubuf) count
    if 0 < t.value then
      ⟨t.value,[],(io.put id {t.file with flags := srd,sync := {t.file.sync with canRead := true}}).ready t.file.tidWaiting⟩
    else ⟨0,[],io.put id t.file⟩

-- __write_imp once the file is found. Under the descriptors 0, 1 and 2 only
-- regular files are written, and under 1 the console.
def writeFile (io : Io) (id : Nat) (ubuf : Nat → UInt8) (count : Int) : Answer :=
  let fp := io.file id
  if fp.sync.canWrite = false then ⟨-1,[],io⟩
  else if fp.descriptor = 0 ∨ fp.descriptor = 2 then
    if fp.object = .file then writeRegular io id ubuf count else ⟨-1,[],io⟩
  else if fp.descriptor = 1 then
    match fp.object with
    | .file => writeRegular io id ubuf count
    | .virtualConsole => ⟨io.console ubuf count,[],io⟩
    | _ => ⟨-1,[],io⟩
  else
    match fp.object with
    | .nic => ⟨0,[],io⟩
    | .socket => writeSocket io id ubuf count
    | .file => writeRegular io id ubuf count
    | .ptmx => ⟨0,[],io⟩
    | .pty => ⟨0,[],io⟩
    | .fileSystem => ⟨0,[],io⟩
    | .pipe => ⟨-1,[],io⟩
    | _ => ⟨-1,[],io⟩

def writeImp (io : Io) (fd : Int) (ubuf : Option (Nat → UInt8)) (count : Int) : Answer :=
  if currentProcess io.kernel = none then ⟨-1,[],io⟩
  else if fd < 0 ∨ openMax ≤ fd then ⟨-ebadf,[],io⟩
  else
    match ubuf with
    | none => ⟨-einval,[],io⟩
    | some ubuf =>
        if count < 0 then ⟨-einval,[],io⟩
        else if count = 0 then ⟨0,[],io⟩
        else
          match getFileFromFd io fd with
          | none => ⟨-1,[],io⟩
          | some id => writeFile io id ubuf count

-- The file that socket_inet and its siblings build around a buffer.
def socketFile (slot : Int) (sock : Nat) (buff : Int → UInt8) : File where
  object := .socket
  used := true
  magic := 1234
  descriptor := slot
  socketBufferFull := false
  socket := some sock
  base := buff
  p := 0
  r := 0
  w := 0
  lbfsize := bufsiz
  cnt := bufsiz
  flags := swr
  sync := ⟨true,true,true,true,true,true,true⟩
  tidWaiting := 0

-- The only file a call can change is the one it looks up.
structure Frame (io : Io) (id : Nat) (after : Io) : Prop where
  file : ∀ j, j ≠ id → after.file j = io.file j
  objects : after.objects = io.objects
  console : after.console = io.console

theorem Frame.refl (io : Io) (id : Nat) : Frame io id io := ⟨fun _ _ => rfl,rfl,rfl⟩

theorem Frame.put (io : Io) (id : Nat) (f : File) : Frame io id (io.put id f) := ⟨fun _ other => Io.put_other _ _ other,rfl,rfl⟩

-- A change of the threads alone.
theorem Frame.kernel {io : Io} {id : Nat} {after : Io} (frame : Frame io id after) (k : Kernel) : Frame io id {after with kernel := k} :=
  ⟨frame.file,frame.objects,frame.console⟩

theorem readSocket_frame {io : Io} {id : Nat} {ubuf : UInt64} {count : Int} {answer : Answer}
    (read : readSocket io id ubuf count = .ok answer) : Frame io id answer.io := by
  unfold readSocket at read
  simp only at read
  split at read
  · obtain rfl := Except.ok.inj read
    exact (Frame.refl io id).kernel _
  · split at read
    · split at read
      · cases read
      · obtain rfl := Except.ok.inj read
        exact (Frame.put io id _).kernel _
    · split at read
      · obtain rfl := Except.ok.inj read
        exact (Frame.put io id _).kernel _
      · obtain rfl := Except.ok.inj read
        exact (Frame.put io id _).kernel _

theorem readRegular_frame (io : Io) (id : Nat) (ubuf : UInt64) (count : Int) : Frame io id (readRegular io id ubuf count).io := by
  unfold readRegular
  simp only
  split
  · exact .refl io id
  · split
    · exact .put io id _
    · exact .put io id _

theorem writeSocket_frame (io : Io) (id : Nat) (ubuf : Nat → UInt8) (count : Int) : Frame io id (writeSocket io id ubuf count).io := by
  unfold writeSocket
  simp only
  split
  · exact (Frame.refl io id).kernel _
  · split
    · exact ((Frame.put io id _).kernel _).kernel _
    · split
      · exact (Frame.put io id _).kernel _
      · exact (Frame.put io id _).kernel _

theorem writeRegular_frame (io : Io) (id : Nat) (ubuf : Nat → UInt8) (count : Int) : Frame io id (writeRegular io id ubuf count).io := by
  unfold writeRegular
  simp only
  split
  · exact .refl io id
  · split
    · exact (Frame.put io id _).kernel _
    · exact .put io id _

theorem readFile_frame {io : Io} {id : Nat} {ubuf : UInt64} {count : Int} {answer : Answer}
    (read : readFile io id ubuf count = .ok answer) : Frame io id answer.io := by
  unfold readFile at read
  split at read
  · obtain rfl := Except.ok.inj read
    exact .refl io id
  · split at read
    · exact readSocket_frame read
    · obtain rfl := Except.ok.inj read
      exact readRegular_frame io id ubuf count
    all_goals
      obtain rfl := Except.ok.inj read
      exact .refl io id

theorem writeFile_frame (io : Io) (id : Nat) (ubuf : Nat → UInt8) (count : Int) : Frame io id (writeFile io id ubuf count).io := by
  unfold writeFile
  simp only
  split
  · exact .refl io id
  · split
    · split
      · exact writeRegular_frame io id ubuf count
      · exact .refl io id
    · split
      · split
        · exact writeRegular_frame io id ubuf count
        · exact .refl io id
        · exact .refl io id
      · split
        case h_2 => exact writeSocket_frame io id ubuf count
        case h_3 => exact writeRegular_frame io id ubuf count
        all_goals exact .refl io id

-- A read is refused before it comes to a file, or it goes to one.
theorem readImp_cases {io : Io} {fd : Int} {ubuf : UInt64} {count : Int} {answer : Answer} (read : readImp io fd ubuf count = .ok answer) :
    answer.value ≤ 0 ∧ answer.given = [] ∧ answer.io = io ∨
      ∃ id, getFileFromFd io fd = some id ∧ ubuf ≠ 0 ∧ 0 < count ∧ readFile io id ubuf count = .ok answer := by
  unfold readImp at read
  iterate 2
    split at read
    · obtain rfl := Except.ok.inj read
      exact .inl ⟨by simp [ebadf],rfl,rfl⟩
  split at read
  · obtain rfl := Except.ok.inj read
    exact .inl ⟨by simp [einval],rfl,rfl⟩
  · rename_i present
    iterate 2
      split at read
      · obtain rfl := Except.ok.inj read
        exact .inl ⟨by simp [einval],rfl,rfl⟩
    split at read
    · obtain rfl := Except.ok.inj read
      exact .inl ⟨by simp,rfl,rfl⟩
    · rename_i id target
      exact .inr ⟨id,target,present,by omega,read⟩

theorem writeImp_cases {io : Io} {fd : Int} {ubuf : Option (Nat → UInt8)} {count : Int} {answer : Answer}
    (wrote : writeImp io fd ubuf count = answer) :
    (answer.value ≤ 0 ∧ answer.given = [] ∧ answer.io = io) ∧ (getFileFromFd io fd = none ∨ ubuf = none ∨ count ≤ 0) ∨
      ∃ id source, getFileFromFd io fd = some id ∧ ubuf = some source ∧ 0 < count ∧ answer = writeFile io id source count := by
  unfold writeImp at wrote
  split at wrote
  · rename_i absent
    subst wrote
    exact .inl ⟨⟨by simp,rfl,rfl⟩,.inl (by simp [getFileFromFd,absent])⟩
  · split at wrote
    · rename_i outside
      subst wrote
      exact .inl ⟨⟨by simp [ebadf],rfl,rfl⟩,.inl (if_pos outside)⟩
    · split at wrote
      · subst wrote
        exact .inl ⟨⟨by simp [einval],rfl,rfl⟩,.inr (.inl rfl)⟩
      · rename_i source
        split at wrote
        · subst wrote
          exact .inl ⟨⟨by simp [einval],rfl,rfl⟩,.inr (.inr (by omega))⟩
        · split at wrote
          · subst wrote
            exact .inl ⟨⟨by simp,rfl,rfl⟩,.inr (.inr (by omega))⟩
          · split at wrote
            · rename_i missing
              subst wrote
              exact .inl ⟨⟨by simp,rfl,rfl⟩,.inl missing⟩
            · rename_i id target
              exact .inr ⟨id,source,target,rfl,by omega,wrote.symm⟩

-- What a call leaves of the tables.
def Touches (io : Io) (target : Option Nat) (after : Io) : Prop :=
  match target with
  | none => ∀ id, Frame io id after
  | some id => Frame io id after

theorem touches_nothing (io : Io) (target : Option Nat) : Touches io target io := by
  cases target with
  | none => exact fun id => .refl io id
  | some id => exact .refl io id

theorem Touches.other {io after : Io} {target : Option Nat} (touches : Touches io target after) {id : Nat} (other : target ≠ some id) :
    after.file id = io.file id := by
  cases target with
  | none => exact (touches (id+1)).file id (by omega)
  | some j =>
      refine touches.file id ?_
      rintro rfl
      exact other rfl

theorem Touches.objects {io after : Io} {target : Option Nat} (touches : Touches io target after) : after.objects = io.objects := by
  cases target with
  | none => exact (touches 0).objects
  | some j => exact Frame.objects touches

theorem readImp_touches {io : Io} {fd : Int} {ubuf : UInt64} {count : Int} {answer : Answer} (read : readImp io fd ubuf count = .ok answer) :
    Touches io (getFileFromFd io fd) answer.io := by
  rcases readImp_cases read with ⟨_,_,same⟩ | ⟨id,target,_,_,served⟩
  · rw [same]
    exact touches_nothing io _
  · rw [target]
    exact readFile_frame served

theorem writeImp_touches (io : Io) (fd : Int) (ubuf : Option (Nat → UInt8)) (count : Int) :
    Touches io (getFileFromFd io fd) (writeImp io fd ubuf count).io := by
  rcases writeImp_cases rfl with ⟨⟨_,_,same⟩,_⟩ | ⟨id,source,target,_,_,served⟩
  · rw [same]
    exact touches_nothing io _
  · rw [target,served]
    exact writeFile_frame io id source count

theorem target_current {io : Io} {fd : Int} {a : Nat} (target : getFileFromFd io fd = some a) : currentProcess io.kernel ≠ none ∧ ¬ (fd < 0 ∨ openMax ≤ fd) := by
  unfold getFileFromFd at target
  split at target
  · cases target
  · rename_i inside
    refine ⟨?_,inside⟩
    intro nobody
    rw [nobody] at target
    cases target

end GramadoKernel
