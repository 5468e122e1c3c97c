import GramadoKernel.Creation
import GramadoKernel.Descriptors
import GramadoKernel.SocketFile

namespace GramadoKernel

def numberOfFiles : Nat := 32

-- processList[current_process] without a range check, and the checks of the process.
def ownProcess (k : Kernel) : Except Halt (Option Nat) := do
  require (0 ≤ k.currentPid ∧ k.currentPid < processCountMax) (.nullPointer "processList[current_process]")
  .ok (currentProcess k)

def Io.setObject (io : Io) (pid fd : Nat) (file : Option Nat) : Io :=
  {io with objects := Function.update io.objects pid (Function.update (io.objects pid) fd file)}

-- The first free descriptor behind the standard streams.
def freeDescriptor (objects : Nat → Option Nat) : Option Nat := (List.range' 3 (numberOfFiles-3)).find? fun i => objects i = none

-- What the calls of pipe.c return. `wrote` has the slots of Objects[] that are
-- assigned, and `fds` what is stored at pipefd.
structure Duplication where
  value : Int
  fds : Option (Int × Int)
  wrote : List Nat
  io : Io

def Duplication.failed (io : Io) (value : Int) : Duplication := ⟨value,none,[],io⟩

-- A failure path that clears a slot.
def Duplication.cleared (io : Io) (pid : Nat) (slots : List Nat) : Duplication :=
  ⟨-1,none,slots,slots.foldl (fun io slot => io.setObject pid slot none) io⟩

-- The fields that the new structure has from the old one; all the others stay as
-- the memory had them. _tmpfname is not in the model.
def File.inherits (new old : File) : File :=
  {new with
    object := old.object
    base := old.base
    p := old.p
    lbfsize := old.lbfsize
    cnt := old.cnt
    used := true
    magic := 1234}

-- `memory` is what kmalloc returns.
def sysDup (io : Io) (oldfd : Int) (memory : Option Nat) : Except Halt Duplication :=
  if oldfd < 0 ∨ openMax ≤ oldfd then .ok (.failed io (-einval))
  else do
    let process ← ownProcess io.kernel
    match process with
    | none => .ok (.failed io (-1))
    | some pid =>
        match freeDescriptor (io.objects pid) with
        -- The index is behind the table when the loop has found nothing.
        | none => .ok (.cleared io pid [numberOfFiles])
        | some slot =>
            match io.objects pid oldfd.toNat with
            | none => .ok (.cleared io pid [slot])
            | some old =>
                match memory with
                | none => .ok (.cleared io pid [slot])
                | some new =>
                    .ok ⟨slot,none,[slot],(io.put new ((io.file new).inherits (io.file old))).setObject pid slot (some new)⟩

-- The common body of sys_dup2 and sys_dup3.
def duplicateOnto (io : Io) (oldfd newfd : Int) : Except Halt Duplication :=
  if oldfd < 0 ∨ openMax ≤ oldfd then .ok (.failed io (-einval))
  else if newfd < 0 ∨ openMax ≤ newfd then .ok (.failed io (-einval))
  else do
    let process ← ownProcess io.kernel
    match process with
    | none => .ok (.failed io (-1))
    | some pid =>
        match io.objects pid oldfd.toNat with
        | none => .ok (.cleared io pid [newfd.toNat])
        | some old =>
            match io.objects pid newfd.toNat with
            | none => .ok (.cleared io pid [newfd.toNat])
            | some new => .ok ⟨newfd,none,[],io.put new ((io.file new).inherits (io.file old))⟩

def sysDup2 (io : Io) (oldfd newfd : Int) : Except Halt Duplication := duplicateOnto io oldfd newfd

-- The flags are not looked at.
def sysDup3 (io : Io) (oldfd newfd _flags : Int) : Except Halt Duplication := duplicateOnto io oldfd newfd

-- What the three calls of kmalloc in sys_pipe return: a buffer with its contents
-- and two structures.
structure PipeMemory where
  buff : Option (Int → UInt8)
  first : Option Nat
  second : Option Nat

def File.piped (f : File) (buff : Int → UInt8) (slot : Nat) : File :=
  {f with
    used := true
    magic := 1234
    object := .pipe
    sync := {f.sync with canRead := true,canWrite := true,canAccept := false,canConnect := false}
    base := buff
    p := 0
    lbfsize := bufsiz
    cnt := bufsiz
    r := 0
    w := 0
    descriptor := slot}

-- The second search goes over the same table again: the reservation between the
-- two is commented out.
def sysPipe (io : Io) (_flags : Int) (memory : PipeMemory) : Except Halt Duplication := do
  let process ← ownProcess io.kernel
  match process with
  | none => .ok (.failed io (-1))
  | some pid =>
      match freeDescriptor (io.objects pid),freeDescriptor (io.objects pid) with
      | some slot1,some slot2 =>
          match memory.buff with
          | none => .ok (.cleared io pid [slot1,slot2])
          | some buff =>
              match memory.first,memory.second with
              | some f1,some f2 =>
                  let io := (io.put f1 ((io.file f1).piped buff slot1)).put f2 ((io.file f2).piped buff slot2)
                  .ok ⟨0,some (slot1,slot2),[slot1,slot2],(io.setObject pid slot1 (some f1)).setObject pid slot2 (some f2)⟩
              | _,_ => .ok (.cleared io pid [slot1,slot2])
      | _,_ => .ok (.failed io (-1))

inductive TableCall where
  | dup (oldfd : Int) (memory : Option Nat)
  | dup2 (oldfd newfd : Int)
  | dup3 (oldfd newfd flags : Int)
  | pipe (flags : Int) (memory : PipeMemory)

def TableCall.on (io : Io) : TableCall → Except Halt Duplication
  | .dup oldfd memory => sysDup io oldfd memory
  | .dup2 oldfd newfd => sysDup2 io oldfd newfd
  | .dup3 oldfd newfd flags => sysDup3 io oldfd newfd flags
  | .pipe flags memory => sysPipe io flags memory

-- A negative value means that every table is as it was and no slot outside it is
-- assigned. A pipe has two descriptors that were free and are open; a duplicate
-- leaves all descriptors but its own, and all structures but that behind it.
structure Whole (io : Io) (call : TableCall) (d : Duplication) : Prop where
  failed : d.value < 0 → (∀ pid, ∀ fd < numberOfFiles, d.io.objects pid fd = io.objects pid fd) ∧ ∀ slot ∈ d.wrote, slot < numberOfFiles
  piped : 0 ≤ d.value → (∃ flags memory, call = .pipe flags memory) → ∃ pid, ∃ a b : Nat, currentProcess io.kernel = some pid ∧
    d.fds = some ((a : Int),(b : Int)) ∧ a ≠ b ∧ io.objects pid a = none ∧ io.objects pid b = none ∧ d.io.objects pid a ≠ none ∧
      d.io.objects pid b ≠ none
  others : 0 ≤ d.value → (¬ ∃ flags memory, call = .pipe flags memory) → ∀ pid, ∀ fd : Nat,
    ¬ (currentProcess io.kernel = some pid ∧ (fd : Int) = d.value) → d.io.objects pid fd = io.objects pid fd
  behind : 0 ≤ d.value → (¬ ∃ flags memory, call = .pipe flags memory) → ∃ pid new, currentProcess io.kernel = some pid ∧
    d.io.objects pid d.value.toNat = some new ∧ ∀ id, id ≠ new → d.io.file id = io.file id

-- Some descriptor behind the standard streams is free.
def HasFree (io : Io) (pid : Nat) : Prop := ∃ fd, 3 ≤ fd ∧ fd < numberOfFiles ∧ io.objects pid fd = none

def InTable (fd : Int) : Prop := 0 ≤ fd ∧ fd < openMax

-- A dup has a free descriptor to look for, a dup2 or dup3 to an open descriptor
-- comes from an open one, and a pipe cannot be made.
def Careful (io : Io) : TableCall → Prop
  | .dup oldfd _ => InTable oldfd → ∀ pid, currentProcess io.kernel = some pid → HasFree io pid
  | .dup2 oldfd newfd => InTable oldfd → InTable newfd → ∀ pid, currentProcess io.kernel = some pid →
      io.objects pid newfd.toNat ≠ none → io.objects pid oldfd.toNat ≠ none
  | .dup3 oldfd newfd _ => InTable oldfd → InTable newfd → ∀ pid, currentProcess io.kernel = some pid →
      io.objects pid newfd.toNat ≠ none → io.objects pid oldfd.toNat ≠ none
  | .pipe _ memory => ∀ pid, currentProcess io.kernel = some pid → HasFree io pid →
      memory.buff = none ∨ memory.first = none ∨ memory.second = none

theorem setObject_objects (io : Io) (pid fd : Nat) (file : Option Nat) (pid' fd' : Nat) :
    (io.setObject pid fd file).objects pid' fd' = if pid' = pid ∧ fd' = fd then file else io.objects pid' fd' := by
  unfold Io.setObject
  by_cases own : pid' = pid
  · subst own
    by_cases same : fd' = fd
    · simp [same]
    · simp [same]
  · simp [own]

theorem freeDescriptor_some {objects : Nat → Option Nat} {slot : Nat} (found : freeDescriptor objects = some slot) :
    3 ≤ slot ∧ slot < numberOfFiles ∧ objects slot = none := by
  have inside := List.mem_range'_1.mp (List.mem_of_find?_eq_some found)
  have free := List.find?_some found
  refine ⟨inside.1,?_,by simpa using free⟩
  unfold numberOfFiles at *
  omega

theorem freeDescriptor_none {io : Io} {pid : Nat} (full : freeDescriptor (io.objects pid) = none) : ¬ HasFree io pid := by
  rintro ⟨fd,low,high,free⟩
  have used := List.find?_eq_none.mp full fd (List.mem_range'_1.mpr ⟨low,by unfold numberOfFiles at *; omega⟩)
  exact used (by simpa using free)

theorem ownProcess_ok {k : Kernel} {process : Option Nat} (own : ownProcess k = .ok process) : process = currentProcess k := by
  simp only [ownProcess,bind_ok,require_ok,Except.ok.injEq] at own
  obtain ⟨_,_,same⟩ := own
  exact same.symm

theorem inTable_below {fd : Int} (inside : InTable fd) : fd.toNat < numberOfFiles := by
  unfold InTable openMax at inside
  unfold numberOfFiles
  omega

-- A new structure for a free descriptor.
structure Duplicated (io : Io) (oldfd : Int) (memory : Option Nat) (pid slot old new : Nat) : Prop where
  table : InTable oldfd
  current : currentProcess io.kernel = some pid
  free : freeDescriptor (io.objects pid) = some slot
  source : io.objects pid oldfd.toNat = some old
  memory : memory = some new

-- The ways of a dup: it comes to no table, no descriptor is free, the free one is
-- cleared, or it gets the new structure.
inductive DupWay (io : Io) (oldfd : Int) (memory : Option Nat) : Duplication → Prop where
  | failed {value : Int} (negative : value < 0) (outside : ∀ pid, currentProcess io.kernel = some pid → ¬ InTable oldfd) :
      DupWay io oldfd memory (.failed io value)
  | full {pid : Nat} (table : InTable oldfd) (current : currentProcess io.kernel = some pid)
      (none : freeDescriptor (io.objects pid) = none) : DupWay io oldfd memory (.cleared io pid [numberOfFiles])
  | cleared {pid slot : Nat} (current : currentProcess io.kernel = some pid) (free : freeDescriptor (io.objects pid) = some slot)
      (missing : io.objects pid oldfd.toNat = none ∨ memory = none) : DupWay io oldfd memory (.cleared io pid [slot])
  | made {pid slot old new : Nat} (duplicated : Duplicated io oldfd memory pid slot old new) : DupWay io oldfd memory
      ⟨slot,none,[slot],(io.put new ((io.file new).inherits (io.file old))).setObject pid slot (some new)⟩

theorem sysDup_way {io : Io} {oldfd : Int} {memory : Option Nat} {d : Duplication} (called : sysDup io oldfd memory = .ok d) :
    DupWay io oldfd memory d := by
  unfold sysDup at called
  split at called
  · rename_i outside
    cases called
    refine .failed (by decide) fun _ _ inside => ?_
    unfold InTable at inside
    omega
  rename_i inside
  have table : InTable oldfd := by
    unfold InTable
    omega
  obtain ⟨process,own,called⟩ := bind_ok.mp called
  obtain rfl := ownProcess_ok own
  split at called
  · rename_i none
    cases called
    exact .failed (by decide) fun pid current => by cases none.symm.trans current
  rename_i pid current
  split at called
  · rename_i none
    cases called
    exact .full table current none
  rename_i slot free
  split at called
  · rename_i closed
    cases called
    exact .cleared current free (.inl closed)
  rename_i old source
  split at called
  · cases called
    exact .cleared current free (.inr rfl)
  · rename_i new
    cases called
    exact .made ⟨table,current,free,source,rfl⟩

-- The ways of a dup2 or dup3: it comes to no table, one of the two descriptors is
-- not open, or the file behind the second is written over.
inductive OntoWay (io : Io) (oldfd newfd : Int) : Duplication → Prop where
  | failed {value : Int} (negative : value < 0)
      (outside : ∀ pid, currentProcess io.kernel = some pid → InTable oldfd → ¬ InTable newfd) : OntoWay io oldfd newfd (.failed io value)
  | unopened {pid : Nat} (old : InTable oldfd) (new : InTable newfd) (current : currentProcess io.kernel = some pid)
      (source : io.objects pid oldfd.toNat = none) : OntoWay io oldfd newfd (.cleared io pid [newfd.toNat])
  | closed {pid f : Nat} (new : InTable newfd) (current : currentProcess io.kernel = some pid)
      (source : io.objects pid oldfd.toNat = some f) (target : io.objects pid newfd.toNat = none) :
      OntoWay io oldfd newfd (.cleared io pid [newfd.toNat])
  | written {pid f g : Nat} (old : InTable oldfd) (new : InTable newfd) (current : currentProcess io.kernel = some pid)
      (source : io.objects pid oldfd.toNat = some f) (target : io.objects pid newfd.toNat = some g) :
      OntoWay io oldfd newfd ⟨newfd,none,[],io.put g ((io.file g).inherits (io.file f))⟩

theorem duplicateOnto_way {io : Io} {oldfd newfd : Int} {d : Duplication} (called : duplicateOnto io oldfd newfd = .ok d) :
    OntoWay io oldfd newfd d := by
  unfold duplicateOnto at called
  split at called
  · rename_i outside
    cases called
    refine .failed (by decide) fun _ _ inside => ?_
    unfold InTable at inside
    omega
  split at called
  · rename_i outside
    cases called
    refine .failed (by decide) fun _ _ _ inside => ?_
    unfold InTable at inside
    omega
  rename_i first second
  have old : InTable oldfd := by
    unfold InTable
    omega
  have new : InTable newfd := by
    unfold InTable
    omega
  obtain ⟨process,own,called⟩ := bind_ok.mp called
  obtain rfl := ownProcess_ok own
  split at called
  · rename_i none
    cases called
    exact .failed (by decide) fun pid current => by cases none.symm.trans current
  rename_i pid current
  split at called
  · rename_i source
    cases called
    exact .unopened old new current source
  rename_i f source
  split at called
  · rename_i target
    cases called
    exact .closed new current source target
  · rename_i g target
    cases called
    exact .written old new current source target

-- A call that fails before it comes to a table.
theorem whole_failed (io : Io) (call : TableCall) {value : Int} (negative : value < 0) : Whole io call (.failed io value) := by
  have never : ¬ 0 ≤ (Duplication.failed io value).value := Int.not_le.mpr negative
  exact ⟨fun _ => ⟨fun _ _ _ => rfl,by simp [Duplication.failed]⟩,fun done => absurd done never,fun done => absurd done never,
    fun done => absurd done never⟩

theorem cleared_objects (io : Io) (pid : Nat) (slots : List Nat) (pid' fd : Nat) :
    (Duplication.cleared io pid slots).io.objects pid' fd = if pid' = pid ∧ fd ∈ slots then none else io.objects pid' fd := by
  unfold Duplication.cleared
  induction slots generalizing io with
  | nil => simp
  | cons slot rest ih =>
      simp only [List.foldl_cons,List.mem_cons]
      rw [ih,setObject_objects]
      by_cases own : pid' = pid
      · by_cases later : fd ∈ rest
        · simp [own,later]
        · simp [own,later]
      · simp [own]

-- A failure path that clears slots is without effect where they are free.
theorem cleared_same {io : Io} {pid pid' fd : Nat} {slots : List Nat} (free : pid' = pid → fd ∈ slots → io.objects pid fd = none) :
    (Duplication.cleared io pid slots).io.objects pid' fd = io.objects pid' fd := by
  rw [cleared_objects]
  split
  · rename_i both
    rw [both.1,free both.1 both.2]
  · rfl

theorem whole_cleared_iff (io : Io) (call : TableCall) (pid : Nat) (slots : List Nat) : Whole io call (.cleared io pid slots) ↔
    ∀ slot ∈ slots, slot < numberOfFiles ∧ io.objects pid slot = none := by
  have negative : (Duplication.cleared io pid slots).value < 0 := Int.negSucc_lt_zero 0
  have never : ¬ 0 ≤ (Duplication.cleared io pid slots).value := Int.not_le.mpr negative
  constructor
  · intro whole slot member
    obtain ⟨same,inside⟩ := whole.failed negative
    have below := inside slot member
    have kept := same pid slot below
    rw [cleared_objects,if_pos ⟨rfl,member⟩] at kept
    exact ⟨below,kept.symm⟩
  · intro free
    exact ⟨fun _ => ⟨fun _ fd _ => cleared_same fun _ member => (free fd member).2,fun slot member => (free slot member).1⟩,
      fun done => absurd done never,fun done => absurd done never,fun done => absurd done never⟩

theorem whole_cleared_one_iff (io : Io) (call : TableCall) (pid slot : Nat) : Whole io call (.cleared io pid [slot]) ↔
    slot < numberOfFiles ∧ io.objects pid slot = none := by
  rw [whole_cleared_iff,List.forall_mem_singleton]

-- What a duplicate leaves that gets its structure at one slot.
theorem whole_duplicated {io : Io} {call : TableCall} {d : Duplication} (notPipe : ¬ ∃ flags memory, call = .pipe flags memory)
    {pid slot new : Nat} (own : currentProcess io.kernel = some pid) (value : d.value = slot) (f : File)
    (made : d.io = (io.put new f).setObject pid slot (some new)) : Whole io call d := by
  have positive : ¬ d.value < 0 := by omega
  refine ⟨fun failed => absurd failed positive,fun _ pipe => absurd pipe notPipe,?_,?_⟩
  · intro _ _ pid' fd other
    rw [made,setObject_objects,if_neg]
    · rfl
    · rintro ⟨rfl,rfl⟩
      exact other ⟨own,value.symm⟩
  · intro _ _
    refine ⟨pid,new,own,?_,?_⟩
    · rw [made,setObject_objects,value,if_pos ⟨rfl,rfl⟩]
    · intro id other
      rw [made]
      exact Io.put_other io f other

theorem sysDup_whole_iff {io : Io} {oldfd : Int} {memory : Option Nat} {d : Duplication} (called : sysDup io oldfd memory = .ok d) :
    Whole io (.dup oldfd memory) d ↔ Careful io (.dup oldfd memory) := by
  have notPipe : ¬ ∃ flags pipe, TableCall.dup oldfd memory = .pipe flags pipe := by simp
  have careful : ∀ {pid slot}, currentProcess io.kernel = some pid → freeDescriptor (io.objects pid) = some slot →
      Careful io (.dup oldfd memory) := by
    intro pid slot current free _ other found
    obtain rfl := Option.some.inj (current.symm.trans found)
    exact ⟨slot,freeDescriptor_some free⟩
  cases sysDup_way called with
  | failed negative outside => exact iff_of_true (whole_failed io _ negative) fun table pid current => absurd table (outside pid current)
  | @full pid table current none =>
      rw [whole_cleared_one_iff]
      exact iff_of_false (fun inside => Nat.lt_irrefl _ inside.1) fun promised => freeDescriptor_none none (promised table pid current)
  | cleared current free =>
      rw [whole_cleared_one_iff]
      exact iff_of_true (freeDescriptor_some free).2 (careful current free)
  | made duplicated =>
      exact iff_of_true (whole_duplicated notPipe duplicated.current rfl _ rfl) (careful duplicated.current duplicated.free)

theorem setObject_same {io : Io} {pid fd : Nat} {file : Option Nat} (same : io.objects pid fd = file) : io.setObject pid fd file = io := by
  subst same
  unfold Io.setObject
  rw [Function.update_eq_self,Function.update_eq_self]

-- A duplicate onto a descriptor of the table.
def Guarded (io : Io) (oldfd newfd : Int) : Prop :=
  InTable oldfd → InTable newfd → ∀ pid, currentProcess io.kernel = some pid → io.objects pid newfd.toNat ≠ none →
    io.objects pid oldfd.toNat ≠ none

theorem duplicateOnto_whole_iff {io : Io} {oldfd newfd : Int} {call : TableCall} {d : Duplication}
    (notPipe : ¬ ∃ flags memory, call = .pipe flags memory) (called : duplicateOnto io oldfd newfd = .ok d) :
    Whole io call d ↔ Guarded io oldfd newfd := by
  have guarded : ∀ {pid f}, currentProcess io.kernel = some pid → io.objects pid oldfd.toNat = some f → Guarded io oldfd newfd := by
    intro pid f current source _ _ other found _
    obtain rfl := Option.some.inj (current.symm.trans found)
    rw [source]
    exact Option.some_ne_none f
  cases duplicateOnto_way called with
  | failed negative outside =>
      exact iff_of_true (whole_failed io _ negative) fun old new pid current => absurd new (outside pid current old)
  | @unopened pid old new current source =>
      rw [whole_cleared_one_iff]
      constructor
      · intro free _ _ other found opened
        obtain rfl := Option.some.inj (current.symm.trans found)
        exact absurd free.2 opened
      · intro promised
        refine ⟨inTable_below new,?_⟩
        by_contra opened
        exact promised old new pid current opened source
  | closed new current source target =>
      rw [whole_cleared_one_iff]
      exact iff_of_true ⟨inTable_below new,target⟩ (guarded current source)
  | @written pid f g old new current source target =>
      have present : (io.put g ((io.file g).inherits (io.file f))).objects pid newfd.toNat = some g := target
      have made : io.put g ((io.file g).inherits (io.file f)) =
          (io.put g ((io.file g).inherits (io.file f))).setObject pid newfd.toNat (some g) := (setObject_same present).symm
      exact iff_of_true (whole_duplicated notPipe current (Int.toNat_of_nonneg new.1).symm _ made) (guarded current source)

theorem sysPipe_whole_iff {io : Io} {flags : Int} {memory : PipeMemory} {d : Duplication} (called : sysPipe io flags memory = .ok d) :
    Whole io (.pipe flags memory) d ↔ Careful io (.pipe flags memory) := by
  obtain ⟨process,own,called⟩ := bind_ok.mp called
  have same := ownProcess_ok own
  subst same
  cases current : currentProcess io.kernel with
  | none =>
      rw [current] at called
      cases called
      exact iff_of_true (whole_failed io _ (by decide)) fun pid found => absurd (current.symm.trans found) (by simp)
  | some pid =>
      rw [current] at called
      cases free : freeDescriptor (io.objects pid) with
      | none =>
          simp only [free] at called
          cases called
          refine iff_of_true (whole_failed io _ (by decide)) fun pid' found has => ?_
          cases current.symm.trans found
          exact absurd has (freeDescriptor_none free)
      | some slot =>
          obtain ⟨low,high,empty⟩ := freeDescriptor_some free
          have clears : Whole io (.pipe flags memory) (.cleared io pid [slot,slot]) := by
            rw [whole_cleared_iff]
            intro i member
            have only : i = slot := by simpa using member
            exact only ▸ ⟨high,empty⟩
          simp only [free] at called
          cases buffer : memory.buff with
          | none =>
              simp only [buffer] at called
              cases called
              exact iff_of_true clears fun _ _ _ => .inl buffer
          | some buff =>
              simp only [buffer] at called
              split at called
              · rename_i f1 f2 first second
                cases called
                constructor
                · intro whole
                  -- Both descriptors are the first free one.
                  obtain ⟨_,a,b,_,fds,apart,_⟩ := whole.piped (Int.le_refl 0) ⟨flags,memory,rfl⟩
                  simp only [Option.some.injEq,Prod.mk.injEq] at fds
                  exact absurd (Int.ofNat_inj.mp (fds.1.symm.trans fds.2)) apart
                · intro careful
                  rcases careful pid current ⟨slot,low,high,empty⟩ with none | none | none
                  · exact absurd (buffer.symm.trans none) (by simp)
                  · exact absurd (first.symm.trans none) (by simp)
                  · exact absurd (second.symm.trans none) (by simp)
              · rename_i missing
                cases called
                refine iff_of_true clears fun _ _ _ => .inr ?_
                by_contra both
                rw [not_or] at both
                obtain ⟨f1,first⟩ := Option.ne_none_iff_exists'.mp both.1
                obtain ⟨f2,second⟩ := Option.ne_none_iff_exists'.mp both.2
                exact missing f1 f2 first second

-- A call of the four keeps its promise exactly when it is careful.
theorem table_whole_iff {io : Io} {call : TableCall} {d : Duplication} (called : call.on io = .ok d) : Whole io call d ↔ Careful io call := by
  cases call with
  | dup oldfd memory => exact sysDup_whole_iff called
  | dup2 oldfd newfd => exact duplicateOnto_whole_iff (by simp) called
  | dup3 oldfd newfd flags => exact duplicateOnto_whole_iff (by simp) called
  | pipe flags memory => exact sysPipe_whole_iff called

-- bootIo has its one socket at the descriptor 3, and kmalloc returns file 7.
theorem socket_duplicated : ∃ d, (TableCall.dup 3 (some 7)).on bootIo = .ok d ∧ d.value = 4 ∧ Whole bootIo (.dup 3 (some 7)) d := by
  have called : (TableCall.dup 3 (some 7)).on bootIo = .ok ⟨4,none,[4],(bootIo.put 7 ((bootIo.file 7).inherits (bootIo.file 0))).setObject 1 4
    (some 7)⟩ := rfl
  refine ⟨_,called,rfl,(table_whole_iff called).mpr ?_⟩
  intro _ pid current
  have only : pid = 1 := (Option.some.inj current).symm
  exact ⟨4,by decide,by decide,by subst only; rfl⟩

-- Both ends of the first pipe are the descriptor 4.
theorem pipe_with_one_end : ∃ d, (TableCall.pipe 0 ⟨some fun _ => 0,some 7,some 8⟩).on bootIo = .ok d ∧ d.value = 0 ∧ d.fds = some (4,4) ∧
    ¬ Whole bootIo (.pipe 0 ⟨some fun _ => 0,some 7,some 8⟩) d := by
  refine ⟨_,rfl,rfl,rfl,fun whole => ?_⟩
  obtain ⟨_,a,b,_,fds,apart,_⟩ := whole.piped (Int.le_refl 0) ⟨_,_,rfl⟩
  have ends := Prod.mk.inj (Option.some.inj fds)
  exact apart (Int.ofNat_inj.mp (ends.1.symm.trans ends.2))

end GramadoKernel
