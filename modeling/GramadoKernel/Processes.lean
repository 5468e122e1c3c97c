import GramadoKernel.Duplicates
import GramadoKernel.Connections

namespace GramadoKernel

def promptSize : Int := bufsiz

-- struct process_d, as clones are made from it; `control` is the slot of the control
-- thread. The rest of the structure is in processList and in the tables of files.
structure ProcessInfo where
  ppid : Int
  cpl : UInt64
  control : Option Nat
  pml4Va : UInt64
  pdpt0Va : UInt64
  pdpt0Pa : UInt64
  pd0Va : UInt64
  pd0Pa : UInt64
  image : UInt64
  imagePa : UInt64
  childImage : UInt64
  childImagePa : UInt64
  childStack : UInt64
  childStackPa : UInt64
  heapStart : UInt64
  heapSize : UInt64
  heapEnd : UInt64
  isTerminal : Bool
  isChildOfTerminal : Bool
  connectors : Nat → Nat

-- After memset.
def ProcessInfo.zeroed : ProcessInfo where
  ppid := 0
  cpl := 0
  control := none
  pml4Va := 0
  pdpt0Va := 0
  pdpt0Pa := 0
  pd0Va := 0
  pd0Pa := 0
  image := 0
  imagePa := 0
  childImage := 0
  childImagePa := 0
  childStack := 0
  childStackPa := 0
  heapStart := 0
  heapSize := 0
  heapEnd := 0
  isTerminal := false
  isChildOfTerminal := false
  connectors := fun _ => 0

-- The processes and their open files, with file_table[] and the counters of the
-- inodes; stdin, stdout and stderr are files like any other.
structure Processes extends Net where
  info : Nat → ProcessInfo
  fdCounter : Nat → Int
  fileTable : Nat → Nat
  inodeCounter : Nat → Int
  stdin : Nat
  stdout : Nat
  stderr : Nat

def Processes.setInfo (p : Processes) (pid : Nat) (change : ProcessInfo → ProcessInfo) : Processes :=
  {p with info := Function.update p.info pid (change (p.info pid))}

def Processes.setObjects (p : Processes) (pid : Nat) (objects : Nat → Option Nat) : Processes :=
  {p with objects := Function.update p.objects pid objects}

-- get_free_slots_in_the_file_table: a structure that no descriptor uses.
def freeFileSlot (p : Processes) : Option Nat :=
  (List.range numberOfFiles).find? fun i => (p.file (p.fileTable i)).Valid ∧ p.fdCounter (p.fileTable i) = 0

-- get_free_slots_in_the_inode_table. All inodes of the table are valid from the start.
def freeInodeSlot (p : Processes) : Option Nat := (List.range 32).find? fun i => p.inodeCounter i = 0

def File.created (f : File) (object : ObjectType) (base : Int → UInt8) : File :=
  {f with
    object := object
    used := true
    magic := 1234
    descriptor := -1
    base := base
    p := 0
    r := 0
    w := 0
    lbfsize := promptSize
    cnt := promptSize
    flags := swr ||| srd
    sync := {f.sync with canRead := true,canWrite := true,canAccept := false,canConnect := false}}

-- `buffer` is what kmalloc returns.
def newFile (object : ObjectType) (buffer : Option (Int → UInt8)) (p : Processes) : Except Halt (Nat × Processes) := do
  let slot ← pointer (freeFileSlot p) (.panic "new_file: slot")
  let id := p.fileTable slot
  let base ← pointer buffer (.panic "new_file: new_file->_base")
  let inode ← pointer (freeInodeSlot p) (.panic "new_file: new_file inode slot\n")
  .ok (id,{p with
    file := Function.update p.file id ((p.file id).created object base)
    fdCounter := Function.update p.fdCounter id 1
    inodeCounter := Function.update p.inodeCounter inode 1})

-- fd_counter++ for every descriptor of the father that is open.
def countedAgain (objects : Nat → Option Nat) (counter : Nat → Int) : Nat → Int :=
  (List.range numberOfFiles).foldl (fun counter i =>
    match objects i with
    | none => counter
    | some f => Function.update counter f (counter f+1)) counter

-- All open files, and then the standard streams over the first three.
def inheritedObjects (p : Processes) (objects : Nat → Option Nat) (i : Nat) : Option Nat :=
  if i = 0 then some p.stdin
  else if i = 1 then some p.stdout
  else if i = 2 then some p.stderr
  else objects i

def Processes.inherit (p : Processes) (father child : Nat) : Processes :=
  {p.setObjects child (inheritedObjects p (p.objects father)) with fdCounter := countedAgain (p.objects father) p.fdCounter}

-- An empty spot for a connector; the slot 31 is left for a socket.
def emptySpot (objects : Nat → Option Nat) : Option Nat := (List.range' 3 27).find? fun i => objects i = none

-- Two connectors in the table of a process.
def Processes.connect (p : Processes) (pid connector1 connector2 : Nat) : Except Halt Processes := do
  let spot1 ← pointer (emptySpot (p.objects pid)) (.panic "copy_process_struct: No spot1 for connector1\n")
  let objects := Function.update (p.objects pid) spot1 (some connector1)
  let spot2 ← pointer (emptySpot objects) (.panic "copy_process_struct: No spot2 for connector1\n")
  .ok ((p.setObjects pid (Function.update objects spot2 (some connector2))).setInfo pid fun i =>
    {i with connectors := Function.update (Function.update i.connectors 0 spot1) 1 spot2})

def validProcess (p : Processes) (pid : Nat) : Prop := ∃ process, p.kernel.processList pid = some process ∧ process.used = true ∧ process.magic = 1234

instance (p : Processes) (pid : Nat) : Decidable (validProcess p pid) :=
  match found : p.kernel.processList pid with
  | none => .isFalse fun ⟨_,same,_⟩ => by simp [found] at same
  | some process =>
      if valid : process.used = true ∧ process.magic = 1234 then .isTrue ⟨process,found,valid⟩
      else .isFalse fun ⟨other,same,checked⟩ => valid (by cases found.symm.trans same; exact checked)

def pidAt (p : Processes) (slot : Nat) : Int :=
  match p.kernel.processList slot with
  | none => -1
  | some process => process.pid

-- copy_process_struct, for the processes at two slots of processList. A terminal makes
-- two connectors, `buffers` being what kmalloc returns for them.
def copyProcessStruct (father child : Nat) (buffers : Option (Int → UInt8) × Option (Int → UInt8)) (p : Processes) :
    Except Halt (Int × Processes) :=
  if ¬ validProcess p father then .ok (1,p)
  else if ¬ validProcess p child then .ok (1,p)
  else
    let parent := p.info father
    let p := p.setInfo child fun i =>
      {i with
        ppid := pidAt p father
        image := parent.childImage
        imagePa := parent.childImagePa
        childImage := 0
        childImagePa := 0
        cpl := parent.cpl}
    let p := p.inherit father child
    if parent.isTerminal = true then do
      let (connector1,p) ← newFile .file buffers.1 p
      let (connector2,p) ← newFile .file buffers.2 p
      let p ← p.connect father connector1 connector2
      let p ← p.connect child connector1 connector2
      .ok (0,p.setInfo child fun i => {i with isChildOfTerminal := true})
    else .ok (0,p)

-- __close_imp. What fsSaveFile writes to the disk is not in this state.
def closeImp (fd : Int) (p : Processes) : Except Halt (Int × Processes) :=
  if fd < 0 ∨ openMax ≤ fd then .ok (-ebadf,p)
  else
    match currentProcess p.kernel with
    | none => .ok (-1,p)
    | some pid =>
        match p.objects pid fd.toNat with
        | none => .ok (-1,p)
        | some id =>
            let closed := fun p : Processes => p.setObjects pid (Function.update (p.objects pid) fd.toNat none)
            let object := p.file id
            if ¬ object.Valid then .ok (-1,p)
            else
              match object.object with
              | .socket => do
                  let s ← pointer object.socket (.nullPointer "object->socket")
                  .ok (0,closed {p with toNet := p.toNet.onSocket s fun socket => {socket with used := false,magic := 0}})
              | .pipe => .ok (0,closed p)
              | .virtualConsole => .ok (0,p)
              | .tty => .ok (0,closed p)
              | .file => .ok (0,closed {p with toIo := p.toIo.put id {object with lbfsize := max object.lbfsize 512}})
              | _ => .ok (-1,p)

end GramadoKernel
