import GramadoKernel.Descriptors
import GramadoKernel.Volume

namespace GramadoKernel

-- socklib.h, kerrno.h, x64gva.h
def afUnix : UInt16 := 1
def afInet : UInt8 := 2
def afGramado : UInt16 := 8000
def portsWs : UInt16 := 4040
def portsNs : UInt16 := 4041
def gramadoPortWs : Int := 11
def gramadoPortNs : Int := 14
def gramadoPortFs : Int := 16
def enotsock : Int := 88
def controlthreadBase : UInt64 := 0x00200000

inductive SocketState where
  | null | unconnected | connecting | connected | disconnecting
  deriving DecidableEq

-- struct socket_d, as connections use it.
structure Socket where
  used : Bool
  magic : Nat
  state : SocketState
  port : UInt16
  privateFile : Option Nat
  link : Option Nat
  clientfdOnServer : Int
  backlogMax : Int
  backlogHead : Int
  backlogTail : Int
  pendingConnections : Int → Option Nat
  clientBacklogPos : Int
  isAcceptingConnections : Bool

def Socket.Valid (s : Socket) : Prop := s.used = true ∧ s.magic = 1234
instance (s : Socket) : Decidable s.Valid := inferInstanceAs (Decidable (_ ∧ _))

-- create_socket_object, with the file that socket_inet and its siblings put in.
def createSocketObject (file : Nat) : Socket where
  used := true
  magic := 1234
  state := .unconnected
  port := 0
  privateFile := some file
  link := none
  clientfdOnServer := -1
  backlogMax := 4
  backlogHead := 0
  backlogTail := 0
  pendingConnections := fun _ => none
  clientBacklogPos := 0
  isAcceptingConnections := false

-- The open files with the sockets behind them; `priv` is the private socket of
-- every process and `gramadoPorts` the pid of the server at every port.
structure Net extends Io where
  socket : Nat → Socket
  priv : Nat → Option Nat
  gramadoPorts : Int → Int
  newClientPortNumber : UInt16

def Net.onSocket (n : Net) (s : Nat) (change : Socket → Socket) : Net :=
  {n with socket := Function.update n.socket s (change (n.socket s))}

def Net.setObject (n : Net) (pid fd : Nat) (file : Option Nat) : Net :=
  {n with objects := Function.update n.objects pid (Function.update (n.objects pid) fd file)}

def Net.credited (n : Net) : Net := {n with toIo := n.toIo.credited}

def isSocket (f : File) : Bool := f.magic = 1234 && f.object = .socket

-- processList[pid] behind the range and NULL checks.
def processAt (k : Kernel) (pid : Int) : Option Nat :=
  if 0 ≤ pid ∧ pid < processCountMax ∧ k.processList pid.toNat ≠ none then some pid.toNat else none

def socketGetGramadoPort (n : Net) (port : Int) : Int :=
  if port < 0 ∨ 31 < port then -1 else n.gramadoPorts port

-- The fields of the bytes at a `struct sockaddr *`, and at the same bytes as a
-- `struct sockaddr_in *`, where the family is the second byte.
def saFamily (addr : Nat → UInt8) : UInt16 := littleEndian16 (addr 0) (addr 1)
def saData (addr : Nat → UInt8) (i : Nat) : UInt8 := addr (2+i)
def sinFamily (addr : Nat → UInt8) : UInt8 := addr 1
def sinPort (addr : Nat → UInt8) : UInt16 := littleEndian16 (addr 2) (addr 3)
def sinAddr (addr : Nat → UInt8) (i : Nat) : UInt8 := addr (4+i)

-- The pid that __connect_inet finds behind an address.
def inetTarget (n : Net) (addr : Nat → UInt8) : Option Int :=
  if saFamily addr = afUnix ∨ saFamily addr = afGramado then none
  else if sinFamily addr ≠ afInet then none
  else
    let port := sinPort addr
    let target :=
      if port = 21 ∨ port = 23 ∨ port = 67 ∨ port = 80 ∨ port = 443 then none
      else if port = portsWs then some (socketGetGramadoPort n gramadoPortWs)
      else if port = portsNs then some (socketGetGramadoPort n gramadoPortNs)
      else none
    if sinAddr addr 3 = 127 ∧ sinAddr addr 2 = 0 ∧ sinAddr addr 1 = 0 ∧ sinAddr addr 0 = 1 then target else none

-- The pid that __connect_local finds; the letters are those of ds, ns and fs.
def localTarget (n : Net) (addr : Nat → UInt8) : Option Int :=
  if saFamily addr = afUnix then none
  else if saFamily addr = afGramado then
    let target :=
      if saData addr 0 = 0x64 ∧ saData addr 1 = 0x73 then socketGetGramadoPort n gramadoPortWs
      else if saData addr 0 = 0x6E ∧ saData addr 1 = 0x73 then socketGetGramadoPort n gramadoPortNs
      else if saData addr 0 = 0x66 ∧ saData addr 1 = 0x73 then socketGetGramadoPort n gramadoPortFs
      else -1
    if target < 0 ∨ processCountMax ≤ target then none else some target
  else none

-- The client socket gets the next port number.
def Net.portGiven (n : Net) (c : Nat) : Net :=
  {n.onSocket c fun x => {x with port := n.newClientPortNumber+1} with newClientPortNumber := n.newClientPortNumber+1}

-- The first free descriptor from 3 to 30.
def freeSlot (objects : Nat → Option Nat) : Option Nat :=
  (List.range' 3 28).find? fun i => objects i = none

-- The end of both connect workers: the client's file becomes the server's
-- descriptor 31 and its socket a pending connection.
def linkClient (n : Net) (server s c f : Nat) (slot : Nat) : Net :=
  let n := n.onSocket s fun x => {x with clientfdOnServer := slot}
  let n := n.onSocket c fun x => {x with clientfdOnServer := slot}
  let n := n.setObject server 31 (some f)
  let n := n.onSocket c fun x => {x with link := some s}
  let n := n.onSocket s fun x => {x with link := some c}
  let n := n.onSocket c fun x => {x with state := .connecting}
  let n := n.onSocket s fun x => {x with state := .connecting}
  let next := (n.socket s).backlogTail+1
  let tail := if (n.socket s).backlogMax ≤ next then 0 else next
  let n := n.onSocket s fun x => {x with
    backlogTail := tail
    pendingConnections := Function.update x.pendingConnections tail (some c)}
  n.onSocket c fun x => {x with clientBacklogPos := tail}

-- What both connect workers do once they know the target.
def connectTo (name : String) (n : Net) (clientSocketFd target : Int) : Except Halt (Int × Net) :=
  match (processAt n.kernel n.kernel.currentPid).bind fun pid => n.objects pid clientSocketFd.toNat with
  | none => .ok (-1,n)
  | some f =>
      if isSocket (n.file f) = false then .ok (-enotsock,n)
      else if (n.file f).sync.canConnect = false then .ok (-1,n)
      else
        match (n.file f).socket with
        | none => .ok (-1,n)
        | some c =>
            if (n.socket c).state ≠ .unconnected then .ok (-1,n)
            else
              let n := n.portGiven c
              match processAt n.kernel target with
              | none => .ok (-1,n)
              | some server =>
                  match freeSlot (n.objects server) with
                  | none => .error (.panic (name ++ ": [FIXME] We need a slot in the server\n"))
                  | some slot =>
                      match n.priv server with
                      | none => .ok (-1,n)
                      | some s => .ok (0,linkClient n server s c f slot)

def connectInet (n : Net) (sockfd : Int) (addr : Nat → UInt8) : Except Halt (Int × Net) :=
  let n := n.credited
  if sockfd < 0 ∨ openMax ≤ sockfd then .ok (-einval,n)
  else
    match inetTarget n addr with
    | none => .ok (-1,n)
    | some target => connectTo "__connect_inet" n sockfd target

def connectLocal (n : Net) (sockfd : Int) (addr : Nat → UInt8) : Except Halt (Int × Net) :=
  let n := n.credited
  if sockfd < 0 ∨ openMax ≤ sockfd then .ok (-einval,n)
  else
    match localTarget n addr with
    | none => .ok (-1,n)
    | some target => connectTo "__connect_local" n sockfd target

-- `bytes` is the memory at `addr`.
def sysConnect (n : Net) (sockfd : Int) (addr : UInt64) (bytes : Nat → UInt8) (addrlen : UInt32) : Except Halt (Int × Net) :=
  if sockfd < 0 ∨ openMax ≤ sockfd then .ok (-ebadf,n)
  else if addr = 0 then .ok (-einval,n)
  else if addr < controlthreadBase then .error (.panic "sys_connect: addr is not ring3\n")
  else if addrlen = 0 then .ok (-einval,n)
  else if saFamily bytes = afUnix ∨ saFamily bytes = afGramado then connectLocal n sockfd bytes
  else connectInet n sockfd bytes

-- The scan of the pending connections from an index on.
def pendingFrom (pending : Int → Option Nat) : Nat → Int → Option Nat
  | 0,_ => none
  | turns+1,i =>
      match pending i with
      | some c => some c
      | none => pendingFrom pending turns (i+1)

-- The index at which sys_accept starts its scan.
def nextHead (x : Socket) : Int := if x.backlogMax ≤ x.backlogHead+1 then 0 else x.backlogHead+1

def scanned (x : Socket) : Option Nat := pendingFrom x.pendingConnections (x.backlogMax-nextHead x+1).toNat (nextHead x)

-- sys_accept on the server's socket `s`.
def acceptPending (n : Net) (pid s : Nat) : Except Halt (Int × Net) :=
  let server := n.socket s
  let head := nextHead server
  if head < 0 ∨ server.backlogMax ≤ head then .error (.panic "sys_accept: Backlog limits\n")
  else
    match scanned server with
    | none => .ok (-1,n.onSocket s fun x => {x with state := .connecting,backlogHead := head})
    | some c =>
        let n := n.onSocket s fun x => {x with state := .connected,backlogHead := head}
        if ¬ (n.socket c).Valid then .ok (-1,n.onSocket s fun x => {x with state := .connecting})
        else
          let n := n.onSocket c fun x => {x with state := .connected}
          match (n.socket c).privateFile with
          | none => .error (.nullPointer "cFile->_file")
          | some cFile =>
              let n := n.setObject pid 31 (some cFile)
              .ok (31,{n with file := Function.update n.file cFile {n.file cFile with descriptor := 31}})

def sysAccept (n : Net) (sockfd : Int) (addr addrlen : UInt64) : Except Halt (Int × Net) :=
  let n := n.credited
  if sockfd < 0 ∨ openMax ≤ sockfd then .ok (-ebadf,n)
  else if addr = 0 then .ok (-einval,n)
  else if addr < controlthreadBase then .error (.panic "sys_accept: addr is not ring3\n")
  else if addrlen = 0 then .ok (-einval,n)
  else
    match currentProcess n.kernel with
    | none => .ok (-1,n)
    | some pid =>
        match n.objects pid sockfd.toNat with
        | none => .ok (-1,n)
        | some sFile =>
            if ¬ (n.file sFile).Valid then .ok (-1,n)
            else if isSocket (n.file sFile) = false then .ok (-enotsock,n)
            else if (n.file sFile).sync.canAccept = false then .ok (-1,n)
            else
              match (n.file sFile).socket with
              | none => .ok (-1,n)
              | some s =>
                  if ¬ (n.socket s).Valid then .ok (-1,n)
                  else if (n.socket s).state = .connecting ∨ (n.socket s).state = .connected then acceptPending n pid s
                  else .ok (-1,n)

def listenBacklog (backlog : Int) : Int := if backlog ≤ 0 then 1 else if 32 ≤ backlog then 31 else backlog

def sysListen (n : Net) (sockfd backlog : Int) : Except Halt (Int × Net) :=
  let n := n.credited
  if sockfd < 0 ∨ openMax ≤ sockfd then .ok (-ebadf,n)
  else
    match processAt n.kernel n.kernel.currentPid with
    | none => .ok (-1,n)
    | some pid =>
        match n.objects pid sockfd.toNat with
        | none => .ok (-1,n)
        | some f =>
            if isSocket (n.file f) = false then .ok (-enotsock,n)
            else
              match (n.file f).socket with
              | none => .ok (-1,n)
              | some s =>
                  if n.priv pid ≠ some s then .error (.panic "sys_listen: [TEST] f->socket != p->priv\n")
                  else .ok (0,n.onSocket s fun x => {x with backlogMax := listenBacklog backlog,isAcceptingConnections := true})

-- A change of the threads alone.
def Net.withKernel (n : Net) (k : Kernel) : Net := {n with toIo := {n.toIo with kernel := k}}

@[simp] theorem doCredits_currentPid (tid : Int) (k : Kernel) : (doCreditsByTid tid k).currentPid = k.currentPid := by
  unfold doCreditsByTid Kernel.onThread
  split
  · rfl
  · split
    · rfl
    · rfl

@[simp] theorem doCredits_processList (tid : Int) (k : Kernel) : (doCreditsByTid tid k).processList = k.processList :=
  (onThread_globals k tid _ _).processList

theorem credited_processAt (n : Net) (pid : Int) : processAt n.credited.kernel pid = processAt n.kernel pid := by
  simp only [processAt,Net.credited,Io.credited,doCredits_processList]

theorem credited_currentProcess (n : Net) : currentProcess n.credited.kernel = currentProcess n.kernel := by
  simp only [currentProcess,Net.credited,Io.credited,doCredits_processList,doCredits_currentPid]

theorem credited_currentPid (n : Net) : n.credited.kernel.currentPid = n.kernel.currentPid :=
  doCredits_currentPid n.kernel.currentThread n.kernel

theorem currentProcess_at {k : Kernel} {pid : Nat} (current : currentProcess k = some pid) : processAt k k.currentPid = some pid := by
  unfold currentProcess at current
  split at current
  · rename_i range
    split at current
    · cases current
    · rename_i process present
      split at current
      · rw [← current]
        exact if_pos ⟨range.1,range.2,by simp [present]⟩
      · cases current
  · cases current

-- The file and the socket behind a descriptor of the calling process.
def callerFile (n : Net) (fd : Int) : Option Nat := (processAt n.kernel n.kernel.currentPid).bind fun pid => n.objects pid fd.toNat

def callerSocket (n : Net) (fd : Int) : Option Nat := (callerFile n fd).bind fun f => (n.file f).socket

theorem credited_callerFile (n : Net) (fd : Int) : callerFile n.credited fd = callerFile n fd := by
  simp only [callerFile,credited_processAt,credited_currentPid]
  rfl

-- The pid behind an address, whichever worker looks for it.
def connectTarget (n : Net) (bytes : Nat → UInt8) : Option Int :=
  if saFamily bytes = afUnix ∨ saFamily bytes = afGramado then localTarget n bytes else inetTarget n bytes

-- A call of sys_connect that comes to the end.
structure Connects (n : Net) (sockfd : Int) (bytes : Nat → UInt8) (server s c f slot : Nat) : Prop where
  range : 0 ≤ sockfd ∧ sockfd < openMax
  file : callerFile n sockfd = some f
  object : isSocket (n.file f) = true
  permitted : (n.file f).sync.canConnect = true
  client : (n.file f).socket = some c
  unconnected : (n.socket c).state = .unconnected
  target : ∃ target, connectTarget n bytes = some target ∧ processAt n.kernel target = some server
  free : freeSlot (n.objects server) = some slot
  priv : n.priv server = some s

-- A call that gives the client a port and then finds nobody to connect it to.
structure Wastes (n : Net) (sockfd : Int) (bytes : Nat → UInt8) (c f : Nat) : Prop where
  range : 0 ≤ sockfd ∧ sockfd < openMax
  file : callerFile n sockfd = some f
  object : isSocket (n.file f) = true
  permitted : (n.file f).sync.canConnect = true
  client : (n.file f).socket = some c
  unconnected : (n.socket c).state = .unconnected
  target : ∃ target, connectTarget n bytes = some target ∧
    ∀ server, processAt n.kernel target = some server → freeSlot (n.objects server) ≠ none ∧ n.priv server = none

section Workers

variable {n after : Net} {name : String} {sockfd target value : Int} {addr : UInt64} {bytes : Nat → UInt8} {addrlen : UInt32} {c f : Nat}

theorem connectTo_cases (made : connectTo name n sockfd target = .ok (value,after)) :
    value < 0 ∧ after = n ∨
      ∃ c f, callerFile n sockfd = some f ∧ isSocket (n.file f) = true ∧ (n.file f).sync.canConnect = true ∧
        (n.file f).socket = some c ∧ (n.socket c).state = .unconnected ∧
        ((value < 0 ∧ (∀ server, processAt n.kernel target = some server → freeSlot (n.objects server) ≠ none ∧ n.priv server = none) ∧
            after = n.portGiven c) ∨
          ∃ server s slot, value = 0 ∧ processAt n.kernel target = some server ∧ freeSlot (n.objects server) = some slot ∧
            n.priv server = some s ∧ after = linkClient (n.portGiven c) server s c f slot) := by
  unfold connectTo at made
  split at made
  · cases made
    exact .inl ⟨by decide,rfl⟩
  · rename_i f file
    split at made
    · cases made
      exact .inl ⟨by decide,rfl⟩
    · rename_i object
      split at made
      · cases made
        exact .inl ⟨by decide,rfl⟩
      · rename_i permitted
        split at made
        · cases made
          exact .inl ⟨by decide,rfl⟩
        · rename_i c client
          split at made
          · cases made
            exact .inl ⟨by decide,rfl⟩
          · rename_i unconnected
            refine .inr ⟨c,f,file,by simpa using object,by simpa using permitted,client,not_not.mp unconnected,?_⟩
            simp only at made
            split at made
            · rename_i nobody
              cases made
              refine .inl ⟨by decide,?_,rfl⟩
              intro server present
              exact absurd (nobody.symm.trans present) (by simp)
            · rename_i server present
              split at made
              · cases made
              · rename_i slot free
                split at made
                · rename_i priv
                  cases made
                  refine .inl ⟨by decide,?_,rfl⟩
                  intro other found
                  cases present.symm.trans found
                  exact ⟨by rw [show freeSlot (n.objects server) = some slot from free]; simp,priv⟩
                · rename_i s priv
                  cases made
                  exact .inr ⟨server,s,slot,rfl,present,free,priv,rfl⟩

theorem credited_targets (n : Net) (bytes : Nat → UInt8) :
    localTarget n.credited bytes = localTarget n bytes ∧ inetTarget n.credited bytes = inetTarget n bytes := ⟨rfl,rfl⟩

-- The worker that a call with good arguments comes to.
theorem sysConnect_worker (range : 0 ≤ sockfd ∧ sockfd < openMax) (high : controlthreadBase ≤ addr) (long : addrlen ≠ 0)
    (found : connectTarget n bytes = some target) : ∃ name, sysConnect n sockfd addr bytes addrlen = connectTo name n.credited sockfd target := by
  have inside : ¬ (sockfd < 0 ∨ openMax ≤ sockfd) := by omega
  have visible : addr ≠ 0 := by
    rintro rfl
    exact absurd high (by decide)
  simp only [sysConnect,inside,visible,if_false,UInt64.not_lt.mpr high,long]
  unfold connectTarget at found
  split
  · rename_i near
    rw [if_pos near] at found
    simp only [connectLocal,inside,if_false,credited_targets,found]
    exact ⟨_,rfl⟩
  · rename_i far
    rw [if_neg far] at found
    simp only [connectInet,inside,if_false,credited_targets,found]
    exact ⟨_,rfl⟩

theorem sysConnect_reaches (made : sysConnect n sockfd addr bytes addrlen = .ok (value,after)) :
    (value < 0 ∧ ∃ k, after = n.withKernel k) ∨
      ∃ name target, (0 ≤ sockfd ∧ sockfd < openMax) ∧ controlthreadBase ≤ addr ∧ addrlen ≠ 0 ∧ connectTarget n bytes = some target ∧
        connectTo name n.credited sockfd target = .ok (value,after) := by
  by_cases good : (0 ≤ sockfd ∧ sockfd < openMax) ∧ controlthreadBase ≤ addr ∧ addrlen ≠ 0
  · obtain ⟨range,high,long⟩ := good
    cases found : connectTarget n bytes with
    | some target =>
        obtain ⟨name,same⟩ := sysConnect_worker range high long found
        exact .inr ⟨name,target,range,high,long,rfl,same ▸ made⟩
    | none =>
        have inside : ¬ (sockfd < 0 ∨ openMax ≤ sockfd) := by omega
        have visible : addr ≠ 0 := by
          rintro rfl
          exact absurd high (by decide)
        simp only [sysConnect,inside,visible,if_false,UInt64.not_lt.mpr high,long] at made
        unfold connectTarget at found
        split at made
        · rename_i near
          rw [if_pos near] at found
          simp only [connectLocal,inside,if_false,credited_targets,found] at made
          cases made
          exact .inl ⟨by decide,n.credited.kernel,rfl⟩
        · rename_i far
          rw [if_neg far] at found
          simp only [connectInet,inside,if_false,credited_targets,found] at made
          cases made
          exact .inl ⟨by decide,n.credited.kernel,rfl⟩
  · unfold sysConnect at made
    split at made
    · cases made
      exact .inl ⟨by decide,n.kernel,rfl⟩
    · split at made
      · cases made
        exact .inl ⟨by decide,n.kernel,rfl⟩
      · split at made
        · cases made
        · split at made
          · cases made
            exact .inl ⟨by decide,n.kernel,rfl⟩
          · rename_i inside _ high long
            exact absurd ⟨by omega,UInt64.not_lt.mp high,long⟩ good

-- A call of sys_connect fails and leaves all but a port number alone, or it links
-- the client to the server.
theorem sysConnect_cases (made : sysConnect n sockfd addr bytes addrlen = .ok (value,after)) :
    (value < 0 ∧ ∃ k, after = n.withKernel k ∨ ∃ c f, Wastes n sockfd bytes c f ∧ controlthreadBase ≤ addr ∧ addrlen ≠ 0 ∧
        after = (n.withKernel k).portGiven c) ∨
      ∃ server s c f slot k, value = 0 ∧ Connects n sockfd bytes server s c f slot ∧ controlthreadBase ≤ addr ∧ addrlen ≠ 0 ∧
        after = linkClient ((n.withKernel k).portGiven c) server s c f slot := by
  rcases sysConnect_reaches made with ⟨negative,k,same⟩ | ⟨name,target,range,high,long,found,worker⟩
  · exact .inl ⟨negative,k,.inl same⟩
  · rcases connectTo_cases worker with ⟨negative,same⟩ | ⟨c,f,file,object,permitted,client,unconnected,rest⟩
    · exact .inl ⟨negative,n.credited.kernel,.inl same⟩
    · rw [credited_callerFile] at file
      rw [credited_processAt] at rest
      rcases rest with ⟨negative,nobody,same⟩ | ⟨server,s,slot,zero,present,free,priv,same⟩
      · exact .inl ⟨negative,n.credited.kernel,
          .inr ⟨c,f,⟨range,file,object,permitted,client,unconnected,target,found,nobody⟩,high,long,same⟩⟩
      · exact .inr ⟨server,s,c,f,slot,n.credited.kernel,zero,
          ⟨range,file,object,permitted,client,unconnected,⟨target,found,present⟩,free,priv⟩,high,long,same⟩

-- What a worker does with a client that may connect.
theorem connectTo_given (file : callerFile n sockfd = some f) (object : isSocket (n.file f) = true)
    (permitted : (n.file f).sync.canConnect = true) (client : (n.file f).socket = some c) (unconnected : (n.socket c).state = .unconnected) :
    connectTo name n sockfd target =
      match processAt n.kernel target with
      | none => .ok (-1,n.portGiven c)
      | some server =>
          match freeSlot (n.objects server) with
          | none => .error (.panic (name ++ ": [FIXME] We need a slot in the server\n"))
          | some slot =>
              match n.priv server with
              | none => .ok (-1,n.portGiven c)
              | some s => .ok (0,linkClient (n.portGiven c) server s c f slot) := by
  unfold callerFile at file
  simp only [connectTo,file,object,permitted,client,unconnected,Bool.true_eq_false,if_false,ne_eq,not_true_eq_false]
  rfl

theorem Connects.linked {server s slot : Nat} (connects : Connects n sockfd bytes server s c f slot) (high : controlthreadBase ≤ addr)
    (long : addrlen ≠ 0) : sysConnect n sockfd addr bytes addrlen = .ok (0,linkClient (n.credited.portGiven c) server s c f slot) := by
  obtain ⟨range,file,object,permitted,client,unconnected,⟨target,found,present⟩,free,priv⟩ := connects
  obtain ⟨name,worker⟩ := sysConnect_worker range high long found
  rw [← credited_callerFile] at file
  rw [← credited_processAt] at present
  have free' : freeSlot (n.credited.objects server) = some slot := free
  have priv' : n.credited.priv server = some s := priv
  rw [worker,connectTo_given file object permitted client unconnected]
  simp only [present,free',priv']

theorem Wastes.refused (wastes : Wastes n sockfd bytes c f) (high : controlthreadBase ≤ addr) (long : addrlen ≠ 0) :
    sysConnect n sockfd addr bytes addrlen = .ok (-1,n.credited.portGiven c) := by
  obtain ⟨range,file,object,permitted,client,unconnected,target,found,nobody⟩ := wastes
  obtain ⟨name,worker⟩ := sysConnect_worker range high long found
  rw [← credited_callerFile] at file
  rw [worker,connectTo_given file object permitted client unconnected,credited_processAt]
  cases present : processAt n.kernel target with
  | none => rfl
  | some server =>
      obtain ⟨room,priv⟩ := nobody server present
      obtain ⟨slot,free⟩ := Option.ne_none_iff_exists'.mp room
      have free' : freeSlot (n.credited.objects server) = some slot := free
      have priv' : n.credited.priv server = none := priv
      simp only [free',priv']

end Workers

-- A call of sys_listen that comes to the end.
structure Listens (n : Net) (sockfd : Int) (pid s f : Nat) : Prop where
  range : 0 ≤ sockfd ∧ sockfd < openMax
  caller : processAt n.kernel n.kernel.currentPid = some pid
  file : n.objects pid sockfd.toNat = some f
  object : isSocket (n.file f) = true
  socket : (n.file f).socket = some s
  priv : n.priv pid = some s

theorem sysListen_cases {n after : Net} {sockfd backlog value : Int} (made : sysListen n sockfd backlog = .ok (value,after)) :
    (∃ k, after = n.withKernel k) ∨ ∃ pid s f k, Listens n sockfd pid s f ∧
      after = (n.withKernel k).onSocket s fun x => {x with backlogMax := listenBacklog backlog,isAcceptingConnections := true} := by
  unfold sysListen at made
  simp only [credited_processAt,credited_currentPid] at made
  split at made
  · cases made
    exact .inl ⟨n.credited.kernel,rfl⟩
  · rename_i inside
    split at made
    · cases made
      exact .inl ⟨n.credited.kernel,rfl⟩
    · rename_i pid present
      split at made
      · cases made
        exact .inl ⟨n.credited.kernel,rfl⟩
      · rename_i f file
        split at made
        · cases made
          exact .inl ⟨n.credited.kernel,rfl⟩
        · rename_i object
          split at made
          · cases made
            exact .inl ⟨n.credited.kernel,rfl⟩
          · rename_i s socket
            split at made
            · cases made
            · rename_i priv
              cases made
              exact .inr ⟨pid,s,f,n.credited.kernel,
                ⟨by omega,present,file,by simpa [Net.credited,Io.credited] using object,socket,not_not.mp priv⟩,rfl⟩

-- The state after sys_accept has taken the client `c`, with its file.
def acceptClient (n : Net) (pid s c cFile : Nat) : Net :=
  let n := n.onSocket s fun x => {x with state := .connected,backlogHead := nextHead x}
  let n := n.onSocket c fun x => {x with state := .connected}
  let n := n.setObject pid 31 (some cFile)
  {n with file := Function.update n.file cFile {n.file cFile with descriptor := 31}}

theorem acceptPending_cases {n after : Net} {pid s : Nat} {value : Int} (made : acceptPending n pid s = .ok (value,after)) :
    value = -1 ∧ after = n.onSocket s (fun x => {x with state := .connecting,backlogHead := nextHead x}) ∨
      ∃ c cFile, value = 31 ∧ scanned (n.socket s) = some c ∧ (n.socket c).privateFile = some cFile ∧
        after = acceptClient n pid s c cFile := by
  unfold acceptPending at made
  simp only at made
  split at made
  · cases made
  · split at made
    · cases made
      exact .inl ⟨rfl,rfl⟩
    · rename_i c found
      split at made
      · cases made
        refine .inl ⟨rfl,?_⟩
        simp only [Net.onSocket,Function.update_self,Function.update_idem]
      · split at made
        · cases made
        · rename_i cFile file
          cases made
          refine .inr ⟨c,cFile,rfl,found,?_,rfl⟩
          by_cases same : c = s
          · subst same
            simpa [Net.onSocket] using file
          · simpa [Net.onSocket,same] using file

theorem sysAccept_cases {n after : Net} {sockfd value : Int} {addr addrlen : UInt64}
    (made : sysAccept n sockfd addr addrlen = .ok (value,after)) :
    (value < 0 ∧ ∃ k, after = n.withKernel k) ∨ ∃ pid s k, currentProcess n.kernel = some pid ∧ callerSocket n sockfd = some s ∧
      ((n.socket s).state = .connecting ∨ (n.socket s).state = .connected) ∧
      acceptPending (n.withKernel k) pid s = .ok (value,after) := by
  unfold sysAccept at made
  simp only [credited_currentProcess] at made
  have refused : ∀ {code : Int}, code < 0 → (.ok (code,n.credited) : Except Halt (Int × Net)) = .ok (value,after) →
      value < 0 ∧ ∃ k, after = n.withKernel k := by
    intro code negative same
    cases same
    exact ⟨negative,n.credited.kernel,rfl⟩
  rcases ite_eq_iff.mp made with ⟨_,same⟩ | ⟨_,made⟩
  · exact .inl (refused (by decide) same)
  rcases ite_eq_iff.mp made with ⟨_,same⟩ | ⟨_,made⟩
  · exact .inl (refused (by decide) same)
  rcases ite_eq_iff.mp made with ⟨_,same⟩ | ⟨_,made⟩
  · cases same
  rcases ite_eq_iff.mp made with ⟨_,same⟩ | ⟨_,made⟩
  · exact .inl (refused (by decide) same)
  cases current : currentProcess n.kernel with
  | none =>
      simp only [current] at made
      exact .inl (refused (by decide) made)
  | some pid =>
      simp only [current] at made
      cases file : n.objects pid sockfd.toNat with
      | none =>
          simp only [show n.credited.objects pid sockfd.toNat = none from file] at made
          exact .inl (refused (by decide) made)
      | some f =>
          simp only [show n.credited.objects pid sockfd.toNat = some f from file] at made
          rcases ite_eq_iff.mp made with ⟨_,same⟩ | ⟨_,made⟩
          · exact .inl (refused (by decide) same)
          rcases ite_eq_iff.mp made with ⟨_,same⟩ | ⟨_,made⟩
          · exact .inl (refused (by decide) same)
          rcases ite_eq_iff.mp made with ⟨_,same⟩ | ⟨_,made⟩
          · exact .inl (refused (by decide) same)
          cases socket : (n.file f).socket with
          | none =>
              simp only [show (n.credited.file f).socket = none from socket] at made
              exact .inl (refused (by decide) made)
          | some s =>
              simp only [show (n.credited.file f).socket = some s from socket] at made
              rcases ite_eq_iff.mp made with ⟨_,same⟩ | ⟨_,made⟩
              · exact .inl (refused (by decide) same)
              rcases ite_eq_iff.mp made with ⟨state,pending⟩ | ⟨_,same⟩
              · refine .inr ⟨pid,s,n.credited.kernel,rfl,?_,state,pending⟩
                simp only [callerSocket,callerFile,currentProcess_at current,Option.bind_some,file,socket]
              · exact .inl (refused (by decide) same)

-- The calls that any process makes, with the scheduler in between.
inductive NetCall where
  | switch (k : Kernel)
  | read (fd : Int) (ubuf : UInt64) (count : Int)
  | write (fd : Int) (ubuf : Option (Nat → UInt8)) (count : Int)
  | listen (sockfd backlog : Int)
  | connect (sockfd : Int) (addr : UInt64) (bytes : Nat → UInt8) (addrlen : UInt32)
  | accept (sockfd : Int) (addr addrlen : UInt64)

-- A call and what it returns.
structure NetEvent where
  call : NetCall
  value : Int

inductive NetStep (n : Net) : NetEvent → Net → Prop where
  | switch (k : Kernel) : NetStep n ⟨.switch k,0⟩ (n.withKernel k)
  | read : readImp n.toIo fd ubuf count = .ok answer →
      NetStep n ⟨.read fd ubuf count,answer.value⟩ {n with toIo := answer.io}
  | write : writeImp n.toIo fd ubuf count = answer →
      NetStep n ⟨.write fd ubuf count,answer.value⟩ {n with toIo := answer.io}
  | listen : sysListen n sockfd backlog = .ok (value,after) → NetStep n ⟨.listen sockfd backlog,value⟩ after
  | connect : sysConnect n sockfd addr bytes addrlen = .ok (value,after) →
      NetStep n ⟨.connect sockfd addr bytes addrlen,value⟩ after
  | accept : sysAccept n sockfd addr addrlen = .ok (value,after) → NetStep n ⟨.accept sockfd addr addrlen,value⟩ after

end GramadoKernel
