import GramadoKernel.AcceptedDescriptor
import GramadoKernel.Library.Ring

namespace GramadoKernel

-- Waiting for a client, or serving one: sys_accept goes on only in these states.
def Active (x : Socket) : Prop := x.state = .connecting ∨ x.state = .connected

-- The index at which the next client goes.
def nextTail (x : Socket) : Int := if x.backlogMax ≤ x.backlogTail+1 then 0 else x.backlogTail+1

-- What no call changes in a socket, and the states it does not leave.
structure Keeps (x y : Socket) : Prop where
  used : y.used = x.used
  magic : y.magic = x.magic
  privateFile : y.privateFile = x.privateFile
  active : Active x → Active y

theorem Keeps.refl (x : Socket) : Keeps x x := ⟨rfl,rfl,rfl,id⟩

theorem Keeps.trans (left : Keeps x y) (right : Keeps y z) : Keeps x z :=
  ⟨right.used.trans left.used,right.magic.trans left.magic,right.privateFile.trans left.privateFile,fun active => right.active (left.active active)⟩

-- The same list of pending connections.
structure SameQueue (x y : Socket) : Prop where
  backlogMax : y.backlogMax = x.backlogMax
  backlogHead : y.backlogHead = x.backlogHead
  backlogTail : y.backlogTail = x.backlogTail
  pendingConnections : y.pendingConnections = x.pendingConnections

theorem SameQueue.refl (x : Socket) : SameQueue x x := ⟨rfl,rfl,rfl,rfl⟩

theorem SameQueue.trans (left : SameQueue x y) (right : SameQueue y z) : SameQueue x z :=
  ⟨right.backlogMax.trans left.backlogMax,right.backlogHead.trans left.backlogHead,right.backlogTail.trans left.backlogTail,
    right.pendingConnections.trans left.pendingConnections⟩

-- A client is put into the list, and the server waits for it to be accepted.
structure Joins (x : Socket) (c : Nat) (y : Socket) : Prop where
  backlogMax : y.backlogMax = x.backlogMax
  backlogHead : y.backlogHead = x.backlogHead
  backlogTail : y.backlogTail = nextTail x
  pendingConnections : y.pendingConnections = Function.update x.pendingConnections (nextTail x) (some c)
  active : Active y

-- sys_accept goes on to the next index.
structure Advances (x y : Socket) : Prop where
  backlogMax : y.backlogMax = x.backlogMax
  backlogHead : y.backlogHead = nextHead x
  backlogTail : y.backlogTail = x.backlogTail
  pendingConnections : y.pendingConnections = x.pendingConnections
  active : Active y

theorem onSocket_same (n : Net) (s : Nat) (change : Socket → Socket) : (n.onSocket s change).socket s = change (n.socket s) := by
  simp [Net.onSocket]

theorem onSocket_other (n : Net) {s i : Nat} (change : Socket → Socket) (other : i ≠ s) : (n.onSocket s change).socket i = n.socket i := by
  simp [Net.onSocket,other]

theorem setObject_socket (n : Net) (pid fd : Nat) (file : Option Nat) : (n.setObject pid fd file).socket = n.socket := rfl

-- What a change keeps in a socket, the network keeps in every socket.
theorem onSocket_keeps {n : Net} {s i : Nat} {change : Socket → Socket} (kept : ∀ x, Keeps x (change x)) :
    Keeps (n.socket i) ((n.onSocket s change).socket i) := by
  by_cases own : i = s
  · subst own
    rw [onSocket_same]
    exact kept _
  · rw [onSocket_other n change own]
    exact .refl _

theorem onSocket_queue {n : Net} {s i : Nat} {change : Socket → Socket} (kept : ∀ x, SameQueue x (change x)) :
    SameQueue (n.socket i) ((n.onSocket s change).socket i) := by
  by_cases own : i = s
  · subst own
    rw [onSocket_same]
    exact kept _
  · rw [onSocket_other n change own]
    exact .refl _

theorem onSocket_apart {n : Net} {s i : Nat} {change : Socket → Socket} (other : i ≠ s) :
    SameQueue (n.socket i) ((n.onSocket s change).socket i) := by
  rw [onSocket_other n change other]
  exact .refl _

theorem linkClient_keeps (n : Net) (server s c f slot i : Nat) :
    Keeps (n.socket i) ((linkClient n server s c f slot).socket i) := by
  have waiting : ∀ x : Socket, Keeps x {x with state := .connecting} := fun _ => ⟨rfl,rfl,rfl,fun _ => .inl rfl⟩
  simp only [linkClient]
  refine .trans ?_ (onSocket_keeps fun _ => ⟨rfl,rfl,rfl,id⟩)
  refine .trans ?_ (onSocket_keeps fun _ => ⟨rfl,rfl,rfl,id⟩)
  refine .trans ?_ (onSocket_keeps waiting)
  refine .trans ?_ (onSocket_keeps waiting)
  refine .trans ?_ (onSocket_keeps fun _ => ⟨rfl,rfl,rfl,id⟩)
  refine .trans ?_ (onSocket_keeps fun _ => ⟨rfl,rfl,rfl,id⟩)
  rw [setObject_socket]
  refine .trans ?_ (onSocket_keeps fun _ => ⟨rfl,rfl,rfl,id⟩)
  exact onSocket_keeps fun _ => ⟨rfl,rfl,rfl,id⟩

theorem linkClient_other (n : Net) (server : Nat) {s i : Nat} (c f slot : Nat) (other : i ≠ s) :
    SameQueue (n.socket i) ((linkClient n server s c f slot).socket i) := by
  simp only [linkClient]
  refine .trans ?_ (onSocket_queue fun _ => ⟨rfl,rfl,rfl,rfl⟩)
  refine .trans ?_ (onSocket_apart other)
  iterate 4
    refine .trans ?_ (onSocket_queue fun _ => ⟨rfl,rfl,rfl,rfl⟩)
  rw [setObject_socket]
  refine .trans ?_ (onSocket_queue fun _ => ⟨rfl,rfl,rfl,rfl⟩)
  exact onSocket_apart other

theorem linkClient_joins (n : Net) (server s c f slot : Nat) : Joins (n.socket s) c ((linkClient n server s c f slot).socket s) := by
  by_cases client : s = c
  · subst client
    refine ⟨?_,?_,?_,?_,.inl ?_⟩ <;> simp [linkClient,Net.onSocket,Net.setObject,nextTail]
  · refine ⟨?_,?_,?_,?_,.inl ?_⟩ <;> simp [linkClient,Net.onSocket,Net.setObject,nextTail,client]

theorem acceptClient_keeps (n : Net) (pid s c cFile i : Nat) :
    Keeps (n.socket i) ((acceptClient n pid s c cFile).socket i) := by
  simp only [acceptClient,setObject_socket]
  refine .trans ?_ (onSocket_keeps fun _ => ⟨rfl,rfl,rfl,fun _ => .inr rfl⟩)
  exact onSocket_keeps fun _ => ⟨rfl,rfl,rfl,fun _ => .inr rfl⟩

theorem acceptClient_other (n : Net) (pid : Nat) {s i : Nat} (c cFile : Nat) (other : i ≠ s) :
    SameQueue (n.socket i) ((acceptClient n pid s c cFile).socket i) := by
  simp only [acceptClient,setObject_socket]
  refine .trans ?_ (onSocket_queue fun _ => ⟨rfl,rfl,rfl,rfl⟩)
  exact onSocket_apart other

theorem acceptClient_advances (n : Net) (pid s c cFile : Nat) :
    Advances (n.socket s) ((acceptClient n pid s c cFile).socket s) := by
  by_cases client : s = c
  · subst client
    refine ⟨?_,?_,?_,?_,.inr ?_⟩ <;> simp [acceptClient,Net.onSocket,Net.setObject]
  · refine ⟨?_,?_,?_,?_,.inr ?_⟩ <;> simp [acceptClient,Net.onSocket,Net.setObject,client]

-- The state after sys_accept has found nobody.
def acceptNobody (n : Net) (s : Nat) : Net := n.onSocket s fun x => {x with state := .connecting,backlogHead := nextHead x}

theorem acceptNobody_keeps (n : Net) (s i : Nat) : Keeps (n.socket i) ((acceptNobody n s).socket i) :=
  onSocket_keeps fun _ => ⟨rfl,rfl,rfl,fun _ => .inl rfl⟩

theorem acceptNobody_advances (n : Net) (s : Nat) : Advances (n.socket s) ((acceptNobody n s).socket s) := by
  rw [acceptNobody,onSocket_same]
  exact ⟨rfl,rfl,rfl,rfl,.inl rfl⟩

-- No call changes which socket is behind a file.
theorem either_behind {c : Prop} [Decidable c] {socket : Option Nat} {left right : Transfer} (yes : left.file.socket = socket)
    (no : right.file.socket = socket) : (if c then left else right).file.socket = socket := by
  split
  · exact yes
  · exact no

theorem readStream_behind (f : File) (count : Int) : (readStream f count).file.socket = f.socket := by
  unfold readStream
  refine either_behind rfl (either_behind rfl (either_behind rfl (either_behind rfl (either_behind rfl ?_))))
  exact either_behind rfl (either_behind rfl rfl)

theorem fileReadBuffer_behind (f : File) (ubuf : UInt64) (len : Int) : (fileReadBuffer f ubuf len).file.socket = f.socket := by
  unfold fileReadBuffer
  simp only
  iterate 4
    split
    · rfl
  split
  · rfl
  · rfl
  · exact readStream_behind f _
  · exact readStream_behind f _
  · exact readStream_behind f _
  · rfl

theorem writeStream_behind (f : File) (string : Nat → UInt8) (len : Int) : (writeStream f string len).file.socket = f.socket := by
  have limited : (if f.lbfsize < f.cnt then {f with cnt := f.lbfsize,p := 0,w := 0,r := 0} else f).socket = f.socket := by
    split <;> rfl
  unfold writeStream
  refine either_behind rfl (either_behind rfl (either_behind rfl (either_behind rfl ?_)))
  refine either_behind limited (either_behind limited ?_)
  generalize (if f.lbfsize < f.cnt then {f with cnt := f.lbfsize,p := 0,w := 0,r := 0} else f) = g at limited
  change (if g.w < g.r then {g with w := g.r,cnt := g.lbfsize-g.r} else g).socket = f.socket
  split
  · exact limited
  · exact limited

theorem fileWriteBuffer_behind (f : File) (string : Option (Nat → UInt8)) (len : Int) :
    (fileWriteBuffer f string len).file.socket = f.socket := by
  unfold fileWriteBuffer
  split
  · rfl
  · split
    · rfl
    · split
      · rfl
      · rfl
      · exact writeStream_behind f _ len
      · exact writeStream_behind f _ len
      · exact writeStream_behind f _ len
      · rfl

theorem put_behind (io : Io) (id : Nat) (f : File) (j : Nat) (same : f.socket = (io.file id).socket) :
    ((io.put id f).file j).socket = (io.file j).socket := by
  by_cases own : j = id
  · subst own
    rw [Io.put_same,same]
  · rw [Io.put_other _ _ own]

theorem readFile_behind {io : Io} {id : Nat} {ubuf : UInt64} {count : Int} {answer : Answer}
    (read : readFile io id ubuf count = .ok answer) (j : Nat) : (answer.io.file j).socket = (io.file j).socket := by
  have transferred := fileReadBuffer_behind (io.file id) ubuf count
  have regular : ((readRegular io id ubuf count).io.file j).socket = (io.file j).socket := by
    unfold readRegular
    simp only
    split
    · rfl
    · split
      · exact put_behind _ id _ j transferred
      · exact put_behind _ id _ j transferred
  unfold readFile at read
  split at read
  · cases read
    rfl
  · split at read
    · unfold readSocket at read
      simp only at read
      split at read
      · cases read
        rfl
      · split at read
        · split at read
          · cases read
          · cases read
            exact put_behind _ id _ j rfl
        · split at read
          · cases read
            exact put_behind _ id _ j transferred
          · cases read
            exact put_behind _ id _ j transferred
    · cases read
      exact regular
    all_goals
      cases read
      rfl

theorem writeFile_behind (io : Io) (id : Nat) (source : Nat → UInt8) (count : Int) (j : Nat) :
    ((writeFile io id source count).io.file j).socket = (io.file j).socket := by
  have regular : ((writeRegular io id source count).io.file j).socket = (io.file j).socket := by
    have transferred := fileWriteBuffer_behind (io.file id) (some source) count
    unfold writeRegular
    simp only
    split
    · rfl
    · split
      · exact put_behind _ id _ j transferred
      · exact put_behind _ id _ j transferred
  have message : ((writeSocket io id source count).io.file j).socket = (io.file j).socket := by
    have transferred := fileWriteBuffer_behind {io.file id with flags := 0} (some source) count
    unfold writeSocket
    simp only
    split
    · rfl
    · split
      · exact put_behind _ id _ j rfl
      · split
        · exact put_behind _ id _ j transferred
        · exact put_behind _ id _ j transferred
  unfold writeFile
  simp only
  split
  · rfl
  · split
    · split
      · exact regular
      · rfl
    · split
      · split
        · exact regular
        · rfl
        · rfl
      · split
        case h_2 => exact message
        case h_3 => exact regular
        all_goals rfl

theorem readImp_behind {io : Io} {fd : Int} {ubuf : UInt64} {count : Int} {answer : Answer} (read : readImp io fd ubuf count = .ok answer)
    (j : Nat) : (answer.io.file j).socket = (io.file j).socket := by
  rcases readImp_cases read with ⟨_,_,same⟩ | ⟨id,_,_,_,served⟩
  · rw [same]
  · exact readFile_behind served j

theorem writeImp_behind (io : Io) (fd : Int) (ubuf : Option (Nat → UInt8)) (count : Int) (j : Nat) :
    ((writeImp io fd ubuf count).io.file j).socket = (io.file j).socket := by
  rcases writeImp_cases rfl with ⟨⟨_,_,same⟩,_⟩ | ⟨id,source,_,_,_,served⟩
  · rw [same]
  · rw [served]
    exact writeFile_behind io id source count j

theorem acceptClient_behind (n : Net) (pid s c cFile j : Nat) :
    ((acceptClient n pid s c cFile).file j).socket = (n.file j).socket := by
  by_cases own : j = cFile
  · subst own
    simp [acceptClient,Net.onSocket,Net.setObject]
  · simp [acceptClient,Net.onSocket,Net.setObject,own]

theorem netStep_behind {n after : Net} {e : NetEvent} (step : NetStep n e after) (j : Nat) :
    (after.file j).socket = (n.file j).socket := by
  cases step with
  | switch k => rfl
  | read read => exact readImp_behind read j
  | @write fd ubuf count answer wrote =>
      subst wrote
      exact writeImp_behind n.toIo fd ubuf count j
  | listen made =>
      rcases sysListen_cases made with ⟨k,rfl⟩ | ⟨_,s,f,k,_,rfl⟩
      · rfl
      · rfl
  | connect made =>
      rcases sysConnect_cases made with ⟨_,k,rfl | ⟨c,_,_,_,_,rfl⟩⟩ | ⟨server,s,c,f,slot,k,_,_,_,_,rfl⟩
      · rfl
      · rfl
      · rfl
  | accept made =>
      rcases sysAccept_cases made with ⟨_,k,rfl⟩ | ⟨pid,s,k,_,_,_,pending⟩
      · rfl
      · rcases acceptPending_cases pending with ⟨_,rfl⟩ | ⟨c,cFile,_,_,_,rfl⟩
        · rfl
        · exact acceptClient_behind (n.withKernel k) pid s c cFile j

theorem portGiven_keeps (n : Net) (c i : Nat) : Keeps (n.socket i) ((n.portGiven c).socket i) := by
  simp only [Net.portGiven]
  exact onSocket_keeps fun _ => ⟨rfl,rfl,rfl,id⟩

theorem portGiven_queue (n : Net) (c i : Nat) : SameQueue (n.socket i) ((n.portGiven c).socket i) := by
  simp only [Net.portGiven]
  exact onSocket_queue fun _ => ⟨rfl,rfl,rfl,rfl⟩

theorem netStep_keeps {n after : Net} {e : NetEvent} (step : NetStep n e after) (i : Nat) : Keeps (n.socket i) (after.socket i) := by
  cases step with
  | switch k => exact .refl _
  | read _ => exact .refl _
  | write _ => exact .refl _
  | listen made =>
      rcases sysListen_cases made with ⟨k,rfl⟩ | ⟨_,s,f,k,_,rfl⟩
      · exact .refl _
      · exact @onSocket_keeps (n.withKernel k) s i _ fun _ => ⟨rfl,rfl,rfl,id⟩
  | connect made =>
      rcases sysConnect_cases made with ⟨_,k,rfl | ⟨c,_,_,_,_,rfl⟩⟩ | ⟨server,s,c,f,slot,k,_,_,_,_,rfl⟩
      · exact .refl _
      · exact portGiven_keeps (n.withKernel k) c i
      · exact (portGiven_keeps (n.withKernel k) c i).trans (linkClient_keeps _ server s c f slot i)
  | accept made =>
      rcases sysAccept_cases made with ⟨_,k,rfl⟩ | ⟨pid,s,k,_,_,_,pending⟩
      · exact .refl _
      · rcases acceptPending_cases pending with ⟨_,rfl⟩ | ⟨c,cFile,_,_,_,rfl⟩
        · exact acceptNobody_keeps (n.withKernel k) s i
        · exact acceptClient_keeps (n.withKernel k) pid s c cFile i

-- The call is a connect by which the client socket `c`, with the file `f`, comes
-- through to the server socket `s`.
def NetEvent.Enters (s c f : Nat) (n : Net) (e : NetEvent) : Prop :=
  ∃ sockfd addr bytes addrlen server slot, e.call = .connect sockfd addr bytes addrlen ∧ controlthreadBase ≤ addr ∧ addrlen ≠ 0 ∧
    Connects n sockfd bytes server s c f slot

-- The call is a listen on the server socket `s`.
def NetEvent.Resizes (s : Nat) (backlog : Int) (n : Net) (e : NetEvent) : Prop :=
  ∃ sockfd pid f, e.call = .listen sockfd backlog ∧ Listens n sockfd pid s f

-- The client socket whose connect to the server socket `s` has returned 0.
def NetEvent.joined (s : Nat) (n : Net) (e : NetEvent) : Option Nat :=
  match e.call with
  | .connect sockfd _ bytes _ =>
      if e.value = 0 ∧ ((connectTarget n bytes).bind (processAt n.kernel)).bind n.priv = some s then callerSocket n sockfd else none
  | _ => none

-- The list gets another length.
structure Resized (x : Socket) (backlog : Int) (y : Socket) : Prop where
  backlogMax : y.backlogMax = listenBacklog backlog
  backlogHead : y.backlogHead = x.backlogHead
  backlogTail : y.backlogTail = x.backlogTail
  pendingConnections : y.pendingConnections = x.pendingConnections

theorem SameQueue.joins (left : SameQueue x y) (right : Joins y c z) : Joins x c z := by
  obtain ⟨backlogMax,backlogHead,backlogTail,pendingConnections⟩ := left
  have tail : nextTail y = nextTail x := by simp only [nextTail,backlogMax,backlogTail]
  refine ⟨right.backlogMax.trans backlogMax,right.backlogHead.trans backlogHead,right.backlogTail.trans tail,?_,right.active⟩
  rw [right.pendingConnections,pendingConnections,tail]

theorem linked_joined {n : Net} {e : NetEvent} {sockfd : Int} {addr : UInt64} {bytes : Nat → UInt8} {addrlen : UInt32} {server other c f slot : Nat}
    (call : e.call = .connect sockfd addr bytes addrlen) (returned : e.value = 0) (connects : Connects n sockfd bytes server other c f slot)
    (s : Nat) : e.joined s n = if other = s then some c else none := by
  obtain ⟨target,found,present⟩ := connects.target
  have caller : callerSocket n sockfd = some c := by simp only [callerSocket,connects.file,Option.bind_some,connects.client]
  simp only [NetEvent.joined,call,returned,found,Option.bind_some,present,connects.priv,Option.some_inj,true_and,caller]

-- What a step does to the list of the server socket `s`.
theorem netStep_queue {n after : Net} {e : NetEvent} (step : NetStep n e after) (s : Nat) :
    SameQueue (n.socket s) (after.socket s) ∧ e.joined s n = none ∨
      (∃ c f, e.Enters s c f n ∧ e.joined s n = some c ∧ Joins (n.socket s) c (after.socket s)) ∨
      (∃ backlog, e.Resizes s backlog n ∧ e.joined s n = none ∧ Resized (n.socket s) backlog (after.socket s)) ∨
      Advances (n.socket s) (after.socket s) ∧ e.joined s n = none := by
  cases step with
  | switch k => exact .inl ⟨.refl _,rfl⟩
  | read _ => exact .inl ⟨.refl _,rfl⟩
  | write _ => exact .inl ⟨.refl _,rfl⟩
  | @listen sockfd backlog _ _ made =>
      rcases sysListen_cases made with ⟨k,rfl⟩ | ⟨pid,other,f,k,listens,rfl⟩
      · exact .inl ⟨.refl _,rfl⟩
      · by_cases own : s = other
        · subst own
          refine .inr (.inr (.inl ⟨backlog,⟨sockfd,pid,f,rfl,listens⟩,rfl,?_⟩))
          rw [onSocket_same]
          exact ⟨rfl,rfl,rfl,rfl⟩
        · exact .inl ⟨@onSocket_apart (n.withKernel k) _ _ _ own,rfl⟩
  | @connect sockfd addr bytes addrlen value _ made =>
      rcases sysConnect_cases made with ⟨negative,k,linked⟩ | ⟨server,other,c,f,slot,k,zero,connects,high,long,rfl⟩
      · have refused : NetEvent.joined s n ⟨.connect sockfd addr bytes addrlen,value⟩ = none := if_neg fun both => by
          have zero : value = 0 := both.1
          omega
        rcases linked with rfl | ⟨c,_,_,_,_,rfl⟩
        · exact .inl ⟨.refl _,refused⟩
        · exact .inl ⟨portGiven_queue (n.withKernel k) c s,refused⟩
      · have joined := linked_joined (e := ⟨.connect sockfd addr bytes addrlen,value⟩) rfl zero connects s
        by_cases own : s = other
        · subst own
          rw [if_pos rfl] at joined
          exact .inr (.inl ⟨c,f,⟨sockfd,addr,bytes,addrlen,server,slot,rfl,high,long,connects⟩,joined,
            (portGiven_queue (n.withKernel k) c s).joins (linkClient_joins _ server s c f slot)⟩)
        · rw [if_neg (Ne.symm own)] at joined
          exact .inl ⟨(portGiven_queue (n.withKernel k) c s).trans (linkClient_other _ server c f slot own),joined⟩
  | accept made =>
      rcases sysAccept_cases made with ⟨_,k,rfl⟩ | ⟨pid,other,k,_,_,_,pending⟩
      · exact .inl ⟨.refl _,rfl⟩
      · rcases acceptPending_cases pending with ⟨_,rfl⟩ | ⟨c,cFile,_,_,_,rfl⟩
        · by_cases own : s = other
          · subst own
            exact .inr (.inr (.inr ⟨acceptNobody_advances (n.withKernel k) s,rfl⟩))
          · exact .inl ⟨@onSocket_apart (n.withKernel k) _ _ _ own,rfl⟩
        · by_cases own : s = other
          · subst own
            exact .inr (.inr (.inr ⟨acceptClient_advances (n.withKernel k) pid s c cFile,rfl⟩))
          · exact .inl ⟨acceptClient_other (n.withKernel k) pid c cFile own,rfl⟩

-- The indexes at which sys_accept can find a client. The scan goes on to the
-- index `max` itself, but only over an empty one.
def Reached (max : Int) (pending : Int → Option Nat) (i : Int) : Prop := i < max ∨ i = max ∧ pending (max-1) = none

structure Backlogged (x : Socket) : Prop where
  head : 0 ≤ x.backlogHead ∧ x.backlogHead < x.backlogMax
  tail : 0 ≤ x.backlogTail ∧ x.backlogTail < x.backlogMax
  occupied : ∀ i c, x.pendingConnections i = some c → 0 ≤ i ∧ Reached x.backlogMax x.pendingConnections i

-- A socket in use, with its file.
def OpenSocket (x : Socket) : Prop := x.Valid ∧ ∃ a, x.privateFile = some a

structure Serving (n : Net) (s : Nat) : Prop where
  backlogged : Backlogged (n.socket s)
  pending : ∀ i c, (n.socket s).pendingConnections i = some c → Active (n.socket s) ∧ OpenSocket (n.socket c)
  files : ∀ j c, (n.file j).socket = some c → OpenSocket (n.socket c)

-- The step takes no client out of the list of `s`: a connect finds the next place
-- free, and a listen leaves every index in use within the new length.
structure Spares (s : Nat) (n : Net) (e : NetEvent) : Prop where
  connect : ∀ c f, e.Enters s c f n → (n.socket s).pendingConnections (nextTail (n.socket s)) = none ∧
    (nextTail (n.socket s) = (n.socket s).backlogMax-1 → (n.socket s).pendingConnections (n.socket s).backlogMax = none)
  listen : ∀ backlog, e.Resizes s backlog n → (n.socket s).backlogHead < listenBacklog backlog ∧
    (n.socket s).backlogTail < listenBacklog backlog ∧ ∀ i c, (n.socket s).pendingConnections i = some c →
      Reached (listenBacklog backlog) (n.socket s).pendingConnections i

theorem Keeps.opened (keeps : Keeps x y) (opened : OpenSocket x) : OpenSocket y := by
  obtain ⟨⟨used,magic⟩,a,file⟩ := opened
  exact ⟨⟨keeps.used.trans used,keeps.magic.trans magic⟩,a,keeps.privateFile.trans file⟩

theorem nextTail_inside {x : Socket} (backlogged : Backlogged x) : 0 ≤ nextTail x ∧ nextTail x < x.backlogMax := by
  obtain ⟨low,high⟩ := backlogged.tail
  unfold nextTail
  split <;> omega

theorem nextHead_inside {x : Socket} (backlogged : Backlogged x) : 0 ≤ nextHead x ∧ nextHead x < x.backlogMax := by
  obtain ⟨low,high⟩ := backlogged.head
  unfold nextHead
  split <;> omega

theorem SameQueue.backlogged (same : SameQueue x y) (backlogged : Backlogged x) : Backlogged y := by
  refine ⟨?_,?_,?_⟩
  · rw [same.backlogHead,same.backlogMax]
    exact backlogged.head
  · rw [same.backlogTail,same.backlogMax]
    exact backlogged.tail
  · rw [same.pendingConnections,same.backlogMax]
    exact backlogged.occupied

theorem Joins.backlogged (joins : Joins x c y) (backlogged : Backlogged x)
    (last : nextTail x = x.backlogMax-1 → x.pendingConnections x.backlogMax = none) : Backlogged y := by
  have inside := nextTail_inside backlogged
  refine ⟨?_,?_,?_⟩
  · rw [joins.backlogHead,joins.backlogMax]
    exact backlogged.head
  · rw [joins.backlogTail,joins.backlogMax]
    exact inside
  · rw [joins.pendingConnections,joins.backlogMax]
    intro i d present
    by_cases new : i = nextTail x
    · subst new
      exact ⟨inside.1,.inl inside.2⟩
    · rw [Function.update_of_ne new] at present
      obtain ⟨low,below | ⟨rfl,empty⟩⟩ := backlogged.occupied i d present
      · exact ⟨low,.inl below⟩
      · refine ⟨low,.inr ⟨rfl,?_⟩⟩
        have different : x.backlogMax-1 ≠ nextTail x := by
          intro same
          rw [last same.symm] at present
          cases present
        rwa [Function.update_of_ne different]

theorem Resized.backlogged {backlog : Int} (resized : Resized x backlog y) (backlogged : Backlogged x)
    (room : x.backlogHead < listenBacklog backlog ∧ x.backlogTail < listenBacklog backlog ∧
      ∀ i c, x.pendingConnections i = some c → Reached (listenBacklog backlog) x.pendingConnections i) : Backlogged y := by
  refine ⟨?_,?_,?_⟩
  · rw [resized.backlogHead,resized.backlogMax]
    exact ⟨backlogged.head.1,room.1⟩
  · rw [resized.backlogTail,resized.backlogMax]
    exact ⟨backlogged.tail.1,room.2.1⟩
  · rw [resized.pendingConnections,resized.backlogMax]
    intro i c present
    exact ⟨(backlogged.occupied i c present).1,room.2.2 i c present⟩

theorem Advances.backlogged (advances : Advances x y) (backlogged : Backlogged x) : Backlogged y := by
  refine ⟨?_,?_,?_⟩
  · rw [advances.backlogHead,advances.backlogMax]
    exact nextHead_inside backlogged
  · rw [advances.backlogTail,advances.backlogMax]
    exact backlogged.tail
  · rw [advances.pendingConnections,advances.backlogMax]
    exact backlogged.occupied

theorem Serving.step {n after : Net} {e : NetEvent} {s : Nat} (serving : Serving n s) (step : NetStep n e after) (spares : Spares s n e) :
    Serving after s := by
  have keeps := netStep_keeps step
  have files : ∀ j c, (after.file j).socket = some c → OpenSocket (after.socket c) := by
    intro j c behind
    rw [netStep_behind step] at behind
    exact (keeps c).opened (serving.files j c behind)
  have stay : (after.socket s).pendingConnections = (n.socket s).pendingConnections →
      ∀ i c, (after.socket s).pendingConnections i = some c → Active (after.socket s) ∧ OpenSocket (after.socket c) := by
    intro same i c present
    rw [same] at present
    obtain ⟨active,opened⟩ := serving.pending i c present
    exact ⟨(keeps s).active active,(keeps c).opened opened⟩
  rcases netStep_queue step s with ⟨same,_⟩ | ⟨c,f,enters,_,joins⟩ | ⟨backlog,resizes,_,resized⟩ | ⟨advances,_⟩
  · exact ⟨same.backlogged serving.backlogged,stay same.pendingConnections,files⟩
  · refine ⟨joins.backlogged serving.backlogged (spares.connect c f enters).2,?_,files⟩
    intro i d present
    refine ⟨joins.active,?_⟩
    rw [joins.pendingConnections] at present
    by_cases new : i = nextTail (n.socket s)
    · rw [new,Function.update_self] at present
      obtain rfl := Option.some.inj present
      obtain ⟨sockfd,addr,bytes,addrlen,server,slot,_,_,_,connects⟩ := enters
      exact (keeps c).opened (serving.files f c connects.client)
    · rw [Function.update_of_ne new] at present
      exact (keeps d).opened (serving.pending i d present).2
  · exact ⟨resized.backlogged serving.backlogged (spares.listen backlog resizes),stay resized.pendingConnections,files⟩
  · exact ⟨advances.backlogged serving.backlogged,stay advances.pendingConnections,files⟩

-- The client is in the list of `s`.
def Waits (s c : Nat) (n : Net) : Prop := ∃ i, (n.socket s).pendingConnections i = some c

theorem Waits.step {n after : Net} {e : NetEvent} {s c : Nat} (waits : Waits s c n ∨ e.joined s n = some c) (step : NetStep n e after)
    (spares : Spares s n e) : Waits s c after := by
  have stays : e.joined s n = none → (after.socket s).pendingConnections = (n.socket s).pendingConnections → Waits s c after := by
    rintro nobody same
    rcases waits with ⟨i,present⟩ | joined
    · exact ⟨i,by rw [same,present]⟩
    · rw [nobody] at joined
      cases joined
  rcases netStep_queue step s with ⟨same,nobody⟩ | ⟨d,f,enters,joined,joins⟩ | ⟨_,_,nobody,resized⟩ | ⟨advances,nobody⟩
  · exact stays nobody same.pendingConnections
  · rcases waits with ⟨i,present⟩ | new
    · have other : i ≠ nextTail (n.socket s) := by
        rintro rfl
        rw [(spares.connect d f enters).1] at present
        cases present
      exact ⟨i,by rw [joins.pendingConnections,Function.update_of_ne other,present]⟩
    · rw [joined] at new
      exact ⟨nextTail (n.socket s),by rw [joins.pendingConnections,Function.update_self,new]⟩
  · exact stays nobody resized.pendingConnections
  · exact stays nobody advances.pendingConnections

-- The current process is `server` and `sockfd` its descriptor of the socket `s`,
-- from which it may accept.
structure Accepting (n : Net) (server s : Nat) (sockfd : Int) : Prop where
  range : 0 ≤ sockfd ∧ sockfd < openMax
  current : currentProcess n.kernel = some server
  file : ∃ f, n.objects server sockfd.toNat = some f ∧ (n.file f).Valid ∧ isSocket (n.file f) = true ∧
    (n.file f).sync.canAccept = true ∧ (n.file f).socket = some s

-- One call of sys_accept, with what it returns and what it leaves as descriptor
-- 31; the scheduler may have run before.
def AcceptCall (server s : Nat) (n : Net) (answer : Int × Option Nat) (after : Net) : Prop :=
  ∃ k sockfd addr addrlen, Accepting (n.withKernel k) server s sockfd ∧ controlthreadBase ≤ addr ∧ addrlen ≠ 0 ∧
    sysAccept (n.withKernel k) sockfd addr addrlen = .ok (answer.1,after) ∧ answer.2 = after.objects server 31

theorem Serving.withKernel {n : Net} {s : Nat} (serving : Serving n s) (k : Kernel) : Serving (n.withKernel k) s :=
  ⟨serving.backlogged,serving.pending,serving.files⟩

theorem sysAccept_accepting {n : Net} {server s : Nat} {sockfd : Int} (accepting : Accepting n server s sockfd) {addr : UInt64}
    (high : controlthreadBase ≤ addr) {addrlen : UInt64} (long : addrlen ≠ 0) (opened : OpenSocket (n.socket s)) :
    sysAccept n sockfd addr addrlen =
      if (n.socket s).state = .connecting ∨ (n.socket s).state = .connected then acceptPending n.credited server s
      else .ok (-1,n.credited) := by
  obtain ⟨range,current,f,file,valid,object,permitted,socket⟩ := accepting
  have inside : ¬ (sockfd < 0 ∨ openMax ≤ sockfd) := by omega
  have visible : addr ≠ 0 := by
    rintro rfl
    exact absurd high (by decide)
  have current' : currentProcess n.credited.kernel = some server := (credited_currentProcess n).trans current
  have file' : n.credited.objects server sockfd.toNat = some f := file
  have valid' : (n.credited.file f).Valid := valid
  have object' : isSocket (n.credited.file f) = true := object
  have permitted' : (n.credited.file f).sync.canAccept = true := permitted
  have socket' : (n.credited.file f).socket = some s := socket
  have opened' : (n.credited.socket s).Valid := opened.1
  simp only [sysAccept,inside,visible,UInt64.not_lt.mpr high,long,current',file',valid',object',permitted',socket',opened',
    if_false,not_true_eq_false,Bool.true_eq_false]
  rfl

theorem acceptPending_found {n : Net} {pid s c a : Nat} (backlogged : Backlogged (n.socket s)) (found : scanned (n.socket s) = some c)
    (valid : (n.socket c).Valid) (file : (n.socket c).privateFile = some a) : acceptPending n pid s = .ok (31,acceptClient n pid s c a) := by
  have inside := nextHead_inside backlogged
  have limits : ¬ (nextHead (n.socket s) < 0 ∨ (n.socket s).backlogMax ≤ nextHead (n.socket s)) := by omega
  have same : ((n.onSocket s fun x => {x with state := .connected,backlogHead := nextHead (n.socket s)}).socket c).Valid ∧
      ((n.onSocket s fun x => {x with state := .connected,backlogHead := nextHead (n.socket s)}).socket c).privateFile = some a := by
    by_cases own : c = s
    · subst own
      rw [onSocket_same]
      exact ⟨valid,file⟩
    · rw [onSocket_other _ _ own]
      exact ⟨valid,file⟩
  unfold acceptPending
  simp only [limits,if_false,found,same.1,not_true_eq_false,onSocket_same _ c,same.2]
  rfl

theorem pendingFrom_some {pending : Int → Option Nat} {turns : Nat} {i : Int} {c : Nat} (found : pendingFrom pending turns i = some c) :
    ∃ j, pending j = some c := by
  induction turns generalizing i with
  | zero => cases found
  | succ turns ih =>
      unfold pendingFrom at found
      split at found
      · rename_i here
        exact ⟨i,here.trans found⟩
      · exact ih found

-- The client that the scan from an index finds.
def scanAt (x : Socket) (i : Int) : Option Nat := pendingFrom x.pendingConnections (x.backlogMax-i+1).toNat i

theorem scanned_pending {x : Socket} {c : Nat} (found : scanned x = some c) : ∃ i, x.pendingConnections i = some c := pendingFrom_some found

theorem acceptPending_none {n : Net} {pid s : Nat} (backlogged : Backlogged (n.socket s)) (nobody : scanned (n.socket s) = none) :
    acceptPending n pid s = .ok (-1,acceptNobody n s) := by
  have inside := nextHead_inside backlogged
  have limits : ¬ (nextHead (n.socket s) < 0 ∨ (n.socket s).backlogMax ≤ nextHead (n.socket s)) := by omega
  unfold acceptPending
  simp only [limits,if_false,nobody]
  rfl

theorem Serving.opened {n : Net} {server s : Nat} {sockfd : Int} (serving : Serving n s) (accepting : Accepting n server s sockfd) :
    OpenSocket (n.socket s) := by
  obtain ⟨f,_,_,_,_,socket⟩ := accepting.file
  exact serving.files f s socket

-- An accept comes back, whatever it finds.
theorem accept_returns {n : Net} {server s : Nat} {sockfd : Int} (serving : Serving n s) (accepting : Accepting n server s sockfd)
    {addr : UInt64} (high : controlthreadBase ≤ addr) {addrlen : UInt64} (long : addrlen ≠ 0) :
    ∃ value after, sysAccept n sockfd addr addrlen = .ok (value,after) := by
  rw [sysAccept_accepting accepting high long (serving.opened accepting)]
  split
  · have credited : Serving n.credited s := serving.withKernel n.credited.kernel
    cases found : scanned (n.credited.socket s) with
    | none => exact ⟨_,_,acceptPending_none credited.backlogged found⟩
    | some c =>
        obtain ⟨i,present⟩ := scanned_pending found
        obtain ⟨valid,a,file⟩ := (credited.pending i c present).2
        exact ⟨_,_,acceptPending_found credited.backlogged found valid file⟩
  · exact ⟨_,_,rfl⟩

theorem acceptCall_pending {n after : Net} {server s : Nat} {answer : Int × Option Nat} (call : AcceptCall server s n answer after)
    (serving : Serving n s) (active : Active (n.socket s)) :
    ∃ k, acceptPending (n.withKernel k) server s = .ok (answer.1,after) := by
  obtain ⟨k,sockfd,addr,addrlen,accepting,high,long,made,_⟩ := call
  rw [sysAccept_accepting accepting high long ((serving.withKernel k).opened accepting)] at made
  have active' : ((n.withKernel k).socket s).state = .connecting ∨ ((n.withKernel k).socket s).state = .connected := active
  rw [if_pos active'] at made
  exact ⟨(n.withKernel k).credited.kernel,made⟩

theorem acceptCall_advances {n after : Net} {server s : Nat} {answer : Int × Option Nat} (call : AcceptCall server s n answer after)
    (serving : Serving n s) (active : Active (n.socket s)) : Advances (n.socket s) (after.socket s) := by
  obtain ⟨k,pending⟩ := acceptCall_pending call serving active
  rcases acceptPending_cases pending with ⟨_,rfl⟩ | ⟨c,cFile,_,_,_,rfl⟩
  · exact acceptNobody_advances (n.withKernel k) s
  · exact acceptClient_advances (n.withKernel k) server s c cFile

theorem acceptCall_found {n after : Net} {server s c : Nat} {answer : Int × Option Nat} (call : AcceptCall server s n answer after)
    (serving : Serving n s) (found : scanned (n.socket s) = some c) :
    ∃ a, (n.socket c).privateFile = some a ∧ answer = (31,some a) := by
  obtain ⟨i,present⟩ := scanned_pending found
  obtain ⟨active,valid,a,file⟩ := serving.pending i c present
  obtain ⟨k,pending⟩ := acceptCall_pending call serving active
  rw [acceptPending_found (serving.withKernel k).backlogged found valid file] at pending
  obtain ⟨value,state⟩ := Prod.mk.inj (Except.ok.inj pending)
  obtain ⟨_,_,_,_,_,_,_,_,descriptor⟩ := call
  refine ⟨a,file,Prod.ext value.symm ?_⟩
  rw [descriptor,← state,acceptClient_objects]
  simp [Net.setObject]

theorem acceptCall_step {n after : Net} {server s : Nat} {answer : Int × Option Nat} (call : AcceptCall server s n answer after) :
    ∃ k e, NetStep (n.withKernel k) e after ∧ Spares s (n.withKernel k) e := by
  obtain ⟨k,sockfd,addr,addrlen,_,_,_,made,_⟩ := call
  refine ⟨k,⟨.accept sockfd addr addrlen,answer.1⟩,.accept made,⟨?_,?_⟩⟩
  · rintro c f ⟨_,_,_,_,_,_,call,_⟩
    cases call
  · rintro backlog ⟨_,_,_,call,_⟩
    cases call

theorem nextHead_turn {x : Socket} {turn : Nat} (backlogged : Backlogged x)
    (head : x.backlogHead = ((start+turn) % x.backlogMax.toNat : Nat)) :
    nextHead x = ((start+(turn+1)) % x.backlogMax.toNat : Nat) := by
  obtain ⟨low,high⟩ := backlogged.head
  rw [← Ring.next_turn (show 0 < x.backlogMax.toNat by omega),nextHead,head,Ring.next]
  split <;> split <;> omega

-- What a number of accepts in a row leaves, and what they have returned.
structure Turned (n : Net) (s : Nat) (answers : List (Int × Option Nat)) (m : Net) : Prop where
  serving : Serving m s
  active : Active (m.socket s)
  keeps : ∀ i, Keeps (n.socket i) (m.socket i)
  backlogMax : (m.socket s).backlogMax = (n.socket s).backlogMax
  pendingConnections : (m.socket s).pendingConnections = (n.socket s).pendingConnections
  backlogHead : (m.socket s).backlogHead = (((n.socket s).backlogHead.toNat+answers.length) % (n.socket s).backlogMax.toNat : Nat)
  returned : ∀ turn < answers.length, ∀ c,
    scanAt (n.socket s) (((n.socket s).backlogHead.toNat+(turn+1)) % (n.socket s).backlogMax.toNat : Nat) = some c →
      ∃ a, (n.socket c).privateFile = some a ∧ (31,some a) ∈ answers

theorem Turned.step {n m after : Net} {server s : Nat} {answers : List (Int × Option Nat)} {answer : Int × Option Nat}
    (turned : Turned n s answers m) (call : AcceptCall server s m answer after) : Turned n s (answers ++ [answer]) after := by
  obtain ⟨k,e,step,spares⟩ := acceptCall_step call
  have keeps := netStep_keeps step
  have advances := acceptCall_advances call turned.serving turned.active
  have head := nextHead_turn turned.serving.backlogged (turned.backlogMax ▸ turned.backlogHead)
  rw [turned.backlogMax] at head
  refine ⟨(turned.serving.withKernel k).step step spares,advances.active,fun i => (turned.keeps i).trans (keeps i),
    advances.backlogMax.trans turned.backlogMax,advances.pendingConnections.trans turned.pendingConnections,?_,?_⟩
  · rw [advances.backlogHead,head,List.length_append,List.length_singleton]
  · intro turn bound c found
    rw [List.length_append,List.length_singleton] at bound
    by_cases last : turn = answers.length
    · subst last
      have here : scanned (m.socket s) = some c := by
        rw [← found,scanned,scanAt,turned.pendingConnections,turned.backlogMax,head]
      obtain ⟨a,file,rfl⟩ := acceptCall_found call turned.serving here
      exact ⟨a,(turned.keeps c).privateFile ▸ file,by simp⟩
    · obtain ⟨a,file,member⟩ := turned.returned turn (by omega) c found
      exact ⟨a,file,List.mem_append_left _ member⟩

theorem turned_run {n after : Net} {server s : Nat} {answers : List (Int × Option Nat)} (serving : Serving n s) (active : Active (n.socket s))
    (run : Runs.Path (AcceptCall server s) n answers after) : Turned n s answers after := by
  refine run.history (fun answers m => Turned n s answers m) (fun _ _ _ _ turned call => turned.step call) ?_
  obtain ⟨low,high⟩ := serving.backlogged.head
  refine ⟨serving,active,fun i => .refl _,rfl,rfl,?_,?_⟩
  · rw [List.length_nil,Nat.add_zero,Nat.mod_eq_of_lt (by omega)]
    omega
  · intro turn bound
    cases bound

theorem scanAt_here {x : Socket} {i : Int} {c : Nat} (low : i ≤ x.backlogMax) (present : x.pendingConnections i = some c) :
    scanAt x i = some c := by
  obtain ⟨turns,same⟩ : ∃ turns, (x.backlogMax-i+1).toNat = turns+1 := ⟨(x.backlogMax-i).toNat,by omega⟩
  rw [scanAt,same,pendingFrom]
  simp only [present]

theorem scanAt_over {x : Socket} {c : Nat} (empty : x.pendingConnections (x.backlogMax-1) = none)
    (present : x.pendingConnections x.backlogMax = some c) : scanAt x (x.backlogMax-1) = some c := by
  have same : (x.backlogMax-(x.backlogMax-1)+1).toNat = 1+1 := by omega
  have next : x.backlogMax-1+1 = x.backlogMax := by omega
  rw [scanAt,same,pendingFrom]
  simp only [empty,next,pendingFrom,present]

-- A turn of accepts returns every client of the list.
theorem turn_returns {n after : Net} {server s : Nat} {answers : List (Int × Option Nat)} (serving : Serving n s)
    (run : Runs.Path (AcceptCall server s) n answers after) (full : answers.length = (n.socket s).backlogMax.toNat) {c : Nat}
    (waits : Waits s c n) : ∃ a, (n.socket c).privateFile = some a ∧ (31,some a) ∈ answers := by
  obtain ⟨i,present⟩ := waits
  have turned := turned_run serving (serving.pending i c present).1 run
  obtain ⟨low,high⟩ := serving.backlogged.head
  have visited : ∀ h : Int, 0 ≤ h → h < (n.socket s).backlogMax → scanAt (n.socket s) h = some c →
      ∃ a, (n.socket c).privateFile = some a ∧ (31,some a) ∈ answers := by
    intro h nonneg below found
    have positive : 0 < (n.socket s).backlogMax.toNat := by omega
    obtain ⟨turn,bound,same⟩ := Ring.turn_onto (Nat.mod_lt ((n.socket s).backlogHead.toNat+1) positive)
      (show h.toNat < (n.socket s).backlogMax.toNat by omega)
    rw [Nat.mod_add_mod,Nat.add_assoc,Nat.add_comm 1 turn] at same
    refine turned.returned turn (by omega) c ?_
    rwa [← same,Int.toNat_of_nonneg nonneg]
  obtain ⟨nonneg,below | ⟨rfl,empty⟩⟩ := serving.backlogged.occupied i c present
  · exact visited i nonneg below (scanAt_here (by omega) present)
  · exact visited _ (by omega) (by omega) (scanAt_over empty present)

-- A run of calls, each with the client it has put into the list of `s`, that
-- takes nobody out of it.
def SparingCall (s : Nat) (n : Net) (e : NetEvent × Option Nat) (after : Net) : Prop :=
  NetStep n e.1 after ∧ e.2 = e.1.joined s n ∧ Spares s n e.1

theorem fresh_serving {n : Net} {s file : Nat} (fresh : SameQueue (createSocketObject file) (n.socket s))
    (files : ∀ j c, (n.file j).socket = some c → OpenSocket (n.socket c)) : Serving n s := by
  obtain ⟨backlogMax,backlogHead,backlogTail,pendingConnections⟩ := fresh
  have nobody : ∀ i c, (n.socket s).pendingConnections i ≠ some c := by
    intro i c present
    rw [pendingConnections] at present
    cases present
  refine ⟨⟨?_,?_,fun i c present => absurd present (nobody i c)⟩,fun i c present => absurd present (nobody i c),files⟩
  · rw [backlogHead,backlogMax]
    exact ⟨le_refl 0,by simp [createSocketObject]⟩
  · rw [backlogTail,backlogMax]
    exact ⟨le_refl 0,by simp [createSocketObject]⟩

-- Whoever has connected is in the list, the two indexes stay within it, and a
-- turn of accepts, each of which comes back, returns every client there.
theorem pending_clients_accepted {n after : Net} {s file : Nat} {events : List (NetEvent × Option Nat)}
    (fresh : SameQueue (createSocketObject file) (n.socket s))
    (files : ∀ j c, (n.file j).socket = some c → OpenSocket (n.socket c)) (run : Runs.Path (SparingCall s) n events after) :
    (∀ e ∈ events, ∀ c, e.2 = some c → Waits s c after) ∧
      (0 ≤ (after.socket s).backlogHead ∧ (after.socket s).backlogHead < (after.socket s).backlogMax) ∧
      (0 ≤ (after.socket s).backlogTail ∧ (after.socket s).backlogTail < (after.socket s).backlogMax) ∧
      (∀ k server sockfd addr addrlen, Accepting (after.withKernel k) server s sockfd → controlthreadBase ≤ addr → addrlen ≠ 0 →
        ∃ value next, sysAccept (after.withKernel k) sockfd addr addrlen = .ok (value,next)) ∧
      ∀ server answers later, Runs.Path (AcceptCall server s) after answers later →
        answers.length = (after.socket s).backlogMax.toNat → ∀ c, Waits s c after →
          ∃ a, (after.socket c).privateFile = some a ∧ (31,some a) ∈ answers := by
  have joined := run.history (fun events m => Serving m s ∧ ∀ e ∈ events, ∀ c, e.2 = some c → Waits s c m) (by
    rintro events m event next ⟨serving,waiting⟩ ⟨step,label,spares⟩
    refine ⟨serving.step step spares,?_⟩
    intro e member c named
    rcases List.mem_append.mp member with old | new
    · exact Waits.step (.inl (waiting e old c named)) step spares
    · rw [List.mem_singleton.mp new] at named
      exact Waits.step (.inr (label.symm.trans named)) step spares) ⟨fresh_serving fresh files,by simp⟩
  obtain ⟨serving,waiting⟩ := joined
  refine ⟨waiting,serving.backlogged.head,serving.backlogged.tail,?_,?_⟩
  · intro k server sockfd addr addrlen accepting high long
    exact accept_returns (serving.withKernel k) accepting high long
  · intro server answers later turn full c waits
    exact turn_returns serving turn full waits

theorem pending_client_accepted_once : Waits 0 1 (linkClient ((threeSockets 2).credited.portGiven 1) 1 0 1 1 4) := by
  have files : ∀ j c, ((threeSockets 2).file j).socket = some c → OpenSocket ((threeSockets 2).socket c) := by
    intro j c behind
    exact ⟨⟨rfl,rfl⟩,c,rfl⟩
  have step : NetStep (threeSockets 2) ⟨.connect 3 0x200000 dsAddress 16,0⟩ (linkClient ((threeSockets 2).credited.portGiven 1) 1 0 1 1 4) :=
    .connect oneClient_connected
  have spares : Spares 0 (threeSockets 2) ⟨.connect 3 0x200000 dsAddress 16,0⟩ := by
    refine ⟨fun c f _ => ⟨rfl,fun _ => rfl⟩,?_⟩
    rintro backlog ⟨_,_,_,call,_⟩
    cases call
  have fresh : SameQueue (createSocketObject 0) ((threeSockets 2).socket 0) := ⟨rfl,rfl,rfl,rfl⟩
  have call : SparingCall 0 (threeSockets 2) (⟨.connect 3 0x200000 dsAddress 16,0⟩,some 1)
      (linkClient ((threeSockets 2).credited.portGiven 1) 1 0 1 1 4) := ⟨step,rfl,spares⟩
  exact (pending_clients_accepted fresh files (.step .nil call)).1 _ (List.mem_singleton_self _) 1 rfl

-- A list of one place.
def shortList : Net := (threeSockets 1).credited.onSocket 0 fun x => {x with backlogMax := 1,isAcceptingConnections := true}

theorem shortList_second : Connects (shortList.withKernel (threeProcesses 2)) 3 dsAddress 1 0 1 1 4 :=
  ⟨by decide,by decide,by decide,by decide,rfl,rfl,⟨1,by decide,by decide⟩,by decide,rfl⟩

theorem shortList_third : Connects ((linkClient ((shortList.withKernel (threeProcesses 2)).credited.portGiven 1) 1 0 1 1 4).withKernel
    (threeProcesses 3)) 3 dsAddress 1 0 2 2 4 :=
  ⟨by decide,by decide,by decide,by decide,rfl,rfl,⟨1,by decide,by decide⟩,by decide,rfl⟩

-- The second client takes the place of the first one, which is not accepted yet.
theorem second_connect_replaces_first : sysListen (threeSockets 1) 3 1 = .ok (0,shortList) ∧
    ∃ first second, sysConnect (shortList.withKernel (threeProcesses 2)) 3 0x200000 dsAddress 16 = .ok (0,first) ∧
      sysConnect (first.withKernel (threeProcesses 3)) 3 0x200000 dsAddress 16 = .ok (0,second) ∧
      (first.socket 0).pendingConnections 0 = some 1 ∧ ¬ Waits 0 1 second := by
  refine ⟨rfl,_,_,shortList_second.linked (by decide) (by decide),shortList_third.linked (by decide) (by decide),rfl,?_⟩
  rintro ⟨i,present⟩
  have list : Function.update (Function.update (fun _ => none) 0 (some 1)) 0 (some 2) i = some 1 := present
  rw [Function.update_idem] at list
  by_cases only : i = 0
  · subst only
    cases list
  · rw [Function.update_of_ne only] at list
    cases list

end GramadoKernel
