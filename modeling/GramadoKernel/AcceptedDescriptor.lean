import GramadoKernel.Connections
import GramadoKernel.Creation

namespace GramadoKernel

-- The call is an accept by the process `server`.
def NetEvent.Accepts (server : Nat) (n : Net) (e : NetEvent) : Prop :=
  currentProcess n.kernel = some server ∧ ∃ sockfd addr addrlen, e.call = .accept sockfd addr addrlen

-- The call is a connect by which a client with the file `f` comes through to the
-- process `server`.
def NetEvent.Reaches (server f : Nat) (n : Net) (e : NetEvent) : Prop :=
  ∃ sockfd addr bytes addrlen s c slot, e.call = .connect sockfd addr bytes addrlen ∧ controlthreadBase ≤ addr ∧ addrlen ≠ 0 ∧
    Connects n sockfd bytes server s c f slot

theorem setObject_other (n : Net) {pid fd p d : Nat} (file : Option Nat) (other : ¬ (p = pid ∧ d = fd)) :
    (n.setObject pid fd file).objects p d = n.objects p d := by
  by_cases process : p = pid
  · subst process
    have different : d ≠ fd := fun same => other ⟨rfl,same⟩
    simp [Net.setObject,different]
  · simp [Net.setObject,process]

theorem linkClient_objects (n : Net) (server s c f slot : Nat) :
    (linkClient n server s c f slot).objects = (n.setObject server 31 (some f)).objects := rfl

theorem acceptClient_objects (n : Net) (pid s c cFile : Nat) :
    (acceptClient n pid s c cFile).objects = (n.setObject pid 31 (some cFile)).objects := rfl

-- A process loses its descriptor 31 only to its own accept and to a client that
-- comes through to it.
theorem netStep_descriptor {n after : Net} {e : NetEvent} {server : Nat} (step : NetStep n e after) (idle : ¬ e.Accepts server n)
    (alone : ∀ f, ¬ e.Reaches server f n) : after.objects server 31 = n.objects server 31 := by
  cases step with
  | switch k => rfl
  | read read => exact congrFun (congrFun (readImp_touches read).objects server) 31
  | @write fd ubuf count answer wrote =>
      subst wrote
      exact congrFun (congrFun (writeImp_touches n.toIo fd ubuf count).objects server) 31
  | listen made =>
      rcases sysListen_cases made with ⟨k,rfl⟩ | ⟨_,s,f,k,_,rfl⟩
      · rfl
      · rfl
  | connect made =>
      rcases sysConnect_cases made with ⟨_,k,rfl | ⟨c,_,_,_,_,rfl⟩⟩ | ⟨other,s,c,f,slot,k,_,connects,high,long,rfl⟩
      · rfl
      · rfl
      · have different : server ≠ other := by
          rintro rfl
          exact alone f ⟨_,_,_,_,s,c,slot,rfl,high,long,connects⟩
        rw [linkClient_objects]
        exact setObject_other _ _ fun both => different both.1
  | accept made =>
      rcases sysAccept_cases made with ⟨_,k,rfl⟩ | ⟨pid,s,k,current,_,_,pending⟩
      · rfl
      · have different : server ≠ pid := by
          rintro rfl
          exact idle ⟨current,_,_,_,rfl⟩
        rcases acceptPending_cases pending with ⟨_,rfl⟩ | ⟨c,cFile,_,_,_,rfl⟩
        · rfl
        · rw [acceptClient_objects]
          exact setObject_other _ _ fun both => different both.1

theorem reaches_descriptor {n after : Net} {e : NetEvent} {server f : Nat} (step : NetStep n e after) (reaches : e.Reaches server f n) :
    after.objects server 31 = some f := by
  obtain ⟨sockfd,addr,bytes,addrlen,s,c,slot,call,high,long,connects⟩ := reaches
  cases step with
  | connect made =>
      cases call
      rw [connects.linked high long] at made
      cases made
      rw [linkClient_objects]
      simp [Net.setObject]
  | switch k => cases call
  | read _ => cases call
  | write _ => cases call
  | listen _ => cases call
  | accept _ => cases call

-- What an accept that returns 31 leaves: the client it has found is connected and
-- its file is the descriptor 31.
theorem accepted_client {n after : Net} {server : Nat} {sockfd : Int} {addr addrlen : UInt64} (current : currentProcess n.kernel = some server)
    (accepted : sysAccept n sockfd addr addrlen = .ok (31,after)) :
    ∃ s c a, callerSocket n sockfd = some s ∧ scanned (n.socket s) = some c ∧ (n.socket c).privateFile = some a ∧
      (after.socket c).state = .connected ∧ after.objects server 31 = some a := by
  rcases sysAccept_cases accepted with ⟨negative,_⟩ | ⟨pid,s,k,process,caller,_,pending⟩
  · exact absurd negative (by decide)
  · obtain rfl := Option.some.inj (process.symm.trans current)
    rcases acceptPending_cases pending with ⟨failed,_⟩ | ⟨c,a,_,found,file,rfl⟩
    · exact absurd failed (by decide)
    · refine ⟨s,c,a,caller,found,file,?_,?_⟩
      · simp [acceptClient,Net.onSocket,Net.setObject]
      · rw [acceptClient_objects]
        simp [Net.setObject]

-- The client accepted stays the server's descriptor 31 as long as no other one
-- comes through, and what the server writes there changes no other file.
theorem accepted_descriptor_stays {n accepted after : Net} {server : Nat} {sockfd : Int} {addr addrlen : UInt64} {events : List NetEvent}
    (current : currentProcess n.kernel = some server) (returned : sysAccept n sockfd addr addrlen = .ok (31,accepted))
    (run : Runs.Path (fun n e after => NetStep n e after ∧ ¬ e.Accepts server n ∧ ∀ f, ¬ e.Reaches server f n) accepted events after) :
    ∃ s c a, callerSocket n sockfd = some s ∧ scanned (n.socket s) = some c ∧ (n.socket c).privateFile = some a ∧
      after.objects server 31 = some a ∧
      (∀ ubuf count id, currentProcess after.kernel = some server → id ≠ a →
        (writeImp after.toIo 31 ubuf count).io.file id = after.file id) ∧
      ∀ e next f, NetStep after e next → e.Reaches server f after → (next.objects server 31 = some a ↔ f = a) := by
  obtain ⟨s,c,a,caller,found,file,_,first⟩ := accepted_client current returned
  have stays := run.invariant (fun m => m.objects server 31 = some a)
    (fun _ _ _ held taken => (netStep_descriptor taken.1 taken.2.1 taken.2.2).trans held) first
  refine ⟨s,c,a,caller,found,file,stays,?_,?_⟩
  · intro ubuf count id running other
    have target : getFileFromFd after.toIo 31 = some a := by
      simp only [getFileFromFd,running,Option.bind_some]
      exact stays
    refine (writeImp_touches after.toIo 31 ubuf count).other ?_
    rw [target]
    intro same
    exact other (Option.some.inj same).symm
  · intro e next f step reaches
    rw [reaches_descriptor step reaches]
    exact Option.some_inj

-- Three processes with a socket as descriptor 3 each; the first is the server at
-- every port.
def threeProcesses (pid : Int) : Kernel :=
  {bootKernel with
    currentPid := pid
    processList := fun i => if 1 ≤ i ∧ i ≤ 3 then some ⟨true,1234,i,0x1000⟩ else none}

def threeSockets (pid : Int) : Net where
  kernel := threeProcesses pid
  file := fun i => socketFile 3 i fun _ => 0
  objects := fun p fd => if 1 ≤ p ∧ p ≤ 3 ∧ fd = 3 then some (p-1) else none
  console := fun _ _ => 0
  socket := createSocketObject
  priv := fun p => some (p-1)
  gramadoPorts := fun _ => 1
  newClientPortNumber := 11000

-- AF_GRAMADO and the letters ds.
def dsAddress (i : Nat) : UInt8 := if i = 0 then 0x40 else if i = 1 then 0x1F else if i = 2 then 0x64 else if i = 3 then 0x73 else 0

-- The net after the second process has connected to the first and the first has
-- accepted it.
def oneClient : Net := acceptClient ((linkClient ((threeSockets 2).credited.portGiven 1) 1 0 1 1 4).withKernel (threeProcesses 1)).credited 1 0 1 1

theorem oneClient_connected : sysConnect (threeSockets 2) 3 0x200000 dsAddress 16 =
    .ok (0,linkClient ((threeSockets 2).credited.portGiven 1) 1 0 1 1 4) :=
  Connects.linked ⟨by decide,by decide,by decide,by decide,rfl,rfl,⟨1,by decide,by decide⟩,by decide,rfl⟩ (by decide) (by decide)

theorem oneClient_accepted : sysAccept ((linkClient ((threeSockets 2).credited.portGiven 1) 1 0 1 1 4).withKernel (threeProcesses 1))
    3 0x200000 1 = .ok (31,oneClient) := rfl

-- The client is still there when it runs next.
theorem accepted_descriptor_stays_once : (oneClient.withKernel (threeProcesses 2)).objects 1 31 = some 1 := by
  have current : currentProcess ((linkClient ((threeSockets 2).credited.portGiven 1) 1 0 1 1 4).withKernel (threeProcesses 1)).kernel =
      some 1 := by decide
  have idle : ¬ NetEvent.Accepts 1 oneClient ⟨.switch (threeProcesses 2),0⟩ := by
    rintro ⟨_,_,_,_,call⟩
    cases call
  have alone : ∀ f, ¬ NetEvent.Reaches 1 f oneClient ⟨.switch (threeProcesses 2),0⟩ := by
    rintro f ⟨_,_,_,_,_,_,_,call,_⟩
    cases call
  obtain ⟨s,c,a,caller,found,file,stays,_⟩ := accepted_descriptor_stays current oneClient_accepted
    (.cons ⟨.switch (threeProcesses 2),idle,alone⟩ .nil)
  obtain rfl : 0 = s := Option.some.inj (show some 0 = some s from caller)
  obtain rfl : 1 = c := Option.some.inj (show some 1 = some c from found)
  obtain rfl : 1 = a := Option.some.inj (show some 1 = some a from file)
  exact stays

theorem oneClient_third : Connects (oneClient.withKernel (threeProcesses 3)) 3 dsAddress 1 0 2 2 4 :=
  ⟨by decide,by decide,by decide,by decide,rfl,rfl,⟨1,by decide,by decide⟩,by decide,rfl⟩

-- A client that connects between the accept and the reply takes the descriptor.
theorem later_connect_takes_descriptor :
    sysConnect (threeSockets 2) 3 0x200000 dsAddress 16 = .ok (0,linkClient ((threeSockets 2).credited.portGiven 1) 1 0 1 1 4) ∧
      sysAccept ((linkClient ((threeSockets 2).credited.portGiven 1) 1 0 1 1 4).withKernel (threeProcesses 1)) 3 0x200000 1 =
        .ok (31,oneClient) ∧
      oneClient.objects 1 31 = some 1 ∧
      ∃ after, sysConnect (oneClient.withKernel (threeProcesses 3)) 3 0x200000 dsAddress 16 = .ok (0,after) ∧
        after.objects 1 31 = some 2 :=
  ⟨oneClient_connected,oneClient_accepted,rfl,_,oneClient_third.linked (by decide) (by decide),rfl⟩

end GramadoKernel
