import GramadoKernel.AcceptedDescriptor
import GramadoKernel.Library.Runs
import GramadoKernel.SocketFile
import GramadoKernel.WindowEvents

namespace GramadoKernel

-- kstdio.h
def actionNull : Int := 0
def actionRequest : Int := 1000
def actionReply : Int := 2000
def actionError : Int := 4000
def syncRequestSetAction : Int := 1
def syncRequestGetAction : Int := 2
def syncRequestResetWr : Int := 216
def syncRequestResetRd : Int := 217

-- MSG_BUFFER_SIZE, the size of __gws_message_buffer, and sizeof(struct _gReq)
def msgBufferSize : Nat := 512
def gReqSize : Int := 368

-- packet.h
def serverPacketTypeReply : UInt64 := 1001
def serverPacketTypeError : UInt64 := 1003

-- The open files with the sync.action of each.
structure Desk extends Net where
  action : Nat → Int

def Desk.onIo (d : Desk) (io : Io) : Desk := {d with toIo := io}

def Desk.onNet (d : Desk) (n : Net) : Desk := {d with toNet := n}

def Desk.acted (d : Desk) (id : Nat) (action : Int) : Desk := {d with action := Function.update d.action id action}

-- p->Objects[fd] behind the checks of sys_set_file_sync and sys_get_file_sync.
def syncObject (d : Desk) (fd : Int) : Option Nat :=
  if fd < 0 ∨ openMax ≤ fd then none
  else if d.kernel.currentPid < 0 ∨ processCountMax ≤ d.kernel.currentPid then none
  else
    match d.kernel.processList d.kernel.currentPid.toNat with
    | none => none
    | some p =>
        if p.magic ≠ 1234 then none
        else (d.objects d.kernel.currentPid.toNat fd.toNat).bind fun id => if (d.file id).Valid then some id else none

def sysSetFileSync (d : Desk) (fd request data : Int) : Desk :=
  match syncObject d fd with
  | none => d
  | some id =>
      if request = syncRequestSetAction then d.acted id data
      else if request = syncRequestResetWr then
        (d.onIo (d.put id {d.file id with flags := swr,p := 0,r := 0,w := 0,socketBufferFull := false})).acted id 0
      else if request = syncRequestResetRd then (d.onIo (d.put id {d.file id with flags := srd})).acted id 0
      else d

def sysGetFileSync (d : Desk) (fd request : Int) : Int :=
  if fd < 0 ∨ openMax ≤ fd then -ebadf
  else
    match syncObject d fd with
    | none => -1
    | some id => if request = syncRequestGetAction then d.action id else -1

-- The bytes of a message buffer.
def message (buffer : Nat → UInt8) : List UInt8 := (List.range msgBufferSize).map buffer

-- An unsigned long of a message.
def messageLong (bytes : List UInt8) (i : Nat) : Nat := (List.range 8).foldr (fun j value => (bytes.getD (8*i+j) 0).toNat+256*value) 0

-- What dsProcedure leaves for the reply: its status, NoReply, next_response and the buffer.
structure Service where
  status : Int
  noReply : Bool
  nextResponse : Nat → UInt64
  buffer : Nat → UInt8

-- message_buffer as dsSendResponse writes it.
def replyMessage (s : Service) (type : UInt64) (i : Nat) : UInt8 :=
  if i < 160 then ((if i/8 = 1 then type else s.nextResponse (i/8)) >>> UInt64.ofNat (8*(i % 8))).toUInt8 else s.buffer i

-- GWS_GetNextEvent is the message code of an event request.
def responseType (gwsGetNextEvent : Nat) (request : List UInt8) (s : Service) : UInt64 :=
  if s.status < 0 then serverPacketTypeError
  else if messageLong request 1 = gwsGetNextEvent then serverPacketTypeEvent
  else serverPacketTypeReply

-- Where a client is in a call such as gws_clone_and_execute2.
inductive ClientPhase where
  | idle
  | asked (request : List UInt8)
  | posted (request : List UInt8)
  | notified (request : List UInt8)
  | leaving

-- Where the server is in its loop, from accept through dispacher and dsSendResponse.
inductive ServerPhase where
  | looking
  | accepted
  | reading
  | processing (request : List UInt8)
  | answering (request : List UInt8) (reply : Nat → UInt8) (tries : Nat)
  | signalling
  | silent

-- The server has taken up what it finds at its descriptor 31.
def ServerPhase.busy : ServerPhase → Bool
  | .looking => false
  | .accepted => false
  | _ => true

-- The processes of the protocol: the server, and the descriptor and the file of the
-- socket of every client.
structure Parties where
  server : Nat
  client : Nat → Prop
  fd : Nat → Nat
  own : Nat → Nat
  gwsGetNextEvent : Nat

structure Parties.Apart (P : Parties) : Prop where
  server : ¬ P.client P.server
  fd : ∀ p, P.client p → P.fd p < 31
  own : ∀ p p', P.client p → P.client p' → P.own p = P.own p' → p = p'

structure DisplaySystem where
  desk : Desk
  client : Nat → ClientPhase
  server : ServerPhase

def DisplaySystem.onDesk (s : DisplaySystem) (d : Desk) : DisplaySystem := {s with desk := d}

def DisplaySystem.goes (s : DisplaySystem) (p : Nat) (d : Desk) (phase : ClientPhase) : DisplaySystem :=
  {s with desk := d,client := Function.update s.client p phase}

def DisplaySystem.serves (s : DisplaySystem) (d : Desk) (phase : ServerPhase) : DisplaySystem := {s with desk := d,server := phase}

-- The messages that pass: a request written by a client, a reply that it reads, and the
-- same two at the file that the server has as its descriptor 31.
inductive DeskEvent where
  | quiet
  | asked (p : Nat) (request : List UInt8)
  | received (p : Nat) (request reply : List UInt8)
  | taken (file : Option Nat) (request : List UInt8)
  | answered (file : Option Nat) (request reply : List UInt8)

-- One step of a client whose turn it is.
inductive ClientMoves (P : Parties) (p : Nat) (s : DisplaySystem) : DeskEvent → DisplaySystem → Prop where
  | connect : s.client p = .idle → sysConnect s.desk.toNet (P.fd p) addr bytes addrlen = .ok (value,n) →
      ClientMoves P p s .quiet (s.onDesk (s.desk.onNet n))
  | refuse : s.client p = .idle → ClientMoves P p s .quiet (s.goes p s.desk .leaving)
  | ask (request : Nat → UInt8) : s.client p = .idle → writeImp s.desk.toIo (P.fd p) (some request) msgBufferSize = answer →
      ClientMoves P p s (if answer.value ≤ 0 then .quiet else .asked p (message request))
        (s.goes p (s.desk.onIo answer.io) (if answer.value ≤ 0 then .leaving else .asked (message request)))
  | post : s.client p = .asked q →
      ClientMoves P p s .quiet (s.goes p (sysSetFileSync s.desk (P.fd p) syncRequestSetAction actionRequest) (.posted q))
  | poll : s.client p = .posted q → sysGetFileSync s.desk (P.fd p) syncRequestGetAction = value →
      ClientMoves P p s .quiet (s.goes p s.desk
        (if value = actionReply then .notified q else if value = actionError ∨ value = actionNull then .leaving else .posted q))
  | receive : s.client p = .notified q → ubuf ≠ 0 → readImp s.desk.toIo (P.fd p) ubuf msgBufferSize = .ok answer →
      ClientMoves P p s (if answer.value ≤ 0 then .quiet else .received p q answer.given)
        (s.goes p (s.desk.onIo answer.io) (if answer.value = 0 then .notified q else .leaving))
  | leave : s.client p = .leaving → ClientMoves P p s .quiet (s.goes p (sysSetFileSync s.desk (P.fd p) syncRequestSetAction actionNull) .idle)

-- One step of the server whose turn it is. A request that dispacher cannot use is dropped.
inductive ServerMoves (P : Parties) (s : DisplaySystem) : DeskEvent → DisplaySystem → Prop where
  | accept : s.server = .looking → sysAccept s.desk.toNet sockfd addr addrlen = .ok (value,n) →
      ServerMoves P s .quiet (s.serves (s.desk.onNet n) (if value = 31 then .accepted else .looking))
  | check : s.server = .accepted →
      ServerMoves P s .quiet (s.serves s.desk (if sysGetFileSync s.desk 31 syncRequestGetAction = actionRequest then .reading else .looking))
  | take : s.server = .reading → ubuf ≠ 0 → readImp s.desk.toIo 31 ubuf msgBufferSize = .ok answer →
      ServerMoves P s (if answer.value ≤ 0 then .quiet else .taken (s.desk.objects P.server 31) answer.given)
        (s.serves (s.desk.onIo answer.io)
          (if answer.value < gReqSize ∨ messageLong answer.given 1 = 0 then .looking else .processing answer.given))
  | serve (service : Service) : s.server = .processing q →
      ServerMoves P s .quiet (s.serves s.desk
        (if service.noReply = true then .silent else .answering q (replyMessage service (responseType P.gwsGetNextEvent q service)) 8))
  | answer : s.server = .answering q r (tries+1) → writeImp s.desk.toIo 31 (some r) msgBufferSize = answer →
      ServerMoves P s (if answer.value ≤ 0 then .quiet else .answered (s.desk.objects P.server 31) q (message r))
        (s.serves (s.desk.onIo answer.io) (if answer.value ≤ 0 ∧ tries ≠ 0 then .answering q r tries else .signalling))
  | signal : s.server = .signalling → ServerMoves P s .quiet (s.serves (sysSetFileSync s.desk 31 syncRequestSetAction actionReply) .looking)
  | hush : s.server = .silent → ServerMoves P s .quiet (s.serves (sysSetFileSync s.desk 31 syncRequestSetAction actionNull) .looking)

-- Any order of their steps, with anything that the scheduler does in between.
inductive DisplayMoves (P : Parties) (s : DisplaySystem) : DeskEvent → DisplaySystem → Prop where
  | switch (k : Kernel) : DisplayMoves P s .quiet (s.onDesk (s.desk.onNet (s.desk.withKernel k)))
  | client : P.client p → currentProcess s.desk.kernel = some p → ClientMoves P p s e t → DisplayMoves P s e t
  | server : currentProcess s.desk.kernel = some P.server → ServerMoves P s e t → DisplayMoves P s e t

-- A client comes through while the server is at work on another one.
def Interrupts (P : Parties) (s t : DisplaySystem) : Prop := s.server.busy = true ∧ t.desk.objects P.server 31 ≠ s.desk.objects P.server 31

end GramadoKernel
