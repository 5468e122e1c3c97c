import GramadoKernel.RoundTrip

namespace GramadoKernel

-- A receive buffer of the device. A frame is stored at its start and leaves the
-- rest as it was; the last byte is behind all frames that a host here sends.
structure ReceiveBuffer where
  bytes : List UInt8
  size : bytes.length = e1000DefaultBufferSize
  terminated : bytes.getLast? = some 0

def ReceiveBuffer.behind (buffer : ReceiveBuffer) (frame : List UInt8) : List UInt8 := buffer.bytes.drop frame.length

def ReceiveBuffer.received (buffer : ReceiveBuffer) (frame : List UInt8) : List UInt8 := frame ++ buffer.behind frame

inductive Side where
  | left
  | right
  deriving DecidableEq

def Side.other : Side → Side
  | .left => .right
  | .right => .left

-- Two hosts and the datagrams on the way, with the side that each one goes to.
structure Channel where
  host : Side → Host
  flight : List (Side × List UInt8)

-- The oldest datagram is delivered, and what the host sends then goes to the
-- other side.
def Channel.deliver (buffer : ReceiveBuffer) (c : Channel) : Except Fault Channel :=
  match c.flight with
  | [] => .ok c
  | (side,frame) :: rest => do
      let (_,h) ← networkOnReceiving (c.host side) (buffer.received frame)
      .ok {
        host := fun s => if s = side then h else c.host s
        flight := rest ++ (h.sent.drop (c.host side).sent.length).map fun reply => (side.other,reply)}

-- The first deliveries, each into its own buffer.
def Channel.after : (buffers : Nat → ReceiveBuffer) → Nat → Channel → Except Fault Channel
  | _,0,c => .ok c
  | buffers,n+1,c => do
      let c ← c.deliver (buffers 0)
      Channel.after (fun k => buffers (k+1)) n c

-- From some delivery on no datagram is on the way, or a host has stopped.
def Channel.Ends (buffers : Nat → ReceiveBuffer) (c : Channel) : Prop := ∃ n, ∀ c', c.after buffers n = .ok c' → c'.flight = []

structure Datagram where
  mac : Mac
  targetMac : Mac
  sourceIp : Ipv4
  targetIp : Ipv4
  sport : UInt16
  dport : UInt16
  data : List UInt8

def Datagram.frame (d : Datagram) : List UInt8 := udpFrame d.mac d.targetMac d.sourceIp d.targetIp d.sport d.dport d.data

-- A host that takes frames and sends them, with an address.
structure Online (h : Host) : Prop where
  running : h.kernel.systemState = .running
  on : h.initialized = true
  unlocked : h.locked = false
  dhcp : h.dhcp.initialized = true
  nic : ∃ nic, h.currentNic = some nic ∧ nic.magic = 1234

-- The host after it is told about a datagram, with `data` from its payload on.
def Host.told (h : Host) (d : Datagram) (data : List UInt8) : Host := h.heard d.mac d.sourceIp (data.takeWhile fun b => b ≠ 0)

theorem Online.told {h : Host} (online : Online h) (d : Datagram) (data : List UInt8) : Online (h.told d data) :=
  ⟨online.running,online.on,online.unlocked,online.dhcp,online.nic⟩

theorem networkOnReceiving_udp {h : Host} (online : Online h) (d : Datagram) (rest : List UInt8)
    (short : 42+(d.data ++ rest).length ≤ e1000DefaultBufferSize) {rv : Int} {h' : Host} :
    networkOnReceiving h (d.frame ++ rest) = .ok (rv,h') ↔
      rv = 0 ∧ 0 ∈ d.data ++ rest ∧ udpSeen (h.told d (d.data ++ rest)) d.sport d.dport (d.data ++ rest) = .ok h' := by
  have called : networkOnReceiving h (d.frame ++ rest) = networkHandleEthernet h (d.frame ++ rest) := if_neg (not_not.mpr online.running)
  have length : (d.frame ++ rest).length = 42+(d.data ++ rest).length := by
    rw [List.length_append,List.length_append,Datagram.frame,udpFrame_length,Nat.add_assoc]
  rw [called]
  by_cases terminated : 0 ∈ d.data ++ rest
  · rw [Datagram.frame,networkHandleEthernet_udpFrame online.on online.unlocked _ _ _ _ _ _ _ _ terminated short]
    simp only [bind_ok,Except.ok.injEq,Prod.mk.injEq]
    constructor
    · rintro ⟨_,seen,zero,rfl⟩
      exact ⟨zero.symm,terminated,seen⟩
    · rintro ⟨zero,_,seen⟩
      exact ⟨_,seen,zero.symm,rfl⟩
  · refine ⟨fun returned => ?_,fun all => absurd all.2.1 terminated⟩
    have fits := (networkHandleEthernet_returns online.on online.unlocked (by omega) (by omega)).mp ⟨_,returned⟩
    have udp := (fits.ipv4 (udpFrame_type _ _ _ _ _ _ _ _)).udp (udpFrame_version _ _ _ _ _ _ _ _) rfl
    exact absurd udp.terminated terminated

-- Only the kernel changes when the display server is told.
theorem tellDisplayServer_told {h h' : Host} (told : tellDisplayServer h = .ok h') :
    ∃ kernel, h' = {h with kernel := kernel} ∧ kernel.systemState = h.kernel.systemState := by
  unfold tellDisplayServer at told
  split at told
  · obtain ⟨⟨rv,kernel⟩,posted,same⟩ := bind_ok.mp told
    cases same
    refine ⟨kernel,rfl,?_⟩
    cases called : ipcPostMessageToDs 800800 0 0 h.kernel with
    | error halt =>
        rw [called] at posted
        cases posted
    | ok result =>
        rw [called] at posted
        cases posted
        rcases ipcPostMessageToDs_parts called with rfl | ⟨_,_,_,mailed⟩
        · rfl
        · exact mailed.globals.systemState.trans (summoned_globals _ _).systemState
  · cases told
    exact ⟨h.kernel,rfl,rfl⟩

theorem frameSent_valid {h : Host} {nic : Nic} (valid : nic.magic = 1234) (frame : List UInt8) : h.frameSent nic frame = h.transmit nic frame :=
  if_pos valid

-- A host that has sent a datagram is still there, and the datagram is its last frame.
theorem Online.sends {h : Host} (online : Online h) (sourceIp targetIp : Ipv4) (targetMac : Mac) (sourcePort targetPort : UInt16)
    (data : List UInt8) (short : 42+data.length ≤ e1000DefaultBufferSize) :
    ∃ mac h', networkSendUdp h sourceIp targetIp targetMac sourcePort targetPort data = .ok (0,h') ∧ Online h' ∧
      h'.sent = h.sent ++ [udpFrame mac targetMac sourceIp targetIp sourcePort targetPort data] := by
  obtain ⟨nic,present,valid⟩ := online.nic
  have reached : (nic.addressed sourceIp).magic = 1234 := valid
  refine ⟨nic.macAddress,_,networkSendUdp_fits present sourceIp targetIp targetMac sourcePort targetPort short,?_,?_⟩
  · rw [Host.udpSent,frameSent_valid reached]
    exact ⟨online.running,online.on,online.unlocked,online.dhcp,_,rfl,valid⟩
  · rw [Host.udpSent,frameSent_valid reached]
    rfl

-- The text of an answer: no answer asks for the display server.
structure AnswerText (data : List UInt8) : Prop where
  length : data.length = 256
  third : data.getD 2 0 ≠ 0x78

theorem gprotAnswer_code (buf : Nat → UInt8) : (gprotAnswer buf).1.length = 4 ∧ (gprotAnswer buf).1.getD 2 0 ≠ 0x78 := by
  have code : (gprotAnswer buf).1 = chars "g:1 " ∨ (gprotAnswer buf).1 = chars "g:a " ∨ (gprotAnswer buf).1 = chars "g:0 " ∨
      (gprotAnswer buf).1 = chars "g:3 " := by
    unfold gprotAnswer
    repeat' split
    all_goals simp
  rcases code with same | same | same | same
  all_goals
    rw [same]
    exact ⟨rfl,by decide⟩

-- The buffer with the answer to the payload that it had.
def answerBuffer (payload : Nat → UInt8) : Nat → UInt8 :=
  ksprintf (ksprintf (memsetPointer payload) 0 (gprotAnswer payload).1) 4 (gprotAnswer payload).2

theorem answerBuffer_answer (payload : Nat → UInt8) : AnswerText ((List.range 256).map (answerBuffer payload)) := by
  obtain ⟨length,third⟩ := gprotAnswer_code payload
  refine ⟨by simp,?_⟩
  have same : ((List.range 256).map (answerBuffer payload)).getD 2 0 = (gprotAnswer payload).1.getD 2 0 := by
    have at2 : ((List.range 256).map (answerBuffer payload)).getD 2 0 = answerBuffer payload 2 := by simp
    rw [at2]
    simp [answerBuffer,ksprintf,length]
  rw [same]
  exact third

-- What a host that comes back from a datagram has sent.
inductive Replies (sport dport : UInt16) : List (List UInt8) → Prop where
  | answered (d : Datagram) (port : dport = 11888) (source : d.sport = 11888) (target : d.dport = sport) (answer : AnswerText d.data) :
      Replies sport dport [d.frame]
  | requested (d : Datagram) (port : dport = 68) (target : d.dport = 67) (short : d.data.length = dhcpLength) : Replies sport dport [d.frame]
  | silent (other : dport ≠ 11888) : Replies sport dport []

theorem gprotHandleProtocol_answers {h h' : Host} (online : Online h) {sport : UInt16} {rv : Int}
    (handled : gprotHandleProtocol h sport 11888 = .ok (rv,h')) :
    Online h' ∧ ∃ d : Datagram, h'.sent = h.sent ++ [d.frame] ∧ d.sport = 11888 ∧ d.dport = sport ∧ AnswerText d.data := by
  unfold gprotHandleProtocol at handled
  rw [if_neg (by simp [online.dhcp]),if_neg (by simp)] at handled
  obtain ⟨told,asked,rest⟩ := bind_ok.mp handled
  obtain ⟨kernel,rfl,state⟩ := tellDisplayServer_told asked
  have ready : Online {h with kernel := kernel,udpPayload := answerBuffer h.udpPayload} :=
    ⟨state.trans online.running,online.on,online.unlocked,online.dhcp,online.nic⟩
  obtain ⟨mac,after,sent,still,frames⟩ := ready.sends h.dhcp.yourIpv4 h.callerIpv4 h.callerMac 11888 sport
    ((List.range 256).map (answerBuffer h.udpPayload)) (by simp [e1000DefaultBufferSize])
  have length : ((List.range 256).map (answerBuffer h.udpPayload)).length ≠ 0 := by simp
  change (gprotSendUdp {h with kernel := kernel,udpPayload := answerBuffer h.udpPayload} h.callerIpv4 h.callerMac 11888 sport
    ((List.range 256).map (answerBuffer h.udpPayload)) >>= fun r => .ok (0,r.2)) = .ok (rv,h') at rest
  rw [gprotSendUdp,if_neg length,sent] at rest
  cases rest
  exact ⟨still,⟨mac,h.callerMac,h.dhcp.yourIpv4,h.callerIpv4,11888,sport,_⟩,frames,rfl,rfl,answerBuffer_answer h.udpPayload⟩

theorem networkHandleDhcp_sends {h h' : Host} (online : Online h) {data : List UInt8} (handled : networkHandleDhcp h data = .ok h') :
    Online h' ∧ (h'.sent = h.sent ∨ ∃ d : Datagram, h'.sent = h.sent ++ [d.frame] ∧ d.dport = 67 ∧ d.data.length = dhcpLength) := by
  obtain ⟨nic,present,valid⟩ := online.nic
  rw [networkHandleDhcp_eq] at handled
  split at handled
  · cases handled
  rename_i typed
  split at handled
  · have whole := (networkDhcpSend_returns (Nat.not_lt.mp typed)).mp ⟨h',handled⟩ (by simp [present])
    have sent := @networkDhcpSend_request {h with dhcp := {h.dhcp with step := 2}} nic present data whole (peekIpv4 data 16) (peekIpv4 data 20) 68 67
    rw [sent] at handled
    cases handled
    refine ⟨?_,.inr ⟨⟨nic.macAddress,dhcpTargetMac,dhcpSource,dhcpTarget,68,67,_⟩,dhcpStepped_sent valid 3 68 67 _,rfl,?_⟩⟩
    · have reached : (nic.addressed dhcpSource).magic = 1234 := valid
      rw [Host.dhcpStepped,Host.udpSent,frameSent_valid reached]
      exact ⟨online.running,online.on,online.unlocked,online.dhcp,_,rfl,valid⟩
    · exact dhcpMessage_length whole (requestOptions_short _ _ _)
  · split at handled
    · cases handled
      exact ⟨⟨online.running,online.on,online.unlocked,rfl,online.nic⟩,.inl rfl⟩
    · cases handled
      exact ⟨online,.inl rfl⟩

theorem udpSeen_replies {h h' : Host} (online : Online h) {sport dport : UInt16} {data : List UInt8} (seen : udpSeen h sport dport data = .ok h') :
    Online h' ∧ ∃ replies, h'.sent = h.sent ++ replies ∧ Replies sport dport replies := by
  unfold udpSeen at seen
  split at seen
  · rename_i port
    obtain ⟨still,sent⟩ := networkHandleDhcp_sends online seen
    rcases sent with none | ⟨d,sent,target,length⟩
    · exact ⟨still,[],by simp [none],.silent (by rw [port]; decide)⟩
    · exact ⟨still,[d.frame],sent,.requested d port target length⟩
  · split at seen
    · obtain ⟨⟨rv,after⟩,handled,same⟩ := bind_ok.mp seen
      cases same
      by_cases port : dport = 11888
      · subst port
        obtain ⟨still,d,sent,source,target,answer⟩ := gprotHandleProtocol_answers online handled
        exact ⟨⟨still.running,still.on,still.unlocked,still.dhcp,still.nic⟩,[d.frame],sent,.answered d rfl source target answer⟩
      · unfold gprotHandleProtocol at handled
        rw [if_neg (by simp [online.dhcp]),if_pos port] at handled
        cases handled
        exact ⟨⟨online.running,online.on,online.unlocked,online.dhcp,online.nic⟩,[],by simp [clearPayload],.silent port⟩
    · rename_i closed
      cases seen
      exact ⟨online,[],by simp,.silent fun port => closed (.inl port)⟩

theorem ReceiveBuffer.behind_length (buffer : ReceiveBuffer) {d : Datagram} (fits : 42+d.data.length ≤ e1000DefaultBufferSize) :
    42+(d.data ++ buffer.behind d.frame).length ≤ e1000DefaultBufferSize := by
  have length : d.frame.length = 42+d.data.length := udpFrame_length _ _ _ _ _ _ _
  rw [ReceiveBuffer.behind,List.length_append,List.length_drop,buffer.size,length]
  omega

theorem ReceiveBuffer.ended (buffer : ReceiveBuffer) {frame : List UInt8} (short : frame.length < e1000DefaultBufferSize) :
    0 ∈ buffer.behind frame := by
  have last : (buffer.behind frame).getLast? = some 0 := by
    rw [ReceiveBuffer.behind,List.getLast?_drop,if_neg (by rw [buffer.size]; omega)]
    exact buffer.terminated
  exact List.mem_of_getLast? last

-- A delivery to a host that answers on its port comes back: the payload has an end
-- in the buffer, and a request for the display server finds it ready.
def Answered (h : Host) (payload : List UInt8) : Prop :=
  0 ∈ payload ∧ (requestsGx (copiedText (payload.takeWhile fun b => b ≠ 0)) → DisplayServerReady h.kernel)

theorem udpSeen_answered {h : Host} (online : Online h) (d : Datagram) (port : d.dport = 11888) (payload : List UInt8) :
    Bytes.Returns (udpSeen (h.told d payload) d.sport d.dport payload) ↔
      (requestsGx (copiedText (payload.takeWhile fun b => b ≠ 0)) → DisplayServerReady h.kernel) := by
  rw [port]
  unfold udpSeen
  rw [if_neg (by decide),if_pos (.inl rfl),Bytes.returns_bind_const (P := True) (fun _ _ => by simp),and_true,gprotHandleProtocol_returns]
  exact ⟨fun told request => told online.dhcp rfl request,fun ready _ _ request => ready request⟩

theorem deliver_one {buffer : ReceiveBuffer} {c c' : Channel} (online : ∀ s, Online (c.host s)) {side : Side} {d : Datagram}
    (one : c.flight = [(side,d.frame)]) (fits : 42+d.data.length ≤ e1000DefaultBufferSize) (delivered : c.deliver buffer = .ok c') :
    (∀ s, Online (c'.host s)) ∧ ∃ replies, c'.flight = replies.map (fun reply => (side.other,reply)) ∧ Replies d.sport d.dport replies := by
  simp only [Channel.deliver,one,bind_ok,Prod.exists] at delivered
  obtain ⟨rv,h,received,same⟩ := delivered
  obtain ⟨_,_,seen⟩ := (networkOnReceiving_udp (online side) d _ (buffer.behind_length fits)).mp received
  obtain ⟨still,replies,sent,reply⟩ := udpSeen_replies ((online side).told d _) seen
  cases same
  refine ⟨?_,replies,?_,reply⟩
  · intro s
    change Online (if s = side then h else c.host s)
    split
    · exact still
    · exact online s
  · have before : ((c.host side).told d (d.data ++ buffer.behind d.frame)).sent = (c.host side).sent := rfl
    rw [sent,before]
    simp

theorem deliver_answered {buffer : ReceiveBuffer} {c : Channel} (online : ∀ s, Online (c.host s)) {side : Side} {d : Datagram}
    (one : c.flight = [(side,d.frame)]) (fits : 42+d.data.length ≤ e1000DefaultBufferSize) (port : d.dport = 11888) :
    Bytes.Returns (c.deliver buffer) ↔ Answered (c.host side) (d.data ++ buffer.behind d.frame) := by
  have received := @networkOnReceiving_udp (c.host side) (online side) d _ (buffer.behind_length fits)
  have answered := udpSeen_answered (online side) d port (d.data ++ buffer.behind d.frame)
  constructor
  · rintro ⟨c',delivered⟩
    simp only [Channel.deliver,one,bind_ok,Prod.exists] at delivered
    obtain ⟨rv,h,came,_⟩ := delivered
    obtain ⟨_,terminated,seen⟩ := received.mp came
    exact ⟨terminated,answered.mp ⟨h,seen⟩⟩
  · rintro ⟨terminated,ready⟩
    obtain ⟨h,seen⟩ := answered.mpr ready
    have came := received.mpr ⟨rfl,terminated,seen⟩
    simp only [Channel.deliver,one,Bytes.returns_bind]
    exact ⟨(0,h),came,_,rfl⟩

theorem ends_empty {buffers : Nat → ReceiveBuffer} {c : Channel} (quiet : c.flight = []) : c.Ends buffers := by
  refine ⟨0,?_⟩
  intro c' same
  cases same
  exact quiet

theorem deliver_empty {buffer : ReceiveBuffer} {c : Channel} (quiet : c.flight = []) : c.deliver buffer = .ok c := by
  unfold Channel.deliver
  rw [quiet]

theorem ends_iff_next {buffers : Nat → ReceiveBuffer} {c : Channel} :
    c.Ends buffers ↔ ∀ c', c.deliver (buffers 0) = .ok c' → c'.Ends fun k => buffers (k+1) := by
  constructor
  · rintro ⟨n,ended⟩ c' delivered
    cases n with
    | zero =>
        have quiet := ended c rfl
        rw [deliver_empty quiet] at delivered
        cases delivered
        exact ends_empty quiet
    | succ n =>
        refine ⟨n,fun last later => ended last ?_⟩
        exact bind_ok.mpr ⟨c',delivered,later⟩
  · intro next
    cases first : c.deliver (buffers 0) with
    | error fault =>
        refine ⟨1,fun last later => ?_⟩
        obtain ⟨_,delivered,_⟩ := bind_ok.mp later
        rw [first] at delivered
        cases delivered
    | ok c' =>
        obtain ⟨n,ended⟩ := next c' first
        refine ⟨n+1,fun last later => ?_⟩
        obtain ⟨m,delivered,rest⟩ := bind_ok.mp later
        rw [first] at delivered
        cases delivered
        exact ended last rest

-- A datagram to a port without the protocol is followed by one DHCP request at most.
theorem ends_elsewhere {buffers : Nat → ReceiveBuffer} {c : Channel} (online : ∀ s, Online (c.host s)) {side : Side} {d : Datagram}
    (one : c.flight = [(side,d.frame)]) (fits : 42+d.data.length ≤ e1000DefaultBufferSize) (other : d.dport ≠ 11888) : c.Ends buffers := by
  refine ends_iff_next.mpr fun c' delivered => ?_
  obtain ⟨still,replies,flight,reply⟩ := deliver_one online one fits delivered
  cases reply with
  | answered _ port => exact absurd port other
  | silent => exact ends_empty flight
  | requested request _ target short =>
      refine ends_iff_next.mpr fun last received => ?_
      have room : 42+request.data.length ≤ e1000DefaultBufferSize := by
        rw [short]
        decide
      obtain ⟨_,more,rest,reply⟩ := deliver_one still flight room received
      rw [target] at reply
      cases reply with
      | answered _ port => exact absurd port (by decide)
      | requested _ port => exact absurd port (by decide)
      | silent => exact ends_empty rest

-- One answer is on the way from the port of the protocol to the same port.
structure Storming (c : Channel) : Prop where
  online : ∀ s, Online (c.host s)
  answer : ∃ side, ∃ d : Datagram, c.flight = [(side,d.frame)] ∧ d.sport = 11888 ∧ d.dport = 11888 ∧ AnswerText d.data

theorem takeWhile_getD (p : UInt8 → Bool) (l : List UInt8) (i : Nat) : (l.takeWhile p).getD i 0 = 0 ∨ (l.takeWhile p).getD i 0 = l.getD i 0 := by
  have split := List.takeWhile_append_dropWhile (p := p) (l := l)
  rcases Nat.lt_or_ge i (l.takeWhile p).length with inside | outside
  · right
    conv => rhs; rw [← split]
    rw [List.getD_append _ _ _ _ inside]
  · exact .inl (List.getD_eq_default _ _ outside)

theorem AnswerText.asks_nothing {data : List UInt8} (answer : AnswerText data) (rest : List UInt8) :
    ¬ requestsGx (copiedText ((data ++ rest).takeWhile fun b => b ≠ 0)) := by
  rintro ⟨_,_,third⟩
  have inside : 2 < data.length := by
    rw [answer.length]
    decide
  have copied := takeWhile_getD (fun b => decide (b ≠ 0)) (data ++ rest) 2
  rw [List.getD_append _ _ _ _ inside] at copied
  unfold copiedText at third
  split at third
  · rcases copied with zero | same
    · rw [zero] at third
      exact absurd third (by decide)
    · exact answer.third (same.symm.trans third)
  · exact absurd third (by decide)

-- A delivery from the port of the protocol to the same port that is answered
-- leaves an answer of the same kind.
theorem deliver_storms {buffer : ReceiveBuffer} {c : Channel} (online : ∀ s, Online (c.host s)) {side : Side} {d : Datagram}
    (one : c.flight = [(side,d.frame)]) (fits : 42+d.data.length ≤ e1000DefaultBufferSize) (source : d.sport = 11888)
    (port : d.dport = 11888) (answered : Answered (c.host side) (d.data ++ buffer.behind d.frame)) :
    ∃ c', c.deliver buffer = .ok c' ∧ Storming c' := by
  obtain ⟨c',delivered⟩ := (deliver_answered online one fits port).mpr answered
  obtain ⟨still,replies,flight,reply⟩ := deliver_one online one fits delivered
  refine ⟨c',delivered,still,side.other,?_⟩
  cases reply with
  | answered d' _ source' target answer => exact ⟨d',flight,source',target.trans source,answer⟩
  | requested _ other => exact absurd (port.symm.trans other) (by decide)
  | silent other => exact absurd port other

theorem Storming.next {c : Channel} (storming : Storming c) (buffer : ReceiveBuffer) : ∃ c', c.deliver buffer = .ok c' ∧ Storming c' := by
  obtain ⟨side,d,one,source,port,answer⟩ := storming.answer
  have length : d.frame.length = 298 := by
    rw [Datagram.frame,udpFrame_length,answer.length]
  have fits : 42+d.data.length ≤ e1000DefaultBufferSize := by
    rw [answer.length]
    decide
  refine deliver_storms storming.online one fits source port ⟨?_,fun request => absurd request (answer.asks_nothing _)⟩
  exact List.mem_append_right _ (buffer.ended (by rw [length]; decide))

theorem Storming.forever {c : Channel} (storming : Storming c) (buffers : Nat → ReceiveBuffer) (n : Nat) :
    ∃ c', c.after buffers n = .ok c' ∧ Storming c' := by
  induction n generalizing c buffers with
  | zero => exact ⟨c,rfl,storming⟩
  | succ n ih =>
      obtain ⟨m,delivered,still⟩ := storming.next (buffers 0)
      obtain ⟨c',later,last⟩ := ih still fun k => buffers (k+1)
      exact ⟨c',bind_ok.mpr ⟨m,delivered,later⟩,last⟩

theorem Storming.endless {c : Channel} (storming : Storming c) (buffers : Nat → ReceiveBuffer) : ¬ c.Ends buffers := by
  rintro ⟨n,ended⟩
  obtain ⟨c',reached,still⟩ := storming.forever buffers n
  obtain ⟨side,d,one,_⟩ := still.answer
  have quiet := ended c' reached
  rw [one] at quiet
  cases quiet

-- A conversation that one datagram starts goes on for ever exactly when that
-- datagram comes from the port of the protocol, goes to it and is answered.
theorem conversation_ends_iff (buffers : Nat → ReceiveBuffer) {c : Channel} (online : ∀ s, Online (c.host s)) {side : Side} {d : Datagram}
    (one : c.flight = [(side,d.frame)]) (fits : 42+d.data.length ≤ 8192) :
    c.Ends buffers ↔ ¬ (d.sport = 11888 ∧ d.dport = 11888 ∧ Answered (c.host side) (d.data ++ (buffers 0).behind d.frame)) := by
  constructor
  · rintro ended ⟨source,port,answered⟩
    obtain ⟨c',delivered,storming⟩ := deliver_storms online one fits source port answered
    exact storming.endless _ (ends_iff_next.mp ended c' delivered)
  · intro calm
    by_cases port : d.dport = 11888
    · refine ends_iff_next.mpr fun c' delivered => ?_
      have answered := (deliver_answered online one fits port).mp ⟨c',delivered⟩
      obtain ⟨still,replies,flight,reply⟩ := deliver_one online one fits delivered
      cases reply with
      | answered d' _ _ target answer =>
          have elsewhere : d'.dport ≠ 11888 := fun same => calm ⟨target.symm.trans same,port,answered⟩
          have room : 42+d'.data.length ≤ e1000DefaultBufferSize := by
            rw [answer.length]
            decide
          exact ends_elsewhere still flight room elsewhere
      | requested _ other => exact absurd (port.symm.trans other) (by decide)
      | silent other => exact absurd port other
    · exact ends_elsewhere online one fits port

-- Two hosts with a lease, and a text for the port of the protocol.
def leasedHost : Host := bootHost.leased ⟨192,168,1,6⟩ ⟨192,168,1,1⟩

def freshBuffer : ReceiveBuffer where
  bytes := zeros e1000DefaultBufferSize
  size := List.length_replicate
  terminated := List.getLast?_replicate.trans (if_neg (by decide))

def helloFrom (sport : UInt16) : Datagram :=
  ⟨bootNic.macAddress,bootNic.macAddress,⟨192,168,1,7⟩,⟨192,168,1,6⟩,sport,11888,helloText ++ [0]⟩

def talking (d : Datagram) : Channel := ⟨fun _ => leasedHost,[(.right,d.frame)]⟩

theorem leasedHost_online : Online leasedHost := ⟨rfl,rfl,rfl,rfl,bootNic,rfl,rfl⟩

theorem hello_conversation : (talking (helloFrom 40000)).Ends (fun _ => freshBuffer) ↔
    ¬ ((helloFrom 40000).sport = 11888 ∧ (helloFrom 40000).dport = 11888 ∧
      Answered ((talking (helloFrom 40000)).host .right) ((helloFrom 40000).data ++ freshBuffer.behind (helloFrom 40000).frame)) :=
  conversation_ends_iff (fun _ => freshBuffer) (fun _ => leasedHost_online) (show (talking (helloFrom 40000)).flight = [(.right,(helloFrom 40000).frame)] from rfl) (by decide)

theorem hello_storms : ¬ (talking (helloFrom 11888)).Ends fun _ => freshBuffer := by
  have text : ((helloText ++ [0]) ++ freshBuffer.behind (helloFrom 11888).frame).takeWhile (fun b => b ≠ 0) = helloText := by
    rw [List.append_assoc]
    exact terminated_takeWhile (by decide)
  have answered : Answered leasedHost ((helloFrom 11888).data ++ freshBuffer.behind (helloFrom 11888).frame) := by
    refine ⟨by simp [helloFrom],fun request => ?_⟩
    change requestsGx (copiedText (((helloText ++ [0]) ++ freshBuffer.behind (helloFrom 11888).frame).takeWhile fun b => b ≠ 0)) at request
    rw [text] at request
    exact absurd request.2.2 (by decide)
  obtain ⟨c',delivered,storming⟩ := deliver_storms (c := talking (helloFrom 11888)) (fun _ => leasedHost_online) rfl (by decide) rfl rfl answered
  exact fun ended => storming.endless _ (ends_iff_next.mp ended c' delivered)

end GramadoKernel
