import GramadoKernel.Creation
import GramadoKernel.Frames

namespace GramadoKernel

-- The thread of the display server, where there is one, can take a message.
def DisplayServerReady (k : Kernel) : Prop :=
  k.displayServerInitialized = true → 0 ≤ k.displayServerTid → k.displayServerTid < threadCountMax →
    ∃ p m, k.lookup k.displayServerTid = some p ∧ (k.thread p).Valid ∧
      (k.thread p).queue.slot (k.thread p).queue.tail = some m ∧ m.Valid

theorem doCreditsByTid_queue (tid : Int) (k : Kernel) (i : Nat) : ((doCreditsByTid tid k).thread i).queue = (k.thread i).queue := by
  unfold doCreditsByTid
  rw [onThread_thread]
  split <;> rfl

theorem summoned_queue (tid : Int) (k : Kernel) (i : Nat) : ((summoned tid k).thread i).queue = (k.thread i).queue := by
  unfold summoned
  rw [wakeupThread_thread]
  simp only [Request.change]
  repeat' split
  all_goals rw [doCreditsByTid_queue,doCreditsByTid_queue]

theorem postMessage_returns {name : String} {src dst code : Int} {long1 long2 long3 long4 : UInt64} {k : Kernel} :
    Bytes.Returns (postMessage name src dst code long1 long2 long3 long4 k) ↔
      ∃ p m, k.lookup dst = some p ∧ (k.thread p).Valid ∧ (k.thread p).queue.slot (k.thread p).queue.tail = some m ∧ m.Valid := by
  constructor
  · rintro ⟨⟨rv,k'⟩,posted⟩
    obtain ⟨_,p,m,found,valid,slot,good,_⟩ := postMessage_parts posted
    rw [notifyReceiver_queue] at slot
    exact ⟨p,m,found,valid,slot,good⟩
  · rintro ⟨p,m,found,valid,slot,good⟩
    obtain ⟨same,below,listed⟩ := lookup_some.mp found
    have queue := notifyReceiver_queue p k p
    have posted : ∃ k', postMessage name src dst code long1 long2 long3 long4 k = .ok (0,k') := by
      simp only [postMessage,bind_ok,require_ok,pointer_ok,Except.ok.injEq,Prod.mk.injEq,true_and]
      exact ⟨_,(),⟨by omega,by omega⟩,p,found,(),valid,(),(k.tids p listed).trans same.symm,m,by rw [queue]; exact slot,(),good,rfl⟩
    obtain ⟨k',posted⟩ := posted
    exact ⟨(0,k'),posted⟩

theorem ipcPostMessageToDs_returns {msg : Int} {long1 long2 : UInt64} {k : Kernel} (positive : 0 < msg) (code : cInt msg = msg) :
    Bytes.Returns (ipcPostMessageToDs msg long1 long2 k) ↔ DisplayServerReady k := by
  unfold ipcPostMessageToDs
  by_cases present : k.displayServerInitialized = true
  · by_cases range : 0 ≤ k.displayServerTid ∧ k.displayServerTid < threadCountMax
    · have own : low16 k.displayServerTid = k.displayServerTid := by
        unfold low16 threadCountMax at *
        omega
      have called : ipcPostMessageToTid 0 k.displayServerTid msg long1 long2 (summoned k.displayServerTid k) =
          postMessage "ipc_post_message_to_tid" (low16 0) k.displayServerTid msg long1 long2 (summoned k.displayServerTid k).jiffies
            (summoned k.displayServerTid k).jiffies (summoned k.displayServerTid k) := by
        unfold ipcPostMessageToTid
        rw [code,if_neg (by omega),own]
      have lookup : (summoned k.displayServerTid k).lookup k.displayServerTid = k.lookup k.displayServerTid :=
        lookup_congr (summoned_globals _ k).listed _
      rw [if_neg (not_not.mpr present),if_neg (not_not.mpr range)]
      change Bytes.Returns (if msg < 0 then _ else ipcPostMessageToTid 0 k.displayServerTid msg long1 long2 (summoned k.displayServerTid k) >>= _) ↔ _
      rw [if_neg (by omega),Bytes.returns_bind_const (P := True) (fun _ _ => by simp),called,postMessage_returns,and_true,lookup]
      simp only [summoned_queue,(summoned_roused _ k _).valid]
      exact ⟨fun found _ _ _ => found,fun ready => ready present range.1 range.2⟩
    · rw [if_neg (not_not.mpr present),if_pos range]
      exact ⟨fun _ _ low high => absurd ⟨low,high⟩ range,fun _ => ⟨_,rfl⟩⟩
  · rw [if_pos present]
    exact ⟨fun _ yes => absurd yes present,fun _ => ⟨_,rfl⟩⟩

-- A DHCP message is read up to its type, and an offer is sent back whole.
structure DhcpFits (h : Host) (buffer : List UInt8) : Prop where
  typed : 243 ≤ buffer.length
  offer : peek buffer 242 = doraO → h.currentNic ≠ none → dhcpLength ≤ buffer.length

-- The payload of a datagram as text, and whether it asks for the display server.
def udpText (buffer : List UInt8) : List UInt8 := (buffer.drop udpHeaderLength).takeWhile fun b => b ≠ 0

-- The copy of it, which is empty for a text that is too long.
def copiedText (text : List UInt8) (i : Nat) : UInt8 := if text.length ≤ 512 then text.getD i 0 else 0

def requestsGx (payload : Nat → UInt8) : Prop := payload 0 = 0x67 ∧ payload 1 = 0x3A ∧ payload 2 = 0x78

def udpPort (buffer : List UInt8) : UInt16 := toNetByteOrder16 (peekWord buffer 2)

-- The payload has an end; what it is for has what it needs.
structure UdpFits (h : Host) (buffer : List UInt8) : Prop where
  terminated : 0 ∈ buffer.drop udpHeaderLength
  dhcp : udpPort buffer = 68 → DhcpFits h (buffer.drop udpHeaderLength)
  told : udpPort buffer = 11888 → h.dhcp.initialized = true → requestsGx (copiedText (udpText buffer)) → DisplayServerReady h.kernel

-- The payload is long enough for the copy or has an end before.
def TcpFits (buffer : List UInt8) : Prop := 1020 ≤ (buffer.drop tcpHeaderLength).length ∨ 0 ∈ buffer.drop tcpHeaderLength

-- The total length of a packet of version 4 is at least that of the header.
structure Ipv4Fits (h : Host) (buffer : List UInt8) : Prop where
  addressed : 16 ≤ buffer.length
  total : peek buffer 0 >>> 4 = 4 → 20 ≤ toNetByteOrder16 (peekWord buffer 2)
  tcp : peek buffer 0 >>> 4 = 4 → peek buffer 9 = protocolIpTcp → TcpFits (buffer.drop ipHeaderLength)
  udp : peek buffer 0 >>> 4 = 4 → peek buffer 9 = protocolIpUdp → UdpFits h (buffer.drop ipHeaderLength)

def arpOp (buffer : List UInt8) : UInt16 := toNetByteOrder16 (peekWord buffer 6)

structure ArpFits (h : Host) (buffer : List UInt8) : Prop where
  operation : 8 ≤ buffer.length
  request : arpOp buffer = arpOpcRequest → h.dhcp.initialized = true → h.currentNic ≠ none → 18 ≤ buffer.length
  reply : arpOp buffer = arpOpcReply → 18 ≤ buffer.length

def etherType (frame : List UInt8) : UInt16 := toNetByteOrder16 (peekWord frame 12)

structure FrameFits (h : Host) (frame : List UInt8) : Prop where
  header : 14 ≤ frame.length
  ipv4 : etherType frame = etherTypeIpv4 → Ipv4Fits h (frame.drop ethernetHeaderLength)
  arp : etherType frame = etherTypeArp → ArpFits h (frame.drop ethernetHeaderLength)

theorem networkDhcpSend_returns {h : Host} {dhcp : List UInt8} {sourceIp targetIp : Ipv4} {sport dport : UInt16} (typed : 243 ≤ dhcp.length) :
    Bytes.Returns (networkDhcpSend h dhcp doraR sourceIp targetIp sport dport) ↔ (h.currentNic ≠ none → dhcpLength ≤ dhcp.length) := by
  have request : ¬ doraR < 0 ∧ doraR ≠ doraD := by decide
  have fields : ¬ dhcp.length < 44 ∧ ¬ dhcp.length < 243 := by omega
  cases present : h.currentNic with
  | none => simp [networkDhcpSend,request,fields,present]
  | some nic =>
      constructor
      · intro returned _
        by_contra short
        simp only [networkDhcpSend,dhcpSent,request.1,request.2,fields.1,fields.2,present,if_false,if_true,if_pos (Nat.not_le.mp short)] at returned
        exact Bytes.returns_error _ returned
      · intro whole
        exact ⟨_,networkDhcpSend_request present (whole (by simp)) sourceIp targetIp sport dport⟩

-- The host after an Ack.
def Host.leased (h : Host) (your server : Ipv4) : Host := {h with dhcp := ⟨true,4,your,server⟩,isOnline := true}

theorem networkHandleDhcp_eq (h : Host) (buffer : List UInt8) : networkHandleDhcp h buffer =
    if buffer.length < 243 then .error .outside
    else if peek buffer 242 = doraO then
      networkDhcpSend {h with dhcp := {h.dhcp with step := 2}} buffer doraR (peekIpv4 buffer 16) (peekIpv4 buffer 20) 68 67
    else if peek buffer 242 = doraA then
      .ok (h.leased (peekIpv4 buffer 16) (peekIpv4 buffer 20))
    else .ok h := by
  by_cases short : buffer.length < 243
  · rw [if_pos short]
    refine outside_bind (ipv4At_eq buffer 16) (outside_bind (ipv4At_eq buffer 20) (outside_bind (macAt_eq buffer 28)
      (outside_bind (byteAt_eq buffer 0) ?_)))
    rw [byteAt_eq,if_neg (by omega)]
    rfl
  · rw [if_neg short]
    unfold networkHandleDhcp
    rw [ipv4At_eq,if_pos (by omega),ipv4At_eq,if_pos (by omega),macAt_eq,if_pos (by omega),byteAt_eq,if_pos (by omega),byteAt_eq,
      if_pos (by omega)]
    by_cases offer : peek buffer 242 = doraO
    · rw [if_pos offer]
      exact if_pos offer
    · rw [if_neg offer]
      refine (if_neg offer).trans ?_
      simp only [ite_self]
      rfl

theorem networkHandleDhcp_returns (h : Host) (buffer : List UInt8) :
    Bytes.Returns (networkHandleDhcp h buffer) ↔ DhcpFits h buffer := by
  rw [networkHandleDhcp_eq]
  split
  · rename_i short
    exact ⟨fun returned => absurd returned (Bytes.returns_error _),fun fits => absurd fits.typed (Nat.not_le.mpr short)⟩
  · rename_i typed
    split
    · rename_i offer
      rw [networkDhcpSend_returns (Nat.not_lt.mp typed)]
      exact ⟨fun whole => ⟨Nat.not_lt.mp typed,fun _ => whole⟩,fun fits => fits.offer offer⟩
    · rename_i other
      have fits : DhcpFits h buffer := ⟨Nat.not_lt.mp typed,fun offer => absurd offer other⟩
      split
      · exact ⟨fun _ => fits,fun _ => ⟨_,rfl⟩⟩
      · exact ⟨fun _ => fits,fun _ => ⟨_,rfl⟩⟩

theorem tellDisplayServer_returns (h : Host) :
    Bytes.Returns (tellDisplayServer h) ↔ (requestsGx h.udpPayload → DisplayServerReady h.kernel) := by
  unfold tellDisplayServer
  split
  · rename_i request
    rw [Bytes.returns_bind_const (P := True) (fun _ _ => by simp),and_true,
      ← @ipcPostMessageToDs_returns 800800 0 0 h.kernel (by decide) (by decide)]
    cases ipcPostMessageToDs 800800 0 0 h.kernel with
    | ok r => exact ⟨fun _ _ => ⟨r,rfl⟩,fun _ => ⟨r,rfl⟩⟩
    | error e => exact ⟨fun returned => absurd returned (Bytes.returns_error _),fun told => absurd (told request) (Bytes.returns_error _)⟩
  · rename_i other
    exact ⟨fun _ request => absurd request other,fun _ => ⟨_,rfl⟩⟩

theorem gprotSendUdp_returns (h : Host) (targetIp : Ipv4) (targetMac : Mac) (sourcePort targetPort : UInt16) {data : List UInt8}
    (short : 42+data.length ≤ e1000DefaultBufferSize) : Bytes.Returns (gprotSendUdp h targetIp targetMac sourcePort targetPort data) := by
  unfold gprotSendUdp
  split
  · exact ⟨_,rfl⟩
  · rw [Bytes.returns_bind_const (P := True) (fun _ _ => by simp)]
    exact ⟨networkSendUdp_returns h _ targetIp targetMac sourcePort targetPort short,trivial⟩

theorem gprotHandleProtocol_returns (h : Host) (sport dport : UInt16) : Bytes.Returns (gprotHandleProtocol h sport dport) ↔
    (h.dhcp.initialized = true → dport = 11888 → requestsGx h.udpPayload → DisplayServerReady h.kernel) := by
  unfold gprotHandleProtocol
  split
  · rename_i idle
    exact ⟨fun _ initialized => absurd (idle.symm.trans initialized) (by decide),fun _ => ⟨_,rfl⟩⟩
  · rename_i initialized
    split
    · rename_i other
      exact ⟨fun _ _ port => absurd port other,fun _ => ⟨_,rfl⟩⟩
    · rename_i port
      simp only
      rw [Bytes.returns_bind_const (P := True)]
      · rw [tellDisplayServer_returns,and_true]
        exact ⟨fun told _ _ => told,fun told => told (by simpa using initialized) (not_not.mp port)⟩
      · intro told _
        rw [Bytes.returns_bind_const (P := True) (fun _ _ => by simp),and_true]
        exact ⟨fun _ => trivial,fun _ => gprotSendUdp_returns _ _ _ _ _ (by simp [e1000DefaultBufferSize])⟩

theorem readTo_takeWhile {bytes text : List UInt8} (read : Bytes.readTo Fault.outside 0 bytes = .ok text) :
    text = bytes.takeWhile fun b => b ≠ 0 := by
  obtain ⟨fresh,rest,rfl⟩ := Bytes.readTo_eq.mp read
  have all : ∀ b ∈ text, (decide (b ≠ 0)) = true := by
    intro b member
    refine decide_eq_true ?_
    rintro rfl
    exact fresh member
  rw [List.takeWhile_append_of_pos all]
  simp

theorem networkHandleUdp_eq {h : Host} {buffer : List UInt8} (terminated : 0 ∈ buffer.drop udpHeaderLength) : networkHandleUdp h buffer =
    if udpPort buffer = 68 then networkHandleDhcp (copyPayload (clearPayload h) (udpText buffer)) (buffer.drop udpHeaderLength)
    else if udpPort buffer = 11888 ∨ udpPort buffer = 22888 ∨ udpPort buffer = 34884 then do
      let (_,h) ← gprotHandleProtocol (copyPayload (clearPayload h) (udpText buffer)) (toNetByteOrder16 (peekWord buffer 0)) (udpPort buffer)
      .ok (clearPayload h)
    else .ok (copyPayload (clearPayload h) (udpText buffer)) := by
  have long : udpHeaderLength < buffer.length := by
    by_contra short
    rw [List.drop_eq_nil_of_le (Nat.not_lt.mp short)] at terminated
    cases terminated
  obtain ⟨text,read⟩ : Bytes.Returns (Bytes.readTo Fault.outside 0 (buffer.drop udpHeaderLength)) := Bytes.readTo_returns.mpr terminated
  have same : text = udpText buffer := readTo_takeWhile read
  subst same
  have ports : 0+1 < buffer.length ∧ 2+1 < buffer.length ∧ 4+1 < buffer.length := by
    unfold udpHeaderLength at long
    omega
  unfold networkHandleUdp
  rw [wordAt_eq,if_pos ports.1,wordAt_eq,if_pos ports.2.1,wordAt_eq,if_pos ports.2.2,read]
  rfl

theorem copyPayload_payload (h : Host) (text : List UInt8) : (copyPayload (clearPayload h) text).udpPayload = copiedText text := by
  funext i
  unfold copyPayload copiedText
  split
  · rfl
  · rfl

theorem copyPayload_frame (h : Host) (text : List UInt8) : (copyPayload h text).dhcp = h.dhcp ∧
    (copyPayload h text).kernel = h.kernel ∧ (copyPayload h text).currentNic = h.currentNic := by
  unfold copyPayload
  split
  · exact ⟨rfl,rfl,rfl⟩
  · exact ⟨rfl,rfl,rfl⟩

theorem networkHandleUdp_returns (h : Host) (buffer : List UInt8) : Bytes.Returns (networkHandleUdp h buffer) ↔ UdpFits h buffer := by
  have frame := copyPayload_frame (clearPayload h) (udpText buffer)
  constructor
  · intro returned
    have terminated : 0 ∈ buffer.drop udpHeaderLength := by
      simp only [networkHandleUdp,Bytes.returns_bind] at returned
      obtain ⟨_,_,_,_,text,read,_⟩ := returned
      exact Bytes.readTo_returns.mp ⟨text,read⟩
    rw [networkHandleUdp_eq terminated] at returned
    refine ⟨terminated,?_,?_⟩
    · intro port
      rw [if_pos port,networkHandleDhcp_returns] at returned
      exact ⟨returned.typed,fun offer nic => returned.offer offer (by rw [frame.2.2]; exact nic)⟩
    · intro port initialized request
      rw [if_neg (by rw [port]; decide),if_pos (.inl port),Bytes.returns_bind_const (P := True) (fun _ _ => by simp),and_true,
        gprotHandleProtocol_returns,frame.1,frame.2.1,copyPayload_payload] at returned
      exact returned initialized port request
  · intro fits
    rw [networkHandleUdp_eq fits.terminated]
    split
    · rename_i port
      rw [networkHandleDhcp_returns]
      have dhcp := fits.dhcp port
      exact ⟨dhcp.typed,fun offer nic => dhcp.offer offer (by rw [frame.2.2] at nic; exact nic)⟩
    · split
      · rw [Bytes.returns_bind_const (P := True) (fun _ _ => by simp),and_true,gprotHandleProtocol_returns,frame.1,frame.2.1,
          copyPayload_payload]
        exact fun initialized port request => fits.told port initialized request
      · exact ⟨_,rfl⟩

theorem networkHandleTcp_returns (h : Host) (buffer : List UInt8) : Bytes.Returns (networkHandleTcp h buffer) ↔ TcpFits buffer := by
  constructor
  · intro returned
    simp only [networkHandleTcp,Bytes.returns_bind] at returned
    obtain ⟨_,_,_,_,_,_,_,_,text,read,_⟩ := returned
    exact Bytes.readUpTo_returns.mp ⟨text,read⟩
  · intro fits
    have long : tcpHeaderLength < buffer.length := by
      rcases fits with copy | terminated
      · rw [List.length_drop] at copy
        omega
      · by_contra short
        rw [List.drop_eq_nil_of_le (Nat.not_lt.mp short)] at terminated
        cases terminated
    unfold tcpHeaderLength at long
    obtain ⟨text,read⟩ : Bytes.Returns (Bytes.readUpTo Fault.outside 0 1020 (buffer.drop tcpHeaderLength)) := Bytes.readUpTo_returns.mpr fits
    refine ⟨h,?_⟩
    unfold networkHandleTcp dwordAt
    rw [wordAt_eq,if_pos (by omega),wordAt_eq,if_pos (by omega),wordAt_eq,if_pos (by omega),wordAt_eq,if_pos (by omega),
      wordAt_eq,if_pos (by omega),wordAt_eq,if_pos (by omega),read,wordAt_eq,if_pos (by omega)]
    rfl

theorem UdpFits.elsewhere {g h : Host} {buffer : List UInt8} (fits : UdpFits g buffer) (nic : g.currentNic = h.currentNic)
    (dhcp : g.dhcp = h.dhcp) (kernel : g.kernel = h.kernel) : UdpFits h buffer := by
  refine ⟨fits.terminated,?_,?_⟩
  · intro port
    have message := fits.dhcp port
    exact ⟨message.typed,nic ▸ message.offer⟩
  · rw [← dhcp,← kernel]
    exact fits.told

theorem networkHandleIpv4_eq {h : Host} {buffer : List UInt8} (addressed : 16 ≤ buffer.length) : networkHandleIpv4 h buffer =
    if peek buffer 0 >>> 4 ≠ 4 then .ok {h with callerIpv4 := peekIpv4 buffer 12}
    else if toNetByteOrder16 (peekWord buffer 2) < 20 then refused "IP: Bad total lenght #debug\n"
    else if peek buffer 9 = protocolIpTcp then networkHandleTcp {h with callerIpv4 := peekIpv4 buffer 12} (buffer.drop ipHeaderLength)
    else if peek buffer 9 = protocolIpUdp then networkHandleUdp {h with callerIpv4 := peekIpv4 buffer 12} (buffer.drop ipHeaderLength)
    else .ok {h with callerIpv4 := peekIpv4 buffer 12} := by
  unfold networkHandleIpv4
  rw [ipv4At_eq,if_pos (by omega),byteAt_eq,if_pos (by omega),wordAt_eq,if_pos (by omega),byteAt_eq,if_pos (by omega)]
  rfl

theorem networkHandleIpv4_returns (h : Host) (buffer : List UInt8) : Bytes.Returns (networkHandleIpv4 h buffer) ↔ Ipv4Fits h buffer := by
  by_cases addressed : 16 ≤ buffer.length
  · rw [networkHandleIpv4_eq addressed]
    split
    · rename_i version
      exact ⟨fun _ => ⟨addressed,fun four => absurd four version,fun four => absurd four version,fun four => absurd four version⟩,
        fun _ => ⟨_,rfl⟩⟩
    · rename_i version
      have four := not_not.mp version
      split
      · rename_i short
        refine ⟨fun returned => absurd returned (Bytes.returns_error _),fun fits => absurd (fits.total four) ?_⟩
        exact UInt16.not_le.mpr short
      · rename_i total
        have whole := UInt16.not_lt.mp total
        split
        · rename_i tcp
          rw [networkHandleTcp_returns]
          refine ⟨fun fits => ⟨addressed,fun _ => whole,fun _ _ => fits,fun _ udp => ?_⟩,fun fits => fits.tcp four tcp⟩
          exact absurd (tcp.symm.trans udp) (by decide)
        · rename_i notTcp
          split
          · rename_i udp
            rw [networkHandleUdp_returns]
            constructor
            · intro fits
              exact ⟨addressed,fun _ => whole,fun _ tcp => absurd tcp notTcp,fun _ _ => fits.elsewhere rfl rfl rfl⟩
            · intro fits
              exact (fits.udp four udp).elsewhere rfl rfl rfl
          · rename_i notUdp
            exact ⟨fun _ => ⟨addressed,fun _ => whole,fun _ tcp => absurd tcp notTcp,fun _ udp => absurd udp notUdp⟩,fun _ => ⟨_,rfl⟩⟩
  · have fails : networkHandleIpv4 h buffer = .error .outside := by
      unfold networkHandleIpv4
      rw [ipv4At_eq,if_neg (by omega)]
      rfl
    rw [fails]
    exact ⟨fun returned => absurd returned (Bytes.returns_error _),fun fits => absurd fits.addressed addressed⟩

theorem networkSendArpReply_returns (h : Host) {targetMac : Except Fault Mac} {targetIp : Except Fault Ipv4} :
    Bytes.Returns (networkSendArpReply h targetMac targetIp) ↔
      (h.dhcp.initialized = true → h.currentNic ≠ none → Bytes.Returns targetMac ∧ Bytes.Returns targetIp) := by
  unfold networkSendArpReply
  split
  · rename_i idle
    exact ⟨fun _ initialized => absurd (idle.symm.trans initialized) (by decide),fun _ => ⟨_,rfl⟩⟩
  · rename_i initialized
    cases present : h.currentNic with
    | none => simp [networkSendArp,present]
    | some nic =>
        constructor
        · rintro returned _ _
          simp only [networkSendArp,present,Bytes.returns_bind] at returned
          obtain ⟨mac,readMac,sent⟩ := returned
          rw [if_neg (by decide)] at sent
          simp only [Bytes.returns_bind] at sent
          obtain ⟨ip,readIp,_⟩ := sent
          exact ⟨⟨mac,readMac⟩,⟨ip,readIp⟩⟩
        · intro both
          obtain ⟨⟨mac,readMac⟩,⟨ip,readIp⟩⟩ := both (by simpa using initialized) (by simp)
          exact ⟨_,networkSendArp_fits present readMac _ readIp (.inr rfl)⟩

theorem macAt_returns {buffer : List UInt8} {i : Nat} : Bytes.Returns (macAt buffer i) ↔ i+5 < buffer.length := by
  rw [macAt_eq]
  split <;> simp_all

theorem ipv4At_returns {buffer : List UInt8} {i : Nat} : Bytes.Returns (ipv4At buffer i) ↔ i+3 < buffer.length := by
  rw [ipv4At_eq]
  split <;> simp_all

theorem networkHandleArp_returns (h : Host) (buffer : List UInt8) : Bytes.Returns (networkHandleArp h buffer) ↔ ArpFits h buffer := by
  by_cases operation : 8 ≤ buffer.length
  · unfold networkHandleArp
    rw [wordAt_eq,if_pos (by omega)]
    change Bytes.Returns (if arpOp buffer = arpOpcRequest then _ else if arpOp buffer = arpOpcReply then _ else _) ↔ _
    split
    · rename_i request
      rw [networkSendArpReply_returns,macAt_returns,ipv4At_returns]
      constructor
      · intro reads
        refine ⟨operation,fun _ initialized nic => ?_,fun reply => absurd (request.symm.trans reply) (by decide)⟩
        exact (reads initialized nic).2
      · intro fits initialized nic
        have long := fits.request request initialized nic
        exact ⟨by omega,by omega⟩
    · rename_i notRequest
      split
      · rename_i reply
        rw [Bytes.returns_bind_const (P := True),ipv4At_returns,and_true]
        · exact ⟨fun long => ⟨operation,fun request => absurd request notRequest,fun _ => long⟩,fun fits => fits.reply reply⟩
        · intro spa read
          have long := ipv4At_returns.mp ⟨spa,read⟩
          refine ⟨fun _ => trivial,fun _ => ?_⟩
          split
          · split
            · exact ⟨_,rfl⟩
            · split
              · exact ⟨_,rfl⟩
              · rw [macAt_eq,if_pos (by omega)]
                exact ⟨_,rfl⟩
          · exact ⟨_,rfl⟩
      · rename_i notReply
        exact ⟨fun _ => ⟨operation,fun request => absurd request notRequest,fun reply => absurd reply notReply⟩,fun _ => ⟨_,rfl⟩⟩
  · have fails : networkHandleArp h buffer = .error .outside := by
      unfold networkHandleArp
      rw [wordAt_eq,if_neg (by omega)]
      rfl
    rw [fails]
    exact ⟨fun returned => absurd returned (Bytes.returns_error _),fun fits => absurd fits.operation operation⟩

theorem Ipv4Fits.elsewhere {g h : Host} {buffer : List UInt8} (fits : Ipv4Fits g buffer) (nic : g.currentNic = h.currentNic)
    (dhcp : g.dhcp = h.dhcp) (kernel : g.kernel = h.kernel) : Ipv4Fits h buffer :=
  ⟨fits.addressed,fits.total,fits.tcp,fun four udp => (fits.udp four udp).elsewhere nic dhcp kernel⟩

theorem networkHandleEthernet_eq {h : Host} {frame : List UInt8} (on : h.initialized = true) (unlocked : h.locked = false)
    (short : frame.length ≤ e1000DefaultBufferSize) (header : 14 ≤ frame.length) : networkHandleEthernet h frame =
      if etherType frame = etherTypeIpv6 then .ok (-1,{h with callerMac := peekMac frame 6})
      else if etherType frame = etherTypeIpv4 then do
        let h ← networkHandleIpv4 {h with callerMac := peekMac frame 6} (frame.drop ethernetHeaderLength)
        .ok (0,h)
      else if etherType frame = etherTypeArp then do
        let h ← networkHandleArp {h with callerMac := peekMac frame 6} (frame.drop ethernetHeaderLength)
        .ok (0,h)
      else .ok (-1,{h with callerMac := peekMac frame 6}) := by
  have size : ¬ (frame.length = 0 ∨ e1000DefaultBufferSize < frame.length) := by omega
  unfold networkHandleEthernet
  rw [if_neg (by simp [on]),if_neg (by simp [unlocked]),if_neg size,macAt_eq,if_pos (by omega),wordAt_eq,if_pos (by omega)]
  rfl

theorem networkHandleEthernet_returns {h : Host} {frame : List UInt8} (on : h.initialized = true) (unlocked : h.locked = false)
    (some : 1 ≤ frame.length) (short : frame.length ≤ e1000DefaultBufferSize) :
    Bytes.Returns (networkHandleEthernet h frame) ↔ FrameFits h frame := by
  by_cases header : 14 ≤ frame.length
  · rw [networkHandleEthernet_eq on unlocked short header]
    split
    · rename_i v6
      refine ⟨fun _ => ⟨header,fun v4 => ?_,fun arp => ?_⟩,fun _ => ⟨_,rfl⟩⟩
      · exact absurd (v6.symm.trans v4) (by decide)
      · exact absurd (v6.symm.trans arp) (by decide)
    · split
      · rename_i v4
        rw [Bytes.returns_bind_const (P := True) (fun _ _ => by simp),and_true,networkHandleIpv4_returns]
        constructor
        · intro fits
          exact ⟨header,fun _ => fits.elsewhere rfl rfl rfl,fun arp => absurd (v4.symm.trans arp) (by decide)⟩
        · intro fits
          exact (fits.ipv4 v4).elsewhere rfl rfl rfl
      · rename_i notV4
        split
        · rename_i arp
          rw [Bytes.returns_bind_const (P := True) (fun _ _ => by simp),and_true,networkHandleArp_returns]
          constructor
          · intro fits
            exact ⟨header,fun v4 => absurd v4 notV4,fun _ => ⟨fits.operation,fits.request,fits.reply⟩⟩
          · intro fits
            have packet := fits.arp arp
            exact ⟨packet.operation,packet.request,packet.reply⟩
        · rename_i notArp
          exact ⟨fun _ => ⟨header,fun v4 => absurd v4 notV4,fun arp => absurd arp notArp⟩,fun _ => ⟨_,rfl⟩⟩
  · have size : ¬ (frame.length = 0 ∨ e1000DefaultBufferSize < frame.length) := by omega
    have fails : networkHandleEthernet h frame = .error .outside := by
      unfold networkHandleEthernet
      rw [if_neg (by simp [on]),if_neg (by simp [unlocked]),if_neg size]
      refine outside_bind (macAt_eq frame 6) ?_
      rw [wordAt_eq,if_neg (by omega)]
      rfl
    rw [fails]
    exact ⟨fun returned => absurd returned (Bytes.returns_error _),fun fits => absurd fits.header header⟩

-- The receive path comes back from a frame, without a panic and without a read
-- outside it, exactly when the frame has what its headers lead to.
theorem frame_survived_iff {h : Host} {frame : List UInt8} (on : h.initialized = true) (unlocked : h.locked = false)
    (some : 1 ≤ frame.length) (short : frame.length ≤ 8192) :
    Bytes.Returns (networkOnReceiving h frame) ↔ (h.kernel.systemState = .running → FrameFits h frame) := by
  unfold networkOnReceiving
  split
  · rename_i early
    exact ⟨fun _ running => absurd running early,fun _ => ⟨_,rfl⟩⟩
  · rename_i running
    rw [networkHandleEthernet_returns on unlocked some short]
    exact ⟨fun fits _ => fits,fun fits => fits (not_not.mp running)⟩

-- A host on the network, before it has an address.
def bootNic : Nic where
  magic := 1234
  initialized := true
  macAddress := ⟨0x52,0x54,0,0x12,0x34,0x56⟩
  ipAddress := ⟨0,0,0,0⟩
  txCur := 0
  txBuffersVirt := fun _ => 0x1000
  inside := by decide
  allocated := by decide

def bootHost : Host where
  kernel := bootKernel
  initialized := true
  isOnline := false
  locked := false
  callerIpv4 := ⟨0,0,0,0⟩
  callerMac := ⟨0,0,0,0,0,0⟩
  dhcp := ⟨false,0,⟨0,0,0,0⟩,⟨0,0,0,0⟩⟩
  currentNic := some bootNic
  networkInfo := none
  udpPayload := fun _ => 0
  nodename := fun _ => 0x67
  sent := []

-- An ARP packet with no operation.
def idleFrame : List UInt8 := zeros 12 ++ [0x08,0x06] ++ zeros 28

theorem idle_frame_survived : Bytes.Returns (networkOnReceiving bootHost idleFrame) := by
  have fits : FrameFits bootHost idleFrame := by
    refine ⟨by decide,?_,?_⟩
    · intro v4
      exact absurd v4 (by decide)
    · intro _
      refine ⟨by decide,?_,?_⟩
      · intro request
        exact absurd request (by decide)
      · intro reply
        exact absurd reply (by decide)
  exact (frame_survived_iff rfl rfl (by decide) (by decide)).mpr fun _ => fits

-- A header of version 4 with the total length 0, and a frame that ends before
-- the source address.
def emptyPacket : List UInt8 := zeros 12 ++ [0x08,0x00,0x45] ++ zeros 49

theorem empty_packet_panics : networkOnReceiving bootHost emptyPacket = .error (.halted (.panic "IP: Bad total lenght #debug\n")) ∧
    networkOnReceiving bootHost [0] = .error .outside := ⟨rfl,rfl⟩

end GramadoKernel
