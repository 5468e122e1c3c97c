import GramadoKernel.Machine
import GramadoKernel.MessageQueue
import GramadoKernel.Receive

namespace GramadoKernel

-- The fields of a header, for a buffer that has them.
def peek (buffer : List UInt8) (i : Nat) : UInt8 := buffer.getD i 0
def peekWord (buffer : List UInt8) (i : Nat) : UInt16 := littleEndian16 (peek buffer i) (peek buffer (i+1))
def peekIpv4 (buffer : List UInt8) (i : Nat) : Ipv4 := ⟨peek buffer i,peek buffer (i+1),peek buffer (i+2),peek buffer (i+3)⟩
def peekMac (buffer : List UInt8) (i : Nat) : Mac :=
  ⟨peek buffer i,peek buffer (i+1),peek buffer (i+2),peek buffer (i+3),peek buffer (i+4),peek buffer (i+5)⟩

section Fields

variable (buffer : List UInt8) (i : Nat)

theorem byteAt_eq : byteAt buffer i = if i < buffer.length then .ok (peek buffer i) else .error .outside := by
  unfold byteAt Bytes.read peek
  split
  · rename_i b found
    obtain ⟨inside,rfl⟩ := List.getElem?_eq_some_iff.mp found
    simp [inside]
  · rename_i missing
    rw [if_neg (by simpa using missing)]

theorem wordAt_eq : wordAt buffer i = if i+1 < buffer.length then .ok (peekWord buffer i) else .error .outside := by
  simp only [wordAt,byteAt_eq]
  split_ifs <;> first | rfl | omega

theorem ipv4At_eq : ipv4At buffer i = if i+3 < buffer.length then .ok (peekIpv4 buffer i) else .error .outside := by
  simp only [ipv4At,byteAt_eq]
  split_ifs <;> first | rfl | omega

theorem macAt_eq : macAt buffer i = if i+5 < buffer.length then .ok (peekMac buffer i) else .error .outside := by
  simp only [macAt,byteAt_eq]
  split_ifs <;> first | rfl | omega

end Fields

-- A read that fails does so as a later one would.
theorem outside_bind {x : Except Fault α} {f : α → Except Fault β} {inside : Prop} [Decidable inside] {a : α}
    (read : x = if inside then .ok a else .error .outside) (rest : f a = .error .outside) : (x >>= f) = .error .outside := by
  rw [read]
  split
  · exact rest
  · rfl

def Nic.addressed (nic : Nic) (ip : Ipv4) : Nic := {nic with ipAddress := ip}

-- A device that is not valid takes no frame.
def Host.frameSent (h : Host) (nic : Nic) (frame : List UInt8) : Host := if nic.magic = 1234 then h.transmit nic frame else h

theorem ethernetSend_fits (h : Host) (nic : Nic) (frame : List UInt8) (some : 0 < frame.length)
    (short : frame.length ≤ e1000DefaultBufferSize) : ethernetSend h (.some nic) frame = .ok (0,h.frameSent nic frame) := by
  have inside : ¬ sendBufferMax ≤ nic.txCur := Nat.not_le.mpr nic.inside
  by_cases valid : nic.magic = 1234
  · simp only [ethernetSend,e1000Send,e1000hwSend,Host.frameSent,valid,ne_eq,not_true_eq_false,if_false,if_true,
      Nat.ne_of_gt some,Nat.not_lt.mpr short,inside]
    rfl
  · simp only [ethernetSend,e1000Send,e1000hwSend,Host.frameSent,valid,ne_eq,not_false_eq_true,if_false,if_true]
    rfl

theorem udpFrame_length (mac targetMac : Mac) (sourceIp targetIp : Ipv4) (sourcePort targetPort : UInt16) (data : List UInt8) :
    (udpFrame mac targetMac sourceIp targetIp sourcePort targetPort data).length = 42+data.length := by
  simp [udpFrame,etherHeader,ipHeader,udpHeader,storedWord,Mac.bytes,Ipv4.bytes]
  omega

-- The host after a datagram is sent.
def Host.udpSent (h : Host) (nic : Nic) (sourceIp targetIp : Ipv4) (targetMac : Mac) (sourcePort targetPort : UInt16)
    (data : List UInt8) : Host :=
  Host.frameSent {h with currentNic := some (nic.addressed sourceIp)} (nic.addressed sourceIp)
    (udpFrame nic.macAddress targetMac sourceIp targetIp sourcePort targetPort data)

theorem networkSendUdp_fits {h : Host} {nic : Nic} (present : h.currentNic = some nic) (sourceIp targetIp : Ipv4) (targetMac : Mac)
    (sourcePort targetPort : UInt16) {data : List UInt8} (short : 42+data.length ≤ e1000DefaultBufferSize) :
    networkSendUdp h sourceIp targetIp targetMac sourcePort targetPort data =
      .ok (0,h.udpSent nic sourceIp targetIp targetMac sourcePort targetPort data) := by
  have buffer : (nic.addressed sourceIp).txBuffersVirt (nic.addressed sourceIp).txCur ≠ 0 := nic.allocated nic.txCur nic.inside
  have length := udpFrame_length nic.macAddress targetMac sourceIp targetIp sourcePort targetPort data
  have sent := ethernetSend_fits {h with currentNic := some (nic.addressed sourceIp)} (nic.addressed sourceIp)
    (udpFrame nic.macAddress targetMac sourceIp targetIp sourcePort targetPort data) (by omega) (by omega)
  unfold networkSendUdp
  simp only [present]
  exact (if_neg buffer).trans (congrArg (fun x : Except Fault (Int × Host) => x >>= fun r => (.ok (0,r.2) : Except Fault (Int × Host))) sent)

theorem networkSendUdp_returns (h : Host) (sourceIp targetIp : Ipv4) (targetMac : Mac) (sourcePort targetPort : UInt16) {data : List UInt8}
    (short : 42+data.length ≤ e1000DefaultBufferSize) : Bytes.Returns (networkSendUdp h sourceIp targetIp targetMac sourcePort targetPort data) := by
  cases present : h.currentNic with
  | none => simp [networkSendUdp,present]
  | some nic => exact ⟨_,networkSendUdp_fits present sourceIp targetIp targetMac sourcePort targetPort short⟩

theorem networkSendArp_fits {h : Host} {nic : Nic} (present : h.currentNic = some nic) {targetMac : Except Fault Mac} {mac : Mac}
    (readMac : targetMac = .ok mac) (sourceIp : Ipv4) {targetIp : Except Fault Ipv4} {ip : Ipv4} (readIp : targetIp = .ok ip) {op : UInt16}
    (known : op = arpOpcRequest ∨ op = arpOpcReply) :
    networkSendArp h targetMac sourceIp targetIp op =
      .ok (Host.frameSent {h with currentNic := some (nic.addressed sourceIp)} (nic.addressed sourceIp)
        (arpFrame nic.macAddress mac sourceIp ip op)) := by
  have buffer : (nic.addressed sourceIp).txBuffersVirt (nic.addressed sourceIp).txCur ≠ 0 := nic.allocated nic.txCur nic.inside
  have length : (arpFrame nic.macAddress mac sourceIp ip op).length = 42 := rfl
  have sent := ethernetSend_fits {h with currentNic := some (nic.addressed sourceIp)} (nic.addressed sourceIp)
    (arpFrame nic.macAddress mac sourceIp ip op) (by omega) (by rw [length]; decide)
  have valid : ¬ (op ≠ arpOpcRequest ∧ op ≠ arpOpcReply) := by
    rcases known with same | same
    · exact fun both => both.1 same
    · exact fun both => both.2 same
  subst readMac readIp
  unfold networkSendArp
  simp only [present]
  exact (if_neg valid).trans ((if_neg buffer).trans (congrArg (fun x : Except Fault (Int × Host) => x >>= fun r => (.ok r.2 : Except Fault Host)) sent))

theorem dhcpMessage_length {mac : Mac} {options old : List UInt8} (whole : dhcpLength ≤ old.length) (short : options.length ≤ optionsSize) :
    (dhcpMessage mac options old).length = dhcpLength := by
  simp only [dhcpMessage,dhcpFields,zeros,Mac.bytes,List.length_append,List.length_replicate,List.length_cons,List.length_nil,
    List.length_drop,List.length_take,Nat.min_eq_left whole]
  unfold dhcpLength
  omega

theorem requestOptions_short (sourceIp targetIp : Ipv4) (nodename : Nat → UInt8) : (requestOptions sourceIp targetIp nodename).length ≤ optionsSize := by
  simp [requestOptions,Ipv4.bytes,optionsSize]

-- The host after a DHCP message is sent, at the given step.
def Host.dhcpStepped (h : Host) (step : Nat) (nic : Nic) (sport dport : UInt16) (message : List UInt8) : Host :=
  Host.udpSent {h with dhcp := {h.dhcp with step := step}} nic dhcpSource dhcpTarget dhcpTargetMac sport dport message

theorem dhcpStepped_sent {h : Host} {nic : Nic} (valid : nic.magic = 1234) (step : Nat) (sport dport : UInt16) (message : List UInt8) :
    (h.dhcpStepped step nic sport dport message).sent =
      h.sent ++ [udpFrame nic.macAddress dhcpTargetMac dhcpSource dhcpTarget sport dport message] :=
  congrArg Host.sent (if_pos valid)

theorem dhcpStepped_nic {h : Host} {nic : Nic} (valid : nic.magic = 1234) (step : Nat) (sport dport : UInt16) (message : List UInt8) :
    ∃ device, (h.dhcpStepped step nic sport dport message).currentNic = some device ∧ device.magic = 1234 ∧
      device.macAddress = nic.macAddress :=
  ⟨_,congrArg Host.currentNic (if_pos valid),valid,rfl⟩

theorem dhcpSent_whole {h : Host} {nic : Nic} (present : h.currentNic = some nic) {dhcp options : List UInt8}
    (whole : dhcpLength ≤ dhcp.length) (short : options.length ≤ optionsSize) (step : Nat) (sport dport : UInt16) :
    dhcpSent {h with dhcp := {h.dhcp with step := step}} nic dhcp options sport dport =
      .ok (h.dhcpStepped step nic sport dport (dhcpMessage nic.macAddress options dhcp)) := by
  have length : 42+(dhcpMessage nic.macAddress options dhcp).length ≤ e1000DefaultBufferSize := by
    rw [dhcpMessage_length whole short]
    decide
  have sent := @networkSendUdp_fits {h with dhcp := {h.dhcp with step := step}} nic present dhcpSource dhcpTarget dhcpTargetMac sport dport _ length
  unfold dhcpSent
  rw [if_neg (Nat.not_lt.mpr whole),sent]
  rfl

theorem networkDhcpSend_discover {h : Host} {nic : Nic} (present : h.currentNic = some nic) {dhcp : List UInt8} (whole : dhcpLength ≤ dhcp.length)
    (sourceIp targetIp : Ipv4) (sport dport : UInt16) : networkDhcpSend h dhcp doraD sourceIp targetIp sport dport =
      .ok (h.dhcpStepped 1 nic sport dport (dhcpMessage nic.macAddress discoverOptions dhcp)) := by
  have positive : ¬ doraD < 0 := by decide
  have fields : ¬ dhcp.length < 44 ∧ ¬ dhcp.length < 243 := by
    unfold dhcpLength optionsSize at whole
    omega
  have short : discoverOptions.length ≤ optionsSize := by decide
  have sent := dhcpSent_whole present whole short 1 sport dport
  simpa only [networkDhcpSend,positive,fields,present,if_false,if_true] using sent

theorem networkDhcpSend_request {h : Host} {nic : Nic} (present : h.currentNic = some nic) {dhcp : List UInt8} (whole : dhcpLength ≤ dhcp.length)
    (sourceIp targetIp : Ipv4) (sport dport : UInt16) : networkDhcpSend h dhcp doraR sourceIp targetIp sport dport =
      .ok (h.dhcpStepped 3 nic sport dport (dhcpMessage nic.macAddress (requestOptions sourceIp targetIp h.nodename) dhcp)) := by
  have request : ¬ doraR < 0 ∧ doraR ≠ doraD := by decide
  have fields : ¬ dhcp.length < 44 ∧ ¬ dhcp.length < 243 := by
    unfold dhcpLength optionsSize at whole
    omega
  have sent := dhcpSent_whole present whole (requestOptions_short sourceIp targetIp h.nodename) 3 sport dport
  simpa only [networkDhcpSend,request,fields,present,if_false,if_true] using sent

end GramadoKernel
