import GramadoKernel.NetChecksum
import GramadoKernel.ReceivePath

namespace GramadoKernel

-- What network_handle_udp does with a datagram once the payload is copied. `data`
-- are the bytes behind its header.
def udpSeen (h : Host) (sport dport : UInt16) (data : List UInt8) : Except Fault Host :=
  if dport = 68 then networkHandleDhcp h data
  else if dport = 11888 ∨ dport = 22888 ∨ dport = 34884 then do
    let (_,h) ← gprotHandleProtocol h sport dport
    .ok (clearPayload h)
  else .ok h

-- The header of a datagram, with the sum that network_send_udp puts into it.
def summedHeader (sourceIp targetIp : Ipv4) (length : UInt16) : List UInt8 :=
  ipHeader sourceIp targetIp length (toNetByteOrder16 (netChecksum none (ipHeader sourceIp targetIp length 0)))

-- The header checksums to zero, by definition and as the kernel computes it.
theorem summedHeader_zero (sourceIp targetIp : Ipv4) (length : UInt16) :
    Checksum.internet (summedHeader sourceIp targetIp length) = 0 ∧ netChecksum none (summedHeader sourceIp targetIp length) = 0 := by
  obtain ⟨front,ten,header⟩ : ∃ front : List UInt8, front.length = 10 ∧
      ∀ sum, ipHeader sourceIp targetIp length sum = front ++ storedWord sum ++ (sourceIp.bytes ++ targetIp.bytes) := by
    refine ⟨[0x45,0x00] ++ storedWord (toNetByteOrder16 length) ++ storedWord 0 ++ storedWord (toNetByteOrder16 0x4000) ++ [255,0x11],rfl,?_⟩
    intro sum
    rw [ipHeader,List.append_assoc]
  have short : (front ++ storedWord 0 ++ (sourceIp.bytes ++ targetIp.bytes)).length = 20 := by
    rw [← header]
    rfl
  have fits : ((none : Option (List UInt8)).getD []).length+(front ++ storedWord 0 ++ (sourceIp.bytes ++ targetIp.bytes)).length ≤ 65535 := by
    rw [short]
    decide
  have whole := checksummed_whole rfl (by rw [ten]) fits rfl
  rw [← header,← header] at whole
  exact ⟨Checksum.internet_zero whole.1 whole.2,netChecksum_whole (show 20 ≤ 65535 by decide) whole.1 whole.2⟩

-- The host that network_handle_udp goes on with: the caller is known and the
-- payload is there.
def Host.heard (h : Host) (mac : Mac) (sourceIp : Ipv4) (text : List UInt8) : Host :=
  {h with callerMac := mac,callerIpv4 := sourceIp,udpPayload := copiedText text}

theorem copyPayload_heard (h : Host) (mac : Mac) (sourceIp : Ipv4) (text : List UInt8) :
    copyPayload (clearPayload {h with callerMac := mac,callerIpv4 := sourceIp}) text = h.heard mac sourceIp text := by
  have payload := copyPayload_payload {h with callerMac := mac,callerIpv4 := sourceIp} text
  unfold copyPayload at payload ⊢
  unfold Host.heard
  rw [← payload]
  split
  · rfl
  · rfl

-- A word in network byte order is read back as it was.
theorem networkWord_read (low : peek buffer i = (toNetByteOrder16 w).toUInt8) (high : peek buffer (i+1) = (toNetByteOrder16 w >>> 8).toUInt8) :
    toNetByteOrder16 (peekWord buffer i) = w := by
  rw [peekWord,low,high,littleEndian16_split,toNetByteOrder16_twice]

section Frame

variable (mac targetMac : Mac) (sourceIp targetIp : Ipv4) (sport dport : UInt16) (data rest : List UInt8)

theorem udpFrame_port : udpPort ((udpFrame mac targetMac sourceIp targetIp sport dport data ++ rest).drop 34) = dport :=
  networkWord_read rfl rfl

theorem udpFrame_sport : toNetByteOrder16 (peekWord ((udpFrame mac targetMac sourceIp targetIp sport dport data ++ rest).drop 34) 0) = sport :=
  networkWord_read rfl rfl

theorem udpFrame_iplen : toNetByteOrder16 (peekWord ((udpFrame mac targetMac sourceIp targetIp sport dport data ++ rest).drop 14) 2) =
    UInt16.ofNat (28+data.length) := by
  refine (networkWord_read (w := 20+(8+UInt16.ofNat data.length)) rfl rfl).trans ?_
  rw [← UInt16.add_assoc,UInt16.ofNat_add]
  rfl

theorem udpFrame_ulen : toNetByteOrder16 (peekWord ((udpFrame mac targetMac sourceIp targetIp sport dport data ++ rest).drop 34) 4) =
    UInt16.ofNat (8+data.length) := by
  refine (networkWord_read (w := 8+UInt16.ofNat data.length) rfl rfl).trans ?_
  rw [UInt16.ofNat_add]
  rfl

theorem udpFrame_type : etherType (udpFrame mac targetMac sourceIp targetIp sport dport data ++ rest) = etherTypeIpv4 := by
  change toNetByteOrder16 (littleEndian16 0x08 0x00) = etherTypeIpv4
  rfl

theorem udpFrame_version : peek ((udpFrame mac targetMac sourceIp targetIp sport dport data ++ rest).drop 14) 0 >>> 4 = 4 := by
  change (0x45 : UInt8) >>> 4 = 4
  rfl

end Frame

theorem networkHandleIpv4_udp {h : Host} {buffer : List UInt8} (addressed : 16 ≤ buffer.length) (version : peek buffer 0 >>> 4 = 4)
    (total : 20 ≤ toNetByteOrder16 (peekWord buffer 2)) (udp : peek buffer 9 = protocolIpUdp) :
    networkHandleIpv4 h buffer = networkHandleUdp {h with callerIpv4 := peekIpv4 buffer 12} (buffer.drop ipHeaderLength) := by
  have notTcp : peek buffer 9 ≠ protocolIpTcp := by
    rw [udp]
    decide
  rw [networkHandleIpv4_eq addressed,if_neg (not_not.mpr version),if_neg (UInt16.not_lt.mpr total),if_neg notTcp,if_pos udp]

theorem networkHandleEthernet_ipv4 {h : Host} {frame : List UInt8} (on : h.initialized = true) (unlocked : h.locked = false)
    (short : frame.length ≤ e1000DefaultBufferSize) (header : 14 ≤ frame.length) (type : etherType frame = etherTypeIpv4) :
    networkHandleEthernet h frame =
      networkHandleIpv4 {h with callerMac := peekMac frame 6} (frame.drop ethernetHeaderLength) >>= fun h => .ok (0,h) := by
  have notIpv6 : etherType frame ≠ etherTypeIpv6 := by
    rw [type]
    decide
  rw [networkHandleEthernet_eq on unlocked short header,if_neg notIpv6,if_pos type]

-- A datagram that network_send_udp builds is taken apart again, whatever bytes
-- follow it in the buffer.
theorem networkHandleEthernet_udpFrame {h : Host} (on : h.initialized = true) (unlocked : h.locked = false) (mac targetMac : Mac)
    (sourceIp targetIp : Ipv4) (sport dport : UInt16) (data rest : List UInt8) (terminated : 0 ∈ data ++ rest)
    (short : 42+(data ++ rest).length ≤ e1000DefaultBufferSize) :
    networkHandleEthernet h (udpFrame mac targetMac sourceIp targetIp sport dport data ++ rest) =
      udpSeen (h.heard mac sourceIp ((data ++ rest).takeWhile fun b => b ≠ 0)) sport dport (data ++ rest) >>= fun h => .ok (0,h) := by
  obtain ⟨frame,named⟩ : ∃ frame, frame = udpFrame mac targetMac sourceIp targetIp sport dport data ++ rest := ⟨_,rfl⟩
  have port : udpPort (frame.drop 34) = dport := named ▸ udpFrame_port mac targetMac sourceIp targetIp sport dport data rest
  have source : toNetByteOrder16 (peekWord (frame.drop 34) 0) = sport :=
    named ▸ udpFrame_sport mac targetMac sourceIp targetIp sport dport data rest
  have iplen : toNetByteOrder16 (peekWord (frame.drop 14) 2) = UInt16.ofNat (28+data.length) :=
    named ▸ udpFrame_iplen mac targetMac sourceIp targetIp sport dport data rest
  have sourceMac : peekMac frame 6 = mac := named ▸ rfl
  have sourceAddress : peekIpv4 (frame.drop 14) 12 = sourceIp := named ▸ rfl
  have payload : (frame.drop 34).drop udpHeaderLength = data ++ rest := named ▸ rfl
  have version : peek (frame.drop 14) 0 >>> 4 = 4 := named ▸ udpFrame_version mac targetMac sourceIp targetIp sport dport data rest
  have protocol : peek (frame.drop 14) 9 = protocolIpUdp := named ▸ rfl
  have type : etherType frame = etherTypeIpv4 := named ▸ udpFrame_type mac targetMac sourceIp targetIp sport dport data rest
  have length : frame.length = 42+(data ++ rest).length := by
    rw [named,List.length_append,List.length_append,udpFrame_length,Nat.add_assoc]
  have total : 20 ≤ toNetByteOrder16 (peekWord (frame.drop 14) 2) := by
    rw [List.length_append] at short
    unfold e1000DefaultBufferSize at short
    rw [iplen,UInt16.le_iff_toNat_le,UInt16.toNat_ofNat_of_lt' (by simp only [UInt16.size]; omega)]
    simp only [UInt16.reduceToNat]
    omega
  have addressed : 16 ≤ (frame.drop 14).length := by
    rw [List.length_drop,length]
    omega
  rw [← named,networkHandleEthernet_ipv4 on unlocked (by omega) (by omega) type]
  unfold ethernetHeaderLength
  rw [sourceMac,networkHandleIpv4_udp addressed version total protocol,sourceAddress,List.drop_drop]
  unfold ipHeaderLength
  rw [networkHandleUdp_eq (by rw [payload]; exact terminated),udpText,payload,copyPayload_heard,port,source]
  rfl

theorem terminated_takeWhile {text rest : List UInt8} (clean : 0 ∉ text) : (text ++ 0 :: rest).takeWhile (fun b => b ≠ 0) = text := by
  have all : ∀ b ∈ text, decide (b ≠ 0) = true := by
    intro b member
    refine decide_eq_true ?_
    rintro rfl
    exact clean member
  rw [List.takeWhile_append_of_pos all]
  simp

-- The frame that network_send_udp hands to the device has a header that checksums
-- to zero and lengths that are those of the packet and of the datagram, and a host
-- that receives it sees the ports, the sender and the payload.
theorem udp_round_trip {h : Host} {nic : Nic} (present : h.currentNic = some nic) (valid : nic.magic = 1234) (sourceIp targetIp : Ipv4)
    (targetMac : Mac) (sport dport : UInt16) {text : List UInt8} (clean : 0 ∉ text) (short : (text ++ [0]).length ≤ 512) :
    ∃ sent frame, networkSendUdp h sourceIp targetIp targetMac sport dport (text ++ [0]) = .ok (0,sent) ∧ sent.sent = h.sent ++ [frame] ∧
      (∀ r : Host, r.initialized = true → r.locked = false → networkHandleEthernet r frame =
        udpSeen {r with callerMac := nic.macAddress,callerIpv4 := sourceIp,udpPayload := fun i => (text ++ [0]).getD i 0} sport dport (text ++ [0]) >>=
          fun r => .ok (0,r)) ∧
      Checksum.internet ((frame.drop 14).take 20) = 0 ∧ netChecksum none ((frame.drop 14).take 20) = 0 ∧
      (toNetByteOrder16 (peekWord (frame.drop 14) 2)).toNat = (frame.drop 14).length ∧
      (toNetByteOrder16 (peekWord (frame.drop 34) 4)).toNat = (frame.drop 34).length := by
  have bound : (text ++ [0]).length < 65000 := by omega
  have length := udpFrame_length nic.macAddress targetMac sourceIp targetIp sport dport (text ++ [0])
  have iplen := udpFrame_iplen nic.macAddress targetMac sourceIp targetIp sport dport (text ++ [0]) []
  have ulen := udpFrame_ulen nic.macAddress targetMac sourceIp targetIp sport dport (text ++ [0]) []
  rw [List.append_nil] at iplen ulen
  refine ⟨_,udpFrame nic.macAddress targetMac sourceIp targetIp sport dport (text ++ [0]),
    networkSendUdp_fits present sourceIp targetIp targetMac sport dport (by unfold e1000DefaultBufferSize; omega),congrArg Host.sent (if_pos valid),
    ?_,?_,?_,?_,?_⟩
  · intro r on unlocked
    have seen := networkHandleEthernet_udpFrame on unlocked nic.macAddress targetMac sourceIp targetIp sport dport (text ++ [0]) []
      (by simp) (by rw [List.append_nil]; unfold e1000DefaultBufferSize; omega)
    rw [List.append_nil,List.append_nil,terminated_takeWhile clean] at seen
    have payload : copiedText text = fun i => (text ++ [0]).getD i 0 := by
      funext i
      have fits : text.length ≤ 512 := by
        rw [List.length_append] at short
        exact Nat.le_of_succ_le short
      rw [copiedText,if_pos fits]
      rcases Nat.lt_trichotomy i text.length with inside | rfl | past
      · rw [List.getD_append _ _ _ _ inside]
      · simp
      · simp [Nat.le_of_lt past,past]
    rw [seen,Host.heard,payload]
  · exact (summedHeader_zero sourceIp targetIp _).1
  · exact (summedHeader_zero sourceIp targetIp _).2
  · rw [iplen,List.length_drop,length,UInt16.toNat_ofNat_of_lt' (by simp only [UInt16.size]; omega)]
    omega
  · rw [ulen,List.length_drop,length,UInt16.toNat_ofNat_of_lt' (by simp only [UInt16.size]; omega)]
    omega

def helloText : List UInt8 := chars "g:0"

theorem udp_round_trip_boot :
    ∃ sent frame, networkSendUdp bootHost ⟨192,168,1,6⟩ ⟨192,168,1,1⟩ dhcpTargetMac 34884 11888 (helloText ++ [0]) = .ok (0,sent) ∧
      sent.sent = bootHost.sent ++ [frame] ∧
      (∀ r : Host, r.initialized = true → r.locked = false → networkHandleEthernet r frame =
        udpSeen {r with callerMac := bootNic.macAddress,callerIpv4 := ⟨192,168,1,6⟩,udpPayload := fun i => (helloText ++ [0]).getD i 0}
          34884 11888 (helloText ++ [0]) >>= fun r => .ok (0,r)) ∧
      Checksum.internet ((frame.drop 14).take 20) = 0 ∧ netChecksum none ((frame.drop 14).take 20) = 0 ∧
      (toNetByteOrder16 (peekWord (frame.drop 14) 2)).toNat = (frame.drop 14).length ∧
      (toNetByteOrder16 (peekWord (frame.drop 34) 4)).toNat = (frame.drop 34).length :=
  udp_round_trip rfl rfl ⟨192,168,1,6⟩ ⟨192,168,1,1⟩ dhcpTargetMac 34884 11888 (show (0 : UInt8) ∉ helloText by decide) (by decide)

end GramadoKernel
