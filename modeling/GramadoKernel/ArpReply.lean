import GramadoKernel.ReceivePath

namespace GramadoKernel

-- The fields of struct ether_arp after the operation.
def arpSha (buffer : List UInt8) : Mac := peekMac buffer 8
def arpSpa (buffer : List UInt8) : Ipv4 := peekIpv4 buffer 14
def arpTpa (buffer : List UInt8) : Ipv4 := peekIpv4 buffer 24

-- A frame with an ARP reply for Ethernet and IPv4, from one pair of addresses to
-- another.
structure ArpReplyFrame (frame : List UInt8) (mac : Mac) (ip : Ipv4) (targetMac : Mac) (targetIp : Ipv4) : Prop where
  length : frame.length = 42
  destination : peekMac frame 0 = targetMac
  source : peekMac frame 6 = mac
  type : frame.getD 12 0 = 0x08 ∧ frame.getD 13 0 = 0x06
  fields : (frame.drop 14).take 8 = [0x00,0x01,0x08,0x00,6,4,0x00,0x02]
  sha : arpSha (frame.drop 14) = mac
  spa : arpSpa (frame.drop 14) = ip
  tha : peekMac (frame.drop 14) 18 = targetMac
  tpa : arpTpa (frame.drop 14) = targetIp

-- When a reply goes out, for whatever address the request asks.
structure Answers (h : Host) (buffer : List UInt8) : Prop where
  request : arpOp buffer = arpOpcRequest
  initialized : h.dhcp.initialized = true
  device : ∃ nic, h.currentNic = some nic ∧ nic.magic = 1234

-- The frames that the handler has sent.
structure ArpHandled (h : Host) (buffer : List UInt8) (frames : List (List UInt8)) : Prop where
  once : frames.length ≤ 1
  answered : frames ≠ [] ↔ Answers h buffer
  reply : ∀ frame ∈ frames, ∃ nic, h.currentNic = some nic ∧
    ArpReplyFrame frame nic.macAddress h.dhcp.yourIpv4 (arpSha buffer) (arpSpa buffer)

theorem arpFrame_bytes (mac : Mac) (ip : Ipv4) (targetMac : Mac) (targetIp : Ipv4) : arpFrame mac targetMac ip targetIp arpOpcReply =
    targetMac.bytes ++ mac.bytes ++ [0x08,0x06] ++ [0x00,0x01] ++ [0x08,0x00] ++ [6,4] ++ [0x00,0x02] ++ mac.bytes ++ ip.bytes ++
      targetMac.bytes ++ targetIp.bytes := by
  have type : storedWord (toNetByteOrder16 etherTypeArp) = [0x08,0x06] := by decide
  have hardware : storedWord 0x0100 = [0x00,0x01] := by decide
  have proto : storedWord 0x0008 = [0x08,0x00] := by decide
  have op : storedWord (toNetByteOrder16 arpOpcReply) = [0x00,0x02] := by decide
  rw [arpFrame,etherHeader,type,hardware,proto,op]

theorem arpFrame_reply (mac : Mac) (ip : Ipv4) (targetMac : Mac) (targetIp : Ipv4) :
    ArpReplyFrame (arpFrame mac targetMac ip targetIp arpOpcReply) mac ip targetMac targetIp := by
  -- each field is read off the list of its 42 bytes
  rw [arpFrame_bytes]
  simp only [Mac.bytes,Ipv4.bytes,List.cons_append,List.nil_append]
  exact ⟨rfl,rfl,rfl,⟨rfl,rfl⟩,rfl,rfl,rfl,rfl,rfl⟩

theorem nothing_handled {h : Host} {buffer : List UInt8} (silent : ¬ Answers h buffer) : ArpHandled h buffer [] where
  once := Nat.zero_le _
  answered := ⟨fun some => absurd rfl some,fun answers => absurd answers silent⟩
  reply := fun _ none => absurd none List.not_mem_nil

-- Another operation sends nothing.
theorem networkHandleArp_silent (h : Host) {buffer : List UInt8} (whole : 28 ≤ buffer.length) (other : arpOp buffer ≠ arpOpcRequest) :
    ∃ h', networkHandleArp h buffer = .ok h' ∧ h'.sent = h.sent := by
  unfold networkHandleArp
  rw [wordAt_eq,if_pos (by omega),ipv4At_eq,macAt_eq,if_pos (by omega),if_pos (by omega)]
  change ∃ h', (if arpOp buffer = arpOpcRequest then _ else _) = Except.ok h' ∧ _
  rw [if_neg other]
  split
  · change ∃ h', (if peekIpv4 buffer 14 = ⟨192,168,1,1⟩ then _ else Except.ok h) = Except.ok h' ∧ _
    split
    · split
      · exact ⟨h,rfl,rfl⟩
      · split
        · exact ⟨h,rfl,rfl⟩
        · exact ⟨_,rfl,rfl⟩
    · exact ⟨h,rfl,rfl⟩
  · exact ⟨h,rfl,rfl⟩

theorem networkSendArpReply_handled {h : Host} {buffer : List UInt8} (request : arpOp buffer = arpOpcRequest) :
    ∃ h' frames, networkSendArpReply h (.ok (arpSha buffer)) (.ok (arpSpa buffer)) = .ok h' ∧ h'.sent = h.sent ++ frames ∧
      ArpHandled h buffer frames := by
  unfold networkSendArpReply
  by_cases initialized : h.dhcp.initialized = true
  · rw [if_neg (by rw [initialized]; decide)]
    cases present : h.currentNic with
    | none =>
        refine ⟨h,[],by simp only [networkSendArp,present],(List.append_nil _).symm,nothing_handled fun answers => ?_⟩
        obtain ⟨nic,device,_⟩ := answers.device
        cases present.symm.trans device
    | some nic =>
        have sent := @networkSendArp_fits h nic present (.ok (arpSha buffer)) (arpSha buffer) rfl h.dhcp.yourIpv4 (.ok (arpSpa buffer)) (arpSpa buffer) rfl arpOpcReply
          (.inr rfl)
        by_cases valid : nic.magic = 1234
        · refine ⟨_,[arpFrame nic.macAddress (arpSha buffer) h.dhcp.yourIpv4 (arpSpa buffer) arpOpcReply],sent,
            congrArg Host.sent (if_pos valid),Nat.le_refl 1,?_,?_⟩
          · exact ⟨fun _ => ⟨request,initialized,nic,present,valid⟩,fun _ => List.cons_ne_nil _ _⟩
          · rw [List.forall_mem_singleton]
            exact ⟨nic,present,arpFrame_reply _ _ _ _⟩
        · refine ⟨_,[],sent,(congrArg Host.sent (if_neg valid)).trans (List.append_nil _).symm,nothing_handled fun answers => ?_⟩
          obtain ⟨other,device,magic⟩ := answers.device
          cases present.symm.trans device
          exact valid magic
  · refine ⟨h,[],if_pos (Bool.not_eq_true _ ▸ initialized),(List.append_nil _).symm,nothing_handled fun answers => ?_⟩
    exact initialized answers.initialized

theorem arp_answered (h : Host) {buffer : List UInt8} (whole : 28 ≤ buffer.length) :
    ∃ h' frames, networkHandleArp h buffer = .ok h' ∧ h'.sent = h.sent ++ frames ∧ ArpHandled h buffer frames := by
  by_cases request : arpOp buffer = arpOpcRequest
  · have handled : networkHandleArp h buffer = networkSendArpReply h (.ok (arpSha buffer)) (.ok (arpSpa buffer)) := by
      unfold networkHandleArp
      rw [wordAt_eq,if_pos (by omega),macAt_eq,ipv4At_eq,if_pos (by omega),if_pos (by omega)]
      exact if_pos request
    rw [handled]
    exact networkSendArpReply_handled request
  · obtain ⟨h',handled,same⟩ := networkHandleArp_silent h whole request
    exact ⟨h',[],handled,by rw [same,List.append_nil],nothing_handled fun answers => request answers.request⟩

-- A host with the address 192.168.1.12, and a request for 192.168.1.99.
def addressedHost : Host := {bootHost with dhcp := ⟨true,4,⟨192,168,1,12⟩,⟨192,168,1,1⟩⟩}

def strangeRequest : List UInt8 :=
  [0x00,0x01,0x08,0x00,6,4,0x00,0x01] ++ [2,0,0,0,0,7] ++ [192,168,1,7] ++ zeros 6 ++ [192,168,1,99]

theorem strange_request_answered : ∃ h' frames, networkHandleArp addressedHost strangeRequest = .ok h' ∧ h'.sent = addressedHost.sent ++ frames ∧
    frames ≠ [] ∧ arpTpa strangeRequest ≠ addressedHost.dhcp.yourIpv4 ∧
    ¬ (frames ≠ [] ↔ arpOp strangeRequest = arpOpcRequest ∧ addressedHost.dhcp.initialized = true ∧
      arpTpa strangeRequest = addressedHost.dhcp.yourIpv4) := by
  have request : arpOp strangeRequest = arpOpcRequest := by decide
  have other : arpTpa strangeRequest ≠ addressedHost.dhcp.yourIpv4 := by decide
  obtain ⟨h',frames,sent,more,handled⟩ := networkSendArpReply_handled (h := addressedHost) request
  have some : frames ≠ [] := handled.answered.mpr ⟨request,rfl,_,rfl,rfl⟩
  refine ⟨h',frames,?_,more,some,other,fun iff => other (iff.mp some).2.2⟩
  rw [← sent]
  rfl

theorem strange_request_handled : ∃ h' frames, networkHandleArp addressedHost strangeRequest = .ok h' ∧ h'.sent = addressedHost.sent ++ frames ∧
    ArpHandled addressedHost strangeRequest frames := arp_answered addressedHost (by decide)

end GramadoKernel
