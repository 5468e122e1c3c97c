import GramadoKernel.ReceivePath
import GramadoKernel.Library.Runs

namespace GramadoKernel

theorem peek_append (left right : List UInt8) {n : Nat} (length : left.length = n) (i : Nat) : peek (left ++ right) (n+i) = peek right i := by
  subst length
  simp [peek,List.getElem?_append_right]

-- The address that a frame with a DHCP request asks for: option 53 has the value
-- 3 and option 50 follows it.
def requestedAddress (frame : List UInt8) : Option Ipv4 :=
  if peek frame (42+242) = 3 ∧ peek frame (42+243) = 50 then some (peekIpv4 frame (42+245)) else none

theorem requestedAddress_sent (mac targetMac : Mac) (sourceIp targetIp : Ipv4) (sourcePort targetPort : UInt16) (client : Mac)
    (address server : Ipv4) (nodename : Nat → UInt8) (old : List UInt8) :
    requestedAddress (udpFrame mac targetMac sourceIp targetIp sourcePort targetPort
      (dhcpMessage client (requestOptions address server nodename) old)) = some address := by
  have option : ∀ i, peek (udpFrame mac targetMac sourceIp targetIp sourcePort targetPort
      (dhcpMessage client (requestOptions address server nodename) old)) (42+(240+i)) =
        peek (requestOptions address server nodename ++ (old.take dhcpLength).drop (240+30)) i := by
    intro i
    refine (peek_append _ _ rfl _).trans ?_
    unfold dhcpMessage
    rw [List.append_assoc]
    exact peek_append _ _ rfl i
  have type := option 2
  have code := option 3
  have a := option 5
  have b := option 6
  have c := option 7
  have d := option 8
  unfold requestedAddress peekIpv4
  rw [type,code,a,b,c,d]
  rfl

-- The transaction id of network_dhcp_send as it is sent.
def ourXid : List UInt8 := [0x39,0x03,0xF3,0x26]

-- A datagram handed to the DHCP client, with the host before and after.
structure Exchange where
  before : Host
  datagram : List UInt8
  after : Host

def DhcpStep (h : Host) (e : Exchange) (after : Host) : Prop :=
  e.before = h ∧ e.after = after ∧ networkHandleDhcp h e.datagram = .ok after

-- An Ack for this client in the transaction it has begun: a reply with our
-- number and our hardware address, after a request for the same address. The
-- first `since` frames were sent before the requests.
structure GenuineAck (since : Nat) (h : Host) (datagram : List UInt8) : Prop where
  reply : peek datagram 0 = 2
  transaction : (datagram.drop 4).take 4 = ourXid
  client : ∃ nic, h.currentNic = some nic ∧ peekMac datagram 28 = nic.macAddress
  acknowledges : peek datagram 242 = doraA
  requested : ∃ frame ∈ h.sent.drop since, requestedAddress frame = some (peekIpv4 datagram 16)

-- The client takes an address, and goes online, on genuine Acks only.
structure Honest (since : Nat) (e : Exchange) : Prop where
  initialized : e.before.dhcp.initialized = false → e.after.dhcp.initialized = true → GenuineAck since e.before e.datagram
  online : e.before.isOnline = false → e.after.isOnline = true → GenuineAck since e.before e.datagram
  address : e.before.dhcp.initialized = true → e.after.dhcp.yourIpv4 ≠ e.before.dhcp.yourIpv4 → GenuineAck since e.before e.datagram

-- An Ack is genuine, or it says again what the client has recorded.
def Trusted (since : Nat) (h : Host) (datagram : List UInt8) : Prop :=
  peek datagram 242 = doraA → GenuineAck since h datagram ∨
    h.dhcp.initialized = true ∧ h.isOnline = true ∧ peekIpv4 datagram 16 = h.dhcp.yourIpv4

-- What the client has recorded of its address.
structure SameLease (h after : Host) : Prop where
  initialized : after.dhcp.initialized = h.dhcp.initialized
  yourIpv4 : after.dhcp.yourIpv4 = h.dhcp.yourIpv4
  isOnline : after.isOnline = h.isOnline

theorem SameLease.refl (h : Host) : SameLease h h := ⟨rfl,rfl,rfl⟩

theorem ethernetSend_lease {h after : Host} {dev : Option Nic} {frame : List UInt8} {value : Int}
    (sent : ethernetSend h dev frame = .ok (value,after)) : SameLease h after := by
  unfold ethernetSend at sent
  split at sent
  · cases sent
    exact .refl h
  · simp only [e1000Send,bind_ok,Except.ok.injEq,Prod.mk.injEq] at sent
    obtain ⟨⟨_,_⟩,⟨⟨_,_⟩,made,_,rfl⟩,_,rfl⟩ := sent
    unfold e1000hwSend at made
    split at made
    · cases made
      exact .refl h
    · iterate 3
        split at made
        · cases made
      cases made
      exact ⟨rfl,rfl,rfl⟩

theorem networkSendUdp_lease {h after : Host} {sourceIp targetIp : Ipv4} {targetMac : Mac} {sourcePort targetPort : UInt16}
    {data : List UInt8} {value : Int}
    (sent : networkSendUdp h sourceIp targetIp targetMac sourcePort targetPort data = .ok (value,after)) : SameLease h after := by
  unfold networkSendUdp at sent
  split at sent
  · cases sent
    exact .refl h
  · simp only at sent
    split at sent
    · cases sent
    · simp only [bind_ok,Except.ok.injEq,Prod.mk.injEq] at sent
      obtain ⟨⟨_,_⟩,made,_,rfl⟩ := sent
      have lease := ethernetSend_lease made
      exact ⟨lease.initialized,lease.yourIpv4,lease.isOnline⟩

theorem dhcpSent_lease {h after : Host} {nic : Nic} {dhcp options : List UInt8} {sport dport : UInt16}
    (sent : dhcpSent h nic dhcp options sport dport = .ok after) : SameLease h after := by
  unfold dhcpSent at sent
  split at sent
  · cases sent
  · simp only [bind_ok,Except.ok.injEq] at sent
    obtain ⟨⟨_,_⟩,made,rfl⟩ := sent
    exact networkSendUdp_lease made

theorem networkDhcpSend_lease {h after : Host} {dhcp : List UInt8} {messageType : Int} {sourceIp targetIp : Ipv4} {sport dport : UInt16}
    (sent : networkDhcpSend h dhcp messageType sourceIp targetIp sport dport = .ok after) : SameLease h after := by
  unfold networkDhcpSend at sent
  split at sent
  · cases sent
    exact .refl h
  · split at sent
    · cases sent
    · split at sent
      · cases sent
        exact .refl h
      · split at sent
        · cases sent
        · split at sent
          · have lease := dhcpSent_lease sent
            exact ⟨lease.initialized,lease.yourIpv4,lease.isOnline⟩
          · split at sent
            · have lease := dhcpSent_lease sent
              exact ⟨lease.initialized,lease.yourIpv4,lease.isOnline⟩
            · cases sent
              exact .refl h

-- What a datagram does to the lease.
theorem networkHandleDhcp_cases {h after : Host} {datagram : List UInt8} (handled : networkHandleDhcp h datagram = .ok after) :
    (peek datagram 242 = doraA ∧ after = h.leased (peekIpv4 datagram 16) (peekIpv4 datagram 20)) ∨
      (peek datagram 242 ≠ doraA ∧ SameLease h after) := by
  rw [networkHandleDhcp_eq] at handled
  split at handled
  · cases handled
  · rename_i typed
    split at handled
    · rename_i offer
      have lease := networkDhcpSend_lease handled
      exact .inr ⟨by rw [offer]; decide,⟨lease.initialized,lease.yourIpv4,lease.isOnline⟩⟩
    · split at handled
      · rename_i ack
        cases handled
        exact .inl ⟨ack,rfl⟩
      · rename_i other
        cases handled
        exact .inr ⟨other,.refl h⟩

-- One datagram is handled as promised exactly when it is to be trusted.
theorem honest_iff_trusted {since : Nat} {e : Exchange} (handled : networkHandleDhcp e.before e.datagram = .ok e.after) :
    Honest since e ↔ Trusted since e.before e.datagram := by
  rcases networkHandleDhcp_cases handled with ⟨ack,same⟩ | ⟨other,lease⟩
  · constructor
    · intro honest _
      cases fresh : e.before.dhcp.initialized with
      | false => exact .inl (honest.initialized fresh (by rw [same]; rfl))
      | true =>
          cases online : e.before.isOnline with
          | false => exact .inl (honest.online online (by rw [same]; rfl))
          | true =>
              by_cases repeated : peekIpv4 e.datagram 16 = e.before.dhcp.yourIpv4
              · exact .inr ⟨rfl,rfl,repeated⟩
              · refine .inl (honest.address fresh ?_)
                rw [same]
                exact repeated
    · intro trusted
      rcases trusted ack with genuine | ⟨fresh,online,repeated⟩
      · exact ⟨fun _ _ => genuine,fun _ _ => genuine,fun _ _ => genuine⟩
      · refine ⟨?_,?_,?_⟩
        · intro idle
          rw [fresh] at idle
          cases idle
        · intro idle
          rw [online] at idle
          cases idle
        · intro _ changed
          rw [same] at changed
          exact absurd repeated changed
  · refine ⟨fun _ ack => absurd ack other,fun _ => ⟨?_,?_,?_⟩⟩
    · intro before after
      rw [lease.initialized,before] at after
      cases after
    · intro before after
      rw [lease.isOnline,before] at after
      cases after
    · intro _ changed
      exact absurd lease.yourIpv4 changed

theorem networkInitializeDhcp_fresh {h start : Host} {ldhcp : List UInt8} {value : Int}
    (began : networkInitializeDhcp h ldhcp = .ok (value,start)) : start.dhcp.initialized = false := by
  unfold networkInitializeDhcp at began
  simp only at began
  split at began
  · cases began
    rfl
  · split at began
    · cases began
      rfl
    · split at began
      · cases began
        rfl
      · split at began
        · cases began
          rfl
        · simp only [bind_ok,Except.ok.injEq,Prod.mk.injEq] at began
          obtain ⟨_,sent,_,rfl⟩ := began
          exact (networkDhcpSend_lease sent).initialized

-- The address and the status of a client that has it from genuine Acks.
structure Earned (since : Nat) (online : Bool) (events : List Exchange) (h : Host) : Prop where
  address : h.dhcp.initialized = true → ∃ e ∈ events, GenuineAck since e.before e.datagram ∧ peekIpv4 e.datagram 16 = h.dhcp.yourIpv4
  status : h.isOnline = true → online = true ∨ ∃ e ∈ events, GenuineAck since e.before e.datagram

theorem Earned.step {since : Nat} {online : Bool} {events : List Exchange} {h after : Host} {e : Exchange}
    (earned : Earned since online events h) (step : DhcpStep h e after) (trusted : Trusted since e.before e.datagram) :
    Earned since online (events ++ [e]) after := by
  obtain ⟨rfl,rfl,handled⟩ := step
  have older : ∀ x ∈ events, x ∈ events ++ [e] := fun x member => List.mem_append_left _ member
  have newest : e ∈ events ++ [e] := List.mem_append_right _ (List.mem_singleton_self e)
  rcases networkHandleDhcp_cases handled with ⟨ack,same⟩ | ⟨_,lease⟩
  · rcases trusted ack with genuine | ⟨fresh,isOnline,repeated⟩
    · rw [same]
      exact ⟨fun _ => ⟨e,newest,genuine,rfl⟩,fun _ => .inr ⟨e,newest,genuine⟩⟩
    · obtain ⟨x,member,genuine,recorded⟩ := earned.address fresh
      rw [same]
      refine ⟨fun _ => ⟨x,older x member,genuine,recorded.trans repeated.symm⟩,fun _ => ?_⟩
      exact .inr ⟨x,older x member,genuine⟩
  · refine ⟨?_,?_⟩
    · intro fresh
      rw [lease.initialized] at fresh
      rw [lease.yourIpv4]
      obtain ⟨x,member,found⟩ := earned.address fresh
      exact ⟨x,older x member,found⟩
    · intro isOnline
      rw [lease.isOnline] at isOnline
      rcases earned.status isOnline with before | ⟨x,member,genuine⟩
      · exact .inl before
      · exact .inr ⟨x,older x member,genuine⟩

theorem networkInitializeDhcp_whole {h : Host} {nic : Nic} (on : h.initialized = true) (present : h.currentNic = some nic)
    (valid : nic.magic = 1234) (ready : nic.initialized = true) {ldhcp : List UInt8} (whole : dhcpLength ≤ ldhcp.length) :
    networkInitializeDhcp h ldhcp =
      .ok (0,Host.dhcpStepped {h with dhcp := {h.dhcp with initialized := false,step := 0}} 1 nic 68 67
        (dhcpMessage nic.macAddress discoverOptions ldhcp)) := by
  have sent := @networkDhcpSend_discover {h with dhcp := {h.dhcp with initialized := false,step := 0}} nic present ldhcp whole
    dhcpSource dhcpTarget 68 67
  unfold networkInitializeDhcp
  rw [if_neg (by simp [on])]
  split
  · rename_i missing
    exact absurd (present.symm.trans missing) (by simp)
  · rename_i device same
    obtain rfl := Option.some.inj (same.symm.trans present)
    rw [if_neg (not_not.mpr valid),if_neg (by simp [ready]),sent]
    rfl

-- An offer is answered with a request for its address.
theorem networkHandleDhcp_offer {h : Host} {nic : Nic} (present : h.currentNic = some nic) {datagram : List UInt8}
    (whole : dhcpLength ≤ datagram.length) (offer : peek datagram 242 = doraO) : networkHandleDhcp h datagram =
      .ok (Host.dhcpStepped {h with dhcp := {h.dhcp with step := 2}} 3 nic 68 67
        (dhcpMessage nic.macAddress (requestOptions (peekIpv4 datagram 16) (peekIpv4 datagram 20) h.nodename) datagram)) := by
  have typed : ¬ datagram.length < 243 := by
    unfold dhcpLength optionsSize at whole
    omega
  have sent := @networkDhcpSend_request {h with dhcp := {h.dhcp with step := 2}} nic present datagram whole
    (peekIpv4 datagram 16) (peekIpv4 datagram 20) 68 67
  rw [networkHandleDhcp_eq,if_neg typed,if_pos offer]
  exact sent

-- A reply of a DHCP server.
def dhcpReply (xid : List UInt8) (client : Mac) (yiaddr siaddr : Ipv4) (type : UInt8) : List UInt8 :=
  [[2,1,6,0],xid,zeros 8,yiaddr.bytes,siaddr.bytes,zeros 4,client.bytes,zeros 10,zeros 192,[0x63,0x82,0x53,0x63],[53,1,type],
    zeros 305].flatten

theorem dhcpReply_length (xid : List UInt8) (client : Mac) (yiaddr siaddr : Ipv4) (type : UInt8) :
    (dhcpReply xid client yiaddr siaddr type).length = 544+xid.length := by
  simp only [dhcpReply,List.flatten_cons,List.flatten_nil,zeros,Ipv4.bytes,Mac.bytes,List.length_append,List.length_replicate,
    List.length_cons,List.length_nil]
  omega

-- A reply to this client for the address of an offer it has just handled is
-- a genuine Ack.
theorem genuine_after_offer {since : Nat} {h after : Host} {nic : Nic} (present : h.currentNic = some nic) (valid : nic.magic = 1234)
    (begun : since ≤ h.sent.length) {offer ack : List UInt8} (whole : dhcpLength ≤ offer.length) (offered : peek offer 242 = doraO)
    (handled : networkHandleDhcp h offer = .ok after) (reply : peek ack 0 = 2) (transaction : (ack.drop 4).take 4 = ourXid)
    (client : peekMac ack 28 = nic.macAddress) (acknowledges : peek ack 242 = doraA) (same : peekIpv4 offer 16 = peekIpv4 ack 16) :
    GenuineAck since after ack := by
  obtain rfl := Except.ok.inj ((networkHandleDhcp_offer present whole offered).symm.trans handled)
  obtain ⟨device,installed,_,mac⟩ := dhcpStepped_nic valid 3 68 67
    (dhcpMessage nic.macAddress (requestOptions (peekIpv4 offer 16) (peekIpv4 offer 20) h.nodename) offer)
  refine ⟨reply,transaction,⟨device,installed,client.trans mac.symm⟩,acknowledges,?_⟩
  rw [dhcpStepped_sent valid,List.drop_append_of_le_length begun,same]
  exact ⟨_,List.mem_append_right _ (List.mem_singleton_self _),requestedAddress_sent _ _ _ _ _ _ _ _ _ _ _⟩

-- An offer and its Ack give the client the address.
theorem handshake_completes {since : Nat} {h : Host} {nic : Nic} (present : h.currentNic = some nic) (valid : nic.magic = 1234)
    (begun : since ≤ h.sent.length) (yiaddr siaddr : Ipv4) :
    ∃ mid after, Runs.Path DhcpStep h [⟨h,dhcpReply ourXid nic.macAddress yiaddr siaddr doraO,mid⟩,
        ⟨mid,dhcpReply ourXid nic.macAddress yiaddr siaddr doraA,after⟩] after ∧
      GenuineAck since mid (dhcpReply ourXid nic.macAddress yiaddr siaddr doraA) ∧
        after.dhcp = ⟨true,4,yiaddr,siaddr⟩ ∧ after.isOnline = true := by
  have long : ∀ type, (dhcpReply ourXid nic.macAddress yiaddr siaddr type).length = dhcpLength := dhcpReply_length _ _ _ _
  have whole := Nat.le_of_eq (long doraO).symm
  obtain ⟨mid,offered⟩ : ∃ mid, networkHandleDhcp h (dhcpReply ourXid nic.macAddress yiaddr siaddr doraO) = .ok mid :=
    ⟨_,networkHandleDhcp_offer present whole rfl⟩
  have genuine := @genuine_after_offer since _ _ _ present valid begun _ (dhcpReply ourXid nic.macAddress yiaddr siaddr doraA) whole rfl offered
    rfl rfl rfl rfl rfl
  have acknowledged : networkHandleDhcp mid (dhcpReply ourXid nic.macAddress yiaddr siaddr doraA) =
      .ok (mid.leased yiaddr siaddr) := by
    rw [networkHandleDhcp_eq,long]
    rfl
  exact ⟨mid,_,.step (.step .nil ⟨rfl,rfl,offered⟩) ⟨rfl,rfl,acknowledged⟩,genuine,rfl,rfl⟩

-- In a run after the Discover every datagram is handled as promised exactly when
-- every datagram is to be trusted; then whatever address the client holds is that
-- of a genuine Ack, and only such an Ack has taken it online.
theorem handshake_honest_iff {h start after : Host} {ldhcp : List UInt8} {value : Int} {events : List Exchange}
    (began : networkInitializeDhcp h ldhcp = .ok (value,start)) (run : Runs.Path DhcpStep start events after) :
    ((∀ e ∈ events, Honest start.sent.length e) ↔ ∀ e ∈ events, Trusted start.sent.length e.before e.datagram) ∧
      ((∀ e ∈ events, Trusted start.sent.length e.before e.datagram) → Earned start.sent.length start.isOnline events after) := by
  have handled := run.each (fun e => networkHandleDhcp e.before e.datagram = .ok e.after) (by
    rintro m e next ⟨rfl,rfl,step⟩
    exact step)
  constructor
  · constructor
    · intro honest e member
      exact (honest_iff_trusted (handled e member)).mp (honest e member)
    · intro trusted e member
      exact (honest_iff_trusted (handled e member)).mpr (trusted e member)
  · intro trusted
    refine (run.where trusted).history (Earned start.sent.length start.isOnline) (fun _ _ _ _ earned taken => earned.step taken.1 taken.2) ?_
    have fresh := networkInitializeDhcp_fresh began
    exact ⟨fun initialized => absurd (fresh.symm.trans initialized) (by decide),fun online => .inl online⟩

theorem handshake_honest_once : ∃ start after events, networkInitializeDhcp bootHost (zeros dhcpLength) = .ok (0,start) ∧
    Runs.Path DhcpStep start events after ∧ (∀ e ∈ events, Honest start.sent.length e) ∧
      after.dhcp = ⟨true,4,⟨192,168,1,50⟩,⟨192,168,1,1⟩⟩ ∧ after.isOnline = true := by
  have whole : dhcpLength ≤ (zeros dhcpLength).length := Nat.le_of_eq List.length_replicate.symm
  have began := @networkInitializeDhcp_whole bootHost bootNic rfl rfl rfl rfl (zeros dhcpLength) whole
  obtain ⟨device,installed,valid,_⟩ := @dhcpStepped_nic bootHost bootNic rfl 1 68 67 (dhcpMessage bootNic.macAddress discoverOptions (zeros dhcpLength))
  obtain ⟨mid,after,path,genuine,lease,online⟩ := handshake_completes installed valid (Nat.le_refl _) ⟨192,168,1,50⟩ ⟨192,168,1,1⟩
  refine ⟨_,after,_,began,path,?_,lease,online⟩
  refine (handshake_honest_iff began path).1.mpr ?_
  intro e member
  rcases List.mem_pair.mp member with rfl | rfl
  · intro ack
    have answer : doraO = doraA := ack
    exact absurd answer (by decide)
  · exact fun _ => .inl genuine

-- Acks of another transaction for another client, where nothing was requested.
def strayAck (address : Ipv4) : List UInt8 := dhcpReply [0xDE,0xAD,0xBE,0xEF] ⟨0x52,0x54,0,0xAA,0xBB,0xCC⟩ address ⟨10,0,0,1⟩ doraA

theorem stray_acks_accepted : ∃ start mid after, networkInitializeDhcp bootHost (zeros dhcpLength) = .ok (0,start) ∧
    Runs.Path DhcpStep start [⟨start,strayAck ⟨10,0,0,7⟩,mid⟩,⟨mid,strayAck ⟨10,0,0,8⟩,after⟩] after ∧
      start.dhcp.initialized = false ∧ mid.dhcp.initialized = true ∧ start.isOnline = false ∧ mid.isOnline = true ∧
        mid.dhcp.yourIpv4 = ⟨10,0,0,7⟩ ∧ after.dhcp.yourIpv4 = ⟨10,0,0,8⟩ ∧
          ¬ Honest start.sent.length ⟨start,strayAck ⟨10,0,0,7⟩,mid⟩ ∧ ¬ Honest start.sent.length ⟨mid,strayAck ⟨10,0,0,8⟩,after⟩ := by
  have whole : dhcpLength ≤ (zeros dhcpLength).length := Nat.le_of_eq List.length_replicate.symm
  have began := @networkInitializeDhcp_whole bootHost bootNic rfl rfl rfl rfl (zeros dhcpLength) whole
  have accepted : ∀ (h : Host) (address : Ipv4), networkHandleDhcp h (strayAck address) =
      .ok (h.leased address ⟨10,0,0,1⟩) := by
    intro h address
    have long : (strayAck address).length = dhcpLength := dhcpReply_length _ _ _ _ _
    rw [networkHandleDhcp_eq,long]
    rfl
  have foreign : ∀ (since : Nat) (h : Host) (address : Ipv4), ¬ GenuineAck since h (strayAck address) := by
    intro since h address genuine
    have other : [0xDE,0xAD,0xBE,0xEF] = ourXid := genuine.transaction
    exact absurd other (by decide)
  refine ⟨_,Host.leased _ _ _,(Host.leased _ ⟨10,0,0,7⟩ _).leased _ _,began,.step (.step .nil ⟨rfl,rfl,accepted _ _⟩) ⟨rfl,rfl,accepted _ _⟩,rfl,rfl,rfl,rfl,rfl,rfl,?_,?_⟩
  · exact fun honest => foreign _ _ _ (honest.initialized rfl rfl)
  · exact fun honest => foreign _ _ _ (honest.address rfl (by decide))

end GramadoKernel
