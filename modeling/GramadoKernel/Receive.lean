import GramadoKernel.Network

namespace GramadoKernel

-- `buffer` are the bytes of the frame from a header on. The sizes that the
-- handlers are given are looked at by none of them.
def byteAt (buffer : List UInt8) (i : Nat) : Except Fault UInt8 := Bytes.read .outside buffer i

def wordAt (buffer : List UInt8) (i : Nat) : Except Fault UInt16 := do
  let low ← byteAt buffer i
  let high ← byteAt buffer (i+1)
  .ok (littleEndian16 low high)

def dwordAt (buffer : List UInt8) (i : Nat) : Except Fault UInt32 := do
  let low ← wordAt buffer i
  let high ← wordAt buffer (i+2)
  .ok (low.toUInt32+high.toUInt32*65536)

def ipv4At (buffer : List UInt8) (i : Nat) : Except Fault Ipv4 := do
  let a ← byteAt buffer i
  let b ← byteAt buffer (i+1)
  let c ← byteAt buffer (i+2)
  let d ← byteAt buffer (i+3)
  .ok ⟨a,b,c,d⟩

def macAt (buffer : List UInt8) (i : Nat) : Except Fault Mac := do
  let a ← byteAt buffer i
  let b ← byteAt buffer (i+1)
  let c ← byteAt buffer (i+2)
  let d ← byteAt buffer (i+3)
  let e ← byteAt buffer (i+4)
  let f ← byteAt buffer (i+5)
  .ok ⟨a,b,c,d,e,f⟩

-- `buffer` is the structure dhcp_d. The hardware address is printed and op only
-- looked at for a message.
def networkHandleDhcp (h : Host) (buffer : List UInt8) : Except Fault Host := do
  let your ← ipv4At buffer 16
  let server ← ipv4At buffer 20
  let _chaddr ← macAt buffer 28
  let _op ← byteAt buffer 0
  let type ← byteAt buffer 242
  if type = doraO then
    networkDhcpSend {h with dhcp := {h.dhcp with step := 2}} buffer doraR your server 68 67
  else if type = doraA then
    .ok {h with dhcp := ⟨true,4,your,server⟩,isOnline := true}
  else if type = dhcpNak then .ok h
  else if type = dhcpInform then .ok h
  else .ok h

-- ksprintf of a constant, which writes no terminator.
def ksprintf (memory : Nat → UInt8) (offset : Nat) (text : List UInt8) : Nat → UInt8 := fun i =>
  if offset ≤ i ∧ i < offset+text.length then text.getD (i-offset) 0 else memory i

-- memset(buf,0,sizeof(buf)) where `buf` is a pointer.
def memsetPointer (memory : Nat → UInt8) : Nat → UInt8 := fun i => if i < 8 then 0 else memory i

def gprotResponseFile : List UInt8 :=
  chars "<html><head></head><body><span>This is the Gramado Kernel</span></body></html>"

-- The answer to the packet in `buf`. The packets g:1, g:2 and g:3 are a reply, an
-- event and an error.
def gprotAnswer (buf : Nat → UInt8) : List UInt8 × List UInt8 :=
  if buf 0 = 0x67 ∧ buf 1 = 0x3A then
    if buf 2 = 0x2F then (chars "g:1 ",gprotResponseFile)
    else if buf 2 = 0x78 then (chars "g:1 ",chars "Gramado OS received a g:x request\n")
    else if buf 2 = 0x30 then (chars "g:1 ",chars "This is a response from Gramado OS\n")
    else if buf 2 = 0x31 ∨ buf 2 = 0x32 ∨ buf 2 = 0x33 then (chars "g:a ",chars "ACK\n")
    else if buf 2 = 0x34 then (chars "g:0 ",chars "exit")
    else (chars "g:3 ",[])
  else (chars "g:3 ",[])

-- What it returns after the send is not looked at.
def gprotSendUdp (h : Host) (targetIp : Ipv4) (targetMac : Mac) (sourcePort targetPort : UInt16) (data : List UInt8) :
    Except Fault (Int × Host) :=
  if data.length = 0 then .ok (-1,h)
  else do
    let (_,h) ← networkSendUdp h h.dhcp.yourIpv4 targetIp targetMac sourcePort targetPort data
    .ok (-1,h)

-- A request g:x is also told to the display server.
def tellDisplayServer (h : Host) : Except Fault Host :=
  if h.udpPayload 0 = 0x67 ∧ h.udpPayload 1 = 0x3A ∧ h.udpPayload 2 = 0x78 then do
    let (_,kernel) ← (ipcPostMessageToDs 800800 0 0 h.kernel).mapError Fault.halted
    .ok {h with kernel := kernel}
  else .ok h

-- Its data is the udp_payload, where it writes its answer.
def gprotHandleProtocol (h : Host) (sport dport : UInt16) : Except Fault (Int × Host) :=
  if h.dhcp.initialized = false then .ok (-1,h)
  else if dport ≠ 11888 then .ok (-1,h)
  else do
    let (code,text) := gprotAnswer h.udpPayload
    let buf := ksprintf (ksprintf (memsetPointer h.udpPayload) 0 code) 4 text
    let h ← tellDisplayServer h
    let h := {h with udpPayload := buf}
    let (_,h) ← gprotSendUdp h h.callerIpv4 h.callerMac dport sport ((List.range 256).map buf)
    .ok (0,h)

def clearPayload (h : Host) : Host := {h with udpPayload := fun _ => 0}

-- The copy of the payload for a text that is short enough.
def copyPayload (h : Host) (text : List UInt8) : Host :=
  if text.length ≤ 512 then {h with udpPayload := fun i => text.getD i 0} else h

def networkHandleUdp (h : Host) (buffer : List UInt8) : Except Fault Host := do
  let sport ← wordAt buffer 0
  let dport ← wordAt buffer 2
  let sport := toNetByteOrder16 sport
  let dport := toNetByteOrder16 dport
  let text ← Bytes.readTo .outside 0 (buffer.drop udpHeaderLength)
  let h := copyPayload (clearPayload h) text
  if dport = 68 then do
    let _ulen ← wordAt buffer 4
    networkHandleDhcp h (buffer.drop udpHeaderLength)
  else if dport = 11888 ∨ dport = 22888 ∨ dport = 34884 then do
    let (_,h) ← gprotHandleProtocol h sport dport
    .ok (clearPayload h)
  else .ok h

-- What is read here is printed; the copy of the payload is used by nothing.
def networkHandleTcp (h : Host) (buffer : List UInt8) : Except Fault Host := do
  let _sport ← wordAt buffer 0
  let _dport ← wordAt buffer 2
  let _seq ← dwordAt buffer 4
  let _ack ← dwordAt buffer 8
  let _payload ← Bytes.readUpTo .outside 0 1020 (buffer.drop tcpHeaderLength)
  let _flags ← wordAt buffer 12
  .ok h

def networkHandleIpv4 (h : Host) (buffer : List UInt8) : Except Fault Host := do
  let caller ← ipv4At buffer 12
  let h := {h with callerIpv4 := caller}
  let vhl ← byteAt buffer 0
  if vhl >>> 4 ≠ 4 then .ok h
  else do
    let length ← wordAt buffer 2
    if toNetByteOrder16 length < 20 then refused "IP: Bad total lenght #debug\n"
    else do
      let protocol ← byteAt buffer 9
      if protocol = protocolIpTcp then networkHandleTcp h (buffer.drop ipHeaderLength)
      else if protocol = protocolIpUdp then networkHandleUdp h (buffer.drop ipHeaderLength)
      else .ok h

-- A reply from 192.168.1.1 is that of the gateway.
def networkHandleArp (h : Host) (buffer : List UInt8) : Except Fault Host := do
  let op ← wordAt buffer 6
  let op := toNetByteOrder16 op
  if op = arpOpcRequest then networkSendArpReply h (macAt buffer 8) (ipv4At buffer 14)
  else if op = arpOpcReply then do
    let spa ← ipv4At buffer 14
    if spa = ⟨192,168,1,1⟩ then
      match h.networkInfo with
      | none => .ok h
      | some info =>
          if info.initialized = false then .ok h
          else do
            let sha ← macAt buffer 8
            .ok {h with networkInfo := some {info with gatewayIpv4 := spa,gatewayMac := sha}}
    else .ok h
  else .ok h

def networkHandleEthernet (h : Host) (frame : List UInt8) : Except Fault (Int × Host) :=
  if h.initialized = false then .ok (-1,h)
  else if h.locked = true then .ok (-1,h)
  else if frame.length = 0 ∨ e1000DefaultBufferSize < frame.length then .ok (-1,h)
  else do
    let caller ← macAt frame 6
    let h := {h with callerMac := caller}
    let type ← wordAt frame 12
    let type := toNetByteOrder16 type
    if type = etherTypeIpv6 then .ok (-1,h)
    else if type = etherTypeIpv4 then do
      let h ← networkHandleIpv4 h (frame.drop ethernetHeaderLength)
      .ok (0,h)
    else if type = etherTypeArp then do
      let h ← networkHandleArp h (frame.drop ethernetHeaderLength)
      .ok (0,h)
    else .ok (-1,h)

def networkOnReceiving (h : Host) (frame : List UInt8) : Except Fault (Int × Host) :=
  if h.kernel.systemState ≠ .running then .ok (-1,h) else networkHandleEthernet h frame

end GramadoKernel
