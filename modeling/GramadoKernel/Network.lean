import GramadoKernel.Ipc
import GramadoKernel.Library.Bytes
import GramadoKernel.Volume

namespace GramadoKernel

-- A routine that does not return, or a read of a byte that the frame does not have.
inductive Fault where
  | halted (halt : Halt)
  | outside
  deriving DecidableEq

def refused (text : String) : Except Fault α := .error (.halted (.panic text))

structure Ipv4 where
  a : UInt8
  b : UInt8
  c : UInt8
  d : UInt8
  deriving DecidableEq

structure Mac where
  a : UInt8
  b : UInt8
  c : UInt8
  d : UInt8
  e : UInt8
  f : UInt8
  deriving DecidableEq

def Ipv4.bytes (x : Ipv4) : List UInt8 := [x.a,x.b,x.c,x.d]
def Mac.bytes (x : Mac) : List UInt8 := [x.a,x.b,x.c,x.d,x.e,x.f]

-- e1000.h, ethernet.h, ip.h, udp.h, arp.h
def sendBufferMax : Nat := 8
def e1000DefaultBufferSize : Nat := 8192
def etherTypeIpv4 : UInt16 := 0x0800
def etherTypeArp : UInt16 := 0x0806
def etherTypeIpv6 : UInt16 := 0x86DD
def protocolIpTcp : UInt8 := 6
def protocolIpUdp : UInt8 := 17
def ethernetHeaderLength : Nat := 14
def ipHeaderLength : Nat := 20
def udpHeaderLength : Nat := 8
def tcpHeaderLength : Nat := 20
def arpOpcRequest : UInt16 := 1
def arpOpcReply : UInt16 := 2

-- struct intel_nic_info_d. The driver allocates every buffer, and tx_cur only
-- goes around them.
structure Nic where
  magic : Nat
  initialized : Bool
  macAddress : Mac
  ipAddress : Ipv4
  txCur : Nat
  txBuffersVirt : Nat → UInt64
  inside : txCur < sendBufferMax
  allocated : ∀ i < sendBufferMax, txBuffersVirt i ≠ 0

-- struct dhcp_info_d
structure DhcpInfo where
  initialized : Bool
  step : Nat
  yourIpv4 : Ipv4
  serverIpv4 : Ipv4

-- struct network_info_d, as the ARP support uses it.
structure NetworkInfo where
  initialized : Bool
  gatewayIpv4 : Ipv4
  gatewayMac : Mac

-- The network support with the kernel around it. `sent` has the frames that the
-- device was told to send, and `nodename` is that of kernel_utsname.
structure Host where
  kernel : Kernel
  initialized : Bool
  isOnline : Bool
  locked : Bool
  callerIpv4 : Ipv4
  callerMac : Mac
  dhcp : DhcpInfo
  currentNic : Option Nic
  networkInfo : Option NetworkInfo
  udpPayload : Nat → UInt8
  nodename : Nat → UInt8
  sent : List (List UInt8)

-- ToNetByteOrder16 and FromNetByteOrder16 are the same exchange of bytes, and a
-- word is stored with its low byte first.
def toNetByteOrder16 (v : UInt16) : UInt16 := v >>> 8 ||| v <<< 8
def storedWord (v : UInt16) : List UInt8 := [v.toUInt8,(v >>> 8).toUInt8]

def zeros (n : Nat) : List UInt8 := List.replicate n 0

-- The characters of a string constant.
def chars (s : String) : List UInt8 := s.toList.map fun c => UInt8.ofNat c.toNat

-- The words of a pseudo header; a last odd byte is left out.
def addWords : UInt32 → List UInt8 → UInt32
  | acc,low :: high :: rest => addWords (acc+(littleEndian16 low high).toUInt32) rest
  | acc,_ => acc

-- The words of the data; a last odd byte is added.
def addData : UInt32 → List UInt8 → UInt32
  | acc,low :: high :: rest => addData (acc+(littleEndian16 low high).toUInt32) rest
  | acc,[last] => acc+last.toUInt32
  | acc,[] => acc

def netChecksum (phdr : Option (List UInt8)) (data : List UInt8) : UInt16 :=
  let checksum : UInt32 :=
    match phdr with
    | none => 0
    | some phdr => addWords 0 phdr
  let checksum : UInt32 := addData checksum data
  let checksum : UInt32 := (checksum &&& (0xFFFF : UInt32))+(checksum >>> (16 : UInt32))
  let checksum : UInt32 := checksum+(checksum >>> (16 : UInt32))
  toNetByteOrder16 (~~~ checksum).toUInt16

-- The device takes the frame from the buffer at tx_cur and goes on to the next one.
def Host.transmit (h : Host) (nic : Nic) (frame : List UInt8) : Host :=
  {h with
    currentNic := some {nic with
      txCur := (nic.txCur+1) % 8
      inside := Nat.mod_lt _ (by decide)}
    sent := h.sent ++ [frame]}

def e1000hwSend (h : Host) (nic : Nic) (frame : List UInt8) : Except Fault (Int × Host) :=
  if nic.magic ≠ 1234 then .ok (-1,h)
  else if frame.length = 0 then refused "e1000_send: len=0\n"
  else if e1000DefaultBufferSize < frame.length then refused "e1000_send: len\n"
  else if sendBufferMax ≤ nic.txCur then refused "e1000_send: old\n"
  else .ok (0,h.transmit nic frame)

def e1000Send (h : Host) (nic : Nic) (frame : List UInt8) : Except Fault (Int × Host) := do
  let (status,h) ← e1000hwSend h nic frame
  .ok (if status = 0 then 0 else -1,h)

-- What e1000_send returns is not looked at.
def ethernetSend (h : Host) (dev : Option Nic) (frame : List UInt8) : Except Fault (Int × Host) :=
  match dev with
  | none => .ok (-1,h)
  | some nic => do
      let (_,h) ← e1000Send h nic frame
      .ok (0,h)

def etherHeader (dst src : Mac) (type : UInt16) : List UInt8 := dst.bytes ++ src.bytes ++ storedWord (toNetByteOrder16 type)

-- The ipv4 header that network_send_udp builds, with the given checksum.
def ipHeader (sourceIp targetIp : Ipv4) (length sum : UInt16) : List UInt8 :=
  [0x45,0x00] ++ storedWord (toNetByteOrder16 length) ++ storedWord 0 ++ storedWord (toNetByteOrder16 0x4000) ++ [255,0x11] ++
    storedWord sum ++ sourceIp.bytes ++ targetIp.bytes

def udpHeader (sourcePort targetPort length : UInt16) : List UInt8 :=
  storedWord (toNetByteOrder16 sourcePort) ++ storedWord (toNetByteOrder16 targetPort) ++ storedWord (toNetByteOrder16 length) ++ storedWord 0

def udpFrame (mac targetMac : Mac) (sourceIp targetIp : Ipv4) (sourcePort targetPort : UInt16) (data : List UInt8) : List UInt8 :=
  let xxxdata := UInt16.ofNat data.length
  let udplen := UInt16.ofNat udpHeaderLength+xxxdata
  let iplen := UInt16.ofNat ipHeaderLength+udplen
  let sum := toNetByteOrder16 (netChecksum none (ipHeader sourceIp targetIp iplen 0))
  etherHeader targetMac mac etherTypeIpv4 ++ ipHeader sourceIp targetIp iplen sum ++ udpHeader sourcePort targetPort udplen ++ data

-- `data` are the bytes at data_buffer.
def networkSendUdp (h : Host) (sourceIp targetIp : Ipv4) (targetMac : Mac) (sourcePort targetPort : UInt16) (data : List UInt8) :
    Except Fault (Int × Host) :=
  match h.currentNic with
  | none => .ok (-1,h)
  | some nic =>
      let nic := {nic with ipAddress := sourceIp}
      let h := {h with currentNic := some nic}
      if nic.txBuffersVirt nic.txCur = 0 then refused "network_send_udp: frame\n"
      else do
        let (_,h) ← ethernetSend h (some nic) (udpFrame nic.macAddress targetMac sourceIp targetIp sourcePort targetPort data)
        .ok (0,h)

def arpFrame (mac targetMac : Mac) (sourceIp targetIp : Ipv4) (op : UInt16) : List UInt8 :=
  etherHeader targetMac mac etherTypeArp ++ storedWord 0x0100 ++ storedWord 0x0008 ++ [6,4] ++ storedWord (toNetByteOrder16 op) ++
    mac.bytes ++ sourceIp.bytes ++ targetMac.bytes ++ targetIp.bytes

-- The arrays of the target may be in a frame: they are read here.
def networkSendArp (h : Host) (targetMac : Except Fault Mac) (sourceIp : Ipv4) (targetIp : Except Fault Ipv4) (op : UInt16) :
    Except Fault Host :=
  match h.currentNic with
  | none => .ok h
  | some nic => do
      let nic := {nic with ipAddress := sourceIp}
      let h := {h with currentNic := some nic}
      let mac ← targetMac
      if op ≠ arpOpcRequest ∧ op ≠ arpOpcReply then refused "network_send_arp: Invalid operation code\n"
      else do
        let ip ← targetIp
        if nic.txBuffersVirt nic.txCur = 0 then refused "network_send_arp: frame\n"
        else do
          let (_,h) ← ethernetSend h (some nic) (arpFrame nic.macAddress mac sourceIp ip op)
          .ok h

def networkSendArpReply (h : Host) (targetMac : Except Fault Mac) (targetIp : Except Fault Ipv4) : Except Fault Host :=
  if h.dhcp.initialized = false then .ok h
  else networkSendArp h targetMac h.dhcp.yourIpv4 targetIp arpOpcReply

-- dhcp.h
def doraD : Int := 1
def doraO : UInt8 := 2
def doraR : Int := 3
def doraA : UInt8 := 5
def dhcpNak : UInt8 := 6
def dhcpInform : UInt8 := 8
def optionsSize : Nat := 308
def dhcpLength : Nat := 240+optionsSize

-- The fields of struct dhcp_d before the options, as a client fills them.
def dhcpFields (mac : Mac) : List UInt8 :=
  [1,1,6,0] ++ [0x39,0x03,0xF3,0x26] ++ zeros 2 ++ zeros 2 ++ zeros 16 ++ (mac.bytes ++ zeros 10) ++ zeros 64 ++ zeros 128 ++
    [0x63,0x82,0x53,0x63]

def discoverOptions : List UInt8 := [53,1,1,55,3,1,3,6,255]

def requestOptions (sourceIp targetIp : Ipv4) (nodename : Nat → UInt8) : List UInt8 :=
  [53,1,3,50,4] ++ sourceIp.bytes ++ [54,4] ++ targetIp.bytes ++ [55,3,1,3,6,12,7] ++ (List.range 7).map nodename ++ [255]

-- What is sent of a structure that had the bytes `old`.
def dhcpMessage (mac : Mac) (options old : List UInt8) : List UInt8 :=
  dhcpFields mac ++ options ++ (old.take dhcpLength).drop (240+options.length)

def dhcpSource : Ipv4 := ⟨0,0,0,0⟩
def dhcpTarget : Ipv4 := ⟨0xFF,0xFF,0xFF,0xFF⟩
def dhcpTargetMac : Mac := ⟨0xFF,0xFF,0xFF,0xFF,0xFF,0xFF⟩

-- The last part of network_dhcp_send: the whole structure is sent.
def dhcpSent (h : Host) (nic : Nic) (dhcp options : List UInt8) (sport dport : UInt16) : Except Fault Host :=
  if dhcp.length < dhcpLength then .error .outside
  else do
    let (_,h) ← networkSendUdp h dhcpSource dhcpTarget dhcpTargetMac sport dport (dhcpMessage nic.macAddress options dhcp)
    .ok h

-- `dhcp` are the bytes from the structure on; chaddr ends at 44 and the message
-- type is at 242.
def networkDhcpSend (h : Host) (dhcp : List UInt8) (messageType : Int) (sourceIp targetIp : Ipv4) (sport dport : UInt16) :
    Except Fault Host :=
  if messageType < 0 then .ok h
  else if dhcp.length < 44 then .error .outside
  else
    match h.currentNic with
    | none => .ok h
    | some nic =>
        if dhcp.length < 243 then .error .outside
        else if messageType = doraD then
          dhcpSent {h with dhcp := {h.dhcp with step := 1}} nic dhcp discoverOptions sport dport
        else if messageType = doraR then
          dhcpSent {h with dhcp := {h.dhcp with step := 3}} nic dhcp (requestOptions sourceIp targetIp h.nodename) sport dport
        else .ok h

-- `ldhcp` is the local structure as the stack had it.
def networkInitializeDhcp (h : Host) (ldhcp : List UInt8) : Except Fault (Int × Host) :=
  let h := {h with dhcp := {h.dhcp with initialized := false,step := 0}}
  if h.initialized = false then .ok (-1,h)
  else
    match h.currentNic with
    | none => .ok (-1,h)
    | some nic =>
        if nic.magic ≠ 1234 then .ok (-1,h)
        else if nic.initialized = false then .ok (-1,h)
        else do
          let h ← networkDhcpSend h ldhcp doraD dhcpSource dhcpTarget 68 67
          .ok (0,h)

end GramadoKernel
