import SimpleSDN.Network.EchoReply
import SimpleSDN.Primary.State
import SimpleSDN.Router.Messages
import SimpleSDN.Run
import SimpleSDN.Secondary.DropAfter

/-!
# The loop of a secondary router

`Second` is the state of the loop of `secondRouter_s6`, with the packets it sends.
Its steps are the reactions to a datagram, to a packet on the raw ICMP socket and to
a packet on the raw TCP socket; `octaneRulesController` carries out the rule that a
packet hits. The controller takes the router by value, so what it does to the flow
table is lost with the copy.
-/

/-- What a secondary router hands to its sockets. -/
inductive SecondOut
  | udp (addr : SockAddr) (datagram : List UInt8)
  | raw (protocol : UInt8) (dst : UInt32) (segment : List UInt8)

/-- `sendMsg`; a datagram holds at most 65507 bytes. -/
def sendMsg (buf : Buffer) (iSize : ℕ) (addr : SockAddr) : List SecondOut :=
  if iSize ≤ 65507 then [.udp addr (buf.bytes 0 iSize)] else []

/-- `sendmsg` on a raw socket; it fails when the length is negative. -/
def sendRaw (protocol : UInt8) (dst : UInt32) (buf : Buffer) (i : ℕ) (len : ℤ) :
    List SecondOut :=
  if 0 ≤ len then [.raw protocol dst (buf.bytes i len.toNat)] else []

namespace Buffer

/-- `icmpForward_secondRouter`. -/
def icmpForward (buffer : Buffer) : List SecondOut :=
  sendRaw 1 buffer.ipDst buffer buffer.iIpHeaderLen buffer.iTotLen

/-- The `struct psdhdr` of a segment, with the segment behind it. -/
def psd (buffer : Buffer) (saddr daddr : UInt32) (iTcpTotLen : ℕ) (pTcp : Buffer) : Buffer :=
  ((((zero.set32 0 saddr).set32 4 daddr).set8 9 buffer.ipP).set16 10
    (htons (UInt16.ofNat iTcpTotLen))).copy 12 pTcp buffer.iIpHeaderLen iTcpTotLen

/-- The TCP checksum for a pseudo header with the given addresses. `checksum` takes its
count as a `short`. -/
def setTcpCheck (buffer : Buffer) (saddr daddr : UInt32) (iTcpTotLen : ℕ) : Buffer :=
  let check := buffer.iIpHeaderLen + 16
  let pTcp := buffer.set16 check 0
  pTcp.set16 check
    (checksum (buffer.psd saddr daddr iTcpTotLen pTcp) 0 (toShort (iTcpTotLen + 12)))

/-- `tcpForward_secondRouter`. The copy of the segment behind the pseudo header must
fit in 2048 bytes. -/
def tcpForward (buffer : Buffer) (rou2ExternalAddr : UInt32) : Option (List SecondOut) :=
  if 0 ≤ buffer.iTotLen ∧ buffer.iTotLen ≤ 2036 then
    some (sendRaw 6 buffer.ipDst
      (buffer.setTcpCheck rou2ExternalAddr buffer.ipDst buffer.iTotLen.toNat)
      buffer.iIpHeaderLen buffer.iTotLen)
  else none

end Buffer

/-- `octaneRulesController`, with the router it was given a copy of, what it returns and
what it sends. `action` is what `operator[]` puts in the table for a new key. -/
def octaneRulesController (action : FlowAction) (entry : FlowEntry) (Router : CRouter)
    (buffer : Buffer) (iSize : ℕ) (rou1Addr : SockAddr) (rou2SinAddr : UInt32) :
    Option (CRouter × ℤ × List SecondOut) :=
  let (mTable, action) := Router.rouFlowTable.mTable.index entry action
  let Router := { Router with rouFlowTable := ⟨mTable⟩ }
  if action.action = 1 then
    if action.fwdPort = 0 then
      if entry.protocol = 1 then some (Router, 0, buffer.icmpForward)
      else if entry.protocol = 6 then
        (buffer.tcpForward rou2SinAddr).map fun out => (Router, 0, out)
      else some (Router, 0, [])
    else
      some (Router, action.fwdPort.toNat,
        sendMsg buffer iSize (SockAddr.local (htons action.fwdPort)))
  else if action.action = 2 then some (Router, -1, sendMsg buffer.icmpReplyEdit iSize rou1Addr)
  else if action.action = 3 then some (Router, -1, [])
  else if action.action = 4 then
    some ({ Router with rouFlowTable := ⟨mTable.erase entry⟩ }, -1, [])
  else some (Router, -2, [])

/-- The uninitialised storage that a step reads. -/
structure Uninit where
  st : Stack
  filterEntry : FlowEntry
  srcAddr : UInt32
  action : FlowAction
  tempSockAddr : SockAddr
  tempInAddr : UInt32

/-- The loop of `secondRouter_s6`. `sent` is what it has sent, and `forwarded` the
packets whose rule forwards to a raw socket, each with the address that `icmpUnpack`
has left in `srcAddr`, the last one first. -/
structure Second where
  router : CRouter
  rou2ExternalAddr : UInt32
  oriSrcAddr : UInt32
  sent : List SecondOut
  forwarded : List (Packet × UInt32)

/-- What arrives: a datagram, or a packet on a raw socket. `memory` is the
uninitialised array of the raw ICMP socket. -/
inductive SecondEvent
  | udp (u : Uninit) (datagram : List UInt8) (rou1Addr : SockAddr)
  | icmp (u : Uninit) (memory : Buffer) (packet : List UInt8) (iPort : ℤ)
  | tcp (u : Uninit) (packet : List UInt8) (iPort : ℤ)

/-- The external address of a router; `addr` is the uninitialised variable. -/
def CRouter.rou2ExternalAddr (Router : CRouter) (addr : UInt32) : UInt32 :=
  if Router.iRouterID = 1 then inetAddr ⟨192, 168, 201, 2⟩
  else if Router.iRouterID = 2 then inetAddr ⟨192, 168, 202, 2⟩
  else if Router.iRouterID = 3 then inetAddr ⟨192, 168, 203, 2⟩
  else addr

/-- What `icmpUnpack` leaves in `srcAddr`. -/
def Packet.icmpUnpackSrc (srcAddr : UInt32) (buffer : Packet) : UInt32 :=
  if buffer.ipP = 1 ∨ buffer.ipP = 6 then buffer.ipSrc else srcAddr

/-- `icmpReply_Edit(AddrForReplace, buffer, FromRawSock)`. -/
def Buffer.icmpReplyEditFromRawSock (addrForReplace : UInt32) (buffer : Buffer) : Buffer :=
  if buffer.ipP ≠ 1 then buffer else (buffer.set32 16 addrForReplace).setIpSum

/-- `tcpReply_Edit`. The length that is copied must not be negative. -/
def Buffer.tcpReplyEdit (oriSrcAddr : UInt32) (buffer3 : Buffer) : Option Buffer :=
  if 0 ≤ buffer3.iTotLen then
    let iTcpTotLen := buffer3.iTotLen.toNat
    let buffer3 := (buffer3.set32 16 oriSrcAddr).setIpSum
    some (buffer3.setTcpCheck buffer3.ipSrc oriSrcAddr iTcpTotLen)
  else none

namespace Second

/-- The loop before the first packet; `oriSrcAddr` and `addr` are uninitialised. -/
def start (Router : CRouter) (oriSrcAddr addr : UInt32) : Second :=
  let (table, line) := Router.rouFlowTable.defaultInsert
  { router := { Router with rouFlowTable := table }.pushLog line
    rou2ExternalAddr := Router.rou2ExternalAddr addr
    oriSrcAddr := oriSrcAddr
    sent := []
    forwarded := [] }

/-- The array that a datagram is received in. -/
def udpBuffer (datagram : List UInt8) : Buffer := Buffer.ofList (datagram.take 65500)

/-- The arrays that the packets of the raw sockets are received in. -/
def icmpBuffer (memory : Buffer) (packet : List UInt8) : Buffer :=
  memory.store 0 (packet.take 2048)

def tcpBuffer (packet : List UInt8) : Buffer := Buffer.ofList (packet.take 65535)

/-- A datagram with a control message, which is acknowledged if it is not dropped. -/
def control (s : Second) (buffer : Buffer) (rou1Addr : SockAddr) : Option Second :=
  buffer.octaneUnpack.map fun octMsg =>
    let (router, ack) := s.router.receiveControl octMsg
    { s with
      router := router
      sent := s.sent ++ if ack.isSome then
        sendMsg buffer.octaneReplyEdit 65500 rou1Addr else [] }

/-- A datagram with a packet. -/
def packet (s : Second) (u : Uninit) (buffer : Buffer) (rou1Addr : SockAddr) : Option Second :=
  let entry := FlowEntry.ofBuffer u.st buffer.packet
  let sCheck := (s.router.rouFlowTable.flowCheckOut entry u.filterEntry).1
  if sCheck ≠ "" then
    let (router, _) :=
      s.router.icmpForwardLog u.st buffer.packet .fromUdp (ntohs rou1Addr.sinPort).toNat
    (octaneRulesController u.action entry router buffer 65500 rou1Addr s.rou2ExternalAddr).map
      fun (_, iFlag, out) =>
        let srcAddr := buffer.packet.icmpUnpackSrc u.srcAddr
        { s with
          router := router.pushLog sCheck
          oriSrcAddr := if iFlag = 0 then srcAddr else s.oriSrcAddr
          sent := s.sent ++ out
          forwarded := if iFlag = 0 then (buffer.packet, srcAddr) :: s.forwarded
            else s.forwarded }
  else some s

/-- A packet on a raw socket, before and after its destination has been replaced. -/
def raw (s : Second) (u : Uninit) (buffer2 buffer3 : Buffer) (iSize : ℕ) (iPort : ℤ) :
    Option Second :=
  let entry := FlowEntry.ofBuffer u.st buffer3.packet
  let sCheck := (s.router.rouFlowTable.flowCheckOut entry u.filterEntry).1
  if sCheck ≠ "" then
    let (router, _) := s.router.icmpForwardLog u.st buffer2.packet .fromRawSock iPort
    let router := router.pushLog sCheck
    (octaneRulesController u.action entry router buffer3 iSize u.tempSockAddr u.tempInAddr).map
      fun (_, _, out) => { s with router := router, sent := s.sent ++ out }
  else some s

end Second

/-- One step of the loop. -/
def secondStep (s : Second) : SecondEvent → Option Second
  | .udp u datagram rou1Addr =>
      let buffer := Second.udpBuffer datagram
      if buffer.ipP = octaneProtocolNum then s.control buffer rou1Addr
      else s.packet u buffer rou1Addr
  | .icmp u memory packet iPort =>
      let buffer2 := Second.icmpBuffer memory packet
      s.raw u buffer2 (buffer2.icmpReplyEditFromRawSock s.oriSrcAddr) 2048 iPort
  | .tcp u packet iPort =>
      let buffer2 := Second.tcpBuffer packet
      (buffer2.tcpReplyEdit s.oriSrcAddr).bind fun buffer3 =>
        s.raw u buffer2 buffer3 buffer3.ipLen iPort
