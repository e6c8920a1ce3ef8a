import SimpleSDN.Primary.State

/-!
# The branches of a primary router's loop

A loop of the primary router reacts to a packet from the tunnel, a datagram on
its socket and an expired timer. The six stages differ in the secondary a packet
goes to, in the control messages of a new flow and in the action-5 messages of
stage 9; the rest is the same code. `primStep` is one reaction. A packet comes
with the contents of the uninitialised storage and the clock readings of that
reaction; `none` stands for an overflow of the handle counter and for an expiry
without a timer.
-/

/-- 10.5.51.0/24, the network behind the secondary routers. -/
def packetInNet (dstAddr : UInt32) : Bool :=
  packetDstCheck dstAddr ⟨10, 5, 51, 0⟩ ⟨255, 255, 255, 0⟩

/-- Where an ICMP packet goes, by the address in `dstAddr`. -/
def Config.icmpTarget (c : Config) (dstAddr : UInt32) : SockAddr :=
  match c.stage with
  | .s4 | .s5 => c.rou2Addr
  | _ =>
      let iCheck := packetDstCheck dstAddr ⟨10, 5, 51, 11⟩ ⟨255, 255, 255, 255⟩
      let iCheck2 := packetDstCheck dstAddr ⟨10, 5, 51, 12⟩ ⟨255, 255, 255, 255⟩
      if iCheck || iCheck2 then
        if iCheck then .local c.secondRouter1Port else .local c.secondRouter2Port
      else .local c.secondRouter1Port

/-- The action for an ICMP flow inside the network: stage 4 drops one address. -/
def Config.icmpAction (c : Config) (dstAddr : UInt32) : UInt8 :=
  match c.stage with
  | .s4 => if packetDstCheck dstAddr ⟨10, 5, 51, 4⟩ ⟨255, 255, 255, 255⟩ then 3 else 2
  | _ => 2

/-- The port a TCP packet goes to; `none` where the source leaves it unset. -/
def Config.tcpTarget (c : Config) (isAuthenticated : Bool) (buffer : Packet) :
    Option UInt16 :=
  let iPortNum := tcpUnpack buffer
  match c.stage with
  | .s4 | .s5 => none
  | .s6 =>
      if iPortNum = 80 then some c.secondRouter1Port
      else if iPortNum = 443 then some c.secondRouter2Port
      else none
  | .s7 =>
      if iPortNum = 80 then some c.secondRouter1Port
      else if iPortNum = 443 then some c.secondRouter1Port
      else none
  | .s9 =>
      if iPortNum = 80 then
        if isAuthenticated then some c.secondRouter1Port else some c.secondRouter3Port
      else if iPortNum = 443 then some c.secondRouter2Port
      else none
  | .s10 =>
      if iPortNum = 80 ∨ iPortNum = 443 then
        if tcpUnpackSrc buffer &&& 1 = 0 then some c.secondRouter2Port
        else some c.secondRouter1Port
      else none

/-- `flowCheck`: stage 9 calls the version with an output argument on the tunnel
and the socket, and does not read the output. -/
def Config.flowCheck (c : Config) (T : FlowTable) (entry : FlowEntry) : String :=
  match c.stage with
  | .s9 => (T.flowCheckOut entry entry).1
  | _ => T.flowCheck entry

namespace Primary

/-- The message for the primary's own table, of which nothing is sent. -/
def localMsg (s : Primary) (st : Stack) (buffer : Packet) (targetAddr : SockAddr) :
    OctaneControl :=
  (s.router.createOctaneMsg st buffer 1 (ntohs targetAddr.sinPort) false).2.1

/-- One control message for the flow of `buffer`. -/
def dispatchOne (s : Primary) (st : Stack) (buffer : Packet) (clock : ℕ → Timeval)
    (action : UInt8) (addr : SockAddr) : Option Primary :=
  let (router, msg1, iSeqno) := s.router.createOctaneMsg st buffer action 0xFFFF true
  { s with router := router }.dispatch clock [⟨msg1, iSeqno, addr⟩]

/-- The forward and reverse control messages for the flow of `buffer`. -/
def dispatchPair (s : Primary) (st : Stack) (buffer : Packet) (clock : ℕ → Timeval)
    (addr : SockAddr) : Option Primary :=
  let (router, msg1, iSeqno1) := s.router.createOctaneMsg st buffer 1 0 true
  let (router, msg1_re, iSeqno2) :=
    router.createReverseOctaneMsg msg1 (UInt16.ofInt router.iPortNum) true
  { s with router := router }.dispatch clock
    [⟨msg1, iSeqno1, addr⟩, ⟨msg1_re, iSeqno2, addr⟩]

/-- The four control messages of a chain through both secondaries, in stage 7. -/
def dispatchChain (c : Config) (s : Primary) (st : Stack) (buffer : Packet)
    (clock : ℕ → Timeval) (targetAddr : SockAddr) : Option Primary :=
  let targetAddr2 := SockAddr.local c.secondRouter2Port
  let (router, msg1, iSeqno1) :=
    s.router.createOctaneMsg st buffer 1 (ntohs c.secondRouter2Port) true
  let (router, msg1_re, iSeqno2) :=
    router.createReverseOctaneMsg msg1 (UInt16.ofInt router.iPortNum) true
  let (router, msg2, iSeqno3) := router.createOctaneMsg st buffer 1 0 true
  let (router, msg2_re, iSeqno4) :=
    router.createReverseOctaneMsg msg2 (ntohs c.secondRouter1Port) true
  { s with router := router }.dispatch clock
    [⟨msg1, iSeqno1, targetAddr⟩, ⟨msg1_re, iSeqno2, targetAddr⟩,
      ⟨msg2, iSeqno3, targetAddr2⟩, ⟨msg2_re, iSeqno4, targetAddr2⟩]

/-- The second `flowCheck` of a new flow; stage 4 has none. -/
def logInstalled (c : Config) (s : Primary) (entry : FlowEntry) : Primary :=
  match c.stage with
  | .s4 => s
  | _ => s.logHit (s.router.rouFlowTable.flowCheck entry)

/-- A new ICMP flow: a rule for the primary and messages for a secondary. The
address that is tested is in `dstAddr`, which nothing has written. -/
def icmpMiss (c : Config) (s : Primary) (st : Stack) (buffer : Packet)
    (clock : ℕ → Timeval) (targetAddr : SockAddr) : Option Primary :=
  let s := s.dbInsert (s.localMsg st buffer targetAddr) 65535
  let sent :=
    if packetInNet st.dstAddr then
      s.dispatchOne st buffer clock (c.icmpAction st.dstAddr) targetAddr
    else s.dispatchPair st buffer clock c.rou2Addr
  sent.map fun s => s.logInstalled c (FlowEntry.ofBuffer st buffer)

/-- An ICMP packet from the tunnel. Stage 4 prints a hit but does not log it. -/
def icmpFromTunnel (c : Config) (s : Primary) (st : Stack) (buffer : Packet)
    (clock : ℕ → Timeval) (sCheck : String) : Option Primary :=
  let targetAddr := c.icmpTarget st.dstAddr
  let handled :=
    if sCheck ≠ "" then some (if c.stage = .s4 then s else s.logHit sCheck)
    else s.icmpMiss c st buffer clock targetAddr
  handled.map fun s => s.send (.data targetAddr buffer)

/-- The control messages of a new TCP flow. -/
def tcpDispatch (c : Config) (s : Primary) (st : Stack) (buffer : Packet)
    (clock : ℕ → Timeval) (targetAddr : SockAddr) : Option Primary :=
  if c.stage = .s7 ∧ tcpUnpack buffer = 443 then s.dispatchChain c st buffer clock targetAddr
  else s.dispatchPair st buffer clock targetAddr

/-- Stage 9 remembers the last HTTP flow seen before the authentication. -/
def rememberAuth (c : Config) (s : Primary) (buffer : Packet) (localMsg : OctaneControl) :
    Primary :=
  if c.stage = .s9 ∧ tcpUnpack buffer = 80 ∧ s.isAuthenticated = false then
    { s with
      authOctMsg := localMsg
      authOctMsgRev := (s.router.createReverseOctaneMsg localMsg
        (UInt16.ofInt s.router.iPortNum) false).2.1 }
  else s

/-- A new TCP flow to port 80 or 443. -/
def tcpMiss (c : Config) (s : Primary) (st : Stack) (buffer : Packet)
    (clock : ℕ → Timeval) (targetAddr : SockAddr) : Option Primary :=
  let localMsg := s.localMsg st buffer targetAddr
  ((s.dbInsert localMsg 65535).tcpDispatch c st buffer clock targetAddr).map fun s =>
    (s.logInstalled c (FlowEntry.ofBuffer st buffer)).rememberAuth c buffer localMsg

/-- Nothing was handled that keeps the loop alive. -/
def clearRefresh (s : Primary) : Primary := { s with bRefreshTimeout := false }

/-- The log, or the rules and messages, for a TCP packet from the tunnel. -/
def tcpHandle (c : Config) (s : Primary) (st : Stack) (buffer : Packet) (clock : ℕ → Timeval)
    (sCheck : String) (targetAddr : SockAddr) : Option Primary :=
  if sCheck ≠ "" then some (s.logHit sCheck)
  else if tcpUnpack buffer = 80 ∨ tcpUnpack buffer = 443 then
    s.tcpMiss c st buffer clock targetAddr
  else some s.clearRefresh

/-- A TCP packet from the tunnel. A packet to another port is sent to whatever
port the target address holds. -/
def tcpFromTunnel (c : Config) (s : Primary) (st : Stack) (buffer : Packet)
    (clock : ℕ → Timeval) (sCheck : String) : Option Primary :=
  let port := c.tcpTarget s.isAuthenticated buffer
  let targetAddr := SockAddr.local (port.getD st.targetPort)
  let s := if port = none then s.clearRefresh else s
  (s.tcpHandle c st buffer clock sCheck targetAddr).map fun s =>
    s.send (.data targetAddr buffer)

/-- A packet from the tunnel. -/
def fromTunnel (c : Config) (s : Primary) (st : Stack) (buffer : Packet)
    (clock : ℕ → Timeval) : Option Primary :=
  let sCheck := c.flowCheck s.router.rouFlowTable (FlowEntry.ofBuffer st buffer)
  let (router, a) :=
    s.router.icmpForwardLog st buffer .fromTunnel (ntohs c.rou2Addr.sinPort).toNat
  let s := { s with bRefreshTimeout := true, router := router }
  if a = 1 then s.icmpFromTunnel c st buffer clock sCheck
  else if a = 6 ∧ c.stage.tcp then s.tcpFromTunnel c st buffer clock sCheck
  else some s.clearRefresh

/-- An action-5 message in stage 9: the rules of the last unauthenticated flow
are removed, and the flow that the message names is installed and handed to the
first secondary, without timers. -/
def authenticate (c : Config) (s : Primary) (octMsg : OctaneControl) : Primary :=
  let octMsg := { octMsg with octaneSourceIp := htonl octMsg.octaneSourceIp, octaneAction := 1 }
  let table := (s.router.rouFlowTable.remove s.authOctMsg).1
  let table := (table.remove s.authOctMsgRev).1
  let s := { s with
    router := { s.router with rouFlowTable := table }
    isAuthenticated := true }
  let s := s.dbInsert octMsg 0
  let octMsg := { octMsg with octanePort := 0 }
  let octMsgRev := (s.router.createReverseOctaneMsg octMsg
    (UInt16.ofInt s.router.iPortNum) false).2.1
  let rou2Addr := SockAddr.local c.secondRouter1Port
  (s.send (.control rou2Addr octMsg)).send (.control rou2Addr octMsgRev)

/-- A control message on the socket. -/
def octaneFromSocket (c : Config) (s : Primary) (octMsg : OctaneControl) : Primary :=
  let s := if octMsg.octaneFlags = 1 then s.acknowledge octMsg.octaneSeqno.toNat else s
  if c.stage = .s9 ∧ octMsg.octaneAction = 5 then s.authenticate c octMsg else s

/-- A datagram on the socket, sent from port `iPort`. Stage 4 prints a hit but
does not log it. -/
def fromSocket (c : Config) (s : Primary) (st : Stack) (buffer : Packet) (iPort : ℤ) :
    Primary :=
  let sCheck := c.flowCheck s.router.rouFlowTable (FlowEntry.ofBuffer st buffer)
  let (router, iIcmpProtocol) := s.router.icmpForwardLog st buffer .fromUdp iPort
  let s := { s with bRefreshTimeout := true, router := router }
  let s := if c.stage = .s4 then s else s.logHit sCheck
  if iIcmpProtocol = 1 ∨ iIcmpProtocol = 6 ∧ c.stage.tcp then s.send (.tunnel buffer)
  else if iIcmpProtocol = octaneProtocolNum then s.octaneFromSocket c buffer.octane
  else s.clearRefresh

/-- `ExecuteNextTimer`. -/
def executeNextTimer (s : Primary) (now : Timeval) : Option Primary :=
  (s.timersManager.executeNextTimer now).map fun (T, cb) =>
    { s with timersManager := T }.send cb.expire

end Primary

/-- What a loop reacts to. -/
inductive PrimEvent
  | tunnel (st : Stack) (buffer : Packet) (clock : ℕ → Timeval)
  | socket (st : Stack) (buffer : Packet) (iPort : ℤ)
  | expire (now : Timeval)

/-- One reaction of the loop. -/
def primStep (c : Config) (s : Primary) : PrimEvent → Option Primary
  | .tunnel st buffer clock => s.fromTunnel c st buffer clock
  | .socket st buffer iPort => some (s.fromSocket c st buffer iPort)
  | .expire now => s.executeNextTimer now
