import SimpleSDN.Router.State

/-!
# Control messages made by the primary router

`createOctaneMsg` and `createReverseOctaneMsg` fill in a control message and
return the counter as it was. A message that is truly sent takes its sequence
number from the counter, which is a `uint16_t`.
-/

/-- Where a packet that is logged came from. -/
inductive LogFlag
  | fromTunnel
  | fromUdp
  | fromRawSock

namespace CRouter

/-- The sequence number of a new message. -/
def newSeqno (Router : CRouter) (truelySend : Bool) : UInt16 :=
  if truelySend then Router.iSeqnoCnt else 0

/-- The counter after a new message. -/
def countSeqno (Router : CRouter) (truelySend : Bool) : CRouter :=
  if truelySend then { Router with iSeqnoCnt := Router.iSeqnoCnt + 1 } else Router

/-- `cRouter::createOctaneMsg`. -/
def createOctaneMsg (Router : CRouter) (st : Stack) (buffer : Packet) (octaneAction : UInt8)
    (sTargetPort : UInt16) (truelySend : Bool) : CRouter × OctaneControl × ℤ :=
  (Router.countSeqno truelySend,
    { octaneAction := octaneAction
      octaneFlags := 0
      octaneSeqno := Router.newSeqno truelySend
      octaneSourceIp := (ipUnpack st buffer).srcAddr
      octaneDestIp := (ipUnpack st buffer).dstAddr
      octaneSourcePort := (ipUnpack st buffer).srcPort
      octaneDestPort := (ipUnpack st buffer).dstPort
      octaneProtocol := (ipUnpack st buffer).ipType.toUInt16
      octanePort := sTargetPort },
    Router.iSeqnoCnt.toNat)

/-- `cRouter::createReverseOctaneMsg`. Its test of `sTargetPort` against -1
compares a promoted `uint16_t` and is never true. -/
def createReverseOctaneMsg (Router : CRouter) (oriMsg : OctaneControl)
    (sTargetPort : UInt16) (truelySend : Bool) : CRouter × OctaneControl × ℤ :=
  (Router.countSeqno truelySend,
    { octaneAction := oriMsg.octaneAction
      octaneFlags := 0
      octaneSeqno := Router.newSeqno truelySend
      octaneSourceIp := oriMsg.octaneDestIp
      octaneDestIp := oriMsg.octaneSourceIp
      octaneSourcePort := oriMsg.octaneDestPort
      octaneDestPort := oriMsg.octaneSourcePort
      octaneProtocol := oriMsg.octaneProtocol
      octanePort := if (sTargetPort.toNat : ℤ) = -1 then oriMsg.octanePort else sTargetPort },
    Router.iSeqnoCnt.toNat)

/-- `icmpForward_log`, with the protocol that `icmpUnpack` returns. -/
def icmpForwardLog (Router : CRouter) (st : Stack) (buffer : Packet) (flag : LogFlag)
    (iPort : ℤ) : CRouter × UInt8 :=
  if buffer.ipP = 1 then
    let origin := match flag with
      | .fromTunnel => "ICMP from tunnel"
      | .fromUdp => "ICMP from port : " ++ toString iPort
      | .fromRawSock => "ICMP from raw sock"
    ({ Router with vLog := Router.vLog ++ [origin ++ ", src: " ++ (inetNtoa buffer.ipSrc).text ++
        ", dst : " ++ (inetNtoa buffer.ipDst).text ++ ", type : " ++ toString buffer.icmpType] },
      1)
  else if buffer.ipP = 6 ∧ Router.iStage ≥ 6 then
    let origin := match flag with
      | .fromTunnel => "TCP from tunnel, "
      | .fromUdp => "TCP from port : " ++ toString iPort ++ ","
      | .fromRawSock => "TCP from raw sock, "
    ({ Router with vLog := Router.vLog ++ [origin ++ (FlowEntry.ofBuffer st buffer).text] }, 6)
  else (Router, buffer.ipP)

@[simp] theorem icmpForwardLog_protocol (Router : CRouter) (st : Stack) (buffer : Packet)
    (flag : LogFlag) (iPort : ℤ) :
    (Router.icmpForwardLog st buffer flag iPort).2 = buffer.ipP := by
  unfold icmpForwardLog
  split_ifs with h1 h6
  · exact h1.symm
  · exact h6.1.symm
  · rfl

@[simp] theorem icmpForwardLog_rouFlowTable (Router : CRouter) (st : Stack) (buffer : Packet)
    (flag : LogFlag) (iPort : ℤ) :
    (Router.icmpForwardLog st buffer flag iPort).1.rouFlowTable = Router.rouFlowTable := by
  unfold icmpForwardLog
  split_ifs <;> rfl

end CRouter

/-- The flow of a created message is that of the packet. -/
theorem FlowEntry.ofMsg_createOctaneMsg (Router : CRouter) (st : Stack)
    (buffer : Packet) (octaneAction : UInt8) (sTargetPort : UInt16) (truelySend : Bool) :
    FlowEntry.ofMsg
        (Router.createOctaneMsg st buffer octaneAction sTargetPort truelySend).2.1 =
      FlowEntry.ofBuffer st buffer := rfl

/-- The flow of a reverse message is the reverse flow. -/
theorem FlowEntry.ofMsg_createReverseOctaneMsg (Router : CRouter)
    (oriMsg : OctaneControl) (sTargetPort : UInt16) (truelySend : Bool) :
    FlowEntry.ofMsg (Router.createReverseOctaneMsg oriMsg sTargetPort truelySend).2.1 =
      (FlowEntry.ofMsg oriMsg).reverse := rfl
