import SimpleSDN.Relay.Echo
import SimpleSDN.Router.Messages
import SimpleSDN.Secondary.Idle

/-!
# The loops of stages 2 and 3

`relayPrimaryStep` is one iteration of `primaryRouter_s2` and `relaySecondStep` one of
`secondRouter_s2`, which both stages use; in stage 3 the secondary router has a raw
socket and forwards the packets for other networks. A packet that is not ICMP ends the
iteration with `continue`: what waits at the other socket is left for the next one, and
the time is not set again. `RelaySystem` puts the two routers together; a datagram that
is read is one that the other router has sent, at any time and as often as one likes.
-/

inductive RelayStage
  | s2
  | s3

/-- A packet from the tunnel. -/
structure RelayTunnel where
  st : Stack
  packet : List UInt8

/-- A datagram for the primary router. -/
structure RelaySocket where
  st : Stack
  datagram : List UInt8
  iPort : ℤ

/-- A datagram for the secondary router, with what its array holds before. -/
structure RelayUdp where
  st : Stack
  memory : Buffer
  datagram : List UInt8
  rou1Addr : SockAddr

/-- What `select` returns in `primaryRouter_s2`. -/
inductive RelayPrimarySelected
  | timeout
  | ready (remaining : Timeval) (tunnel : Option RelayTunnel) (socket : Option RelaySocket)

/-- What `select` returns in `secondRouter_s2`. -/
inductive RelaySecondSelected
  | timeout
  | ready (remaining : Timeval) (udp : Option RelayUdp) (raw : Option RawInput)

/-- The loop of `primaryRouter_s2` between two iterations, with the packets it has read
from the tunnel, the datagrams it has sent and the packets it has written. -/
structure RelayPrimary where
  router : CRouter
  timeout : Timeval
  running : Bool
  read : List (List UInt8)
  sent : List (List UInt8)
  written : List (List UInt8)

/-- The loop of `secondRouter_s2` between two iterations, with what it has sent. `forwarded`
are the sources of the packets handed to the raw socket, the last one first, and `replies`
the echo replies from there, each with the first of these sources at its time. -/
structure RelaySecond where
  router : CRouter
  rou1Addr : SockAddr
  oriSrcAddr : UInt32
  timeout : Timeval
  running : Bool
  sent : List SecondOut
  forwarded : List UInt32
  replies : List (List UInt8 × Option UInt32)

/-- The packet in the buffer of the primary router. -/
def RelayTunnel.bytes (input : RelayTunnel) : List UInt8 := input.packet.take 2048

/-- The array of a datagram. -/
def RelayUdp.buffer (input : RelayUdp) : Buffer := (recvMsg input.memory input.datagram).1

namespace RelayPrimary

/-- The loop before the first iteration. -/
def start (Router : CRouter) : RelayPrimary := ⟨Router, ⟨15, 0⟩, true, [], [], []⟩

/-- A packet from the tunnel. -/
def readTunnel (s : RelayPrimary) (input : RelayTunnel) : RelayPrimary :=
  let (router, _) :=
    s.router.icmpForwardLog input.st (Buffer.ofList input.bytes).packet .fromTunnel 0
  { s with
    router := router
    read := input.bytes :: s.read
    sent := (fromTunnelS2 input.bytes).toList ++ s.sent }

/-- A datagram, which is written to the tunnel. -/
def readSocket (s : RelayPrimary) (input : RelaySocket) : RelayPrimary :=
  let (router, _) := s.router.icmpForwardLog input.st
    (recvMsg Buffer.zero input.datagram).1.packet .fromUdp input.iPort
  { s with router := router, written := fromSocketS2 input.datagram :: s.written }

end RelayPrimary

/-- One iteration of the loop of `primaryRouter_s2`. -/
def relayPrimaryStep (s : RelayPrimary) : RelayPrimarySelected → Option RelayPrimary
  | .timeout => if s.running then some { s with running := false } else none
  | .ready remaining tunnel socket =>
      if s.running then
        let s := tunnel.elim s s.readTunnel
        if ∃ input ∈ tunnel, (Buffer.ofList input.bytes).ipP ≠ 1 then
          some { s with timeout := remaining }
        else some { socket.elim s s.readSocket with timeout := ⟨15, 0⟩ }
      else none

namespace RelaySecond

/-- The loop before the first iteration; the addresses are uninitialised. -/
def start (Router : CRouter) (rou1Addr : SockAddr) (oriSrcAddr : UInt32) : RelaySecond :=
  ⟨Router, rou1Addr, oriSrcAddr, ⟨15, 0⟩, true, [], [], []⟩

/-- An ICMP packet in a datagram: it is answered in the network of the router, and in
stage 3 forwarded outside of it. -/
def icmp (stage : RelayStage) (s : RelaySecond) (buffer : Buffer) : RelaySecond :=
  if packetDstCheck buffer.ipDst ⟨10, 5, 51, 0⟩ ⟨255, 255, 255, 0⟩ then
    { s with sent := s.sent ++ sendMsg buffer.icmpReplyEdit 2048 s.rou1Addr }
  else
    match stage with
    | .s2 => s
    | .s3 => { s with
        oriSrcAddr := buffer.ipSrc
        sent := s.sent ++ buffer.icmpForward
        forwarded := buffer.ipSrc :: s.forwarded }

/-- A datagram. -/
def readUdp (stage : RelayStage) (s : RelaySecond) (input : RelayUdp) : RelaySecond :=
  let buffer := input.buffer
  let (router, _) := s.router.icmpForwardLog input.st buffer.packet .fromUdp
    (ntohs input.rou1Addr.sinPort).toNat
  let s := { s with router := router, rou1Addr := input.rou1Addr }
  if buffer.ipP ≠ 1 then s else s.icmp stage buffer

/-- A packet on the raw socket, of which only echo replies are passed on. -/
def readRaw (s : RelaySecond) (input : RawInput) : RelaySecond :=
  let buffer2 := Second.icmpBuffer input.memory input.packet
  if getIcmpType buffer2.packet = 0 then
    let (router, _) := s.router.icmpForwardLog input.st buffer2.packet .fromRawSock input.iPort
    { s with
      router := router
      sent := s.sent ++
        sendMsg (buffer2.icmpReplyEditFromRawSock s.oriSrcAddr) 2048 s.rou1Addr
      replies := (input.packet, s.forwarded.head?) :: s.replies }
  else s

variable {stage : RelayStage} {s : RelaySecond}

theorem running_readUdp (input : RelayUdp) :
    (s.readUdp stage input).running = s.running := by
  unfold readUdp icmp
  dsimp only
  split_ifs
  · rfl
  · rfl
  · cases stage <;> rfl

theorem running_readRaw (input : RawInput) : (s.readRaw input).running = s.running := by
  unfold readRaw
  dsimp only
  split_ifs <;> rfl

end RelaySecond

/-- One iteration of the loop of `secondRouter_s2`. In stage 2 there is no raw socket. -/
def relaySecondStep (stage : RelayStage) (s : RelaySecond) :
    RelaySecondSelected → Option RelaySecond
  | .timeout => if s.running then some { s with running := false } else none
  | .ready remaining udp raw =>
      if s.running then
        let s := udp.elim s (s.readUdp stage)
        if ∃ input ∈ udp, input.buffer.ipP ≠ 1 then some { s with timeout := remaining }
        else
          match stage, raw with
          | .s3, some input => some { s.readRaw input with
              timeout := if input.Handled then ⟨15, 0⟩ else remaining }
          | _, _ => some { s with timeout := ⟨15, 0⟩ }
      else none

/-- The two routers. -/
structure RelaySystem where
  primary : RelayPrimary
  second : RelaySecond

inductive RelaySystemEvent
  | primary (e : RelayPrimarySelected)
  | second (e : RelaySecondSelected)

deriving instance DecidableEq for SecondOut

/-- The datagram that is read is one that has been sent to the primary router. -/
def RelayPrimarySelected.From (rou1Addr : SockAddr) (sent : List SecondOut) :
    RelayPrimarySelected → Prop
  | .timeout => True
  | .ready _ _ socket => ∀ input ∈ socket, SecondOut.udp rou1Addr input.datagram ∈ sent

/-- The datagram that is read is one that the primary router has sent. -/
def RelaySecondSelected.From (rou1Addr : SockAddr) (sent : List (List UInt8)) :
    RelaySecondSelected → Prop
  | .timeout => True
  | .ready _ udp _ => ∀ input ∈ udp, input.datagram ∈ sent ∧ input.rou1Addr = rou1Addr

instance (rou1Addr : SockAddr) (sent : List SecondOut) :
    (e : RelayPrimarySelected) → Decidable (e.From rou1Addr sent)
  | .timeout => .isTrue trivial
  | .ready _ _ _ => inferInstanceAs (Decidable (∀ _ ∈ _, _ ∈ _))

instance (rou1Addr : SockAddr) (sent : List (List UInt8)) :
    (e : RelaySecondSelected) → Decidable (e.From rou1Addr sent)
  | .timeout => .isTrue trivial
  | .ready _ _ _ => inferInstanceAs (Decidable (∀ _ ∈ _, _ ∈ _ ∧ _ = _))

/-- An iteration of one of the two routers. -/
def relaySystemStep (stage : RelayStage) (rou1Addr : SockAddr) (s : RelaySystem) :
    RelaySystemEvent → Option RelaySystem
  | .primary e =>
      if e.From rou1Addr s.second.sent then
        (relayPrimaryStep s.primary e).map fun primary => { s with primary := primary }
      else none
  | .second e =>
      if e.From rou1Addr s.primary.sent then
        (relaySecondStep stage s.second e).map fun second => { s with second := second }
      else none
