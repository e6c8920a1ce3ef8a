import SimpleSDN.Network.Build
import SimpleSDN.Secondary.Loop

/-!
# The loop of a secondary router in stages 4 and 5

Until stage 6 a secondary router handles ICMP packets itself and uses the flow table
for its log only. `IcmpSecond` is the state of its loop and `icmpSecondStep` one
iteration. The loop is meant to end when nothing has come for 15 seconds. It ends as
well when an ICMP packet from the primary router is not an echo request, and a
control message of a wrong length is copied past its variable; every other packet
leaves it running (`IcmpSecond.goesOn_iff`).
-/

inductive IcmpStage
  | s4
  | s5

/-- The loop of `secondRouter_s4` or `secondRouter_s5` between two iterations, with what it
has sent. -/
structure IcmpSecond where
  router : CRouter
  rou1Addr : SockAddr
  oriSrcAddr : UInt32
  timeout : Timeval
  bRefreshTimeout : Bool
  running : Bool
  sent : List SecondOut

/-- A datagram on the UDP socket. `memory` and `octMsg` are what the array and the message
hold before, and `srcAddr`, `dstAddr` and `icmpType` the variables for `icmpUnpack`. -/
structure UdpInput where
  st : Stack
  memory : Buffer
  octMsg : Buffer
  srcAddr : UInt32
  dstAddr : UInt32
  icmpType : UInt8
  datagram : List UInt8
  rou1Addr : SockAddr

/-- The array of a datagram. -/
def UdpInput.buffer (input : UdpInput) : Buffer := (recvMsg input.memory input.datagram).1

/-- A packet on the raw socket, with what the array holds before. -/
structure RawInput where
  st : Stack
  memory : Buffer
  packet : List UInt8
  iPort : ℤ

/-- What `select` returns: its time is over, or there is input. -/
inductive SecondSelected
  | timeout
  | ready (remaining : Timeval) (udp : Option UdpInput) (raw : Option RawInput)

/-- `getIcmpType`; -1 is converted to `u_int8_t`. -/
def getIcmpType (buffer : Packet) : UInt8 := if buffer.ipP ≠ 1 then 255 else buffer.icmpType

namespace IcmpSecond

/-- The loop before the first iteration. `rou1Addr` and `oriSrcAddr` are uninitialised. -/
def start (stage : IcmpStage) (Router : CRouter) (rou1Addr : SockAddr) (oriSrcAddr : UInt32) :
    IcmpSecond where
  router := match stage with
    | .s4 => Router
    | .s5 =>
        let (table, line) := Router.rouFlowTable.defaultInsert
        { Router with rouFlowTable := table }.pushLog line
  rou1Addr := rou1Addr
  oriSrcAddr := oriSrcAddr
  timeout := ⟨15, 0⟩
  bRefreshTimeout := true
  running := true
  sent := []

/-- Stage 5 logs a rule that is hit; stage 4 only prints it. -/
def logHit (stage : IcmpStage) (s : IcmpSecond) (sCheck : String) : IcmpSecond :=
  match stage with
  | .s4 => s
  | .s5 => if sCheck ≠ "" then { s with router := s.router.pushLog sCheck } else s

/-- An ICMP packet in a datagram. What is not an echo request ends the loop. -/
def icmp (stage : IcmpStage) (s : IcmpSecond) (buffer : Buffer) (srcAddr dstAddr : UInt32)
    (sCheck : String) : IcmpSecond :=
  if getIcmpType buffer.packet ≠ 8 then { s with running := false }
  else
    let s :=
      if packetDstCheck dstAddr ⟨10, 5, 51, 0⟩ ⟨255, 255, 255, 0⟩ then
        { s with sent := s.sent ++ sendMsg buffer.icmpReplyEdit 2048 s.rou1Addr }
      else { s with oriSrcAddr := srcAddr, sent := s.sent ++ buffer.icmpForward }
    s.logHit stage sCheck

/-- A control message in a datagram. -/
def control (s : IcmpSecond) (octMsg buffer : Buffer) : Option IcmpSecond :=
  (octMsg.octaneUnpackInto buffer).map fun octMsg =>
    let (router, ack) := s.router.receiveControl octMsg
    { s with
      router := router
      sent := s.sent ++
        if ack.isSome then sendMsg buffer.octaneReplyEdit 2048 s.rou1Addr else [] }

/-- A datagram. -/
def readUdp (stage : IcmpStage) (s : IcmpSecond) (input : UdpInput) : Option IcmpSecond :=
  let buffer := input.buffer
  let sCheck := s.router.rouFlowTable.flowCheck (FlowEntry.ofBuffer input.st buffer.packet)
  let (router, _) := s.router.icmpForwardLog input.st buffer.packet .fromUdp
    (ntohs input.rou1Addr.sinPort).toNat
  let s := { s with bRefreshTimeout := true, rou1Addr := input.rou1Addr, router := router }
  let unpacked := icmpUnpack input.srcAddr input.dstAddr input.icmpType buffer.packet
  if unpacked.protocol = 1 then
    some (s.icmp stage buffer unpacked.srcAddr unpacked.dstAddr sCheck)
  else if unpacked.protocol = octaneProtocolNum then s.control input.octMsg buffer
  else some { s with bRefreshTimeout := false }

/-- A packet on the raw socket, of which only echo replies are passed on. -/
def readRaw (stage : IcmpStage) (s : IcmpSecond) (input : RawInput) : IcmpSecond :=
  let buffer2 := Second.icmpBuffer input.memory input.packet
  let s := { s with bRefreshTimeout := true }
  if getIcmpType buffer2.packet = 0 then
    let (router, _) := s.router.icmpForwardLog input.st buffer2.packet .fromRawSock input.iPort
    let s := { s with router := router }
    let buffer2 := buffer2.icmpReplyEditFromRawSock s.oriSrcAddr
    let sCheck := s.router.rouFlowTable.flowCheck (FlowEntry.ofBuffer input.st buffer2.packet)
    let s := s.logHit stage sCheck
    { s with sent := s.sent ++ sendMsg buffer2 2048 s.rou1Addr }
  else { s with bRefreshTimeout := false }

/-- The time for the next `select`. -/
def refresh (s : IcmpSecond) (remaining : Timeval) : IcmpSecond :=
  { s with timeout := if s.bRefreshTimeout then ⟨15, 0⟩ else remaining }

end IcmpSecond

/-- One iteration of the loop. A `return` on a datagram leaves the raw socket unread. -/
def icmpSecondStep (stage : IcmpStage) (s : IcmpSecond) : SecondSelected → Option IcmpSecond
  | .timeout => if s.running then some { s with running := false } else none
  | .ready remaining udp raw =>
      if s.running then
        (udp.elim (some s) (s.readUdp stage)).map fun s =>
          if s.running then (raw.elim s (s.readRaw stage)).refresh remaining else s
      else none

/-- The datagram does not end the loop: an ICMP packet in it is an echo request, and a
control message is not longer than its variable. -/
structure UdpInput.Harmless (input : UdpInput) : Prop where
  icmp : input.buffer.ipP = 1 → input.buffer.packet.icmpType = 8
  control : input.buffer.ipP = octaneProtocolNum →
    0 ≤ input.buffer.iOctaneTotLen ∧ input.buffer.iOctaneTotLen ≤ 20

/-- The datagram that is read, if there is one, does not end the loop. -/
def SecondSelected.Harmless : SecondSelected → Prop
  | .timeout => True
  | .ready _ udp _ => ∀ input ∈ udp, input.Harmless

namespace IcmpSecond

variable {stage : IcmpStage} {s s' : IcmpSecond}

/-- When there is input, the iteration is defined and the loop goes on after it. -/
def GoesOn (stage : IcmpStage) (s : IcmpSecond) (e : SecondSelected) : Prop :=
  s.running = true → e ≠ .timeout →
    ∃ s', icmpSecondStep stage s e = some s' ∧ s'.running = true

@[simp] theorem running_logHit (sCheck : String) : (s.logHit stage sCheck).running = s.running := by
  unfold logHit
  cases stage with
  | s4 => rfl
  | s5 =>
      dsimp only
      split_ifs <;> rfl

@[simp] theorem running_refresh (remaining : Timeval) :
    (s.refresh remaining).running = s.running := rfl

@[simp] theorem running_readRaw (input : RawInput) :
    (s.readRaw stage input).running = s.running := by
  unfold readRaw
  dsimp only
  split_ifs
  · exact running_logHit _
  · rfl

theorem running_icmp (buffer : Buffer) (srcAddr dstAddr : UInt32) (sCheck : String)
    (h : s.running = true) :
    (s.icmp stage buffer srcAddr dstAddr sCheck).running = true ↔
      getIcmpType buffer.packet = 8 := by
  unfold icmp
  split_ifs with htype
  · exact iff_of_false id htype
  all_goals
    rw [running_logHit]
    exact iff_of_true h (not_not.1 htype)

theorem control_iff (octMsg buffer : Buffer) (h : s.running = true) :
    (∃ s', s.control octMsg buffer = some s' ∧ s'.running = true) ↔
      0 ≤ buffer.iOctaneTotLen ∧ buffer.iOctaneTotLen ≤ 20 := by
  unfold control Buffer.octaneUnpackInto
  split_ifs with hlen
  · exact iff_of_true ⟨_, rfl, h⟩ hlen
  · exact iff_of_false (fun ⟨_, hnone, _⟩ => Option.some_ne_none _ hnone.symm) hlen

/-- The step lemma: what a datagram must be for the loop to go on. -/
theorem readUdp_iff (input : UdpInput) (h : s.running = true) :
    (∃ s', s.readUdp stage input = some s' ∧ s'.running = true) ↔ input.Harmless := by
  have hother : input.buffer.packet.ipP = input.buffer.ipP := rfl
  unfold readUdp
  simp only [icmpUnpack_protocol, hother]
  split_ifs with hicmp hcontrol
  · have hne : input.buffer.ipP ≠ octaneProtocolNum := by
      rw [hicmp]
      decide
    have htype : getIcmpType input.buffer.packet = input.buffer.packet.icmpType :=
      if_neg (not_not_intro hicmp)
    simp only [Option.some.injEq, exists_eq_left']
    rw [running_icmp _ _ _ _ (by exact h), htype]
    exact ⟨fun h8 => ⟨fun _ => h8, fun h' => absurd h' hne⟩, fun h' => h'.icmp hicmp⟩
  · rw [control_iff _ _ (by exact h)]
    exact ⟨fun hle => ⟨fun h' => absurd h' hicmp, fun _ => hle⟩, fun h' => h'.control hcontrol⟩
  · exact iff_of_true ⟨_, rfl, h⟩ ⟨fun h' => absurd h' hicmp, fun h' => absurd h' hcontrol⟩

theorem icmpSecondStep_ready (h : s.running = true) (remaining : Timeval)
    (udp : Option UdpInput) (raw : Option RawInput) :
    icmpSecondStep stage s (.ready remaining udp raw) =
      (udp.elim (some s) (s.readUdp stage)).map fun s =>
        if s.running then (raw.elim s (s.readRaw stage)).refresh remaining else s :=
  if_pos h

/-- One iteration goes on exactly when its datagram does not end the loop. -/
theorem goesOn_step_iff (e : SecondSelected) :
    GoesOn stage s e ↔ (s.running = true → e.Harmless) := by
  unfold GoesOn
  refine forall_congr' fun hrunning => ?_
  cases e with
  | timeout => exact iff_of_true (fun h => absurd rfl h) trivial
  | ready remaining udp raw =>
      have hready : SecondSelected.ready remaining udp raw ≠ .timeout := SecondSelected.noConfusion
      rw [forall_prop_of_true hready]
      -- neither the raw socket nor the timeout matters
      have hrest : (∃ s', icmpSecondStep stage s (.ready remaining udp raw) = some s' ∧
          s'.running = true) ↔ ∃ s₁, udp.elim (some s) (s.readUdp stage) = some s₁ ∧
            s₁.running = true := by
        rw [icmpSecondStep_ready hrunning]
        constructor
        · rintro ⟨s', hs', hrun⟩
          obtain ⟨s₁, hs₁, rfl⟩ := Option.map_eq_some_iff.1 hs'
          split_ifs at hrun with hrun₁
          · exact ⟨s₁, hs₁, hrun₁⟩
          · exact absurd hrun hrun₁
        · rintro ⟨s₁, hs₁, hrun₁⟩
          rw [hs₁, Option.map_some, if_pos hrun₁]
          refine ⟨_, rfl, ?_⟩
          cases raw with
          | none => exact hrun₁
          | some input =>
              rw [Option.elim_some, running_refresh, running_readRaw]
              exact hrun₁
      rw [hrest]
      cases udp with
      | none => exact iff_of_true ⟨s, rfl, hrunning⟩ (by simp [SecondSelected.Harmless])
      | some input =>
          rw [Option.elim_some, readUdp_iff input hrunning]
          simp [SecondSelected.Harmless]

/-- An echo reply from a host behind the tunnel. -/
def sampleReply : UdpInput :=
  ⟨default, .zero, .zero, 0, 0, 0, [0x45, 0, 0, 28, 0, 0, 0, 0, 64, 1, 0, 0, 10, 0, 2, 15,
    10, 5, 51, 4, 0, 0, 0, 0, 0, 1, 0, 1], .local 0⟩

end IcmpSecond
