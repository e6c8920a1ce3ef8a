import SimpleSDN.Relay.Echo
import SimpleSDN.Secondary.Icmp
import SimpleSDN.System.Datagrams

/-!
# The two routers of stages 4 and 5

`Pair` puts the primary router of stage 4 or 5 together with its one secondary router and
the datagrams in flight between them, as bytes. A step is a reaction of the primary router
or an iteration of the secondary one. Datagrams may be delivered in any order, lost and
repeated; from outside come packets on the tunnel and on the raw socket.
-/

/-- The stage as the primary router has it. -/
def IcmpStage.stage : IcmpStage → Stage
  | .s4 => .s4
  | .s5 => .s5

/-- The configuration of its loop; the secondary router has the port `port`. -/
def IcmpStage.config (stage : IcmpStage) (port : UInt16) : Config :=
  ⟨stage.stage, .local port, 0, 0, 0⟩

/-- Whatever children there are, the loop starts with it. -/
theorem IcmpStage.config_start (stage : IcmpStage) (port : UInt16) (m : IntMap) :
    Config.start stage.stage (.local port) m = some (stage.config port) := by
  cases stage <;> rfl

/-- The routers and what is in flight between them, with the packets that the primary
router has read from the tunnel and those it has written, the last ones first. -/
structure Pair where
  primary : Primary
  second : IcmpSecond
  flight : List Datagram
  read : List (List UInt8)
  written : List (List UInt8)

/-- What happens; `IpHeader` is as in `Sent.datagrams`. -/
inductive PairEvent
  | tunnel (st : Stack) (packet : List UInt8) (clock : ℕ → Timeval) (IpHeader : ℕ → Buffer)
  | expire (now : Timeval) (IpHeader : ℕ → Buffer)
  | socket (st : Stack) (d : Datagram)
  | second (e : SecondSelected)
  | network (flight : List Datagram)

/-- The array that the primary router receives a datagram in. -/
def pairBuffer (d : Datagram) : Buffer := (recvMsg .zero d.bytes).1

/-- The datagram that the secondary router at `addr` reads in an iteration. -/
def SecondSelected.arrived (addr : SockAddr) : SecondSelected → Option Datagram
  | .ready _ (some input) _ => some ⟨input.rou1Addr, addr, input.datagram⟩
  | _ => none

/-- What is written to the tunnel; a packet that is written is in `bytes`. -/
def Sent.written (bytes : List UInt8) : Sent → Option (List UInt8)
  | .tunnel _ => some bytes
  | _ => none

namespace Pair

/-- No datagram is in flight when the loops start. -/
def start (primary : Primary) (second : IcmpSecond) : Pair := ⟨primary, second, [], [], []⟩

/-- A reaction of the primary router. -/
def react (c : Config) (rou1Addr : SockAddr) (s : Pair) (e : PrimEvent) (buffer : Buffer)
    (IpHeader : ℕ → Buffer) (bytes : List UInt8) : Option Pair :=
  (primStep c s.primary e).map fun primary =>
    { s with
      primary := primary
      flight := s.flight ++
        Sent.datagrams rou1Addr buffer IpHeader (primary.sent.drop s.primary.sent.length)
      written := (primary.sent.drop s.primary.sent.length).filterMap (Sent.written bytes) ++
        s.written }

/-- An iteration of the secondary router. -/
def iterate (stage : IcmpStage) (port : UInt16) (s : Pair) (e : SecondSelected) : Option Pair :=
  (icmpSecondStep stage s.second e).map fun second =>
    { s with
      second := second
      flight := s.flight ++ (second.sent.drop s.second.sent.length).filterMap
        (SecondOut.datagram (.local port)) }

end Pair

/-- One step; `none` for an event that cannot happen, and for what has no defined
behaviour. -/
def pairStep (stage : IcmpStage) (rou1Addr : SockAddr) (port : UInt16) (s : Pair) :
    PairEvent → Option Pair
  | .tunnel st packet clock IpHeader =>
      { s with read := packet.take 2048 :: s.read }.react (stage.config port) rou1Addr
        (.tunnel st (tunnelBuffer packet).packet clock) (tunnelBuffer packet) IpHeader []
  | .expire now IpHeader =>
      s.react (stage.config port) rou1Addr (.expire now) .zero IpHeader []
  | .socket st d =>
      if d ∈ s.flight ∧ d.dst = rou1Addr ∧ (pairBuffer d).Decodes then
        -- no control message is sent for what arrives here
        { s with flight := s.flight.erase d }.react (stage.config port) rou1Addr
          (.socket st (pairBuffer d).packet d.iPort) .zero (fun _ => .zero) (fromSocketS2 d.bytes)
      else none
  | .second e =>
      match e.arrived (.local port) with
      | some d =>
          if d ∈ s.flight then
            { s with flight := s.flight.erase d }.iterate stage port e
          else none
      | none => s.iterate stage port e
  | .network flight => if flight ⊆ s.flight then some { s with flight := flight } else none

/-! ### What the routers send -/

namespace IcmpSecond

variable {stage : IcmpStage} {s s' s'' : IcmpSecond}

/-- What is sent is no control message, and a datagram is of 2048 bytes. -/
def PlainOut (x : SecondOut) : Prop :=
  ¬ x.IsControl ∧ ∀ dst bytes, x = .udp dst bytes → bytes.length = 2048

/-- What is kept of control messages is left alone. -/
structure Plain (s s' : IcmpSecond) : Prop where
  sameControl : s'.router.SameControl s.router
  sent : ∃ out, s'.sent = s.sent ++ out ∧ ∀ x ∈ out, PlainOut x

theorem Plain.refl (s : IcmpSecond) : s.Plain s :=
  ⟨.refl _, [], (List.append_nil _).symm, by simp⟩

theorem Plain.trans (h : s.Plain s') (h' : s'.Plain s'') : s.Plain s'' := by
  obtain ⟨out, hsent, hout⟩ := h.sent
  obtain ⟨out', hsent', hout'⟩ := h'.sent
  refine ⟨h'.sameControl.trans h.sameControl, out ++ out', ?_, fun x hx => ?_⟩
  · rw [hsent', hsent, List.append_assoc]
  · exact (List.mem_append.1 hx).elim (hout x) (hout' x)

/-- Nothing is sent. -/
theorem plain_of_eq (hcontrol : s'.router.SameControl s.router) (hsent : s'.sent = s.sent) :
    s.Plain s' :=
  ⟨hcontrol, [], hsent.trans (List.append_nil _).symm, by simp⟩

theorem Plain.sent_grows (h : s.Plain s') : s.sent <+: s'.sent := by
  obtain ⟨out, hsent, -⟩ := h.sent
  exact ⟨out, hsent.symm⟩

theorem plain_append (s : IcmpSecond) {out : List SecondOut} (hout : ∀ x ∈ out, PlainOut x) :
    s.Plain { s with sent := s.sent ++ out } :=
  ⟨.refl _, out, rfl, hout⟩

theorem plainOut_sendMsg {b : Buffer} (hp : b.ipP ≠ octaneProtocolNum) (addr : SockAddr) :
    ∀ x ∈ sendMsg b 2048 addr, PlainOut x := by
  rw [sendMsg_of_le (by omega)]
  intro x hx
  rw [List.mem_singleton.1 hx]
  refine ⟨Buffer.ipP_bytes_ne hp, fun dst bytes h => ?_⟩
  rw [← (SecondOut.udp.inj h).2, Buffer.length_bytes]

theorem plainOut_icmpForward (b : Buffer) : ∀ x ∈ b.icmpForward, PlainOut x := by
  unfold Buffer.icmpForward sendRaw
  intro x hx
  split_ifs at hx
  · rw [List.mem_singleton.1 hx]
    exact ⟨id, fun _ _ h => SecondOut.noConfusion h⟩
  · cases hx

theorem plain_logHit (stage : IcmpStage) (s : IcmpSecond) (sCheck : String) :
    s.Plain (s.logHit stage sCheck) := by
  unfold logHit
  cases stage with
  | s4 => exact .refl s
  | s5 =>
      dsimp only
      split_ifs
      · exact plain_of_eq (CRouter.sameControl_pushLog _ _) rfl
      · exact .refl s

theorem plain_icmp (s : IcmpSecond) {buffer : Buffer} (hp : buffer.ipP = 1)
    (srcAddr dstAddr : UInt32) (sCheck : String) :
    s.Plain (s.icmp stage buffer srcAddr dstAddr sCheck) := by
  have hreply : buffer.icmpReplyEdit.ipP ≠ octaneProtocolNum := by
    rw [Buffer.icmpReplyEdit_ipP, hp]
    decide
  unfold icmp
  split_ifs
  · exact plain_of_eq (.refl _) rfl
  · exact (plain_append s (plainOut_sendMsg hreply _)).trans (plain_logHit _ _ _)
  · refine Plain.trans ?_ (plain_logHit _ _ _)
    exact ⟨.refl _, _, rfl, plainOut_icmpForward _⟩

/-- A datagram of another protocol. -/
theorem plain_readUdp {input : UdpInput} (hp : input.buffer.ipP ≠ octaneProtocolNum)
    (h : s.readUdp stage input = some s') : s.Plain s' := by
  have hlog : ∀ b : Bool, s.Plain { s with
      bRefreshTimeout := b, rou1Addr := input.rou1Addr,
      router := (s.router.icmpForwardLog input.st input.buffer.packet .fromUdp
        (ntohs input.rou1Addr.sinPort).toNat).1 } := fun b =>
    plain_of_eq (CRouter.sameControl_icmpForwardLog _ _ _ _ _) rfl
  have hother : input.buffer.packet.ipP = input.buffer.ipP := rfl
  unfold readUdp at h
  simp only [icmpUnpack_protocol, hother] at h
  split_ifs at h with hicmp
  · rw [← Option.some.inj h]
    exact (hlog true).trans (plain_icmp _ hicmp _ _ _)
  · rw [← Option.some.inj h]
    exact hlog false

theorem plain_readRaw (stage : IcmpStage) (s : IcmpSecond) (input : RawInput) :
    s.Plain (s.readRaw stage input) := by
  unfold readRaw
  dsimp only
  split_ifs with htype
  · have hp : (Second.icmpBuffer input.memory input.packet).ipP = 1 := by
      by_contra hne
      have h255 : getIcmpType (Second.icmpBuffer input.memory input.packet).packet = 255 :=
        if_pos hne
      exact absurd (h255.symm.trans htype) (by decide)
    have hreply : ((Second.icmpBuffer input.memory input.packet).icmpReplyEditFromRawSock
        s.oriSrcAddr).ipP ≠ octaneProtocolNum := by
      rw [Buffer.icmpReplyEditFromRawSock_ipP, hp]
      decide
    refine Plain.trans ?_ (plain_append _ (plainOut_sendMsg hreply _))
    refine Plain.trans ?_ (plain_logHit _ _ _)
    exact plain_of_eq (CRouter.sameControl_icmpForwardLog _ _ _ _ _) rfl
  · exact plain_of_eq (.refl _) rfl

/-- A control message is received, and acknowledged if it is not dropped. -/
structure Received (s s' : IcmpSecond) (rou1Addr : SockAddr) (m : OctaneControl) : Prop where
  sameControl : s'.router.SameControl (s.router.receiveControl m).1
  running : s'.running = s.running
  oriSrcAddr : s'.oriSrcAddr = s.oriSrcAddr
  addr : s'.rou1Addr = rou1Addr
  sent : ∃ bytes, (Buffer.ofList bytes).CarriesControl { m with octaneFlags := 1 } ∧
    bytes.length = 2048 ∧ s'.sent = s.sent ++
      if (s.router.receiveControl m).2.isSome then [.udp rou1Addr bytes] else []

theorem Received.sent_grows {rou1Addr : SockAddr} {m : OctaneControl}
    (h : s.Received s' rou1Addr m) : s.sent <+: s'.sent := by
  obtain ⟨bytes, -, -, hsent⟩ := h.sent
  exact ⟨_, hsent.symm⟩

/-- What is read of a datagram. -/
theorem recvMsg_of_lt {datagram : List UInt8} {k : ℕ} (hk : k < datagram.length) (hk' : k < 1024)
    (memory : Buffer) : (recvMsg memory datagram).1 k = Buffer.ofList datagram k := by
  have hlen : k < (datagram.take 1024).length := by
    rw [List.length_take]
    omega
  have hstore := Buffer.store_of_lt (b := memory) (i := 0) hlen
  rw [Nat.zero_add, List.getElem_take] at hstore
  rw [recvMsg_fst, hstore, Buffer.ofList_of_lt]

theorem ipP_recvMsg {datagram : List UInt8} (h : datagram.length = 2048) (memory : Buffer) :
    (recvMsg memory datagram).1.ipP = (Buffer.ofList datagram).ipP :=
  recvMsg_of_lt (by omega) (by omega) memory

theorem carriesControl_recvMsg {memory : Buffer} {datagram : List UInt8} {m : OctaneControl}
    (h : (Buffer.ofList datagram).CarriesControl m) (hlen : 40 ≤ datagram.length) :
    (recvMsg memory datagram).1.CarriesControl m :=
  h.congr fun _ hk => recvMsg_of_lt (by omega) (by omega) memory

/-- The message is copied in its bounds, so the loop goes on. -/
theorem received_readUdp (s : IcmpSecond) (stage : IcmpStage) {input : UdpInput} {m : OctaneControl}
    (h : (Buffer.ofList input.datagram).CarriesControl m) (hlen : 40 ≤ input.datagram.length) :
    ∃ s', s.readUdp stage input = some s' ∧ s.Received s' input.rou1Addr m := by
  have hcarries : input.buffer.CarriesControl m := carriesControl_recvMsg h hlen
  have hp : input.buffer.packet.ipP = octaneProtocolNum := hcarries.ipP
  have hicmp : ¬ octaneProtocolNum = 1 := by decide
  have hreply : input.buffer.octaneReplyEdit =
      input.buffer.set8 (input.buffer.iIpHeaderLen + 1) 1 :=
    if_neg (not_not_intro hcarries.ipP)
  obtain ⟨hsame, hack⟩ := CRouter.SameControl.receiveControl
    (CRouter.sameControl_icmpForwardLog s.router input.st input.buffer.packet .fromUdp
      (ntohs input.rou1Addr.sinPort).toNat) m
  unfold readUdp control
  simp only [icmpUnpack_protocol, hp, if_neg hicmp, if_true,
    Buffer.octaneUnpackInto_of_octaneUnpack _ hcarries.octaneUnpack, Option.map_some]
  refine ⟨_, rfl, hsame, rfl, rfl, rfl, input.buffer.octaneReplyEdit.bytes 0 2048, ?_,
    Buffer.length_bytes _ _ _, ?_⟩
  · rw [hreply]
    exact hcarries.setFlag.ofList_bytes (by omega)
  · rw [hack, sendMsg_of_le (by omega)]

/-- The rest of an iteration, in which the raw socket is read. -/
theorem plain_rest (stage : IcmpStage) (s : IcmpSecond) (remaining : Timeval)
    (raw : Option RawInput) :
    s.Plain (if s.running then (raw.elim s (s.readRaw stage)).refresh remaining else s) := by
  have hrefresh : ∀ s₁ : IcmpSecond, s₁.Plain (s₁.refresh remaining) :=
    fun s₁ => plain_of_eq (.refl _) rfl
  split_ifs
  · cases raw with
    | none => exact hrefresh s
    | some input => exact (plain_readRaw stage s input).trans (hrefresh _)
  · exact .refl s

/-- An iteration in which no datagram is read. -/
theorem plain_of_arrived {e : SecondSelected} (addr : SockAddr) (he : e.arrived addr = none)
    (h : icmpSecondStep stage s e = some s') : s.Plain s' := by
  cases e with
  | timeout =>
      obtain ⟨-, hs⟩ := Option.ite_none_right_eq_some.1 h
      rw [← Option.some.inj hs]
      exact plain_of_eq (.refl _) rfl
  | ready remaining udp raw =>
      obtain ⟨hrunning, -⟩ := Option.ite_none_right_eq_some.1 h
      cases udp with
      | some input => exact absurd he.symm (Option.some_ne_none _).symm
      | none =>
          rw [icmpSecondStep_ready hrunning, Option.elim_none, Option.map_some] at h
          rw [← Option.some.inj h]
          exact plain_rest stage s remaining raw

/-- An iteration in which a datagram is read. -/
theorem exists_readUdp {remaining : Timeval} {input : UdpInput} {raw : Option RawInput}
    (h : icmpSecondStep stage s (.ready remaining (some input) raw) = some s') :
    s.running = true ∧ ∃ s₁, s.readUdp stage input = some s₁ ∧
      s' = if s₁.running then (raw.elim s₁ (s₁.readRaw stage)).refresh remaining else s₁ := by
  obtain ⟨hrunning, -⟩ := Option.ite_none_right_eq_some.1 h
  rw [icmpSecondStep_ready hrunning] at h
  obtain ⟨s₁, hs₁, hs'⟩ := Option.map_eq_some_iff.1 h
  exact ⟨hrunning, s₁, hs₁, hs'.symm⟩

end IcmpSecond
