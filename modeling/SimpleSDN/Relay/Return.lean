import SimpleSDN.Relay.Loop
import SimpleSDN.Secondary.Translate

/-!
# What the relay of stage 3 passes on

A packet for another network leaves the raw socket of the secondary router as the ICMP
part of a packet that the primary router has read from the tunnel. An echo reply from
there comes back with the source of the packet forwarded last as its destination, and is
otherwise written to the tunnel as it was, as far as the 1024 bytes go that `recvMsg`
reads. `RelaySystem.relayed_of_run` says so for the two loops on whatever arrives, with
the datagrams between them lost, repeated and reordered.
-/

/-- The two arguments of `sendmsg` on the raw socket are those for the packet `p`. -/
structure ForwardOf (p : List UInt8) (dst : UInt32) (segment : List UInt8) : Prop where
  ipP : (Buffer.ofList p).ipP = 1
  outside : packetDstCheck (Buffer.ofList p).ipDst ⟨10, 5, 51, 0⟩ ⟨255, 255, 255, 0⟩ = false
  ipDst : dst = (Buffer.ofList p).ipDst
  segment : (Buffer.ofList p).iIpHeaderLen ≤ (Buffer.ofList p).ipLen →
    (Buffer.ofList p).ipLen ≤ 1024 →
      segment = (Buffer.ofList p).bytes (Buffer.ofList p).iIpHeaderLen
        ((Buffer.ofList p).ipLen - (Buffer.ofList p).iIpHeaderLen)

/-- What is written is the answer of the secondary router to the packet `p`. -/
structure AnswerOf (p w : List UInt8) : Prop where
  ipP : (Buffer.ofList p).ipP = 1
  inside : packetDstCheck (Buffer.ofList p).ipDst ⟨10, 5, 51, 0⟩ ⟨255, 255, 255, 0⟩ = true
  answers : EchoRequest p → p.length ≤ 1024 → Answers p w

/-- What is written is the echo reply `q` with the destination `addr`. -/
structure ReturnOf (q : List UInt8) (addr : UInt32) (w : List UInt8) : Prop where
  length : w.length = 1024
  ipDst : (Buffer.ofList w).ipDst = addr
  ipSum : q ≠ [] → 20 ≤ (Buffer.ofList q).iIpHeaderLen →
    Verifies (Buffer.ofList w) 0 (Buffer.ofList q).iIpHeaderLen
  other : ∀ k, k < q.length → k < 1024 → k < 10 ∨ 12 ≤ k → k < 16 ∨ 20 ≤ k →
    Buffer.ofList w k = Buffer.ofList q k

/-- The array of a datagram that the primary router has made of the packet `p`. -/
structure Holds (p : List UInt8) (b : Buffer) : Prop where
  bytes : ∀ k, k < 1024 → b k = Buffer.ofList p k

theorem holds_recvMsg (p : List UInt8) (buffer : Buffer) :
    Holds p (recvMsg buffer ((Buffer.ofList p).bytes 0 2048)).1 :=
  ⟨fun _ hk => recvMsg_bytes buffer (Buffer.ofList p) hk⟩

namespace Holds

variable {p : List UInt8} {b : Buffer}

theorem ipP (h : Holds p b) : b.ipP = (Buffer.ofList p).ipP := h.bytes 9 (by omega)

theorem ipSrc (h : Holds p b) : b.ipSrc = (Buffer.ofList p).ipSrc :=
  Buffer.get32_congr fun k hk => h.bytes (12 + k) (by omega)

theorem ipDst (h : Holds p b) : b.ipDst = (Buffer.ofList p).ipDst :=
  Buffer.get32_congr fun k hk => h.bytes (16 + k) (by omega)

/-- What the secondary router hands to its raw socket. -/
theorem forwardOf (h : Holds p b) {dst : UInt32} {segment : List UInt8}
    (hp : b.ipP = 1)
    (hout : packetDstCheck b.ipDst ⟨10, 5, 51, 0⟩ ⟨255, 255, 255, 0⟩ = false)
    (hmem : SecondOut.raw 1 dst segment ∈ b.icmpForward) : ForwardOf p dst segment := by
  have hhdr : b.iIpHeaderLen = (Buffer.ofList p).iIpHeaderLen :=
    Buffer.iIpHeaderLen_congr (h.bytes 0 (by omega))
  have htot : b.ipLen = (Buffer.ofList p).ipLen :=
    Buffer.ipLen_congr (h.bytes 2 (by omega)) (h.bytes 3 (by omega))
  unfold Buffer.icmpForward sendRaw at hmem
  split_ifs at hmem with hlen
  · obtain ⟨-, rfl, rfl⟩ := SecondOut.raw.inj (List.mem_singleton.1 hmem)
    refine ⟨h.ipP ▸ hp, h.ipDst ▸ hout, h.ipDst, fun hle hshort => ?_⟩
    rw [← hhdr, ← htot] at hle ⊢
    rw [Buffer.iTotLen_eq hle (by omega), Int.toNat_natCast]
    exact Buffer.bytes_congr fun k _ hk => h.bytes k (by omega)
  · cases hmem

end Holds

/-- What the primary router writes of an echo reply. -/
theorem returnOf_fromSocketS2 {q d : List UInt8} {memory : Buffer} {addr : UInt32}
    (htype : getIcmpType (Second.icmpBuffer memory q).packet = 0)
    (hd : d = ((Second.icmpBuffer memory q).icmpReplyEditFromRawSock addr).bytes 0 2048) :
    ReturnOf q addr (fromSocketS2 d) := by
  have hbuffer : ∀ k, k < q.length → k < 1024 →
      Second.icmpBuffer memory q k = Buffer.ofList q k := by
    intro k hk hk'
    have hlen : k < (q.take 2048).length := by
      rw [List.length_take]
      omega
    have hstore := Buffer.store_of_lt (b := memory) (i := 0) hlen
    rw [Nat.zero_add, List.getElem_take] at hstore
    rw [Second.icmpBuffer, hstore, Buffer.ofList_of_lt hk]
  have hp : (Second.icmpBuffer memory q).ipP = 1 := by
    by_contra hne
    have h255 : getIcmpType (Second.icmpBuffer memory q).packet = 255 := if_pos hne
    exact absurd (h255.symm.trans htype) (by decide)
  generalize Second.icmpBuffer memory q = b at hbuffer hp hd
  have hredirected := Buffer.redirected_icmpReplyEditFromRawSock addr hp
  have hedit : b.icmpReplyEditFromRawSock addr = (b.set32 16 addr).setIpSum :=
    if_neg (not_not_intro hp)
  rw [hd, fromSocketS2_bytes]
  have hw : ∀ k, k < 1024 → Buffer.ofList ((b.icmpReplyEditFromRawSock addr).bytes 0 1024) k =
      b.icmpReplyEditFromRawSock addr k := fun k hk => Buffer.ofList_bytes hk
  constructor
  · exact Buffer.length_bytes _ _ _
  · refine Eq.trans ?_ hredirected.ipDst
    exact Buffer.get32_congr fun k hk => hw (16 + k) (by omega)
  · intro hne hlen
    have hhdr : (b.set32 16 addr).iIpHeaderLen = (Buffer.ofList q).iIpHeaderLen := by
      refine Buffer.iIpHeaderLen_congr ((Buffer.set32_of_outside (by omega)).trans ?_)
      exact hbuffer 0 (List.length_pos_of_ne_nil hne) (by omega)
    have hsum := Buffer.verifies_setIpSum (hhdr.symm ▸ hlen)
    have hle := (Buffer.ofList q).iIpHeaderLen_le
    rw [hhdr, ← hedit] at hsum
    exact (verifies_congr fun k _ hk => hw k (by omega)).2 hsum
  · intro k hk hk' hsum hdst
    rw [hw k hk', hedit, Buffer.setIpSum_of_outside hsum, Buffer.set32_of_outside (by omega)]
    exact hbuffer k hk hk'

namespace RelaySystem

/-- The routers before anything has been read. -/
def start (Router₁ Router₂ : CRouter) (addr : SockAddr) (oriSrcAddr : UInt32) : RelaySystem :=
  ⟨.start Router₁, .start Router₂ addr oriSrcAddr⟩

/-- What has left the two routers on the raw socket and on the tunnel: packets read from
the tunnel that are forwarded, answers to such packets, and echo replies whose destination
is the source of the packet that was forwarded last before. -/
structure Relayed (oriSrcAddr : UInt32) (s : RelaySystem) : Prop where
  raw : ∀ dst segment, SecondOut.raw 1 dst segment ∈ s.second.sent →
    ∃ p ∈ s.primary.read, ForwardOf p dst segment
  forwarded : ∀ addr ∈ s.second.forwarded, ∃ p ∈ s.primary.read,
    (Buffer.ofList p).ipP = 1 ∧ (Buffer.ofList p).ipSrc = addr
  written : ∀ w ∈ s.primary.written, (∃ p ∈ s.primary.read, AnswerOf p w) ∨
    ∃ q addr, (q, addr) ∈ s.second.replies ∧ ReturnOf q (addr.getD oriSrcAddr) w

/-- A datagram of the secondary router for the primary: an answer, or an echo reply. -/
inductive Down (oriSrcAddr : UInt32) (s : RelaySystem) (d : List UInt8) : Prop
  | answer (p : List UInt8) (buffer : Buffer) (hp : p ∈ s.primary.read)
      (h : secondRouterS2 buffer ((Buffer.ofList p).bytes 0 2048) = some d)
  | reply (q : List UInt8) (addr : Option UInt32) (memory : Buffer)
      (hq : (q, addr) ∈ s.second.replies)
      (htype : getIcmpType (Second.icmpBuffer memory q).packet = 0)
      (h : d = ((Second.icmpBuffer memory q).icmpReplyEditFromRawSock
        (addr.getD oriSrcAddr)).bytes 0 2048)

/-- The invariant of the two loops. -/
structure Traced (rou1Addr : SockAddr) (oriSrcAddr : UInt32) (s : RelaySystem) : Prop where
  relayed : s.Relayed oriSrcAddr
  up : ∀ d ∈ s.primary.sent, ∃ p ∈ s.primary.read, (Buffer.ofList p).ipP = 1 ∧
    d = (Buffer.ofList p).bytes 0 2048
  down : ∀ d, SecondOut.udp rou1Addr d ∈ s.second.sent → s.Down oriSrcAddr d
  ori : s.second.oriSrcAddr = s.second.forwarded.head?.getD oriSrcAddr

variable {stage : RelayStage} {rou1Addr addr : SockAddr} {oriSrcAddr : UInt32}
  {s s' : RelaySystem} {p d : List UInt8}

/-- A datagram that the secondary router answers holds a packet for its network. -/
theorem secondRouterS2_some {buffer : Buffer}
    (h : secondRouterS2 buffer ((Buffer.ofList p).bytes 0 2048) = some d) :
    (Buffer.ofList p).ipP = 1 ∧
      packetDstCheck (Buffer.ofList p).ipDst ⟨10, 5, 51, 0⟩ ⟨255, 255, 255, 0⟩ = true := by
  have hholds := holds_recvMsg p buffer
  unfold secondRouterS2 at h
  generalize (recvMsg buffer ((Buffer.ofList p).bytes 0 2048)).1 = b at h hholds
  rw [← hholds.ipP, ← hholds.ipDst]
  dsimp only at h
  split_ifs at h with hp hdst
  exact ⟨not_not.1 hp, hdst⟩

theorem answerOf_fromSocketS2 {buffer : Buffer}
    (h : secondRouterS2 buffer ((Buffer.ofList p).bytes 0 2048) = some d) :
    AnswerOf p (fromSocketS2 d) :=
  ⟨(secondRouterS2_some h).1, (secondRouterS2_some h).2,
    fun hreq hshort => (hreq.answers_iff buffer h).2 hshort⟩

/-- What a datagram for the primary router becomes on the tunnel. -/
theorem Down.written (h : s.Down oriSrcAddr d) :
    (∃ p ∈ s.primary.read, AnswerOf p (fromSocketS2 d)) ∨
      ∃ q addr, (q, addr) ∈ s.second.replies ∧
        ReturnOf q (addr.getD oriSrcAddr) (fromSocketS2 d) := by
  cases h with
  | answer p buffer hp h => exact Or.inl ⟨p, hp, answerOf_fromSocketS2 h⟩
  | reply q addr memory hq htype h =>
      exact Or.inr ⟨q, addr, hq, returnOf_fromSocketS2 htype h⟩

theorem traced_start (Router₁ Router₂ : CRouter) (addr rou1Addr : SockAddr)
    (oriSrcAddr : UInt32) : (start Router₁ Router₂ addr oriSrcAddr).Traced rou1Addr oriSrcAddr where
  relayed :=
    { raw := fun _ _ h => absurd h List.not_mem_nil
      forwarded := fun _ h => absurd h List.not_mem_nil
      written := fun _ h => absurd h List.not_mem_nil }
  up := fun _ h => absurd h List.not_mem_nil
  down := fun _ h => absurd h List.not_mem_nil
  ori := rfl

/-- More packets read and more replies do not matter to what has been sent. -/
theorem Down.mono (h : s.Down oriSrcAddr d) (hread : s.primary.read ⊆ s'.primary.read)
    (hreplies : s.second.replies ⊆ s'.second.replies) : s'.Down oriSrcAddr d := by
  cases h with
  | answer p buffer hp h => exact .answer p buffer (hread hp) h
  | reply q addr memory hq htype h => exact .reply q addr memory (hreplies hq) htype h

namespace Traced

/-- The invariant is about what the routers have read and sent. -/
theorem congr_primary (h : s.Traced rou1Addr oriSrcAddr) {primary : RelayPrimary}
    (hread : primary.read = s.primary.read) (hsent : primary.sent = s.primary.sent)
    (hwritten : primary.written = s.primary.written) :
    Traced rou1Addr oriSrcAddr { s with primary := primary } where
  relayed :=
    { raw := hread ▸ h.relayed.raw
      forwarded := hread ▸ h.relayed.forwarded
      written := by
        dsimp only
        rw [hread, hwritten]
        exact h.relayed.written }
  up := by
    dsimp only
    rw [hread, hsent]
    exact h.up
  down := fun d hd => (h.down d hd).mono (hread ▸ List.Subset.refl _) (List.Subset.refl _)
  ori := h.ori

theorem congr_second (h : s.Traced rou1Addr oriSrcAddr) {second : RelaySecond}
    (hsent : second.sent = s.second.sent) (hforwarded : second.forwarded = s.second.forwarded)
    (hreplies : second.replies = s.second.replies)
    (hori : second.oriSrcAddr = s.second.oriSrcAddr) :
    Traced rou1Addr oriSrcAddr { s with second := second } where
  relayed :=
    { raw := hsent ▸ h.relayed.raw
      forwarded := hforwarded ▸ h.relayed.forwarded
      written := hreplies ▸ h.relayed.written }
  up := h.up
  down := fun d hd =>
    (h.down d (hsent ▸ hd)).mono (List.Subset.refl _) (hreplies ▸ List.Subset.refl _)
  ori := by
    dsimp only
    rw [hori, hforwarded]
    exact h.ori

/-- The primary router reads a packet from the tunnel. -/
theorem readTunnel (h : s.Traced rou1Addr oriSrcAddr) (input : RelayTunnel) :
    Traced rou1Addr oriSrcAddr { s with primary := s.primary.readTunnel input } := by
  have hread : s.primary.read ⊆ (s.primary.readTunnel input).read := List.subset_cons_self _ _
  constructor
  · constructor
    · intro dst segment hmem
      obtain ⟨p, hp, hforward⟩ := h.relayed.raw dst segment hmem
      exact ⟨p, hread hp, hforward⟩
    · intro addr hmem
      obtain ⟨p, hp, hsrc⟩ := h.relayed.forwarded addr hmem
      exact ⟨p, hread hp, hsrc⟩
    · intro w hw
      refine (h.relayed.written w hw).imp_left ?_
      rintro ⟨p, hp, hanswer⟩
      exact ⟨p, hread hp, hanswer⟩
  · intro d hd
    rcases List.mem_append.1 hd with hnew | hold
    · have hsome : fromTunnelS2 input.bytes = some d := Option.mem_toList.1 hnew
      refine ⟨input.bytes, List.mem_cons_self .., ?_, fromTunnelS2_some hsome⟩
      by_contra hne
      exact Option.some_ne_none d (hsome.symm.trans (if_pos hne))
    · obtain ⟨p, hp, hd⟩ := h.up d hold
      exact ⟨p, hread hp, hd⟩
  · exact fun d hd => (h.down d hd).mono hread (List.Subset.refl _)
  · exact h.ori

/-- The primary router writes a datagram of the secondary router to the tunnel. -/
theorem readSocket (h : s.Traced rou1Addr oriSrcAddr) {input : RelaySocket}
    (hinput : SecondOut.udp rou1Addr input.datagram ∈ s.second.sent) :
    Traced rou1Addr oriSrcAddr { s with primary := s.primary.readSocket input } where
  relayed :=
    { raw := h.relayed.raw
      forwarded := h.relayed.forwarded
      written := by
        intro w hw
        rcases List.mem_cons.1 hw with rfl | hold
        · exact (h.down _ hinput).written
        · exact h.relayed.written w hold }
  up := h.up
  down := fun d hd => (h.down d hd).mono (List.Subset.refl _) (List.Subset.refl _)
  ori := h.ori

/-- The secondary router answers a packet, forwards it or drops it. -/
theorem icmp (h : s.Traced rou1Addr oriSrcAddr) {buffer : Buffer} (hp : p ∈ s.primary.read)
    (hicmp : (recvMsg buffer ((Buffer.ofList p).bytes 0 2048)).1.ipP = 1) :
    Traced rou1Addr oriSrcAddr { s with
      second := s.second.icmp stage (recvMsg buffer ((Buffer.ofList p).bytes 0 2048)).1 } := by
  have hholds := holds_recvMsg p buffer
  have hanswer : ∀ d, secondRouterS2 buffer ((Buffer.ofList p).bytes 0 2048) = some d →
      s.Down oriSrcAddr d := fun d hd => .answer p buffer hp hd
  unfold secondRouterS2 at hanswer
  generalize (recvMsg buffer ((Buffer.ofList p).bytes 0 2048)).1 = b at hicmp hholds hanswer ⊢
  unfold RelaySecond.icmp
  by_cases hdst : packetDstCheck b.ipDst ⟨10, 5, 51, 0⟩ ⟨255, 255, 255, 0⟩ = true
  · rw [if_pos hdst]
    have hdown := hanswer (b.icmpReplyEdit.bytes 0 2048)
      ((if_neg (not_not_intro hicmp)).trans (if_pos hdst))
    constructor
    · refine ⟨fun dst segment hmem => ?_, h.relayed.forwarded, h.relayed.written⟩
      rcases List.mem_append.1 hmem with hold | hnew
      · exact h.relayed.raw dst segment hold
      · rw [sendMsg_of_le (by omega)] at hnew
        exact absurd (List.mem_singleton.1 hnew) SecondOut.noConfusion
    · exact h.up
    · intro d hd
      rcases List.mem_append.1 hd with hold | hnew
      · exact (h.down d hold).mono (List.Subset.refl _) (List.Subset.refl _)
      · rw [sendMsg_of_le (by omega)] at hnew
        obtain ⟨-, hd⟩ := SecondOut.udp.inj (List.mem_singleton.1 hnew)
        rw [hd]
        exact hdown.mono (List.Subset.refl _) (List.Subset.refl _)
    · exact h.ori
  · rw [if_neg hdst]
    cases stage with
    | s2 => exact h.congr_second rfl rfl rfl rfl
    | s3 =>
        constructor
        · refine ⟨fun dst segment hmem => ?_, fun addr hmem => ?_, h.relayed.written⟩
          · rcases List.mem_append.1 hmem with hold | hnew
            · exact h.relayed.raw dst segment hold
            · exact ⟨p, hp, hholds.forwardOf hicmp (Bool.eq_false_iff.2 hdst) hnew⟩
          · rcases List.mem_cons.1 hmem with rfl | hold
            · exact ⟨p, hp, hholds.ipP ▸ hicmp, hholds.ipSrc.symm⟩
            · exact h.relayed.forwarded addr hold
        · exact h.up
        · intro d hd
          rcases List.mem_append.1 hd with hold | hnew
          · exact (h.down d hold).mono (List.Subset.refl _) (List.Subset.refl _)
          · unfold Buffer.icmpForward sendRaw at hnew
            split_ifs at hnew
            · exact absurd (List.mem_singleton.1 hnew) SecondOut.noConfusion
            · cases hnew
        · rfl

/-- The secondary router reads a datagram of the primary router. -/
theorem readUdp (h : s.Traced rou1Addr oriSrcAddr) {input : RelayUdp}
    (hinput : input.datagram ∈ s.primary.sent) :
    Traced rou1Addr oriSrcAddr { s with second := s.second.readUdp stage input } := by
  obtain ⟨p, hp, -, hd⟩ := h.up _ hinput
  have hbuffer : input.buffer = (recvMsg input.memory ((Buffer.ofList p).bytes 0 2048)).1 := by
    rw [RelayUdp.buffer, hd]
  have hlogged : ∀ router, Traced rou1Addr oriSrcAddr { s with
      second := { s.second with router := router, rou1Addr := input.rou1Addr } } :=
    fun router => h.congr_second rfl rfl rfl rfl
  have hicmp : ∀ router, input.buffer.ipP = 1 → Traced rou1Addr oriSrcAddr { s with
      second := RelaySecond.icmp stage
        { s.second with router := router, rou1Addr := input.rou1Addr } input.buffer } := by
    intro router hone
    rw [hbuffer] at hone ⊢
    exact (hlogged router).icmp hp hone
  unfold RelaySecond.readUdp
  dsimp only
  split_ifs with hone
  · exact hlogged _
  · exact hicmp _ (not_not.1 hone)

/-- It reads a packet from the raw socket, and passes an echo reply on. -/
theorem readRaw (h : s.Traced rou1Addr oriSrcAddr) (input : RawInput) :
    Traced rou1Addr oriSrcAddr { s with second := s.second.readRaw input } := by
  unfold RelaySecond.readRaw
  dsimp only
  split_ifs with htype
  swap
  · exact h.congr_second rfl rfl rfl rfl
  have hreplies : s.second.replies ⊆
      (input.packet, s.second.forwarded.head?) :: s.second.replies := List.subset_cons_self _ _
  rw [sendMsg_of_le (by omega)]
  constructor
  · refine ⟨fun dst segment hmem => ?_, h.relayed.forwarded, fun w hw => ?_⟩
    · rcases List.mem_append.1 hmem with hold | hnew
      · exact h.relayed.raw dst segment hold
      · exact absurd (List.mem_singleton.1 hnew) SecondOut.noConfusion
    · refine (h.relayed.written w hw).imp_right ?_
      rintro ⟨q, addr, hq, hreturn⟩
      exact ⟨q, addr, hreplies hq, hreturn⟩
  · exact h.up
  · intro d hd
    rcases List.mem_append.1 hd with hold | hnew
    · exact (h.down d hold).mono (List.Subset.refl _) hreplies
    · obtain ⟨-, hd⟩ := SecondOut.udp.inj (List.mem_singleton.1 hnew)
      rw [h.ori] at hd
      exact .reply input.packet _ input.memory (List.mem_cons_self ..) htype hd
  · exact h.ori

/-- An iteration of the primary router. -/
theorem primary (h : s.Traced rou1Addr oriSrcAddr) {e : RelayPrimarySelected}
    {primary : RelayPrimary} (hfrom : e.From rou1Addr s.second.sent)
    (hstep : relayPrimaryStep s.primary e = some primary) :
    Traced rou1Addr oriSrcAddr { s with primary := primary } := by
  cases e with
  | timeout =>
      obtain ⟨-, hs⟩ := Option.ite_none_right_eq_some.1 hstep
      obtain rfl := Option.some.inj hs
      exact h.congr_primary rfl rfl rfl
  | ready remaining tunnel socket =>
      obtain ⟨-, hs⟩ := Option.ite_none_right_eq_some.1 hstep
      have htunnel : Traced rou1Addr oriSrcAddr
          { s with primary := tunnel.elim s.primary s.primary.readTunnel } := by
        cases tunnel with
        | none => exact h
        | some input => exact h.readTunnel input
      split_ifs at hs
      · obtain rfl := Option.some.inj hs
        exact htunnel.congr_primary rfl rfl rfl
      · obtain rfl := Option.some.inj hs
        cases socket with
        | none => exact htunnel.congr_primary rfl rfl rfl
        | some input => exact (htunnel.readSocket (hfrom input rfl)).congr_primary rfl rfl rfl

/-- An iteration of the secondary router. -/
theorem second (h : s.Traced rou1Addr oriSrcAddr) {e : RelaySecondSelected}
    {second : RelaySecond} (hfrom : e.From rou1Addr s.primary.sent)
    (hstep : relaySecondStep stage s.second e = some second) :
    Traced rou1Addr oriSrcAddr { s with second := second } := by
  cases e with
  | timeout =>
      obtain ⟨-, hs⟩ := Option.ite_none_right_eq_some.1 hstep
      obtain rfl := Option.some.inj hs
      exact h.congr_second rfl rfl rfl rfl
  | ready remaining udp raw =>
      obtain ⟨-, hs⟩ := Option.ite_none_right_eq_some.1 hstep
      have hudp : Traced rou1Addr oriSrcAddr
          { s with second := udp.elim s.second (s.second.readUdp stage) } := by
        cases udp with
        | none => exact h
        | some input => exact h.readUdp (hfrom input rfl).1
      split_ifs at hs
      · obtain rfl := Option.some.inj hs
        exact hudp.congr_second rfl rfl rfl rfl
      · cases stage with
        | s2 =>
            obtain rfl := Option.some.inj hs
            exact hudp.congr_second rfl rfl rfl rfl
        | s3 =>
            cases raw with
            | none =>
                obtain rfl := Option.some.inj hs
                exact hudp.congr_second rfl rfl rfl rfl
            | some input =>
                obtain rfl := Option.some.inj hs
                exact (hudp.readRaw input).congr_second rfl rfl rfl rfl

/-- An iteration of either router. -/
theorem step (h : s.Traced rou1Addr oriSrcAddr) {e : RelaySystemEvent}
    (hstep : relaySystemStep stage rou1Addr s e = some s') : s'.Traced rou1Addr oriSrcAddr := by
  cases e with
  | primary e =>
      obtain ⟨hfrom, hmap⟩ := Option.ite_none_right_eq_some.1 hstep
      obtain ⟨primary, hprimary, rfl⟩ := Option.map_eq_some_iff.1 hmap
      exact h.primary hfrom hprimary
  | second e =>
      obtain ⟨hfrom, hmap⟩ := Option.ite_none_right_eq_some.1 hstep
      obtain ⟨second, hsecond, rfl⟩ := Option.map_eq_some_iff.1 hmap
      exact h.second hfrom hsecond

/-- The run lemma. -/
theorem of_run (h : s.Traced rou1Addr oriSrcAddr) {es : List RelaySystemEvent}
    (hrun : run (relaySystemStep stage rou1Addr) s es = some s') :
    s'.Traced rou1Addr oriSrcAddr :=
  run_invariant (Q := fun _ _ _ => True) (fun _ _ _ hs hstep _ => hs.step hstep) h
    (Along.of_forall fun _ _ _ _ => trivial) hrun

end Traced

/-- In every run of the two loops, whatever is read from the tunnel and the raw socket and
whichever datagrams reach the other router, in any order and as often as one likes. -/
theorem relayed_of_run (stage : RelayStage) (Router₁ Router₂ : CRouter)
    (addr rou1Addr : SockAddr) (oriSrcAddr : UInt32) (es : List RelaySystemEvent)
    (s : RelaySystem)
    (hrun : run (relaySystemStep stage rou1Addr) (start Router₁ Router₂ addr oriSrcAddr) es =
      some s) : s.Relayed oriSrcAddr :=
  ((traced_start Router₁ Router₂ addr rou1Addr oriSrcAddr).of_run hrun).relayed

end RelaySystem

/-! ### Echo replies -/

/-- The packet that an iteration reads from the raw socket. -/
def RelaySystemEvent.rawPacket : RelaySystemEvent → Option (List UInt8)
  | .second (.ready _ _ raw) => raw.map RawInput.packet
  | _ => none

/-- The echo replies are among `packets`, and each address is that of a packet forwarded. -/
structure RelaySecond.Replied (packets : List (List UInt8)) (s : RelaySecond) : Prop where
  packet : ∀ x ∈ s.replies, x.1 ∈ packets
  addr : ∀ x ∈ s.replies, ∀ addr ∈ x.2, addr ∈ s.forwarded

namespace RelaySecond.Replied

variable {stage : RelayStage} {packets : List (List UInt8)} {s s' : RelaySecond}

theorem readUdp (h : s.Replied packets) (input : RelayUdp) :
    (s.readUdp stage input).Replied packets := by
  unfold RelaySecond.readUdp RelaySecond.icmp
  dsimp only
  split_ifs
  · exact ⟨h.packet, h.addr⟩
  · exact ⟨h.packet, h.addr⟩
  · cases stage with
    | s2 => exact ⟨h.packet, h.addr⟩
    | s3 => exact ⟨h.packet, fun x hx addr ha => List.mem_cons_of_mem _ (h.addr x hx addr ha)⟩

theorem readRaw (h : s.Replied packets) {input : RawInput} (hinput : input.packet ∈ packets) :
    (s.readRaw input).Replied packets := by
  unfold RelaySecond.readRaw
  dsimp only
  split_ifs
  · constructor
    · intro x hx
      rcases List.mem_cons.1 hx with rfl | hold
      · exact hinput
      · exact h.packet x hold
    · intro x hx addr ha
      rcases List.mem_cons.1 hx with rfl | hold
      · exact List.mem_of_mem_head? ha
      · exact h.addr x hold addr ha
  · exact h

theorem step (h : s.Replied packets) {e : RelaySecondSelected}
    (he : ∀ q ∈ (RelaySystemEvent.second e).rawPacket, q ∈ packets)
    (hstep : relaySecondStep stage s e = some s') : s'.Replied packets := by
  cases e with
  | timeout =>
      obtain ⟨-, hs⟩ := Option.ite_none_right_eq_some.1 hstep
      obtain rfl := Option.some.inj hs
      exact ⟨h.packet, h.addr⟩
  | ready remaining udp raw =>
      obtain ⟨-, hs⟩ := Option.ite_none_right_eq_some.1 hstep
      have hudp : (udp.elim s (s.readUdp stage)).Replied packets := by
        cases udp with
        | none => exact h
        | some input => exact h.readUdp input
      split_ifs at hs
      · obtain rfl := Option.some.inj hs
        exact ⟨hudp.packet, hudp.addr⟩
      · rcases stage with _ | _ <;> rcases raw with _ | input
        · obtain rfl := Option.some.inj hs
          exact ⟨hudp.packet, hudp.addr⟩
        · obtain rfl := Option.some.inj hs
          exact ⟨hudp.packet, hudp.addr⟩
        · obtain rfl := Option.some.inj hs
          exact ⟨hudp.packet, hudp.addr⟩
        · obtain rfl := Option.some.inj hs
          have hraw := hudp.readRaw (he input.packet rfl)
          exact ⟨hraw.packet, hraw.addr⟩

end RelaySecond.Replied

namespace RelaySystem

/-- Every echo reply has been read from the raw socket. -/
theorem replied_of_run {stage : RelayStage} {Router₁ Router₂ : CRouter}
    {addr rou1Addr : SockAddr} {oriSrcAddr : UInt32} {es : List RelaySystemEvent}
    {s : RelaySystem} {packets : List (List UInt8)}
    (hes : ∀ e ∈ es, ∀ q ∈ e.rawPacket, q ∈ packets)
    (hrun : run (relaySystemStep stage rou1Addr) (start Router₁ Router₂ addr oriSrcAddr) es =
      some s) : s.second.Replied packets := by
  have hstart : (start Router₁ Router₂ addr oriSrcAddr).second.Replied packets :=
    ⟨fun _ h => absurd h List.not_mem_nil, fun _ h => absurd h List.not_mem_nil⟩
  refine run_invariant (I := fun u : RelaySystem => u.second.Replied packets) ?_ hstart
    (Along.of_mem (P := fun e : RelaySystemEvent => ∀ q ∈ e.rawPacket, q ∈ packets) hes) hrun
  intro u e v hu hstep he
  cases e with
  | primary e =>
      obtain ⟨-, hmap⟩ := Option.ite_none_right_eq_some.1 hstep
      obtain ⟨primary, -, rfl⟩ := Option.map_eq_some_iff.1 hmap
      exact hu
  | second e =>
      obtain ⟨-, hmap⟩ := Option.ite_none_right_eq_some.1 hstep
      obtain ⟨second, hsecond, rfl⟩ := Option.map_eq_some_iff.1 hmap
      exact hu.step he hsecond

/-- An echo request from 10.0.2.15 to 8.8.8.8. -/
def farPing : List UInt8 :=
  [0x45, 0, 0, 28, 0, 0, 0, 0, 64, 1, 0, 0, 10, 0, 2, 15, 8, 8, 8, 8, 8, 0, 0, 0, 0, 1, 0, 1]

/-- Its reply as it comes to the raw socket. -/
def farReply : List UInt8 :=
  [0x45, 0, 0, 28, 0, 0, 0, 0, 50, 1, 0, 0, 8, 8, 8, 8, 192, 168, 201, 2, 0, 0, 0, 0, 0, 1, 0, 1]

/-- The request is relayed, and the reply is relayed back. -/
def farEvents : List RelaySystemEvent :=
  [.primary (.ready ⟨14, 0⟩ (some ⟨default, farPing⟩) none),
    .second (.ready ⟨14, 0⟩
      (some ⟨default, .zero, (Buffer.ofList farPing).bytes 0 2048, .local 0⟩) none),
    .second (.ready ⟨14, 0⟩ none (some ⟨default, .zero, farReply, 0⟩)),
    .primary (.ready ⟨14, 0⟩ none (some ⟨default, ((Second.icmpBuffer .zero
      farReply).icmpReplyEditFromRawSock (inetAddr ⟨10, 0, 2, 15⟩)).bytes 0 2048, 0⟩))]

/-- The two routers of the run. -/
def farStart : RelaySystem :=
  start (.init 0 (.none _ _) (.none _ _) (.none _ _)) (.init 1 (.none _ _) (.none _ _) (.none _ _))
    (.local 0) 0

theorem relayed_of_run_far : ∃ s w, run (relaySystemStep .s3 (.local 0)) farStart farEvents =
    some s ∧ s.primary.written = [w] ∧ ReturnOf farReply (inetAddr ⟨10, 0, 2, 15⟩) w := by
  have heval : (run (relaySystemStep .s3 (.local 0)) farStart farEvents).map
      (fun s => (s.primary.read, s.second.replies, s.primary.written.length)) =
      some ([farPing], [(farReply, some (inetAddr ⟨10, 0, 2, 15⟩))], 1) := by
    decide +kernel
  obtain ⟨s, hrun, hs⟩ := Option.map_eq_some_iff.1 heval
  obtain ⟨hread, hreplies, hlength⟩ : s.primary.read = [farPing] ∧
      s.second.replies = [(farReply, some (inetAddr ⟨10, 0, 2, 15⟩))] ∧
      s.primary.written.length = 1 := by simpa using hs
  obtain ⟨w, hw⟩ := List.length_eq_one_iff.1 hlength
  refine ⟨s, w, hrun, hw, ?_⟩
  have hrelayed := relayed_of_run .s3 _ _ _ _ 0 farEvents s hrun
  rcases hrelayed.written w (hw ▸ List.mem_singleton_self w) with
    ⟨p, hp, hanswer⟩ | ⟨q, addr, hq, hreturn⟩
  · rw [hread] at hp
    obtain rfl := List.mem_singleton.1 hp
    exact absurd hanswer.inside (by decide)
  · rw [hreplies] at hq
    obtain ⟨rfl, rfl⟩ := Prod.mk.inj (List.mem_singleton.1 hq)
    exact hreturn

end RelaySystem
