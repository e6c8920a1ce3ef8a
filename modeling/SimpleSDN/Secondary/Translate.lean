import SimpleSDN.Secondary.Rules

/-!
# Address translation at a secondary router

The raw sockets deliver replies that are addressed to the router; before the lookup
the loop writes the address of a client into them. It keeps one such address,
`oriSrcAddr`, for all flows of both protocols: that of the packet forwarded last. So
the replies are translated rightly as long as each comes before a packet of
another client is forwarded (`Second.repliesTranslated_iff`).
-/

/-- The packet in `reply`, on the raw socket of `protocol`, answers the packet `q`. -/
structure Packet.AnsweredBy (q : Packet) (protocol : UInt8) (reply : Buffer) : Prop where
  socket : q.ipP = protocol
  ipP : reply.ipP = q.ipP
  ipSrc : reply.ipSrc = q.ipDst
  source : q.ipP = 6 → reply.packet.source = q.dest
  dest : q.ipP = 6 → reply.packet.dest = q.source
  header : 20 ≤ reply.iIpHeaderLen
  ipLen : reply.iIpHeaderLen ≤ reply.ipLen

/-- The destination of the packet has been replaced by `addr`, and beside it only
checksums have changed. -/
structure Buffer.Redirected (b : Buffer) (addr : UInt32) (b' : Buffer) : Prop where
  ipDst : b'.ipDst = addr
  other : ∀ k, k < 10 ∨ 12 ≤ k → k < 16 ∨ 20 ≤ k →
    k < b.iIpHeaderLen + 16 ∨ b.iIpHeaderLen + 18 ≤ k → b' k = b k

namespace Buffer

variable {b b' : Buffer} {addr : UInt32}

theorem redirected_setIpSum (b : Buffer) (addr : UInt32) :
    b.Redirected addr (b.set32 16 addr).setIpSum := by
  constructor
  · have hsum : (b.set32 16 addr).setIpSum.ipDst = (b.set32 16 addr).ipDst :=
      get32_congr fun k hk => setIpSum_of_outside (by omega)
    rw [hsum, ipDst, get32_set32]
  · intro k hk hk' _
    rw [setIpSum_of_outside hk, set32_of_outside (by omega)]

theorem redirected_icmpReplyEditFromRawSock (addr : UInt32) (hp : b.ipP = 1) :
    b.Redirected addr (b.icmpReplyEditFromRawSock addr) := by
  rw [icmpReplyEditFromRawSock, if_neg (not_not_intro hp)]
  exact redirected_setIpSum b addr

theorem Redirected.ipLen_eq (h : b.Redirected addr b') (hlen : 20 ≤ b.iIpHeaderLen) :
    b'.ipLen = b.ipLen :=
  ipLen_congr (h.other 2 (by omega) (by omega) (by omega))
    (h.other 3 (by omega) (by omega) (by omega))

theorem Redirected.iIpHeaderLen_eq (h : b.Redirected addr b') (hlen : 20 ≤ b.iIpHeaderLen) :
    b'.iIpHeaderLen = b.iIpHeaderLen :=
  iIpHeaderLen_congr (h.other 0 (by omega) (by omega) (by omega))

theorem redirected_tcpReplyEdit (hlen : 20 ≤ b.iIpHeaderLen)
    (h : b.tcpReplyEdit addr = some b') : b.Redirected addr b' := by
  unfold tcpReplyEdit at h
  split_ifs at h
  obtain rfl := Option.some.inj h
  have hsum := redirected_setIpSum b addr
  generalize (b.set32 16 addr).setIpSum = b₁ at hsum
  have hhdr := hsum.iIpHeaderLen_eq hlen
  have hcheck : ∀ saddr daddr n k, k < b.iIpHeaderLen + 16 ∨ b.iIpHeaderLen + 18 ≤ k →
      b₁.setTcpCheck saddr daddr n k = b₁ k := by
    intro saddr daddr n k hk
    exact (set16_of_outside (by omega)).trans (set16_of_outside (by omega))
  constructor
  · rw [← hsum.ipDst]
    exact get32_congr fun k hk => hcheck _ _ _ _ (by omega)
  · intro k hk hk' hk''
    exact (hcheck _ _ _ _ hk'').trans (hsum.other k hk hk' hk'')

/-- The edit of a TCP reply fails when the length of the segment is negative. -/
theorem exists_tcpReplyEdit_iff (addr : UInt32) (hle : b.iIpHeaderLen ≤ b.ipLen) :
    (∃ b', b.tcpReplyEdit addr = some b') ↔ b.ipLen < b.iIpHeaderLen + 32768 := by
  unfold tcpReplyEdit
  rcases b.iTotLen_cases with ⟨-, hlt, hlen⟩ | ⟨hbad, hneg⟩
  · rw [if_pos (by omega)]
    exact ⟨fun _ => hlt, fun _ => ⟨_, rfl⟩⟩
  · rw [if_neg (by omega)]
    constructor
    · rintro ⟨b', hnone⟩
      exact absurd hnone.symm (Option.some_ne_none _)
    · omega

/-- What a redirected reply asks the flow table about. -/
theorem Redirected.ofBuffer_eq {q : Packet} {protocol : UInt8} (h : b.Redirected q.ipSrc b')
    (hq : q.AnsweredBy protocol b) (hp : protocol = 1 ∨ protocol = 6) (st : Stack) :
    FlowEntry.ofBuffer st b'.packet = (FlowEntry.ofBuffer st q).reverse := by
  have hlen := hq.header
  have hhdr := h.iIpHeaderLen_eq hlen
  have hproto : b'.packet.ipP = q.ipP := (h.other 9 (by omega) (by omega) (by omega)).trans hq.ipP
  have hsrc : b'.packet.ipSrc = q.ipDst :=
    (get32_congr fun k hk => h.other (12 + k) (by omega) (by omega) (by omega)).trans hq.ipSrc
  have hdst : b'.packet.ipDst = q.ipSrc := h.ipDst
  rcases hp with rfl | rfl
  · rw [FlowEntry.ofBuffer, FlowEntry.ofBuffer, ipUnpack, ipUnpack, if_pos (hproto.trans hq.socket),
      if_pos hq.socket, hproto, hsrc, hdst]
    rfl
  · have hne : q.ipP ≠ 1 := by
      rw [hq.socket]
      decide
    have hsource : b'.packet.source = q.dest := by
      refine Eq.trans ?_ (hq.source hq.socket)
      change b'.get16 b'.iIpHeaderLen = b.get16 b.iIpHeaderLen
      rw [hhdr]
      exact get16_congr (h.other _ (by omega) (by omega) (by omega))
        (h.other _ (by omega) (by omega) (by omega))
    have hdest : b'.packet.dest = q.source := by
      refine Eq.trans ?_ (hq.dest hq.socket)
      change b'.get16 (b'.iIpHeaderLen + 2) = b.get16 (b.iIpHeaderLen + 2)
      rw [hhdr]
      exact get16_congr (h.other _ (by omega) (by omega) (by omega))
        (h.other _ (by omega) (by omega) (by omega))
    rw [FlowEntry.ofBuffer, FlowEntry.ofBuffer, ipUnpack, ipUnpack, if_neg (hproto ▸ hne),
      if_pos (hproto.trans hq.socket), if_neg hne, if_pos hq.socket, hproto, hsrc, hdst, hsource,
      hdest]
    rfl

/-- A redirected reply goes to the source of the flow that it answers exactly when that
is the address written. -/
theorem Redirected.translated_iff {q : Packet} {protocol : UInt8} (h : b.Redirected addr b')
    (hq : q.AnsweredBy protocol b) (hp : protocol = 1 ∨ protocol = 6) :
    (b'.ipDst = q.ipSrc ∧
      ∀ st, FlowEntry.ofBuffer st b'.packet = (FlowEntry.ofBuffer st q).reverse) ↔
        addr = q.ipSrc := by
  constructor
  · exact fun htranslated => h.ipDst.symm.trans htranslated.1
  · rintro rfl
    exact ⟨h.ipDst, h.ofBuffer_eq hq hp⟩

end Buffer

namespace Second

/-- What the raw socket of a protocol has received. -/
def received : SecondEvent → Option (UInt8 × Buffer)
  | .udp _ _ _ => none
  | .icmp _ memory packet _ => some (1, icmpBuffer memory packet)
  | .tcp _ packet _ => some (6, tcpBuffer packet)

/-- The array that the flow table is asked about. -/
def lookupBuffer (s : Second) : SecondEvent → Option Buffer
  | .udp _ _ _ => none
  | .icmp _ memory packet _ =>
      some ((icmpBuffer memory packet).icmpReplyEditFromRawSock s.oriSrcAddr)
  | .tcp _ packet _ => (tcpBuffer packet).tcpReplyEdit s.oriSrcAddr

/-- It is the array that the step on a raw socket works on. -/
theorem secondStep_of_lookupBuffer {s : Second} {e : SecondEvent} {buffer3 : Buffer}
    (h : s.lookupBuffer e = some buffer3) :
    ∃ u buffer2 iSize iPort, secondStep s e = s.raw u buffer2 buffer3 iSize iPort := by
  cases e with
  | udp u datagram rou1Addr => exact absurd h (by simp [lookupBuffer])
  | icmp u memory packet iPort =>
      obtain rfl := Option.some.inj h
      exact ⟨u, icmpBuffer memory packet, 2048, iPort, rfl⟩
  | tcp u packet iPort =>
      refine ⟨u, tcpBuffer packet, buffer3.ipLen, iPort, ?_⟩
      have hedit : (tcpBuffer packet).tcpReplyEdit s.oriSrcAddr = some buffer3 := h
      simp only [secondStep, hedit, Option.bind_some]

/-- The flows are told apart by the remote address and the ports. -/
def Distinguishable (l : List (Packet × UInt32)) : Prop :=
  ∀ x ∈ l, ∀ y ∈ l, x.1.ipP = y.1.ipP → x.1.ipDst = y.1.ipDst →
    (x.1.ipP = 6 → x.1.source = y.1.source ∧ x.1.dest = y.1.dest) → x.1.ipSrc = y.1.ipSrc

/-- The destination of a reply is replaced by the source of the flow that it answers, and
the flow table is asked about the reverse of that flow. -/
def ReplyTranslated (s : Second) (e : SecondEvent) : Prop :=
  Distinguishable s.forwarded → ∀ protocol reply, received e = some (protocol, reply) →
    ∀ x ∈ s.forwarded, x.1.AnsweredBy protocol reply →
      ∃ buffer3, s.lookupBuffer e = some buffer3 ∧ buffer3.ipDst = x.1.ipSrc ∧
        ∀ st, FlowEntry.ofBuffer st buffer3.packet = (FlowEntry.ofBuffer st x.1).reverse

/-- The packet forwarded last has the source of the flow that a reply answers, and the
length of a TCP segment in the reply is kept in a `short`. -/
def ReplyToLast (s : Second) (e : SecondEvent) : Prop :=
  Distinguishable s.forwarded → ∀ protocol reply, received e = some (protocol, reply) →
    ∀ x ∈ s.forwarded, x.1.AnsweredBy protocol reply →
      s.forwarded.head?.map Prod.snd = some x.1.ipSrc ∧
        (protocol = 6 → reply.ipLen < reply.iIpHeaderLen + 32768)

/-- The address kept is that of the packet forwarded last. -/
def LastSource (s : Second) : Prop := ∀ x, s.forwarded.head? = some x → x.2 = s.oriSrcAddr

theorem lastSource_start (Router : CRouter) (oriSrcAddr addr : UInt32) :
    (start Router oriSrcAddr addr).LastSource :=
  fun _ hx => absurd hx.symm (Option.some_ne_none _)

theorem LastSource.packet {s s' : Second} (h : s.LastSource) {u : Uninit} {buffer : Buffer}
    {rou1Addr : SockAddr} (hs : s.packet u buffer rou1Addr = some s') : s'.LastSource := by
  unfold Second.packet at hs
  dsimp only at hs
  split_ifs at hs with hcheck
  · obtain ⟨⟨Router, iFlag, out⟩, -, rfl⟩ := Option.map_eq_some_iff.1 hs
    intro x hx
    by_cases hflag : iFlag = 0
    · simp only [hflag, if_true, List.head?_cons, Option.some.injEq] at hx ⊢
      exact hx ▸ rfl
    · simp only [hflag, if_false] at hx ⊢
      exact h x hx
  · obtain rfl := Option.some.inj hs
    exact h

theorem LastSource.raw {s s' : Second} (h : s.LastSource) {u : Uninit} {buffer2 buffer3 : Buffer}
    {iSize : ℕ} {iPort : ℤ} (hs : s.raw u buffer2 buffer3 iSize iPort = some s') :
    s'.LastSource := by
  unfold Second.raw at hs
  dsimp only at hs
  split_ifs at hs with hcheck
  · obtain ⟨x, -, rfl⟩ := Option.map_eq_some_iff.1 hs
    exact h
  · obtain rfl := Option.some.inj hs
    exact h

theorem LastSource.step {s s' : Second} (h : s.LastSource) {e : SecondEvent}
    (hs : secondStep s e = some s') : s'.LastSource := by
  cases e with
  | udp u datagram rou1Addr =>
      unfold secondStep at hs
      dsimp only at hs
      split_ifs at hs with hp
      · obtain ⟨octMsg, -, rfl⟩ := Option.map_eq_some_iff.1 hs
        exact h
      · exact h.packet hs
  | icmp u memory packet iPort =>
      have hraw : s.raw u (icmpBuffer memory packet)
          ((icmpBuffer memory packet).icmpReplyEditFromRawSock s.oriSrcAddr) 2048 iPort =
            some s' := hs
      exact h.raw hraw
  | tcp u packet iPort =>
      obtain ⟨buffer3, -, hraw⟩ := Option.bind_eq_some_iff.1 hs
      exact h.raw hraw

theorem LastSource.run {s t : Second} (h : s.LastSource) {es : List SecondEvent}
    (hrun : run secondStep s es = some t) : t.LastSource :=
  run_invariant (Q := fun _ _ _ => True) (fun _ _ _ hs he _ => hs.step he) h
    (Along.of_forall fun _ _ _ _ => trivial) hrun

/-- The step lemma: a reply is translated rightly exactly when the packet forwarded last
has the source of its flow. -/
theorem LastSource.replyTranslated_iff {s : Second} (h : s.LastSource) (e : SecondEvent) :
    s.ReplyTranslated e ↔ s.ReplyToLast e := by
  refine forall_congr' fun _ => forall₃_congr fun protocol reply hreceived =>
    forall₃_congr fun x hx hq => ?_
  have hhead : s.forwarded.head?.map Prod.snd = some s.oriSrcAddr := by
    obtain ⟨y, hy⟩ : ∃ y, s.forwarded.head? = some y := by
      cases hl : s.forwarded with
      | nil => simp [hl] at hx
      | cons y ys => exact ⟨y, rfl⟩
    rw [hy, Option.map_some, h y hy]
  rw [hhead, Option.some_inj]
  cases e with
  | udp u datagram rou1Addr => exact absurd hreceived.symm (Option.some_ne_none _)
  | icmp u memory packet iPort =>
      obtain ⟨rfl, rfl⟩ := Prod.mk.inj (Option.some.inj hreceived)
      have hredirected := Buffer.redirected_icmpReplyEditFromRawSock s.oriSrcAddr
        (hq.ipP.trans hq.socket)
      rw [← hredirected.translated_iff hq (Or.inl rfl)]
      constructor
      · rintro ⟨buffer3, hlookup, htranslated⟩
        obtain rfl := Option.some.inj hlookup
        exact ⟨htranslated, fun h => absurd h (by decide)⟩
      · exact fun h => ⟨_, rfl, h.1⟩
  | tcp u packet iPort =>
      obtain ⟨rfl, rfl⟩ := Prod.mk.inj (Option.some.inj hreceived)
      have hedit := Buffer.exists_tcpReplyEdit_iff s.oriSrcAddr hq.ipLen
      constructor
      · rintro ⟨buffer3, hlookup, htranslated⟩
        have hredirected := Buffer.redirected_tcpReplyEdit hq.header hlookup
        exact ⟨(hredirected.translated_iff hq (Or.inr rfl)).1 htranslated,
          fun _ => hedit.1 ⟨buffer3, hlookup⟩⟩
      · rintro ⟨hsrc, hlt⟩
        obtain ⟨buffer3, hlookup⟩ := hedit.2 (hlt rfl)
        have hredirected := Buffer.redirected_tcpReplyEdit hq.header hlookup
        exact ⟨buffer3, hlookup, (hredirected.translated_iff hq (Or.inr rfl)).2 hsrc⟩

/-- Along every run of the loop, the replies are translated to the clients they are for
exactly when each comes while the packet forwarded last is one of its client. -/
theorem repliesTranslated_iff (Router : CRouter) (oriSrcAddr addr : UInt32)
    (es : List SecondEvent) :
    Throughout secondStep ReplyTranslated (start Router oriSrcAddr addr) es ↔
      Throughout secondStep ReplyToLast (start Router oriSrcAddr addr) es :=
  Throughout.congr_of_invariant (fun _ _ _ h he => h.step he)
    (fun _ e h => h.replyTranslated_iff e) (lastSource_start Router oriSrcAddr addr)

/-- The flows of 10.0.2.15:40000 and 10.0.2.16:40001 to 93.184.216.34:80, and a reply to
the first as the external address of the router gets it. -/
def flow₁ : List UInt8 := [10, 0, 2, 15, 93, 184, 216, 34, 0x9C, 0x40, 0, 80]

def flow₂ : List UInt8 := [10, 0, 2, 16, 93, 184, 216, 34, 0x9C, 0x41, 0, 80]

def reply₁ : List UInt8 := [93, 184, 216, 34, 192, 168, 201, 2, 0, 80, 0x9C, 0x40]

/-- After a packet of each of two clients, the reply to the first goes to the second. -/
theorem not_repliesTranslated_two_clients : ∃ Router u sender,
    ¬ Throughout secondStep ReplyTranslated (start Router 0 0)
      [.udp u (ruleDatagram 1 flow₁) sender, .udp u (ruleDatagram 1 flow₂) sender,
        .udp u (tcpDatagram flow₁) sender, .udp u (tcpDatagram flow₂) sender,
        .tcp u (tcpDatagram reply₁) 0] := by
  let u : Uninit := ⟨⟨0, 0, 0, 0⟩, FlowTable.defaultEntry, 0, ⟨0, 0⟩, SockAddr.local 0, 0⟩
  let Router : CRouter := .init 0 (.none _ _) (.none _ _) (.none _ _)
  let sender := SockAddr.local 0
  let es : List SecondEvent :=
    [.udp u (ruleDatagram 1 flow₁) sender, .udp u (ruleDatagram 1 flow₂) sender,
      .udp u (tcpDatagram flow₁) sender, .udp u (tcpDatagram flow₂) sender]
  refine ⟨Router, u, sender, fun h => ?_⟩
  obtain ⟨s, hs, hforwarded⟩ : ∃ s, run secondStep (start Router 0 0) es = some s ∧
      s.forwarded = [((udpBuffer (tcpDatagram flow₂)).packet, 0x1002000A),
        ((udpBuffer (tcpDatagram flow₁)).packet, 0x0F02000A)] :=
    ⟨_, rfl, rfl⟩
  have hes : Throughout secondStep ReplyTranslated (start Router 0 0)
      (es ++ [.tcp u (tcpDatagram reply₁) 0]) := h
  have hlast : s.LastSource := (lastSource_start Router 0 0).run hs
  have hmem : ((udpBuffer (tcpDatagram flow₁)).packet, (0x0F02000A : UInt32)) ∈ s.forwarded := by
    simp [hforwarded]
  have hanswers : (udpBuffer (tcpDatagram flow₁)).packet.AnsweredBy 6
      (tcpBuffer (tcpDatagram reply₁)) :=
    ⟨by decide, by decide, by decide, fun _ => by decide, fun _ => by decide, by decide,
      by decide⟩
  have hdistinct : Distinguishable s.forwarded := by
    rw [hforwarded]
    intro x hx y hy _ _ hports
    simp only [List.mem_cons, List.not_mem_nil, or_false] at hx hy
    rcases hx with rfl | rfl <;> rcases hy with rfl | rfl
    · rfl
    · exact absurd (hports (by decide)).1 (by decide)
    · exact absurd (hports (by decide)).1 (by decide)
    · rfl
  obtain ⟨hsrc, -⟩ := (hlast.replyTranslated_iff _).1 (hes.of_append hs).1 hdistinct 6 _ rfl _ hmem
    hanswers
  rw [hforwarded] at hsrc
  exact absurd hsrc (by decide)

end Second
