import SimpleSDN.Secondary.Segment
import SimpleSDN.Secondary.Translate
import SimpleSDN.System.Wire

/-!
# The way back

A reply to a flow reaches a secondary router on its raw TCP socket. Once the primary
router has taken the message for the reverse of the flow for acknowledged, the reply is
sent on with the address of the client and checksums that verify, and the primary router
writes it to the tunnel, as long as the packet that the secondary router has forwarded
last is one of the client (`Net.answered_of_run`).
-/

namespace Buffer

/-- A byte that is not 0 is one of the list. -/
theorem getElem?_of_ofList {l : List UInt8} {k : ℕ} {v : UInt8} (h : ofList l k = v)
    (hv : v ≠ 0) : l[k]? = some v := by
  by_cases hk : k < l.length
  · rw [List.getElem?_eq_getElem hk, ← h, ofList_of_lt hk]
  · rw [ofList_of_le (not_lt.1 hk)] at h
    exact absurd h.symm hv

end Buffer

/-- The packet in the buffer answers the packet `q`, and its TCP checksum can be computed. -/
structure Packet.RepliedBy (q : Packet) (b : Buffer) : Prop where
  answers : q.AnsweredBy 6 b
  segment : b.iIpHeaderLen + 20 ≤ b.ipLen
  short : b.ipLen ≤ b.iIpHeaderLen + 32755

/-- The reply when the destination has been replaced. -/
theorem Packet.RepliedBy.exists_tcpReplyEdit {q : Packet} {b : Buffer} (h : q.RepliedBy b) :
    ∃ b', b.tcpReplyEdit q.ipSrc = some b' ∧ b.TcpReply q.ipSrc b' b'.ipLen ∧
      b'.packet.ipP = 6 ∧ b'.packet.entry = q.entry.reverse := by
  have hheader := h.answers.header
  obtain ⟨b', ret, hedit, hreply⟩ :=
    (Buffer.tcpReplyEdit_valid_iff hheader h.segment q.ipSrc).2 (Or.inl h.short)
  obtain ⟨b'', hb', heq⟩ := Option.map_eq_some_iff.1 hedit
  obtain ⟨rfl, rfl⟩ := Prod.mk.inj heq
  have hp : b''.packet.ipP = 6 := by
    have hsame : b'' 9 = b 9 := hreply.redirected.other 9 (by omega) (by omega) (by omega)
    exact hsame.trans (h.answers.ipP.trans h.answers.socket)
  have hentry := hreply.redirected.ofBuffer_eq h.answers (Or.inr rfl) default
  rw [ofBuffer_tcp hp, ofBuffer_tcp h.answers.socket] at hentry
  exact ⟨b'', hb', hreply, hp, hentry⟩

/-- A TCP packet on the socket is written to the tunnel. -/
theorem Primary.sent_fromSocket_tcp {c : Config} (hstage : c.stage.tcp = true) (s : Primary)
    (st : Stack) {buffer : Packet} (hp : buffer.ipP = 6) (iPort : ℤ) :
    (s.fromSocket c st buffer iPort).sent = s.sent ++ [.tunnel buffer] := by
  unfold fromSocket
  simp only [CRouter.icmpForwardLog_protocol]
  rw [if_pos (Or.inr ⟨hp, hstage⟩)]
  split_ifs <;> simp [send]

namespace Net

/-- The secondary router `i` sends the reply `packet` to `q` on to `dst`, with the source of
`q` as its destination; if `dst` is the primary router, that writes it to the tunnel. -/
def HandsBack (c : Config) (rou1Addr : SockAddr) (net : Net) (i : Fin 3) (dst : SockAddr)
    (q : Packet) (packet : List UInt8) : Prop :=
  ∀ u iPort, ∃ b' net', (Second.tcpBuffer packet).TcpReply q.ipSrc b' b'.ipLen ∧
    netStep c rou1Addr net (.tcp i u packet iPort) = some net' ∧
    net'.flight = net.flight ++ [⟨.local (c.secondPort i), dst, b'.bytes 0 b'.ipLen⟩] ∧
    (dst = rou1Addr → ∀ st IpHeader, ∃ net'' p,
      netStep c rou1Addr net' (.socket st ⟨.local (c.secondPort i), dst, b'.bytes 0 b'.ipLen⟩
        IpHeader) = some net'' ∧
      net''.primary.sent = net.primary.sent ++ [.tunnel p] ∧ p.entry = q.entry.reverse)

variable {c : Config} {rou1Addr : SockAddr} {net : Net}

/-- A datagram with a TCP packet that reaches the primary router. -/
theorem exists_socket_tcp (hstage : c.stage.tcp = true) {d : Datagram} (hd : d ∈ net.flight)
    (hdst : d.dst = rou1Addr) (hp : (socketBuffer d).ipP = 6) (st : Stack)
    (IpHeader : ℕ → Buffer) :
    ∃ net', netStep c rou1Addr net (.socket st d IpHeader) = some net' ∧
      net'.primary.sent = net.primary.sent ++ [.tunnel (socketBuffer d).packet] := by
  have hdecodes : (socketBuffer d).Decodes := by
    intro h253
    rw [hp] at h253
    exact absurd h253 (by decide)
  refine ⟨_, (if_pos ⟨hd, hdst⟩).trans ((if_pos hdecodes).trans rfl), ?_⟩
  exact Primary.sent_fromSocket_tcp hstage _ _ hp _

variable {m : IntMap} {sys : System}

/-- A rule for the reverse of a flow that is installed hands the replies back. -/
theorem Backed.handsBack (hc : c.Apart m rou1Addr) (h : Backed c m rou1Addr sys net)
    (hports : c.secondRouter1Port ≠ c.secondRouter2Port) {i : Fin 3} {msg : OctaneControl}
    (hmsg : msg ∈ sys.primary.messagesFor (.local (c.secondPort i)))
    (hinst : (sys.secondary i).Installed msg) {dst : SockAddr}
    (hplace : (FlowAction.ofMsg msg).place = some (.udp dst)) {q : Packet}
    (hentry : .ofMsg msg = q.entry.reverse) (hlast : (net.secondary i).oriSrcAddr = q.ipSrc)
    {packet : List UInt8} (hreply : q.RepliedBy (Second.tcpBuffer packet)) :
    HandsBack c rou1Addr net i dst q packet := by
  intro u iPort
  obtain ⟨b', hedit, htcp, hp, hback⟩ := hreply.exists_tcpReplyEdit
  rw [← hlast] at hedit
  have hlen : b'.ipLen = (Second.tcpBuffer packet).ipLen := htcp.ret_eq
  have hsegment := hreply.segment
  have hshort := hreply.short
  have hheader := (Second.tcpBuffer packet).iIpHeaderLen_le
  have hfind : (net.secondary i).router.rouFlowTable.mTable.find (.ofBuffer u.st b'.packet) =
      some (.ofMsg msg, .ofMsg msg) := by
    obtain ⟨hflow, -⟩ := (h.coupled.coherent hports _).forwards msg hmsg
    rw [(h.shows.secondary i).rouFlowTable, ofBuffer_tcp hp, hback, ← hentry]
    exact ((h.coupled.secondary i).table.find_eq_some_iff hflow _).2 ⟨hinst, rfl⟩
  obtain ⟨s', hstep, hsent⟩ : ∃ s', secondStep (net.secondary i) (.tcp u packet iPort) = some s' ∧
      s'.sent = (net.secondary i).sent ++ [.udp dst (b'.bytes 0 b'.ipLen)] := by
    obtain ⟨s', hs', heq⟩ := Option.map_eq_some_iff.1
      (Second.map_tcp_of_find hedit hfind hplace (by omega))
    exact ⟨s', hs', (Prod.mk.inj heq).2⟩
  have hraw : packet[9]? = some 6 := by
    have hbyte : Buffer.ofList packet 9 = 6 :=
      (Buffer.ofList_take (by omega)).symm.trans
        (hreply.answers.ipP.trans hreply.answers.socket)
    exact Buffer.getElem?_of_ofList hbyte (by decide)
  obtain ⟨net', hnet, hflight, hprimary⟩ : ∃ net',
      netStep c rou1Addr net (.tcp i u packet iPort) = some net' ∧
      net'.flight = net.flight ++ [⟨.local (c.secondPort i), dst, b'.bytes 0 b'.ipLen⟩] ∧
      net'.primary = net.primary := by
    refine ⟨_, (if_pos hraw).trans (Option.map_eq_some_iff.2 ⟨s', hstep, rfl⟩), ?_, rfl⟩
    rw [hsent, List.drop_left]
    rfl
  refine ⟨b', net', htcp, hnet, hflight, fun hdst st IpHeader => ?_⟩
  have hhdr := htcp.redirected.iIpHeaderLen_eq hreply.answers.header
  have hsame : ∀ k, k < b'.iIpHeaderLen + 20 →
      socketBuffer ⟨.local (c.secondPort i), dst, b'.bytes 0 b'.ipLen⟩ k = b' k := by
    intro k hk
    exact (Buffer.ofList_take (by omega)).trans (Buffer.ofList_bytes (by omega))
  obtain ⟨net'', hsocket, hwritten⟩ := exists_socket_tcp hc.stage
    (hflight ▸ List.mem_append_right net.flight (List.mem_singleton.2 rfl)) hdst
    ((hsame 9 (by omega)).trans hp) st IpHeader
  exact ⟨net'', _, hsocket, hprimary ▸ hwritten, (Buffer.entry_congr hsame).trans hback⟩

/-- When the step `e` of a run erases the number `n` of a message for the reverse of a flow,
then in every later state the secondary router that it was sent to hands the replies to a
packet of the flow back, if the packet it has forwarded last has the same source. -/
def Answered (c : Config) (rou1Addr : SockAddr) (net : Net) (es : List NetEvent) : Prop :=
  ∀ pre e post, pre ++ e :: post <+: es → ∀ net₁ net₂ net₃,
    run (netStep c rou1Addr) net pre = some net₁ → netStep c rou1Addr net₁ e = some net₂ →
    run (netStep c rou1Addr) net₂ post = some net₃ → ∀ n ∈ net₁.primary.router.unAckBuffer,
    n ∉ net₂.primary.router.unAckBuffer →
      ∃ t i, net₁.primary.message n = some t ∧ t.rou2Addr = .local (c.secondPort i) ∧
        ∀ dst, (FlowAction.ofMsg t.iOctaneMsg).place = some (.udp dst) → ∀ q : Packet,
          .ofMsg t.iOctaneMsg = q.entry.reverse → (net₃.secondary i).oriSrcAddr = q.ipSrc →
          ∀ packet, q.RepliedBy (Second.tcpBuffer packet) →
            HandsBack c rou1Addr net₃ i dst q packet

/-- In stages 6, 7 and 10, when all flows are TCP and no new message takes a number that is
waited for or in flight, then from the moment in which the primary router takes the message
for the reverse of a flow for acknowledged, replies come back, whatever is lost, repeated or
overtaken. -/
theorem answered_of_run (c : Config) (m : IntMap) (rou1Addr : SockAddr) (hc : c.Apart m rou1Addr)
    (hstage : c.stage.byPort = true) (hports : c.secondRouter1Port ≠ c.secondRouter2Port)
    (router : CRouter) (auth authRev : OctaneControl) (hempty : router.unAckBuffer = ∅)
    (htable : router.rouFlowTable.entries = []) (secondary : Fin 3 → Second)
    (hsecondary : ∀ i, (secondary i).router.rouFlowTable.entries =
      [(FlowTable.defaultEntry, ⟨0xFFFF, 3⟩)] ∧ (secondary i).router.droppedMsg.entries = [])
    (es : List NetEvent) (htcp : ∀ e ∈ es, e.Tcp)
    (hunused : Along (netStep c rou1Addr) Unused (start (.start router auth authRev) secondary)
      es) :
    Answered c rou1Addr (start (.start router auth authRev) secondary) es := by
  have hstart : Backed c m rou1Addr
      (System.start (.start router auth authRev) fun i => (secondary i).router)
      (start (.start router auth authRev) secondary) := backed_start hempty htable hsecondary
  have hQ := hunused.and (Along.of_mem (P := NetEvent.Tcp) htcp)
  intro pre e post hes net₁ net₂ net₃ hpre hstep hpost n hn hn'
  obtain ⟨sys₃, t, i, h₃, hmessage, haddr, hmem, hinst⟩ :=
    hstart.acked hc hstage hports hQ hes hpre hstep hpost hn hn'
  refine ⟨t, i, hmessage, haddr, ?_⟩
  exact fun dst hplace q hentry hlast packet hreply =>
    h₃.handsBack hc hports hmem hinst hplace hentry hlast hreply

/-- The rule for the replies to the flow is delivered and acknowledged; the port of the
primary router is 34. -/
def answeredEvents : List NetEvent :=
  ackedEventsOf ⟨1, 0, 2, 0x0433050A, 0x0F02000A, 0x5000, 0x409C, 6, 34⟩

/-- The number of that message is 2. -/
theorem answered_of_run_http : ∃ net net',
    run (netStep ⟨.s6, .local 0x2300, 0x2300, 0x2400, 0⟩ (.local 0x2200))
        (start (.start (.init 34 (.none _ _) (.none _ _) (.none _ _)) default default)
          sampleSecondary) (answeredEvents.take 2) = some net ∧
      net.primary.router.unAckBuffer.keys = [1, 2] ∧
      run (netStep ⟨.s6, .local 0x2300, 0x2300, 0x2400, 0⟩ (.local 0x2200))
        (start (.start (.init 34 (.none _ _) (.none _ _) (.none _ _)) default default)
          sampleSecondary) answeredEvents = some net' ∧
      2 ∉ net'.primary.router.unAckBuffer ∧
      Answered ⟨.s6, .local 0x2300, 0x2300, 0x2400, 0⟩ (.local 0x2200)
        (start (.start (.init 34 (.none _ _) (.none _ _) (.none _ _)) default default)
          sampleSecondary) answeredEvents := by
  obtain ⟨net, net', hnet, hwait, hnet', hnot⟩ := exists_run_ackedEventsOf
    (.start (.init 34 (.none _ _) (.none _ _) (.none _ _)) default default)
    ⟨1, 0, 2, 0x0433050A, 0x0F02000A, 0x5000, 0x409C, 6, 34⟩ [1, 2] (by decide +kernel)
  have hseq : ((2 : UInt16).toNat : ℤ) = 2 := by decide
  rw [hseq] at hnot
  exact ⟨net, net', hnet, hwait, hnet', hnot, answered_of_run _ sampleChildren _ apart_stage6 rfl
    (by decide) _ _ _ rfl rfl _ (fun _ => ⟨by decide +revert, rfl⟩) _ (tcp_ackedEventsOf _)
    (unused_ackedEventsOf _ rfl _ _ _)⟩

end Net
