import SimpleSDN.Primary.Step

/-!
# The rules of a new TCP flow

A control message asks a secondary router to install a rule: a flow entry with
its action. `Config.tcpRules` lists the rules that are asked for when a TCP flow
to port 80 or 443 is new: one for the flow and one for its reverse and, in a
chain, the same at the second secondary. `fromTunnel_rules` says that the
messages made are those, in that order.
-/

/-- A TCP packet to port 80 or 443. -/
def WebPacket (buffer : Packet) : Prop :=
  buffer.ipP = 6 ∧ (tcpUnpack buffer = 80 ∨ tcpUnpack buffer = 443)

instance (buffer : Packet) : Decidable (WebPacket buffer) :=
  inferInstanceAs (Decidable (_ ∧ _))

/-- The addresses, the ports and the protocol of a TCP packet. -/
def Packet.entry (buffer : Packet) : FlowEntry :=
  ⟨buffer.ipSrc, buffer.ipDst, buffer.source, buffer.dest, buffer.ipP.toUInt16⟩

theorem ofBuffer_tcp {buffer : Packet} (hp : buffer.ipP = 6) (st : Stack) :
    FlowEntry.ofBuffer st buffer = buffer.entry := by
  simp [FlowEntry.ofBuffer, ipUnpack, Packet.entry, hp]

theorem tcpUnpack_eq {buffer : Packet} (hp : buffer.ipP = 6) :
    tcpUnpack buffer = ntohs buffer.entry.dstPort := by
  simp [tcpUnpack, Packet.entry, hp]

/-- The rule that a control message asks for, and where. -/
def OctaneTimer.rule (t : OctaneTimer) : SockAddr × FlowEntry × FlowAction :=
  (t.rou2Addr, .ofMsg t.iOctaneMsg, .ofMsg t.iOctaneMsg)

/-- The rules for a new TCP flow with entry `e`, whose packets go to `addr`. -/
def Config.tcpRules (c : Config) (iPortNum dstPort : UInt16) (addr : SockAddr) (e : FlowEntry) :
    List (SockAddr × FlowEntry × FlowAction) :=
  if c.stage = .s7 ∧ dstPort = 443 then
    [(addr, e, ⟨ntohs c.secondRouter2Port, 1⟩), (addr, e.reverse, ⟨iPortNum, 1⟩),
      (.local c.secondRouter2Port, e, ⟨0, 1⟩),
      (.local c.secondRouter2Port, e.reverse, ⟨ntohs c.secondRouter1Port, 1⟩)]
  else [(addr, e, ⟨0, 1⟩), (addr, e.reverse, ⟨iPortNum, 1⟩)]

namespace Primary

theorem created_of_dispatch {s s' : Primary} {router : CRouter} {clock : ℕ → Timeval}
    {ts : List OctaneTimer} (h : { s with router := router }.dispatch clock ts = some s') :
    s'.created = ts.reverse ++ s.created := by
  obtain ⟨_, _, rfl⟩ := Option.map_eq_some_iff.1 h
  rfl

/-- The test of the reverse port against -1 fails for every port. -/
theorem toNat_ne_neg_one (x : UInt16) : ¬ (x.toNat : ℤ) = -1 := by
  have : (0 : ℤ) ≤ x.toNat := Int.natCast_nonneg _
  omega

/-- The rules of `dispatchPair`. -/
theorem rules_of_dispatchPair {s s' : Primary} {st : Stack} {buffer : Packet}
    {clock : ℕ → Timeval} {addr : SockAddr}
    (h : s.dispatchPair st buffer clock addr = some s') :
    ∃ ts : List OctaneTimer, s'.created = ts.reverse ++ s.created ∧ ts.map OctaneTimer.rule =
      [(addr, .ofBuffer st buffer, ⟨0, 1⟩),
        (addr, (FlowEntry.ofBuffer st buffer).reverse, ⟨UInt16.ofInt s.router.iPortNum, 1⟩)] := by
  refine ⟨_, created_of_dispatch h, ?_⟩
  simp [OctaneTimer.rule, FlowEntry.ofMsg, FlowEntry.ofBuffer, FlowEntry.reverse,
    FlowAction.ofMsg, toNat_ne_neg_one]
  rfl

/-- The rules of `dispatchChain`. -/
theorem rules_of_dispatchChain {c : Config} {s s' : Primary} {st : Stack} {buffer : Packet}
    {clock : ℕ → Timeval} {addr : SockAddr}
    (h : s.dispatchChain c st buffer clock addr = some s') :
    ∃ ts : List OctaneTimer, s'.created = ts.reverse ++ s.created ∧ ts.map OctaneTimer.rule =
      [(addr, .ofBuffer st buffer, ⟨ntohs c.secondRouter2Port, 1⟩),
        (addr, (FlowEntry.ofBuffer st buffer).reverse, ⟨UInt16.ofInt s.router.iPortNum, 1⟩),
        (.local c.secondRouter2Port, .ofBuffer st buffer, ⟨0, 1⟩),
        (.local c.secondRouter2Port, (FlowEntry.ofBuffer st buffer).reverse,
          ⟨ntohs c.secondRouter1Port, 1⟩)] := by
  refine ⟨_, created_of_dispatch h, ?_⟩
  simp [OctaneTimer.rule, FlowEntry.ofMsg, FlowEntry.ofBuffer, FlowEntry.reverse,
    FlowAction.ofMsg, toNat_ne_neg_one]
  rfl

theorem rules_of_tcpDispatch {c : Config} {s s' : Primary} {st : Stack} {buffer : Packet}
    {clock : ℕ → Timeval} {addr : SockAddr}
    (h : s.tcpDispatch c st buffer clock addr = some s') :
    ∃ ts : List OctaneTimer, s'.created = ts.reverse ++ s.created ∧ ts.map OctaneTimer.rule =
      c.tcpRules (UInt16.ofInt s.router.iPortNum) (tcpUnpack buffer) addr
        (.ofBuffer st buffer) := by
  unfold tcpDispatch at h
  unfold Config.tcpRules
  split_ifs at h ⊢ with hchain
  · exact rules_of_dispatchChain h
  · exact rules_of_dispatchPair h

/-- The branch for a new TCP flow to port 80 or 443: the rule for the primary, the
messages, the logs, and the packet. -/
theorem tcpDispatch_of_fromTunnel {c : Config} {s s' : Primary} {st : Stack} {buffer : Packet}
    {clock : ℕ → Timeval} (h : s.fromTunnel c st buffer clock = some s') (hp : buffer.ipP = 6)
    (hstage : c.stage.tcp = true) (hport : tcpUnpack buffer = 80 ∨ tcpUnpack buffer = 443)
    (hmiss : s.router.rouFlowTable.contains (.ofBuffer st buffer) = false) (addr : SockAddr)
    (haddr : addr = .local ((c.tcpTarget s.isAuthenticated buffer).getD st.targetPort)) :
    ∃ s₀ s₁, Quiet s s₀ ∧
      (s₀.dbInsert (s₀.localMsg st buffer addr) 65535).tcpDispatch c st buffer clock addr =
        some s₁ ∧
      s' = ((s₁.logInstalled c (.ofBuffer st buffer)).rememberAuth c buffer
        (s₀.localMsg st buffer addr)).send (.data addr buffer) := by
  subst haddr
  have hne : ¬ (6 : UInt8) = 1 := by decide
  have hcheck : ¬ c.flowCheck s.router.rouFlowTable (.ofBuffer st buffer) ≠ "" := by
    rw [flowCheck_ne_empty_iff, hmiss]
    exact Bool.false_ne_true
  have hquiet := s.quiet_icmpForwardLog st buffer .fromTunnel (ntohs c.rou2Addr.sinPort).toNat true
  unfold fromTunnel at h
  simp only [CRouter.icmpForwardLog_protocol, hp, hne, hstage, and_self, if_true, if_false] at h
  unfold tcpFromTunnel at h
  obtain ⟨s₁, hhandle, rfl⟩ := Option.map_eq_some_iff.1 h
  unfold tcpHandle at hhandle
  rw [if_neg hcheck, if_pos hport] at hhandle
  obtain ⟨s₂, hdispatch, rfl⟩ := Option.map_eq_some_iff.1 hhandle
  refine ⟨_, s₂, ?_, hdispatch, rfl⟩
  split_ifs
  · exact hquiet.trans (quiet_clearRefresh _)
  · exact hquiet

/-- The messages that are made for a new TCP flow to port 80 or 443. -/
theorem fromTunnel_rules {c : Config} {s s' : Primary} {st : Stack} {buffer : Packet}
    {clock : ℕ → Timeval} (h : s.fromTunnel c st buffer clock = some s') (hp : buffer.ipP = 6)
    (hstage : c.stage.tcp = true) (hport : tcpUnpack buffer = 80 ∨ tcpUnpack buffer = 443)
    (hmiss : s.router.rouFlowTable.contains (.ofBuffer st buffer) = false) :
    ∃ ts : List OctaneTimer, s'.created = ts.reverse ++ s.created ∧ ts.map OctaneTimer.rule =
      c.tcpRules (UInt16.ofInt s.router.iPortNum) (tcpUnpack buffer)
        (.local ((c.tcpTarget s.isAuthenticated buffer).getD st.targetPort))
        (.ofBuffer st buffer) := by
  obtain ⟨s₀, s₁, hquiet, hdispatch, rfl⟩ :=
    tcpDispatch_of_fromTunnel h hp hstage hport hmiss _ rfl
  obtain ⟨ts, hcreated, hrules⟩ := rules_of_tcpDispatch hdispatch
  -- the rule for the primary and the logs make no message
  have hbefore : ∀ msg, (s₀.dbInsert msg 65535).created = s.created := fun msg =>
    congrArg Channel.created ((channel_dbInsert s₀ msg 65535).trans hquiet.channel)
  have hafter : ∀ msg addr, (((s₁.logInstalled c (.ofBuffer st buffer)).rememberAuth c buffer
      msg).send (.data addr buffer)).created = s₁.created := by
    intro msg addr
    have h := (channel_rememberAuth c (s₁.logInstalled c (.ofBuffer st buffer)) buffer msg).trans
      (quiet_logInstalled c s₁ (.ofBuffer st buffer)).channel
    exact congrArg Channel.created h
  refine ⟨ts, ?_, ?_⟩
  · rw [hafter, hcreated, hbefore]
  · rw [hrules, dbInsert_iPortNum, hquiet.iPortNum]

/-- The rules that the messages of a new TCP flow ask for. -/
theorem NewFlow.rules {c : Config} {s s' : Primary} {st : Stack} {buffer : Packet}
    {clock : ℕ → Timeval} {addr : SockAddr} {ts : List OctaneTimer}
    (hnew : NewFlow s s' st buffer clock addr ts)
    (h : s.fromTunnel c st buffer clock = some s') (hp : buffer.ipP = 6)
    (hstage : c.stage.tcp = true) (hport : tcpUnpack buffer = 80 ∨ tcpUnpack buffer = 443)
    (hmiss : s.router.rouFlowTable.contains (.ofBuffer st buffer) = false) :
    ts.map OctaneTimer.rule =
      c.tcpRules (UInt16.ofInt s.router.iPortNum) (tcpUnpack buffer)
        (.local ((c.tcpTarget s.isAuthenticated buffer).getD st.targetPort))
        (.ofBuffer st buffer) := by
  obtain ⟨us, hus, hrules⟩ := fromTunnel_rules h hp hstage hport hmiss
  have hts : s'.created = ts.reverse ++ s.created := Channel.created_of_transmit hnew.channel
  obtain rfl : ts = us :=
    List.reverse_injective (List.append_cancel_right (hts.symm.trans hus))
  exact hrules

end Primary
