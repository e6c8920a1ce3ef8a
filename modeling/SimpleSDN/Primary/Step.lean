import SimpleSDN.Primary.Channel
import SimpleSDN.Primary.Loop

/-!
# What a reaction of the primary router does

The lemmas of this file say once what each branch of the loop does: which
control messages a new flow gives rise to (`Transmitted`), what a branch does to
the control channel (`primStep_channel`) and which parts of the state it leaves
alone. Later results use these and do not open the branches again.
-/

namespace CRouter

theorem pushLogs_eq (Router : CRouter) (tempLog : List String) :
    Router.pushLogs tempLog = { Router with
      vLog := Router.vLog ++
        tempLog.map fun line => "router: " ++ toString Router.iRouterID ++ line } := by
  unfold pushLogs
  induction tempLog generalizing Router with
  | nil => simp
  | cons line rest ih =>
      rw [List.foldl_cons, ih]
      simp [pushLog]

theorem icmpForwardLog_eq (Router : CRouter) (st : Stack) (buffer : Packet) (flag : LogFlag)
    (iPort : ℤ) : ∃ vLog, (Router.icmpForwardLog st buffer flag iPort).1 =
      { Router with vLog := vLog } := by
  unfold icmpForwardLog
  split_ifs
  · exact ⟨_, rfl⟩
  · exact ⟨_, rfl⟩
  · exact ⟨_, rfl⟩

end CRouter

namespace Primary

/-- The control channel of a primary router. -/
def channel (s : Primary) : Channel where
  unAckBuffer := s.router.unAckBuffer
  timersManager := s.timersManager
  created := s.created
  iSeqnoCnt := s.router.iSeqnoCnt

/-- From `s` to `s'` only the log, the idle flag and what has been sent change. -/
structure Quiet (s s' : Primary) : Prop where
  router : s'.router = { s.router with vLog := s'.router.vLog }
  timersManager : s'.timersManager = s.timersManager
  created : s'.created = s.created
  isAuthenticated : s'.isAuthenticated = s.isAuthenticated
  authOctMsg : s'.authOctMsg = s.authOctMsg
  authOctMsgRev : s'.authOctMsgRev = s.authOctMsgRev

theorem Quiet.channel {s s' : Primary} (h : Quiet s s') : s'.channel = s.channel := by
  unfold Primary.channel
  rw [h.router, h.timersManager, h.created]

theorem Quiet.rouFlowTable {s s' : Primary} (h : Quiet s s') :
    s'.router.rouFlowTable = s.router.rouFlowTable := by
  rw [h.router]

theorem Quiet.iPortNum {s s' : Primary} (h : Quiet s s') :
    s'.router.iPortNum = s.router.iPortNum := by
  rw [h.router]

theorem Quiet.trans {s s' s'' : Primary} (h : Quiet s s') (h' : Quiet s' s'') :
    Quiet s s'' where
  router := by rw [h'.router, h.router]
  timersManager := h'.timersManager.trans h.timersManager
  created := h'.created.trans h.created
  isAuthenticated := h'.isAuthenticated.trans h.isAuthenticated
  authOctMsg := h'.authOctMsg.trans h.authOctMsg
  authOctMsgRev := h'.authOctMsgRev.trans h.authOctMsgRev

theorem quiet_send (s : Primary) (x : Sent) : Quiet s (s.send x) :=
  ⟨rfl, rfl, rfl, rfl, rfl, rfl⟩

theorem quiet_clearRefresh (s : Primary) : Quiet s s.clearRefresh :=
  ⟨rfl, rfl, rfl, rfl, rfl, rfl⟩

theorem quiet_logHit (s : Primary) (sCheck : String) : Quiet s (s.logHit sCheck) := by
  unfold logHit
  split_ifs
  · exact ⟨rfl, rfl, rfl, rfl, rfl, rfl⟩
  · exact ⟨rfl, rfl, rfl, rfl, rfl, rfl⟩

theorem quiet_logInstalled (c : Config) (s : Primary) (entry : FlowEntry) :
    Quiet s (s.logInstalled c entry) := by
  unfold logInstalled
  split
  · exact ⟨rfl, rfl, rfl, rfl, rfl, rfl⟩
  · exact s.quiet_logHit _

@[simp] theorem sent_logHit (s : Primary) (sCheck : String) :
    (s.logHit sCheck).sent = s.sent := by
  unfold logHit
  split_ifs <;> rfl

@[simp] theorem sent_logInstalled (c : Config) (s : Primary) (entry : FlowEntry) :
    (s.logInstalled c entry).sent = s.sent := by
  unfold logInstalled
  split <;> simp

@[simp] theorem sent_rememberAuth (c : Config) (s : Primary) (buffer : Packet)
    (msg : OctaneControl) : (s.rememberAuth c buffer msg).sent = s.sent := by
  unfold rememberAuth
  split_ifs <;> rfl

/-- The start of a reaction: the idle flag is set and the packet is logged. -/
theorem quiet_icmpForwardLog (s : Primary) (st : Stack) (buffer : Packet) (flag : LogFlag)
    (iPort : ℤ) (b : Bool) : Quiet s { s with
      bRefreshTimeout := b, router := (s.router.icmpForwardLog st buffer flag iPort).1 } := by
  obtain ⟨vLog, hlog⟩ := s.router.icmpForwardLog_eq st buffer flag iPort
  refine ⟨?_, rfl, rfl, rfl, rfl, rfl⟩
  simp only [hlog]

@[simp] theorem channel_send (s : Primary) (x : Sent) : (s.send x).channel = s.channel := rfl

@[simp] theorem channel_dbInsert (s : Primary) (msg : OctaneControl) (p : UInt16) :
    (s.dbInsert msg p).channel = s.channel := by
  simp [dbInsert, channel, CRouter.pushLogs_eq]

@[simp] theorem dbInsert_rouFlowTable (s : Primary) (msg : OctaneControl) (p : UInt16) :
    (s.dbInsert msg p).router.rouFlowTable = (s.router.rouFlowTable.dbInsert msg p).1 := by
  simp [dbInsert, CRouter.pushLogs_eq]

@[simp] theorem dbInsert_iPortNum (s : Primary) (msg : OctaneControl) (p : UInt16) :
    (s.dbInsert msg p).router.iPortNum = s.router.iPortNum := by
  simp [dbInsert, CRouter.pushLogs_eq]

@[simp] theorem channel_rememberAuth (c : Config) (s : Primary) (buffer : Packet)
    (msg : OctaneControl) : (s.rememberAuth c buffer msg).channel = s.channel := by
  unfold rememberAuth
  split_ifs <;> rfl

@[simp] theorem channel_authenticate (c : Config) (s : Primary) (octMsg : OctaneControl) :
    (s.authenticate c octMsg).channel = s.channel := by
  simp only [authenticate, channel_send, channel_dbInsert]
  rfl

@[simp] theorem channel_acknowledge (s : Primary) (n : ℤ) :
    (s.acknowledge n).channel = s.channel.acknowledge n := rfl

/-! ### New control messages -/

/-- From `s` to `s'` the messages `ts` are made, sent and registered; the table,
the log and the flags stay. -/
structure Transmitted (s s' : Primary) (clock : ℕ → Timeval) (ts : List OctaneTimer) :
    Prop where
  numbered : Numbered s.router.iSeqnoCnt ts
  length : ts.length ≤ 4
  channel : s.channel.transmit clock ts = some s'.channel
  sent : s'.sent = s.sent ++ ts.map OctaneTimer.expire
  router : s'.router = { s.router with
    unAckBuffer := s'.router.unAckBuffer
    iSeqnoCnt := s'.router.iSeqnoCnt }
  isAuthenticated : s'.isAuthenticated = s.isAuthenticated
  authOctMsg : s'.authOctMsg = s.authOctMsg
  authOctMsgRev : s'.authOctMsgRev = s.authOctMsgRev

/-- A batch whose messages took the next numbers of the counter. -/
theorem transmitted_of_dispatch {s s' : Primary} {router : CRouter} {clock : ℕ → Timeval}
    {ts : List OctaneTimer}
    (h : { s with router := router }.dispatch clock ts = some s')
    (hrouter : router = { s.router with
      iSeqnoCnt := s.router.iSeqnoCnt + UInt16.ofNat ts.length })
    (hts : Numbered s.router.iSeqnoCnt ts) (hlen : ts.length ≤ 4) :
    Transmitted s s' clock ts := by
  subst hrouter
  obtain ⟨⟨T, hs⟩, hadd, rfl⟩ := Option.map_eq_some_iff.1 h
  refine ⟨hts, hlen, ?_, rfl, rfl, rfl, rfl, rfl⟩
  change (Timers.addTimers 2000 s.timersManager clock ts).map _ = _
  have hadd' : Timers.addTimers 2000 s.timersManager clock ts = some (T, hs) := hadd
  rw [hadd']
  rfl

/-- The message of `dispatchOne`. -/
theorem transmitted_of_dispatchOne {s s' : Primary} {st : Stack} {buffer : Packet}
    {clock : ℕ → Timeval} {action : UInt8} {addr : SockAddr}
    (h : s.dispatchOne st buffer clock action addr = some s') :
    ∃ t, Transmitted s s' clock [t] ∧ t.rou2Addr = addr ∧
      FlowEntry.ofMsg t.iOctaneMsg = FlowEntry.ofBuffer st buffer ∧
      t.iOctaneMsg.octaneAction = action :=
  ⟨_, transmitted_of_dispatch h rfl ⟨⟨rfl, rfl⟩, trivial⟩ (by simp), rfl,
    FlowEntry.ofMsg_createOctaneMsg .., rfl⟩

theorem add_one_add_one (q : UInt16) : q + 1 + 1 = q + UInt16.ofNat 2 := by
  rw [UInt16.add_assoc]
  rfl

/-- The messages of `dispatchPair`. -/
theorem transmitted_of_dispatchPair {s s' : Primary} {st : Stack} {buffer : Packet}
    {clock : ℕ → Timeval} {addr : SockAddr}
    (h : s.dispatchPair st buffer clock addr = some s') :
    ∃ t t', Transmitted s s' clock [t, t'] ∧ t.rou2Addr = addr ∧ t'.rou2Addr = addr ∧
      FlowEntry.ofMsg t.iOctaneMsg = FlowEntry.ofBuffer st buffer ∧
      FlowEntry.ofMsg t'.iOctaneMsg = (FlowEntry.ofBuffer st buffer).reverse ∧
      t.iOctaneMsg.octaneAction = 1 ∧ t'.iOctaneMsg.octaneAction = 1 := by
  refine ⟨_, _, transmitted_of_dispatch h ?_ ?_ (by simp), rfl, rfl,
    FlowEntry.ofMsg_createOctaneMsg .., FlowEntry.ofMsg_createReverseOctaneMsg .., rfl, rfl⟩
  · simp [CRouter.countSeqno, add_one_add_one]
  · exact ⟨⟨rfl, rfl⟩, ⟨rfl, rfl⟩, trivial⟩

/-- The messages of `dispatchChain`. -/
theorem transmitted_of_dispatchChain {c : Config} {s s' : Primary} {st : Stack}
    {buffer : Packet} {clock : ℕ → Timeval} {addr : SockAddr}
    (h : s.dispatchChain c st buffer clock addr = some s') :
    ∃ t t' u u', Transmitted s s' clock [t, t', u, u'] ∧
      t.rou2Addr = addr ∧ t'.rou2Addr = addr ∧
      u.rou2Addr = .local c.secondRouter2Port ∧ u'.rou2Addr = .local c.secondRouter2Port ∧
      FlowEntry.ofMsg t.iOctaneMsg = FlowEntry.ofBuffer st buffer ∧
      FlowEntry.ofMsg t'.iOctaneMsg = (FlowEntry.ofBuffer st buffer).reverse ∧
      FlowEntry.ofMsg u.iOctaneMsg = FlowEntry.ofBuffer st buffer ∧
      FlowEntry.ofMsg u'.iOctaneMsg = (FlowEntry.ofBuffer st buffer).reverse ∧
      ∀ x ∈ [t, t', u, u'], x.iOctaneMsg.octaneAction = 1 := by
  refine ⟨_, _, _, _, transmitted_of_dispatch h ?_ ?_ (by simp), rfl, rfl, rfl, rfl,
    FlowEntry.ofMsg_createOctaneMsg .., FlowEntry.ofMsg_createReverseOctaneMsg ..,
    FlowEntry.ofMsg_createOctaneMsg .., FlowEntry.ofMsg_createReverseOctaneMsg .., ?_⟩
  · simp only [CRouter.countSeqno, if_true, List.length_cons, List.length_nil,
      UInt16.add_assoc]
    rfl
  · exact ⟨⟨rfl, rfl⟩, ⟨rfl, rfl⟩, ⟨rfl, rfl⟩, ⟨rfl, rfl⟩, trivial⟩
  · simp

/-! ### A packet from the tunnel -/

/-- From `s` to `s'` a new flow is handled: the rule for the primary is installed
with the messages `ts` for the secondaries, and the packet goes to `addr`. -/
structure NewFlow (s s' : Primary) (st : Stack) (buffer : Packet) (clock : ℕ → Timeval)
    (addr : SockAddr) (ts : List OctaneTimer) : Prop where
  numbered : Numbered s.router.iSeqnoCnt ts
  length : ts.length ≤ 4
  channel : s.channel.transmit clock ts = some s'.channel
  sent : s'.sent = s.sent ++ ts.map OctaneTimer.expire ++ [.data addr buffer]
  rouFlowTable : s'.router.rouFlowTable =
    (s.router.rouFlowTable.dbInsert (s.localMsg st buffer addr) 65535).1
  iPortNum : s'.router.iPortNum = s.router.iPortNum
  isAuthenticated : s'.isAuthenticated = s.isAuthenticated

/-- The messages for an ICMP flow, by the address that is tested. -/
def IcmpBatch (c : Config) (st : Stack) (buffer : Packet) (ts : List OctaneTimer) : Prop :=
  if packetInNet st.dstAddr then
    ∃ t, ts = [t] ∧ t.rou2Addr = c.icmpTarget st.dstAddr ∧
      FlowEntry.ofMsg t.iOctaneMsg = FlowEntry.ofBuffer st buffer ∧
      t.iOctaneMsg.octaneAction = c.icmpAction st.dstAddr
  else
    ∃ t t', ts = [t, t'] ∧ t.rou2Addr = c.rou2Addr ∧ t'.rou2Addr = c.rou2Addr ∧
      FlowEntry.ofMsg t.iOctaneMsg = FlowEntry.ofBuffer st buffer ∧
      FlowEntry.ofMsg t'.iOctaneMsg = (FlowEntry.ofBuffer st buffer).reverse ∧
      t.iOctaneMsg.octaneAction = 1 ∧ t'.iOctaneMsg.octaneAction = 1

/-- The messages for a TCP flow: four in a chain and two elsewhere. The target of
the packet gets one for the flow and one for its reverse. -/
structure TcpBatch (c : Config) (buffer : Packet) (addr : SockAddr) (entry : FlowEntry)
    (ts : List OctaneTimer) : Prop where
  length : ts.length = if c.stage = .s7 ∧ tcpUnpack buffer = 443 then 4 else 2
  forward : ∃ t ∈ ts, t.rou2Addr = addr ∧ FlowEntry.ofMsg t.iOctaneMsg = entry
  reverse : ∃ t ∈ ts, t.rou2Addr = addr ∧ FlowEntry.ofMsg t.iOctaneMsg = entry.reverse
  flow : ∀ t ∈ ts, FlowEntry.ofMsg t.iOctaneMsg = entry ∨
    FlowEntry.ofMsg t.iOctaneMsg = entry.reverse
  action : ∀ t ∈ ts, t.iOctaneMsg.octaneAction = 1

/-- What the loop does with a packet from the tunnel. -/
inductive TunnelOutcome (c : Config) (s : Primary) (st : Stack) (buffer : Packet)
    (clock : ℕ → Timeval) (s' : Primary) : Prop
  | icmpHit (hp : buffer.ipP = 1)
      (hhit : s.router.rouFlowTable.contains (.ofBuffer st buffer) = true)
      (hquiet : Quiet s s')
      (hsent : s'.sent = s.sent ++ [.data (c.icmpTarget st.dstAddr) buffer])
  | icmpMiss (ts : List OctaneTimer) (hp : buffer.ipP = 1)
      (hmiss : s.router.rouFlowTable.contains (.ofBuffer st buffer) = false)
      (hnew : NewFlow s s' st buffer clock (c.icmpTarget st.dstAddr) ts)
      (hts : IcmpBatch c st buffer ts)
  | tcpHit (hp : buffer.ipP = 6) (hstage : c.stage.tcp = true)
      (hhit : s.router.rouFlowTable.contains (.ofBuffer st buffer) = true)
      (hquiet : Quiet s s')
      (hsent : s'.sent = s.sent ++
        [.data (.local ((c.tcpTarget s.isAuthenticated buffer).getD st.targetPort)) buffer])
  | tcpMiss (ts : List OctaneTimer) (hp : buffer.ipP = 6) (hstage : c.stage.tcp = true)
      (hport : tcpUnpack buffer = 80 ∨ tcpUnpack buffer = 443)
      (hmiss : s.router.rouFlowTable.contains (.ofBuffer st buffer) = false)
      (hnew : NewFlow s s' st buffer clock
        (.local ((c.tcpTarget s.isAuthenticated buffer).getD st.targetPort)) ts)
      (hts : TcpBatch c buffer
        (.local ((c.tcpTarget s.isAuthenticated buffer).getD st.targetPort))
        (.ofBuffer st buffer) ts)
  | tcpOther (hp : buffer.ipP = 6) (hstage : c.stage.tcp = true)
      (hport : ¬ (tcpUnpack buffer = 80 ∨ tcpUnpack buffer = 443))
      (hmiss : s.router.rouFlowTable.contains (.ofBuffer st buffer) = false)
      (hquiet : Quiet s s')
      (hsent : s'.sent = s.sent ++
        [.data (.local ((c.tcpTarget s.isAuthenticated buffer).getD st.targetPort)) buffer])
  | ignored (hp : buffer.ipP ≠ 1) (hp' : ¬ (buffer.ipP = 6 ∧ c.stage.tcp = true))
      (hquiet : Quiet s s') (hsent : s'.sent = s.sent)

theorem flowCheck_ne_empty_iff (c : Config) (T : FlowTable) (entry : FlowEntry) :
    c.flowCheck T entry ≠ "" ↔ T.contains entry = true := by
  unfold Config.flowCheck
  split
  · exact T.flowCheckOut_ne_empty_iff entry entry
  · exact T.flowCheck_ne_empty_iff entry

/-- The messages for a new flow, and the logs around them. -/
theorem newFlow_of_transmitted {s s₀ s₁ s' : Primary} {st : Stack} {buffer : Packet}
    {clock : ℕ → Timeval} {addr : SockAddr} {ts : List OctaneTimer} (h₀ : Quiet s s₀)
    (hsent₀ : s₀.sent = s.sent)
    (h : Transmitted (s₀.dbInsert (s₀.localMsg st buffer addr) 65535) s₁ clock ts)
    (hchannel : s'.channel = s₁.channel) (hsent : s'.sent = s₁.sent ++ [.data addr buffer])
    (htable : s'.router.rouFlowTable = s₁.router.rouFlowTable)
    (hport : s'.router.iPortNum = s₁.router.iPortNum)
    (hauth : s'.isAuthenticated = s₁.isAuthenticated) :
    NewFlow s s' st buffer clock addr ts := by
  have hchannel₀ : (s₀.dbInsert (s₀.localMsg st buffer addr) 65535).channel = s.channel := by
    rw [channel_dbInsert, h₀.channel]
  have hcounter : (s₀.dbInsert (s₀.localMsg st buffer addr) 65535).router.iSeqnoCnt =
      s.router.iSeqnoCnt := congrArg Channel.iSeqnoCnt hchannel₀
  constructor
  · exact hcounter ▸ h.numbered
  · exact h.length
  · rw [hchannel, ← h.channel, hchannel₀]
  · rw [hsent, h.sent, ← hsent₀]
    rfl
  · rw [htable, h.router]
    simp only [dbInsert_rouFlowTable, h₀.rouFlowTable]
    rfl
  · rw [hport, h.router]
    simp only [dbInsert_iPortNum, h₀.iPortNum]
  · rw [hauth, h.isAuthenticated]
    exact h₀.isAuthenticated

/-- An ICMP packet from the tunnel. -/
theorem icmpFromTunnel_outcome {c : Config} {s s₀ s' : Primary} {st : Stack}
    {buffer : Packet} {clock : ℕ → Timeval} (h₀ : Quiet s s₀) (hsent₀ : s₀.sent = s.sent)
    (hp : buffer.ipP = 1)
    (h : s₀.icmpFromTunnel c st buffer clock
      (c.flowCheck s.router.rouFlowTable (.ofBuffer st buffer)) = some s') :
    TunnelOutcome c s st buffer clock s' := by
  obtain ⟨s₁, hhandled, rfl⟩ := Option.map_eq_some_iff.1 h
  by_cases hcheck : c.flowCheck s.router.rouFlowTable (.ofBuffer st buffer) ≠ ""
  · rw [if_pos hcheck] at hhandled
    obtain rfl := Option.some.inj hhandled
    have hquiet : Quiet s₀ (if c.stage = .s4 then s₀
        else s₀.logHit (c.flowCheck s.router.rouFlowTable (.ofBuffer st buffer))) := by
      split_ifs
      · exact ⟨rfl, rfl, rfl, rfl, rfl, rfl⟩
      · exact s₀.quiet_logHit _
    refine .icmpHit hp ((flowCheck_ne_empty_iff c _ _).1 hcheck)
      ((h₀.trans hquiet).trans (quiet_send _ _)) ?_
    simp only [send]
    congr 1
    split_ifs
    · exact hsent₀
    · rw [sent_logHit, hsent₀]
  · rw [if_neg hcheck] at hhandled
    obtain ⟨s₂, hbatch, rfl⟩ := Option.map_eq_some_iff.1 hhandled
    have hmiss := Bool.eq_false_iff.2 fun hc => hcheck ((flowCheck_ne_empty_iff c _ _).2 hc)
    have hlog := quiet_logInstalled c s₂ (.ofBuffer st buffer)
    have hnew : ∀ ts, Transmitted (s₀.dbInsert
          (s₀.localMsg st buffer (c.icmpTarget st.dstAddr)) 65535) s₂ clock ts →
        NewFlow s ((s₂.logInstalled c (.ofBuffer st buffer)).send
          (.data (c.icmpTarget st.dstAddr) buffer)) st buffer clock
          (c.icmpTarget st.dstAddr) ts := by
      intro ts hts
      refine newFlow_of_transmitted h₀ hsent₀ hts hlog.channel ?_ hlog.rouFlowTable
        hlog.iPortNum hlog.isAuthenticated
      simp [send]
    split_ifs at hbatch with hnet
    · obtain ⟨t, ht, haddr, hflow, haction⟩ := transmitted_of_dispatchOne hbatch
      refine .icmpMiss [t] hp hmiss (hnew _ ht) ?_
      unfold IcmpBatch
      rw [if_pos hnet]
      exact ⟨t, rfl, haddr, hflow, haction⟩
    · obtain ⟨t, t', ht, hspec⟩ := transmitted_of_dispatchPair hbatch
      refine .icmpMiss [t, t'] hp hmiss (hnew _ ht) ?_
      unfold IcmpBatch
      rw [if_neg hnet]
      exact ⟨t, t', rfl, hspec⟩

theorem transmitted_of_tcpDispatch {c : Config} {s s' : Primary} {st : Stack}
    {buffer : Packet} {clock : ℕ → Timeval} {addr : SockAddr}
    (h : s.tcpDispatch c st buffer clock addr = some s') :
    ∃ ts, Transmitted s s' clock ts ∧ TcpBatch c buffer addr (.ofBuffer st buffer) ts := by
  unfold tcpDispatch at h
  split_ifs at h with hchain
  · obtain ⟨t, t', u, u', ht, hta, ht'a, -, -, hte, ht'e, hue, hu'e, haction⟩ :=
      transmitted_of_dispatchChain h
    refine ⟨_, ht, (if_pos hchain).symm, ⟨t, by simp, hta, hte⟩, ⟨t', by simp, ht'a, ht'e⟩, ?_,
      haction⟩
    simp [hte, ht'e, hue, hu'e]
  · obtain ⟨t, t', ht, hta, ht'a, hte, ht'e, haction, haction'⟩ :=
      transmitted_of_dispatchPair h
    refine ⟨_, ht, (if_neg hchain).symm, ⟨t, by simp, hta, hte⟩, ⟨t', by simp, ht'a, ht'e⟩, ?_, ?_⟩
    · simp [hte, ht'e]
    · simp [haction, haction']

/-- A TCP packet from the tunnel. -/
theorem tcpFromTunnel_outcome {c : Config} {s s₀ s' : Primary} {st : Stack}
    {buffer : Packet} {clock : ℕ → Timeval} (h₀ : Quiet s s₀) (hsent₀ : s₀.sent = s.sent)
    (hp : buffer.ipP = 6) (hstage : c.stage.tcp = true)
    (h : s₀.tcpFromTunnel c st buffer clock
      (c.flowCheck s.router.rouFlowTable (.ofBuffer st buffer)) = some s') :
    TunnelOutcome c s st buffer clock s' := by
  unfold tcpFromTunnel at h
  rw [h₀.isAuthenticated] at h
  -- the idle flag, which the branch for other ports clears first
  obtain ⟨s₁, hs₁, h₁, hsent₁⟩ : ∃ s₁ : Primary,
      (if c.tcpTarget s.isAuthenticated buffer = none then s₀.clearRefresh else s₀) = s₁ ∧
        Quiet s s₁ ∧ s₁.sent = s.sent := by
    split_ifs
    · exact ⟨_, rfl, h₀.trans s₀.quiet_clearRefresh, hsent₀⟩
    · exact ⟨_, rfl, h₀, hsent₀⟩
  dsimp only at h
  rw [hs₁] at h
  obtain ⟨s₂, hhandled, rfl⟩ := Option.map_eq_some_iff.1 h
  unfold tcpHandle at hhandled
  by_cases hcheck : c.flowCheck s.router.rouFlowTable (.ofBuffer st buffer) ≠ ""
  · rw [if_pos hcheck] at hhandled
    obtain rfl := Option.some.inj hhandled
    refine .tcpHit hp hstage ((flowCheck_ne_empty_iff c _ _).1 hcheck)
      ((h₁.trans (quiet_logHit _ _)).trans (quiet_send _ _)) ?_
    simp [send, hsent₁]
  · have hmiss := Bool.eq_false_iff.2 fun hc => hcheck ((flowCheck_ne_empty_iff c _ _).2 hc)
    rw [if_neg hcheck] at hhandled
    by_cases hport : tcpUnpack buffer = 80 ∨ tcpUnpack buffer = 443
    · rw [if_pos hport] at hhandled
      obtain ⟨s₃, hbatch, rfl⟩ := Option.map_eq_some_iff.1 hhandled
      obtain ⟨ts, ht, hts⟩ := transmitted_of_tcpDispatch hbatch
      have hlog := quiet_logInstalled c s₃ (.ofBuffer st buffer)
      refine .tcpMiss ts hp hstage hport hmiss ?_ hts
      refine newFlow_of_transmitted h₁ hsent₁ ht ?_ ?_ ?_ ?_ ?_
      · simp [hlog.channel]
      · simp [send]
      · rw [← hlog.rouFlowTable]
        unfold rememberAuth
        split_ifs <;> rfl
      · rw [← hlog.iPortNum]
        unfold rememberAuth
        split_ifs <;> rfl
      · rw [← hlog.isAuthenticated]
        unfold rememberAuth
        split_ifs <;> rfl
    · rw [if_neg hport] at hhandled
      obtain rfl := Option.some.inj hhandled
      refine .tcpOther hp hstage hport hmiss
        ((h₁.trans (quiet_clearRefresh _)).trans (quiet_send _ _)) ?_
      simp [send, clearRefresh, hsent₁]

/-- Every reaction to a packet from the tunnel is one of the outcomes. -/
theorem fromTunnel_outcome {c : Config} {s s' : Primary} {st : Stack} {buffer : Packet}
    {clock : ℕ → Timeval} (h : s.fromTunnel c st buffer clock = some s') :
    TunnelOutcome c s st buffer clock s' := by
  unfold fromTunnel at h
  have h₀ := s.quiet_icmpForwardLog st buffer .fromTunnel (ntohs c.rou2Addr.sinPort).toNat true
  simp only [CRouter.icmpForwardLog_protocol] at h
  split_ifs at h with hp hp'
  · exact icmpFromTunnel_outcome h₀ rfl hp h
  · exact tcpFromTunnel_outcome h₀ rfl hp'.1 hp'.2 h
  · obtain rfl := Option.some.inj h
    exact .ignored hp hp' (h₀.trans (quiet_clearRefresh _)) rfl

/-- In short: a new flow, or no message and at most the packet. -/
theorem quiet_or_newFlow {c : Config} {s s' : Primary} {st : Stack} {buffer : Packet}
    {clock : ℕ → Timeval} (h : s.fromTunnel c st buffer clock = some s') :
    (Quiet s s' ∧ (s'.sent = s.sent ∨ ∃ addr, s'.sent = s.sent ++ [.data addr buffer])) ∨
      ∃ addr ts, NewFlow s s' st buffer clock addr ts := by
  cases fromTunnel_outcome h with
  | icmpHit _ _ hquiet hsent => exact Or.inl ⟨hquiet, Or.inr ⟨_, hsent⟩⟩
  | icmpMiss ts _ _ hnew _ => exact Or.inr ⟨_, ts, hnew⟩
  | tcpHit _ _ _ hquiet hsent => exact Or.inl ⟨hquiet, Or.inr ⟨_, hsent⟩⟩
  | tcpMiss ts _ _ _ _ hnew _ => exact Or.inr ⟨_, ts, hnew⟩
  | tcpOther _ _ _ _ hquiet hsent => exact Or.inl ⟨hquiet, Or.inr ⟨_, hsent⟩⟩
  | ignored _ _ hquiet hsent => exact Or.inl ⟨hquiet, Or.inl hsent⟩

/-! ### When a reaction is defined -/

theorem dispatch_isSome {s : Primary} {clock : ℕ → Timeval} {ts : List OctaneTimer}
    (h : s.timersManager.nextHandle + ts.length ≤ 2147483647) :
    (s.dispatch clock ts).isSome = true := by
  unfold dispatch
  rw [Option.isSome_map]
  exact Timers.addTimers_isSome h

/-- A packet from the tunnel is handled as long as four more timers fit into the
handle counter. -/
theorem fromTunnel_isSome {c : Config} {s : Primary} {st : Stack} {buffer : Packet}
    {clock : ℕ → Timeval} (h : s.timersManager.nextHandle + 4 ≤ 2147483647) :
    (s.fromTunnel c st buffer clock).isSome = true := by
  have hone : ∀ {s₁ : Primary} {action addr},
      s₁.timersManager.nextHandle = s.timersManager.nextHandle →
      (s₁.dispatchOne st buffer clock action addr).isSome = true := by
    intro s₁ action addr hs₁
    refine dispatch_isSome ?_
    change s₁.timersManager.nextHandle + 1 ≤ _
    omega
  have hpair : ∀ {s₁ : Primary} {addr},
      s₁.timersManager.nextHandle = s.timersManager.nextHandle →
      (s₁.dispatchPair st buffer clock addr).isSome = true := by
    intro s₁ addr hs₁
    refine dispatch_isSome ?_
    change s₁.timersManager.nextHandle + 2 ≤ _
    omega
  have hchain : ∀ {s₁ : Primary} {addr},
      s₁.timersManager.nextHandle = s.timersManager.nextHandle →
      (s₁.dispatchChain c st buffer clock addr).isSome = true := by
    intro s₁ addr hs₁
    refine dispatch_isSome ?_
    change s₁.timersManager.nextHandle + 4 ≤ _
    omega
  unfold fromTunnel
  dsimp only
  split_ifs
  · unfold icmpFromTunnel
    rw [Option.isSome_map]
    split_ifs
    · rfl
    · rfl
    · unfold icmpMiss
      rw [Option.isSome_map]
      split_ifs
      · exact hone rfl
      · exact hpair rfl
  · unfold tcpFromTunnel tcpHandle
    rw [Option.isSome_map]
    split_ifs
    all_goals first
      | rfl
      | unfold tcpMiss tcpDispatch
        rw [Option.isSome_map]
        split_ifs
        · exact hchain rfl
        · exact hpair rfl
  · rfl

/-! ### The socket and the timers -/

/-- What the loop does with a datagram on the socket: the log apart, it passes a
packet on, or it takes an acknowledgement and, in stage 9, an action-5
message. -/
inductive SocketOutcome (c : Config) (s : Primary) (buffer : Packet) (s' : Primary) : Prop
  | forward (hp : buffer.ipP ≠ octaneProtocolNum) (hquiet : Quiet s s')
      (hsent : s'.sent = s.sent ∨ s'.sent = s.sent ++ [.tunnel buffer])
  | octane (s₀ : Primary) (hp : buffer.ipP = octaneProtocolNum) (hquiet : Quiet s s₀)
      (hsent : s₀.sent = s.sent) (heq : s' = s₀.octaneFromSocket c buffer.octane)

theorem fromSocket_outcome (c : Config) (s : Primary) (st : Stack) (buffer : Packet)
    (iPort : ℤ) : SocketOutcome c s buffer (s.fromSocket c st buffer iPort) := by
  have h₀ := s.quiet_icmpForwardLog st buffer .fromUdp iPort true
  unfold fromSocket
  simp only [CRouter.icmpForwardLog_protocol]
  generalize hs₀ : ({ s with
    bRefreshTimeout := true
    router := (s.router.icmpForwardLog st buffer .fromUdp iPort).1 } : Primary) = s₀ at h₀ ⊢
  have hsent₀ : s₀.sent = s.sent := by rw [← hs₀]
  obtain ⟨s₁, hs₁, h₁, hsent₁⟩ : ∃ s₁ : Primary,
      (if c.stage = .s4 then s₀ else
        s₀.logHit (c.flowCheck s.router.rouFlowTable (.ofBuffer st buffer))) = s₁ ∧
        Quiet s s₁ ∧ s₁.sent = s.sent := by
    split_ifs
    · exact ⟨_, rfl, h₀, hsent₀⟩
    · exact ⟨_, rfl, h₀.trans (quiet_logHit _ _), by simp [hsent₀]⟩
  rw [hs₁]
  split_ifs with hp hp'
  · refine .forward ?_ (h₁.trans (quiet_send _ _)) (Or.inr (by simp [send, hsent₁]))
    intro hp'
    rw [hp'] at hp
    revert hp
    simp [octaneProtocolNum]
  · exact .octane s₁ hp' h₁ hsent₁ rfl
  · exact .forward hp' (h₁.trans (quiet_clearRefresh _)) (Or.inl hsent₁)

theorem channel_octaneFromSocket (c : Config) (s : Primary) (octMsg : OctaneControl) :
    (s.octaneFromSocket c octMsg).channel =
      if octMsg.octaneFlags = 1 then s.channel.acknowledge octMsg.octaneSeqno.toNat
      else s.channel := by
  unfold octaneFromSocket
  dsimp only
  split_ifs <;> simp

/-- The flow that an action-5 message names: its source address is in the byte
order of the host. -/
def portalFlow (octMsg : OctaneControl) : FlowEntry :=
  .ofMsg { octMsg with octaneSourceIp := htonl octMsg.octaneSourceIp }

/-- The messages of `authenticate`: the first keeps the sequence number of the
action-5 message, the second has the number 0. -/
theorem sent_authenticate (c : Config) (s : Primary) (octMsg : OctaneControl) :
    ∃ msg msgRev, (s.authenticate c octMsg).sent = s.sent ++
        [.control (.local c.secondRouter1Port) msg,
          .control (.local c.secondRouter1Port) msgRev] ∧
      msg.octaneSeqno = octMsg.octaneSeqno ∧ msgRev.octaneSeqno = 0 ∧
      FlowEntry.ofMsg msg = portalFlow octMsg ∧
      FlowEntry.ofMsg msgRev = (portalFlow octMsg).reverse ∧
      msg.octaneAction = 1 ∧ msgRev.octaneAction = 1 :=
  ⟨_, _, List.append_assoc _ _ _, rfl, rfl, rfl, rfl, rfl, rfl⟩

theorem sent_octaneFromSocket (c : Config) (s : Primary) (octMsg : OctaneControl) :
    s.sent <+: (s.octaneFromSocket c octMsg).sent := by
  have hauth : ∀ s₁ : Primary, s₁.sent = s.sent →
      s.sent <+: (if c.stage = .s9 ∧ octMsg.octaneAction = 5 then s₁.authenticate c octMsg
        else s₁).sent := by
    intro s₁ hs₁
    split_ifs
    · obtain ⟨msg, msgRev, hsent, -⟩ := s₁.sent_authenticate c octMsg
      exact ⟨_, by rw [hsent, hs₁]⟩
    · exact hs₁ ▸ List.prefix_refl _
  unfold octaneFromSocket
  refine hauth _ ?_
  split_ifs <;> rfl

end Primary

open Primary

/-- Whatever the loop reacts to, the control channel makes one of its own
steps. -/
theorem primStep_channel {c : Config} {s s' : Primary} {e : PrimEvent}
    (h : primStep c s e = some s') : Channel.Step s.channel s'.channel := by
  cases e with
  | tunnel st buffer clock =>
      rcases quiet_or_newFlow h with ⟨hquiet, -⟩ | ⟨addr, ts, hnew⟩
      · exact hquiet.channel ▸ .idle _
      · exact .transmit clock ts hnew.numbered hnew.length hnew.channel
  | socket st buffer iPort =>
      obtain rfl := Option.some.inj h
      cases fromSocket_outcome c s st buffer iPort with
      | forward _ hquiet _ => exact hquiet.channel ▸ .idle _
      | octane s₀ _ hquiet _ heq =>
          rw [heq, channel_octaneFromSocket, hquiet.channel]
          split_ifs
          · exact .acknowledge _ _
          · exact .idle _
  | expire now =>
      obtain ⟨⟨T, t⟩, hexec, rfl⟩ := Option.map_eq_some_iff.1 h
      exact .expire now hexec
