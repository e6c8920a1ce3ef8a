import SimpleSDN.Primary.Destination
import SimpleSDN.Primary.RuleBeforeData
import SimpleSDN.Secondary.Install

/-!
# The TCP flows of a primary router

In stages 6, 7 and 10 the secondary router a TCP packet goes to depends on its ports
alone. When the packets to ports 80 and 443 have no wildcards and differ from their
own reverse, the primary router serves a list of flows: its table holds their entries
and the reverse of them, and the control messages it has made ask for the rules of
these flows and no others (`Served`).
-/

theorem Stage.tcp_of_byPort {stage : Stage} (h : stage.byPort = true) : stage.tcp = true := by
  cases stage <;> simp_all [byPort, tcp]

namespace Config

/-- The rules for the flow with the entry `f`. -/
def flowRules (c : Config) (iPortNum : UInt16) (f : FlowEntry) :
    List (SockAddr × FlowEntry × FlowAction) :=
  c.tcpRules iPortNum (ntohs f.dstPort) (.local (c.webTarget f)) f

variable {c : Config} {iPortNum : UInt16} {addr : SockAddr} {f e : FlowEntry}
  {a a' : FlowAction}

theorem flowRules_chain (hstage : c.stage = .s7) (hport : ntohs f.dstPort = 443) :
    c.flowRules iPortNum f =
      [(.local c.secondRouter1Port, f, ⟨ntohs c.secondRouter2Port, 1⟩),
        (.local c.secondRouter1Port, f.reverse, ⟨iPortNum, 1⟩),
        (.local c.secondRouter2Port, f, ⟨0, 1⟩),
        (.local c.secondRouter2Port, f.reverse, ⟨ntohs c.secondRouter1Port, 1⟩)] := by
  rw [flowRules, tcpRules, if_pos ⟨hstage, hport⟩, webTarget, hstage]

theorem flowRules_pair (h : ¬ (c.stage = .s7 ∧ ntohs f.dstPort = 443)) :
    c.flowRules iPortNum f =
      [(.local (c.webTarget f), f, ⟨0, 1⟩), (.local (c.webTarget f), f.reverse, ⟨iPortNum, 1⟩)] :=
  if_neg h

/-- A rule for a flow forwards, and is about its entry or the reverse of it. -/
theorem of_mem_flowRules (h : (addr, e, a) ∈ c.flowRules iPortNum f) :
    (e = f ∨ e = f.reverse) ∧ a.action = 1 := by
  by_cases hchain : c.stage = .s7 ∧ ntohs f.dstPort = 443
  · rw [flowRules_chain hchain.1 hchain.2] at h
    simp only [List.mem_cons, Prod.mk.injEq, List.not_mem_nil, or_false] at h
    rcases h with ⟨-, rfl, rfl⟩ | ⟨-, rfl, rfl⟩ | ⟨-, rfl, rfl⟩ | ⟨-, rfl, rfl⟩ <;> simp
  · rw [flowRules_pair hchain] at h
    simp only [List.mem_cons, Prod.mk.injEq, List.not_mem_nil, or_false] at h
    rcases h with ⟨-, rfl, rfl⟩ | ⟨-, rfl, rfl⟩ <;> simp

/-- At one secondary router there is one action for an entry. -/
theorem action_unique (hports : c.secondRouter1Port ≠ c.secondRouter2Port)
    (hne : f ≠ f.reverse) (h : (addr, e, a) ∈ c.flowRules iPortNum f)
    (h' : (addr, e, a') ∈ c.flowRules iPortNum f) : a = a' := by
  have haddr : SockAddr.local c.secondRouter1Port ≠ .local c.secondRouter2Port :=
    fun heq => hports (congrArg SockAddr.sinPort heq)
  by_cases hchain : c.stage = .s7 ∧ ntohs f.dstPort = 443
  · rw [flowRules_chain hchain.1 hchain.2] at h h'
    simp only [List.mem_cons, Prod.mk.injEq, List.not_mem_nil, or_false] at h h'
    grind
  · rw [flowRules_pair hchain] at h h'
    simp only [List.mem_cons, Prod.mk.injEq, List.not_mem_nil, or_false] at h h'
    grind

end Config

/-- The packet from the tunnel in the event. -/
def PrimEvent.tunnelled : PrimEvent → Option Packet
  | .tunnel _ p _ => some p
  | _ => none

/-- The packets from the tunnel are not ICMP, and those to ports 80 and 443 have no
wildcards and are not their own reverse. -/
def TcpOnly (e : PrimEvent) : Prop :=
  ∀ p, e.tunnelled = some p → p.ipP ≠ 1 ∧
    (WebPacket p → ¬ p.entry.Wild ∧ p.entry ≠ p.entry.reverse)

theorem tcpOnly_of_tunnelled_eq_none {e : PrimEvent} (h : e.tunnelled = none) : TcpOnly e := by
  intro p hp
  rw [h] at hp
  exact absurd hp (Option.some_ne_none p).symm

namespace Primary

/-- The flows that the primary router has served. -/
structure Served (c : Config) (s : Primary) (flows : List FlowEntry) : Prop where
  table : s.router.rouFlowTable.TcpRules
  keys : ∀ r, r ∈ s.router.rouFlowTable.keys ↔ ∃ f ∈ flows, r = f ∨ r = f.reverse
  rules : ∀ x, x ∈ s.created.map OctaneTimer.rule ↔
    ∃ f ∈ flows, x ∈ c.flowRules (UInt16.ofInt s.router.iPortNum) f
  flow : ∀ f ∈ flows, f.Tcp ∧ f ≠ f.reverse
  separate : ∀ f ∈ flows, ∀ g ∈ flows, f = g ∨ f = g.reverse → f = g

variable {c : Config} {s s' t : Primary} {flows : List FlowEntry}

theorem served_start {router : CRouter} {auth authRev : OctaneControl}
    (hempty : router.rouFlowTable.entries = []) : Served c (start router auth authRev) [] where
  table := StdMap.orderedOn_of_entries_eq_nil hempty FlowEntry.strictWeakOn_tcpKeys
  keys r := by
    have hkeys : ¬ r ∈ (start router auth authRev).router.rouFlowTable.keys := by
      rintro ⟨v, hv⟩
      have hv : (r, v) ∈ router.rouFlowTable.entries := hv
      rw [hempty] at hv
      exact absurd hv List.not_mem_nil
    simp [hkeys]
  rules x := by simp [start]
  flow f hf := absurd hf List.not_mem_nil
  separate f hf := absurd hf List.not_mem_nil

/-- The messages for one address ask for one action on an entry. -/
theorem Served.action_unique (h : Served c s flows)
    (hports : c.secondRouter1Port ≠ c.secondRouter2Port) {addr : SockAddr} {e : FlowEntry}
    {a a' : FlowAction} (ha : (addr, e, a) ∈ s.created.map OctaneTimer.rule)
    (ha' : (addr, e, a') ∈ s.created.map OctaneTimer.rule) : a = a' := by
  obtain ⟨f, hf, hrule⟩ := (h.rules _).1 ha
  obtain ⟨g, hg, hrule'⟩ := (h.rules _).1 ha'
  have heq : f = g ∨ f = g.reverse := by
    rcases (Config.of_mem_flowRules hrule).1 with rfl | hrev
    · exact (Config.of_mem_flowRules hrule').1
    · rcases (Config.of_mem_flowRules hrule').1 with hentry | hentry
      · exact Or.inr (congrArg FlowEntry.reverse (hentry.symm.trans hrev)).symm
      · exact Or.inl (congrArg FlowEntry.reverse (hrev.symm.trans hentry))
  obtain rfl := h.separate f hf g hg heq
  exact Config.action_unique hports (h.flow f hf).2 hrule hrule'

/-- A step that makes no message and keeps the table. -/
theorem Served.of_eq (h : Served c s flows)
    (htable : s'.router.rouFlowTable = s.router.rouFlowTable)
    (hcreated : s'.created = s.created) (hport : s'.router.iPortNum = s.router.iPortNum) :
    Served c s' flows where
  table := htable ▸ h.table
  keys := htable ▸ h.keys
  rules := by
    rw [hcreated, hport]
    exact h.rules
  flow := h.flow
  separate := h.separate

/-- A new flow. -/
theorem Served.newFlow (h : Served c s flows) (hstage : c.stage.byPort = true) {st : Stack}
    {p : Packet} {clock : ℕ → Timeval} {addr : SockAddr} {ts : List OctaneTimer}
    (hweb : WebPacket p) (hwild : ¬ p.entry.Wild) (hne : p.entry ≠ p.entry.reverse)
    (hstep : s.fromTunnel c st p clock = some s')
    (hmiss : s.router.rouFlowTable.contains p.entry = false)
    (hnew : NewFlow s s' st p clock addr ts) : Served c s' (p.entry :: flows) := by
  have htcp : p.entry.Tcp := ⟨hwild, by simp [Packet.entry, hweb.1]⟩
  have hentry : FlowEntry.ofMsg (s.localMsg st p addr) = p.entry := ofBuffer_tcp hweb.1 st
  have hlocal : (FlowEntry.ofMsg (s.localMsg st p addr)).Tcp := hentry ▸ htcp
  have hnot : p.entry ∉ s.router.rouFlowTable.keys := by
    rw [← h.table.contains_iff htcp, hmiss]
    exact Bool.false_ne_true
  have hrules : ts.map OctaneTimer.rule =
      c.flowRules (UInt16.ofInt s.router.iPortNum) p.entry := by
    rw [hnew.rules hstep hweb.1 (Stage.tcp_of_byPort hstage) hweb.2
      (by rwa [ofBuffer_tcp hweb.1]), Config.flowRules, ofBuffer_tcp hweb.1,
      Config.tcpTarget_eq hstage hweb, tcpUnpack_eq hweb.1]
    rfl
  have hcreated : s'.created = ts.reverse ++ s.created :=
    Channel.created_of_transmit hnew.channel
  have hnone : ∀ g ∈ flows, ¬ (p.entry = g ∨ p.entry = g.reverse) :=
    fun g hg heq => hnot ((h.keys _).2 ⟨g, hg, heq⟩)
  constructor
  · rw [hnew.rouFlowTable]
    exact h.table.dbInsert hlocal _
  · intro r
    rw [hnew.rouFlowTable, h.table.mem_keys_dbInsert_iff hlocal, hentry, h.keys]
    simp only [List.mem_cons, exists_eq_or_imp]
  · intro x
    rw [hcreated, hnew.iPortNum, List.map_append, List.mem_append, List.map_reverse,
      List.mem_reverse, hrules]
    simp only [List.mem_cons, exists_eq_or_imp]
    exact or_congr_right (h.rules x)
  · intro f hf
    rcases List.mem_cons.1 hf with rfl | hf
    · exact ⟨htcp, hne⟩
    · exact h.flow f hf
  · intro f hf g hg heq
    rcases List.mem_cons.1 hf with rfl | hold
    · rcases List.mem_cons.1 hg with hgp | hold
      · exact hgp.symm
      · exact absurd heq (hnone g hold)
    · rcases List.mem_cons.1 hg with rfl | hold'
      · refine absurd ?_ (hnone f hold)
        rcases heq with heq | heq
        · exact Or.inl heq.symm
        · exact Or.inr (congrArg FlowEntry.reverse heq).symm
      · exact h.separate f hold g hold' heq

/-- After the event, the flows `flows'` have been served instead of `flows`: there is at
most that of the packet in addition, and a packet to port 80 or 443 has a key. -/
structure Extends (c : Config) (s' : Primary) (e : PrimEvent) (flows flows' : List FlowEntry) :
    Prop where
  served : Served c s' flows'
  subset : flows ⊆ flows'
  new : ∀ f ∈ flows', f ∈ flows ∨ ∃ p, e.tunnelled = some p ∧ WebPacket p ∧ p.entry = f
  packet : ∀ p, e.tunnelled = some p → WebPacket p → p.entry ∈ s'.router.rouFlowTable.keys

theorem Served.extends_of_eq (h : Served c s flows) {e : PrimEvent}
    (htable : s'.router.rouFlowTable = s.router.rouFlowTable)
    (hcreated : s'.created = s.created) (hport : s'.router.iPortNum = s.router.iPortNum)
    (hkey : ∀ p, e.tunnelled = some p → WebPacket p → p.entry ∈ s.router.rouFlowTable.keys) :
    s'.router.iPortNum = s.router.iPortNum ∧ ∃ flows', Extends c s' e flows flows' := by
  refine ⟨hport, flows, h.of_eq htable hcreated hport, List.Subset.refl _, ?_, ?_⟩
  · exact fun f hf => Or.inl hf
  · exact htable ▸ hkey

/-- The step lemma for a packet from the tunnel. -/
theorem Served.tunnel (h : Served c s flows) (hstage : c.stage.byPort = true) {st : Stack}
    {p : Packet} {clock : ℕ → Timeval} (he : TcpOnly (.tunnel st p clock))
    (hstep : s.fromTunnel c st p clock = some s') :
    s'.router.iPortNum = s.router.iPortNum ∧
      ∃ flows', Extends c s' (.tunnel st p clock) flows flows' := by
  obtain ⟨hicmp, hflow⟩ := he p rfl
  have hquiet : Quiet s s' → (WebPacket p → p.entry ∈ s.router.rouFlowTable.keys) →
      s'.router.iPortNum = s.router.iPortNum ∧
        ∃ flows', Extends c s' (.tunnel st p clock) flows flows' := by
    intro hquiet hkey
    refine h.extends_of_eq hquiet.rouFlowTable hquiet.created hquiet.iPortNum ?_
    intro q hq hweb
    obtain rfl := Option.some.inj hq
    exact hkey hweb
  cases fromTunnel_outcome hstep with
  | icmpHit hp => exact absurd hp hicmp
  | icmpMiss ts hp => exact absurd hp hicmp
  | tcpHit hp _ hhit hq _ =>
      refine hquiet hq fun hweb => ?_
      rw [ofBuffer_tcp hp] at hhit
      have htcp : p.entry.Tcp := ⟨(hflow hweb).1, by simp [Packet.entry, hp]⟩
      exact (h.table.contains_iff htcp).1 hhit
  | tcpMiss ts hp _ hport hmiss hnew _ =>
      rw [ofBuffer_tcp hp] at hmiss
      obtain ⟨hwild, hne⟩ := hflow ⟨hp, hport⟩
      have hserved := h.newFlow hstage ⟨hp, hport⟩ hwild hne hstep hmiss hnew
      refine ⟨hnew.iPortNum, p.entry :: flows, hserved, List.subset_cons_self _ _, ?_, ?_⟩
      · intro f hf
        rcases List.mem_cons.1 hf with rfl | hf
        · exact Or.inr ⟨p, rfl, ⟨hp, hport⟩, rfl⟩
        · exact Or.inl hf
      · intro q hq _
        obtain rfl := Option.some.inj hq
        exact (hserved.keys _).2 ⟨_, List.mem_cons_self, Or.inl rfl⟩
  | tcpOther _ _ hport _ hq _ => exact hquiet hq fun hweb => absurd hweb.2 hport
  | ignored _ hp hq _ =>
      exact hquiet hq fun hweb => absurd ⟨hweb.1, Stage.tcp_of_byPort hstage⟩ hp

/-- The step lemma. -/
theorem Served.step (h : Served c s flows) (hstage : c.stage.byPort = true) {e : PrimEvent}
    (he : TcpOnly e) (hstep : primStep c s e = some s') :
    s'.router.iPortNum = s.router.iPortNum ∧ ∃ flows', Extends c s' e flows flows' := by
  cases e with
  | tunnel st p clock => exact h.tunnel hstage he hstep
  | socket st p iPort =>
      obtain rfl := Option.some.inj hstep
      have hnone : ∀ q, (PrimEvent.socket st p iPort).tunnelled = some q → WebPacket q →
          q.entry ∈ s.router.rouFlowTable.keys := fun q hq => absurd hq (Option.some_ne_none q).symm
      cases fromSocket_outcome c s st p iPort with
      | forward _ hquiet _ =>
          exact h.extends_of_eq hquiet.rouFlowTable hquiet.created hquiet.iPortNum hnone
      | octane s₀ _ hquiet _ heq =>
          have h9 : c.stage ≠ .s9 := by
            intro h9
            rw [h9] at hstage
            exact absurd hstage (by decide)
          rw [heq, octaneFromSocket, if_neg fun h => h9 h.1]
          split_ifs
          all_goals
            exact h.extends_of_eq hquiet.rouFlowTable hquiet.created hquiet.iPortNum hnone
  | expire now =>
      obtain ⟨⟨T, t⟩, -, rfl⟩ := Option.map_eq_some_iff.1 hstep
      exact h.extends_of_eq rfl rfl rfl fun q hq => absurd hq (Option.some_ne_none q).symm

/-- The run lemma. -/
theorem Served.run (h : Served c s flows) (hstage : c.stage.byPort = true)
    {es : List PrimEvent} (hes : ∀ e ∈ es, TcpOnly e) (hrun : run (primStep c) s es = some t) :
    t.router.iPortNum = s.router.iPortNum ∧ ∃ flows', Served c t flows' ∧ flows ⊆ flows' ∧
      (∀ f ∈ flows', f ∈ flows ∨
        ∃ p ∈ es.filterMap PrimEvent.tunnelled, WebPacket p ∧ p.entry = f) ∧
      ∀ p ∈ es.filterMap PrimEvent.tunnelled, WebPacket p →
        p.entry ∈ t.router.rouFlowTable.keys := by
  induction es generalizing s flows with
  | nil =>
      obtain rfl : s = t := by simpa using hrun
      exact ⟨rfl, flows, h, List.Subset.refl _, fun f hf => Or.inl hf,
        fun p hp => absurd hp List.not_mem_nil⟩
  | cons e es ih =>
      obtain ⟨s₁, hstep, hrest⟩ := run_cons.1 hrun
      obtain ⟨hport, flows₁, h₁⟩ := h.step hstage (hes e List.mem_cons_self) hstep
      obtain ⟨hport', flows', h', hsub, hnew, hpackets⟩ :=
        ih h₁.served (fun e' he' => hes e' (List.mem_cons_of_mem e he')) hrest
      have hmem : ∀ p, p ∈ (e :: es).filterMap PrimEvent.tunnelled ↔
          e.tunnelled = some p ∨ p ∈ es.filterMap PrimEvent.tunnelled := by
        intro p
        simp only [List.mem_filterMap, List.mem_cons, exists_eq_or_imp]
      refine ⟨hport'.trans hport, flows', h', List.Subset.trans h₁.subset hsub, ?_, ?_⟩
      · intro f hf
        rcases hnew f hf with hf | ⟨p, hp, hweb, rfl⟩
        · rcases h₁.new f hf with hf | ⟨p, hp, hweb, rfl⟩
          · exact Or.inl hf
          · exact Or.inr ⟨p, (hmem p).2 (Or.inl hp), hweb, rfl⟩
        · exact Or.inr ⟨p, (hmem p).2 (Or.inr hp), hweb, rfl⟩
      · intro p hp hweb
        rcases (hmem p).1 hp with hp | hp
        · obtain ⟨f, hf, heq⟩ := (h₁.served.keys _).1 (h₁.packet p hp hweb)
          exact (h'.keys _).2 ⟨f, hsub hf, heq⟩
        · exact hpackets p hp hweb

/-! ### The messages for a secondary router -/

/-- The control messages that have been made for an address. -/
def messagesFor (s : Primary) (addr : SockAddr) : Set OctaneControl :=
  {m | ∃ t ∈ s.created, t.rou2Addr = addr ∧ t.iOctaneMsg = m}

theorem rule_mem_of_messagesFor {addr : SockAddr} {m : OctaneControl}
    (h : m ∈ s.messagesFor addr) :
    (addr, FlowEntry.ofMsg m, FlowAction.ofMsg m) ∈ s.created.map OctaneTimer.rule := by
  obtain ⟨t, ht, rfl, rfl⟩ := h
  exact List.mem_map_of_mem ht

/-- A rule that is asked for is in a message. -/
theorem exists_messagesFor {addr : SockAddr} {e : FlowEntry} {a : FlowAction}
    (h : (addr, e, a) ∈ s.created.map OctaneTimer.rule) :
    ∃ m ∈ s.messagesFor addr, FlowEntry.ofMsg m = e ∧ FlowAction.ofMsg m = a := by
  obtain ⟨t, ht, hrule⟩ := List.mem_map.1 h
  obtain ⟨haddr, hflow⟩ := Prod.mk.inj hrule
  obtain ⟨hentry, haction⟩ := Prod.mk.inj hflow
  exact ⟨t.iOctaneMsg, ⟨t, ht, haddr, rfl⟩, hentry, haction⟩

theorem Served.coherent (h : Served c s flows)
    (hports : c.secondRouter1Port ≠ c.secondRouter2Port) (addr : SockAddr) :
    Coherent (s.messagesFor addr) where
  forwards m hm := by
    obtain ⟨f, hf, hrule⟩ := (h.rules _).1 (rule_mem_of_messagesFor hm)
    obtain ⟨hentry, haction⟩ := Config.of_mem_flowRules hrule
    refine ⟨?_, haction⟩
    rcases hentry with hentry | hentry
    · exact hentry ▸ (h.flow f hf).1
    · exact hentry ▸ (h.flow f hf).1.reverse
  action m hm m' hm' heq :=
    h.action_unique hports (rule_mem_of_messagesFor hm) (heq ▸ rule_mem_of_messagesFor hm')

end Primary
