import SimpleSDN.Primary.Flows

/-!
# The rules of a run, each made once

In stages 6, 7 and 10, when the packets to ports 80 and 443 have no wildcards and differ
from their own reverse, the messages that the primary router makes are determined by the
packets it has read from the tunnel: one batch for each flow, in either direction, at its
first packet (`planned_of_run`). Acknowledgements, expiries and packets from the secondary
routers in between change nothing, and no rule is made twice.
-/

/-- The flows with that of the packet, if it is one to port 80 or 443 and neither the flow
nor its reverse is there. -/
def addFlow (flows : List FlowEntry) (p : Packet) : List FlowEntry :=
  if WebPacket p ∧ p.entry ∉ flows ∧ p.entry.reverse ∉ flows then p.entry :: flows else flows

/-- The flows of the packets, the last one first. -/
def flowsOf (packets : List Packet) : List FlowEntry := packets.foldl addFlow []

theorem addFlow_of_not_web {flows : List FlowEntry} {p : Packet} (h : ¬ WebPacket p) :
    addFlow flows p = flows :=
  if_neg fun h' => h h'.1

namespace Config

variable {c : Config} {iPortNum : UInt16}

/-- The rules for the flows, those of a flow together and the last one first. -/
def plan (c : Config) (iPortNum : UInt16) (flows : List FlowEntry) :
    List (SockAddr × FlowEntry × FlowAction) :=
  flows.flatMap fun f => (c.flowRules iPortNum f).reverse

/-- No rule is asked for twice for a flow. -/
theorem nodup_flowRules (hports : c.secondRouter1Port ≠ c.secondRouter2Port) {f : FlowEntry}
    (hne : f ≠ f.reverse) : (c.flowRules iPortNum f).Nodup := by
  have haddr : SockAddr.local c.secondRouter1Port ≠ .local c.secondRouter2Port :=
    fun heq => hports (congrArg SockAddr.sinPort heq)
  by_cases hchain : c.stage = .s7 ∧ ntohs f.dstPort = 443
  · rw [flowRules_chain hchain.1 hchain.2]
    simp [hne, haddr]
  · rw [flowRules_pair hchain]
    simp [hne]

/-- No rule is asked for twice for flows that are not in each other's way. -/
theorem nodup_plan (hports : c.secondRouter1Port ≠ c.secondRouter2Port) {flows : List FlowEntry}
    (hnodup : flows.Nodup) (hne : ∀ f ∈ flows, f ≠ f.reverse)
    (hseparate : ∀ f ∈ flows, ∀ g ∈ flows, f = g ∨ f = g.reverse → f = g) :
    (c.plan iPortNum flows).Nodup := by
  refine List.nodup_flatMap.2 ⟨fun f hf => ?_, ?_⟩
  · exact List.nodup_reverse.2 (nodup_flowRules hports (hne f hf))
  · refine hnodup.imp_of_mem fun hf hg hfg => ?_
    rintro ⟨addr, e, a⟩ he he'
    have hef := (of_mem_flowRules (List.mem_reverse.1 he)).1
    have heg := (of_mem_flowRules (List.mem_reverse.1 he')).1
    refine hfg (hseparate _ hf _ hg ?_)
    rcases hef with rfl | rfl
    · exact heg
    · rcases heg with heg | heg
      · exact Or.inr (congrArg FlowEntry.reverse heg)
      · exact Or.inl (congrArg FlowEntry.reverse heg)

end Config

namespace Primary

variable {c : Config} {s s' t : Primary} {flows : List FlowEntry}

/-- The flows have been served, and the messages are those of their plan. -/
structure Planned (c : Config) (s : Primary) (flows : List FlowEntry) : Prop where
  served : Served c s flows
  nodup : flows.Nodup
  rules : s.created.map OctaneTimer.rule = c.plan (UInt16.ofInt s.router.iPortNum) flows

theorem Planned.of_eq (h : Planned c s flows)
    (htable : s'.router.rouFlowTable = s.router.rouFlowTable)
    (hcreated : s'.created = s.created) (hport : s'.router.iPortNum = s.router.iPortNum) :
    Planned c s' flows where
  served := h.served.of_eq htable hcreated hport
  nodup := h.nodup
  rules := by
    rw [hcreated, hport]
    exact h.rules

/-- A flow has a key in the table exactly when it or its reverse has been served. -/
theorem Served.contains_iff (h : Served c s flows) {f : FlowEntry} (hf : f.Tcp) :
    s.router.rouFlowTable.contains f = true ↔ f ∈ flows ∨ f.reverse ∈ flows := by
  rw [h.table.contains_iff hf, h.keys]
  constructor
  · rintro ⟨g, hg, rfl | rfl⟩
    · exact Or.inl hg
    · exact Or.inr hg
  · rintro (hmem | hmem)
    · exact ⟨f, hmem, Or.inl rfl⟩
    · exact ⟨f.reverse, hmem, Or.inr rfl⟩

/-- The first packet of a flow. -/
theorem Planned.newFlow (h : Planned c s flows) (hstage : c.stage.byPort = true) {st : Stack}
    {p : Packet} {clock : ℕ → Timeval} {addr : SockAddr} {ts : List OctaneTimer}
    (hweb : WebPacket p) (hwild : ¬ p.entry.Wild) (hne : p.entry ≠ p.entry.reverse)
    (hstep : s.fromTunnel c st p clock = some s')
    (hmiss : s.router.rouFlowTable.contains p.entry = false)
    (hnew : NewFlow s s' st p clock addr ts) : Planned c s' (addFlow flows p) := by
  have htcp : p.entry.Tcp := ⟨hwild, by simp [Packet.entry, hweb.1]⟩
  have hnot : ¬ (p.entry ∈ flows ∨ p.entry.reverse ∈ flows) := by
    rw [← h.served.contains_iff htcp, hmiss]
    exact Bool.false_ne_true
  obtain ⟨hnot, hnotRev⟩ := not_or.1 hnot
  have hrules : ts.map OctaneTimer.rule =
      c.flowRules (UInt16.ofInt s.router.iPortNum) p.entry := by
    rw [hnew.rules hstep hweb.1 (Stage.tcp_of_byPort hstage) hweb.2
      (by rwa [ofBuffer_tcp hweb.1]), Config.flowRules, ofBuffer_tcp hweb.1,
      Config.tcpTarget_eq hstage hweb, tcpUnpack_eq hweb.1]
    rfl
  have hcreated : s'.created = ts.reverse ++ s.created :=
    Channel.created_of_transmit hnew.channel
  rw [addFlow, if_pos ⟨hweb, hnot, hnotRev⟩]
  refine ⟨h.served.newFlow hstage hweb hwild hne hstep hmiss hnew,
    List.nodup_cons.2 ⟨hnot, h.nodup⟩, ?_⟩
  rw [hcreated, hnew.iPortNum, List.map_append, List.map_reverse, hrules, h.rules]
  rfl

/-- A packet from the tunnel. -/
theorem Planned.tunnel (h : Planned c s flows) (hstage : c.stage.byPort = true) {st : Stack}
    {p : Packet} {clock : ℕ → Timeval} (he : TcpOnly (.tunnel st p clock))
    (hstep : s.fromTunnel c st p clock = some s') : Planned c s' (addFlow flows p) := by
  obtain ⟨hicmp, hflow⟩ := he p rfl
  have hquiet : Quiet s s' → addFlow flows p = flows → Planned c s' (addFlow flows p) := by
    intro hq heq
    rw [heq]
    exact h.of_eq hq.rouFlowTable hq.created hq.iPortNum
  cases fromTunnel_outcome hstep with
  | icmpHit hp => exact absurd hp hicmp
  | icmpMiss ts hp => exact absurd hp hicmp
  | tcpHit hp _ hhit hq _ =>
      refine hquiet hq (if_neg ?_)
      rintro ⟨hweb, hnot, hnotRev⟩
      have htcp : p.entry.Tcp := ⟨(hflow hweb).1, by simp [Packet.entry, hp]⟩
      rw [ofBuffer_tcp hp, h.served.contains_iff htcp] at hhit
      exact hhit.elim hnot hnotRev
  | tcpMiss ts hp _ hport hmiss hnew _ =>
      obtain ⟨hwild, hne⟩ := hflow ⟨hp, hport⟩
      rw [ofBuffer_tcp hp] at hmiss
      exact h.newFlow hstage ⟨hp, hport⟩ hwild hne hstep hmiss hnew
  | tcpOther _ _ hport _ hq _ => exact hquiet hq (addFlow_of_not_web fun hweb => hport hweb.2)
  | ignored _ hp hq _ =>
      exact hquiet hq
        (addFlow_of_not_web fun hweb => hp ⟨hweb.1, Stage.tcp_of_byPort hstage⟩)

/-- What comes on the socket, and a timer, change neither the table nor the messages. -/
theorem eq_of_tunnelled_eq_none (hstage : c.stage.byPort = true) {e : PrimEvent}
    (he : e.tunnelled = none) (hstep : primStep c s e = some s') :
    s'.router.rouFlowTable = s.router.rouFlowTable ∧ s'.created = s.created ∧
      s'.router.iPortNum = s.router.iPortNum := by
  cases e with
  | tunnel st p clock => exact absurd he (Option.some_ne_none p)
  | socket st p iPort =>
      obtain rfl := Option.some.inj hstep
      cases fromSocket_outcome c s st p iPort with
      | forward _ hquiet _ => exact ⟨hquiet.rouFlowTable, hquiet.created, hquiet.iPortNum⟩
      | octane s₀ _ hquiet _ heq =>
          have h9 : c.stage ≠ .s9 := by
            intro h9
            rw [h9] at hstage
            exact absurd hstage (by decide)
          rw [heq, octaneFromSocket, if_neg fun h => h9 h.1]
          split_ifs
          all_goals exact ⟨hquiet.rouFlowTable, hquiet.created, hquiet.iPortNum⟩
  | expire now =>
      obtain ⟨⟨T, t⟩, -, rfl⟩ := Option.map_eq_some_iff.1 hstep
      exact ⟨rfl, rfl, rfl⟩

/-- The run lemma. -/
theorem Planned.run (h : Planned c s flows) (hstage : c.stage.byPort = true)
    {es : List PrimEvent} (hes : ∀ e ∈ es, TcpOnly e) (hrun : run (primStep c) s es = some t) :
    Planned c t ((es.filterMap PrimEvent.tunnelled).foldl addFlow flows) ∧
      t.router.iPortNum = s.router.iPortNum := by
  induction es generalizing s flows with
  | nil =>
      obtain rfl := Option.some.inj hrun
      exact ⟨h, rfl⟩
  | cons e es ih =>
      obtain ⟨s₁, hstep, hrest⟩ := run_cons.1 hrun
      have he := hes e List.mem_cons_self
      have hes' : ∀ e' ∈ es, TcpOnly e' := fun e' he' => hes e' (List.mem_cons_of_mem e he')
      have hport := (h.served.step hstage he hstep).1
      cases htunnelled : e.tunnelled with
      | none =>
          obtain ⟨htable, hcreated, hport'⟩ := eq_of_tunnelled_eq_none hstage htunnelled hstep
          rw [List.filterMap_cons_none htunnelled, ← hport]
          exact ih (h.of_eq htable hcreated hport') hes' hrest
      | some p =>
          rw [List.filterMap_cons_some htunnelled, List.foldl_cons, ← hport]
          cases e with
          | tunnel st q clock =>
              obtain rfl : q = p := Option.some.inj htunnelled
              exact ih (h.tunnel hstage he hstep) hes' hrest
          | socket st q iPort | expire now =>
              exact absurd htunnelled (Option.some_ne_none p).symm

/-- In every run of stage 6, 7 or 10 over TCP flows, with acknowledgements, expiries and
packets from the socket in any order, the messages that have been made are exactly those of
the plan for the flows of the packets from the tunnel, none is made twice, and the table
has the entries of these flows and their reverse. -/
theorem planned_of_run (c : Config) (hstage : c.stage.byPort = true)
    (hports : c.secondRouter1Port ≠ c.secondRouter2Port) (router : CRouter)
    (auth authRev : OctaneControl) (htable : router.rouFlowTable.entries = [])
    (es : List PrimEvent) (hes : ∀ e ∈ es, TcpOnly e) (t : Primary)
    (hrun : run (primStep c) (start router auth authRev) es = some t) :
    t.created.map OctaneTimer.rule = c.plan (UInt16.ofInt router.iPortNum)
        (flowsOf (es.filterMap PrimEvent.tunnelled)) ∧
      (t.created.map OctaneTimer.rule).Nodup ∧
      ∀ r, r ∈ t.router.rouFlowTable.keys ↔
        ∃ f ∈ flowsOf (es.filterMap PrimEvent.tunnelled), r = f ∨ r = f.reverse := by
  have hstart : Planned c (start router auth authRev) [] :=
    ⟨served_start htable, List.nodup_nil, rfl⟩
  obtain ⟨h, hport⟩ := hstart.run hstage hes hrun
  have hrules := h.rules
  rw [hport] at hrules
  refine ⟨hrules, ?_, h.served.keys⟩
  rw [hrules]
  exact Config.nodup_plan hports h.nodup (fun f hf => (h.served.flow f hf).2) h.served.separate

/-- An HTTP and an HTTPS flow in stage 7; the first one sends two packets, and a timer runs
in between. -/
def chainEvents : List PrimEvent :=
  [.tunnel default (samplePacket 0x5000) fun _ => ⟨0, 0⟩, .expire ⟨2, 0⟩,
    .tunnel default (samplePacket 0x5000) fun _ => ⟨3, 0⟩,
    .tunnel default (samplePacket 0xBB01) fun _ => ⟨4, 0⟩]

/-- There are six rules. -/
theorem planned_of_run_chain : ∃ t,
    run (primStep ⟨.s7, .local 0x2300, 0x2300, 0x2400, 0⟩) sampleStart chainEvents = some t ∧
      (t.created.map OctaneTimer.rule).Nodup ∧ (t.created.map OctaneTimer.rule).length = 6 := by
  have hsome : (run (primStep ⟨.s7, .local 0x2300, 0x2300, 0x2400, 0⟩) sampleStart
      chainEvents).isSome = true := by decide
  obtain ⟨t, ht⟩ := Option.isSome_iff_exists.1 hsome
  have htunnel : ∀ dest ∈ [(0x5000 : UInt16), 0xBB01], ∀ clock,
      TcpOnly (.tunnel default (samplePacket dest) clock) := by
    intro dest hdest clock p hp
    obtain rfl := Option.some.inj hp
    rcases List.mem_pair.1 hdest with rfl | rfl
    · exact ⟨by decide, fun _ => by decide⟩
    · exact ⟨by decide, fun _ => by decide⟩
  have htcp : ∀ e ∈ chainEvents, TcpOnly e := by
    intro e he
    simp only [chainEvents, List.mem_cons, List.not_mem_nil, or_false] at he
    rcases he with rfl | rfl | rfl | rfl
    · exact htunnel _ (by decide) _
    · exact tcpOnly_of_tunnelled_eq_none rfl
    · exact htunnel _ (by decide) _
    · exact htunnel _ (by decide) _
  obtain ⟨hrules, hnodup, -⟩ :=
    planned_of_run ⟨.s7, .local 0x2300, 0x2300, 0x2400, 0⟩ rfl (by decide) _ _ _ rfl _ htcp t ht
  refine ⟨t, ht, hnodup, ?_⟩
  rw [hrules]
  decide

end Primary
