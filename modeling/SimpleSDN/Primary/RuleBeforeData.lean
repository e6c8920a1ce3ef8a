import SimpleSDN.Primary.Rules
import SimpleSDN.Trace

/-!
# Rule before data

In stages 6, 7 and 10 a TCP packet to port 80 or 443 goes to a secondary router
that its ports select, and control messages for its flow are sent when its entry
misses the table. The messages reach the secondary before the packet does, as
long as a hit in the table means that the packet's own entry is stored
(`OwnKey`), and as long as a flow and its reverse go to the same secondary
(`OneWay`), since one packet installs both.
-/

/-- The stages in which only the ports of a TCP packet select the secondary. -/
def Stage.byPort : Stage → Bool
  | s6 | s7 | s10 => true
  | _ => false

/-- The port of the secondary router for a flow to port 80 or 443. -/
def Config.webTarget (c : Config) (e : FlowEntry) : UInt16 :=
  match c.stage with
  | .s7 => c.secondRouter1Port
  | .s10 => if ntohs e.srcPort &&& 1 = 0 then c.secondRouter2Port else c.secondRouter1Port
  | _ => if ntohs e.dstPort = 443 then c.secondRouter2Port else c.secondRouter1Port

theorem Config.tcpTarget_eq {c : Config} (hstage : c.stage.byPort = true) {buffer : Packet}
    (hweb : WebPacket buffer) (b : Bool) :
    c.tcpTarget b buffer = some (c.webTarget buffer.entry) := by
  obtain ⟨hp, hport⟩ := hweb
  have hdst : tcpUnpack buffer = ntohs buffer.entry.dstPort := tcpUnpack_eq hp
  have hsrc : tcpUnpackSrc buffer = ntohs buffer.entry.srcPort := by
    simp [tcpUnpackSrc, Packet.entry, hp]
  have hne : ¬ (80 : UInt16) = 443 := by decide
  unfold tcpTarget webTarget
  rw [hdst] at hport
  simp only [hdst, hsrc]
  cases hs : c.stage with
  | s4 | s5 | s9 => simp [hs, Stage.byPort] at hstage
  | s6 | s7 => rcases hport with h | h <;> simp [h, hne]
  | s10 =>
      simp only [hport, if_true]
      split_ifs <;> rfl

/-- The packets to port 80 or 443 that are read from the tunnel. -/
def ReadWeb (es : List PrimEvent) (buffer : Packet) : Prop :=
  WebPacket buffer ∧ ∃ st clock, PrimEvent.tunnel st buffer clock ∈ es

/-- Packets of a flow and packets of its reverse go to the same secondary. -/
def OneWay (c : Config) (R : Packet → Prop) : Prop :=
  ∀ p q, R p → R q → q.entry = p.entry.reverse → c.webTarget q.entry = c.webTarget p.entry

namespace Primary

/-- A packet to port 80 or 443 hits no key but its own entry. -/
def OwnKey (s : Primary) : PrimEvent → Prop
  | .tunnel _ buffer _ => WebPacket buffer →
      ∀ r, s.router.rouFlowTable.containsOut buffer.entry = some r → r = buffer.entry
  | _ => True

/-- Of the packets to port 80 or 443, one may be sent when a control message for
its flow has been sent to the same secondary. -/
def RuleSent (pre : List Sent) : Sent → Prop
  | .data addr buffer => WebPacket buffer →
      ∃ msg, .control addr msg ∈ pre ∧ FlowEntry.ofMsg msg = buffer.entry
  | _ => True

/-- Every TCP packet to port 80 or 443 is sent after a control message for its
flow, to the same secondary. -/
def RuleBeforeData (sent : List Sent) : Prop := Guarded RuleSent sent

/-- Every stored TCP key, those in `K` apart, is the entry of a packet that has
been read, or its reverse, and a control message for it has been sent to that
packet's target. -/
def RulesSent (c : Config) (R : Packet → Prop) (K : Set FlowEntry) (s : Primary) : Prop :=
  ∀ e ∈ s.router.rouFlowTable.keys, e.protocol = 6 → e ∉ K →
    ∃ p, R p ∧ (e = p.entry ∨ e = p.entry.reverse) ∧ ∃ msg,
      .control (.local (c.webTarget p.entry)) msg ∈ s.sent ∧ FlowEntry.ofMsg msg = e

variable {c : Config} {R : Packet → Prop} {K : Set FlowEntry} {s s' : Primary}

/-- Without new TCP keys nothing is asked for. -/
theorem RulesSent.mono (hs : RulesSent c R K s)
    (hkeys : ∀ e ∈ s'.router.rouFlowTable.keys, e.protocol = 6 → e ∈ s.router.rouFlowTable.keys)
    (hsent : s.sent ⊆ s'.sent) : RulesSent c R K s' := by
  intro e he hp hK
  obtain ⟨p, hR, hflow, msg, hmem, hmsg⟩ := hs e (hkeys e he hp) hp hK
  exact ⟨p, hR, hflow, msg, hsent hmem, hmsg⟩

theorem RulesSent.quiet (hs : RulesSent c R K s) (h : Quiet s s') {xs : List Sent}
    (hsent : s'.sent = s.sent ++ xs) : RulesSent c R K s' := by
  refine hs.mono (fun e he _ => h.rouFlowTable ▸ he) ?_
  rw [hsent]
  exact List.subset_append_left _ _

/-- The keys after a new flow. -/
theorem NewFlow.mem_keys {st : Stack} {buffer : Packet} {clock : ℕ → Timeval}
    {addr : SockAddr} {ts : List OctaneTimer} (h : NewFlow s s' st buffer clock addr ts)
    {e : FlowEntry} (he : e ∈ s'.router.rouFlowTable.keys) :
    e ∈ s.router.rouFlowTable.keys ∨ e = .ofBuffer st buffer ∨
      e = (FlowEntry.ofBuffer st buffer).reverse := by
  rw [h.rouFlowTable] at he
  exact FlowTable.keys_dbInsert_subset _ _ _ he

/-- A new TCP flow stores two keys and sends a message for each. -/
theorem RulesSent.tcpMiss (hs : RulesSent c R K s) {st : Stack} {buffer : Packet}
    {clock : ℕ → Timeval} {ts : List OctaneTimer} (hp : buffer.ipP = 6) (hR : R buffer)
    (hnew : NewFlow s s' st buffer clock (.local (c.webTarget buffer.entry)) ts)
    (hts : TcpBatch c buffer (.local (c.webTarget buffer.entry)) (.ofBuffer st buffer) ts) :
    RulesSent c R K s' := by
  have hsent : ∀ t ∈ ts, t.rou2Addr = .local (c.webTarget buffer.entry) →
      .control (.local (c.webTarget buffer.entry)) t.iOctaneMsg ∈ s'.sent := by
    intro t ht haddr
    rw [hnew.sent, ← haddr]
    exact List.mem_append_left _ (List.mem_append_right _ (List.mem_map_of_mem ht))
  obtain ⟨-, ⟨t, ht, haddr, hflow⟩, ⟨u, hu, haddr', hflow'⟩, -, -⟩ := hts
  rw [ofBuffer_tcp hp] at hflow hflow'
  intro e he hp' hK
  rcases hnew.mem_keys he with he | rfl | rfl
  · obtain ⟨p, hRp, hpe, msg, hmem, hmsg⟩ := hs e he hp' hK
    refine ⟨p, hRp, hpe, msg, ?_, hmsg⟩
    rw [hnew.sent]
    exact List.mem_append_left _ (List.mem_append_left _ hmem)
  · rw [ofBuffer_tcp hp]
    exact ⟨buffer, hR, Or.inl rfl, _, hsent t ht haddr, hflow⟩
  · rw [ofBuffer_tcp hp]
    exact ⟨buffer, hR, Or.inr rfl, _, hsent u hu haddr', hflow'⟩

/-- In the stages that route by port, the socket and the timers leave the table
alone and cause no packet for a secondary. -/
theorem sent_of_not_tunnel (hstage : c.stage.byPort = true) {e : PrimEvent}
    (he : ∀ st buffer clock, e ≠ .tunnel st buffer clock) (h : primStep c s e = some s') :
    s'.router.rouFlowTable = s.router.rouFlowTable ∧
      ∃ xs, s'.sent = s.sent ++ xs ∧ ∀ x ∈ xs, ∀ pre, RuleSent pre x := by
  have hne : ¬ (c.stage = .s9) := by
    intro h9
    rw [h9] at hstage
    exact absurd hstage Bool.false_ne_true
  cases e with
  | tunnel st buffer clock => exact absurd rfl (he st buffer clock)
  | socket st buffer iPort =>
      obtain rfl := Option.some.inj h
      cases fromSocket_outcome c s st buffer iPort with
      | forward _ hquiet hsent =>
          refine ⟨hquiet.rouFlowTable, ?_⟩
          rcases hsent with hsent | hsent
          · exact ⟨[], by rw [hsent, List.append_nil], by simp⟩
          · exact ⟨_, hsent, by simp [RuleSent]⟩
      | octane s₀ _ hquiet hsent heq =>
          rw [heq, octaneFromSocket, if_neg fun h => hne h.1, ← hquiet.rouFlowTable]
          refine ⟨?_, [], ?_, by simp⟩
          · split_ifs <;> rfl
          · rw [List.append_nil, ← hsent]
            split_ifs <;> rfl
  | expire now =>
      obtain ⟨⟨T, t⟩, hexec, rfl⟩ := Option.map_eq_some_iff.1 h
      exact ⟨rfl, [t.expire], rfl, by simp [OctaneTimer.expire, RuleSent]⟩

theorem RulesSent.step (hstage : c.stage.byPort = true) (hs : RulesSent c R K s) {e : PrimEvent}
    (hR : ∀ st buffer clock, e = .tunnel st buffer clock → WebPacket buffer → R buffer)
    (h : primStep c s e = some s') : RulesSent c R K s' := by
  cases e with
  | tunnel st buffer clock =>
      cases fromTunnel_outcome h with
      | icmpHit _ _ hquiet hsent => exact hs.quiet hquiet hsent
      | icmpMiss ts hp _ hnew _ =>
          refine hs.mono (fun e he hp' => ?_) ?_
          · rcases hnew.mem_keys he with he | rfl | rfl
            · exact he
            · simp [FlowEntry.ofBuffer, ipUnpack, hp] at hp'
            · simp [FlowEntry.reverse, FlowEntry.ofBuffer, ipUnpack, hp] at hp'
          · rw [hnew.sent, List.append_assoc]
            exact List.subset_append_left _ _
      | tcpHit _ _ _ hquiet hsent => exact hs.quiet hquiet hsent
      | tcpMiss ts hp _ hport _ hnew hts =>
          rw [Config.tcpTarget_eq hstage ⟨hp, hport⟩] at hnew hts
          exact hs.tcpMiss hp (hR st buffer clock rfl ⟨hp, hport⟩) hnew hts
      | tcpOther _ _ _ _ hquiet hsent => exact hs.quiet hquiet hsent
      | ignored _ _ hquiet hsent => exact hs.quiet hquiet (hsent.trans (List.append_nil _).symm)
  | socket st buffer iPort =>
      obtain ⟨htable, xs, hsent, -⟩ := sent_of_not_tunnel hstage (by simp) h
      exact hs.mono (fun e he _ => htable ▸ he) (hsent ▸ List.subset_append_left _ _)
  | expire now =>
      obtain ⟨htable, xs, hsent, -⟩ := sent_of_not_tunnel hstage (by simp) h
      exact hs.mono (fun e he _ => htable ▸ he) (hsent ▸ List.subset_append_left _ _)

/-- The key that is hit is the packet's entry, which a packet of the flow or of its
reverse has stored. -/
theorem RulesSent.of_hit (hs : RulesSent c R K s) (hone : OneWay c R) {buffer : Packet}
    (hread : R buffer) (hK : buffer.entry ∉ K) (hp : buffer.ipP = 6)
    (hown : ∀ r, s.router.rouFlowTable.containsOut buffer.entry = some r → r = buffer.entry)
    (hhit : s.router.rouFlowTable.contains buffer.entry = true) :
    ∃ msg, .control (.local (c.webTarget buffer.entry)) msg ∈ s.sent ∧
      FlowEntry.ofMsg msg = buffer.entry := by
  obtain ⟨r, hr⟩ := (FlowTable.contains_iff _ _).1 hhit
  obtain rfl := hown r hr
  obtain ⟨p, hRp, hflow, msg, hmem, hmsg⟩ :=
    hs _ (FlowTable.of_containsOut hr).1 (by simp [Packet.entry, hp]) hK
  refine ⟨msg, ?_, hmsg⟩
  rcases hflow with hflow | hflow
  · rwa [hflow]
  · rwa [hone p buffer hRp hread hflow]

/-- A packet that is not for port 80 or 443 may always be sent. -/
theorem ruleSent_of_not_web {buffer : Packet} (hweb : ¬ WebPacket buffer) (pre : List Sent)
    (addr : SockAddr) : RuleSent pre (.data addr buffer) :=
  fun h => absurd h hweb

/-- One step: what the step sends was asked for before. -/
theorem ruleBeforeData_step (hstage : c.stage.byPort = true) (hs : RulesSent c R K s)
    (hone : OneWay c R) (hK : ∀ p, R p → p.entry ∉ K) {e : PrimEvent}
    (hR : ∀ st buffer clock, e = .tunnel st buffer clock → WebPacket buffer → R buffer)
    (hown : OwnKey s e) (h : primStep c s e = some s') (hbefore : RuleBeforeData s.sent) :
    RuleBeforeData s'.sent := by
  unfold RuleBeforeData at hbefore ⊢
  cases e with
  | tunnel st buffer clock =>
      cases fromTunnel_outcome h with
      | icmpHit hp _ _ hsent =>
          rw [hsent, guarded_append_singleton]
          refine ⟨hbefore, ruleSent_of_not_web ?_ _ _⟩
          rintro ⟨hp', -⟩
          exact absurd (hp.symm.trans hp') (by decide)
      | icmpMiss ts hp _ hnew _ =>
          rw [hnew.sent, guarded_append_singleton]
          refine ⟨hbefore.append ?_, ruleSent_of_not_web ?_ _ _⟩
          · simp [OctaneTimer.expire, RuleSent]
          · rintro ⟨hp', -⟩
            exact absurd (hp.symm.trans hp') (by decide)
      | tcpHit hp _ hhit _ hsent =>
          rw [hsent, guarded_append_singleton]
          refine ⟨hbefore, fun hweb => ?_⟩
          rw [Config.tcpTarget_eq hstage hweb, Option.getD_some]
          have hread := hR st buffer clock rfl hweb
          rw [ofBuffer_tcp hp] at hhit
          exact hs.of_hit hone hread (hK buffer hread) hp (hown hweb) hhit
      | tcpMiss ts hp _ hport _ hnew hts =>
          rw [hnew.sent, guarded_append_singleton]
          refine ⟨hbefore.append ?_, fun hweb => ?_⟩
          · simp [OctaneTimer.expire, RuleSent]
          · obtain ⟨t, ht, haddr, hflow⟩ := hts.forward
            rw [ofBuffer_tcp hp] at hflow
            refine ⟨t.iOctaneMsg, List.mem_append_right _ ?_, hflow⟩
            rw [← haddr]
            exact List.mem_map_of_mem ht
      | tcpOther _ _ hport _ _ hsent =>
          rw [hsent, guarded_append_singleton]
          exact ⟨hbefore, ruleSent_of_not_web (fun hweb => hport hweb.2) _ _⟩
      | ignored _ _ _ hsent => rwa [hsent]
  | socket st buffer iPort =>
      obtain ⟨-, xs, hsent, hxs⟩ := sent_of_not_tunnel hstage (by simp) h
      rw [hsent]
      exact hbefore.append hxs
  | expire now =>
      obtain ⟨-, xs, hsent, hxs⟩ := sent_of_not_tunnel hstage (by simp) h
      rw [hsent]
      exact hbefore.append hxs

/-- In stages 6, 7 and 10, every TCP packet to port 80 or 443 is sent after a
control message for its flow to the same secondary, along every run in which
such a packet hits only its own entry, finds no rule for it from before the run,
and has the target of the packets of its reverse flow. -/
theorem ruleBeforeData_of_run (c : Config) (hstage : c.stage.byPort = true) (router : CRouter)
    (auth authRev : OctaneControl) (es : List PrimEvent) (t : Primary)
    (htable : ∀ p, ReadWeb es p → p.entry ∉ router.rouFlowTable.keys)
    (hown : Along (primStep c) (fun s e _ => OwnKey s e) (start router auth authRev) es)
    (hone : OneWay c (ReadWeb es))
    (hrun : run (primStep c) (start router auth authRev) es = some t) :
    RuleBeforeData t.sent := by
  have hread : Along (primStep c) (fun _ e _ => ∀ st buffer clock,
      e = .tunnel st buffer clock → WebPacket buffer → ReadWeb es buffer)
      (start router auth authRev) es := by
    refine Along.of_mem fun e he st buffer clock heq hweb => ?_
    subst heq
    exact ⟨hweb, st, clock, he⟩
  have hstart : RulesSent c (ReadWeb es) router.rouFlowTable.keys (start router auth authRev) :=
    fun e he _ hK => absurd he hK
  have hinv := run_invariant (I := fun s =>
      RulesSent c (ReadWeb es) router.rouFlowTable.keys s ∧ RuleBeforeData s.sent) ?_
    ⟨hstart, guarded_nil _⟩ (hown.and hread) hrun
  · exact hinv.2
  · rintro s e s' ⟨hs, hbefore⟩ h ⟨hown, hR⟩
    exact ⟨hs.step hstage hR h,
      ruleBeforeData_step hstage hs hone htable hR hown h hbefore⟩

end Primary

/-- A TCP packet of the flow from 192.168.0.10, port 10000, to 10.5.51.1. -/
def samplePacket (dest : UInt16) : Packet :=
  { (default : Packet) with
    ipP := 6, ipSrc := 0x0A00A8C0, ipDst := 0x0133050A, source := 0x1027, dest := dest }

/-- A ping from the same host. -/
def samplePing (dst : Dotted) : Packet :=
  { (default : Packet) with ipP := 1, ipSrc := 0x0A00A8C0, ipDst := inetAddr dst }

/-- The start of a loop of a router that has just been made. -/
def sampleStart : Primary :=
  .start (.init 4000 (.none _ _) (.none _ _) (.none _ _)) default default

namespace Primary

/-- Two packets of one HTTP flow: the second hits the entry of the first. -/
theorem ruleBeforeData_http_flow :
    ∃ t, run (primStep ⟨.s6, .local 0x2300, 0x2300, 0x2400, 0⟩) sampleStart
        [.tunnel default (samplePacket 0x5000) (fun _ => ⟨0, 0⟩),
          .tunnel default (samplePacket 0x5000) (fun _ => ⟨0, 0⟩)] = some t ∧
      RuleBeforeData t.sent := by
  have hdef : (run (primStep ⟨.s6, .local 0x2300, 0x2300, 0x2400, 0⟩) sampleStart
      [.tunnel default (samplePacket 0x5000) (fun _ => ⟨0, 0⟩),
        .tunnel default (samplePacket 0x5000) (fun _ => ⟨0, 0⟩)]).isSome = true := by rfl
  obtain ⟨t, ht⟩ := Option.isSome_iff_exists.1 hdef
  refine ⟨t, ht, ruleBeforeData_of_run _ rfl _ _ _ _ t ?_ ?_ ?_ ht⟩
  · rintro p - ⟨v, hv⟩
    exact absurd hv (by simp [CRouter.init, FlowTable.empty, StdMap.empty])
  · intro s₁ h₁
    refine ⟨fun _ r hr => (nomatch hr), fun s₂ _ => ⟨fun _ r hr => ?_, trivial⟩⟩
    obtain rfl := Option.some.inj h₁
    exact (Option.some.inj hr).symm
  · rintro p q ⟨-, st, clock, hp⟩ ⟨-, st', clock', hq⟩ hflow
    have hentry : ∀ (st : Stack) (p : Packet) (clock : ℕ → Timeval),
        PrimEvent.tunnel st p clock ∈ [PrimEvent.tunnel default (samplePacket 0x5000)
          (fun _ => ⟨0, 0⟩), .tunnel default (samplePacket 0x5000) (fun _ => ⟨0, 0⟩)] →
        p = samplePacket 0x5000 := by
      intro st p clock h
      simp only [List.mem_cons, PrimEvent.tunnel.injEq, List.not_mem_nil, or_false, or_self] at h
      exact h.2.1
    rw [hentry _ _ _ hp, hentry _ _ _ hq]

/-- After a ping, the first packet of an HTTP flow between the same hosts hits
the rule of the ping and goes out without a control message of its own. -/
theorem not_ruleBeforeData_tcp_after_ping :
    ∃ t, run (primStep ⟨.s6, .local 0x2300, 0x2300, 0x2400, 0⟩) sampleStart
        [.tunnel default (samplePing ⟨10, 5, 51, 1⟩) (fun _ => ⟨0, 0⟩),
          .tunnel default (samplePacket 0x5000) (fun _ => ⟨0, 0⟩)] = some t ∧
      ¬ RuleBeforeData t.sent := by
  have hsent : (run (primStep ⟨.s6, .local 0x2300, 0x2300, 0x2400, 0⟩) sampleStart
      [.tunnel default (samplePing ⟨10, 5, 51, 1⟩) (fun _ => ⟨0, 0⟩),
        .tunnel default (samplePacket 0x5000) (fun _ => ⟨0, 0⟩)]).map (fun t => t.sent) =
      some [.control (.local 0x2300)
          ⟨1, 0, 1, 0x0A00A8C0, 0x0133050A, 0xFFFF, 0xFFFF, 1, 0⟩,
        .control (.local 0x2300) ⟨1, 0, 2, 0x0133050A, 0x0A00A8C0, 0xFFFF, 0xFFFF, 1, 4000⟩,
        .data (.local 0x2300) (samplePing ⟨10, 5, 51, 1⟩),
        .data (.local 0x2300) (samplePacket 0x5000)] := by
    decide +kernel
  obtain ⟨t, ht, hsent⟩ := Option.map_eq_some_iff.1 hsent
  refine ⟨t, ht, fun hbefore => ?_⟩
  rw [hsent] at hbefore
  have hlast := (guarded_append_singleton.1
    (show Guarded RuleSent ([_, _, _] ++ [.data _ (samplePacket 0x5000)]) from hbefore)).2
  obtain ⟨msg, hmem, hmsg⟩ := hlast (by decide)
  simp only [List.mem_cons, Sent.control.injEq, true_and, reduceCtorEq, List.not_mem_nil,
    or_false] at hmem
  rcases hmem with rfl | rfl
  · exact absurd hmsg (by decide)
  · exact absurd hmsg (by decide)

end Primary
