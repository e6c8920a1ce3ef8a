import SimpleSDN.Primary.Portal

/-!
# The rules of the captive portal

In stage 9 a rule of the primary router names the secondary router that the
packets of its flow go to, as long as the rules are stored under keys of their
own secondary and no HTTP rule is left over when the first client authenticates
itself. `RulesFollowed` says that the packets go where the rules say;
`RulesAgree` is the invariant behind it, and `PortsKept` what a step has to meet.
-/

/-- An entry with the ports of a packet to port 80 or 443. -/
def FlowEntry.Web (e : FlowEntry) : Prop :=
  e.protocol = 6 ∧ (ntohs e.dstPort = 80 ∨ ntohs e.dstPort = 443)

instance (e : FlowEntry) : Decidable e.Web := inferInstanceAs (Decidable (_ ∧ _))

/-- The port of the secondary router for such an entry in stage 9. -/
def Config.portalPort (c : Config) (isAuthenticated : Bool) (e : FlowEntry) : UInt16 :=
  if ntohs e.dstPort = 443 then c.secondRouter2Port
  else if isAuthenticated then c.secondRouter1Port else c.secondRouter3Port

/-- A rule stored under `key` with the port `fwdPort` names the secondary router
for that key. -/
def Config.NamesPort (c : Config) (isAuthenticated : Bool) (key : FlowEntry)
    (fwdPort : UInt16) : Prop :=
  key.Web → htons fwdPort = c.portalPort isAuthenticated key

instance (c : Config) (isAuthenticated : Bool) (key : FlowEntry) (fwdPort : UInt16) :
    Decidable (c.NamesPort isAuthenticated key fwdPort) :=
  inferInstanceAs (Decidable (_ → _))

theorem WebPacket.entry_web {buffer : Packet} (hweb : WebPacket buffer) : buffer.entry.Web := by
  obtain ⟨hp, hport⟩ := hweb
  have hdest : tcpUnpack buffer = ntohs buffer.dest := tcpUnpack_eq hp
  exact ⟨by simp [Packet.entry, hp], hdest ▸ hport⟩

namespace Primary

/-- Every rule of the table names the secondary router for its key. -/
def RulesAgree (c : Config) (s : Primary) : Prop :=
  ∀ r a, (r, a) ∈ s.router.rouFlowTable.entries →
    c.NamesPort s.isAuthenticated r a.fwdPort

/-- Whatever packet to port 80 or 443 is read next: if its entry is a key of the
table, the packet is sent to the port that the rule names. -/
def RulesFollowed (c : Config) (s : Primary) : Prop :=
  ∀ st buffer clock s', WebPacket buffer →
    primStep c s (.tunnel st buffer clock) = some s' →
      ∀ a, (buffer.entry, a) ∈ s.router.rouFlowTable.entries →
        ∀ addr, .data addr buffer ∈ s'.sent.drop s.sent.length ↔
          addr = .local (htons a.fwdPort)

/-- The table without the rules of the last flow that was not authenticated. -/
def withoutAuth (s : Primary) : FlowTable :=
  ((s.router.rouFlowTable.remove s.authOctMsg).1.remove s.authOctMsgRev).1

/-- The message that `authenticate` installs. -/
def portalMsg (octMsg : OctaneControl) : OctaneControl :=
  { octMsg with octaneSourceIp := htonl octMsg.octaneSourceIp, octaneAction := 1 }

/-- What a step has to meet for the rules to stay right. A new flow: the rule for
its reverse is not stored under a key of another secondary router. An action-5
message: no HTTP rule is left when it is the first, and the rules for its flow
and the reverse are stored under keys of the secondary router they name. -/
def PortsKept (c : Config) (s : Primary) : PrimEvent → Prop
  | .tunnel _ buffer _ =>
      s.router.rouFlowTable.contains buffer.entry = false →
        ∀ msg, FlowEntry.ofMsg msg = buffer.entry →
          c.NamesPort s.isAuthenticated
            ((s.router.rouFlowTable.insert msg).1.slot buffer.entry.reverse)
            (ntohs (c.portalPort s.isAuthenticated buffer.entry))
  | .socket _ buffer _ =>
      buffer.ipP = octaneProtocolNum → buffer.octane.octaneAction = 5 →
        (s.isAuthenticated = false → c.secondRouter3Port ≠ c.secondRouter1Port →
          ∀ r ∈ s.withoutAuth.keys, r.protocol = 6 → ntohs r.dstPort ≠ 80) ∧
        c.NamesPort true (s.withoutAuth.slot (portalFlow buffer.octane))
          buffer.octane.octanePort ∧
        c.NamesPort true
          ((s.withoutAuth.insert (portalMsg buffer.octane)).1.slot
            (portalFlow buffer.octane).reverse) 0
  | .expire _ => True

variable {c : Config} {s s' : Primary}

/-- In stage 9 a packet goes to the secondary router for its entry. -/
theorem tcpTarget_web (hstage : c.stage = .s9) {buffer : Packet} (hweb : WebPacket buffer)
    (isAuthenticated : Bool) :
    c.tcpTarget isAuthenticated buffer = some (c.portalPort isAuthenticated buffer.entry) := by
  obtain ⟨hp, hport⟩ := hweb
  have hdest : tcpUnpack buffer = ntohs buffer.entry.dstPort := tcpUnpack_eq hp
  have hne : ¬ (80 : UInt16) = 443 := by decide
  have hne' : ¬ (443 : UInt16) = 80 := by decide
  unfold Config.tcpTarget Config.portalPort
  rw [hstage, ← hdest]
  rcases hport with h | h
  · simp only [h, hne, if_true, if_false]
    split_ifs <;> rfl
  · simp only [h, hne', if_true, if_false]

theorem RulesAgree.followed (hstage : c.stage = .s9) (h : RulesAgree c s) :
    RulesFollowed c s := by
  intro st buffer clock s' hweb hstep a ha addr
  rw [data_mem_iff (by rw [hstage]; rfl) hweb hstep, tcpTarget_web hstage hweb,
    Option.getD_some, h _ a ha hweb.entry_web]

/-- A step that keeps the table and the flag keeps the rules right. -/
theorem RulesAgree.of_eq (h : RulesAgree c s)
    (htable : s'.router.rouFlowTable = s.router.rouFlowTable)
    (hauth : s'.isAuthenticated = s.isAuthenticated) : RulesAgree c s' := by
  unfold RulesAgree
  rw [htable, hauth]
  exact h

theorem RulesAgree.of_quiet (h : RulesAgree c s) (hquiet : Quiet s s') : RulesAgree c s' :=
  h.of_eq hquiet.rouFlowTable hquiet.isAuthenticated

/-- A new flow: the rule for its entry names the port the packet goes to. -/
theorem RulesAgree.newFlow (h : RulesAgree c s) (hstage : c.stage = .s9) {st : Stack}
    {buffer : Packet} {clock : ℕ → Timeval} {ts : List OctaneTimer} (hweb : WebPacket buffer)
    (hmiss : s.router.rouFlowTable.contains buffer.entry = false)
    (hnew : NewFlow s s' st buffer clock
      (.local ((c.tcpTarget s.isAuthenticated buffer).getD st.targetPort)) ts)
    (hkept : PortsKept c s (.tunnel st buffer clock)) : RulesAgree c s' := by
  intro r a ha
  rw [hnew.rouFlowTable, tcpTarget_web hstage hweb, Option.getD_some] at ha
  rw [hnew.isAuthenticated]
  have hentry : ∀ addr, FlowEntry.ofMsg (s.localMsg st buffer addr) = buffer.entry :=
    fun _ => ofBuffer_tcp hweb.1 st
  rcases FlowTable.of_mem_dbInsert ha with hold | ⟨rfl, rfl⟩ | ⟨rfl, rfl⟩
  · exact h r a hold
  · intro _
    rw [hentry, FlowTable.slot_of_not_contains hmiss]
    exact htons_ntohs _
  · rw [hentry]
    exact hkept hmiss _ (hentry _)

/-- The table after `authenticate`. -/
theorem authenticate_rouFlowTable (octMsg : OctaneControl) :
    (s.authenticate c octMsg).router.rouFlowTable =
      (s.withoutAuth.dbInsert (portalMsg octMsg) 0).1 := by
  unfold authenticate
  simp only [send, dbInsert_rouFlowTable]
  rfl

theorem withoutAuth_entries_subset : s.withoutAuth.entries ⊆ s.router.rouFlowTable.entries :=
  List.Subset.trans (FlowTable.entries_remove_subset _ _) (FlowTable.entries_remove_subset _ _)

/-- The authentication: what is left of the HTTP rules names the new port. -/
theorem RulesAgree.authenticate (h : RulesAgree c s) {octMsg : OctaneControl}
    (hleft : s.isAuthenticated = false → c.secondRouter3Port ≠ c.secondRouter1Port →
      ∀ r ∈ s.withoutAuth.keys, r.protocol = 6 → ntohs r.dstPort ≠ 80)
    (hflow : c.NamesPort true (s.withoutAuth.slot (portalFlow octMsg)) octMsg.octanePort)
    (hrev : c.NamesPort true
      ((s.withoutAuth.insert (portalMsg octMsg)).1.slot (portalFlow octMsg).reverse) 0) :
    RulesAgree c (s.authenticate c octMsg) := by
  intro r a ha
  rw [authenticate_rouFlowTable] at ha
  have hflag : (s.authenticate c octMsg).isAuthenticated = true := by
    simp [Primary.authenticate, send, dbInsert, CRouter.pushLogs_eq]
  rw [hflag]
  rcases FlowTable.of_mem_dbInsert ha with hold | ⟨rfl, rfl⟩ | ⟨rfl, rfl⟩
  · intro hweb
    rw [h r a (withoutAuth_entries_subset hold) hweb]
    simp only [Config.portalPort, if_true]
    split_ifs with h443 hauth
    · rfl
    · rfl
    · by_contra hport
      have h80 : ntohs r.dstPort = 80 := hweb.2.resolve_right h443
      exact hleft (Bool.eq_false_iff.2 hauth) hport r (StdMap.mem_keys hold) hweb.1 h80
  · exact hflow
  · exact hrev

/-- A datagram on the socket: an action-5 message authenticates, and the table and the
two messages for the removal are those from before. -/
theorem fromSocket_login (hstage : c.stage = .s9) (s : Primary) (st : Stack) (buffer : Packet)
    (iPort : ℤ) : ∃ s₁ : Primary, s₁.router.rouFlowTable = s.router.rouFlowTable ∧
      s₁.isAuthenticated = s.isAuthenticated ∧ s₁.authOctMsg = s.authOctMsg ∧
      s₁.authOctMsgRev = s.authOctMsgRev ∧ s.fromSocket c st buffer iPort =
        if buffer.ipP = octaneProtocolNum ∧ buffer.octane.octaneAction = 5 then
          s₁.authenticate c buffer.octane else s₁ := by
  cases fromSocket_outcome c s st buffer iPort with
  | forward hp hquiet _ =>
      refine ⟨_, hquiet.rouFlowTable, hquiet.isAuthenticated, hquiet.authOctMsg,
        hquiet.authOctMsgRev, ?_⟩
      rw [if_neg fun hlogin => hp hlogin.1]
  | octane s₀ hp hquiet _ heq =>
      -- an acknowledgement leaves the table and the messages alone
      obtain ⟨s₁, hs₁, htable, hauth, hmsg, hmsgRev⟩ : ∃ s₁ : Primary,
          (if buffer.octane.octaneFlags = 1 then
            s₀.acknowledge buffer.octane.octaneSeqno.toNat else s₀) = s₁ ∧
          s₁.router.rouFlowTable = s.router.rouFlowTable ∧
          s₁.isAuthenticated = s.isAuthenticated ∧ s₁.authOctMsg = s.authOctMsg ∧
          s₁.authOctMsgRev = s.authOctMsgRev := by
        split_ifs
        all_goals exact ⟨_, rfl, hquiet.rouFlowTable, hquiet.isAuthenticated,
          hquiet.authOctMsg, hquiet.authOctMsgRev⟩
      refine ⟨s₁, htable, hauth, hmsg, hmsgRev, ?_⟩
      rw [heq, octaneFromSocket, hs₁]
      simp only [hstage, hp, true_and]

/-- One step keeps the rules right. -/
theorem RulesAgree.step (hstage : c.stage = .s9) (h : RulesAgree c s) {e : PrimEvent}
    (hstep : primStep c s e = some s') (hkept : PortsKept c s e)
    (hweb : ∀ st buffer clock, e = .tunnel st buffer clock → WebPacket buffer) :
    RulesAgree c s' := by
  cases e with
  | tunnel st buffer clock =>
      have hbuffer := hweb st buffer clock rfl
      cases fromTunnel_outcome hstep with
      | icmpHit _ _ hquiet _ => exact h.of_quiet hquiet
      | icmpMiss _ hp _ _ _ => exact absurd (hbuffer.1.symm.trans hp) (by decide)
      | tcpHit _ _ _ hquiet _ => exact h.of_quiet hquiet
      | tcpMiss ts hp _ _ hmiss hnew _ =>
          rw [ofBuffer_tcp hp] at hmiss
          exact h.newFlow hstage hbuffer hmiss hnew hkept
      | tcpOther _ _ _ _ hquiet _ => exact h.of_quiet hquiet
      | ignored _ _ hquiet _ => exact h.of_quiet hquiet
  | socket st buffer iPort =>
      obtain rfl := Option.some.inj hstep
      obtain ⟨s₁, htable, hauth, hmsg, hmsgRev, heq⟩ := fromSocket_login hstage s st buffer iPort
      have h₁ : RulesAgree c s₁ := h.of_eq htable hauth
      have hwithout : s₁.withoutAuth = s.withoutAuth := by
        unfold withoutAuth
        rw [htable, hmsg, hmsgRev]
      rw [heq]
      split_ifs with hlogin
      · obtain ⟨hleft, hflow, hrev⟩ := hkept hlogin.1 hlogin.2
        refine h₁.authenticate ?_ ?_ ?_
        · rwa [hwithout, hauth]
        · rwa [hwithout]
        · rwa [hwithout]
      · exact h₁
  | expire now =>
      obtain ⟨⟨T, t⟩, _, rfl⟩ := Option.map_eq_some_iff.1 hstep
      exact h.of_eq rfl rfl

/-- In stage 9 the packets go where the rules say, in every state that is reached
by steps that keep the rules right from a table that is right. -/
theorem rulesFollowed_of_portsKept (c : Config) (hstage : c.stage = .s9) (router : CRouter)
    (auth authRev : OctaneControl) (es : List PrimEvent) (t : Primary)
    (hweb : ∀ st buffer clock, .tunnel st buffer clock ∈ es → WebPacket buffer)
    (hstart : RulesAgree c (start router auth authRev))
    (hkept : Along (primStep c) (fun s e _ => PortsKept c s e) (start router auth authRev) es)
    (hrun : run (primStep c) (start router auth authRev) es = some t) : RulesFollowed c t := by
  have hmem : Along (primStep c) (fun _ e _ => ∀ st buffer clock,
      e = .tunnel st buffer clock → WebPacket buffer) (start router auth authRev) es :=
    by
    refine Along.of_mem fun e he st buffer clock heq => hweb st buffer clock ?_
    exact heq ▸ he
  have hagree : RulesAgree c t :=
    run_invariant (fun s e s' h hstep hcond => h.step hstage hstep hcond.1 hcond.2) hstart
      (hkept.and hmem) hrun
  exact hagree.followed hstage

/-- An HTTP packet of the host of `samplePacket`, from the port `source`. -/
def sampleHttp (source : UInt16) : PrimEvent :=
  .tunnel default { samplePacket 0x5000 with source := source } fun _ => ⟨0, 0⟩

/-- Two HTTP flows, and the authentication for the second. -/
def twoFlows : List PrimEvent :=
  [sampleHttp 0x1027, sampleHttp 0x1127, .socket default { (default : Packet) with
    ipP := octaneProtocolNum
    octane := ⟨5, 0, 1, 0xC0A8000A, 0x0133050A, 0x1127, 0x5000, 6, 0x0023⟩ } 6000]

/-- A client that opens an HTTP flow, authenticates itself for it, and opens another. -/
def loginRun : List PrimEvent :=
  [sampleHttp 0x1027, .socket default { (default : Packet) with
    ipP := octaneProtocolNum
    octane := ⟨5, 0, 7, 0xC0A8000A, 0x0133050A, 0x1027, 0x5000, 6, 0x0023⟩ } 6000,
    sampleHttp 0x1127]

/-- The rule for the reverse of a new flow is stored under its own key, or a key that is
there or has just been stored. -/
theorem portsKept_tunnel {st : Stack} {buffer : Packet} {clock : ℕ → Timeval}
    (h : ∀ r, r ∈ s.router.rouFlowTable.keys ∨ r = buffer.entry ∨ r = buffer.entry.reverse →
      c.NamesPort s.isAuthenticated r (ntohs (c.portalPort s.isAuthenticated buffer.entry))) :
    PortsKept c s (.tunnel st buffer clock) := by
  intro _ msg hmsg
  refine h _ ?_
  rcases FlowTable.slot_mem_insert _ _ with hslot | hslot
  · exact Or.inr (Or.inr hslot)
  · rcases FlowTable.keys_insert_subset _ _ hslot with heq | hold
    · exact Or.inr (Or.inl (heq.trans hmsg))
    · exact Or.inl hold

theorem along_portsKept_login :
    Along (primStep portalConfig) (fun s e _ => PortsKept portalConfig s e) sampleStart
      loginRun := by
  have hfirst : ∀ s ∈ primStep portalConfig sampleStart (sampleHttp 0x1027),
      (∀ x ∈ s.withoutAuth.entries, x.1.protocol = 6 → ntohs x.1.dstPort ≠ 80) ∧
        portalConfig.NamesPort true (s.withoutAuth.slot (portalFlow
          ⟨5, 0, 7, 0xC0A8000A, 0x0133050A, 0x1027, 0x5000, 6, 0x0023⟩)) 0x0023 ∧
        portalConfig.NamesPort true ((s.withoutAuth.insert (portalMsg
          ⟨5, 0, 7, 0xC0A8000A, 0x0133050A, 0x1027, 0x5000, 6, 0x0023⟩)).1.slot (portalFlow
            ⟨5, 0, 7, 0xC0A8000A, 0x0133050A, 0x1027, 0x5000, 6, 0x0023⟩).reverse) 0 := by
    decide +kernel
  have hsecond : ∀ s ∈ run (primStep portalConfig) sampleStart (loginRun.take 2),
      s.isAuthenticated = true ∧
        ∀ x ∈ s.router.rouFlowTable.entries, portalConfig.NamesPort true x.1 0x0023 := by
    decide +kernel
  refine fun s₁ h₁ => ⟨portsKept_tunnel ?_, fun s₂ h₂ => ⟨fun _ _ => ?_, fun s₃ h₃ =>
    ⟨portsKept_tunnel ?_, trivial⟩⟩⟩
  · rintro r (⟨v, hv⟩ | rfl | rfl)
    · exact absurd hv List.not_mem_nil
    · decide
    · decide
  · obtain ⟨hleft, hflow, hrev⟩ := hfirst s₁ h₁
    exact ⟨fun _ _ r ⟨v, hv⟩ => hleft (r, v) hv, hflow, hrev⟩
  · obtain ⟨hauth, hkeys⟩ := hsecond s₂ (run_cons.2 ⟨s₁, h₁, run_cons.2 ⟨s₂, h₂, rfl⟩⟩)
    rw [hauth]
    rintro r (⟨v, hv⟩ | rfl | rfl)
    · exact hkeys (r, v) hv
    · decide
    · decide

/-- The rules are followed after the authentication. -/
theorem rulesFollowed_login :
    ∃ t, run (primStep portalConfig) sampleStart loginRun = some t ∧
      t.isAuthenticated = true ∧ RulesFollowed portalConfig t := by
  have hdef : (run (primStep portalConfig) sampleStart loginRun).map
      (fun t => t.isAuthenticated) = some true := by decide +kernel
  obtain ⟨t, ht, hauth⟩ := Option.map_eq_some_iff.1 hdef
  refine ⟨t, ht, hauth, rulesFollowed_of_portsKept portalConfig rfl _ _ _ _ t ?_ ?_
    along_portsKept_login ht⟩
  · intro st buffer clock hmem
    simp only [loginRun, sampleHttp, List.mem_cons, PrimEvent.tunnel.injEq, reduceCtorEq,
      List.not_mem_nil, or_false, false_or] at hmem
    rcases hmem with ⟨-, rfl, -⟩ | ⟨-, rfl, -⟩ <;> decide
  · intro r a ha
    simp [start, CRouter.init, FlowTable.empty, FlowTable.entries] at ha

/-- The first of two flows of a client: its rule names the third secondary router,
and its packets go to the first one. -/
theorem not_rulesFollowed_two_flows :
    ∃ t, run (primStep portalConfig) sampleStart twoFlows = some t ∧
      ¬ RulesFollowed portalConfig t := by
  have hdef : (run (primStep portalConfig) sampleStart twoFlows).isSome = true := by decide
  obtain ⟨t, ht⟩ := Option.isSome_iff_exists.1 hdef
  refine ⟨t, ht, fun hfollowed => ?_⟩
  -- the first rule names the port 37 in host order
  have hstate : ∀ t ∈ run (primStep portalConfig) sampleStart twoFlows,
      ((samplePacket 0x5000).entry, ⟨0x0025, 1⟩) ∈ t.router.rouFlowTable.entries ∧
        t.timersManager.nextHandle + 4 ≤ 2147483647 := by decide
  obtain ⟨hrule, hhandle⟩ := hstate t ht
  have hnext : (t.fromTunnel portalConfig default (samplePacket 0x5000)
      fun _ => ⟨0, 0⟩).isSome = true := fromTunnel_isSome hhandle
  obtain ⟨s', hs'⟩ := Option.isSome_iff_exists.1 hnext
  replace hs' : primStep portalConfig t
      (.tunnel default (samplePacket 0x5000) fun _ => ⟨0, 0⟩) = some s' := hs'
  have hmem := (hfollowed default (samplePacket 0x5000) (fun _ => ⟨0, 0⟩) s' (by decide) hs'
    ⟨0x0025, 1⟩ hrule (.local (htons 0x0025))).2 rfl
  rw [data_mem_iff rfl (by decide) hs', isAuthenticated_run rfl ht] at hmem
  exact absurd hmem (by decide)

end Primary
