import SimpleSDN.Network.Address
import SimpleSDN.Primary.RuleBeforeData

/-!
# The route of a new ICMP flow

What the primary router is to do with an ICMP packet that misses its table is a
function of the packet's destination: which secondary router gets the packet and
which control messages go out. The loop tests `dstAddr`, a local variable that
is never assigned, so its decision is the right one exactly when the bytes that
happen to be there fall on the same side of every test as the destination.
-/

/-- The network 10.5.51.0/24. -/
def InNet (dst : UInt32) : Prop := ∃ d : UInt8, dst = inetAddr ⟨10, 5, 51, d⟩

theorem packetInNet_iff (dst : UInt32) : packetInNet dst = true ↔ InNet dst :=
  packetDstCheck_network dst 10 5 51

instance (dst : UInt32) : Decidable (InNet dst) :=
  decidable_of_iff _ (packetInNet_iff dst)

namespace Config

/-- The secondary router for an ICMP packet to `dst`. -/
def icmpRoute (c : Config) (dst : UInt32) : SockAddr :=
  match c.stage with
  | .s4 | .s5 => c.rou2Addr
  | _ =>
      if dst = inetAddr ⟨10, 5, 51, 12⟩ then .local c.secondRouter2Port
      else .local c.secondRouter1Port

/-- The action for an ICMP flow to `dst` inside the network. -/
def icmpRule (c : Config) (dst : UInt32) : UInt8 :=
  match c.stage with
  | .s4 => if dst = inetAddr ⟨10, 5, 51, 4⟩ then 3 else 2
  | _ => 2

theorem icmpTarget_eq (c : Config) (dst : UInt32) : c.icmpTarget dst = c.icmpRoute dst := by
  have hne : inetAddr ⟨10, 5, 51, 12⟩ ≠ inetAddr ⟨10, 5, 51, 11⟩ := by decide
  unfold icmpTarget icmpRoute
  simp only [packetDstCheck_host, Bool.or_eq_true]
  cases c.stage with
  | s4 => rfl
  | s5 => rfl
  | s6 | s7 | s9 | s10 =>
      by_cases h : dst = inetAddr ⟨10, 5, 51, 12⟩
      · simp [h, hne]
      · simp +contextual [h]

theorem icmpAction_eq (c : Config) (dst : UInt32) : c.icmpAction dst = c.icmpRule dst := by
  unfold icmpAction icmpRule
  cases c.stage with
  | s4 => simp only [packetDstCheck_host]
  | s5 | s6 | s7 | s9 | s10 => rfl

/-- In the stages with several secondary routers `rou2Addr` is the first. -/
theorem rou2Addr_of_start {stage : Stage} {rou2Addr : SockAddr} {mChildPort : IntMap}
    {c : Config} (h : start stage rou2Addr mChildPort = some c) (hstage : c.stage.tcp = true) :
    c.rou2Addr = .local c.secondRouter1Port := by
  unfold start at h
  dsimp only at h
  split at h
  all_goals
    first
    | obtain rfl := Option.some.inj h
      first
      | rfl
      | exact absurd hstage Bool.false_ne_true
    | cases h

/-- The tests that decide on an ICMP packet come out alike for `a` and `b`. The
two secondary routers are told apart by their ports. -/
def SameRoute (c : Config) (a b : UInt32) : Prop :=
  (InNet a ↔ InNet b) ∧
    match c.stage with
    | .s4 => a = inetAddr ⟨10, 5, 51, 4⟩ ↔ b = inetAddr ⟨10, 5, 51, 4⟩
    | .s5 => True
    | _ => (a = inetAddr ⟨10, 5, 51, 12⟩ ↔ b = inetAddr ⟨10, 5, 51, 12⟩) ∨
        c.secondRouter1Port = c.secondRouter2Port

theorem sameRoute_iff (c : Config) (a b : UInt32) :
    c.SameRoute a b ↔ (InNet a ↔ InNet b) ∧ c.icmpRoute a = c.icmpRoute b ∧
      (InNet b → c.icmpRule a = c.icmpRule b) := by
  have hport : ∀ p q : UInt16, SockAddr.local p = .local q ↔ p = q := fun p q =>
    ⟨fun h => congrArg SockAddr.sinPort h, congrArg SockAddr.local⟩
  unfold SameRoute icmpRoute icmpRule
  refine and_congr_right fun hnet => ?_
  cases c.stage with
  | s4 =>
      by_cases hb : InNet b
      · have h4 : InNet (inetAddr ⟨10, 5, 51, 4⟩) := ⟨4, rfl⟩
        by_cases ha4 : a = inetAddr ⟨10, 5, 51, 4⟩ <;>
          by_cases hb4 : b = inetAddr ⟨10, 5, 51, 4⟩ <;> simp [ha4, hb4, hb, h4]
      · have hne : ∀ x, ¬ InNet x → x ≠ inetAddr ⟨10, 5, 51, 4⟩ := fun x hx h => hx ⟨4, h⟩
        simp [hb, hne a (fun ha => hb (hnet.1 ha)), hne b hb]
  | s5 => simp
  | s6 | s7 | s9 | s10 =>
      by_cases ha : a = inetAddr ⟨10, 5, 51, 12⟩ <;>
        by_cases hb : b = inetAddr ⟨10, 5, 51, 12⟩ <;> simp [ha, hb, hport, eq_comm]

end Config

namespace Primary

/-- The control messages for a new ICMP flow to `dst`: one inside the network,
to the router that gets the packet, and the forward and reverse messages
elsewhere. -/
inductive IcmpControls (c : Config) (dst : UInt32) (flow : FlowEntry) : List Sent → Prop
  | inNet (hnet : InNet dst) (msg : OctaneControl) (hflow : FlowEntry.ofMsg msg = flow)
      (haction : msg.octaneAction = c.icmpRule dst) :
      IcmpControls c dst flow [.control (c.icmpRoute dst) msg]
  | outside (hnet : ¬ InNet dst) (msg msgRev : OctaneControl)
      (hflow : FlowEntry.ofMsg msg = flow) (hflowRev : FlowEntry.ofMsg msgRev = flow.reverse)
      (haction : msg.octaneAction = 1) (hactionRev : msgRev.octaneAction = 1) :
      IcmpControls c dst flow [.control c.rou2Addr msg, .control c.rou2Addr msgRev]

/-- From `s` to `s'` the ICMP packet is handled as its destination demands. -/
def IcmpRouted (c : Config) (s s' : Primary) (buffer : Packet) : Prop :=
  ∃ controls, IcmpControls c buffer.ipDst ⟨buffer.ipSrc, buffer.ipDst, 0xFFFF, 0xFFFF, 1⟩
      controls ∧
    s'.sent = s.sent ++ controls ++ [.data (c.icmpRoute buffer.ipDst) buffer]

theorem ofBuffer_icmp {buffer : Packet} (hp : buffer.ipP = 1) (st : Stack) :
    FlowEntry.ofBuffer st buffer = ⟨buffer.ipSrc, buffer.ipDst, 0xFFFF, 0xFFFF, 1⟩ := by
  simp [FlowEntry.ofBuffer, ipUnpack, hp]

/-- A new ICMP flow has the messages of some batch. -/
theorem exists_icmpBatch {c : Config} {s s' : Primary} {st : Stack} {buffer : Packet}
    {clock : ℕ → Timeval} (hp : buffer.ipP = 1)
    (hmiss : s.router.rouFlowTable.contains (.ofBuffer st buffer) = false)
    (h : s.fromTunnel c st buffer clock = some s') :
    ∃ ts, NewFlow s s' st buffer clock (c.icmpTarget st.dstAddr) ts ∧
      IcmpBatch c st buffer ts := by
  cases fromTunnel_outcome h with
  | icmpHit _ hhit => exact absurd (hmiss.symm.trans hhit) (by decide)
  | icmpMiss ts _ _ hnew hts => exact ⟨ts, hnew, hts⟩
  | tcpHit hp' => exact absurd (hp.symm.trans hp') (by decide)
  | tcpMiss _ hp' => exact absurd (hp.symm.trans hp') (by decide)
  | tcpOther hp' => exact absurd (hp.symm.trans hp') (by decide)
  | ignored hp' => exact absurd hp hp'

/-- The messages of the batch are those for `dstAddr`, whose flow is the
packet's. -/
theorem icmpControls_of_batch {c : Config} {st : Stack} {buffer : Packet}
    {ts : List OctaneTimer} (hts : IcmpBatch c st buffer ts) :
    IcmpControls c st.dstAddr (.ofBuffer st buffer) (ts.map OctaneTimer.expire) := by
  unfold IcmpBatch at hts
  split_ifs at hts with hnet
  · obtain ⟨t, rfl, haddr, hflow, haction⟩ := hts
    rw [List.map_singleton, OctaneTimer.expire, haddr, c.icmpTarget_eq]
    rw [c.icmpAction_eq] at haction
    exact .inNet ((packetInNet_iff _).1 hnet) _ hflow haction
  · obtain ⟨t, t', rfl, haddr, haddr', hflow, hflow', haction, haction'⟩ := hts
    rw [packetInNet_iff] at hnet
    simp only [List.map_cons, List.map_nil, OctaneTimer.expire, haddr, haddr']
    exact .outside hnet _ _ hflow hflow' haction haction'

/-- Messages for the destinations `a` and `b` that are the same come from the
same tests. -/
theorem IcmpControls.unique {c : Config} {a b : UInt32} {flow : FlowEntry} {l l' : List Sent}
    (ha : IcmpControls c a flow l) (hb : IcmpControls c b flow l') (h : l = l') :
    (InNet a ↔ InNet b) ∧ (InNet b → c.icmpRule a = c.icmpRule b) := by
  cases ha with
  | inNet hnet msg hflow haction =>
      cases hb with
      | inNet hnet' msg' hflow' haction' =>
          simp only [List.cons.injEq, Sent.control.injEq, and_true] at h
          obtain ⟨-, rfl⟩ := h
          exact ⟨iff_of_true hnet hnet', fun _ => haction.symm.trans haction'⟩
      | outside hnet' => simp at h
  | outside hnet =>
      cases hb with
      | inNet hnet' => simp at h
      | outside hnet' => exact ⟨iff_of_false hnet hnet', fun h => absurd h hnet'⟩

/-- What is sent for one destination is right for another that the tests do not
tell from it. -/
theorem IcmpControls.congr {c : Config} {a b : UInt32} {flow : FlowEntry} {l : List Sent}
    (h : IcmpControls c a flow l) (hroute : c.SameRoute a b) : IcmpControls c b flow l := by
  obtain ⟨hnet, htarget, hrule⟩ := (c.sameRoute_iff a b).1 hroute
  cases h with
  | inNet hin msg hflow haction =>
      rw [htarget]
      exact .inNet (hnet.1 hin) msg hflow (haction.trans (hrule (hnet.1 hin)))
  | outside hout msg msgRev hflow hflowRev haction hactionRev =>
      exact .outside (fun hin => hout (hnet.2 hin)) msg msgRev hflow hflowRev haction hactionRev

theorem icmpRouted_iff {c : Config} {s s' : Primary} {st : Stack} {buffer : Packet}
    {clock : ℕ → Timeval} {ts : List OctaneTimer} (hp : buffer.ipP = 1)
    (hnew : NewFlow s s' st buffer clock (c.icmpTarget st.dstAddr) ts)
    (hts : IcmpBatch c st buffer ts) :
    IcmpRouted c s s' buffer ↔ c.SameRoute st.dstAddr buffer.ipDst := by
  have hcontrols := icmpControls_of_batch hts
  rw [ofBuffer_icmp hp st] at hcontrols
  constructor
  · rintro ⟨l, hl, hsent⟩
    rw [hnew.sent, c.icmpTarget_eq] at hsent
    obtain ⟨hinit, hlast⟩ := List.append_inj' hsent rfl
    obtain ⟨hnet, hrule⟩ := hcontrols.unique hl (List.append_cancel_left hinit)
    have htarget : c.icmpRoute st.dstAddr = c.icmpRoute buffer.ipDst := by
      injection (List.cons.inj hlast).1
    exact (c.sameRoute_iff _ _).2 ⟨hnet, htarget, hrule⟩
  · intro hroute
    refine ⟨_, hcontrols.congr hroute, ?_⟩
    rw [hnew.sent, c.icmpTarget_eq, ((c.sameRoute_iff _ _).1 hroute).2.1]

/-- The primary router handles an ICMP packet that misses its table as the
packet's destination demands exactly when the tests come out alike for `dstAddr`
and the destination. -/
theorem icmpRouted_iff_sameRoute {c : Config} {s s' : Primary} {st : Stack}
    {buffer : Packet} {clock : ℕ → Timeval} (hp : buffer.ipP = 1)
    (hmiss : s.router.rouFlowTable.contains (.ofBuffer st buffer) = false)
    (h : s.fromTunnel c st buffer clock = some s') :
    IcmpRouted c s s' buffer ↔ c.SameRoute st.dstAddr buffer.ipDst := by
  obtain ⟨ts, hnew, hts⟩ := exists_icmpBatch hp hmiss h
  exact icmpRouted_iff hp hnew hts

/-- The storage a loop starts from, with `dst` in the place of `dstAddr`. -/
def sampleStack (dst : Dotted) : Stack := { (default : Stack) with dstAddr := inetAddr dst }

/-- Two addresses outside the network are routed alike. -/
theorem icmpRouted_outside :
    ∃ s', sampleStart.fromTunnel ⟨.s6, .local 0x2300, 0x2300, 0x2400, 0⟩
        (sampleStack ⟨0, 0, 0, 0⟩) (samplePing ⟨8, 8, 8, 8⟩) (fun _ => ⟨0, 0⟩) = some s' ∧
      IcmpRouted ⟨.s6, .local 0x2300, 0x2300, 0x2400, 0⟩ sampleStart s'
        (samplePing ⟨8, 8, 8, 8⟩) := by
  have hdef : (sampleStart.fromTunnel ⟨.s6, .local 0x2300, 0x2300, 0x2400, 0⟩
      (sampleStack ⟨0, 0, 0, 0⟩) (samplePing ⟨8, 8, 8, 8⟩) fun _ => ⟨0, 0⟩).isSome = true := by
    rfl
  obtain ⟨s', hs'⟩ := Option.isSome_iff_exists.1 hdef
  refine ⟨s', hs', (icmpRouted_iff_sameRoute rfl rfl hs').2 ⟨by decide, Or.inl ?_⟩⟩
  decide

/-- A ping to 8.8.8.8 that misses the table goes to the second secondary router
when the address of the host behind it is left in the place of `dstAddr`. -/
theorem not_icmpRouted_stale_address :
    sampleStart.router.rouFlowTable.contains
        (.ofBuffer (sampleStack ⟨10, 5, 51, 12⟩) (samplePing ⟨8, 8, 8, 8⟩)) = false ∧
      ∃ s', sampleStart.fromTunnel ⟨.s6, .local 0x2300, 0x2300, 0x2400, 0⟩
          (sampleStack ⟨10, 5, 51, 12⟩) (samplePing ⟨8, 8, 8, 8⟩) (fun _ => ⟨0, 0⟩) = some s' ∧
        ¬ IcmpRouted ⟨.s6, .local 0x2300, 0x2300, 0x2400, 0⟩ sampleStart s'
          (samplePing ⟨8, 8, 8, 8⟩) := by
  have hdef : (sampleStart.fromTunnel ⟨.s6, .local 0x2300, 0x2300, 0x2400, 0⟩
      (sampleStack ⟨10, 5, 51, 12⟩) (samplePing ⟨8, 8, 8, 8⟩) fun _ => ⟨0, 0⟩).isSome = true := by
    rfl
  obtain ⟨s', hs'⟩ := Option.isSome_iff_exists.1 hdef
  obtain ⟨ts, hnew, hts⟩ := exists_icmpBatch rfl rfl hs'
  refine ⟨rfl, s', hs', fun hrouted => ?_⟩
  have hnet : InNet (inetAddr ⟨10, 5, 51, 12⟩) ↔ InNet (inetAddr ⟨8, 8, 8, 8⟩) :=
    ((icmpRouted_iff rfl hnew hts).1 hrouted).1
  revert hnet
  decide

end Primary
