import SimpleSDN.Primary.RuleBeforeData

/-!
# Where a packet from the tunnel goes

In stages 6, 7, 9 and 10 a packet from the tunnel and the control messages it
gives rise to go to ports of secondary routers, which `mChildPort` holds. The
one port that is not taken from there is that of a TCP packet to a port other
than 80 and 443: it is whatever the target address held before.
-/

/-- The address of a child in `mChildPort`. -/
def ChildAddr (mChildPort : IntMap) (addr : SockAddr) : Prop :=
  ∃ pid port : ℤ, mChildPort[pid]? = some port ∧ addr = .local (htons (UInt16.ofInt port))

/-- The receiver of a datagram. -/
def Sent.addr? : Sent → Option SockAddr
  | .control addr _ | .data addr _ => some addr
  | .tunnel _ => none

/-- What the step sends because of a packet from the tunnel goes to children. -/
def ToChildren (mChildPort : IntMap) (s : Primary) (e : PrimEvent) (s' : Primary) : Prop :=
  match e with
  | .tunnel _ _ _ => ∀ x ∈ s'.sent.drop s.sent.length, ∀ addr ∈ x.addr?,
      ChildAddr mChildPort addr
  | _ => True

/-- The port left in the target address is that of a child when a TCP packet to a
port other than 80 and 443 is read. -/
def LuckyPort (mChildPort : IntMap) : PrimEvent → Prop
  | .tunnel st buffer _ => buffer.ipP = 6 → ¬ WebPacket buffer →
      ChildAddr mChildPort (.local st.targetPort)
  | _ => True

/-- The addresses a loop is configured with are those of children. -/
structure Config.OfChildren (c : Config) (mChildPort : IntMap) : Prop where
  rou2Addr : ChildAddr mChildPort c.rou2Addr
  port1 : ChildAddr mChildPort (.local c.secondRouter1Port)
  port2 : ChildAddr mChildPort (.local c.secondRouter2Port)
  port3 : c.stage = .s9 → ChildAddr mChildPort (.local c.secondRouter3Port)

theorem childAddr_of_mem {m : IntMap} {p : ℤ × ℤ} (h : p ∈ m.toList) :
    ChildAddr m (.local (htons (UInt16.ofInt p.2))) :=
  ⟨p.1, p.2, Std.ExtTreeMap.mem_toList_iff_getElem?_eq_some.1 h, rfl⟩

/-- The loops of stages 6 to 10 take their addresses from the children. -/
theorem Config.ofChildren_start {stage : Stage} {rou2Addr : SockAddr} {m : IntMap} {c : Config}
    (h : Config.start stage rou2Addr m = some c) (hstage : stage.tcp = true) :
    c.stage = stage ∧ c.OfChildren m := by
  unfold Config.start at h
  rcases hm : m.toList with _ | ⟨p₁, _ | ⟨p₂, rest⟩⟩
  · cases stage <;> simp [hm, Stage.tcp] at h hstage
  · cases stage <;> simp [hm, Stage.tcp] at h hstage
  have hp₁ : p₁ ∈ m.toList := by simp [hm]
  have hp₂ : p₂ ∈ m.toList := by simp [hm]
  cases stage with
  | s4 | s5 => simp [Stage.tcp] at hstage
  | s6 | s7 | s10 =>
      rw [hm] at h
      obtain rfl := Option.some.inj h
      exact ⟨rfl, childAddr_of_mem hp₁, childAddr_of_mem hp₁, childAddr_of_mem hp₂, by simp⟩
  | s9 =>
      rcases rest with _ | ⟨p₃, rest⟩
      · simp [hm] at h
      have hp₃ : p₃ ∈ m.toList := by simp [hm]
      rw [hm] at h
      obtain rfl := Option.some.inj h
      exact ⟨rfl, childAddr_of_mem hp₁, childAddr_of_mem hp₁, childAddr_of_mem hp₂,
        fun _ => childAddr_of_mem hp₃⟩

/-- Only a TCP packet to another port leaves the target port unset. -/
theorem Config.tcpTarget_eq_none_iff {c : Config} (hstage : c.stage.tcp = true) {b : Bool}
    {buffer : Packet} : c.tcpTarget b buffer = none ↔
      ¬ (tcpUnpack buffer = 80 ∨ tcpUnpack buffer = 443) := by
  unfold Config.tcpTarget
  cases hs : c.stage with
  | s4 | s5 => simp [hs, Stage.tcp] at hstage
  | s6 | s7 | s9 | s10 =>
      dsimp only
      split_ifs <;> simp_all

namespace Config.OfChildren

variable {c : Config} {m : IntMap}

/-- A port that is chosen is that of a child. -/
theorem tcpTarget (hc : c.OfChildren m) {b : Bool} {buffer : Packet} {port : UInt16}
    (h : c.tcpTarget b buffer = some port) : ChildAddr m (.local port) := by
  have h3 := hc.port3
  unfold Config.tcpTarget at h
  cases hs : c.stage with
  | s4 | s5 => simp [hs] at h
  | s6 | s7 | s9 | s10 =>
      simp only [hs] at h
      split_ifs at h
      all_goals
        obtain rfl := Option.some.inj h
        first
          | exact hc.port1
          | exact hc.port2
          | exact h3 hs

theorem icmpTarget (hc : c.OfChildren m) (dstAddr : UInt32) :
    ChildAddr m (c.icmpTarget dstAddr) := by
  unfold Config.icmpTarget
  cases c.stage with
  | s4 | s5 => exact hc.rou2Addr
  | s6 | s7 | s9 | s10 =>
      dsimp only
      split_ifs
      · exact hc.port1
      · exact hc.port2
      · exact hc.port1

theorem icmpBatch (hc : c.OfChildren m) {st : Stack} {buffer : Packet} {ts : List OctaneTimer}
    (h : Primary.IcmpBatch c st buffer ts) : ∀ t ∈ ts, ChildAddr m t.rou2Addr := by
  unfold Primary.IcmpBatch at h
  split_ifs at h
  · obtain ⟨t, rfl, haddr, -, -⟩ := h
    simpa [haddr] using hc.icmpTarget st.dstAddr
  · obtain ⟨t, t', rfl, haddr, haddr', -⟩ := h
    simpa [haddr, haddr'] using hc.rou2Addr

theorem tcpRules (hc : c.OfChildren m) {iPortNum dstPort : UInt16} {addr : SockAddr}
    {e : FlowEntry} (haddr : ChildAddr m addr) :
    ∀ r ∈ c.tcpRules iPortNum dstPort addr e, ChildAddr m r.1 := by
  unfold Config.tcpRules
  split_ifs
  · simpa using ⟨haddr, hc.port2⟩
  · simpa using haddr

end Config.OfChildren

namespace Primary

theorem drop_sent {s s' : Primary} {xs : List Sent} (h : s'.sent = s.sent ++ xs) :
    s'.sent.drop s.sent.length = xs := by
  rw [h, List.drop_left]

/-- A packet that is sent alone. -/
theorem toChildren_data {m : IntMap} {s s' : Primary} {addr : SockAddr} {buffer : Packet}
    (hsent : s'.sent = s.sent ++ [.data addr buffer]) :
    (∀ x ∈ s'.sent.drop s.sent.length, ∀ a ∈ x.addr?, ChildAddr m a) ↔ ChildAddr m addr := by
  rw [drop_sent hsent]
  simp [Sent.addr?]

/-- The messages `ts` and then a packet. -/
theorem toChildren_messages {m : IntMap} {s s' : Primary} {ts : List OctaneTimer}
    {addr : SockAddr} {buffer : Packet}
    (hsent : s'.sent = s.sent ++ ts.map OctaneTimer.expire ++ [.data addr buffer])
    (hts : ∀ t ∈ ts, ChildAddr m t.rou2Addr) (haddr : ChildAddr m addr) :
    ∀ x ∈ s'.sent.drop s.sent.length, ∀ a ∈ x.addr?, ChildAddr m a := by
  rw [List.append_assoc] at hsent
  rw [drop_sent hsent]
  intro x hx a ha
  rcases List.mem_append.1 hx with hx | hx
  · obtain ⟨t, ht, rfl⟩ := List.mem_map.1 hx
    obtain rfl := Option.some.inj ha
    exact hts t ht
  · obtain rfl := List.mem_singleton.1 hx
    obtain rfl := Option.some.inj ha
    exact haddr

/-- One step: everything goes to children exactly when the port that is left unset
is that of a child. -/
theorem toChildren_iff_luckyPort {c : Config} {m : IntMap} (hc : c.OfChildren m)
    (hstage : c.stage.tcp = true) {s s' : Primary} {e : PrimEvent}
    (h : primStep c s e = some s') : ToChildren m s e s' ↔ LuckyPort m e := by
  cases e with
  | socket st buffer iPort => exact Iff.rfl
  | expire now => exact Iff.rfl
  | tunnel st buffer clock =>
      simp only [ToChildren, LuckyPort]
      have hne : ¬ (1 : UInt8) = 6 := by decide
      cases fromTunnel_outcome h with
      | icmpHit hp _ _ hsent =>
          rw [toChildren_data hsent, hp]
          exact ⟨fun _ h6 => absurd h6 hne, fun _ => hc.icmpTarget st.dstAddr⟩
      | icmpMiss ts hp _ hnew hts =>
          have hall := toChildren_messages hnew.sent (hc.icmpBatch hts) (hc.icmpTarget st.dstAddr)
          rw [hp]
          exact ⟨fun _ h6 => absurd h6 hne, fun _ => hall⟩
      | tcpHit hp _ _ _ hsent =>
          rw [toChildren_data hsent]
          cases htarget : c.tcpTarget s.isAuthenticated buffer with
          | some port =>
              have hweb : WebPacket buffer := by
                refine ⟨hp, by_contra fun hport => ?_⟩
                rw [(Config.tcpTarget_eq_none_iff hstage).2 hport] at htarget
                exact absurd htarget (by simp)
              exact ⟨fun _ _ hnot => absurd hweb hnot, fun _ => hc.tcpTarget htarget⟩
          | none =>
              have hnot : ¬ WebPacket buffer := fun hweb =>
                (Config.tcpTarget_eq_none_iff hstage).1 htarget hweb.2
              exact ⟨fun hchild _ _ => hchild, fun hlucky => hlucky hp hnot⟩
      | tcpMiss ts hp _ hport hmiss hnew _ =>
          have hchild : ChildAddr m
              (.local ((c.tcpTarget s.isAuthenticated buffer).getD st.targetPort)) := by
            cases htarget : c.tcpTarget s.isAuthenticated buffer with
            | some port => exact hc.tcpTarget htarget
            | none => exact absurd hport ((Config.tcpTarget_eq_none_iff hstage).1 htarget)
          have hts : ∀ t ∈ ts, ChildAddr m t.rou2Addr := by
            intro t ht
            have hrule := List.mem_map_of_mem (f := OctaneTimer.rule) ht
            rw [hnew.rules h hp hstage hport hmiss] at hrule
            exact hc.tcpRules hchild _ hrule
          exact ⟨fun _ _ hnot => absurd ⟨hp, hport⟩ hnot,
            fun _ => toChildren_messages hnew.sent hts hchild⟩
      | tcpOther hp _ hport _ _ hsent =>
          rw [toChildren_data hsent, (Config.tcpTarget_eq_none_iff hstage).2 hport]
          exact ⟨fun hchild _ _ => hchild, fun hlucky => hlucky hp fun hweb => hport hweb.2⟩
      | ignored _ hp' _ hsent =>
          have hp : ¬ buffer.ipP = 6 := fun hp => hp' ⟨hp, hstage⟩
          rw [drop_sent (hsent.trans (List.append_nil _).symm)]
          exact ⟨fun _ h6 => absurd h6 hp, fun _ x hx => (nomatch hx)⟩

/-- In stages 6, 7, 9 and 10, whatever a run has read, the control messages and
the packets that are sent because of a packet from the tunnel go to children
exactly when, at each TCP packet to a port other than 80 and 443, the port left in
the target address is that of a child. -/
theorem toChildren_run_iff (stage : Stage) (hstage : stage.tcp = true) (rou2Addr : SockAddr)
    (router : CRouter) (auth authRev : OctaneControl) (c : Config)
    (hc : Config.start stage rou2Addr router.mChildPort = some c) (es : List PrimEvent) :
    Along (primStep c) (ToChildren router.mChildPort) (start router auth authRev) es ↔
      Along (primStep c) (fun _ e _ => LuckyPort router.mChildPort e)
        (start router auth authRev) es := by
  obtain ⟨rfl, hchildren⟩ := Config.ofChildren_start hc hstage
  refine Along.congr ?_
  exact fun s e s' h => toChildren_iff_luckyPort hchildren hstage h

/-- A router with two children. -/
def sampleRouter : CRouter :=
  { sampleStart.router with mChildPort := ((∅ : IntMap).insert 101 35).insert 102 36 }

/-- The first packet of an HTTP flow and its messages go to a child. -/
theorem toChildren_http_flow :
    ∃ c, Config.start .s6 (.local 0) sampleRouter.mChildPort = some c ∧
      Along (primStep c) (ToChildren sampleRouter.mChildPort)
        (start sampleRouter default default)
        [.tunnel default (samplePacket 0x5000) fun _ => ⟨0, 0⟩] := by
  have hdef : (Config.start .s6 (.local 0) sampleRouter.mChildPort).isSome = true := by decide
  obtain ⟨c, hc⟩ := Option.isSome_iff_exists.1 hdef
  refine ⟨c, hc, (toChildren_run_iff .s6 rfl _ _ _ _ c hc _).2 ?_⟩
  refine Along.of_mem fun e he => ?_
  obtain rfl := List.mem_singleton.1 he
  exact fun _ hnot => absurd (by decide) hnot

/-- A TCP packet to port 8080 goes to the port that happens to be in the target
address. -/
theorem not_toChildren_other_port :
    ∃ c, Config.start .s6 (.local 0) sampleRouter.mChildPort = some c ∧
      ¬ Along (primStep c) (ToChildren sampleRouter.mChildPort)
        (start sampleRouter default default)
        [.tunnel default (samplePacket 0x901F) fun _ => ⟨0, 0⟩] := by
  have hdef : (Config.start .s6 (.local 0) sampleRouter.mChildPort).isSome = true := by decide
  obtain ⟨c, hc⟩ := Option.isSome_iff_exists.1 hdef
  obtain ⟨hstage, hchildren⟩ := Config.ofChildren_start hc rfl
  refine ⟨c, hc, fun hall => ?_⟩
  have hstep : ((start sampleRouter default default).fromTunnel c default (samplePacket 0x901F)
      fun _ => ⟨0, 0⟩).isSome = true := fromTunnel_isSome (by decide)
  obtain ⟨s', hs'⟩ := Option.isSome_iff_exists.1 hstep
  replace hs' : primStep c (start sampleRouter default default)
      (.tunnel default (samplePacket 0x901F) fun _ => ⟨0, 0⟩) = some s' := hs'
  have hlucky := (toChildren_iff_luckyPort hchildren (hstage ▸ rfl) hs').1 (hall s' hs').1
  obtain ⟨pid, port, hport, haddr⟩ := hlucky (by decide) (by decide)
  -- the port left in the target address is 0, and the children have 35 and 36
  have hzero : (0 : UInt16) = htons (UInt16.ofInt port) := congrArg SockAddr.sinPort haddr
  simp only [sampleRouter, Std.ExtTreeMap.getElem?_insert] at hport
  split_ifs at hport
  · obtain rfl := Option.some.inj hport
    exact absurd hzero (by decide)
  · obtain rfl := Option.some.inj hport
    exact absurd hzero (by decide)
  · simp at hport

end Primary
