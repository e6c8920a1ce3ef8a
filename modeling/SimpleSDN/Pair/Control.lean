import SimpleSDN.Pair.Basic
import SimpleSDN.System.Wire

/-!
# The control messages of stages 4 and 5

Read as control messages, the datagrams between the two routers are those of `System` with
one secondary router (`Pair.controls_of_run`). So the rules that the secondary router has
are those of messages that the primary router has sent to it, and an acknowledgement is that
of such a message (`Pair.authentic_of_run`).
-/

/-- What the primary router may send when the secondary router is at `addr`. -/
def Sent.ToPair (addr : SockAddr) (e : PrimEvent) : Sent → Prop
  | .control a _ => a = addr
  | .data a p => a = addr ∧ p.ipP = 1 ∧ ∃ st clock, e = .tunnel st p clock
  | .tunnel _ => ∃ st p iPort, e = .socket st p iPort

namespace Primary

variable {c : Config} {s s' : Primary} {e : PrimEvent}

/-- Every timer resends to `addr`. -/
def TimersTo (addr : SockAddr) (s : Primary) : Prop :=
  ∀ p ∈ s.timersManager.entries, p.2.rou2Addr = addr

/-- In stages 4 and 5 an ICMP packet on the socket is written to the tunnel, and nothing
else is sent. -/
theorem sent_fromSocket_icmp (hstage : c.stage.tcp = false) (s : Primary) (st : Stack)
    (buffer : Packet) (iPort : ℤ) : (s.fromSocket c st buffer iPort).sent =
      s.sent ++ if buffer.ipP = 1 then [.tunnel buffer] else [] := by
  have hs9 : ¬ c.stage = .s9 := fun h => by
    rw [h] at hstage
    cases hstage
  unfold fromSocket octaneFromSocket
  simp only [CRouter.icmpForwardLog_protocol, hstage, Bool.false_eq_true, and_false, or_false,
    hs9, false_and, if_false]
  by_cases hp : buffer.ipP = 1
  · rw [if_pos hp, if_pos hp]
    split_ifs <;> simp [send]
  · rw [if_neg hp, if_neg hp, List.append_nil]
    split_ifs <;> simp [clearRefresh, acknowledge]

theorem icmpTarget_of_tcp (hstage : c.stage.tcp = false) (dstAddr : UInt32) :
    c.icmpTarget dstAddr = c.rou2Addr := by
  unfold Config.icmpTarget
  cases hc : c.stage <;> simp_all [Stage.tcp]

/-- The messages of an ICMP flow go to the secondary router. -/
theorem rou2Addr_of_icmpBatch (hstage : c.stage.tcp = false) {st : Stack} {buffer : Packet}
    {ts : List OctaneTimer} (hts : IcmpBatch c st buffer ts) :
    ∀ t ∈ ts, t.rou2Addr = c.rou2Addr := by
  unfold IcmpBatch at hts
  split_ifs at hts
  · obtain ⟨t, rfl, haddr, -⟩ := hts
    intro t' ht'
    rw [List.mem_singleton.1 ht', haddr, icmpTarget_of_tcp hstage]
  · obtain ⟨t, t', rfl, haddr, haddr', -⟩ := hts
    intro x hx
    rcases List.mem_pair.1 hx with rfl | rfl
    · exact haddr
    · exact haddr'

theorem timersTo_of_eq {addr : SockAddr} (h : s.TimersTo addr)
    (hsub : ∀ p ∈ s'.timersManager.entries, p ∈ s.timersManager.entries) : s'.TimersTo addr :=
  fun p hp => h p (hsub p hp)

theorem toPair_tunnel (hstage : c.stage.tcp = false) (h : s.TimersTo c.rou2Addr) {st : Stack}
    {buffer : Packet} {clock : ℕ → Timeval}
    (hstep : primStep c s (.tunnel st buffer clock) = some s') :
    s'.TimersTo c.rou2Addr ∧
      ∀ x ∈ s'.sent.drop s.sent.length, x.ToPair c.rou2Addr (.tunnel st buffer clock) := by
  have htarget := icmpTarget_of_tcp hstage st.dstAddr
  have hnot : ∀ {P : Prop}, c.stage.tcp = true → P := fun htcp => by
    rw [hstage] at htcp
    cases htcp
  cases fromTunnel_outcome hstep with
  | icmpHit hp _ hquiet hsent =>
      refine ⟨timersTo_of_eq h fun p hp => hquiet.timersManager ▸ hp, ?_⟩
      rw [drop_sent hsent]
      intro x hx
      rw [List.mem_singleton.1 hx]
      exact ⟨htarget, hp, st, clock, rfl⟩
  | icmpMiss ts hp _ hnew hts =>
      have haddr := rou2Addr_of_icmpBatch hstage hts
      constructor
      · obtain ⟨⟨T, hs⟩, hadd, hchannel⟩ := Option.map_eq_some_iff.1 hnew.channel
        have hT : s'.timersManager = T := congrArg Channel.timersManager hchannel.symm
        intro p hpmem
        rw [hT, (Timers.of_addTimers hadd).2.2.mem_iff] at hpmem
        rcases List.mem_append.1 hpmem with hnew | hold
        · exact haddr p.2 (List.of_mem_zip hnew).2
        · exact h p hold
      · have hsent := hnew.sent
        rw [List.append_assoc] at hsent
        rw [drop_sent hsent]
        intro x hx
        rcases List.mem_append.1 hx with hx | hx
        · obtain ⟨t, ht, rfl⟩ := List.mem_map.1 hx
          exact haddr t ht
        · rw [List.mem_singleton.1 hx]
          exact ⟨htarget, hp, st, clock, rfl⟩
  | tcpHit _ htcp _ _ _ => exact hnot htcp
  | tcpMiss _ _ htcp _ _ _ _ => exact hnot htcp
  | tcpOther _ htcp _ _ _ _ => exact hnot htcp
  | ignored _ _ hquiet hsent =>
      refine ⟨timersTo_of_eq h fun p hp => hquiet.timersManager ▸ hp, ?_⟩
      rw [drop_sent (hsent.trans (List.append_nil _).symm)]
      simp

theorem toPair_socket (hstage : c.stage.tcp = false) (h : s.TimersTo c.rou2Addr) {st : Stack}
    {buffer : Packet} {iPort : ℤ} (hstep : primStep c s (.socket st buffer iPort) = some s') :
    s'.TimersTo c.rou2Addr ∧
      ∀ x ∈ s'.sent.drop s.sent.length, x.ToPair c.rou2Addr (.socket st buffer iPort) := by
  obtain rfl := Option.some.inj hstep
  constructor
  · cases fromSocket_outcome c s st buffer iPort with
    | forward _ hquiet _ => exact timersTo_of_eq h fun p hp => hquiet.timersManager ▸ hp
    | octane s₀ hp _ _ _ =>
        obtain ⟨hchannel, -⟩ := s.fromSocket_octane c st iPort hp
        refine timersTo_of_eq h fun p hpmem => ?_
        have hT := congrArg Channel.timersManager hchannel
        rw [show (s.fromSocket c st buffer iPort).timersManager = _ from hT] at hpmem
        split_ifs at hpmem
        · exact entries_removeTimer_subset _ _ p hpmem
        · exact hpmem
  · rw [drop_sent (sent_fromSocket_icmp hstage s st buffer iPort)]
    intro x hx
    split_ifs at hx
    · rw [List.mem_singleton.1 hx]
      exact ⟨st, buffer, iPort, rfl⟩
    · cases hx

/-- In stages 4 and 5 everything goes to the one secondary router, also when it is sent
again, and only ICMP packets are passed on. -/
theorem toPair_of_step (hstage : c.stage.tcp = false) (h : s.TimersTo c.rou2Addr)
    (hstep : primStep c s e = some s') :
    s'.TimersTo c.rou2Addr ∧ ∀ x ∈ s'.sent.drop s.sent.length, x.ToPair c.rou2Addr e := by
  cases e with
  | tunnel st buffer clock => exact toPair_tunnel hstage h hstep
  | socket st buffer iPort => exact toPair_socket hstage h hstep
  | expire now =>
      obtain ⟨⟨T, t⟩, hexec, rfl⟩ := Option.map_eq_some_iff.1 hstep
      obtain ⟨-, hperm, hdl, ht⟩ := Timers.of_executeNextTimer hexec
      refine ⟨timersTo_of_eq h fun p hp => hperm.mem_iff.1 hp, ?_⟩
      have hsent : ({ s with timersManager := T }.send t.expire).sent = s.sent ++ [t.expire] := rfl
      rw [drop_sent hsent]
      intro x hx
      rw [List.mem_singleton.1 hx]
      exact h (hdl, t) ht

end Primary

/-! ### As messages -/

/-- The configuration with the port of the secondary router as that of all three. -/
def IcmpStage.system (stage : IcmpStage) (port : UInt16) : Config :=
  ⟨stage.stage, .local port, port, port, port⟩

theorem IcmpStage.tcp_config (stage : IcmpStage) (port : UInt16) :
    (stage.config port).stage.tcp = false := by
  cases stage <;> rfl

/-- In stages 4 and 5 the loop of the primary router does not read these ports. -/
theorem primStep_system (stage : IcmpStage) (port : UInt16) (s : Primary) (e : PrimEvent) :
    primStep (stage.system port) s e = primStep (stage.config port) s e := by
  have hs9 : ¬ stage.stage = .s9 := by
    cases stage <;> exact Stage.noConfusion
  have htcp : stage.stage.tcp = false := by
    cases stage <;> rfl
  cases e with
  | tunnel st buffer clock =>
      have hicmp : ∀ (s : Primary) (sCheck : String),
          s.icmpFromTunnel (stage.system port) st buffer clock sCheck =
            s.icmpFromTunnel (stage.config port) st buffer clock sCheck := by
        intro s sCheck
        cases stage <;> rfl
      have hnot : ∀ {a : UInt8}, ¬ (a = 6 ∧ stage.stage.tcp = true) := by simp [htcp]
      unfold primStep Primary.fromTunnel
      simp only [hicmp]
      rw [if_neg (c := _ = (6 : UInt8) ∧ (stage.system port).stage.tcp = true) hnot,
        if_neg (c := _ = (6 : UInt8) ∧ (stage.config port).stage.tcp = true) hnot]
      cases stage <;> rfl
  | socket st buffer iPort =>
      have hoctane : ∀ (s : Primary) (octMsg : OctaneControl),
          s.octaneFromSocket (stage.system port) octMsg =
            s.octaneFromSocket (stage.config port) octMsg := by
        intro s octMsg
        unfold Primary.octaneFromSocket
        dsimp only
        rw [if_neg (c := (stage.system port).stage = .s9 ∧ _) fun h => hs9 h.1,
          if_neg (c := (stage.config port).stage = .s9 ∧ _) fun h => hs9 h.1]
      unfold primStep Primary.fromSocket
      simp only [hoctane]
      cases stage <;> rfl
  | expire now => rfl

/-- The system is what the two routers look like; the first secondary router is theirs. -/
structure System.ShowsPair (rou1Addr : SockAddr) (port : UInt16) (sys : System) (s : Pair) :
    Prop where
  primary : sys.primary = s.primary
  second : s.second.router.SameControl (sys.secondary 0)
  control : sys.control.Perm (s.flight.filterMap (Datagram.control rou1Addr))
  acks : sys.acks.Perm (s.flight.filterMap (Datagram.ack rou1Addr))
  sound : ∀ d ∈ s.flight, d.Sound rou1Addr
  length : ∀ d ∈ s.flight, d.bytes.length = 2048
  timers : s.primary.TimersTo (.local port)

/-- What the event is for the routers on messages. -/
def PairEvent.sysEvent (rou1Addr : SockAddr) : PairEvent → Option SysEvent
  | .tunnel st packet clock _ => some (.tunnel st (tunnelBuffer packet).packet clock)
  | .expire now _ => some (.expire now)
  | .socket st d =>
      if (pairBuffer d).ipP = octaneProtocolNum then
        some (.ack st (pairBuffer d).packet d.iPort)
      else some (.packet st (pairBuffer d).packet d.iPort)
  | .second (.ready _ (some input) _) =>
      (octaneOf input.datagram).map (.deliver System.firstSecondary)
  | .second _ => none
  | .network flight =>
      some (.network (flight.filterMap (Datagram.control rou1Addr))
        (flight.filterMap (Datagram.ack rou1Addr)))

namespace System.ShowsPair

variable {stage : IcmpStage} {rou1Addr : SockAddr} {port : UInt16} {sys : System} {s s' : Pair}

/-- What the primary router puts in flight. -/
theorem sound_of_toPair (hport : SockAddr.local port ≠ rou1Addr) {e : PrimEvent} {x : Sent}
    (hx : x.ToPair (.local port) e) {buffer : Buffer}
    (hbuffer : ∀ st p clock, e = .tunnel st p clock → p.ipP = buffer.ipP)
    {IpHeader : Buffer} {d : Datagram} (h : x.datagram rou1Addr IpHeader buffer = some d) :
    d.Sound rou1Addr ∧ d.bytes.length = 2048 := by
  cases x with
  | control addr msg =>
      rw [Sent.datagram] at h
      obtain ⟨bytes, hbytes, rfl⟩ := Option.map_eq_some_iff.1 h
      have hcarries := Buffer.carriesControl_of_controlBytes hbytes
      refine ⟨⟨fun _ => ⟨msg, hcarries⟩, fun _ => iff_of_true rfl ?_⟩, ?_⟩
      · have haddr : addr = .local port := hx
        exact haddr ▸ hport
      · obtain ⟨b, -, hb⟩ := Option.map_eq_some_iff.1 hbytes
        rw [← hb, Buffer.length_bytes]
  | data addr p =>
      obtain ⟨-, hp, st, clock, he⟩ := hx
      rw [hbuffer st p clock he] at hp
      have hplain : (Buffer.ofList (buffer.bytes 0 2048)).ipP ≠ octaneProtocolNum := by
        refine Buffer.ipP_bytes_ne ?_
        rw [hp]
        decide
      have hlength : (buffer.bytes 0 2048).length = 2048 := Buffer.length_bytes _ _ _
      rw [Sent.datagram] at h
      generalize buffer.bytes 0 2048 = bytes at h hplain hlength
      obtain rfl := Option.some.inj h
      exact ⟨⟨fun hp => absurd hp hplain, fun hp => absurd hp hplain⟩, hlength⟩
  | tunnel p => exact absurd h.symm (Option.some_ne_none d)

/-- A reaction of the primary router. -/
theorem react (hport : SockAddr.local port ≠ rou1Addr) (h : sys.ShowsPair rou1Addr port s)
    {e : PrimEvent} {buffer : Buffer} {IpHeader : ℕ → Buffer} {bytes : List UInt8}
    (hbuffer : ∀ st p clock, e = .tunnel st p clock → p.ipP = buffer.ipP)
    (hstep : s.react (stage.config port) rou1Addr e buffer IpHeader bytes = some s') :
    ∃ sys', sys.react (stage.system port) e = some sys' ∧ sys'.ShowsPair rou1Addr port s' := by
  obtain ⟨primary, hprim, rfl⟩ := Option.map_eq_some_iff.1 hstep
  obtain ⟨htimers, hto⟩ := Primary.toPair_of_step (stage.tcp_config port) h.timers hprim
  have hmem : ∀ d ∈ Sent.datagrams rou1Addr buffer IpHeader
      (primary.sent.drop s.primary.sent.length),
      (d.Sound rou1Addr ∧ d.bytes.length = 2048) ∧ d.src = rou1Addr := by
    intro d hd
    obtain ⟨x, hx, k, hxd⟩ := exists_of_mem_datagrams hd
    exact ⟨sound_of_toPair hport (hto x hx) hbuffer hxd, src_of_datagram hxd⟩
  have hdata : ∀ addr p, Sent.data addr p ∈ primary.sent.drop s.primary.sent.length →
      buffer.ipP ≠ octaneProtocolNum := by
    intro addr p hp
    obtain ⟨-, hp, st, clock, he⟩ := hto _ hp
    rw [← hbuffer st p clock he, hp]
    decide
  have hnone : (Sent.datagrams rou1Addr buffer IpHeader
      (primary.sent.drop s.primary.sent.length)).filterMap (Datagram.ack rou1Addr) = [] :=
    List.filterMap_eq_nil_iff.2 fun d hd => if_pos (hmem d hd).2
  refine ⟨_, by rw [System.react, primStep_system, h.primary, hprim, Option.map_some], ?_⟩
  refine ⟨rfl, h.second, ?_, ?_, fun d hd => ?_, fun d hd => ?_, htimers⟩
  · rw [List.filterMap_append, control_datagrams IpHeader hdata]
    exact h.control.append_right _
  · rw [List.filterMap_append, hnone, List.append_nil]
    exact h.acks
  · exact (List.mem_append.1 hd).elim (h.sound d) fun hd => (hmem d hd).1.1
  · exact (List.mem_append.1 hd).elim (h.length d) fun hd => (hmem d hd).1.2

/-- A datagram leaves the network. -/
theorem erase (h : sys.ShowsPair rou1Addr port s) {d : Datagram} (hd : d ∈ s.flight)
    (control : List (SockAddr × OctaneControl)) (acks : List OctaneControl)
    (hcontrol : sys.control.Perm ((Datagram.control rou1Addr d).toList ++ control))
    (hacks : sys.acks.Perm ((Datagram.ack rou1Addr d).toList ++ acks)) :
    { sys with control := control, acks := acks }.ShowsPair rou1Addr port
      { s with flight := s.flight.erase d } where
  primary := h.primary
  second := h.second
  control := (List.perm_append_left_iff _).1 <| hcontrol.symm.trans <|
    h.control.trans (perm_filterMap_erase _ hd)
  acks := (List.perm_append_left_iff _).1 <| hacks.symm.trans <|
    h.acks.trans (perm_filterMap_erase _ hd)
  sound := fun d' hd' => h.sound d' (List.mem_of_mem_erase hd')
  length := fun d' hd' => h.length d' (List.mem_of_mem_erase hd')
  timers := h.timers

/-- The secondary router has sent something. -/
theorem append (hport : SockAddr.local port ≠ rou1Addr) (h : sys.ShowsPair rou1Addr port s)
    {second : IcmpSecond} {Router : CRouter} (hsame : second.router.SameControl Router)
    {flight : List Datagram} {acks : List OctaneControl}
    (hflight : ∀ d ∈ flight, d.src = .local port ∧ d.Sound rou1Addr ∧ d.bytes.length = 2048)
    (hacks : flight.filterMap (Datagram.ack rou1Addr) = acks) :
    { sys with
      secondary := Function.update sys.secondary 0 Router
      acks := sys.acks ++ acks }.ShowsPair rou1Addr port
      { s with second := second, flight := s.flight ++ flight } := by
  have hcontrol : flight.filterMap (Datagram.control rou1Addr) = [] :=
    List.filterMap_eq_nil_iff.2 fun d hd =>
      if_neg fun hsrc => hport ((hflight d hd).1.symm.trans hsrc)
  refine ⟨h.primary, ?_, ?_, ?_, fun d hd => ?_, fun d hd => ?_, h.timers⟩
  · dsimp only
    rwa [Function.update_self]
  · rw [List.filterMap_append, hcontrol, List.append_nil]
    exact h.control
  · rw [List.filterMap_append, hacks]
    exact h.acks.append_right acks
  · exact (List.mem_append.1 hd).elim (h.sound d) fun hd => (hflight d hd).2.1
  · exact (List.mem_append.1 hd).elim (h.length d) fun hd => (hflight d hd).2.2

/-- What is sent beside an acknowledgement. -/
theorem of_plainOut (rou1Addr : SockAddr) (port : UInt16) {out : List SecondOut}
    (hout : ∀ x ∈ out, IcmpSecond.PlainOut x) :
    (∀ d ∈ out.filterMap (SecondOut.datagram (.local port)),
        d.src = .local port ∧ d.Sound rou1Addr ∧ d.bytes.length = 2048) ∧
      (out.filterMap (SecondOut.datagram (.local port))).filterMap (Datagram.ack rou1Addr) =
        [] := by
  have hnew : ∀ d ∈ out.filterMap (SecondOut.datagram (.local port)), d.src = .local port ∧
      (Buffer.ofList d.bytes).ipP ≠ octaneProtocolNum ∧ d.bytes.length = 2048 := by
    intro d hd
    obtain ⟨x, hx, hxd⟩ := List.mem_filterMap.1 hd
    cases x with
    | udp dst bytes =>
        obtain rfl := Option.some.inj hxd
        exact ⟨rfl, (hout _ hx).1, (hout _ hx).2 dst bytes rfl⟩
    | raw p dst bytes => exact absurd hxd.symm (Option.some_ne_none d)
  constructor
  · intro d hd
    obtain ⟨hsrc, hp, hlength⟩ := hnew d hd
    exact ⟨hsrc, ⟨fun h => absurd h hp, fun h => absurd h hp⟩, hlength⟩
  · refine List.filterMap_eq_nil_iff.2 fun d hd => ?_
    rw [Datagram.ack, octaneOf_eq_none (hnew d hd).2.1, ite_self]

/-- An iteration that leaves alone what is kept of control messages. -/
theorem plain (hport : SockAddr.local port ≠ rou1Addr) (h : sys.ShowsPair rou1Addr port s)
    {second : IcmpSecond} (hs : s.second.Plain second) :
    sys.ShowsPair rou1Addr port
      { s with
        second := second
        flight := s.flight ++ (second.sent.drop s.second.sent.length).filterMap
          (SecondOut.datagram (.local port)) } := by
  obtain ⟨out, hsent, hout⟩ := hs.sent
  obtain ⟨hflight, hacks⟩ := of_plainOut rou1Addr port hout
  have happend := h.append hport (hs.sameControl.trans h.second) hflight hacks
  rw [Function.update_eq_self, List.append_nil] at happend
  rw [hsent, List.drop_left]
  exact happend

/-- An iteration in which a control message is received. -/
theorem received (hport : SockAddr.local port ≠ rou1Addr) (h : sys.ShowsPair rou1Addr port s)
    {second₁ second : IcmpSecond} {msg : OctaneControl}
    (hs₁ : s.second.Received second₁ rou1Addr msg) (hs : second₁.Plain second) :
    (sys.receive 0 msg).ShowsPair rou1Addr port
      { s with
        second := second
        flight := s.flight ++ (second.sent.drop s.second.sent.length).filterMap
          (SecondOut.datagram (.local port)) } := by
  obtain ⟨hsame, hack⟩ := h.second.receiveControl msg
  obtain ⟨bytes, hcarries, hlength, hsent₁⟩ := hs₁.sent
  obtain ⟨out, hsent, hout⟩ := hs.sent
  obtain ⟨hflight, hacks⟩ := of_plainOut rou1Addr port hout
  have hsame' := (hs.sameControl.trans hs₁.sameControl).trans hsame
  have hreceive : sys.receive 0 msg =
      { sys with
        secondary := Function.update sys.secondary 0 ((sys.secondary 0).receiveControl msg).1
        acks := sys.acks ++ ((sys.secondary 0).receiveControl msg).2.toList } := rfl
  rw [hsent, hsent₁, hack, List.append_assoc, List.drop_left, List.filterMap_append, hreceive]
  cases hmsg : ((sys.secondary 0).receiveControl msg).2 with
  | none => exact h.append hport hsame' hflight hacks
  | some ack =>
      have heq : ack = octaneReplyEdit msg :=
        CRouter.eq_of_mem_receiveControl (by rw [hmsg]; exact List.mem_singleton_self ack)
      have hoctane : octaneOf bytes = some ack :=
        heq ▸ (if_pos hcarries.ipP).trans hcarries.octaneUnpack
      have hsound : Datagram.Sound rou1Addr ⟨.local port, rou1Addr, bytes⟩ :=
        ⟨fun _ => ⟨_, hcarries⟩, fun _ => iff_of_false hport (not_not_intro rfl)⟩
      refine h.append hport hsame' ?_ ?_
      · intro d hd
        rcases List.mem_append.1 hd with hd | hd
        · obtain rfl := List.mem_singleton.1 hd
          exact ⟨rfl, hsound, hlength⟩
        · exact hflight d hd
      · rw [List.filterMap_append, hacks, List.append_nil]
        exact List.filterMap_cons_some ((if_neg hport).trans hoctane)

/-- A datagram with a control message, as it is read. -/
theorem carries (h : sys.ShowsPair rou1Addr port s) {d : Datagram} (hd : d ∈ s.flight)
    (hp : (Buffer.ofList d.bytes).ipP = octaneProtocolNum) :
    ∃ msg, octaneOf d.bytes = some msg ∧ (Buffer.ofList d.bytes).CarriesControl msg ∧
      40 ≤ d.bytes.length := by
  obtain ⟨msg, hmsg⟩ := (h.sound d hd).carries hp
  have hlength := h.length d hd
  exact ⟨msg, (if_pos hp).trans hmsg.octaneUnpack, hmsg, by omega⟩

/-- A datagram that arrives at the primary router. -/
theorem socket (hport : SockAddr.local port ≠ rou1Addr) (h : sys.ShowsPair rou1Addr port s)
    {st : Stack} {d : Datagram} (hd : d ∈ s.flight) (hdst : d.dst = rou1Addr)
    (hstep : { s with flight := s.flight.erase d }.react (stage.config port) rou1Addr
      (.socket st (pairBuffer d).packet d.iPort) .zero (fun _ => .zero) (fromSocketS2 d.bytes) =
        some s') :
    ∃ sys', run (sysStep (stage.system port)) sys
        ((PairEvent.socket st d).sysEvent rou1Addr).toList = some sys' ∧
      sys'.ShowsPair rou1Addr port s' := by
  have hsound := h.sound d hd
  have hlength := h.length d hd
  have hp : (pairBuffer d).ipP = (Buffer.ofList d.bytes).ipP := IcmpSecond.ipP_recvMsg hlength _
  have hcontrol : Datagram.control rou1Addr d = none := by
    rw [Datagram.control]
    split_ifs with hsrc
    · refine Option.map_eq_none_iff.2 (octaneOf_eq_none fun hp => ?_)
      exact ((hsound.between hp).1 hsrc) hdst
    · rfl
  by_cases hoctane : (pairBuffer d).ipP = octaneProtocolNum
  · rw [PairEvent.sysEvent, if_pos hoctane]
    have hoctane' := hp.symm.trans hoctane
    obtain ⟨msg, hmsg, hcarries, hle⟩ := h.carries hd hoctane'
    have hpacket : (pairBuffer d).packet.octane = msg :=
      (IcmpSecond.carriesControl_recvMsg hcarries hle).packet_octane
    have hack : Datagram.ack rou1Addr d = some msg :=
      (if_neg fun hsrc => (hsound.between hoctane').1 hsrc hdst).trans hmsg
    have hmem : msg ∈ sys.acks :=
      h.acks.mem_iff.2 (List.mem_filterMap.2 ⟨d, hd, hack⟩)
    have hshows := h.erase hd sys.control (sys.acks.erase msg)
      (by rw [hcontrol]; rfl) (by rw [hack]; exact List.perm_cons_erase hmem)
    obtain ⟨sys', hreact, hsys'⟩ :=
      hshows.react hport (fun _ _ _ he => PrimEvent.noConfusion he) hstep
    refine ⟨sys', run_cons.2 ⟨sys', ?_, rfl⟩, hsys'⟩
    rw [← hpacket] at hmem hreact
    exact (if_pos ⟨hoctane, hmem⟩).trans hreact
  · rw [PairEvent.sysEvent, if_neg hoctane]
    have hack : Datagram.ack rou1Addr d = none := by
      rw [Datagram.ack, octaneOf_eq_none (hp ▸ hoctane), ite_self]
    have hshows := h.erase hd sys.control sys.acks
      (by rw [hcontrol]; rfl) (by rw [hack]; rfl)
    obtain ⟨sys', hreact, hsys'⟩ :=
      hshows.react hport (fun _ _ _ he => PrimEvent.noConfusion he) hstep
    exact ⟨sys', run_cons.2 ⟨sys', (if_pos hoctane).trans hreact, rfl⟩, hsys'⟩

/-- A datagram that arrives at the secondary router. -/
theorem udp (hport : SockAddr.local port ≠ rou1Addr) (h : sys.ShowsPair rou1Addr port s)
    {remaining : Timeval} {input : UdpInput} {raw : Option RawInput}
    (hd : ⟨input.rou1Addr, .local port, input.datagram⟩ ∈ s.flight)
    (hstep : Pair.iterate stage port { s with
        flight := s.flight.erase ⟨input.rou1Addr, .local port, input.datagram⟩ }
      (.ready remaining (some input) raw) = some s') :
    ∃ sys', run (sysStep (stage.system port)) sys
        ((PairEvent.second (.ready remaining (some input) raw)).sysEvent rou1Addr).toList =
          some sys' ∧
      sys'.ShowsPair rou1Addr port s' := by
  obtain ⟨second, hsecond, rfl⟩ := Option.map_eq_some_iff.1 hstep
  obtain ⟨-, s₁, hs₁, hs'⟩ := IcmpSecond.exists_readUdp hsecond
  have hrest : s₁.Plain second := by
    rw [hs']
    exact IcmpSecond.plain_rest stage s₁ remaining raw
  rw [PairEvent.sysEvent]
  by_cases hp : (Buffer.ofList input.datagram).ipP = octaneProtocolNum
  · obtain ⟨msg, hmsg, hcarries, hle⟩ := h.carries hd hp
    have hsrc : input.rou1Addr = rou1Addr := ((h.sound _ hd).between hp).2 hport
    rw [hsrc] at hd ⊢
    have hcontrol : Datagram.control rou1Addr ⟨rou1Addr, .local port, input.datagram⟩ =
        some (.local port, msg) := by
      rw [Datagram.control, if_pos rfl, hmsg, Option.map_some]
    have hack : Datagram.ack rou1Addr ⟨rou1Addr, .local port, input.datagram⟩ = none := if_pos rfl
    have hmem : (SockAddr.local port, msg) ∈ sys.control :=
      h.control.mem_iff.2 (List.mem_filterMap.2 ⟨_, hd, hcontrol⟩)
    have hshows := h.erase hd (sys.control.erase (.local port, msg)) sys.acks
      (by rw [hcontrol]; exact List.perm_cons_erase hmem) (by rw [hack]; rfl)
    obtain ⟨s₁', hs₁', hreceived⟩ := s.second.received_readUdp stage hcarries hle
    obtain rfl := Option.some.inj (hs₁'.symm.trans hs₁)
    rw [hsrc] at hreceived
    rw [hmsg, Option.map_some, Option.toList_some]
    exact ⟨_, run_cons.2 ⟨_, if_pos hmem, rfl⟩, hshows.received hport hreceived hrest⟩
  · have hlength : input.datagram.length = 2048 := h.length _ hd
    have hsame : input.buffer.ipP = (Buffer.ofList input.datagram).ipP :=
      IcmpSecond.ipP_recvMsg hlength _
    have hp' : input.buffer.ipP ≠ octaneProtocolNum := hsame ▸ hp
    have hnone := octaneOf_eq_none hp
    have hcontrol : Datagram.control rou1Addr ⟨input.rou1Addr, .local port, input.datagram⟩ =
        none := by
      rw [Datagram.control, hnone, Option.map_none, ite_self]
    have hack : Datagram.ack rou1Addr ⟨input.rou1Addr, .local port, input.datagram⟩ = none := by
      rw [Datagram.ack, hnone, ite_self]
    have hshows := h.erase hd sys.control sys.acks
      (by rw [hcontrol]; rfl) (by rw [hack]; rfl)
    rw [hnone, Option.map_none]
    exact ⟨sys, rfl, hshows.plain hport ((IcmpSecond.plain_readUdp hp' hs₁).trans hrest)⟩

/-- Some datagrams are lost, repeated or overtaken. -/
theorem network (h : sys.ShowsPair rou1Addr port s) {flight : List Datagram}
    (hsub : flight ⊆ s.flight) :
    ∃ sys', run (sysStep (stage.system port)) sys
        ((PairEvent.network flight).sysEvent rou1Addr).toList = some sys' ∧
      sys'.ShowsPair rou1Addr port { s with flight := flight } := by
  have hcontrol : flight.filterMap (Datagram.control rou1Addr) ⊆ sys.control := fun x hx =>
    h.control.mem_iff.2 (List.filterMap_subset _ hsub hx)
  have hacks : flight.filterMap (Datagram.ack rou1Addr) ⊆ sys.acks := fun x hx =>
    h.acks.mem_iff.2 (List.filterMap_subset _ hsub hx)
  refine ⟨_, run_cons.2 ⟨_, if_pos ⟨hcontrol, hacks⟩, rfl⟩, ?_⟩
  exact ⟨h.primary, h.second, .refl _, .refl _, fun d hd => h.sound d (hsub hd),
    fun d hd => h.length d (hsub hd), h.timers⟩

/-- Every step on bytes is a step on messages, or none. -/
theorem step (hport : SockAddr.local port ≠ rou1Addr) (h : sys.ShowsPair rou1Addr port s)
    {e : PairEvent} (hstep : pairStep stage rou1Addr port s e = some s') :
    ∃ sys', run (sysStep (stage.system port)) sys (e.sysEvent rou1Addr).toList = some sys' ∧
      sys'.ShowsPair rou1Addr port s' := by
  have hone : ∀ {e' : SysEvent}, e.sysEvent rou1Addr = some e' →
      (∃ sys', sysStep (stage.system port) sys e' = some sys' ∧
        sys'.ShowsPair rou1Addr port s') →
      ∃ sys', run (sysStep (stage.system port)) sys (e.sysEvent rou1Addr).toList = some sys' ∧
        sys'.ShowsPair rou1Addr port s' := by
    rintro e' he ⟨sys', hsys, hshows⟩
    rw [he]
    exact ⟨sys', run_cons.2 ⟨sys', hsys, rfl⟩, hshows⟩
  cases e with
  | tunnel st packet clock IpHeader =>
      have hread : sys.ShowsPair rou1Addr port { s with read := packet.take 2048 :: s.read } :=
        ⟨h.primary, h.second, h.control, h.acks, h.sound, h.length, h.timers⟩
      refine hone rfl (hread.react hport (fun st' p clock' he => ?_) hstep)
      injection he with _ hpacket
      rw [← hpacket]
      rfl
  | expire now IpHeader =>
      exact hone rfl (h.react hport (fun _ _ _ he => PrimEvent.noConfusion he) hstep)
  | socket st d =>
      obtain ⟨⟨hd, hdst, -⟩, hstep⟩ := Option.ite_none_right_eq_some.1 hstep
      exact h.socket hport hd hdst hstep
  | second e =>
      cases harrived : e.arrived (.local port) with
      | none =>
          have hstep' : s.iterate stage port e = some s' := by
            simpa only [pairStep, harrived] using hstep
          obtain ⟨second, hsecond, rfl⟩ := Option.map_eq_some_iff.1 hstep'
          have hplain := IcmpSecond.plain_of_arrived _ harrived hsecond
          have hnone : (PairEvent.second e).sysEvent rou1Addr = none := by
            rcases e with _ | ⟨remaining, _ | input, raw⟩
            · rfl
            · rfl
            · exact absurd harrived (Option.some_ne_none _)
          rw [hnone]
          exact ⟨sys, rfl, h.plain hport hplain⟩
      | some d =>
          have hstep' : (if d ∈ s.flight then
              Pair.iterate stage port { s with flight := s.flight.erase d } e else none) =
                some s' := by
            simpa only [pairStep, harrived] using hstep
          obtain ⟨hd, hiterate⟩ := Option.ite_none_right_eq_some.1 hstep'
          rcases e with _ | ⟨remaining, _ | input, raw⟩
          · exact absurd harrived.symm (Option.some_ne_none d)
          · exact absurd harrived.symm (Option.some_ne_none d)
          · obtain rfl := Option.some.inj harrived
            exact h.udp hport hd hiterate
  | network flight =>
      obtain ⟨hsub, hs⟩ := Option.ite_none_right_eq_some.1 hstep
      rw [← Option.some.inj hs]
      exact h.network hsub

/-- The run lemma. -/
theorem of_run (hport : SockAddr.local port ≠ rou1Addr) (h : sys.ShowsPair rou1Addr port s)
    {es : List PairEvent} (hrun : run (pairStep stage rou1Addr port) s es = some s') :
    ∃ sys', run (sysStep (stage.system port)) sys (es.filterMap (PairEvent.sysEvent rou1Addr)) =
        some sys' ∧ sys'.ShowsPair rou1Addr port s' :=
  run_simulate (fun _ _ _ _ h hstep => h.step hport hstep) h hrun

/-- When the loops start, nothing is in flight. -/
theorem start {primary : Primary} (htimers : primary.TimersTo (.local port)) (second : IcmpSecond)
    (rou1Addr : SockAddr) :
    (System.start primary fun _ => second.router).ShowsPair rou1Addr port
      (.start primary second) where
  primary := rfl
  second := .refl _
  control := .refl _
  acks := .refl _
  sound _ hd := absurd hd List.not_mem_nil
  length _ hd := absurd hd List.not_mem_nil
  timers := htimers

end System.ShowsPair

namespace Pair

/-- In every run of the two routers the control messages between them are those of a run of
`System`. -/
theorem controls_of_run (stage : IcmpStage) (rou1Addr : SockAddr) (port : UInt16)
    (hport : SockAddr.local port ≠ rou1Addr) (primary : Primary)
    (htimers : primary.TimersTo (.local port)) (second : IcmpSecond) (es : List PairEvent)
    (s : Pair) (hrun : run (pairStep stage rou1Addr port) (start primary second) es = some s) :
    ∃ sys, run (sysStep (stage.system port)) (System.start primary fun _ => second.router)
        (es.filterMap (PairEvent.sysEvent rou1Addr)) = some sys ∧
      sys.ShowsPair rou1Addr port s :=
  System.ShowsPair.of_run hport (.start htimers second rou1Addr) hrun

/-- A secondary router of stage 5 that has just been made. -/
def sampleSecond : IcmpSecond :=
  .start .s5 (.init 0 (.none _ _) (.none _ _) (.none _ _)) (.local 0) 0

/-- A datagram as it is read. -/
def sampleInput (d : Datagram) : UdpInput := ⟨default, .zero, .zero, 0, 0, 0, d.bytes, d.src⟩

/-- The rule for echo requests from 10.0.2.15 to 10.5.51.4. -/
def pingRule : OctaneControl := ⟨1, 0, 1, 0x0F02000A, 0x0433050A, 0xFFFF, 0xFFFF, 1, 0⟩

/-- An echo request, whose rule is delivered. -/
def pingEvents : List PairEvent :=
  .tunnel default (ping []) (fun _ => ⟨0, 0⟩) (fun _ => .zero) ::
    (Net.controlDatagram 0x2300 pingRule).map fun d =>
      .second (.ready ⟨14, 0⟩ (some (sampleInput d)) none)

theorem isSome_run_pingEvents : (run (pairStep .s5 (.local 0x2200) 0x2300)
    (start sampleStart sampleSecond) pingEvents).isSome = true := by
  decide +kernel

/-- The acknowledgement is in flight then. -/
theorem controls_of_run_ping : ∃ (s : Pair) (sys : System),
    run (pairStep .s5 (.local 0x2200) 0x2300) (start sampleStart sampleSecond) pingEvents =
        some s ∧
      sys.ShowsPair (.local 0x2200) 0x2300 s ∧ sys.acks = [octaneReplyEdit pingRule] := by
  obtain ⟨s, hs⟩ := Option.isSome_iff_exists.1 isSome_run_pingEvents
  obtain ⟨sys, hsys, hshows⟩ := controls_of_run .s5 _ _ (by decide) sampleStart
    (fun p hp => absurd hp List.not_mem_nil) _ _ s hs
  have hacks : (run (sysStep (IcmpStage.s5.system 0x2300))
      (System.start sampleStart fun _ => sampleSecond.router)
      (pingEvents.filterMap (PairEvent.sysEvent (.local 0x2200)))).map System.acks =
        some [octaneReplyEdit pingRule] := by decide +kernel
  obtain ⟨sys', hsys', hacks'⟩ := Option.map_eq_some_iff.1 hacks
  obtain rfl := Option.some.inj (hsys.symm.trans hsys')
  exact ⟨s, sys, hs, hshows, hacks'⟩

/-- The rules that the secondary router has come from the primary one, and so does what is
acknowledged. -/
theorem authentic_of_run (stage : IcmpStage) (rou1Addr : SockAddr) (port : UInt16)
    (hport : SockAddr.local port ≠ rou1Addr) (primary : Primary)
    (htimers : primary.TimersTo (.local port)) (second : IcmpSecond) (es : List PairEvent)
    (s : Pair) (hrun : run (pairStep stage rou1Addr port) (start primary second) es = some s) :
    second.router.rouFlowTable.From (s.primary.sentTo (.local port))
        s.second.router.rouFlowTable ∧
      ∀ d ∈ s.flight, d.dst = rou1Addr → ∀ a, octaneOf d.bytes = some a →
        ∃ msg ∈ s.primary.sentTo (.local port), a = octaneReplyEdit msg := by
  obtain ⟨sys, hsys, hshows⟩ :=
    System.ShowsPair.of_run hport (.start htimers second rou1Addr) hrun
  have hsourced :=
    (System.sourced_start (stage.system port) primary fun _ => second.router).of_run hsys
  have hports : ∀ i, (stage.system port).secondPort i = port
    | 0 => rfl
    | 1 => rfl
    | 2 => rfl
  rw [← hshows.primary]
  constructor
  · rw [hshows.second.rouFlowTable]
    exact hports 0 ▸ hsourced.rules 0
  · intro d hd hdst a ha
    have hp := ipP_of_octaneOf ha
    have hack : Datagram.ack rou1Addr d = some a :=
      (if_neg fun hsrc => ((hshows.sound d hd).between hp).1 hsrc hdst).trans ha
    obtain ⟨i, hmsg⟩ :=
      hsourced.acks a (hshows.acks.mem_iff.2 (List.mem_filterMap.2 ⟨d, hd, hack⟩))
    exact hports i ▸ hmsg

/-- The rule for the echo requests is that of a message. -/
theorem authentic_of_run_ping : ∃ s,
    run (pairStep .s5 (.local 0x2200) 0x2300) (start sampleStart sampleSecond) pingEvents =
        some s ∧
      sampleSecond.router.rouFlowTable.From (s.primary.sentTo (.local 0x2300))
        s.second.router.rouFlowTable ∧
      FlowEntry.ofMsg pingRule ∈ s.second.router.rouFlowTable.keys := by
  obtain ⟨s, hs⟩ := Option.isSome_iff_exists.1 isSome_run_pingEvents
  obtain ⟨hrules, -⟩ := authentic_of_run .s5 _ _ (by decide) sampleStart
    (fun p hp => absurd hp List.not_mem_nil) _ _ s hs
  have hkeys : (run (pairStep .s5 (.local 0x2200) 0x2300) (start sampleStart sampleSecond)
      pingEvents).map (fun s => s.second.router.rouFlowTable.entries.map Prod.fst) =
        some [.ofMsg pingRule, FlowTable.defaultEntry] := by
    decide +kernel
  rw [hs, Option.map_some, Option.some.injEq] at hkeys
  refine ⟨s, hs, hrules, ?_⟩
  obtain ⟨e, he, hentry⟩ := List.mem_map.1 (hkeys ▸ List.mem_cons_self)
  exact hentry ▸ StdMap.mem_keys he

end Pair
