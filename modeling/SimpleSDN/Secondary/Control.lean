import SimpleSDN.Network.Control
import SimpleSDN.Secondary.Rules

/-!
# The control messages of a secondary router's loop

Of all that arrives at a secondary router only datagrams with control messages reach
what it keeps of control messages: the flow table, the counts and the dropped messages
(`SameControl`). `secondStep_cases` says once what a step does to these and to the
acknowledgements, so that after every run they are what the control messages alone make
of them (`control_of_run`).
-/

/-- The routers keep the same of the control messages. -/
structure CRouter.SameControl (Router Router' : CRouter) : Prop where
  rouFlowTable : Router.rouFlowTable = Router'.rouFlowTable
  iDropAfter : Router.iDropAfter = Router'.iDropAfter
  msgCount : Router.msgCount = Router'.msgCount
  droppedMsg : Router.droppedMsg = Router'.droppedMsg

namespace CRouter

variable {Router Router' Router'' : CRouter}

theorem SameControl.refl (Router : CRouter) : Router.SameControl Router := ⟨rfl, rfl, rfl, rfl⟩

theorem SameControl.symm (h : Router.SameControl Router') : Router'.SameControl Router :=
  ⟨h.rouFlowTable.symm, h.iDropAfter.symm, h.msgCount.symm, h.droppedMsg.symm⟩

theorem SameControl.trans (h : Router.SameControl Router') (h' : Router'.SameControl Router'') :
    Router.SameControl Router'' where
  rouFlowTable := h.rouFlowTable.trans h'.rouFlowTable
  iDropAfter := h.iDropAfter.trans h'.iDropAfter
  msgCount := h.msgCount.trans h'.msgCount
  droppedMsg := h.droppedMsg.trans h'.droppedMsg

/-- The log is not part of it. -/
theorem sameControl_pushLog (Router : CRouter) (line : String) :
    (Router.pushLog line).SameControl Router := ⟨rfl, rfl, rfl, rfl⟩

theorem sameControl_icmpForwardLog (Router : CRouter) (st : Stack) (buffer : Packet)
    (flag : LogFlag) (iPort : ℤ) :
    (Router.icmpForwardLog st buffer flag iPort).1.SameControl Router := by
  unfold icmpForwardLog
  split_ifs
  · exact ⟨rfl, rfl, rfl, rfl⟩
  · exact ⟨rfl, rfl, rfl, rfl⟩
  · exact .refl _

theorem SameControl.countMsg (h : Router.SameControl Router') (m : OctaneControl) :
    (Router.countMsg m).SameControl (Router'.countMsg m) := by
  unfold CRouter.countMsg
  rw [h.msgCount]
  cases Router'.msgCount.get? m with
  | none => exact ⟨h.rouFlowTable, h.iDropAfter, rfl, h.droppedMsg⟩
  | some n => exact ⟨h.rouFlowTable, h.iDropAfter, rfl, h.droppedMsg⟩

theorem SameControl.dropMsg (h : Router.SameControl Router') (m : OctaneControl) :
    (Router.dropMsg m).SameControl (Router'.dropMsg m) := by
  unfold CRouter.dropMsg
  rw [h.msgCount, h.iDropAfter]
  dsimp only
  split_ifs
  · exact ⟨h.rouFlowTable, rfl, rfl, by rw [h.droppedMsg]⟩
  · exact ⟨h.rouFlowTable, rfl, rfl, h.droppedMsg⟩

/-- Such routers do the same to a control message. -/
theorem SameControl.receiveControl (h : Router.SameControl Router') (m : OctaneControl) :
    (Router.receiveControl m).1.SameControl (Router'.receiveControl m).1 ∧
      (Router.receiveControl m).2 = (Router'.receiveControl m).2 := by
  unfold CRouter.receiveControl
  rw [h.droppedMsg]
  split_ifs
  · exact ⟨h, rfl⟩
  · refine ⟨.dropMsg (.countMsg ?_ m) m, rfl⟩
    refine (sameControl_pushLog _ _).trans (SameControl.trans ?_ (sameControl_pushLog _ _).symm)
    exact ⟨by rw [h.rouFlowTable], h.iDropAfter, h.msgCount, rfl⟩

theorem SameControl.receiveAll (h : Router.SameControl Router') (msgs : List OctaneControl) :
    (Router.receiveAll msgs).1.SameControl (Router'.receiveAll msgs).1 ∧
      (Router.receiveAll msgs).2 = (Router'.receiveAll msgs).2 := by
  induction msgs generalizing Router Router' with
  | nil => exact ⟨h, rfl⟩
  | cons m msgs ih =>
      obtain ⟨hone, hack⟩ := h.receiveControl m
      obtain ⟨hrest, hacks⟩ := ih hone
      unfold CRouter.receiveAll
      exact ⟨hrest, congrArg₂ (fun x y => Option.toList x ++ y) hack hacks⟩

end CRouter

/-! ### Control messages on the wire -/

/-- The control message in a datagram. -/
def octaneOf (datagram : List UInt8) : Option OctaneControl :=
  let buffer := Buffer.ofList datagram
  if buffer.ipP = octaneProtocolNum then buffer.octaneUnpack else none

/-- The control message in what a router sends. -/
def SecondOut.octane : SecondOut → Option OctaneControl
  | .udp _ datagram => octaneOf datagram
  | .raw _ _ _ => none

/-- It is of the protocol of control messages. -/
def SecondOut.IsControl : SecondOut → Prop
  | .udp _ datagram => (Buffer.ofList datagram).ipP = octaneProtocolNum
  | .raw _ _ _ => False

/-- The control message in what arrives. -/
def SecondEvent.octane : SecondEvent → Option OctaneControl
  | .udp _ datagram _ => octaneOf datagram
  | _ => none

theorem octaneOf_eq_none {datagram : List UInt8}
    (h : (Buffer.ofList datagram).ipP ≠ octaneProtocolNum) : octaneOf datagram = none :=
  if_neg h

theorem ipP_of_octaneOf {datagram : List UInt8} {msg : OctaneControl}
    (h : octaneOf datagram = some msg) : (Buffer.ofList datagram).ipP = octaneProtocolNum :=
  (Option.ite_none_right_eq_some.1 h).1

theorem SecondOut.octane_eq_none {x : SecondOut} (h : ¬ x.IsControl) : x.octane = none := by
  cases x with
  | udp dst datagram => exact octaneOf_eq_none h
  | raw p dst bytes => rfl

/-- Packets on a raw socket are of its protocol, and the header of a control message has
20 bytes or more. -/
def SecondEvent.WellFormed : SecondEvent → Prop
  | .udp _ datagram _ => (octaneOf datagram).isSome → 20 ≤ (Buffer.ofList datagram).iIpHeaderLen
  | .icmp _ _ packet _ => packet[9]? = some 1
  | .tcp _ packet _ => packet[9]? = some 6

namespace Buffer

variable {b b' : Buffer}

theorem ipP_eq (b : Buffer) : b.ipP = b 9 := rfl

theorem octaneUnpack_congr (h : ∀ k, k < 80 → b k = b' k) : b.octaneUnpack = b'.octaneUnpack := by
  have hfirst := h 0 (by omega)
  refine Option.ext fun m => ?_
  rw [octaneUnpack_eq_some_iff, octaneUnpack_eq_some_iff,
    iOctaneTotLen_congr hfirst (h 2 (by omega)) (h 3 (by omega)), pOctane_congr hfirst,
    octaneAt_congr fun k hk => h _ (by have := b'.pOctane_le; omega)]

/-- A datagram is received in an array that holds a control message. -/
theorem octaneOf_eq {datagram : List UInt8} {n : ℕ} (hn : 80 ≤ n) :
    octaneOf datagram = if (ofList (datagram.take n)).ipP = octaneProtocolNum then
      (ofList (datagram.take n)).octaneUnpack else none := by
  have hsame : ∀ k, k < 80 → ofList datagram k = ofList (datagram.take n) k :=
    fun k hk => (ofList_take (by omega)).symm
  have hp : (ofList datagram).ipP = (ofList (datagram.take n)).ipP := hsame 9 (by omega)
  unfold octaneOf
  dsimp only
  rw [hp, octaneUnpack_congr hsame]

theorem octaneOf_bytes {n : ℕ} (hn : 80 ≤ n) :
    octaneOf (b.bytes 0 n) = if b.ipP = octaneProtocolNum then b.octaneUnpack else none := by
  have hsame : ∀ k, k < 80 → ofList (b.bytes 0 n) k = b k := fun k hk => ofList_bytes (by omega)
  have hp : (ofList (b.bytes 0 n)).ipP = b.ipP := hsame 9 (by omega)
  unfold octaneOf
  dsimp only
  rw [hp, octaneUnpack_congr hsame]

/-- What is sent of a packet of another protocol is of another one, however much it is. -/
theorem ipP_bytes_ne {n : ℕ} (hp : b.ipP ≠ octaneProtocolNum) :
    (ofList (b.bytes 0 n)).ipP ≠ octaneProtocolNum := by
  by_cases hn : 9 < n
  · rwa [show (ofList (b.bytes 0 n)).ipP = b.ipP from ofList_bytes hn]
  · rw [show (ofList (b.bytes 0 n)).ipP = 0 from ofList_of_le (by rw [length_bytes]; omega)]
    decide

/-- The edit of an echo request keeps the protocol. -/
@[simp] theorem icmpReplyEdit_ipP (b : Buffer) : b.icmpReplyEdit.ipP = b.ipP := by
  by_cases hp : b.ipP = 1
  · obtain ⟨q, hq⟩ : ∃ q, b.iIpHeaderLen = 4 * q := ⟨_, rfl⟩
    have hlen : (b.set8 b.iIpHeaderLen 0).iIpHeaderLen = b.iIpHeaderLen ∨ b.iIpHeaderLen = 0 := by
      by_cases hzero : b.iIpHeaderLen = 0
      · exact Or.inr hzero
      · exact Or.inl (iIpHeaderLen_congr (set8_of_ne (Ne.symm hzero)))
    have hlen' : (b.set8 b.iIpHeaderLen 0).iIpHeaderLen = 4 * q ∨
        (b.set8 b.iIpHeaderLen 0).iIpHeaderLen = 0 := by
      rcases hlen with hlen | hzero
      · exact Or.inl (hlen.trans hq)
      · refine Or.inr ?_
        rw [iIpHeaderLen, hzero, set8_self]
        rfl
    unfold ipP
    rw [icmpReplyEdit_of_icmp hp, setIpSum_of_outside (by omega), set32_of_outside (by omega),
      set32_of_outside (by omega), setIcmpCksum_of_outside (by omega), set8_of_ne (by omega)]
  · rw [icmpReplyEdit, if_pos hp]

@[simp] theorem icmpReplyEditFromRawSock_ipP (addr : UInt32) (b : Buffer) :
    (b.icmpReplyEditFromRawSock addr).ipP = b.ipP := by
  unfold icmpReplyEditFromRawSock
  split_ifs
  · rfl
  · exact (setIpSum_of_outside (by omega)).trans (set32_of_outside (by omega))

theorem setTcpCheck_of_lt {saddr daddr : UInt32} {n k : ℕ} (h : k < 16) :
    b.setTcpCheck saddr daddr n k = b k :=
  (set16_of_outside (by omega)).trans (set16_of_outside (by omega))

theorem ipP_of_tcpReplyEdit {addr : UInt32} (h : b.tcpReplyEdit addr = some b') :
    b'.ipP = b.ipP := by
  unfold tcpReplyEdit at h
  split_ifs at h
  obtain rfl := Option.some.inj h
  rw [ipP_eq, setTcpCheck_of_lt (by omega), setIpSum_of_outside (by omega),
    set32_of_outside (by omega), ipP_eq]

end Buffer

/-- What an action sends of a packet of another protocol is no control message. -/
theorem FlowAction.outputs_not_control {a : FlowAction} {protocol : UInt16} {buffer : Buffer}
    {iSize : ℕ} {rou1Addr : SockAddr} {addr : UInt32} {out : List SecondOut}
    (h : a.outputs protocol buffer iSize rou1Addr addr = some out)
    (hp : buffer.ipP ≠ octaneProtocolNum) : ∀ x ∈ out, ¬ x.IsControl := by
  have hraw : ∀ (p : UInt8) dst b i len, ∀ x ∈ sendRaw p dst b i len, ¬ x.IsControl := by
    intro p dst b i len x hx
    unfold sendRaw at hx
    split_ifs at hx
    · obtain rfl := List.mem_singleton.1 hx
      exact id
    · exact absurd hx List.not_mem_nil
  have hudp : ∀ (b : Buffer) addr, b.ipP ≠ octaneProtocolNum →
      ∀ x ∈ sendMsg b iSize addr, ¬ x.IsControl := by
    intro b addr hb x hx
    unfold sendMsg at hx
    split_ifs at hx
    · obtain rfl := List.mem_singleton.1 hx
      exact Buffer.ipP_bytes_ne hb
    · exact absurd hx List.not_mem_nil
  unfold outputs at h
  split_ifs at h
  · obtain rfl := Option.some.inj h
    exact hraw _ _ _ _ _
  · unfold Buffer.tcpForward at h
    obtain ⟨-, h⟩ := Option.ite_none_right_eq_some.1 h
    obtain rfl := Option.some.inj h
    exact hraw _ _ _ _ _
  all_goals obtain rfl := Option.some.inj h
  · simp
  · exact hudp _ _ hp
  · exact hudp _ _ (by rwa [Buffer.icmpReplyEdit_ipP])
  · simp

/-! ### The loop -/

/-- The acknowledgement of the control message in a datagram. -/
def ackBytes (datagram : List UInt8) : List UInt8 :=
  let buffer := Second.udpBuffer datagram
  (buffer.set8 (buffer.iIpHeaderLen + 1) 1).bytes 0 65500

theorem sendMsg_ackBytes {datagram : List UInt8}
    (hp : (Second.udpBuffer datagram).ipP = octaneProtocolNum) (addr : SockAddr) :
    sendMsg (Second.udpBuffer datagram).octaneReplyEdit 65500 addr =
      [.udp addr (ackBytes datagram)] := by
  rw [Buffer.octaneReplyEdit, if_neg (not_not_intro hp), sendMsg_of_le (by omega)]
  rfl

/-- The flag of an acknowledgement is not set in the header. -/
theorem octaneOf_ackBytes {datagram : List UInt8} {m : OctaneControl}
    (h : octaneOf datagram = some m) (hlen : 20 ≤ (Buffer.ofList datagram).iIpHeaderLen) :
    octaneOf (ackBytes datagram) = some (octaneReplyEdit m) := by
  have hlen' : 20 ≤ (Buffer.ofList (datagram.take 65500)).iIpHeaderLen := by
    rwa [Buffer.iIpHeaderLen_congr (Buffer.ofList_take (l := datagram) (k := 0) (by omega))]
  rw [Buffer.octaneOf_eq (n := 65500) (by omega), Option.ite_none_right_eq_some] at h
  have hedit := (Buffer.octaneUnpack_octaneReplyEdit_iff h.1 h.2).2 (Or.inl (by omega))
  rw [Buffer.octaneReplyEdit, if_neg (not_not_intro h.1)] at hedit
  have hnine : 9 ≠ (Buffer.ofList (datagram.take 65500)).iIpHeaderLen + 1 := by omega
  have hp : ((Buffer.ofList (datagram.take 65500)).set8
      ((Buffer.ofList (datagram.take 65500)).iIpHeaderLen + 1) 1).ipP = octaneProtocolNum :=
    (Buffer.set8_of_ne hnine).trans h.1
  unfold ackBytes
  dsimp only
  rw [Buffer.octaneOf_bytes (by omega)]
  exact (if_pos hp).trans hedit

namespace Second

variable {s s' : Second}

/-- A packet of another protocol leaves alone what is kept of control messages. -/
structure Forwarded (s s' : Second) : Prop where
  sameControl : s'.router.SameControl s.router
  sent : ∃ out, s'.sent = s.sent ++ out ∧ ∀ x ∈ out, ¬ x.IsControl

theorem Forwarded.refl (s : Second) : s.Forwarded s :=
  ⟨.refl _, [], (List.append_nil _).symm, by simp⟩

/-- The rule that a packet hits is carried out. -/
theorem controller_not_control {Router : CRouter} {entry : FlowEntry} {fresh : FlowAction}
    {buffer : Buffer} {iSize : ℕ} {rou1Addr : SockAddr} {addr : UInt32}
    {r : CRouter × ℤ × List SecondOut} (hcontains : Router.rouFlowTable.contains entry = true)
    (h : octaneRulesController fresh entry Router buffer iSize rou1Addr addr = some r)
    (hp : buffer.ipP ≠ octaneProtocolNum) : ∀ x ∈ r.2.2, ¬ x.IsControl := by
  obtain ⟨⟨k, a⟩, hfind⟩ := Option.isSome_iff_exists.1 hcontains
  have hout := octaneRulesController_outputs hfind fresh buffer iSize rou1Addr addr
  rw [h, Option.map_some] at hout
  exact FlowAction.outputs_not_control hout.symm hp

theorem forwarded_packet {u : Uninit} {buffer : Buffer} {rou1Addr : SockAddr}
    (h : s.packet u buffer rou1Addr = some s') (hp : buffer.ipP ≠ octaneProtocolNum) :
    s.Forwarded s' := by
  unfold packet at h
  dsimp only at h
  split_ifs at h with hcheck
  · obtain ⟨⟨Router, iFlag, out⟩, hctrl, rfl⟩ := Option.map_eq_some_iff.1 h
    refine ⟨(CRouter.sameControl_pushLog _ _).trans
      (CRouter.sameControl_icmpForwardLog _ _ _ _ _), out, rfl, ?_⟩
    refine controller_not_control ?_ hctrl hp
    rw [CRouter.icmpForwardLog_rouFlowTable]
    exact (FlowTable.flowCheckOut_ne_empty_iff _ _ _).1 hcheck
  · obtain rfl := Option.some.inj h
    exact .refl s

theorem forwarded_raw {u : Uninit} {buffer2 buffer3 : Buffer} {iSize : ℕ} {iPort : ℤ}
    (h : s.raw u buffer2 buffer3 iSize iPort = some s') (hp : buffer3.ipP ≠ octaneProtocolNum) :
    s.Forwarded s' := by
  unfold raw at h
  dsimp only at h
  split_ifs at h with hcheck
  · obtain ⟨⟨Router, iFlag, out⟩, hctrl, rfl⟩ := Option.map_eq_some_iff.1 h
    refine ⟨(CRouter.sameControl_pushLog _ _).trans
      (CRouter.sameControl_icmpForwardLog _ _ _ _ _), out, rfl, ?_⟩
    refine controller_not_control ?_ hctrl hp
    rw [CRouter.pushLog_rouFlowTable, CRouter.icmpForwardLog_rouFlowTable]
    exact (FlowTable.flowCheckOut_ne_empty_iff _ _ _).1 hcheck
  · obtain rfl := Option.some.inj h
    exact .refl s

/-- A control message is received, and acknowledged if it is not dropped. -/
structure Received (s s' : Second) (datagram : List UInt8) (rou1Addr : SockAddr)
    (m : OctaneControl) : Prop where
  octane : octaneOf datagram = some m
  router : s'.router = (s.router.receiveControl m).1
  sent : s'.sent = s.sent ++
    if (s.router.receiveControl m).2.isSome then [.udp rou1Addr (ackBytes datagram)] else []

/-- A step receives a control message, or it leaves alone what is kept of them. -/
theorem secondStep_cases {e : SecondEvent} (he : e.WellFormed) (h : secondStep s e = some s') :
    (∃ u datagram rou1Addr m, e = .udp u datagram rou1Addr ∧
        s.Received s' datagram rou1Addr m) ∨
      e.octane = none ∧ s.Forwarded s' := by
  have hraw : ∀ {p : UInt8} {packet : List UInt8} {n : ℕ}, packet[9]? = some p → 9 < n →
      (packet.take n)[9]? = some p := by
    intro p packet n hpacket hn
    rwa [List.getElem?_take_of_lt hn]
  have hget : ∀ {p : UInt8} {packet : List UInt8} (b : Buffer), packet[9]? = some p →
      (b.store 0 packet).ipP = p := by
    intro p packet b hpacket
    obtain ⟨hlt, hget⟩ := List.getElem?_eq_some_iff.1 hpacket
    have hat : b.store 0 packet (0 + 9) = packet[9] := Buffer.store_of_lt hlt
    exact hat.trans hget
  cases e with
  | udp u datagram rou1Addr =>
      have hoctane : octaneOf datagram = if (udpBuffer datagram).ipP = octaneProtocolNum then
          (udpBuffer datagram).octaneUnpack else none := Buffer.octaneOf_eq (by omega)
      unfold secondStep at h
      dsimp only at h
      split_ifs at h with hp
      · obtain ⟨m, hm, rfl⟩ := Option.map_eq_some_iff.1 h
        rw [if_pos hp] at hoctane
        refine Or.inl ⟨u, datagram, rou1Addr, m, rfl, hoctane.trans hm, rfl, ?_⟩
        rw [← sendMsg_ackBytes hp]
      · rw [if_neg hp] at hoctane
        exact Or.inr ⟨hoctane, forwarded_packet h hp⟩
  | icmp u memory packet iPort =>
      have hraw' : s.raw u (icmpBuffer memory packet)
          ((icmpBuffer memory packet).icmpReplyEditFromRawSock s.oriSrcAddr) 2048 iPort =
            some s' := h
      have hicmp : (icmpBuffer memory packet).ipP = 1 := hget memory (hraw he (by omega))
      refine Or.inr ⟨rfl, forwarded_raw hraw' ?_⟩
      rw [Buffer.icmpReplyEditFromRawSock_ipP, hicmp]
      decide
  | tcp u packet iPort =>
      obtain ⟨buffer3, hedit, hraw'⟩ := Option.bind_eq_some_iff.1 h
      have htcp : (tcpBuffer packet).ipP = 6 := hget .zero (hraw he (by omega))
      refine Or.inr ⟨rfl, forwarded_raw hraw' ?_⟩
      rw [Buffer.ipP_of_tcpReplyEdit hedit, htcp]
      decide

/-- The acknowledgements among what is sent. -/
def acks (sent : List SecondOut) : List OctaneControl := sent.filterMap SecondOut.octane

theorem acks_append (l l' : List SecondOut) : acks (l ++ l') = acks l ++ acks l' :=
  List.filterMap_append

/-- The acknowledgement of a message is in what the step sends. -/
theorem Received.acks {datagram : List UInt8} {rou1Addr : SockAddr} {m : OctaneControl}
    (h : s.Received s' datagram rou1Addr m) (hlen : 20 ≤ (Buffer.ofList datagram).iIpHeaderLen) :
    acks s'.sent = acks s.sent ++ (s.router.receiveControl m).2.toList := by
  rw [h.sent, acks_append]
  cases hack : (s.router.receiveControl m).2 with
  | none => rfl
  | some ack =>
      have heq : ack = octaneReplyEdit m := by
        have hmem : ack ∈ (s.router.receiveControl m).2.toList := by
          rw [hack]
          exact List.mem_singleton.2 rfl
        exact CRouter.eq_of_mem_receiveControl hmem
      rw [heq, ← octaneOf_ackBytes h.octane hlen]
      cases hout : octaneOf (ackBytes datagram) <;> simp [Second.acks, SecondOut.octane, hout]

/-- The loop has done with control messages what the router does that receives `msgs`. -/
structure Controlled (Router : CRouter) (s : Second) (msgs : List OctaneControl) (t : Second) :
    Prop where
  sameControl : t.router.SameControl (Router.receiveAll msgs).1
  acks : acks t.sent = Second.acks s.sent ++ (Router.receiveAll msgs).2

/-- One step, and then the rest of the run. -/
theorem controlled_of_run {es : List SecondEvent} (hes : ∀ e ∈ es, e.WellFormed)
    {Router : CRouter} {s t : Second} (hrouter : s.router.SameControl Router)
    (hrun : run secondStep s es = some t) :
    Controlled Router s (es.filterMap SecondEvent.octane) t := by
  induction es generalizing s Router with
  | nil =>
      obtain rfl := Option.some.inj hrun
      exact ⟨hrouter, (List.append_nil _).symm⟩
  | cons e es ih =>
      obtain ⟨s₁, hstep, hrest⟩ := run_cons.1 hrun
      have he := hes e List.mem_cons_self
      have hes' : ∀ e ∈ es, e.WellFormed := fun e' he' => hes e' (List.mem_cons_of_mem e he')
      rcases secondStep_cases he hstep with
        ⟨u, datagram, rou1Addr, m, rfl, hrec⟩ | ⟨hnone, hforwarded⟩
      · obtain ⟨hsame, hack⟩ := hrouter.receiveControl m
        have hmore := ih hes' (hrec.router ▸ hsame) hrest
        have hoctane : (SecondEvent.udp u datagram rou1Addr).octane = some m := hrec.octane
        rw [List.filterMap_cons_some hoctane]
        refine ⟨hmore.sameControl, ?_⟩
        rw [hmore.acks, hrec.acks (he (Option.isSome_of_eq_some hrec.octane)), hack,
          List.append_assoc]
        rfl
      · obtain ⟨out, hsent, hout⟩ := hforwarded.sent
        have hmore := ih hes' (hforwarded.sameControl.trans hrouter) hrest
        rw [List.filterMap_cons_none hnone]
        refine ⟨hmore.sameControl, ?_⟩
        have hnil : Second.acks out = [] :=
          List.filterMap_eq_nil_iff.2 fun x hx => SecondOut.octane_eq_none (hout x hx)
        rw [hmore.acks, hsent, acks_append, hnil, List.append_nil]

/-- Whatever packets come between them, after every run the rules, the counts and the
dropped messages are what the control messages alone make of them, in the order in which
they came, and the acknowledgements are theirs. -/
theorem control_of_run (Router : CRouter) (oriSrcAddr addr : UInt32) (es : List SecondEvent)
    (hes : ∀ e ∈ es, e.WellFormed) (t : Second)
    (hrun : run secondStep (start Router oriSrcAddr addr) es = some t) :
    t.router.SameControl
        ((start Router oriSrcAddr addr).router.receiveAll (es.filterMap SecondEvent.octane)).1 ∧
      acks t.sent =
        ((start Router oriSrcAddr addr).router.receiveAll (es.filterMap SecondEvent.octane)).2 :=
  have h := controlled_of_run hes (.refl (start Router oriSrcAddr addr).router) hrun
  ⟨h.sameControl, h.acks⟩

/-- A rule for a flow, a packet of the flow and an echo reply from the network. -/
def controlEvents (u : Uninit) : List SecondEvent :=
  [.udp u (ruleDatagram 3 sampleFlow) (.local 0), .udp u (tcpDatagram sampleFlow) (.local 0),
    .icmp u .zero [0x45, 0, 0, 28, 0, 0, 0, 0, 64, 1, 0, 0, 10, 5, 51, 4, 10, 0, 2, 15] 0]

theorem control_of_run_three : ∃ u t,
    run secondStep (start (.init 0 (.none _ _) (.none _ _) (.none _ _)) 0 0) (controlEvents u) =
        some t ∧
      acks t.sent = [⟨3, 1, 1, 0x0F02000A, 0x0433050A, 0x409C, 0x5000, 6, 0⟩] := by
  let u : Uninit := ⟨⟨0, 0, 0, 0⟩, FlowTable.defaultEntry, 0, ⟨0, 0⟩, SockAddr.local 0, 0⟩
  have hes : ∀ e ∈ controlEvents u, e.WellFormed := by
    intro e he
    simp only [controlEvents, List.mem_cons, List.not_mem_nil, or_false] at he
    rcases he with rfl | rfl | rfl
    · exact fun _ => show 20 ≤ (Buffer.ofList _).iIpHeaderLen by decide
    · exact fun _ => show 20 ≤ (Buffer.ofList _).iIpHeaderLen by decide
    · rfl
  have hdef : (run secondStep (start (.init 0 (.none _ _) (.none _ _) (.none _ _)) 0 0)
      (controlEvents u)).isSome = true := by decide +kernel
  obtain ⟨t, ht⟩ := Option.isSome_iff_exists.1 hdef
  obtain ⟨-, hacks⟩ := control_of_run _ 0 0 _ hes t ht
  refine ⟨u, t, ht, hacks.trans ?_⟩
  decide

end Second
