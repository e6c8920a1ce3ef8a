import SimpleSDN.Secondary.Loop

/-!
# What a rule does to a packet

A packet that hits a rule has what the action of the rule asks for done to it
(`FlowAction.CarriedOut`), with two exceptions: the rule is never removed, whatever
its action is, and a packet whose transport part is too short, too long or of
another protocol is not forwarded to a raw socket (`Second.rulesCarriedOut_iff`).
-/

/-- The transport part of a packet, up to the checksum of a TCP segment. -/
structure Buffer.Transport (buffer : Buffer) (segment : List UInt8) : Prop where
  length : buffer.iIpHeaderLen + segment.length = buffer.ipLen
  bytes : ∀ k, k < segment.length → (buffer.ipP = 6 → k ≠ 16 ∧ k ≠ 17) →
    segment[k]? = some (buffer (buffer.iIpHeaderLen + k))

/-- The packet is an echo request that fits in the array. -/
structure Buffer.IsEchoRequest (buffer : Buffer) : Prop where
  ipP : buffer.ipP = 1
  header : 20 ≤ buffer.iIpHeaderLen
  part : buffer.iIpHeaderLen + 8 ≤ buffer.ipLen
  ipLen : buffer.ipLen ≤ 65500
  icmpType : buffer buffer.iIpHeaderLen = 8
  icmpCode : buffer (buffer.iIpHeaderLen + 1) = 0

/-- What the action asks to be sent of a packet in `buffer` from `sender`. -/
structure FlowAction.CarriedOut (a : FlowAction) (buffer : Buffer) (sender : SockAddr)
    (out : List SecondOut) : Prop where
  raw : a.action = 1 → a.fwdPort = 0 →
    ∃ segment, out = [.raw buffer.ipP buffer.ipDst segment] ∧ buffer.Transport segment
  forward : a.action = 1 → a.fwdPort ≠ 0 →
    out = [.udp (SockAddr.local (htons a.fwdPort)) (buffer.bytes 0 65500)]
  reply : a.action = 2 → ∃ r : Buffer, out = [.udp sender (r.bytes 0 65500)] ∧
    (buffer.IsEchoRequest → buffer.EchoReply r)
  drop : a.action = 3 → out = []
  remove : a.action = 4 → out = []

/-- The packet can be forwarded to a raw socket: it has a transport part, of TCP or
ICMP, whose length is kept in a `short`, and a TCP segment fits in the array in
which its checksum is computed. -/
structure Buffer.RawSendable (buffer : Buffer) : Prop where
  ipP : buffer.ipP = 1 ∨ buffer.ipP = 6 ∧ buffer.ipLen ≤ buffer.iIpHeaderLen + 2036
  header : buffer.iIpHeaderLen ≤ buffer.ipLen
  part : buffer.ipLen < buffer.iIpHeaderLen + 32768

/-- The action can be carried out on the packet. -/
structure FlowAction.Feasible (a : FlowAction) (buffer : Buffer) : Prop where
  not_remove : a.action ≠ 4
  raw : a.action = 1 → a.fwdPort = 0 → buffer.RawSendable
  reply : a.action = 2 → buffer.IsEchoRequest →
    buffer.ipLen < buffer.iIpHeaderLen + 32768 ∨
      Verifies ((buffer.set8 buffer.iIpHeaderLen 0).set16 (buffer.iIpHeaderLen + 2) 0xFFFF)
        buffer.iIpHeaderLen (buffer.ipLen - buffer.iIpHeaderLen)

/-- What the controller sends for an action. -/
def FlowAction.outputs (a : FlowAction) (protocol : UInt16) (buffer : Buffer) (iSize : ℕ)
    (rou1Addr : SockAddr) (rou2SinAddr : UInt32) : Option (List SecondOut) :=
  if a.action = 1 then
    if a.fwdPort = 0 then
      if protocol = 1 then some buffer.icmpForward
      else if protocol = 6 then buffer.tcpForward rou2SinAddr
      else some []
    else some (sendMsg buffer iSize (SockAddr.local (htons a.fwdPort)))
  else if a.action = 2 then some (sendMsg buffer.icmpReplyEdit iSize rou1Addr)
  else some []

/-- The controller carries out the rule that the lookup has found. -/
theorem octaneRulesController_outputs {Router : CRouter} {entry r : FlowEntry} {a : FlowAction}
    (h : Router.rouFlowTable.mTable.find entry = some (r, a)) (fresh : FlowAction)
    (buffer : Buffer) (iSize : ℕ) (rou1Addr : SockAddr) (addr : UInt32) :
    (octaneRulesController fresh entry Router buffer iSize rou1Addr addr).map
        (fun x => x.2.2) = a.outputs entry.protocol buffer iSize rou1Addr addr := by
  have hget : Router.rouFlowTable.mTable.get? entry = some a := by
    rw [StdMap.get?, h]
    rfl
  unfold octaneRulesController FlowAction.outputs
  rw [StdMap.index_of_get?_eq_some hget]
  dsimp only
  split_ifs <;> simp [Function.comp_def]

namespace Buffer

variable {b : Buffer} {addr : UInt32}

/-- The bytes behind the header, with what has been stored in the TCP checksum. -/
theorem transport_bytes {b' : Buffer} (hle : b.iIpHeaderLen ≤ b.ipLen)
    (hsame : ∀ k, (b.ipP = 6 → k ≠ 16 ∧ k ≠ 17) →
      b' (b.iIpHeaderLen + k) = b (b.iIpHeaderLen + k)) :
    b.Transport (b'.bytes b.iIpHeaderLen (b.ipLen - b.iIpHeaderLen)) := by
  constructor
  · rw [length_bytes]
    omega
  · intro k hk hcheck
    rw [length_bytes] at hk
    rw [getElem?_bytes, if_pos hk, hsame k hcheck]

theorem setTcpCheck_of_ne {saddr daddr : UInt32} {n k : ℕ} (h : k ≠ 16 ∧ k ≠ 17) :
    b.setTcpCheck saddr daddr n (b.iIpHeaderLen + k) = b (b.iIpHeaderLen + k) :=
  (set16_of_outside (by omega)).trans (set16_of_outside (by omega))

theorem icmpForward_iff (hp : b.ipP = 1) :
    (∃ segment, b.icmpForward = [.raw b.ipP b.ipDst segment] ∧ b.Transport segment) ↔
      b.RawSendable := by
  unfold icmpForward sendRaw
  rcases b.iTotLen_cases with ⟨hle, hlt, hlen⟩ | ⟨hbad, hneg⟩
  · rw [hlen, if_pos (Int.natCast_nonneg _), Int.toNat_natCast, hp]
    exact ⟨fun _ => ⟨Or.inl hp, hle, hlt⟩,
      fun _ => ⟨_, rfl, transport_bytes hle fun _ _ => rfl⟩⟩
  · rw [if_neg (not_le.2 hneg)]
    constructor
    · rintro ⟨segment, hnil, -⟩
      exact absurd hnil (List.cons_ne_nil _ _).symm
    · intro h
      have hle := h.header
      have hlt := h.part
      omega

theorem tcpForward_iff (hp : b.ipP = 6) :
    (∃ segment, b.tcpForward addr = some [.raw b.ipP b.ipDst segment] ∧ b.Transport segment) ↔
      b.RawSendable := by
  have hsendable : b.RawSendable ↔ 0 ≤ b.iTotLen ∧ b.iTotLen ≤ 2036 := by
    rcases b.iTotLen_cases with ⟨hle, hlt, hlen⟩ | ⟨hbad, hneg⟩
    · constructor
      · intro h
        have h2036 := (h.ipP.resolve_left (by rw [hp]; decide)).2
        omega
      · exact fun h => ⟨Or.inr ⟨hp, by omega⟩, hle, hlt⟩
    · refine ⟨fun h => ?_, fun h => absurd h.1 (not_le.2 hneg)⟩
      have hle := h.header
      have hlt := h.part
      omega
  rw [hsendable]
  unfold tcpForward
  constructor
  · rintro ⟨segment, hsome, -⟩
    by_contra hlen
    rw [if_neg hlen] at hsome
    exact absurd hsome (Option.some_ne_none _).symm
  · intro hlen
    rcases b.iTotLen_cases with ⟨hle, -, heq⟩ | ⟨-, hneg⟩
    · rw [if_pos hlen, heq, sendRaw, if_pos (Int.natCast_nonneg _), Int.toNat_natCast, hp]
      refine ⟨_, rfl, transport_bytes hle fun k hk => setTcpCheck_of_ne (hk hp)⟩
    · exact absurd hlen.1 (not_le.2 hneg)

end Buffer

theorem sendMsg_of_le {buf : Buffer} {iSize : ℕ} {addr : SockAddr} (h : iSize ≤ 65507) :
    sendMsg buf iSize addr = [.udp addr (buf.bytes 0 iSize)] :=
  if_pos h

/-- The array of a datagram determines which bytes were sent. -/
theorem Buffer.EchoReply.of_bytes {b r r' : Buffer} (h : b.EchoReply r) (hb : b.IsEchoRequest)
    (hbytes : r'.bytes 0 65500 = r.bytes 0 65500) : b.EchoReply r' := by
  have hlen := hb.header
  have hpart := hb.part
  refine h.congr hlen (by omega) (fun _ _ => rfl) fun k hk => ?_
  have hget := congrArg (fun l : List UInt8 => l[k]?) hbytes
  have hk' : k < 65500 := hk.trans_le hb.ipLen
  rw [Buffer.getElem?_bytes, Buffer.getElem?_bytes, if_pos hk', if_pos hk', Nat.zero_add] at hget
  exact Option.some.inj hget

namespace FlowAction

variable {a : FlowAction} {b : Buffer} {sender : SockAddr} {addr : UInt32} {out : List SecondOut}

/-- For each action one part of what is asked for counts. -/
theorem carriedOut_raw_iff (ha : a.action = 1) (hport : a.fwdPort = 0) :
    a.CarriedOut b sender out ↔
      ∃ segment, out = [.raw b.ipP b.ipDst segment] ∧ b.Transport segment := by
  refine ⟨fun h => h.raw ha hport, fun h => ⟨fun _ _ => h, ?_, ?_, ?_, ?_⟩⟩
  · exact fun _ hne => absurd hport hne
  all_goals
    rw [ha]
    exact fun h => absurd h (by decide)

theorem carriedOut_forward (ha : a.action = 1) (hport : a.fwdPort ≠ 0) :
    a.CarriedOut b sender [.udp (SockAddr.local (htons a.fwdPort)) (b.bytes 0 65500)] := by
  refine ⟨fun _ h => absurd h hport, fun _ _ => rfl, ?_, ?_, ?_⟩
  all_goals
    rw [ha]
    exact fun h => absurd h (by decide)

theorem carriedOut_reply_iff (ha : a.action = 2) :
    a.CarriedOut b sender out ↔ ∃ r : Buffer, out = [.udp sender (r.bytes 0 65500)] ∧
      (b.IsEchoRequest → b.EchoReply r) := by
  refine ⟨fun h => h.reply ha, fun h => ⟨?_, ?_, fun _ => h, ?_, ?_⟩⟩
  all_goals
    rw [ha]
    exact fun h => absurd h (by decide)

theorem carriedOut_nil (h₁ : a.action ≠ 1) (h₂ : a.action ≠ 2) : a.CarriedOut b sender [] :=
  ⟨fun h => absurd h h₁, fun h => absurd h h₁, fun h => absurd h h₂, fun _ => rfl, fun _ => rfl⟩

/-- A packet is forwarded to its raw socket exactly when it can be. -/
theorem outputs_raw_iff (ha : a.action = 1) (hport : a.fwdPort = 0) :
    (∃ out, a.outputs b.ipP.toUInt16 b 65500 sender addr = some out ∧
        a.CarriedOut b sender out) ↔ b.RawSendable := by
  have hswap : (∃ out, a.outputs b.ipP.toUInt16 b 65500 sender addr = some out ∧
        a.CarriedOut b sender out) ↔
      ∃ segment, a.outputs b.ipP.toUInt16 b 65500 sender addr =
        some [.raw b.ipP b.ipDst segment] ∧ b.Transport segment := by
    constructor
    · rintro ⟨out, hout, hcarried⟩
      obtain ⟨segment, rfl, htransport⟩ := hcarried.raw ha hport
      exact ⟨segment, hout, htransport⟩
    · rintro ⟨segment, hout, htransport⟩
      exact ⟨_, hout, (carriedOut_raw_iff ha hport).2 ⟨segment, rfl, htransport⟩⟩
  have hicmp : b.ipP.toUInt16 = 1 ↔ b.ipP = 1 := UInt8.toUInt16_inj (b := 1)
  have htcp : b.ipP.toUInt16 = 6 ↔ b.ipP = 6 := UInt8.toUInt16_inj (b := 6)
  rw [hswap, outputs, if_pos ha, if_pos hport]
  by_cases h₁ : b.ipP = 1
  · rw [if_pos (hicmp.2 h₁), ← Buffer.icmpForward_iff h₁]
    simp only [Option.some.injEq]
  · rw [if_neg (hicmp.not.2 h₁)]
    by_cases h₆ : b.ipP = 6
    · rw [if_pos (htcp.2 h₆)]
      exact Buffer.tcpForward_iff h₆
    · rw [if_neg (htcp.not.2 h₆)]
      constructor
      · rintro ⟨segment, hnil, -⟩
        exact absurd (Option.some.inj hnil) (List.cons_ne_nil _ _).symm
      · exact fun h => absurd h.ipP (not_or_intro h₁ fun h => h₆ h.1)

/-- An echo request is answered exactly when the checksum of its reply verifies. -/
theorem outputs_reply_iff (ha : a.action = 2) :
    (∃ out, a.outputs b.ipP.toUInt16 b 65500 sender addr = some out ∧
        a.CarriedOut b sender out) ↔ (b.IsEchoRequest → b.EchoReply b.icmpReplyEdit) := by
  have houtputs : a.outputs b.ipP.toUInt16 b 65500 sender addr =
      some [.udp sender (b.icmpReplyEdit.bytes 0 65500)] := by
    rw [outputs, if_neg (by rw [ha]; decide), if_pos ha, sendMsg_of_le (by omega)]
  rw [houtputs]
  constructor
  · rintro ⟨out, hout, hcarried⟩ hecho
    obtain ⟨r, hr, hreply⟩ := hcarried.reply ha
    have hlist := (Option.some.inj hout).trans hr
    have hbytes : b.icmpReplyEdit.bytes 0 65500 = r.bytes 0 65500 :=
      (SecondOut.udp.inj (List.cons.inj hlist).1).2
    exact (hreply hecho).of_bytes hecho hbytes
  · exact fun h => ⟨_, rfl, (carriedOut_reply_iff ha).2 ⟨_, rfl, h⟩⟩

theorem echoReply_iff_of_isEchoRequest (h : b.IsEchoRequest) : b.EchoReply b.icmpReplyEdit ↔
    b.ipLen < b.iIpHeaderLen + 32768 ∨
      Verifies ((b.set8 b.iIpHeaderLen 0).set16 (b.iIpHeaderLen + 2) 0xFFFF)
        b.iIpHeaderLen (b.ipLen - b.iIpHeaderLen) := by
  have hpart := h.part
  by_cases hlt : b.ipLen < b.iIpHeaderLen + 32768
  · exact ⟨fun _ => Or.inl hlt,
      fun _ => Buffer.echoReply_icmpReplyEdit h.ipP h.header (by omega) hlt⟩
  · rw [Buffer.echoReply_icmpReplyEdit_of_long h.ipP h.header (by omega), or_iff_right hlt]

/-- The controller does what an action other than 4 asks for exactly when that is
feasible. -/
theorem outputs_carriedOut_iff (sender : SockAddr) (addr : UInt32) (ha : a.action ≠ 4) :
    (∃ out, a.outputs b.ipP.toUInt16 b 65500 sender addr = some out ∧
        a.CarriedOut b sender out) ↔ a.Feasible b := by
  by_cases h₁ : a.action = 1
  · have h₂ : a.action ≠ 2 := by rw [h₁]; decide
    by_cases hport : a.fwdPort = 0
    · rw [outputs_raw_iff h₁ hport]
      exact ⟨fun h => ⟨ha, fun _ _ => h, fun h' => absurd h' h₂⟩, fun h => h.raw h₁ hport⟩
    · refine ⟨fun _ => ⟨ha, fun _ h => absurd h hport, fun h => absurd h h₂⟩, fun _ => ?_⟩
      rw [outputs, if_pos h₁, if_neg hport, sendMsg_of_le (by omega)]
      exact ⟨_, rfl, carriedOut_forward h₁ hport⟩
  · by_cases h₂ : a.action = 2
    · rw [outputs_reply_iff h₂]
      constructor
      · exact fun h => ⟨ha, fun h' => absurd h' h₁,
          fun _ hecho => (echoReply_iff_of_isEchoRequest hecho).1 (h hecho)⟩
      · exact fun h hecho => (echoReply_iff_of_isEchoRequest hecho).2 (h.reply h₂ hecho)
    · refine ⟨fun _ => ⟨ha, fun h => absurd h h₁, fun h => absurd h h₂⟩, fun _ => ?_⟩
      rw [outputs, if_neg h₁, if_neg h₂]
      exact ⟨_, rfl, carriedOut_nil h₁ h₂⟩

end FlowAction

namespace Second

/-- What the step does to a packet that hits a rule; the table stays as it is. -/
theorem map_packet {s : Second} {u : Uninit} {buffer : Buffer} {r : FlowEntry} {a : FlowAction}
    (h : s.router.rouFlowTable.mTable.find (FlowEntry.ofBuffer u.st buffer.packet) = some (r, a))
    (rou1Addr : SockAddr) :
    (s.packet u buffer rou1Addr).map (fun s' => (s'.router.rouFlowTable, s'.sent)) =
      (a.outputs (FlowEntry.ofBuffer u.st buffer.packet).protocol buffer 65500 rou1Addr
        s.rou2ExternalAddr).map fun out => (s.router.rouFlowTable, s.sent ++ out) := by
  have hcontains : s.router.rouFlowTable.contains (FlowEntry.ofBuffer u.st buffer.packet) =
      true := by
    rw [FlowTable.contains, h]
    rfl
  have hcheck := (FlowTable.flowCheckOut_ne_empty_iff s.router.rouFlowTable _ u.filterEntry).2
    hcontains
  have hlog : (s.router.icmpForwardLog u.st buffer.packet .fromUdp
      (ntohs rou1Addr.sinPort).toNat).1.rouFlowTable.mTable.find
        (FlowEntry.ofBuffer u.st buffer.packet) = some (r, a) := by
    rw [CRouter.icmpForwardLog_rouFlowTable, h]
  unfold packet
  dsimp only
  rw [if_pos hcheck, ← octaneRulesController_outputs hlog u.action, Option.map_map,
    Option.map_map]
  congr 1
  funext x
  simp

/-- What the step does to a packet from a raw socket that hits a rule. -/
theorem map_raw {s : Second} {u : Uninit} {buffer3 : Buffer} {r : FlowEntry} {a : FlowAction}
    (h : s.router.rouFlowTable.mTable.find (FlowEntry.ofBuffer u.st buffer3.packet) = some (r, a))
    (buffer2 : Buffer) (iSize : ℕ) (iPort : ℤ) :
    (s.raw u buffer2 buffer3 iSize iPort).map (fun s' => (s'.router.rouFlowTable, s'.sent)) =
      (a.outputs (FlowEntry.ofBuffer u.st buffer3.packet).protocol buffer3 iSize u.tempSockAddr
        u.tempInAddr).map fun out => (s.router.rouFlowTable, s.sent ++ out) := by
  have hcontains : s.router.rouFlowTable.contains (FlowEntry.ofBuffer u.st buffer3.packet) =
      true := by
    rw [FlowTable.contains, h]
    rfl
  have hcheck := (FlowTable.flowCheckOut_ne_empty_iff s.router.rouFlowTable _ u.filterEntry).2
    hcontains
  have hlog : ((s.router.icmpForwardLog u.st buffer2.packet .fromRawSock iPort).1.pushLog
      (s.router.rouFlowTable.flowCheckOut (FlowEntry.ofBuffer u.st buffer3.packet)
        u.filterEntry).1).rouFlowTable.mTable.find
        (FlowEntry.ofBuffer u.st buffer3.packet) = some (r, a) := by
    rw [CRouter.pushLog_rouFlowTable, CRouter.icmpForwardLog_rouFlowTable, h]
  unfold raw
  dsimp only
  rw [if_pos hcheck, ← octaneRulesController_outputs hlog u.action, Option.map_map,
    Option.map_map]
  congr 1
  funext x
  simp

/-- The step has carried out the rule `r` with the action `a`, and nothing else. -/
structure CarriesOut (s s' : Second) (buffer : Buffer) (sender : SockAddr) (r : FlowEntry)
    (a : FlowAction) : Prop where
  sent : ∃ out, s'.sent = s.sent ++ out ∧ a.CarriedOut buffer sender out
  removed : a.action = 4 → r ∉ s'.router.rouFlowTable.keys
  kept : a.action ≠ 4 → s'.router.rouFlowTable = s.router.rouFlowTable

/-- The rule that a packet in a datagram hits, with its action. -/
def Hits (s : Second) : SecondEvent → FlowEntry → FlowAction → Prop
  | .udp u datagram _, r, a => (udpBuffer datagram).ipP ≠ octaneProtocolNum ∧
      s.router.rouFlowTable.mTable.find (FlowEntry.ofBuffer u.st (udpBuffer datagram).packet) =
        some (r, a)
  | _, _, _ => False

/-- A packet in a datagram that hits a rule has the rule carried out on it. -/
def RuleCarriedOut (s : Second) (e : SecondEvent) : Prop :=
  ∀ u datagram sender, e = .udp u datagram sender → ∀ r a, s.Hits e r a →
    ∃ s', secondStep s e = some s' ∧ s.CarriesOut s' (udpBuffer datagram) sender r a

/-- A packet in a datagram that hits a rule can have the rule carried out on it. -/
def RuleFeasible (s : Second) (e : SecondEvent) : Prop :=
  ∀ u datagram sender, e = .udp u datagram sender → ∀ r a, s.Hits e r a →
    a.Feasible (udpBuffer datagram)

/-- The step carries out the rule exactly when what is sent does and the rule is not
to be removed. -/
theorem carriesOut_iff {s : Second} {u : Uninit} {buffer : Buffer} {sender : SockAddr}
    {r : FlowEntry} {a : FlowAction}
    (h : s.router.rouFlowTable.mTable.find (FlowEntry.ofBuffer u.st buffer.packet) = some (r, a)) :
    (∃ s', s.packet u buffer sender = some s' ∧ s.CarriesOut s' buffer sender r a) ↔
      a.Feasible buffer := by
  have hmap := map_packet h sender
  have hproto : (FlowEntry.ofBuffer u.st buffer.packet).protocol = buffer.ipP.toUInt16 := by
    unfold FlowEntry.ofBuffer ipUnpack
    split_ifs <;> rfl
  rw [hproto] at hmap
  constructor
  · rintro ⟨s', hs', hcarries⟩
    rw [hs', Option.map_some] at hmap
    obtain ⟨out, hout, heq⟩ := Option.map_eq_some_iff.1 hmap.symm
    obtain ⟨htable, hsent⟩ := Prod.mk.inj heq
    have ha : a.action ≠ 4 := by
      intro ha
      refine hcarries.removed ha ?_
      rw [← htable]
      exact StdMap.mem_keys (StdMap.of_find_eq_some h).1
    obtain ⟨out', hsent', hcarried⟩ := hcarries.sent
    obtain rfl : out = out' := List.append_cancel_left (hsent.trans hsent')
    exact (FlowAction.outputs_carriedOut_iff _ _ ha).1 ⟨out, hout, hcarried⟩
  · intro hfeasible
    obtain ⟨out, hout, hcarried⟩ :=
      (FlowAction.outputs_carriedOut_iff sender s.rou2ExternalAddr hfeasible.not_remove).2
        hfeasible
    rw [hout, Option.map_some] at hmap
    obtain ⟨s', hs', heq⟩ := Option.map_eq_some_iff.1 hmap
    obtain ⟨htable, hsent⟩ := Prod.mk.inj heq
    exact ⟨s', hs', ⟨out, hsent, hcarried⟩, fun ha => absurd ha hfeasible.not_remove,
      fun _ => htable⟩

theorem secondStep_packet {s : Second} {u : Uninit} {datagram : List UInt8} {sender : SockAddr}
    (hp : (udpBuffer datagram).ipP ≠ octaneProtocolNum) :
    secondStep s (.udp u datagram sender) = s.packet u (udpBuffer datagram) sender :=
  if_neg hp

/-- Along every run of the loop, the rules that packets hit are carried out exactly when
this is feasible: the action is not 4, what goes to a raw socket is a TCP or ICMP
packet of a length that fits, and what is to be answered is not too long. -/
theorem rulesCarriedOut_iff (Router : CRouter) (oriSrcAddr addr : UInt32)
    (es : List SecondEvent) :
    Throughout secondStep RuleCarriedOut (start Router oriSrcAddr addr) es ↔
      Throughout secondStep RuleFeasible (start Router oriSrcAddr addr) es := by
  refine Throughout.congr fun s e => forall₄_congr fun u datagram sender he => ?_
  subst he
  refine forall₃_congr fun r a hhit => ?_
  obtain ⟨hp, hfind⟩ := hhit
  rw [secondStep_packet hp]
  exact carriesOut_iff hfind

end Second

/-- A datagram with a control message for a TCP flow, given by the bytes of its addresses
and ports. The target port is 0. -/
def ruleDatagram (action : UInt8) (flow : List UInt8) : List UInt8 :=
  [0x45, 0, 0, 40, 0, 0, 0, 0, 64, 253, 0, 0, 127, 0, 0, 1, 127, 0, 0, 1, action, 0, 1, 0] ++
    flow ++ [6, 0, 0, 0]

/-- A datagram with a TCP packet of a flow, without data. -/
def tcpDatagram (flow : List UInt8) : List UInt8 :=
  [0x45, 0, 0, 40, 0, 0, 0, 0, 64, 6, 0, 0] ++ flow ++
    [0, 0, 0, 1, 0, 0, 0, 0, 0x50, 2, 0, 0, 0, 0, 0, 0]

namespace Second

/-- A flow from 10.0.2.15:40000 to 10.5.51.4:80. -/
def sampleFlow : List UInt8 := [10, 0, 2, 15, 10, 5, 51, 4, 0x9C, 0x40, 0, 80]

/-- The packet hits a rule with action 4, and the rule is not removed. -/
theorem not_rulesCarriedOut_remove : ∃ Router u sender,
    ¬ Throughout secondStep RuleCarriedOut (start Router 0 0)
      [.udp u (ruleDatagram 4 sampleFlow) sender, .udp u (tcpDatagram sampleFlow) sender] := by
  let u : Uninit := ⟨⟨0, 0, 0, 0⟩, FlowTable.defaultEntry, 0, ⟨0, 0⟩, SockAddr.local 0, 0⟩
  refine ⟨.init 0 (.none _ _) (.none _ _) (.none _ _), u, SockAddr.local 0, fun h => ?_⟩
  obtain ⟨s, hs, hhit⟩ : ∃ s, secondStep (start (.init 0 (.none _ _) (.none _ _) (.none _ _)) 0 0)
      (.udp u (ruleDatagram 4 sampleFlow) (SockAddr.local 0)) = some s ∧
        s.Hits (.udp u (tcpDatagram sampleFlow) (SockAddr.local 0))
          ⟨0x0F02000A, 0x0433050A, 0x409C, 0x5000, 6⟩ ⟨0, 4⟩ :=
    ⟨_, rfl, by decide, rfl⟩
  obtain ⟨s', hs', hcarries⟩ := (h.2 s hs).1 u (tcpDatagram sampleFlow) _ rfl _ _ hhit
  rw [secondStep_packet hhit.1] at hs'
  exact ((carriesOut_iff hhit.2).1 ⟨s', hs', hcarries⟩).not_remove rfl

end Second
