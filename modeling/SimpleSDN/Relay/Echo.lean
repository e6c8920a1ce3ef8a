import SimpleSDN.Network.Address
import SimpleSDN.Network.EchoReply
import SimpleSDN.Run

/-!
# The echo relay of stage 2

The primary router passes the ICMP packets of the tunnel to the secondary router,
which turns a packet for its network into an echo reply and sends it back; the
primary router writes it to the tunnel. `Relay` holds what is in flight between the
two, each datagram with the packet it was made from. A datagram is 2048 bytes long,
and `recvMsg` reads 1024 of them whatever size it is given, so that a reply of more
bytes is cut off (`Relay.answered_iff_short`).
-/

/-- `primaryRouter_s2` on a packet from the tunnel: the datagram it sends. -/
def fromTunnelS2 (packet : List UInt8) : Option (List UInt8) :=
  let buffer := Buffer.zero.store 0 packet
  if buffer.ipP ≠ 1 then none else some (buffer.bytes 0 2048)

/-- `secondRouter_s2` in stage 2 on a datagram: the datagram it sends back. `buffer` is
the uninitialised array. -/
def secondRouterS2 (buffer : Buffer) (datagram : List UInt8) : Option (List UInt8) :=
  let buffer := (recvMsg buffer datagram).1
  if buffer.ipP ≠ 1 then none
  else if packetDstCheck buffer.ipDst ⟨10, 5, 51, 0⟩ ⟨255, 255, 255, 0⟩ then
    some (buffer.icmpReplyEdit.bytes 0 2048)
  else none

/-- `primaryRouter_s2` on a datagram: what it writes to the tunnel. -/
def fromSocketS2 (datagram : List UInt8) : List UInt8 :=
  let (buffer, nread) := recvMsg Buffer.zero datagram
  buffer.bytes 0 nread

/-- The two routers: the packets read, the datagrams in flight in either direction and
the packets written, each with the packet it was made from. -/
structure Relay where
  read : List (List UInt8)
  up : List (List UInt8 × List UInt8)
  down : List (List UInt8 × List UInt8)
  written : List (List UInt8 × List UInt8)

/-- The routers before anything has been read. -/
def Relay.start : Relay := ⟨[], [], [], []⟩

inductive RelayEvent
  | tunnel (packet : List UInt8)
  | second (x : List UInt8 × List UInt8) (buffer : Buffer)
  | primary (x : List UInt8 × List UInt8)

/-- One reaction of a router. At most 2048 bytes of a packet are read. -/
def relayStep (s : Relay) : RelayEvent → Option Relay
  | .tunnel packet =>
      let packet := packet.take 2048
      some { s with
        read := packet :: s.read
        up := (fromTunnelS2 packet).toList.map (packet, ·) ++ s.up }
  | .second x buffer =>
      if x ∈ s.up then
        some { s with
          up := s.up.erase x
          down := (secondRouterS2 buffer x.2).toList.map (x.1, ·) ++ s.down }
      else none
  | .primary x =>
      if x ∈ s.down then
        some { s with
          down := s.down.erase x
          written := (x.1, fromSocketS2 x.2) :: s.written }
      else none

/-- A well-formed echo request without IP options for an address in 10.5.51.0/24. -/
structure EchoRequest (packet : List UInt8) : Prop where
  length_ge : 28 ≤ packet.length
  length_le : packet.length ≤ 2048
  version : Buffer.ofList packet 0 = 0x45
  ipLen : (Buffer.ofList packet).ipLen = packet.length
  ipP : (Buffer.ofList packet).ipP = 1
  ipDst : ∃ d, (Buffer.ofList packet).ipDst = inetAddr ⟨10, 5, 51, d⟩
  icmpType : Buffer.ofList packet 20 = 8
  icmpCode : Buffer.ofList packet 21 = 0

/-- The first bytes of what is written, as many as the request has, are its reply. -/
structure Answers (request written : List UInt8) : Prop where
  length : request.length ≤ written.length
  reply : (Buffer.ofList request).EchoReply (Buffer.ofList (written.take request.length))

theorem fromTunnelS2_some {packet datagram : List UInt8}
    (h : fromTunnelS2 packet = some datagram) :
    datagram = (Buffer.ofList packet).bytes 0 2048 := by
  unfold fromTunnelS2 at h
  dsimp only at h
  split_ifs at h with hp
  exact (Option.some.inj h).symm

theorem recvMsg_fst (buf : Buffer) (datagram : List UInt8) :
    (recvMsg buf datagram).1 = buf.store 0 (datagram.take 1024) := rfl

theorem recvMsg_snd (buf : Buffer) (datagram : List UInt8) :
    (recvMsg buf datagram).2 = (datagram.take 1024).length := rfl

theorem fromSocketS2_eq (datagram : List UInt8) :
    fromSocketS2 datagram =
      (recvMsg Buffer.zero datagram).1.bytes 0 (recvMsg Buffer.zero datagram).2 := rfl

/-- What a router has in its buffer of a datagram of 2048 bytes. -/
theorem recvMsg_bytes (buffer b : Buffer) {k : ℕ} (hk : k < 1024) :
    (recvMsg buffer (b.bytes 0 2048)).1 k = b k := by
  have hget : ((b.bytes 0 2048).take 1024)[k]? = some (b k) := by
    rw [List.getElem?_take_of_lt hk, Buffer.getElem?_bytes, if_pos (by omega), Nat.zero_add]
  obtain ⟨hlt, hget⟩ := List.getElem?_eq_some_iff.1 hget
  rw [recvMsg_fst, ← Nat.zero_add k, Buffer.store_of_lt hlt, hget, Nat.zero_add]

/-- Of a datagram of 2048 bytes the primary router writes 1024. -/
theorem fromSocketS2_bytes (b : Buffer) : fromSocketS2 (b.bytes 0 2048) = b.bytes 0 1024 := by
  have hlen : (recvMsg Buffer.zero (b.bytes 0 2048)).2 = 1024 := by
    rw [recvMsg_snd, List.length_take, Buffer.length_bytes]
    rfl
  rw [fromSocketS2_eq, hlen]
  exact Buffer.bytes_congr fun k _ hk => recvMsg_bytes _ b (by omega)

namespace EchoRequest

variable {p : List UInt8}

theorem iIpHeaderLen (h : EchoRequest p) : (Buffer.ofList p).iIpHeaderLen = 20 := by
  rw [Buffer.iIpHeaderLen, h.version]
  rfl

/-- The secondary router answers a request. -/
theorem secondRouterS2_eq (h : EchoRequest p) (buffer : Buffer) :
    secondRouterS2 buffer ((Buffer.ofList p).bytes 0 2048) =
      some ((recvMsg buffer ((Buffer.ofList p).bytes 0 2048)).1.icmpReplyEdit.bytes 0 2048) := by
  generalize hb : (recvMsg buffer ((Buffer.ofList p).bytes 0 2048)).1 = b
  have hsame : ∀ k, k < 1024 → b k = Buffer.ofList p k := fun k hk => hb ▸ recvMsg_bytes _ _ hk
  have hp : b.ipP = 1 := (hsame 9 (by omega)).trans h.ipP
  have hdst : b.ipDst = (Buffer.ofList p).ipDst :=
    Buffer.get32_congr fun k hk => hsame (16 + k) (by omega)
  unfold secondRouterS2
  rw [hb]
  dsimp only
  rw [if_neg (not_not_intro hp), hdst, if_pos ((packetDstCheck_network _ _ _ _).2 h.ipDst)]

/-- What is written for a request is 1024 bytes of the reply. -/
theorem answers_iff (h : EchoRequest p) (buffer : Buffer) {d : List UInt8}
    (hd : secondRouterS2 buffer ((Buffer.ofList p).bytes 0 2048) = some d) :
    Answers p (fromSocketS2 d) ↔ p.length ≤ 1024 := by
  have hsome := h.secondRouterS2_eq buffer
  generalize hb : (recvMsg buffer ((Buffer.ofList p).bytes 0 2048)).1 = b at hsome
  have hsame : ∀ k, k < 1024 → b k = Buffer.ofList p k :=
    fun k hk => hb ▸ recvMsg_bytes buffer _ hk
  obtain rfl : b.icmpReplyEdit.bytes 0 2048 = d := Option.some.inj (hsome.symm.trans hd)
  rw [fromSocketS2_bytes]
  constructor
  · intro ha
    simpa using ha.length
  · intro hn
    have hhdr : b.iIpHeaderLen = 20 :=
      (Buffer.iIpHeaderLen_congr (hsame 0 (by omega))).trans h.iIpHeaderLen
    have htot : b.ipLen = p.length :=
      (Buffer.ipLen_congr (hsame 2 (by omega)) (hsame 3 (by omega))).trans h.ipLen
    have hp : b.ipP = 1 := (hsame 9 (by omega)).trans h.ipP
    have hlen := h.length_ge
    have hreply : b.EchoReply b.icmpReplyEdit :=
      Buffer.echoReply_icmpReplyEdit hp (by omega) (by omega) (by omega)
    refine ⟨by simpa using hn, hreply.congr (by omega) (by omega) ?_ ?_⟩
    · exact fun k hk => (hsame k (by omega)).symm
    · intro k hk
      rw [htot] at hk
      exact Buffer.ofList_take_bytes hk hn

/-- The primary router sends a request on. -/
theorem fromTunnelS2_eq (h : EchoRequest p) :
    fromTunnelS2 p = some ((Buffer.ofList p).bytes 0 2048) := by
  have hp : (Buffer.zero.store 0 p).ipP = 1 := h.ipP
  unfold fromTunnelS2
  dsimp only
  rw [if_neg (not_not_intro hp)]
  rfl

/-- A request on its way through the two routers. -/
theorem run_relayStep (h : EchoRequest p) (buffer : Buffer) :
    ∃ d, secondRouterS2 buffer ((Buffer.ofList p).bytes 0 2048) = some d ∧
      run relayStep Relay.start [.tunnel p, .second (p, (Buffer.ofList p).bytes 0 2048) buffer,
        .primary (p, d)] = some ⟨[p], [], [], [(p, fromSocketS2 d)]⟩ := by
  have hread : relayStep Relay.start (.tunnel p) =
      some ⟨[p], [(p, (Buffer.ofList p).bytes 0 2048)], [], []⟩ := by
    unfold relayStep Relay.start
    dsimp only
    rw [List.take_of_length_le h.length_le, h.fromTunnelS2_eq]
    rfl
  obtain ⟨d, hd⟩ : ∃ d, secondRouterS2 buffer ((Buffer.ofList p).bytes 0 2048) = some d :=
    ⟨_, h.secondRouterS2_eq buffer⟩
  refine ⟨d, hd, ?_⟩
  generalize (Buffer.ofList p).bytes 0 2048 = up at hread hd ⊢
  have hsecond : relayStep ⟨[p], [(p, up)], [], []⟩ (.second (p, up) buffer) =
      some ⟨[p], [], [(p, d)], []⟩ := by
    simp [relayStep, hd]
  have hprimary : relayStep ⟨[p], [], [(p, d)], []⟩ (.primary (p, d)) =
      some ⟨[p], [], [], [(p, fromSocketS2 d)]⟩ := by
    simp [relayStep]
  exact run_cons.2 ⟨_, hread, run_cons.2 ⟨_, hsecond, run_cons.2 ⟨_, hprimary, run_nil _ _⟩⟩⟩

end EchoRequest

/-- An echo request from 10.0.2.15 to 10.5.51.4. -/
def ping (payload : List UInt8) : List UInt8 :=
  [0x45, 0, UInt8.ofNat ((28 + payload.length) / 256), UInt8.ofNat (28 + payload.length),
    0, 0, 0, 0, 64, 1, 0, 0, 10, 0, 2, 15, 10, 5, 51, 4, 8, 0, 0, 0, 0, 1, 0, 1] ++ payload

theorem length_ping (payload : List UInt8) : (ping payload).length = 28 + payload.length :=
  List.length_append

theorem echoRequest_ping {payload : List UInt8} (h : payload.length ≤ 2020) :
    EchoRequest (ping payload) := by
  have hlen := length_ping payload
  have hbyte : ∀ k, k < 28 → Buffer.ofList (ping payload) k = (ping payload).getD k 0 := by
    intro k hk
    rw [Buffer.ofList_of_lt (by omega), List.getD_eq_getElem]
  have hdst : (Buffer.ofList (ping payload)).ipDst = inetAddr ⟨10, 5, 51, 4⟩ := by
    have h₀ : Buffer.ofList (ping payload) 16 = 10 := hbyte 16 (by omega)
    have h₁ : Buffer.ofList (ping payload) 17 = 5 := hbyte 17 (by omega)
    have h₂ : Buffer.ofList (ping payload) 18 = 51 := hbyte 18 (by omega)
    have h₃ : Buffer.ofList (ping payload) 19 = 4 := hbyte 19 (by omega)
    rw [Buffer.ipDst, Buffer.get32, h₀, h₁, h₂, h₃]
    decide
  constructor
  · omega
  · omega
  · exact hbyte 0 (by omega)
  · rw [Buffer.ipLen_eq, hbyte 2 (by omega), hbyte 3 (by omega), hlen]
    change 256 * (UInt8.ofNat _).toNat + (UInt8.ofNat _).toNat = _
    rw [UInt8.toNat_ofNat', UInt8.toNat_ofNat']
    omega
  · exact hbyte 9 (by omega)
  · exact ⟨4, hdst⟩
  · exact hbyte 20 (by omega)
  · exact hbyte 21 (by omega)

namespace Relay

/-- Each request that was read has been answered, as often as it was read. -/
def Answered (s : Relay) : Prop :=
  ∀ p ∈ s.read, EchoRequest p →
    (s.written.map Prod.fst).count p = s.read.count p ∧ ∀ w, (p, w) ∈ s.written → Answers p w

/-- Every request read is in flight or has been written, and what is in flight or has
been written was made from it. -/
structure Traced (s : Relay) : Prop where
  count : ∀ p, EchoRequest p →
    (s.up.map Prod.fst).count p + (s.down.map Prod.fst).count p +
      (s.written.map Prod.fst).count p = s.read.count p
  up : ∀ x ∈ s.up, x.2 = (Buffer.ofList x.1).bytes 0 2048
  down : ∀ x ∈ s.down,
    ∃ buffer, secondRouterS2 buffer ((Buffer.ofList x.1).bytes 0 2048) = some x.2
  written : ∀ x ∈ s.written, ∃ buffer d,
    secondRouterS2 buffer ((Buffer.ofList x.1).bytes 0 2048) = some d ∧ x.2 = fromSocketS2 d

theorem traced_start : Relay.start.Traced := by
  constructor
  · exact fun p _ => rfl
  all_goals exact fun x hx => absurd hx List.not_mem_nil

/-- Taking a datagram out counts once. -/
theorem count_map_erase {l : List (List UInt8 × List UInt8)} {x : List UInt8 × List UInt8}
    (hx : x ∈ l) (p : List UInt8) :
    (l.map Prod.fst).count p = ((l.erase x).map Prod.fst).count p + if x.1 = p then 1 else 0 := by
  have hperm := ((List.perm_cons_erase hx).map Prod.fst).count_eq p
  rw [hperm, List.map_cons, List.count_cons]
  simp only [beq_iff_eq]

/-- What is sent of one packet does not count for another. -/
theorem count_sent_of_ne {p q : List UInt8} (h : p ≠ q) (o : Option (List UInt8)) :
    ((o.toList.map (p, ·)).map Prod.fst).count q = 0 := by
  refine List.count_eq_zero.2 fun hmem => h ?_
  obtain ⟨x, hx, rfl⟩ := List.mem_map.1 hmem
  obtain ⟨d, -, rfl⟩ := List.mem_map.1 hx
  rfl

variable {s s' t : Relay}

theorem relayStep_second {x : List UInt8 × List UInt8} {buffer : Buffer} :
    relayStep s (.second x buffer) = some s' ↔ x ∈ s.up ∧ { s with
      up := s.up.erase x
      down := (secondRouterS2 buffer x.2).toList.map (x.1, ·) ++ s.down } = s' := by
  simp [relayStep]

theorem relayStep_primary {x : List UInt8 × List UInt8} :
    relayStep s (.primary x) = some s' ↔ x ∈ s.down ∧ { s with
      down := s.down.erase x
      written := (x.1, fromSocketS2 x.2) :: s.written } = s' := by
  simp [relayStep]

theorem Traced.tunnel (h : s.Traced) {packet : List UInt8}
    (hs : relayStep s (.tunnel packet) = some s') : s'.Traced := by
  obtain rfl : _ = s' := Option.some.inj hs
  generalize packet.take 2048 = p
  constructor
  · intro q hq
    have hcount := h.count q hq
    by_cases hpq : p = q
    · subst hpq
      simp only [hq.fromTunnelS2_eq, Option.toList_some, List.map_cons, List.map_nil,
        List.singleton_append, List.count_cons_self]
      omega
    · rw [List.map_append, List.count_append, count_sent_of_ne hpq, List.count_cons_of_ne hpq]
      dsimp only
      omega
  · intro x hx
    rcases List.mem_append.1 hx with hnew | hold
    · obtain ⟨d, hd, rfl⟩ := List.mem_map.1 hnew
      exact fromTunnelS2_some (Option.mem_toList.1 hd)
    · exact h.up x hold
  · exact h.down
  · exact h.written

theorem Traced.second (h : s.Traced) {x : List UInt8 × List UInt8} {buffer : Buffer}
    (hs : relayStep s (.second x buffer) = some s') : s'.Traced := by
  obtain ⟨hx, rfl⟩ := relayStep_second.1 hs
  have hup := h.up x hx
  constructor
  · intro q hq
    have hcount := h.count q hq
    have herase := count_map_erase hx q
    by_cases hxq : x.1 = q
    · rw [if_pos hxq] at herase
      subst hxq
      simp only [hup, hq.secondRouterS2_eq, Option.toList_some, List.map_cons, List.map_nil,
        List.singleton_append, List.count_cons_self]
      omega
    · rw [if_neg hxq] at herase
      rw [List.map_append, List.count_append, count_sent_of_ne hxq]
      dsimp only
      omega
  · exact fun y hy => h.up y (List.mem_of_mem_erase hy)
  · intro y hy
    rcases List.mem_append.1 hy with hnew | hold
    · obtain ⟨d, hd, rfl⟩ := List.mem_map.1 hnew
      exact ⟨buffer, hup ▸ Option.mem_toList.1 hd⟩
    · exact h.down y hold
  · exact h.written

theorem Traced.primary (h : s.Traced) {x : List UInt8 × List UInt8}
    (hs : relayStep s (.primary x) = some s') : s'.Traced := by
  obtain ⟨hx, rfl⟩ := relayStep_primary.1 hs
  obtain ⟨buffer, hd⟩ := h.down x hx
  constructor
  · intro q hq
    have hcount := h.count q hq
    have herase := count_map_erase hx q
    simp only [List.map_cons, List.count_cons, beq_iff_eq]
    omega
  · exact h.up
  · exact fun y hy => h.down y (List.mem_of_mem_erase hy)
  · intro y hy
    rcases List.mem_cons.1 hy with rfl | hold
    · exact ⟨buffer, x.2, hd, rfl⟩
    · exact h.written y hold

theorem Traced.step (h : s.Traced) {e : RelayEvent} (hs : relayStep s e = some s') :
    s'.Traced := by
  cases e with
  | tunnel packet => exact h.tunnel hs
  | second x buffer => exact h.second hs
  | primary x => exact h.primary hs

theorem Traced.run (h : s.Traced) {es : List RelayEvent} (hrun : run relayStep s es = some t) :
    t.Traced :=
  run_invariant (Q := fun _ _ _ => True) (fun _ _ _ hs he _ => hs.step he) h
    (Along.of_forall fun _ _ _ _ => trivial) hrun

/-- When nothing is in flight, the requests read are answered if and only if none is
longer than 1024 bytes. -/
theorem answered_iff_short {es : List RelayEvent} (hrun : run relayStep Relay.start es = some t)
    (hup : t.up = []) (hdown : t.down = []) :
    t.Answered ↔ ∀ p ∈ t.read, EchoRequest p → p.length ≤ 1024 := by
  have ht := traced_start.run hrun
  have hcount : ∀ p, EchoRequest p → (t.written.map Prod.fst).count p = t.read.count p := by
    intro p hp
    have := ht.count p hp
    simpa [hup, hdown] using this
  have hiff : ∀ p w, EchoRequest p → (p, w) ∈ t.written → (Answers p w ↔ p.length ≤ 1024) := by
    intro p w hp hw
    obtain ⟨buffer, d, hd, rfl⟩ := ht.written _ hw
    exact hp.answers_iff buffer hd
  constructor
  · intro h p hp hreq
    obtain ⟨hn, hall⟩ := h p hp hreq
    have hpos : 0 < (t.written.map Prod.fst).count p := hn ▸ List.count_pos_iff.2 hp
    obtain ⟨⟨q, w⟩, hw, rfl⟩ := List.mem_map.1 (List.count_pos_iff.1 hpos)
    exact (hiff q w hreq hw).1 (hall w hw)
  · intro h p hp hreq
    exact ⟨hcount p hreq, fun w hw => (hiff p w hreq hw).2 (h p hp hreq)⟩

/-- A request without a payload is answered. -/
theorem answered_ping : ∃ es t, run relayStep Relay.start es = some t ∧ t.read = [ping []] ∧
    t.up = [] ∧ t.down = [] ∧ t.Answered := by
  have hreq : EchoRequest (ping []) := echoRequest_ping (by decide)
  obtain ⟨d, -, hrun⟩ := hreq.run_relayStep Buffer.zero
  refine ⟨_, _, hrun, rfl, rfl, rfl, (answered_iff_short hrun rfl rfl).2 fun p hp _ => ?_⟩
  obtain rfl := List.mem_singleton.1 hp
  decide

/-- A request with a payload of 1000 bytes is not. -/
theorem not_answered_long_ping : ∃ es t, run relayStep Relay.start es = some t ∧
    t.read = [ping (List.replicate 1000 0)] ∧ EchoRequest (ping (List.replicate 1000 0)) ∧
      t.up = [] ∧ t.down = [] ∧ ¬ t.Answered := by
  have hreq : EchoRequest (ping (List.replicate 1000 0)) :=
    echoRequest_ping (by rw [List.length_replicate]; omega)
  obtain ⟨d, hd, hrun⟩ := hreq.run_relayStep Buffer.zero
  refine ⟨_, _, hrun, rfl, hreq, rfl, rfl, fun h => ?_⟩
  have hanswers := (h _ (List.mem_singleton_self _) hreq).2 _ (List.mem_singleton_self _)
  have hshort := (hreq.answers_iff Buffer.zero hd).1 hanswers
  rw [length_ping, List.length_replicate] at hshort
  omega

end Relay
