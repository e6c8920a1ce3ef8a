import SimpleSDN.Network.Build
import SimpleSDN.Secondary.Control
import SimpleSDN.System.Basic

/-!
# The routers and the bytes between them

`Net` puts the primary router of stage 6, 7, 9 or 10 together with the loops of three
secondary routers and the datagrams in flight between them, as bytes. The primary builds
a packet around a control message and sends a packet of the tunnel as it is in its
buffer; what a secondary router sends is in `Second`. Datagrams may be delivered in any
order, lost and repeated. From outside come packets on the tunnel and on the raw sockets,
and action-5 messages.
-/

/-- A datagram in flight. -/
structure Datagram where
  src : SockAddr
  dst : SockAddr
  bytes : List UInt8
deriving DecidableEq

/-- The datagram around a control message; `IpHeader` is the uninitialised variable of
`buildIpPacket`. -/
def controlBytes (IpHeader : Buffer) (msg : OctaneControl) : Option (List UInt8) :=
  (Buffer.buildIpPacket IpHeader .zero 2048 octaneProtocolNum.toNat ⟨127, 0, 0, 1⟩ ⟨127, 0, 0, 1⟩
    (.ofList msg.bytes) 20).map fun b => b.bytes 0 2048

/-- What the primary router at `rou1Addr` puts in flight; a packet is in `buffer`. -/
def Sent.datagram (rou1Addr : SockAddr) (IpHeader buffer : Buffer) : Sent → Option Datagram
  | .control addr msg => (controlBytes IpHeader msg).map fun bytes => ⟨rou1Addr, addr, bytes⟩
  | .data addr _ => some ⟨rou1Addr, addr, buffer.bytes 0 2048⟩
  | .tunnel _ => none

/-- What it puts in flight of all that it sends; `IpHeader k` is for the `k`-th. -/
def Sent.datagrams (rou1Addr : SockAddr) (buffer : Buffer) :
    (ℕ → Buffer) → List Sent → List Datagram
  | _, [] => []
  | IpHeader, x :: xs =>
      (x.datagram rou1Addr (IpHeader 0) buffer).toList ++
        datagrams rou1Addr buffer (fun k => IpHeader (k + 1)) xs

/-- What a secondary router at `addr` puts in flight. -/
def SecondOut.datagram (addr : SockAddr) : SecondOut → Option Datagram
  | .udp dst bytes => some ⟨addr, dst, bytes⟩
  | .raw _ _ _ => none

/-- The routers and what is in flight between them. -/
structure Net where
  primary : Primary
  secondary : Fin 3 → Second
  flight : List Datagram

/-- What happens; `IpHeader` is as in `Sent.datagrams`. -/
inductive NetEvent
  | tunnel (st : Stack) (packet : List UInt8) (clock : ℕ → Timeval) (IpHeader : ℕ → Buffer)
  | expire (now : Timeval) (IpHeader : ℕ → Buffer)
  | socket (st : Stack) (d : Datagram) (IpHeader : ℕ → Buffer)
  | portal (st : Stack) (d : Datagram) (IpHeader : ℕ → Buffer)
  | udp (i : Fin 3) (u : Uninit) (d : Datagram)
  | icmp (i : Fin 3) (u : Uninit) (memory : Buffer) (packet : List UInt8) (iPort : ℤ)
  | tcp (i : Fin 3) (u : Uninit) (packet : List UInt8) (iPort : ℤ)
  | network (flight : List Datagram)

/-- The array that a packet from the tunnel is read in. -/
def tunnelBuffer (packet : List UInt8) : Buffer := Buffer.ofList (packet.take 2048)

/-- The array that the primary router receives a datagram in. -/
def socketBuffer (d : Datagram) : Buffer := Buffer.ofList (d.bytes.take 65535)

/-- The port that the primary router logs for a datagram. -/
def Datagram.iPort (d : Datagram) : ℤ := (ntohs d.src.sinPort).toNat

/-- A control message is copied out of the buffer whole, or not at all. -/
def Buffer.Decodes (buffer : Buffer) : Prop :=
  buffer.ipP = octaneProtocolNum → buffer.octaneUnpack.isSome

instance (buffer : Buffer) : Decidable buffer.Decodes := inferInstanceAs (Decidable (_ → _))

namespace Net

/-- No datagram is in flight when the loops start. -/
def start (primary : Primary) (secondary : Fin 3 → Second) : Net := ⟨primary, secondary, []⟩

/-- A reaction of the primary router. -/
def react (c : Config) (rou1Addr : SockAddr) (net : Net) (e : PrimEvent) (buffer : Buffer)
    (IpHeader : ℕ → Buffer) : Option Net :=
  (primStep c net.primary e).map fun primary =>
    { net with
      primary := primary
      flight := net.flight ++
        Sent.datagrams rou1Addr buffer IpHeader (primary.sent.drop net.primary.sent.length) }

/-- The primary router receives a datagram. -/
def receive (c : Config) (rou1Addr : SockAddr) (net : Net) (st : Stack) (d : Datagram)
    (IpHeader : ℕ → Buffer) : Option Net :=
  if (socketBuffer d).Decodes then
    net.react c rou1Addr (.socket st (socketBuffer d).packet d.iPort) .zero IpHeader
  else none

/-- A reaction of a secondary router. -/
def second (c : Config) (net : Net) (i : Fin 3) (e : SecondEvent) : Option Net :=
  (secondStep (net.secondary i) e).map fun s =>
    { net with
      secondary := Function.update net.secondary i s
      flight := net.flight ++ (s.sent.drop (net.secondary i).sent.length).filterMap
        (SecondOut.datagram (.local (c.secondPort i))) }

end Net

/-- One step; `none` for an event that cannot happen, and for what has no defined
behaviour. A raw socket delivers packets of its protocol. -/
def netStep (c : Config) (rou1Addr : SockAddr) (net : Net) : NetEvent → Option Net
  | .tunnel st packet clock IpHeader =>
      net.react c rou1Addr (.tunnel st (tunnelBuffer packet).packet clock) (tunnelBuffer packet)
        IpHeader
  | .expire now IpHeader => net.react c rou1Addr (.expire now) .zero IpHeader
  | .socket st d IpHeader =>
      if d ∈ net.flight ∧ d.dst = rou1Addr then
        { net with flight := net.flight.erase d }.receive c rou1Addr st d IpHeader
      else none
  | .portal st d IpHeader =>
      if (socketBuffer d).ipP = octaneProtocolNum ∧
          (socketBuffer d).packet.octane.octaneAction = 5 then
        net.receive c rou1Addr st d IpHeader
      else none
  | .udp i u d =>
      if d ∈ net.flight ∧ d.dst = .local (c.secondPort i) then
        { net with flight := net.flight.erase d }.second c i (.udp u d.bytes d.src)
      else none
  | .icmp i u memory packet iPort =>
      if packet[9]? = some 1 then net.second c i (.icmp u memory packet iPort) else none
  | .tcp i u packet iPort =>
      if packet[9]? = some 6 then net.second c i (.tcp u packet iPort) else none
  | .network flight => if flight ⊆ net.flight then some { net with flight := flight } else none

/-! ### Control messages on the wire -/

namespace Buffer

/-- The buffer holds a packet around the control message `m`, with a header of 20 bytes. -/
structure CarriesControl (b : Buffer) (m : OctaneControl) : Prop where
  version : b 0 = 0x45
  ipLen : b.ipLen = 40
  ipP : b.ipP = octaneProtocolNum
  octane : b.octaneAt 20 = m

namespace CarriesControl

variable {b b' : Buffer} {m : OctaneControl}

theorem congr (h : b.CarriesControl m) (hsame : ∀ k, k < 40 → b' k = b k) :
    b'.CarriesControl m where
  version := (hsame 0 (by omega)).trans h.version
  ipLen := (ipLen_congr (hsame 2 (by omega)) (hsame 3 (by omega))).trans h.ipLen
  ipP := (hsame 9 (by omega)).trans h.ipP
  octane := (octaneAt_congr fun k hk => hsame (20 + k) (by omega)).trans h.octane

theorem iIpHeaderLen (h : b.CarriesControl m) : b.iIpHeaderLen = 20 := by
  rw [Buffer.iIpHeaderLen, h.version]
  rfl

theorem pOctane (h : b.CarriesControl m) : b.pOctane = 20 := by
  rw [Buffer.pOctane, h.iIpHeaderLen]
  rfl

/-- The routers read the message. -/
theorem octaneUnpack (h : b.CarriesControl m) : b.octaneUnpack = some m := by
  refine octaneUnpack_eq_some_iff.2 ⟨?_, by rw [h.pOctane, h.octane]⟩
  unfold iOctaneTotLen
  split_ifs
  · rfl
  · rw [h.ipLen, h.pOctane]
    decide

theorem packet_octane (h : b.CarriesControl m) : b.packet.octane = m :=
  (congrArg b.octaneAt h.pOctane).trans h.octane

/-- The copy stays in the bounds. -/
theorem copyBounded (h : b.CarriesControl m) : b.CopyBounded 2048 := by
  rw [copyBounded_iff, h.pOctane, h.ipLen]
  omega

/-- The flag is set where the routers read it. -/
theorem setFlag (h : b.CarriesControl m) :
    (b.set8 (b.iIpHeaderLen + 1) 1).CarriesControl { m with octaneFlags := 1 } := by
  rw [h.iIpHeaderLen]
  constructor
  · exact (set8_of_ne (by omega)).trans h.version
  · exact (ipLen_congr (set8_of_ne (by omega)) (set8_of_ne (by omega))).trans h.ipLen
  · exact (set8_of_ne (by omega)).trans h.ipP
  · rw [octaneAt_set8, h.octane]

/-- What is sent of it. -/
theorem ofList_bytes {n : ℕ} (h : b.CarriesControl m) (hn : 40 ≤ n) :
    (ofList (b.bytes 0 n)).CarriesControl m :=
  h.congr fun _ hk => Buffer.ofList_bytes (by omega)

/-- What is received of it. -/
theorem ofList_take {bytes : List UInt8} {n : ℕ} (h : (ofList bytes).CarriesControl m)
    (hn : 40 ≤ n) : (ofList (bytes.take n)).CarriesControl m :=
  h.congr fun _ hk => Buffer.ofList_take (by omega)

end CarriesControl

/-- A message that the primary router sends. -/
theorem carriesControl_of_controlBytes {IpHeader : Buffer} {m : OctaneControl} {bytes : List UInt8}
    (h : controlBytes IpHeader m = some bytes) : (ofList bytes).CarriesControl m := by
  obtain ⟨b, hb, rfl⟩ := Option.map_eq_some_iff.1 h
  obtain ⟨b', hb', hlayout⟩ : ∃ b', buildIpPacket IpHeader zero 2048 octaneProtocolNum.toNat
        ⟨127, 0, 0, 1⟩ ⟨127, 0, 0, 1⟩ (ofList m.bytes) 20 = some b' ∧
      zero.IpLayout octaneProtocolNum.toNat ⟨127, 0, 0, 1⟩ ⟨127, 0, 0, 1⟩ (ofList m.bytes) 20 b' :=
    exists_ipLayout (by decide) (by decide) (by decide) IpHeader zero _ _ _
  obtain rfl := Option.some.inj (hb.symm.trans hb')
  have hcarries : b.CarriesControl m := by
    refine ⟨hlayout.version, hlayout.ipLen, UInt8.toNat_inj.1 (Int.ofNat_inj.1 hlayout.ipP), ?_⟩
    have hlayout' : zero.IpLayout octaneProtocolNum.toNat ⟨127, 0, 0, 1⟩ ⟨127, 0, 0, 1⟩
      (zero.store 0 m.bytes) 20 b := hlayout
    rw [← hlayout'.pOctane]
    exact hlayout'.octaneAt
  exact hcarries.ofList_bytes (by omega)

/-- An acknowledgement that a secondary router sends. -/
theorem carriesControl_ackBytes {bytes : List UInt8} {m : OctaneControl}
    (h : (ofList bytes).CarriesControl m) :
    (ofList (ackBytes bytes)).CarriesControl { m with octaneFlags := 1 } := by
  have h' : (Second.udpBuffer bytes).CarriesControl m := h.ofList_take (by omega)
  exact h'.setFlag.ofList_bytes (by omega)

/-- Every message can be sent. -/
theorem controlBytes_isSome (IpHeader : Buffer) (m : OctaneControl) :
    (controlBytes IpHeader m).isSome = true := by
  rw [controlBytes, Option.isSome_map, buildIpPacket_eq (by decide) (by decide)]
  rfl

end Buffer
