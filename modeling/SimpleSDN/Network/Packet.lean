import Mathlib.Data.UInt

/-!
# Packets and control messages

The routers run on a little-endian host and keep addresses and ports in the
byte order they have on the wire, so `htonl` and `htons` reverse bytes.
`Packet` is what the routers read of a buffer through the casts to `struct ip`,
`struct tcphdr`, `struct icmp` and `octane_control`; a field of a header the
packet does not have holds whatever the bytes at that place are.
-/

/-- `htonl` on a little-endian host. -/
def htonl (x : UInt32) : UInt32 :=
  let mask : UInt32 := 0xFF00
  x <<< 24 ||| (x &&& mask) <<< 8 ||| (x >>> 8 &&& mask) ||| x >>> 24

/-- `htons` on a little-endian host. -/
def htons (x : UInt16) : UInt16 := x <<< 8 ||| x >>> 8

/-- `ntohs` reverses the two bytes, as `htons` does. -/
def ntohs (x : UInt16) : UInt16 := htons x

theorem toNat_htons (x : UInt16) : (htons x).toNat = x.toNat % 256 * 256 + x.toNat / 256 := by
  have hx := x.toNat_lt
  have hleft : x.toNat <<< (UInt16.toNat 8 % 16) % 2 ^ 16 = (x.toNat % 256) <<< 8 := by
    simp [Nat.shiftLeft_eq]
    omega
  have hright : x.toNat >>> (UInt16.toNat 8 % 16) = x.toNat / 256 := by
    simp [Nat.shiftRight_eq_div_pow]
  unfold htons
  simp only [UInt16.toNat_or, UInt16.toNat_shiftLeft, UInt16.toNat_shiftRight]
  rw [hleft, hright, ← Nat.shiftLeft_add_eq_or_of_lt (by omega), Nat.shiftLeft_eq]

theorem htons_ntohs (x : UInt16) : htons (ntohs x) = x := by
  have hx := x.toNat_lt
  rw [← UInt16.toNat_inj, toNat_htons, ntohs, toNat_htons]
  omega

@[simp] theorem htonl_max : htonl 0xFFFFFFFF = 0xFFFFFFFF := by decide

@[simp] theorem htons_max : htons 0xFFFF = 0xFFFF := by decide

/-- An address in dotted-quad notation. -/
structure Dotted where
  a : UInt8
  b : UInt8
  c : UInt8
  d : UInt8
deriving DecidableEq

/-- The text `a.b.c.d`. -/
def Dotted.text (q : Dotted) : String :=
  toString q.a ++ "." ++ toString q.b ++ "." ++ toString q.c ++ "." ++ toString q.d

/-- `inet_ntoa`: the first octet is the byte at the lowest address. -/
def inetNtoa (addr : UInt32) : Dotted where
  a := addr.toUInt8
  b := (addr >>> 8).toUInt8
  c := (addr >>> 16).toUInt8
  d := (addr >>> 24).toUInt8

/-- `inet_addr` and `inet_aton` on a dotted quad. -/
def inetAddr (q : Dotted) : UInt32 :=
  q.a.toUInt32 ||| q.b.toUInt32 <<< 8 ||| q.c.toUInt32 <<< 16 ||| q.d.toUInt32 <<< 24

/-- `octane_control`. -/
structure OctaneControl where
  octaneAction : UInt8
  octaneFlags : UInt8
  octaneSeqno : UInt16
  octaneSourceIp : UInt32
  octaneDestIp : UInt32
  octaneSourcePort : UInt16
  octaneDestPort : UInt16
  octaneProtocol : UInt16
  octanePort : UInt16
deriving DecidableEq, Inhabited

/-- What the routers read of a received buffer. -/
structure Packet where
  ipP : UInt8
  ipSrc : UInt32
  ipDst : UInt32
  source : UInt16
  dest : UInt16
  icmpType : UInt8
  octane : OctaneControl
deriving DecidableEq, Inhabited

/-- The contents of storage that a loop reads before writing it. -/
structure Stack where
  dstAddr : UInt32
  srcPort : UInt16
  dstPort : UInt16
  targetPort : UInt16
deriving DecidableEq, Inhabited

/-- `OCTANE_PROTOCOL_NUM`. -/
def octaneProtocolNum : UInt8 := 253

/-- What `ipUnpack` stores; the ports of a packet that is neither ICMP nor TCP
are left as they were. -/
structure Unpacked where
  srcAddr : UInt32
  dstAddr : UInt32
  srcPort : UInt16
  dstPort : UInt16
  ipType : UInt8

def ipUnpack (st : Stack) (buffer : Packet) : Unpacked :=
  if buffer.ipP = 1 then
    ⟨buffer.ipSrc, buffer.ipDst, htons 0xFFFF, htons 0xFFFF, buffer.ipP⟩
  else if buffer.ipP = 6 then
    ⟨buffer.ipSrc, buffer.ipDst, buffer.source, buffer.dest, buffer.ipP⟩
  else
    ⟨buffer.ipSrc, buffer.ipDst, st.srcPort, st.dstPort, buffer.ipP⟩

/-- `tcpUnpack`: the destination port in host order, or 0. -/
def tcpUnpack (buffer : Packet) : UInt16 := if buffer.ipP ≠ 6 then 0 else ntohs buffer.dest

/-- `tcpUnpackSrc`: the source port in host order, or 0. -/
def tcpUnpackSrc (buffer : Packet) : UInt16 :=
  if buffer.ipP ≠ 6 then 0 else ntohs buffer.source

/-- `packetDstCheck`: the masked address compared, as text, with the target. -/
def packetDstCheck (packetDstAddr : UInt32) (targetDst mask : Dotted) : Bool :=
  targetDst == inetNtoa (inetAddr mask &&& packetDstAddr)

/-- `octane_control::operator<`. -/
def OctaneControl.lt (a key2 : OctaneControl) : Bool :=
  if a.octaneSourceIp ≠ key2.octaneSourceIp ∧ a.octaneSourceIp ≠ htonl 0xFFFFFFFF then
    a.octaneSourceIp < key2.octaneSourceIp
  else if a.octaneSourcePort ≠ key2.octaneSourcePort ∧ a.octaneSourcePort ≠ htons 0xFFFF then
    a.octaneSourcePort < key2.octaneSourcePort
  else if a.octaneDestIp ≠ key2.octaneDestIp ∧ a.octaneDestIp ≠ htonl 0xFFFFFFFF then
    a.octaneDestIp < key2.octaneDestIp
  else if a.octaneDestPort ≠ key2.octaneDestPort ∧ a.octaneDestPort ≠ htons 0xFFFF then
    a.octaneDestPort < key2.octaneDestPort
  else if a.octaneAction < key2.octaneAction then
    a.octaneAction < key2.octaneAction
  else
    a.octanePort < key2.octanePort
