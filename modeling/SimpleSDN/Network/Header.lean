import SimpleSDN.Network.Checksum
import SimpleSDN.Network.Packet

/-!
# Headers in a buffer

The casts of a buffer to `struct ip`, `struct icmp` and `struct tcphdr`, and the
edits of `network.cpp` that are made through them. A length that is computed as an
`int` and stored in a `short` is cut to 16 bits.
-/

/-- The conversion to `short`. -/
def toShort (n : ℤ) : ℤ := Int.bmod n 65536

theorem toShort_of_lt {n : ℕ} (h : n < 32768) : toShort n = n := by
  unfold toShort
  rw [Int.bmod_def]
  omega

/-- `recvMsg`, with the number of bytes it returns. -/
def recvMsg (buf : Buffer) (datagram : List UInt8) : Buffer × ℕ :=
  (buf.store 0 (datagram.take 1024), (datagram.take 1024).length)

namespace Buffer

/-- `ip_hl << 2`. -/
def iIpHeaderLen (buffer : Buffer) : ℕ := 4 * (buffer 0 &&& 0x0F).toNat

/-- `ntohs(ip_len)`. -/
def ipLen (buffer : Buffer) : ℕ := (ntohs (buffer.get16 2)).toNat

/-- `ip_p`. -/
def ipP (buffer : Buffer) : UInt8 := buffer 9

/-- `ip_src`. -/
def ipSrc (buffer : Buffer) : UInt32 := buffer.get32 12

/-- `ip_dst`. -/
def ipDst (buffer : Buffer) : UInt32 := buffer.get32 16

/-- The length of what follows the IP header, as the source keeps it. -/
def iTotLen (buffer : Buffer) : ℤ := toShort (buffer.ipLen - buffer.iIpHeaderLen)

/-- Where a control message is read: behind a header of 20 bytes when the header does
not say how long it is. -/
def pOctane (buffer : Buffer) : ℕ := if buffer.iIpHeaderLen = 0 then 20 else buffer.iIpHeaderLen

/-- `*(struct octane_control *)(buffer + i)`. -/
def octaneAt (buffer : Buffer) (i : ℕ) : OctaneControl where
  octaneAction := buffer i
  octaneFlags := buffer (i + 1)
  octaneSeqno := buffer.get16 (i + 2)
  octaneSourceIp := buffer.get32 (i + 4)
  octaneDestIp := buffer.get32 (i + 8)
  octaneSourcePort := buffer.get16 (i + 12)
  octaneDestPort := buffer.get16 (i + 14)
  octaneProtocol := buffer.get16 (i + 16)
  octanePort := buffer.get16 (i + 18)

/-- The fields that the routers read through their casts. -/
def packet (buffer : Buffer) : Packet where
  ipP := buffer.ipP
  ipSrc := buffer.ipSrc
  ipDst := buffer.ipDst
  source := buffer.get16 buffer.iIpHeaderLen
  dest := buffer.get16 (buffer.iIpHeaderLen + 2)
  icmpType := buffer buffer.iIpHeaderLen
  octane := buffer.octaneAt buffer.pOctane

/-- `iOctaneTotLen` in `octaneUnpack`. -/
def iOctaneTotLen (buffer : Buffer) : ℤ :=
  if buffer.get16 2 = 0 then 20 else toShort (buffer.ipLen - buffer.pOctane)

/-- `octaneUnpack`. A copy of more or fewer bytes than a message has writes past the
message or leaves a part of it undefined. -/
def octaneUnpack (buffer : Buffer) : Option OctaneControl :=
  if buffer.iOctaneTotLen = 20 then some (buffer.octaneAt buffer.pOctane) else none

/-- `octaneReply_Edit`. -/
def octaneReplyEdit (buffer : Buffer) : Buffer :=
  if buffer.ipP ≠ octaneProtocolNum then buffer
  else buffer.set8 (buffer.iIpHeaderLen + 1) 1

/-- The header checksum, computed with zero in its field. -/
def setIpSum (buffer : Buffer) : Buffer :=
  let buffer := buffer.set16 10 0
  buffer.set16 10 (checksum buffer 0 buffer.iIpHeaderLen)

/-- The checksum of the ICMP part, computed with zero in its field. -/
def setIcmpCksum (buffer : Buffer) : Buffer :=
  let pIcmp := buffer.iIpHeaderLen
  let buffer := buffer.set16 (pIcmp + 2) 0
  buffer.set16 (pIcmp + 2) (checksum buffer pIcmp buffer.iTotLen)

/-- `icmpReply_Edit(buffer)`. -/
def icmpReplyEdit (buffer : Buffer) : Buffer :=
  if buffer.ipP ≠ 1 then buffer
  else
    let buffer := (buffer.set8 buffer.iIpHeaderLen 0).setIcmpCksum
    let tempAddr := buffer.ipDst
    ((buffer.set32 16 buffer.ipSrc).set32 12 tempAddr).setIpSum

/-! ### The fields after an edit -/

theorem iIpHeaderLen_congr {b b' : Buffer} (h : b 0 = b' 0) :
    b.iIpHeaderLen = b'.iIpHeaderLen := by
  rw [iIpHeaderLen, iIpHeaderLen, h]

theorem ipLen_eq (b : Buffer) : b.ipLen = 256 * (b 2).toNat + (b 3).toNat := by
  have h := (b 2).toNat_lt
  have h' := (b 3).toNat_lt
  have hget : (b.get16 2).toNat = (b 2).toNat + 256 * (b 3).toNat := get16_toNat b 2
  rw [ipLen, ntohs, toNat_htons, hget]
  omega

theorem ipLen_congr {b b' : Buffer} (h : b 2 = b' 2) (h' : b 3 = b' 3) : b.ipLen = b'.ipLen := by
  rw [ipLen, ipLen, get16_congr h h']

theorem iTotLen_congr {b b' : Buffer} (h : ∀ k, k < 4 → b k = b' k) : b.iTotLen = b'.iTotLen := by
  rw [iTotLen, iTotLen, ipLen_congr (h 2 (by omega)) (h 3 (by omega)),
    iIpHeaderLen_congr (h 0 (by omega))]

/-- The length of what follows the header when the fields agree with it. -/
theorem iTotLen_eq {b : Buffer} (hle : b.iIpHeaderLen ≤ b.ipLen)
    (hlt : b.ipLen < b.iIpHeaderLen + 32768) :
    b.iTotLen = (b.ipLen - b.iIpHeaderLen : ℕ) := by
  rw [iTotLen, ← Nat.cast_sub hle]
  exact toShort_of_lt (by omega)

theorem iIpHeaderLen_le (b : Buffer) : b.iIpHeaderLen ≤ 60 := by
  have hand : (b 0 &&& 0x0F).toNat ≤ 15 := by
    rw [UInt8.toNat_and]
    exact Nat.and_le_right
  unfold iIpHeaderLen
  omega

/-- Otherwise the length is stored as a negative one. -/
theorem iTotLen_neg {b : Buffer}
    (h : b.ipLen < b.iIpHeaderLen ∨ b.iIpHeaderLen + 32768 ≤ b.ipLen) : b.iTotLen < 0 := by
  have hlt : b.ipLen < 65536 := (ntohs (b.get16 2)).toNat_lt
  have hle := b.iIpHeaderLen_le
  unfold iTotLen toShort
  rw [Int.bmod_def]
  omega

/-- The length that is stored is that of the transport part, or it is negative. -/
theorem iTotLen_cases (b : Buffer) :
    (b.iIpHeaderLen ≤ b.ipLen ∧ b.ipLen < b.iIpHeaderLen + 32768 ∧
        b.iTotLen = (b.ipLen - b.iIpHeaderLen : ℕ)) ∨
      ((b.ipLen < b.iIpHeaderLen ∨ b.iIpHeaderLen + 32768 ≤ b.ipLen) ∧ b.iTotLen < 0) := by
  by_cases h : b.iIpHeaderLen ≤ b.ipLen ∧ b.ipLen < b.iIpHeaderLen + 32768
  · exact Or.inl ⟨h.1, h.2, iTotLen_eq h.1 h.2⟩
  · have hbad : b.ipLen < b.iIpHeaderLen ∨ b.iIpHeaderLen + 32768 ≤ b.ipLen := by omega
    exact Or.inr ⟨hbad, iTotLen_neg hbad⟩

theorem setIpSum_of_outside {b : Buffer} {k : ℕ} (h : k < 10 ∨ 12 ≤ k) : b.setIpSum k = b k :=
  (set16_of_outside h).trans (set16_of_outside h)

/-- A header of 20 bytes or more verifies after its checksum has been stored. -/
theorem verifies_setIpSum {b : Buffer} (h : 20 ≤ b.iIpHeaderLen) :
    Verifies b.setIpSum 0 b.iIpHeaderLen := by
  have hlen : (b.set16 10 0).iIpHeaderLen = b.iIpHeaderLen :=
    iIpHeaderLen_congr (set16_of_outside (Or.inl (by omega)))
  have hcount : 2 * 5 + 2 ≤ b.iIpHeaderLen := by omega
  have hzero : (b.set16 10 0).get16 (0 + 2 * 5) = 0 := get16_set16 b 10 0
  unfold setIpSum
  dsimp only
  rw [hlen]
  exact verifies_checksum hcount hzero

theorem setIcmpCksum_of_outside {b : Buffer} {k : ℕ}
    (h : k < b.iIpHeaderLen + 2 ∨ b.iIpHeaderLen + 4 ≤ k) : b.setIcmpCksum k = b k :=
  (set16_of_outside h).trans (set16_of_outside h)

/-- The ICMP part verifies after its checksum has been stored. -/
theorem verifies_setIcmpCksum {b : Buffer} (h : 20 ≤ b.iIpHeaderLen)
    (hle : b.iIpHeaderLen + 4 ≤ b.ipLen) (hlt : b.ipLen < b.iIpHeaderLen + 32768) :
    Verifies b.setIcmpCksum b.iIpHeaderLen (b.ipLen - b.iIpHeaderLen) := by
  have hfirst : ∀ k, k < 4 → b.set16 (b.iIpHeaderLen + 2) 0 k = b k :=
    fun k hk => set16_of_outside (Or.inl (by omega))
  have htot : (b.set16 (b.iIpHeaderLen + 2) 0).iTotLen = (b.ipLen - b.iIpHeaderLen : ℕ) :=
    (iTotLen_congr hfirst).trans (iTotLen_eq (by omega) hlt)
  unfold setIcmpCksum
  dsimp only
  rw [htot]
  exact verifies_checksum (j := 1) (by omega) (get16_set16 b (b.iIpHeaderLen + 2) 0)

/-- `icmpReply_Edit` as three steps, of which the second does not touch the header. -/
theorem icmpReplyEdit_of_icmp {b : Buffer} (hp : b.ipP = 1) :
    b.icmpReplyEdit = (((b.set8 b.iIpHeaderLen 0).setIcmpCksum.set32 16
      (b.set8 b.iIpHeaderLen 0).setIcmpCksum.ipSrc).set32 12
        (b.set8 b.iIpHeaderLen 0).setIcmpCksum.ipDst).setIpSum := by
  unfold icmpReplyEdit
  rw [if_neg (not_not_intro hp)]

end Buffer
