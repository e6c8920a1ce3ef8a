import SimpleSDN.Network.Control

/-!
# Packets that are built around a payload

`buildIpPacket` writes a header of 20 bytes and copies the payload behind it, but it
takes the size of the payload for the length of the header: the packet is laid out
as it should be for payloads of 0 and of 20 bytes only (`buildIpPacket_laidOut_iff`).
It does not clear the checksum field before it computes the checksum, so the header
verifies when the field happened to hold zero, in either of its two forms
(`buildIpPacket_verifies_iff`). A control message has 20 bytes, so the routers read
back the messages they send (`octaneUnpack_buildIpPacket`).
-/

/-- What `icmpUnpack` stores and, as `protocol`, returns. -/
structure IcmpUnpacked where
  srcAddr : UInt32
  dstAddr : UInt32
  icmpType : UInt8
  protocol : UInt8

/-- `icmpUnpack`. The outputs that a packet of another protocol does not have are left as
they were. -/
def icmpUnpack (srcAddr dstAddr : UInt32) (icmpType : UInt8) (buffer : Packet) : IcmpUnpacked :=
  if buffer.ipP ≠ 1 then
    if buffer.ipP = 6 then ⟨buffer.ipSrc, buffer.ipDst, icmpType, buffer.ipP⟩
    else ⟨srcAddr, dstAddr, icmpType, buffer.ipP⟩
  else ⟨buffer.ipSrc, buffer.ipDst, buffer.icmpType, 1⟩

@[simp] theorem icmpUnpack_protocol (srcAddr dstAddr : UInt32) (icmpType : UInt8)
    (buffer : Packet) : (icmpUnpack srcAddr dstAddr icmpType buffer).protocol = buffer.ipP := by
  unfold icmpUnpack
  split_ifs with h h6
  · rfl
  · rfl
  · exact (not_not.1 h).symm

@[simp] theorem ipUnpack_ipType (st : Stack) (buffer : Packet) :
    (ipUnpack st buffer).ipType = buffer.ipP := by
  unfold ipUnpack
  split_ifs <;> rfl

namespace Buffer

/-- The header that `buildIpPacket` fills in. Nothing is stored in `ip_sum` before the
checksum is computed. -/
def ipHeader (IpHeader : Buffer) (iProtocol : ℤ) (sSrcAddr sDstAddr : Dotted)
    (iPayloadSize : UInt32) : Buffer :=
  -- `ip_hl` and `ip_v`
  let IpHeader := IpHeader.set8 0 0x45
  let IpHeader := IpHeader.set8 1 0
  let IpHeader := IpHeader.set16 2 (htons (20 + iPayloadSize).toUInt16)
  let IpHeader := IpHeader.set16 4 (htons 0)
  let IpHeader := IpHeader.set16 6 0
  let IpHeader := IpHeader.set8 9 (UInt8.ofInt iProtocol)
  let IpHeader := IpHeader.set32 12 (inetAddr sSrcAddr)
  let IpHeader := IpHeader.set32 16 (inetAddr sDstAddr)
  let IpHeader := IpHeader.set8 8 255
  IpHeader.set16 10 (checksum IpHeader 0 20)

/-- `buildIpPacket`, with the contents of its uninitialised `IpHeader`. The comparison is
one of `unsigned int`s; `none` stands for a copy past the end of the buffer. -/
def buildIpPacket (IpHeader buffer : Buffer) (iBufferSize : UInt32) (iProtocol : ℤ)
    (sSrcAddr sDstAddr : Dotted) (payload : Buffer) (iPayloadSize : UInt32) : Option Buffer :=
  if iBufferSize < 20 + iPayloadSize then some buffer
  else if 20 ≤ iBufferSize.toNat ∧ 2 * iPayloadSize.toNat ≤ iBufferSize.toNat then
    some ((buffer.copy 0 (IpHeader.ipHeader iProtocol sSrcAddr sDstAddr iPayloadSize) 0 20).copy
      iPayloadSize.toNat payload 0 iPayloadSize.toNat)
  else none

/-- The packet `b` has been built in `buffer` around a payload of `n` bytes. -/
structure IpLayout (buffer : Buffer) (iProtocol : ℤ) (sSrcAddr sDstAddr : Dotted)
    (payload : Buffer) (n : ℕ) (b : Buffer) : Prop where
  /-- `ip_v` 4 and `ip_hl` 5 -/
  version : b 0 = 0x45
  ipLen : b.ipLen = 20 + n
  ipP : b.ipP.toNat = iProtocol
  ipSrc : b.ipSrc = inetAddr sSrcAddr
  ipDst : b.ipDst = inetAddr sDstAddr
  payload : ∀ k, k < n → b (20 + k) = payload k
  other : ∀ k, 20 + n ≤ k → b k = buffer k

/-- The packet is laid out in a buffer that holds it; a smaller buffer is left alone. -/
def LaidOut (IpHeader buffer : Buffer) (iBufferSize : UInt32) (iProtocol : ℤ)
    (sSrcAddr sDstAddr : Dotted) (payload : Buffer) (iPayloadSize : UInt32) : Prop :=
  (20 + iPayloadSize.toNat ≤ iBufferSize.toNat →
    ∃ b, buildIpPacket IpHeader buffer iBufferSize iProtocol sSrcAddr sDstAddr payload
        iPayloadSize = some b ∧
      buffer.IpLayout iProtocol sSrcAddr sDstAddr payload iPayloadSize.toNat b) ∧
  (iBufferSize.toNat < 20 + iPayloadSize.toNat →
    buildIpPacket IpHeader buffer iBufferSize iProtocol sSrcAddr sDstAddr payload
      iPayloadSize = some buffer)

variable {IpHeader buffer : Buffer} {iBufferSize iPayloadSize : UInt32} {iProtocol : ℤ}
  {sSrcAddr sDstAddr : Dotted} {payload : Buffer}

theorem toNat_header_add (n : UInt32) : (20 + n).toNat = (20 + n.toNat) % 2 ^ 32 :=
  UInt32.toNat_add 20 n

/-- `buildIpPacket` compares the sizes in 32 bits. -/
theorem lt_header_add_iff :
    iBufferSize < 20 + iPayloadSize ↔ iBufferSize.toNat < (20 + iPayloadSize.toNat) % 2 ^ 32 := by
  rw [UInt32.lt_iff_toNat_lt, toNat_header_add]

/-! ### The header -/

theorem ipHeader_version :
    IpHeader.ipHeader iProtocol sSrcAddr sDstAddr iPayloadSize 0 = 0x45 := by
  unfold ipHeader
  rw [set16_of_outside (by omega), set8_of_ne (by omega), set32_of_outside (by omega),
    set32_of_outside (by omega), set8_of_ne (by omega), set16_of_outside (by omega),
    set16_of_outside (by omega), set16_of_outside (by omega), set8_of_ne (by omega), set8_self]

theorem ipHeader_ipP :
    (IpHeader.ipHeader iProtocol sSrcAddr sDstAddr iPayloadSize).ipP = UInt8.ofInt iProtocol := by
  unfold ipHeader ipP
  rw [set16_of_outside (by omega), set8_of_ne (by omega), set32_of_outside (by omega),
    set32_of_outside (by omega), set8_self]

theorem ipHeader_ipLen (h : iPayloadSize.toNat + 20 < 65536) :
    (IpHeader.ipHeader iProtocol sSrcAddr sDstAddr iPayloadSize).ipLen =
      20 + iPayloadSize.toNat := by
  have hget : (IpHeader.ipHeader iProtocol sSrcAddr sDstAddr iPayloadSize).get16 2 =
      htons (20 + iPayloadSize).toUInt16 := by
    unfold ipHeader
    dsimp only
    -- the bytes 2 and 3 are written once
    refine (get16_congr ?_ ?_).trans
      (get16_set16 ((IpHeader.set8 0 0x45).set8 1 0) 2 (htons (20 + iPayloadSize).toUInt16))
    all_goals
      rw [set16_of_outside (by omega), set8_of_ne (by omega), set32_of_outside (by omega),
        set32_of_outside (by omega), set8_of_ne (by omega), set16_of_outside (by omega),
        set16_of_outside (by omega)]
  have hsize : (20 + iPayloadSize).toUInt16.toNat = 20 + iPayloadSize.toNat := by
    rw [UInt32.toNat_toUInt16, toNat_header_add]
    omega
  rw [ipLen, hget, ntohs, toNat_htons, toNat_htons, hsize]
  omega

theorem ipHeader_ipSrc : (IpHeader.ipHeader iProtocol sSrcAddr sDstAddr iPayloadSize).ipSrc =
    inetAddr sSrcAddr := by
  unfold ipHeader ipSrc
  dsimp only
  rw [get32_congr fun k hk => set16_of_outside (by omega),
    get32_congr fun k hk => set8_of_ne (by omega),
    get32_congr fun k hk => set32_of_outside (by omega), get32_set32]

theorem ipHeader_ipDst : (IpHeader.ipHeader iProtocol sSrcAddr sDstAddr iPayloadSize).ipDst =
    inetAddr sDstAddr := by
  unfold ipHeader ipDst
  dsimp only
  rw [get32_congr fun k hk => set16_of_outside (by omega),
    get32_congr fun k hk => set8_of_ne (by omega), get32_set32]

/-! ### The checksum -/

/-- The uninitialised `ip_sum` is a zero of the one's-complement sum. -/
def SumClear (IpHeader : Buffer) : Prop := IpHeader.get16 10 = 0 ∨ IpHeader.get16 10 = 0xFFFF

/-- The first word of the header is not zero. -/
theorem ipHeader_word :
    (IpHeader.ipHeader iProtocol sSrcAddr sDstAddr iPayloadSize).get16 0 ≠ 0 := by
  intro h0
  have hword := get16_toNat (IpHeader.ipHeader iProtocol sSrcAddr sDstAddr iPayloadSize) 0
  rw [h0, ipHeader_version] at hword
  change 0 = 69 + _ at hword
  omega

/-- The checksum is stored in a header whose `ip_sum` nothing has been stored in. -/
theorem ipHeader_eq_set_checksum (IpHeader : Buffer) (iProtocol : ℤ)
    (sSrcAddr sDstAddr : Dotted) (iPayloadSize : UInt32) :
    ∃ h : Buffer, IpHeader.ipHeader iProtocol sSrcAddr sDstAddr iPayloadSize =
        h.set16 (0 + 2 * 5) (checksum h 0 20) ∧
      h.get16 (0 + 2 * 5) = IpHeader.get16 10 := by
  refine ⟨_, rfl, get16_congr ?_ ?_⟩
  all_goals
    rw [set8_of_ne (by omega), set32_of_outside (by omega), set32_of_outside (by omega),
      set8_of_ne (by omega), set16_of_outside (by omega), set16_of_outside (by omega),
      set16_of_outside (by omega), set8_of_ne (by omega), set8_of_ne (by omega)]

/-- What was in `ip_sum` is summed with the words that have been set. -/
theorem ipHeader_verifies_iff (IpHeader : Buffer) (iProtocol : ℤ) (sSrcAddr sDstAddr : Dotted)
    (iPayloadSize : UInt32) :
    Verifies (IpHeader.ipHeader iProtocol sSrcAddr sDstAddr iPayloadSize) 0 20 ↔
      IpHeader.SumClear := by
  have hword : (IpHeader.ipHeader iProtocol sSrcAddr sDstAddr iPayloadSize).get16 0 ≠ 0 :=
    ipHeader_word
  obtain ⟨h, heq, hsum⟩ :=
    ipHeader_eq_set_checksum IpHeader iProtocol sSrcAddr sDstAddr iPayloadSize
  rw [heq] at hword ⊢
  have hfield : 2 * 5 + 2 ≤ 20 := by omega
  have hfirst : 2 ≤ 20 := by omega
  rw [SumClear, ← hsum]
  exact verifies_checksum_iff hfield (sumWords_pos hfirst hword)

/-! ### The packet -/

/-- A packet around a payload that begins where the header ends, or is empty. -/
theorem buildIpPacket_of_fits (hsize : 20 + iPayloadSize.toNat ≤ iBufferSize.toNat)
    (hn : iPayloadSize.toNat = 0 ∨ iPayloadSize.toNat = 20) (IpHeader buffer payload : Buffer)
    (iProtocol : ℤ) (sSrcAddr sDstAddr : Dotted) :
    ∃ b, buildIpPacket IpHeader buffer iBufferSize iProtocol sSrcAddr sDstAddr payload
        iPayloadSize = some b ∧
      (∀ k, k < 20 → b k = IpHeader.ipHeader iProtocol sSrcAddr sDstAddr iPayloadSize k) ∧
      (∀ k, k < iPayloadSize.toNat → b (20 + k) = payload k) ∧
      ∀ k, 20 + iPayloadSize.toNat ≤ k → b k = buffer k := by
  have hlt : ¬ iBufferSize < 20 + iPayloadSize := by
    rw [lt_header_add_iff]
    omega
  unfold buildIpPacket
  rw [if_neg hlt, if_pos (by omega)]
  generalize IpHeader.ipHeader iProtocol sSrcAddr sDstAddr iPayloadSize = h
  refine ⟨_, rfl, fun k hk => ?_, fun k hk => ?_, fun k hk => ?_⟩
  · have hget : buffer.copy 0 h 0 20 (0 + k) = h (0 + k) := copy_add hk
    rw [copy_of_outside (by omega)]
    rwa [Nat.zero_add] at hget
  · have hpos : 20 + k = iPayloadSize.toNat + k := by omega
    rw [hpos, copy_add hk, Nat.zero_add]
  · rw [copy_of_outside (by omega), copy_of_outside (by omega)]

/-- Such a packet is laid out as it should be. -/
theorem exists_ipLayout (hsize : 20 + iPayloadSize.toNat ≤ iBufferSize.toNat)
    (hn : iPayloadSize.toNat = 0 ∨ iPayloadSize.toNat = 20)
    (hp : 0 ≤ iProtocol ∧ iProtocol < 256) (IpHeader buffer payload : Buffer)
    (sSrcAddr sDstAddr : Dotted) :
    ∃ b, buildIpPacket IpHeader buffer iBufferSize iProtocol sSrcAddr sDstAddr payload
        iPayloadSize = some b ∧
      buffer.IpLayout iProtocol sSrcAddr sDstAddr payload iPayloadSize.toNat b := by
  obtain ⟨b, hb, hheader, hpayload, hother⟩ :=
    buildIpPacket_of_fits hsize hn IpHeader buffer payload iProtocol sSrcAddr sDstAddr
  refine ⟨b, hb, ?_, ?_, ?_, ?_, ?_, hpayload, hother⟩
  · rw [hheader 0 (by omega), ipHeader_version]
  · rw [ipLen_congr (hheader 2 (by omega)) (hheader 3 (by omega))]
    exact ipHeader_ipLen (by omega)
  · have hget : b.ipP = UInt8.ofInt iProtocol := (hheader 9 (by omega)).trans ipHeader_ipP
    rw [hget, UInt8.ofInt, UInt8.toNat_ofNat']
    omega
  · exact (get32_congr fun k hk => hheader (12 + k) (by omega)).trans ipHeader_ipSrc
  · exact (get32_congr fun k hk => hheader (16 + k) (by omega)).trans ipHeader_ipDst

/-- A byte behind the header that the payload is not copied to. -/
theorem buildIpPacket_of_outside {b : Buffer} {k : ℕ}
    (hsize : 20 + iPayloadSize.toNat ≤ iBufferSize.toNat)
    (hb : buildIpPacket IpHeader buffer iBufferSize iProtocol sSrcAddr sDstAddr payload
      iPayloadSize = some b) (hk : 20 ≤ k)
    (hout : k < iPayloadSize.toNat ∨ 2 * iPayloadSize.toNat ≤ k) : b k = buffer k := by
  have hlt : ¬ iBufferSize < 20 + iPayloadSize := by
    rw [lt_header_add_iff]
    omega
  unfold buildIpPacket at hb
  split_ifs at hb
  obtain rfl := Option.some.inj hb
  rw [copy_of_outside (by omega), copy_of_outside (by omega)]

/-- In a buffer that is large enough, only payloads of 0 and of 20 bytes arrive at the
place for them. -/
theorem size_of_laidOut (hsize : 20 + iPayloadSize.toNat ≤ iBufferSize.toNat)
    (hall : ∀ payload, LaidOut IpHeader buffer iBufferSize iProtocol sSrcAddr sDstAddr payload
      iPayloadSize) : iPayloadSize.toNat = 0 ∨ iPayloadSize.toNat = 20 := by
  by_contra hnot
  -- a byte of the payload's place, behind the header, that is not written
  obtain ⟨k, hk, hout⟩ : ∃ k, k < iPayloadSize.toNat ∧
      (20 + k < iPayloadSize.toNat ∨ 2 * iPayloadSize.toNat ≤ 20 + k) := by
    by_cases hlarge : 20 < iPayloadSize.toNat
    · exact ⟨0, by omega, by omega⟩
    · exact ⟨iPayloadSize.toNat - 1, by omega, by omega⟩
  obtain ⟨b, hb, hlayout⟩ := (hall fun _ => buffer (20 + k) + 1).1 hsize
  have hsame : b (20 + k) = buffer (20 + k) :=
    buildIpPacket_of_outside hsize hb (by omega) hout
  have hpayload : b (20 + k) = buffer (20 + k) + 1 := hlayout.payload k hk
  rw [hsame] at hpayload
  exact absurd (left_eq_add.1 hpayload) (by decide)

theorem protocol_of_laidOut (hsize : 20 + iPayloadSize.toNat ≤ iBufferSize.toNat)
    (h : LaidOut IpHeader buffer iBufferSize iProtocol sSrcAddr sDstAddr payload iPayloadSize) :
    0 ≤ iProtocol ∧ iProtocol < 256 := by
  obtain ⟨b, -, hlayout⟩ := h.1 hsize
  have hip := hlayout.ipP
  have hlt := b.ipP.toNat_lt
  omega

/-- A buffer that is too small is left alone exactly when the sum of the sizes does not
wrap around to what it holds. -/
theorem buildIpPacket_of_small_iff (hsmall : iBufferSize.toNat < 20 + iPayloadSize.toNat) :
    buildIpPacket IpHeader buffer iBufferSize iProtocol sSrcAddr sDstAddr payload iPayloadSize =
        some buffer ↔
      20 + iPayloadSize.toNat < 2 ^ 32 ∨ iBufferSize.toNat + 2 ^ 32 < 20 + iPayloadSize.toNat := by
  have hn := iPayloadSize.toNat_lt
  unfold buildIpPacket
  by_cases hlt : iBufferSize < 20 + iPayloadSize
  · rw [if_pos hlt]
    rw [lt_header_add_iff] at hlt
    exact iff_of_true rfl (by omega)
  · rw [if_neg hlt]
    rw [lt_header_add_iff] at hlt
    rw [if_neg (by omega)]
    exact iff_of_false (Option.some_ne_none buffer).symm (by omega)

/-- For every content of the buffer, packets are laid out as they should be around every
payload of a size exactly when the size is 0 or 20; and a buffer that is too small is
left alone exactly when the sum of the sizes does not wrap around to what it holds. -/
theorem buildIpPacket_laidOut_iff (IpHeader buffer : Buffer)
    (iBufferSize iPayloadSize : UInt32) (iProtocol : ℤ) (sSrcAddr sDstAddr : Dotted) :
    (∀ payload, LaidOut IpHeader buffer iBufferSize iProtocol sSrcAddr sDstAddr payload
        iPayloadSize) ↔
      (20 + iPayloadSize.toNat ≤ iBufferSize.toNat →
        (iPayloadSize.toNat = 0 ∨ iPayloadSize.toNat = 20) ∧
          0 ≤ iProtocol ∧ iProtocol < 256) ∧
      (iBufferSize.toNat < 20 + iPayloadSize.toNat →
        20 + iPayloadSize.toNat < 2 ^ 32 ∨
          iBufferSize.toNat + 2 ^ 32 < 20 + iPayloadSize.toNat) := by
  constructor
  · intro hall
    constructor
    · intro hsize
      exact ⟨size_of_laidOut hsize hall, protocol_of_laidOut hsize (hall buffer)⟩
    · intro hsmall
      exact (buildIpPacket_of_small_iff hsmall).1 ((hall buffer).2 hsmall)
  · intro hcond payload
    constructor
    · intro hsize
      obtain ⟨hn, hp⟩ := hcond.1 hsize
      exact exists_ipLayout hsize hn hp IpHeader buffer payload sSrcAddr sDstAddr
    · intro hsmall
      exact (buildIpPacket_of_small_iff hsmall).2 (hcond.2 hsmall)

/-- A payload of one byte is written into the header. -/
theorem not_laidOut_one_byte :
    ¬ LaidOut zero zero 2048 253 ⟨127, 0, 0, 1⟩ ⟨127, 0, 0, 1⟩ (ofList [7]) 1 := by
  intro h
  obtain ⟨b, hb, hlayout⟩ := h.1 (by decide)
  have hsame : b 20 = zero 20 := buildIpPacket_of_outside (by decide) hb (by omega) (by decide)
  have hpayload : b 20 = ofList [7] 0 := hlayout.payload 0 (by decide)
  rw [hsame] at hpayload
  exact absurd hpayload (by decide)

/-! ### The checksum of the packet -/

theorem buildIpPacket_eq (hsize : 20 + iPayloadSize.toNat ≤ iBufferSize.toNat)
    (hfit : 2 * iPayloadSize.toNat ≤ iBufferSize.toNat) (payload : Buffer) :
    buildIpPacket IpHeader buffer iBufferSize iProtocol sSrcAddr sDstAddr payload iPayloadSize =
      some ((buffer.copy 0 (IpHeader.ipHeader iProtocol sSrcAddr sDstAddr iPayloadSize) 0 20).copy
        iPayloadSize.toNat payload 0 iPayloadSize.toNat) := by
  have hlt : ¬ iBufferSize < 20 + iPayloadSize := by
    rw [lt_header_add_iff]
    omega
  unfold buildIpPacket
  rw [if_neg hlt, if_pos (by omega)]

/-- A payload that is not copied over the header leaves its checksum as it is. -/
theorem verifies_copy_iff {n : ℕ} (hn : n = 0 ∨ 20 ≤ n) (buffer h payload : Buffer) :
    Verifies ((buffer.copy 0 h 0 20).copy n payload 0 n) 0 20 ↔ Verifies h 0 20 := by
  refine verifies_congr fun k _ hk => ?_
  have hget : buffer.copy 0 h 0 20 (0 + k) = h (0 + k) := copy_add (by omega)
  rw [copy_of_outside (by omega)]
  rwa [Nat.zero_add] at hget

/-- A payload that is copied over the header verifies for one of its first bytes only. -/
theorem not_forall_verifies_copy {n : ℕ} (hpos : 0 < n) (hlt : n < 20) (h : Buffer) :
    ¬ ∀ payload, Verifies (h.copy n payload 0 n) 0 20 := by
  intro hall
  have hfirst : ∀ payload : Buffer, h.copy n payload 0 n n = payload 0 := fun payload =>
    copy_add (k := 0) hpos
  -- two payloads that differ in the first byte
  have hsame : ∀ k, k ≠ n → h.copy n zero 0 n k = h.copy n (zero.set8 0 1) 0 n k := by
    intro k hk
    by_cases hin : n ≤ k ∧ k < n + n
    · obtain ⟨i, rfl⟩ := Nat.exists_eq_add_of_le hin.1
      rw [copy_add (by omega), copy_add (by omega), set8_of_ne (by omega)]
    · rw [copy_of_outside (by omega), copy_of_outside (by omega)]
  have hword : 2 * (n / 2) + 2 ≤ 20 := by omega
  have hmod := get16_modEq_of_verifies hword (fun k _ => hsame k (by omega)) (hall zero)
    (hall (zero.set8 0 1))
  have hzero : (h.copy n zero 0 n n).toNat = 0 := congrArg UInt8.toNat (hfirst zero)
  have hone : (h.copy n (zero.set8 0 1) 0 n n).toNat = 1 := by
    rw [hfirst, set8_self]
    rfl
  rw [Nat.zero_add, get16_toNat, get16_toNat] at hmod
  unfold Nat.ModEq at hmod
  rcases Nat.mod_two_eq_zero_or_one n with heven | hodd
  · have hat : 2 * (n / 2) = n := by omega
    have hnext := (h.copy n (zero.set8 0 1) 0 n (n + 1)).toNat_lt
    rw [hat, hsame (n + 1) (by omega), hzero, hone] at hmod
    omega
  · have hat : 2 * (n / 2) + 1 = n := by omega
    have hprev := (h.copy n (zero.set8 0 1) 0 n (2 * (n / 2))).toNat_lt
    rw [hat, hsame (2 * (n / 2)) (by omega), hzero, hone] at hmod
    omega

/-- The header that is built verifies exactly when the uninitialised `ip_sum` is one of
the two forms of zero; in the packet it still does, for every payload, exactly when
moreover the payload is not copied over it. -/
theorem buildIpPacket_verifies_iff (IpHeader buffer : Buffer) (iBufferSize iPayloadSize : UInt32)
    (iProtocol : ℤ) (sSrcAddr sDstAddr : Dotted) :
    (Verifies (IpHeader.ipHeader iProtocol sSrcAddr sDstAddr iPayloadSize) 0 20 ↔
      IpHeader.SumClear) ∧
    (20 + iPayloadSize.toNat ≤ iBufferSize.toNat → 2 * iPayloadSize.toNat ≤ iBufferSize.toNat →
      ((∀ payload, ∃ b, buildIpPacket IpHeader buffer iBufferSize iProtocol sSrcAddr sDstAddr
          payload iPayloadSize = some b ∧ Verifies b 0 20) ↔
        (iPayloadSize.toNat = 0 ∨ 20 ≤ iPayloadSize.toNat) ∧ IpHeader.SumClear)) := by
  have hheader := ipHeader_verifies_iff IpHeader iProtocol sSrcAddr sDstAddr iPayloadSize
  refine ⟨hheader, fun hsize hfit => ?_⟩
  constructor
  · intro hall
    have hverifies : ∀ payload, Verifies ((buffer.copy 0 (IpHeader.ipHeader iProtocol sSrcAddr
        sDstAddr iPayloadSize) 0 20).copy iPayloadSize.toNat payload 0 iPayloadSize.toNat)
          0 20 := by
      intro payload
      obtain ⟨b, hb, hv⟩ := hall payload
      rw [buildIpPacket_eq hsize hfit] at hb
      rwa [Option.some.inj hb]
    have hn : iPayloadSize.toNat = 0 ∨ 20 ≤ iPayloadSize.toNat := by
      by_contra hnot
      exact not_forall_verifies_copy (by omega) (by omega) _ hverifies
    exact ⟨hn, hheader.1 ((verifies_copy_iff hn _ _ zero).1 (hverifies zero))⟩
  · intro hcond payload
    exact ⟨_, buildIpPacket_eq hsize hfit payload,
      (verifies_copy_iff hcond.1 _ _ payload).2 (hheader.2 hcond.2)⟩

theorem buildIpPacket_verifies_control :
    ∃ b, buildIpPacket zero zero 2048 253 ⟨127, 0, 0, 1⟩ ⟨127, 0, 0, 1⟩ (ofList [1]) 20 =
      some b ∧ Verifies b 0 20 :=
  ((buildIpPacket_verifies_iff zero zero 2048 20 253 ⟨127, 0, 0, 1⟩ ⟨127, 0, 0, 1⟩).2
    (by decide) (by decide)).2 ⟨Or.inr (by decide), Or.inl rfl⟩ (ofList [1])

/-- With a one in the uninitialised `ip_sum`, no control message has a header that
verifies. -/
theorem not_verifies_buildIpPacket :
    (∃ b, buildIpPacket (zero.set16 10 1) zero 2048 253 ⟨127, 0, 0, 1⟩ ⟨127, 0, 0, 1⟩ zero 20 =
        some b ∧ ¬ Verifies b 0 20) ∧
      ¬ Verifies ((zero.set16 10 1).ipHeader 253 ⟨127, 0, 0, 1⟩ ⟨127, 0, 0, 1⟩ 20) 0 20 := by
  have hnot : ¬ Verifies ((zero.set16 10 1).ipHeader 253 ⟨127, 0, 0, 1⟩ ⟨127, 0, 0, 1⟩ 20)
      0 20 := by
    rw [ipHeader_verifies_iff, SumClear, get16_set16]
    decide
  refine ⟨⟨_, buildIpPacket_eq (by decide) (by decide) zero, fun hv => hnot ?_⟩, hnot⟩
  exact (verifies_copy_iff (Or.inr (by decide)) _ _ zero).1 hv

/-! ### The control messages -/

/-- The payload of a built packet begins where the control messages do. -/
theorem IpLayout.pOctane {n : ℕ} {b : Buffer}
    (h : buffer.IpLayout iProtocol sSrcAddr sDstAddr payload n b) : b.pOctane = 20 := by
  have hhdr : b.iIpHeaderLen = 20 := by
    rw [iIpHeaderLen, h.version]
    rfl
  rw [Buffer.pOctane, hhdr]
  rfl

theorem IpLayout.iOctaneTotLen {b : Buffer}
    (h : buffer.IpLayout iProtocol sSrcAddr sDstAddr payload 20 b) : b.iOctaneTotLen = 20 := by
  have hlen : b.ipLen = 40 := h.ipLen
  unfold Buffer.iOctaneTotLen
  split_ifs
  · rfl
  · rw [hlen, h.pOctane]
    decide

/-- A message is where the decoder reads it. -/
theorem IpLayout.octaneAt {m : OctaneControl} {memory b : Buffer}
    (h : buffer.IpLayout iProtocol sSrcAddr sDstAddr (memory.store 0 m.bytes) 20 b) :
    b.octaneAt b.pOctane = m := by
  rw [h.pOctane]
  refine octaneAt_of_bytes fun k hk => (h.payload k hk).trans ?_
  have hget : memory.store 0 m.bytes (0 + k) = m.bytes[k] := store_of_lt hk
  rwa [Nat.zero_add] at hget

/-- The packet that the routers build around a control message is decoded to the message,
whatever the buffer and the uninitialised variables hold, and has the protocol of
control messages. -/
theorem octaneUnpack_buildIpPacket (m : OctaneControl) (IpHeader buffer memory : Buffer) :
    ∃ b, buildIpPacket IpHeader buffer 2048 octaneProtocolNum.toNat ⟨127, 0, 0, 1⟩
        ⟨127, 0, 0, 1⟩ (memory.store 0 m.bytes) 20 = some b ∧
      b.octaneUnpack = some m ∧ b.octaneUnpackSeqno = m.octaneSeqno.toNat ∧
      (∀ srcAddr dstAddr icmpType,
        (icmpUnpack srcAddr dstAddr icmpType b.packet).protocol = octaneProtocolNum) ∧
      ∀ st, (ipUnpack st b.packet).ipType = octaneProtocolNum := by
  obtain ⟨b, hb, hlayout⟩ : ∃ b, buildIpPacket IpHeader buffer 2048 octaneProtocolNum.toNat
        ⟨127, 0, 0, 1⟩ ⟨127, 0, 0, 1⟩ (memory.store 0 m.bytes) 20 = some b ∧
      buffer.IpLayout octaneProtocolNum.toNat ⟨127, 0, 0, 1⟩ ⟨127, 0, 0, 1⟩
        (memory.store 0 m.bytes) 20 b :=
    exists_ipLayout (by decide) (by decide) (by decide) IpHeader buffer _ _ _
  have hp : b.packet.ipP = octaneProtocolNum :=
    UInt8.toNat_inj.1 (Int.ofNat_inj.1 hlayout.ipP)
  refine ⟨b, hb, octaneUnpack_eq_some_iff.2 ⟨hlayout.iOctaneTotLen, hlayout.octaneAt⟩, ?_,
    fun _ _ _ => ?_, fun _ => ?_⟩
  · rw [octaneUnpackSeqno, hlayout.octaneAt]
  · rw [icmpUnpack_protocol, hp]
  · rw [ipUnpack_ipType, hp]

end Buffer
