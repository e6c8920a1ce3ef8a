import SimpleSDN.Secondary.Rules
import SimpleSDN.Secondary.Translate

/-!
# The checksum of a TCP segment

A secondary router computes the checksum of a segment in an array of its own, behind a
pseudo header. What goes to the raw socket is short enough for that
(`Buffer.tcpForward_valid`). What comes from it may be longer than the `short`s that
hold the lengths: above 32755 bytes nothing is added up, and above 32767 bytes the copy
has a negative length (`Buffer.tcpReplyEdit_valid_iff`).
-/

/-- The pseudo header of a segment of `n` bytes. -/
def pseudoHeader (saddr daddr : UInt32) (protocol : UInt8) (n : ℕ) : List UInt8 :=
  Buffer.bytes32 saddr ++ Buffer.bytes32 daddr ++
    [0, protocol, UInt8.ofNat (n / 256), UInt8.ofNat n]

/-- The checksum of a segment verifies against the pseudo header. -/
def SegmentVerifies (saddr daddr : UInt32) (protocol : UInt8) (segment : List UInt8) : Prop :=
  Verifies (Buffer.ofList (pseudoHeader saddr daddr protocol segment.length ++ segment)) 0
    (12 + segment.length)

namespace Buffer

variable {b b' : Buffer} {addr saddr daddr : UInt32} {n : ℕ}

/-- The array that the checksum is computed in holds the pseudo header and the segment. -/
theorem psd_eq (hn : n < 65536) (pTcp : Buffer) : b.psd saddr daddr n pTcp =
    ofList (pseudoHeader saddr daddr b.ipP n ++ pTcp.bytes b.iIpHeaderLen n) := by
  have hlen : bytes16 (htons (UInt16.ofNat n)) = [UInt8.ofNat (n / 256), UInt8.ofNat n] := by
    have hnat : (UInt16.ofNat n).toNat = n := by
      rw [UInt16.toNat_ofNat']
      omega
    have hlow : UInt8.ofNat (n % 256 * 256 + n / 256) = UInt8.ofNat (n / 256) := by
      rw [← UInt8.toNat_inj, UInt8.toNat_ofNat', UInt8.toNat_ofNat']
      omega
    have hhigh : UInt8.ofNat ((n % 256 * 256 + n / 256) / 256) = UInt8.ofNat n := by
      have hdiv : (n % 256 * 256 + n / 256) / 256 = n % 256 := by omega
      rw [hdiv, ← UInt8.toNat_inj, UInt8.toNat_ofNat', UInt8.toNat_ofNat']
      omega
    rw [bytes16, toNat_htons, hnat, hlow, hhigh]
  have hmbz : ((zero.set32 0 saddr).set32 4 daddr).store 8 [0] =
      (zero.set32 0 saddr).set32 4 daddr := by
    funext k
    by_cases hk : k = 8
    · subst hk
      rw [set32_of_outside (by omega), set32_of_outside (by omega)]
      exact set8_self _ _ _
    · exact set8_of_ne hk
  have hsplit : [0, b.ipP, UInt8.ofNat (n / 256), UInt8.ofNat n] =
      [0] ++ ([b.ipP] ++ bytes16 (htons (UInt16.ofNat n))) := by
    rw [hlen]
    rfl
  rw [pseudoHeader, hsplit, ofList]
  simp only [List.append_assoc, store_append]
  change _ = ((((zero.set32 0 saddr).set32 4 daddr).store 8 [0]).set8 9 b.ipP |>.set16 10 _).copy
    12 pTcp b.iIpHeaderLen n
  rw [hmbz]
  rfl

/-- The segment with a checksum in its field, as it stands behind the pseudo header. -/
theorem psd_set16 (hn : 18 ≤ n) (pTcp : Buffer) (v : UInt16) :
    b.psd saddr daddr n (pTcp.set16 (b.iIpHeaderLen + 16) v) =
      (b.psd saddr daddr n pTcp).set16 28 v :=
  (copy_set16 (i := 12) (k := 16) v hn).symm

theorem segmentVerifies_iff (hn : n < 65536) (pTcp : Buffer) :
    SegmentVerifies saddr daddr b.ipP (pTcp.bytes b.iIpHeaderLen n) ↔
      Verifies (b.psd saddr daddr n pTcp) 0 (12 + n) := by
  rw [SegmentVerifies, length_bytes, psd_eq hn]

/-- A segment verifies after its checksum has been stored, if its length and that of the
pseudo header together are a `short`. -/
theorem segmentVerifies_setTcpCheck (hn : 18 ≤ n) (hshort : n ≤ 32755) :
    SegmentVerifies saddr daddr b.ipP ((b.setTcpCheck saddr daddr n).bytes b.iIpHeaderLen n) := by
  have hcount : toShort ((n : ℤ) + 12) = (n + 12 : ℕ) := by
    have := toShort_of_lt (n := n + 12) (by omega)
    rwa [Nat.cast_add] at this
  have hzero : (b.psd saddr daddr n (b.set16 (b.iIpHeaderLen + 16) 0)).get16 (0 + 2 * 14) = 0 := by
    rw [psd_set16 hn]
    exact get16_set16 _ 28 0
  rw [segmentVerifies_iff (by omega), setTcpCheck, hcount, psd_set16 hn, Nat.add_comm 12 n]
  generalize b.psd saddr daddr n (b.set16 (b.iIpHeaderLen + 16) 0) = psdBuffer at hzero ⊢
  exact verifies_checksum (j := 14) (by omega) hzero

/-- A longer one is given the checksum of nothing. -/
theorem setTcpCheck_of_long (hlong : 32755 < n) (hshort : n ≤ 32767) :
    b.setTcpCheck saddr daddr n = b.set16 (b.iIpHeaderLen + 16) 0xFFFF := by
  have hcount : toShort ((n : ℤ) + 12) ≤ 0 := by
    unfold toShort
    rw [Int.bmod_def]
    omega
  rw [setTcpCheck, checksum_of_nonpos hcount, set16_set16]

/-! ### To the raw socket -/

/-- A TCP packet that has been read into an array of 2048 bytes goes to the raw socket as
its segment with a new checksum, for the pseudo header with the router's address. -/
theorem tcpForward_valid (hp : b.ipP = 6) (hlen : 20 ≤ b.iIpHeaderLen)
    (hle : b.iIpHeaderLen + 20 ≤ b.ipLen) (hsize : b.ipLen ≤ 2048)
    (rou2ExternalAddr : UInt32) :
    12 + (b.ipLen - b.iIpHeaderLen) ≤ 2048 ∧
      ∃ segment, b.tcpForward rou2ExternalAddr = some [.raw 6 b.ipDst segment] ∧
        b.Transport segment ∧ SegmentVerifies rou2ExternalAddr b.ipDst 6 segment := by
  have htot : b.iTotLen = (b.ipLen - b.iIpHeaderLen : ℕ) := iTotLen_eq (by omega) (by omega)
  refine ⟨by omega, (b.setTcpCheck rou2ExternalAddr b.ipDst (b.ipLen - b.iIpHeaderLen)).bytes
    b.iIpHeaderLen (b.ipLen - b.iIpHeaderLen), ?_, ?_, ?_⟩
  · rw [tcpForward, htot, if_pos (by omega), sendRaw, if_pos (by omega), Int.toNat_natCast]
  · exact transport_bytes (by omega) fun k hk => setTcpCheck_of_ne (hk hp)
  · have hverifies : SegmentVerifies rou2ExternalAddr b.ipDst b.ipP
        ((b.setTcpCheck rou2ExternalAddr b.ipDst (b.ipLen - b.iIpHeaderLen)).bytes
          b.iIpHeaderLen (b.ipLen - b.iIpHeaderLen)) :=
      segmentVerifies_setTcpCheck (by omega) (by omega)
    rwa [hp] at hverifies

/-- A segment without data from 10.0.2.15:40000 to 10.5.51.4:80. -/
def sampleSegment : Buffer :=
  ofList (tcpDatagram [10, 0, 2, 15, 10, 5, 51, 4, 0x9C, 0x40, 0, 80])

theorem tcpForward_valid_sample :
    12 + (sampleSegment.ipLen - sampleSegment.iIpHeaderLen) ≤ 2048 ∧
      ∃ segment, sampleSegment.tcpForward 0x02C9A8C0 =
          some [.raw 6 sampleSegment.ipDst segment] ∧
        sampleSegment.Transport segment ∧
          SegmentVerifies 0x02C9A8C0 sampleSegment.ipDst 6 segment :=
  tcpForward_valid (by decide) (by decide) (by decide) (by decide) 0x02C9A8C0

/-! ### From the raw socket -/

/-- The reply `b` has become `b'` on its way to `oriSrcAddr`: the destination is replaced,
the checksums verify and the rest is as it was. `ret` is the length that is returned. -/
structure TcpReply (b : Buffer) (oriSrcAddr : UInt32) (b' : Buffer) (ret : ℕ) : Prop where
  redirected : b.Redirected oriSrcAddr b'
  ipSum : Verifies b' 0 b.iIpHeaderLen
  check : SegmentVerifies b.ipSrc oriSrcAddr b.ipP
    (b'.bytes b.iIpHeaderLen (b.ipLen - b.iIpHeaderLen))
  ret_eq : ret = b.ipLen

/-- `tcpReply_Edit` with the length that it returns. -/
def tcpReplyEditLen (oriSrcAddr : UInt32) (buffer3 : Buffer) : Option (Buffer × ℕ) :=
  (buffer3.tcpReplyEdit oriSrcAddr).map fun buffer3 => (buffer3, buffer3.ipLen)

/-- What is edited before the TCP checksum is stored. -/
theorem tcpReplyEdit_eq (hle : b.iIpHeaderLen ≤ b.ipLen)
    (hlt : b.ipLen < b.iIpHeaderLen + 32768) :
    b.tcpReplyEdit addr = some ((b.set32 16 addr).setIpSum.setTcpCheck b.ipSrc addr
      (b.ipLen - b.iIpHeaderLen)) := by
  have hsrc : (b.set32 16 addr).setIpSum.ipSrc = b.ipSrc := by
    refine get32_congr fun k hk => ?_
    rw [setIpSum_of_outside (by omega), set32_of_outside (by omega)]
  rw [tcpReplyEdit, iTotLen_eq hle hlt, if_pos (by omega), Int.toNat_natCast]
  dsimp only
  rw [hsrc]

/-- The edit is the right one when the TCP checksum verifies. -/
theorem tcpReply_iff (hlen : 20 ≤ b.iIpHeaderLen) (hle : b.iIpHeaderLen ≤ b.ipLen)
    (h : b.tcpReplyEdit addr = some b') : b.TcpReply addr b' b'.ipLen ↔
      SegmentVerifies b.ipSrc addr b.ipP
        (b'.bytes b.iIpHeaderLen (b.ipLen - b.iIpHeaderLen)) := by
  refine ⟨TcpReply.check, fun hcheck => ⟨redirected_tcpReplyEdit hlen h, ?_, hcheck, ?_⟩⟩
  · have hlt := (exists_tcpReplyEdit_iff addr hle).1 ⟨b', h⟩
    have hhdr : (b.set32 16 addr).iIpHeaderLen = b.iIpHeaderLen :=
      iIpHeaderLen_congr (set32_of_outside (by omega))
    have hhdr' : (b.set32 16 addr).setIpSum.iIpHeaderLen = b.iIpHeaderLen :=
      (iIpHeaderLen_congr (setIpSum_of_outside (by omega))).trans hhdr
    have hsum : Verifies (b.set32 16 addr).setIpSum 0 b.iIpHeaderLen := by
      rw [← hhdr]
      exact verifies_setIpSum (hhdr.symm ▸ hlen)
    obtain rfl := Option.some.inj ((tcpReplyEdit_eq hle hlt).symm.trans h)
    refine (verifies_congr fun k _ hk => ?_).2 hsum
    -- the TCP checksum is stored behind the header
    exact (set16_of_outside (by omega)).trans (set16_of_outside (by omega))
  · have hother := (redirected_tcpReplyEdit hlen h).other
    exact ipLen_congr (hother 2 (by omega) (by omega) (by omega))
      (hother 3 (by omega) (by omega) (by omega))

theorem exists_tcpReply_iff (hlen : 20 ≤ b.iIpHeaderLen) (hle : b.iIpHeaderLen ≤ b.ipLen) :
    (∃ b' ret, b.tcpReplyEditLen addr = some (b', ret) ∧ b.TcpReply addr b' ret) ↔
      ∃ b', b.tcpReplyEdit addr = some b' ∧ SegmentVerifies b.ipSrc addr b.ipP
        (b'.bytes b.iIpHeaderLen (b.ipLen - b.iIpHeaderLen)) := by
  constructor
  · rintro ⟨b', ret, hedit, hreply⟩
    obtain ⟨b₁, hb₁, heq⟩ := Option.map_eq_some_iff.1 hedit
    obtain ⟨rfl, rfl⟩ := Prod.mk.inj heq
    exact ⟨b₁, hb₁, hreply.check⟩
  · rintro ⟨b', hb', hcheck⟩
    refine ⟨b', b'.ipLen, ?_, (tcpReply_iff hlen hle hb').2 hcheck⟩
    rw [tcpReplyEditLen, hb', Option.map_some]

/-- The edits before the TCP checksum stay within the header and away from its length and
its protocol. -/
theorem setIpSum_set32_of_outside {k : ℕ} (hk : k < 10 ∨ 20 ≤ k) :
    (b.set32 16 addr).setIpSum k = b k := by
  rw [setIpSum_of_outside (by omega), set32_of_outside (by omega)]

/-- The checksum of a segment whose length fits. -/
theorem segmentVerifies_of_short (hle : b.iIpHeaderLen + 20 ≤ b.ipLen)
    (hshort : b.ipLen ≤ b.iIpHeaderLen + 32755) :
    SegmentVerifies saddr daddr b.ipP
      (((b.set32 16 addr).setIpSum.setTcpCheck saddr daddr (b.ipLen - b.iIpHeaderLen)).bytes
        b.iIpHeaderLen (b.ipLen - b.iIpHeaderLen)) := by
  have hhdr : (b.set32 16 addr).setIpSum.iIpHeaderLen = b.iIpHeaderLen :=
    iIpHeaderLen_congr (setIpSum_set32_of_outside (by omega))
  have hp : (b.set32 16 addr).setIpSum.ipP = b.ipP := setIpSum_set32_of_outside (by omega)
  have hverifies : SegmentVerifies saddr daddr (b.set32 16 addr).setIpSum.ipP
      (((b.set32 16 addr).setIpSum.setTcpCheck saddr daddr (b.ipLen - b.iIpHeaderLen)).bytes
        (b.set32 16 addr).setIpSum.iIpHeaderLen (b.ipLen - b.iIpHeaderLen)) :=
    segmentVerifies_setTcpCheck (by omega) (by omega)
  rwa [hhdr, hp] at hverifies

/-- What stands in the place of a segment that is too long for the checksum. -/
theorem bytes_of_long (hlen : 20 ≤ b.iIpHeaderLen) (hlong : b.iIpHeaderLen + 32755 < b.ipLen)
    (hshort : b.ipLen ≤ b.iIpHeaderLen + 32767) :
    ((b.set32 16 addr).setIpSum.setTcpCheck saddr daddr (b.ipLen - b.iIpHeaderLen)).bytes
        b.iIpHeaderLen (b.ipLen - b.iIpHeaderLen) =
      (b.set16 (b.iIpHeaderLen + 16) 0xFFFF).bytes b.iIpHeaderLen
        (b.ipLen - b.iIpHeaderLen) := by
  have hhdr : (b.set32 16 addr).setIpSum.iIpHeaderLen = b.iIpHeaderLen :=
    iIpHeaderLen_congr (setIpSum_set32_of_outside (by omega))
  rw [setTcpCheck_of_long (by omega) (by omega), hhdr]
  exact bytes_congr fun k hk _ => set16_congr fun _ => setIpSum_set32_of_outside (by omega)

/-- `tcpReply_Edit` does what it should exactly for segments of at most 32755 bytes, and
for those of at most 32767 whose checksum happens to be `0xFFFF`. -/
theorem tcpReplyEdit_valid_iff (hlen : 20 ≤ b.iIpHeaderLen)
    (hle : b.iIpHeaderLen + 20 ≤ b.ipLen) (oriSrcAddr : UInt32) :
    (∃ b' ret, b.tcpReplyEditLen oriSrcAddr = some (b', ret) ∧
        b.TcpReply oriSrcAddr b' ret) ↔
      b.ipLen ≤ b.iIpHeaderLen + 32755 ∨ b.ipLen ≤ b.iIpHeaderLen + 32767 ∧
        SegmentVerifies b.ipSrc oriSrcAddr b.ipP
          ((b.set16 (b.iIpHeaderLen + 16) 0xFFFF).bytes b.iIpHeaderLen
            (b.ipLen - b.iIpHeaderLen)) := by
  rw [exists_tcpReply_iff hlen (by omega)]
  by_cases hlt : b.ipLen < b.iIpHeaderLen + 32768
  · rw [tcpReplyEdit_eq (by omega) hlt]
    simp only [Option.some.injEq, exists_eq_left']
    by_cases hshort : b.ipLen ≤ b.iIpHeaderLen + 32755
    · exact iff_of_true (segmentVerifies_of_short hle hshort) (Or.inl hshort)
    · have hword : b.ipLen ≤ b.iIpHeaderLen + 32767 := by omega
      rw [bytes_of_long hlen (by omega) hword, or_iff_right hshort, and_iff_right hword]
  · constructor
    · rintro ⟨b', hb', -⟩
      exact absurd ((exists_tcpReplyEdit_iff oriSrcAddr (by omega)).1 ⟨b', hb'⟩) hlt
    · intro hcond
      omega

theorem tcpReplyEdit_valid_sample : ∃ b' ret,
    sampleSegment.tcpReplyEditLen 0x0F02000A = some (b', ret) ∧
      sampleSegment.TcpReply 0x0F02000A b' ret :=
  (tcpReplyEdit_valid_iff (by decide) (by decide) 0x0F02000A).2 (Or.inl (by decide))

/-- A TCP packet of 32788 bytes, and a segment of 32768. -/
def longSegment : Buffer := ofList [0x45, 0, 0x80, 0x14, 0, 0, 0, 0, 64, 6]

theorem not_tcpReplyEdit_valid_long : longSegment.ipP = 6 ∧ longSegment.iIpHeaderLen = 20 ∧
    longSegment.ipLen = 32788 ∧ ¬ ∃ b' ret,
      longSegment.tcpReplyEditLen 0x0F02000A = some (b', ret) ∧
        longSegment.TcpReply 0x0F02000A b' ret := by
  refine ⟨by decide, by decide, by decide, ?_⟩
  rintro ⟨b', ret, hedit, -⟩
  obtain ⟨b₁, hb₁, -⟩ := Option.map_eq_some_iff.1 hedit
  have hlt := (exists_tcpReplyEdit_iff (b := longSegment) 0x0F02000A (by decide)).1 ⟨b₁, hb₁⟩
  revert hlt
  decide

end Buffer
