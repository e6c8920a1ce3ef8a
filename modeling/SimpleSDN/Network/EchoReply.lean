import SimpleSDN.Network.Header

/-!
# Echo replies

`EchoReply b r` says of the memory of two packets that `r` is the reply to the echo
request `b`: the addresses are exchanged, the type is that of a reply, both checksums
verify and every other byte of the packet is that of the request. `icmpReply_Edit`
turns a request into its reply.
-/

namespace Buffer

/-- The packet `r` is the reply to the echo request `b`. -/
structure EchoReply (b r : Buffer) : Prop where
  icmpType : r b.iIpHeaderLen = 0
  ipSrc : r.ipSrc = b.ipDst
  ipDst : r.ipDst = b.ipSrc
  ipSum : Verifies r 0 b.iIpHeaderLen
  icmpCksum : Verifies r b.iIpHeaderLen (b.ipLen - b.iIpHeaderLen)
  other : ∀ k, k < b.ipLen → k < 10 ∨ 20 ≤ k → k ≠ b.iIpHeaderLen → k ≠ b.iIpHeaderLen + 2 →
    k ≠ b.iIpHeaderLen + 3 → r k = b k

variable {b b' r r' : Buffer}

/-- Only the bytes of the packets count. -/
theorem EchoReply.congr (h : b.EchoReply r) (hlen : 20 ≤ b.iIpHeaderLen)
    (hle : b.iIpHeaderLen < b.ipLen) (hb : ∀ k, k < b.ipLen → b' k = b k)
    (hr : ∀ k, k < b.ipLen → r' k = r k) : b'.EchoReply r' := by
  have hhdr : b'.iIpHeaderLen = b.iIpHeaderLen := iIpHeaderLen_congr (hb 0 (by omega))
  have htot : b'.ipLen = b.ipLen := ipLen_congr (hb 2 (by omega)) (hb 3 (by omega))
  have hget32 : ∀ {x y : Buffer} (i : ℕ), i + 4 ≤ b.ipLen → (∀ k, k < b.ipLen → x k = y k) →
      x.get32 i = y.get32 i :=
    fun i hi hxy => get32_congr fun k hk => hxy (i + k) (by omega)
  constructor
  · rw [hhdr, hr _ hle]
    exact h.icmpType
  · exact (hget32 12 (by omega) hr).trans (h.ipSrc.trans (hget32 16 (by omega) hb).symm)
  · exact (hget32 16 (by omega) hr).trans (h.ipDst.trans (hget32 12 (by omega) hb).symm)
  · rw [hhdr]
    exact (verifies_congr fun k _ hk => hr k (by omega)).2 h.ipSum
  · rw [hhdr, htot]
    exact (verifies_congr fun k _ hk => hr k (by omega)).2 h.icmpCksum
  · intro k hk
    rw [htot] at hk
    rw [hhdr, hr k hk, hb k hk]
    exact h.other k hk

section Edit

variable (hp : b.ipP = 1) (hlen : 20 ≤ b.iIpHeaderLen)

include hp hlen

/-- The bytes that `icmpReply_Edit` does not touch. -/
theorem icmpReplyEdit_of_outside {k : ℕ} (hk : k < 10 ∨ 20 ≤ k) (htype : k ≠ b.iIpHeaderLen)
    (hsum : k < b.iIpHeaderLen + 2 ∨ b.iIpHeaderLen + 4 ≤ k) : b.icmpReplyEdit k = b k := by
  have hhdr : (b.set8 b.iIpHeaderLen 0).iIpHeaderLen = b.iIpHeaderLen :=
    iIpHeaderLen_congr (set8_of_ne (by omega))
  rw [icmpReplyEdit_of_icmp hp, setIpSum_of_outside (by omega), set32_of_outside (by omega),
    set32_of_outside (by omega), setIcmpCksum_of_outside (by rw [hhdr]; exact hsum),
    set8_of_ne htype]

omit hlen in
/-- Behind the header only the ICMP part is edited. -/
theorem icmpReplyEdit_of_le {k : ℕ} (hk : 20 ≤ k) :
    b.icmpReplyEdit k = (b.set8 b.iIpHeaderLen 0).setIcmpCksum k := by
  rw [icmpReplyEdit_of_icmp hp, setIpSum_of_outside (by omega), set32_of_outside (by omega),
    set32_of_outside (by omega)]

/-- `icmpReply_Edit` makes the reply to a request if the new checksum of the ICMP part
verifies. -/
theorem echoReply_icmpReplyEdit_iff : b.EchoReply b.icmpReplyEdit ↔
    Verifies (b.set8 b.iIpHeaderLen 0).setIcmpCksum b.iIpHeaderLen
      (b.ipLen - b.iIpHeaderLen) := by
  have hverifies : Verifies b.icmpReplyEdit b.iIpHeaderLen (b.ipLen - b.iIpHeaderLen) ↔
      Verifies (b.set8 b.iIpHeaderLen 0).setIcmpCksum b.iIpHeaderLen
        (b.ipLen - b.iIpHeaderLen) :=
    verifies_congr fun k hk _ => icmpReplyEdit_of_le hp (hlen.trans hk)
  refine ⟨fun h => hverifies.1 h.icmpCksum, fun hsum => ?_⟩
  generalize hb₁ : b.set8 b.iIpHeaderLen 0 = b₁
  have hne : ∀ k, k ≠ b.iIpHeaderLen → b₁ k = b k := fun k hk => hb₁ ▸ set8_of_ne hk
  have hhdr : b₁.iIpHeaderLen = b.iIpHeaderLen := iIpHeaderLen_congr (hne 0 (by omega))
  -- the edit of the ICMP part, and then that of the header
  have hicmp : ∀ k, k < 20 → b₁.setIcmpCksum k = b k := fun k hk =>
    (setIcmpCksum_of_outside (Or.inl (by omega))).trans (hne k (by omega))
  have hedit : b.icmpReplyEdit =
      ((b₁.setIcmpCksum.set32 16 b.ipSrc).set32 12 b.ipDst).setIpSum := by
    have hsrc : b₁.setIcmpCksum.ipSrc = b.ipSrc :=
      get32_congr fun k hk => hicmp (12 + k) (by omega)
    have hdst : b₁.setIcmpCksum.ipDst = b.ipDst :=
      get32_congr fun k hk => hicmp (16 + k) (by omega)
    rw [icmpReplyEdit_of_icmp hp, hb₁, hsrc, hdst]
  constructor
  · rw [icmpReplyEdit_of_le hp hlen, hb₁, setIcmpCksum_of_outside (by omega), ← hb₁,
      set8_self]
  · rw [hedit, ipSrc, get32_congr fun k hk => setIpSum_of_outside (by omega), get32_set32]
  · rw [hedit, ipDst, get32_congr fun k hk => setIpSum_of_outside (by omega),
      get32_congr fun k hk => set32_of_outside (by omega), get32_set32]
  · have hhdr' : ((b₁.setIcmpCksum.set32 16 b.ipSrc).set32 12 b.ipDst).iIpHeaderLen =
        b.iIpHeaderLen := by
      refine iIpHeaderLen_congr ?_
      rw [set32_of_outside (by omega), set32_of_outside (by omega), hicmp 0 (by omega)]
    rw [hedit, ← hhdr']
    exact verifies_setIpSum (hhdr'.symm ▸ hlen)
  · exact hverifies.2 hsum
  · intro k _ hk htype hsum hsum'
    exact icmpReplyEdit_of_outside hp hlen hk htype (by omega)

/-- `icmpReply_Edit` makes the reply to a request. -/
theorem echoReply_icmpReplyEdit (hle : b.iIpHeaderLen + 4 ≤ b.ipLen)
    (hlt : b.ipLen < b.iIpHeaderLen + 32768) : b.EchoReply b.icmpReplyEdit := by
  generalize hb₁ : b.set8 b.iIpHeaderLen 0 = b₁
  have hne : ∀ k, k ≠ b.iIpHeaderLen → b₁ k = b k := fun k hk => hb₁ ▸ set8_of_ne hk
  have hhdr : b₁.iIpHeaderLen = b.iIpHeaderLen := iIpHeaderLen_congr (hne 0 (by omega))
  have htot : b₁.ipLen = b.ipLen := ipLen_congr (hne 2 (by omega)) (hne 3 (by omega))
  rw [echoReply_icmpReplyEdit_iff hp hlen, hb₁, ← hhdr, ← htot]
  exact verifies_setIcmpCksum (by omega) (by omega) (by omega)

/-- The same for a request whose ICMP part is too long for its length to be kept. -/
theorem echoReply_icmpReplyEdit_of_long (hlong : b.iIpHeaderLen + 32768 ≤ b.ipLen) :
    b.EchoReply b.icmpReplyEdit ↔
      Verifies ((b.set8 b.iIpHeaderLen 0).set16 (b.iIpHeaderLen + 2) 0xFFFF) b.iIpHeaderLen
        (b.ipLen - b.iIpHeaderLen) := by
  generalize hb₁ : b.set8 b.iIpHeaderLen 0 = b₁
  have hne : ∀ k, k ≠ b.iIpHeaderLen → b₁ k = b k := fun k hk => hb₁ ▸ set8_of_ne hk
  have hhdr : b₁.iIpHeaderLen = b.iIpHeaderLen := iIpHeaderLen_congr (hne 0 (by omega))
  have hfirst : ∀ k, k < 4 → b₁.set16 (b.iIpHeaderLen + 2) 0 k = b k := fun k hk =>
    (set16_of_outside (Or.inl (by omega))).trans (hne k (by omega))
  have hset : b₁.setIcmpCksum = b₁.set16 (b.iIpHeaderLen + 2) 0xFFFF := by
    unfold setIcmpCksum
    dsimp only
    rw [hhdr, iTotLen_congr hfirst, checksum_of_nonpos (iTotLen_neg (Or.inr hlong)).le, set16_set16]
  rw [echoReply_icmpReplyEdit_iff hp hlen, hb₁, hset]

/-- The reply to an ICMP packet that fits in the buffer, of an odd length as well as of an
even one: nothing else in the buffer is changed. -/
theorem icmpReplyEdit_valid (hle : b.iIpHeaderLen + 8 ≤ b.ipLen) (hsize : b.ipLen ≤ 2048) :
    b.EchoReply b.icmpReplyEdit ∧
      ∀ k, k < 10 ∨ 20 ≤ k → k ≠ b.iIpHeaderLen → k ≠ b.iIpHeaderLen + 2 →
        k ≠ b.iIpHeaderLen + 3 → b.icmpReplyEdit k = b k := by
  constructor
  · exact echoReply_icmpReplyEdit hp hlen (by omega) (by omega)
  · intro k hk htype hsum hsum'
    exact icmpReplyEdit_of_outside hp hlen hk htype (by omega)

end Edit

/-- A request with one byte of data. -/
def sampleRequest : Buffer :=
  ofList [0x45, 0, 0, 29, 0, 0, 0, 0, 64, 1, 0, 0, 10, 0, 2, 15, 10, 5, 51, 4,
    8, 0, 0, 0, 0, 1, 0, 1, 97]

theorem icmpReplyEdit_valid_sample :
    sampleRequest.EchoReply sampleRequest.icmpReplyEdit ∧
      ∀ k, k < 10 ∨ 20 ≤ k → k ≠ sampleRequest.iIpHeaderLen →
        k ≠ sampleRequest.iIpHeaderLen + 2 → k ≠ sampleRequest.iIpHeaderLen + 3 →
          sampleRequest.icmpReplyEdit k = sampleRequest k :=
  icmpReplyEdit_valid (by decide) (by decide) (by decide) (by decide)

end Buffer
