import SimpleSDN.Network.Header

/-!
# Control messages in a buffer

A control message is 20 bytes in memory, the fields one after the other in the byte
order of the host (`OctaneControl.bytes`, read back by `octaneAt`). `octaneUnpack`
and `octaneReply_Edit` look for the message in a packet each in its own way, and
agree unless the header length field is 0 (`octaneUnpack_octaneReplyEdit_iff`).
`octaneUnpack` copies as many bytes as the header says, and checks neither that they
are there nor that a message has room for them (`copyBounded_iff`).
-/

namespace OctaneControl

/-- The message in memory. -/
def bytes (m : OctaneControl) : List UInt8 :=
  [m.octaneAction, m.octaneFlags] ++ Buffer.bytes16 m.octaneSeqno ++
    Buffer.bytes32 m.octaneSourceIp ++ Buffer.bytes32 m.octaneDestIp ++
    Buffer.bytes16 m.octaneSourcePort ++ Buffer.bytes16 m.octaneDestPort ++
    Buffer.bytes16 m.octaneProtocol ++ Buffer.bytes16 m.octanePort

@[simp] theorem length_bytes (m : OctaneControl) : m.bytes.length = 20 := rfl

end OctaneControl

namespace Buffer

/-- `octaneUnpack` into the message in `octMsg`, of which a shorter copy leaves a part
as it was. A longer or negative length is written past the message. -/
def octaneUnpackInto (octMsg buffer : Buffer) : Option OctaneControl :=
  if 0 ≤ buffer.iOctaneTotLen ∧ buffer.iOctaneTotLen ≤ 20 then
    some ((octMsg.copy 0 buffer buffer.pOctane buffer.iOctaneTotLen.toNat).octaneAt 0)
  else none

/-- What `octaneUnpack` returns. -/
def octaneUnpackSeqno (buffer : Buffer) : ℤ := (buffer.octaneAt buffer.pOctane).octaneSeqno.toNat

variable {b b' : Buffer} {m : OctaneControl}

theorem octaneAt_congr {i j : ℕ} (h : ∀ k, k < 20 → b (i + k) = b' (j + k)) :
    b.octaneAt i = b'.octaneAt j := by
  have h16 : ∀ k, k + 1 < 20 → b.get16 (i + k) = b'.get16 (j + k) := by
    intro k hk
    rw [get16, get16, h k (by omega), Nat.add_assoc, Nat.add_assoc, h (k + 1) hk]
  have h32 : ∀ k, k + 3 < 20 → b.get32 (i + k) = b'.get32 (j + k) := by
    intro k hk
    rw [get32, get32, h k (by omega)]
    simp only [Nat.add_assoc]
    rw [h (k + 1) (by omega), h (k + 2) (by omega), h (k + 3) hk]
  unfold octaneAt
  rw [h16 2 (by omega), h32 4 (by omega), h32 8 (by omega), h16 12 (by omega), h16 14 (by omega),
    h16 16 (by omega), h16 18 (by omega), h 1 (by omega)]
  exact congrArg (fun x : UInt8 => OctaneControl.mk x _ _ _ _ _ _ _ _) (h 0 (by omega))

/-- A message is read back from its bytes. -/
theorem octaneAt_of_bytes {i : ℕ} (h : ∀ k (hk : k < m.bytes.length), b (i + k) = m.bytes[k]) :
    b.octaneAt i = m := by
  have h16 : ∀ k v, b (i + k) = UInt8.ofNat v.toNat →
      b (i + (k + 1)) = UInt8.ofNat (v.toNat / 256) → b.get16 (i + k) = v :=
    fun k v => get16_of_bytes
  have h32 : ∀ k v, b (i + k) = UInt8.ofNat v.toNat →
      b (i + (k + 1)) = UInt8.ofNat (v.toNat / 256) →
      b (i + (k + 2)) = UInt8.ofNat (v.toNat / 65536) →
      b (i + (k + 3)) = UInt8.ofNat (v.toNat / 16777216) → b.get32 (i + k) = v :=
    fun k v => get32_of_bytes
  have hlt : ∀ k, k < 20 → k < m.bytes.length := fun k hk => hk
  unfold octaneAt
  rw [h16 2 m.octaneSeqno (h 2 (hlt 2 (by omega))) (h 3 (hlt 3 (by omega))),
    h32 4 m.octaneSourceIp (h 4 (hlt 4 (by omega))) (h 5 (hlt 5 (by omega)))
      (h 6 (hlt 6 (by omega))) (h 7 (hlt 7 (by omega))),
    h32 8 m.octaneDestIp (h 8 (hlt 8 (by omega))) (h 9 (hlt 9 (by omega)))
      (h 10 (hlt 10 (by omega))) (h 11 (hlt 11 (by omega))),
    h16 12 m.octaneSourcePort (h 12 (hlt 12 (by omega))) (h 13 (hlt 13 (by omega))),
    h16 14 m.octaneDestPort (h 14 (hlt 14 (by omega))) (h 15 (hlt 15 (by omega))),
    h16 16 m.octaneProtocol (h 16 (hlt 16 (by omega))) (h 17 (hlt 17 (by omega))),
    h16 18 m.octanePort (h 18 (hlt 18 (by omega))) (h 19 (hlt 19 (by omega))),
    h 1 (hlt 1 (by omega))]
  exact congrArg (fun x : UInt8 => OctaneControl.mk x _ _ _ _ _ _ _ _) (h 0 (hlt 0 (by omega)))

theorem octaneUnpack_eq_some_iff :
    b.octaneUnpack = some m ↔ b.iOctaneTotLen = 20 ∧ b.octaneAt b.pOctane = m := by
  unfold octaneUnpack
  split_ifs with h
  · exact Option.some_inj.trans (iff_and_self.2 fun _ => h)
  · exact iff_of_false id fun h' => h h'.1

/-- A whole message leaves nothing of the old one. -/
theorem octaneUnpackInto_of_octaneUnpack (octMsg : Buffer) (h : b.octaneUnpack = some m) :
    octMsg.octaneUnpackInto b = some m := by
  obtain ⟨hlen, rfl⟩ := octaneUnpack_eq_some_iff.1 h
  unfold octaneUnpackInto
  rw [if_pos (by omega), hlen]
  exact congrArg some (octaneAt_congr fun k hk => copy_add hk)

/-! ### The copy -/

/-- The bytes that `octaneUnpack` copies fit in a message and come from the buffer. -/
structure CopyBounded (buffer : Buffer) (size : ℕ) : Prop where
  nonneg : 0 ≤ buffer.iOctaneTotLen
  le_message : buffer.iOctaneTotLen ≤ 20
  le_size : buffer.pOctane + buffer.iOctaneTotLen ≤ size

theorem get16_eq_zero_iff (b : Buffer) : b.get16 2 = 0 ↔ b.ipLen = 0 := by
  have hget : (b.get16 2).toNat = (b 2).toNat + 256 * (b 3).toNat := get16_toNat b 2
  have hlen := b.ipLen_eq
  rw [← UInt16.toNat_inj]
  change (b.get16 2).toNat = 0 ↔ _
  omega

theorem pOctane_le (b : Buffer) : b.pOctane ≤ 60 := by
  have hle := b.iIpHeaderLen_le
  unfold pOctane
  split_ifs
  · omega
  · exact hle

/-- The difference of the two lengths does not wrap around to a length of a message. -/
theorem iOctaneTotLen_le_iff (b : Buffer) :
    (0 ≤ b.iOctaneTotLen ∧ b.iOctaneTotLen ≤ 20) ↔
      b.ipLen = 0 ∨ (b.pOctane ≤ b.ipLen ∧ b.ipLen ≤ b.pOctane + 20) := by
  have hle := b.pOctane_le
  have hlt : b.ipLen < 65536 := (ntohs (b.get16 2)).toNat_lt
  unfold iOctaneTotLen
  split_ifs with hzero
  · rw [get16_eq_zero_iff] at hzero
    omega
  · rw [get16_eq_zero_iff] at hzero
    unfold toShort
    rw [Int.bmod_def]
    omega

/-- A copy from a buffer of the routers is bounded exactly when the length field is 0, or
says that behind the header there are no more bytes than a message has. -/
theorem copyBounded_iff (b : Buffer) :
    b.CopyBounded 2048 ↔
      b.ipLen = 0 ∨ (b.pOctane ≤ b.ipLen ∧ b.ipLen ≤ b.pOctane + 20) := by
  have hle := b.pOctane_le
  rw [← iOctaneTotLen_le_iff]
  exact ⟨fun h => ⟨h.nonneg, h.le_message⟩, fun h => ⟨h.1, h.2, by omega⟩⟩

/-- A packet of 41 bytes of the protocol of control messages writes past the message. -/
theorem not_copyBounded :
    (ofList [0x45, 0, 0, 41, 0, 0, 0, 0, 64, 253]).ipP = octaneProtocolNum ∧
      ¬ (ofList [0x45, 0, 0, 41, 0, 0, 0, 0, 64, 253]).CopyBounded 2048 :=
  ⟨rfl, fun h => absurd h.le_message (by decide)⟩

/-! ### The acknowledgement -/

theorem pOctane_congr (h : b 0 = b' 0) : b.pOctane = b'.pOctane := by
  rw [pOctane, pOctane, iIpHeaderLen_congr h]

/-- The length of the copy is computed from three bytes of the header. -/
theorem iOctaneTotLen_congr (h : b 0 = b' 0) (h2 : b 2 = b' 2) (h3 : b 3 = b' 3) :
    b.iOctaneTotLen = b'.iOctaneTotLen := by
  rw [iOctaneTotLen, iOctaneTotLen, get16_congr h2 h3, ipLen_congr h2 h3, pOctane_congr h]

/-- A store in the second byte of a message sets its flags. -/
theorem octaneAt_set8 (b : Buffer) (i : ℕ) (v : UInt8) :
    (b.set8 (i + 1) v).octaneAt i = { b.octaneAt i with octaneFlags := v } := by
  have h16 : ∀ k, 2 ≤ k → (b.set8 (i + 1) v).get16 (i + k) = b.get16 (i + k) :=
    fun k hk => get16_congr (set8_of_ne (by omega)) (set8_of_ne (by omega))
  have h32 : ∀ k, 2 ≤ k → (b.set8 (i + 1) v).get32 (i + k) = b.get32 (i + k) :=
    fun k hk => get32_congr fun j _ => set8_of_ne (by omega)
  unfold octaneAt
  rw [h16 2 (by omega), h32 4 (by omega), h32 8 (by omega), h16 12 (by omega), h16 14 (by omega),
    h16 16 (by omega), h16 18 (by omega), set8_self]
  exact congrArg (fun x : UInt8 => OctaneControl.mk x _ _ _ _ _ _ _ _) (set8_of_ne (by omega))

/-- The acknowledgement of a message is the message with the flag set, unless the header
length field is 0 and the flag was not set before: the edit then writes into the
header, and the decoder looks behind 20 bytes. -/
theorem octaneUnpack_octaneReplyEdit_iff (hp : b.ipP = octaneProtocolNum)
    (h : b.octaneUnpack = some m) :
    b.octaneReplyEdit.octaneUnpack = some { m with octaneFlags := 1 } ↔
      b.iIpHeaderLen ≠ 0 ∨ b 21 = 1 := by
  obtain ⟨hlen, rfl⟩ := octaneUnpack_eq_some_iff.1 h
  obtain ⟨q, hq⟩ : ∃ q, b.iIpHeaderLen = 4 * q := ⟨_, rfl⟩
  rw [octaneReplyEdit, if_neg (not_not_intro hp), octaneUnpack_eq_some_iff]
  -- the edited byte is not one of the length fields
  have hsame : ∀ k, k ≠ b.iIpHeaderLen + 1 → b.set8 (b.iIpHeaderLen + 1) 1 k = b k :=
    fun k hk => set8_of_ne hk
  rw [iOctaneTotLen_congr (hsame 0 (by omega)) (hsame 2 (by omega)) (hsame 3 (by omega)),
    pOctane_congr (hsame 0 (by omega)), and_iff_right hlen]
  by_cases hzero : b.iIpHeaderLen = 0
  · have hat : b.pOctane = 20 := if_pos hzero
    have hnot : (b.set8 (b.iIpHeaderLen + 1) 1).octaneAt 20 = b.octaneAt 20 :=
      octaneAt_congr fun k _ => hsame (20 + k) (by omega)
    rw [hat, hnot, or_iff_right (not_not_intro hzero)]
    exact ⟨fun h => congrArg OctaneControl.octaneFlags h, fun h => by rw [← h]; rfl⟩
  · have hat : b.pOctane = b.iIpHeaderLen := if_neg hzero
    rw [hat]
    exact iff_of_true (octaneAt_set8 _ _ _) (Or.inl hzero)

/-- A control message of action 2 in a header without options. -/
def sampleControl (headerByte : UInt8) : Buffer :=
  ofList [headerByte, 0, 0, 40, 0, 0, 0, 0, 64, 253, 0, 0, 127, 0, 0, 1, 127, 0, 0, 1,
    2, 0, 1, 0, 10, 0, 2, 15, 10, 5, 51, 4, 0x9C, 0x40, 0, 80, 6, 0, 0, 0]

theorem octaneUnpack_octaneReplyEdit_sample :
    (sampleControl 0x45).octaneReplyEdit.octaneUnpack =
      some ⟨2, 1, 1, 0x0F02000A, 0x0433050A, 0x409C, 0x5000, 6, 0⟩ :=
  (octaneUnpack_octaneReplyEdit_iff (b := sampleControl 0x45) rfl rfl).2 (Or.inl (by decide))

/-- In a header without a length the flag is set in the header. -/
theorem not_octaneUnpack_octaneReplyEdit :
    (sampleControl 0x40).ipP = octaneProtocolNum ∧ ∃ m, (sampleControl 0x40).octaneUnpack = some m ∧
      (sampleControl 0x40).octaneReplyEdit.octaneUnpack ≠ some { m with octaneFlags := 1 } :=
  ⟨rfl, _, rfl, by decide⟩

end Buffer
