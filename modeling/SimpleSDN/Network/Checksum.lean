import Mathlib.Data.Nat.ModEq
import SimpleSDN.Network.Bytes

/-!
# The Internet checksum

The checksum of a range of memory is the complement of the one's-complement sum of
its 16-bit words; a last odd byte counts as a word with a zero byte. `Verifies` says
that the sum, checksum included, is `0xFFFF`. Storing the checksum in a field that
held zero makes the range verify (`verifies_checksum`).
-/

/-- The inner loop: the words are added up, and the last byte if there is one. -/
def sumWords (b : Buffer) : ℕ → ℕ → ℕ
  | _, 0 => 0
  | addr, 1 => (b addr).toNat
  | addr, count + 2 => (b.get16 addr).toNat + sumWords b (addr + 2) count

/-- The carries are added in until 16 bits are left. -/
def foldSum (sum : ℕ) : ℕ :=
  if sum / 65536 = 0 then sum else foldSum (sum % 65536 + sum / 65536)
termination_by sum
decreasing_by omega

/-- `checksum`. -/
def checksum (b : Buffer) (addr : ℕ) (count : ℤ) : UInt16 :=
  ~~~ UInt16.ofNat (foldSum (sumWords b addr count.toNat))

/-- The one's-complement sum of the range is `0xFFFF`. -/
def Verifies (b : Buffer) (addr count : ℕ) : Prop := foldSum (sumWords b addr count) = 65535

theorem foldSum_lt (sum : ℕ) : foldSum sum < 65536 := by
  induction sum using foldSum.induct with
  | case1 sum h =>
      rw [foldSum, if_pos h]
      omega
  | case2 sum h ih =>
      rw [foldSum, if_neg h]
      exact ih

/-- Adding the carries in does not change the sum modulo 65535. -/
theorem foldSum_modEq (sum : ℕ) : foldSum sum ≡ sum [MOD 65535] := by
  induction sum using foldSum.induct with
  | case1 sum h => rw [foldSum, if_pos h]
  | case2 sum h ih =>
      rw [foldSum, if_neg h]
      refine ih.trans ?_
      unfold Nat.ModEq
      omega

theorem foldSum_of_lt {sum : ℕ} (h : sum < 65536) : foldSum sum = sum := by
  rw [foldSum, if_pos (by omega)]

theorem foldSum_pos {sum : ℕ} (h : 0 < sum) : 0 < foldSum sum := by
  induction sum using foldSum.induct with
  | case1 sum hsmall => rwa [foldSum, if_pos hsmall]
  | case2 sum hlarge ih =>
      rw [foldSum, if_neg hlarge]
      exact ih (by omega)

/-- A sum that is a positive multiple of 65535 folds to `0xFFFF`. -/
theorem foldSum_eq_iff {sum : ℕ} (h : 0 < sum) : foldSum sum = 65535 ↔ sum % 65535 = 0 := by
  have hlt := foldSum_lt sum
  have hpos := foldSum_pos h
  have hmod : foldSum sum % 65535 = sum % 65535 := foldSum_modEq sum
  omega

theorem sumWords_congr {b b' : Buffer} {addr count : ℕ}
    (h : ∀ k, addr ≤ k → k < addr + count → b k = b' k) :
    sumWords b addr count = sumWords b' addr count := by
  induction addr, count using sumWords.induct with
  | case1 => rfl
  | case2 addr =>
      rw [sumWords, sumWords, h addr (by omega) (by omega)]
  | case3 addr count ih =>
      have hword : b.get16 addr = b'.get16 addr :=
        Buffer.get16_congr (h addr (by omega) (by omega)) (h (addr + 1) (by omega) (by omega))
      rw [sumWords, sumWords, hword, ih fun k hk hk' => h k (by omega) (by omega)]

theorem verifies_congr {b b' : Buffer} {addr count : ℕ}
    (h : ∀ k, addr ≤ k → k < addr + count → b k = b' k) :
    Verifies b addr count ↔ Verifies b' addr count := by
  unfold Verifies
  rw [sumWords_congr h]

theorem checksum_of_nonpos {b : Buffer} {addr : ℕ} {count : ℤ} (h : count ≤ 0) :
    checksum b addr count = 0xFFFF := by
  rw [checksum, Int.toNat_of_nonpos h, sumWords, foldSum_of_lt (by omega)]
  decide

/-- A word of the range counts once. -/
theorem sumWords_set16 (b : Buffer) (addr count j : ℕ) (v : UInt16) (hj : 2 * j + 2 ≤ count) :
    sumWords (b.set16 (addr + 2 * j) v) addr count + (b.get16 (addr + 2 * j)).toNat =
      sumWords b addr count + v.toNat := by
  induction addr, count using sumWords.induct generalizing j with
  | case1 => omega
  | case2 => omega
  | case3 addr count ih =>
      rw [sumWords, sumWords]
      cases j with
      | zero =>
          have hrest : sumWords (b.set16 addr v) (addr + 2) count = sumWords b (addr + 2) count :=
            sumWords_congr fun k hk _ => Buffer.set16_of_outside (Or.inr hk)
          rw [Nat.mul_zero, Nat.add_zero, Buffer.get16_set16, hrest]
          omega
      | succ j =>
          have hword : (b.set16 (addr + 2 * (j + 1)) v).get16 addr = b.get16 addr :=
            Buffer.get16_congr (Buffer.set16_of_outside (by omega))
              (Buffer.set16_of_outside (by omega))
          have haddr : addr + 2 * (j + 1) = addr + 2 + 2 * j := by omega
          rw [hword, haddr]
          have := ih j (by omega)
          omega

theorem Verifies.sumWords_mod {b : Buffer} {addr count : ℕ} (h : Verifies b addr count) :
    sumWords b addr count % 65535 = 0 := by
  have hmod : foldSum (sumWords b addr count) % 65535 = sumWords b addr count % 65535 :=
    foldSum_modEq _
  have hfold : foldSum (sumWords b addr count) = 65535 := h
  omega

/-- Two ranges that verify do not differ in one word only, but for the two forms of zero. -/
theorem get16_modEq_of_verifies {b b' : Buffer} {addr count j : ℕ} (hj : 2 * j + 2 ≤ count)
    (hsame : ∀ k, k < addr + 2 * j ∨ addr + 2 * j + 2 ≤ k → b k = b' k)
    (hb : Verifies b addr count) (hb' : Verifies b' addr count) :
    (b.get16 (addr + 2 * j)).toNat ≡ (b'.get16 (addr + 2 * j)).toNat [MOD 65535] := by
  have hsum := sumWords_set16 b addr count j 0 hj
  have hsum' := sumWords_set16 b' addr count j 0 hj
  have hrest : b.set16 (addr + 2 * j) 0 = b'.set16 (addr + 2 * j) 0 :=
    funext fun k => Buffer.set16_congr (hsame k)
  have hmod := hb.sumWords_mod
  have hmod' := hb'.sumWords_mod
  rw [hrest] at hsum
  unfold Nat.ModEq
  omega

/-- A range that begins with a word other than zero has a positive sum. -/
theorem sumWords_pos {b : Buffer} {addr count : ℕ} (hcount : 2 ≤ count)
    (h : b.get16 addr ≠ 0) : 0 < sumWords b addr count := by
  obtain ⟨count, rfl⟩ := Nat.exists_eq_add_of_le' hcount
  have hword : (b.get16 addr).toNat ≠ 0 := fun h0 => h (UInt16.toNat_inj.1 h0)
  rw [sumWords]
  omega

/-- The sum of a range in which its checksum has taken the place of a word. -/
theorem sumWords_set_checksum (b : Buffer) (addr count j : ℕ) (hj : 2 * j + 2 ≤ count) :
    sumWords (b.set16 (addr + 2 * j) (checksum b addr count)) addr count +
        (b.get16 (addr + 2 * j)).toNat + foldSum (sumWords b addr count) =
      sumWords b addr count + 65535 := by
  have hlt := foldSum_lt (sumWords b addr count)
  have hsum := sumWords_set16 b addr count j (checksum b addr count) hj
  have hcomplement : (checksum b addr count).toNat = 65535 - foldSum (sumWords b addr count) := by
    rw [checksum, UInt16.toNat_not, UInt16.toNat_ofNat', Int.toNat_natCast, Nat.mod_eq_of_lt hlt]
    rfl
  omega

/-- Storing the checksum makes a range verify exactly when the word in whose place it
goes added nothing to the sum. -/
theorem verifies_checksum_iff {b : Buffer} {addr count j : ℕ} (hj : 2 * j + 2 ≤ count)
    (hpos : 0 < sumWords (b.set16 (addr + 2 * j) (checksum b addr count)) addr count) :
    Verifies (b.set16 (addr + 2 * j) (checksum b addr count)) addr count ↔
      b.get16 (addr + 2 * j) = 0 ∨ b.get16 (addr + 2 * j) = 0xFFFF := by
  have hsum := sumWords_set_checksum b addr count j hj
  have hmod : foldSum (sumWords b addr count) % 65535 = sumWords b addr count % 65535 :=
    foldSum_modEq _
  have hword := (b.get16 (addr + 2 * j)).toNat_lt
  have hzero : (0 : UInt16).toNat = 0 := rfl
  have hones : (0xFFFF : UInt16).toNat = 65535 := rfl
  unfold Verifies
  rw [foldSum_eq_iff hpos, ← UInt16.toNat_inj, ← UInt16.toNat_inj, hzero, hones]
  omega

/-- The checksum makes the range verify in whose field, at an even distance from the
start, it is stored in the place of zero. -/
theorem verifies_checksum {b : Buffer} {addr count j : ℕ} (hj : 2 * j + 2 ≤ count)
    (hzero : b.get16 (addr + 2 * j) = 0) :
    Verifies (b.set16 (addr + 2 * j) (checksum b addr count)) addr count := by
  have hsum := sumWords_set_checksum b addr count j hj
  have hlt := foldSum_lt (sumWords b addr count)
  have hsmall : sumWords b addr count < 65536 →
      foldSum (sumWords b addr count) = sumWords b addr count := foldSum_of_lt
  have hword : (b.get16 (addr + 2 * j)).toNat = 0 := congrArg UInt16.toNat hzero
  exact (verifies_checksum_iff hj (by omega)).2 (Or.inl hzero)
