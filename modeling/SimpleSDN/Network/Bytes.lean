import Mathlib.Data.List.GetD
import Mathlib.Data.UInt

/-!
# Bytes in memory

A `Buffer` is the memory from the start of an array on, and reading it past the end
of the array reads whatever is there. Words are loaded and stored in the byte order
of a little-endian host. All stores are stores of a list of bytes (`store`), so one
lemma says what a store leaves alone.
-/

/-- The bytes from the start of an array on. -/
abbrev Buffer := ℕ → UInt8

namespace Buffer

/-- `memset(buffer, 0, n)`. -/
def zero : Buffer := fun _ => 0

/-- The `n` bytes from `i` on. -/
def bytes (b : Buffer) (i n : ℕ) : List UInt8 := (List.range n).map fun k => b (i + k)

/-- The bytes `l` are written from `i` on. -/
def store (b : Buffer) (i : ℕ) (l : List UInt8) : Buffer :=
  fun k => if i ≤ k ∧ k < i + l.length then l.getD (k - i) 0 else b k

/-- A load of 16 bits. -/
def get16 (b : Buffer) (i : ℕ) : UInt16 := UInt16.ofNat ((b i).toNat + 256 * (b (i + 1)).toNat)

/-- A load of 32 bits. -/
def get32 (b : Buffer) (i : ℕ) : UInt32 :=
  UInt32.ofNat ((b i).toNat + 256 * (b (i + 1)).toNat + 65536 * (b (i + 2)).toNat +
    16777216 * (b (i + 3)).toNat)

/-- The bytes of a word of 16 bits, the lowest first. -/
def bytes16 (v : UInt16) : List UInt8 := [UInt8.ofNat v.toNat, UInt8.ofNat (v.toNat / 256)]

/-- The bytes of a word of 32 bits, the lowest first. -/
def bytes32 (v : UInt32) : List UInt8 :=
  [UInt8.ofNat v.toNat, UInt8.ofNat (v.toNat / 256), UInt8.ofNat (v.toNat / 65536),
    UInt8.ofNat (v.toNat / 16777216)]

def set8 (b : Buffer) (i : ℕ) (v : UInt8) : Buffer := b.store i [v]

def set16 (b : Buffer) (i : ℕ) (v : UInt16) : Buffer := b.store i (bytes16 v)

def set32 (b : Buffer) (i : ℕ) (v : UInt32) : Buffer := b.store i (bytes32 v)

/-- `memcpy(b + i, src + j, n)`. -/
def copy (b : Buffer) (i : ℕ) (src : Buffer) (j n : ℕ) : Buffer := b.store i (src.bytes j n)

/-- An array that holds `l`. -/
def ofList (l : List UInt8) : Buffer := zero.store 0 l

@[simp] theorem length_bytes (b : Buffer) (i n : ℕ) : (b.bytes i n).length = n := by
  simp [bytes]

theorem getElem?_bytes (b : Buffer) (i n k : ℕ) :
    (b.bytes i n)[k]? = if k < n then some (b (i + k)) else none := by
  split_ifs with hk
  · simp [bytes, hk]
  · simp [bytes, hk]

theorem bytes_congr {b b' : Buffer} {i n : ℕ} (h : ∀ k, i ≤ k → k < i + n → b k = b' k) :
    b.bytes i n = b'.bytes i n := by
  refine List.map_congr_left fun k hk => ?_
  rw [List.mem_range] at hk
  exact h (i + k) (by omega) (by omega)

/-- A store leaves the bytes outside of its range alone. -/
theorem store_of_outside {b : Buffer} {i k : ℕ} {l : List UInt8} (h : k < i ∨ i + l.length ≤ k) :
    b.store i l k = b k := by
  have hnot : ¬ (i ≤ k ∧ k < i + l.length) := by omega
  rw [store, if_neg hnot]

theorem store_of_lt {b : Buffer} {i k : ℕ} {l : List UInt8} (h : k < l.length) :
    b.store i l (i + k) = l[k] := by
  have hin : i ≤ i + k ∧ i + k < i + l.length := by omega
  rw [store, if_pos hin, Nat.add_sub_cancel_left, List.getD_eq_getElem _ _ h]

theorem store_store {b : Buffer} {i : ℕ} {l l' : List UInt8} (h : l.length = l'.length) :
    (b.store i l).store i l' = b.store i l' := by
  funext k
  by_cases hk : k < i ∨ i + l'.length ≤ k
  · rw [store_of_outside hk, store_of_outside hk, store_of_outside (h.symm ▸ hk)]
  · have hin : i ≤ k ∧ k < i + l'.length := by omega
    rw [store, if_pos hin, store, if_pos hin]

/-- A list is stored part by part. -/
theorem store_append (b : Buffer) (i : ℕ) (l l' : List UInt8) :
    b.store i (l ++ l') = (b.store i l).store (i + l.length) l' := by
  funext k
  by_cases hleft : i ≤ k ∧ k < i + l.length
  · obtain ⟨j, rfl⟩ := Nat.exists_eq_add_of_le hleft.1
    have hj : j < l.length := by omega
    have hj' : j < (l ++ l').length := by simp only [List.length_append]; omega
    rw [store_of_lt hj', List.getElem_append_left hj, store_of_outside (by omega), store_of_lt hj]
  · by_cases hright : i + l.length ≤ k ∧ k < i + l.length + l'.length
    · obtain ⟨j, rfl⟩ := Nat.exists_eq_add_of_le hright.1
      have hj : j < l'.length := by omega
      have hj' : l.length + j < (l ++ l').length := by simp only [List.length_append]; omega
      rw [store_of_lt hj, Nat.add_assoc, store_of_lt hj', List.getElem_append_right (by omega)]
      congr 1
      omega
    · rw [store_of_outside (by simp only [List.length_append]; omega),
        store_of_outside (by omega), store_of_outside (by omega)]

@[simp] theorem length_bytes16 (v : UInt16) : (bytes16 v).length = 2 := rfl

@[simp] theorem length_bytes32 (v : UInt32) : (bytes32 v).length = 4 := rfl

theorem get16_toNat (b : Buffer) (i : ℕ) :
    (b.get16 i).toNat = (b i).toNat + 256 * (b (i + 1)).toNat := by
  have h := (b i).toNat_lt
  have h' := (b (i + 1)).toNat_lt
  rw [get16, UInt16.toNat_ofNat']
  omega

theorem get32_toNat (b : Buffer) (i : ℕ) :
    (b.get32 i).toNat = (b i).toNat + 256 * (b (i + 1)).toNat + 65536 * (b (i + 2)).toNat +
      16777216 * (b (i + 3)).toNat := by
  have h := (b i).toNat_lt
  have h1 := (b (i + 1)).toNat_lt
  have h2 := (b (i + 2)).toNat_lt
  have h3 := (b (i + 3)).toNat_lt
  rw [get32, UInt32.toNat_ofNat']
  omega

theorem get16_congr {b b' : Buffer} {i : ℕ} (h : b i = b' i) (h1 : b (i + 1) = b' (i + 1)) :
    b.get16 i = b'.get16 i := by
  rw [get16, get16, h, h1]

theorem get32_congr {b b' : Buffer} {i : ℕ} (h : ∀ k, k < 4 → b (i + k) = b' (i + k)) :
    b.get32 i = b'.get32 i := by
  rw [get32, get32, h 1 (by omega), h 2 (by omega), h 3 (by omega)]
  exact congrArg (fun x : UInt8 => UInt32.ofNat (x.toNat + _ + _ + _)) (h 0 (by omega))

theorem get16_of_bytes {b : Buffer} {i : ℕ} {v : UInt16} (h : b i = UInt8.ofNat v.toNat)
    (h1 : b (i + 1) = UInt8.ofNat (v.toNat / 256)) : b.get16 i = v := by
  have hv := v.toNat_lt
  refine UInt16.toNat_inj.1 ?_
  rw [get16_toNat, h, h1, UInt8.toNat_ofNat', UInt8.toNat_ofNat']
  omega

theorem get32_of_bytes {b : Buffer} {i : ℕ} {v : UInt32} (h : b i = UInt8.ofNat v.toNat)
    (h1 : b (i + 1) = UInt8.ofNat (v.toNat / 256))
    (h2 : b (i + 2) = UInt8.ofNat (v.toNat / 65536))
    (h3 : b (i + 3) = UInt8.ofNat (v.toNat / 16777216)) : b.get32 i = v := by
  have hv := v.toNat_lt
  refine UInt32.toNat_inj.1 ?_
  rw [get32_toNat, h, h1, h2, h3]
  simp only [UInt8.toNat_ofNat']
  omega

@[simp] theorem get16_set16 (b : Buffer) (i : ℕ) (v : UInt16) : (b.set16 i v).get16 i = v := by
  apply get16_of_bytes
  · exact store_of_lt (l := bytes16 v) (k := 0) (by simp)
  · exact store_of_lt (l := bytes16 v) (k := 1) (by simp)

@[simp] theorem get32_set32 (b : Buffer) (i : ℕ) (v : UInt32) : (b.set32 i v).get32 i = v := by
  apply get32_of_bytes
  · exact store_of_lt (l := bytes32 v) (k := 0) (by simp)
  · exact store_of_lt (l := bytes32 v) (k := 1) (by simp)
  · exact store_of_lt (l := bytes32 v) (k := 2) (by simp)
  · exact store_of_lt (l := bytes32 v) (k := 3) (by simp)

theorem set8_of_ne {b : Buffer} {i k : ℕ} {v : UInt8} (h : k ≠ i) : b.set8 i v k = b k :=
  store_of_outside (by simp only [List.length_singleton]; omega)

@[simp] theorem set8_self (b : Buffer) (i : ℕ) (v : UInt8) : b.set8 i v i = v :=
  store_of_lt (l := [v]) (k := 0) (by simp)

theorem set16_of_outside {b : Buffer} {i k : ℕ} {v : UInt16} (h : k < i ∨ i + 2 ≤ k) :
    b.set16 i v k = b k :=
  store_of_outside h

/-- A word that is stored is the same in any memory. -/
theorem set16_congr {b b' : Buffer} {i k : ℕ} {v : UInt16}
    (h : k < i ∨ i + 2 ≤ k → b k = b' k) : b.set16 i v k = b'.set16 i v k := by
  by_cases hk : k < i ∨ i + 2 ≤ k
  · rw [set16_of_outside hk, set16_of_outside hk, h hk]
  · obtain ⟨r, rfl⟩ := Nat.exists_eq_add_of_le (show i ≤ k by omega)
    have hr : r < (bytes16 v).length := by rw [length_bytes16]; omega
    exact (store_of_lt hr).trans (store_of_lt hr).symm

theorem set16_set16 (b : Buffer) (i : ℕ) (v w : UInt16) :
    (b.set16 i v).set16 i w = b.set16 i w :=
  store_store rfl

theorem set32_of_outside {b : Buffer} {i k : ℕ} {v : UInt32} (h : k < i ∨ i + 4 ≤ k) :
    b.set32 i v k = b k :=
  store_of_outside h

/-- A byte of a copy. -/
theorem copy_add {b src : Buffer} {i j n k : ℕ} (h : k < n) :
    b.copy i src j n (i + k) = src (j + k) := by
  have hk : k < (src.bytes j n).length := by rwa [length_bytes]
  have hget := getElem?_bytes src j n k
  rw [if_pos h, List.getElem?_eq_getElem hk, Option.some_inj] at hget
  exact (store_of_lt hk).trans hget

theorem copy_of_outside {b src : Buffer} {i j n k : ℕ} (h : k < i ∨ i + n ≤ k) :
    b.copy i src j n k = b k :=
  store_of_outside (by rwa [length_bytes])

/-- A word that is stored in a copy might have been stored in the original. -/
theorem copy_set16 {b src : Buffer} {i j n k : ℕ} (v : UInt16) (h : k + 2 ≤ n) :
    (b.copy i src j n).set16 (i + k) v = b.copy i (src.set16 (j + k) v) j n := by
  funext p
  by_cases hout : p < i ∨ i + n ≤ p
  · rw [set16_of_outside (by omega), copy_of_outside hout, copy_of_outside hout]
  · obtain ⟨q, rfl⟩ := Nat.exists_eq_add_of_le (show i ≤ p by omega)
    rw [copy_add (by omega)]
    by_cases hword : q < k ∨ k + 2 ≤ q
    · rw [set16_of_outside (by omega), set16_of_outside (by omega), copy_add (by omega)]
    · obtain ⟨r, rfl⟩ := Nat.exists_eq_add_of_le (show k ≤ q by omega)
      have hr : r < (bytes16 v).length := by rw [length_bytes16]; omega
      rw [← Nat.add_assoc, ← Nat.add_assoc]
      exact (store_of_lt hr).trans (store_of_lt hr).symm

/-- A list in an array. -/
theorem ofList_of_lt {l : List UInt8} {k : ℕ} (h : k < l.length) : ofList l k = l[k] := by
  have hk : ofList l (0 + k) = l[k] := store_of_lt h
  rwa [Nat.zero_add] at hk

theorem ofList_of_le {l : List UInt8} {k : ℕ} (h : l.length ≤ k) : ofList l k = 0 :=
  store_of_outside (Or.inr (by omega))

/-- A prefix of the list, in the same array. -/
theorem ofList_take {l : List UInt8} {n k : ℕ} (hk : k < n) : ofList (l.take n) k = ofList l k := by
  by_cases hlt : k < l.length
  · have hlt' : k < (l.take n).length := by
      rw [List.length_take]
      omega
    rw [ofList_of_lt hlt', ofList_of_lt hlt, List.getElem_take]
  · have hle : (l.take n).length ≤ k := by
      rw [List.length_take]
      omega
    rw [ofList_of_le hle, ofList_of_le (not_lt.1 hlt)]

theorem ofList_take_bytes {b : Buffer} {n m k : ℕ} (hk : k < n) (hn : n ≤ m) :
    ofList ((b.bytes 0 m).take n) k = b k := by
  have hget : ((b.bytes 0 m).take n)[k]? = some (b k) := by
    rw [List.getElem?_take_of_lt hk, getElem?_bytes, if_pos (by omega), Nat.zero_add]
  obtain ⟨hlt, hget⟩ := List.getElem?_eq_some_iff.1 hget
  exact (ofList_of_lt hlt).trans hget

/-- What is sent of an array is read back. -/
theorem ofList_bytes {b : Buffer} {n k : ℕ} (hk : k < n) : ofList (b.bytes 0 n) k = b k := by
  have hget : ofList ((b.bytes 0 n).take n) k = b k := ofList_take_bytes hk le_rfl
  rwa [List.take_of_length_le (by rw [length_bytes])] at hget

end Buffer
