import Mathlib.Tactic.IntervalCases
import SimpleSDN.Network.Packet

/-!
# Addresses in dotted-quad notation

An address and its dotted quad determine each other, and a mask acts octet by
octet. So the textual comparison of `packetDstCheck` is a test of the address:
with the full mask for one address, with the mask 255.255.255.0 for the
addresses of a network.
-/

theorem inetAddr_inetNtoa (addr : UInt32) : inetAddr (inetNtoa addr) = addr := by
  refine UInt32.toBitVec_inj.1 ?_
  simp only [inetAddr, inetNtoa, UInt32.toBitVec_or, UInt32.toBitVec_shiftLeft,
    UInt8.toBitVec_toUInt32, UInt32.toBitVec_toUInt8, UInt32.toBitVec_shiftRight]
  ext i hi
  interval_cases i <;> simp

theorem inetNtoa_inetAddr (q : Dotted) : inetNtoa (inetAddr q) = q := by
  obtain ⟨a, b, c, d⟩ := q
  simp only [inetAddr, inetNtoa, Dotted.mk.injEq, ← UInt8.toBitVec_inj, UInt32.toBitVec_or,
    UInt32.toBitVec_shiftLeft, UInt8.toBitVec_toUInt32, UInt32.toBitVec_toUInt8,
    UInt32.toBitVec_shiftRight]
  refine ⟨?_, ?_, ?_, ?_⟩
  all_goals
    ext i hi
    interval_cases i <;> simp

/-- The octets of a masked address. -/
theorem inetNtoa_and (x y : UInt32) :
    inetNtoa (x &&& y) = ⟨(inetNtoa x).a &&& (inetNtoa y).a, (inetNtoa x).b &&& (inetNtoa y).b,
      (inetNtoa x).c &&& (inetNtoa y).c, (inetNtoa x).d &&& (inetNtoa y).d⟩ := by
  simp only [inetNtoa, Dotted.mk.injEq, ← UInt8.toBitVec_inj, UInt32.toBitVec_toUInt8,
    UInt8.toBitVec_and, UInt32.toBitVec_shiftRight, UInt32.toBitVec_and]
  refine ⟨?_, ?_, ?_, ?_⟩
  all_goals
    ext i hi
    simp

/-- The full mask tests for one address. -/
theorem packetDstCheck_host (addr : UInt32) (t : Dotted) :
    packetDstCheck addr t ⟨255, 255, 255, 255⟩ = true ↔ addr = inetAddr t := by
  have hmask : inetAddr ⟨255, 255, 255, 255⟩ = -1 := by decide
  unfold packetDstCheck
  rw [hmask, UInt32.neg_one_and, beq_iff_eq]
  constructor
  · rintro rfl
    exact (inetAddr_inetNtoa addr).symm
  · rintro rfl
    exact (inetNtoa_inetAddr t).symm

/-- The mask 255.255.255.0 tests for the addresses of a network. -/
theorem packetDstCheck_network (addr : UInt32) (a b c : UInt8) :
    packetDstCheck addr ⟨a, b, c, 0⟩ ⟨255, 255, 255, 0⟩ = true ↔
      ∃ d, addr = inetAddr ⟨a, b, c, d⟩ := by
  have hmax : ∀ x : UInt8, 255 &&& x = x := fun x => UInt8.neg_one_and (a := x)
  unfold packetDstCheck
  rw [inetNtoa_and, inetNtoa_inetAddr, beq_iff_eq]
  simp only [hmax, UInt8.zero_and, Dotted.mk.injEq, and_true]
  constructor
  · rintro ⟨rfl, rfl, rfl⟩
    exact ⟨(inetNtoa addr).d, (inetAddr_inetNtoa addr).symm⟩
  · rintro ⟨d, rfl⟩
    simp [inetNtoa_inetAddr]
