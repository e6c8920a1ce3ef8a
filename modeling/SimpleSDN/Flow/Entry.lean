import Mathlib.Data.Prod.Lex
import SimpleSDN.Network.Packet

/-!
# Flow entries and their comparator

A flow entry is a five-tuple in which `0xFFFFFFFF` for an address and `0xFFFF`
for a port stand for any value. `FlowEntry.lt` is the comparator of the flow
table as the source computes it: the exact comparison when its left operand has
a wildcard, and otherwise a comparison that skips the fields in which either
side has one.

Beside it stand the notions it is measured against. `FlowEntry` carries the
plain lexicographic order `<` of the five fields, and `r.swallows e` says that
the wildcard rule `r` is above the concrete entry `e` in that order only because
of the fields in which `r` has a wildcard. The comparator is the lexicographic
order less the swallowed pairs (`FlowEntry.lt_iff`).
-/

/-- `flow_entry`. -/
structure FlowEntry where
  srcIp : UInt32
  dstIp : UInt32
  srcPort : UInt16
  dstPort : UInt16
  protocol : UInt16
deriving DecidableEq

namespace FlowEntry

/-- `flow_entry(octane_control)`. -/
def ofMsg (msg : OctaneControl) : FlowEntry where
  srcIp := msg.octaneSourceIp
  dstIp := msg.octaneDestIp
  srcPort := msg.octaneSourcePort
  dstPort := msg.octaneDestPort
  protocol := msg.octaneProtocol

/-- `flow_entry(char* buffer)`. -/
def ofBuffer (st : Stack) (buffer : Packet) : FlowEntry where
  srcIp := (ipUnpack st buffer).srcAddr
  dstIp := (ipUnpack st buffer).dstAddr
  srcPort := (ipUnpack st buffer).srcPort
  dstPort := (ipUnpack st buffer).dstPort
  protocol := (ipUnpack st buffer).ipType.toUInt16

def reverse (e : FlowEntry) : FlowEntry where
  srcIp := e.dstIp
  dstIp := e.srcIp
  srcPort := e.dstPort
  dstPort := e.srcPort
  protocol := e.protocol

/-- `flow_entry::operator<`. Both halves of the first condition of the source
test the left operand. -/
def lt (a key2 : FlowEntry) : Bool :=
  if (a.srcIp = htonl 0xFFFFFFFF ∨ a.srcPort = htons 0xFFFF ∨
        a.dstIp = htonl 0xFFFFFFFF ∨ a.dstPort = htons 0xFFFF) ∧
      (a.srcIp = htonl 0xFFFFFFFF ∨ a.srcPort = htons 0xFFFF ∨
        a.dstIp = htonl 0xFFFFFFFF ∨ a.dstPort = htons 0xFFFF) then
    if a.srcIp ≠ key2.srcIp then a.srcIp < key2.srcIp
    else if a.srcPort ≠ key2.srcPort then a.srcPort < key2.srcPort
    else if a.dstIp ≠ key2.dstIp then a.dstIp < key2.dstIp
    else if a.dstPort ≠ key2.dstPort then a.dstPort < key2.dstPort
    else a.protocol < key2.protocol
  else
    if a.srcIp ≠ key2.srcIp ∧ a.srcIp ≠ htonl 0xFFFFFFFF ∧ key2.srcIp ≠ htonl 0xFFFFFFFF then
      a.srcIp < key2.srcIp
    else if a.srcPort ≠ key2.srcPort ∧ a.srcPort ≠ htons 0xFFFF ∧
        key2.srcPort ≠ htons 0xFFFF then
      a.srcPort < key2.srcPort
    else if a.dstIp ≠ key2.dstIp ∧ a.dstIp ≠ htonl 0xFFFFFFFF ∧
        key2.dstIp ≠ htonl 0xFFFFFFFF then
      a.dstIp < key2.dstIp
    else if a.dstPort ≠ key2.dstPort ∧ a.dstPort ≠ htons 0xFFFF ∧
        key2.dstPort ≠ htons 0xFFFF then
      a.dstPort < key2.dstPort
    else a.protocol < key2.protocol

/-! ### The plain order -/

/-- The fields in the order in which the comparator visits them. -/
def sortKey (e : FlowEntry) : ℕ ×ₗ ℕ ×ₗ ℕ ×ₗ ℕ ×ₗ ℕ :=
  toLex (e.srcIp.toNat, toLex (e.srcPort.toNat, toLex (e.dstIp.toNat,
    toLex (e.dstPort.toNat, e.protocol.toNat))))

theorem sortKey_injective : Function.Injective sortKey := by
  rintro ⟨s, d, sp, dp, p⟩ ⟨s', d', sp', dp', p'⟩ h
  simp only [sortKey, toLex_inj, Prod.mk.injEq, UInt32.toNat_inj, UInt16.toNat_inj] at h
  simp [h]

instance : LinearOrder FlowEntry := LinearOrder.lift' sortKey sortKey_injective

theorem lt_def (a b : FlowEntry) :
    a < b ↔ a.srcIp < b.srcIp ∨ a.srcIp = b.srcIp ∧ (a.srcPort < b.srcPort ∨
      a.srcPort = b.srcPort ∧ (a.dstIp < b.dstIp ∨ a.dstIp = b.dstIp ∧
        (a.dstPort < b.dstPort ∨ a.dstPort = b.dstPort ∧ a.protocol < b.protocol))) := by
  change sortKey a < sortKey b ↔ _
  simp only [sortKey, Prod.Lex.toLex_lt_toLex, UInt32.toNat_inj, UInt16.toNat_inj,
    UInt32.lt_iff_toNat_lt, UInt16.lt_iff_toNat_lt]

/-! ### Wildcards -/

/-- Some field of the entry is a wildcard. -/
def Wild (e : FlowEntry) : Prop :=
  e.srcIp = 0xFFFFFFFF ∨ e.srcPort = 0xFFFF ∨ e.dstIp = 0xFFFFFFFF ∨ e.dstPort = 0xFFFF

instance (e : FlowEntry) : Decidable e.Wild :=
  inferInstanceAs (Decidable (_ ∨ _))

/-- Each field of the rule `r` is that of `e` or a wildcard, and the protocols
agree. -/
def Matches (r e : FlowEntry) : Prop :=
  (r.srcIp = e.srcIp ∨ r.srcIp = 0xFFFFFFFF) ∧ (r.srcPort = e.srcPort ∨ r.srcPort = 0xFFFF) ∧
    (r.dstIp = e.dstIp ∨ r.dstIp = 0xFFFFFFFF) ∧ (r.dstPort = e.dstPort ∨ r.dstPort = 0xFFFF) ∧
    r.protocol = e.protocol

instance (r e : FlowEntry) : Decidable (r.Matches e) :=
  inferInstanceAs (Decidable (_ ∧ _))

theorem Matches.refl (e : FlowEntry) : e.Matches e := by
  simp [Matches]

/-- `e` is below `r` on the fields that `r` fixes, compared in order, the
protocol last. -/
def BelowOn (e r : FlowEntry) : Prop :=
  (r.srcIp ≠ 0xFFFFFFFF ∧ e.srcIp < r.srcIp) ∨
    (r.srcIp = 0xFFFFFFFF ∨ e.srcIp = r.srcIp) ∧
  ((r.srcPort ≠ 0xFFFF ∧ e.srcPort < r.srcPort) ∨
    (r.srcPort = 0xFFFF ∨ e.srcPort = r.srcPort) ∧
  ((r.dstIp ≠ 0xFFFFFFFF ∧ e.dstIp < r.dstIp) ∨
    (r.dstIp = 0xFFFFFFFF ∨ e.dstIp = r.dstIp) ∧
  ((r.dstPort ≠ 0xFFFF ∧ e.dstPort < r.dstPort) ∨
    (r.dstPort = 0xFFFF ∨ e.dstPort = r.dstPort) ∧ e.protocol < r.protocol)))

instance (e r : FlowEntry) : Decidable (e.BelowOn r) :=
  inferInstanceAs (Decidable (_ ∨ _))

/-- The wildcard rule `r` is above the concrete entry `e`, but not on the fields
that `r` fixes. -/
def Swallows (r e : FlowEntry) : Prop := ¬ e.Wild ∧ r.Wild ∧ e < r ∧ ¬ e.BelowOn r

instance (r e : FlowEntry) : Decidable (r.Swallows e) :=
  inferInstanceAs (Decidable (_ ∧ _))

theorem Swallows.lt {r e : FlowEntry} (h : r.Swallows e) : e < r := h.2.2.1

theorem Swallows.wild {r e : FlowEntry} (h : r.Swallows e) : r.Wild := h.2.1

theorem Swallows.not_wild {r e : FlowEntry} (h : r.Swallows e) : ¬ e.Wild := h.1

theorem not_wild_iff (e : FlowEntry) :
    ¬ e.Wild ↔ e.srcIp ≠ 0xFFFFFFFF ∧ e.srcPort ≠ 0xFFFF ∧ e.dstIp ≠ 0xFFFFFFFF ∧
      e.dstPort ≠ 0xFFFF := by
  simp [Wild]

theorem uint32_lt_max {x : UInt32} (h : x ≠ 0xFFFFFFFF) : x < 0xFFFFFFFF := by
  have hx := x.toNat_lt
  have hne : x.toNat ≠ 4294967295 := fun heq => h (UInt32.toNat_inj.1 heq)
  rw [UInt32.lt_iff_toNat_lt]
  change x.toNat < 4294967295
  omega

theorem uint16_lt_max {x : UInt16} (h : x ≠ 0xFFFF) : x < 0xFFFF := by
  have hx := x.toNat_lt
  have hne : x.toNat ≠ 65535 := fun heq => h (UInt16.toNat_inj.1 heq)
  rw [UInt16.lt_iff_toNat_lt]
  change x.toNat < 65535
  omega

/-- A wildcard is the greatest value of its field, so skipping fields can only
lose comparisons of a concrete entry. -/
theorem BelowOn.lt {e r : FlowEntry} (he : ¬ e.Wild) (h : e.BelowOn r) : e < r := by
  obtain ⟨h1, h2, h3, h4⟩ := (not_wild_iff e).1 he
  have h1' := uint32_lt_max h1
  have h2' := uint16_lt_max h2
  have h3' := uint32_lt_max h3
  have h4' := uint16_lt_max h4
  rw [lt_def]
  unfold BelowOn at h
  grind

/-- With a wildcard in its left operand the comparator is the plain order. -/
theorem lt_eq_of_wild {a : FlowEntry} (ha : a.Wild) (b : FlowEntry) :
    a.lt b = decide (a < b) := by
  unfold Wild at ha
  unfold lt
  rw [Bool.eq_iff_iff, decide_eq_true_iff, lt_def]
  simp only [htonl_max, htons_max, ha, and_self, if_true]
  grind

/-- Without one it compares on the fields that the right operand fixes. -/
theorem lt_eq_of_not_wild {a : FlowEntry} (ha : ¬ a.Wild) (b : FlowEntry) :
    a.lt b = decide (a.BelowOn b) := by
  obtain ⟨h1, h2, h3, h4⟩ := (not_wild_iff a).1 ha
  unfold lt
  rw [Bool.eq_iff_iff, decide_eq_true_iff, BelowOn]
  simp only [htonl_max, htons_max, ne_eq, h1, h2, h3, h4, not_false_eq_true, true_and]
  grind

/-- The comparator is the plain order less the swallowed pairs. -/
theorem lt_iff (a b : FlowEntry) : a.lt b = true ↔ a < b ∧ ¬ b.Swallows a := by
  by_cases ha : a.Wild
  · rw [lt_eq_of_wild ha, decide_eq_true_iff]
    exact ⟨fun h => ⟨h, fun hs => hs.not_wild ha⟩, fun h => h.1⟩
  · rw [lt_eq_of_not_wild ha, decide_eq_true_iff]
    constructor
    · exact fun h => ⟨h.lt ha, fun hs => hs.2.2.2 h⟩
    · rintro ⟨hlt, hs⟩
      by_contra hbelow
      by_cases hb : b.Wild
      · exact hs ⟨ha, hb, hlt, hbelow⟩
      · -- without wildcards on either side no field is skipped
        obtain ⟨h1, h2, h3, h4⟩ := (not_wild_iff b).1 hb
        rw [lt_def] at hlt
        unfold BelowOn at hbelow
        grind

theorem lt_eq_false_iff (a b : FlowEntry) : a.lt b = false ↔ b ≤ a ∨ b.Swallows a := by
  rw [← Bool.not_eq_true, lt_iff, not_and_or, not_not, not_lt]

end FlowEntry
