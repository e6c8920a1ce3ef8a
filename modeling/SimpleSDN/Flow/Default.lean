import SimpleSDN.Flow.Table

/-!
# The default rule

`defaultInsert` stores a rule with a wildcard in every field. The comparator has no
wildcard for the protocol, and puts the entry of every packet below the key of the
rule: a packet that no other rule matches is not given the default rule either
(`not_hitsDefault`).
-/

namespace FlowEntry

/-- The key of the default rule is above every entry with another protocol. -/
theorem lt_defaultEntry {e : FlowEntry} (h : e.protocol ≠ 0xFFFF) :
    e.lt FlowTable.defaultEntry = true := by
  have hprotocol : e.protocol < 0xFFFF := uint16_lt_max h
  by_cases hwild : e.Wild
  · -- the exact comparison decides on the first field that is not a wildcard
    rw [lt_eq_of_wild hwild, decide_eq_true_iff, lt_def]
    have hsrc : e.srcIp = 0xFFFFFFFF ∨ e.srcIp < 0xFFFFFFFF := or_iff_not_imp_left.2 uint32_lt_max
    have hdst : e.dstIp = 0xFFFFFFFF ∨ e.dstIp < 0xFFFFFFFF := or_iff_not_imp_left.2 uint32_lt_max
    have hsport : e.srcPort = 0xFFFF ∨ e.srcPort < 0xFFFF := or_iff_not_imp_left.2 uint16_lt_max
    have hdport : e.dstPort = 0xFFFF ∨ e.dstPort < 0xFFFF := or_iff_not_imp_left.2 uint16_lt_max
    simp only [FlowTable.defaultEntry]
    tauto
  · rw [lt_eq_of_not_wild hwild, decide_eq_true_iff]
    exact Or.inr ⟨Or.inl rfl, Or.inr ⟨Or.inl rfl, Or.inr ⟨Or.inl rfl, Or.inr ⟨Or.inl rfl,
      hprotocol⟩⟩⟩⟩

end FlowEntry

namespace FlowTable

/-- The table of a secondary router after some control messages. -/
def installed (b : Rebalance FlowEntry FlowAction) (msgs : List OctaneControl) : FlowTable :=
  msgs.foldl (fun T msg => (T.insert msg).1) (empty b).defaultInsert.1

/-- A stored rule other than the default one matches the entry. -/
def MatchedByOther (T : FlowTable) (e : FlowEntry) : Prop :=
  ∃ r ∈ T.keys, r ≠ defaultEntry ∧ r.Matches e

/-- The lookup of the entry yields the default rule, with the action 3. -/
def HitsDefault (T : FlowTable) (e : FlowEntry) : Prop :=
  T.containsOut e = some defaultEntry ∧ (∀ filterEntry, (T.flowCheckOut e filterEntry).1 ≠ "") ∧
    T.mTable.get? e = some ⟨0xFFFF, 3⟩

/-- The lookup of the entry of a packet never yields the default rule, whatever rules
have been installed and whether they match the packet. -/
theorem not_hitsDefault (b : Rebalance FlowEntry FlowAction) (msgs : List OctaneControl)
    (st : Stack) (buffer : Packet) :
    ¬ (installed b msgs).HitsDefault (.ofBuffer st buffer) := by
  intro h
  have hprotocol : (FlowEntry.ofBuffer st buffer).protocol ≠ 0xFFFF := by
    have hlt := (ipUnpack st buffer).ipType.toNat_lt
    intro heq
    have htoNat := congrArg UInt16.toNat heq
    change (ipUnpack st buffer).ipType.toUInt16.toNat = 65535 at htoNat
    rw [UInt8.toNat_toUInt16] at htoNat
    omega
  obtain ⟨-, -, hinc⟩ := of_containsOut h.1
  rw [FlowEntry.lt_defaultEntry hprotocol] at hinc
  exact absurd hinc (by decide)

/-- A TCP packet in a table that holds nothing but the default rule. -/
theorem not_hitsDefault_tcp :
    ¬ (installed (.none _ _) []).MatchedByOther
        (.ofBuffer default { (default : Packet) with ipP := 6, source := 1, dest := 0x5000 }) ∧
      ¬ (installed (.none _ _) []).HitsDefault
        (.ofBuffer default { (default : Packet) with ipP := 6, source := 1, dest := 0x5000 }) := by
  constructor
  · rintro ⟨r, hr, hne, -⟩
    rcases StdMap.keys_set_subset _ _ _ hr with rfl | hr
    · exact hne rfl
    · simp [empty] at hr
  · intro h
    exact absurd h.1 (by decide)

end FlowTable
