import Mathlib.Data.Prod.Lex
import SimpleSDN.Network.Packet
import SimpleSDN.SearchTree.Order

/-!
# Where the comparator of control messages is an order

The secondary routers key two containers by control messages, with
`OctaneControl.lt` as the comparator. `Clash a b` collects what goes wrong with
it on a pair of messages: a wildcard of the right operand lets both comparisons
succeed, the action and the port point in different directions, or only the
protocol differs. On a set of messages no two of which clash the comparator
compares the ranks of the messages, and its classes are the messages of equal
content.
-/

namespace OctaneControl

open SearchTree (Incomparable StrictWeakOn)

/-- The messages agree in all fields but the sequence number and the flags. -/
def SameContent (a b : OctaneControl) : Prop :=
  a.octaneSourceIp = b.octaneSourceIp ∧ a.octaneDestIp = b.octaneDestIp ∧
    a.octaneSourcePort = b.octaneSourcePort ∧ a.octaneDestPort = b.octaneDestPort ∧
    a.octaneProtocol = b.octaneProtocol ∧ a.octaneAction = b.octaneAction ∧
    a.octanePort = b.octanePort

instance (a b : OctaneControl) : Decidable (a.SameContent b) :=
  inferInstanceAs (Decidable (_ ∧ _))

theorem SameContent.refl (a : OctaneControl) : a.SameContent a := by
  simp [SameContent]

theorem SameContent.symm {a b : OctaneControl} (h : a.SameContent b) : b.SameContent a := by
  unfold SameContent at h ⊢
  tauto

theorem SameContent.trans {a b c : OctaneControl} (h : a.SameContent b)
    (h' : b.SameContent c) : a.SameContent c := by
  unfold SameContent at h h' ⊢
  grind

/-- The addresses and ports in the order in which the comparator visits them. -/
def flowKey (a : OctaneControl) : ℕ ×ₗ ℕ ×ₗ ℕ ×ₗ ℕ :=
  toLex (a.octaneSourceIp.toNat, toLex (a.octaneSourcePort.toNat,
    toLex (a.octaneDestIp.toNat, a.octaneDestPort.toNat)))

/-- The flow key, then the action, then the port. -/
def rank (a : OctaneControl) : (ℕ ×ₗ ℕ ×ₗ ℕ ×ₗ ℕ) ×ₗ ℕ ×ₗ ℕ :=
  toLex (a.flowKey, toLex (a.octaneAction.toNat, a.octanePort.toNat))

theorem flowKey_lt_iff (a b : OctaneControl) :
    a.flowKey < b.flowKey ↔ a.octaneSourceIp < b.octaneSourceIp ∨
      a.octaneSourceIp = b.octaneSourceIp ∧ (a.octaneSourcePort < b.octaneSourcePort ∨
        a.octaneSourcePort = b.octaneSourcePort ∧ (a.octaneDestIp < b.octaneDestIp ∨
          a.octaneDestIp = b.octaneDestIp ∧ a.octaneDestPort < b.octaneDestPort)) := by
  simp only [flowKey, Prod.Lex.toLex_lt_toLex, UInt32.toNat_inj, UInt16.toNat_inj,
    UInt32.lt_iff_toNat_lt, UInt16.lt_iff_toNat_lt]

theorem flowKey_eq_iff (a b : OctaneControl) :
    a.flowKey = b.flowKey ↔ a.octaneSourceIp = b.octaneSourceIp ∧
      a.octaneSourcePort = b.octaneSourcePort ∧ a.octaneDestIp = b.octaneDestIp ∧
      a.octaneDestPort = b.octaneDestPort := by
  simp only [flowKey, toLex_inj, Prod.mk.injEq, UInt32.toNat_inj, UInt16.toNat_inj]

theorem rank_lt_iff (a b : OctaneControl) :
    a.rank < b.rank ↔ a.flowKey < b.flowKey ∨ a.flowKey = b.flowKey ∧
      (a.octaneAction < b.octaneAction ∨
        a.octaneAction = b.octaneAction ∧ a.octanePort < b.octanePort) := by
  simp only [rank, Prod.Lex.toLex_lt_toLex, UInt8.toNat_inj, UInt8.lt_iff_toNat_lt,
    UInt16.lt_iff_toNat_lt]

theorem rank_eq_iff (a b : OctaneControl) :
    a.rank = b.rank ↔ a.flowKey = b.flowKey ∧ a.octaneAction = b.octaneAction ∧
      a.octanePort = b.octanePort := by
  simp only [rank, toLex_inj, Prod.mk.injEq, UInt8.toNat_inj, UInt16.toNat_inj]

/-- `a` is below `b` on the addresses and ports that `a` fixes, compared in
order, and then in action or port. -/
def BelowOn (a b : OctaneControl) : Prop :=
  (a.octaneSourceIp ≠ 0xFFFFFFFF ∧ a.octaneSourceIp < b.octaneSourceIp) ∨
    (a.octaneSourceIp = 0xFFFFFFFF ∨ a.octaneSourceIp = b.octaneSourceIp) ∧
  ((a.octaneSourcePort ≠ 0xFFFF ∧ a.octaneSourcePort < b.octaneSourcePort) ∨
    (a.octaneSourcePort = 0xFFFF ∨ a.octaneSourcePort = b.octaneSourcePort) ∧
  ((a.octaneDestIp ≠ 0xFFFFFFFF ∧ a.octaneDestIp < b.octaneDestIp) ∨
    (a.octaneDestIp = 0xFFFFFFFF ∨ a.octaneDestIp = b.octaneDestIp) ∧
  ((a.octaneDestPort ≠ 0xFFFF ∧ a.octaneDestPort < b.octaneDestPort) ∨
    (a.octaneDestPort = 0xFFFF ∨ a.octaneDestPort = b.octaneDestPort) ∧
  (a.octaneAction < b.octaneAction ∨ a.octanePort < b.octanePort))))

instance (a b : OctaneControl) : Decidable (a.BelowOn b) :=
  inferInstanceAs (Decidable (_ ∨ _))

/-- One level of the comparator: the field decides if it differs and is not a
wildcard of the left operand. -/
theorem field_iff {α : Type} [DecidableEq α] [LT α] [DecidableLT α]
    [Std.Irrefl fun a b : α => a < b] (x y max : α) (rest : Bool) :
    (if x ≠ y ∧ x ≠ max then decide (x < y) else rest) = true ↔
      (x ≠ max ∧ x < y) ∨ (x = max ∨ x = y) ∧ rest = true := by
  have := irrefl_of (fun a b : α => a < b) x
  split_ifs with h
  · grind
  · grind

/-- The source's nesting, flattened. -/
theorem lt_iff_belowOn (a b : OctaneControl) : a.lt b = true ↔ a.BelowOn b := by
  have htail : (if a.octaneAction < b.octaneAction then
      decide (a.octaneAction < b.octaneAction)
      else decide (a.octanePort < b.octanePort)) = true ↔
      a.octaneAction < b.octaneAction ∨ a.octanePort < b.octanePort := by
    split_ifs with h
    · simp [h]
    · simp [h]
  unfold lt BelowOn
  rw [field_iff, field_iff, field_iff, field_iff, htail, htonl_max, htons_max]

/-- The plain order of the flow keys is never missed: a field in which the left
operand is smaller is not a wildcard of it. -/
theorem lt_of_flowKey_lt {a b : OctaneControl} (h : a.flowKey < b.flowKey) :
    a.lt b = true := by
  rw [flowKey_lt_iff] at h
  rw [lt_iff_belowOn]
  unfold BelowOn
  have h32 : ∀ x y : UInt32, x < y → x ≠ 0xFFFFFFFF := by
    rintro x y hxy rfl
    have := y.toNat_lt
    have hxy' := UInt32.lt_iff_toNat_lt.1 hxy
    change 4294967295 < y.toNat at hxy'
    omega
  have h16 : ∀ x y : UInt16, x < y → x ≠ 0xFFFF := by
    rintro x y hxy rfl
    have := y.toNat_lt
    have hxy' := UInt16.lt_iff_toNat_lt.1 hxy
    change 65535 < y.toNat at hxy'
    omega
  grind

theorem lt_of_flowKey_eq {a b : OctaneControl} (h : a.flowKey = b.flowKey) :
    a.lt b = true ↔ a.octaneAction < b.octaneAction ∨ a.octanePort < b.octanePort := by
  rw [flowKey_eq_iff] at h
  rw [lt_iff_belowOn]
  unfold BelowOn
  grind

/-! ### Clashes -/

/-- What makes the comparator fail on a pair of messages. -/
def Clash (a b : OctaneControl) : Prop :=
  (a.flowKey < b.flowKey ∧ b.BelowOn a) ∨
    (a.flowKey = b.flowKey ∧
      (a.octaneAction < b.octaneAction ∧ b.octanePort < a.octanePort ∨
        a.octaneAction = b.octaneAction ∧ a.octanePort = b.octanePort ∧
          a.octaneProtocol ≠ b.octaneProtocol))

instance (a b : OctaneControl) : Decidable (a.Clash b) :=
  inferInstanceAs (Decidable (_ ∨ _))

/-- No two messages of the set clash. -/
def ClashFree (S : Set OctaneControl) : Prop := ∀ a ∈ S, ∀ b ∈ S, ¬ a.Clash b

theorem ClashFree.mono {S T : Set OctaneControl} (h : ClashFree S) (hTS : T ⊆ S) :
    ClashFree T :=
  fun a ha b hb => h a (hTS ha) b (hTS hb)

theorem lt_of_rank_lt {a b : OctaneControl} (h : a.rank < b.rank) (hab : ¬ a.Clash b) :
    a.lt b = true ∧ b.lt a = false := by
  rw [← Bool.not_eq_true]
  rcases (rank_lt_iff a b).1 h with hkey | ⟨hkey, htail⟩
  · refine ⟨lt_of_flowKey_lt hkey, fun hba => hab (Or.inl ⟨hkey, ?_⟩)⟩
    exact (lt_iff_belowOn b a).1 hba
  · rw [lt_of_flowKey_eq hkey, lt_of_flowKey_eq hkey.symm]
    have htail' : ¬ (a.octaneAction < b.octaneAction ∧ b.octanePort < a.octanePort) :=
      fun hcross => hab (Or.inr ⟨hkey, Or.inl hcross⟩)
    grind

/-- On a set without clashes the comparator compares ranks. -/
theorem ClashFree.lt_iff_rank_lt {S : Set OctaneControl} (h : ClashFree S)
    {a b : OctaneControl} (ha : a ∈ S) (hb : b ∈ S) : a.lt b = true ↔ a.rank < b.rank := by
  constructor
  · intro hlt
    by_contra hle
    rcases (not_lt.1 hle).lt_or_eq with hba | heq
    · simp [(lt_of_rank_lt hba (h b hb a ha)).2] at hlt
    · obtain ⟨hkey, haction, hport⟩ := (rank_eq_iff b a).1 heq
      rw [lt_of_flowKey_eq hkey.symm, haction, hport] at hlt
      rcases hlt with hlt | hlt
      · exact UInt8.lt_irrefl _ hlt
      · exact UInt16.lt_irrefl _ hlt
  · exact fun hlt => (lt_of_rank_lt hlt (h a ha b hb)).1

theorem ClashFree.strictWeakOn {S : Set OctaneControl} (h : ClashFree S) :
    StrictWeakOn lt S :=
  .of_rank rank fun _ ha _ hb => h.lt_iff_rank_lt ha hb

theorem SameContent.rank_eq {a b : OctaneControl} (h : a.SameContent b) :
    a.rank = b.rank := by
  obtain ⟨h1, h2, h3, h4, -, h6, h7⟩ := h
  exact (rank_eq_iff a b).2 ⟨(flowKey_eq_iff a b).2 ⟨h1, h3, h2, h4⟩, h6, h7⟩

/-- Its classes are the messages of equal content. -/
theorem ClashFree.incomparable_iff {S : Set OctaneControl} (h : ClashFree S)
    {a b : OctaneControl} (ha : a ∈ S) (hb : b ∈ S) :
    Incomparable lt a b ↔ a.SameContent b := by
  unfold Incomparable
  rw [← Bool.not_eq_true, ← Bool.not_eq_true, h.lt_iff_rank_lt ha hb,
    h.lt_iff_rank_lt hb ha]
  constructor
  · rintro ⟨hab, hba⟩
    obtain ⟨hkey, haction, hport⟩ :=
      (rank_eq_iff a b).1 (le_antisymm (not_lt.1 hba) (not_lt.1 hab))
    obtain ⟨h1, h2, h3, h4⟩ := (flowKey_eq_iff a b).1 hkey
    have hproto : a.octaneProtocol = b.octaneProtocol := by
      by_contra hne
      exact h a ha b hb (Or.inr ⟨hkey, Or.inr ⟨haction, hport, hne⟩⟩)
    exact ⟨h1, h3, h2, h4, hproto, haction, hport⟩
  · intro hsame
    rw [hsame.rank_eq]
    exact ⟨lt_irrefl _, lt_irrefl _⟩

/-- A clash breaks asymmetry or puts two contents in one class. -/
theorem Clash.lt_lt_or_incomparable {a b : OctaneControl} (h : a.Clash b) :
    (a.lt b = true ∧ b.lt a = true) ∨ (Incomparable lt a b ∧ ¬ a.SameContent b) := by
  rcases h with ⟨hkey, hbelow⟩ | ⟨hkey, ⟨haction, hport⟩ | ⟨haction, hport, hproto⟩⟩
  · exact Or.inl ⟨lt_of_flowKey_lt hkey, (lt_iff_belowOn b a).2 hbelow⟩
  · refine Or.inl ⟨(lt_of_flowKey_eq hkey).2 (Or.inl haction), ?_⟩
    exact (lt_of_flowKey_eq hkey.symm).2 (Or.inr hport)
  · refine Or.inr ⟨⟨?_, ?_⟩, fun hsame => hproto hsame.2.2.2.2.1⟩
    · rw [← Bool.not_eq_true, lt_of_flowKey_eq hkey, haction, hport]
      exact fun hlt => hlt.elim (UInt8.lt_irrefl _) (UInt16.lt_irrefl _)
    · rw [← Bool.not_eq_true, lt_of_flowKey_eq hkey.symm, haction, hport]
      exact fun hlt => hlt.elim (UInt8.lt_irrefl _) (UInt16.lt_irrefl _)

/-- On a set of messages the comparator is a strict weak ordering whose classes
are the messages of equal content exactly when no two of them clash. -/
theorem orders_contents_iff_clashFree (S : Set OctaneControl) :
    (StrictWeakOn lt S ∧ ∀ a ∈ S, ∀ b ∈ S, Incomparable lt a b ↔ a.SameContent b) ↔
      ClashFree S := by
  constructor
  · rintro ⟨horder, hclass⟩ a ha b hb hclash
    rcases hclash.lt_lt_or_incomparable with ⟨hab, hba⟩ | ⟨hinc, hne⟩
    · simp [horder.asymm a ha b hb hab] at hba
    · exact hne ((hclass a ha b hb).1 hinc)
  · exact fun h => ⟨h.strictWeakOn, fun a ha b hb => h.incomparable_iff ha hb⟩

/-- Forwarding and replying to one flow, with the greater port on the lesser
action: each of the two messages is less than the other. -/
theorem not_strictWeakOn_crossed_action_port :
    ¬ StrictWeakOn lt
      {⟨1, 0, 1, 0x0A00A8C0, 0x0133050A, 0x1027, 0x5000, 6, 0xFFFF⟩,
        ⟨2, 0, 2, 0x0A00A8C0, 0x0133050A, 0x1027, 0x5000, 6, 0x2300⟩} := by
  intro h
  have hasymm := h.asymm ⟨1, 0, 1, 0x0A00A8C0, 0x0133050A, 0x1027, 0x5000, 6, 0xFFFF⟩
    (by simp) ⟨2, 0, 2, 0x0A00A8C0, 0x0133050A, 0x1027, 0x5000, 6, 0x2300⟩ (by simp)
    (by decide)
  revert hasymm
  decide

end OctaneControl
