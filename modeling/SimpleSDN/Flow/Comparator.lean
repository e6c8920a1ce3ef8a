import SimpleSDN.Flow.Entry
import SimpleSDN.SearchTree.Order

/-!
# Where the flow comparator is an order

An ordered container asks of its comparator that it be a strict weak ordering.
`FlowEntry.lt` is irreflexive and asymmetric on all entries. It fails to be
transitive, or to have transitive incomparability, on a set of entries exactly
when a third entry lies strictly between a concrete entry and a wildcard rule
that swallows it. `Untangled` names the sets without such an entry.
-/

namespace FlowEntry

open SearchTree (Incomparable StrictWeakOn)

/-- Two different entries that the comparator does not tell apart: one swallows
the other. -/
def Confused (a b : FlowEntry) : Prop := a.Swallows b ∨ b.Swallows a

instance (a b : FlowEntry) : Decidable (a.Confused b) :=
  inferInstanceAs (Decidable (_ ∨ _))

theorem Confused.symm {a b : FlowEntry} (h : a.Confused b) : b.Confused a :=
  Or.comm.1 h

theorem Confused.ne {a b : FlowEntry} (h : a.Confused b) : a ≠ b := by
  rcases h with h | h
  · exact h.lt.ne'
  · exact h.lt.ne

theorem reverse_wild (e : FlowEntry) : e.reverse.Wild ↔ e.Wild := by
  simp only [Wild, reverse]
  tauto

/-- An entry and its reverse have wildcards together, so the comparator tells
them apart. -/
theorem not_confused_reverse (e : FlowEntry) : ¬ e.Confused e.reverse := by
  rintro (h | h)
  · exact h.not_wild (e.reverse_wild.2 h.wild)
  · exact h.not_wild (e.reverse_wild.1 h.wild)

theorem incomparable_iff (a b : FlowEntry) :
    Incomparable lt a b ↔ a = b ∨ a.Confused b := by
  unfold Incomparable
  rw [lt_eq_false_iff, lt_eq_false_iff]
  constructor
  · rintro ⟨hba | hba, hab | hab⟩
    · exact Or.inl (le_antisymm hab hba)
    · exact Or.inr (Or.inl hab)
    · exact Or.inr (Or.inr hba)
    · exact absurd hab.lt (not_lt_of_gt hba.lt)
  · rintro (rfl | h | h)
    · exact ⟨Or.inl le_rfl, Or.inl le_rfl⟩
    · exact ⟨Or.inl h.lt.le, Or.inr h⟩
    · exact ⟨Or.inr h, Or.inl h.lt.le⟩

/-- No entry of the set lies strictly between a concrete entry and a rule that
swallows it. -/
def Untangled (S : Set FlowEntry) : Prop :=
  ∀ e ∈ S, ∀ r ∈ S, r.Swallows e → ∀ b ∈ S, ¬ (e < b ∧ b < r)

theorem Untangled.mono {S T : Set FlowEntry} (h : Untangled S) (hTS : T ⊆ S) :
    Untangled T :=
  fun e he r hr hs b hb => h e (hTS he) r (hTS hr) hs b (hTS hb)

/-- Entries without wildcards are untangled. -/
theorem untangled_of_concrete {S : Set FlowEntry} (h : ∀ e ∈ S, ¬ e.Wild) : Untangled S :=
  fun _ _ r hr hs => absurd hs.wild (h r hr)

theorem untangled_of_strictWeakOn {S : Set FlowEntry} (h : StrictWeakOn lt S) :
    Untangled S := by
  rintro e he r hr hs b hb ⟨heb, hbr⟩
  have her : Incomparable lt e r := (incomparable_iff e r).2 (Or.inr (Or.inr hs))
  cases hlt : lt e b with
  | true =>
      have hrb := h.lt_of_incomp_of_lt hr he hb her.symm hlt
      exact absurd ((lt_iff r b).1 hrb).1 (not_lt_of_gt hbr)
  | false =>
      have heb' : Incomparable lt e b := ⟨hlt, (lt_eq_false_iff b e).2 (Or.inl heb.le)⟩
      have hrb := h.incomp_trans r hr e he b hb her.symm heb'
      rcases (incomparable_iff e b).1 heb' with heq | hswallow | hswallow
      · exact absurd heq heb.ne
      · exact absurd hswallow.lt (not_lt_of_gt heb)
      · -- `b` has a wildcard as it swallows `e`, and none as `r` is above it
        rcases (incomparable_iff r b).1 hrb with heq | hrb' | hrb'
        · exact absurd heq hbr.ne'
        · exact hrb'.not_wild hswallow.wild
        · exact absurd hrb'.lt (not_lt_of_gt hbr)

theorem Untangled.trans {S : Set FlowEntry} (h : Untangled S) {a b c : FlowEntry}
    (ha : a ∈ S) (hb : b ∈ S) (hc : c ∈ S) (hab : lt a b = true) (hbc : lt b c = true) :
    lt a c = true := by
  have hab' := ((lt_iff a b).1 hab).1
  have hbc' := ((lt_iff b c).1 hbc).1
  exact (lt_iff a c).2 ⟨hab'.trans hbc', fun hs => h a ha c hc hs b hb ⟨hab', hbc'⟩⟩

/-- Two different rules of an untangled set do not swallow one entry: the lower
one would lie between the entry and the other. -/
theorem Untangled.rule_unique {S : Set FlowEntry} (h : Untangled S) {e r r' : FlowEntry}
    (he : e ∈ S) (hr : r ∈ S) (hr' : r' ∈ S) (hs : r.Swallows e) (hs' : r'.Swallows e) :
    r = r' := by
  by_contra hne
  rcases lt_or_gt_of_ne hne with hlt | hlt
  · exact h e he r' hr' hs' r hr ⟨hs.lt, hlt⟩
  · exact h e he r hr hs r' hr' ⟨hs'.lt, hlt⟩

/-- A rule of an untangled set does not swallow two different entries. -/
theorem Untangled.entry_unique {S : Set FlowEntry} (h : Untangled S) {e e' r : FlowEntry}
    (he : e ∈ S) (he' : e' ∈ S) (hr : r ∈ S) (hs : r.Swallows e) (hs' : r.Swallows e') :
    e = e' := by
  by_contra hne
  rcases lt_or_gt_of_ne hne with hlt | hlt
  · exact h e he r hr hs e' he' ⟨hlt, hs'.lt⟩
  · exact h e' he' r hr hs' e he ⟨hlt, hs.lt⟩

theorem Untangled.incomp_trans {S : Set FlowEntry} (h : Untangled S) {a b c : FlowEntry}
    (ha : a ∈ S) (hb : b ∈ S) (hc : c ∈ S) (hab : Incomparable lt a b)
    (hbc : Incomparable lt b c) : Incomparable lt a c := by
  rcases (incomparable_iff a b).1 hab with rfl | hab' | hab'
  · exact hbc
  · rcases (incomparable_iff b c).1 hbc with rfl | hbc' | hbc'
    · exact hab
    · exact absurd hbc'.wild hab'.not_wild
    · obtain rfl := h.rule_unique hb ha hc hab' hbc'
      exact (incomparable_iff a a).2 (Or.inl rfl)
  · rcases (incomparable_iff b c).1 hbc with rfl | hbc' | hbc'
    · exact hab
    · obtain rfl := h.entry_unique ha hc hb hab' hbc'
      exact (incomparable_iff a a).2 (Or.inl rfl)
    · exact absurd hab'.wild hbc'.not_wild

theorem Untangled.strictWeakOn {S : Set FlowEntry} (h : Untangled S) :
    StrictWeakOn lt S where
  irrefl a _ := (lt_eq_false_iff a a).2 (Or.inl le_rfl)
  asymm a _ b _ hab := (lt_eq_false_iff b a).2 (Or.inl ((lt_iff a b).1 hab).1.le)
  trans _ ha _ hb _ hc := h.trans ha hb hc
  incomp_trans _ ha _ hb _ hc := h.incomp_trans ha hb hc

/-- The comparator is a strict weak ordering on a set of entries exactly when
the set is untangled. -/
theorem strictWeakOn_iff_untangled (S : Set FlowEntry) :
    StrictWeakOn lt S ↔ Untangled S :=
  ⟨untangled_of_strictWeakOn, Untangled.strictWeakOn⟩

/-- Two TCP flows between two hosts are both incomparable with a ping between
them, and the first is less than the second. -/
theorem not_strictWeakOn_tcp_ping_tcp :
    ¬ StrictWeakOn lt
      {⟨0x0A00A8C0, 0x0133050A, 0x1027, 0x5000, 6⟩,
        ⟨0x0A00A8C0, 0x0133050A, 0xFFFF, 0xFFFF, 1⟩,
        ⟨0x0A00A8C0, 0x0133050A, 0x1127, 0x5000, 6⟩} := by
  intro h
  have hinc := h.incomp_trans ⟨0x0A00A8C0, 0x0133050A, 0x1027, 0x5000, 6⟩ (by simp)
    ⟨0x0A00A8C0, 0x0133050A, 0xFFFF, 0xFFFF, 1⟩ (by simp)
    ⟨0x0A00A8C0, 0x0133050A, 0x1127, 0x5000, 6⟩ (by simp) (by decide) (by decide)
  revert hinc
  decide

end FlowEntry
