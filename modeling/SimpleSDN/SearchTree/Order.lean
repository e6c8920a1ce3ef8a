import Mathlib.Data.Set.Insert
import Mathlib.Order.Defs.LinearOrder
import SimpleSDN.SearchTree.Basic

/-!
# Search trees whose comparator is an order on the keys in use

`StrictWeakOn lt S` says that `lt` is a strict weak ordering on the keys of
`S`. It is a statement about a set because a comparator can be an order on the
keys a program meets and not on all keys. When the stored keys and the probe
lie in such a set and the tree is `Sorted`, every descent splits the tree at
the probe, whatever shape the tree has, and the tree is a finite map on the
classes of incomparable keys.
-/

namespace SearchTree

variable {κ ν : Type}

/-- Neither key is less than the other. -/
def Incomparable (lt : κ → κ → Bool) (a b : κ) : Prop :=
  lt a b = false ∧ lt b a = false

instance (lt : κ → κ → Bool) (a b : κ) : Decidable (Incomparable lt a b) :=
  inferInstanceAs (Decidable (_ ∧ _))

/-- `lt` is a strict weak ordering on the keys of `S`. -/
structure StrictWeakOn (lt : κ → κ → Bool) (S : Set κ) : Prop where
  irrefl : ∀ a ∈ S, lt a a = false
  asymm : ∀ a ∈ S, ∀ b ∈ S, lt a b = true → lt b a = false
  trans : ∀ a ∈ S, ∀ b ∈ S, ∀ c ∈ S, lt a b = true → lt b c = true → lt a c = true
  incomp_trans : ∀ a ∈ S, ∀ b ∈ S, ∀ c ∈ S,
    Incomparable lt a b → Incomparable lt b c → Incomparable lt a c

theorem Incomparable.symm {lt : κ → κ → Bool} {a b : κ} (h : Incomparable lt a b) :
    Incomparable lt b a :=
  ⟨h.2, h.1⟩

namespace StrictWeakOn

variable {lt : κ → κ → Bool} {S : Set κ}

theorem mono {T : Set κ} (h : StrictWeakOn lt S) (hTS : T ⊆ S) : StrictWeakOn lt T where
  irrefl a ha := h.irrefl a (hTS ha)
  asymm a ha b hb := h.asymm a (hTS ha) b (hTS hb)
  trans a ha b hb c hc := h.trans a (hTS ha) b (hTS hb) c (hTS hc)
  incomp_trans a ha b hb c hc := h.incomp_trans a (hTS ha) b (hTS hb) c (hTS hc)

theorem incomp_self (h : StrictWeakOn lt S) {a : κ} (ha : a ∈ S) : Incomparable lt a a :=
  ⟨h.irrefl a ha, h.irrefl a ha⟩

/-- A key below one of two incomparable keys is below the other. -/
theorem lt_of_lt_of_incomp (h : StrictWeakOn lt S) {a b c : κ} (ha : a ∈ S) (hb : b ∈ S)
    (hc : c ∈ S) (hab : lt a b = true) (hbc : Incomparable lt b c) : lt a c = true := by
  by_contra hac
  have hac : lt a c = false := by simpa using hac
  cases hca : lt c a with
  | true =>
      have := h.trans c hc a ha b hb hca hab
      simp [hbc.2] at this
  | false =>
      have := h.incomp_trans a ha c hc b hb ⟨hac, hca⟩ hbc.symm
      simp [this.1] at hab

/-- A key above one of two incomparable keys is above the other. -/
theorem lt_of_incomp_of_lt (h : StrictWeakOn lt S) {a b c : κ} (ha : a ∈ S) (hb : b ∈ S)
    (hc : c ∈ S) (hab : Incomparable lt a b) (hbc : lt b c = true) : lt a c = true := by
  by_contra hac
  have hac : lt a c = false := by simpa using hac
  cases hca : lt c a with
  | true =>
      have := h.trans b hb c hc a ha hbc hca
      simp [hab.2] at this
  | false =>
      have := h.incomp_trans b hb a ha c hc hab.symm ⟨hac, hca⟩
      simp [this.1] at hbc

/-- A comparator that compares the ranks of its operands in a linear order is a
strict weak ordering. -/
theorem of_rank {α : Type} [LinearOrder α] (rank : κ → α)
    (h : ∀ a ∈ S, ∀ b ∈ S, lt a b = true ↔ rank a < rank b) : StrictWeakOn lt S := by
  have hfalse : ∀ a ∈ S, ∀ b ∈ S, lt a b = false ↔ rank b ≤ rank a := by
    intro a ha b hb
    rw [← Bool.not_eq_true, h a ha b hb, not_lt]
  constructor
  · intro a ha
    exact (hfalse a ha a ha).2 le_rfl
  · intro a ha b hb hab
    exact (hfalse b hb a ha).2 ((h a ha b hb).1 hab).le
  · intro a ha b hb c hc hab hbc
    exact (h a ha c hc).2 (((h a ha b hb).1 hab).trans ((h b hb c hc).1 hbc))
  · rintro a ha b hb c hc ⟨hab, hba⟩ ⟨hbc, hcb⟩
    rw [hfalse a ha b hb] at hab
    rw [hfalse b hb a ha] at hba
    rw [hfalse b hb c hc] at hbc
    rw [hfalse c hc b hb] at hcb
    exact ⟨(hfalse a ha c hc).2 (hbc.trans hab), (hfalse c hc a ha).2 (hba.trans hcb)⟩

end StrictWeakOn

/-- The keys of a tree. -/
def keys (t : SearchTree κ ν) : Set κ := {k | ∃ v, (k, v) ∈ t.toList}

theorem mem_keys {t : SearchTree κ ν} {e : κ × ν} (h : e ∈ t.toList) : e.1 ∈ t.keys :=
  ⟨e.2, h⟩

/-- Each key of the tree is less than the keys after it. -/
def Sorted (lt : κ → κ → Bool) (t : SearchTree κ ν) : Prop :=
  t.toList.Pairwise fun a b => lt a.1 b.1 = true

/-- A descent whose turns agree with the order of the entries separates the
entries satisfying `p` from the rest. -/
theorem before_after_spec {p : κ → Bool} {t : SearchTree κ ν}
    (h : t.toList.Pairwise fun a b => p b.1 = true → p a.1 = true) :
    (∀ e ∈ before p t, p e.1 = true) ∧ ∀ e ∈ after p t, p e.1 = false := by
  induction t with
  | nil => simp [before, after]
  | node c l k v r ihl ihr =>
      simp only [toList, List.pairwise_append, List.pairwise_cons, List.mem_cons] at h
      obtain ⟨hl, ⟨hkr, hr⟩, hlkr⟩ := h
      by_cases hk : p k = true
      · simp only [before, after, hk, if_true, List.mem_append, List.mem_cons]
        refine ⟨?_, (ihr hr).2⟩
        rintro e (hel | rfl | her)
        · exact hlkr e hel (k, v) (Or.inl rfl) hk
        · exact hk
        · exact (ihr hr).1 e her
      · simp only [before, after, hk, Bool.false_eq_true, if_false, List.mem_append,
          List.mem_cons]
        refine ⟨(ihl hl).1, ?_⟩
        rintro e (hel | rfl | her)
        · exact (ihl hl).2 e hel
        · simpa using hk
        · by_contra he
          exact hk (hkr e her (by simpa using he))

section Correct

variable {lt : κ → κ → Bool} {S : Set κ} {t : SearchTree κ ν} {x : κ}

/-- The lower-bound descent for a probe of `S` follows the order. -/
theorem Sorted.lower (ht : Sorted lt t) (h : StrictWeakOn lt S) (hS : t.keys ⊆ S)
    (hx : x ∈ S) :
    t.toList.Pairwise fun a b => lt b.1 x = true → lt a.1 x = true := by
  refine List.Pairwise.imp_of_mem ?_ ht
  intro a b ha hb hab hbx
  exact h.trans a.1 (hS (mem_keys ha)) b.1 (hS (mem_keys hb)) x hx hab hbx

/-- On a sorted tree the search finds exactly the stored entry whose key is
incomparable with the probe. -/
theorem Sorted.find_eq_some_iff (ht : Sorted lt t) (h : StrictWeakOn lt S)
    (hS : t.keys ⊆ S) (hx : x ∈ S) (e : κ × ν) :
    find lt x t = some e ↔ e ∈ t.toList ∧ Incomparable lt e.1 x := by
  constructor
  · intro hfind
    obtain ⟨he, hex, hxe⟩ := of_find_eq_some hfind
    exact ⟨he, hex, hxe⟩
  · rintro ⟨he, hex, hxe⟩
    obtain ⟨hbefore, hafter⟩ :=
      before_after_spec (p := fun k => lt k x) (ht.lower h hS hx)
    have hmem : e ∈ after (fun k => lt k x) t := by
      rw [← before_append_after (fun k => lt k x) t] at he
      rcases List.mem_append.1 he with hb | ha
      · simp [hbefore e hb] at hex
      · exact ha
    have hsorted : (after (fun k => lt k x) t).Pairwise fun a b => lt a.1 b.1 = true := by
      have hall := ht
      unfold Sorted at hall
      rw [← before_append_after (fun k => lt k x) t, List.pairwise_append] at hall
      exact hall.2.1
    cases hlist : after (fun k => lt k x) t with
    | nil => simp [hlist] at hmem
    | cons d ds =>
        have hdS : d.1 ∈ S :=
          hS (mem_keys (mem_toList_of_mem_after (p := fun k => lt k x) (by simp [hlist])))
        have hed : e = d := by
          rw [hlist] at hmem
          rcases List.mem_cons.1 hmem with rfl | htail
          · rfl
          · -- an entry after the lower bound would put the lower bound below the probe
            rw [hlist, List.pairwise_cons] at hsorted
            have hdx := h.lt_of_lt_of_incomp hdS (hS (mem_keys he)) hx
              (hsorted.1 e htail) ⟨hex, hxe⟩
            have := hafter d (by simp [hlist])
            simp [hdx] at this
        subst hed
        simp [find, lowerBound_eq_head?, hlist, hxe]

theorem Sorted.find_eq_none_iff (ht : Sorted lt t) (h : StrictWeakOn lt S)
    (hS : t.keys ⊆ S) (hx : x ∈ S) :
    find lt x t = none ↔ ∀ e ∈ t.toList, ¬ Incomparable lt e.1 x := by
  rw [Option.eq_none_iff_forall_ne_some]
  constructor
  · intro hnone e he hinc
    exact hnone e ((ht.find_eq_some_iff h hS hx e).2 ⟨he, hinc⟩)
  · intro hall e hfind
    obtain ⟨he, hinc⟩ := (ht.find_eq_some_iff h hS hx e).1 hfind
    exact hall e he hinc

/-- Two stored entries with incomparable keys are one entry. -/
theorem Sorted.eq_of_incomp (ht : Sorted lt t) {d e : κ × ν} (hd : d ∈ t.toList)
    (he : e ∈ t.toList) (hde : Incomparable lt d.1 e.1) : d = e := by
  by_contra hne
  have hpair : t.toList.Pairwise fun a b => ¬ Incomparable lt a.1 b.1 :=
    List.Pairwise.imp (fun hab hinc => by simp [hinc.1] at hab) ht
  have hg := List.pairwise_iff_getElem.1 hpair
  obtain ⟨i, hi, rfl⟩ := List.getElem_of_mem hd
  obtain ⟨j, hj, rfl⟩ := List.getElem_of_mem he
  rcases lt_trichotomy i j with hij | hij | hij
  · exact hg i j hi hj hij hde
  · subst hij; exact hne rfl
  · exact hg j i hj hi hij hde.symm

end Correct

end SearchTree
