import SimpleSDN.SearchTree.Order

/-!
# Updates of search trees

What `set` and `erase` do to the entries. The first part holds for every
comparator: an update introduces no key but the one it is called with. The
second part is for a sorted tree over a set on which the comparator is a
strict weak ordering: `set` changes the entry of the probe's class and nothing
else, `erase` removes it and nothing else, and both keep the tree sorted.
-/

namespace SearchTree

variable {κ ν : Type}

/-- Setting a key that is found replaces one value and no key. -/
theorem toList_set_of_find {lt : κ → κ → Bool} {x : κ} {w : ν} {t : SearchTree κ ν}
    {e : κ × ν} (h : find lt x t = some e) :
    ∃ pre post, t.toList = pre ++ e :: post ∧
      (set lt x w t).toList = pre ++ (e.1, w) :: post := by
  have hfind := h
  unfold find at h
  cases hb : lowerBound lt x t with
  | none => simp [hb] at h
  | some d =>
      have hde : d = e := by
        by_cases hx : lt x d.1 = true
        · simp [hb, hx] at h
        · simpa [hb, hx] using h
      subst hde
      rw [lowerBound_eq_head?] at hb
      obtain ⟨post, hpost⟩ := List.head?_eq_some_iff.1 hb
      refine ⟨before (fun k => lt k x) t, post, ?_, ?_⟩
      · rw [← hpost, before_append_after]
      · simp [set, hfind, toList_assign, hpost]

/-- Setting a key that is not found adds one entry between the two sides of the
descent. -/
theorem toList_set_of_find_none {lt : κ → κ → Bool} {x : κ} {w : ν}
    {t : SearchTree κ ν} (h : find lt x t = none) :
    (set lt x w t).toList =
      before (fun k => lt k x) t ++ (x, w) :: after (fun k => lt k x) t := by
  simp [set, h, toList_insertLeaf]

/-- The key that stands for `x` in the tree: the one found for it, or `x`. -/
def slot (lt : κ → κ → Bool) (x : κ) (t : SearchTree κ ν) : κ :=
  ((find lt x t).map Prod.fst).getD x

/-- Whatever the comparator is, the entries after an update are old ones, or
the new value at the slot of the probe. -/
theorem of_mem_set {lt : κ → κ → Bool} {x : κ} {w : ν} {t : SearchTree κ ν}
    {e : κ × ν} (h : e ∈ (set lt x w t).toList) :
    e ∈ t.toList ∨ e = (slot lt x t, w) := by
  cases hfind : find lt x t with
  | none =>
      rw [toList_set_of_find_none hfind] at h
      rcases List.mem_append.1 h with hb | hc
      · exact Or.inl (mem_toList_of_mem_before hb)
      · rcases List.mem_cons.1 hc with rfl | ha
        · exact Or.inr (by simp [slot, hfind])
        · exact Or.inl (mem_toList_of_mem_after ha)
  | some d =>
      obtain ⟨pre, post, ht, hset⟩ := toList_set_of_find (w := w) hfind
      rw [hset] at h
      rw [ht]
      simp only [List.mem_append, List.mem_cons] at h ⊢
      rcases h with hpre | rfl | hpost
      · exact Or.inl (Or.inl hpre)
      · exact Or.inr (by simp [slot, hfind])
      · exact Or.inl (Or.inr (Or.inr hpost))

theorem mem_keys_iff {t : SearchTree κ ν} {k : κ} : k ∈ t.keys ↔ k ∈ t.toList.map Prod.fst := by
  simp [keys]

/-- Whatever the comparator is, the keys after an update are the old ones and the
slot of the probe. -/
theorem keys_set (lt : κ → κ → Bool) (x : κ) (w : ν) (t : SearchTree κ ν) :
    (set lt x w t).keys = insert (slot lt x t) t.keys := by
  ext k
  cases hfind : find lt x t with
  | none =>
      rw [Set.mem_insert_iff, mem_keys_iff, mem_keys_iff, toList_set_of_find_none hfind,
        ← before_append_after (fun k => lt k x) t]
      simp only [slot, hfind, Option.map_none, Option.getD_none, List.map_append, List.map_cons,
        List.mem_append, List.mem_cons]
      tauto
  | some d =>
      obtain ⟨pre, post, hold, hset⟩ := toList_set_of_find (w := w) hfind
      have hsame : (set lt x w t).toList.map Prod.fst = t.toList.map Prod.fst := by
        rw [hset, hold]
        simp
      have hslot : slot lt x t ∈ t.keys := by
        simpa [slot, hfind] using mem_keys (of_find_eq_some hfind).1
      rw [Set.insert_eq_of_mem hslot, mem_keys_iff, mem_keys_iff, hsame]

/-- Whatever the comparator is, an update adds no key but its own. -/
theorem keys_set_subset (lt : κ → κ → Bool) (x : κ) (w : ν) (t : SearchTree κ ν) :
    (set lt x w t).keys ⊆ insert x t.keys := by
  rintro k ⟨v, hkv⟩
  rcases of_mem_set hkv with hold | hnew
  · exact Set.mem_insert_of_mem x ⟨v, hold⟩
  · obtain rfl : k = slot lt x t := congrArg Prod.fst hnew
    cases hfind : find lt x t with
    | none => simp [slot, hfind]
    | some d =>
        refine Set.mem_insert_of_mem x ?_
        simpa [slot, hfind] using mem_keys (of_find_eq_some hfind).1

theorem keys_erase_subset (lt : κ → κ → Bool) (x : κ) (t : SearchTree κ ν) :
    (erase lt x t).keys ⊆ t.keys := by
  rintro k ⟨v, hkv⟩
  exact ⟨v, mem_of_mem_erase hkv⟩

section Correct

variable {lt : κ → κ → Bool} {S : Set κ} {t : SearchTree κ ν} {x : κ}

theorem Sorted.nodup (ht : Sorted lt t) (h : StrictWeakOn lt S) (hS : t.keys ⊆ S) :
    t.toList.Nodup := by
  refine List.Pairwise.imp_of_mem ?_ ht
  rintro a b ha hb hab rfl
  simp [h.irrefl a.1 (hS (mem_keys ha))] at hab

theorem Sorted.set (ht : Sorted lt t) (h : StrictWeakOn lt S) (hS : t.keys ⊆ S)
    (hx : x ∈ S) (w : ν) : Sorted lt (set lt x w t) := by
  cases hfind : find lt x t with
  | some e =>
      obtain ⟨pre, post, htl, hset⟩ := toList_set_of_find (w := w) hfind
      unfold Sorted at ht ⊢
      rw [← List.pairwise_map (f := Prod.fst) (R := fun a b => lt a b = true)] at ht ⊢
      rw [hset]
      rw [htl] at ht
      simpa using ht
  | none =>
      obtain ⟨hbefore, hafter⟩ :=
        before_after_spec (p := fun k => lt k x) (ht.lower h hS hx)
      have hall := ht
      unfold Sorted at hall
      rw [← before_append_after (fun k => lt k x) t, List.pairwise_append] at hall
      unfold Sorted
      rw [toList_set_of_find_none hfind, List.pairwise_append]
      refine ⟨hall.1, List.pairwise_cons.2 ⟨?_, hall.2.1⟩, ?_⟩
      · intro e he
        have hmem := mem_toList_of_mem_after he
        have hinc := (ht.find_eq_none_iff h hS hx).1 hfind e hmem
        by_contra hxe
        exact hinc ⟨hafter e he, by simpa using hxe⟩
      · intro a ha b hb
        rcases List.mem_cons.1 hb with rfl | hb
        · exact hbefore a ha
        · exact hall.2.2 a ha b hb

/-- One element of a list without duplicates is replaced. -/
theorem mem_replace_iff {α : Type*} {pre post : List α} {d n e : α}
    (h : (pre ++ d :: post).Nodup) :
    e ∈ pre ++ n :: post ↔ e = n ∨ (e ∈ pre ++ d :: post ∧ e ≠ d) := by
  have hd : d ∉ pre ++ post := (List.nodup_cons.1 (List.perm_middle.nodup_iff.1 h)).1
  rw [List.perm_middle.mem_iff, List.perm_middle.mem_iff, List.mem_cons, List.mem_cons]
  refine or_congr_right ⟨fun he => ⟨Or.inr he, ?_⟩, ?_⟩
  · rintro rfl
    exact hd he
  · rintro ⟨rfl | he, hne⟩
    · exact absurd rfl hne
    · exact he

/-- The entry that is found is the only one of its class. -/
theorem Sorted.incomp_iff (ht : Sorted lt t) (h : StrictWeakOn lt S) (hS : t.keys ⊆ S)
    (hx : x ∈ S) {d e : κ × ν} (hfind : find lt x t = some d) (he : e ∈ t.toList) :
    Incomparable lt e.1 x ↔ e = d := by
  constructor
  · intro hinc
    have hfind' := (ht.find_eq_some_iff h hS hx e).2 ⟨he, hinc⟩
    exact Option.some.inj (hfind'.symm.trans hfind)
  · rintro rfl
    exact ((ht.find_eq_some_iff h hS hx e).1 hfind).2

/-- An update touches the class of its probe and nothing else. -/
theorem Sorted.mem_set (ht : Sorted lt t) (h : StrictWeakOn lt S) (hS : t.keys ⊆ S)
    (hx : x ∈ S) (w : ν) (e : κ × ν) :
    e ∈ (SearchTree.set lt x w t).toList ↔
      e = (slot lt x t, w) ∨ (e ∈ t.toList ∧ ¬ Incomparable lt e.1 x) := by
  cases hfind : find lt x t with
  | none =>
      have hslot : slot lt x t = x := by simp [slot, hfind]
      have hnone := (ht.find_eq_none_iff h hS hx).1 hfind
      rw [toList_set_of_find_none hfind, List.perm_middle.mem_iff, before_append_after,
        List.mem_cons, hslot]
      exact or_congr_right ⟨fun hmem => ⟨hmem, hnone e hmem⟩, And.left⟩
  | some d =>
      have hslot : slot lt x t = d.1 := by simp [slot, hfind]
      have hnodup := ht.nodup h hS
      obtain ⟨pre, post, htl, hset⟩ := toList_set_of_find (w := w) hfind
      rw [htl] at hnodup
      rw [hset, mem_replace_iff hnodup, ← htl, hslot]
      refine or_congr_right (and_congr_right fun hmem => not_congr ?_)
      exact (ht.incomp_iff h hS hx hfind hmem).symm

theorem before_eq_toList {p : κ → Bool} (h : ∀ e ∈ t.toList, p e.1 = true) :
    before p t = t.toList := by
  have hpair : t.toList.Pairwise fun a b => p b.1 = true → p a.1 = true :=
    List.Pairwise.imp_of_mem (fun {a} _ ha _ _ _ => h a ha)
      (List.pairwise_of_forall fun _ _ => trivial)
  have hafter : after p t = [] := by
    rw [List.eq_nil_iff_forall_not_mem]
    intro e he
    have := (before_after_spec hpair).2 e he
    simp [h e (mem_toList_of_mem_after he)] at this
  have := before_append_after p t
  rwa [hafter, List.append_nil] at this

theorem after_eq_toList {p : κ → Bool} (h : ∀ e ∈ t.toList, p e.1 = false) :
    after p t = t.toList := by
  have hpair : t.toList.Pairwise fun a b => p b.1 = true → p a.1 = true :=
    List.Pairwise.imp_of_mem (fun {_ b} _ hb _ hpb => by simp [h b hb] at hpb)
      (List.pairwise_of_forall fun _ _ => trivial)
  have hbefore : before p t = [] := by
    rw [List.eq_nil_iff_forall_not_mem]
    intro e he
    have := (before_after_spec hpair).1 e he
    simp [h e (mem_toList_of_mem_before he)] at this
  have := before_append_after p t
  rwa [hbefore, List.nil_append] at this

theorem Sorted.left {c : Bool} {l r : SearchTree κ ν} {k : κ} {v : ν}
    (ht : Sorted lt (node c l k v r)) : Sorted lt l ∧ ∀ e ∈ l.toList, lt e.1 k = true := by
  simp only [Sorted, toList, List.pairwise_append, List.pairwise_cons, List.mem_cons] at ht
  exact ⟨ht.1, fun e he => ht.2.2 e he (k, v) (Or.inl rfl)⟩

theorem Sorted.right {c : Bool} {l r : SearchTree κ ν} {k : κ} {v : ν}
    (ht : Sorted lt (node c l k v r)) : Sorted lt r ∧ ∀ e ∈ r.toList, lt k e.1 = true := by
  simp only [Sorted, toList, List.pairwise_append, List.pairwise_cons, List.mem_cons] at ht
  exact ⟨ht.2.1.2, fun e he => ht.2.1.1 e he⟩

/-- Keys below the probe compare with it. -/
theorem filter_eq_self_of_lt (h : ∀ e ∈ t.toList, lt e.1 x = true) :
    t.toList.filter (fun e => ¬ Incomparable lt e.1 x) = t.toList :=
  List.filter_eq_self.2 fun e he => by simp [Incomparable, h e he]

/-- Keys above the probe compare with it. -/
theorem filter_eq_self_of_gt (h : ∀ e ∈ t.toList, lt x e.1 = true) :
    t.toList.filter (fun e => ¬ Incomparable lt e.1 x) = t.toList :=
  List.filter_eq_self.2 fun e he => by simp [Incomparable, h e he]

/-- Erasing keeps the entries that compare with the probe. -/
theorem Sorted.toList_erase (ht : Sorted lt t) (h : StrictWeakOn lt S) (hS : t.keys ⊆ S)
    (hx : x ∈ S) :
    (erase lt x t).toList = t.toList.filter fun e => ¬ Incomparable lt e.1 x := by
  induction t with
  | nil => rfl
  | node c l k v r ihl ihr =>
      obtain ⟨htl, hlk⟩ := ht.left
      obtain ⟨htr, hkr⟩ := ht.right
      have hkS : k ∈ S := hS ⟨v, by simp [toList]⟩
      have hlS : l.keys ⊆ S := by
        rintro a ⟨w, hw⟩
        exact hS ⟨w, by simp [toList, hw]⟩
      have hrS : r.keys ⊆ S := by
        rintro a ⟨w, hw⟩
        exact hS ⟨w, by simp [toList, hw]⟩
      by_cases hk : lt k x = true
      · have hl : ∀ e ∈ l.toList, lt e.1 x = true := fun e he =>
          h.trans e.1 (hlS (mem_keys he)) k hkS x hx (hlk e he) hk
        have hkx : ¬ Incomparable lt k x := fun hinc => by simp [hinc.1] at hk
        rw [erase, if_pos hk, toList, ihr htr hrS, toList, List.filter_append,
          filter_eq_self_of_lt hl, List.filter_cons_of_pos (by simpa using hkx)]
      · by_cases hxk : lt x k = true
        · have hr : ∀ e ∈ r.toList, lt x e.1 = true := fun e he =>
            h.trans x hx k hkS e.1 (hrS (mem_keys he)) hxk (hkr e he)
          have hkx : ¬ Incomparable lt k x := fun hinc => by simp [hinc.2] at hxk
          rw [erase, if_neg hk, if_pos hxk, toList, ihl htl hlS, toList,
            List.filter_append, List.filter_cons_of_pos (by simpa using hkx),
            filter_eq_self_of_gt hr]
        · have hinc : Incomparable lt k x := ⟨by simpa using hk, by simpa using hxk⟩
          have hl : ∀ e ∈ l.toList, lt e.1 x = true := fun e he =>
            h.lt_of_lt_of_incomp (hlS (mem_keys he)) hkS hx (hlk e he) hinc
          have hr : ∀ e ∈ r.toList, lt x e.1 = true := fun e he =>
            h.lt_of_incomp_of_lt hx hkS (hrS (mem_keys he)) hinc.symm (hkr e he)
          rw [erase, if_neg hk, if_neg hxk, toList_join, toList_keepBefore,
            toList_keepAfter, before_eq_toList hl,
            after_eq_toList (p := fun k => !lt x k) (fun e he => by simp [hr e he]),
            toList, List.filter_append, filter_eq_self_of_lt hl,
            List.filter_cons_of_neg (by simpa using hinc), filter_eq_self_of_gt hr]

theorem Sorted.erase (ht : Sorted lt t) (h : StrictWeakOn lt S) (hS : t.keys ⊆ S)
    (hx : x ∈ S) : Sorted lt (erase lt x t) := by
  unfold Sorted
  rw [ht.toList_erase h hS hx]
  exact List.Pairwise.filter _ ht

theorem Sorted.mem_erase (ht : Sorted lt t) (h : StrictWeakOn lt S) (hS : t.keys ⊆ S)
    (hx : x ∈ S) (e : κ × ν) :
    e ∈ (SearchTree.erase lt x t).toList ↔ e ∈ t.toList ∧ ¬ Incomparable lt e.1 x := by
  rw [ht.toList_erase h hS hx, List.mem_filter]
  simp

end Correct

end SearchTree
