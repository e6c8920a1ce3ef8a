import SimpleSDN.SearchTree.Update

/-!
# Ordered maps

`StdMap lt ν` is an ordered associative container with the comparator `lt`: a
search tree and the way its implementation reshapes the tree after an update.
A `Rebalance` may do anything that keeps the in-order sequence, with the colour
bits at its disposal, so what is proved here holds for red-black trees and for
every other discipline. `StdMap.OrderedOn m S` collects what makes a container
correct: the comparator is a strict weak ordering on `S`, and the stored keys
lie in `S` and are in order.
-/

/-- A way to reshape a tree that keeps its entries in their order. -/
structure Rebalance (κ ν : Type) where
  fix : SearchTree κ ν → SearchTree κ ν
  toList_fix : ∀ t, (fix t).toList = t.toList

/-- No reshaping. -/
def Rebalance.none (κ ν : Type) : Rebalance κ ν where
  fix t := t
  toList_fix _ := rfl

/-- An ordered container with comparator `lt`. -/
structure StdMap {κ : Type} (lt : κ → κ → Bool) (ν : Type) where
  tree : SearchTree κ ν
  balance : Rebalance κ ν

namespace StdMap

open SearchTree (Incomparable StrictWeakOn)

variable {κ ν : Type} {lt : κ → κ → Bool}

def empty (lt : κ → κ → Bool) (b : Rebalance κ ν) : StdMap lt ν := ⟨.nil, b⟩

/-- The entries in order. -/
def entries (m : StdMap lt ν) : List (κ × ν) := m.tree.toList

def keys (m : StdMap lt ν) : Set κ := m.tree.keys

def find (m : StdMap lt ν) (x : κ) : Option (κ × ν) := m.tree.find lt x

/-- The value found for `x`. -/
def get? (m : StdMap lt ν) (x : κ) : Option ν := (m.find x).map Prod.snd

def set (m : StdMap lt ν) (x : κ) (w : ν) : StdMap lt ν :=
  ⟨m.balance.fix (m.tree.set lt x w), m.balance⟩

def erase (m : StdMap lt ν) (x : κ) : StdMap lt ν :=
  ⟨m.balance.fix (m.tree.erase lt x), m.balance⟩

/-- The subscript operator: the value at `x`, which is set to `d` if there is
none. -/
def index (m : StdMap lt ν) (x : κ) (d : ν) : StdMap lt ν × ν :=
  match m.get? x with
  | some v => (m, v)
  | none => (m.set x d, d)

/-- The key under which `x` is stored, or would be. -/
def slot (m : StdMap lt ν) (x : κ) : κ := m.tree.slot lt x

@[simp] theorem entries_empty (b : Rebalance κ ν) : (empty lt b).entries = [] := rfl

@[simp] theorem entries_set (m : StdMap lt ν) (x : κ) (w : ν) :
    (m.set x w).entries = (m.tree.set lt x w).toList :=
  m.balance.toList_fix _

@[simp] theorem entries_erase (m : StdMap lt ν) (x : κ) :
    (m.erase x).entries = (m.tree.erase lt x).toList :=
  m.balance.toList_fix _

theorem mem_keys_iff {m : StdMap lt ν} {k : κ} : k ∈ m.keys ↔ ∃ v, (k, v) ∈ m.entries :=
  Iff.rfl

@[simp] theorem keys_empty (b : Rebalance κ ν) : (empty lt b).keys = ∅ := by
  ext k
  simp [mem_keys_iff]

theorem mem_keys {m : StdMap lt ν} {e : κ × ν} (h : e ∈ m.entries) : e.1 ∈ m.keys :=
  SearchTree.mem_keys h

/-! ### What holds for every comparator -/

theorem of_find_eq_some {m : StdMap lt ν} {x : κ} {e : κ × ν} (h : m.find x = some e) :
    e ∈ m.entries ∧ Incomparable lt e.1 x := by
  obtain ⟨he, hex, hxe⟩ := SearchTree.of_find_eq_some h
  exact ⟨he, hex, hxe⟩

theorem of_mem_set {m : StdMap lt ν} {x : κ} {w : ν} {e : κ × ν}
    (h : e ∈ (m.set x w).entries) : e ∈ m.entries ∨ e = (m.slot x, w) := by
  rw [entries_set] at h
  exact SearchTree.of_mem_set h

theorem keys_set (m : StdMap lt ν) (x : κ) (w : ν) :
    (m.set x w).keys = insert (m.slot x) m.keys := by
  rw [show m.keys = m.tree.keys from rfl, show m.slot x = m.tree.slot lt x from rfl,
    ← SearchTree.keys_set lt x w]
  ext k
  change (∃ v, (k, v) ∈ (m.set x w).entries) ↔ ∃ v, (k, v) ∈ (m.tree.set lt x w).toList
  rw [entries_set]

theorem keys_set_subset (m : StdMap lt ν) (x : κ) (w : ν) :
    (m.set x w).keys ⊆ insert x m.keys := by
  rintro k ⟨v, hkv⟩
  change (k, v) ∈ (m.set x w).entries at hkv
  rw [entries_set] at hkv
  exact SearchTree.keys_set_subset lt x w m.tree ⟨v, hkv⟩

theorem entries_erase_subset (m : StdMap lt ν) (x : κ) : (m.erase x).entries ⊆ m.entries := by
  intro e he
  rw [entries_erase] at he
  exact SearchTree.mem_of_mem_erase he

theorem slot_of_find_eq_none {m : StdMap lt ν} {x : κ} (h : m.find x = none) : m.slot x = x := by
  have hfind : m.tree.find lt x = none := h
  simp [slot, SearchTree.slot, hfind]

theorem slot_of_find_eq_some {m : StdMap lt ν} {x : κ} {e : κ × ν} (h : m.find x = some e) :
    m.slot x = e.1 := by
  have hfind : m.tree.find lt x = some e := h
  simp [slot, SearchTree.slot, hfind]

theorem slot_mem_insert (m : StdMap lt ν) (x : κ) : m.slot x ∈ insert x m.keys := by
  cases hfind : m.find x with
  | none =>
      rw [slot_of_find_eq_none hfind]
      exact Set.mem_insert x _
  | some e =>
      rw [slot_of_find_eq_some hfind]
      exact Set.mem_insert_of_mem x (mem_keys (of_find_eq_some hfind).1)

theorem keys_erase_subset (m : StdMap lt ν) (x : κ) : (m.erase x).keys ⊆ m.keys := by
  rintro k ⟨v, hkv⟩
  change (k, v) ∈ (m.erase x).entries at hkv
  rw [entries_erase] at hkv
  exact SearchTree.keys_erase_subset lt x m.tree ⟨v, hkv⟩

theorem index_of_get?_eq_some {m : StdMap lt ν} {x : κ} {v : ν} (h : m.get? x = some v)
    (d : ν) : m.index x d = (m, v) := by
  simp [index, h]

/-! ### What holds when the comparator orders the keys in use -/

/-- The container is in order over the set `S` of keys. -/
structure OrderedOn (m : StdMap lt ν) (S : Set κ) : Prop where
  order : StrictWeakOn lt S
  keys_subset : m.keys ⊆ S
  sorted : m.tree.Sorted lt

theorem orderedOn_of_entries_eq_nil {m : StdMap lt ν} (hm : m.entries = []) {S : Set κ}
    (h : StrictWeakOn lt S) : OrderedOn m S where
  order := h
  keys_subset := by
    rintro k ⟨v, hkv⟩
    change (k, v) ∈ m.entries at hkv
    simp [hm] at hkv
  sorted := by
    change m.entries.Pairwise _
    simp [hm]

theorem orderedOn_empty (b : Rebalance κ ν) {S : Set κ} (h : StrictWeakOn lt S) :
    OrderedOn (empty lt b) S :=
  orderedOn_of_entries_eq_nil (entries_empty b) h

/-- The first entry. -/
theorem entries_set_of_entries_eq_nil {m : StdMap lt ν} (hm : m.entries = []) (x : κ) (w : ν) :
    (m.set x w).entries = [(x, w)] := by
  rw [entries_set]
  unfold entries at hm
  cases htree : m.tree with
  | nil => rfl
  | node red l k v r => simp [htree, SearchTree.toList] at hm

theorem get?_of_entries_eq_nil {m : StdMap lt ν} (hm : m.entries = []) (x : κ) :
    m.get? x = none := by
  unfold get?
  cases hfind : m.find x with
  | none => rfl
  | some e =>
      have := (of_find_eq_some hfind).1
      simp [hm] at this

namespace OrderedOn

variable {m : StdMap lt ν} {S : Set κ} {x : κ}

/-- The set of keys may change as long as the comparator orders it. -/
theorem change (h : OrderedOn m S) {T : Set κ} (hT : StrictWeakOn lt T)
    (hkeys : m.keys ⊆ T) : OrderedOn m T :=
  ⟨hT, hkeys, h.sorted⟩

theorem set (h : OrderedOn m S) (hx : x ∈ S) (w : ν) : OrderedOn (m.set x w) S where
  order := h.order
  keys_subset := (keys_set_subset m x w).trans (Set.insert_subset hx h.keys_subset)
  sorted := by
    have := h.sorted.set h.order h.keys_subset hx w
    unfold SearchTree.Sorted at this ⊢
    rwa [← entries_set] at this

theorem erase (h : OrderedOn m S) (hx : x ∈ S) : OrderedOn (m.erase x) S where
  order := h.order
  keys_subset := (keys_erase_subset m x).trans h.keys_subset
  sorted := by
    have := h.sorted.erase h.order h.keys_subset hx
    unfold SearchTree.Sorted at this ⊢
    rwa [← entries_erase] at this

theorem find_eq_some_iff (h : OrderedOn m S) (hx : x ∈ S) (e : κ × ν) :
    m.find x = some e ↔ e ∈ m.entries ∧ Incomparable lt e.1 x :=
  h.sorted.find_eq_some_iff h.order h.keys_subset hx e

theorem find_eq_none_iff (h : OrderedOn m S) (hx : x ∈ S) :
    m.find x = none ↔ ∀ k ∈ m.keys, ¬ Incomparable lt k x := by
  rw [show m.find x = none ↔ _ from h.sorted.find_eq_none_iff h.order h.keys_subset hx]
  constructor
  · rintro hall k ⟨v, hkv⟩
    exact hall (k, v) hkv
  · intro hall e he
    exact hall e.1 (mem_keys he)

theorem mem_entries_set (h : OrderedOn m S) (hx : x ∈ S) (w : ν) (e : κ × ν) :
    e ∈ (m.set x w).entries ↔
      e = (m.slot x, w) ∨ (e ∈ m.entries ∧ ¬ Incomparable lt e.1 x) := by
  rw [entries_set]
  exact h.sorted.mem_set h.order h.keys_subset hx w e

theorem mem_entries_erase (h : OrderedOn m S) (hx : x ∈ S) (e : κ × ν) :
    e ∈ (m.erase x).entries ↔ e ∈ m.entries ∧ ¬ Incomparable lt e.1 x := by
  rw [entries_erase]
  exact h.sorted.mem_erase h.order h.keys_subset hx e

theorem slot_mem (h : OrderedOn m S) (hx : x ∈ S) : m.slot x ∈ S := by
  cases hfind : m.find x with
  | none => rwa [slot_of_find_eq_none hfind]
  | some e =>
      rw [slot_of_find_eq_some hfind]
      exact h.keys_subset (mem_keys (of_find_eq_some hfind).1)

theorem slot_incomp (h : OrderedOn m S) (hx : x ∈ S) : Incomparable lt (m.slot x) x := by
  cases hfind : m.find x with
  | none =>
      rw [slot_of_find_eq_none hfind]
      exact h.order.incomp_self hx
  | some e =>
      rw [slot_of_find_eq_some hfind]
      exact (of_find_eq_some hfind).2

theorem get?_eq_some_iff (h : OrderedOn m S) (hx : x ∈ S) (w : ν) :
    m.get? x = some w ↔ ∃ k, (k, w) ∈ m.entries ∧ Incomparable lt k x := by
  unfold get?
  rw [Option.map_eq_some_iff]
  constructor
  · rintro ⟨⟨k, v⟩, hfind, rfl⟩
    exact ⟨k, (h.find_eq_some_iff hx _).1 hfind⟩
  · rintro ⟨k, hk⟩
    exact ⟨(k, w), (h.find_eq_some_iff hx _).2 hk, rfl⟩

theorem get?_set (h : OrderedOn m S) (hx : x ∈ S) (w : ν) {y : κ} (hy : y ∈ S) :
    (m.set x w).get? y = if Incomparable lt x y then some w else m.get? y := by
  have hset := h.set hx w
  split_ifs with hxy
  · rw [hset.get?_eq_some_iff hy]
    refine ⟨m.slot x, (h.mem_entries_set hx w _).2 (Or.inl rfl), ?_⟩
    exact h.order.incomp_trans _ (h.slot_mem hx) x hx y hy (h.slot_incomp hx) hxy
  · ext v
    rw [hset.get?_eq_some_iff hy, h.get?_eq_some_iff hy]
    refine exists_congr fun k => and_congr_left fun hky => ?_
    rw [h.mem_entries_set hx w]
    constructor
    · rintro (heq | ⟨hmem, -⟩)
      · obtain ⟨rfl, -⟩ := Prod.mk.inj heq
        exact absurd (h.order.incomp_trans x hx _ (h.slot_mem hx) y hy
          (h.slot_incomp hx).symm hky) hxy
      · exact hmem
    · intro hmem
      refine Or.inr ⟨hmem, fun hkx => hxy ?_⟩
      exact h.order.incomp_trans x hx k (h.keys_subset (mem_keys hmem)) y hy hkx.symm hky

theorem get?_erase (h : OrderedOn m S) (hx : x ∈ S) {y : κ} (hy : y ∈ S) :
    (m.erase x).get? y = if Incomparable lt x y then none else m.get? y := by
  have herase := h.erase hx
  split_ifs with hxy
  · rw [Option.eq_none_iff_forall_ne_some]
    intro w hw
    obtain ⟨k, hk, hky⟩ := (herase.get?_eq_some_iff hy w).1 hw
    obtain ⟨hmem, hkx⟩ := (h.mem_entries_erase hx _).1 hk
    exact hkx (h.order.incomp_trans k (h.keys_subset (mem_keys hmem)) y hy x hx hky
      hxy.symm)
  · ext v
    rw [herase.get?_eq_some_iff hy, h.get?_eq_some_iff hy]
    refine exists_congr fun k => and_congr_left fun hky => ?_
    rw [h.mem_entries_erase hx]
    constructor
    · exact fun hmem => hmem.1
    · intro hmem
      refine ⟨hmem, fun hkx => hxy ?_⟩
      exact h.order.incomp_trans x hx k (h.keys_subset (mem_keys hmem)) y hy hkx.symm hky

/-- Setting a value that is there changes no entry. -/
theorem entries_set_of_mem (h : OrderedOn m S) (hx : x ∈ S) {k : κ} {w : ν}
    (hk : (k, w) ∈ m.entries) (hinc : Incomparable lt k x) : (m.set x w).entries = m.entries := by
  obtain ⟨pre, post, hold, hnew⟩ :=
    SearchTree.toList_set_of_find (w := w) ((h.find_eq_some_iff hx (k, w)).2 ⟨hk, hinc⟩)
  rw [entries_set, hnew, ← hold]
  rfl

/-- When the probe compares with every other stored key it is stored under
itself. -/
theorem slot_eq_self (h : OrderedOn m S) (hx : x ∈ S)
    (hother : ∀ k ∈ m.keys, Incomparable lt k x → k = x) : m.slot x = x := by
  cases hfind : m.find x with
  | none => exact slot_of_find_eq_none hfind
  | some e =>
      obtain ⟨he, hinc⟩ := (h.find_eq_some_iff hx e).1 hfind
      exact (slot_of_find_eq_some hfind).trans (hother e.1 (mem_keys he) hinc)

theorem eq_of_incomp (h : OrderedOn m S) {k k' : κ} (hk : k ∈ m.keys) (hk' : k' ∈ m.keys)
    (hinc : Incomparable lt k k') : k = k' := by
  obtain ⟨v, hkv⟩ := hk
  obtain ⟨v', hkv'⟩ := hk'
  exact congrArg Prod.fst (h.sorted.eq_of_incomp hkv hkv' hinc)

/-- If the value arrives under the probe's own key, the probe compares with
every other stored key. -/
theorem eq_of_mem_set (h : OrderedOn m S) (hx : x ∈ S) {w : ν}
    (hmem : (x, w) ∈ (m.set x w).entries) {k : κ} (hk : k ∈ m.keys)
    (hinc : Incomparable lt k x) : k = x := by
  rcases (h.mem_entries_set hx w _).1 hmem with heq | ⟨-, hself⟩
  · cases hfind : m.find x with
    | none => exact absurd hinc ((h.find_eq_none_iff hx).1 hfind k hk)
    | some e =>
        have hxe : x = e.1 := (congrArg Prod.fst heq).trans (slot_of_find_eq_some hfind)
        have hstored : x ∈ m.keys := hxe ▸ mem_keys (of_find_eq_some hfind).1
        exact h.eq_of_incomp hk hstored hinc
  · exact absurd (h.order.incomp_self hx) hself

/-- When the probe compares with every other stored key, the entries that compare with it
are those of the other keys. -/
theorem mem_and_not_incomp_iff (h : OrderedOn m S) (hx : x ∈ S)
    (hother : ∀ k ∈ m.keys, Incomparable lt k x → k = x) (k : κ) (v : ν) :
    (k, v) ∈ m.entries ∧ ¬ Incomparable lt k x ↔ k ≠ x ∧ (k, v) ∈ m.entries := by
  constructor
  · rintro ⟨hmem, hinc⟩
    refine ⟨?_, hmem⟩
    rintro rfl
    exact hinc (h.order.incomp_self hx)
  · rintro ⟨hne, hmem⟩
    exact ⟨hmem, fun hinc => hne (hother k (mem_keys hmem) hinc)⟩

/-- An update is the update of a map keyed by the keys themselves exactly when
the probe compares with every other stored key. -/
theorem set_exact_iff (h : OrderedOn m S) (hx : x ∈ S) (w : ν) :
    (∀ k v, (k, v) ∈ (m.set x w).entries ↔ (k = x ∧ v = w) ∨ (k ≠ x ∧ (k, v) ∈ m.entries)) ↔
      ∀ k ∈ m.keys, Incomparable lt k x → k = x := by
  constructor
  · intro hexact k hk hinc
    exact h.eq_of_mem_set hx ((hexact x w).2 (Or.inl ⟨rfl, rfl⟩)) hk hinc
  · intro hother k v
    rw [h.mem_entries_set hx w, h.slot_eq_self hx hother, Prod.mk.injEq]
    exact or_congr_right (h.mem_and_not_incomp_iff hx hother k v)

/-- Two updates whose probes compare do not meet each other. -/
theorem set_set_exact_iff (h : OrderedOn m S) {y : κ} (hx : x ∈ S) (hy : y ∈ S)
    (hxy : ¬ Incomparable lt x y) (w z : ν) :
    (∀ k v, (k, v) ∈ ((m.set x w).set y z).entries ↔
        (k = x ∧ v = w) ∨ (k = y ∧ v = z) ∨ (k ≠ x ∧ k ≠ y ∧ (k, v) ∈ m.entries)) ↔
      (∀ k ∈ m.keys, Incomparable lt k x → k = x) ∧
        ∀ k ∈ m.keys, Incomparable lt k y → k = y := by
  have hset := h.set hx w
  have hne : x ≠ y := fun heq => hxy (heq ▸ h.order.incomp_self hx)
  constructor
  · intro hexact
    -- the first value is stored under its own key, so the first update is exact
    have hfirst : ∀ k ∈ m.keys, Incomparable lt k x → k = x := by
      intro k hk hinc
      have hmem := (hexact x w).2 (Or.inl ⟨rfl, rfl⟩)
      rcases (hset.mem_entries_set hy _ _).1 hmem with heq | ⟨hmem, -⟩
      · have hslot := hset.slot_incomp hy
        rw [← (Prod.mk.inj heq).1] at hslot
        exact absurd hslot hxy
      · exact h.eq_of_mem_set hx hmem hk hinc
    refine ⟨hfirst, fun k hk hinc => ?_⟩
    have hkx : k ≠ x := fun heq => hxy (heq ▸ hinc)
    obtain ⟨v, hkv⟩ := hk
    have hk' : k ∈ (m.set x w).keys :=
      ⟨v, ((h.set_exact_iff hx w).2 hfirst k v).2 (Or.inr ⟨hkx, hkv⟩)⟩
    exact hset.eq_of_mem_set hy ((hexact y z).2 (Or.inr (Or.inl ⟨rfl, rfl⟩))) hk' hinc
  · rintro ⟨hfirst, hsecond⟩ k v
    have hsecond' : ∀ k ∈ (m.set x w).keys, Incomparable lt k y → k = y := by
      intro k hk hinc
      rcases keys_set_subset _ _ _ hk with rfl | hk
      · exact absurd hinc hxy
      · exact hsecond k hk hinc
    rw [(hset.set_exact_iff hy z).2 hsecond' k v, (h.set_exact_iff hx w).2 hfirst k v]
    constructor
    · rintro (hnew | ⟨hky, hnew | ⟨hkx, hold⟩⟩)
      · exact Or.inr (Or.inl hnew)
      · exact Or.inl hnew
      · exact Or.inr (Or.inr ⟨hkx, hky, hold⟩)
    · rintro (⟨rfl, rfl⟩ | hnew | ⟨hkx, hky, hold⟩)
      · exact Or.inr ⟨hne, Or.inl ⟨rfl, rfl⟩⟩
      · exact Or.inl hnew
      · exact Or.inr ⟨hky, Or.inr ⟨hkx, hold⟩⟩

/-- The same for removal. -/
theorem erase_exact_iff (h : OrderedOn m S) (hx : x ∈ S) :
    (∀ k v, (k, v) ∈ (m.erase x).entries ↔ k ≠ x ∧ (k, v) ∈ m.entries) ↔
      ∀ k ∈ m.keys, Incomparable lt k x → k = x := by
  constructor
  · rintro hexact k ⟨v, hkv⟩ hinc
    by_contra hne
    have := (hexact k v).2 ⟨hne, hkv⟩
    exact ((h.mem_entries_erase hx _).1 this).2 hinc
  · intro hother k v
    rw [h.mem_entries_erase hx]
    exact h.mem_and_not_incomp_iff hx hother k v

end OrderedOn

end StdMap
