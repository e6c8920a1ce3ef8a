import Mathlib.Data.List.Basic

/-!
# Search trees driven by an arbitrary comparator

`SearchTree κ ν` is a binary search tree whose nodes carry a key, a value and a
colour bit. Nothing is assumed of the comparator `lt`: every search is the
descent that compares the probe with the key of each node, so the definitions
also say what happens when `lt` is not an order. The in-order sequence
`toList` is the only thing a client can observe besides the searches, and a
descent cuts it in two parts: `before p t`, everything left of the path, and
`after p t`, everything right of it.
-/

/-- A binary search tree with a colour bit at each node. -/
inductive SearchTree (κ ν : Type) where
  | nil : SearchTree κ ν
  | node (red : Bool) (l : SearchTree κ ν) (k : κ) (v : ν) (r : SearchTree κ ν) :
      SearchTree κ ν

namespace SearchTree

variable {κ ν : Type}

/-- The entries in order. -/
def toList : SearchTree κ ν → List (κ × ν)
  | nil => []
  | node _ l k v r => toList l ++ (k, v) :: toList r

/-- The entries left of the descent that goes right at the keys satisfying
`p`. -/
def before (p : κ → Bool) : SearchTree κ ν → List (κ × ν)
  | nil => []
  | node _ l k v r => if p k then toList l ++ (k, v) :: before p r else before p l

/-- The entries right of the descent that goes right at the keys satisfying
`p`. -/
def after (p : κ → Bool) : SearchTree κ ν → List (κ × ν)
  | nil => []
  | node _ l k v r => if p k then after p r else after p l ++ (k, v) :: toList r

@[simp] theorem toList_nil : (nil : SearchTree κ ν).toList = [] := rfl

theorem before_append_after (p : κ → Bool) (t : SearchTree κ ν) :
    before p t ++ after p t = t.toList := by
  induction t with
  | nil => rfl
  | node red l k v r ihl ihr =>
      by_cases hk : p k = true
      · simp [before, after, toList, hk, ihr]
      · simp [before, after, toList, hk, ← ihl]

/-! ### Lookup -/

/-- The last node at which the descent for `x` turned left: the entry whose key
the descent takes for the least one that is not less than `x`. -/
def lowerBound (lt : κ → κ → Bool) (x : κ) : SearchTree κ ν → Option (κ × ν)
  | nil => none
  | node _ l k v r =>
      if lt k x then lowerBound lt x r else (lowerBound lt x l).or (some (k, v))

/-- The lower bound, when `x` is not less than its key either. -/
def find (lt : κ → κ → Bool) (x : κ) (t : SearchTree κ ν) : Option (κ × ν) :=
  match lowerBound lt x t with
  | none => none
  | some (k, v) => if lt x k then none else some (k, v)

theorem lowerBound_eq_head? (lt : κ → κ → Bool) (x : κ) (t : SearchTree κ ν) :
    lowerBound lt x t = (after (fun k => lt k x) t).head? := by
  induction t with
  | nil => rfl
  | node red l k v r ihl ihr =>
      by_cases hk : lt k x = true
      · simp [lowerBound, after, hk, ihr]
      · simp [lowerBound, after, hk, ihl, List.head?_append]

theorem not_lt_of_lowerBound {lt : κ → κ → Bool} {x : κ} {t : SearchTree κ ν}
    {e : κ × ν} (h : lowerBound lt x t = some e) : lt e.1 x = false := by
  induction t with
  | nil => simp [lowerBound] at h
  | node red l k v r ihl ihr =>
      by_cases hk : lt k x = true
      · exact ihr (by simpa [lowerBound, hk] using h)
      · cases hl : lowerBound lt x l with
        | none =>
            obtain rfl : (k, v) = e := by simpa [lowerBound, hk, hl] using h
            simpa using hk
        | some e' =>
            obtain rfl : e' = e := by simpa [lowerBound, hk, hl] using h
            exact ihl hl

theorem mem_toList_of_mem_after {p : κ → Bool} {t : SearchTree κ ν} {e : κ × ν}
    (h : e ∈ after p t) : e ∈ t.toList := by
  rw [← before_append_after p t]
  exact List.mem_append_right _ h

/-- Whatever the comparator is, a key that is found is stored and neither side
of the comparison with the probe holds. -/
theorem of_find_eq_some {lt : κ → κ → Bool} {x : κ} {t : SearchTree κ ν}
    {e : κ × ν} (h : find lt x t = some e) :
    e ∈ t.toList ∧ lt e.1 x = false ∧ lt x e.1 = false := by
  unfold find at h
  cases hb : lowerBound lt x t with
  | none => simp [hb] at h
  | some e' =>
      have hlt := not_lt_of_lowerBound hb
      by_cases hx : lt x e'.1 = true
      · simp [hb, hx] at h
      · obtain rfl : e' = e := by simpa [hb, hx] using h
        refine ⟨?_, hlt, by simpa using hx⟩
        rw [lowerBound_eq_head?] at hb
        exact mem_toList_of_mem_after (List.mem_of_head? hb)

/-! ### Update -/

/-- A new leaf at the end of the descent for `x`. -/
def insertLeaf (lt : κ → κ → Bool) (x : κ) (w : ν) : SearchTree κ ν → SearchTree κ ν
  | nil => node true nil x w nil
  | node c l k v r =>
      if lt k x then node c l k v (insertLeaf lt x w r)
      else node c (insertLeaf lt x w l) k v r

/-- The value at the lower bound of `x` is replaced; its key stays. -/
def assign (lt : κ → κ → Bool) (x : κ) (w : ν) : SearchTree κ ν → SearchTree κ ν
  | nil => nil
  | node c l k v r =>
      if lt k x then node c l k v (assign lt x w r)
      else if (lowerBound lt x l).isSome then node c (assign lt x w l) k v r
      else node c l k w r

/-- `t[x] = w`: the value of the key found for `x`, or else a new entry. -/
def set (lt : κ → κ → Bool) (x : κ) (w : ν) (t : SearchTree κ ν) : SearchTree κ ν :=
  if (find lt x t).isSome then assign lt x w t else insertLeaf lt x w t

theorem toList_insertLeaf (lt : κ → κ → Bool) (x : κ) (w : ν) (t : SearchTree κ ν) :
    (insertLeaf lt x w t).toList =
      before (fun k => lt k x) t ++ (x, w) :: after (fun k => lt k x) t := by
  induction t with
  | nil => rfl
  | node c l k v r ihl ihr =>
      by_cases hk : lt k x = true
      · simp [insertLeaf, toList, before, after, hk, ihr]
      · simp [insertLeaf, toList, before, after, hk, ihl]

theorem toList_assign (lt : κ → κ → Bool) (x : κ) (w : ν) (t : SearchTree κ ν) :
    (assign lt x w t).toList =
      before (fun k => lt k x) t ++
        (after (fun k => lt k x) t).modifyHead fun e => (e.1, w) := by
  induction t with
  | nil => rfl
  | node c l k v r ihl ihr =>
      by_cases hk : lt k x = true
      · simp [assign, toList, before, after, hk, ihr]
      · cases hl : after (fun k => lt k x) l with
        | nil =>
            have hbefore := before_append_after (fun k => lt k x) l
            simp only [hl, List.append_nil] at hbefore
            simp [assign, toList, before, after, hk, lowerBound_eq_head?, hl, hbefore]
        | cons e es =>
            simp [assign, toList, before, after, hk, lowerBound_eq_head?, hl, ihl]

/-! ### Removal -/

/-- Two trees side by side. -/
def join : SearchTree κ ν → SearchTree κ ν → SearchTree κ ν
  | nil, t => t
  | node c l k v r, t => node c l k v (join r t)

/-- The tree of the entries left of a descent. -/
def keepBefore (p : κ → Bool) : SearchTree κ ν → SearchTree κ ν
  | nil => nil
  | node c l k v r => if p k then node c l k v (keepBefore p r) else keepBefore p l

/-- The tree of the entries right of a descent. -/
def keepAfter (p : κ → Bool) : SearchTree κ ν → SearchTree κ ν
  | nil => nil
  | node c l k v r => if p k then keepAfter p r else node c (keepAfter p l) k v r

/-- Erasing by key: at the first node on the descent that compares with `x` in
neither direction, everything from the lower bound of `x` in its left subtree
to the upper bound of `x` in its right subtree goes. -/
def erase (lt : κ → κ → Bool) (x : κ) : SearchTree κ ν → SearchTree κ ν
  | nil => nil
  | node c l k v r =>
      if lt k x then node c l k v (erase lt x r)
      else if lt x k then node c (erase lt x l) k v r
      else join (keepBefore (fun k => lt k x) l) (keepAfter (fun k => !lt x k) r)

@[simp] theorem toList_join (s t : SearchTree κ ν) :
    (join s t).toList = s.toList ++ t.toList := by
  induction s with
  | nil => rfl
  | node c l k v r ihl ihr => simp [join, toList, ihr]

@[simp] theorem toList_keepBefore (p : κ → Bool) (t : SearchTree κ ν) :
    (keepBefore p t).toList = before p t := by
  induction t with
  | nil => rfl
  | node c l k v r ihl ihr =>
      by_cases hk : p k = true
      · simp [keepBefore, toList, before, hk, ihr]
      · simp [keepBefore, before, hk, ihl]

@[simp] theorem toList_keepAfter (p : κ → Bool) (t : SearchTree κ ν) :
    (keepAfter p t).toList = after p t := by
  induction t with
  | nil => rfl
  | node c l k v r ihl ihr =>
      by_cases hk : p k = true
      · simp [keepAfter, after, hk, ihr]
      · simp [keepAfter, toList, after, hk, ihl]

theorem mem_toList_of_mem_before {p : κ → Bool} {t : SearchTree κ ν} {e : κ × ν}
    (h : e ∈ before p t) : e ∈ t.toList := by
  rw [← before_append_after p t]
  exact List.mem_append_left _ h

/-- Whatever the comparator is, erasing adds no entry. -/
theorem mem_of_mem_erase {lt : κ → κ → Bool} {x : κ} {t : SearchTree κ ν}
    {e : κ × ν} (h : e ∈ (erase lt x t).toList) : e ∈ t.toList := by
  induction t with
  | nil => simp [erase] at h
  | node c l k v r ihl ihr =>
      by_cases hk : lt k x = true
      · simp only [erase, hk, if_true, toList, List.mem_append, List.mem_cons] at h ⊢
        rcases h with hl | hkv | hr
        · exact Or.inl hl
        · exact Or.inr (Or.inl hkv)
        · exact Or.inr (Or.inr (ihr hr))
      · by_cases hx : lt x k = true
        · simp only [erase, hk, hx, if_true, Bool.false_eq_true, if_false, toList,
            List.mem_append, List.mem_cons] at h ⊢
          rcases h with hl | hkv | hr
          · exact Or.inl (ihl hl)
          · exact Or.inr (Or.inl hkv)
          · exact Or.inr (Or.inr hr)
        · simp only [erase, hk, hx, Bool.false_eq_true, if_false, toList_join,
            toList_keepBefore, toList_keepAfter, toList, List.mem_append,
            List.mem_cons] at h ⊢
          rcases h with hl | hr
          · exact Or.inl (mem_toList_of_mem_before hl)
          · exact Or.inr (Or.inr (mem_toList_of_mem_after hr))

end SearchTree
