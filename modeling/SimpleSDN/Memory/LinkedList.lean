import Mathlib.Data.List.Nodup
import Mathlib.Data.List.Perm.Subperm
import Std.Data.ExtTreeMap

/-!
# Singly linked lists in memory

`Memory β` holds cells, each with a value and a link to the next cell. `Chain m p l q`
says that from the link `p` on the cells `l` follow one another and that the last of
them links to `q`; a chain that ends in `none` has no cell twice. `walk` is the loop that
follows the links until a test succeeds, and keeps the cell before the one it looks at.
It is given as many turns as there are cells, since a loop that takes more never ends.
-/

namespace LinkedList

/-- A cell: its value and the address of the next one. -/
structure Cell (β : Type) where
  val : β
  next : Option ℕ

/-- The cells that are allocated, by their addresses. -/
abbrev Memory (β : Type) := Std.ExtTreeMap ℕ (Cell β)

variable {β : Type} {m m' : Memory β} {p q r : Option ℕ} {l l' : List (ℕ × β)}

namespace Memory

theorem mem_iff {γ : Type} (m : Std.ExtTreeMap ℕ γ) (a : ℕ) : a ∈ m ↔ ∃ c, m[a]? = some c := by
  rw [Std.ExtTreeMap.mem_iff_isSome_getElem?, Option.isSome_iff_exists]

/-- `a->next = q`; there must be a cell at `a`. -/
def setNext (m : Memory β) (a : ℕ) (q : Option ℕ) : Option (Memory β) :=
  (m[a]?).map fun c => m.insert a { c with next := q }

theorem setNext_of_getElem? {a : ℕ} {c : Cell β} (h : m[a]? = some c) (q : Option ℕ) :
    m.setNext a q = some (m.insert a { c with next := q }) := by
  rw [setNext, h, Option.map_some]

/-- Distinct addresses with cells are no more than there are cells. -/
theorem length_le_size {as : List ℕ} (hnodup : as.Nodup) (hmem : ∀ a ∈ as, m[a]? ≠ none) :
    as.length ≤ m.size := by
  rw [← Std.ExtTreeMap.length_keys]
  refine (List.subperm_of_subset hnodup fun a ha => ?_).length_le
  rw [Std.ExtTreeMap.mem_keys, mem_iff]
  exact Option.ne_none_iff_exists'.1 (hmem a ha)

end Memory

/-- From `p` on the links lead through the cells `l` to `q`. -/
def Chain (m : Memory β) : Option ℕ → List (ℕ × β) → Option ℕ → Prop
  | p, [], q => p = q
  | p, (a, v) :: l, q => p = some a ∧ ∃ n, m[a]? = some ⟨v, n⟩ ∧ Chain m n l q

/-- The address of the first cell, or `q` when there is none. -/
def link (l : List (ℕ × β)) (q : Option ℕ) : Option ℕ := (l.head?.map Prod.fst).or q

@[simp] theorem link_nil (q : Option ℕ) : link ([] : List (ℕ × β)) q = q := rfl

@[simp] theorem link_cons (x : ℕ × β) (l : List (ℕ × β)) (q : Option ℕ) :
    link (x :: l) q = some x.1 := rfl

namespace Chain

theorem start_eq (h : Chain m p l q) : p = link l q := by
  cases l with
  | nil => exact h
  | cons x l => exact h.1

theorem append_iff : Chain m p (l ++ l') q ↔ ∃ r, Chain m p l r ∧ Chain m r l' q := by
  induction l generalizing p with
  | nil => exact ⟨fun h => ⟨p, rfl, h⟩, fun ⟨r, hr, h⟩ => hr ▸ h⟩
  | cons x l ih =>
      constructor
      · rintro ⟨hp, n, hn, hrest⟩
        obtain ⟨r, hl, hl'⟩ := ih.1 hrest
        exact ⟨r, ⟨hp, n, hn, hl⟩, hl'⟩
      · rintro ⟨r, ⟨hp, n, hn, hl⟩, hl'⟩
        exact ⟨hp, n, hn, ih.2 ⟨r, hl, hl'⟩⟩

/-- A cell of a chain, with its link. -/
theorem getElem?_of_append {x : ℕ × β} (h : Chain m p (l ++ x :: l') q) :
    m[x.1]? = some ⟨x.2, link l' q⟩ := by
  obtain ⟨r, -, -, n, hn, hrest⟩ := append_iff.1 h
  rw [hn, hrest.start_eq]

theorem getElem?_of_mem {x : ℕ × β} (h : Chain m p l q) (hx : x ∈ l) :
    ∃ n, m[x.1]? = some ⟨x.2, n⟩ := by
  obtain ⟨pre, post, rfl⟩ := List.append_of_mem hx
  exact ⟨_, h.getElem?_of_append⟩

/-- A chain is the same in a memory with the same cells. -/
theorem frame (h : Chain m p l q) (hsame : ∀ x ∈ l, m'[x.1]? = m[x.1]?) : Chain m' p l q := by
  induction l generalizing p with
  | nil => exact h
  | cons x l ih =>
      obtain ⟨hp, n, hn, hrest⟩ := h
      refine ⟨hp, n, (hsame x List.mem_cons_self).trans hn, ih hrest fun y hy => ?_⟩
      exact hsame y (List.mem_cons_of_mem x hy)

/-- The links from a place on lead to one list of cells only. -/
theorem unique (h : Chain m p l none) (h' : Chain m p l' none) : l = l' := by
  induction l generalizing p l' with
  | nil =>
      obtain rfl : p = none := h
      cases l' with
      | nil => rfl
      | cons x l' => exact absurd h'.1.symm (Option.some_ne_none _)
  | cons x l ih =>
      obtain ⟨rfl, n, hn, hrest⟩ := h
      cases l' with
      | nil => exact absurd h' (Option.some_ne_none _)
      | cons y l' =>
          obtain ⟨hp, n', hn', hrest'⟩ := h'
          have haddr : x.1 = y.1 := Option.some.inj hp
          rw [haddr, hn'] at hn
          obtain ⟨hval, rfl⟩ := Cell.mk.inj (Option.some.inj hn)
          exact congrArg₂ List.cons (Prod.ext haddr hval.symm) (ih hrest hrest')

/-- No cell comes twice in a chain that ends. -/
theorem nodup (h : Chain m p l none) : (l.map Prod.fst).Nodup := by
  induction l generalizing p with
  | nil => exact List.nodup_nil
  | cons x l ih =>
      have hrest := h
      obtain ⟨-, n, -, hchain⟩ := hrest
      refine List.nodup_cons.2 ⟨fun hmem => ?_, ih hchain⟩
      obtain ⟨y, hy, haddr⟩ := List.mem_map.1 hmem
      obtain ⟨pre, post, rfl⟩ := List.append_of_mem hy
      -- the chain from the second place on would be the whole chain
      obtain ⟨r, -, hlater⟩ := append_iff.1 hchain
      have hr : r = p := by rw [hlater.1, h.1, haddr]
      have hlen := congrArg List.length (unique h (hr ▸ hlater))
      simp only [List.length_cons, List.length_append] at hlen
      omega

theorem length_le (h : Chain m p l none) : l.length ≤ m.size := by
  rw [← List.length_map (f := Prod.fst)]
  refine Memory.length_le_size h.nodup fun a ha => ?_
  obtain ⟨x, hx, rfl⟩ := List.mem_map.1 ha
  obtain ⟨n, hn⟩ := h.getElem?_of_mem hx
  rw [hn]
  exact Option.some_ne_none _

/-- A new cell in front of a chain. -/
theorem push (h : Chain m p l q) {a : ℕ} (v : β) (ha : a ∉ l.map Prod.fst) :
    Chain (m.insert a ⟨v, p⟩) (some a) ((a, v) :: l) q := by
  refine ⟨rfl, p, ?_, h.frame fun x hx => ?_⟩
  · rw [Std.ExtTreeMap.getElem?_insert_self]
  · rw [Std.ExtTreeMap.getElem?_insert, if_neg (mt Std.compare_eq_iff_eq.1 ?_)]
    rintro rfl
    exact ha (List.mem_map_of_mem hx)

/-- The link of the last cell of a chain is changed. -/
theorem setLast {x : ℕ × β} (h : Chain m p (l ++ [x]) q) (hx : x.1 ∉ l.map Prod.fst)
    (q' : Option ℕ) : Chain (m.insert x.1 ⟨x.2, q'⟩) p (l ++ [x]) q' := by
  obtain ⟨r, hl, hr, -⟩ := append_iff.1 h
  refine append_iff.2 ⟨r, hl.frame fun y hy => ?_, hr, q', ?_, rfl⟩
  · rw [Std.ExtTreeMap.getElem?_insert, if_neg (mt Std.compare_eq_iff_eq.1 ?_)]
    intro heq
    exact hx (List.mem_map.2 ⟨y, hy, heq.symm⟩)
  · rw [Std.ExtTreeMap.getElem?_insert_self]

theorem notMem_of_middle {x : ℕ × β} (h : Chain m p (l ++ x :: l') none) :
    x.1 ∉ l.map Prod.fst ∧ x.1 ∉ l'.map Prod.fst := by
  have hnodup := h.nodup
  rw [List.map_append, List.map_cons, List.nodup_middle, List.nodup_cons, List.mem_append] at hnodup
  exact not_or.1 hnodup.1

/-- The link of a cell is changed to a place from which other cells follow. -/
theorem relink {x : ℕ × β} (h : Chain m p (l ++ x :: l') none) {l'' : List (ℕ × β)}
    {q : Option ℕ} (hnew : x.1 ∉ l''.map Prod.fst) (hq : Chain m q l'' none) :
    Chain (m.insert x.1 ⟨x.2, q⟩) p (l ++ x :: l'') none := by
  rw [List.append_cons]
  have hleft := h
  rw [List.append_cons] at hleft
  obtain ⟨r, hleft, -⟩ := append_iff.1 hleft
  refine append_iff.2 ⟨q, hleft.setLast h.notMem_of_middle.1 q, hq.frame fun y hy => ?_⟩
  rw [Std.ExtTreeMap.getElem?_insert, if_neg (mt Std.compare_eq_iff_eq.1 ?_)]
  intro heq
  exact hnew (List.mem_map.2 ⟨y, hy, heq.symm⟩)

/-- A cell is taken out behind another. -/
theorem unlink {x y : ℕ × β} (h : Chain m p (l ++ x :: y :: l') none) :
    Chain (m.insert x.1 ⟨x.2, link l' none⟩) p (l ++ x :: l') none := by
  obtain ⟨r, -, -, n, -, -, n', -, hrest⟩ := append_iff.1 h
  have hnew := h.notMem_of_middle.2
  rw [List.map_cons, List.mem_cons, not_or] at hnew
  exact h.relink hnew.2 (hrest.start_eq ▸ hrest)

/-- A cell that links to what follows another is put in behind that other. -/
theorem insertAfter {x : ℕ × β} (h : Chain m p (l ++ x :: l') none) {a : ℕ} {v : β}
    (ha : m[a]? = some ⟨v, link l' none⟩) (hne : x.1 ≠ a) :
    Chain (m.insert x.1 ⟨x.2, some a⟩) p (l ++ x :: (a, v) :: l') none := by
  obtain ⟨r, -, -, n, -, hrest⟩ := append_iff.1 h
  refine h.relink ?_ ⟨rfl, _, ha, hrest.start_eq ▸ hrest⟩
  rw [List.map_cons, List.mem_cons, not_or]
  exact ⟨hne, h.notMem_of_middle.2⟩

end Chain

/-- `while (ptr && !stop(ptr)) { last = ptr; ptr = ptr->next; }`, in at most as many turns.
What follows a dangling link, and a test that is not defined, has no result. -/
def walk (m : Memory β) (stop : ℕ → β → Option Bool) :
    ℕ → Option ℕ → Option ℕ → Option (Option ℕ × Option ℕ)
  | 0, _, _ => none
  | _ + 1, last, none => some (last, none)
  | turns + 1, last, some ptr =>
      (m[ptr]?).bind fun c => (stop ptr c.val).bind fun found =>
        if found then some (last, some ptr) else walk m stop turns (some ptr) c.next

/-- The loop stops at the first cell that passes the test, or at the end. -/
theorem walk_of_chain (stop : ℕ → β → Option Bool) {turns : ℕ} (last : Option ℕ)
    (h : Chain m p (l ++ l') none) (hl : ∀ x ∈ l, stop x.1 x.2 = some false)
    (hl' : ∀ x ∈ l'.head?, stop x.1 x.2 = some true) (hturns : l.length < turns) :
    walk m stop turns last p = some ((l.getLast?.map Prod.fst).or last, link l' none) := by
  induction l generalizing p turns last with
  | nil =>
      obtain ⟨turns, rfl⟩ := Nat.exists_eq_succ_of_ne_zero (Nat.ne_of_gt hturns)
      cases l' with
      | nil =>
          obtain rfl : p = none := h
          rfl
      | cons x l' =>
          obtain ⟨rfl, n, hn, -⟩ := h
          have hfound : stop x.1 x.2 = some true := hl' x rfl
          simp [walk, hn, hfound]
  | cons x l ih =>
      obtain ⟨turns, rfl⟩ := Nat.exists_eq_succ_of_ne_zero (Nat.ne_of_gt (Nat.zero_lt_of_lt hturns))
      obtain ⟨rfl, n, hn, hrest⟩ := h
      have hnot : stop x.1 x.2 = some false := hl x List.mem_cons_self
      have hmore := ih (some x.1) hrest
        (fun y hy => hl y (List.mem_cons_of_mem x hy)) (Nat.lt_of_succ_lt_succ hturns)
      have hlast : ((x :: l).getLast?.map Prod.fst).or last =
          (l.getLast?.map Prod.fst).or (some x.1) := by
        cases l with
        | nil => rfl
        | cons y l => simp [List.getLast?_cons]
      rw [hlast, ← hmore]
      simp [walk, hn, hnot]

end LinkedList
