import Mathlib.Data.List.Basic

/-!
# Traces

`Guarded G l` says of a list of things that happened, oldest first, that each
of them was allowed by what happened before it. A trace grows at its end, so
the rules of this file follow the appends.
-/

variable {α : Type}

/-- Every element of the trace is allowed by the elements before it. -/
def Guarded (G : List α → α → Prop) (l : List α) : Prop :=
  ∀ pre x post, l = pre ++ x :: post → G pre x

theorem guarded_nil (G : List α → α → Prop) : Guarded G [] := by
  intro pre x post h
  simp at h

theorem guarded_append_singleton {G : List α → α → Prop} {l : List α} {x : α} :
    Guarded G (l ++ [x]) ↔ Guarded G l ∧ G l x := by
  constructor
  · intro h
    refine ⟨fun pre y post hl => h pre y (post ++ [x]) ?_, h l x [] rfl⟩
    rw [hl, List.append_assoc, List.cons_append]
  · rintro ⟨h, hx⟩ pre y post hl
    rcases List.eq_nil_or_concat post with rfl | ⟨post, z, rfl⟩
    · obtain ⟨rfl, hlast⟩ := List.append_inj' hl rfl
      obtain rfl := List.singleton_inj.1 hlast
      exact hx
    · have hl' : l ++ [x] = (pre ++ y :: post) ++ [z] := by simpa using hl
      exact h pre y post (List.append_inj' hl' rfl).1

/-- What is always allowed can be added. -/
theorem Guarded.append {G : List α → α → Prop} {l xs : List α} (h : Guarded G l)
    (hxs : ∀ x ∈ xs, ∀ pre, G pre x) : Guarded G (l ++ xs) := by
  induction xs generalizing l with
  | nil => simpa using h
  | cons x xs ih =>
      have hx : Guarded G (l ++ [x]) :=
        guarded_append_singleton.2 ⟨h, hxs x (List.mem_cons_self ..) l⟩
      have hrest := ih hx fun y hy => hxs y (List.mem_cons_of_mem x hy)
      rwa [List.append_assoc, List.singleton_append] at hrest
