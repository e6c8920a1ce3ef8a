import Mathlib.Data.List.Basic

/-!
# Runs in a list

`Runs p l ws` says that `ws` are the maximal runs in `l` of elements with `p`, all of
them and in order. `runs p l` computes them, as the pieces between the other elements
that are not empty, and `runs_iff` says that it computes these and nothing else.
-/

variable {α : Type*} {p : α → Bool} {l l' w : List α} {ws : List (List α)} {c : α}

/-- `ws` are all maximal runs in the list of elements with `p`, in order. -/
inductive Runs (p : α → Bool) : List α → List (List α) → Prop
  | nil : Runs p [] []
  | skip {c : α} {l : List α} {ws : List (List α)} : p c = false → Runs p l ws →
      Runs p (c :: l) ws
  | run {w l : List α} {ws : List (List α)} : w ≠ [] → (∀ c ∈ w, p c = true) →
      (∀ c ∈ l.head?, p c = false) → Runs p l ws → Runs p (w ++ l) (w :: ws)

/-- The pieces between the elements without `p`, less the empty ones. -/
def runs (p : α → Bool) (l : List α) : List (List α) :=
  (l.splitOnP fun c => !p c).filter fun w => !w.isEmpty

@[simp] theorem runs_nil : runs p [] = [] := rfl

/-- An element without `p` ends a run and belongs to none. -/
theorem runs_append_cons (h : p c = false) (l l' : List α) :
    runs p (l ++ c :: l') = runs p l ++ runs p l' := by
  have hsep : (!p c) = true := by rw [h, Bool.not_false]
  unfold runs
  rw [List.splitOnP_append_cons l l' hsep, List.filter_append]

theorem runs_cons_of_false (h : p c = false) : runs p (c :: l) = runs p l :=
  runs_append_cons h [] l

/-- A run with nothing around it. -/
theorem runs_of_forall (hw : w ≠ []) (h : ∀ c ∈ w, p c = true) : runs p w = [w] := by
  have hnone : ∀ c ∈ w, (!p c) = false := fun c hc => by rw [h c hc, Bool.not_true]
  unfold runs
  rw [List.splitOnP_eq_singleton hnone]
  simp [hw]

/-- A run at the start. -/
theorem runs_append_cons_of_forall (hw : w ≠ []) (h : ∀ c ∈ w, p c = true)
    (hc : p c = false) : runs p (w ++ c :: l) = w :: runs p l := by
  rw [runs_append_cons hc, runs_of_forall hw h, List.singleton_append]

theorem Runs.eq_runs (h : Runs p l ws) : ws = runs p l := by
  induction h with
  | nil => rfl
  | skip hc _ ih => rw [runs_cons_of_false hc, ih]
  | @run w l ws hw hall hend _ ih =>
      cases l with
      | nil => rw [List.append_nil, runs_of_forall hw hall, ih, runs_nil]
      | cons c l =>
          have hc : p c = false := hend c rfl
          rw [runs_append_cons_of_forall hw hall hc, ih, runs_cons_of_false hc]

/-- Behind a run that has been found so far. -/
theorem runs_append_spec (l w : List α) (h : ∀ c ∈ w, p c = true) :
    Runs p (w ++ l) (runs p (w ++ l)) := by
  induction l generalizing w with
  | nil =>
      rw [List.append_nil]
      by_cases hw : w = []
      · rw [hw]
        exact Runs.nil
      · have hrun := Runs.run hw h (l := []) (fun _ hc => by cases hc) Runs.nil
        rw [List.append_nil] at hrun
        rwa [runs_of_forall hw h]
  | cons c l ih =>
      by_cases hc : p c = true
      · have hsnoc : w ++ c :: l = (w ++ [c]) ++ l := by simp
        rw [hsnoc]
        refine ih (w ++ [c]) fun d hd => ?_
        rcases List.mem_append.1 hd with hd | hd
        · exact h d hd
        · rw [List.mem_singleton.1 hd, hc]
      · rw [Bool.not_eq_true] at hc
        have hrest : Runs p l (runs p l) := ih [] fun _ hc => by cases hc
        by_cases hw : w = []
        · rw [hw, List.nil_append, runs_cons_of_false hc]
          exact Runs.skip hc hrest
        · rw [runs_append_cons_of_forall hw h hc]
          refine Runs.run hw h (fun d hd => ?_) (Runs.skip hc hrest)
          rw [← Option.some.inj hd, hc]

/-- The maximal runs of a list are determined, and `runs` computes them. -/
theorem runs_iff : Runs p l ws ↔ ws = runs p l := by
  constructor
  · exact Runs.eq_runs
  · rintro rfl
    exact runs_append_spec l [] fun _ hc => by cases hc

theorem Runs.flatten_eq (h : Runs p l ws) : ws.flatten = l.filter p := by
  induction h with
  | nil => rfl
  | skip hc _ ih => rw [ih, List.filter_cons_of_neg (by rw [hc]; exact Bool.false_ne_true)]
  | run _ hall _ _ ih =>
      rw [List.flatten_cons, ih, List.filter_append, List.filter_eq_self.2 hall]

/-- The runs have the elements with `p`, all of them. -/
theorem flatten_runs (p : α → Bool) (l : List α) : (runs p l).flatten = l.filter p :=
  (runs_iff.2 rfl).flatten_eq

theorem length_runs_le (p : α → Bool) (l : List α) : (runs p l).length ≤ l.length := by
  have h : Runs p l (runs p l) := runs_iff.2 rfl
  generalize runs p l = ws at h
  induction h with
  | nil => exact Nat.le_refl _
  | skip _ _ ih => exact Nat.le_succ_of_le ih
  | run hw _ _ _ ih =>
      have hpos := List.length_pos_iff.2 hw
      rw [List.length_cons, List.length_append]
      omega

theorem runs_of_none (h : ∀ c ∈ l, p c = false) : runs p l = [] := by
  induction l with
  | nil => rfl
  | cons c l ih =>
      rw [runs_cons_of_false (h c List.mem_cons_self)]
      exact ih fun d hd => h d (List.mem_cons_of_mem c hd)

/-- A part that is cut off at the end is missed exactly when it has an element of a run. -/
theorem runs_append_eq_iff : runs p (l ++ l') = runs p l ↔ ∀ c ∈ l', p c = false := by
  constructor
  · intro h c hc
    have hflat := congrArg List.flatten h
    rw [flatten_runs, flatten_runs, List.filter_append, List.append_right_eq_self,
      List.filter_eq_nil_iff] at hflat
    exact Bool.eq_false_iff.2 (hflat c hc)
  · intro h
    cases l' with
    | nil => rw [List.append_nil]
    | cons c l' =>
        rw [runs_append_cons (h c List.mem_cons_self),
          runs_of_none fun d hd => h d (List.mem_cons_of_mem c hd), List.append_nil]
