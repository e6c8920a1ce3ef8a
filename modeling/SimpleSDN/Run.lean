import Mathlib.Data.List.Basic
import Mathlib.Data.List.Induction

/-!
# Runs of a partial step function

`step : σ → ε → Option σ` is one transition of a program on an input; `none`
stands for a step whose behaviour is undefined. `run step s es` feeds the inputs
one after the other. `Along step P s es` says that `P` holds of every
transition of the run, so that a condition on the steps of a run and a property
of the steps of a run are written the same way, and `Along.imp_of_invariant` is
the induction over the run, done once. `Throughout step P s es` says that `P` holds
of every input where it arrives, whether or not the step is defined.
-/

variable {σ ε : Type}

/-- The state after the inputs `es`. -/
def run (step : σ → ε → Option σ) : σ → List ε → Option σ
  | s, [] => some s
  | s, e :: es => (step s e).bind fun s' => run step s' es

/-- `P` holds of every transition of the run. -/
def Along (step : σ → ε → Option σ) (P : σ → ε → σ → Prop) : σ → List ε → Prop
  | _, [] => True
  | s, e :: es => ∀ s', step s e = some s' → P s e s' ∧ Along step P s' es

@[simp] theorem run_nil (step : σ → ε → Option σ) (s : σ) : run step s [] = some s := rfl

theorem run_cons {step : σ → ε → Option σ} {s t : σ} {e : ε} {es : List ε} :
    run step s (e :: es) = some t ↔ ∃ s', step s e = some s' ∧ run step s' es = some t := by
  simp [run, Option.bind_eq_some_iff]

theorem run_append {step : σ → ε → Option σ} {s t : σ} {es fs : List ε} :
    run step s (es ++ fs) = some t ↔
      ∃ u, run step s es = some u ∧ run step u fs = some t := by
  induction es generalizing s with
  | nil => simp
  | cons e es ih =>
      rw [List.cons_append, run_cons]
      constructor
      · rintro ⟨s', hstep, hrun⟩
        obtain ⟨u, hu, ht⟩ := ih.1 hrun
        exact ⟨u, run_cons.2 ⟨s', hstep, hu⟩, ht⟩
      · rintro ⟨u, hu, ht⟩
        obtain ⟨s', hstep, hrun⟩ := run_cons.1 hu
        exact ⟨s', hstep, ih.2 ⟨u, hrun, ht⟩⟩

/-- An invariant that every transition keeps, if it meets the condition `Q`,
holds after every run whose transitions meet `Q`. -/
theorem run_invariant {step : σ → ε → Option σ} {Q : σ → ε → σ → Prop} {I : σ → Prop}
    (hstep : ∀ s e s', I s → step s e = some s' → Q s e s' → I s')
    {s t : σ} {es : List ε} (hs : I s) (hQ : Along step Q s es)
    (hrun : run step s es = some t) : I t := by
  induction es generalizing s with
  | nil =>
      obtain rfl : s = t := by simpa using hrun
      exact hs
  | cons e es ih =>
      obtain ⟨s', he, hrest⟩ := run_cons.1 hrun
      obtain ⟨hq, hQ'⟩ := hQ s' he
      exact ih (hstep s e s' hs he hq) hQ' hrest

/-- The same for an invariant of the state and the inputs read before it: it holds
after every beginning of the run. -/
theorem run_history {step : σ → ε → Option σ} {I : List ε → σ → Prop} {s₀ : σ} {es : List ε}
    (hstart : I [] s₀)
    (hstep : ∀ pre e post s s', es = pre ++ e :: post → run step s₀ pre = some s →
      step s e = some s' → I pre s → I (pre ++ [e]) s')
    {pre post : List ε} {s : σ} (hes : es = pre ++ post) (hrun : run step s₀ pre = some s) :
    I pre s := by
  induction pre using List.reverseRecOn generalizing post s with
  | nil =>
      obtain rfl : s₀ = s := by simpa using hrun
      exact hstart
  | append_singleton pre e ih =>
      obtain ⟨s₁, hpre, hrest⟩ := run_append.1 hrun
      obtain ⟨s₂, he, hend⟩ := run_cons.1 hrest
      obtain rfl : s₂ = s := by simpa using hend
      rw [List.append_assoc] at hes
      exact hstep pre e post s₁ s₂ hes hpre he (ih hes hpre)

/-- From a condition on the transitions to a property of the transitions, along
an invariant. -/
theorem Along.imp_of_invariant {step : σ → ε → Option σ} {Q P : σ → ε → σ → Prop}
    {I : σ → Prop}
    (hstep : ∀ s e s', I s → step s e = some s' → Q s e s' → I s' ∧ P s e s')
    {s : σ} {es : List ε} (hs : I s) (hQ : Along step Q s es) : Along step P s es := by
  induction es generalizing s with
  | nil => trivial
  | cons e es ih =>
      intro s' he
      obtain ⟨hq, hQ'⟩ := hQ s' he
      obtain ⟨hs', hp⟩ := hstep s e s' hs he hq
      exact ⟨hp, ih hs' hQ'⟩

theorem Along.and {step : σ → ε → Option σ} {P Q : σ → ε → σ → Prop} {s : σ} {es : List ε}
    (hP : Along step P s es) (hQ : Along step Q s es) :
    Along step (fun s e s' => P s e s' ∧ Q s e s') s es := by
  induction es generalizing s with
  | nil => trivial
  | cons e es ih =>
      intro s' he
      exact ⟨⟨(hP s' he).1, (hQ s' he).1⟩, ih (hP s' he).2 (hQ s' he).2⟩

theorem Along.imp {step : σ → ε → Option σ} {Q P : σ → ε → σ → Prop}
    (hstep : ∀ s e s', step s e = some s' → Q s e s' → P s e s')
    {s : σ} {es : List ε} (hQ : Along step Q s es) : Along step P s es :=
  Along.imp_of_invariant (I := fun _ => True)
    (fun s e s' _ he hq => ⟨trivial, hstep s e s' he hq⟩) trivial hQ

theorem Along.congr {step : σ → ε → Option σ} {P Q : σ → ε → σ → Prop}
    (hstep : ∀ s e s', step s e = some s' → (P s e s' ↔ Q s e s'))
    {s : σ} {es : List ε} : Along step P s es ↔ Along step Q s es :=
  ⟨Along.imp fun s e s' he => (hstep s e s' he).1, Along.imp fun s e s' he => (hstep s e s' he).2⟩

instance Along.decidable {step : σ → ε → Option σ} {P : σ → ε → σ → Prop}
    [∀ s e s', Decidable (P s e s')] : ∀ s es, Decidable (Along step P s es)
  | _, [] => .isTrue trivial
  | s, e :: es =>
      match hstep : step s e with
      | none => .isTrue fun s' he => absurd (hstep.symm.trans he) (by simp)
      | some s' =>
          haveI : Decidable (Along step P s' es) := Along.decidable s' es
          decidable_of_iff (P s e s' ∧ Along step P s' es)
            ⟨fun h s'' he => Option.some.inj (hstep.symm.trans he) ▸ h, fun h => h s' hstep⟩

/-- What holds along a run holds along its continuation from a state reached. -/
theorem Along.of_append {step : σ → ε → Option σ} {P : σ → ε → σ → Prop} {s t : σ}
    {es fs : List ε} (h : Along step P s (es ++ fs)) (hrun : run step s es = some t) :
    Along step P t fs := by
  induction es generalizing s with
  | nil =>
      obtain rfl : s = t := by simpa using hrun
      exact h
  | cons e es ih =>
      obtain ⟨s', he, hrest⟩ := run_cons.1 hrun
      exact ih (h s' he).2 hrest

theorem Along.left_of_append {step : σ → ε → Option σ} {P : σ → ε → σ → Prop} {s : σ}
    {es fs : List ε} (h : Along step P s (es ++ fs)) : Along step P s es := by
  induction es generalizing s with
  | nil => trivial
  | cons e es ih =>
      intro s' he
      exact ⟨(h s' he).1, ih (h s' he).2⟩

theorem Along.append {step : σ → ε → Option σ} {P : σ → ε → σ → Prop} {s : σ} {es fs : List ε}
    (h : Along step P s es) (hrest : ∀ t, run step s es = some t → Along step P t fs) :
    Along step P s (es ++ fs) := by
  induction es generalizing s with
  | nil => exact hrest s rfl
  | cons e es ih =>
      intro s' he
      exact ⟨(h s' he).1, ih (h s' he).2 fun t ht => hrest t (run_cons.2 ⟨s', he, ht⟩)⟩

theorem Along.of_forall {step : σ → ε → Option σ} {P : σ → ε → σ → Prop}
    (h : ∀ s e s', step s e = some s' → P s e s') {s : σ} {es : List ε} :
    Along step P s es := by
  induction es generalizing s with
  | nil => trivial
  | cons e es ih => exact fun s' he => ⟨h s e s' he, ih⟩

/-- A condition on the inputs alone holds along the run. -/
theorem Along.of_mem {step : σ → ε → Option σ} {P : ε → Prop} {es : List ε}
    (h : ∀ e ∈ es, P e) {s : σ} : Along step (fun _ e _ => P e) s es := by
  induction es generalizing s with
  | nil => trivial
  | cons e es ih =>
      intro s' _
      exact ⟨h e (List.mem_cons_self ..), ih fun e' he' => h e' (List.mem_cons_of_mem e he')⟩

/-- `P` holds of every input of the run in the state in which it arrives. -/
def Throughout (step : σ → ε → Option σ) (P : σ → ε → Prop) : σ → List ε → Prop
  | _, [] => True
  | s, e :: es => P s e ∧ ∀ s', step s e = some s' → Throughout step P s' es

/-- What holds of every input in every state holds throughout. -/
theorem Throughout.of_forall {step : σ → ε → Option σ} {P : σ → ε → Prop}
    (h : ∀ s e, P s e) {s : σ} {es : List ε} : Throughout step P s es := by
  induction es generalizing s with
  | nil => trivial
  | cons e es ih => exact ⟨h s e, fun _ _ => ih⟩

/-- A condition on the inputs alone holds throughout. -/
theorem Throughout.of_mem {step : σ → ε → Option σ} {P : ε → Prop} {es : List ε}
    (h : ∀ e ∈ es, P e) {s : σ} : Throughout step (fun _ e => P e) s es := by
  induction es generalizing s with
  | nil => trivial
  | cons e es ih =>
      refine ⟨h e (List.mem_cons_self ..), fun _ _ => ?_⟩
      exact ih fun e' he' => h e' (List.mem_cons_of_mem e he')

theorem Throughout.congr_of_invariant {step : σ → ε → Option σ} {P Q : σ → ε → Prop}
    {I : σ → Prop} (hI : ∀ s e s', I s → step s e = some s' → I s')
    (hPQ : ∀ s e, I s → (P s e ↔ Q s e)) {s : σ} {es : List ε} (hs : I s) :
    Throughout step P s es ↔ Throughout step Q s es := by
  induction es generalizing s with
  | nil => exact Iff.rfl
  | cons e es ih =>
      refine and_congr (hPQ s e hs) (forall₂_congr fun s' he => ?_)
      exact ih (hI s e s' hs he)

theorem Throughout.congr {step : σ → ε → Option σ} {P Q : σ → ε → Prop}
    (hPQ : ∀ s e, P s e ↔ Q s e) {s : σ} {es : List ε} :
    Throughout step P s es ↔ Throughout step Q s es :=
  Throughout.congr_of_invariant (I := fun _ => True) (fun _ _ _ _ _ => trivial)
    (fun s e _ => hPQ s e) trivial

theorem Throughout.of_append {step : σ → ε → Option σ} {P : σ → ε → Prop} {s t : σ}
    {es fs : List ε} (h : Throughout step P s (es ++ fs)) (hrun : run step s es = some t) :
    Throughout step P t fs := by
  induction es generalizing s with
  | nil =>
      obtain rfl : s = t := by simpa using hrun
      exact h
  | cons e es ih =>
      obtain ⟨s', he, hrest⟩ := run_cons.1 hrun
      exact ih (h.2 s' he) hrest

/-! ### Two step functions side by side -/

section Rel

variable {τ φ σ' τ' : Type}

theorem optionRel_map {R : σ → τ → Prop} {S : σ' → τ' → Prop} {x : Option σ} {y : Option τ}
    {f : σ → σ'} {g : τ → τ'} (h : Option.Rel R x y) (hfg : ∀ a b, R a b → S (f a) (g b)) :
    Option.Rel S (x.map f) (y.map g) := by
  cases h with
  | none => exact .none
  | some hab => exact .some (hfg _ _ hab)

/-- Two step functions that keep a relation, on inputs that meet a condition, keep it over
whole runs: both runs are defined or neither is. -/
theorem run_rel {step : σ → ε → Option σ} {step' : τ → φ → Option τ} {f : ε → φ}
    {Q : σ → ε → Prop} {R : σ → τ → Prop}
    (hstep : ∀ s t e, R s t → Q s e → Option.Rel R (step s e) (step' t (f e)))
    {s : σ} {t : τ} {es : List ε} (h : R s t) (hQ : Throughout step Q s es) :
    Option.Rel R (run step s es) (run step' t (es.map f)) := by
  induction es generalizing s t with
  | nil => exact .some h
  | cons e es ih =>
      have hone := hstep s t e h hQ.1
      rw [List.map_cons, run, run]
      cases hs : step s e with
      | none =>
          rw [hs] at hone
          generalize step' t (f e) = o at hone
          cases hone
          exact .none
      | some s' =>
          rw [hs] at hone
          generalize step' t (f e) = o at hone
          cases hone with
          | some h' => exact ih h' (hQ.2 s' hs)

end Rel

/-- A step function that is simulated, on some of the inputs, by another one: every run has
a run of the other one beside it. -/
theorem run_simulate {τ φ : Type} {step : σ → ε → Option σ} {step' : τ → φ → Option τ}
    {f : ε → Option φ} {R : τ → σ → Prop}
    (hstep : ∀ t s e s', R t s → step s e = some s' →
      ∃ t', run step' t (f e).toList = some t' ∧ R t' s')
    {t : τ} {s u : σ} {es : List ε} (h : R t s) (hrun : run step s es = some u) :
    ∃ t', run step' t (es.filterMap f) = some t' ∧ R t' u := by
  induction es generalizing s t with
  | nil =>
      obtain rfl := Option.some.inj hrun
      exact ⟨t, rfl, h⟩
  | cons e es ih =>
      obtain ⟨s₁, hone, hrest⟩ := run_cons.1 hrun
      obtain ⟨t₁, hone', h₁⟩ := hstep t s e s₁ h hone
      obtain ⟨t', hrest', h'⟩ := ih h₁ hrest
      refine ⟨t', ?_, h'⟩
      have hes : (e :: es).filterMap f = (f e).toList ++ es.filterMap f := by
        cases hf : f e <;> simp [hf]
      rw [hes]
      exact run_append.2 ⟨t₁, hone', hrest'⟩
