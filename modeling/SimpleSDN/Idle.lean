import Mathlib.Algebra.Order.Group.Unbundled.Int
import SimpleSDN.Run

/-!
# Loops with an idle time

A loop waits for input and is given a time to wait at most. An iteration that
refreshes sets this time to the idle time, every other one leaves what the wait has
left of it. `IdleLoop.silence` is the time that a run has waited since the iteration
that has refreshed last. The two times together are the idle time as long as the loop
runs (`IdleLoop.Lawful.left_add_silence`), so that a wait to the end of its time ends a
silence of exactly the idle time (`IdleLoop.Lawful.silence_of_timeout`), and a loop that
returns in no other way returns after such a silence (`IdleLoop.Timed.silence_add_left`).
-/

/-- A loop whose iterations wait for input. `left` is the longest time for the next wait,
and `remaining` what the wait of an iteration leaves of it, if it ends before. -/
structure IdleLoop (σ ε : Type) where
  step : σ → ε → Option σ
  running : σ → Bool
  idle : ℤ
  left : σ → ℤ
  remaining : ε → Option ℤ
  Refreshed : σ → ε → Prop
  decRefreshed : ∀ s e, Decidable (Refreshed s e)

namespace IdleLoop

variable {σ ε : Type} (L : IdleLoop σ ε)

instance (s : σ) (e : ε) : Decidable (L.Refreshed s e) := L.decRefreshed s e

/-- The time that the wait of an iteration takes. -/
def waited (s : σ) (e : ε) : ℤ := L.left s - (L.remaining e).getD 0

/-- The time of silence after an iteration, `w` being that before it. -/
def quiet (w : ℤ) (s : σ) (e : ε) : ℤ := if L.Refreshed s e then 0 else w + L.waited s e

/-- The time of silence after a run from `s`, `w` being that before it. -/
def silence : ℤ → σ → List ε → ℤ
  | w, _, [] => w
  | w, s, e :: es =>
      (L.step s e).elim (L.quiet w s e) fun s' => silence (L.quiet w s e) s' es

/-- What the iterations that meet `Q` do with the time. -/
structure Lawful (Q : σ → ε → Prop) : Prop where
  running_of_step : ∀ {s s' e}, L.step s e = some s' → L.running s = true
  not_refreshed : ∀ {s e}, L.remaining e = none → ¬ L.Refreshed s e
  left_of_step : ∀ {s s' e}, L.step s e = some s' → Q s e → L.running s' = true →
    ∃ r, L.remaining e = some r ∧ L.left s' = if L.Refreshed s e then L.idle else r

/-- Such a loop that returns only when a wait has taken all the time that is left. -/
structure Timed (Q : σ → ε → Prop) : Prop extends L.Lawful Q where
  of_ended : ∀ {s s' e}, L.step s e = some s' → Q s e → L.running s' = false →
    L.remaining e = none

@[simp] theorem silence_nil (w : ℤ) (s : σ) : L.silence w s [] = w := rfl

theorem silence_cons {s s' : σ} {e : ε} (h : L.step s e = some s') (w : ℤ) (es : List ε) :
    L.silence w s (e :: es) = L.silence (L.quiet w s e) s' es := by
  rw [silence, h, Option.elim_some]

theorem silence_append {s t : σ} {es : List ε} (h : run L.step s es = some t) (w : ℤ)
    (fs : List ε) : L.silence w s (es ++ fs) = L.silence (L.silence w s es) t fs := by
  induction es generalizing s w with
  | nil =>
      obtain rfl : s = t := by simpa using h
      rfl
  | cons e es ih =>
      obtain ⟨s', hs', hrest⟩ := run_cons.1 h
      rw [List.cons_append, L.silence_cons hs', L.silence_cons hs', ih hrest]

variable {L} {Q : σ → ε → Prop}

/-- One iteration keeps the sum of the two times. -/
theorem Lawful.left_add_quiet (hL : L.Lawful Q) {s s' : σ} {e : ε} {w : ℤ}
    (h : L.step s e = some s') (hQ : Q s e) (hw : L.left s + w = L.idle)
    (hrunning : L.running s' = true) : L.left s' + L.quiet w s e = L.idle := by
  obtain ⟨r, hr, hleft⟩ := hL.left_of_step h hQ hrunning
  rw [hleft, quiet, waited, hr, Option.getD_some]
  split_ifs
  · exact add_zero _
  · omega

/-- A wait to the end of its time adds all that was left. -/
theorem Lawful.quiet_of_timeout (hL : L.Lawful Q) {s : σ} {e : ε} {w : ℤ}
    (hw : L.left s + w = L.idle) (hover : L.remaining e = none) : L.quiet w s e = L.idle := by
  rw [quiet, if_neg (hL.not_refreshed hover), waited, hover, Option.getD_none]
  omega

/-- After a run the time that is left and the silence are the idle time. -/
theorem Lawful.left_add_silence (hL : L.Lawful Q) {s t : σ} {es : List ε} {w : ℤ}
    (hw : L.left s + w = L.idle) (hQ : Throughout L.step Q s es)
    (hrun : run L.step s es = some t) (hrunning : L.running t = true) :
    L.left t + L.silence w s es = L.idle := by
  induction es generalizing s w with
  | nil =>
      obtain rfl : s = t := by simpa using hrun
      exact hw
  | cons e es ih =>
      obtain ⟨s', hs', hrest⟩ := run_cons.1 hrun
      -- the loop is running after the iteration, since it goes on or is at the end
      have hrunning' : L.running s' = true := by
        cases es with
        | nil =>
            obtain rfl : s' = t := by simpa using hrest
            exact hrunning
        | cons e' es' =>
            obtain ⟨s'', hs'', -⟩ := run_cons.1 hrest
            exact hL.running_of_step hs''
      rw [L.silence_cons hs']
      exact ih (hL.left_add_quiet hs' hQ.1 hw hrunning') (hQ.2 s' hs') hrest

/-- A wait to the end of its time ends a silence of the idle time. -/
theorem Lawful.silence_of_timeout (hL : L.Lawful Q) {s t u : σ} {es : List ε} {e : ε} {w : ℤ}
    (hw : L.left s + w = L.idle) (hQ : Throughout L.step Q s es)
    (hrun : run L.step s es = some t) (hstep : L.step t e = some u)
    (hover : L.remaining e = none) : L.silence w s (es ++ [e]) = L.idle := by
  have hsum := hL.left_add_silence hw hQ hrun (hL.running_of_step hstep)
  rw [L.silence_append hrun, L.silence_cons hstep, silence_nil]
  exact hL.quiet_of_timeout hsum hover

/-- The loop returns after a silence of the idle time. -/
theorem Timed.silence_add_left (hL : L.Timed Q) {s t : σ} {es : List ε} {w : ℤ}
    (hw : L.left s + w = L.idle) (hQ : Throughout L.step Q s es) (hs : L.running s = true)
    (hrun : run L.step s es = some t) :
    L.silence w s es + (if L.running t then L.left t else 0) = L.idle := by
  induction es generalizing s w with
  | nil =>
      obtain rfl : s = t := by simpa using hrun
      rw [silence_nil, if_pos hs, add_comm]
      exact hw
  | cons e es ih =>
      obtain ⟨s', hs', hrest⟩ := run_cons.1 hrun
      rw [L.silence_cons hs']
      by_cases hrunning : L.running s' = true
      · exact ih (hL.left_add_quiet hs' hQ.1 hw hrunning) (hQ.2 s' hs') hrunning hrest
      · -- no iteration follows
        obtain rfl : es = [] := by
          cases es with
          | nil => rfl
          | cons e' es' =>
              obtain ⟨s'', hs'', -⟩ := run_cons.1 hrest
              exact absurd (hL.running_of_step hs'') hrunning
        obtain rfl : s' = t := by simpa using hrest
        have hover := hL.of_ended hs' hQ.1 (Bool.eq_false_iff.2 hrunning)
        rw [if_neg hrunning, add_zero, silence_nil]
        exact hL.quiet_of_timeout hw hover

end IdleLoop
