import Mathlib.Data.Set.Insert
import SimpleSDN.Timers.Queue

/-!
# What the timer library is for

`Schedule α` is the library without its queue: the handles that have been handed out, the
timers that are set, and the timer whose callback runs. `Schedule.Step` says which
`Reply` may come in which state: a handle is new, `RemoveTimer` finds exactly what is
set, only a timer that is set runs, and what runs is set again or discarded. From these
rules alone a timer that has been removed or discarded never runs again.
-/

namespace Timers

/-- What a program sees of the timer library. -/
inductive Reply (α : Type)
  | handle (hdl : ℤ) (cb : α)
  | removed (hdl : ℤ) (found : Bool)
  | time (tv : Timeval)
  | ran (hdl : ℤ) (cb : α)
  | again (hdl : ℤ)
  | discarded (hdl : ℤ)

/-- The timers that are set, by their handles. -/
structure Schedule (α : Type) where
  issued : Set ℤ
  queued : ℤ → Option α
  running : Option (ℤ × α)

namespace Schedule

variable {α : Type}

/-- Nothing has been set. -/
def empty : Schedule α := ⟨∅, fun _ => none, none⟩

/-- A timer is set. -/
def set (S : Schedule α) (hdl : ℤ) (cb : α) : Schedule α :=
  { S with queued := Function.update S.queued hdl (some cb) }

/-- A timer is not set any more. -/
def clear (S : Schedule α) (hdl : ℤ) : Schedule α :=
  { S with queued := Function.update S.queued hdl none }

theorem queued_set (S : Schedule α) (hdl : ℤ) (cb : α) (hdl' : ℤ) :
    (S.set hdl cb).queued hdl' = if hdl' = hdl then some cb else S.queued hdl' :=
  Function.update_apply ..

theorem queued_clear (S : Schedule α) (hdl hdl' : ℤ) :
    (S.clear hdl).queued hdl' = if hdl' = hdl then none else S.queued hdl' :=
  Function.update_apply ..

/-- One reply, and the timers after it. -/
inductive Step : Schedule α → Reply α → Schedule α → Prop
  | handle {S : Schedule α} (hdl : ℤ) (cb : α) (hnew : hdl ∉ S.issued) :
      Step S (.handle hdl cb) { S.set hdl cb with issued := insert hdl S.issued }
  | removed (S : Schedule α) (hdl : ℤ) :
      Step S (.removed hdl (S.queued hdl).isSome) (S.clear hdl)
  | time (S : Schedule α) (tv : Timeval) : Step S (.time tv) S
  | ran {S : Schedule α} {hdl : ℤ} {cb : α} (hidle : S.running = none)
      (hset : S.queued hdl = some cb) :
      Step S (.ran hdl cb) { S.clear hdl with running := some (hdl, cb) }
  | again {S : Schedule α} {hdl : ℤ} {cb : α} (hrun : S.running = some (hdl, cb)) :
      Step S (.again hdl) { S.set hdl cb with running := none }
  | discarded {S : Schedule α} {hdl : ℤ} {cb : α} (hrun : S.running = some (hdl, cb)) :
      Step S (.discarded hdl) { S with running := none }

/-- The replies one after the other. -/
inductive Trace : Schedule α → List (Reply α) → Schedule α → Prop
  | nil (S : Schedule α) : Trace S [] S
  | cons {S S' S'' : Schedule α} {r : Reply α} {rs : List (Reply α)} (hstep : Step S r S')
      (hrest : Trace S' rs S'') : Trace S (r :: rs) S''

variable {S S' S'' : Schedule α} {r : Reply α} {rs rs' : List (Reply α)}

theorem Trace.single (h : Step S r S') : Trace S [r] S' := .cons h (.nil S')

theorem Trace.append (h : Trace S rs S') (h' : Trace S' rs' S'') : Trace S (rs ++ rs') S'' := by
  induction h with
  | nil => exact h'
  | cons hstep _ ih => exact .cons hstep (ih h')

theorem Trace.exists_of_append (h : Trace S (rs ++ rs') S'') :
    ∃ S', Trace S rs S' ∧ Trace S' rs' S'' := by
  induction rs generalizing S with
  | nil => exact ⟨S, .nil S, h⟩
  | cons r rs ih =>
      cases h with
      | cons hstep hrest =>
          obtain ⟨S', hrs, hrs'⟩ := ih hrest
          exact ⟨S', .cons hstep hrs, hrs'⟩

/-- A timer that is set or runs has a handle that was handed out, and is not both. -/
structure Sound (S : Schedule α) : Prop where
  queued : ∀ hdl cb, S.queued hdl = some cb → hdl ∈ S.issued
  running : ∀ hdl cb, S.running = some (hdl, cb) → hdl ∈ S.issued ∧ S.queued hdl = none

theorem sound_empty : (empty : Schedule α).Sound :=
  ⟨fun _ _ h => absurd h.symm (Option.some_ne_none _),
    fun _ _ h => absurd h.symm (Option.some_ne_none _)⟩

theorem Sound.step (h : S.Sound) (hstep : Step S r S') : S'.Sound := by
  cases hstep with
  | handle hdl cb hnew =>
      constructor
      · intro hdl' cb' hset
        simp only [queued_set] at hset
        split_ifs at hset with heq
        · exact heq ▸ Set.mem_insert ..
        · exact Set.mem_insert_of_mem _ (h.queued hdl' cb' hset)
      · intro hdl' cb' hrun
        obtain ⟨hissued, hnone⟩ := h.running hdl' cb' hrun
        have hne : hdl' ≠ hdl := fun heq => hnew (heq ▸ hissued)
        refine ⟨Set.mem_insert_of_mem _ hissued, ?_⟩
        simp only [queued_set]
        rw [if_neg hne, hnone]
  | removed hdl =>
      constructor
      · intro hdl' cb' hset
        rw [queued_clear] at hset
        split_ifs at hset
        exact h.queued hdl' cb' hset
      · intro hdl' cb' hrun
        obtain ⟨hissued, hnone⟩ := h.running hdl' cb' hrun
        exact ⟨hissued, by rw [queued_clear, hnone, ite_self]⟩
  | time tv => exact h
  | @ran hdl cb hidle hset =>
      constructor
      · intro hdl' cb' hset'
        simp only [queued_clear] at hset'
        split_ifs at hset'
        exact h.queued hdl' cb' hset'
      · intro hdl' cb' hrun
        obtain ⟨rfl, rfl⟩ := Prod.mk.inj (Option.some.inj hrun)
        refine ⟨h.queued _ _ hset, ?_⟩
        simp only [queued_clear, if_true]
  | again hrun =>
      refine ⟨fun hdl' cb' hset => ?_, fun _ _ hrun' => absurd hrun'.symm (Option.some_ne_none _)⟩
      simp only [queued_set] at hset
      split_ifs at hset with heq
      · exact heq ▸ (h.running _ _ hrun).1
      · exact h.queued hdl' cb' hset
  | discarded hrun => exact ⟨h.queued, fun _ _ hrun' => absurd hrun'.symm (Option.some_ne_none _)⟩

theorem Sound.trace (h : S.Sound) (htrace : Trace S rs S') : S'.Sound := by
  induction htrace with
  | nil => exact h
  | cons hstep _ ih => exact ih (h.step hstep)

/-- The handle was handed out, and its timer is neither set nor running. -/
structure Gone (S : Schedule α) (hdl : ℤ) : Prop where
  issued : hdl ∈ S.issued
  queued : S.queued hdl = none
  running : ∀ cb, S.running ≠ some (hdl, cb)

theorem Gone.step {hdl : ℤ} (h : S.Gone hdl) (hstep : Step S r S') :
    S'.Gone hdl ∧ ∀ cb, r ≠ .ran hdl cb := by
  cases hstep with
  | handle hdl' cb hnew =>
      have hne : hdl ≠ hdl' := fun heq => hnew (heq ▸ h.issued)
      refine ⟨⟨Set.mem_insert_of_mem _ h.issued, ?_, h.running⟩, fun _ => nofun⟩
      simp only [queued_set]
      rw [if_neg hne, h.queued]
  | removed hdl' =>
      refine ⟨⟨h.issued, ?_, h.running⟩, fun _ => nofun⟩
      rw [queued_clear, h.queued, ite_self]
  | time tv => exact ⟨h, fun _ => nofun⟩
  | @ran hdl' cb hidle hset =>
      have hne : hdl' ≠ hdl := by
        rintro rfl
        exact absurd (hset.symm.trans h.queued) (Option.some_ne_none cb)
      refine ⟨⟨h.issued, ?_, fun cb' hrun => ?_⟩, fun cb' hran => ?_⟩
      · simp only [queued_clear]
        rw [h.queued, ite_self]
      · exact hne (Prod.mk.inj (Option.some.inj hrun)).1
      · exact hne (Reply.ran.inj hran).1
  | @again hdl' cb hrun =>
      have hne : hdl ≠ hdl' := by
        rintro rfl
        exact h.running cb hrun
      refine ⟨⟨h.issued, ?_, fun _ => nofun⟩, fun _ => nofun⟩
      simp only [queued_set]
      rw [if_neg hne, h.queued]
  | discarded hrun =>
      exact ⟨⟨h.issued, h.queued, fun _ => nofun⟩, fun _ => nofun⟩

/-- A timer that is gone never runs. -/
theorem Gone.not_ran {hdl : ℤ} (h : S.Gone hdl) (htrace : Trace S rs S') (cb : α) :
    .ran hdl cb ∉ rs := by
  induction htrace with
  | nil => exact List.not_mem_nil
  | cons hstep _ ih =>
      obtain ⟨hgone, hne⟩ := h.step hstep
      intro hmem
      rcases List.mem_cons.1 hmem with heq | hmem
      · exact hne cb heq.symm
      · exact ih hgone hmem

/-- A timer is gone after it has been removed, or discarded. -/
theorem Sound.gone (h : S.Sound) {hdl : ℤ} (hr : r = .removed hdl true ∨ r = .discarded hdl)
    (hstep : Step S r S') : S'.Gone hdl := by
  rcases hr with rfl | rfl
  · generalize hfound : Reply.removed hdl true = r at hstep
    cases hstep with
    | removed hdl' =>
        obtain ⟨rfl, hsome⟩ := Reply.removed.inj hfound
        obtain ⟨cb, hset⟩ := Option.isSome_iff_exists.1 hsome.symm
        refine ⟨h.queued hdl cb hset, by rw [queued_clear, if_pos rfl], fun cb' hrun => ?_⟩
        exact absurd (hset.symm.trans (h.running hdl cb' hrun).2) (Option.some_ne_none cb)
    | _ => exact absurd hfound (by simp)
  · cases hstep with
    | @discarded _ cb hrun =>
        obtain ⟨hissued, hnone⟩ := h.running hdl cb hrun
        exact ⟨hissued, hnone, fun _ => nofun⟩

end Schedule

end Timers
