import SimpleSDN.Timers.Clock

/-!
# Queues that keep a distance

`last` says when the callback of a timer has run last. In a `Paced` queue every
event expires at least `ms` milliseconds after that. The operations of the library
keep a queue paced, whatever the clock shows, as long as a timer is set after its
callback has run.
-/

namespace Timers

variable {α : Type} {T T' : Timers α} {ms : ℤ} {last : ℤ → Option Timeval}

/-- All timers are set `ms` milliseconds ahead of the last run of their callbacks. -/
structure Paced (T : Timers α) (ms : ℤ) (last : ℤ → Option Timeval) : Prop where
  carried : ∀ e ∈ T.eq, e.tv.Carried
  timeout : ∀ e ∈ T.eq, e.timeout = ms
  bounded : ∀ e ∈ T.eq, e.hdl < T.nextHandle
  nodup : T.handles.Nodup
  spaced : ∀ e ∈ T.eq, ∀ t ∈ last e.hdl, t.usecs + ms * 1000 ≤ e.tv.usecs

theorem paced_init (ms : ℤ) (last : ℤ → Option Timeval) : (init : Timers α).Paced ms last := by
  constructor <;> simp [init, handles]

/-- The runs after `n` new timers have been added, of which the `i`-th ran at
`sending i`. -/
def ranNew (T : Timers α) (n : ℕ) (sending : ℕ → Timeval) (last : ℤ → Option Timeval) :
    ℤ → Option Timeval := fun hdl =>
  if T.nextHandle ≤ hdl ∧ hdl < T.nextHandle + n then some (sending (hdl - T.nextHandle).toNat)
  else last hdl

theorem ranNew_zero (T : Timers α) (sending : ℕ → Timeval) : T.ranNew 0 sending last = last := by
  funext hdl
  have : ¬ (T.nextHandle ≤ hdl ∧ hdl < T.nextHandle + (0 : ℕ)) := by omega
  rw [ranNew, if_neg this]

theorem ranNew_succ (hnext : T'.nextHandle = T.nextHandle + 1) (n : ℕ) (sending : ℕ → Timeval) :
    T.ranNew (n + 1) sending last =
      T'.ranNew n (fun i => sending (i + 1))
        (Function.update last T.nextHandle (some (sending 0))) := by
  funext hdl
  unfold ranNew
  rw [hnext]
  by_cases hfirst : hdl = T.nextHandle
  · subst hfirst
    have h : T.nextHandle ≤ T.nextHandle ∧ T.nextHandle < T.nextHandle + (n + 1 : ℕ) := by omega
    have h' : ¬ (T.nextHandle + 1 ≤ T.nextHandle ∧ T.nextHandle < T.nextHandle + 1 + n) := by omega
    rw [if_pos h, if_neg h', Function.update_self, sub_self]
    rfl
  · rw [Function.update_of_ne hfirst]
    by_cases h : T.nextHandle + 1 ≤ hdl ∧ hdl < T.nextHandle + 1 + n
    · have h' : T.nextHandle ≤ hdl ∧ hdl < T.nextHandle + (n + 1 : ℕ) := by omega
      have hindex : (hdl - T.nextHandle).toNat = (hdl - (T.nextHandle + 1)).toNat + 1 := by omega
      rw [if_pos h, if_pos h', hindex]
    · have h' : ¬ (T.nextHandle ≤ hdl ∧ hdl < T.nextHandle + (n + 1 : ℕ)) := by omega
      rw [if_neg h, if_neg h']

namespace Paced

theorem removeTimer (h : T.Paced ms last) (hdl : ℤ) : (T.removeTimer hdl).1.Paced ms last where
  carried e he := h.carried e (List.mem_of_mem_eraseP he)
  timeout e he := h.timeout e (List.mem_of_mem_eraseP he)
  bounded e he := h.bounded e (List.mem_of_mem_eraseP he)
  nodup := h.nodup.sublist (handles_removeTimer_sublist T hdl)
  spaced e he := h.spaced e (List.mem_of_mem_eraseP he)

/-- A timer is added after its callback has run for the first time. -/
theorem addTimer (h : T.Paced ms last) (hms : 0 ≤ ms) {now sending : Timeval} {hdl : ℤ} {cb : α}
    (hadd : T.addTimer now ms cb = some (T', hdl)) (hnow : now.Normal)
    (hsending : sending.usecs ≤ now.usecs) :
    T'.Paced ms (Function.update last T.nextHandle (some sending)) := by
  obtain ⟨hcarried, husecs⟩ := Timeval.addmsecs_spec hnow.1 hms
  unfold Timers.addTimer at hadd
  split_ifs at hadd
  obtain ⟨rfl, rfl⟩ := Prod.mk.inj (Option.some.inj hadd)
  have hmem : ∀ e, e ∈ eqAdd ⟨now.addmsecs ms, T.nextHandle, ms, cb⟩ T.eq ↔
      e = ⟨now.addmsecs ms, T.nextHandle, ms, cb⟩ ∨ e ∈ T.eq :=
    fun e => (eqAdd_perm _ _).mem_iff.trans List.mem_cons
  have hnodup : T.nextHandle ∉ T.handles := by
    intro hold
    obtain ⟨e, he, heq⟩ := List.mem_map.1 hold
    exact absurd heq (h.bounded e he).ne
  refine ⟨?_, ?_, ?_, ?_, ?_⟩
  · intro e he
    rcases (hmem e).1 he with rfl | he
    · exact hcarried
    · exact h.carried e he
  · intro e he
    rcases (hmem e).1 he with rfl | he
    · rfl
    · exact h.timeout e he
  · intro e he
    rcases (hmem e).1 he with rfl | he
    · exact Int.lt_succ _
    · exact (h.bounded e he).trans (Int.lt_succ _)
  · exact (((eqAdd_perm _ _).map Event.hdl).nodup_iff).2 (List.nodup_cons.2 ⟨hnodup, h.nodup⟩)
  · intro e he t ht
    rcases (hmem e).1 he with rfl | he
    · rw [Function.update_self] at ht
      obtain rfl := Option.some.inj ht
      rw [husecs]
      exact Int.add_le_add_right hsending _
    · rw [Function.update_of_ne (h.bounded e he).ne] at ht
      exact h.spaced e he t ht

theorem addTimers (h : T.Paced ms last) (hms : 0 ≤ ms) {clock sending : ℕ → Timeval} {cbs : List α}
    {hs : List ℤ} (hadd : Timers.addTimers ms T clock cbs = some (T', hs))
    (hclock : ∀ i, (clock i).Normal ∧ (sending i).usecs ≤ (clock i).usecs) :
    T'.Paced ms (T.ranNew cbs.length sending last) := by
  induction cbs generalizing T clock sending last hs with
  | nil =>
      obtain ⟨rfl, -⟩ := Prod.mk.inj (Option.some.inj hadd)
      rw [List.length_nil, ranNew_zero]
      exact h
  | cons cb cbs ih =>
      obtain ⟨⟨T₁, hdl⟩, hone, hrest⟩ := Option.bind_eq_some_iff.1 hadd
      obtain ⟨⟨T₂, hs₂⟩, hmore, heq⟩ := Option.map_eq_some_iff.1 hrest
      obtain ⟨rfl, -⟩ := Prod.mk.inj heq
      rw [List.length_cons, ranNew_succ (of_addTimer hone).2.1]
      exact ih (h.addTimer hms hone (hclock 0).1 (hclock 0).2) hmore fun i => hclock (i + 1)

/-- The head is set again after its callback has run. -/
theorem executeNextTimer (h : T.Paced ms last) (hms : 0 ≤ ms) {now call : Timeval} {cb : α}
    {e : Event α} {rest : List (Event α)} (hT : T.eq = e :: rest)
    (hexec : T.executeNextTimer now = some (T', cb)) (hnow : now.Normal)
    (hcall : call.usecs ≤ now.usecs) :
    T'.eq = eqAdd { e with tv := now.addmsecs ms } rest ∧
      T'.Paced ms (Function.update last e.hdl (some call)) := by
  have he : e ∈ T.eq := by simp [hT]
  have hrest : ∀ e' ∈ rest, e' ∈ T.eq := fun e' he' => by simp [hT, he']
  have htimeout : e.timeout = ms := h.timeout e he
  obtain ⟨hcarried, husecs⟩ := Timeval.addmsecs_spec hnow.1 hms
  have hnodup : e.hdl ∉ rest.map Event.hdl ∧ (rest.map Event.hdl).Nodup := by
    have hall := h.nodup
    rw [handles, hT] at hall
    exact List.nodup_cons.1 hall
  have hT' : T' = ⟨T.nextHandle, eqAdd { e with tv := now.addmsecs ms } rest⟩ := by
    unfold Timers.executeNextTimer at hexec
    rw [hT] at hexec
    obtain ⟨rfl, -⟩ := Prod.mk.inj (Option.some.inj hexec)
    simp only [htimeout]
  subst hT'
  have hmem : ∀ e', e' ∈ eqAdd { e with tv := now.addmsecs ms } rest ↔
      e' = { e with tv := now.addmsecs ms } ∨ e' ∈ rest :=
    fun e' => (eqAdd_perm _ _).mem_iff.trans List.mem_cons
  refine ⟨rfl, ?_, ?_, ?_, ?_, ?_⟩
  · intro e' he'
    rcases (hmem e').1 he' with rfl | he'
    · exact hcarried
    · exact h.carried e' (hrest e' he')
  · intro e' he'
    rcases (hmem e').1 he' with rfl | he'
    · exact htimeout
    · exact h.timeout e' (hrest e' he')
  · intro e' he'
    rcases (hmem e').1 he' with rfl | he'
    · exact h.bounded e he
    · exact h.bounded e' (hrest e' he')
  · exact (((eqAdd_perm _ _).map Event.hdl).nodup_iff).2 (List.nodup_cons.2 hnodup)
  · intro e' he' t ht
    rcases (hmem e').1 he' with rfl | he'
    · rw [Function.update_self] at ht
      obtain rfl := Option.some.inj ht
      rw [husecs]
      exact Int.add_le_add_right hcall _
    · have hne : e'.hdl ≠ e.hdl := fun heq => hnodup.1 (heq ▸ List.mem_map_of_mem he')
      rw [Function.update_of_ne hne] at ht
      exact h.spaced e' (hrest e' he') t ht

end Paced

end Timers
