import Mathlib.Data.List.Sort
import SimpleSDN.Run
import SimpleSDN.Timers.Clock
import SimpleSDN.Timers.Schedule

/-!
# Programs that use the timer library

A program makes its calls one after the other; a callback may set and remove timers
itself and returns whether its own timer is discarded, set again, or set again with
another timeout. `callStep` is one call. After every sequence of calls the queue is a
`Schedule`: it holds the timers that have been set and neither removed nor discarded.
It is sorted as well, so that a call looks at a timer that expires first.
-/

namespace Timers

variable {α : Type}

/-- What a program may do at any time, also in a callback. -/
inductive Op (α : Type)
  | add (now : Timeval) (timeout : ℤ) (cb : α)
  | remove (hdl : ℤ)

/-- A call. `ExecuteNextTimer` runs a callback, which does `inner` and returns
`newTimeout`. -/
inductive Call (α : Type)
  | op (o : Op α)
  | next (now : Timeval)
  | execute (inner : List (Op α)) (newTimeout : ℤ) (now : Timeval)

/-- `TimerCallback::DISCARD`. -/
def discard : ℤ := -1

/-- `TimerCallback::RESCHEDULE_SAME`. -/
def rescheduleSame : ℤ := 0

/-- `AddTimer` or `RemoveTimer`. -/
def op (T : Timers α) : Op α → Option (Timers α × Reply α)
  | .add now timeout cb => (T.addTimer now timeout cb).map fun (T, hdl) => (T, .handle hdl cb)
  | .remove hdl => some ((T.removeTimer hdl).1, .removed hdl (T.removeTimer hdl).2)

/-- What a callback does. -/
def ops : Timers α → List (Op α) → Option (Timers α × List (Reply α))
  | T, [] => some (T, [])
  | T, o :: inner => (T.op o).bind fun (T, r) => (T.ops inner).map fun (T, rs) => (T, r :: rs)

/-- The timer whose callback has returned; another value than the library knows ends
the program. -/
def finish (T : Timers α) (e : Event α) (newTimeout : ℤ) (now : Timeval) :
    Option (Timers α × Reply α) :=
  if newTimeout = discard then some (T, .discarded e.hdl)
  else if newTimeout = rescheduleSame ∨ newTimeout > 0 then
    let timeout := if newTimeout > 0 then newTimeout else e.timeout
    some ({ T with eq := eqAdd { e with tv := now.addmsecs timeout, timeout := timeout } T.eq },
      .again e.hdl)
  else none

/-- `ExecuteNextTimer`; there must be a timer. -/
def execute (T : Timers α) (inner : List (Op α)) (newTimeout : ℤ) (now : Timeval) :
    Option (Timers α × List (Reply α)) :=
  match T.eq with
  | [] => none
  | e :: rest =>
      (({ T with eq := rest } : Timers α).ops inner).bind fun (T, rs) =>
        (T.finish e newTimeout now).map fun (T, r) => (T, .ran e.hdl e.cb :: (rs ++ [r]))

/-- The timers and what the library has replied. -/
structure Session (α : Type) where
  timers : Timers α
  replies : List (Reply α)

/-- The start of a program. -/
def Session.start : Session α := ⟨.init, []⟩

/-- One call. -/
def callStep (s : Session α) : Call α → Option (Session α)
  | .op o => (s.timers.op o).map fun (T, r) => ⟨T, s.replies ++ [r]⟩
  | .next now => some { s with replies := s.replies ++ [.time (s.timers.nextTimerTime now)] }
  | .execute inner newTimeout now =>
      (s.timers.execute inner newTimeout now).map fun (T, rs) => ⟨T, s.replies ++ rs⟩

/-- `executeNextTimer` is the case of a callback that only asks to be set again. -/
theorem execute_rescheduleSame (T : Timers α) (now : Timeval) :
    (T.execute [] rescheduleSame now).map Prod.fst =
      (T.executeNextTimer now).map Prod.fst := by
  unfold execute executeNextTimer
  cases T.eq with
  | nil => rfl
  | cons e rest => rfl

theorem finish_cases {T T' : Timers α} {e : Event α} {newTimeout : ℤ} {now : Timeval}
    {r : Reply α} (h : T.finish e newTimeout now = some (T', r)) :
    T' = T ∧ r = .discarded e.hdl ∨ ∃ e' : Event α, e'.hdl = e.hdl ∧ e'.cb = e.cb ∧
      T' = { T with eq := eqAdd e' T.eq } ∧ r = .again e.hdl := by
  unfold finish at h
  by_cases hdiscard : newTimeout = discard
  · rw [if_pos hdiscard] at h
    obtain ⟨rfl, rfl⟩ := Prod.mk.inj (Option.some.inj h)
    exact Or.inl ⟨rfl, rfl⟩
  · rw [if_neg hdiscard, Option.ite_none_right_eq_some] at h
    obtain ⟨rfl, rfl⟩ := Prod.mk.inj (Option.some.inj h.2)
    refine Or.inr ⟨_, ?_, ?_, rfl, rfl⟩
    · rfl
    · rfl

/-! ### The queue as a schedule -/

/-- The queue holds the timers of the schedule. -/
structure Represents (T : Timers α) (S : Schedule α) : Prop where
  sound : S.Sound
  issued : ∀ hdl, hdl ∈ S.issued ↔ 1 ≤ hdl ∧ hdl < T.nextHandle
  next : 1 ≤ T.nextHandle
  queued : ∀ hdl cb, S.queued hdl = some cb ↔ (hdl, cb) ∈ T.entries
  nodup : T.handles.Nodup

theorem represents_init : (init : Timers α).Represents .empty where
  sound := Schedule.sound_empty
  issued hdl := by
    simp only [Schedule.empty, Set.mem_empty_iff_false, init, false_iff]
    omega
  next := le_rfl
  queued hdl cb := by simp [Schedule.empty, entries, init]
  nodup := List.nodup_nil

/-- The head of the queue. -/
theorem entries_cons {T : Timers α} {e : Event α} {rest : List (Event α)} (h : T.eq = e :: rest) :
    T.entries = (e.hdl, e.cb) :: ({ T with eq := rest } : Timers α).entries := by
  rw [entries, h]
  rfl

/-- `RemoveTimer` says whether there is a timer with the handle. -/
theorem found_removeTimer {T : Timers α} {S : Schedule α} (h : T.Represents S) (hdl : ℤ) :
    (T.removeTimer hdl).2 = (S.queued hdl).isSome := by
  refine Bool.eq_iff_iff.2 ?_
  rw [Option.isSome_iff_exists]
  simp only [h.queued, removeTimer, List.any_eq_true, entries, List.mem_map, beq_iff_eq]
  constructor
  · rintro ⟨e, he, rfl⟩
    exact ⟨e.cb, e, he, rfl⟩
  · rintro ⟨cb, e, he, heq⟩
    exact ⟨e, he, congrArg Prod.fst heq⟩

namespace Represents

variable {T T' : Timers α} {S : Schedule α}

theorem nextHandle_notMem (h : T.Represents S) : T.nextHandle ∉ T.handles := by
  rw [handles_eq]
  intro hmem
  obtain ⟨⟨hdl, cb⟩, hentry, rfl⟩ := List.mem_map.1 hmem
  have := (h.issued _).1 (h.sound.queued _ _ ((h.queued _ _).2 hentry))
  omega

/-- `AddTimer` and `RemoveTimer`. -/
theorem op (h : T.Represents S) {o : Op α} {r : Reply α} (hop : T.op o = some (T', r)) :
    ∃ S', Schedule.Step S r S' ∧ T'.Represents S' ∧ S'.running = S.running := by
  cases o with
  | add now timeout cb =>
      obtain ⟨⟨T₁, hdl⟩, hadd, heq⟩ := Option.map_eq_some_iff.1 hop
      obtain ⟨rfl, rfl⟩ := Prod.mk.inj heq
      obtain ⟨rfl, hnext, hperm⟩ := of_addTimer hadd
      have hnew : T.nextHandle ∉ S.issued := fun hmem => by
        have := (h.issued _).1 hmem
        omega
      have hstep := Schedule.Step.handle T.nextHandle cb hnew
      refine ⟨_, hstep, ⟨h.sound.step hstep, fun hdl => ?_, ?_, fun hdl cb' => ?_, ?_⟩, rfl⟩
      · have hfirst := h.next
        change hdl ∈ insert T.nextHandle S.issued ↔ _
        rw [Set.mem_insert_iff, h.issued, hnext]
        omega
      · have hfirst := h.next
        omega
      · rw [hperm.mem_iff, List.mem_cons, Prod.mk.injEq]
        simp only [Schedule.queued_set]
        split_ifs with heq
        · subst heq
          have hnot : (T.nextHandle, cb') ∉ T.entries :=
            fun hmem => h.nextHandle_notMem (mem_handles hmem)
          simp [hnot, eq_comm]
        · simp [heq, h.queued]
      · have hhandles := hperm.map Prod.fst
        rw [← handles_eq, List.map_cons, ← handles_eq] at hhandles
        exact hhandles.nodup_iff.2 (List.nodup_cons.2 ⟨h.nextHandle_notMem, h.nodup⟩)
  | remove hdl =>
      obtain ⟨rfl, rfl⟩ := Prod.mk.inj (Option.some.inj hop)
      have hstep := Schedule.Step.removed S hdl
      rw [found_removeTimer h]
      refine ⟨_, hstep, ⟨h.sound.step hstep, h.issued, h.next, fun hdl' cb => ?_, ?_⟩, rfl⟩
      · rw [mem_entries_removeTimer h.nodup, Schedule.queued_clear]
        split_ifs with heq
        · simp [heq]
        · simp [heq, h.queued]
      · exact h.nodup.sublist (handles_removeTimer_sublist T hdl)

theorem ops (h : T.Represents S) {inner : List (Op α)} {rs : List (Reply α)}
    (hops : T.ops inner = some (T', rs)) :
    ∃ S', Schedule.Trace S rs S' ∧ T'.Represents S' ∧ S'.running = S.running := by
  induction inner generalizing T S rs with
  | nil =>
      obtain ⟨rfl, rfl⟩ := Prod.mk.inj (Option.some.inj hops)
      exact ⟨S, .nil S, h, rfl⟩
  | cons o inner ih =>
      obtain ⟨⟨T₁, r⟩, hone, hmore⟩ := Option.bind_eq_some_iff.1 hops
      obtain ⟨⟨T₂, rs₂⟩, hrest, heq⟩ := Option.map_eq_some_iff.1 hmore
      obtain ⟨rfl, rfl⟩ := Prod.mk.inj heq
      obtain ⟨S₁, hstep, h₁, hrun₁⟩ := h.op hone
      obtain ⟨S₂, htrace, h₂, hrun₂⟩ := ih h₁ hrest
      exact ⟨S₂, .cons hstep htrace, h₂, hrun₂.trans hrun₁⟩

/-- The head is taken out of the queue, and its callback begins. -/
theorem pop (h : T.Represents S) (hidle : S.running = none) {e : Event α} {rest : List (Event α)}
    (hT : T.eq = e :: rest) :
    ∃ S', Schedule.Step S (.ran e.hdl e.cb) S' ∧
      ({ T with eq := rest } : Timers α).Represents S' ∧ S'.running = some (e.hdl, e.cb) := by
  have hentries := entries_cons hT
  have hset : S.queued e.hdl = some e.cb := by
    rw [h.queued, hentries]
    exact List.mem_cons_self
  have hnodup := h.nodup
  rw [handles_eq, hentries, List.map_cons, ← handles_eq, List.nodup_cons] at hnodup
  have hstep := Schedule.Step.ran hidle hset
  refine ⟨_, hstep, ⟨h.sound.step hstep, h.issued, h.next, fun hdl cb => ?_, hnodup.2⟩, rfl⟩
  simp only [Schedule.queued_clear]
  split_ifs with heq
  · subst heq
    exact iff_of_false nofun fun hmem => hnodup.1 (mem_handles hmem)
  · rw [h.queued, hentries, List.mem_cons, Prod.mk.injEq]
    simp [heq]

/-- The callback has returned. -/
theorem finish (h : T.Represents S) {e : Event α} (hrun : S.running = some (e.hdl, e.cb))
    {newTimeout : ℤ} {now : Timeval} {r : Reply α}
    (hfinish : T.finish e newTimeout now = some (T', r)) :
    ∃ S', Schedule.Step S r S' ∧ T'.Represents S' ∧ S'.running = none := by
  rcases finish_cases hfinish with ⟨rfl, rfl⟩ | ⟨e', hhdl, hcb, rfl, rfl⟩
  · have hstep := Schedule.Step.discarded hrun
    exact ⟨_, hstep, ⟨h.sound.step hstep, h.issued, h.next, h.queued, h.nodup⟩, rfl⟩
  · have hstep := Schedule.Step.again hrun
    have hnone := (h.sound.running _ _ hrun).2
    have hnot : e.hdl ∉ T.handles := by
      rw [handles_eq]
      intro hmem
      obtain ⟨⟨hdl, cb⟩, hentry, heq⟩ := List.mem_map.1 hmem
      obtain rfl : hdl = e.hdl := heq
      exact absurd (((h.queued _ _).2 hentry).symm.trans hnone) (Option.some_ne_none cb)
    have hperm := eqAdd_perm e' T.eq
    refine ⟨_, hstep, ⟨h.sound.step hstep, h.issued, h.next, fun hdl cb => ?_, ?_⟩, rfl⟩
    · have hentries := (hperm.map fun e => (e.hdl, e.cb)).mem_iff (a := (hdl, cb))
      rw [List.map_cons, List.mem_cons, hhdl, hcb, Prod.mk.injEq] at hentries
      simp only [Schedule.queued_set]
      refine Iff.trans ?_ hentries.symm
      split_ifs with heq
      · subst heq
        have hnot' : (e.hdl, cb) ∉ T.entries := fun hmem => hnot (mem_handles hmem)
        rw [entries] at hnot'
        simp [hnot', eq_comm]
      · simp [heq, h.queued, entries]
    · refine ((hperm.map Event.hdl).nodup_iff).2 ?_
      rw [List.map_cons, hhdl]
      exact List.nodup_cons.2 ⟨hnot, h.nodup⟩

end Represents

/-- One call. -/
theorem Represents.step {s s' : Session α} {S : Schedule α} (h : s.timers.Represents S)
    (hidle : S.running = none) {c : Call α} (hstep : callStep s c = some s') :
    ∃ rs S', s'.replies = s.replies ++ rs ∧ Schedule.Trace S rs S' ∧ s'.timers.Represents S' ∧
      S'.running = none := by
  cases c with
  | op o =>
      obtain ⟨⟨T, r⟩, hop, rfl⟩ := Option.map_eq_some_iff.1 hstep
      obtain ⟨S', hone, h', hrun⟩ := h.op hop
      exact ⟨[r], S', rfl, .single hone, h', hrun.trans hidle⟩
  | next now =>
      obtain rfl := Option.some.inj hstep
      exact ⟨_, S, rfl, .single (.time S _), h, hidle⟩
  | execute inner newTimeout now =>
      obtain ⟨⟨T, rs⟩, hexec, rfl⟩ := Option.map_eq_some_iff.1 hstep
      unfold execute at hexec
      cases hT : s.timers.eq with
      | nil => simp [hT] at hexec
      | cons e rest =>
          rw [hT] at hexec
          obtain ⟨⟨T₁, rs₁⟩, hops, hmore⟩ := Option.bind_eq_some_iff.1 hexec
          obtain ⟨⟨T₂, r⟩, hfinish, heq⟩ := Option.map_eq_some_iff.1 hmore
          obtain ⟨rfl, rfl⟩ := Prod.mk.inj heq
          obtain ⟨S₁, hpop, h₁, hrun₁⟩ := h.pop hidle hT
          obtain ⟨S₂, hinner, h₂, hrun₂⟩ := h₁.ops hops
          obtain ⟨S₃, hlast, h₃, hrun₃⟩ := h₂.finish (hrun₂.trans hrun₁) hfinish
          exact ⟨_, S₃, rfl, .cons hpop (hinner.append (.single hlast)), h₃, hrun₃⟩

/-- Several calls. -/
theorem Represents.calls {s s' : Session α} {S : Schedule α} (h : s.timers.Represents S)
    (hidle : S.running = none) {cs : List (Call α)} (hrun : run callStep s cs = some s') :
    ∃ rs S', s'.replies = s.replies ++ rs ∧ Schedule.Trace S rs S' ∧ s'.timers.Represents S' ∧
      S'.running = none := by
  induction cs generalizing s S with
  | nil =>
      obtain rfl := Option.some.inj hrun
      exact ⟨[], S, (List.append_nil _).symm, .nil S, h, hidle⟩
  | cons c cs ih =>
      obtain ⟨s₁, hstep, hrest⟩ := run_cons.1 hrun
      obtain ⟨rs₁, S₁, hreplies₁, htrace₁, h₁, hidle₁⟩ := h.step hidle hstep
      obtain ⟨rs₂, S₂, hreplies₂, htrace₂, h₂, hidle₂⟩ := ih h₁ hidle₁ hrest
      refine ⟨rs₁ ++ rs₂, S₂, ?_, htrace₁.append htrace₂, h₂, hidle₂⟩
      rw [hreplies₂, hreplies₁, List.append_assoc]

/-- After every sequence of calls the queue holds exactly the timers that have been set
and neither removed nor discarded, and all replies were those of a schedule. -/
theorem schedule_of_run (cs : List (Call α)) (s : Session α)
    (hrun : run callStep Session.start cs = some s) :
    ∃ S, Schedule.Trace .empty s.replies S ∧ s.timers.Represents S ∧ S.running = none := by
  obtain ⟨rs, S, hreplies, htrace, h, hidle⟩ := represents_init.calls rfl hrun
  exact ⟨S, hreplies ▸ htrace, h, hidle⟩

theorem schedule_of_run_three : ∃ S, Schedule.Trace .empty
    [.handle 1 'a', .handle 2 'b', .ran 2 'b', .removed 1 true, .again 2] S ∧
      Represents ⟨3, [⟨⟨1, 5000⟩, 2, 5, 'b'⟩]⟩ S ∧ S.running = none :=
  schedule_of_run [.op (.add ⟨0, 0⟩ 10 'a'), .op (.add ⟨0, 0⟩ 5 'b'),
    .execute [.remove 1] 0 ⟨1, 0⟩] ⟨_, _⟩ rfl

/-- A timer that has been removed or discarded never runs again. -/
theorem not_ran_of_run (cs : List (Call α)) (s : Session α)
    (hrun : run callStep Session.start cs = some s) (pre : List (Reply α)) (r : Reply α)
    (post : List (Reply α)) (hreplies : s.replies = pre ++ r :: post) (hdl : ℤ)
    (hr : r = .removed hdl true ∨ r = .discarded hdl) (cb : α) : .ran hdl cb ∉ post := by
  obtain ⟨rs, S, hall, htrace, -, -⟩ := represents_init.calls rfl hrun
  rw [← hall.trans (List.nil_append rs), hreplies] at htrace
  obtain ⟨S₁, hpre, hrest⟩ := htrace.exists_of_append
  cases hrest with
  | cons hstep hpost =>
      exact ((Schedule.sound_empty.trace hpre).gone hr hstep).not_ran hpost cb

theorem not_ran_of_run_four : .ran 1 'a' ∉ [Reply.again 2, .ran 2 'b', .discarded 2] :=
  not_ran_of_run [.op (.add ⟨0, 0⟩ 10 'a'), .op (.add ⟨0, 0⟩ 5 'b'),
    .execute [.remove 1] 0 ⟨1, 0⟩, .execute [] (-1) ⟨2, 0⟩] ⟨⟨3, []⟩, _⟩ rfl
    [.handle 1 'a', .handle 2 'b', .ran 2 'b'] _ _ rfl 1 (.inl rfl) 'a'

/-! ### The order of the queue -/

/-- No event of the queue expires earlier than one before it. -/
def Sorted (T : Timers α) : Prop := T.eq.Pairwise fun e e' => e.tv.cmp e'.tv ≤ 0

theorem eqAdd_eq_orderedInsert (n : Event α) (q : List (Event α)) :
    eqAdd n q = q.orderedInsert (fun e e' => e.tv.cmp e'.tv ≤ 0) n := by
  induction q with
  | nil => rfl
  | cons ptr rest ih =>
      unfold eqAdd
      rw [List.orderedInsert_cons, ih]
      by_cases hle : n.tv.cmp ptr.tv ≤ 0
      · rw [if_pos hle, if_neg (not_lt.2 hle)]
      · rw [if_neg hle, if_pos (not_le.1 hle)]

/-- `Eq_Add` keeps the queue sorted. -/
theorem sorted_eqAdd {n : Event α} {q : List (Event α)}
    (h : q.Pairwise fun e e' => e.tv.cmp e'.tv ≤ 0) :
    (eqAdd n q).Pairwise fun e e' => e.tv.cmp e'.tv ≤ 0 := by
  have : Std.Total fun e e' : Event α => e.tv.cmp e'.tv ≤ 0 := ⟨fun e e' => by
    rw [Timeval.cmp_nonpos_iff, Timeval.cmp_nonpos_iff]
    omega⟩
  have : IsTrans (Event α) fun e e' => e.tv.cmp e'.tv ≤ 0 := ⟨fun a b c hab hbc => by
    rw [Timeval.cmp_nonpos_iff] at *
    omega⟩
  rw [eqAdd_eq_orderedInsert]
  exact List.Pairwise.orderedInsert n q h

namespace Sorted

variable {T T' : Timers α}

theorem op (h : T.Sorted) {o : Op α} {r : Reply α} (hop : T.op o = some (T', r)) : T'.Sorted := by
  cases o with
  | add now timeout cb =>
      obtain ⟨⟨T₁, hdl⟩, hadd, heq⟩ := Option.map_eq_some_iff.1 hop
      obtain ⟨rfl, rfl⟩ := Prod.mk.inj heq
      unfold addTimer at hadd
      obtain ⟨-, hadd⟩ := Option.ite_none_right_eq_some.1 hadd
      obtain ⟨rfl, rfl⟩ := Prod.mk.inj (Option.some.inj hadd)
      exact sorted_eqAdd h
  | remove hdl =>
      obtain ⟨rfl, rfl⟩ := Prod.mk.inj (Option.some.inj hop)
      exact h.sublist List.eraseP_sublist

theorem ops (h : T.Sorted) {inner : List (Op α)} {rs : List (Reply α)}
    (hops : T.ops inner = some (T', rs)) : T'.Sorted := by
  induction inner generalizing T rs with
  | nil =>
      obtain ⟨rfl, rfl⟩ := Prod.mk.inj (Option.some.inj hops)
      exact h
  | cons o inner ih =>
      obtain ⟨⟨T₁, r⟩, hone, hmore⟩ := Option.bind_eq_some_iff.1 hops
      obtain ⟨⟨T₂, rs₂⟩, hrest, heq⟩ := Option.map_eq_some_iff.1 hmore
      obtain ⟨rfl, rfl⟩ := Prod.mk.inj heq
      exact ih (h.op hone) hrest

theorem finish (h : T.Sorted) {e : Event α} {newTimeout : ℤ} {now : Timeval} {r : Reply α}
    (hfinish : T.finish e newTimeout now = some (T', r)) : T'.Sorted := by
  rcases finish_cases hfinish with ⟨rfl, -⟩ | ⟨e', -, -, rfl, -⟩
  · exact h
  · exact sorted_eqAdd h

/-- The event at the head expires no later than any other. -/
theorem head {e : Event α} {rest : List (Event α)} (h : T.Sorted) (hT : T.eq = e :: rest) :
    ∀ e' ∈ T.eq, e.tv.cmp e'.tv ≤ 0 := by
  rw [Sorted, hT, List.pairwise_cons] at h
  rw [hT]
  intro e' he'
  rcases List.mem_cons.1 he' with rfl | he'
  · rw [Timeval.cmp_nonpos_iff]
    exact Or.inr ⟨rfl, le_rfl⟩
  · exact h.1 e' he'

end Sorted

/-- A call of `NextTimerTime` or `ExecuteNextTimer` looks at an event that expires no
later than any other. -/
def EarliestFirst (s : Session α) (c : Call α) (s' : Session α) : Prop :=
  match c with
  | .op _ => True
  | .next now => ∃ tv, s'.replies = s.replies ++ [.time tv] ∧
      (s.timers.eq = [] ∧ tv = ⟨maxValue, 0⟩ ∨
        ∃ e ∈ s.timers.eq, tv = e.tv.sub now ∧ ∀ e' ∈ s.timers.eq, e.tv.cmp e'.tv ≤ 0)
  | .execute _ _ _ => ∃ e ∈ s.timers.eq, (∀ e' ∈ s.timers.eq, e.tv.cmp e'.tv ≤ 0) ∧
      ∃ rs, s'.replies = s.replies ++ .ran e.hdl e.cb :: rs

theorem Sorted.step {s s' : Session α} (h : s.timers.Sorted) {c : Call α}
    (hstep : callStep s c = some s') : s'.timers.Sorted ∧ EarliestFirst s c s' := by
  cases c with
  | op o =>
      obtain ⟨⟨T, r⟩, hop, rfl⟩ := Option.map_eq_some_iff.1 hstep
      exact ⟨h.op hop, trivial⟩
  | next now =>
      obtain rfl := Option.some.inj hstep
      refine ⟨h, _, rfl, ?_⟩
      unfold nextTimerTime
      cases hT : s.timers.eq with
      | nil => exact Or.inl ⟨rfl, rfl⟩
      | cons e rest => exact Or.inr ⟨e, List.mem_cons_self, rfl, hT ▸ h.head hT⟩
  | execute inner newTimeout now =>
      obtain ⟨⟨T, rs⟩, hexec, rfl⟩ := Option.map_eq_some_iff.1 hstep
      unfold execute at hexec
      cases hT : s.timers.eq with
      | nil => simp [hT] at hexec
      | cons e rest =>
          rw [hT] at hexec
          obtain ⟨⟨T₁, rs₁⟩, hops, hmore⟩ := Option.bind_eq_some_iff.1 hexec
          obtain ⟨⟨T₂, r⟩, hfinish, heq⟩ := Option.map_eq_some_iff.1 hmore
          obtain ⟨rfl, rfl⟩ := Prod.mk.inj heq
          have hrest : ({ s.timers with eq := rest } : Timers α).Sorted := by
            rw [Sorted, hT] at h
            exact h.of_cons
          refine ⟨(hrest.ops hops).finish hfinish, e, hT ▸ List.mem_cons_self, h.head hT, _, rfl⟩

/-- In every sequence of calls, whatever the callbacks do and however the clock runs, the
timer that is looked at or run is one that expires first. -/
theorem earliestFirst_of_run (cs : List (Call α)) :
    Along callStep EarliestFirst Session.start cs := by
  have hstart : (Session.start : Session α).timers.Sorted := List.Pairwise.nil
  have hall : Along callStep (fun _ _ _ => True) (Session.start : Session α) cs :=
    Along.of_forall fun _ _ _ _ => trivial
  exact Along.imp_of_invariant (I := fun s => s.timers.Sorted)
    (fun s c s' h hstep _ => h.step hstep) hstart hall

end Timers
