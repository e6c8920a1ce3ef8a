import SimpleSDN.Timers.Linked

/-!
# The timer library in memory does what the queue does

One lemma for each function of the library; then a run of calls, by `run_rel`.
-/

open LinkedList

namespace LinkedTimers

open Timers (Op Call Reply)

variable {α : Type}

/-- `new` returns addresses that are free. -/
def LinkedOp.Fresh (Q : LinkedTimers α) : LinkedOp α → Prop
  | .add entry e _ _ _ => entry ∉ Q.entries ∧ e ∉ Q.events
  | .remove _ => True

/-- Also in a callback, and for the event that is set again. -/
def LinkedCall.Fresh (Q : LinkedTimers α) : LinkedCall α → Prop
  | .op o => o.Fresh Q
  | .next _ => True
  | .execute inner _ e' _ => ∀ Q₁ e, Q.eqPop = some (Q₁, e) →
      Throughout (fun Q o => (Q.op o).map Prod.fst) (fun Q o => o.Fresh Q) Q₁ inner ∧
        ∀ Q₂ rs, Q₁.ops inner = some (Q₂, rs) → e' ∉ Q₂.events

/-- The memory holds the queue of `T`, apart from what is held. -/
structure Holds (hev : List (ℕ × LinkedEvent)) (hen : List (ℕ × TimerEntry α))
    (Q : LinkedTimers α) (T : Timers α) : Prop where
  next : Q.nextHandle = T.nextHandle
  layout : ∃ cells, Q.Layout hev hen cells T.eq

theorem holds_init : Holds [] [] (init : LinkedTimers α) .init := ⟨rfl, [], layout_init⟩

namespace Holds

variable {Q : LinkedTimers α} {T : Timers α} {hev : List (ℕ × LinkedEvent)}
  {hen : List (ℕ × TimerEntry α)}

/-- `AddTimer`. -/
theorem addTimer (h : Holds hev hen Q T) {entry e : ℕ} (hentry : entry ∉ Q.entries)
    (he : e ∉ Q.events) (now : Timeval) (timeout : ℤ) (cb : α) :
    Option.Rel (fun x y => Holds hev hen x.1 y.1 ∧ x.2 = y.2)
      (Q.addTimer entry e now timeout cb) (T.addTimer now timeout cb) := by
  obtain ⟨cells, hlayout⟩ := h.layout
  unfold LinkedTimers.addTimer Timers.addTimer
  rw [h.next]
  by_cases hlt : T.nextHandle < 2147483647
  · rw [if_pos ⟨hlt, hentry⟩, if_pos hlt]
    have hnew : ({ Q with
        nextHandle := T.nextHandle + 1
        entries := Q.entries.insert entry ⟨T.nextHandle, timeout, cb⟩ } : LinkedTimers α).Layout
          hev ((entry, ⟨T.nextHandle, timeout, cb⟩) :: hen) cells T.eq := by
      have := hlayout.newEntry hentry ⟨T.nextHandle, timeout, cb⟩
      exact this.move rfl (fun _ => Iff.rfl) (.refl _) (.refl _) this.chain this.heldEvents
        this.heldEntries this.shown
    obtain ⟨Q', cells', hadd, hnext, hlayout'⟩ := hnew.addAfter he now timeout
    rw [hadd, Option.map_some]
    exact .some ⟨⟨hnext, cells', hlayout'⟩, rfl⟩
  · rw [if_neg hlt, if_neg fun hboth => hlt hboth.1]
    exact .none

/-- `RemoveTimer`. -/
theorem removeTimer (h : Holds hev hen Q T) (hdl : ℤ) :
    ∃ Q', Q.removeTimer hdl = some (Q', (T.removeTimer hdl).2) ∧
      Holds hev hen Q' (T.removeTimer hdl).1 := by
  obtain ⟨cells, hlayout⟩ := h.layout
  have hfirst : (Q.eqFindEvent 1).bind (Q.findTimer hdl Q.turns) =
      Q.findTimer hdl Q.turns Q.head := by
    rw [eqFindEvent, eqFindNextEvent_of_chain hlayout.chain hlayout.shown, Option.bind_some]
  unfold LinkedTimers.removeTimer
  rw [hfirst]
  rcases findTimer_of_chain hdl hlayout.chain hlayout.shown hlayout.length_lt_turns with
    ⟨hall, hnone⟩ | ⟨cpre, x, cpost, pre, e, post, rfl, hq, hcpre, hxe, hcpost, he, hpre, hfound⟩
  · have hfalse : ∀ e ∈ T.eq, ¬ (e.hdl == hdl) = true :=
      fun e he heq => hall e he (beq_iff_eq.1 heq)
    have hany : (T.removeTimer hdl).2 = false := by
      rw [Timers.removeTimer, List.any_eq_false]
      exact hfalse
    have herase : (T.removeTimer hdl).1 = T := by
      rw [Timers.removeTimer, List.eraseP_of_forall_not hfalse]
    rw [hnone, Option.bind_some, hany, herase]
    exact ⟨Q, rfl, h⟩
  · rw [hq] at hlayout
    obtain ⟨Q', hremove, hnext, hlayout'⟩ := hlayout.remove hcpre hxe hcpost
    have hmem : e ∈ T.eq := hq ▸ List.mem_append_right _ List.mem_cons_self
    have hany : (T.removeTimer hdl).2 = true := by
      rw [Timers.removeTimer, List.any_eq_true]
      exact ⟨e, hmem, beq_iff_eq.2 he⟩
    have herase : (T.removeTimer hdl).1.eq = pre ++ post := by
      rw [Timers.removeTimer]
      dsimp only
      rw [hq, List.eraseP_append_right _ fun e' he' heq => hpre e' he' (beq_iff_eq.1 heq),
        List.eraseP_cons_of_pos (p := fun e' : Event α => e'.hdl == hdl) (beq_iff_eq.2 he)]
    rw [hfound, Option.bind_some, hany]
    dsimp only
    rw [hremove, Option.bind_some]
    refine ⟨_, if_neg (not_not_intro rfl), hnext.trans h.next, cpre ++ cpost, ?_⟩
    rw [herase]
    exact hlayout'.deleteEntry.freeEvent

theorem op (h : Holds hev hen Q T) (o : LinkedOp α) (hfresh : o.Fresh Q) :
    Option.Rel (fun x y => Holds hev hen x.1 y.1 ∧ x.2 = y.2) (Q.op o) (T.op o.forget) := by
  cases o with
  | add entry e now timeout cb =>
      refine optionRel_map (h.addTimer hfresh.1 hfresh.2 now timeout cb) ?_
      rintro ⟨Q', hdl⟩ ⟨T', hdl'⟩ ⟨h', rfl⟩
      exact ⟨h', rfl⟩
  | remove hdl =>
      obtain ⟨Q', hremove, h'⟩ := h.removeTimer hdl
      rw [LinkedTimers.op, hremove, Option.map_some]
      exact .some ⟨h', rfl⟩

theorem ops (h : Holds hev hen Q T) (inner : List (LinkedOp α))
    (hfresh : Throughout (fun Q o => (Q.op o).map Prod.fst) (fun Q o => o.Fresh Q) Q inner) :
    Option.Rel (fun x y => Holds hev hen x.1 y.1 ∧ x.2 = y.2) (Q.ops inner)
      (T.ops (inner.map LinkedOp.forget)) := by
  induction inner generalizing Q T with
  | nil => exact .some ⟨h, rfl⟩
  | cons o inner ih =>
      have hone := h.op o hfresh.1
      rw [List.map_cons, LinkedTimers.ops, Timers.ops]
      cases hQ : Q.op o with
      | none =>
          rw [hQ] at hone
          generalize T.op o.forget = y at hone
          cases hone
          exact .none
      | some x =>
          rw [hQ] at hone
          generalize T.op o.forget = y at hone
          cases hone with
          | some h' =>
              have hrest := ih h'.1 (hfresh.2 x.1 (congrArg (Option.map Prod.fst) hQ))
              refine optionRel_map hrest ?_
              rintro ⟨Q', rs⟩ ⟨T', rs'⟩ ⟨h'', rfl⟩
              exact ⟨h'', by rw [h'.2]⟩

/-- The end of `ExecuteNextTimer`. -/
theorem finish {a : ℕ} {ev : LinkedEvent} {e : Event α}
    (h : Holds ((a, ev) :: hev) ((ev.payload, ⟨e.hdl, e.timeout, e.cb⟩) :: hen) Q T)
    (newTimeout : ℤ) {e' : ℕ} (he' : e' ∉ Q.events) (now : Timeval) :
    Option.Rel (fun x y => Holds hev hen x.1 y.1 ∧ x.2 = y.2)
      (Q.finish a ev.payload newTimeout e' now) (T.finish e newTimeout now) := by
  obtain ⟨cells, hlayout⟩ := h.layout
  have hentry : Q.entries[ev.payload]? = some ⟨e.hdl, e.timeout, e.cb⟩ :=
    hlayout.heldEntries _ List.mem_cons_self
  unfold LinkedTimers.finish Timers.finish
  rw [hentry, Option.bind_some]
  by_cases hdiscard : newTimeout = Timers.discard
  · rw [if_pos hdiscard, if_pos hdiscard, Option.map_some]
    exact .some ⟨⟨h.next, cells, hlayout.deleteEntry.freeEvent⟩, rfl⟩
  · rw [if_neg hdiscard, if_neg hdiscard]
    by_cases hagain : newTimeout = Timers.rescheduleSame ∨ newTimeout > 0
    · rw [if_pos hagain, if_pos hagain]
      -- the entry with the timeout that the event is set again with
      have hset : (if newTimeout > 0 then
          ({ hdl := e.hdl, timeout := newTimeout, cb := e.cb } : TimerEntry α)
          else ⟨e.hdl, e.timeout, e.cb⟩) =
            ⟨e.hdl, if newTimeout > 0 then newTimeout else e.timeout, e.cb⟩ := by
        split_ifs <;> rfl
      dsimp only
      rw [hset]
      obtain ⟨Q', cells', hadd, hnext, hlayout'⟩ :=
        (hlayout.setEntry ⟨e.hdl, if newTimeout > 0 then newTimeout else e.timeout,
          e.cb⟩).addAfter he' now (if newTimeout > 0 then newTimeout else e.timeout)
      rw [hadd, Option.map_some, Option.map_some]
      exact .some ⟨⟨hnext.trans h.next, cells', hlayout'.freeEvent⟩, rfl⟩
    · rw [if_neg hagain, if_neg hagain]
      exact .none

/-- `ExecuteNextTimer`. -/
theorem execute (h : Holds [] [] Q T) {inner : List (LinkedOp α)} {newTimeout : ℤ} {e' : ℕ}
    {now : Timeval} (hfresh : (LinkedCall.execute inner newTimeout e' now).Fresh Q) :
    Option.Rel (fun x y => Holds [] [] x.1 y.1 ∧ x.2 = y.2) (Q.execute inner newTimeout e' now)
      (T.execute (inner.map LinkedOp.forget) newTimeout now) := by
  obtain ⟨cells, hlayout⟩ := h.layout
  unfold LinkedTimers.execute Timers.execute
  cases hT : T.eq with
  | nil =>
      rw [hT] at hlayout
      have hshown := hlayout.shown
      generalize hcells : cells = cells₀ at hshown
      cases hshown
      have hhead : Q.head = none := by rw [hlayout.chain.start_eq, hcells]; rfl
      rw [eqPop, hhead]
      exact .none
  | cons e rest =>
      rw [hT] at hlayout
      obtain ⟨a, ev, Q₁, cells₁, hpop, hnext, hshow, hlayout₁⟩ := hlayout.pop
      obtain ⟨hinner, hlast⟩ := hfresh Q₁ (some a) hpop
      obtain ⟨n, hn⟩ := hlayout₁.heldEvents (a, ev) List.mem_cons_self
      have h₁ : Holds _ _ Q₁ ({ T with eq := rest } : Timers α) :=
        ⟨hnext.trans h.next, cells₁, hlayout₁⟩
      have hentry : Q₁.entries[ev.payload]? = some ⟨e.hdl, e.timeout, e.cb⟩ := hshow.2.2
      rw [hpop, Option.bind_some]
      dsimp only
      rw [Option.bind_some, hn, Option.bind_some, hentry, Option.bind_some]
      have hops := h₁.ops inner hinner
      cases hQ : Q₁.ops inner with
      | none =>
          rw [hQ] at hops
          generalize Timers.ops _ (inner.map LinkedOp.forget) = y at hops
          cases hops
          exact .none
      | some x =>
          rw [hQ] at hops
          generalize Timers.ops _ (inner.map LinkedOp.forget) = y at hops
          cases hops with
          | some h₂ =>
              refine optionRel_map (h₂.1.finish newTimeout (hlast x.1 x.2 hQ) now) ?_
              rintro ⟨Q', r⟩ ⟨T', r'⟩ ⟨h', rfl⟩
              exact ⟨h', by rw [h₂.2]⟩

end Holds

/-- The library in memory and what it has replied. -/
structure LinkedSession (α : Type) where
  timers : LinkedTimers α
  replies : List (Reply α)

/-- The start of a program. -/
def LinkedSession.start : LinkedSession α := ⟨init, []⟩

/-- One call. -/
def linkedStep (s : LinkedSession α) : LinkedCall α → Option (LinkedSession α)
  | .op o => (s.timers.op o).map fun (Q, r) => ⟨Q, s.replies ++ [r]⟩
  | .next now => (s.timers.nextTimerTime now).map fun tv =>
      { s with replies := s.replies ++ [.time tv] }
  | .execute inner newTimeout e' now =>
      (s.timers.execute inner newTimeout e' now).map fun (Q, rs) => ⟨Q, s.replies ++ rs⟩

/-- The memory holds the queue and nothing else, and the replies were the same. -/
def Refines (s : LinkedSession α) (t : Timers.Session α) : Prop :=
  Holds [] [] s.timers t.timers ∧ s.replies = t.replies

/-- `NextTimerTime`. -/
theorem Holds.nextTimerTime {Q : LinkedTimers α} {T : Timers α} (h : Holds [] [] Q T)
    (now : Timeval) : Q.nextTimerTime now = some (T.nextTimerTime now) := by
  obtain ⟨cells, hlayout⟩ := h.layout
  have hshown := hlayout.shown
  have hchain := hlayout.chain
  unfold LinkedTimers.nextTimerTime Timers.nextTimerTime
  generalize T.eq = q at hshown
  cases hshown with
  | nil =>
      have hhead : Q.head = none := hchain
      rw [hhead]
  | cons hxe _ =>
      obtain ⟨hhead, n, hn, -⟩ := hchain
      rw [hhead]
      dsimp only
      rw [hn, Option.map_some, ← hxe.2.1]

theorem Refines.step {s : LinkedSession α} {t : Timers.Session α} (h : Refines s t)
    {c : LinkedCall α} (hfresh : c.Fresh s.timers) :
    Option.Rel Refines (linkedStep s c) (Timers.callStep t c.forget) := by
  obtain ⟨hholds, hreplies⟩ := h
  cases c with
  | op o =>
      refine optionRel_map (hholds.op o hfresh) ?_
      rintro ⟨Q, r⟩ ⟨T, r'⟩ ⟨h', rfl⟩
      exact ⟨h', by rw [hreplies]⟩
  | next now =>
      rw [linkedStep, hholds.nextTimerTime, Option.map_some]
      exact .some ⟨hholds, by rw [hreplies]⟩
  | execute inner newTimeout e' now =>
      refine optionRel_map (hholds.execute hfresh) ?_
      rintro ⟨Q, rs⟩ ⟨T, rs'⟩ ⟨h', rfl⟩
      exact ⟨h', by rw [hreplies]⟩

/-- Whatever free addresses `new` returns, every sequence of calls does in memory what it
does to the queue: no dangling pointer is followed, the replies are the same, and what is
allocated in the end is the queue. -/
theorem refines_of_run (cs : List (LinkedCall α))
    (hfresh : Throughout linkedStep (fun s c => c.Fresh s.timers) LinkedSession.start cs) :
    Option.Rel Refines (run linkedStep LinkedSession.start cs)
      (run Timers.callStep Timers.Session.start (cs.map LinkedCall.forget)) :=
  run_rel (fun _ _ _ h hfresh => h.step hfresh) ⟨holds_init, rfl⟩ hfresh

theorem refines_of_run_three :
    Option.Rel Refines
      (run linkedStep (.start : LinkedSession Char) [.op (.add 1 2 ⟨0, 0⟩ 10 'a'),
        .op (.add 2 5 ⟨0, 0⟩ 5 'b'), .execute [.remove 1] 0 2 ⟨1, 0⟩])
      (run Timers.callStep (.start : Timers.Session Char) [.op (.add ⟨0, 0⟩ 10 'a'),
        .op (.add ⟨0, 0⟩ 5 'b'), .execute [.remove 1] 0 ⟨1, 0⟩]) := by
  refine refines_of_run [.op (.add 1 2 ⟨0, 0⟩ 10 'a'), .op (.add 2 5 ⟨0, 0⟩ 5 'b'),
    .execute [.remove 1] 0 2 ⟨1, 0⟩] ⟨⟨by decide, by decide⟩, fun s₁ h₁ => ?_⟩
  obtain rfl := Option.some.inj h₁
  refine ⟨⟨by decide, by decide⟩, fun s₂ h₂ => ?_⟩
  obtain rfl := Option.some.inj h₂
  refine ⟨fun Q₁ e h => ?_, fun _ _ => trivial⟩
  obtain ⟨rfl, rfl⟩ := Prod.mk.inj (Option.some.inj h)
  refine ⟨⟨trivial, fun _ _ => trivial⟩, fun Q₂ rs h' => ?_⟩
  -- the callback's own timer is still held when its new event is allocated
  obtain ⟨rfl, rfl⟩ := Prod.mk.inj (Option.some.inj h')
  decide

end LinkedTimers
