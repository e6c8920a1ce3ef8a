import SimpleSDN.Primary.Iteration
import SimpleSDN.Primary.RuleBeforeData

/-!
# When the timers of a primary router expire

A timer is set 2000 ms ahead of the transmission of its message, and the loop is
to run it when that time has come. The queue keeps that distance in every
iteration (`Loop.Paced`). A timer runs too early when another has expired at the
top of the iteration and `select`, whose timeout is then left at zero, finds
nothing: the loop takes this for the expiry of the next timer
(`timelyCalls_iff_nextDue`).
-/

/-- The call is not made before the expiry time of the event, nor less than 2000 ms
after the message was sent before. -/
structure Call.Timely (call : Call) : Prop where
  due : call.event.tv.usecs ≤ call.time.usecs
  spaced : ∀ t ∈ call.previous, t.usecs + 2000 * 1000 ≤ call.time.usecs

/-- A call that starts at `t` or later, after which the clock is read. -/
def Tick.After (tick : Tick) (t : Timeval) : Prop :=
  t.usecs ≤ tick.call.usecs ∧ tick.call.usecs ≤ tick.reading.usecs ∧ tick.reading.Normal

/-- The turns of the inner loop, one after the other, from `t` on. -/
def TurnsAfter : Timeval → List (Tick × Timeval) → Prop
  | _, [] => True
  | t, (tick, next) :: turns =>
      tick.After t ∧ tick.reading.usecs ≤ next.usecs ∧ next.Normal ∧ TurnsAfter next turns

/-- What follows the start of `select` at `wait`. A message is sent before its timer
is set. -/
def Selected.After (wait : Timeval) : Selected → Prop
  | .ready _ tunnel _ => ∀ input ∈ tunnel, ∀ i, wait.usecs ≤ (input.sending i).usecs ∧
      (input.sending i).usecs ≤ (input.clock i).usecs ∧ (input.clock i).Normal
  | .expired back first next turns => wait.usecs ≤ back.usecs ∧ first.After back ∧
      first.reading.usecs ≤ next.usecs ∧ next.Normal ∧ TurnsAfter next turns

/-- The clock does not run backwards in the iteration. -/
def Iteration.Clocked (it : Iteration) : Prop :=
  it.next.Normal ∧ it.top.After it.next ∧ it.top.reading.usecs ≤ it.wait.usecs ∧
    it.selected.After it.wait

namespace Loop

/-- `select` returns 0 only after its timeout has passed. -/
def Waits (s : Loop) (it : Iteration) : Prop :=
  match it.selected with
  | .ready _ _ _ => True
  | .expired back _ _ _ => it.wait.usecs + (s.selectTimeout it.next).usecs ≤ back.usecs

/-- The calls that are made from `s` to `s'` are timely. -/
def TimelyCalls (s s' : Loop) : Prop :=
  ∀ call ∈ s'.calls.drop s.calls.length, call.Timely

/-- Where a timer has expired at the top and `select` then finds nothing, the timer
that comes next has expired as well: the one just set again, or the second of the
queue. -/
def NextDue (s : Loop) (it : Iteration) : Prop :=
  match it.selected, s.primary.timersManager.eq with
  | .expired _ first _ _, e :: rest => e.tv.usecs ≤ it.next.usecs →
      it.top.reading.usecs + 2000 * 1000 ≤ first.call.usecs ∨
        ∃ e' ∈ rest.head?, e'.tv.usecs ≤ first.call.usecs
  | _, _ => True

/-- The queue keeps a distance of 2000 ms. -/
def Paced (s : Loop) : Prop := s.primary.timersManager.Paced 2000 s.lastSent

variable {c : Config} {s s' : Loop}

/-- A call is timely when the event at the head has expired. -/
theorem Paced.timely_iff (h : s.Paced) {e : Event OctaneTimer}
    (he : e ∈ s.primary.timersManager.eq) (t : Timeval) :
    Call.Timely ⟨e, t, s.lastSent e.hdl⟩ ↔ e.tv.usecs ≤ t.usecs :=
  ⟨Call.Timely.due, fun hdue => ⟨hdue, fun t' ht' => (h.spaced e he t' ht').trans hdue⟩⟩

/-- One call of `ExecuteNextTimer`. -/
theorem Paced.execute (h : s.Paced) {tick : Tick} {t : Timeval} (htick : tick.After t)
    (hexec : s.execute tick = some s') :
    ∃ e rest, s.primary.timersManager.eq = e :: rest ∧
      s'.calls = s.calls ++ [⟨e, tick.call, s.lastSent e.hdl⟩] ∧
      s'.primary.timersManager.eq =
        eqAdd { e with tv := tick.reading.addmsecs 2000 } rest ∧ s'.Paced := by
  obtain ⟨e, rest, primary, hq, hprimary, rfl⟩ := execute_cases hexec
  obtain ⟨⟨T, cb⟩, hT, rfl⟩ := Option.map_eq_some_iff.1 hprimary
  obtain ⟨heq, hpaced⟩ := h.executeNextTimer (by omega) hq hT htick.2.2 htick.2.1
  exact ⟨e, rest, hq, rfl, heq, hpaced⟩

/-- The inner loop makes timely calls only. -/
theorem Paced.executeExpired (h : s.Paced) {next : Timeval} {turns : List (Tick × Timeval)}
    (hnext : next.Normal) (hturns : TurnsAfter next turns)
    (hexec : s.executeExpired next turns = some s') :
    s'.Paced ∧ ∃ calls, s'.calls = s.calls ++ calls ∧ ∀ call ∈ calls, call.Timely := by
  induction turns generalizing s next with
  | nil =>
      obtain ⟨-, rfl⟩ := executeExpired_nil_iff.1 hexec
      exact ⟨h, [], by simp, by simp⟩
  | cons turn turns ih =>
      obtain ⟨tick, next'⟩ := turn
      obtain ⟨htick, -, hnext', hrest⟩ := hturns
      obtain ⟨hzero, s₁, hone, hmore⟩ := executeExpired_cons_iff.1 hexec
      obtain ⟨e, rest, hq, hcalls, -, hpaced⟩ := h.execute htick hone
      obtain ⟨hpaced', calls, hcalls', htimely⟩ := ih hpaced hnext' hrest hmore
      refine ⟨hpaced', ⟨e, tick.call, s.lastSent e.hdl⟩ :: calls, ?_, ?_⟩
      · rw [hcalls', hcalls, List.append_assoc, List.singleton_append]
      · have hdue : e.tv.usecs ≤ next.usecs := by
          simpa [hq] using (Timers.nextTimerTime_eq_zero_iff h.carried hnext).1 hzero
        have he : e ∈ s.primary.timersManager.eq := by simp [hq]
        simpa [h.timely_iff he, hdue.trans htick.1] using htimely

/-- A packet from the tunnel adds timers. -/
theorem timersManager_of_tunnel {p p' : Primary} {st : Stack} {buffer : Packet}
    {clock : ℕ → Timeval} (h : primStep c p (.tunnel st buffer clock) = some p') :
    ∃ ts hs, Timers.addTimers 2000 p.timersManager clock ts = some (p'.timersManager, hs) := by
  rcases Primary.quiet_or_newFlow h with ⟨hquiet, -⟩ | ⟨addr, ts, hnew⟩
  · exact ⟨[], [], by rw [hquiet.timersManager]; rfl⟩
  · obtain ⟨⟨T, hs⟩, hadd, heq⟩ := Option.map_eq_some_iff.1 hnew.channel
    obtain rfl : T = p'.timersManager := congrArg Channel.timersManager heq
    exact ⟨ts, hs, hadd⟩

/-- A datagram on the socket removes at most one timer. -/
theorem timersManager_fromSocket (c : Config) (p : Primary) (st : Stack) (buffer : Packet)
    (iPort : ℤ) : (p.fromSocket c st buffer iPort).timersManager = p.timersManager ∨
      ∃ hdl, (p.fromSocket c st buffer iPort).timersManager =
        (p.timersManager.removeTimer hdl).1 := by
  cases Primary.fromSocket_outcome c p st buffer iPort with
  | forward _ hquiet _ => exact Or.inl hquiet.timersManager
  | octane s₀ _ hquiet _ heq =>
      have hchannel := congrArg Channel.timersManager
        (Primary.channel_octaneFromSocket c s₀ buffer.octane)
      rw [heq, ← hquiet.timersManager]
      change (Primary.octaneFromSocket c s₀ buffer.octane).timersManager = _ at hchannel
      split_ifs at hchannel
      · exact Or.inr ⟨_, hchannel⟩
      · exact Or.inl hchannel

/-- The reactions to what has arrived make no call. -/
theorem Paced.react (h : s.Paced) {wait remaining : Timeval} {tunnel : Option TunnelInput}
    {socket : Option SocketInput}
    (hafter : (Selected.ready remaining tunnel socket).After wait)
    (hreact : s.react c remaining tunnel socket = some s') :
    s'.Paced ∧ s'.calls = s.calls := by
  obtain ⟨s₁, s₂, htunnel, hsocket, rfl⟩ := react_cases hreact
  have h₁ : s₁.Paced ∧ s₁.calls = s.calls := by
    rcases htunnel with ⟨-, rfl⟩ | ⟨input, primary, rfl, hprimary, rfl⟩
    · exact ⟨h, rfl⟩
    · obtain ⟨ts, hs, hadd⟩ := timersManager_of_tunnel hprimary
      have hclock := hafter input rfl
      have hlen : (primary.timersManager.nextHandle -
          s.primary.timersManager.nextHandle).toNat = ts.length := by
        have hnext := (Timers.of_addTimers hadd).2.1
        omega
      refine ⟨?_, rfl⟩
      unfold Loop.Paced
      dsimp only
      rw [hlen]
      exact h.addTimers (by omega) hadd fun i => ⟨(hclock i).2.2, (hclock i).2.1⟩
  have h₂ : s₂.Paced ∧ s₂.calls = s₁.calls := by
    rcases hsocket with ⟨-, rfl⟩ | ⟨input, -, rfl⟩
    · exact ⟨h₁.1, rfl⟩
    · refine ⟨?_, rfl⟩
      unfold Loop.Paced
      rcases timersManager_fromSocket c s₁.primary input.st input.buffer input.iPort with
        heq | ⟨hdl, heq⟩
      · rw [heq]
        exact h₁.1
      · rw [heq]
        exact h₁.1.removeTimer hdl
  exact ⟨h₂.1, h₂.2.trans h₁.2⟩

/-- The calls after `select` has found nothing: all are timely if the first is. -/
theorem Paced.expired (h : s.Paced) {back next : Timeval} {first : Tick}
    {turns : List (Tick × Timeval)} (hfirst : first.After back) (hnext : next.Normal)
    (hturns : TurnsAfter next turns)
    (hexec : s.afterSelect c true (.expired back first next turns) = some s') :
    s'.Paced ∧ ∃ e calls, e ∈ s.primary.timersManager.eq.head? ∧ s'.calls = s.calls ++ calls ∧
      ((∀ call ∈ calls, call.Timely) ↔ e.tv.usecs ≤ first.call.usecs) := by
  obtain ⟨s₁, s₂, hone, hturn, rfl⟩ :=
    (expired_cases hexec).resolve_right (fun hfalse => Bool.noConfusion hfalse.1) |>.2
  obtain ⟨e, rest, hq, hcalls, -, hpaced⟩ := h.execute hfirst hone
  obtain ⟨hpaced', calls, hcalls', htimely⟩ := hpaced.executeExpired hnext hturns hturn
  have he : e ∈ s.primary.timersManager.eq := by simp [hq]
  refine ⟨hpaced', e, ⟨e, first.call, s.lastSent e.hdl⟩ :: calls, by simp [hq], ?_, ?_⟩
  · rw [hcalls', hcalls, List.append_assoc, List.singleton_append]
  · rw [List.forall_mem_cons, h.timely_iff he, and_iff_left htimely]

theorem timelyCalls_iff {calls : List Call} (h : s'.calls = s.calls ++ calls) :
    TimelyCalls s s' ↔ ∀ call ∈ calls, call.Timely := by
  unfold TimelyCalls
  rw [h, List.drop_left]

/-- An iteration at whose top a timer runs. -/
theorem Paced.iterate_of_due (h : s.Paced) {s₁ : Loop} {it : Iteration} {e : Event OctaneTimer}
    {rest : List (Event OctaneTimer)} (hq : s.primary.timersManager.eq = e :: rest)
    (hdue : e.tv.usecs ≤ it.next.usecs) (hclock : it.Clocked) (htop : s.execute it.top = some s₁)
    (hselect : s₁.afterSelect c true it.selected = some s') :
    s'.Paced ∧ (TimelyCalls s s' ↔ s.NextDue it) := by
  obtain ⟨hnext, hafter, -, hselected⟩ := hclock
  obtain ⟨e', rest', hq', hcalls, heq, hpaced⟩ := h.execute hafter htop
  obtain ⟨rfl, rfl⟩ := List.cons.inj (hq.symm.trans hq')
  have he : e ∈ s.primary.timersManager.eq := by simp [hq]
  have htimely : Call.Timely ⟨e, it.top.call, s.lastSent e.hdl⟩ :=
    (h.timely_iff he _).2 (hdue.trans hafter.1)
  unfold NextDue
  cases hsel : it.selected with
  | ready remaining tunnel socket =>
      rw [hsel] at hselect hselected
      obtain ⟨hpaced', hcalls'⟩ := hpaced.react hselected hselect
      refine ⟨hpaced', ?_⟩
      rw [timelyCalls_iff (hcalls'.trans hcalls)]
      simpa using htimely
  | expired back first next turns =>
      rw [hsel] at hselect hselected
      obtain ⟨-, hfirst, -, hnext', hturns⟩ := hselected
      obtain ⟨hpaced', e₁, calls, he₁, hcalls', hiff⟩ :=
        hpaced.expired hfirst hnext' hturns hselect
      have hcarried : it.top.reading.addmsecs 2000 |>.Carried :=
        (Timeval.addmsecs_spec hafter.2.2.1 (by omega)).1
      have hhead := Timers.head?_eqAdd { e with tv := it.top.reading.addmsecs 2000 } rest
        first.call.usecs hcarried fun e' he' => h.carried e' (by simp [hq, he'])
      rw [(Timeval.addmsecs_spec hafter.2.2.1 (by omega)).2, ← heq] at hhead
      refine ⟨hpaced', ?_⟩
      rw [timelyCalls_iff (by rw [hcalls', hcalls, List.append_assoc, List.singleton_append]),
        List.forall_mem_cons, and_iff_right htimely, hiff, hq]
      simp only [hdue, forall_const, ← hhead]
      constructor
      · exact fun h₁ => ⟨e₁, he₁, h₁⟩
      · rintro ⟨e₂, he₂, h₂⟩
        exact Option.some.inj (he₂.symm.trans he₁) ▸ h₂

/-- An iteration at whose top no timer runs: `select` waits until the head expires. -/
theorem Paced.iterate_of_not_due (h : s.Paced) {it : Iteration} (hclock : it.Clocked)
    (hwait : s.Waits it)
    (hzero : s.primary.timersManager.nextTimerTime it.next ≠ ⟨0, 0⟩)
    (hselect : s.afterSelect c
      (s.primary.timersManager.nextTimerTime it.next ≠ ⟨Timers.maxValue, 0⟩) it.selected =
        some s') : s'.Paced ∧ (TimelyCalls s s' ↔ s.NextDue it) := by
  obtain ⟨hnext, hafter, hstart, hselected⟩ := hclock
  have hnot : s.NextDue it := by
    unfold NextDue
    split
    · next hq =>
        intro hdue
        exact absurd ((Timers.nextTimerTime_eq_zero_iff h.carried hnext).2
          ⟨_, by rw [hq]; rfl, hdue⟩) hzero
    · trivial
  rw [iff_true_right hnot]
  cases hsel : it.selected with
  | ready remaining tunnel socket =>
      rw [hsel] at hselect hselected
      obtain ⟨hpaced', hcalls'⟩ := h.react hselected hselect
      refine ⟨hpaced', (timelyCalls_iff (hcalls'.trans (List.append_nil _).symm)).2 ?_⟩
      simp
  | expired back first next turns =>
      rw [hsel] at hselect hselected
      obtain ⟨-, hfirst, -, hnext', hturns⟩ := hselected
      by_cases hmax : s.primary.timersManager.nextTimerTime it.next = ⟨Timers.maxValue, 0⟩
      · simp only [hmax, ne_eq, not_true_eq_false, decide_false] at hselect
        obtain rfl := Option.some.inj hselect
        exact ⟨h, (timelyCalls_iff (List.append_nil _).symm).2 (by simp)⟩
      · simp only [hmax, ne_eq, not_false_eq_true, decide_true] at hselect
        obtain ⟨hpaced', e, calls, he, hcalls', hiff⟩ := h.expired hfirst hnext' hturns hselect
        refine ⟨hpaced', (timelyCalls_iff hcalls').2 (hiff.2 ?_)⟩
        -- the timeout of `select` is the time from `next` to the expiry of the head
        obtain ⟨rest, hq⟩ : ∃ rest, s.primary.timersManager.eq = e :: rest :=
          List.head?_eq_some_iff.1 he
        have hsub : (s.selectTimeout it.next).usecs = max 0 (e.tv.usecs - it.next.usecs) := by
          rw [selectTimeout, if_neg hmax, Timers.nextTimerTime, hq]
          exact Timeval.usecs_sub (h.carried e (by simp [hq])) hnext
        have hback : it.wait.usecs + (s.selectTimeout it.next).usecs ≤ back.usecs := by
          simpa only [Waits, hsel] using hwait
        have hcall := hfirst.1
        have htop := hafter.1
        have hread := hafter.2.1
        omega

/-- One iteration: the queue keeps its distance, and the calls are timely exactly
when the next timer is due. -/
theorem Paced.step (h : s.Paced) {it : Iteration} (hclock : it.Clocked) (hwait : s.Waits it)
    (hstep : iterate c s it = some s') : s'.Paced ∧ (TimelyCalls s s' ↔ s.NextDue it) := by
  obtain ⟨-, s₁, htop, hselect⟩ := iterate_cases hstep
  rcases executeTop_cases htop with ⟨hzero, hone⟩ | ⟨hzero, rfl⟩
  · have hnonzero : decide (s.primary.timersManager.nextTimerTime it.next ≠
        ⟨Timers.maxValue, 0⟩) = true := by
      rw [hzero]
      decide
    rw [hnonzero] at hselect
    obtain ⟨e, he, hdue⟩ := (Timers.nextTimerTime_eq_zero_iff h.carried hclock.1).1 hzero
    obtain ⟨rest, hq⟩ := List.head?_eq_some_iff.1 he
    exact h.iterate_of_due hq hdue hclock hone hselect
  · exact h.iterate_of_not_due hclock hwait hzero hselect

/-- In every run of the loop the timers run in time exactly when, at each iteration
with a timer that has expired at its top and nothing found by `select`, the next
timer has expired too. -/
theorem timelyCalls_iff_nextDue (c : Config) (router : CRouter) (auth authRev : OctaneControl)
    (its : List Iteration)
    (hclock : Along (iterate c) (fun s it _ => it.Clocked ∧ s.Waits it)
      (start (.start router auth authRev)) its) :
    Along (iterate c) (fun s _ s' => TimelyCalls s s') (start (.start router auth authRev)) its ↔
      Along (iterate c) (fun s it _ => s.NextDue it) (start (.start router auth authRev)) its := by
  have hstart : (start (.start router auth authRev)).Paced := Timers.paced_init 2000 _
  constructor
  · intro hlaw
    refine Along.imp_of_invariant (I := Paced) ?_ hstart (hclock.and hlaw)
    intro s it s' h hstep hcond
    obtain ⟨hpaced, hiff⟩ := h.step hcond.1.1 hcond.1.2 hstep
    exact ⟨hpaced, hiff.1 hcond.2⟩
  · intro hdue
    refine Along.imp_of_invariant (I := Paced) ?_ hstart (hclock.and hdue)
    intro s it s' h hstep hcond
    obtain ⟨hpaced, hiff⟩ := h.step hcond.1.1 hcond.1.2 hstep
    exact ⟨hpaced, hiff.2 hcond.2⟩

/-- The loop of stage 6 with two secondary routers. -/
def timerConfig : Config := ⟨.s6, .local 0x2300, 0x2300, 0x2400, 0⟩

/-- At the time 0 a ping is read, which gives rise to one control message. -/
def pingAtZero : Iteration where
  next := ⟨0, 0⟩
  top := ⟨⟨0, 0⟩, ⟨0, 0⟩⟩
  wait := ⟨0, 0⟩
  selected := .ready ⟨15, 0⟩ (some
    { st := { (default : Stack) with dstAddr := inetAddr ⟨10, 5, 51, 11⟩ }
      buffer := samplePing ⟨10, 5, 51, 11⟩
      clock := fun _ => ⟨0, 0⟩
      sending := fun _ => ⟨0, 0⟩ }) none

/-- An iteration that starts at `next` and in which `select` finds nothing up to
`back`. -/
def nothingUntil (next back : Timeval) : Iteration where
  next := next
  top := ⟨next, next⟩
  wait := next
  selected := .expired back ⟨back, back⟩ back []

theorem pingAtZero_clocked : pingAtZero.Clocked := by
  refine ⟨by decide, ⟨by decide, by decide, by decide⟩, by decide, ?_⟩
  have hzero : (⟨0, 0⟩ : Timeval).Normal := by decide
  rintro input ⟨rfl⟩ i
  exact ⟨le_rfl, le_rfl, hzero⟩

theorem nothingUntil_clocked {next back : Timeval} (hnext : next.Normal) (hback : back.Normal)
    (hle : next.usecs ≤ back.usecs) : (nothingUntil next back).Clocked :=
  ⟨hnext, ⟨le_rfl, le_rfl, hnext⟩, le_rfl, hle, ⟨le_rfl, le_rfl, hback⟩, le_rfl, hback, trivial⟩

/-- The queue after the ping. -/
theorem timers_pingAtZero {s : Loop}
    (h : iterate timerConfig (start sampleStart) pingAtZero = some s) :
    s.primary.timersManager.eq.map Event.tv = [⟨2, 0⟩] ∧ s.calls.length = 0 := by
  have hall : ∀ s ∈ iterate timerConfig (start sampleStart) pingAtZero,
      s.primary.timersManager.eq.map Event.tv = [⟨2, 0⟩] ∧ s.calls.length = 0 := by decide
  exact hall s h

/-- Two iterations from the ping on are clocked when `select` waits in the second. -/
theorem clocked_pingAtZero {next back : Timeval} (hnext : next.Normal) (hback : back.Normal)
    (hle : next.usecs ≤ back.usecs)
    (hwait : ∀ s ∈ iterate timerConfig (start sampleStart) pingAtZero,
      next.usecs + (s.selectTimeout next).usecs ≤ back.usecs) :
    Along (iterate timerConfig) (fun s it _ => it.Clocked ∧ s.Waits it) (start sampleStart)
      [pingAtZero, nothingUntil next back] := by
  refine fun s hs => ⟨⟨pingAtZero_clocked, trivial⟩, fun s' _ => ⟨⟨?_, hwait s hs⟩, trivial⟩⟩
  exact nothingUntil_clocked hnext hback hle

/-- A timer that expires while the loop waits. -/
theorem timelyCalls_ping :
    Along (iterate timerConfig) (fun s _ s' => TimelyCalls s s') (start sampleStart)
      [pingAtZero, nothingUntil ⟨1, 0⟩ ⟨2, 0⟩] := by
  refine (timelyCalls_iff_nextDue timerConfig _ _ _ _
    (clocked_pingAtZero (by decide) (by decide) (by decide) (by decide))).2 ?_
  refine fun s hs => ⟨trivial, fun s' _ => ⟨?_, trivial⟩⟩
  obtain ⟨e, hq, he⟩ := List.map_eq_singleton_iff.1 (timers_pingAtZero hs).1
  simp only [NextDue, nothingUntil, hq, he]
  exact fun hdue => absurd hdue (by decide)

/-- A timer that has expired at the top of an iteration is run again at once. -/
theorem not_timelyCalls_late_ping :
    Along (iterate timerConfig) (fun s it _ => it.Clocked ∧ s.Waits it) (start sampleStart)
        [pingAtZero, nothingUntil ⟨3, 0⟩ ⟨3, 0⟩] ∧
      ¬ Along (iterate timerConfig) (fun s _ s' => TimelyCalls s s') (start sampleStart)
        [pingAtZero, nothingUntil ⟨3, 0⟩ ⟨3, 0⟩] := by
  refine ⟨clocked_pingAtZero (by decide) (by decide) (by decide) (by decide), fun hlaw => ?_⟩
  have hdef : (run (iterate timerConfig) (start sampleStart)
      [pingAtZero, nothingUntil ⟨3, 0⟩ ⟨3, 0⟩]).isSome = true := by decide
  obtain ⟨t, ht⟩ := Option.isSome_iff_exists.1 hdef
  have hearly : ∀ t ∈ run (iterate timerConfig) (start sampleStart)
      [pingAtZero, nothingUntil ⟨3, 0⟩ ⟨3, 0⟩],
      ∃ call ∈ t.calls, ¬ call.event.tv.usecs ≤ call.time.usecs := by decide
  obtain ⟨call, hcall, hnot⟩ := hearly t ht
  obtain ⟨s, hs, hrest⟩ := run_cons.1 ht
  obtain ⟨s', hs', hend⟩ := run_cons.1 hrest
  obtain rfl : s' = t := Option.some.inj hend
  have htimely : TimelyCalls s s' := ((hlaw s hs).2 s' hs').1
  unfold TimelyCalls at htimely
  rw [(timers_pingAtZero hs).2, List.drop_zero] at htimely
  exact hnot (htimely call hcall).due

end Loop
