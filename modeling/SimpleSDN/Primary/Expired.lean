import SimpleSDN.Primary.Idle

/-!
# The calls of `ExecuteNextTimer`

`ExecuteNextTimer` takes the head of the queue without a test. The loop calls it at
the top of an iteration, after `select` has found nothing, and in the inner loop, and
at each of them only `timeout` and `bEventTimeout` say that there is a timer
(`throughout_calls_pending`). The inner loop sets every timer again, so that the queue
does not become shorter. It ends because a timer that has been set again is not due
within the next 2000 ms (`executeExpired_ends`).
-/

namespace Loop

variable {c : Config} {s s' t : Loop} {it : Iteration}

/-- The first turns of the inner loop, and the reading of `NextTimerTime` after them. -/
def executeTurns (s : Loop) (next : Timeval) : List (Tick × Timeval) → Option (Loop × Timeval)
  | [] => some (s, next)
  | (tick, next') :: turns =>
      if s.primary.timersManager.nextTimerTime next = ⟨0, 0⟩ then
        (s.execute tick).bind fun s => s.executeTurns next' turns
      else none

/-- In an iteration from `s`, `ExecuteNextTimer` is called in the state `t`. -/
inductive CallAt (s : Loop) (it : Iteration) : Loop → Prop
  | top (hrunning : s.running = true)
      (hzero : s.primary.timersManager.nextTimerTime it.next = ⟨0, 0⟩) : CallAt s it s
  | first {t : Loop} {back next : Timeval} {tick : Tick} {turns : List (Tick × Timeval)}
      (hrunning : s.running = true) (htop : s.executeTop it = some t)
      (hselect : it.selected = .expired back tick next turns)
      (hevent : s.primary.timersManager.nextTimerTime it.next ≠ ⟨Timers.maxValue, 0⟩) :
      CallAt s it t
  | inner {s₁ s₂ t : Loop} {back next next' : Timeval} {tick : Tick}
      {turns turns' : List (Tick × Timeval)}
      (hrunning : s.running = true) (htop : s.executeTop it = some s₁)
      (hselect : it.selected = .expired back tick next (turns ++ turns'))
      (hevent : s.primary.timersManager.nextTimerTime it.next ≠ ⟨Timers.maxValue, 0⟩)
      (hfirst : s₁.execute tick = some s₂)
      (hturns : s₂.executeTurns next turns = some (t, next'))
      (hzero : t.primary.timersManager.nextTimerTime next' = ⟨0, 0⟩) : CallAt s it t

theorem executeTurns_nil_iff {next next' : Timeval} :
    s.executeTurns next [] = some (s', next') ↔ s' = s ∧ next' = next := by
  simp [executeTurns, eq_comm]

theorem executeTurns_cons_iff {next next' next'' : Timeval} {tick : Tick}
    {turns : List (Tick × Timeval)} :
    s.executeTurns next ((tick, next') :: turns) = some (s', next'') ↔
      s.primary.timersManager.nextTimerTime next = ⟨0, 0⟩ ∧
        ∃ s₁, s.execute tick = some s₁ ∧ s₁.executeTurns next' turns = some (s', next'') := by
  rw [executeTurns]
  split_ifs with hzero
  · simp [hzero, Option.bind_eq_some_iff]
  · simp [hzero]

/-- The inner loop ends when `NextTimerTime` no longer returns 0. -/
theorem executeExpired_iff {next : Timeval} {turns : List (Tick × Timeval)} :
    s.executeExpired next turns = some s' ↔ ∃ next',
      s.executeTurns next turns = some (s', next') ∧
        s'.primary.timersManager.nextTimerTime next' ≠ ⟨0, 0⟩ := by
  induction turns generalizing s next with
  | nil =>
      simp only [executeExpired_nil_iff, executeTurns_nil_iff]
      constructor
      · rintro ⟨hnonzero, rfl⟩
        exact ⟨next, ⟨rfl, rfl⟩, hnonzero⟩
      · rintro ⟨next', ⟨rfl, rfl⟩, hnonzero⟩
        exact ⟨hnonzero, rfl⟩
  | cons turn turns ih =>
      obtain ⟨tick, next₁⟩ := turn
      rw [executeExpired_cons_iff]
      simp only [executeTurns_cons_iff, ih]
      constructor
      · rintro ⟨hzero, s₁, hone, next', hmore, hnonzero⟩
        exact ⟨next', ⟨hzero, s₁, hone, hmore⟩, hnonzero⟩
      · rintro ⟨next', ⟨hzero, s₁, hone, hmore⟩, hnonzero⟩
        exact ⟨hzero, s₁, hone, next', hmore, hnonzero⟩

/-! ### There is a timer at every call -/

/-- What `NextTimerTime` returns says whether there is a timer. -/
theorem pending_of_nextTimerTime {T : Timers OctaneTimer} {now : Timeval}
    (h : T.nextTimerTime now ≠ ⟨Timers.maxValue, 0⟩) : T.eq ≠ [] := by
  intro hnil
  apply h
  unfold Timers.nextTimerTime
  rw [hnil]

theorem pending_of_zero {T : Timers OctaneTimer} {now : Timeval}
    (h : T.nextTimerTime now = ⟨0, 0⟩) : T.eq ≠ [] := by
  have hevent : T.nextTimerTime now ≠ ⟨Timers.maxValue, 0⟩ := by
    rw [h]
    decide
  exact pending_of_nextTimerTime hevent

/-- No call is made with an empty queue. -/
theorem CallAt.pending (h : s.CallAt it t) : t.primary.timersManager.eq ≠ [] := by
  cases h with
  | top _ hzero => exact pending_of_zero hzero
  | first _ htop _ hevent =>
      -- the timer at the top has been set again
      rcases (pending_of_executeTop htop).2 with ⟨-, hpending⟩ | ⟨hnil, -⟩
      · exact hpending
      · exact absurd hnil (pending_of_nextTimerTime hevent)
  | inner _ _ _ _ _ _ hzero => exact pending_of_zero hzero

/-- A call is undefined only with an empty queue. Otherwise the timer at the head is run
and set again. -/
theorem execute_spec {e : Event OctaneTimer} {rest : List (Event OctaneTimer)}
    (hq : s.primary.timersManager.eq = e :: rest) (tick : Tick) :
    ∃ s', s.execute tick = some s' ∧
      s'.primary.timersManager.eq =
        eqAdd { e with tv := tick.reading.addmsecs e.timeout } rest ∧
      s'.calls = s.calls ++ [⟨e, tick.call, s.lastSent e.hdl⟩] ∧
      s'.primary.sent = s.primary.sent ++ [e.cb.expire] := by
  unfold execute Primary.executeNextTimer Timers.executeNextTimer
  rw [hq]
  exact ⟨_, rfl, rfl, rfl, rfl⟩

theorem exists_of_execute {tick : Tick} (h : s.execute tick = some s') :
    ∃ e rest, s.primary.timersManager.eq = e :: rest ∧
      s'.calls = s.calls ++ [⟨e, tick.call, s.lastSent e.hdl⟩] := by
  obtain ⟨e, rest, primary, hq, -, rfl⟩ := execute_cases h
  exact ⟨e, rest, hq, rfl⟩

/-- The calls of the turns of the inner loop. -/
theorem exists_of_executeTurns {next next' : Timeval} {turns : List (Tick × Timeval)}
    (h : s.executeTurns next turns = some (t, next')) :
    ∃ calls, t.calls = s.calls ++ calls ∧ ∀ call ∈ calls, ∃ pre post u next₁,
      turns = pre ++ post ∧ s.executeTurns next pre = some (u, next₁) ∧
        u.primary.timersManager.nextTimerTime next₁ = ⟨0, 0⟩ ∧
        call.event ∈ u.primary.timersManager.eq.head? := by
  induction turns generalizing s next with
  | nil =>
      obtain ⟨rfl, rfl⟩ := Prod.mk.inj (Option.some.inj h)
      exact ⟨[], by simp, by simp⟩
  | cons turn turns ih =>
      obtain ⟨tick, next₂⟩ := turn
      obtain ⟨hzero, s₁, hone, hmore⟩ := executeTurns_cons_iff.1 h
      obtain ⟨e, rest, hq, hcalls⟩ := exists_of_execute hone
      obtain ⟨calls, hcalls', hall⟩ := ih hmore
      refine ⟨⟨e, tick.call, s.lastSent e.hdl⟩ :: calls, ?_, ?_⟩
      · rw [hcalls', hcalls, List.append_assoc, List.singleton_append]
      · intro call hcall
        rcases List.mem_cons.1 hcall with rfl | hcall
        · exact ⟨[], _, s, next, rfl, rfl, hzero, by simp [hq]⟩
        · obtain ⟨pre, post, u, next₁, hturns, hpre, hu⟩ := hall call hcall
          refine ⟨(tick, next₂) :: pre, post, u, next₁, by rw [hturns, List.cons_append], ?_, hu⟩
          exact executeTurns_cons_iff.2 ⟨hzero, s₁, hone, hpre⟩

theorem calls_react {remaining : Timeval} {tunnel : Option TunnelInput}
    {socket : Option SocketInput} (h : s.react c remaining tunnel socket = some s') :
    s'.calls = s.calls := by
  obtain ⟨s₁, s₂, hread, hreceive, rfl⟩ := react_cases h
  have h₁ : s₁.calls = s.calls := by
    rcases hread with ⟨-, rfl⟩ | ⟨_, _, -, -, rfl⟩
    · rfl
    · rfl
  rcases hreceive with ⟨-, rfl⟩ | ⟨_, -, rfl⟩
  · exact h₁
  · exact h₁

/-- The calls that are recorded in an iteration are those of `CallAt`. -/
theorem callAt_of_iterate (h : iterate c s it = some s') :
    ∃ calls, s'.calls = s.calls ++ calls ∧ ∀ call ∈ calls, ∃ t, s.CallAt it t ∧
      call.event ∈ t.primary.timersManager.eq.head? := by
  obtain ⟨hrunning, s₁, htop, hselect⟩ := iterate_cases h
  have h₁ : ∃ calls, s₁.calls = s.calls ++ calls ∧ ∀ call ∈ calls, ∃ t, s.CallAt it t ∧
      call.event ∈ t.primary.timersManager.eq.head? := by
    rcases executeTop_cases htop with ⟨hzero, hone⟩ | ⟨-, rfl⟩
    · obtain ⟨e, rest, hq, hcalls⟩ := exists_of_execute hone
      refine ⟨_, hcalls, fun call hcall => ⟨s, .top hrunning hzero, ?_⟩⟩
      obtain rfl := List.mem_singleton.1 hcall
      simp [hq]
    · exact ⟨[], by simp, by simp⟩
  obtain ⟨calls₁, hcalls₁, hall₁⟩ := h₁
  cases hsel : it.selected with
  | ready remaining tunnel socket =>
      rw [hsel] at hselect
      exact ⟨calls₁, (calls_react hselect).trans hcalls₁, hall₁⟩
  | expired back first next turns =>
      rw [hsel] at hselect
      rcases expired_cases hselect with ⟨hevent, s₂, s₃, hone, hturn, rfl⟩ | ⟨-, rfl⟩
      · have hmax := of_decide_eq_true hevent
        obtain ⟨e, rest, hq, hcalls₂⟩ := exists_of_execute hone
        obtain ⟨next', hturns, -⟩ := executeExpired_iff.1 hturn
        obtain ⟨calls₃, hcalls₃, hall₃⟩ := exists_of_executeTurns hturns
        refine ⟨calls₁ ++ ⟨e, first.call, s₁.lastSent e.hdl⟩ :: calls₃, ?_, ?_⟩
        · change s₃.calls = _
          rw [hcalls₃, hcalls₂, hcalls₁]
          simp
        · intro call hcall
          rcases List.mem_append.1 hcall with hcall | hcall
          · exact hall₁ call hcall
          · rcases List.mem_cons.1 hcall with rfl | hcall
            · exact ⟨s₁, .first hrunning htop hsel hmax, by simp [hq]⟩
            · obtain ⟨pre, post, u, next₁, rfl, hpre, hzero, hhead⟩ := hall₃ call hcall
              exact ⟨u, .inner hrunning htop hsel hmax hone hpre hzero, hhead⟩
      · exact ⟨calls₁, hcalls₁, hall₁⟩

/-- In every run of the loop, `ExecuteNextTimer` is called only when there is a timer
in the queue. -/
theorem throughout_calls_pending (c : Config) (router : CRouter) (auth authRev : OctaneControl)
    (its : List Iteration) :
    Throughout (iterate c) (fun s it => ∀ t, s.CallAt it t → t.primary.timersManager.eq ≠ [])
      (start (.start router auth authRev)) its :=
  Throughout.of_forall fun _ _ _ => CallAt.pending

/-! ### The inner loop ends -/

/-- The first `k` turns of the inner loop with the clock readings `clock`. After the
reading `clock 0` of `NextTimerTime` each turn reads the clock three times: when the
message is sent, when the timer is set again and in `NextTimerTime`. -/
def turnsOf (clock : ℕ → Timeval) (k : ℕ) : List (Tick × Timeval) :=
  (List.range k).map fun i => (⟨clock (3 * i + 1), clock (3 * i + 2)⟩, clock (3 * (i + 1)))

theorem turnsOf_succ (clock : ℕ → Timeval) (k : ℕ) :
    turnsOf clock (k + 1) = turnsOf clock k ++
      [(⟨clock (3 * k + 1), clock (3 * k + 2)⟩, clock (3 * (k + 1)))] := by
  simp [turnsOf, List.range_succ]

theorem executeTurns_append_singleton {next next' next'' : Timeval}
    {turns : List (Tick × Timeval)} {tick : Tick} :
    s.executeTurns next (turns ++ [(tick, next')]) = some (s', next'') ↔ next'' = next' ∧
      ∃ t now, s.executeTurns next turns = some (t, now) ∧
        t.primary.timersManager.nextTimerTime now = ⟨0, 0⟩ ∧ t.execute tick = some s' := by
  induction turns generalizing s next with
  | nil =>
      simp only [List.nil_append, executeTurns_cons_iff, executeTurns_nil_iff]
      constructor
      · rintro ⟨hzero, s₁, hone, rfl, rfl⟩
        exact ⟨rfl, s, next, ⟨rfl, rfl⟩, hzero, hone⟩
      · rintro ⟨rfl, t, now, ⟨rfl, rfl⟩, hzero, hone⟩
        exact ⟨hzero, s', hone, rfl, rfl⟩
  | cons turn turns ih =>
      obtain ⟨tick₁, next₁⟩ := turn
      simp only [List.cons_append, executeTurns_cons_iff, ih]
      constructor
      · rintro ⟨hzero, s₁, hone, rfl, t, now, hmore, hlast⟩
        exact ⟨rfl, t, now, ⟨hzero, s₁, hone, hmore⟩, hlast⟩
      · rintro ⟨rfl, t, now, ⟨hzero, s₁, hone, hmore⟩, hlast⟩
        exact ⟨hzero, s₁, hone, rfl, t, now, hmore, hlast⟩

/-- From `s` to `t` the calls `calls` have been made, each for another event of the
queue of `s`, and the events of these calls have been set again to `limit` or later. -/
structure SetAgain (s t : Loop) (limit : ℤ) (calls : List Call) : Prop where
  recorded : t.calls = s.calls ++ calls
  sent : t.primary.sent = s.primary.sent ++ calls.map fun call => call.event.cb.expire
  timeout : ∀ e ∈ t.primary.timersManager.eq, e.timeout = 2000
  queue : ∃ old new, s.primary.timersManager.eq.Perm (calls.map Call.event ++ old) ∧
    t.primary.timersManager.eq.Perm (old ++ new) ∧
      ∀ e ∈ new, e.tv.Carried ∧ limit ≤ e.tv.usecs

theorem setAgain_nil (limit : ℤ) (h : ∀ e ∈ s.primary.timersManager.eq, e.timeout = 2000) :
    s.SetAgain s limit [] where
  recorded := (List.append_nil _).symm
  sent := (List.append_nil _).symm
  timeout := h
  queue := ⟨s.primary.timersManager.eq, [], by simp, by simp, by simp⟩

namespace SetAgain

variable {limit : ℤ} {calls : List Call}

/-- The events that have been run are events of the queue. -/
theorem subperm (h : s.SetAgain t limit calls) :
    (calls.map Call.event).Subperm s.primary.timersManager.eq := by
  obtain ⟨old, new, hperm, -, -⟩ := h.queue
  exact (List.sublist_append_left _ old).subperm.trans hperm.symm.subperm

theorem length_le (h : s.SetAgain t limit calls) :
    calls.length ≤ s.primary.timersManager.eq.length := by
  have hle := h.subperm.length_le
  rwa [List.length_map] at hle

/-- One turn: an event that is due before `limit` has not been run before. -/
theorem execute (h : s.SetAgain t limit calls) {now : Timeval} (tick : Tick)
    (hzero : t.primary.timersManager.nextTimerTime now = ⟨0, 0⟩) (hnow : now.Normal)
    (hlt : now.usecs < limit) (hreading : tick.reading.Normal)
    (hle : limit ≤ tick.reading.usecs + 2000 * 1000) :
    ∃ call t', t.execute tick = some t' ∧ s.SetAgain t' limit (calls ++ [call]) := by
  obtain ⟨e, rest, hq⟩ := List.exists_cons_of_ne_nil (pending_of_zero hzero)
  obtain ⟨t', hone, hqueue, hcalls, hsent⟩ := execute_spec hq tick
  obtain ⟨old, new, hperm, hsplit, hnew⟩ := h.queue
  have htimeout : e.timeout = 2000 := h.timeout e (by simp [hq])
  have hold : e ∈ old := by
    refine (List.mem_append.1 (hsplit.subset (by simp [hq]))).resolve_right fun he => ?_
    obtain ⟨hcarried, hlater⟩ := hnew e he
    unfold Timers.nextTimerTime at hzero
    rw [hq] at hzero
    exact absurd ((Timeval.sub_eq_zero_iff hcarried hnow).1 hzero) (by omega)
  obtain ⟨l₁, l₂, rfl⟩ := List.append_of_mem hold
  obtain ⟨hcarried, husecs⟩ :=
    Timeval.addmsecs_spec hreading.1 (by omega : (0 : ℤ) ≤ e.timeout)
  have hset : limit ≤ (tick.reading.addmsecs e.timeout).usecs := by
    rw [husecs, htimeout]
    exact hle
  refine ⟨⟨e, tick.call, t.lastSent e.hdl⟩, t', hone, ?_, ?_, ?_,
    l₁ ++ l₂, { e with tv := tick.reading.addmsecs e.timeout } :: new, ?_, ?_, ?_⟩
  · rw [hcalls, h.recorded, List.append_assoc]
  · rw [hsent, h.sent, List.map_append, List.append_assoc, List.map_singleton]
  · intro e' he'
    rw [hqueue] at he'
    rcases List.mem_cons.1 ((eqAdd_perm _ _).subset he') with rfl | he'
    · exact htimeout
    · exact h.timeout e' (by simp [hq, he'])
  · rw [List.map_append, List.map_singleton, List.append_assoc, List.singleton_append]
    exact hperm.trans (List.perm_middle.append_left _)
  · have hrest : rest.Perm (l₁ ++ l₂ ++ new) := by
      rw [hq, List.append_assoc, List.cons_append] at hsplit
      rw [List.append_assoc]
      exact (hsplit.trans List.perm_middle).cons_inv
    rw [hqueue]
    exact (eqAdd_perm _ _).trans ((hrest.cons _).trans List.perm_middle.symm)
  · intro e' he'
    rcases List.mem_cons.1 he' with rfl | he'
    · exact ⟨hcarried, hset⟩
    · exact hnew e' he'

end SetAgain

/-- The first `k` turns make `k` calls. -/
theorem setAgain_of_executeTurns {clock : ℕ → Timeval} {limit : ℤ}
    (htimeout : ∀ e ∈ s.primary.timersManager.eq, e.timeout = 2000)
    (hnormal : ∀ i, (clock i).Normal) (hlimit : ∀ i, limit ≤ (clock i).usecs + 2000 * 1000)
    (hadvance : ∀ k, (s.executeTurns (clock 0) (turnsOf clock k)).isSome = true →
      (clock (3 * k)).usecs < limit) {k : ℕ} {next : Timeval}
    (h : s.executeTurns (clock 0) (turnsOf clock k) = some (t, next)) :
    next = clock (3 * k) ∧ ∃ calls, calls.length = k ∧ s.SetAgain t limit calls := by
  induction k generalizing t next with
  | zero =>
      obtain ⟨rfl, rfl⟩ := Prod.mk.inj (Option.some.inj h)
      exact ⟨rfl, [], rfl, setAgain_nil limit htimeout⟩
  | succ k ih =>
      rw [turnsOf_succ, executeTurns_append_singleton] at h
      obtain ⟨rfl, t₁, now, hturns, hzero, hone⟩ := h
      obtain ⟨rfl, calls, hlength, hagain⟩ := ih hturns
      have hlt := hadvance k (by rw [hturns, Option.isSome_some])
      obtain ⟨call, t', hone', hagain'⟩ := hagain.execute ⟨clock (3 * k + 1), clock (3 * k + 2)⟩
        hzero (hnormal _) hlt (hnormal _) (hlimit _)
      obtain rfl := Option.some.inj (hone'.symm.trans hone)
      refine ⟨rfl, calls ++ [call], ?_, hagain'⟩
      rw [List.length_append, hlength, List.length_singleton]

/-- The inner loop ends when its clock readings stay within 2000 ms: it runs at most as
many times as there are timers in the queue, and sends the message of each at most
once. -/
theorem executeExpired_ends (s : Loop) (clock : ℕ → Timeval)
    (htimeout : ∀ e ∈ s.primary.timersManager.eq, e.timeout = 2000)
    (hnormal : ∀ i, (clock i).Normal) (hmono : ∀ i j, i ≤ j → (clock i).usecs ≤ (clock j).usecs)
    (hadvance : ∀ k, (s.executeTurns (clock 0) (turnsOf clock k)).isSome = true →
      (clock (3 * k)).usecs < (clock 0).usecs + 2000 * 1000) :
    (∃ k s', s.executeExpired (clock 0) (turnsOf clock k) = some s') ∧
      ∀ k t next, s.executeTurns (clock 0) (turnsOf clock k) = some (t, next) →
        k ≤ s.primary.timersManager.eq.length ∧ ∃ calls, calls.length = k ∧
          t.calls = s.calls ++ calls ∧
          t.primary.sent = s.primary.sent ++ calls.map (fun call => call.event.cb.expire) ∧
          (calls.map Call.event).Subperm s.primary.timersManager.eq := by
  have hlimit : ∀ i, (clock 0).usecs + 2000 * 1000 ≤ (clock i).usecs + 2000 * 1000 := fun i =>
    Int.add_le_add_right (hmono 0 i (Nat.zero_le i)) _
  have hturns : ∀ k t next, s.executeTurns (clock 0) (turnsOf clock k) = some (t, next) →
      next = clock (3 * k) ∧ ∃ calls, calls.length = k ∧
        s.SetAgain t ((clock 0).usecs + 2000 * 1000) calls := fun k t next h =>
    setAgain_of_executeTurns htimeout hnormal hlimit hadvance h
  constructor
  · by_contra hnever
    -- then a turn follows on every turn, and there are more of them than timers
    have hall : ∀ k, ∃ t next, s.executeTurns (clock 0) (turnsOf clock k) = some (t, next) := by
      intro k
      induction k with
      | zero => exact ⟨s, clock 0, rfl⟩
      | succ k ih =>
          obtain ⟨t, next, ht⟩ := ih
          have hzero : t.primary.timersManager.nextTimerTime next = ⟨0, 0⟩ := by
            by_contra hnonzero
            exact hnever ⟨k, t, executeExpired_iff.2 ⟨next, ht, hnonzero⟩⟩
          obtain ⟨e, rest, hq⟩ := List.exists_cons_of_ne_nil (pending_of_zero hzero)
          obtain ⟨t', hone, -⟩ := execute_spec hq ⟨clock (3 * k + 1), clock (3 * k + 2)⟩
          refine ⟨t', clock (3 * (k + 1)), ?_⟩
          rw [turnsOf_succ, executeTurns_append_singleton]
          exact ⟨rfl, t, next, ht, hzero, hone⟩
    obtain ⟨t, next, ht⟩ := hall (s.primary.timersManager.eq.length + 1)
    obtain ⟨-, calls, hlength, hagain⟩ := hturns _ t next ht
    have hle := hagain.length_le
    omega
  · intro k t next h
    obtain ⟨-, calls, rfl, hagain⟩ := hturns k t next h
    exact ⟨hagain.length_le, calls, rfl, hagain.recorded, hagain.sent, hagain.subperm⟩

/-- Two timers of which one has expired. -/
def twoTimers : Loop :=
  { start sampleStart with
    primary := { sampleStart with
      timersManager := ⟨3, [⟨⟨1, 0⟩, 1, 2000, ⟨default, 1, .local 0x2300⟩⟩,
        ⟨⟨3, 0⟩, 2, 2000, ⟨default, 2, .local 0x2300⟩⟩]⟩ } }

theorem executeExpired_ends_twoTimers :
    (∃ k s', twoTimers.executeExpired ⟨2, 0⟩ (turnsOf (fun _ => ⟨2, 0⟩) k) = some s') ∧
      ∀ k t next, twoTimers.executeTurns ⟨2, 0⟩ (turnsOf (fun _ => ⟨2, 0⟩) k) = some (t, next) →
        k ≤ 2 ∧ ∃ calls, calls.length = k ∧ t.calls = twoTimers.calls ++ calls ∧
          t.primary.sent =
            twoTimers.primary.sent ++ calls.map (fun call => call.event.cb.expire) ∧
          (calls.map Call.event).Subperm twoTimers.primary.timersManager.eq :=
  executeExpired_ends twoTimers (fun _ => ⟨2, 0⟩) (by simp [twoTimers]) (fun _ => by decide)
    (fun _ _ _ => le_rfl) (fun _ _ => by decide)

end Loop
