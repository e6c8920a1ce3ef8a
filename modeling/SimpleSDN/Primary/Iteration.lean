import SimpleSDN.Primary.Step
import SimpleSDN.Run
import SimpleSDN.Timers.Paced

/-!
# The iterations of a primary router's loop

The loops of stages 4, 5, 6, 7, 9 and 10 wait for input and for timers in the
same way. `iterate` is one iteration: it asks for the time of the next timer, runs
the timer if it has expired, waits in `select`, and then either runs the timers
that have expired or reacts to what has arrived. An iteration comes with its clock
readings and with what `select` returns. The state keeps two histories that the
program does not: when each timer's message was sent last and the calls of
`ExecuteNextTimer`.
-/

/-- A call of `ExecuteNextTimer`: when it is made, and the clock reading from which
the timer is set again. -/
structure Tick where
  call : Timeval
  reading : Timeval

/-- A packet from the tunnel, and when the messages for a new flow are sent. -/
structure TunnelInput where
  st : Stack
  buffer : Packet
  clock : ℕ → Timeval
  sending : ℕ → Timeval

/-- A datagram on the socket. -/
structure SocketInput where
  st : Stack
  buffer : Packet
  iPort : ℤ

/-- What `select` returns. When its time is over, at `back`, the timers run: the
first call, the reading of `NextTimerTime` after it, and a call and a reading for
each turn of the inner loop. -/
inductive Selected
  | ready (remaining : Timeval) (tunnel : Option TunnelInput) (socket : Option SocketInput)
  | expired (back : Timeval) (first : Tick) (next : Timeval) (turns : List (Tick × Timeval))

/-- The inputs of one iteration: the reading of `NextTimerTime`, the call at the
top if there is one, and the start and the result of `select`. -/
structure Iteration where
  next : Timeval
  top : Tick
  wait : Timeval
  selected : Selected

/-- A call of `ExecuteNextTimer`: the event at the head of the queue, the time, and
when the message of the event was sent before. -/
structure Call where
  event : Event OctaneTimer
  time : Timeval
  previous : Option Timeval

/-- The state of the loop between two iterations; `lastSent` is when the message of
the timer with a handle was sent last. -/
structure Loop where
  primary : Primary
  timeout : Timeval
  running : Bool
  lastSent : ℤ → Option Timeval
  calls : List Call

namespace Loop

/-- The state before the first iteration. -/
def start (primary : Primary) : Loop where
  primary := primary
  timeout := ⟨15, 0⟩
  running := true
  lastSent := fun _ => none
  calls := []

/-- `ExecuteNextTimer`. -/
def execute (s : Loop) (tick : Tick) : Option Loop :=
  match s.primary.timersManager.eq with
  | [] => none
  | e :: _ =>
      (s.primary.executeNextTimer tick.reading).map fun primary =>
        { s with
          primary := primary
          lastSent := Function.update s.lastSent e.hdl (some tick.call)
          calls := s.calls ++ [⟨e, tick.call, s.lastSent e.hdl⟩] }

/-- The inner loop, which runs the timers that have expired; `next` is the last
reading of `NextTimerTime`. -/
def executeExpired (s : Loop) (next : Timeval) : List (Tick × Timeval) → Option Loop
  | [] => if s.primary.timersManager.nextTimerTime next = ⟨0, 0⟩ then none else some s
  | (tick, next') :: turns =>
      if s.primary.timersManager.nextTimerTime next = ⟨0, 0⟩ then
        (s.execute tick).bind fun s => s.executeExpired next' turns
      else none

/-- The reaction to a packet from the tunnel. -/
def readTunnel (c : Config) (s : Loop) (input : TunnelInput) : Option Loop :=
  (primStep c s.primary (.tunnel input.st input.buffer input.clock)).map fun primary =>
    let T := s.primary.timersManager
    { s with
      primary := primary
      lastSent := T.ranNew (primary.timersManager.nextHandle - T.nextHandle).toNat
        input.sending s.lastSent }

/-- The reaction to a datagram on the socket. -/
def readSocket (c : Config) (s : Loop) (input : SocketInput) : Option Loop :=
  (primStep c s.primary (.socket input.st input.buffer input.iPort)).map fun primary =>
    { s with primary := primary }

/-- The reactions to what has arrived. The idle time starts anew if `bRefreshTimeout`
is set, and else `select` has left the time that remained. -/
def react (c : Config) (s : Loop) (remaining : Timeval) (tunnel : Option TunnelInput)
    (socket : Option SocketInput) : Option Loop :=
  ((tunnel.elim (some s) (s.readTunnel c)).bind fun s =>
    socket.elim (some s) (s.readSocket c)).map fun s =>
      { s with timeout := if s.primary.bRefreshTimeout then ⟨15, 0⟩ else remaining }

/-- The time that `select` waits: until the next timer, or the idle time. -/
def selectTimeout (s : Loop) (next : Timeval) : Timeval :=
  let timeout := s.primary.timersManager.nextTimerTime next
  if timeout = ⟨Timers.maxValue, 0⟩ then s.timeout else timeout

/-- The timer at the top, if `NextTimerTime` has returned 0. -/
def executeTop (s : Loop) (it : Iteration) : Option Loop :=
  if s.primary.timersManager.nextTimerTime it.next = ⟨0, 0⟩ then s.execute it.top else some s

/-- What follows `select`. Without a timer the loop returns when the idle time is
over. -/
def afterSelect (c : Config) (s : Loop) (bEventTimeout : Bool) : Selected → Option Loop
  | .ready remaining tunnel socket => s.react c remaining tunnel socket
  | .expired _ first next turns =>
      if bEventTimeout then
        (s.execute first).bind fun s => (s.executeExpired next turns).map fun s =>
          { s with timeout := ⟨15, 0⟩ }
      else some { s with running := false }

end Loop

open Loop

/-- One iteration of the loop. -/
def iterate (c : Config) (s : Loop) (it : Iteration) : Option Loop :=
  if s.running then
    (s.executeTop it).bind fun s' => s'.afterSelect c
      (s.primary.timersManager.nextTimerTime it.next ≠ ⟨Timers.maxValue, 0⟩) it.selected
  else none

/-! ### What the parts of an iteration do -/

namespace Loop

variable {c : Config} {s s' : Loop} {next next' : Timeval} {tick : Tick}
  {turns : List (Tick × Timeval)}

/-- `ExecuteNextTimer` runs the timer at the head of the queue. -/
theorem execute_cases (h : s.execute tick = some s') :
    ∃ e rest primary, s.primary.timersManager.eq = e :: rest ∧
      s.primary.executeNextTimer tick.reading = some primary ∧
      s' = { s with
        primary := primary
        lastSent := Function.update s.lastSent e.hdl (some tick.call)
        calls := s.calls ++ [⟨e, tick.call, s.lastSent e.hdl⟩] } := by
  unfold execute at h
  cases hq : s.primary.timersManager.eq with
  | nil => simp [hq] at h
  | cons e rest =>
      rw [hq] at h
      obtain ⟨primary, hprimary, rfl⟩ := Option.map_eq_some_iff.1 h
      exact ⟨e, rest, primary, rfl, hprimary, rfl⟩

theorem executeExpired_nil_iff : s.executeExpired next [] = some s' ↔
    s.primary.timersManager.nextTimerTime next ≠ ⟨0, 0⟩ ∧ s' = s := by
  unfold executeExpired
  split_ifs with hzero
  · simp [hzero]
  · simp [hzero, eq_comm]

theorem executeExpired_cons_iff : s.executeExpired next ((tick, next') :: turns) = some s' ↔
    s.primary.timersManager.nextTimerTime next = ⟨0, 0⟩ ∧
      ∃ s₁, s.execute tick = some s₁ ∧ s₁.executeExpired next' turns = some s' := by
  rw [executeExpired]
  split_ifs with hzero
  · simp [hzero, Option.bind_eq_some_iff]
  · simp [hzero]

theorem executeTop_cases {it : Iteration} (h : s.executeTop it = some s') :
    s.primary.timersManager.nextTimerTime it.next = ⟨0, 0⟩ ∧ s.execute it.top = some s' ∨
      s.primary.timersManager.nextTimerTime it.next ≠ ⟨0, 0⟩ ∧ s' = s := by
  unfold executeTop at h
  split_ifs at h with hzero
  · exact Or.inl ⟨hzero, h⟩
  · exact Or.inr ⟨hzero, (Option.some.inj h).symm⟩

/-- The packet from the tunnel is read before the datagram. -/
theorem react_cases {remaining : Timeval} {tunnel : Option TunnelInput}
    {socket : Option SocketInput} (h : s.react c remaining tunnel socket = some s') :
    ∃ s₁ s₂,
      (tunnel = none ∧ s₁ = s ∨ ∃ input primary, tunnel = some input ∧
        primStep c s.primary (.tunnel input.st input.buffer input.clock) = some primary ∧
        s₁ = { s with
          primary := primary
          lastSent := s.primary.timersManager.ranNew (primary.timersManager.nextHandle -
            s.primary.timersManager.nextHandle).toNat input.sending s.lastSent }) ∧
      (socket = none ∧ s₂ = s₁ ∨ ∃ input, socket = some input ∧
        s₂ = { s₁ with primary := s₁.primary.fromSocket c input.st input.buffer input.iPort }) ∧
      s' = { s₂ with timeout := if s₂.primary.bRefreshTimeout then ⟨15, 0⟩ else remaining } := by
  obtain ⟨s₂, hboth, rfl⟩ := Option.map_eq_some_iff.1 h
  obtain ⟨s₁, htunnel, hsocket⟩ := Option.bind_eq_some_iff.1 hboth
  refine ⟨s₁, s₂, ?_, ?_, rfl⟩
  · cases tunnel with
    | none => exact Or.inl ⟨rfl, (Option.some.inj htunnel).symm⟩
    | some input =>
        obtain ⟨primary, hprimary, rfl⟩ := Option.map_eq_some_iff.1 htunnel
        exact Or.inr ⟨input, primary, rfl, hprimary, rfl⟩
  · cases socket with
    | none => exact Or.inl ⟨rfl, (Option.some.inj hsocket).symm⟩
    | some input => exact Or.inr ⟨input, rfl, (Option.some.inj hsocket).symm⟩

/-- When `select` finds nothing, timers run or the loop returns. -/
theorem expired_cases {bEventTimeout : Bool} {back : Timeval}
    (h : s.afterSelect c bEventTimeout (.expired back tick next turns) = some s') :
    bEventTimeout = true ∧ (∃ s₁ s₂, s.execute tick = some s₁ ∧
      s₁.executeExpired next turns = some s₂ ∧ s' = { s₂ with timeout := ⟨15, 0⟩ }) ∨
    bEventTimeout = false ∧ s' = { s with running := false } := by
  cases bEventTimeout with
  | true =>
      obtain ⟨s₁, hone, hmore⟩ := Option.bind_eq_some_iff.1 h
      obtain ⟨s₂, hturns, rfl⟩ := Option.map_eq_some_iff.1 hmore
      exact Or.inl ⟨rfl, s₁, s₂, hone, hturns, rfl⟩
  | false => exact Or.inr ⟨rfl, (Option.some.inj h).symm⟩

theorem iterate_cases {it : Iteration} (h : iterate c s it = some s') :
    s.running = true ∧ ∃ s₁, s.executeTop it = some s₁ ∧ s₁.afterSelect c
      (s.primary.timersManager.nextTimerTime it.next ≠ ⟨Timers.maxValue, 0⟩) it.selected =
        some s' := by
  unfold iterate at h
  split_ifs at h with hrunning
  obtain ⟨s₁, htop, hselect⟩ := Option.bind_eq_some_iff.1 h
  exact ⟨hrunning, s₁, htop, hselect⟩

end Loop

/-! ### An iteration is a run of reactions -/

namespace Loop

variable {c : Config} {s s' : Loop}

theorem run_of_execute {tick : Tick} (h : s.execute tick = some s') :
    run (primStep c) s.primary [.expire tick.reading] = some s'.primary := by
  obtain ⟨e, rest, primary, -, hprimary, rfl⟩ := execute_cases h
  exact run_cons.2 ⟨primary, hprimary, rfl⟩

theorem run_of_executeExpired {next : Timeval} {turns : List (Tick × Timeval)}
    (h : s.executeExpired next turns = some s') :
    run (primStep c) s.primary (turns.map fun turn => .expire turn.1.reading) =
      some s'.primary := by
  induction turns generalizing s next with
  | nil =>
      obtain ⟨-, rfl⟩ := executeExpired_nil_iff.1 h
      rfl
  | cons turn turns ih =>
      obtain ⟨-, s₁, hone, hmore⟩ := executeExpired_cons_iff.1 h
      exact run_append.2 ⟨s₁.primary, run_of_execute hone, ih hmore⟩

theorem run_of_react {remaining : Timeval} {tunnel : Option TunnelInput}
    {socket : Option SocketInput} (h : s.react c remaining tunnel socket = some s') :
    ∃ es, run (primStep c) s.primary es = some s'.primary := by
  obtain ⟨s₁, s₂, htunnel, hsocket, rfl⟩ := react_cases h
  have h₁ : ∃ es, run (primStep c) s.primary es = some s₁.primary := by
    rcases htunnel with ⟨-, rfl⟩ | ⟨input, primary, -, hprimary, rfl⟩
    · exact ⟨[], rfl⟩
    · exact ⟨[_], run_cons.2 ⟨primary, hprimary, rfl⟩⟩
  have h₂ : ∃ es, run (primStep c) s₁.primary es = some s₂.primary := by
    rcases hsocket with ⟨-, rfl⟩ | ⟨input, -, rfl⟩
    · exact ⟨[], rfl⟩
    · exact ⟨[.socket input.st input.buffer input.iPort], rfl⟩
  obtain ⟨es, hes⟩ := h₁
  obtain ⟨fs, hfs⟩ := h₂
  exact ⟨es ++ fs, run_append.2 ⟨_, hes, hfs⟩⟩

end Loop

/-- What an iteration does to the router is a run of reactions, so that what holds
along the runs of `primStep` holds of the loop. -/
theorem run_of_iterate {c : Config} {s s' : Loop} {it : Iteration}
    (h : iterate c s it = some s') : ∃ es, run (primStep c) s.primary es = some s'.primary := by
  obtain ⟨-, s₁, htop, hselect⟩ := iterate_cases h
  have h₁ : ∃ es, run (primStep c) s.primary es = some s₁.primary := by
    rcases executeTop_cases htop with ⟨-, hone⟩ | ⟨-, rfl⟩
    · exact ⟨_, run_of_execute hone⟩
    · exact ⟨[], rfl⟩
  have h₂ : ∃ es, run (primStep c) s₁.primary es = some s'.primary := by
    cases hsel : it.selected with
    | ready remaining tunnel socket =>
        rw [hsel] at hselect
        exact run_of_react hselect
    | expired back first next turns =>
        rw [hsel] at hselect
        rcases expired_cases hselect with ⟨-, s₂, s₃, hone, hturns, rfl⟩ | ⟨-, rfl⟩
        · have hrun := run_of_executeExpired (c := c) hturns
          exact ⟨_, run_append.2 ⟨_, run_of_execute hone, hrun⟩⟩
        · exact ⟨[], rfl⟩
  obtain ⟨es, hes⟩ := h₁
  obtain ⟨fs, hfs⟩ := h₂
  exact ⟨es ++ fs, run_append.2 ⟨_, hes, hfs⟩⟩
