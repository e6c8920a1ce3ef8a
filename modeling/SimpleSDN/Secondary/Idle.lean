import SimpleSDN.Idle
import SimpleSDN.Secondary.Icmp
import SimpleSDN.Secondary.Rules
import SimpleSDN.Timers.Clock

/-!
# The idle time of a secondary router

`SecondLoop` is the loop of `secondRouter_s6` around its `select`. An iteration reads
up to three packets, first from the UDP socket, then from the raw ICMP socket and last
from the raw TCP socket. Each of them sets `bRefreshTimeout` anew, so that the last one
decides for the iteration: a packet that hits no rule takes back what a control message
before it has set. The run of the loop is a run of `secondStep` on the packets in this
order, and the router returns after a silence of exactly 15 s (`SecondLoop.silence_of_run`).
The loops of stages 4 and 5 keep the same time (`IcmpSecond.idle_of_run`).
-/

/-- What `select` returns in `secondRouter_s6`: its time is over, or there is a packet on
some of the three sockets. -/
inductive SecondIteration
  | timeout
  | ready (remaining : Timeval) (udp : Option (Uninit × List UInt8 × SockAddr))
      (icmp : Option (Uninit × Buffer × List UInt8 × ℤ))
      (tcp : Option (Uninit × List UInt8 × ℤ))

/-- The packets of an iteration in the order in which they are read. -/
def SecondIteration.events : SecondIteration → List SecondEvent
  | .timeout => []
  | .ready _ udp icmp tcp =>
      (udp.map fun (u, datagram, rou1Addr) => .udp u datagram rou1Addr).toList ++
        (icmp.map fun (u, memory, packet, iPort) => .icmp u memory packet iPort).toList ++
        (tcp.map fun (u, packet, iPort) => .tcp u packet iPort).toList

/-- When `select` returns a positive number, some socket is ready. -/
def SecondIteration.Ready (it : SecondIteration) : Prop := it = .timeout ∨ it.events ≠ []

/-- The loop of `secondRouter_s6` between two iterations. -/
structure SecondLoop where
  second : Second
  timeout : Timeval
  bRefreshTimeout : Bool
  running : Bool

namespace Second

/-- The text of the rule that a packet hits. -/
def sCheck (s : Second) (u : Uninit) (buffer : Buffer) : String :=
  (s.router.rouFlowTable.flowCheckOut (FlowEntry.ofBuffer u.st buffer.packet) u.filterEntry).1

/-- What a packet leaves in `bRefreshTimeout`. -/
def bRefreshTimeout (s : Second) : SecondEvent → Bool
  | .udp u datagram _ =>
      let buffer := udpBuffer datagram
      if buffer.ipP = octaneProtocolNum then true else s.sCheck u buffer ≠ ""
  | .icmp u memory packet _ =>
      s.sCheck u ((icmpBuffer memory packet).icmpReplyEditFromRawSock s.oriSrcAddr) ≠ ""
  | .tcp u packet _ =>
      ((tcpBuffer packet).tcpReplyEdit s.oriSrcAddr).any fun buffer3 => s.sCheck u buffer3 ≠ ""

/-- The packet in an array hits a rule. -/
def HitsRule (s : Second) (u : Uninit) (buffer : Buffer) : Prop :=
  s.router.rouFlowTable.contains (.ofBuffer u.st buffer.packet) = true

/-- A control message, or a packet that hits a rule; a packet from a raw socket does so
after its destination has been replaced. -/
def Handles (s : Second) : SecondEvent → Prop
  | .udp u datagram _ =>
      (udpBuffer datagram).ipP = octaneProtocolNum ∨ s.HitsRule u (udpBuffer datagram)
  | .icmp u memory packet _ =>
      s.HitsRule u ((icmpBuffer memory packet).icmpReplyEditFromRawSock s.oriSrcAddr)
  | .tcp u packet _ =>
      ∃ buffer3 ∈ (tcpBuffer packet).tcpReplyEdit s.oriSrcAddr, s.HitsRule u buffer3

instance decidableHitsRule (s : Second) (u : Uninit) (buffer : Buffer) :
    Decidable (s.HitsRule u buffer) :=
  inferInstanceAs (Decidable (_ = true))

instance decidableHandles (s : Second) : (e : SecondEvent) → Decidable (s.Handles e)
  | .udp _ _ _ => inferInstanceAs (Decidable (_ ∨ _))
  | .icmp _ _ _ _ => inferInstanceAs (Decidable (Second.HitsRule _ _ _))
  | .tcp _ _ _ => inferInstanceAs (Decidable (∃ _ ∈ _, Second.HitsRule _ _ _))

theorem sCheck_ne_empty_iff (s : Second) (u : Uninit) (buffer : Buffer) :
    s.sCheck u buffer ≠ "" ↔ s.HitsRule u buffer :=
  FlowTable.flowCheckOut_ne_empty_iff _ _ _

/-- The flag is set exactly for the packets that are handled. -/
theorem bRefreshTimeout_iff (s : Second) (e : SecondEvent) :
    s.bRefreshTimeout e = true ↔ s.Handles e := by
  cases e with
  | udp u datagram rou1Addr =>
      by_cases hp : (udpBuffer datagram).ipP = octaneProtocolNum
      · simp [bRefreshTimeout, Handles, hp]
      · simp [bRefreshTimeout, Handles, hp, ← sCheck_ne_empty_iff]
  | icmp u memory packet iPort =>
      simp [bRefreshTimeout, Handles, ← sCheck_ne_empty_iff]
  | tcp u packet iPort =>
      simp [bRefreshTimeout, Handles, ← sCheck_ne_empty_iff, Option.any_eq_true]

end Second

namespace SecondLoop

/-- The loop before the first iteration. -/
def start (Router : CRouter) (oriSrcAddr addr : UInt32) : SecondLoop where
  second := Second.start Router oriSrcAddr addr
  timeout := ⟨15, 0⟩
  bRefreshTimeout := true
  running := true

/-- A packet is read from a socket that is ready. -/
def read (s : SecondLoop) (e : SecondEvent) : Option SecondLoop :=
  (secondStep s.second e).map fun second =>
    { s with second := second, bRefreshTimeout := s.second.bRefreshTimeout e }

/-- The time for the next `select`. -/
def refresh (s : SecondLoop) (remaining : Timeval) : SecondLoop :=
  { s with timeout := if s.bRefreshTimeout then ⟨15, 0⟩ else remaining }

end SecondLoop

/-- One iteration of the loop of `secondRouter_s6`. -/
def secondIterate (s : SecondLoop) (it : SecondIteration) : Option SecondLoop :=
  if s.running then
    match it with
    | .timeout => some { s with running := false }
    | .ready remaining _ _ _ => (run SecondLoop.read s it.events).map (·.refresh remaining)
  else none

/-- The last packet of the iteration is handled by the router as it is then. -/
def SecondIteration.Handled (s : SecondLoop) (it : SecondIteration) : Prop :=
  ∃ e ∈ it.events.getLast?, ∃ s₁ ∈ run secondStep s.second it.events.dropLast, s₁.Handles e

instance SecondIteration.decidableHandled (s : SecondLoop) (it : SecondIteration) :
    Decidable (it.Handled s) :=
  inferInstanceAs (Decidable (∃ e ∈ it.events.getLast?, ∃ s₁ ∈ _, Second.Handles s₁ e))

/-- What `select` leaves of its time. -/
def SecondIteration.remaining : SecondIteration → Option ℤ
  | .timeout => none
  | .ready remaining _ _ _ => some remaining.usecs

namespace SecondLoop

variable {s s' t : SecondLoop}

/-- The loop as one with an idle time, which the iterations whose last packet is handled
refresh. -/
def idleLoop : IdleLoop SecondLoop SecondIteration where
  step := secondIterate
  running := running
  idle := 15 * 1000000
  left s := s.timeout.usecs
  remaining := SecondIteration.remaining
  Refreshed s it := it.Handled s
  decRefreshed _ _ := inferInstance

/-- A packet goes to the router, and leaves the timeout for the end of the iteration. -/
theorem of_read {e : SecondEvent} (h : s.read e = some s') :
    secondStep s.second e = some s'.second ∧ s'.bRefreshTimeout = s.second.bRefreshTimeout e ∧
      s'.timeout = s.timeout ∧ s'.running = s.running := by
  obtain ⟨second, hstep, rfl⟩ := Option.map_eq_some_iff.1 h
  exact ⟨hstep, rfl, rfl, rfl⟩

theorem of_run_read {es : List SecondEvent} (h : run read s es = some s') :
    run secondStep s.second es = some s'.second ∧ s'.timeout = s.timeout ∧
      s'.running = s.running := by
  induction es generalizing s with
  | nil =>
      obtain rfl : s = s' := by simpa using h
      exact ⟨rfl, rfl, rfl⟩
  | cons e es ih =>
      obtain ⟨s₁, hone, hrest⟩ := run_cons.1 h
      obtain ⟨hstep, -, htimeout, hrunning⟩ := of_read hone
      obtain ⟨hrun, htimeout', hrunning'⟩ := ih hrest
      exact ⟨run_cons.2 ⟨_, hstep, hrun⟩, htimeout'.trans htimeout, hrunning'.trans hrunning⟩

/-- The last packet decides on the flag. -/
theorem bRefreshTimeout_iff {es : List SecondEvent} (h : run read s es = some s')
    (hne : es ≠ []) : s'.bRefreshTimeout = true ↔
      ∃ e ∈ es.getLast?, ∃ s₁ ∈ run secondStep s.second es.dropLast, s₁.Handles e := by
  obtain ⟨pre, e, rfl⟩ := (List.eq_nil_or_concat' es).resolve_left hne
  obtain ⟨s₁, hpre, hlast⟩ := run_append.1 h
  obtain ⟨s₂, hone, hend⟩ := run_cons.1 hlast
  obtain rfl : s₂ = s' := by simpa using hend
  obtain ⟨-, hflag, -⟩ := of_read hone
  obtain ⟨hsecond, -⟩ := of_run_read hpre
  rw [hflag, Second.bRefreshTimeout_iff, List.getLast?_concat, List.dropLast_concat, hsecond]
  simp

/-- An iteration, by what `select` returns. -/
theorem secondIterate_cases {it : SecondIteration} (h : secondIterate s it = some s') :
    s.running = true ∧
      ((it = .timeout ∧ s' = { s with running := false }) ∨
        ∃ remaining udp icmp tcp s₁, it = .ready remaining udp icmp tcp ∧
          run read s it.events = some s₁ ∧ s' = s₁.refresh remaining) := by
  unfold secondIterate at h
  split_ifs at h with hrunning
  refine ⟨hrunning, ?_⟩
  cases it with
  | timeout => exact Or.inl ⟨rfl, (Option.some.inj h).symm⟩
  | ready remaining udp icmp tcp =>
      obtain ⟨s₁, hread, rfl⟩ := Option.map_eq_some_iff.1 h
      exact Or.inr ⟨remaining, udp, icmp, tcp, s₁, rfl, hread, rfl⟩

/-- The router makes the steps for the packets of the iteration. -/
theorem second_of_iterate {it : SecondIteration} (h : secondIterate s it = some s') :
    run secondStep s.second it.events = some s'.second := by
  obtain ⟨-, ⟨rfl, rfl⟩ | ⟨remaining, udp, icmp, tcp, s₁, rfl, hread, rfl⟩⟩ :=
    secondIterate_cases h
  · rfl
  · exact (of_run_read hread).1

/-- Those of all iterations, in one run. -/
theorem second_of_run {its : List SecondIteration} (h : run secondIterate s its = some t) :
    run secondStep s.second (its.flatMap SecondIteration.events) = some t.second := by
  induction its generalizing s with
  | nil =>
      obtain rfl : s = t := by simpa using h
      rfl
  | cons it its ih =>
      obtain ⟨s₁, hone, hrest⟩ := run_cons.1 h
      rw [List.flatMap_cons]
      exact run_append.2 ⟨_, second_of_iterate hone, ih hrest⟩

/-- What an iteration does with the time. -/
theorem timed_idleLoop : idleLoop.Timed fun _ it => it.Ready where
  running_of_step h := (secondIterate_cases h).1
  not_refreshed := by
    rintro s it hover ⟨e, he, -⟩
    cases it with
    | timeout => cases he
    | ready remaining udp icmp tcp => cases hover
  left_of_step := by
    intro s s' it h hit hrunning
    obtain ⟨-, ⟨rfl, rfl⟩ | ⟨remaining, udp, icmp, tcp, s₁, rfl, hread, rfl⟩⟩ :=
      secondIterate_cases h
    · exact absurd hrunning Bool.false_ne_true
    · have hflag := bRefreshTimeout_iff hread (hit.resolve_left SecondIteration.noConfusion)
      exact ⟨remaining.usecs, rfl, (apply_ite Timeval.usecs _ _ _).trans (if_congr hflag rfl rfl)⟩
  of_ended := by
    intro s s' it h hit hended
    obtain ⟨hrunning, ⟨rfl, rfl⟩ | ⟨remaining, udp, icmp, tcp, s₁, rfl, hread, rfl⟩⟩ :=
      secondIterate_cases h
    · rfl
    · have hrunning' := (of_run_read hread).2.2.trans hrunning
      exact absurd (hrunning'.symm.trans hended) (by decide)

/-- In every run of the loop, whatever arrives in its iterations: the router makes the steps
for the packets in the order in which they are read, as long as it goes on the time until
its next timeout and the time it has waited since the last iteration whose last packet was
handled are 15 s together, and it returns after 15 s of this waiting. -/
theorem silence_of_run (Router : CRouter) (oriSrcAddr addr : UInt32) (its : List SecondIteration)
    (t : SecondLoop) (hready : ∀ it ∈ its, it.Ready)
    (hrun : run secondIterate (start Router oriSrcAddr addr) its = some t) :
    run secondStep (Second.start Router oriSrcAddr addr)
        (its.flatMap SecondIteration.events) = some t.second ∧
      idleLoop.silence 0 (start Router oriSrcAddr addr) its +
        (if t.running then t.timeout.usecs else 0) = 15 * 1000000 :=
  ⟨second_of_run hrun,
    timed_idleLoop.silence_add_left rfl (Throughout.of_mem hready) rfl hrun⟩

/-- A control message after 1 s, the message once more after 5 s, with an echo reply that
hits no rule behind it, and then nothing for 10 s. -/
def lostRefresh (u : Uninit) : List SecondIteration :=
  [.ready ⟨14, 0⟩ (some (u, ruleDatagram 3 Second.sampleFlow, .local 0)) none none,
    .ready ⟨10, 0⟩ (some (u, ruleDatagram 3 Second.sampleFlow, .local 0))
      (some (u, .zero, [0x45, 0, 0, 28, 0, 0, 0, 0, 64, 1, 0, 0, 10, 5, 51, 4, 10, 0, 2, 15], 0))
      none,
    .timeout]

/-- The router returns 10 s after the second control message. -/
theorem silence_of_run_lostRefresh : ∃ u t,
    run secondIterate (start (.init 0 (.none _ _) (.none _ _) (.none _ _)) 0 0) (lostRefresh u) =
        some t ∧
      t.running = false ∧
      idleLoop.silence 0 (start (.init 0 (.none _ _) (.none _ _) (.none _ _)) 0 0)
        (lostRefresh u) = 15 * 1000000 := by
  let u : Uninit := ⟨⟨0, 0, 0, 0⟩, FlowTable.defaultEntry, 0, ⟨0, 0⟩, SockAddr.local 0, 0⟩
  have hready : ∀ it ∈ lostRefresh u, it.Ready := by
    intro it hit
    simp only [lostRefresh, List.mem_cons, List.not_mem_nil, or_false] at hit
    rcases hit with rfl | rfl | rfl
    · exact Or.inr (List.cons_ne_nil _ _)
    · exact Or.inr (List.cons_ne_nil _ _)
    · exact Or.inl rfl
  have hdef : (run secondIterate (start (.init 0 (.none _ _) (.none _ _) (.none _ _)) 0 0)
      (lostRefresh u)).map running = some false := by decide +kernel
  obtain ⟨t, ht, hstopped⟩ := Option.map_eq_some_iff.1 hdef
  obtain ⟨-, hsilence⟩ := silence_of_run _ 0 0 _ t hready ht
  rw [hstopped, if_neg Bool.false_ne_true, add_zero] at hsilence
  exact ⟨u, t, ht, hstopped, hsilence⟩

end SecondLoop

/-! ### Stages 4 and 5 -/

/-- An ICMP packet or a control message. -/
def UdpInput.Handled (input : UdpInput) : Prop :=
  input.buffer.ipP = 1 ∨ input.buffer.ipP = octaneProtocolNum

/-- An echo reply. -/
def RawInput.Handled (input : RawInput) : Prop :=
  getIcmpType (Second.icmpBuffer input.memory input.packet).packet = 0

/-- The last packet of the iteration is handled. -/
def SecondSelected.Handled : SecondSelected → Prop
  | .timeout => False
  | .ready _ udp none => ∃ input ∈ udp, input.Handled
  | .ready _ _ (some input) => input.Handled

/-- When `select` returns a positive number, some socket is ready. -/
def SecondSelected.Ready : SecondSelected → Prop
  | .timeout => True
  | .ready _ udp raw => udp.isSome ∨ raw.isSome

instance UdpInput.decidableHandled (input : UdpInput) : Decidable input.Handled :=
  inferInstanceAs (Decidable (_ ∨ _))

instance RawInput.decidableHandled (input : RawInput) : Decidable input.Handled :=
  inferInstanceAs (Decidable (getIcmpType _ = 0))

instance SecondSelected.decidableHandled : (e : SecondSelected) → Decidable e.Handled
  | .timeout => .isFalse id
  | .ready _ _ none => inferInstanceAs (Decidable (∃ _ ∈ _, UdpInput.Handled _))
  | .ready _ _ (some input) => inferInstanceAs (Decidable input.Handled)

/-- What `select` leaves of its time. -/
def SecondSelected.remaining : SecondSelected → Option ℤ
  | .timeout => none
  | .ready remaining _ _ => some remaining.usecs

namespace IcmpSecond

variable {stage : IcmpStage} {s s' t : IcmpSecond}

/-- The loop of `secondRouter_s4` or `secondRouter_s5` as one with an idle time. -/
def idleLoop (stage : IcmpStage) : IdleLoop IcmpSecond SecondSelected where
  step := icmpSecondStep stage
  running := running
  idle := 15 * 1000000
  left s := s.timeout.usecs
  remaining := SecondSelected.remaining
  Refreshed _ e := e.Handled
  decRefreshed _ _ := inferInstance

@[simp] theorem bRefreshTimeout_logHit (sCheck : String) :
    (s.logHit stage sCheck).bRefreshTimeout = s.bRefreshTimeout := by
  unfold logHit
  cases stage with
  | s4 => rfl
  | s5 =>
      dsimp only
      split_ifs <;> rfl

theorem bRefreshTimeout_icmp (buffer : Buffer) (srcAddr dstAddr : UInt32) (sCheck : String) :
    (s.icmp stage buffer srcAddr dstAddr sCheck).bRefreshTimeout = s.bRefreshTimeout := by
  unfold icmp
  dsimp only
  split_ifs <;> simp

/-- A datagram leaves the flag set exactly when it is handled. -/
theorem bRefreshTimeout_readUdp {input : UdpInput} (h : s.readUdp stage input = some s') :
    s'.bRefreshTimeout = true ↔ input.Handled := by
  have hother : input.buffer.packet.ipP = input.buffer.ipP := rfl
  unfold readUdp at h
  simp only [icmpUnpack_protocol, hother] at h
  split_ifs at h with hicmp hcontrol
  · obtain rfl := Option.some.inj h
    exact iff_of_true (bRefreshTimeout_icmp _ _ _ _) (Or.inl hicmp)
  · obtain ⟨octMsg, -, rfl⟩ := Option.map_eq_some_iff.1 h
    exact iff_of_true rfl (Or.inr hcontrol)
  · obtain rfl := Option.some.inj h
    exact iff_of_false Bool.false_ne_true fun hhandled => hhandled.elim hicmp hcontrol

/-- So does a packet on the raw socket. -/
theorem bRefreshTimeout_readRaw (s : IcmpSecond) (input : RawInput) :
    (s.readRaw stage input).bRefreshTimeout = true ↔ input.Handled := by
  unfold readRaw
  dsimp only
  split_ifs with htype
  · exact iff_of_true (bRefreshTimeout_logHit _) htype
  · exact iff_of_false (by simp) htype

/-- After an iteration with input the time that is left is that of `select`, or it is the
idle time again. -/
theorem timeout_of_ready {remaining : Timeval} {udp : Option UdpInput} {raw : Option RawInput}
    (h : icmpSecondStep stage s (.ready remaining udp raw) = some s')
    (hready : (SecondSelected.ready remaining udp raw).Ready) (hrunning : s'.running = true) :
    s'.timeout =
      if (SecondSelected.ready remaining udp raw).Handled then ⟨15, 0⟩ else remaining := by
  unfold icmpSecondStep at h
  split_ifs at h
  obtain ⟨s₁, hread, rfl⟩ := Option.map_eq_some_iff.1 h
  by_cases hrunning₁ : s₁.running = true
  swap
  · rw [if_neg hrunning₁] at hrunning
    exact absurd hrunning hrunning₁
  rw [if_pos hrunning₁]
  refine if_congr ?_ rfl rfl
  cases raw with
  | some input => exact bRefreshTimeout_readRaw s₁ input
  | none =>
      obtain ⟨input, rfl⟩ := Option.isSome_iff_exists.1 (hready.resolve_right Bool.false_ne_true)
      exact (bRefreshTimeout_readUdp hread).trans (by simp [SecondSelected.Handled])

theorem running_of_step {e : SecondSelected} (h : icmpSecondStep stage s e = some s') :
    s.running = true := by
  cases e with
  | timeout => exact (Option.ite_none_right_eq_some.1 h).1
  | ready remaining udp raw => exact (Option.ite_none_right_eq_some.1 h).1

/-- What an iteration does with the time. -/
theorem lawful_idleLoop (stage : IcmpStage) : (idleLoop stage).Lawful fun _ e => e.Ready where
  running_of_step := running_of_step
  not_refreshed := by
    intro s e hover hhandled
    cases e with
    | timeout => exact hhandled
    | ready remaining udp raw => cases hover
  left_of_step := by
    intro s s' e h he hrunning
    cases e with
    | timeout =>
        obtain rfl := Option.some.inj (Option.ite_none_right_eq_some.1 h).2
        exact absurd hrunning Bool.false_ne_true
    | ready remaining udp raw =>
        refine ⟨remaining.usecs, rfl, ?_⟩
        exact (congrArg Timeval.usecs (timeout_of_ready h he hrunning)).trans
          (apply_ite Timeval.usecs _ _ _)

/-- In every run of the loop, whatever arrives in its iterations: as long as it goes on the
time until its next timeout and the time it has waited since the last iteration whose last
packet was an ICMP packet, a control message or an echo reply are 15 s together, and a
timeout comes after 15 s of this waiting. -/
theorem idle_of_run (stage : IcmpStage) (Router : CRouter) (rou1Addr : SockAddr)
    (oriSrcAddr : UInt32) (es : List SecondSelected) (t : IcmpSecond)
    (hready : ∀ e ∈ es, e.Ready)
    (hrun : run (icmpSecondStep stage) (start stage Router rou1Addr oriSrcAddr) es = some t) :
    (t.running = true → t.timeout.usecs +
        (idleLoop stage).silence 0 (start stage Router rou1Addr oriSrcAddr) es = 15 * 1000000) ∧
      (es.getLast? = some .timeout →
        (idleLoop stage).silence 0 (start stage Router rou1Addr oriSrcAddr) es =
          15 * 1000000) := by
  have hlawful := lawful_idleLoop stage
  have hstart : (idleLoop stage).left (start stage Router rou1Addr oriSrcAddr) + 0 =
      (idleLoop stage).idle := rfl
  constructor
  · exact hlawful.left_add_silence hstart (Throughout.of_mem hready) hrun
  · intro hlast
    obtain ⟨pre, rfl⟩ := List.getLast?_eq_some_iff.1 hlast
    obtain ⟨u, hpre, hend⟩ := run_append.1 hrun
    obtain ⟨t', hstep, -⟩ := run_cons.1 hend
    have hpre' : ∀ e ∈ pre, e.Ready := fun e he => hready e (List.mem_append_left _ he)
    exact hlawful.silence_of_timeout hstart (Throughout.of_mem hpre') hpre hstep rfl

/-- An echo request for a host in the network, and an ICMP packet that is not a reply on the
raw socket in the same iteration 5 s later. -/
def pingThenNoReply : List SecondSelected :=
  [.ready ⟨14, 0⟩ (some { sampleReply with datagram := [0x45, 0, 0, 28, 0, 0, 0, 0, 64, 1, 0, 0,
      10, 0, 2, 15, 10, 5, 51, 4, 8, 0, 0, 0, 0, 1, 0, 1] }) none,
    .ready ⟨10, 0⟩ (some { sampleReply with datagram := [0x45, 0, 0, 28, 0, 0, 0, 0, 64, 1, 0, 0,
      10, 0, 2, 15, 10, 5, 51, 4, 8, 0, 0, 0, 0, 1, 0, 1] })
      (some ⟨default, .zero, [0x45, 0, 0, 28, 0, 0, 0, 0, 64, 1, 0, 0, 10, 0, 2, 2,
        192, 168, 201, 2, 8, 0, 0, 0, 0, 1, 0, 1], 0⟩),
    .timeout]

theorem idle_of_run_pingThenNoReply :
    (idleLoop .s5).silence 0
      (start .s5 (.init 4000 (.none _ _) (.none _ _) (.none _ _)) (.local 0) 0)
      pingThenNoReply = 15 * 1000000 := by
  have hready : ∀ e ∈ pingThenNoReply, e.Ready := by
    intro e he
    simp only [pingThenNoReply, List.mem_cons, List.not_mem_nil, or_false] at he
    rcases he with rfl | rfl | rfl
    · exact Or.inl rfl
    · exact Or.inl rfl
    · exact trivial
  have hdef : (run (icmpSecondStep .s5)
      (start .s5 (.init 4000 (.none _ _) (.none _ _) (.none _ _)) (.local 0) 0)
      pingThenNoReply).isSome = true := by decide +kernel
  obtain ⟨t, ht⟩ := Option.isSome_iff_exists.1 hdef
  exact (idle_of_run .s5 _ _ _ _ t hready ht).2 rfl

end IcmpSecond
