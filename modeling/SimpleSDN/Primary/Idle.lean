import SimpleSDN.Primary.Destination
import SimpleSDN.Primary.Timely

/-!
# The idle time of a primary router

A loop of the primary router returns when no timer is left and `select` has waited
for the idle time of 15 s. One variable, `timeout`, holds the idle time that is left
and the time until the next timer, and `bRefreshTimeout` says whether the idle time
starts anew. `idleLaw_of_keepsIdle` follows both along a run: with timers in the
queue the loop goes on, and without them each iteration in which nothing is handled
takes from `timeout` what `select` has waited. The flag is one for both descriptors.
A datagram that is not handled clears what a packet from the tunnel in the same
iteration has set, and the loop then returns too early
(`not_idleLaw_unhandled_datagram`).
-/

/-- An ICMP packet, or a TCP packet to port 80 or 443. -/
def TunnelInput.Handled (input : TunnelInput) : Prop :=
  input.buffer.ipP = 1 ∨ WebPacket input.buffer

/-- An ICMP, a TCP or a control packet. -/
def SocketInput.Handled (input : SocketInput) : Prop :=
  input.buffer.ipP = 1 ∨ input.buffer.ipP = 6 ∨ input.buffer.ipP = octaneProtocolNum

/-- A packet of those that keep the loop alive is read in the iteration. -/
def Iteration.Handled (it : Iteration) : Prop :=
  match it.selected with
  | .ready _ tunnel socket =>
      (∃ input ∈ tunnel, input.Handled) ∨ ∃ input ∈ socket, input.Handled
  | .expired _ _ _ _ => False

instance (input : TunnelInput) : Decidable input.Handled := inferInstanceAs (Decidable (_ ∨ _))

instance (input : SocketInput) : Decidable input.Handled :=
  inferInstanceAs (Decidable (_ ∨ _ ∨ _))

namespace Timers

variable {α : Type} {T T' : Timers α}

/-- `AddTimer` makes the queue longer. -/
theorem length_of_addTimers {timeout : ℤ} {clock : ℕ → Timeval} {cbs : List α} {hs : List ℤ}
    (h : addTimers timeout T clock cbs = some (T', hs)) :
    T'.eq.length = cbs.length + T.eq.length := by
  obtain ⟨hhs, -, hperm⟩ := of_addTimers h
  have hlength := hperm.length_eq
  simpa [entries, hhs] using hlength

/-- `ExecuteNextTimer` does not. -/
theorem length_of_executeNextTimer {now : Timeval} {cb : α}
    (h : T.executeNextTimer now = some (T', cb)) : T'.eq.length = T.eq.length := by
  have hlength := (of_executeNextTimer h).2.1.length_eq
  simpa [entries] using hlength

end Timers

namespace Primary

variable {c : Config} {s s' : Primary}

/-! ### The flag -/

@[simp] theorem bRefreshTimeout_send (s : Primary) (x : Sent) :
    (s.send x).bRefreshTimeout = s.bRefreshTimeout := rfl

@[simp] theorem bRefreshTimeout_clearRefresh (s : Primary) :
    s.clearRefresh.bRefreshTimeout = false := rfl

@[simp] theorem bRefreshTimeout_logHit (s : Primary) (sCheck : String) :
    (s.logHit sCheck).bRefreshTimeout = s.bRefreshTimeout := by
  unfold logHit
  split_ifs <;> rfl

@[simp] theorem bRefreshTimeout_logInstalled (c : Config) (s : Primary) (entry : FlowEntry) :
    (s.logInstalled c entry).bRefreshTimeout = s.bRefreshTimeout := by
  unfold logInstalled
  split <;> simp

@[simp] theorem bRefreshTimeout_rememberAuth (c : Config) (s : Primary) (buffer : Packet)
    (msg : OctaneControl) :
    (s.rememberAuth c buffer msg).bRefreshTimeout = s.bRefreshTimeout := by
  unfold rememberAuth
  split_ifs <;> rfl

@[simp] theorem bRefreshTimeout_octaneFromSocket (c : Config) (s : Primary)
    (octMsg : OctaneControl) :
    (s.octaneFromSocket c octMsg).bRefreshTimeout = s.bRefreshTimeout := by
  unfold octaneFromSocket
  dsimp only
  split_ifs <;> rfl

theorem bRefreshTimeout_dispatch {router : CRouter} {clock : ℕ → Timeval}
    {ts : List OctaneTimer} (h : { s with router := router }.dispatch clock ts = some s') :
    s'.bRefreshTimeout = s.bRefreshTimeout := by
  obtain ⟨_, _, rfl⟩ := Option.map_eq_some_iff.1 h
  rfl

/-- A packet from the tunnel leaves the flag set exactly when it is handled. -/
theorem bRefreshTimeout_fromTunnel (hstage : c.stage.tcp = true) {st : Stack} {buffer : Packet}
    {clock : ℕ → Timeval} (h : s.fromTunnel c st buffer clock = some s') :
    s'.bRefreshTimeout = true ↔ buffer.ipP = 1 ∨ WebPacket buffer := by
  unfold fromTunnel at h
  simp only [CRouter.icmpForwardLog_protocol, hstage, and_true] at h
  split_ifs at h with hp hp'
  · refine iff_of_true ?_ (Or.inl hp)
    obtain ⟨s₁, hhandled, rfl⟩ := Option.map_eq_some_iff.1 h
    split_ifs at hhandled
    · obtain rfl := Option.some.inj hhandled
      rfl
    · obtain rfl := Option.some.inj hhandled
      simp
    · obtain ⟨s₂, hbatch, rfl⟩ := Option.map_eq_some_iff.1 hhandled
      rw [bRefreshTimeout_send, bRefreshTimeout_logInstalled]
      split_ifs at hbatch
      · exact bRefreshTimeout_dispatch hbatch
      · exact bRefreshTimeout_dispatch hbatch
  · have hne : ¬ buffer.ipP = 1 := hp
    obtain ⟨s₁, hhandle, rfl⟩ := Option.map_eq_some_iff.1 h
    unfold tcpHandle at hhandle
    by_cases hport : tcpUnpack buffer = 80 ∨ tcpUnpack buffer = 443
    · refine iff_of_true ?_ (Or.inr ⟨hp', hport⟩)
      rw [if_neg fun hnone => (Config.tcpTarget_eq_none_iff hstage).1 hnone hport] at hhandle
      split_ifs at hhandle
      · obtain rfl := Option.some.inj hhandle
        simp
      · obtain ⟨s₂, hbatch, rfl⟩ := Option.map_eq_some_iff.1 hhandle
        simp only [bRefreshTimeout_send, bRefreshTimeout_rememberAuth,
          bRefreshTimeout_logInstalled]
        unfold tcpDispatch at hbatch
        split_ifs at hbatch
        · exact bRefreshTimeout_dispatch hbatch
        · exact bRefreshTimeout_dispatch hbatch
    · refine iff_of_false ?_ (by simp [WebPacket, hne, hport])
      rw [if_pos ((Config.tcpTarget_eq_none_iff hstage).2 hport)] at hhandle
      split_ifs at hhandle
      · obtain rfl := Option.some.inj hhandle
        simp
      · obtain rfl := Option.some.inj hhandle
        simp
  · obtain rfl := Option.some.inj h
    exact iff_of_false (by simp) (by simp [WebPacket, hp, hp'])

/-- A datagram leaves the flag set exactly when it is handled. -/
theorem bRefreshTimeout_fromSocket (hstage : c.stage.tcp = true) (s : Primary) (st : Stack)
    (buffer : Packet) (iPort : ℤ) : (s.fromSocket c st buffer iPort).bRefreshTimeout = true ↔
      buffer.ipP = 1 ∨ buffer.ipP = 6 ∨ buffer.ipP = octaneProtocolNum := by
  have hlog : ∀ (s₀ : Primary) (sCheck : String),
      (if c.stage = .s4 then s₀ else s₀.logHit sCheck).bRefreshTimeout = s₀.bRefreshTimeout := by
    intro s₀ sCheck
    split_ifs
    · rfl
    · exact bRefreshTimeout_logHit s₀ sCheck
  unfold fromSocket
  simp only [CRouter.icmpForwardLog_protocol, hstage, and_true]
  by_cases hp : buffer.ipP = 1 ∨ buffer.ipP = 6
  · rw [if_pos hp, bRefreshTimeout_send, hlog]
    exact iff_of_true rfl (or_assoc.1 (Or.inl hp))
  · rw [if_neg hp, ← or_assoc]
    by_cases hp' : buffer.ipP = octaneProtocolNum
    · rw [if_pos hp', bRefreshTimeout_octaneFromSocket, hlog]
      exact iff_of_true rfl (Or.inr hp')
    · rw [if_neg hp']
      exact iff_of_false Bool.false_ne_true (by simp [hp, hp'])

/-! ### The timers -/

/-- No timer is added for a packet that is not handled. -/
theorem timersManager_of_unhandled {st : Stack} {buffer : Packet} {clock : ℕ → Timeval}
    (h : s.fromTunnel c st buffer clock = some s')
    (hnot : ¬ (buffer.ipP = 1 ∨ WebPacket buffer)) : s'.timersManager = s.timersManager := by
  cases fromTunnel_outcome h with
  | icmpHit _ _ hquiet _ => exact hquiet.timersManager
  | icmpMiss ts hp _ _ _ => exact absurd (Or.inl hp) hnot
  | tcpHit _ _ _ hquiet _ => exact hquiet.timersManager
  | tcpMiss ts hp _ hport _ _ _ => exact absurd (Or.inr ⟨hp, hport⟩) hnot
  | tcpOther _ _ _ _ hquiet _ => exact hquiet.timersManager
  | ignored _ _ hquiet _ => exact hquiet.timersManager

/-- A datagram that is not handled removes no timer. -/
theorem timersManager_of_unhandled_datagram (c : Config) (s : Primary) (st : Stack)
    {buffer : Packet} (iPort : ℤ) (hnot : buffer.ipP ≠ octaneProtocolNum) :
    (s.fromSocket c st buffer iPort).timersManager = s.timersManager := by
  cases fromSocket_outcome c s st buffer iPort with
  | forward _ hquiet _ => exact hquiet.timersManager
  | octane s₀ hp _ _ _ => exact absurd hp hnot

theorem NewFlow.pending {st : Stack} {buffer : Packet} {clock : ℕ → Timeval} {addr : SockAddr}
    {ts : List OctaneTimer} (hnew : NewFlow s s' st buffer clock addr ts) (hts : ts ≠ []) :
    s'.timersManager.eq ≠ [] := by
  obtain ⟨⟨T, hs⟩, hadd, heq⟩ := Option.map_eq_some_iff.1 hnew.channel
  obtain rfl : T = s'.timersManager := congrArg Channel.timersManager heq
  have hlength := Timers.length_of_addTimers hadd
  have hpos := List.length_pos_of_ne_nil hts
  apply List.ne_nil_of_length_pos
  omega

/-- For a packet of a new flow that is handled there is a timer. -/
theorem pending_of_handled {st : Stack} {buffer : Packet} {clock : ℕ → Timeval}
    (h : s.fromTunnel c st buffer clock = some s') (hhandled : buffer.ipP = 1 ∨ WebPacket buffer)
    (hstage : c.stage.tcp = true)
    (hmiss : s.router.rouFlowTable.contains (.ofBuffer st buffer) = false) :
    s'.timersManager.eq ≠ [] := by
  cases fromTunnel_outcome h with
  | icmpHit _ hhit _ _ => exact absurd (hhit.symm.trans hmiss) (by decide)
  | icmpMiss ts _ _ hnew hts =>
      refine hnew.pending ?_
      unfold IcmpBatch at hts
      split_ifs at hts
      · obtain ⟨t, rfl, -⟩ := hts
        exact List.cons_ne_nil t []
      · obtain ⟨t, t', rfl, -⟩ := hts
        exact List.cons_ne_nil t [t']
  | tcpHit _ _ hhit _ _ => exact absurd (hhit.symm.trans hmiss) (by decide)
  | tcpMiss ts _ _ _ _ hnew hts =>
      obtain ⟨t, ht, -⟩ := hts.forward
      exact hnew.pending (List.ne_nil_of_mem ht)
  | tcpOther hp _ hport _ _ _ =>
      have hne : ¬ (6 : UInt8) = 1 := by decide
      rcases hhandled with hp' | hweb
      · exact absurd (hp.symm.trans hp') hne
      · exact absurd hweb.2 hport
  | ignored hp hp' _ _ =>
      rcases hhandled with hp'' | hweb
      · exact absurd hp'' hp
      · exact absurd ⟨hweb.1, hstage⟩ hp'

end Primary

namespace Loop

variable {c : Config} {s s' t : Loop} {it : Iteration}

/-- The time that `select` waits in the iteration, the time that it leaves in its
argument taken off. -/
def waited (s : Loop) (it : Iteration) : ℤ :=
  match it.selected with
  | .ready remaining _ _ => (s.selectTimeout it.next).usecs - remaining.usecs
  | .expired _ _ _ _ => (s.selectTimeout it.next).usecs

/-- The time that `select` waits in the iterations `its` from `s` on. -/
def waitedAlong (c : Config) : Loop → List Iteration → ℤ
  | _, [] => 0
  | s, it :: its => s.waited it + (iterate c s it).elim 0 fun s' => waitedAlong c s' its

theorem waitedAlong_cons (h : iterate c s it = some s') (its : List Iteration) :
    waitedAlong c s (it :: its) = s.waited it + waitedAlong c s' its := by
  simp [waitedAlong, h]

/-- When `select` returns a positive number a descriptor is ready, and no more time
is left than it was to wait. -/
def SelectReturns (s : Loop) (it : Iteration) : Prop :=
  match it.selected with
  | .ready remaining tunnel socket => (tunnel.isSome ∨ socket.isSome) ∧
      0 ≤ remaining.usecs ∧ remaining.usecs ≤ (s.selectTimeout it.next).usecs
  | .expired _ _ _ _ => True

/-- The loop returns only when `select` has waited for 15 s since the end of the last
iteration in which a packet was handled. -/
def IdleLaw (c : Config) (s₀ : Loop) (its : List Iteration) : Prop :=
  ∀ pre idle s t, its = pre ++ idle → (∀ it ∈ pre.getLast?, it.Handled) →
    (∀ it ∈ idle, ¬ it.Handled) → run (iterate c) s₀ pre = some s →
    run (iterate c) s idle = some t → t.running = false →
      15 * 1000000 ≤ waitedAlong c s idle

/-- A packet of a known flow is handled with no timer in the queue, and a datagram
that is not handled comes after it before 15 s are left. -/
def LosesRefresh (s : Loop) (it : Iteration) : Prop :=
  match it.selected with
  | .ready remaining (some input) (some datagram) =>
      s.primary.timersManager.eq = [] ∧ input.Handled ∧
        s.primary.router.rouFlowTable.contains (.ofBuffer input.st input.buffer) = true ∧
        ¬ datagram.Handled ∧ remaining.usecs < 15 * 1000000
  | _ => False

/-- The refreshed flag is not lost, and the time until the next timer is not the
value that stands for no timer. -/
def KeepsIdle (s : Loop) (it : Iteration) : Prop :=
  ¬ s.LosesRefresh it ∧ (s.primary.timersManager.eq ≠ [] →
    s.primary.timersManager.nextTimerTime it.next ≠ ⟨Timers.maxValue, 0⟩)

instance (s : Loop) : (it : Iteration) → Decidable (s.SelectReturns it)
  | ⟨_, _, _, .ready _ _ _⟩ => inferInstanceAs (Decidable (_ ∧ _ ∧ _))
  | ⟨_, _, _, .expired _ _ _ _⟩ => .isTrue trivial

instance (s : Loop) : (it : Iteration) → Decidable (s.LosesRefresh it)
  | ⟨_, _, _, .ready _ (some _) (some _)⟩ => inferInstanceAs (Decidable (_ ∧ _ ∧ _ ∧ _ ∧ _))
  | ⟨_, _, _, .ready _ none _⟩ => .isFalse id
  | ⟨_, _, _, .ready _ (some _) none⟩ => .isFalse id
  | ⟨_, _, _, .expired _ _ _ _⟩ => .isFalse id

instance (s : Loop) (it : Iteration) : Decidable (s.KeepsIdle it) :=
  inferInstanceAs (Decidable (_ ∧ _))

/-- The loop runs, and it has a timer or, with the time already waited, the idle time
left. -/
structure Awake (s : Loop) (waited : ℤ) : Prop where
  running : s.running = true
  awake : s.primary.timersManager.eq ≠ [] ∨ 15 * 1000000 ≤ waited + s.timeout.usecs

/-! ### The timers that run -/

theorem pending_of_execute {tick : Tick} (h : s.execute tick = some s') :
    s.primary.timersManager.eq ≠ [] ∧ s'.primary.timersManager.eq ≠ [] ∧
      s'.running = s.running := by
  obtain ⟨e, rest, primary, hq, hprimary, rfl⟩ := execute_cases h
  obtain ⟨⟨T, cb⟩, hT, rfl⟩ := Option.map_eq_some_iff.1 hprimary
  have hlength := Timers.length_of_executeNextTimer hT
  rw [hq, List.length_cons] at hlength
  refine ⟨hq ▸ List.cons_ne_nil e rest, ?_, rfl⟩
  apply List.ne_nil_of_length_pos
  change 0 < T.eq.length
  omega

theorem pending_of_executeExpired {next : Timeval} {turns : List (Tick × Timeval)}
    (h : s.executeExpired next turns = some s') (hpending : s.primary.timersManager.eq ≠ []) :
    s'.primary.timersManager.eq ≠ [] ∧ s'.running = s.running := by
  induction turns generalizing s next with
  | nil =>
      obtain ⟨-, rfl⟩ := executeExpired_nil_iff.1 h
      exact ⟨hpending, rfl⟩
  | cons turn turns ih =>
      obtain ⟨-, s₁, hone, hmore⟩ := executeExpired_cons_iff.1 h
      obtain ⟨-, hpending₁, hrunning₁⟩ := pending_of_execute hone
      obtain ⟨hpending', hrunning'⟩ := ih hmore hpending₁
      exact ⟨hpending', hrunning'.trans hrunning₁⟩

/-- The top of an iteration: a queue that is not empty stays so, and with an empty one
nothing is done. -/
theorem pending_of_executeTop (h : s.executeTop it = some s') :
    s'.running = s.running ∧
      (s.primary.timersManager.eq ≠ [] ∧ s'.primary.timersManager.eq ≠ [] ∨
        s.primary.timersManager.eq = [] ∧ s' = s) := by
  rcases executeTop_cases h with ⟨-, hone⟩ | ⟨-, rfl⟩
  · obtain ⟨hpending, hpending', hrunning⟩ := pending_of_execute hone
    exact ⟨hrunning, Or.inl ⟨hpending, hpending'⟩⟩
  · by_cases hq : s'.primary.timersManager.eq = []
    · exact ⟨rfl, Or.inr ⟨hq, rfl⟩⟩
    · exact ⟨rfl, Or.inl ⟨hq, hq⟩⟩

/-! ### The packets that arrive -/

/-- Nothing that arrives is handled: the timers stay, and `select` has left the time
that remained. -/
theorem react_of_unhandled (hstage : c.stage.tcp = true) {remaining : Timeval}
    {tunnel : Option TunnelInput} {socket : Option SocketInput}
    (h : s.react c remaining tunnel socket = some s')
    (htunnel : ∀ input ∈ tunnel, ¬ input.Handled) (hsocket : ∀ input ∈ socket, ¬ input.Handled)
    (hsome : tunnel.isSome ∨ socket.isSome) :
    s'.primary.timersManager = s.primary.timersManager ∧ s'.timeout = remaining ∧
      s'.running = s.running := by
  obtain ⟨s₁, s₂, hread, hreceive, rfl⟩ := react_cases h
  obtain ⟨htimers₁, hrunning₁, hflag₁⟩ : s₁.primary.timersManager = s.primary.timersManager ∧
      s₁.running = s.running ∧ (tunnel.isSome → s₁.primary.bRefreshTimeout = false) := by
    rcases hread with ⟨rfl, rfl⟩ | ⟨input, primary, rfl, hprimary, rfl⟩
    · exact ⟨rfl, rfl, fun hnone => absurd hnone (by decide)⟩
    · have hnot := htunnel input rfl
      refine ⟨Primary.timersManager_of_unhandled hprimary hnot, rfl, fun _ => ?_⟩
      exact Bool.eq_false_iff.2 fun hflag =>
        hnot ((Primary.bRefreshTimeout_fromTunnel hstage hprimary).1 hflag)
  obtain ⟨htimers₂, hrunning₂, hflag₂⟩ : s₂.primary.timersManager = s₁.primary.timersManager ∧
      s₂.running = s₁.running ∧ s₂.primary.bRefreshTimeout = false := by
    rcases hreceive with ⟨rfl, rfl⟩ | ⟨input, rfl, rfl⟩
    · exact ⟨rfl, rfl, hflag₁ (hsome.resolve_right (by simp))⟩
    · have hnot := hsocket input rfl
      have hflag := Primary.bRefreshTimeout_fromSocket hstage s₁.primary input.st input.buffer
        input.iPort
      refine ⟨Primary.timersManager_of_unhandled_datagram c s₁.primary input.st input.iPort
        fun hp => hnot (Or.inr (Or.inr hp)), rfl, ?_⟩
      exact Bool.eq_false_iff.2 fun htrue => hnot (hflag.1 htrue)
  refine ⟨htimers₂.trans htimers₁, ?_, hrunning₂.trans hrunning₁⟩
  dsimp only
  rw [hflag₂, if_neg Bool.false_ne_true]

theorem timeout_of_refresh {remaining : Timeval} (h : s.primary.bRefreshTimeout = true) :
    ({ s with
      timeout := if s.primary.bRefreshTimeout then ⟨15, 0⟩ else remaining } : Loop).timeout =
      ⟨15, 0⟩ := if_pos h

/-- A packet that is handled and leaves no timer behind is one of a known flow. -/
theorem hit_of_handled {p p' : Primary} {st : Stack} {buffer : Packet} {clock : ℕ → Timeval}
    (hstage : c.stage.tcp = true) (h : primStep c p (.tunnel st buffer clock) = some p')
    (hhandled : buffer.ipP = 1 ∨ WebPacket buffer) (hq : p'.timersManager.eq = []) :
    p.timersManager.eq = [] ∧
      p.router.rouFlowTable.contains (.ofBuffer st buffer) = true := by
  constructor
  · -- a packet from the tunnel removes no timer
    obtain ⟨ts, hs, hadd⟩ := timersManager_of_tunnel h
    have hlength := Timers.length_of_addTimers hadd
    rw [hq, List.length_nil] at hlength
    exact List.length_eq_zero_iff.1 (by omega)
  · by_contra hmiss
    exact Primary.pending_of_handled h hhandled hstage (Bool.eq_false_iff.2 hmiss) hq

/-- A packet that arrives is handled: there is a timer, or the idle time starts anew,
or a datagram has cleared the flag. -/
theorem react_of_handled (hstage : c.stage.tcp = true) {remaining : Timeval}
    {tunnel : Option TunnelInput} {socket : Option SocketInput}
    (h : s.react c remaining tunnel socket = some s')
    (hhandled : (∃ input ∈ tunnel, input.Handled) ∨ ∃ input ∈ socket, input.Handled) :
    s'.running = s.running ∧ (s'.primary.timersManager.eq ≠ [] ∨ s'.timeout = ⟨15, 0⟩ ∨
      s'.timeout = remaining ∧ s.primary.timersManager.eq = [] ∧ ∃ input ∈ tunnel,
        input.Handled ∧
          s.primary.router.rouFlowTable.contains (.ofBuffer input.st input.buffer) = true ∧
          ∃ datagram ∈ socket, ¬ datagram.Handled) := by
  obtain ⟨s₁, s₂, hread, hreceive, rfl⟩ := react_cases h
  have hrunning₁ : s₁.running = s.running := by
    rcases hread with ⟨-, rfl⟩ | ⟨_, _, -, -, rfl⟩
    · rfl
    · rfl
  rcases hreceive with ⟨rfl, rfl⟩ | ⟨datagram, rfl, rfl⟩
  · obtain ⟨input, hmem, hinput⟩ := hhandled.resolve_right (by simp)
    obtain ⟨rfl, -⟩ | ⟨input', primary, rfl, hprimary, rfl⟩ := hread
    · cases hmem
    · obtain rfl := Option.some.inj hmem
      refine ⟨rfl, Or.inr (Or.inl (timeout_of_refresh ?_))⟩
      exact (Primary.bRefreshTimeout_fromTunnel hstage hprimary).2 hinput
  · refine ⟨hrunning₁, ?_⟩
    have hflag := Primary.bRefreshTimeout_fromSocket hstage s₁.primary datagram.st
      datagram.buffer datagram.iPort
    by_cases hdatagram : datagram.Handled
    · exact Or.inr (Or.inl (timeout_of_refresh (hflag.2 hdatagram)))
    · have htimers := Primary.timersManager_of_unhandled_datagram c s₁.primary datagram.st
        datagram.iPort fun hp => hdatagram (Or.inr (Or.inr hp))
      obtain ⟨input, hmem, hinput⟩ := hhandled.resolve_right (by simpa using hdatagram)
      obtain ⟨rfl, -⟩ | ⟨input', primary, rfl, hprimary, rfl⟩ := hread
      · cases hmem
      · obtain rfl := Option.some.inj hmem
        by_cases hq : primary.timersManager.eq = []
        · right
          right
          obtain ⟨hempty, hhit⟩ := hit_of_handled hstage hprimary hinput hq
          refine ⟨if_neg fun htrue => hdatagram (hflag.1 htrue), hempty, input', rfl, hinput, hhit,
            datagram, rfl, hdatagram⟩
        · left
          exact fun hnil => hq ((congrArg Timers.eq htimers).symm.trans hnil)

/-! ### One iteration and a run -/

/-- After an iteration in which a packet is handled the idle time starts anew. -/
theorem awake_of_handled (hstage : c.stage.tcp = true) (h : iterate c s it = some s')
    (hhandled : it.Handled) (hkeeps : s.KeepsIdle it) : s'.Awake 0 := by
  obtain ⟨hrunning, s₁, htop, hselect⟩ := iterate_cases h
  obtain ⟨hrunning₁, hqueue⟩ := pending_of_executeTop htop
  unfold Iteration.Handled at hhandled
  cases hsel : it.selected with
  | expired back first next turns => simp [hsel] at hhandled
  | ready remaining tunnel socket =>
      rw [hsel] at hselect hhandled
      obtain ⟨hrunning', hcases⟩ := react_of_handled hstage hselect hhandled
      refine ⟨(hrunning'.trans hrunning₁).trans hrunning, ?_⟩
      rcases hcases with hpending | htimeout |
        ⟨htimeout, hempty, input, rfl, hinput, hhit, datagram, rfl, hdatagram⟩
      · exact Or.inl hpending
      · rw [htimeout]
        exact Or.inr (by decide)
      · obtain ⟨-, rfl⟩ := hqueue.resolve_left fun hpending => hpending.2 hempty
        right
        rw [htimeout, zero_add]
        by_contra hless
        apply hkeeps.1
        simp only [LosesRefresh, hsel]
        exact ⟨hempty, hinput, hhit, hdatagram, by omega⟩

/-- `select` returns with packets that are not handled. -/
theorem Awake.ready (hstage : c.stage.tcp = true) {w : ℤ} (hawake : s.Awake w)
    (h : iterate c s it = some s') (hidle : ¬ it.Handled) (hreturns : s.SelectReturns it)
    {remaining : Timeval} {tunnel : Option TunnelInput} {socket : Option SocketInput}
    (hsel : it.selected = .ready remaining tunnel socket) : s'.Awake (w + s.waited it) := by
  obtain ⟨hrunning, s₁, htop, hselect⟩ := iterate_cases h
  obtain ⟨hrunning₁, hqueue⟩ := pending_of_executeTop htop
  unfold Iteration.Handled at hidle
  unfold SelectReturns at hreturns
  unfold waited
  rw [hsel] at hselect hidle hreturns
  obtain ⟨htunnel, hsocket⟩ := not_or.1 hidle
  obtain ⟨htimers, htimeout, hrunning'⟩ := react_of_unhandled hstage hselect
    (fun input hmem hinput => htunnel ⟨input, hmem, hinput⟩)
    (fun input hmem hinput => hsocket ⟨input, hmem, hinput⟩) hreturns.1
  refine ⟨(hrunning'.trans hrunning₁).trans hrunning, ?_⟩
  rcases hqueue with ⟨-, hpending⟩ | ⟨hempty, rfl⟩
  · exact Or.inl fun hnil => hpending ((congrArg Timers.eq htimers).symm.trans hnil)
  · right
    have hleft := hawake.awake.resolve_left fun hpending => hpending hempty
    have htotal : s₁.selectTimeout it.next = s₁.timeout := by
      simp [selectTimeout, Timers.nextTimerTime, hempty]
    simp only [hsel, htotal, htimeout]
    omega

/-- `select` returns 0: a timer is due and is run, or the loop has waited long enough. -/
theorem Awake.expired {w : ℤ} (hawake : s.Awake w) (h : iterate c s it = some s')
    (hkeeps : s.KeepsIdle it) {back : Timeval} {first : Tick} {next : Timeval}
    {turns : List (Tick × Timeval)} (hsel : it.selected = .expired back first next turns) :
    s'.Awake (w + s.waited it) ∨ s'.running = false ∧ 15 * 1000000 ≤ w + s.waited it := by
  obtain ⟨hrunning, s₁, htop, hselect⟩ := iterate_cases h
  obtain ⟨hrunning₁, hqueue⟩ := pending_of_executeTop htop
  unfold waited
  rw [hsel] at hselect
  rcases hqueue with ⟨hpending, -⟩ | ⟨hempty, rfl⟩
  · left
    have hdue := hkeeps.2 hpending
    obtain ⟨s₂, s₃, hone, hturns, rfl⟩ :=
      ((expired_cases hselect).resolve_right fun hfalse => of_decide_eq_false hfalse.1 hdue).2
    obtain ⟨-, hpending₂, hrunning₂⟩ := pending_of_execute hone
    obtain ⟨hpending₃, hrunning₃⟩ := pending_of_executeExpired hturns hpending₂
    refine ⟨?_, Or.inl hpending₃⟩
    exact ((hrunning₃.trans hrunning₂).trans hrunning₁).trans hrunning
  · right
    have hleft := hawake.awake.resolve_left fun hpending => hpending hempty
    have hmax : s₁.primary.timersManager.nextTimerTime it.next = ⟨Timers.maxValue, 0⟩ := by
      simp [Timers.nextTimerTime, hempty]
    simp only [ne_eq, hmax, not_true_eq_false, decide_false] at hselect
    obtain rfl := Option.some.inj hselect
    refine ⟨rfl, ?_⟩
    simp only [hsel]
    rw [selectTimeout, if_pos hmax]
    exact hleft

/-- An iteration in which nothing is handled: the loop goes on, or the time is over. -/
theorem Awake.step (hstage : c.stage.tcp = true) {w : ℤ} (hawake : s.Awake w)
    (h : iterate c s it = some s') (hidle : ¬ it.Handled) (hreturns : s.SelectReturns it)
    (hkeeps : s.KeepsIdle it) : s'.Awake (w + s.waited it) ∨
      s'.running = false ∧ 15 * 1000000 ≤ w + s.waited it := by
  cases hsel : it.selected with
  | ready remaining tunnel socket => exact Or.inl (hawake.ready hstage h hidle hreturns hsel)
  | expired back first next turns => exact hawake.expired h hkeeps hsel

/-- A run in which nothing is handled. -/
theorem Awake.run (hstage : c.stage.tcp = true) {w : ℤ} {idle : List Iteration}
    (hawake : s.Awake w) (hrun : run (iterate c) s idle = some t)
    (hidle : ∀ it ∈ idle, ¬ it.Handled)
    (hcond : Along (iterate c) (fun s it _ => s.SelectReturns it ∧ s.KeepsIdle it) s idle) :
    t.Awake (w + waitedAlong c s idle) ∨
      t.running = false ∧ 15 * 1000000 ≤ w + waitedAlong c s idle := by
  induction idle generalizing s w with
  | nil =>
      obtain rfl : s = t := by simpa using hrun
      simpa [waitedAlong] using Or.inl hawake
  | cons it idle ih =>
      obtain ⟨s', hstep, hrest⟩ := run_cons.1 hrun
      obtain ⟨⟨hreturns, hkeeps⟩, hcond'⟩ := hcond s' hstep
      rw [waitedAlong_cons hstep, ← add_assoc]
      rcases hawake.step hstage hstep (hidle it (List.mem_cons_self ..)) hreturns hkeeps with
        hawake' | ⟨hstopped, hover⟩
      · exact ih hawake' hrest (fun it' hit' => hidle it' (List.mem_cons_of_mem it hit')) hcond'
      · -- the loop has returned, and there are no further iterations
        cases idle with
        | nil =>
            obtain rfl : s' = t := by simpa using hrest
            exact Or.inr ⟨hstopped, by simpa [waitedAlong] using hover⟩
        | cons it' idle =>
            obtain ⟨s'', hstep', -⟩ := run_cons.1 hrest
            exact absurd ((iterate_cases hstep').1.symm.trans hstopped) (by decide)

/-- In every run of a loop with TCP routes in which no refreshed flag is lost, the loop
returns only after 15 s without a packet that is handled. -/
theorem idleLaw_of_keepsIdle (c : Config) (hstage : c.stage.tcp = true) (router : CRouter)
    (auth authRev : OctaneControl) (its : List Iteration)
    (hreturns : Along (iterate c) (fun s it _ => s.SelectReturns it)
      (start (.start router auth authRev)) its)
    (hkeeps : Along (iterate c) (fun s it _ => s.KeepsIdle it)
      (start (.start router auth authRev)) its) :
    IdleLaw c (start (.start router auth authRev)) its := by
  intro pre idle s t hits hlast hidle hpre hrun hstopped
  subst hits
  have hawake : s.Awake 0 := by
    induction pre using List.reverseRecOn with
    | nil =>
        obtain rfl := Option.some.inj hpre
        exact ⟨rfl, Or.inr (by simp [start, Timeval.usecs])⟩
    | append_singleton pre it _ =>
        obtain ⟨s₁, hpre', hrest⟩ := run_append.1 hpre
        obtain ⟨s₂, hstep, hend⟩ := run_cons.1 hrest
        obtain rfl := Option.some.inj hend
        rw [List.append_assoc] at hkeeps
        have hkeeps₁ := (hkeeps.of_append hpre') s₂ hstep
        exact awake_of_handled hstage hstep (hlast it (by simp)) hkeeps₁.1
  have hcond := (hreturns.and hkeeps).of_append hpre
  rcases hawake.run hstage hrun hidle hcond with hawake' | ⟨-, hover⟩
  · exact absurd (hawake'.running.symm.trans hstopped) (by decide)
  · rwa [zero_add] at hover

/-- The HTTP packet of `samplePacket`, read at the time `t`. -/
def httpAt (t : Timeval) : TunnelInput where
  st := default
  buffer := samplePacket 0x5000
  clock := fun _ => t
  sending := fun _ => t

/-- The acknowledgement of the message with the number `octaneSeqno`. -/
def sampleAck (octaneSeqno : UInt16) : SocketInput where
  st := default
  buffer := { (default : Packet) with
    ipP := octaneProtocolNum
    octane := ⟨1, 1, octaneSeqno, 0x0A00A8C0, 0x0133050A, 0x1027, 0x5000, 6, 0⟩ }
  iPort := 35

/-- A datagram of a protocol that the loop does not know. -/
def sampleDatagram : SocketInput where
  st := default
  buffer := { (default : Packet) with ipP := 17 }
  iPort := 35

/-- An iteration that starts at `next` and in which `select` leaves `remaining`. -/
def readyAt (next remaining : Timeval) (tunnel : Option TunnelInput)
    (socket : Option SocketInput) : Iteration where
  next := next
  top := ⟨next, next⟩
  wait := next
  selected := .ready remaining tunnel socket

/-- A new HTTP flow and the acknowledgements of its two messages. -/
def acknowledgedFlow : List Iteration :=
  [readyAt ⟨0, 0⟩ ⟨14, 0⟩ (some (httpAt ⟨1, 0⟩)) none,
    readyAt ⟨1, 0⟩ ⟨1, 0⟩ none (some (sampleAck 1)),
    readyAt ⟨2, 0⟩ ⟨0, 500000⟩ none (some (sampleAck 2))]

/-- The loop returns 15 s after the last acknowledgement. -/
theorem idleLaw_acknowledgedFlow :
    IdleLaw timerConfig (start sampleStart) (acknowledgedFlow ++ [nothingUntil ⟨3, 0⟩ ⟨18, 0⟩]) :=
  idleLaw_of_keepsIdle timerConfig rfl _ _ _ _ (by decide) (by decide)

/-- The flow sends another packet, and in the same iteration a datagram arrives that is
not handled, 10 s after the acknowledgement. -/
def refreshLost : List Iteration :=
  acknowledgedFlow ++ [readyAt ⟨3, 0⟩ ⟨5, 0⟩ (some (httpAt ⟨13, 0⟩)) (some sampleDatagram)]

/-- The loop returns 5 s after the last packet of the flow. -/
theorem not_idleLaw_unhandled_datagram :
    Along (iterate timerConfig) (fun s it _ => s.SelectReturns it) (start sampleStart)
        (refreshLost ++ [nothingUntil ⟨13, 0⟩ ⟨18, 0⟩]) ∧
      ¬ IdleLaw timerConfig (start sampleStart)
        (refreshLost ++ [nothingUntil ⟨13, 0⟩ ⟨18, 0⟩]) := by
  refine ⟨by decide, fun hlaw => ?_⟩
  have hdef : (run (iterate timerConfig) (start sampleStart)
      (refreshLost ++ [nothingUntil ⟨13, 0⟩ ⟨18, 0⟩])).isSome = true := by decide
  obtain ⟨t, ht⟩ := Option.isSome_iff_exists.1 hdef
  obtain ⟨s, hs, hidle⟩ := run_append.1 ht
  have hstopped : ∀ t ∈ run (iterate timerConfig) (start sampleStart)
      (refreshLost ++ [nothingUntil ⟨13, 0⟩ ⟨18, 0⟩]), t.running = false := by decide
  have hwaited : ∀ s ∈ run (iterate timerConfig) (start sampleStart) refreshLost,
      waitedAlong timerConfig s [nothingUntil ⟨13, 0⟩ ⟨18, 0⟩] < 15 * 1000000 := by decide
  have hhandled : ∀ it ∈ refreshLost.getLast?, it.Handled := by
    rintro it ⟨rfl⟩
    exact Or.inl ⟨_, rfl, Or.inr (by decide)⟩
  have hnot : ∀ it ∈ [nothingUntil ⟨13, 0⟩ ⟨18, 0⟩], ¬ it.Handled := by
    intro it hit
    obtain rfl := List.mem_singleton.1 hit
    exact id
  have hlong := hlaw refreshLost _ s t rfl hhandled hnot hs hidle (hstopped t ht)
  exact absurd hlong (not_le.2 (hwaited s hs))

end Loop
