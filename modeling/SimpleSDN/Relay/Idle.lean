import SimpleSDN.Relay.Loop

/-!
# The idle time of the relay

Both routers of stages 2 and 3 return after 15 s in which no iteration has set the time
again. An iteration does not do so if it reads a packet that is not ICMP, where the
secondary router may also have read one from its raw socket that is no echo reply.
-/

/-- The iteration does not end with `continue`. -/
def RelayPrimarySelected.Handled : RelayPrimarySelected → Prop
  | .timeout => False
  | .ready _ tunnel _ => ¬ ∃ input ∈ tunnel, (Buffer.ofList input.bytes).ipP ≠ 1

instance RelayPrimarySelected.decidableHandled :
    (e : RelayPrimarySelected) → Decidable e.Handled
  | .timeout => .isFalse id
  | .ready _ _ _ => inferInstanceAs (Decidable (¬ ∃ _ ∈ _, _ ≠ _))

/-- What `select` leaves of its time. -/
def RelayPrimarySelected.remaining : RelayPrimarySelected → Option ℤ
  | .timeout => none
  | .ready remaining _ _ => some remaining.usecs

namespace RelayPrimary

variable {s s' : RelayPrimary}

/-- The loop of `primaryRouter_s2` as one with an idle time. -/
def idleLoop : IdleLoop RelayPrimary RelayPrimarySelected where
  step := relayPrimaryStep
  running := running
  idle := 15 * 1000000
  left s := s.timeout.usecs
  remaining := RelayPrimarySelected.remaining
  Refreshed _ e := e.Handled
  decRefreshed _ _ := inferInstance

/-- An iteration that is over in time leaves the loop running. -/
theorem of_ready {remaining : Timeval} {tunnel : Option RelayTunnel}
    {socket : Option RelaySocket}
    (h : relayPrimaryStep s (.ready remaining tunnel socket) = some s') :
    s'.running = true ∧ s'.timeout =
      if (RelayPrimarySelected.ready remaining tunnel socket).Handled then ⟨15, 0⟩
      else remaining := by
  obtain ⟨hrunning, hs⟩ := Option.ite_none_right_eq_some.1 h
  have htunnel : (tunnel.elim s s.readTunnel).running = s.running := by
    cases tunnel <;> rfl
  have hsocket : ∀ s : RelayPrimary, (socket.elim s s.readSocket).running = s.running := by
    intro s
    cases socket <;> rfl
  split_ifs at hs with hcontinue
  · obtain rfl := Option.some.inj hs
    exact ⟨htunnel.trans hrunning, (if_neg (not_not_intro hcontinue)).symm⟩
  · obtain rfl := Option.some.inj hs
    exact ⟨(hsocket _).trans (htunnel.trans hrunning), (if_pos hcontinue).symm⟩

theorem timed_idleLoop : idleLoop.Timed fun _ _ => True where
  running_of_step := by
    intro s s' e h
    cases e with
    | timeout => exact (Option.ite_none_right_eq_some.1 h).1
    | ready remaining tunnel socket => exact (Option.ite_none_right_eq_some.1 h).1
  not_refreshed := by
    intro s e hover hhandled
    cases e with
    | timeout => exact hhandled
    | ready remaining tunnel socket => cases hover
  left_of_step := by
    intro s s' e h _ hrunning
    cases e with
    | timeout =>
        obtain rfl := Option.some.inj (Option.ite_none_right_eq_some.1 h).2
        exact absurd hrunning Bool.false_ne_true
    | ready remaining tunnel socket =>
        refine ⟨remaining.usecs, rfl, ?_⟩
        exact (congrArg Timeval.usecs (of_ready h).2).trans (apply_ite Timeval.usecs _ _ _)
  of_ended := by
    intro s s' e h _ hended
    cases e with
    | timeout => rfl
    | ready remaining tunnel socket =>
        exact absurd ((of_ready h).1.symm.trans hended) (by decide)

end RelayPrimary

/-- No packet of the iteration is one that the router has no use for. -/
def RelaySecondSelected.Handled (stage : RelayStage) : RelaySecondSelected → Prop
  | .timeout => False
  | .ready _ udp raw => (¬ ∃ input ∈ udp, input.buffer.ipP ≠ 1) ∧
      match stage with
      | .s2 => True
      | .s3 => ∀ input ∈ raw, input.Handled

instance RelaySecondSelected.decidableHandled :
    (stage : RelayStage) → (e : RelaySecondSelected) → Decidable (e.Handled stage)
  | _, .timeout => .isFalse id
  | .s2, .ready _ _ _ => inferInstanceAs (Decidable ((¬ ∃ _ ∈ _, _ ≠ _) ∧ True))
  | .s3, .ready _ _ _ =>
      inferInstanceAs (Decidable ((¬ ∃ _ ∈ _, _ ≠ _) ∧ ∀ _ ∈ _, RawInput.Handled _))

/-- What `select` leaves of its time. -/
def RelaySecondSelected.remaining : RelaySecondSelected → Option ℤ
  | .timeout => none
  | .ready remaining _ _ => some remaining.usecs

namespace RelaySecond

variable {stage : RelayStage} {s s' : RelaySecond}

/-- The loop of `secondRouter_s2` as one with an idle time. -/
def idleLoop (stage : RelayStage) : IdleLoop RelaySecond RelaySecondSelected where
  step := relaySecondStep stage
  running := running
  idle := 15 * 1000000
  left s := s.timeout.usecs
  remaining := RelaySecondSelected.remaining
  Refreshed _ e := e.Handled stage
  decRefreshed _ _ := inferInstance

/-- An iteration that is over in time leaves the loop running. -/
theorem of_ready {remaining : Timeval} {udp : Option RelayUdp} {raw : Option RawInput}
    (h : relaySecondStep stage s (.ready remaining udp raw) = some s') :
    s'.running = true ∧ s'.timeout =
      if (RelaySecondSelected.ready remaining udp raw).Handled stage then ⟨15, 0⟩
      else remaining := by
  obtain ⟨hrunning, hs⟩ := Option.ite_none_right_eq_some.1 h
  have hudp : (udp.elim s (s.readUdp stage)).running = true := by
    cases udp with
    | none => exact hrunning
    | some input => exact (running_readUdp input).trans hrunning
  split_ifs at hs with hcontinue
  · obtain rfl := Option.some.inj hs
    exact ⟨hudp, (if_neg fun hhandled => hhandled.1 hcontinue).symm⟩
  · cases stage with
    | s2 =>
        obtain rfl := Option.some.inj hs
        exact ⟨hudp, (if_pos ⟨hcontinue, trivial⟩).symm⟩
    | s3 =>
        cases raw with
        | none =>
            obtain rfl := Option.some.inj hs
            exact ⟨hudp, (if_pos ⟨hcontinue, by simp⟩).symm⟩
        | some input =>
            obtain rfl := Option.some.inj hs
            refine ⟨(running_readRaw input).trans hudp, if_congr ?_ rfl rfl⟩
            simp only [RelaySecondSelected.Handled, hcontinue, not_false_eq_true, true_and,
              Option.mem_some_iff, forall_eq']

theorem timed_idleLoop (stage : RelayStage) : (idleLoop stage).Timed fun _ _ => True where
  running_of_step := by
    intro s s' e h
    cases e with
    | timeout => exact (Option.ite_none_right_eq_some.1 h).1
    | ready remaining udp raw => exact (Option.ite_none_right_eq_some.1 h).1
  not_refreshed := by
    intro s e hover hhandled
    cases e with
    | timeout => exact hhandled
    | ready remaining udp raw => cases hover
  left_of_step := by
    intro s s' e h _ hrunning
    cases e with
    | timeout =>
        obtain rfl := Option.some.inj (Option.ite_none_right_eq_some.1 h).2
        exact absurd hrunning Bool.false_ne_true
    | ready remaining udp raw =>
        refine ⟨remaining.usecs, rfl, ?_⟩
        exact (congrArg Timeval.usecs (of_ready h).2).trans (apply_ite Timeval.usecs _ _ _)
  of_ended := by
    intro s s' e h _ hended
    cases e with
    | timeout => rfl
    | ready remaining udp raw =>
        exact absurd ((of_ready h).1.symm.trans hended) (by decide)

end RelaySecond

namespace RelaySystemEvent

/-- The iteration of the primary router. -/
def primary? : RelaySystemEvent → Option RelayPrimarySelected
  | .primary e => some e
  | .second _ => none

/-- The iteration of the secondary router. -/
def second? : RelaySystemEvent → Option RelaySecondSelected
  | .primary _ => none
  | .second e => some e

end RelaySystemEvent

namespace RelaySystem

variable {stage : RelayStage} {rou1Addr : SockAddr} {s t : RelaySystem}
  {es : List RelaySystemEvent}

/-- The routers make a run each, of their own iterations. -/
theorem primary_of_run (h : run (relaySystemStep stage rou1Addr) s es = some t) :
    run relayPrimaryStep s.primary (es.filterMap RelaySystemEvent.primary?) =
      some t.primary := by
  have hstep : ∀ p u e v, p = u.primary → relaySystemStep stage rou1Addr u e = some v →
      ∃ p', run relayPrimaryStep p e.primary?.toList = some p' ∧ p' = v.primary := by
    rintro _ u e v rfl hv
    cases e with
    | primary e =>
        obtain ⟨-, hmap⟩ := Option.ite_none_right_eq_some.1 hv
        obtain ⟨primary, hprimary, rfl⟩ := Option.map_eq_some_iff.1 hmap
        exact ⟨primary, run_cons.2 ⟨primary, hprimary, rfl⟩, rfl⟩
    | second e =>
        obtain ⟨-, hmap⟩ := Option.ite_none_right_eq_some.1 hv
        obtain ⟨second, -, rfl⟩ := Option.map_eq_some_iff.1 hmap
        exact ⟨u.primary, rfl, rfl⟩
  obtain ⟨primary, hrun, rfl⟩ := run_simulate hstep rfl h
  exact hrun

theorem second_of_run (h : run (relaySystemStep stage rou1Addr) s es = some t) :
    run (relaySecondStep stage) s.second (es.filterMap RelaySystemEvent.second?) =
      some t.second := by
  have hstep : ∀ p u e v, p = u.second → relaySystemStep stage rou1Addr u e = some v →
      ∃ p', run (relaySecondStep stage) p e.second?.toList = some p' ∧ p' = v.second := by
    rintro _ u e v rfl hv
    cases e with
    | primary e =>
        obtain ⟨-, hmap⟩ := Option.ite_none_right_eq_some.1 hv
        obtain ⟨primary, -, rfl⟩ := Option.map_eq_some_iff.1 hmap
        exact ⟨u.second, rfl, rfl⟩
    | second e =>
        obtain ⟨-, hmap⟩ := Option.ite_none_right_eq_some.1 hv
        obtain ⟨second, hsecond, rfl⟩ := Option.map_eq_some_iff.1 hmap
        exact ⟨second, run_cons.2 ⟨second, hsecond, rfl⟩, rfl⟩
  obtain ⟨second, hrun, rfl⟩ := run_simulate hstep rfl h
  exact hrun

/-- In every run of the two routers, whatever they read: the time until the next timeout
and the time that a router has waited since its last iteration without a useless packet
are 15 s together as long as it goes on, and it returns after 15 s of this waiting. -/
theorem timed_of_run (stage : RelayStage) (Router₁ Router₂ : CRouter)
    (addr rou1Addr : SockAddr) (oriSrcAddr : UInt32) (es : List RelaySystemEvent)
    (s : RelaySystem)
    (hrun : run (relaySystemStep stage rou1Addr)
      ⟨.start Router₁, .start Router₂ addr oriSrcAddr⟩ es = some s) :
    RelayPrimary.idleLoop.silence 0 (.start Router₁) (es.filterMap RelaySystemEvent.primary?) +
        (if s.primary.running then s.primary.timeout.usecs else 0) = 15 * 1000000 ∧
      (RelaySecond.idleLoop stage).silence 0 (.start Router₂ addr oriSrcAddr)
          (es.filterMap RelaySystemEvent.second?) +
        (if s.second.running then s.second.timeout.usecs else 0) = 15 * 1000000 :=
  ⟨RelayPrimary.timed_idleLoop.silence_add_left rfl (Throughout.of_forall fun _ _ => trivial)
      rfl (primary_of_run hrun),
    (RelaySecond.timed_idleLoop stage).silence_add_left rfl
      (Throughout.of_forall fun _ _ => trivial) rfl (second_of_run hrun)⟩

/-- Two packets from the tunnel, of which the second is not ICMP, and then nothing. -/
def uselessPacket : List RelaySystemEvent :=
  [.primary (.ready ⟨14, 0⟩ (some ⟨default, ping []⟩) none),
    .primary (.ready ⟨9, 0⟩ (some ⟨default, [0x45, 0, 0, 20, 0, 0, 0, 0, 64, 17]⟩) none),
    .primary .timeout]

/-- The primary router returns 9 s after the second packet. -/
theorem timed_of_run_uselessPacket : ∃ s,
    run (relaySystemStep .s3 (.local 0))
        ⟨.start (.init 0 (.none _ _) (.none _ _) (.none _ _)),
          .start (.init 1 (.none _ _) (.none _ _) (.none _ _)) (.local 0) 0⟩ uselessPacket =
        some s ∧
      s.primary.running = false ∧
      RelayPrimary.idleLoop.silence 0 (.start (.init 0 (.none _ _) (.none _ _) (.none _ _)))
        (uselessPacket.filterMap RelaySystemEvent.primary?) = 15 * 1000000 := by
  have heval : (run (relaySystemStep .s3 (.local 0))
      ⟨.start (.init 0 (.none _ _) (.none _ _) (.none _ _)),
        .start (.init 1 (.none _ _) (.none _ _) (.none _ _)) (.local 0) 0⟩ uselessPacket).map
      (fun s => s.primary.running) = some false := by decide +kernel
  obtain ⟨s, hrun, hstopped⟩ := Option.map_eq_some_iff.1 heval
  obtain ⟨hprimary, -⟩ := timed_of_run .s3 _ _ _ _ 0 uselessPacket s hrun
  rw [hstopped, if_neg Bool.false_ne_true, add_zero] at hprimary
  exact ⟨s, hrun, hstopped, hprimary⟩

end RelaySystem
