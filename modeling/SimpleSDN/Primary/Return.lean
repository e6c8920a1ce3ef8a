import SimpleSDN.Primary.Idle
import SimpleSDN.Primary.Reliable

/-!
# What is left when a primary router's loop returns

A loop of the primary router returns only with an empty queue of timers. The numbers
that are waited for are those of the timers, so a loop that returns waits for nothing:
every control message has been acknowledged (`settled_of_return`). Until then it goes on.
-/

/-- What arrives on the socket gives rise to no message that a timer resends. -/
theorem Primary.fromSocket_created (c : Config) (s : Primary) (st : Stack) (buffer : Packet)
    (iPort : ℤ) : (s.fromSocket c st buffer iPort).created = s.created := by
  cases fromSocket_outcome c s st buffer iPort with
  | forward _ hquiet _ => exact hquiet.created
  | octane s₀ _ hquiet _ heq =>
      have hchannel := channel_octaneFromSocket c s₀ buffer.octane
      rw [← heq, hquiet.channel] at hchannel
      refine (congrArg Channel.created hchannel).trans ?_
      split_ifs <;> rfl

namespace Loop

variable {c : Config} {s s' : Loop} {it : Iteration}

/-- With a timer in the queue, `NextTimerTime` does not return the value that stands for
no timer. -/
def Seen (s : Loop) (it : Iteration) : Prop :=
  s.primary.timersManager.eq ≠ [] →
    s.primary.timersManager.nextTimerTime it.next ≠ ⟨Timers.maxValue, 0⟩

instance (s : Loop) (it : Iteration) : Decidable (s.Seen it) :=
  inferInstanceAs (Decidable (_ → _))

instance (C C' : Channel) : Decidable (Channel.Fresh C C') :=
  inferInstanceAs (Decidable (∀ t ∈ Channel.newMessages C C', t.iSeq ∉ C.unAckBuffer))

theorem running_of_react {remaining : Timeval} {tunnel : Option TunnelInput}
    {socket : Option SocketInput} (h : s.react c remaining tunnel socket = some s') :
    s'.running = s.running := by
  obtain ⟨s₁, s₂, htunnel, hsocket, rfl⟩ := react_cases h
  have h₁ : s₁.running = s.running := by
    rcases htunnel with ⟨-, rfl⟩ | ⟨input, primary, -, -, rfl⟩
    · rfl
    · rfl
  rcases hsocket with ⟨-, rfl⟩ | ⟨input, -, rfl⟩
  · exact h₁
  · exact h₁

/-- An iteration in which the loop returns has found the queue empty. -/
theorem eq_nil_of_return (h : iterate c s it = some s') (hseen : s.Seen it)
    (hstop : s'.running = false) : s'.primary.timersManager.eq = [] := by
  obtain ⟨hrunning, s₁, htop, hselect⟩ := iterate_cases h
  obtain ⟨hrunning₁, hqueue⟩ := pending_of_executeTop htop
  have hgoes : s₁.running = true := hrunning₁.trans hrunning
  cases hsel : it.selected with
  | ready remaining tunnel socket =>
      rw [hsel] at hselect
      rw [running_of_react hselect, hgoes] at hstop
      exact absurd hstop (by decide)
  | expired back first next turns =>
      rw [hsel] at hselect
      rcases expired_cases hselect with ⟨-, s₂, s₃, hone, hturns, rfl⟩ | ⟨hevent, rfl⟩
      · obtain ⟨-, hpending, hrunning₂⟩ := pending_of_execute hone
        obtain ⟨-, hrunning₃⟩ := pending_of_executeExpired hturns hpending
        have hgoes₃ : s₃.running = true := hrunning₃.trans (hrunning₂.trans hgoes)
        exact absurd (hgoes₃.symm.trans hstop) (by decide)
      · rcases hqueue with ⟨hpending, -⟩ | ⟨hnil, rfl⟩
        · exact absurd (hseen hpending) (of_decide_eq_false hevent)
        · exact hnil

/-- Calls of `ExecuteNextTimer` make no message and acknowledge none. -/
structure OnlyTimers (s s' : Loop) : Prop where
  reliable : s.primary.channel.Reliable → s'.primary.channel.Reliable
  created : s'.primary.created = s.primary.created
  unAckBuffer : s'.primary.router.unAckBuffer = s.primary.router.unAckBuffer

theorem OnlyTimers.refl (s : Loop) : OnlyTimers s s := ⟨id, rfl, rfl⟩

theorem OnlyTimers.trans {s'' : Loop} (h : OnlyTimers s s') (h' : OnlyTimers s' s'') :
    OnlyTimers s s'' where
  reliable hs := h'.reliable (h.reliable hs)
  created := h'.created.trans h.created
  unAckBuffer := h'.unAckBuffer.trans h.unAckBuffer

theorem onlyTimers_of_execute {tick : Tick} (h : s.execute tick = some s') :
    OnlyTimers s s' := by
  obtain ⟨e, rest, primary, -, hprimary, rfl⟩ := execute_cases h
  obtain ⟨⟨T, cb⟩, hT, rfl⟩ := Option.map_eq_some_iff.1 hprimary
  exact ⟨fun hs => hs.expire hT, rfl, rfl⟩

theorem onlyTimers_of_executeExpired {next : Timeval} {turns : List (Tick × Timeval)}
    (h : s.executeExpired next turns = some s') : OnlyTimers s s' := by
  induction turns generalizing s next with
  | nil =>
      obtain ⟨-, rfl⟩ := executeExpired_nil_iff.1 h
      exact .refl _
  | cons turn turns ih =>
      obtain ⟨-, s₁, hone, hmore⟩ := executeExpired_cons_iff.1 h
      exact (onlyTimers_of_execute hone).trans (ih hmore)

theorem onlyTimers_of_executeTop (h : s.executeTop it = some s') : OnlyTimers s s' := by
  rcases executeTop_cases h with ⟨-, hone⟩ | ⟨-, rfl⟩
  · exact onlyTimers_of_execute hone
  · exact .refl _

/-- The reactions of an iteration: only the packet from the tunnel makes messages. -/
theorem reliable_of_react {remaining : Timeval} {tunnel : Option TunnelInput}
    {socket : Option SocketInput} (h : s.react c remaining tunnel socket = some s')
    (hs : s.primary.channel.Reliable)
    (hfresh : Channel.Fresh s.primary.channel s'.primary.channel) :
    s'.primary.channel.Reliable := by
  obtain ⟨s₁, s₂, htunnel, hsocket, rfl⟩ := react_cases h
  have hcreated : s₂.primary.created = s₁.primary.created := by
    rcases hsocket with ⟨-, rfl⟩ | ⟨input, -, rfl⟩
    · rfl
    · exact Primary.fromSocket_created c s₁.primary input.st input.buffer input.iPort
  have h₁ : s₁.primary.channel.Reliable := by
    rcases htunnel with ⟨-, rfl⟩ | ⟨input, primary, -, hprimary, rfl⟩
    · exact hs
    · refine hs.step (primStep_channel hprimary) fun t ht => hfresh t ?_
      unfold Channel.newMessages at ht ⊢
      rwa [show s₂.primary.channel.created = primary.channel.created from hcreated]
  rcases hsocket with ⟨-, rfl⟩ | ⟨input, -, rfl⟩
  · exact h₁
  · have hstep : primStep c s₁.primary (.socket input.st input.buffer input.iPort) =
        some (s₁.primary.fromSocket c input.st input.buffer input.iPort) := rfl
    exact h₁.step (primStep_channel hstep) (Channel.fresh_of_created_eq hcreated)

/-- An iteration that reuses no number keeps the channel reliable. -/
theorem reliable_of_iterate (h : iterate c s it = some s') (hs : s.primary.channel.Reliable)
    (hfresh : Channel.Fresh s.primary.channel s'.primary.channel) :
    s'.primary.channel.Reliable := by
  obtain ⟨-, s₁, htop, hselect⟩ := iterate_cases h
  have htimers := onlyTimers_of_executeTop htop
  cases hsel : it.selected with
  | ready remaining tunnel socket =>
      rw [hsel] at hselect
      refine reliable_of_react hselect (htimers.reliable hs) fun t ht => ?_
      have hunack : s₁.primary.channel.unAckBuffer = s.primary.channel.unAckBuffer :=
        htimers.unAckBuffer
      rw [hunack]
      refine hfresh t ?_
      unfold Channel.newMessages at ht ⊢
      rwa [show s₁.primary.channel.created = s.primary.channel.created from htimers.created] at ht
  | expired back first next turns =>
      rw [hsel] at hselect
      rcases expired_cases hselect with ⟨-, s₂, s₃, hone, hturns, rfl⟩ | ⟨-, rfl⟩
      · exact ((htimers.trans (onlyTimers_of_execute hone)).trans
          (onlyTimers_of_executeExpired hturns)).reliable hs
      · exact htimers.reliable hs

/-- A loop that has returned has an empty queue. -/
theorem eq_nil_of_run {its : List Iteration}
    (hseen : Along (iterate c) (fun s it _ => s.Seen it) s its)
    (hrun : run (iterate c) s its = some s') (hs : s.running = true)
    (hstop : s'.running = false) : s'.primary.timersManager.eq = [] := by
  have hnil : s'.running = false → s'.primary.timersManager.eq = [] := by
    refine run_invariant (I := fun s => s.running = false → s.primary.timersManager.eq = []) ?_
      (fun h => absurd (hs.symm.trans h) (by decide)) hseen hrun
    exact fun s it s' _ hstep hseen => eq_nil_of_return hstep hseen
  exact hnil hstop

/-- In every run of a loop of any stage in which no number is reused while it is waited
for, the loop returns only when nothing is waited for and no timer is left. -/
theorem settled_of_return (c : Config) (router : CRouter) (auth authRev : OctaneControl)
    (hempty : router.unAckBuffer = ∅) (its : List Iteration)
    (hfresh : Along (iterate c)
      (fun s _ s' => Channel.Fresh s.primary.channel s'.primary.channel)
      (start (.start router auth authRev)) its)
    (hseen : Along (iterate c) (fun s it _ => s.Seen it) (start (.start router auth authRev)) its)
    (t : Loop) (hrun : run (iterate c) (start (.start router auth authRev)) its = some t)
    (hstop : t.running = false) :
    t.primary.router.unAckBuffer = ∅ ∧ t.primary.timersManager.eq = [] := by
  have hstart : (start (.start router auth authRev)).primary.channel.Reliable := by
    change Channel.Reliable ⟨router.unAckBuffer, .init, [], router.iSeqnoCnt⟩
    rw [hempty]
    exact Channel.reliable_empty _
  have hreliable : t.primary.channel.Reliable :=
    run_invariant (I := fun s => s.primary.channel.Reliable)
      (fun s it s' hs hstep hfresh => reliable_of_iterate hstep hs hfresh) hstart hfresh hrun
  have hnil := eq_nil_of_run hseen hrun rfl hstop
  exact ⟨hreliable.unAckBuffer_eq_empty hnil, hnil⟩

/-- The loop has returned after the acknowledgements of an HTTP flow, and nothing is waited
for. -/
theorem settled_of_return_http : ∃ t,
    run (iterate timerConfig) (start sampleStart)
        (acknowledgedFlow ++ [nothingUntil ⟨3, 0⟩ ⟨18, 0⟩]) = some t ∧
      t.primary.router.unAckBuffer = ∅ ∧ t.primary.timersManager.eq = [] := by
  have hstopped : (run (iterate timerConfig) (start sampleStart)
      (acknowledgedFlow ++ [nothingUntil ⟨3, 0⟩ ⟨18, 0⟩])).map Loop.running = some false := by
    decide
  obtain ⟨t, ht, hstop⟩ := Option.map_eq_some_iff.1 hstopped
  exact ⟨t, ht, settled_of_return timerConfig _ _ _ rfl _ (by decide) (by decide) t ht hstop⟩

end Loop
