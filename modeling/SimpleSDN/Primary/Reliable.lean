import SimpleSDN.Primary.RuleBeforeData

/-!
# Runs of the reliable control channel

Every reaction of the primary router is a step of its control channel, so the
handles it waits for and its live timers stay in step along a run, in every
stage and for every order of new flows, acknowledgements and expiries.
-/

namespace Primary

/-- No new message of the run takes a number that is still waited for. -/
def FreshRun (c : Config) (s : Primary) (es : List PrimEvent) : Prop :=
  Along (primStep c) (fun s _ s' => Channel.Fresh s.channel s'.channel) s es

theorem reliable_run {c : Config} {s t : Primary} {es : List PrimEvent}
    (hs : s.channel.Reliable) (hfresh : FreshRun c s es)
    (hrun : run (primStep c) s es = some t) : t.channel.Reliable := by
  refine run_invariant (I := fun s => s.channel.Reliable) ?_ hs hfresh hrun
  intro s e s' hs hstep hfresh
  exact hs.step (primStep_channel hstep) hfresh

/-! ### What has been created has been sent -/

/-- The messages of a reaction: each has been sent under its own number. -/
theorem primStep_created {c : Config} {s s' : Primary} {e : PrimEvent}
    (h : primStep c s e = some s') :
    ∃ ts, s'.created = ts ++ s.created ∧
      ∀ m ∈ ts, m.iSeq = m.iOctaneMsg.octaneSeqno.toNat ∧ m.expire ∈ s'.sent := by
  have hsame : s'.created = s.created → ∃ ts, s'.created = ts ++ s.created ∧
      ∀ m ∈ ts, m.iSeq = m.iOctaneMsg.octaneSeqno.toNat ∧ m.expire ∈ s'.sent :=
    fun hcreated => ⟨[], hcreated, by simp⟩
  cases e with
  | tunnel st buffer clock =>
      rcases quiet_or_newFlow h with ⟨hquiet, -⟩ | ⟨addr, ts, hnew⟩
      · exact hsame hquiet.created
      · refine ⟨ts.reverse, Channel.created_of_transmit hnew.channel, fun m hm => ?_⟩
        have hm := List.mem_reverse.1 hm
        refine ⟨hnew.numbered.iSeq_eq m hm, ?_⟩
        rw [hnew.sent]
        exact List.mem_append_left _ (List.mem_append_right _ (List.mem_map_of_mem hm))
  | socket st buffer iPort =>
      obtain rfl := Option.some.inj h
      cases fromSocket_outcome c s st buffer iPort with
      | forward _ hquiet _ => exact hsame hquiet.created
      | octane s₀ _ hquiet _ heq =>
          refine hsame ?_
          rw [heq]
          have hchannel := congrArg Channel.created (channel_octaneFromSocket c s₀ buffer.octane)
          refine Eq.trans hchannel ?_
          rw [← hquiet.created]
          split_ifs <;> rfl
  | expire now =>
      obtain ⟨⟨T, t⟩, hexec, rfl⟩ := Option.map_eq_some_iff.1 h
      exact hsame rfl

/-- What has been sent stays sent. -/
theorem primStep_sent {c : Config} {s s' : Primary} {e : PrimEvent}
    (h : primStep c s e = some s') : s.sent <+: s'.sent := by
  cases e with
  | tunnel st buffer clock =>
      rcases quiet_or_newFlow h with ⟨-, hsent | ⟨addr, hsent⟩⟩ | ⟨addr, ts, hnew⟩
      · exact hsent ▸ List.prefix_refl _
      · exact ⟨_, hsent.symm⟩
      · exact ⟨_, (hnew.sent.trans (List.append_assoc _ _ _)).symm⟩
  | socket st buffer iPort =>
      obtain rfl := Option.some.inj h
      cases fromSocket_outcome c s st buffer iPort with
      | forward _ _ hsent =>
          rcases hsent with hsent | hsent
          · exact hsent ▸ List.prefix_refl _
          · exact ⟨_, hsent.symm⟩
      | octane s₀ _ _ hsent heq =>
          rw [heq, ← hsent]
          exact sent_octaneFromSocket c s₀ buffer.octane
  | expire now =>
      obtain ⟨⟨T, t⟩, hexec, rfl⟩ := Option.map_eq_some_iff.1 h
      exact List.prefix_append _ _

/-- Every created message carries the number under which it waits and has been
sent. -/
def CreatedSent (s : Primary) : Prop :=
  ∀ m ∈ s.created, m.iSeq = m.iOctaneMsg.octaneSeqno.toNat ∧ m.expire ∈ s.sent

theorem CreatedSent.step {c : Config} {s s' : Primary} {e : PrimEvent} (hs : CreatedSent s)
    (h : primStep c s e = some s') : CreatedSent s' := by
  obtain ⟨ts, hcreated, hts⟩ := primStep_created h
  intro m hm
  rw [hcreated] at hm
  rcases List.mem_append.1 hm with hm | hm
  · exact hts m hm
  · exact ⟨(hs m hm).1, (primStep_sent h).subset (hs m hm).2⟩

theorem createdSent_run {c : Config} {s t : Primary} {es : List PrimEvent}
    (hs : CreatedSent s) (hrun : run (primStep c) s es = some t) : CreatedSent t :=
  run_invariant (Q := fun _ _ _ => True) (fun _ _ _ hs h _ => hs.step h) hs
    (Along.of_forall fun _ _ _ _ => trivial) hrun

/-! ### The invariant -/

/-- The reliable control channel: the stored handles are pairwise distinct and
are those of the live timers, and the timer under `n` resends, unchanged, the
message created with number `n`, to the router it was sent to. -/
structure ReliableControl (s : Primary) : Prop where
  distinct : ∀ n n' h : ℤ, s.router.unAckBuffer[n]? = some h →
    s.router.unAckBuffer[n']? = some h → n = n'
  nodup : s.timersManager.handles.Nodup
  live : ∀ h, h ∈ s.timersManager.handles ↔ ∃ n : ℤ, s.router.unAckBuffer[n]? = some h
  timer : ∀ n h : ℤ, s.router.unAckBuffer[n]? = some h →
    ∃ m, s.created.find? (fun u => u.iSeq = n) = some m ∧
      n = m.iOctaneMsg.octaneSeqno.toNat ∧ .control m.rou2Addr m.iOctaneMsg ∈ s.sent ∧
        ∀ m', (h, m') ∈ s.timersManager.entries ↔ m' = m
  resend : ∀ now s', s.executeNextTimer now = some s' →
    ∃ (n h : ℤ) (m : OctaneTimer), s.router.unAckBuffer[n]? = some h ∧
      s.created.find? (fun u => u.iSeq = n) = some m ∧
        s'.sent = s.sent ++ [.control m.rou2Addr m.iOctaneMsg]

theorem reliableControl_of_reliable {s : Primary} (hs : s.channel.Reliable)
    (hcreated : CreatedSent s) : ReliableControl s where
  distinct _ _ _ hn hn' := hs.distinct hn hn'
  nodup := hs.nodup
  live h := hs.mem_handles_iff h
  timer n h hn := by
    obtain ⟨m, hm, rfl⟩ := (hs.live n h).1 hn
    have hfind : s.created.find? (fun u => u.iSeq = m.iSeq) = some m := hs.resends h m hm
    obtain ⟨hseq, hsent⟩ := hcreated m (List.mem_of_find?_eq_some hfind)
    refine ⟨m, hfind, hseq, hsent, fun m' => ⟨fun hm' => ?_, ?_⟩⟩
    · exact Timers.eq_of_mem_entries hs.nodup hm' hm
    · rintro rfl
      exact hm
  resend now s' h := by
    obtain ⟨⟨T, m⟩, hexec, rfl⟩ := Option.map_eq_some_iff.1 h
    obtain ⟨-, -, hdl, hm⟩ := Timers.of_executeNextTimer hexec
    exact ⟨m.iSeq, hdl, m, (hs.live _ _).2 ⟨m, hm, rfl⟩, hs.resends hdl m hm, rfl⟩

/-- Along every run that does not reuse a number that is waited for, the control
channel is reliable. A loop starts without timers, and it ends only without
timers, so with nothing waited for (`Channel.Reliable.unAckBuffer_eq_empty`). -/
theorem reliableControl_of_run (c : Config) (router : CRouter) (auth authRev : OctaneControl)
    (es : List PrimEvent) (t : Primary) (hempty : router.unAckBuffer = ∅)
    (hfresh : FreshRun c (start router auth authRev) es)
    (hrun : run (primStep c) (start router auth authRev) es = some t) :
    ReliableControl t := by
  have hstart : (start router auth authRev).channel.Reliable := by
    change Channel.Reliable ⟨router.unAckBuffer, .init, [], router.iSeqnoCnt⟩
    rw [hempty]
    exact Channel.reliable_empty _
  have hcreated : CreatedSent (start router auth authRev) := by
    simp [CreatedSent, start]
  exact reliableControl_of_reliable (reliable_run hstart hfresh hrun)
    (createdSent_run hcreated hrun)

/-- An HTTP flow in stage 6, and the expiry of its first timer. -/
theorem reliableControl_http_flow :
    ∃ t, run (primStep ⟨.s6, .local 0x2300, 0x2300, 0x2400, 0⟩) sampleStart
        [.tunnel default (samplePacket 0x5000) (fun _ => ⟨0, 0⟩), .expire ⟨2, 0⟩] = some t ∧
      ReliableControl t := by
  obtain ⟨t, ht⟩ := Option.isSome_iff_exists.1 (show (run
      (primStep ⟨.s6, .local 0x2300, 0x2300, 0x2400, 0⟩) sampleStart
      [.tunnel default (samplePacket 0x5000) (fun _ => ⟨0, 0⟩),
        .expire ⟨2, 0⟩]).isSome = true by rfl)
  refine ⟨t, ht, reliableControl_of_run _ _ _ _ _ t rfl ?_ ht⟩
  intro s₁ h₁
  refine ⟨fun m _ => Std.ExtTreeMap.not_mem_empty, fun s₂ h₂ => ⟨?_, trivial⟩⟩
  obtain ⟨⟨T, m⟩, -, rfl⟩ := Option.map_eq_some_iff.1 h₂
  exact Channel.fresh_of_created_eq rfl

end Primary
