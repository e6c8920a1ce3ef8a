import SimpleSDN.Primary.Return
import SimpleSDN.System.Installed

/-!
# When the primary router is done

In stages 6, 7 and 10, when all flows are TCP, every message that the primary router has
made waits for its acknowledgement or is installed at the secondary router it was sent to
(`System.settled_of_run`). A loop that returns waits for nothing, so the rules of all flows
are installed then (`System.installed_of_return`).
-/

namespace Channel

variable {C C' : Channel}

theorem created_of_step (hstep : Step C C') : C'.created = newMessages C C' ++ C.created := by
  have hsame : C'.created = C.created → C'.created = newMessages C C' ++ C.created := fun h => by
    rw [newMessages_of_created_eq h, h, List.nil_append]
  cases hstep with
  | idle | acknowledge | expire => exact hsame rfl
  | transmit clock ts hts hlen htransmit =>
      have hcreated := created_of_transmit htransmit
      rw [newMessages_of_append hcreated, hcreated]

/-- A new message is registered. -/
theorem Reliable.registered_of_new (hC : C.Reliable) (hstep : Step C C') (hfresh : Fresh C C')
    {t : OctaneTimer} (ht : t ∈ newMessages C C') : Registered C' t.iSeq t := by
  refine (hC.step hstep hfresh).registered_iff.2 ⟨rfl, ?_⟩
  have hold : ¬ C'.created = C.created := fun h => by
    rw [newMessages_of_created_eq h] at ht
    exact absurd ht List.not_mem_nil
  cases hstep with
  | idle | acknowledge | expire => exact absurd rfl hold
  | transmit clock ts hts hlen htransmit =>
      rw [newMessages_of_append (created_of_transmit htransmit), List.mem_reverse] at ht
      obtain ⟨⟨T, hs⟩, hadd, rfl⟩ := Option.map_eq_some_iff.1 htransmit
      obtain ⟨hhs, -, hperm⟩ := Timers.of_addTimers hadd
      have hlength : ts.length ≤ hs.length := by simp [hhs]
      have hsnd : t ∈ (hs.zip ts).map Prod.snd := by rwa [List.map_snd_zip hlength]
      obtain ⟨⟨hdl, t'⟩, hmem, rfl⟩ := List.mem_map.1 hsnd
      exact ⟨hdl, hperm.mem_iff.2 (List.mem_append_left _ hmem)⟩

end Channel

namespace System

variable {c : Config} {sys sys' : System}

/-- The message is installed at the secondary router it was sent to. -/
def Delivered (c : Config) (sys : System) (t : OctaneTimer) : Prop :=
  ∃ i, t.rou2Addr = .local (c.secondPort i) ∧ (sys.secondary i).Installed t.iOctaneMsg

/-- Every message that has been made waits or is delivered. -/
def Settled (c : Config) (sys : System) : Prop :=
  ∀ t ∈ sys.primary.created,
    Channel.Registered sys.primary.channel t.iSeq t ∨ Delivered c sys t

/-- A message that is no longer waited for has been acknowledged, and it is delivered. -/
theorem Coupled.delivered_of_erased (h : Coupled c sys) {e : SysEvent} (he : e.Tcp)
    (hstep : sysStep c sys e = some sys') {t : OctaneTimer}
    (ht : Channel.Registered sys.primary.channel t.iSeq t)
    (ht' : ¬ Channel.Registered sys'.primary.channel t.iSeq t)
    (hreliable : sys'.primary.channel.Reliable) : Delivered c sys t := by
  obtain ⟨-, hdl, hmem⟩ := h.reliable.registered_iff.1 ht
  have hgone : (hdl, t) ∉ sys'.primary.channel.timersManager.entries := fun hmem' =>
    ht' (hreliable.registered_iff.2 ⟨rfl, hdl, hmem'⟩)
  rcases kept_or_acknowledged hstep with hkept | ⟨msg, hmsg, -, hchannel⟩
  · exact absurd (hkept.timer _ hmem) hgone
  · rw [hchannel] at hgone
    exact h.acked msg (mem_acks_of_received he hstep hmsg) t
      (h.reliable.registered_of_acknowledge hmem hgone)

/-- The control channel makes a step of its own, or none. -/
theorem channel_of_step {e : SysEvent} (hstep : sysStep c sys e = some sys') :
    Channel.Step sys.primary.channel sys'.primary.channel := by
  have hreact : ∀ {sys₀ : System} {e'}, sys₀.react c e' = some sys' →
      sys₀.primary = sys.primary → Channel.Step sys.primary.channel sys'.primary.channel := by
    rintro sys₀ e' hreact hsame
    obtain ⟨primary, hprim, rfl⟩ := Option.map_eq_some_iff.1 hreact
    exact hsame ▸ primStep_channel hprim
  cases e with
  | tunnel st buffer clock => exact hreact hstep rfl
  | expire now => exact hreact hstep rfl
  | packet st buffer iPort | portal st buffer iPort | ack st buffer iPort =>
      exact hreact (Option.ite_none_right_eq_some.1 hstep).2 rfl
  | deliver i msg =>
      rw [primary_of_deliver hstep]
      exact .idle _
  | network control acks =>
      obtain rfl := Option.some.inj (Option.ite_none_right_eq_some.1 hstep).2
      exact .idle _

/-- The step lemma. -/
theorem Settled.step (hs : Settled c sys) (h : Coupled c sys) (hstage : c.stage.byPort = true)
    (hports : c.secondRouter1Port ≠ c.secondRouter2Port) {e : SysEvent} (he : e.Tcp)
    (hstep : sysStep c sys e = some sys') (hunused : Unused sys e sys') : Settled c sys' := by
  obtain ⟨-, hkeeps⟩ := h.step hstage hports he hstep hunused
  have hchannel := channel_of_step hstep
  have hcreated : sys'.primary.created =
      Channel.newMessages sys.primary.channel sys'.primary.channel ++ sys.primary.created :=
    Channel.created_of_step hchannel
  have hfresh : Channel.Fresh sys.primary.channel sys'.primary.channel :=
    fun t ht => (hunused t ht).1
  have hreliable := h.reliable.step hchannel hfresh
  have hstays : ∀ t ∈ sys.primary.created, Delivered c sys t → Delivered c sys' t := by
    rintro t ht ⟨i, haddr, hinst⟩
    exact ⟨i, haddr, hkeeps.installed i _ ⟨t, ht, haddr, rfl⟩ hinst⟩
  intro t ht
  rw [hcreated] at ht
  rcases List.mem_append.1 ht with hnew | hold
  · exact Or.inl (h.reliable.registered_of_new hchannel hfresh hnew)
  · by_cases hreg : Channel.Registered sys'.primary.channel t.iSeq t
    · exact Or.inl hreg
    · refine Or.inr (hstays t hold ?_)
      rcases hs t hold with hwait | hdelivered
      · exact h.delivered_of_erased he hstep hwait hreg hreliable
      · exact hdelivered

/-- The run lemma. -/
theorem coupled_and_settled (hstage : c.stage.byPort = true)
    (hports : c.secondRouter1Port ≠ c.secondRouter2Port) {router : CRouter}
    {auth authRev : OctaneControl} (hempty : router.unAckBuffer = ∅)
    (htable : router.rouFlowTable.entries = []) {secondary : Fin 3 → CRouter}
    (hsecondary : ∀ i, (secondary i).rouFlowTable.entries =
      [(FlowTable.defaultEntry, ⟨0xFFFF, 3⟩)] ∧ (secondary i).droppedMsg.entries = [])
    {es : List SysEvent} (htcp : ∀ e ∈ es, e.Tcp)
    (hunused : Along (sysStep c) Unused (start (.start router auth authRev) secondary) es)
    (hrun : run (sysStep c) (start (.start router auth authRev) secondary) es = some sys) :
    Coupled c sys ∧ Settled c sys := by
  have hstart : Settled c (start (.start router auth authRev) secondary) :=
    fun t ht => absurd ht List.not_mem_nil
  refine run_invariant (I := fun sys => Coupled c sys ∧ Settled c sys) ?_
    ⟨coupled_start hempty htable hsecondary, hstart⟩
    (hunused.and (Along.of_mem (P := SysEvent.Tcp) htcp)) hrun
  rintro sys e sys' ⟨hcoupled, hsettled⟩ hstep ⟨hunused, he⟩
  exact ⟨(hcoupled.step hstage hports he hstep hunused).1,
    hsettled.step hcoupled hstage hports he hstep hunused⟩

/-- In every run of stage 6, 7 or 10 in which the flows are TCP and no new message takes a
number that is waited for or in flight, in every state, every message that has been made
is waited for under its number or installed at the secondary router it was sent to. -/
theorem settled_of_run (c : Config) (hstage : c.stage.byPort = true)
    (hports : c.secondRouter1Port ≠ c.secondRouter2Port) (router : CRouter)
    (auth authRev : OctaneControl) (hempty : router.unAckBuffer = ∅)
    (htable : router.rouFlowTable.entries = []) (secondary : Fin 3 → CRouter)
    (hsecondary : ∀ i, (secondary i).rouFlowTable.entries =
      [(FlowTable.defaultEntry, ⟨0xFFFF, 3⟩)] ∧ (secondary i).droppedMsg.entries = [])
    (es : List SysEvent) (htcp : ∀ e ∈ es, e.Tcp)
    (hunused : Along (sysStep c) Unused (start (.start router auth authRev) secondary) es)
    (sys : System)
    (hrun : run (sysStep c) (start (.start router auth authRev) secondary) es = some sys) :
    Settled c sys :=
  (coupled_and_settled hstage hports hempty htable hsecondary htcp hunused hrun).2

/-- When the loop of the primary router returns, the message of every rule that it has made
is installed at the secondary router it was sent to. The router of the loop is that of the
system: the iterations of the loop are its reactions there. -/
theorem installed_of_return (c : Config) (hstage : c.stage.byPort = true)
    (hports : c.secondRouter1Port ≠ c.secondRouter2Port) (router : CRouter)
    (auth authRev : OctaneControl) (hempty : router.unAckBuffer = ∅)
    (htable : router.rouFlowTable.entries = []) (secondary : Fin 3 → CRouter)
    (hsecondary : ∀ i, (secondary i).rouFlowTable.entries =
      [(FlowTable.defaultEntry, ⟨0xFFFF, 3⟩)] ∧ (secondary i).droppedMsg.entries = [])
    (es : List SysEvent) (htcp : ∀ e ∈ es, e.Tcp)
    (hunused : Along (sysStep c) Unused (start (.start router auth authRev) secondary) es)
    (sys : System)
    (hrun : run (sysStep c) (start (.start router auth authRev) secondary) es = some sys)
    (its : List Iteration)
    (hseen : Along (iterate c) (fun s it _ => s.Seen it)
      (.start (.start router auth authRev)) its)
    (loop : Loop) (hloop : run (iterate c) (.start (.start router auth authRev)) its = some loop)
    (hsame : loop.primary = sys.primary) (hstop : loop.running = false) :
    ∀ t ∈ sys.primary.created, Delivered c sys t := by
  obtain ⟨hcoupled, hsettled⟩ :=
    coupled_and_settled hstage hports hempty htable hsecondary htcp hunused hrun
  have hnil : sys.primary.timersManager.eq = [] := by
    rw [← hsame]
    exact Loop.eq_nil_of_run hseen hloop rfl hstop
  have hnone : sys.primary.channel.unAckBuffer = ∅ := hcoupled.reliable.unAckBuffer_eq_empty hnil
  intro t ht
  refine (hsettled t ht).resolve_left ?_
  rintro ⟨hdl, hwait, -⟩
  rw [hnone] at hwait
  exact absurd hwait (by simp)

/-! ### A flow -/

/-- The messages for an HTTP flow in stage 6. -/
def httpMsg : OctaneControl := ⟨1, 0, 1, 0x0A00A8C0, 0x0133050A, 0x1027, 0x5000, 6, 0⟩

def httpMsgRev : OctaneControl := ⟨1, 0, 2, 0x0133050A, 0x0A00A8C0, 0x5000, 0x1027, 6, 4000⟩

/-- Both messages are delivered and acknowledged. -/
def settledEvents : List SysEvent :=
  [.tunnel default (samplePacket 0x5000) fun _ => ⟨1, 0⟩,
    .deliver firstSecondary httpMsg, .deliver firstSecondary httpMsgRev,
    .ack default (samplePacketOf (octaneReplyEdit httpMsg)) 0,
    .ack default (samplePacketOf (octaneReplyEdit httpMsgRev)) 0]

/-- The iterations of the primary router's loop in the same time, until it returns. -/
def settledIterations : List Iteration :=
  [Loop.readyAt ⟨0, 0⟩ ⟨14, 0⟩ (some (Loop.httpAt ⟨1, 0⟩)) none,
    Loop.readyAt ⟨1, 0⟩ ⟨1, 0⟩ none
      (some ⟨default, samplePacketOf (octaneReplyEdit httpMsg), 0⟩),
    Loop.readyAt ⟨2, 0⟩ ⟨0, 500000⟩ none
      (some ⟨default, samplePacketOf (octaneReplyEdit httpMsgRev), 0⟩),
    Loop.nothingUntil ⟨3, 0⟩ ⟨18, 0⟩]

theorem tcp_settledEvents : ∀ e ∈ settledEvents, e.Tcp := by
  intro e he
  simp only [settledEvents, List.mem_cons, List.not_mem_nil, or_false] at he
  rcases he with rfl | rfl | rfl | rfl | rfl
  · intro p hp
    obtain rfl := Option.some.inj hp
    exact ⟨by decide, fun _ => by decide⟩
  all_goals trivial

theorem unused_settledEvents :
    Along (sysStep Loop.timerConfig) Unused startedSystem settledEvents := by
  refine fun sys _ => ⟨fun t _ => ⟨Std.ExtTreeMap.not_mem_empty, ?_⟩, ?_⟩
  · exact fun m hm => absurd hm List.not_mem_nil
  · exact along_of_not_tunnel (fun _ _ _ => unused_of_created_eq) (by simp)

theorem isSome_run_settledEvents :
    (run (sysStep Loop.timerConfig) startedSystem settledEvents).isSome = true := by
  decide +kernel

/-- After the acknowledgements the flow is settled. -/
theorem settled_of_run_http : ∃ sys,
    run (sysStep Loop.timerConfig) startedSystem settledEvents = some sys ∧
      Settled Loop.timerConfig sys := by
  obtain ⟨sys, hsys⟩ := Option.isSome_iff_exists.1 isSome_run_settledEvents
  exact ⟨sys, hsys, settled_of_run _ rfl (by decide) _ _ _ rfl rfl _
    (fun _ => ⟨by decide, rfl⟩) _ tcp_settledEvents unused_settledEvents sys hsys⟩

/-- When the loop has returned, both rules are installed. -/
theorem installed_of_return_http : ∃ sys,
    run (sysStep Loop.timerConfig) startedSystem settledEvents = some sys ∧
      sys.primary.created ≠ [] ∧ ∀ t ∈ sys.primary.created, Delivered Loop.timerConfig sys t := by
  obtain ⟨sys, hsys⟩ := Option.isSome_iff_exists.1 isSome_run_settledEvents
  have hstopped : (run (iterate Loop.timerConfig) (.start sampleStart) settledIterations).map
      Loop.running = some false := by decide
  have hprimary : (run (iterate Loop.timerConfig) (.start sampleStart) settledIterations).map
      Loop.primary = (run (sysStep Loop.timerConfig) startedSystem settledEvents).map
        System.primary := rfl
  have hcreated : (run (sysStep Loop.timerConfig) startedSystem settledEvents).map
      (fun sys => sys.primary.created.length) = some 2 := by decide +kernel
  obtain ⟨loop, hloop, hstop⟩ := Option.map_eq_some_iff.1 hstopped
  rw [hloop, hsys, Option.map_some, Option.map_some, Option.some.injEq] at hprimary
  rw [hsys, Option.map_some, Option.some.injEq] at hcreated
  refine ⟨sys, hsys, List.ne_nil_of_length_pos (by omega), ?_⟩
  exact installed_of_return _ rfl (by decide) _ _ _ rfl rfl _ (fun _ => ⟨by decide, rfl⟩) _
    tcp_settledEvents unused_settledEvents sys hsys settledIterations (by decide) loop hloop
    hprimary hstop

end System
