import SimpleSDN.Primary.Flows
import SimpleSDN.Primary.Sequence
import SimpleSDN.Secondary.Loop
import SimpleSDN.System.Acknowledge

/-!
# Acknowledged means installed

In stages 6, 7 and 10, when all flows are TCP, a message whose number the primary
router has given up because of an acknowledgement is installed at the secondary router
it was sent to, and stays so. Acknowledgements are matched by number alone, so a new
message must not take a number that a datagram in flight carries (`Unused`). `Coupled`
is the invariant: an acknowledgement in flight under a number that is waited for means
that the message that waits is installed.
-/

/-- The message `n`: the last one that has been made under this number. -/
def Primary.message (s : Primary) (n : ℤ) : Option OctaneTimer :=
  s.created.find? fun t => t.iSeq = n

/-- The event is one of a system without a portal whose flows are TCP. -/
def SysEvent.Tcp : SysEvent → Prop
  | .tunnel st buffer clock => TcpOnly (.tunnel st buffer clock)
  | .portal _ _ _ => False
  | _ => True

namespace System

/-- A new message takes a number that no message waits for and that no datagram in flight
carries. -/
def Unused (sys : System) (_ : SysEvent) (sys' : System) : Prop :=
  ∀ t ∈ Channel.newMessages sys.primary.channel sys'.primary.channel,
    t.iSeq ∉ sys.primary.router.unAckBuffer ∧
      ∀ m ∈ sys.inFlight, (m.octaneSeqno.toNat : ℤ) ≠ t.iSeq

/-- When the step `e` of a run erases the number `n`, the message `n` is installed at the
secondary router it was sent to in every later state. -/
def AckedInstalled (c : Config) (sys : System) (es : List SysEvent) : Prop :=
  ∀ pre e post, pre ++ e :: post <+: es → ∀ sys₁ sys₂ sys₃,
    run (sysStep c) sys pre = some sys₁ → sysStep c sys₁ e = some sys₂ →
    run (sysStep c) sys₂ post = some sys₃ → ∀ n ∈ sys₁.primary.router.unAckBuffer,
    n ∉ sys₂.primary.router.unAckBuffer →
      ∃ t i, sys₁.primary.message n = some t ∧ t.rou2Addr = .local (c.secondPort i) ∧
        (sys₃.secondary i).Installed t.iOctaneMsg

/-- When a secondary router gets a message once more, its rules stay as they are. -/
def CopiesIgnored (c : Config) (sys : System) (es : List SysEvent) : Prop :=
  ∀ pre i msg mid, pre ++ .deliver i msg :: mid ++ [.deliver i msg] <+: es →
    ∀ sys₁ sys₂, run (sysStep c) sys (pre ++ .deliver i msg :: mid) = some sys₁ →
    sysStep c sys₁ (.deliver i msg) = some sys₂ →
      (sys₂.secondary i).rouFlowTable.entries = (sys₁.secondary i).rouFlowTable.entries

/-- The messages in flight and the rules of the secondary routers go together. -/
structure Coupled (c : Config) (sys : System) : Prop where
  reliable : sys.primary.channel.Reliable
  numbered : ∀ t ∈ sys.primary.created, t.iSeq = t.iOctaneMsg.octaneSeqno.toNat
  served : ∃ flows, sys.primary.Served c flows
  secondary : ∀ i, (sys.secondary i).Installing
    (sys.primary.messagesFor (.local (c.secondPort i)))
  control : ∀ x ∈ sys.control, x.2 ∈ sys.primary.messagesFor x.1
  waiting : ∀ x ∈ sys.control, ∀ t, Channel.Registered sys.primary.channel
    x.2.octaneSeqno.toNat t → x = (t.rou2Addr, t.iOctaneMsg)
  acked : ∀ a ∈ sys.acks, ∀ t, Channel.Registered sys.primary.channel a.octaneSeqno.toNat t →
    ∃ i, t.rou2Addr = .local (c.secondPort i) ∧ (sys.secondary i).Installed t.iOctaneMsg

/-- From `sys` to `sys'` no message that has been made and no rule that has been
installed is given up. -/
structure Keeps (c : Config) (sys sys' : System) : Prop where
  messages : ∀ addr, sys.primary.messagesFor addr ⊆ sys'.primary.messagesFor addr
  installed : ∀ i, ∀ m ∈ sys.primary.messagesFor (.local (c.secondPort i)),
    (sys.secondary i).Installed m → (sys'.secondary i).Installed m

variable {c : Config} {sys sys' sys'' : System}

theorem unused_of_created_eq {e : SysEvent}
    (h : sys'.primary.created = sys.primary.created) : Unused sys e sys' := by
  intro t ht
  rw [Channel.newMessages_of_created_eq h] at ht
  exact absurd ht List.not_mem_nil

theorem Keeps.refl (sys : System) : Keeps c sys sys := ⟨fun _ => subset_rfl, fun _ _ _ h => h⟩

theorem Keeps.trans (h : Keeps c sys sys') (h' : Keeps c sys' sys'') : Keeps c sys sys'' where
  messages addr := (h.messages addr).trans (h'.messages addr)
  installed i m hm hinst := h'.installed i m (h.messages _ hm) (h.installed i m hm hinst)

/-- Without a portal the control messages that arrive are acknowledgements. -/
theorem mem_acks_of_received {e : SysEvent} (he : e.Tcp) (hstep : sysStep c sys e = some sys')
    {msg : OctaneControl} (hmsg : e.received = some msg) : msg ∈ sys.acks := by
  cases e with
  | portal st buffer iPort => exact absurd he id
  | ack st buffer iPort =>
      obtain rfl := Option.some.inj hmsg
      exact (Option.ite_none_right_eq_some.1 hstep).1.2
  | _ => exact absurd hmsg (Option.some_ne_none msg).symm

theorem primary_of_deliver {i : Fin 3} {msg : OctaneControl}
    (hstep : sysStep c sys (.deliver i msg) = some sys') : sys'.primary = sys.primary := by
  obtain ⟨-, heq⟩ := Option.ite_none_right_eq_some.1 hstep
  rw [← Option.some.inj heq]
  rfl

/-- Only the router that receives the message changes. -/
theorem secondary_of_deliver {i : Fin 3} {msg : OctaneControl}
    (hstep : sysStep c sys (.deliver i msg) = some sys') (j : Fin 3) :
    sys'.secondary j =
      if j = i then ((sys.secondary i).receiveControl msg).1 else sys.secondary j := by
  obtain ⟨-, heq⟩ := Option.ite_none_right_eq_some.1 hstep
  rw [← Option.some.inj heq]
  exact Function.update_apply _ _ _ _

namespace Coupled

/-- Fewer datagrams in flight. -/
theorem of_subset (h : Coupled c sys) {control : List (SockAddr × OctaneControl)}
    {acks : List OctaneControl} (hcontrol : control ⊆ sys.control) (hacks : acks ⊆ sys.acks) :
    Coupled c { sys with control := control, acks := acks } where
  reliable := h.reliable
  numbered := h.numbered
  served := h.served
  secondary := h.secondary
  control x hx := h.control x (hcontrol hx)
  waiting x hx := h.waiting x (hcontrol hx)
  acked a ha := h.acked a (hacks ha)

/-- A message that waits under `n` is the message `n`. -/
theorem message_of_registered (h : Coupled c sys) {n : ℤ} {t : OctaneTimer}
    (ht : Channel.Registered sys.primary.channel n t) : sys.primary.message n = some t := by
  obtain ⟨rfl, hdl, htimer⟩ := h.reliable.registered_iff.1 ht
  exact h.reliable.resends hdl t htimer

/-- A reaction of the primary router: what it sends are messages that it has made, each
the last one under its number. -/
theorem react (h : Coupled c sys) (hstage : c.stage.byPort = true) {e : PrimEvent}
    (he : TcpOnly e) {ev : SysEvent} (hreact : sys.react c e = some sys')
    (hunused : Unused sys ev sys') (hcreated : sys.primary.created ⊆ sys'.primary.created)
    (hnumbered : ∀ t ∈ sys'.primary.created, t.iSeq = t.iOctaneMsg.octaneSeqno.toNat)
    (hsent : ∀ x ∈ controls (sys'.primary.sent.drop sys.primary.sent.length),
      ∃ t, x = (t.rou2Addr, t.iOctaneMsg) ∧ sys'.primary.message t.iSeq = some t) :
    Coupled c sys' ∧ Keeps c sys sys' := by
  obtain ⟨s', hstep, rfl⟩ := Option.map_eq_some_iff.1 hreact
  have hchannel := primStep_channel hstep
  have hfresh : Channel.Fresh sys.primary.channel s'.channel := fun t ht => (hunused t ht).1
  have hreliable := h.reliable.step hchannel hfresh
  obtain ⟨flows, hserved⟩ := h.served
  obtain ⟨-, flows', hextends⟩ := hserved.step hstage he hstep
  have hmessages : ∀ addr, sys.primary.messagesFor addr ⊆ s'.messagesFor addr := by
    rintro addr m ⟨t, ht, haddr, hmsg⟩
    exact ⟨t, hcreated ht, haddr, hmsg⟩
  -- a datagram that was in flight has the number of no new message
  have hold : ∀ m ∈ sys.inFlight, ∀ t, Channel.Registered s'.channel m.octaneSeqno.toNat t →
      Channel.Registered sys.primary.channel m.octaneSeqno.toNat t := by
    intro m hm t ht
    refine (h.reliable.registered_of_step hchannel hfresh ht).resolve_right fun hnew => ?_
    exact (hunused t hnew).2 m hm (hreliable.registered_iff.1 ht).1.symm
  constructor
  · constructor
    · exact hreliable
    · exact hnumbered
    · exact ⟨flows', hextends.served⟩
    · exact fun i => (h.secondary i).mono (hmessages _)
    · intro x hx
      rcases List.mem_append.1 hx with hx | hx
      · exact hmessages _ (h.control x hx)
      · obtain ⟨t, rfl, ht⟩ := hsent x hx
        exact ⟨t, List.mem_of_find?_eq_some ht, rfl, rfl⟩
    · intro x hx t ht
      rcases List.mem_append.1 hx with hx | hx
      · exact h.waiting x hx t
          (hold x.2 (List.mem_append_left _ (List.mem_map_of_mem hx)) t ht)
      · obtain ⟨u, rfl, hu⟩ := hsent x hx
        obtain ⟨hseq, hdl, htimer⟩ := hreliable.registered_iff.1 ht
        have hfind := hreliable.resends hdl t htimer
        rw [hseq, ← hnumbered u (List.mem_of_find?_eq_some hu)] at hfind
        obtain rfl : u = t := Option.some.inj (hu.symm.trans hfind)
        rfl
    · intro a ha t ht
      exact h.acked a ha t (hold a (List.mem_append_right _ ha) t ht)
  · exact ⟨hmessages, fun i m _ hinst => hinst⟩

/-- A reaction that makes no message and sends none. -/
theorem react_quiet (h : Coupled c sys) (hstage : c.stage.byPort = true) {e : PrimEvent}
    (he : TcpOnly e) (hreact : sys.react c e = some sys')
    (hcreated : sys'.primary.created = sys.primary.created)
    (hsent : controls (sys'.primary.sent.drop sys.primary.sent.length) = []) :
    Coupled c sys' ∧ Keeps c sys sys' := by
  have hunused : Unused sys (.network [] []) sys' := unused_of_created_eq hcreated
  refine h.react hstage he hreact hunused (hcreated ▸ List.Subset.refl _)
    (hcreated ▸ h.numbered) fun x hx => ?_
  rw [hsent] at hx
  exact absurd hx List.not_mem_nil

/-- A packet from the tunnel. -/
theorem tunnel (h : Coupled c sys) (hstage : c.stage.byPort = true) {st : Stack}
    {buffer : Packet} {clock : ℕ → Timeval} (he : TcpOnly (.tunnel st buffer clock))
    (hstep : sysStep c sys (.tunnel st buffer clock) = some sys')
    (hunused : Unused sys (.tunnel st buffer clock) sys') :
    Coupled c sys' ∧ Keeps c sys sys' := by
  obtain ⟨s', hprim, heq⟩ := Option.map_eq_some_iff.1 hstep
  obtain ⟨ts, xs, hmade, hxs⟩ := Primary.fromTunnel_made hprim
  have hs' : sys'.primary = s' := by rw [← heq]
  refine h.react hstage he hstep hunused ?_ ?_ ?_
  · rw [hs', hmade.created]
    exact List.subset_append_right _ _
  · intro t ht
    rw [hs', hmade.created] at ht
    rcases List.mem_append.1 ht with ht | ht
    · exact hmade.numbered.iSeq_eq t (List.mem_reverse.1 ht)
    · exact h.numbered t ht
  · rw [hs', Primary.drop_sent hmade.sent, hxs]
    intro x hx
    obtain ⟨t, ht, rfl⟩ := List.mem_map.1 hx
    have hlen := hmade.length
    refine ⟨t, rfl, ?_⟩
    rw [Primary.message, hmade.created, List.find?_append,
      hmade.numbered.find?_reverse (by omega) ht, Option.some_or]

/-- An expiry: the timer resends the message that waits. -/
theorem expire (h : Coupled c sys) (hstage : c.stage.byPort = true) {now : Timeval}
    (hstep : sysStep c sys (.expire now) = some sys') (hunused : Unused sys (.expire now) sys') :
    Coupled c sys' ∧ Keeps c sys sys' := by
  obtain ⟨s', hprim, heq⟩ := Option.map_eq_some_iff.1 hstep
  obtain ⟨⟨T, t⟩, hexec, hs'⟩ := Option.map_eq_some_iff.1 hprim
  obtain ⟨-, -, hdl, ht⟩ := Timers.of_executeNextTimer hexec
  have hprimary : sys'.primary = { sys.primary with timersManager := T }.send t.expire := by
    rw [← heq, ← hs']
  have hsent : sys'.primary.sent = sys.primary.sent ++ [t.expire] := by rw [hprimary]; rfl
  have hcreated : sys'.primary.created = sys.primary.created := by rw [hprimary]; rfl
  refine h.react hstage (tcpOnly_of_tunnelled_eq_none (e := .expire now) rfl) hstep hunused
    (hcreated ▸ List.Subset.refl _) (hcreated ▸ h.numbered) ?_
  rw [Primary.drop_sent hsent]
  intro x hx
  have hx : x = (t.rou2Addr, t.iOctaneMsg) := List.mem_singleton.1 hx
  refine ⟨t, hx, ?_⟩
  rw [Primary.message, hcreated]
  exact h.reliable.resends hdl t ht

/-- A packet that a secondary router passes on. -/
theorem packet (h : Coupled c sys) (hstage : c.stage.byPort = true) {st : Stack}
    {buffer : Packet} {iPort : ℤ} (hstep : sysStep c sys (.packet st buffer iPort) = some sys') :
    Coupled c sys' ∧ Keeps c sys sys' := by
  obtain ⟨hp, hreact⟩ := Option.ite_none_right_eq_some.1 hstep
  have hprimary := primary_of_react_socket hreact
  cases Primary.fromSocket_outcome c sys.primary st buffer iPort with
  | octane _ hp' => exact absurd hp' hp
  | forward _ hquiet hsent =>
      rw [← hprimary] at hquiet hsent
      refine h.react_quiet hstage
        (tcpOnly_of_tunnelled_eq_none (e := .socket st buffer iPort) rfl) hreact hquiet.created ?_
      rcases hsent with hsent | hsent
      · rw [Primary.drop_sent (hsent.trans (List.append_nil _).symm)]
        rfl
      · rw [Primary.drop_sent hsent]
        rfl

/-- An acknowledgement arrives. -/
theorem ack (h : Coupled c sys) (hstage : c.stage.byPort = true) {st : Stack}
    {buffer : Packet} {iPort : ℤ} (hstep : sysStep c sys (.ack st buffer iPort) = some sys') :
    Coupled c sys' ∧ Keeps c sys sys' := by
  obtain ⟨⟨hp, -⟩, hreact⟩ := Option.ite_none_right_eq_some.1 hstep
  have hprimary := primary_of_react_socket hreact
  have h9 : c.stage ≠ .s9 := by
    intro h9
    rw [h9] at hstage
    exact absurd hstage (by decide)
  obtain ⟨-, hcreated, s₀, hsent₀, hsent⟩ := sys.primary.fromSocket_octane c st iPort hp
  rw [← hprimary] at hcreated hsent
  rw [if_neg fun h5 => h9 h5.1, hsent₀, ← List.append_nil sys.primary.sent] at hsent
  have hfewer : Coupled c { sys with acks := sys.acks.erase buffer.octane } :=
    h.of_subset (List.Subset.refl _) (List.erase_subset)
  obtain ⟨hcoupled, hkeeps⟩ := hfewer.react_quiet hstage
    (tcpOnly_of_tunnelled_eq_none (e := .socket st buffer iPort) rfl) hreact hcreated
    (by rw [Primary.drop_sent hsent]; rfl)
  exact ⟨hcoupled, hkeeps.messages, hkeeps.installed⟩

/-- The message that is delivered was made for the router that receives it. -/
theorem mem_of_deliver (h : Coupled c sys) {i : Fin 3} {msg : OctaneControl}
    (hstep : sysStep c sys (.deliver i msg) = some sys') :
    msg ∈ sys.primary.messagesFor (.local (c.secondPort i)) :=
  h.control _ (Option.ite_none_right_eq_some.1 hstep).1

theorem coherent (h : Coupled c sys) (hports : c.secondRouter1Port ≠ c.secondRouter2Port)
    (addr : SockAddr) : Coherent (sys.primary.messagesFor addr) := by
  obtain ⟨flows, hserved⟩ := h.served
  exact hserved.coherent hports addr

/-- A message that is delivered is installed. -/
theorem installed_of_deliver (h : Coupled c sys)
    (hports : c.secondRouter1Port ≠ c.secondRouter2Port) {i : Fin 3} {msg : OctaneControl}
    (hstep : sysStep c sys (.deliver i msg) = some sys') : (sys'.secondary i).Installed msg := by
  rw [secondary_of_deliver hstep, if_pos rfl]
  exact (h.secondary i).installed (h.coherent hports _) (h.mem_of_deliver hstep)

/-- A message that is installed changes no rule when it is delivered. -/
theorem entries_of_deliver (h : Coupled c sys)
    (hports : c.secondRouter1Port ≠ c.secondRouter2Port) {i : Fin 3} {msg : OctaneControl}
    (hstep : sysStep c sys (.deliver i msg) = some sys')
    (hinst : (sys.secondary i).Installed msg) :
    (sys'.secondary i).rouFlowTable.entries = (sys.secondary i).rouFlowTable.entries := by
  rw [secondary_of_deliver hstep, if_pos rfl]
  exact (h.secondary i).entries_eq (h.coherent hports _) (h.mem_of_deliver hstep) hinst

/-- A secondary router receives a message: what its acknowledgement is taken for is
installed. -/
theorem deliver (h : Coupled c sys) (hports : c.secondRouter1Port ≠ c.secondRouter2Port)
    {i : Fin 3} {msg : OctaneControl} (hstep : sysStep c sys (.deliver i msg) = some sys') :
    Coupled c sys' ∧ Keeps c sys sys' := by
  have hmsg := h.mem_of_deliver hstep
  have hA := h.coherent hports (.local (c.secondPort i))
  have hprimary := primary_of_deliver hstep
  have hsecondary := secondary_of_deliver hstep
  have hkept : ∀ j, ∀ m ∈ sys.primary.messagesFor (.local (c.secondPort j)),
      (sys.secondary j).Installed m → (sys'.secondary j).Installed m := by
    intro j m hm hinst
    rw [hsecondary]
    split_ifs with hji
    · subst hji
      exact (h.secondary j).kept hA hmsg hm hinst
    · exact hinst
  obtain ⟨hmem, heq⟩ := Option.ite_none_right_eq_some.1 hstep
  have hcontrol : sys'.control ⊆ sys.control := by
    rw [← Option.some.inj heq]
    exact List.erase_subset
  refine ⟨?_, ⟨fun addr => hprimary ▸ subset_rfl, hkept⟩⟩
  constructor
  · exact hprimary ▸ h.reliable
  · exact hprimary ▸ h.numbered
  · exact hprimary ▸ h.served
  · intro j
    rw [hprimary, hsecondary]
    split_ifs with hji
    · subst hji
      exact (h.secondary j).receiveControl hA hmsg
    · exact h.secondary j
  · exact fun x hx => hprimary ▸ h.control x (hcontrol hx)
  · exact fun x hx => hprimary ▸ h.waiting x (hcontrol hx)
  · intro a ha t ht
    rw [hprimary] at ht
    have hacks : a ∈ sys.acks ∨ a = octaneReplyEdit msg := by
      rw [← Option.some.inj heq] at ha
      rcases List.mem_append.1 ha with ha | ha
      · exact Or.inl ha
      · exact Or.inr (CRouter.eq_of_mem_receiveControl ha)
    rcases hacks with ha | rfl
    · obtain ⟨j, haddr, hinst⟩ := h.acked a ha t ht
      have hcreated := List.mem_of_find?_eq_some (h.message_of_registered ht)
      exact ⟨j, haddr, hkept j _ ⟨t, hcreated, haddr, rfl⟩ hinst⟩
    · obtain ⟨haddr, hentry⟩ := Prod.mk.inj (h.waiting _ hmem t ht)
      exact ⟨i, haddr.symm, hentry ▸ h.installed_of_deliver hports hstep⟩

/-- The network loses, repeats and reorders what is in flight. -/
theorem network (h : Coupled c sys) {control : List (SockAddr × OctaneControl)}
    {acks : List OctaneControl} (hstep : sysStep c sys (.network control acks) = some sys') :
    Coupled c sys' ∧ Keeps c sys sys' := by
  obtain ⟨⟨hcontrol, hacks⟩, heq⟩ := Option.ite_none_right_eq_some.1 hstep
  obtain rfl := Option.some.inj heq
  exact ⟨h.of_subset hcontrol hacks, fun _ => subset_rfl, fun _ _ _ hinst => hinst⟩

/-- The step lemma. -/
theorem step (h : Coupled c sys) (hstage : c.stage.byPort = true)
    (hports : c.secondRouter1Port ≠ c.secondRouter2Port) {e : SysEvent} (he : e.Tcp)
    (hstep : sysStep c sys e = some sys') (hunused : Unused sys e sys') :
    Coupled c sys' ∧ Keeps c sys sys' := by
  cases e with
  | tunnel st buffer clock => exact h.tunnel hstage he hstep hunused
  | expire now => exact h.expire hstage hstep hunused
  | packet st buffer iPort => exact h.packet hstage hstep
  | portal st buffer iPort => exact absurd he id
  | ack st buffer iPort => exact h.ack hstage hstep
  | deliver i msg => exact h.deliver hports hstep
  | network control acks => exact h.network hstep

/-- The run lemma. -/
theorem keeps_of_run (h : Coupled c sys) (hstage : c.stage.byPort = true)
    (hports : c.secondRouter1Port ≠ c.secondRouter2Port) {es : List SysEvent}
    (hQ : Along (sysStep c) (fun s e s' => Unused s e s' ∧ e.Tcp) sys es)
    (hrun : run (sysStep c) sys es = some sys') : Coupled c sys' ∧ Keeps c sys sys' := by
  refine run_invariant (I := fun s => Coupled c s ∧ Keeps c sys s) ?_ ⟨h, .refl sys⟩ hQ hrun
  rintro s e s' ⟨hs, hkeeps⟩ hstep ⟨hunused, he⟩
  obtain ⟨hs', hkeeps'⟩ := hs.step hstage hports he hstep hunused
  exact ⟨hs', hkeeps.trans hkeeps'⟩

/-- What is erased is installed. -/
theorem erased (h : Coupled c sys) {e : SysEvent} (he : e.Tcp)
    (hstep : sysStep c sys e = some sys') {n : ℤ} (hn : n ∈ sys.primary.router.unAckBuffer)
    (hn' : n ∉ sys'.primary.router.unAckBuffer) :
    ∃ t i, sys.primary.message n = some t ∧ t.rou2Addr = .local (c.secondPort i) ∧
      (sys.secondary i).Installed t.iOctaneMsg := by
  rcases kept_or_acknowledged hstep with hkept | ⟨msg, hmsg, -, hchannel⟩
  · exact absurd (hkept.entry n hn) hn'
  · have hn' : n ∉ sys'.primary.channel.unAckBuffer := hn'
    rw [hchannel] at hn'
    obtain rfl := Channel.eq_of_erased hn hn'
    obtain ⟨t, ht⟩ := h.reliable.exists_registered hn
    obtain ⟨i, haddr, hinst⟩ := h.acked msg (mem_acks_of_received he hstep hmsg) t ht
    exact ⟨t, i, h.message_of_registered ht, haddr, hinst⟩

end Coupled

/-- The start of a run. -/
theorem coupled_start {router : CRouter} {auth authRev : OctaneControl}
    {secondary : Fin 3 → CRouter} (hempty : router.unAckBuffer = ∅)
    (htable : router.rouFlowTable.entries = [])
    (hsecondary : ∀ i, (secondary i).rouFlowTable.entries =
      [(FlowTable.defaultEntry, ⟨0xFFFF, 3⟩)] ∧ (secondary i).droppedMsg.entries = []) :
    Coupled c (start (.start router auth authRev) secondary) where
  reliable := by
    change Channel.Reliable ⟨router.unAckBuffer, .init, [], router.iSeqnoCnt⟩
    rw [hempty]
    exact Channel.reliable_empty _
  numbered := by simp [start, Primary.start]
  served := ⟨[], Primary.served_start htable⟩
  secondary i := CRouter.installing_of_default (hsecondary i).1 (hsecondary i).2
  control := by simp [start]
  waiting := by simp [start]
  acked := by simp [start]

/-- Along every run of the system in stage 6, 7 or 10 in which the flows are TCP and no new
message takes a number that is waited for or in flight, what has been acknowledged is
installed, and copies of a message change no rule. -/
theorem ackedInstalled_of_run (c : Config) (hstage : c.stage.byPort = true)
    (hports : c.secondRouter1Port ≠ c.secondRouter2Port) (router : CRouter)
    (auth authRev : OctaneControl) (hempty : router.unAckBuffer = ∅)
    (htable : router.rouFlowTable.entries = []) (secondary : Fin 3 → CRouter)
    (hsecondary : ∀ i, (secondary i).rouFlowTable.entries =
      [(FlowTable.defaultEntry, ⟨0xFFFF, 3⟩)] ∧ (secondary i).droppedMsg.entries = [])
    (es : List SysEvent) (htcp : ∀ e ∈ es, e.Tcp)
    (hunused : Along (sysStep c) Unused (start (.start router auth authRev) secondary) es) :
    AckedInstalled c (start (.start router auth authRev) secondary) es ∧
      CopiesIgnored c (start (.start router auth authRev) secondary) es := by
  have hstart : Coupled c (start (.start router auth authRev) secondary) :=
    coupled_start hempty htable hsecondary
  have hQ := hunused.and (Along.of_mem (P := SysEvent.Tcp) htcp)
  constructor
  · rintro pre e post ⟨rest, rfl⟩ sys₁ sys₂ sys₃ hpre hstep hpost n hn hn'
    rw [List.append_assoc] at hQ
    obtain ⟨h₁, -⟩ := hstart.keeps_of_run hstage hports hQ.left_of_append hpre
    obtain ⟨⟨hu, he⟩, hrest⟩ := hQ.of_append hpre sys₂ hstep
    obtain ⟨t, i, hmessage, haddr, hinst⟩ := h₁.erased he hstep hn hn'
    have hmem : t.iOctaneMsg ∈ sys₁.primary.messagesFor (.local (c.secondPort i)) :=
      ⟨t, List.mem_of_find?_eq_some hmessage, haddr, rfl⟩
    obtain ⟨h₂, hkeeps₂⟩ := h₁.step hstage hports he hstep hu
    obtain ⟨-, hkeeps₃⟩ := h₂.keeps_of_run hstage hports hrest.left_of_append hpost
    exact ⟨t, i, hmessage, haddr, (hkeeps₂.trans hkeeps₃).installed i _ hmem hinst⟩
  · rintro pre i msg mid ⟨rest, rfl⟩ sys₁ sys₂ hrun hstep
    rw [List.append_assoc] at hQ
    obtain ⟨u, hpre, hrest⟩ := run_append.1 hrun
    obtain ⟨v, hfirst, hmid⟩ := run_cons.1 hrest
    have hQ' := hQ.left_of_append
    have hsecond := hQ'.of_append hpre v hfirst
    obtain ⟨hu, -⟩ := hstart.keeps_of_run hstage hports hQ'.left_of_append hpre
    obtain ⟨hv, hkeeps⟩ := hu.deliver hports hfirst
    obtain ⟨hsys₁, hkeeps'⟩ := hv.keeps_of_run hstage hports hsecond.2 hmid
    have hmsg := hkeeps.messages _ (hu.mem_of_deliver hfirst)
    exact hsys₁.entries_of_deliver hports hstep
      (hkeeps'.installed i msg hmsg (hu.installed_of_deliver hports hfirst))

/-! ### Runs -/

/-- Only a packet from the tunnel gives rise to a message. -/
theorem created_eq_of_step {e : SysEvent} (he : ∀ st buffer clock, e ≠ .tunnel st buffer clock)
    (hstep : sysStep c sys e = some sys') : sys'.primary.created = sys.primary.created := by
  cases e with
  | tunnel st buffer clock => exact absurd rfl (he st buffer clock)
  | expire now =>
      obtain ⟨s', hprim, rfl⟩ := Option.map_eq_some_iff.1 hstep
      obtain ⟨⟨T, t⟩, -, rfl⟩ := Option.map_eq_some_iff.1 hprim
      rfl
  | packet st buffer iPort =>
      obtain ⟨hp, hreact⟩ := Option.ite_none_right_eq_some.1 hstep
      rw [primary_of_react_socket hreact]
      cases Primary.fromSocket_outcome c sys.primary st buffer iPort with
      | octane _ hp' => exact absurd hp' hp
      | forward _ hquiet _ => exact hquiet.created
  | portal st buffer iPort =>
      obtain ⟨⟨hp, -⟩, hreact⟩ := Option.ite_none_right_eq_some.1 hstep
      rw [primary_of_react_socket hreact]
      exact (sys.primary.fromSocket_octane c st iPort hp).2.1
  | ack st buffer iPort =>
      obtain ⟨⟨hp, -⟩, hreact⟩ := Option.ite_none_right_eq_some.1 hstep
      rw [primary_of_react_socket hreact]
      exact (sys.primary.fromSocket_octane c st iPort hp).2.1
  | deliver i msg =>
      obtain ⟨-, heq⟩ := Option.ite_none_right_eq_some.1 hstep
      rw [← Option.some.inj heq]
      rfl
  | network control acks =>
      obtain ⟨-, heq⟩ := Option.ite_none_right_eq_some.1 hstep
      rw [← Option.some.inj heq]

theorem along_of_not_tunnel {P : System → SysEvent → System → Prop} {es : List SysEvent}
    (hP : ∀ s e s', s'.primary.created = s.primary.created → P s e s')
    (hes : ∀ e ∈ es, ∀ st buffer clock, e ≠ .tunnel st buffer clock) :
    Along (sysStep c) P sys es := by
  have hne : Along (sysStep c) (fun _ e _ => ∀ st buffer clock, e ≠ .tunnel st buffer clock)
      sys es := Along.of_mem hes
  refine hne.imp ?_
  intro s e s' hstep he
  exact hP s e s' (created_eq_of_step he hstep)

/-- Routers in stage 6 that have just started. -/
def startedSystem : System :=
  start sampleStart fun _ => (Second.start (.init 0 (.none _ _) (.none _ _) (.none _ _)) 0 0).router

/-- The `i`-th of many HTTP flows between two hosts. -/
def flowEvent (i : ℕ) : SysEvent :=
  .tunnel default { samplePacket 0x5000 with source := UInt16.ofNat i } fun _ => ⟨0, 0⟩

theorem tcp_flowEvent {i : ℕ} (hi : i ≤ 32768) : (flowEvent i).Tcp := by
  intro p hp
  obtain rfl := Option.some.inj hp
  refine ⟨show ¬ (6 : UInt8) = 1 by decide, fun _ => ⟨Primary.not_wild_manyFlows hi, ?_⟩⟩
  intro heq
  exact absurd (congrArg FlowEntry.srcIp heq)
    (show ¬ (0x0A00A8C0 : UInt32) = 0x0133050A by decide)

/-- The messages for the flow 0. -/
def firstMsg : OctaneControl := ⟨1, 0, 1, 0x0A00A8C0, 0x0133050A, 0, 0x5000, 6, 0⟩

def secondMsg : OctaneControl := ⟨1, 0, 2, 0x0133050A, 0x0A00A8C0, 0x5000, 0, 6, 4000⟩

/-- A copy of a message is delivered before the message is acknowledged. -/
def copiesRun : List SysEvent :=
  [flowEvent 0, .network [(.local 0x2300, firstMsg), (.local 0x2300, firstMsg)] [],
    .deliver firstSecondary firstMsg, .deliver firstSecondary firstMsg,
    .ack default (samplePacketOf (octaneReplyEdit firstMsg)) 0]

theorem ackedInstalled_copiesRun :
    (run (sysStep ⟨.s6, .local 0x2300, 0x2300, 0x2400, 0⟩) startedSystem copiesRun).isSome =
        true ∧
      AckedInstalled ⟨.s6, .local 0x2300, 0x2300, 0x2400, 0⟩ startedSystem copiesRun ∧
      CopiesIgnored ⟨.s6, .local 0x2300, 0x2300, 0x2400, 0⟩ startedSystem copiesRun := by
  refine ⟨by decide +kernel, ackedInstalled_of_run _ rfl (by decide) _ _ _ rfl rfl _ ?_ _ ?_ ?_⟩
  · exact fun _ => ⟨by decide, rfl⟩
  · intro e he
    simp only [copiesRun, List.mem_cons, List.not_mem_nil, or_false] at he
    rcases he with rfl | rfl | rfl | rfl | rfl
    · exact tcp_flowEvent (by omega)
    all_goals trivial
  · refine fun sys _ => ⟨fun t _ => ⟨Std.ExtTreeMap.not_mem_empty, ?_⟩, ?_⟩
    · exact fun m hm => absurd hm List.not_mem_nil
    · exact along_of_not_tunnel (fun _ _ _ => unused_of_created_eq) (by simp)

/-- The flow 0 is installed and acknowledged; a copy of the first acknowledgement stays
in flight. -/
def firstFlow : List SysEvent :=
  [flowEvent 0, .deliver firstSecondary firstMsg, .deliver firstSecondary secondMsg,
    .network [] [octaneReplyEdit firstMsg, octaneReplyEdit firstMsg, octaneReplyEdit secondMsg],
    .ack default (samplePacketOf (octaneReplyEdit firstMsg)) 0,
    .ack default (samplePacketOf (octaneReplyEdit secondMsg)) 0]

/-- No new message takes a number that is waited for. The numbers of datagrams in flight do
not count. -/
def NotWaitedFor (sys : System) (_ : SysEvent) (sys' : System) : Prop :=
  Channel.Fresh sys.primary.channel sys'.primary.channel

theorem notWaitedFor_of_created_eq (sys : System) (e : SysEvent) (sys' : System)
    (h : sys'.primary.created = sys.primary.created) : NotWaitedFor sys e sys' :=
  Channel.fresh_of_created_eq h

/-- The state after `k` flows. The numbers of the first one are free again, and an
acknowledgement of its first message is in flight. -/
structure Stale (k : ℕ) (sys : System) : Prop where
  keys : Primary.KeysBelow k sys.primary
  iSeqnoCnt : sys.primary.router.iSeqnoCnt = UInt16.ofNat (1 + 2 * k)
  nextHandle : sys.primary.timersManager.nextHandle = 1 + 2 * k
  waiting : ∀ n ∈ sys.primary.router.unAckBuffer, ∃ j, 2 ≤ j ∧ j < 2 * k ∧
    n = ((1 + j) % 65536 : ℕ)
  acks : octaneReplyEdit firstMsg ∈ sys.acks
  secondary : ∀ i, ∀ r ∈ (sys.secondary i).rouFlowTable.keys,
    r ∈ [.ofMsg secondMsg, .ofMsg firstMsg, FlowTable.defaultEntry]

/-- One more flow takes two numbers that are not waited for. -/
theorem Stale.step {k : ℕ} (h : Stale k sys) (hk₁ : 1 ≤ k) (hk : k ≤ 32768) :
    ∃ sys', sysStep ⟨.s6, .local 0x2300, 0x2300, 0x2400, 0⟩ sys (flowEvent k) = some sys' ∧
      Stale (k + 1) sys' ∧ NotWaitedFor sys (flowEvent k) sys' ∧ ∃ t t' : OctaneTimer,
        sys'.primary.created = [t', t] ++ sys.primary.created ∧
        t.iSeq = ((1 + 2 * k) % 65536 : ℕ) ∧ t'.iSeq = ((2 + 2 * k) % 65536 : ℕ) ∧
        t.iSeq ∈ sys'.primary.router.unAckBuffer ∧
        (FlowEntry.ofMsg t.iOctaneMsg = ⟨0x0A00A8C0, 0x0133050A, UInt16.ofNat k, 0x5000, 6⟩ ∨
          FlowEntry.ofMsg t.iOctaneMsg = ⟨0x0133050A, 0x0A00A8C0, 0x5000, UInt16.ofNat k, 6⟩) := by
  obtain ⟨s', addr, t, t', hprim, hnew, hkeys, hnext, hflow⟩ := h.keys.step hk h.nextHandle
  have hcreated : s'.created = [t', t] ++ sys.primary.created :=
    Channel.created_of_transmit hnew.channel
  have hseq : t.iSeq = ((1 + 2 * k) % 65536 : ℕ) := by
    rw [hnew.numbered.1.1, h.iSeqnoCnt]
    simp
  have hseq' : t'.iSeq = ((2 + 2 * k) % 65536 : ℕ) := by
    rw [hnew.numbered.2.1.1, h.iSeqnoCnt]
    simp
    omega
  have hmem : ∀ n, n ∈ s'.router.unAckBuffer ↔
      n ∈ sys.primary.router.unAckBuffer ∨ ∃ u ∈ [t, t'], u.iSeq = n :=
    fun n => Channel.mem_unAckBuffer_of_transmit hnew.channel n
  refine ⟨_, Option.map_eq_some_iff.2 ⟨s', hprim, rfl⟩, ?_, ?_, t, t', hcreated, hseq, hseq',
    (hmem _).2 (Or.inr ⟨t, List.mem_cons_self, rfl⟩), hflow t List.mem_cons_self⟩
  · refine ⟨hkeys, hnew.iSeqnoCnt_eq h.iSeqnoCnt, hnext, fun n hn => ?_, h.acks, h.secondary⟩
    rcases (hmem n).1 hn with hn | ⟨u, hu, rfl⟩
    · obtain ⟨j, hj, hjk, rfl⟩ := h.waiting n hn
      exact ⟨j, hj, by omega, rfl⟩
    · rcases List.mem_pair.1 hu with rfl | rfl
      · exact ⟨2 * k, by omega, by omega, hseq⟩
      · exact ⟨2 * k + 1, by omega, by omega, hseq'.trans (by congr 2; omega)⟩
  · intro u hu hn
    rw [Channel.newMessages_of_append hcreated] at hu
    obtain ⟨j, hj, hjk, heq⟩ := h.waiting _ hn
    rcases List.mem_pair.1 hu with rfl | rfl
    · omega
    · omega

/-- The state after the first flow. -/
theorem stale_firstFlow :
    ∃ sys, run (sysStep ⟨.s6, .local 0x2300, 0x2300, 0x2400, 0⟩) startedSystem firstFlow =
      some sys ∧ Stale 1 sys := by
  have heval : (run (sysStep ⟨.s6, .local 0x2300, 0x2300, 0x2400, 0⟩) startedSystem
      firstFlow).map (fun sys => ((sys.primary.router.rouFlowTable.entries.map Prod.fst,
        sys.primary.router.iSeqnoCnt, sys.primary.timersManager.nextHandle),
        sys.primary.router.unAckBuffer.toList, sys.acks,
        List.ofFn fun i => (sys.secondary i).rouFlowTable.entries.map Prod.fst)) =
      some (([.ofMsg secondMsg, .ofMsg firstMsg], 3, 3), [], [octaneReplyEdit firstMsg],
        [[.ofMsg secondMsg, .ofMsg firstMsg, FlowTable.defaultEntry], [FlowTable.defaultEntry],
          [FlowTable.defaultEntry]]) := by
    decide +kernel
  obtain ⟨sys, hrun, hsys⟩ := Option.map_eq_some_iff.1 heval
  simp only [Prod.mk.injEq] at hsys
  obtain ⟨⟨hkeys, hcnt, hnext⟩, hunack, hacks, hsecondary⟩ := hsys
  refine ⟨sys, hrun, ?_, hcnt, hnext, ?_, ?_, ?_⟩
  · rintro r ⟨a, ha⟩
    have hr : r ∈ sys.primary.router.rouFlowTable.entries.map Prod.fst :=
      List.mem_map_of_mem (f := Prod.fst) ha
    rw [hkeys] at hr
    refine ⟨0, Nat.zero_lt_one, ?_⟩
    rcases List.mem_pair.1 hr with rfl | rfl
    · exact Or.inr rfl
    · exact Or.inl rfl
  · intro n hn
    obtain ⟨hdl, hget⟩ := (IntMap.mem_iff _ _).1 hn
    have hmem := Std.ExtTreeMap.mem_toList_iff_getElem?_eq_some.2 hget
    rw [hunack] at hmem
    exact absurd hmem List.not_mem_nil
  · rw [hacks]
    exact List.mem_cons_self
  · rintro i r ⟨a, ha⟩
    have hr : r ∈ (sys.secondary i).rouFlowTable.entries.map Prod.fst :=
      List.mem_map_of_mem (f := Prod.fst) ha
    have hi : (sys.secondary i).rouFlowTable.entries.map Prod.fst ∈ List.ofFn fun i =>
        (sys.secondary i).rouFlowTable.entries.map Prod.fst := List.mem_ofFn.2 ⟨i, rfl⟩
    rw [hsecondary] at hi
    simp only [List.mem_cons, List.not_mem_nil, or_false] at hi
    rcases hi with hi | hi | hi
    · exact hi ▸ hr
    · rw [hi, List.mem_singleton] at hr
      simp [hr]
    · rw [hi, List.mem_singleton] at hr
      simp [hr]

/-- The state after `k` more flows. -/
theorem stale_run (k : ℕ) (hk : k ≤ 32767) (h : Stale 1 sys) :
    ∃ sys', run (sysStep ⟨.s6, .local 0x2300, 0x2300, 0x2400, 0⟩) sys
        ((List.range k).map fun i => flowEvent (i + 1)) = some sys' ∧ Stale (k + 1) sys' ∧
      Along (sysStep ⟨.s6, .local 0x2300, 0x2300, 0x2400, 0⟩) NotWaitedFor sys
        ((List.range k).map fun i => flowEvent (i + 1)) := by
  induction k with
  | zero => exact ⟨sys, rfl, h, trivial⟩
  | succ k ih =>
      obtain ⟨u, hrun, hu, halong⟩ := ih (by omega)
      obtain ⟨sys', hstep, hsys', hfresh, -⟩ := hu.step (by omega) (by omega)
      rw [List.range_succ, List.map_append, List.map_singleton]
      refine ⟨sys', run_append.2 ⟨u, hrun, run_cons.2 ⟨sys', hstep, rfl⟩⟩, hsys', ?_⟩
      refine halong.append fun t ht v hv => ?_
      obtain rfl := Option.some.inj (hrun.symm.trans ht)
      obtain rfl := Option.some.inj (hstep.symm.trans hv)
      exact ⟨hfresh, trivial⟩

/-- Two more flows than the numbers last for, and the acknowledgement that has been in
flight since the first one. -/
def staleRun (k : ℕ) : List SysEvent :=
  firstFlow ++ ((List.range k).map (fun i => flowEvent (i + 1)) ++
    [flowEvent (k + 1), .ack default (samplePacketOf (octaneReplyEdit firstMsg)) 0])

theorem tcp_staleRun {k : ℕ} (hk : k ≤ 32767) : ∀ e ∈ staleRun k, e.Tcp := by
  intro e he
  simp only [staleRun, firstFlow, List.mem_append, List.mem_cons, List.mem_map, List.mem_range,
    List.not_mem_nil, or_false] at he
  rcases he with (rfl | rfl | rfl | rfl | rfl | rfl) | ⟨i, hi, rfl⟩ | rfl | rfl
  · exact tcp_flowEvent (by omega)
  all_goals first | exact tcp_flowEvent (by omega) | trivial

/-- The acknowledgement of the first flow is taken for one of the last flow, of which
nothing has been installed. -/
theorem not_ackedInstalled_of_staleRun {k : ℕ} (hk : k = 32767) :
    Along (sysStep ⟨.s6, .local 0x2300, 0x2300, 0x2400, 0⟩) NotWaitedFor startedSystem
        (staleRun k) ∧
      ¬ AckedInstalled ⟨.s6, .local 0x2300, 0x2300, 0x2400, 0⟩ startedSystem (staleRun k) := by
  obtain ⟨sys₀, hfirst, h₀⟩ := stale_firstFlow
  obtain ⟨sys₁, hflows, h₁, halong₁⟩ := stale_run k (by omega) h₀
  obtain ⟨sys₂, hlast, h₂, hfresh₂, t, t', hcreated, hseq, hseq', hmem, hflow⟩ :=
    h₁.step (by omega) (by omega)
  obtain ⟨sys₃, hack, hsecondary, hchannel⟩ : ∃ sys₃,
      sysStep ⟨.s6, .local 0x2300, 0x2300, 0x2400, 0⟩ sys₂
        (.ack default (samplePacketOf (octaneReplyEdit firstMsg)) 0) = some sys₃ ∧
      sys₃.secondary = sys₂.secondary ∧
      sys₃.primary.channel = sys₂.primary.channel.acknowledge 1 :=
    ⟨_, (if_pos ⟨rfl, h₂.acks⟩).trans rfl, rfl,
      (sys₂.primary.fromSocket_octane _ default 0 rfl).1.trans (if_pos rfl)⟩
  have hone : t.iSeq = 1 := hseq.trans (by rw [hk]; rfl)
  have htwo : t'.iSeq = 2 := hseq'.trans (by rw [hk]; rfl)
  constructor
  · refine Along.append ?_ fun u hu => Along.append ?_ fun v hv w hw => ?_
    · refine fun v _ => ⟨fun m _ => Std.ExtTreeMap.not_mem_empty, ?_⟩
      exact along_of_not_tunnel notWaitedFor_of_created_eq (by simp)
    · obtain rfl := Option.some.inj (hfirst.symm.trans hu)
      exact halong₁
    · obtain rfl := Option.some.inj (hfirst.symm.trans hu)
      obtain rfl := Option.some.inj (hflows.symm.trans hv)
      obtain rfl := Option.some.inj (hlast.symm.trans hw)
      exact ⟨hfresh₂, along_of_not_tunnel notWaitedFor_of_created_eq (by simp)⟩
  · intro h
    have hrun : run (sysStep ⟨.s6, .local 0x2300, 0x2300, 0x2400, 0⟩) startedSystem
        (firstFlow ++ ((List.range k).map (fun i => flowEvent (i + 1)) ++ [flowEvent (k + 1)])) =
          some sys₂ :=
      run_append.2 ⟨sys₀, hfirst, run_append.2 ⟨sys₁, hflows, run_cons.2 ⟨sys₂, hlast, rfl⟩⟩⟩
    have hprefix : firstFlow ++ ((List.range k).map (fun i => flowEvent (i + 1)) ++
        [flowEvent (k + 1)]) ++ [.ack default (samplePacketOf (octaneReplyEdit firstMsg)) 0] <+:
          staleRun k := by
      simp [staleRun]
    have hn' : (1 : ℤ) ∉ sys₃.primary.channel.unAckBuffer := by
      rw [hchannel, IntMap.mem_iff, Channel.getElem?_unAckBuffer_acknowledge, if_pos rfl]
      simp
    obtain ⟨u, i, hu, -, hinst⟩ :=
      h _ _ [] hprefix sys₂ sys₃ sys₃ hrun hack rfl 1 (hone ▸ hmem) hn'
    -- the message 1 is that of the last flow
    obtain rfl : t = u := by
      rw [Primary.message, hcreated] at hu
      simpa [hone, htwo] using hu
    have hkey : FlowEntry.ofMsg t.iOctaneMsg ∈
        [.ofMsg secondMsg, .ofMsg firstMsg, FlowTable.defaultEntry] :=
      h₂.secondary i _ (hsecondary ▸ StdMap.mem_keys hinst)
    have hport : UInt16.ofNat (k + 1) = 32768 := by rw [hk]; rfl
    rw [hport] at hflow
    rcases hflow with hflow | hflow
    · rw [hflow] at hkey
      exact absurd hkey (by decide)
    · rw [hflow] at hkey
      exact absurd hkey (by decide)

/-- The numbers of messages in flight have to count as well: with the run of 32769 flows the
acknowledgement of the first message erases the number of one that is not installed. -/
theorem not_ackedInstalled_staleRun :
    (∀ e ∈ staleRun 32767, e.Tcp) ∧
      Along (sysStep ⟨.s6, .local 0x2300, 0x2300, 0x2400, 0⟩) NotWaitedFor startedSystem
        (staleRun 32767) ∧
      ¬ AckedInstalled ⟨.s6, .local 0x2300, 0x2300, 0x2400, 0⟩ startedSystem (staleRun 32767) :=
  ⟨tcp_staleRun le_rfl, not_ackedInstalled_of_staleRun rfl⟩

end System
