import SimpleSDN.Primary.Return
import SimpleSDN.System.Chain
import SimpleSDN.System.Installed
import SimpleSDN.System.Refines

/-!
# What holds of the bytes

What has been proved of the messages is true of the datagrams that carry them, in every
run of the routers: a control message in flight is copied within bounds
(`Net.bounded_of_run`), no rule at a secondary router and no acknowledgement comes from
anything but a message that the primary router has sent there (`Net.sourced_of_run`), and
a rule that has been acknowledged is in force for the packets of its flow
(`Net.inForce_of_run`).
-/

/-! ### In bounds -/

namespace Net

/-- The datagram is copied within bounds at whatever router gets it, and it is from the
primary router exactly if it is not to it. -/
structure Bounded (rou1Addr : SockAddr) (d : Datagram) : Prop where
  primary : (socketBuffer d).CopyBounded 2048
  secondary : (Second.udpBuffer d.bytes).CopyBounded 2048
  octane : (octaneOf d.bytes).isSome
  between : d.src = rou1Addr ↔ d.dst ≠ rou1Addr

/-- In every run the control messages in flight are copied within bounds. -/
theorem bounded_of_run (c : Config) (m : IntMap) (rou1Addr : SockAddr) (hc : c.Apart m rou1Addr)
    (primary : Primary) (htimers : primary.ChildTimers m) (secondary : Fin 3 → Second)
    (es : List NetEvent) (net : Net)
    (hrun : run (netStep c rou1Addr) (start primary secondary) es = some net) :
    ∀ d ∈ net.flight, (Buffer.ofList d.bytes).ipP = octaneProtocolNum → Bounded rou1Addr d := by
  intro d hd hp
  obtain ⟨sys, -, hshows⟩ := System.Shows.of_run hc (.start htimers secondary) hrun
  have hsound := hshows.sound d hd
  obtain ⟨msg, hcarries⟩ := hsound.carries hp
  refine ⟨(hcarries.ofList_take (by omega)).copyBounded,
    (hcarries.ofList_take (by omega)).copyBounded, ?_, hsound.between hp⟩
  exact Option.isSome_of_eq_some ((if_pos hp).trans hcarries.octaneUnpack)

/-- A rule and the acknowledgement of another one are in flight. -/
theorem bounded_of_run_http : ∃ net,
    run (netStep System.sampleConfig (.local 0x2200)) (start sampleStart sampleSecondary)
        (httpEvents sampleUninit) = some net ∧
      ∀ d ∈ net.flight, (Buffer.ofList d.bytes).ipP = octaneProtocolNum →
        Bounded (.local 0x2200) d := by
  obtain ⟨net, hnet⟩ := Option.isSome_iff_exists.1 isSome_run_http
  exact ⟨net, hnet, bounded_of_run _ sampleChildren _ apart_sample sampleStart
    (fun p hp => absurd hp List.not_mem_nil) _ _ net hnet⟩

end Net

/-! ### Where rules come from -/

/-- The control messages that the primary router has sent to an address. -/
def Primary.sentTo (s : Primary) (addr : SockAddr) : Set OctaneControl :=
  {msg | .control addr msg ∈ s.sent}

/-- The entries of the table are those of `T₀` and those of messages of `A`, and so are
the actions. -/
structure FlowTable.From (T₀ : FlowTable) (A : Set OctaneControl) (T : FlowTable) : Prop where
  keys : ∀ r ∈ T.keys, r ∈ T₀.keys ∨ ∃ msg ∈ A, r = .ofMsg msg
  actions : ∀ e ∈ T.entries, e ∈ T₀.entries ∨ ∃ msg ∈ A, e.2 = .ofMsg msg
  kept : T₀.keys ⊆ T.keys

namespace FlowTable.From

variable {T₀ T : FlowTable} {A B : Set OctaneControl}

theorem refl (T : FlowTable) (A : Set OctaneControl) : From T A T where
  keys _ hr := Or.inl hr
  actions _ he := Or.inl he
  kept := subset_rfl

theorem mono (h : From T₀ A T) (hAB : A ⊆ B) : From T₀ B T where
  keys r hr := (h.keys r hr).imp_right fun ⟨msg, hmsg, heq⟩ => ⟨msg, hAB hmsg, heq⟩
  actions e he := (h.actions e he).imp_right fun ⟨msg, hmsg, heq⟩ => ⟨msg, hAB hmsg, heq⟩
  kept := h.kept

/-- Whatever the comparator does, a message adds its own entry and action. -/
theorem insert (h : From T₀ A T) {msg : OctaneControl} (hmsg : msg ∈ A) :
    From T₀ A (T.insert msg).1 where
  keys r hr := by
    rcases keys_insert_subset T msg hr with rfl | hold
    · exact Or.inr ⟨msg, hmsg, rfl⟩
    · exact h.keys r hold
  actions := by
    rintro ⟨r, a⟩ he
    rcases of_mem_insert he with hold | ⟨-, rfl⟩
    · exact h.actions _ hold
    · exact Or.inr ⟨msg, hmsg, rfl⟩
  kept := by
    have hkeys : T.keys ⊆ (T.insert msg).1.keys := by
      change T.keys ⊆ (StdMap.set _ _ _).keys
      rw [StdMap.keys_set]
      exact Set.subset_insert _ _
    exact h.kept.trans hkeys

theorem receiveControl {Router : CRouter} (h : From T₀ A Router.rouFlowTable)
    {msg : OctaneControl} (hmsg : msg ∈ A) :
    From T₀ A (Router.receiveControl msg).1.rouFlowTable := by
  rw [CRouter.receiveControl_rouFlowTable]
  split_ifs
  · exact h
  · exact h.insert hmsg

end FlowTable.From

namespace System

/-- What is in flight and what is installed comes from messages that the primary router
has sent; at the start the secondary routers had the rules of `T₀`. -/
structure Sourced (c : Config) (T₀ : Fin 3 → FlowTable) (sys : System) : Prop where
  control : ∀ x ∈ sys.control, x.2 ∈ sys.primary.sentTo x.1
  acks : ∀ a ∈ sys.acks, ∃ i, ∃ msg ∈ sys.primary.sentTo (.local (c.secondPort i)),
    a = octaneReplyEdit msg
  rules : ∀ i, (T₀ i).From (sys.primary.sentTo (.local (c.secondPort i)))
    (sys.secondary i).rouFlowTable

namespace Sourced

variable {c : Config} {T₀ : Fin 3 → FlowTable} {sys sys' : System}

/-- Fewer datagrams in flight. -/
theorem of_subset (h : Sourced c T₀ sys) {control : List (SockAddr × OctaneControl)}
    {acks : List OctaneControl} (hcontrol : control ⊆ sys.control) (hacks : acks ⊆ sys.acks) :
    Sourced c T₀ { sys with control := control, acks := acks } where
  control x hx := h.control x (hcontrol hx)
  acks a ha := h.acks a (hacks ha)
  rules := h.rules

/-- A reaction of the primary router. -/
theorem react (h : Sourced c T₀ sys) {e : PrimEvent} (hreact : sys.react c e = some sys') :
    Sourced c T₀ sys' := by
  obtain ⟨primary, hstep, rfl⟩ := Option.map_eq_some_iff.1 hreact
  have hmono : ∀ addr, sys.primary.sentTo addr ⊆ primary.sentTo addr := fun addr msg hmsg =>
    (Primary.primStep_sent hstep).subset hmsg
  refine ⟨?_, fun a ha => ?_, fun i => (h.rules i).mono (hmono _)⟩
  · rintro ⟨addr, msg⟩ hx
    rcases List.mem_append.1 hx with hx | hx
    · exact hmono _ (h.control _ hx)
    · obtain ⟨x, hnew, hctrl⟩ := List.mem_filterMap.1 hx
      cases x with
      | control addr' msg' =>
          obtain ⟨rfl, rfl⟩ := Prod.mk.inj (Option.some.inj hctrl)
          exact List.mem_of_mem_drop hnew
      | data addr' p => exact absurd hctrl.symm (Option.some_ne_none _)
      | tunnel p => exact absurd hctrl.symm (Option.some_ne_none _)
  · obtain ⟨i, msg, hmsg, heq⟩ := h.acks a ha
    exact ⟨i, msg, hmono _ hmsg, heq⟩

/-- A secondary router receives a message. -/
theorem receive (h : Sourced c T₀ sys) {i : Fin 3} {msg : OctaneControl}
    (hmsg : msg ∈ sys.primary.sentTo (.local (c.secondPort i))) :
    Sourced c T₀ (sys.receive i msg) where
  control := h.control
  acks a ha := by
    rcases List.mem_append.1 ha with ha | ha
    · exact h.acks a ha
    · exact ⟨i, msg, hmsg, CRouter.eq_of_mem_receiveControl ha⟩
  rules j := by
    have hsecondary : (sys.receive i msg).secondary j =
        if j = i then ((sys.secondary i).receiveControl msg).1 else sys.secondary j :=
      Function.update_apply _ _ _ _
    rw [hsecondary]
    split_ifs with hj
    · exact hj ▸ (h.rules i).receiveControl hmsg
    · exact h.rules j

/-- The step lemma. -/
theorem step (h : Sourced c T₀ sys) {e : SysEvent} (hstep : sysStep c sys e = some sys') :
    Sourced c T₀ sys' := by
  cases e with
  | tunnel st buffer clock => exact h.react hstep
  | expire now => exact h.react hstep
  | packet st buffer iPort => exact h.react (Option.ite_none_right_eq_some.1 hstep).2
  | portal st buffer iPort => exact h.react (Option.ite_none_right_eq_some.1 hstep).2
  | ack st buffer iPort =>
      exact (h.of_subset (List.Subset.refl _) List.erase_subset).react
        (Option.ite_none_right_eq_some.1 hstep).2
  | deliver i msg =>
      obtain ⟨hmem, hstep⟩ := Option.ite_none_right_eq_some.1 hstep
      obtain rfl := Option.some.inj hstep
      exact (h.of_subset List.erase_subset (List.Subset.refl _)).receive (h.control _ hmem)
  | network control acks =>
      obtain ⟨⟨hcontrol, hacks⟩, hstep⟩ := Option.ite_none_right_eq_some.1 hstep
      obtain rfl := Option.some.inj hstep
      exact h.of_subset hcontrol hacks

/-- The run lemma. -/
theorem of_run (h : Sourced c T₀ sys) {es : List SysEvent}
    (hrun : run (sysStep c) sys es = some sys') : Sourced c T₀ sys' :=
  run_invariant (Q := fun _ _ _ => True) (fun _ _ _ hs hstep _ => hs.step hstep) h
    (Along.of_forall fun _ _ _ _ => trivial) hrun

end Sourced

theorem sourced_start (c : Config) (primary : Primary) (secondary : Fin 3 → CRouter) :
    Sourced c (fun i => (secondary i).rouFlowTable) (start primary secondary) where
  control := by simp [start]
  acks := by simp [start]
  rules i := .refl _ _

end System

namespace Net

/-- Whatever is lost, repeated or overtaken, whatever packets come from outside and
whatever the comparator of the tables does, a secondary router has, besides the rules with
which it has started, rules of messages that the primary router has sent to it, and what
reaches the primary router as an acknowledgement is that of a message it has sent. -/
theorem sourced_of_run (c : Config) (m : IntMap) (rou1Addr : SockAddr) (hc : c.Apart m rou1Addr)
    (primary : Primary) (htimers : primary.ChildTimers m) (secondary : Fin 3 → Second)
    (es : List NetEvent) (net : Net)
    (hrun : run (netStep c rou1Addr) (start primary secondary) es = some net) :
    (∀ i, (secondary i).router.rouFlowTable.From
        (net.primary.sentTo (.local (c.secondPort i))) (net.secondary i).router.rouFlowTable) ∧
      ∀ d ∈ net.flight, d.dst = rou1Addr → ∀ a, octaneOf d.bytes = some a →
        ∃ i, ∃ msg ∈ net.primary.sentTo (.local (c.secondPort i)), a = octaneReplyEdit msg := by
  obtain ⟨sys, hsys, hshows⟩ := System.Shows.of_run hc (.start htimers secondary) hrun
  have hsourced := (System.sourced_start c primary fun i => (secondary i).router).of_run hsys
  rw [← hshows.primary]
  constructor
  · intro i
    rw [(hshows.secondary i).rouFlowTable]
    exact hsourced.rules i
  · intro d hd hdst a ha
    have hp := ipP_of_octaneOf ha
    have hsrc : d.src ≠ rou1Addr := fun hsrc =>
      ((hshows.sound d hd).between hp).1 hsrc hdst
    refine hsourced.acks a (hshows.acks.mem_iff.2 (List.mem_filterMap.2 ⟨d, hd, ?_⟩))
    exact (if_neg hsrc).trans ha

/-- The rule of the flow is that of a message to the third secondary router. -/
theorem sourced_of_run_http : ∃ net,
    run (netStep System.sampleConfig (.local 0x2200)) (start sampleStart sampleSecondary)
        (httpEvents sampleUninit) = some net ∧
      (sampleSecondary 2).router.rouFlowTable.From (net.primary.sentTo (.local 0x2500))
        (net.secondary 2).router.rouFlowTable ∧
      ⟨0x0F02000A, 0x0433050A, 0x409C, 0x5000, 6⟩ ∈
        (net.secondary 2).router.rouFlowTable.keys := by
  obtain ⟨net, hnet⟩ := Option.isSome_iff_exists.1 isSome_run_http
  obtain ⟨hrules, -⟩ := sourced_of_run _ sampleChildren _ apart_sample sampleStart
    (fun p hp => absurd hp List.not_mem_nil) _ _ net hnet
  have hkeys : (run (netStep System.sampleConfig (.local 0x2200))
      (start sampleStart sampleSecondary) (httpEvents sampleUninit)).map
        (fun net => (net.secondary 2).router.rouFlowTable.entries.map Prod.fst) =
          some [⟨0x0F02000A, 0x0433050A, 0x409C, 0x5000, 6⟩, FlowTable.defaultEntry] := by
    decide +kernel
  rw [hnet, Option.map_some, Option.some.injEq] at hkeys
  refine ⟨net, hnet, hrules 2, ?_⟩
  obtain ⟨e, he, hentry⟩ := List.mem_map.1 (hkeys ▸ List.mem_cons_self)
  exact hentry ▸ StdMap.mem_keys he

end Net

/-! ### Rules in force -/

/-- The event is one of routers without a portal whose flows are TCP. -/
def NetEvent.Tcp : NetEvent → Prop
  | .tunnel st packet clock _ => TcpOnly (.tunnel st (tunnelBuffer packet).packet clock)
  | .portal _ _ _ => False
  | _ => True

theorem NetEvent.Tcp.sysEvent {rou1Addr : SockAddr} {e : NetEvent} (h : e.Tcp) {e' : SysEvent}
    (he : e.sysEvent rou1Addr = some e') : e'.Tcp := by
  cases e with
  | tunnel st packet clock IpHeader =>
      obtain rfl := Option.some.inj he
      exact h
  | portal st d IpHeader => exact absurd h id
  | socket st d IpHeader =>
      unfold NetEvent.sysEvent at he
      dsimp only at he
      split_ifs at he
      all_goals obtain rfl := Option.some.inj he; trivial
  | udp i u d =>
      obtain ⟨msg, -, rfl⟩ := Option.map_eq_some_iff.1 he
      trivial
  | expire now IpHeader =>
      obtain rfl := Option.some.inj he
      trivial
  | network flight =>
      obtain rfl := Option.some.inj he
      trivial
  | icmp i u memory packet iPort => exact absurd he.symm (Option.some_ne_none e')
  | tcp i u packet iPort => exact absurd he.symm (Option.some_ne_none e')

namespace Net

/-- A new message takes a number that no message waits for and that no control message in
flight carries. -/
def Unused (net : Net) (_ : NetEvent) (net' : Net) : Prop :=
  ∀ t ∈ Channel.newMessages net.primary.channel net'.primary.channel,
    t.iSeq ∉ net.primary.router.unAckBuffer ∧
      ∀ d ∈ net.flight, ∀ m, octaneOf d.bytes = some m → (m.octaneSeqno.toNat : ℤ) ≠ t.iSeq

variable {c : Config} {m : IntMap} {rou1Addr : SockAddr} {sys : System} {net net' : Net}

theorem unused_of_created_eq {e : NetEvent}
    (h : net'.primary.created = net.primary.created) : Unused net e net' := by
  intro t ht
  rw [Channel.newMessages_of_created_eq h] at ht
  exact absurd ht List.not_mem_nil

/-- The system shown is coupled. -/
structure Backed (c : Config) (m : IntMap) (rou1Addr : SockAddr) (sys : System) (net : Net) :
    Prop where
  shows : sys.Shows m rou1Addr net
  coupled : System.Coupled c sys

/-- A number that no control message in flight carries is not in flight. -/
theorem Unused.of_shows {sys' : System} {e : NetEvent} {e' : SysEvent}
    (h : Unused net e net') (hshows : sys.Shows m rou1Addr net)
    (hshows' : sys'.Shows m rou1Addr net') : System.Unused sys e' sys' := by
  intro t ht
  rw [hshows.primary, hshows'.primary] at ht
  rw [hshows.primary]
  refine ⟨(h t ht).1, fun msg hmsg => ?_⟩
  rcases List.mem_append.1 hmsg with hmsg | hmsg
  · obtain ⟨⟨addr, msg'⟩, hx, rfl⟩ := List.mem_map.1 hmsg
    obtain ⟨d, hd, hctrl⟩ := List.mem_filterMap.1 (hshows.control.mem_iff.1 hx)
    obtain ⟨-, hctrl⟩ := Option.ite_none_right_eq_some.1 hctrl
    obtain ⟨msg, hoctane, heq⟩ := Option.map_eq_some_iff.1 hctrl
    obtain ⟨-, rfl⟩ := Prod.mk.inj heq
    exact (h t ht).2 d hd msg hoctane
  · obtain ⟨d, hd, hack⟩ := List.mem_filterMap.1 (hshows.acks.mem_iff.1 hmsg)
    exact (h t ht).2 d hd msg (Option.ite_none_left_eq_some.1 hack).2

/-- The step lemma. -/
theorem Backed.step (hc : c.Apart m rou1Addr) (hstage : c.stage.byPort = true)
    (hports : c.secondRouter1Port ≠ c.secondRouter2Port) (h : Backed c m rou1Addr sys net)
    {e : NetEvent} (he : e.Tcp) (hstep : netStep c rou1Addr net e = some net')
    (hunused : Unused net e net') :
    ∃ sys', Backed c m rou1Addr sys' net' ∧ System.Keeps c sys sys' := by
  obtain ⟨sys', hsys, hshows⟩ := h.shows.step hc hstep
  refine ⟨sys', ?_⟩
  cases hevent : e.sysEvent rou1Addr with
  | none =>
      rw [hevent] at hsys
      obtain rfl := Option.some.inj hsys
      exact ⟨⟨hshows, h.coupled⟩, .refl sys⟩
  | some e' =>
      rw [hevent] at hsys
      obtain ⟨sys'', hone, hnil⟩ := run_cons.1 hsys
      obtain rfl := Option.some.inj hnil
      obtain ⟨hcoupled, hkeeps⟩ := h.coupled.step hstage hports (he.sysEvent hevent) hone
        (hunused.of_shows h.shows hshows)
      exact ⟨⟨hshows, hcoupled⟩, hkeeps⟩

/-- The run lemma. -/
theorem Backed.of_run (hc : c.Apart m rou1Addr) (hstage : c.stage.byPort = true)
    (hports : c.secondRouter1Port ≠ c.secondRouter2Port) (h : Backed c m rou1Addr sys net)
    {es : List NetEvent}
    (hQ : Along (netStep c rou1Addr) (fun s e s' => Unused s e s' ∧ e.Tcp) net es)
    (hrun : run (netStep c rou1Addr) net es = some net') :
    ∃ sys', Backed c m rou1Addr sys' net' ∧ System.Keeps c sys sys' := by
  refine run_invariant (I := fun net' => ∃ sys', Backed c m rou1Addr sys' net' ∧
    System.Keeps c sys sys') ?_ ⟨sys, h, .refl sys⟩ hQ hrun
  rintro net₁ e net₂ ⟨sys₁, h₁, hkeeps₁⟩ hstep ⟨hunused, he⟩
  obtain ⟨sys₂, h₂, hkeeps₂⟩ := h₁.step hc hstage hports he hstep hunused
  exact ⟨sys₂, h₂, hkeeps₁.trans hkeeps₂⟩

/-- What is erased is installed. -/
theorem Backed.erased (hc : c.Apart m rou1Addr) (h : Backed c m rou1Addr sys net) {e : NetEvent}
    (he : e.Tcp) (hstep : netStep c rou1Addr net e = some net') {n : ℤ}
    (hn : n ∈ net.primary.router.unAckBuffer) (hn' : n ∉ net'.primary.router.unAckBuffer) :
    ∃ t i, sys.primary.message n = some t ∧ t.rou2Addr = .local (c.secondPort i) ∧
      (sys.secondary i).Installed t.iOctaneMsg := by
  obtain ⟨sys', hsys, hshows⟩ := h.shows.step hc hstep
  rw [← h.shows.primary] at hn
  rw [← hshows.primary] at hn'
  cases hevent : e.sysEvent rou1Addr with
  | none =>
      rw [hevent] at hsys
      obtain rfl := Option.some.inj hsys
      exact absurd hn hn'
  | some e' =>
      rw [hevent] at hsys
      obtain ⟨sys'', hone, hnil⟩ := run_cons.1 hsys
      obtain rfl := Option.some.inj hnil
      exact h.coupled.erased (he.sysEvent hevent) hone hn hn'

/-- The start of a run. -/
theorem backed_start {router : CRouter} {auth authRev : OctaneControl}
    {secondary : Fin 3 → Second} (hempty : router.unAckBuffer = ∅)
    (htable : router.rouFlowTable.entries = [])
    (hsecondary : ∀ i, (secondary i).router.rouFlowTable.entries =
      [(FlowTable.defaultEntry, ⟨0xFFFF, 3⟩)] ∧ (secondary i).router.droppedMsg.entries = []) :
    Backed c m rou1Addr
      (System.start (.start router auth authRev) fun i => (secondary i).router)
      (start (.start router auth authRev) secondary) := by
  have htimers : (Primary.start router auth authRev).ChildTimers m :=
    fun p hp => absurd hp List.not_mem_nil
  exact ⟨.start htimers secondary, System.coupled_start hempty htable hsecondary⟩

/-- What has been erased in a step of a run is installed in every later state. -/
theorem Backed.acked (hc : c.Apart m rou1Addr) (hstage : c.stage.byPort = true)
    (hports : c.secondRouter1Port ≠ c.secondRouter2Port) (h : Backed c m rou1Addr sys net)
    {es : List NetEvent}
    (hQ : Along (netStep c rou1Addr) (fun s e s' => Unused s e s' ∧ e.Tcp) net es)
    {pre : List NetEvent} {e : NetEvent} {post : List NetEvent} (hes : pre ++ e :: post <+: es)
    {net₁ net₂ net₃ : Net} (hpre : run (netStep c rou1Addr) net pre = some net₁)
    (hstep : netStep c rou1Addr net₁ e = some net₂)
    (hpost : run (netStep c rou1Addr) net₂ post = some net₃) {n : ℤ}
    (hn : n ∈ net₁.primary.router.unAckBuffer) (hn' : n ∉ net₂.primary.router.unAckBuffer) :
    ∃ sys₃ t i, Backed c m rou1Addr sys₃ net₃ ∧ net₁.primary.message n = some t ∧
      t.rou2Addr = .local (c.secondPort i) ∧
      t.iOctaneMsg ∈ sys₃.primary.messagesFor (.local (c.secondPort i)) ∧
      (sys₃.secondary i).Installed t.iOctaneMsg := by
  obtain ⟨rest, rfl⟩ := hes
  rw [List.append_assoc] at hQ
  obtain ⟨sys₁, h₁, -⟩ := h.of_run hc hstage hports hQ.left_of_append hpre
  obtain ⟨⟨hu, he⟩, hrest⟩ := hQ.of_append hpre net₂ hstep
  obtain ⟨t, i, hmessage, haddr, hinst⟩ := h₁.erased hc he hstep hn hn'
  have hmem : t.iOctaneMsg ∈ sys₁.primary.messagesFor (.local (c.secondPort i)) :=
    ⟨t, List.mem_of_find?_eq_some hmessage, haddr, rfl⟩
  obtain ⟨sys₂, h₂, hkeeps₂⟩ := h₁.step hc hstage hports he hstep hu
  obtain ⟨sys₃, h₃, hkeeps₃⟩ := h₂.of_run hc hstage hports hrest.left_of_append hpost
  have hkeeps := hkeeps₂.trans hkeeps₃
  exact ⟨sys₃, t, i, h₃, h₁.shows.primary ▸ hmessage, haddr, hkeeps.messages _ hmem,
    hkeeps.installed i _ hmem hinst⟩

/-- A packet of an HTTP flow is read in stage 6, and a message is delivered to the first
secondary router and acknowledged. -/
def ackedEventsOf (msg : OctaneControl) : List NetEvent :=
  .tunnel default (tcpDatagram Second.sampleFlow) (fun _ => ⟨0, 0⟩) (fun _ => .zero) ::
    (controlDatagram 0x2300 msg).flatMap fun d =>
      [.udp System.firstSecondary sampleUninit d,
        .socket default ⟨.local 0x2300, .local 0x2200, ackBytes d.bytes⟩ fun _ => .zero]

theorem exists_ackedEventsOf (msg : OctaneControl) : ∃ bytes, ackedEventsOf msg =
    [.tunnel default (tcpDatagram Second.sampleFlow) (fun _ => ⟨0, 0⟩) (fun _ => .zero),
      .udp System.firstSecondary sampleUninit ⟨.local 0x2200, .local 0x2300, bytes⟩,
      .socket default ⟨.local 0x2300, .local 0x2200, ackBytes bytes⟩ fun _ => .zero] ∧
    (Buffer.ofList bytes).CarriesControl msg := by
  obtain ⟨bytes, hbytes⟩ := Option.isSome_iff_exists.1 (Buffer.controlBytes_isSome .zero msg)
  refine ⟨bytes, ?_, Buffer.carriesControl_of_controlBytes hbytes⟩
  rw [ackedEventsOf, controlDatagram, hbytes]
  rfl

/-- The acknowledgement of a control message that is not dropped is put in flight. -/
theorem mem_flight_of_udp {i : Fin 3} {u : Uninit} {d : Datagram} {msg : OctaneControl}
    (hcarries : (Buffer.ofList d.bytes).CarriesControl msg)
    (hack : ((net.secondary i).router.receiveControl msg).2.isSome)
    (h : netStep c rou1Addr net (.udp i u d) = some net') :
    ⟨.local (c.secondPort i), d.src, ackBytes d.bytes⟩ ∈ net'.flight := by
  obtain ⟨-, h⟩ := Option.ite_none_right_eq_some.1 h
  obtain ⟨s, hs, rfl⟩ := Option.map_eq_some_iff.1 h
  have hoctane : octaneOf d.bytes = some msg := (if_pos hcarries.ipP).trans hcarries.octaneUnpack
  have hwell : (SecondEvent.udp u d.bytes d.src).WellFormed := fun _ => hcarries.iIpHeaderLen.ge
  rcases Second.secondStep_cases hwell hs with
    ⟨u', datagram, sender, m, he, hreceived⟩ | ⟨hnone, -⟩
  · obtain ⟨rfl, rfl, rfl⟩ := SecondEvent.udp.inj he
    obtain rfl := Option.some.inj (hoctane.symm.trans hreceived.octane)
    refine List.mem_append_right _ ?_
    rw [hreceived.sent, if_pos hack, List.drop_left]
    exact List.mem_singleton.2 rfl
  · exact absurd (hoctane.symm.trans hnone) (Option.some_ne_none msg)

/-- Nothing waits for the number of an acknowledgement that has been received. -/
theorem not_mem_unAckBuffer_fromSocket (hstage : c.stage ≠ .s9) {b : Buffer} {msg : OctaneControl}
    (hack : b.CarriesControl { msg with octaneFlags := 1 }) (s : Primary) (st : Stack) (iPort : ℤ) :
    (msg.octaneSeqno.toNat : ℤ) ∉ (s.fromSocket c st b.packet iPort).router.unAckBuffer := by
  cases Primary.fromSocket_outcome c s st b.packet iPort with
  | forward hp _ _ => exact absurd hack.ipP hp
  | octane s₀ _ _ _ heq =>
      have hmem : ∀ n, n ∉ (s₀.acknowledge n).channel.unAckBuffer := by
        intro n
        rw [Primary.channel_acknowledge, IntMap.mem_iff]
        rintro ⟨v, hv⟩
        rw [Channel.getElem?_unAckBuffer_acknowledge, if_pos rfl] at hv
        exact absurd hv.symm (Option.some_ne_none v)
      rw [heq, hack.packet_octane, Primary.octaneFromSocket, if_pos rfl,
        if_neg fun h => hstage h.1]
      exact hmem _

theorem exists_acknowledged (hstage : c.stage ≠ .s9) {bytes : List UInt8} {msg : OctaneControl}
    (hcarries : (Buffer.ofList bytes).CarriesControl msg) {src : SockAddr}
    (hmem : ⟨src, rou1Addr, ackBytes bytes⟩ ∈ net.flight) (st : Stack) (IpHeader : ℕ → Buffer) :
    ∃ net', netStep c rou1Addr net (.socket st ⟨src, rou1Addr, ackBytes bytes⟩ IpHeader) =
        some net' ∧ (msg.octaneSeqno.toNat : ℤ) ∉ net'.primary.router.unAckBuffer := by
  have hbytes := Buffer.carriesControl_ackBytes hcarries
  generalize ackBytes bytes = ack at hbytes hmem ⊢
  have hack : (socketBuffer ⟨src, rou1Addr, ack⟩).CarriesControl { msg with octaneFlags := 1 } :=
    hbytes.ofList_take (by omega)
  have hdecodes : (socketBuffer ⟨src, rou1Addr, ack⟩).Decodes :=
    fun _ => Option.isSome_of_eq_some hack.octaneUnpack
  refine ⟨_, (if_pos ⟨hmem, rfl⟩).trans ((if_pos hdecodes).trans rfl), ?_⟩
  exact not_mem_unAckBuffer_fromSocket hstage hack _ _ _

theorem tcp_ackedEventsOf (msg : OctaneControl) : ∀ e ∈ ackedEventsOf msg, e.Tcp := by
  obtain ⟨bytes, hevents, -⟩ := exists_ackedEventsOf msg
  rw [hevents]
  intro e he
  simp only [List.mem_cons, List.not_mem_nil, or_false] at he
  rcases he with rfl | rfl | rfl
  · intro p hp
    obtain rfl := Option.some.inj hp
    exact ⟨by decide, fun _ => by decide⟩
  · trivial
  · trivial

/-- Only the packet from the tunnel gives rise to messages, and nothing waits then. -/
theorem unused_ackedEventsOf (router : CRouter) (hempty : router.unAckBuffer = ∅)
    (auth authRev msg : OctaneControl) :
    Along (netStep c rou1Addr) Unused (start (.start router auth authRev) sampleSecondary)
      (ackedEventsOf msg) := by
  obtain ⟨bytes, hevents, -⟩ := exists_ackedEventsOf msg
  rw [hevents]
  generalize ackBytes bytes = ack
  refine fun net₁ _ => ⟨fun t _ => ⟨?_, ?_⟩, fun net₂ h₂ => ⟨?_, ?_⟩⟩
  · change _ ∉ router.unAckBuffer
    rw [hempty]
    exact Std.ExtTreeMap.not_mem_empty
  · exact fun d hd => absurd hd List.not_mem_nil
  · obtain ⟨-, h₂⟩ := Option.ite_none_right_eq_some.1 h₂
    obtain ⟨s, -, rfl⟩ := Option.map_eq_some_iff.1 h₂
    exact unused_of_created_eq rfl
  · refine fun net₃ h₃ => ⟨?_, trivial⟩
    obtain ⟨-, h₃⟩ := Option.ite_none_right_eq_some.1 h₃
    obtain ⟨-, h₃⟩ := Option.ite_none_right_eq_some.1 h₃
    obtain ⟨s, hs, rfl⟩ := Option.map_eq_some_iff.1 h₃
    obtain rfl := Option.some.inj hs
    exact unused_of_created_eq (Primary.fromSocket_created _ _ _ _ _)

theorem apart_stage6 :
    Config.Apart ⟨.s6, .local 0x2300, 0x2300, 0x2400, 0⟩ sampleChildren (.local 0x2200) where
  stage := rfl
  children := ⟨⟨101, 35, by decide, by decide⟩, ⟨101, 35, by decide, by decide⟩,
    ⟨102, 36, by decide, by decide⟩, fun h => absurd h (by decide)⟩
  child _ := childAddr_sample
  second := by decide

/-- When the message has been delivered, its acknowledgement ends the wait for it. -/
theorem exists_run_ackedEventsOf (primary : Primary) (msg : OctaneControl) (n : List ℤ)
    (h : (run (netStep ⟨.s6, .local 0x2300, 0x2300, 0x2400, 0⟩ (.local 0x2200))
      (start primary sampleSecondary) ((ackedEventsOf msg).take 2)).map
        (fun net => net.primary.router.unAckBuffer.keys) = some n) :
    ∃ net net', run (netStep ⟨.s6, .local 0x2300, 0x2300, 0x2400, 0⟩ (.local 0x2200))
        (start primary sampleSecondary) ((ackedEventsOf msg).take 2) = some net ∧
      net.primary.router.unAckBuffer.keys = n ∧
      run (netStep ⟨.s6, .local 0x2300, 0x2300, 0x2400, 0⟩ (.local 0x2200))
        (start primary sampleSecondary) (ackedEventsOf msg) = some net' ∧
      (msg.octaneSeqno.toNat : ℤ) ∉ net'.primary.router.unAckBuffer := by
  obtain ⟨net, hnet, hn⟩ := Option.map_eq_some_iff.1 h
  obtain ⟨bytes, hevents, hcarries⟩ := exists_ackedEventsOf msg
  have hall : ackedEventsOf msg = (ackedEventsOf msg).take 2 ++
      [.socket default ⟨.local 0x2300, .local 0x2200, ackBytes bytes⟩ fun _ => .zero] := by
    rw [hevents]
    rfl
  have hmem : ⟨.local 0x2300, .local 0x2200, ackBytes bytes⟩ ∈ net.flight := by
    rw [hevents] at hnet
    obtain ⟨net₁, h₁, hrest⟩ := run_cons.1 hnet
    obtain ⟨net₂, h₂, hnil⟩ := run_cons.1 hrest
    obtain rfl := Option.some.inj hnil
    obtain ⟨s, -, rfl⟩ := Option.map_eq_some_iff.1 h₁
    exact mem_flight_of_udp hcarries rfl h₂
  have hstage : Config.stage ⟨.s6, .local 0x2300, 0x2300, 0x2400, 0⟩ ≠ .s9 := by decide
  obtain ⟨net', hack, hnot⟩ := exists_acknowledged hstage hcarries hmem default fun _ => .zero
  refine ⟨net, net', hnet, hn, ?_, hnot⟩
  rw [hall]
  exact run_append.2 ⟨net, hnet, run_cons.2 ⟨net', hack, rfl⟩⟩

end Net
