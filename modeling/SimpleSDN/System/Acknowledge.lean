import SimpleSDN.System.Basic

/-!
# What an acknowledgement acknowledges

Acknowledgements are matched by sequence number alone, and stage 9 sends two
control messages that are not registered: one with the number of the action-5
message and one with the number 0. `Matched` says that every message in flight
under a number that is waited for is the message registered under it. Every step
keeps it as long as no message is sent under the number of another that waits or
is in flight (`Clear`), and then an entry is erased, and its timer removed, only
on an acknowledgement of its own message.
-/

/-- The same flow and the same action. -/
def OctaneControl.SameRule (a b : OctaneControl) : Prop :=
  FlowEntry.ofMsg a = FlowEntry.ofMsg b ∧ a.octaneAction = b.octaneAction

instance (a b : OctaneControl) : Decidable (a.SameRule b) :=
  inferInstanceAs (Decidable (_ ∧ _))

@[simp] theorem controls_append (l l' : List Sent) :
    controls (l ++ l') = controls l ++ controls l' :=
  List.filterMap_append

/-- The control messages of a batch. -/
theorem controls_expire (ts : List OctaneTimer) :
    controls (ts.map OctaneTimer.expire) = ts.map fun t => (t.rou2Addr, t.iOctaneMsg) := by
  induction ts with
  | nil => rfl
  | cons t ts ih => simpa [controls, OctaneTimer.expire] using ih

namespace Primary

/-- From `s` to `s'` the messages `ts` are made, under the next numbers, and sent
among `xs`; nothing is given up. -/
structure Made (s s' : Primary) (ts : List OctaneTimer) (xs : List Sent) : Prop where
  sent : s'.sent = s.sent ++ xs
  messages : (controls xs).map Prod.snd = ts.map OctaneTimer.iOctaneMsg
  created : s'.created = ts.reverse ++ s.created
  numbered : Numbered s.router.iSeqnoCnt ts
  length : ts.length ≤ 4
  action : ∀ t ∈ ts, t.iOctaneMsg.octaneAction ≠ 5
  kept : Channel.Kept s.channel s'.channel

theorem Quiet.made {s s' : Primary} {xs : List Sent} (h : Quiet s s')
    (hsent : s'.sent = s.sent ++ xs) (hxs : controls xs = []) : Made s s' [] xs where
  sent := hsent
  messages := by simp [hxs]
  created := h.created
  numbered := trivial
  length := by simp
  action := by simp
  kept := h.channel ▸ Channel.Kept.refl _

theorem NewFlow.made {s s' : Primary} {st : Stack} {buffer : Packet} {clock : ℕ → Timeval}
    {addr : SockAddr} {ts : List OctaneTimer} (h : NewFlow s s' st buffer clock addr ts)
    (haction : ∀ t ∈ ts, t.iOctaneMsg.octaneAction ≠ 5) :
    Made s s' ts (ts.map OctaneTimer.expire ++ [.data addr buffer]) where
  sent := h.sent.trans (List.append_assoc _ _ _)
  messages := by
    rw [controls_append, controls_expire]
    simp [controls]
  created := Channel.created_of_transmit h.channel
  numbered := h.numbered
  length := h.length
  action := haction
  kept := Channel.kept_of_transmit h.channel

theorem action_of_icmpBatch {c : Config} {st : Stack} {buffer : Packet}
    {ts : List OctaneTimer} (h : IcmpBatch c st buffer ts) :
    ∀ t ∈ ts, t.iOctaneMsg.octaneAction ≠ 5 := by
  unfold IcmpBatch at h
  split_ifs at h
  · obtain ⟨t, rfl, -, -, haction⟩ := h
    have hrule : c.icmpAction st.dstAddr ≠ 5 := by
      unfold Config.icmpAction
      split
      · split_ifs <;> decide
      · decide
    simpa [haction] using hrule
  · obtain ⟨t, t', rfl, -, -, -, -, haction, haction'⟩ := h
    simp [haction, haction']

/-- A packet from the tunnel; each message is sent to the address it is made for. -/
theorem fromTunnel_made {c : Config} {s s' : Primary} {st : Stack} {buffer : Packet}
    {clock : ℕ → Timeval} (h : s.fromTunnel c st buffer clock = some s') :
    ∃ ts xs, Made s s' ts xs ∧ controls xs = ts.map fun t => (t.rou2Addr, t.iOctaneMsg) := by
  have hsent : ∀ (ts : List OctaneTimer) (addr : SockAddr),
      controls (ts.map OctaneTimer.expire ++ [.data addr buffer]) =
        ts.map fun t => (t.rou2Addr, t.iOctaneMsg) := by
    intro ts addr
    rw [controls_append, controls_expire]
    exact List.append_nil _
  cases fromTunnel_outcome h with
  | icmpHit _ _ hquiet hdata => exact ⟨[], _, hquiet.made hdata rfl, rfl⟩
  | icmpMiss ts _ _ hnew hts =>
      exact ⟨ts, _, hnew.made (action_of_icmpBatch hts), hsent ts _⟩
  | tcpHit _ _ _ hquiet hdata => exact ⟨[], _, hquiet.made hdata rfl, rfl⟩
  | tcpMiss ts _ _ _ _ hnew hts =>
      refine ⟨ts, _, hnew.made fun t ht => ?_, hsent ts _⟩
      rw [hts.action t ht]
      decide
  | tcpOther _ _ _ _ hquiet hdata => exact ⟨[], _, hquiet.made hdata rfl, rfl⟩
  | ignored _ _ hquiet hdata =>
      exact ⟨[], _, hquiet.made (hdata.trans (List.append_nil _).symm) rfl, rfl⟩

/-- A control message on the socket: an acknowledgement changes the channel, and
an action-5 message in stage 9 sends messages. -/
theorem fromSocket_octane (c : Config) (s : Primary) (st : Stack) {buffer : Packet} (iPort : ℤ)
    (hp : buffer.ipP = octaneProtocolNum) :
    (s.fromSocket c st buffer iPort).channel =
        (if buffer.octane.octaneFlags = 1 then
          s.channel.acknowledge buffer.octane.octaneSeqno.toNat else s.channel) ∧
      (s.fromSocket c st buffer iPort).created = s.created ∧ ∃ s₀ : Primary,
        s₀.sent = s.sent ∧ (s.fromSocket c st buffer iPort).sent =
        (if c.stage = .s9 ∧ buffer.octane.octaneAction = 5 then
          s₀.authenticate c buffer.octane else s₀).sent := by
  cases fromSocket_outcome c s st buffer iPort with
  | forward hp' => exact absurd hp hp'
  | octane s₀ _ hquiet hsent heq =>
      have hchannel := channel_octaneFromSocket c s₀ buffer.octane
      rw [← heq, hquiet.channel] at hchannel
      refine ⟨hchannel, ?_, _, ?_, by rw [heq]; rfl⟩
      · refine (congrArg Channel.created hchannel).trans ?_
        split_ifs <;> rfl
      · split_ifs
        · exact hsent
        · exact hsent

end Primary

namespace System

open Channel (Registered)

/-- A step from `sys` to `sys'` gives up an entry or a timer only on an
acknowledgement of the message that is registered. -/
structure AckedOnly (sys : System) (e : SysEvent) (sys' : System) : Prop where
  entry : ∀ n : ℤ, n ∈ sys.primary.router.unAckBuffer →
    n ∉ sys'.primary.router.unAckBuffer →
    ∃ msg t, e.received = some msg ∧ msg.octaneFlags = 1 ∧ n = msg.octaneSeqno.toNat ∧
      Registered sys.primary.channel n t ∧ msg.SameRule t.iOctaneMsg
  timer : ∀ p : ℤ × OctaneTimer, p ∈ sys.primary.timersManager.entries →
    p ∉ sys'.primary.timersManager.entries →
    ∃ msg, e.received = some msg ∧ msg.octaneFlags = 1 ∧
      Registered sys.primary.channel msg.octaneSeqno.toNat p.2 ∧ msg.SameRule p.2.iOctaneMsg

/-- No message is sent under the number of another: a new message takes a number
that no message waits for and that no other message in flight has; an action-5
message has the number of no message that waits, and 0 is no such number, unless
that message has the flow and the action of the one that is sent. -/
def Clear (sys : System) (e : SysEvent) (sys' : System) : Prop :=
  match e with
  | .tunnel _ _ _ =>
      ∀ t ∈ Channel.newMessages sys.primary.channel sys'.primary.channel,
        t.iSeq ∉ sys.primary.router.unAckBuffer ∧
          ∀ m ∈ sys.inFlight, (m.octaneSeqno.toNat : ℤ) = t.iSeq → m.SameRule t.iOctaneMsg
  | .portal _ buffer _ =>
      (∀ t, Registered sys.primary.channel buffer.octane.octaneSeqno.toNat t →
        buffer.octane.octaneFlags ≠ 1 ∧ t.iOctaneMsg.octaneAction = 1 ∧
          FlowEntry.ofMsg t.iOctaneMsg = Primary.portalFlow buffer.octane) ∧
        ∀ t, Registered sys.primary.channel 0 t → t.iOctaneMsg.octaneAction = 1 ∧
          FlowEntry.ofMsg t.iOctaneMsg = (Primary.portalFlow buffer.octane).reverse
  | _ => True

/-- Every message in flight under a number that is waited for is the message
registered under it, and none is an action-5 message. -/
structure Matched (sys : System) : Prop where
  reliable : sys.primary.channel.Reliable
  created : ∀ t ∈ sys.primary.created, t.iSeq = t.iOctaneMsg.octaneSeqno.toNat ∧
    t.iOctaneMsg.octaneAction ≠ 5
  action : ∀ m ∈ sys.inFlight, m.octaneAction ≠ 5
  rule : ∀ m ∈ sys.inFlight, ∀ t,
    Registered sys.primary.channel m.octaneSeqno.toNat t → m.SameRule t.iOctaneMsg

theorem registered_mem {C : Channel} {n : ℤ} {t : OctaneTimer} (h : Registered C n t) :
    n ∈ C.unAckBuffer := by
  obtain ⟨hdl, hn, -⟩ := h
  exact (IntMap.mem_iff _ _).2 ⟨hdl, hn⟩

variable {c : Config} {sys sys' : System}

theorem primary_of_react_socket {st : Stack} {buffer : Packet} {iPort : ℤ}
    (h : sys.react c (.socket st buffer iPort) = some sys') :
    sys'.primary = sys.primary.fromSocket c st buffer iPort := by
  obtain ⟨s', hprim, rfl⟩ := Option.map_eq_some_iff.1 h
  exact (Option.some.inj hprim).symm

/-- A control message on the socket. -/
theorem channel_of_received (c : Config) (s : Primary) (st : Stack) {buffer : Packet}
    (iPort : ℤ) (hp : buffer.ipP = octaneProtocolNum) :
    Channel.Kept s.channel (s.fromSocket c st buffer iPort).channel ∨
      buffer.octane.octaneFlags = 1 ∧ (s.fromSocket c st buffer iPort).channel =
        s.channel.acknowledge buffer.octane.octaneSeqno.toNat := by
  have hchannel := (s.fromSocket_octane c st iPort hp).1
  split_ifs at hchannel with hflags
  · exact Or.inr ⟨hflags, hchannel⟩
  · exact Or.inl (hchannel ▸ Channel.Kept.refl _)

/-- A step gives up an entry or a timer only on an acknowledgement. -/
theorem kept_or_acknowledged {e : SysEvent} (hstep : sysStep c sys e = some sys') :
    Channel.Kept sys.primary.channel sys'.primary.channel ∨
      ∃ msg, e.received = some msg ∧ msg.octaneFlags = 1 ∧
        sys'.primary.channel = sys.primary.channel.acknowledge msg.octaneSeqno.toNat := by
  cases e with
  | tunnel st buffer clock =>
      obtain ⟨s', hprim, rfl⟩ := Option.map_eq_some_iff.1 hstep
      obtain ⟨ts, xs, hmade, -⟩ := Primary.fromTunnel_made hprim
      exact Or.inl hmade.kept
  | expire now =>
      obtain ⟨s', hprim, rfl⟩ := Option.map_eq_some_iff.1 hstep
      obtain ⟨⟨T, t⟩, hexec, rfl⟩ := Option.map_eq_some_iff.1 hprim
      exact Or.inl (Channel.kept_of_expire hexec)
  | packet st buffer iPort =>
      obtain ⟨hp, hreact⟩ := Option.ite_none_right_eq_some.1 hstep
      rw [primary_of_react_socket hreact]
      cases Primary.fromSocket_outcome c sys.primary st buffer iPort with
      | octane _ hp' => exact absurd hp' hp
      | forward _ hquiet _ => exact Or.inl (hquiet.channel ▸ Channel.Kept.refl _)
  | portal st buffer iPort =>
      obtain ⟨⟨hp, -⟩, hreact⟩ := Option.ite_none_right_eq_some.1 hstep
      rw [primary_of_react_socket hreact]
      exact (channel_of_received c sys.primary st iPort hp).imp_right fun h => ⟨_, rfl, h⟩
  | ack st buffer iPort =>
      obtain ⟨⟨hp, -⟩, hreact⟩ := Option.ite_none_right_eq_some.1 hstep
      rw [primary_of_react_socket hreact]
      exact (channel_of_received c sys.primary st iPort hp).imp_right fun h => ⟨_, rfl, h⟩
  | deliver i msg =>
      obtain ⟨-, heq⟩ := Option.ite_none_right_eq_some.1 hstep
      rw [← Option.some.inj heq]
      exact Or.inl (Channel.Kept.refl _)
  | network control acks =>
      obtain ⟨-, heq⟩ := Option.ite_none_right_eq_some.1 hstep
      rw [← Option.some.inj heq]
      exact Or.inl (Channel.Kept.refl _)

namespace Matched

/-- Fewer messages in flight. -/
theorem of_subset (h : Matched sys) (hprimary : sys'.primary = sys.primary)
    (hsub : sys'.inFlight ⊆ sys.inFlight) : Matched sys' where
  reliable := hprimary ▸ h.reliable
  created := hprimary ▸ h.created
  action m hm := h.action m (hsub hm)
  rule m hm := hprimary ▸ h.rule m (hsub hm)

/-- After a reaction of the primary router: the new messages in flight have to be
checked against what waits, and the new messages that wait against what is in
flight. -/
theorem react {e : PrimEvent} {xs : List Sent} (h : Matched sys)
    (hreact : sys.react c e = some sys')
    (hsent : sys'.primary.sent = sys.primary.sent ++ xs)
    (hfresh : Channel.Fresh sys.primary.channel sys'.primary.channel)
    (hcreated : ∀ t ∈ sys'.primary.created, t.iSeq = t.iOctaneMsg.octaneSeqno.toNat ∧
      t.iOctaneMsg.octaneAction ≠ 5)
    (hold : ∀ t ∈ Channel.newMessages sys.primary.channel sys'.primary.channel,
      ∀ m ∈ sys.inFlight, (m.octaneSeqno.toNat : ℤ) = t.iSeq → m.SameRule t.iOctaneMsg)
    (hnew : ∀ m ∈ (controls xs).map Prod.snd, m.octaneAction ≠ 5 ∧ ∀ t,
      Registered sys'.primary.channel m.octaneSeqno.toNat t → m.SameRule t.iOctaneMsg) :
    Matched sys' := by
  obtain ⟨s', hstep, rfl⟩ := Option.map_eq_some_iff.1 hreact
  have hchannel := primStep_channel hstep
  have hflight : ∀ m ∈ ({ sys with
      primary := s'
      control := sys.control ++ controls (s'.sent.drop sys.primary.sent.length) } :
        System).inFlight, m ∈ sys.inFlight ∨ m ∈ (controls xs).map Prod.snd := by
    intro m hm
    dsimp only at hsent
    simp only [inFlight, hsent, List.drop_left, List.map_append, List.mem_append] at hm ⊢
    grind
  have hreliable := h.reliable.step hchannel hfresh
  refine ⟨hreliable, hcreated, fun m hm => ?_, fun m hm t ht => ?_⟩
  · rcases hflight m hm with hm | hm
    · exact h.action m hm
    · exact (hnew m hm).1
  · rcases hflight m hm with hm | hm
    · rcases h.reliable.registered_of_step hchannel hfresh ht with hreg | hmade
      · exact h.rule m hm t hreg
      · exact hold t hmade m hm (hreliable.registered_iff.1 ht).1.symm
    · exact (hnew m hm).2 t ht

/-- After a reaction that makes no message. -/
theorem react_of_created_eq {e : PrimEvent} {xs : List Sent} (h : Matched sys)
    (hreact : sys.react c e = some sys')
    (hsent : sys'.primary.sent = sys.primary.sent ++ xs)
    (hcreated : sys'.primary.created = sys.primary.created)
    (hnew : ∀ m ∈ (controls xs).map Prod.snd, m.octaneAction ≠ 5 ∧ ∀ t,
      Registered sys.primary.channel m.octaneSeqno.toNat t → m.SameRule t.iOctaneMsg) :
    Matched sys' := by
  have hnone : Channel.newMessages sys.primary.channel sys'.primary.channel = [] :=
    Channel.newMessages_of_created_eq hcreated
  have hfresh : Channel.Fresh sys.primary.channel sys'.primary.channel :=
    Channel.fresh_of_created_eq hcreated
  refine h.react hreact hsent hfresh (hcreated ▸ h.created) ?_ fun m hm => ?_
  · intro t ht
    rw [hnone] at ht
    exact absurd ht List.not_mem_nil
  · refine ⟨(hnew m hm).1, fun t ht => (hnew m hm).2 t ?_⟩
    obtain ⟨s', hstep, rfl⟩ := Option.map_eq_some_iff.1 hreact
    have hreg := h.reliable.registered_of_step (primStep_channel hstep) hfresh ht
    refine hreg.resolve_right fun hmade => ?_
    rw [hnone] at hmade
    exact absurd hmade List.not_mem_nil

/-- A packet from the tunnel: a new message is the one registered under its
number. -/
theorem tunnel (h : Matched sys) {st : Stack} {buffer : Packet} {clock : ℕ → Timeval}
    (hstep : sysStep c sys (.tunnel st buffer clock) = some sys')
    (hclear : Clear sys (.tunnel st buffer clock) sys') :
    Matched sys' := by
  obtain ⟨s', hprim, heq⟩ := Option.map_eq_some_iff.1 hstep
  obtain ⟨ts, xs, hmade, -⟩ := Primary.fromTunnel_made hprim
  have hchannel := primStep_channel hprim
  have hs' : sys'.primary = s' := by rw [← heq]
  have hnewts : Channel.newMessages sys.primary.channel sys'.primary.channel = ts.reverse := by
    rw [hs']
    exact Channel.newMessages_of_append hmade.created
  have hfresh : Channel.Fresh sys.primary.channel sys'.primary.channel :=
    fun t ht => (hclear t ht).1
  have hmadets : ∀ t ∈ ts, t ∈ Channel.newMessages sys.primary.channel sys'.primary.channel := by
    intro t ht
    rw [hnewts]
    exact List.mem_reverse.2 ht
  refine h.react hstep (hs' ▸ hmade.sent) hfresh ?_ (fun t ht => (hclear t ht).2) ?_
  · intro t ht
    rw [hs', hmade.created] at ht
    rcases List.mem_append.1 ht with ht | ht
    · have ht := List.mem_reverse.1 ht
      exact ⟨hmade.numbered.iSeq_eq t ht, hmade.action t ht⟩
    · exact h.created t ht
  · intro m hm
    rw [hmade.messages] at hm
    obtain ⟨u, hu, rfl⟩ := List.mem_map.1 hm
    refine ⟨hmade.action u hu, fun t ht => ?_⟩
    have huseq := hmade.numbered.iSeq_eq u hu
    rw [hs'] at ht hfresh
    have htseq := ((h.reliable.step hchannel hfresh).registered_iff.1 ht).1
    rcases h.reliable.registered_of_step hchannel hfresh ht with hreg | htmade
    · refine absurd (registered_mem hreg) ?_
      rw [← huseq]
      exact (hclear u (hmadets u hu)).1
    · rw [← hs', hnewts, List.mem_reverse] at htmade
      have heq : u = t := List.inj_on_of_nodup_map
        (hmade.numbered.nodup (hmade.length.trans (by decide))) hu htmade (huseq.trans htseq.symm)
      subst heq
      exact ⟨rfl, rfl⟩

/-- An expiry: the timer resends its own message. -/
theorem expire (h : Matched sys) {now : Timeval}
    (hstep : sysStep c sys (.expire now) = some sys') :
    Matched sys' := by
  obtain ⟨s', hprim, heq⟩ := Option.map_eq_some_iff.1 hstep
  obtain ⟨⟨T, t⟩, hexec, hs'⟩ := Option.map_eq_some_iff.1 hprim
  obtain ⟨-, -, hdl, ht⟩ := Timers.of_executeNextTimer hexec
  have hreg : Registered sys.primary.channel t.iSeq t :=
    h.reliable.registered_iff.2 ⟨rfl, hdl, ht⟩
  have hseq := h.created t (List.mem_of_find?_eq_some (h.reliable.resends hdl t ht))
  have hprimary : sys'.primary = { sys.primary with timersManager := T }.send t.expire := by
    rw [← heq, ← hs']
  have hsent : sys'.primary.sent = sys.primary.sent ++ [t.expire] := by rw [hprimary]; rfl
  refine h.react_of_created_eq hstep hsent (hprimary ▸ rfl) ?_
  intro m hm
  obtain rfl : m = t.iOctaneMsg := by simpa [controls, OctaneTimer.expire] using hm
  refine ⟨hseq.2, fun u hu => ?_⟩
  rw [← hseq.1] at hu
  obtain rfl := h.reliable.registered_unique hreg hu
  exact ⟨rfl, rfl⟩

/-- A packet that a secondary router passes on. -/
theorem packet (h : Matched sys) {st : Stack} {buffer : Packet} {iPort : ℤ}
    (hstep : sysStep c sys (.packet st buffer iPort) = some sys') :
    Matched sys' := by
  obtain ⟨hp, hreact⟩ := Option.ite_none_right_eq_some.1 hstep
  have hprimary := primary_of_react_socket hreact
  cases Primary.fromSocket_outcome c sys.primary st buffer iPort with
  | forward _ hquiet hsent =>
      rw [← hprimary] at hquiet hsent
      have hxs : ∃ xs, sys'.primary.sent = sys.primary.sent ++ xs ∧ controls xs = [] := by
        rcases hsent with hsent | hsent
        · exact ⟨[], hsent.trans (List.append_nil _).symm, rfl⟩
        · exact ⟨_, hsent, rfl⟩
      obtain ⟨xs, hsent, hxs⟩ := hxs
      refine h.react_of_created_eq hreact hsent hquiet.created ?_
      simp [hxs]
  | octane _ hp' => exact absurd hp' hp

/-- An acknowledgement; it is no action-5 message. -/
theorem ack (h : Matched sys) {st : Stack} {buffer : Packet} {iPort : ℤ}
    (hstep : sysStep c sys (.ack st buffer iPort) = some sys') : Matched sys' := by
  obtain ⟨⟨hp, hmem⟩, hreact⟩ := Option.ite_none_right_eq_some.1 hstep
  have hprimary := primary_of_react_socket hreact
  have haction := h.action _ (List.mem_append_right _ hmem)
  obtain ⟨-, hcreated, s₀, hsent₀, hsent⟩ := sys.primary.fromSocket_octane c st iPort hp
  rw [← hprimary] at hcreated hsent
  rw [if_neg fun h5 => haction h5.2, hsent₀, ← List.append_nil sys.primary.sent] at hsent
  have hfewer : Matched { sys with acks := sys.acks.erase buffer.octane } := by
    refine h.of_subset rfl ?_
    intro m hm
    rcases List.mem_append.1 hm with hm | hm
    · exact List.mem_append_left _ hm
    · exact List.mem_append_right _ (List.mem_of_mem_erase hm)
  exact hfewer.react_of_created_eq hreact hsent hcreated (by simp [controls])

/-- An action-5 message: the two messages that are sent are not those of others
that wait. -/
theorem portal (h : Matched sys) {st : Stack} {buffer : Packet} {iPort : ℤ}
    (hstep : sysStep c sys (.portal st buffer iPort) = some sys')
    (hclear : Clear sys (.portal st buffer iPort) sys') : Matched sys' := by
  obtain ⟨⟨hp, -⟩, hreact⟩ := Option.ite_none_right_eq_some.1 hstep
  have hprimary := primary_of_react_socket hreact
  obtain ⟨-, hcreated, s₀, hsent₀, hsent⟩ := sys.primary.fromSocket_octane c st iPort hp
  rw [← hprimary] at hcreated hsent
  obtain ⟨hforward, hreverse⟩ := hclear
  split_ifs at hsent with h9
  · obtain ⟨msg, msgRev, hauth, hseq, hseqRev, hflow, hflowRev, haction, hactionRev⟩ :=
      s₀.sent_authenticate c buffer.octane
    rw [hauth, hsent₀] at hsent
    refine h.react_of_created_eq hreact hsent hcreated ?_
    intro m hm
    have hm : m = msg ∨ m = msgRev := by simpa [controls] using hm
    rcases hm with rfl | rfl
    · rw [haction, hseq]
      refine ⟨by decide, fun t ht => ?_⟩
      obtain ⟨-, htaction, htflow⟩ := hforward t ht
      exact ⟨hflow.trans htflow.symm, haction.trans htaction.symm⟩
    · rw [hactionRev, hseqRev]
      refine ⟨by decide, fun t ht => ?_⟩
      obtain ⟨htaction, htflow⟩ := hreverse t ht
      exact ⟨hflowRev.trans htflow.symm, hactionRev.trans htaction.symm⟩
  · rw [hsent₀, ← List.append_nil sys.primary.sent] at hsent
    exact h.react_of_created_eq hreact hsent hcreated (by simp [controls])

/-- A secondary router's acknowledgement repeats what it has received. -/
theorem deliver (h : Matched sys) {i : Fin 3} {msg : OctaneControl}
    (hstep : sysStep c sys (.deliver i msg) = some sys') : Matched sys' := by
  obtain ⟨hmem, heq⟩ := Option.ite_none_right_eq_some.1 hstep
  have heq := Option.some.inj heq
  have hprimary : sys'.primary = sys.primary := by rw [← heq]; rfl
  have hmsg : msg ∈ sys.inFlight :=
    List.mem_append_left _ (List.mem_map.2 ⟨_, hmem, rfl⟩)
  have hflight : ∀ m ∈ sys'.inFlight, m ∈ sys.inFlight ∨ m = octaneReplyEdit msg := by
    intro m hm
    rw [← heq] at hm
    rcases List.mem_append.1 hm with hm | hm
    · obtain ⟨d, hd, rfl⟩ := List.mem_map.1 hm
      exact Or.inl (List.mem_append_left _ (List.mem_map_of_mem (List.mem_of_mem_erase hd)))
    · rcases List.mem_append.1 hm with hm | hm
      · exact Or.inl (List.mem_append_right _ hm)
      · exact Or.inr (CRouter.eq_of_mem_receiveControl hm)
  refine ⟨hprimary ▸ h.reliable, hprimary ▸ h.created, fun m hm => ?_, fun m hm => ?_⟩
  · rcases hflight m hm with hm | rfl
    · exact h.action m hm
    · exact h.action msg hmsg
  · rw [hprimary]
    rcases hflight m hm with hm | rfl
    · exact h.rule m hm
    · exact h.rule msg hmsg

/-- The network loses, repeats and reorders what is in flight. -/
theorem network (h : Matched sys) {control : List (SockAddr × OctaneControl)}
    {acks : List OctaneControl} (hstep : sysStep c sys (.network control acks) = some sys') :
    Matched sys' := by
  obtain ⟨⟨hcontrol, hacks⟩, heq⟩ := Option.ite_none_right_eq_some.1 hstep
  obtain rfl := Option.some.inj heq
  refine h.of_subset rfl ?_
  intro m hm
  rcases List.mem_append.1 hm with hm | hm
  · exact List.mem_append_left _ (List.map_subset _ hcontrol hm)
  · exact List.mem_append_right _ (hacks hm)

/-- One step of the system. -/
theorem step {e : SysEvent} (h : Matched sys) (hstep : sysStep c sys e = some sys')
    (hclear : Clear sys e sys') : Matched sys' := by
  cases e with
  | tunnel st buffer clock => exact h.tunnel hstep hclear
  | expire now => exact h.expire hstep
  | packet st buffer iPort => exact h.packet hstep
  | portal st buffer iPort => exact h.portal hstep hclear
  | ack st buffer iPort => exact h.ack hstep
  | deliver i msg => exact h.deliver hstep
  | network control acks => exact h.network hstep

/-- An acknowledgement that is received is one of the message registered under its
number. -/
theorem received_sameRule {e : SysEvent} {msg : OctaneControl} {t : OctaneTimer}
    (h : Matched sys) (hstep : sysStep c sys e = some sys') (hclear : Clear sys e sys')
    (he : e.received = some msg) (hflags : msg.octaneFlags = 1)
    (ht : Registered sys.primary.channel msg.octaneSeqno.toNat t) :
    msg.SameRule t.iOctaneMsg := by
  cases e with
  | portal st buffer iPort =>
      obtain rfl := Option.some.inj he
      exact absurd hflags (hclear.1 t ht).1
  | ack st buffer iPort =>
      obtain rfl := Option.some.inj he
      have hmem := (Option.ite_none_right_eq_some.1 hstep).1.2
      exact h.rule _ (List.mem_append_right _ hmem) t ht
  | _ => exact absurd he (Option.some_ne_none msg).symm

/-- A step gives up only what is registered under the number of an acknowledgement. -/
theorem ackedOnly {e : SysEvent} (h : Matched sys) (hstep : sysStep c sys e = some sys')
    (hclear : Clear sys e sys') : AckedOnly sys e sys' := by
  rcases kept_or_acknowledged hstep with hkept | ⟨msg, he, hflags, hchannel⟩
  · exact ⟨fun n hn hn' => absurd (hkept.entry n hn) hn',
      fun p hp hp' => absurd (hkept.timer p hp) hp'⟩
  · have hrule := fun t => h.received_sameRule hstep hclear he hflags (t := t)
    constructor
    · intro n hn hn'
      have hn' : n ∉ sys'.primary.channel.unAckBuffer := hn'
      rw [hchannel] at hn'
      obtain rfl := Channel.eq_of_erased hn hn'
      obtain ⟨t, ht⟩ := h.reliable.exists_registered hn
      exact ⟨msg, t, he, hflags, rfl, ht, hrule t ht⟩
    · intro p hp hp'
      have hp' : p ∉ sys'.primary.channel.timersManager.entries := hp'
      rw [hchannel] at hp'
      have ht := h.reliable.registered_of_acknowledge hp hp'
      exact ⟨msg, he, hflags, ht, hrule p.2 ht⟩

end Matched

/-- Along every run of the system in which no message is sent under the number of
another, an entry is erased, and its timer removed, only on an acknowledgement of
the message that is registered under it. -/
theorem ackedOnly_of_run (c : Config) (router : CRouter) (auth authRev : OctaneControl)
    (secondary : Fin 3 → CRouter) (es : List SysEvent) (hempty : router.unAckBuffer = ∅)
    (hclear : Along (sysStep c) Clear (start (.start router auth authRev) secondary) es) :
    Along (sysStep c) AckedOnly (start (.start router auth authRev) secondary) es := by
  have hreliable : (Primary.start router auth authRev).channel.Reliable := by
    change Channel.Reliable ⟨router.unAckBuffer, .init, [], router.iSeqnoCnt⟩
    rw [hempty]
    exact Channel.reliable_empty _
  have hstart : Matched (start (.start router auth authRev) secondary) := by
    refine ⟨hreliable, ?_, ?_, ?_⟩
    · simp [start, Primary.start]
    · simp [start, inFlight]
    · simp [start, inFlight]
  refine Along.imp_of_invariant (I := Matched) ?_ hstart hclear
  intro sys e sys' h hstep hclear
  exact ⟨h.step hstep hclear, h.ackedOnly hstep hclear⟩

/-! ### Runs -/

/-- Stage 9 with the ports of three secondary routers. -/
def sampleConfig : Config := ⟨.s9, .local 0x2300, 0x2300, 0x2400, 0x2500⟩

/-- Four routers that have just been made. -/
def sample : System :=
  start sampleStart fun _ => .init 0 (.none _ _) (.none _ _) (.none _ _)

/-- The first of the three secondary routers. -/
def firstSecondary : Fin 3 := 0

/-- A control message as a packet. -/
def samplePacketOf (msg : OctaneControl) : Packet :=
  { (default : Packet) with ipP := octaneProtocolNum, octane := msg }

/-- An HTTP flow whose forward message is delivered and acknowledged, and then an action-5
message for it, with a number that is not waited for. -/
def loginRun : List SysEvent :=
  [.tunnel default (samplePacket 0x5000) fun _ => ⟨0, 0⟩,
    .deliver 2 ⟨1, 0, 1, 0x0A00A8C0, 0x0133050A, 0x1027, 0x5000, 6, 0⟩,
    .ack default (samplePacketOf ⟨1, 1, 1, 0x0A00A8C0, 0x0133050A, 0x1027, 0x5000, 6, 0⟩) 2500,
    .portal default (samplePacketOf ⟨5, 0, 7, 0xC0A8000A, 0x0133050A, 0x1027, 0x5000, 6, 0⟩) 6000,
    .deliver 0 ⟨1, 0, 7, 0x0A00A8C0, 0x0133050A, 0x1027, 0x5000, 6, 0⟩,
    .ack default (samplePacketOf ⟨1, 1, 7, 0x0A00A8C0, 0x0133050A, 0x1027, 0x5000, 6, 0⟩) 2300]

theorem clear_loginRun : Along (sysStep sampleConfig) Clear sample loginRun := by
  have hwait : ∀ sys ∈ run (sysStep sampleConfig) sample (loginRun.take 3),
      (7 : ℤ) ∉ sys.primary.router.unAckBuffer ∧ (0 : ℤ) ∉ sys.primary.router.unAckBuffer := by
    decide +kernel
  refine fun sys₁ h₁ => ⟨?_, fun sys₂ h₂ => ⟨trivial, fun sys₃ h₃ => ⟨trivial, fun sys₄ h₄ =>
    ⟨?_, fun sys₅ h₅ => ⟨trivial, fun sys₆ h₆ => ⟨trivial, trivial⟩⟩⟩⟩⟩⟩
  · exact fun t _ => ⟨Std.ExtTreeMap.not_mem_empty, fun m hm => absurd hm List.not_mem_nil⟩
  · have hrun : run (sysStep sampleConfig) sample (loginRun.take 3) = some sys₃ :=
      run_cons.2 ⟨sys₁, h₁, run_cons.2 ⟨sys₂, h₂, run_cons.2 ⟨sys₃, h₃, rfl⟩⟩⟩
    obtain ⟨h7, h0⟩ := hwait sys₃ hrun
    exact ⟨fun t ht => absurd (registered_mem ht) h7, fun t ht => absurd (registered_mem ht) h0⟩

/-- Only the entry of the acknowledged message is erased. -/
theorem ackedOnly_loginRun :
    (run (sysStep sampleConfig) sample loginRun).map
        (fun sys => sys.primary.router.unAckBuffer.keys) = some [2] ∧
      Along (sysStep sampleConfig) AckedOnly sample loginRun :=
  ⟨by decide +kernel, ackedOnly_of_run _ _ _ _ _ _ rfl clear_loginRun⟩

/-- An HTTP flow, and then an action-5 message for the flow of another host that
has the number of the first control message. -/
def portalRun : List SysEvent :=
  [.tunnel default (samplePacket 0x5000) fun _ => ⟨0, 0⟩,
    .portal default (samplePacketOf ⟨5, 0, 1, 0xC0A8000B, 0x0133050A, 0x1127, 0x5000, 6, 0⟩) 6000,
    .deliver 0 ⟨1, 0, 1, 0x0B00A8C0, 0x0133050A, 0x1127, 0x5000, 6, 0⟩]

/-- The acknowledgement of the message that the action-5 message gives rise to. -/
def portalAck : SysEvent :=
  .ack default (samplePacketOf ⟨1, 1, 1, 0x0B00A8C0, 0x0133050A, 0x1127, 0x5000, 6, 0⟩) 2300

/-- That acknowledgement erases the entry of the first control message. -/
theorem not_ackedOnly_portalRun :
    ¬ Along (sysStep sampleConfig) AckedOnly sample (portalRun ++ [portalAck]) := by
  intro h
  have hafter : (run (sysStep sampleConfig) sample (portalRun ++ [portalAck])).map
      (fun sys => decide ((1 : ℤ) ∈ sys.primary.router.unAckBuffer)) = some false := by
    decide +kernel
  have hbefore : (run (sysStep sampleConfig) sample portalRun).map
      (fun sys => (decide ((1 : ℤ) ∈ sys.primary.router.unAckBuffer),
        sys.primary.timersManager.entries)) =
      some (true,
        [(2, ⟨⟨1, 0, 2, 0x0133050A, 0x0A00A8C0, 0x5000, 0x1027, 6, 4000⟩, 2, .local 0x2500⟩),
          (1, ⟨⟨1, 0, 1, 0x0A00A8C0, 0x0133050A, 0x1027, 0x5000, 6, 0⟩, 1, .local 0x2500⟩)]) := by
    decide +kernel
  obtain ⟨sys', hrun', hn'⟩ := Option.map_eq_some_iff.1 hafter
  obtain ⟨sys, hrun, hsys⟩ := Option.map_eq_some_iff.1 hbefore
  obtain ⟨hn, hentries⟩ := Prod.mk.inj hsys
  obtain ⟨sys₁, hrun₁, hlast⟩ := run_append.1 hrun'
  obtain rfl := Option.some.inj (hrun.symm.trans hrun₁)
  obtain ⟨sys₂, hstep, hnil⟩ := run_cons.1 hlast
  obtain rfl : sys₂ = sys' := by simpa using hnil
  obtain ⟨msg, t, hmsg, -, -, ⟨hdl, -, ht⟩, hrule⟩ :=
    (h.of_append hrun sys₂ hstep).1.entry 1 (of_decide_eq_true hn) (of_decide_eq_false hn')
  obtain rfl := Option.some.inj hmsg
  change (hdl, t) ∈ sys.primary.timersManager.entries at ht
  simp only [hentries, List.mem_cons, Prod.mk.injEq, List.not_mem_nil, or_false] at ht
  rcases ht with ⟨-, rfl⟩ | ⟨-, rfl⟩
  · exact absurd hrule (by decide)
  · exact absurd hrule (by decide)

end System
