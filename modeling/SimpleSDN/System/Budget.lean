import Mathlib.Data.Finset.Order
import SimpleSDN.System.Settled
import SimpleSDN.Timers.Clock

/-!
# Which messages can still be acknowledged

A secondary router acknowledges a content `drop_after` times and then no more, while the
primary router waits for an acknowledgement and resends without end. `mayErase_iff` says
when a message that waits can still be acknowledged: an acknowledgement is in flight, or
the secondary router has received the content less than `drop_after` times. Otherwise its
timer stays in the queue for ever.
-/

namespace Timeval

/-- Time that is added does not reduce the seconds. -/
theorem tvSec_le_addmsecs (tv : Timeval) (msecs : ℤ) : tv.tvSec ≤ (tv.addmsecs msecs).tvSec := by
  have hadd : ∀ (tv : Timeval) (usecs : ℤ), tv.tvSec ≤ (tv.addusecs usecs).tvSec := by
    intro tv usecs
    unfold addusecs
    split_ifs with hcarry
    · dsimp only
      omega
    · exact le_rfl
  unfold addmsecs
  split_ifs with hsecs
  · refine le_trans ?_ (hadd _ _)
    dsimp only
    omega
  · exact hadd _ _

end Timeval

/-- An event that expires after all others goes to the end. -/
theorem eqAdd_of_later {α : Type} {n : Event α} {q : List (Event α)}
    (h : ∀ e ∈ q, e.tv.tvSec < n.tv.tvSec) : eqAdd n q = q ++ [n] := by
  induction q with
  | nil => rfl
  | cons ptr rest ih =>
      have hptr : n.tv.cmp ptr.tv > 0 :=
        Timeval.cmp_pos_iff.2 (Or.inl (h ptr List.mem_cons_self))
      rw [eqAdd, if_pos hptr, ih fun e he => h e (List.mem_cons_of_mem ptr he), List.cons_append]

namespace Timers

variable {α : Type} {T : Timers α} {e : Event α} {rest : List (Event α)}

/-- At some time the head, when it is run, goes to the end of the queue. -/
theorem exists_executeNextTimer (h : T.eq = e :: rest) :
    ∃ now e', T.executeNextTimer now = some (⟨T.nextHandle, rest ++ [e']⟩, e.cb) := by
  obtain ⟨bound, hbound⟩ := (rest.map fun e => e.tv.tvSec).toFinset.exists_le
  refine ⟨⟨bound + 1, 0⟩, { e with tv := (⟨bound + 1, 0⟩ : Timeval).addmsecs e.timeout }, ?_⟩
  have hlater : ∀ x ∈ rest, x.tv.tvSec <
      ((⟨bound + 1, 0⟩ : Timeval).addmsecs e.timeout).tvSec := by
    intro x hx
    have hx : x.tv.tvSec ≤ bound := hbound _ (by simpa using ⟨x, hx, rfl⟩)
    have hsec := Timeval.tvSec_le_addmsecs ⟨bound + 1, 0⟩ e.timeout
    dsimp only at hsec
    omega
  unfold executeNextTimer
  rw [h]
  dsimp only
  rw [eqAdd_of_later hlater]

end Timers

/-- The control message that the secondary router `i` receives in the event. -/
def SysEvent.deliveredTo (i : Fin 3) : SysEvent → Option OctaneControl
  | .deliver j msg => if j = i then some msg else none
  | _ => none

namespace System

open Channel (Registered)

variable {c : Config} {sys sys' : System} {n : ℤ} {t : OctaneTimer}

/-- The control messages that the secondary router `i` has received in the events. -/
def delivered (i : Fin 3) (es : List SysEvent) : List OctaneControl :=
  es.filterMap (SysEvent.deliveredTo i)

/-- The system can go on, with TCP flows and new numbers only, so that `n` is erased. -/
def MayErase (c : Config) (sys : System) (n : ℤ) : Prop :=
  ∃ es sys', (∀ e ∈ es, e.Tcp) ∧ Along (sysStep c) Unused sys es ∧
    run (sysStep c) sys es = some sys' ∧ n ∉ sys'.primary.router.unAckBuffer

/-- Events other than packets from the tunnel suffice. -/
theorem mayErase_of_run {es : List SysEvent}
    (hes : ∀ e ∈ es, e.Tcp ∧ ∀ st buffer clock, e ≠ .tunnel st buffer clock)
    (hrun : run (sysStep c) sys es = some sys') (hgone : n ∉ sys'.primary.router.unAckBuffer) :
    MayErase c sys n :=
  ⟨es, sys', fun e he => (hes e he).1,
    along_of_not_tunnel (fun _ _ _ => unused_of_created_eq) fun e he => (hes e he).2, hrun, hgone⟩

/-! ### How a message is acknowledged -/

/-- The timer at the head of the queue resends its message. -/
theorem exists_expire {e : Event OctaneTimer} {rest : List (Event OctaneTimer)}
    (h : sys.primary.timersManager.eq = e :: rest) :
    ∃ now sys' e', sysStep c sys (.expire now) = some sys' ∧
      sys'.primary.timersManager.eq = rest ++ [e'] ∧
      (e.cb.rou2Addr, e.cb.iOctaneMsg) ∈ sys'.control ∧ sys'.secondary = sys.secondary := by
  obtain ⟨now, e', hexec⟩ := Timers.exists_executeNextTimer h
  have hprim : primStep c sys.primary (.expire now) = some
      ({ sys.primary with
        timersManager := ⟨sys.primary.timersManager.nextHandle, rest ++ [e']⟩ }.send
          e.cb.expire) := Option.map_eq_some_iff.2 ⟨_, hexec, rfl⟩
  refine ⟨now, _, e', Option.map_eq_some_iff.2 ⟨_, hprim, rfl⟩, rfl, ?_, rfl⟩
  refine List.mem_append_right _ ?_
  rw [@Primary.drop_sent sys.primary _ [e.cb.expire] rfl]
  exact List.mem_singleton.2 rfl

/-- Any timer of the queue does so after those before it. -/
theorem exists_resend {pre post : List (Event OctaneTimer)} {e : Event OctaneTimer}
    (h : sys.primary.timersManager.eq = pre ++ e :: post) :
    ∃ (nows : List Timeval) (sys' : System),
      run (sysStep c) sys (nows.map SysEvent.expire) = some sys' ∧
      (e.cb.rou2Addr, e.cb.iOctaneMsg) ∈ sys'.control ∧ sys'.secondary = sys.secondary := by
  induction pre generalizing sys post with
  | nil =>
      obtain ⟨now, sys', -, hstep, -, hmem, hsecondary⟩ := exists_expire (c := c) h
      exact ⟨[now], sys', run_cons.2 ⟨sys', hstep, rfl⟩, hmem, hsecondary⟩
  | cons x pre ih =>
      have h : sys.primary.timersManager.eq = x :: (pre ++ e :: post) := h
      obtain ⟨now, sys₁, x', hstep, hqueue, -, hsecondary⟩ := exists_expire (c := c) h
      rw [List.append_assoc, List.cons_append] at hqueue
      obtain ⟨nows, sys', hrun, hmem, hsecondary'⟩ := ih hqueue
      exact ⟨now :: nows, sys', run_cons.2 ⟨sys₁, hstep, hrun⟩, hmem,
        hsecondary'.trans hsecondary⟩

/-- An acknowledgement in flight can arrive, and it erases its number. -/
theorem exists_ack {a : OctaneControl} (ha : a ∈ sys.acks) (hflags : a.octaneFlags = 1) :
    ∃ sys', sysStep c sys (.ack default (samplePacketOf a) 0) = some sys' ∧
      (a.octaneSeqno.toNat : ℤ) ∉ sys'.primary.router.unAckBuffer := by
  refine ⟨_, (if_pos ⟨rfl, ha⟩).trans rfl, ?_⟩
  have hchannel : (sys.primary.fromSocket c default (samplePacketOf a) 0).channel =
      sys.primary.channel.acknowledge a.octaneSeqno.toNat :=
    (sys.primary.fromSocket_octane c default 0 rfl).1.trans (if_pos hflags)
  change _ ∉ (sys.primary.fromSocket c default (samplePacketOf a) 0).channel.unAckBuffer
  rw [hchannel, IntMap.mem_iff, Channel.getElem?_unAckBuffer_acknowledge, if_pos rfl]
  simp

/-- A message that has not been dropped is acknowledged when it is delivered. -/
theorem exists_deliver {i : Fin 3} {msg : OctaneControl}
    (hmsg : (SockAddr.local (c.secondPort i), msg) ∈ sys.control)
    (hreply : ((sys.secondary i).receiveControl msg).2 = some (octaneReplyEdit msg)) :
    ∃ sys', sysStep c sys (.deliver i msg) = some sys' ∧ octaneReplyEdit msg ∈ sys'.acks := by
  refine ⟨_, if_pos hmsg, List.mem_append_right _ ?_⟩
  change octaneReplyEdit msg ∈ ((sys.secondary i).receiveControl msg).2.toList
  rw [hreply]
  exact List.mem_singleton.2 rfl

/-! ### The messages that have been received -/

/-- The counts of the secondary routers are those of the messages delivered to them. -/
structure Spent (c : Config) (k : ℕ) (es : List SysEvent) (sys : System) : Prop where
  coupled : Coupled c sys
  flags : ∀ a ∈ sys.acks, a.octaneFlags = 1
  counted : ∀ i, CRouter.Counted {m | m.Forwards} k (sys.secondary i) fun m =>
    (delivered i es).countP fun a => m.SameContent a

/-- Nothing but a delivery changes a secondary router or sends an acknowledgement. -/
theorem of_not_deliver {e : SysEvent} (he : ∀ i msg, e ≠ .deliver i msg)
    (hstep : sysStep c sys e = some sys') :
    sys'.secondary = sys.secondary ∧ sys'.acks ⊆ sys.acks ∧ ∀ i, e.deliveredTo i = none := by
  have hreact : ∀ {sys₀ : System} {e'}, sys₀.react c e' = some sys' →
      sys'.secondary = sys₀.secondary ∧ sys'.acks = sys₀.acks := by
    rintro sys₀ e' hreact
    obtain ⟨primary, -, rfl⟩ := Option.map_eq_some_iff.1 hreact
    exact ⟨rfl, rfl⟩
  cases e with
  | tunnel st buffer clock =>
      obtain ⟨hsecondary, hacks⟩ := hreact hstep
      exact ⟨hsecondary, fun a ha => hacks ▸ ha, fun _ => rfl⟩
  | expire now =>
      obtain ⟨hsecondary, hacks⟩ := hreact hstep
      exact ⟨hsecondary, fun a ha => hacks ▸ ha, fun _ => rfl⟩
  | packet st buffer iPort | portal st buffer iPort =>
      obtain ⟨hsecondary, hacks⟩ := hreact (Option.ite_none_right_eq_some.1 hstep).2
      exact ⟨hsecondary, fun a ha => hacks ▸ ha, fun _ => rfl⟩
  | ack st buffer iPort =>
      obtain ⟨hsecondary, hacks⟩ := hreact (Option.ite_none_right_eq_some.1 hstep).2
      refine ⟨hsecondary, ?_, fun _ => rfl⟩
      rw [hacks]
      exact List.erase_subset
  | deliver i msg => exact absurd rfl (he i msg)
  | network control acks =>
      obtain ⟨⟨-, hacks⟩, heq⟩ := Option.ite_none_right_eq_some.1 hstep
      obtain rfl := Option.some.inj heq
      exact ⟨rfl, hacks, fun _ => rfl⟩

theorem acks_of_deliver {i : Fin 3} {msg : OctaneControl}
    (hstep : sysStep c sys (.deliver i msg) = some sys') :
    sys'.acks = sys.acks ++ ((sys.secondary i).receiveControl msg).2.toList := by
  obtain ⟨-, heq⟩ := Option.ite_none_right_eq_some.1 hstep
  rw [← Option.some.inj heq]
  rfl

theorem delivered_append (i : Fin 3) (es : List SysEvent) (e : SysEvent) :
    delivered i (es ++ [e]) = delivered i es ++ (e.deliveredTo i).toList := by
  cases he : e.deliveredTo i <;> simp [delivered, he]

namespace Spent

variable {k : ℕ} {es : List SysEvent}

/-- The message that is delivered asks for a forwarding rule of a TCP flow. -/
theorem forwards (h : Spent c k es sys) (hports : c.secondRouter1Port ≠ c.secondRouter2Port)
    {i : Fin 3} {msg : OctaneControl} (hstep : sysStep c sys (.deliver i msg) = some sys') :
    msg.Forwards :=
  (h.coupled.coherent hports _).forwards _ (h.coupled.mem_of_deliver hstep)

/-- The step lemma. -/
theorem step (h : Spent c k es sys) (hstage : c.stage.byPort = true)
    (hports : c.secondRouter1Port ≠ c.secondRouter2Port) {e : SysEvent} (he : e.Tcp)
    (hstep : sysStep c sys e = some sys') (hunused : Unused sys e sys') :
    Spent c k (es ++ [e]) sys' := by
  have hcoupled := (h.coupled.step hstage hports he hstep hunused).1
  by_cases hdeliver : ∃ i msg, e = .deliver i msg
  · obtain ⟨j, msg, rfl⟩ := hdeliver
    refine ⟨hcoupled, fun a ha => ?_, fun i => ?_⟩
    · rw [acks_of_deliver hstep] at ha
      rcases List.mem_append.1 ha with ha | ha
      · exact h.flags a ha
      · rw [CRouter.eq_of_mem_receiveControl ha]
        rfl
    · rw [secondary_of_deliver hstep]
      by_cases hij : i = j
      · subst hij
        have hcount : (fun m : OctaneControl => (delivered i es ++ [msg]).countP fun a =>
            m.SameContent a) = CRouter.addCount (fun m => (delivered i es).countP fun a =>
              m.SameContent a) msg := by
          funext m
          rw [List.countP_append, List.countP_singleton, CRouter.addCount]
          split_ifs <;> simp_all
        have hself : (SysEvent.deliver i msg).deliveredTo i = some msg := if_pos rfl
        rw [if_pos rfl, delivered_append, hself, Option.toList_some, hcount]
        exact (h.counted i).receiveControl OctaneControl.clashFree_forwards
          (h.forwards hports hstep)
      · have hother : (SysEvent.deliver j msg).deliveredTo i = none := if_neg (Ne.symm hij)
        rw [if_neg hij, delivered_append, hother, Option.toList_none, List.append_nil]
        exact h.counted i
  · have hnot : ∀ i msg, e ≠ .deliver i msg := fun i msg heq => hdeliver ⟨i, msg, heq⟩
    obtain ⟨hsecondary, hacks, hnone⟩ := of_not_deliver hnot hstep
    refine ⟨hcoupled, fun a ha => h.flags a (hacks ha), fun i => ?_⟩
    rw [hsecondary, delivered_append, hnone i, Option.toList_none, List.append_nil]
    exact h.counted i

/-- A message of a content that is used up stays, when no acknowledgement of it is in
flight. -/
theorem stays (h : Spent c k es sys) (hports : Function.Injective c.secondPort)
    {e : SysEvent} (he : e.Tcp) (hstep : sysStep c sys e = some sys')
    (hunused : Unused sys e sys') (ht : Registered sys.primary.channel n t) {i : Fin 3}
    (haddr : t.rou2Addr = .local (c.secondPort i)) (hforwards : t.iOctaneMsg.Forwards)
    (hused : k ≤ (delivered i es).countP fun m => t.iOctaneMsg.SameContent m)
    (hnone : ∀ a ∈ sys.acks, (a.octaneSeqno.toNat : ℤ) ≠ n) :
    Registered sys'.primary.channel n t ∧
      ∀ a ∈ sys'.acks, (a.octaneSeqno.toNat : ℤ) ≠ n := by
  have hreliable := h.coupled.reliable.step (channel_of_step hstep) fun t ht => (hunused t ht).1
  obtain ⟨hn, hdl, hmem⟩ := h.coupled.reliable.registered_iff.1 ht
  constructor
  · refine hreliable.registered_iff.2 ⟨hn, hdl, ?_⟩
    rcases kept_or_acknowledged hstep with hkept | ⟨msg, hmsg, -, hchannel⟩
    · exact hkept.timer _ hmem
    · by_contra hgone
      rw [hchannel] at hgone
      have hown := h.coupled.reliable.registered_of_acknowledge hmem hgone
      exact hnone msg (mem_acks_of_received he hstep hmsg)
        ((h.coupled.reliable.registered_iff.1 hown).1.symm.trans hn)
  · by_cases hdeliver : ∃ j msg, e = .deliver j msg
    · obtain ⟨j, msg, rfl⟩ := hdeliver
      intro a ha
      rw [acks_of_deliver hstep] at ha
      rcases List.mem_append.1 ha with ha | ha
      · exact hnone a ha
      · intro heq
        obtain rfl := CRouter.eq_of_mem_receiveControl ha
        obtain ⟨hport, rfl⟩ := Prod.mk.inj
          (h.coupled.waiting _ (Option.ite_none_right_eq_some.1 hstep).1 t (heq ▸ ht))
        obtain rfl : j = i := hports (congrArg SockAddr.sinPort (hport.trans haddr))
        rw [(h.counted j).receiveControl_of_le hforwards hused] at ha
        exact absurd ha List.not_mem_nil
    · have hnot : ∀ i msg, e ≠ .deliver i msg := fun i msg heq => hdeliver ⟨i, msg, heq⟩
      obtain ⟨-, hacks, -⟩ := of_not_deliver hnot hstep
      exact fun a ha => hnone a (hacks ha)

/-- The run lemma. -/
theorem of_run (h : Spent c k es sys) (hstage : c.stage.byPort = true)
    (hports : c.secondRouter1Port ≠ c.secondRouter2Port) {fs : List SysEvent}
    (hQ : Along (sysStep c) (fun s e s' => Unused s e s' ∧ e.Tcp) sys fs)
    (hrun : run (sysStep c) sys fs = some sys') : Spent c k (es ++ fs) sys' := by
  induction fs generalizing es sys with
  | nil =>
      obtain rfl := Option.some.inj hrun
      rwa [List.append_nil]
  | cons e fs ih =>
      obtain ⟨sys₁, hstep, hrest⟩ := run_cons.1 hrun
      obtain ⟨⟨hunused, he⟩, hQ'⟩ := hQ sys₁ hstep
      rw [List.append_cons]
      exact ih (h.step hstage hports he hstep hunused) hQ' hrest

/-- Along a run the message stays registered. -/
theorem registered_of_run (h : Spent c k es sys) (hstage : c.stage.byPort = true)
    (hne : c.secondRouter1Port ≠ c.secondRouter2Port) (hports : Function.Injective c.secondPort)
    (ht : Registered sys.primary.channel n t) {i : Fin 3}
    (haddr : t.rou2Addr = .local (c.secondPort i)) (hforwards : t.iOctaneMsg.Forwards)
    (hused : k ≤ (delivered i es).countP fun m => t.iOctaneMsg.SameContent m)
    (hnone : ∀ a ∈ sys.acks, (a.octaneSeqno.toNat : ℤ) ≠ n) {fs : List SysEvent}
    (hQ : Along (sysStep c) (fun s e s' => Unused s e s' ∧ e.Tcp) sys fs)
    (hrun : run (sysStep c) sys fs = some sys') : Registered sys'.primary.channel n t := by
  induction fs generalizing es sys with
  | nil =>
      obtain rfl := Option.some.inj hrun
      exact ht
  | cons e fs ih =>
      obtain ⟨sys₁, hstep, hrest⟩ := run_cons.1 hrun
      obtain ⟨⟨hunused, he⟩, hQ'⟩ := hQ sys₁ hstep
      obtain ⟨ht₁, hnone₁⟩ := h.stays hports he hstep hunused ht haddr hforwards hused hnone
      refine ih (h.step hstage hne he hstep hunused) ht₁ ?_ hnone₁ hQ' hrest
      rw [delivered_append, List.countP_append]
      omega

/-- A message that waits asks for a forwarding rule of a TCP flow. -/
theorem forwards_of_registered (h : Spent c k es sys)
    (hne : c.secondRouter1Port ≠ c.secondRouter2Port)
    (ht : Registered sys.primary.channel n t) : t.iOctaneMsg.Forwards := by
  have hcreated := List.mem_of_find?_eq_some (h.coupled.message_of_registered ht)
  exact (h.coupled.coherent hne t.rou2Addr).forwards _ ⟨t, hcreated, rfl, rfl⟩

/-- The timer of a message whose content is not used up can resend it, and it is
acknowledged. -/
theorem exists_acknowledged (h : Spent c k es sys)
    (ht : Registered sys.primary.channel n t) {i : Fin 3}
    (haddr : t.rou2Addr = .local (c.secondPort i)) (hforwards : t.iOctaneMsg.Forwards)
    (hleft : (delivered i es).countP (fun m => t.iOctaneMsg.SameContent m) < k) :
    MayErase c sys n := by
  obtain ⟨hn, hdl, hmem⟩ := h.coupled.reliable.registered_iff.1 ht
  obtain ⟨x, hx, hcb⟩ := List.mem_map.1 hmem
  obtain ⟨-, rfl⟩ := Prod.mk.inj hcb
  obtain ⟨pre, post, hqueue⟩ := List.append_of_mem hx
  obtain ⟨nows, sys₁, hresend, hcontrol, hsecondary⟩ := exists_resend (c := c) hqueue
  have hreply := ((h.counted i).receiveControl_of_lt hforwards hleft).1
  rw [haddr] at hcontrol
  obtain ⟨sys₂, hdeliver, hacks⟩ := exists_deliver hcontrol (hsecondary ▸ hreply)
  obtain ⟨sys₃, hack, hgone⟩ := exists_ack (c := c) hacks rfl
  have hseq : ((octaneReplyEdit x.cb.iOctaneMsg).octaneSeqno.toNat : ℤ) = n :=
    (h.coupled.numbered _ (List.mem_of_find?_eq_some
      (h.coupled.message_of_registered ht))).symm.trans hn
  have hrun : run (sysStep c) sys (nows.map SysEvent.expire ++ [.deliver i x.cb.iOctaneMsg,
      .ack default (samplePacketOf (octaneReplyEdit x.cb.iOctaneMsg)) 0]) = some sys₃ :=
    run_append.2 ⟨sys₁, hresend, run_cons.2 ⟨sys₂, hdeliver, run_cons.2 ⟨sys₃, hack, rfl⟩⟩⟩
  refine mayErase_of_run (fun e he => ?_) hrun (hseq ▸ hgone)
  rcases List.mem_append.1 he with he | he
  · obtain ⟨now, -, rfl⟩ := List.mem_map.1 he
    exact ⟨trivial, nofun⟩
  · rcases List.mem_pair.1 he with rfl | rfl
    · exact ⟨trivial, nofun⟩
    · exact ⟨trivial, nofun⟩

end Spent

section Start

variable {router : CRouter} {auth authRev : OctaneControl} {secondary : Fin 3 → CRouter} {k : ℕ}

/-- The secondary routers have received nothing. -/
theorem spent_start (hempty : router.unAckBuffer = ∅) (htable : router.rouFlowTable.entries = [])
    (hk : 1 ≤ k) (hsecondary : ∀ i, (secondary i).rouFlowTable.entries =
      [(FlowTable.defaultEntry, ⟨0xFFFF, 3⟩)] ∧ (secondary i).msgCount.entries = [] ∧
        (secondary i).droppedMsg.entries = [] ∧ (secondary i).iDropAfter = k) :
    Spent c k [] (start (.start router auth authRev) secondary) where
  coupled := coupled_start hempty htable fun i => ⟨(hsecondary i).1, (hsecondary i).2.2.1⟩
  flags := by simp [start]
  counted i := CRouter.counted_zero OctaneControl.clashFree_forwards hk (hsecondary i).2.2.2
    (hsecondary i).2.1 (hsecondary i).2.2.1

/-- In every run of stage 6, 7 or 10 in which the flows are TCP and no new message takes a
number that is waited for or in flight, a message that waits can still be acknowledged
exactly when an acknowledgement with its number is in flight or its secondary router has
received its content less than `drop_after` times. -/
theorem mayErase_iff (c : Config) (hstage : c.stage.byPort = true)
    (hports : Function.Injective c.secondPort) (router : CRouter) (auth authRev : OctaneControl)
    (hempty : router.unAckBuffer = ∅) (htable : router.rouFlowTable.entries = [])
    (secondary : Fin 3 → CRouter) (k : ℕ) (hk : 1 ≤ k)
    (hsecondary : ∀ i, (secondary i).rouFlowTable.entries =
      [(FlowTable.defaultEntry, ⟨0xFFFF, 3⟩)] ∧ (secondary i).msgCount.entries = [] ∧
        (secondary i).droppedMsg.entries = [] ∧ (secondary i).iDropAfter = k)
    (es : List SysEvent) (htcp : ∀ e ∈ es, e.Tcp)
    (hunused : Along (sysStep c) Unused (start (.start router auth authRev) secondary) es)
    (sys : System)
    (hrun : run (sysStep c) (start (.start router auth authRev) secondary) es = some sys)
    (n : ℤ) (t : OctaneTimer) (ht : Registered sys.primary.channel n t) (i : Fin 3)
    (haddr : t.rou2Addr = .local (c.secondPort i)) :
    MayErase c sys n ↔ (∃ a ∈ sys.acks, (a.octaneSeqno.toNat : ℤ) = n) ∨
      (delivered i es).countP (fun m => t.iOctaneMsg.SameContent m) < k := by
  have hne : c.secondRouter1Port ≠ c.secondRouter2Port := fun h =>
    absurd (@hports 0 1 h) (by decide)
  have hQ := hunused.and (Along.of_mem (P := SysEvent.Tcp) htcp)
  have h : Spent c k es sys := (spent_start hempty htable hk hsecondary).of_run hstage hne hQ hrun
  have hforwards := h.forwards_of_registered hne ht
  constructor
  · rintro ⟨fs, sys', htcp', hunused', hrun', hgone⟩
    by_contra hnot
    obtain ⟨hnone, hused⟩ := not_or.1 hnot
    have hstays := h.registered_of_run hstage hne hports ht haddr hforwards (not_lt.1 hused)
      (fun a ha heq => hnone ⟨a, ha, heq⟩)
      (hunused'.and (Along.of_mem (P := SysEvent.Tcp) htcp')) hrun'
    exact hgone (registered_mem hstays)
  · rintro (⟨a, ha, rfl⟩ | hleft)
    · obtain ⟨sys', hstep, hgone⟩ := exists_ack (c := c) ha (h.flags a ha)
      have hrun' : run (sysStep c) sys [.ack default (samplePacketOf a) 0] = some sys' :=
        run_cons.2 ⟨sys', hstep, rfl⟩
      refine mayErase_of_run (fun e he => ?_) hrun' hgone
      obtain rfl := List.mem_singleton.1 he
      exact ⟨trivial, nofun⟩
    · exact h.exists_acknowledged ht haddr hforwards hleft

end Start

/-! ### A content that is used up -/

/-- The first message of an HTTP flow is delivered three times, and the acknowledgements are
lost. -/
def usedUp : List SysEvent :=
  let datagram := (SockAddr.local (Loop.timerConfig.secondPort firstSecondary), httpMsg)
  [.tunnel default (samplePacket 0x5000) fun _ => ⟨1, 0⟩,
    .network [datagram, datagram, datagram] [], .deliver firstSecondary httpMsg,
    .deliver firstSecondary httpMsg, .deliver firstSecondary httpMsg, .network [] []]

theorem tcp_usedUp : ∀ e ∈ usedUp, e.Tcp := by
  intro e he
  simp only [usedUp, List.mem_cons, List.not_mem_nil, or_false] at he
  rcases he with rfl | rfl | rfl | rfl | rfl | rfl
  · intro p hp
    obtain rfl := Option.some.inj hp
    exact ⟨by decide, fun _ => by decide⟩
  all_goals trivial

theorem unused_usedUp : Along (sysStep Loop.timerConfig) Unused startedSystem usedUp := by
  refine fun sys _ => ⟨fun t _ => ⟨Std.ExtTreeMap.not_mem_empty, ?_⟩, ?_⟩
  · exact fun m hm => absurd hm List.not_mem_nil
  · exact along_of_not_tunnel (fun _ _ _ => unused_of_created_eq) (by simp)

/-- Its number can no longer be erased. -/
theorem mayErase_iff_usedUp : ∃ sys,
    run (sysStep Loop.timerConfig) startedSystem usedUp = some sys ∧
      (1 : ℤ) ∈ sys.primary.router.unAckBuffer ∧ ¬ MayErase Loop.timerConfig sys 1 := by
  have heval : (run (sysStep Loop.timerConfig) startedSystem usedUp).map (fun sys =>
      (sys.primary.router.unAckBuffer[(1 : ℤ)]?, sys.acks, sys.primary.timersManager.entries)) =
      some (some 1, [],
        [(2, ⟨httpMsgRev, 2, .local 0x2300⟩), (1, ⟨httpMsg, 1, .local 0x2300⟩)]) := by
    decide +kernel
  obtain ⟨sys, hrun, hsys⟩ := Option.map_eq_some_iff.1 heval
  simp only [Prod.mk.injEq] at hsys
  obtain ⟨hentry, hacks, htimers⟩ := hsys
  have ht : Registered sys.primary.channel 1 ⟨httpMsg, 1, .local 0x2300⟩ := by
    refine ⟨1, hentry, ?_⟩
    change _ ∈ sys.primary.timersManager.entries
    rw [htimers]
    simp
  refine ⟨sys, hrun, registered_mem ht, ?_⟩
  rw [mayErase_iff Loop.timerConfig rfl (by decide) _ _ _ rfl rfl _ 3 (by decide)
    (fun _ => ⟨by decide, rfl, rfl, rfl⟩) usedUp tcp_usedUp unused_usedUp sys hrun 1 _ ht
    firstSecondary rfl, hacks]
  rintro (⟨a, ha, -⟩ | hleft)
  · exact absurd ha List.not_mem_nil
  · exact absurd hleft (by decide)

end System
