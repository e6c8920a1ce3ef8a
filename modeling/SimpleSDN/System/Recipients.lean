import SimpleSDN.Primary.Destination
import SimpleSDN.System.Acknowledge

/-!
# To whom the primary router sends

The timers resend to the addresses that their messages were made for, so in a whole run
every control message goes to a child. A packet is sent only because it has been read
from the tunnel, and it is one of ICMP or TCP.
-/

/-- Every timer resends to a child. -/
def Primary.ChildTimers (m : IntMap) (s : Primary) : Prop :=
  ∀ p ∈ s.timersManager.entries, ChildAddr m p.2.rou2Addr

/-- What the event may give rise to. -/
def Sent.Proper (m : IntMap) (e : PrimEvent) : Sent → Prop
  | .control addr _ => ChildAddr m addr
  | .data _ p => (∃ st clock, e = .tunnel st p clock) ∧ p.ipP ≠ octaneProtocolNum
  | .tunnel _ => True

namespace Primary

variable {c : Config} {m : IntMap} {s s' : Primary} {e : PrimEvent}

theorem childTimers_of_subset (h : s.ChildTimers m)
    (hsub : ∀ p ∈ s'.timersManager.entries, p ∈ s.timersManager.entries) : s'.ChildTimers m :=
  fun p hp => h p (hsub p hp)

theorem entries_removeTimer_subset (T : Timers OctaneTimer) (hdl : ℤ) :
    ∀ p ∈ (T.removeTimer hdl).1.entries, p ∈ T.entries := by
  intro p hp
  obtain ⟨e, he, rfl⟩ := List.mem_map.1 hp
  exact List.mem_map_of_mem (List.mem_of_mem_eraseP he)

/-- A new flow: its messages go to children, and so do their timers. -/
theorem proper_of_newFlow (h : s.ChildTimers m) {st : Stack} {buffer : Packet}
    {clock : ℕ → Timeval} {addr : SockAddr} {ts : List OctaneTimer}
    (hp : buffer.ipP ≠ octaneProtocolNum) (hnew : NewFlow s s' st buffer clock addr ts)
    (hchild : ∀ x ∈ s'.sent.drop s.sent.length, ∀ a ∈ x.addr?, ChildAddr m a) :
    s'.ChildTimers m ∧
      ∀ x ∈ s'.sent.drop s.sent.length, x.Proper m (.tunnel st buffer clock) := by
  have hsent := hnew.sent
  rw [List.append_assoc] at hsent
  have hdrop := drop_sent hsent
  rw [hdrop] at hchild ⊢
  have hts : ∀ t ∈ ts, ChildAddr m t.rou2Addr := fun t ht =>
    hchild t.expire (List.mem_append_left _ (List.mem_map_of_mem ht)) _ rfl
  constructor
  · obtain ⟨⟨T, hs⟩, hadd, hchannel⟩ := Option.map_eq_some_iff.1 hnew.channel
    have hT : s'.timersManager = T := congrArg Channel.timersManager hchannel.symm
    intro p hpmem
    rw [hT, (Timers.of_addTimers hadd).2.2.mem_iff] at hpmem
    rcases List.mem_append.1 hpmem with hpmem | hpmem
    · exact hts p.2 (List.of_mem_zip hpmem).2
    · exact h p hpmem
  · intro x hx
    rcases List.mem_append.1 hx with hx | hx
    · obtain ⟨t, ht, rfl⟩ := List.mem_map.1 hx
      exact hts t ht
    · obtain rfl := List.mem_singleton.1 hx
      exact ⟨⟨st, clock, rfl⟩, hp⟩

/-- A packet that is sent, and nothing else. -/
theorem proper_of_data (h : s.ChildTimers m) {st : Stack} {buffer : Packet}
    {clock : ℕ → Timeval} {addr : SockAddr} (hp : buffer.ipP ≠ octaneProtocolNum)
    (hquiet : Quiet s s') (hsent : s'.sent = s.sent ++ [.data addr buffer]) :
    s'.ChildTimers m ∧
      ∀ x ∈ s'.sent.drop s.sent.length, x.Proper m (.tunnel st buffer clock) := by
  refine ⟨childTimers_of_subset h fun p hp => hquiet.timersManager ▸ hp, ?_⟩
  rw [drop_sent hsent]
  intro x hx
  obtain rfl := List.mem_singleton.1 hx
  exact ⟨⟨st, clock, rfl⟩, hp⟩

/-- A packet from the tunnel. -/
theorem proper_of_tunnel (hc : c.OfChildren m) (hstage : c.stage.tcp = true)
    (h : s.ChildTimers m) {st : Stack} {buffer : Packet} {clock : ℕ → Timeval}
    (hstep : primStep c s (.tunnel st buffer clock) = some s') :
    s'.ChildTimers m ∧
      ∀ x ∈ s'.sent.drop s.sent.length, x.Proper m (.tunnel st buffer clock) := by
  have hicmp : buffer.ipP = 1 → buffer.ipP ≠ octaneProtocolNum := fun hp => hp ▸ by decide
  have htcp : buffer.ipP = 6 → buffer.ipP ≠ octaneProtocolNum := fun hp => hp ▸ by decide
  have hchild := toChildren_iff_luckyPort hc hstage hstep
  cases fromTunnel_outcome hstep with
  | icmpHit hp _ hquiet hsent => exact proper_of_data h (hicmp hp) hquiet hsent
  | icmpMiss ts hp _ hnew _ =>
      refine proper_of_newFlow h (hicmp hp) hnew (hchild.2 fun h6 => ?_)
      rw [hp] at h6
      exact absurd h6 (by decide)
  | tcpHit hp _ _ hquiet hsent => exact proper_of_data h (htcp hp) hquiet hsent
  | tcpMiss ts hp _ hport _ hnew _ =>
      exact proper_of_newFlow h (htcp hp) hnew (hchild.2 fun _ hnot => absurd ⟨hp, hport⟩ hnot)
  | tcpOther hp _ _ _ hquiet hsent => exact proper_of_data h (htcp hp) hquiet hsent
  | ignored _ _ hquiet hsent =>
      refine ⟨childTimers_of_subset h fun p hp => hquiet.timersManager ▸ hp, ?_⟩
      rw [drop_sent (hsent.trans (List.append_nil _).symm)]
      simp

/-- A datagram on the socket. -/
theorem proper_of_socket (hc : c.OfChildren m) (h : s.ChildTimers m) {st : Stack}
    {buffer : Packet} {iPort : ℤ} (hstep : primStep c s (.socket st buffer iPort) = some s') :
    s'.ChildTimers m ∧
      ∀ x ∈ s'.sent.drop s.sent.length, x.Proper m (.socket st buffer iPort) := by
  obtain rfl := Option.some.inj hstep
  cases fromSocket_outcome c s st buffer iPort with
  | forward _ hquiet hsent =>
      refine ⟨childTimers_of_subset h fun p hp => hquiet.timersManager ▸ hp, ?_⟩
      rcases hsent with hsent | hsent
      · rw [drop_sent (hsent.trans (List.append_nil _).symm)]
        simp
      · rw [drop_sent hsent]
        intro x hx
        obtain rfl := List.mem_singleton.1 hx
        trivial
  | octane s₀ hp hquiet hsent₀ heq =>
      obtain ⟨hchannel, -, s₁, hsent₁, hsent⟩ := s.fromSocket_octane c st iPort hp
      constructor
      · refine childTimers_of_subset h fun p hp => ?_
        have hT := congrArg Channel.timersManager hchannel
        rw [show (s.fromSocket c st buffer iPort).timersManager = _ from hT] at hp
        split_ifs at hp
        · exact entries_removeTimer_subset _ _ p hp
        · exact hp
      · split_ifs at hsent
        · obtain ⟨msg, msgRev, hauth, -⟩ := s₁.sent_authenticate c buffer.octane
          rw [drop_sent ((hsent.trans hauth).trans (by rw [hsent₁]))]
          intro x hx
          rcases List.mem_pair.1 hx with rfl | rfl
          · exact hc.port1
          · exact hc.port1
        · rw [drop_sent ((hsent.trans hsent₁).trans (List.append_nil _).symm)]
          simp

/-- In stages 6, 7, 9 and 10 every control message goes to a child, also when it is sent
again, and every packet comes from the tunnel. -/
theorem proper_of_step (hc : c.OfChildren m) (hstage : c.stage.tcp = true)
    (h : s.ChildTimers m) (hstep : primStep c s e = some s') :
    s'.ChildTimers m ∧ ∀ x ∈ s'.sent.drop s.sent.length, x.Proper m e := by
  cases e with
  | tunnel st buffer clock => exact proper_of_tunnel hc hstage h hstep
  | socket st buffer iPort => exact proper_of_socket hc h hstep
  | expire now =>
      obtain ⟨⟨T, t⟩, hexec, rfl⟩ := Option.map_eq_some_iff.1 hstep
      obtain ⟨-, hperm, hdl, ht⟩ := Timers.of_executeNextTimer hexec
      refine ⟨childTimers_of_subset h fun p hp => hperm.mem_iff.1 hp, ?_⟩
      have hsent : ({ s with timersManager := T }.send t.expire).sent = s.sent ++ [t.expire] := rfl
      rw [drop_sent hsent]
      intro x hx
      obtain rfl := List.mem_singleton.1 hx
      exact h (hdl, t) ht

end Primary
