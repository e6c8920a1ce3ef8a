import SimpleSDN.Primary.Destination

/-!
# The captive portal

In stage 9 an HTTP packet goes to the third secondary router until a client has
authenticated itself with an action-5 message, and to the first one after that.
`isAuthenticated` is one flag for all clients, so a client that has not
authenticated itself is let through once another has (`portalLaw_iff_order`).
-/

/-- A TCP packet to port 80. -/
def HttpPacket (buffer : Packet) : Prop := buffer.ipP = 6 ∧ tcpUnpack buffer = 80

instance (buffer : Packet) : Decidable (HttpPacket buffer) :=
  inferInstanceAs (Decidable (_ ∧ _))

theorem HttpPacket.web {buffer : Packet} (h : HttpPacket buffer) : WebPacket buffer :=
  ⟨h.1, Or.inl h.2⟩

/-- The client that an action-5 message authenticates. -/
def PrimEvent.login? : PrimEvent → Option UInt32
  | .socket _ buffer _ =>
      if buffer.ipP = octaneProtocolNum ∧ buffer.octane.octaneAction = 5 then
        some (htonl buffer.octane.octaneSourceIp)
      else none
  | _ => none

/-- The clients authenticated in a run. -/
def logins (es : List PrimEvent) : List UInt32 := es.filterMap PrimEvent.login?

namespace Primary

variable {c : Config} {s s' : Primary}

/-- The one datagram with a packet for port 80 or 443. -/
theorem data_mem_iff {st : Stack} {buffer : Packet} {clock : ℕ → Timeval}
    (hstage : c.stage.tcp = true) (hweb : WebPacket buffer)
    (h : primStep c s (.tunnel st buffer clock) = some s') (addr : SockAddr) :
    .data addr buffer ∈ s'.sent.drop s.sent.length ↔
      addr = .local ((c.tcpTarget s.isAuthenticated buffer).getD st.targetPort) := by
  have hne : ¬ (6 : UInt8) = 1 := by decide
  cases fromTunnel_outcome h with
  | icmpHit hp _ _ _ => exact absurd (hweb.1.symm.trans hp) hne
  | icmpMiss ts hp _ _ _ => exact absurd (hweb.1.symm.trans hp) hne
  | tcpHit _ _ _ _ hsent => rw [drop_sent hsent]; simp
  | tcpMiss ts _ _ _ _ hnew _ =>
      rw [drop_sent (hnew.sent.trans (List.append_assoc ..))]
      simp [OctaneTimer.expire]
  | tcpOther _ _ hport _ _ _ => exact absurd hweb.2 hport
  | ignored _ hp' _ _ => exact absurd ⟨hweb.1, hstage⟩ hp'

/-- Only an action-5 message changes the flag, and sets it. -/
theorem isAuthenticated_step (hstage : c.stage = .s9) {e : PrimEvent}
    (h : primStep c s e = some s') :
    s'.isAuthenticated = (s.isAuthenticated || e.login?.isSome) := by
  cases e with
  | tunnel st buffer clock =>
      simp only [PrimEvent.login?, Option.isSome_none, Bool.or_false]
      rcases quiet_or_newFlow h with ⟨hquiet, -⟩ | ⟨addr, ts, hnew⟩
      · exact hquiet.isAuthenticated
      · exact hnew.isAuthenticated
  | socket st buffer iPort =>
      obtain rfl := Option.some.inj h
      cases fromSocket_outcome c s st buffer iPort with
      | forward hp hquiet _ => simp [PrimEvent.login?, hp, hquiet.isAuthenticated]
      | octane s₀ hp hquiet _ heq =>
          rw [heq, octaneFromSocket, ← hquiet.isAuthenticated]
          by_cases haction : buffer.octane.octaneAction = 5
          · simp [PrimEvent.login?, hp, haction, hstage, authenticate, send, dbInsert]
          · simp only [PrimEvent.login?, hp, haction, and_false, if_false, Option.isSome_none,
              Bool.or_false]
            split_ifs <;> rfl
  | expire now =>
      obtain ⟨⟨T, t⟩, _, rfl⟩ := Option.map_eq_some_iff.1 h
      simp [PrimEvent.login?, send]

/-- After a run the flag says whether any client has authenticated itself. -/
theorem isAuthenticated_run (hstage : c.stage = .s9) {es : List PrimEvent}
    (hrun : run (primStep c) s es = some s') :
    s'.isAuthenticated = (s.isAuthenticated || !(logins es).isEmpty) := by
  induction es generalizing s with
  | nil =>
      obtain rfl : s = s' := by simpa using hrun
      simp [logins]
  | cons e es ih =>
      obtain ⟨s₁, hstep, hrest⟩ := run_cons.1 hrun
      rw [ih hrest, isAuthenticated_step hstage hstep]
      cases hlogin : e.login? with
      | none => simp [logins, hlogin]
      | some addr => simp [logins, hlogin]

/-- Every HTTP packet of the run that is sent to the first secondary router comes
from a client that has authenticated itself before. -/
def PortalLaw (c : Config) (s₀ : Primary) (es : List PrimEvent) : Prop :=
  ∀ pre st buffer clock post, es = pre ++ .tunnel st buffer clock :: post → HttpPacket buffer →
    ∀ s s', run (primStep c) s₀ pre = some s → primStep c s (.tunnel st buffer clock) = some s' →
      .data (.local c.secondRouter1Port) buffer ∈ s'.sent.drop s.sent.length →
        buffer.ipSrc ∈ logins pre

/-- Every HTTP packet that is read after some client has authenticated itself
comes from a client that has; and if the first and the third secondary router
have one port, every HTTP packet does. -/
def PortalOrder (c : Config) (es : List PrimEvent) : Prop :=
  ∀ pre st buffer clock post, es = pre ++ .tunnel st buffer clock :: post → HttpPacket buffer →
    logins pre ≠ [] ∨ c.secondRouter3Port = c.secondRouter1Port → buffer.ipSrc ∈ logins pre

theorem tcpTarget_http (hstage : c.stage = .s9) {buffer : Packet} (hhttp : HttpPacket buffer)
    (isAuthenticated : Bool) : c.tcpTarget isAuthenticated buffer =
      some (if isAuthenticated then c.secondRouter1Port else c.secondRouter3Port) := by
  unfold Config.tcpTarget
  rw [hstage]
  simp only [hhttp.2, if_true]
  split_ifs <;> rfl

/-- An HTTP packet goes to the first secondary router once any client has
authenticated itself. -/
theorem http_mem_iff (hstage : c.stage = .s9) {router : CRouter} {auth authRev : OctaneControl}
    {pre : List PrimEvent} {st : Stack} {buffer : Packet} {clock : ℕ → Timeval}
    (hhttp : HttpPacket buffer) (hpre : run (primStep c) (start router auth authRev) pre = some s)
    (hstep : primStep c s (.tunnel st buffer clock) = some s') :
    .data (.local c.secondRouter1Port) buffer ∈ s'.sent.drop s.sent.length ↔
      logins pre ≠ [] ∨ c.secondRouter3Port = c.secondRouter1Port := by
  have hflag : s.isAuthenticated = !(logins pre).isEmpty := isAuthenticated_run hstage hpre
  rw [data_mem_iff (by rw [hstage]; rfl) hhttp.web hstep, tcpTarget_http hstage hhttp, hflag,
    Option.getD_some]
  cases hlogins : logins pre with
  | nil => simp [SockAddr.local, eq_comm]
  | cons a l => simp

/-- Along every run of stage 9 from its start, HTTP packets are let through to the
first secondary router for authenticated clients only exactly when no other
client sends one after the first has authenticated itself. -/
theorem portalLaw_iff_order (c : Config) (hstage : c.stage = .s9) (router : CRouter)
    (auth authRev : OctaneControl) (es : List PrimEvent) (t : Primary)
    (hrun : run (primStep c) (start router auth authRev) es = some t) :
    PortalLaw c (start router auth authRev) es ↔ PortalOrder c es := by
  constructor
  · intro hlaw pre st buffer clock post hes hhttp hopen
    subst hes
    obtain ⟨s, hpre, hrest⟩ := run_append.1 hrun
    obtain ⟨s', hstep, -⟩ := run_cons.1 hrest
    exact hlaw pre st buffer clock post rfl hhttp s s' hpre hstep
      ((http_mem_iff hstage hhttp hpre hstep).2 hopen)
  · intro horder pre st buffer clock post hes hhttp s s' hpre hstep hmem
    exact horder pre st buffer clock post hes hhttp
      ((http_mem_iff hstage hhttp hpre hstep).1 hmem)

/-- Stage 9 with three secondary routers. -/
def portalConfig : Config := ⟨.s9, .local 0x2300, 0x2300, 0x2400, 0x2500⟩

/-- An action-5 message for the client 192.168.0.10. -/
def sampleLogin : PrimEvent :=
  .socket default { (default : Packet) with
    ipP := octaneProtocolNum
    octane := ⟨5, 0, 1, 0xC0A8000A, 0x0133050A, 0x1027, 0x5000, 6, 0⟩ } 6000

/-- A client authenticates itself and sends an HTTP packet. -/
theorem portalLaw_own_login :
    ∃ t, run (primStep portalConfig) sampleStart
        [sampleLogin, .tunnel default (samplePacket 0x5000) fun _ => ⟨0, 0⟩] = some t ∧
      PortalLaw portalConfig sampleStart
        [sampleLogin, .tunnel default (samplePacket 0x5000) fun _ => ⟨0, 0⟩] := by
  have hdef : (run (primStep portalConfig) sampleStart
      [sampleLogin, .tunnel default (samplePacket 0x5000) fun _ => ⟨0, 0⟩]).isSome = true := by
    rfl
  obtain ⟨t, ht⟩ := Option.isSome_iff_exists.1 hdef
  refine ⟨t, ht, (portalLaw_iff_order _ rfl _ _ _ _ t ht).2 ?_⟩
  intro pre st buffer clock post hes hhttp _
  rcases pre with _ | ⟨e, _ | ⟨e', pre⟩⟩
  · simp [sampleLogin] at hes
  · simp only [List.cons_append, List.nil_append, List.cons.injEq, PrimEvent.tunnel.injEq] at hes
    obtain ⟨rfl, ⟨-, rfl, -⟩, -⟩ := hes
    decide
  · simp at hes

/-- One client authenticates itself, and the HTTP packet of another is let
through. -/
theorem not_portalLaw_other_client :
    ¬ PortalLaw portalConfig sampleStart
      [sampleLogin, .tunnel default { samplePacket 0x5000 with ipSrc := 0x0B00A8C0 }
        fun _ => ⟨0, 0⟩] := by
  intro hlaw
  have hdef : (run (primStep portalConfig) sampleStart [sampleLogin,
      .tunnel default { samplePacket 0x5000 with ipSrc := 0x0B00A8C0 }
        fun _ => ⟨0, 0⟩]).isSome = true := by rfl
  obtain ⟨t, ht⟩ := Option.isSome_iff_exists.1 hdef
  obtain ⟨s, hlogin, hrest⟩ := run_cons.1 ht
  obtain ⟨s', hs', -⟩ := run_cons.1 hrest
  have hs : run (primStep portalConfig) sampleStart [sampleLogin] = some s :=
    run_cons.2 ⟨s, hlogin, rfl⟩
  have hhttp : HttpPacket { samplePacket 0x5000 with ipSrc := 0x0B00A8C0 } := by decide
  have hmem := hlaw [sampleLogin] _ _ _ [] rfl hhttp s s' hs hs'
    ((http_mem_iff rfl hhttp hs hs').2 (Or.inl (by decide)))
  exact absurd hmem (by decide)

end Primary
