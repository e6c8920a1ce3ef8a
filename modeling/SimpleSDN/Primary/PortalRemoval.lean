import SimpleSDN.Flow.Tidy
import SimpleSDN.Primary.PortalRules

/-!
# What the captive portal removes

An action-5 message in stage 9 removes the rules for the last HTTP flow that was new
before the authentication, which the loop keeps in `authOctMsg` and `authOctMsgRev`.
Nothing is removed but rules that were installed for such a flow (`RemovalLaw`) as
long as the two messages are written before they are used, are used once, and the
comparator tells the flow apart from the others (`RemovalKept`). Before the first
HTTP flow the messages hold what was on the stack, and after the first action-5
message they still name a flow that may have been let through since
(`not_removalLaw`).
-/

namespace Primary

/-- The packet opens an HTTP flow before any client has authenticated itself. -/
def OpensUnauth (s : Primary) (st : Stack) (buffer : Packet) : Prop :=
  HttpPacket buffer ∧ s.isAuthenticated = false ∧
    s.router.rouFlowTable.contains (.ofBuffer st buffer) = false

instance (s : Primary) (st : Stack) (buffer : Packet) : Decidable (s.OpensUnauth st buffer) :=
  inferInstanceAs (Decidable (_ ∧ _ ∧ _))

/-- The two messages for the removal. -/
def authMsgs (s : Primary) : OctaneControl × OctaneControl := (s.authOctMsg, s.authOctMsgRev)

variable {c : Config} {s s' t : Primary}

/-! ### The messages for the removal -/

@[simp] theorem authMsgs_send (s : Primary) (x : Sent) : (s.send x).authMsgs = s.authMsgs := rfl

theorem Quiet.authMsgs (h : Quiet s s') : s'.authMsgs = s.authMsgs := by
  unfold Primary.authMsgs
  rw [h.authOctMsg, h.authOctMsgRev]

theorem Transmitted.authMsgs {clock : ℕ → Timeval} {ts : List OctaneTimer}
    (h : Transmitted s s' clock ts) : s'.authMsgs = s.authMsgs := by
  unfold Primary.authMsgs
  rw [h.authOctMsg, h.authOctMsgRev]

/-- A packet from the tunnel that gives rise to no rule opens no flow. -/
theorem quiet_or_installs (hstage : c.stage = .s9) {st : Stack} {buffer : Packet}
    {clock : ℕ → Timeval} (h : s.fromTunnel c st buffer clock = some s') :
    (Quiet s s' ∧ ¬ s.OpensUnauth st buffer) ∨
      (buffer.ipP = 1 ∨ WebPacket buffer) ∧
        s.router.rouFlowTable.contains (.ofBuffer st buffer) = false ∧
        ∃ addr ts, NewFlow s s' st buffer clock addr ts := by
  cases fromTunnel_outcome h with
  | icmpHit _ hhit hquiet _ =>
      exact Or.inl ⟨hquiet, fun hopens => absurd (hhit.symm.trans hopens.2.2) (by decide)⟩
  | icmpMiss ts hp hmiss hnew _ => exact Or.inr ⟨Or.inl hp, hmiss, _, ts, hnew⟩
  | tcpHit _ _ hhit hquiet _ =>
      exact Or.inl ⟨hquiet, fun hopens => absurd (hhit.symm.trans hopens.2.2) (by decide)⟩
  | tcpMiss ts hp _ hport hmiss hnew _ => exact Or.inr ⟨Or.inr ⟨hp, hport⟩, hmiss, _, ts, hnew⟩
  | tcpOther _ _ hport _ hquiet _ =>
      exact Or.inl ⟨hquiet, fun hopens => hport (Or.inl hopens.1.2)⟩
  | ignored _ hp' hquiet _ =>
      exact Or.inl ⟨hquiet, fun hopens => hp' ⟨hopens.1.1, by rw [hstage]; rfl⟩⟩

/-- The messages name the flow that a packet opens before the authentication, and any
other packet leaves them alone. -/
theorem authMsgs_fromTunnel (hstage : c.stage = .s9) {st : Stack} {buffer : Packet}
    {clock : ℕ → Timeval} (h : s.fromTunnel c st buffer clock = some s') :
    (s.OpensUnauth st buffer ∧ FlowEntry.ofMsg s'.authOctMsg = .ofBuffer st buffer ∧
        FlowEntry.ofMsg s'.authOctMsgRev = (FlowEntry.ofBuffer st buffer).reverse) ∨
      (¬ s.OpensUnauth st buffer ∧ s'.authMsgs = s.authMsgs) := by
  rcases quiet_or_installs hstage h with ⟨hquiet, hnot⟩ | ⟨hp | ⟨hp, hport⟩, hmiss, -⟩
  · exact Or.inr ⟨hnot, hquiet.authMsgs⟩
  · have hne : ¬ (1 : UInt8) = 6 := by decide
    refine Or.inr ⟨fun hopens => hne (hp.symm.trans hopens.1.1), ?_⟩
    have hcheck : ¬ c.flowCheck s.router.rouFlowTable (.ofBuffer st buffer) ≠ "" := by
      rw [flowCheck_ne_empty_iff, hmiss]
      exact Bool.false_ne_true
    unfold fromTunnel at h
    simp only [CRouter.icmpForwardLog_protocol, hp, if_true] at h
    obtain ⟨s₁, hhandled, rfl⟩ := Option.map_eq_some_iff.1 h
    rw [if_neg hcheck] at hhandled
    obtain ⟨s₂, hbatch, rfl⟩ := Option.map_eq_some_iff.1 hhandled
    rw [authMsgs_send, (quiet_logInstalled c s₂ _).authMsgs]
    split_ifs at hbatch
    · obtain ⟨_, hts, -⟩ := transmitted_of_dispatchOne hbatch
      exact hts.authMsgs
    · obtain ⟨_, _, hts, -⟩ := transmitted_of_dispatchPair hbatch
      exact hts.authMsgs
  · have htcp : c.stage.tcp = true := by
      rw [hstage]
      rfl
    obtain ⟨s₀, s₁, hquiet, hdispatch, rfl⟩ :=
      tcpDispatch_of_fromTunnel h hp htcp hport hmiss _ rfl
    obtain ⟨ts, hts, -⟩ := transmitted_of_tcpDispatch hdispatch
    have hlog := quiet_logInstalled c s₁ (.ofBuffer st buffer)
    have hauth : (s₁.logInstalled c (.ofBuffer st buffer)).isAuthenticated = s.isAuthenticated :=
      (hlog.isAuthenticated.trans hts.isAuthenticated).trans hquiet.isAuthenticated
    rw [authMsgs_send]
    simp only [send, rememberAuth, hstage, true_and, hauth]
    by_cases hopens : tcpUnpack buffer = 80 ∧ s.isAuthenticated = false
    · left
      rw [if_pos hopens]
      exact ⟨⟨⟨hp, hopens.1⟩, hopens.2, hmiss⟩, rfl, rfl⟩
    · right
      rw [if_neg hopens]
      refine ⟨fun hopens' => hopens ⟨hopens'.1.2, hopens'.2.1⟩, ?_⟩
      exact (hlog.authMsgs.trans hts.authMsgs).trans hquiet.authMsgs

/-! ### Rules for flows before the authentication -/

/-- Some packet of the run opens an HTTP flow before the authentication. -/
def SeenUnauth (c : Config) (s₀ : Primary) (es : List PrimEvent) : Prop :=
  ∃ pre st buffer clock post s, es = pre ++ .tunnel st buffer clock :: post ∧
    run (primStep c) s₀ pre = some s ∧ s.OpensUnauth st buffer

/-- The rule was installed in the run for such a flow or its reverse, and it has been
in the table since. -/
def InstalledUnauth (c : Config) (s₀ : Primary) (es : List PrimEvent) (r : FlowEntry)
    (a : FlowAction) : Prop :=
  ∃ pre st buffer clock post s, es = pre ++ .tunnel st buffer clock :: post ∧
    run (primStep c) s₀ pre = some s ∧ s.OpensUnauth st buffer ∧
    (r = .ofBuffer st buffer ∨ r = (FlowEntry.ofBuffer st buffer).reverse) ∧
    ∀ mid rest u, post = mid ++ rest →
      run (primStep c) s₀ (pre ++ .tunnel st buffer clock :: mid) = some u →
        (r, a) ∈ u.router.rouFlowTable.entries

/-- At every action-5 message of the run each rule of the table is still there, with
its action, after the two removals, or it was installed for an HTTP flow before the
authentication. -/
def RemovalLaw (c : Config) (s₀ : Primary) (es : List PrimEvent) : Prop :=
  ∀ pre e post s, es = pre ++ e :: post → e.login?.isSome = true →
    run (primStep c) s₀ pre = some s → ∀ r a, (r, a) ∈ s.router.rouFlowTable.entries →
      (r, a) ∈ s.withoutAuth.entries ∨ InstalledUnauth c s₀ pre r a

/-- What a step has to meet. A new flow: its keys are untangled with the stored ones;
the reverse of an HTTP flow before the authentication is confused with no stored key,
and that of another flow is not confused with the last such flow or its reverse. An
action-5 message: the keys in use are untangled, and unless it is the first one and
follows such a flow, the messages for the removal find no rule. -/
def KeepsRemoval (s : Primary) (seen : Prop) : PrimEvent → Prop
  | .tunnel st buffer _ =>
      buffer.ipP = 1 ∨ WebPacket buffer →
        s.router.rouFlowTable.contains (.ofBuffer st buffer) = false →
          FlowEntry.Untangled (s.router.rouFlowTable.keys ∪
            {.ofBuffer st buffer, (FlowEntry.ofBuffer st buffer).reverse}) ∧
          (s.OpensUnauth st buffer → ∀ r ∈ s.router.rouFlowTable.keys,
            ¬ r.Confused (FlowEntry.ofBuffer st buffer).reverse) ∧
          (s.isAuthenticated = false → seen → ¬ s.OpensUnauth st buffer →
            ¬ (FlowEntry.ofBuffer st buffer).reverse.Confused (.ofMsg s.authOctMsg) ∧
            ¬ (FlowEntry.ofBuffer st buffer).reverse.Confused
              (FlowEntry.ofMsg s.authOctMsg).reverse)
  | .socket _ buffer _ =>
      buffer.ipP = octaneProtocolNum → buffer.octane.octaneAction = 5 →
        FlowEntry.Untangled (s.router.rouFlowTable.keys ∪
          {.ofMsg s.authOctMsg, .ofMsg s.authOctMsgRev, portalFlow buffer.octane,
            (portalFlow buffer.octane).reverse}) ∧
        (¬ (s.isAuthenticated = false ∧ seen) →
          s.router.rouFlowTable.contains (.ofMsg s.authOctMsg) = false ∧
            s.router.rouFlowTable.contains (.ofMsg s.authOctMsgRev) = false)
  | .expire _ => True

/-- Every step of the run meets it. -/
def RemovalKept (c : Config) (s₀ : Primary) (es : List PrimEvent) : Prop :=
  ∀ pre e post s, es = pre ++ e :: post → run (primStep c) s₀ pre = some s →
    s.KeepsRemoval (SeenUnauth c s₀ pre) e

variable {s₀ : Primary} {es : List PrimEvent} {e : PrimEvent}

theorem SeenUnauth.of_append (h : SeenUnauth c s₀ (es ++ [e])) : SeenUnauth c s₀ es ∨
    ∃ st buffer clock s, e = .tunnel st buffer clock ∧ run (primStep c) s₀ es = some s ∧
      s.OpensUnauth st buffer := by
  obtain ⟨pre, st, buffer, clock, post, s, heq, hpre, hopens⟩ := h
  rcases post.eq_nil_or_concat with rfl | ⟨post, e', rfl⟩
  · obtain ⟨rfl, htail⟩ := List.append_inj' heq rfl
    exact Or.inr ⟨st, buffer, clock, s, List.singleton_inj.1 htail, hpre, hopens⟩
  · rw [List.concat_eq_append, ← List.cons_append, ← List.append_assoc] at heq
    obtain ⟨rfl, -⟩ := List.append_inj' heq rfl
    exact Or.inl ⟨pre, st, buffer, clock, post, s, rfl, hpre, hopens⟩

/-- A rule that stays in the table has been there since it was installed. -/
theorem InstalledUnauth.append {r : FlowEntry} {a : FlowAction}
    (h : InstalledUnauth c s₀ es r a) (hrun : run (primStep c) s₀ (es ++ [e]) = some s')
    (hmem : (r, a) ∈ s'.router.rouFlowTable.entries) :
    InstalledUnauth c s₀ (es ++ [e]) r a := by
  obtain ⟨pre, st, buffer, clock, post, s, rfl, hpre, hopens, hr, hsince⟩ := h
  refine ⟨pre, st, buffer, clock, post ++ [e], s, by simp, hpre, hopens, hr, ?_⟩
  intro mid rest u heq hu
  rcases rest.eq_nil_or_concat with rfl | ⟨rest, e', rfl⟩
  · obtain rfl : post ++ [e] = mid := by simpa using heq
    rw [List.append_assoc, List.cons_append, hu] at hrun
    obtain rfl := Option.some.inj hrun
    exact hmem
  · rw [List.concat_eq_append, ← List.append_assoc] at heq
    obtain ⟨rfl, -⟩ := List.append_inj' heq rfl
    exact hsince mid rest u rfl hu

/-- Before the authentication, and after an HTTP flow: the messages for the removal
name that flow and its reverse, both have rules, and the rules are theirs. -/
structure LastKept (c : Config) (s₀ : Primary) (es : List PrimEvent) (s : Primary) : Prop where
  reverse : FlowEntry.ofMsg s.authOctMsgRev = (FlowEntry.ofMsg s.authOctMsg).reverse
  stored : .ofMsg s.authOctMsg ∈ s.router.rouFlowTable.keys
  storedRev : (FlowEntry.ofMsg s.authOctMsg).reverse ∈ s.router.rouFlowTable.keys
  installed : ∀ r a, (r = .ofMsg s.authOctMsg ∨ r = (FlowEntry.ofMsg s.authOctMsg).reverse) →
    (r, a) ∈ s.router.rouFlowTable.entries → InstalledUnauth c s₀ es r a

/-- A step after which the rules of the last flow are old ones. -/
theorem LastKept.append (h : LastKept c s₀ es s)
    (hrun : run (primStep c) s₀ (es ++ [e]) = some s') (hmsgs : s'.authMsgs = s.authMsgs)
    (hkeys : s.router.rouFlowTable.keys ⊆ s'.router.rouFlowTable.keys)
    (hold : ∀ r a, (r = .ofMsg s.authOctMsg ∨ r = (FlowEntry.ofMsg s.authOctMsg).reverse) →
      (r, a) ∈ s'.router.rouFlowTable.entries → (r, a) ∈ s.router.rouFlowTable.entries) :
    LastKept c s₀ (es ++ [e]) s' := by
  have hmsg : s'.authOctMsg = s.authOctMsg := congrArg Prod.fst hmsgs
  have hmsgRev : s'.authOctMsgRev = s.authOctMsgRev := congrArg Prod.snd hmsgs
  constructor
  · rw [hmsg, hmsgRev]
    exact h.reverse
  · rw [hmsg]
    exact hkeys h.stored
  · rw [hmsg]
    exact hkeys h.storedRev
  · intro r a hr ha
    rw [hmsg] at hr
    exact (h.installed r a hr (hold r a hr ha)).append hrun ha

/-- The invariant of a run that keeps the removal right. -/
structure Removable (c : Config) (s₀ : Primary) (es : List PrimEvent) (s : Primary) : Prop where
  tidy : s.router.rouFlowTable.Tidy
  last : s.isAuthenticated = false → SeenUnauth c s₀ es → LastKept c s₀ es s

/-- A step that changes neither the table nor the messages, and opens no flow. -/
theorem Removable.append (h : Removable c s₀ es s)
    (hrun : run (primStep c) s₀ (es ++ [e]) = some s') (hmsgs : s'.authMsgs = s.authMsgs)
    (htable : s'.router.rouFlowTable = s.router.rouFlowTable)
    (hauth : s'.isAuthenticated = s.isAuthenticated)
    (hseen : SeenUnauth c s₀ (es ++ [e]) → SeenUnauth c s₀ es) :
    Removable c s₀ (es ++ [e]) s' := by
  refine ⟨htable ▸ h.tidy, fun hflag hnew => ?_⟩
  refine (h.last (hauth ▸ hflag) (hseen hnew)).append hrun hmsgs ?_ ?_
  · rw [htable]
  · intro r a _ ha
    rwa [htable] at ha

/-- A flow whose rules do not meet those of the last HTTP flow. -/
theorem LastKept.newFlow (h : LastKept c s₀ es s) (htidy : s.router.rouFlowTable.Tidy)
    (hrun : run (primStep c) s₀ (es ++ [e]) = some s') {st : Stack} {buffer : Packet}
    {clock : ℕ → Timeval} {addr : SockAddr} {ts : List OctaneTimer}
    (hnew : NewFlow s s' st buffer clock addr ts) (hmsgs : s'.authMsgs = s.authMsgs)
    (hmiss : s.router.rouFlowTable.contains (.ofBuffer st buffer) = false)
    (hkeys : FlowEntry.Untangled (s.router.rouFlowTable.keys ∪
      {.ofBuffer st buffer, (FlowEntry.ofBuffer st buffer).reverse}))
    (hconf : ¬ (FlowEntry.ofBuffer st buffer).reverse.Confused (.ofMsg s.authOctMsg))
    (hconf' : ¬ (FlowEntry.ofBuffer st buffer).reverse.Confused
      (FlowEntry.ofMsg s.authOctMsg).reverse) : LastKept c s₀ (es ++ [e]) s' := by
  have hentry : FlowEntry.ofMsg (s.localMsg st buffer addr) = .ofBuffer st buffer :=
    FlowEntry.ofMsg_createOctaneMsg ..
  refine h.append hrun hmsgs ?_ ?_
  · rw [hnew.rouFlowTable, FlowTable.keys_dbInsert]
    exact (Set.subset_insert _ _).trans (Set.subset_insert _ _)
  · intro r a hr ha
    rw [hnew.rouFlowTable] at ha
    obtain ⟨hstored, hstoredRev, hnot⟩ : r ∈ s.router.rouFlowTable.keys ∧
        r.reverse ∈ s.router.rouFlowTable.keys ∧
        ¬ (FlowEntry.ofBuffer st buffer).reverse.Confused r := by
      rcases hr with rfl | rfl
      · exact ⟨h.stored, h.storedRev, hconf⟩
      · exact ⟨h.storedRev, h.stored, hconf'⟩
    have hnone : .ofBuffer st buffer ∉ s.router.rouFlowTable.keys := fun hmem =>
      absurd ((htidy.contains_of_mem hmem).symm.trans hmiss) (by decide)
    rcases FlowTable.of_mem_dbInsert ha with hold | ⟨hslot, -⟩ | ⟨hslot, -⟩
    · exact hold
    · rw [hentry, FlowTable.slot_of_not_contains hmiss] at hslot
      exact absurd (hslot ▸ hstored) hnone
    · -- the slot of the reverse is the reverse or confused with it
      rw [hentry] at hslot
      have hinc := htidy.slot_reverse hkeys hentry
      rw [← hslot, FlowEntry.incomparable_iff] at hinc
      rcases hinc with heq | hconfused
      · rw [heq] at hstoredRev
        exact absurd hstoredRev hnone
      · exact absurd hconfused.symm hnot

/-- The rules of a new HTTP flow before the authentication. -/
theorem LastKept.of_opens (htidy : s.router.rouFlowTable.Tidy) {st : Stack} {buffer : Packet}
    {clock : ℕ → Timeval} {addr : SockAddr} {ts : List OctaneTimer}
    (hpre : run (primStep c) s₀ es = some s)
    (hrun : run (primStep c) s₀ (es ++ [.tunnel st buffer clock]) = some s')
    (hopens : s.OpensUnauth st buffer) (hnew : NewFlow s s' st buffer clock addr ts)
    (hmsg : FlowEntry.ofMsg s'.authOctMsg = .ofBuffer st buffer)
    (hmsgRev : FlowEntry.ofMsg s'.authOctMsgRev = (FlowEntry.ofBuffer st buffer).reverse)
    (hkeys : FlowEntry.Untangled (s.router.rouFlowTable.keys ∪
      {.ofBuffer st buffer, (FlowEntry.ofBuffer st buffer).reverse}))
    (hconf : ∀ r ∈ s.router.rouFlowTable.keys,
      ¬ r.Confused (FlowEntry.ofBuffer st buffer).reverse) :
    LastKept c s₀ (es ++ [.tunnel st buffer clock]) s' := by
  have hentry : FlowEntry.ofMsg (s.localMsg st buffer addr) = .ofBuffer st buffer :=
    FlowEntry.ofMsg_createOctaneMsg ..
  have hslotRev : (s.router.rouFlowTable.insert (s.localMsg st buffer addr)).1.slot
      (FlowEntry.ofBuffer st buffer).reverse = (FlowEntry.ofBuffer st buffer).reverse := by
    have hinc := htidy.slot_reverse hkeys hentry
    rw [FlowEntry.incomparable_iff] at hinc
    rcases hinc with heq | hconfused
    · exact heq
    · rcases FlowTable.slot_mem_insert _ _ with heq | hmem
      · exact heq
      · rcases FlowTable.keys_insert_subset _ _ hmem with heq | hold
        · rw [heq, hentry] at hconfused
          exact absurd hconfused (FlowEntry.not_confused_reverse _)
        · exact absurd hconfused (hconf _ hold)
  have hafter : s'.router.rouFlowTable.keys =
      Insert.insert (FlowEntry.ofBuffer st buffer).reverse
        (Insert.insert (.ofBuffer st buffer) s.router.rouFlowTable.keys) := by
    rw [hnew.rouFlowTable, FlowTable.keys_dbInsert, hentry, hslotRev,
      FlowTable.slot_of_not_contains hopens.2.2]
  constructor
  · rw [hmsgRev, hmsg]
  · rw [hmsg, hafter]
    exact Or.inr (Or.inl rfl)
  · rw [hmsg, hafter]
    exact Or.inl rfl
  · intro r a hr ha
    rw [hmsg] at hr
    refine ⟨es, st, buffer, clock, [], s, rfl, hpre, hopens, hr, fun mid rest u heq hu => ?_⟩
    obtain ⟨rfl, -⟩ := List.nil_eq_append_iff.1 heq
    obtain rfl := Option.some.inj (hrun.symm.trans hu)
    exact ha

/-! ### One step and a run -/

/-- A step that opens no flow. -/
theorem SeenUnauth.of_not_opens (h : SeenUnauth c s₀ (es ++ [e]))
    (hpre : run (primStep c) s₀ es = some s)
    (hnot : ∀ st buffer clock, e = .tunnel st buffer clock → ¬ s.OpensUnauth st buffer) :
    SeenUnauth c s₀ es := by
  rcases h.of_append with hold | ⟨st, buffer, clock, s₁, rfl, hpre', hopens⟩
  · exact hold
  · obtain rfl := Option.some.inj (hpre.symm.trans hpre')
    exact absurd hopens (hnot st buffer clock rfl)

/-- The updates of an action-5 message keep the table tidy. -/
theorem tidy_authenticate (h : s.router.rouFlowTable.Tidy) {octMsg : OctaneControl}
    (hkeys : FlowEntry.Untangled (s.router.rouFlowTable.keys ∪
      {.ofMsg s.authOctMsg, .ofMsg s.authOctMsgRev, portalFlow octMsg,
        (portalFlow octMsg).reverse})) :
    (s.authenticate c octMsg).router.rouFlowTable.Tidy := by
  have h₁ : (s.router.rouFlowTable.remove s.authOctMsg).1.Tidy := by
    apply h.remove
    refine hkeys.mono (Set.union_subset_union_right _ ?_)
    rintro r rfl
    exact Or.inl rfl
  have h₂ : s.withoutAuth.Tidy := by
    apply h₁.remove
    refine hkeys.mono (Set.union_subset_union (FlowTable.keys_remove_subset _ _) ?_)
    rintro r rfl
    exact Or.inr (Or.inl rfl)
  rw [authenticate_rouFlowTable]
  apply h₂.dbInsert 0
  refine hkeys.mono (Set.union_subset_union
    ((FlowTable.keys_remove_subset _ _).trans (FlowTable.keys_remove_subset _ _)) ?_)
  rintro r (rfl | rfl)
  · exact Or.inr (Or.inr (Or.inl rfl))
  · exact Or.inr (Or.inr (Or.inr rfl))

/-- One step. -/
theorem Removable.step (hstage : c.stage = .s9) (h : Removable c s₀ es s)
    (hpre : run (primStep c) s₀ es = some s) (hstep : primStep c s e = some s')
    (hkept : s.KeepsRemoval (SeenUnauth c s₀ es) e) : Removable c s₀ (es ++ [e]) s' := by
  have hrun : run (primStep c) s₀ (es ++ [e]) = some s' :=
    run_append.2 ⟨s, hpre, run_cons.2 ⟨s', hstep, rfl⟩⟩
  cases e with
  | tunnel st buffer clock =>
      rcases quiet_or_installs hstage hstep with ⟨hquiet, hnot⟩ | ⟨hp, hmiss, addr, ts, hnew⟩
      · refine h.append hrun hquiet.authMsgs hquiet.rouFlowTable hquiet.isAuthenticated
          fun hseen => hseen.of_not_opens hpre ?_
        rintro _ _ _ ⟨⟩
        exact hnot
      · obtain ⟨hkeys, hopened, hother⟩ := hkept hp hmiss
        have htidy : s'.router.rouFlowTable.Tidy := by
          rw [hnew.rouFlowTable]
          exact h.tidy.dbInsert 65535 hkeys
        refine ⟨htidy, fun hflag hseen => ?_⟩
        rw [hnew.isAuthenticated] at hflag
        rcases authMsgs_fromTunnel hstage hstep with ⟨hopens, hmsg, hmsgRev⟩ | ⟨hnot, hmsgs⟩
        · exact .of_opens h.tidy hpre hrun hopens hnew hmsg hmsgRev hkeys (hopened hopens)
        · have hold : SeenUnauth c s₀ es := by
            refine hseen.of_not_opens hpre ?_
            rintro _ _ _ ⟨⟩
            exact hnot
          obtain ⟨hconf, hconf'⟩ := hother hflag hold hnot
          exact (h.last hflag hold).newFlow h.tidy hrun hnew hmsgs hmiss hkeys hconf hconf'
  | socket st buffer iPort =>
      obtain rfl := Option.some.inj hstep
      obtain ⟨s₁, htable, hauth, hmsg, hmsgRev, heq⟩ := fromSocket_login hstage s st buffer iPort
      rw [heq] at hrun ⊢
      split_ifs at hrun ⊢ with hlogin
      · -- the flag is set, and nothing is left to say of the last flow
        refine ⟨tidy_authenticate (htable ▸ h.tidy) ?_, fun hflag => ?_⟩
        · rw [htable, hmsg, hmsgRev]
          exact (hkept hlogin.1 hlogin.2).1
        · simp [authenticate, send, dbInsert, CRouter.pushLogs_eq] at hflag
      · refine h.append hrun (Prod.ext hmsg hmsgRev) htable hauth
          fun hseen => hseen.of_not_opens hpre ?_
        rintro _ _ _ ⟨⟩
  | expire now =>
      obtain ⟨⟨T, t⟩, _, rfl⟩ := Option.map_eq_some_iff.1 hstep
      refine h.append hrun rfl rfl rfl fun hseen => hseen.of_not_opens hpre ?_
      rintro _ _ _ ⟨⟩

/-- The removal at one action-5 message. -/
theorem Removable.of_login (h : Removable c s₀ es s) {st : Stack} {buffer : Packet} {iPort : ℤ}
    (hp : buffer.ipP = octaneProtocolNum) (haction : buffer.octane.octaneAction = 5)
    (hkept : s.KeepsRemoval (SeenUnauth c s₀ es) (.socket st buffer iPort)) {r : FlowEntry}
    {a : FlowAction} (ha : (r, a) ∈ s.router.rouFlowTable.entries) :
    (r, a) ∈ s.withoutAuth.entries ∨ InstalledUnauth c s₀ es r a := by
  obtain ⟨hkeys, hnone⟩ := hkept hp haction
  have hr : r ∈ s.router.rouFlowTable.keys := StdMap.mem_keys ha
  have hkey : FlowEntry.Untangled (s.router.rouFlowTable.keys ∪ {.ofMsg s.authOctMsg}) := by
    refine hkeys.mono (Set.union_subset_union_right _ ?_)
    rintro k rfl
    exact Or.inl rfl
  have hkeyRev : FlowEntry.Untangled (s.router.rouFlowTable.keys ∪ {.ofMsg s.authOctMsgRev}) := by
    refine hkeys.mono (Set.union_subset_union_right _ ?_)
    rintro k rfl
    exact Or.inr (Or.inl rfl)
  -- a rule that the comparator tells apart from both keys stays
  have hstays : ¬ SearchTree.Incomparable FlowEntry.lt r (.ofMsg s.authOctMsg) →
      ¬ SearchTree.Incomparable FlowEntry.lt r (.ofMsg s.authOctMsgRev) →
        (r, a) ∈ s.withoutAuth.entries := by
    intro hne hneRev
    have htidy : (s.router.rouFlowTable.remove s.authOctMsg).1.Tidy := h.tidy.remove hkey
    have hkeyRev' := hkeyRev.mono (Set.union_subset_union_left _
      (FlowTable.keys_remove_subset s.router.rouFlowTable s.authOctMsg))
    refine (htidy.mem_entries_remove hkeyRev' r a).2 ⟨?_, hneRev⟩
    exact (h.tidy.mem_entries_remove hkey r a).2 ⟨ha, hne⟩
  by_cases hseen : s.isAuthenticated = false ∧ SeenUnauth c s₀ es
  · have hlast := h.last hseen.1 hseen.2
    by_cases hflow : r = .ofMsg s.authOctMsg ∨ r = (FlowEntry.ofMsg s.authOctMsg).reverse
    · exact Or.inr (hlast.installed r a hflow ha)
    · refine Or.inl (hstays (fun hinc => ?_) fun hinc => ?_)
      · exact hflow (Or.inl (h.tidy.eq_of_incomparable hr hlast.stored hinc))
      · rw [hlast.reverse] at hinc
        exact hflow (Or.inr (h.tidy.eq_of_incomparable hr hlast.storedRev hinc))
  · obtain ⟨hnot, hnotRev⟩ := hnone hseen
    left
    apply hstays
    · exact (h.tidy.contains_eq_false_iff hkey).1 hnot r hr
    · exact (h.tidy.contains_eq_false_iff hkeyRev).1 hnotRev r hr

/-- In every run of stage 9 whose steps keep the removal right, whatever the two
messages hold at first, an action-5 message removes only rules that were installed for
an HTTP flow before the authentication, and leaves every other rule with its action. -/
theorem removalLaw_of_removalKept (c : Config) (hstage : c.stage = .s9) (router : CRouter)
    (auth authRev : OctaneControl) (es : List PrimEvent) (hstart : router.rouFlowTable.Tidy)
    (hkept : RemovalKept c (start router auth authRev) es) :
    RemovalLaw c (start router auth authRev) es := by
  intro pre e post s hes hlogin hpre r a ha
  have hfirst : Removable c (start router auth authRev) [] (start router auth authRev) := by
    refine ⟨hstart, fun _ hseen => ?_⟩
    obtain ⟨pre', _, _, _, _, _, hnil, -⟩ := hseen
    simp at hnil
  have h : Removable c (start router auth authRev) pre s := by
    refine run_history hfirst ?_ hes hpre
    intro pre' e' post' s₁ s₂ hes' hpre' hstep h
    exact h.step hstage hpre' hstep (hkept pre' e' post' s₁ hes' hpre')
  cases e with
  | tunnel st buffer clock => simp [PrimEvent.login?] at hlogin
  | expire now => simp [PrimEvent.login?] at hlogin
  | socket st buffer iPort =>
      obtain ⟨hp, haction⟩ : buffer.ipP = octaneProtocolNum ∧ buffer.octane.octaneAction = 5 := by
        simpa [PrimEvent.login?] using hlogin
      exact h.of_login hp haction (hkept pre _ post s hes hpre) ha

/-- The HTTPS flow from the port 10000 of the host of `samplePacket`. -/
def sampleHttps : PrimEvent := .tunnel default (samplePacket 0xBB01) fun _ => ⟨0, 0⟩

/-- A control message that names it. -/
def httpsMsg : OctaneControl := ⟨1, 0, 1, 0x0A00A8C0, 0x0133050A, 0x1027, 0xBB01, 6, 0⟩

/-- A client opens an HTTP flow and authenticates itself. -/
theorem removalLaw_one_login :
    RemovalLaw portalConfig sampleStart [sampleHttp 0x1027, sampleLogin] := by
  have hempty : ∀ r, r ∉ sampleStart.router.rouFlowTable.keys := by
    simp [sampleStart, start, CRouter.init, FlowTable.empty, FlowTable.keys]
  have hafter : ∀ s ∈ run (primStep portalConfig) sampleStart [sampleHttp 0x1027],
      s.isAuthenticated = false ∧ (∀ x ∈ s.router.rouFlowTable.entries, ¬ x.1.Wild) ∧
        ¬ (FlowEntry.ofMsg s.authOctMsg).Wild ∧ ¬ (FlowEntry.ofMsg s.authOctMsgRev).Wild := by
    decide
  refine removalLaw_of_removalKept portalConfig rfl _ _ _ _ (FlowTable.tidy_empty _) ?_
  intro pre e post s hes hpre
  rcases pre with _ | ⟨e₁, _ | ⟨e₂, pre⟩⟩
  · obtain rfl := Option.some.inj hpre
    obtain ⟨rfl, -⟩ := List.cons.inj hes
    refine fun _ _ => ⟨FlowEntry.untangled_of_concrete ?_, fun _ r hr => ?_, ?_⟩
    · rintro r (hr | rfl | rfl)
      · exact absurd hr (hempty r)
      · decide
      · decide
    · exact absurd hr (hempty r)
    · rintro - ⟨pre', _, _, _, _, _, hnil, -⟩
      simp at hnil
  · obtain ⟨rfl, htail⟩ := List.cons.inj hes
    obtain ⟨rfl, -⟩ := List.cons.inj htail
    obtain ⟨hauth, hconcrete, hmsg, hmsgRev⟩ := hafter s hpre
    refine fun _ _ => ⟨FlowEntry.untangled_of_concrete ?_, fun hnot => ?_⟩
    · rintro r (⟨a, hr⟩ | rfl | rfl | rfl | rfl)
      · exact hconcrete (r, a) hr
      · exact hmsg
      · exact hmsgRev
      · decide
      · decide
    · refine absurd ⟨hauth, [], _, _, _, [], _, rfl, rfl, ?_⟩ hnot
      decide
  · simp at hes

/-- With a second action-5 message the rule that the first one has installed is
removed. And with the right contents of the stack an action-5 message before any HTTP
flow removes an HTTPS rule. -/
theorem not_removalLaw :
    ¬ RemovalLaw portalConfig sampleStart [sampleHttp 0x1027, sampleLogin, sampleLogin] ∧
      ¬ RemovalLaw portalConfig (start sampleStart.router httpsMsg default)
        [sampleHttps, sampleLogin] := by
  constructor
  · intro hlaw
    have hstate : ∀ s ∈ run (primStep portalConfig) sampleStart [sampleHttp 0x1027, sampleLogin],
        ((samplePacket 0x5000).entry, ⟨0, 1⟩) ∈ s.router.rouFlowTable.entries ∧
          ((samplePacket 0x5000).entry, ⟨0, 1⟩) ∉ s.withoutAuth.entries := by decide
    have hfirst : ∀ s ∈ run (primStep portalConfig) sampleStart [sampleHttp 0x1027],
        ((samplePacket 0x5000).entry, ⟨0, 1⟩) ∉ s.router.rouFlowTable.entries := by decide
    have hdef : (run (primStep portalConfig) sampleStart
        [sampleHttp 0x1027, sampleLogin]).isSome = true := by decide
    obtain ⟨s, hs⟩ := Option.isSome_iff_exists.1 hdef
    obtain ⟨hmem, hnot⟩ := hstate s hs
    rcases hlaw [sampleHttp 0x1027, sampleLogin] sampleLogin [] s rfl rfl hs _ _ hmem with
      hleft | ⟨pre, st, buffer, clock, post, s₁, heq, hpre, -, -, hsince⟩
    · exact hnot hleft
    · -- the rule was not there when the flow was new
      rcases pre with _ | ⟨e₁, _ | ⟨e₂, pre⟩⟩
      · obtain ⟨htunnel, rfl⟩ := List.cons.inj heq
        have hdef₁ : (run (primStep portalConfig) sampleStart [sampleHttp 0x1027]).isSome =
            true := by decide
        obtain ⟨u, hu⟩ := Option.isSome_iff_exists.1 hdef₁
        refine hfirst u hu (hsince [] [sampleLogin] u rfl ?_)
        rw [List.nil_append, ← htunnel]
        exact hu
      · simp [sampleLogin] at heq
      · simp at heq
  · intro hlaw
    have hstate : ∀ s ∈ run (primStep portalConfig) (start sampleStart.router httpsMsg default)
        [sampleHttps], ((samplePacket 0xBB01).entry, ⟨0x0024, 1⟩) ∈ s.router.rouFlowTable.entries ∧
          ((samplePacket 0xBB01).entry, ⟨0x0024, 1⟩) ∉ s.withoutAuth.entries := by decide
    have hdef : (run (primStep portalConfig) (start sampleStart.router httpsMsg default)
        [sampleHttps]).isSome = true := by decide
    obtain ⟨s, hs⟩ := Option.isSome_iff_exists.1 hdef
    obtain ⟨hmem, hnot⟩ := hstate s hs
    rcases hlaw [sampleHttps] sampleLogin [] s rfl rfl hs _ _ hmem with
      hleft | ⟨pre, st, buffer, clock, post, s₁, heq, hpre, hopens, -⟩
    · exact hnot hleft
    · rcases pre with _ | ⟨e₁, pre⟩
      · obtain ⟨htunnel, -⟩ := List.cons.inj heq
        obtain ⟨-, rfl, -⟩ := PrimEvent.tunnel.inj htunnel
        exact absurd hopens.1 (by decide)
      · simp at heq

end Primary
