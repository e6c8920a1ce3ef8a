import SimpleSDN.Primary.Reliable

/-!
# Sequence numbers

The counter of sequence numbers is a `uint16_t` that every new message
increments, so a number comes back after 65536 messages. A message may wait for
its acknowledgement for any time, and what decides whether a new message takes
its number is how many messages have been made since: a run reuses no number
exactly when every message that still waits is one of the last 65535.
-/

namespace Channel

/-- How many messages have been made since the last one with number `n`. -/
def madeSince (C : Channel) (n : ℤ) : ℕ := C.created.findIdx fun m => m.iSeq = n

/-- Every message that waits was made fewer than 65536 messages before each new
message of the step. -/
def Young (C C' : Channel) : Prop :=
  ∀ n ∈ C.unAckBuffer, ∀ k < (newMessages C C').length, C.madeSince n + 1 + k < 65536

/-- No message that waits gets another handle. -/
def Intact (C C' : Channel) : Prop :=
  ∀ n h h' : ℤ, C.unAckBuffer[n]? = some h → C'.unAckBuffer[n]? = some h' → h' = h

/-- The made messages count down from the counter, and what waits was made. -/
structure Counting (C : Channel) : Prop where
  number : ∀ i (hi : i < C.created.length), ∃ x : ℕ, C.created[i].iSeq = x ∧ x < 65536 ∧
    (x + i + 1) % 65536 = C.iSeqnoCnt.toNat
  made : ∀ n ∈ C.unAckBuffer, ∃ m ∈ C.created, m.iSeq = n

theorem counting_start (T : Timers OctaneTimer) (q : UInt16) : Counting ⟨∅, T, [], q⟩ where
  number i hi := by simp at hi
  made n hn := by simp at hn

/-- Only a reused number overwrites a handle. -/
theorem Fresh.intact {C C' : Channel} (hfresh : Fresh C C') (h : Step C C') : Intact C C' := by
  intro n hdl hdl' hn hn'
  cases h with
  | idle => exact Option.some.inj (hn'.symm.trans hn)
  | transmit clock ts hts hlen h =>
      rw [Fresh, newMessages_of_append (created_of_transmit h)] at hfresh
      have hkept := getElem?_unAckBuffer_of_transmit hts (by omega) h
        (fun t ht => hfresh t (List.mem_reverse.2 ht)) hn
      exact Option.some.inj (hn'.symm.trans hkept)
  | acknowledge n' =>
      rw [getElem?_unAckBuffer_acknowledge] at hn'
      split_ifs at hn'
      exact Option.some.inj (hn'.symm.trans hn)
  | expire now h => exact Option.some.inj (hn'.symm.trans hn)

theorem Counting.transmit {C C' : Channel} (hC : C.Counting) {clock : ℕ → Timeval}
    {ts : List OctaneTimer} (hts : Numbered C.iSeqnoCnt ts)
    (h : C.transmit clock ts = some C') : C'.Counting := by
  have hcreated := created_of_transmit h
  have hcnt : C'.iSeqnoCnt.toNat = (C.iSeqnoCnt.toNat + ts.length) % 65536 := by
    rw [iSeqnoCnt_of_transmit h, UInt16.toNat_add, UInt16.toNat_ofNat']
    omega
  constructor
  · intro i hi
    rw [hcnt]
    simp only [hcreated, List.length_append, List.length_reverse] at hi ⊢
    by_cases hnew : i < ts.length
    · rw [List.getElem_append_left (by simpa using hnew), List.getElem_reverse]
      obtain ⟨x, hx, hxq⟩ := hts.exists_iSeq (ts.length - 1 - i) (by omega)
      exact ⟨x, hx, by omega, by omega⟩
    · rw [List.getElem_append_right (by simpa using hnew)]
      obtain ⟨x, hx, hlt, hxq⟩ := hC.number (i - ts.reverse.length) (by simp; omega)
      rw [List.length_reverse] at hxq
      exact ⟨x, hx, hlt, by omega⟩
  · intro n hn
    rw [hcreated]
    rcases (mem_unAckBuffer_of_transmit h n).1 hn with hn | ⟨t, ht, hseq⟩
    · obtain ⟨m, hm, hseq⟩ := hC.made n hn
      exact ⟨m, List.mem_append_right _ hm, hseq⟩
    · exact ⟨t, List.mem_append_left _ (List.mem_reverse.2 ht), hseq⟩

theorem Counting.step {C C' : Channel} (hC : C.Counting) (h : Step C C') : C'.Counting := by
  cases h with
  | idle => exact hC
  | transmit clock ts hts hlen h => exact hC.transmit hts h
  | acknowledge n =>
      refine ⟨hC.number, fun n' hn' => hC.made n' ?_⟩
      rw [IntMap.mem_iff] at hn' ⊢
      obtain ⟨v, hv⟩ := hn'
      rw [getElem?_unAckBuffer_acknowledge] at hv
      split_ifs at hv
      exact ⟨v, hv⟩
  | expire now h => exact ⟨hC.number, hC.made⟩

theorem Counting.madeSince_lt_length {C : Channel} (hC : C.Counting) {n : ℤ}
    (hn : n ∈ C.unAckBuffer) : C.madeSince n < C.created.length := by
  obtain ⟨m, hm, hseq⟩ := hC.made n hn
  exact List.findIdx_lt_length_of_exists ⟨m, hm, by simpa using hseq⟩

/-- The last message with a number that waits is at most 65536 messages old. -/
theorem Counting.madeSince_spec {C : Channel} (hC : C.Counting) {n : ℤ}
    (hn : n ∈ C.unAckBuffer) :
    C.madeSince n < 65536 ∧ ∃ x : ℕ, n = x ∧ x < 65536 ∧
      (x + C.madeSince n + 1) % 65536 = C.iSeqnoCnt.toNat := by
  have hlt := hC.madeSince_lt_length hn
  obtain ⟨x, hx, hxlt, hxq⟩ := hC.number (C.madeSince n) hlt
  have hat : C.created[C.madeSince n].iSeq = n :=
    of_decide_eq_true (List.findIdx_getElem (w := hlt))
  refine ⟨?_, x, hat.symm.trans hx, hxlt, hxq⟩
  by_contra hge
  -- 65536 messages earlier the number was the same
  obtain ⟨y, hy, hylt, hyq⟩ := hC.number (C.madeSince n - 65536) (by omega)
  have hyx : y = x := by omega
  have hbefore : C.madeSince n - 65536 < C.madeSince n := by omega
  have hearlier := of_decide_eq_false (List.not_of_lt_findIdx hbefore)
  exact hearlier (by rw [hy, hyx, ← hx, hat])

/-- A new batch is fresh exactly when everything that waits is young. -/
theorem Counting.fresh_iff_young {C C' : Channel} (hC : C.Counting) (h : Step C C') :
    Fresh C C' ↔ Young C C' := by
  cases h with
  | idle => simp [Fresh, Young, newMessages]
  | acknowledge n => simp [Fresh, Young, newMessages, Channel.acknowledge]
  | expire now h => simp [Fresh, Young, newMessages]
  | transmit clock ts hts hlen h =>
      unfold Fresh Young
      rw [newMessages_of_append (created_of_transmit h), List.length_reverse]
      constructor
      · intro hfresh n hn k hk
        obtain ⟨hlt, x, rfl, hx, hxq⟩ := hC.madeSince_spec hn
        by_contra hge
        -- the message that comes 65536 after the one that waits takes its number
        have hi : 65535 - C.madeSince x < ts.length := by omega
        obtain ⟨y, hy, hyq⟩ := hts.exists_iSeq _ hi
        have hyx : y = x := by omega
        refine hfresh ts[65535 - C.madeSince x] (List.mem_reverse.2 (List.getElem_mem hi)) ?_
        rwa [hy, hyx]
      · intro hyoung t ht hmem
        obtain ⟨i, hi, rfl⟩ := List.getElem_of_mem (List.mem_reverse.1 ht)
        obtain ⟨y, hy, hyq⟩ := hts.exists_iSeq i hi
        obtain ⟨hlt, x, hx, hxlt, hxq⟩ := hC.madeSince_spec hmem
        have := hyoung _ hmem i hi
        have hyx : y = x := by exact_mod_cast hy.symm.trans hx
        omega

theorem Step.length_created_le {C C' : Channel} (h : Step C C') :
    C'.created.length ≤ C.created.length + 4 := by
  cases h with
  | idle => omega
  | acknowledge n => exact Nat.le_add_right _ _
  | expire now h => exact Nat.le_add_right _ _
  | transmit clock ts hts hlen h =>
      rw [created_of_transmit h, List.length_append, List.length_reverse]
      omega

/-- As long as no more than 65536 messages have been made, everything is young. -/
theorem Counting.young_of_length {C C' : Channel} (hC : C.Counting) (h : Step C C')
    (hlen : C'.created.length ≤ 65536) : Young C C' := by
  intro n hn k hk
  have hlt := hC.madeSince_lt_length hn
  cases h with
  | idle => simp [newMessages] at hk
  | acknowledge n => simp [newMessages, Channel.acknowledge] at hk
  | expire now h => simp [newMessages] at hk
  | transmit clock ts hts hfour h =>
      rw [newMessages_of_append (created_of_transmit h), List.length_reverse] at hk
      rw [created_of_transmit h, List.length_append, List.length_reverse] at hlen
      omega

end Channel

namespace Primary

open SearchTree (Incomparable)

/-- No new message of the run takes a number that is still waited for, and no
message that waits gets another handle. -/
def NoReuse (c : Config) (s : Primary) (es : List PrimEvent) : Prop :=
  Along (primStep c)
    (fun s _ s' => Channel.Fresh s.channel s'.channel ∧ Channel.Intact s.channel s'.channel) s es

/-- Along the run, every message that waits is younger than 65536 messages when
a new one is made. -/
def YoungRun (c : Config) (s : Primary) (es : List PrimEvent) : Prop :=
  Along (primStep c) (fun s _ s' => Channel.Young s.channel s'.channel) s es

/-- A run of a loop reuses no number that is still waited for exactly when every
message that waits was made fewer than 65536 messages before each new one. -/
theorem noReuse_iff_youngRun (c : Config) (router : CRouter) (auth authRev : OctaneControl)
    (es : List PrimEvent) (hempty : router.unAckBuffer = ∅) :
    NoReuse c (start router auth authRev) es ↔ YoungRun c (start router auth authRev) es := by
  have hstart : (start router auth authRev).channel.Counting := by
    change Channel.Counting ⟨router.unAckBuffer, .init, [], router.iSeqnoCnt⟩
    rw [hempty]
    exact Channel.counting_start _ _
  constructor
  · refine Along.imp_of_invariant (I := fun s => s.channel.Counting) ?_ hstart
    intro s e s' hs hstep hfresh
    have h := primStep_channel hstep
    exact ⟨hs.step h, (hs.fresh_iff_young h).1 hfresh.1⟩
  · refine Along.imp_of_invariant (I := fun s => s.channel.Counting) ?_ hstart
    intro s e s' hs hstep hyoung
    have h := primStep_channel hstep
    have hfresh := (hs.fresh_iff_young h).2 hyoung
    exact ⟨hs.step h, hfresh, hfresh.intact h⟩

/-- A reaction makes four messages at most, so short runs are young. -/
theorem youngRun_of_length {c : Config} {s : Primary} {es : List PrimEvent}
    (hs : s.channel.Counting) (hlen : s.channel.created.length + 4 * es.length ≤ 65536) :
    YoungRun c s es := by
  induction es generalizing s with
  | nil => trivial
  | cons e es ih =>
      intro s' hstep
      have h := primStep_channel hstep
      have hmade := h.length_created_le
      rw [List.length_cons] at hlen
      exact ⟨hs.young_of_length h (by omega), ih (hs.step h) (by omega)⟩

/-- Two flows: the messages of the first wait when those of the second are made. -/
theorem noReuse_two_flows :
    (run (primStep ⟨.s6, .local 0x2300, 0x2300, 0x2400, 0⟩) sampleStart
        [.tunnel default (samplePacket 0x5000) fun _ => ⟨0, 0⟩,
          .tunnel default (samplePacket 0xBB01) fun _ => ⟨0, 0⟩]).map
            (fun t => t.router.unAckBuffer.keys) = some [1, 2, 3, 4] ∧
      NoReuse ⟨.s6, .local 0x2300, 0x2300, 0x2400, 0⟩ sampleStart
        [.tunnel default (samplePacket 0x5000) fun _ => ⟨0, 0⟩,
          .tunnel default (samplePacket 0xBB01) fun _ => ⟨0, 0⟩] := by
  refine ⟨by decide +kernel, (noReuse_iff_youngRun _ _ _ _ _ rfl).2 ?_⟩
  exact youngRun_of_length (Channel.counting_start _ _) (by decide)

/-! ### A run that reuses a number -/

/-- The `i`-th of many HTTP flows between two hosts. -/
def manyFlows (i : ℕ) : PrimEvent :=
  .tunnel default { samplePacket 0x5000 with source := UInt16.ofNat i } fun _ => ⟨0, 0⟩

/-- The keys of the table belong to the first `k` flows. -/
def KeysBelow (k : ℕ) (s : Primary) : Prop :=
  ∀ r ∈ s.router.rouFlowTable.keys, ∃ i < k,
    r = ⟨0x0A00A8C0, 0x0133050A, UInt16.ofNat i, 0x5000, 6⟩ ∨
      r = ⟨0x0133050A, 0x0A00A8C0, 0x5000, UInt16.ofNat i, 6⟩

theorem not_wild_manyFlows {k : ℕ} (hk : k ≤ 32768) :
    ¬ FlowEntry.Wild ⟨0x0A00A8C0, 0x0133050A, UInt16.ofNat k, 0x5000, 6⟩ := by
  intro hwild
  have hport : UInt16.ofNat k = 0xFFFF := by
    simpa [FlowEntry.Wild] using hwild
  have := congrArg UInt16.toNat hport
  simp at this
  omega

theorem KeysBelow.miss {k : ℕ} {s : Primary} (hs : KeysBelow k s) (hk : k ≤ 32768) :
    s.router.rouFlowTable.contains
      ⟨0x0A00A8C0, 0x0133050A, UInt16.ofNat k, 0x5000, 6⟩ = false := by
  rw [← Bool.not_eq_true, FlowTable.contains_iff]
  rintro ⟨r, hr⟩
  obtain ⟨hmem, hinc⟩ := FlowTable.of_containsOut hr
  obtain ⟨i, hi, hri⟩ := hs r hmem
  have hrwild : ¬ r.Wild := by
    rcases hri with rfl | rfl
    · exact not_wild_manyFlows (by omega)
    · rw [← FlowEntry.reverse_wild]
      exact not_wild_manyFlows (by omega)
  rcases (FlowEntry.incomparable_iff _ _).1 hinc with heq | hs' | hs'
  · rcases hri with rfl | rfl
    · have := congrArg (fun e => e.srcPort.toNat) heq
      simp at this
      omega
    · exact absurd (congrArg FlowEntry.srcIp heq) (by simp)
  · exact hrwild hs'.wild
  · exact not_wild_manyFlows hk hs'.wild

/-- One more flow is new: two messages are made for it. -/
theorem KeysBelow.step {k : ℕ} {s : Primary} (hs : KeysBelow k s) (hk : k ≤ 32768)
    (hnext : s.timersManager.nextHandle = 1 + 2 * k) :
    ∃ s' addr t t', primStep ⟨.s6, .local 0x2300, 0x2300, 0x2400, 0⟩ s (manyFlows k) = some s' ∧
      NewFlow s s' default { samplePacket 0x5000 with source := UInt16.ofNat k }
        (fun _ => ⟨0, 0⟩) addr [t, t'] ∧ KeysBelow (k + 1) s' ∧
      s'.timersManager.nextHandle = 1 + 2 * (k + 1 : ℕ) ∧ ∀ u ∈ [t, t'],
        FlowEntry.ofMsg u.iOctaneMsg = ⟨0x0A00A8C0, 0x0133050A, UInt16.ofNat k, 0x5000, 6⟩ ∨
          FlowEntry.ofMsg u.iOctaneMsg =
            ⟨0x0133050A, 0x0A00A8C0, 0x5000, UInt16.ofNat k, 6⟩ := by
  have hdef : (s.fromTunnel ⟨.s6, .local 0x2300, 0x2300, 0x2400, 0⟩ default
      { samplePacket 0x5000 with source := UInt16.ofNat k } fun _ => ⟨0, 0⟩).isSome = true :=
    fromTunnel_isSome (by rw [hnext]; omega)
  obtain ⟨s', hs'⟩ := Option.isSome_iff_exists.1 hdef
  have hmiss := hs.miss hk
  cases fromTunnel_outcome hs' with
  | icmpHit hp => exact absurd hp (show ¬ (6 : UInt8) = 1 by decide)
  | icmpMiss _ hp => exact absurd hp (show ¬ (6 : UInt8) = 1 by decide)
  | tcpHit _ _ hhit => exact absurd (hmiss.symm.trans hhit) (by decide)
  | tcpOther _ _ hport => exact absurd (Or.inl (show ntohs 0x5000 = 80 by decide)) hport
  | ignored _ hp' => exact absurd ⟨rfl, rfl⟩ hp'
  | tcpMiss ts _ _ _ _ hnew hts =>
      have hlen : ts.length = 2 := hts.length
      obtain ⟨t, t', rfl⟩ := List.length_eq_two.1 hlen
      refine ⟨s', _, t, t', hs', hnew, ?_, ?_, hts.flow⟩
      · intro r hr
        rw [hnew.rouFlowTable] at hr
        rcases FlowTable.keys_dbInsert_subset _ _ _ hr with hr | rfl | rfl
        · obtain ⟨i, hi, hri⟩ := hs r hr
          exact ⟨i, by omega, hri⟩
        · exact ⟨k, by omega, Or.inl rfl⟩
        · exact ⟨k, by omega, Or.inr rfl⟩
      · have hhandle : s'.timersManager.nextHandle = s.timersManager.nextHandle + (2 : ℕ) :=
          Channel.nextHandle_of_transmit hnew.channel
        rw [hhandle, hnext]
        push_cast
        ring

/-- What two messages do to the counter. -/
theorem NewFlow.iSeqnoCnt_eq {k : ℕ} {s s' : Primary} {st : Stack} {buffer : Packet}
    {clock : ℕ → Timeval} {addr : SockAddr} {t t' : OctaneTimer}
    (h : NewFlow s s' st buffer clock addr [t, t'])
    (hs : s.router.iSeqnoCnt = UInt16.ofNat (1 + 2 * k)) :
    s'.router.iSeqnoCnt = UInt16.ofNat (1 + 2 * (k + 1)) := by
  have hcnt : s'.router.iSeqnoCnt = s.router.iSeqnoCnt + UInt16.ofNat 2 :=
    Channel.iSeqnoCnt_of_transmit h.channel
  rw [hcnt, hs, ← UInt16.toNat_inj]
  simp only [UInt16.toNat_add, UInt16.toNat_ofNat']
  omega

/-- The state after `k` flows of which nothing has been acknowledged. -/
structure Flooded (k : ℕ) (s : Primary) : Prop where
  keys : ∀ r ∈ s.router.rouFlowTable.keys, ∃ i < k,
    r = ⟨0x0A00A8C0, 0x0133050A, UInt16.ofNat i, 0x5000, 6⟩ ∨
      r = ⟨0x0133050A, 0x0A00A8C0, 0x5000, UInt16.ofNat i, 6⟩
  iSeqnoCnt : s.router.iSeqnoCnt = UInt16.ofNat (1 + 2 * k)
  nextHandle : s.timersManager.nextHandle = 1 + 2 * k
  first : 0 < k → (1 : ℤ) ∈ s.router.unAckBuffer

/-- One more flow takes the next two numbers. -/
theorem Flooded.step {k : ℕ} {s : Primary} (hs : Flooded k s) (hk : k ≤ 32768) :
    ∃ s', primStep ⟨.s6, .local 0x2300, 0x2300, 0x2400, 0⟩ s (manyFlows k) = some s' ∧
      Flooded (k + 1) s' ∧ ∃ t t' : OctaneTimer, s'.created = [t', t] ++ s.created ∧
        t.iSeq = (UInt16.ofNat (1 + 2 * k)).toNat := by
  obtain ⟨s', addr, t, t', hstep, hnew, hkeys, hnext, -⟩ :=
    KeysBelow.step hs.keys hk hs.nextHandle
  have hseq : t.iSeq = (UInt16.ofNat (1 + 2 * k)).toNat := by
    rw [hnew.numbered.1.1, hs.iSeqnoCnt]
  refine ⟨s', hstep, ⟨hkeys, hnew.iSeqnoCnt_eq hs.iSeqnoCnt, hnext, fun _ => ?_⟩, t, t',
    Channel.created_of_transmit hnew.channel, hseq⟩
  have hmem := Channel.mem_unAckBuffer_of_transmit hnew.channel 1
  refine hmem.2 ?_
  rcases Nat.eq_zero_or_pos k with rfl | hpos
  · exact Or.inr ⟨t, by simp, hseq⟩
  · exact Or.inl (hs.first hpos)

theorem flooded_run (k : ℕ) (hk : k ≤ 32769) :
    ∃ s, run (primStep ⟨.s6, .local 0x2300, 0x2300, 0x2400, 0⟩) sampleStart
      ((List.range k).map manyFlows) = some s ∧ Flooded k s := by
  induction k with
  | zero =>
      refine ⟨sampleStart, rfl, ⟨?_, rfl, rfl, fun h => absurd h (lt_irrefl 0)⟩⟩
      rintro r ⟨v, hv⟩
      exact absurd hv (by simp [sampleStart, start, CRouter.init, FlowTable.empty, StdMap.empty])
  | succ k ih =>
      obtain ⟨s, hrun, hs⟩ := ih (by omega)
      obtain ⟨s', hstep, hs', -⟩ := hs.step (by omega)
      refine ⟨s', ?_, hs'⟩
      rw [List.range_succ, List.map_append, run_append]
      exact ⟨s, hrun, run_cons.2 ⟨s', hstep, rfl⟩⟩

theorem not_noReuse_of_flooded {k : ℕ} (hk : k = 32768) :
    ¬ NoReuse ⟨.s6, .local 0x2300, 0x2300, 0x2400, 0⟩ sampleStart
      ((List.range (k + 1)).map manyFlows) := by
  intro hfresh
  obtain ⟨s, hrun, hs⟩ := flooded_run k (by omega)
  obtain ⟨s', hstep, -, t, t', hcreated, hseq⟩ := hs.step (by omega)
  rw [List.range_succ, List.map_append] at hfresh
  refine ((hfresh.of_append hrun) s' hstep).1.1 t ?_ ?_
  · rw [Channel.newMessages_of_append hcreated]
    simp
  · have hnumber : (UInt16.ofNat (1 + 2 * k)).toNat = 1 := by
      rw [UInt16.toNat_ofNat']
      omega
    rw [hseq, hnumber]
    exact hs.first (by omega)

/-- After 32768 flows without an acknowledgement the next flow takes the number
of the first. -/
theorem not_noReuse_manyFlows :
    ¬ NoReuse ⟨.s6, .local 0x2300, 0x2300, 0x2400, 0⟩ sampleStart
      ((List.range (32768 + 1)).map manyFlows) :=
  not_noReuse_of_flooded rfl

end Primary
