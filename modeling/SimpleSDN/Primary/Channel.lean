import Mathlib.Data.List.Zip
import SimpleSDN.Primary.State
import SimpleSDN.Run

/-!
# The reliable control channel

`Channel` is the part of the primary router that makes control messages
reliable: the handles of the messages that wait for an acknowledgement, the
timers that resend them, the messages made so far and the counter of sequence
numbers. Four things happen to it: nothing, a batch of new messages, an
acknowledgement and an expiry. `Reliable` says that the handles and the timers
are in step, and every one of the four keeps it, as long as no new message takes
a number that is still waited for.
-/

/-- The control channel of the primary router. -/
structure Channel where
  unAckBuffer : IntMap
  timersManager : Timers OctaneTimer
  created : List OctaneTimer
  iSeqnoCnt : UInt16

/-- The messages carry the sequence numbers from `q` on, one after the other. -/
def Numbered : UInt16 → List OctaneTimer → Prop
  | _, [] => True
  | q, t :: ts => (t.iSeq = q.toNat ∧ t.iOctaneMsg.octaneSeqno = q) ∧ Numbered (q + 1) ts

theorem Numbered.getElem {q : UInt16} {ts : List OctaneTimer} (h : Numbered q ts) (i : ℕ)
    (hi : i < ts.length) : ts[i].iSeq = (q + UInt16.ofNat i).toNat := by
  induction ts generalizing q i with
  | nil => simp at hi
  | cons t ts ih =>
      cases i with
      | zero => simpa using h.1.1
      | succ i =>
          rw [List.getElem_cons_succ, ih h.2 i (by simpa using hi)]
          congr 2
          rw [UInt16.add_assoc, ← UInt16.toNat_inj]
          simp [UInt16.toNat_add, Nat.add_comm]

theorem Numbered.exists_iSeq {q : UInt16} {ts : List OctaneTimer} (h : Numbered q ts) (i : ℕ)
    (hi : i < ts.length) :
    ∃ x : ℕ, ts[i].iSeq = x ∧ x = (q.toNat + i) % 65536 := by
  refine ⟨_, h.getElem i hi, ?_⟩
  rw [UInt16.toNat_add, UInt16.toNat_ofNat']
  omega

/-- A short batch does not use a number twice. -/
theorem Numbered.nodup {q : UInt16} {ts : List OctaneTimer} (h : Numbered q ts)
    (hlen : ts.length ≤ 65536) : (ts.map OctaneTimer.iSeq).Nodup := by
  rw [List.nodup_iff_injective_getElem]
  rintro ⟨i, hi⟩ ⟨j, hj⟩ heq
  simp only [List.length_map] at hi hj
  simp only [List.getElem_map, h.getElem i hi, h.getElem j hj, UInt16.toNat_add,
    UInt16.toNat_ofNat'] at heq
  have hq := q.toNat_lt
  refine Fin.ext ?_
  change i = j
  have heq' : (q.toNat + i % 2 ^ 16) % 2 ^ 16 = (q.toNat + j % 2 ^ 16) % 2 ^ 16 := by
    exact_mod_cast heq
  omega

theorem Numbered.iSeq_eq {q : UInt16} {ts : List OctaneTimer} (h : Numbered q ts) :
    ∀ t ∈ ts, t.iSeq = t.iOctaneMsg.octaneSeqno.toNat := by
  induction ts generalizing q with
  | nil => simp
  | cons t ts ih =>
      rintro u (_ | ⟨_, hu⟩)
      · rw [h.1.1, h.1.2]
      · exact ih h.2 u hu

/-- A message is the only one of a short batch with its number. -/
theorem Numbered.find?_reverse {q : UInt16} {ts : List OctaneTimer} (h : Numbered q ts)
    (hlen : ts.length ≤ 65536) {t : OctaneTimer} (ht : t ∈ ts) :
    ts.reverse.find? (fun u => u.iSeq = t.iSeq) = some t := by
  cases hfind : ts.reverse.find? (fun u => u.iSeq = t.iSeq) with
  | none =>
      have := List.find?_eq_none.1 hfind t (List.mem_reverse.2 ht)
      simp at this
  | some u =>
      have hu := List.mem_reverse.1 (List.mem_of_find?_eq_some hfind)
      have hseq : u.iSeq = t.iSeq := by simpa using List.find?_some hfind
      rw [List.inj_on_of_nodup_map (h.nodup hlen) hu ht hseq]

/-- What `register` leaves under a number. -/
theorem getElem?_register {m : IntMap} {l : List (ℤ × ℤ)} (hl : (l.map Prod.fst).Nodup)
    (n h : ℤ) :
    (Primary.register m l)[n]? = some h ↔
      (n, h) ∈ l ∨ (n ∉ l.map Prod.fst ∧ m[n]? = some h) := by
  induction l generalizing m with
  | nil => simp [Primary.register]
  | cons p l ih =>
      simp only [List.map_cons, List.nodup_cons] at hl
      have hcons : Primary.register m (p :: l) = Primary.register (m.insert p.1 p.2) l := rfl
      rw [hcons, ih hl.2, Std.ExtTreeMap.getElem?_insert]
      simp only [Std.compare_eq_iff_eq]
      by_cases hn : p.1 = n
      · subst hn
        simp only [hl.1, not_false_eq_true, true_and, if_true, Option.some.injEq,
          List.map_cons, List.mem_cons, not_true_eq_false, false_and, or_false]
        constructor
        · rintro (hmem | rfl)
          · exact Or.inr hmem
          · exact Or.inl rfl
        · rintro (heq | hmem)
          · exact Or.inr (congrArg Prod.snd heq).symm
          · exact Or.inl hmem
      · have hne : ¬ n = p.1 := fun h => hn h.symm
        have hp : ¬ (n, h) = p := fun heq => hne (congrArg Prod.fst heq)
        simp [hn, hne, hp]

/-- The numbers after `register`. -/
theorem mem_register (m : IntMap) (l : List (ℤ × ℤ)) (n : ℤ) :
    n ∈ Primary.register m l ↔ n ∈ l.map Prod.fst ∨ n ∈ m := by
  induction l generalizing m with
  | nil => simp [Primary.register]
  | cons p l ih =>
      have hcons : Primary.register m (p :: l) = Primary.register (m.insert p.1 p.2) l := rfl
      rw [hcons, ih, Std.ExtTreeMap.mem_insert]
      simp only [Std.compare_eq_iff_eq, List.map_cons, List.mem_cons]
      grind

/-- The numbers of a batch, beside the handles of its timers. -/
theorem map_fst_zip_iSeq {ts : List OctaneTimer} {hs : List ℤ} (h : hs.length = ts.length) :
    ((ts.map OctaneTimer.iSeq).zip hs).map Prod.fst = ts.map OctaneTimer.iSeq := by
  rw [List.map_fst_zip]
  simp [h]

theorem mem_zip_iSeq {ts : List OctaneTimer} {hs : List ℤ} {n hdl : ℤ} :
    (n, hdl) ∈ (ts.map OctaneTimer.iSeq).zip hs ↔ ∃ t, (hdl, t) ∈ hs.zip ts ∧ t.iSeq = n := by
  have hzip : (ts.map OctaneTimer.iSeq).zip hs = (hs.zip ts).map fun p => (p.2.iSeq, p.1) := by
    rw [List.zip_map_left, ← List.zip_swap, List.map_map]
    rfl
  rw [hzip, List.mem_map]
  constructor
  · rintro ⟨⟨h, t⟩, ht, heq⟩
    obtain ⟨rfl, rfl⟩ := Prod.mk.inj heq
    exact ⟨t, ht, rfl⟩
  · rintro ⟨t, ht, rfl⟩
    exact ⟨(hdl, t), ht, rfl⟩

namespace Channel

/-- A batch of new messages. -/
def transmit (C : Channel) (clock : ℕ → Timeval) (ts : List OctaneTimer) : Option Channel :=
  (Timers.addTimers 2000 C.timersManager clock ts).map fun (T, handles) =>
    { unAckBuffer := Primary.register C.unAckBuffer ((ts.map OctaneTimer.iSeq).zip handles)
      timersManager := T
      created := ts.reverse ++ C.created
      iSeqnoCnt := C.iSeqnoCnt + UInt16.ofNat ts.length }

/-- An acknowledgement of `n`. -/
def acknowledge (C : Channel) (n : ℤ) : Channel :=
  { C with
    unAckBuffer := (C.unAckBuffer.insertIfNew n 0).erase n
    timersManager := (C.timersManager.removeTimer (C.unAckBuffer.getD n 0)).1 }

/-- Whatever handle was there, only the entry of `n` is gone. -/
theorem getElem?_unAckBuffer_acknowledge (C : Channel) (n n' : ℤ) :
    (C.acknowledge n).unAckBuffer[n']? = if n = n' then none else C.unAckBuffer[n']? :=
  IntMap.getElem?_erase_insertIfNew ..

/-- What can happen to the channel in one reaction of the primary router. -/
inductive Step : Channel → Channel → Prop
  | idle (C) : Step C C
  | transmit {C C'} (clock) (ts : List OctaneTimer) (hts : Numbered C.iSeqnoCnt ts)
      (hlen : ts.length ≤ 4) (h : C.transmit clock ts = some C') : Step C C'
  | acknowledge (C) (n : ℤ) : Step C (C.acknowledge n)
  | expire {C} (now) {T : Timers OctaneTimer} {t : OctaneTimer}
      (h : C.timersManager.executeNextTimer now = some (T, t)) :
      Step C { C with timersManager := T }

/-- The messages made in a step from `C` to `C'`, newest first. -/
def newMessages (C C' : Channel) : List OctaneTimer :=
  C'.created.take (C'.created.length - C.created.length)

/-- No new message takes a number that is still waited for. -/
def Fresh (C C' : Channel) : Prop := ∀ t ∈ newMessages C C', t.iSeq ∉ C.unAckBuffer

theorem created_of_transmit {C C' : Channel} {clock : ℕ → Timeval} {ts : List OctaneTimer}
    (h : C.transmit clock ts = some C') : C'.created = ts.reverse ++ C.created := by
  obtain ⟨⟨T, hs⟩, -, rfl⟩ := Option.map_eq_some_iff.1 h
  rfl

theorem iSeqnoCnt_of_transmit {C C' : Channel} {clock : ℕ → Timeval} {ts : List OctaneTimer}
    (h : C.transmit clock ts = some C') :
    C'.iSeqnoCnt = C.iSeqnoCnt + UInt16.ofNat ts.length := by
  obtain ⟨⟨T, hs⟩, -, rfl⟩ := Option.map_eq_some_iff.1 h
  rfl

theorem nextHandle_of_transmit {C C' : Channel} {clock : ℕ → Timeval}
    {ts : List OctaneTimer} (h : C.transmit clock ts = some C') :
    C'.timersManager.nextHandle = C.timersManager.nextHandle + ts.length := by
  obtain ⟨⟨T, hs⟩, hadd, rfl⟩ := Option.map_eq_some_iff.1 h
  exact (Timers.of_addTimers hadd).2.1

/-- What waits after a batch: what waited before, and the batch. -/
theorem mem_unAckBuffer_of_transmit {C C' : Channel} {clock : ℕ → Timeval}
    {ts : List OctaneTimer} (h : C.transmit clock ts = some C') (n : ℤ) :
    n ∈ C'.unAckBuffer ↔ n ∈ C.unAckBuffer ∨ ∃ t ∈ ts, t.iSeq = n := by
  obtain ⟨⟨T, hs⟩, hadd, rfl⟩ := Option.map_eq_some_iff.1 h
  change n ∈ Primary.register C.unAckBuffer _ ↔ _
  rw [mem_register, map_fst_zip_iSeq (Timers.length_handles_of_addTimers hadd), List.mem_map,
    or_comm]

/-- A message that waits is not overwritten by a batch of fresh messages. -/
theorem getElem?_unAckBuffer_of_transmit {C C' : Channel} {clock : ℕ → Timeval}
    {ts : List OctaneTimer} (hts : Numbered C.iSeqnoCnt ts) (hlen : ts.length ≤ 65536)
    (h : C.transmit clock ts = some C') (hfresh : ∀ t ∈ ts, t.iSeq ∉ C.unAckBuffer)
    {n hdl : ℤ} (hn : C.unAckBuffer[n]? = some hdl) : C'.unAckBuffer[n]? = some hdl := by
  obtain ⟨⟨T, hs⟩, hadd, rfl⟩ := Option.map_eq_some_iff.1 h
  have hseqs := map_fst_zip_iSeq (Timers.length_handles_of_addTimers hadd)
  change (Primary.register C.unAckBuffer _)[n]? = some hdl
  rw [getElem?_register (by rw [hseqs]; exact hts.nodup hlen), hseqs]
  refine Or.inr ⟨fun hmem => ?_, hn⟩
  obtain ⟨t, ht, rfl⟩ := List.mem_map.1 hmem
  exact hfresh t ht ((IntMap.mem_iff _ _).2 ⟨hdl, hn⟩)

theorem newMessages_of_append {C C' : Channel} {ts : List OctaneTimer}
    (h : C'.created = ts ++ C.created) : newMessages C C' = ts := by
  simp [newMessages, h]

/-- A step without new messages. -/
theorem newMessages_of_created_eq {C C' : Channel} (h : C'.created = C.created) :
    newMessages C C' = [] := by
  simp [newMessages, h]

theorem fresh_of_created_eq {C C' : Channel} (h : C'.created = C.created) : Fresh C C' := by
  intro t ht
  rw [newMessages_of_created_eq h] at ht
  exact absurd ht List.not_mem_nil

/-- The handles and the timers are in step: the numbers waited for are those of
the live timers, and the timer for a number resends the last message made with
it. -/
structure Reliable (C : Channel) : Prop where
  nodup : C.timersManager.handles.Nodup
  bound : ∀ h ∈ C.timersManager.handles, 1 ≤ h ∧ h < C.timersManager.nextHandle
  next : 1 ≤ C.timersManager.nextHandle
  live : ∀ n h, C.unAckBuffer[n]? = some h ↔
    ∃ t, (h, t) ∈ C.timersManager.entries ∧ t.iSeq = n
  resends : ∀ h t, (h, t) ∈ C.timersManager.entries →
    C.created.find? (fun u => u.iSeq = t.iSeq) = some t

/-- An empty channel. -/
theorem reliable_empty (q : UInt16) : Reliable ⟨∅, .init, [], q⟩ where
  nodup := by simp [Timers.handles, Timers.init]
  bound := by simp [Timers.handles, Timers.init]
  next := le_refl _
  live n h := by simp [Timers.entries, Timers.init]
  resends h t := by simp [Timers.entries, Timers.init]

namespace Reliable

variable {C C' : Channel}

/-- Different numbers wait under different handles. -/
theorem distinct (hC : C.Reliable) {n n' h : ℤ} (hn : C.unAckBuffer[n]? = some h)
    (hn' : C.unAckBuffer[n']? = some h) : n = n' := by
  obtain ⟨t, ht, rfl⟩ := (hC.live n h).1 hn
  obtain ⟨t', ht', rfl⟩ := (hC.live n' h).1 hn'
  rw [Timers.eq_of_mem_entries hC.nodup ht ht']

/-- The handles that are stored are those of the live timers. -/
theorem mem_handles_iff (hC : C.Reliable) (h : ℤ) :
    h ∈ C.timersManager.handles ↔ ∃ n : ℤ, C.unAckBuffer[n]? = some h := by
  rw [Timers.handles_eq, List.mem_map]
  constructor
  · rintro ⟨⟨h', t⟩, ht, rfl⟩
    exact ⟨t.iSeq, (hC.live _ _).2 ⟨t, ht, rfl⟩⟩
  · rintro ⟨n, hn⟩
    obtain ⟨t, ht, -⟩ := (hC.live n h).1 hn
    exact ⟨(h, t), ht, rfl⟩

/-- When no timer is left, nothing is waited for. -/
theorem unAckBuffer_eq_empty (hC : C.Reliable) (hempty : C.timersManager.eq = []) :
    C.unAckBuffer = ∅ := by
  refine Std.ExtTreeMap.ext_getElem? fun n => ?_
  rw [Std.ExtTreeMap.getElem?_empty, Option.eq_none_iff_forall_ne_some]
  intro h hn
  obtain ⟨t, ht, -⟩ := (hC.live n h).1 hn
  simp [Timers.entries, hempty] at ht

theorem expire (hC : C.Reliable) {now : Timeval} {T : Timers OctaneTimer} {t : OctaneTimer}
    (hexec : C.timersManager.executeNextTimer now = some (T, t)) :
    Reliable { C with timersManager := T } := by
  obtain ⟨hnext, hperm, -⟩ := Timers.of_executeNextTimer hexec
  have hhandles : T.handles.Perm C.timersManager.handles := by
    rw [Timers.handles_eq, Timers.handles_eq]
    exact hperm.map _
  constructor
  · exact hhandles.nodup_iff.2 hC.nodup
  · intro h hh
    change 1 ≤ h ∧ h < T.nextHandle
    rw [hnext]
    exact hC.bound h (hhandles.mem_iff.1 hh)
  · change 1 ≤ T.nextHandle
    rw [hnext]
    exact hC.next
  · intro n h
    simp only [hperm.mem_iff]
    exact hC.live n h
  · intro h t' ht'
    exact hC.resends h t' (hperm.mem_iff.1 ht')

theorem acknowledge (hC : C.Reliable) (n : ℤ) : (C.acknowledge n).Reliable := by
  have hmem := Timers.mem_entries_removeTimer hC.nodup (C.unAckBuffer.getD n 0)
  have hsub := Timers.handles_removeTimer_sublist C.timersManager (C.unAckBuffer.getD n 0)
  constructor
  · exact hC.nodup.sublist hsub
  · intro h hh
    exact hC.bound h (hsub.subset hh)
  · exact hC.next
  · intro n' h
    rw [getElem?_unAckBuffer_acknowledge]
    change _ ↔ ∃ t, (h, t) ∈ (C.timersManager.removeTimer _).1.entries ∧ t.iSeq = n'
    simp only [hmem]
    rw [Std.ExtTreeMap.getD_eq_getD_getElem?]
    split_ifs with hn
    · -- the timer under `n` is the one that is removed
      subst hn
      simp only [false_iff, not_exists, not_and]
      rintro t ⟨ht, hne⟩ hseq
      have := (hC.live n h).2 ⟨t, ht, hseq⟩
      simp [this] at hne
    · rw [hC.live n' h]
      constructor
      · rintro ⟨t, ht, hseq⟩
        refine ⟨t, ⟨ht, ?_⟩, hseq⟩
        rintro rfl
        have hn' := (hC.live n' _).2 ⟨t, ht, hseq⟩
        cases hget : C.unAckBuffer[n]? with
        | none =>
            -- no timer has the handle 0 that is inserted for an unknown number
            have := hC.bound _ ((hC.mem_handles_iff _).2 ⟨n', hn'⟩)
            simp [hget] at this
        | some h' =>
            simp only [hget, Option.getD_some] at hn'
            exact hn (hC.distinct hget hn')
      · rintro ⟨t, ⟨ht, -⟩, hseq⟩
        exact ⟨t, ht, hseq⟩
  · intro h t ht
    exact hC.resends h t ((hmem _).1 ht).1

/-- The number of a live timer is waited for. -/
theorem mem_unAckBuffer (hC : C.Reliable) {h : ℤ} {t : OctaneTimer}
    (ht : (h, t) ∈ C.timersManager.entries) : t.iSeq ∈ C.unAckBuffer :=
  (IntMap.mem_iff _ _).2 ⟨h, (hC.live _ h).2 ⟨t, ht, rfl⟩⟩

theorem live_of_transmit (hC : C.Reliable) {clock : ℕ → Timeval} {ts : List OctaneTimer}
    (hts : Numbered C.iSeqnoCnt ts) (hlen : ts.length ≤ 65536)
    (h : C.transmit clock ts = some C') (hfresh : ∀ t ∈ ts, t.iSeq ∉ C.unAckBuffer) (n hdl : ℤ) :
    C'.unAckBuffer[n]? = some hdl ↔ ∃ t, (hdl, t) ∈ C'.timersManager.entries ∧ t.iSeq = n := by
  obtain ⟨⟨T, hs⟩, hadd, rfl⟩ := Option.map_eq_some_iff.1 h
  have hseqs := map_fst_zip_iSeq (Timers.length_handles_of_addTimers hadd)
  change (Primary.register C.unAckBuffer _)[n]? = some hdl ↔
    ∃ t, (hdl, t) ∈ T.entries ∧ t.iSeq = n
  rw [getElem?_register (by rw [hseqs]; exact hts.nodup hlen), hseqs, hC.live n hdl,
    mem_zip_iSeq]
  simp only [(Timers.of_addTimers hadd).2.2.mem_iff, List.mem_append]
  constructor
  · rintro (⟨t, ht, hseq⟩ | ⟨-, t, ht, hseq⟩)
    · exact ⟨t, Or.inl ht, hseq⟩
    · exact ⟨t, Or.inr ht, hseq⟩
  · rintro ⟨t, ht | ht, rfl⟩
    · exact Or.inl ⟨t, ht, rfl⟩
    · refine Or.inr ⟨fun hmem => ?_, t, ht, rfl⟩
      obtain ⟨u, hu, hseq⟩ := List.mem_map.1 hmem
      exact hfresh u hu (hseq ▸ hC.mem_unAckBuffer ht)

theorem resends_of_transmit (hC : C.Reliable) {clock : ℕ → Timeval} {ts : List OctaneTimer}
    (hts : Numbered C.iSeqnoCnt ts) (hlen : ts.length ≤ 65536)
    (h : C.transmit clock ts = some C') (hfresh : ∀ t ∈ ts, t.iSeq ∉ C.unAckBuffer) :
    ∀ hdl t, (hdl, t) ∈ C'.timersManager.entries →
      C'.created.find? (fun u => u.iSeq = t.iSeq) = some t := by
  intro hdl t ht
  obtain ⟨⟨T, hs⟩, hadd, rfl⟩ := Option.map_eq_some_iff.1 h
  change (ts.reverse ++ C.created).find? _ = some t
  rw [List.find?_append]
  rcases List.mem_append.1 ((Timers.of_addTimers hadd).2.2.mem_iff.1 ht) with ht | ht
  · rw [hts.find?_reverse hlen (List.of_mem_zip ht).2, Option.some_or]
  · -- no new message has the number of an old one
    have hfind : ts.reverse.find? (fun u => u.iSeq = t.iSeq) = none := by
      rw [List.find?_eq_none]
      intro u hu hseq
      refine hfresh u (List.mem_reverse.1 hu) ?_
      rw [of_decide_eq_true hseq]
      exact hC.mem_unAckBuffer ht
    rw [hfind, Option.none_or]
    exact hC.resends hdl t ht

theorem transmit (hC : C.Reliable) {clock : ℕ → Timeval} {ts : List OctaneTimer}
    (hts : Numbered C.iSeqnoCnt ts) (hlen : ts.length ≤ 65536)
    (h : C.transmit clock ts = some C') (hfresh : ∀ t ∈ ts, t.iSeq ∉ C.unAckBuffer) :
    C'.Reliable := by
  have hlive := hC.live_of_transmit hts hlen h hfresh
  have hresends := hC.resends_of_transmit hts hlen h hfresh
  have hnext := nextHandle_of_transmit h
  have hC1 := hC.next
  obtain ⟨⟨T, hs⟩, hadd, rfl⟩ := Option.map_eq_some_iff.1 h
  have hhandles := Timers.handles_of_addTimers hadd
  have hnew : ∀ h ∈ hs, C.timersManager.nextHandle ≤ h ∧ h < T.nextHandle :=
    fun h hh => Timers.bound_of_addTimers hadd hh
  refine ⟨?_, ?_, ?_, hlive, hresends⟩
  · change T.handles.Nodup
    rw [hhandles.nodup_iff, List.nodup_append]
    refine ⟨Timers.nodup_of_addTimers hadd, hC.nodup, ?_⟩
    rintro h hh h' hh' rfl
    have := (hnew h hh).1
    have := (hC.bound h hh').2
    omega
  · intro h hh
    change 1 ≤ h ∧ h < T.nextHandle
    change T.nextHandle = _ at hnext
    rcases List.mem_append.1 (hhandles.mem_iff.1 hh) with hh | hh
    · have := hnew h hh
      omega
    · have := hC.bound h hh
      omega
  · rw [hnext]
    omega

/-- Every step that does not reuse a number keeps the handles and the timers in
step. -/
theorem step (hC : C.Reliable) (hstep : Step C C') (hfresh : Fresh C C') : C'.Reliable := by
  cases hstep with
  | idle => exact hC
  | transmit clock ts hts hlen h =>
      refine hC.transmit hts (by omega) h fun t ht => hfresh t ?_
      rw [newMessages_of_append (created_of_transmit h)]
      exact List.mem_reverse.2 ht
  | acknowledge n => exact hC.acknowledge n
  | expire now h => exact hC.expire h

end Reliable

/-! ### The message that waits under a number -/

/-- The live timer whose handle is stored under `n`. -/
def Registered (C : Channel) (n : ℤ) (t : OctaneTimer) : Prop :=
  ∃ h, C.unAckBuffer[n]? = some h ∧ (h, t) ∈ C.timersManager.entries

/-- From `C` to `C'` no entry and no timer is given up. -/
structure Kept (C C' : Channel) : Prop where
  entry : ∀ n, n ∈ C.unAckBuffer → n ∈ C'.unAckBuffer
  timer : ∀ p, p ∈ C.timersManager.entries → p ∈ C'.timersManager.entries

theorem Kept.refl (C : Channel) : Kept C C := ⟨fun _ h => h, fun _ h => h⟩

theorem kept_of_transmit {C C' : Channel} {clock : ℕ → Timeval} {ts : List OctaneTimer}
    (h : C.transmit clock ts = some C') : Kept C C' := by
  refine ⟨fun n hn => (mem_unAckBuffer_of_transmit h n).2 (Or.inl hn), fun p hp => ?_⟩
  obtain ⟨⟨T, hs⟩, hadd, rfl⟩ := Option.map_eq_some_iff.1 h
  exact (Timers.of_addTimers hadd).2.2.mem_iff.2 (List.mem_append_right _ hp)

theorem kept_of_expire {C : Channel} {now : Timeval} {T : Timers OctaneTimer}
    {t : OctaneTimer} (h : C.timersManager.executeNextTimer now = some (T, t)) :
    Kept C { C with timersManager := T } :=
  ⟨fun _ hn => hn, fun _ hp => (Timers.of_executeNextTimer h).2.1.mem_iff.2 hp⟩

namespace Reliable

variable {C C' : Channel} {n : ℤ} {t : OctaneTimer}

theorem registered_iff (hC : C.Reliable) :
    C.Registered n t ↔ t.iSeq = n ∧ ∃ h, (h, t) ∈ C.timersManager.entries := by
  constructor
  · rintro ⟨h, hn, ht⟩
    obtain ⟨t', ht', rfl⟩ := (hC.live n h).1 hn
    obtain rfl := Timers.eq_of_mem_entries hC.nodup ht ht'
    exact ⟨rfl, h, ht⟩
  · rintro ⟨rfl, h, ht⟩
    exact ⟨h, (hC.live _ h).2 ⟨t, ht, rfl⟩, ht⟩

/-- What waits has a timer. -/
theorem exists_registered (hC : C.Reliable) (hn : n ∈ C.unAckBuffer) :
    ∃ t, C.Registered n t := by
  obtain ⟨h, hn⟩ := (IntMap.mem_iff _ _).1 hn
  obtain ⟨t, ht, -⟩ := (hC.live n h).1 hn
  exact ⟨t, h, hn, ht⟩

theorem registered_unique (hC : C.Reliable) {t' : OctaneTimer} (h : C.Registered n t)
    (h' : C.Registered n t') : t = t' := by
  obtain ⟨rfl, hdl, ht⟩ := hC.registered_iff.1 h
  obtain ⟨hseq, hdl', ht'⟩ := hC.registered_iff.1 h'
  have hfind := hC.resends hdl t ht
  have hfind' := hC.resends hdl' t' ht'
  rw [hseq, hfind] at hfind'
  exact Option.some.inj hfind'

/-- A step registers only its new messages. -/
theorem registered_of_step (hC : C.Reliable) (hstep : Step C C') (hfresh : Fresh C C')
    (h : C'.Registered n t) : C.Registered n t ∨ t ∈ newMessages C C' := by
  obtain ⟨rfl, hdl, ht⟩ := (hC.step hstep hfresh).registered_iff.1 h
  have hold : (∃ hdl, (hdl, t) ∈ C.timersManager.entries) → C.Registered t.iSeq t :=
    fun ht => hC.registered_iff.2 ⟨rfl, ht⟩
  cases hstep with
  | idle => exact Or.inl (hold ⟨hdl, ht⟩)
  | transmit clock ts hts hlen htransmit =>
      rw [newMessages_of_append (created_of_transmit htransmit), List.mem_reverse]
      obtain ⟨⟨T, hs⟩, hadd, rfl⟩ := Option.map_eq_some_iff.1 htransmit
      rcases List.mem_append.1 ((Timers.of_addTimers hadd).2.2.mem_iff.1 ht) with ht | ht
      · exact Or.inr (List.of_mem_zip ht).2
      · exact Or.inl (hold ⟨hdl, ht⟩)
  | acknowledge n =>
      have hmem := Timers.mem_entries_removeTimer hC.nodup (C.unAckBuffer.getD n 0)
      exact Or.inl (hold ⟨hdl, ((hmem _).1 ht).1⟩)
  | expire now hexec =>
      exact Or.inl (hold ⟨hdl, (Timers.of_executeNextTimer hexec).2.1.mem_iff.1 ht⟩)

/-- An acknowledgement of `n` gives up the timer that is registered under it. -/
theorem registered_of_acknowledge (hC : C.Reliable) {hdl : ℤ}
    (ht : (hdl, t) ∈ C.timersManager.entries)
    (ht' : (hdl, t) ∉ (C.acknowledge n).timersManager.entries) : C.Registered n t := by
  have hmem := Timers.mem_entries_removeTimer hC.nodup (C.unAckBuffer.getD n 0) (hdl, t)
  have hget : hdl = C.unAckBuffer.getD n 0 := by
    by_contra hne
    exact ht' (hmem.2 ⟨ht, hne⟩)
  refine ⟨hdl, ?_, ht⟩
  rw [Std.ExtTreeMap.getD_eq_getD_getElem?] at hget
  cases hn : C.unAckBuffer[n]? with
  | none =>
      -- no timer has the handle 0
      have := (hC.bound hdl (Timers.mem_handles ht)).1
      simp [hn] at hget
      omega
  | some h => simp [hget, hn]

end Reliable

/-- An acknowledgement of `n` erases no other entry. -/
theorem eq_of_erased {C : Channel} {n n' : ℤ} (hn : n' ∈ C.unAckBuffer)
    (hn' : n' ∉ (C.acknowledge n).unAckBuffer) : n' = n := by
  by_contra hne
  refine hn' ?_
  obtain ⟨h, hn⟩ := (IntMap.mem_iff _ _).1 hn
  refine (IntMap.mem_iff _ _).2 ⟨h, ?_⟩
  rw [getElem?_unAckBuffer_acknowledge, if_neg fun heq => hne heq.symm, hn]

end Channel
