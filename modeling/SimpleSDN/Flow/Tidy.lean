import SimpleSDN.Flow.Table

/-!
# The flow table as a finite map with wildcards

A table is tidy when its stored keys are untangled and in order. Tidiness is
kept by every update whose keys are untangled together with the stored ones,
and on a tidy table the container does what the routers expect of it up to
swallowing: `flowCheck` finds a matching rule exactly when no entry is confused
with a rule that does not match it, and an update changes exactly its own keys
exactly when none of them swallows, or is swallowed by, a stored key.
-/

namespace FlowTable

open SearchTree (Incomparable)

/-- The container is in order over its own keys. -/
def Tidy (T : FlowTable) : Prop := T.mTable.OrderedOn T.keys

theorem tidy_empty (b : Rebalance FlowEntry FlowAction) : (empty b).Tidy := by
  refine StdMap.orderedOn_empty b (FlowEntry.Untangled.strictWeakOn ?_)
  simp [FlowEntry.Untangled, keys, empty]

theorem Tidy.orderedOn {T : FlowTable} (h : T.Tidy) {S : Set FlowEntry}
    (hS : FlowEntry.Untangled S) (hkeys : T.keys ⊆ S) : T.mTable.OrderedOn S :=
  h.change hS.strictWeakOn hkeys

theorem orderedOn_apply {T : FlowTable} {S : Set FlowEntry} (h : T.mTable.OrderedOn S)
    (op : TableOp) (hop : op.keys ⊆ S) : (op.apply T).mTable.OrderedOn S := by
  cases op with
  | insert msg => exact h.set (hop rfl) _
  | dbInsert msg newFwdPort =>
      exact (h.set (hop (Or.inl rfl)) _).set (hop (Or.inr rfl)) _
  | remove msg => exact h.erase (hop rfl)

/-- The step lemma: an update whose keys are untangled with the stored ones
keeps the table tidy. -/
theorem Tidy.apply {T : FlowTable} (h : T.Tidy) {op : TableOp}
    (hop : FlowEntry.Untangled (T.keys ∪ op.keys)) : (op.apply T).Tidy := by
  have hS := orderedOn_apply (h.orderedOn hop Set.subset_union_left) op
    Set.subset_union_right
  exact hS.change (hS.order.mono hS.keys_subset) subset_rfl

theorem Tidy.remove {T : FlowTable} (h : T.Tidy) {msg : OctaneControl}
    (hmsg : FlowEntry.Untangled (T.keys ∪ {.ofMsg msg})) : (T.remove msg).1.Tidy := by
  have hop : FlowEntry.Untangled (T.keys ∪ (TableOp.remove msg).keys) := hmsg
  exact h.apply hop

theorem Tidy.dbInsert {T : FlowTable} (h : T.Tidy) {msg : OctaneControl} (newFwdPort : UInt16)
    (hmsg : FlowEntry.Untangled (T.keys ∪ {.ofMsg msg, (FlowEntry.ofMsg msg).reverse})) :
    (T.dbInsert msg newFwdPort).1.Tidy := by
  have hop : FlowEntry.Untangled (T.keys ∪ (TableOp.dbInsert msg newFwdPort).keys) := hmsg
  exact h.apply hop

/-- The updates of the run meet untangled keys only. -/
def UntangledRun (T : FlowTable) (ops : List TableOp) : Prop :=
  Along tableStep (fun T op _ => FlowEntry.Untangled (T.keys ∪ op.keys)) T ops

theorem Tidy.run {T T' : FlowTable} {ops : List TableOp} (h : T.Tidy)
    (hops : T.UntangledRun ops) (hrun : run tableStep T ops = some T') : T'.Tidy := by
  refine run_invariant (I := Tidy) ?_ h hops hrun
  intro T op T' hT hstep hop
  obtain rfl : op.apply T = T' := Option.some.inj hstep
  exact hT.apply hop

/-- Whatever the comparator does, only keys that the updates are called with are stored. -/
theorem along_keys_subset {T : FlowTable} {S : Set FlowEntry} {ops : List TableOp}
    (hT : T.keys ⊆ S) (hops : ∀ op ∈ ops, op.keys ⊆ S) :
    Along tableStep (fun T op T' => (T.keys ⊆ S ∧ op.keys ⊆ S) ∧ T'.keys ⊆ S) T ops := by
  refine Along.imp_of_invariant (I := fun T => T.keys ⊆ S) ?_ hT
    (Along.of_mem (P := fun op => op.keys ⊆ S) hops)
  intro T op T' hT hstep hop
  obtain rfl : op.apply T = T' := Option.some.inj hstep
  have hnew : (op.apply T).keys ⊆ S :=
    (TableOp.keys_apply_subset T op).trans (Set.union_subset hT hop)
  exact ⟨hnew, ⟨hT, hop⟩, hnew⟩

theorem keys_empty_subset (b : Rebalance FlowEntry FlowAction) (S : Set FlowEntry) :
    (empty b).keys ⊆ S := by
  rintro r ⟨v, hv⟩
  exact absurd hv List.not_mem_nil

theorem keys_subset_of_run {b : Rebalance FlowEntry FlowAction} {S : Set FlowEntry}
    {ops : List TableOp} (hops : ∀ op ∈ ops, op.keys ⊆ S) {T : FlowTable}
    (hrun : run tableStep (empty b) ops = some T) : T.keys ⊆ S :=
  run_invariant (I := fun T => T.keys ⊆ S) (fun _ _ _ _ _ h => h.2) (keys_empty_subset b S)
    (along_keys_subset (keys_empty_subset b S) hops) hrun

theorem untangledRun_of_subset {T : FlowTable} {S : Set FlowEntry} {ops : List TableOp}
    (hS : FlowEntry.Untangled S) (hT : T.keys ⊆ S) (hops : ∀ op ∈ ops, op.keys ⊆ S) :
    T.UntangledRun ops :=
  (along_keys_subset hT hops).imp fun _ _ _ _ h => hS.mono (Set.union_subset h.1.1 h.1.2)

/-! ### Lookup -/

/-- `flowCheck` returns a line exactly when a stored rule matches the entry, and
then the key it returns is such a rule. -/
def LookupExact (T : FlowTable) (e : FlowEntry) : Prop :=
  ∀ filterEntry,
    ((T.flowCheckOut e filterEntry).1 ≠ "" ↔ ∃ r ∈ T.keys, r.Matches e) ∧
    ((T.flowCheckOut e filterEntry).1 ≠ "" →
      (T.flowCheckOut e filterEntry).2 ∈ T.keys ∧
        (T.flowCheckOut e filterEntry).2.Matches e)

theorem Tidy.containsOut_iff {T : FlowTable} (h : T.Tidy) {e : FlowEntry}
    (he : FlowEntry.Untangled (T.keys ∪ {e})) (r : FlowEntry) :
    T.containsOut e = some r ↔ r ∈ T.keys ∧ (r = e ∨ r.Confused e) := by
  have hS := h.orderedOn he Set.subset_union_left
  rw [← FlowEntry.incomparable_iff]
  constructor
  · exact of_containsOut
  · rintro ⟨⟨v, hrv⟩, hinc⟩
    unfold containsOut
    rw [(hS.find_eq_some_iff (Or.inr rfl) (r, v)).2 ⟨hrv, hinc⟩]
    rfl

theorem Tidy.contains_eq_false_iff {T : FlowTable} (h : T.Tidy) {e : FlowEntry}
    (he : FlowEntry.Untangled (T.keys ∪ {e})) :
    T.contains e = false ↔ ∀ r ∈ T.keys, ¬ Incomparable FlowEntry.lt r e := by
  have hS := h.orderedOn he Set.subset_union_left
  refine Iff.trans ?_ (hS.find_eq_none_iff (Or.inr rfl))
  simp [contains]

/-- A stored key is found. -/
theorem Tidy.contains_of_mem {T : FlowTable} (h : T.Tidy) {r : FlowEntry} (hr : r ∈ T.keys) :
    T.contains r = true := by
  by_contra hnot
  have hfalse := Bool.eq_false_iff.2 hnot
  have hfind : T.mTable.find r = none := by simpa [contains] using hfalse
  exact (StdMap.OrderedOn.find_eq_none_iff h hr).1 hfind r hr (h.order.incomp_self hr)

/-- The comparator tells the stored keys apart. -/
theorem Tidy.eq_of_incomparable {T : FlowTable} (h : T.Tidy) {r r' : FlowEntry}
    (hr : r ∈ T.keys) (hr' : r' ∈ T.keys) (hinc : Incomparable FlowEntry.lt r r') : r = r' :=
  StdMap.OrderedOn.eq_of_incomp h hr hr' hinc

theorem Tidy.mem_entries_remove {T : FlowTable} (h : T.Tidy) {msg : OctaneControl}
    (hmsg : FlowEntry.Untangled (T.keys ∪ {.ofMsg msg})) (r : FlowEntry) (a : FlowAction) :
    (r, a) ∈ (T.remove msg).1.entries ↔
      (r, a) ∈ T.entries ∧ ¬ Incomparable FlowEntry.lt r (.ofMsg msg) :=
  (h.orderedOn hmsg Set.subset_union_left).mem_entries_erase (Or.inr rfl) (r, a)

/-- The slot of the reverse, once the rule for the entry is in. -/
theorem Tidy.slot_reverse {T : FlowTable} (h : T.Tidy) {e : FlowEntry}
    (he : FlowEntry.Untangled (T.keys ∪ {e, e.reverse})) {msg : OctaneControl}
    (hmsg : FlowEntry.ofMsg msg = e) :
    Incomparable FlowEntry.lt ((T.insert msg).1.slot e.reverse) e.reverse := by
  have hop : (TableOp.insert msg).keys ⊆ T.keys ∪ {e, e.reverse} := by
    rintro r rfl
    exact Or.inr (Or.inl hmsg)
  have hS := orderedOn_apply (h.orderedOn he Set.subset_union_left) (.insert msg) hop
  exact hS.slot_incomp (Or.inr (Or.inr rfl))

theorem flowCheckOut_of_containsOut {T : FlowTable} {e r : FlowEntry}
    (h : T.containsOut e = some r) (f : FlowEntry) : (T.flowCheckOut e f).2 = r := by
  simp [flowCheckOut, h]

/-- On a tidy table the lookup is exact when the entry is confused with no rule
but those that match it, and some rule stands for it if any matches. -/
theorem Tidy.lookupExact_iff {T : FlowTable} (h : T.Tidy) {e : FlowEntry}
    (he : FlowEntry.Untangled (T.keys ∪ {e})) :
    T.LookupExact e ↔
      (∀ r ∈ T.keys, r.Confused e → r.Matches e) ∧
        ((∃ r ∈ T.keys, r.Matches e) → ∃ r ∈ T.keys, r = e ∨ r.Confused e) := by
  constructor
  · intro hexact
    constructor
    · intro r hr hconf
      have hout := (h.containsOut_iff he r).2 ⟨hr, Or.inr hconf⟩
      have hne := (flowCheckOut_ne_empty_iff T e e).2 ((contains_iff T e).2 ⟨r, hout⟩)
      have hmatch := ((hexact e).2 hne).2
      rwa [flowCheckOut_of_containsOut hout] at hmatch
    · intro hmatch
      have hne := (hexact e).1.2 hmatch
      obtain ⟨r, hr⟩ := (contains_iff T e).1 ((flowCheckOut_ne_empty_iff T e e).1 hne)
      exact ⟨r, (h.containsOut_iff he r).1 hr⟩
  · rintro ⟨hconf, hsome⟩ f
    have hhit : ∀ r, T.containsOut e = some r → r ∈ T.keys ∧ r.Matches e := by
      intro r hr
      obtain ⟨hmem, rfl | hre⟩ := (h.containsOut_iff he r).1 hr
      · exact ⟨hmem, FlowEntry.Matches.refl r⟩
      · exact ⟨hmem, hconf r hmem hre⟩
    rw [flowCheckOut_ne_empty_iff, contains_iff]
    refine ⟨⟨fun ⟨r, hr⟩ => ⟨r, hhit r hr⟩, fun hmatch => ?_⟩, fun ⟨r, hr⟩ => ?_⟩
    · obtain ⟨r, hr⟩ := hsome hmatch
      exact ⟨r, (h.containsOut_iff he r).2 hr⟩
    · rw [flowCheckOut_of_containsOut hr]
      exact hhit r hr

/-- In every table that untangled updates build from the empty one, the lookup
of an entry untangled with the stored keys is exact exactly when every rule the
entry is confused with matches it, and some rule stands for it if any
matches. -/
theorem lookupExact_iff_of_run (b : Rebalance FlowEntry FlowAction) (ops : List TableOp)
    (T : FlowTable) (e : FlowEntry) (hrun : run tableStep (empty b) ops = some T)
    (hops : (empty b).UntangledRun ops) (he : FlowEntry.Untangled (T.keys ∪ {e})) :
    T.LookupExact e ↔
      (∀ r ∈ T.keys, r.Confused e → r.Matches e) ∧
        ((∃ r ∈ T.keys, r.Matches e) → ∃ r ∈ T.keys, r = e ∨ r.Confused e) :=
  ((tidy_empty b).run hops hrun).lookupExact_iff he

/-- The rules of a ping to 10.5.51.2 and of two TCP flows to 10.5.51.1; the second flow is
removed again. -/
def pingAndFlows : List TableOp :=
  [.insert ⟨1, 0, 1, 0x0A00A8C0, 0x0233050A, 0xFFFF, 0xFFFF, 1, 0⟩,
    .dbInsert ⟨1, 0, 2, 0x0A00A8C0, 0x0133050A, 0x1027, 0x5000, 6, 0⟩ 4000,
    .insert ⟨1, 0, 4, 0x0A00A8C0, 0x0133050A, 0x1127, 0xBB01, 6, 0⟩,
    .remove ⟨4, 0, 4, 0x0A00A8C0, 0x0133050A, 0x1127, 0xBB01, 6, 0⟩]

/-- The keys of these rules. -/
def pingAndFlowKeys : List FlowEntry :=
  [⟨0x0A00A8C0, 0x0233050A, 0xFFFF, 0xFFFF, 1⟩, ⟨0x0A00A8C0, 0x0133050A, 0x1027, 0x5000, 6⟩,
    ⟨0x0133050A, 0x0A00A8C0, 0x5000, 0x1027, 6⟩, ⟨0x0A00A8C0, 0x0133050A, 0x1127, 0xBB01, 6⟩]

theorem not_confused_pingAndFlowKeys :
    ∀ r ∈ pingAndFlowKeys, ∀ e ∈ pingAndFlowKeys, ¬ r.Confused e := by
  decide

theorem untangled_pingAndFlowKeys : FlowEntry.Untangled {e | e ∈ pingAndFlowKeys} :=
  fun e he r hr hs => absurd (Or.inl hs) (not_confused_pingAndFlowKeys r hr e he)

theorem keys_pingAndFlows : ∀ op ∈ pingAndFlows, op.keys ⊆ {e | e ∈ pingAndFlowKeys} := by
  intro op hop
  simp only [pingAndFlows, List.mem_cons, List.not_mem_nil, or_false] at hop
  rcases hop with rfl | rfl | rfl | rfl
  · exact Set.singleton_subset_iff.2 (by decide)
  · exact Set.pair_subset (by decide) (by decide)
  · exact Set.singleton_subset_iff.2 (by decide)
  · exact Set.singleton_subset_iff.2 (by decide)

/-- The table answers for the ping and for the flow that is left. -/
theorem lookupExact_ping_and_flows :
    ∃ T, run tableStep (empty (.none _ _)) pingAndFlows = some T ∧
      T.LookupExact ⟨0x0A00A8C0, 0x0233050A, 0xFFFF, 0xFFFF, 1⟩ ∧
      T.LookupExact ⟨0x0A00A8C0, 0x0133050A, 0x1027, 0x5000, 6⟩ := by
  have hops : UntangledRun (empty (.none _ _)) pingAndFlows :=
    untangledRun_of_subset untangled_pingAndFlowKeys (keys_empty_subset _ _) keys_pingAndFlows
  refine ⟨_, rfl, ?_, ?_⟩
  all_goals
    refine (lookupExact_iff_of_run (.none _ _) pingAndFlows _ _ rfl hops ?_).2 ⟨?_, fun _ => ?_⟩
    · have hkeys := keys_subset_of_run (b := .none _ _) keys_pingAndFlows rfl
      refine untangled_pingAndFlowKeys.mono (Set.union_subset hkeys ?_)
      exact Set.singleton_subset_iff.2 (by decide)
    · have hkeys := keys_subset_of_run (b := .none _ _) keys_pingAndFlows rfl
      exact fun r hr hconf =>
        absurd hconf (not_confused_pingAndFlowKeys r (hkeys hr) _ (by decide))
    · exact ⟨_, ⟨⟨0, 1⟩, by decide⟩, Or.inl rfl⟩

/-- A ping between two hosts, and then a TCP packet between them: the packet is
given the rule of the ping. -/
theorem not_lookupExact_tcp_after_ping :
    ¬ ((TableOp.insert ⟨1, 0, 1, 0x0A00A8C0, 0x0133050A, 0xFFFF, 0xFFFF, 1, 0⟩).apply
        (empty (.none FlowEntry FlowAction))).LookupExact
      (.ofBuffer ⟨0, 0, 0, 0⟩ ⟨6, 0x0A00A8C0, 0x0133050A, 0x1027, 0x5000, 0,
        ⟨0, 0, 0, 0, 0, 0, 0, 0, 0⟩⟩) := by
  intro h
  obtain ⟨hiff, -⟩ := h ⟨0, 0, 0, 0, 0⟩
  rw [flowCheckOut_ne_empty_iff] at hiff
  obtain ⟨r, hr, hmatch⟩ := hiff.1 (by decide)
  rcases keys_insert_subset _ _ hr with rfl | hr
  · revert hmatch
    decide
  · simp [empty, keys] at hr

/-! ### Updates -/

/-- After the update the entries are those of a map keyed by exact
five-tuples. -/
def ExactAfter (T : FlowTable) (op : TableOp) (T' : FlowTable) : Prop :=
  match op with
  | .insert msg => ∀ r a, (r, a) ∈ T'.entries ↔
      (r = .ofMsg msg ∧ a = .ofMsg msg) ∨ (r ≠ .ofMsg msg ∧ (r, a) ∈ T.entries)
  | .dbInsert msg newFwdPort => FlowEntry.ofMsg msg ≠ (FlowEntry.ofMsg msg).reverse →
      ∀ r a, (r, a) ∈ T'.entries ↔
        (r = .ofMsg msg ∧ a = .ofMsg msg) ∨
        (r = (FlowEntry.ofMsg msg).reverse ∧ a = actionRev msg newFwdPort) ∨
        (r ≠ .ofMsg msg ∧ r ≠ (FlowEntry.ofMsg msg).reverse ∧ (r, a) ∈ T.entries)
  | .remove msg => ∀ r a, (r, a) ∈ T'.entries ↔ r ≠ .ofMsg msg ∧ (r, a) ∈ T.entries

/-- No stored key swallows a key of the update or is swallowed by one. A double
insertion of a flow that is its own reverse is exempt. -/
def Separate (T : FlowTable) (op : TableOp) : Prop :=
  match op with
  | .insert msg => ∀ r ∈ T.keys, ¬ r.Confused (.ofMsg msg)
  | .dbInsert msg _ => FlowEntry.ofMsg msg ≠ (FlowEntry.ofMsg msg).reverse →
      ∀ r ∈ T.keys, ¬ r.Confused (.ofMsg msg) ∧ ¬ r.Confused (FlowEntry.ofMsg msg).reverse
  | .remove msg => ∀ r ∈ T.keys, ¬ r.Confused (.ofMsg msg)

theorem forall_incomparable_iff {K : Set FlowEntry} (e : FlowEntry) :
    (∀ r ∈ K, Incomparable FlowEntry.lt r e → r = e) ↔ ∀ r ∈ K, ¬ r.Confused e := by
  refine forall₂_congr fun r _ => ?_
  rw [FlowEntry.incomparable_iff]
  constructor
  · exact fun h hconf => hconf.ne (h (Or.inr hconf))
  · rintro h (heq | hconf)
    · exact heq
    · exact absurd hconf h

/-- A double insertion is exact exactly when both its keys are separate from the
stored ones: the two insertions do not meet each other. -/
theorem dbInsert_exact_iff {T : FlowTable} {S : Set FlowEntry} (h : T.mTable.OrderedOn S)
    {msg : OctaneControl} {p : UInt16} (hop : (TableOp.dbInsert msg p).keys ⊆ S)
    (hne : FlowEntry.ofMsg msg ≠ (FlowEntry.ofMsg msg).reverse) :
    (∀ r a, (r, a) ∈ (T.dbInsert msg p).1.entries ↔
        (r = .ofMsg msg ∧ a = .ofMsg msg) ∨
        (r = (FlowEntry.ofMsg msg).reverse ∧ a = actionRev msg p) ∨
        (r ≠ .ofMsg msg ∧ r ≠ (FlowEntry.ofMsg msg).reverse ∧ (r, a) ∈ T.entries)) ↔
      ∀ r ∈ T.keys, ¬ r.Confused (.ofMsg msg) ∧
        ¬ r.Confused (FlowEntry.ofMsg msg).reverse := by
  have hsep : ¬ Incomparable FlowEntry.lt (.ofMsg msg) (FlowEntry.ofMsg msg).reverse := by
    rw [FlowEntry.incomparable_iff]
    rintro (heq | hconf)
    · exact hne heq
    · exact FlowEntry.not_confused_reverse _ hconf
  have hexact := h.set_set_exact_iff (hop (Or.inl rfl)) (hop (Or.inr rfl)) hsep
    (FlowAction.ofMsg msg) (actionRev msg p)
  rw [forall_incomparable_iff, forall_incomparable_iff, ← forall₂_and] at hexact
  exact hexact

/-- The step lemma for updates. -/
theorem Tidy.exactAfter_iff {T : FlowTable} (h : T.Tidy) {op : TableOp}
    (hop : FlowEntry.Untangled (T.keys ∪ op.keys)) :
    T.ExactAfter op (op.apply T) ↔ T.Separate op := by
  have hS := h.orderedOn hop Set.subset_union_left
  have hkeys : op.keys ⊆ T.keys ∪ op.keys := Set.subset_union_right
  cases op with
  | insert msg =>
      exact (hS.set_exact_iff (hkeys rfl) _).trans (forall_incomparable_iff _)
  | dbInsert msg p =>
      exact forall_congr' fun hne => dbInsert_exact_iff hS hkeys hne
  | remove msg =>
      exact (hS.erase_exact_iff (hkeys rfl)).trans (forall_incomparable_iff _)

/-- Along every run of untangled updates from the empty table, all updates are
those of a map keyed by exact five-tuples exactly when none of them meets a
stored key that swallows its key or is swallowed by it. -/
theorem exact_run_iff_separate (b : Rebalance FlowEntry FlowAction) (ops : List TableOp)
    (hops : (empty b).UntangledRun ops) :
    Along tableStep (fun T op T' => T.ExactAfter op T') (empty b) ops ↔
      Along tableStep (fun T op _ => T.Separate op) (empty b) ops := by
  constructor
  · intro hexact
    refine (hops.and hexact).imp_of_invariant (I := Tidy) ?_ (tidy_empty b)
    rintro T op T' hT hstep ⟨hop, hex⟩
    obtain rfl : op.apply T = T' := Option.some.inj hstep
    exact ⟨hT.apply hop, (hT.exactAfter_iff hop).1 hex⟩
  · intro hsep
    refine (hops.and hsep).imp_of_invariant (I := Tidy) ?_ (tidy_empty b)
    rintro T op T' hT hstep ⟨hop, hse⟩
    obtain rfl : op.apply T = T' := Option.some.inj hstep
    exact ⟨hT.apply hop, (hT.exactAfter_iff hop).2 hse⟩

/-- The updates for a ping and for TCP flows to another host are exact. -/
theorem exact_run_ping_and_flows :
    Along tableStep (fun T op T' => T.ExactAfter op T') (empty (.none _ _)) pingAndFlows := by
  refine (exact_run_iff_separate _ _ ?_).2 ?_
  · exact untangledRun_of_subset untangled_pingAndFlowKeys (keys_empty_subset _ _)
      keys_pingAndFlows
  · refine (along_keys_subset (keys_empty_subset _ _) keys_pingAndFlows).imp ?_
    rintro T op T' - ⟨⟨hT, hop⟩, -⟩
    have hsep : ∀ r ∈ T.keys, ∀ e ∈ op.keys, ¬ r.Confused e :=
      fun r hr e he => not_confused_pingAndFlowKeys r (hT hr) e (hop he)
    cases op with
    | insert msg => exact fun r hr => hsep r hr _ rfl
    | dbInsert msg p => exact fun _ r hr => ⟨hsep r hr _ (Or.inl rfl), hsep r hr _ (Or.inr rfl)⟩
    | remove msg => exact fun r hr => hsep r hr _ rfl

/-- Installing a TCP flow after a ping between the same hosts overwrites the
rule of the ping. -/
theorem not_exactAfter_tcp_after_ping :
    ¬ Along tableStep (fun T op T' => T.ExactAfter op T') (empty (.none _ _))
      [.insert ⟨1, 0, 1, 0x0A00A8C0, 0x0133050A, 0xFFFF, 0xFFFF, 1, 0⟩,
        .insert ⟨2, 0, 2, 0x0A00A8C0, 0x0133050A, 0x1027, 0x5000, 6, 0⟩] := by
  intro h
  have hsecond := ((h _ rfl).2 _ rfl).1
  have hmem := (hsecond ⟨0x0A00A8C0, 0x0133050A, 0x1027, 0x5000, 6⟩ ⟨0, 2⟩).2
    (Or.inl ⟨rfl, rfl⟩)
  revert hmem
  decide

end FlowTable
