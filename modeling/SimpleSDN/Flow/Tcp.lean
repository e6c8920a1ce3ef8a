import SimpleSDN.Flow.Table

/-!
# TCP rules and the default rule

On the entries of TCP flows without wildcards, together with the key of the default
rule, the comparator is an order that tells all entries apart. So a table with such
keys is a map keyed by five-tuples: a lookup finds the rule of its own entry, and an
insertion changes that rule and no other.
-/

namespace FlowEntry

open SearchTree (Incomparable StrictWeakOn)

/-- An entry of TCP without wildcards. -/
def Tcp (e : FlowEntry) : Prop := ¬ e.Wild ∧ e.protocol = 6

instance (e : FlowEntry) : Decidable e.Tcp :=
  inferInstanceAs (Decidable (_ ∧ _))

theorem Tcp.reverse {e : FlowEntry} (h : e.Tcp) : e.reverse.Tcp :=
  ⟨fun hw => h.1 (e.reverse_wild.1 hw), h.2⟩

/-- The keys of TCP rules and of the default rule. -/
def tcpKeys : Set FlowEntry := insert FlowTable.defaultEntry {e | e.Tcp}

/-- The default rule comes after all others, so it swallows nothing. -/
theorem not_confused_of_mem {a b : FlowEntry} (ha : a ∈ tcpKeys) (hb : b ∈ tcpKeys) :
    ¬ a.Confused b := by
  have hswallow : ∀ {r e : FlowEntry}, r ∈ tcpKeys → e ∈ tcpKeys → ¬ r.Swallows e := by
    intro r e hr he hs
    rcases hr with rfl | hr
    · rcases he with rfl | he
      · exact lt_irrefl _ hs.lt
      · refine hs.2.2.2 ?_
        have hproto : e.protocol < 0xFFFF := by
          rw [he.2]
          decide
        simp [BelowOn, FlowTable.defaultEntry, hproto]
    · exact hr.1 hs.wild
  rintro (hs | hs)
  · exact hswallow ha hb hs
  · exact hswallow hb ha hs

theorem incomparable_iff_eq {a b : FlowEntry} (ha : a ∈ tcpKeys) (hb : b ∈ tcpKeys) :
    Incomparable lt a b ↔ a = b := by
  rw [incomparable_iff, or_iff_left (not_confused_of_mem ha hb)]

theorem strictWeakOn_tcpKeys : StrictWeakOn lt tcpKeys := by
  refine Untangled.strictWeakOn fun e he r hr hs => ?_
  exact absurd (Or.inl hs) (not_confused_of_mem hr he)

end FlowEntry

namespace FlowTable

/-- The keys are those of TCP rules and of the default rule, and they are in order. -/
def TcpRules (T : FlowTable) : Prop := T.mTable.OrderedOn FlowEntry.tcpKeys

variable {T : FlowTable} {e : FlowEntry} {a : FlowAction}

/-- The rule that is found for an entry is its own. -/
theorem TcpRules.find_eq_some_iff (h : T.TcpRules) (he : e.Tcp) (d : FlowEntry × FlowAction) :
    T.mTable.find e = some d ↔ d ∈ T.entries ∧ d.1 = e := by
  have hkey : e ∈ FlowEntry.tcpKeys := Or.inr he
  rw [StdMap.OrderedOn.find_eq_some_iff h hkey]
  refine and_congr_right fun hd => ?_
  exact FlowEntry.incomparable_iff_eq (h.keys_subset (StdMap.mem_keys hd)) hkey

theorem TcpRules.contains_iff (h : T.TcpRules) (he : e.Tcp) : T.contains e = true ↔ e ∈ T.keys := by
  unfold contains
  rw [Option.isSome_iff_exists]
  constructor
  · rintro ⟨d, hd⟩
    obtain ⟨hmem, rfl⟩ := (h.find_eq_some_iff he d).1 hd
    exact StdMap.mem_keys hmem
  · rintro ⟨v, hv⟩
    exact ⟨(e, v), (h.find_eq_some_iff he _).2 ⟨hv, rfl⟩⟩

theorem TcpRules.insert (h : T.TcpRules) {msg : OctaneControl} (hmsg : (FlowEntry.ofMsg msg).Tcp) :
    (T.insert msg).1.TcpRules :=
  StdMap.OrderedOn.set h (Or.inr hmsg) _

/-- The rules after an insertion. -/
theorem TcpRules.mem_insert_iff (h : T.TcpRules) {msg : OctaneControl}
    (hmsg : (FlowEntry.ofMsg msg).Tcp) (r : FlowEntry) (a : FlowAction) :
    (r, a) ∈ (T.insert msg).1.entries ↔
      (r = .ofMsg msg ∧ a = .ofMsg msg) ∨ (r ≠ .ofMsg msg ∧ (r, a) ∈ T.entries) := by
  have hkey : FlowEntry.ofMsg msg ∈ FlowEntry.tcpKeys := Or.inr hmsg
  refine (StdMap.OrderedOn.set_exact_iff h hkey (FlowAction.ofMsg msg)).2 ?_ r a
  exact fun k hk => (FlowEntry.incomparable_iff_eq (h.keys_subset hk) hkey).1

theorem mem_keys_set_iff {m : StdMap FlowEntry.lt FlowAction}
    (h : m.OrderedOn FlowEntry.tcpKeys) (he : e.Tcp) (a : FlowAction) (r : FlowEntry) :
    r ∈ (m.set e a).keys ↔ r = e ∨ r ∈ m.keys := by
  have hkey : e ∈ FlowEntry.tcpKeys := Or.inr he
  have hexact := (h.set_exact_iff hkey a).2 fun k hk =>
    (FlowEntry.incomparable_iff_eq (h.keys_subset hk) hkey).1
  refine ⟨fun hr => StdMap.keys_set_subset _ _ _ hr, ?_⟩
  rintro (rfl | ⟨v, hv⟩)
  · exact ⟨a, (hexact r a).2 (Or.inl ⟨rfl, rfl⟩)⟩
  · by_cases hre : r = e
    · exact ⟨a, (hexact r a).2 (Or.inl ⟨hre, rfl⟩)⟩
    · exact ⟨v, (hexact r v).2 (Or.inr ⟨hre, hv⟩)⟩

theorem TcpRules.dbInsert (h : T.TcpRules) {msg : OctaneControl}
    (hmsg : (FlowEntry.ofMsg msg).Tcp) (p : UInt16) : (T.dbInsert msg p).1.TcpRules :=
  StdMap.OrderedOn.set (h.insert hmsg) (Or.inr hmsg.reverse) _

/-- The keys after a double insertion. -/
theorem TcpRules.mem_keys_dbInsert_iff (h : T.TcpRules) {msg : OctaneControl}
    (hmsg : (FlowEntry.ofMsg msg).Tcp) (p : UInt16) (r : FlowEntry) :
    r ∈ (T.dbInsert msg p).1.keys ↔
      (r = .ofMsg msg ∨ r = (FlowEntry.ofMsg msg).reverse) ∨ r ∈ T.keys := by
  have hrev := mem_keys_set_iff (h.insert hmsg) hmsg.reverse (actionRev msg p) r
  have hfwd := mem_keys_set_iff h hmsg (FlowAction.ofMsg msg) r
  refine hrev.trans ?_
  rw [or_comm (a := r = FlowEntry.ofMsg msg), or_assoc]
  exact or_congr_right hfwd

/-- Inserting a rule that is there changes no rule. -/
theorem TcpRules.entries_insert_of_mem (h : T.TcpRules) {msg : OctaneControl}
    (hmsg : (FlowEntry.ofMsg msg).Tcp)
    (hmem : (FlowEntry.ofMsg msg, FlowAction.ofMsg msg) ∈ T.entries) :
    (T.insert msg).1.entries = T.entries := by
  have hkey : FlowEntry.ofMsg msg ∈ FlowEntry.tcpKeys := Or.inr hmsg
  exact StdMap.OrderedOn.entries_set_of_mem h hkey hmem
    ((FlowEntry.incomparable_iff_eq hkey hkey).2 rfl)

/-- The table with the default rule alone. -/
theorem tcpRules_of_default (h : T.entries = [(defaultEntry, ⟨0xFFFF, 3⟩)]) : T.TcpRules where
  order := FlowEntry.strictWeakOn_tcpKeys
  keys_subset := by
    rintro r ⟨v, hv⟩
    have hr : (r, v) ∈ T.entries := hv
    rw [h, List.mem_singleton] at hr
    exact Or.inl (congrArg Prod.fst hr)
  sorted := by
    have hlist : T.mTable.tree.toList = [(defaultEntry, ⟨0xFFFF, 3⟩)] := h
    simp [SearchTree.Sorted, hlist]

end FlowTable
