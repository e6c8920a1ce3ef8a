import SimpleSDN.Flow.Comparator
import SimpleSDN.SearchTree.Map
import SimpleSDN.Run

/-!
# The flow table

`FlowTable` is the class `flow_table`: an ordered container of actions keyed by
flow entries, with the lookups and updates the routers use and the log lines
they return. `TableOp` is one update, and `tableStep` runs it. What is proved
here holds whatever the comparator does: a key that is hit is stored and not
told apart from the probe, and an update adds no key but its own; and the
classification of a packet that is neither ICMP nor TCP depends on the ports
that its entry finds on the stack (`classifiedAlike_iff`).
-/

/-- `flow_action`. -/
structure FlowAction where
  fwdPort : UInt16
  action : UInt8
deriving DecidableEq

/-- `flow_action(octane_control)`. -/
def FlowAction.ofMsg (msg : OctaneControl) : FlowAction where
  fwdPort := msg.octanePort
  action := msg.octaneAction

/-- The five fields as the log lines print them. -/
def FlowEntry.text (e : FlowEntry) : String :=
  "(" ++ (inetNtoa e.srcIp).text ++ ", " ++ toString (ntohs e.srcPort) ++ ", " ++
    (inetNtoa e.dstIp).text ++ ", " ++ toString (ntohs e.dstPort) ++ ", " ++
    toString e.protocol ++ ")"

/-- `flow_table`. -/
structure FlowTable where
  mTable : StdMap FlowEntry.lt FlowAction

namespace FlowTable

open SearchTree (Incomparable StrictWeakOn)

/-- The table before any rule is installed. -/
def empty (b : Rebalance FlowEntry FlowAction) : FlowTable := ⟨StdMap.empty _ b⟩

def entries (T : FlowTable) : List (FlowEntry × FlowAction) := T.mTable.entries

def keys (T : FlowTable) : Set FlowEntry := T.mTable.keys

/-- `contains(flow_entry)`. -/
def contains (T : FlowTable) (entry : FlowEntry) : Bool := (T.mTable.find entry).isSome

/-- `contains(flow_entry, flow_entry &)`: the key that was found. -/
def containsOut (T : FlowTable) (entry : FlowEntry) : Option FlowEntry :=
  (T.mTable.find entry).map Prod.fst

/-- `flowCheck(entry)`: a non-empty line when a rule is hit. -/
def flowCheck (T : FlowTable) (entry : FlowEntry) : String :=
  if T.contains entry then ", rule hit " ++ entry.text else ""

/-- `flowCheck(entry, filterEntryOut)`: the line and the key that was hit.
`filterEntry` is the local variable, which the source leaves uninitialised. -/
def flowCheckOut (T : FlowTable) (entry filterEntry : FlowEntry) : String × FlowEntry :=
  match T.containsOut entry with
  | some r => (", rule hit " ++ r.text, r)
  | none => ("", filterEntry)

/-- The key of the default rule. -/
def defaultEntry : FlowEntry := ⟨0xFFFFFFFF, 0xFFFFFFFF, 0xFFFF, 0xFFFF, 0xFFFF⟩

/-- The line logged for an installed rule. -/
def installedLine (entry : FlowEntry) (action : FlowAction) : String :=
  ", rule installed " ++ entry.text ++ " action " ++ toString action.action

def defaultInsert (T : FlowTable) : FlowTable × String :=
  (⟨T.mTable.set defaultEntry ⟨0xFFFF, 3⟩⟩, installedLine defaultEntry ⟨0xFFFF, 3⟩)

def insert (T : FlowTable) (msg : OctaneControl) : FlowTable × String :=
  (⟨T.mTable.set (.ofMsg msg) (.ofMsg msg)⟩, installedLine (.ofMsg msg) (.ofMsg msg))

/-- The action `dbInsert` stores for the reverse flow. -/
def actionRev (msg : OctaneControl) (newFwdPort : UInt16) : FlowAction :=
  if newFwdPort ≠ 65535 then { FlowAction.ofMsg msg with fwdPort := newFwdPort } else .ofMsg msg

def dbInsert (T : FlowTable) (msg : OctaneControl) (newFwdPort : UInt16) :
    FlowTable × List String :=
  let entry := FlowEntry.ofMsg msg
  let mTable := T.mTable.set entry (.ofMsg msg)
  let mTable := mTable.set entry.reverse (actionRev msg newFwdPort)
  (⟨mTable⟩, [installedLine entry (.ofMsg msg),
    installedLine entry.reverse (actionRev msg newFwdPort)])

def remove (T : FlowTable) (msg : OctaneControl) : FlowTable × String :=
  (⟨T.mTable.erase (.ofMsg msg)⟩, ", rule erased " ++ (FlowEntry.ofMsg msg).text ++
    " action " ++ toString (FlowAction.ofMsg msg).action)

/-! ### Lookup -/

theorem flowCheck_ne_empty_iff (T : FlowTable) (e : FlowEntry) :
    T.flowCheck e ≠ "" ↔ T.contains e = true := by
  unfold flowCheck
  split_ifs with h
  · simp [h]
  · simp [h]

theorem flowCheckOut_ne_empty_iff (T : FlowTable) (e f : FlowEntry) :
    (T.flowCheckOut e f).1 ≠ "" ↔ T.contains e = true := by
  unfold flowCheckOut contains containsOut
  cases T.mTable.find e with
  | none => simp
  | some d => simp

/-- A key that is hit is stored and is not told apart from the probe. -/
theorem of_containsOut {T : FlowTable} {e r : FlowEntry} (h : T.containsOut e = some r) :
    r ∈ T.keys ∧ Incomparable FlowEntry.lt r e := by
  obtain ⟨d, hd, rfl⟩ := Option.map_eq_some_iff.1 h
  obtain ⟨hmem, hinc⟩ := StdMap.of_find_eq_some hd
  exact ⟨StdMap.mem_keys hmem, hinc⟩

theorem contains_iff (T : FlowTable) (e : FlowEntry) :
    T.contains e = true ↔ ∃ r, T.containsOut e = some r := by
  unfold contains containsOut
  cases T.mTable.find e <;> simp

/-! ### Classification -/

/-- Two classifications of the packet, each from its own stack contents, give the same
entry, and with either form of `flowCheck` both hit or both miss. -/
structure ClassifiedAlike (T : FlowTable) (buffer : Packet) (st st' : Stack)
    (filterEntry filterEntry' : FlowEntry) : Prop where
  entry : FlowEntry.ofBuffer st buffer = .ofBuffer st' buffer
  flowCheck : T.flowCheck (.ofBuffer st buffer) ≠ "" ↔ T.flowCheck (.ofBuffer st' buffer) ≠ ""
  flowCheckOut : (T.flowCheckOut (.ofBuffer st buffer) filterEntry).1 ≠ "" ↔
    (T.flowCheckOut (.ofBuffer st' buffer) filterEntry').1 ≠ ""

/-- `ipUnpack` stores the ports of ICMP and TCP packets only. -/
theorem ofBuffer_eq_iff (st st' : Stack) (buffer : Packet) :
    FlowEntry.ofBuffer st buffer = .ofBuffer st' buffer ↔
      buffer.ipP = 1 ∨ buffer.ipP = 6 ∨ st.srcPort = st'.srcPort ∧ st.dstPort = st'.dstPort := by
  unfold FlowEntry.ofBuffer ipUnpack
  split_ifs with h1 h6
  · simp [h1]
  · simp [h6]
  · simp [h1, h6]

/-- A packet is classified alike from all stack contents exactly when it is an ICMP or a
TCP packet, whatever the table holds. -/
theorem classifiedAlike_iff (T : FlowTable) (buffer : Packet) :
    (∀ st st' filterEntry filterEntry', T.ClassifiedAlike buffer st st' filterEntry filterEntry') ↔
      buffer.ipP = 1 ∨ buffer.ipP = 6 := by
  constructor
  · intro hall
    have hports := hall ⟨0, 0, 0, 0⟩ ⟨0, 1, 0, 0⟩ defaultEntry defaultEntry
    rcases (ofBuffer_eq_iff _ _ _).1 hports.entry with h1 | h6 | hsame
    · exact Or.inl h1
    · exact Or.inr h6
    · exact absurd hsame.1 (by decide)
  · intro hp st st' filterEntry filterEntry'
    have hentry : FlowEntry.ofBuffer st buffer = .ofBuffer st' buffer :=
      (ofBuffer_eq_iff _ _ _).2 (hp.imp_right Or.inl)
    refine ⟨hentry, by rw [hentry], ?_⟩
    rw [flowCheckOut_ne_empty_iff, flowCheckOut_ne_empty_iff, hentry]

/-- A rule for control messages between the ports 0 is hit from one stack, and missed
from another. -/
theorem not_classifiedAlike_control :
    ((empty (.none _ _)).insert ⟨1, 0, 0, 0, 0, 0, 0, 253, 0⟩).1.flowCheck
        (.ofBuffer ⟨0, 0, 0, 0⟩ { (default : Packet) with ipP := octaneProtocolNum }) ≠ "" ∧
      ((empty (.none _ _)).insert ⟨1, 0, 0, 0, 0, 0, 0, 253, 0⟩).1.flowCheck
        (.ofBuffer ⟨0, 1, 0, 0⟩ { (default : Packet) with ipP := octaneProtocolNum }) = "" := by
  constructor
  · rw [flowCheck_ne_empty_iff]
    decide
  · by_contra hne
    rw [← ne_eq, flowCheck_ne_empty_iff] at hne
    exact absurd hne (by decide)

/-! ### Updates -/

/-- The key under which a rule for `entry` is stored: the one that is found for
it, or `entry`. -/
def slot (T : FlowTable) (entry : FlowEntry) : FlowEntry := T.mTable.slot entry

theorem slot_of_not_contains {T : FlowTable} {entry : FlowEntry}
    (h : T.contains entry = false) : T.slot entry = entry := by
  have hfind : T.mTable.tree.find FlowEntry.lt entry = none := by
    simpa [contains, StdMap.find] using h
  simp [slot, StdMap.slot, SearchTree.slot, hfind]

theorem slot_mem_insert (T : FlowTable) (entry : FlowEntry) :
    T.slot entry ∈ Insert.insert entry T.keys :=
  StdMap.slot_mem_insert T.mTable entry

/-- Whatever the comparator does, the rules after an insertion are old ones, or
the new action at the slot of its entry. -/
theorem of_mem_insert {T : FlowTable} {msg : OctaneControl} {r : FlowEntry} {a : FlowAction}
    (h : (r, a) ∈ (T.insert msg).1.entries) :
    (r, a) ∈ T.entries ∨ r = T.slot (.ofMsg msg) ∧ a = .ofMsg msg := by
  rcases StdMap.of_mem_set h with hold | hnew
  · exact Or.inl hold
  · exact Or.inr (Prod.mk.inj hnew)

/-- Whatever the comparator does, the rules after a double insertion are old
ones, or one of the new actions at the slot of its entry. -/
theorem of_mem_dbInsert {T : FlowTable} {msg : OctaneControl} {p : UInt16} {r : FlowEntry}
    {a : FlowAction} (h : (r, a) ∈ (T.dbInsert msg p).1.entries) :
    (r, a) ∈ T.entries ∨ (r = T.slot (.ofMsg msg) ∧ a = .ofMsg msg) ∨
      (r = (T.insert msg).1.slot (FlowEntry.ofMsg msg).reverse ∧ a = actionRev msg p) := by
  rcases StdMap.of_mem_set h with hold | hnew
  · rcases of_mem_insert hold with hold | hnew
    · exact Or.inl hold
    · exact Or.inr (Or.inl hnew)
  · exact Or.inr (Or.inr (Prod.mk.inj hnew))

theorem entries_remove_subset (T : FlowTable) (msg : OctaneControl) :
    (T.remove msg).1.entries ⊆ T.entries :=
  StdMap.entries_erase_subset T.mTable _

/-- Whatever the comparator does, an insertion adds no key but its own. -/
theorem keys_insert_subset (T : FlowTable) (msg : OctaneControl) :
    (T.insert msg).1.keys ⊆ Insert.insert (FlowEntry.ofMsg msg) T.keys :=
  StdMap.keys_set_subset T.mTable _ _

/-- Whatever the comparator does, the keys after a double insertion are the old ones
and the slots of the entry and its reverse. -/
theorem keys_dbInsert (T : FlowTable) (msg : OctaneControl) (p : UInt16) :
    (T.dbInsert msg p).1.keys = Insert.insert ((T.insert msg).1.slot (FlowEntry.ofMsg msg).reverse)
      (Insert.insert (T.slot (.ofMsg msg)) T.keys) := by
  change (StdMap.set _ _ _).keys = _
  rw [StdMap.keys_set, StdMap.keys_set]
  rfl

/-- Whatever the comparator does, a double insertion adds no key but the entry
and its reverse. -/
theorem keys_dbInsert_subset (T : FlowTable) (msg : OctaneControl) (p : UInt16) :
    (T.dbInsert msg p).1.keys ⊆
      T.keys ∪ {FlowEntry.ofMsg msg, (FlowEntry.ofMsg msg).reverse} := by
  intro r hr
  rcases StdMap.keys_set_subset _ _ _ hr with rfl | hr
  · simp
  · rcases StdMap.keys_set_subset _ _ _ hr with rfl | hr
    · simp
    · exact Or.inl hr

theorem keys_remove_subset (T : FlowTable) (msg : OctaneControl) :
    (T.remove msg).1.keys ⊆ T.keys :=
  StdMap.keys_erase_subset T.mTable _

end FlowTable

/-- One update of a table. -/
inductive TableOp where
  | insert (msg : OctaneControl)
  | dbInsert (msg : OctaneControl) (newFwdPort : UInt16)
  | remove (msg : OctaneControl)

namespace TableOp

/-- The keys the update is called with. -/
def keys : TableOp → Set FlowEntry
  | insert msg => {.ofMsg msg}
  | dbInsert msg _ => {.ofMsg msg, (FlowEntry.ofMsg msg).reverse}
  | remove msg => {.ofMsg msg}

def apply (T : FlowTable) : TableOp → FlowTable
  | insert msg => (T.insert msg).1
  | dbInsert msg newFwdPort => (T.dbInsert msg newFwdPort).1
  | remove msg => (T.remove msg).1

theorem keys_apply_subset (T : FlowTable) (op : TableOp) :
    (op.apply T).keys ⊆ T.keys ∪ op.keys := by
  cases op with
  | insert msg =>
      rw [Set.union_comm]
      exact T.keys_insert_subset msg
  | dbInsert msg newFwdPort => exact T.keys_dbInsert_subset msg newFwdPort
  | remove msg => exact (T.keys_remove_subset msg).trans Set.subset_union_left

end TableOp

/-- One update, as a step of a run. -/
def tableStep (T : FlowTable) (op : TableOp) : Option FlowTable := some (op.apply T)
