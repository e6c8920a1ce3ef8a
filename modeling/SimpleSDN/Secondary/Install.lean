import SimpleSDN.Flow.Tcp
import SimpleSDN.Secondary.DropAfter

/-!
# The rules of the messages received

When no two messages for a secondary router ask for different actions on one TCP
entry, the router installs the rule of every message it receives: at once, or earlier
when the content of the message has been dropped. The rule stays as it is from then
on, and the same message changes nothing when it comes again.
-/

open SearchTree (Incomparable)

/-- A message that asks for a forwarding rule of a TCP flow. -/
def OctaneControl.Forwards (m : OctaneControl) : Prop :=
  (FlowEntry.ofMsg m).Tcp ∧ m.octaneAction = 1

/-- No two messages clash that ask for forwarding rules of TCP flows. -/
theorem OctaneControl.clashFree_forwards : ClashFree {m | m.Forwards} := by
  rintro a ⟨⟨-, hap⟩, ha⟩ b ⟨⟨hb, hbp⟩, hb'⟩ hclash
  rcases hclash with ⟨hkey, hbelow⟩ | ⟨-, ⟨haction, -⟩ | ⟨-, -, hproto⟩⟩
  · obtain ⟨h₁, h₂, h₃, h₄⟩ := (FlowEntry.not_wild_iff _).1 hb
    simp only [FlowEntry.ofMsg] at h₁ h₂ h₃ h₄
    rw [flowKey_lt_iff] at hkey
    unfold BelowOn at hbelow
    simp only [h₁, h₂, h₃, h₄, ha, hb', ne_eq, not_false_eq_true, true_and, false_or] at hbelow
    simp only [UInt32.lt_iff_toNat_lt, UInt16.lt_iff_toNat_lt, ← UInt32.toNat_inj,
      ← UInt16.toNat_inj] at hkey hbelow
    omega
  · rw [ha, hb'] at haction
    exact absurd haction (by decide)
  · exact hproto (hap.trans hbp.symm)

/-- The messages ask for forwarding rules of TCP flows, and for one action on an entry. -/
structure Coherent (A : Set OctaneControl) : Prop where
  forwards : ∀ m ∈ A, m.Forwards
  action : ∀ m ∈ A, ∀ m' ∈ A, FlowEntry.ofMsg m = FlowEntry.ofMsg m' →
    FlowAction.ofMsg m = FlowAction.ofMsg m'

namespace CRouter

/-- The rule that the message asks for is in the table. -/
def Installed (Router : CRouter) (m : OctaneControl) : Prop :=
  (FlowEntry.ofMsg m, FlowAction.ofMsg m) ∈ Router.rouFlowTable.entries

/-- A router that has received messages of `A` only: the contents it has dropped are
installed. -/
structure Installing (A : Set OctaneControl) (Router : CRouter) : Prop where
  table : Router.rouFlowTable.TcpRules
  droppedMsg : Router.droppedMsg.OrderedOn {m | m.Forwards}
  dropped : ∀ m ∈ Router.droppedMsg.keys, m ∈ A ∧ Router.Installed m

variable {Router : CRouter} {A B : Set OctaneControl} {m m' : OctaneControl}

/-- A router that has received nothing. -/
theorem installing_of_default
    (htable : Router.rouFlowTable.entries = [(FlowTable.defaultEntry, ⟨0xFFFF, 3⟩)])
    (hdropped : Router.droppedMsg.entries = []) : Router.Installing A where
  table := FlowTable.tcpRules_of_default htable
  droppedMsg := StdMap.orderedOn_of_entries_eq_nil hdropped
    OctaneControl.clashFree_forwards.strictWeakOn
  dropped m hm := by
    obtain ⟨v, hv⟩ := hm
    have hv : (m, v) ∈ Router.droppedMsg.entries := hv
    rw [hdropped] at hv
    exact absurd hv List.not_mem_nil

theorem Installing.mono (h : Router.Installing A) (hAB : A ⊆ B) : Router.Installing B where
  table := h.table
  droppedMsg := h.droppedMsg
  dropped m hm := ⟨hAB (h.dropped m hm).1, (h.dropped m hm).2⟩

/-- What a message does to the table: nothing, when its content has been dropped, and
otherwise its rule is inserted. -/
theorem receiveControl_rouFlowTable (Router : CRouter) (m : OctaneControl) :
    (Router.receiveControl m).1.rouFlowTable =
      if (Router.droppedMsg.find m).isSome then Router.rouFlowTable
      else (Router.rouFlowTable.insert m).1 := by
  unfold receiveControl
  split_ifs
  · rfl
  · simp

/-- What a message adds to the contents that are dropped. -/
theorem receiveControl_droppedMsg (Router : CRouter) (m : OctaneControl) :
    (Router.receiveControl m).1.droppedMsg = Router.droppedMsg ∨
      (Router.droppedMsg.find m).isSome = false ∧
        (Router.receiveControl m).1.droppedMsg = Router.droppedMsg.set m (.ofMsg m) := by
  unfold receiveControl dropMsg
  split_ifs with hfind
  · exact Or.inl rfl
  · dsimp only
    split_ifs with hcount
    · refine Or.inr ⟨Bool.eq_false_iff.2 hfind, ?_⟩
      simp
      rfl
    · left
      simp
      rfl

namespace Installing

/-- A content that has been dropped is installed. -/
theorem installed_of_dropped (h : Router.Installing A) (hA : Coherent A) (hm : m ∈ A)
    (hfind : (Router.droppedMsg.find m).isSome = true) : Router.Installed m := by
  obtain ⟨⟨d, v⟩, hd⟩ := Option.isSome_iff_exists.1 hfind
  obtain ⟨hmem, hinc⟩ := (h.droppedMsg.find_eq_some_iff (hA.forwards m hm) _).1 hd
  obtain ⟨hdA, hinst⟩ := h.dropped d (StdMap.mem_keys hmem)
  have hsame : d.SameContent m :=
    (OctaneControl.clashFree_forwards.incomparable_iff (hA.forwards d hdA)
      (hA.forwards m hm)).1 hinc
  obtain ⟨h₁, h₂, h₃, h₄, h₅, h₆, h₇⟩ := hsame
  unfold Installed FlowEntry.ofMsg FlowAction.ofMsg at hinst ⊢
  rwa [h₁, h₂, h₃, h₄, h₅, h₆, h₇] at hinst

/-- The rule of a message is there when it has been received. -/
theorem installed (h : Router.Installing A) (hA : Coherent A) (hm : m ∈ A) :
    (Router.receiveControl m).1.Installed m := by
  unfold Installed
  rw [receiveControl_rouFlowTable]
  split_ifs with hfind
  · exact h.installed_of_dropped hA hm hfind
  · exact (h.table.mem_insert_iff (hA.forwards m hm).1 _ _).2 (Or.inl ⟨rfl, rfl⟩)

/-- A rule that is there stays. -/
theorem kept (h : Router.Installing A) (hA : Coherent A) (hm : m ∈ A) (hm' : m' ∈ A)
    (hinst : Router.Installed m') : (Router.receiveControl m).1.Installed m' := by
  unfold Installed
  rw [receiveControl_rouFlowTable]
  split_ifs with hfind
  · exact hinst
  · rw [h.table.mem_insert_iff (hA.forwards m hm).1]
    by_cases heq : FlowEntry.ofMsg m' = FlowEntry.ofMsg m
    · exact Or.inl ⟨heq, hA.action m' hm' m hm heq⟩
    · exact Or.inr ⟨heq, hinst⟩

/-- A message whose rule is there changes no rule. -/
theorem entries_eq (h : Router.Installing A) (hA : Coherent A) (hm : m ∈ A)
    (hinst : Router.Installed m) :
    (Router.receiveControl m).1.rouFlowTable.entries = Router.rouFlowTable.entries := by
  rw [receiveControl_rouFlowTable]
  split_ifs
  · rfl
  · exact h.table.entries_insert_of_mem (hA.forwards m hm).1 hinst

/-- The step lemma. -/
theorem receiveControl (h : Router.Installing A) (hA : Coherent A) (hm : m ∈ A) :
    (Router.receiveControl m).1.Installing A := by
  have hkept : ∀ m' ∈ A, Router.Installed m' → (Router.receiveControl m).1.Installed m' :=
    fun m' hm' hinst => h.kept hA hm hm' hinst
  constructor
  · rw [receiveControl_rouFlowTable]
    split_ifs
    · exact h.table
    · exact h.table.insert (hA.forwards m hm).1
  · rcases Router.receiveControl_droppedMsg m with heq | ⟨-, heq⟩
    · exact heq ▸ h.droppedMsg
    · exact heq ▸ h.droppedMsg.set (hA.forwards m hm) _
  · intro m' hm'
    have hcases : m' = m ∨ m' ∈ Router.droppedMsg.keys := by
      rcases Router.receiveControl_droppedMsg m with heq | ⟨-, heq⟩
      · exact Or.inr (heq ▸ hm')
      · rw [heq] at hm'
        exact StdMap.keys_set_subset _ _ _ hm'
    rcases hcases with rfl | hold
    · exact ⟨hm, h.installed hA hm⟩
    · obtain ⟨hmem, hinst⟩ := h.dropped m' hold
      exact ⟨hmem, hkept m' hmem hinst⟩

/-- The run lemma: after the messages of a list the rule of each of them is there. -/
theorem receiveAll (h : Router.Installing A) (hA : Coherent A) {msgs : List OctaneControl}
    (hmsgs : ∀ m ∈ msgs, m ∈ A) :
    (Router.receiveAll msgs).1.Installing A ∧
      ∀ m ∈ A, Router.Installed m ∨ m ∈ msgs → (Router.receiveAll msgs).1.Installed m := by
  induction msgs generalizing Router with
  | nil => exact ⟨h, fun m _ hm => hm.resolve_right List.not_mem_nil⟩
  | cons m msgs ih =>
      have hm : m ∈ A := hmsgs m List.mem_cons_self
      obtain ⟨hlast, hall⟩ :=
        ih (h.receiveControl hA hm) fun m' hm' => hmsgs m' (List.mem_cons_of_mem m hm')
      refine ⟨hlast, fun m' hm' hor => hall m' hm' ?_⟩
      rcases hor with hinst | hmem
      · exact Or.inl (h.kept hA hm hm' hinst)
      · rcases List.mem_cons.1 hmem with rfl | hmem
        · exact Or.inl (h.installed hA hm)
        · exact Or.inr hmem

end Installing

end CRouter
