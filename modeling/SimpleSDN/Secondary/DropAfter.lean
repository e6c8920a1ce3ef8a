import Mathlib.Data.List.Count
import SimpleSDN.Router.State

/-!
# Control messages at a secondary router

A secondary router acknowledges a control message a limited number of times. It
counts the messages of one content in `msgCount` and, when the count reaches
`iDropAfter`, moves the content to `droppedMsg`. `Counted S R n` says that the
two containers hold the counts `n` of the messages of `S`; it is kept by every
message of a set without clashes, and the acknowledgements follow from it.
-/

open SearchTree (Incomparable)

/-- `octaneReply_Edit`: the acknowledgement of a control message. -/
def octaneReplyEdit (msg : OctaneControl) : OctaneControl := { msg with octaneFlags := 1 }

namespace CRouter

/-- One more message of the content of `octMsg`. -/
def countMsg (Router : CRouter) (octMsg : OctaneControl) : CRouter :=
  match Router.msgCount.get? octMsg with
  | none => { Router with msgCount := Router.msgCount.set octMsg 1 }
  | some iTemp => { Router with msgCount := Router.msgCount.set octMsg (iTemp + 1) }

/-- Move the content of `octMsg` to `droppedMsg` once its count has reached
`iDropAfter`. -/
def dropMsg (Router : CRouter) (octMsg : OctaneControl) : CRouter :=
  let (msgCount, n) := Router.msgCount.index octMsg 0
  if n = Router.iDropAfter then
    { Router with
      msgCount := msgCount.erase octMsg
      droppedMsg := Router.droppedMsg.set octMsg (.ofMsg octMsg) }
  else { Router with msgCount := msgCount }

/-- A control message received in `secondRouter_s4`, `secondRouter_s5` or
`secondRouter_s6`, with the acknowledgement that is sent. -/
def receiveControl (Router : CRouter) (octMsg : OctaneControl) :
    CRouter × Option OctaneControl :=
  if (Router.droppedMsg.find octMsg).isSome then (Router, none)
  else
    let (table, line) := Router.rouFlowTable.insert octMsg
    let Router := { Router with rouFlowTable := table }.pushLog line
    ((Router.countMsg octMsg).dropMsg octMsg, some (octaneReplyEdit octMsg))

/-- Whatever the containers hold, an acknowledgement repeats the message. -/
theorem eq_of_mem_receiveControl {Router : CRouter} {octMsg ack : OctaneControl}
    (h : ack ∈ (Router.receiveControl octMsg).2.toList) : ack = octaneReplyEdit octMsg := by
  unfold receiveControl at h
  split_ifs at h
  · exact absurd h List.not_mem_nil
  · exact List.mem_singleton.1 h

/-- The messages received one after the other, and the acknowledgements. -/
def receiveAll : CRouter → List OctaneControl → CRouter × List OctaneControl
  | Router, [] => (Router, [])
  | Router, octMsg :: msgs =>
      let (Router', ack) := Router.receiveControl octMsg
      let (Router'', acks) := Router'.receiveAll msgs
      (Router'', ack.toList ++ acks)

@[simp] theorem countMsg_droppedMsg (Router : CRouter) (m : OctaneControl) :
    (Router.countMsg m).droppedMsg = Router.droppedMsg := by
  unfold countMsg
  split <;> rfl

@[simp] theorem countMsg_iDropAfter (Router : CRouter) (m : OctaneControl) :
    (Router.countMsg m).iDropAfter = Router.iDropAfter := by
  unfold countMsg
  split <;> rfl

@[simp] theorem countMsg_rouFlowTable (Router : CRouter) (m : OctaneControl) :
    (Router.countMsg m).rouFlowTable = Router.rouFlowTable := by
  unfold countMsg
  split <;> rfl

@[simp] theorem dropMsg_rouFlowTable (Router : CRouter) (m : OctaneControl) :
    (Router.dropMsg m).rouFlowTable = Router.rouFlowTable := by
  unfold dropMsg
  dsimp only
  split <;> rfl

/-- `dropMsg` when there is a count, as there always is. -/
theorem dropMsg_of_get? {Router : CRouter} {m : OctaneControl} {v : ℤ}
    (h : Router.msgCount.get? m = some v) :
    Router.dropMsg m =
      if v = Router.iDropAfter then
        { Router with
          msgCount := Router.msgCount.erase m
          droppedMsg := Router.droppedMsg.set m (.ofMsg m) }
      else Router := by
  unfold dropMsg
  rw [StdMap.index_of_get?_eq_some h]

/-- The containers hold the counts `n` of the messages of `S`. -/
structure Counted (S : Set OctaneControl) (k : ℕ) (Router : CRouter)
    (n : OctaneControl → ℕ) : Prop where
  iDropAfter : Router.iDropAfter = k
  msgCount : Router.msgCount.OrderedOn S
  droppedMsg : Router.droppedMsg.OrderedOn S
  congr : ∀ a b, a.SameContent b → n a = n b
  dropped : ∀ c ∈ S, (Router.droppedMsg.get? c).isSome ↔ k ≤ n c
  counted : ∀ c ∈ S, Router.msgCount.get? c = if 0 < n c ∧ n c < k then some (n c : ℤ) else none

/-- The counts after one more message. -/
def addCount (n : OctaneControl → ℕ) (m : OctaneControl) : OctaneControl → ℕ :=
  fun c => if c.SameContent m then n c + 1 else n c

theorem addCount_of_sameContent {n : OctaneControl → ℕ} {m c : OctaneControl}
    (h : c.SameContent m) : addCount n m c = n c + 1 := by
  simp [addCount, h]

theorem addCount_of_not_sameContent {n : OctaneControl → ℕ} {m c : OctaneControl}
    (h : ¬ c.SameContent m) : addCount n m c = n c := by
  simp [addCount, h]

namespace Counted

variable {S : Set OctaneControl} {k : ℕ} {Router : CRouter} {n : OctaneControl → ℕ}
  {m : OctaneControl}

theorem addCount_congr (h : Counted S k Router n) (m a b : OctaneControl)
    (hab : a.SameContent b) : addCount n m a = addCount n m b := by
  by_cases hb : b.SameContent m
  · rw [addCount_of_sameContent hb, addCount_of_sameContent (hab.trans hb), h.congr a b hab]
  · have ha : ¬ a.SameContent m := fun ha => hb (hab.symm.trans ha)
    rw [addCount_of_not_sameContent hb, addCount_of_not_sameContent ha, h.congr a b hab]

theorem find_isSome_iff (h : Counted S k Router n) (hm : m ∈ S) :
    (Router.droppedMsg.find m).isSome = true ↔ k ≤ n m := by
  rw [← h.dropped m hm, StdMap.get?, Option.isSome_map]

/-- A content that has been dropped is ignored. -/
theorem receiveControl_of_le (h : Counted S k Router n) (hm : m ∈ S) (hk : k ≤ n m) :
    Router.receiveControl m = (Router, none) := by
  unfold receiveControl
  rw [if_pos ((h.find_isSome_iff hm).2 hk)]

theorem of_le (h : Counted S k Router n) (hk : k ≤ n m) :
    Counted S k Router (addCount n m) where
  iDropAfter := h.iDropAfter
  msgCount := h.msgCount
  droppedMsg := h.droppedMsg
  congr := h.addCount_congr m
  dropped c hc := by
    rw [h.dropped c hc]
    by_cases hcm : c.SameContent m
    · rw [addCount_of_sameContent hcm]
      have := h.congr c m hcm
      omega
    · rw [addCount_of_not_sameContent hcm]
  counted c hc := by
    rw [h.counted c hc]
    by_cases hcm : c.SameContent m
    · have := h.congr c m hcm
      rw [addCount_of_sameContent hcm, if_neg (by omega), if_neg (by omega)]
    · rw [addCount_of_not_sameContent hcm]

/-- The count of `m` is one more, whether or not it was there. -/
theorem msgCount_countMsg (h : Counted S k Router n) (hm : m ∈ S) (hk : n m < k) :
    (Router.countMsg m).msgCount = Router.msgCount.set m (n m + 1 : ℤ) := by
  unfold countMsg
  rw [h.counted m hm]
  by_cases hn : 0 < n m
  · simp [hn, hk]
  · have hzero : n m = 0 := by omega
    simp [hzero]

/-- That count is what the source reads back. -/
theorem get?_countMsg (h : Counted S k Router n) (hclash : OctaneControl.ClashFree S)
    (hm : m ∈ S) (hk : n m < k) :
    (Router.countMsg m).msgCount.get? m = some (n m + 1 : ℤ) := by
  rw [h.msgCount_countMsg hm hk, h.msgCount.get?_set hm _ hm, if_pos]
  exact hclash.strictWeakOn.incomp_self hm

/-- The containers after a message whose count stays below the limit. -/
theorem dropMsg_of_lt (h : Counted S k Router n) (hclash : OctaneControl.ClashFree S)
    (hm : m ∈ S) (hk : n m + 1 < k) :
    (Router.countMsg m).dropMsg m = Router.countMsg m := by
  rw [dropMsg_of_get? (h.get?_countMsg hclash hm (by omega)), if_neg]
  rw [countMsg_iDropAfter, h.iDropAfter]
  omega

/-- The containers after the message that reaches the limit. -/
theorem dropMsg_of_eq (h : Counted S k Router n) (hclash : OctaneControl.ClashFree S)
    (hm : m ∈ S) (hk : n m + 1 = k) :
    (Router.countMsg m).dropMsg m =
      { Router.countMsg m with
        msgCount := (Router.msgCount.set m (n m + 1 : ℤ)).erase m
        droppedMsg := Router.droppedMsg.set m (FlowAction.ofMsg m) } := by
  rw [dropMsg_of_get? (h.get?_countMsg hclash hm (by omega)), if_pos,
    h.msgCount_countMsg hm (by omega), countMsg_droppedMsg]
  rw [countMsg_iDropAfter, h.iDropAfter, ← hk]
  push_cast
  rfl

/-- The table may change without changing the counts. -/
theorem of_containers {Router' : CRouter} (h : Counted S k Router n)
    (hdrop : Router'.iDropAfter = Router.iDropAfter)
    (hmsg : Router'.msgCount = Router.msgCount)
    (hdropped : Router'.droppedMsg = Router.droppedMsg) : Counted S k Router' n where
  iDropAfter := hdrop.trans h.iDropAfter
  msgCount := hmsg ▸ h.msgCount
  droppedMsg := hdropped ▸ h.droppedMsg
  congr := h.congr
  dropped c hc := by rw [hdropped, h.dropped c hc]
  counted c hc := by rw [hmsg, h.counted c hc]

theorem countMsg_dropMsg (h : Counted S k Router n) (hclash : OctaneControl.ClashFree S)
    (hm : m ∈ S) (hk : n m < k) :
    Counted S k ((Router.countMsg m).dropMsg m) (addCount n m) := by
  have hsame : ∀ c ∈ S, Incomparable OctaneControl.lt m c ↔ c.SameContent m := by
    intro c hc
    rw [hclash.incomparable_iff hm hc]
    exact ⟨.symm, .symm⟩
  have hset := h.msgCount.set hm (n m + 1 : ℤ)
  rcases (show n m + 1 ≤ k from hk).lt_or_eq with hlt | heq
  · have hmsg := h.msgCount_countMsg hm hk
    have hdropped := Router.countMsg_droppedMsg m
    rw [h.dropMsg_of_lt hclash hm hlt]
    refine ⟨by simp [h.iDropAfter], hmsg ▸ hset, hdropped ▸ h.droppedMsg, h.addCount_congr m,
      ?_, ?_⟩
    · intro c hc
      rw [hdropped, h.dropped c hc]
      by_cases hcm : c.SameContent m
      · have := h.congr c m hcm
        rw [addCount_of_sameContent hcm]
        omega
      · rw [addCount_of_not_sameContent hcm]
    · intro c hc
      rw [hmsg, h.msgCount.get?_set hm _ hc]
      by_cases hcm : c.SameContent m
      · have := h.congr c m hcm
        rw [if_pos ((hsame c hc).2 hcm), addCount_of_sameContent hcm, if_pos (by omega), this]
        rfl
      · rw [if_neg (fun hinc => hcm ((hsame c hc).1 hinc)), h.counted c hc,
          addCount_of_not_sameContent hcm]
  · rw [h.dropMsg_of_eq hclash hm heq]
    refine ⟨by simp [h.iDropAfter], hset.erase hm, h.droppedMsg.set hm _,
      h.addCount_congr m, ?_, ?_⟩
    · intro c hc
      rw [h.droppedMsg.get?_set hm _ hc]
      by_cases hcm : c.SameContent m
      · have := h.congr c m hcm
        rw [if_pos ((hsame c hc).2 hcm), addCount_of_sameContent hcm]
        simp only [Option.isSome_some, true_iff]
        omega
      · rw [if_neg (fun hinc => hcm ((hsame c hc).1 hinc)), h.dropped c hc,
          addCount_of_not_sameContent hcm]
    · intro c hc
      rw [hset.get?_erase hm hc]
      by_cases hcm : c.SameContent m
      · have := h.congr c m hcm
        rw [if_pos ((hsame c hc).2 hcm), addCount_of_sameContent hcm, if_neg (by omega)]
      · rw [if_neg (fun hinc => hcm ((hsame c hc).1 hinc)), h.msgCount.get?_set hm _ hc,
          if_neg (fun hinc => hcm ((hsame c hc).1 hinc)), h.counted c hc,
          addCount_of_not_sameContent hcm]

/-- A content below the limit is installed and acknowledged. -/
theorem receiveControl_of_lt (h : Counted S k Router n) (hm : m ∈ S) (hk : n m < k) :
    (Router.receiveControl m).2 = some (octaneReplyEdit m) ∧
      (Router.receiveControl m).1.rouFlowTable = (Router.rouFlowTable.insert m).1 := by
  have hfind : ¬ (Router.droppedMsg.find m).isSome = true := by
    rw [h.find_isSome_iff hm]
    omega
  unfold receiveControl
  rw [if_neg hfind]
  simp

/-- Every message keeps the invariant and adds one to its own content. -/
theorem receiveControl (h : Counted S k Router n) (hclash : OctaneControl.ClashFree S)
    (hm : m ∈ S) : Counted S k (Router.receiveControl m).1 (addCount n m) := by
  by_cases hk : k ≤ n m
  · rw [h.receiveControl_of_le hm hk]
    exact h.of_le hk
  · have hfind : ¬ (Router.droppedMsg.find m).isSome = true := by
      rwa [h.find_isSome_iff hm]
    unfold CRouter.receiveControl
    rw [if_neg hfind]
    refine Counted.countMsg_dropMsg (h.of_containers ?_ ?_ ?_) hclash hm (by omega)
    · rfl
    · rfl
    · rfl

/-- A message does not touch the count of another content. -/
theorem frame (h : Counted S k Router n) (hclash : OctaneControl.ClashFree S) (hm : m ∈ S)
    {c : OctaneControl} (hc : c ∈ S) (hcm : ¬ c.SameContent m) :
    (Router.receiveControl m).1.msgCount.get? c = Router.msgCount.get? c ∧
      (((Router.receiveControl m).1.droppedMsg.get? c).isSome ↔
        (Router.droppedMsg.get? c).isSome) := by
  have hafter := h.receiveControl hclash hm
  rw [hafter.counted c hc, hafter.dropped c hc, h.counted c hc, h.dropped c hc,
    addCount_of_not_sameContent hcm]
  exact ⟨rfl, Iff.rfl⟩

/-- The invariant along a sequence of messages. -/
theorem receiveAll (h : Counted S k Router n) (hclash : OctaneControl.ClashFree S)
    {msgs : List OctaneControl} (hmsgs : ∀ m ∈ msgs, m ∈ S) :
    Counted S k (Router.receiveAll msgs).1 (msgs.foldl addCount n) := by
  induction msgs generalizing Router n with
  | nil => exact h
  | cons m msgs ih =>
      have hm := h.receiveControl hclash (hmsgs m (by simp))
      exact ih hm fun m' hm' => hmsgs m' (List.mem_cons_of_mem m hm')

/-- Every content is acknowledged until its count reaches the limit. -/
theorem countP_acks (h : Counted S k Router n) (hclash : OctaneControl.ClashFree S)
    {msgs : List OctaneControl} (hmsgs : ∀ m ∈ msgs, m ∈ S) (c : OctaneControl) :
    (Router.receiveAll msgs).2.countP (fun a => c.SameContent a) + min k (n c) =
      min k (n c + msgs.countP fun a => c.SameContent a) := by
  induction msgs generalizing Router n with
  | nil => simp [CRouter.receiveAll]
  | cons m msgs ih =>
      have hm : m ∈ S := hmsgs m (by simp)
      have hrest := ih (h.receiveControl hclash hm)
        fun m' hm' => hmsgs m' (List.mem_cons_of_mem m hm')
      have hacks : (Router.receiveAll (m :: msgs)).2 =
          (Router.receiveControl m).2.toList ++
            ((Router.receiveControl m).1.receiveAll msgs).2 := rfl
      rw [hacks, List.countP_append, List.countP_cons]
      have hreply : c.SameContent (octaneReplyEdit m) ↔ c.SameContent m := Iff.rfl
      by_cases hk : k ≤ n m
      · rw [h.receiveControl_of_le hm hk] at hrest ⊢
        by_cases hcm : c.SameContent m
        · have hnc := h.congr c m hcm
          rw [addCount_of_sameContent hcm] at hrest
          simp only [Option.toList_none, List.countP_nil, hcm, decide_true, if_true]
          simp only at hrest
          omega
        · rw [addCount_of_not_sameContent hcm] at hrest
          simpa [hcm] using hrest
      · rw [(h.receiveControl_of_lt hm (by omega)).1]
        by_cases hcm : c.SameContent m
        · have hnc := h.congr c m hcm
          rw [addCount_of_sameContent hcm] at hrest
          simp only [Option.toList_some, List.countP_singleton, hreply, hcm, decide_true, if_true]
          omega
        · rw [addCount_of_not_sameContent hcm] at hrest
          simp only [Option.toList_some, List.countP_singleton, hreply, hcm, decide_false,
            Bool.false_eq_true, if_false]
          omega

end Counted

theorem foldl_addCount (n : OctaneControl → ℕ) (msgs : List OctaneControl)
    (c : OctaneControl) :
    msgs.foldl addCount n c = n c + msgs.countP fun a => c.SameContent a := by
  induction msgs generalizing n with
  | nil => simp
  | cons m msgs ih =>
      rw [List.foldl_cons, ih, List.countP_cons]
      by_cases hcm : c.SameContent m
      · rw [addCount_of_sameContent hcm]
        simp only [hcm, decide_true, if_true]
        omega
      · rw [addCount_of_not_sameContent hcm]
        simp [hcm]

/-- A router that has received nothing. -/
theorem counted_zero {S : Set OctaneControl} (hclash : OctaneControl.ClashFree S) {k : ℕ}
    (hk : 1 ≤ k) {Router : CRouter} (hdrop : Router.iDropAfter = k)
    (hmsg : Router.msgCount.entries = []) (hdropped : Router.droppedMsg.entries = []) :
    Counted S k Router fun _ => 0 where
  iDropAfter := hdrop
  msgCount := StdMap.orderedOn_of_entries_eq_nil hmsg hclash.strictWeakOn
  droppedMsg := StdMap.orderedOn_of_entries_eq_nil hdropped hclash.strictWeakOn
  congr _ _ _ := rfl
  dropped c _ := by
    rw [StdMap.get?_of_entries_eq_nil hdropped]
    simp
    omega
  counted c _ := by
    rw [StdMap.get?_of_entries_eq_nil hmsg]
    simp

/-- The drop-after law for the sequence `msgs`: the first `k` messages of each
content are installed and acknowledged, the later ones are ignored, and no
message touches the count of another content. -/
structure DropAfterLaw (Router : CRouter) (k : ℕ) (msgs : List OctaneControl) : Prop where
  acks : ∀ c : OctaneControl, (Router.receiveAll msgs).2.countP (fun a => c.SameContent a) =
    min k (msgs.countP fun a => c.SameContent a)
  kept : ∀ pre m post, msgs = pre ++ m :: post → pre.countP (fun a => m.SameContent a) < k →
    ((Router.receiveAll pre).1.receiveControl m).2 = some (octaneReplyEdit m) ∧
      ((Router.receiveAll pre).1.receiveControl m).1.rouFlowTable =
        ((Router.receiveAll pre).1.rouFlowTable.insert m).1
  ignored : ∀ pre m post, msgs = pre ++ m :: post → k ≤ pre.countP (fun a => m.SameContent a) →
    (Router.receiveAll pre).1.receiveControl m = ((Router.receiveAll pre).1, none)
  others : ∀ pre m post, msgs = pre ++ m :: post → ∀ c ∈ msgs, ¬ c.SameContent m →
    ((Router.receiveAll pre).1.receiveControl m).1.msgCount.get? c =
        (Router.receiveAll pre).1.msgCount.get? c ∧
      ((((Router.receiveAll pre).1.receiveControl m).1.droppedMsg.get? c).isSome ↔
        ((Router.receiveAll pre).1.droppedMsg.get? c).isSome)

/-- A secondary router that has received nothing obeys the law on every
sequence of messages no two of which clash. -/
theorem dropAfterLaw_of_clashFree (Router : CRouter) (k : ℕ) (msgs : List OctaneControl)
    (hk : 1 ≤ k) (hdrop : Router.iDropAfter = k) (hmsg : Router.msgCount.entries = [])
    (hdropped : Router.droppedMsg.entries = [])
    (hclash : OctaneControl.ClashFree {m | m ∈ msgs}) : DropAfterLaw Router k msgs := by
  have hstart := counted_zero hclash hk hdrop hmsg hdropped
  have hpre : ∀ pre m post, msgs = pre ++ m :: post →
      m ∈ {m | m ∈ msgs} ∧ Counted {m | m ∈ msgs} k (Router.receiveAll pre).1
        (pre.foldl addCount fun _ => 0) := by
    rintro pre m post rfl
    exact ⟨by simp, hstart.receiveAll hclash fun m' hm' => List.mem_append_left _ hm'⟩
  constructor
  · intro c
    simpa using hstart.countP_acks hclash (fun m hm => hm) c
  · intro pre m post heq hlt
    obtain ⟨hm, hcounted⟩ := hpre pre m post heq
    exact hcounted.receiveControl_of_lt hm (by simpa [foldl_addCount] using hlt)
  · intro pre m post heq hle
    obtain ⟨hm, hcounted⟩ := hpre pre m post heq
    exact hcounted.receiveControl_of_le hm (by simpa [foldl_addCount] using hle)
  · intro pre m post heq c hc hcm
    obtain ⟨hm, hcounted⟩ := hpre pre m post heq
    exact hcounted.frame hclash hm hc hcm

/-- A message that is received again, under another sequence number. -/
theorem dropAfterLaw_repeated_message :
    DropAfterLaw { init 0 (.none _ _) (.none _ _) (.none _ _) with iDropAfter := 1 } 1
      [⟨1, 0, 7, 0x0A00A8C0, 0x0133050A, 0x1027, 0x5000, 6, 0⟩,
        ⟨1, 0, 8, 0x0A00A8C0, 0x0133050A, 0x1027, 0x5000, 6, 0⟩] :=
  dropAfterLaw_of_clashFree _ 1 _ le_rfl rfl rfl rfl (by
    intro a ha b hb
    simp only [List.mem_cons, List.not_mem_nil, or_false, Set.mem_ofPred_eq] at ha hb
    rcases ha with rfl | rfl <;> rcases hb with rfl | rfl <;> decide)

/-- Two messages that differ only in the protocol count as one: with a limit of
one the second is never acknowledged. -/
theorem not_dropAfterLaw_protocol :
    ¬ DropAfterLaw { init 0 (.none _ _) (.none _ _) (.none _ _) with iDropAfter := 1 } 1
      [⟨1, 0, 7, 0x0A00A8C0, 0x0133050A, 0xFFFF, 0xFFFF, 1, 0⟩,
        ⟨1, 0, 8, 0x0A00A8C0, 0x0133050A, 0xFFFF, 0xFFFF, 6, 0⟩] := by
  intro h
  have hacks := h.acks ⟨1, 0, 8, 0x0A00A8C0, 0x0133050A, 0xFFFF, 0xFFFF, 6, 0⟩
  revert hacks
  decide

end CRouter
