import Std.Data.ExtTreeMap
import SimpleSDN.Flow.Table
import SimpleSDN.Network.OctaneOrder

/-!
# The state of a router

`CRouter` is what the loops of the primary and of the secondary routers read and
write of the class `cRouter`. Containers keyed by integers are finite maps; the
two keyed by control messages keep their comparator, which is not an order.
-/

/-- A container with keys and values of type `int`. -/
abbrev IntMap := Std.ExtTreeMap ℤ ℤ

namespace IntMap

/-- An entry that `operator[]` inserts is gone when the key is erased. -/
theorem getElem?_erase_insertIfNew (m : IntMap) (k v n : ℤ) :
    ((m.insertIfNew k v).erase k)[n]? = if k = n then none else m[n]? := by
  simp only [Std.ExtTreeMap.getElem?_erase, Std.compare_eq_iff_eq]
  split_ifs with h
  · rfl
  · simp [Std.ExtTreeMap.getElem?_insertIfNew, h]

/-- A list in the order of the keys with the entries of the map is its list. -/
theorem toList_eq_iff (m : IntMap) (l : List (ℤ × ℤ)) :
    m.toList = l ↔
      l.Pairwise (fun p q => p.1 < q.1) ∧ ∀ n h, (n, h) ∈ l ↔ m[n]? = some h := by
  have hsorted : m.toList.Pairwise fun p q => p.1 < q.1 :=
    Std.ExtTreeMap.ordered_keys_toList.imp fun h => compare_lt_iff_lt.1 h
  have hmem : ∀ n h, (n, h) ∈ m.toList ↔ m[n]? = some h :=
    fun n h => Std.ExtTreeMap.mem_toList_iff_getElem?_eq_some
  constructor
  · rintro rfl
    exact ⟨hsorted, hmem⟩
  · rintro ⟨hl, hlmem⟩
    have hnodup : ∀ {l : List (ℤ × ℤ)}, l.Pairwise (fun p q => p.1 < q.1) → l.Nodup :=
      fun h => h.imp fun hlt heq => hlt.ne (congrArg Prod.fst heq)
    have hperm : m.toList.Perm l := (List.perm_ext_iff_of_nodup (hnodup hsorted) (hnodup hl)).2
      fun p => (hmem p.1 p.2).trans (hlmem p.1 p.2).symm
    exact hperm.eq_of_pairwise (fun p q _ _ h h' => absurd h' h.not_gt) hsorted hl

theorem mem_iff (m : IntMap) (n : ℤ) : n ∈ m ↔ ∃ v, m[n]? = some v := by
  rw [Std.ExtTreeMap.mem_iff_isSome_getElem?, Option.isSome_iff_exists]

end IntMap

/-- `cRouter`. -/
structure CRouter where
  iStage : ℤ
  iRouterID : ℤ
  iPortNum : ℤ
  vLog : List String
  iDropAfter : ℤ
  iSeqnoCnt : UInt16
  rouFlowTable : FlowTable
  unAckBuffer : IntMap
  msgCount : StdMap OctaneControl.lt ℤ
  droppedMsg : StdMap OctaneControl.lt FlowAction
  mChildPort : IntMap

namespace CRouter

/-- `cRouter()`. The constructor leaves `iPortNum` alone. -/
def init (iPortNum : ℤ) (flow : Rebalance FlowEntry FlowAction)
    (count : Rebalance OctaneControl ℤ) (dropped : Rebalance OctaneControl FlowAction) :
    CRouter where
  iStage := 0
  iRouterID := 0
  iPortNum := iPortNum
  vLog := []
  iDropAfter := 3
  iSeqnoCnt := 1
  rouFlowTable := .empty flow
  unAckBuffer := ∅
  msgCount := .empty _ count
  droppedMsg := .empty _ dropped
  mChildPort := ∅

/-- `vLog.push_back` of a line that names the router. -/
def pushLog (Router : CRouter) (line : String) : CRouter :=
  { Router with vLog := Router.vLog ++ ["router: " ++ toString Router.iRouterID ++ line] }

/-- The lines of an update of the table, one after the other. -/
def pushLogs (Router : CRouter) (tempLog : List String) : CRouter :=
  tempLog.foldl pushLog Router

@[simp] theorem pushLog_rouFlowTable (Router : CRouter) (line : String) :
    (Router.pushLog line).rouFlowTable = Router.rouFlowTable := rfl

end CRouter
