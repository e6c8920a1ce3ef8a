import Mathlib.Data.List.Sort
import SimpleSDN.Primary.Channel

/-!
# The registration of the secondary routers

In stages 6, 7, 9 and 10 the primary router forks the secondary routers one
after the other. A secondary router takes its number from the loop that forks;
the primary router stores the ports under the process ids, and numbers them
later in the order of the ids. `identified_iff_increasing` says when the two
numberings agree.
-/

/-- A child: the id that `fork` returns and the port that its socket gets. -/
structure Child where
  pid : ℤ
  port : UInt16
deriving DecidableEq

/-- What the primary router stores of a child. -/
def Child.entry (child : Child) : ℤ × ℤ := (child.pid, child.port.toNat)

theorem Child.entry_injective : Function.Injective Child.entry := by
  rintro ⟨pid, port⟩ ⟨pid', port'⟩ h
  simp only [Child.entry, Prod.mk.injEq, Int.natCast_inj, UInt16.toNat_inj] at h
  simp [h]

/-- A line of a log with the number, the process id and the port of a router. -/
structure RouterLine where
  router : ℤ
  pid : ℤ
  port : ℤ
deriving DecidableEq

def RouterLine.text (line : RouterLine) : String :=
  "router: " ++ toString line.router ++ ", pid: " ++ toString line.pid ++ ", port: " ++
    toString line.port

/-- A line of the file `captive.conf`. -/
structure PortLine where
  router : ℤ
  port : ℤ
deriving DecidableEq

def PortLine.text (line : PortLine) : String :=
  "R" ++ toString line.router ++ ":" ++ toString line.port

namespace CRouter

/-- `secondRouter_reqReg`. -/
def secondRouterReqReg (Router : CRouter) (child : Child) (iRouterID : ℤ) : CRouter :=
  { Router with
    iRouterID := iRouterID
    iPortNum := child.port.toNat
    vLog := Router.vLog ++ [RouterLine.text ⟨iRouterID, child.pid, child.port.toNat⟩] }

/-- `primaryRouter_reg`: the datagram holds the process id of its sender. -/
def primaryRouterReg (Router : CRouter) (child : Child) : CRouter :=
  { Router with mChildPort := Router.mChildPort.insert child.pid child.port.toNat }

/-- The loop of forks from `i` on: the primary router, and the secondary routers as
they start. -/
def forkLoop (Router : CRouter) (i : ℕ) : List Child → CRouter × List CRouter
  | [] => (Router, [])
  | child :: children =>
      let (primary, seconds) := (Router.primaryRouterReg child).forkLoop (i + 1) children
      (primary, Router.secondRouterReqReg child (i + 1) :: seconds)

/-- The lines that the primary router logs for its children. -/
def childLines (Router : CRouter) : List RouterLine :=
  Router.mChildPort.toList.mapIdx fun cnt p => ⟨cnt + 1, p.1, p.2⟩

/-- `primaryRouter_savePort`. -/
def primaryRouterSavePort (Router : CRouter) : List PortLine :=
  ⟨0, Router.iPortNum⟩ :: Router.mChildPort.toList.mapIdx fun cnt p => ⟨cnt + 1, p.2⟩

/-- The log of the registration. -/
def logChildren (Router : CRouter) : CRouter :=
  { Router with
    vLog := Router.vLog ++ ("primary port: " ++ toString Router.iPortNum) ::
      Router.childLines.map RouterLine.text }

end CRouter

/-- The routers after the forks, and what is written to `captive.conf`. -/
structure Routers where
  primary : CRouter
  secondary : List CRouter
  captive : Option (List PortLine)

/-- The forks of `stage6`, `stage7`, `stage9` and `stage10`, where the primary
router has bound the port `iRou1Port`. The last two stages write the file. -/
def Stage.fork (stage : Stage) (Router : CRouter) (iRou1Port : UInt16)
    (children : List Child) : Routers :=
  let (Router, seconds) := { Router with iPortNum := iRou1Port.toNat }.forkLoop 0 children
  { primary := Router.logChildren
    secondary := seconds
    captive :=
      match stage with
      | .s9 | .s10 => some Router.logChildren.primaryRouterSavePort
      | _ => none }

/-- The number of secondary routers that a stage uses. -/
def Stage.routers : Stage → ℕ
  | .s4 | .s5 => 0
  | .s6 | .s7 | .s10 => 2
  | .s9 => 3

namespace Routers

/-- The router with the number `k` has the port `port`. -/
def HasPort (w : Routers) (k port : ℤ) : Prop :=
  ∃ Router ∈ w.secondary, Router.iRouterID = k ∧ Router.iPortNum = port

/-- The ports that the primary router uses, logs and saves are those of the
secondary routers with the same numbers. -/
structure Identified (w : Routers) (stage : Stage) (c : Config) : Prop where
  port1 : ∃ port, w.HasPort 1 port ∧ c.secondRouter1Port = htons (UInt16.ofInt port)
  port2 : ∃ port, w.HasPort 2 port ∧ c.secondRouter2Port = htons (UInt16.ofInt port)
  port3 : stage = .s9 →
    ∃ port, w.HasPort 3 port ∧ c.secondRouter3Port = htons (UInt16.ofInt port)
  logged : ∀ line ∈ w.primary.childLines, w.HasPort line.router line.port
  saved : ∀ lines ∈ w.captive, ∀ line ∈ lines, line.router ≠ 0 → w.HasPort line.router line.port

end Routers
namespace CRouter

variable {Router : CRouter} {children : List Child}

/-- The ports are registered under the process ids. -/
theorem forkLoop_mChildPort (i : ℕ) : (Router.forkLoop i children).1.mChildPort =
    Primary.register Router.mChildPort (children.map Child.entry) := by
  induction children generalizing Router i with
  | nil => rfl
  | cons child children ih => exact ih (i + 1)

/-- The numbers of the secondary routers are the places in the order of the
forks. -/
theorem mem_forkLoop_iff (i : ℕ) (k port : ℤ) :
    (∃ second ∈ (Router.forkLoop i children).2, second.iRouterID = k ∧ second.iPortNum = port) ↔
      ∃ (j : ℕ) (child : Child), children[j]? = some child ∧ k = i + j + 1 ∧
        port = child.port.toNat := by
  induction children generalizing Router i with
  | nil => simp [forkLoop]
  | cons first children ih =>
      have hcons : (Router.forkLoop i (first :: children)).2 =
        Router.secondRouterReqReg first (i + 1) ::
          ((Router.primaryRouterReg first).forkLoop (i + 1) children).2 := rfl
      rw [hcons]
      simp only [List.mem_cons, exists_eq_or_imp, ih]
      constructor
      · rintro (⟨hk, hport⟩ | ⟨j, child, hj, hk, hport⟩)
        · exact ⟨0, first, rfl, by simp [← hk, secondRouterReqReg], hport.symm⟩
        · exact ⟨j + 1, child, by simpa using hj, by push_cast at hk ⊢; omega, hport⟩
      · rintro ⟨_ | j, child, hj, hk, hport⟩
        · obtain rfl : first = child := by simpa using hj
          exact Or.inl ⟨by simp [hk, secondRouterReqReg], hport.symm⟩
        · exact Or.inr ⟨j, child, by simpa using hj, by push_cast at hk ⊢; omega, hport⟩

end CRouter

namespace Routers

variable {Router : CRouter} {iRou1Port : UInt16} {children : List Child} {stage : Stage}

theorem hasPort_fork_iff (k port : ℤ) :
    (stage.fork Router iRou1Port children).HasPort k port ↔
      ∃ (j : ℕ) (child : Child), children[j]? = some child ∧ k = j + 1 ∧
        port = child.port.toNat := by
  have h : (stage.fork Router iRou1Port children).HasPort k port ↔
      ∃ (j : ℕ) (child : Child), children[j]? = some child ∧ k = (0 : ℕ) + j + 1 ∧
        port = child.port.toNat := CRouter.mem_forkLoop_iff 0 k port
  simpa using h

theorem fork_mChildPort : (stage.fork Router iRou1Port children).primary.mChildPort =
    Primary.register Router.mChildPort (children.map Child.entry) :=
  CRouter.forkLoop_mChildPort 0

/-- The children are in the map in the order of the forks exactly when their ids
increase and nothing else is left in the map. -/
theorem toList_register_iff {m : IntMap} (hpids : (children.map Child.pid).Nodup) :
    (Primary.register m (children.map Child.entry)).toList = children.map Child.entry ↔
      (children.map Child.pid).Pairwise (· < ·) ∧ ∀ pid ∈ m, pid ∈ children.map Child.pid := by
  have hfst : (children.map Child.entry).map Prod.fst = children.map Child.pid := by
    simp [Child.entry]
  rw [IntMap.toList_eq_iff, ← List.pairwise_map (f := Prod.fst), hfst]
  refine and_congr_right fun _ => ?_
  constructor
  · intro h pid hpid
    obtain ⟨port, hport⟩ := (IntMap.mem_iff m pid).1 hpid
    by_contra hnot
    have hmem := (h pid port).2 ((getElem?_register (hfst ▸ hpids) pid port).2
      (Or.inr ⟨hfst ▸ hnot, hport⟩))
    exact hnot (hfst ▸ List.mem_map_of_mem hmem)
  · intro h pid port
    rw [getElem?_register (hfst ▸ hpids), hfst]
    refine ⟨Or.inl, fun hor => hor.resolve_right fun hold => ?_⟩
    exact hold.1 (h pid ((IntMap.mem_iff m pid).2 ⟨port, hold.2⟩))

/-- The `k`-th entry of the list has the port of the `k`-th child. -/
def SamePorts (l : List (ℤ × ℤ)) (children : List Child) : Prop :=
  ∀ (k : ℕ) (p : ℤ × ℤ), l[k]? = some p →
    ∃ child, children[k]? = some child ∧ p.2 = child.port.toNat

/-- Lines that are numbered from 1 on agree with the numbers of the children. -/
theorem forall_mapIdx_iff {α : Type} {l : List (ℤ × ℤ)} {f : ℕ → ℤ × ℤ → α} {router port : α → ℤ}
    (hrouter : ∀ k p, router (f k p) = k + 1) (hport : ∀ k p, port (f k p) = p.2) :
    (∀ line ∈ l.mapIdx f, (stage.fork Router iRou1Port children).HasPort (router line)
        (port line)) ↔ SamePorts l children := by
  constructor
  · intro h k p hk
    have hmem : f k p ∈ l.mapIdx f := by
      refine List.mem_of_getElem? (i := k) ?_
      rw [List.getElem?_mapIdx, hk, Option.map_some]
    obtain ⟨j, child, hj, hkj, hp⟩ := (hasPort_fork_iff _ _).1 (h _ hmem)
    rw [hrouter] at hkj
    obtain rfl : k = j := by omega
    exact ⟨child, hj, (hport k p).symm.trans hp⟩
  · intro h line hline
    obtain ⟨k, hk, rfl⟩ := List.mem_mapIdx.1 hline
    obtain ⟨child, hchild, hp⟩ := h k l[k] (List.getElem?_eq_getElem hk)
    rw [hrouter, hport]
    exact (hasPort_fork_iff _ _).2 ⟨k, child, hchild, rfl, hp⟩

/-- A list with the ports of the children in their order, in which every child
occurs, is that of the children. -/
theorem eq_of_samePorts {l : List (ℤ × ℤ)} (hports : (children.map Child.port).Nodup)
    (hsub : children.map Child.entry ⊆ l) (h : SamePorts l children) :
    l = children.map Child.entry := by
  have hnodup : (children.map Child.entry).Nodup := hports.of_map.map Child.entry_injective
  have hlen : l.length ≤ (children.map Child.entry).length := by
    by_contra hlt
    have hk : children.length < l.length := by simpa using hlt
    obtain ⟨child, hchild, -⟩ := h children.length _ (List.getElem?_eq_getElem hk)
    simp at hchild
  have hperm : (children.map Child.entry).Perm l :=
    (List.subperm_of_subset hnodup hsub).perm_of_length_le hlen
  refine List.ext_getElem hperm.length_eq.symm fun k hk hk' => ?_
  obtain ⟨child, hchild, hport⟩ := h k l[k] (List.getElem?_eq_getElem hk)
  obtain ⟨child', hchild', hentry⟩ := List.mem_map.1 (hperm.mem_iff.2 (List.getElem_mem hk))
  -- the entry is that of some child, and the port tells which
  have hsame : child'.port = child.port := by
    rw [← hentry] at hport
    exact UInt16.toNat_inj.1 (Int.ofNat.inj hport)
  obtain rfl : child' = child :=
    List.inj_on_of_nodup_map hports hchild' (List.mem_of_getElem? hchild) hsame
  rw [← hentry, List.getElem_map, ← List.getElem?_eq_some_iff.1 hchild |>.2]

theorem entries_subset {m : IntMap} (hpids : (children.map Child.pid).Nodup) :
    children.map Child.entry ⊆ (Primary.register m (children.map Child.entry)).toList := by
  have hfst : (children.map Child.entry).map Prod.fst = children.map Child.pid := by
    simp [Child.entry]
  rintro ⟨pid, port⟩ hmem
  rw [Std.ExtTreeMap.mem_toList_iff_getElem?_eq_some, getElem?_register (hfst ▸ hpids)]
  exact Or.inl hmem

theorem samePorts_of_eq {l : List (ℤ × ℤ)} (h : l = children.map Child.entry) :
    SamePorts l children := by
  intro k p hk
  rw [h, List.getElem?_map, Option.map_eq_some_iff] at hk
  obtain ⟨child, hchild, rfl⟩ := hk
  exact ⟨child, hchild, rfl⟩

theorem logged_iff : (∀ line ∈ (stage.fork Router iRou1Port children).primary.childLines,
      (stage.fork Router iRou1Port children).HasPort line.router line.port) ↔
    SamePorts (Primary.register Router.mChildPort (children.map Child.entry)).toList children := by
  rw [CRouter.childLines, fork_mChildPort]
  exact forall_mapIdx_iff (fun _ _ => rfl) fun _ _ => rfl

/-- The line for the primary router itself apart, what is saved agrees with what
is logged. -/
theorem saved_of_samePorts
    (h : SamePorts (Primary.register Router.mChildPort (children.map Child.entry)).toList
      children) :
    ∀ lines ∈ (stage.fork Router iRou1Port children).captive, ∀ line ∈ lines, line.router ≠ 0 →
      (stage.fork Router iRou1Port children).HasPort line.router line.port := by
  intro lines hlines line hline hrouter
  have hsaved : lines = (stage.fork Router iRou1Port children).primary.primaryRouterSavePort := by
    cases stage <;> simp_all [Stage.fork]
  rw [hsaved, CRouter.primaryRouterSavePort, fork_mChildPort] at hline
  rcases List.mem_cons.1 hline with rfl | hmem
  · exact absurd rfl hrouter
  · have hlogged : ∀ k (p : ℤ × ℤ), PortLine.router ⟨(k : ℕ) + 1, p.2⟩ = k + 1 := fun _ _ => rfl
    exact (forall_mapIdx_iff hlogged fun _ _ => rfl).2 h line hmem

/-- The ports a stage is configured with when the map holds the children in the
order of the forks. -/
theorem start_of_toList (hstage : stage.tcp = true) (hN : stage.routers ≤ children.length)
    {m : IntMap} (hlist : m.toList = children.map Child.entry) (rou2Addr : SockAddr) :
    ∃ c, Config.start stage rou2Addr m = some c ∧
      (∃ child, children[0]? = some child ∧
        c.secondRouter1Port = htons (UInt16.ofInt child.port.toNat)) ∧
      (∃ child, children[1]? = some child ∧
        c.secondRouter2Port = htons (UInt16.ofInt child.port.toNat)) ∧
      (stage = .s9 → ∃ child, children[2]? = some child ∧
        c.secondRouter3Port = htons (UInt16.ofInt child.port.toNat)) := by
  unfold Config.start
  rw [hlist]
  rcases children with _ | ⟨p₁, _ | ⟨p₂, rest⟩⟩
  · cases stage <;> simp [Stage.tcp, Stage.routers] at hstage hN
  · cases stage <;> simp [Stage.tcp, Stage.routers] at hstage hN
  · cases stage with
    | s4 | s5 => simp [Stage.tcp] at hstage
    | s6 | s7 | s10 => exact ⟨_, rfl, ⟨p₁, rfl, rfl⟩, ⟨p₂, rfl, rfl⟩, by simp⟩
    | s9 =>
        rcases rest with _ | ⟨p₃, rest⟩
        · simp [Stage.routers] at hN
        · exact ⟨_, rfl, ⟨p₁, rfl, rfl⟩, ⟨p₂, rfl, rfl⟩, fun _ => ⟨p₃, rfl, rfl⟩⟩

theorem identified_of_toList (hstage : stage.tcp = true) (hN : stage.routers ≤ children.length)
    (hlist : (Primary.register Router.mChildPort (children.map Child.entry)).toList =
      children.map Child.entry) (rou2Addr : SockAddr) :
    ∃ c, Config.start stage rou2Addr
        (stage.fork Router iRou1Port children).primary.mChildPort = some c ∧
      (stage.fork Router iRou1Port children).Identified stage c := by
  have hsame : SamePorts (Primary.register Router.mChildPort (children.map Child.entry)).toList
      children := samePorts_of_eq hlist
  rw [fork_mChildPort]
  obtain ⟨c, hc, ⟨child₁, h₁, hport₁⟩, ⟨child₂, h₂, hport₂⟩, h₃⟩ :=
    start_of_toList hstage hN hlist rou2Addr
  refine ⟨c, hc, ⟨_, (hasPort_fork_iff _ _).2 ⟨0, child₁, h₁, rfl, rfl⟩, hport₁⟩,
    ⟨_, (hasPort_fork_iff _ _).2 ⟨1, child₂, h₂, rfl, rfl⟩, hport₂⟩, fun h9 => ?_,
    logged_iff.2 hsame, saved_of_samePorts hsame⟩
  obtain ⟨child₃, hchild₃, hport₃⟩ := h₃ h9
  exact ⟨_, (hasPort_fork_iff _ _).2 ⟨2, child₃, hchild₃, rfl, rfl⟩, hport₃⟩

/-- The secondary routers are known by their numbers exactly when the process ids
increase in the order of the forks and no other id is left in the map. -/
theorem identified_iff_increasing (stage : Stage) (hstage : stage.tcp = true) (Router : CRouter)
    (iRou1Port : UInt16) (children : List Child) (hN : stage.routers ≤ children.length)
    (hpids : (children.map Child.pid).Nodup) (hports : (children.map Child.port).Nodup)
    (rou2Addr : SockAddr) :
    (∃ c, Config.start stage rou2Addr
        (stage.fork Router iRou1Port children).primary.mChildPort = some c ∧
      (stage.fork Router iRou1Port children).Identified stage c) ↔
    (children.map Child.pid).Pairwise (· < ·) ∧
      ∀ pid ∈ Router.mChildPort, pid ∈ children.map Child.pid := by
  rw [← toList_register_iff hpids]
  constructor
  · rintro ⟨c, -, hid⟩
    exact eq_of_samePorts hports (entries_subset hpids) (logged_iff.1 hid.logged)
  · intro hlist
    exact identified_of_toList hstage hN hlist rou2Addr

/-- A router that has just been made. -/
def freshRouter : CRouter := .init 0 (.none _ _) (.none _ _) (.none _ _)

/-- Two children whose ids increase. -/
theorem identified_two_children :
    ∃ c, Config.start .s6 (.local 0)
        (Stage.fork .s6 freshRouter 4000 [⟨101, 35⟩, ⟨102, 36⟩]).primary.mChildPort = some c ∧
      (Stage.fork .s6 freshRouter 4000 [⟨101, 35⟩, ⟨102, 36⟩]).Identified .s6 c := by
  refine (identified_iff_increasing .s6 rfl freshRouter 4000 [⟨101, 35⟩, ⟨102, 36⟩] (by decide)
    (by decide) (by decide) (.local 0)).2 ⟨by decide, fun pid hpid => ?_⟩
  simp [freshRouter, CRouter.init] at hpid

/-- Two children of which the second has the smaller id: the first line of the log
has its port. -/
theorem not_identified_smaller_second :
    ¬ ∃ c, Config.start .s6 (.local 0)
        (Stage.fork .s6 freshRouter 4000 [⟨32768, 35⟩, ⟨300, 36⟩]).primary.mChildPort = some c ∧
      (Stage.fork .s6 freshRouter 4000 [⟨32768, 35⟩, ⟨300, 36⟩]).Identified .s6 c := by
  rintro ⟨c, -, hid⟩
  have hlogged : (⟨1, 300, 36⟩ : RouterLine) ∈
      (Stage.fork .s6 freshRouter 4000 [⟨32768, 35⟩, ⟨300, 36⟩]).primary.childLines := by decide
  obtain ⟨Router, hRouter, hnumber, hport⟩ := hid.logged _ hlogged
  revert hnumber hport
  have hall : ∀ Router ∈ (Stage.fork .s6 freshRouter 4000 [⟨32768, 35⟩, ⟨300, 36⟩]).secondary,
      Router.iRouterID = 1 → ¬ Router.iPortNum = 36 := by decide
  exact hall Router hRouter

end Routers
