import SimpleSDN.Config.File
import SimpleSDN.Primary.Iteration
import SimpleSDN.Setup.Children

/-!
# The main loop

`main` runs the stages of the configuration file one after the other on one router.
A turn of its loop in the primary process is `mainStep`: `stageEngine` says which stage
is next, the function of the stage registers the secondary routers and runs the loop
of the primary router, and `close` logs a last line and writes the log to a file. None
of them empties a container, and the log of a stage that has been closed has a line:
no stage but the first starts with empty containers (`isolated_iff_not_switched`).
-/

/-- A file that `writeLogFile` writes. -/
structure LogFile where
  sFilePath : String
  lines : List String
deriving DecidableEq

/-- A packet in the loop of stages 2 and 3, with the port that is logged. -/
structure Forwarded where
  st : Stack
  buffer : Packet
  flag : LogFlag
  iPort : ℤ

/-- What a stage meets in the primary process: the port of its socket, the secondary
routers that are forked and register, the address that a datagram leaves in `rou2Addr`,
the packets of the loop of stages 2 and 3, and for the other loops the uninitialised
messages and the iterations. -/
structure StageInput where
  iRou1Port : UInt16
  children : List Child
  rou2Addr : SockAddr
  packets : List Forwarded
  auth : OctaneControl
  authRev : OctaneControl
  iterations : List Iteration

namespace CRouter

/-- `writeLogFile`. -/
def writeLogFile (Router : CRouter) : LogFile where
  sFilePath := "stage" ++ toString Router.iStage ++ "." ++ "r" ++ toString Router.iRouterID ++
    ".out"
  lines := inInt Router.vLog

/-- The line that `close` logs. -/
def pushClosed (Router : CRouter) : CRouter :=
  { Router with vLog := Router.vLog ++ ["router " ++ toString Router.iRouterID ++ " closed"] }

/-- `close`. -/
def close (Router : CRouter) : CRouter × LogFile :=
  (Router.pushClosed, Router.pushClosed.writeLogFile)

/-- `stage1`. When the fork fails nothing is logged. -/
def stage1 (Router : CRouter) (input : StageInput) : CRouter :=
  let Router := { Router with iPortNum := input.iRou1Port.toNat }
  match input.children with
  | [] => Router
  | child :: _ =>
      { Router with
        vLog := Router.vLog ++ ["primary port: " ++ toString Router.iPortNum,
          RouterLine.text ⟨1, child.pid, child.port.toNat⟩] }

/-- The loop of `primaryRouter_s2`. -/
def primaryRouterS2 (Router : CRouter) (packets : List Forwarded) : CRouter :=
  packets.foldl (fun Router p => (Router.icmpForwardLog p.st p.buffer p.flag p.iPort).1) Router

/-- The loops of the other stages, until they return. -/
def primaryRouter (stage : Stage) (Router : CRouter) (input : StageInput) : Option CRouter :=
  (Config.start stage input.rou2Addr Router.mChildPort).bind fun c =>
    (run (iterate c) (.start (.start Router input.auth input.authRev)) input.iterations).bind
      fun s => if s.running then none else some s.primary.router

/-- `stage4` and `stage5`. -/
def stage4 (stage : Stage) (Router : CRouter) (input : StageInput) : Option CRouter :=
  (Router.stage1 input).primaryRouter stage input

/-- `stage6`, `stage7`, `stage9` and `stage10`, with at most `iRouteNum` forks that succeed. -/
def stage6 (stage : Stage) (Router : CRouter) (iRouteNum : ℤ) (input : StageInput) :
    Option CRouter :=
  if input.children.length ≤ iRouteNum.toNat then
    (stage.fork Router input.iRou1Port input.children).primary.primaryRouter stage input
  else none

/-- The switch of `main`, without `close`: the router after the function of its stage. -/
def runStage (Router : CRouter) (iRouteNum : ℤ) (input : StageInput) : Option CRouter :=
  if Router.iStage = 1 then some (Router.stage1 input)
  else if Router.iStage = 2 ∨ Router.iStage = 3 then
    some ((Router.stage1 input).primaryRouterS2 input.packets)
  else if Router.iStage = 4 then Router.stage4 .s4 input
  else if Router.iStage = 5 then Router.stage4 .s5 input
  else if Router.iStage = 7 then Router.stage6 .s7 iRouteNum input
  else if Router.iStage = 9 then Router.stage6 .s9 iRouteNum input
  else if Router.iStage = 10 then Router.stage6 .s10 iRouteNum input
  else Router.stage6 .s6 iRouteNum input

end CRouter

/-- `main` in the primary process, with the numbers of the stages that it has run and the
files that it has written. -/
structure Main where
  Router : MainRouter
  ran : List ℤ
  files : List LogFile

/-- The stages of the switch; for any other number it has no case. -/
def Switched (iStage : ℤ) : Prop := 1 ≤ iStage ∧ iStage ≤ 10

instance (iStage : ℤ) : Decidable (Switched iStage) := inferInstanceAs (Decidable (_ ∧ _))

namespace Main

/-- The case of the switch for the stage that `stageEngine` has set, and `close`. -/
def turn (s : Main) (Router : MainRouter) (input : StageInput) : Option Main :=
  if Switched Router.iStage then
    (Router.runStage Router.iRouteNum input).map fun router =>
      { Router := { Router with toCRouter := router.close.1 }
        ran := s.ran ++ [Router.iStage]
        files := s.files ++ [router.close.2] }
  else some { s with Router := Router, ran := s.ran ++ [Router.iStage] }

/-- `main` goes on to its next stage. -/
def Starts (s : Main) (Router : MainRouter) : Prop :=
  ∃ iConfigReg, s.Router.stageEngine = .ok (Router, iConfigReg) ∧ iConfigReg ≠ 0

end Main

/-- A turn of the loop of `main`. -/
def mainStep (s : Main) (input : StageInput) : Option Main :=
  s.Router.stageEngine.toOption.bind fun (Router, iConfigReg) =>
    if iConfigReg = 0 then none else s.turn Router input

/-- `main` before its first turn. -/
def Main.start (Router : MainRouter) : Main := ⟨Router, [], []⟩

/-! ### What a stage starts with -/

/-- The containers of the router are empty. -/
structure CRouter.Isolated (Router : CRouter) : Prop where
  rouFlowTable : Router.rouFlowTable.entries = []
  unAckBuffer : Router.unAckBuffer = ∅
  mChildPort : Router.mChildPort = ∅
  vLog : Router.vLog = []

/-- The containers of two routers are the same. -/
structure CRouter.SameContainers (Router' Router : CRouter) : Prop where
  rouFlowTable : Router'.rouFlowTable = Router.rouFlowTable
  unAckBuffer : Router'.unAckBuffer = Router.unAckBuffer
  mChildPort : Router'.mChildPort = Router.mChildPort
  vLog : Router'.vLog = Router.vLog

namespace CRouter

variable {Router Router' Router'' : CRouter}

theorem SameContainers.refl (Router : CRouter) : Router.SameContainers Router :=
  ⟨rfl, rfl, rfl, rfl⟩

theorem SameContainers.trans (h : Router''.SameContainers Router')
    (h' : Router'.SameContainers Router) : Router''.SameContainers Router where
  rouFlowTable := h.rouFlowTable.trans h'.rouFlowTable
  unAckBuffer := h.unAckBuffer.trans h'.unAckBuffer
  mChildPort := h.mChildPort.trans h'.mChildPort
  vLog := h.vLog.trans h'.vLog

theorem SameContainers.symm (h : Router'.SameContainers Router) :
    Router.SameContainers Router' where
  rouFlowTable := h.rouFlowTable.symm
  unAckBuffer := h.unAckBuffer.symm
  mChildPort := h.mChildPort.symm
  vLog := h.vLog.symm

theorem SameContainers.isolated (h : Router'.SameContainers Router) (hempty : Router.Isolated) :
    Router'.Isolated where
  rouFlowTable := (congrArg FlowTable.entries h.rouFlowTable).trans hempty.rouFlowTable
  unAckBuffer := h.unAckBuffer.trans hempty.unAckBuffer
  mChildPort := h.mChildPort.trans hempty.mChildPort
  vLog := h.vLog.trans hempty.vLog

theorem SameContainers.isolated_iff (h : Router'.SameContainers Router) :
    Router'.Isolated ↔ Router.Isolated := ⟨h.symm.isolated, h.isolated⟩

end CRouter

theorem exists_ok_of_bind {ε α β : Type*} {x : Except ε α} {f : α → Except ε β} {b : β}
    (h : x.bind f = .ok b) : ∃ a, x = .ok a ∧ f a = .ok b := by
  cases x with
  | error e => cases h
  | ok a => exact ⟨a, rfl, h⟩

theorem exists_ok_of_map {ε α β : Type*} {x : Except ε α} {f : α → β} {b : β}
    (h : x.map f = .ok b) : ∃ a, x = .ok a ∧ f a = b := by
  cases x with
  | error e => cases h
  | ok a => exact ⟨a, rfl, Except.ok.inj h⟩

namespace MainRouter

open CRouter

variable {Router Router' : MainRouter} {n : ℤ}

theorem nextValue_same (h : Router.nextValue = .ok (Router', n)) :
    Router'.SameContainers Router.toCRouter := by
  have hnext : Router.nextConfig.1.toCRouter = Router.toCRouter := by
    unfold nextConfig
    split_ifs <;> rfl
  obtain ⟨w, -, hvalue⟩ := exists_ok_of_bind h
  obtain ⟨m, -, heq⟩ := exists_ok_of_map hvalue
  have hsame : Router.nextConfig.1 = Router' := (Prod.mk.inj heq).1
  rw [← hsame, hnext]
  exact SameContainers.refl _

theorem fields_same {iStage : ℤ} {field : MainRouter → ℤ → MainRouter}
    (hfield : field ∈ fields iStage) (Router : MainRouter) (n : ℤ) :
    (field Router n).SameContainers Router.toCRouter := by
  unfold fields at hfield
  split_ifs at hfield
  · obtain rfl := List.mem_singleton.1 hfield
    exact SameContainers.refl _
  · rcases List.mem_cons.1 hfield with rfl | hfield
    · exact SameContainers.refl _
    · obtain rfl := List.mem_singleton.1 hfield
      exact ⟨rfl, rfl, rfl, rfl⟩
  · cases hfield

theorem readFields_same {iStage : ℤ} {due : List (MainRouter → ℤ → MainRouter)}
    (hdue : ∀ field ∈ due, field ∈ fields iStage) (h : readFields due Router = .ok Router') :
    Router'.SameContainers Router.toCRouter := by
  induction due generalizing Router with
  | nil =>
      rw [← Except.ok.inj h]
      exact SameContainers.refl _
  | cons field due ih =>
      obtain ⟨p, hvalue, hrest⟩ := exists_ok_of_bind h
      have hfirst := fields_same (hdue field List.mem_cons_self) p.1 p.2
      exact (ih (fun f hf => hdue f (List.mem_cons_of_mem field hf)) hrest).trans
        (hfirst.trans (nextValue_same hvalue))

/-- `stageEngine` touches no container. -/
theorem stageEngine_same (h : Router.stageEngine = .ok (Router', n)) :
    Router'.SameContainers Router.toCRouter := by
  unfold stageEngine at h
  split_ifs at h
  · obtain ⟨p, hvalue, hrest⟩ := exists_ok_of_bind h
    obtain ⟨R, hfields, heq⟩ := exists_ok_of_map hrest
    obtain ⟨rfl, -⟩ := Prod.mk.inj heq
    rw [stageFields_eq] at hfields
    have hstage : CRouter.SameContainers { p.1.toCRouter with iStage := p.2 } p.1.toCRouter :=
      ⟨rfl, rfl, rfl, rfl⟩
    exact (readFields_same (fun _ hf => hf) hfields).trans (hstage.trans (nextValue_same hvalue))
  · obtain ⟨rfl, -⟩ := Prod.mk.inj (Except.ok.inj h)
    exact SameContainers.refl _

end MainRouter

namespace Main

open MainRouter

variable {s s' : Main} {Router : MainRouter} {input : StageInput}

theorem toOption_eq_some_iff {ε α : Type*} {x : Except ε α} {a : α} :
    x.toOption = some a ↔ x = .ok a := by
  cases x with
  | error e => exact iff_of_false (fun h => by cases h) fun h => by cases h
  | ok b => exact ⟨fun h => congrArg Except.ok (Option.some.inj h), fun h =>
      congrArg some (Except.ok.inj h)⟩

theorem mainStep_iff : mainStep s input = some s' ↔
    ∃ Router, s.Starts Router ∧ s.turn Router input = some s' := by
  unfold mainStep
  rw [Option.bind_eq_some_iff]
  constructor
  · rintro ⟨⟨Router, iConfigReg⟩, hengine, hturn⟩
    rw [toOption_eq_some_iff] at hengine
    dsimp only at hturn
    split_ifs at hturn with hzero
    exact ⟨Router, ⟨iConfigReg, hengine, hzero⟩, hturn⟩
  · rintro ⟨Router, ⟨iConfigReg, hengine, hne⟩, hturn⟩
    refine ⟨(Router, iConfigReg), toOption_eq_some_iff.2 hengine, ?_⟩
    dsimp only
    rwa [if_neg hne]

/-- As long as the switch has had no case, the containers are as empty as at the start;
and a stage that has been closed has left a line in the log. -/
structure Kept (s : Main) : Prop where
  isolated : (∀ n ∈ s.ran, ¬ Switched n) → s.Router.Isolated
  logged : (∃ n ∈ s.ran, Switched n) → s.Router.vLog ≠ []

theorem Kept.start {Router : MainRouter} (h : Router.Isolated) : (Main.start Router).Kept where
  isolated _ := h
  logged := fun ⟨n, hn, _⟩ => by cases hn

theorem Starts.same (h : s.Starts Router) : Router.SameContainers s.Router.toCRouter := by
  obtain ⟨iConfigReg, hengine, -⟩ := h
  exact stageEngine_same hengine

/-- A turn keeps it: `close` logs a line, and without a case nothing is touched. -/
theorem Kept.step (h : s.Kept) (hstep : mainStep s input = some s') : s'.Kept := by
  obtain ⟨Router, hstart, hturn⟩ := mainStep_iff.1 hstep
  have hsame := hstart.same
  unfold turn at hturn
  split_ifs at hturn with hcase
  · obtain ⟨router, -, rfl⟩ := Option.map_eq_some_iff.1 hturn
    constructor
    · intro hall
      exact absurd hcase (hall _ (List.mem_append_right _ (List.mem_singleton_self _)))
    · intro _ hnil
      exact absurd hnil (List.append_ne_nil_of_right_ne_nil _ (List.cons_ne_nil _ _))
  · obtain rfl := Option.some.inj hturn
    constructor
    · intro hall
      refine hsame.isolated_iff.2 (h.isolated fun n hn => ?_)
      exact hall n (List.mem_append_left _ hn)
    · rintro ⟨n, hn, hswitched⟩
      change Router.vLog ≠ []
      rw [hsame.vLog]
      refine h.logged ⟨n, ?_, hswitched⟩
      rcases List.mem_append.1 hn with hn | hn
      · exact hn
      · rw [List.mem_singleton.1 hn] at hswitched
        exact absurd hswitched hcase

theorem Kept.run {inputs : List StageInput} (h : s.Kept) (hrun : run mainStep s inputs = some s') :
    s'.Kept :=
  run_invariant (Q := fun _ _ _ => True) (fun _ _ _ hk he _ => hk.step he) h
    (Along.of_forall fun _ _ _ _ => trivial) hrun

/-- In every run of `main` on any configuration file, a stage starts with empty containers
exactly when no stage with a case in the switch has been run before. -/
theorem isolated_iff_not_switched (iPortNum : ℤ) (flow : Rebalance FlowEntry FlowAction)
    (count : Rebalance OctaneControl ℤ) (dropped : Rebalance OctaneControl FlowAction)
    (infile : Option (List Char)) (inputs : List StageInput) (s : Main)
    (Router₀ Router : MainRouter)
    (hread : (init (.init iPortNum flow count dropped)).readConfigFile infile = .ok Router₀)
    (hrun : run mainStep (start Router₀) inputs = some s) (hstart : s.Starts Router) :
    Router.Isolated ↔ ∀ n ∈ s.ran, ¬ Switched n := by
  obtain ⟨vConfig, -, rfl⟩ := exists_ok_of_map hread
  have hkept : s.Kept := (Kept.start ⟨rfl, rfl, rfl, rfl⟩).run hrun
  rw [hstart.same.isolated_iff]
  constructor
  · intro hempty n hn hswitched
    exact hkept.logged ⟨n, hn, hswitched⟩ hempty.vLog
  · exact hkept.isolated

/-- An iteration in which nothing arrives until the idle time is over. -/
def quietIteration : Iteration where
  next := ⟨0, 0⟩
  top := ⟨⟨0, 0⟩, ⟨0, 0⟩⟩
  wait := ⟨0, 0⟩
  selected := .expired ⟨15, 0⟩ ⟨⟨0, 0⟩, ⟨0, 0⟩⟩ ⟨0, 0⟩ []

/-- Two secondary routers, and nothing else. -/
def quietInput : StageInput where
  iRou1Port := 4000
  children := [⟨101, 35⟩, ⟨102, 36⟩]
  rou2Addr := .local 0
  packets := []
  auth := default
  authRev := default
  iterations := [quietIteration]

/-- A file with the stage 6 twice. -/
def twiceSix : List Char :=
  "stage 6\nnum_routers 2\ndrop_after 3\nstage 6\nnum_routers 2\ndrop_after 3".toList

/-- The router when the file has been read. -/
def sixRouter : MainRouter :=
  { fresh with
    vConfig := ["6".toList, "2".toList, "3".toList, "6".toList, "2".toList, "3".toList] }

theorem readConfigFile_twiceSix : fresh.readConfigFile (some twiceSix) = .ok sixRouter := by
  have hread : readLines [] (inInt (vReadBuffer (some twiceSix))) =
      .ok ["6".toList, "2".toList, "3".toList, "6".toList, "2".toList, "3".toList] := by
    decide +kernel
  exact congrArg (Except.map fun vConfig => { fresh with vConfig := vConfig }) hread

/-- A file with a number without a case and then the stage 6. -/
def elevenSix : List Char :=
  "stage 11\nstage 6\nnum_routers 2\ndrop_after 3".toList

/-- The router when that file has been read. -/
def elevenRouter : MainRouter :=
  { fresh with vConfig := ["11".toList, "6".toList, "2".toList, "3".toList] }

theorem readConfigFile_elevenSix : fresh.readConfigFile (some elevenSix) = .ok elevenRouter := by
  have hread : readLines [] (inInt (vReadBuffer (some elevenSix))) =
      .ok ["11".toList, "6".toList, "2".toList, "3".toList] := by
    decide +kernel
  exact congrArg (Except.map fun vConfig => { fresh with vConfig := vConfig }) hread

/-- The turn for the number without a case leaves the containers empty for the stage 6. -/
theorem isolated_second_stage :
    ∃ s Router, run mainStep (start elevenRouter) [quietInput] = some s ∧ s.ran = [11] ∧
      s.Starts Router ∧ Router.iStage = 6 ∧ Router.Isolated := by
  have hsecond : ((run mainStep (start elevenRouter) [quietInput]).bind fun s =>
      s.Router.stageEngine.toOption.map fun p => (s.ran, p.2, p.1.iStage)) =
        some ([11], 5, 6) := by decide +kernel
  obtain ⟨s, hrun, hengine⟩ := Option.bind_eq_some_iff.1 hsecond
  obtain ⟨⟨Router, c⟩, hok, heq⟩ := Option.map_eq_some_iff.1 hengine
  obtain ⟨hran, hc, hstage⟩ : s.ran = [11] ∧ c = 5 ∧ Router.iStage = 6 := by simpa using heq
  have hstart : s.Starts Router := ⟨c, toOption_eq_some_iff.1 hok, by omega⟩
  refine ⟨s, Router, hrun, hran, hstart, hstage, (isolated_iff_not_switched 0 _ _ _
    (some elevenSix) [quietInput] s elevenRouter Router readConfigFile_elevenSix hrun hstart).2 ?_⟩
  rw [hran]
  decide

/-- The second stage finds the log and the child ports of the first one. -/
theorem not_isolated_second_stage :
    fresh.readConfigFile (some twiceSix) = .ok sixRouter ∧
      ∃ s Router, run mainStep (start sixRouter) [quietInput] = some s ∧ s.Starts Router ∧
        ¬ Router.Isolated ∧ Router.mChildPort.toList = [(101, 35), (102, 36)] := by
  refine ⟨readConfigFile_twiceSix, ?_⟩
  have hsecond : ((run mainStep (start sixRouter) [quietInput]).bind fun s =>
      s.Router.stageEngine.toOption.map fun p => (p.2, p.1.mChildPort.toList, p.1.vLog.isEmpty)) =
        some (7, [(101, 35), (102, 36)], false) := by decide +kernel
  obtain ⟨s, hrun, hengine⟩ := Option.bind_eq_some_iff.1 hsecond
  obtain ⟨⟨Router, c⟩, hok, heq⟩ := Option.map_eq_some_iff.1 hengine
  obtain ⟨hc, hports, hlog⟩ : c = 7 ∧ Router.mChildPort.toList = [(101, 35), (102, 36)] ∧
      Router.vLog.isEmpty = false := by simpa using heq
  refine ⟨s, Router, hrun, ⟨c, toOption_eq_some_iff.1 hok, by omega⟩, fun h => ?_, hports⟩
  rw [h.vLog] at hlog
  cases hlog

end Main
