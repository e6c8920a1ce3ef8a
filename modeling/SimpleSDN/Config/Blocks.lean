import Mathlib.Data.List.TakeWhile
import SimpleSDN.Config.File

/-!
# Stage blocks

A `Block` is a stage as the configuration file describes it: a line for its number and
behind it, in either order, a line for the number of routers and one for `drop_after`,
which the stages up to 3 may leave out. `readConfigFile` drops the keywords, and
`stageEngine` takes the values in one order and number: they are bound to the fields
that the keywords name exactly when no block has more lines than it needs, nor two
values that differ in the other order (`fileBound_iff_inOrder`).
-/

/-- A word of digits. -/
def Digits (w : List Char) : Prop := w ≠ [] ∧ w.all Char.isDigit = true

instance Digits.decidable (w : List Char) : Decidable (Digits w) :=
  inferInstanceAs (Decidable (_ ∧ _))

/-- The lines of a stage. -/
structure Block where
  stage : List Char
  numRouters : List Char
  dropAfter : Option (List Char)
  /-- `drop_after` comes before `num_routers`. -/
  dropFirst : Bool
  stage_digits : Digits stage
  numRouters_digits : Digits numRouters
  dropAfter_digits : ∀ d ∈ dropAfter, Digits d
  stage_range : 1 ≤ decimal stage ∧ decimal stage ≤ 10
  dropAfter_required : 3 < decimal stage → dropAfter ≠ none

namespace Block

/-- The keywords and values of the lines behind the first one. -/
def settings (b : Block) : List (List Char × List Char) :=
  match b.dropAfter with
  | none => [("num_routers".toList, b.numRouters)]
  | some d =>
      if b.dropFirst then [("drop_after".toList, d), ("num_routers".toList, b.numRouters)]
      else [("num_routers".toList, b.numRouters), ("drop_after".toList, d)]

/-- The words of the lines. -/
def lines (b : Block) : List (List (List Char)) :=
  (("stage".toList, b.stage) :: b.settings).map fun p => [p.1, p.2]

/-- The values in the order of the file. -/
def values (b : Block) : List (List Char) := b.stage :: b.settings.map Prod.snd

/-- The numbers that the stage is to be run with, in the order in which `stageEngine`
asks for them. -/
def numbers (b : Block) : List ℤ :=
  decimal b.stage :: decimal b.numRouters ::
    if 3 < decimal b.stage then b.dropAfter.toList.map fun d => (decimal d : ℤ) else []

/-- The values are given in the order of the engine: there is no `drop_after` that it
does not ask for, and `num_routers` comes first or makes no difference. All of them are
numbers of type `int`. -/
structure InOrder (b : Block) : Prop where
  drop_unasked : decimal b.stage ≤ 3 → b.dropAfter = none
  routers_first : ∀ d ∈ b.dropAfter, b.dropFirst = true → decimal d = decimal b.numRouters
  numRouters_le : decimal b.numRouters ≤ 2147483647
  dropAfter_le : ∀ d ∈ b.dropAfter, decimal d ≤ 2147483647

theorem numbers_of_high {b : Block} {d : List Char} (h : 3 < decimal b.stage)
    (hd : b.dropAfter = some d) :
    b.numbers = [↑(decimal b.stage), ↑(decimal b.numRouters), ↑(decimal d)] := by
  rw [numbers, if_pos h, hd]
  rfl

theorem numbers_of_low {b : Block} (h : ¬ 3 < decimal b.stage) :
    b.numbers = [↑(decimal b.stage), ↑(decimal b.numRouters)] := by
  rw [numbers, if_neg h]

end Block

/-- Comments and blank lines apart, the lines of the file are those of the blocks. -/
def MadeOf (content : List Char) (blocks : List Block) : Prop :=
  ((vReadBuffer (some content)).map words).filter (fun line => !line.isEmpty) =
    blocks.flatMap Block.lines

namespace MainRouter

/-- The fields have the numbers that the block gives them. -/
structure Has (Router : MainRouter) (b : Block) : Prop where
  iStage : Router.iStage = decimal b.stage
  iRouteNum : Router.iRouteNum = decimal b.numRouters
  iDropAfter : 3 < decimal b.stage → ∀ d ∈ b.dropAfter, Router.iDropAfter = decimal d

/-- Each call of `stageEngine` sets the fields to the numbers of the next block, and the
call behind the last one returns 0. -/
def StagesBound : MainRouter → List Block → Prop
  | Router, [] => ∃ Router', Router.stageEngine = .ok (Router', 0)
  | Router, b :: blocks => ∃ Router' iConfigReg, Router.stageEngine = .ok (Router', iConfigReg) ∧
      iConfigReg ≠ 0 ∧ Router'.Has b ∧ StagesBound Router' blocks

/-- The file is read, and the calls that follow set the fields to the numbers of the
blocks. -/
def FileBound (Router : MainRouter) (infile : Option (List Char)) (blocks : List Block) : Prop :=
  ∃ Router', Router.readConfigFile infile = .ok Router' ∧ Router'.StagesBound blocks

variable {Router Router' : MainRouter} {rest : List (List Char)} {blocks : List Block} {n : ℤ}

/-! ### The calls of `stageEngine` -/

theorem Reading.nextValue_eq_ok_iff (h : Router.Reading rest) :
    Router.nextValue = .ok (Router', n) ↔ ∃ w rest', rest = w :: rest' ∧ stoi w = .ok n ∧
      Router' = { Router with iConfigReg := toInt (Router.iConfigReg + 1) } := by
  cases rest with
  | nil =>
      rw [h.nextValue_nil]
      exact iff_of_false (fun heq => by cases heq) fun ⟨_, _, heq, _⟩ => by cases heq
  | cons w rest =>
      obtain ⟨-, -, hvalue⟩ := h.nextValue_cons
      rw [hvalue]
      constructor
      · intro heq
        cases hw : stoi w with
        | error e =>
            rw [hw] at heq
            cases heq
        | ok m =>
            rw [hw] at heq
            obtain ⟨rfl, rfl⟩ := Prod.mk.inj (Except.ok.inj heq)
            exact ⟨w, rest, rfl, hw, rfl⟩
      · rintro ⟨w', rest', heq, hw, rfl⟩
        obtain ⟨rfl, rfl⟩ := List.cons.inj heq
        rw [hw]
        rfl

/-- Fields that are read are given the numbers in the order of the words. -/
theorem Reading.readFields_cons_iff (h : Router.Reading rest) (field : MainRouter → ℤ → MainRouter)
    (due : List (MainRouter → ℤ → MainRouter)) :
    readFields (field :: due) Router = .ok Router' ↔
      ∃ w rest' n, rest = w :: rest' ∧ stoi w = .ok n ∧
        readFields due (field { Router with iConfigReg := toInt (Router.iConfigReg + 1) } n) =
          .ok Router' := by
  rw [readFields]
  constructor
  · intro heq
    cases hvalue : Router.nextValue with
    | error e =>
        rw [hvalue] at heq
        cases heq
    | ok p =>
        obtain ⟨Router₁, n⟩ := p
        obtain ⟨w, rest', hrest, hw, rfl⟩ := h.nextValue_eq_ok_iff.1 hvalue
        rw [hvalue] at heq
        exact ⟨w, rest', n, hrest, hw, heq⟩
  · rintro ⟨w, rest', n, hrest, hw, heq⟩
    rw [h.nextValue_eq_ok_iff.2 ⟨w, rest', hrest, hw, rfl⟩]
    exact heq

theorem Reading.iConfigReg_ne_zero (h : Router.Reading rest) : Router.iConfigReg ≠ 0 := by
  have hlt := length_inInt_lt Router.vConfig
  rw [h.iConfigReg]
  intro hzero
  by_cases hmax : (inInt Router.vConfig).length - rest.length + 1 < 2 ^ 31
  · rw [toInt_of_lt hmax] at hzero
    omega
  · have heq : (inInt Router.vConfig).length - rest.length + 1 = 2 ^ 31 := by omega
    rw [heq, toInt_two_pow] at hzero
    omega

/-- The fields do not change the number of the stage, and leave some values to read. -/
theorem Reading.readFields_keeps {iStage : ℤ} {due : List (MainRouter → ℤ → MainRouter)}
    (h : Router.Reading rest) (hdue : ∀ field ∈ due, field ∈ fields iStage)
    (heq : readFields due Router = .ok Router') :
    Router'.iStage = Router.iStage ∧ ∃ rest', Router'.Reading rest' := by
  induction due generalizing Router rest with
  | nil =>
      obtain rfl : Router = Router' := Except.ok.inj heq
      exact ⟨rfl, rest, h⟩
  | cons field due ih =>
      obtain ⟨w, rest', n, rfl, -, hfields⟩ := (h.readFields_cons_iff field due).1 heq
      obtain ⟨hreg, hconfig, hstage⟩ := field_keeps (hdue field List.mem_cons_self)
        { Router with iConfigReg := toInt (Router.iConfigReg + 1) } n
      obtain ⟨hsame, hleft⟩ := ih (h.nextValue_cons.1.congr hreg hconfig)
        (fun f hf => hdue f (List.mem_cons_of_mem field hf)) hfields
      exact ⟨hsame.trans hstage, hleft⟩

/-- What is known of the router behind the number of a stage. -/
theorem Reading.number {w : List Char} (h : Router.Reading (w :: rest)) (iStage : ℤ) :
    Reading { Router with iConfigReg := toInt (Router.iConfigReg + 1), iStage := iStage } rest :=
  h.nextValue_cons.1.congr rfl rfl

/-- A call reads the number of the next stage and its fields. -/
theorem Reading.stageEngine_cons_iff {w : List Char} {iConfigReg : ℤ}
    (h : Router.Reading (w :: rest)) :
    Router.stageEngine = .ok (Router', iConfigReg) ↔
      ∃ iStage, stoi w = .ok iStage ∧ readFields (fields iStage) { Router with
          iConfigReg := toInt (Router.iConfigReg + 1), iStage := iStage } = .ok Router' ∧
        iConfigReg = Router'.iConfigReg := by
  obtain ⟨-, -, hvalue⟩ := h.nextValue_cons
  rw [h.stageEngine_cons, hvalue]
  cases hw : stoi w with
  | error e => exact iff_of_false (fun heq => by cases heq) fun ⟨_, heq, _⟩ => by cases heq
  | ok iStage =>
      change (readFields (fields iStage) { Router with
        iConfigReg := toInt (Router.iConfigReg + 1), iStage := iStage }).map _ = _ ↔ _
      constructor
      · intro heq
        cases hread : readFields (fields iStage) { Router with
          iConfigReg := toInt (Router.iConfigReg + 1), iStage := iStage } with
        | error e =>
            rw [hread] at heq
            cases heq
        | ok Router₁ =>
            rw [hread] at heq
            obtain ⟨rfl, rfl⟩ := Prod.mk.inj (Except.ok.inj heq)
            exact ⟨iStage, rfl, hread, rfl⟩
      · rintro ⟨iStage', hw', hread, rfl⟩
        obtain rfl := Except.ok.inj hw'
        rw [hread]
        rfl

/-- A call that does not return 0 finds a number to read. -/
theorem Reading.exists_cons {iConfigReg : ℤ} (h : Router.Reading rest)
    (heq : Router.stageEngine = .ok (Router', iConfigReg)) (hne : iConfigReg ≠ 0) :
    ∃ w rest', rest = w :: rest' := by
  cases rest with
  | nil =>
      rw [h.stageEngine_nil] at heq
      split_ifs at heq
      exact absurd (Prod.mk.inj (Except.ok.inj heq)).2.symm hne
  | cons w rest => exact ⟨w, rest, rfl⟩

/-- A call returns 0 exactly when nothing is left to read, and the counter has not wrapped
around. -/
theorem Reading.exists_stageEngine_zero_iff (h : Router.Reading rest) :
    (∃ Router', Router.stageEngine = .ok (Router', 0)) ↔
      rest = [] ∧ (inInt Router.vConfig).length + 1 < 2 ^ 31 := by
  cases rest with
  | nil =>
      rw [h.stageEngine_nil, and_iff_right rfl]
      split_ifs with hmax
      · exact iff_of_true ⟨Router, rfl⟩ hmax
      · exact iff_of_false (fun ⟨_, heq⟩ => by cases heq) hmax
  | cons w rest =>
      refine iff_of_false (fun ⟨Router', heq⟩ => ?_) fun ⟨hnil, _⟩ => by cases hnil
      obtain ⟨iStage, -, hread, hzero⟩ := h.stageEngine_cons_iff.1 heq
      obtain ⟨-, rest', hleft⟩ := (h.number iStage).readFields_keeps (fun _ hf => hf) hread
      exact hleft.iConfigReg_ne_zero hzero.symm

/-- The router after the numbers of a stage up to 3. -/
def afterLow (Router : MainRouter) (iRouteNum : ℤ) : MainRouter :=
  { Router with iConfigReg := toInt (Router.iConfigReg + 1), iRouteNum := iRouteNum }

/-- The router after the numbers of a stage from 4 on. -/
def afterHigh (Router : MainRouter) (iRouteNum iDropAfter : ℤ) : MainRouter :=
  { Router.afterLow iRouteNum with
    iConfigReg := toInt ((Router.afterLow iRouteNum).iConfigReg + 1), iDropAfter := iDropAfter }

theorem Reading.afterLow {w : List Char} (h : Router.Reading (w :: rest)) (iRouteNum : ℤ) :
    (Router.afterLow iRouteNum).Reading rest :=
  h.nextValue_cons.1.congr rfl rfl

theorem Reading.afterHigh {w w' : List Char} (h : Router.Reading (w :: w' :: rest))
    (iRouteNum iDropAfter : ℤ) : (Router.afterHigh iRouteNum iDropAfter).Reading rest :=
  (h.afterLow iRouteNum).nextValue_cons.1.congr rfl rfl

theorem Reading.readFields_low {iStage : ℤ} (h : Router.Reading rest) (hlow : iStage ≤ 3) :
    readFields (fields iStage) Router = .ok Router' ↔ ∃ w rest' n, rest = w :: rest' ∧
      stoi w = .ok n ∧ Router' = Router.afterLow n := by
  rw [fields, if_pos hlow, h.readFields_cons_iff]
  simp only [readFields, Except.ok.injEq, eq_comm]
  rfl

theorem Reading.readFields_high {iStage : ℤ} (h : Router.Reading rest) (hhigh : 3 < iStage)
    (hle : iStage ≤ 10) :
    readFields (fields iStage) Router = .ok Router' ↔ ∃ w w' rest' n m, rest = w :: w' :: rest' ∧
      stoi w = .ok n ∧ stoi w' = .ok m ∧ Router' = Router.afterHigh n m := by
  rw [fields, if_neg (not_le.2 hhigh), if_pos hle, h.readFields_cons_iff]
  constructor
  · rintro ⟨w, rest', n, rfl, hw, hread⟩
    have hnext : (Router.afterLow n).Reading rest' := h.afterLow n
    obtain ⟨w', rest'', m, rfl, hw', hlast⟩ := (hnext.readFields_cons_iff _ _).1 hread
    exact ⟨w, w', rest'', n, m, rfl, hw, hw', (Except.ok.inj hlast).symm⟩
  · rintro ⟨w, w', rest', n, m, rfl, hw, hw', rfl⟩
    have hnext : (Router.afterLow n).Reading (w' :: rest') := h.afterLow n
    exact ⟨w, w' :: rest', n, rfl, hw,
      (hnext.readFields_cons_iff _ _).2 ⟨w', rest', m, rfl, hw', rfl⟩⟩

/-- The fields that are read behind the number of a stage have the numbers of a block
exactly when the words that are read are these, of a property of the router that speaks of
what is left to read. -/
theorem Reading.fields_iff (h : Router.Reading rest) {b : Block}
    (hstage : Router.iStage = decimal b.stage) {P : MainRouter → Prop}
    {Q : List (List Char) → Prop}
    (hPQ : ∀ Router' rest', Router'.Reading rest' → Router'.vConfig = Router.vConfig →
      (P Router' ↔ Q rest')) :
    (∃ Router', readFields (fields (decimal b.stage)) Router = .ok Router' ∧ Router'.Has b ∧
        P Router') ↔
      ∃ vs rest', rest = vs ++ rest' ∧ vs.map stoi = b.numbers.tail.map Except.ok ∧ Q rest' := by
  have hrange := b.stage_range
  by_cases hhigh : 3 < decimal b.stage
  · obtain ⟨d, hd⟩ := Option.ne_none_iff_exists'.1 (b.dropAfter_required hhigh)
    rw [Block.numbers_of_high hhigh hd, List.tail_cons]
    simp only [h.readFields_high (show (3 : ℤ) < decimal b.stage by omega) (by omega)]
    constructor
    · rintro ⟨Router', ⟨w, w', rest', n, m, rfl, hw, hw', rfl⟩, hhas, hP⟩
      have hn : n = decimal b.numRouters := hhas.iRouteNum
      have hm : m = decimal d := hhas.iDropAfter hhigh d hd
      refine ⟨[w, w'], rest', rfl, ?_, (hPQ _ _ (h.afterHigh n m) rfl).1 hP⟩
      simp only [List.map_cons, List.map_nil, hw, hw', hn, hm]
    · rintro ⟨vs, rest', rfl, hvs, hQ⟩
      simp only [List.map_cons, List.map_nil, List.map_eq_cons_iff, List.map_eq_nil_iff] at hvs
      obtain ⟨w, vs, rfl, hw, w', vs, rfl, hw', rfl⟩ := hvs
      refine ⟨_, ⟨w, w', rest', _, _, rfl, hw, hw', rfl⟩, ⟨hstage, rfl, fun _ d' hd' => ?_⟩,
        (hPQ _ _ (h.afterHigh _ _) rfl).2 hQ⟩
      rw [hd] at hd'
      rw [← Option.some.inj hd']
      rfl
  · rw [Block.numbers_of_low hhigh, List.tail_cons]
    simp only [h.readFields_low (show (decimal b.stage : ℤ) ≤ 3 by omega)]
    constructor
    · rintro ⟨Router', ⟨w, rest', n, rfl, hw, rfl⟩, hhas, hP⟩
      have hn : n = decimal b.numRouters := hhas.iRouteNum
      refine ⟨[w], rest', rfl, ?_, (hPQ _ _ (h.afterLow n) rfl).1 hP⟩
      simp only [List.map_cons, List.map_nil, hw, hn]
    · rintro ⟨vs, rest', rfl, hvs, hQ⟩
      simp only [List.map_cons, List.map_nil, List.map_eq_cons_iff, List.map_eq_nil_iff] at hvs
      obtain ⟨w, vs, rfl, hw, rfl⟩ := hvs
      exact ⟨_, ⟨w, rest', _, rfl, hw, rfl⟩, ⟨hstage, rfl, fun hlt => absurd hlt hhigh⟩,
        (hPQ _ _ (h.afterLow _) rfl).2 hQ⟩

/-- A call that sets the fields to the numbers of a block has read just these. -/
theorem Reading.block_iff (h : Router.Reading rest) (b : Block) {P : MainRouter → Prop}
    {Q : List (List Char) → Prop}
    (hPQ : ∀ Router' rest', Router'.Reading rest' → Router'.vConfig = Router.vConfig →
      (P Router' ↔ Q rest')) :
    (∃ Router' iConfigReg, Router.stageEngine = .ok (Router', iConfigReg) ∧ iConfigReg ≠ 0 ∧
        Router'.Has b ∧ P Router') ↔
      ∃ vs rest', rest = vs ++ rest' ∧ vs.map stoi = b.numbers.map Except.ok ∧ Q rest' := by
  have hnumbers : b.numbers = ↑(decimal b.stage) :: b.numbers.tail := rfl
  constructor
  · rintro ⟨Router', iConfigReg, hengine, hne, hhas, hP⟩
    obtain ⟨w, rest₁, rfl⟩ := h.exists_cons hengine hne
    obtain ⟨iStage, hw, hread, -⟩ := h.stageEngine_cons_iff.1 hengine
    obtain rfl : iStage = decimal b.stage :=
      ((h.number _).readFields_keeps (fun _ hf => hf) hread).1.symm.trans hhas.iStage
    obtain ⟨vs, rest', rfl, hvs, hQ⟩ :=
      ((h.number _).fields_iff rfl hPQ).1 ⟨Router', hread, hhas, hP⟩
    refine ⟨w :: vs, rest', rfl, ?_, hQ⟩
    rw [hnumbers, List.map_cons, List.map_cons, hw, hvs]
  · rintro ⟨vs, rest', rfl, hvs, hQ⟩
    rw [hnumbers, List.map_cons] at hvs
    obtain ⟨w, vs, rfl, hw, hvs⟩ := List.map_eq_cons_iff.1 hvs
    obtain ⟨Router', hread, hhas, hP⟩ :=
      ((h.number (decimal b.stage)).fields_iff rfl hPQ).2 ⟨vs, rest', rfl, hvs, hQ⟩
    obtain ⟨-, rest₁, hleft⟩ := (h.number _).readFields_keeps (fun _ hf => hf) hread
    exact ⟨Router', Router'.iConfigReg, h.stageEngine_cons_iff.2 ⟨_, hw, hread, rfl⟩,
      hleft.iConfigReg_ne_zero, hhas, hP⟩

/-- The calls set the fields to the numbers of the blocks exactly when what is left to
read are these numbers, and the counter does not wrap around behind them. -/
theorem Reading.stagesBound_iff {size : ℕ} (h : Router.Reading rest)
    (hsize : (inInt Router.vConfig).length = size) :
    Router.StagesBound blocks ↔
      rest.map stoi = (blocks.flatMap Block.numbers).map Except.ok ∧ size + 1 < 2 ^ 31 := by
  induction blocks generalizing Router rest with
  | nil =>
      rw [List.flatMap_nil, List.map_nil, List.map_eq_nil_iff, StagesBound,
        h.exists_stageEngine_zero_iff, hsize]
  | cons b blocks ih =>
      rw [StagesBound, h.block_iff b fun Router' rest' h' hconfig => ih h' (by rw [hconfig, hsize]),
        List.flatMap_cons, List.map_append]
      constructor
      · rintro ⟨vs, rest', rfl, hvs, hrest, hmax⟩
        rw [List.map_append, hvs, hrest]
        exact ⟨rfl, hmax⟩
      · rintro ⟨hmap, hmax⟩
        obtain ⟨vs, rest', rfl, hvs, hrest⟩ := List.map_eq_append_iff.1 hmap
        exact ⟨vs, rest', rfl, hvs, hrest, hmax⟩

/-- The file binds the numbers of the blocks exactly when every keyword has a value, and
the values, as far as they are looked at, are these numbers. -/
theorem fileBound_iff (Router : CRouter) (infile : Option (List Char)) (blocks : List Block) :
    FileBound (init Router) infile blocks ↔
      FileValued infile ∧
        (inInt (fileValues infile)).map stoi = (blocks.flatMap Block.numbers).map Except.ok ∧
        (inInt (fileValues infile)).length + 1 < 2 ^ 31 := by
  by_cases hvalued : FileValued infile
  · have hstart := Reading.start Router (fileValues infile)
    rw [and_iff_right hvalued, ← hstart.stagesBound_iff rfl, FileBound,
      readConfigFile_of_valued hvalued]
    constructor
    · rintro ⟨Router', heq, hbound⟩
      rwa [← Except.ok.inj heq] at hbound
    · exact fun hbound => ⟨_, rfl, hbound⟩
  · refine iff_of_false (fun ⟨Router', heq, _⟩ => ?_) fun h => hvalued h.1
    rw [readConfigFile_of_not_valued hvalued] at heq
    cases heq

end MainRouter

/-! ### The order of the values -/

theorem stoi_eq_ok_iff {w : List Char} (h : Digits w) (n : ℤ) :
    stoi w = .ok n ↔ decimal w ≤ 2147483647 ∧ n = decimal w := by
  have hall : w.takeWhile Char.isDigit = w := List.takeWhile_eq_self_iff.2 (List.all_eq_true.1 h.2)
  unfold stoi
  dsimp only
  rw [hall]
  split_ifs with hbad
  · refine iff_of_false (fun heq => by cases heq) fun hgood => ?_
    exact hbad.elim h.1 (not_lt.2 hgood.1)
  · rw [not_or, not_lt] at hbad
    rw [and_iff_right hbad.2, Except.ok.injEq, eq_comm]

namespace Block

theorem length_numbers_le (b : Block) : b.numbers.length ≤ b.values.length := by
  unfold numbers values settings
  cases b.dropAfter with
  | none => split_ifs <;> simp
  | some d => split_ifs <;> simp

theorem length_values_le (b : Block) : b.values.length ≤ 3 := by
  unfold values settings
  cases b.dropAfter with
  | none => simp
  | some d => cases b.dropFirst <;> simp

theorem inOrder_iff_of_high {b : Block} {d : List Char} (h : 3 < decimal b.stage)
    (hd : b.dropAfter = some d) :
    b.InOrder ↔ (b.dropFirst = true → decimal d = decimal b.numRouters) ∧
      decimal b.numRouters ≤ 2147483647 ∧ decimal d ≤ 2147483647 := by
  constructor
  · exact fun hb => ⟨hb.routers_first d hd, hb.numRouters_le, hb.dropAfter_le d hd⟩
  · rintro ⟨hfirst, hnle, hdle⟩
    have heq : ∀ d' ∈ b.dropAfter, d' = d := fun d' hd' => Option.some.inj (hd'.symm.trans hd)
    exact ⟨fun hlow => absurd hlow (not_le.2 h), fun d' hd' => by rwa [heq d' hd'], hnle,
      fun d' hd' => by rwa [heq d' hd']⟩

theorem inOrder_iff_of_low {b : Block} (h : ¬ 3 < decimal b.stage) :
    b.InOrder ↔ b.dropAfter = none ∧ decimal b.numRouters ≤ 2147483647 := by
  constructor
  · exact fun hb => ⟨hb.drop_unasked (not_lt.1 h), hb.numRouters_le⟩
  · rintro ⟨hnone, hnle⟩
    have hnot : ∀ d, d ∉ b.dropAfter := fun d hd => by
      rw [hnone] at hd
      cases hd
    exact ⟨fun _ => hnone, fun d hd => absurd hd (hnot d), hnle, fun d hd => absurd hd (hnot d)⟩

/-- The numbers of the block are its values, in their order, exactly when the values are
given in the order of the engine. -/
theorem map_values_iff (b : Block) :
    b.values.map stoi = b.numbers.map Except.ok ↔ b.InOrder := by
  have hstage : stoi b.stage = .ok (decimal b.stage : ℤ) :=
    (stoi_eq_ok_iff b.stage_digits _).2 ⟨b.stage_range.2.trans (by omega), rfl⟩
  have hrouters := stoi_eq_ok_iff b.numRouters_digits
  by_cases hhigh : 3 < decimal b.stage
  · obtain ⟨d, hd⟩ := Option.ne_none_iff_exists'.1 (b.dropAfter_required hhigh)
    have hdrop := stoi_eq_ok_iff (b.dropAfter_digits d hd)
    rw [inOrder_iff_of_high hhigh hd, numbers_of_high hhigh hd, values, settings, hd]
    cases b.dropFirst with
    | true =>
        simp only [if_true, List.map_cons, List.map_nil, hstage, List.cons.injEq, hrouters, hdrop,
          true_and, and_true, Int.natCast_inj, forall_const]
        constructor
        · rintro ⟨⟨hdle, heq⟩, hnle, -⟩
          exact ⟨heq.symm, hnle, hdle⟩
        · rintro ⟨heq, hnle, hdle⟩
          exact ⟨⟨hdle, heq.symm⟩, hnle, heq⟩
    | false =>
        simp only [Bool.false_eq_true, if_false, List.map_cons, List.map_nil, hstage,
          List.cons.injEq, hrouters, hdrop, true_and, and_true, false_imp_iff]
  · rw [inOrder_iff_of_low hhigh, numbers_of_low hhigh, values, settings]
    cases b.dropAfter with
    | none =>
        simp only [List.map_cons, List.map_nil, hstage, List.cons.injEq, hrouters, true_and,
          and_true]
    | some d =>
        refine iff_of_false (fun heq => ?_) fun h => Option.some_ne_none d h.1
        have hlen := congrArg List.length heq
        dsimp only at hlen
        split_ifs at hlen
        · simp at hlen
        · simp at hlen

/-- Behind a block that has more values than numbers, the values have too many to be the
numbers of the blocks. -/
theorem flatMap_values_iff (blocks : List Block) :
    (blocks.flatMap values).map stoi = (blocks.flatMap numbers).map Except.ok ↔
      ∀ b ∈ blocks, b.InOrder := by
  have hlen : ∀ blocks : List Block,
      (blocks.flatMap numbers).length ≤ (blocks.flatMap values).length := by
    intro blocks
    induction blocks with
    | nil => exact Nat.le_refl _
    | cons b blocks ih =>
        have hb := b.length_numbers_le
        simp only [List.flatMap_cons, List.length_append]
        omega
  induction blocks with
  | nil => simp
  | cons b blocks ih =>
      simp only [List.flatMap_cons, List.map_append, List.forall_mem_cons]
      constructor
      · intro heq
        have htotal := congrArg List.length heq
        have hb := b.length_numbers_le
        have hrest := hlen blocks
        simp only [List.length_append, List.length_map] at htotal
        obtain ⟨hfirst, hothers⟩ := List.append_inj heq (by simp only [List.length_map]; omega)
        exact ⟨b.map_values_iff.1 hfirst, ih.1 hothers⟩
      · rintro ⟨hb, hothers⟩
        rw [b.map_values_iff.2 hb, ih.2 hothers]

end Block

/-! ### Files made of blocks -/

/-- The file is of a size that `int` counts. -/
structure FitsInt (content : List Char) (blocks : List Block) : Prop where
  lines : (vReadBuffer (some content)).length < 2 ^ 31
  line : ∀ line ∈ vReadBuffer (some content), line.length < 2 ^ 31
  values : 3 * blocks.length + 1 < 2 ^ 31

namespace Block

/-- A line of a block has a keyword and a word of digits. -/
theorem mem_lines {b : Block} {line : List (List Char)} (h : line ∈ b.lines) :
    ∃ w value, Keyword w ∧ line = [w, value] := by
  unfold lines at h
  obtain ⟨p, hp, rfl⟩ := List.mem_map.1 h
  refine ⟨p.1, p.2, ?_, rfl⟩
  rcases List.mem_cons.1 hp with rfl | hp
  · exact Or.inl rfl
  · unfold settings at hp
    cases hd : b.dropAfter with
    | none =>
        rw [hd, List.mem_singleton] at hp
        rw [hp]
        exact Or.inr (Or.inl rfl)
    | some d =>
        rw [hd] at hp
        dsimp only at hp
        split_ifs at hp
        all_goals
          rcases List.mem_cons.1 hp with rfl | hp
          · simp [Keyword]
          · rw [List.mem_singleton.1 hp]
            simp [Keyword]

theorem flatMap_lineValues (b : Block) : b.lines.flatMap lineValues = b.values := by
  have hall : ∀ p ∈ ("stage".toList, b.stage) :: b.settings, lineValues [p.1, p.2] = [p.2] := by
    intro p hp
    obtain ⟨w, value, hw, hline⟩ := b.mem_lines (List.mem_map_of_mem hp)
    have hfirst : p.1 = w := (List.cons.inj hline).1
    exact lineValues_keyword (hfirst ▸ hw)
  rw [lines, List.flatMap_map, List.flatMap_congr hall, ← List.map_eq_flatMap]
  rfl

end Block

/-- Lines without words have no values. -/
theorem flatMap_filter_lineValues (lines : List (List (List Char))) :
    (lines.filter fun line => !line.isEmpty).flatMap lineValues = lines.flatMap lineValues := by
  induction lines with
  | nil => rfl
  | cons line lines ih =>
      cases line with
      | nil => exact ih
      | cons w line =>
          rw [List.filter_cons_of_pos rfl, List.flatMap_cons, List.flatMap_cons, ih]

section

variable {content : List Char} {blocks : List Block}

/-- The words that are looked at are those of the lines. -/
theorem FitsInt.words_inInt (h : FitsInt content blocks) {line : List Char}
    (hline : line ∈ inInt (vReadBuffer (some content))) :
    line ∈ vReadBuffer (some content) ∧ words (inInt line) = words line := by
  rw [inInt_of_lt h.lines] at hline
  exact ⟨hline, by rw [inInt_of_lt (h.line line hline)]⟩

theorem MadeOf.fileValued (hfile : MadeOf content blocks) (h : FitsInt content blocks) :
    FileValued (some content) := by
  intro line hline
  obtain ⟨hmem, hwords⟩ := h.words_inInt hline
  rw [hwords]
  by_cases hempty : words line = []
  · rw [hempty]
    trivial
  · have hin : words line ∈ blocks.flatMap Block.lines := by
      rw [← hfile, List.mem_filter]
      refine ⟨List.mem_map_of_mem hmem, ?_⟩
      rw [List.isEmpty_eq_false_iff.2 hempty]
      rfl
    obtain ⟨b, -, hb⟩ := List.mem_flatMap.1 hin
    obtain ⟨w, value, hw, hpair⟩ := b.mem_lines hb
    rw [hpair]
    exact (valued_keyword hw).2 trivial

theorem MadeOf.fileValues_eq (hfile : MadeOf content blocks) (h : FitsInt content blocks) :
    fileValues (some content) = blocks.flatMap Block.values := by
  have hlines : fileValues (some content) =
      ((vReadBuffer (some content)).map words).flatMap lineValues := by
    rw [fileValues, List.flatMap_map, inInt_of_lt h.lines]
    exact List.flatMap_congr fun line hline => by rw [inInt_of_lt (h.line line hline)]
  rw [hlines, ← flatMap_filter_lineValues, hfile, List.flatMap_assoc]
  exact List.flatMap_congr fun b _ => b.flatMap_lineValues

theorem length_flatMap_values_le (blocks : List Block) :
    (blocks.flatMap Block.values).length ≤ 3 * blocks.length := by
  induction blocks with
  | nil => exact Nat.le_refl _
  | cons b blocks ih =>
      have hb := b.length_values_le
      rw [List.flatMap_cons, List.length_append, List.length_cons]
      omega

namespace MainRouter

/-- A file of a usual size binds the numbers of its blocks exactly when they are all given
in the order of the engine. -/
theorem fileBound_iff_inOrder (Router : CRouter) (hfile : MadeOf content blocks)
    (h : FitsInt content blocks) :
    FileBound (init Router) (some content) blocks ↔ ∀ b ∈ blocks, b.InOrder := by
  have hvalues := hfile.fileValues_eq h
  have hlen := length_flatMap_values_le blocks
  have hmax := h.values
  have hall : inInt (fileValues (some content)) = blocks.flatMap Block.values := by
    rw [hvalues]
    exact inInt_of_lt (by omega)
  rw [fileBound_iff, hall, Block.flatMap_values_iff, and_iff_right (hfile.fileValued h)]
  exact and_iff_left (by omega)

/-- A file made of blocks binds the numbers of the blocks exactly when the values that are
looked at are these numbers; and if `int` counts its lines and their characters, exactly
when no block has a `drop_after` too many or, with another number, too early, and all
values are of type `int`. -/
theorem fileBound_iff_of_madeOf (Router : CRouter) (content : List Char) (blocks : List Block)
    (hfile : MadeOf content blocks) :
    (FileBound (init Router) (some content) blocks ↔
      FileValued (some content) ∧
        (inInt (fileValues (some content))).map stoi =
          (blocks.flatMap Block.numbers).map Except.ok ∧
        (inInt (fileValues (some content))).length + 1 < 2 ^ 31) ∧
    (FitsInt content blocks →
      (FileBound (init Router) (some content) blocks ↔ ∀ b ∈ blocks, b.InOrder)) :=
  ⟨fileBound_iff Router (some content) blocks, fileBound_iff_inOrder Router hfile⟩

/-- A block of stage 2 that has a `drop_after`. -/
def blockTwo : Block where
  stage := "2".toList
  numRouters := "1".toList
  dropAfter := some "3".toList
  dropFirst := false
  stage_digits := by decide
  numRouters_digits := by decide
  dropAfter_digits := fun d hd => by rw [← Option.some.inj hd]; decide
  stage_range := by decide
  dropAfter_required := fun _ => Option.some_ne_none _

/-- A block of stage 5. -/
def blockFive (dropFirst : Bool) : Block where
  stage := "5".toList
  numRouters := "2".toList
  dropAfter := some "3".toList
  dropFirst := dropFirst
  stage_digits := by decide
  numRouters_digits := by decide
  dropAfter_digits := fun d hd => by rw [← Option.some.inj hd]; decide
  stage_range := by decide
  dropAfter_required := fun _ => Option.some_ne_none _

theorem blockFive_inOrder : (blockFive false).InOrder where
  drop_unasked := by decide
  routers_first _ _ hfirst := by cases hfirst
  numRouters_le := by decide
  dropAfter_le d hd := by
    rw [← Option.some.inj hd]
    decide

theorem fileBound_blockFive :
    FileBound fresh (some "# rules\nstage 5\nnum_routers 2\n\ndrop_after 3".toList)
      [blockFive false] :=
  ((fileBound_iff_of_madeOf _ _ [blockFive false] (by unfold MadeOf; decide +kernel)).2
    ⟨by decide +kernel, by decide +kernel, by decide⟩).2
      (List.forall_mem_singleton.2 blockFive_inOrder)

/-- The lines of a stage in the other order, and a line that its stage may leave out. -/
theorem not_fileBound_blocks :
    (MadeOf "stage 5\ndrop_after 3\nnum_routers 2".toList [blockFive true] ∧
      ¬ FileBound fresh (some "stage 5\ndrop_after 3\nnum_routers 2".toList) [blockFive true]) ∧
    MadeOf "stage 2\nnum_routers 1\ndrop_after 3".toList [blockTwo] ∧
      ¬ FileBound fresh (some "stage 2\nnum_routers 1\ndrop_after 3".toList) [blockTwo] := by
  have hfive : MadeOf "stage 5\ndrop_after 3\nnum_routers 2".toList [blockFive true] := by
    unfold MadeOf
    decide +kernel
  have htwo : MadeOf "stage 2\nnum_routers 1\ndrop_after 3".toList [blockTwo] := by
    unfold MadeOf
    decide +kernel
  refine ⟨⟨hfive, fun h => ?_⟩, htwo, fun h => ?_⟩
  · have hall := (fileBound_iff_inOrder _ hfive
      ⟨by decide +kernel, by decide +kernel, by decide⟩).1 h
    exact absurd ((hall _ (List.mem_singleton_self _)).routers_first _ rfl rfl) (by decide)
  · have hall := (fileBound_iff_inOrder _ htwo
      ⟨by decide +kernel, by decide +kernel, by decide⟩).1 h
    exact absurd ((hall _ (List.mem_singleton_self _)).drop_unasked (by decide))
      (Option.some_ne_none _)

end MainRouter

end
