import SimpleSDN.Config.Parser
import SimpleSDN.Router.State

/-!
# The configuration file

`readConfigFile` keeps the words that follow the keywords, and `stageEngine` reads
them one after the other, as many as the stage number that it has just read asks for.
Neither looks whether the word that it reads is there: no container is read outside of
its bounds exactly when every keyword is followed by a value on its line and the
values do not end inside of a stage (`inBounds_iff`).
-/

/-- How a call ends early: a container is read outside of its bounds, or `stoi` throws. -/
inductive ConfigError
  | outOfRange
  | thrown
deriving DecidableEq

/-- The number that a list of digits spells. -/
def decimal (digits : List Char) : ℕ :=
  digits.foldl (fun n c => 10 * n + (c.toNat - '0'.toNat)) 0

/-- `stoi` of a word, which begins with no sign or space. -/
def stoi (w : List Char) : Except ConfigError ℤ :=
  let digits := w.takeWhile Char.isDigit
  if digits = [] ∨ 2147483647 < decimal digits then .error .thrown else .ok (decimal digits)

/-- The words whose next word is kept. -/
def Keyword (w : List Char) : Prop :=
  w = "stage".toList ∨ w = "num_routers".toList ∨ w = "drop_after".toList

instance (w : List Char) : Decidable (Keyword w) := inferInstanceAs (Decidable (_ ∨ _))

/-- The words of a line that are pushed to `vConfig`. -/
def lineConfig : List (List Char) → Except ConfigError (List (List Char))
  | [] => .ok []
  | w :: output =>
      if Keyword w then
        match output with
        | [] => .error .outOfRange
        | value :: output => (lineConfig output).map fun values => value :: values
      else lineConfig output

/-- What the loop of `readConfigFile` makes of a line. -/
def readLine (line : List Char) : Except ConfigError (List (List Char)) :=
  if (parser line []).2 ≠ 0 then lineConfig (inInt (parser line []).1) else .ok []

/-- The loop of `readConfigFile`. -/
def readLines (vConfig : List (List Char)) :
    List (List Char) → Except ConfigError (List (List Char))
  | [] => .ok vConfig
  | line :: lines => (readLine line).bind fun values => readLines (vConfig ++ values) lines

/-- `vReadBuffer`: nothing from a file that is not opened. A file that ends with a
newline has an empty last line. -/
def vReadBuffer (infile : Option (List Char)) : List (List Char) :=
  match infile with
  | none => []
  | some content => content.splitOn '\n'

/-- `cRouter` with the fields that only `main` uses. -/
structure MainRouter extends CRouter where
  iRouteNum : ℤ
  vConfig : List (List Char)
  iConfigReg : ℤ

namespace MainRouter

/-- `cRouter()`. -/
def init (Router : CRouter) : MainRouter where
  toCRouter := Router
  iRouteNum := 0
  vConfig := []
  iConfigReg := 1

def readConfigFile (Router : MainRouter) (infile : Option (List Char)) :
    Except ConfigError MainRouter :=
  (readLines Router.vConfig (inInt (vReadBuffer infile))).map fun vConfig =>
    { Router with vConfig := vConfig }

def nextConfig (Router : MainRouter) : MainRouter × ℤ :=
  if Router.iConfigReg > toInt Router.vConfig.length then (Router, 0)
  else ({ Router with iConfigReg := toInt (Router.iConfigReg + 1) }, Router.iConfigReg)

/-- `vConfig[i]`. -/
def configAt (Router : MainRouter) (i : ℤ) : Except ConfigError (List Char) :=
  if 0 ≤ i then
    match Router.vConfig[i.toNat]? with
    | some w => .ok w
    | none => .error .outOfRange
  else .error .outOfRange

/-- `stoi(vConfig[(nextConfig() - 1)])`. -/
def nextValue (Router : MainRouter) : Except ConfigError (MainRouter × ℤ) :=
  let (Router, iCurrent) := Router.nextConfig
  (Router.configAt (iCurrent - 1)).bind fun w => (stoi w).map fun n => (Router, n)

/-- `stageToCase`. -/
def stageToCase (iStage : ℤ) : ℤ :=
  if iStage ≤ 3 then 0 else if iStage > 3 ∧ iStage ≤ 10 then 1 else -1

/-- The values of a stage behind its number. -/
def stageFields (Router : MainRouter) (iStage : ℤ) : Except ConfigError MainRouter :=
  if stageToCase iStage = 0 then
    Router.nextValue.map fun (Router, iRouteNum) => { Router with iRouteNum := iRouteNum }
  else if stageToCase iStage = 1 then
    Router.nextValue.bind fun (Router, iRouteNum) =>
      (nextValue { Router with iRouteNum := iRouteNum }).map fun (Router, iDropAfter) =>
        { Router with iDropAfter := iDropAfter }
  else .ok Router

/-- `stageEngine`, with the number that it returns. -/
def stageEngine (Router : MainRouter) : Except ConfigError (MainRouter × ℤ) :=
  if Router.iConfigReg ≤ toInt Router.vConfig.length then
    Router.nextValue.bind fun (Router, iStage) =>
      (stageFields { Router with iStage := iStage } iStage).map fun Router =>
        (Router, Router.iConfigReg)
  else .ok (Router, 0)

/-- `k` calls of `stageEngine`. -/
def engines : ℕ → MainRouter → Except ConfigError MainRouter
  | 0, Router => .ok Router
  | k + 1, Router => Router.stageEngine.bind fun (Router, _) => engines k Router

/-- The configuration file is read, and `stageEngine` is called any number of times,
without an access outside of a container. -/
def InBounds (Router : MainRouter) (infile : Option (List Char)) : Prop :=
  ∀ k, (Router.readConfigFile infile).bind (engines k) ≠ .error .outOfRange

end MainRouter

/-! ### The values of a file -/

/-- Behind every keyword of a line there is a value. -/
def LineValued : List (List Char) → Prop
  | [] => True
  | w :: output =>
      if Keyword w then
        match output with
        | [] => False
        | _ :: output => LineValued output
      else LineValued output

/-- The words behind the keywords of a line. -/
def lineValues : List (List Char) → List (List Char)
  | [] => []
  | w :: output =>
      if Keyword w then
        match output with
        | [] => []
        | value :: output => value :: lineValues output
      else lineValues output

section

variable {w value : List Char} {output : List (List Char)}

theorem valued_singleton (hw : Keyword w) : ¬ LineValued [w] := by
  rw [LineValued.eq_def]
  dsimp only
  rw [if_pos hw]
  exact not_false

theorem valued_keyword (hw : Keyword w) :
    LineValued (w :: value :: output) ↔ LineValued output := by
  rw [LineValued.eq_def]
  dsimp only
  rw [if_pos hw]

theorem valued_skip (hw : ¬ Keyword w) : LineValued (w :: output) ↔ LineValued output := by
  rw [LineValued.eq_def]
  dsimp only
  rw [if_neg hw]

theorem lineValues_keyword (hw : Keyword w) :
    lineValues (w :: value :: output) = value :: lineValues output := by
  rw [lineValues.eq_def]
  dsimp only
  rw [if_pos hw]

theorem lineValues_skip (hw : ¬ Keyword w) : lineValues (w :: output) = lineValues output := by
  rw [lineValues.eq_def]
  dsimp only
  rw [if_neg hw]

theorem lineConfig_singleton (hw : Keyword w) : lineConfig [w] = .error .outOfRange := by
  rw [lineConfig.eq_def]
  dsimp only
  rw [if_pos hw]

theorem lineConfig_keyword (hw : Keyword w) :
    lineConfig (w :: value :: output) =
      (lineConfig output).map fun values => value :: values := by
  rw [lineConfig.eq_def]
  dsimp only
  rw [if_pos hw]

theorem lineConfig_skip (hw : ¬ Keyword w) : lineConfig (w :: output) = lineConfig output := by
  rw [lineConfig.eq_def]
  dsimp only
  rw [if_neg hw]

theorem lineConfig_of_valued (h : LineValued output) :
    lineConfig output = .ok (lineValues output) := by
  induction output using lineConfig.induct with
  | case1 => rfl
  | case2 w hw => exact absurd h (valued_singleton hw)
  | case3 w hw value output ih =>
      rw [lineConfig_keyword hw, lineValues_keyword hw, ih ((valued_keyword hw).1 h)]
      rfl
  | case4 w output hw ih =>
      rw [lineConfig_skip hw, lineValues_skip hw, ih ((valued_skip hw).1 h)]

theorem lineConfig_of_not_valued (h : ¬ LineValued output) :
    lineConfig output = .error .outOfRange := by
  induction output using lineConfig.induct with
  | case1 => exact absurd trivial h
  | case2 w hw => exact lineConfig_singleton hw
  | case3 w hw value output ih =>
      rw [lineConfig_keyword hw, ih fun hv => h ((valued_keyword hw).2 hv)]
      rfl
  | case4 w output hw ih =>
      rw [lineConfig_skip hw, ih fun hv => h ((valued_skip hw).2 hv)]

end

/-- Fewer words than an `int` counts. -/
theorem length_words_lt (line : List Char) : (words (inInt line)).length < 2 ^ 31 := by
  have hruns := length_runs_le isWord (uncommented (inInt line))
  have hpart : (uncommented (inInt line)).length ≤ (inInt line).length :=
    (List.takeWhile_sublist _).length_le
  have hlen := length_inInt line
  have hlt := toInt_lt line.length
  unfold words
  omega

theorem readLine_eq (line : List Char) : readLine line = lineConfig (words (inInt line)) := by
  unfold readLine
  rw [parser_eq, List.nil_append, inInt_of_lt (length_words_lt line)]
  dsimp only
  split_ifs with h
  · rfl
  · rw [List.length_eq_zero_iff.1 (not_not.1 h)]
    rfl

/-- Every keyword of the file, as far as it is looked at, is followed by a value on its
line. -/
def FileValued (infile : Option (List Char)) : Prop :=
  ∀ line ∈ inInt (vReadBuffer infile), LineValued (words (inInt line))

/-- The values of the file. -/
def fileValues (infile : Option (List Char)) : List (List Char) :=
  (inInt (vReadBuffer infile)).flatMap fun line => lineValues (words (inInt line))

theorem readLines_of_valued {lines : List (List Char)}
    (h : ∀ line ∈ lines, LineValued (words (inInt line))) (vConfig : List (List Char)) :
    readLines vConfig lines =
      .ok (vConfig ++ lines.flatMap fun line => lineValues (words (inInt line))) := by
  induction lines generalizing vConfig with
  | nil => exact congrArg Except.ok (List.append_nil vConfig).symm
  | cons line lines ih =>
      have hline : readLine line = .ok (lineValues (words (inInt line))) := by
        rw [readLine_eq, lineConfig_of_valued (h line List.mem_cons_self)]
      rw [readLines, hline, List.flatMap_cons, ← List.append_assoc]
      exact ih (fun l hl => h l (List.mem_cons_of_mem line hl)) _

theorem readLines_of_not_valued {lines : List (List Char)}
    (h : ¬ ∀ line ∈ lines, LineValued (words (inInt line))) (vConfig : List (List Char)) :
    readLines vConfig lines = .error .outOfRange := by
  induction lines generalizing vConfig with
  | nil => exact absurd (fun line hline => by cases hline) h
  | cons line lines ih =>
      rw [readLines, readLine_eq]
      by_cases hline : LineValued (words (inInt line))
      · rw [lineConfig_of_valued hline]
        exact ih (fun hrest => h (List.forall_mem_cons.2 ⟨hline, hrest⟩)) _
      · rw [lineConfig_of_not_valued hline]
        rfl

namespace MainRouter

variable {Router Router' : MainRouter} {infile : Option (List Char)} {w : List Char}
  {rest : List (List Char)}

theorem readConfigFile_of_valued (h : FileValued infile) (Router : CRouter) :
    (init Router).readConfigFile infile =
      .ok { init Router with vConfig := fileValues infile } := by
  have hread : readLines [] (inInt (vReadBuffer infile)) = .ok (fileValues infile) := by
    rw [readLines_of_valued h, List.nil_append, fileValues]
  exact congrArg (Except.map fun vConfig => { init Router with vConfig := vConfig }) hread

theorem readConfigFile_of_not_valued (h : ¬ FileValued infile) (Router : MainRouter) :
    Router.readConfigFile infile = .error .outOfRange := by
  unfold readConfigFile
  rw [readLines_of_not_valued h]
  rfl

/-! ### One value -/

/-- The values `rest` are still to be read. -/
structure Reading (Router : MainRouter) (rest : List (List Char)) : Prop where
  le : rest.length ≤ (inInt Router.vConfig).length
  iConfigReg : Router.iConfigReg = toInt ((inInt Router.vConfig).length - rest.length + 1 : ℕ)
  drop : (inInt Router.vConfig).drop ((inInt Router.vConfig).length - rest.length) = rest

theorem Reading.start (Router : CRouter) (vConfig : List (List Char)) :
    Reading { init Router with vConfig := vConfig } (inInt vConfig) where
  le := Nat.le_refl _
  iConfigReg := by
    have hone : toInt (1 : ℕ) = 1 := toInt_of_lt (by omega)
    rw [Nat.sub_self]
    exact hone.symm
  drop := by rw [Nat.sub_self, List.drop_zero]

/-- Neither the values nor the place of the next one. -/
theorem Reading.congr (h : Router.Reading rest) (hreg : Router'.iConfigReg = Router.iConfigReg)
    (hconfig : Router'.vConfig = Router.vConfig) : Router'.Reading rest := by
  constructor
  · rw [hconfig]
    exact h.le
  · rw [hconfig, hreg]
    exact h.iConfigReg
  · rw [hconfig]
    exact h.drop

theorem length_inInt_lt {α : Type*} (l : List α) : (inInt l).length < 2 ^ 31 := by
  have hlen := length_inInt l
  have hlt := toInt_lt l.length
  omega

/-- The next value is read. -/
theorem Reading.nextValue_cons (h : Router.Reading (w :: rest)) :
    Reading { Router with iConfigReg := toInt (Router.iConfigReg + 1) } rest ∧
      Router.iConfigReg ≤ toInt Router.vConfig.length ∧
      Router.nextValue = (stoi w).map fun n =>
        ({ Router with iConfigReg := toInt (Router.iConfigReg + 1) }, n) := by
  have hlt := length_inInt_lt Router.vConfig
  have hle := h.le
  rw [List.length_cons] at hle
  obtain ⟨n, hn⟩ := Nat.exists_eq_add_of_le' hle
  have hsub : (inInt Router.vConfig).length - (w :: rest).length = n := by
    rw [List.length_cons]
    omega
  have hreg : Router.iConfigReg = (n + 1 : ℕ) := by
    rw [h.iConfigReg, hsub]
    exact toInt_of_lt (by omega)
  have hdrop : (inInt Router.vConfig).drop n = w :: rest := by
    rw [← hsub]
    exact h.drop
  have hsize : toInt Router.vConfig.length = (inInt Router.vConfig).length :=
    length_inInt_of_cons fun hnil => by rw [hnil] at hle; cases hle
  have hget : Router.vConfig[n]? = some w := by
    have hhead : (inInt Router.vConfig)[n]? = some w := by
      rw [← List.head?_drop, hdrop]
      rfl
    have hn' : n < (toInt Router.vConfig.length).toNat := by omega
    rwa [inInt, List.getElem?_take_of_lt hn'] at hhead
  have hbound : Router.iConfigReg ≤ toInt Router.vConfig.length := by
    rw [hreg, hsize]
    omega
  refine ⟨⟨Nat.le_of_succ_le hle, ?_, ?_⟩, hbound, ?_⟩
  · have hnext : (inInt Router.vConfig).length - rest.length + 1 = n + 1 + 1 := by omega
    change toInt (Router.iConfigReg + 1) = _
    rw [hnext, hreg]
    rfl
  · have hnext : (inInt Router.vConfig).length - rest.length = n + 1 := by omega
    change (inInt Router.vConfig).drop _ = _
    rw [hnext, ← List.tail_drop, hdrop]
    rfl
  · have hindex : Router.iConfigReg - 1 = n := by omega
    have hpos : (0 : ℤ) ≤ n := by omega
    unfold nextValue nextConfig
    rw [if_neg (not_lt.2 hbound)]
    dsimp only
    unfold configAt
    rw [hindex, if_pos hpos, Int.toNat_natCast, hget]
    rfl

/-- Behind the last value there is none. -/
theorem Reading.nextValue_nil (h : Router.Reading []) :
    Router.nextValue = .error .outOfRange := by
  have hlt := length_inInt_lt Router.vConfig
  have hlen := length_inInt Router.vConfig
  have hreg := h.iConfigReg
  rw [List.length_nil, Nat.sub_zero] at hreg
  unfold nextValue nextConfig configAt
  by_cases hmax : (inInt Router.vConfig).length + 1 < 2 ^ 31
  · rw [toInt_of_lt hmax] at hreg
    rw [if_pos (by omega)]
    rfl
  · -- the counter has wrapped around
    have hwrap : toInt ((inInt Router.vConfig).length + 1 : ℕ) = -2147483648 := by
      have heq : (inInt Router.vConfig).length + 1 = 2 ^ 31 := by omega
      rw [heq, toInt_two_pow]
    rw [hwrap] at hreg
    rw [if_neg (by omega)]
    dsimp only
    rw [if_neg (by omega)]
    rfl

/-! ### Any number of calls -/

/-- Values that are read one after the other, each stored in its field. -/
def readFields : List (MainRouter → ℤ → MainRouter) → MainRouter →
    Except ConfigError MainRouter
  | [], Router => .ok Router
  | field :: fields, Router =>
      Router.nextValue.bind fun p => readFields fields (field p.1 p.2)

/-- The fields that a stage reads behind its number. -/
def fields (iStage : ℤ) : List (MainRouter → ℤ → MainRouter) :=
  if iStage ≤ 3 then [fun Router n => { Router with iRouteNum := n }]
  else if iStage ≤ 10 then
    [fun Router n => { Router with iRouteNum := n },
      fun Router n => { Router with iDropAfter := n }]
  else []

theorem readFields_singleton (field : MainRouter → ℤ → MainRouter) (Router : MainRouter) :
    readFields [field] Router = Router.nextValue.map fun p => field p.1 p.2 := by
  simp only [readFields]
  cases Router.nextValue <;> rfl

theorem stageFields_eq (Router : MainRouter) (iStage : ℤ) :
    Router.stageFields iStage = readFields (fields iStage) Router := by
  unfold stageFields fields
  by_cases h3 : iStage ≤ 3
  · have hcase : stageToCase iStage = 0 := if_pos h3
    rw [if_pos hcase, if_pos h3, readFields_singleton]
  · by_cases h10 : iStage ≤ 10
    · have hcase : stageToCase iStage = 1 := by
        rw [stageToCase, if_neg h3, if_pos ⟨by omega, h10⟩]
      have hne : stageToCase iStage ≠ 0 := by rw [hcase]; decide
      rw [if_neg hne, if_pos hcase, if_neg h3, if_pos h10, readFields]
      simp only [readFields_singleton]
    · have hcase : stageToCase iStage = -1 := by
        rw [stageToCase, if_neg h3, if_neg fun h => h10 h.2]
      have hne : stageToCase iStage ≠ 0 := by rw [hcase]; decide
      have hne' : stageToCase iStage ≠ 1 := by rw [hcase]; decide
      rw [if_neg hne, if_neg hne', if_neg h3, if_neg h10, readFields]

/-- A value that is stored in a field does not change what is still to be read. -/
theorem field_keeps {iStage : ℤ} {field : MainRouter → ℤ → MainRouter}
    (hfield : field ∈ fields iStage) (Router : MainRouter) (n : ℤ) :
    (field Router n).iConfigReg = Router.iConfigReg ∧
      (field Router n).vConfig = Router.vConfig ∧ (field Router n).iStage = Router.iStage := by
  unfold fields at hfield
  split_ifs at hfield
  · obtain rfl := List.mem_singleton.1 hfield
    exact ⟨rfl, rfl, rfl⟩
  · rcases List.mem_cons.1 hfield with rfl | hfield
    · exact ⟨rfl, rfl, rfl⟩
    · obtain rfl := List.mem_singleton.1 hfield
      exact ⟨rfl, rfl, rfl⟩
  · cases hfield

/-- No access outside of a container in the call, nor in any calls of `stageEngine`
behind it. -/
def Safe (x : Except ConfigError MainRouter) : Prop :=
  ∀ k, x.bind (engines k) ≠ .error .outOfRange

theorem not_safe_outOfRange : ¬ Safe (.error .outOfRange) := fun h => h 0 rfl

theorem safe_thrown : Safe (.error .thrown) := fun _ h => by cases h

theorem stoi_ne_outOfRange (w : List Char) : stoi w ≠ .error .outOfRange := by
  unfold stoi
  dsimp only
  split_ifs
  · exact fun h => by cases h
  · exact fun h => by cases h

theorem ok_bind (f : MainRouter → Except ConfigError MainRouter) (Router : MainRouter) :
    (Except.ok Router).bind f = f Router := rfl

theorem safe_ok_iff : Safe (.ok Router) ↔ Safe (Router.stageEngine.map Prod.fst) := by
  have hstep : ∀ k, engines (k + 1) Router =
      (Router.stageEngine.map Prod.fst).bind (engines k) := by
    intro k
    rw [engines]
    cases Router.stageEngine <;> rfl
  constructor
  · intro h k
    rw [← hstep, ← ok_bind (engines (k + 1))]
    exact h (k + 1)
  · rintro h (_ | k)
    · exact fun heq => by cases heq
    · rw [ok_bind, hstep]
      exact h k

/-- A call of `stageEngine` reads a number and the fields of its stage. -/
theorem Reading.stageEngine_cons (h : Router.Reading (w :: rest)) :
    Router.stageEngine = Router.nextValue.bind fun p =>
      (readFields (fields p.2) { p.1 with iStage := p.2 }).map fun Router =>
        (Router, Router.iConfigReg) := by
  obtain ⟨-, hle, -⟩ := h.nextValue_cons
  unfold stageEngine
  rw [if_pos hle]
  simp only [stageFields_eq]

theorem Reading.fst_stageEngine (h : Router.Reading (w :: rest)) :
    Router.stageEngine.map Prod.fst = Router.nextValue.bind fun p =>
      readFields (fields p.2) { p.1 with iStage := p.2 } := by
  rw [h.stageEngine_cons]
  cases Router.nextValue with
  | error e => rfl
  | ok p =>
      change ((readFields (fields p.2) { p.1 with iStage := p.2 }).map _).map Prod.fst =
        readFields (fields p.2) { p.1 with iStage := p.2 }
      cases readFields (fields p.2) { p.1 with iStage := p.2 } <;> rfl

/-- Behind the last value `stageEngine` returns 0 and changes nothing, if the counter has
not wrapped around. -/
theorem Reading.stageEngine_nil (h : Router.Reading []) :
    Router.stageEngine = if (inInt Router.vConfig).length + 1 < 2 ^ 31 then .ok (Router, 0)
      else .error .outOfRange := by
  have hlen := length_inInt Router.vConfig
  have hlt := length_inInt_lt Router.vConfig
  have hreg := h.iConfigReg
  rw [List.length_nil, Nat.sub_zero] at hreg
  unfold stageEngine
  split_ifs with hle hmax hmax
  · rw [toInt_of_lt hmax] at hreg
    omega
  · rw [h.nextValue_nil]
    rfl
  · rfl
  · have hwrap := toInt_two_pow
    have heq : (inInt Router.vConfig).length + 1 = 2 ^ 31 := by omega
    rw [heq, hwrap] at hreg
    omega

/-- Read from the left, with `due` values of the current stage still to come, the words
end between two stages, or have a number that `stoi` rejects. The counter starts at 1,
and counts one more for every word. -/
def Complete (size : ℕ) : ℕ → List (List Char) → Prop
  | 0, [] => size + 1 < 2 ^ 31
  | _ + 1, [] => False
  | 0, w :: rest => ∀ iStage, stoi w = .ok iStage → Complete size (fields iStage).length rest
  | due + 1, w :: rest => ∀ n, stoi w = .ok n → Complete size due rest

/-- A value that is read decides how the calls go on. -/
theorem Reading.safe_bind_iff (h : Router.Reading (w :: rest))
    (f : MainRouter × ℤ → Except ConfigError MainRouter) :
    Safe (Router.nextValue.bind f) ↔ ∀ n, stoi w = .ok n →
      Safe (f ({ Router with iConfigReg := toInt (Router.iConfigReg + 1) }, n)) := by
  obtain ⟨-, -, hvalue⟩ := h.nextValue_cons
  rw [hvalue]
  cases hw : stoi w with
  | error e =>
      cases e with
      | outOfRange => exact absurd hw (stoi_ne_outOfRange w)
      | thrown => exact iff_of_true safe_thrown fun n hn => by cases hn
  | ok n =>
      constructor
      · intro hsafe m hm
        rw [← Except.ok.inj hm]
        exact hsafe
      · exact fun hall => hall n rfl

/-- The calls are safe exactly when the values are complete: by induction on the values. -/
theorem Reading.safe_iff {size : ℕ} (h : Router.Reading rest)
    (hsize : (inInt Router.vConfig).length = size) (iStage : ℤ)
    (due : List (MainRouter → ℤ → MainRouter)) (hdue : ∀ field ∈ due, field ∈ fields iStage) :
    Safe (readFields due Router) ↔ Complete size due.length rest := by
  induction rest generalizing Router iStage due with
  | nil =>
      subst hsize
      cases due with
      | nil =>
          rw [readFields, List.length_nil, Complete]
          by_cases hmax : (inInt Router.vConfig).length + 1 < 2 ^ 31
          · have hstop : Router.stageEngine = .ok (Router, 0) := by
              rw [h.stageEngine_nil, if_pos hmax]
            have hstay : ∀ k, engines k Router = .ok Router := by
              intro k
              induction k with
              | zero => rfl
              | succ k ih =>
                  rw [engines, hstop]
                  exact ih
            refine iff_of_true (fun k heq => ?_) hmax
            rw [ok_bind, hstay] at heq
            cases heq
          · refine iff_of_false (fun hsafe => ?_) hmax
            rw [safe_ok_iff, h.stageEngine_nil, if_neg hmax] at hsafe
            exact not_safe_outOfRange hsafe
      | cons field due =>
          rw [readFields, h.nextValue_nil, List.length_cons, Complete]
          exact iff_of_false not_safe_outOfRange not_false
  | cons w rest ih =>
      obtain ⟨hrest, -, -⟩ := h.nextValue_cons
      cases due with
      | nil =>
          rw [readFields, safe_ok_iff, h.fst_stageEngine, h.safe_bind_iff, List.length_nil,
            Complete]
          refine forall₂_congr fun n _ => ?_
          have hnext : Reading { Router with
              iConfigReg := toInt (Router.iConfigReg + 1), iStage := n } rest :=
            hrest.congr rfl rfl
          exact ih hnext hsize n (fields n) fun _ hf => hf
      | cons field due =>
          rw [readFields, h.safe_bind_iff, List.length_cons, Complete]
          refine forall₂_congr fun n _ => ?_
          obtain ⟨hreg, hconfig, -⟩ := field_keeps (hdue field List.mem_cons_self)
            { Router with iConfigReg := toInt (Router.iConfigReg + 1) } n
          refine ih (hrest.congr hreg hconfig) ?_ iStage due
            fun f hf => hdue f (List.mem_cons_of_mem field hf)
          rw [hconfig]
          exact hsize

/-- The calls behind a file that has been read. -/
theorem safe_readConfigFile_iff (h : FileValued infile) (Router : CRouter) :
    InBounds (init Router) infile ↔
      Complete (inInt (fileValues infile)).length 0 (inInt (fileValues infile)) := by
  have hread : InBounds (init Router) infile ↔
      Safe (readFields [] { init Router with vConfig := fileValues infile }) := by
    unfold InBounds Safe
    rw [readConfigFile_of_valued h]
    exact Iff.rfl
  rw [hread]
  exact (Reading.start Router (fileValues infile)).safe_iff rfl 0 [] fun _ hf => by cases hf

theorem not_inBounds_of_not_valued (h : ¬ FileValued infile) (Router : MainRouter) :
    ¬ InBounds Router infile := by
  intro hin
  refine hin 0 ?_
  rw [readConfigFile_of_not_valued h]
  rfl

/-- Reading the file and calling `stageEngine` any number of times stays inside of the
containers exactly when every keyword is followed by a value on its line and the values
do not end inside of a stage, as far as the file is looked at. -/
theorem inBounds_iff (Router : CRouter) (infile : Option (List Char)) :
    InBounds (init Router) infile ↔
      FileValued infile ∧
        Complete (inInt (fileValues infile)).length 0 (inInt (fileValues infile)) := by
  by_cases hvalued : FileValued infile
  · rw [safe_readConfigFile_iff hvalued, and_iff_right hvalued]
  · exact iff_of_false (not_inBounds_of_not_valued hvalued _) fun h => hvalued h.1

/-- A router that has just been made, in `main`. -/
def fresh : MainRouter := .init (.init 0 (.none _ _) (.none _ _) (.none _ _))

/-- A keyword without a value, and a stage without a value for `drop_after`. -/
theorem not_inBounds_cut_short :
    ¬ InBounds fresh (some "stage".toList) ∧
      ¬ InBounds fresh (some "stage 5\nnum_routers 2".toList) := by
  constructor
  · refine not_inBounds_of_not_valued (fun h => ?_) fresh
    have hline : "stage".toList ∈ inInt (vReadBuffer (some "stage".toList)) := by decide +kernel
    have hwords : words (inInt "stage".toList) = ["stage".toList] := by decide +kernel
    have hvalued := h _ hline
    rw [hwords] at hvalued
    exact valued_singleton (Or.inl rfl) hvalued
  · intro hin
    by_cases hvalued : FileValued (some "stage 5\nnum_routers 2".toList)
    · have hvalues : inInt (fileValues (some "stage 5\nnum_routers 2".toList)) =
          ["5".toList, "2".toList] := by decide +kernel
      have hstage : stoi "5".toList = .ok 5 := by decide +kernel
      have hrouters : stoi "2".toList = .ok 2 := by decide +kernel
      have hcomplete := (safe_readConfigFile_iff hvalued _).1 hin
      rw [hvalues] at hcomplete
      exact hcomplete 5 hstage 2 hrouters
    · exact not_inBounds_of_not_valued hvalued fresh hin

end MainRouter
