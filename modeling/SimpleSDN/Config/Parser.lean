import Mathlib.Algebra.Group.Nat.Defs
import Mathlib.Data.Int.Notation
import SimpleSDN.Text.Runs

/-!
# Words of a line

`parser` goes over a line once and keeps where the word it is in begins and ends.
Strings are lists of characters, and their sizes are converted to `int` before the
loops compare an index with them, so of a string of `2 ^ 31` characters or more only
a part is looked at, or nothing (`inInt`). The words that are found are the maximal
runs of word characters of the part before the first `#`, exactly when there is no
such character behind that part (`parser_exact_iff`).
-/

/-- The conversion to `int`. -/
@[irreducible] def toInt (n : ℤ) : ℤ := Int.bmod n 4294967296

/-- The elements of a container that a loop to `(int)size()` looks at. -/
def inInt {α : Type*} (l : List α) : List α := l.take (toInt l.length).toNat

/-- The characters that words are made of. -/
def isWord (c : Char) : Bool :=
  ('A' ≤ c && c ≤ 'Z') || ('a' ≤ c && c ≤ 'z') || ('0' ≤ c && c ≤ '9') || c == '_'

/-- The variables of `parser`. -/
structure ParserState where
  iCount : ℕ
  wordHeadFoundFlag : Bool
  iWordHead : ℕ
  iWordTail : ℕ
  output : List (List Char)

namespace ParserState

/-- A character of a word begins it or goes on with it. -/
def mark (s : ParserState) (i : ℕ) (c : Char) : ParserState :=
  if c = ' ' ∨ c = '\t' then s
  else if c = '#' then s
  else if isWord c then
    if s.wordHeadFoundFlag = false then
      { s with iWordHead := i, iWordTail := i, wordHeadFoundFlag := true }
    else { s with iWordTail := i }
  else s

/-- The word that has been found. -/
def word (s : ParserState) (target : List Char) : List Char :=
  if s.iWordHead = s.iWordTail then target[s.iWordHead]?.toList
  else (target.drop s.iWordHead).take (s.iWordTail + 1 - s.iWordHead)

/-- A word ends before a character that is not its tail, and at the last index. -/
def emit (s : ParserState) (target : List Char) (i : ℕ) : ParserState :=
  if s.wordHeadFoundFlag = true then
    if i ≠ s.iWordTail ∨ (i : ℤ) = toInt target.length - 1 then
      { s with
        output := s.output ++ [s.word target]
        iCount := s.iCount + 1
        wordHeadFoundFlag := false }
    else s
  else s

/-- The loop from the index `i` on, over the characters that are left. -/
def loop (target : List Char) : ℕ → List Char → ParserState → ParserState
  | _, [], s => s
  | i, c :: rest, s =>
      let s := (s.mark i c).emit target i
      -- `bEndFlag`
      if c = '#' then s else loop target (i + 1) rest s

end ParserState

/-- `parser`: the output and the number it returns. -/
def parser (target : List Char) (output : List (List Char)) : List (List Char) × ℕ :=
  let s := ParserState.loop target 0 (inInt target) ⟨0, false, 0, 0, output⟩
  (s.output, s.iCount)

/-- The part of a line before the first `#`. -/
def uncommented (target : List Char) : List Char := target.takeWhile fun c => c != '#'

/-- The words of a line. -/
def words (target : List Char) : List (List Char) := runs isWord (uncommented target)

/-! ### What a loop to `(int)size()` looks at -/

theorem toInt_of_lt {n : ℕ} (h : n < 2 ^ 31) : toInt n = n := by
  unfold toInt
  rw [Int.bmod_def]
  omega

theorem toInt_two_pow : toInt (2 ^ 31 : ℕ) = -2147483648 := by decide +kernel

theorem toInt_le (n : ℕ) : toInt n ≤ n := by
  unfold toInt
  rw [Int.bmod_def]
  omega

theorem toInt_lt (n : ℕ) : toInt n < 2147483648 := by
  unfold toInt
  rw [Int.bmod_def]
  omega

theorem inInt_of_lt {α : Type*} {l : List α} (h : l.length < 2 ^ 31) : inInt l = l := by
  rw [inInt, toInt_of_lt h, Int.toNat_natCast, List.take_length]

theorem length_inInt {α : Type*} (l : List α) :
    ((inInt l).length : ℤ) = max 0 (toInt l.length) := by
  have hle := toInt_le l.length
  rw [inInt, List.length_take]
  omega

/-! ### The loop -/

namespace ParserState

variable {target pre w rest : List Char} {s : ParserState} {i : ℕ} {c : Char}

/-- The word `w` has been found behind `pre`, and may go on. -/
structure Pending (s : ParserState) (pre w : List Char) : Prop where
  flag : s.wordHeadFoundFlag = true ↔ w ≠ []
  head : w ≠ [] → s.iWordHead = pre.length
  tail : w ≠ [] → s.iWordTail + 1 = pre.length + w.length
  word : ∀ c ∈ w, isWord c = true

/-- The words `ws` have been appended to the output and counted. -/
structure Adds (s : ParserState) (ws : List (List Char)) (s' : ParserState) : Prop where
  output : s'.output = s.output ++ ws
  iCount : s'.iCount = s.iCount + ws.length

theorem Adds.refl (s : ParserState) : s.Adds [] s := ⟨(List.append_nil _).symm, rfl⟩

theorem Adds.trans {s' s'' : ParserState} {ws ws' : List (List Char)} (h : s.Adds ws s')
    (h' : s'.Adds ws' s'') : s.Adds (ws ++ ws') s'' := by
  constructor
  · rw [h'.output, h.output, List.append_assoc]
  · rw [h'.iCount, h.iCount, List.length_append, Nat.add_assoc]

theorem Pending.nil_of_flag (h : s.wordHeadFoundFlag = false) : s.Pending pre [] where
  flag := by rw [h]; exact iff_of_false Bool.false_ne_true fun hnil => hnil rfl
  head hnil := absurd rfl hnil
  tail hnil := absurd rfl hnil
  word _ hc := by cases hc

/-! #### One character -/

@[simp] theorem mark_output (s : ParserState) (i : ℕ) (c : Char) :
    (s.mark i c).output = s.output := by
  unfold mark
  split_ifs <;> rfl

@[simp] theorem mark_iCount (s : ParserState) (i : ℕ) (c : Char) :
    (s.mark i c).iCount = s.iCount := by
  unfold mark
  split_ifs <;> rfl

theorem mark_of_not_isWord (h : isWord c = false) : s.mark i c = s := by
  unfold mark
  split_ifs with h1 h2 h3 h4
  · rfl
  · rfl
  · rw [h3] at h
    cases h
  · rw [h3] at h
    cases h
  · rfl

theorem mark_of_isWord (h : isWord c = true) :
    s.mark i c = if s.wordHeadFoundFlag = false then
      { s with iWordHead := i, iWordTail := i, wordHeadFoundFlag := true }
    else { s with iWordTail := i } := by
  have hspace : ¬ (c = ' ' ∨ c = '\t') := by
    rintro (rfl | rfl)
    · exact absurd h (by decide)
    · exact absurd h (by decide)
  have hhash : ¬ c = '#' := by
    rintro rfl
    exact absurd h (by decide)
  rw [mark, if_neg hspace, if_neg hhash, if_pos h]

/-- A character of a word is added to the pending one, and is its tail. -/
theorem Pending.mark (h : s.Pending pre w) (hi : i = pre.length + w.length)
    (hc : isWord c = true) :
    (s.mark i c).Pending pre (w ++ [c]) ∧ (s.mark i c).iWordTail = i := by
  have hne : w ++ [c] ≠ [] := by simp
  have hword : ∀ d ∈ w ++ [c], isWord d = true := by
    intro d hd
    rcases List.mem_append.1 hd with hd | hd
    · exact h.word d hd
    · rwa [List.mem_singleton.1 hd]
  have hlen : (w ++ [c]).length = w.length + 1 := List.length_append
  rw [mark_of_isWord hc]
  by_cases hw : w = []
  · have hflag : s.wordHeadFoundFlag = false := by
      rw [← Bool.not_eq_true, h.flag]
      exact not_not_intro hw
    subst hw
    rw [if_pos hflag]
    exact ⟨⟨iff_of_true rfl hne, fun _ => hi, fun _ => by simp [hi], hword⟩, rfl⟩
  · have hflag : ¬ s.wordHeadFoundFlag = false := by
      rw [h.flag.2 hw]
      exact Bool.noConfusion
    rw [if_neg hflag]
    refine ⟨⟨iff_of_true (h.flag.2 hw) hne, fun _ => h.head hw, fun _ => ?_, hword⟩, rfl⟩
    change i + 1 = _
    omega

theorem adds_mark (s : ParserState) (i : ℕ) (c : Char) : s.Adds [] (s.mark i c) :=
  ⟨by rw [mark_output, List.append_nil], mark_iCount s i c⟩

/-- Before the last index a character of a word ends nothing. -/
theorem Pending.emit_mark (h : s.Pending pre w) (hi : i = pre.length + w.length)
    (hc : isWord c = true) (hlast : (i : ℤ) ≠ toInt target.length - 1) :
    (s.mark i c).emit target i = s.mark i c := by
  have hstay : ¬ (i ≠ (s.mark i c).iWordTail ∨ (i : ℤ) = toInt target.length - 1) := by
    rw [(h.mark hi hc).2]
    exact not_or.2 ⟨not_not_intro rfl, hlast⟩
  rw [ParserState.emit, if_neg hstay, ite_self]

/-- The two ways to copy a word agree. -/
theorem Pending.word_eq (h : s.Pending pre w) (hw : w ≠ []) (rest : List Char) :
    s.word (pre ++ w ++ rest) = w := by
  have hhead := h.head hw
  have htail := h.tail hw
  have hdrop : (pre ++ w ++ rest).drop pre.length = w ++ rest := by
    rw [List.append_assoc, List.drop_left]
  unfold ParserState.word
  split_ifs with heq
  · obtain ⟨c, rfl⟩ := List.length_eq_one_iff.1 (show w.length = 1 by omega)
    rw [hhead, ← List.head?_drop, hdrop]
    rfl
  · have hlen : s.iWordTail + 1 - s.iWordHead = w.length := by omega
    rw [hlen, hhead, hdrop, List.take_left]

/-- Behind a word and at the last index nothing stays pending. -/
theorem Pending.emit (h : s.Pending pre w) (ht : target = pre ++ w ++ rest)
    (hend : pre.length + w.length ≤ i ∨ (i : ℤ) = toInt target.length - 1) :
    (s.emit target i).wordHeadFoundFlag = false ∧
      s.Adds (runs isWord w) (s.emit target i) := by
  by_cases hw : w = []
  · have hflag : ¬ s.wordHeadFoundFlag = true := fun hflag => h.flag.1 hflag hw
    rw [ParserState.emit, if_neg hflag, hw, runs_nil]
    exact ⟨Bool.eq_false_iff.2 hflag, Adds.refl s⟩
  · have htail := h.tail hw
    have hcond : i ≠ s.iWordTail ∨ (i : ℤ) = toInt target.length - 1 :=
      hend.imp_left fun hle => by omega
    rw [ParserState.emit, if_pos (h.flag.2 hw), if_pos hcond, ht, h.word_eq hw rest,
      runs_of_forall hw h.word]
    exact ⟨rfl, rfl, rfl⟩

/-! #### The whole line -/

theorem uncommented_cons (hc : c ≠ '#') :
    uncommented (c :: rest) = c :: uncommented rest :=
  List.takeWhile_cons_of_pos (bne_iff_ne.2 hc)

/-- The loop appends the runs that begin in the word that is pending and in what is left
of the line. -/
theorem loop_adds (rest beyond : List Char) (pre w : List Char) (s : ParserState)
    (ht : target = pre ++ w ++ (rest ++ beyond))
    (hsize : toInt target.length = pre.length + w.length + rest.length)
    (h : s.Pending pre w) (hlast : rest = [] → w = []) :
    s.Adds (runs isWord (w ++ uncommented rest))
      (loop target (pre.length + w.length) rest s) := by
  induction rest generalizing pre w s with
  | nil =>
      rw [hlast rfl]
      exact Adds.refl s
  | cons c rest ih =>
      rw [List.length_cons] at hsize
      unfold loop
      by_cases hc : isWord c = true
      · have hhash : c ≠ '#' := by
          rintro rfl
          exact absurd hc (by decide)
        have hpending := (h.mark rfl hc).1
        have hmark := adds_mark s (pre.length + w.length) c
        have ht' : target = pre ++ (w ++ [c]) ++ (rest ++ beyond) := by
          rw [ht]
          simp
        have hlen : (w ++ [c]).length = w.length + 1 := List.length_append
        have hpos : pre.length + w.length + 1 = pre.length + (w ++ [c]).length := by omega
        have hsnoc : w ++ c :: uncommented rest = (w ++ [c]) ++ uncommented rest := by simp
        rw [if_neg hhash, uncommented_cons hhash, hsnoc, hpos]
        cases rest with
        | nil =>
            -- the last index of the line
            rw [List.length_nil] at hsize
            obtain ⟨-, hadds⟩ := hpending.emit ht' (i := pre.length + w.length) (Or.inr (by omega))
            rw [uncommented, List.takeWhile_nil, List.append_nil]
            exact hmark.trans hadds
        | cons d rest =>
            rw [List.length_cons] at hsize ih
            rw [h.emit_mark rfl hc (by omega)]
            refine hmark.trans (ih pre (w ++ [c]) _ ht' (by omega) hpending fun hnil => ?_)
            cases hnil
      · rw [Bool.not_eq_true] at hc
        rw [mark_of_not_isWord hc]
        obtain ⟨hflag, hadds⟩ := h.emit ht (i := pre.length + w.length) (Or.inl (Nat.le_refl _))
        by_cases hhash : c = '#'
        · rw [if_pos hhash, hhash]
          change s.Adds (runs isWord (w ++ [])) _
          rwa [List.append_nil]
        · have ht' : target = (pre ++ w ++ [c]) ++ [] ++ (rest ++ beyond) := by
            rw [ht]
            simp
          have hlen : (pre ++ w ++ [c]).length + ([] : List Char).length =
              pre.length + w.length + 1 := by
            rw [List.length_append, List.length_append]
            rfl
          rw [if_neg hhash, uncommented_cons hhash, runs_append_cons hc, ← hlen]
          exact hadds.trans (ih (pre ++ w ++ [c]) [] _ ht' (by omega)
            (Pending.nil_of_flag hflag) fun _ => rfl)

end ParserState

theorem length_inInt_of_cons {α : Type*} {l : List α} (h : inInt l ≠ []) :
    toInt l.length = (inInt l).length := by
  have hlen := length_inInt l
  have hpos : 0 < (inInt l).length := List.length_pos_iff.2 h
  omega

/-- `parser` appends the runs of the part of the line that it looks at. -/
theorem parser_eq (target : List Char) (output : List (List Char)) :
    parser target output = (output ++ words (inInt target), (words (inInt target)).length) := by
  have htarget : target =
      [] ++ [] ++ (inInt target ++ target.drop (toInt target.length).toNat) := by
    rw [List.append_nil, List.nil_append, inInt, List.take_append_drop]
  have hadds : ParserState.Adds ⟨0, false, 0, 0, output⟩ (words (inInt target))
      (ParserState.loop target 0 (inInt target) ⟨0, false, 0, 0, output⟩) := by
    by_cases hnil : inInt target = []
    · rw [hnil]
      exact ParserState.Adds.refl _
    · have hsize := length_inInt_of_cons hnil
      have hsize' : toInt target.length =
          ([] : List Char).length + ([] : List Char).length + (inInt target).length := by
        rw [hsize, List.length_nil]
        omega
      have hloop := ParserState.loop_adds (inInt target) _ [] [] ⟨0, false, 0, 0, output⟩ htarget
        hsize' (ParserState.Pending.nil_of_flag rfl) fun _ => rfl
      rwa [List.nil_append, List.length_nil, Nat.add_zero] at hloop
  unfold parser
  dsimp only
  rw [hadds.output, hadds.iCount, Nat.zero_add]

/-- What `parser` appends is exact: all maximal runs of word characters before the
first `#`, in order, and their number. -/
def ParserExact (target : List Char) (output : List (List Char)) : Prop :=
  ∃ ws, Runs isWord (uncommented target) ws ∧ parser target output = (output ++ ws, ws.length)

theorem uncommented_inInt (target : List Char) :
    uncommented (inInt target) = (uncommented target).take (toInt target.length).toNat := by
  unfold uncommented inInt
  generalize (toInt target.length).toNat = n
  induction target generalizing n with
  | nil => simp
  | cons c target ih =>
      cases n with
      | zero => rfl
      | succ n =>
          rw [List.take_succ_cons]
          by_cases hc : (c != '#') = true
          · rw [List.takeWhile_cons, List.takeWhile_cons, if_pos hc, if_pos hc,
              List.take_succ_cons, ih]
          · rw [List.takeWhile_cons, List.takeWhile_cons, if_neg hc, if_neg hc, List.take_nil]

/-- `parser` is exact exactly when no word character before the first `#` stands where
the size of the line, converted to `int`, does not reach. -/
theorem parser_exact_iff (target : List Char) (output : List (List Char)) :
    ParserExact target output ↔
      ∀ c ∈ (uncommented target).drop (toInt target.length).toNat, isWord c = false := by
  have hcut : uncommented target =
      uncommented (inInt target) ++ (uncommented target).drop (toInt target.length).toNat := by
    rw [uncommented_inInt, List.take_append_drop]
  rw [← runs_append_eq_iff (l := uncommented (inInt target)), ← hcut]
  constructor
  · rintro ⟨ws, hws, heq⟩
    rw [parser_eq, Prod.mk.injEq, List.append_cancel_left_eq] at heq
    rw [← hws.eq_runs, ← heq.1]
    rfl
  · intro heq
    refine ⟨_, runs_iff.2 rfl, ?_⟩
    rw [heq, parser_eq]
    rfl

/-- So it is on every line of fewer than `2 ^ 31` characters. -/
theorem parser_of_lt {target : List Char} (h : target.length < 2 ^ 31)
    (output : List (List Char)) :
    parser target output = (output ++ words target, (words target).length) := by
  rw [parser_eq, inInt_of_lt h]

/-- In a line of `2 ^ 31` letters no word is found. -/
theorem not_parserExact_long : ¬ ParserExact (List.replicate (2 ^ 31) 'a') [] := by
  rintro ⟨ws, hws, heq⟩
  have hsize : toInt (List.replicate (2 ^ 31) 'a').length = -2147483648 := by
    rw [List.length_replicate, toInt_two_pow]
  have hnone : inInt (List.replicate (2 ^ 31) 'a') = [] := by
    rw [inInt, hsize]
    rfl
  rw [parser_eq, hnone, Prod.mk.injEq] at heq
  obtain rfl : ws = [] := heq.1.symm
  have hflat := hws.flatten_eq
  have hkeep : uncommented (List.replicate (2 ^ 31) 'a') = List.replicate (2 ^ 31) 'a' := by
    unfold uncommented
    rw [List.takeWhile_replicate]
    rfl
  rw [hkeep, List.filter_replicate_of_pos (by decide)] at hflat
  have hlen := congrArg List.length hflat
  rw [List.length_replicate] at hlen
  exact absurd hlen (by decide)

example : parser "stage 5 # one".toList [] = (["stage".toList, "5".toList], 2) := by decide +kernel
