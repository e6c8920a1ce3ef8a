import SimpleSDN.Timers.Queue

/-!
# Times in microseconds

`Timeval.usecs` is the time that a `timeval` stands for. A clock reading is
`Normal`: its second field is less than a million. The sums that the timer
library makes may reach a million, where they are not carried. Measured in
microseconds the operations of the library are those on integers, and what
`NextTimerTime` returns is zero exactly when the head of the queue has expired.
-/

namespace Timeval

/-- The time in microseconds. -/
def usecs (tv : Timeval) : ℤ := tv.tvSec * 1000000 + tv.tvUsec

/-- What a clock returns. -/
def Normal (tv : Timeval) : Prop := 0 ≤ tv.tvUsec ∧ tv.tvUsec < 1000000

/-- What the timer library computes. -/
def Carried (tv : Timeval) : Prop := 0 ≤ tv.tvUsec ∧ tv.tvUsec ≤ 1000000

instance (tv : Timeval) : Decidable tv.Normal := inferInstanceAs (Decidable (_ ∧ _))

theorem cmp_neg_iff {x y : Timeval} : x.cmp y < 0 ↔
    x.tvSec < y.tvSec ∨ x.tvSec = y.tvSec ∧ x.tvUsec < y.tvUsec := by
  unfold cmp
  split_ifs <;> omega

theorem cmp_pos_iff {x y : Timeval} : x.cmp y > 0 ↔
    y.tvSec < x.tvSec ∨ y.tvSec = x.tvSec ∧ y.tvUsec < x.tvUsec := by
  unfold cmp
  split_ifs <;> omega

theorem cmp_nonpos_iff {x y : Timeval} : x.cmp y ≤ 0 ↔
    x.tvSec < y.tvSec ∨ x.tvSec = y.tvSec ∧ x.tvUsec ≤ y.tvUsec := by
  unfold cmp
  split_ifs <;> omega

/-- A difference is that of the times, or 0. -/
theorem usecs_sub {x y : Timeval} (hx : x.Carried) (hy : y.Normal) :
    (x.sub y).usecs = max 0 (x.usecs - y.usecs) := by
  unfold Carried at hx
  unfold Normal at hy
  unfold sub
  split_ifs with hlt hborrow
  · rw [cmp_neg_iff] at hlt
    simp only [usecs]
    omega
  · rw [cmp_neg_iff] at hlt
    simp only [usecs]
    omega
  · rw [cmp_neg_iff] at hlt
    simp only [usecs]
    omega

theorem sub_eq_zero_iff {x y : Timeval} (hx : x.Carried) (hy : y.Normal) :
    x.sub y = ⟨0, 0⟩ ↔ x.usecs ≤ y.usecs := by
  unfold Carried at hx
  unfold Normal at hy
  unfold sub usecs
  split_ifs with hlt hborrow
  · rw [cmp_neg_iff] at hlt
    simp only [true_iff]
    omega
  · rw [cmp_neg_iff] at hlt
    simp only [mk.injEq]
    omega
  · rw [cmp_neg_iff] at hlt
    simp only [mk.injEq]
    omega

theorem addusecs_spec {tv : Timeval} {n : ℤ} (h : 0 ≤ tv.tvUsec) (hn : 0 ≤ n) :
    (tv.addusecs n).Carried ∧ (tv.addusecs n).usecs = tv.usecs + n := by
  unfold addusecs Carried usecs
  split_ifs with hcarry
  · dsimp only
    omega
  · dsimp only
    omega

/-- The time after some milliseconds. -/
theorem addmsecs_spec {tv : Timeval} {msecs : ℤ} (h : 0 ≤ tv.tvUsec) (hm : 0 ≤ msecs) :
    (tv.addmsecs msecs).Carried ∧ (tv.addmsecs msecs).usecs = tv.usecs + msecs * 1000 := by
  unfold addmsecs
  split_ifs with hsec
  · have hrest : 0 ≤ msecs % 1000 * 1000 := by omega
    obtain ⟨hcarried, husecs⟩ : (addusecs ⟨tv.tvSec + msecs / 1000, tv.tvUsec⟩
        (msecs % 1000 * 1000)).Carried ∧ _ := addusecs_spec h hrest
    refine ⟨hcarried, husecs.trans ?_⟩
    simp only [usecs]
    omega
  · exact addusecs_spec h (by omega)

end Timeval

namespace Timers

variable {α : Type} {T T' : Timers α}

/-- The head of the queue, if there is one, has expired exactly when 0 is returned. -/
theorem nextTimerTime_eq_zero_iff {now : Timeval} (hT : ∀ e ∈ T.eq, e.tv.Carried)
    (hnow : now.Normal) : T.nextTimerTime now = ⟨0, 0⟩ ↔
      ∃ e ∈ T.eq.head?, e.tv.usecs ≤ now.usecs := by
  unfold nextTimerTime
  cases hq : T.eq with
  | nil => simp [maxValue]
  | cons e rest =>
      have he : e.tv.Carried := hT e (by simp [hq])
      simpa using Timeval.sub_eq_zero_iff he hnow

/-- The head after an event is added: the new event or the old head. -/
theorem head?_eqAdd (n : Event α) (q : List (Event α)) (t : ℤ)
    (hn : n.tv.Carried) (hq : ∀ e ∈ q, e.tv.Carried) :
    (∃ e ∈ (eqAdd n q).head?, e.tv.usecs ≤ t) ↔
      n.tv.usecs ≤ t ∨ ∃ e ∈ q.head?, e.tv.usecs ≤ t := by
  cases q with
  | nil => simp [eqAdd]
  | cons ptr rest =>
      have hptr : ptr.tv.Carried := hq ptr (by simp)
      unfold Timeval.Carried at hn hptr
      unfold eqAdd
      split_ifs with hlater
      all_goals
        rw [Timeval.cmp_pos_iff] at hlater
        simp only [List.head?_cons, Option.mem_def, Option.some.injEq, exists_eq_left',
          Timeval.usecs]
        omega

end Timers
