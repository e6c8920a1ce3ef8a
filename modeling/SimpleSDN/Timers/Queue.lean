import Mathlib.Data.List.Perm.Basic
import Mathlib.Data.List.Nodup
import Mathlib.Tactic.Ring

/-!
# The timer library

`Timers α` is the class `Timers` with its event queue: a list of events in the
order of their expiry times, each with a handle, a timeout and a callback of
type `α`. All events have type 1, so the type and the tests of it are left out.
The operations take the clock readings they make as arguments; `none` stands for
an overflow of the handle counter and for a pop of an empty queue.

A timer is its handle and its callback. `entries` are the timers of a queue, and
the lemmas say what each operation does to them, up to their order.
-/

/-- `struct timeval`. -/
structure Timeval where
  tvSec : ℤ
  tvUsec : ℤ
deriving DecidableEq

namespace Timeval

/-- `Timeval_Cmp`. -/
def cmp (x y : Timeval) : ℤ :=
  if x.tvSec > y.tvSec then 1
  else if x.tvSec < y.tvSec then -1
  else if x.tvUsec > y.tvUsec then 1
  else if x.tvUsec < y.tvUsec then -1
  else 0

/-- `Timeval_Sub`. -/
def sub (x y : Timeval) : Timeval :=
  if cmp x y < 0 then ⟨0, 0⟩
  else if x.tvUsec < y.tvUsec then ⟨x.tvSec - 1 - y.tvSec, x.tvUsec + 1000000 - y.tvUsec⟩
  else ⟨x.tvSec - y.tvSec, x.tvUsec - y.tvUsec⟩

/-- `Timeval_Addusecs`. A sum of exactly one second is not carried. -/
def addusecs (tv : Timeval) (usecs : ℤ) : Timeval :=
  if tv.tvUsec + usecs > 1000000 then
    ⟨tv.tvSec + (tv.tvUsec + usecs) / 1000000, (tv.tvUsec + usecs) % 1000000⟩
  else ⟨tv.tvSec, tv.tvUsec + usecs⟩

/-- `Timeval_Addmsecs`. -/
def addmsecs (tv : Timeval) (msecs : ℤ) : Timeval :=
  if msecs ≥ 1000 then
    addusecs ⟨tv.tvSec + msecs / 1000, tv.tvUsec⟩ (msecs % 1000 * 1000)
  else addusecs tv (msecs * 1000)

end Timeval

/-- `event`, with the `TimerEntry` that is its payload. -/
structure Event (α : Type) where
  tv : Timeval
  hdl : ℤ
  timeout : ℤ
  cb : α

/-- `Timers`. -/
structure Timers (α : Type) where
  nextHandle : ℤ
  eq : List (Event α)

/-- `Eq_Add`: before the first event that expires no earlier. -/
def eqAdd {α : Type} (n : Event α) : List (Event α) → List (Event α)
  | [] => [n]
  | ptr :: rest => if n.tv.cmp ptr.tv > 0 then ptr :: eqAdd n rest else n :: ptr :: rest

theorem eqAdd_perm {α : Type} (n : Event α) (q : List (Event α)) :
    (eqAdd n q).Perm (n :: q) := by
  induction q with
  | nil => exact List.Perm.refl _
  | cons ptr rest ih =>
      unfold eqAdd
      split_ifs
      · exact (ih.cons ptr).trans (List.Perm.swap n ptr rest)
      · exact List.Perm.refl _

namespace Timers

variable {α : Type}

/-- `Timers()`. -/
def init : Timers α := ⟨1, []⟩

/-- `MAXVALUE`. -/
def maxValue : ℤ := 0x7ffffff

/-- `NextTimerTime`. -/
def nextTimerTime (T : Timers α) (now : Timeval) : Timeval :=
  match T.eq with
  | [] => ⟨maxValue, 0⟩
  | e :: _ => e.tv.sub now

/-- `AddTimer`. The handle counter is an `int`. -/
def addTimer (T : Timers α) (now : Timeval) (timeout : ℤ) (cb : α) :
    Option (Timers α × ℤ) :=
  if T.nextHandle < 2147483647 then
    some (⟨T.nextHandle + 1, eqAdd ⟨now.addmsecs timeout, T.nextHandle, timeout, cb⟩ T.eq⟩,
      T.nextHandle)
  else none

/-- `RemoveTimer`. -/
def removeTimer (T : Timers α) (hdl : ℤ) : Timers α × Bool :=
  (⟨T.nextHandle, T.eq.eraseP fun e => e.hdl == hdl⟩, T.eq.any fun e => e.hdl == hdl)

/-- `ExecuteNextTimer` with a callback that reschedules itself. -/
def executeNextTimer (T : Timers α) (now : Timeval) : Option (Timers α × α) :=
  match T.eq with
  | [] => none
  | e :: rest => some (⟨T.nextHandle, eqAdd { e with tv := now.addmsecs e.timeout } rest⟩, e.cb)

/-- The timers of the queue. -/
def entries (T : Timers α) : List (ℤ × α) := T.eq.map fun e => (e.hdl, e.cb)

/-- The handles of the timers of the queue. -/
def handles (T : Timers α) : List ℤ := T.eq.map Event.hdl

theorem handles_eq (T : Timers α) : T.handles = T.entries.map Prod.fst := by
  simp [handles, entries]

theorem mem_handles {T : Timers α} {hdl : ℤ} {x : α} (h : (hdl, x) ∈ T.entries) :
    hdl ∈ T.handles := by
  rw [handles_eq]
  exact List.mem_map_of_mem h

/-- When the handles differ, a handle has one timer. -/
theorem eq_of_mem_entries {T : Timers α} (hT : T.handles.Nodup) {hdl : ℤ} {x y : α}
    (hx : (hdl, x) ∈ T.entries) (hy : (hdl, y) ∈ T.entries) : x = y := by
  rw [handles_eq] at hT
  exact congrArg Prod.snd (List.inj_on_of_nodup_map hT hx hy rfl)

theorem of_addTimer {T T' : Timers α} {now : Timeval} {timeout h : ℤ} {cb : α}
    (hadd : T.addTimer now timeout cb = some (T', h)) :
    h = T.nextHandle ∧ T'.nextHandle = T.nextHandle + 1 ∧
      T'.entries.Perm ((h, cb) :: T.entries) := by
  unfold addTimer at hadd
  split_ifs at hadd
  obtain ⟨rfl, rfl⟩ := Prod.mk.inj (Option.some.inj hadd)
  exact ⟨rfl, rfl, (eqAdd_perm _ _).map _⟩

/-- A timer that expires stays in the queue. -/
theorem of_executeNextTimer {T T' : Timers α} {now : Timeval} {cb : α}
    (hexec : T.executeNextTimer now = some (T', cb)) :
    T'.nextHandle = T.nextHandle ∧ T'.entries.Perm T.entries ∧
      ∃ h, (h, cb) ∈ T.entries := by
  unfold executeNextTimer at hexec
  cases hq : T.eq with
  | nil => simp [hq] at hexec
  | cons e rest =>
      rw [hq] at hexec
      obtain ⟨rfl, rfl⟩ := Prod.mk.inj (Option.some.inj hexec)
      refine ⟨rfl, ?_, e.hdl, by simp [entries, hq]⟩
      have := (eqAdd_perm { e with tv := now.addmsecs e.timeout } rest).map
        fun e => (e.hdl, e.cb)
      simpa [entries, hq] using this

/-- When the handles differ, removal takes out the timer with the given handle. -/
theorem mem_entries_removeTimer {T : Timers α} (hT : T.handles.Nodup) (hdl : ℤ)
    (x : ℤ × α) :
    x ∈ (T.removeTimer hdl).1.entries ↔ x ∈ T.entries ∧ x.1 ≠ hdl := by
  have hmap : ∀ q : List (Event α), (q.map Event.hdl).Nodup →
      ∀ y, y ∈ q.eraseP (fun e => e.hdl == hdl) ↔ y ∈ q ∧ y.hdl ≠ hdl := by
    intro q hq y
    induction q with
    | nil => simp
    | cons e rest ih =>
        simp only [List.map_cons, List.nodup_cons] at hq
        by_cases he : e.hdl = hdl
        · have hnot : ∀ y ∈ rest, y.hdl ≠ hdl := fun y hy hyh =>
            hq.1 (List.mem_map.2 ⟨y, hy, hyh.trans he.symm⟩)
          rw [List.eraseP_cons_of_pos (by simpa using he)]
          constructor
          · exact fun hy => ⟨List.mem_cons_of_mem e hy, hnot y hy⟩
          · rintro ⟨hy, hne⟩
            rcases List.mem_cons.1 hy with rfl | hy
            · exact absurd he hne
            · exact hy
        · rw [List.eraseP_cons_of_neg (by simpa using he), List.mem_cons, List.mem_cons,
            ih hq.2]
          constructor
          · rintro (rfl | ⟨hy, hne⟩)
            · exact ⟨Or.inl rfl, he⟩
            · exact ⟨Or.inr hy, hne⟩
          · rintro ⟨rfl | hy, hne⟩
            · exact Or.inl rfl
            · exact Or.inr ⟨hy, hne⟩
  simp only [entries, removeTimer, List.mem_map, hmap T.eq hT]
  constructor
  · rintro ⟨e, ⟨he, hne⟩, rfl⟩
    exact ⟨⟨e, he, rfl⟩, hne⟩
  · rintro ⟨⟨e, he, rfl⟩, hne⟩
    exact ⟨e, ⟨he, hne⟩, rfl⟩

theorem handles_removeTimer_sublist (T : Timers α) (hdl : ℤ) :
    (T.removeTimer hdl).1.handles.Sublist T.handles :=
  (List.eraseP_sublist (l := T.eq)).map _

/-- Several calls of `AddTimer`, with the handles they return. -/
def addTimers (timeout : ℤ) :
    Timers α → (ℕ → Timeval) → List α → Option (Timers α × List ℤ)
  | T, _, [] => some (T, [])
  | T, clock, cb :: cbs =>
      (T.addTimer (clock 0) timeout cb).bind fun (T', h) =>
        (addTimers timeout T' (fun i => clock (i + 1)) cbs).map fun (T'', hs) => (T'', h :: hs)

/-- They return consecutive handles and add one timer each. -/
theorem of_addTimers {timeout : ℤ} {T T' : Timers α} {clock : ℕ → Timeval} {cbs : List α}
    {hs : List ℤ} (hadd : addTimers timeout T clock cbs = some (T', hs)) :
    hs = (List.range cbs.length).map (fun i : ℕ => T.nextHandle + i) ∧
      T'.nextHandle = T.nextHandle + cbs.length ∧
      T'.entries.Perm (hs.zip cbs ++ T.entries) := by
  induction cbs generalizing T clock hs with
  | nil =>
      obtain ⟨rfl, rfl⟩ := Prod.mk.inj (Option.some.inj hadd)
      simp
  | cons cb cbs ih =>
      obtain ⟨⟨T₁, h⟩, hone, hrest⟩ := Option.bind_eq_some_iff.1 hadd
      obtain ⟨⟨T₂, hs₂⟩, hmore, heq⟩ := Option.map_eq_some_iff.1 hrest
      obtain ⟨rfl, rfl⟩ := Prod.mk.inj heq
      obtain ⟨rfl, hnext, hperm⟩ := of_addTimer hone
      obtain ⟨rfl, hnext₂, hperm₂⟩ := ih hmore
      refine ⟨?_, ?_, ?_⟩
      · rw [List.length_cons, List.range_succ_eq_map, hnext]
        simp only [List.map_cons, List.map_map, Nat.cast_zero, add_zero, List.cons.injEq,
          true_and]
        refine List.map_congr_left fun i _ => ?_
        simp only [Function.comp_apply, Nat.succ_eq_add_one]
        push_cast
        ring
      · rw [hnext₂, hnext, List.length_cons]
        push_cast
        ring
      · rw [List.zip_cons_cons, List.cons_append]
        exact hperm₂.trans ((hperm.append_left _).trans List.perm_middle)

theorem length_handles_of_addTimers {timeout : ℤ} {T T' : Timers α} {clock : ℕ → Timeval}
    {cbs : List α} {hs : List ℤ} (hadd : addTimers timeout T clock cbs = some (T', hs)) :
    hs.length = cbs.length := by
  rw [(of_addTimers hadd).1, List.length_map, List.length_range]

/-- The new handles are those that the counter passes. -/
theorem bound_of_addTimers {timeout : ℤ} {T T' : Timers α} {clock : ℕ → Timeval}
    {cbs : List α} {hs : List ℤ} (hadd : addTimers timeout T clock cbs = some (T', hs)) {h : ℤ}
    (hh : h ∈ hs) : T.nextHandle ≤ h ∧ h < T'.nextHandle := by
  obtain ⟨hhs, hnext, -⟩ := of_addTimers hadd
  rw [hhs, List.mem_map] at hh
  obtain ⟨i, hi, rfl⟩ := hh
  rw [hnext]
  have := List.mem_range.1 hi
  omega

theorem nodup_of_addTimers {timeout : ℤ} {T T' : Timers α} {clock : ℕ → Timeval}
    {cbs : List α} {hs : List ℤ} (hadd : addTimers timeout T clock cbs = some (T', hs)) :
    hs.Nodup := by
  rw [(of_addTimers hadd).1]
  exact List.nodup_range.map fun i j hij => by simpa using hij

theorem handles_of_addTimers {timeout : ℤ} {T T' : Timers α} {clock : ℕ → Timeval}
    {cbs : List α} {hs : List ℤ} (hadd : addTimers timeout T clock cbs = some (T', hs)) :
    T'.handles.Perm (hs ++ T.handles) := by
  have hperm := (of_addTimers hadd).2.2.map Prod.fst
  rw [List.map_append, List.map_fst_zip (length_handles_of_addTimers hadd).le] at hperm
  rwa [handles_eq, handles_eq]

theorem addTimers_isSome {timeout : ℤ} {T : Timers α} {clock : ℕ → Timeval} {cbs : List α}
    (h : T.nextHandle + cbs.length ≤ 2147483647) :
    (addTimers timeout T clock cbs).isSome = true := by
  induction cbs generalizing T clock with
  | nil => rfl
  | cons cb cbs ih =>
      rw [List.length_cons] at h
      push_cast at h
      have hone : T.nextHandle < 2147483647 := by omega
      unfold addTimers addTimer
      rw [if_pos hone, Option.bind_some, Option.isSome_map]
      exact ih (by change T.nextHandle + 1 + cbs.length ≤ 2147483647; omega)

end Timers
