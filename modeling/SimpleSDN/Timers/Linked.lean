import SimpleSDN.Memory.LinkedList
import SimpleSDN.Timers.Calls

/-!
# The timer library in memory

`LinkedTimers α` is the timer library as it is written: the events are cells that are
linked to one another, and the payload of an event is the address of a `TimerEntry`.
Each function follows the pointers as the source does; one that follows a dangling
pointer has no result. `new` returns an address that is given as an argument and must be
free. `Layout` says that the cells from `head_` on hold a queue, apart from what a call
has taken out of it for the moment, and that nothing else is allocated. Every function
does to the cells what `Timers` does to the queue.
-/

open LinkedList

/-- `event`, without `next_`. -/
structure LinkedEvent where
  tv : Timeval
  type : ℤ
  payload : ℕ

/-- `TimerEntry`. -/
structure TimerEntry (α : Type) where
  hdl : ℤ
  timeout : ℤ
  cb : α

/-- `Timers` with its `EventQueue`, and the memory they use. -/
structure LinkedTimers (α : Type) where
  nextHandle : ℤ
  head : Option ℕ
  events : Memory LinkedEvent
  entries : Std.ExtTreeMap ℕ (TimerEntry α)

namespace LinkedTimers

open Timers (Op Call Reply)

variable {α : Type}

/-- `Timers()`. -/
def init : LinkedTimers α := ⟨1, none, ∅, ∅⟩

/-- A loop over the events takes one turn more than there are events at most. -/
def turns (Q : LinkedTimers α) : ℕ := Q.events.size + 1

/-- `Eq_Add`. -/
protected def eqAdd (Q : LinkedTimers α) (n : ℕ) : Option (LinkedTimers α) :=
  (Q.events[n]?).bind fun c =>
    (walk Q.events (fun _ ptr => some (decide (¬ c.val.tv.cmp ptr.tv > 0))) Q.turns Q.head
      Q.head).bind fun (last, ptr) =>
        if last = ptr then
          (Q.events.setNext n Q.head).map fun events =>
            { Q with events := events, head := some n }
        else
          (Q.events.setNext n ptr).bind fun events => last.bind fun last =>
            (events.setNext last (some n)).map fun events => { Q with events := events }

/-- `Eq_AddAfter`. `next_` is written before it is read. -/
def eqAddAfter (Q : LinkedTimers α) (e : ℕ) (type : ℤ) (payload : ℕ) (now : Timeval)
    (delayMsec : ℤ) : Option (LinkedTimers α) :=
  if e ∈ Q.events then none
  else { Q with
    events := Q.events.insert e ⟨⟨now.addmsecs delayMsec, type, payload⟩, none⟩ }.eqAdd e

/-- `Eq_Pop`. -/
def eqPop (Q : LinkedTimers α) : Option (LinkedTimers α × Option ℕ) :=
  match Q.head with
  | none => some (Q, none)
  | some e => (Q.events[e]?).bind fun c => (Q.events.setNext e none).map fun events =>
      ({ Q with events := events, head := c.next }, some e)

/-- `Eq_FindNextEvent`. -/
def eqFindNextEvent (Q : LinkedTimers α) (type : ℤ) (e : Option ℕ) : Option (Option ℕ) :=
  (walk Q.events (fun _ ev => some (ev.type == type)) Q.turns none e).map Prod.snd

/-- `Eq_FindEvent`. -/
def eqFindEvent (Q : LinkedTimers α) (type : ℤ) : Option (Option ℕ) :=
  Q.eqFindNextEvent type Q.head

/-- `Eq_Remove`. -/
def eqRemove (Q : LinkedTimers α) (e : Option ℕ) : Option (LinkedTimers α × ℤ) :=
  match e with
  | none => some (Q, -1)
  | some e =>
      if Q.head = some e then (Q.events[e]?).map fun c => ({ Q with head := c.next }, 0)
      else
        (Q.head.bind fun pe => Q.events[pe]?).bind fun c =>
          (walk Q.events (fun ce _ => some (ce == e)) Q.turns Q.head c.next).bind fun (pe, ce) =>
            match ce with
            | none => some (Q, -1)
            | some _ => (Q.events[e]?).bind fun c => pe.bind fun pe =>
                (Q.events.setNext pe c.next).map fun events => ({ Q with events := events }, 0)

/-- `AddTimer`, with the addresses of the new `TimerEntry` and of the new event. -/
def addTimer (Q : LinkedTimers α) (entry e : ℕ) (now : Timeval) (timeout : ℤ) (cb : α) :
    Option (LinkedTimers α × ℤ) :=
  if Q.nextHandle < 2147483647 ∧ entry ∉ Q.entries then
    ({ Q with
        nextHandle := Q.nextHandle + 1
        entries := Q.entries.insert entry ⟨Q.nextHandle, timeout, cb⟩ }.eqAddAfter e 1 entry now
      timeout).map fun Q' => (Q', Q.nextHandle)
  else none

/-- The search of `RemoveTimer`: the event with the handle, and its entry. -/
def findTimer (Q : LinkedTimers α) (hdl : ℤ) : ℕ → Option ℕ → Option (Option (ℕ × ℕ))
  | 0, _ => none
  | _ + 1, none => some none
  | turns + 1, some e =>
      (Q.events[e]?).bind fun c => (Q.entries[c.val.payload]?).bind fun entry =>
        if entry.hdl = hdl then some (some (e, c.val.payload))
        else (Q.eqFindNextEvent 1 c.next).bind (Q.findTimer hdl turns)

/-- `RemoveTimer`. -/
def removeTimer (Q : LinkedTimers α) (hdl : ℤ) : Option (LinkedTimers α × Bool) :=
  ((Q.eqFindEvent 1).bind (Q.findTimer hdl Q.turns)).bind fun
    | none => some (Q, false)
    | some (e, entry) => (Q.eqRemove (some e)).bind fun (Q, r) =>
        if r ≠ 0 then none
        else some ({ Q with
          entries := Q.entries.erase entry
          events := Q.events.erase e }, true)

/-- `NextTimerTime`. -/
def nextTimerTime (Q : LinkedTimers α) (now : Timeval) : Option Timeval :=
  match Q.head with
  | none => some ⟨Timers.maxValue, 0⟩
  | some e => (Q.events[e]?).map fun c => c.val.tv.sub now

/-- An operation, with the addresses that `new` returns in it. -/
inductive LinkedOp (α : Type)
  | add (entry e : ℕ) (now : Timeval) (timeout : ℤ) (cb : α)
  | remove (hdl : ℤ)

/-- A call, with the addresses that `new` returns in it. -/
inductive LinkedCall (α : Type)
  | op (o : LinkedOp α)
  | next (now : Timeval)
  | execute (inner : List (LinkedOp α)) (newTimeout : ℤ) (e : ℕ) (now : Timeval)

/-- The operation without the addresses. -/
def LinkedOp.forget : LinkedOp α → Op α
  | .add _ _ now timeout cb => .add now timeout cb
  | .remove hdl => .remove hdl

/-- The call without the addresses. -/
def LinkedCall.forget : LinkedCall α → Call α
  | .op o => .op o.forget
  | .next now => .next now
  | .execute inner newTimeout _ now => .execute (inner.map LinkedOp.forget) newTimeout now

/-- `AddTimer` or `RemoveTimer`. -/
def op (Q : LinkedTimers α) : LinkedOp α → Option (LinkedTimers α × Reply α)
  | .add entry e now timeout cb =>
      (Q.addTimer entry e now timeout cb).map fun (Q, hdl) => (Q, .handle hdl cb)
  | .remove hdl => (Q.removeTimer hdl).map fun (Q, found) => (Q, .removed hdl found)

/-- What a callback does. -/
def ops : LinkedTimers α → List (LinkedOp α) → Option (LinkedTimers α × List (Reply α))
  | Q, [] => some (Q, [])
  | Q, o :: inner => (Q.op o).bind fun (Q, r) => (Q.ops inner).map fun (Q, rs) => (Q, r :: rs)

/-- The end of `ExecuteNextTimer`, when the callback of the event `e` has returned;
`entry` is the payload, and `e'` the address of the new event. -/
def finish (Q : LinkedTimers α) (e entry : ℕ) (newTimeout : ℤ) (e' : ℕ) (now : Timeval) :
    Option (LinkedTimers α × Reply α) :=
  (Q.entries[entry]?).bind fun t =>
    (if newTimeout = Timers.discard then
      some ({ Q with entries := Q.entries.erase entry }, Reply.discarded t.hdl)
    else if newTimeout = Timers.rescheduleSame ∨ newTimeout > 0 then
      let t := if newTimeout > 0 then { t with timeout := newTimeout } else t
      ({ Q with entries := Q.entries.insert entry t }.eqAddAfter e' 1 entry now t.timeout).map
        fun Q => (Q, .again t.hdl)
    else none).map fun (Q, r) => ({ Q with events := Q.events.erase e }, r)

/-- `ExecuteNextTimer`. The pointer that `Eq_Pop` returns is followed without a test. -/
def execute (Q : LinkedTimers α) (inner : List (LinkedOp α)) (newTimeout : ℤ) (e' : ℕ)
    (now : Timeval) : Option (LinkedTimers α × List (Reply α)) :=
  Q.eqPop.bind fun (Q, e) => e.bind fun e => (Q.events[e]?).bind fun c =>
    (Q.entries[c.val.payload]?).bind fun t => (Q.ops inner).bind fun (Q, rs) =>
      (Q.finish e c.val.payload newTimeout e' now).map fun (Q, r) =>
        (Q, .ran t.hdl t.cb :: (rs ++ [r]))

/-! ### The queue in memory -/

/-- The cell `x` is the event `e`. -/
def Shows (Q : LinkedTimers α) (x : ℕ × LinkedEvent) (e : Event α) : Prop :=
  x.2.type = 1 ∧ x.2.tv = e.tv ∧ Q.entries[x.2.payload]? = some ⟨e.hdl, e.timeout, e.cb⟩

/-- The cells from `head_` on hold the queue `q`; besides them the events `hev` and the
entries `hen` are allocated, and nothing else. -/
structure Layout (Q : LinkedTimers α) (hev : List (ℕ × LinkedEvent))
    (hen : List (ℕ × TimerEntry α)) (cells : List (ℕ × LinkedEvent)) (q : List (Event α)) :
    Prop where
  chain : Chain Q.events Q.head cells none
  heldEvents : ∀ x ∈ hev, ∃ n, Q.events[x.1]? = some ⟨x.2, n⟩
  heldEntries : ∀ y ∈ hen, Q.entries[y.1]? = some y.2
  shown : List.Forall₂ Q.Shows cells q
  events : ∀ a, a ∈ Q.events ↔ a ∈ (hev ++ cells).map Prod.fst
  eventsNodup : ((hev ++ cells).map Prod.fst).Nodup
  entries : ∀ p, p ∈ Q.entries ↔ p ∈ hen.map Prod.fst ++ cells.map fun x => x.2.payload
  entriesNodup : (hen.map Prod.fst ++ cells.map fun x => x.2.payload).Nodup

theorem layout_init : (init : LinkedTimers α).Layout [] [] [] [] where
  chain := rfl
  heldEvents := by simp
  heldEntries := by simp
  shown := .nil
  events a := by simp [init]
  eventsNodup := List.nodup_nil
  entries p := by simp [init]
  entriesNodup := List.nodup_nil

/-- `eqAdd` puts an event between those that expire before it and the others. -/
theorem exists_eqAdd (n : Event α) (q : List (Event α)) :
    ∃ pre post, q = pre ++ post ∧ eqAdd n q = pre ++ n :: post ∧
      (∀ e ∈ pre, n.tv.cmp e.tv > 0) ∧ ∀ e ∈ post.head?, ¬ n.tv.cmp e.tv > 0 := by
  induction q with
  | nil => exact ⟨[], [], rfl, rfl, by simp, by simp⟩
  | cons ptr rest ih =>
      by_cases hlater : n.tv.cmp ptr.tv > 0
      · obtain ⟨pre, post, hq, hadd, hpre, hpost⟩ := ih
        refine ⟨ptr :: pre, post, by rw [hq]; rfl, ?_, ?_, hpost⟩
        · rw [eqAdd, if_pos hlater, hadd]
          rfl
        · intro e he
          rcases List.mem_cons.1 he with rfl | he
          · exact hlater
          · exact hpre e he
      · refine ⟨[], ptr :: rest, rfl, ?_, by simp, ?_⟩
        · rw [eqAdd, if_neg hlater]
          rfl
        · simpa using hlater

theorem exists_mem_of_forall₂ {β γ : Type} {R : β → γ → Prop} {l : List β} {l' : List γ}
    (h : List.Forall₂ R l l') {x : β} (hx : x ∈ l) : ∃ y ∈ l', R x y := by
  induction h with
  | nil => exact absurd hx List.not_mem_nil
  | cons hxy _ ih =>
      rcases List.mem_cons.1 hx with rfl | hx
      · exact ⟨_, List.mem_cons_self, hxy⟩
      · obtain ⟨y, hy, hR⟩ := ih hx
        exact ⟨y, List.mem_cons_of_mem _ hy, hR⟩

/-- A list that goes with an appended one is cut in the same place. -/
theorem exists_append_of_forall₂ {β γ : Type} {R : β → γ → Prop} {l : List β} {pre post : List γ}
    (h : List.Forall₂ R l (pre ++ post)) :
    ∃ lpre lpost, l = lpre ++ lpost ∧ List.Forall₂ R lpre pre ∧ List.Forall₂ R lpost post :=
  ⟨_, _, (List.take_append_drop pre.length l).symm, List.forall₂_take_append l pre post h,
    List.forall₂_drop_append l pre post h⟩

/-- A store in a cell that is there adds no cell. -/
theorem mem_insert_iff {m : Memory LinkedEvent} {a : ℕ} {c : Cell LinkedEvent}
    (h : m[a]? = some c) (c' : Cell LinkedEvent) (b : ℕ) : b ∈ m.insert a c' ↔ b ∈ m := by
  rw [Std.ExtTreeMap.mem_insert, Std.compare_eq_iff_eq]
  exact or_iff_right_of_imp fun heq => heq ▸ (Memory.mem_iff _ _).2 ⟨c, h⟩

/-- `Eq_Add` links a cell in where the events that expire earlier end. -/
theorem eqAdd_of_chain {Q : LinkedTimers α} {n : ℕ} {ev : LinkedEvent} {next : Option ℕ}
    {cpre cpost : List (ℕ × LinkedEvent)} (hchain : Chain Q.events Q.head (cpre ++ cpost) none)
    (hn : Q.events[n]? = some ⟨ev, next⟩) (hnew : n ∉ (cpre ++ cpost).map Prod.fst)
    (hpre : ∀ x ∈ cpre, ev.tv.cmp x.2.tv > 0)
    (hpost : ∀ x ∈ cpost.head?, ¬ ev.tv.cmp x.2.tv > 0) :
    ∃ events head, Q.eqAdd n = some { Q with events := events, head := head } ∧
      Chain events head (cpre ++ (n, ev) :: cpost) none ∧ (∀ a, a ∈ events ↔ a ∈ Q.events) ∧
      ∀ a, a ≠ n → a ∉ (cpre ++ cpost).map Prod.fst → events[a]? = Q.events[a]? := by
  have hlen : cpre.length < Q.turns := by
    have hle := hchain.length_le
    rw [List.length_append] at hle
    unfold turns
    omega
  have hwalk := walk_of_chain (fun _ ptr => some (decide (¬ ev.tv.cmp ptr.tv > 0))) Q.head hchain
    (fun x hx => congrArg some (decide_eq_false (not_not_intro (hpre x hx))))
    (fun x hx => congrArg some (decide_eq_true (hpost x hx))) hlen
  unfold LinkedTimers.eqAdd
  rw [hn, Option.bind_some, hwalk, Option.bind_some]
  dsimp only
  rcases List.eq_nil_or_concat cpre with rfl | ⟨init, x, rfl⟩
  · -- in front of the others
    have hhead : Q.head = link cpost none := hchain.start_eq
    rw [if_pos (by simpa using hhead), Memory.setNext_of_getElem? hn, Option.map_some]
    refine ⟨_, _, rfl, hchain.push ev hnew, mem_insert_iff hn _, fun a ha _ => ?_⟩
    rw [Std.ExtTreeMap.getElem?_insert, if_neg (mt Std.compare_eq_iff_eq.1 ha.symm)]
  · -- behind the last one that expires earlier
    rw [List.concat_eq_append, List.append_assoc, List.singleton_append] at hchain hnew
    have hx : Q.events[x.1]? = some ⟨x.2, link cpost none⟩ := hchain.getElem?_of_append
    have hne : x.1 ≠ n := by
      rintro rfl
      exact hnew (by simp)
    have hlast : ((init.concat x).getLast?.map Prod.fst).or Q.head = some x.1 := by simp
    have hptr : ¬ some x.1 = link cpost none := by
      intro heq
      cases cpost with
      | nil => exact absurd heq (Option.some_ne_none _)
      | cons y cpost =>
          have hnot := hchain.notMem_of_middle.2
          rw [List.map_cons, List.mem_cons, not_or] at hnot
          exact hnot.1 (Option.some.inj heq)
    have hx' : (Q.events.insert n ⟨ev, link cpost none⟩)[x.1]? = some ⟨x.2, link cpost none⟩ := by
      rw [Std.ExtTreeMap.getElem?_insert, if_neg (mt Std.compare_eq_iff_eq.1 hne.symm), hx]
    have hchain' : Chain (Q.events.insert n ⟨ev, link cpost none⟩) Q.head (init ++ x :: cpost)
        none := by
      refine hchain.frame fun y hy => ?_
      rw [Std.ExtTreeMap.getElem?_insert, if_neg (mt Std.compare_eq_iff_eq.1 ?_)]
      rintro rfl
      exact hnew (List.mem_map_of_mem hy)
    rw [hlast, if_neg hptr, Memory.setNext_of_getElem? hn, Option.bind_some, Option.bind_some,
      Memory.setNext_of_getElem? hx', Option.map_some, List.concat_eq_append, List.append_assoc,
      List.singleton_append]
    refine ⟨_, _, rfl, ?_, fun a => ?_, fun a ha hcells => ?_⟩
    · refine hchain'.insertAfter ?_ hne
      rw [Std.ExtTreeMap.getElem?_insert_self]
    · rw [mem_insert_iff hx', mem_insert_iff hn]
    · rw [List.append_assoc, List.singleton_append] at hcells
      rw [Std.ExtTreeMap.getElem?_insert, if_neg (mt Std.compare_eq_iff_eq.1 ?_),
        Std.ExtTreeMap.getElem?_insert, if_neg (mt Std.compare_eq_iff_eq.1 ha.symm)]
      rintro rfl
      exact hcells (by simp)

/-- `Eq_Remove` links past the cell that it is given. -/
theorem eqRemove_of_chain {Q : LinkedTimers α} {x : ℕ × LinkedEvent}
    {cpre cpost : List (ℕ × LinkedEvent)}
    (hchain : Chain Q.events Q.head (cpre ++ x :: cpost) none) :
    ∃ events head, Q.eqRemove (some x.1) = some ({ Q with events := events, head := head }, 0) ∧
      Chain events head (cpre ++ cpost) none ∧ (∀ a, a ∈ events ↔ a ∈ Q.events) ∧
      ∀ a, a ∉ (cpre ++ cpost).map Prod.fst → events[a]? = Q.events[a]? := by
  have hx : Q.events[x.1]? = some ⟨x.2, link cpost none⟩ := hchain.getElem?_of_append
  unfold eqRemove
  dsimp only
  cases cpre with
  | nil =>
      obtain ⟨hhead, n, hn, hrest⟩ := hchain
      obtain rfl := hrest.start_eq
      rw [if_pos hhead, hn, Option.map_some]
      exact ⟨_, _, rfl, hrest, fun _ => Iff.rfl, fun _ _ => rfl⟩
  | cons y ctail =>
      have hy : ¬ Q.head = some x.1 := by
        have hnot := hchain.notMem_of_middle.1
        rw [List.map_cons, List.mem_cons, not_or] at hnot
        rw [hchain.start_eq]
        exact fun heq => hnot.1 (Option.some.inj heq).symm
      have hlen : ctail.length < Q.turns := by
        have hle := hchain.length_le
        simp only [List.length_append, List.length_cons] at hle
        unfold turns
        omega
      obtain ⟨hhead, n, hn, hrest⟩ := id hchain
      have hother : ∀ z ∈ ctail, z.1 ≠ x.1 := fun z hz heq => hchain.notMem_of_middle.1
        (List.mem_map.2 ⟨z, List.mem_cons_of_mem y hz, heq⟩)
      have hwalk := walk_of_chain (fun ce _ => some (ce == x.1)) Q.head hrest
        (fun z hz => congrArg some (beq_false_of_ne (hother z hz)))
        (fun z hz => congrArg some (beq_iff_eq.2 (congrArg Prod.fst (Option.some.inj hz).symm)))
        hlen
      obtain ⟨init, z, hlast⟩ : ∃ init z, y :: ctail = init ++ [z] :=
        ⟨_, _, (List.dropLast_concat_getLast (List.cons_ne_nil y ctail)).symm⟩
      have hpe : (ctail.getLast?.map Prod.fst).or Q.head = some z.1 := by
        have hget := congrArg List.getLast? hlast
        rw [List.getLast?_concat, List.getLast?_cons] at hget
        obtain rfl := Option.some.inj hget
        rw [hhead]
        cases ctail.getLast? <;> rfl
      rw [hlast, List.append_assoc, List.singleton_append] at hchain
      have hz : Q.events[z.1]? = some ⟨z.2, link (x :: cpost) none⟩ := hchain.getElem?_of_append
      rw [if_neg hy, hhead, Option.bind_some, hn, Option.bind_some, ← hhead, hwalk,
        Option.bind_some]
      dsimp only [link_cons]
      rw [hx, Option.bind_some, hpe, Option.bind_some, Memory.setNext_of_getElem? hz,
        Option.map_some, hlast, List.append_assoc, List.singleton_append]
      refine ⟨_, _, rfl, hchain.unlink, mem_insert_iff hz _, fun a ha => ?_⟩
      rw [Std.ExtTreeMap.getElem?_insert, if_neg (mt Std.compare_eq_iff_eq.1 ?_)]
      rintro rfl
      exact ha (by simp)

/-- `Eq_FindNextEvent` looks for type 1, which every event has. -/
theorem eqFindNextEvent_of_chain {Q : LinkedTimers α} {p : Option ℕ}
    {cells : List (ℕ × LinkedEvent)} {q : List (Event α)} (h : Chain Q.events p cells none)
    (hshown : List.Forall₂ Q.Shows cells q) : Q.eqFindNextEvent 1 p = some p := by
  have hturns : ([] : List (ℕ × LinkedEvent)).length < Q.turns := Nat.succ_pos _
  have hwalk := walk_of_chain (fun _ ev => some (ev.type == 1)) none
    (show Chain Q.events p ([] ++ cells) none from h) (by simp)
    (fun x hx => by
      cases hshown with
      | nil => exact absurd hx.symm (Option.some_ne_none x)
      | cons hxe _ =>
          obtain rfl := Option.some.inj hx
          exact congrArg some (beq_iff_eq.2 hxe.1)) hturns
  rw [eqFindNextEvent, hwalk, Option.map_some, ← h.start_eq]

/-- The search of `RemoveTimer` finds the first event with the handle. -/
theorem findTimer_of_chain {Q : LinkedTimers α} {p : Option ℕ} {cells : List (ℕ × LinkedEvent)}
    {q : List (Event α)} (hdl : ℤ) {turns : ℕ} (h : Chain Q.events p cells none)
    (hshown : List.Forall₂ Q.Shows cells q) (hturns : cells.length < turns) :
    (∀ e ∈ q, e.hdl ≠ hdl) ∧ Q.findTimer hdl turns p = some none ∨
      ∃ cpre x cpost pre e post, cells = cpre ++ x :: cpost ∧ q = pre ++ e :: post ∧
        List.Forall₂ Q.Shows cpre pre ∧ Q.Shows x e ∧ List.Forall₂ Q.Shows cpost post ∧
        e.hdl = hdl ∧ (∀ e ∈ pre, e.hdl ≠ hdl) ∧
        Q.findTimer hdl turns p = some (some (x.1, x.2.payload)) := by
  induction hshown generalizing p turns with
  | nil =>
      obtain rfl : p = none := h
      obtain ⟨turns, rfl⟩ := Nat.exists_eq_succ_of_ne_zero (Nat.ne_of_gt hturns)
      exact Or.inl ⟨by simp, rfl⟩
  | @cons x e cells q hxe hshown ih =>
      obtain ⟨rfl, n, hn, hrest⟩ := h
      obtain ⟨turns, rfl⟩ := Nat.exists_eq_succ_of_ne_zero (Nat.ne_of_gt (Nat.zero_lt_of_lt hturns))
      have hone : Q.findTimer hdl (turns + 1) (some x.1) =
          if e.hdl = hdl then some (some (x.1, x.2.payload))
          else Q.findTimer hdl turns n := by
        rw [findTimer, hn, Option.bind_some, hxe.2.2, Option.bind_some,
          eqFindNextEvent_of_chain hrest hshown, Option.bind_some]
      rw [hone]
      by_cases he : e.hdl = hdl
      · rw [if_pos he]
        exact Or.inr ⟨[], x, cells, [], e, q, rfl, rfl, .nil, hxe, hshown, he, by simp, rfl⟩
      · rw [if_neg he]
        rcases ih hrest (Nat.lt_of_succ_lt_succ hturns) with
          ⟨hall, hnone⟩ | ⟨cpre, y, cpost, pre, e', post, rfl, rfl, hcpre, hy, hcpost, hfound⟩
        · exact Or.inl ⟨List.forall_mem_cons.2 ⟨he, hall⟩, hnone⟩
        · exact Or.inr ⟨x :: cpre, y, cpost, e :: pre, e', post, rfl, rfl, .cons hxe hcpre, hy,
            hcpost, hfound.1, List.forall_mem_cons.2 ⟨he, hfound.2.1⟩, hfound.2.2⟩

namespace Layout

variable {Q Q' : LinkedTimers α} {hev hev' : List (ℕ × LinkedEvent)}
  {hen hen' : List (ℕ × TimerEntry α)} {cells cells' : List (ℕ × LinkedEvent)}
  {q q' : List (Event α)}

/-- Between the queue and what is held nothing gets lost. -/
theorem move (h : Q.Layout hev hen cells q) (hentries : Q'.entries = Q.entries)
    (hevents : ∀ a, a ∈ Q'.events ↔ a ∈ Q.events)
    (hperm : ((hev' ++ cells').map Prod.fst).Perm ((hev ++ cells).map Prod.fst))
    (hperm' : (hen'.map Prod.fst ++ cells'.map fun x => x.2.payload).Perm
      (hen.map Prod.fst ++ cells.map fun x => x.2.payload))
    (hchain : Chain Q'.events Q'.head cells' none)
    (hheld : ∀ x ∈ hev', ∃ n, Q'.events[x.1]? = some ⟨x.2, n⟩)
    (hheld' : ∀ y ∈ hen', Q.entries[y.1]? = some y.2)
    (hshown : List.Forall₂ Q.Shows cells' q') : Q'.Layout hev' hen' cells' q' where
  chain := hchain
  heldEvents := hheld
  heldEntries := hentries ▸ hheld'
  shown := by
    refine hshown.imp fun x e hx => ?_
    rw [Shows, hentries]
    exact hx
  events a := by rw [hevents, h.events, hperm.mem_iff]
  eventsNodup := hperm.nodup_iff.2 h.eventsNodup
  entries p := by rw [hentries, h.entries, hperm'.mem_iff]
  entriesNodup := hperm'.nodup_iff.2 h.entriesNodup

theorem length_lt_turns (h : Q.Layout hev hen cells q) : cells.length < Q.turns :=
  Nat.lt_succ_of_le h.chain.length_le

/-- A cell of the queue is not held. -/
theorem notMem_hev (h : Q.Layout hev hen cells q) {x : ℕ × LinkedEvent} (hx : x ∈ cells) :
    x.1 ∉ hev.map Prod.fst := by
  have hnodup := h.eventsNodup
  rw [List.map_append, List.nodup_append] at hnodup
  exact fun hheld => hnodup.2.2 _ hheld _ (List.mem_map_of_mem hx) rfl

/-- An event that is held is neither in the queue nor held twice. -/
theorem notMem_of_held {x : ℕ × LinkedEvent} (h : Q.Layout (x :: hev) hen cells q) :
    x.1 ∉ hev.map Prod.fst ∧ x.1 ∉ cells.map Prod.fst := by
  have hnodup := h.eventsNodup
  rw [List.cons_append, List.map_cons, List.nodup_cons, List.map_append, List.mem_append] at hnodup
  exact not_or.1 hnodup.1

/-- What is held stays when something else is stored. -/
theorem heldEvents_insert (h : ∀ x ∈ hev, ∃ n, Q.events[x.1]? = some ⟨x.2, n⟩) {a : ℕ}
    (ha : a ∉ hev.map Prod.fst) (c : Cell LinkedEvent) :
    ∀ x ∈ hev, ∃ n, (Q.events.insert a c)[x.1]? = some ⟨x.2, n⟩ := by
  intro x hx
  obtain ⟨n, hn⟩ := h x hx
  refine ⟨n, ?_⟩
  rw [Std.ExtTreeMap.getElem?_insert, if_neg (mt Std.compare_eq_iff_eq.1 ?_), hn]
  rintro rfl
  exact ha (List.mem_map_of_mem hx)

/-! ### Allocation -/

/-- `new event`. -/
theorem newEvent (h : Q.Layout hev hen cells q) {a : ℕ} (ha : a ∉ Q.events) (ev : LinkedEvent)
    (n : Option ℕ) :
    { Q with events := Q.events.insert a ⟨ev, n⟩ }.Layout ((a, ev) :: hev) hen cells q where
  chain := by
    refine h.chain.frame fun x hx => ?_
    rw [Std.ExtTreeMap.getElem?_insert, if_neg (mt Std.compare_eq_iff_eq.1 ?_)]
    rintro rfl
    exact ha ((h.events _).2 (List.mem_map_of_mem (List.mem_append_right _ hx)))
  heldEvents := by
    intro x hx
    rcases List.mem_cons.1 hx with rfl | hx
    · exact ⟨n, by rw [Std.ExtTreeMap.getElem?_insert_self]⟩
    · refine heldEvents_insert h.heldEvents ?_ _ x hx
      rw [h.events, List.map_append, List.mem_append, not_or] at ha
      exact ha.1
  heldEntries := h.heldEntries
  shown := h.shown
  events b := by
    rw [Std.ExtTreeMap.mem_insert, Std.compare_eq_iff_eq, eq_comm,
      h.events, List.cons_append, List.map_cons, List.mem_cons]
  eventsNodup := by
    rw [List.cons_append, List.map_cons, List.nodup_cons]
    exact ⟨fun hmem => ha ((h.events a).2 hmem), h.eventsNodup⟩
  entries := h.entries
  entriesNodup := h.entriesNodup

/-- `free`. -/
theorem freeEvent {x : ℕ × LinkedEvent} (h : Q.Layout (x :: hev) hen cells q) :
    { Q with events := Q.events.erase x.1 }.Layout hev hen cells q where
  chain := by
    refine h.chain.frame fun y hy => ?_
    rw [Std.ExtTreeMap.getElem?_erase, if_neg (mt Std.compare_eq_iff_eq.1 ?_)]
    intro heq
    exact h.notMem_of_held.2 (List.mem_map.2 ⟨y, hy, heq.symm⟩)
  heldEvents := by
    intro y hy
    obtain ⟨n, hn⟩ := h.heldEvents y (List.mem_cons_of_mem x hy)
    refine ⟨n, ?_⟩
    rw [Std.ExtTreeMap.getElem?_erase, if_neg (mt Std.compare_eq_iff_eq.1 ?_), hn]
    intro heq
    exact h.notMem_of_held.1 (List.mem_map.2 ⟨y, hy, heq.symm⟩)
  heldEntries := h.heldEntries
  shown := h.shown
  events b := by
    have hnot := h.eventsNodup
    rw [List.cons_append, List.map_cons, List.nodup_cons] at hnot
    rw [Std.ExtTreeMap.mem_erase, ne_eq, Std.compare_eq_iff_eq,
      h.events, List.cons_append, List.map_cons, List.mem_cons]
    constructor
    · exact fun hb => hb.2.resolve_left (Ne.symm hb.1)
    · intro hb
      exact ⟨fun heq => hnot.1 (heq ▸ hb), Or.inr hb⟩
  eventsNodup := (List.nodup_cons.1 h.eventsNodup).2
  entries := h.entries
  entriesNodup := h.entriesNodup

/-- The queue does not depend on an entry that none of its events has. -/
theorem shown_of_ne {entries : Std.ExtTreeMap ℕ (TimerEntry α)} (h : List.Forall₂ Q.Shows cells q)
    (hsame : ∀ x ∈ cells, entries[x.2.payload]? = Q.entries[x.2.payload]?) :
    List.Forall₂ { Q with entries := entries }.Shows cells q := by
  induction h with
  | nil => exact .nil
  | cons hx _ ih =>
      refine .cons ⟨hx.1, hx.2.1, ?_⟩ (ih fun y hy => hsame y (List.mem_cons_of_mem _ hy))
      exact (hsame _ List.mem_cons_self).trans hx.2.2

/-- `new TimerEntry`. -/
theorem newEntry (h : Q.Layout hev hen cells q) {p : ℕ} (hp : p ∉ Q.entries) (t : TimerEntry α) :
    { Q with entries := Q.entries.insert p t }.Layout hev ((p, t) :: hen) cells q where
  chain := h.chain
  heldEvents := h.heldEvents
  heldEntries := by
    intro y hy
    rcases List.mem_cons.1 hy with rfl | hold
    · exact Std.ExtTreeMap.getElem?_insert_self
    · rw [Std.ExtTreeMap.getElem?_insert, if_neg (mt Std.compare_eq_iff_eq.1 ?_),
        h.heldEntries y hold]
      rintro rfl
      exact hp ((h.entries _).2 (List.mem_append_left _ (List.mem_map_of_mem hold)))
  shown := by
    refine shown_of_ne h.shown fun x hx => ?_
    rw [Std.ExtTreeMap.getElem?_insert, if_neg (mt Std.compare_eq_iff_eq.1 ?_)]
    rintro rfl
    exact hp ((h.entries _).2 (List.mem_append_right _ (List.mem_map_of_mem hx)))
  events := h.events
  eventsNodup := h.eventsNodup
  entries b := by
    rw [Std.ExtTreeMap.mem_insert, Std.compare_eq_iff_eq, eq_comm,
      h.entries, List.map_cons, List.cons_append, List.mem_cons]
  entriesNodup := by
    rw [List.map_cons, List.cons_append, List.nodup_cons]
    exact ⟨fun hmem => hp ((h.entries p).2 hmem), h.entriesNodup⟩

/-- An entry that is held is in no event of the queue. -/
theorem notMem_of_heldEntry {y : ℕ × TimerEntry α} (h : Q.Layout hev (y :: hen) cells q) :
    y.1 ∉ hen.map Prod.fst ∧ ∀ x ∈ cells, x.2.payload ≠ y.1 := by
  have hnodup := h.entriesNodup
  rw [List.map_cons, List.cons_append, List.nodup_cons, List.mem_append, not_or] at hnodup
  exact ⟨hnodup.1.1, fun x hx heq => hnodup.1.2 (List.mem_map.2 ⟨x, hx, heq⟩)⟩

/-- `delete`. -/
theorem deleteEntry {y : ℕ × TimerEntry α} (h : Q.Layout hev (y :: hen) cells q) :
    { Q with entries := Q.entries.erase y.1 }.Layout hev hen cells q where
  chain := h.chain
  heldEvents := h.heldEvents
  heldEntries := by
    intro z hz
    rw [Std.ExtTreeMap.getElem?_erase, if_neg (mt Std.compare_eq_iff_eq.1 ?_),
      h.heldEntries z (List.mem_cons_of_mem y hz)]
    intro heq
    exact h.notMem_of_heldEntry.1 (List.mem_map.2 ⟨z, hz, heq.symm⟩)
  shown := by
    refine shown_of_ne h.shown fun x hx => ?_
    rw [Std.ExtTreeMap.getElem?_erase,
      if_neg (mt Std.compare_eq_iff_eq.1 (h.notMem_of_heldEntry.2 x hx).symm)]
  events := h.events
  eventsNodup := h.eventsNodup
  entries b := by
    have hnot := h.entriesNodup
    rw [List.map_cons, List.cons_append, List.nodup_cons] at hnot
    rw [Std.ExtTreeMap.mem_erase, ne_eq, Std.compare_eq_iff_eq,
      h.entries, List.map_cons, List.cons_append, List.mem_cons]
    constructor
    · exact fun hb => hb.2.resolve_left (Ne.symm hb.1)
    · intro hb
      exact ⟨fun heq => hnot.1 (heq ▸ hb), Or.inr hb⟩
  entriesNodup := (List.nodup_cons.1 h.entriesNodup).2

/-- A field of an entry that is held is written. -/
theorem setEntry {y : ℕ × TimerEntry α} (h : Q.Layout hev (y :: hen) cells q) (t : TimerEntry α) :
    { Q with entries := Q.entries.insert y.1 t }.Layout hev ((y.1, t) :: hen) cells q where
  chain := h.chain
  heldEvents := h.heldEvents
  heldEntries := by
    intro z hz
    rcases List.mem_cons.1 hz with rfl | hz
    · exact Std.ExtTreeMap.getElem?_insert_self
    · rw [Std.ExtTreeMap.getElem?_insert, if_neg (mt Std.compare_eq_iff_eq.1 ?_),
        h.heldEntries z (List.mem_cons_of_mem y hz)]
      intro heq
      exact h.notMem_of_heldEntry.1 (List.mem_map.2 ⟨z, hz, heq.symm⟩)
  shown := by
    refine shown_of_ne h.shown fun x hx => ?_
    rw [Std.ExtTreeMap.getElem?_insert,
      if_neg (mt Std.compare_eq_iff_eq.1 (h.notMem_of_heldEntry.2 x hx).symm)]
  events := h.events
  eventsNodup := h.eventsNodup
  entries b := by
    rw [Std.ExtTreeMap.mem_insert, Std.compare_eq_iff_eq, eq_comm,
      h.entries, List.map_cons, List.map_cons, List.cons_append, List.mem_cons]
    exact ⟨fun hb => hb.elim Or.inl id, Or.inr⟩
  entriesNodup := h.entriesNodup

/-! ### The queue -/

theorem perm_middle_map {β γ : Type} (f : β → γ) (l l₁ l₂ : List β) (x : β) :
    ((l ++ (l₁ ++ x :: l₂)).map f).Perm ((x :: l ++ (l₁ ++ l₂)).map f) := by
  refine List.Perm.map f ?_
  rw [← List.append_assoc, List.cons_append, ← List.append_assoc]
  exact List.perm_middle

/-- `Eq_Add` does to the cells what `eqAdd` does to the queue. -/
theorem add {n : ℕ} {ev : LinkedEvent} {t : TimerEntry α}
    (h : Q.Layout ((n, ev) :: hev) ((ev.payload, t) :: hen) cells q) (htype : ev.type = 1) :
    ∃ Q' cells', Q.eqAdd n = some Q' ∧ Q'.nextHandle = Q.nextHandle ∧
      Q'.Layout hev hen cells' (eqAdd ⟨ev.tv, t.hdl, t.timeout, t.cb⟩ q) := by
  obtain ⟨next, hn⟩ := h.heldEvents (n, ev) List.mem_cons_self
  obtain ⟨pre, post, rfl, hadd, hpre, hpost⟩ :=
    exists_eqAdd (⟨ev.tv, t.hdl, t.timeout, t.cb⟩ : Event α) q
  obtain ⟨cpre, cpost, rfl, hcpre, hcpost⟩ := exists_append_of_forall₂ h.shown
  have hshow : Q.Shows (n, ev) ⟨ev.tv, t.hdl, t.timeout, t.cb⟩ :=
    ⟨htype, rfl, h.heldEntries _ List.mem_cons_self⟩
  obtain ⟨events, head, heq, hchain, hkeys, hsame⟩ := eqAdd_of_chain h.chain hn
    h.notMem_of_held.2
    (fun x hx => by
      obtain ⟨e, he, hxe⟩ := exists_mem_of_forall₂ hcpre hx
      exact hxe.2.1 ▸ hpre e he)
    (fun x hx => by
      cases hcpost with
      | nil => exact absurd hx.symm (Option.some_ne_none x)
      | cons hxe _ =>
          obtain rfl := Option.some.inj hx
          exact hxe.2.1 ▸ hpost _ rfl)
  refine ⟨_, cpre ++ (n, ev) :: cpost, heq, rfl, hadd ▸ ?_⟩
  refine h.move rfl hkeys (perm_middle_map _ _ _ _ _) ?_ hchain (fun x hx => ?_)
    (fun y hy => h.heldEntries y (List.mem_cons_of_mem _ hy))
    (List.rel_append hcpre (.cons hshow hcpost))
  · rw [List.map_append, List.map_cons, List.map_append, List.map_cons, List.cons_append,
      ← List.append_assoc, ← List.append_assoc]
    exact List.perm_middle
  · obtain ⟨n', hn'⟩ := h.heldEvents x (List.mem_cons_of_mem _ hx)
    refine ⟨n', (hsame x.1 ?_ ?_).trans hn'⟩
    · intro heq
      exact h.notMem_of_held.1 (List.mem_map.2 ⟨x, hx, heq⟩)
    · intro hmem
      obtain ⟨y, hy, heq⟩ := List.mem_map.1 hmem
      refine h.notMem_hev hy (List.mem_map.2 ⟨x, List.mem_cons_of_mem _ hx, heq.symm⟩)

/-- `Eq_Pop` takes the head of the queue out. -/
theorem pop {e : Event α} {rest : List (Event α)} (h : Q.Layout hev hen cells (e :: rest)) :
    ∃ a ev Q' cells', Q.eqPop = some (Q', some a) ∧ Q'.nextHandle = Q.nextHandle ∧
      Q'.Shows (a, ev) e ∧
      Q'.Layout ((a, ev) :: hev) ((ev.payload, ⟨e.hdl, e.timeout, e.cb⟩) :: hen) cells' rest := by
  have hshown := h.shown
  generalize hcells : cells = cells₀ at hshown
  cases hshown with
  | @cons x _ cells' _ hxe hrest =>
      subst hcells
      obtain ⟨hhead, n, hn, hchain⟩ := h.chain
      have hnodup := h.chain.nodup
      rw [List.map_cons, List.nodup_cons] at hnodup
      have hpop : Q.eqPop = some ({ Q with
          events := Q.events.insert x.1 ⟨x.2, none⟩
          head := n }, some x.1) := by
        rw [eqPop, hhead]
        dsimp only
        rw [hn, Option.bind_some, Memory.setNext_of_getElem? hn, Option.map_some]
      refine ⟨x.1, x.2, _, cells', hpop, rfl, hxe, ?_⟩
      refine h.move rfl (mem_insert_iff hn _) (perm_middle_map _ _ [] _ _).symm ?_ ?_ ?_ ?_ hrest
      · rw [List.map_cons, List.map_cons, List.cons_append]
        exact List.perm_middle.symm
      · refine hchain.frame fun y hy => ?_
        rw [Std.ExtTreeMap.getElem?_insert, if_neg (mt Std.compare_eq_iff_eq.1 ?_)]
        intro heq
        exact hnodup.1 (List.mem_map.2 ⟨y, hy, heq.symm⟩)
      · intro y hy
        rcases List.mem_cons.1 hy with rfl | hy
        · exact ⟨none, by rw [Std.ExtTreeMap.getElem?_insert_self]⟩
        · exact heldEvents_insert h.heldEvents (h.notMem_hev List.mem_cons_self) _ y hy
      · intro y hy
        rcases List.mem_cons.1 hy with rfl | hy
        · exact hxe.2.2
        · exact h.heldEntries y hy

/-- `Eq_Remove` takes an event out of the queue. -/
theorem remove {x : ℕ × LinkedEvent} {cpre cpost : List (ℕ × LinkedEvent)} {e : Event α}
    {pre post : List (Event α)} (h : Q.Layout hev hen (cpre ++ x :: cpost) (pre ++ e :: post))
    (hcpre : List.Forall₂ Q.Shows cpre pre) (hxe : Q.Shows x e)
    (hcpost : List.Forall₂ Q.Shows cpost post) :
    ∃ Q', Q.eqRemove (some x.1) = some (Q', 0) ∧ Q'.nextHandle = Q.nextHandle ∧
      Q'.Layout (x :: hev) ((x.2.payload, ⟨e.hdl, e.timeout, e.cb⟩) :: hen) (cpre ++ cpost)
        (pre ++ post) := by
  obtain ⟨events, head, heq, hchain, hkeys, hsame⟩ := eqRemove_of_chain h.chain
  refine ⟨_, heq, rfl, ?_⟩
  refine h.move rfl hkeys (perm_middle_map _ _ _ _ _).symm ?_ hchain ?_ ?_
    (List.rel_append hcpre hcpost)
  · rw [List.map_append, List.map_append, List.map_cons, List.map_cons, List.cons_append,
      ← List.append_assoc, ← List.append_assoc]
    exact List.perm_middle.symm
  · intro y hy
    rcases List.mem_cons.1 hy with rfl | hy
    · have hnot := h.chain.notMem_of_middle
      refine ⟨_, (hsame y.1 ?_).trans h.chain.getElem?_of_append⟩
      rw [List.map_append, List.mem_append, not_or]
      exact hnot
    · obtain ⟨n, hn⟩ := h.heldEvents y hy
      refine ⟨n, (hsame y.1 fun hmem => ?_).trans hn⟩
      obtain ⟨z, hz, heq⟩ := List.mem_map.1 hmem
      refine h.notMem_hev (x := z) ?_ (List.mem_map.2 ⟨y, hy, heq.symm⟩)
      rcases List.mem_append.1 hz with hz | hz
      · exact List.mem_append_left _ hz
      · exact List.mem_append_right _ (List.mem_cons_of_mem x hz)
  · intro y hy
    rcases List.mem_cons.1 hy with rfl | hy
    · exact hxe.2.2
    · exact h.heldEntries y hy

/-- `Eq_AddAfter` for an entry that is in no event. -/
theorem addAfter {payload : ℕ} {t : TimerEntry α}
    (h : Q.Layout hev ((payload, t) :: hen) cells q) {e : ℕ} (he : e ∉ Q.events) (now : Timeval)
    (delay : ℤ) :
    ∃ Q' cells', Q.eqAddAfter e 1 payload now delay = some Q' ∧ Q'.nextHandle = Q.nextHandle ∧
      Q'.Layout hev hen cells' (eqAdd ⟨now.addmsecs delay, t.hdl, t.timeout, t.cb⟩ q) := by
  obtain ⟨Q', cells', hadd, hnext, hlayout⟩ :=
    (h.newEvent he ⟨now.addmsecs delay, 1, payload⟩ none).add rfl
  exact ⟨Q', cells', by rw [eqAddAfter, if_neg he, hadd], hnext, hlayout⟩

end Layout

end LinkedTimers
