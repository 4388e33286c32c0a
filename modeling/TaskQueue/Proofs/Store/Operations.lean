import TaskQueue.Proofs.Record.RoundTrip
import TaskQueue.Store

/-!
# What the operations of a store do to what it holds

A submission to an open store has one of three outcomes: its record is added, or it is refused as a
duplicate or for an id that is taken.  `submit_eq` states it without the buffer, which always has
room; the lemmas after it say when each outcome arises, and what the lanes, the records and the guards
are afterwards.

Principal results: `submit_eq_ok_iff`, `refusal?_eq_duplicate_iff`, `refusal?_eq_conflict_iff` — when a
submission is taken or refused; `lane_add`, `getElem?_tasks_add` — what a record that is added
changes; `isLive_add_of_some`, `isLive_cleanup_of_le` — what becomes of the guards.
-/

set_option autoImplicit false

namespace TaskQueue

open Std (ExtTreeMap)

namespace Lane

/-- The ids of a lane that are due in a second, or that are due at once. -/
def slot (l : Lane) : Option Int → List String
  | none => l.pending
  | some second => l.bucket second

/-- The ids of a lane: the pending ones, and the scheduled ones by their seconds. -/
def ids (l : Lane) : List String := l.pending ++ l.scheduled.toList.flatMap (·.2)

theorem getElem?_scheduled_push (l : Lane) (id : String) (due : Instant) (second : Int) :
    (l.push id (some due)).scheduled[second]? =
      if due.second = second then some (l.bucket second ++ [id]) else l.scheduled[second]? := by
  simp only [push, ExtTreeMap.getElem?_insert, Std.LawfulEqCmp.compare_eq_iff_eq]
  split
  · rename_i h
    rw [h]
  · rfl

theorem bucket_of_mem_toList {l : Lane} {b : Int × List String} (hb : b ∈ l.scheduled.toList) :
    l.bucket b.1 = b.2 := by
  have hget : l.scheduled[b.1]? = some b.2 := ExtTreeMap.mem_toList_iff_getElem?_eq_some.mp hb
  rw [bucket, hget, Option.getD_some]

/-- An id that is pushed comes last in its slot. -/
theorem slot_push (l : Lane) (id : String) (due? : Option Instant) (which : Option Int) :
    (l.push id due?).slot which =
      if due?.map (·.second) = which then l.slot which ++ [id] else l.slot which := by
  rcases due? with _ | due <;> rcases which with _ | second
  · rfl
  · rfl
  · rfl
  · rw [slot, bucket, getElem?_scheduled_push, Option.map_some]
    simp only [Option.some.injEq]
    split <;> rfl

/-- No second is listed without an id. -/
theorem scheduled_push_ne_nil {l : Lane} (h : ∀ second : Int, l.scheduled[second]? ≠ some [])
    (id : String) (due? : Option Instant) (second : Int) :
    (l.push id due?).scheduled[second]? ≠ some [] := by
  cases due? with
  | none => exact h second
  | some due =>
    rw [getElem?_scheduled_push]
    split
    · simp
    · exact h second

end Lane

namespace Guard

/-- A guard set at `start` for a time to live is live until that has passed, and for ever if the
clock cannot tell when. -/
theorem isLive_iff {holder : String} {start now : Tick} {ttl : Span} :
    (Guard.mk holder (start.add? ttl)).isLive now = true ↔
      now < start + ttl.nanos ∨ lastTick < start + ttl.nanos := by
  unfold Tick.add?
  by_cases h : start + ttl.nanos ≤ lastTick
  · rw [if_pos h, isLive, decide_eq_true_eq]
    exact ⟨Or.inl, fun hl => hl.resolve_right (Nat.not_lt.mpr h)⟩
  · rw [if_neg h]
    exact iff_of_true rfl (Or.inr (Nat.not_le.mp h))

/-- A guard that is live at a tick has been live at every earlier one. -/
theorem isLive_of_le {g : Guard} {tick tick' : Tick} (h : tick ≤ tick')
    (hg : g.isLive tick' = true) : g.isLive tick = true := by
  unfold isLive at hg ⊢
  split at hg
  · simp only [decide_eq_true_eq] at hg ⊢
    exact Nat.lt_of_le_of_lt h hg
  · rfl

/-- A guard that has expired stays expired. -/
theorem not_isLive_of_le {g : Guard} {tick tick' : Tick} (h : tick ≤ tick')
    (hg : g.isLive tick = false) : g.isLive tick' = false := by
  cases hg' : g.isLive tick' with
  | false => rfl
  | true =>
    rw [isLive_of_le h hg'] at hg
    cases hg

end Guard

namespace Store

/-! ## Outcomes of a submission -/

theorem submit_eq (s : Store) (now : Tick) (call : Call) :
    s.submit now call =
      if s.closed then (.error .closed, s)
      else
        match s.refusal? now call with
        | some e => (.error e, s.register call.record.queue)
        | none => (.ok (), s.add now call call.record.encode) := by
  unfold submit
  split
  · rename_i fault hfault
    rw [Record.encodeInto_size] at hfault
    cases hfault
  · rename_i encoded hencoded
    rw [Record.encodeInto_size, Except.ok.injEq] at hencoded
    subst hencoded
    rfl

theorem submit_eq_of_free {s : Store} {now : Tick} {call : Call} (hopen : s.closed = false)
    (h : s.refusal? now call = none) :
    s.submit now call = (.ok (), s.add now call call.record.encode) := by
  rw [submit_eq, if_neg (by simp [hopen]), h]

theorem submit_eq_of_refusal {s : Store} {now : Tick} {call : Call} {e : BrokerError}
    (hopen : s.closed = false) (h : s.refusal? now call = some e) :
    s.submit now call = (.error e, s.register call.record.queue) := by
  rw [submit_eq, if_neg (by simp [hopen]), h]

theorem submit_eq_of_closed {s : Store} (h : s.closed = true) (now : Tick) (call : Call) :
    s.submit now call = (.error .closed, s) := by
  rw [submit_eq, if_pos h]

/-- A call is refused as a duplicate if it sets a guard and meets a live one. -/
theorem refusal?_eq_duplicate_iff {s : Store} {now : Tick} {call : Call} :
    s.refusal? now call = some .duplicateTask ↔
      call.route.uniqueTtl.isSome ∧ s.isLive now call.record.uniqueKey := by
  unfold refusal?
  split
  · rename_i hlive
    exact iff_of_true rfl hlive
  · rename_i hlive
    refine iff_of_false ?_ hlive
    split <;> simp

/-- A call is refused for its id if the id is taken and no live guard refuses the call before. -/
theorem refusal?_eq_conflict_iff {s : Store} {now : Tick} {call : Call} :
    s.refusal? now call = some .taskIdConflict ↔
      ¬ (call.route.uniqueTtl.isSome ∧ s.isLive now call.record.uniqueKey) ∧
        entryKey call.record.queue call.record.id ∈ s.tasks := by
  unfold refusal?
  split
  · rename_i hlive
    exact iff_of_false (by simp) fun h => h.1 hlive
  · rename_i hlive
    split
    · rename_i htaken
      exact iff_of_true rfl ⟨hlive, htaken⟩
    · rename_i htaken
      exact iff_of_false (by simp) fun h => htaken h.2

theorem refusal?_eq_none_iff {s : Store} {now : Tick} {call : Call} :
    s.refusal? now call = none ↔
      ¬ (call.route.uniqueTtl.isSome ∧ s.isLive now call.record.uniqueKey) ∧
        entryKey call.record.queue call.record.id ∉ s.tasks := by
  unfold refusal?
  split
  · rename_i hlive
    exact iff_of_false (by simp) fun h => h.1 hlive
  · rename_i hlive
    split
    · rename_i htaken
      exact iff_of_false (by simp) fun h => h.2 htaken
    · rename_i htaken
      exact iff_of_true rfl ⟨hlive, htaken⟩

theorem submit_eq_ok_iff {s : Store} {now : Tick} {call : Call} :
    (s.submit now call).1 = .ok () ↔ s.closed = false ∧ s.refusal? now call = none := by
  cases hc : s.closed with
  | true => simp [submit_eq_of_closed hc]
  | false =>
    cases hr : s.refusal? now call with
    | none => simp [submit_eq_of_free hc hr]
    | some e => simp [submit_eq_of_refusal hc hr]

theorem submit_eq_error_iff {s : Store} {now : Tick} {call : Call} {e : BrokerError}
    (hopen : s.closed = false) :
    (s.submit now call).1 = .error e ↔ s.refusal? now call = some e := by
  cases hr : s.refusal? now call with
  | none => simp [submit_eq_of_free hopen hr]
  | some e' => simp [submit_eq_of_refusal hopen hr]

/-! ## Lanes -/

theorem lane_empty (queue : String) : empty.lane queue = {} := rfl

theorem lane_insert (s : Store) (queue queue' : String) (l : Lane) :
    (s.lanes.insert queue l)[queue']?.getD {} = if queue = queue' then l else s.lane queue' := by
  simp only [ExtTreeMap.getElem?_insert, Std.LawfulEqCmp.compare_eq_iff_eq]
  split <;> rfl

@[simp] theorem lane_register (s : Store) (queue queue' : String) :
    (s.register queue).lane queue' = s.lane queue' := by
  rw [register, lane, lane_insert]
  split
  · rename_i h
    rw [h]
  · rfl

theorem lane_add (s : Store) (now : Tick) (call : Call) (encoded : Bytes) (queue : String) :
    (s.add now call encoded).lane queue =
      if call.record.queue = queue then (s.lane queue).push call.record.id call.route.due?
      else s.lane queue := by
  rw [add, lane, lane_insert]
  split
  · rename_i h
    rw [h]
  · rfl

/-! ## Records -/

theorem getElem?_tasks_add (s : Store) (now : Tick) (call : Call) (encoded : Bytes) (key : String) :
    (s.add now call encoded).tasks[key]? =
      if entryKey call.record.queue call.record.id = key then
        some ⟨encoded, call.route.state, call.route.uniqueTtl.map fun _ => call.record.uniqueKey⟩
      else s.tasks[key]? := by
  simp only [add, ExtTreeMap.getElem?_insert, Std.LawfulEqCmp.compare_eq_iff_eq]

/-! ## Guards -/

theorem isLive_add_of_none {s : Store} {now : Tick} {call : Call} (h : call.route.uniqueTtl = none)
    (encoded : Bytes) (tick : Tick) (key : String) :
    (s.add now call encoded).isLive tick key = s.isLive tick key := by
  simp only [isLive, add, guardsAfter, h]

theorem isLive_add_of_some {s : Store} {now : Tick} {call : Call} {ttl : Span}
    (h : call.route.uniqueTtl = some ttl) (encoded : Bytes) (tick : Tick) (key : String) :
    (s.add now call encoded).isLive tick key =
      if call.record.uniqueKey = key then (Guard.mk call.record.id (now.add? ttl)).isLive tick
      else s.isLive tick key := by
  simp only [isLive, add, guardsAfter, h, ExtTreeMap.getElem?_insert,
    Std.LawfulEqCmp.compare_eq_iff_eq]
  split <;> rfl

/-- The guard that a call sets is live as soon as it is set. -/
theorem isLive_add_self {s : Store} {now : Tick} {call : Call} {window : Span}
    (hu : call.route.uniqueTtl = some window) (hpos : 0 < window.nanos) (encoded : Bytes) :
    (s.add now call encoded).isLive now call.record.uniqueKey = true := by
  rw [isLive_add_of_some hu, if_pos rfl, Guard.isLive_iff]
  exact Or.inl (Nat.lt_add_of_pos_right hpos)

/-- A cleanup by an earlier reading of the clock keeps every guard that is live. -/
theorem isLive_cleanup_of_le (s : Store) {reading tick : Tick} (h : reading ≤ tick) (key : String) :
    (s.cleanup reading).isLive tick key = s.isLive tick key := by
  simp only [isLive, cleanup, ExtTreeMap.getElem?_filter']
  cases hg : s.guards[key]? with
  | none => rfl
  | some g =>
    cases hr : g.isLive reading with
    | true => simp [Option.filter, hr]
    | false => simp [Option.filter, hr, Guard.not_isLive_of_le h hr]

end Store

end TaskQueue
