import TaskQueue.Proofs.Store.Schedule

/-!
# What a receipt says about the store

A client that is given a receipt can find the task in the store as the receipt describes it, at once and
at any later time: the store keeps what it has accepted.

Principal results: `Moment.Contents.describes` — a store holds every accepted task as its receipt describes
it; `receipt_tells_store` — what a receipt says, at the submission and in every later state.
-/

set_option autoImplicit false

namespace TaskQueue

/-- A store holds the task with the record `r` as a receipt describes it.  A record that takes less than
`2 ^ 64` bytes can be read back; every one that can be written does. -/
structure Receipt.Describes (info : Receipt) (r : Record) (s : Store) : Prop where
  state : s.taskState? info.queue info.id = some info.state
  record : r.encode.length < 2 ^ 64 → s.taskRecord? info.queue info.id = .ok (some r)
  pending : info.state = .pending → info.id ∈ s.pendingIds info.queue
  scheduled : info.state = .scheduled →
    s.scheduledAt? info.queue info.id = some info.nextProcessAt.truncate

namespace Route

theorem state_eq_pending_iff {r : Route} : r.state = .pending ↔ r.due? = none := by
  cases r <;> simp [state, due?]

theorem state_eq_scheduled_iff {r : Route} : r.state = .scheduled ↔ r.due?.isSome := by
  cases r <;> simp [state, due?]

end Route

/-- **The time of a receipt**: the time of the submission if the task is pending, and the time that the
options say, which is still to come, if it is scheduled. -/
theorem Client.receipt_time {call : Call} {now due : Instant}
    (h : call.route.due? = if now < due then some due else none) :
    ((receipt call now).state = .pending ∧ (receipt call now).nextProcessAt = now ∧
        call.route.due? = none) ∨
      ((receipt call now).state = .scheduled ∧ now < (receipt call now).nextProcessAt ∧
        (receipt call now).nextProcessAt = due) := by
  have htime : (receipt call now).nextProcessAt = call.route.due?.getD now := rfl
  by_cases hlater : now < due
  · rw [if_pos hlater] at h
    rw [htime, h]
    exact Or.inr ⟨Route.state_eq_scheduled_iff.mpr (by rw [h]; rfl), hlater, rfl⟩
  · rw [if_neg hlater] at h
    rw [htime, h]
    exact Or.inl ⟨Route.state_eq_pending_iff.mpr h, rfl, rfl⟩

namespace Moment

theorem Contents.getElem?_tasks {m : Moment} {log : List Acceptance} (h : m.Contents log)
    {a : Acceptance} (ha : a ∈ log) :
    m.store.tasks[Store.entryKey a.call.record.queue a.call.record.id]? = some a.entry :=
  (h.records _ _).mpr ⟨a, ha, rfl, rfl⟩

/-- **A store holds what it accepted** as the receipt for it describes it. -/
theorem Contents.describes {m : Moment} {log : List Acceptance} (h : m.Contents log)
    {a : Acceptance} (ha : a ∈ log) (now : Instant) :
    (Client.receipt a.call now).Describes a.call.record m.store where
  state := by
    show m.store.taskState? a.call.record.queue a.call.record.id = some a.call.route.state
    rw [Store.taskState?, h.getElem?_tasks ha]
    rfl
  record hsize := by
    show m.store.taskRecord? a.call.record.queue a.call.record.id = .ok (some a.call.record)
    have hread : Record.decode a.entry.encoded = .ok a.call.record := Record.decode_encode hsize
    simp only [Store.taskRecord?, h.getElem?_tasks ha, hread]
    rfl
  pending hstate := by
    show a.call.record.id ∈ (m.store.lane a.call.record.queue).slot none
    rw [h.slots, Acceptance.mem_idsIn]
    refine ⟨a, ha, rfl, rfl, ?_⟩
    rw [Acceptance.slot, Route.state_eq_pending_iff.mp hstate]
    rfl
  scheduled hstate := by
    obtain ⟨due, hdue⟩ := Option.isSome_iff_exists.mp (Route.state_eq_scheduled_iff.mp hstate)
    refine h.scheduledAt?_eq_some_iff.mpr ⟨a, ha, rfl, rfl, due, hdue, ?_⟩
    show due.truncate = (a.call.route.effectiveTime now).truncate
    rw [Route.effectiveTime, hdue, Option.getD_some]

/-- The last pending task of a queue is the one that was taken last. -/
theorem Contents.getLast?_pendingIds {m : Moment} {log : List Acceptance} {a : Acceptance}
    (h : m.Contents (log ++ [a])) (ha : a.call.route.due? = none) :
    (m.store.pendingIds a.call.record.queue).getLast? = some a.call.record.id := by
  have hslot : a.slot = none := by rw [Acceptance.slot, ha]; rfl
  show ((m.store.lane a.call.record.queue).slot none).getLast? = some a.call.record.id
  rw [h.slots, Acceptance.idsIn_append_singleton, if_pos ⟨rfl, hslot⟩, List.getLast?_concat]

end Moment

/-- **A receipt tells what the store holds.**  In any run, let a client be given a receipt for a task at a
time `now`.  The store then holds the task as the receipt describes it, with a record that has the task's
type and payload and from which the receipt can be made again, and so it does in every later state.  The
task is pending from now on and is the last of its queue, or it is scheduled for the time its options
say, which is still to come.  It has a guard with a key exactly if it has one with an end, and the key is
live. -/
theorem receipt_tells_store (c : Clock) (before : List Event) (x : Submission) (now : Instant) :
    let m := (Moment.start c).run before
    let m' : Moment := { m with store := (m.enqueue x now).2 }
    ∀ info, (m.enqueue x now).1.result = .ok info → ∃ a, x.settings? now = .ok a ∧
      let r := Record.ofTask x.task a
      r.typeName = x.task.typeName ∧ r.payload = x.task.payload ∧
        Receipt.ofRecord r info.state info.nextProcessAt info.uniqueTtl = info ∧
        (∀ after, info.Describes r (m'.run after).store) ∧
        ((info.state = .pending ∧ info.nextProcessAt = now ∧
            (m'.store.pendingIds info.queue).getLast? = some info.id) ∨
          (info.state = .scheduled ∧ now < info.nextProcessAt ∧ info.nextProcessAt = a.processAt)) ∧
        (info.uniqueKey.isSome ↔ info.uniqueTtl.isSome) ∧
        ∀ key, info.uniqueKey = some key → m'.store.isLive m.clock.steady key = true := by
  intro m m' info h
  -- The store took the call, so it is the last of the accepted ones, and stays among them.
  obtain ⟨call, hx, htaken, rfl⟩ := Moment.exists_call_of_receipt h
  obtain ⟨hopen, hfree⟩ := Store.submit_eq_ok_iff.mp htaken
  have hm' : m' = { m with store := m.store.add m.clock.steady call call.record.encode } := by
    rw [show m' = { m with store := (m.enqueue x now).2 } from rfl, (Moment.enqueue_of_ok hx).2,
      Store.submit_eq_of_free hopen hfree]
  have hheld : m'.Contents ((Moment.start c).accepted before ++ [⟨m.clock.steady, call⟩]) := by
    rw [hm']
    exact (Moment.contents_run c before).take hfree
  obtain ⟨-, a, ha, hcall⟩ := Submission.call?_eq_ok_iff.mp hx
  have hguarded : call.route.uniqueTtl.isSome ↔ call.record.uniqueKey ≠ "" := by
    rw [hcall]
    exact Route.isSome_uniqueTtl_select_iff x.task now
  refine ⟨a, ha, rfl, rfl, ?_, ?_, ?_, ?_, ?_⟩
  · rw [hcall]
    rfl
  · intro after
    have hlater := Moment.run_induction Moment.Contents.step after hheld
    have hdescribes := hlater.describes
      (List.mem_append_left _ (List.mem_append_right _ (List.mem_singleton_self _))) now
    rw [hcall] at hdescribes ⊢
    exact hdescribes
  · have hdue : call.route.due? = if now < a.processAt then some a.processAt else none := by
      rw [hcall]
      exact Route.due?_select_of_later _ _ _
    rcases Client.receipt_time hdue with ⟨hstate, htime, hnone⟩ | hscheduled
    · exact Or.inl ⟨hstate, htime, hheld.getLast?_pendingIds hnone⟩
    · exact Or.inr hscheduled
  · show call.record.guardKey.isSome ↔ call.route.uniqueTtl.isSome
    rw [Record.isSome_guardKey_iff, hguarded]
  · intro key hkey
    obtain ⟨rfl, hne⟩ := Record.guardKey_eq_some_iff.mp hkey
    obtain ⟨window, hwindow⟩ := Option.isSome_iff_exists.mp (hguarded.mpr hne)
    have hpos : 0 < window.nanos := (Settings.window_pos (a := a) (by rw [← hwindow, hcall])).2
    rw [hm']
    exact Store.isLive_add_self hwindow hpos _

/-- A task that is due in a second and a half, and guarded meanwhile, after the store is closed. -/
theorem receipt_tells_store_of_deferred :
    let x : Submission :=
      ⟨⟨"digest", [], [.unique (.ofNanos 10)]⟩, [.processIn (.ofNanos 1500000000)], "1"⟩
    let m := Moment.start ⟨some .epoch, 0⟩
    let m' : Moment := { m with store := (m.enqueue x .epoch).2 }
    let s := (m'.run [.close]).store
    s.taskState? "default" "1" = some .scheduled ∧
      (s.scheduledAt? "default" "1").map (·.second) = some 1 ∧
      m'.store.isLive 0 (Key.unique "default" "digest" []) = true := by
  intro x m m' s
  have hx : x.call? .epoch = .ok _ :=
    Submission.call?_eq_ok_iff.mpr ⟨by decide +kernel, _, rfl, rfl⟩
  have hresult := (@Moment.enqueue_of_ok m _ _ _ hx).1
  rw [Store.submit_eq_ok_iff.mpr ⟨rfl, by decide +kernel⟩] at hresult
  obtain ⟨a, -, -, -, -, hheld, -, -, hlive⟩ :=
    receipt_tells_store ⟨some .epoch, 0⟩ [] x .epoch _ hresult
  have hs := hheld [.close]
  refine ⟨hs.state, ?_, hlive _ rfl⟩
  rw [show s.scheduledAt? "default" "1" = _ from hs.scheduled rfl]
  rfl

end TaskQueue
