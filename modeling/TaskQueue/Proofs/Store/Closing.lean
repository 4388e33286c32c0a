import TaskQueue.Proofs.Client.Requests
import TaskQueue.Proofs.Store.History

/-!
# Stores that were closed

A closed store refuses what it is asked before it looks at what it holds, and no operation opens it again.
The only thing that still changes it is a cleanup.  What that drops had expired, so nobody who asks for a
live guard can tell.

Principal results: `Store.final_of_closed` — what the clients of a closed store are told;
`Moment.closedWith_run_close` — what remains of a closed store after any events, and
`Moment.store_run_of_closed` — all of it if nothing is cleaned up; `Store.Remains.readable` — the queries go
on answering from that.
-/

set_option autoImplicit false

namespace TaskQueue

open Std (ExtTreeMap)

namespace Store

theorem close_of_closed {s : Store} (h : s.closed = true) : s.close = s := by
  cases s
  cases h
  rfl

/-- **A closed store is closed for its clients.** -/
theorem final_of_closed {s : Store} (h : s.closed = true) (now : Tick) : (broker now).Final s := by
  refine Broker.final_of_ask fun request => ?_
  cases request with
  | submit call => simp [Broker.ask, broker, submit_eq_of_closed h, Request.refused]
  | ping => simp [Broker.ask, broker, ping, h, Request.refused]
  | close => simp [Broker.ask, broker, close_of_closed h, h, Request.refused]

/-- What a later store has kept of a store, at a tick. -/
structure Remains (s s' : Store) (now : Tick) : Prop where
  /-- The lists and the buckets of all queues, with the names of the queues. -/
  lanes : s'.lanes = s.lanes
  tasks : s'.tasks = s.tasks
  /-- Nothing that was not a guard before is one now. -/
  guards : ∀ key : String, s.guards[key]? = none → s'.guards[key]? = none
  /-- A guard is kept as it is, or it has expired. -/
  dropped : ∀ (key : String) (g : Guard), s.guards[key]? = some g →
    s'.guards[key]? = some g ∨ (s'.guards[key]? = none ∧ g.isLive now = false)

/-- A close touches nothing that is kept. -/
theorem remains_close (s : Store) (now : Tick) : s.Remains s.close now :=
  ⟨rfl, rfl, fun _ h => h, fun _ _ h => Or.inl h⟩

/-- What has expired stays expired. -/
theorem Remains.of_le {s s' : Store} {now later : Tick} (h : s.Remains s' now) (hle : now ≤ later) :
    s.Remains s' later := by
  refine ⟨h.lanes, h.tasks, h.guards, fun key g hg => (h.dropped key g hg).imp_right ?_⟩
  rintro ⟨hnone, hdead⟩
  exact ⟨hnone, Guard.not_isLive_of_le hle hdead⟩

/-- A cleanup drops guards that have expired, and nothing else. -/
theorem Remains.cleanup {s s' : Store} {now reading : Tick} (h : s.Remains s' now) (hle : reading ≤ now) :
    s.Remains (s'.cleanup reading) now := by
  refine ⟨h.lanes, h.tasks, fun key hnone => ?_, fun key g hg => ?_⟩
  · rw [Store.cleanup, ExtTreeMap.getElem?_filter', h.guards key hnone]
    rfl
  · rw [Store.cleanup, ExtTreeMap.getElem?_filter']
    rcases h.dropped key g hg with hsome | ⟨hnone, hdead⟩
    · rw [hsome]
      cases hlive : g.isLive reading with
      | true => exact Or.inl (by simp [Option.filter, hlive])
      | false => exact Or.inr ⟨by simp [Option.filter, hlive], Guard.not_isLive_of_le hle hlive⟩
    · rw [hnone]
      exact Or.inr ⟨rfl, hdead⟩

theorem Remains.isLive {s s' : Store} {now : Tick} (h : s.Remains s' now) {tick : Tick} (hle : now ≤ tick)
    (key : String) : s'.isLive tick key = s.isLive tick key := by
  rw [Store.isLive, Store.isLive]
  cases hg : s.guards[key]? with
  | none => rw [h.guards key hg]
  | some g =>
    rcases h.dropped key g hg with hsome | ⟨hnone, hdead⟩
    · rw [hsome]
    · rw [hnone]
      exact (Guard.not_isLive_of_le hle hdead).symm

/-- What a store `s` held can still be asked of a later store `s'`, as of `now`. -/
structure Readable (s s' : Store) (now : Tick) : Prop where
  remains : s.Remains s' now
  taskState : ∀ queue id, s'.taskState? queue id = s.taskState? queue id
  taskRecord : ∀ queue id, s'.taskRecord? queue id = s.taskRecord? queue id
  pendingIds : ∀ queue, s'.pendingIds queue = s.pendingIds queue
  scheduledAt : ∀ queue id, s'.scheduledAt? queue id = s.scheduledAt? queue id
  queues : s'.queues = s.queues
  isLive : ∀ key tick, now ≤ tick → s'.isLive tick key = s.isLive tick key

/-- Every query reads only what remains. -/
theorem Remains.readable {s s' : Store} {now : Tick} (h : s.Remains s' now) : s.Readable s' now where
  remains := h
  taskState queue id := by rw [taskState?, h.tasks, taskState?]
  taskRecord queue id := by rw [taskRecord?, h.tasks, taskRecord?]
  pendingIds queue := by rw [pendingIds, lane, h.lanes, pendingIds, lane]
  scheduledAt queue id := by rw [scheduledAt?, lane, h.lanes, scheduledAt?, lane]
  queues := by rw [queues, h.lanes, queues]
  isLive key tick hle := h.isLive hle key

end Store

namespace Moment

theorem steady_le_next (m : Moment) (e : Event) : m.clock.steady ≤ (m.next e).clock.steady := by
  cases e with
  | enqueue x =>
    unfold next
    cases m.clock.wall with
    | none => exact Nat.le_refl _
    | some now => exact Nat.le_refl _
  | submit call | cleanup age | close => exact Nat.le_refl _
  | advance d => exact m.clock.steady_le_advance d

/-- **An event leaves a closed store as it is**, unless it is a cleanup. -/
theorem store_next_of_closed {m : Moment} (h : m.store.closed = true) (e : Event) :
    (m.next e).store = m.store ∨
      ∃ age, e = .cleanup age ∧ (m.next e).store = m.store.cleanup (m.clock.steady - age) := by
  cases e with
  | enqueue x =>
    left
    rw [next_enqueue]
    cases m.offer? (.enqueue x) with
    | none => rfl
    | some call => exact congrArg Prod.snd (Store.submit_eq_of_closed h m.clock.steady call)
  | submit call =>
    left
    exact congrArg Prod.snd (Store.submit_eq_of_closed h m.clock.steady call)
  | cleanup age => exact Or.inr ⟨age, rfl, rfl⟩
  | close => exact Or.inl (Store.close_of_closed h)
  | advance d => exact Or.inl rfl

/-- A moment has a closed store, with what remains of a store in it. -/
structure ClosedWith (s : Store) (m : Moment) : Prop where
  closed : m.store.closed = true
  remains : s.Remains m.store m.clock.steady

theorem ClosedWith.next {s : Store} {m : Moment} (h : ClosedWith s m) (e : Event) :
    ClosedWith s (m.next e) := by
  have hlater := h.remains.of_le (m.steady_le_next e)
  rcases store_next_of_closed h.closed e with hstore | ⟨age, rfl, hstore⟩
  · exact ⟨hstore ▸ h.closed, hstore ▸ hlater⟩
  · exact ⟨h.closed, h.remains.cleanup (Nat.sub_le _ _)⟩

theorem ClosedWith.run {s : Store} (es : List Event) : ∀ {m : Moment}, ClosedWith s m →
    ClosedWith s (m.run es) := by
  induction es with
  | nil => exact fun h => h
  | cons e es ih => exact fun h => ih (h.next e)

/-- **A store that is closed stays closed**, and keeps what it held. -/
theorem closedWith_run_close (m : Moment) (es : List Event) :
    ClosedWith m.store ((m.next .close).run es) :=
  ClosedWith.run es ⟨rfl, m.store.remains_close _⟩

/-- Without a cleanup a closed store does not change at all. -/
theorem store_run_of_closed {es : List Event} (hes : ∀ age, .cleanup age ∉ es) :
    ∀ {m : Moment}, m.store.closed = true → (m.run es).store = m.store := by
  induction es with
  | nil => exact fun _ => rfl
  | cons e es ih =>
    intro m h
    have hstore : (m.next e).store = m.store := by
      rcases store_next_of_closed h e with hstore | ⟨age, rfl, -⟩
      · exact hstore
      · exact absurd List.mem_cons_self (hes age)
    show ((m.next e).run es).store = m.store
    rw [ih (fun age hmem => hes age (List.mem_cons_of_mem e hmem)) (hstore ▸ h), hstore]

end Moment

end TaskQueue
