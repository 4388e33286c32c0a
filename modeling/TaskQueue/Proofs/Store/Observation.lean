import TaskQueue.Proofs.Store.Closing

/-!
# What is seen of a store in memory

Everybody who uses a store sees the answers to what they do and to what they ask.  A cleanup drops guards
that have expired, and an expired guard is treated as none at all, so a store that has been cleaned up
answers as one that has not, now and after anything that happens to both of them.

Principal results: `Moment.Tidied.next` — what happens to a store and to a tidied copy of it leaves the
second a tidied copy of the first; `Moment.Tidied.reply` — both give the same answers;
`Moment.heard_eq_of_tidied` — a run without its cleanups is heard in the same way.
-/

set_option autoImplicit false

namespace TaskQueue

open Std (ExtTreeMap)

/-- What can be asked of a store in memory, which nothing follows from. -/
inductive Query where
  | ping
  | taskState (queue id : String)
  | taskRecord (queue id : String)
  | pendingIds (queue : String)
  | scheduledAt (queue id : String)
  | queues
  | isLive (key : String)

/-- What somebody does with a store in memory. -/
inductive Act where
  | event (e : Event)
  | query (q : Query)

/-- Whether an act is a cleanup. -/
def Act.isCleanup : Act → Bool
  | event (.cleanup _) => true
  | _ => false

theorem Act.isCleanup_iff {act : Act} : act.isCleanup = true ↔ ∃ age, act = .event (.cleanup age) := by
  unfold isCleanup
  split <;> simp_all

/-- What somebody is told who does something with a store. -/
inductive Told where
  /-- The answer to a client, if there was a civil time to submit at. -/
  | receipt (answer : Option (Answer Error Receipt))
  /-- The answer to a request. -/
  | outcome (answer : Answer BrokerError Unit)
  /-- How many guards were dropped. -/
  | dropped (count : Nat)
  | state (s : Option TaskState)
  | record (r : Except Error (Option Record))
  | ids (l : List String)
  | due (t : Option Instant)
  | live (b : Bool)
  /-- Nothing: time has passed. -/
  | nothing

namespace Moment

/-- The answer to a request. -/
def ask (m : Moment) (request : Request) : Answer BrokerError Unit :=
  (((Store.broker m.clock.steady).ask request).run m.store).1

theorem ask_submit (m : Moment) (call : Call) :
    m.ask (.submit call) = ⟨(m.store.submit m.clock.steady call).1, []⟩ := rfl

theorem ask_ping (m : Moment) : m.ask .ping = ⟨m.store.ping, []⟩ := rfl

theorem ask_close (m : Moment) :
    m.ask .close = ⟨.ok (), if m.store.closed then [] else [.storeClosed]⟩ := rfl

/-- The answer to a query. -/
def answer (m : Moment) : Query → Told
  | .ping => .outcome (m.ask .ping)
  | .taskState queue id => .state (m.store.taskState? queue id)
  | .taskRecord queue id => .record (m.store.taskRecord? queue id)
  | .pendingIds queue => .ids (m.store.pendingIds queue)
  | .scheduledAt queue id => .due (m.store.scheduledAt? queue id)
  | .queues => .ids m.store.queues
  | .isLive key => .live (m.store.isLive m.clock.steady key)

/-- What is told about an act. -/
def reply (m : Moment) : Act → Told
  | .event (.enqueue x) => .receipt (m.clock.wall.map fun now => (m.enqueue x now).1)
  | .event (.submit call) => .outcome (m.ask (.submit call))
  | .event (.cleanup age) => .dropped (m.store.expiredCount (m.clock.steady - age))
  | .event .close => .outcome (m.ask .close)
  | .event (.advance _) => .nothing
  | .query q => m.answer q

/-- The moment after an act. -/
def after (m : Moment) : Act → Moment
  | .event e => m.next e
  | .query _ => m

/-- What is told in the course of a list of acts, to all but those who clean up. -/
def heard (m : Moment) : List Act → List Told
  | [] => []
  | act :: acts =>
    if act.isCleanup then (m.after act).heard acts else m.reply act :: (m.after act).heard acts

end Moment

/-! ## The guard that a call sets -/

namespace Acceptance

/-- An accepted call set the guard of a key. -/
def Sets (a : Acceptance) (key : String) : Prop :=
  a.call.route.uniqueTtl.isSome ∧ a.call.record.uniqueKey = key

instance (a : Acceptance) (key : String) : Decidable (a.Sets key) :=
  inferInstanceAs (Decidable (_ ∧ _))

/-- The guard that an accepted call set. -/
def guard? (a : Acceptance) : Option Guard :=
  a.call.route.uniqueTtl.map fun ttl => ⟨a.call.record.id, a.tick.add? ttl⟩

end Acceptance

/-! ## Stores of which one has been cleaned up -/

namespace Store

variable {s s' : Store} {now : Tick}

theorem Remains.refl (s : Store) (now : Tick) : s.Remains s now :=
  ⟨rfl, rfl, fun _ h => h, fun _ _ h => Or.inl h⟩

theorem Remains.refusal? (h : s.Remains s' now) (call : Call) :
    s'.refusal? now call = s.refusal? now call := by
  rw [Store.refusal?, Store.refusal?, h.isLive (Nat.le_refl _), h.tasks]

theorem Remains.register (h : s.Remains s' now) (queue : String) :
    (s.register queue).Remains (s'.register queue) now where
  lanes := by rw [Store.register, Store.register, lane, lane, h.lanes]
  tasks := h.tasks
  guards := h.guards
  dropped := h.dropped

/-- A call that is added sets the guard of its key, and no other guard. -/
theorem getElem?_guards_add (s : Store) (now : Tick) (call : Call) (encoded : Bytes) (key : String) :
    (s.add now call encoded).guards[key]? =
      if Acceptance.Sets ⟨now, call⟩ key then Acceptance.guard? ⟨now, call⟩ else s.guards[key]? := by
  cases hu : call.route.uniqueTtl with
  | none => simp only [add, guardsAfter, Acceptance.Sets, hu, Option.isSome_none, Bool.false_eq_true,
      false_and, if_false]
  | some ttl => simp only [add, guardsAfter, Acceptance.Sets, Acceptance.guard?, hu, Option.isSome_some,
      true_and, Option.map_some, ExtTreeMap.getElem?_insert, Std.LawfulEqCmp.compare_eq_iff_eq]

theorem Remains.add (h : s.Remains s' now) (call : Call) (encoded : Bytes) :
    (s.add now call encoded).Remains (s'.add now call encoded) now where
  lanes := by simp only [Store.add, lane, h.lanes]
  tasks := by simp only [Store.add, h.tasks]
  guards key := by
    rw [getElem?_guards_add, getElem?_guards_add]
    split
    · exact id
    · exact h.guards key
  dropped key g := by
    rw [getElem?_guards_add, getElem?_guards_add]
    split
    · exact Or.inl
    · exact h.dropped key g

/-- **A submission does the same to both stores.** -/
theorem Remains.submit (h : s.Remains s' now) (hclosed : s'.closed = s.closed) (call : Call) :
    (s'.submit now call).1 = (s.submit now call).1 ∧
      (s'.submit now call).2.closed = (s.submit now call).2.closed ∧
      (s.submit now call).2.Remains (s'.submit now call).2 now := by
  cases hc : s.closed with
  | true =>
    rw [submit_eq_of_closed hc, submit_eq_of_closed (hclosed.trans hc)]
    exact ⟨rfl, hclosed, h⟩
  | false =>
    have hc' := hclosed.trans hc
    have hrefusal := h.refusal? call
    cases hr : s.refusal? now call with
    | some e =>
      rw [submit_eq_of_refusal hc hr, submit_eq_of_refusal hc' (hrefusal.trans hr)]
      exact ⟨rfl, hclosed, h.register _⟩
    | none =>
      rw [submit_eq_of_free hc hr, submit_eq_of_free hc' (hrefusal.trans hr)]
      exact ⟨rfl, hclosed, h.add call _⟩

end Store

namespace Moment

/-- A moment is a tidied copy of another one: some guards are gone that have expired. -/
structure Tidied (m m' : Moment) : Prop where
  clock : m'.clock = m.clock
  closed : m'.store.closed = m.store.closed
  remains : m.store.Remains m'.store m.clock.steady

variable {m m' : Moment}

theorem Tidied.refl (m : Moment) : m.Tidied m := ⟨rfl, rfl, .refl _ _⟩

/-- A cleanup tidies, and nobody needs to do the same to the other store. -/
theorem Tidied.cleanup (h : m.Tidied m') (age : Nat) : m.Tidied (m'.next (.cleanup age)) where
  clock := h.clock
  closed := h.closed
  remains := h.remains.cleanup (by rw [h.clock]; exact Nat.sub_le _ _)

theorem Tidied.submit (h : m.Tidied m') (call : Call) :
    (m.next (.submit call)).Tidied (m'.next (.submit call)) := by
  obtain ⟨-, hclosed, hremains⟩ := h.remains.submit h.closed call
  refine ⟨h.clock, ?_, ?_⟩
  · simp only [Moment.next, h.clock]
    exact hclosed
  · simp only [Moment.next, h.clock]
    exact hremains

/-- **Both moments go on in the same way.** -/
theorem Tidied.next (h : m.Tidied m') {e : Event} (he : ∀ age, e ≠ .cleanup age) :
    (m.next e).Tidied (m'.next e) := by
  cases e with
  | enqueue x =>
    have hoffer : m'.offer? (.enqueue x) = m.offer? (.enqueue x) := by rw [offer?, offer?, h.clock]
    rw [next_enqueue, next_enqueue, hoffer]
    split
    · exact h.submit _
    · exact h
  | submit call => exact h.submit call
  | cleanup age => exact absurd rfl (he age)
  | close => exact ⟨h.clock, rfl, ⟨h.remains.lanes, h.remains.tasks, h.remains.guards, h.remains.dropped⟩⟩
  | advance d =>
    exact ⟨congrArg (·.advance d) h.clock, h.closed, h.remains.of_le (m.clock.steady_le_advance d)⟩

/-! ## The same answers -/

theorem Tidied.ask (h : m.Tidied m') (request : Request) : m'.ask request = m.ask request := by
  cases request with
  | submit call => rw [ask_submit, ask_submit, h.clock, (h.remains.submit h.closed call).1]
  | ping => rw [ask_ping, ask_ping, Store.ping, Store.ping, h.closed]
  | close => rw [ask_close, ask_close, h.closed]

/-- A client is told the same, and the same is noted. -/
theorem Tidied.enqueue (h : m.Tidied m') (x : Submission) (now : Instant) :
    (m'.enqueue x now).1 = (m.enqueue x now).1 := by
  cases hx : x.call? now with
  | error e => rw [enqueue_eq_of_error hx, enqueue_eq_of_error hx]
  | ok call =>
    rw [enqueue_eq_of_ok hx, enqueue_eq_of_ok hx, h.clock, (h.remains.submit h.closed call).1]

theorem Tidied.answer (h : m.Tidied m') (q : Query) : m'.answer q = m.answer q := by
  have hread := h.remains.readable
  cases q with
  | ping => exact congrArg Told.outcome (h.ask .ping)
  | taskState queue id => exact congrArg Told.state (hread.taskState queue id)
  | taskRecord queue id => exact congrArg Told.record (hread.taskRecord queue id)
  | pendingIds queue => exact congrArg Told.ids (hread.pendingIds queue)
  | scheduledAt queue id => exact congrArg Told.due (hread.scheduledAt queue id)
  | queues => exact congrArg Told.ids hread.queues
  | isLive key =>
    rw [Moment.answer, h.clock, hread.isLive key m.clock.steady (Nat.le_refl _), Moment.answer]

/-- **Both moments give the same answers**, except to those who clean up. -/
theorem Tidied.reply (h : m.Tidied m') {act : Act} (hact : act.isCleanup = false) :
    m'.reply act = m.reply act := by
  cases act with
  | query q => exact h.answer q
  | event e =>
    cases e with
    | enqueue x => simp only [Moment.reply, h.clock, h.enqueue x]
    | submit call => exact congrArg Told.outcome (h.ask (.submit call))
    | cleanup age => cases hact
    | close => exact congrArg Told.outcome (h.ask .close)
    | advance d => rfl

theorem Tidied.after (h : m.Tidied m') {act : Act} (hact : act.isCleanup = false) :
    (m.after act).Tidied (m'.after act) := by
  cases act with
  | query q => exact h
  | event e =>
    refine h.next fun age he => ?_
    rw [he] at hact
    cases hact

/-- **A run is heard as it is without its cleanups**, and without the cleanups before it. -/
theorem heard_eq_of_tidied {acts : List Act} : ∀ {m m' : Moment}, m.Tidied m' →
    m'.heard acts = m.heard (acts.filter fun act => !act.isCleanup) := by
  induction acts with
  | nil => exact fun _ => rfl
  | cons act acts ih =>
    intro m m' h
    cases hact : act.isCleanup with
    | true =>
      obtain ⟨age, rfl⟩ := Act.isCleanup_iff.mp hact
      rw [heard, if_pos hact, List.filter_cons_of_neg (by simp [hact])]
      exact ih (h.cleanup age)
    | false =>
      rw [heard, hact, List.filter_cons_of_pos (by simp [hact]), heard, hact, h.reply hact, ih (h.after hact)]

end Moment

end TaskQueue
