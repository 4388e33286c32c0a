import TaskQueue.Proofs.Client.Call
import TaskQueue.Proofs.Store.Operations

/-!
# Histories of a store

A moment is a store in memory together with the clock it goes by, and an event is what can happen to
them: a client submits a task, somebody hands a record over directly, expired guards are dropped, the
store is closed, time passes.  Requests hold the store's lock, so any interleaving of any number of
callers is a list of events.

What the store has taken is read off the answers it gave: `Moment.accepted` lists the calls that were
answered with success, in that order and with the tick of each.

Principal results: `Moment.step_next` — whatever the event, one of six things happens to the moment;
`Moment.run_induction` — what these six keep holds after every run, of the moment and of the list of
accepted calls.
-/

set_option autoImplicit false

namespace TaskQueue

/-- What happens to a store in memory. -/
inductive Event where
  /-- A client submits a task. -/
  | enqueue (x : Submission)
  /-- A record is handed over directly. -/
  | submit (call : Call)
  /-- Expired guards are dropped, by a reading of the clock that is `age` nanoseconds old: the clock is
  read before the store is locked. -/
  | cleanup (age : Nat)
  /-- The store is closed. -/
  | close
  /-- Time passes. -/
  | advance (d : Span)

/-- A call that the store took, and when. -/
structure Acceptance where
  tick : Tick
  call : Call
  deriving DecidableEq

/-- A store in memory and the clock that it goes by. -/
structure Moment where
  clock : Clock
  store : Store

namespace Moment

def start (c : Clock) : Moment := ⟨c, .empty⟩

/-- What a client is told that submits `x` at the civil time `now`, and the store afterwards.  The clock does not
move in the meantime; a call for which it was read at two times is handed over by `Event.submit`. -/
def enqueue (m : Moment) (x : Submission) (now : Instant) : Answer Error Receipt × Store :=
  (Client.enqueue (Store.broker m.clock.steady) x.task x.opts now x.freshId).run m.store

/-- What a client is told that submits `x`; nobody submits after the end of the calendar. -/
def reply? (m : Moment) (x : Submission) : Option (Except Error Receipt) :=
  m.clock.wall.map fun now => (m.enqueue x now).1.result

/-- The moment after an event. -/
def next (m : Moment) : Event → Moment
  | .enqueue x =>
    match m.clock.wall with
    | some now => { m with store := (m.enqueue x now).2 }
    | none => m
  | .submit call => { m with store := (m.store.submit m.clock.steady call).2 }
  | .cleanup age => { m with store := m.store.cleanup (m.clock.steady - age) }
  | .close => { m with store := m.store.close }
  | .advance d => { m with clock := m.clock.advance d }

/-- The call that an event puts to the store. -/
def offer? (m : Moment) : Event → Option Call
  | .enqueue x => m.clock.wall.bind fun now => (x.call? now).toOption
  | .submit call => some call
  | .cleanup _ | .close | .advance _ => none

/-- The call of an event, if the store takes it. -/
def taken (m : Moment) (e : Event) : List Acceptance :=
  match m.offer? e with
  | none => []
  | some call =>
    match (m.store.submit m.clock.steady call).1 with
    | .ok () => [⟨m.clock.steady, call⟩]
    | .error _ => []

/-- The moment after a list of events. -/
def run (m : Moment) (es : List Event) : Moment := es.foldl next m

/-- The calls that the store takes in the course of a list of events. -/
def accepted (m : Moment) : List Event → List Acceptance
  | [] => []
  | e :: es => m.taken e ++ (m.next e).accepted es

theorem run_append (m : Moment) (es es' : List Event) : m.run (es ++ es') = (m.run es).run es' :=
  List.foldl_append

theorem accepted_append (m : Moment) (es es' : List Event) :
    m.accepted (es ++ es') = m.accepted es ++ (m.run es).accepted es' := by
  induction es generalizing m with
  | nil => rfl
  | cons e es ih => rw [List.cons_append, accepted, accepted, ih, List.append_assoc]; rfl

/-! ## Submissions of clients -/

/-- A submission that is no call is answered without the store. -/
theorem enqueue_eq_of_error {m : Moment} {x : Submission} {now : Instant} {e : Error}
    (h : x.call? now = .error e) :
    m.enqueue x now = (⟨.error e, Client.preparationNotices x.task x.opts now⟩, m.store) := by
  unfold enqueue Client.enqueue
  rw [show Client.prepare x.task x.opts now x.freshId = .error e from h]
  rfl

/-- A submission that is a call is answered as the store answers the call. -/
theorem enqueue_eq_of_ok {m : Moment} {x : Submission} {now : Instant} {call : Call}
    (h : x.call? now = .ok call) :
    let result := Client.conclude call now (m.store.submit m.clock.steady call).1
    m.enqueue x now =
      (⟨result, Client.preparationNotices x.task x.opts now ++ [] ++ Client.conclusionNotices call result⟩,
        (m.store.submit m.clock.steady call).2) := by
  unfold enqueue Client.enqueue
  rw [show Client.prepare x.task x.opts now x.freshId = .ok call from h]
  rfl

theorem enqueue_of_error {m : Moment} {x : Submission} {now : Instant} {e : Error}
    (h : x.call? now = .error e) :
    (m.enqueue x now).1.result = .error e ∧ (m.enqueue x now).2 = m.store := by
  rw [enqueue_eq_of_error h]
  exact ⟨rfl, rfl⟩

theorem enqueue_of_ok {m : Moment} {x : Submission} {now : Instant} {call : Call}
    (h : x.call? now = .ok call) :
    (m.enqueue x now).1.result =
        Client.conclude call now (m.store.submit m.clock.steady call).1 ∧
      (m.enqueue x now).2 = (m.store.submit m.clock.steady call).2 := by
  rw [enqueue_eq_of_ok h]
  exact ⟨rfl, rfl⟩

/-- What happens when a client submits a task is what happens to the call that is put to the store, if any. -/
theorem next_enqueue (m : Moment) (x : Submission) :
    m.next (.enqueue x) = match m.offer? (.enqueue x) with
      | some call => m.next (.submit call)
      | none => m := by
  cases hw : m.clock.wall with
  | none => simp only [next, offer?, hw, Option.bind_none]
  | some now =>
    cases hx : x.call? now with
    | error e => simp only [next, offer?, hw, hx, Option.bind_some, Except.toOption, (enqueue_of_error hx).2]
    | ok call => simp only [next, offer?, hw, hx, Option.bind_some, Except.toOption, (enqueue_of_ok hx).2]

theorem taken_enqueue (m : Moment) (x : Submission) :
    m.taken (.enqueue x) = match m.offer? (.enqueue x) with
      | some call => m.taken (.submit call)
      | none => [] := by
  unfold taken
  cases m.offer? (.enqueue x) <;> rfl

/-- A receipt is given for a call that the store takes. -/
theorem exists_call_of_receipt {m : Moment} {x : Submission} {now : Instant} {info : Receipt}
    (h : (m.enqueue x now).1.result = .ok info) :
    ∃ call, x.call? now = .ok call ∧ (m.store.submit m.clock.steady call).1 = .ok () ∧
      info = Client.receipt call now := by
  cases hx : x.call? now with
  | error e =>
    rw [(enqueue_of_error hx).1] at h
    cases h
  | ok call =>
    rw [(enqueue_of_ok hx).1] at h
    have htaken := Client.conclude_eq_ok h
    rw [htaken] at h
    cases h
    exact ⟨call, rfl, htaken, rfl⟩

end Moment

/-- What an event does to a moment, with the calls that are accepted on the way. -/
inductive Step (m : Moment) : Moment → List Acceptance → Prop where
  /-- Nothing: the submission was at fault, or the store was closed. -/
  | idle : Step m m []
  /-- A record is added. -/
  | take (call : Call) (hopen : m.store.closed = false)
      (h : m.store.refusal? m.clock.steady call = none) :
      Step m { m with store := m.store.add m.clock.steady call call.record.encode }
        [⟨m.clock.steady, call⟩]
  /-- A call is refused, and its queue is heard of. -/
  | refuse (queue : String) : Step m { m with store := m.store.register queue } []
  /-- Guards that had expired at an earlier tick are dropped. -/
  | cleanup (reading : Tick) (h : reading ≤ m.clock.steady) :
      Step m { m with store := m.store.cleanup reading } []
  | close : Step m { m with store := m.store.close } []
  | advance (d : Span) : Step m { m with clock := m.clock.advance d } []

namespace Moment

/-- A call that is put to the store is taken, refused, or passed over by a closed store. -/
theorem step_submit (m : Moment) (call : Call) :
    Step m { m with store := (m.store.submit m.clock.steady call).2 } (m.taken (.submit call)) := by
  cases hc : m.store.closed with
  | true =>
    simp only [taken, offer?, Store.submit_eq_of_closed hc]
    exact .idle
  | false =>
    cases hr : m.store.refusal? m.clock.steady call with
    | none =>
      simp only [taken, offer?, Store.submit_eq_of_free hc hr]
      exact .take call hc hr
    | some e =>
      simp only [taken, offer?, Store.submit_eq_of_refusal hc hr]
      exact .refuse call.record.queue

/-- **Every event is a step.** -/
theorem step_next (m : Moment) (e : Event) : Step m (m.next e) (m.taken e) := by
  cases e with
  | enqueue x =>
    rw [next_enqueue, taken_enqueue]
    cases m.offer? (.enqueue x) with
    | none => exact .idle
    | some call => exact step_submit m call
  | submit call => exact step_submit m call
  | cleanup age => exact .cleanup _ (Nat.sub_le _ _)
  | close => exact .close
  | advance d => exact .advance d

/-- What every step keeps, of a moment and of the calls accepted before it, holds after a run. -/
theorem run_induction {P : Moment → List Acceptance → Prop}
    (hstep : ∀ {m m' log new}, Step m m' new → P m log → P m' (log ++ new)) (es : List Event) :
    ∀ {m log}, P m log → P (m.run es) (log ++ m.accepted es) := by
  induction es with
  | nil =>
    intro m log h
    rw [accepted, List.append_nil]
    exact h
  | cons e es ih =>
    intro m log h
    rw [accepted, ← List.append_assoc]
    exact ih (hstep (step_next m e) h)

/-- What holds of a new store and is kept by every step holds of every store in use. -/
theorem run_start_induction {P : Moment → List Acceptance → Prop} {c : Clock} (h : P (start c) [])
    (hstep : ∀ {m m' log new}, Step m m' new → P m log → P m' (log ++ new)) (es : List Event) :
    P ((start c).run es) ((start c).accepted es) := by
  have hrun := run_induction hstep es h
  rwa [List.nil_append] at hrun

end Moment

end TaskQueue
