import TaskQueue.Broker
import TaskQueue.Receipt
import TaskQueue.Task

/-!
# Clients

A client turns a task into one call on its broker.  `Client.prepare` checks the task, composes its
options and chooses the route; nothing reaches the broker if it refuses.  `Client.conclude` turns the
broker's answer into a receipt or an error for the caller.

Model of `Client::enqueue`, cut at its call of the broker, and of `Client::ping` and `Client::close`.

Principal facts: `prepare_isValidation` — what is refused before the broker is reached is a fault of the
submission; `conclude_not_isValidation` — what the broker refuses is not.
-/

set_option autoImplicit false

namespace TaskQueue.Client

open Text

/-- What `Client::enqueue` does before the broker is reached: the call that submits a task, with `freshId` as
its id unless an option names one.  The clock is read twice: the options are composed at `composed`, and the
route is chosen at `now`. -/
def prepare (task : Task) (opts : List TaskOption) (now : Instant) (freshId : String)
    (composed : Instant := now) : Except Error Call :=
  if allBlank task.typeName then .error (.invalidTaskType task.typeName)
  else
    match Settings.compose composed (Settings.initial composed freshId) (task.options ++ opts) with
    | .error e => .error e
    | .ok s => .ok ⟨Record.ofTask task s, Route.select s.processAt s.effectiveUniqueTtl now⟩

/-- The receipt for a call that the broker took at `now`. -/
def receipt (call : Call) (now : Instant) : Receipt :=
  .ofRecord call.record call.route.state (call.route.effectiveTime now) call.route.uniqueTtl

/-- The outcome of a call for the caller. -/
def conclude (call : Call) (now : Instant) : Except BrokerError Unit → Except Error Receipt
  | .ok () => .ok (receipt call now)
  | .error e => .error (.ofBroker e)

/-- What is noted before the broker is reached: the options that composition passed over. -/
def preparationNotices (task : Task) (opts : List TaskOption) (composed : Instant) : List Notice :=
  if allBlank task.typeName then []
  else (Settings.ignored composed (task.options ++ opts)).map .ignoredOption

/-- What is noted about the outcome of a call. -/
def conclusionNotices (call : Call) : Except Error Receipt → List Notice
  | .error e => if e.isConflict then [.notEnqueued call.record.id call.record.queue e] else []
  | .ok _ => []

variable {m : Type → Type} [Monad m]

/-- Submits a task: prepares the call from two readings of the clock, puts it to the broker, and concludes
from the answer.  A submission during which the clock does not move needs one of the readings only. -/
def enqueue (broker : Broker m) (task : Task) (opts : List TaskOption) (now : Instant)
    (freshId : String) (composed : Instant := now) : m (Answer Error Receipt) :=
  match prepare task opts now freshId composed with
  | .error e => pure ⟨.error e, preparationNotices task opts composed⟩
  | .ok call => do
    let answer ← broker.submit call
    let result := conclude call now answer.result
    return ⟨result,
      preparationNotices task opts composed ++ answer.notices ++ conclusionNotices call result⟩

/-- A broker's answer as the caller is told it. -/
def relay (answer : Answer BrokerError Unit) : Answer Error Unit :=
  ⟨answer.result.mapError .ofBroker, answer.notices⟩

/-- Asks whether the store is there. -/
def ping (broker : Broker m) : m (Answer Error Unit) := do return relay (← broker.ping)

/-- Gives the store up. -/
def close (broker : Broker m) : m (Answer Error Unit) := do return relay (← broker.close)

theorem prepare_isValidation {task : Task} {opts : List TaskOption} {now composed : Instant}
    {freshId : String} {e : Error} (h : prepare task opts now freshId composed = .error e) :
    e.isValidation = true := by
  unfold prepare at h
  split at h
  · cases h
    rfl
  · split at h
    · rename_i hc
      cases h
      rw [Settings.compose_eq_error_iff] at hc
      obtain ⟨o, _, ho⟩ := List.exists_of_findSome?_eq_some hc
      cases o <;> simp only [TaskOption.fault?, Option.ite_none_right_eq_some, reduceCtorEq,
        Option.some.injEq] at ho
      all_goals
        obtain ⟨_, rfl⟩ := ho
        rfl
    · cases h

theorem conclude_not_isValidation {call : Call} {now : Instant} {r : Except BrokerError Unit}
    {e : Error} (h : conclude call now r = .error e) : e.isValidation = false := by
  cases r with
  | ok u => simp [conclude] at h
  | error b =>
    simp only [conclude, Except.error.injEq] at h
    rw [← h, Error.isValidation_ofBroker]

end TaskQueue.Client
