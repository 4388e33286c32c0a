import TaskQueue.TaskState
import TaskQueue.Time.Instant

/-!
# Routes

A task that is due now goes to the pending tasks of its queue, any other is scheduled.  Either way it may
carry a guard against duplicates; the guard of a scheduled task lasts until the task is due and for
its time to live after that.

Model of `Route`, with `Route::select`, `Route::state`, `Route::effective_time` and `Route::unique_ttl`.
-/

set_option autoImplicit false

namespace TaskQueue

/-- How a record is handed to the store. -/
inductive Route where
  | enqueue
  | enqueueUnique (ttl : Span)
  | schedule (due : Instant)
  | scheduleUnique (due : Instant) (ttl : Span)
  deriving DecidableEq, Repr

namespace Route

/-- How long it is until `due`: no time if the distance is negative. -/
def waitUntil (due now : Instant) : Span := (Span.ofOffset? (due.since now)).getD Span.zero

/-- The route of a task to be processed at `due`, chosen at `now` (`Route::select`). -/
def select (due : Instant) (uniqueTtl : Option Span) (now : Instant) : Route :=
  if due ≤ now then
    match uniqueTtl with
    | some ttl => enqueueUnique ttl
    | none => enqueue
  else
    match uniqueTtl with
    | some ttl => scheduleUnique due ((waitUntil due now).add ttl)
    | none => schedule due

/-- The state of a task that took a route. -/
def state : Route → TaskState
  | enqueue | enqueueUnique _ => .pending
  | schedule _ | scheduleUnique _ _ => .scheduled

/-- The time for which a route schedules a task. -/
def due? : Route → Option Instant
  | enqueue | enqueueUnique _ => none
  | schedule due | scheduleUnique due _ => some due

/-- When a task that took a route at `now` is processed at the earliest. -/
def effectiveTime (r : Route) (now : Instant) : Instant := r.due?.getD now

/-- How long a route guards against duplicates. -/
def uniqueTtl : Route → Option Span
  | enqueueUnique ttl | scheduleUnique _ ttl => some ttl
  | enqueue | schedule _ => none

theorem uniqueTtl_select (due : Instant) (ttl : Option Span) (now : Instant) :
    (select due ttl now).uniqueTtl.isSome = ttl.isSome := by
  unfold select
  split <;> cases ttl <;> rfl

theorem due?_select (due : Instant) (ttl : Option Span) (now : Instant) :
    (select due ttl now).due? = if due ≤ now then none else some due := by
  unfold select
  split <;> cases ttl <;> rfl

end Route

end TaskQueue
