import TaskQueue.Text.Hex
import TaskQueue.Time.Instant

/-!
# Submission records

The record of a task as stores and workers exchange it.  A number or text that is not set is zero or
empty; the views `deadlineAt`, `timeoutSpan`, `retentionSpan` and `guardKey` read that as absence.

Model of `TaskMessage` with `deadline_at`, `timeout_duration`, `retention_duration` and `unique_key`.
-/

set_option autoImplicit false

namespace TaskQueue

/-- The record of a submitted task. -/
structure Record where
  /-- The type of the task. -/
  typeName : String := ""
  /-- What the task is about, opaque to the queue. -/
  payload : Bytes := []
  id : String := ""
  queue : String := ""
  /-- How often the task is tried again after a failure. -/
  retry : Int32 := 0
  /-- How often it has been tried again. -/
  retried : Int32 := 0
  /-- What the last failure said. -/
  errorText : String := ""
  /-- How many seconds the task may run, or zero. -/
  timeout : Int64 := 0
  /-- The second by which the task must be done, or zero. -/
  deadline : Int64 := 0
  /-- The key of the guard against duplicates, or empty. -/
  uniqueKey : String := ""
  /-- The second of the last failure. -/
  lastFailedAt : Int64 := 0
  /-- How many seconds the task is kept after it is completed. -/
  retention : Int64 := 0
  /-- The second of completion. -/
  completedAt : Int64 := 0
  deriving DecidableEq, Repr

/-- A positive number of seconds as a span. -/
def spanOfSeconds? (n : Int64) : Option Span :=
  if 0 < n.toInt then Span.ofSeconds? n.toInt.toNat else none

namespace Record

/-- The deadline, if one is set and the calendar holds it. -/
def deadlineAt (r : Record) : Option Instant :=
  if r.deadline = 0 then none else Instant.ofSecond? r.deadline.toInt

/-- The timeout, if one is set. -/
def timeoutSpan (r : Record) : Option Span := spanOfSeconds? r.timeout

/-- How long the task is kept, if it is. -/
def retentionSpan (r : Record) : Option Span := spanOfSeconds? r.retention

/-- The key of the guard against duplicates, if there is one. -/
def guardKey (r : Record) : Option String :=
  if r.uniqueKey.isEmpty then none else some r.uniqueKey

end Record

theorem spanOfSeconds?_isSome {n : Int64} : (spanOfSeconds? n).isSome ↔ 0 < n.toInt := by
  unfold spanOfSeconds? Span.ofSeconds?
  have h := n.toInt_lt
  by_cases hn : 0 < n.toInt
  · have hm : n.toInt.toNat * nanosPerSecond ≤ maxSpanNanos := by
      simp only [maxSpanNanos, nanosPerSecond]
      omega
    rw [if_pos hn, dif_pos hm]
    simp [hn]
  · simp [hn]

end TaskQueue
