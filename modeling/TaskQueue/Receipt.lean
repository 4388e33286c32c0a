import TaskQueue.Record
import TaskQueue.TaskState

/-!
# Receipts

What a producer is told about a task that the store has taken.  Model of `TaskInfo`.
-/

set_option autoImplicit false

namespace TaskQueue

/-- The description of a task in a store. -/
structure Receipt where
  id : String
  queue : String
  typeName : String
  payload : Bytes
  state : TaskState
  maxRetry : Int32
  retried : Int32
  timeout : Option Span
  deadline : Option Instant
  uniqueKey : Option String
  uniqueTtl : Option Span
  retention : Option Span
  nextProcessAt : Instant
  deriving DecidableEq, Repr

/-- The receipt for a record in a state, with its next time of processing and its guard
(`TaskInfo::from_proto`). -/
def Receipt.ofRecord (r : Record) (state : TaskState) (nextProcessAt : Instant)
    (uniqueTtl : Option Span) : Receipt where
  id := r.id
  queue := r.queue
  typeName := r.typeName
  payload := r.payload
  state := state
  maxRetry := r.retry
  retried := r.retried
  timeout := r.timeoutSpan
  deadline := r.deadlineAt
  uniqueKey := r.guardKey
  uniqueTtl := uniqueTtl
  retention := r.retentionSpan
  nextProcessAt := nextProcessAt

end TaskQueue
