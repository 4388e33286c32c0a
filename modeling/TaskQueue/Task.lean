import TaskQueue.Key
import TaskQueue.Record
import TaskQueue.Settings

/-!
# Tasks and the records made of them

A task is a type, a payload and default options.  `Record.ofTask` makes its submission record from
composed options: every record limits the time its task may take, by a timeout or by a deadline.

Model of `Task` and `build_task_message`.

Principal facts: `Record.ofTask_bounded` — a record has a timeout of at least one second or a
deadline; `Record.ofTask_guardKey` — it has a guard exactly when duplicates are to be refused.
-/

set_option autoImplicit false

namespace TaskQueue

/-- A task as its producer describes it. -/
structure Task where
  typeName : String
  payload : Bytes
  options : List TaskOption := []
  deriving DecidableEq, Repr

/-- How many seconds a task may run that has neither a timeout nor a deadline. -/
def defaultTimeout : Int64 := 1800

namespace Record

/-- The timeout of a record: at least a second if one is asked for, and the default one only if there is
no deadline either. -/
def timeoutFor (timeout : Option Span) (deadline : Int64) : Int64 :=
  match timeout.filter fun d => !d.isZero with
  | some d => if d.wholeSeconds < 1 then 1 else d.wholeSeconds
  | none => if deadline = 0 then defaultTimeout else 0

/-- The deadline of a record: the second in which the instant lies. -/
def deadlineFor : Option Instant → Int64
  | some t => Int64.ofInt t.second
  | none => 0

/-- The record of a task with composed options (`build_task_message`). -/
def ofTask (task : Task) (s : Settings) : Record :=
  { typeName := task.typeName
    payload := task.payload
    id := s.taskId
    queue := s.queue
    retry := s.maxRetry
    timeout := timeoutFor s.timeout (deadlineFor s.deadline)
    deadline := deadlineFor s.deadline
    uniqueKey :=
      if s.effectiveUniqueTtl.isSome then Key.unique s.queue task.typeName task.payload else ""
    retention := s.retention.wholeSeconds }

theorem timeoutFor_bounded (timeout : Option Span) (deadline : Int64) :
    1 ≤ timeoutFor timeout deadline ∨ deadline ≠ 0 := by
  unfold timeoutFor
  split
  · left
    split
    · decide
    · rename_i h
      exact Int64.not_lt.mp h
  · split
    · left
      decide
    · right
      assumption

theorem ofTask_bounded (task : Task) (s : Settings) :
    1 ≤ (ofTask task s).timeout ∨ (ofTask task s).deadline ≠ 0 :=
  timeoutFor_bounded s.timeout (deadlineFor s.deadline)

theorem ofTask_guardKey (task : Task) (s : Settings) :
    (ofTask task s).guardKey =
      s.effectiveUniqueTtl.map fun _ => Key.unique s.queue task.typeName task.payload := by
  have hne : (Key.unique s.queue task.typeName task.payload).isEmpty = false := by
    simp [Key.unique, Key.ofQueue]
  cases h : s.effectiveUniqueTtl with
  | none => simp [ofTask, guardKey, h]
  | some ttl => simp [ofTask, guardKey, h, hne]

end Record

end TaskQueue
