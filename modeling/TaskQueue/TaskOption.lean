import TaskQueue.Time.Instant

/-!
# Task options

One option changes one aspect of how a task is handled.  Texts and lengths are kept as given: whether
a queue name, an id or a delay is acceptable is decided when options are composed.

Model of `OptionType` and `TaskOption` with its constructors.
-/

set_option autoImplicit false

namespace TaskQueue

/-- The kinds of options that have a meaning. -/
inductive OptionKind where
  | maxRetry
  | queue
  | taskId
  | timeout
  | deadline
  | unique
  | processAt
  | processIn
  | retention
  deriving DecidableEq, Repr

/-- An option of a task. -/
inductive TaskOption where
  /-- How often the task is tried again after a failure. -/
  | maxRetry (count : Int32)
  /-- The queue the task goes to. -/
  | queue (name : String)
  /-- The id of the task. -/
  | taskId (id : String)
  /-- How long the task may run; no length sets no limit. -/
  | timeout (limit : Span)
  /-- When the task must be done. -/
  | deadline (due : Instant)
  /-- How long a second task of the same queue, type and payload is refused. -/
  | unique (ttl : Span)
  /-- When the task is to be processed. -/
  | processAt (due : Instant)
  /-- How long after composition the task is to be processed. -/
  | processIn (wait : Span)
  /-- How long the task is kept after it is completed. -/
  | retention (keep : Span)
  /-- An option of a kind without a meaning here. -/
  | unrecognized (name value : String)
  deriving DecidableEq, Repr

namespace OptionKind

/-- All kinds. -/
def all : List OptionKind :=
  [maxRetry, queue, taskId, timeout, deadline, unique, processAt, processIn, retention]

/-- The word that names a kind in option text. -/
def name : OptionKind → String
  | maxRetry => "MaxRetry"
  | queue => "Queue"
  | taskId => "TaskID"
  | timeout => "Timeout"
  | deadline => "Deadline"
  | unique => "Unique"
  | processAt => "ProcessAt"
  | processIn => "ProcessIn"
  | retention => "Retention"

/-- The kind that a word names. -/
def ofName? (word : String) : Option OptionKind := all.find? fun k => k.name == word

theorem ofName?_name (k : OptionKind) : ofName? k.name = some k := by cases k <;> decide

end OptionKind

namespace TaskOption

/-- The retry option for a count, where a negative count means none (`TaskOption::max_retry`). -/
def retries (count : Int32) : TaskOption := .maxRetry (if count < 0 then 0 else count)

/-- The kind of an option, if it has a meaning. -/
def kind? : TaskOption → Option OptionKind
  | maxRetry _ => some .maxRetry
  | queue _ => some .queue
  | taskId _ => some .taskId
  | timeout _ => some .timeout
  | deadline _ => some .deadline
  | unique _ => some .unique
  | processAt _ => some .processAt
  | processIn _ => some .processIn
  | retention _ => some .retention
  | unrecognized _ _ => none

end TaskOption

end TaskQueue
