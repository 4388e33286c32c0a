/-!
# States of a task

The stations in the life of a task.  Submission leads to two of them, pending and scheduled.  Model of
`TaskState` with `as_str` and `from_str`.
-/

set_option autoImplicit false

namespace TaskQueue

/-- A station in the life of a task. -/
inductive TaskState where
  | active
  | pending
  | scheduled
  | retry
  | archived
  | completed
  deriving DecidableEq, Repr

namespace TaskState

/-- All states. -/
def all : List TaskState := [active, pending, scheduled, retry, archived, completed]

/-- The word for a state. -/
def name : TaskState → String
  | active => "active"
  | pending => "pending"
  | scheduled => "scheduled"
  | retry => "retry"
  | archived => "archived"
  | completed => "completed"

/-- The state that a word names. -/
def ofName? (word : String) : Option TaskState := all.find? fun s => s.name == word

theorem ofName?_name (s : TaskState) : ofName? s.name = some s := by cases s <;> decide

/-- What is wrong with a word that names no state. -/
def unknownMessage (word : String) : String :=
  "unknown variant `" ++ word ++ "`, expected one of " ++
    String.intercalate ", " (all.map fun s => "`" ++ s.name ++ "`")

end TaskState

end TaskQueue
