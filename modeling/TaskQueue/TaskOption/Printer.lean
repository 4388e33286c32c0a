import TaskQueue.TaskOption
import TaskQueue.Text.Quoted
import TaskQueue.Time.Rfc3339

/-!
# Options as text

An option is written as its name and, in parentheses, its value: a number, a quoted text, whole
seconds with an `s`, or an RFC 3339 time.  Model of the `Display` form of `TaskOption`.
-/

set_option autoImplicit false

namespace TaskQueue.TaskOption

open Text

/-- Whole seconds with the unit. -/
def printSpan (d : Span) : List Char := Decimal.ofNat d.seconds ++ ['s']

/-- The value of an option as it stands between the parentheses. -/
def printValue : TaskOption → List Char
  | maxRetry n => Decimal.ofInt n.toInt
  | queue name => Quoted.encode name.toList
  | taskId id => Quoted.encode id.toList
  | timeout d => printSpan d
  | deadline t => Rfc3339.print t
  | unique d => printSpan d
  | processAt t => Rfc3339.print t
  | processIn d => printSpan d
  | retention d => printSpan d
  | unrecognized _ value => value.toList

/-- The word in front of the parentheses. -/
def printName : TaskOption → List Char
  | maxRetry _ => OptionKind.maxRetry.name.toList
  | queue _ => OptionKind.queue.name.toList
  | taskId _ => OptionKind.taskId.name.toList
  | timeout _ => OptionKind.timeout.name.toList
  | deadline _ => OptionKind.deadline.name.toList
  | unique _ => OptionKind.unique.name.toList
  | processAt _ => OptionKind.processAt.name.toList
  | processIn _ => OptionKind.processIn.name.toList
  | retention _ => OptionKind.retention.name.toList
  | unrecognized name _ => name.toList

/-- An option as text. -/
def print (o : TaskOption) : String :=
  String.ofList (o.printName ++ '(' :: o.printValue ++ [')'])

end TaskQueue.TaskOption
