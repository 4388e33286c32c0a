import TaskQueue.TaskOption
import TaskQueue.Text.Blank
import TaskQueue.Time.Rfc3339

/-!
# Reading options

An option text is a name, an opening parenthesis, a value and a closing parenthesis; white space
around the text, the name and the value is ignored.  The first opening and the last closing
parenthesis count.  A word that names no kind of option is kept with its value.  Model of `TaskOption::parse`.

`OptionFault` lists why a text is refused, and why an option that was read can still not be used.
-/

set_option autoImplicit false

namespace TaskQueue

open Text

/-- Why an option is refused. -/
inductive OptionFault where
  /-- A text without an opening parenthesis. -/
  | noValue (text : String)
  /-- A text that does not end with a closing parenthesis. -/
  | unclosed (text : String)
  /-- A value that does not fit the kind of option. -/
  | badValue (name value : String)
  /-- A name that is not a word of ASCII letters and digits. -/
  | badName (name : String)
  /-- A delay that leads out of the calendar. -/
  | outOfRange (option : TaskOption)
  /-- A reason in the words of the caller. -/
  | stated (text : String)
  deriving DecidableEq, Repr

/-- Whether a character is an ASCII letter or digit. -/
def isWordChar (c : Char) : Bool :=
  Decimal.isDigit c || ('a' ≤ c && c ≤ 'z') || ('A' ≤ c && c ≤ 'Z')

/-- The text before the first opening parenthesis and the text after it. -/
def splitOpen? (cs : List Char) : Option (List Char × List Char) :=
  match cs.dropWhile (· ≠ '(') with
  | _ :: rest => some (cs.takeWhile (· ≠ '('), rest)
  | [] => none

/-- The text before a last character `c`. -/
def dropEnd? (c : Char) (cs : List Char) : Option (List Char) :=
  if cs.getLast? = some c then some cs.dropLast else none

/-- The text without the double quotes at its ends (`unquote`). -/
def unquote (cs : List Char) : String := String.ofList (trimBoth (· = '"') cs)

/-- Whole seconds, with or without the unit `s` (`parse_duration`). -/
def readSpan? (cs : List Char) : Option Span :=
  (Decimal.nat? ((dropEnd? 's' cs).getD cs)).bind Span.ofSeconds?

/-- An RFC 3339 time or a second counted from 1970-01-01T00:00:00Z (`parse_time`). -/
def readInstant? (cs : List Char) : Option Instant :=
  match Rfc3339.read? cs with
  | some t => some t
  | none => (Decimal.int64? cs).bind fun n => Instant.ofSecond? n.toInt

/-- The option of a kind that a value denotes. -/
def OptionKind.read? (kind : OptionKind) (value : List Char) : Option TaskOption :=
  match kind with
  | .maxRetry => (Decimal.int32? value).map TaskOption.retries
  | .queue => some (.queue (unquote value))
  | .taskId => some (.taskId (unquote value))
  | .timeout => (readSpan? value).map .timeout
  | .deadline => (readInstant? value).map .deadline
  | .unique => (readSpan? value).map .unique
  | .processAt => (readInstant? value).map .processAt
  | .processIn => (readSpan? value).map .processIn
  | .retention => (readSpan? value).map .retention

namespace TaskOption

/-- The option that a name and a value, both without white space around them, denote. -/
def ofParts (name value : List Char) : Except OptionFault TaskOption :=
  match OptionKind.ofName? (String.ofList name) with
  | some kind =>
    match kind.read? value with
    | some o => .ok o
    | none => .error (.badValue (String.ofList name) (String.ofList value))
  | none =>
    if !name.isEmpty && name.all isWordChar then
      .ok (.unrecognized (String.ofList name) (String.ofList value))
    else .error (.badName (String.ofList name))

/-- The option that a text denotes (`TaskOption::parse`). -/
def parse (s : String) : Except OptionFault TaskOption :=
  let text := trim s.toList
  match splitOpen? text with
  | none => .error (.noValue (String.ofList text))
  | some (name, rest) =>
    match dropEnd? ')' rest with
    | none => .error (.unclosed (String.ofList text))
    | some value => ofParts (trim name) (trim value)

end TaskOption

end TaskQueue
