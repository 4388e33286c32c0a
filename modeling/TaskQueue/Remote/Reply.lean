import TaskQueue.Remote.Fault
import TaskQueue.Text.Decimal
import TaskQueue.Text.Quoted
import TaskQueue.Text.Utf8

/-!
# Replies of the remote store

A reply is read as what the sender of the command wants: an integer, a text, or nothing in particular.
An error anywhere in a reply is the fault of the whole reply, and so is it if no reply comes.

Model of how the client library converts replies to `i64`, `String` and `()`.  Left out are the forms that
only the third version of the protocol has (fractions, truth values, maps, sets): no command that is sent here
is answered with one.

Principal facts: `toInteger_int` and `toText_bulk` — the plain replies are read as they stand;
`check_eq_ok_iff` — a reply passes unread exactly if it holds no error.
-/

set_option autoImplicit false

namespace TaskQueue

open Text

/-- What comes of a command that is sent: the remote store answers it, or no answer comes. -/
inductive Reply where
  | nil
  | int (n : Int64)
  /-- A short text on a line of its own. -/
  | status (text : String)
  /-- A text of any form. -/
  | bulk (text : String)
  /-- Bytes that are no text. -/
  | binary (bytes : Bytes) (h : Utf8.decode? bytes = none)
  | array (items : List Reply)
  /-- An error signalled with a line of text. -/
  | error (line : String)
  /-- No answer: the connection is lost or the wait is over, in the words of the layer that noticed. -/
  | lost (words : String)
  deriving Repr

namespace Reply

/-- The status that says nothing but that all is well. -/
def statusOk : String := "OK"

/-- A text between quotes inside the name of its form. -/
def wrapped (form text : String) : String := form ++ "(" ++ text ++ ")"

mutual

/-- A reply in words. -/
def describe : Reply → String
  | nil => "nil"
  | int n => wrapped "int" (String.ofList (Decimal.ofInt n.toInt))
  | status text => if text = statusOk then "ok" else wrapped "simple-string" (Quoted.quote text)
  | bulk text => wrapped "bulk-string" ("'" ++ Quoted.quote text ++ "'")
  | binary bytes _ =>
    let numbers := bytes.map fun b => String.ofList (Decimal.ofNat b.toNat)
    wrapped "binary-data" ("[" ++ String.intercalate ", " numbers ++ "]")
  | array items => wrapped "array" ("[" ++ describeItems items ++ "]")
  | error line => wrapped "error" (Quoted.quote line)
  | lost words => words

/-- The items of a list of replies in words. -/
def describeItems : List Reply → String
  | [] => ""
  | [r] => r.describe
  | r :: s :: rest => r.describe ++ ", " ++ describeItems (s :: rest)

end

mutual

/-- The first error in a reply. -/
def fault? : Reply → Option RemoteFault
  | error line => some (.ofLine line)
  | lost words => some (.connection words)
  | array items => firstFault? items
  | nil | int _ | status _ | bulk _ | binary _ _ => none

/-- The first error in a list of replies. -/
def firstFault? : List Reply → Option RemoteFault
  | [] => none
  | r :: rest => r.fault? <|> firstFault? rest

end

/-- The fault of a reply that is not of the type wanted. -/
def mismatch (r : Reply) (why : String) : RemoteFault :=
  .known .wrongType "Response was of incompatible type"
    (some (Quoted.quote why ++ " (response was " ++ r.describe ++ ")"))

/-- Passes a reply without an error. -/
def check (r : Reply) : Except RemoteFault Unit :=
  match r.fault? with
  | some fault => .error fault
  | none => .ok ()

/-- A text as an integer. -/
def parseInteger (r : Reply) (text : String) : Except RemoteFault Int64 :=
  match Decimal.int64? text.toList with
  | some n => .ok n
  | none => .error (r.mismatch "Could not convert from string.")

/-- A reply as an integer: an integer, or the text of one. -/
def toInteger (r : Reply) : Except RemoteFault Int64 :=
  match r.fault? with
  | some fault => .error fault
  | none =>
    match r with
    | int n => .ok n
    | bulk text => r.parseInteger text
    | binary _ _ => .error (.known .wrongType "Invalid UTF-8" none)
    | status text =>
      if text = statusOk then .error (r.mismatch "Response type not convertible to numeric.")
      else r.parseInteger text
    | _ => .error (r.mismatch "Response type not convertible to numeric.")

/-- A reply as a text: a text, or an integer written out. -/
def toText (r : Reply) : Except RemoteFault String :=
  match r.fault? with
  | some fault => .error fault
  | none =>
    match r with
    | bulk text | status text => .ok text
    | int n => .ok (String.ofList (Decimal.ofInt n.toInt))
    | binary _ _ => .error (.known .wrongType "Cannot convert from UTF-8" none)
    | _ => .error (r.mismatch "Response type not string compatible.")

theorem toInteger_int (n : Int64) : toInteger (int n) = .ok n := by
  simp [toInteger, fault?]

theorem toText_bulk (text : String) : toText (bulk text) = .ok text := by
  simp [toText, fault?]

theorem check_eq_ok_iff {r : Reply} : r.check = .ok () ↔ r.fault? = none := by
  unfold check
  cases r.fault? <;> simp

end Reply

end TaskQueue
