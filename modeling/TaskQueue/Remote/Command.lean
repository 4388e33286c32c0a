import TaskQueue.Broker
import TaskQueue.Key
import TaskQueue.Record.Wire
import TaskQueue.Remote.Script
import TaskQueue.Text.Decimal
import TaskQueue.Text.Utf8

/-!
# Commands to the remote store

A command is sent as a list of words.  A script is run with keys, which name what it touches, and
arguments; their order for every script is fixed by `keysFor` and `argumentsFor`, as the primitives of
`RedisBroker` fix it.

Principal facts: `lockSeconds_pos` and `lockSeconds_le` — a guard in the remote store lasts at least one
second and not too long for the store's count of milliseconds.
-/

set_option autoImplicit false

namespace TaskQueue

open Text

/-- An argument of a script. -/
inductive Argument where
  | int (n : Int64)
  | text (s : String)
  | bytes (bs : Bytes)
  deriving DecidableEq, Repr

/-- An integer as a word of a command. -/
def numberWord (z : Int) : Bytes := Utf8.encode (String.ofList (Decimal.ofInt z))

/-- An argument as a word of a command. -/
def Argument.word : Argument → Bytes
  | int n => numberWord n.toInt
  | text s => Utf8.encode s
  | bytes bs => bs

/-- What a script is run with. -/
structure Invocation where
  keys : List String
  arguments : List Argument
  deriving DecidableEq, Repr

/-- The number of keys, the keys and the arguments as words of a command. -/
def Invocation.words (i : Invocation) : List Bytes :=
  numberWord i.keys.length :: i.keys.map Utf8.encode ++ i.arguments.map Argument.word

/-- A command to the remote store. -/
inductive Command where
  /-- Asks whether the store is there. -/
  | ping
  /-- Stores a script; the answer is the digest by which it is run. -/
  | loadScript (script : Script)
  /-- Adds the name of a queue to the register of queues. -/
  | registerQueue (queue : String)
  /-- Runs a loaded script. -/
  | runLoaded (digest : String) (invocation : Invocation)
  /-- Runs a script that is sent along. -/
  | runText (script : Script) (invocation : Invocation)
  deriving DecidableEq, Repr

namespace Command

/-- The first word of a command. -/
def name : Command → String
  | ping => "PING"
  | loadScript _ => "SCRIPT"
  | registerQueue _ => "SADD"
  | runLoaded _ _ => "EVALSHA"
  | runText _ _ => "EVAL"

/-- The further words of a command. -/
def operands : Command → List Bytes
  | ping => []
  | loadScript script => [Utf8.encode "LOAD", Utf8.encode script.text]
  | registerQueue queue => [Utf8.encode Key.allQueues, Utf8.encode queue]
  | runLoaded digest i => Utf8.encode digest :: i.words
  | runText script i => Utf8.encode script.text :: i.words

/-- The words of a command. -/
def words (c : Command) : List Bytes := Utf8.encode c.name :: c.operands

end Command

/-- The longest guard in seconds: as milliseconds it may be added to the time of day. -/
def maxLockSeconds : Int64 := 4611686018427387

/-- How many seconds a guard lasts in the remote store (`ttl_seconds`), which counts whole seconds and at least
one. -/
def lockSeconds (ttl : Span) : Int64 :=
  if ttl.wholeSeconds < 1 then 1
  else if maxLockSeconds < ttl.wholeSeconds then maxLockSeconds
  else ttl.wholeSeconds

namespace Call

/-- The keys with which the script of a call is run. -/
def keysFor (call : Call) : List String :=
  let r := call.record
  match call.route with
  | .enqueue => [Key.task r.queue r.id, Key.pending r.queue]
  | .enqueueUnique _ => [r.uniqueKey, Key.task r.queue r.id, Key.pending r.queue]
  | .schedule _ => [Key.task r.queue r.id, Key.scheduled r.queue]
  | .scheduleUnique _ _ => [r.uniqueKey, Key.task r.queue r.id, Key.scheduled r.queue]

/-- The arguments with which the script of a call is run at `now`, the written record among them. -/
def argumentsFor (call : Call) (encoded : Bytes) (now : Instant) : List Argument :=
  let id := Argument.text call.record.id
  let nanos := Argument.int (now.unixNanos?.getD 0)
  match call.route with
  | .enqueue => [.bytes encoded, id, nanos]
  | .enqueueUnique ttl => [id, .int (lockSeconds ttl), .bytes encoded, nanos]
  | .schedule due => [.bytes encoded, .int (Int64.ofInt due.second), id]
  | .scheduleUnique due ttl =>
    [id, .int (lockSeconds ttl), .int (Int64.ofInt due.second), .bytes encoded]

/-- What the script of a call is run with at `now`. -/
def invocation (call : Call) (encoded : Bytes) (now : Instant) : Invocation :=
  ⟨call.keysFor, call.argumentsFor encoded now⟩

end Call

theorem lockSeconds_pos (ttl : Span) : 1 ≤ lockSeconds ttl := by
  unfold lockSeconds
  split
  · decide
  · split
    · decide
    · rename_i h _
      exact Int64.not_lt.mp h

theorem lockSeconds_le (ttl : Span) : lockSeconds ttl ≤ maxLockSeconds := by
  unfold lockSeconds
  split
  · decide
  · split
    · exact Int64.le_refl _
    · rename_i h
      exact Int64.not_lt.mp h

end TaskQueue
