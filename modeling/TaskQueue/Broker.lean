import TaskQueue.Error
import TaskQueue.Route

/-!
# Brokers

A broker is a store as its clients see it: it takes records by one of four routes, answers pings, and can
be closed.  `m` is what happens on the way: the state of a store in memory, or a conversation with a
remote one.

Model of the trait `Broker`.  Its four primitives `enqueue`, `enqueue_unique`, `schedule` and
`schedule_unique` are one request here: the route of a call says which of them is meant, and with what time
and what time to live.
-/

set_option autoImplicit false

namespace TaskQueue

/-- Something worth a line in the log. -/
inductive Notice where
  /-- Composition passed over an option. -/
  | ignoredOption (name : String)
  /-- The store did not take a task because it or its id was there. -/
  | notEnqueued (id queue : String) (error : Error)
  /-- The remote store had lost a script. -/
  | scriptFlushed (name : String)
  /-- The store in memory was closed. -/
  | storeClosed
  /-- The connection to the remote store was closed. -/
  | remoteClosed
  deriving DecidableEq, Repr

namespace Notice

/-- The level of a notice. -/
def level : Notice → String
  | ignoredOption _ | scriptFlushed _ => "DEBUG"
  | notEnqueued _ _ _ => "WARN"
  | storeClosed | remoteClosed => "INFO"

/-- A notice in words. -/
def message : Notice → String
  | ignoredOption name => "ignoring unrecognized task option " ++ name
  | notEnqueued id queue error =>
    "task " ++ id ++ " not enqueued to " ++ queue ++ ": " ++ error.message
  | scriptFlushed name => "script " ++ name ++ " was flushed from redis, falling back to EVAL"
  | storeClosed => "memory broker closed"
  | remoteClosed => "redis broker closed"

/-- The line of a notice in the log. -/
def line (n : Notice) : String := n.level ++ " " ++ n.message

end Notice

/-- The outcome of a request with what was noted on the way. -/
structure Answer (ε α : Type) where
  result : Except ε α
  notices : List Notice := []

/-- A record and the route by which it is handed over. -/
structure Call where
  record : Record
  route : Route
  deriving DecidableEq, Repr

/-- A store as its clients see it. -/
structure Broker (m : Type → Type) where
  /-- Hands over a record. -/
  submit : Call → m (Answer BrokerError Unit)
  /-- Asks whether the store is there. -/
  ping : m (Answer BrokerError Unit)
  /-- Gives the store up. -/
  close : m (Answer BrokerError Unit)

/-- A broker without a store: every request succeeds. -/
def Broker.idle (m : Type → Type) [Monad m] : Broker m where
  submit _ := pure ⟨.ok (), []⟩
  ping := pure ⟨.ok (), []⟩
  close := pure ⟨.ok (), []⟩

end TaskQueue
