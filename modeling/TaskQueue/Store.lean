import Std.Data.ExtTreeMap
import TaskQueue.Broker
import TaskQueue.Record.Wire
import TaskQueue.Time.Clock

/-!
# The store in memory

A store keeps, for every queue it has heard of, the ids of the pending tasks in the order of their
submission and those of the scheduled tasks by the second they are due in.  Beside the queues it keeps
the written records by queue and id, and the guards of unique tasks with the time they expire at.

Model of `MemoryStorage` behind the lock of `MemoryBroker`: every request is one step.

Principal facts: `submit_of_closed` — a closed store takes nothing and stays as it is;
`isLive_cleanup` — a guard is live after a cleanup exactly if it was live before.
-/

set_option autoImplicit false

namespace TaskQueue

open Std (ExtTreeMap)

/-- The tasks of one queue that wait to be processed. -/
structure Lane where
  /-- The ids of the tasks that are due, the oldest first. -/
  pending : List String := []
  /-- The ids of the other tasks by the second they are due in, the oldest of a second first. -/
  scheduled : ExtTreeMap Int (List String) := ∅

namespace Lane

/-- The ids that are scheduled for a second. -/
def bucket (l : Lane) (second : Int) : List String := l.scheduled[second]?.getD []

/-- A lane with one more task at its end: of the pending ones, or of those due in the same second. -/
def push (l : Lane) (id : String) : Option Instant → Lane
  | none => { l with pending := l.pending ++ [id] }
  | some due => { l with scheduled := l.scheduled.insert due.second (l.bucket due.second ++ [id]) }

/-- The first second for which an id is scheduled. -/
def secondOf? (l : Lane) (id : String) : Option Int :=
  (l.scheduled.toList.find? fun b => b.2.contains id).map (·.1)

end Lane

/-- What keeps a unique task from being submitted again. -/
structure Guard where
  /-- The id of the task that set the guard. -/
  holder : String
  /-- When the guard expires, if it ever does. -/
  expiry : Option Tick
  deriving DecidableEq, Repr

/-- A guard is live before the tick at which it expires. -/
def Guard.isLive (g : Guard) (now : Tick) : Bool :=
  match g.expiry with
  | some tick => now < tick
  | none => true

/-- A task as the store keeps it. -/
structure Entry where
  /-- The written record. -/
  encoded : Bytes
  state : TaskState
  /-- The key of the guard that the task set. -/
  uniqueKey : Option String
  deriving DecidableEq, Repr

/-- The store in memory. -/
structure Store where
  lanes : ExtTreeMap String Lane := ∅
  tasks : ExtTreeMap String Entry := ∅
  guards : ExtTreeMap String Guard := ∅
  closed : Bool := false

namespace Store

/-- A store that has heard of nothing yet. -/
def empty : Store := {}

instance : Inhabited Store := ⟨empty⟩

/-- The key of a task among the records (`MemoryStorage::task_key`). -/
def entryKey (queue id : String) : String := queue ++ ":" ++ id

/-- The waiting tasks of a queue. -/
def lane (s : Store) (queue : String) : Lane := s.lanes[queue]?.getD {}

/-- Whether a key has a live guard (`unique_key_live`). -/
def isLive (s : Store) (now : Tick) (key : String) : Bool := s.guards[key]?.any (·.isLive now)

/-- A store that has heard of a queue (`get_or_create_queue`). -/
def register (s : Store) (queue : String) : Store :=
  { s with lanes := s.lanes.insert queue (s.lane queue) }

/-- Why an open store refuses a call: the checks of `insert_task`, in which a live guard comes before an id
that is taken. -/
def refusal? (s : Store) (now : Tick) (call : Call) : Option BrokerError :=
  if call.route.uniqueTtl.isSome ∧ s.isLive now call.record.uniqueKey then some .duplicateTask
  else if (entryKey call.record.queue call.record.id) ∈ s.tasks then some .taskIdConflict
  else none

/-- The guards after a call that is not refused: the guard of a unique task is set anew. -/
def guardsAfter (s : Store) (now : Tick) (call : Call) : ExtTreeMap String Guard :=
  match call.route.uniqueTtl with
  | some ttl => s.guards.insert call.record.uniqueKey ⟨call.record.id, now.add? ttl⟩
  | none => s.guards

/-- The store with the written record of a call that is not refused: what `insert_task` writes, and the place
of the id among the pending or the scheduled ones. -/
def add (s : Store) (now : Tick) (call : Call) (encoded : Bytes) : Store :=
  let r := call.record
  { s with
    lanes := s.lanes.insert r.queue ((s.lane r.queue).push r.id call.route.due?)
    tasks := s.tasks.insert (entryKey r.queue r.id)
      ⟨encoded, call.route.state, call.route.uniqueTtl.map fun _ => r.uniqueKey⟩
    guards := s.guardsAfter now call }

/-- Hands over a record at `now`: the four primitives of `MemoryBroker`, which differ in what the route says
and in nothing else. -/
def submit (now : Tick) (call : Call) (s : Store) : Except BrokerError Unit × Store :=
  match call.record.encodeInto call.record.size with
  | .error fault => (.error (.encode fault), s)
  | .ok encoded =>
    if s.closed then (.error .closed, s)
    else
      match s.refusal? now call with
      | some e => (.error e, s.register call.record.queue)
      | none => (.ok (), s.add now call encoded)

/-- Asks whether the store is open. -/
def ping (s : Store) : Except BrokerError Unit := if s.closed then .error .closed else .ok ()

/-- Closes the store for submissions; it can still be asked what it holds. -/
def close (s : Store) : Store := { s with closed := true }

/-- Drops the guards that have expired (`cleanup_expired_unique_keys`). -/
def cleanup (now : Tick) (s : Store) : Store :=
  { s with guards := s.guards.filter fun _ g => g.isLive now }

/-- How many guards a cleanup drops. -/
def expiredCount (now : Tick) (s : Store) : Nat := s.guards.size - (s.cleanup now).guards.size

/-- The state of a task. -/
def taskState? (s : Store) (queue id : String) : Option TaskState :=
  s.tasks[entryKey queue id]?.map (·.state)

/-- The record of a task, read from what was written. -/
def taskRecord? (s : Store) (queue id : String) : Except Error (Option Record) :=
  match s.tasks[entryKey queue id]? with
  | none => .ok none
  | some entry => ((Record.decode entry.encoded).mapError .decode).map some

/-- The ids of the pending tasks of a queue, the oldest first. -/
def pendingIds (s : Store) (queue : String) : List String := (s.lane queue).pending

/-- When a scheduled task is due, to the second. -/
def scheduledAt? (s : Store) (queue id : String) : Option Instant :=
  ((s.lane queue).secondOf? id).bind Instant.ofSecond?

/-- The names of the queues in ascending order. -/
def queues (s : Store) : List String := s.lanes.keys

/-- The store as a broker at `now`. -/
def broker (now : Tick) : Broker (StateM Store) where
  submit call := do
    let (result, s) := (← get).submit now call
    set s
    return ⟨result, []⟩
  ping := do return ⟨(← get).ping, []⟩
  close := do
    let s ← get
    set s.close
    return ⟨.ok (), if s.closed then [] else [.storeClosed]⟩

theorem submit_of_closed {s : Store} (h : s.closed = true) (now : Tick) (call : Call) :
    (s.submit now call).2 = s := by
  unfold submit
  split
  · rfl
  · rw [if_pos h]

theorem isLive_cleanup (s : Store) (now : Tick) (key : String) :
    (s.cleanup now).isLive now key = s.isLive now key := by
  simp only [isLive, cleanup, ExtTreeMap.getElem?_filter']
  cases s.guards[key]? with
  | none => rfl
  | some g => cases h : g.isLive now <;> simp [Option.filter, h]

end Store

end TaskQueue
