import TaskQueue.Digest.Md5

/-!
# Keys of the remote store

Everything that belongs to a queue lies under a key that begins with the queue's name in braces, so
that a clustered store keeps it in one place.  The guard of a unique task is keyed by the task's type
and the digest of its payload; an empty payload has no digest.

Model of `queue_key_prefix`, `task_key_prefix`, `task_key`, `pending_key`, `scheduled_key` and `unique_key`.
-/

set_option autoImplicit false

namespace TaskQueue.Key

/-- The key of the register of queue names. -/
def allQueues : String := "asynq:queues"

/-- What every key of a queue begins with. -/
def ofQueue (queue : String) : String := "asynq:\x7b" ++ queue ++ "\x7d:"

/-- What the key of every task of a queue begins with. -/
def ofTasks (queue : String) : String := ofQueue queue ++ "t:"

/-- The key of a task. -/
def task (queue id : String) : String := ofTasks queue ++ id

/-- The key of the list of pending tasks. -/
def pending (queue : String) : String := ofQueue queue ++ "pending"

/-- The key of the set of scheduled tasks. -/
def scheduled (queue : String) : String := ofQueue queue ++ "scheduled"

/-- The part of a guard's key that stands for the payload. -/
def checksum (payload : Bytes) : String :=
  if payload.isEmpty then "" else (Md5.digest payload).hex

/-- The key of the guard of a unique task. -/
def unique (queue typeName : String) (payload : Bytes) : String :=
  ofQueue queue ++ "unique:" ++ typeName ++ ":" ++ checksum payload

end TaskQueue.Key
