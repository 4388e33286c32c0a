import TaskQueue.Error
import TaskQueue.Route

/-!
# Scripts of the remote store

The remote store submits a task by running one of four scripts, each of which decides and writes
in one step.  A script answers with a number: 1 if the task is taken, 0 if its id was there, and -1 if
a live guard refuses it.  The texts are those of `ENQUEUE`, `ENQUEUE_UNIQUE`, `SCHEDULE` and `SCHEDULE_UNIQUE`.

Principal fact: `ofName?_name` — a script is found by its name.
-/

set_option autoImplicit false

namespace TaskQueue

/-- A script that submits a task. -/
inductive Script where
  /-- Keys: the task, the pending tasks.  Arguments: the record, the id, the time in nanoseconds. -/
  | enqueue
  /-- Keys: the guard, the task, the pending tasks.  Arguments: the id, the seconds for which the guard
  lasts, the record, the time in nanoseconds. -/
  | enqueueUnique
  /-- Keys: the task, the scheduled tasks.  Arguments: the record, the second it is due in, the id. -/
  | schedule
  /-- Keys: the guard, the task, the scheduled tasks.  Arguments: the id, the seconds for which the guard
  lasts, the second it is due in, the record. -/
  | scheduleUnique
  deriving DecidableEq, Repr

namespace Script

/-- All scripts. -/
def all : List Script := [enqueue, enqueueUnique, schedule, scheduleUnique]

/-- The order in which the scripts are loaded. -/
def loadOrder : List Script := [scheduleUnique, schedule, enqueue, enqueueUnique]

/-- The name of a script. -/
def name : Script → String
  | enqueue => "enqueue"
  | enqueueUnique => "enqueue_unique"
  | schedule => "schedule"
  | scheduleUnique => "schedule_unique"

/-- The script of a name. -/
def ofName? (word : String) : Option Script := all.find? fun s => s.name == word

/-- The script for a route. -/
def ofRoute : Route → Script
  | .enqueue => enqueue
  | .enqueueUnique _ => enqueueUnique
  | .schedule _ => schedule
  | .scheduleUnique _ _ => scheduleUnique

/-- A script as the store reads it. -/
def text : Script → String
  | enqueue => r#"
        if redis.call("EXISTS", KEYS[1]) == 1 then
            return 0
        end
        redis.call("HSET", KEYS[1],
                   "msg", ARGV[1],
                   "state", "pending",
                   "pending_since", ARGV[3])
        redis.call("LPUSH", KEYS[2], ARGV[2])
        return 1
    "#
  | enqueueUnique => r#"
        local ok = redis.call("SET", KEYS[1], ARGV[1], "NX", "EX", ARGV[2])
        if not ok then
          return -1
        end
        if redis.call("EXISTS", KEYS[2]) == 1 then
          return 0
        end
        redis.call("HSET", KEYS[2],
                   "msg", ARGV[3],
                   "state", "pending",
                   "pending_since", ARGV[4],
                   "unique_key", KEYS[1])
        redis.call("LPUSH", KEYS[3], ARGV[1])
        return 1
    "#
  | schedule => r#"
        if redis.call("EXISTS", KEYS[1]) == 1 then
            return 0
        end
        redis.call("HSET", KEYS[1],
                   "msg", ARGV[1],
                   "state", "scheduled")
        redis.call("ZADD", KEYS[2], ARGV[2], ARGV[3])
        return 1
    "#
  | scheduleUnique => r#"
        local ok = redis.call("SET", KEYS[1], ARGV[1], "NX", "EX", ARGV[2])
        if not ok then
          return -1
        end
        if redis.call("EXISTS", KEYS[2]) == 1 then
          return 0
        end
        redis.call("HSET", KEYS[2],
                   "msg", ARGV[4],
                   "state", "scheduled",
                   "unique_key", KEYS[1])
        redis.call("ZADD", KEYS[3], ARGV[3], ARGV[1])
        return 1
    "#

/-- What the number that a script answers with means (`script_reply`). -/
def verdict (code : Int64) : Except BrokerError Unit :=
  if code = 1 then .ok ()
  else if code = 0 then .error .taskIdConflict
  else if code = -1 then .error .duplicateTask
  else .error (.unexpectedReply code)

theorem ofName?_name (s : Script) : ofName? s.name = some s := by cases s <;> decide

end Script

end TaskQueue
