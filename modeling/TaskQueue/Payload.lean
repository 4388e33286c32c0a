import TaskQueue.Json.Parser
import TaskQueue.Json.Printer
import TaskQueue.Task

/-!
# JSON payloads

A task may carry a JSON value as its payload, written without white space, and its reader may ask for
a value of a certain form.  Model of `Task::new_with_json` and `Task::get_payload_with_json`.

Principal fact: `readPayload_eq_error_iff` — a payload is refused exactly if it is not JSON or the
value has not the form asked for.
-/

set_option autoImplicit false

namespace TaskQueue.Task

/-- The task that carries a JSON value. -/
def ofJson (typeName : String) (value : Json) : Task := { typeName, payload := value.encode }

/-- The payload of a task as JSON of a form that `view` recognises. -/
def readPayload {α : Type} (view : Json → Option α) (task : Task) : Except Error α :=
  match (Json.decode? task.payload).bind view with
  | some a => .ok a
  | none => .error .serialization

theorem readPayload_eq_error_iff {α : Type} {view : Json → Option α} {task : Task} {e : Error} :
    task.readPayload view = .error e ↔
      e = .serialization ∧ (Json.decode? task.payload).bind view = none := by
  unfold readPayload
  split
  · simp_all
  · simp_all [eq_comm]

end TaskQueue.Task
