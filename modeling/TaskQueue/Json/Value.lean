import TaskQueue.Json.Real

/-!
# JSON values

Objects list their members in ascending order of the keys, each key once: `Json.object` makes one from
members in any order, where the last of a key counts.
-/

set_option autoImplicit false

namespace TaskQueue

/-- A JSON value. -/
inductive Json where
  | null
  | bool (b : Bool)
  /-- An integer; what is read lies between `-2 ^ 63` and `2 ^ 64 - 1`. -/
  | int (z : Int)
  | real (x : Json.Real)
  | string (s : String)
  | array (items : List Json)
  /-- Members in ascending order of their keys. -/
  | members (ms : List (String × Json))
  deriving Repr

namespace Json

/-- Sets a member in a list in ascending order of the keys. -/
def setMember (key : String) (value : Json) : List (String × Json) → List (String × Json)
  | [] => [(key, value)]
  | (k, v) :: rest =>
    if key < k then (key, value) :: (k, v) :: rest
    else if key = k then (key, value) :: rest
    else (k, v) :: setMember key value rest

/-- The object with these members, the last of a key counting. -/
def object (ms : List (String × Json)) : Json :=
  members (ms.foldl (fun acc m => setMember m.1 m.2 acc) [])

/-- The member of an object with a key. -/
def get? (key : String) : Json → Option Json
  | members ms => ms.lookup key
  | _ => none

/-- The integer of a value that fits a signed word. -/
def int64? : Json → Option Int64
  | int z => if Int64.minValue.toInt ≤ z ∧ z ≤ Int64.maxValue.toInt then some (Int64.ofInt z) else none
  | _ => none

/-- The text of a value. -/
def string? : Json → Option String
  | string s => some s
  | _ => none

/-- The signed words of a list. -/
def int64s? : Json → Option (List Int64)
  | array items => items.mapM int64?
  | _ => none

end Json

end TaskQueue
