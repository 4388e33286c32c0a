import TaskQueue.Error

/-!
# Composed options

A list of options is composed to one value for every aspect of a task.  The first option that cannot be
used refuses the list; otherwise the last option of each kind counts, where the two ways to say when a
task is processed are one kind, and options without a meaning are passed over.

Model of `ResolvedOptions` and `compose_options`, whose loop body is `TaskOption.fault?` and then
`TaskOption.apply`.

Principal facts: `compose_eq_error_iff` — a list is refused exactly for the fault of its first
unusable option; `compose_of_usable` — a list of usable options is applied from first to last.
-/

set_option autoImplicit false

namespace TaskQueue

open Text

/-- The queue of a task that names none. -/
def defaultQueue : String := "default"

/-- How often a task is tried again if it does not say. -/
def defaultMaxRetry : Int32 := 25

/-- One value for every aspect of a task. -/
structure Settings where
  maxRetry : Int32
  queue : String
  taskId : String
  timeout : Option Span
  deadline : Option Instant
  uniqueTtl : Option Span
  processAt : Instant
  retention : Span
  deriving DecidableEq, Repr

namespace Settings

/-- The settings of a task without options (`ResolvedOptions::new`): composed at `now`, with `id` as its id. -/
def initial (now : Instant) (id : String) : Settings where
  maxRetry := defaultMaxRetry
  queue := defaultQueue
  taskId := id
  timeout := none
  deadline := none
  uniqueTtl := none
  processAt := now
  retention := Span.zero

/-- How long duplicates are refused, if they are at all. -/
def effectiveUniqueTtl (s : Settings) : Option Span := s.uniqueTtl.filter fun ttl => !ttl.isZero

end Settings

/-- A queue name must have a character that is not white space (`validate_queue_name`). -/
def checkQueueName (name : String) : Except Error Unit :=
  if allBlank name then .error (.invalidQueueName name) else .ok ()

namespace TaskOption

/-- Why an option cannot be used at `now`, if it cannot. -/
def fault? (now : Instant) : TaskOption → Option Error
  | queue name => if allBlank name then some (.invalidQueueName name) else none
  | taskId id => if allBlank id then some (.invalidTaskId id) else none
  | processIn wait =>
    if (now.add? wait).isNone then some (.invalidOption (.outOfRange (.processIn wait))) else none
  | _ => none

/-- The settings with one option taken into account. -/
def apply (now : Instant) (s : Settings) : TaskOption → Settings
  | maxRetry count => { s with maxRetry := if count < 0 then 0 else count }
  | queue name => { s with queue := name }
  | taskId id => { s with taskId := id }
  | timeout limit => { s with timeout := some limit }
  | deadline due => { s with deadline := some due }
  | unique ttl => { s with uniqueTtl := some ttl }
  | processAt due => { s with processAt := due }
  | processIn wait => { s with processAt := (now.add? wait).getD s.processAt }
  | retention keep => { s with retention := keep }
  | unrecognized _ _ => s

end TaskOption

namespace Settings

/-- The settings `s` with a list of options taken into account in order (`compose_options`). -/
def compose (now : Instant) (s : Settings) : List TaskOption → Except Error Settings
  | [] => .ok s
  | o :: rest =>
    match o.fault? now with
    | some e => .error e
    | none => compose now (o.apply now s) rest

/-- The names of the options that composition passes over, up to the first unusable one. -/
def ignored (now : Instant) : List TaskOption → List String
  | [] => []
  | o :: rest =>
    if (o.fault? now).isSome then []
    else
      match o with
      | .unrecognized name _ => name :: ignored now rest
      | _ => ignored now rest

theorem compose_eq_error_iff {now : Instant} {s : Settings} {opts : List TaskOption} {e : Error} :
    compose now s opts = .error e ↔ opts.findSome? (TaskOption.fault? now) = some e := by
  induction opts generalizing s with
  | nil => simp [compose]
  | cons o rest ih =>
    cases h : o.fault? now with
    | none => simp [compose, h, ih]
    | some f => simp [compose, h]

theorem compose_of_usable {now : Instant} {s : Settings} {opts : List TaskOption}
    (h : ∀ o ∈ opts, o.fault? now = none) :
    compose now s opts = .ok (opts.foldl (TaskOption.apply now) s) := by
  induction opts generalizing s with
  | nil => rfl
  | cons o rest ih =>
    rw [compose, h o (by simp), List.foldl_cons]
    exact ih fun o' ho' => h o' (by simp [ho'])

end Settings

end TaskQueue
