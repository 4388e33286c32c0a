import TaskQueue.Client
import TaskQueue.Proofs.Route.Window
import TaskQueue.Proofs.Settings.Validity

/-!
# The call of a client

What a client hands over follows from the composed options, and what it tells its caller from the answer.
The record and the route are made of the options independently of each other; that they agree on whether
the task has a guard is a fact about both.

Principal results: `Submission.wellFormed_of_call?` — what is handed over, whatever the options;
`Client.relays_conclude` — what the caller is told, whatever the answer.
-/

set_option autoImplicit false

namespace TaskQueue

open Text

/-- What a client submits: a task, the options of the call, and the id for the case that no option
names one. -/
structure Submission where
  task : Task
  opts : List TaskOption := []
  freshId : String

namespace Submission

/-- The composed options of a submission at `now`. -/
def settings? (x : Submission) (now : Instant) : Except Error Settings :=
  Settings.compose now (Settings.initial now x.freshId) (x.task.options ++ x.opts)

/-- The call that a submission makes, if it is not at fault: its options are composed at `composed`, and
its route is chosen at `now`. -/
def call? (x : Submission) (now : Instant) (composed : Instant := now) : Except Error Call :=
  Client.prepare x.task x.opts now x.freshId composed

theorem call?_eq_ok_iff {x : Submission} {now composed : Instant} {call : Call} :
    x.call? now composed = .ok call ↔
      allBlank x.task.typeName = false ∧ ∃ s, x.settings? composed = .ok s ∧
        call = ⟨Record.ofTask x.task s, Route.select s.processAt s.effectiveUniqueTtl now⟩ := by
  unfold call? settings? Client.prepare
  cases hb : allBlank x.task.typeName with
  | true => simp
  | false =>
    rw [if_neg (by simp)]
    cases hs : Settings.compose composed (Settings.initial composed x.freshId)
        (x.task.options ++ x.opts) with
    | error e => simp
    | ok s => simp [eq_comm]

theorem call?_eq_error_iff {x : Submission} {now composed : Instant} {e : Error} :
    x.call? now composed = .error e ↔
      (allBlank x.task.typeName = true ∧ e = .invalidTaskType x.task.typeName) ∨
        (allBlank x.task.typeName = false ∧ x.settings? composed = .error e) := by
  unfold call? settings? Client.prepare
  cases hb : allBlank x.task.typeName with
  | true => simp [eq_comm]
  | false =>
    rw [if_neg (by simp)]
    cases hs : Settings.compose composed (Settings.initial composed x.freshId)
        (x.task.options ++ x.opts) with
    | error e => simp
    | ok s => simp

/-- **What puts a submission at fault**: a blank type, or any option that cannot be used, whatever comes
after it. -/
theorem exists_call?_eq_error_iff {x : Submission} {now composed : Instant} :
    (∃ e, x.call? now composed = .error e) ↔
      allBlank x.task.typeName = true ∨
        ∃ o ∈ x.task.options ++ x.opts, (o.fault? composed).isSome := by
  simp only [call?_eq_error_iff, exists_or, exists_and_left, exists_eq, and_true]
  cases allBlank x.task.typeName with
  | true => simp
  | false =>
    simp only [settings?, Settings.compose_eq_error_iff, ← Option.isSome_iff_exists,
      List.findSome?_isSome_iff, Bool.false_eq_true, false_or, true_and]

end Submission

/-! ## What is handed over -/

theorem Record.uniqueKey_ofTask {task : Task} {s : Settings} (h : s.effectiveUniqueTtl.isSome) :
    (Record.ofTask task s).uniqueKey = Key.unique s.queue task.typeName task.payload := by
  rw [Record.ofTask, if_pos h]

theorem Record.guardKey_eq_some_iff {r : Record} {key : String} :
    r.guardKey = some key ↔ r.uniqueKey = key ∧ key ≠ "" := by
  rw [guardKey, Option.ite_none_left_eq_some, String.isEmpty_iff, Option.some.injEq]
  constructor
  · rintro ⟨hne, rfl⟩
    exact ⟨rfl, hne⟩
  · rintro ⟨rfl, hne⟩
    exact ⟨hne, rfl⟩

theorem Record.isSome_guardKey_iff {r : Record} : r.guardKey.isSome ↔ r.uniqueKey ≠ "" := by
  simp [Option.isSome_iff_exists, guardKey_eq_some_iff]

/-- The record and the route of a task agree on whether it has a guard. -/
theorem Route.isSome_uniqueTtl_select_iff (task : Task) {s : Settings} (now : Instant) :
    (select s.processAt s.effectiveUniqueTtl now).uniqueTtl.isSome ↔
      (Record.ofTask task s).uniqueKey ≠ "" := by
  rw [uniqueTtl_select, ← Record.isSome_guardKey_iff, Record.ofTask_guardKey, Option.isSome_map]

/-- A route guards only if the options ask for it, and then for some time. -/
theorem Settings.window_pos {a : Settings} {now : Instant} {window : Span}
    (h : (Route.select a.processAt a.effectiveUniqueTtl now).uniqueTtl = some window) :
    a.effectiveUniqueTtl.isSome ∧ 0 < window.nanos := by
  obtain ⟨ttl, hu, hle⟩ := Route.nanos_le_uniqueTtl_select h
  rw [hu]
  exact ⟨rfl, Nat.lt_of_lt_of_le (nanos_pos_of_effectiveUniqueTtl hu) hle⟩

/-- A task is scheduled for its time if that is still to come. -/
theorem Route.due?_select_of_later (due : Instant) (ttl : Option Span) (now : Instant) :
    (select due ttl now).due? = if now < due then some due else none := by
  rw [due?_select]
  by_cases hle : due ≤ now
  · rw [if_pos hle, if_neg fun hlt => Instant.not_le.mpr hlt hle]
  · rw [if_neg hle, if_pos (Instant.not_le.mp hle)]

/-- A call as a client makes it with the composed options `a`, and with a route that is chosen at `now`. -/
structure Call.WellFormed (call : Call) (now : Instant) (a : Settings) : Prop where
  typeName : ∃ c ∈ call.record.typeName.toList, isBlank c = false
  queue : ∃ c ∈ call.record.queue.toList, isBlank c = false
  id : ∃ c ∈ call.record.id.toList, isBlank c = false
  retry : 0 ≤ call.record.retry
  /-- Nothing has happened to the task yet. -/
  untried : call.record.retried = 0 ∧ call.record.lastFailedAt = 0 ∧ call.record.completedAt = 0 ∧
    call.record.errorText = ""
  guarded : call.route.uniqueTtl.isSome ↔ call.record.uniqueKey ≠ ""
  guard : ∀ ttl, call.route.uniqueTtl = some ttl → 0 < ttl.nanos ∧
    call.record.uniqueKey = Key.unique call.record.queue call.record.typeName call.record.payload
  due : call.route.due? = if now < a.processAt then some a.processAt else none

/-- **Whatever is handed over is well formed**, if the id that is made up for the task is not blank. -/
theorem Submission.wellFormed_of_call? {x : Submission} {now composed : Instant} {call : Call}
    (hid : allBlank x.freshId = false) (h : x.call? now composed = .ok call) :
    ∃ a, x.settings? composed = .ok a ∧ call.WellFormed now a := by
  obtain ⟨htype, a, ha, rfl⟩ := call?_eq_ok_iff.mp h
  have hfit : a.Fit := (Settings.fit_initial composed hid).compose ha
  refine ⟨a, ha, allBlank_eq_false_iff.mp htype, allBlank_eq_false_iff.mp hfit.queue,
    allBlank_eq_false_iff.mp hfit.taskId, hfit.maxRetry, ⟨rfl, rfl, rfl, rfl⟩,
    Route.isSome_uniqueTtl_select_iff x.task now, ?_, Route.due?_select_of_later _ _ _⟩
  intro window hw
  obtain ⟨hunique, hpos⟩ := Settings.window_pos hw
  exact ⟨hpos, Record.uniqueKey_ofTask hunique⟩

/-! ## What the caller is told -/

theorem Error.ofBroker_inj {a b : BrokerError} : ofBroker a = ofBroker b ↔ a = b := by
  cases a <;> cases b <;> simp [ofBroker]

namespace Client

theorem conclude_eq_ofBroker_iff {call : Call} {now : Instant} {r : Except BrokerError Unit}
    (e : BrokerError) : conclude call now r = .error (.ofBroker e) ↔ r = .error e := by
  cases r with
  | ok u => simp [conclude]
  | error b => rw [conclude, Except.error.injEq, Except.error.injEq, Error.ofBroker_inj]

theorem conclude_eq_ok {call : Call} {now : Instant} {r : Except BrokerError Unit} {receipt : Receipt}
    (h : conclude call now r = .ok receipt) : r = .ok () := by
  cases r with
  | ok u => rfl
  | error e => cases h

/-- A result tells what a broker answered. -/
structure Relays (answer : Except BrokerError Unit) (result : Except Error Receipt) : Prop where
  ok : (∃ receipt, result = .ok receipt) ↔ answer = .ok ()
  duplicate : result = .error .taskDuplicate ↔ answer = .error .duplicateTask
  idConflict : result = .error .taskIdConflict ↔ answer = .error .taskIdConflict
  closed : result = .error .clientClosed ↔ answer = .error .closed
  remote : ∀ fault, result = .error (.remote fault) ↔ answer = .error (.remote fault)
  encode : ∀ fault, result = .error (.encode fault) ↔ answer = .error (.encode fault)
  unexpected : ∀ code, result = .error (.broker (.unexpectedReply code)) ↔
    answer = .error (.unexpectedReply code)
  /-- The first two are the conflicts. -/
  conflict : ∀ e, result = .error e → (e.isConflict = true ↔
    answer = .error .duplicateTask ∨ answer = .error .taskIdConflict)
  /-- None of them is the fault of the submission. -/
  validation : ∀ e, result = .error e → e.isValidation = false

/-- **What the caller is told** is what the broker answered. -/
theorem relays_conclude (call : Call) (now : Instant) (r : Except BrokerError Unit) :
    Relays r (conclude call now r) where
  ok := by
    constructor
    · rintro ⟨receipt, h⟩
      exact conclude_eq_ok h
    · rintro rfl
      exact ⟨_, rfl⟩
  duplicate := conclude_eq_ofBroker_iff .duplicateTask
  idConflict := conclude_eq_ofBroker_iff .taskIdConflict
  closed := conclude_eq_ofBroker_iff .closed
  remote fault := conclude_eq_ofBroker_iff (.remote fault)
  encode fault := conclude_eq_ofBroker_iff (.encode fault)
  unexpected code := conclude_eq_ofBroker_iff (.unexpectedReply code)
  conflict e h := by
    cases r with
    | ok u => cases h
    | error b =>
      cases h
      rw [Error.isConflict_ofBroker, Except.error.injEq, Except.error.injEq]
  validation e h := conclude_not_isValidation h

end Client

end TaskQueue
