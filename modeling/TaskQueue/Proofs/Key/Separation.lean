import TaskQueue.Proofs.Client.GuardWindow
import TaskQueue.Remote.Command

/-!
# Keys of different queues

What belongs to a queue lies under keys that begin with the queue's name in braces.  A closing brace and a
colon may occur in the name too, and in an id or a type behind it, so one key can be read as a key of two
queues: the key of the task `b}:pending` of queue `a` is the key of the pending tasks of queue `a}:t:b`.

Principal results: `Key.ofQueue_append_eq_iff` — where two keys of different queues are the same text;
`keys_meet_iff_nested` — which queues have a key in common, and that the submissions of all others touch
different keys; `guarded_by_other_queue` — two tasks of different queues and types of which the first keeps
the second out.
-/

set_option autoImplicit false

namespace TaskQueue

namespace Key

/-- What lies under a key of a queue. -/
inductive Place where
  | task (id : String)
  | pending
  | scheduled
  /-- The guard of the unique tasks of a type with a payload. -/
  | guard (typeName : String) (payload : Bytes)
  deriving DecidableEq, Repr

/-- The key of a place of a queue. -/
def Place.key (queue : String) : Place → String
  | task id => Key.task queue id
  | pending => Key.pending queue
  | scheduled => Key.scheduled queue
  | guard typeName payload => Key.unique queue typeName payload

/-- What stands in a key behind the name of the queue. -/
def Place.tail : Place → String
  | task id => "t:" ++ id
  | pending => "pending"
  | scheduled => "scheduled"
  | guard typeName payload => "unique:" ++ typeName ++ ":" ++ checksum payload

theorem Place.key_eq (queue : String) (p : Place) : p.key queue = ofQueue queue ++ p.tail := by
  cases p <;> simp only [key, tail, Key.task, ofTasks, Key.pending, Key.scheduled, Key.unique,
    String.append_assoc]

/-- The end of the first queue's name is found inside the name of the second one: what follows it there
and the place in the second queue are together the place in the first. -/
def EndsInside (queue : String) (p : Place) (queue' : String) (p' : Place) : Prop :=
  ∃ rest, queue' = queue ++ "\x7d:" ++ rest ∧ p.tail = rest ++ "\x7d:" ++ p'.tail

/-- The second queue's name goes on where the first one ends, as the key of a task or of a guard does. -/
def Nested (queue queue' : String) : Prop :=
  ∃ rest, queue' = queue ++ "\x7d:t:" ++ rest ∨ queue' = queue ++ "\x7d:unique:" ++ rest

/-! ## Where the name of a queue ends -/

theorem toList_ofQueue_append (queue tail : String) :
    (ofQueue queue ++ tail).toList = "asynq:\x7b".toList ++ (queue.toList ++ '\x7d' :: ':' :: tail.toList) := by
  simp [ofQueue]

/-- One name is a proper beginning of the other, and is followed there by what ends a name. -/
theorem eq_append_of_ne {queue queue' tail tail' : String} {rest : List Char} (hne : queue ≠ queue')
    (hq : queue'.toList = queue.toList ++ rest)
    (ht : '\x7d' :: ':' :: tail.toList = rest ++ '\x7d' :: ':' :: tail'.toList) :
    ∃ rest, queue' = queue ++ "\x7d:" ++ rest ∧ tail = rest ++ "\x7d:" ++ tail' := by
  match rest with
  | [] => exact absurd (String.toList_inj.mp (by rw [hq, List.append_nil])) hne
  | [c] => simp at ht
  | c :: d :: more =>
    simp only [List.cons_append, List.cons.injEq] at ht
    obtain ⟨rfl, rfl, ht⟩ := ht
    refine ⟨String.ofList more, ?_, ?_⟩
    · rw [← String.toList_inj, hq]
      simp
    · rw [← String.toList_inj, ht]
      simp

/-- **Where keys of different queues are the same text**: one name ends inside the other. -/
theorem ofQueue_append_eq_iff {queue queue' tail tail' : String} (hne : queue ≠ queue') :
    ofQueue queue ++ tail = ofQueue queue' ++ tail' ↔
      (∃ rest, queue' = queue ++ "\x7d:" ++ rest ∧ tail = rest ++ "\x7d:" ++ tail') ∨
        ∃ rest, queue = queue' ++ "\x7d:" ++ rest ∧ tail' = rest ++ "\x7d:" ++ tail := by
  constructor
  · intro h
    rw [← String.toList_inj, toList_ofQueue_append, toList_ofQueue_append, List.append_cancel_left_eq,
      List.append_eq_append_iff] at h
    rcases h with ⟨rest, hq, ht⟩ | ⟨rest, hq, ht⟩
    · exact Or.inl (eq_append_of_ne hne hq ht)
    · exact Or.inr (eq_append_of_ne hne.symm hq ht)
  · rintro (⟨rest, rfl, rfl⟩ | ⟨rest, rfl, rfl⟩) <;> simp only [ofQueue, String.append_assoc]

theorem Place.key_eq_key_iff {queue queue' : String} (hne : queue ≠ queue') (p p' : Place) :
    p.key queue = p'.key queue' ↔ EndsInside queue p queue' p' ∨ EndsInside queue' p' queue p := by
  rw [key_eq, key_eq, ofQueue_append_eq_iff hne, EndsInside, EndsInside]

/-! ## Queues that have a key in common -/

/-- A text that begins with a piece without a brace has this piece before its first brace. -/
theorem exists_append_of_brace {front x rest tail : String} (hfront : '\x7d' ∉ front.toList)
    (h : front ++ x = rest ++ "\x7d:" ++ tail) : ∃ more, rest = front ++ more := by
  have hlist : front.toList ++ x.toList = rest.toList ++ '\x7d' :: ':' :: tail.toList := by
    simpa using congrArg String.toList h
  rcases List.append_eq_append_iff.mp hlist with ⟨more, hrest, -⟩ | ⟨more, hmore, hx⟩
  · refine ⟨String.ofList more, ?_⟩
    rw [← String.toList_inj, hrest, String.toList_append, String.toList_ofList]
  · cases more with
    | nil => exact ⟨"", by rw [← String.toList_inj]; simpa using hmore.symm⟩
    | cons c more =>
      rw [List.cons_append, List.cons.injEq] at hx
      rw [hmore, ← hx.1] at hfront
      simp at hfront

theorem brace_mem_tail {queue queue' : String} {p p' : Place} (h : EndsInside queue p queue' p') :
    '\x7d' ∈ p.tail.toList := by
  obtain ⟨rest, -, htail⟩ := h
  rw [htail]
  simp

theorem EndsInside.nested {queue queue' : String} {p p' : Place} (h : EndsInside queue p queue' p') :
    Nested queue queue' := by
  have hbrace := brace_mem_tail h
  obtain ⟨rest, hqueue, htail⟩ := h
  cases p with
  | task id =>
    obtain ⟨more, rfl⟩ := exists_append_of_brace (by decide) htail
    exact ⟨more, Or.inl (by rw [hqueue, ← String.toList_inj]; simp)⟩
  | pending => exact absurd hbrace (by decide)
  | scheduled => exact absurd hbrace (by decide)
  | guard typeName payload =>
    rw [Place.tail, String.append_assoc, String.append_assoc] at htail
    obtain ⟨more, rfl⟩ := exists_append_of_brace (by decide) htail
    exact ⟨more, Or.inr (by rw [hqueue, ← String.toList_inj]; simp)⟩

/-- The pending tasks of the longer-named queue, or any guard of it, lie under a key of the other. -/
theorem Nested.exists_key_eq {queue queue' : String} (h : Nested queue queue') :
    ∃ p p' : Place, p.key queue = p'.key queue' := by
  obtain ⟨rest, rfl | rfl⟩ := h
  · refine ⟨.task (rest ++ "\x7d:pending"), .pending, ?_⟩
    rw [← String.toList_inj]
    simp [Place.key, Key.task, ofTasks, Key.pending, ofQueue]
  · refine ⟨.guard (rest ++ "\x7d:unique:") [], .guard "" [], ?_⟩
    rw [← String.toList_inj]
    simp [Place.key, Key.unique, ofQueue]

theorem Nested.brace_mem {queue queue' : String} (h : Nested queue queue') :
    '\x7d' ∈ queue'.toList := by
  obtain ⟨rest, rfl | rfl⟩ := h <;> simp

theorem exists_key_eq_iff {queue queue' : String} (hne : queue ≠ queue') :
    (∃ p p' : Place, p.key queue = p'.key queue') ↔ Nested queue queue' ∨ Nested queue' queue := by
  constructor
  · rintro ⟨p, p', h⟩
    exact ((Place.key_eq_key_iff hne p p').mp h).imp EndsInside.nested EndsInside.nested
  · rintro (h | h)
    · exact h.exists_key_eq
    · obtain ⟨p, p', hkey⟩ := h.exists_key_eq
      exact ⟨p', p, hkey.symm⟩

end Key

theorem Call.mem_keysFor_iff {call : Call} {key : String} :
    key ∈ call.keysFor ↔
      (call.route.uniqueTtl.isSome ∧ key = call.record.uniqueKey) ∨
        key = Key.task call.record.queue call.record.id ∨
        key = if call.route.due?.isSome then Key.scheduled call.record.queue
          else Key.pending call.record.queue := by
  cases h : call.route <;> simp [keysFor, h, Route.uniqueTtl, Route.due?]

/-- What the submission of a client touches lies in its queue. -/
theorem Submission.exists_place {x : Submission} {now composed : Instant} {call : Call}
    (h : x.call? now composed = .ok call) {key : String} (hkey : key ∈ call.keysFor) :
    ∃ p : Key.Place, key = p.key call.record.queue := by
  obtain ⟨-, a, -, rfl⟩ := call?_eq_ok_iff.mp h
  rcases Call.mem_keysFor_iff.mp hkey with ⟨hunique, rfl⟩ | rfl | rfl
  · obtain ⟨window, hwindow⟩ := Option.isSome_iff_exists.mp hunique
    exact ⟨.guard x.task.typeName x.task.payload,
      Record.uniqueKey_ofTask (Settings.window_pos hwindow).1⟩
  · exact ⟨.task _, rfl⟩
  · split
    · exact ⟨.scheduled, rfl⟩
    · exact ⟨.pending, rfl⟩

/-- **Two queues have a key in common exactly if one name goes on where the other ends**, as the key of a
task or of a guard does.  It is then the key of a task or of a guard of the shorter-named queue, whose id or
type holds the rest of the other name.  So queues without a closing brace in their names have no key in
common; and what clients submit to queues of which neither goes on from the other touches different keys,
the guards included. -/
theorem keys_meet_iff_nested (queue queue' : String) (hne : queue ≠ queue') :
    ((∃ p p' : Key.Place, p.key queue = p'.key queue') ↔
        Key.Nested queue queue' ∨ Key.Nested queue' queue) ∧
      (∀ p p' : Key.Place, p.key queue = p'.key queue' ↔
        Key.EndsInside queue p queue' p' ∨ Key.EndsInside queue' p' queue p) ∧
      ('\x7d' ∉ queue.toList → '\x7d' ∉ queue'.toList →
        ∀ p p' : Key.Place, p.key queue ≠ p'.key queue') ∧
      (¬ Key.Nested queue queue' → ¬ Key.Nested queue' queue →
        ∀ (x x' : Submission) (composed now composed' now' : Instant) (call call' : Call),
          x.call? now composed = .ok call → x'.call? now' composed' = .ok call' →
            call.record.queue = queue → call'.record.queue = queue' →
              ∀ key ∈ call.keysFor, key ∉ call'.keysFor) := by
  have hmeet := Key.exists_key_eq_iff hne
  refine ⟨hmeet, Key.Place.key_eq_key_iff hne, ?_, ?_⟩
  · intro hbrace hbrace' p p' hkey
    rcases hmeet.mp ⟨p, p', hkey⟩ with h | h
    · exact hbrace' h.brace_mem
    · exact hbrace h.brace_mem
  · rintro hnot hnot' x x' composed now composed' now' call call' hcall hcall' rfl rfl key hkey hkey'
    obtain ⟨p, hp⟩ := Submission.exists_place hcall hkey
    obtain ⟨p', hp'⟩ := Submission.exists_place hcall' hkey'
    rcases hmeet.mp ⟨p, p', hp.symm.trans hp'⟩ with h | h
    · exact hnot h
    · exact hnot' h

/-- The queues `a` and `a}:t:b` have a key in common, `a` and `a}b` have none. -/
theorem keys_meet_iff_nested_of_brace :
    (∃ p p' : Key.Place, p.key "a" = p'.key "a\x7d:t:b") ∧
      ∀ p p' : Key.Place, p.key "a" ≠ p'.key "a\x7db" := by
  constructor
  · exact (keys_meet_iff_nested "a" "a\x7d:t:b" (by decide)).1.mpr (Or.inl ⟨"b", Or.inl rfl⟩)
  · intro p p' hkey
    rcases (keys_meet_iff_nested "a" "a\x7db" (by decide)).1.mp ⟨p, p', hkey⟩ with
      ⟨rest, h | h⟩ | ⟨rest, h | h⟩
    all_goals simp [← String.toList_inj] at h

/-- A unique task of queue `a` keeps one of another type out of queue `a}:unique:x`, and a task of queue `a`
lies where queue `a}:t:b` has its pending tasks.  All these names are accepted. -/
theorem guarded_by_other_queue :
    let hour : Span := .ofNanos (3600 * nanosPerSecond)
    let x : Submission := ⟨⟨"x\x7d:unique:y", [], []⟩, [.queue "a", .unique hour], "1"⟩
    let y : Submission := ⟨⟨"y", [], []⟩, [.queue "a\x7d:unique:x", .unique hour], "2"⟩
    let m := (Moment.start ⟨some .epoch, 0⟩).run [.enqueue x]
    checkQueueName "a" = .ok () ∧ checkQueueName "a\x7d:unique:x" = .ok () ∧
      checkQueueName "a\x7d:t:b" = .ok () ∧
      Key.unique "a" "x\x7d:unique:y" [] = Key.unique "a\x7d:unique:x" "y" [] ∧
      (m.reply? y).any (fun r => r matches .error .taskDuplicate) ∧
      Key.task "a" "b\x7d:pending" = Key.pending "a\x7d:t:b" := by
  refine ⟨rfl, rfl, rfl, by decide, by decide +kernel, by decide⟩

end TaskQueue
