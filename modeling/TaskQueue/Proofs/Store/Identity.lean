import TaskQueue.Proofs.Store.Contents

/-!
# Which tasks a store takes for one another

Among the records a task goes by one text, its queue and its id with a colon between them.  A colon
inside a queue name or an id can be read as the one between them, so two tasks of different queues can
go by one text: the one of queue `a:b` with id `c`, and the one of queue `a` with id `b:c`.

Principal results: `Store.entryKey_eq_iff` — which tasks go by one text;
`found_iff_accepted_or_confused` — a task is found, or its id is taken, exactly if it was accepted or
another one that goes by the same text, and which texts rule the latter out.
-/

set_option autoImplicit false

namespace TaskQueue

open Std (ExtTreeMap)

/-- A colon of the second task's queue name is read as the one between queue and id of the first. -/
def SplitsEarlier (queue id queue' id' : String) : Prop :=
  ∃ middle, queue' = queue ++ ":" ++ middle ∧ id = middle ++ ":" ++ id'

/-- Two different tasks that go by one text. -/
def Confusable (queue id queue' id' : String) : Prop :=
  SplitsEarlier queue id queue' id' ∨ SplitsEarlier queue' id' queue id

theorem SplitsEarlier.colon_mem {queue id queue' id' : String}
    (h : SplitsEarlier queue id queue' id') : ':' ∈ queue'.toList ∧ ':' ∈ id.toList := by
  obtain ⟨middle, rfl, rfl⟩ := h
  simp

/-- Wherever there is a colon in a queue name, it can be read as the one after the name. -/
theorem exists_splitsEarlier {queue' : String} (h : ':' ∈ queue'.toList) (id' : String) :
    ∃ queue id, SplitsEarlier queue id queue' id' := by
  obtain ⟨front, back, hsplit⟩ := List.append_of_mem h
  refine ⟨String.ofList front, String.ofList back ++ ":" ++ id', String.ofList back, ?_, rfl⟩
  rw [← String.toList_inj, hsplit]
  simp

/-- Wherever there is a colon in an id, it can be read as the one before the id. -/
theorem exists_splitsEarlier_of_id {id : String} (h : ':' ∈ id.toList) (queue : String) :
    ∃ queue' id', SplitsEarlier queue id queue' id' := by
  obtain ⟨front, back, hsplit⟩ := List.append_of_mem h
  refine ⟨queue ++ ":" ++ String.ofList front, String.ofList back, String.ofList front, rfl, ?_⟩
  rw [← String.toList_inj, hsplit]
  simp

theorem not_splitsEarlier_self (queue id id' : String) : ¬ SplitsEarlier queue id queue id' := by
  rintro ⟨middle, hq, -⟩
  have hlen := congrArg (fun q : String => q.toList.length) hq
  simp only [String.toList_append, List.length_append] at hlen
  have hcolon : ":".toList.length = 1 := rfl
  omega

namespace Store

theorem toList_entryKey (queue id : String) :
    (entryKey queue id).toList = queue.toList ++ ':' :: id.toList := by
  simp [entryKey]

theorem entryKey_eq_of_splitsEarlier {queue id queue' id' : String}
    (h : SplitsEarlier queue id queue' id') : entryKey queue id = entryKey queue' id' := by
  obtain ⟨middle, rfl, rfl⟩ := h
  simp only [entryKey, String.append_assoc]

/-- A text can be split where the first queue ends and where the second one ends. -/
theorem eq_or_splitsEarlier {queue id queue' id' : String} {rest : List Char}
    (hq : queue'.toList = queue.toList ++ rest) (hid : ':' :: id.toList = rest ++ ':' :: id'.toList) :
    queue = queue' ∧ id = id' ∨ SplitsEarlier queue id queue' id' := by
  cases rest with
  | nil =>
    left
    rw [List.append_nil] at hq
    rw [List.nil_append, List.cons.injEq] at hid
    exact ⟨String.toList_inj.mp hq.symm, String.toList_inj.mp hid.2⟩
  | cons c middle =>
    right
    rw [List.cons_append, List.cons.injEq] at hid
    obtain ⟨rfl, hid⟩ := hid
    refine ⟨String.ofList middle, ?_, ?_⟩
    · rw [← String.toList_inj, hq]
      simp
    · rw [← String.toList_inj, hid]
      simp

/-- **Tasks that go by one text**: they are the same, or a colon can be read in two ways. -/
theorem entryKey_eq_iff {queue id queue' id' : String} :
    entryKey queue id = entryKey queue' id' ↔
      queue = queue' ∧ id = id' ∨ Confusable queue id queue' id' := by
  constructor
  · intro h
    rw [← String.toList_inj, toList_entryKey, toList_entryKey, List.append_eq_append_iff] at h
    -- One queue name begins with the other.
    rcases h with ⟨rest, hq, hid⟩ | ⟨rest, hq, hid⟩
    · rcases eq_or_splitsEarlier hq hid with hsame | hsplit
      · exact Or.inl hsame
      · exact Or.inr (Or.inl hsplit)
    · rcases eq_or_splitsEarlier hq hid with ⟨hqueue, hid⟩ | hsplit
      · exact Or.inl ⟨hqueue.symm, hid.symm⟩
      · exact Or.inr (Or.inr hsplit)
  · rintro (⟨rfl, rfl⟩ | hsplit | hsplit)
    · rfl
    · exact entryKey_eq_of_splitsEarlier hsplit
    · exact (entryKey_eq_of_splitsEarlier hsplit).symm

theorem submit_eq_conflict_iff {s : Store} {now : Tick} {call : Call} :
    (s.submit now call).1 = .error .taskIdConflict ↔
      s.closed = false ∧ ¬ (call.route.uniqueTtl.isSome ∧ s.isLive now call.record.uniqueKey) ∧
        entryKey call.record.queue call.record.id ∈ s.tasks := by
  cases hc : s.closed with
  | true => simp [submit_eq_of_closed hc]
  | false => rw [submit_eq_error_iff hc, refusal?_eq_conflict_iff, and_iff_right rfl]

theorem isSome_taskState?_iff {s : Store} {queue id : String} :
    (s.taskState? queue id).isSome ↔ entryKey queue id ∈ s.tasks := by
  rw [taskState?, Option.isSome_map, ExtTreeMap.mem_iff_isSome_getElem?]

theorem taskRecord?_ne_none_iff {s : Store} {queue id : String} :
    s.taskRecord? queue id ≠ .ok none ↔ entryKey queue id ∈ s.tasks := by
  rw [ExtTreeMap.mem_iff_isSome_getElem?, taskRecord?]
  cases s.tasks[entryKey queue id]? with
  | none => simp
  | some entry => cases hd : Record.decode entry.encoded <;> simp [hd, Except.mapError, Except.map]

end Store

namespace Acceptance

/-- A task with this queue and this id is among the accepted ones. -/
def Names (log : List Acceptance) (queue id : String) : Prop :=
  ∃ a ∈ log, a.call.record.queue = queue ∧ a.call.record.id = id

/-- Another task that goes by the text of this queue and this id is among the accepted ones. -/
def Confuses (log : List Acceptance) (queue id : String) : Prop :=
  ∃ a ∈ log, Confusable queue id a.call.record.queue a.call.record.id

end Acceptance

theorem Moment.Contents.mem_tasks_iff_names_or_confuses {m : Moment} {log : List Acceptance}
    (h : m.Contents log) {queue id : String} :
    Store.entryKey queue id ∈ m.store.tasks ↔
      Acceptance.Names log queue id ∨ Acceptance.Confuses log queue id := by
  rw [h.mem_tasks_iff, Acceptance.Names, Acceptance.Confuses, ← exists_or]
  refine exists_congr fun a => ?_
  rw [← and_or_left, Acceptance.entryKey, eq_comm, Store.entryKey_eq_iff, eq_comm,
    @eq_comm _ id a.call.record.id]

namespace Acceptance

/-- Of two tasks that go by one text only one is accepted. -/
theorem not_names_and_confuses {log : List Acceptance} (h : (log.map entryKey).Nodup)
    (queue id : String) : ¬ (Names log queue id ∧ Confuses log queue id) := by
  rintro ⟨⟨a, ha, rfl, rfl⟩, b, hb, hconf⟩
  have hkey : a.entryKey = b.entryKey := Store.entryKey_eq_iff.mpr (Or.inr hconf)
  rw [List.inj_on_of_nodup_map h ha hb hkey] at hconf
  rcases hconf with hsplit | hsplit
  · exact not_splitsEarlier_self _ _ _ hsplit
  · exact not_splitsEarlier_self _ _ _ hsplit

/-- Tasks are taken for one another as soon as there is a colon to read in another way. -/
theorem not_confuses_iff {log : List Acceptance} :
    (∀ queue id, ¬ Confuses log queue id) ↔
      ∀ a ∈ log, ':' ∉ a.call.record.queue.toList ∧ ':' ∉ a.call.record.id.toList := by
  constructor
  · intro h a ha
    constructor
    · intro hcolon
      obtain ⟨queue, id, hsplit⟩ := exists_splitsEarlier hcolon a.call.record.id
      exact h queue id ⟨a, ha, Or.inl hsplit⟩
    · intro hcolon
      obtain ⟨queue, id, hsplit⟩ := exists_splitsEarlier_of_id hcolon a.call.record.queue
      exact h queue id ⟨a, ha, Or.inr hsplit⟩
  · rintro h queue id ⟨a, ha, hsplit | hsplit⟩
    · exact (h a ha).1 hsplit.colon_mem.1
    · exact (h a ha).2 hsplit.colon_mem.2

/-- Queues without a colon in their names keep their tasks apart, whatever the ids. -/
theorem not_confuses_of_queues {log : List Acceptance} {queue : String} (hq : ':' ∉ queue.toList)
    (hlog : ∀ a ∈ log, ':' ∉ a.call.record.queue.toList) (id : String) :
    ¬ Confuses log queue id := by
  rintro ⟨a, ha, hsplit | hsplit⟩
  · exact hlog a ha hsplit.colon_mem.1
  · exact hq hsplit.colon_mem.1

end Acceptance

/-- **A task is found, or its id is taken, exactly if it was accepted or another was that goes by its
text.**  The two exclude one another, so where the second happens the task that is found is not the one
asked for.  It cannot happen between queues without a colon in their names, and it cannot happen at all
exactly if no accepted task has a colon in its queue or its id. -/
theorem found_iff_accepted_or_confused (c : Clock) (es : List Event) :
    let s := ((Moment.start c).run es).store
    let log := (Moment.start c).accepted es
    (∀ queue id, ((s.taskState? queue id).isSome ↔
        Acceptance.Names log queue id ∨ Acceptance.Confuses log queue id) ∧
      (s.taskRecord? queue id ≠ .ok none ↔
        Acceptance.Names log queue id ∨ Acceptance.Confuses log queue id) ∧
      ¬ (Acceptance.Names log queue id ∧ Acceptance.Confuses log queue id)) ∧
    (∀ (now : Tick) (call : Call), (s.submit now call).1 = .error .taskIdConflict ↔
      s.closed = false ∧ ¬ (call.route.uniqueTtl.isSome ∧ s.isLive now call.record.uniqueKey) ∧
        (Acceptance.Names log call.record.queue call.record.id ∨
          Acceptance.Confuses log call.record.queue call.record.id)) ∧
    (∀ queue, ':' ∉ queue.toList → (∀ a ∈ log, ':' ∉ a.call.record.queue.toList) →
      ∀ id, ¬ Acceptance.Confuses log queue id) ∧
    ((∀ queue id, ¬ Acceptance.Confuses log queue id) ↔
      ∀ a ∈ log, ':' ∉ a.call.record.queue.toList ∧ ':' ∉ a.call.record.id.toList) := by
  intro s log
  have h : Moment.Contents _ log := Moment.contents_run c es
  refine ⟨?_, ?_, ?_, Acceptance.not_confuses_iff⟩
  · intro queue id
    refine ⟨?_, ?_, Acceptance.not_names_and_confuses h.distinct queue id⟩
    · rw [Store.isSome_taskState?_iff]
      exact h.mem_tasks_iff_names_or_confuses
    · rw [Store.taskRecord?_ne_none_iff]
      exact h.mem_tasks_iff_names_or_confuses
  · intro now call
    rw [Store.submit_eq_conflict_iff, ← h.mem_tasks_iff_names_or_confuses]
  · intro queue hq hlog id
    exact Acceptance.not_confuses_of_queues hq hlog id

/-- The task of queue `a` with the id `b:c` is found, and its id is taken, after a client has submitted
nothing but a task of queue `a:b` with the id `c`. -/
theorem found_though_never_accepted :
    let x : Submission := ⟨⟨"digest", [], []⟩, [.queue "a:b", .taskId "c"], "1"⟩
    let y : Submission := ⟨⟨"digest", [], []⟩, [.queue "a", .taskId "b:c"], "2"⟩
    let m := (Moment.start ⟨some .epoch, 0⟩).run [.enqueue x]
    ¬ Acceptance.Names ((Moment.start ⟨some .epoch, 0⟩).accepted [.enqueue x]) "a" "b:c" ∧
      m.store.taskState? "a" "b:c" = some .pending ∧
      (m.store.taskRecord? "a" "b:c").toOption.join.map (·.queue) = some "a:b" ∧
      (m.reply? y).any (fun r => r matches .error .taskIdConflict) := by
  refine ⟨?_, ?_, ?_, ?_⟩
  · unfold Acceptance.Names
    decide +kernel
  · decide +kernel
  · decide +kernel
  · decide +kernel

end TaskQueue
