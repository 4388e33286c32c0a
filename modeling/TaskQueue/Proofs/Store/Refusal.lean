import TaskQueue.Proofs.Store.Operations

/-!
# What a refused submission leaves behind

A submission registers the name of its queue before it looks at guards and ids, and it touches nothing
else before it is sure of being taken.  So a refusal leaves at most a new queue without tasks, and none
at all if the queue was known or the store is closed.

Principal results: `Store.register_eq` — what registering a queue does to the whole store;
`refused_submission_only_registers` — the store after each kind of refusal.
-/

set_option autoImplicit false

namespace TaskQueue

open Std (ExtTreeMap)

namespace Store

/-- Why a store refuses: no record is too long for its buffer, so these are all the reasons. -/
theorem submit_error_cases {s : Store} {now : Tick} {call : Call} {e : BrokerError}
    (h : (s.submit now call).1 = .error e) :
    (e = .closed ∧ s.closed = true) ∨
      (s.closed = false ∧ s.refusal? now call = some e ∧ (e = .duplicateTask ∨ e = .taskIdConflict)) := by
  cases hc : s.closed with
  | true =>
    rw [submit_eq_of_closed hc] at h
    cases h
    exact Or.inl ⟨rfl, rfl⟩
  | false =>
    rw [submit_eq_error_iff hc] at h
    refine Or.inr ⟨rfl, h, ?_⟩
    unfold refusal? at h
    split at h
    · cases h
      exact Or.inl rfl
    · split at h
      · cases h
        exact Or.inr rfl
      · cases h

theorem mem_queues {s : Store} {queue : String} : queue ∈ s.queues ↔ queue ∈ s.lanes :=
  ExtTreeMap.mem_keys

/-- A lane that is there is put back as it is. -/
theorem insert_lane_of_mem {s : Store} {queue : String} (h : queue ∈ s.lanes) :
    s.lanes.insert queue (s.lane queue) = s.lanes := by
  obtain ⟨l, hl⟩ := Option.isSome_iff_exists.mp (ExtTreeMap.mem_iff_isSome_getElem?.mp h)
  have hlane : s.lane queue = l := by rw [lane, hl, Option.getD_some]
  refine ExtTreeMap.ext_getElem? fun name => ?_
  simp only [ExtTreeMap.getElem?_insert, Std.LawfulEqCmp.compare_eq_iff_eq]
  split
  · rename_i hname
    rw [← hname, hl, hlane]
  · rfl

theorem lane_of_not_mem {s : Store} {queue : String} (h : queue ∉ s.lanes) : s.lane queue = {} := by
  rw [lane, ExtTreeMap.getElem?_eq_none h, Option.getD_none]

/-- Registering a queue adds it without tasks, or changes nothing if it was known. -/
theorem register_eq (s : Store) (queue : String) :
    s.register queue =
      if queue ∈ s.queues then s else { s with lanes := s.lanes.insert queue {} } := by
  by_cases h : queue ∈ s.lanes
  · rw [if_pos (mem_queues.mpr h), register, insert_lane_of_mem h]
  · rw [if_neg fun hq => h (mem_queues.mp hq), register, lane_of_not_mem h]

theorem mem_queues_register {s : Store} {queue name : String} :
    name ∈ (s.register queue).queues ↔ name ∈ s.queues ∨ name = queue := by
  rw [mem_queues, mem_queues, register, ExtTreeMap.mem_insert, Std.LawfulEqCmp.compare_eq_iff_eq,
    or_comm, @eq_comm _ queue name]

end Store

/-- **A refused submission changes nothing but the register of queues.**  A closed store stays as it is.
An open one that refuses a duplicate or a taken id has its records, its guards with their holders and
expiries, and the tasks of every queue as before; its queue is now among the names, without tasks if it
was new, and that is the whole difference.  There is no other refusal. -/
theorem refused_submission_only_registers (s : Store) (now : Tick) (call : Call) :
    let told := (s.submit now call).1
    let after := (s.submit now call).2
    let queue := call.record.queue
    (told = .error .closed → after = s) ∧
      (told = .error .duplicateTask ∨ told = .error .taskIdConflict →
        after.tasks = s.tasks ∧ (∀ key : String, after.guards[key]? = s.guards[key]?) ∧
          (∀ name, after.pendingIds name = s.pendingIds name) ∧
          (∀ name, ∀ second : Int, (after.lane name).scheduled[second]? = (s.lane name).scheduled[second]?) ∧
          after.closed = s.closed ∧
          (∀ name, name ∈ after.queues ↔ name ∈ s.queues ∨ name = queue) ∧
          after = if queue ∈ s.queues then s else { s with lanes := s.lanes.insert queue {} }) ∧
      ∀ e, told = .error e → e = .closed ∨ e = .duplicateTask ∨ e = .taskIdConflict := by
  intro told after queue
  refine ⟨?_, ?_, ?_⟩
  · intro h
    rcases Store.submit_error_cases h with ⟨-, hclosed⟩ | ⟨-, -, hkind⟩
    · exact Store.submit_of_closed hclosed now call
    · simp at hkind
  · intro h
    obtain ⟨e, he, hne⟩ : ∃ e, told = .error e ∧ e ≠ .closed := by
      rcases h with h | h
      · exact ⟨_, h, by simp⟩
      · exact ⟨_, h, by simp⟩
    have hafter : after = s.register queue := by
      rcases Store.submit_error_cases he with ⟨hclosed, -⟩ | ⟨hopen, hr, -⟩
      · exact absurd hclosed hne
      · exact congrArg Prod.snd (Store.submit_eq_of_refusal hopen hr)
    rw [hafter]
    refine ⟨rfl, fun key => rfl, ?_, ?_, rfl, fun name => Store.mem_queues_register, s.register_eq queue⟩
    · intro name
      rw [Store.pendingIds, Store.lane_register, Store.pendingIds]
    · intro name second
      rw [Store.lane_register]
  · intro e h
    rcases Store.submit_error_cases h with ⟨rfl, -⟩ | ⟨-, -, hkind⟩
    · exact Or.inl rfl
    · exact Or.inr hkind

/-- A guard for ten nanoseconds that a longer one does not replace, and a taken id that sets no guard. -/
theorem refused_submission_only_registers_of_guarded :
    let held : Call := ⟨{ id := "1", queue := "mail", uniqueKey := "key" }, .enqueueUnique (.ofNanos 10)⟩
    let same : Call := ⟨{ id := "2", queue := "news", uniqueKey := "key" }, .enqueueUnique (.ofNanos 90)⟩
    let taken : Call := ⟨{ id := "1", queue := "mail", uniqueKey := "more" }, .enqueueUnique (.ofNanos 90)⟩
    let s := (Store.empty.submit 0 held).2
    ((s.submit 9 same).2.guards["key"]? = some ⟨"1", some 10⟩ ∧ "news" ∈ (s.submit 9 same).2.queues) ∧
      (s.submit 9 taken).2.guards["more"]? = none ∧ (s.submit 9 taken).2 = s := by
  intro held same taken s
  have hopen : s.closed = false := by decide +kernel
  have hsame : (s.submit 9 same).1 = .error .duplicateTask :=
    (Store.submit_eq_error_iff hopen).mpr (by decide +kernel)
  have htaken : (s.submit 9 taken).1 = .error .taskIdConflict :=
    (Store.submit_eq_error_iff hopen).mpr (by decide +kernel)
  obtain ⟨-, hguards, -, -, -, hqueues, -⟩ :=
    (refused_submission_only_registers s 9 same).2.1 (Or.inl hsame)
  obtain ⟨-, hguards', -, -, -, -, hstore⟩ :=
    (refused_submission_only_registers s 9 taken).2.1 (Or.inr htaken)
  refine ⟨⟨?_, (hqueues "news").mpr (Or.inr rfl)⟩, ?_, ?_⟩
  · rw [hguards]
    decide +kernel
  · rw [hguards']
    decide +kernel
  · rw [hstore, if_pos (by decide +kernel)]

end TaskQueue
