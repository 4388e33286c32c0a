import TaskQueue.Proofs.Store.Operations

/-!
# Submissions that do not meet

Submissions share three tables: the lanes, the records and the guards.  Each of them, taken or refused,
puts at most one entry into a table, and it reads nothing that lies under another key.  So two submissions
without a key in common do not notice each other, and their order does not matter.

Principal results: `Store.refusal?_settle` — what one submission leaves behind does not change the answer
to the other; `Store.settle_comm` — what both leave behind is the same in either order;
`independent_submissions_commute` — the two together.
-/

set_option autoImplicit false

namespace TaskQueue

open Std (ExtTreeMap)

/-- Two calls that have neither a queue nor a record nor a guard in common. -/
structure Call.Independent (x y : Call) : Prop where
  queues : x.record.queue ≠ y.record.queue
  records : Store.entryKey x.record.queue x.record.id ≠ Store.entryKey y.record.queue y.record.id
  guards : ¬ (x.route.uniqueTtl.isSome ∧ y.route.uniqueTtl.isSome ∧
    x.record.uniqueKey = y.record.uniqueKey)

theorem Call.Independent.symm {x y : Call} (h : x.Independent y) : y.Independent x :=
  ⟨h.queues.symm, h.records.symm, fun ⟨hy, hx, hk⟩ => h.guards ⟨hx, hy, hk.symm⟩⟩

/-! ## Tables -/

namespace Table

variable {α : Type} {t : ExtTreeMap String α} {put put' : Option (String × α)}

/-- A table with one more entry, or as it was. -/
def write (t : ExtTreeMap String α) : Option (String × α) → ExtTreeMap String α
  | some (key, a) => t.insert key a
  | none => t

/-- A key under which nothing is put has what it had. -/
theorem getElem?_write {key : String} (h : ∀ e ∈ put, e.1 ≠ key) : (write t put)[key]? = t[key]? := by
  cases put with
  | none => rfl
  | some e =>
    simp only [write, ExtTreeMap.getElem?_insert, Std.LawfulEqCmp.compare_eq_iff_eq]
    exact if_neg (h e rfl)

/-- **Entries under different keys** are put into a table in either order. -/
theorem write_comm (h : ∀ e ∈ put, ∀ e' ∈ put', e.1 ≠ e'.1) :
    write (write t put) put' = write (write t put') put := by
  cases put with
  | none => rfl
  | some e =>
    cases put' with
    | none => rfl
    | some e' =>
      have hne : e.1 ≠ e'.1 := h e rfl e' rfl
      refine ExtTreeMap.ext_getElem? fun key => ?_
      simp only [write, ExtTreeMap.getElem?_insert, Std.LawfulEqCmp.compare_eq_iff_eq]
      by_cases hk : e.1 = key
      · rw [if_neg fun hk' => hne (hk.trans hk'.symm), if_pos hk, if_pos hk]
      · rw [if_neg hk, if_neg hk]

end Table

/-! ## What a submission puts into the tables -/

namespace Call

/-- The record that a call leaves, if it is not refused. -/
def recordPut (call : Call) : Option BrokerError → Option (String × Entry)
  | some _ => none
  | none => some (Store.entryKey call.record.queue call.record.id,
      ⟨call.record.encode, call.route.state, call.route.uniqueTtl.map fun _ => call.record.uniqueKey⟩)

/-- The guard that a call leaves, if it sets one and is not refused. -/
def guardPut (call : Call) (now : Tick) : Option BrokerError → Option (String × Guard)
  | some _ => none
  | none => call.route.uniqueTtl.map fun ttl =>
      (call.record.uniqueKey, ⟨call.record.id, now.add? ttl⟩)

/-- The lane of its queue after a call, with one more id if the call is not refused. -/
def laneAfter (call : Call) (l : Lane) : Option BrokerError → Lane
  | some _ => l
  | none => l.push call.record.id call.route.due?

variable {call x y : Call} {now : Tick} {outcome outcome' : Option BrokerError}

theorem eq_of_mem_recordPut {e : String × Entry} (h : e ∈ call.recordPut outcome) :
    e.1 = Store.entryKey call.record.queue call.record.id := by
  cases outcome with
  | some _ => cases h
  | none =>
    cases h
    rfl

theorem eq_of_mem_guardPut {e : String × Guard} (h : e ∈ call.guardPut now outcome) :
    call.route.uniqueTtl.isSome ∧ e.1 = call.record.uniqueKey := by
  cases outcome with
  | some _ => cases h
  | none =>
    obtain ⟨ttl, hu, rfl⟩ := Option.map_eq_some_iff.mp h
    exact ⟨Option.isSome_of_eq_some hu, rfl⟩

theorem Independent.recordPut_ne (h : x.Independent y) :
    ∀ e ∈ x.recordPut outcome, ∀ e' ∈ y.recordPut outcome', e.1 ≠ e'.1 := by
  intro e he e' he'
  rw [eq_of_mem_recordPut he, eq_of_mem_recordPut he']
  exact h.records

theorem Independent.guardPut_ne (h : x.Independent y) :
    ∀ e ∈ x.guardPut now outcome, ∀ e' ∈ y.guardPut now outcome', e.1 ≠ e'.1 := by
  intro e he e' he' hk
  obtain ⟨hx, hkey⟩ := eq_of_mem_guardPut he
  obtain ⟨hy, hkey'⟩ := eq_of_mem_guardPut he'
  exact h.guards ⟨hx, hy, by rw [← hkey, hk, hkey']⟩

end Call

namespace Store

attribute [ext] Store

variable {s : Store} {now : Tick} {x y : Call} {outcome outcome' : Option BrokerError}

/-- The store after a call that is refused for a reason, or taken if there is none. -/
def settle (s : Store) (now : Tick) (call : Call) : Option BrokerError → Store
  | some _ => s.register call.record.queue
  | none => s.add now call call.record.encode

/-- What a caller is told whose call is refused for a reason, or taken if there is none. -/
def told : Option BrokerError → Except BrokerError Unit
  | some e => .error e
  | none => .ok ()

theorem submit_eq_settle (hopen : s.closed = false) (now : Tick) (call : Call) :
    s.submit now call = (told (s.refusal? now call), s.settle now call (s.refusal? now call)) := by
  cases hr : s.refusal? now call with
  | none => exact submit_eq_of_free hopen hr
  | some e => exact submit_eq_of_refusal hopen hr

theorem closed_settle (s : Store) (now : Tick) (call : Call) (outcome : Option BrokerError) :
    (s.settle now call outcome).closed = s.closed := by
  cases outcome <;> rfl

theorem tasks_settle (s : Store) (now : Tick) (call : Call) (outcome : Option BrokerError) :
    (s.settle now call outcome).tasks = Table.write s.tasks (call.recordPut outcome) := by
  cases outcome <;> rfl

theorem guards_settle (s : Store) (now : Tick) (call : Call) (outcome : Option BrokerError) :
    (s.settle now call outcome).guards = Table.write s.guards (call.guardPut now outcome) := by
  cases outcome with
  | some e => rfl
  | none =>
    show s.guardsAfter now call = Table.write s.guards (call.route.uniqueTtl.map _)
    cases hu : call.route.uniqueTtl <;> simp only [guardsAfter, hu] <;> rfl

theorem lanes_settle (s : Store) (now : Tick) (call : Call) (outcome : Option BrokerError) :
    (s.settle now call outcome).lanes =
      Table.write s.lanes (some (call.record.queue, call.laneAfter (s.lane call.record.queue) outcome)) := by
  cases outcome <;> rfl

/-- A queue that a call does not name keeps its lane. -/
theorem lane_settle {queue : String} (h : x.record.queue ≠ queue) :
    (s.settle now x outcome).lane queue = s.lane queue := by
  have hput : ∀ e ∈ some (x.record.queue, x.laneAfter (s.lane x.record.queue) outcome), e.1 ≠ queue := by
    rintro e ⟨⟩
    exact h
  rw [lane, lanes_settle, Table.getElem?_write hput, lane]

/-! ## Two submissions -/

/-- What a store answers depends on two entries: the guard, if the call sets one, and the record. -/
theorem refusal?_congr {s s' : Store} {call : Call}
    (hguard : call.route.uniqueTtl.isSome →
      s'.guards[call.record.uniqueKey]? = s.guards[call.record.uniqueKey]?)
    (hrecord : s'.tasks[entryKey call.record.queue call.record.id]? =
      s.tasks[entryKey call.record.queue call.record.id]?) :
    s'.refusal? now call = s.refusal? now call := by
  have hlive : (call.route.uniqueTtl.isSome ∧ s'.isLive now call.record.uniqueKey) ↔
      (call.route.uniqueTtl.isSome ∧ s.isLive now call.record.uniqueKey) :=
    and_congr_right fun hu => by rw [isLive, isLive, hguard hu]
  have htaken : entryKey call.record.queue call.record.id ∈ s'.tasks ↔
      entryKey call.record.queue call.record.id ∈ s.tasks := by
    rw [ExtTreeMap.mem_iff_isSome_getElem?, hrecord, ← ExtTreeMap.mem_iff_isSome_getElem?]
  unfold refusal?
  simp only [hlive, htaken]

/-- **One submission does not change the answer to the other**, whatever becomes of it. -/
theorem refusal?_settle (h : x.Independent y) :
    (s.settle now x outcome).refusal? now y = s.refusal? now y := by
  refine refusal?_congr (fun hy => ?_) ?_
  · rw [guards_settle]
    refine Table.getElem?_write fun e he hk => ?_
    obtain ⟨hx, hkey⟩ := Call.eq_of_mem_guardPut he
    exact h.guards ⟨hx, hy, hkey.symm.trans hk⟩
  · rw [tasks_settle]
    refine Table.getElem?_write fun e he => ?_
    rw [Call.eq_of_mem_recordPut he]
    exact h.records

/-- **What two submissions leave behind** is the same in either order. -/
theorem settle_comm (h : x.Independent y) :
    (s.settle now x outcome).settle now y outcome' = (s.settle now y outcome').settle now x outcome := by
  apply Store.ext
  case lanes =>
    rw [lanes_settle, lane_settle h.queues, lanes_settle, lanes_settle _ _ x, lane_settle h.symm.queues,
      lanes_settle]
    refine Table.write_comm ?_
    rintro e ⟨⟩ e' ⟨⟩
    exact h.queues
  case tasks =>
    simp only [tasks_settle]
    exact Table.write_comm h.recordPut_ne
  case guards =>
    simp only [guards_settle]
    exact Table.write_comm h.guardPut_ne
  case closed =>
    simp only [closed_settle]

end Store

/-- **Independent submissions commute.**  Two records that are handed over at the same time, with different
queues, without a common key among the records and without a common guard to set, are answered alike in
either order, each as if it came alone, and the store is the same afterwards: taken, refused as duplicates or
for their ids, or turned away by a closed store. -/
theorem independent_submissions_commute (s : Store) (now : Tick) (x y : Call) (h : x.Independent y) :
    let afterX := (s.submit now x).2
    let afterY := (s.submit now y).2
    (afterY.submit now x).1 = (s.submit now x).1 ∧ (afterX.submit now y).1 = (s.submit now y).1 ∧
      (afterX.submit now y).2 = (afterY.submit now x).2 := by
  intro afterX afterY
  cases hc : s.closed with
  | true =>
    have hx : afterX = s := Store.submit_of_closed hc now x
    have hy : afterY = s := Store.submit_of_closed hc now y
    rw [hx, hy]
    exact ⟨rfl, rfl, by rw [Store.submit_of_closed hc, Store.submit_of_closed hc]⟩
  | false =>
    have hx : afterX = s.settle now x (s.refusal? now x) :=
      congrArg Prod.snd (Store.submit_eq_settle hc now x)
    have hy : afterY = s.settle now y (s.refusal? now y) :=
      congrArg Prod.snd (Store.submit_eq_settle hc now y)
    have hopenX : afterX.closed = false := by rw [hx, Store.closed_settle, hc]
    have hopenY : afterY.closed = false := by rw [hy, Store.closed_settle, hc]
    have hrefusalX : afterY.refusal? now x = s.refusal? now x := by
      rw [hy, Store.refusal?_settle h.symm]
    have hrefusalY : afterX.refusal? now y = s.refusal? now y := by
      rw [hx, Store.refusal?_settle h]
    simp only [Store.submit_eq_settle hopenX, Store.submit_eq_settle hopenY, Store.submit_eq_settle hc,
      hrefusalX, hrefusalY, true_and]
    rw [hx, hy, Store.settle_comm h]

/-- A unique task and a task of another queue that carries the same key but sets no guard, and a duplicate of
the first one in a third queue: the first two commute with each other, and the last two as well. -/
theorem independent_submissions_commute_of_refused :
    let x : Call := ⟨{ id := "1", queue := "mail", uniqueKey := "key" }, .enqueueUnique (.ofNanos 10)⟩
    let y : Call := ⟨{ id := "1", queue := "news", uniqueKey := "key" }, .schedule .epoch⟩
    let z : Call := ⟨{ id := "2", queue := "sms", uniqueKey := "key" }, .enqueueUnique (.ofNanos 90)⟩
    let s := (Store.empty.submit 0 x).2
    x.Independent y ∧ ((Store.empty.submit 0 x).2.submit 0 y).2 = ((Store.empty.submit 0 y).2.submit 0 x).2 ∧
      y.Independent z ∧ ((s.submit 9 y).2.submit 9 z).1 = .error .duplicateTask ∧
      ((s.submit 9 y).2.submit 9 z).2 = ((s.submit 9 z).2.submit 9 y).2 := by
  intro x y z s
  have hxy : x.Independent y := ⟨by decide, by decide, by decide⟩
  have hyz : y.Independent z := ⟨by decide, by decide, by decide⟩
  obtain ⟨-, hz, hstore⟩ := independent_submissions_commute s 9 y z hyz
  have hopen : s.closed = false := by decide +kernel
  have hduplicate : (s.submit 9 z).1 = .error .duplicateTask :=
    (Store.submit_eq_error_iff hopen).mpr (by decide +kernel)
  exact ⟨hxy, (independent_submissions_commute _ 0 x y hxy).2.2, hyz, hz.trans hduplicate, hstore⟩

end TaskQueue
