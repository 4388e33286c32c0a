import TaskQueue.Proofs.Store.Guards

/-!
# How long a client's task is guarded

A client that submits a task with a time to live has it guarded until the task is due and for the time
to live after that, whatever happens to the store in the meantime: as long as the store is open, every
submission of the same type and payload to the same queue that wants a guard of its own is told that
the task is there already, and at the end of the window none is on account of this task.

Principal results: `Moment.reply?_eq_duplicate_iff` — a client is told of a duplicate exactly if some
accepted call guards the key; `guard_window` — the window from the submission to its end.
-/

set_option autoImplicit false

namespace TaskQueue

/-- Until which position on the line of civil time a task is guarded that is submitted at `now`. -/
def Settings.guardEnd (s : Settings) (now : Instant) (ttl : Span) : Int :=
  max now.nanos s.processAt.nanos + ttl.nanos

/-- How many nanoseconds a task is guarded that is submitted at `now`. -/
def Settings.guardNanos (s : Settings) (now : Instant) (ttl : Span) : Nat :=
  (s.guardEnd now ttl - now.nanos).toNat

theorem Settings.guardNanos_eq (s : Settings) (now : Instant) (ttl : Span) :
    s.guardNanos now ttl = (s.processAt.nanos - now.nanos).toNat + ttl.nanos := by
  unfold guardNanos guardEnd
  omega

/-- The end of the window on the line of civil time is its end on the clock. -/
theorem Clock.InStep.lt_guardEnd_iff {c : Clock} {now t : Instant} {tick : Tick}
    (h : c.InStep now tick) (ht : c.wall = some t) (s : Settings) (ttl : Span) :
    t.nanos < s.guardEnd now ttl ↔ c.steady < tick + s.guardNanos now ttl := by
  have hdist := (h t ht).2
  have hspan : s.guardEnd now ttl - now.nanos = s.guardNanos now ttl := by
    simp only [Settings.guardNanos, Settings.guardEnd]
    omega
  rw [← Int.ofNat_lt, Int.natCast_add]
  omega

/-- The end of a guard that lasts `n` nanoseconds from now is no time to come, or `n` is no span. -/
def Clock.Outlasts (c : Clock) (n : Nat) : Prop := lastTick < c.steady + n ∨ maxSpanNanos < n

theorem Clock.outlasts_iff {c : Clock} {n : Nat} : c.Outlasts n ↔ lastTick < c.steady + n := by
  have hlast : lastTick < maxSpanNanos := by decide
  refine or_iff_left_of_imp fun hmax => ?_
  exact Nat.lt_of_lt_of_le (Nat.lt_trans hlast hmax) (Nat.le_add_left _ _)

/-- What the call of a unique task guards, in terms of its composed options. -/
theorem Acceptance.guards_ofTask_iff {tick tick' : Tick} {task : Task} {s : Settings} {now : Instant}
    {ttl : Span} {key : String} (hn : now.isLeap = false) (hd : s.processAt.isLeap = false)
    (hu : s.effectiveUniqueTtl = some ttl) :
    Acceptance.Guards ⟨tick, Record.ofTask task s, Route.select s.processAt s.effectiveUniqueTtl now⟩
        key tick' ↔
      Key.unique s.queue task.typeName task.payload = key ∧
        (tick' < tick + s.guardNanos now ttl ∨ lastTick < tick + s.guardNanos now ttl) := by
  obtain ⟨window, hw, hnanos⟩ := Route.nanos_uniqueTtl_select hd hn ttl
  rw [Acceptance.Guards, Record.uniqueKey_ofTask (by rw [hu]; rfl), hu, Settings.guardNanos_eq,
    ← Tick.before_end_iff, ← hnanos]
  constructor
  · rintro ⟨window', hw', hk, hbefore⟩
    rw [show (Route.select s.processAt (some ttl) now).uniqueTtl = some window' from hw',
      Option.some.injEq] at hw
    subst hw
    exact ⟨hk, hbefore⟩
  · rintro ⟨hk, hbefore⟩
    exact ⟨window, hw, hk, hbefore⟩

namespace Moment

/-- The clock of a run moves in step with civil time. -/
theorem inStep_run {m : Moment} {s : Instant} {tick : Tick} (h : m.clock.InStep s tick)
    (es : List Event) : (m.run es).clock.InStep s tick := by
  refine @run_induction (fun m _ => m.clock.InStep s tick) ?_ es m [] h
  intro m m' log new hs hm
  cases hs with
  | advance d => exact hm.advance d
  | _ => exact hm

theorem reply?_of_call {m : Moment} {x : Submission} {now : Instant} {call : Call}
    (hw : m.clock.wall = some now) (hx : x.call? now = .ok call) :
    m.reply? x = some (Client.conclude call now (m.store.submit m.clock.steady call).1) := by
  rw [reply?, hw, Option.map_some, (enqueue_of_ok hx).1]

theorem reply?_of_taken {m : Moment} {x : Submission} {now : Instant} {call : Call}
    (hw : m.clock.wall = some now) (hx : x.call? now = .ok call)
    (h : (m.store.submit m.clock.steady call).1 = .ok ()) :
    m.reply? x = some (.ok (Client.receipt call now)) := by
  rw [reply?_of_call hw hx, h]
  rfl

theorem exists_call_of_reply {m : Moment} {x : Submission} {now : Instant} {r : Receipt}
    (hw : m.clock.wall = some now) (h : m.reply? x = some (.ok r)) :
    ∃ call, x.call? now = .ok call ∧ (m.store.submit m.clock.steady call).1 = .ok () := by
  rw [reply?, hw, Option.map_some, Option.some.injEq] at h
  obtain ⟨call, hx, htaken, -⟩ := exists_call_of_receipt h
  exact ⟨call, hx, htaken⟩

theorem taken_enqueue_of_ok {m : Moment} {x : Submission} {now : Instant} {call : Call}
    (hw : m.clock.wall = some now) (hx : x.call? now = .ok call)
    (h : (m.store.submit m.clock.steady call).1 = .ok ()) :
    m.taken (.enqueue x) = [⟨m.clock.steady, call⟩] := by
  simp only [taken, offer?, hw, hx, Option.bind_some, Except.toOption, h]

/-- **A client is told of a duplicate** exactly if its call sets a guard whose key some accepted call
guards. -/
theorem reply?_eq_duplicate_iff {m : Moment} {log : List Acceptance} (law : m.GuardLaw log)
    (hopen : m.store.closed = false) {x : Submission} {now : Instant} {call : Call}
    (hw : m.clock.wall = some now) (hx : x.call? now = .ok call)
    (hu : call.route.uniqueTtl.isSome) :
    m.reply? x = some (.error .taskDuplicate) ↔
      ∃ a ∈ log, a.Guards call.record.uniqueKey m.clock.steady := by
  rw [reply?_of_call hw hx, Option.some.injEq, (Client.relays_conclude call now _).duplicate,
    Store.submit_eq_error_iff hopen, Store.refusal?_eq_duplicate_iff, and_iff_right hu]
  exact law.live _ _ (Nat.le_refl _)

/-- Once a call has set the guard of its key, no earlier call matters for the key any more. -/
theorem GuardLaw.exists_guards_iff {m : Moment} {old new : List Acceptance} (law : m.GuardLaw old)
    {call : Call} (hr : m.store.refusal? m.clock.steady call = none)
    (hu : call.route.uniqueTtl.isSome) {tick : Tick} (ht : m.clock.steady ≤ tick) :
    (∃ a ∈ old ++ ⟨m.clock.steady, call⟩ :: new, a.Guards call.record.uniqueKey tick) ↔
      Acceptance.Guards ⟨m.clock.steady, call⟩ call.record.uniqueKey tick ∨
        ∃ a ∈ new, a.Guards call.record.uniqueKey tick := by
  have hold : ¬ ∃ a ∈ old, a.Guards call.record.uniqueKey tick := by
    rintro ⟨a, ha, hg⟩
    exact law.not_guards hr hu a ha (hg.of_le ht)
  simp only [List.mem_append, List.mem_cons, or_and_right, exists_or, exists_eq_left, or_iff_right hold]

theorem accepted_cons_enqueue {m : Moment} {x : Submission} {now : Instant} {call : Call}
    (hw : m.clock.wall = some now) (hx : x.call? now = .ok call)
    (h : (m.store.submit m.clock.steady call).1 = .ok ()) (es : List Event) :
    m.accepted (.enqueue x :: es) =
      ⟨m.clock.steady, call⟩ :: (m.next (.enqueue x)).accepted es := by
  rw [accepted, taken_enqueue_of_ok hw hx h, List.singleton_append]

end Moment

/-- **The window of a guard.**  In any run, let a client be given a receipt for a unique task at the civil
time `s`, and let the same or another client submit the same type and payload to the same queue at a
later time `t` of the run, with a time to live of its own and whatever other options.  While the store
is open and `t` is before the end of the window, or the window has no end on the clock, the answer is
that the task is there already; after the end it is not, unless some call in between set the guard anew. -/
theorem guard_window {c : Clock} {before between : List Event} {m m' : Moment} {x y : Submission}
    (hm : m = (Moment.start c).run before) (hm' : m' = m.run (.enqueue x :: between))
    {s : Instant} (hs : m.clock.wall = some s) (hsl : s.isLeap = false)
    {a : Settings} (ha : x.settings? s = .ok a) (hal : a.processAt.isLeap = false)
    {ttl : Span} (hau : a.effectiveUniqueTtl = some ttl)
    {r : Receipt} (hr : m.reply? x = some (.ok r))
    (hopen : m'.store.closed = false) {t : Instant} (ht : m'.clock.wall = some t)
    (htype : y.task.typeName = x.task.typeName) (hpayload : y.task.payload = x.task.payload)
    {b : Settings} (hb : y.settings? t = .ok b) (hqueue : b.queue = a.queue)
    (hbu : b.effectiveUniqueTtl.isSome) :
    (t.nanos < a.guardEnd s ttl ∨ m.clock.Outlasts (a.guardNanos s ttl) →
        m'.reply? y = some (.error .taskDuplicate)) ∧
      (a.guardEnd s ttl ≤ t.nanos → ¬ m.clock.Outlasts (a.guardNanos s ttl) →
        (∀ z ∈ (m.next (.enqueue x)).accepted between, z.call.route.uniqueTtl.isSome →
          z.call.record.uniqueKey ≠ Key.unique a.queue x.task.typeName x.task.payload) →
        m'.reply? y ≠ some (.error .taskDuplicate)) := by
  -- The call of the first submission, and the calls accepted before and after it.
  obtain ⟨call, hx, htaken⟩ := Moment.exists_call_of_reply hs hr
  obtain ⟨hblank, a', ha', hcall⟩ := Submission.call?_eq_ok_iff.mp hx
  rw [ha, Except.ok.injEq] at ha'
  subst ha' hcall
  have law : m.GuardLaw ((Moment.start c).accepted before) := hm ▸ Moment.guardLaw_run c before
  have law' := Moment.guardLaw_run c (before ++ .enqueue x :: between)
  rw [Moment.run_append, Moment.accepted_append, ← hm, ← hm',
    Moment.accepted_cons_enqueue hs hx htaken] at law'
  have hguard : (Route.select a.processAt a.effectiveUniqueTtl s).uniqueTtl.isSome := by
    rw [Route.uniqueTtl_select, hau]
    rfl
  -- The call of the second submission has the same key.
  have hy : y.call? t = .ok _ :=
    Submission.call?_eq_ok_iff.mpr ⟨by rw [htype, hblank], b, hb, rfl⟩
  have hdup := Moment.reply?_eq_duplicate_iff law' hopen ht hy
    (by rw [Route.uniqueTtl_select]; exact hbu)
  rw [Record.uniqueKey_ofTask hbu, hqueue, htype, hpayload] at hdup
  -- The end of the window, on either clock.
  have hle : m.clock.steady ≤ m'.clock.steady :=
    law'.past _ (List.mem_append_right _ List.mem_cons_self)
  have hstep : m'.clock.InStep s m.clock.steady :=
    hm' ▸ Moment.inStep_run (Clock.inStep_self hs hsl) _
  have hend := hstep.lt_guardEnd_iff ht a ttl
  have hkey : (Record.ofTask x.task a).uniqueKey = Key.unique a.queue x.task.typeName x.task.payload :=
    Record.uniqueKey_ofTask (by rw [hau]; rfl)
  rw [Ne, hdup, Clock.outlasts_iff, hend, ← Int.not_lt, hend, ← hkey,
    law.exists_guards_iff (Store.submit_eq_ok_iff.mp htaken).2 hguard hle,
    Acceptance.guards_ofTask_iff hsl hal hau, and_iff_right hkey.symm]
  constructor
  · intro hbefore
    exact Or.inl hbefore
  · rintro hafter hlasts hfree (hbefore | ⟨z, hz, window, hu, hk, -⟩)
    · rcases hbefore with hbefore | hbefore
      · exact hafter hbefore
      · exact hlasts hbefore
    · exact hfree z hz (by rw [hu]; rfl) hk

/-- A task that is due in a minute and guarded for ten seconds more, one nanosecond before the end of its
window and at the end. -/
theorem guard_window_of_deferred :
    let x : Submission :=
      ⟨⟨"digest", [], [.unique (.ofNanos 10000000000)]⟩, [.processIn (.ofNanos 60000000000)], "1"⟩
    let y : Submission := ⟨⟨"digest", [], [.unique (.ofNanos 1)]⟩, [], "2"⟩
    let m := Moment.start ⟨some .epoch, 0⟩
    (m.run [.enqueue x, .cleanup 0, .advance (.ofNanos 69999999999)]).reply? y =
        some (.error .taskDuplicate) ∧
      (m.run [.enqueue x, .advance (.ofNanos 70000000000)]).reply? y ≠
        some (.error .taskDuplicate) := by
  intro x y m
  have hm : m = m.run [] := rfl
  have hs : m.clock.wall = some .epoch := rfl
  have ha : x.settings? .epoch = .ok _ := rfl
  have hx : x.call? .epoch = .ok _ :=
    Submission.call?_eq_ok_iff.mpr ⟨by decide +kernel, _, ha, rfl⟩
  have hr := Moment.reply?_of_taken hs hx (Store.submit_eq_ok_iff.mpr ⟨rfl, by decide +kernel⟩)
  have window (between : List Event) :=
    @guard_window _ [] between m _ x y hm rfl .epoch hs rfl _ ha rfl _ rfl _ hr
  constructor
  · refine (window [.cleanup 0, .advance _] (by decide +kernel) rfl rfl rfl rfl rfl rfl).1 (Or.inl ?_)
    decide
  · refine (window [.advance _] (by decide +kernel) rfl rfl rfl rfl rfl rfl).2 ?_ ?_ ?_
    · decide
    · rw [Clock.outlasts_iff]
      decide
    · intro z hz
      cases hz

end TaskQueue
