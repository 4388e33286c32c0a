import TaskQueue.Proofs.Client.Call
import TaskQueue.Proofs.Remote.Invocation

/-!
# How long the remote store locks

The remote store counts the lock of a guard in whole seconds, and the window of a guard is counted in
nanoseconds.  What is cut off may be more than the time to live that the window adds to the wait, and then
the lock ends before the task is due.

Principal results: `toInt_lockSeconds` — the seconds of a lock; `Client.trace_enqueue_iff` — what a client says
to the remote store; `lock_reaches_due_iff` — when the lock of a scheduled task reaches the time for which the
task is scheduled; `lock_ends_before_due` — it does not always.
-/

set_option autoImplicit false

namespace TaskQueue

/-! ## The seconds of a lock -/

/-- **The lock of a guard**: the whole seconds of its window, at least one and not too many. -/
theorem toInt_lockSeconds (d : Span) :
    (lockSeconds d).toInt = max 1 (min (d.seconds : Int) maxLockSeconds.toInt) := by
  have hmax : maxLockSeconds.toInt = 4611686018427387 := rfl
  have hone : (1 : Int64).toInt = 1 := rfl
  have hd := d.toInt_wholeSeconds
  unfold lockSeconds
  simp only [Int64.lt_iff_toInt_lt, hone, hmax]
  split
  · omega
  · split
    · omega
    · omega

/-- How many nanoseconds the lock of a guard lasts. -/
def lockNanos (window : Span) : Int := (lockSeconds window).toInt * nanosPerSecond

/-- **When a lock lasts through a wait** that is the beginning of its window: unless more than the time to live
is cut off.  It ends less than a second too early in any case. -/
theorem lockNanos_spec {wait : Nat} {ttl window : Span}
    (hwait : (wait : Int) ≤ maxLockSeconds.toInt * nanosPerSecond)
    (hwindow : window.nanos = min (wait + ttl.nanos) maxSpanNanos) :
    ((wait : Int) ≤ lockNanos window ↔
      wait ≤ nanosPerSecond ∨ wait % nanosPerSecond = 0 ∨
        nanosPerSecond ≤ wait % nanosPerSecond + ttl.nanos) ∧
    (wait : Int) < lockNanos window + nanosPerSecond := by
  have hmax : maxLockSeconds.toInt = 4611686018427387 := rfl
  rw [lockNanos, toInt_lockSeconds, Span.seconds, hwindow]
  simp only [maxSpanNanos, nanosPerSecond, hmax] at *
  constructor
  · omega
  · omega

/-! ## What a client has the store run -/

/-- The guard's lock as it stands among the arguments of a script. -/
def Invocation.lock? (i : Invocation) : Option Argument := i.arguments[1]?

/-- **What a client says to the remote store** is what the session says for the call that it makes. -/
theorem Client.trace_enqueue_iff {s : Session} {x : Submission} {composed now sent : Instant} {call : Call}
    (hx : x.call? now composed = .ok call) {log : List Exchange}
    {outcome : Answer Error Receipt × Session} :
    ((Client.enqueue (Session.broker sent) x.task x.opts now x.freshId composed).run s).Trace log outcome ↔
      ∃ answer, (s.submit sent call).Trace log answer ∧
        outcome = (⟨conclude call now answer.result, preparationNotices x.task x.opts composed ++
          answer.notices ++ conclusionNotices call (conclude call now answer.result)⟩, s) := by
  have hrun : (Client.enqueue (Session.broker sent) x.task x.opts now x.freshId composed).run s =
      (s.submit sent call).bind fun answer => .done
        (⟨conclude call now answer.result, preparationNotices x.task x.opts composed ++
          answer.notices ++ conclusionNotices call (conclude call now answer.result)⟩, s) := by
    unfold Client.enqueue
    rw [show Client.prepare x.task x.opts now x.freshId composed = .ok call from hx]
    exact Dialogue.bind_assoc (s.submit sent call) _ _
  rw [hrun, Dialogue.trace_bind_iff]
  constructor
  · rintro ⟨answer, first, rest, rfl, hfirst, hrest⟩
    obtain ⟨rfl, rfl⟩ := Dialogue.trace_done_iff.mp hrest
    exact ⟨answer, by rwa [List.append_nil], rfl⟩
  · rintro ⟨answer, hsubmit, rfl⟩
    exact ⟨answer, log, [], (List.append_nil _).symm, hsubmit, .done _⟩

/-- **When the lock of a scheduled task reaches the time for which the task is scheduled**: if that is at most a
second away or a whole number of seconds, or if the time to live makes up for the rest of its last second.
Otherwise the lock ends before, but by less than a second.  The lock is the one that every script is run with,
whatever the replies, and its window is the one that the route was chosen with at `now`, whenever the options
were composed and whenever the session reads the clock. -/
theorem lock_reaches_due_iff {s : Session} {loads : List Exchange} (hs : s.Opened loads) {x : Submission}
    {composed now sent : Instant} (htype : Text.allBlank x.task.typeName = false) {a : Settings}
    (ha : x.settings? composed = .ok a) {ttl : Span} (hu : a.effectiveUniqueTtl = some ttl)
    (hlater : now < a.processAt) (hn : now.isLeap = false) (hd : a.processAt.isLeap = false)
    {log : List Exchange} {outcome : Answer Error Receipt × Session}
    (h : ((Client.enqueue (Session.broker sent) x.task x.opts now x.freshId composed).run s).Trace
      log outcome) :
    let wait := (a.processAt.nanos - now.nanos).toNat
    ∃ window, Route.select a.processAt a.effectiveUniqueTtl now = .scheduleUnique a.processAt window ∧
      (∀ e ∈ log, ∀ i, e.command.invocation? = some i → i.lock? = some (.int (lockSeconds window))) ∧
      (a.processAt.nanos - now.nanos ≤ lockNanos window ↔
        wait ≤ nanosPerSecond ∨ wait % nanosPerSecond = 0 ∨
          nanosPerSecond ≤ wait % nanosPerSecond + ttl.nanos) ∧
      a.processAt.nanos - now.nanos < lockNanos window + nanosPerSecond := by
  intro wait
  have hselect : Route.select a.processAt a.effectiveUniqueTtl now =
      .scheduleUnique a.processAt ((Route.waitUntil a.processAt now).add ttl) := by
    rw [hu, Route.select, if_neg (Instant.not_le.mpr hlater)]
  have hcall : x.call? now composed = .ok ⟨Record.ofTask x.task a, _⟩ :=
    Submission.call?_eq_ok_iff.mpr ⟨htype, a, ha, rfl⟩
  obtain ⟨answer, hsubmit, -⟩ := (Client.trace_enqueue_iff hcall).mp h
  -- The wait is the distance of the two instants, and the calendar is shorter than the longest lock.
  have hpos : (wait : Int) = a.processAt.nanos - now.nanos := by
    have hlt : ¬ a.processAt.nanos ≤ now.nanos := by
      rw [← Instant.le_iff_nanos hd hn]
      exact Instant.not_le.mpr hlater
    omega
  have hwait : (wait : Int) ≤ maxLockSeconds.toInt * nanosPerSecond := by
    rw [hpos]
    exact Int.le_trans (Int.le_of_lt (Instant.nanos_sub_lt _ now hd)) (by decide)
  have hwindow : ((Route.waitUntil a.processAt now).add ttl).nanos =
      min (wait + ttl.nanos) maxSpanNanos := by
    rw [Span.nanos_add, Route.nanos_waitUntil hd hn]
  refine ⟨_, hselect, ?_, ?_⟩
  · intro e he i hi
    rw [Session.invocation_eq_of_trace hs hsubmit he hi, hselect]
    rfl
  · rw [← hpos]
    exact lockNanos_spec hwait hwindow

/-- A task that is due in a second and a half, with half a second to live after that: the lock is for two
seconds. -/
theorem lock_reaches_due_iff_of_half :
    let x : Submission :=
      ⟨⟨"digest", [], []⟩, [.processIn (.ofNanos 1500000000), .unique (.ofNanos 500000000)], "1"⟩
    ∃ due window log outcome,
      Route.select due (some (.ofNanos 500000000)) .epoch = .scheduleUnique due window ∧
      ((Client.enqueue (Session.broker .epoch) x.task x.opts .epoch x.freshId).run
        Session.named).Trace log outcome ∧
      (∃ e ∈ log, ∃ i, e.command.invocation? = some i ∧ i.lock? = some (.int (lockSeconds window))) ∧
      due.nanos - Instant.epoch.nanos = 1500000000 ∧ due.nanos - Instant.epoch.nanos ≤ lockNanos window := by
  intro x
  let a : Settings := { Settings.initial .epoch "1" with
    processAt := ⟨1, 500000000, by decide, by decide, by decide, by decide⟩
    uniqueTtl := some (.ofNanos 500000000) }
  have ha : x.settings? .epoch = .ok a := by rfl
  have hx : x.call? .epoch = .ok ⟨Record.ofTask x.task a, _⟩ :=
    Submission.call?_eq_ok_iff.mpr ⟨by decide +kernel, a, ha, rfl⟩
  obtain ⟨loads, hs⟩ := Session.exists_opened_named
  obtain ⟨log, answer, hsubmit, e, he, hi⟩ := Session.exists_trace_named .epoch
    ⟨Record.ofTask x.task a, Route.select a.processAt a.effectiveUniqueTtl .epoch⟩
  have htrace := (Client.trace_enqueue_iff hx).mpr ⟨answer, hsubmit, rfl⟩
  obtain ⟨window, hselect, hlock, hreach, -⟩ :=
    lock_reaches_due_iff hs (by decide +kernel) ha rfl (by decide) rfl rfl htrace
  have hsum : Instant.nanos a.processAt - Instant.epoch.nanos = 1500000000 := by decide +kernel
  refine ⟨a.processAt, window, log, _, hselect, htrace, ⟨e, he, _, hi, hlock e he _ hi⟩, hsum, hreach.mpr ?_⟩
  decide +kernel

/-- A task that is due in a second and a half, with a time to live of a tenth of a second: the lock is for one
second, and ends half a second before the task is due. -/
theorem lock_ends_before_due :
    let x : Submission :=
      ⟨⟨"t", [], []⟩, [.taskId "a", .processIn (.ofNanos 1500000000), .unique (.ofNanos 100000000)], "1"⟩
    ∃ now a ttl window, now.isLeap = false ∧ x.settings? now = .ok a ∧ a.processAt.isLeap = false ∧
      now < a.processAt ∧ a.effectiveUniqueTtl = some ttl ∧
      Route.select a.processAt a.effectiveUniqueTtl now = .scheduleUnique a.processAt window ∧
      (∃ s loads, s.Opened loads ∧ ∃ log outcome,
        ((Client.enqueue (Session.broker now) x.task x.opts now x.freshId).run s).Trace log outcome ∧
        ∃ e ∈ log, ∃ i, e.command.invocation? = some i ∧ i.lock? = some (.int (lockSeconds window))) ∧
      lockSeconds window = 1 ∧ a.processAt.nanos - now.nanos = 1500000000 ∧
      lockNanos window < a.processAt.nanos - now.nanos := by
  intro x
  let now : Instant := ⟨1700000000, 0, by decide, by decide, by decide, by decide⟩
  let a : Settings := { Settings.initial now "a" with
    processAt := ⟨1700000001, 500000000, by decide, by decide, by decide, by decide⟩
    uniqueTtl := some (.ofNanos 100000000) }
  have ha : x.settings? now = .ok a :=
    (Settings.compose_of_usable (by decide +kernel)).trans (congrArg _ (by decide +kernel))
  have hx : x.call? now = .ok ⟨Record.ofTask x.task a, _⟩ :=
    Submission.call?_eq_ok_iff.mpr ⟨by decide +kernel, a, ha, rfl⟩
  have hroute : Route.select a.processAt a.effectiveUniqueTtl now =
      .scheduleUnique a.processAt (.ofNanos 1600000000) := by decide +kernel
  have hlock : lockSeconds (.ofNanos 1600000000) = 1 := by decide +kernel
  have hwait : a.processAt.nanos - now.nanos = 1500000000 := by decide +kernel
  obtain ⟨loads, hs⟩ := Session.exists_opened_named
  obtain ⟨log, answer, htrace, e, he, hi⟩ := Session.exists_trace_named now
    ⟨Record.ofTask x.task a, Route.select a.processAt a.effectiveUniqueTtl now⟩
  refine ⟨now, a, .ofNanos 100000000, .ofNanos 1600000000, rfl, ha, rfl, by decide +kernel,
    by decide +kernel, hroute, ⟨Session.named, loads, hs, log, _,
      (Client.trace_enqueue_iff hx).mpr ⟨answer, htrace, rfl⟩, e, he, _, hi, ?_⟩, hlock, hwait, ?_⟩
  · rw [hroute]
    rfl
  · rw [hwait, lockNanos, hlock]
    decide

end TaskQueue
