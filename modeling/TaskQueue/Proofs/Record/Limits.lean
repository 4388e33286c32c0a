import TaskQueue.Task
import TaskQueue.Proofs.Record.RoundTrip

/-!
# The limits of a record

A record keeps a time or a length of time as a number of whole seconds, in which zero stands for what is not
set.  Lengths are guarded against that: a timeout that is not zero counts as one second at least.  A deadline
is not, and one in the first second of 1970 is lost.

Principal results: `Record.keeps_limits` — what is asked for as a timeout and a retention is what the record
says, up to the largest word; `Record.keeps_deadline_unless_epoch` — which deadlines a record keeps;
`Record.deadline_lost_at_epoch` — one that it does not.
-/

set_option autoImplicit false

namespace TaskQueue

/-! ## Whole seconds -/

/-- The word counts the whole seconds of a span, and is the largest one if there are more. -/
structure Span.CountedBy (d : Span) (n : Int64) : Prop where
  within : d.nanos < 2 ^ 63 * nanosPerSecond →
    n.toInt * nanosPerSecond ≤ d.nanos ∧ (d.nanos : Int) < (n.toInt + 1) * nanosPerSecond
  beyond : 2 ^ 63 * nanosPerSecond ≤ d.nanos → n = Int64.maxValue

theorem Span.countedBy_wholeSeconds (d : Span) : d.CountedBy d.wholeSeconds := by
  have hn := d.toInt_wholeSeconds
  have hmax : Int64.maxValue.toInt = 2 ^ 63 - 1 := rfl
  simp only [seconds, nanosPerSecond] at hn
  constructor
  · intro hd
    simp only [nanosPerSecond] at *
    omega
  · intro hd
    rw [← Int64.toInt_inj, hmax]
    simp only [nanosPerSecond] at hd
    omega

theorem Span.wholeSeconds_mono {d e : Span} (h : d.nanos ≤ e.nanos) : d.wholeSeconds ≤ e.wholeSeconds := by
  have hsec := Span.seconds_mono h
  rw [Int64.le_iff_toInt_le, d.toInt_wholeSeconds, e.toInt_wholeSeconds]
  omega

theorem Span.wholeSeconds_nonneg (d : Span) : 0 ≤ d.wholeSeconds.toInt := by
  rw [d.toInt_wholeSeconds]
  omega

/-- A number of seconds is read back as a length of time: the very one, and none only if it is zero. -/
structure ReadBack (n : Int64) (view : Option Span) : Prop where
  none_iff : view = none ↔ n = 0
  nanos_eq : ∀ d, view = some d → (d.nanos : Int) = n.toInt * nanosPerSecond

theorem readBack_spanOfSeconds? {n : Int64} (h : 0 ≤ n.toInt) : ReadBack n (spanOfSeconds? n) := by
  constructor
  · have hzero : (0 : Int64).toInt = 0 := rfl
    rw [← Option.not_isSome_iff_eq_none, spanOfSeconds?_isSome, ← Int64.toInt_inj, hzero]
    omega
  · intro d hd
    unfold spanOfSeconds? at hd
    split at hd
    · obtain ⟨-, hnanos⟩ := Span.ofSeconds?_eq_some_iff.mp hd
      rw [hnanos, Int.natCast_mul, Int.toNat_of_nonneg h]
    · cases hd

/-! ## The timeout -/

namespace Record

/-- A timeout that is not zero is recorded as its whole seconds, and as one second if it has none. -/
theorem toInt_timeoutFor {d : Span} (hd : 0 < d.nanos) (deadline : Int64) :
    (timeoutFor (some d) deadline).toInt = max 1 d.wholeSeconds.toInt := by
  have hone : (1 : Int64).toInt = 1 := rfl
  have hset : (some d).filter (fun d => !d.isZero) = some d := by
    rw [Option.filter_some, Span.isZero_eq_false_iff.mpr hd]
    rfl
  rw [timeoutFor, hset]
  simp only [Int64.lt_iff_toInt_lt, hone]
  split
  · omega
  · omega

theorem timeoutFor_of_unset {timeout : Option Span} (h : ∀ d, timeout = some d → d.nanos = 0)
    (deadline : Int64) : timeoutFor timeout deadline = if deadline = 0 then defaultTimeout else 0 := by
  have hnone : timeout.filter (fun d => !d.isZero) = none := by
    rw [Option.filter_eq_none_iff]
    intro d hd
    simp [Span.isZero, h d hd]
  rw [timeoutFor, hnone]

theorem timeoutFor_nonneg (timeout : Option Span) (deadline : Int64) :
    0 ≤ (timeoutFor timeout deadline).toInt := by
  by_cases h : ∃ d, timeout = some d ∧ 0 < d.nanos
  · obtain ⟨d, rfl, hd⟩ := h
    rw [toInt_timeoutFor hd]
    omega
  · have hunset : ∀ d, timeout = some d → d.nanos = 0 := fun d hd =>
      Nat.eq_zero_of_not_pos fun hpos => h ⟨d, hd, hpos⟩
    rw [timeoutFor_of_unset hunset]
    split
    · decide
    · decide

/-- **A timeout that is not zero** is counted in whole seconds, and as one second if it is shorter. -/
theorem timeoutFor_counts {d : Span} (hd : 0 < d.nanos) (deadline : Int64) :
    1 ≤ timeoutFor (some d) deadline ∧ (d.nanos < nanosPerSecond → timeoutFor (some d) deadline = 1) ∧
      (nanosPerSecond ≤ d.nanos → d.CountedBy (timeoutFor (some d) deadline)) := by
  have hone : (1 : Int64).toInt = 1 := rfl
  have htimeout := toInt_timeoutFor hd deadline
  have hwhole := d.toInt_wholeSeconds
  rw [Int64.le_iff_toInt_le, ← Int64.toInt_inj, hone]
  refine ⟨by omega, ?_, ?_⟩
  · intro hshort
    have hnone : d.seconds = 0 := Nat.div_eq_of_lt hshort
    omega
  · intro hlong
    have hsome : 1 ≤ d.seconds := (Nat.one_le_div_iff (by decide)).mpr hlong
    have heq : timeoutFor (some d) deadline = d.wholeSeconds := by
      rw [← Int64.toInt_inj]
      omega
    rw [heq]
    exact d.countedBy_wholeSeconds

/-- A longer timeout is recorded as no shorter one, with whatever deadlines. -/
theorem timeoutFor_mono {d e : Span} (hd : 0 < d.nanos) (h : d.nanos ≤ e.nanos) (deadline deadline' : Int64) :
    timeoutFor (some d) deadline ≤ timeoutFor (some e) deadline' := by
  have hmono := Int64.le_iff_toInt_le.mp (Span.wholeSeconds_mono h)
  rw [Int64.le_iff_toInt_le, toInt_timeoutFor hd, toInt_timeoutFor (by omega)]
  omega

/-! ## Limits -/

/-- The record limits its task as it was asked to. -/
structure Limited (r : Record) (s : Settings) : Prop where
  bounded : 1 ≤ r.timeout ∨ r.deadline ≠ 0
  /-- A timeout that is asked for is one, however short it is. -/
  timeout_set : ∀ d, s.timeout = some d → 0 < d.nanos → 1 ≤ r.timeout ∧
    (d.nanos < nanosPerSecond → r.timeout = 1) ∧ (nanosPerSecond ≤ d.nanos → d.CountedBy r.timeout)
  /-- Half an hour, unless there is a deadline. -/
  timeout_unset : (∀ d, s.timeout = some d → d.nanos = 0) → r.timeout = if r.deadline = 0 then 1800 else 0
  retention_nonneg : 0 ≤ r.retention
  retention_counts : s.retention.CountedBy r.retention
  timeout_read : ReadBack r.timeout r.timeoutSpan
  retention_read : ReadBack r.retention r.retentionSpan

theorem ofTask_limited (task : Task) (s : Settings) : (ofTask task s).Limited s := by
  constructor
  · exact ofTask_bounded task s
  · intro d hd hpos
    rw [ofTask, hd]
    exact timeoutFor_counts hpos _
  · intro hunset
    exact timeoutFor_of_unset hunset _
  · exact Int64.le_iff_toInt_le.mpr s.retention.wholeSeconds_nonneg
  · exact s.retention.countedBy_wholeSeconds
  · exact readBack_spanOfSeconds? (timeoutFor_nonneg _ _)
  · exact readBack_spanOfSeconds? s.retention.wholeSeconds_nonneg

/-- **The limits of a record** are those that were asked for, with whatever settings: its task has a timeout or a
deadline, a timeout is counted in whole seconds but as one at least, so is the retention, and both are read back
as they are counted.  Asked for longer, neither is recorded as shorter. -/
theorem keeps_limits (task : Task) (s : Settings) :
    (ofTask task s).Limited s ∧ ∀ (task' : Task) (s' : Settings),
      (∀ d d', s.timeout = some d → s'.timeout = some d' → 0 < d.nanos → d.nanos ≤ d'.nanos →
        (ofTask task s).timeout ≤ (ofTask task' s').timeout) ∧
      (s.retention.nanos ≤ s'.retention.nanos →
        (ofTask task s).retention ≤ (ofTask task' s').retention) := by
  refine ⟨ofTask_limited task s, fun task' s' => ⟨?_, fun h => Span.wholeSeconds_mono h⟩⟩
  intro d d' hd hd' hpos hle
  rw [ofTask, ofTask, hd, hd']
  exact timeoutFor_mono hpos hle _ _

/-- A hundredth of a second is recorded as one second and half a second as no less, and the longest retention as
the largest word, for a task in a queue without a name. -/
theorem keeps_limits_of_extremes :
    let s : Settings := ⟨-1, "", "", some (.ofNanos 10000000), none, none, .epoch, .max⟩
    let s' : Settings := { s with timeout := some (.ofNanos 500000000) }
    let r := ofTask ⟨"", [], []⟩ s
    let r' := ofTask ⟨"", [], []⟩ s'
    r.timeout = 1 ∧ r.timeout ≤ r'.timeout ∧ r.retention = Int64.maxValue ∧
      ReadBack r.retention r.retentionSpan := by
  intro s s' r r'
  obtain ⟨hr, hmono⟩ := keeps_limits ⟨"", [], []⟩ s
  obtain ⟨-, hone, -⟩ := hr.timeout_set _ rfl (by decide)
  exact ⟨hone (by decide), (hmono _ s').1 _ _ rfl rfl (by decide) (by decide),
    hr.retention_counts.beyond (by decide), hr.retention_read⟩

/-! ## Deadlines -/

theorem deadlineFor_eq_zero_iff {deadline : Option Instant} :
    deadlineFor deadline = 0 ↔ ∀ t, deadline = some t → t.second = 0 := by
  cases deadline with
  | none => simp [deadlineFor]
  | some t =>
    rw [deadlineFor, ← Int64.toInt_inj, t.toInt_ofInt_second]
    simp

/-- A deadline is kept as the beginning of its second. -/
theorem deadlineAt_of_second_ne_zero {r : Record} {t : Instant} (hr : r.deadline = deadlineFor (some t))
    (ht : t.second ≠ 0) : r.deadlineAt = some t.truncate := by
  have hne : r.deadline ≠ 0 := by
    rw [hr, Ne, deadlineFor_eq_zero_iff]
    intro h
    exact ht (h t rfl)
  rw [deadlineAt, if_neg hne, hr, deadlineFor, t.toInt_ofInt_second, t.ofSecond?_second]

/-- **Which deadlines a record keeps**: all but those in the first second of 1970, cut to the beginning of their
second, and from its wire form as well.  A record with one of these is that of a task without a deadline. -/
theorem keeps_deadline_unless_epoch (task : Task) (s : Settings) :
    let r := ofTask task s
    (∀ t, s.deadline = some t → t.second ≠ 0 → r.deadlineAt = some t.truncate) ∧
    (r.deadlineAt = none ↔ ∀ t, s.deadline = some t → t.second = 0) ∧
    ((∀ t, s.deadline = some t → t.second = 0) → r = ofTask task { s with deadline := none }) ∧
    (r.encode.length < 2 ^ 64 →
      ∃ r', Record.decode r.encode = .ok r' ∧ r'.deadlineAt = r.deadlineAt) := by
  intro r
  have hkept : ∀ t, s.deadline = some t → t.second ≠ 0 → r.deadlineAt = some t.truncate := by
    intro t ht hne
    exact deadlineAt_of_second_ne_zero (congrArg deadlineFor ht) hne
  refine ⟨hkept, ⟨?_, ?_⟩, ?_, fun hlen => ⟨r, decode_encode hlen, rfl⟩⟩
  · intro hnone t ht
    refine Decidable.byContradiction fun hne => ?_
    rw [hkept t ht hne] at hnone
    cases hnone
  · intro h
    exact if_pos (deadlineFor_eq_zero_iff.mpr h)
  · intro h
    have hzero : deadlineFor s.deadline = deadlineFor none := deadlineFor_eq_zero_iff.mpr h
    show ofTask task s = ofTask task { s with deadline := none }
    rw [ofTask, hzero]
    rfl

/-- A deadline half a second before 1970 is the second before. -/
theorem keeps_deadline_unless_epoch_of_second_before :
    let t : Instant := ⟨-1, 500000000, by decide, by decide, by decide, by decide⟩
    let r := ofTask ⟨"t", [], []⟩ { Settings.initial .epoch "1" with deadline := some t }
    r.deadlineAt = Instant.ofSecond? (-1) ∧
      ∃ r', Record.decode r.encode = .ok r' ∧ r'.deadlineAt = Instant.ofSecond? (-1) := by
  intro t r
  obtain ⟨hkept, -, -, hread⟩ := keeps_deadline_unless_epoch ⟨"t", [], []⟩
    { Settings.initial .epoch "1" with deadline := some t }
  have hr : r.deadlineAt = Instant.ofSecond? (-1) := hkept t rfl (by decide)
  obtain ⟨r', hdecode, hsame⟩ := hread (by decide +kernel)
  exact ⟨hr, r', hdecode, hsame.trans hr⟩

/-- **A deadline at the beginning of 1970 is lost** with a timeout beside it; and without one, the task has half
an hour from whenever it is begun. -/
theorem deadline_lost_at_epoch :
    let task : Task := ⟨"t", [0x70], []⟩
    let opts : List TaskOption := [.deadline .epoch, .timeout (.ofNanos 20000000000), .taskId "i"]
    ∃ s, Settings.compose .epoch (Settings.initial .epoch "1") opts = .ok s ∧
      s.deadline = some .epoch ∧ Instant.epoch.truncate = .epoch ∧ (ofTask task s).deadlineAt = none ∧
      (ofTask task { s with timeout := none }).timeout = defaultTimeout :=
  ⟨_, rfl, rfl, rfl, rfl, rfl⟩

end Record

end TaskQueue
