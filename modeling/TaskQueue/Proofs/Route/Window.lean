import TaskQueue.Proofs.Time.Arithmetic
import TaskQueue.Route

/-!
# The window of a guard

A route that is chosen at `now` for a task due at `due` guards until the task is due and for its time
to live after that, counted in nanoseconds from `now`.  The window stops at the longest span, which no
clock reaches, so that a guard with such a window never expires.

Principal results: `Route.nanos_uniqueTtl_select` — the window, exactly; `Tick.before_end_iff` — where
it ends on the clock, the longest span being as good as any longer one; `deferred_window_is_exact` — the
route with its window, for all times of the calendar, and how the window grows and shrinks.
-/

set_option autoImplicit false

namespace TaskQueue

namespace Route

theorem nanos_waitUntil {due now : Instant} (hd : due.isLeap = false) (hn : now.isLeap = false) :
    (waitUntil due now).nanos = (due.nanos - now.nanos).toNat := by
  have hle := Instant.nanos_sub_le due now hd
  have hfit : (due.nanos - now.nanos).toNat ≤ maxSpanNanos := by omega
  rw [waitUntil, Instant.since_eq hd hn, Span.ofOffset?, dif_pos hfit]
  split
  · rfl
  · rename_i h
    show 0 = (due.nanos - now.nanos).toNat
    omega

/-- **The window of a guard**: the wait, if there is one, and the time to live. -/
theorem nanos_uniqueTtl_select {due now : Instant} (hd : due.isLeap = false)
    (hn : now.isLeap = false) (ttl : Span) :
    ∃ window, (select due (some ttl) now).uniqueTtl = some window ∧
      window.nanos = min ((due.nanos - now.nanos).toNat + ttl.nanos) maxSpanNanos := by
  have hmax := ttl.le_max
  unfold select
  split
  · rename_i hle
    rw [Instant.le_iff_nanos hd hn] at hle
    refine ⟨ttl, rfl, ?_⟩
    rw [show (due.nanos - now.nanos).toNat = 0 by omega, Nat.zero_add, Nat.min_eq_left hmax]
  · refine ⟨(waitUntil due now).add ttl, rfl, ?_⟩
    rw [Span.nanos_add, nanos_waitUntil hd hn]

/-- The distance to a time that is still to come is a span, so that no wait is taken for none. -/
theorem exists_wait {due now : Instant} (hd : due.isLeap = false) (hn : now.isLeap = false)
    (h : now < due) :
    ∃ wait, Span.ofOffset? (due.since now) = some wait ∧ waitUntil due now = wait ∧
      (wait.nanos : Int) = due.nanos - now.nanos := by
  have hlt := (Instant.lt_iff_nanos hn hd).mp h
  have hle := Instant.nanos_sub_le due now hd
  have hfit : (due.nanos - now.nanos).toNat ≤ maxSpanNanos := by omega
  have hwait : Span.ofOffset? (due.since now) = some ⟨(due.nanos - now.nanos).toNat, hfit⟩ := by
    rw [Instant.since_eq hd hn, Span.ofOffset?, dif_pos hfit, if_pos (by omega)]
  refine ⟨_, hwait, ?_, ?_⟩
  · rw [waitUntil, hwait, Option.getD_some]
  · show ((due.nanos - now.nanos).toNat : Int) = due.nanos - now.nanos
    omega

/-- A window does not shrink if the task is due later, if it is submitted earlier or if it asks for a
longer time to live. -/
theorem uniqueTtl_select_mono {due due' now now' : Instant} {ttl ttl' : Span}
    (hd : due.isLeap = false) (hd' : due'.isLeap = false) (hn : now.isLeap = false)
    (hn' : now'.isLeap = false) (hdue : due ≤ due') (hnow : now' ≤ now) (httl : ttl.nanos ≤ ttl'.nanos) :
    ∃ window window', (select due (some ttl) now).uniqueTtl = some window ∧
      (select due' (some ttl') now').uniqueTtl = some window' ∧ window.nanos ≤ window'.nanos := by
  obtain ⟨window, hwindow, hnanos⟩ := nanos_uniqueTtl_select hd hn ttl
  obtain ⟨window', hwindow', hnanos'⟩ := nanos_uniqueTtl_select hd' hn' ttl'
  rw [Instant.le_iff_nanos hd hd'] at hdue
  rw [Instant.le_iff_nanos hn' hn] at hnow
  refine ⟨window, window', hwindow, hwindow', ?_⟩
  have hsum : (due.nanos - now.nanos).toNat + ttl.nanos ≤ (due'.nanos - now'.nanos).toNat + ttl'.nanos := by
    omega
  rw [hnanos, hnanos']
  exact Nat.le_min.mpr ⟨Nat.le_trans (Nat.min_le_left _ _) hsum, Nat.min_le_right _ _⟩

/-- A window is no shorter than the time to live that it was chosen for. -/
theorem nanos_le_uniqueTtl_select {due now : Instant} {ttl? : Option Span} {window : Span}
    (h : (select due ttl? now).uniqueTtl = some window) :
    ∃ ttl, ttl? = some ttl ∧ ttl.nanos ≤ window.nanos := by
  cases ttl? with
  | none =>
    have hnone := uniqueTtl_select due none now
    rw [h] at hnone
    cases hnone
  | some ttl =>
    refine ⟨ttl, rfl, ?_⟩
    unfold select at h
    split at h
    · cases h
      exact Nat.le_refl _
    · cases h
      rw [Span.nanos_add]
      exact Nat.le_min.mpr ⟨Nat.le_add_left _ _, ttl.le_max⟩

end Route

/-- A window that stops at the longest span ends when the unbounded one does: if they differ, both end
where the clock has no reading. -/
theorem Tick.before_end_iff {start tick : Tick} {n : Nat} :
    (tick < start + min n maxSpanNanos ∨ lastTick < start + min n maxSpanNanos) ↔
      (tick < start + n ∨ lastTick < start + n) := by
  have hlast : lastTick < maxSpanNanos := by decide
  rcases Nat.le_total n maxSpanNanos with hle | hle
  · rw [Nat.min_eq_left hle]
  · rw [Nat.min_eq_right hle]
    have hmax : lastTick < start + maxSpanNanos := Nat.lt_of_lt_of_le hlast (Nat.le_add_left _ _)
    exact iff_of_true (Or.inr hmax) (Or.inr (Nat.lt_of_lt_of_le hmax (Nat.add_le_add_left hle _)))

/-- **The window of a deferred task is exact**, over the whole calendar.  A task that is due later than now
is scheduled for just that time, with a window of the wait and the time to live together, to the
nanosecond, or of the longest span if they are longer than that; the distance to its time is a span, so
the wait is never replaced by none.  A task that is due by now has its time to live as its window.  So a
window grows with the time the task is due and with the time to live, and shrinks as time goes on. -/
theorem deferred_window_is_exact :
    (∀ (due now : Instant) (ttl : Span), due.isLeap = false → now.isLeap = false →
      (now < due → ∃ wait window,
        Span.ofOffset? (due.since now) = some wait ∧ (wait.nanos : Int) = due.nanos - now.nanos ∧
          Route.select due (some ttl) now = .scheduleUnique due window ∧
          (window.nanos : Int) = min (due.nanos - now.nanos + ttl.nanos) maxSpanNanos) ∧
      (due ≤ now → Route.select due (some ttl) now = .enqueueUnique ttl)) ∧
    ∀ (due due' now now' : Instant) (ttl ttl' : Span), due.isLeap = false → due'.isLeap = false →
      now.isLeap = false → now'.isLeap = false → due ≤ due' → now' ≤ now → ttl.nanos ≤ ttl'.nanos →
      ∃ window window', (Route.select due (some ttl) now).uniqueTtl = some window ∧
        (Route.select due' (some ttl') now').uniqueTtl = some window' ∧ window.nanos ≤ window'.nanos := by
  refine ⟨fun due now ttl hd hn => ⟨fun hlater => ?_, fun hle => ?_⟩, ?_⟩
  · obtain ⟨wait, hwait, huntil, hexact⟩ := Route.exists_wait hd hn hlater
    refine ⟨wait, wait.add ttl, hwait, hexact, ?_, ?_⟩
    · rw [Route.select, if_neg fun hle => Instant.not_le.mpr hlater hle, huntil]
    · rw [Span.nanos_add, ← hexact]
      omega
  · rw [Route.select, if_pos hle]
  · intro due due' now now' ttl ttl' hd hd' hn hn' hdue hnow httl
    exact Route.uniqueTtl_select_mono hd hd' hn hn' hdue hnow httl

/-- From the first instant of the calendar to the last one with the longest time to live, a wait of two
nanoseconds across the end of a second, and the same task when it is due. -/
theorem deferred_window_is_exact_of_extremes :
    let first : Instant := ⟨firstSecond, 0, by decide, by decide, by decide, by decide⟩
    let before : Instant := ⟨-1, 999999999, by decide, by decide, by decide, by decide⟩
    let after : Instant := ⟨0, 1, by decide, by decide, by decide, by decide⟩
    Route.select Instant.last (some Span.max) first = .scheduleUnique Instant.last Span.max ∧
      Route.select after (some (.ofNanos 5)) before = .scheduleUnique after (.ofNanos 7) ∧
      Route.select after (some (.ofNanos 5)) after = .enqueueUnique (.ofNanos 5) := by
  intro first before after
  obtain ⟨-, longest, -, -, hlongest, hmax⟩ :=
    (deferred_window_is_exact.1 Instant.last first Span.max rfl rfl).1 (by decide)
  obtain ⟨-, window, -, -, hwindow, hnanos⟩ :=
    (deferred_window_is_exact.1 after before (.ofNanos 5) rfl rfl).1 (by decide)
  have hlongest_eq : longest = Span.max := Span.ext (Int.ofNat_inj.mp (hmax.trans (by decide)))
  have hwindow_eq : window = .ofNanos 7 := Span.ext (Int.ofNat_inj.mp (hnanos.trans (by decide)))
  refine ⟨?_, ?_, (deferred_window_is_exact.1 after after (.ofNanos 5) rfl rfl).2 (by decide)⟩
  · rw [hlongest, hlongest_eq]
  · rw [hwindow, hwindow_eq]

end TaskQueue
