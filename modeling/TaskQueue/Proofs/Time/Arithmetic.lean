import TaskQueue.Time.Clock

/-!
# Civil time as a line

Outside leap seconds an instant is a number of nanoseconds: the order of instants is the order of
these numbers, the distance of two instants is their difference, and an instant some span later has
the sum.  As the two readings of a clock move together, the distance between the civil times of two
readings is the distance between their ticks.

Principal results: `Instant.le_iff_nanos`, `Instant.since_eq`, `Instant.nanos_add?` — order, distance
and sum; `Instant.add?_isSome_iff` — there is a sum unless the calendar ends before it;
`Clock.InStep.advance` — the civil time and the tick of a clock that moves stay in step.
-/

set_option autoImplicit false

namespace TaskQueue

namespace Instant

/-- The nanoseconds from 1970-01-01T00:00:00Z, where a leap second counts with the second after it. -/
def nanos (t : Instant) : Int := t.second * nanosPerSecond + t.nano

theorem nano_lt_of_not_isLeap {t : Instant} (h : t.isLeap = false) : t.nano < nanosPerSecond := by
  rw [isLeap, decide_eq_false_iff_not] at h
  exact Nat.not_le.mp h

theorem le_iff_nanos {a b : Instant} (ha : a.isLeap = false) (hb : b.isLeap = false) :
    a ≤ b ↔ a.nanos ≤ b.nanos := by
  have hna := nano_lt_of_not_isLeap ha
  have hnb := nano_lt_of_not_isLeap hb
  show a.second < b.second ∨ (a.second = b.second ∧ a.nano ≤ b.nano) ↔ a.nanos ≤ b.nanos
  simp only [nanos, nanosPerSecond] at *
  omega

theorem lt_iff_nanos {a b : Instant} (ha : a.isLeap = false) (hb : b.isLeap = false) :
    a < b ↔ a.nanos < b.nanos := by
  rw [← not_le, le_iff_nanos hb ha, Int.not_le]

theorem since_eq {a b : Instant} (ha : a.isLeap = false) (hb : b.isLeap = false) :
    a.since b = a.nanos - b.nanos := by
  have hleap : leapBetween a b = 0 := by simp [leapBetween, ha, hb]
  simp only [since, hleap, nanos, nanosPerSecond]
  omega

/-- Two instants are no further apart than the ends of the calendar. -/
theorem nanos_sub_lt (a b : Instant) (ha : a.isLeap = false) :
    a.nanos - b.nanos < (lastSecond - firstSecond + 1) * nanosPerSecond := by
  have hn := nano_lt_of_not_isLeap ha
  have hlast := a.le_last
  have hfirst := b.first_le
  simp only [nanos, nanosPerSecond, firstSecond, lastSecond] at *
  omega

/-- The calendar is shorter than the longest span. -/
theorem nanos_sub_le (a b : Instant) (ha : a.isLeap = false) : a.nanos - b.nanos ≤ maxSpanNanos :=
  Int.le_trans (Int.le_of_lt (nanos_sub_lt a b ha)) (by decide)

theorem ofParts?_eq_some {second : Int} {nano : Nat} {t : Instant}
    (h : ofParts? second nano = some t) : t.second = second ∧ t.nano = nano := by
  unfold ofParts? at h
  split at h
  · cases h
    exact ⟨rfl, rfl⟩
  · cases h

/-- A later instant is later by just as many nanoseconds. -/
theorem nanos_after? {t u : Instant} {n : Nat} (ht : t.isLeap = false) (h : t.after? n = some u) :
    u.nanos = t.nanos + n ∧ u.isLeap = false := by
  rw [after?, if_neg (by simp [ht]), carry?] at h
  obtain ⟨hs, hn⟩ := ofParts?_eq_some h
  constructor
  · simp only [nanos, hs, hn, nanosPerSecond]
    omega
  · rw [isLeap, hn, decide_eq_false_iff_not, Nat.not_le]
    exact Nat.mod_lt _ (by decide)

theorem nanos_add? {t u : Instant} {d : Span} (ht : t.isLeap = false) (h : t.add? d = some u) :
    u.nanos = t.nanos + d.nanos ∧ u.isLeap = false := by
  unfold add? Span.toOffset? at h
  split at h
  · exact nanos_after? ht h
  · cases h

/-- The last instant that is not in a leap second. -/
def last : Instant := ⟨lastSecond, 999999999, by decide, by decide, by decide, by decide⟩

theorem nanos_le_last {t : Instant} (ht : t.isLeap = false) : t.nanos ≤ last.nanos := by
  have hn := nano_lt_of_not_isLeap ht
  have hlast := t.le_last
  simp only [nanos, last, nanosPerSecond] at *
  omega

/-- There is an instant for every number of nanoseconds up to the last one, from any other instant on. -/
theorem exists_nanos_eq {t : Instant} {n : Int} (ht : t.nanos ≤ n) (hn : n ≤ last.nanos) :
    ∃ u : Instant, u.isLeap = false ∧ u.nanos = n := by
  have hfirst := t.first_le
  simp only [nanos, last, nanosPerSecond] at ht hn ⊢
  have hnano : (n % 1000000000).toNat < nanosPerSecond := by
    rw [nanosPerSecond]
    omega
  refine ⟨⟨n / 1000000000, (n % 1000000000).toNat, by omega, by omega, by omega, ?_⟩, ?_, ?_⟩
  · exact fun hleap => absurd hnano (Nat.not_lt.mpr hleap)
  · exact decide_eq_false (Nat.not_le.mpr hnano)
  · show n / 1000000000 * ((1000000000 : Nat) : Int) + ((n % 1000000000).toNat : Int) = n
    omega

/-- An instant that is later by a number of nanoseconds is found by counting them. -/
theorem after?_eq_some {t u : Instant} {n : Nat} (ht : t.isLeap = false) (hu : u.isLeap = false)
    (h : u.nanos = t.nanos + n) : t.after? n = some u := by
  have hnt := nano_lt_of_not_isLeap ht
  have hnu := nano_lt_of_not_isLeap hu
  simp only [nanos, nanosPerSecond] at h hnt hnu
  have hsecond : t.second + (n / nanosPerSecond : Nat) +
      ((t.nano + n % nanosPerSecond) / nanosPerSecond : Nat) = u.second := by
    rw [nanosPerSecond]
    omega
  have hnano : (t.nano + n % nanosPerSecond) % nanosPerSecond = u.nano := by
    rw [nanosPerSecond]
    omega
  rw [after?, if_neg (by simp [ht]), carry?, hsecond, hnano, ofParts?_parts]

/-- A span between two instants is a signed distance. -/
theorem toOffset?_of_nanos {t u : Instant} {d : Span} (hu : u.isLeap = false)
    (h : u.nanos = t.nanos + d.nanos) : d.toOffset? = some d.nanos := by
  have hlt := nanos_sub_lt u t hu
  refine if_pos ?_
  simp only [maxOffset, nanosPerSecond, firstSecond, lastSecond] at *
  omega

/-- **There is a sum unless the calendar ends before it**, whatever the span and wherever it begins. -/
theorem add?_isSome_iff {t : Instant} {d : Span} (ht : t.isLeap = false) :
    (t.add? d).isSome ↔ t.nanos + d.nanos ≤ last.nanos := by
  constructor
  · intro h
    obtain ⟨u, hu⟩ := Option.isSome_iff_exists.mp h
    obtain ⟨hsum, hleap⟩ := nanos_add? ht hu
    exact hsum ▸ nanos_le_last hleap
  · intro h
    obtain ⟨u, hleap, hsum⟩ := exists_nanos_eq (t := t) (by omega) h
    rw [add?, toOffset?_of_nanos hleap hsum, Option.bind_some, after?_eq_some ht hleap hsum]
    rfl

end Instant

namespace Clock

/-- As long as the clock shows a civil time, it is as far from `s` as the tick is from `tick`. -/
def InStep (c : Clock) (s : Instant) (tick : Tick) : Prop :=
  ∀ t, c.wall = some t → t.isLeap = false ∧ t.nanos - s.nanos = (c.steady : Int) - tick

theorem inStep_self {c : Clock} {s : Instant} (hs : c.wall = some s) (hl : s.isLeap = false) :
    c.InStep s c.steady := by
  intro t ht
  rw [hs, Option.some.injEq] at ht
  subst ht
  exact ⟨hl, by omega⟩

theorem InStep.advance {c : Clock} {s : Instant} {tick : Tick} (h : c.InStep s tick) (d : Span) :
    (c.advance d).InStep s tick := by
  intro t ht
  obtain ⟨u, hu, hadd⟩ := Option.bind_eq_some_iff.mp ht
  obtain ⟨hleap, hdist⟩ := h u hu
  obtain ⟨hsum, hleap'⟩ := Instant.nanos_add? hleap hadd
  refine ⟨hleap', ?_⟩
  simp only [Clock.advance, hsum]
  omega

end Clock

end TaskQueue
