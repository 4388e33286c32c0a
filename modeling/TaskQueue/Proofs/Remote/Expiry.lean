import TaskQueue.Proofs.Remote.Lock

/-!
# When a lock ends

The remote store keeps the end of a lock as a time in milliseconds.  It computes it in signed words: a thousand
times the seconds of the lock, and the time at which the lock is set.  A window may be so long that the end is no
word, so the seconds that are asked for stop at a longest lock.

Principal results: `endsExactly_iff` — the longest lock is the longest whose end is a word at every time in the
first half of the words; `lock_stays_in_range` — the seconds of a lock, and that its end is exact;
`Session.lock_ends_exactly` — so is the end of every lock that a session asks for.
-/

set_option autoImplicit false

namespace TaskQueue

/-! ## The end of a lock in words -/

/-- The time at which a lock ends that is set at `now`, in milliseconds. -/
def lockEnd (seconds now : Int64) : Int64 := seconds * 1000 + now

/-- No step on the way to the end of a lock leaves the words. -/
structure EndsExactly (seconds now : Int64) : Prop where
  product : (seconds * 1000).toInt = seconds.toInt * 1000
  sum : (lockEnd seconds now).toInt = seconds.toInt * 1000 + now.toInt

theorem maxLockSeconds_eq : maxLockSeconds = Int64.maxValue / 2000 := rfl

theorem endsExactly_of_le {seconds now : Int64} (hpos : 0 ≤ seconds) (hmax : seconds ≤ maxLockSeconds)
    (hnow : 0 ≤ now) (hlast : now ≤ Int64.maxValue / 2) : EndsExactly seconds now := by
  have hthousand : (1000 : Int64).toInt = 1000 := rfl
  have hlow : 0 ≤ seconds.toInt := Int64.le_iff_toInt_le.mp hpos
  have hhigh : seconds.toInt ≤ 4611686018427387 := Int64.le_iff_toInt_le.mp hmax
  have hfirst : 0 ≤ now.toInt := Int64.le_iff_toInt_le.mp hnow
  have hhalf : now.toInt ≤ 4611686018427387903 := Int64.le_iff_toInt_le.mp hlast
  have hproduct : (seconds * 1000).toInt = seconds.toInt * 1000 := by
    rw [Int64.toInt_mul, hthousand]
    exact Int.bmod_eq_of_le (by omega) (by omega)
  refine ⟨hproduct, ?_⟩
  rw [lockEnd, Int64.toInt_add, hproduct]
  exact Int.bmod_eq_of_le (by omega) (by omega)

/-- **The longest lock** is the longest that can be set at every time in the first half of the words. -/
theorem endsExactly_iff {seconds : Int64} (hpos : 0 ≤ seconds) :
    (∀ now : Int64, 0 ≤ now → now ≤ Int64.maxValue / 2 → EndsExactly seconds now) ↔
      seconds ≤ maxLockSeconds := by
  constructor
  · intro h
    -- At the last of these times there is room for less than another second.
    have hsum := (h (Int64.maxValue / 2) (by decide) (Int64.le_refl _)).sum
    have hlast : (Int64.maxValue / 2).toInt = 4611686018427387903 := rfl
    have hword := (lockEnd seconds (Int64.maxValue / 2)).toInt_lt
    have hmax : maxLockSeconds.toInt = 4611686018427387 := rfl
    rw [Int64.le_iff_toInt_le, hmax]
    omega
  · intro hmax now hnow hlast
    exact endsExactly_of_le hpos hmax hnow hlast

/-- A lock that ends exactly ends after it is set. -/
theorem EndsExactly.lt_lockEnd {seconds now : Int64} (h : EndsExactly seconds now) (hone : 1 ≤ seconds) :
    now < lockEnd seconds now := by
  have hlow : 1 ≤ seconds.toInt := Int64.le_iff_toInt_le.mp hone
  rw [Int64.lt_iff_toInt_lt, h.sum]
  omega

/-! ## The lock of a window -/

theorem lockSeconds_mono {d e : Span} (h : d.nanos ≤ e.nanos) : lockSeconds d ≤ lockSeconds e := by
  have hsec := Span.seconds_mono h
  rw [Int64.le_iff_toInt_le, toInt_lockSeconds, toInt_lockSeconds]
  omega

/-- A window that is neither too short nor too long is locked for its whole seconds. -/
theorem toInt_lockSeconds_of_in_range {d : Span} (hone : 1 ≤ d.seconds)
    (hmax : (d.seconds : Int) ≤ maxLockSeconds.toInt) : (lockSeconds d).toInt = d.seconds := by
  rw [toInt_lockSeconds]
  omega

/-- **The lock of a window stays in range**: it is one second at least and at most as many as take half of the
words in milliseconds, a longer window has no shorter lock, and whole seconds between these bounds are kept.  The
end of the lock is exact at every time in the first half of the words. -/
theorem lock_stays_in_range (d : Span) :
    (1 ≤ lockSeconds d ∧ lockSeconds d ≤ Int64.maxValue / 2000) ∧
    (∀ e : Span, d.nanos ≤ e.nanos → lockSeconds d ≤ lockSeconds e) ∧
    (1 ≤ d.seconds → (d.seconds : Int) ≤ (Int64.maxValue / 2000).toInt →
      (lockSeconds d).toInt = d.seconds) ∧
    ∀ now : Int64, 0 ≤ now → now ≤ Int64.maxValue / 2 → EndsExactly (lockSeconds d) now := by
  have hone := lockSeconds_pos d
  have hpos : 0 ≤ lockSeconds d := Int64.le_trans (by decide) hone
  rw [← maxLockSeconds_eq]
  refine ⟨⟨hone, lockSeconds_le d⟩, fun e h => lockSeconds_mono h, ?_, ?_⟩
  · intro hsec hmax
    exact toInt_lockSeconds_of_in_range hsec hmax
  · exact (endsExactly_iff hpos).mpr (lockSeconds_le d)

/-- The longest window whose seconds are all kept, and the longest window there is.  Set at the last time of the
first half, the lock of the latter ends 904 milliseconds before the last word. -/
theorem lock_stays_in_range_of_longest :
    let kept : Span := .ofNanos 4611686018427387999999999
    (lockSeconds kept).toInt = 4611686018427387 ∧ lockSeconds kept ≤ lockSeconds .max ∧
      lockSeconds .max ≤ Int64.maxValue / 2000 ∧
      (lockEnd (lockSeconds .max) (Int64.maxValue / 2)).toInt = Int64.maxValue.toInt - 904 := by
  intro kept
  obtain ⟨-, hmono, hwhole, -⟩ := lock_stays_in_range kept
  obtain ⟨⟨-, hmax⟩, -, -, hend⟩ := lock_stays_in_range .max
  have hsec : (kept.seconds : Int) = 4611686018427387 := by decide
  refine ⟨(hwhole (by decide) (by decide)).trans hsec, hmono .max (by decide), hmax, ?_⟩
  rw [(hend _ (by decide) (Int64.le_refl _)).sum]
  decide

/-! ## The locks that are asked for -/

/-- The lock that a call with a guard asks for. -/
theorem Call.lock?_invocation {call : Call} {window : Span} (h : call.route.uniqueTtl = some window)
    (encoded : Bytes) (now : Instant) :
    (call.invocation encoded now).lock? = some (.int (lockSeconds window)) := by
  unfold invocation argumentsFor
  cases hroute : call.route with
  | enqueue | schedule =>
    rw [hroute] at h
    cases h
  | enqueueUnique | scheduleUnique =>
    rw [hroute] at h
    cases h
    rfl

/-- **Every lock that a session asks for** ends exactly, and after it is set, wherever the store's time is in the
first half of the words: whatever window the call has, whenever it is made and whatever the replies are. -/
theorem Session.lock_ends_exactly {s : Session} {loads : List Exchange} (hs : s.Opened loads) {now : Instant}
    {call : Call} {window : Span} (hwindow : call.route.uniqueTtl = some window) {log : List Exchange}
    {answer : Answer BrokerError Unit} (h : (s.submit now call).Trace log answer) {e : Exchange}
    (he : e ∈ log) {i : Invocation} (hi : e.command.invocation? = some i) :
    ∃ seconds, i.lock? = some (.int seconds) ∧
      ∀ time : Int64, 0 ≤ time → time ≤ Int64.maxValue / 2 →
        EndsExactly seconds time ∧ time < lockEnd seconds time := by
  obtain rfl := Session.invocation_eq_of_trace hs h he hi
  refine ⟨_, Call.lock?_invocation hwindow _ now, fun time hfirst hlast => ?_⟩
  have hone := lockSeconds_pos window
  have hexact := endsExactly_of_le (Int64.le_trans (by decide) hone) (lockSeconds_le window) hfirst hlast
  exact ⟨hexact, hexact.lt_lockEnd hone⟩

end TaskQueue
