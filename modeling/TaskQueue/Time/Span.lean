import TaskQueue.Numbers

/-!
# Lengths of time

A span is an unsigned length of time, counted in nanoseconds and shorter than `2 ^ 64` seconds.

Principal facts: `nanos_add` — addition is exact up to the longest span and stops there;
`toInt_wholeSeconds` — the whole seconds are exact up to the largest word and stop there;
`ofParts?_parts` — a span is the whole seconds and the remaining nanoseconds it is made of.
-/

set_option autoImplicit false

namespace TaskQueue

/-- The number of nanoseconds in a second. -/
def nanosPerSecond : Nat := 1000000000

/-- The length of the longest span in nanoseconds. -/
def maxSpanNanos : Nat := 2 ^ 64 * nanosPerSecond - 1

/-- An unsigned length of time. -/
structure Span where
  nanos : Nat
  le_max : nanos ≤ maxSpanNanos
  deriving DecidableEq, Repr

namespace Span

@[ext] theorem ext {a b : Span} (h : a.nanos = b.nanos) : a = b := by
  cases a; cases b; simp_all

/-- The span of no length. -/
def zero : Span := ⟨0, Nat.zero_le _⟩

/-- The longest span. -/
def max : Span := ⟨maxSpanNanos, Nat.le_refl _⟩

instance : Inhabited Span := ⟨zero⟩

/-- The span of that many nanoseconds, the longest one if there are more. -/
def ofNanos (n : Nat) : Span := ⟨min n maxSpanNanos, Nat.min_le_right _ _⟩

/-- The span of a signed number of nanoseconds, if it is not negative and not too long. -/
def ofOffset? (z : Int) : Option Span :=
  if h : z.toNat ≤ maxSpanNanos then
    if 0 ≤ z then some ⟨z.toNat, h⟩ else none
  else none

/-- The span of that many whole seconds. -/
def ofSeconds? (secs : Nat) : Option Span :=
  if h : secs * nanosPerSecond ≤ maxSpanNanos then some ⟨secs * nanosPerSecond, h⟩ else none

/-- The span of whole seconds and nanoseconds, the latter below one second. -/
def ofParts? (secs nanos : Nat) : Option Span :=
  if h : secs * nanosPerSecond + nanos ≤ maxSpanNanos then
    if nanos < nanosPerSecond then some ⟨secs * nanosPerSecond + nanos, h⟩ else none
  else none

/-- The whole seconds of a span. -/
def seconds (d : Span) : Nat := d.nanos / nanosPerSecond

/-- The nanoseconds of a span beyond its whole seconds. -/
def subsecond (d : Span) : Nat := d.nanos % nanosPerSecond

/-- Whether a span has no length. -/
def isZero (d : Span) : Bool := d.nanos == 0

/-- The sum of two spans, the longest one if it is longer. -/
def add (a b : Span) : Span := ofNanos (a.nanos + b.nanos)

/-- The whole seconds of a span as a signed word (`whole_seconds`), the largest one if there are more. -/
def wholeSeconds (d : Span) : Int64 := Int64.ofInt (min d.seconds Int64.maxValue.toInt.toNat)

/-- A span cut to whole seconds. -/
def truncate (d : Span) : Span :=
  ⟨d.seconds * nanosPerSecond, Nat.le_trans (Nat.div_mul_le_self _ _) d.le_max⟩

theorem nanos_add (a b : Span) : (a.add b).nanos = min (a.nanos + b.nanos) maxSpanNanos := rfl

theorem isZero_eq_false_iff {d : Span} : d.isZero = false ↔ 0 < d.nanos := by
  rw [isZero, beq_eq_false_iff_ne, Nat.pos_iff_ne_zero]

theorem seconds_lt (d : Span) : d.seconds < 2 ^ 64 := by
  have h := d.le_max
  simp only [seconds, maxSpanNanos, nanosPerSecond] at *
  omega

theorem seconds_mono {a b : Span} (h : a.nanos ≤ b.nanos) : a.seconds ≤ b.seconds :=
  Nat.div_le_div_right h

theorem toInt_wholeSeconds (d : Span) : d.wholeSeconds.toInt = min (d.seconds : Int) (2 ^ 63 - 1) := by
  have hlt := d.seconds_lt
  rw [wholeSeconds, show Int64.maxValue.toInt.toNat = 2 ^ 63 - 1 from rfl,
    Int64.toInt_ofInt_of_le (by omega) (by omega)]
  omega

theorem ofSeconds?_eq_some_iff {n : Nat} {d : Span} :
    ofSeconds? n = some d ↔ n < 2 ^ 64 ∧ d.nanos = n * nanosPerSecond := by
  have hbound : n * nanosPerSecond ≤ maxSpanNanos ↔ n < 2 ^ 64 := by
    rw [maxSpanNanos, nanosPerSecond]
    omega
  rw [ofSeconds?]
  constructor
  · intro h
    split at h
    · rename_i hle
      cases h
      exact ⟨hbound.mp hle, rfl⟩
    · cases h
  · rintro ⟨hn, hd⟩
    rw [dif_pos (hbound.mpr hn)]
    exact congrArg some (ext hd.symm)

theorem ofParts?_parts (d : Span) : ofParts? d.seconds d.subsecond = some d := by
  have h := d.le_max
  have hs : d.seconds * nanosPerSecond + d.subsecond = d.nanos := by
    simp only [seconds, subsecond, nanosPerSecond]
    omega
  have hn : d.subsecond < nanosPerSecond := Nat.mod_lt _ (by decide)
  simp [ofParts?, hs, hn, h]

end Span

end TaskQueue
