import TaskQueue.Time.Span

/-!
# Points of civil time

An instant is a second counted from 1970-01-01T00:00:00Z and a position inside it.  The position
goes past one second only in a leap second, which shares its count with the last second of its
minute; the count covers the years -262143 to 262142.

Left out are positions past one second in a second that is not the last of its minute.  `DateTime` has room for
them (`with_nanosecond`), but no clock shows one and no text is read as one, so only a caller who builds it by
hand could have it.

Principal definitions: the order on instants, `Instant.since` (signed nanoseconds from one instant
to another) and `Instant.add?` (an instant some span later, if the calendar holds it).
-/

set_option autoImplicit false

namespace TaskQueue

/-- The first second of the calendar. -/
def firstSecond : Int := -8334601228800

/-- The last second of the calendar. -/
def lastSecond : Int := 8210266876799

/-- The longest signed distance in nanoseconds: as many milliseconds as a signed word holds. -/
def maxOffset : Nat := (2 ^ 63 - 1) * 1000000

/-- A point of civil time. -/
structure Instant where
  second : Int
  nano : Nat
  first_le : firstSecond ≤ second
  le_last : second ≤ lastSecond
  nano_lt : nano < 2 * nanosPerSecond
  leap : nanosPerSecond ≤ nano → second % 60 = 59
  deriving DecidableEq, Repr

/-- A span as a signed distance, if it is not too long for one. -/
def Span.toOffset? (d : Span) : Option Nat := if d.nanos ≤ maxOffset then some d.nanos else none

namespace Instant

@[ext] theorem ext {a b : Instant} (hs : a.second = b.second) (hn : a.nano = b.nano) : a = b := by
  cases a; cases b; simp_all

/-- The instant at a second and a position inside it, if there is one. -/
def ofParts? (second : Int) (nano : Nat) : Option Instant :=
  if h : firstSecond ≤ second ∧ second ≤ lastSecond ∧ nano < 2 * nanosPerSecond ∧
      (nanosPerSecond ≤ nano → second % 60 = 59) then
    some ⟨second, nano, h.1, h.2.1, h.2.2.1, h.2.2.2⟩
  else none

/-- The instant at which a second begins. -/
def ofSecond? (second : Int) : Option Instant := ofParts? second 0

/-- 1970-01-01T00:00:00Z. -/
def epoch : Instant := ⟨0, 0, by decide, by decide, by decide, by decide⟩

instance : Inhabited Instant := ⟨epoch⟩

/-- Whether an instant lies in a leap second. -/
def isLeap (t : Instant) : Bool := nanosPerSecond ≤ t.nano

instance : LE Instant where
  le a b := a.second < b.second ∨ (a.second = b.second ∧ a.nano ≤ b.nano)

instance : LT Instant where
  lt a b := a.second < b.second ∨ (a.second = b.second ∧ a.nano < b.nano)

instance (a b : Instant) : Decidable (a ≤ b) :=
  inferInstanceAs (Decidable (a.second < b.second ∨ (a.second = b.second ∧ a.nano ≤ b.nano)))

instance (a b : Instant) : Decidable (a < b) :=
  inferInstanceAs (Decidable (a.second < b.second ∨ (a.second = b.second ∧ a.nano < b.nano)))

theorem not_le {a b : Instant} : ¬ a ≤ b ↔ b < a := by
  show ¬ (a.second < b.second ∨ (a.second = b.second ∧ a.nano ≤ b.nano)) ↔
    (b.second < a.second ∨ (b.second = a.second ∧ b.nano < a.nano))
  omega

/-- The instant cut to the beginning of its second. -/
def truncate (t : Instant) : Instant :=
  ⟨t.second, 0, t.first_le, t.le_last, by decide, fun h => absurd h (by decide)⟩

/-- The second of the day. -/
def secondOfDay (t : Instant) : Int := t.second % 86400

/-- The leap second between the two times of day that the count of seconds leaves out: one more if
`b` is in a leap second and earlier in the day than `a`, one less the other way round. -/
def leapBetween (a b : Instant) : Int :=
  if b.secondOfDay < a.secondOfDay ∧ b.isLeap then 1
  else if a.secondOfDay < b.secondOfDay ∧ a.isLeap then -1
  else 0

/-- The signed number of nanoseconds from `b` to `a`. -/
def since (a b : Instant) : Int :=
  (a.second - b.second + leapBetween a b) * nanosPerSecond + ((a.nano : Int) - b.nano)

/-- The instant `secs` seconds and `nanos` nanoseconds after a second and a position inside it, both
positions below one second. -/
def carry? (second : Int) (nano secs nanos : Nat) : Option Instant :=
  ofParts? (second + secs + ((nano + nanos) / nanosPerSecond : Nat)) ((nano + nanos) % nanosPerSecond)

/-- The instant a number of nanoseconds later, if the calendar holds it.  A sum that stays inside a
leap second is in that leap second; one that leaves it counts from the second that the leap second
shares its count with. -/
def after? (t : Instant) (n : Nat) : Option Instant :=
  let secs := n / nanosPerSecond
  let nanos := n % nanosPerSecond
  if t.isLeap then
    if 0 < secs ∨ 2 * nanosPerSecond ≤ t.nano + nanos then
      carry? t.second (t.nano - nanosPerSecond) secs nanos
    else ofParts? t.second (t.nano + nanos)
  else carry? t.second t.nano secs nanos

/-- The instant a span later, if the span is a signed distance and the calendar holds the sum. -/
def add? (t : Instant) (d : Span) : Option Instant := d.toOffset?.bind t.after?

/-- The nanoseconds from 1970-01-01T00:00:00Z as a signed word, if they fit one. -/
def unixNanos? (t : Instant) : Option Int64 :=
  let n := t.second * nanosPerSecond + t.nano
  if Int64.minValue.toInt ≤ n ∧ n ≤ Int64.maxValue.toInt then some (Int64.ofInt n) else none

theorem ofParts?_parts (t : Instant) : ofParts? t.second t.nano = some t := by
  simp only [ofParts?]
  rw [dif_pos ⟨t.first_le, t.le_last, t.nano_lt, t.leap⟩]

theorem ofSecond?_second (t : Instant) : ofSecond? t.second = some t.truncate :=
  ofParts?_parts t.truncate

/-- The seconds of the calendar are signed words. -/
theorem toInt_ofInt_second (t : Instant) : (Int64.ofInt t.second).toInt = t.second := by
  have hfirst := t.first_le
  have hlast := t.le_last
  simp only [firstSecond, lastSecond] at hfirst hlast
  exact Int64.toInt_ofInt_of_le (by omega) (by omega)

end Instant

end TaskQueue
