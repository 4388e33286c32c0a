import TaskQueue.Text.Decimal
import TaskQueue.Time.Calendar
import TaskQueue.Time.Instant

/-!
# RFC 3339 times

Printing writes `2023-11-14T22:13:20.5+00:00` in UTC: the fraction has no, three, six or nine digits,
the fewest that are exact; a year outside 0000 to 9999 has a sign; a leap second is second 60.
Reading takes a date, `T`, `t` or a space, a time with an optional fraction of any length (cut to
nanoseconds) and an offset: `Z`, `z`, or a sign, two digits, a colon and two digits.  Second 60 is a leap
second in any minute.
-/

set_option autoImplicit false

namespace TaskQueue.Rfc3339

open Text

/-- The digits of a year: four of them without a sign where that is enough. -/
def printYear (year : Int) : List Char :=
  if 0 ≤ year ∧ year ≤ 9999 then Decimal.padded 4 year.toNat
  else (if year < 0 then '-' else '+') :: Decimal.padded 4 year.natAbs

/-- The fraction of a second with its point, in the fewest of no, three, six or nine digits. -/
def printFraction (nano : Nat) : List Char :=
  if nano = 0 then []
  else if nano % 1000000 = 0 then '.' :: Decimal.padded 3 (nano / 1000000)
  else if nano % 1000 = 0 then '.' :: Decimal.padded 6 (nano / 1000)
  else '.' :: Decimal.padded 9 nano

/-- Two digits. -/
def two (n : Nat) : List Char := Decimal.padded 2 n

/-- An instant as text, in UTC. -/
def print (t : Instant) : List Char :=
  let date := Date.ofDays (t.second / 86400)
  let ofDay := t.secondOfDay.toNat
  let leap := if t.isLeap then 1 else 0
  printYear date.year ++ '-' :: two date.month ++ '-' :: two date.day ++ 'T' :: two (ofDay / 3600) ++
    ':' :: two (ofDay / 60 % 60) ++ ':' :: two (ofDay % 60 + leap) ++
    printFraction (t.nano - leap * nanosPerSecond) ++ "+00:00".toList

/-- Exactly `n` digits in front, and the rest. -/
def readDigits? (n : Nat) (cs : List Char) : Option (Nat × List Char) :=
  let (front, rest) := cs.splitAt n
  if front.length = n then (Decimal.digits? front).map (·, rest) else none

/-- The rest after one character that satisfies `p`. -/
def readOne? (p : Char → Bool) : List Char → Option (List Char)
  | c :: rest => if p c then some rest else none
  | [] => none

/-- The nanoseconds of an optional fraction, and the rest. -/
def readFraction? : List Char → Option (Nat × List Char)
  | '.' :: cs =>
    let digits := cs.takeWhile Decimal.isDigit
    let kept := digits.take 9
    if digits.isEmpty then none
    else some (Decimal.value kept * 10 ^ (9 - kept.length), cs.dropWhile Decimal.isDigit)
  | cs => some (0, cs)

/-- The seconds by which local time is ahead of UTC.  Nothing may follow. -/
def readOffset? : List Char → Option Int
  | [c] => if c = 'Z' ∨ c = 'z' then some 0 else none
  | sign :: cs => do
    let ahead ← if sign = '+' then some 1 else if sign = '-' ∨ sign = '\u2212' then some (-1) else none
    let (hours, cs) ← readDigits? 2 cs
    let cs ← readOne? (· = ':') cs
    let (minutes, cs) ← readDigits? 2 cs
    if hours ≤ 23 ∧ minutes ≤ 59 ∧ cs = [] then some (ahead * (hours * 3600 + minutes * 60)) else none
  | [] => none

/-- The instant that a text denotes. -/
def read? (cs : List Char) : Option Instant := do
  let (year, cs) ← readDigits? 4 cs
  let cs ← readOne? (· = '-') cs
  let (month, cs) ← readDigits? 2 cs
  let cs ← readOne? (· = '-') cs
  let (day, cs) ← readDigits? 2 cs
  let cs ← readOne? (fun c => c = 'T' || c = 't' || c = ' ') cs
  let (hour, cs) ← readDigits? 2 cs
  let cs ← readOne? (· = ':') cs
  let (minute, cs) ← readDigits? 2 cs
  let cs ← readOne? (· = ':') cs
  let (second, cs) ← readDigits? 2 cs
  let (nano, cs) ← readFraction? cs
  let ahead ← readOffset? cs
  let date : Date := ⟨year, month, day⟩
  if date.isValid ∧ hour ≤ 23 ∧ minute ≤ 59 ∧ second ≤ 60 then
    let leap := if second = 60 then 1 else 0
    Instant.ofParts?
      (date.toDays * 86400 + hour * 3600 + minute * 60 + (second - leap : Nat) - ahead)
      (nano + leap * nanosPerSecond)
  else none

end TaskQueue.Rfc3339
