import TaskQueue.Numbers

/-!
# Shortest decimals

The decimal with the fewest digits among those that round to a given binary number.  The number is
`m * 2 ^ q` with `m` of at most 53 bits; a decimal rounds to it if it lies no further away than half the
gap to the next number on its side, and at exactly that distance only if `m` is even.
-/

set_option autoImplicit false

namespace TaskQueue.Text.Shortest

/-- A quotient of natural numbers. -/
structure Ratio where
  num : Nat
  den : Nat

/-- `n * base ^ e`. -/
def Ratio.scaled (n base : Nat) (e : Int) : Ratio :=
  if 0 ≤ e then ⟨n * base ^ e.toNat, 1⟩ else ⟨n, base ^ (-e).toNat⟩

/-- Whether one quotient is smaller than another. -/
def Ratio.lt (a b : Ratio) : Bool := a.num * b.den < b.num * a.den

/-- Whether one quotient is at most another. -/
def Ratio.le (a b : Ratio) : Bool := a.num * b.den ≤ b.num * a.den

/-- A binary number and the quarter units around it in which it is the nearest one. -/
structure Binary where
  /-- The significand. -/
  m : Nat
  /-- The exponent of two. -/
  q : Int
  /-- Whether the gap below the number is half the gap above it. -/
  narrowBelow : Bool

/-- The number itself. -/
def Binary.value (b : Binary) : Ratio := .scaled (4 * b.m) 2 (b.q - 2)

/-- Whether a decimal `n * 10 ^ k` rounds to the number. -/
def Binary.accepts (b : Binary) (n : Nat) (k : Int) : Bool :=
  let low := Ratio.scaled (4 * b.m - if b.narrowBelow then 1 else 2) 2 (b.q - 2)
  let high := Ratio.scaled (4 * b.m + 2) 2 (b.q - 2)
  let x := Ratio.scaled n 10 k
  if b.m % 2 = 0 then low.le x && x.le high else low.lt x && x.lt high

/-- The whole number of units `10 ^ k` in a quotient. -/
def floorAt (r : Ratio) (k : Int) : Nat :=
  if 0 ≤ k then r.num / (r.den * 10 ^ k.toNat) else r.num * 10 ^ (-k).toNat / r.den

/-- Whether twice the remainder over whole units `10 ^ k` is less than, equal to or more than a unit. -/
def half (r : Ratio) (k : Int) : Ordering :=
  let (num, den) :=
    if 0 ≤ k then (r.num, r.den * 10 ^ k.toNat) else (r.num * 10 ^ (-k).toNat, r.den)
  compare (2 * (num % den)) den

/-- The exponent of the leading digit, searched for downwards from `e`. -/
def leading (r : Ratio) : Nat → Int → Int
  | 0, e => e
  | fuel + 1, e => if floorAt r e = 0 then leading r fuel (e - 1) else e

/-- The multiple of `10 ^ k` that rounds to the number: the nearer of its two neighbours, the even one
if both are as near. -/
def onGrid (b : Binary) (k : Int) : Option Nat :=
  let below := floorAt b.value k
  let first := match half b.value k with
    | .lt => below
    | .gt => below + 1
    | .eq => if below % 2 = 0 then below else below + 1
  let second := if first = below then below + 1 else below
  if first ≠ 0 ∧ b.accepts first k then some first
  else if second ≠ 0 ∧ b.accepts second k then some second
  else none

/-- The decimal on the coarsest grid that has one, from `10 ^ k` downwards. -/
def search (b : Binary) : Nat → Int → Nat × Int
  | 0, k => (floorAt b.value k, k)
  | fuel + 1, k =>
    match onGrid b k with
    | some n => (n, k)
    | none => search b fuel (k - 1)

/-- A decimal without zeros at its end. -/
def strip : Nat → Nat → Int → Nat × Int
  | 0, n, k => (n, k)
  | fuel + 1, n, k => if n ≠ 0 ∧ n % 10 = 0 then strip fuel (n / 10) (k + 1) else (n, k)

/-- The shortest decimal `n * 10 ^ k` for a number other than zero, as `(n, k)`. -/
def decimal (b : Binary) : Nat × Int :=
  let (n, k) := search b 17 (leading b.value 660 309)
  strip 20 n k

end TaskQueue.Text.Shortest
