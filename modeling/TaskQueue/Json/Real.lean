import TaskQueue.Text.Decimal
import TaskQueue.Text.Shortest

/-!
# Numbers with a fraction or an exponent

A number that is not an integer of a word is kept in double precision, as its bit pattern.  It is read
as a significand of at most 64 bits, which is multiplied or divided once by a power of ten, and
written with the fewest digits that read back: positionally with its point inside or near the digits,
otherwise with an exponent, which always has a sign.
-/

set_option autoImplicit false

namespace TaskQueue.Json

open Text

/-- A finite number in double precision. -/
structure Real where
  bits : UInt64
  deriving DecidableEq, Repr

namespace Real

/-- Whether the sign bit is set. -/
def isNegative (x : Real) : Bool := 2 ^ 63 ≤ x.bits.toNat

/-- The number without its sign as a significand and an exponent of two. -/
def magnitude (x : Real) : Shortest.Binary :=
  let exponent : Nat := x.bits.toNat / 2 ^ 52 % 2048
  let fraction : Nat := x.bits.toNat % 2 ^ 52
  if exponent = 0 then ⟨fraction, -1074, false⟩
  else ⟨2 ^ 52 + fraction, (exponent : Int) - 1075, fraction == 0 && decide (1 < exponent)⟩

/-- The significand times a power of ten, in steps that double precision can represent. -/
def scale : Nat → Float → Int → Option Float
  | 0, f, _ => some f
  | fuel + 1, f, e =>
    if e.natAbs ≤ 308 then
      let pow := Float.ofScientific 1 false e.natAbs
      if 0 ≤ e then
        let r := f * pow
        if r.isInf then none else some r
      else some (f / pow)
    else if f == 0 then some f
    else if 0 ≤ e then none
    else scale fuel (f / Float.ofScientific 1 false 308) (e + 308)

/-- The number with a sign, a significand and an exponent of ten, if it is not too large. -/
def ofParts? (negative : Bool) (significand : Nat) (e : Int) : Option Real :=
  (scale 8 (UInt64.ofNat significand).toFloat e).map fun f =>
    ⟨(if negative then -f else f).toBits⟩

/-- An exponent with its sign. -/
def printExponent (e : Int) : List Char :=
  (if e < 0 then '-' else '+') :: Decimal.ofNat e.natAbs

/-- The digits `ds`, the leading one of weight `10 ^ (point - 1)`, with a point or an exponent. -/
def layout (ds : List Char) (point : Int) : List Char :=
  let n : Int := ds.length
  if n ≤ point ∧ point ≤ 16 then ds ++ List.replicate (point - n).toNat '0' ++ ['.', '0']
  else if 0 < point ∧ point ≤ 16 then ds.take point.toNat ++ '.' :: ds.drop point.toNat
  else if -5 < point ∧ point ≤ 0 then '0' :: '.' :: List.replicate (-point).toNat '0' ++ ds
  else
    let tail := if ds.length = 1 then [] else '.' :: ds.drop 1
    ds.take 1 ++ tail ++ 'e' :: printExponent (point - 1)

/-- A number as text. -/
def print (x : Real) : List Char :=
  let sign := if x.isNegative then ['-'] else []
  let b := x.magnitude
  if b.m = 0 then sign ++ ['0', '.', '0']
  else
    let (n, k) := Shortest.decimal b
    let ds := Decimal.ofNat n
    sign ++ layout ds (ds.length + k)

end Real

end TaskQueue.Json
