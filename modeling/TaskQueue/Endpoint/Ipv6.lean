import TaskQueue.Text.Decimal
import TaskQueue.Text.Hex
import TaskQueue.Text.Pieces

/-!
# IPv6 addresses

An address has eight pieces of 16 bits.  It is read with at most one `::` for one or more pieces that
are zero, and with its last two pieces as four decimal numbers if so written.  It is written in lower
case with `::` for the first of its longest runs of zeros, if that has two pieces or more; an address
that stands for one of version 4 ends in that one's form.

Principal fact: `size_pieces?` — what is read has eight pieces.
-/

set_option autoImplicit false

namespace TaskQueue

open Text

/-- An address of eight pieces. -/
structure Ipv6 where
  pieces : List Nat
  size_eq : pieces.length = 8
  deriving DecidableEq, Repr

namespace Ipv6

/-- The pieces read so far, with those behind a `::` apart. -/
structure Draft where
  before : List Nat := []
  after : Option (List Nat) := none

namespace Draft

/-- How many of the eight pieces are taken: a `::` takes at least one. -/
def count (d : Draft) : Nat := d.before.length + (d.after.map fun a => a.length + 1).getD 0

/-- A further piece. -/
def push (d : Draft) (piece : Nat) : Draft :=
  match d.after with
  | none => { d with before := d.before ++ [piece] }
  | some after => { d with after := some (after ++ [piece]) }

/-- The eight pieces, with zeros for a `::`. -/
def pieces? (d : Draft) : Option (List Nat) :=
  match d.after with
  | none => if d.before.length = 8 then some d.before else none
  | some after =>
    if d.count ≤ 8 then
      some (d.before ++ List.replicate (8 - d.before.length - after.length) 0 ++ after)
    else none

theorem size_pieces? {d : Draft} {ps : List Nat} (h : d.pieces? = some ps) : ps.length = 8 := by
  unfold pieces? at h
  split at h
  · split at h
    · simp_all
    · cases h
  · rename_i after ha
    split at h
    · rename_i hc
      simp only [count, ha, Option.map_some, Option.getD_some] at hc
      cases h
      simp only [List.length_append, List.length_replicate]
      omega
    · cases h

end Draft

/-- A number of a byte in decimal, without leading zeros. -/
def octet? (cs : List Char) : Option Nat := do
  let n ← Decimal.digits? cs
  if n ≤ 255 ∧ (cs = ['0'] ∨ cs.head? ≠ some '0') then some n else none

/-- The two pieces that four decimal numbers stand for. -/
def dotted? (cs : List Char) : Option (Nat × Nat) :=
  match (Text.pieces '.' cs).mapM octet? with
  | some [a, b, c, d] => some (a * 256 + b, c * 256 + d)
  | _ => none

/-- The value of hexadecimal digits. -/
def hexValue (ds : List Char) : Nat := ds.foldl (fun n c => n * 16 + (Hex.value? c).getD 0) 0

/-- Reads the pieces of an address from the first one on. -/
def readPieces? (d : Draft) (cs : List Char) : Option Draft :=
  match cs with
  | [] => some d
  | ':' :: rest =>
    if d.count = 8 ∨ d.after.isSome then none else readPieces? { d with after := some [] } rest
  | c :: more =>
    if d.count = 8 then none
    else
      let ds := ((c :: more).take 4).takeWhile fun c => (Hex.value? c).isSome
      match h : (c :: more).drop ds.length with
      | [] => some (d.push (hexValue ds))
      | ':' :: rest =>
        have hrest : rest.length ≤ more.length := by
          have hl := congrArg List.length h
          simp only [List.length_drop, List.length_cons] at hl
          omega
        if rest = [] then none else readPieces? (d.push (hexValue ds)) rest
      | '.' :: _ =>
        if ds = [] ∨ 6 < d.count then none
        else (dotted? (c :: more)).map fun (high, low) => (d.push high).push low
      | _ => none
  termination_by cs.length
  decreasing_by
    all_goals
      simp only [List.length_cons]
      omega

/-- The address that a text denotes. -/
def parse? (cs : List Char) : Option Ipv6 := do
  let draft ← match cs with
    | ':' :: ':' :: rest => readPieces? { after := some [] } rest
    | ':' :: _ => none
    | cs => readPieces? {} cs
  match h : draft.pieces? with
  | some ps => some ⟨ps, Draft.size_pieces? h⟩
  | none => none

/-- The first of the longest runs of zeros: where it begins and how long it is. -/
def longestZeros (ps : List Nat) : Nat × Nat :=
  (List.range ps.length).foldl (fun best i =>
    let n := ((ps.drop i).takeWhile (· = 0)).length
    if best.2 < n then (i, n) else best) (0, 0)

/-- Pieces with colons between them. -/
def printPieces (ps : List Nat) : List Char := join ':' (ps.map Hex.ofNat)

/-- Two pieces as four decimal numbers. -/
def printDotted (high low : Nat) : List Char :=
  join '.' ([high / 256, high % 256, low / 256, low % 256].map Decimal.ofNat)

/-- An address as text. -/
def print (a : Ipv6) : List Char :=
  match a.pieces with
  | [0, 0, 0, 0, 0, 0xffff, high, low] => "::ffff:".toList ++ printDotted high low
  | ps =>
    let (start, size) := longestZeros ps
    if 1 < size then printPieces (ps.take start) ++ ':' :: ':' :: printPieces (ps.drop (start + size))
    else printPieces ps

end Ipv6

end TaskQueue
