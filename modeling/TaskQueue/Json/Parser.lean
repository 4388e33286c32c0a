import TaskQueue.Json.Value
import TaskQueue.Text.Utf8

/-!
# Reading JSON

The grammar of RFC 8259: white space is space, tab, line feed and carriage return; integers have no
leading zeros; control characters and lone surrogates are refused in texts; a value may lie inside at
most 127 lists and objects; of two members with one key the last counts.  Integers of a word stay
integers, other numbers and `-0` are read in double precision.
-/

set_option autoImplicit false

namespace TaskQueue.Json

open Text

/-- How many lists and objects may be open around a value. -/
def maxDepth : Nat := 127

/-- The text without white space in front. -/
def skipBlank (cs : List Char) : List Char :=
  cs.dropWhile fun c => c = ' ' || c = '\t' || c = '\n' || c = '\r'

/-- The number that four hexadecimal digits stand for. -/
def hex4? (a b c d : Char) : Option Nat := do
  return ((← Hex.value? a) * 16 + (← Hex.value? b)) * 256 + (← Hex.value? c) * 16 + (← Hex.value? d)

/-- The character that a letter after a backslash stands for. -/
def unescape? : Char → Option Char
  | '"' => some '"'
  | '\\' => some '\\'
  | '/' => some '/'
  | 'b' => some '\x08'
  | 'f' => some '\x0c'
  | 'n' => some '\n'
  | 'r' => some '\r'
  | 't' => some '\t'
  | _ => none

/-- The first character of a text behind its opening quote: a character and what follows it, or nothing
and what follows the closing quote. -/
def readChar? : List Char → Option (Option Char × List Char)
  | '"' :: rest => some (none, rest)
  | '\\' :: 'u' :: a :: b :: c :: d :: rest => do
    let n ← hex4? a b c d
    if 0xD800 ≤ n ∧ n ≤ 0xDBFF then
      match rest with
      | '\\' :: 'u' :: a :: b :: c :: d :: rest =>
        let low ← hex4? a b c d
        if 0xDC00 ≤ low ∧ low ≤ 0xDFFF then
          some (some (Char.ofNat ((n - 0xD800) * 0x400 + (low - 0xDC00) + 0x10000)), rest)
        else none
      | _ => none
    else if 0xDC00 ≤ n ∧ n ≤ 0xDFFF then none
    else some (some (Char.ofNat n), rest)
  | '\\' :: c :: rest => (unescape? c).map fun x => (some x, rest)
  | c :: rest => if c.toNat < 0x20 ∨ c = '\\' then none else some (some c, rest)
  | [] => none

/-- The characters of a text behind its opening quote, and what follows the closing one. -/
def readText? : Nat → List Char → Option (List Char × List Char)
  | 0, _ => none
  | fuel + 1, cs =>
    match readChar? cs with
    | some (some c, rest) => (readText? fuel rest).map fun (text, more) => (c :: text, more)
    | some (none, rest) => some ([], rest)
    | none => none

/-- A significand of at most 64 bits with the weight of its last digit, and the digits it leaves out. -/
structure Digits where
  significand : Nat
  exponent : Int
  /-- Whether a digit did not fit. -/
  full : Bool

/-- One more digit in front of the point. -/
def Digits.pushWhole (d : Digits) (c : Char) : Digits :=
  let n := d.significand * 10 + Decimal.digitValue c
  if d.full ∨ 2 ^ 64 ≤ n then { d with exponent := d.exponent + 1, full := true }
  else { d with significand := n }

/-- One more digit behind the point. -/
def Digits.pushFraction (d : Digits) (c : Char) : Digits :=
  let n := d.significand * 10 + Decimal.digitValue c
  if d.full ∨ 2 ^ 64 ≤ n then { d with full := true }
  else { d with significand := n, exponent := d.exponent - 1 }

/-- The digits of a fraction behind the point: at least one, and what follows them. -/
def readFraction? (d : Digits) (cs : List Char) : Option (Digits × List Char) :=
  let digits := cs.takeWhile Decimal.isDigit
  if digits.isEmpty then none
  else some (digits.foldl Digits.pushFraction { d with full := false }, cs.dropWhile Decimal.isDigit)

/-- An exponent behind its mark: an optional sign and at least one digit, and what follows. -/
def readExponent? (cs : List Char) : Option (Int × List Char) :=
  let (sign, cs) := match cs with
    | '+' :: rest => ((1 : Int), rest)
    | '-' :: rest => (-1, rest)
    | cs => (1, cs)
  let digits := cs.takeWhile Decimal.isDigit
  if digits.isEmpty then none
  else some (sign * Decimal.value digits, cs.dropWhile Decimal.isDigit)

/-- The number with a sign and digits, scaled by a further power of ten. -/
def finishReal? (negative : Bool) (d : Digits) (e : Int) : Option Json :=
  if 2 ^ 31 ≤ e.natAbs then
    if d.significand ≠ 0 ∧ 0 < e then none else (Real.ofParts? negative 0 0).map real
  else (Real.ofParts? negative d.significand (d.exponent + e)).map real

/-- A number behind its sign, and what follows it. -/
def readUnsigned? (negative : Bool) (cs : List Char) : Option (Json × List Char) :=
  let whole := cs.takeWhile Decimal.isDigit
  let rest := cs.dropWhile Decimal.isDigit
  if whole.isEmpty ∨ (whole.head? = some '0' ∧ 1 < whole.length) then none
  else
    let d := whole.foldl Digits.pushWhole ⟨0, 0, false⟩
    let fraction : Option (Digits × List Char × Bool) := match rest with
      | '.' :: rest => (readFraction? d rest).map fun (d, rest) => (d, rest, true)
      | rest => some (d, rest, d.full)
    match fraction with
    | none => none
    | some (d, rest, isReal) =>
      match rest with
      | 'e' :: rest | 'E' :: rest =>
        match readExponent? rest with
        | some (e, rest) => (finishReal? negative d e).map (·, rest)
        | none => none
      | rest =>
        let z : Int := if negative then -d.significand else d.significand
        if isReal ∨ (negative ∧ (z = 0 ∨ z < -(2 ^ 63))) then
          (finishReal? negative d 0).map (·, rest)
        else some (int z, rest)

/-- A number, and what follows it. -/
def readNumber? : List Char → Option (Json × List Char)
  | '-' :: cs => readUnsigned? true cs
  | cs => readUnsigned? false cs

mutual

/-- A value with room for `depth` more lists and objects around its parts, and what follows it. -/
def readValue? : Nat → Nat → List Char → Option (Json × List Char)
  | 0, _, _ => none
  | fuel + 1, depth, cs =>
    match skipBlank cs with
    | 'n' :: 'u' :: 'l' :: 'l' :: rest => some (null, rest)
    | 't' :: 'r' :: 'u' :: 'e' :: rest => some (bool true, rest)
    | 'f' :: 'a' :: 'l' :: 's' :: 'e' :: rest => some (bool false, rest)
    | '"' :: rest =>
      (readText? (rest.length + 1) rest).map fun (text, more) => (string (String.ofList text), more)
    | '[' :: rest =>
      match depth with
      | 0 => none
      | depth + 1 =>
        match skipBlank rest with
        | ']' :: rest => some (array [], rest)
        | rest => (readItems? fuel depth rest).map fun (items, more) => (array items, more)
    | '\x7b' :: rest =>
      match depth with
      | 0 => none
      | depth + 1 =>
        match skipBlank rest with
        | '\x7d' :: rest => some (object [], rest)
        | rest => (readMembers? fuel depth rest).map fun (ms, more) => (object ms, more)
    | cs => readNumber? cs

/-- The items of a list, at least one, and what follows the closing bracket. -/
def readItems? : Nat → Nat → List Char → Option (List Json × List Char)
  | 0, _, _ => none
  | fuel + 1, depth, cs =>
    match readValue? fuel depth cs with
    | none => none
    | some (v, rest) =>
      match skipBlank rest with
      | ']' :: rest => some ([v], rest)
      | ',' :: rest => (readItems? fuel depth rest).map fun (items, more) => (v :: items, more)
      | _ => none

/-- The members of an object, at least one, and what follows the closing brace. -/
def readMembers? : Nat → Nat → List Char → Option (List (String × Json) × List Char)
  | 0, _, _ => none
  | fuel + 1, depth, cs =>
    match skipBlank cs with
    | '"' :: rest =>
      match readText? (rest.length + 1) rest with
      | none => none
      | some (key, rest) =>
        match skipBlank rest with
        | ':' :: rest =>
          match readValue? fuel depth rest with
          | none => none
          | some (v, rest) =>
            match skipBlank rest with
            | '\x7d' :: rest => some ([(String.ofList key, v)], rest)
            | ',' :: rest =>
              (readMembers? fuel depth rest).map fun (ms, more) => ((String.ofList key, v) :: ms, more)
            | _ => none
        | _ => none
    | _ => none

end

/-- The value that a text denotes, with white space around it allowed and at most `depth` lists and
objects inside one another. -/
def parseWithin? (depth : Nat) (s : String) : Option Json :=
  let cs := s.toList
  match readValue? (2 * cs.length + 2) depth cs with
  | some (v, rest) => if skipBlank rest = [] then some v else none
  | none => none

/-- The value that a text denotes. -/
def parse? (s : String) : Option Json := parseWithin? maxDepth s

/-- The value that bytes denote. -/
def decode? (bs : Bytes) : Option Json := (Utf8.decode? bs).bind parse?

end TaskQueue.Json
