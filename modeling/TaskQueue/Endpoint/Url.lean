import TaskQueue.Endpoint.Ipv6
import TaskQueue.Text.Blank
import TaskQueue.Text.Percent

/-!
# Locators

The parts of a locator behind its scheme and `://`: who asks, a host, a port, a path and a query; a
fragment is ignored.  What stands in the parts is kept as written, percent encoding included, but for
the host and for path segments that mean "here" and "one level up".

Principal fact: `resolve_of_plain` — a path without such segments stays as it is.
-/

set_option autoImplicit false

namespace TaskQueue

open Text

/-- The host of a locator. -/
inductive Host where
  | name (text : String)
  | address (a : Ipv6)
  deriving DecidableEq, Repr

/-- A host as text. -/
def Host.print : Host → String
  | name text => text
  | address a => String.ofList a.print

/-- The parts of a locator behind its scheme. -/
structure Url where
  username : List Char
  /-- What stands behind the first colon of the user's part, if it is not empty. -/
  password : List Char
  host : Option Host
  port : Option Nat
  /-- The segments of the path; no path at all is told from the root. -/
  path : Option (List (List Char))
  query : List Char

namespace Url

/-- Whether a character ends the authority. -/
def endsAuthority (c : Char) : Bool := c = '/' || c = '?' || c = '#'

/-- Whether a character is passed over wherever it stands. -/
def isIgnored (c : Char) : Bool := c = '\t' || c = '\n' || c = '\r'

/-- A text without control characters and spaces at its end and without tabs and line breaks. -/
def clean (cs : List Char) : List Char :=
  ((cs.reverse.dropWhile (· ≤ ' ')).reverse).filter fun c => !isIgnored c

/-- The characters that no name of a host has. -/
def forbiddenInHost : List Char :=
  ['\x00', '\t', '\n', '\r', ' ', '#', '/', ':', '<', '>', '?', '@', '[', '\\', ']', '^', '|']

/-- A character of the name of a host: controls and characters beyond ASCII are percent-encoded. -/
def encodeHostChar (c : Char) : List Char :=
  if ' ' ≤ c ∧ c ≤ '~' then [c]
  else (Utf8.encode (String.singleton c)).flatMap Percent.encodeByte

/-- The host that a text denotes; the empty text is the empty name. -/
def host? (cs : List Char) : Option Host :=
  match cs with
  | '[' :: rest =>
    if rest.getLast? = some ']' then (Ipv6.parse? rest.dropLast).map .address else none
  | cs =>
    if cs.any forbiddenInHost.contains then none
    else some (.name (String.ofList (cs.flatMap encodeHostChar)))

/-- The text of a host, which a colon outside brackets ends, and what follows it. -/
def splitHost (bracketed : Bool) : List Char → List Char × List Char
  | [] => ([], [])
  | c :: cs =>
    if c = ':' ∧ !bracketed then ([], c :: cs)
    else
      let (host, rest) := splitHost (if c = '[' then true else if c = ']' then false else bracketed) cs
      (c :: host, rest)

/-- The port behind a colon, if there are digits, and what follows it: nothing, or a backslash, which
belongs to the path. -/
def port? (cs : List Char) : Option (Option Nat × List Char) :=
  let digits := cs.takeWhile Decimal.isDigit
  let rest := cs.dropWhile Decimal.isDigit
  let n := Decimal.value digits
  if 65535 < n ∨ (rest ≠ [] ∧ rest.head? ≠ some '\\') then none
  else some (if digits = [] then none else some n, rest)

/-- Whether a segment stands for its own level. -/
def isHere (segment : List Char) : Bool := segment = ['.'] || segment.map Char.toLower = "%2e".toList

/-- Whether a segment stands for the level above. -/
def isUp (segment : List Char) : Bool :=
  ["..", "%2e%2e", ".%2e", "%2e."].any fun s => segment.map Char.toLower = s.toList

/-- Whether a segment begins like the letter of a drive, which no level above leaves. -/
def isDrive : List Char → Bool
  | [c, mark] => c.isAlpha && (mark = ':' || mark = '|')
  | c :: mark :: '\\' :: _ => c.isAlpha && (mark = ':' || mark = '|')
  | _ => false

/-- The level above a path in reverse. -/
def up : List (List Char) → List (List Char)
  | [] => []
  | segment :: rest => if isDrive segment then segment :: rest else rest

/-- The segments of a path without those for its own level and the level above; `done` are the segments
before in reverse. -/
def resolve (done : List (List Char)) : List (List Char) → List (List Char)
  | [] => done.reverse
  | segment :: rest =>
    let level := if isUp segment then up done else done
    if isUp segment || isHere segment then
      if rest.isEmpty then ([] :: level).reverse else resolve level rest
    else resolve (segment :: done) rest

/-- The segments of a path as text. -/
def printPath (segments : List (List Char)) : List Char := '/' :: join '/' segments

/-- The segments of a path as written, if there is one. -/
def path? (cs : List Char) : Option (List (List Char)) :=
  match cs with
  | [] => none
  | '/' :: rest => some (resolve [] (pieces '/' rest))
  | cs => some (resolve [] (pieces '/' cs))

/-- The user, the password and what follows them in an authority, which is cut off at the end. -/
def userinfo? (authority : List Char) (more : Bool) :
    Option (List Char × List Char × List Char) :=
  match cutLast? '@' authority with
  | none => some ([], [], authority)
  | some ([], host) => if host = [] ∧ more then none else some ([], [], host)
  | some (info, host) =>
    let (user, password) := cutFirst ':' info
    some (user, password.getD [], host)

/-- The host and the port, and what the port leaves to the path.  The empty name is no host; neither a
port nor a user goes with it. -/
def hostPort? (cs : List Char) (hasUser : Bool) :
    Option (Option Host × Option Nat × List Char) := do
  let (text, rest) := splitHost false cs
  let host ← host? text
  if text = [] then
    if rest ≠ [] ∨ hasUser then none else some (none, none, [])
  else
    match rest with
    | [] => some (some host, none, [])
    | _ :: digits => (port? digits).map fun (port, left) => (some host, port, left)

/-- The parts of a locator from its text behind `://`. -/
def parse? (text : List Char) : Option Url := do
  let cs := clean text
  let authority := cs.takeWhile fun c => !endsAuthority c
  let tail := cs.dropWhile fun c => !endsAuthority c
  let (username, password, rest) ← userinfo? authority (!tail.isEmpty)
  let (host, port, left) ← hostPort? rest (!username.isEmpty || !password.isEmpty)
  let (pathText, query) := cutFirst '?' (tail.takeWhile (· ≠ '#'))
  return { username, password, host, port, path := path? (left ++ pathText), query := query.getD [] }

/-- The bytes of a part of a query. -/
def decodeQueryPart (cs : List Char) : String :=
  String.ofList (Utf8.decodeLossy (Percent.decode (cs.map fun c => if c = '+' then ' ' else c)))

/-- The members of a query in order. -/
def queryMembers (u : Url) : List (String × String) :=
  ((pieces '&' u.query).filter fun p => !p.isEmpty).map fun p =>
    let (key, value) := cutFirst '=' p
    (decodeQueryPart key, decodeQueryPart (value.getD []))

/-- The last member of a query with a key. -/
def queryMember? (u : Url) (key : String) : Option String := u.queryMembers.reverse.lookup key

theorem resolve_of_plain {done segments : List (List Char)}
    (h : ∀ s ∈ segments, isUp s = false ∧ isHere s = false) :
    resolve done segments = done.reverse ++ segments := by
  induction segments generalizing done with
  | nil => simp [resolve]
  | cons s rest ih =>
    obtain ⟨hu, hh⟩ := h s (by simp)
    rw [resolve]
    simp only [hu, hh, Bool.or_self, Bool.false_eq_true, if_false]
    rw [ih fun s' hs' => h s' (by simp [hs'])]
    simp

end Url

end TaskQueue
