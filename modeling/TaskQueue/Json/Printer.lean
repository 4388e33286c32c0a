import TaskQueue.Json.Value
import TaskQueue.Text.Utf8

/-!
# Writing JSON

Values are written without white space.  In texts the quote, the backslash and the control characters
are escaped, six of them by a letter and the others by their code in lower-case hexadecimal.
-/

set_option autoImplicit false

namespace TaskQueue.Json

open Text

/-- The written form of one character of a text. -/
def escapeChar (c : Char) : List Char :=
  match c with
  | '"' => ['\\', '"']
  | '\\' => ['\\', '\\']
  | '\x08' => ['\\', 'b']
  | '\x0c' => ['\\', 'f']
  | '\n' => ['\\', 'n']
  | '\r' => ['\\', 'r']
  | '\t' => ['\\', 't']
  | c =>
    if c.toNat < 0x20 then
      ['\\', 'u', '0', '0', Hex.digit (c.toNat / 16), Hex.digit (c.toNat % 16)]
    else [c]

/-- A text between quotes. -/
def printText (s : String) : List Char := '"' :: s.toList.flatMap escapeChar ++ ['"']

mutual

/-- A value as text. -/
def printChars : Json → List Char
  | null => "null".toList
  | bool true => "true".toList
  | bool false => "false".toList
  | int z => Decimal.ofInt z
  | real x => x.print
  | string s => printText s
  | array items => '[' :: printItems items
  | members ms => '\x7b' :: printMembers ms

/-- The items of a list and its closing bracket. -/
def printItems : List Json → List Char
  | [] => [']']
  | [v] => printChars v ++ [']']
  | v :: w :: rest => printChars v ++ ',' :: printItems (w :: rest)

/-- The members of an object and its closing brace. -/
def printMembers : List (String × Json) → List Char
  | [] => ['\x7d']
  | [(k, v)] => printText k ++ ':' :: printChars v ++ ['\x7d']
  | (k, v) :: m :: rest => printText k ++ ':' :: printChars v ++ ',' :: printMembers (m :: rest)

end

/-- A value as text. -/
def print (v : Json) : String := String.ofList v.printChars

/-- A value as bytes. -/
def encode (v : Json) : Bytes := Utf8.encode v.print

end TaskQueue.Json
