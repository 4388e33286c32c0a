import TaskQueue.Text.Blank
import TaskQueue.Text.GraphemeExtend
import TaskQueue.Text.Hex
import TaskQueue.Text.Unprintable

/-!
# Quoted text

A text between double quotes in which every character can be seen: the quote, the backslash, NUL,
tab and the line ends have short escapes, and a character that extends the one before it or has no
visible form is written as its code point in braces.  All others stand for themselves, the halfwidth
sound marks too: they extend the character before them, but are letters of a width of their own.
-/

set_option autoImplicit false

namespace TaskQueue.Text.Quoted

/-- The halfwidth katakana sound marks, as inclusive ranges. -/
def soundMarkRanges : List (Nat × Nat) := [(0xFF9E, 0xFF9F)]

/-- Whether a character is written as its code point. -/
def isHidden (c : Char) : Bool :=
  (inRanges graphemeExtendRanges c.toNat && !inRanges soundMarkRanges c.toNat) ||
    inRanges unprintableRanges c.toNat

/-- The written form of one character. -/
def escape (c : Char) : List Char :=
  match c with
  | '\x00' => ['\\', '0']
  | '\t' => ['\\', 't']
  | '\r' => ['\\', 'r']
  | '\n' => ['\\', 'n']
  | '"' => ['\\', '"']
  | '\\' => ['\\', '\\']
  | c => if isHidden c then ['\\', 'u', '\x7b'] ++ Hex.ofNat c.toNat ++ ['\x7d'] else [c]

/-- The text between double quotes, each character in its written form. -/
def encode (cs : List Char) : List Char := '"' :: cs.flatMap escape ++ ['"']

/-- The text between double quotes, as a string. -/
def quote (s : String) : String := String.ofList (encode s.toList)

end TaskQueue.Text.Quoted
