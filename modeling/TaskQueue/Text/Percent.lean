import TaskQueue.Text.Utf8

/-!
# Percent encoding

A `%` with two hexadecimal digits stands for one byte; a `%` without them stands for itself.
-/

set_option autoImplicit false

namespace TaskQueue.Text.Percent

/-- The bytes that a percent-encoded run of bytes stands for. -/
def decodeBytes : Bytes → Bytes
  | [] => []
  | [a] => [a]
  | [a, b] => [a, b]
  | a :: b :: c :: rest =>
    if a = 0x25 then
      match Hex.value? (Char.ofNat b.toNat), Hex.value? (Char.ofNat c.toNat) with
      | some hi, some lo => UInt8.ofNat (hi * 16 + lo) :: decodeBytes rest
      | _, _ => a :: decodeBytes (b :: c :: rest)
    else a :: decodeBytes (b :: c :: rest)

/-- The bytes that a percent-encoded text stands for. -/
def decode (cs : List Char) : Bytes := decodeBytes (Utf8.encode (String.ofList cs))

/-- A byte as `%` and two upper-case digits. -/
def encodeByte (b : UInt8) : List Char := '%' :: (Hex.ofByte b).map Char.toUpper

end TaskQueue.Text.Percent
