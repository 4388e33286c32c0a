import TaskQueue.Numbers

/-!
# Hexadecimal text

Lower-case digits, bytes as pairs of digits, and the reading of single digits in either case.

Principal facts: `bytes?_ofBytes` — bytes are read back from their digits; `ofBytes_inj` — so different
bytes have different digits.
-/

set_option autoImplicit false

namespace TaskQueue

/-- A sequence of octets. -/
abbrev Bytes := List UInt8

namespace Text.Hex

/-- The lower-case digit of a value below 16. -/
def digit (n : Nat) : Char :=
  if n < 10 then Char.ofNat (48 + n) else Char.ofNat (87 + n)

/-- The value of a digit, upper or lower case. -/
def value? (c : Char) : Option Nat :=
  if '0' ≤ c ∧ c ≤ '9' then some (c.toNat - 48)
  else if 'a' ≤ c ∧ c ≤ 'f' then some (c.toNat - 87)
  else if 'A' ≤ c ∧ c ≤ 'F' then some (c.toNat - 55)
  else none

theorem value?_digit : ∀ n < 16, value? (digit n) = some n := by decide

/-- A byte as two digits. -/
def ofByte (b : UInt8) : List Char := [digit (b.toNat / 16), digit (b.toNat % 16)]

/-- Bytes as pairs of digits. -/
def ofBytes (bs : Bytes) : List Char := bs.flatMap ofByte

/-- The bytes that a text of digit pairs stands for. -/
def bytes? : List Char → Option Bytes
  | [] => some []
  | [_] => none
  | a :: b :: rest => do
    let hi ← value? a
    let lo ← value? b
    let more ← bytes? rest
    return UInt8.ofNat (hi * 16 + lo) :: more

/-- A number in the fewest digits. -/
def ofNat (n : Nat) : List Char :=
  if n < 16 then [digit n] else ofNat (n / 16) ++ [digit (n % 16)]

/-- Reading inverts writing. -/
theorem bytes?_ofBytes (bs : Bytes) : bytes? (ofBytes bs) = some bs := by
  induction bs with
  | nil => rfl
  | cons b bs ih =>
    have hb := b.toNat_lt
    have hhigh := value?_digit (b.toNat / 16) (by omega)
    have hlow := value?_digit (b.toNat % 16) (by omega)
    have hbyte : UInt8.ofNat (b.toNat / 16 * 16 + b.toNat % 16) = b := by
      rw [Nat.div_add_mod', UInt8.ofNat_toNat]
    show bytes? (digit (b.toNat / 16) :: digit (b.toNat % 16) :: ofBytes bs) = some (b :: bs)
    simp only [bytes?, hhigh, hlow, ih, bind, Option.bind_some, hbyte]
    rfl

theorem ofBytes_inj {bs bs' : Bytes} : ofBytes bs = ofBytes bs' ↔ bs = bs' := by
  constructor
  · intro h
    rw [← Option.some.injEq, ← bytes?_ofBytes bs, h, bytes?_ofBytes]
  · exact congrArg ofBytes

theorem isSome_value?_of_mem_ofBytes {c : Char} {bs : Bytes} (h : c ∈ ofBytes bs) :
    (value? c).isSome := by
  obtain ⟨b, -, hc⟩ := List.mem_flatMap.mp h
  have hb := b.toNat_lt
  simp only [ofByte, List.mem_cons, List.not_mem_nil, or_false] at hc
  rcases hc with rfl | rfl
  · rw [value?_digit _ (by omega)]
    rfl
  · rw [value?_digit _ (by omega)]
    rfl

end Text.Hex

end TaskQueue
