import TaskQueue.Text.Hex

/-!
# UTF-8

Texts as bytes and back.  Strict reading accepts exactly what writing produces (`decode?_encode`);
lossy reading puts U+FFFD for every maximal piece that begins no character.
-/

set_option autoImplicit false

namespace TaskQueue.Text.Utf8

/-- The bytes of a text. -/
def encode (s : String) : Bytes := s.toByteArray.data.toList

/-- The text that the bytes stand for, if they are well formed. -/
def decode? (bs : Bytes) : Option String := String.fromUTF8? ⟨bs.toArray⟩

/-- The second bytes that may follow a first byte of a character of more than one byte: the first of
them is restricted so that no character has two forms and no surrogate has one. -/
def secondRange (first : UInt8) : Option (UInt8 × UInt8) :=
  if 0xC2 ≤ first ∧ first ≤ 0xDF then some (0x80, 0xBF)
  else if first = 0xE0 then some (0xA0, 0xBF)
  else if first = 0xED then some (0x80, 0x9F)
  else if 0xE1 ≤ first ∧ first ≤ 0xEF then some (0x80, 0xBF)
  else if first = 0xF0 then some (0x90, 0xBF)
  else if first = 0xF4 then some (0x80, 0x8F)
  else if 0xF1 ≤ first ∧ first ≤ 0xF3 then some (0x80, 0xBF)
  else none

/-- How many bytes a character with this first byte has. -/
def lengthOf (first : UInt8) : Nat :=
  if first < 0x80 then 1 else if first < 0xE0 then 2 else if first < 0xF0 then 3 else 4

/-- How many bytes at the front of `first :: rest` form a character or the longest beginning of
one, and whether it is a whole character. -/
def piece (first : UInt8) (rest : Bytes) : Nat × Bool :=
  if first < 0x80 then (1, true)
  else
    match secondRange first, rest with
    | some (lo, hi), second :: more =>
      if lo ≤ second ∧ second ≤ hi then
        let tail := (more.take (lengthOf first - 2)).takeWhile fun b => 0x80 ≤ b && b ≤ 0xBF
        (2 + tail.length, 2 + tail.length == lengthOf first)
      else (1, false)
    | _, _ => (1, false)

/-- The character whose bytes these are, given that they are well formed. -/
def scalar (bs : Bytes) : Char :=
  match bs.map (·.toNat) with
  | [a] => Char.ofNat a
  | [a, b] => Char.ofNat (a % 32 * 64 + b % 64)
  | [a, b, c] => Char.ofNat (a % 16 * 4096 + b % 64 * 64 + c % 64)
  | [a, b, c, d] => Char.ofNat (a % 8 * 262144 + b % 64 * 4096 + c % 64 * 64 + d % 64)
  | _ => '\ufffd'

/-- The text that the bytes stand for, with U+FFFD in place of what is not well formed. -/
def decodeLossy : Bytes → List Char
  | [] => []
  | first :: rest =>
    let (n, whole) := piece first rest
    (if whole then scalar ((first :: rest).take n) else '\ufffd') :: decodeLossy (rest.drop (n - 1))
  termination_by bs => bs.length
  decreasing_by simp only [List.length_drop, List.length_cons]; omega

theorem decode?_encode (s : String) : decode? (encode s) = some s := by
  have h : (⟨(encode s).toArray⟩ : ByteArray).IsValidUTF8 := by
    simpa [encode] using s.isValidUTF8
  rw [decode?, String.fromUTF8?, dif_pos h]
  simp [String.fromUTF8, encode]

theorem eq_encode_of_decode? {bs : Bytes} {s : String} (h : decode? bs = some s) :
    bs = encode s := by
  unfold decode? String.fromUTF8? at h
  split at h
  · simp only [Option.some.injEq] at h
    subst h
    simp [encode, String.fromUTF8]
  · cases h

end TaskQueue.Text.Utf8
