import TaskQueue.Text.Hex

/-!
# MD5

The 128-bit digest of RFC 1321: the message is padded to blocks of sixteen little-endian words, and
each block is mixed into four words of state in sixty-four rounds.

Principal fact: `Digest.hex_inj` — digests that are written alike are the same.
-/

set_option autoImplicit false

namespace TaskQueue.Md5

open Text

/-- The four words of a digest. -/
structure Digest where
  a : UInt32
  b : UInt32
  c : UInt32
  d : UInt32
  deriving DecidableEq, Repr

/-- The state before the first block. -/
def Digest.start : Digest := ⟨0x67452301, 0xefcdab89, 0x98badcfe, 0x10325476⟩

/-- The words that are added in the rounds: the first 32 bits of the fraction of `|sin n|`. -/
def sines : List UInt32 :=
  [0xd76aa478, 0xe8c7b756, 0x242070db, 0xc1bdceee, 0xf57c0faf, 0x4787c62a, 0xa8304613, 0xfd469501,
   0x698098d8, 0x8b44f7af, 0xffff5bb1, 0x895cd7be, 0x6b901122, 0xfd987193, 0xa679438e, 0x49b40821,
   0xf61e2562, 0xc040b340, 0x265e5a51, 0xe9b6c7aa, 0xd62f105d, 0x02441453, 0xd8a1e681, 0xe7d3fbc8,
   0x21e1cde6, 0xc33707d6, 0xf4d50d87, 0x455a14ed, 0xa9e3e905, 0xfcefa3f8, 0x676f02d9, 0x8d2a4c8a,
   0xfffa3942, 0x8771f681, 0x6d9d6122, 0xfde5380c, 0xa4beea44, 0x4bdecfa9, 0xf6bb4b60, 0xbebfbc70,
   0x289b7ec6, 0xeaa127fa, 0xd4ef3085, 0x04881d05, 0xd9d4d039, 0xe6db99e5, 0x1fa27cf8, 0xc4ac5665,
   0xf4292244, 0x432aff97, 0xab9423a7, 0xfc93a039, 0x655b59c3, 0x8f0ccc92, 0xffeff47d, 0x85845dd1,
   0x6fa87e4f, 0xfe2ce6e0, 0xa3014314, 0x4e0811a1, 0xf7537e82, 0xbd3af235, 0x2ad7d2bb, 0xeb86d391]

/-- The amounts by which the rounds rotate. -/
def shifts : List UInt32 :=
  let quarter (xs : List UInt32) := xs ++ xs ++ xs ++ xs
  quarter [7, 12, 17, 22] ++ quarter [5, 9, 14, 20] ++ quarter [4, 11, 16, 23] ++
    quarter [6, 10, 15, 21]

/-- Rotation to the left by less than a word. -/
def rotate (x n : UInt32) : UInt32 := (x <<< n) ||| (x >>> (32 - n))

/-- A number as `n` bytes, the lowest first. -/
def littleEndian : Nat → Nat → Bytes
  | 0, _ => []
  | n + 1, x => UInt8.ofNat (x % 256) :: littleEndian n (x / 256)

/-- The message with a one bit, zeros up to eight bytes short of a block, and its length in bits. -/
def pad (message : Bytes) : Bytes :=
  message ++ 0x80 :: List.replicate ((119 - message.length % 64) % 64) 0 ++
    littleEndian 8 (message.length * 8)

/-- The word that four bytes stand for, the lowest first. -/
def wordOf (bs : Bytes) : UInt32 := bs.foldr (fun b w => w * 256 + b.toUInt32) 0

/-- A sequence cut into pieces of `n + 1`. -/
def chunks {α : Type} (n : Nat) : List α → List (List α)
  | [] => []
  | x :: xs => (x :: xs).take (n + 1) :: chunks n ((x :: xs).drop (n + 1))
  termination_by xs => xs.length
  decreasing_by simp only [List.length_drop, List.length_cons]; omega

/-- One round: its number, the word to add and the amount to rotate by. -/
def round (block : Array UInt32) (s : Digest) : Nat × UInt32 × UInt32 → Digest
  | (i, sine, shift) =>
    let (mix, pick) :=
      if i < 16 then ((s.b &&& s.c) ||| (~~~s.b &&& s.d), i)
      else if i < 32 then ((s.d &&& s.b) ||| (~~~s.d &&& s.c), (5 * i + 1) % 16)
      else if i < 48 then (s.b ^^^ s.c ^^^ s.d, (3 * i + 5) % 16)
      else (s.c ^^^ (s.b ||| ~~~s.d), 7 * i % 16)
    ⟨s.d, s.b + rotate (mix + s.a + sine + block.getD pick 0) shift, s.b, s.c⟩

/-- The rounds in order. -/
def rounds : List (Nat × UInt32 × UInt32) := (List.range 64).zip (sines.zip shifts)

/-- The state after one more block of bytes. -/
def absorb (s : Digest) (block : Bytes) : Digest :=
  let words := ((chunks 3 block).map wordOf).toArray
  let t := rounds.foldl (round words) s
  ⟨s.a + t.a, s.b + t.b, s.c + t.c, s.d + t.d⟩

/-- The digest of a message. -/
def digest (message : Bytes) : Digest := (chunks 63 (pad message)).foldl absorb Digest.start

/-- The sixteen bytes of a digest. -/
def Digest.bytes (h : Digest) : Bytes :=
  [h.a, h.b, h.c, h.d].flatMap fun w => littleEndian 4 w.toNat

/-- A digest as thirty-two hexadecimal digits. -/
def Digest.hex (h : Digest) : String := String.ofList (Hex.ofBytes h.bytes)

theorem length_littleEndian (n x : Nat) : (littleEndian n x).length = n := by
  induction n generalizing x with
  | zero => rfl
  | succ n ih => rw [littleEndian, List.length_cons, ih]

theorem littleEndian_inj {n x y : Nat} (hx : x < 256 ^ n) (hy : y < 256 ^ n)
    (h : littleEndian n x = littleEndian n y) : x = y := by
  induction n generalizing x y with
  | zero =>
    rw [Nat.pow_zero] at hx hy
    omega
  | succ n ih =>
    rw [Nat.pow_succ, Nat.mul_comm] at hx hy
    rw [littleEndian, littleEndian, List.cons.injEq] at h
    obtain ⟨hlow, hhigh⟩ := h
    have hlow : x % 256 = y % 256 := by simpa using congrArg UInt8.toNat hlow
    have hhigh : x / 256 = y / 256 :=
      ih (Nat.div_lt_of_lt_mul hx) (Nat.div_lt_of_lt_mul hy) hhigh
    omega

theorem littleEndian_word_inj {w v : UInt32} (h : littleEndian 4 w.toNat = littleEndian 4 v.toNat) :
    w = v :=
  UInt32.toNat_inj.mp (littleEndian_inj w.toNat_lt v.toNat_lt h)

theorem Digest.bytes_inj {h h' : Digest} (heq : h.bytes = h'.bytes) : h = h' := by
  obtain ⟨a, b, c, d⟩ := h
  obtain ⟨a', b', c', d'⟩ := h'
  simp only [bytes, List.flatMap_cons, List.flatMap_nil, List.append_nil] at heq
  -- Every word has four bytes, so the words are compared one by one.
  obtain ⟨ha, heq⟩ := List.append_inj heq (by simp only [length_littleEndian])
  obtain ⟨hb, heq⟩ := List.append_inj heq (by simp only [length_littleEndian])
  obtain ⟨hc, hd⟩ := List.append_inj heq (by simp only [length_littleEndian])
  rw [littleEndian_word_inj ha, littleEndian_word_inj hb, littleEndian_word_inj hc,
    littleEndian_word_inj hd]

/-- A digest is known by its digits. -/
theorem Digest.hex_inj {h h' : Digest} : h.hex = h'.hex ↔ h = h' := by
  constructor
  · intro heq
    exact bytes_inj (Hex.ofBytes_inj.mp (String.ofList_injective heq))
  · exact congrArg hex

end TaskQueue.Md5
