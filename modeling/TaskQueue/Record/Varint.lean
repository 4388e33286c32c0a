import TaskQueue.Numbers
import TaskQueue.Text.Hex

/-!
# Variable-length integers

Seven bits to a byte, the lowest first; every byte but the last has its high bit set.  A number has at
most ten bytes and 64 bits.

Principal fact: `read_write` — reading gives back what was written, whatever follows.
-/

set_option autoImplicit false

namespace TaskQueue.Varint

/-- The bytes of a number. -/
def write (n : Nat) : Bytes :=
  if n < 128 then [UInt8.ofNat n] else UInt8.ofNat (n % 128 + 128) :: write (n / 128)

/-- The number of bytes of a number, from the length of its binary form. -/
def size (n : Nat) : Nat := (Nat.log2 (n ||| 1) * 9 + 73) / 64

/-- Reads a number of at most `k` bytes and returns what follows it.  The last byte allowed holds one
bit only. -/
def readFrom : Nat → Bytes → Option (Nat × Bytes)
  | 0, _ => none
  | _ + 1, [] => none
  | k + 1, b :: rest =>
    if b.toNat < 128 then
      if k = 0 ∧ 2 ≤ b.toNat then none else some (b.toNat, rest)
    else (readFrom k rest).map fun (n, more) => (n * 128 + (b.toNat - 128), more)

/-- Reads a number and returns what follows it. -/
def read (bs : Bytes) : Option (Nat × Bytes) := readFrom 10 bs

theorem readFrom_shorter {k : Nat} {bs rest : Bytes} {n : Nat}
    (h : readFrom k bs = some (n, rest)) : rest.length < bs.length := by
  induction k generalizing bs n rest with
  | zero => simp [readFrom] at h
  | succ k ih =>
    cases bs with
    | nil => simp [readFrom] at h
    | cons b more =>
      rw [readFrom] at h
      split at h
      · split at h
        · cases h
        · cases h
          simp
      · obtain ⟨⟨m, tail⟩, hr, he⟩ := Option.map_eq_some_iff.mp h
        have := ih hr
        simp only [Prod.mk.injEq] at he
        rw [← he.2, List.length_cons]
        omega

theorem read_shorter {bs rest : Bytes} {n : Nat} (h : read bs = some (n, rest)) :
    rest.length < bs.length := readFrom_shorter h

theorem readFrom_write {k n : Nat} {rest : Bytes} (h : n < 2 ^ (7 * k + 1)) :
    readFrom (k + 1) (write n ++ rest) = some (n, rest) := by
  induction k generalizing n with
  | zero =>
    have hn : n < 128 := by omega
    rw [write, if_pos hn, List.singleton_append, readFrom]
    have hb : (UInt8.ofNat n).toNat = n := by simp; omega
    rw [hb, if_pos hn, if_neg (by omega)]
  | succ k ih =>
    rw [write]
    split
    · rename_i hn
      have hb : (UInt8.ofNat n).toNat = n := by simp; omega
      rw [List.singleton_append, readFrom, hb, if_pos hn, if_neg (by omega)]
    · have hb : (UInt8.ofNat (n % 128 + 128)).toNat = n % 128 + 128 := by simp; omega
      have hd : n / 128 < 2 ^ (7 * k + 1) := by
        apply Nat.div_lt_of_lt_mul
        calc n < 2 ^ (7 * (k + 1) + 1) := h
          _ = 128 * 2 ^ (7 * k + 1) := by
            rw [show 7 * (k + 1) + 1 = 7 + (7 * k + 1) by omega, Nat.pow_add]
      rw [List.cons_append, readFrom, hb, if_neg (by omega), ih hd]
      simp only [Option.map_some, Option.some.injEq, Prod.mk.injEq, and_true]
      omega

/-- **Reading inverts writing** for every number of 64 bits, whatever follows. -/
theorem read_write {n : Nat} (rest : Bytes) (h : n < 2 ^ 64) :
    read (write n ++ rest) = some (n, rest) := readFrom_write (k := 9) h

end TaskQueue.Varint
