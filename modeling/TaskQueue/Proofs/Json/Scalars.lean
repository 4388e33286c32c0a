import TaskQueue.Json.Parser
import TaskQueue.Json.Printer
import TaskQueue.Proofs.Text.Decimal
import TaskQueue.Proofs.Text.Trimming

/-!
# Reading back texts and numbers

A text ends at its own closing quote, whatever follows, because each quote inside it is written behind a
backslash.  A number has no such end: it is read back only if what follows cannot go on with it.

Principal results: `readText?_flatMap_escapeChar` — any text comes back from its written form;
`readNumber?_ofInt` — so does every integer that one of the two kinds of 64-bit words can hold.
-/

set_option autoImplicit false

namespace TaskQueue.Json

open Text

/-! ## Texts -/

/-- The code of a control character is read back from its two digits. -/
theorem hex4?_digits {n : Nat} (h : n < 0x20) :
    hex4? '0' '0' (Hex.digit (n / 16)) (Hex.digit (n % 16)) = some n := by
  have hzero : Hex.value? '0' = some 0 := rfl
  have hhigh := Hex.value?_digit (n / 16) (by omega)
  have hlow := Hex.value?_digit (n % 16) (by omega)
  simp only [hex4?, hzero, hhigh, hlow, bind, Option.bind_some]
  show some _ = some n
  rw [Option.some.injEq]
  omega

/-- **A character is read back from its written form**, whatever follows. -/
theorem readChar?_escapeChar (c : Char) (rest : List Char) :
    readChar? (escapeChar c ++ rest) = some (some c, rest) := by
  unfold escapeChar
  split
  -- The quote, the backslash and the five characters with a letter of their own.
  iterate 7 rfl
  rename_i hquote hback _ _ _ _ _
  split
  · rename_i hcontrol
    show (hex4? '0' '0' _ _).bind _ = _
    rw [hex4?_digits hcontrol, Option.bind_some, if_neg (by omega), if_neg (by omega), Char.ofNat_toNat]
    rfl
  · rename_i hcontrol
    rw [List.singleton_append, readChar?.eq_def]
    split
    · rename_i heq
      cases heq
      exact absurd rfl hquote
    · rename_i heq
      cases heq
      exact absurd rfl hback
    · rename_i heq
      cases heq
      exact absurd rfl hback
    · rename_i heq
      cases heq
      rw [if_neg (not_or.mpr ⟨hcontrol, hback⟩)]
    · rename_i heq
      cases heq

theorem length_escapeChar_pos (c : Char) : 0 < (escapeChar c).length := by
  unfold escapeChar
  split
  iterate 7 exact Nat.succ_pos _
  split
  · exact Nat.succ_pos _
  · exact Nat.one_pos

/-- **A text is read back from its written form**, whatever follows its closing quote. -/
theorem readText?_flatMap_escapeChar {fuel : Nat} {cs : List Char} (rest : List Char)
    (h : (cs.flatMap escapeChar).length < fuel) :
    readText? fuel (cs.flatMap escapeChar ++ '"' :: rest) = some (cs, rest) := by
  induction cs generalizing fuel with
  | nil =>
    cases fuel with
    | zero => exact absurd h (Nat.not_lt_zero _)
    | succ fuel => rfl
  | cons c cs ih =>
    have hc := length_escapeChar_pos c
    rw [List.flatMap_cons, List.length_append] at h
    cases fuel with
    | zero => exact absurd h (Nat.not_lt_zero _)
    | succ fuel =>
      rw [List.flatMap_cons, List.append_assoc, readText?, readChar?_escapeChar]
      simp only
      rw [ih (by omega)]
      rfl

theorem printText_append (s : String) (rest : List Char) :
    printText s ++ rest = '"' :: (s.toList.flatMap escapeChar ++ '"' :: rest) := by
  simp [printText]

theorem readText?_of_printText (s : String) (rest : List Char) :
    readText? ((s.toList.flatMap escapeChar ++ '"' :: rest).length + 1)
        (s.toList.flatMap escapeChar ++ '"' :: rest) = some (s.toList, rest) := by
  refine readText?_flatMap_escapeChar rest ?_
  rw [List.length_append]
  omega

/-! ## Numbers -/

/-- What may follow a number: nothing that could be a further part of it. -/
def EndsNumber (rest : List Char) : Prop :=
  ∀ c ∈ rest.head?, Decimal.isDigit c = false ∧ c ≠ '.' ∧ c ≠ 'e' ∧ c ≠ 'E'

theorem endsNumber_nil : EndsNumber [] := fun _ h => nomatch h

theorem endsNumber_cons {c : Char} (rest : List Char)
    (h : Decimal.isDigit c = false ∧ c ≠ '.' ∧ c ≠ 'e' ∧ c ≠ 'E') : EndsNumber (c :: rest) := by
  intro d hd
  cases hd
  exact h

/-- Digits whose number is a 64-bit word are all kept. -/
theorem foldl_pushWhole {n : Nat} {cs : List Char} (h : Decimal.valueFrom n cs < 2 ^ 64) :
    cs.foldl Digits.pushWhole ⟨n, 0, false⟩ = ⟨Decimal.valueFrom n cs, 0, false⟩ := by
  induction cs generalizing n with
  | nil => rfl
  | cons c cs ih =>
    have hle := Decimal.le_valueFrom (n * 10 + Decimal.digitValue c) cs
    have hpush : Digits.pushWhole ⟨n, 0, false⟩ c = ⟨n * 10 + Decimal.digitValue c, 0, false⟩ := by
      rw [Digits.pushWhole, if_neg]
      simp only [Bool.false_eq_true, false_or, Nat.not_le]
      exact Nat.lt_of_le_of_lt hle h
    rw [List.foldl_cons, hpush]
    exact ih h

/-- A number of 64 bits is what its digits are read as. -/
theorem foldl_pushWhole_ofNat {n : Nat} (h : n < 2 ^ 64) :
    (Decimal.ofNat n).foldl Digits.pushWhole ⟨0, 0, false⟩ = ⟨n, 0, false⟩ := by
  have hn : Decimal.valueFrom 0 (Decimal.ofNat n) = n := Decimal.value_ofNat n
  rw [foldl_pushWhole (by rw [hn]; exact h), hn]

/-- Numbers are written with a digit at least, and none begins with a zero that more digits follow. -/
theorem not_leadingZero (n : Nat) : ¬ ((Decimal.ofNat n).isEmpty ∨
    ((Decimal.ofNat n).head? = some '0' ∧ 1 < (Decimal.ofNat n).length)) := by
  rintro (hnil | ⟨hhead, hlen⟩)
  · exact Decimal.ofNat_ne_nil n (List.isEmpty_iff.mp hnil)
  · rcases Nat.eq_zero_or_pos n with rfl | hpos
    · rw [Decimal.ofNat_zero] at hlen
      exact absurd hlen (by decide)
    · exact Decimal.head?_ofNat_ne_zero hpos hhead

/-- **A number behind its sign is read back**: a positive one as any word, a negative one if it is not
zero and fits a signed word. -/
theorem readUnsigned?_ofNat {n : Nat} {negative : Bool} {rest : List Char} (h : n < 2 ^ 64)
    (hneg : negative = true → 0 < n ∧ n ≤ 2 ^ 63) (hrest : EndsNumber rest) :
    readUnsigned? negative (Decimal.ofNat n ++ rest) =
      some (int (if negative then -n else n), rest) := by
  have hdigits : ∀ c ∈ Decimal.ofNat n, Decimal.isDigit c = true := Decimal.isDigit_of_mem_ofNat
  have hend : ∀ c ∈ rest.head?, Decimal.isDigit c = false := fun c hc => (hrest c hc).1
  have hsigned : ¬ (false = true ∨ (negative = true ∧
      ((if negative = true then -(n : Int) else n) = 0 ∨
        (if negative = true then -(n : Int) else n) < -(2 ^ 63)))) := by
    rintro (hfalse | ⟨rfl, hz⟩)
    · cases hfalse
    · obtain ⟨hpos, hle⟩ := hneg rfl
      rw [if_pos rfl] at hz
      omega
  simp only [readUnsigned?, takeWhile_append_of_head hdigits hend, dropWhile_append_of_head hdigits hend,
    foldl_pushWhole_ofNat h, if_neg (not_leadingZero n)]
  -- Neither a fraction nor an exponent follows, so the integer stands as it is.
  cases rest with
  | nil => exact if_neg hsigned
  | cons c rest =>
    obtain ⟨-, hdot, he, hE⟩ := hrest c rfl
    simp only [List.cons.injEq, hdot, he, hE, false_and, imp_self, implies_true, if_neg hsigned]

/-- **An integer of a signed or unsigned word is read back**, if the text after it ends it. -/
theorem readNumber?_ofInt {z : Int} {rest : List Char} (hmin : -2 ^ 63 ≤ z) (hmax : z < 2 ^ 64)
    (hrest : EndsNumber rest) : readNumber? (Decimal.ofInt z ++ rest) = some (int z, rest) := by
  rw [Decimal.ofInt]
  split
  · rename_i hneg
    have hread : readUnsigned? true (Decimal.ofNat z.natAbs ++ rest) = some (int (-z.natAbs), rest) :=
      readUnsigned?_ofNat (by omega) (fun _ => ⟨by omega, by omega⟩) hrest
    rw [List.cons_append, readNumber?, hread, show -(z.natAbs : Int) = z by omega]
  · rename_i hpos
    obtain ⟨c, cs, hcons⟩ := List.exists_cons_of_ne_nil (Decimal.ofNat_ne_nil z.natAbs)
    have hc : Decimal.isDigit c = true := Decimal.isDigit_of_mem_ofNat c (by rw [hcons]; simp)
    have hsign : readNumber? (Decimal.ofNat z.natAbs ++ rest) =
        readUnsigned? false (Decimal.ofNat z.natAbs ++ rest) := by
      rw [hcons, List.cons_append, readNumber?]
      rintro cs' heq
      cases heq
      exact absurd hc (by decide)
    have hread : readUnsigned? false (Decimal.ofNat z.natAbs ++ rest) = some (int z.natAbs, rest) :=
      readUnsigned?_ofNat (by omega) (fun h => Bool.noConfusion h) hrest
    rw [hsign, hread, show (z.natAbs : Int) = z by omega]

end TaskQueue.Json
