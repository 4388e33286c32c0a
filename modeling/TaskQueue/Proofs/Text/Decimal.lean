import Mathlib.Data.List.Induction
import TaskQueue.Text.Decimal

/-!
# Reading decimal numbers

A printed number is a run of digits that is read back, with leading zeros and a sign too.  `Numeral`,
`Unsigned` and `Signed` are the grammars of the texts that are read.

Principal results: `Decimal.digits?_ofNat`, `Decimal.nat?_ofNat` and `Decimal.int?_ofInt` — every number is
read back; `Decimal.length_padded` and `Decimal.digits?_padded` — a number of at most `width` digits, filled
up with zeros, has exactly that many and is read back; `Decimal.nat?_eq_some_iff` and
`Decimal.int?_eq_some_iff` — what is read is what the grammar says.
-/

set_option autoImplicit false

namespace TaskQueue.Text.Decimal

theorem isDigit_digit : ∀ n < 10, isDigit (digit n) = true := by decide

theorem digitValue_digit : ∀ n < 10, digitValue (digit n) = n := by decide

theorem value_append_singleton (cs : List Char) (c : Char) :
    value (cs ++ [c]) = value cs * 10 + digitValue c := by
  simp [value, valueFrom]

theorem value_replicate_append (k : Nat) (cs : List Char) :
    value (List.replicate k '0' ++ cs) = value cs := by
  induction k with
  | zero => rfl
  | succ k ih => rw [List.replicate_succ, List.cons_append, ← ih]; rfl

/-! ## Runs of digits -/

theorem isDigit_of_mem_ofNat {n : Nat} : ∀ c ∈ ofNat n, isDigit c = true := by
  fun_induction ofNat n with
  | case1 n hn =>
    intro c hc
    rw [List.mem_singleton.mp hc]
    exact isDigit_digit n hn
  | case2 n hn ih =>
    intro c hc
    rcases List.mem_append.mp hc with hc | hc
    · exact ih c hc
    · rw [List.mem_singleton.mp hc]
      exact isDigit_digit _ (by omega)

theorem value_ofNat (n : Nat) : value (ofNat n) = n := by
  fun_induction ofNat n with
  | case1 n hn =>
    rw [← List.nil_append [digit n], value_append_singleton, digitValue_digit n hn]
    simp [value, valueFrom]
  | case2 n hn ih =>
    rw [value_append_singleton, ih, digitValue_digit _ (by omega)]
    omega

theorem ofNat_ne_nil (n : Nat) : ofNat n ≠ [] := by
  rw [ofNat]
  split <;> simp

theorem ofNat_zero : ofNat 0 = ['0'] := by
  rw [ofNat]
  rfl

/-- Only zero begins with a zero. -/
theorem head?_ofNat_ne_zero {n : Nat} (h : 0 < n) : (ofNat n).head? ≠ some '0' := by
  have hdigit : ∀ d < 10, 0 < d → digit d ≠ '0' := by decide
  fun_induction ofNat n with
  | case1 n hn =>
    rw [List.head?_cons, ne_eq, Option.some.injEq]
    exact hdigit n hn h
  | case2 n hn ih =>
    obtain ⟨c, cs, hcons⟩ := List.exists_cons_of_ne_nil (ofNat_ne_nil (n / 10))
    have hhead := ih (by omega)
    rw [hcons] at hhead ⊢
    exact hhead

theorem le_valueFrom (n : Nat) (cs : List Char) : n ≤ valueFrom n cs := by
  induction cs generalizing n with
  | nil => exact Nat.le_refl n
  | cons c cs ih =>
    have hnext := ih (n * 10 + digitValue c)
    show n ≤ valueFrom (n * 10 + digitValue c) cs
    omega

theorem length_ofNat_le {n width : Nat} (hpos : 0 < width) (h : n < 10 ^ width) :
    (ofNat n).length ≤ width := by
  induction width generalizing n with
  | zero => omega
  | succ w ih =>
    rw [ofNat]
    split
    · simp
    · have hw : 0 < w := by
        cases w with
        | zero => omega
        | succ w => exact Nat.succ_pos w
      have hdiv : n / 10 < 10 ^ w := by
        rw [Nat.div_lt_iff_lt_mul (by omega), ← Nat.pow_succ]
        exact h
      have := ih hw hdiv
      rw [List.length_append, List.length_singleton]
      omega

theorem digits?_of_forall {cs : List Char} (hne : cs ≠ []) (h : ∀ c ∈ cs, isDigit c = true) :
    digits? cs = some (value cs) := by
  rw [digits?, if_pos]
  rw [Bool.and_eq_true, List.all_eq_true]
  exact ⟨by simp [hne], h⟩

theorem digits?_eq_none {cs : List Char} {c : Char} (hmem : c ∈ cs) (h : isDigit c = false) :
    digits? cs = none := by
  rw [digits?, if_neg]
  rw [Bool.and_eq_true, List.all_eq_true]
  rintro ⟨-, hall⟩
  rw [hall c hmem] at h
  cases h

theorem digits?_ofNat (n : Nat) : digits? (ofNat n) = some n := by
  rw [digits?_of_forall (ofNat_ne_nil n) isDigit_of_mem_ofNat, value_ofNat]

/-! ## Signs -/

/-- A text that begins with a digit has no sign. -/
theorem nat?_of_forall {cs : List Char} (h : ∀ c ∈ cs, isDigit c = true) : nat? cs = digits? cs := by
  unfold nat?
  split
  · exact absurd (h '+' (by simp)) (by decide)
  · rfl

theorem int?_of_forall {cs : List Char} (h : ∀ c ∈ cs, isDigit c = true) :
    int? cs = (digits? cs).map Int.ofNat := by
  unfold int?
  split
  · exact absurd (h '+' (by simp)) (by decide)
  · exact absurd (h '-' (by simp)) (by decide)
  · rfl

theorem nat?_ofNat (n : Nat) : nat? (ofNat n) = some n := by
  rw [nat?_of_forall isDigit_of_mem_ofNat, digits?_ofNat]

theorem int?_ofInt (z : Int) : int? (ofInt z) = some z := by
  rw [ofInt]
  split
  · rw [int?, digits?_ofNat]
    show some (-(z.natAbs : Int)) = some z
    rw [show -(z.natAbs : Int) = z by omega]
  · rw [int?_of_forall isDigit_of_mem_ofNat, digits?_ofNat]
    show some (z.natAbs : Int) = some z
    rw [show (z.natAbs : Int) = z by omega]

theorem int32?_ofInt (n : Int32) : int32? (ofInt n.toInt) = some n := by
  rw [int32?, int?_ofInt]
  show (if _ then some (Int32.ofInt n.toInt) else none) = some n
  rw [if_pos ⟨n.minValue_le_toInt, n.toInt_le⟩, Int32.ofInt_toInt]

/-! ## Leading zeros -/

theorem length_padded {width n : Nat} (hpos : 0 < width) (h : n < 10 ^ width) :
    (padded width n).length = width := by
  have := length_ofNat_le hpos h
  rw [padded, List.length_append, List.length_replicate]
  omega

theorem isDigit_of_mem_padded {width n : Nat} : ∀ c ∈ padded width n, isDigit c = true := by
  intro c hc
  rcases List.mem_append.mp hc with hc | hc
  · rw [List.eq_of_mem_replicate hc]
    rfl
  · exact isDigit_of_mem_ofNat c hc

theorem value_padded (width n : Nat) : value (padded width n) = n := by
  rw [padded, value_replicate_append, value_ofNat]

theorem padded_ne_nil (width n : Nat) : padded width n ≠ [] := by
  simp [padded, ofNat_ne_nil]

theorem digits?_padded (width n : Nat) : digits? (padded width n) = some n := by
  rw [digits?_of_forall (padded_ne_nil width n) isDigit_of_mem_padded, value_padded]

/-! ## The texts that are numbers -/

/-- A run of digits and the number it stands for. -/
inductive Numeral : List Char → Nat → Prop
  | digit {c : Char} : isDigit c = true → Numeral [c] (digitValue c)
  | snoc {cs : List Char} {n : Nat} {c : Char} :
      Numeral cs n → isDigit c = true → Numeral (cs ++ [c]) (n * 10 + digitValue c)

/-- A count: a run of digits, perhaps after a `+`. -/
inductive Unsigned : List Char → Nat → Prop
  | bare {cs : List Char} {n : Nat} : Numeral cs n → Unsigned cs n
  | plus {cs : List Char} {n : Nat} : Numeral cs n → Unsigned ('+' :: cs) n

/-- A signed number: a run of digits, perhaps after a `+` or a `-`. -/
inductive Signed : List Char → Int → Prop
  | bare {cs : List Char} {n : Nat} : Numeral cs n → Signed cs n
  | plus {cs : List Char} {n : Nat} : Numeral cs n → Signed ('+' :: cs) n
  | minus {cs : List Char} {n : Nat} : Numeral cs n → Signed ('-' :: cs) (-n)

theorem Numeral.isDigit_of_mem {cs : List Char} {n : Nat} (h : Numeral cs n) :
    ∀ c ∈ cs, isDigit c = true := by
  induction h with
  | digit h => simpa using h
  | snoc _ h ih =>
    intro c hc
    rcases List.mem_append.mp hc with hc | hc
    · exact ih c hc
    · rw [List.mem_singleton.mp hc]
      exact h

theorem Numeral.ne_nil {cs : List Char} {n : Nat} (h : Numeral cs n) : cs ≠ [] := by
  cases h <;> simp

theorem Numeral.value_eq {cs : List Char} {n : Nat} (h : Numeral cs n) : value cs = n := by
  induction h with
  | digit _ => simp [value, valueFrom]
  | snoc _ _ ih => rw [value_append_singleton, ih]

theorem numeral_of_forall {cs : List Char} (hne : cs ≠ []) (h : ∀ c ∈ cs, isDigit c = true) :
    Numeral cs (value cs) := by
  induction cs using List.reverseRecOn with
  | nil => exact absurd rfl hne
  | append_singleton front c ih =>
    have hc : isDigit c = true := h c (by simp)
    rw [value_append_singleton]
    cases front with
    | nil => simpa [value, valueFrom] using Numeral.digit hc
    | cons a front => exact (ih (by simp) fun d hd => h d (List.mem_append_left _ hd)).snoc hc

theorem digits?_eq_some_iff {cs : List Char} {n : Nat} : digits? cs = some n ↔ Numeral cs n := by
  constructor
  · intro h
    rw [digits?, Option.ite_none_right_eq_some, Bool.and_eq_true, List.all_eq_true] at h
    obtain ⟨⟨hne, hall⟩, hvalue⟩ := h
    cases hvalue
    exact numeral_of_forall (by simpa using hne) hall
  · intro h
    rw [digits?_of_forall h.ne_nil h.isDigit_of_mem, h.value_eq]

/-- **The texts that are read as counts** are those of the grammar. -/
theorem nat?_eq_some_iff {cs : List Char} {n : Nat} : nat? cs = some n ↔ Unsigned cs n := by
  constructor
  · intro h
    rw [nat?.eq_def] at h
    split at h
    · exact .plus (digits?_eq_some_iff.mp h)
    · exact .bare (digits?_eq_some_iff.mp h)
  · intro h
    cases h with
    | bare h => rw [nat?_of_forall h.isDigit_of_mem, digits?_eq_some_iff.mpr h]
    | plus h => rw [nat?, digits?_eq_some_iff.mpr h]

/-- **The texts that are read as signed numbers** are those of the grammar. -/
theorem int?_eq_some_iff {cs : List Char} {z : Int} : int? cs = some z ↔ Signed cs z := by
  constructor
  · intro h
    rw [int?.eq_def] at h
    split at h
    · obtain ⟨n, hn, rfl⟩ := Option.map_eq_some_iff.mp h
      exact .plus (digits?_eq_some_iff.mp hn)
    · obtain ⟨m, hm, rfl⟩ := Option.map_eq_some_iff.mp h
      obtain ⟨n, hn, hnm⟩ := Option.bind_eq_some_iff.mp hm
      cases hnm
      exact .minus (digits?_eq_some_iff.mp hn)
    · obtain ⟨n, hn, rfl⟩ := Option.map_eq_some_iff.mp h
      exact .bare (digits?_eq_some_iff.mp hn)
  · intro h
    cases h with
    | bare h =>
      rw [int?_of_forall h.isDigit_of_mem, digits?_eq_some_iff.mpr h]
      rfl
    | plus h | minus h =>
      rw [int?, digits?_eq_some_iff.mpr h]
      rfl

theorem int32?_eq_some_iff {cs : List Char} {n : Int32} : int32? cs = some n ↔ Signed cs n.toInt := by
  rw [← int?_eq_some_iff, int32?]
  constructor
  · intro h
    obtain ⟨z, hz, hn⟩ := Option.bind_eq_some_iff.mp h
    obtain ⟨⟨hmin, hmax⟩, heq⟩ := Option.ite_none_right_eq_some.mp hn
    cases heq
    rw [hz, Int32.toInt_ofInt_of_le hmin (Int.lt_of_le_of_lt hmax (by decide))]
  · intro h
    rw [h]
    show (if _ then some (Int32.ofInt n.toInt) else none) = some n
    rw [if_pos ⟨n.minValue_le_toInt, n.toInt_le⟩, Int32.ofInt_toInt]

theorem int64?_eq_some_iff {cs : List Char} {n : Int64} : int64? cs = some n ↔ Signed cs n.toInt := by
  rw [← int?_eq_some_iff, int64?]
  constructor
  · intro h
    obtain ⟨z, hz, hn⟩ := Option.bind_eq_some_iff.mp h
    obtain ⟨⟨hmin, hmax⟩, heq⟩ := Option.ite_none_right_eq_some.mp hn
    cases heq
    rw [hz, Int64.toInt_ofInt_of_le hmin (Int.lt_of_le_of_lt hmax (by decide))]
  · intro h
    rw [h]
    show (if _ then some (Int64.ofInt n.toInt) else none) = some n
    rw [if_pos ⟨n.minValue_le_toInt, n.toInt_le⟩, Int64.ofInt_toInt]

end TaskQueue.Text.Decimal
