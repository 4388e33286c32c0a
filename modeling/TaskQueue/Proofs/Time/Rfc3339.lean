import TaskQueue.Proofs.Text.Decimal
import TaskQueue.Proofs.Time.Calendar
import TaskQueue.Time.Rfc3339

/-!
# Reading times that were printed

A time in a year of four digits is printed so that it is read back, to the nanosecond and in leap seconds.
The sign in front of any other year is no digit, so what is printed then is not read as a time.

Principal results: `Rfc3339.read?_print` — every time in a year of four digits is read back;
`Rfc3339.read?_print_of_signed` — no other time is; `Rfc3339.read?_of_signed` — a number is no time.
-/

set_option autoImplicit false

namespace TaskQueue.Rfc3339

open Text

/-- The date on which an instant lies. -/
def dateOf (t : Instant) : Date := Date.ofDays (t.second / 86400)

/-- Whether a year is written with four digits and no sign. -/
def FourDigits (year : Int) : Prop := 0 ≤ year ∧ year ≤ 9999

instance (year : Int) : Decidable (FourDigits year) :=
  inferInstanceAs (Decidable (0 ≤ year ∧ year ≤ 9999))

/-- A year is written with four digits from the second on with which the year 0000 begins, up to the one
with which the year 10000 begins. -/
theorem fourDigits_year_iff {t : Instant} :
    FourDigits (dateOf t).year ↔ -62167219200 ≤ t.second ∧ t.second < 253402300800 := by
  have hfirst : 0 ≤ (dateOf t).year ↔ -719528 ≤ t.second / 86400 := Date.le_year_ofDays_iff
  have hend : 10000 ≤ (dateOf t).year ↔ 2932897 ≤ t.second / 86400 := Date.le_year_ofDays_iff
  rw [FourDigits]
  omega

/-! ## Numbers of a fixed width -/

theorem readDigits?_append {width n : Nat} {front : List Char} (rest : List Char)
    (hlen : front.length = width) (hn : Decimal.digits? front = some n) :
    readDigits? width (front ++ rest) = some (n, rest) := by
  rw [readDigits?, List.splitAt_eq, List.take_left' hlen, List.drop_left' hlen]
  simp only [if_pos hlen, hn, Option.map_some]

theorem readDigits?_padded {width n : Nat} (rest : List Char) (hpos : 0 < width)
    (h : n < 10 ^ width) :
    readDigits? width (Decimal.padded width n ++ rest) = some (n, rest) :=
  readDigits?_append rest (Decimal.length_padded hpos h) (Decimal.digits?_padded width n)

theorem readDigits?_two {n : Nat} (rest : List Char) (h : n < 100) :
    readDigits? 2 (two n ++ rest) = some (n, rest) :=
  readDigits?_padded rest (by decide) h

/-- A number does not begin with a sign. -/
theorem readDigits?_sign {width : Nat} {c : Char} (hc : Decimal.isDigit c = false)
    (hpos : 0 < width) (rest : List Char) : readDigits? width (c :: rest) = none := by
  cases width with
  | zero => omega
  | succ w =>
    rw [readDigits?, List.splitAt_eq, List.take_succ_cons]
    simp only [Decimal.digits?_eq_none (List.mem_cons_self (a := c)) hc, Option.map_none, ite_self]

/-! ## Fractions -/

/-- A fraction of `width` digits counts in units of which a second has `10 ^ width`. -/
theorem readFraction?_padded {width n : Nat} (rest : List Char) (hpos : 0 < width) (hwidth : width ≤ 9)
    (h : n < 10 ^ width) :
    readFraction? ('.' :: Decimal.padded width n ++ '+' :: rest) =
      some (n * 10 ^ (9 - width), '+' :: rest) := by
  have htake : (Decimal.padded width n ++ '+' :: rest).takeWhile Decimal.isDigit =
      Decimal.padded width n := by
    rw [List.takeWhile_append_of_pos Decimal.isDigit_of_mem_padded,
      List.takeWhile_cons_of_neg (by decide), List.append_nil]
  have hdrop : (Decimal.padded width n ++ '+' :: rest).dropWhile Decimal.isDigit = '+' :: rest := by
    rw [List.dropWhile_append_of_pos Decimal.isDigit_of_mem_padded,
      List.dropWhile_cons_of_neg (by decide)]
  have hlen := Decimal.length_padded hpos h
  rw [List.cons_append, readFraction?, htake, hdrop]
  have hkept : (Decimal.padded width n).take 9 = Decimal.padded width n :=
    List.take_of_length_le (by omega)
  simp only [hkept, Decimal.value_padded, hlen,
    List.isEmpty_eq_false_iff.mpr (Decimal.padded_ne_nil width n)]
  rfl

/-- A fraction in the fewest digits is read back. -/
theorem readFraction?_printFraction {nano : Nat} (rest : List Char) (h : nano < nanosPerSecond) :
    readFraction? (printFraction nano ++ '+' :: rest) = some (nano, '+' :: rest) := by
  rw [nanosPerSecond] at h
  rw [printFraction]
  split
  · rename_i hzero
    rw [hzero]
    rfl
  · split
    · rw [readFraction?_padded rest (by decide) (by decide) (by omega)]
      congr 2
      omega
    · split
      · rw [readFraction?_padded rest (by decide) (by decide) (by omega)]
        congr 2
        omega
      · rw [readFraction?_padded rest (by decide) (by decide) (by omega)]
        congr 2
        omega

/-! ## Times -/

/-- A time in UTC with its date, every part in its width. -/
def written (year month day hour minute second nano : Nat) : List Char :=
  Decimal.padded 4 year ++ '-' :: (two month ++ '-' :: (two day ++ 'T' :: (two hour ++
    ':' :: (two minute ++ ':' :: (two second ++ (printFraction nano ++ '+' :: ['0', '0', ':', '0', '0']))))))

/-- **The parts of a time are read back**, whether or not there is such a time. -/
theorem read?_written {year month day hour minute second nano : Nat} (hyear : year < 10 ^ 4)
    (hmonth : month < 100) (hday : day < 100) (hhour : hour < 100) (hminute : minute < 100)
    (hsecond : second < 100) (hnano : nano < nanosPerSecond) :
    read? (written year month day hour minute second nano) =
      if (⟨year, month, day⟩ : Date).isValid ∧ hour ≤ 23 ∧ minute ≤ 59 ∧ second ≤ 60 then
        Instant.ofParts?
          ((⟨year, month, day⟩ : Date).toDays * 86400 + hour * 3600 + minute * 60 +
            (second - (if second = 60 then 1 else 0) : Nat))
          (nano + (if second = 60 then 1 else 0) * nanosPerSecond)
      else none := by
  have hoffset : readOffset? ['+', '0', '0', ':', '0', '0'] = some 0 := rfl
  rw [written, read?, readDigits?_padded _ (by decide) hyear]
  simp only [Option.bind_eq_bind, Option.bind_some, readDigits?_two _ hmonth, readDigits?_two _ hday,
    readDigits?_two _ hhour, readDigits?_two _ hminute, readDigits?_two _ hsecond,
    readFraction?_printFraction _ hnano, hoffset, readOne?, decide_true, Bool.true_or, if_true,
    Int.sub_zero]

/-- How many seconds a leap second adds to the second of its minute. -/
def leapOf (t : Instant) : Nat := if t.isLeap then 1 else 0

theorem printYear_of_fourDigits {year : Int} (h : FourDigits year) :
    printYear year = Decimal.padded 4 year.toNat := if_pos h

theorem print_eq {t : Instant} (h : FourDigits (dateOf t).year) :
    print t = written (dateOf t).year.toNat (dateOf t).month (dateOf t).day
      (t.secondOfDay.toNat / 3600) (t.secondOfDay.toNat / 60 % 60)
      (t.secondOfDay.toNat % 60 + leapOf t) (t.nano - leapOf t * nanosPerSecond) := by
  rw [written, ← printYear_of_fourDigits h, print]
  simp only [List.append_assoc, List.cons_append]
  rfl

/-- A second printed as 60 is a leap second, and what is left of its position is below one second. -/
theorem leapOf_spec (t : Instant) :
    (if t.secondOfDay.toNat % 60 + leapOf t = 60 then 1 else 0) = leapOf t ∧
      t.secondOfDay.toNat % 60 + leapOf t ≤ 60 ∧
      t.nano - leapOf t * nanosPerSecond < nanosPerSecond ∧
      leapOf t * nanosPerSecond ≤ t.nano := by
  have hnano := t.nano_lt
  have hleap := t.leap
  have hsecond : t.secondOfDay.toNat % 60 = (t.second % 60).toNat := by
    rw [Instant.secondOfDay]
    omega
  rw [hsecond]
  by_cases h : nanosPerSecond ≤ t.nano
  · have hleapOf : leapOf t = 1 := if_pos (decide_eq_true h)
    have hlast := hleap h
    rw [hleapOf, if_pos (by omega)]
    omega
  · have hleapOf : leapOf t = 0 := if_neg (by simpa [Instant.isLeap] using h)
    rw [hleapOf, if_neg (by omega)]
    omega

theorem month_day_lt {d : Date} (h : d.isValid = true) : d.month < 100 ∧ d.day < 100 := by
  simp only [Date.isValid, Bool.and_eq_true, decide_eq_true_eq] at h
  have hle : Date.daysInMonth d.year d.month ≤ 31 := by
    rw [Date.daysInMonth]
    split
    · split <;> omega
    · split <;> omega
  omega

/-- **A time in a year of four digits is read back.** -/
theorem read?_print {t : Instant} (h : FourDigits (dateOf t).year) : read? (print t) = some t := by
  obtain ⟨hsixty, hsecond, hnano, hleap⟩ := leapOf_spec t
  have hvalid : (dateOf t).isValid = true := Date.isValid_ofDays _
  have hdays : (dateOf t).toDays = t.second / 86400 := Date.toDays_ofDays _
  have hdate : (⟨(dateOf t).year.toNat, (dateOf t).month, (dateOf t).day⟩ : Date) = dateOf t := by
    rw [Int.toNat_of_nonneg h.1]
  have hday : t.secondOfDay.toNat < 86400 ∧ (t.secondOfDay.toNat : Int) = t.second % 86400 := by
    rw [Instant.secondOfDay]
    omega
  obtain ⟨hmonth, hmday⟩ := month_day_lt hvalid
  rw [print_eq h, read?_written (by have := h.2; omega) hmonth hmday (by omega) (by omega) (by omega)
    hnano, hdate, if_pos ⟨hvalid, by omega, by omega, hsecond⟩, hsixty, hdays, Nat.sub_add_cancel hleap,
    Nat.add_sub_cancel]
  rw [show t.second / 86400 * 86400 + ↑(t.secondOfDay.toNat / 3600) * 3600 +
    ↑(t.secondOfDay.toNat / 60 % 60) * 60 + ↑(t.secondOfDay.toNat % 60) = t.second by omega]
  exact t.ofParts?_parts

/-- Any other year is printed with a sign in front. -/
theorem print_eq_of_signed {t : Instant} (h : ¬ FourDigits (dateOf t).year) :
    ∃ sign rest, print t = sign :: rest ∧ (sign = '+' ∨ sign = '-') ∧ 'T' ∈ rest := by
  have hyear : ¬ (0 ≤ (dateOf t).year ∧ (dateOf t).year ≤ 9999) := h
  rw [print, printYear, ← dateOf, if_neg hyear]
  simp only [List.cons_append]
  refine ⟨_, _, rfl, ?_, by simp⟩
  split
  · exact Or.inr rfl
  · exact Or.inl rfl

/-- **What is printed of a time in any other year is not read**, neither as a time nor as a number. -/
theorem read?_print_of_signed {t : Instant} (h : ¬ FourDigits (dateOf t).year) :
    read? (print t) = none ∧ Decimal.int64? (print t) = none := by
  obtain ⟨sign, rest, hprint, hsign, hmem⟩ := print_eq_of_signed h
  have hrest : Decimal.digits? rest = none := Decimal.digits?_eq_none hmem (by decide)
  rw [hprint]
  rcases hsign with rfl | rfl
  · rw [read?, readDigits?_sign (by decide) (by decide), Decimal.int64?, Decimal.int?, hrest]
    exact ⟨rfl, rfl⟩
  · rw [read?, readDigits?_sign (by decide) (by decide), Decimal.int64?, Decimal.int?, hrest]
    exact ⟨rfl, rfl⟩

/-! ## Numbers -/

theorem drop_of_readDigits? {width n : Nat} {cs rest : List Char}
    (h : readDigits? width cs = some (n, rest)) : rest = cs.drop width := by
  rw [readDigits?, List.splitAt_eq] at h
  obtain ⟨-, h⟩ := Option.ite_none_right_eq_some.mp h
  obtain ⟨m, -, hm⟩ := Option.map_eq_some_iff.mp h
  cases hm
  rfl

/-- **A number is not read as a time**: a fourth digit is followed by another one or by nothing. -/
theorem read?_of_signed {cs : List Char} {z : Int} (h : Decimal.Signed cs z) : read? cs = none := by
  cases h with
  | plus h | minus h =>
    rw [read?, readDigits?_sign (by decide) (by decide)]
    rfl
  | bare h =>
    rw [read?]
    cases hyear : readDigits? 4 cs with
    | none => rfl
    | some year =>
      obtain ⟨year, rest⟩ := year
      have hdash : readOne? (· = '-') rest = none := by
        rw [drop_of_readDigits? hyear]
        cases hrest : cs.drop 4 with
        | nil => rfl
        | cons c more =>
          refine if_neg fun hc => ?_
          have hdigit : Decimal.isDigit c = true :=
            h.isDigit_of_mem c (List.mem_of_mem_drop (hrest ▸ List.mem_cons_self))
          rw [of_decide_eq_true hc] at hdigit
          exact absurd hdigit (by decide)
      simp only [Option.bind_eq_bind, Option.bind_some, hdash, Option.bind_none]

end TaskQueue.Rfc3339
