import TaskQueue.Time.Calendar

/-!
# Days and dates

A cycle of 400 years has four centuries of 36524 days and one day more; a century has 25 runs of four
years, of 1461 days each, of which the last one is a day short.  The year of a day is found by counting
every year as 365 days once the leap days before it are taken off.

Principal results: `Date.yearOfCycle_spec` — the year found for a day of a cycle; `Date.toDays_ofDays` —
the date of a day is the date of that day and no other; `Date.isValid_ofDays` — it exists in the calendar;
`Date.le_year_ofDays_iff` — the days from which on a year is reached.
-/

set_option autoImplicit false

namespace TaskQueue.Date

/-- The days of a cycle up to a year that begins in March. -/
def daysBefore (year : Int) : Int := 365 * year + year / 4 - year / 100

/-- A day of a cycle that is not its last day lies in a century and in a run of four years. -/
theorem exists_run {d : Int} (h0 : 0 ≤ d) (h1 : d < 146096) :
    ∃ century run s : Int, d = 36524 * century + 1461 * run + s ∧ 0 ≤ century ∧ century ≤ 3 ∧
      0 ≤ run ∧ run ≤ 24 ∧ 0 ≤ s ∧ s ≤ 1460 ∧ (run = 24 → s < 1460) :=
  ⟨d / 36524, d % 36524 / 1461, d % 36524 % 1461, by omega, by omega, by omega, by omega, by omega,
    by omega, by omega, by omega⟩

/-- **The year of a day of a cycle** begins at most 365 days before it, and the one after it is a leap year
if there are as many. -/
theorem yearOfCycle_spec {d year : Int} (h0 : 0 ≤ d) (h1 : d < 146097)
    (hyear : year = (d - d / 1460 + d / 36524 - d / 146096) / 365) :
    0 ≤ year ∧ year < 400 ∧ 0 ≤ d - daysBefore year ∧ d - daysBefore year ≤ 365 ∧
      (d - daysBefore year = 365 →
        (year + 1) % 4 = 0 ∧ ((year + 1) % 100 ≠ 0 ∨ (year + 1) % 400 = 0)) := by
  by_cases hlast : d = 146096
  · subst hlast
    obtain rfl : year = 399 := hyear
    decide
  · obtain ⟨c, r, s, rfl, hc0, hc, hr0, hr, hs0, hs, hshort⟩ := exists_run h0 (by omega)
    have hcentury : (36524 * c + 1461 * r + s) / 36524 = c := by omega
    have hcycle : (36524 * c + 1461 * r + s) / 146096 = 0 := by omega
    have hleaps : (36524 * c + 1461 * r + s) / 1460 = 25 * c + r + (24 * c + r + s) / 1460 := by omega
    -- The year of the run: the day taken off for the run's own leap day keeps that day in the fourth.
    obtain ⟨t, rfl, ht0, ht, hle, hlt⟩ : ∃ t, year = 100 * c + 4 * r + t ∧ 0 ≤ t ∧ t ≤ 3 ∧
        365 * t ≤ s ∧ (s < 365 * t + 365 ∨ t = 3 ∧ s = 1460) := by
      rw [hcentury, hcycle, hleaps] at hyear
      exact ⟨(s - (24 * c + r + s) / 1460) / 365, by omega, by omega, by omega, by omega, by omega⟩
    have h4 : (100 * c + 4 * r + t) / 4 = 25 * c + r := by omega
    have h100 : (100 * c + 4 * r + t) / 100 = c := by omega
    rw [daysBefore, h4, h100]
    refine ⟨by omega, by omega, by omega, by omega, ?_⟩
    intro hday
    obtain ⟨rfl, rfl⟩ : t = 3 ∧ s = 1460 := by omega
    omega

/-- The months of a year that begins in March, and the days of the months. -/
theorem month_spec {n month : Int} (h0 : 0 ≤ n) (h1 : n ≤ 365) (hmonth : month = (5 * n + 2) / 153) :
    0 ≤ month ∧ month ≤ 11 ∧ 0 ≤ n - (153 * month + 2) / 5 ∧
      n - (153 * month + 2) / 5 ≤ 30 ∧
      (month = 1 ∨ month = 3 ∨ month = 6 ∨ month = 8 → n - (153 * month + 2) / 5 ≤ 29) ∧
      (month = 11 → n - (153 * month + 2) / 5 ≤ 28 ∧ (n - (153 * month + 2) / 5 = 28 → n = 365)) := by
  omega

/-- **A date stands for a day of a cycle**: which cycle and year, and which month and day of that year, both
counted from March. -/
theorem exists_ofDays_eq (n : Int) :
    ∃ cycle year : Int, ∃ month day : Nat,
      n + 719468 = 146097 * cycle + daysBefore year + ((153 * month + 2) / 5 + day : Nat) ∧
      0 ≤ year ∧ year < 400 ∧ month ≤ 11 ∧ day ≤ 30 ∧
      (month = 1 ∨ month = 3 ∨ month = 6 ∨ month = 8 → day ≤ 29) ∧
      (month = 11 → day ≤ 28 ∧ (day = 28 → isLeapYear (year + 1) = true)) ∧
      ofDays n =
        if month < 10 then ⟨year + cycle * 400, month + 3, day + 1⟩
        else ⟨year + cycle * 400 + 1, month - 9, day + 1⟩ := by
  have hcycle : n + 719468 = 146097 * ((n + 719468) / 146097) + (n + 719468) % 146097 := by omega
  have hd0 : 0 ≤ (n + 719468) % 146097 := by omega
  have hd1 : (n + 719468) % 146097 < 146097 := by omega
  simp only [ofDays]
  generalize (n + 719468) % 146097 = d at hcycle hd0 hd1 ⊢
  generalize (n + 719468) / 146097 = cycle at hcycle ⊢
  generalize hyear : (d - d / 1460 + d / 36524 - d / 146096) / 365 = year
  obtain ⟨hy0, hy1, hn0, hn1, hleap⟩ := yearOfCycle_spec hd0 hd1 hyear.symm
  rw [show 365 * year + year / 4 - year / 100 = daysBefore year from rfl]
  generalize hn : d - daysBefore year = n' at hn0 hn1 hleap ⊢
  generalize hmonth : (5 * n' + 2) / 153 = month
  obtain ⟨hm0, hm1, hday0, hday1, hshort, hlast⟩ := month_spec hn0 hn1 hmonth.symm
  obtain ⟨month, rfl⟩ := Int.eq_ofNat_of_zero_le hm0
  obtain ⟨day, hday⟩ := Int.eq_ofNat_of_zero_le hday0
  rw [hday] at hday1 hshort hlast
  refine ⟨cycle, year, month, day, by omega, hy0, hy1, by omega, by omega, by omega, ?_, ?_⟩
  · intro hm
    obtain ⟨hle, hfeb⟩ := hlast (by omega)
    refine ⟨by omega, fun hd => ?_⟩
    obtain ⟨h4, h100⟩ := hleap (hfeb (by omega))
    rw [isLeapYear, Bool.and_eq_true, Bool.or_eq_true, beq_iff_eq, bne_iff_ne, beq_iff_eq]
    exact ⟨h4, h100⟩
  · rw [Int.toNat_natCast, hday]
    rfl

/-- **The date of a day is the date of that day.** -/
theorem toDays_ofDays (n : Int) : (ofDays n).toDays = n := by
  obtain ⟨cycle, year, month, day, hn, hy0, hy1, hm, -, -, -, hdate⟩ := exists_ofDays_eq n
  rw [daysBefore] at hn
  rw [hdate, toDays]
  split
  · rename_i hlt
    simp only [if_neg (show ¬ month + 3 ≤ 2 by omega)]
    omega
  · rename_i hge
    simp only [if_pos (show month - 9 ≤ 2 by omega)]
    omega

theorem isLeapYear_add_cycle (year cycle : Int) :
    isLeapYear (year + cycle * 400 + 1) = isLeapYear (year + 1) := by
  have h4 : (year + cycle * 400 + 1) % 4 = (year + 1) % 4 := by omega
  have h100 : (year + cycle * 400 + 1) % 100 = (year + 1) % 100 := by omega
  have h400 : (year + cycle * 400 + 1) % 400 = (year + 1) % 400 := by omega
  rw [isLeapYear, h4, h100, h400, isLeapYear]

/-- **Every date of a day exists in the calendar.** -/
theorem isValid_ofDays (n : Int) : (ofDays n).isValid = true := by
  obtain ⟨cycle, year, month, day, -, -, -, hm, hd, hshort, hlast, hdate⟩ := exists_ofDays_eq n
  rw [hdate]
  split
  · rename_i hlt
    simp only [isValid, daysInMonth, Bool.and_eq_true, decide_eq_true_eq,
      if_neg (show ¬ month + 3 = 2 by omega)]
    split <;> omega
  · rename_i hge
    obtain rfl | rfl : month = 10 ∨ month = 11 := by omega
    · simp only [isValid, daysInMonth, Bool.and_eq_true, decide_eq_true_eq]
      rw [if_neg (by decide), if_neg (by decide)]
      omega
    · obtain ⟨hday, hleap⟩ := hlast rfl
      simp only [isValid, daysInMonth, Bool.and_eq_true, decide_eq_true_eq, isLeapYear_add_cycle]
      rw [if_pos (by decide)]
      split
      · omega
      · rename_i hshort
        have hne : day ≠ 28 := fun h => hshort (hleap h)
        omega

/-! ## The days of a year -/

/-- The days from 1970-01-01 to the first of January of a year. -/
def firstDay (year : Int) : Int :=
  365 * (year - 1) + (year - 1) / 4 - (year - 1) / 100 + (year - 1) / 400 - 719162

theorem firstDay_mono {y z : Int} (h : y ≤ z) : firstDay y ≤ firstDay z := by
  rw [firstDay, firstDay]
  omega

/-- A leap year has 366 days, any other year has 365. -/
theorem firstDay_succ (year : Int) :
    firstDay (year + 1) = firstDay year + (if isLeapYear year then 366 else 365) := by
  simp only [firstDay, isLeapYear, Bool.and_eq_true, Bool.or_eq_true, beq_iff_eq, bne_iff_ne]
  split <;> omega

/-- The years before a year, counted in cycles and in years of a cycle. -/
theorem cycles_eq_firstDay (year : Int) :
    year / 400 * 146097 + (year % 400 * 365 + year % 400 / 4 - year % 400 / 100) =
      firstDay (year + 1) + 719162 := by
  rw [firstDay]
  omega

/-- **A date lies in its year.** -/
theorem toDays_bounds {d : Date} (h : d.isValid = true) :
    firstDay d.year ≤ d.toDays ∧ d.toDays < firstDay (d.year + 1) := by
  obtain ⟨year, month, day⟩ := d
  simp only [isValid, Bool.and_eq_true, decide_eq_true_eq, daysInMonth] at h
  obtain ⟨⟨⟨h1, h12⟩, hday⟩, hlast⟩ := h
  have hyear := firstDay_succ year
  rw [toDays]
  dsimp only
  split
  · -- January and February follow the months that are counted from March of the year before.
    have hcycles := cycles_eq_firstDay (year - 1)
    rw [Int.sub_add_cancel] at hcycles
    obtain rfl | rfl : month = 1 ∨ month = 2 := by omega
    · have hjanuary : day ≤ 31 := hlast
      split at hyear <;> omega
    · have hfebruary : day ≤ if isLeapYear year then 29 else 28 := hlast
      split at hfebruary
      · rename_i hleap
        rw [if_pos hleap] at hyear
        omega
      · rename_i hleap
        rw [if_neg hleap] at hyear
        omega
  · have hcycles := cycles_eq_firstDay year
    have hmonths : 1 ≤ (153 * (month - 3) + 2) / 5 + day ∧ (153 * (month - 3) + 2) / 5 + day ≤ 306 := by
      rw [if_neg (by omega)] at hlast
      split at hlast <;> omega
    split at hyear <;> omega

/-- The dates from the first of January of a year on are those of this year and of the years after it. -/
theorem firstDay_le_toDays_iff {d : Date} (h : d.isValid = true) {year : Int} :
    firstDay year ≤ d.toDays ↔ year ≤ d.year := by
  obtain ⟨hfirst, hlast⟩ := toDays_bounds h
  constructor
  · intro hle
    refine Int.not_lt.mp fun hlt => ?_
    have hmono : firstDay (d.year + 1) ≤ firstDay year := firstDay_mono (by omega)
    omega
  · intro hle
    exact Int.le_trans (firstDay_mono hle) hfirst

/-- **The year of a day** is at least `year` from the first day of `year` on. -/
theorem le_year_ofDays_iff {year n : Int} : year ≤ (ofDays n).year ↔ firstDay year ≤ n := by
  rw [← firstDay_le_toDays_iff (isValid_ofDays n), toDays_ofDays]

end TaskQueue.Date
