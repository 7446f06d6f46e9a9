import LogGate.Time.Calendar

/-!
# Days found by their numbers

The calendar has the day that `Date.ofDayNumber` finds (`isValid_ofDayNumber`), and that day has the
number it was found by (`dayNumber_ofDayNumber`). A day is best known by its year and its place in
the year when years begin in March (`Date.ofMarch`): months then have their days before them by one
formula, and a leap year differs from the others in its last day alone. What is left is that the
four divisions of a cycle of 400 years find the year and the place (`ofDayNumber_eq_ofMarch`). They
take the cycle apart into centuries, spans of four years, years and days, of which the last of each
kind may be longer than the others (`exists_parts_of_cycle`).
-/

namespace LogGate.Time

section
variable {year : Int} {inYear inCycle centuries spans years days : Nat}

/-! ## Years from March -/

/-- The day with a place in a year from March on. -/
def Date.ofMarch (year : Int) (inYear : Nat) : Date :=
  let sinceMarch := (5 * inYear + 2) / 153
  let month := if sinceMarch < 10 then sinceMarch + 3 else sinceMarch - 9
  ⟨year + (if month ≤ 2 then 1 else 0), month, inYear - daysBeforeMonth sinceMarch + 1⟩

/-- The month of such a day is one of the twelve, and lies in the next year if it is January or
February. -/
theorem month_ofMarch (year : Int) (h : inYear ≤ 365) :
    ∃ sinceMarch, sinceMarch = (5 * inYear + 2) / 153 ∧ sinceMarch < 12 ∧
      daysBeforeMonth sinceMarch ≤ inYear ∧
      (sinceMarch < 10 ∧
          Date.ofMarch year inYear =
            ⟨year, sinceMarch + 3, inYear - daysBeforeMonth sinceMarch + 1⟩ ∨
        10 ≤ sinceMarch ∧
          Date.ofMarch year inYear =
            ⟨year + 1, sinceMarch - 9, inYear - daysBeforeMonth sinceMarch + 1⟩) := by
  refine ⟨_, rfl, by omega, by rw [daysBeforeMonth]; omega, ?_⟩
  by_cases hm : (5 * inYear + 2) / 153 < 10
  · refine .inl ⟨hm, ?_⟩
    simp only [Date.ofMarch, if_pos hm]
    rw [if_neg (by omega), Int.add_zero]
  · refine .inr ⟨by omega, ?_⟩
    simp only [Date.ofMarch, if_neg hm]
    rw [if_pos (by omega)]

/-- The number of a day is that of its first of March and its place behind it. -/
theorem dayNumber_ofMarch (h : inYear ≤ 365) :
    (Date.ofMarch year inYear).dayNumber = daysBeforeMarch year + inYear - marchOfYearZero := by
  obtain ⟨m, -, hm, hbefore, ⟨hlow, heq⟩ | ⟨hhigh, heq⟩⟩ := month_ofMarch year h
  · have hmonth : (m + 3 + 9) % 12 = m := by omega
    rw [heq, Date.dayNumber]
    dsimp only
    rw [if_neg (by omega), hmonth]
    omega
  · have hmonth : (m - 9 + 9) % 12 = m := by omega
    rw [heq, Date.dayNumber]
    dsimp only
    rw [if_pos (by omega), hmonth, Int.add_sub_cancel]
    omega

/-- From March to January, a month ends where the next one starts. -/
theorem daysBeforeMonth_succ {m : Nat} (year : Int) (h : m < 11) :
    daysBeforeMonth (m + 1) =
      daysBeforeMonth m + daysInMonth year (if m < 10 then m + 3 else m - 9) := by
  match m, h with
  | 0, _ | 1, _ | 2, _ | 3, _ | 4, _ | 5, _ | 6, _ | 7, _ | 8, _ | 9, _ | 10, _ => rfl

/-- The calendar has such a day, unless it is the last one of a year that is no leap year. -/
theorem isValid_ofMarch (h : inYear ≤ 365) (hleap : inYear = 365 → isLeapYear (year + 1) = true) :
    (Date.ofMarch year inYear).isValid = true := by
  obtain ⟨m, hm, hm12, hbefore, ⟨hlow, heq⟩ | ⟨hhigh, heq⟩⟩ := month_ofMarch year h
  · have hnext : inYear < daysBeforeMonth (m + 1) := by rw [daysBeforeMonth]; omega
    rw [daysBeforeMonth_succ year (by omega), if_pos hlow] at hnext
    rw [heq, Date.isValid, Bool.and_eq_true, decide_eq_true_iff, decide_eq_true_iff]
    dsimp only
    omega
  rw [heq, Date.isValid, Bool.and_eq_true, decide_eq_true_iff, decide_eq_true_iff]
  dsimp only
  rcases Nat.lt_or_ge m 11 with hm11 | hm11
  · have hnext : inYear < daysBeforeMonth (m + 1) := by rw [daysBeforeMonth]; omega
    rw [daysBeforeMonth_succ (year + 1) hm11, if_neg (by omega)] at hnext
    omega
  · -- February lasts to the end of the year
    obtain rfl : m = 11 := by omega
    have hdays : inYear - 337 + 1 ≤ if isLeapYear (year + 1) then 29 else 28 := by
      split
      · omega
      · next hno =>
        have hlast : inYear ≠ 365 := fun hlast => hno (hleap hlast)
        omega
    exact ⟨by omega, hdays⟩

/-! ## Cycles of 400 years -/

/-- A cycle is cut into centuries, spans of four years, years and days. Only the last year of a span
has a day more, and the last span of a century does without it if it is not the last of all. -/
theorem exists_parts_of_cycle (h : inCycle < 146097) :
    ∃ centuries spans years days, centuries ≤ 3 ∧ spans ≤ 24 ∧ years ≤ 3 ∧
      inCycle = 36524 * centuries + 1461 * spans + 365 * years + days ∧
      (days < 365 ∨ days = 365 ∧ years = 3 ∧ (spans = 24 → centuries = 3)) := by
  obtain ⟨c, hc⟩ : ∃ c, c = min (inCycle / 36524) 3 := ⟨_, rfl⟩
  obtain ⟨k, hk⟩ : ∃ k, k = (inCycle - 36524 * c) / 1461 := ⟨_, rfl⟩
  obtain ⟨j, hj⟩ : ∃ j, j = min ((inCycle - 36524 * c - 1461 * k) / 365) 3 := ⟨_, rfl⟩
  refine ⟨c, k, j, inCycle - 36524 * c - 1461 * k - 365 * j, ?_, ?_, ?_, ?_, ?_⟩
  · omega
  · omega
  · omega
  · omega
  · omega

/-- The year of a day in its cycle is found by four divisions. -/
theorem yearInCycle_eq (hc : centuries ≤ 3) (hk : spans ≤ 24) (hj : years ≤ 3)
    (hr : inCycle = 36524 * centuries + 1461 * spans + 365 * years + days)
    (hi : days < 365 ∨ days = 365 ∧ years = 3 ∧ (spans = 24 → centuries = 3)) :
    (inCycle - inCycle / 1460 + inCycle / 36524 - inCycle / 146096) / 365 =
      100 * centuries + 4 * spans + years := by
  have hspans : inCycle / 1460 =
      25 * centuries + spans + (24 * centuries + spans + 365 * years + days) / 1460 := by
    omega
  by_cases hlast : inCycle = 146096
  · have hparts : centuries = 3 ∧ spans = 24 ∧ years = 3 := by omega
    obtain ⟨rfl, rfl, rfl⟩ := hparts
    rw [hlast]
  · have hcenturies : inCycle / 36524 = centuries := by omega
    have hcycle : inCycle / 146096 = 0 := by omega
    rw [hspans, hcenturies, hcycle]
    omega

/-- The days before a year are those of the parts of its cycle before it. -/
theorem daysBeforeMarch_of_parts (cycle : Int) (hc : centuries ≤ 3) (hk : spans ≤ 24)
    (hj : years ≤ 3) :
    daysBeforeMarch (400 * cycle + (100 * centuries + 4 * spans + years : Nat)) =
      146097 * cycle + (36524 * centuries + 1461 * spans + 365 * years : Nat) := by
  obtain ⟨year, hyear⟩ : ∃ year, year = 400 * cycle + (100 * centuries + 4 * spans + years : Nat) :=
    ⟨_, rfl⟩
  have hfours : year / 4 = 100 * cycle + 25 * centuries + spans := by omega
  have hcenturies : year / 100 = 4 * cycle + centuries := by omega
  have hcycle : year / 400 = cycle := by omega
  rw [← hyear, daysBeforeMarch, hfours, hcenturies, hcycle, hyear]
  omega

/-- Behind the last day of a long year there is a leap year. -/
theorem isLeapYear_of_parts (cycle : Int) (hspans : spans ≤ 24)
    (hlast : spans = 24 → centuries = 3) :
    isLeapYear (400 * cycle + (100 * centuries + 4 * spans + 3 : Nat) + 1) = true := by
  rw [isLeapYear, Bool.and_eq_true, Bool.or_eq_true, beq_iff_eq, bne_iff_ne, beq_iff_eq]
  refine ⟨by omega, ?_⟩
  by_cases h : spans = 24
  · have hc := hlast h
    exact .inr (by omega)
  · exact .inl (by omega)

/-- A day is found by its number as a day of a year from March, and the place in the year is the
last one of a leap year only if there is such a day. -/
theorem ofDayNumber_eq_ofMarch (n : Int) :
    ∃ (year : Int) (inYear : Nat), inYear ≤ 365 ∧
      (inYear = 365 → isLeapYear (year + 1) = true) ∧
      n + marchOfYearZero = daysBeforeMarch year + inYear ∧
      Date.ofDayNumber n = Date.ofMarch year inYear := by
  obtain ⟨cycle, hcycle⟩ : ∃ cycle, cycle = (n + marchOfYearZero) / 146097 := ⟨_, rfl⟩
  obtain ⟨inCycle, hinCycle⟩ : ∃ inCycle, inCycle = ((n + marchOfYearZero) % 146097).toNat :=
    ⟨_, rfl⟩
  have hn : n + marchOfYearZero = 146097 * cycle + inCycle := by omega
  obtain ⟨c, k, j, i, hc, hk, hj, hr, hi⟩ := exists_parts_of_cycle (by omega : inCycle < 146097)
  obtain ⟨year, hyear⟩ : ∃ year, year = 100 * c + 4 * k + j := ⟨_, rfl⟩
  have hplace : inCycle - (365 * year + year / 4 - year / 100) = i := by
    have hfours : year / 4 = 25 * c + k := by omega
    have hcenturies : year / 100 = c := by omega
    rw [hfours, hcenturies, hyear, hr]
    omega
  refine ⟨400 * cycle + year, i, hi.elim Nat.le_of_lt fun h => Nat.le_of_eq h.1, ?_, ?_, ?_⟩
  · intro hlast
    obtain ⟨-, rfl, hk24⟩ := hi.resolve_left (by omega)
    rw [hyear]
    exact isLeapYear_of_parts cycle hk hk24
  · rw [hyear, daysBeforeMarch_of_parts cycle hc hk hj, hn, hr, Int.natCast_add _ i, Int.add_assoc]
  · rw [Date.ofDayNumber]
    simp only [← hcycle, ← hinCycle, yearInCycle_eq hc hk hj hr hi, ← hyear, hplace]
    rfl

/-! ## Days -/

/-- The day that is found by a number has that number. -/
theorem dayNumber_ofDayNumber (n : Int) : (Date.ofDayNumber n).dayNumber = n := by
  obtain ⟨year, inYear, hlast, -, hn, heq⟩ := ofDayNumber_eq_ofMarch n
  rw [heq, dayNumber_ofMarch hlast, ← hn, Int.add_sub_cancel]

/-- The calendar has the day that is found by a number. -/
theorem isValid_ofDayNumber (n : Int) : (Date.ofDayNumber n).isValid = true := by
  obtain ⟨year, inYear, hlast, hleap, -, heq⟩ := ofDayNumber_eq_ofMarch n
  rw [heq]
  exact isValid_ofMarch hlast hleap

/-- The months of the calendar are numbered from one to twelve, and their days from one to 31. -/
theorem bounds_of_isValid {d : Date} (h : d.isValid = true) :
    1 ≤ d.month ∧ d.month ≤ 12 ∧ 1 ≤ d.day ∧ d.day ≤ 31 := by
  rw [Date.isValid, Bool.and_eq_true, decide_eq_true_iff, decide_eq_true_iff] at h
  obtain ⟨hlow, hhigh⟩ := h
  have hdays : d.day ≤ 31 ∧ (1 ≤ d.month ∧ d.month ≤ 12) := by
    unfold daysInMonth at hhigh
    split at hhigh
    case h_12 hmonth => split at hhigh <;> omega
    all_goals omega
  exact ⟨hdays.2.1, hdays.2.2, hlow, hdays.1⟩

/-- A year is as near to the first ones as the number of a day in it. -/
theorem year_ofDayNumber_bounds {n : Int} (hlow : -100_000_000 ≤ n) (hhigh : n ≤ 100_000_000) :
    -300_000 ≤ (Date.ofDayNumber n).year ∧ (Date.ofDayNumber n).year ≤ 300_000 := by
  obtain ⟨year, inYear, hlast, -, hn, heq⟩ := ofDayNumber_eq_ofMarch n
  rw [daysBeforeMarch, marchOfYearZero] at hn
  have hyear : -300_000 ≤ year ∧ year ≤ 299_999 := by omega
  obtain ⟨m, -, -, -, ⟨-, hdate⟩ | ⟨-, hdate⟩⟩ := month_ofMarch year hlast
  · rw [heq, hdate]
    dsimp only
    omega
  · rw [heq, hdate]
    dsimp only
    omega

end

end LogGate.Time
