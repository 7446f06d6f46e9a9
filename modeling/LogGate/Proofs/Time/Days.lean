import LogGate.Proofs.Time.Calendar

/-!
# One day after another

The calendar is told day by day: behind each day comes the next one of its month, or the first of
the next month, or the first of the next year (`Date.next`). Days are numbered in this order
(`next_of_isValid`), and no two days have one number (`ofDayNumber_dayNumber`), so the number of a
day says how far it is from another.
-/

namespace LogGate.Time

/-- The day after a day. -/
def Date.next (d : Date) : Date :=
  if d.day < daysInMonth d.year d.month then { d with day := d.day + 1 }
  else if d.month < 12 then ⟨d.year, d.month + 1, 1⟩
  else ⟨d.year + 1, 1, 1⟩

section
variable {d d' : Date} {year year' : Int} {inYear inYear' sinceMarch day : Nat}

/-! ## Numbers of days -/

/-- A day of the calendar is one of the days of its month. -/
theorem isValid_iff : d.isValid = true ↔ 1 ≤ d.day ∧ d.day ≤ daysInMonth d.year d.month := by
  rw [Date.isValid, Bool.and_eq_true, decide_eq_true_iff, decide_eq_true_iff]

/-- From one first of March to the next it is 337 days and February. -/
theorem daysBeforeMarch_succ (year : Int) :
    daysBeforeMarch (year + 1) = daysBeforeMarch year + 337 + daysInMonth (year + 1) 2 := by
  have hfebruary : daysInMonth (year + 1) 2 = if isLeapYear (year + 1) then 29 else 28 := rfl
  rw [hfebruary, daysBeforeMarch, daysBeforeMarch]
  split
  · next h =>
    rw [isLeapYear, Bool.and_eq_true, Bool.or_eq_true, beq_iff_eq, bne_iff_ne, beq_iff_eq] at h
    omega
  · next h =>
    rw [isLeapYear, Bool.and_eq_true, Bool.or_eq_true, beq_iff_eq, bne_iff_ne, beq_iff_eq] at h
    omega

/-- Every month has a first day. -/
theorem one_le_daysInMonth {month : Nat} (year : Int) (h : 1 ≤ month) (h12 : month ≤ 12) :
    1 ≤ daysInMonth year month := by
  match month, h, h12 with
  | 1, _, _ | 3, _, _ | 4, _, _ | 5, _, _ | 6, _, _ | 7, _, _ | 8, _, _ | 9, _, _ | 10, _, _
  | 11, _, _ | 12, _, _ => exact Nat.le_of_ble_eq_true rfl
  | 2, _, _ =>
    show 1 ≤ if isLeapYear year then 29 else 28
    split <;> decide

/-- The first of a month comes behind the last of the month before. -/
theorem dayNumber_first {month : Nat} (year : Int) (h : 1 ≤ month) (h12 : month < 12) :
    (Date.mk year (month + 1) 1).dayNumber =
      (Date.mk year month (daysInMonth year month)).dayNumber + 1 := by
  by_cases hfebruary : month = 2
  · subst hfebruary
    have hmarch := daysBeforeMarch_succ (year - 1)
    rw [Int.sub_add_cancel] at hmarch
    have hbefore : daysBeforeMonth ((2 + 9) % 12) = 337 := by decide
    have hnone : daysBeforeMonth ((2 + 1 + 9) % 12) = 0 := by decide
    simp only [Date.dayNumber, hbefore, hnone]
    rw [if_neg (by decide), if_pos (by decide), hmarch]
    omega
  · -- the months before and behind are in one year from March
    obtain ⟨m, hm, hm11⟩ : ∃ m, m = (month + 9) % 12 ∧ m < 11 := ⟨_, rfl, by omega⟩
    have hnext : (month + 1 + 9) % 12 = m + 1 := by omega
    have hmonth : (if m < 10 then m + 3 else m - 9) = month := by split <;> omega
    have hdays := daysBeforeMonth_succ year hm11
    rw [hmonth] at hdays
    have hyear : (if month + 1 ≤ 2 then year - 1 else year) =
        if month ≤ 2 then year - 1 else year := by split <;> split <;> omega
    simp only [Date.dayNumber, hnext, ← hm, hdays, hyear]
    omega

/-- The day after a day of the calendar is one, too, and has the next number. -/
theorem next_of_isValid (h : d.isValid = true) :
    d.next.isValid = true ∧ d.next.dayNumber = d.dayNumber + 1 := by
  obtain ⟨hmonth, hmonth12, -, -⟩ := bounds_of_isValid h
  obtain ⟨hday, hlast⟩ := isValid_iff.1 h
  obtain ⟨year, month, day⟩ := d
  dsimp only at hmonth hmonth12 hday hlast
  unfold Date.next
  dsimp only
  split
  · next hlt =>
    refine ⟨isValid_iff.2 ⟨Nat.le_add_left 1 day, hlt⟩, ?_⟩
    simp only [Date.dayNumber]
    omega
  · next hge =>
    obtain rfl : day = daysInMonth year month := by omega
    split
    · next hlt =>
      have hfirst : 1 ≤ daysInMonth year (month + 1) := one_le_daysInMonth year (by omega) hlt
      exact ⟨isValid_iff.2 ⟨Nat.le_refl 1, hfirst⟩, dayNumber_first year hmonth hlt⟩
    · next hdecember =>
      obtain rfl : month = 12 := by omega
      have hfirst : 1 ≤ daysInMonth (year + 1) 1 :=
        one_le_daysInMonth (year + 1) (by decide) (by decide)
      have hjanuary : daysBeforeMonth ((1 + 9) % 12) = 306 := by decide
      have hdecember : daysBeforeMonth ((12 + 9) % 12) = 275 := by decide
      have hdays : daysInMonth year 12 = 31 := rfl
      refine ⟨isValid_iff.2 ⟨Nat.le_refl 1, hfirst⟩, ?_⟩
      simp only [Date.dayNumber, hjanuary, hdecember, hdays]
      rw [if_pos (by decide), if_neg (by decide), Int.add_sub_cancel]
      omega

/-! ## Days of numbers -/

/-- A place in a year from March, by the month that it lies in. -/
theorem ofMarch_daysBeforeMonth {m : Nat} (year : Int) (hm : m < 12) (hday : 1 ≤ day)
    (hlast : 5 * (daysBeforeMonth m + day - 1) + 2 < 153 * (m + 1)) :
    Date.ofMarch year (daysBeforeMonth m + day - 1) =
      if m < 10 then ⟨year, m + 3, day⟩ else ⟨year + 1, m - 9, day⟩ := by
  have hmonth : (5 * (daysBeforeMonth m + day - 1) + 2) / 153 = m := by
    rw [daysBeforeMonth] at hlast ⊢
    omega
  have hplace : daysBeforeMonth m + day - 1 - daysBeforeMonth m + 1 = day := by omega
  simp only [Date.ofMarch, hmonth, hplace]
  by_cases hlow : m < 10
  · rw [if_pos hlow, if_pos hlow, if_neg (by omega), Int.add_zero]
  · rw [if_neg hlow, if_neg hlow, if_pos (by omega)]

/-- February has 28 days or 29. -/
theorem daysInMonth_february (year : Int) :
    28 ≤ daysInMonth year 2 ∧ daysInMonth year 2 ≤ 29 := by
  show 28 ≤ (if isLeapYear year then 29 else 28) ∧ (if isLeapYear year then 29 else 28) ≤ 29
  split <;> decide

/-- A day of the calendar has a place in a year from March. -/
theorem exists_ofMarch (h : d.isValid = true) :
    ∃ (year : Int) (inYear : Nat), inYear < 337 + daysInMonth (year + 1) 2 ∧
      d = Date.ofMarch year inYear := by
  obtain ⟨hmonth, hmonth12, hday, hday31⟩ := bounds_of_isValid h
  obtain ⟨-, hlast⟩ := isValid_iff.1 h
  obtain ⟨year, month, day⟩ := d
  dsimp only at hmonth hmonth12 hday hday31 hlast
  by_cases hfebruary : month = 2
  · subst hfebruary
    obtain ⟨-, hdays⟩ := daysInMonth_february year
    have hplace := ofMarch_daysBeforeMonth (m := 11) (year - 1) (by decide) hday
      (by rw [daysBeforeMonth]; omega)
    rw [if_neg (by decide), Int.sub_add_cancel] at hplace
    refine ⟨year - 1, _, ?_, hplace.symm⟩
    rw [Int.sub_add_cancel, daysBeforeMonth]
    omega
  -- any other month ends where the next one starts
  have hfound : ∀ (m : Nat) (y : Int), m < 11 → (if m < 10 then m + 3 else m - 9) = month →
      (if m < 10 then y else y + 1) = year → ∃ (year' : Int) (inYear : Nat),
        inYear < 337 + daysInMonth (year' + 1) 2 ∧
          Date.mk year month day = Date.ofMarch year' inYear := by
    rintro m y hm hmonth rfl
    have hnext := daysBeforeMonth_succ (if m < 10 then y else y + 1) hm
    rw [hmonth] at hnext
    have hend : daysBeforeMonth (m + 1) ≤ 337 := by rw [daysBeforeMonth]; omega
    have hplace := ofMarch_daysBeforeMonth (m := m) y (by omega) hday
      (by rw [daysBeforeMonth] at hnext; omega)
    refine ⟨y, daysBeforeMonth m + day - 1, by omega, ?_⟩
    rw [hplace, ← hmonth]
    split <;> rfl
  by_cases hjanuary : month = 1
  · exact hfound 10 (year - 1) (by decide) hjanuary.symm (Int.sub_add_cancel year 1)
  · refine hfound (month - 3) year (by omega) ?_ (if_pos (by omega))
    rw [if_pos (by omega)]
    omega

/-- A place in a year from March is that of one day only. -/
theorem march_unique (h : inYear < 337 + daysInMonth (year + 1) 2)
    (h' : inYear' < 337 + daysInMonth (year' + 1) 2)
    (heq : daysBeforeMarch year + inYear = daysBeforeMarch year' + inYear') :
    year = year' ∧ inYear = inYear' := by
  have hmono : ∀ {year year' : Int}, year < year' →
      daysBeforeMarch year + 337 + daysInMonth (year + 1) 2 ≤ daysBeforeMarch year' := by
    intro year year' hlt
    rw [← daysBeforeMarch_succ, daysBeforeMarch, daysBeforeMarch]
    omega
  rcases Int.lt_trichotomy year year' with hlt | rfl | hlt
  · have hle := hmono hlt
    omega
  · exact ⟨rfl, by omega⟩
  · have hle := hmono hlt
    omega

/-- A day of the calendar is the one that is found by its number. -/
theorem ofDayNumber_dayNumber (h : d.isValid = true) : Date.ofDayNumber d.dayNumber = d := by
  obtain ⟨year, inYear, hplace, rfl⟩ := exists_ofMarch h
  have hfebruary := daysInMonth_february (year + 1)
  obtain ⟨year', inYear', hlast', hleap', hnumber, heq⟩ :=
    ofDayNumber_eq_ofMarch (Date.ofMarch year inYear).dayNumber
  have hplace' : inYear' < 337 + daysInMonth (year' + 1) 2 := by
    show inYear' < 337 + if isLeapYear (year' + 1) then 29 else 28
    split
    · omega
    · next hno =>
      have hne : inYear' ≠ 365 := fun hlast => hno (hleap' hlast)
      omega
  rw [dayNumber_ofMarch (by omega), Int.sub_add_cancel] at hnumber
  obtain ⟨rfl, rfl⟩ := march_unique hplace hplace' hnumber
  exact heq

end

end LogGate.Time
