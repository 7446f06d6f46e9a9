import LogGate.Proofs.Time.Days
import LogGate.Proofs.Time.Rendering

/-!
# Moments of universal time

A date and time with an offset is a moment of universal time: the offset is taken off the hours and
minutes, and where that leads out of the day, the day before or the next one is meant (`Universal`).
The second stays as it is, so a leap second stays one, and so does its fraction. `Denotes` says this
of texts. Neither mentions instants or the numbers of days.

A text that is read denotes one moment, which has the fields of the instant (`denotes_iff`). So two
texts are read as the same instant if and only if they denote the same moment
(`eq_iff_sameMoment`), and what is written of an instant denotes it again (`denotes_render`).
-/

namespace LogGate.Time

/-! ## Moments -/

/-- One day is so many days after another, which is one day at most. -/
inductive DaysAfter : Date → Int → Date → Prop where
  | same {d : Date} : DaysAfter d 0 d
  | next {d : Date} : DaysAfter d 1 d.next
  | before {d : Date} (h : d.isValid = true) : DaysAfter d.next (-1) d

/-- A date and time in universal time is the same moment as one with an offset. -/
inductive Universal (t u : Stamp) : Prop where
  | mk {days : Int} (hdate : DaysAfter t.date days u.date) (hhour : u.hour < 24)
    (hminute : u.minute < 60)
    (htime : (3600 * u.hour + 60 * u.minute : Int) + 86400 * days =
      3600 * t.hour + 60 * t.minute - t.offset)
    (hsecond : u.second = t.second) (hnano : u.nano = t.nano) (hoffset : u.offset = 0)

/-- A text is a date and time of the calendar, and this is its moment in universal time. -/
def Denotes (text : String) (u : Stamp) : Prop :=
  ∃ t, Spells text.toList t ∧ t.date.isValid = true ∧ Universal t u

/-- Two texts denote the same moment. -/
def SameMoment (text text' : String) : Prop := ∃ u, Denotes text u ∧ Denotes text' u

section
variable {d d' : Date} {days offset : Int} {s : List Char} {n nano : Nat} {t u u' : Stamp}
variable {i i' : Instant} {text text' : String}

/-! ## Days -/

/-- Days of the calendar are as far from each other as their numbers. -/
theorem DaysAfter.dayNumber (h : DaysAfter d days d') (hvalid : d.isValid = true) :
    d'.isValid = true ∧ d'.dayNumber = d.dayNumber + days := by
  cases h with
  | same => exact ⟨hvalid, (Int.add_zero _).symm⟩
  | next => exact next_of_isValid hvalid
  | before hbefore =>
    obtain ⟨-, hnext⟩ := next_of_isValid hbefore
    exact ⟨hbefore, by omega⟩

/-- The day with the number of a day, the one before or the next one is that day. -/
theorem daysAfter_ofDayNumber (hvalid : d.isValid = true) (hlow : -1 ≤ days) (hhigh : days ≤ 1) :
    DaysAfter d days (Date.ofDayNumber (d.dayNumber + days)) := by
  obtain rfl | rfl | rfl : days = -1 ∨ days = 0 ∨ days = 1 := by omega
  · have hbefore : (Date.ofDayNumber (d.dayNumber + -1)).isValid = true := isValid_ofDayNumber _
    obtain ⟨hnext, hnumber⟩ := next_of_isValid hbefore
    rw [dayNumber_ofDayNumber, Int.neg_add_cancel_right] at hnumber
    have hday : (Date.ofDayNumber (d.dayNumber + -1)).next = d := by
      rw [← ofDayNumber_dayNumber hnext, hnumber, ofDayNumber_dayNumber hvalid]
    have hafter := DaysAfter.before hbefore
    rwa [hday] at hafter
  · rw [Int.add_zero, ofDayNumber_dayNumber hvalid]
    exact .same
  · obtain ⟨hnext, hnumber⟩ := next_of_isValid hvalid
    rw [← hnumber, ofDayNumber_dayNumber hnext]
    exact .next

/-- A date and time is one moment. -/
theorem Universal.unique (hvalid : t.date.isValid = true) (h : Universal t u)
    (h' : Universal t u') : u = u' := by
  obtain ⟨hdate, hhour, hminute, htime, hsecond, hnano, hoffset⟩ := h
  obtain ⟨hdate', hhour', hminute', htime', hsecond', hnano', hoffset'⟩ := h'
  obtain ⟨hu, hnumber⟩ := hdate.dayNumber hvalid
  obtain ⟨hu', hnumber'⟩ := hdate'.dayNumber hvalid
  have hsame : u.date = u'.date := by
    rw [← ofDayNumber_dayNumber hu, ← ofDayNumber_dayNumber hu']
    congr 1
    omega
  obtain ⟨date, hour, minute, second, nano, offset⟩ := u
  obtain ⟨date', hour', minute', second', nano', offset'⟩ := u'
  dsimp only at *
  subst hsame hsecond hnano hoffset hsecond' hnano' hoffset'
  obtain rfl : hour = hour' := by omega
  obtain rfl : minute = minute' := by omega
  rfl

/-! ## Fields that are spelled -/

/-- A fraction is less than a second. -/
theorem FractionOf.lt (h : FractionOf s nano) : nano < 1_000_000_000 := by
  cases h with
  | none => decide
  | point h =>
    refine Nat.div_lt_of_lt_mul ?_
    exact Nat.mul_lt_mul_of_pos_right h.lt_pow (by decide)

/-- An offset is a whole number of minutes. -/
theorem ZoneOf.dvd (h : ZoneOf s offset) : 60 ∣ offset := by
  have hamount : ∀ {s n}, AmountOf s n → (60 : Int) ∣ n := by
    intro s n h
    cases h
    omega
  cases h with
  | utc => exact Int.dvd_zero 60
  | offset h =>
    cases h with
    | zulu => exact Int.dvd_zero 60
    | east h => exact hamount h
    | west _ h => exact Int.dvd_neg.2 (hamount h)

/-- The fields that are spelled are in their ranges. -/
theorem Spells.bounds (h : Spells s t) :
    t.hour < 24 ∧ t.minute < 60 ∧ t.second ≤ 60 ∧ t.nano < 1_000_000_000 ∧ 60 ∣ t.offset := by
  obtain ⟨⟨-, -, hhour, -, hminute, -, hsecond, hfraction, -, hzone⟩, -⟩ := h
  cases hhour with | mk _ _ _ _ hhour
  cases hminute with | mk _ _ _ _ hminute
  cases hsecond with | mk _ _ _ _ hsecond
  exact ⟨Nat.lt_succ_of_le hhour, Nat.lt_succ_of_le hminute, hsecond, hfraction.lt, hzone.dvd⟩

/-! ## Texts that are read -/

/-- The instant at a day, second and nanosecond is there. -/
theorem Instant.of?_eq_some {day : Int} {second nano : Nat}
    (h : Instant.of? day second nano = some i) :
    i.day = day ∧ i.second = second ∧ i.nano = nano := by
  unfold Instant.of? at h
  split at h
  · cases h
    exact ⟨rfl, rfl, rfl⟩
  · cases h

/-- A stamp that stands for an instant has a date of the calendar, and an offset of less than a
day. It lies as many seconds after the start of its day as there are left without the offset. -/
theorem Stamp.instant_eq_ok (h : t.instant = .ok i) :
    t.date.isValid = true ∧ -86400 < t.offset ∧ t.offset < 86400 ∧
      ∃ second, (t.second = 60 ∧ second = 59 ∧ i.nano = t.nano + 1_000_000_000 ∨
          t.second ≠ 60 ∧ second = t.second ∧ i.nano = t.nano) ∧
        i.day = t.date.dayNumber +
          (3600 * t.hour + 60 * t.minute + second - t.offset : Int) / 86400 ∧
        i.second = (3600 * t.hour + 60 * t.minute + second - t.offset : Int) % 86400 := by
  unfold instant at h
  split at h
  · cases h
  next hrange =>
  split at h
  · cases h
  next hoffset =>
  dsimp only at h
  split at h
  · next hof =>
    cases h
    obtain ⟨hday, hsecond, hnano⟩ := Instant.of?_eq_some hof
    rw [Bool.or_eq_true, Bool.or_eq_true, Bool.not_eq_true'] at hrange
    refine ⟨Bool.of_not_eq_false fun h => hrange (.inl (.inl h)), by omega, by omega, ?_⟩
    refine ⟨if t.second = 60 then 59 else t.second, ?_, ?_, ?_⟩
    · split at hnano
      · next hsixty => exact .inl ⟨hsixty, if_pos hsixty, hnano⟩
      · next hless => exact .inr ⟨hless, if_neg hless, hnano⟩
    · rw [hday]
      omega
    · rw [hsecond]
      omega
  · cases h

/-- The fields of the instant that a stamp stands for are those of its moment. -/
theorem Spells.universal_ofInstant (h : Spells s t) (hi : t.instant = .ok i) :
    t.date.isValid = true ∧ Universal t (Stamp.ofInstant i) := by
  obtain ⟨hvalid, hlow, hhigh, second, hleap, hday, hsecond⟩ := Stamp.instant_eq_ok hi
  obtain ⟨hhour, hminute, hsixty, hnano, minutes, hminutes⟩ := h.bounds
  obtain ⟨days, hdays⟩ : ∃ days : Int,
      (3600 * t.hour + 60 * t.minute + second - t.offset : Int) / 86400 = days := ⟨_, rfl⟩
  have hdate : DaysAfter t.date days (Stamp.ofInstant i).date := by
    show DaysAfter t.date days (Date.ofDayNumber i.day)
    rw [hday, hdays]
    exact daysAfter_ofDayNumber hvalid (by omega) (by omega)
  refine ⟨hvalid, hdate, ?_, ?_, ?_, ?_, ?_, rfl⟩
  · exact (Stamp.clock_bounds i).1
  · exact (Stamp.clock_bounds i).2.1
  · dsimp only [Stamp.ofInstant, Instant.hour, Instant.minute]
    omega
  · dsimp only [Stamp.ofInstant, Instant.secondOfMinute]
    omega
  · dsimp only [Stamp.ofInstant, Instant.subsecond]
    omega

/-- A text that is read denotes one moment, which has the fields of the instant. -/
theorem denotes_iff (h : Instant.parse text = .ok i) : Denotes text u ↔ u = Stamp.ofInstant i := by
  obtain ⟨t, hread, hi⟩ : ∃ t, Stamp.read text.toList = .ok t ∧ t.instant = .ok i := by
    unfold Instant.parse at h
    cases hread : Stamp.read text.toList with
    | error e => rw [hread] at h; cases h
    | ok t => rw [hread] at h; exact ⟨t, rfl, h⟩
  have hspells := Stamp.read_eq_ok_iff.1 hread
  obtain ⟨hvalid, huniversal⟩ := hspells.universal_ofInstant hi
  constructor
  · rintro ⟨t', hspells', -, hu⟩
    obtain rfl : t = t' := Except.ok.inj (hread.symm.trans (Stamp.read_eq_ok_iff.2 hspells'))
    exact hu.unique hvalid huniversal
  · rintro rfl
    exact ⟨t, hspells, hvalid, huniversal⟩

/-- Two texts that are read are read as the same instant if and only if they denote the same
moment. -/
theorem eq_iff_sameMoment (h : Instant.parse text = .ok i) (h' : Instant.parse text' = .ok i') :
    i = i' ↔ SameMoment text text' := by
  simp only [SameMoment, denotes_iff h, denotes_iff h', exists_eq_left]
  constructor
  · rintro rfl
    rfl
  · intro heq
    have hsame := Stamp.instant_ofInstant i
    rw [heq, Stamp.instant_ofInstant i'] at hsame
    exact (Except.ok.inj hsame).symm

/-- What is written of an instant denotes it. -/
theorem denotes_render (i : Instant) : Denotes i.render u ↔ u = Stamp.ofInstant i :=
  denotes_iff i.parse_render

end

end LogGate.Time
