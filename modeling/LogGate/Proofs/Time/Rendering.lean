import LogGate.Proofs.Time.Reading

/-!
# Instants that are written and read again

An instant is written in the standard form, in universal time and with all its digits
(`standard_render`). That spells its fields, so they are read as they were written (`read_render`).
Day and second are then found again from the fields, since the calendar gives the day back and a
leap second is the one with number 60 (`instant_ofInstant`).
-/

namespace LogGate.Time

open Text (Numeral padded)

/-! ## Fields that are written -/

section
variable {n nano : Nat}

/-- A number of two digits is written with two. -/
theorem twoDigits_padded (h : n < 100) : TwoDigits (padded 2 n).toList n :=
  ⟨Text.numeral_padded 2 n, Text.length_padded (by decide) h⟩

/-- A year is written with all its digits. -/
theorem fullYear_renderYear (year : Int) : FullYear (Instant.renderYear year).toList year := by
  have hnumeral : ∀ n, Numeral (padded 4 n).toList n := Text.numeral_padded 4
  have hlength : ∀ n, 4 ≤ (padded 4 n).toList.length := Text.le_length_padded 4
  unfold Instant.renderYear
  split
  · next hplain =>
    obtain ⟨n, rfl⟩ := Int.eq_ofNat_of_zero_le hplain.1
    exact .plain (hnumeral n) (Text.length_padded (by decide) (by omega))
  · next hsigned =>
    rw [String.toList_append]
    split
    · next hneg =>
      have hyear : year = -(year.natAbs : Int) := by omega
      refine .signed ?_ (Nat.succ_le_succ (hlength _)) (.inl hneg)
      conv_rhs => rw [hyear]
      exact .minus (hnumeral year.natAbs)
    · next hpos =>
      have hyear : year = (year.natAbs : Int) := by omega
      refine .signed ?_ (Nat.succ_le_succ (hlength _)) (.inr (by omega))
      conv_rhs => rw [hyear]
      exact .plus (hnumeral year.natAbs)

/-- A fraction is written with as few groups of digits as are exact. -/
theorem shortestFraction_renderSubsecond (h : nano < 1_000_000_000) :
    ShortestFraction (Instant.renderSubsecond nano).toList nano := by
  have hpoint : ∀ groups n, 1 ≤ groups → groups ≤ 3 → n < 10 ^ (3 * groups) → ¬ 1000 ∣ n →
      n * 1000 ^ (3 - groups) = nano →
      ShortestFraction ("." ++ padded (3 * groups) n).toList nano := by
    rintro groups n hone hthree hn hlast rfl
    rw [String.toList_append]
    exact .point (Text.numeral_padded _ n) (Text.length_padded (by omega) hn) hthree hlast
  unfold Instant.renderSubsecond
  split
  · next hzero => exact hzero ▸ .none
  split
  · exact hpoint 1 _ (by decide) (by decide) (by omega) (by omega) (by omega)
  split
  · exact hpoint 2 _ (by decide) (by decide) (by omega) (by omega) (by omega)
  · exact hpoint 3 _ (by decide) (by decide) (by omega) (by omega) (by omega)

end

namespace Stamp

/-! ## Instants -/

section
variable (t : Instant)

/-- The fields of an instant in universal time. -/
def ofInstant : Stamp := ⟨t.date, t.hour, t.minute, t.secondOfMinute, t.subsecond, 0⟩

/-- The years of instants are far within a signed 32-bit word. -/
theorem year_bounds : -2_147_483_648 ≤ t.date.year ∧ t.date.year < 2_147_483_648 := by
  have hlow : -100_000_000 ≤ t.day := Int.le_trans (by decide) t.first_le
  have hhigh : t.day ≤ 100_000_000 := Int.le_trans t.le_last (by decide)
  obtain ⟨hfirst, hlast⟩ := year_ofDayNumber_bounds hlow hhigh
  show _ ≤ (Date.ofDayNumber t.day).year ∧ (Date.ofDayNumber t.day).year < _
  omega

/-- Hours, minutes and seconds of instants are below 24, 60 and 61. -/
theorem clock_bounds : t.hour < 24 ∧ t.minute < 60 ∧ t.secondOfMinute ≤ 60 := by
  have hsecond := t.second_lt
  have hnano := t.nano_lt
  dsimp only [Instant.hour, Instant.minute, Instant.secondOfMinute]
  omega

/-- The second of a minute is at most 60, and it is that in leap seconds only. -/
theorem second_ofInstant :
    (ofInstant t).second = 60 ∧ t.second % 60 = 59 ∧
        t.nano = (ofInstant t).nano + 1_000_000_000 ∨
      (ofInstant t).second < 60 ∧ t.second % 60 = (ofInstant t).second ∧
        t.nano = (ofInstant t).nano := by
  have hnano := t.nano_lt
  dsimp only [ofInstant, Instant.secondOfMinute, Instant.subsecond]
  rcases t.leap with hnano | hsecond
  · omega
  · omega

/-- What is written of an instant are its fields with marks between them. -/
theorem toList_render :
    t.render.toList = (Instant.renderYear t.date.year).toList ++ '-' ::
      ((padded 2 t.date.month).toList ++ '-' :: ((padded 2 t.date.day).toList ++ 'T' ::
        ((padded 2 t.hour).toList ++ ':' :: ((padded 2 t.minute).toList ++ ':' ::
          ((padded 2 t.secondOfMinute).toList ++
            ((Instant.renderSubsecond t.subsecond).toList ++ ['Z'])))))) := by
  simp [Instant.render]

/-- An instant is written as a date and time in universal time. -/
theorem standard_render : Standard t.render.toList (ofInstant t) := by
  have hvalid : t.date.isValid = true := isValid_ofDayNumber t.day
  obtain ⟨-, hmonth, -, hday⟩ := bounds_of_isValid hvalid
  obtain ⟨hhour, hminute, hsecond⟩ := clock_bounds t
  rw [toList_render]
  exact .mk (fullYear_renderYear _) (twoDigits_padded (by omega)) (twoDigits_padded (by omega))
    (twoDigits_padded (by omega)) (twoDigits_padded (by omega)) (twoDigits_padded (by omega))
    (shortestFraction_renderSubsecond (Nat.mod_lt _ (by decide)))

/-- The fields of an instant are read as they are written. -/
theorem read_render : read t.render.toList = .ok (ofInstant t) := by
  obtain ⟨hlow, hhigh⟩ := year_bounds t
  obtain ⟨hhour, hminute, hsecond⟩ := clock_bounds t
  have hvalid : t.date.isValid = true := isValid_ofDayNumber t.day
  exact read_eq_ok_iff.2 ((standard_render t).spells hvalid hlow hhigh hhour hminute hsecond)

/-- The instant with the fields of an instant is that one. -/
theorem instant_ofInstant : (ofInstant t).instant = .ok t := by
  have hday : (ofInstant t).date.dayNumber = t.day := dayNumber_ofDayNumber t.day
  have hvalid : (ofInstant t).date.isValid = true := isValid_ofDayNumber t.day
  have hrange : ¬ (!(ofInstant t).date.isValid ||
      decide ((ofInstant t).date.dayNumber < firstDay) ||
      decide (lastDay < (ofInstant t).date.dayNumber)) = true := by
    have hfirst := t.first_le
    have hlast := t.le_last
    rw [hvalid, hday]
    simp only [Bool.not_true, Bool.false_or, Bool.or_eq_true, decide_eq_true_iff]
    omega
  have hoffset : ¬ ((ofInstant t).offset ≤ -86400 ∨ 86400 ≤ (ofInstant t).offset) := by
    dsimp only [ofInstant]
    omega
  have hleap : (if (ofInstant t).second = 60 then 59 else (ofInstant t).second) = t.second % 60 ∧
      (if (ofInstant t).second = 60 then (ofInstant t).nano + 1_000_000_000
        else (ofInstant t).nano) = t.nano := by
    rcases second_ofInstant t with ⟨hsixty, hlast, hnano⟩ | ⟨hless, hsame, hnano⟩
    · rw [if_pos hsixty, if_pos hsixty, hlast, hnano]
      exact ⟨rfl, rfl⟩
    · rw [if_neg (Nat.ne_of_lt hless), if_neg (Nat.ne_of_lt hless), hsame, hnano]
      exact ⟨rfl, rfl⟩
  have hseconds : ((3600 * (ofInstant t).hour + 60 * (ofInstant t).minute + t.second % 60 : Nat) :
      Int) - (ofInstant t).offset = t.second := by
    dsimp only [ofInstant, Instant.hour, Instant.minute]
    omega
  have hsecond := t.second_lt
  have hquotient : (t.second : Int) / 86400 = 0 := by omega
  have hrest : ((t.second : Int) % 86400).toNat = t.second := by omega
  have hof : Instant.of? t.day t.second t.nano = some t :=
    dif_pos ⟨t.first_le, t.le_last, t.second_lt, t.nano_lt, t.leap⟩
  rw [instant, if_neg hrange, if_neg hoffset]
  simp only [hleap, hseconds, hday, hquotient, hrest, Int.add_zero, hof]

end

end Stamp

/-- An instant that is written is read as it was. -/
theorem Instant.parse_render (t : Instant) : Instant.parse t.render = .ok t := by
  rw [Instant.parse, Stamp.read_render]
  exact Stamp.instant_ofInstant t

end LogGate.Time
