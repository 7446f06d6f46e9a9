import LogGate.Proofs.Text.Decimal
import LogGate.Proofs.Time.Calendar
import LogGate.Time.Reading

/-!
# How dates and times are spelled

`Spells` says which texts are dates and times, and with which fields: the numbers and marks in their
order, with white space before each of them, a fraction of which nine digits count, and an offset at
the end. `Standard` says which one of them is written, in universal time (`Standard.spells`): no
white space, numbers with all their digits, and the shortest fraction. Neither mentions a reader or
a writer.
-/

namespace LogGate.Time

open Text (Numeral Signed)

/-! ## Spellings -/

/-- Nothing but white space. -/
def Blanks (s : List Char) : Prop := ∀ c ∈ s, Text.isBlank c = true

/-- A number between two bounds, of one or two digits, behind white space. -/
inductive FieldOf (low high : Nat) : List Char → Nat → Prop where
  | mk {before s : List Char} {n : Nat} (hbefore : Blanks before) (h : Numeral s n)
    (hlength : s.length ≤ 2) (hlow : low ≤ n) (hhigh : n ≤ high) :
    FieldOf low high (before ++ s) n

/-- A year: up to four digits, or a sign and any number of digits. It has to fit a signed 32-bit
word. -/
inductive YearOf : List Char → Int → Prop where
  | plain {s : List Char} {n : Nat} (h : Numeral s n) (hlength : s.length ≤ 4) : YearOf s n
  | signed {s : List Char} {year : Int} (h : Signed s year)
    (hfits : -2_147_483_648 ≤ year ∧ year < 2_147_483_648) : YearOf s year

/-- A fraction of a second, as whole nanoseconds: a point and any number of digits, or nothing. -/
inductive FractionOf : List Char → Nat → Prop where
  | none : FractionOf [] 0
  | point {s : List Char} {n : Nat} (h : Numeral s n) :
    FractionOf ('.' :: s) (n * 10 ^ 9 / 10 ^ s.length)

/-- A number of two digits. -/
def TwoDigits (s : List Char) (n : Nat) : Prop := Numeral s n ∧ s.length = 2

/-- Hours and minutes of an offset, as seconds: two digits each, with colons and white space between
them. -/
inductive AmountOf : List Char → Nat → Prop where
  | mk {hours between minutes : List Char} {h m : Nat} (hhours : TwoDigits hours h)
    (hbetween : ∀ c ∈ between, c = ':' ∨ Text.isBlank c = true) (hminutes : TwoDigits minutes m)
    (hm : m < 60) : AmountOf (hours ++ (between ++ minutes)) (3600 * h + 60 * m)

/-- An offset as a mark or an amount, as seconds east. -/
inductive OffsetOf : List Char → Int → Prop where
  | zulu {c : Char} (hc : c = 'Z' ∨ c = 'z') : OffsetOf [c] 0
  | east {s : List Char} {n : Nat} (h : AmountOf s n) : OffsetOf ('+' :: s) n
  | west {c : Char} {s : List Char} {n : Nat} (hc : c = '-' ∨ c = '\u2212') (h : AmountOf s n) :
    OffsetOf (c :: s) (-n)

/-- What says how far a time is from universal time: its name in any case, or an offset. -/
inductive ZoneOf : List Char → Int → Prop where
  | utc {u t c : Char} (hu : u = 'U' ∨ u = 'u') (ht : t = 'T' ∨ t = 't') (hc : c = 'C' ∨ c = 'c') :
    ZoneOf [u, t, c] 0
  | offset {s : List Char} {seconds : Int} (h : OffsetOf s seconds) : ZoneOf s seconds

/-- A date: year, month and day, with hyphens between them. -/
inductive DateOf : List Char → Date → Prop where
  | mk {before year before' month before'' day : List Char} {y : Int} {m d : Nat}
    (hbefore : Blanks before) (hyear : YearOf year y) (hbefore' : Blanks before')
    (hmonth : FieldOf 1 12 month m) (hbefore'' : Blanks before'') (hday : FieldOf 1 31 day d) :
    DateOf (before ++ (year ++ (before' ++ '-' :: (month ++ (before'' ++ '-' :: day))))) ⟨y, m, d⟩

/-- A date and time, with its offset. -/
inductive StampOf : List Char → Stamp → Prop where
  | mk {date hour before minute before' second fraction before'' zone : List Char}
    {separator : Char} {d : Date} {h m s nano : Nat} {offset : Int} (hdate : DateOf date d)
    (hseparator : separator = 'T' ∨ separator = 't' ∨ separator = ' ') (hhour : FieldOf 0 23 hour h)
    (hbefore : Blanks before) (hminute : FieldOf 0 59 minute m) (hbefore' : Blanks before')
    (hsecond : FieldOf 0 60 second s) (hfraction : FractionOf fraction nano)
    (hbefore'' : Blanks before'') (hzone : ZoneOf zone offset) :
    StampOf (date ++ separator :: (hour ++ (before ++ ':' :: (minute ++ (before' ++ ':' ::
      (second ++ (fraction ++ (before'' ++ zone)))))))) ⟨d, h, m, s, nano, offset⟩

/-- A text is the date and time, with nothing but white space behind it. -/
inductive Spells : List Char → Stamp → Prop where
  | mk {s after : List Char} {t : Stamp} (h : StampOf s t) (hafter : Blanks after) :
    Spells (s ++ after) t

/-! ## What is written -/

/-- A year of four digits, or of four digits or more behind a sign where it is not one of those. -/
inductive FullYear : List Char → Int → Prop where
  | plain {s : List Char} {n : Nat} (h : Numeral s n) (hlength : s.length = 4) : FullYear s n
  | signed {s : List Char} {year : Int} (h : Signed s year) (hlength : 5 ≤ s.length)
    (hyear : year < 0 ∨ 9999 < year) : FullYear s year

/-- The shortest fraction of up to three groups of three digits that is exact: no digits for a whole
second, and otherwise a point and so many groups that the last one is not zero. -/
inductive ShortestFraction : List Char → Nat → Prop where
  | none : ShortestFraction [] 0
  | point {s : List Char} {n groups : Nat} (h : Numeral s n) (hlength : s.length = 3 * groups)
    (hgroups : groups ≤ 3) (hlast : ¬ 1000 ∣ n) :
    ShortestFraction ('.' :: s) (n * 1000 ^ (3 - groups))

/-- A date and time as it is written in universal time. -/
inductive Standard : List Char → Stamp → Prop where
  | mk {year month day hour minute second fraction : List Char} {y : Int} {m d h m' s nano : Nat}
    (hyear : FullYear year y) (hmonth : TwoDigits month m) (hday : TwoDigits day d)
    (hhour : TwoDigits hour h) (hminute : TwoDigits minute m') (hsecond : TwoDigits second s)
    (hfraction : ShortestFraction fraction nano) :
    Standard (year ++ '-' :: (month ++ '-' :: (day ++ 'T' :: (hour ++ ':' :: (minute ++ ':' ::
      (second ++ (fraction ++ ['Z']))))))) ⟨⟨y, m, d⟩, h, m', s, nano, 0⟩

section
variable {s : List Char} {seconds year : Int} {n low high nano : Nat} {t : Stamp}

/-- An offset starts with a mark of its own. -/
theorem OffsetOf.exists_cons (h : OffsetOf s seconds) :
    ∃ c t, s = c :: t ∧ c ∈ ['Z', 'z', '+', '-', '\u2212'] := by
  cases h with
  | zulu hc => exact ⟨_, _, rfl, by rcases hc with rfl | rfl <;> decide⟩
  | east => exact ⟨_, _, rfl, by decide⟩
  | west hc => exact ⟨_, _, rfl, by rcases hc with rfl | rfl <;> decide⟩

/-- What says how far a time is from universal time starts neither with white space, nor with a
digit or a point. -/
theorem ZoneOf.exists_cons (h : ZoneOf s seconds) :
    ∃ c t, s = c :: t ∧ Text.isBlank c = false ∧ c.isDigit = false ∧ c ≠ '.' := by
  have hchars : ∀ c ∈ ['U', 'u', 'Z', 'z', '+', '-', '\u2212'],
      Text.isBlank c = false ∧ c.isDigit = false ∧ c ≠ '.' := by
    simp only [List.forall_mem_cons, List.not_mem_nil, false_imp_iff, implies_true, and_true]
    decide
  cases h with
  | utc hu ht hc => exact ⟨_, _, rfl, hchars _ (by rcases hu with rfl | rfl <;> decide)⟩
  | offset h =>
    obtain ⟨c, t, rfl, hc⟩ := h.exists_cons
    exact ⟨c, t, rfl, hchars c (List.mem_cons_of_mem _ (List.mem_cons_of_mem _ hc))⟩

/-- Two digits are a field that has their number in its range. -/
theorem TwoDigits.fieldOf (h : TwoDigits s n) (hlow : low ≤ n) (hhigh : n ≤ high) :
    FieldOf low high s n := by
  have hfield : FieldOf low high ([] ++ s) n :=
    .mk nofun h.1 (Nat.le_of_eq h.2) hlow hhigh
  exact hfield

/-- A year that is written in full is one. -/
theorem FullYear.yearOf (h : FullYear s year) (hlow : -2_147_483_648 ≤ year)
    (hhigh : year < 2_147_483_648) : YearOf s year := by
  cases h with
  | plain h hlength => exact .plain h (Nat.le_of_eq hlength)
  | signed h => exact .signed h ⟨hlow, hhigh⟩

/-- The shortest fraction is one. -/
theorem ShortestFraction.fractionOf (h : ShortestFraction s nano) : FractionOf s nano := by
  cases h with
  | none => exact .none
  | @point s n groups h hlength hgroups hlast =>
    have hvalue : n * 1000 ^ (3 - groups) = n * 10 ^ 9 / 10 ^ s.length := by
      rw [hlength]
      obtain rfl | rfl | rfl | rfl : groups = 0 ∨ groups = 1 ∨ groups = 2 ∨ groups = 3 := by omega
      all_goals omega
    rw [hvalue]
    exact .point h

/-- What is written spells a date and time, if its date is one of the calendar and its numbers are
in their ranges. -/
theorem Standard.spells (h : Standard s t) (hvalid : t.date.isValid = true)
    (hlow : -2_147_483_648 ≤ t.date.year) (hhigh : t.date.year < 2_147_483_648)
    (hhour : t.hour < 24) (hminute : t.minute < 60) (hsecond : t.second ≤ 60) : Spells s t := by
  obtain ⟨hmonth, hmonth12, hday, hday31⟩ := bounds_of_isValid hvalid
  have hnone : Blanks [] := nofun
  cases h with
  | mk hyear' hmonth' hday' hhour' hminute' hsecond' hfraction' =>
    have hspells := Spells.mk (.mk (.mk hnone (hyear'.yearOf hlow hhigh) hnone
      (hmonth'.fieldOf hmonth hmonth12) hnone (hday'.fieldOf hday hday31)) (.inl rfl)
      (hhour'.fieldOf (Nat.zero_le _) (Nat.le_of_lt_succ hhour)) hnone
      (hminute'.fieldOf (Nat.zero_le _) (Nat.le_of_lt_succ hminute)) hnone
      (hsecond'.fieldOf (Nat.zero_le _) hsecond) hfraction'.fractionOf hnone
      (.offset (.zulu (.inl rfl)))) hnone
    simpa using hspells

end

end LogGate.Time
