import LogGate.Proofs.Time.Taking
import Mathlib.Data.List.TakeWhile

/-!
# What is read as a date and time

Every step of reading takes the field that it reads: years (`takes_yearField`), fractions
(`takes_fraction`), offsets (`takes_zone`) and what is made of them. So a text is read as a date and
time if and only if it is spelled as one, and with the same fields (`read_eq_ok_iff`).
-/

namespace LogGate.Time

open Text (Numeral Signed Stops)

namespace Stamp

section
variable {s rest : List Char} {goesOn : Char → Bool} {c : Char} {n : Nat}

/-! ## Numbers and years -/

/-- A number between two bounds is taken. -/
theorem takes_field (low high : Nat) :
    Takes (field low high) (FieldOf low high) Char.isDigit := by
  unfold field
  refine Takes.congr (takes_blanks.bind (fun _ => (takes_digits (some 2)).bind
    (fun run => takes_ite (Text.digitsValue run) _) ?_) ?_) fun s n => ?_
  · rintro run _ n r ⟨rfl, -⟩ hr
    exact hr
  · rintro _ _ n r ⟨run, _, _, rfl, ⟨-, ⟨n, hn⟩, -⟩, -⟩ -
    rw [List.append_assoc]
    exact stops_isBlank_of_numeral hn _
  · constructor
    · rintro ⟨before, _, _, rfl, hbefore, run, _, _, rfl, ⟨rfl, ⟨n, hn⟩, hlength⟩, rfl,
        ⟨hlow, hhigh⟩, rfl⟩
      rw [hn.digitsValue_eq] at hlow hhigh ⊢
      rw [List.append_nil]
      exact .mk hbefore hn (hlength 2 rfl) hlow hhigh
    · rintro ⟨hbefore, h, hlength, hlow, hhigh⟩
      refine ⟨_, (), _, rfl, hbefore, _, _, [], (List.append_nil _).symm, ⟨rfl, ⟨_, h⟩, ?_⟩, rfl,
        ?_⟩
      · rintro k ⟨⟩
        exact hlength
      · rw [h.digitsValue_eq]
        exact ⟨⟨hlow, hhigh⟩, rfl⟩

/-- A year fits a signed 32-bit word. -/
theorem fitsYear_iff {year : Int} :
    fitsYear year = true ↔ -2_147_483_648 ≤ year ∧ year < 2_147_483_648 := by
  rw [fitsYear, Bool.and_eq_true, decide_eq_true_iff, decide_eq_true_iff]

/-- Reads the digits of a year, of which there may be a most. -/
def yearDigits (most : Option Nat) (make : Nat → Int) : Step Int := do
  let run ← digits most
  let year ← pure (make (Text.digitsValue run))
  if fitsYear year then pure year else throw .outOfRange

/-- The digits of a year are taken. -/
theorem takes_yearDigits (most : Option Nat) (make : Nat → Int) :
    Takes (yearDigits most make) (fun s year => ∃ n, Numeral s n ∧
      (∀ k, most = some k → s.length ≤ k) ∧ make n = year ∧
        -2_147_483_648 ≤ year ∧ year < 2_147_483_648) Char.isDigit := by
  simp only [yearDigits, pure_bind]
  refine Takes.congr ((takes_digits most).bind (fun run =>
    takes_ite (make (Text.digitsValue run)) TimeError.outOfRange) ?_) fun s year => ?_
  · rintro run _ year r ⟨rfl, -⟩ hr
    exact hr
  · simp only [fitsYear_iff]
    constructor
    · rintro ⟨_, _, _, rfl, ⟨rfl, ⟨n, hn⟩, hlength⟩, rfl, hfits, rfl⟩
      rw [hn.digitsValue_eq] at hfits ⊢
      rw [List.append_nil]
      exact ⟨n, hn, hlength, rfl, hfits⟩
    · rintro ⟨n, hn, hlength, rfl, hfits⟩
      refine ⟨s, s, [], (List.append_nil s).symm, ⟨rfl, ⟨n, hn⟩, hlength⟩, rfl, ?_⟩
      rw [hn.digitsValue_eq]
      exact ⟨hfits, rfl⟩

/-- Reads a year where it starts. -/
def signedYear : Step Int := do
  let n ← match (← get) with
    | '-' :: r => do set r; pure (-(Text.digitsValue (← digits none) : Int))
    | '+' :: r => do set r; pure (Text.digitsValue (← digits none) : Int)
    | _ => do pure (Text.digitsValue (← digits (some 4)) : Int)
  if fitsYear n then pure n else throw .outOfRange

/-- A year starts behind white space. -/
theorem yearField_eq : yearField = blanks >>= fun _ => signedYear := rfl

/-- The character in front decides how many digits are read, and what they make. -/
theorem signedYear_cons (c : Char) (r : List Char) : signedYear (c :: r) =
    if c = '-' then yearDigits none (fun n => -n) r
    else if c = '+' then yearDigits none (fun n => n) r
    else yearDigits (some 4) (fun n => n) (c :: r) := by
  unfold signedYear
  refine get_bind fun chosen hchosen => ?_
  split at hchosen
  · next heq =>
    obtain ⟨rfl, rfl⟩ := List.cons.inj heq
    rw [if_pos rfl, ← hchosen]
    rfl
  · next heq =>
    obtain ⟨rfl, rfl⟩ := List.cons.inj heq
    rw [if_neg (by decide), if_pos rfl, ← hchosen]
    rfl
  · next hminus hplus =>
    rw [if_neg fun hc : c = '-' => hminus r (by rw [hc]),
      if_neg fun hc : c = '+' => hplus r (by rw [hc]), ← hchosen]
    rfl

/-- A year is taken where it starts. -/
theorem takes_signedYear : Takes signedYear YearOf Char.isDigit where
  sound {s year r} h := by
    cases s with
    | nil => cases h
    | cons c s =>
      rw [signedYear_cons] at h
      split at h
      · next hc =>
        obtain ⟨run, rfl, n, hn, -, rfl, hfits⟩ := (takes_yearDigits none fun n => -n).sound h
        exact ⟨c :: run, rfl, hc ▸ .signed (.minus hn) hfits⟩
      split at h
      · next hc =>
        obtain ⟨run, rfl, n, hn, -, rfl, hfits⟩ := (takes_yearDigits none fun n => n).sound h
        exact ⟨c :: run, rfl, hc ▸ .signed (.plus hn) hfits⟩
      · obtain ⟨run, hrun, n, hn, hlength, rfl, -⟩ :=
          (takes_yearDigits (some 4) fun n => n).sound h
        exact ⟨run, hrun, .plain hn (hlength 4 rfl)⟩
  complete {front year r} hfront hr := by
    cases hfront with
    | @plain n h hlength =>
      have hlt : n < 10 ^ 4 :=
        Nat.lt_of_lt_of_le h.lt_pow (Nat.pow_le_pow_right (by decide) hlength)
      have hyear := (takes_yearDigits (some 4) fun n => n).complete
        ⟨n, h, fun k hk => Option.some.inj hk ▸ hlength, rfl, by omega, by omega⟩ hr
      cases front with
      | nil => exact absurd rfl h.ne_nil
      | cons c front =>
        have hc : c.isDigit = true := h.isDigit c (List.mem_cons_self ..)
        have hsign : c ≠ '-' ∧ c ≠ '+' := by constructor <;> rintro rfl <;> cases hc
        rwa [List.cons_append, signedYear_cons, if_neg hsign.1, if_neg hsign.2]
    | signed h hfits =>
      cases h with
      | plus h =>
        rw [List.cons_append, signedYear_cons, if_neg (by decide), if_pos rfl]
        exact (takes_yearDigits none fun n => n).complete ⟨_, h, nofun, rfl, hfits⟩ hr
      | minus h =>
        rw [List.cons_append, signedYear_cons, if_pos rfl]
        exact (takes_yearDigits none fun n => -n).complete ⟨_, h, nofun, rfl, hfits⟩ hr

/-- A year does not start with white space. -/
theorem stops_isBlank_of_yearOf {year : Int} (h : YearOf s year) (rest : List Char) :
    Stops Text.isBlank (s ++ rest) := by
  cases h with
  | plain h => exact stops_isBlank_of_numeral h rest
  | signed h => cases h <;> exact Text.Stops_cons.2 (by decide)

/-- A year is taken behind white space. -/
theorem takes_yearField : Takes yearField
    (fun s year => ∃ before t, s = before ++ t ∧ Blanks before ∧ YearOf t year) Char.isDigit := by
  rw [yearField_eq]
  refine Takes.congr (takes_blanks.bind (fun _ => takes_signedYear) ?_) fun s year => ?_
  · exact fun hyear _ => stops_isBlank_of_yearOf hyear _
  · constructor
    · rintro ⟨before, _, t, rfl, hbefore, hyear⟩
      exact ⟨before, t, rfl, hbefore, hyear⟩
    · rintro ⟨before, t, rfl, hbefore, hyear⟩
      exact ⟨before, (), t, rfl, hbefore, hyear⟩

/-! ## Fractions -/

/-- The first nine digits of a fraction count as whole nanoseconds. -/
theorem nanos_eq (h : Numeral s n) :
    Text.digitsValue (s.take 9) * 10 ^ (9 - (s.take 9).length) = n * 10 ^ 9 / 10 ^ s.length := by
  have hvalue := Text.digitsValue_append (s.take 9) (s.drop 9)
  rw [List.take_append_drop, h.digitsValue_eq] at hvalue
  have hlength : (s.take 9).length + (s.drop 9).length = s.length := by
    rw [← List.length_append, List.take_append_drop]
  by_cases hshort : s.length ≤ 9
  · have htake : s.take 9 = s := List.take_of_length_le hshort
    have hpow : 10 ^ 9 = 10 ^ (9 - s.length) * 10 ^ s.length := by
      rw [← Nat.pow_add, Nat.sub_add_cancel hshort]
    rw [htake, h.digitsValue_eq, hpow, ← Nat.mul_assoc,
      Nat.mul_div_cancel _ (Nat.pow_pos (by decide))]
  · have hnine : (s.take 9).length = 9 := List.length_take_of_le (by omega)
    have hrest : Text.digitsValue (s.drop 9) < 10 ^ (s.drop 9).length :=
      Text.digitsValue_lt fun c hc => h.isDigit c (List.mem_of_mem_drop hc)
    rw [← hlength, hnine, Nat.sub_self, Nat.pow_zero, Nat.mul_one, Nat.pow_add, Nat.mul_comm n,
      Nat.mul_div_mul_left _ _ (by decide), hvalue, Nat.mul_comm _ (10 ^ _),
      Nat.mul_add_div (Nat.pow_pos (by decide)), Nat.div_eq_of_lt hrest, Nat.add_zero]

/-- Behind a point, any number of digits is read as a fraction of a second. -/
theorem fraction_point (h : Numeral s n) (hstop : Stops Char.isDigit rest) :
    fraction ('.' :: (s ++ rest)) = .ok (n * 10 ^ 9 / 10 ^ s.length, rest) := by
  have hfront : Numeral (s.take 9) (Text.digitsValue (s.take 9)) := by
    refine Text.numeral_digitsValue (fun hnil => h.ne_nil ?_) fun c hc =>
      h.isDigit c (List.mem_of_mem_take hc)
    exact (List.take_eq_nil_iff.1 hnil).resolve_left (by decide)
  have hrest : (s.take 9).length = 9 ∨ Stops Char.isDigit (s.drop 9 ++ rest) := by
    by_cases hshort : s.length ≤ 9
    · exact .inr (by rwa [List.drop_of_length_le hshort, List.nil_append])
    · exact .inl (List.length_take_of_le (by omega))
  have hdigits := digits_some_append hfront (List.length_take_le 9 s) hrest
  rw [← List.append_assoc, List.take_append_drop] at hdigits
  have hdrop : (modify (List.dropWhile Char.isDigit) : Step PUnit) (s.drop 9 ++ rest) =
      .ok (⟨⟩, rest) :=
    congrArg (fun t => Except.ok (PUnit.unit, t))
      (Text.dropWhile_append (fun c hc => h.isDigit c (List.mem_of_mem_drop hc)) hstop)
  rw [fraction]
  refine get_bind fun chosen hchosen => ?_
  split at hchosen
  · next heq =>
    obtain rfl := (List.cons.inj heq).2
    rw [← hchosen, set_bind, bind_ok hdigits, bind_ok hdrop, ← nanos_eq h]
    rfl
  · next hpoint => exact absurd rfl (hpoint _)

/-- Without a point there is no fraction. -/
theorem fraction_none {c : Char} (hc : c ≠ '.') (rest : List Char) :
    fraction (c :: rest) = .ok (0, c :: rest) := by
  rw [fraction]
  refine get_bind fun chosen hchosen => ?_
  split at hchosen
  · next heq => exact absurd (List.cons.inj heq).1 hc
  · rw [← hchosen]
    rfl

/-- A fraction is taken, or nothing where there is no point. -/
theorem takes_fraction : Takes fraction FractionOf fun c => c.isDigit || c == '.' where
  sound {s nano r} h := by
    cases s with
    | nil =>
      cases h
      exact ⟨[], rfl, .none⟩
    | cons c s =>
      by_cases hc : c = '.'
      · subst hc
        obtain ⟨front, rest, rfl, hfront, hrest⟩ := Text.exists_stops Char.isDigit s
        by_cases hne : front = []
        · -- a point without a digit behind it
          subst hne
          obtain ⟨_, _, ⟨⟩, hset⟩ := bind_eq_ok.1 h
          obtain ⟨_, _, ⟨⟩, hdigits⟩ := bind_eq_ok.1 hset
          obtain ⟨_, _, hdigits, -⟩ := bind_eq_ok.1 hdigits
          obtain ⟨run, rfl, -, ⟨n, hn⟩, -⟩ := (takes_digits (some 9)).sound hdigits
          cases run with
          | nil => exact absurd rfl hn.ne_nil
          | cons d run =>
            have hd := hn.isDigit d (List.mem_cons_self ..)
            rw [Text.Stops_cons.1 hrest] at hd
            cases hd
        · have hn := Text.numeral_digitsValue hne hfront
          rw [fraction_point hn hrest] at h
          cases h
          exact ⟨'.' :: front, rfl, .point hn⟩
      · rw [fraction_none hc] at h
        cases h
        exact ⟨[], rfl, .none⟩
  complete {front nano r} hfront hr := by
    cases hfront with
    | none =>
      cases r with
      | nil => rfl
      | cons c r =>
        have hc := Text.Stops_cons.1 hr
        refine fraction_none (fun heq => ?_) r
        rw [heq] at hc
        cases hc
    | point h =>
      refine fraction_point h fun c hc => ?_
      have hstop := hr c hc
      rw [Bool.or_eq_false_iff] at hstop
      exact hstop.1

/-! ## Offsets -/

/-- Two digits are taken. -/
theorem takes_twoDigits : Takes twoDigits TwoDigits goesOn where
  sound {s n r} h := by
    match s with
    | [] => cases h
    | [a] =>
      unfold twoDigits at h
      dsimp only at h
      split at h <;> cases h
    | a :: b :: s =>
      unfold twoDigits at h
      dsimp only at h
      split at h
      · next hab =>
        cases h
        have hdigits : ∀ c ∈ [a, b], c.isDigit = true := by
          simpa using hab
        exact ⟨[a, b], rfl, Text.numeral_digitsValue (List.cons_ne_nil _ _) hdigits, rfl⟩
      · cases h
  complete {front n r} h _ := by
    obtain ⟨hn, hlength⟩ := h
    match front, hlength with
    | [a, b], _ =>
      have hdigits := hn.isDigit
      rw [← hn.digitsValue_eq]
      exact if_pos ⟨hdigits a (by simp), hdigits b (by simp)⟩

/-- Digits are neither colons nor white space. -/
theorem stops_colons_of_numeral (h : Numeral s n) (rest : List Char) :
    Stops (fun c => c = ':' || Text.isBlank c) (s ++ rest) := by
  have hblank := stops_isBlank_of_numeral h rest
  cases s with
  | nil => exact absurd rfl h.ne_nil
  | cons c s =>
    have hc := h.isDigit c (List.mem_cons_self ..)
    refine Text.Stops_cons.2 ?_
    rw [Text.Stops_cons.1 hblank, Bool.or_false, decide_eq_false_iff_not]
    rintro rfl
    cases hc

/-- Colons and white space are passed over. -/
theorem takes_colons : Takes colons
    (fun s _ => ∀ c ∈ s, c = ':' ∨ Text.isBlank c = true) fun c => c = ':' || Text.isBlank c where
  sound {s a r} h := by
    obtain ⟨front, rest, rfl, hfront, hrest⟩ :=
      Text.exists_stops (fun c => c = ':' || Text.isBlank c) s
    cases h
    refine ⟨front, congrArg (front ++ ·) (Text.dropWhile_append hfront hrest).symm, fun c hc => ?_⟩
    simpa using hfront c hc
  complete {front a r} hfront hr := by
    refine congrArg (fun t => Except.ok ((), t)) (Text.dropWhile_append (fun c hc => ?_) hr)
    simpa using hfront c hc

/-- The amount of an offset is taken. -/
theorem takes_offsetAmount : Takes offsetAmount AmountOf goesOn := by
  have htwo : Takes twoDigits TwoDigits fun _ => false := takes_twoDigits
  unfold offsetAmount
  refine Takes.congr (htwo.bind (fun hours => takes_colons.bind (fun _ => htwo.bind (fun minutes =>
    takes_ite (3600 * hours + 60 * minutes) _) ?_) ?_) ?_) fun s n => ?_
  · exact fun _ _ _ _ => rfl
  · rintro _ _ n r ⟨minutes, m, _, rfl, ⟨hm, -⟩, -⟩ -
    rw [List.append_assoc]
    exact stops_colons_of_numeral hm _
  · exact fun _ _ _ _ => rfl
  · constructor
    · rintro ⟨hours, h, _, rfl, hh, between, _, _, rfl, hbetween, minutes, m, _, rfl, hm, rfl, hlt,
        rfl⟩
      rw [List.append_nil]
      exact .mk hh hbetween hm hlt
    · rintro ⟨hh, hbetween, hm, hlt⟩
      exact ⟨_, _, _, rfl, hh, _, (), _, rfl, hbetween, _, _, [], (List.append_nil _).symm, hm, rfl,
        hlt, rfl⟩

/-- The code point of a character as a capital letter. -/
theorem toNat_toUpper (c : Char) :
    c.toUpper.toNat = if 97 ≤ c.toNat ∧ c.toNat ≤ 122 then c.toNat - 32 else c.toNat := by
  have hiff : 'a'.val ≤ c.val ∧ c.val ≤ 'z'.val ↔ 97 ≤ c.toNat ∧ c.toNat ≤ 122 := by
    rw [UInt32.le_iff_toNat_le, UInt32.le_iff_toNat_le]
    rfl
  unfold Char.toUpper
  by_cases h : 97 ≤ c.toNat ∧ c.toNat ≤ 122
  · rw [if_pos h, dif_pos (hiff.2 h)]
    show (c.val + ('A'.val - 'a'.val)).toNat = c.toNat - 32
    have hval : c.val.toNat = c.toNat := rfl
    have hstep : ('A'.val - 'a'.val).toNat = 4294967264 := by decide
    rw [UInt32.toNat_add, hstep, hval]
    omega
  · rw [if_neg h, dif_neg fun hc => h (hiff.1 hc)]

/-- A capital letter is that of itself and of the small letter. -/
theorem toUpper_eq_iff {d e : Char} (hd : 65 ≤ d.toNat ∧ d.toNat ≤ 90)
    (he : e.toNat = d.toNat + 32) : c.toUpper = d ↔ c = d ∨ c = e := by
  rw [← Char.toNat_inj, ← Char.toNat_inj, ← Char.toNat_inj, toNat_toUpper, he]
  split <;> omega

/-- Three characters are the name of universal time. -/
theorem map_toUpper_eq_iff {u t c : Char} : [u, t, c].map Char.toUpper = ['U', 'T', 'C'] ↔
    (u = 'U' ∨ u = 'u') ∧ (t = 'T' ∨ t = 't') ∧ (c = 'C' ∨ c = 'c') := by
  rw [← toUpper_eq_iff (by decide) (by decide), ← toUpper_eq_iff (by decide) (by decide),
    ← toUpper_eq_iff (by decide) (by decide)]
  simp

/-- Reads an offset that is not the name of universal time. -/
def zoneMark : Step Int := do
  match (← get) with
  | [] => throw .tooShort
  | c :: r =>
    set r
    if c = 'Z' ∨ c = 'z' then pure 0
    else if c = '+' then pure ((← offsetAmount) : Int)
    else if c = '-' ∨ c = '\u2212' then pure (-((← offsetAmount) : Int))
    else throw .invalid

/-- The character in front decides what is read. -/
theorem zoneMark_cons (c : Char) (r : List Char) : zoneMark (c :: r) =
    (if c = 'Z' ∨ c = 'z' then pure 0
      else if c = '+' then do pure ((← offsetAmount) : Int)
      else if c = '-' ∨ c = '\u2212' then do pure (-((← offsetAmount) : Int))
      else throw .invalid : Step Int) r := rfl

/-- An offset that is not the name of universal time is taken. -/
theorem takes_zoneMark : Takes zoneMark OffsetOf goesOn where
  sound {s offset r} h := by
    cases s with
    | nil => cases h
    | cons c s =>
      have hamount : Takes offsetAmount AmountOf goesOn := takes_offsetAmount
      rw [zoneMark_cons] at h
      split at h
      · next hc =>
        cases h
        exact ⟨[c], rfl, .zulu hc⟩
      split at h
      · next hc =>
        obtain ⟨front, rfl, n, hn, rfl⟩ := (hamount.map fun n => (n : Int)).sound h
        exact ⟨c :: front, rfl, hc ▸ .east hn⟩
      split at h
      · next hc =>
        obtain ⟨front, rfl, n, hn, rfl⟩ := (hamount.map fun n => -(n : Int)).sound h
        exact ⟨c :: front, rfl, .west hc hn⟩
      · cases h
  complete {front offset r} hfront hr := by
    have hamount : Takes offsetAmount AmountOf goesOn := takes_offsetAmount
    cases hfront with
    | zulu hc =>
      show zoneMark (_ :: r) = _
      rw [zoneMark_cons, if_pos hc]
      rfl
    | east h =>
      rw [List.cons_append, zoneMark_cons, if_neg (by decide), if_pos rfl]
      exact (hamount.map fun n => (n : Int)).complete ⟨_, h, rfl⟩ hr
    | @west c s n hc h =>
      have hother : ¬ (c = 'Z' ∨ c = 'z') ∧ c ≠ '+' := by rcases hc with rfl | rfl <;> decide
      rw [List.cons_append, zoneMark_cons, if_neg hother.1, if_neg hother.2, if_pos hc]
      exact (hamount.map fun n => -(n : Int)).complete ⟨_, h, rfl⟩ hr

/-- The name of universal time is read. -/
theorem zone_utc {u t c : Char} (h : [u, t, c].map Char.toUpper = ['U', 'T', 'C'])
    (r : List Char) : zone (u :: t :: c :: r) = .ok (0, r) := by
  show (if [u, t, c].map Char.toUpper = ['U', 'T', 'C'] then _ else _ : Step Int) _ = _
  rw [if_pos h]
  rfl

/-- Where it does not stand, an offset is read. -/
theorem zone_eq_zoneMark
    (h : ∀ u t c r, s = u :: t :: c :: r → [u, t, c].map Char.toUpper ≠ ['U', 'T', 'C']) :
    zone s = zoneMark s := by
  match s with
  | [] | [_] | [_, _] => rfl
  | u :: t :: c :: r =>
    show (if [u, t, c].map Char.toUpper = ['U', 'T', 'C'] then _ else zoneMark : Step Int) _ = _
    rw [if_neg (h u t c r rfl)]

/-- What says how far a time is from universal time is taken. -/
theorem takes_zone : Takes zone ZoneOf goesOn where
  sound {s offset r} h := by
    by_cases hname : ∃ u t c r, s = u :: t :: c :: r ∧ [u, t, c].map Char.toUpper = ['U', 'T', 'C']
    · obtain ⟨u, t, c, rest, rfl, hutc⟩ := hname
      rw [zone_utc hutc] at h
      cases h
      obtain ⟨hu, ht, hc⟩ := map_toUpper_eq_iff.1 hutc
      exact ⟨[u, t, c], rfl, .utc hu ht hc⟩
    · have hother : ∀ u t c r, s = u :: t :: c :: r →
          [u, t, c].map Char.toUpper ≠ ['U', 'T', 'C'] :=
        fun u t c r hs hutc => hname ⟨u, t, c, r, hs, hutc⟩
      rw [zone_eq_zoneMark hother] at h
      have hmark : Takes zoneMark OffsetOf goesOn := takes_zoneMark
      obtain ⟨front, hfront, hoffset⟩ := hmark.sound h
      exact ⟨front, hfront, .offset hoffset⟩
  complete {front offset r} hfront hr := by
    cases hfront with
    | utc hu ht hc => exact zone_utc (map_toUpper_eq_iff.2 ⟨hu, ht, hc⟩) r
    | offset h =>
      obtain ⟨c, t, rfl, hc⟩ := h.exists_cons
      have hfirst : ∀ c ∈ ['Z', 'z', '+', '-', '\u2212'], ¬ (c = 'U' ∨ c = 'u') := by
        simp only [List.forall_mem_cons, List.not_mem_nil, false_imp_iff, implies_true, and_true]
        decide
      have hother : ∀ u t' c' r', c :: t ++ r = u :: t' :: c' :: r' →
          [u, t', c'].map Char.toUpper ≠ ['U', 'T', 'C'] := by
        intro u t' c' r' heq hutc
        obtain ⟨hu, -⟩ := map_toUpper_eq_iff.1 hutc
        exact hfirst c hc ((List.cons.inj heq).1 ▸ hu)
      rw [zone_eq_zoneMark hother]
      exact takes_zoneMark.complete h hr

/-! ## Dates and times -/

/-- A date is taken. -/
theorem takes_dateFields : Takes dateFields DateOf Char.isDigit := by
  unfold dateFields
  refine Takes.congr (takes_yearField.bindMark (fun y => (takes_field 1 12).bindMark (fun m =>
    (takes_field 1 31).map (fun d => Date.mk y m d)) (by decide) (by decide)) (by decide)
      (by decide)) fun s d => ?_
  constructor
  · rintro ⟨_, y, before', _, rfl, ⟨before, year, rfl, hbefore, hyear⟩, hbefore', month, m,
      before'', day, rfl, hmonth, hbefore'', n, hday, rfl⟩
    rw [List.append_assoc]
    exact .mk hbefore hyear hbefore' hmonth hbefore'' hday
  · rintro ⟨hbefore, hyear, hbefore', hmonth, hbefore'', hday⟩
    exact ⟨_, _, _, _, (List.append_assoc ..).symm, ⟨_, _, rfl, hbefore, hyear⟩, hbefore', _, _, _,
      _, rfl, hmonth, hbefore'', _, hday, rfl⟩

/-- Reads the fields of a date and time. What stands behind them is left. -/
def body : Step Stamp := do
  let date ← dateFields
  separator
  let hour ← field 0 23
  blanks; mark ':'
  let minute ← field 0 59
  blanks; mark ':'
  let second ← field 0 60
  let nano ← fraction
  blanks
  let east ← zone
  pure ⟨date, hour, minute, second, nano, east⟩

/-- What stands behind the fields has to be white space. -/
theorem fields_eq : fields = body >>= fun t => get >>= fun rest =>
    if (Text.dropBlanks rest).isEmpty then pure t else throw .tooLong := by
  simp only [fields, body, bind_assoc, pure_bind]

/-- What may stand between the second and the offset does not go on with the second. -/
theorem stops_isDigit_fraction {fraction before zone : List Char} {nano : Nat} {offset : Int}
    (hfraction : FractionOf fraction nano) (hbefore : Blanks before) (hzone : ZoneOf zone offset)
    (rest : List Char) : Stops Char.isDigit (fraction ++ (before ++ zone) ++ rest) := by
  cases hfraction with
  | none =>
    obtain ⟨c, t, rfl, -, hdigit, -⟩ := hzone.exists_cons
    rw [List.nil_append, List.append_assoc]
    exact stops_of_blanks (fun _ => isBlank_of_isDigit) hbefore (Text.Stops_cons.2 hdigit)
  | point h => exact Text.Stops_cons.2 (by decide)

/-- What stands before the offset does not go on with a fraction. -/
theorem stops_fraction_zone {before zone : List Char} {offset : Int} (hbefore : Blanks before)
    (hzone : ZoneOf zone offset) (rest : List Char) :
    Stops (fun c => c.isDigit || c == '.') (before ++ zone ++ rest) := by
  obtain ⟨c, t, rfl, -, hdigit, hpoint⟩ := hzone.exists_cons
  rw [List.append_assoc]
  refine stops_of_blanks (fun c hc => ?_) hbefore (Text.Stops_cons.2 ?_)
  · rcases Bool.or_eq_true_iff.1 hc with hc | hc
    · exact isBlank_of_isDigit hc
    · rw [beq_iff_eq.1 hc]
      rfl
  · rw [hdigit, beq_eq_false_iff_ne.2 hpoint]
    rfl

/-- The fields of a date and time are taken. -/
theorem takes_body : Takes body StampOf goesOn := by
  have hseparator : Takes separator (fun s _ => ∃ c, s = [c] ∧ (c = 'T' ∨ c = 't' ∨ c = ' '))
    fun _ => false := takes_separator
  have hzone : Takes zone ZoneOf goesOn := takes_zone
  unfold body
  refine Takes.congr (takes_dateFields.bind (fun date => hseparator.bind (fun _ =>
    (takes_field 0 23).bindMark (fun hour => (takes_field 0 59).bindMark (fun minute =>
      (takes_field 0 60).bind (fun second => takes_fraction.bind (fun nano =>
        takes_blanks.bind (fun _ => hzone.map fun east =>
          Stamp.mk date hour minute second nano east) ?_) ?_) ?_)
      (by decide) (by decide)) (by decide) (by decide)) ?_) ?_) fun s t => ?_
  · rintro _ s t r ⟨east, heast, rfl⟩ -
    obtain ⟨c, s, rfl, hblank, -⟩ := heast.exists_cons
    exact Text.Stops_cons.2 hblank
  · rintro nano _ t r ⟨before, _, zone, rfl, hbefore, east, heast, rfl⟩ -
    exact stops_fraction_zone hbefore heast r
  · rintro second _ t r ⟨fraction, nano, _, rfl, hfraction, before, _, zone, rfl, hbefore, east,
      heast, rfl⟩ -
    exact stops_isDigit_fraction hfraction hbefore heast r
  · exact fun _ _ _ _ => rfl
  · rintro date _ t r ⟨_, _, back, rfl, ⟨c, rfl, hc⟩, -⟩ -
    exact Text.Stops_cons.2 (by rcases hc with rfl | rfl | rfl <;> decide)
  · constructor
    · rintro ⟨_, date, _, rfl, hdate, _, _, _, rfl, ⟨c, rfl, hc⟩, hour, h, before, _, rfl, hhour,
        hbefore, minute, m, before', _, rfl, hminute, hbefore', second, s, _, rfl, hsecond,
        fraction, nano, _, rfl, hfraction, before'', _, zone, rfl, hbefore'', east, heast, rfl⟩
      exact .mk hdate hc hhour hbefore hminute hbefore' hsecond hfraction hbefore'' heast
    · rintro ⟨hdate, hc, hhour, hbefore, hminute, hbefore', hsecond, hfraction, hbefore'', heast⟩
      exact ⟨_, _, _, rfl, hdate, [_], (), _, rfl, ⟨_, rfl, hc⟩, _, _, _, _, rfl, hhour, hbefore,
        _, _, _, _, rfl, hminute, hbefore', _, _, _, rfl, hsecond, _, _, _, rfl, hfraction,
        _, (), _, rfl, hbefore'', _, heast, rfl⟩

/-- A text has nothing but white space if and only if nothing is left of it without that. -/
theorem isEmpty_dropBlanks_iff : (Text.dropBlanks s).isEmpty = true ↔ Blanks s := by
  rw [List.isEmpty_iff, Text.dropBlanks, List.dropWhile_eq_nil_iff]
  exact Iff.rfl

/-- A text is read as a date and time if and only if it is spelled as one, and with the same
fields. -/
theorem read_eq_ok_iff {t : Stamp} : read s = .ok t ↔ Spells s t := by
  have hbody : Takes body StampOf fun _ => false := takes_body
  have hread : read s = .ok t ↔ ∃ r, fields s = .ok (t, r) := by
    show Except.map Prod.fst (fields s) = .ok t ↔ _
    cases fields s with
    | error e => exact ⟨nofun, fun ⟨_, h⟩ => nomatch h⟩
    | ok p => exact ⟨fun h => ⟨p.2, by cases h; rfl⟩, fun ⟨_, h⟩ => by cases h; rfl⟩
  rw [hread, fields_eq]
  constructor
  · rintro ⟨r, h⟩
    obtain ⟨t', rest, hs, hend⟩ := bind_eq_ok.1 h
    obtain ⟨_, _, ⟨⟩, hend⟩ := bind_eq_ok.1 hend
    obtain ⟨front, rfl, hfront⟩ := hbody.sound hs
    split at hend
    · next hblanks =>
      cases hend
      exact .mk hfront (isEmpty_dropBlanks_iff.1 hblanks)
    · cases hend
  · rintro ⟨h, hafter⟩
    rw [bind_ok (hbody.complete h fun _ _ => rfl)]
    exact ⟨_, congrFun (if_pos (isEmpty_dropBlanks_iff.2 hafter)) _⟩

end

end Stamp

end LogGate.Time
