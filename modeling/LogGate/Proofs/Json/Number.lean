import LogGate.Json.Numeral
import LogGate.Proofs.Text.Split

/-!
# The form of numbers

A number is an optional minus sign, a whole part without needless zeros, a fraction if there is one
and an exponent if there is one (`Number`). Reading one takes it whole from the front of a document,
provided that nothing follows which could still belong to it (`Unsigned.read`), and takes nothing
else (`unsigned_of_read`). The parts come one after the other, and each has the same two halves.
-/

namespace LogGate.Json.Numeral

open Text (Stops)

/-- A row of digits, of which there is one at least. -/
structure Digits (s : List Char) : Prop where
  ne_nil : s ≠ []
  isDigit : ∀ c ∈ s, c.isDigit = true

/-- A whole part: a zero, or digits of which the first is none. -/
inductive Whole : List Char → Prop where
  | zero : Whole ['0']
  | digits {c : Char} {s : List Char} (hc : c ≠ '0') (h : Digits (c :: s)) : Whole (c :: s)

/-- A fraction, or none. -/
inductive Fraction : List Char → Prop where
  | absent : Fraction []
  | present {s : List Char} (h : Digits s) : Fraction ('.' :: s)

/-- An exponent, or none. -/
inductive Exponent : List Char → Prop where
  | absent : Exponent []
  | present {mark : Char} {sign s : List Char} (hmark : mark = 'e' ∨ mark = 'E')
    (hsign : sign = [] ∨ sign = ['+'] ∨ sign = ['-']) (h : Digits s) :
    Exponent (mark :: (sign ++ s))

/-- A number without a sign. -/
inductive Unsigned : List Char → Prop where
  | mk {w f e : List Char} (hw : Whole w) (hf : Fraction f) (he : Exponent e) :
    Unsigned (w ++ (f ++ e))

/-- A number. -/
inductive Number : List Char → Prop where
  | plain {s : List Char} (h : Unsigned s) : Number s
  | negative {s : List Char} (h : Unsigned s) : Number ('-' :: s)

/-- Whether a character behind a number could belong to it. -/
def goesOn (c : Char) : Bool := c.isDigit || c == '.' || c == 'e' || c == 'E'

section
variable {how : Scrutiny} {s t w rest : List Char}

/-! ## Digits -/

/-- Digits are taken up to where they stop. -/
theorem run_append (h : ∀ c ∈ s, c.isDigit = true) (hr : Stops Char.isDigit rest) :
    run (s ++ rest) = (s, rest) :=
  Prod.ext (Text.takeWhile_append h hr) (Text.dropWhile_append h hr)

/-- What is taken are digits. -/
theorem run_eq (s : List Char) : s = (run s).1 ++ (run s).2 ∧ ∀ c ∈ (run s).1, c.isDigit = true :=
  ⟨List.takeWhile_append_dropWhile.symm, List.all_eq_true.1 List.all_takeWhile⟩

/-- Digits are read. -/
theorem Digits.read (h : Digits s) (hr : Stops Char.isDigit rest) :
    readDigits how (s ++ rest) = .ok (s, rest) := by
  have hne : s.isEmpty = false := by
    rw [List.isEmpty_eq_false_iff]
    exact h.ne_nil
  rw [readDigits, run_append h.isDigit hr, hne]
  rfl

/-- What is read are digits. -/
theorem digits_of_read (h : readDigits how s = .ok (t, rest)) : s = t ++ rest ∧ Digits t := by
  obtain ⟨hsplit, hdigits⟩ := run_eq s
  rw [readDigits] at h
  by_cases hne : (run s).1.isEmpty = true
  · rw [if_pos hne] at h
    cases h
  · rw [if_neg hne] at h
    obtain ⟨rfl, rfl⟩ := Prod.mk.inj (Except.ok.inj h)
    exact ⟨hsplit, fun hnil => hne (by rw [run, hnil]; rfl), hdigits⟩

/-! ## Parts -/

/-- A whole part is read. -/
theorem Whole.read (h : Whole w) (hr : Stops Char.isDigit rest) :
    readWhole how (w ++ rest) = .ok (w, rest) := by
  cases h with
  | zero =>
    have hrun : run rest = ([], rest) := run_append (s := []) nofun hr
    show readWhole how ('0' :: rest) = _
    rw [readWhole, if_pos rfl, hrun]
    rfl
  | @digits c s hc h =>
    rw [List.cons_append, readWhole, if_neg hc, if_pos (h.isDigit c (.head _)),
      ← List.cons_append, run_append h.isDigit hr]

/-- What is read is a whole part. -/
theorem whole_of_read (h : readWhole how s = .ok (w, rest)) : s = w ++ rest ∧ Whole w := by
  cases s with
  | nil => cases h
  | cons c s =>
    rw [readWhole] at h
    by_cases hc : c = '0'
    · rw [if_pos hc] at h
      split at h
      · cases h; exact ⟨by rw [hc]; rfl, .zero⟩
      · cases h
    · rw [if_neg hc] at h
      by_cases hdigit : c.isDigit = true
      · obtain ⟨hsplit, hdigits⟩ := run_eq (c :: s)
        have hrun : (run (c :: s)).1 = c :: (run s).1 := List.takeWhile_cons_of_pos hdigit
        rw [if_pos hdigit] at h
        rw [Except.ok.inj h] at hsplit hdigits hrun
        obtain rfl : w = c :: (run s).1 := hrun
        exact ⟨hsplit, .digits hc ⟨List.cons_ne_nil _ _, hdigits⟩⟩
      · rw [if_neg hdigit] at h
        cases h

/-- Without a point there is no fraction. -/
theorem readFraction_absent (hpoint : s.head? ≠ some '.') :
    readFraction how s = .ok (none, s) := by
  unfold readFraction
  split
  · exact absurd rfl hpoint
  · rfl

/-- A fraction is read, if no digits follow it and no point follows where there is none. -/
theorem Fraction.read (h : Fraction s) (how : Scrutiny) (hr : Stops Char.isDigit rest)
    (hpoint : rest.head? ≠ some '.') : ∃ a, readFraction how (s ++ rest) = .ok (a, rest) := by
  cases h with
  | absent => exact ⟨none, readFraction_absent hpoint⟩
  | present h =>
    rw [List.cons_append, readFraction, h.read hr]
    exact ⟨_, rfl⟩

/-- What is read is a fraction. -/
theorem fraction_of_read {a : Option (List Char)} (h : readFraction how s = .ok (a, rest)) :
    ∃ t, s = t ++ rest ∧ Fraction t := by
  unfold readFraction at h
  split at h
  · next t =>
    cases hd : readDigits how t with
    | error f => rw [hd] at h; cases h
    | ok p =>
      obtain ⟨digits, r⟩ := p
      rw [hd] at h
      cases h
      obtain ⟨hsplit, hdigits⟩ := digits_of_read hd
      exact ⟨'.' :: digits, congrArg _ hsplit, .present hdigits⟩
  · cases h
    exact ⟨[], rfl, .absent⟩

/-- Behind its mark and its sign, an exponent has digits. -/
theorem readExponent_mark {mark : Char} {sign : List Char} (hmark : mark = 'e' ∨ mark = 'E')
    (hsign : sign = [] ∨ sign = ['+'] ∨ sign = ['-'])
    (hs : sign = [] → s.head? ≠ some '+' ∧ s.head? ≠ some '-') :
    readExponent how (mark :: (sign ++ s)) =
      (readDigits how s).map fun (digits, r) => (some (sign == ['-'], digits), r) := by
  rcases hsign with rfl | rfl | rfl
  · rw [List.nil_append, readExponent, if_pos hmark]
    · rfl
    · rintro r rfl; exact (hs rfl).2 rfl
    · rintro r rfl; exact (hs rfl).1 rfl
  · show readExponent how (mark :: '+' :: s) = _
    rw [readExponent, if_pos hmark]
    rfl
  · show readExponent how (mark :: '-' :: s) = _
    rw [readExponent, if_pos hmark]
    rfl

/-- Without a mark there is no exponent. -/
theorem readExponent_absent (hmark : s.head? ≠ some 'e' ∧ s.head? ≠ some 'E') :
    readExponent how s = .ok (none, s) := by
  cases s with
  | nil => rfl
  | cons c s =>
    have hc : ¬ (c = 'e' ∨ c = 'E') := by
      rintro (rfl | rfl)
      · exact hmark.1 rfl
      · exact hmark.2 rfl
    unfold readExponent
    dsimp only
    rw [if_neg hc]

/-- A sign is taken from the front of a text, if there is one. -/
theorem exists_sign (s : List Char) : ∃ sign t, s = sign ++ t ∧
    (sign = [] ∨ sign = ['+'] ∨ sign = ['-']) ∧
    (sign = [] → t.head? ≠ some '+' ∧ t.head? ≠ some '-') := by
  by_cases hplus : s.head? = some '+'
  · obtain ⟨t, rfl⟩ := List.head?_eq_some_iff.mp hplus
    exact ⟨['+'], t, rfl, .inr (.inl rfl), nofun⟩
  by_cases hminus : s.head? = some '-'
  · obtain ⟨t, rfl⟩ := List.head?_eq_some_iff.mp hminus
    exact ⟨['-'], t, rfl, .inr (.inr rfl), nofun⟩
  exact ⟨[], s, rfl, .inl rfl, fun _ => ⟨hplus, hminus⟩⟩

/-- An exponent is read, if no digits follow it and no mark follows where there is none. -/
theorem Exponent.read (h : Exponent s) (how : Scrutiny) (hr : Stops Char.isDigit rest)
    (hmark : rest.head? ≠ some 'e' ∧ rest.head? ≠ some 'E') :
    ∃ a, readExponent how (s ++ rest) = .ok (a, rest) := by
  cases h with
  | absent => exact ⟨none, readExponent_absent hmark⟩
  | @present mark sign s hmark hsign h =>
    have hhead : (s ++ rest).head? ≠ some '+' ∧ (s ++ rest).head? ≠ some '-' := by
      obtain ⟨c, s, rfl⟩ := List.exists_cons_of_ne_nil h.ne_nil
      have hc := h.isDigit c (.head _)
      constructor <;> · intro heq; cases heq; cases hc
    rw [List.cons_append, List.append_assoc, readExponent_mark hmark hsign fun _ => hhead,
      h.read hr]
    exact ⟨_, rfl⟩

/-- What is read is an exponent. -/
theorem exponent_of_read {a : Option (Bool × List Char)}
    (h : readExponent how s = .ok (a, rest)) : ∃ t, s = t ++ rest ∧ Exponent t := by
  by_cases hmark : s.head? = some 'e' ∨ s.head? = some 'E'
  · have hcons : ∃ mark t, s = mark :: t ∧ (mark = 'e' ∨ mark = 'E') := by
      rcases hmark with hmark | hmark
      · obtain ⟨t, rfl⟩ := List.head?_eq_some_iff.mp hmark
        exact ⟨'e', t, rfl, .inl rfl⟩
      · obtain ⟨t, rfl⟩ := List.head?_eq_some_iff.mp hmark
        exact ⟨'E', t, rfl, .inr rfl⟩
    obtain ⟨mark, t, rfl, hmark'⟩ := hcons
    obtain ⟨sign, u, rfl, hsign, hu⟩ := exists_sign t
    rw [readExponent_mark hmark' hsign hu] at h
    cases hd : readDigits how u with
    | error f => rw [hd] at h; cases h
    | ok p =>
      obtain ⟨digits, r⟩ := p
      rw [hd] at h
      cases h
      obtain ⟨rfl, hdigits⟩ := digits_of_read hd
      refine ⟨mark :: (sign ++ digits), ?_, .present hmark' hsign hdigits⟩
      rw [List.cons_append, List.append_assoc]
  · rw [readExponent_absent (not_or.mp hmark)] at h
    cases h
    exact ⟨[], rfl, .absent⟩

/-! ## Numbers -/

/-- A number without a sign starts with a digit. -/
theorem Unsigned.exists_cons (h : Unsigned s) : ∃ c t, s = c :: t ∧ c.isDigit = true := by
  cases h with
  | mk hw hf he =>
    cases hw with
    | zero => exact ⟨'0', _, rfl, rfl⟩
    | digits _ h => exact ⟨_, _, rfl, h.isDigit _ (.head _)⟩

/-- Nothing that follows a number could belong to it. -/
theorem head?_ne_of_stops {c : Char} (hc : goesOn c = true) (hr : Stops goesOn rest) :
    rest.head? ≠ some c := by
  intro hhead
  have hstop := hr c hhead
  rw [hc] at hstop
  cases hstop

/-- No digits follow a whole part or a fraction. -/
theorem stops_isDigit (hr : Stops goesOn rest) : Stops Char.isDigit rest := by
  intro c hc
  have hstop := hr c hc
  simp only [goesOn, Bool.or_eq_false_iff] at hstop
  exact hstop.1.1.1

/-- A number is read whole, if nothing follows that could belong to it. -/
theorem Unsigned.read (h : Unsigned s) (how : Scrutiny) (hr : Stops goesOn rest) :
    ∃ n, read how (s ++ rest) = .ok (n, rest) := by
  cases h with
  | @mk w f e hw hf he =>
    have hdigit := stops_isDigit hr
    have hafter : Stops Char.isDigit (e ++ rest) ∧ (e ++ rest).head? ≠ some '.' := by
      cases he with
      | absent => exact ⟨hdigit, head?_ne_of_stops rfl hr⟩
      | present hmark hsign he =>
        rcases hmark with rfl | rfl <;> exact ⟨Text.Stops_cons.mpr rfl, by simp⟩
    have hbehind : Stops Char.isDigit (f ++ (e ++ rest)) := by
      cases hf with
      | absent => exact hafter.1
      | present => exact Text.Stops_cons.mpr rfl
    obtain ⟨a, hfraction⟩ := hf.read how hafter.1 hafter.2
    obtain ⟨b, hexponent⟩ := he.read how hdigit
      ⟨head?_ne_of_stops rfl hr, head?_ne_of_stops rfl hr⟩
    refine ⟨⟨w, a, b⟩, ?_⟩
    rw [List.append_assoc, List.append_assoc]
    simp only [Numeral.read, hw.read hbehind, hfraction, hexponent, bind, Except.bind]
    rfl

/-- What is read is a number. -/
theorem unsigned_of_read {n : Numeral} (h : read how s = .ok (n, rest)) :
    ∃ t, s = t ++ rest ∧ Unsigned t := by
  unfold read at h
  cases hw : readWhole how s with
  | error => rw [hw] at h; cases h
  | ok w =>
    rw [hw] at h
    cases hf : readFraction how w.2 with
    | error => simp [bind, Except.bind, hf] at h
    | ok f =>
      cases he : readExponent how f.2 with
      | error => simp [bind, Except.bind, hf, he] at h
      | ok e =>
        simp only [bind, Except.bind, hf, he, pure, Except.pure, Except.ok.injEq,
          Prod.mk.injEq] at h
        obtain ⟨-, rfl⟩ := h
        obtain ⟨hs, hwhole⟩ := whole_of_read hw
        obtain ⟨f', hw2, hfraction⟩ := fraction_of_read hf
        obtain ⟨e', hf2, hexponent⟩ := exponent_of_read he
        refine ⟨w.1 ++ (f' ++ e'), ?_, .mk hwhole hfraction hexponent⟩
        rw [hs, hw2, hf2, List.append_assoc, List.append_assoc]

end

end LogGate.Json.Numeral
