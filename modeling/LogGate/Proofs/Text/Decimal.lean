import LogGate.Text.Integer
import Mathlib.Algebra.Group.Nat.Defs
import Mathlib.Data.List.Induction

/-!
# Rows of digits and the numbers they denote

`Numeral` says which texts are rows of one or more decimal digits, and which number each of them
denotes: the row grows at its end, and a digit put there shifts what was before it by one place. It
is what `natural?` reads (`natural?_eq_some_iff`), with any number of leading zeros and without a
bound. `Signed` is the same for a row behind a sign, which `integer?` reads. In the other direction
the digits that `padded` writes are a numeral of the number.
-/

namespace LogGate.Text

/-- A row of one or more decimal digits, with the number that it denotes. -/
inductive Numeral : List Char → Nat → Prop where
  /-- A digit alone denotes itself. -/
  | digit {d : Nat} (hd : d < 10) : Numeral [d.digitChar] d
  /-- A digit put behind a row makes tens of what the row denoted. -/
  | snoc {s : List Char} {n d : Nat} (h : Numeral s n) (hd : d < 10) :
      Numeral (s ++ [d.digitChar]) (10 * n + d)

/-- A sign and a row of digits, with the integer that they denote. -/
inductive Signed : List Char → Int → Prop where
  | plus {s : List Char} {n : Nat} (h : Numeral s n) : Signed ('+' :: s) n
  | minus {s : List Char} {n : Nat} (h : Numeral s n) : Signed ('-' :: s) (-n)

section
variable {s t : List Char} {n m d : Nat} {c : Char}

/-! ## Digits -/

/-- Every decimal digit is the digit of a number below ten. -/
theorem exists_digitChar (h : c.isDigit = true) : ∃ d, d < 10 ∧ c = d.digitChar := by
  obtain ⟨hlow, hhigh⟩ := Char.isDigit_iff_toNat.1 h
  have hlow : 48 ≤ c.toNat := hlow
  have hhigh : c.toNat ≤ 57 := hhigh
  have hd : c.toNat - 48 < 10 := by omega
  refine ⟨c.toNat - 48, hd, Char.toNat_inj.1 ?_⟩
  rw [Nat.toNat_digitChar_of_lt_ten hd]
  omega

/-- The digit of a number below ten is a decimal digit. -/
theorem isDigit_digitChar (hd : d < 10) : d.digitChar.isDigit = true := by
  rw [Nat.isDigit_digitChar]
  exact decide_eq_true hd

@[simp] theorem digitsValue_nil : digitsValue [] = 0 := rfl

/-- A character behind a row counts for what it is worth as a digit. -/
theorem digitsValue_snoc (s : List Char) (c : Char) :
    digitsValue (s ++ [c]) = 10 * digitsValue s + (c.toNat - '0'.toNat) := by
  rw [digitsValue, List.foldl_append]
  rfl

/-- A digit behind a row counts ones. -/
theorem digitsValue_snoc_digitChar (s : List Char) (hd : d < 10) :
    digitsValue (s ++ [d.digitChar]) = 10 * digitsValue s + d := by
  rw [digitsValue_snoc]
  exact congrArg _ (Nat.toNat_digitChar_sub_48_of_lt_ten hd)

/-! ## Numerals -/

/-- A numeral has a digit. -/
theorem Numeral.ne_nil (h : Numeral s n) : s ≠ [] := by
  cases h with
  | digit => exact List.cons_ne_nil _ _
  | snoc => exact List.append_ne_nil_of_right_ne_nil _ (List.cons_ne_nil _ _)

/-- A numeral has nothing but digits. -/
theorem Numeral.isDigit (h : Numeral s n) : ∀ c ∈ s, c.isDigit = true := by
  induction h with
  | digit hd =>
    intro c hc
    rw [List.mem_singleton.1 hc]
    exact isDigit_digitChar hd
  | snoc _ hd ih =>
    intro c hc
    rcases List.mem_append.1 hc with hc | hc
    · exact ih c hc
    · rw [List.mem_singleton.1 hc]
      exact isDigit_digitChar hd

/-- A numeral denotes what its digits come to. -/
theorem Numeral.digitsValue_eq (h : Numeral s n) : digitsValue s = n := by
  induction h with
  | digit hd => exact (digitsValue_snoc_digitChar [] hd).trans (by simp)
  | snoc _ hd ih => rw [digitsValue_snoc_digitChar _ hd, ih]

/-- A numeral of so many digits denotes less than the power of ten that has one more. -/
theorem Numeral.lt_pow (h : Numeral s n) : n < 10 ^ s.length := by
  induction h with
  | digit hd => exact hd
  | snoc _ hd ih =>
    rw [List.length_append, List.length_singleton, Nat.pow_succ]
    omega

/-- Where a row is cut, the digits in front count as many powers of ten as there are behind. -/
theorem digitsValue_append (s t : List Char) :
    digitsValue (s ++ t) = digitsValue s * 10 ^ t.length + digitsValue t := by
  induction t using List.reverseRecOn with
  | nil => simp
  | append_singleton t c ih =>
    rw [← List.append_assoc, digitsValue_snoc, digitsValue_snoc, ih, List.length_append,
      List.length_singleton, Nat.pow_succ, ← Nat.mul_assoc, Nat.mul_comm _ 10, Nat.mul_add]
    omega

/-- A row of one or more digits is a numeral. -/
theorem numeral_digitsValue (hne : s ≠ []) (hs : ∀ c ∈ s, c.isDigit = true) :
    Numeral s (digitsValue s) := by
  induction s using List.reverseRecOn with
  | nil => exact absurd rfl hne
  | append_singleton s c ih =>
    obtain ⟨d, hd, rfl⟩ := exists_digitChar (hs c (by simp))
    rw [digitsValue_snoc_digitChar _ hd]
    cases s with
    | nil => simpa using Numeral.digit hd
    | cons a s =>
      exact .snoc (ih (List.cons_ne_nil a s) fun c hc => hs c (List.mem_append_left _ hc)) hd

/-- Digits denote less than the power of ten that has one digit more. -/
theorem digitsValue_lt (hs : ∀ c ∈ s, c.isDigit = true) : digitsValue s < 10 ^ s.length := by
  by_cases hne : s = []
  · rw [hne]
    decide
  · exact (numeral_digitsValue hne hs).lt_pow

/-- What is read as a natural number is a numeral of it. -/
theorem natural?_eq_some_iff : natural? s = some n ↔ Numeral s n := by
  constructor
  · intro h
    unfold natural? at h
    split at h
    · rename_i hs
      rw [Bool.and_eq_true, Bool.not_eq_true', List.isEmpty_eq_false_iff, List.all_eq_true] at hs
      cases h
      exact numeral_digitsValue hs.1 hs.2
    · cases h
  · intro h
    have hs : (!s.isEmpty && s.all Char.isDigit) = true := by
      rw [Bool.and_eq_true, Bool.not_eq_true', List.isEmpty_eq_false_iff, List.all_eq_true]
      exact ⟨h.ne_nil, h.isDigit⟩
    rw [natural?, if_pos hs, h.digitsValue_eq]

/-! ## Writing -/

/-- The digits of a number are a numeral of it. -/
theorem numeral_toDigits (n : Nat) : Numeral (Nat.toDigits 10 n) n := by
  induction n using Nat.strongRecOn with
  | _ n ih =>
    by_cases hn : n < 10
    · rw [Nat.toDigits_of_lt_base hn]
      exact .digit hn
    · rw [Nat.toDigits_of_base_le (by decide) (Nat.le_of_not_lt hn)]
      have h := (ih (n / 10) (by omega)).snoc (Nat.mod_lt n (by decide : 0 < 10))
      rwa [Nat.div_add_mod] at h

/-- A zero before a numeral changes nothing. -/
theorem Numeral.zero_cons (h : Numeral s n) : Numeral ('0' :: s) n := by
  induction h with
  | digit hd =>
    have h := (Numeral.digit (by decide : 0 < 10)).snoc hd
    rw [Nat.mul_zero, Nat.zero_add] at h
    exact h
  | snoc _ hd ih => exact ih.snoc hd

/-- What is written for a number is a numeral of it, whatever the width. -/
theorem numeral_padded (width n : Nat) : Numeral (padded width n).toList n := by
  rw [padded, String.toList_ofList]
  induction width - (Nat.toDigits 10 n).length with
  | zero => exact numeral_toDigits n
  | succ k ih => exact ih.zero_cons

/-- What is written for a number is no shorter than its width. -/
theorem le_length_padded (width n : Nat) : width ≤ (padded width n).toList.length := by
  rw [padded, String.toList_ofList, List.length_append, List.length_replicate]
  omega

/-- A number that fits a width is written in just that width. -/
theorem length_padded {width : Nat} (hwidth : 0 < width) (h : n < 10 ^ width) :
    (padded width n).toList.length = width := by
  have hlength := (Nat.length_toDigits_le_iff (by decide) hwidth).2 h
  rw [padded, String.toList_ofList, List.length_append, List.length_replicate]
  omega

/-! ## Signed numerals -/

/-- What is read behind a sign is a signed numeral. -/
theorem integer?_eq_some_iff {i : Int} (hc : c = '+' ∨ c = '-') :
    integer? (c :: s) = some i ↔ Signed (c :: s) i := by
  rcases hc with rfl | rfl
  · constructor
    · intro h
      obtain ⟨n, hn, rfl⟩ := Option.map_eq_some_iff.1 h
      exact .plus (natural?_eq_some_iff.1 hn)
    · intro h
      cases h with
      | plus h => exact Option.map_eq_some_iff.2 ⟨_, natural?_eq_some_iff.2 h, rfl⟩
  · constructor
    · intro h
      obtain ⟨n, hn, rfl⟩ := Option.map_eq_some_iff.1 h
      exact .minus (natural?_eq_some_iff.1 hn)
    · intro h
      cases h with
      | minus h => exact Option.map_eq_some_iff.2 ⟨_, natural?_eq_some_iff.2 h, rfl⟩

/-- A signed numeral starts with a sign. -/
theorem Signed.sign {i : Int} (h : Signed (c :: s) i) : c = '+' ∨ c = '-' := by
  cases h with
  | plus => exact .inl rfl
  | minus => exact .inr rfl

/-- A numeral does not. -/
theorem Numeral.not_sign (h : Numeral (c :: s) n) : ¬ (c = '+' ∨ c = '-') := by
  have hc := h.isDigit c (List.mem_cons_self ..)
  rintro (rfl | rfl)
  · exact absurd hc (by decide)
  · exact absurd hc (by decide)

end

end LogGate.Text
