import LogGate.Proofs.Severity.Scale
import LogGate.Proofs.Text.Decimal
import LogGate.Proofs.Text.Split

/-!
# The grammar of severities

`Parts` cuts a text into a name and a rest, and `Meaning` says what they stand for: a severity, or
one of three errors. Neither mentions the reader. Every text has its parts (`exists_parts`) and its
parts have a meaning (`exists_meaning`), and the reader finds it (`Meaning.parse_eq`), so reading is
exactly the grammar (`parse_eq_iff`). An offset is an integer of any size in the grammar. It is
refused as such when it or its sum with the base level leaves the signed 64-bit words, and otherwise
the sum decides whether it leads off the scale; these two borders meet at the large words only,
since a base level is positive.
-/

namespace LogGate.Severity

open Text

/-- The names of the base levels in small letters, with their values. -/
def names : List (String × Nat) :=
  [("trace", 1), ("debug", 5), ("info", 9), ("warn", 13), ("warning", 13), ("error", 17),
    ("fatal", 21)]

/-- A text without the white space around it, and with its ASCII letters made small, is a name and a
rest. The name is all the letters that come before something else. -/
def Parts (text : String) (name rest : List Char) : Prop :=
  ∃ core, IsTrim text.toList core ∧ core.map Char.toLower = name ++ rest ∧
    (∀ c ∈ name, c.isAlpha = true) ∧ Stops Char.isAlpha rest

/-- An offset is a signed 64-bit word, and so is its sum with the value of a base level. -/
def OffsetFits (b : Nat) (n : Int) : Prop :=
  -9_223_372_036_854_775_808 ≤ n ∧ n ≤ 9_223_372_036_854_775_807 ∧
    b + n ≤ 9_223_372_036_854_775_807

/-- What a text with a name and a rest stands for. -/
inductive Meaning (text : String) (name rest : List Char) : Except ParseError Severity → Prop where
  | unknown (hname : ∀ b, (String.ofList name, b) ∉ names) :
      Meaning text name rest (.error (.unknownName text))
  | bare {b : Nat} {s : Severity} (hname : (String.ofList name, b) ∈ names) (hrest : rest = [])
      (hs : s.value = b) : Meaning text name rest (.ok s)
  | offset {b : Nat} {n : Int} {s : Severity} (hname : (String.ofList name, b) ∈ names)
      (hrest : Signed rest n) (hfits : OffsetFits b n) (hs : (s.value : Int) = b + n) :
      Meaning text name rest (.ok s)
  | offScale {b : Nat} {n : Int} (hname : (String.ofList name, b) ∈ names)
      (hrest : Signed rest n) (hfits : OffsetFits b n) (hoff : ¬ (1 ≤ b + n ∧ b + n ≤ 24)) :
      Meaning text name rest (.error (.outOfRange (b + n)))
  | tooFar {b : Nat} {n : Int} (hname : (String.ofList name, b) ∈ names)
      (hrest : Signed rest n) (hfits : ¬ OffsetFits b n) :
      Meaning text name rest (.error (.invalidOffset text))
  | step {b k : Nat} {s : Severity} (hname : (String.ofList name, b) ∈ names)
      (hrest : Numeral rest k) (h1 : 1 ≤ k) (h4 : k ≤ 4) (hs : s.value = b + k - 1) :
      Meaning text name rest (.ok s)
  | malformed {b : Nat} (hname : (String.ofList name, b) ∈ names) (hrest : rest ≠ [])
      (hsigned : ∀ n, ¬ Signed rest n) (hstep : ∀ k, Numeral rest k → ¬ (1 ≤ k ∧ k ≤ 4)) :
      Meaning text name rest (.error (.invalidOffset text))

section
variable {text : String} {name rest : List Char} {b k : Nat} {n : Int}
variable {r : Except ParseError Severity}

/-! ## Names -/

/-- A name of the list is a name of the family at that base level. -/
theorem ofName?_of_mem_names {name : String} (h : (name, b) ∈ names) :
    ∃ f, Family.ofName? name = some f ∧ (base f).value = b := by
  simp only [names, List.mem_cons, Prod.mk.injEq, List.not_mem_nil, or_false] at h
  rcases h with ⟨rfl, rfl⟩ | ⟨rfl, rfl⟩ | ⟨rfl, rfl⟩ | ⟨rfl, rfl⟩ | ⟨rfl, rfl⟩ | ⟨rfl, rfl⟩ |
    ⟨rfl, rfl⟩ <;> exact ⟨_, rfl, rfl⟩

/-- A name of a family stands in the list. -/
theorem mem_names_of_ofName? {name : String} {f : Family} (h : Family.ofName? name = some f) :
    (name, (base f).value) ∈ names := by
  unfold Family.ofName? at h
  split at h <;> cases h <;> decide

/-- The value of a base level is one of the scale. -/
theorem bounds_of_mem_names {name : String} (h : (name, b) ∈ names) : 1 ≤ b ∧ b ≤ 21 := by
  obtain ⟨f, -, rfl⟩ := ofName?_of_mem_names h
  have hf := f.rank_lt
  rw [value_base]
  omega

/-- A name that is not in the list is no family's. -/
theorem ofName?_eq_none {name : String} (h : ∀ b, (name, b) ∉ names) :
    Family.ofName? name = none := by
  cases hf : Family.ofName? name with
  | none => rfl
  | some f => exact absurd (mem_names_of_ofName? hf) (h _)

/-! ## Suffixes -/

/-- A word is a number between two powers of two. -/
theorem fitsWord_iff : fitsWord n = true ↔
    -9_223_372_036_854_775_808 ≤ n ∧ n ≤ 9_223_372_036_854_775_807 := by
  rw [fitsWord, Bool.and_eq_true, decide_eq_true_iff, decide_eq_true_iff]
  omega

/-- A signed numeral is read as an offset if it is a word. -/
theorem Suffix.parse?_signed (h : Signed rest n) :
    Suffix.parse? rest = if fitsWord n then some (.offset n) else none := by
  cases rest with
  | nil => cases h
  | cons c s =>
    have hsign := h.sign
    rw [Suffix.parse?, if_pos hsign, (integer?_eq_some_iff hsign).2 h]
    cases hw : fitsWord n <;> simp [hw]

/-- A numeral is read as a step if it is a number from 1 to 4. -/
theorem Suffix.parse?_numeral (h : Numeral rest k) :
    Suffix.parse? rest =
      if h : 1 ≤ k ∧ k ≤ 4 then some (.step ⟨k - 1, Suffix.pred_lt_four h⟩) else none := by
  cases rest with
  | nil => exact absurd rfl h.ne_nil
  | cons c s =>
    rw [Suffix.parse?, if_neg h.not_sign, natural?_eq_some_iff.2 h]
    rfl

/-- Anything else behind a name is not read. -/
theorem Suffix.parse?_eq_none (hrest : rest ≠ []) (hsigned : ∀ n, ¬ Signed rest n)
    (hstep : ∀ k, Numeral rest k → ¬ (1 ≤ k ∧ k ≤ 4)) : Suffix.parse? rest = none := by
  cases rest with
  | nil => exact absurd rfl hrest
  | cons c s =>
    cases hnum : natural? (c :: s) with
    | some k =>
      have hk := natural?_eq_some_iff.1 hnum
      rw [Suffix.parse?_numeral hk, dif_neg (hstep k hk)]
    | none =>
      rw [Suffix.parse?]
      by_cases hsign : c = '+' ∨ c = '-'
      · cases hint : integer? (c :: s) with
        | none => rw [if_pos hsign]; rfl
        | some n => exact absurd ((integer?_eq_some_iff hsign).1 hint) (hsigned n)
      · rw [if_neg hsign, hnum]; rfl

/-! ## Reading -/

/-- Every text has a name and a rest. -/
theorem exists_parts (text : String) : ∃ name rest, Parts text name rest := by
  obtain ⟨name, rest, hsplit, hname, hrest⟩ :=
    exists_stops Char.isAlpha ((trim text.toList).map Char.toLower)
  exact ⟨name, rest, trim text.toList, isTrim_trim _, hsplit, hname, hrest⟩

/-- The reader looks at the name and the rest of a text, and at nothing else of it. -/
theorem Parts.parse_eq (h : Parts text name rest) :
    parse text =
      match Family.ofName? (String.ofList name) with
      | none => .error (.unknownName text)
      | some family =>
        match Suffix.parse? rest with
        | none => .error (.invalidOffset text)
        | some .bare => .ok (base family)
        | some (.step k) => .ok ⟨family, k⟩
        | some (.offset distance) =>
          if fitsWord ((base family).value + distance) then
            ofValue ((base family).value + distance)
          else .error (.invalidOffset text) := by
  obtain ⟨core, htrim, hsplit, hname, hrest⟩ := h
  rewrite [parse, htrim.trim_eq, hsplit, Text.takeWhile_append hname hrest,
    Text.dropWhile_append hname hrest]
  rfl

/-- The reader finds the meaning of a text. -/
theorem Meaning.parse_eq (hp : Parts text name rest) (h : Meaning text name rest r) :
    parse text = r := by
  rw [hp.parse_eq]
  cases h with
  | unknown hname => rw [ofName?_eq_none hname]
  | @bare b s hname hrest hs =>
    obtain ⟨f, hf, rfl⟩ := ofName?_of_mem_names hname
    rw [hf, hrest, value_injective hs]
    rfl
  | @offset b n s hname hrest hfits hs =>
    obtain ⟨f, hf, rfl⟩ := ofName?_of_mem_names hname
    have hlow := bounds_of_mem_names hname
    obtain ⟨h1, h2, h3⟩ := hfits
    have hword : fitsWord n = true := fitsWord_iff.2 ⟨h1, h2⟩
    have hsum : fitsWord ((base f).value + n) = true := fitsWord_iff.2 ⟨by omega, h3⟩
    simp only [hf, Suffix.parse?_signed hrest, if_pos hword, if_pos hsum, ofValue,
      ofValue?_eq_some_iff.2 hs]
  | @offScale b n hname hrest hfits hoff =>
    obtain ⟨f, hf, rfl⟩ := ofName?_of_mem_names hname
    have hlow := bounds_of_mem_names hname
    obtain ⟨h1, h2, h3⟩ := hfits
    have hword : fitsWord n = true := fitsWord_iff.2 ⟨h1, h2⟩
    have hsum : fitsWord ((base f).value + n) = true := fitsWord_iff.2 ⟨by omega, h3⟩
    simp only [hf, Suffix.parse?_signed hrest, if_pos hword, if_pos hsum, ofValue,
      ofValue?_eq_none hoff]
  | @tooFar b n hname hrest hfits =>
    obtain ⟨f, hf, rfl⟩ := ofName?_of_mem_names hname
    simp only [hf, Suffix.parse?_signed hrest]
    by_cases hword : fitsWord n = true
    · obtain ⟨h1, h2⟩ := fitsWord_iff.1 hword
      have hsum : ¬ fitsWord ((base f).value + n) = true := by
        intro hsum
        exact hfits ⟨h1, h2, (fitsWord_iff.1 hsum).2⟩
      simp only [if_pos hword, if_neg hsum]
    · simp only [if_neg hword]
  | @step b k s hname hrest h1 h4 hs =>
    obtain ⟨f, hf, rfl⟩ := ofName?_of_mem_names hname
    have hval : (Severity.mk f ⟨k - 1, Suffix.pred_lt_four ⟨h1, h4⟩⟩).value = s.value := by
      rw [hs, value_base, value]
      show 4 * f.rank + (k - 1) + 1 = _
      omega
    simp only [hf, Suffix.parse?_numeral hrest, dif_pos (And.intro h1 h4), value_injective hval]
  | malformed hname hrest hsigned hstep =>
    obtain ⟨f, hf, -⟩ := ofName?_of_mem_names hname
    simp only [hf, Suffix.parse?_eq_none hrest hsigned hstep]

/-- Every name with a rest has a meaning. -/
theorem exists_meaning (text : String) (name rest : List Char) :
    ∃ r, Meaning text name rest r := by
  by_cases hname : ∃ b, (String.ofList name, b) ∈ names
  swap
  · exact ⟨_, .unknown fun b hb => hname ⟨b, hb⟩⟩
  obtain ⟨b, hb⟩ := hname
  obtain ⟨hb1, hb21⟩ := bounds_of_mem_names hb
  by_cases hrest : rest = []
  · obtain ⟨s, hs⟩ := exists_value (n := b) (by omega) (by omega)
    exact ⟨_, .bare hb hrest (Int.ofNat.inj hs)⟩
  by_cases hsigned : ∃ n, Signed rest n
  · obtain ⟨n, hn⟩ := hsigned
    by_cases hfits : OffsetFits b n
    · by_cases hon : 1 ≤ b + n ∧ b + n ≤ 24
      · obtain ⟨s, hs⟩ := exists_value hon.1 hon.2
        exact ⟨_, .offset hb hn hfits hs⟩
      · exact ⟨_, .offScale hb hn hfits hon⟩
    · exact ⟨_, .tooFar hb hn hfits⟩
  by_cases hstep : ∃ k, Numeral rest k ∧ 1 ≤ k ∧ k ≤ 4
  · obtain ⟨k, hk, h1, h4⟩ := hstep
    obtain ⟨s, hs⟩ := exists_value (n := (b + k - 1 : Nat)) (by omega) (by omega)
    exact ⟨_, .step hb hk h1 h4 (Int.ofNat.inj hs)⟩
  · exact ⟨_, .malformed hb hrest (fun n hn => hsigned ⟨n, hn⟩)
      fun k hk hk4 => hstep ⟨k, hk, hk4⟩⟩

/-- **Reading is the grammar.** A text is read as a severity or refused with an error exactly as its
parts mean it. As every text has parts and a meaning, no text is left without an answer, and it has
one answer only. -/
theorem parse_eq_iff (text : String) (r : Except ParseError Severity) :
    parse text = r ↔ ∃ name rest, Parts text name rest ∧ Meaning text name rest r := by
  constructor
  · rintro rfl
    obtain ⟨name, rest, hparts⟩ := exists_parts text
    obtain ⟨r, hr⟩ := exists_meaning text name rest
    rw [hr.parse_eq hparts]
    exact ⟨name, rest, hparts, hr⟩
  · rintro ⟨name, rest, hparts, hr⟩
    exact hr.parse_eq hparts

end

end LogGate.Severity
