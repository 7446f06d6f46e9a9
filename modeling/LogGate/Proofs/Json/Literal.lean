import LogGate.Json.Literal

/-!
# How texts are written, and how they are scanned

Each character of a text is written on its own, in one of three ways (`Written`), so nothing that is
written is a control character, whatever the text has (`noControl_write`). A scan has one equation
for each thing that it can meet between two characters: the closing quote, a character that stands
for itself, a short escape, and a unit in four hexadecimal digits (`Quad.scan`).
-/

namespace LogGate.Json.Literal

/-- The three ways in which a character is written: as a short escape, in digits, or as it is. -/
inductive Written (c : Char) : List Char → Prop where
  | short {d : Char} (hu : d ≠ 'u') (hd : shortEscape? d = some c) (hspace : 0x20 ≤ d.toNat) :
      Written c ['\\', d]
  | digits (hcontrol : c.toNat < 0x20) : Written c (hexEscape c)
  | plain (hquote : c ≠ '"') (hbackslash : c ≠ '\\') (hspace : ¬ c.toNat < 0x20) : Written c [c]

/-- A text has no control characters below the space. -/
def NoControl (s : List Char) : Prop := ∀ c ∈ s, 0x20 ≤ c.toNat

section
variable {acc s t rest : List Char} {c d : Char} {n : Nat}

@[simp] theorem noControl_nil : NoControl [] := nofun

@[simp] theorem noControl_cons : NoControl (c :: s) ↔ 0x20 ≤ c.toNat ∧ NoControl s :=
  List.forall_mem_cons

@[simp] theorem noControl_append : NoControl (s ++ t) ↔ NoControl s ∧ NoControl t :=
  List.forall_mem_append

/-! ## Hexadecimal digits -/

/-- The digits of the hexadecimal system are read for what they are worth. -/
theorem hexValue?_digitChar (h : n < 16) : hexValue? n.digitChar = some n := by
  revert n
  decide

/-- Every digit of the hexadecimal system comes after the space. -/
theorem space_le_digitChar (h : n < 16) : 0x20 ≤ n.digitChar.toNat := by
  revert n
  decide

/-- A unit that is no half of a pair stands for its own character. -/
theorem finishUnit_scalar (hfirst : isFirstHalf n = false) (hsecond : isSecondHalf n = false) :
    finishUnit n none = some (some (Char.ofNat n), .plain) := by
  rw [finishUnit, hsecond, hfirst]
  rfl

/-- A unit below the surrogates is no half of a pair. -/
theorem isHalf_of_lt (h : n < 0xD800) : isFirstHalf n = false ∧ isSecondHalf n = false := by
  simp only [isFirstHalf, isSecondHalf, Bool.and_eq_false_iff, decide_eq_false_iff_not]
  omega

/-! ## Characters -/

/-- A quote ends a text. -/
theorem scan_quote (how : Scrutiny) (acc rest : List Char) :
    scan how .plain acc ('"' :: rest) = .ok (acc.reverse, rest) := by
  cases how <;> rw [scan, if_pos rfl]

/-- Any other character that needs no escape stands for itself. -/
theorem scan_plain (how : Scrutiny) (hquote : c ≠ '"') (hbackslash : c ≠ '\\')
    (hspace : ¬ c.toNat < 0x20) :
    scan how .plain acc (c :: rest) = scan how .plain (c :: acc) rest := by
  cases how <;> rw [scan, if_neg hquote, if_neg hbackslash, if_neg hspace]

/-- A backslash starts an escape. -/
theorem scan_backslash (how : Scrutiny) (acc rest : List Char) :
    scan how .plain acc ('\\' :: rest) = scan how .escape acc rest := by
  cases how <;> rw [scan, if_neg (by decide), if_pos rfl]

/-- The letter `u` starts a unit. -/
theorem scan_escapeUnit (how : Scrutiny) (acc rest : List Char) :
    scan how .escape acc ('u' :: rest) = scan how (.unit 0 0 none) acc rest := by
  cases how <;> rw [scan, if_pos rfl]

/-- A short escape is read as what it stands for. -/
theorem scan_shortEscape {how : Scrutiny} (hu : d ≠ 'u') (hd : shortEscape? d = some c) :
    scan how .plain acc ('\\' :: d :: rest) = scan how .plain (c :: acc) rest := by
  rw [scan_backslash]
  cases how <;> rw [scan, if_neg hu, hd]

/-- A digit within a unit goes to its end. -/
theorem scan_unit {how : Scrutiny} {digits value : Nat} {first : Option Nat} (hdigits : digits < 3)
    (h : hexValue? c = some n) :
    scan how (.unit digits value first) acc (c :: rest) =
      scan how (.unit (digits + 1) (16 * value + n) first) acc rest := by
  cases how <;> rw [scan, h] <;> exact if_pos hdigits

/-- Four hexadecimal digits, and the unit that they are. -/
inductive Quad : List Char → Nat → Prop where
  | mk {a b c d : Char} {w x y z : Nat} (ha : hexValue? a = some w) (hb : hexValue? b = some x)
    (hc : hexValue? c = some y) (hd : hexValue? d = some z) :
    Quad [a, b, c, d] (0x1000 * w + 0x100 * x + 0x10 * y + z)

/-- A unit is read whole. Where the text is wanted, it has to fit what came before. -/
theorem Quad.scan {how : Scrutiny} {first : Option Nat} (h : Quad s n) (acc rest : List Char) :
    scan how (.unit 0 0 first) acc (s ++ rest) =
      match how with
      | .form => Literal.scan how .plain acc rest
      | .full =>
        match finishUnit n first with
        | none => .error (.here .loneSurrogate rest)
        | some (read, phase) => Literal.scan how phase (read.toList ++ acc) rest := by
  cases h with
  | @mk a b c d w x y z ha hb hc hd =>
    have hvalue : 16 * (16 * (16 * (16 * 0 + w) + x) + y) + z =
        0x1000 * w + 0x100 * x + 0x10 * y + z := by
      omega
    show Literal.scan how _ acc (a :: b :: c :: d :: rest) = _
    rw [scan_unit (by decide) ha, scan_unit (by decide) hb, scan_unit (by decide) hc]
    cases how with
    | form => rw [Literal.scan, hd]; rfl
    | full =>
      rw [Literal.scan, hd]
      dsimp only
      rewrite [if_neg (by decide), hvalue]
      rfl

/-- Every character is written in one of the three ways. -/
theorem written_writeChar (c : Char) : Written c (writeChar c) := by
  unfold writeChar
  split
  · next h => subst h; exact .short (by decide) rfl (by decide)
  split
  · next h => subst h; exact .short (by decide) rfl (by decide)
  split
  · next h => subst h; exact .short (by decide) rfl (by decide)
  split
  · next h => subst h; exact .short (by decide) rfl (by decide)
  split
  · next h => subst h; exact .short (by decide) rfl (by decide)
  split
  · next h => subst h; exact .short (by decide) rfl (by decide)
  split
  · next h => subst h; exact .short (by decide) rfl (by decide)
  split
  · next h => exact .digits h
  · next hquote hbackslash _ _ _ _ _ hspace => exact .plain hquote hbackslash hspace

/-- No character is written with a control character. -/
theorem Written.noControl (h : Written c s) : NoControl s := by
  cases h with
  | short hu hshort hspace => simpa using hspace
  | digits hcontrol =>
    have hstart : NoControl ['\\', 'u', '0', '0'] := by simp
    have hhigh := space_le_digitChar (by omega : c.toNat / 16 < 16)
    have hlow := space_le_digitChar (by omega : c.toNat % 16 < 16)
    exact noControl_append.2 ⟨hstart, by simpa using ⟨hhigh, hlow⟩⟩
  | plain hquote hbackslash hspace => simpa using hspace

/-! ## Texts -/

/-- What is written for a text is an opening quote, its characters, and a closing quote. -/
theorem write_append (s : String) (rest : List Char) :
    (write s).toList ++ rest = '"' :: (s.toList.flatMap writeChar ++ '"' :: rest) := by
  rw [write, String.toList_ofList, List.cons_append, List.cons_append, List.append_assoc,
    List.singleton_append]

/-- No text is written with a control character. -/
theorem noControl_write (s : String) : NoControl (write s).toList := by
  have hchars : NoControl (s.toList.flatMap writeChar) := by
    intro c hc
    obtain ⟨d, -, hd⟩ := List.mem_flatMap.1 hc
    exact (written_writeChar d).noControl c hd
  rw [write, String.toList_ofList]
  simpa using hchars

end

end LogGate.Json.Literal
