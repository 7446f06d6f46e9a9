import LogGate.Proofs.Text.Pieces

/-!
# The order of texts and of their bytes

Texts are compared character by character, by code points. Their UTF-8 bytes, compared byte by byte,
are in the same order (`encode_lt_iff`): the first byte of a character grows with the code point,
and where two characters have the same first byte, the digits to base 64 that follow tell them apart
(`trail_lt`).
-/

namespace LogGate.Utf8

open String (utf8EncodeChar)

section
variable {v u k : Nat} {c d : Char}

/-- Of two code points with the same first digits, the lower one has the lower last bytes. -/
theorem trail_lt (hsame : v / 64 ^ k = u / 64 ^ k) (hlt : v < u) (x y : List UInt8) :
    trail k v ++ x < trail k u ++ y := by
  induction k with
  | zero =>
    rw [Nat.pow_zero, Nat.div_one, Nat.div_one] at hsame
    exact absurd hsame (Nat.ne_of_lt hlt)
  | succ k ih =>
    have hdigit : ∀ n, (UInt8.ofNat (n / 64 ^ k % 64 + 128)).toNat = n / 64 ^ k % 64 + 128 :=
      fun n => UInt8.toNat_ofNat_of_lt' (show n / 64 ^ k % 64 + 128 < 256 by omega)
    have hle : v / 64 ^ k ≤ u / 64 ^ k := Nat.div_le_div_right (Nat.le_of_lt hlt)
    rw [Nat.pow_succ, ← Nat.div_div_eq_div_mul, ← Nat.div_div_eq_div_mul] at hsame
    show (_ :: (trail k v ++ x)) < (_ :: (trail k u ++ y))
    rw [List.cons_lt_cons_iff]
    by_cases heq : v / 64 ^ k = u / 64 ^ k
    · exact .inr ⟨by rw [heq], ih heq⟩
    · refine .inl (UInt8.lt_iff_toNat_lt.2 ?_)
      rw [hdigit, hdigit]
      omega

/-- The lower of two characters has the lower bytes, whatever follows. -/
theorem utf8EncodeChar_lt (hlt : c.toNat < d.toNat) (x y : List UInt8) :
    utf8EncodeChar c ++ x < utf8EncodeChar d ++ y := by
  by_cases hd : d.toNat < 0x80
  · rw [utf8EncodeChar_of_lt hd, utf8EncodeChar_of_lt (Nat.lt_trans hlt hd)]
    refine List.cons_lt_cons_iff.2 (.inl (UInt8.lt_iff_toNat_lt.2 ?_))
    rwa [UInt8.toNat_ofNat_of_lt' (show c.toNat < 256 by omega),
      UInt8.toNat_ofNat_of_lt' (show d.toNat < 256 by omega)]
  obtain ⟨b', k', hled', hencode'⟩ := exists_isLed (Nat.le_of_not_lt hd)
  by_cases hc : c.toNat < 0x80
  · rw [utf8EncodeChar_of_lt hc, hencode']
    refine List.cons_lt_cons_iff.2 (.inl (UInt8.lt_iff_toNat_lt.2 ?_))
    rw [UInt8.toNat_ofNat_of_lt' (show c.toNat < 256 by omega)]
    unfold IsLed at hled'
    omega
  obtain ⟨b, k, hled, hencode⟩ := exists_isLed (Nat.le_of_not_lt hc)
  rw [hencode, hencode', List.cons_append, List.cons_append, List.cons_lt_cons_iff,
    UInt8.lt_iff_toNat_lt]
  by_cases hb : b.toNat < b'.toNat
  · exact .inl hb
  · -- the first byte is the same, so it is followed by as many bytes, and the code points have the
    -- same first digits
    unfold IsLed at hled hled'
    have hfirst : k = k' ∧ b.toNat = b'.toNat := by omega
    obtain ⟨rfl, hbyte⟩ := hfirst
    have hsame : c.toNat / 64 ^ k = d.toNat / 64 ^ k := by
      rcases hled with ⟨rfl, h⟩ | ⟨rfl, h⟩ | ⟨rfl, h⟩ <;> (simp only [Nat.reducePow]; omega)
    exact .inr ⟨UInt8.toNat_inj.1 hbyte, trail_lt hsame hlt x y⟩

/-- The lower of two texts has the lower bytes. -/
theorem flatMap_utf8EncodeChar_lt {s t : List Char} (hlt : s < t) :
    s.flatMap utf8EncodeChar < t.flatMap utf8EncodeChar := by
  induction s generalizing t with
  | nil =>
    cases t with
    | nil => exact absurd hlt (List.not_lt_nil [])
    | cons d t =>
      have hne : (d :: t).flatMap utf8EncodeChar ≠ [] :=
        List.append_ne_nil_of_left_ne_nil String.utf8EncodeChar_ne_nil _
      obtain ⟨b, bytes, hbytes⟩ := List.exists_cons_of_ne_nil hne
      rw [hbytes]
      exact List.nil_lt_cons b bytes
  | cons c s ih =>
    cases t with
    | nil => exact absurd hlt (List.not_lt_nil _)
    | cons d t =>
      rcases List.cons_lt_cons_iff.1 hlt with hcd | ⟨rfl, hst⟩
      · exact utf8EncodeChar_lt (Char.lt_def.1 hcd) _ _
      · exact List.append_left_lt (ih hst)

/-- Texts are in the order of their bytes. -/
theorem encode_lt_iff {s t : String} : encode s < encode t ↔ s < t := by
  have hlt : ∀ {s t : String}, s < t → encode s < encode t := by
    intro s t h
    rw [encode_eq_flatMap, encode_eq_flatMap]
    exact flatMap_utf8EncodeChar_lt (String.lt_iff.1 h)
  refine ⟨fun h => Decidable.byContradiction fun hge => ?_, hlt⟩
  by_cases heq : t = s
  · exact List.lt_irrefl (encode s) (heq ▸ h)
  · exact List.lt_asymm h (hlt (Std.lt_of_le_of_ne (String.not_lt.1 hge) heq))

end

end LogGate.Utf8
