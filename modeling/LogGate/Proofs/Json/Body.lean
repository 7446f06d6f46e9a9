import LogGate.Proofs.Json.Literal

/-!
# What stands between the quotes of a text

Between its quotes, a text is a sequence of characters that stand for themselves, of short escapes
and of escapes in four hexadecimal digits. `Body` says no more than that, and it is what a value
that is passed over is held to (`scan_form_iff`). `Denotes` also says which text is meant, and there
is none if a unit that is half of a surrogate pair stands without the other half; it is what a value
that is wanted is held to (`scan_full_iff`). A body denotes one text at most (`Denotes.unique`), and
it ends at one place only, since no quote stands in it without a backslash (`Body.unique`). What is
written for a text denotes it (`denotes_write`), so it is read as it was.
-/

namespace LogGate.Json.Literal

/-- What can stand between the quotes of a text. -/
inductive Body : List Char → Prop where
  | nil : Body []
  | plain {c : Char} {s : List Char} (hquote : c ≠ '"') (hbackslash : c ≠ '\\')
    (hspace : ¬ c.toNat < 0x20) (h : Body s) : Body (c :: s)
  | short {c d : Char} {s : List Char} (hd : shortEscape? d = some c) (h : Body s) :
    Body ('\\' :: d :: s)
  | unit {digits s : List Char} {n : Nat} (hn : Quad digits n) (h : Body s) :
    Body ('\\' :: 'u' :: (digits ++ s))

/-- What stands between the quotes denotes a text. -/
inductive Denotes : List Char → List Char → Prop where
  | nil : Denotes [] []
  | plain {c : Char} {s t : List Char} (hquote : c ≠ '"') (hbackslash : c ≠ '\\')
    (hspace : ¬ c.toNat < 0x20) (h : Denotes s t) : Denotes (c :: s) (c :: t)
  | short {c d : Char} {s t : List Char} (hd : shortEscape? d = some c) (h : Denotes s t) :
    Denotes ('\\' :: d :: s) (c :: t)
  /-- A unit that is no half of a pair is a code point. -/
  | unit {digits s t : List Char} {n : Nat} (hn : Quad digits n) (hfirst : isFirstHalf n = false)
    (hsecond : isSecondHalf n = false) (h : Denotes s t) :
    Denotes ('\\' :: 'u' :: (digits ++ s)) (Char.ofNat n :: t)
  | pair {digits digits' s t : List Char} {m n : Nat} (hm : Quad digits m)
    (hfirst : isFirstHalf m = true) (hn : Quad digits' n) (hsecond : isSecondHalf n = true)
    (h : Denotes s t) :
    Denotes ('\\' :: 'u' :: (digits ++ '\\' :: 'u' :: (digits' ++ s))) (joined m n :: t)

section
variable {acc s t rest : List Char} {c d : Char} {n : Nat}

/-- What denotes a text can stand between quotes. -/
theorem Denotes.body (h : Denotes s t) : Body s := by
  induction h with
  | nil => exact .nil
  | plain hquote hbackslash hspace _ ih => exact .plain hquote hbackslash hspace ih
  | short hd _ ih => exact .short hd ih
  | unit hn _ _ _ ih => exact .unit hn ih
  | pair hm _ hn _ _ ih => exact .unit hm (.unit hn ih)

/-- The letter `u` is no short escape. -/
theorem ne_u_of_shortEscape (h : shortEscape? d = some c) : d ≠ 'u' := by
  rintro rfl
  cases h

/-- A unit that is read starts with four digits. -/
theorem exists_quad {how : Scrutiny} {first : Option Nat} {x : List Char × List Char}
    (h : scan how (.unit 0 0 first) acc s = .ok x) :
    ∃ digits n t, s = digits ++ t ∧ Quad digits n := by
  have hdigit : ∀ {digits value : Nat} {s : List Char},
      scan how (.unit digits value first) acc s = .ok x →
        ∃ c n t, s = c :: t ∧ hexValue? c = some n := by
    intro digits value s h
    cases s with
    | nil => cases how <;> cases h
    | cons c t =>
      cases hc : hexValue? c with
      | none => cases how <;> rw [scan, hc] at h <;> cases h
      | some n => exact ⟨c, n, t, rfl, hc⟩
  obtain ⟨a, w, s, rfl, ha⟩ := hdigit h
  rw [scan_unit (by decide) ha] at h
  obtain ⟨b, x, s, rfl, hb⟩ := hdigit h
  rw [scan_unit (by decide) hb] at h
  obtain ⟨c, y, s, rfl, hc⟩ := hdigit h
  rw [scan_unit (by decide) hc] at h
  obtain ⟨d, z, s, rfl, hd⟩ := hdigit h
  exact ⟨[a, b, c, d], _, s, rfl, .mk ha hb hc hd⟩

/-- What a scan that ends at a quote begins with. -/
theorem scan_cases {how : Scrutiny} {x : List Char × List Char}
    (h : scan how .plain acc s = .ok x) :
    (∃ rest, s = '"' :: rest) ∨
    (∃ c rest, s = c :: rest ∧ c ≠ '"' ∧ c ≠ '\\' ∧ ¬ c.toNat < 0x20) ∨
    (∃ c d rest, s = '\\' :: d :: rest ∧ shortEscape? d = some c) ∨
    (∃ digits n rest, s = '\\' :: 'u' :: (digits ++ rest) ∧ Quad digits n) := by
  cases s with
  | nil => cases how <;> cases h
  | cons c rest =>
    by_cases hquote : c = '"'
    · subst hquote
      exact .inl ⟨rest, rfl⟩
    by_cases hbackslash : c = '\\'
    · subst hbackslash
      rw [scan_backslash] at h
      cases rest with
      | nil => cases how <;> cases h
      | cons d rest =>
        by_cases hu : d = 'u'
        · subst hu
          rw [scan_escapeUnit] at h
          obtain ⟨digits, n, t, rfl, hn⟩ := exists_quad h
          exact .inr (.inr (.inr ⟨digits, n, t, rfl, hn⟩))
        · cases hd : shortEscape? d with
          | some c => exact .inr (.inr (.inl ⟨c, d, rest, rfl, hd⟩))
          | none => cases how <;> rw [scan, if_neg hu, hd] at h <;> cases h
    by_cases hspace : c.toNat < 0x20
    · cases how <;> rw [scan, if_neg hquote, if_neg hbackslash, if_pos hspace] at h <;> cases h
    · exact .inr (.inl ⟨c, rest, rfl, hquote, hbackslash, hspace⟩)

/-! ## Texts that are passed over -/

/-- A body is passed over up to the closing quote. -/
theorem Body.scan (h : Body s) (acc rest : List Char) :
    ∃ a, scan .form .plain acc (s ++ '"' :: rest) = .ok (a, rest) := by
  induction h generalizing acc with
  | nil => exact ⟨_, scan_quote .form acc rest⟩
  | plain hquote hbackslash hspace _ ih =>
    rw [List.cons_append, scan_plain .form hquote hbackslash hspace]
    exact ih _
  | short hd _ ih =>
    rw [List.cons_append, List.cons_append, scan_shortEscape (ne_u_of_shortEscape hd) hd]
    exact ih _
  | unit hn _ ih =>
    rw [List.cons_append, List.cons_append, List.append_assoc, scan_backslash, scan_escapeUnit,
      hn.scan]
    exact ih _

/-- What is passed over is a body. -/
theorem exists_body {a : List Char} (h : scan .form .plain acc s = .ok (a, rest)) :
    ∃ body, s = body ++ '"' :: rest ∧ Body body := by
  induction hlen : s.length using Nat.strongRecOn generalizing acc s with
  | ind k ih =>
    subst hlen
    rcases scan_cases h with ⟨t, rfl⟩ | ⟨c, t, rfl, hquote, hbackslash, hspace⟩ |
      ⟨c, d, t, rfl, hd⟩ | ⟨digits, n, t, rfl, hn⟩
    · rw [scan_quote] at h
      cases h
      exact ⟨[], rfl, .nil⟩
    · rw [scan_plain .form hquote hbackslash hspace] at h
      obtain ⟨body, rfl, hbody⟩ := ih _ (by simp) h rfl
      exact ⟨c :: body, rfl, .plain hquote hbackslash hspace hbody⟩
    · rw [scan_shortEscape (ne_u_of_shortEscape hd) hd] at h
      obtain ⟨body, rfl, hbody⟩ := ih _ (by simp only [List.length_cons]; omega) h rfl
      exact ⟨'\\' :: d :: body, rfl, .short hd hbody⟩
    · rw [scan_backslash, scan_escapeUnit, hn.scan] at h
      obtain ⟨body, rfl, hbody⟩ :=
        ih _ (by simp only [List.length_cons, List.length_append]; omega) h rfl
      refine ⟨'\\' :: 'u' :: (digits ++ body), ?_, .unit hn hbody⟩
      rw [List.cons_append, List.cons_append, List.append_assoc]

/-- **Texts that are passed over.** -/
theorem scan_form_iff : (∃ a, scan .form .plain acc s = .ok (a, rest)) ↔
    ∃ body, s = body ++ '"' :: rest ∧ Body body := by
  constructor
  · rintro ⟨a, h⟩
    exact exists_body h
  · rintro ⟨body, rfl, h⟩
    exact h.scan acc rest

/-- A body ends at one place only. -/
theorem Body.unique {s' rest' : List Char} (h : Body s) (h' : Body s')
    (heq : s ++ '"' :: rest = s' ++ '"' :: rest') : s = s' ∧ rest = rest' := by
  obtain ⟨a, hscan⟩ := h.scan [] rest
  obtain ⟨a', hscan'⟩ := h'.scan [] rest'
  rw [heq, hscan'] at hscan
  cases hscan
  exact ⟨List.append_cancel_right heq, rfl⟩

/-! ## Texts that are wanted -/

/-- Behind the first half of a pair, the second one is read. -/
theorem scan_pair (m : Nat) (acc rest : List Char) :
    scan .full (.pair m) acc ('\\' :: 'u' :: rest) =
      scan .full (.unit 0 0 (some m)) acc rest := by
  rw [scan, if_pos rfl, scan, if_pos rfl]

/-- Nothing else is. -/
theorem exists_escape_of_pair {m : Nat} {x : List Char × List Char}
    (h : scan .full (.pair m) acc s = .ok x) : ∃ t, s = '\\' :: 'u' :: t := by
  cases s with
  | nil => cases h
  | cons c s =>
    by_cases hc : c = '\\'
    · rw [scan, if_pos hc] at h
      cases s with
      | nil => cases h
      | cons d s =>
        by_cases hd : d = 'u'
        · exact ⟨s, by rw [hc, hd]⟩
        · rw [scan, if_neg hd] at h
          cases h
    · rw [scan, if_neg hc] at h
      cases h

/-- The first half of a pair leaves the character open. -/
theorem finishUnit_first (h : isFirstHalf n = true) : finishUnit n none = some (none, .pair n) := by
  have hsecond : isSecondHalf n = false := by
    rw [isFirstHalf, Bool.and_eq_true, decide_eq_true_iff, decide_eq_true_iff] at h
    rw [isSecondHalf, Bool.and_eq_false_iff, decide_eq_false_iff_not]
    omega
  rw [finishUnit, hsecond, h]
  rfl

/-- The second half of a pair finishes it. -/
theorem finishUnit_second (m : Nat) (h : isSecondHalf n = true) :
    finishUnit n (some m) = some (some (joined m n), .plain) := by
  rw [finishUnit, h]
  rfl

/-- What denotes a text is read as that text. -/
theorem Denotes.scan (h : Denotes s t) (acc rest : List Char) :
    scan .full .plain acc (s ++ '"' :: rest) = .ok (acc.reverse ++ t, rest) := by
  induction h generalizing acc with
  | nil => rw [List.nil_append, scan_quote, List.append_nil]
  | plain hquote hbackslash hspace _ ih =>
    rw [List.cons_append, scan_plain .full hquote hbackslash hspace, ih, List.reverse_cons,
      List.append_assoc, List.singleton_append]
  | short hd _ ih =>
    rw [List.cons_append, List.cons_append, scan_shortEscape (ne_u_of_shortEscape hd) hd, ih,
      List.reverse_cons, List.append_assoc, List.singleton_append]
  | unit hn hfirst hsecond _ ih =>
    rw [List.cons_append, List.cons_append, List.append_assoc, scan_backslash, scan_escapeUnit,
      hn.scan, finishUnit_scalar hfirst hsecond]
    dsimp only
    rw [Option.toList_some, List.singleton_append, ih, List.reverse_cons, List.append_assoc,
      List.singleton_append]
  | @pair digits digits' s t m n hm hfirst hn hsecond _ ih =>
    have hsplit : '\\' :: 'u' :: (digits ++ '\\' :: 'u' :: (digits' ++ s)) ++ '"' :: rest =
        '\\' :: 'u' :: (digits ++ ('\\' :: 'u' :: (digits' ++ (s ++ '"' :: rest)))) := by
      simp only [List.cons_append, List.append_assoc]
    rw [hsplit, scan_backslash, scan_escapeUnit, hm.scan, finishUnit_first hfirst]
    dsimp only
    rw [Option.toList_none, List.nil_append, scan_pair, hn.scan, finishUnit_second m hsecond]
    dsimp only
    rw [Option.toList_some, List.singleton_append, ih, List.reverse_cons, List.append_assoc,
      List.singleton_append]

/-- An escape in digits is read as a unit that is no half of a pair, or as two that are a pair. -/
theorem scan_unit_cases {x : List Char × List Char}
    (h : scan .full (.unit 0 0 none) acc s = .ok x) :
    (∃ digits n u, s = digits ++ u ∧ Quad digits n ∧ isFirstHalf n = false ∧
      isSecondHalf n = false ∧ scan .full .plain (Char.ofNat n :: acc) u = .ok x) ∨
    (∃ digits digits' m n u, s = digits ++ '\\' :: 'u' :: (digits' ++ u) ∧ Quad digits m ∧
      isFirstHalf m = true ∧ Quad digits' n ∧ isSecondHalf n = true ∧
      scan .full .plain (joined m n :: acc) u = .ok x) := by
  obtain ⟨digits, n, u, rfl, hn⟩ := exists_quad h
  rw [hn.scan] at h
  dsimp only at h
  cases hfirst : isFirstHalf n with
  | true =>
    rw [finishUnit_first hfirst] at h
    dsimp only at h
    obtain ⟨u, rfl⟩ := exists_escape_of_pair h
    rw [scan_pair] at h
    obtain ⟨digits', m, u, rfl, hm⟩ := exists_quad h
    rw [hm.scan] at h
    cases hsecond : isSecondHalf m with
    | true =>
      rw [finishUnit_second n hsecond] at h
      exact .inr ⟨digits, digits', n, m, u, rfl, hn, hfirst, hm, hsecond, h⟩
    | false =>
      rw [finishUnit, hsecond] at h
      cases h
  | false =>
    cases hsecond : isSecondHalf n with
    | true =>
      rw [finishUnit, hsecond] at h
      cases h
    | false =>
      rw [finishUnit_scalar hfirst hsecond] at h
      exact .inl ⟨digits, n, u, rfl, hn, hfirst, hsecond, h⟩

/-- What is read as a text denotes it. -/
theorem exists_denotes {a : List Char} (h : scan .full .plain acc s = .ok (a, rest)) :
    ∃ body t, s = body ++ '"' :: rest ∧ Denotes body t ∧ a = acc.reverse ++ t := by
  induction hlen : s.length using Nat.strongRecOn generalizing acc s with
  | ind k ih =>
    subst hlen
    have hnext : ∀ {c : Char} {u : List Char}, u.length < s.length →
        scan .full .plain (c :: acc) u = .ok (a, rest) →
        ∃ body t, u = body ++ '"' :: rest ∧ Denotes body t ∧ a = acc.reverse ++ c :: t := by
      intro c u hlt hscan
      obtain ⟨body, t, hu, hbody, ha⟩ := ih _ hlt hscan rfl
      rw [List.reverse_cons, List.append_assoc, List.singleton_append] at ha
      exact ⟨body, t, hu, hbody, ha⟩
    rcases scan_cases h with ⟨u, rfl⟩ | ⟨c, u, rfl, hquote, hbackslash, hspace⟩ |
      ⟨c, d, u, rfl, hd⟩ | ⟨digits, n, u, rfl, -⟩
    · rw [scan_quote] at h
      cases h
      exact ⟨[], [], rfl, .nil, (List.append_nil _).symm⟩
    · rw [scan_plain .full hquote hbackslash hspace] at h
      obtain ⟨body, t, rfl, hbody, ha⟩ := hnext (by simp) h
      exact ⟨c :: body, c :: t, rfl, .plain hquote hbackslash hspace hbody, ha⟩
    · rw [scan_shortEscape (ne_u_of_shortEscape hd) hd] at h
      obtain ⟨body, t, rfl, hbody, ha⟩ := hnext (by simp only [List.length_cons]; omega) h
      exact ⟨'\\' :: d :: body, c :: t, rfl, .short hd hbody, ha⟩
    · rw [scan_backslash, scan_escapeUnit] at h
      rcases scan_unit_cases h with ⟨digits', n, v, hsplit, hn, hfirst, hsecond, h⟩ |
        ⟨digits', digits'', m, n, v, hsplit, hm, hfirst, hn, hsecond, h⟩
      · rw [hsplit] at hnext ⊢
        obtain ⟨body, t, rfl, hbody, ha⟩ :=
          hnext (by simp only [List.length_cons, List.length_append]; omega) h
        exact ⟨'\\' :: 'u' :: (digits' ++ body), Char.ofNat n :: t, by simp,
          .unit hn hfirst hsecond hbody, ha⟩
      · rw [hsplit] at hnext ⊢
        obtain ⟨body, t, rfl, hbody, ha⟩ :=
          hnext (by simp only [List.length_cons, List.length_append]; omega) h
        exact ⟨'\\' :: 'u' :: (digits' ++ '\\' :: 'u' :: (digits'' ++ body)), joined m n :: t,
          by simp, .pair hm hfirst hn hsecond hbody, ha⟩

/-- **Texts that are wanted.** -/
theorem scan_full_iff : scan .full .plain [] s = .ok (t, rest) ↔
    ∃ body, s = body ++ '"' :: rest ∧ Denotes body t := by
  constructor
  · intro h
    obtain ⟨body, u, hs, hbody, rfl⟩ := exists_denotes h
    exact ⟨body, hs, hbody⟩
  · rintro ⟨body, rfl, h⟩
    exact h.scan [] rest

/-- A body denotes one text at most. -/
theorem Denotes.unique {u : List Char} (h : Denotes s t) (h' : Denotes s u) : t = u := by
  have hscan := h.scan [] []
  rw [h'.scan [] []] at hscan
  cases hscan
  rfl

/-! ## Texts that are written -/

/-- What is written for a character denotes it, before anything that denotes a text. -/
theorem Written.denotes {u : List Char} (h : Written c s) (ht : Denotes t u) :
    Denotes (s ++ t) (c :: u) := by
  cases h with
  | short hu hd hspace => exact .short hd ht
  | digits hcontrol =>
    have hhigh := hexValue?_digitChar (by omega : c.toNat / 16 < 16)
    have hlow := hexValue?_digitChar (by omega : c.toNat % 16 < 16)
    have hquad := Quad.mk (hexValue?_digitChar (n := 0) (by decide))
      (hexValue?_digitChar (n := 0) (by decide)) hhigh hlow
    have hvalue : 0x1000 * 0 + 0x100 * 0 + 0x10 * (c.toNat / 16) + c.toNat % 16 = c.toNat := by
      omega
    rw [hvalue] at hquad
    obtain ⟨hfirst, hsecond⟩ := isHalf_of_lt (by omega : c.toNat < 0xD800)
    have hunit := Denotes.unit hquad hfirst hsecond ht
    rwa [Char.ofNat_toNat] at hunit
  | plain hquote hbackslash hspace => exact .plain hquote hbackslash hspace ht

/-- What is written for a text denotes it. -/
theorem denotes_write (s : String) : Denotes (s.toList.flatMap writeChar) s.toList := by
  induction s.toList with
  | nil => exact .nil
  | cons c t ih => exact (written_writeChar c).denotes ih

/-- Characters that need no escape denote themselves. -/
theorem denotes_self (h : ∀ c ∈ t, c ≠ '"' ∧ c ≠ '\\' ∧ ¬ c.toNat < 0x20) : Denotes t t := by
  induction t with
  | nil => exact .nil
  | cons c t ih =>
    obtain ⟨⟨hquote, hbackslash, hspace⟩, ht⟩ := List.forall_mem_cons.mp h
    exact .plain hquote hbackslash hspace (ih ht)

end

end LogGate.Json.Literal
