import LogGate.Proofs.Text.Split
import LogGate.Proofs.Time.Spelling

/-!
# Steps of reading

A step of reading takes from the front of a text what is spelled there, and nothing else, unless
what follows would go on with it: a digit goes on with a number, and white space with white space
(`Takes`). Steps in a row take what they take one behind the other, if nothing that a step takes
goes on with what was taken before (`Takes.bind`). The steps that others are made of are these: they
pass over white space, take a mark, or take a row of digits.
-/

namespace LogGate.Time

open Text (Numeral Stops)

namespace Stamp

section
variable {α β : Type} {x : Step α} {f : α → Step β} {a : α} {b : β} {s t r rest : List Char}
variable {accepts : List Char → α → Prop} {accepts' : α → List Char → β → Prop}
variable {goesOn goesOn' : Char → Bool} {c : Char} {n : Nat}

/-! ## Steps in a row -/

/-- After a step that takes something, the next one goes on behind it. -/
theorem bind_ok (h : x s = .ok (a, t)) : (x >>= f) s = f a t := by
  show (x s >>= fun p => f p.1 p.2) = _
  rw [h]
  rfl

/-- Looking at what is left leaves it there, for the step that is chosen by it. -/
theorem get_bind {f : List Char → Step β} {r : Except TimeError (β × List Char)}
    (h : ∀ chosen, f s = chosen → chosen s = r) : (get >>= f) s = r := h (f s) rfl

/-- What is put in the place of what was left is left. -/
theorem set_bind (f : PUnit → Step β) (s t : List Char) : (set t >>= f) s = f ⟨⟩ t := rfl

/-- A step takes something from the front of a text if that is accepted, and only then. What follows
it must not go on with it. -/
structure Takes (x : Step α) (accepts : List Char → α → Prop) (goesOn : Char → Bool) : Prop where
  sound : ∀ {s a r}, x s = .ok (a, r) → ∃ front, s = front ++ r ∧ accepts front a
  complete : ∀ {front a r}, accepts front a → Stops goesOn r → x (front ++ r) = .ok (a, r)

/-- A step succeeds behind another if both do. -/
theorem bind_eq_ok :
    (x >>= f) s = .ok (b, r) ↔ ∃ a t, x s = .ok (a, t) ∧ f a t = .ok (b, r) := by
  show (x s >>= fun p => f p.1 p.2) = _ ↔ _
  cases x s with
  | error e => exact ⟨nofun, fun ⟨_, _, h, _⟩ => nomatch h⟩
  | ok p =>
    constructor
    · exact fun h => ⟨p.1, p.2, rfl, h⟩
    · rintro ⟨a, t, h, hf⟩
      cases h
      exact hf

/-- Steps in a row take what they take one behind the other. -/
theorem Takes.bind (hx : Takes x accepts goesOn) (hf : ∀ a, Takes (f a) (accepts' a) goesOn')
    (hnext : ∀ {a s b r}, accepts' a s b → Stops goesOn' r → Stops goesOn (s ++ r)) :
    Takes (x >>= f) (fun s b => ∃ front a back, s = front ++ back ∧ accepts front a ∧
      accepts' a back b) goesOn' where
  sound h := by
    obtain ⟨a, t, hxs, hft⟩ := bind_eq_ok.1 h
    obtain ⟨front, rfl, hfront⟩ := hx.sound hxs
    obtain ⟨back, rfl, hback⟩ := (hf a).sound hft
    exact ⟨front ++ back, (List.append_assoc ..).symm, front, a, back, rfl, hfront, hback⟩
  complete := by
    rintro _ b r ⟨front, a, back, rfl, hfront, hback⟩ hr
    rw [List.append_assoc, bind_ok (hx.complete hfront (hnext hback hr))]
    exact (hf a).complete hback hr

/-- A step takes the same if something else is made of what it gives. -/
theorem Takes.map (h : Takes x accepts goesOn) (make : α → β) :
    Takes (x >>= fun a => pure (make a)) (fun s b => ∃ a, accepts s a ∧ b = make a) goesOn where
  sound hs := by
    obtain ⟨a, _, hx, ⟨⟩⟩ := bind_eq_ok.1 hs
    obtain ⟨front, rfl, ha⟩ := h.sound hx
    exact ⟨front, rfl, a, ha, rfl⟩
  complete := by
    rintro front _ r ⟨a, ha, rfl⟩ hr
    exact bind_ok (h.complete ha hr)

/-- A step may be said to accept something in other words. -/
theorem Takes.congr {accepts' : List Char → α → Prop} (h : Takes x accepts goesOn)
    (hiff : ∀ s a, accepts s a ↔ accepts' s a) : Takes x accepts' goesOn where
  sound hs := by
    obtain ⟨front, hfront, ha⟩ := h.sound hs
    exact ⟨front, hfront, (hiff _ _).1 ha⟩
  complete ha hr := h.complete ((hiff _ _).2 ha) hr

/-- A value is given if a condition holds, and nothing is taken. -/
theorem takes_ite {p : Prop} [Decidable p] (a : α) (e : TimeError) :
    Takes (if p then pure a else throw e) (fun s b => s = [] ∧ p ∧ b = a) goesOn where
  sound h := by
    split at h
    · next hp =>
      cases h
      exact ⟨[], rfl, rfl, hp, rfl⟩
    · cases h
  complete := by
    rintro _ b r ⟨rfl, hp, rfl⟩ -
    rw [if_pos hp]
    rfl

/-! ## White space and marks -/

/-- White space is passed over. -/
theorem takes_blanks : Takes blanks (fun s _ => Blanks s) Text.isBlank where
  sound {s a r} h := by
    obtain ⟨front, rest, rfl, hfront, hrest⟩ := Text.exists_stops Text.isBlank s
    cases h
    exact ⟨front, by rw [Text.dropBlanks_append hfront hrest], hfront⟩
  complete {front a r} hfront hr := by
    show Except.ok ((), Text.dropBlanks (front ++ r)) = _
    rw [Text.dropBlanks_append hfront hr]

/-- A mark is taken. -/
theorem takes_mark (c : Char) : Takes (mark c) (fun s _ => s = [c]) goesOn where
  sound {s a r} h := by
    cases s with
    | nil => cases h
    | cons d s =>
      unfold mark at h
      dsimp only at h
      split at h
      · next heq =>
        cases h
        exact ⟨[d], rfl, by rw [heq]⟩
      · cases h
  complete := by
    rintro _ a r rfl -
    exact if_pos rfl

/-- The mark between date and time is taken. -/
theorem takes_separator :
    Takes separator (fun s _ => ∃ c, s = [c] ∧ (c = 'T' ∨ c = 't' ∨ c = ' ')) goesOn where
  sound {s a r} h := by
    cases s with
    | nil => cases h
    | cons d s =>
      unfold separator at h
      dsimp only at h
      split at h
      · next hd =>
        cases h
        exact ⟨[d], rfl, d, rfl, hd⟩
      · cases h
  complete := by
    rintro _ a r ⟨c, rfl, hc⟩ -
    exact if_pos hc

/-! ## Digits -/

/-- Digits are no white space. -/
theorem isBlank_of_isDigit {c : Char} (h : c.isDigit = true) : Text.isBlank c = false := by
  obtain ⟨d, hd, rfl⟩ := Text.exists_digitChar h
  clear h
  revert d
  decide

/-- A row of digits does not start with white space. -/
theorem stops_isBlank_of_numeral (h : Numeral s n) (rest : List Char) :
    Stops Text.isBlank (s ++ rest) := by
  cases s with
  | nil => exact absurd rfl h.ne_nil
  | cons c s =>
    exact Text.Stops_cons.2 (isBlank_of_isDigit (h.isDigit c (List.mem_cons_self ..)))

/-- What is taken is the row of digits that comes first in what may be looked at. -/
theorem digits_eq {most : Option Nat} {run : List Char} (hne : run ≠ [])
    (hrun : (most.elim s fun k => s.take k).takeWhile Char.isDigit = run) :
    digits most s = .ok (run, s.drop run.length) := by
  cases s with
  | nil =>
    refine absurd ?_ hne
    rw [← hrun]
    cases most <;> simp
  | cons c s =>
    cases run with
    | nil => exact absurd rfl hne
    | cons d run => cases most <;> (dsimp only [digits, Option.elim] at hrun ⊢; rw [hrun])

/-- Of so many digits at most, all are taken if no others follow. -/
theorem digits_some_append (h : Numeral s n) {k : Nat} (hk : s.length ≤ k)
    (hstop : s.length = k ∨ Stops Char.isDigit rest) :
    digits (some k) (s ++ rest) = .ok (s, rest) := by
  have hrest : Stops Char.isDigit (rest.take (k - s.length)) := by
    rcases hstop with hlength | hstop
    · rw [hlength, Nat.sub_self]
      exact Text.Stops_nil
    · exact hstop.take _
  rw [digits_eq h.ne_nil, List.drop_left]
  show ((s ++ rest).take k).takeWhile Char.isDigit = s
  rw [List.take_append, List.take_of_length_le hk, Text.takeWhile_append h.isDigit hrest]

/-- Of any number of digits, all are taken. -/
theorem digits_none_append (h : Numeral s n) (hstop : Stops Char.isDigit rest) :
    digits none (s ++ rest) = .ok (s, rest) := by
  rw [digits_eq h.ne_nil, List.drop_left]
  exact Text.takeWhile_append h.isDigit hstop

/-- A row of digits is taken, not more of them than may be. -/
theorem takes_digits (most : Option Nat) :
    Takes (digits most) (fun s a => a = s ∧ (∃ n, Numeral s n) ∧ ∀ k, most = some k → s.length ≤ k)
      Char.isDigit where
  sound {s a r} h := by
    -- what may be looked at, and the digits that it starts with
    obtain ⟨seen, hseen⟩ : ∃ seen, most.elim s (fun k => s.take k) = seen := ⟨_, rfl⟩
    have hfront : seen <+: s ∧ ∀ k, most = some k → seen.length ≤ k := by
      rw [← hseen]
      cases most with
      | none => exact ⟨List.prefix_rfl, nofun⟩
      | some k =>
        refine ⟨List.take_prefix k s, fun k' hk' => ?_⟩
        cases hk'
        exact List.length_take_le k s
    by_cases hne : seen.takeWhile Char.isDigit = []
    · cases s with
      | nil => cases h
      | cons c s =>
        rw [← hseen] at hne
        cases most <;>
          (dsimp only [digits, Option.elim] at h hne; rw [hne] at h; cases h)
    · rw [digits_eq hne (congrArg _ hseen)] at h
      cases h
      have hrun : seen.takeWhile Char.isDigit <+: s :=
        (List.takeWhile_prefix Char.isDigit).trans hfront.1
      refine ⟨seen.takeWhile Char.isDigit, (List.prefix_iff_eq_append.1 hrun).symm, rfl,
        ⟨Text.digitsValue (seen.takeWhile Char.isDigit), ?_⟩, fun k hk => ?_⟩
      · exact Text.numeral_digitsValue hne (List.all_eq_true.1 List.all_takeWhile)
      · exact Nat.le_trans (List.takeWhile_prefix Char.isDigit).length_le (hfront.2 k hk)
  complete := by
    rintro s _ r ⟨rfl, ⟨n, hn⟩, hmost⟩ hr
    cases most with
    | none => exact digits_none_append hn hr
    | some k => exact digits_some_append hn (hmost k rfl) (.inr hr)

/-- White space goes on with nothing but white space. -/
theorem stops_of_blanks (hgoesOn : ∀ c, goesOn c = true → Text.isBlank c = false) (hs : Blanks s)
    (hr : Stops goesOn r) : Stops goesOn (s ++ r) := by
  cases s with
  | nil => exact hr
  | cons c s =>
    refine Text.Stops_cons.2 (Bool.eq_false_iff.2 fun hc => ?_)
    have hblank := hs c (List.mem_cons_self ..)
    rw [hgoesOn c hc] at hblank
    cases hblank

/-- What ends with digits may be followed by a mark behind white space, and then something else. -/
theorem Takes.bindMark (hx : Takes x accepts Char.isDigit)
    (hf : ∀ a, Takes (f a) (accepts' a) goesOn') (hblank : Text.isBlank c = false)
    (hdigit : c.isDigit = false) :
    Takes (x >>= fun a => blanks >>= fun _ => mark c >>= fun _ => f a)
      (fun s b => ∃ front a before back, s = front ++ (before ++ c :: back) ∧ accepts front a ∧
        Blanks before ∧ accepts' a back b) goesOn' := by
  have hmark : Takes (mark c) (fun s _ => s = [c]) fun _ => false := takes_mark c
  refine Takes.congr (hx.bind (fun a => takes_blanks.bind (fun _ => hmark.bind
    (fun _ => hf a) ?_) ?_) ?_) fun s b => ?_
  · exact fun _ _ _ _ => rfl
  · rintro _ _ b r ⟨_, _, back, rfl, rfl, -⟩ -
    exact Text.Stops_cons.2 hblank
  · rintro a _ b r ⟨before, _, _, rfl, hbefore, _, _, back, rfl, rfl, -⟩ -
    rw [List.append_assoc]
    exact stops_of_blanks (fun _ => isBlank_of_isDigit) hbefore (Text.Stops_cons.2 hdigit)
  · constructor
    · rintro ⟨front, a, _, rfl, hfront, before, _, _, rfl, hbefore, _, _, back, rfl, rfl, hback⟩
      exact ⟨front, a, before, back, rfl, hfront, hbefore, hback⟩
    · rintro ⟨front, a, before, back, rfl, hfront, hbefore, hback⟩
      exact ⟨front, a, _, rfl, hfront, before, (), _, rfl, hbefore, [c], (), back, rfl, rfl, hback⟩

end

end Stamp

end LogGate.Time
