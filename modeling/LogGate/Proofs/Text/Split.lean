import LogGate.Text.Blank

/-!
# Where a split stops

A reader that takes the characters of a class from the front of a text is determined by where it
stops: the characters before that place are of the class, and the one behind it is not
(`takeWhile_append`, `dropWhile_append`). Trimming stops from both ends in this way, so `trim` finds
the one part of a text that has white space around it and neither starts nor ends with white space
(`trim_eq_iff`).
-/

namespace LogGate.Text

/-- A text is empty or starts with a character that is not of a class. -/
def Stops (p : Char → Bool) (s : List Char) : Prop := ∀ c ∈ s.head?, p c = false

section
variable {p : Char → Bool} {front rest s core : List Char} {c : Char}

@[simp] theorem Stops_nil : Stops p [] := by simp [Stops]

@[simp] theorem Stops_cons : Stops p (c :: s) ↔ p c = false := by simp [Stops]

/-- What a class leaves of a text stops it. -/
theorem Stops_dropWhile (p : Char → Bool) (s : List Char) : Stops p (s.dropWhile p) := by
  intro c hc
  have h := List.head?_dropWhile_not p s
  rw [Option.mem_def.1 hc] at h
  exact h

/-- What a text that stops starts with stops, too. -/
theorem Stops.take (h : Stops p s) (k : Nat) : Stops p (s.take k) := by
  cases k with
  | zero => exact Stops_nil
  | succ k =>
    cases s with
    | nil => exact Stops_nil
    | cons c s => exact h

/-- Nothing is taken from a text that stops. -/
theorem Stops.takeWhile (h : Stops p s) : s.takeWhile p = [] := by
  cases s with
  | nil => rfl
  | cons c s => rw [List.takeWhile_cons, Stops_cons.1 h]; rfl

/-- Nothing is dropped from a text that stops. -/
theorem Stops.dropWhile (h : Stops p s) : s.dropWhile p = s := by
  cases s with
  | nil => rfl
  | cons c s => rw [List.dropWhile_cons, Stops_cons.1 h]; rfl

/-- Characters of a class are taken up to where the text stops. -/
theorem takeWhile_append (hf : ∀ c ∈ front, p c = true) (hr : Stops p rest) :
    (front ++ rest).takeWhile p = front := by
  rw [List.takeWhile_append_of_pos hf, hr.takeWhile, List.append_nil]

/-- Characters of a class are dropped up to where the text stops. -/
theorem dropWhile_append (hf : ∀ c ∈ front, p c = true) (hr : Stops p rest) :
    (front ++ rest).dropWhile p = rest := by
  rw [List.dropWhile_append_of_pos hf, hr.dropWhile]

/-- Every text is characters of a class and then a text that stops. -/
theorem exists_stops (p : Char → Bool) (s : List Char) :
    ∃ front rest, s = front ++ rest ∧ (∀ c ∈ front, p c = true) ∧ Stops p rest :=
  ⟨s.takeWhile p, s.dropWhile p, List.takeWhile_append_dropWhile.symm,
    List.all_eq_true.1 List.all_takeWhile, Stops_dropWhile p s⟩

/-! ## Trimming -/

/-- A text is a core with white space around it, and the core has none at its ends. -/
def IsTrim (s core : List Char) : Prop :=
  ∃ before after, s = before ++ core ++ after ∧
    (∀ c ∈ before, isBlank c = true) ∧ (∀ c ∈ after, isBlank c = true) ∧
    Stops isBlank core ∧ Stops isBlank core.reverse

/-- White space before a text is dropped, unless nothing but white space follows. -/
theorem dropBlanks_append (hf : ∀ c ∈ front, isBlank c = true) (hr : Stops isBlank rest) :
    dropBlanks (front ++ rest) = rest := dropWhile_append hf hr

/-- Trimming takes off what stands around the core. -/
theorem IsTrim.trim_eq (h : IsTrim s core) : trim s = core := by
  obtain ⟨before, after, rfl, hb, ha, hfirst, hlast⟩ := h
  have har : ∀ c ∈ after.reverse, isBlank c = true := fun c hc => ha c (List.mem_reverse.1 hc)
  cases core with
  | nil =>
    -- no core: everything is white space, and the first pass takes it all
    have hall : ∀ c ∈ before ++ after, isBlank c = true := by
      intro c hc
      exact (List.mem_append.1 hc).elim (hb c) (ha c)
    have hnil : dropBlanks (before ++ after ++ []) = [] := dropBlanks_append hall Stops_nil
    rw [List.append_nil] at hnil
    rw [trim, List.append_nil, hnil]
    rfl
  | cons c core =>
    have hfront : dropBlanks (before ++ (c :: core ++ after)) = c :: core ++ after :=
      dropBlanks_append hb (Stops_cons.2 (Stops_cons.1 hfirst))
    rw [trim, List.append_assoc, hfront, List.reverse_append, dropBlanks_append har hlast,
      List.reverse_reverse]

/-- The core that trimming finds has white space around it and none at its ends. -/
theorem isTrim_trim (s : List Char) : IsTrim s (trim s) := by
  obtain ⟨before, rest, rfl, hb, hr⟩ := exists_stops isBlank s
  obtain ⟨after, core, hrest, ha, hc⟩ := exists_stops isBlank rest.reverse
  have hsplit : rest = core.reverse ++ after.reverse := by
    rw [← List.reverse_append, ← hrest, List.reverse_reverse]
  have htrim : IsTrim (before ++ rest) core.reverse := by
    refine ⟨before, after.reverse, ?_, hb, fun c hc => ha c (List.mem_reverse.1 hc), ?_, ?_⟩
    · rw [hsplit, List.append_assoc]
    · rw [hsplit] at hr
      cases hcore : core.reverse with
      | nil => exact Stops_nil
      | cons c t => rw [hcore] at hr; exact Stops_cons.2 (Stops_cons.1 hr)
    · rw [List.reverse_reverse]; exact hc
  rw [htrim.trim_eq]
  exact htrim

/-- Trimming finds the one core of a text. -/
theorem trim_eq_iff : trim s = core ↔ IsTrim s core :=
  ⟨fun h => h ▸ isTrim_trim s, IsTrim.trim_eq⟩

end

end LogGate.Text
