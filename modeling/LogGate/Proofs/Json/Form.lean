import LogGate.Json.Skip
import LogGate.Proofs.Json.Body
import LogGate.Proofs.Json.Number

/-!
# The form of values

`Formed .value s` says that a text is a value of a document: a word, a number, a text, or a list or
an object of values, with space between the parts and nothing around the whole. It speaks of the
form only, so any unit may stand between quotes and any key may occur again. What stands within
brackets is `Formed (.inside b isFirst)`, where the first part comes without a comma.

A value is passed over if and only if it has this form. Going through a text that has it is an
induction on the derivation (`Formed.skips`). Conversely, while a text is passed over, brackets
are open, and `Due.Asks` says what they still ask of it: each has to be finished and closed, the
innermost first. Every text that is passed over goes on so (`asks_of_skipDue`), and in the end
no bracket is open. Since a text can be passed over in one way only, it has one value at its front
(`Formed.unique`), up to a place where a value may end (`Delimited`).
-/

namespace LogGate.Json

/-- What stands before a part of what is in brackets: a comma, or nothing before the first one. -/
def Reader.comma : Bool → List Char
  | true => []
  | false => [',']

open Reader (comma)
open Text (Stops)

/-! ## The grammar -/

/-- The opening half of a bracket. -/
def Bracket.opening : Bracket → Char
  | list => '['
  | object => '\x7b'

/-- Nothing but space. -/
def Blank (s : List Char) : Prop := ∀ c ∈ s, isSpace c = true

/-- Where a value may end: at the end of the document, or before space, a comma or the closing half
of a bracket. -/
def Delimited (s : List Char) : Prop :=
  ∀ c ∈ s.head?, isSpace c = true ∨ c = ',' ∨ c = ']' ∨ c = '\x7d'

/-- The key of a member, with the colon behind it. -/
inductive Key (name : List Char) : List Char → Prop where
  | mk {space : List Char} (hname : Literal.Body name) (hspace : Blank space) :
    Key name ('"' :: (name ++ '"' :: (space ++ [':'])))

/-- The words that are values. -/
def words : List (List Char) :=
  [['n', 'u', 'l', 'l'], ['t', 'r', 'u', 'e'], ['f', 'a', 'l', 's', 'e']]

/-- The values that are no lists and no objects. -/
inductive Scalar : List Char → Prop where
  | word {s : List Char} (h : s ∈ words) : Scalar s
  | number {s : List Char} (h : Numeral.Number s) : Scalar s
  | text {body : List Char} (h : Literal.Body body) : Scalar ('"' :: (body ++ ['"']))

/-- What a part of a document can be: a value, or what stands within a bracket, from its first part
on or behind a part. -/
inductive Form where
  | value
  | inside (b : Bracket) (isFirst : Bool)

/-- A text has a form. -/
inductive Formed : Form → List Char → Prop where
  | scalar {s : List Char} (h : Scalar s) : Formed .value s
  | bracketed (b : Bracket) {s : List Char} (h : Formed (.inside b true) s) :
    Formed .value (b.opening :: (s ++ [b.close]))
  | nil {b : Bracket} {isFirst : Bool} {space : List Char} (h : Blank space) :
    Formed (.inside b isFirst) space
  | item {isFirst : Bool} {before space value s : List Char} (hbefore : Blank before)
    (hspace : Blank space) (hvalue : Formed .value value)
    (hs : Formed (.inside .list false) s) :
    Formed (.inside .list isFirst) (before ++ (comma isFirst ++ (space ++ (value ++ s))))
  | member {isFirst : Bool} {before space name key behind value s : List Char}
    (hbefore : Blank before) (hspace : Blank space) (hkey : Key name key) (hbehind : Blank behind)
    (hvalue : Formed .value value) (hs : Formed (.inside .object false) s) :
    Formed (.inside .object isFirst)
      (before ++ (comma isFirst ++ (space ++ (key ++ (behind ++ (value ++ s))))))

section
variable {s r rest space before value key name : List Char} {c : Char} {b : Bracket}
variable {isFirst : Bool} {opened : List Bracket}

/-! ## Space -/

theorem blank_nil : Blank [] := nofun

theorem blank_append (h : Blank before) (h' : Blank space) : Blank (before ++ space) := by
  intro c hc
  exact (List.mem_append.1 hc).elim (h c) (h' c)

/-- Space is passed over. -/
theorem dropSpace_append (h : Blank space) (hr : Stops isSpace rest) :
    dropSpace (space ++ rest) = rest := Text.dropWhile_append h hr

/-- The comma before a part is no space. -/
theorem stops_comma (s : List Char) : Stops isSpace (comma false ++ s) := Text.Stops_cons.mpr rfl

/-- What is passed over is space, and no more comes. -/
theorem dropSpace_eq (s : List Char) :
    ∃ space, s = space ++ dropSpace s ∧ Blank space ∧ Stops isSpace (dropSpace s) :=
  ⟨s.takeWhile isSpace, List.takeWhile_append_dropWhile.symm,
    List.all_eq_true.1 List.all_takeWhile, Text.Stops_dropWhile isSpace s⟩

/-- A text with something behind its space. -/
theorem exists_blank (h : dropSpace s = c :: r) :
    ∃ space, s = space ++ c :: r ∧ Blank space := by
  obtain ⟨space, hs, hspace, -⟩ := dropSpace_eq s
  rw [h] at hs
  exact ⟨space, hs, hspace⟩

/-- No number goes on where a value may end. -/
theorem Delimited.stops (h : Delimited rest) : Stops Numeral.goesOn rest := by
  intro c hc
  rcases h c hc with hspace | rfl | rfl | rfl
  · simp only [isSpace, Bool.or_eq_true, beq_iff_eq] at hspace
    rcases hspace with ((rfl | rfl) | rfl) | rfl <;> rfl
  · rfl
  · rfl
  · rfl

/-- A value may end before what follows it in a bracket. -/
theorem Formed.delimited (h : Formed (.inside b false) s) (rest : List Char) :
    Delimited (s ++ b.close :: rest) := by
  have hblank : ∀ {space t : List Char}, Blank space → Delimited t → Delimited (space ++ t) := by
    intro space t hspace ht
    cases space with
    | nil => exact ht
    | cons c space =>
      intro d hd
      cases hd
      exact .inl (hspace _ (.head _))
  cases h with
  | nil h =>
    refine hblank h fun c hc => ?_
    cases hc
    cases b
    · exact .inr (.inr (.inl rfl))
    · exact .inr (.inr (.inr rfl))
  | item hbefore | member hbefore =>
    rw [List.append_assoc]
    refine hblank hbefore fun c hc => ?_
    cases hc
    exact .inr (.inl rfl)

/-- A word is a value. -/
theorem mem_words (h : s ∈ words) :
    s = ['n', 'u', 'l', 'l'] ∨ s = ['t', 'r', 'u', 'e'] ∨ s = ['f', 'a', 'l', 's', 'e'] := by
  simpa [words] using h

/-- A number starts with a minus sign or a digit. -/
theorem exists_cons_of_number (h : Numeral.Number s) :
    ∃ c t, s = c :: t ∧ (c = '-' ∨ c.isDigit = true) := by
  cases h with
  | plain h =>
    obtain ⟨c, t, rfl, hc⟩ := h.exists_cons
    exact ⟨c, t, rfl, .inr hc⟩
  | negative h => exact ⟨'-', _, rfl, .inl rfl⟩

/-- A value starts neither with space nor with the closing half of a bracket. -/
theorem Formed.exists_cons (h : Formed .value value) :
    ∃ c t, value = c :: t ∧ isSpace c = false ∧ ∀ b : Bracket, c ≠ b.close := by
  cases h with
  | bracketed b h =>
    exact ⟨_, _, rfl, by cases b <;> rfl, fun b' => by cases b <;> cases b' <;> decide⟩
  | scalar h =>
    cases h with
    | word h =>
      rcases mem_words h with rfl | rfl | rfl <;>
        exact ⟨_, _, rfl, rfl, fun b => by cases b <;> decide⟩
    | text h => exact ⟨_, _, rfl, rfl, fun b => by cases b <;> decide⟩
    | number h =>
      obtain ⟨c, t, rfl, rfl | hc⟩ := exists_cons_of_number h
      · exact ⟨_, _, rfl, rfl, fun b => by cases b <;> decide⟩
      · refine ⟨c, t, rfl, ?_, ?_⟩
        · rw [Bool.eq_false_iff]
          intro hspace
          simp only [isSpace, Bool.or_eq_true, beq_iff_eq] at hspace
          rcases hspace with ((rfl | rfl) | rfl) | rfl <;> cases hc
        · rintro (_ | _) rfl <;> cases hc

/-- No scalar starts with the opening half of a bracket. -/
theorem Scalar.ne_opening (h : Scalar (c :: s)) (b : Bracket) : c ≠ b.opening := by
  rintro rfl
  generalize hs : b.opening :: s = value at h
  cases h with
  | word h => rcases mem_words h with rfl | rfl | rfl <;> cases b <;> cases hs
  | text h => cases b <;> cases hs
  | number h =>
    obtain ⟨c, t, rfl, hc | hc⟩ := exists_cons_of_number h
    · rw [hc] at hs
      cases b <;> cases hs
    · rw [← (List.cons.inj hs).1] at hc
      cases b <;> cases hc

/-! ## Scalars -/

/-- A word is passed over. -/
theorem word_append (w rest : List Char) : word w (w ++ rest) = .ok rest := by
  induction w with
  | nil => rfl
  | cons c w ih => rw [List.cons_append, word, if_pos rfl, ih]

/-- What is passed over is the word. -/
theorem eq_of_word {w : List Char} (h : word w s = .ok r) : s = w ++ r := by
  induction w generalizing s with
  | nil => cases h; rfl
  | cons c w ih =>
    cases s with
    | nil => cases h
    | cons d s =>
      rw [word] at h
      by_cases hd : d = c
      · rw [if_pos hd] at h
        rw [hd, ih h, List.cons_append]
      · rw [if_neg hd] at h
        cases h

/-- A number that starts with a digit is read as one. -/
theorem skipScalar_digit (hc : c.isDigit = true) :
    skipScalar (c :: s) = (Numeral.read .form (c :: s)).map Prod.snd := by
  have hne : ∀ d : Char, d.isDigit = false → c ≠ d := by
    rintro d hd rfl
    cases hc.symm.trans hd
  rw [skipScalar, if_neg (hne _ rfl), if_neg (hne _ rfl), if_neg (hne _ rfl), if_neg (hne _ rfl),
    if_neg (hne _ rfl), if_pos hc]

/-- A scalar is passed over, if it ends where a value may end. -/
theorem Scalar.skip (h : Scalar s) (hr : Delimited rest) : skipScalar (s ++ rest) = .ok rest := by
  cases h with
  | word h =>
    rcases mem_words h with rfl | rfl | rfl
    · exact word_append ['u', 'l', 'l'] rest
    · exact word_append ['r', 'u', 'e'] rest
    · exact word_append ['a', 'l', 's', 'e'] rest
  | number h =>
    cases h with
    | plain h =>
      obtain ⟨n, hread⟩ := h.read .form hr.stops
      obtain ⟨c, t, rfl, hc⟩ := h.exists_cons
      rw [List.cons_append] at hread ⊢
      rw [skipScalar_digit hc, hread]
      rfl
    | negative h =>
      obtain ⟨n, hread⟩ := h.read .form hr.stops
      show (Numeral.read .form (_ ++ rest)).map Prod.snd = _
      rw [hread]
      rfl
  | @text body h =>
    obtain ⟨a, hscan⟩ := h.scan [] rest
    show (Literal.scan .form .plain [] (body ++ ['"'] ++ rest)).map Prod.snd = _
    rw [List.append_assoc, List.singleton_append, hscan]
    rfl

/-- What is left of a reader's answer, if it has one. -/
theorem exists_of_map_snd {α : Type} {x : Except Fault (α × List Char)}
    (h : x.map Prod.snd = .ok r) : ∃ a, x = .ok (a, r) := by
  cases x with
  | error f => cases h
  | ok p => cases h; exact ⟨p.1, rfl⟩

/-- What is passed over is a scalar. -/
theorem scalar_of_skip (h : skipScalar s = .ok r) : ∃ t, s = t ++ r ∧ Scalar t := by
  cases s with
  | nil => cases h
  | cons c s =>
    have hword : ∀ {w : List Char}, c :: w ∈ words → word w s = .ok r →
        ∃ t, c :: s = t ++ r ∧ Scalar t := by
      intro w hw h
      exact ⟨c :: w, congrArg _ (eq_of_word h), .word hw⟩
    rw [skipScalar] at h
    split at h
    · next hc => subst hc; exact hword (by decide) h
    split at h
    · next hc => subst hc; exact hword (by decide) h
    split at h
    · next hc => subst hc; exact hword (by decide) h
    split at h
    · next hc =>
      subst hc
      obtain ⟨a, hscan⟩ := exists_of_map_snd h
      obtain ⟨body, rfl, hbody⟩ := Literal.exists_body hscan
      exact ⟨'"' :: (body ++ ['"']), by simp, .text hbody⟩
    split at h
    · next hc =>
      subst hc
      obtain ⟨n, hread⟩ := exists_of_map_snd h
      obtain ⟨t, rfl, ht⟩ := Numeral.unsigned_of_read hread
      exact ⟨'-' :: t, rfl, .number (.negative ht)⟩
    split at h
    · obtain ⟨n, hread⟩ := exists_of_map_snd h
      obtain ⟨t, hs, ht⟩ := Numeral.unsigned_of_read hread
      exact ⟨t, hs, .number (.plain ht)⟩
    · cases h

/-! ## Keys -/

/-- A key is passed over. -/
theorem Key.skip (h : Key name key) (hspace : Blank space) (rest : List Char) :
    skipKey (space ++ (key ++ rest)) = .ok rest := by
  cases h with
  | @mk behind hname hbehind =>
    have hkey : '"' :: (name ++ '"' :: (behind ++ [':'])) ++ rest =
        '"' :: (name ++ '"' :: (behind ++ ':' :: rest)) := by simp
    obtain ⟨a, hscan⟩ := hname.scan [] (behind ++ ':' :: rest)
    have hstart : Stops isSpace ('"' :: (name ++ '"' :: (behind ++ ':' :: rest))) :=
      Text.Stops_cons.mpr rfl
    have hcolon : Stops isSpace (':' :: rest) := Text.Stops_cons.mpr rfl
    rw [hkey, skipKey, dropSpace_append hspace hstart]
    dsimp only
    rw [if_pos rfl, hscan]
    simp only [bind, Except.bind, dropSpace_append hbehind hcolon]
    rfl

/-- What is passed over is a key. -/
theorem key_of_skip (h : skipKey s = .ok r) :
    ∃ space name key, s = space ++ (key ++ r) ∧ Blank space ∧ Key name key := by
  unfold skipKey at h
  cases hs : dropSpace s with
  | nil => rw [hs] at h; cases h
  | cons c t =>
    rw [hs] at h
    dsimp only at h
    by_cases hc : c = '"'
    · subst hc
      obtain ⟨space, rfl, hspace⟩ := exists_blank hs
      rw [if_pos rfl] at h
      cases hscan : Literal.scan .form .plain [] t with
      | error f => rw [hscan] at h; cases h
      | ok p =>
        obtain ⟨a, u⟩ := p
        obtain ⟨name, rfl, hname⟩ := Literal.exists_body hscan
        rw [hscan] at h
        simp only [bind, Except.bind] at h
        cases hu : dropSpace u with
        | nil => rw [hu] at h; cases h
        | cons d v =>
          rw [hu] at h
          dsimp only at h
          by_cases hd : d = ':'
          · subst hd
            rw [if_pos rfl] at h
            cases h
            obtain ⟨behind, rfl, hbehind⟩ := exists_blank hu
            exact ⟨space, name, _, by simp, hspace, .mk hname hbehind⟩
          · rw [if_neg hd] at h
            cases h
    · rw [if_neg hc] at h
      cases h

/-! ## Steps -/

/-- An opening half opens a bracket. -/
theorem skipDue_open (hs : dropSpace s = b.opening :: r) :
    skipDue .value opened s = skipDue .first (b :: opened) r := by
  rw [skipDue]
  cases b with
  | list =>
    split
    · next h => cases hs.symm.trans h; rfl
    · next h => cases hs.symm.trans h
    · next h _ => exact absurd hs (h _)
  | object =>
    split
    · next h => cases hs.symm.trans h
    · next h => cases hs.symm.trans h; rfl
    · next _ h => exact absurd hs (h _)

/-- A scalar is passed over before what is due next. -/
theorem skipDue_scalar (hr : skipScalar (dropSpace s) = .ok r) :
    skipDue .value opened s = skipDue .next opened r := by
  rw [skipDue]
  split
  · next h => rw [h] at hr; cases hr
  · next h => rw [h] at hr; cases hr
  · split
    · next h => cases hr.symm.trans h
    · next h => cases hr.symm.trans h; rfl

/-- A key is passed over before its value. -/
theorem skipDue_key (hs : skipKey s = .ok r) :
    skipDue .member opened s = skipDue .value opened r := by
  rw [skipDue.eq_def .member]
  dsimp only
  split
  · next h => cases hs.symm.trans h
  · next h => cases hs.symm.trans h; rfl

/-- What is due where the first part of a bracket may come, or another one. -/
def Due.ofFirst : Bool → Due
  | true => .first
  | false => .next

/-- A closing half closes the innermost bracket. -/
theorem skipDue_close (hs : dropSpace s = b.close :: r) :
    skipDue (.ofFirst isFirst) (b :: opened) s = skipDue .next opened r := by
  cases isFirst with
  | true =>
    rw [Due.ofFirst, skipDue]
    split
    · next h => cases hs.symm.trans h
    · next h => cases hs.symm.trans h; exact if_pos rfl
  | false =>
    rw [Due.ofFirst, skipDue]
    split
    · next h => cases hs.symm.trans h
    · next h => cases hs.symm.trans h; exact if_pos rfl

/-- Another part comes first or behind a comma. -/
theorem skipDue_part (hc : isSpace c = false) (hclose : c ≠ b.close) (hbefore : Blank before)
    (hspace : Blank space) (isFirst : Bool) (opened : List Bracket) (r : List Char) :
    ∃ space', Blank space' ∧
      skipDue (.ofFirst isFirst) (b :: opened) (before ++ (comma isFirst ++ (space ++ c :: r))) =
        skipDue b.item (b :: opened) (space' ++ c :: r) := by
  have hstops : Stops isSpace (c :: r) := Text.Stops_cons.mpr hc
  cases isFirst with
  | true =>
    have hs : dropSpace (before ++ (comma true ++ (space ++ c :: r))) = c :: r := by
      show dropSpace (before ++ (space ++ c :: r)) = _
      rw [← List.append_assoc]
      exact dropSpace_append (blank_append hbefore hspace) hstops
    refine ⟨[], blank_nil, ?_⟩
    rw [Due.ofFirst, skipDue]
    split
    · next h => cases hs.symm.trans h
    · next h =>
      cases hs.symm.trans h
      rw [if_neg hclose]
      rfl
  | false =>
    have hs : dropSpace (before ++ (comma false ++ (space ++ c :: r))) = ',' :: (space ++ c :: r) :=
      dropSpace_append hbefore (Text.Stops_cons.mpr rfl)
    refine ⟨space, hspace, ?_⟩
    rw [Due.ofFirst, skipDue]
    split
    · next h => cases hs.symm.trans h
    · next h =>
      cases hs.symm.trans h
      rw [if_neg (by cases b <;> decide), if_pos rfl]

/-! ## Passing over what has the form -/

/-- Brackets that are open go on behind a part of theirs. -/
def Form.Skips : Form → List Char → Prop
  | .value, s => ∀ {space rest : List Char} {opened : List Bracket}, Blank space → Delimited rest →
    skipDue .value opened (space ++ (s ++ rest)) = skipDue .next opened rest
  | .inside b isFirst, s => ∀ {rest : List Char} {opened : List Bracket},
    skipDue (.ofFirst isFirst) (b :: opened) (s ++ b.close :: rest) = skipDue .next opened rest

/-- A value in brackets is passed over whatever follows it, if what stands within is. -/
theorem Form.Skips.bracketed (h : Form.Skips (.inside b true) s) (hspace : Blank space)
    (rest : List Char) (opened : List Bracket) :
    skipDue .value opened (space ++ (b.opening :: (s ++ [b.close]) ++ rest)) =
      skipDue .next opened rest := by
  have hopen : dropSpace (space ++ (b.opening :: (s ++ [b.close]) ++ rest)) =
      b.opening :: (s ++ b.close :: rest) := by
    rw [List.cons_append, List.append_assoc, List.singleton_append]
    exact dropSpace_append hspace (Text.Stops_cons.mpr (by cases b <;> rfl))
  rw [skipDue_open hopen]
  exact h

/-- What has a form is passed over. -/
theorem Formed.skips {form : Form} (h : Formed form s) : form.Skips s := by
  induction h with
  | @scalar s h =>
    intro space rest opened hspace hr
    obtain ⟨c, t, rfl, hc, -⟩ := (Formed.scalar h).exists_cons
    have hdrop : dropSpace (space ++ (c :: t ++ rest)) = c :: t ++ rest :=
      dropSpace_append hspace (Text.Stops_cons.mpr hc)
    refine skipDue_scalar ?_
    rw [hdrop]
    exact h.skip hr
  | bracketed b _ ih =>
    intro space rest opened hspace _
    exact ih.bracketed hspace rest opened
  | @nil b isFirst space h =>
    intro rest opened
    exact skipDue_close (dropSpace_append h (Text.Stops_cons.mpr (by cases b <;> rfl)))
  | @item isFirst before space value s hbefore hspace hvalue hs ihvalue ihs =>
    intro rest opened
    obtain ⟨c, t, rfl, hc, hclose⟩ := hvalue.exists_cons
    obtain ⟨space', hspace', hpart⟩ := skipDue_part hc (hclose .list) hbefore hspace isFirst opened
      (t ++ (s ++ ']' :: rest))
    have hassoc : before ++ (comma isFirst ++ (space ++ (c :: t ++ s))) ++ ']' :: rest =
        before ++ (comma isFirst ++ (space ++ c :: (t ++ (s ++ ']' :: rest)))) := by simp
    show skipDue _ _ (_ ++ ']' :: rest) = _
    rw [hassoc, hpart]
    exact (ihvalue hspace' (hs.delimited rest)).trans ihs
  | @member isFirst before space name key behind value s hbefore hspace hkey hbehind hvalue hs
      ihvalue ihs =>
    intro rest opened
    obtain ⟨t, hquote⟩ : ∃ t, key = '"' :: t := by cases hkey; exact ⟨_, rfl⟩
    have hclose : '"' ≠ Bracket.object.close := by decide
    obtain ⟨space', hspace', hpart⟩ := skipDue_part rfl hclose hbefore hspace isFirst opened
      (t ++ (behind ++ (value ++ (s ++ '\x7d' :: rest))))
    have hassoc : before ++ (comma isFirst ++ (space ++ (key ++ (behind ++ (value ++ s))))) ++
        '\x7d' :: rest = before ++ (comma isFirst ++ (space ++
          '"' :: (t ++ (behind ++ (value ++ (s ++ '\x7d' :: rest)))))) := by simp [hquote]
    have hgo := hkey.skip hspace' (behind ++ (value ++ (s ++ '\x7d' :: rest)))
    rw [hquote, List.cons_append] at hgo
    show skipDue _ _ (_ ++ '\x7d' :: rest) = _
    rw [hassoc, hpart]
    show skipDue .member _ _ = _
    rw [skipDue_key hgo]
    exact (ihvalue hbehind (hs.delimited rest)).trans ihs

/-- **Values that are passed over.** A value is passed over whatever space stands before it, if it
ends where a value may end. -/
theorem Formed.skip (h : Formed .value value) (hspace : Blank space) (hr : Delimited rest) :
    skip (space ++ (value ++ rest)) = .ok rest := by
  rw [Json.skip, h.skips hspace hr, skipDue]

/-- A value in brackets is passed over even if it ends where no other value may end. -/
theorem Formed.skip_bracketed (h : Formed (.inside b true) s) (hspace : Blank space)
    (rest : List Char) :
    Json.skip (space ++ (b.opening :: (s ++ [b.close]) ++ rest)) = .ok rest := by
  have hskips : (Form.inside b true).Skips s := h.skips
  rw [Json.skip, hskips.bracketed hspace, skipDue]

/-! ## What is passed over -/

/-- What open brackets ask of a text, up to what is left in the end: each of them is finished and
closed, the innermost first. -/
def Finishes (r : List Char) : List Bracket → List Char → Prop
  | [], s => s = r
  | b :: opened, s => ∃ t u, s = t ++ b.close :: u ∧ Formed (.inside b false) t ∧
    Finishes r opened u

/-- What is due and the open brackets ask of a text. -/
def Due.Asks (r : List Char) (opened : List Bracket) : Due → List Char → Prop
  | .value, s => ∃ space value t, s = space ++ (value ++ t) ∧ Blank space ∧
    Formed .value value ∧ Finishes r opened t
  | .member, s => ∃ space name key behind value t, s = space ++ (key ++ (behind ++ (value ++ t))) ∧
    Blank space ∧ Key name key ∧ Blank behind ∧ Formed .value value ∧ Finishes r opened t
  | .first, s => match opened with
    | [] => s = r
    | b :: opened => ∃ t u, s = t ++ b.close :: u ∧ Formed (.inside b true) t ∧
      Finishes r opened u
  | .next, s => Finishes r opened s

/-- A part, with what brackets ask behind it. -/
theorem Due.Asks.inside (h : Due.Asks r (b :: opened) b.item s) (isFirst : Bool)
    (hbefore : Blank before) :
    ∃ t u, before ++ (comma isFirst ++ s) = t ++ b.close :: u ∧ Formed (.inside b isFirst) t ∧
      Finishes r opened u := by
  cases b with
  | list =>
    obtain ⟨space, value, t, rfl, hspace, hvalue, t, u, rfl, ht, hu⟩ := h
    exact ⟨_, u, by simp, .item hbefore hspace hvalue ht, hu⟩
  | object =>
    obtain ⟨space, name, key, behind, value, t, rfl, hspace, hkey, hbehind, hvalue, t, u, rfl, ht,
      hu⟩ := h
    exact ⟨_, u, by simp, .member hbefore hspace hkey hbehind hvalue ht, hu⟩

/-- A value in brackets, with what brackets ask behind it. -/
theorem Due.Asks.bracketed (h : Due.Asks r (b :: opened) .first rest)
    (hs : dropSpace s = b.opening :: rest) : Due.Asks r opened .value s := by
  obtain ⟨space, rfl, hspace⟩ := exists_blank hs
  obtain ⟨t, u, rfl, ht, hu⟩ := h
  exact ⟨space, b.opening :: (t ++ [b.close]), u, by simp, hspace, .bracketed b ht, hu⟩

/-- What is passed over is what was due and what the open brackets asked. -/
theorem asks_of_skipDue {due : Due} (h : skipDue due opened s = .ok r) :
    due.Asks r opened s := by
  fun_induction skipDue due opened s with
  | case1 s opened t hs ih => exact (ih h).bracketed (b := .list) hs
  | case2 s opened t hs ih => exact (ih h).bracketed (b := .object) hs
  | case4 s opened t _ _ hr ih =>
    obtain ⟨space, hs, hspace, -⟩ := dropSpace_eq s
    obtain ⟨value, hvalue, hscalar⟩ := scalar_of_skip hr
    rw [hvalue] at hs
    exact ⟨space, value, t, hs, hspace, .scalar hscalar, ih h⟩
  | case6 s opened t hr ih =>
    obtain ⟨space, name, key, rfl, hspace, hkey⟩ := key_of_skip hr
    obtain ⟨behind, value, t, rfl, hbehind, hvalue, ht⟩ := ih h
    exact ⟨space, name, key, behind, value, t, rfl, hspace, hkey, hbehind, hvalue, ht⟩
  | case7 | case8 => cases h; rfl
  | case10 s b opened t hs ih =>
    obtain ⟨space, rfl, hspace⟩ := exists_blank hs
    exact ⟨space, t, rfl, .nil hspace, ih h⟩
  | case11 s b opened c t hs _ ih =>
    obtain ⟨space, rfl, hspace⟩ := exists_blank hs
    exact (ih h).inside true hspace
  | case13 s b opened t hs ih =>
    obtain ⟨space, rfl, hspace⟩ := exists_blank hs
    exact ⟨space, t, rfl, .nil hspace, ih h⟩
  | case14 s b opened t hs _ ih =>
    obtain ⟨space, rfl, hspace⟩ := exists_blank hs
    exact (ih h).inside false hspace
  | case3 | case5 | case9 | case12 | case15 => cases h

/-- **What is passed over is a value.** -/
theorem formed_of_skip (h : skip s = .ok r) :
    ∃ space value, s = space ++ (value ++ r) ∧ Blank space ∧ Formed .value value := by
  obtain ⟨space, value, t, rfl, hspace, hvalue, ht⟩ := asks_of_skipDue h
  cases (ht : t = r)
  exact ⟨space, value, rfl, hspace, hvalue⟩

/-- A text has one value at its front. -/
theorem Formed.unique {value' rest' : List Char} (h : Formed .value value)
    (h' : Formed .value value') (hr : Delimited rest) (hr' : Delimited rest')
    (heq : value ++ rest = value' ++ rest') : value = value' ∧ rest = rest' := by
  have hskip := h.skip blank_nil hr
  rw [List.nil_append, heq] at hskip
  have hskip' := h'.skip blank_nil hr'
  rw [List.nil_append, hskip] at hskip'
  cases hskip'
  exact ⟨List.append_cancel_right heq, rfl⟩

end

end LogGate.Json
