import LogGate.Proofs.Json.Keys
import LogGate.Proofs.Json.Rows

/-!
# What readers accept

`Exact x accepts` says that a reader accepts a value if and only if `accepts` holds of its text and
of what it is read as, and that it reads nothing else: space before the value is passed over, and
what follows is left. The readers of scalars are exact, and readers that are put together of exact
ones are exact again. So a whole document is decoded by an exact reader if and only if that accepts
the one value that the document spells (`Exact.decode_iff`).

A reader of members goes from one member to the next, and what it comes to is a chain of the effects
of each (`Follows`). If the steps are exact behind the colon, it accepts members if and only if
there is such a chain (`membersFrom_sound`, `membersFrom_complete`).
-/

namespace LogGate.Json

open Reader (comma)
open Text (Stops)

/-! ## Values of scalar types -/

/-- A value is a text. -/
inductive TextOf (value : List Char) (t : String) : Prop where
  | mk {body : List Char} (h : Literal.Denotes body t.toList)
    (hvalue : value = '"' :: (body ++ ['"']))

/-- A value is a text or the word for none. -/
inductive OptionalTextOf (value : List Char) : Option String → Prop where
  | absent (h : value = ['n', 'u', 'l', 'l']) : OptionalTextOf value none
  | present {t : String} (h : TextOf value t) : OptionalTextOf value (some t)

/-! ## Exact readers -/

/-- A reader accepts certain values, for what they are read as, and reads nothing else. -/
structure Exact {α : Type} (x : Reader α) (accepts : List Char → α → Prop) : Prop where
  formed : ∀ {value a}, accepts value a → Formed .value value
  sound : ∀ {s r a}, x.run s = .ok (a, r) →
    ∃ space value, s = space ++ (value ++ r) ∧ Blank space ∧ accepts value a
  complete : ∀ {space value rest a}, Blank space → accepts value a → Delimited rest →
    x.run (space ++ (value ++ rest)) = .ok (a, rest)

/-- The same of a reader that reads a colon before the value. -/
structure ExactMember {α : Type} (x : Reader α) (accepts : List Char → α → Prop) : Prop where
  formed : ∀ {value a}, accepts value a → Formed .value value
  sound : ∀ {s r a}, x.run s = .ok (a, r) → ∃ space behind value,
    s = space ++ ':' :: (behind ++ (value ++ r)) ∧ Blank space ∧ Blank behind ∧ accepts value a
  complete : ∀ {space behind value rest a}, Blank space → Blank behind → accepts value a →
    Delimited rest → x.run (space ++ ':' :: (behind ++ (value ++ rest))) = .ok (a, rest)

section
variable {α β ε σ : Type} {x : Reader α} {f : α → Reader β} {a : α} {b : β}
variable {accepts : List Char → α → Prop} {expected document : String}
variable {s r rest space before value name key : List Char} {isFirst : Bool}
variable {ms : List (List Char × List Char)} {t : String}

/-- What a reader accepts may be said in other words. -/
theorem Exact.congr {accepts' : List Char → α → Prop} (h : Exact x accepts)
    (heq : ∀ value a, accepts value a ↔ accepts' value a) : Exact x accepts' := by
  have hsame : accepts = accepts' := funext fun value => funext fun a => propext (heq value a)
  exact hsame ▸ h

/-- And so may what a reader of members accepts. -/
theorem ExactMember.congr {accepts' : List Char → α → Prop} (h : ExactMember x accepts)
    (heq : ∀ value a, accepts value a ↔ accepts' value a) : ExactMember x accepts' := by
  have hsame : accepts = accepts' := funext fun value => funext fun a => propext (heq value a)
  exact hsame ▸ h

/-- A text is a value. -/
theorem TextOf.formed (h : TextOf value t) : Formed .value value := by
  obtain ⟨h, rfl⟩ := h
  exact .scalar (.text h.body)

/-- A value is one text at most. -/
theorem TextOf.unique {u : String} (h : TextOf value t) (h' : TextOf value u) : t = u := by
  obtain ⟨h, rfl⟩ := h
  obtain ⟨h', hvalue⟩ := h'
  obtain rfl := List.append_cancel_right (List.cons.inj hvalue).2
  exact String.toList_inj.mp (h.unique h')

/-- What is written for a text is that text. -/
theorem textOf_write (t : String) : TextOf (Literal.write t).toList t :=
  .mk (Literal.denotes_write t) (String.toList_ofList ..)

/-- A text behind its opening quote is read, and nothing else is. -/
theorem quoted_iff : Reader.quoted expected s = .ok (t, r) ↔
    ∃ body, s = '"' :: (body ++ '"' :: r) ∧ Literal.Denotes body t.toList := by
  cases s with
  | nil =>
    constructor
    · intro h; cases h
    · rintro ⟨body, h, -⟩; cases h
  | cons c s =>
    by_cases hc : c = '"'
    · subst hc
      rw [Reader.quoted, if_pos rfl]
      constructor
      · intro h
        cases hscan : Literal.scan .full .plain [] s with
        | error f => rw [hscan] at h; cases h
        | ok p =>
          rw [hscan] at h
          cases h
          obtain ⟨body, hs, hbody⟩ := Literal.scan_full_iff.mp hscan
          exact ⟨body, congrArg _ hs, by rwa [String.toList_ofList]⟩
      · rintro ⟨body, hs, hbody⟩
        rw [Literal.scan_full_iff.mpr ⟨body, (List.cons.inj hs).2, hbody⟩]
        show Except.ok (String.ofList t.toList, r) = _
        rw [String.ofList_toList]
    · rw [Reader.quoted, if_neg hc]
      constructor
      · intro h; cases h
      · rintro ⟨body, hs, -⟩
        exact absurd (List.cons.inj hs).1 hc

/-- A text is what the reader of texts accepts. -/
theorem exact_text (expected : String) : Exact (Reader.text expected) TextOf where
  formed h := h.formed
  sound h := by
    obtain ⟨body, hs, hbody⟩ := quoted_iff.mp h
    obtain ⟨space, rfl, hspace⟩ := exists_blank hs
    exact ⟨space, '"' :: (body ++ ['"']), by simp, hspace, hbody, rfl⟩
  complete {space value rest a} hspace h _ := by
    refine quoted_iff.mpr ?_
    rw [dropSpace_append hspace (h.formed.stops rest)]
    obtain ⟨hbody, rfl⟩ := h
    exact ⟨_, by simp, hbody⟩

/-- A text or the word for none is what the reader of optional texts accepts. -/
theorem exact_optionalText (expected : String) :
    Exact (Reader.optionalText expected) OptionalTextOf where
  formed h := by
    cases h with
    | absent h => exact h ▸ .scalar (.word (by decide))
    | present h => exact h.formed
  sound {s r a} h := by
    unfold Reader.optionalText at h
    dsimp only at h
    split at h
    · next t hs =>
      cases hw : word ['u', 'l', 'l'] t with
      | error f => rw [hw] at h; cases h
      | ok u =>
        rw [hw] at h
        cases h
        obtain ⟨space, rfl, hspace⟩ := exists_blank hs
        exact ⟨space, _, by rw [eq_of_word hw]; rfl, hspace, .absent rfl⟩
    · cases hq : Reader.quoted expected (dropSpace s) with
      | error f => rw [hq] at h; cases h
      | ok p =>
        rw [hq] at h
        cases h
        obtain ⟨space, value, hs, hspace, hvalue⟩ := (exact_text expected).sound hq
        exact ⟨space, value, hs, hspace, .present hvalue⟩
  complete {space value rest a} hspace h hr := by
    unfold Reader.optionalText
    dsimp only
    cases h with
    | absent h =>
      have hword : Formed .value value := h ▸ .scalar (.word (by decide))
      rw [dropSpace_append hspace (hword.stops rest), h]
      rfl
    | @present t h =>
      have hread : Reader.quoted expected (dropSpace (space ++ (value ++ rest))) = .ok (t, rest) :=
        (exact_text expected).complete hspace h hr
      rw [dropSpace_append hspace (h.formed.stops rest)] at hread ⊢
      obtain ⟨-, rfl⟩ := h
      exact congrArg (Except.map fun p => (some p.1, p.2)) hread

/-- Any value is passed over. -/
theorem exact_anything : Exact Reader.anything fun value _ => Formed .value value where
  formed h := h
  sound {s r a} h := by
    unfold Reader.anything at h
    dsimp only at h
    cases hs : skip s with
    | error f => rw [hs] at h; cases h
    | ok t => rw [hs] at h; cases h; exact formed_of_skip hs
  complete {space value rest a} hspace h hr := by
    unfold Reader.anything
    dsimp only
    rw [h.skip hspace hr]
    rfl

/-- What is made of a value that is accepted is accepted if it is not refused, wherever the refusal
is placed. -/
theorem Exact.made (h : Exact x accepts) (make : α → Except ε β) (refusal : ε → List Char → Fault) :
    Exact (x >>= fun a => match make a with
        | .ok b => pure b
        | .error e => Reader.complain (refusal e))
      fun value b => ∃ a, accepts value a ∧ make a = .ok b where
  formed := fun ⟨_, ha, _⟩ => h.formed ha
  sound {s r b} hrun := by
    obtain ⟨a, t, hx, hmake⟩ := Reader.bind_eq_ok.mp hrun
    obtain ⟨space, value, rfl, hspace, ha⟩ := h.sound hx
    cases hb : make a with
    | error e => rw [hb] at hmake; cases hmake
    | ok b' =>
      rw [hb] at hmake
      cases hmake
      exact ⟨space, value, rfl, hspace, a, ha, hb⟩
  complete {space value rest b} hspace hb hr := by
    obtain ⟨a, ha, hmake⟩ := hb
    refine Reader.bind_eq_ok.mpr ⟨a, rest, h.complete hspace ha hr, ?_⟩
    rw [hmake]
    rfl

/-- So it is where a refusal is placed behind the value. -/
theorem Exact.refine {reason : ε → String} (h : Exact x accepts) (make : α → Except ε β) :
    Exact (Reader.refine reason make x) fun value b => ∃ a, accepts value a ∧ make a = .ok b :=
  h.made make fun e => .here (.refused (reason e))

/-- And so it is where the bracket around the value places it. -/
theorem Exact.refineLate {reason : ε → String} (h : Exact x accepts) (make : α → Except ε β) :
    Exact (Reader.refineLate reason make x) fun value b => ∃ a, accepts value a ∧ make a = .ok b :=
  h.made make fun e => .floating (.refused (reason e))

/-- What is made of a value without a refusal is accepted with it. -/
theorem Exact.map (h : Exact x accepts) (make : α → β) :
    Exact (x >>= fun a => pure (make a)) fun value b => ∃ a, accepts value a ∧ b = make a where
  formed := fun ⟨_, ha, _⟩ => h.formed ha
  sound {s r b} hrun := by
    obtain ⟨a, t, hx, hb⟩ := Reader.bind_eq_ok.mp hrun
    cases hb
    obtain ⟨space, value, rfl, hspace, ha⟩ := h.sound hx
    exact ⟨space, value, rfl, hspace, a, ha, rfl⟩
  complete {space value rest b} hspace hb hr := by
    obtain ⟨a, ha, rfl⟩ := hb
    exact Reader.bind_eq_ok.mpr ⟨a, rest, h.complete hspace ha hr, rfl⟩

/-- A whole document is decoded by an exact reader if that accepts the value it spells. -/
theorem Exact.decode_iff (h : Exact x accepts) : x.decode document = .ok a ↔
    ∃ value, Spells document value ∧ accepts value a := by
  rw [Reader.decode_eq_ok]
  constructor
  · rintro ⟨r, hrun, hr⟩
    obtain ⟨space, value, hs, hspace, ha⟩ := h.sound hrun
    obtain ⟨after, hafter, hblank, -⟩ := dropSpace_eq r
    rw [hr, List.append_nil] at hafter
    exact ⟨value, .mk hspace (h.formed ha) (hafter ▸ hblank) hs, ha⟩
  · rintro ⟨value, ⟨hbefore, hvalue, hafter, hs⟩, ha⟩
    refine ⟨_, hs ▸ h.complete hbefore ha hafter.delimited, ?_⟩
    have hdrop := dropSpace_append hafter Text.Stops_nil
    rwa [List.append_nil] at hdrop

/-- So what a document is decoded as is decided by its value. -/
theorem Spells.decode_iff (hd : Spells document value) (h : Exact x accepts) :
    x.decode document = .ok a ↔ accepts value a := by
  rw [h.decode_iff]
  constructor
  · rintro ⟨value', hd', ha⟩
    rwa [hd.unique hd']
  · exact fun ha => ⟨value, hd, ha⟩

/-! ## Members -/

/-- A colon is read behind space. -/
theorem colon_eq_ok {u : Unit} : Reader.colon.run s = .ok (u, r) ↔ dropSpace s = ':' :: r := by
  unfold Reader.colon
  dsimp only
  cases dropSpace s with
  | nil => simp
  | cons c t =>
    by_cases hc : c = ':'
    · simp [hc]
    · simp [hc]

/-- A value behind a colon is accepted as it is without. -/
theorem Exact.behindColon (h : Exact x accepts) :
    ExactMember (Reader.colon >>= fun _ => x) accepts where
  formed := h.formed
  sound {s r a} hrun := by
    obtain ⟨_, t, hcolon, hx⟩ := Reader.bind_eq_ok.mp hrun
    obtain ⟨space, rfl, hspace⟩ := exists_blank (colon_eq_ok.mp hcolon)
    obtain ⟨behind, value, rfl, hbehind, ha⟩ := h.sound hx
    exact ⟨space, behind, value, rfl, hspace, hbehind, ha⟩
  complete {space behind value rest a} hspace hbehind ha hr := by
    refine Reader.bind_eq_ok.mpr ⟨(), _, colon_eq_ok.mpr ?_, h.complete hbehind ha hr⟩
    exact dropSpace_append hspace (Text.Stops_cons.mpr rfl)

/-- Values of a member that are made without reading more are accepted as before. -/
theorem ExactMember.map (h : ExactMember x accepts) (make : α → β) :
    ExactMember (x >>= fun a => pure (make a))
      fun value b => ∃ a, accepts value a ∧ b = make a where
  formed := fun ⟨_, ha, _⟩ => h.formed ha
  sound {s r b} hrun := by
    obtain ⟨a, t, hx, hb⟩ := Reader.bind_eq_ok.mp hrun
    cases hb
    obtain ⟨space, behind, value, rfl, hspace, hbehind, ha⟩ := h.sound hx
    exact ⟨space, behind, value, rfl, hspace, hbehind, a, ha, rfl⟩
  complete {space behind value rest b} hspace hbehind hb hr := by
    obtain ⟨a, ha, rfl⟩ := hb
    exact Reader.bind_eq_ok.mpr ⟨a, rest, h.complete hspace hbehind ha hr, rfl⟩

/-- The value of a member is accepted where the member has not occurred before. -/
theorem Exact.once (h : Exact x accepts) (name : String) (occurred : Option α) :
    ExactMember (Reader.once name occurred x)
      fun value a => occurred = none ∧ ∃ b, accepts value b ∧ a = some b where
  formed := fun ⟨_, _, hb, _⟩ => h.formed hb
  sound {s r a} hrun := by
    cases occurred with
    | some b => cases hrun
    | none =>
      obtain ⟨space, behind, value, hs, hspace, hbehind, ha⟩ :=
        ((h.map some).behindColon).sound hrun
      exact ⟨space, behind, value, hs, hspace, hbehind, rfl, ha⟩
  complete {space behind value rest a} hspace hbehind ha hr := by
    obtain ⟨rfl, ha⟩ := ha
    exact ((h.map some).behindColon).complete hspace hbehind ha hr

/-- What members come to, one after the other: each has a key and an effect on what came before. -/
inductive Follows (effect : String → σ → List Char → σ → Prop) :
    List (List Char × List Char) → σ → σ → Prop where
  | nil {acc : σ} : Follows effect [] acc acc
  | cons {name value : List Char} {key : String} {ms : List (List Char × List Char)}
    {acc next last : σ} (hname : Literal.Denotes name key.toList) (h : effect key acc value next)
    (hs : Follows effect ms next last) : Follows effect ((name, value) :: ms) acc last

variable {step : String → σ → Reader σ} {effect : String → σ → List Char → σ → Prop}
variable {acc last : σ}

/-- There is no further member before the closing brace. -/
theorem nextKey_closed (h : Blank space) (rest : List Char) :
    Reader.nextKey isFirst (space ++ '\x7d' :: rest) = .ok (none, '\x7d' :: rest) := by
  rw [Reader.nextKey, dropSpace_append h (Text.Stops_cons.mpr rfl)]
  rfl

/-- The key of a member is found behind space and perhaps a comma. -/
theorem nextKey_found {key : String} (hbefore : Blank before) (hspace : Blank space)
    (hname : Literal.Denotes name key.toList) (rest : List Char) :
    Reader.nextKey isFirst
        (before ++ (comma isFirst ++ (space ++ '"' :: (name ++ '"' :: rest)))) =
      .ok (some key, rest) := by
  have hquote : Stops isSpace ('"' :: (name ++ '"' :: rest)) := Text.Stops_cons.mpr rfl
  have hkey : Reader.nextKey.key ('"' :: (name ++ '"' :: rest)) = .ok (some key, rest) := by
    rw [Reader.nextKey.key, hname.scan [] rest]
    show Except.ok (some (String.ofList key.toList), rest) = _
    rw [String.ofList_toList]
  cases isFirst with
  | true =>
    show Reader.nextKey true (before ++ (space ++ _)) = _
    rw [← List.append_assoc, Reader.nextKey,
      dropSpace_append (blank_append hbefore hspace) hquote]
    exact hkey
  | false =>
    have hdrop : dropSpace (before ++ (comma false ++ (space ++ '"' :: (name ++ '"' :: rest)))) =
        ',' :: (space ++ '"' :: (name ++ '"' :: rest)) := dropSpace_append hbefore (stops_comma _)
    rw [Reader.nextKey, hdrop]
    dsimp only
    rw [if_neg (by decide), if_neg (by decide), if_pos rfl, dropSpace_append hspace hquote]
    exact hkey

/-- What is found as a key. -/
theorem nextKey_key_sound {found : Option String} (h : Reader.nextKey.key s = .ok (found, r)) :
    ∃ name key, found = some key ∧ s = '"' :: (name ++ '"' :: r) ∧
      Literal.Denotes name key.toList := by
  unfold Reader.nextKey.key at h
  split at h
  · next t =>
    cases hscan : Literal.scan .full .plain [] t with
    | error f => rw [hscan] at h; cases h
    | ok p =>
      rw [hscan] at h
      cases h
      obtain ⟨name, hs, hname⟩ := Literal.scan_full_iff.mp hscan
      exact ⟨name, String.ofList p.1, rfl, congrArg _ hs, by rwa [String.toList_ofList]⟩
  · cases h

/-- What the next member is found to be. -/
theorem nextKey_sound {found : Option String} (h : Reader.nextKey isFirst s = .ok (found, r)) :
    (∃ space rest, found = none ∧ s = space ++ '\x7d' :: rest ∧ r = '\x7d' :: rest ∧ Blank space) ∨
    (∃ before space name key, found = some key ∧
      s = before ++ (comma isFirst ++ (space ++ '"' :: (name ++ '"' :: r))) ∧ Blank before ∧
      Blank space ∧ Literal.Denotes name key.toList) := by
  obtain ⟨before, hs, hbefore, -⟩ := dropSpace_eq s
  unfold Reader.nextKey at h
  split at h
  · cases h
  · next c t hdrop =>
    rw [hdrop] at hs
    split at h
    · next hc =>
      cases h
      exact .inl ⟨before, t, rfl, hc ▸ hs, by rw [hc], hbefore⟩
    split at h
    · next hfirst =>
      obtain ⟨name, key, hfound, ht, hname⟩ := nextKey_key_sound h
      subst hfirst
      exact .inr ⟨before, [], name, key, hfound, by rw [hs, ht]; rfl, hbefore, blank_nil, hname⟩
    split at h
    · next hfirst hc =>
      obtain ⟨space, hspace, hblank, -⟩ := dropSpace_eq t
      have hlater : isFirst = false := Bool.eq_false_iff.mpr hfirst
      split at h
      · cases h
      · cases h
      · obtain ⟨name, key, hfound, ht, hname⟩ := nextKey_key_sound h
        subst hlater hc
        exact .inr ⟨before, space, name, key, hfound,
          by rw [hs, hspace, ht]; rfl, hbefore, hblank, hname⟩
    · cases h

/-- What members are read up to a closing brace come to follows from them. -/
theorem membersFrom_sound (hstep : ∀ key acc, ExactMember (step key acc) (effect key acc))
    (h : Reader.membersFrom step isFirst acc s = .ok (last, r)) :
    ∃ ms t rest, s = t ++ '\x7d' :: rest ∧ r = '\x7d' :: rest ∧ MembersOf isFirst ms t ∧
      Follows effect ms acc last := by
  fun_induction Reader.membersFrom step isFirst acc s with
  | case1 => cases h
  | case2 isFirst acc s u hk =>
    cases h
    obtain ⟨space, rest, -, hs, hr, hspace⟩ | ⟨_, _, _, _, hfound, -⟩ := nextKey_sound hk
    · exact ⟨[], space, rest, hs, hr, .nil hspace, .nil⟩
    · cases hfound
  | case3 => cases h
  | case4 isFirst acc s key u hk next v hr ih =>
    obtain ⟨_, _, hfound, -⟩ | ⟨before, space, name, key', hfound, hs, hbefore, hspace, hname⟩ :=
      nextKey_sound hk
    · cases hfound
    cases hfound
    obtain ⟨gap, behind, value, hu, hgap, hbehind, heffect⟩ := (hstep key acc).sound hr
    obtain ⟨ms, t, rest, hv, hrest, hms, hfollows⟩ := ih h
    refine ⟨(name, value) :: ms, _, rest, ?_, hrest,
      .cons hbefore hspace (.mk hname.body hgap) hbehind ((hstep key acc).formed heffect) hms,
      .cons hname heffect hfollows⟩
    simp [hs, hu, hv]

/-- The first of members is found, and behind it its value and the others. -/
theorem MembersOf.exists_nextKey {key : String} (h : MembersOf isFirst ((name, value) :: ms) s)
    (hname : Literal.Denotes name key.toList) (rest : List Char) :
    ∃ gap behind t, Blank gap ∧ Blank behind ∧ MembersOf false ms t ∧
      Reader.nextKey isFirst (s ++ '\x7d' :: rest) =
        .ok (some key, gap ++ ':' :: (behind ++ (value ++ (t ++ '\x7d' :: rest)))) := by
  cases h with
  | @cons _ before space _ _ behind _ t _ hbefore hspace hkey hbehind _ ht =>
    cases hkey with
    | @mk gap _ hgap =>
      have hfound : Reader.nextKey isFirst _ = _ := nextKey_found hbefore hspace hname
        (gap ++ ':' :: (behind ++ (value ++ (t ++ '\x7d' :: rest))))
      refine ⟨gap, behind, t, hgap, hbehind, ht, ?_⟩
      rw [← hfound]
      simp

/-- Members are read if there is something that they come to. -/
theorem membersFrom_complete (hstep : ∀ key acc, ExactMember (step key acc) (effect key acc))
    (h : MembersOf isFirst ms s) (hfollows : Follows effect ms acc last) (rest : List Char) :
    Reader.membersFrom step isFirst acc (s ++ '\x7d' :: rest) = .ok (last, '\x7d' :: rest) := by
  induction hfollows generalizing isFirst s with
  | nil =>
    cases h with
    | nil h => exact Reader.membersFrom_last (nextKey_closed h rest) _
  | cons hname heffect _ ih =>
    obtain ⟨gap, behind, t, hgap, hbehind, ht, hfound⟩ := h.exists_nextKey hname rest
    have hread := (hstep _ _).complete hgap hbehind heffect (ht.formed.delimited rest)
    rw [Reader.membersFrom_next hfound hread]
    exact ih ht

end

end LogGate.Json
