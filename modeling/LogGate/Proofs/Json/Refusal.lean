import LogGate.Proofs.Json.Fields

/-!
# What readers refuse

A reader that fails does so with a complaint (`FailsWith`), and the complaint goes unchanged through
everything around it: what is read before must be read well, and what comes behind is not looked at
any more. `Refuses` says of a value that a reader complains about it, and `RefusesMember` the same
of the value of a member. A member is refused behind members that are read (`membersFrom_refused`),
and an item behind the items before it (`ExactItem.refusesRow`). So a whole document is refused for
the one value that it spells (`Refuses.decode`), for the first value of a name among its members
(`HasMembers.refused`) or for one of its items (`RefusesRow.decode`). The text of the error then
contains the text of the complaint (`Error.complaint_infix_message`).
-/

namespace LogGate.Json

/-- A result is a complaint, wherever that is placed. -/
def FailsWith {α : Type} (result : Except Fault α) (c : Complaint) : Prop :=
  ∃ f, result = .error f ∧ f.complaint = c

/-- A reader complains about a value, whatever follows. -/
def Refuses {α : Type} (x : Reader α) (value : List Char) (c : Complaint) : Prop :=
  ∀ space rest, Blank space → Delimited rest → FailsWith (x.run (space ++ (value ++ rest))) c

/-- The same of a reader that reads a colon before the value. -/
def RefusesMember {α : Type} (x : Reader α) (value : List Char) (c : Complaint) : Prop :=
  ∀ space behind rest, Blank space → Blank behind → Delimited rest →
    FailsWith (x.run (space ++ ':' :: (behind ++ (value ++ rest)))) c

/-- A reader complains about certain items in a row, up to the end of a list. -/
def RefusesRow {α : Type} (isFirst : Bool) (x : Reader α) (vs : List (List Char)) (c : Complaint) :
    Prop :=
  ∀ s, ItemsOf isFirst vs s → ∀ rest, FailsWith (x.run (s ++ ']' :: rest)) c

/-- A reader complains about certain members up to the end of an object. -/
def RefusesMembers {α : Type} (x : Reader α) (ms : List (List Char × List Char)) (c : Complaint) :
    Prop :=
  ∀ s, MembersOf true ms s → ∀ rest, FailsWith (x.run (s ++ '\x7d' :: rest)) c

/-- The text of an error contains what is complained about. -/
theorem Error.complaint_infix_message (e : Error) :
    e.complaint.message.toList <:+: e.message.toList := by
  unfold Error.message
  cases e.position with
  | none => exact List.infix_rfl
  | some p =>
    dsimp only
    rw [String.append_assoc, String.append_assoc, String.append_assoc, String.toList_append]
    exact (List.prefix_append ..).isInfix

section
variable {α β ε σ : Type} {x : Reader α} {f : α → Reader β} {a : α} {c : Complaint} {b : Bracket}
variable {accepts : List Char → α → Prop} {expected document : String}
variable {s r rest value name : List Char} {vs : List (List Char)} {isFirst : Bool}
variable {ms : List (List Char × List Char)}

/-! ## Readers in a row -/

/-- What complains first is complained about. -/
theorem FailsWith.bind (h : FailsWith (x.run s) c) : FailsWith ((x >>= f).run s) c := by
  obtain ⟨fault, hx, hc⟩ := h
  refine ⟨fault, ?_, hc⟩
  simp only [Bind.bind, hx]

/-- What complains behind something that is read is complained about. -/
theorem failsWith_bind (hx : x.run s = .ok (a, r)) (h : FailsWith ((f a).run r) c) :
    FailsWith ((x >>= f).run s) c := by
  obtain ⟨fault, hf, hc⟩ := h
  refine ⟨fault, ?_, hc⟩
  simp only [Bind.bind, hx, hf]

/-- A value that is read, and of which nothing can be made, is refused for this reason. -/
theorem Exact.refuses_refineLate {reason : ε → String} {make : α → Except ε β} {e : ε}
    (h : Exact x accepts) (ha : accepts value a) (hmake : make a = .error e) :
    Refuses (Reader.refineLate reason make x) value (.refused (reason e)) := by
  intro space rest hspace hrest
  refine failsWith_bind (h.complete hspace ha hrest) ?_
  rw [hmake]
  exact ⟨_, rfl, rfl⟩

/-- A value that is refused is refused behind a colon, as the first one of its name. -/
theorem Refuses.once (h : Refuses x value c) (name : String) :
    RefusesMember (Reader.once name none x) value c := by
  intro space behind rest hspace hbehind hrest
  have hcolon : Reader.colon.run (space ++ ':' :: (behind ++ (value ++ rest))) =
      .ok ((), behind ++ (value ++ rest)) :=
    colon_eq_ok.mpr (dropSpace_append hspace (Text.Stops_cons.mpr rfl))
  exact failsWith_bind hcolon (h behind rest hbehind hrest).bind

/-- And it is refused before anything is made of it. -/
theorem RefusesMember.bind (h : RefusesMember x value c) : RefusesMember (x >>= f) value c :=
  fun space behind rest hspace hbehind hrest => (h space behind rest hspace hbehind hrest).bind

/-- A value is refused as the next item of a list. -/
theorem Refuses.item (h : Refuses x value c) {y : Bool → Reader α} (hmore : y true = x)
    (isFirst : Bool) (vs : List (List Char)) :
    RefusesRow isFirst (Reader.nextItem isFirst >>= y) (value :: vs) c := by
  intro s hitems rest
  cases hitems with
  | @cons _ before space _ s _ hbefore hspace hvalue hs =>
    obtain ⟨d, t, rfl, hd, hclose⟩ := hvalue.exists_cons
    have hfound : (Reader.nextItem isFirst).run _ = _ :=
      nextItem_found hbefore hspace hd (hclose .list) (t ++ (s ++ ']' :: rest))
    have hfails := h [] _ blank_nil (hs.formed.delimited rest)
    rw [← hmore] at hfails
    have hrun := failsWith_bind hfound hfails
    simpa using hrun

/-- And before anything is made of it. -/
theorem RefusesRow.bind (h : RefusesRow isFirst x vs c) : RefusesRow isFirst (x >>= f) vs c :=
  fun s hs rest => (h s hs rest).bind

/-- Items are refused behind an item that is read. -/
theorem ExactItem.refusesRow (h : ExactItem isFirst x accepts) (ha : accepts value a)
    (hrest : RefusesRow false (f a) vs c) : RefusesRow isFirst (x >>= f) (value :: vs) c := by
  intro s hitems rest
  cases hitems with
  | @cons _ before space _ s _ hbefore hspace _ hs =>
    have hdelimited : Delimited (s ++ ']' :: rest) := hs.formed.delimited rest
    have hrun := failsWith_bind (h.complete hbefore hspace ha hdelimited) (hrest s hs rest)
    simpa using hrun

/-! ## Members -/

section
variable {step : String → σ → Reader σ} {effect : String → σ → List Char → σ → Prop}
variable {acc mid : σ} {key : String} {before after : List (List Char × List Char)}

/-- A member is refused behind members that are read, whatever members come behind it. -/
theorem membersFrom_refused (hstep : ∀ key acc, ExactMember (step key acc) (effect key acc))
    (h : MembersOf isFirst (before ++ (name, value) :: after) s)
    (hbefore : Follows effect before acc mid) (hname : Literal.Denotes name key.toList)
    (hrefuses : RefusesMember (step key mid) value c) (rest : List Char) :
    FailsWith (Reader.membersFrom step isFirst acc (s ++ '\x7d' :: rest)) c := by
  induction hbefore generalizing isFirst s with
  | nil =>
    obtain ⟨gap, behind, t, hgap, hbehind, ht, hfound⟩ := h.exists_nextKey hname rest
    obtain ⟨fault, hrun, hc⟩ := hrefuses gap behind _ hgap hbehind (ht.formed.delimited rest)
    refine ⟨fault, ?_, hc⟩
    rw [Reader.membersFrom]
    split
    · next hk => cases hfound.symm.trans hk
    · next hk => cases hfound.symm.trans hk
    · next hk =>
      cases hfound.symm.trans hk
      split
      · next hr => exact congrArg _ (Except.error.inj (hr.symm.trans hrun))
      · next hr => cases hr.symm.trans hrun
  | cons hfirst heffect _ ih =>
    obtain ⟨gap, behind, t, hgap, hbehind, ht, hfound⟩ := h.exists_nextKey hfirst rest
    have hread := (hstep _ _).complete hgap hbehind heffect (ht.formed.delimited rest)
    rw [Reader.membersFrom_next hfound hread]
    exact ih ht hrefuses

end

/-- The members of an object are split where the value of a name is the first one. -/
theorem exists_split {name : String} {named : List (String × List Char)}
    (h : valuesOf name named = value :: vs) :
    ∃ before after, named = before ++ (name, value) :: after ∧ valuesOf name before = [] := by
  obtain ⟨⟨name', value'⟩, rest, hfilter, hvalue, -⟩ := List.map_eq_cons_iff.mp h
  obtain ⟨before, after, hnamed, hbefore, hname, -⟩ := List.filter_eq_cons_iff.mp hfilter
  obtain rfl : name' = name := of_decide_eq_true hname
  obtain rfl : value' = value := hvalue
  refine ⟨before, after, hnamed, ?_⟩
  rw [valuesOf, List.filter_eq_nil_iff.mpr hbefore, List.map_nil]

/-- What fills a field from all members fills it from the first ones, as far as they do. -/
theorem Fills.exists_front {name : String} {before after : List (String × List Char)}
    {field : Option α} (h : Fills accepts (valuesOf name (before ++ after)) none field) :
    ∃ mid, Fills accepts (valuesOf name before) none mid := by
  have happend : valuesOf name (before ++ after) = valuesOf name before ++ valuesOf name after := by
    simp [valuesOf]
  rw [happend] at h
  cases hvs : valuesOf name before with
  | nil => exact ⟨none, .kept⟩
  | cons value vs =>
    rw [hvs, List.cons_append] at h
    generalize hrest : vs ++ valuesOf name after = rest at h
    cases h with
    | given ha =>
      obtain ⟨rfl, -⟩ := List.append_eq_nil_iff.mp hrest
      exact ⟨_, .given ha⟩

/-- Then the members themselves are split in the same place. -/
theorem Named.exists_split {key : String} {before after : List (String × List Char)}
    (h : Named ms (before ++ (key, value) :: after)) :
    ∃ ms₁ name ms₂, ms = ms₁ ++ (name, value) :: ms₂ ∧ Named ms₁ before ∧
      Literal.Denotes name key.toList := by
  induction before generalizing ms with
  | nil =>
    cases h with
    | @cons m _ ms _ hm _ => exact ⟨[], m.1, ms, congrArg (· :: ms) (Prod.ext rfl hm.2), .nil, hm.1⟩
  | cons n before ih =>
    cases h with
    | @cons m _ ms _ hm hms =>
      obtain ⟨ms₁, name, ms₂, rfl, hbefore, hname⟩ := ih hms
      exact ⟨m :: ms₁, name, ms₂, rfl, .cons hm hbefore, hname⟩

/-! ## Brackets and documents -/

/-- Members are refused before anything is made of them. -/
theorem RefusesMembers.bind (h : RefusesMembers x ms c) : RefusesMembers (x >>= f) ms c :=
  fun s hs rest => (h s hs rest).bind

/-- A complaint keeps what it complains about when it leaves a bracket. -/
theorem FailsWith.enclosed (h : FailsWith (x.run s) c) :
    FailsWith ((Reader.enclosed b x).run s) c := by
  obtain ⟨fault, hx, hc⟩ := h
  refine ⟨Reader.settle b fault, ?_, ?_⟩
  · unfold Reader.enclosed
    dsimp only
    rw [hx]
  · unfold Reader.settle
    split
    · exact hc
    · exact hc

/-- An object is refused for the members in it. -/
theorem RefusesMembers.object (h : RefusesMembers x ms c) (hs : MembersOf true ms s)
    (list : Option (Reader α)) :
    Refuses (Reader.bracketed expected list (some x)) ('\x7b' :: (s ++ ['\x7d'])) c := by
  intro space rest hspace _
  have hdrop : dropSpace (space ++ ('\x7b' :: (s ++ ['\x7d']) ++ rest)) =
      '\x7b' :: (s ++ ['\x7d'] ++ rest) := dropSpace_append hspace (Text.Stops_cons.mpr rfl)
  rw [List.append_assoc] at hdrop
  unfold Reader.bracketed
  dsimp only
  rw [hdrop]
  cases list <;> exact (h s hs rest).enclosed

/-- A list is refused for the items in it. -/
theorem RefusesRow.list (h : RefusesRow true x vs c) (hs : ItemsOf true vs s)
    (object : Option (Reader α)) :
    Refuses (Reader.bracketed expected (some x) object) ('[' :: (s ++ [']'])) c := by
  intro space rest hspace _
  have hdrop : dropSpace (space ++ ('[' :: (s ++ [']']) ++ rest)) = '[' :: (s ++ [']'] ++ rest) :=
    dropSpace_append hspace (Text.Stops_cons.mpr rfl)
  rw [List.append_assoc] at hdrop
  unfold Reader.bracketed
  dsimp only
  rw [hdrop]
  exact (h s hs rest).enclosed

/-- A document is refused for the value that it spells. -/
theorem Refuses.decode (h : Refuses x value c) (hdocument : Spells document value) :
    ∃ e, x.decode document = .error e ∧ e.complaint = c := by
  obtain ⟨hbefore, -, hafter, hs⟩ := hdocument
  obtain ⟨fault, hrun, hc⟩ := h _ _ hbefore hafter.delimited
  rw [← hs] at hrun
  refine ⟨fault.locate document.toList, ?_, hc⟩
  unfold Reader.decode Reader.whole
  rw [hrun]

/-- A document that is an object is refused for the first value of a name, if the members before it
are read. -/
theorem HasMembers.refused {step : String → σ → Reader σ}
    {effect : String → σ → List Char → σ → Prop} {init : σ} {key : String}
    {named : List (String × List Char)} (h : HasMembers document named)
    (hstep : ∀ key acc, ExactMember (step key acc) (effect key acc))
    (hvalue : valuesOf key named = value :: vs)
    (hfront : ∀ before after, named = before ++ after → valuesOf key before = [] →
      ∃ mid, (∀ ms, Named ms before → Follows effect ms init mid) ∧
        RefusesMember (step key mid) value c)
    (f : σ → Reader α) (list : Option (Reader α)) :
    ∃ e, (Reader.bracketed expected list (some (Reader.members init step >>= f))).decode document =
      .error e ∧ e.complaint = c := by
  obtain ⟨ms, ⟨object, hspells, ⟨hms⟩⟩, hnamed⟩ := h
  obtain ⟨before, after, rfl, hempty⟩ := exists_split hvalue
  obtain ⟨ms₁, name, ms₂, rfl, hms₁, hname⟩ := hnamed.exists_split
  obtain ⟨mid, hbefore, hrefuses⟩ := hfront before _ rfl hempty
  have hmembers : RefusesMembers (Reader.members init step) (ms₁ ++ (name, value) :: ms₂) c :=
    fun s hs rest => membersFrom_refused hstep hs (hbefore ms₁ hms₁) hname hrefuses rest
  exact (hmembers.bind.object hms list).decode hspells

/-- A document that is a list is refused for its items. -/
theorem RefusesRow.decode (h : RefusesRow true x vs c) (hdocument : IsList document vs)
    (object : Option (Reader α)) :
    ∃ e, (Reader.bracketed expected (some x) object).decode document = .error e ∧
      e.complaint = c := by
  obtain ⟨value, hspells, ⟨hvs⟩⟩ := hdocument
  exact (h.list hvs object).decode hspells

end

end LogGate.Json
